import ClassMesh.Network.BlockDelivery
import ClassMesh.Worker.GroupMediaReceive

namespace ClassMesh

open Std Foundation ProtectedMediaReceiveState ReceiverWindow ProtectedMediaReceiveOutcome WindowCall

variable {S : Sframe}

/-- The Worker's loop over one batch of received frames. -/
def WorkerGroupMediaKeyState.openAll (keys : WorkerGroupMediaKeyState S) :
    List ReceivedGroupMediaCiphertext →
      WorkerGroupMediaKeyState S × List (Except WorkerGroupMediaKeyError AssembledFrame)
  | [] => (keys, [])
  | frame :: rest =>
    let (keys, result) := keys.openAccessUnit frame
    let (keys, results) := keys.openAll rest
    (keys, result :: results)

/-- The receiver and the key state, with every assembled frame passed from one to the other. -/
structure Playback (S : Sframe) where
  receive : ProtectedMediaReceiveState
  keys : WorkerGroupMediaKeyState S

abbrev PlaybackReply := ProtectedMediaReceiveOutcome × List (Except WorkerGroupMediaKeyError AssembledFrame)

abbrev PlaybackCall (S : Sframe) := Call (Playback S) ReceiveInput PlaybackReply

def Playback.step (playback : Playback S) (input : ReceiveInput) : Option (Playback S × PlaybackReply) :=
  match playback.receive.step input with
  | none => none
  | some (receive, outcome) =>
    let (keys, results) := playback.keys.openAll outcome.frames
    some (⟨receive, keys⟩, (outcome, results))

/-- What the calls made of the frames that they assembled. -/
def openings (past : List (PlaybackCall S)) : List (Except WorkerGroupMediaKeyError AssembledFrame) :=
  past.flatMap (·.reply.2)

/-- The ciphertexts that a list of assembled frames gives. -/
def ciphertexts (frames : List AssembledFrame) : List ReceivedGroupMediaCiphertext :=
  (frames.filter (·.data.length ≤ maxGroupMediaSealedBytes)).map .fromAssembled

theorem ProtectedMediaReceiveBatch.foldl_add_frames (events : List ReceiverEvent) (batch : ProtectedMediaReceiveBatch) :
    (events.foldl add batch).frames = batch.frames ++ ciphertexts (events.filterMap readyFrame) := by
  induction events generalizing batch with
  | nil => simp [ciphertexts]
  | cons event rest ih =>
    rw [List.foldl_cons, ih]
    cases event with
    | frameReady frame =>
      by_cases short : frame.data.length ≤ maxGroupMediaSealedBytes
      · simp [add, short, readyFrame, ciphertexts]
      · simp [add, short, readyFrame, ciphertexts]
    | needNack streamId frameId missing =>
      have kept : (batch.add (.needNack streamId frameId missing)).frames = batch.frames := by
        unfold add
        dsimp only
        split <;> rfl
      rw [kept]
      rfl
    | needKeyframe | droppedStaleFrame => rfl

/-- The frames of an outcome are those that the window delivered, within the size limit. -/
theorem ProtectedMediaReceiveOutcome.frames_ofReply {window after : ReceiverWindow} {input : WindowInput}
    (reply : WindowReply) : (ofReply reply).frames = ciphertexts (ready ⟨window, input, reply, after⟩) := by
  cases reply with
  | ok events => exact ProtectedMediaReceiveBatch.foldl_add_frames events {}
  | error => rfl

section Keys

variable {sealings : List (Sealing S)} {accepted : S.Replay → S.Counter → Prop} {position : S.Counter → Nat}
  {install : SensitivePresentationKeyInstall} {keys : WorkerGroupMediaKeyState S} {seen : UInt64 → Prop}
  {sealing : Sealing S}

/-- The key of the install is in place, and has used up no counters but those of frames seen and counters behind
one of these. -/
def HoldsKey (sealings : List (Sealing S)) (accepted : S.Replay → S.Counter → Prop) (position : S.Counter → Nat)
    (install : SensitivePresentationKeyInstall) (seen : UInt64 → Prop) (keys : WorkerGroupMediaKeyState S) : Prop :=
  ∃ key, keys.installed = some key ∧ key.HeldFor install ∧
    ∀ counter, accepted key.receiver.replay counter → ∃ sealing ∈ sealings, sealing.SealedFor install ∧
      position counter ≤ position sealing.sender.counter ∧ seen sealing.frame.binding.frameId

theorem HoldsKey.mono {seen' : UInt64 → Prop} (holds : HoldsKey sealings accepted position install seen keys)
    (more : ∀ frameId, seen frameId → seen' frameId) : HoldsKey sealings accepted position install seen' keys := by
  obtain ⟨key, atKey, heldFor, used⟩ := holds
  refine ⟨key, atKey, heldFor, fun counter taken => ?_⟩
  obtain ⟨sealing, member, sealedFor, behind, old⟩ := used counter taken
  exact ⟨sealing, member, sealedFor, behind, more _ old⟩

theorem holdsKey_install (live : LiveSframe S sealings accepted position)
    (made : ({} : WorkerGroupMediaKeyState S).install install = (keys, .ok install.binding)) :
    HoldsKey sealings accepted position install seen keys := by
  rcases ({} : WorkerGroupMediaKeyState S).install_outcome install with ⟨_, failed⟩ | ⟨_, _, derived, done⟩
  · rw [failed] at made
    cases made
  · rw [done] at made
    cases made
    obtain ⟨heldFor, started⟩ := WorkerGroupMediaKeyState.deriveReceiver_ok derived
    exact ⟨_, rfl, heldFor, fun counter used => absurd used (live.startsEmpty started)⟩

/-- A frame that does not authenticate uses nothing up; one that does uses its own counter, and at most counters behind
that one with it. -/
theorem HoldsKey.opened (live : LiveSframe S sealings accepted position)
    (holds : HoldsKey sealings accepted position install seen keys) {frame : ReceivedGroupMediaCiphertext}
    {after : WorkerGroupMediaKeyState S} {result : Except WorkerGroupMediaKeyError AssembledFrame}
    (outcome : WorkerGroupMediaKeyState.OpenOutcome keys frame after result) (known : seen frame.frameId) :
    HoldsKey sealings accepted position install seen after := by
  obtain ⟨key, atKey, heldFor, used⟩ := holds
  cases outcome with
  | refused => exact ⟨key, atKey, heldFor, used⟩
  | @decrypted other binding replay decrypted stats _ atOther bound ran =>
    obtain rfl : key = other := Option.some.inj (atKey.symm.trans atOther)
    refine ⟨_, rfl, ⟨heldFor.binding, heldFor.epoch, heldFor.derived⟩, fun counter taken => ?_⟩
    rcases live.acceptsOnlyOpened heldFor.derived ran taken with old | ⟨sealing, member, under, _, sameBinding, passed⟩
    · exact used counter old
    · have atBinding := GroupMediaFrameBinding.associatedData_injective sameBinding
      have behind : position counter ≤ position sealing.sender.counter := by
        rcases passed with rfl | older
        · exact Nat.le_refl _
        · exact older.le
      rw [← atBinding] at bound
      exact ⟨sealing, member, .of_boundAs heldFor under.2 bound, behind, by rw [bound.frameId]; exact known⟩

theorem HoldsKey.openAll (live : LiveSframe S sealings accepted position) {frames : List ReceivedGroupMediaCiphertext}
    (holds : HoldsKey sealings accepted position install seen keys) (known : ∀ frame ∈ frames, seen frame.frameId) :
    HoldsKey sealings accepted position install seen (keys.openAll frames).1 := by
  induction frames generalizing keys with
  | nil => exact holds
  | cons frame rest ih =>
    have first := holds.opened live (keys.openAccessUnit_outcome frame) (known frame List.mem_cons_self)
    exact ih first fun other member => known other (List.mem_cons_of_mem _ member)

/-- The received frame of a sealed one, and what opening it should give. -/
def Sealing.received (sealing : Sealing S) : ReceivedGroupMediaCiphertext :=
  ⟨sealing.frame.binding.streamId, sealing.frame.binding.frameId, sealing.frame.binding.timestampUs,
    sealing.frame.binding.keyframe, sealing.frame.data⟩

def Sealing.accessUnit (sealing : Sealing S) : AssembledFrame :=
  ⟨sealing.frame.binding.streamId, sealing.frame.binding.frameId, sealing.frame.binding.timestampUs,
    sealing.frame.binding.keyframe, sealing.plaintext⟩

theorem openBoundFrame_sealed {receiver : GroupMediaReceiver S} {replay : S.Replay}
    (sameEpoch : sealing.frame.binding.epoch = receiver.epoch)
    (ran : S.validatedDecrypt receiver.replay receiver.key sealing.frame.data sealing.frame.binding.associatedData =
      (replay, .ok sealing.plaintext)) :
    receiver.openBoundFrame sealing.frame.data sealing.frame.binding =
      ({ receiver with replay := replay }, .ok sealing.plaintext) := by
  obtain ⟨_, shortText, shortData, _⟩ := sealing.spec
  have someData : validateAadLen sealing.frame.binding.associatedData.length = .ok () := by
    rw [GroupMediaFrameBinding.associatedData_length]
    rfl
  unfold GroupMediaReceiver.openBoundFrame GroupMediaReceiver.openFrame
  rw [if_neg (not_not.mpr sameEpoch), validateSealedLen_ok.mpr shortData, someData, ran]
  dsimp only
  rw [validatePlaintextLen_ok.mpr shortText]
  rfl

/-- A genuine frame opens while only earlier ones have been opened. -/
theorem HoldsKey.opens_sealed (live : LiveSframe S sealings accepted position) (member : sealing ∈ sealings)
    (sealedFor : sealing.SealedFor install)
    (inOrder : ∀ other ∈ sealings, other.SealedFor install →
      other.frame.binding.frameId < sealing.frame.binding.frameId →
      position other.sender.counter < position sealing.sender.counter)
    (holds : HoldsKey sealings accepted position install (· < sealing.frame.binding.frameId) keys) :
    (keys.openAccessUnit sealing.received).2 = .ok sealing.accessUnit := by
  obtain ⟨key, atKey, heldFor, used⟩ := holds
  have sameEpoch : sealing.frame.binding.epoch = key.receiver.epoch :=
    GroupMediaEpoch.ext_value (by rw [sealedFor.epoch, heldFor.epoch])
  have under : sealing.Under key.receiver.epoch.sframeKeyId install.keyMaterial :=
    ⟨by rw [← sameEpoch, sealing.spec.1], sealedFor.material⟩
  have newer : ∀ counter, accepted key.receiver.replay counter →
      position counter < position sealing.sender.counter := by
    intro counter taken
    obtain ⟨other, listed, otherFor, behind, older⟩ := used counter taken
    exact Nat.lt_of_le_of_lt behind (inOrder other listed otherFor older)
  obtain ⟨_, ran⟩ := live.opensNewer heldFor.derived member under newer
  have opened := openBoundFrame_sealed sameEpoch ran
  have epochMade : GroupMediaEpoch.new key.binding.epoch = .ok sealing.frame.binding.epoch :=
    GroupMediaEpoch.new_eq_ok.mpr (by rw [sealedFor.epoch, heldFor.binding])
  have bindingMade : GroupMediaFrameBinding.new key.binding.presentationId key.binding.streamId
      sealing.frame.binding.epoch sealing.frame.binding.frameId sealing.frame.binding.timestampUs
      sealing.frame.binding.keyframe = .ok sealing.frame.binding := by
    rw [heldFor.binding, ← sealedFor.presentationId, ← sealedFor.streamId]
    exact GroupMediaFrameBinding.new_self _
  have sameStream : ¬sealing.received.streamId ≠ key.binding.streamId := by
    rw [not_not, heldFor.binding]
    exact sealedFor.streamId
  have checked : (keys.openFrameChecked sealing.received).2 = .ok sealing.plaintext := by
    unfold WorkerGroupMediaKeyState.openFrameChecked
    rw [atKey]
    dsimp only
    rw [if_neg sameStream, epochMade]
    dsimp only [Sealing.received]
    rw [bindingMade]
    dsimp only
    rw [opened]
    rfl
  obtain ⟨_, counted⟩ := keys.openFrame_eq sealing.received
  unfold WorkerGroupMediaKeyState.openAccessUnit
  rw [counted]
  dsimp only
  rw [checked]
  rfl

end Keys

section Step

variable {playback after : Playback S} {input : ReceiveInput} {reply : PlaybackReply}

/-- A call leaves the window alone and assembles nothing, or is one call on the window. -/
theorem Playback.step_cases (taken : Partial Playback.step playback input reply after) :
    (∀ other, after.receive.windowInput other = playback.receive.windowInput other) ∧
      ((after.receive.receiver = playback.receive.receiver ∧ after.keys = playback.keys) ∨
        ∃ forward answer, playback.receive.windowInput input = some forward ∧
          Partial ReceiverWindow.step playback.receive.receiver forward answer after.receive.receiver ∧
          after.keys = (playback.keys.openAll (ciphertexts (ready
            ⟨playback.receive.receiver, forward, answer, after.receive.receiver⟩))).1) := by
  unfold Partial Playback.step at taken
  split at taken
  · cases taken
  case h_2 receive outcome received =>
    cases taken
    cases ProtectedMediaReceiveState.step_outcome received with
    | refused => exact ⟨fun _ => rfl, .inl ⟨rfl, rfl⟩⟩
    | @forwarded forward window answer stats reached done =>
      refine ⟨fun _ => rfl, .inr ⟨forward, answer, reached, done, ?_⟩⟩
      rw [← frames_ofReply]

theorem WorkerGroupMediaKeyState.openAll_append (keys : WorkerGroupMediaKeyState S)
    (first second : List ReceivedGroupMediaCiphertext) :
    keys.openAll (first ++ second) =
      (((keys.openAll first).1.openAll second).1,
       (keys.openAll first).2 ++ ((keys.openAll first).1.openAll second).2) := by
  induction first generalizing keys with
  | nil => rfl
  | cons frame rest ih =>
    simp only [List.cons_append, openAll]
    rw [ih]

theorem ciphertexts_append (first second : List AssembledFrame) :
    ciphertexts (first ++ second) = ciphertexts first ++ ciphertexts second := by
  simp [ciphertexts]

/-- The call on the window, once the source has been checked. -/
def ReceiveInput.forward : ReceiveInput → WindowInput
  | .pushPacket nowUs packet _ => .push nowUs packet
  | .tick nowUs => .tick nowUs

/-- Inputs that pass the checks act on the window alone, and whatever it delivers is opened. -/
theorem Playback.tryCalls_forward {inputs : List ReceiveInput} {calls : List WindowCall} {last : ReceiverWindow}
    (reaches : ∀ input ∈ inputs, playback.receive.windowInput input = some input.forward)
    (traced : tryCalls ReceiverWindow.step playback.receive.receiver (inputs.map (·.forward)) = some (calls, last)) :
    ∃ made final, tryCalls Playback.step playback inputs = some (made, final) ∧
      openings made = (playback.keys.openAll (ciphertexts (readyFrames calls))).2 := by
  induction inputs generalizing playback calls with
  | nil =>
    cases traced
    exact ⟨[], playback, rfl, rfl⟩
  | cons input rest ih =>
    rw [List.map_cons] at traced
    unfold tryCalls at traced
    split at traced
    · cases traced
    case h_2 window answer taken =>
      obtain ⟨⟨later, _⟩, more, same⟩ := Option.map_eq_some_iff.mp traced
      cases same
      obtain ⟨stats, done⟩ :=
        step_forwarded (reaches input List.mem_cons_self) taken
      have opened : (ofReply answer).frames =
          ciphertexts (ready ⟨playback.receive.receiver, input.forward, answer, window⟩) :=
        frames_ofReply answer
      have stepped : playback.step input =
          some (⟨{ playback.receive with receiver := window, stats := stats },
            (playback.keys.openAll (ofReply answer).frames).1⟩,
            (.ofReply answer, (playback.keys.openAll (ofReply answer).frames).2)) := by
        unfold Playback.step
        rw [done]
      have passing : ∀ other ∈ rest, windowInput
          { playback.receive with receiver := window, stats := stats } other = some other.forward :=
        fun other member => reaches other (List.mem_cons_of_mem _ member)
      obtain ⟨_, last, rested, results⟩ := @ih ⟨{ playback.receive with receiver := window, stats := stats },
        (playback.keys.openAll (ofReply answer).frames).1⟩ later passing more
      refine ⟨_, last, tryCalls_cons stepped rested, ?_⟩
      have ready : readyFrames (⟨playback.receive.receiver, input.forward, answer, window⟩ :: later) =
          ready ⟨playback.receive.receiver, input.forward, answer, window⟩ ++ readyFrames later :=
        List.flatMap_cons
      rw [openings, List.flatMap_cons, ← openings, results, opened, ready, ciphertexts_append,
        WorkerGroupMediaKeyState.openAll_append]

end Step

section Runs

variable {sealings : List (Sealing S)} {accepted : S.Replay → S.Counter → Prop} {position : S.Counter → Nat}
  {install : SensitivePresentationKeyInstall} {initial : ProtectedMediaReceiveState} {frameId : UInt64} {lastUs : Nat}
  {playback after : Playback S} {input : ReceiveInput} {reply : PlaybackReply} {past : List (PlaybackCall S)}
  {start final : Playback S}

/-- What no traffic can change, if packets of the frame `frameId` come no later than `lastUs`. -/
structure Playback.Steady (sealings : List (Sealing S)) (accepted : S.Replay → S.Counter → Prop)
    (position : S.Counter → Nat) (install : SensitivePresentationKeyInstall) (initial : ProtectedMediaReceiveState)
    (frameId : UInt64)
    (lastUs : Nat) (playback : Playback S) : Prop where
  sound : playback.receive.receiver.Sound
  policy : playback.receive.receiver.policy = initial.receiver.policy
  checks : ∀ input, playback.receive.windowInput input = initial.windowInput input
  aged : ∀ frame, playback.receive.receiver.inflight[frameId]? = some frame → frame.firstSeenUs ≤ lastUs
  key : HoldsKey sealings accepted position install (playback.receive.receiver.late · = true) playback.keys

/-- Any packet of the frame comes no later than `lastUs`. -/
def ReceiveInput.NotAfter (frameId : UInt64) (lastUs : Nat) : ReceiveInput → Prop
  | .pushPacket nowUs packet _ => packet.header.frameId = frameId → nowUs ≤ lastUs
  | .tick _ => True

theorem ReceiveInput.NotAfter.le {state : ProtectedMediaReceiveState} {nowUs : Nat} {packet : MediaPacket}
    (early : input.NotAfter frameId lastUs) (reached : state.windowInput input = some (.push nowUs packet))
    (own : packet.header.frameId = frameId) : nowUs ≤ lastUs := by
  cases input with
  | tick => cases reached
  | pushPacket time sent source =>
    cases refused : state.refusal sent source with
    | some => simp [windowInput, refused] at reached
    | none =>
      simp only [windowInput, refused, Option.some.injEq, WindowInput.push.injEq] at reached
      obtain ⟨rfl, rfl⟩ := reached
      exact early own

/-- No input of the allowed traffic changes what is steady. A forged frame that completes is given to the key state and
fails to open, which uses up no counter. -/
theorem Playback.Steady.step (live : LiveSframe S sealings accepted position)
    (steady : playback.Steady sealings accepted position install initial frameId lastUs) (valid : input.Valid)
    (early : input.NotAfter frameId lastUs) (taken : Partial Playback.step playback input reply after) :
    after.Steady sealings accepted position install initial frameId lastUs := by
  obtain ⟨sound, policy, checks, aged, key⟩ := steady
  obtain ⟨sameChecks, ⟨sameWindow, sameKeys⟩ | ⟨_, _, reached, done, opened⟩⟩ := Playback.step_cases taken
  · exact ⟨by rw [sameWindow]; exact sound, by rw [sameWindow]; exact policy,
      fun other => (sameChecks other).trans (checks other), by rw [sameWindow]; exact aged,
      by rw [sameWindow, sameKeys]; exact key⟩
  · have validForward := windowInput_valid valid reached
    refine ⟨sound.after_step validForward done, (sound.step_policy validForward done).trans policy,
      fun other => (sameChecks other).trans (checks other), ?_, ?_⟩
    · intro frame stored
      rcases sound.step_entry validForward done stored with ⟨previous, before, same⟩ | ⟨_, rfl, own⟩
      · exact same ▸ aged previous before
      · exact early.le reached own
    · rw [opened]
      refine (key.mono fun other late => sound.step_late validForward done late).openAll live ?_
      intro received member
      obtain ⟨_, ready, rfl⟩ := List.mem_map.mp member
      have delivered := (List.mem_filter.mp ready).1
      rcases sound.step_ready validForward done with ⟨nothing, _⟩ | ⟨one, atReady, _, cutOff⟩
      · rw [nothing] at delivered
        cases delivered
      · rw [atReady, List.mem_singleton] at delivered
        exact ReceiverWindow.late_iff.mpr ⟨one.frameId, cutOff, by rw [delivered]; exact UInt64.le_refl _⟩

theorem Playback.steady_of_run (live : LiveSframe S sealings accepted position)
    (steady : start.Steady sealings accepted position install initial frameId lastUs)
    (run : Run (Partial Playback.step) start past final) (valid : ∀ call ∈ past, call.input.Valid)
    (early : ∀ call ∈ past, call.input.NotAfter frameId lastUs) :
    final.Steady sealings accepted position install initial frameId lastUs := by
  induction run with
  | start => exact steady
  | next _ taken ih =>
    have before := ih (forall_of_append valid) (forall_of_append early)
    exact before.step live (valid _ List.mem_concat_self) (early _ List.mem_concat_self) taken

/-- The call completes the frame `frameId`, genuine or not: the cut-off moves there. -/
def PlaybackCall.Completes (call : PlaybackCall S) (frameId : UInt64) : Prop :=
  call.before.receive.receiver.latestCompleteFrame ≠ some frameId ∧
    call.after.receive.receiver.latestCompleteFrame = some frameId

theorem Playback.sound_of_run (sound : start.receive.receiver.Sound)
    (run : Run (Partial Playback.step) start past final) (valid : ∀ call ∈ past, call.input.Valid) :
    final.receive.receiver.Sound := by
  induction run with
  | start => exact sound
  | next _ taken ih =>
    have before := ih (forall_of_append valid)
    obtain ⟨_, ⟨same, _⟩ | ⟨_, _, reached, done, _⟩⟩ := Playback.step_cases taken
    · rw [same]
      exact before
    · exact before.after_step (windowInput_valid (valid _ List.mem_concat_self) reached) done

/-- A call keeps the cut-off, or completes a frame beyond it. -/
theorem Playback.step_cutOff (sound : playback.receive.receiver.Sound) (valid : input.Valid)
    (taken : Partial Playback.step playback input reply after) :
    after.receive.receiver.latestCompleteFrame = playback.receive.receiver.latestCompleteFrame ∨
      ∃ newest, after.receive.receiver.latestCompleteFrame = some newest ∧
        playback.receive.receiver.late newest = false := by
  obtain ⟨_, ⟨same, _⟩ | ⟨_, _, reached, done, _⟩⟩ := Playback.step_cases taken
  · exact .inl (by rw [same])
  · rcases sound.step_ready (windowInput_valid valid reached) done with
      ⟨_, kept⟩ | ⟨frame, _, current, cutOff⟩
    · exact .inl kept
    · exact .inr ⟨frame.frameId, cutOff, current⟩

/-- The cut-off is below a frame exactly if no frame has been completed at or beyond it. -/
theorem Playback.not_late_iff_completes (sound : start.receive.receiver.Sound)
    (unset : start.receive.receiver.latestCompleteFrame = none) (run : Run (Partial Playback.step) start past final)
    (valid : ∀ call ∈ past, call.input.Valid) (frameId : UInt64) :
    final.receive.receiver.late frameId = false ↔
      ∀ call ∈ past, ∀ other, PlaybackCall.Completes call other → other < frameId := by
  induction run with
  | start => simp [not_late_iff, unset]
  | @next past current input reply after previous taken ih =>
    have validPast : ∀ call ∈ past, call.input.Valid := forall_of_append valid
    have soundNow := Playback.sound_of_run sound previous validPast
    have earlier := ih validPast
    simp only [List.forall_mem_append, List.forall_mem_singleton, ← earlier]
    rcases Playback.step_cutOff soundNow (valid _ List.mem_concat_self) taken with same | ⟨newest, cutOff, beyond⟩
    · have completesNone : ∀ other, ¬PlaybackCall.Completes ⟨current, input, reply, after⟩ other :=
        fun other completes => completes.1 (same ▸ completes.2)
      have sameLate : after.receive.receiver.late frameId = current.receive.receiver.late frameId := by
        simp only [late, same]
      rw [sameLate]
      exact ⟨fun before => ⟨before, fun other completes => absurd completes (completesNone other)⟩, fun both => both.1⟩
    · constructor
      · intro ahead
        have below := not_late_iff.mp ahead newest cutOff
        refine ⟨not_late_iff.mpr fun latest atLatest => ?_, fun other completes => ?_⟩
        · exact UInt64.lt_trans (not_late_iff.mp beyond latest atLatest) below
        · exact Option.some.inj (completes.2.symm.trans cutOff) ▸ below
      · rintro ⟨_, all⟩
        have completes : PlaybackCall.Completes ⟨current, input, reply, after⟩ newest :=
          ⟨fun already => UInt64.lt_irrefl _ (not_late_iff.mp beyond newest already), cutOff⟩
        refine not_late_iff.mpr fun latest atLatest => ?_
        exact Option.some.inj (cutOff.symm.trans atLatest) ▸ all newest completes

end Runs

end ClassMesh
