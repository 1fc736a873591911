import ClassMesh.Control.CommittedContent

namespace ClassMesh

open Foundation FileTransferReceiver

variable {σ ε : Type*} {H : IncrementalDigest} {inbox : FileTransferInboxSink σ ε}

section Memory

variable {id other : List UInt8} {recent : List (List UInt8)} {count : Nat}

/-- The identifier is in the memory, and so many at most have come after it. -/
def Remembered (id : List UInt8) (count : Nat) (recent : List (List UInt8)) : Prop :=
  ∃ older newer, recent = older ++ id :: newer ∧ newer.length ≤ count

theorem rememberTerminal_length (bounded : recent.length ≤ recentTerminalTransferIds) :
    (rememberTerminal recent id).length ≤ recentTerminalTransferIds := by
  unfold rememberTerminal recentTerminalTransferIds at *
  split
  · rw [List.length_append, List.length_drop, List.length_singleton]
    omega
  · rw [List.length_append, List.length_singleton]
    omega

theorem Remembered.last (recent : List (List UInt8)) (id : List UInt8) : Remembered id 0 (rememberTerminal recent id) :=
  ⟨_, [], rfl, Nat.le_refl 0⟩

theorem Remembered.push (known : Remembered id count recent) (few : count + 1 < recentTerminalTransferIds)
    (other : List UInt8) : Remembered id (count + 1) (rememberTerminal recent other) := by
  obtain ⟨older, newer, rfl, _⟩ := known
  unfold rememberTerminal
  split
  · rename_i full
    -- A full memory forgets its oldest entry, and that is not this one.
    cases older with
    | nil =>
      rw [List.nil_append, List.length_cons] at full
      omega
    | cons first older =>
      refine ⟨older, newer ++ [other], by simp, ?_⟩
      rw [List.length_append, List.length_singleton]
      omega
  · refine ⟨older, newer ++ [other], by simp, ?_⟩
    rw [List.length_append, List.length_singleton]
    omega

theorem Remembered.mono {more : Nat} (known : Remembered id count recent) (le : count ≤ more) :
    Remembered id more recent := by
  obtain ⟨older, newer, same, length⟩ := known
  exact ⟨older, newer, same, length.trans le⟩

theorem Remembered.mem (known : Remembered id count recent) : id ∈ recent := by
  obtain ⟨_, _, rfl, _⟩ := known
  exact List.mem_append_right _ List.mem_cons_self

end Memory

section Endings

variable {receiver after : FileTransferReceiver σ H} {input : ReceiverInput}
  {reply : Except FileTransferReceiveError FileTransferStatus} {active : ActiveTransfer H}

/-- The call ends the transfer that was active, in whatever way. -/
def endsTransfer (call : ReceiverCall σ H) : Bool := call.before.active.isSome && call.after.active.isNone

/-- The transfer ends because the sink cannot complete it. -/
def CompletionFailed (input : ReceiverInput) (reply : Except FileTransferReceiveError FileTransferStatus) : Prop :=
  (∃ peer finish, input = .finish peer finish) ∧ reply = .error .sinkFailure

/-- Every way to end a transfer but one records its identifier. -/
inductive MemoryOutcome (receiver : FileTransferReceiver σ H) (input : ReceiverInput)
    (reply : Except FileTransferReceiveError FileTransferStatus) (after : FileTransferReceiver σ H) : Prop
  | remembered (active : ActiveTransfer H) : receiver.active = some active → after.active = none →
      ¬ CompletionFailed input reply →
      after.recentTerminalIds = rememberTerminal receiver.recentTerminalIds active.offer.transferId →
      MemoryOutcome receiver input reply after
  | forgotten (active : ActiveTransfer H) : receiver.active = some active → after.active = none →
      CompletionFailed input reply → after.recentTerminalIds = receiver.recentTerminalIds →
      (∃ finish, input = .finish active.peer finish) → MemoryOutcome receiver input reply after
  | kept : (receiver.active = none ∨ after.active ≠ none) →
      after.recentTerminalIds = receiver.recentTerminalIds → MemoryOutcome receiver input reply after

theorem memory_outcome (taken : Total (step inbox) receiver input reply after) :
    MemoryOutcome receiver input reply after := by
  have outcome := step_receives inbox receiver input
  rw [taken] at outcome
  cases outcome with
  | rejected =>
    refine .kept ?_ rfl
    cases receiver.active with
    | none => exact .inl rfl
    | some => exact .inr (by simp)
  | repeated current => exact .kept (.inr (by simp [current])) rfl
  | refused _ idle => exact .kept (.inl idle) rfl
  | accepted _ idle => exact .kept (.inl idle) rfl
  | appended => exact .kept (.inr (by simp)) rfl
  | appendFailed current => exact .remembered _ current rfl (by rintro ⟨⟨_, _, other⟩, _⟩; cases other) rfl
  | mismatched current => exact .remembered _ current rfl (by rintro ⟨_, other⟩; cases other) rfl
  | completed current => exact .remembered _ current rfl (by rintro ⟨_, other⟩; cases other) rfl
  | cancelled current => exact .remembered _ current rfl (by rintro ⟨⟨_, _, other⟩, _⟩; cases other) rfl
  | uncommitted current => exact .forgotten _ current rfl ⟨⟨_, _, rfl⟩, rfl⟩ rfl ⟨_, rfl⟩

theorem checked_of_offer_ok {peer : FileTransferPeer} {offer : FileTransferOffer} {answer : FileTransferStatus}
    (taken : receiver.offer inbox peer offer = (after, .ok answer)) :
    checkRequest peer (validateOffer offer) = .ok () := by
  unfold FileTransferReceiver.offer at taken
  split at taken
  · cases taken
  · assumption

/-- A transfer is opened by a valid offer whose identifier is not in the memory. -/
theorem offer_opens (taken : Total (step inbox) receiver input reply after) (idle : receiver.active = none)
    (opened : after.active = some active) :
    checkRequest active.peer (validateOffer active.offer) = .ok () ∧
      active.offer.transferId ∉ after.recentTerminalIds := by
  have outcome := step_receives inbox receiver input
  rw [taken] at outcome
  cases outcome with
  | rejected | refused => cases idle.symm.trans opened
  | accepted _ _ fresh =>
    cases opened
    exact ⟨checked_of_offer_ok taken, fresh⟩
  | repeated current | appendFailed current | appended current | mismatched current | uncommitted current
  | completed current | cancelled current => cases idle.symm.trans current

/-- A transfer that goes on is still that of its offer. -/
theorem offer_kept {active' : ActiveTransfer H} (taken : Total (step inbox) receiver input reply after)
    (current : receiver.active = some active) (still : after.active = some active') :
    active'.peer = active.peer ∧ active'.offer = active.offer ∧
      after.recentTerminalIds = receiver.recentTerminalIds := by
  have outcome := step_receives inbox receiver input
  rw [taken] at outcome
  cases outcome with
  | rejected | repeated =>
    cases current.symm.trans still
    exact ⟨rfl, rfl, rfl⟩
  | refused _ idle | accepted _ idle => cases idle.symm.trans current
  | appended known =>
    cases current.symm.trans known
    cases still
    exact ⟨rfl, rfl, rfl⟩
  | appendFailed | mismatched | uncommitted | completed | cancelled => cases still

/-- The memory never exceeds its bound, and the transfer under way was offered validly and is not in it. -/
structure SoundMemory (receiver : FileTransferReceiver σ H) : Prop where
  bounded : receiver.recentTerminalIds.length ≤ recentTerminalTransferIds
  current : ∀ active, receiver.active = some active →
    checkRequest active.peer (validateOffer active.offer) = .ok () ∧
      active.offer.transferId ∉ receiver.recentTerminalIds

theorem SoundMemory.step (sound : SoundMemory receiver) (taken : Total (step inbox) receiver input reply after) :
    SoundMemory after := by
  constructor
  · cases memory_outcome taken with
    | remembered active _ _ _ same =>
      rw [same]
      exact rememberTerminal_length sound.bounded
    | forgotten active _ _ _ same =>
      rw [same]
      exact sound.bounded
    | kept _ same =>
      rw [same]
      exact sound.bounded
  · intro active still
    cases before : receiver.active with
    | none => exact offer_opens taken before still
    | some old =>
      obtain ⟨samePeer, sameOffer, sameMemory⟩ := offer_kept taken before still
      rw [samePeer, sameOffer, sameMemory]
      exact sound.current old before

theorem SoundMemory.of_run {initial : σ}
    {past : List (Call (FileTransferReceiver σ H) ReceiverInput (Except FileTransferReceiveError FileTransferStatus))}
    (run : Run (Total (FileTransferReceiver.step inbox)) (.new initial) past receiver) : SoundMemory receiver :=
  run.invariant ⟨Nat.zero_le _, nofun⟩ fun _ _ _ _ sound taken => sound.step taken

end Endings

section Refusals

variable {receiver final : FileTransferReceiver (σ × List SinkCall) H} {id : List UInt8}
  {later : List (ReceiverCall σ H)}

/-- While few further transfers have ended, the identifier stays in the memory. -/
theorem remembered_of_run {count : Nat} (run : Run (Total (step inbox.recorded)) receiver later final)
    (known : Remembered id count receiver.recentTerminalIds)
    (few : count + later.countP endsTransfer < recentTerminalTransferIds) :
    Remembered id (count + later.countP endsTransfer) final.recentTerminalIds := by
  induction run with
  | start => exact known
  | @next past current input reply after _ taken ih =>
    rw [List.countP_append, List.countP_singleton] at few ⊢
    have before := ih (by omega)
    cases memory_outcome taken with
    | remembered active found none _ same =>
      have ends : endsTransfer (⟨current, input, reply, after⟩ : ReceiverCall σ H) = true := by
        simp [endsTransfer, found, none]
      rw [if_pos ends] at few ⊢
      rw [same]
      exact before.push few _
    | forgotten active _ _ _ same =>
      rw [same]
      exact before.mono (by omega)
    | kept _ same =>
      rw [same]
      exact before.mono (by omega)

/-- What happens to an offer that reuses the identifier of a transfer that has ended: it is refused before the sink
hears of it, and if nothing else is wrong with it, for that reason. -/
structure RefusesReuse (id : List UInt8) (later : List (ReceiverCall σ H)) : Prop where
  refused : ∀ between attempt rest peer offer, later = between ++ attempt :: rest →
    between.countP endsTransfer < 16 → attempt.before.active = none → attempt.input = .offer peer offer →
    offer.transferId = id →
    sinkCalls attempt = [] ∧ attempt.after = attempt.before ∧
      ∃ error, attempt.reply = .error error ∧
        (checkRequest peer (validateOffer offer) = .ok () → error = .recentlyFinalized)

theorem offer_of_recent (peer : FileTransferPeer) {offer : FileTransferOffer} (idle : receiver.active = none)
    (recent : offer.transferId ∈ receiver.recentTerminalIds) :
    ∃ error, receiver.offer inbox.recorded peer offer = (receiver, .error error) ∧
      (checkRequest peer (validateOffer offer) = .ok () → error = .recentlyFinalized) := by
  unfold FileTransferReceiver.offer
  cases checked : checkRequest peer (validateOffer offer) with
  | error error => exact ⟨error, rfl, nofun⟩
  | ok =>
    refine ⟨.recentlyFinalized, ?_, fun _ => rfl⟩
    simp only [idle]
    exact if_pos recent

theorem refusesReuse_of_remembered (run : Run (Total (step inbox.recorded)) receiver later final)
    (known : Remembered id 0 receiver.recentTerminalIds) : RefusesReuse id later := by
  constructor
  rintro between ⟨before, _, reply, after⟩ rest peer offer rfl few idle rfl rfl
  obtain ⟨reached, taken, _⟩ := run.split rfl
  have still := remembered_of_run reached known (by simpa [recentTerminalTransferIds] using few)
  obtain ⟨error, refused, reason⟩ := offer_of_recent peer idle still.mem
  have same : before.offer inbox.recorded peer offer = (after, reply) := taken
  obtain ⟨sameState, sameReply⟩ := Prod.ext_iff.mp (refused.symm.trans same)
  have unchanged : after = before := sameState.symm
  subst unchanged
  exact ⟨by rw [sinkCalls, List.drop_length], rfl, error, sameReply.symm, reason⟩

/-- A transfer that the sink could not complete can be offered again at once, as it was. -/
theorem reopens_of_forgotten {active : ActiveTransfer H} (idle : receiver.active = none)
    (valid : checkRequest active.peer (validateOffer active.offer) = .ok ())
    (fresh : active.offer.transferId ∉ receiver.recentTerminalIds) :
    (receiver.offer inbox.recorded active.peer active.offer).2 ≠ .error .recentlyFinalized := by
  unfold offer
  simp only [valid, idle, validatedId, if_neg fresh]
  split
  · simp
  · simp

end Refusals

/-- The identifier of a transfer that has ended is refused, until sixteen others have ended, exactly if the transfer did
not end with the sink's failure to complete it. -/
theorem reuse_refused_iff {initial : σ} {earlier : List (ReceiverCall σ H)} {ending : ReceiverCall σ H}
    {receiver : FileTransferReceiver (σ × List SinkCall) H} {active : ActiveTransfer H}
    (run : Run (Total (FileTransferReceiver.step inbox.recorded)) (.new (initial, [])) (earlier ++ [ending]) receiver)
    (current : ending.before.active = some active) (ended : ending.after.active = none) :
    (∀ later final, Run (Total (FileTransferReceiver.step inbox.recorded)) receiver later final →
        RefusesReuse active.offer.transferId later) ↔
      ¬ CompletionFailed ending.input ending.reply := by
  obtain ⟨reached, taken, rfl⟩ := run.of_concat
  have sound := SoundMemory.of_run reached
  constructor
  · intro refuses failed
    cases memory_outcome taken with
    | remembered _ _ _ unfailed => exact unfailed failed
    | forgotten same found idle _ memory =>
      obtain ⟨valid, fresh⟩ := sound.current active current
      rw [← memory] at fresh
      have again := Run.of_calls (FileTransferReceiver.step inbox.recorded) ending.after
        [.offer active.peer active.offer]
      obtain ⟨_, _, _, refused, reason⟩ := (refuses _ _ again).refused [] _ [] active.peer active.offer rfl
        (by simp) idle rfl rfl
      rw [reason valid] at refused
      exact reopens_of_forgotten idle valid fresh refused
    | kept unended =>
      rcases unended with idle | still
      · cases idle.symm.trans current
      · exact still ended
  · intro unfailed later final rest
    cases memory_outcome taken with
    | remembered same found _ _ memory =>
      cases current.symm.trans found
      refine refusesReuse_of_remembered rest ?_
      rw [memory]
      exact Remembered.last _ _
    | forgotten _ _ _ failed => exact absurd failed unfailed
    | kept unended =>
      rcases unended with idle | still
      · cases idle.symm.trans current
      · exact absurd ended still

/-- An inbox that can complete nothing. -/
def neverCompletes : FileTransferInboxSink Unit Unit where
  begin s _ _ _ := (s, .ok ())
  append s _ _ _ := (s, .ok ())
  complete s _ := (s, .error ())
  abort s _ := s

def wholeTransfer : List ReceiverInput :=
  [.offer sampleSender (sampleOffer 1), .chunk sampleSender ⟨(sampleOffer 1).transferId, 0, [1, 2, 3]⟩,
    .finish sampleSender ⟨(sampleOffer 1).transferId⟩]

/-- The transfer ends with the failure of `complete`, and the same offer opens it again. -/
theorem uncompleted_transfer_accepted_again :
    let start : FileTransferReceiver (Unit × List SinkCall) leadingBytes := .new ((), [])
    let made := calls (FileTransferReceiver.step neverCompletes.recorded) start
      (wholeTransfer ++ [.offer sampleSender (sampleOffer 1)])
    made.map endsTransfer = [false, false, true, false] ∧
      made.map (fun call => call.reply.toOption.map (·.state)) = [some 1, some 2, none, some 1] ∧
      made.map sinkCalls =
        [[.begin (sampleOffer 1).transferId "lesson.pdf" 3 true],
          [.append (sampleOffer 1).transferId 0 [1, 2, 3] true],
          [.complete (sampleOffer 1).transferId false, .abort (sampleOffer 1).transferId],
          [.begin (sampleOffer 1).transferId "lesson.pdf" 3 true]] := by
  decide +kernel

/-- An inbox that accepts everything: the transfer ends with its completion, and is refused from then on. -/
def acceptsAll : FileTransferInboxSink Unit Unit where
  begin s _ _ _ := (s, .ok ())
  append s _ _ _ := (s, .ok ())
  complete s _ := (s, .ok ())
  abort s _ := s

theorem reuse_refused_after_completion :
    let step := FileTransferReceiver.step (H := leadingBytes) acceptsAll.recorded
    let start : FileTransferReceiver (Unit × List SinkCall) leadingBytes := .new ((), [])
    ∀ later final, Run (Total step) (runOn step start wholeTransfer) later final →
      RefusesReuse (sampleOffer 1).transferId later := by
  intro step start
  have run : Run (Total step) start (calls step start wholeTransfer) (runOn step start wholeTransfer) :=
    Run.of_calls step start wholeTransfer
  have shape : calls step start wholeTransfer =
      calls step start (wholeTransfer.take 2) ++ [⟨runOn step start (wholeTransfer.take 2),
        .finish sampleSender ⟨(sampleOffer 1).transferId⟩, _, _⟩] :=
    calls_concat step start (wholeTransfer.take 2) (.finish sampleSender ⟨(sampleOffer 1).transferId⟩)
  rw [shape] at run
  exact (reuse_refused_iff run
    (show _ = some (⟨sampleSender, sampleOffer 1, 3, [1, 2, 3]⟩ : ActiveTransfer leadingBytes) from rfl) rfl).mpr
    (by rintro ⟨_, failed⟩; cases failed)

end ClassMesh
