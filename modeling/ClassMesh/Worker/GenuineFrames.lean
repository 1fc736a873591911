import ClassMesh.Worker.GroupMediaReceive

namespace ClassMesh

open Foundation

variable {S : Sframe}

inductive KeyInput
  | install (install : SensitivePresentationKeyInstall)
  | openAccessUnit (frame : ReceivedGroupMediaCiphertext)
  | clearIfMatches (clear : ServicePresentationKeyClear)
  | takeDecoderResync

inductive KeyReply
  | installed (result : Except WorkerGroupMediaKeyError PresentationKeyInstallBinding)
  | opened (result : Except WorkerGroupMediaKeyError AssembledFrame)
  | cleared (cleared : Bool)
  | decoderResync (pending : Bool)
deriving DecidableEq

abbrev KeyCall (S : Sframe) := Call (WorkerGroupMediaKeyState S) KeyInput KeyReply

def WorkerGroupMediaKeyState.step (state : WorkerGroupMediaKeyState S) :
    KeyInput → WorkerGroupMediaKeyState S × KeyReply
  | .install install => ((state.install install).1, .installed (state.install install).2)
  | .openAccessUnit frame => ((state.openAccessUnit frame).1, .opened (state.openAccessUnit frame).2)
  | .clearIfMatches clear => ((state.clearIfMatches clear).1, .cleared (state.clearIfMatches clear).2)
  | .takeDecoderResync => (state.takeDecoderResync.1, .decoderResync state.takeDecoderResync.2)

open WorkerGroupMediaKeyState (step)

/-- The successful install that a history leaves in force. -/
def KeyCall.installedAfter (current : Option SensitivePresentationKeyInstall) (call : KeyCall S) :
    Option SensitivePresentationKeyInstall :=
  match call.input, call.reply with
  | .install install, .installed (.ok _) => some install
  | .clearIfMatches _, .cleared true => none
  | _, _ => current

def installedBy (past : List (KeyCall S)) : Option SensitivePresentationKeyInstall :=
  past.foldl KeyCall.installedAfter none

def KeyCall.Installs (call : KeyCall S) (install : SensitivePresentationKeyInstall) : Prop :=
  call.input = .install install ∧ call.reply = .installed (.ok install.binding)

def KeyCall.Clears (call : KeyCall S) : Prop := call.reply = .cleared true

/-- The call hands out the frame that `sealing` sealed for `install`, with the metadata it was sealed with. -/
structure KeyCall.Returns (call : KeyCall S) (install : SensitivePresentationKeyInstall) (sealing : Sealing S)
    (frame : AssembledFrame) : Prop where
  reply : call.reply = .opened (.ok frame)
  ciphertext : ∃ received, call.input = .openAccessUnit received ∧ received.ciphertext = sealing.frame.data
  sealedFor : sealing.SealedFor install
  data : frame.data = sealing.plaintext
  streamId : frame.streamId = sealing.frame.binding.streamId
  frameId : frame.frameId = sealing.frame.binding.frameId
  timestampUs : frame.timestampUs = sealing.frame.binding.timestampUs
  keyframe : frame.keyframe = sealing.frame.binding.keyframe

/-- What every history of the Worker's key state keeps to. -/
structure GenuineHistory (sealings : List (Sealing S)) (past : List (KeyCall S)) : Prop where
  installed {earlier call later} : past = earlier ++ call :: later →
    call.before.binding = (installedBy earlier).map (·.binding)
  genuine {earlier call later frame} : past = earlier ++ call :: later → call.reply = .opened (.ok frame) →
    ∃ install, installedBy earlier = some install ∧ ∃ sealing ∈ sealings, KeyCall.Returns call install sealing frame
  once {earlier first between second later install install' sealing frame frame'} :
    past = earlier ++ first :: (between ++ second :: later) → sealing ∈ sealings →
    installedBy earlier = some install → KeyCall.Returns first install sealing frame →
    installedBy (earlier ++ first :: between) = some install' → KeyCall.Returns second install' sealing frame' →
    ∃ call ∈ between, ∃ newer, KeyCall.Installs call newer
  rotation {earlier first between second later install install'} :
    past = earlier ++ first :: (between ++ second :: later) →
    KeyCall.Installs first install → KeyCall.Installs second install' →
    (∀ call ∈ between, ¬KeyCall.Clears call) → install'.binding.Follows install.binding
  failed {call} : call ∈ past →
    ((∃ error, call.reply = .installed (.error error)) ∨ call.reply = .cleared false → call.after = call.before) ∧
    ((∃ error, call.reply = .opened (.error error)) →
      call.after.binding = call.before.binding ∧
        call.after.installed.map (fun key => (key.receiver.epoch, key.receiver.key)) =
          call.before.installed.map (fun key => (key.receiver.epoch, key.receiver.key)))

/-- Everything that one call can do to the installed key. -/
inductive KeyStep (before : WorkerGroupMediaKeyState S) :
    KeyInput → KeyReply → Option (InstalledWorkerGroupMediaKey S) → Prop
  | kept {input reply} : (∀ result, reply = .installed result → ∃ error, result = .error error) →
      reply ≠ .cleared true → (∀ result, reply = .opened result → ∃ error, result = .error error) →
      KeyStep before input reply before.installed
  | installed {install receiver} :
      (∀ binding, before.binding = some binding → install.binding.Follows binding) →
      InstalledWorkerGroupMediaKey.HeldFor install ⟨install.binding, receiver⟩ →
      KeyStep before (.install install) (.installed (.ok install.binding)) (some ⟨install.binding, receiver⟩)
  | cleared {clear} : KeyStep before (.clearIfMatches clear) (.cleared true) none
  | decrypted {key frame binding replay decrypted result} :
      before.installed = some key → frame.BoundAs key.binding binding →
      S.validatedDecrypt key.receiver.replay key.receiver.key frame.ciphertext binding.associatedData =
        (replay, decrypted) →
      (∀ unit, result = .ok unit → ∃ plaintext, decrypted = .ok plaintext ∧
        unit = ⟨frame.streamId, frame.frameId, frame.timestampUs, frame.keyframe, plaintext⟩) →
      KeyStep before (.openAccessUnit frame) (.opened result)
        (some { key with receiver := { key.receiver with replay := replay } })

section Steps

variable {before after : WorkerGroupMediaKeyState S} {input : KeyInput} {reply : KeyReply}
  {current : Option SensitivePresentationKeyInstall} {installed : Option (InstalledWorkerGroupMediaKey S)}
  {sealings : List (Sealing S)} {accepted : S.Replay → S.Counter → Prop} {install : SensitivePresentationKeyInstall}
  {sealing : Sealing S} {frame : AssembledFrame}

theorem keyStep_of_step (taken : Total step before input reply after) : KeyStep before input reply after.installed := by
  cases input with
  | install install =>
    cases taken
    rcases before.install_outcome install with ⟨_, failed⟩ | ⟨_, follows, derived, made⟩
    · rw [failed]
      exact .kept (fun result same => by cases same; exact ⟨_, rfl⟩) (by simp) (by simp)
    · rw [made]
      exact .installed follows (WorkerGroupMediaKeyState.deriveReceiver_ok derived).1
  | openAccessUnit frame =>
    have outcome := before.openAccessUnit_outcome frame
    cases taken
    revert outcome
    generalize before.openAccessUnit frame = opened
    obtain ⟨_, result⟩ := opened
    intro outcome
    cases outcome with
    | refused => exact .kept (by simp) (by simp) (fun result same => by cases same; exact ⟨_, rfl⟩)
    | decrypted atKey bound ran agrees => exact .decrypted atKey bound ran agrees
  | clearIfMatches clear =>
    cases taken
    rcases before.clearIfMatches_outcome clear with failed | made
    · rw [failed]
      exact .kept (by simp) (by simp) (by simp)
    · rw [made]
      exact .cleared
  | takeDecoderResync =>
    cases taken
    exact .kept (by simp) (by simp) (by simp)

/-- The key in the state is the one of the install in force. -/
theorem KeyStep.held (taken : KeyStep before input reply installed)
    (held : Option.Rel InstalledWorkerGroupMediaKey.HeldFor current before.installed) :
    Option.Rel InstalledWorkerGroupMediaKey.HeldFor (KeyCall.installedAfter current ⟨before, input, reply, after⟩)
      installed := by
  cases taken with
  | @kept input reply notInstalled notCleared =>
    have same : KeyCall.installedAfter current ⟨before, input, reply, after⟩ = current := by
      unfold KeyCall.installedAfter
      split
      · obtain ⟨_, failed⟩ := notInstalled _ (by assumption)
        cases failed
      · exact absurd (by assumption) notCleared
      · rfl
    rw [same]
    exact held
  | installed _ derived => exact .some derived
  | cleared => exact .none
  | @decrypted key frame binding replay decrypted result atKey =>
    rw [atKey] at held
    cases held with
    | some heldFor => exact .some ⟨heldFor.binding, heldFor.epoch, heldFor.derived⟩

/-- Whatever is opened was sealed under the key in force, and sealed with the metadata it came with. -/
theorem KeyStep.returns (ideal : IdealSframe S sealings accepted)
    (taken : KeyStep before input (.opened (.ok frame)) installed)
    (held : Option.Rel InstalledWorkerGroupMediaKey.HeldFor current before.installed) :
    ∃ install, current = some install ∧ ∃ sealing ∈ sealings,
      KeyCall.Returns ⟨before, input, .opened (.ok frame), after⟩ install sealing frame := by
  cases taken with
  | kept _ _ notOpened =>
    obtain ⟨_, failed⟩ := notOpened _ rfl
    cases failed
  | @decrypted key received binding replay decrypted _ atKey bound ran agrees =>
    rw [atKey] at held
    cases held with
    | @some install _ heldFor =>
      obtain ⟨_, rfl, rfl⟩ := agrees _ rfl
      obtain ⟨sealing, member, ⟨_, material⟩, data, sameBinding, text⟩ := ideal.opensOnlySealed heldFor.derived ran
      obtain rfl := GroupMediaFrameBinding.associatedData_injective sameBinding
      exact ⟨install, rfl, sealing, member, rfl, ⟨received, rfl, data.symm⟩, .of_boundAs heldFor material bound,
        text.symm, bound.streamId.symm, bound.frameId.symm, bound.timestampUs.symm, bound.keyframe.symm⟩

/-- Handing a sealed frame out uses its counter up. -/
theorem KeyStep.accepts (ideal : IdealSframe S sealings accepted) (taken : KeyStep before input reply installed)
    (held : Option.Rel InstalledWorkerGroupMediaKey.HeldFor (some install) before.installed)
    (member : sealing ∈ sealings) (returned : KeyCall.Returns ⟨before, input, reply, after⟩ install sealing frame) :
    (∃ key, before.installed = some key ∧ ¬accepted key.receiver.replay sealing.sender.counter) ∧
      ∀ key, installed = some key → accepted key.receiver.replay sealing.sender.counter := by
  obtain ⟨_, rfl, sameData⟩ := returned.ciphertext
  obtain rfl := returned.reply
  cases taken with
  | kept _ _ notOpened =>
    obtain ⟨_, failed⟩ := notOpened _ rfl
    cases failed
  | @decrypted key _ binding replay decrypted _ atKey bound ran agrees =>
    rw [atKey] at held
    cases held with
    | some heldFor =>
      obtain ⟨_, rfl, _⟩ := agrees _ rfl
      have sameEpoch : sealing.sender.epoch = key.receiver.epoch :=
        GroupMediaEpoch.ext_value (by rw [← sealing.spec.1, returned.sealedFor.epoch, heldFor.epoch])
      obtain ⟨fresh, used⟩ := ideal.acceptsOnce heldFor.derived ran member
        ⟨by rw [sameEpoch], returned.sealedFor.material⟩ sameData.symm
      refine ⟨⟨key, atKey, fresh⟩, fun other same => ?_⟩
      cases same
      exact used

theorem KeyStep.keeps_accepted (ideal : IdealSframe S sealings accepted) {counter : S.Counter}
    (taken : KeyStep before input reply installed)
    (notInstall : ∀ install, ¬KeyCall.Installs ⟨before, input, reply, after⟩ install)
    (used : ∀ key, before.installed = some key → accepted key.receiver.replay counter) :
    ∀ key, installed = some key → accepted key.receiver.replay counter := by
  cases taken with
  | kept => exact used
  | installed => exact absurd ⟨rfl, rfl⟩ (notInstall _)
  | cleared => simp
  | @decrypted key _ _ _ _ _ atKey _ ran =>
    intro other same
    cases same
    exact ideal.keepsAccepted ran (used key atKey)

theorem KeyStep.installs (taken : KeyStep before input reply installed)
    (made : KeyCall.Installs ⟨before, input, reply, after⟩ install) :
    (∀ binding, before.binding = some binding → install.binding.Follows binding) ∧
      installed.map (·.binding) = some install.binding := by
  obtain ⟨rfl, rfl⟩ := made
  cases taken with
  | kept notInstalled =>
    obtain ⟨_, failed⟩ := notInstalled _ rfl
    cases failed
  | installed follows => exact ⟨follows, rfl⟩

/-- Until it is cleared, a presentation is only ever rotated. -/
theorem KeyStep.follows {binding first : PresentationKeyInstallBinding} (taken : KeyStep before input reply installed)
    (notCleared : reply ≠ .cleared true) (inForce : before.binding = some binding)
    (since : binding = first ∨ binding.Follows first) :
    ∃ next, installed.map (·.binding) = some next ∧ (next = first ∨ next.Follows first) := by
  cases taken with
  | kept => exact ⟨binding, inForce, since⟩
  | @installed install receiver follows =>
    refine ⟨install.binding, rfl, .inr ?_⟩
    rcases since with rfl | follows'
    · exact follows _ inForce
    · exact (follows _ inForce).trans follows'
  | cleared => exact absurd rfl notCleared
  | decrypted atKey =>
    unfold WorkerGroupMediaKeyState.binding at inForce
    rw [atKey] at inForce
    exact ⟨binding, inForce, since⟩

end Steps

section Runs

variable {initial final : WorkerGroupMediaKeyState S} {past : List (KeyCall S)} {sealings : List (Sealing S)}
  {accepted : S.Replay → S.Counter → Prop} {installed : Option (InstalledWorkerGroupMediaKey S)}
  {before : WorkerGroupMediaKeyState S}

theorem binding_of_held {current : Option SensitivePresentationKeyInstall}
    (held : Option.Rel InstalledWorkerGroupMediaKey.HeldFor current installed) :
    installed.map (·.binding) = current.map (·.binding) := by
  cases held with
  | none => rfl
  | some heldFor => exact congrArg some heldFor.binding

theorem held_of_run (run : Run (Total step) {} past final) :
    Option.Rel InstalledWorkerGroupMediaKey.HeldFor (installedBy past) final.installed := by
  induction run with
  | start => exact .none
  | next _ taken ih =>
    unfold installedBy
    rw [List.foldl_append]
    exact (keyStep_of_step taken).held ih

theorem accepted_of_run (ideal : IdealSframe S sealings accepted) {counter : S.Counter}
    (run : Run (Total step) initial past final) (noInstall : ∀ call ∈ past, ∀ install, ¬KeyCall.Installs call install)
    (used : ∀ key, initial.installed = some key → accepted key.receiver.replay counter) :
    ∀ key, final.installed = some key → accepted key.receiver.replay counter := by
  induction run with
  | start => exact used
  | next _ taken ih =>
    have earlier := ih (forall_of_append noInstall)
    exact (keyStep_of_step taken).keeps_accepted ideal (noInstall _ List.mem_concat_self) earlier

theorem follows_of_run {first : PresentationKeyInstallBinding} (run : Run (Total step) initial past final)
    (noClear : ∀ call ∈ past, ¬KeyCall.Clears call) (inForce : initial.binding = some first) :
    ∃ next, final.binding = some next ∧ (next = first ∨ next.Follows first) := by
  induction run with
  | start => exact ⟨first, inForce, .inl rfl⟩
  | next _ taken ih =>
    obtain ⟨_, atBinding, since⟩ := ih (forall_of_append noClear)
    exact (keyStep_of_step taken).follows (noClear _ List.mem_concat_self) atBinding since

theorem failed_step {after : WorkerGroupMediaKeyState S} {input : KeyInput} {reply : KeyReply}
    (taken : Total step before input reply after)
    (failed : (∃ error, reply = .installed (.error error)) ∨ reply = .cleared false) : after = before := by
  cases input with
  | install install =>
    cases taken
    rcases before.install_outcome install with ⟨_, kept⟩ | ⟨_, _, _, made⟩
    · rw [kept]
    · rw [made] at failed
      simp at failed
  | openAccessUnit | takeDecoderResync =>
    cases taken
    simp at failed
  | clearIfMatches clear =>
    cases taken
    rcases before.clearIfMatches_outcome clear with kept | made
    · rw [kept]
    · rw [made] at failed
      simp at failed

theorem failed_open {input : KeyInput} {error : WorkerGroupMediaKeyError}
    (taken : KeyStep before input (.opened (.error error)) installed) :
    installed.map (·.binding) = before.binding ∧
      installed.map (fun key => (key.receiver.epoch, key.receiver.key)) =
        before.installed.map (fun key => (key.receiver.epoch, key.receiver.key)) := by
  cases taken with
  | kept => exact ⟨rfl, rfl⟩
  | decrypted atKey =>
    unfold WorkerGroupMediaKeyState.binding
    rw [atKey]
    exact ⟨rfl, rfl⟩

/-- Every frame the Worker opens is one the Teacher sealed, at most once for each key, under the
presentation, stream and epoch in force. -/
theorem genuine_history (ideal : IdealSframe S sealings accepted) (run : Run (Total step) {} past final) :
    GenuineHistory sealings past where
  installed := by
    intro earlier call later cut
    exact binding_of_held (held_of_run (run.split cut).1)
  genuine := by
    rintro earlier ⟨_, _, _, _⟩ later frame cut rfl
    obtain ⟨reached, taken, _⟩ := run.split cut
    exact (keyStep_of_step taken).returns ideal (held_of_run reached)
  once := by
    intro earlier first between second later install install' sealing frame frame' cut member inForce returned
      inForce' returned'
    by_contra noInstall
    push Not at noInstall
    obtain ⟨reached, taken, rest⟩ := run.split cut
    obtain ⟨middle, taken', _⟩ := rest.split rfl
    have cut' : past = (earlier ++ first :: between) ++ second :: later := by simpa using cut
    have reached' := (run.split cut').1
    have used := ((keyStep_of_step taken).accepts ideal (inForce ▸ held_of_run reached) member returned).2
    obtain ⟨⟨key, atKey, fresh⟩, _⟩ :=
      (keyStep_of_step taken').accepts ideal (inForce' ▸ held_of_run reached') member returned'
    exact fresh (accepted_of_run ideal middle noInstall used key atKey)
  rotation := by
    intro earlier first between second later install install' cut installs installs' noClear
    obtain ⟨_, taken, rest⟩ := run.split cut
    obtain ⟨middle, taken', _⟩ := rest.split rfl
    obtain ⟨_, inForce⟩ := (keyStep_of_step taken).installs installs
    obtain ⟨follows, _⟩ := (keyStep_of_step taken').installs installs'
    obtain ⟨_, atBinding, since⟩ := follows_of_run middle noClear inForce
    rcases since with rfl | since
    · exact follows _ atBinding
    · exact (follows _ atBinding).trans since
  failed := by
    intro call member
    obtain ⟨_, _, _, _, taken, _⟩ := run.of_mem member
    refine ⟨failed_step taken, ?_⟩
    rintro ⟨_, failed⟩
    have step := keyStep_of_step taken
    rw [failed] at step
    exact failed_open step

/-- A frame is opened once; its replay and a copy with another timestamp are not. -/
theorem genuine_history_one_frame : ∃ past final,
    Run (Total step) ({} : WorkerGroupMediaKeyState (ledgerSframe sampleLedger)) past final ∧
    past.map (·.reply) = [.installed (.ok ⟨1, 2, 55, 7, 3⟩), .opened (.error (.security (.crypto .other))),
      .opened (.ok ⟨7, 10, 1000, true, [1, 2]⟩), .opened (.error (.security (.replay .duplicate))),
      .installed (.error (.staleEpoch 3 3)), .cleared true] ∧
    GenuineHistory [sampleSealing] past := by
  have run := Run.of_calls step
    ({} : WorkerGroupMediaKeyState (ledgerSframe sampleLedger))
    [.install ⟨⟨1, 2, 55, 7, 3⟩, sampleMaterial⟩,
      .openAccessUnit ⟨7, 10, 1001, true, u64ToBe 0 ++ [1, 2]⟩,
      .openAccessUnit ⟨7, 10, 1000, true, u64ToBe 0 ++ [1, 2]⟩,
      .openAccessUnit ⟨7, 10, 1000, true, u64ToBe 0 ++ [1, 2]⟩,
      .install ⟨⟨1, 3, 55, 7, 3⟩, sampleMaterial⟩,
      .clearIfMatches ⟨1, 2, 55, 7, 3⟩]
  have ideal := (ledger_live [sampleSealing] sampleLedger_whole).toIdealSframe
  exact ⟨_, _, run, by decide +kernel, genuine_history ideal run⟩

end Runs

end ClassMesh
