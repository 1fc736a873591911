import ClassMesh.Control.KeyAgreement

namespace ClassMesh

open Std Foundation TeacherGroupMediaDeliveryManager DeliveryState

section Epochs

variable {S : Sframe} {sha256 : List UInt8 → Bytes32} {manager : TeacherGroupMediaDeliveryManager}
  {coordinator : GroupMediaCoordinator S} {authorization : AuthorizationStore} {nowUnixMs : UInt64}

theorem GroupMediaCoordinator.lastEpoch_issueKey (c : GroupMediaCoordinator S) (authorization : AuthorizationStore)
    (principal : PrincipalId) : (c.issueKey authorization principal).1.lastEpoch = c.lastEpoch := by
  unfold issueKey
  dsimp only
  repeat' split
  all_goals rfl

theorem GroupMediaCoordinator.lastEpoch_markInstalled (c : GroupMediaCoordinator S)
    (authorization : AuthorizationStore) (principal : PrincipalId) (epoch : GroupMediaEpoch) :
    (c.markInstalled authorization principal epoch).1.lastEpoch = c.lastEpoch := by
  unfold markInstalled
  dsimp only
  repeat' split
  all_goals rfl

theorem lastEpoch_sendKey (receiver : PrincipalId) (session : ClientControlSession)
    (request : PresentationKeyGrantRequest) (write : ChannelWrite) :
    (manager.sendKey sha256 receiver session coordinator authorization request nowUnixMs write).2.1.lastEpoch =
      coordinator.lastEpoch := by
  generalize made : manager.sendKey sha256 receiver session coordinator authorization request nowUnixMs write = outcome
  obtain ⟨_, moved, _⟩ := outcome
  rcases sendKey_coordinator made with rfl | ⟨principal, rfl⟩
  · rfl
  · exact coordinator.lastEpoch_issueKey authorization principal

theorem lastEpoch_accept (pending : PendingPresentationKeyAck) (guard : AuthenticatedControlGuard)
    (envelope : ControlEnvelope) :
    (pending.accept guard authorization coordinator envelope nowUnixMs).1.coordinator.lastEpoch =
      coordinator.lastEpoch := by
  have same := coordinator.lastEpoch_markInstalled authorization pending.principal pending.epoch
  unfold PendingPresentationKeyAck.accept
  generalize coordinator.markInstalled authorization pending.principal pending.epoch = marked at same ⊢
  obtain ⟨_, result⟩ := marked
  cases result
  all_goals
    dsimp only
    repeat' split
    all_goals first | rfl | exact same

theorem lastEpoch_acceptKeyAck (receiver : PrincipalId) (session : ClientControlSession) (envelope : ControlEnvelope)
    (guard : AuthenticatedControlGuard) :
    (manager.acceptKeyAck sha256 receiver session envelope guard authorization coordinator nowUnixMs).2.2.1.lastEpoch =
      coordinator.lastEpoch := by
  unfold acceptKeyAck
  split
  · rfl
  split
  · rfl
  split
  · rfl
  case h_2 pending _ =>
    have same : (pending.accept guard authorization coordinator envelope nowUnixMs).1.coordinator.lastEpoch = _ :=
      lastEpoch_accept pending guard envelope
    generalize pending.accept guard authorization coordinator envelope nowUnixMs = accepted at same ⊢
    obtain ⟨_, answer⟩ := accepted
    cases answer
    all_goals exact same

end Epochs

section Runs

variable {S : Sframe} {Guard : Type} [DecidableEq Guard] {sha256 : List UInt8 → Bytes32}
  {initial state after : DeliveryState S Guard} {past : List (DeliveryCall S Guard)} {input : DeliveryInput Guard}
  {reply : DeliveryReply} {receiver : PrincipalId} {epoch : GroupMediaEpoch} {request : PresentationKeyGrantRequest}
  {authorization : AuthorizationStore} {session : ClientControlSession} {nowUnixMs : UInt64}

/-- What a call does to the numbers of the epochs. -/
inductive EpochMove (call : DeliveryCall S Guard) : Prop
  | begun (next : GroupMediaEpoch) (begins : DeliveryCall.Begins call next)
      (active : call.after.coordinator.activeEpoch = some next)
      (last : call.after.coordinator.lastEpoch = next.value)
      (higher : next.value.toNat = call.before.coordinator.lastEpoch.toNat + 1)
  | kept (unbegun : ∀ next, ¬DeliveryCall.Begins call next)
      (active : call.after.coordinator.activeEpoch = none ∨
        call.after.coordinator.activeEpoch = call.before.coordinator.activeEpoch)
      (last : call.after.coordinator.lastEpoch = call.before.coordinator.lastEpoch)

theorem DeliveryState.step_epochMove (taken : state.step sha256 input = some (after, reply)) :
    EpochMove ⟨state, input, reply, after⟩ := by
  have quietly (unbegun : ∀ next, reply ≠ .coordinated (.begun (.ok next)))
      (last : after.coordinator.lastEpoch = state.coordinator.lastEpoch) : EpochMove ⟨state, input, reply, after⟩ := by
    refine .kept unbegun ?_ last
    cases active : after.coordinator.activeEpoch with
    | none => exact .inl rfl
    | some epoch =>
      rcases state.step_activeEpoch taken active with before | begins
      · exact .inr before.symm
      · exact absurd begins (unbegun epoch)
  cases input with
  | registerClientSession | removeReceiver | validateEnvelope =>
    cases taken
    exact quietly (by simp) rfl
  | sendKey target session authorization request nowUnixMs write =>
    cases taken
    exact quietly (by simp) (lastEpoch_sendKey target session request write)
  | acceptKeyAck target session envelope =>
    cases taken
    exact quietly (by simp) (lastEpoch_acceptKeyAck target session envelope _)
  | coordinate command =>
    rw [step] at taken
    split at taken
    · generalize stepped : state.coordinator.step command = outcome at taken
      obtain ⟨_, _⟩ := outcome
      cases taken
      cases GroupMediaCoordinator.step_effect stepped with
      | begun begins active last higher => exact .begun _ (by rw [DeliveryCall.Begins, begins]) active last higher
      | ended other _ last => exact quietly (by simpa using other) last
      | kept other _ last => exact quietly (by simpa using other) last
    · cases taken

theorem DeliveryState.step_sendKey_epochs {write : ChannelWrite}
    (taken : state.step sha256 (.sendKey receiver session authorization request nowUnixMs write) =
      some (after, reply)) :
    after.coordinator.activeEpoch = state.coordinator.activeEpoch ∧
      after.coordinator.lastEpoch = state.coordinator.lastEpoch := by
  cases taken
  exact ⟨(sendKey_quiet rfl).epoch, lastEpoch_sendKey receiver session request write⟩

theorem activeEpoch_le_last (fresh : initial.Fresh) (run : Run (Partial (step sha256)) initial past state)
    (active : state.coordinator.activeEpoch = some epoch) : epoch.value.toNat ≤ state.coordinator.lastEpoch.toNat := by
  induction run with
  | start => simp [GroupMediaCoordinator.activeEpoch, fresh.inactive] at active
  | @next _ current _ _ after _ taken ih =>
    cases current.step_epochMove taken with
    | begun next _ now last =>
      cases active.symm.trans now
      rw [last]
    | kept _ same last =>
      dsimp only at same last
      rcases same with none | same
      · cases active.symm.trans none
      · rw [last]
        exact ih (same.symm.trans active)

/-- The epoch in force stays the one it was until another one is begun, and is a higher one from then on. -/
theorem epoch_since (run : Run (Partial (step sha256)) initial past state)
    (active : initial.coordinator.activeEpoch = some epoch)
    (bounded : epoch.value.toNat ≤ initial.coordinator.lastEpoch.toNat) :
    epoch.value.toNat ≤ state.coordinator.lastEpoch.toNat ∧
      ((∀ call ∈ past, ∀ next, ¬DeliveryCall.Begins call next) ∧
          (∀ now, state.coordinator.activeEpoch = some now → now = epoch) ∨
        (∃ call ∈ past, ∃ next, DeliveryCall.Begins call next) ∧
          ∀ now, state.coordinator.activeEpoch = some now → epoch.value.toNat < now.value.toNat) := by
  induction run with
  | start =>
    refine ⟨bounded, .inl ⟨by simp, fun now same => ?_⟩⟩
    exact Option.some.inj (same.symm.trans active)
  | @next past current input reply after _ taken ih =>
    obtain ⟨level, since⟩ := ih
    cases current.step_epochMove taken with
    | begun next begins now last higher =>
      dsimp only at now last higher
      refine ⟨by rw [last]; omega, .inr ⟨⟨_, List.mem_concat_self, next, begins⟩, fun other same => ?_⟩⟩
      cases same.symm.trans now
      omega
    | kept unbegun same last =>
      dsimp only at same last
      have before {now : GroupMediaEpoch} (found : after.coordinator.activeEpoch = some now) :
          current.coordinator.activeEpoch = some now := by
        rcases same with none | same
        · cases found.symm.trans none
        · exact same.symm.trans found
      refine ⟨by rw [last]; exact level, ?_⟩
      rcases since with ⟨quiet, only⟩ | ⟨⟨call, member, next, begins⟩, above⟩
      · exact .inl ⟨forall_mem_concat quiet unbegun, fun now found => only now (before found)⟩
      · exact .inr ⟨⟨call, List.mem_append_left _ member, next, begins⟩, fun now found => above now (before found)⟩

/-- The last key sent to the receiver is unanswered, and an epoch has begun since it was sent. -/
def OvertakenByRotation (past : List (DeliveryCall S Guard)) (receiver : PrincipalId) : Prop :=
  ∃ earlier send later binding request epoch, past = earlier ++ send :: later ∧
    DeliveryCall.IssuesKey send receiver binding request epoch ∧
    (∀ call ∈ later, DeliveryCall.Leaves call receiver) ∧ ∃ begun ∈ later, ∃ next, DeliveryCall.Begins begun next

omit [DecidableEq Guard] in
/-- There is only one last key. -/
theorem lastKey_unique {earlier later earlier' later' : List (DeliveryCall S Guard)}
    {send send' : DeliveryCall S Guard} {binding binding' : Nat × UInt64 × ProtocolVersion}
    {request' : PresentationKeyGrantRequest} {epoch' : GroupMediaEpoch}
    (cut : earlier ++ send :: later = earlier' ++ send' :: later')
    (issues : DeliveryCall.IssuesKey send receiver binding request epoch)
    (issues' : DeliveryCall.IssuesKey send' receiver binding' request' epoch')
    (quiet : ∀ call ∈ later, DeliveryCall.Leaves call receiver)
    (quiet' : ∀ call ∈ later', DeliveryCall.Leaves call receiver) : later = later' := by
  rcases append_eq_append_cons cut with ⟨_, _, rfl⟩ | ⟨_, _, same⟩
  · exact absurd issues ((quiet' send (by simp)).noIssue _ _ _)
  · rcases cons_eq_append_cons same with ⟨_, _, same⟩ | ⟨_, _, rfl⟩
    · exact same
    · exact absurd issues' ((quiet send' (by simp)).noIssue _ _ _)

/-- The epoch of an outstanding grant against the epoch in force. -/
theorem outstanding_epoch (fresh : initial.Fresh) (run : Run (Partial (step sha256)) initial past state)
    {now : GroupMediaEpoch} (active : state.coordinator.activeEpoch = some now) {entry : ReceiverDeliverySession}
    {pending : PendingPresentationKeyAck} (found : state.manager.receivers[receiver]? = some entry)
    (held : entry.pendingAck = some pending) : pending.epoch = now ↔ ¬OvertakenByRotation past receiver := by
  obtain ⟨earlier, send, later, request, cut, issues, _, _, unanswered⟩ :=
    ((DeliveryHistory.of_run fresh run).pending receiver entry pending found held).sent
  obtain ⟨reached, taken, since⟩ := run.split cut
  have inForce : send.before.coordinator.activeEpoch = some pending.epoch := by
    cases send.before.step_entryEffect taken receiver with
    | kept leaves => exact absurd issues (leaves.noIssue _ _ _)
    | registered leaves => exact absurd issues (leaves.noIssue _ _ _)
    | issued issued _ _ _ active =>
      obtain ⟨_, _, _, _, _, _, answer⟩ := issued
      obtain ⟨_, _, _, _, _, _, answerToo⟩ := issues
      cases answer.symm.trans answerToo
      exact active
    | acked accepts =>
      obtain ⟨_, _, _, acked, _⟩ := accepts
      obtain ⟨_, _, _, _, sent, _⟩ := issues
      cases sent.symm.trans acked
    | removed removal =>
      obtain ⟨_, _, _, _, sent, _⟩ := issues
      cases sent.symm.trans removal
  have bounded := activeEpoch_le_last fresh reached inForce
  have stayed : send.after.coordinator.activeEpoch = some pending.epoch ∧
      send.after.coordinator.lastEpoch = send.before.coordinator.lastEpoch := by
    obtain ⟨_, _, _, _, sent, _⟩ := issues
    have made : send.before.step sha256 send.input = some (send.after, send.reply) := taken
    rw [sent] at made
    obtain ⟨sameEpoch, sameLast⟩ := step_sendKey_epochs made
    exact ⟨sameEpoch.trans inForce, sameLast⟩
  obtain ⟨_, epochs⟩ := epoch_since since stayed.1 (by rw [stayed.2]; exact bounded)
  constructor
  · rintro same ⟨_, _, _, _, _, _, cut', issues', quiet, begun⟩
    cases lastKey_unique (cut.symm.trans cut') issues issues' unanswered quiet
    rcases epochs with ⟨unbegun, _⟩ | ⟨_, above⟩
    · obtain ⟨call, member, next, begins⟩ := begun
      exact unbegun call member next begins
    · have higher := above now active
      rw [same] at higher
      exact Nat.lt_irrefl _ higher
  · intro current
    rcases epochs with ⟨_, only⟩ | ⟨begun, _⟩
    · exact (only now active).symm
    · exact absurd ⟨earlier, send, later, entry.binding, request, pending.epoch, cut, issues, unanswered, begun⟩ current

omit [DecidableEq Guard] in
/-- A key is refused for an outstanding one exactly if there is one. -/
theorem sendKey_pendingAckExists {manager : TeacherGroupMediaDeliveryManager} {coordinator : GroupMediaCoordinator S}
    {bound : BoundGroupMediaReceiverSession} (request : PresentationKeyGrantRequest) (write : ChannelWrite)
    (admitted : manager.boundClient sha256 receiver session authorization nowUnixMs = .ok bound) :
    (manager.sendKey sha256 receiver session coordinator authorization request nowUnixMs write).2.2 =
        .refused .pendingAckExists ↔ manager.hasPendingAck receiver = true := by
  unfold sendKey
  rw [admitted]
  dsimp only
  split
  · rename_i waiting
    simp [waiting]
  · rename_i free
    generalize bound.issueKeyGrant coordinator authorization request nowUnixMs = granted
    obtain ⟨_, outcome⟩ := granted
    cases outcome <;> simp [free]

/-- A rotated epoch can be delivered unless the rotation overtook an acknowledgement. In every state that the calls
reach, with an epoch in force, a key for a receiver that is admitted on its pinned session is refused only for an
outstanding grant of that epoch, if and only if no epoch has begun since the receiver's last unanswered key. -/
theorem rotated_epoch_delivered_iff (fresh : initial.Fresh)
    (run : Run (Partial (DeliveryState.step sha256)) initial past state)
    (active : state.coordinator.activeEpoch = some epoch) {session : ClientControlSession}
    {authorization : AuthorizationStore} {nowUnixMs : UInt64} {bound : BoundGroupMediaReceiverSession}
    (admitted : state.manager.boundClient sha256 receiver session authorization nowUnixMs = .ok bound)
    (request : PresentationKeyGrantRequest) (write : ChannelWrite) :
    ((state.manager.sendKey sha256 receiver session state.coordinator authorization request nowUnixMs write).2.2 =
        .refused .pendingAckExists →
      ∃ entry pending, state.manager.receivers[receiver]? = some entry ∧ entry.pendingAck = some pending ∧
        pending.epoch = epoch) ↔ ¬OvertakenByRotation past receiver := by
  rw [sendKey_pendingAckExists request write admitted]
  constructor
  · intro only overtaken
    obtain ⟨_, _, _, _, _, _, cut, issues, quiet, _⟩ := id overtaken
    obtain ⟨_, _, found, held⟩ := pending_of_unanswered run cut issues fun call member =>
      ⟨(quiet call member).noAck, (quiet call member).noRemoval⟩
    obtain ⟨_, _, foundToo, heldToo, same⟩ :=
      only (by simp [hasPendingAck, found, held])
    cases found.symm.trans foundToo
    cases held.symm.trans heldToo
    exact (outstanding_epoch fresh run active found held).mp same overtaken
  · intro current waiting
    unfold hasPendingAck at waiting
    cases found : state.manager.receivers[receiver]? with
    | none => simp [found] at waiting
    | some entry =>
      rw [found] at waiting
      obtain ⟨pending, held⟩ := Option.isSome_iff_exists.mp waiting
      exact ⟨entry, pending, rfl, held, (outstanding_epoch fresh run active found held).mpr current⟩

end Runs

/-- A key is sent, its acknowledgement never comes, and the next epoch begins. -/
def overtakenInputs : List (DeliveryInput Unit) :=
  [.coordinate (.registerReceiver sampleClassroom ⟨.replicate 3⟩), .coordinate (.beginEpoch (some (.replicate 6))),
    .registerClientSession sampleSession ⟨.replicate 3⟩ sampleClassroom 10,
    .sendKey ⟨.replicate 3⟩ sampleSession sampleClassroom ⟨7, 8, 5, 2⟩ 10 .sent,
    .coordinate (.beginEpoch (some (.replicate 9)))]

/-- The second epoch is in force and settled, the receiver is registered with manager and coordinator, authorized and
admitted on its session, and a key for it is refused for an outstanding grant of the first epoch. -/
def RefusedForFirstEpoch (state : DeliveryState (ledgerSframe []) Unit) : Prop :=
  state.coordinator.activeEpoch = some ⟨2, by decide⟩ ∧ state.coordinator.rotationRequired = false ∧
    state.coordinator.receivers.contains ⟨.replicate 3⟩ = true ∧
    sampleClassroom.authorize ⟨.replicate 3⟩ .receivePresentation = true ∧
    (state.manager.boundClient (fun _ => .replicate 3) ⟨.replicate 3⟩ sampleSession sampleClassroom 12).toBool = true ∧
    (state.manager.sendKey (fun _ => .replicate 3) ⟨.replicate 3⟩ sampleSession state.coordinator sampleClassroom
      ⟨7, 8, 6, 3⟩ 12 .sent).2.2 = .refused .pendingAckExists ∧
    (state.manager.receivers[(⟨.replicate 3⟩ : PrincipalId)]?.bind (·.pendingAck)).map (·.epoch) = some ⟨1, by decide⟩

instance : DecidablePred RefusedForFirstEpoch := fun state => by
  unfold RefusedForFirstEpoch
  infer_instance

theorem overtakenInputs_refused : (tryCalls (step fun _ => .replicate 3) sampleDelivery overtakenInputs).map
    (fun result => decide (RefusedForFirstEpoch result.2)) = some true := by
  decide +kernel

/-- The key of the first epoch stays unanswered, and the second epoch begins. -/
theorem rotated_epoch_delivered_iff_overtaken : ∃ past state,
    Run (Partial (DeliveryState.step fun _ => .replicate 3)) sampleDelivery past state ∧
      OvertakenByRotation past ⟨.replicate 3⟩ := by
  obtain ⟨past, state, run, _, holds⟩ := Run.of_traced overtakenInputs_refused
  obtain ⟨active, _, _, _, admitted, refused, outstanding⟩ := of_decide_eq_true holds
  refine ⟨past, state, run, ?_⟩
  by_contra current
  cases bind : state.manager.boundClient (fun _ => .replicate 3) ⟨.replicate 3⟩ sampleSession sampleClassroom 12 with
  | error =>
    rw [bind] at admitted
    cases admitted
  | ok =>
    obtain ⟨_, _, found, held, same⟩ :=
      (rotated_epoch_delivered_iff ⟨rfl, rfl, rfl⟩ run active bind ⟨7, 8, 6, 3⟩ .sent).mpr current refused
    simp only [found, held, Option.bind_some, Option.map_some, same] at outstanding
    cases outstanding

/-- With the acknowledgement lost, the key of the next epoch is refused for the grant of the first. -/
theorem lost_ack_blocks_rotated_key : ∃ past state,
    Run (Partial (DeliveryState.step fun _ => .replicate 3)) sampleDelivery past state ∧
      past.map (·.input) = overtakenInputs ∧ RefusedForFirstEpoch state := by
  obtain ⟨past, state, run, inputs, refused⟩ := Run.of_traced overtakenInputs_refused
  exact ⟨past, state, run, inputs, of_decide_eq_true refused⟩

end ClassMesh
