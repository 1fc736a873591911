import ClassMesh.Control.KeyDelivery
import ClassMesh.Security.InstallStates

namespace ClassMesh

open Std Foundation TeacherGroupMediaDeliveryManager BoundGroupMediaReceiverSession

namespace GroupMediaCoordinator

variable {S : Sframe} {c after : GroupMediaCoordinator S} {receiver principal : PrincipalId} {epoch : GroupMediaEpoch}
  {authorization : AuthorizationStore}

theorem StateOrigin.installed_before {input : CoordinatorInput} {reply : CoordinatorReply}
    (origin : StateOrigin c after input reply receiver (.installed epoch)) :
    c.receivers[receiver]? = some (.installed epoch) ∨
      ∃ authorization, input = .markInstalled authorization receiver epoch ∧ reply = .marked (.ok ()) := by
  cases origin with
  | kept before => exact .inl before
  | installed asked marked => exact .inr ⟨_, asked, marked⟩

/-- Only a successful `mark_installed` makes a receiver installed, and only in the epoch in force. -/
theorem markInstalled_installed {marked : GroupMediaEpoch} {result : Except GroupMediaCoordinatorError Unit}
    (run : c.markInstalled authorization principal marked = (after, result))
    (installed : after.receivers[receiver]? = some (.installed epoch)) :
    c.receivers[receiver]? = some (.installed epoch) ∨ (receiver = principal ∧ epoch = marked ∧ result = .ok ()) := by
  rcases (markInstalled_origin run installed).installed_before with kept | ⟨_, asked, answered⟩
  · exact .inl kept
  · cases asked
    cases answered
    exact .inr ⟨rfl, rfl, rfl⟩

/-- The install states of receivers that stay, and the epoch in force, are as before. -/
structure Quiet (c after : GroupMediaCoordinator S) : Prop where
  epoch : after.activeEpoch = c.activeEpoch
  installed : ∀ (receiver : PrincipalId) (epoch : GroupMediaEpoch),
    after.receivers[receiver]? = some (.installed epoch) →
      c.receivers[receiver]? = some (.installed epoch)

theorem Quiet.refl (c : GroupMediaCoordinator S) : c.Quiet c :=
  ⟨rfl, fun _ _ installed => installed⟩

theorem activeEpoch_issueKey (c : GroupMediaCoordinator S) (authorization : AuthorizationStore)
    (principal : PrincipalId) : (c.issueKey authorization principal).1.activeEpoch = c.activeEpoch := by
  unfold issueKey
  dsimp only
  repeat' split
  all_goals rfl

theorem issueKey_quiet (c : GroupMediaCoordinator S) (authorization : AuthorizationStore) (principal : PrincipalId) :
    c.Quiet (c.issueKey authorization principal).1 := by
  refine ⟨c.activeEpoch_issueKey authorization principal, fun receiver epoch installed => ?_⟩
  rcases (issueKey_origin rfl installed).installed_before with kept | ⟨_, asked, _⟩
  · exact kept
  · cases asked

theorem activeEpoch_markInstalled (c : GroupMediaCoordinator S) (authorization : AuthorizationStore)
    (principal : PrincipalId) (epoch : GroupMediaEpoch) :
    (c.markInstalled authorization principal epoch).1.activeEpoch = c.activeEpoch := by
  unfold markInstalled
  dsimp only
  repeat' split
  all_goals rfl

theorem markInstalled_error {error : GroupMediaCoordinatorError}
    (run : c.markInstalled authorization principal epoch = (after, .error error)) : c.Quiet after := by
  refine ⟨?_, fun receiver other installed => ?_⟩
  · have same := c.activeEpoch_markInstalled authorization principal epoch
    rw [run] at same
    exact same
  · rcases markInstalled_installed run installed with kept | ⟨_, _, impossible⟩
    · exact kept
    · cases impossible

end GroupMediaCoordinator

section Functions

variable {S : Sframe} {sha256 : List UInt8 → Bytes32} {manager : TeacherGroupMediaDeliveryManager}
  {coordinator : GroupMediaCoordinator S} {receiver : PrincipalId} {session : ClientControlSession}
  {authorization : AuthorizationStore} {nowUnixMs : UInt64} {guard : AuthenticatedControlGuard}
  {envelope : ControlEnvelope} {pending : PendingPresentationKeyAck} {bound : BoundGroupMediaReceiverSession}

/-- What becomes of the guard when it is shown an envelope. -/
def AuthenticatedControlGuard.Shown (guard : AuthenticatedControlGuard) (envelope : ControlEnvelope)
    (after : AuthenticatedControlGuard) : Prop :=
  ∃ consumed, guard.Consumption envelope after consumed

theorem bindClientIdentity_ok {established : EstablishedControlSession} {identity : AuthenticatedPeerIdentity}
    (made : bindClientIdentity established identity receiver authorization = .ok bound) :
    bound.identity.principalId = receiver ∧ bound.controlSessionId = established.controlSessionId := by
  unfold bindClientIdentity at made
  repeat' split at made
  all_goals try cases made
  rename_i same _
  exact ⟨not_not.mp same, rfl⟩

theorem bindClient_ok (made : bindClient sha256 session receiver authorization nowUnixMs = .ok bound) :
    bound.identity.principalId = receiver ∧ bound.controlSessionId = session.established.controlSessionId := by
  unfold bindClient at made
  split at made
  · cases made
  · exact bindClientIdentity_ok made

theorem boundClient_ok (made : manager.boundClient sha256 receiver session authorization nowUnixMs = .ok bound) :
    ∃ state, manager.receivers[receiver]? = some state ∧ state.binding = session.binding ∧
      bound.identity.principalId = receiver ∧ bound.controlSessionId = session.established.controlSessionId := by
  unfold boundClient at made
  split at made
  · cases made
  case h_2 state stored =>
    split at made
    · cases made
    case isFalse same =>
      split at made
      · cases made
      case h_2 made' bound' bindMade =>
        split at made
        · cases made
        · cases made
          simp only [not_or, not_not] at same
          refine ⟨state, stored, ?_, bindClient_ok bindMade⟩
          rw [ReceiverDeliverySession.binding, ClientControlSession.binding, same.1, same.2.1, same.2.2]

/-- The record that a grant leaves behind. -/
def PresentationKeyGrantRequest.pendingFor (request : PresentationKeyGrantRequest) (receiver : PrincipalId)
    (controlSessionId : UInt64) (epoch : GroupMediaEpoch) : PendingPresentationKeyAck where
  principal := receiver
  controlSessionId := controlSessionId
  requestId := request.requestId
  presentationId := request.presentationId
  streamId := request.streamId
  epoch := epoch
  acknowledged := false

theorem issueKeyGrant_coordinator (bound : BoundGroupMediaReceiverSession) (coordinator : GroupMediaCoordinator S)
    (authorization : AuthorizationStore) (request : PresentationKeyGrantRequest) (nowUnixMs : UInt64) :
    (bound.issueKeyGrant coordinator authorization request nowUnixMs).1 = coordinator ∨
      (bound.issueKeyGrant coordinator authorization request nowUnixMs).1 =
        (coordinator.issueKey authorization bound.identity.principalId).1 := by
  unfold issueKeyGrant
  generalize coordinator.issueKey authorization bound.identity.principalId = issued
  obtain ⟨_, result⟩ := issued
  cases result
  all_goals
    dsimp only
    repeat' split
    all_goals first | exact .inl rfl | exact .inr rfl

theorem issueKeyGrant_ok {request : PresentationKeyGrantRequest} {after : GroupMediaCoordinator S}
    {sealedEnvelope : ControlEnvelope}
    (made : bound.issueKeyGrant coordinator authorization request nowUnixMs = (after, .ok (sealedEnvelope, pending))) :
    pending = request.pendingFor bound.identity.principalId bound.controlSessionId pending.epoch ∧
      coordinator.activeEpoch = some pending.epoch := by
  unfold issueKeyGrant at made
  cases issued : coordinator.issueKey authorization bound.identity.principalId with
  | mk moved result =>
    rw [issued] at made
    cases result with
    | error =>
      dsimp only at made
      repeat' split at made
      all_goals cases made
    | ok =>
      dsimp only at made
      repeat' split at made
      all_goals cases made
      exact ⟨rfl, (GroupMediaCoordinator.issueKey_ok issued).1.found⟩

/-- The answers to an acknowledgement. -/
inductive AckOutcome (pending : PendingPresentationKeyAck) (guard : AuthenticatedControlGuard)
    (authorization : AuthorizationStore) (coordinator : GroupMediaCoordinator S) (envelope : ControlEnvelope) :
    AckState S → Except PresentationKeyAckError Unit → Prop
  | refused {moved : AuthenticatedControlGuard} {after : GroupMediaCoordinator S} {error : PresentationKeyAckError}
      (shown : guard.Shown envelope moved) (quiet : coordinator.Quiet after) :
      AckOutcome pending guard authorization coordinator envelope ⟨pending, moved, after⟩ (.error error)
  | accepted {ack : PresentationKeyAck} {after : GroupMediaCoordinator S}
      (carried : envelope.payload = some (.presentationKeyAck ack))
      (peer : guard.peer.principalId = pending.principal)
      (session : envelope.controlSessionId = pending.controlSessionId) (admits : guard.Admits envelope)
      (request : envelope.requestId = pending.requestId)
      (fields : ack = ⟨pending.presentationId, pending.streamId, pending.epoch.value⟩)
      (marked : coordinator.markInstalled authorization pending.principal pending.epoch = (after, .ok ())) :
      AckOutcome pending guard authorization coordinator envelope
        ⟨{ pending with acknowledged := true }, { guard with lastSequence := envelope.sequence }, after⟩ (.ok ())

/-- Every answer to an acknowledgement is a refusal that installs nothing or an acceptance with all checks passed. The
guard has moved on once the envelope was admitted, even where a later check refuses it. -/
theorem accept_outcome :
    AckOutcome pending guard authorization coordinator envelope
      (pending.accept guard authorization coordinator envelope nowUnixMs).1
      (pending.accept guard authorization coordinator envelope nowUnixMs).2 := by
  have unseen : guard.Shown envelope guard := ⟨false, .kept⟩
  unfold PendingPresentationKeyAck.accept
  split
  · exact .refused unseen (.refl _)
  split
  case h_2 => exact .refused unseen (.refl _)
  case h_1 ack carried =>
    split
    · exact .refused unseen (.refl _)
    split
    · exact .refused unseen (.refl _)
    rename_i peer
    split
    · exact .refused unseen (.refl _)
    rename_i session
    have shown := guard.authorize_consumption authorization envelope .receivePresentation nowUnixMs
    cases answer : guard.authorize authorization envelope .receivePresentation nowUnixMs with
    | mk moved result =>
      rw [answer] at shown
      cases result with
      | error => exact .refused ⟨_, shown⟩ (.refl _)
      | ok =>
        obtain ⟨admits, rfl, _⟩ := AuthenticatedControlGuard.authorize_ok answer
        dsimp only
        split
        · exact .refused ⟨_, shown⟩ (.refl _)
        rename_i request
        split
        · exact .refused ⟨_, shown⟩ (.refl _)
        rename_i presentation
        split
        · exact .refused ⟨_, shown⟩ (.refl _)
        rename_i stream
        split
        · exact .refused ⟨_, shown⟩ (.refl _)
        rename_i epoch
        cases marked : coordinator.markInstalled authorization pending.principal pending.epoch with
        | mk after outcome =>
          cases outcome with
          | error => exact .refused ⟨_, shown⟩ (GroupMediaCoordinator.markInstalled_error marked)
          | ok =>
            refine .accepted carried (not_not.mp peer) (not_not.mp session) admits (not_not.mp request) ?_ marked
            obtain ⟨_, _⟩ := ack
            rw [PresentationKeyAck.mk.injEq]
            exact ⟨not_not.mp presentation, not_not.mp stream, not_not.mp epoch⟩

end Functions

namespace DeliveryCall

variable {S : Sframe} {Guard : Type}

/-- A `send_key` that issued the key of `epoch`, whatever became of its write. -/
def IssuesKey (call : DeliveryCall S Guard) (receiver : PrincipalId) (binding : Nat × UInt64 × ProtocolVersion)
    (request : PresentationKeyGrantRequest) (epoch : GroupMediaEpoch) : Prop :=
  ∃ session authorization nowUnixMs write,
    call.input = .sendKey receiver session authorization request nowUnixMs write ∧ session.binding = binding ∧
      call.reply = .keySent (.issued epoch write)

/-- An `accept_key_ack` that accepted the envelope. -/
def AcceptsAck (call : DeliveryCall S Guard) (receiver : PrincipalId) (binding : Nat × UInt64 × ProtocolVersion)
    (guard : Guard) (envelope : ControlEnvelope) : Prop :=
  ∃ session authorization nowUnixMs,
    call.input = .acceptKeyAck receiver session envelope guard authorization nowUnixMs ∧ session.binding = binding ∧
      call.reply = .acked (.ok ())

/-- The call neither issues a key to the receiver nor accepts an acknowledgement from it nor removes it. -/
structure Leaves (call : DeliveryCall S Guard) (receiver : PrincipalId) : Prop where
  noIssue : ∀ binding request epoch, ¬IssuesKey call receiver binding request epoch
  noAck : ∀ binding guard envelope, ¬AcceptsAck call receiver binding guard envelope
  noRemoval : call.input ≠ .removeReceiver receiver

/-- What one call does to the entry of one receiver. -/
inductive EntryEffect (call : DeliveryCall S Guard) (receiver : PrincipalId) : Prop
  | kept (leaves : Leaves call receiver)
      (same : call.after.manager.receivers[receiver]? = call.before.manager.receivers[receiver]?)
  | registered {entry : ReceiverDeliverySession} (leaves : Leaves call receiver)
      (absent : call.before.manager.receivers[receiver]? = none)
      (added : call.after.manager.receivers[receiver]? = some entry) (nothing : entry.pendingAck = none)
  | issued {entry : ReceiverDeliverySession} {request : PresentationKeyGrantRequest} {epoch : GroupMediaEpoch}
      (issues : IssuesKey call receiver entry.binding request epoch)
      (found : call.before.manager.receivers[receiver]? = some entry) (nothing : entry.pendingAck = none)
      (left : call.after.manager.receivers[receiver]? =
        some { entry with pendingAck := some (request.pendingFor receiver entry.controlSessionId epoch) })
      (active : call.before.coordinator.activeEpoch = some epoch)
  | acked {entry : ReceiverDeliverySession} {pending : PendingPresentationKeyAck} {guard : Guard}
      {envelope : ControlEnvelope} {ack : PresentationKeyAck} {authorization : AuthorizationStore}
      (accepts : AcceptsAck call receiver entry.binding guard envelope)
      (found : call.before.manager.receivers[receiver]? = some entry) (held : entry.pendingAck = some pending)
      (left : call.after.manager.receivers[receiver]? = some { entry with pendingAck := none })
      (carried : envelope.payload = some (.presentationKeyAck ack))
      (peer : (call.before.guards guard).peer.principalId = pending.principal)
      (session : envelope.controlSessionId = pending.controlSessionId)
      (admits : (call.before.guards guard).Admits envelope) (request : envelope.requestId = pending.requestId)
      (fields : ack = ⟨pending.presentationId, pending.streamId, pending.epoch.value⟩)
      (marked : call.before.coordinator.markInstalled authorization pending.principal pending.epoch =
        (call.after.coordinator, .ok ()))
  | removed (removal : call.input = .removeReceiver receiver)
      (left : call.after.manager.receivers[receiver]? = none)

end DeliveryCall

theorem getElem?_setPending {manager : TeacherGroupMediaDeliveryManager} {receiver other : PrincipalId}
    {pending : Option PendingPresentationKeyAck} :
    (manager.setPending receiver pending).receivers[other]? =
      if other = receiver then manager.receivers[receiver]?.map ({ · with pendingAck := pending })
      else manager.receivers[other]? := by
  rw [setPending, ExtTreeMap.getElem?_modify]
  by_cases same : other = receiver
  · subst same
    simp
  · simp [same, Ne.symm same]

section Steps

open DeliveryCall

variable {S : Sframe} {Guard : Type} {sha256 : List UInt8 → Bytes32} {state after : DeliveryState S Guard}
  {manager before : TeacherGroupMediaDeliveryManager} {c coordinator : GroupMediaCoordinator S}
  {session : ClientControlSession} {target receiver : PrincipalId} {authorization : AuthorizationStore}
  {nowUnixMs : UInt64} {result : Except TeacherGroupMediaDeliveryError Unit} {request : PresentationKeyGrantRequest}
  {moved : AuthenticatedControlGuard} {envelope : ControlEnvelope} {epoch : GroupMediaEpoch}
  {input : DeliveryInput Guard} {reply : DeliveryReply} {write : ChannelWrite}

/-- A call of another kind, or one whose reply is not a success, leaves every receiver. -/
theorem DeliveryCall.leaves_of {call : DeliveryCall S Guard}
    (notIssued : ∀ epoch write, call.reply ≠ .keySent (.issued epoch write)) (notAcked : call.reply ≠ .acked (.ok ()))
    (notRemoved : call.input ≠ .removeReceiver receiver) :
    DeliveryCall.Leaves call receiver where
  noIssue := by
    rintro _ _ _ ⟨_, _, _, _, _, _, issued⟩
    exact notIssued _ _ issued
  noAck := by
    rintro _ _ _ ⟨_, _, _, _, _, acked⟩
    exact notAcked acked
  noRemoval := notRemoved

theorem registerClientSession_effect
    (made : state.manager.registerClientSession sha256 session target authorization nowUnixMs = (manager, result)) :
    EntryEffect ⟨state, .registerClientSession session target authorization nowUnixMs,
      .registered result, { state with manager := manager }⟩ receiver := by
  have leaves : Leaves ⟨state, .registerClientSession session target authorization nowUnixMs,
      .registered result, { state with manager := manager }⟩ receiver :=
    leaves_of (by simp) (by simp) (by simp)
  unfold registerClientSession at made
  split at made
  · cases made
    exact .kept leaves rfl
  case isFalse unregistered =>
    split at made
    · cases made
      exact .kept leaves rfl
    · split at made
      · cases made
        exact .kept leaves rfl
      · cases made
        by_cases same : receiver = target
        · subst same
          exact .registered leaves (by simpa using unregistered) ExtTreeMap.getElem?_insert_self rfl
        · exact .kept leaves (BTreeMap.getElem?_insert_ne same)

theorem removeReceiver_effect {result : Bool} (made : state.manager.removeReceiver target = (manager, result)) :
    EntryEffect ⟨state, .removeReceiver target, .removed result, { state with manager := manager }⟩
      receiver := by
  cases made
  by_cases same : receiver = target
  · subst same
    exact .removed rfl ExtTreeMap.getElem?_erase_self
  · refine .kept (leaves_of (by simp) (by simp) ?_) (BTreeMap.getElem?_erase_ne same)
    simpa using Ne.symm same

/-- What `send_key` does to the entry of each receiver: the target is left with the record of the key just issued, also
where the write fails, and all other entries stay. -/
theorem sendKey_effect {result : SendKeyResult}
    (made : state.manager.sendKey sha256 target session state.coordinator authorization request nowUnixMs write =
      (manager, coordinator, result)) :
    EntryEffect ⟨state, .sendKey target session authorization request nowUnixMs write, .keySent result,
      { state with manager := manager, coordinator := coordinator }⟩ receiver := by
  unfold sendKey at made
  split at made
  · cases made
    exact .kept (leaves_of (by simp) (by simp) (by simp)) rfl
  case h_2 bound atBound =>
    split at made
    · cases made
      exact .kept (leaves_of (by simp) (by simp) (by simp)) rfl
    case isFalse free =>
      cases granted : bound.issueKeyGrant state.coordinator authorization request nowUnixMs with
      | mk after outcome =>
        rw [granted] at made
        cases outcome with
        | error =>
          cases made
          exact .kept (leaves_of (by simp) (by simp) (by simp)) rfl
        | ok sent =>
          obtain ⟨_, _⟩ := sent
          cases made
          obtain ⟨entry, found, binding, principal, controlSession⟩ := boundClient_ok atBound
          obtain ⟨same, active⟩ := issueKeyGrant_ok granted
          by_cases isTarget : receiver = target
          · subst isTarget
            have nothing : entry.pendingAck = none := by
              simpa [hasPendingAck, found] using free
            have sameSession : bound.controlSessionId = entry.controlSessionId :=
              controlSession.trans (Prod.mk.inj (Prod.mk.inj binding).2).1.symm
            refine .issued ⟨session, authorization, nowUnixMs, write, rfl, binding.symm, rfl⟩ found nothing ?_ active
            rw [principal, sameSession] at same
            dsimp only
            rw [getElem?_setPending, if_pos rfl, found, Option.map_some, ← same]
          · refine .kept ⟨?_, ?_, by simp⟩ ?_
            · rintro _ _ _ ⟨_, _, _, _, sent, _⟩
              cases sent
              exact isTarget rfl
            · rintro _ _ _ ⟨_, _, _, acked, _⟩
              cases acked
            · dsimp only
              rw [getElem?_setPending, if_neg isTarget]

/-- What an acknowledgement does to the entry of each receiver: it clears the pending record of its target if it is
accepted, and changes no entry otherwise. -/
theorem acceptKeyAck_effect [DecidableEq Guard] {guard : Guard}
    (made : state.manager.acceptKeyAck sha256 target session envelope (state.guards guard) authorization
      state.coordinator nowUnixMs = (manager, moved, coordinator, result)) :
    EntryEffect ⟨state, .acceptKeyAck target session envelope guard authorization nowUnixMs,
      .acked result, ⟨manager, coordinator, Function.update state.guards guard moved⟩⟩ receiver := by
  unfold acceptKeyAck at made
  split at made
  · cases made
    exact .kept (leaves_of (by simp) (by simp) (by simp)) rfl
  case h_2 bound atBound =>
    obtain ⟨_, found, binding, _⟩ := boundClient_ok atBound
    rw [found] at made
    dsimp only at made
    split at made
    · cases made
      exact .kept (leaves_of (by simp) (by simp) (by simp)) rfl
    case h_2 pending held =>
      have outcome : AckOutcome pending (state.guards guard) authorization state.coordinator envelope
          (pending.accept (state.guards guard) authorization state.coordinator envelope nowUnixMs).1
          (pending.accept (state.guards guard) authorization state.coordinator envelope nowUnixMs).2 := accept_outcome
      generalize pending.accept (state.guards guard) authorization state.coordinator envelope nowUnixMs = accepted
        at outcome made
      obtain ⟨_, _⟩ := accepted
      cases outcome with
      | refused =>
        cases made
        refine .kept (leaves_of (by simp) (by simp) (by simp)) ?_
        dsimp only
        rw [getElem?_setPending]
        split
        · rename_i same
          rw [same, found, Option.map_some, ← held]
        · rfl
      | accepted carried peer sameSession admits request fields marked =>
        cases made
        by_cases isTarget : receiver = target
        · subst isTarget
          refine .acked ⟨session, authorization, nowUnixMs, rfl, binding.symm, rfl⟩ found held ?_ carried peer
            sameSession admits request fields marked
          dsimp only
          rw [getElem?_setPending, if_pos rfl, found, Option.map_some]
        · refine .kept ⟨?_, ?_, by simp⟩ ?_
          · rintro _ _ _ ⟨_, _, _, _, sent, _⟩
            cases sent
          · rintro _ _ _ ⟨_, _, _, acked, _⟩
            cases acked
            exact isTarget rfl
          · dsimp only
            rw [getElem?_setPending, if_neg isTarget]

theorem DeliveryState.step_entryEffect [DecidableEq Guard] (taken : state.step sha256 input = some (after, reply))
    (receiver : PrincipalId) : EntryEffect ⟨state, input, reply, after⟩ receiver := by
  cases input with
  | registerClientSession =>
    cases taken
    exact registerClientSession_effect rfl
  | sendKey =>
    cases taken
    exact sendKey_effect rfl
  | acceptKeyAck =>
    cases taken
    exact acceptKeyAck_effect rfl
  | removeReceiver =>
    cases taken
    exact removeReceiver_effect rfl
  | coordinate =>
    rw [DeliveryState.step] at taken
    split at taken
    · cases taken
      exact .kept (leaves_of (by simp) (by simp) (by simp)) rfl
    · cases taken
  | validateEnvelope =>
    cases taken
    exact .kept (leaves_of (by simp) (by simp) (by simp)) rfl

/-- All that `send_key` may do to the coordinator is to issue a key. -/
theorem sendKey_coordinator {result : SendKeyResult}
    (made : before.sendKey sha256 target session c authorization request nowUnixMs write =
      (manager, coordinator, result)) :
    coordinator = c ∨ ∃ principal, coordinator = (c.issueKey authorization principal).1 := by
  unfold sendKey at made
  split at made
  · cases made
    exact .inl rfl
  case h_2 bound _ =>
    split at made
    · cases made
      exact .inl rfl
    · have moved := issueKeyGrant_coordinator bound c authorization request nowUnixMs
      generalize bound.issueKeyGrant c authorization request nowUnixMs = granted at made moved
      obtain ⟨_, outcome⟩ := granted
      cases outcome
      all_goals
        cases made
        exact moved.imp_right fun issued => ⟨_, issued⟩

theorem sendKey_quiet {result : SendKeyResult}
    (made : before.sendKey sha256 target session c authorization request nowUnixMs write =
      (manager, coordinator, result)) : c.Quiet coordinator := by
  rcases sendKey_coordinator made with rfl | ⟨principal, rfl⟩
  · exact .refl _
  · exact c.issueKey_quiet authorization principal

/-- What an acknowledgement does to the guard and the coordinator. -/
theorem acceptKeyAck_answer {guard : AuthenticatedControlGuard}
    (made : before.acceptKeyAck sha256 target session envelope guard authorization c nowUnixMs =
      (manager, moved, coordinator, result)) :
    guard.Shown envelope moved ∧
      (c.Quiet coordinator ∨ ∃ entry pending, before.receivers[target]? = some entry ∧
        entry.pendingAck = some pending ∧ result = .ok () ∧
        c.markInstalled authorization pending.principal pending.epoch = (coordinator, .ok ())) := by
  have unseen : guard.Shown envelope guard := ⟨false, .kept⟩
  unfold acceptKeyAck at made
  split at made
  · cases made
    exact ⟨unseen, .inl (.refl _)⟩
  split at made
  · cases made
    exact ⟨unseen, .inl (.refl _)⟩
  case h_2 entry found =>
    split at made
    · cases made
      exact ⟨unseen, .inl (.refl _)⟩
    case h_2 pending held =>
      have outcome : AckOutcome pending guard authorization c envelope
          (pending.accept guard authorization c envelope nowUnixMs).1
          (pending.accept guard authorization c envelope nowUnixMs).2 := accept_outcome
      generalize pending.accept guard authorization c envelope nowUnixMs = accepted at outcome made
      obtain ⟨_, _⟩ := accepted
      cases outcome with
      | refused shown quiet =>
        cases made
        exact ⟨shown, .inl quiet⟩
      | accepted _ _ _ admits _ _ marked =>
        cases made
        exact ⟨⟨true, .consumed admits⟩, .inr ⟨entry, pending, found, held, rfl, marked⟩⟩

variable [DecidableEq Guard]

theorem GroupMediaCoordinator.step_direct {moved : GroupMediaCoordinator S} {input : CoordinatorInput}
    {reply : CoordinatorReply} (direct : input.direct = true) (taken : c.step input = (moved, reply))
    (installed : moved.receivers[receiver]? = some (.installed epoch)) :
    c.receivers[receiver]? = some (.installed epoch) := by
  rcases (step_origin taken installed).installed_before with kept | ⟨_, rfl, _⟩
  · exact kept
  · cases direct

/-- An epoch in force was in force before, or has just begun. -/
theorem DeliveryState.step_activeEpoch (taken : state.step sha256 input = some (after, reply))
    (active : after.coordinator.activeEpoch = some epoch) :
    state.coordinator.activeEpoch = some epoch ∨ reply = .coordinated (.begun (.ok epoch)) := by
  cases input with
  | registerClientSession | removeReceiver | validateEnvelope =>
    cases taken
    exact .inl active
  | sendKey =>
    cases taken
    exact .inl ((sendKey_quiet rfl).epoch.symm.trans active)
  | acceptKeyAck target session envelope guard authorization =>
    cases taken
    refine .inl ?_
    rcases (acceptKeyAck_answer rfl).2 with quiet | ⟨_, pending, _, _, _, marked⟩
    · exact quiet.epoch.symm.trans active
    · have same := state.coordinator.activeEpoch_markInstalled authorization pending.principal pending.epoch
      rw [marked] at same
      exact same.symm.trans active
  | coordinate input =>
    rw [DeliveryState.step] at taken
    split at taken
    · generalize stepped : state.coordinator.step input = outcome at taken
      obtain ⟨_, _⟩ := outcome
      cases taken
      cases GroupMediaCoordinator.step_effect stepped with
      | begun begins now =>
        rw [now] at active
        cases active
        exact .inr (by rw [begins])
      | ended _ none =>
        rw [none] at active
        cases active
      | kept _ same => exact .inl (same.symm.trans active)
    · cases taken

/-- A receiver becomes installed only when its pending acknowledgement is accepted. -/
theorem DeliveryState.step_installed (taken : state.step sha256 input = some (after, reply))
    (installed : after.coordinator.receivers[receiver]? = some (.installed epoch)) :
    state.coordinator.receivers[receiver]? = some (.installed epoch) ∨
      ∃ target entry pending binding guard envelope,
        AcceptsAck ⟨state, input, reply, after⟩ target binding guard envelope ∧
          state.manager.receivers[target]? = some entry ∧ entry.pendingAck = some pending ∧
          receiver = pending.principal ∧ epoch = pending.epoch := by
  cases input with
  | registerClientSession | removeReceiver | validateEnvelope =>
    cases taken
    exact .inl installed
  | sendKey =>
    cases taken
    exact .inl ((sendKey_quiet rfl).installed _ _ installed)
  | acceptKeyAck target session envelope guard authorization nowUnixMs =>
    cases taken
    rcases (acceptKeyAck_answer rfl).2 with quiet | ⟨entry, pending, found, held, accepted, marked⟩
    · exact .inl (quiet.installed _ _ installed)
    · rcases GroupMediaCoordinator.markInstalled_installed marked installed with kept | ⟨same, sameEpoch, _⟩
      · exact .inl kept
      · exact .inr ⟨target, entry, pending, _, guard, envelope,
          ⟨session, authorization, nowUnixMs, rfl, rfl, by rw [accepted]⟩, found, held, same, sameEpoch⟩
  | coordinate =>
    rw [DeliveryState.step] at taken
    split at taken
    · rename_i direct
      cases taken
      exact .inl (GroupMediaCoordinator.step_direct direct rfl installed)
    · cases taken

/-- The guard and the envelope of a call that shows one to the other. -/
def DeliveryInput.shows : DeliveryInput Guard → Option (Guard × ControlEnvelope)
  | .acceptKeyAck _ _ envelope guard _ _ => some (guard, envelope)
  | .validateEnvelope guard envelope => some (guard, envelope)
  | _ => none

/-- A guard moves only to the sequence of an envelope that it is shown and that is newer than all before. -/
theorem DeliveryState.step_guard (taken : state.step sha256 input = some (after, reply)) (guard : Guard) :
    after.guards guard = state.guards guard ∨
      ∃ envelope, input.shows = some (guard, envelope) ∧ (state.guards guard).Admits envelope ∧
        after.guards guard = { state.guards guard with lastSequence := envelope.sequence } := by
  have moves : ∀ (used : Guard) (envelope : ControlEnvelope) (moved : AuthenticatedControlGuard),
      input.shows = some (used, envelope) → (state.guards used).Shown envelope moved →
      after.guards = Function.update state.guards used moved →
      after.guards guard = state.guards guard ∨
        ∃ envelope, input.shows = some (guard, envelope) ∧ (state.guards guard).Admits envelope ∧
          after.guards guard = { state.guards guard with lastSequence := envelope.sequence } := by
    rintro used envelope moved shows ⟨consumed, shown⟩ updated
    rw [updated]
    by_cases same : guard = used
    · subst same
      rw [Function.update_self]
      cases shown with
      | consumed admits => exact .inr ⟨envelope, shows, admits, rfl⟩
      | kept => exact .inl rfl
    · exact .inl (Function.update_of_ne same _ _)
  cases input with
  | registerClientSession | sendKey | removeReceiver =>
    cases taken
    exact .inl rfl
  | acceptKeyAck target session envelope used =>
    cases taken
    exact moves used envelope _ rfl (acceptKeyAck_answer rfl).1 rfl
  | coordinate =>
    rw [DeliveryState.step] at taken
    split at taken
    · cases taken
      exact .inl rfl
    · cases taken
  | validateEnvelope used envelope =>
    cases taken
    exact moves used envelope _ rfl ⟨_, (state.guards used).validateEnvelope_consumption envelope⟩ rfl

end Steps

end ClassMesh
