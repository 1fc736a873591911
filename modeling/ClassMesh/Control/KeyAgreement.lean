import ClassMesh.Control.KeyDeliverySteps

namespace ClassMesh

open Std Foundation

namespace DeliveryCall

variable {S : Sframe} {Guard : Type}

/-- The acknowledgement answers the key that was sent: same receiver, connection, control session and protocol
version, and the request, presentation, stream and epoch of the grant, from a guard of the receiver to which its
sequence is new. -/
structure Acknowledges (ack send : DeliveryCall S Guard) (receiver : PrincipalId) (epoch : GroupMediaEpoch)
    (guard : Guard) (envelope : ControlEnvelope) : Prop where
  exchange : ∃ binding request, IssuesKey send receiver binding request epoch ∧
    AcceptsAck ack receiver binding guard envelope ∧ envelope.controlSessionId = binding.2.1 ∧
    envelope.requestId = request.requestId ∧
    envelope.payload = some (.presentationKeyAck ⟨request.presentationId, request.streamId, epoch.value⟩)
  peer : (ack.before.guards guard).peer.principalId = receiver
  admits : (ack.before.guards guard).Admits envelope

def Begins (call : DeliveryCall S Guard) (epoch : GroupMediaEpoch) : Prop :=
  call.reply = .coordinated (.begun (.ok epoch))

end DeliveryCall

open DeliveryCall

section Runs

variable {S : Sframe} {Guard : Type} {sha256 : List UInt8 → Bytes32} {past : List (DeliveryCall S Guard)}
  {state after : DeliveryState S Guard} {input : DeliveryInput Guard} {reply : DeliveryReply} {receiver : PrincipalId}
  {call : DeliveryCall S Guard} {initial : DeliveryState S Guard} {binding binding' : Nat × UInt64 × ProtocolVersion}
  {request request' : PresentationKeyGrantRequest} {epoch epoch' : GroupMediaEpoch}
  {earlier later : List (DeliveryCall S Guard)}

/-- A key was sent to the receiver in an epoch that had begun, and nothing has answered it yet. -/
structure Outstanding (past : List (DeliveryCall S Guard)) (receiver : PrincipalId) (entry : ReceiverDeliverySession)
    (pending : PendingPresentationKeyAck) : Prop where
  sent : ∃ earlier send later request, past = earlier ++ send :: later ∧
    IssuesKey send receiver entry.binding request pending.epoch ∧
    pending = request.pendingFor receiver entry.controlSessionId pending.epoch ∧
    (∃ begun ∈ earlier, Begins begun pending.epoch) ∧
    ∀ call ∈ later, Leaves call receiver

/-- What the state owes to the calls so far. -/
structure DeliveryHistory (past : List (DeliveryCall S Guard)) (state : DeliveryState S Guard) : Prop where
  begun : ∀ epoch, state.coordinator.activeEpoch = some epoch → ∃ call ∈ past, Begins call epoch
  pending : ∀ receiver entry pending, state.manager.receivers[receiver]? = some entry →
    entry.pendingAck = some pending → Outstanding past receiver entry pending
  shown : ∀ call ∈ past, ∀ guard envelope, call.input.shows = some (guard, envelope) →
    call.after.guards guard ≠ call.before.guards guard →
    envelope.sequence ≤ (state.guards guard).lastSequence

theorem Outstanding.keep {entry : ReceiverDeliverySession} {pending : PendingPresentationKeyAck}
    (outstanding : Outstanding past receiver entry pending) (leaves : Leaves call receiver) :
    Outstanding (past ++ [call]) receiver entry pending := by
  obtain ⟨earlier, send, later, request, cut, issues, same, begun, unanswered⟩ := outstanding.sent
  refine ⟨earlier, send, later ++ [call], request, by simp [cut], issues, same, begun,
    forall_mem_concat unanswered leaves⟩

variable [DecidableEq Guard]

/-- One call keeps what the state owes to the past. A pending record is traced to the call that issued it, and a guard
never falls behind an envelope that moved it. -/
theorem DeliveryHistory.next (history : DeliveryHistory past state)
    (taken : state.step sha256 input = some (after, reply)) :
    DeliveryHistory (past ++ [⟨state, input, reply, after⟩]) after := by
  refine ⟨?_, ?_, ?_⟩
  · intro epoch active
    rcases state.step_activeEpoch taken active with before | begins
    · obtain ⟨call, member, begins⟩ := history.begun epoch before
      exact ⟨call, List.mem_append_left _ member, begins⟩
    · exact ⟨_, List.mem_concat_self, begins⟩
  · intro receiver entry pending found held
    cases state.step_entryEffect taken receiver with
    | kept leaves same =>
      rw [same] at found
      exact (history.pending receiver entry pending found held).keep leaves
    | registered leaves absent added nothing =>
      cases found.symm.trans added
      rw [nothing] at held
      cases held
    | @issued _ request epoch issues _ _ left active =>
      cases found.symm.trans left
      cases held
      exact ⟨past, _, [], request, rfl, issues, rfl, history.begun epoch active, by simp⟩
    | acked _ _ _ left =>
      cases found.symm.trans left
      cases held
    | removed _ left => cases found.symm.trans left
  · intro call member guard envelope shows moved
    have grown : (state.guards guard).lastSequence ≤ (after.guards guard).lastSequence := by
      rcases state.step_guard taken guard with same | ⟨newer, _, admits, moves⟩
      · rw [same]
        exact UInt64.le_refl _
      · rw [moves]
        exact UInt64.le_of_lt admits.newer
    rcases List.mem_append.mp member with old | new
    · exact UInt64.le_trans (history.shown call old guard envelope shows moved) grown
    · cases List.mem_singleton.mp new
      rcases state.step_guard taken guard with same | ⟨_, showsNewer, _, moves⟩
      · exact absurd same moved
      · cases Option.some.inj (shows.symm.trans showsNewer)
        rw [moves]
        exact UInt64.le_refl _

/-- Manager and coordinator as they are created, with whatever limits, and any guards. -/
structure DeliveryState.Fresh (state : DeliveryState S Guard) : Prop where
  manager : state.manager.receivers = ∅
  coordinator : state.coordinator.receivers = ∅
  inactive : state.coordinator.active = none

theorem DeliveryHistory.of_run (fresh : initial.Fresh)
    (run : Run (Partial (DeliveryState.step sha256)) initial past state) : DeliveryHistory past state := by
  induction run with
  | start =>
    refine ⟨?_, ?_, by simp⟩
    · intro epoch active
      simp [GroupMediaCoordinator.activeEpoch, fresh.inactive] at active
    · intro receiver entry pending found
      simp [fresh.manager] at found
  | next _ taken ih => exact ih.next taken

/-- An accepted acknowledgement answers the last key sent to its receiver, which nothing answered before. -/
theorem DeliveryHistory.answered (history : DeliveryHistory past state)
    (taken : state.step sha256 input = some (after, reply)) {guard : Guard} {envelope : ControlEnvelope}
    (accepts : AcceptsAck ⟨state, input, reply, after⟩ receiver binding guard envelope) :
    ∃ earlier send later entry pending, past = earlier ++ send :: later ∧
      state.manager.receivers[receiver]? = some entry ∧ entry.pendingAck = some pending ∧
      pending.principal = receiver ∧
      Acknowledges ⟨state, input, reply, after⟩ send receiver pending.epoch guard envelope ∧
      (∃ begun ∈ earlier, Begins begun pending.epoch) ∧
      ∀ call ∈ later, Leaves call receiver := by
  cases state.step_entryEffect taken receiver with
  | kept leaves => exact absurd accepts (leaves.noAck _ _ _)
  | registered leaves => exact absurd accepts (leaves.noAck _ _ _)
  | issued issues =>
    obtain ⟨_, _, _, _, sent, _⟩ := issues
    obtain ⟨_, _, _, acked, _⟩ := accepts
    cases sent.symm.trans acked
  | removed removal =>
    obtain ⟨_, _, _, acked, _⟩ := accepts
    cases removal.symm.trans acked
  | @acked entry pending usedGuard used ack _ accepted found held _ carried peer session admits request fields =>
    obtain ⟨_, _, _, acked, _⟩ := accepts
    obtain ⟨_, _, _, same, _⟩ := id accepted
    cases acked.symm.trans same
    obtain ⟨earlier, send, later, sentRequest, cut, issues, samePending, begun, unanswered⟩ :=
      (history.pending receiver entry pending found held).sent
    refine ⟨earlier, send, later, entry, pending, cut, found, held, by rw [samePending]; rfl, ⟨?_, ?_, admits⟩, begun,
      unanswered⟩
    · refine ⟨entry.binding, sentRequest, issues, accepted, ?_, ?_, ?_⟩
      · rw [session, samePending]
        rfl
      · rw [request, samePending]
        rfl
      · rw [carried, fields, samePending]
        rfl
    · rw [peer, samePending]
      rfl

/-- While nothing answers a key, the receiver's entry holds it. -/
theorem pending_of_unanswered (run : Run (Partial (DeliveryState.step sha256)) initial past state)
    {send : DeliveryCall S Guard} (cut : past = earlier ++ send :: later)
    (issues : IssuesKey send receiver binding request epoch)
    (unanswered : ∀ call ∈ later, (∀ binding guard envelope, ¬AcceptsAck call receiver binding guard envelope) ∧
      call.input ≠ .removeReceiver receiver) :
    ∃ entry pending, state.manager.receivers[receiver]? = some entry ∧ entry.pendingAck = some pending := by
  induction run generalizing later with
  | start => simp at cut
  | @next before current input reply after previous taken ih =>
    rcases snoc_eq_append_cons cut with ⟨_, sameCall, _⟩ | ⟨_, rfl, same⟩
    · subst sameCall
      cases current.step_entryEffect taken receiver with
      | kept leaves => exact absurd issues (leaves.noIssue _ _ _)
      | registered leaves => exact absurd issues (leaves.noIssue _ _ _)
      | issued _ _ _ left => exact ⟨_, _, left, rfl⟩
      | acked accepts =>
        obtain ⟨_, _, _, _, sent, _⟩ := issues
        obtain ⟨_, _, _, acked, _⟩ := accepts
        cases sent.symm.trans acked
      | removed removal =>
        obtain ⟨_, _, _, _, sent, _⟩ := issues
        cases removal.symm.trans sent
    · obtain ⟨entry, pending, found, held⟩ :=
        ih same (forall_of_append unanswered)
      obtain ⟨noAck, noRemoval⟩ := unanswered _ List.mem_concat_self
      cases current.step_entryEffect taken receiver with
      | kept _ sameEntry => exact ⟨entry, pending, sameEntry.trans found, held⟩
      | registered _ absent => cases absent.symm.trans found
      | issued _ foundNow nothing =>
        cases foundNow.symm.trans found
        rw [nothing] at held
        cases held
      | acked accepts => exact absurd accepts (noAck _ _ _)
      | removed removal => exact absurd removal noRemoval

/-- The receiver acknowledged the key of an epoch that had begun when the key was sent, with a sequence that its
guard had not accepted before. -/
def InstalledBy (past : List (DeliveryCall S Guard)) (receiver : PrincipalId) (epoch : GroupMediaEpoch) : Prop :=
  ∃ earlier send middle ack later guard envelope, past = earlier ++ send :: (middle ++ ack :: later) ∧
    (∃ begun ∈ earlier, Begins begun epoch) ∧
    Acknowledges ack send receiver epoch guard envelope ∧
    ∀ call ∈ earlier ++ send :: middle, ∀ shown, call.input.shows = some (guard, shown) →
      call.after.guards guard ≠ call.before.guards guard → shown.sequence ≠ envelope.sequence

omit [DecidableEq Guard] in
theorem InstalledBy.keep (installed : InstalledBy past receiver epoch) (call : DeliveryCall S Guard) :
    InstalledBy (past ++ [call]) receiver epoch := by
  obtain ⟨earlier, send, middle, ack, later, guard, envelope, cut, rest⟩ := installed
  exact ⟨earlier, send, middle, ack, later ++ [call], guard, envelope, by simp [cut], rest⟩

theorem installedBy_of_run (fresh : initial.Fresh)
    (run : Run (Partial (DeliveryState.step sha256)) initial past state)
    (installed : state.coordinator.receivers[receiver]? = some (.installed epoch)) :
    InstalledBy past receiver epoch := by
  induction run with
  | start => simp [fresh.coordinator] at installed
  | @next before current input reply after previous taken ih =>
    rcases current.step_installed taken installed with already | ⟨target, entry, pending, binding, guard, envelope,
      accepts, found, held, same, sameEpoch⟩
    · exact (ih already).keep _
    · have history := DeliveryHistory.of_run fresh previous
      obtain ⟨earlier, send, later, _, _, cut, found', held', principal, acknowledges, begun, _⟩ :=
        history.answered taken accepts
      cases found.symm.trans found'
      cases held.symm.trans held'
      rw [principal] at same
      subst same sameEpoch
      refine ⟨earlier, send, later, _, [], guard, envelope, by simp [cut], begun, acknowledges, ?_⟩
      intro call member shown shows moved same
      rw [← cut] at member
      have older := history.shown call member guard shown shows moved
      rw [same] at older
      exact UInt64.lt_irrefl _ (UInt64.lt_of_le_of_lt older acknowledges.admits.newer)

omit [DecidableEq Guard] in
theorem DeliveryCall.IssuesKey.receiver_unique {other : PrincipalId}
    (first : IssuesKey call receiver binding request epoch) (second : IssuesKey call other binding' request' epoch') :
    receiver = other := by
  obtain ⟨_, _, _, _, sent, _⟩ := first
  obtain ⟨_, _, _, _, sentToo, _⟩ := second
  cases sent.symm.trans sentToo
  rfl

/-- The call at one position answers the key sent at another: nothing between them concerns the receiver. -/
def AnswersAt (past : List (DeliveryCall S Guard)) (position sent : Nat) : Prop :=
  ∃ ack send receiver epoch guard envelope, past[position]? = some ack ∧ past[sent]? = some send ∧ sent < position ∧
    Acknowledges ack send receiver epoch guard envelope ∧
    ∀ between call, sent < between → between < position → past[between]? = some call →
      Leaves call receiver

/-- The call at this position accepted an acknowledgement. -/
def AcceptsAt (past : List (DeliveryCall S Guard)) (position : Nat) : Prop :=
  ∃ ack receiver binding guard envelope, past[position]? = some ack ∧
    AcceptsAck ack receiver binding guard envelope

omit [DecidableEq Guard] in
theorem AnswersAt.position_le {first second sent : Nat} (answers : AnswersAt past first sent)
    (answersToo : AnswersAt past second sent) : second ≤ first := by
  by_contra later
  obtain ⟨ack, _, _, _, _, _, atFirst, atSent, before, acknowledges, _⟩ := answers
  obtain ⟨_, _, _, _, _, _, _, atSentToo, _, acknowledgesToo, quiet⟩ := answersToo
  obtain ⟨_, _, issues, accepts, _⟩ := acknowledges.exchange
  obtain ⟨_, _, issuesToo, _⟩ := acknowledgesToo.exchange
  cases atSent.symm.trans atSentToo
  obtain rfl := issues.receiver_unique issuesToo
  exact (quiet first ack before (by omega) atFirst).noAck _ _ _ accepts

theorem answersAt_of_run (fresh : initial.Fresh) (run : Run (Partial (DeliveryState.step sha256)) initial past state)
    {position : Nat} (accepted : AcceptsAt past position) : ∃ sent, AnswersAt past position sent := by
  obtain ⟨ack, receiver, _, guard, envelope, here, accepts⟩ := accepted
  obtain ⟨bound, value⟩ := List.getElem?_eq_some_iff.mp here
  have cut : past = past.take position ++ ack :: past.drop (position + 1) := by
    rw [← value, ← List.drop_eq_getElem_cons bound, List.take_append_drop]
  obtain ⟨reached, taken, _⟩ := run.split cut
  obtain ⟨earlier, send, later, _, pending, split, _, _, _, acknowledges, _, quiet⟩ :=
    (DeliveryHistory.of_run fresh reached).answered taken accepts
  have length : earlier.length + (later.length + 1) = position := by
    have same := congrArg List.length split
    rw [List.length_take, Nat.min_eq_left bound.le] at same
    simpa using same.symm
  have atIndex : ∀ index, index < position → past[index]? = (earlier ++ send :: later)[index]? := by
    intro index small
    rw [← split, List.getElem?_take_of_lt small]
  refine ⟨earlier.length, ack, send, receiver, pending.epoch, guard, envelope, here, ?_, by omega, acknowledges, ?_⟩
  · rw [atIndex _ (by omega)]
    simp
  · intro between call above below atBetween
    rw [atIndex between below, List.getElem?_append_right above.le] at atBetween
    obtain ⟨offset, rfl⟩ := Nat.exists_eq_add_of_lt above
    rw [show earlier.length + offset + 1 - earlier.length = offset + 1 by omega, List.getElem?_cons_succ] at atBetween
    exact quiet call (List.mem_of_getElem? atBetween)

/-- Two keys to one receiver have an answer to the first, or a removal, between them. -/
theorem answered_between (run : Run (Partial (DeliveryState.step sha256)) initial past state)
    {middle : List (DeliveryCall S Guard)} {first second : DeliveryCall S Guard}
    (cut : past = earlier ++ first :: (middle ++ second :: later))
    (issuesFirst : IssuesKey first receiver binding request epoch)
    (issuesSecond : IssuesKey second receiver binding' request' epoch') :
    ∃ call ∈ middle, (∃ binding guard envelope, AcceptsAck call receiver binding guard envelope) ∨
      call.input = .removeReceiver receiver := by
  by_contra none
  simp only [not_exists, not_and, not_or] at none
  obtain ⟨reached, taken, _⟩ := run.split (show past = (earlier ++ first :: middle) ++ second :: later by simp [cut])
  obtain ⟨_, _, found, held⟩ := pending_of_unanswered reached rfl issuesFirst fun call member =>
    ⟨fun _ _ _ => (none call member).1 _ _ _, (none call member).2⟩
  cases second.before.step_entryEffect taken receiver with
  | kept leaves => exact leaves.noIssue _ _ _ issuesSecond
  | registered leaves => exact leaves.noIssue _ _ _ issuesSecond
  | issued _ foundNow nothing =>
    cases foundNow.symm.trans found
    rw [nothing] at held
    cases held
  | acked accepts =>
    obtain ⟨_, _, _, _, sent, _⟩ := issuesSecond
    obtain ⟨_, _, _, acked, _⟩ := accepts
    cases sent.symm.trans acked
  | removed removal =>
    obtain ⟨_, _, _, _, sent, _⟩ := issuesSecond
    cases removal.symm.trans sent

/-- What a target for unicast stands for. -/
structure TargetSound (state : DeliveryState S Guard) (fallback : PresentationFallbackCoordinator)
    (ownership : Option PresentationOwner) (request : PresentationUnicastSenderTargetRequest)
    (target : PresentationUnicastSenderTarget) : Prop where
  registered : ∃ entry, state.manager.receivers[target.receiver]? = some entry ∧
    entry.binding = request.session.binding
  active : state.coordinator.activeEpoch = some target.epoch
  installed : state.coordinator.receivers[target.receiver]? = some (.installed target.epoch)
  enabled : fallback.unicastReceivers.contains target.receiver = true
  destination : target.destination = ⟨request.session.connection.remoteAddress.ip, request.offer.port⟩ ∧
    request.offer.port ≠ 0
  presentation : ∃ owner, ownership = some owner ∧ target.presentationId = owner.presentationId ∧
    target.streamId.toNat = owner.streamId.toNat ∧ target.streamId = fallback.streamId

omit [DecidableEq Guard] in
theorem buildUnicastSenderTarget_ok {fallback : PresentationFallbackCoordinator} {authorization : AuthorizationStore}
    {ownership : Option PresentationOwner} {request : PresentationUnicastSenderTargetRequest}
    {target : PresentationUnicastSenderTarget}
    (made : state.manager.buildUnicastSenderTarget sha256 fallback state.coordinator authorization ownership request =
      .ok target) : TargetSound state fallback ownership request target := by
  unfold TeacherGroupMediaDeliveryManager.buildUnicastSenderTarget at made
  split at made
  · cases made
  case h_2 owner =>
    split at made
    · cases made
    case h_2 profile _ =>
      split at made
      · cases made
      case isFalse ownerFits =>
        split at made
        · cases made
        dsimp only at made
        split at made
        · cases made
        case isFalse streams =>
          split at made
          · cases made
          split at made
          · cases made
          case isFalse port =>
            split at made
            · cases made
            case h_2 bound atBound =>
              split at made
              · cases made
              case isFalse enabled =>
                split at made
                · cases made
                case isFalse active =>
                  split at made
                  · cases made
                  case isFalse installed =>
                    cases made
                    obtain ⟨entry, found, binding, _⟩ := boundClient_ok atBound
                    simp only [not_or, not_not] at streams
                    refine ⟨⟨entry, found, binding⟩, not_not.mp active, not_not.mp installed, by simpa using enabled,
                      ⟨rfl, port⟩, ⟨owner, rfl, rfl, ?_, streams.2.1⟩⟩
                    exact (UInt64.toNat_toUInt32 _).trans (Nat.mod_eq_of_lt (Nat.not_le.mp ownerFits))

/-- In every run, an installed receiver acknowledged a key that was sent to it in that epoch, acknowledgements match
keys one to one, no key is issued while one is outstanding, and a target for unicast names a registered receiver
that is installed in the epoch in force. -/
theorem key_delivery_agreement {initial : DeliveryState S Guard} (fresh : initial.Fresh)
    (run : Run (Partial (DeliveryState.step sha256)) initial past state) :
    (∀ (receiver : PrincipalId) (epoch : GroupMediaEpoch),
        state.coordinator.receivers[receiver]? = some (.installed epoch) → InstalledBy past receiver epoch) ∧
      (∃ sendOf : Nat → Nat,
        (∀ position, AcceptsAt past position → sendOf position < position ∧
          ∃ ack send receiver epoch guard envelope, past[position]? = some ack ∧
            past[sendOf position]? = some send ∧
            Acknowledges ack send receiver epoch guard envelope) ∧
        ∀ first second, AcceptsAt past first → AcceptsAt past second → sendOf first = sendOf second →
          first = second) ∧
      (∀ earlier first middle second later receiver, past = earlier ++ first :: (middle ++ second :: later) →
        (∃ binding request epoch, IssuesKey first receiver binding request epoch) →
        (∃ binding request epoch, IssuesKey second receiver binding request epoch) →
        ∃ call ∈ middle, (∃ binding guard envelope, AcceptsAck call receiver binding guard envelope) ∨
          call.input = .removeReceiver receiver) ∧
      (∀ fallback authorization ownership request target,
        state.manager.buildUnicastSenderTarget sha256 fallback state.coordinator authorization ownership request =
          .ok target →
        TargetSound state fallback ownership request target) := by
  refine ⟨fun _ _ installed => installedBy_of_run fresh run installed, ?_, ?_, ?_⟩
  · have matched : ∀ position, ∃ sent, AcceptsAt past position → AnswersAt past position sent := by
      intro position
      by_cases accepted : AcceptsAt past position
      · obtain ⟨sent, answers⟩ := answersAt_of_run fresh run accepted
        exact ⟨sent, fun _ => answers⟩
      · exact ⟨0, fun accepts => absurd accepts accepted⟩
    choose sendOf answers using matched
    refine ⟨sendOf, ?_, ?_⟩
    · intro position accepted
      obtain ⟨ack, send, receiver, epoch, guard, envelope, here, there, before, acknowledges, _⟩ :=
        answers position accepted
      exact ⟨before, ack, send, receiver, epoch, guard, envelope, here, there, acknowledges⟩
    · intro first second acceptedFirst acceptedSecond same
      have answersFirst := answers first acceptedFirst
      have answersSecond := answers second acceptedSecond
      rw [same] at answersFirst
      exact Nat.le_antisymm (answersSecond.position_le answersFirst) (answersFirst.position_le answersSecond)
  · rintro earlier first middle second later receiver cut ⟨_, _, _, issuesFirst⟩ ⟨_, _, _, issuesSecond⟩
    exact answered_between run cut issuesFirst issuesSecond
  · intro fallback authorization ownership request target made
    exact buildUnicastSenderTarget_ok made

end Runs

section Sample

def sampleStudent : Principal where
  id := ⟨.replicate 3⟩
  kind := .studentDevice
  enabled := true
  permissions := (∅ : BTreeSet Permission).insert .receivePresentation
  credentials := (∅ : BTreeMap CredentialFingerprint CredentialRecord).insert ⟨.replicate 3⟩
    (.active ⟨.replicate 3⟩ 5)

def sampleClassroom : AuthorizationStore := (AuthorizationStore.upsert {} sampleStudent).1

def sampleSession : ClientControlSession where
  connection := ⟨4, ⟨.v4 0x0a000003, 9000⟩, .chain [[1, 2, 3]]⟩
  established := ⟨1, ⟨⟨.replicate 1⟩, .teacher, ⟨0, 8⟩, {.teacherPresentation, .sframeGroupMedia}⟩⟩

def sampleKeyAck : ControlEnvelope where
  controlSessionId := 1
  sequence := 1
  protocolVersion := some ⟨0, 8⟩
  requestId := 5
  payload := some (.presentationKeyAck ⟨7, 8, 1⟩)

def sampleDelivery : DeliveryState (ledgerSframe []) Unit where
  manager := {}
  coordinator := {}
  guards := fun _ => ⟨⟨⟨.replicate 3⟩, ⟨.replicate 3⟩⟩, 1, ⟨0, 8⟩, 0⟩

/-- The write of the key fails, its acknowledgement arrives all the same, and the receiver is installed. -/
theorem key_delivery_agreement_failed_write : ∃ past state,
    Run (Partial (DeliveryState.step fun _ => .replicate 3)) sampleDelivery past state ∧
      state.coordinator.receivers[(⟨.replicate 3⟩ : PrincipalId)]? = some (.installed ⟨1, by decide⟩) ∧
      InstalledBy past ⟨.replicate 3⟩ ⟨1, by decide⟩ := by
  have fresh : sampleDelivery.Fresh := ⟨rfl, rfl, rfl⟩
  have made : (tryCalls (DeliveryState.step fun _ => .replicate 3) sampleDelivery
      [.coordinate (.registerReceiver sampleClassroom ⟨.replicate 3⟩), .coordinate (.beginEpoch (some (.replicate 6))),
        .registerClientSession sampleSession ⟨.replicate 3⟩ sampleClassroom 10,
        .sendKey ⟨.replicate 3⟩ sampleSession sampleClassroom ⟨7, 8, 5, 2⟩ 10 .failed,
        .acceptKeyAck ⟨.replicate 3⟩ sampleSession sampleKeyAck () sampleClassroom 11]).map
      (fun result => result.2.coordinator.receivers[(⟨.replicate 3⟩ : PrincipalId)]?) =
        some (some (.installed ⟨1, by decide⟩)) := by
    decide +kernel
  obtain ⟨past, state, run, _, installed⟩ := Run.of_traced made
  exact ⟨past, state, run, installed, (key_delivery_agreement fresh run).1 _ _ installed⟩

end Sample

end ClassMesh
