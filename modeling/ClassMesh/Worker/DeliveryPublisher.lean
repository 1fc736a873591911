import ClassMesh.Control.TelemetryMailbox
import ClassMesh.Worker.GroupMediaReceive

namespace ClassMesh

open Foundation

structure WorkerReceiverTelemetryAuthorization where
  owner : ReceiverTelemetryBinding
  installedKey : PresentationKeyInstallBinding
  authorizedStartRequestId : UInt64
deriving DecidableEq

def WorkerReceiverTelemetryAuthorization.isValid (permit : WorkerReceiverTelemetryAuthorization) : Bool :=
  permit.owner.isValid && permit.installedKey.requestId ≠ 0 && permit.authorizedStartRequestId ≠ 0 &&
    permit.owner.requestId = permit.authorizedStartRequestId &&
    permit.owner.controlSessionId = permit.installedKey.controlSessionId &&
    permit.owner.presentationId = permit.installedKey.presentationId &&
    permit.owner.streamId = permit.installedKey.streamId && permit.owner.epoch = permit.installedKey.epoch

abbrev WorkerReceiverTelemetryAuthorization.generation (permit : WorkerReceiverTelemetryAuthorization) : UInt64 :=
  permit.owner.receiverGeneration

abbrev ReceiverTelemetrySendLease.generation (lease : ReceiverTelemetrySendLease) : UInt64 :=
  lease.report.binding.receiverGeneration

inductive PresentationDeliveryPublisherError
  | invalidAuthorization
  | staleReceiverGeneration
  | invalidLocalReport
  | mailbox (error : ReceiverTelemetryConcurrentError)

/-- The publisher's own fields. The mailbox and the generation cell are shared with the senders, and the tracker is seen
here only through the reports it makes. -/
structure PresentationDeliveryPublisher where
  active : Option WorkerReceiverTelemetryAuthorization
  highestReceiverGeneration : UInt64

def PresentationDeliveryPublisher.current (publisher : PresentationDeliveryPublisher) :
    Option ReceiverTelemetryBinding :=
  publisher.active.map (·.owner)

/-- Where the publisher's call in progress is. Its methods take `&mut self`, so that there is at most one. An activation
goes on to the mailbox and then to the store of its generation, a clear to the mailbox. -/
inductive PublisherStage
  | idle
  | activating (permit : WorkerReceiverTelemetryAuthorization)
  | publishing (permit : WorkerReceiverTelemetryAuthorization)
  | clearing (owner : ReceiverTelemetryBinding)
  | dropped

/-- Where a sender's call in progress is: after its first load, or after its mailbox operation. -/
inductive SenderStage
  | idle
  | checkingOut (receiver : ReceiverTelemetryBinding)
  | checkedOut (receiver : ReceiverTelemetryBinding) (lease : Option ReceiverTelemetrySendLease)
  | checkingLease (lease : ReceiverTelemetrySendLease)
  | checkedLease (lease : ReceiverTelemetrySendLease) (valid : Bool)

/-- The publisher, the mailbox and the cell behind it, and the threads `ι` that call through a clone of its sender. -/
structure PublisherSystem (ι : Type) where
  activeGeneration : UInt64
  mailbox : ReceiverTelemetryConcurrentState
  publisher : PresentationDeliveryPublisher
  stage : PublisherStage
  senders : ι → SenderStage

def PublisherSystem.initial {ι : Type} : PublisherSystem ι := ⟨0, .default, ⟨none, 0⟩, .idle, fun _ => .idle⟩

/-- `offerIfDue` is given what the tracker reports: nothing, or a report of which a snapshot can be made or not. -/
inductive PublisherInput
  | activateFromService (permit : WorkerReceiverTelemetryAuthorization)
  | offerIfDue (report : Option (Option ReceiverTelemetrySnapshot)) (lock : LockOutcome) (now : Nat)
  | clearIfMatches (owner : ReceiverTelemetryBinding)
  | drop
  | accessMailbox (lock : LockOutcome)
  | storeGeneration

inductive SenderInput
  | tryCheckoutMatching (receiver : ReceiverTelemetryBinding)
  | leaseIsCurrent (lease : ReceiverTelemetrySendLease)
  | accessMailbox (lock : LockOutcome) (now : Nat)
  | reload

inductive PublisherSystemInput (ι : Type)
  | publisher (input : PublisherInput)
  | sender (thread : ι) (input : SenderInput)

/-- What a call returned at a step, or that it goes on. The sender's answers name what was asked. -/
inductive PublisherReply
  | running
  | activated (result : Except PresentationDeliveryPublisherError Unit)
  | offered (result : Except PresentationDeliveryPublisherError (Option Bool))
  | cleared (result : Except PresentationDeliveryPublisherError Bool)
  | dropped
  | checkedOut (receiver : ReceiverTelemetryBinding)
      (result : Except ReceiverTelemetryConcurrentError (Option ReceiverTelemetrySendLease))
  | current (lease : ReceiverTelemetrySendLease) (result : Except ReceiverTelemetryConcurrentError Bool)

namespace PublisherSystem

variable {ι : Type} (system : PublisherSystem ι)

/-- `activate_from_service` up to its first store. -/
def activateFromService (permit : WorkerReceiverTelemetryAuthorization) : PublisherSystem ι × PublisherReply :=
  if !permit.isValid then (system, .activated (.error .invalidAuthorization))
  else if system.publisher.active = some permit then (system, .activated (.ok ()))
  else if permit.generation ≤ system.publisher.highestReceiverGeneration then
    (system, .activated (.error .staleReceiverGeneration))
  else ({ system with activeGeneration := 0, publisher.active := none, stage := .activating permit }, .running)

/-- The mailbox operation of `activate_from_service`. -/
def activateMailbox (permit : WorkerReceiverTelemetryAuthorization) (lock : LockOutcome) :
    PublisherSystem ι × PublisherReply :=
  match system.mailbox.tryActivate lock permit.owner with
  | (mailbox, .error error) => ({ system with mailbox, stage := .idle }, .activated (.error (.mailbox error)))
  | (mailbox, .ok ()) =>
    ({ system with mailbox, publisher := ⟨some permit, permit.generation⟩, stage := .publishing permit },
      .running)

def offerIfDue (report : Option (Option ReceiverTelemetrySnapshot)) (lock : LockOutcome) (now : Nat) :
    PublisherSystem ι × PublisherReply :=
  if system.publisher.active.isNone then (system, .offered (.ok none))
  else
    match report with
    | none => (system, .offered (.ok none))
    | some none => (system, .offered (.error .invalidLocalReport))
    | some (some snapshot) =>
      let offered := system.mailbox.tryOfferAt lock snapshot now
      ({ system with mailbox := offered.1 }, .offered ((offered.2.mapError .mailbox).map some))

/-- `clear_if_matches` up to its store. -/
def clearIfMatches (owner : ReceiverTelemetryBinding) : PublisherSystem ι × PublisherReply :=
  if system.publisher.current ≠ some owner then (system, .cleared (.ok false))
  else ({ system with activeGeneration := 0, publisher.active := none, stage := .clearing owner }, .running)

/-- The mailbox operation of `clear_if_matches`. -/
def clearMailbox (owner : ReceiverTelemetryBinding) (lock : LockOutcome) : PublisherSystem ι × PublisherReply :=
  let cleared := system.mailbox.tryClearIfMatches lock owner
  ({ system with mailbox := cleared.1, stage := .idle }, .cleared ((cleared.2.mapError .mailbox).map fun _ => true))

def publisherStep (input : PublisherInput) : Option (PublisherSystem ι × PublisherReply) :=
  match system.stage, input with
  | .idle, .activateFromService permit => some (system.activateFromService permit)
  | .idle, .offerIfDue report lock now => some (system.offerIfDue report lock now)
  | .idle, .clearIfMatches owner => some (system.clearIfMatches owner)
  | .idle, .drop => some ({ system with activeGeneration := 0, stage := .dropped }, .dropped)
  | .activating permit, .accessMailbox lock => some (system.activateMailbox permit lock)
  | .clearing owner, .accessMailbox lock => some (system.clearMailbox owner lock)
  | .publishing permit, .storeGeneration =>
    some ({ system with activeGeneration := permit.generation, stage := .idle }, .activated (.ok ()))
  | _, _ => none

variable [DecidableEq ι] (thread : ι)

def enter (stage : SenderStage) : PublisherSystem ι :=
  { system with senders := Function.update system.senders thread stage }

/-- Whether a load of the cell finds the generation. -/
def holds (generation : UInt64) : Bool := generation ≠ 0 && system.activeGeneration = generation

/-- The mailbox operation of `try_checkout_matching`. -/
def checkoutMailbox (self : MailboxId) (receiver : ReceiverTelemetryBinding) (lock : LockOutcome) (now : Nat) :
    PublisherSystem ι × PublisherReply :=
  match system.mailbox.tryCheckoutAt lock self receiver now with
  | (mailbox, .error error) => ({ system with mailbox }.enter thread .idle, .checkedOut receiver (.error error))
  | (mailbox, .ok lease) => ({ system with mailbox }.enter thread (.checkedOut receiver lease), .running)

/-- The mailbox operation of `lease_is_current`. -/
def leaseMailbox (self : MailboxId) (lease : ReceiverTelemetrySendLease) (lock : LockOutcome) (now : Nat) :
    PublisherSystem ι × PublisherReply :=
  match system.mailbox.tryLeaseIsCurrentAt lock self lease now with
  | (mailbox, .error error) => ({ system with mailbox }.enter thread .idle, .current lease (.error error))
  | (mailbox, .ok valid) => ({ system with mailbox }.enter thread (.checkedLease lease valid), .running)

def senderStep (self : MailboxId) (input : SenderInput) : Option (PublisherSystem ι × PublisherReply) :=
  match system.senders thread, input with
  | .idle, .tryCheckoutMatching receiver =>
    if system.holds receiver.receiverGeneration then some (system.enter thread (.checkingOut receiver), .running)
    else some (system, .checkedOut receiver (.ok none))
  | .idle, .leaseIsCurrent lease =>
    if system.holds lease.generation then
      some (system.enter thread (.checkingLease lease), .running)
    else some (system, .current lease (.ok false))
  | .checkingOut receiver, .accessMailbox lock now => some (system.checkoutMailbox thread self receiver lock now)
  | .checkingLease lease, .accessMailbox lock now => some (system.leaseMailbox thread self lease lock now)
  | .checkedOut receiver lease, .reload =>
    some (system.enter thread .idle,
      .checkedOut receiver (.ok (if system.activeGeneration ≠ receiver.receiverGeneration then none else lease)))
  | .checkedLease lease valid, .reload =>
    some (system.enter thread .idle,
      .current lease (.ok (valid && system.activeGeneration = lease.generation)))
  | _, _ => none

/-- One atomic load or store of the cell, or one mailbox operation. `self` is the mailbox of the publisher. -/
def step (self : MailboxId) : PublisherSystemInput ι → Option (PublisherSystem ι × PublisherReply)
  | .publisher input => system.publisherStep input
  | .sender thread input => system.senderStep thread self input

end PublisherSystem

/-- What an event leaves of the mailbox's owner. -/
def ownerAfter (active : Option ReceiverTelemetryBinding) : Option MailboxEvent → Option ReceiverTelemetryBinding
  | some (.activated binding) => some binding
  | some .cleared => none
  | _ => active

theorem MailboxTransition.active_eq {self : MailboxId} {state after : ReceiverTelemetryConcurrentState}
    {event : Option MailboxEvent} (moved : MailboxTransition self state event after) :
    after.mailbox.active = ownerAfter state.mailbox.active event := by
  cases moved with
  | accepted active => exact active.symm
  | same | dropped | activated | cleared | checkedOut => rfl

namespace ReceiverTelemetryConcurrentState

variable {state : ReceiverTelemetryConcurrentState} {self : MailboxId} {lock : LockOutcome}
  {binding : ReceiverTelemetryBinding}

theorem tryActivate_active_of_error {error : ReceiverTelemetryConcurrentError}
    (failed : (state.tryActivate lock binding).2 = .error error) :
    (state.tryActivate lock binding).1.mailbox.active = state.mailbox.active := by
  have moved := (@tryActivate_transition state 0 lock binding).active_eq
  rwa [failed] at moved

theorem tryActivate_active_of_ok (done : (state.tryActivate lock binding).2 = .ok ()) :
    (state.tryActivate lock binding).1.mailbox.active = some binding := by
  have moved := (@tryActivate_transition state 0 lock binding).active_eq
  rw [done, event] at moved
  by_cases known : state.mailbox.active = some binding
  · rw [if_pos known] at moved
    exact moved.trans known
  · rwa [if_neg known] at moved

theorem tryClearIfMatches_active {owner : ReceiverTelemetryBinding}
    (held : (state.tryClearIfMatches lock binding).1.mailbox.active = some owner) :
    state.mailbox.active = some owner := by
  have moved := (@tryClearIfMatches_transition state 0 lock binding).active_eq
  rw [held] at moved
  generalize (state.tryClearIfMatches lock binding).2 = result at moved
  rcases result with error | done
  · exact moved.symm
  · cases done with
    | false => exact moved.symm
    | true => cases moved

theorem tryOfferAt_active {report : ReceiverTelemetrySnapshot} {now : Nat} :
    (state.tryOfferAt lock report now).1.mailbox.active = state.mailbox.active := by
  have moved := (@tryOfferAt_transition state 0 lock report now).active_eq
  generalize (state.tryOfferAt lock report now).2 = result at moved
  cases result <;> exact moved

theorem tryCheckoutAt_active {now : Nat} :
    (state.tryCheckoutAt lock self binding now).1.mailbox.active = state.mailbox.active := by
  have moved := (@tryCheckoutAt_transition state self lock binding now).active_eq
  generalize (state.tryCheckoutAt lock self binding now).2 = result at moved
  rcases result with error | lease
  · exact moved
  · cases lease <;> exact moved

end ReceiverTelemetryConcurrentState

/-- An activation or a clear has ended the authority of the owner before it, and is to return to the mailbox. -/
def PublisherStage.Retiring : PublisherStage → Prop
  | .activating _ | .clearing _ => True
  | _ => False

/-- What a step does to the cell, the publisher and the owner of the mailbox. A step of any other kind leaves all three,
and it leaves a sender with a lease found current only if the mailbox is the lease's owner's. -/
inductive PublisherMove {ι : Type} (system : PublisherSystem ι) : PublisherSystem ι → Prop
  | quiet {mailbox senders} (same : mailbox.mailbox.active = system.mailbox.mailbox.active)
      (found : ∀ thread lease, senders thread = .checkedLease lease true →
        system.senders thread = .checkedLease lease true ∨ system.mailbox.mailbox.active = some lease.report.binding) :
      PublisherMove system { system with mailbox, senders }
  | retired {stage} (idle : system.stage = .idle) (retiring : stage.Retiring)
      (newer : ∀ permit, stage = .activating permit → system.publisher.highestReceiverGeneration < permit.generation) :
      PublisherMove system { system with activeGeneration := 0, publisher.active := none, stage }
  | returned {mailbox} (retiring : system.stage.Retiring)
      (left : ∀ owner, mailbox.mailbox.active = some owner → system.mailbox.mailbox.active = some owner) :
      PublisherMove system { system with mailbox, stage := .idle }
  | activated {permit mailbox} (active : system.stage = .activating permit)
      (owned : mailbox.mailbox.active = some permit.owner) :
      PublisherMove system
        { system with mailbox, publisher := ⟨some permit, permit.generation⟩, stage := .publishing permit }
  | published {permit} (ready : system.stage = .publishing permit) :
      PublisherMove system { system with activeGeneration := permit.generation, stage := .idle }
  | dropped (idle : system.stage = .idle) :
      PublisherMove system { system with activeGeneration := 0, stage := .dropped }

section Moves

open ReceiverTelemetryConcurrentState

variable {ι : Type} {system : PublisherSystem ι} {made : PublisherSystem ι × PublisherReply}
  {self : MailboxId} {thread : ι}
  {permit : WorkerReceiverTelemetryAuthorization} {lock : LockOutcome}

theorem PublisherMove.refl : PublisherMove system system :=
  .quiet rfl fun _ _ found => .inl found

theorem PublisherSystem.activateFromService_move (idle : system.stage = .idle) :
    PublisherMove system (system.activateFromService permit).1 := by
  unfold activateFromService
  split
  · exact .refl
  split
  · exact .refl
  split
  · exact .refl
  · next newer =>
    refine .retired idle trivial fun other chosen => ?_
    cases chosen
    exact UInt64.not_le.mp newer

theorem PublisherSystem.activateMailbox_move (active : system.stage = .activating permit) :
    PublisherMove system (system.activateMailbox permit lock).1 := by
  unfold activateMailbox
  split
  · next mailbox error failed =>
    have same := tryActivate_active_of_error (congrArg Prod.snd failed)
    rw [failed] at same
    exact .returned (active ▸ trivial) fun owner held => same.symm.trans held
  · next mailbox done =>
    have owned := tryActivate_active_of_ok (congrArg Prod.snd done)
    rw [done] at owned
    exact .activated active owned

theorem PublisherSystem.publisherStep_move {input : PublisherInput} (taken : system.publisherStep input = some made) :
    PublisherMove system made.1 := by
  unfold publisherStep at taken
  split at taken
  · next idle =>
    cases taken
    exact activateFromService_move idle
  · next report lock now idle =>
    cases taken
    unfold offerIfDue
    split
    · exact .refl
    split
    · exact .refl
    · exact .refl
    · exact .quiet tryOfferAt_active fun _ _ found => .inl found
  · next owner idle =>
    cases taken
    unfold clearIfMatches
    split
    · exact .refl
    · exact .retired idle trivial (by simp)
  · next idle =>
    cases taken
    exact .dropped idle
  · next active =>
    cases taken
    exact activateMailbox_move active
  · next clearing =>
    cases taken
    exact .returned (clearing ▸ trivial) fun _ => tryClearIfMatches_active
  · next ready =>
    cases taken
    exact .published ready
  · cases taken

variable [DecidableEq ι]

/-- A sender that enters a stage with no lease found current. -/
theorem PublisherMove.enter {mailbox : ReceiverTelemetryConcurrentState} {stage : SenderStage}
    (same : mailbox.mailbox.active = system.mailbox.mailbox.active)
    (found : ∀ lease, stage = .checkedLease lease true → system.mailbox.mailbox.active = some lease.report.binding) :
    PublisherMove system ({ system with mailbox }.enter thread stage) := by
  refine .quiet same fun other lease entered => ?_
  by_cases own : other = thread
  · subst own
    rw [Function.update_self] at entered
    exact .inr (found lease entered)
  · rw [Function.update_of_ne own] at entered
    exact .inl entered

/-- Each atomic step of a sender is one of the moves, at whatever stage its thread is. Interleavings need no treatment
of their own after this. -/
theorem PublisherSystem.senderStep_move {input : SenderInput}
    (taken : system.senderStep thread self input = some made) : PublisherMove system made.1 := by
  unfold senderStep at taken
  split at taken
  · split at taken
    · cases taken
      exact .enter rfl (by simp)
    · cases taken
      exact .refl
  · split at taken
    · cases taken
      exact .enter rfl (by simp)
    · cases taken
      exact .refl
  · next receiver lock now entered =>
    cases taken
    have same := @tryCheckoutAt_active system.mailbox self lock receiver now
    unfold checkoutMailbox
    split
    · next made =>
      rw [made] at same
      exact .enter same (by simp)
    · next made =>
      rw [made] at same
      exact .enter same (by simp)
  · next lease lock now entered =>
    cases taken
    have same := @tryLeaseIsCurrentAt_state system.mailbox self lock lease now
    unfold leaseMailbox
    split
    · next made =>
      rw [made] at same
      exact .enter (congrArg (·.mailbox.active) same) (by simp)
    · next valid made =>
      rw [made] at same
      refine .enter (congrArg (·.mailbox.active) same) fun found current => ?_
      obtain ⟨rfl, rfl⟩ := SenderStage.checkedLease.inj current
      exact (current_of_reply (congrArg Prod.snd made)).2.1
  · cases taken
    exact .enter rfl (by simp)
  · cases taken
    exact .enter rfl (by simp)
  · cases taken

theorem PublisherSystem.step_move {input : PublisherSystemInput ι} (taken : system.step self input = some made) :
    PublisherMove system made.1 := by
  cases input with
  | publisher => exact publisherStep_move taken
  | sender => exact senderStep_move taken

end Moves

/-- How the cell, the publisher and the mailbox, which are written one after the other, agree between two writes. -/
structure PublisherSystem.Coherent {ι : Type} (system : PublisherSystem ι) : Prop where
  stored : system.activeGeneration ≠ 0 → ∃ permit, system.publisher.active = some permit ∧
    permit.generation = system.activeGeneration
  owned : ∀ permit, system.publisher.active = some permit → system.mailbox.mailbox.active = some permit.owner
  highest : ∀ owner, system.mailbox.mailbox.active = some owner →
    owner.receiverGeneration ≠ 0 ∧ owner.receiverGeneration = system.publisher.highestReceiverGeneration
  newer : ∀ permit, system.stage = .activating permit →
    system.publisher.highestReceiverGeneration < permit.generation
  ready : ∀ permit, system.stage = .publishing permit → system.publisher.active = some permit
  inactive : system.stage.Retiring → system.publisher.active = none
  /-- A lease found current belongs to the owner of the mailbox, or to one whose generation is over. -/
  leased : ∀ thread lease, system.senders thread = .checkedLease lease true →
    lease.generation ≠ 0 ∧
      lease.generation ≤ system.publisher.highestReceiverGeneration ∧
      ∀ owner, system.mailbox.mailbox.active = some owner →
        owner.receiverGeneration = lease.generation → owner = lease.report.binding

/-- No activation under way is of this generation or an earlier one. -/
structure PublisherSystem.Past {ι : Type} (generation : UInt64) (system : PublisherSystem ι) : Prop where
  reached : generation ≤ system.publisher.highestReceiverGeneration
  ready : ∀ permit, system.stage = .publishing permit → generation < permit.generation

/-- No load finds this generation from here on. -/
inductive PublisherSystem.Over {ι : Type} (generation : UInt64) (system : PublisherSystem ι) : Prop
  | zero (unused : generation = 0)
  | dropped (gone : system.stage = .dropped) (cell : system.activeGeneration = 0)
  | past (past : system.Past generation) (cell : system.activeGeneration ≠ generation)

namespace PublisherSystem

variable {ι : Type} {system after : PublisherSystem ι} {generation : UInt64}

theorem initial_coherent : (initial : PublisherSystem ι).Coherent := by
  constructor <;> simp [initial, ReceiverTelemetryConcurrentState.default]

theorem Coherent.move (coherent : system.Coherent) (moved : PublisherMove system after) : after.Coherent := by
  obtain ⟨stored, owned, highest, newer, ready, inactive, leased⟩ := coherent
  cases moved with
  | quiet same found =>
    refine ⟨stored, fun permit active => same.trans (owned permit active), fun owner active =>
      highest owner (same.symm.trans active), newer, ready, inactive, fun thread lease current => ?_⟩
    rcases found thread lease current with before | active
    · obtain ⟨nonzero, reached, unique⟩ := leased thread lease before
      exact ⟨nonzero, reached, fun owner active => unique owner (same.symm.trans active)⟩
    · obtain ⟨nonzero, reached⟩ := highest _ active
      refine ⟨nonzero, UInt64.le_of_eq reached, fun owner other _ => ?_⟩
      exact Option.some.inj (other.symm.trans (same.trans active))
  | @retired stage idle retiring later =>
    refine ⟨by simp, by simp, highest, later, fun permit chosen => ?_, fun _ => rfl, leased⟩
    cases chosen
    exact retiring.elim
  | returned retiring left =>
    refine ⟨stored, by simp [inactive retiring], fun owner active => highest owner (left owner active),
      by simp, by simp,
      nofun, fun thread lease current => ?_⟩
    obtain ⟨nonzero, reached, unique⟩ := leased thread lease current
    exact ⟨nonzero, reached, fun owner active => unique owner (left owner active)⟩
  | @activated permit mailbox activating active =>
    have later := newer permit activating
    refine ⟨fun nonzero => ?_, ?_, ?_, by simp, by simp, nofun, fun thread lease current => ?_⟩
    · obtain ⟨_, before, _⟩ := stored nonzero
      cases (inactive (activating ▸ trivial)).symm.trans before
    · intro other chosen
      cases chosen
      exact active
    · intro owner other
      cases active.symm.trans other
      exact ⟨(UInt64.ne_of_lt (UInt64.lt_of_le_of_lt UInt64.zero_le later)).symm, rfl⟩
    · obtain ⟨nonzero, reached, _⟩ := leased thread lease current
      refine ⟨nonzero, UInt64.le_trans reached (UInt64.le_of_lt later), fun owner other same => ?_⟩
      cases active.symm.trans other
      exact absurd (same ▸ later) (UInt64.not_lt.mpr reached)
  | @published permit arrived =>
    exact ⟨fun _ => ⟨permit, ready permit arrived, rfl⟩, owned, highest, by simp, by simp, nofun, leased⟩
  | dropped => exact ⟨by simp, owned, highest, by simp, by simp, nofun, leased⟩

theorem Past.move (past : system.Past generation) (coherent : system.Coherent) (moved : PublisherMove system after) :
    after.Past generation := by
  obtain ⟨reached, ready⟩ := past
  cases moved with
  | quiet => exact ⟨reached, ready⟩
  | @activated permit _ activating =>
    have later := UInt64.lt_of_le_of_lt reached (coherent.newer permit activating)
    refine ⟨UInt64.le_of_lt later, fun other chosen => ?_⟩
    cases chosen
    exact later
  | @retired stage _ retiring =>
    refine ⟨reached, fun permit chosen => ?_⟩
    cases chosen
    exact retiring.elim
  | returned | published | dropped => exact ⟨reached, by simp⟩

/-- The cell is changed to zero, or to the generation of the activation under way. -/
theorem cell_of_move (moved : PublisherMove system after) :
    after.activeGeneration = system.activeGeneration ∨ after.activeGeneration = 0 ∨
      ∃ permit, system.stage = .publishing permit ∧ after.activeGeneration = permit.generation := by
  cases moved with
  | published ready => exact .inr (.inr ⟨_, ready, rfl⟩)
  | quiet | returned | activated => exact .inl rfl
  | retired | dropped => exact .inr (.inl rfl)

theorem Over.move (ended : system.Over generation) (coherent : system.Coherent) (moved : PublisherMove system after) :
    after.Over generation := by
  rcases ended with unused | ⟨gone, cell⟩ | ⟨past, cell⟩
  · exact .zero unused
  · cases moved with
    | quiet => exact .dropped gone cell
    | _ => simp_all [PublisherStage.Retiring]
  · by_cases unused : generation = 0
    · exact .zero unused
    refine .past (past.move coherent moved) ?_
    rcases cell_of_move moved with same | zero | ⟨permit, ready, stored⟩
    · rwa [same]
    · rw [zero]
      exact Ne.symm unused
    · rw [stored]
      exact (UInt64.ne_of_lt (past.ready permit ready)).symm

theorem Over.holds (ended : system.Over generation) : system.holds generation = false := by
  rcases ended with unused | ⟨_, cell⟩ | ⟨_, cell⟩
  · simp [PublisherSystem.holds, unused]
  · simp [PublisherSystem.holds, cell, eq_comm]
  · simp [PublisherSystem.holds, cell]

theorem Coherent.generation_eq {permit : WorkerReceiverTelemetryAuthorization} (coherent : system.Coherent)
    (active : system.publisher.active = some permit) : permit.generation = system.publisher.highestReceiverGeneration :=
  (coherent.highest _ (coherent.owned permit active)).2

/-- The active owner's generation is over once the cell is zero, as long as no generation is about to be stored. -/
theorem Coherent.over {owner : ReceiverTelemetryBinding} (coherent : system.Coherent)
    (active : system.publisher.current = some owner)
    (highest : after.publisher.highestReceiverGeneration = system.publisher.highestReceiverGeneration)
    (cell : after.activeGeneration = 0) (stage : ∀ permit, after.stage ≠ .publishing permit) :
    after.Over owner.receiverGeneration := by
  obtain ⟨permit, held, rfl⟩ := Option.map_eq_some_iff.mp active
  by_cases unused : permit.generation = 0
  · exact .zero unused
  refine .past ⟨?_, fun permit ready => absurd ready (stage permit)⟩ (cell ▸ Ne.symm unused)
  rw [highest]
  exact UInt64.le_of_eq (coherent.generation_eq held)

variable [DecidableEq ι] {self : MailboxId} {input : PublisherSystemInput ι} {lease : ReceiverTelemetrySendLease}
  {reply : PublisherReply} {owner : ReceiverTelemetryBinding}

theorem senderStep_checkout {thread : ι} (ended : system.Over owner.receiverGeneration)
    (taken : system.senderStep thread self (.tryCheckoutMatching owner) = some (after, reply)) :
    reply = .checkedOut owner (.ok none) := by
  have missed := ended.holds
  unfold senderStep at taken
  split at taken <;> simp_all

theorem senderStep_lease {thread : ι} (ended : system.Over lease.generation)
    (taken : system.senderStep thread self (.leaseIsCurrent lease) = some (after, reply)) :
    reply = .current lease (.ok false) := by
  have missed := ended.holds
  unfold senderStep at taken
  split at taken <;> simp_all

/-- Only the last load of `lease_is_current` can answer that a lease is current. -/
theorem step_current (taken : system.step self input = some (after, .current lease (.ok true))) :
    ∃ thread, system.senders thread = .checkedLease lease true ∧
      system.activeGeneration = lease.generation := by
  cases input with
  | publisher input =>
    change system.publisherStep input = _ at taken
    unfold publisherStep at taken
    split at taken
    case h_2 report lock now _ => rcases report with _ | _ | snapshot <;> grind [offerIfDue]
    all_goals grind [activateFromService, activateMailbox, clearIfMatches, clearMailbox]
  | sender thread input =>
    refine ⟨thread, ?_⟩
    change system.senderStep thread self input = _ at taken
    unfold senderStep at taken
    split at taken <;> grind [checkoutMailbox, leaseMailbox]

theorem Coherent.current (coherent : system.Coherent)
    (taken : system.step self input = some (after, .current lease (.ok true))) :
    system.publisher.current = some lease.report.binding := by
  obtain ⟨thread, found, loaded⟩ := step_current taken
  obtain ⟨nonzero, _, unique⟩ := coherent.leased thread lease found
  obtain ⟨permit, active, stored⟩ := coherent.stored (loaded ▸ nonzero)
  rw [PresentationDeliveryPublisher.current, active, Option.map_some,
    unique permit.owner (coherent.owned permit active) (stored.trans loaded)]

end PublisherSystem

abbrev PublisherCall (ι : Type) := Call (PublisherSystem ι) (PublisherSystemInput ι) PublisherReply

/-- The store that ends the owner's authority: of `clear_if_matches` on the active owner, of an activation of a newer
valid permit in its place, whatever comes of it, or of the publisher's drop. -/
inductive Revokes {ι : Type} (owner : ReceiverTelemetryBinding) (call : PublisherCall ι) : Prop
  | cleared (asked : call.input = .publisher (.clearIfMatches owner))
      (active : call.before.publisher.current = some owner)
  | replaced {permit : WorkerReceiverTelemetryAuthorization}
      (asked : call.input = .publisher (.activateFromService permit)) (valid : permit.isValid)
      (newer : call.before.publisher.highestReceiverGeneration < permit.generation)
      (active : call.before.publisher.current = some owner)
  | dropped (asked : call.input = .publisher .drop)

/-- The generation that an activation stores when it succeeds. An activation of the active permit stores none. -/
def activatedGeneration {ι : Type} (call : PublisherCall ι) : Option UInt64 :=
  match call.before.stage, call.input, call.reply with
  | .publishing permit, .publisher _, .activated (.ok ()) => some permit.generation
  | _, _, _ => none

structure RevocationFinal {ι : Type} (history : List (PublisherCall ι)) : Prop where
  /-- A call on a revoked owner that starts afterwards returns nothing at its first load. -/
  revoked : ∀ earlier revoking later owner, history = earlier ++ revoking :: later → Revokes owner revoking →
    ∀ call ∈ later, ∀ thread,
      (call.input = .sender thread (.tryCheckoutMatching owner) → call.reply = .checkedOut owner (.ok none)) ∧
        ∀ lease, lease.report.binding = owner → call.input = .sender thread (.leaseIsCurrent lease) →
          call.reply = .current lease (.ok false)
  current : ∀ call ∈ history, ∀ lease, call.reply = .current lease (.ok true) →
    call.before.publisher.current = some lease.report.binding
  increasing : (history.filterMap activatedGeneration).Pairwise (· < ·)

section Runs

open PublisherSystem

variable {ι : Type} [DecidableEq ι] {self : MailboxId} {system final : PublisherSystem ι}
  {history : List (PublisherCall ι)} {call : PublisherCall ι} {owner : ReceiverTelemetryBinding} {generation : UInt64}

theorem Coherent.run (run : Run (Partial (step · self)) system history final) (coherent : system.Coherent) :
    final.Coherent :=
  run.invariant coherent fun _ _ _ _ before taken => before.move (step_move taken)

theorem Over.run (run : Run (Partial (step · self)) system history final) (coherent : system.Coherent)
    (ended : system.Over generation) : final.Over generation :=
  (run.invariant (P := fun system => system.Coherent ∧ system.Over generation) ⟨coherent, ended⟩
    fun _ _ _ _ before taken => ⟨before.1.move (step_move taken), before.2.move before.1 (step_move taken)⟩).2

theorem Revokes.over (revokes : Revokes owner call) (coherent : call.before.Coherent)
    (taken : Partial (step · self) call.before call.input call.reply call.after) :
    call.after.Over owner.receiverGeneration := by
  obtain ⟨before, _⟩ := call
  cases revokes with
  | cleared asked active =>
    cases asked
    cases stage : before.stage <;> simp [Partial, step, publisherStep, stage] at taken
    rw [clearIfMatches, if_neg (not_not.mpr active)] at taken
    cases taken
    exact coherent.over active rfl rfl (by simp)
  | @replaced permit asked valid newer active =>
    cases asked
    have other : before.publisher.active ≠ some permit := by
      intro same
      exact UInt64.ne_of_lt newer (coherent.generation_eq same).symm
    cases stage : before.stage <;> simp [Partial, step, publisherStep, stage] at taken
    rw [activateFromService, if_neg (by simp [valid]), if_neg other, if_neg (UInt64.not_le.mpr newer)] at taken
    cases taken
    exact coherent.over active rfl rfl (by simp)
  | dropped asked =>
    cases asked
    cases stage : before.stage <;> simp [Partial, step, publisherStep, stage] at taken
    obtain ⟨rfl, rfl⟩ := taken
    exact .dropped rfl rfl

/-- A stored generation is the one the activation was about to store, and it is past from then on. -/
theorem activatedGeneration_past (coherent : call.before.Coherent)
    (taken : Partial (step · self) call.before call.input call.reply call.after)
    (stored : activatedGeneration call = some generation) :
    (∃ permit, call.before.stage = .publishing permit ∧ permit.generation = generation) ∧
      call.after.Past generation := by
  obtain ⟨before, input, _⟩ := call
  unfold activatedGeneration at stored
  split at stored
  · next permit input ready asked _ =>
    cases stored
    refine ⟨⟨permit, ready, rfl⟩, ?_⟩
    have level := coherent.generation_eq (coherent.ready permit ready)
    change before.stage = _ at ready
    cases asked
    cases input <;> simp [Partial, step, publisherStep, ready] at taken
    obtain ⟨rfl, rfl⟩ := taken
    exact ⟨UInt64.le_of_eq level, by simp⟩
  · cases stored

theorem activated_past (run : Run (Partial (step · self)) initial history final) :
    (∀ generation ∈ history.filterMap activatedGeneration, final.Past generation) ∧
      (history.filterMap activatedGeneration).Pairwise (· < ·) := by
  induction run with
  | start => simp
  | @next past current input reply after before taken ih =>
    have coherent := Coherent.run before initial_coherent
    obtain ⟨earlier, increasing⟩ := ih
    have kept : ∀ generation ∈ past.filterMap activatedGeneration, after.Past generation :=
      fun generation member => (earlier generation member).move coherent (step_move taken)
    rw [List.filterMap_append]
    cases stored : activatedGeneration ⟨current, input, reply, after⟩ with
    | none =>
      rw [List.filterMap_cons_none stored, List.filterMap_nil, List.append_nil]
      exact ⟨kept, increasing⟩
    | some =>
      obtain ⟨⟨permit, ready, rfl⟩, now⟩ := activatedGeneration_past coherent taken stored
      rw [List.filterMap_cons_some stored, List.filterMap_nil]
      constructor
      · exact forall_mem_concat kept now
      · refine List.pairwise_append.mpr ⟨increasing, List.pairwise_singleton _ _, fun generation old last new => ?_⟩
        rw [List.mem_singleton.mp new]
        exact (earlier generation old).ready permit ready

end Runs

open PublisherSystem in
/-- A revocation is final, in every interleaving of the publisher with any number of sender threads. A step is one
atomic access, so that a revocation may fall between any two loads of a sender. -/
theorem publisher_revocation_final {ι : Type} [DecidableEq ι] {self : MailboxId} {history : List (PublisherCall ι)}
    {final : PublisherSystem ι} (run : Run (Partial (step · self)) initial history final) :
    RevocationFinal history := by
  constructor
  · intro earlier revoking later owner cut revokes call member thread
    obtain ⟨begun, made, since⟩ := run.split cut
    have coherent := Coherent.run begun initial_coherent
    obtain ⟨_, _, _, between, taken, _⟩ := since.of_mem member
    have ended := Over.run between (coherent.move (step_move made)) (revokes.over coherent made)
    constructor
    · intro asked
      rw [asked] at taken
      exact senderStep_checkout ended taken
    · intro lease same asked
      subst same
      rw [asked] at taken
      exact senderStep_lease ended taken
  · intro call member lease answered
    obtain ⟨_, _, _, begun, taken, _⟩ := run.of_mem member
    rw [answered] at taken
    exact (Coherent.run begun initial_coherent).current taken
  · exact (activated_past run).2

def publishedPermit : WorkerReceiverTelemetryAuthorization :=
  ⟨⟨1, 1, 1, 1, 1, 1, 1, 1, 1⟩, ⟨1, 2, 1, 1, 1⟩, 1⟩

def publishedLease : ReceiverTelemetrySendLease := ⟨⟨publishedPermit.owner, 7, ⟨0, 0, 0, 0, 0, 0, 0, 0⟩⟩, 1, 3⟩

def publishedInputs : List (PublisherSystemInput Unit) :=
  [.publisher (.activateFromService publishedPermit), .publisher (.accessMailbox .acquired),
    .publisher .storeGeneration,
    .publisher (.offerIfDue (some (some publishedLease.report)) .acquired 0),
    .sender () (.tryCheckoutMatching publishedPermit.owner), .sender () (.accessMailbox .acquired 0),
    .sender () .reload,
    .sender () (.leaseIsCurrent publishedLease), .sender () (.accessMailbox .acquired 0), .sender () .reload,
    .publisher (.clearIfMatches publishedPermit.owner), .publisher (.accessMailbox .wouldBlock),
    .sender () (.leaseIsCurrent publishedLease), .sender () (.tryCheckoutMatching publishedPermit.owner)]

/-- A lease that was checked out is current until its owner is revoked, even though the revocation finds the mailbox
busy; after it the lease is not current, and nothing more is checked out. -/
theorem publisher_revocation_final_busy :
    ∃ history final, tryCalls (PublisherSystem.step · 3) .initial publishedInputs = some (history, final) ∧
      (history.map (·.reply)).drop 6 = [.checkedOut publishedPermit.owner (.ok (some publishedLease)),
        .running, .running, .current publishedLease (.ok true), .running, .cleared (.error (.mailbox .busy)),
        .current publishedLease (.ok false), .checkedOut publishedPermit.owner (.ok none)] ∧
      RevocationFinal history := by
  have made : (tryCalls (PublisherSystem.step · 3) .initial publishedInputs).map
      (fun result => (result.1.map (·.reply)).drop 6) = some _ := rfl
  obtain ⟨⟨history, final⟩, ran, replies⟩ := Option.map_eq_some_iff.mp made
  exact ⟨history, final, ran, replies, publisher_revocation_final (Run.of_tryCalls ran).1⟩

end ClassMesh
