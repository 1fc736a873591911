import ClassMesh.Control.ReceiverTelemetry
import ClassMesh.Foundation.Run

namespace ClassMesh

open Foundation

/-- The one-report slot between the playback thread and a sender. -/
structure ReceiverTelemetryMailbox where
  active : Option ReceiverTelemetryBinding
  lastSequence : Option UInt64
  pending : Option ReceiverTelemetrySnapshot
  deriving DecidableEq

namespace ReceiverTelemetryMailbox

variable (box : ReceiverTelemetryMailbox)

def activate (binding : ReceiverTelemetryBinding) : ReceiverTelemetryMailbox × Except ReceiverTelemetryWireError Unit :=
  if !binding.isValid then (box, .error .invalidBinding)
  else if box.active ≠ some binding then (⟨some binding, none, none⟩, .ok ())
  else (box, .ok ())

def clearIfMatches (binding : ReceiverTelemetryBinding) : ReceiverTelemetryMailbox × Bool :=
  if box.active ≠ some binding then (box, false) else (⟨none, none, none⟩, true)

def offer (sample : ReceiverTelemetrySnapshot) : ReceiverTelemetryMailbox × Except ReceiverTelemetryWireError Bool :=
  match box.active with
  | none => (box, .error .inactive)
  | some active =>
    if sample.binding ≠ active then (box, .error .bindingMismatch)
    else if sample.sequence = 0 then (box, .error .invalidSequence)
    else if box.lastSequence.any fun last => sample.sequence ≤ last then (box, .error .nonmonotonicSequence)
    else ({ box with pending := some sample, lastSequence := some sample.sequence }, .ok box.pending.isSome)

def takeMatching (binding : ReceiverTelemetryBinding) : ReceiverTelemetryMailbox × Option ReceiverTelemetrySnapshot :=
  if box.active = some binding then ({ box with pending := none }, box.pending) else (box, none)

end ReceiverTelemetryMailbox

structure ReceiverTelemetryConcurrentState where
  mailbox : ReceiverTelemetryMailbox
  incarnation : UInt64
  lastOfferedAt : Option Nat
  deriving DecidableEq

def ReceiverTelemetryConcurrentState.default : ReceiverTelemetryConcurrentState := ⟨⟨none, none, none⟩, 0, none⟩

def ReceiverTelemetryConcurrentState.freshAt (state : ReceiverTelemetryConcurrentState) (now : Nat) : Bool :=
  state.lastOfferedAt.any fun accepted => accepted ≤ now && now - accepted ≤ maxReceiverTelemetryGap

/-- The allocation behind the clones of one mailbox. A lease holds a weak pointer to it, so that the number of a mailbox
that is gone is not given to another one as long as one of its leases is there. -/
abbrev MailboxId := Nat

structure ReceiverTelemetrySendLease where
  report : ReceiverTelemetrySnapshot
  incarnation : UInt64
  owner : MailboxId
  deriving DecidableEq

inductive ReceiverTelemetryConcurrentError
  | busy
  | poisoned
  | wire (error : ReceiverTelemetryWireError)
  deriving DecidableEq

/-- What `try_lock` finds. -/
inductive LockOutcome
  | acquired
  | wouldBlock
  | poisoned
  deriving DecidableEq

namespace ReceiverTelemetryConcurrentState

variable (state : ReceiverTelemetryConcurrentState) (lock : LockOutcome)

def tryAccess {ρ : Type}
    (access : ReceiverTelemetryConcurrentState →
      ReceiverTelemetryConcurrentState × Except ReceiverTelemetryWireError ρ) :
    ReceiverTelemetryConcurrentState × Except ReceiverTelemetryConcurrentError ρ :=
  match lock with
  | .wouldBlock => (state, .error .busy)
  | .poisoned => (state, .error .poisoned)
  | .acquired => ((access state).1, (access state).2.mapError .wire)

def tryActivate (binding : ReceiverTelemetryBinding) :
    ReceiverTelemetryConcurrentState × Except ReceiverTelemetryConcurrentError Unit :=
  state.tryAccess lock fun state =>
    if !binding.isValid then (state, .error .invalidBinding)
    else if state.mailbox.active ≠ some binding then
      -- `checked_add`
      if state.incarnation.toNat + 1 < 2 ^ 64 then
        match state.mailbox.activate binding with
        | (mailbox, .error error) => ({ state with mailbox }, .error error)
        | (mailbox, .ok ()) => (⟨mailbox, state.incarnation + 1, none⟩, .ok ())
      else (state, .error .lifecycleExhausted)
    else (state, .ok ())

def tryOfferAt (report : ReceiverTelemetrySnapshot) (offeredAt : Nat) :
    ReceiverTelemetryConcurrentState × Except ReceiverTelemetryConcurrentError Bool :=
  state.tryAccess lock fun state =>
    if state.lastOfferedAt.any fun previous => offeredAt < previous then (state, .error .clockRegression)
    else
      match state.mailbox.offer report with
      | (mailbox, .error error) => ({ state with mailbox }, .error error)
      | (mailbox, .ok replaced) => (⟨mailbox, state.incarnation, some offeredAt⟩, .ok replaced)

def tryClearIfMatches (binding : ReceiverTelemetryBinding) :
    ReceiverTelemetryConcurrentState × Except ReceiverTelemetryConcurrentError Bool :=
  state.tryAccess lock fun state =>
    match state.mailbox.clearIfMatches binding with
    | (mailbox, true) => (⟨mailbox, state.incarnation, none⟩, .ok true)
    | (mailbox, false) => ({ state with mailbox }, .ok false)

/-- `self` is the mailbox whose state this is. -/
def tryCheckoutAt (self : MailboxId) (binding : ReceiverTelemetryBinding) (now : Nat) :
    ReceiverTelemetryConcurrentState × Except ReceiverTelemetryConcurrentError (Option ReceiverTelemetrySendLease) :=
  state.tryAccess lock fun state =>
    if state.mailbox.active ≠ some binding then (state, .ok none)
    else if !state.freshAt now then ({ state with mailbox := { state.mailbox with pending := none } }, .ok none)
    else
      match state.mailbox.takeMatching binding with
      | (mailbox, taken) => ({ state with mailbox }, .ok (taken.map fun report => ⟨report, state.incarnation, self⟩))

def tryLeaseIsCurrentAt (self : MailboxId) (lease : ReceiverTelemetrySendLease) (now : Nat) :
    ReceiverTelemetryConcurrentState × Except ReceiverTelemetryConcurrentError Bool :=
  if lease.owner ≠ self then (state, .ok false)
  else
    state.tryAccess lock fun state =>
      (state, .ok (state.mailbox.active = some lease.report.binding && state.incarnation = lease.incarnation &&
        state.mailbox.lastSequence = some lease.report.sequence && state.freshAt now))

end ReceiverTelemetryConcurrentState

inductive MailboxOperation
  | activate (binding : ReceiverTelemetryBinding)
  | offer (report : ReceiverTelemetrySnapshot) (offeredAt : Nat)
  | clearIfMatches (binding : ReceiverTelemetryBinding)
  | checkoutMatching (binding : ReceiverTelemetryBinding) (now : Nat)
  | leaseIsCurrent (lease : ReceiverTelemetrySendLease) (now : Nat)

inductive MailboxReply
  | activated (result : Except ReceiverTelemetryConcurrentError Unit)
  | offered (result : Except ReceiverTelemetryConcurrentError Bool)
  | cleared (result : Except ReceiverTelemetryConcurrentError Bool)
  | checkedOut (result : Except ReceiverTelemetryConcurrentError (Option ReceiverTelemetrySendLease))
  | current (result : Except ReceiverTelemetryConcurrentError Bool)

/-- One operation on one mailbox. -/
def ReceiverTelemetryConcurrentState.apply (state : ReceiverTelemetryConcurrentState) (self : MailboxId)
    (lock : LockOutcome) : MailboxOperation → ReceiverTelemetryConcurrentState × MailboxReply
  | .activate binding => (state.tryActivate lock binding).map id .activated
  | .offer report offeredAt => (state.tryOfferAt lock report offeredAt).map id .offered
  | .clearIfMatches binding => (state.tryClearIfMatches lock binding).map id .cleared
  | .checkoutMatching binding now => (state.tryCheckoutAt lock self binding now).map id .checkedOut
  | .leaseIsCurrent lease now => (state.tryLeaseIsCurrentAt lock self lease now).map id .current

/-- A call through some clone of a mailbox. Which holder makes it does not matter. -/
structure MailboxCall where
  mailbox : MailboxId
  lock : LockOutcome
  operation : MailboxOperation

/-- Every mailbox there is. -/
abbrev Mailboxes := MailboxId → ReceiverTelemetryConcurrentState

def Mailboxes.initial : Mailboxes := fun _ => .default

def Mailboxes.step (mailboxes : Mailboxes) (call : MailboxCall) : Mailboxes × MailboxReply :=
  let outcome := (mailboxes call.mailbox).apply call.mailbox call.lock call.operation
  (Function.update mailboxes call.mailbox outcome.1, outcome.2)

/-- What a call changed in a mailbox for the leases on it. -/
inductive MailboxEvent
  | activated (binding : ReceiverTelemetryBinding)
  | cleared
  | accepted (report : ReceiverTelemetrySnapshot) (offeredAt : Nat)
  | checkedOut (lease : ReceiverTelemetrySendLease)

/-- An activation of the binding that is active already takes no effect. -/
def ReceiverTelemetryConcurrentState.event (before : ReceiverTelemetryConcurrentState) :
    MailboxOperation → MailboxReply → Option MailboxEvent
  | .activate binding, .activated (.ok ()) =>
    if before.mailbox.active = some binding then none else some (.activated binding)
  | .offer report offeredAt, .offered (.ok _) => some (.accepted report offeredAt)
  | .clearIfMatches _, .cleared (.ok true) => some .cleared
  | .checkoutMatching _ _, .checkedOut (.ok (some lease)) => some (.checkedOut lease)
  | _, _ => none

def mailboxEvent (self : MailboxId) (call : Call Mailboxes MailboxCall MailboxReply) : Option MailboxEvent :=
  if call.input.mailbox = self then (call.before self).event call.input.operation call.reply else none

/-- What each event does to the state of a mailbox. A call that is no event may still drop a pending report that is too
old. -/
inductive MailboxTransition (self : MailboxId) (state : ReceiverTelemetryConcurrentState) :
    Option MailboxEvent → ReceiverTelemetryConcurrentState → Prop
  | same : MailboxTransition self state none state
  | dropped : MailboxTransition self state none { state with mailbox := { state.mailbox with pending := none } }
  | activated {binding incarnation} (counted : incarnation.toNat = state.incarnation.toNat + 1) :
      MailboxTransition self state (some (.activated binding)) ⟨⟨some binding, none, none⟩, incarnation, none⟩
  | cleared : MailboxTransition self state (some .cleared) ⟨⟨none, none, none⟩, state.incarnation, none⟩
  | accepted {report offeredAt} (active : state.mailbox.active = some report.binding)
      (numbered : report.sequence ≠ 0)
      (newer : ∀ last, state.mailbox.lastSequence = some last → last < report.sequence) :
      MailboxTransition self state (some (.accepted report offeredAt))
        ⟨⟨some report.binding, some report.sequence, some report⟩, state.incarnation, some offeredAt⟩
  | checkedOut {report} (pending : state.mailbox.pending = some report) :
      MailboxTransition self state (some (.checkedOut ⟨report, state.incarnation, self⟩))
        { state with mailbox := { state.mailbox with pending := none } }

namespace ReceiverTelemetryConcurrentState

variable {state : ReceiverTelemetryConcurrentState} {self : MailboxId} {lock : LockOutcome}

theorem tryAccess_outcome {ρ : Type}
    {access : ReceiverTelemetryConcurrentState →
      ReceiverTelemetryConcurrentState × Except ReceiverTelemetryWireError ρ} :
    (∃ error, state.tryAccess lock access = (state, .error error)) ∨
      state.tryAccess lock access = ((access state).1, (access state).2.mapError .wire) := by
  cases lock with
  | acquired => exact .inr rfl
  | wouldBlock | poisoned => exact .inl ⟨_, rfl⟩

theorem tryActivate_transition (binding : ReceiverTelemetryBinding) :
    MailboxTransition self state
      (state.event (.activate binding) (.activated (state.tryActivate lock binding).2))
      (state.tryActivate lock binding).1 := by
  unfold tryActivate
  rcases tryAccess_outcome with ⟨_, refused⟩ | entered
  · rw [refused]
    exact .same
  rw [entered]
  cases valid : binding.isValid with
  | false => exact .same
  | true =>
    by_cases known : state.mailbox.active = some binding
    · simp only [known, ne_eq, not_true_eq_false, if_false, Bool.not_true, Bool.false_eq_true, event, Except.mapError,
        if_true]
      exact .same
    · by_cases room : state.incarnation.toNat + 1 < 2 ^ 64
      · have counted : (state.incarnation + 1).toNat = state.incarnation.toNat + 1 := by
          rw [UInt64.toNat_add]
          exact Nat.mod_eq_of_lt room
        simp only [known, ne_eq, not_false_eq_true, if_true, Bool.not_true, Bool.false_eq_true, if_false, event,
          Except.mapError, if_pos room, ReceiverTelemetryMailbox.activate, valid]
        exact .activated counted
      · simp only [known, ne_eq, not_false_eq_true, if_true, Bool.not_true, Bool.false_eq_true, if_false, event,
          Except.mapError, if_neg room]
        exact .same

theorem offer_outcome (box : ReceiverTelemetryMailbox) (report : ReceiverTelemetrySnapshot) :
    (∃ error, box.offer report = (box, .error error)) ∨
      (box.active = some report.binding ∧ report.sequence ≠ 0 ∧
        (∀ last, box.lastSequence = some last → last < report.sequence) ∧
        box.offer report =
          (⟨some report.binding, some report.sequence, some report⟩, .ok box.pending.isSome)) := by
  obtain ⟨active, lastSequence, _⟩ := box
  unfold ReceiverTelemetryMailbox.offer
  cases active with
  | none => exact .inl ⟨_, rfl⟩
  | some active =>
    by_cases bound : report.binding = active
    · by_cases zero : report.sequence = 0
      · exact .inl ⟨.invalidSequence, by simp [bound, zero]⟩
      · by_cases old : lastSequence.any fun last => report.sequence ≤ last
        · exact .inl ⟨.nonmonotonicSequence, by simp [bound, zero, old]⟩
        · have newer : ∀ last, lastSequence = some last → last < report.sequence := by
            intro last known
            subst known
            simpa using old
          exact .inr ⟨by rw [bound], zero, newer, by simp [bound, zero, old]⟩
    · exact .inl ⟨.bindingMismatch, by simp [bound]⟩

theorem tryOfferAt_transition (report : ReceiverTelemetrySnapshot) (offeredAt : Nat) :
    MailboxTransition self state
      (state.event (.offer report offeredAt) (.offered (state.tryOfferAt lock report offeredAt).2))
      (state.tryOfferAt lock report offeredAt).1 := by
  unfold tryOfferAt
  rcases tryAccess_outcome with ⟨error, refused⟩ | entered
  · rw [refused]
    exact .same
  rw [entered]
  by_cases backward : state.lastOfferedAt.any fun previous => offeredAt < previous
  · simp only [if_pos backward]
    exact .same
  · rcases offer_outcome state.mailbox report with ⟨_, refused⟩ | ⟨active, numbered, newer, offered⟩
    · simp only [if_neg backward, refused]
      exact .same
    · simp only [if_neg backward, offered]
      exact .accepted active numbered newer

theorem tryClearIfMatches_transition (binding : ReceiverTelemetryBinding) :
    MailboxTransition self state
      (state.event (.clearIfMatches binding) (.cleared (state.tryClearIfMatches lock binding).2))
      (state.tryClearIfMatches lock binding).1 := by
  unfold tryClearIfMatches
  rcases tryAccess_outcome with ⟨_, refused⟩ | entered
  · rw [refused]
    exact .same
  rw [entered]
  by_cases known : state.mailbox.active = some binding
  · simp only [ReceiverTelemetryMailbox.clearIfMatches, known, ne_eq, not_true_eq_false, if_false]
    exact .cleared
  · simp only [ReceiverTelemetryMailbox.clearIfMatches, known, ne_eq, not_false_eq_true, if_true]
    exact .same

theorem tryCheckoutAt_transition (binding : ReceiverTelemetryBinding) (now : Nat) :
    MailboxTransition self state
      (state.event (.checkoutMatching binding now) (.checkedOut (state.tryCheckoutAt lock self binding now).2))
      (state.tryCheckoutAt lock self binding now).1 := by
  unfold tryCheckoutAt
  rcases tryAccess_outcome with ⟨_, refused⟩ | entered
  · rw [refused]
    exact .same
  rw [entered]
  by_cases known : state.mailbox.active = some binding
  · cases state.freshAt now with
    | false =>
      simp only [known, ne_eq, not_true_eq_false, if_false, Bool.not_false, if_true]
      rw [← known]
      exact .dropped
    | true =>
      simp only [known, ne_eq, not_true_eq_false, if_false, Bool.not_true, Bool.false_eq_true,
        ReceiverTelemetryMailbox.takeMatching, if_true]
      rw [← known]
      cases pending : state.mailbox.pending with
      | none => exact .dropped
      | some => exact .checkedOut pending
  · simp only [known, ne_eq, not_false_eq_true, if_true]
    exact .same

theorem tryLeaseIsCurrentAt_state (lease : ReceiverTelemetrySendLease) (now : Nat) :
    (state.tryLeaseIsCurrentAt lock self lease now).1 = state := by
  unfold tryLeaseIsCurrentAt
  split
  · rfl
  · rcases tryAccess_outcome with ⟨_, refused⟩ | entered
    · rw [refused]
    · rw [entered]

theorem apply_transition (operation : MailboxOperation) :
    MailboxTransition self state (state.event operation (state.apply self lock operation).2)
      (state.apply self lock operation).1 := by
  cases operation with
  | activate binding => exact tryActivate_transition binding
  | offer report offeredAt => exact tryOfferAt_transition report offeredAt
  | clearIfMatches binding => exact tryClearIfMatches_transition binding
  | checkoutMatching binding now => exact tryCheckoutAt_transition binding now
  | leaseIsCurrent lease now =>
    have kept : (state.apply self lock (.leaseIsCurrent lease now)).1 = state := tryLeaseIsCurrentAt_state lease now
    rw [kept]
    exact .same

/-- What a positive answer says about the state it was given in. -/
theorem current_of_reply {lease : ReceiverTelemetrySendLease} {now : Nat}
    (answered : (state.tryLeaseIsCurrentAt lock self lease now).2 = .ok true) :
    lease.owner = self ∧ state.mailbox.active = some lease.report.binding ∧ state.incarnation = lease.incarnation ∧
      state.mailbox.lastSequence = some lease.report.sequence ∧ state.freshAt now = true := by
  unfold tryLeaseIsCurrentAt at answered
  split at answered
  · simp at answered
  · next own =>
    rcases tryAccess_outcome with ⟨_, refused⟩ | entered
    · rw [refused] at answered
      simp at answered
    · rw [entered] at answered
      simp only [Except.mapError, Except.ok.injEq, Bool.and_eq_true, decide_eq_true_eq] at answered
      obtain ⟨⟨⟨active, incarnation⟩, sequence⟩, fresh⟩ := answered
      exact ⟨Decidable.not_not.mp own, active, incarnation, sequence, fresh⟩

theorem freshAt_iff {now : Nat} : state.freshAt now = true ↔
    ∃ accepted, state.lastOfferedAt = some accepted ∧ accepted ≤ now ∧ now ≤ accepted + maxReceiverTelemetryGap := by
  unfold freshAt
  rw [Option.any_eq_true]
  refine exists_congr fun accepted => and_congr_right fun _ => ?_
  rw [Bool.and_eq_true, decide_eq_true_eq, decide_eq_true_eq]
  omega

end ReceiverTelemetryConcurrentState

/-- A call concerns one mailbox, and what it does there is what its event says. -/
theorem Mailboxes.step_transition {mailboxes after : Mailboxes} {call : MailboxCall} {reply : MailboxReply}
    (taken : mailboxes.step call = (after, reply)) (self : MailboxId) :
    MailboxTransition self (mailboxes self) (mailboxEvent self ⟨mailboxes, call, reply, after⟩) (after self) := by
  obtain ⟨rfl, rfl⟩ := Prod.ext_iff.mp taken
  by_cases here : call.mailbox = self
  · subst here
    simp only [mailboxEvent, if_true, step, Function.update_self]
    exact ReceiverTelemetryConcurrentState.apply_transition call.operation
  · simp only [mailboxEvent, if_neg here, step, Function.update_of_ne (Ne.symm here)]
    exact .same

end ClassMesh
