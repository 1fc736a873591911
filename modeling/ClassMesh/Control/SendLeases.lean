import ClassMesh.Control.TelemetryMailbox

namespace ClassMesh

open Foundation Mailboxes

/-- The newest sequence number accepted since the activation, or zero. -/
def ReceiverTelemetryConcurrentState.level (state : ReceiverTelemetryConcurrentState) : Nat :=
  (state.mailbox.lastSequence.map UInt64.toNat).getD 0

abbrev MailboxHistory := List (Call Mailboxes MailboxCall MailboxReply)

/-- No activation of the mailbox took effect. -/
def NotActivated (self : MailboxId) (history : MailboxHistory) : Prop :=
  ∀ call ∈ history, ∀ binding, mailboxEvent self call ≠ some (.activated binding)

/-- The mailbox was neither activated nor cleared, and accepted no report. -/
def Untouched (self : MailboxId) (history : MailboxHistory) : Prop :=
  ∀ call ∈ history, ∀ event, mailboxEvent self call = some event → ∃ lease, event = .checkedOut lease

/-- A lease has no public constructor: whoever asks about one has it from a checkout. -/
def LeasesHeld (history : MailboxHistory) : Prop :=
  ∀ earlier call later, history = earlier ++ call :: later → ∀ lease now,
    call.input.operation = .leaseIsCurrent lease now →
      ∃ origin ∈ earlier, origin.reply = .checkedOut (.ok (some lease))

section History

variable {self : MailboxId} {first last : MailboxHistory} {call : Call Mailboxes MailboxCall MailboxReply}

theorem NotActivated.of_append (quiet : NotActivated self (first ++ last)) :
    NotActivated self first ∧ NotActivated self last :=
  ⟨forall_of_append quiet,
    fun call member => quiet call (List.mem_append_right _ member)⟩

theorem NotActivated.of_cons (quiet : NotActivated self (call :: last)) : NotActivated self last :=
  fun later member => quiet later (List.mem_cons_of_mem _ member)

theorem Untouched.concat (quiet : Untouched self first)
    (last : ∀ event, mailboxEvent self call = some event → ∃ lease, event = .checkedOut lease) :
    Untouched self (first ++ [call]) := by
  exact forall_mem_concat quiet last

end History

namespace MailboxTransition

variable {self : MailboxId} {state after : ReceiverTelemetryConcurrentState} {event : Option MailboxEvent}
  {report : ReceiverTelemetrySnapshot}

theorem incarnation_le (moved : MailboxTransition self state event after) :
    state.incarnation.toNat ≤ after.incarnation.toNat := by
  cases moved with
  | same | dropped | cleared | accepted | checkedOut => exact Nat.le_refl _
  | activated counted =>
    simp only [counted]
    omega

theorem incarnation_lt {binding : ReceiverTelemetryBinding}
    (moved : MailboxTransition self state (some (.activated binding)) after) :
    state.incarnation.toNat < after.incarnation.toNat := by
  cases moved with
  | activated counted =>
    simp only [counted]
    omega

theorem level_lt {offeredAt : Nat} (moved : MailboxTransition self state (some (.accepted report offeredAt)) after) :
    state.level < after.level ∧ after.level = report.sequence.toNat := by
  cases moved with
  | accepted active numbered newer =>
    refine ⟨?_, rfl⟩
    have positive : 0 < report.sequence.toNat := by
      rw [Nat.pos_iff_ne_zero]
      intro zero
      exact numbered (UInt64.toNat_inj.mp zero)
    unfold ReceiverTelemetryConcurrentState.level
    cases known : state.mailbox.lastSequence with
    | none => exact positive
    | some last => exact UInt64.lt_iff_toNat_lt.mp (newer last known)

/-- Without an activation the binding stays until it is cleared, and the newest sequence number never falls. -/
theorem active_or_level (moved : MailboxTransition self state event after)
    (quiet : ∀ binding, event ≠ some (.activated binding)) :
    after.mailbox.active = none ∨ (after.mailbox.active = state.mailbox.active ∧ state.level ≤ after.level) := by
  cases moved with
  | same | dropped | checkedOut => exact .inr ⟨rfl, Nat.le_refl _⟩
  | activated => exact absurd rfl (quiet _)
  | cleared => exact .inl rfl
  | @accepted report offeredAt active numbered newer =>
    have made : MailboxTransition self state (some (.accepted report offeredAt)) _ := .accepted active numbered newer
    exact .inr ⟨active.symm, Nat.le_of_lt made.level_lt.1⟩

theorem offeredAt_eq (moved : MailboxTransition self state event after)
    (quiet : ∀ happened, event = some happened → ∃ lease, happened = .checkedOut lease) :
    after.lastOfferedAt = state.lastOfferedAt := by
  cases moved with
  | same | dropped | checkedOut => rfl
  | activated | cleared | accepted =>
    obtain ⟨_, impossible⟩ := quiet _ rfl
    cases impossible

/-- A report is pending because it was just accepted, or because it was pending before and nothing happened. -/
theorem pending_origin (moved : MailboxTransition self state event after)
    (pending : after.mailbox.pending = some report) :
    (∃ offeredAt, event = some (.accepted report offeredAt) ∧ after.lastOfferedAt = some offeredAt) ∨
      (event = none ∧ after = state) := by
  cases moved with
  | same => exact .inr ⟨rfl, rfl⟩
  | dropped | checkedOut | activated | cleared => cases pending
  | accepted =>
    cases pending
    exact .inl ⟨_, rfl, rfl⟩

end MailboxTransition

section Run

variable {self : MailboxId} {history : MailboxHistory} {initial final : Mailboxes}
  {call : Call Mailboxes MailboxCall MailboxReply} {report : ReceiverTelemetrySnapshot}
  {lease : ReceiverTelemetrySendLease}

/-- The incarnation number never falls. -/
theorem incarnation_le (run : Run (Total step) initial history final) :
    (initial self).incarnation.toNat ≤ (final self).incarnation.toNat := by
  induction run with
  | start => exact Nat.le_refl _
  | next _ taken ih => exact Nat.le_trans ih (step_transition taken self).incarnation_le

/-- Every activation that takes effect counts the incarnation up. -/
theorem incarnation_lt_of_activated {binding : ReceiverTelemetryBinding}
    (run : Run (Total step) initial history final) (member : call ∈ history)
    (activated : mailboxEvent self call = some (.activated binding)) :
    (initial self).incarnation.toNat < (final self).incarnation.toNat := by
  obtain ⟨_, _, rfl, before, taken, rest⟩ := run.of_mem member
  have moved := step_transition taken self
  rw [activated] at moved
  calc (initial self).incarnation.toNat
      ≤ (call.before self).incarnation.toNat := incarnation_le before
    _ < (call.after self).incarnation.toNat := moved.incarnation_lt
    _ ≤ (final self).incarnation.toNat := incarnation_le rest

theorem active_or_level (run : Run (Total step) initial history final) (quiet : NotActivated self history) :
    (final self).mailbox.active = none ∨
      ((final self).mailbox.active = (initial self).mailbox.active ∧ (initial self).level ≤ (final self).level) := by
  induction run with
  | start => exact .inr ⟨rfl, Nat.le_refl _⟩
  | next _ taken ih =>
    have moved := step_transition taken self
    rcases moved.active_or_level (quiet _ (by simp)) with gone | ⟨kept, above⟩
    · exact .inl gone
    · rcases ih quiet.of_append.1 with gone | ⟨keptBefore, below⟩
      · exact .inl (kept.trans gone)
      · exact .inr ⟨kept.trans keptBefore, Nat.le_trans below above⟩

/-- Within one activation a cleared mailbox stays inactive. -/
theorem inactive_of_cleared (run : Run (Total step) initial history final) (quiet : NotActivated self history)
    (member : call ∈ history) (cleared : mailboxEvent self call = some .cleared) :
    (final self).mailbox.active = none := by
  obtain ⟨_, _, rfl, _, taken, rest⟩ := run.of_mem member
  have moved := step_transition taken self
  have empty : (call.after self).mailbox.active = none := by
    rw [cleared] at moved
    generalize call.after self = reached at moved
    cases moved
    rfl
  rcases active_or_level rest quiet.of_append.2.of_cons with gone | ⟨kept, _⟩
  · exact gone
  · exact kept.trans empty

/-- Within one activation a newer report raises the newest sequence number for good. -/
theorem level_lt_of_accepted {offeredAt : Nat} (run : Run (Total step) initial history final)
    (quiet : NotActivated self history) (active : (final self).mailbox.active ≠ none) (member : call ∈ history)
    (accepted : mailboxEvent self call = some (.accepted report offeredAt)) :
    (initial self).level < (final self).level ∧ report.sequence.toNat ≤ (final self).level := by
  obtain ⟨_, _, rfl, before, taken, rest⟩ := run.of_mem member
  have moved := step_transition taken self
  rw [accepted] at moved
  obtain ⟨_, _⟩ := moved.level_lt
  rcases active_or_level rest quiet.of_append.2.of_cons with gone | ⟨_, _⟩
  · exact absurd gone active
  rcases active_or_level before quiet.of_append.1 with gone | ⟨_, _⟩
  · exfalso
    generalize call.after self = reached at moved
    cases moved with
    | accepted bound =>
      rw [gone] at bound
      cases bound
  · exact ⟨by omega, by omega⟩

/-- Within one activation a report that is pending after an empty slot is newer than all before. -/
theorem pending_newer (run : Run (Total step) initial history final) (quiet : NotActivated self history)
    (empty : (initial self).mailbox.pending = none) (pending : (final self).mailbox.pending = some report) :
    (initial self).level < report.sequence.toNat := by
  induction run with
  | start =>
    rw [empty] at pending
    cases pending
  | @next past current input reply after previous taken ih =>
    have moved := step_transition taken self
    rcases moved.pending_origin pending with ⟨_, accepted, _⟩ | ⟨_, same⟩
    · have within : NotActivated self (past ++ [⟨current, input, reply, after⟩]) := quiet
      have active : (after self).mailbox.active ≠ none := by
        rw [accepted] at moved
        generalize after self = reached at moved
        cases moved
        exact Option.some_ne_none _
      have risen := level_lt_of_accepted (previous.next taken) within active (by simp) accepted
      rw [accepted] at moved
      rw [← moved.level_lt.2]
      exact risen.1
    · rw [same] at pending
      exact ih quiet.of_append.1 pending

theorem offeredAt_of_untouched (run : Run (Total step) initial history final) (quiet : Untouched self history) :
    (final self).lastOfferedAt = (initial self).lastOfferedAt := by
  induction run with
  | start => rfl
  | next _ taken ih =>
    have unmoved := (step_transition taken self).offeredAt_eq (quiet _ (by simp))
    exact unmoved.trans (ih (forall_of_append quiet))

/-- Where a pending report comes from: it is the newest one the mailbox accepted. -/
structure PendingOrigin (self : MailboxId) (history : MailboxHistory) (state : ReceiverTelemetryConcurrentState)
    (report : ReceiverTelemetrySnapshot) (offeredAt : Nat) : Prop where
  accepted : ∃ earlier accept between, history = earlier ++ accept :: between ∧
    mailboxEvent self accept = some (.accepted report offeredAt) ∧ Untouched self between
  lastOfferedAt : state.lastOfferedAt = some offeredAt
  lastSequence : state.mailbox.lastSequence = some report.sequence

theorem pendingOrigin (run : Run (Total Mailboxes.step) Mailboxes.initial history final)
    (pending : (final self).mailbox.pending = some report) :
    ∃ offeredAt, PendingOrigin self history (final self) report offeredAt := by
  induction run with
  | start => cases pending
  | @next past current input reply after _ taken ih =>
    have moved := Mailboxes.step_transition taken self
    rcases moved.pending_origin pending with ⟨offeredAt, accepted, offered⟩ | ⟨silent, same⟩
    · refine ⟨offeredAt, ⟨past, _, [], rfl, accepted, by simp [Untouched]⟩, offered, ?_⟩
      rw [accepted] at moved
      generalize after self = reached at moved
      cases moved
      rfl
    · rw [same] at pending ⊢
      obtain ⟨offeredAt, ⟨earlier, accept, between, rfl, accepted, quiet⟩, offered, numbered⟩ := ih pending
      refine ⟨offeredAt, ⟨earlier, accept, between ++ [⟨current, input, reply, after⟩], by simp, accepted, ?_⟩, offered,
        numbered⟩
      refine quiet.concat fun event happened => ?_
      rw [silent] at happened
      cases happened

theorem checkedOut_transition {before after : ReceiverTelemetryConcurrentState}
    (moved : MailboxTransition self before (some (.checkedOut lease)) after) :
    before.mailbox.pending = some lease.report ∧ lease.incarnation = before.incarnation ∧ lease.owner = self ∧
      after = { before with mailbox := { before.mailbox with pending := none } } := by
  cases moved with
  | checkedOut pending => exact ⟨pending, rfl, rfl, rfl⟩

/-- Only a checkout returns a lease. -/
theorem checkedOut_of_reply (taken : Total step call.before call.input call.reply call.after)
    (returned : call.reply = .checkedOut (.ok (some lease))) :
    mailboxEvent call.input.mailbox call = some (.checkedOut lease) := by
  obtain ⟨before, ⟨mailbox, lock, operation⟩, _⟩ := call
  subst returned
  have replied : ((before mailbox).apply mailbox lock operation).2 = .checkedOut (.ok (some lease)) :=
    (Prod.ext_iff.mp taken).2
  cases operation with
  | activate | offer | clearIfMatches | leaseIsCurrent => cases replied
  | checkoutMatching => simp [mailboxEvent, ReceiverTelemetryConcurrentState.event]

/-- What makes a lease current: nothing happened to its mailbox since it was checked out there. -/
theorem untouched_of_current {between : MailboxHistory} {middle : Mailboxes}
    (run : Run (Total step) middle between final)
    (sameIncarnation : (final self).incarnation = (middle self).incarnation)
    (active : (final self).mailbox.active = some lease.report.binding)
    (sameSequence : (final self).mailbox.lastSequence = (middle self).mailbox.lastSequence) :
    Untouched self between := by
  have quiet : NotActivated self between := by
    intro call member binding activated
    have rise := incarnation_lt_of_activated run member activated
    rw [sameIncarnation] at rise
    exact Nat.lt_irrefl _ rise
  intro call member event happened
  cases event with
  | activated binding => exact absurd happened (quiet call member binding)
  | cleared =>
    have gone := inactive_of_cleared run quiet member happened
    rw [gone] at active
    cases active
  | accepted =>
    have rise := level_lt_of_accepted run quiet (by simp [active]) member happened
    unfold ReceiverTelemetryConcurrentState.level at rise
    rw [sameSequence] at rise
    exact absurd rise.1 (Nat.lt_irrefl _)
  | checkedOut lease => exact ⟨lease, rfl⟩

end Run

/-- Send leases are not revived. In every interleaving of calls on any number of mailboxes, a lease that is current was
checked out of the mailbox asked, which was not touched since, and its report was accepted there at most thirty seconds
ago. Within one activation the checked-out reports have increasing sequence numbers, each being the newest one accepted
when it is checked out. -/
theorem send_leases_not_revived {history : MailboxHistory} {final : Mailboxes}
    (run : Run (Total Mailboxes.step) Mailboxes.initial history final) (held : LeasesHeld history) :
    (∀ earlier call later, history = earlier ++ call :: later → ∀ lease now,
      call.input.operation = .leaseIsCurrent lease now → call.reply = .current (.ok true) →
        ∃ before checkout between, earlier = before ++ checkout :: between ∧
          mailboxEvent call.input.mailbox checkout = some (.checkedOut lease) ∧
          Untouched call.input.mailbox between ∧
          ∃ accept ∈ before, ∃ offeredAt,
            mailboxEvent call.input.mailbox accept = some (.accepted lease.report offeredAt) ∧
              offeredAt ≤ now ∧ now ≤ offeredAt + maxReceiverTelemetryGap) ∧
    (∀ self first former middle latter rest, history = first ++ former :: (middle ++ latter :: rest) →
      NotActivated self middle → ∀ one other, mailboxEvent self former = some (.checkedOut one) →
        mailboxEvent self latter = some (.checkedOut other) → one.report.sequence < other.report.sequence) ∧
    (∀ self earlier call later, history = earlier ++ call :: later → ∀ lease,
      mailboxEvent self call = some (.checkedOut lease) →
        ∃ before accept between offeredAt, earlier = before ++ accept :: between ∧
          mailboxEvent self accept = some (.accepted lease.report offeredAt) ∧ Untouched self between) := by
  refine ⟨?_, ?_, ?_⟩
  · intro earlier call later cut lease now asked answered
    obtain ⟨reached, taken, _⟩ := run.split cut
    obtain ⟨origin, member, returned⟩ := held earlier call later cut lease now asked
    obtain ⟨_, between, rfl, begun, made, since⟩ := reached.of_mem member
    obtain ⟨state, ⟨mailbox, lock, _⟩, _⟩ := call
    subst asked answered
    have answer : ((state mailbox).tryLeaseIsCurrentAt lock mailbox lease now).2 = .ok true :=
      MailboxReply.current.inj (Prod.ext_iff.mp taken).2
    obtain ⟨own, active, incarnation, sequence, fresh⟩ := ReceiverTelemetryConcurrentState.current_of_reply answer
    have out := checkedOut_of_reply made returned
    have moved := step_transition made origin.input.mailbox
    rw [out] at moved
    obtain ⟨pending, counted, owner, left⟩ := checkedOut_transition moved
    have here : origin.input.mailbox = mailbox := owner.symm.trans own
    rw [here] at out pending counted left
    obtain ⟨offeredAt, ⟨_, accept, _, rfl, accepted, _⟩, offered, numbered⟩ := pendingOrigin begun pending
    have untouched : Untouched mailbox between :=
      untouched_of_current since (by rw [incarnation, counted, left]) active (by rw [sequence, left, numbered])
    refine ⟨_, origin, between, rfl, out, untouched, accept, by simp, offeredAt, accepted, ?_⟩
    obtain ⟨_, known, window⟩ := ReceiverTelemetryConcurrentState.freshAt_iff.mp fresh
    rw [offeredAt_of_untouched since untouched, left, offered] at known
    cases known
    exact window
  · intro self first former middle latter rest cut quiet one other former_out latter_out
    obtain ⟨begun, made, since⟩ := run.split cut
    obtain ⟨between, taken, _⟩ := since.split rfl
    have moved := step_transition made self
    rw [former_out] at moved
    obtain ⟨pending, _, _, left⟩ := checkedOut_transition moved
    obtain ⟨_, _, _, numbered⟩ := pendingOrigin begun pending
    have later := step_transition taken self
    rw [latter_out] at later
    have newer := pending_newer between quiet (by rw [left]) (checkedOut_transition later).1
    have level : (former.after self).level = one.report.sequence.toNat := by
      rw [left]
      simp [ReceiverTelemetryConcurrentState.level, numbered]
    rw [level] at newer
    exact UInt64.lt_iff_toNat_lt.mpr newer
  · intro self earlier call later cut lease out
    obtain ⟨begun, made, _⟩ := run.split cut
    have moved := step_transition made self
    rw [out] at moved
    obtain ⟨offeredAt, ⟨before, accept, between, same, accepted, quiet⟩, _, _⟩ :=
      pendingOrigin begun (checkedOut_transition moved).1
    exact ⟨before, accept, between, offeredAt, same, accepted, quiet⟩

def leasedBinding : ReceiverTelemetryBinding := ⟨1, 1, 1, 1, 1, 1, 1, 1, 1⟩
def leasedReport : ReceiverTelemetrySnapshot := ⟨leasedBinding, 7, ⟨0, 0, 0, 0, 0, 0, 0, 0⟩⟩

def leasedHistory : MailboxHistory :=
  calls Mailboxes.step .initial
    [⟨3, .acquired, .activate leasedBinding⟩, ⟨3, .acquired, .offer leasedReport 0⟩,
      ⟨3, .acquired, .checkoutMatching leasedBinding 5⟩, ⟨3, .acquired, .leaseIsCurrent ⟨leasedReport, 1, 3⟩ 9⟩]

theorem leasedHistory_held : LeasesHeld leasedHistory := by
  intro earlier call later cut lease now asked
  rcases cons_eq_append_cons cut with ⟨rfl, rfl, rfl⟩ | ⟨_, rfl, second⟩
  · cases asked
  rcases cons_eq_append_cons second with ⟨rfl, rfl, rfl⟩ | ⟨_, rfl, third⟩
  · cases asked
  rcases cons_eq_append_cons third with ⟨rfl, rfl, rfl⟩ | ⟨_, rfl, fourth⟩
  · cases asked
  rcases cons_eq_append_cons fourth with ⟨rfl, rfl, rfl⟩ | ⟨nothing, rfl, none⟩
  · cases asked
    exact ⟨_, .tail _ (.tail _ (.head _)), rfl⟩
  · cases nothing <;> cases none

/-- A lease that is current was checked out, and nothing has touched its mailbox since. -/
theorem send_leases_not_revived_once : LeasesHeld leasedHistory ∧
    ∃ before checkout between, leasedHistory.take 3 = before ++ checkout :: between ∧
      mailboxEvent 3 checkout = some (.checkedOut ⟨leasedReport, 1, 3⟩) ∧ Untouched 3 between := by
  refine ⟨leasedHistory_held, ?_⟩
  obtain ⟨before, checkout, between, cut, out, untouched, _⟩ :=
    (send_leases_not_revived (Run.of_calls _ _ _) leasedHistory_held).1 (leasedHistory.take 3) _ [] rfl _ _ rfl rfl
  exact ⟨before, checkout, between, cut, out, untouched⟩

end ClassMesh
