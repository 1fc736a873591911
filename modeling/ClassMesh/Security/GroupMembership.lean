import ClassMesh.Foundation.Run
import ClassMesh.Security.GroupMediaCoordinator

namespace ClassMesh

open Std Foundation ExtTreeMap

namespace GroupMediaCoordinator

variable {S : Sframe} {c after : GroupMediaCoordinator S} {authorization : AuthorizationStore}
  {reply : CoordinatorReply} {principal : PrincipalId} {binding : GroupMediaFrameBinding} {generated : Option Bytes32}
  {plaintext : List UInt8}

theorem mem_registered {p : PrincipalId} : p ∈ c.registered ↔ p ∈ c.receivers := Iff.rfl

theorem registered_awaitKeys (c : GroupMediaCoordinator S) : {p | p ∈ c.awaitKeys} = c.registered := by
  ext p
  simp [awaitKeys, registered]

theorem reconcileAuthorization_authorized (c : GroupMediaCoordinator S) (authorization : AuthorizationStore)
    {p : PrincipalId} (member : p ∈ (c.reconcileAuthorization authorization).registered) :
    authorization.authorize p .receivePresentation = true := by
  have kept : p ∈ c.receivers.filter (fun q _ => authorization.authorize q .receivePresentation) := member
  obtain ⟨_, allowed⟩ := mem_filter.mp kept
  simpa using allowed

/-- Reconciliation drops nobody silently: with an epoch active, losing a receiver demands a rotation. -/
theorem reconcileAuthorization_unchanged (live : c.active.isSome = true)
    (quiet : (c.reconcileAuthorization authorization).rotationRequired = false) :
    c.rotationRequired = false ∧ (c.reconcileAuthorization authorization).receivers = c.receivers := by
  simp only [reconcileAuthorization, live, and_true] at quiet ⊢
  split at quiet
  · simp at quiet
  · rename_i sameSize
    refine ⟨quiet, ?_⟩
    exact filter_eq_self_iff.mpr (size_filter_eq_size_iff.mp (not_not.mp sameSize))

/-- Reconciliation changes nothing while every registered receiver is authorized. -/
theorem reconcileAuthorization_eq_self
    (authorized : ∀ p ∈ c.receivers, authorization.authorize p .receivePresentation = true) :
    c.reconcileAuthorization authorization = c := by
  have kept : c.receivers.filter (fun p _ => authorization.authorize p .receivePresentation) = c.receivers :=
    filter_eq_self_iff.mpr fun p member => by simpa using authorized p member
  simp [reconcileAuthorization, kept]

/-- What a call can do to the epoch in force: begin a new one, leave none, or keep it. In the last
case a rotation flag that is still down means that membership did not move. -/
inductive EpochEffect (c after : GroupMediaCoordinator S) (reply : CoordinatorReply) : Prop
  | begun {epoch} : reply = .begun (.ok epoch) → after.activeEpoch = some epoch →
      after.lastEpoch = epoch.value → epoch.value.toNat = c.lastEpoch.toNat + 1 →
      after.registered = c.registered → EpochEffect c after reply
  | ended : (∀ epoch, reply ≠ .begun (.ok epoch)) → after.activeEpoch = none →
      after.lastEpoch = c.lastEpoch → EpochEffect c after reply
  | kept : (∀ epoch, reply ≠ .begun (.ok epoch)) → after.activeEpoch = c.activeEpoch →
      after.lastEpoch = c.lastEpoch →
      (c.active.isSome = true → after.rotationRequired = false →
        c.rotationRequired = false ∧ after.registered = c.registered ∧
          reply ≠ .registered (.ok .added)) → EpochEffect c after reply

theorem EpochEffect.reconciled (authorization : AuthorizationStore) (other : ∀ epoch, reply ≠ .begun (.ok epoch))
    (notAdded : reply ≠ .registered (.ok .added)) (epoch : after.activeEpoch = c.activeEpoch)
    (last : after.lastEpoch = c.lastEpoch)
    (flag : after.rotationRequired = (c.reconcileAuthorization authorization).rotationRequired)
    (members : after.registered = (c.reconcileAuthorization authorization).registered) : EpochEffect c after reply := by
  refine .kept other epoch last fun live quiet => ?_
  obtain ⟨down, same⟩ := reconcileAuthorization_unchanged live (flag ▸ quiet)
  exact ⟨down, by rw [members, registered, registered, same], notAdded⟩

theorem registerReceiver_effect {result : Except GroupMediaCoordinatorError GroupMediaRegistration}
    (run : c.registerReceiver authorization principal = (after, result)) :
    EpochEffect c after (.registered result) := by
  unfold registerReceiver at run
  split at run
  · cases run
    exact .kept (by simp) rfl rfl (by simp)
  split at run
  · cases run
    exact .kept (by simp) rfl rfl (by simp)
  split at run
  · cases run
    exact .kept (by simp) rfl rfl (by simp)
  · cases run
    refine .kept (by simp) rfl rfl fun live quiet => ?_
    simp [live] at quiet

theorem removeReceiver_effect {result : Bool} (run : c.removeReceiver principal = (after, result)) :
    EpochEffect c after (.removed result) := by
  unfold removeReceiver at run
  cases run
  refine .kept (by simp) rfl rfl fun live quiet => ?_
  by_cases present : principal ∈ c.receivers
  · simp [live, present] at quiet
  · have down : c.rotationRequired = false := by simpa [live, present] using quiet
    refine ⟨down, ?_, by simp⟩
    ext q
    simp only [mem_registered, mem_erase, ne_eq, Std.compare_eq_iff_eq]
    exact and_iff_right_of_imp fun member same => present (same ▸ member)

/-- A begin that fails changes nothing, and one that succeeds makes every receiver wait for the new key. -/
theorem beginEpoch_outcome {result : Except GroupMediaCoordinatorError GroupMediaEpoch}
    (run : c.beginEpoch generated = (after, result)) :
    (after = c ∧ ∃ error, result = .error error) ∨
      ∃ epoch, result = .ok epoch ∧ epoch.value.toNat = c.lastEpoch.toNat + 1 ∧ after.activeEpoch = some epoch ∧
        after.lastEpoch = epoch.value ∧ after.receivers = c.awaitKeys := by
  unfold beginEpoch at run
  split at run
  · cases run
    exact .inl ⟨rfl, _, rfl⟩
  rename_i room
  dsimp only at run
  split at run
  · cases run
    exact .inl ⟨rfl, _, rfl⟩
  rename_i epoch made
  split at run
  · cases run
    exact .inl ⟨rfl, _, rfl⟩
  split at run
  · cases run
    exact .inl ⟨rfl, _, rfl⟩
  · cases run
    have value := GroupMediaEpoch.new_eq_ok.mp made
    have next : (c.lastEpoch + 1).toNat = c.lastEpoch.toNat + 1 := by
      have bound := c.lastEpoch.toNat_lt
      rw [UInt32.toNat_add]
      simp only [UInt32.toNat_one]
      exact Nat.mod_eq_of_lt (by simp only [UInt32.size] at room; omega)
    exact .inr ⟨epoch, rfl, value ▸ next, rfl, value.symm, rfl⟩

theorem beginEpoch_effect {result : Except GroupMediaCoordinatorError GroupMediaEpoch}
    (run : c.beginEpoch generated = (after, result)) : EpochEffect c after (.begun result) := by
  rcases beginEpoch_outcome run with ⟨rfl, _, rfl⟩ | ⟨_, rfl, next, active, last, waiting⟩
  · exact .kept (by simp) rfl rfl (by simp_all)
  · exact .begun rfl active last next (by rw [registered, waiting, registered_awaitKeys])

theorem endEpoch_effect {result : Option GroupMediaEpoch} (run : c.endEpoch = (after, result)) :
    EpochEffect c after (.ended result) := by
  unfold endEpoch at run
  cases run
  exact .ended (by simp) rfl rfl

/-- `issue_key` reconciles, and it does more only when it grants the key of the active epoch. -/
theorem issueKey_outcome {result : Except GroupMediaCoordinatorError GroupMediaKeyGrant}
    (run : c.issueKey authorization principal = (after, result)) :
    (after = c.reconcileAuthorization authorization ∧ ∃ error, result = .error error) ∨
      ∃ active, c.active = some active ∧ (c.reconcileAuthorization authorization).rotationRequired = false ∧
        principal ∈ (c.reconcileAuthorization authorization).receivers ∧
        result = .ok ⟨principal, active.epoch, active.key⟩ ∧
        after = { c.reconcileAuthorization authorization with
          receivers :=
            (c.reconcileAuthorization authorization).receivers.insert principal (.keyIssued active.epoch) } := by
  unfold issueKey at run
  dsimp only at run
  split at run
  · cases run
    exact .inl ⟨rfl, _, rfl⟩
  split at run
  · cases run
    exact .inl ⟨rfl, _, rfl⟩
  rename_i quiet
  split at run
  · cases run
    exact .inl ⟨rfl, _, rfl⟩
  rename_i active live
  split at run
  · rename_i present
    cases run
    exact .inr ⟨active, live, by simpa using quiet, present, rfl, rfl⟩
  · cases run
    exact .inl ⟨rfl, _, rfl⟩

/-- `mark_installed` reconciles, and it does more only for a receiver that was issued the key of the epoch. -/
theorem markInstalled_outcome {epoch : GroupMediaEpoch} {result : Except GroupMediaCoordinatorError Unit}
    (run : c.markInstalled authorization principal epoch = (after, result)) :
    after = c.reconcileAuthorization authorization ∨
      (c.reconcileAuthorization authorization).receivers[principal]? = some (.keyIssued epoch) ∧ result = .ok () ∧
        after = { c.reconcileAuthorization authorization with
          receivers := (c.reconcileAuthorization authorization).receivers.insert principal (.installed epoch) } := by
  unfold markInstalled at run
  dsimp only at run
  repeat' split at run
  case h_3.isTrue issued found same =>
    cases run
    exact .inr ⟨same ▸ found, rfl, rfl⟩
  all_goals
    cases run
    exact .inl rfl

theorem issueKey_effect {result : Except GroupMediaCoordinatorError GroupMediaKeyGrant}
    (run : c.issueKey authorization principal = (after, result)) : EpochEffect c after (.issued result) := by
  rcases issueKey_outcome run with ⟨rfl, _⟩ | ⟨_, _, _, present, _, rfl⟩
  · exact .reconciled authorization (by simp) (by simp) rfl rfl rfl rfl
  · refine .reconciled authorization (by simp) (by simp) rfl rfl rfl ?_
    ext q
    simp only [mem_registered, mem_insert, Std.compare_eq_iff_eq]
    exact or_iff_right_of_imp fun same => same ▸ present

theorem markInstalled_effect {epoch : GroupMediaEpoch} {result : Except GroupMediaCoordinatorError Unit}
    (run : c.markInstalled authorization principal epoch = (after, result)) : EpochEffect c after (.marked result) := by
  rcases markInstalled_outcome run with rfl | ⟨present, _, rfl⟩
  · exact .reconciled authorization (by simp) (by simp) rfl rfl rfl rfl
  · refine .reconciled authorization (by simp) (by simp) rfl rfl rfl ?_
    ext q
    simp only [mem_registered, mem_insert, Std.compare_eq_iff_eq]
    refine or_iff_right_of_imp fun same => same ▸ ?_
    exact isSome_getElem?_iff_mem.mp (by rw [present]; rfl)

theorem sealBoundFrame_effect {result : Except GroupMediaCoordinatorError SealedGroupMediaFrame}
    (run : c.sealBoundFrame authorization plaintext binding = (after, result)) :
    EpochEffect c after (.sealed result) := by
  unfold sealBoundFrame at run
  dsimp only at run
  split at run
  · cases run
    exact .reconciled authorization (by simp) (by simp) rfl rfl rfl rfl
  split at run
  · cases run
    exact .reconciled authorization (by simp) (by simp) rfl rfl rfl rfl
  · rename_i active live
    cases run
    refine .reconciled authorization (by simp) (by simp) ?_ rfl rfl rfl
    have here : c.active = some active := live
    simp only [activeEpoch, here, Option.map_some]

theorem step_effect {input : CoordinatorInput} (taken : Total step c input reply after) :
    EpochEffect c after reply := by
  cases input with
  | registerReceiver =>
    cases taken
    exact registerReceiver_effect rfl
  | removeReceiver =>
    cases taken
    exact removeReceiver_effect rfl
  | beginEpoch =>
    cases taken
    exact beginEpoch_effect rfl
  | endEpoch =>
    cases taken
    exact endEpoch_effect rfl
  | issueKey =>
    cases taken
    exact issueKey_effect rfl
  | markInstalled =>
    cases taken
    exact markInstalled_effect rfl
  | sealBoundFrame =>
    cases taken
    exact sealBoundFrame_effect rfl

/-- A call that handed out or used the key of `epoch`: it found and left that epoch active, with no
rotation pending, and everybody still registered is authorized in the store it was given. -/
structure KeyUse (c after : GroupMediaCoordinator S) (authorization : AuthorizationStore)
    (epoch : GroupMediaEpoch) : Prop where
  found : c.activeEpoch = some epoch
  left : after.activeEpoch = some epoch
  settled : after.rotationRequired = false
  authorized : ∀ p ∈ after.registered, authorization.authorize p .receivePresentation = true

theorem issueKey_ok {grant : GroupMediaKeyGrant} (run : c.issueKey authorization principal = (after, .ok grant)) :
    KeyUse c after authorization grant.epoch ∧ principal ∈ after.registered := by
  rcases issueKey_outcome run with ⟨_, _, failed⟩ | ⟨active, live, quiet, present, granted, rfl⟩
  · cases failed
  · cases granted
    have found : c.activeEpoch = some active.epoch := by simp only [activeEpoch, live, Option.map_some]
    refine ⟨⟨found, found, quiet, fun p member => ?_⟩, by simp [registered]⟩
    refine reconcileAuthorization_authorized c authorization ?_
    simp only [mem_registered, mem_insert, Std.compare_eq_iff_eq] at member
    exact member.elim (fun same => same ▸ present) id

theorem sealBoundFrame_ok {frame : SealedGroupMediaFrame}
    (run : c.sealBoundFrame authorization plaintext binding = (after, .ok frame)) :
    ∃ epoch, KeyUse c after authorization epoch := by
  unfold sealBoundFrame at run
  dsimp only at run
  split at run
  · cases run
  rename_i quiet
  split at run
  · cases run
  · rename_i active live
    obtain ⟨rfl, _⟩ := Prod.mk.inj run
    have here : c.active = some active := live
    exact ⟨active.epoch, by simp only [activeEpoch, here, Option.map_some],
      by simp only [activeEpoch, Option.map_some], by simpa using quiet,
      fun p member => reconcileAuthorization_authorized c authorization member⟩

end GroupMediaCoordinator

open GroupMediaCoordinator

abbrev CoordinatorCall (S : Sframe) := Call (GroupMediaCoordinator S) CoordinatorInput CoordinatorReply

namespace CoordinatorCall

variable {S : Sframe} (call : CoordinatorCall S) {principal : PrincipalId}

/-- A `begin_epoch` that returned `epoch`. -/
def Begins (epoch : GroupMediaEpoch) : Prop :=
  call.reply = .begun (.ok epoch)

/-- A `register_receiver` that added `principal`. -/
def Adds (principal : PrincipalId) : Prop :=
  (∃ authorization, call.input = .registerReceiver authorization principal) ∧
    call.reply = .registered (.ok .added)

/-- A successful `issue_key` for `principal`. -/
def Issues (authorization : AuthorizationStore) (principal : PrincipalId) (grant : GroupMediaKeyGrant) : Prop :=
  call.input = .issueKey authorization principal ∧ call.reply = .issued (.ok grant)

/-- `principal` is granted the key of `epoch`. -/
def Grants (authorization : AuthorizationStore) (principal : PrincipalId) (epoch : GroupMediaEpoch) : Prop :=
  ∃ grant, call.Issues authorization principal grant ∧ grant.epoch = epoch

/-- A successful `seal_bound_frame`, made while `epoch` is active. -/
def Seals (authorization : AuthorizationStore) (epoch : GroupMediaEpoch) : Prop :=
  (∃ plaintext binding, call.input = .sealBoundFrame authorization plaintext binding) ∧
    (∃ frame, call.reply = .sealed (.ok frame)) ∧ call.before.activeEpoch = some epoch

/-- `issue_key` or `seal_bound_frame` succeeds while `epoch` is active. -/
def UsesKey (authorization : AuthorizationStore) (epoch : GroupMediaEpoch) : Prop :=
  ((∃ principal grant, call.Issues authorization principal grant) ∧ call.before.activeEpoch = some epoch) ∨
    call.Seals authorization epoch

variable {call : CoordinatorCall S} {authorization : AuthorizationStore} {epoch : GroupMediaEpoch}

theorem Issues.keyUse {grant : GroupMediaKeyGrant} (issued : call.Issues authorization principal grant)
    (taken : Total step call.before call.input call.reply call.after) :
    KeyUse call.before call.after authorization grant.epoch ∧
      principal ∈ call.after.registered := by
  rw [issued.1, issued.2] at taken
  obtain ⟨left, same⟩ := Prod.mk.inj taken
  have run : call.before.issueKey authorization principal = (call.after, .ok grant) :=
    Prod.ext left (CoordinatorReply.issued.inj same)
  exact issueKey_ok run

theorem Grants.keyUse (granted : call.Grants authorization principal epoch)
    (taken : Total step call.before call.input call.reply call.after) :
    KeyUse call.before call.after authorization epoch ∧
      principal ∈ call.after.registered := by
  obtain ⟨_, issued, rfl⟩ := granted
  exact issued.keyUse taken

theorem Seals.keyUse (sealed : call.Seals authorization epoch)
    (taken : Total step call.before call.input call.reply call.after) :
    KeyUse call.before call.after authorization epoch := by
  obtain ⟨⟨plaintext, binding, atInput⟩, ⟨frame, atReply⟩, found⟩ := sealed
  rw [atInput, atReply] at taken
  obtain ⟨left, same⟩ := Prod.mk.inj taken
  have run : call.before.sealBoundFrame authorization plaintext binding = (call.after, .ok frame) :=
    Prod.ext left (CoordinatorReply.sealed.inj same)
  obtain ⟨_, use⟩ := sealBoundFrame_ok run
  cases Option.some.inj (use.found.symm.trans found)
  exact use

theorem UsesKey.keyUse (used : call.UsesKey authorization epoch)
    (taken : Total step call.before call.input call.reply call.after) :
    KeyUse call.before call.after authorization epoch := by
  rcases used with ⟨⟨_, _, issued⟩, found⟩ | sealed
  · have use := (issued.keyUse taken).1
    cases Option.some.inj (use.found.symm.trans found)
    exact use
  · exact sealed.keyUse taken

end CoordinatorCall

open CoordinatorCall

variable {S : Sframe} {initial final : GroupMediaCoordinator S} {past : List (CoordinatorCall S)}
  {c : GroupMediaCoordinator S} {earlier later : List (CoordinatorCall S)} {epoch : GroupMediaEpoch}
  {begun used : CoordinatorCall S} {authorization : AuthorizationStore}

/-- What the coordinator's state remembers of the calls that led to it: epochs only go up, the active
one was begun, and while no rotation is pending nobody joined or left since. -/
structure EpochHistory (past : List (CoordinatorCall S)) (c : GroupMediaCoordinator S) : Prop where
  bounded : ∀ call ∈ past, ∀ epoch, call.Begins epoch → epoch.value.toNat ≤ c.lastEpoch.toNat
  begun : ∀ epoch, c.activeEpoch = some epoch → ∃ call ∈ past, call.Begins epoch
  frozen : ∀ earlier begun later epoch, past = earlier ++ begun :: later → begun.Begins epoch →
    c.activeEpoch = some epoch → c.rotationRequired = false →
      c.registered = begun.after.registered ∧ ∀ call ∈ later, ∀ principal, ¬call.Adds principal

/-- A coordinator as `default` or `with_limit` returns it. -/
def GroupMediaCoordinator.Fresh (c : GroupMediaCoordinator S) : Prop :=
  c = {} ∨ ∃ limit, withLimit limit = .ok c

theorem GroupMediaCoordinator.Fresh.activeEpoch_eq_none (fresh : c.Fresh) : c.activeEpoch = none := by
  rcases fresh with rfl | ⟨_, made⟩
  · rfl
  · unfold withLimit at made
    split at made
    · cases made
    · cases Except.ok.inj made
      rfl

theorem EpochHistory.start (fresh : initial.Fresh) : EpochHistory [] initial where
  bounded := by simp
  begun := by simp [fresh.activeEpoch_eq_none]
  frozen := by simp

/-- Every call keeps the account of the epochs. A call that adds or removes a receiver while an epoch is active asks for
a rotation, so that the membership is frozen as long as none is due. -/
theorem EpochHistory.next {after : GroupMediaCoordinator S} {input : CoordinatorInput} {reply : CoordinatorReply}
    (history : EpochHistory past c) (taken : Total step c input reply after) :
    EpochHistory (past ++ [⟨c, input, reply, after⟩]) after := by
  have effect := step_effect taken
  refine ⟨?_, ?_, ?_⟩
  · intro call member epoch begins
    rcases List.mem_append.mp member with old | new
    · have before := history.bounded call old epoch begins
      cases effect with
      | begun _ _ last => rw [last]; omega
      | ended _ _ last => rwa [last]
      | kept _ _ last => rwa [last]
    · cases List.mem_singleton.mp new
      cases effect with
      | begun made _ last =>
        cases made.symm.trans begins
        rw [last]
      | ended other => exact absurd begins (other epoch)
      | kept other => exact absurd begins (other epoch)
  · intro epoch live
    cases effect with
    | begun made active =>
      cases Option.some.inj (active.symm.trans live)
      exact ⟨_, List.mem_concat_self, made⟩
    | ended _ none => simp [none] at live
    | kept _ same =>
      obtain ⟨call, member, begins⟩ := history.begun epoch (same ▸ live)
      exact ⟨call, List.mem_append_left _ member, begins⟩
  · intro earlier begun later epoch cut begins live quiet
    rcases snoc_eq_append_cons cut with ⟨_, same, rfl⟩ | ⟨rest, rfl, old⟩
    · subst same
      exact ⟨rfl, by simp⟩
    · cases effect with
      | begun _ active =>
        -- the epoch just begun lies above every epoch begun before
        have before := history.bounded begun (old ▸ List.mem_append_right _ List.mem_cons_self) epoch begins
        cases Option.some.inj (active.symm.trans live)
        omega
      | ended _ none => simp [none] at live
      | kept _ same _ settled =>
        have stillLive : c.activeEpoch = some epoch := same ▸ live
        have isLive : c.active.isSome = true := by
          rw [← Option.isSome_map, ← activeEpoch, stillLive]
          rfl
        obtain ⟨down, members, notAdded⟩ := settled isLive quiet
        obtain ⟨frozen, noneAdded⟩ := history.frozen earlier begun rest epoch old begins stillLive down
        exact ⟨members.trans frozen, forall_mem_concat noneAdded fun principal added => notAdded added.2⟩

section

variable (fresh : initial.Fresh) (run : Run (Total step) initial past final)

include fresh run

theorem EpochHistory.of_run : EpochHistory past final := by
  induction run with
  | start => exact .start fresh
  | next _ taken ih => exact ih.next taken

/-- No epoch is begun twice. -/
theorem begins_once (cut : past = earlier ++ begun :: later) (begins : begun.Begins epoch) :
    ∀ call ∈ earlier, ¬call.Begins epoch := by
  intro call member before
  obtain ⟨reached, taken, _⟩ := run.split cut
  have bounded := (EpochHistory.of_run fresh reached).bounded call member epoch before
  cases step_effect taken with
  | begun made =>
    cases made.symm.trans begins
    omega
  | ended other => exact other epoch begins
  | kept other => exact other epoch begins

/-- At a use of the key, looking back to any begin of its epoch. -/
theorem frozen_at_use (cut : past = earlier ++ used :: later)
    (use : KeyUse used.before used.after authorization epoch) {before between : List (CoordinatorCall S)}
    (since : earlier = before ++ begun :: between) (begins : begun.Begins epoch) :
    used.before.registered = begun.after.registered ∧ used.after.registered = begun.after.registered ∧
      ∀ call ∈ between, ∀ principal, ¬call.Adds principal := by
  obtain ⟨reached, taken, _⟩ := run.split cut
  have history := EpochHistory.of_run fresh reached
  cases step_effect taken with
  | begun _ active =>
    cases Option.some.inj (active.symm.trans use.left)
    have bounded := history.bounded begun (since ▸ List.mem_append_right _ List.mem_cons_self) epoch begins
    omega
  | ended _ none => exact absurd (none.symm.trans use.left) (by simp)
  | kept _ _ _ settled =>
    have isLive : used.before.active.isSome = true := by
      rw [← Option.isSome_map, ← activeEpoch, use.found]
      rfl
    obtain ⟨down, members, _⟩ := settled isLive use.settled
    obtain ⟨frozen, noneAdded⟩ := history.frozen before begun between epoch since begins use.found down
    exact ⟨frozen, members.trans frozen, noneAdded⟩

theorem begun_before_use (cut : past = earlier ++ used :: later)
    (use : KeyUse used.before used.after authorization epoch) : ∃ begun ∈ earlier, begun.Begins epoch :=
  (EpochHistory.of_run fresh (run.split cut).1).begun epoch use.found

end

/-- The key of an epoch is handed out and used only while its members are exactly those of its start.
`members` is the law itself, `grantees` and `latecomers` are what a receiver can rely on. -/
structure MembershipFrozen (past : List (CoordinatorCall S)) : Prop where
  members : ∀ earlier used later authorization epoch, past = earlier ++ used :: later →
    used.UsesKey authorization epoch →
      (∃ begun ∈ earlier, begun.Begins epoch) ∧
      (∀ begun ∈ earlier, begun.Begins epoch → used.before.registered = begun.after.registered ∧
        used.after.registered = begun.after.registered) ∧
      ∀ p ∈ used.after.registered, authorization.authorize p .receivePresentation = true
  grantees : ∀ earlier granted middle sealing later issuer authorization principal epoch,
    past = earlier ++ granted :: (middle ++ sealing :: later) →
    granted.Grants issuer principal epoch → sealing.Seals authorization epoch →
      principal ∈ sealing.after.registered ∧ authorization.authorize principal .receivePresentation = true
  latecomers : ∀ earlier begun middle added rest granted later issuer principal epoch,
    past = earlier ++ begun :: (middle ++ added :: (rest ++ granted :: later)) →
    begun.Begins epoch → added.Adds principal → ¬granted.Grants issuer principal epoch
  outsiders : ∀ begun ∈ past, ∀ granted ∈ past, ∀ issuer principal epoch, begun.Begins epoch →
    granted.Grants issuer principal epoch → principal ∈ begun.after.registered

theorem outsiders_never_granted (fresh : initial.Fresh) (run : Run (Total step) initial past final)
    {granted : CoordinatorCall S} (hasBegun : begun ∈ past) (hasGranted : granted ∈ past)
    {issuer : AuthorizationStore} {principal : PrincipalId} (begins : begun.Begins epoch)
    (grants : granted.Grants issuer principal epoch) : principal ∈ begun.after.registered := by
  obtain ⟨earlier, _, cut, _, taken, _⟩ := run.of_mem hasGranted
  obtain ⟨use, member⟩ := grants.keyUse taken
  rcases List.mem_append.mp (cut ▸ hasBegun) with before | fromThere
  · obtain ⟨_, _, since⟩ := List.append_of_mem before
    rwa [(frozen_at_use fresh run cut use since begins).2.1] at member
  · obtain ⟨first, inEarlier, also⟩ := begun_before_use fresh run cut use
    obtain ⟨x, y, split⟩ := List.append_of_mem fromThere
    have again : past = (earlier ++ x) ++ begun :: y := by rw [cut, split, List.append_assoc]
    exact absurd also (begins_once fresh run again begins first (List.mem_append_left _ inEarlier))

/-- Group-key membership is frozen per epoch. The run is any sequence of calls on a new coordinator, and each call may
be given another authorization store. -/
theorem membership_frozen (fresh : initial.Fresh) (run : Run (Total step) initial past final) :
    MembershipFrozen past := by
  refine ⟨?_, ?_, ?_, ?_⟩
  · intro earlier used later authorization epoch cut usesKey
    have use := usesKey.keyUse (run.split cut).2.1
    refine ⟨begun_before_use fresh run cut use, fun begun member begins => ?_, use.authorized⟩
    obtain ⟨_, _, since⟩ := List.append_of_mem member
    obtain ⟨before, after, _⟩ := frozen_at_use fresh run cut use since begins
    exact ⟨before, after⟩
  · intro earlier granted middle sealing later issuer authorization principal epoch cut grants seals
    have cutSeal : past = (earlier ++ granted :: middle) ++ sealing :: later := by simp [cut]
    have use := seals.keyUse (run.split cutSeal).2.1
    obtain ⟨begun, inEarlier, begins⟩ :=
      begun_before_use fresh run cut (grants.keyUse (run.split cut).2.1).1
    obtain ⟨x, y, since⟩ := List.append_of_mem inEarlier
    have sinceSeal : earlier ++ granted :: middle = x ++ begun :: (y ++ granted :: middle) := by simp [since]
    have founder : principal ∈ begun.after.registered :=
      outsiders_never_granted fresh run (by simp [cut, inEarlier]) (by simp [cut]) begins grants
    have member : principal ∈ sealing.after.registered := by
      rwa [(frozen_at_use fresh run cutSeal use sinceSeal begins).2.1]
    exact ⟨member, use.authorized principal member⟩
  · intro earlier begun middle added rest granted later issuer principal epoch cut begins adds grants
    have cutGrant : past = (earlier ++ begun :: (middle ++ added :: rest)) ++ granted :: later := by simp [cut]
    have use := (grants.keyUse (run.split cutGrant).2.1).1
    exact (frozen_at_use fresh run cutGrant use rfl begins).2.2 added (by simp) principal adds
  · intro begun hasBegun granted hasGranted issuer principal epoch begins grants
    exact outsiders_never_granted fresh run hasBegun hasGranted begins grants

/-- One student is admitted, receives the key of the first epoch and a frame is sealed for them. -/
theorem membership_frozen_one_receiver :
    let student : PrincipalId := ⟨.replicate 7⟩
    let store : AuthorizationStore := (AuthorizationStore.upsert {}
      ⟨student, .studentDevice, true, {.receivePresentation}, ∅⟩).1
    let epoch : GroupMediaEpoch := ⟨1, by decide⟩
    let binding : GroupMediaFrameBinding := ⟨700, 800, epoch, 1, 33333, true, by decide, by decide⟩
    let past := calls step ({} : GroupMediaCoordinator (ledgerSframe []))
      [.registerReceiver store student, .beginEpoch (some (.replicate 9)), .issueKey store student,
        .sealBoundFrame store [1, 2, 3] binding]
    past.map (·.reply) = [.registered (.ok .added), .begun (.ok epoch),
        .issued (.ok ⟨student, epoch, .replicate 9⟩),
        .sealed (.ok ⟨binding, [0, 0, 0, 0, 0, 0, 0, 0, 1, 2, 3]⟩)] ∧
      MembershipFrozen past :=
  ⟨by decide +kernel, membership_frozen (.inl rfl) (Run.of_calls _ _ _)⟩

end ClassMesh
