import ClassMesh.Control.SenderPlan

namespace ClassMesh

open Std Foundation TeacherPresentationSenderPlan TeacherPresentationSenderAction BTreeMap ExtTreeMap

variable {plan start after : TeacherPresentationSenderPlan} {target : PresentationUnicastSenderTarget}
  {past : List SenderPlanCall} {call : SenderPlanCall} {actions : List TeacherPresentationSenderAction}
  {binding : TeacherPresentationOutlierBinding} {prepared : PreparedTeacherPresentationUnicastTarget}
  {input : SenderPlanInput} {reply : SenderPlanReply} {receiver : PrincipalId}

def TeacherPresentationSenderPlan.bindings (plan : TeacherPresentationSenderPlan) :
    Finset TeacherPresentationOutlierBinding :=
  (plan.targets.toList.map (·.2)).toFinset

theorem mem_bindings : binding ∈ plan.bindings ↔ ∃ receiver : PrincipalId, plan.targets[receiver]? = some binding := by
  simp [bindings, mem_toList_iff_getElem?_eq_some]

/-- One action on the attached bindings: only an attached binding can be detached, and only a free slot attached. -/
def replayAction (attached : Finset TeacherPresentationOutlierBinding) :
    TeacherPresentationSenderAction → Option (Finset TeacherPresentationOutlierBinding)
  | .attachUnicast binding =>
    if ∃ other ∈ attached, other.slotId = binding.slotId then none else some (insert binding attached)
  | .detachUnicast binding => if binding ∈ attached then some (attached.erase binding) else none
  | .requestKeyframe _ => some attached

def TeacherPresentationSenderAction.replay (actions : List TeacherPresentationSenderAction) :
    Option (Finset TeacherPresentationOutlierBinding) :=
  actions.foldlM replayAction ∅

/-- The actions that a call hands out: those of a successful apply, those prepared for a successful commit, and that
of a removal. -/
def senderActions (call : SenderPlanCall) : List TeacherPresentationSenderAction :=
  match call.input, call.reply with
  | _, .applied (.ok actions) => actions
  | .commitUnicastTarget prepared, .committed (.ok ()) => prepared.actions
  | _, .removed (some action) => [action]
  | _, _ => []

/-- The calls that have changed the plan. -/
def planChanges (past : List SenderPlanCall) : Nat :=
  past.countP fun call => call.after.revision ≠ call.before.revision

/-- What is committed was prepared earlier in the run. -/
def CommitsPrepared (past : List SenderPlanCall) : Prop :=
  ∀ earlier call later, past = earlier ++ call :: later → ∀ prepared, call.input = .commitUnicastTarget prepared →
    ∃ made ∈ earlier, made.reply = .prepared (.ok prepared)

/-- All that a call can do to a plan. -/
inductive PlanStep (plan : TeacherPresentationSenderPlan) :
    List TeacherPresentationSenderAction → TeacherPresentationSenderPlan → Prop
  | unchanged : PlanStep plan [] plan
  | targeted {target : PresentationUnicastSenderTarget} {actions : List TeacherPresentationSenderAction}
      {after : TeacherPresentationSenderPlan} (change : TargetChange plan target actions after) :
      PlanStep plan actions after
  | removed {receiver : PrincipalId} {binding : TeacherPresentationOutlierBinding}
      (stored : plan.targets[receiver]? = some binding) :
      PlanStep plan [.detachUnicast binding]
        { plan with targets := plan.targets.erase receiver, revision := plan.revision + 1 }

/-- The plan stays as it is, or its revision is the next one. -/
theorem TargetChange.revision (change : TargetChange plan target actions after) :
    after = plan ∨ after.revision = plan.revision + 1 := by
  cases change with
  | same => exact .inl rfl
  | replaced | added => exact .inr rfl

theorem commit_stale (stale : plan.revision ≠ prepared.revision) :
    plan.commitUnicastTarget prepared = (plan, .error .planChanged) := if_pos stale

theorem commit_current (current : plan.revision = prepared.revision) :
    (∃ error, plan.commitUnicastTarget prepared = (plan, .error error)) ∨
      ∃ actions after, plan.prepareUnicastTarget prepared.target = .ok ⟨plan.revision, prepared.target, actions⟩ ∧
        plan.commitUnicastTarget prepared = (after, .ok ()) ∧ TargetChange plan prepared.target actions after := by
  unfold commitUnicastTarget
  rw [if_neg (not_not.mpr current)]
  rcases target_outcome plan prepared.target with ⟨error, _, failed⟩ | ⟨actions, after, made, committed, change⟩
  · exact .inl ⟨error, by rw [failed]⟩
  · exact .inr ⟨actions, after, made, by rw [committed], change⟩

theorem apply_outcome (plan : TeacherPresentationSenderPlan) (target : PresentationUnicastSenderTarget) :
    (∃ error, plan.applyUnicastTarget target = (plan, .error error)) ∨
      ∃ actions after, plan.applyUnicastTarget target = (after, .ok actions) ∧
        TargetChange plan target actions after := by
  unfold applyUnicastTarget
  rcases target_outcome plan target with ⟨error, failed, _⟩ | ⟨actions, after, made, committed, change⟩
  · exact .inl ⟨error, by rw [failed]⟩
  · refine .inr ⟨actions, after, ?_, change⟩
    have done : plan.commitUnicastTarget ⟨plan.revision, target, actions⟩ = (after, .ok ()) := by
      unfold commitUnicastTarget
      rw [if_neg (not_not.mpr rfl), committed]
    rw [made]
    simp only [done]

theorem remove_outcome (plan : TeacherPresentationSenderPlan) (receiver : PrincipalId) :
    plan.removeReceiver receiver = (plan, none) ∨
      ∃ binding, plan.targets[receiver]? = some binding ∧ plan.removeReceiver receiver =
        ({ plan with targets := plan.targets.erase receiver, revision := plan.revision + 1 },
          some (.detachUnicast binding)) := by
  unfold removeReceiver
  split
  · exact .inl rfl
  · rename_i binding stored
    exact .inr ⟨binding, stored, rfl⟩

/-- Whatever is committed, the plan stays as it is, or its revision is the next one. -/
theorem step_revision (taken : Total step plan input reply after) :
    after = plan ∨ after.revision = plan.revision + 1 := by
  obtain ⟨rfl, rfl⟩ := Prod.ext_iff.mp taken
  cases input with
  | applyUnicastTarget target =>
    rcases apply_outcome plan target with ⟨_, failed⟩ | ⟨_, _, applied, change⟩
    · simp only [step, failed, true_or]
    · simpa only [step, applied] using change.revision
  | prepareUnicastTarget => exact .inl rfl
  | commitUnicastTarget prepared =>
    by_cases current : plan.revision = prepared.revision
    · rcases commit_current current with ⟨_, failed⟩ | ⟨_, _, _, committed, change⟩
      · simp only [step, failed, true_or]
      · simpa only [step, committed] using change.revision
    · simp only [step, commit_stale current, true_or]
  | removeReceiver receiver =>
    rcases remove_outcome plan receiver with absent | ⟨_, _, removed⟩
    · simp only [step, absent, true_or]
    · simp only [step, removed, or_true]

theorem planChanges_append (past later : List SenderPlanCall) :
    planChanges (past ++ later) = planChanges past + planChanges later := List.countP_append

theorem planChanges_concat (past : List SenderPlanCall) (call : SenderPlanCall) :
    planChanges (past ++ [call]) =
      planChanges past + if call.after.revision ≠ call.before.revision then 1 else 0 := by
  simp [planChanges, List.countP_append, List.countP_cons]

/-- The revision counts the changes, and without any the plan is the one it was. -/
theorem revision_of_run (run : Run (Total step) start past plan) :
    plan.revision = start.revision + UInt64.ofNat (planChanges past) ∧ (planChanges past = 0 → plan = start) := by
  induction run with
  | start => exact ⟨by simp [planChanges], fun _ => rfl⟩
  | @next past current input reply after _ taken ih =>
    rw [planChanges_concat]
    rcases step_revision taken with rfl | moved
    · simpa using ih
    · have different : after.revision ≠ current.revision := by
        intro same
        rw [moved] at same
        simp at same
      rw [if_pos different]
      refine ⟨?_, by omega⟩
      rw [moved, ih.1, UInt64.ofNat_add, UInt64.add_assoc]
      rfl

/-- Below 2^64 changes, the same revision means that there was none. -/
theorem unchanged_of_revision (run : Run (Total step) start past plan) (few : planChanges past < 2 ^ 64)
    (same : plan.revision = start.revision) : planChanges past = 0 ∧ plan = start := by
  obtain ⟨counted, unchanged⟩ := revision_of_run run
  rw [same] at counted
  have values := congrArg UInt64.toNat counted
  rw [UInt64.toNat_add, UInt64.toNat_ofNat', Nat.mod_eq_of_lt few] at values
  have below := start.revision.toNat_lt
  have none : planChanges past = 0 := by omega
  exact ⟨none, unchanged none⟩

theorem prepared_reply (taken : Total step call.before call.input call.reply call.after)
    (reply : call.reply = .prepared (.ok prepared)) :
    call.after = call.before ∧ prepared.revision = call.before.revision ∧
      call.before.prepareUnicastTarget prepared.target = .ok prepared := by
  obtain ⟨plan, input, answer, after⟩ := call
  have made : plan.step input = (after, answer) := taken
  obtain ⟨rfl, rfl⟩ := Prod.ext_iff.mp made
  cases input with
  | prepareUnicastTarget target =>
    have succeeded : plan.prepareUnicastTarget target = .ok prepared := SenderPlanReply.prepared.inj reply
    rcases target_outcome plan target with ⟨_, failed, _⟩ | ⟨_, _, value, _, _⟩
    · cases succeeded.symm.trans failed
    · cases succeeded.symm.trans value
      exact ⟨rfl, rfl, succeeded⟩
  | applyUnicastTarget | commitUnicastTarget | removeReceiver => cases reply

/-- If no change has come since a value was prepared, it is the one that the plan would prepare now. -/
theorem prepared_current (run : Run (Total step) start past plan) (few : planChanges past < 2 ^ 64)
    (member : call ∈ past) (reply : call.reply = .prepared (.ok prepared))
    (current : plan.revision = prepared.revision) : plan.prepareUnicastTarget prepared.target = .ok prepared := by
  obtain ⟨_, later, rfl, _, taken, since⟩ := run.of_mem member
  obtain ⟨left, revision, value⟩ := prepared_reply taken reply
  have fewer : planChanges later < 2 ^ 64 := by
    rw [List.append_cons, planChanges_append] at few
    omega
  obtain ⟨_, same⟩ := unchanged_of_revision since fewer (by rw [left, current, revision])
  rw [same, left]
  exact value

/-- A value that was prepared before a change is refused. -/
theorem commit_refused {made commit : SenderPlanCall} {between : List SenderPlanCall}
    (taken : Total TeacherPresentationSenderPlan.step made.before made.input made.reply made.after)
    (reply : made.reply = .prepared (.ok prepared))
    (since : Run (Total TeacherPresentationSenderPlan.step) made.after between commit.before)
    (few : planChanges between < 2 ^ 64) (changed : ∃ call ∈ between, call.after ≠ call.before)
    (committed : Total TeacherPresentationSenderPlan.step commit.before commit.input commit.reply commit.after)
    (input : commit.input = .commitUnicastTarget prepared) :
    commit.reply = .committed (.error .planChanged) ∧ commit.after = commit.before := by
  obtain ⟨call, member, different⟩ := changed
  obtain ⟨_, _, _, _, step, _⟩ := since.of_mem member
  have moved : call.after.revision ≠ call.before.revision := by
    rcases step_revision step with same | next
    · exact absurd same different
    · rw [next]
      simp
  have positive : 0 < planChanges between := List.countP_pos_iff.mpr ⟨call, member, by simpa using moved⟩
  obtain ⟨left, revision, _⟩ := prepared_reply taken reply
  have stale : commit.before.revision ≠ prepared.revision := by
    intro same
    have none := (unchanged_of_revision since few (by rw [left, same, revision])).1
    omega
  have result : commit.before.step commit.input = (commit.after, commit.reply) := committed
  rw [input, TeacherPresentationSenderPlan.step, commit_stale stale] at result
  exact ⟨(Prod.ext_iff.mp result).2.symm, (Prod.ext_iff.mp result).1.symm⟩

/-- A call on a plan that commits only what was prepared for it, before a count of changes can wrap. -/
theorem planStep_of_run (run : Run (Total step) start past plan) (few : planChanges past < 2 ^ 64)
    (prepares : ∀ prepared, input = .commitUnicastTarget prepared →
      ∃ made ∈ past, made.reply = .prepared (.ok prepared)) (taken : Total step plan input reply after) :
    PlanStep plan (senderActions ⟨plan, input, reply, after⟩) after := by
  obtain ⟨rfl, rfl⟩ := Prod.ext_iff.mp taken
  cases input with
  | applyUnicastTarget target =>
    rcases apply_outcome plan target with ⟨_, failed⟩ | ⟨_, _, applied, change⟩
    · simp only [step, failed]
      exact .unchanged
    · simp only [step, applied]
      exact .targeted change
  | prepareUnicastTarget => exact .unchanged
  | commitUnicastTarget prepared =>
    by_cases current : plan.revision = prepared.revision
    · rcases commit_current current with ⟨_, failed⟩ | ⟨actions, _, made, committed, change⟩
      · simp only [step, failed]
        exact .unchanged
      · simp only [step, committed]
        obtain ⟨_, member, replied⟩ := prepares prepared rfl
        have same := made.symm.trans (prepared_current run few member replied current)
        rw [show actions = prepared.actions from
          congrArg PreparedTeacherPresentationUnicastTarget.actions (Except.ok.inj same)] at change
        exact .targeted change
    · simp only [step, commit_stale current]
      exact .unchanged
  | removeReceiver receiver =>
    rcases remove_outcome plan receiver with absent | ⟨_, stored, removed⟩
    · simp only [step, absent]
      exact .unchanged
    · simp only [step, removed]
      exact .removed stored

section Bindings

variable {receiver : PrincipalId} {binding : TeacherPresentationOutlierBinding}

theorem mem_insert_bindings {fresh : TeacherPresentationOutlierBinding}
    (targets : after.targets = plan.targets.insert receiver fresh) :
    binding ∈ after.bindings ↔
      binding = fresh ∨ ∃ other, other ≠ receiver ∧ plan.targets[other]? = some binding := by
  rw [mem_bindings, targets]
  constructor
  · rintro ⟨other, stored⟩
    rcases getElem?_insert_cases stored with ⟨_, rfl⟩ | ⟨different, old⟩
    · exact .inl rfl
    · exact .inr ⟨other, different, old⟩
  · rintro (rfl | ⟨other, different, stored⟩)
    · exact ⟨receiver, getElem?_insert_self⟩
    · exact ⟨other, by rw [getElem?_insert_ne different, stored]⟩

theorem mem_erase_bindings (targets : after.targets = plan.targets.erase receiver) :
    binding ∈ after.bindings ↔ ∃ other, other ≠ receiver ∧ plan.targets[other]? = some binding := by
  rw [mem_bindings, targets]
  constructor
  · rintro ⟨other, stored⟩
    exact ⟨other, getElem?_erase_cases stored⟩
  · rintro ⟨other, different, stored⟩
    exact ⟨other, by rw [getElem?_erase_ne different, stored]⟩

end Bindings

/-- The actions so far, and the slots that they have used, beside the plan. -/
structure Mirrored (past : List SenderPlanCall) (plan : TeacherPresentationSenderPlan) : Prop where
  replayed : replay (past.flatMap senderActions) = some plan.bindings
  bounded : plan.targets.size ≤ plan.maxReceivers
  distinct : ∀ (first second : PrincipalId) (one other : TeacherPresentationOutlierBinding),
    plan.targets[first]? = some one → plan.targets[second]? = some other → one.slotId = other.slotId → first = second
  owned : ∀ (receiver : PrincipalId) (binding : TeacherPresentationOutlierBinding),
    plan.targets[receiver]? = some binding →
      binding.target.receiver = receiver ∧ .attachUnicast binding ∈ past.flatMap senderActions
  issued : ∀ binding, .attachUnicast binding ∈ past.flatMap senderActions →
    binding.slotId.toNat < plan.nextSlotId.toNat
  receivers : ∀ one other, .attachUnicast one ∈ past.flatMap senderActions →
    .attachUnicast other ∈ past.flatMap senderActions → one.slotId = other.slotId →
      one.target.receiver = other.target.receiver
  vacated : ∀ call ∈ past, ∀ binding, call.reply = .removed (some (.detachUnicast binding)) →
    .attachUnicast binding ∈ past.flatMap senderActions ∧
      ∀ (receiver : PrincipalId) (other : TeacherPresentationOutlierBinding),
        plan.targets[receiver]? = some other → other.slotId ≠ binding.slotId

theorem senderActions_removed (reply : call.reply = .removed (some (.detachUnicast binding))) :
    senderActions call = [.detachUnicast binding] := by
  obtain ⟨_, input, _⟩ := call
  cases reply
  cases input <;> rfl

theorem replay_append (earlier more : List TeacherPresentationSenderAction) :
    replay (earlier ++ more) = (replay earlier).bind fun attached => more.foldlM replayAction attached := by
  rw [replay, List.foldlM_append]
  rfl

theorem Mirrored.of_empty (limit : Nat) : Mirrored [] { maxReceivers := limit } := by
  have nothing : ({ maxReceivers := limit } : TeacherPresentationSenderPlan).bindings = ∅ := by
    refine Finset.eq_empty_of_forall_notMem fun binding member => ?_
    obtain ⟨_, stored⟩ := mem_bindings.mp member
    simp at stored
  refine ⟨?_, by simp, ?_, ?_, ?_, ?_, ?_⟩
  · rw [nothing]
    rfl
  all_goals simp

theorem Mirrored.unchanged (mirrored : Mirrored past plan) (silent : senderActions call = []) :
    Mirrored (past ++ [call]) plan := by
  have acts : (past ++ [call]).flatMap senderActions = past.flatMap senderActions := by
    rw [List.flatMap_append, List.flatMap_singleton, silent, List.append_nil]
  refine ⟨?_, mirrored.bounded, mirrored.distinct, ?_, ?_, ?_, ?_⟩
  all_goals rw [acts]
  · exact mirrored.replayed
  · exact mirrored.owned
  · exact mirrored.issued
  · exact mirrored.receivers
  · intro other member binding reply
    rcases List.mem_append.mp member with earlier | last
    · exact mirrored.vacated other earlier binding reply
    · rw [List.mem_singleton.mp last] at reply
      rw [senderActions_removed reply] at silent
      cases silent

section Attached

variable {fresh : TeacherPresentationOutlierBinding} {front : List TeacherPresentationSenderAction}

/-- A slot comes from the binding that is replaced, or it is the next one. -/
def SlotOrigin (plan : TeacherPresentationSenderPlan) (fresh : TeacherPresentationOutlierBinding) : Prop :=
  (∃ previous, plan.targets[fresh.target.receiver]? = some previous ∧ previous.slotId = fresh.slotId) ∨
    fresh.slotId = plan.nextSlotId

variable (mirrored : Mirrored past plan) (origin : SlotOrigin plan fresh) {binding : TeacherPresentationOutlierBinding}

include mirrored origin

/-- No other receiver has the slot. -/
theorem Mirrored.free {receiver : PrincipalId} (stored : plan.targets[receiver]? = some binding)
    (different : receiver ≠ fresh.target.receiver) : binding.slotId ≠ fresh.slotId := by
  intro same
  rcases origin with ⟨_, replaced, slot⟩ | next
  · exact different (mirrored.distinct _ _ _ _ stored replaced (same.trans slot.symm))
  · have used := mirrored.issued binding (mirrored.owned _ _ stored).2
    rw [same, next] at used
    exact Nat.lt_irrefl _ used

/-- Who has had the slot is the receiver that gets it now. -/
theorem Mirrored.had (attached : .attachUnicast binding ∈ past.flatMap senderActions)
    (same : binding.slotId = fresh.slotId) : binding.target.receiver = fresh.target.receiver := by
  rcases origin with ⟨_, replaced, slot⟩ | next
  · obtain ⟨receiver, held⟩ := mirrored.owned _ _ replaced
    rw [← receiver]
    exact mirrored.receivers _ _ attached held (same.trans slot.symm)
  · have used := mirrored.issued binding attached
    rw [same, next] at used
    exact absurd used (Nat.lt_irrefl _)

/-- The slot of a removed binding is not used again. -/
theorem Mirrored.not_vacated {earlier : SenderPlanCall} (member : earlier ∈ past)
    (reply : earlier.reply = .removed (some (.detachUnicast binding))) : fresh.slotId ≠ binding.slotId := by
  obtain ⟨attached, gone⟩ := mirrored.vacated _ member _ reply
  rcases origin with ⟨_, replaced, slot⟩ | next
  · rw [← slot]
    exact gone _ _ replaced
  · intro same
    have used := mirrored.issued binding attached
    rw [← same, next] at used
    exact Nat.lt_irrefl _ used

/-- A call whose last action attaches a binding keeps the mirror. Whether the slot of the binding is the next one or
that of a binding it replaces is left to `SlotOrigin`. -/
theorem Mirrored.attach (acts : senderActions call = front ++ [.attachUnicast fresh])
    (only : ∀ binding, .attachUnicast binding ∉ front)
    (targets : after.targets = plan.targets.insert fresh.target.receiver fresh)
    (bounded : after.targets.size ≤ after.maxReceivers) (forward : plan.nextSlotId.toNat ≤ after.nextSlotId.toNat)
    (within : fresh.slotId.toNat < after.nextSlotId.toNat)
    (replayed : (front ++ [attachUnicast fresh]).foldlM replayAction plan.bindings = some after.bindings) :
    Mirrored (past ++ [call]) after := by
  have attached (binding : TeacherPresentationOutlierBinding) :
      .attachUnicast binding ∈ (past ++ [call]).flatMap senderActions ↔
        .attachUnicast binding ∈ past.flatMap senderActions ∨ binding = fresh := by
    rw [List.flatMap_append, List.flatMap_singleton, acts, List.mem_append, List.mem_append, List.mem_singleton]
    simp only [only, false_or, attachUnicast.injEq]
  have stored (receiver : PrincipalId) (binding : TeacherPresentationOutlierBinding)
      (now : after.targets[receiver]? = some binding) :
      (receiver = fresh.target.receiver ∧ binding = fresh) ∨
        (receiver ≠ fresh.target.receiver ∧ plan.targets[receiver]? = some binding) := by
    rw [targets] at now
    exact getElem?_insert_cases now
  refine ⟨?_, bounded, ?_, ?_, ?_, ?_, ?_⟩
  · rw [List.flatMap_append, List.flatMap_singleton, acts, replay_append, mirrored.replayed]
    exact replayed
  · intro first second one other atFirst atSecond same
    rcases stored _ _ atFirst with ⟨rfl, rfl⟩ | ⟨different, before⟩
    · rcases stored _ _ atSecond with ⟨rfl, rfl⟩ | ⟨different, before⟩
      · rfl
      · exact absurd same.symm (mirrored.free origin before different)
    · rcases stored _ _ atSecond with ⟨rfl, rfl⟩ | ⟨_, before'⟩
      · exact absurd same (mirrored.free origin before different)
      · exact mirrored.distinct _ _ _ _ before before' same
  · intro receiver binding now
    rw [attached]
    rcases stored _ _ now with ⟨rfl, rfl⟩ | ⟨_, before⟩
    · exact ⟨rfl, .inr rfl⟩
    · obtain ⟨owner, held⟩ := mirrored.owned _ _ before
      exact ⟨owner, .inl held⟩
  · intro binding member
    rcases (attached binding).mp member with before | rfl
    · exact (mirrored.issued _ before).trans_le forward
    · exact within
  · intro one other first second same
    rcases (attached one).mp first with before | rfl <;> rcases (attached other).mp second with before' | rfl
    · exact mirrored.receivers _ _ before before' same
    · exact mirrored.had origin before same
    · exact (mirrored.had origin before' same.symm).symm
    · rfl
  · intro earlier member binding reply
    rcases List.mem_append.mp member with before | last
    · obtain ⟨held, gone⟩ := mirrored.vacated _ before _ reply
      refine ⟨(attached binding).mpr (.inl held), fun receiver other now => ?_⟩
      rcases stored _ _ now with ⟨_, rfl⟩ | ⟨_, still⟩
      · exact mirrored.not_vacated origin before reply
      · exact gone _ _ still
    · rw [List.mem_singleton.mp last] at reply
      have removal := (senderActions_removed reply).symm.trans acts
      have length := congrArg List.getLast? removal
      simp at length

end Attached

theorem Mirrored.mem_erase (mirrored : Mirrored past plan) {other : TeacherPresentationOutlierBinding}
    (stored : plan.targets[receiver]? = some binding) :
    other ∈ plan.bindings.erase binding ↔
      ∃ place : PrincipalId, place ≠ receiver ∧ plan.targets[place]? = some other := by
  rw [Finset.mem_erase, mem_bindings]
  constructor
  · rintro ⟨different, place, found⟩
    refine ⟨place, ?_, found⟩
    rintro rfl
    exact different (Option.some.inj (found.symm.trans stored))
  · rintro ⟨place, elsewhere, found⟩
    refine ⟨?_, place, found⟩
    rintro rfl
    exact elsewhere (mirrored.distinct _ _ _ _ found stored rfl)

theorem replay_attach {attached : Finset TeacherPresentationOutlierBinding}
    (fresh : TeacherPresentationOutlierBinding) (free : ∀ other ∈ attached, other.slotId ≠ fresh.slotId) :
    replayAction attached (.attachUnicast fresh) = some (insert fresh attached) := by
  refine if_neg ?_
  rintro ⟨other, member, same⟩
  exact free other member same

theorem Mirrored.replaced (mirrored : Mirrored past plan) {previous : TeacherPresentationOutlierBinding}
    (stored : plan.targets[target.receiver]? = some previous)
    (acts : senderActions call =
      [.detachUnicast previous] ++ [.attachUnicast ⟨previous.slotId, target, previous.valid⟩]) :
    Mirrored (past ++ [call])
      { plan with
        targets := plan.targets.insert target.receiver ⟨previous.slotId, target, previous.valid⟩
        revision := plan.revision + 1 } := by
  have origin : SlotOrigin plan ⟨previous.slotId, target, previous.valid⟩ := .inl ⟨previous, stored, rfl⟩
  refine mirrored.attach origin acts (by simp) rfl ?_ (Nat.le_refl _) ?_ ?_
  · exact (size_insert_of_getElem? stored).trans_le mirrored.bounded
  · exact mirrored.issued previous (mirrored.owned _ _ stored).2
  · have detached : replayAction plan.bindings (.detachUnicast previous) = some (plan.bindings.erase previous) :=
      if_pos (mem_bindings.mpr ⟨_, stored⟩)
    rw [List.foldlM_append, List.foldlM_cons, detached]
    have free : ∀ other ∈ plan.bindings.erase previous, other.slotId ≠ previous.slotId := by
      intro other member
      obtain ⟨_, elsewhere, found⟩ := (mirrored.mem_erase stored).mp member
      exact mirrored.free origin found elsewhere
    refine (congrArg (· >>= pure) (replay_attach ⟨previous.slotId, target, previous.valid⟩ free)).trans
      (congrArg some (Finset.ext fun binding => ?_))
    rw [Finset.mem_insert, mirrored.mem_erase stored, mem_insert_bindings rfl]

theorem Mirrored.added (mirrored : Mirrored past plan) {nextSlotId : UInt64}
    (absent : plan.targets[target.receiver]? = none) (room : plan.targets.size < plan.maxReceivers)
    (next : nextSlotId.toNat = plan.nextSlotId.toNat + 1) (valid : plan.nextSlotId ≠ 0)
    (acts : senderActions call = [] ++ [.attachUnicast ⟨plan.nextSlotId, target, valid⟩]) :
    Mirrored (past ++ [call])
      { plan with
        nextSlotId := nextSlotId
        targets := plan.targets.insert target.receiver ⟨plan.nextSlotId, target, valid⟩
        revision := plan.revision + 1 } := by
  have origin : SlotOrigin plan ⟨plan.nextSlotId, target, valid⟩ := .inr rfl
  have elsewhere {place : PrincipalId} {binding : TeacherPresentationOutlierBinding}
      (found : plan.targets[place]? = some binding) : place ≠ target.receiver := by
    rintro rfl
    cases found.symm.trans absent
  refine mirrored.attach origin acts (by simp) rfl ?_ (by simp only; omega) (by simp only; omega) ?_
  · have outside : target.receiver ∉ plan.targets := by
      rw [← isSome_getElem?_iff_mem, absent]
      simp
    exact (size_insert_of_not_mem outside).trans_le room
  · have free : ∀ other ∈ plan.bindings, other.slotId ≠ plan.nextSlotId := by
      intro other member
      obtain ⟨_, found⟩ := mem_bindings.mp member
      exact mirrored.free origin found (elsewhere found)
    refine (congrArg (· >>= pure) (replay_attach _ free)).trans
      (congrArg some (Finset.ext fun binding => ?_))
    rw [Finset.mem_insert, mem_bindings, mem_insert_bindings rfl]
    refine or_congr_right ⟨?_, ?_⟩
    · rintro ⟨place, found⟩
      exact ⟨place, elsewhere found, found⟩
    · rintro ⟨place, _, found⟩
      exact ⟨place, found⟩

theorem Mirrored.removed (mirrored : Mirrored past plan) (stored : plan.targets[receiver]? = some binding)
    (acts : senderActions call = [.detachUnicast binding]) :
    Mirrored (past ++ [call])
      { plan with targets := plan.targets.erase receiver, revision := plan.revision + 1 } := by
  have attached (other : TeacherPresentationOutlierBinding) :
      .attachUnicast other ∈ (past ++ [call]).flatMap senderActions ↔
        .attachUnicast other ∈ past.flatMap senderActions := by
    rw [List.flatMap_append, List.flatMap_singleton, acts, List.mem_append]
    simp
  refine ⟨?_, ?_, ?_, ?_, ?_, ?_, ?_⟩
  · have detached : replayAction plan.bindings (.detachUnicast binding) = some (plan.bindings.erase binding) :=
      if_pos (mem_bindings.mpr ⟨_, stored⟩)
    rw [List.flatMap_append, List.flatMap_singleton, acts, replay_append, mirrored.replayed]
    refine (congrArg (· >>= pure) detached).trans (congrArg some (Finset.ext fun other => ?_))
    rw [mirrored.mem_erase stored, mem_erase_bindings rfl]
  · have size := size_erase_of_getElem? stored
    have bounded := mirrored.bounded
    simp only
    omega
  · intro first second one other atFirst atSecond
    exact mirrored.distinct _ _ _ _ (getElem?_erase_cases atFirst).2 (getElem?_erase_cases atSecond).2
  · intro place other now
    rw [attached]
    exact mirrored.owned _ _ (getElem?_erase_cases now).2
  · intro other member
    exact mirrored.issued other ((attached other).mp member)
  · intro one other first second
    exact mirrored.receivers _ _ ((attached one).mp first) ((attached other).mp second)
  · intro earlier member other reply
    rw [attached]
    rcases List.mem_append.mp member with before | last
    · obtain ⟨held, gone⟩ := mirrored.vacated _ before _ reply
      exact ⟨held, fun place found now => gone _ _ (getElem?_erase_cases now).2⟩
    · rw [List.mem_singleton.mp last] at reply
      have same := (senderActions_removed reply).symm.trans acts
      cases same
      refine ⟨(mirrored.owned _ _ stored).2, fun place found now slot => ?_⟩
      exact (getElem?_erase_cases now).1 (mirrored.distinct _ _ _ _ (getElem?_erase_cases now).2 stored slot)

theorem Mirrored.step (mirrored : Mirrored past plan) (taken : PlanStep plan (senderActions call) after) :
    Mirrored (past ++ [call]) after := by
  generalize acts : senderActions call = actions at taken
  cases taken with
  | unchanged => exact mirrored.unchanged acts
  | targeted change =>
    cases change with
    | same => exact mirrored.unchanged acts
    | replaced stored => exact mirrored.replaced stored acts
    | added absent room next valid => exact mirrored.added absent room next valid acts
  | removed stored => exact mirrored.removed stored acts

theorem CommitsPrepared.earlier {later : List SenderPlanCall} (commits : CommitsPrepared (past ++ later)) :
    CommitsPrepared past := by
  intro front call back cut
  refine commits front call (back ++ later) ?_
  rw [cut, List.append_assoc]
  rfl

theorem PlanStep.origin (taken : PlanStep plan actions after) (member : .attachUnicast binding ∈ actions) :
    SlotOrigin plan binding := by
  cases taken with
  | unchanged | removed => simp at member
  | targeted change =>
    cases change with
    | same => simp at member
    | @replaced previous stored =>
      simp only [List.mem_cons, reduceCtorEq, List.not_mem_nil, or_false, false_or,
        attachUnicast.injEq] at member
      subst member
      exact .inl ⟨previous, stored, rfl⟩
    | added =>
      simp only [List.mem_singleton, attachUnicast.injEq] at member
      subst member
      exact .inr rfl

theorem Mirrored.of_run {limit : Nat}
    (run : Run (Total TeacherPresentationSenderPlan.step) { maxReceivers := limit } past plan)
    (few : planChanges past < 2 ^ 64) (commits : CommitsPrepared past) : Mirrored past plan := by
  induction run with
  | start => exact .of_empty limit
  | @next past current input reply after before taken ih =>
    have fewer : planChanges past < 2 ^ 64 := by
      rw [planChanges_append] at few
      omega
    exact (ih fewer commits.earlier).step (planStep_of_run before fewer (commits past _ [] rfl) taken)

theorem PlanStep.limit (taken : PlanStep plan actions after) : after.maxReceivers = plan.maxReceivers := by
  cases taken with
  | unchanged | removed => rfl
  | targeted change => cases change <;> rfl

theorem limit_of_run (run : Run (Total step) start past plan) (few : planChanges past < 2 ^ 64)
    (commits : CommitsPrepared past) : plan.maxReceivers = start.maxReceivers := by
  induction run with
  | start => rfl
  | @next past current input reply after before taken ih =>
    rw [planChanges_append] at few
    rw [← ih (by omega) commits.earlier]
    exact (planStep_of_run before (by omega) (commits past _ [] rfl) taken).limit

/-- Replaying what the calls on a plan hand out never detaches a binding that is not attached nor attaches to a slot
in use, and leaves attached exactly the targets of the plan, which are never more than its limit; a slot is never given
to another receiver, and not at all after its removal; and a commit that was prepared before a change is refused. -/
theorem sender_actions_mirror_plan {limit : Nat} (created : TeacherPresentationSenderPlan.withLimit limit = .ok start)
    (run : Run (Total TeacherPresentationSenderPlan.step) start past plan) (few : planChanges past < 2 ^ 64)
    (commits : CommitsPrepared past) :
    (∀ earlier later, past = earlier ++ later → ∃ reached,
      Run (Total TeacherPresentationSenderPlan.step) start earlier reached ∧
        replay (earlier.flatMap senderActions) = some reached.bindings ∧ reached.targets.size ≤ limit) ∧
      (∀ one other, .attachUnicast one ∈ past.flatMap senderActions →
        .attachUnicast other ∈ past.flatMap senderActions → one.slotId = other.slotId →
          one.target.receiver = other.target.receiver) ∧
      (∀ earlier call later binding, past = earlier ++ call :: later →
        call.reply = .removed (some (.detachUnicast binding)) →
          ∀ other, .attachUnicast other ∈ later.flatMap senderActions → other.slotId ≠ binding.slotId) ∧
      ∀ earlier made between commit later prepared, past = earlier ++ made :: (between ++ commit :: later) →
        made.reply = .prepared (.ok prepared) → commit.input = .commitUnicastTarget prepared →
          (∃ call ∈ between, call.after ≠ call.before) →
            commit.reply = .committed (.error .planChanged) ∧ commit.after = commit.before := by
  obtain rfl : { maxReceivers := limit } = start := by
    unfold TeacherPresentationSenderPlan.withLimit at created
    split at created
    · cases created
    · exact Except.ok.inj created
  refine ⟨?_, (Mirrored.of_run run few commits).receivers, ?_, ?_⟩
  · rintro earlier later rfl
    obtain ⟨reached, before, _⟩ := run.parts
    rw [planChanges_append] at few
    have mirrored := Mirrored.of_run before (by omega) commits.earlier
    refine ⟨reached, before, mirrored.replayed, ?_⟩
    exact mirrored.bounded.trans_eq (limit_of_run before (by omega) commits.earlier)
  · rintro earlier call later binding rfl reply other member
    obtain ⟨attaching, among, given⟩ := List.mem_flatMap.mp member
    obtain ⟨between, rest, rfl⟩ := List.append_of_mem among
    have cut : earlier ++ call :: (between ++ attaching :: rest) =
        (earlier ++ call :: between) ++ attaching :: rest := by simp
    rw [cut] at run few commits
    obtain ⟨before, taken, _⟩ := run.split rfl
    rw [planChanges_append] at few
    have mirrored := Mirrored.of_run before (by omega) commits.earlier
    have step := planStep_of_run before (by omega) (commits _ attaching rest rfl) taken
    exact mirrored.not_vacated (step.origin given) (List.mem_append_right _ List.mem_cons_self) reply
  · rintro earlier made between commit later prepared rfl reply input changed
    obtain ⟨_, taken, since⟩ := run.split rfl
    obtain ⟨reached, committed, _⟩ := since.split rfl
    refine commit_refused taken reply reached ?_ changed committed input
    rw [List.append_cons, planChanges_append, planChanges_append, planChanges_append] at few
    omega

def sampleTarget : PresentationUnicastSenderTarget :=
  ⟨⟨.replicate 4⟩, ⟨.v4 0x0a000004, 5000⟩, 55, 7, ⟨1280, 720, 30, 2000⟩, sampleEpoch⟩

/-- What a new plan prepares for the first target. -/
def samplePrepared : PreparedTeacherPresentationUnicastTarget :=
  ⟨0, sampleTarget, [.attachUnicast ⟨1, sampleTarget, by decide⟩]⟩

def prepareTwoInputs : List SenderPlanInput :=
  [.prepareUnicastTarget sampleTarget, .commitUnicastTarget samplePrepared, .removeReceiver sampleTarget.receiver,
    .commitUnicastTarget samplePrepared]

/-- The target is attached by the first commit, and detached by the removal; the second commit is refused. -/
theorem sender_actions_mirror_plan_prepared_once :
    let past := calls TeacherPresentationSenderPlan.step {} prepareTwoInputs
    (∃ reached : TeacherPresentationSenderPlan, replay (past.flatMap senderActions) = some reached.bindings) ∧
      past.flatMap senderActions =
        [.attachUnicast ⟨1, sampleTarget, by decide⟩, .detachUnicast ⟨1, sampleTarget, by decide⟩] := by
  intro past
  have run := Run.of_calls step {} prepareTwoInputs
  have created : withLimit 64 = .ok {} := rfl
  have few : planChanges past < 2 ^ 64 := by decide +kernel
  have commits : CommitsPrepared past := by
    intro earlier call later cut prepared input
    rcases cons_eq_append_cons cut with ⟨_, rfl, _⟩ | ⟨front, rfl, rest⟩
    · cases input
    · refine ⟨_, List.mem_cons_self, ?_⟩
      have same : prepared = samplePrepared := by
        have inputs : prepareTwoInputs.tail = (front ++ call :: later).map (·.input) := by
          rw [← rest]
          rfl
        have member : .commitUnicastTarget prepared ∈ prepareTwoInputs.tail := by
          rw [inputs, ← input]
          exact List.mem_map_of_mem (List.mem_append_right _ List.mem_cons_self)
        simpa [prepareTwoInputs] using member
      rw [same]
      decide +kernel
  obtain ⟨reached, _, replayed, _⟩ :=
    (sender_actions_mirror_plan created run few commits).1 past [] (List.append_nil _).symm
  exact ⟨⟨reached, replayed⟩, by decide +kernel⟩

end ClassMesh
