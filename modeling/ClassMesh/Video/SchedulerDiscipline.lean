import ClassMesh.Video.MonitoringScheduler

namespace ClassMesh

open Std Foundation MonitoringScheduler

abbrev SchedulerCall := Call MonitoringScheduler SchedulerInput SchedulerReply

namespace SchedulerCall

def actions (call : SchedulerCall) : List MonitoringScheduleAction :=
  match call.reply with
  | .actions made => made
  | _ => []

def captures (sourceId : MonitoringSourceId) (call : SchedulerCall) : Prop :=
  ∃ profile, .captureThumbnail sourceId profile ∈ actions call

/-- No due time that the call computes is cut off at the largest time. -/
def unsaturated (call : SchedulerCall) : Bool :=
  match call.input with
  | .poll nowUs => (actions call).all fun action =>
    match action with
    | .captureThumbnail _ profile => nowUs.toNat + profile.intervalUs < UInt64.size
    | .promoteInteractive _ => true
  | _ => true

theorem interval_fits {call : SchedulerCall} {nowUs : UInt64} {sourceId : MonitoringSourceId}
    {profile : MonitoringProfile} (fits : unsaturated call) (polled : call.input = .poll nowUs)
    (captured : .captureThumbnail sourceId profile ∈ actions call) :
    nowUs.toNat + profile.intervalUs < UInt64.size := by
  rw [unsaturated, polled] at fits
  exact of_decide_eq_true (List.all_eq_true.mp fits _ captured)

end SchedulerCall

open SchedulerCall

section Steps

variable {scheduler after : MonitoringScheduler} {input : SchedulerInput} {reply : SchedulerReply}
  {sourceId : MonitoringSourceId} {state : SourceState} {nowUs : UInt64} {call : SchedulerCall}

theorem poll_actions_length (scheduler : MonitoringScheduler) (nowUs : UInt64) :
    (scheduler.poll nowUs).2.length ≤ scheduler.config.maxActionsPerTick := by
  have promoted : scheduler.promotions.length ≤ scheduler.config.maxActionsPerTick := by
    rw [promotions, List.length_take]
    exact Nat.min_le_left _ _
  have captured := scheduler.selected_length nowUs
  have made := List.length_filterMap_le (captureAction scheduler.promotedSources) (scheduler.selected nowUs)
  rw [poll_actions, List.length_append, List.length_map]
  unfold remaining at captured
  omega

theorem captureActions_sourceIds_sublist (sources : MonitoringSources) (entries : List DueEntry) :
    ((entries.filterMap (captureAction sources)).map (·.sourceId)).Sublist (entries.map (·.sourceId)) := by
  induction entries with
  | nil => exact .slnil
  | cons entry rest ih =>
    cases stored : sources[entry.sourceId]? with
    | none =>
      have none : captureAction sources entry = none := by rw [captureAction, stored, Option.map_none]
      rw [List.filterMap_cons_none none]
      exact ih.cons entry.sourceId
    | some state =>
      have made : captureAction sources entry = some (.captureThumbnail entry.sourceId state.profile) := by
        rw [captureAction, stored, Option.map_some]
      rw [List.filterMap_cons_some made]
      exact ih.cons_cons entry.sourceId

theorem poll_actions_nodup (scheduler : MonitoringScheduler) (nowUs : UInt64) :
    ((scheduler.poll nowUs).2.map (·.sourceId)).Nodup := by
  have captures := captureActions_sourceIds_sublist scheduler.promotedSources (scheduler.selected nowUs)
  have promoted : (scheduler.promotions.map MonitoringScheduleAction.promoteInteractive).map (·.sourceId) =
      scheduler.promotions := by
    rw [List.map_map]
    exact List.map_id _
  rw [poll_actions, List.map_append, promoted]
  refine List.nodup_append.mpr ⟨scheduler.promotions_nodup, (scheduler.selectedIds_nodup nowUs).sublist captures, ?_⟩
  rintro left inPromotions right inCaptures rfl
  exact (due_of_selectedIds (captures.subset inCaptures)).1 inPromotions

/-- A poll that captures anything has promoted every source that waited for it. -/
theorem promotions_of_capture (captured : sourceId ∈ scheduler.selectedIds nowUs) {other : MonitoringSourceId}
    (stored : scheduler.sources[other]? = some state) (requested : state.mode = .promotionRequested) :
    other ∈ scheduler.promotions := by
  have waiting := mem_pending_promotions.mpr ⟨state, stored, requested⟩
  have room : scheduler.remaining ≠ 0 := by
    intro none
    simp [selectedIds, selected, none] at captured
  unfold promotions
  rw [List.take_of_length_le]
  · exact waiting
  · unfold remaining promotions at room
    rw [List.length_take] at room
    omega

theorem alter_getElem? (scheduler : MonitoringScheduler) (other : MonitoringSourceId) (f : SourceState → SourceState)
    (stored : scheduler.sources[sourceId]? = some state) :
    (scheduler.alter other f).1.sources[sourceId]? = some (if other = sourceId then f state else state) := by
  unfold alter
  by_cases same : other = sourceId
  · subst same
    rw [stored, if_pos rfl]
    exact ExtTreeMap.getElem?_insert_self
  · rw [if_neg same]
    cases scheduler.sources[other]? with
    | none => exact stored
    | some => exact (BTreeMap.getElem?_insert_ne fun same' => same same'.symm).trans stored

/-- What a call other than a poll leaves of a source that it neither removes nor resumes. -/
theorem control_source (taken : Total step scheduler input reply after)
    (stored : scheduler.sources[sourceId]? = some state) (control : ∀ nowUs, input ≠ .poll nowUs)
    (unremoved : input ≠ .removeSource sourceId) (unresumed : input ≠ .resumeThumbnail sourceId) :
    ∃ state', after.sources[sourceId]? = some state' ∧ state'.profile = state.profile ∧
      (state'.mode = state.mode ∧ state'.nextDueUs = state.nextDueUs ∨
        input = .requestInteractivePromotion sourceId ∧ state.mode = .thumbnail) := by
  cases input with
  | addSource other =>
    obtain ⟨rfl, _⟩ := Prod.ext_iff.mp taken
    simp only [step, addSource]
    split
    · exact ⟨state, stored, rfl, .inl ⟨rfl, rfl⟩⟩
    · rename_i absent
      split
      · exact ⟨state, stored, rfl, .inl ⟨rfl, rfl⟩⟩
      · have different : sourceId ≠ other := by
          rintro rfl
          exact absent (ExtTreeMap.contains_iff_mem.mpr (BTreeMap.mem_of_getElem? stored))
        exact ⟨state, (BTreeMap.getElem?_insert_ne different).trans stored, rfl, .inl ⟨rfl, rfl⟩⟩
  | removeSource other =>
    obtain ⟨rfl, _⟩ := Prod.ext_iff.mp taken
    have different : sourceId ≠ other := by
      rintro rfl
      exact unremoved rfl
    exact ⟨state, (BTreeMap.getElem?_erase_ne different).trans stored, rfl, .inl ⟨rfl, rfl⟩⟩
  | setPriority other =>
    obtain ⟨rfl, _⟩ := Prod.ext_iff.mp taken
    refine ⟨_, alter_getElem? scheduler other _ stored, ?_⟩
    split
    · exact ⟨rfl, .inl ⟨rfl, rfl⟩⟩
    · exact ⟨rfl, .inl ⟨rfl, rfl⟩⟩
  | requestInteractivePromotion other =>
    obtain ⟨rfl, _⟩ := Prod.ext_iff.mp taken
    refine ⟨_, alter_getElem? scheduler other _ stored, ?_⟩
    split
    · rename_i same
      subst same
      split
      · rename_i thumbnail
        exact ⟨rfl, .inr ⟨rfl, thumbnail⟩⟩
      · exact ⟨rfl, .inl ⟨rfl, rfl⟩⟩
    · exact ⟨rfl, .inl ⟨rfl, rfl⟩⟩
  | resumeThumbnail other =>
    obtain ⟨rfl, _⟩ := Prod.ext_iff.mp taken
    have different : other ≠ sourceId := by
      rintro rfl
      exact unresumed rfl
    have kept := alter_getElem? scheduler other
      (fun state => { state with mode := .thumbnail, nextDueUs := none }) stored
    rw [if_neg different] at kept
    exact ⟨state, kept, rfl, .inl ⟨rfl, rfl⟩⟩
  | poll nowUs => exact absurd rfl (control nowUs)

theorem actions_of_poll (taken : Total step call.before call.input call.reply call.after)
    (polled : call.input = .poll nowUs) :
    actions call = (call.before.poll nowUs).2 ∧ call.after = (call.before.poll nowUs).1 := by
  obtain ⟨before, _, reply, _⟩ := call
  cases polled
  obtain ⟨left, replied⟩ := Prod.ext_iff.mp taken
  have same : reply = .actions (before.poll nowUs).2 := replied.symm
  rw [actions, same]
  exact ⟨rfl, left.symm⟩

/-- Only a poll makes actions. -/
theorem actions_of_control (taken : Total step call.before call.input call.reply call.after)
    (control : ∀ nowUs, call.input ≠ .poll nowUs) : actions call = [] := by
  obtain ⟨before, input, reply, _⟩ := call
  obtain ⟨_, replied⟩ := Prod.ext_iff.mp taken
  have same : (step before input).2 = reply := replied
  rw [actions, ← same]
  cases input with
  | poll nowUs => exact absurd rfl (control nowUs)
  | addSource | removeSource | setPriority | requestInteractivePromotion | resumeThumbnail => rfl

theorem poll_or_control (input : SchedulerInput) : (∃ nowUs, input = .poll nowUs) ∨ ∀ nowUs, input ≠ .poll nowUs := by
  cases input with
  | poll nowUs => exact .inl ⟨nowUs, rfl⟩
  | addSource | removeSource | setPriority | requestInteractivePromotion | resumeThumbnail =>
    exact .inr fun _ same => by cases same

end Steps

section Spacing

variable {sourceId : MonitoringSourceId} {profile : MonitoringProfile} {timeUs : Nat} {call : SchedulerCall}

/-- The source is a thumbnail source that is not due before a given time. -/
def NotDueBefore (sourceId : MonitoringSourceId) (profile : MonitoringProfile) (timeUs : Nat)
    (scheduler : MonitoringScheduler) : Prop :=
  ∃ state, scheduler.sources[sourceId]? = some state ∧ state.profile = profile ∧ state.mode = .thumbnail ∧
    timeUs ≤ state.dueAt.toNat

/-- The call neither removes the source nor changes its mode from outside. -/
def Undisturbed (sourceId : MonitoringSourceId) (call : SchedulerCall) : Prop :=
  call.input ≠ .removeSource sourceId ∧ call.input ≠ .requestInteractivePromotion sourceId ∧
    call.input ≠ .resumeThumbnail sourceId

theorem dueAt_capture (nowUs : UInt64) (state : SourceState) :
    (state.capture nowUs).dueAt.toNat = min (nowUs.toNat + state.profile.intervalUs) (UInt64.size - 1) :=
  saturatingAdd_toNat _ _

theorem notDueBefore_of_call (call : SchedulerCall) (taken : Total step call.before call.input call.reply call.after)
    (held : NotDueBefore sourceId profile timeUs call.before) (undisturbed : Undisturbed sourceId call) :
    NotDueBefore sourceId profile timeUs call.after := by
  obtain ⟨state, stored, sameProfile, thumbnail, later⟩ := held
  obtain ⟨unremoved, unrequested, unresumed⟩ := undisturbed
  rcases poll_or_control call.input with ⟨nowUs, polled⟩ | control
  · obtain ⟨_, same⟩ := actions_of_poll taken polled
    rw [same]
    have outcome := call.before.poll_outcome nowUs sourceId
    generalize left : (call.before.poll nowUs).1.sources[sourceId]? = found at outcome
    cases outcome with
    | promoted other _ _ stored' requested =>
      cases stored.symm.trans stored'
      rw [thumbnail] at requested
      cases requested
    | captured other _ _ stored' _ reached =>
      cases stored.symm.trans stored'
      refine ⟨_, left, sameProfile, thumbnail, ?_⟩
      have ready := UInt64.le_iff_toNat_le.mp reached
      have bound := nowUs.toNat_lt
      have size : UInt64.size = 2 ^ 64 := rfl
      rw [dueAt_capture]
      omega
    | kept => exact ⟨state, left.trans stored, sameProfile, thumbnail, later⟩
  · obtain ⟨state', stored', profile', changed⟩ := control_source taken stored control unremoved unresumed
    rcases changed with ⟨mode, dueAt⟩ | ⟨requested, _⟩
    · refine ⟨state', stored', profile'.trans sameProfile, mode.trans thumbnail, ?_⟩
      rw [SourceState.dueAt, dueAt]
      exact later
    · exact absurd requested unrequested

theorem notDueBefore_of_run {initial final : MonitoringScheduler} {past : List SchedulerCall}
    (run : Run (Total step) initial past final) (held : NotDueBefore sourceId profile timeUs initial)
    (undisturbed : ∀ call ∈ past, Undisturbed sourceId call) : NotDueBefore sourceId profile timeUs final := by
  induction run with
  | start => exact held
  | @next past current input reply after _ taken ih =>
    have before := ih (forall_of_append undisturbed)
    exact notDueBefore_of_call ⟨current, input, reply, after⟩ taken before
      (undisturbed _ List.mem_concat_self)

/-- A capture puts the source off by one frame interval. -/
theorem notDueBefore_of_capture {nowUs : UInt64} (taken : Total step call.before call.input call.reply call.after)
    (unsaturated : unsaturated call) (polled : call.input = .poll nowUs)
    (captured : .captureThumbnail sourceId profile ∈ actions call) :
    NotDueBefore sourceId profile (nowUs.toNat + profile.intervalUs) call.after := by
  have room := interval_fits unsaturated polled captured
  obtain ⟨made, same⟩ := actions_of_poll taken polled
  rw [made, capture_mem_poll] at captured
  obtain ⟨member, _, stored, sameProfile⟩ := captured
  rw [same]
  have outcome := call.before.poll_outcome nowUs sourceId
  generalize left : (call.before.poll nowUs).1.sources[sourceId]? = found at outcome
  cases outcome with
  | promoted other _ unselected => exact absurd member unselected
  | captured other _ _ stored' thumbnail =>
    cases stored.symm.trans stored'
    refine ⟨_, left, sameProfile, thumbnail, ?_⟩
    rw [dueAt_capture, sameProfile]
    omega
  | kept _ unselected => exact absurd member unselected

theorem due_of_capture {nowUs : UInt64} {profile' : MonitoringProfile}
    (taken : Total step call.before call.input call.reply call.after) (polled : call.input = .poll nowUs)
    (held : NotDueBefore sourceId profile timeUs call.before)
    (captured : .captureThumbnail sourceId profile' ∈ actions call) : timeUs ≤ nowUs.toNat := by
  obtain ⟨_, stored, _, _, later⟩ := held
  rw [(actions_of_poll taken polled).1, capture_mem_poll] at captured
  obtain ⟨_, _, stored', _, reached⟩ := due_of_selectedIds captured.1
  cases stored.symm.trans stored'
  exact later.trans (UInt64.le_iff_toNat_le.mp reached)

end Spacing

section Promotion

variable {sourceId : MonitoringSourceId} {past : List SchedulerCall}

def promoteCount (sourceId : MonitoringSourceId) (past : List SchedulerCall) : Nat :=
  (past.flatMap actions).count (.promoteInteractive sourceId)

/-- What has happened since the request: the source still waits, or was promoted once. -/
structure PromotionTrack (sourceId : MonitoringSourceId) (past : List SchedulerCall)
    (scheduler : MonitoringScheduler) : Prop where
  stage : ∃ state, scheduler.sources[sourceId]? = some state ∧
    (state.mode = .promotionRequested ∧ promoteCount sourceId past = 0 ∨
      state.mode = .promotedInteractive ∧ promoteCount sourceId past = 1)
  uncaptured : ∀ call ∈ past, ¬ captures sourceId call

theorem promoteCount_concat (past : List SchedulerCall) (call : SchedulerCall) :
    promoteCount sourceId (past ++ [call]) =
      promoteCount sourceId past + (actions call).count (.promoteInteractive sourceId) := by
  simp [promoteCount]

theorem count_promote_poll (scheduler : MonitoringScheduler) (nowUs : UInt64) :
    (scheduler.poll nowUs).2.count (.promoteInteractive sourceId) =
      if sourceId ∈ scheduler.promotions then 1 else 0 := by
  have distinct : (scheduler.poll nowUs).2.Nodup := (poll_actions_nodup scheduler nowUs).of_map
  rw [distinct.count]
  simp only [promote_mem_poll]

/-- A call that neither removes the source nor resumes its thumbnails keeps the track. A promotion is made at most once,
for the mode has changed by the time of the next poll. -/
theorem PromotionTrack.call (call : SchedulerCall) (track : PromotionTrack sourceId past call.before)
    (taken : Total step call.before call.input call.reply call.after)
    (unremoved : call.input ≠ .removeSource sourceId) (unresumed : call.input ≠ .resumeThumbnail sourceId) :
    PromotionTrack sourceId (past ++ [call]) call.after := by
  obtain ⟨⟨state, stored, stage⟩, uncaptured⟩ := track
  have unselected (nowUs : UInt64) : sourceId ∉ call.before.selectedIds nowUs := by
    intro member
    obtain ⟨_, _, stored', thumbnail, _⟩ := due_of_selectedIds member
    cases stored.symm.trans stored'
    rcases stage with ⟨mode, _⟩ | ⟨mode, _⟩ <;> cases mode.symm.trans thumbnail
  rcases poll_or_control call.input with ⟨nowUs, polled⟩ | control
  · obtain ⟨made, same⟩ := actions_of_poll taken polled
    constructor
    · rw [promoteCount_concat, made, count_promote_poll, same]
      have outcome := call.before.poll_outcome nowUs sourceId
      generalize (call.before.poll nowUs).1.sources[sourceId]? = found at outcome ⊢
      cases outcome with
      | promoted other member _ stored' requested =>
        cases stored.symm.trans stored'
        rcases stage with ⟨_, none⟩ | ⟨mode, _⟩
        · exact ⟨_, rfl, .inr ⟨rfl, by rw [if_pos member, none]⟩⟩
        · cases mode.symm.trans requested
      | captured other _ member => exact absurd member (unselected nowUs)
      | kept unpromoted =>
        rw [if_neg unpromoted]
        exact ⟨state, stored, stage⟩
    · refine forall_mem_concat uncaptured ?_
      rintro ⟨_, captured⟩
      rw [made, capture_mem_poll] at captured
      exact unselected nowUs captured.1
  · have silent := actions_of_control taken control
    obtain ⟨state', stored', _, changed⟩ := control_source taken stored control unremoved unresumed
    constructor
    · rw [promoteCount_concat, silent]
      rcases changed with ⟨mode, _⟩ | ⟨_, thumbnail⟩
      · refine ⟨state', stored', ?_⟩
        rw [mode]
        exact stage
      · rcases stage with ⟨mode, _⟩ | ⟨mode, _⟩ <;> cases mode.symm.trans thumbnail
    · refine forall_mem_concat uncaptured ?_
      rintro ⟨_, captured⟩
      rw [silent] at captured
      cases captured

theorem promotionTrack_of_run {initial final : MonitoringScheduler} (run : Run (Total step) initial past final)
    (requested : ∃ state, initial.sources[sourceId]? = some state ∧ state.mode = .promotionRequested)
    (undisturbed : ∀ call ∈ past, call.input ≠ .removeSource sourceId ∧ call.input ≠ .resumeThumbnail sourceId) :
    PromotionTrack sourceId past final := by
  induction run with
  | start =>
    obtain ⟨state, stored, mode⟩ := requested
    exact ⟨⟨state, stored, .inl ⟨mode, rfl⟩⟩, by simp⟩
  | @next past current input reply after _ taken ih =>
    have before := ih (forall_of_append undisturbed)
    obtain ⟨unremoved, unresumed⟩ := undisturbed _ List.mem_concat_self
    exact PromotionTrack.call ⟨current, input, reply, after⟩ before taken unremoved unresumed

theorem requested_of_request {call : SchedulerCall} {state : SourceState}
    (taken : Total step call.before call.input call.reply call.after)
    (asked : call.input = .requestInteractivePromotion sourceId)
    (stored : call.before.sources[sourceId]? = some state) (thumbnail : state.mode = .thumbnail) :
    ∃ state', call.after.sources[sourceId]? = some state' ∧ state'.mode = .promotionRequested := by
  have left : (call.before.requestInteractivePromotion sourceId).1 = call.after := by
    rw [asked] at taken
    exact (Prod.ext_iff.mp taken).1
  rw [← left]
  refine ⟨_, alter_getElem? call.before sourceId _ stored, ?_⟩
  rw [if_pos rfl, if_pos thumbnail]

end Promotion

/-- The discipline of the scheduler in every run, whatever the order of control calls and polls. -/
structure ScheduleDiscipline (past : List SchedulerCall) : Prop where
  bounded : ∀ call ∈ past, (actions call).length ≤ call.before.config.maxActionsPerTick
  distinct : ∀ call ∈ past, ((actions call).map (·.sourceId)).Nodup
  spaced : ∀ earlier first middle second later sourceId profile profile' firstUs secondUs,
    past = earlier ++ first :: (middle ++ second :: later) →
    first.input = .poll firstUs → .captureThumbnail sourceId profile ∈ actions first →
    second.input = .poll secondUs → .captureThumbnail sourceId profile' ∈ actions second →
    (∀ call ∈ middle, Undisturbed sourceId call) →
    firstUs.toNat + 1000000 / profile.fps.toNat ≤ secondUs.toNat
  promotedOnce : ∀ earlier request middle later sourceId state, past = earlier ++ request :: (middle ++ later) →
    request.input = .requestInteractivePromotion sourceId → request.before.sources[sourceId]? = some state →
    state.mode = .thumbnail →
    (∀ call ∈ middle, call.input ≠ .removeSource sourceId ∧ call.input ≠ .resumeThumbnail sourceId) →
    promoteCount sourceId middle ≤ 1 ∧ ∀ call ∈ middle, ¬ captures sourceId call
  promotionsFirst : ∀ call ∈ past, ∃ promoted captured, actions call = promoted ++ captured ∧
    (∀ action ∈ promoted, ∃ sourceId, action = .promoteInteractive sourceId) ∧
    (∀ action ∈ captured, ∃ sourceId profile, action = .captureThumbnail sourceId profile) ∧
    (captured ≠ [] → ∀ sourceId state, call.before.sources[sourceId]? = some state →
      state.mode = .promotionRequested → .promoteInteractive sourceId ∈ promoted)

theorem promotionsFirst_of_poll (scheduler : MonitoringScheduler) (nowUs : UInt64) :
    ∃ promoted captured, (scheduler.poll nowUs).2 = promoted ++ captured ∧
      (∀ action ∈ promoted, ∃ sourceId, action = .promoteInteractive sourceId) ∧
      (∀ action ∈ captured, ∃ sourceId profile, action = .captureThumbnail sourceId profile) ∧
      (captured ≠ [] → ∀ sourceId state, scheduler.sources[sourceId]? = some state →
        state.mode = .promotionRequested → .promoteInteractive sourceId ∈ promoted) := by
  refine ⟨_, _, poll_actions scheduler nowUs, ?_, ?_, ?_⟩
  · intro action member
    obtain ⟨sourceId, _, rfl⟩ := List.mem_map.mp member
    exact ⟨sourceId, rfl⟩
  · intro action member
    obtain ⟨entry, _, made⟩ := List.mem_filterMap.mp member
    obtain ⟨state, _, rfl⟩ := Option.map_eq_some_iff.mp made
    exact ⟨entry.sourceId, state.profile, rfl⟩
  · intro some sourceId state stored requested
    obtain ⟨_, member⟩ := List.exists_mem_of_ne_nil _ some
    obtain ⟨_, chosen, _⟩ := List.mem_filterMap.mp member
    exact List.mem_map_of_mem (promotions_of_capture (List.mem_map_of_mem chosen) stored requested)

/-- The scheduler keeps its discipline in every run, from any state and under any mix of control calls and polls, as
long as no due time saturates. -/
theorem scheduler_keeps_discipline {initial final : MonitoringScheduler} {past : List SchedulerCall}
    (run : Run (Total MonitoringScheduler.step) initial past final) (unsaturated : past.all unsaturated) :
    ScheduleDiscipline past := by
  constructor
  · intro call member
    obtain ⟨_, _, _, _, taken, _⟩ := run.of_mem member
    rcases poll_or_control call.input with ⟨_, polled⟩ | control
    · rw [(actions_of_poll taken polled).1]
      exact poll_actions_length _ _
    · rw [actions_of_control taken control]
      exact Nat.zero_le _
  · intro call member
    obtain ⟨_, _, _, _, taken, _⟩ := run.of_mem member
    rcases poll_or_control call.input with ⟨_, polled⟩ | control
    · rw [(actions_of_poll taken polled).1]
      exact poll_actions_nodup _ _
    · rw [actions_of_control taken control]
      exact List.nodup_nil
  · rintro earlier first middle second later sourceId profile profile' firstUs secondUs rfl polled captured polled'
      captured' undisturbed
    obtain ⟨_, firstTaken, rest⟩ := run.split rfl
    obtain ⟨between, secondTaken, _⟩ := rest.split rfl
    have off := notDueBefore_of_capture firstTaken (List.all_eq_true.mp unsaturated first (by simp)) polled captured
    exact due_of_capture secondTaken polled' (notDueBefore_of_run between off undisturbed) captured'
  · rintro earlier request middle later sourceId state rfl asked stored thumbnail undisturbed
    obtain ⟨_, taken, rest⟩ := run.split rfl
    obtain ⟨_, between, _⟩ := rest.parts
    have track := promotionTrack_of_run between (requested_of_request taken asked stored thumbnail) undisturbed
    refine ⟨?_, track.uncaptured⟩
    obtain ⟨_, _, ⟨_, _⟩ | ⟨_, _⟩⟩ := track.stage
    · omega
    · omega
  · intro call member
    obtain ⟨_, _, _, _, taken, _⟩ := run.of_mem member
    rcases poll_or_control call.input with ⟨_, polled⟩ | control
    · rw [(actions_of_poll taken polled).1]
      exact promotionsFirst_of_poll _ _
    · rw [actions_of_control taken control]
      exact ⟨[], [], rfl, by simp, by simp, fun some => absurd rfl some⟩

def twoPerSecond : MonitoringProfile := ⟨320, 180, 2, by decide⟩

/-- A source is captured twice at two frames a second, promoted, and captured again once it is resumed. -/
theorem scheduler_keeps_discipline_two_captures :
    ScheduleDiscipline (calls MonitoringScheduler.step ⟨⟨64, 1⟩, ∅, 0⟩
      [.addSource 1 twoPerSecond .visible, .poll 0, .poll 100, .poll 500000, .requestInteractivePromotion 1,
        .poll 600000, .resumeThumbnail 1, .poll 600001]) ∧
    (calls MonitoringScheduler.step ⟨⟨64, 1⟩, ∅, 0⟩
      [.addSource 1 twoPerSecond .visible, .poll 0, .poll 100, .poll 500000, .requestInteractivePromotion 1,
        .poll 600000, .resumeThumbnail 1, .poll 600001]).map actions =
      [[], [.captureThumbnail 1 twoPerSecond], [], [.captureThumbnail 1 twoPerSecond], [], [.promoteInteractive 1], [],
        [.captureThumbnail 1 twoPerSecond]] :=
  ⟨scheduler_keeps_discipline (Run.of_calls _ _ _) (by decide +kernel), by decide +kernel⟩

end ClassMesh
