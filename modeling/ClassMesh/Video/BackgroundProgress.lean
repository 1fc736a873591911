import ClassMesh.Video.SchedulerDiscipline

namespace ClassMesh

open Std Foundation MonitoringScheduler

namespace MonitoringScheduler

/-- The background sources of a scheduler. -/
def backgroundSources (scheduler : MonitoringScheduler) : Finset MonitoringSourceId :=
  scheduler.sources.keys.toFinset.filter fun sourceId =>
    ∃ state ∈ scheduler.sources[sourceId]?, state.priority = .background

/-- The background sources that go before a given source, because they are due earlier. -/
def ahead (scheduler : MonitoringScheduler) (sourceId : MonitoringSourceId) (dueAt : UInt64) :
    Finset MonitoringSourceId :=
  scheduler.sources.keys.toFinset.filter fun other =>
    ∃ state ∈ scheduler.sources[other]?, state.priority = .background ∧ state.mode = .thumbnail ∧
      (state.dueAt < dueAt ∨ state.dueAt = dueAt ∧ other < sourceId)

/-- Polls that may still pass before a source, while it is due. -/
def distance (scheduler : MonitoringScheduler) (sourceId : MonitoringSourceId) (dueAt : UInt64) : Nat :=
  4 * (scheduler.ahead sourceId dueAt).card + (maxBackgroundSkippedPolls - scheduler.backgroundSkippedPolls)

variable {scheduler : MonitoringScheduler} {sourceId other : MonitoringSourceId} {state : SourceState}
  {nowUs dueAt : UInt64} {first : DueEntry} {due : List DueEntry}

theorem mem_backgroundSources : other ∈ scheduler.backgroundSources ↔
    ∃ state, scheduler.sources[other]? = some state ∧ state.priority = .background := by
  simp only [backgroundSources, Finset.mem_filter, List.mem_toFinset, ExtTreeMap.mem_keys, Option.mem_def]
  constructor
  · exact fun found => found.2
  · rintro ⟨state, stored, background⟩
    exact ⟨BTreeMap.mem_of_getElem? stored, state, stored, background⟩

theorem mem_ahead : other ∈ scheduler.ahead sourceId dueAt ↔
    ∃ state, scheduler.sources[other]? = some state ∧ state.priority = .background ∧ state.mode = .thumbnail ∧
      (state.dueAt < dueAt ∨ state.dueAt = dueAt ∧ other < sourceId) := by
  simp only [ahead, Finset.mem_filter, List.mem_toFinset, ExtTreeMap.mem_keys, Option.mem_def]
  constructor
  · exact fun found => found.2
  · rintro ⟨state, stored, rest⟩
    exact ⟨BTreeMap.mem_of_getElem? stored, state, stored, rest⟩

theorem ahead_ssubset_backgroundSources (stored : scheduler.sources[sourceId]? = some state)
    (background : state.priority = .background) :
    scheduler.ahead sourceId state.dueAt ⊂ scheduler.backgroundSources := by
  refine Finset.ssubset_iff_subset_ne.mpr ⟨?_, ?_⟩
  · intro other member
    obtain ⟨found, stored', background', _⟩ := mem_ahead.mp member
    exact mem_backgroundSources.mpr ⟨found, stored', background'⟩
  · intro same
    have member : sourceId ∈ scheduler.ahead sourceId state.dueAt := by
      rw [same]
      exact mem_backgroundSources.mpr ⟨state, stored, background⟩
    obtain ⟨_, stored', _, _, order⟩ := mem_ahead.mp member
    cases stored.symm.trans stored'
    rcases order with earlier | ⟨_, earlier⟩
    · exact UInt64.lt_irrefl _ earlier
    · exact UInt64.lt_irrefl _ earlier

/-- The source is one that the scheduler may capture in the background now. -/
def BackgroundDue (scheduler : MonitoringScheduler) (sourceId : MonitoringSourceId) (state : SourceState)
    (nowUs : UInt64) : Prop :=
  scheduler.sources[sourceId]? = some state ∧ state.priority = .background ∧ state.mode = .thumbnail ∧
    state.dueAt ≤ nowUs

theorem BackgroundDue.mem_due (ready : BackgroundDue scheduler sourceId state nowUs) :
    ⟨1, state.dueAt, sourceId⟩ ∈ scheduler.due nowUs := by
  obtain ⟨stored, background, thumbnail, reached⟩ := ready
  have unpromoted : sourceId ∉ scheduler.promotions := by
    intro member
    obtain ⟨_, stored', requested⟩ := requested_of_promotions member
    cases stored.symm.trans stored'
    cases thumbnail.symm.trans requested
  refine MonitoringScheduler.mem_due.mpr ⟨state, ?_, thumbnail, reached, ?_, rfl⟩
  · rw [promotedSources_getElem?, if_neg unpromoted]
    exact stored
  · rw [background]
    rfl

/-- The first background entry is selected when any is, and always when the background has waited long enough. -/
theorem first_background_selected {skipped : Nat} (remaining : Nat)
    (found : due.find? DueEntry.isBackground = some first)
    (some : maxBackgroundSkippedPolls ≤ skipped ∨ (select skipped remaining due).any DueEntry.isBackground) :
    first ∈ select skipped remaining due := by
  by_cases waited : maxBackgroundSkippedPolls ≤ skipped
  · simp [select, waited, found]
  · have chosen : (select skipped remaining due).any DueEntry.isBackground := some.resolve_left waited
    have same : select skipped remaining due = due.take remaining := by rw [select, if_neg waited]
    rw [same] at chosen ⊢
    obtain ⟨background, before, _, rfl, none⟩ := List.find?_eq_some_iff_append.mp found
    obtain ⟨entry, member, entryBackground⟩ := List.any_eq_true.mp chosen
    -- An entry as far as the first background one is no background entry, so the cut lies behind it.
    have long : before.length < remaining := by
      by_contra short
      rw [List.take_append_of_le_length (Nat.le_of_not_lt short)] at member
      simpa [entryBackground] using none entry (List.mem_of_mem_take member)
    rw [List.take_append, List.mem_append]
    obtain ⟨_, counted⟩ := Nat.exists_eq_succ_of_ne_zero (Nat.sub_ne_zero_of_lt long)
    rw [counted, List.take_succ_cons]
    exact .inr List.mem_cons_self

theorem first_background_le {entry : DueEntry} (sorted : due.Pairwise DueEntry.le)
    (found : due.find? DueEntry.isBackground = some first) (member : entry ∈ due) (background : entry.isBackground) :
    first = entry ∨ first.le entry := by
  obtain ⟨_, _, _, rfl, none⟩ := List.find?_eq_some_iff_append.mp found
  rcases List.mem_append.mp member with early | late
  · have foreground := none entry early
    rw [background] at foreground
    cases foreground
  · rcases List.mem_cons.mp late with same | later
    · exact .inl same.symm
    · exact .inr (List.rel_of_pairwise_cons (List.pairwise_append.mp sorted).2.1 later)

/-- The first background entry, if it is captured, belongs to a source ahead of one that is passed over. -/
theorem first_background_ahead (ready : BackgroundDue scheduler sourceId state nowUs)
    (found : (scheduler.due nowUs).find? DueEntry.isBackground = some first)
    (captured : first.sourceId ∈ scheduler.selectedIds nowUs) (passed : sourceId ∉ scheduler.selectedIds nowUs) :
    first.sourceId ∈ scheduler.ahead sourceId state.dueAt := by
  have background : first.isBackground = true := List.find?_some found
  have rank : first.rank = 1 := of_decide_eq_true background
  have different : first.sourceId ≠ sourceId := by
    intro same
    exact passed (same ▸ captured)
  obtain ⟨unpromoted, _⟩ := due_of_selectedIds captured
  obtain ⟨own, stored, thumbnail, _, ownRank, ownDue⟩ := mem_due.mp (List.mem_of_find?_eq_some found)
  rw [promotedSources_getElem?, if_neg unpromoted] at stored
  refine mem_ahead.mpr ⟨own, stored, ?_, thumbnail, ?_⟩
  · rw [rank] at ownRank
    cases priority : own.priority with
    | visible =>
      rw [priority] at ownRank
      cases ownRank
    | background => rfl
  · rw [← ownDue]
    rcases first_background_le (scheduler.due_sorted nowUs) found ready.mem_due rfl with same | before
    · rw [same] at different
      exact absurd rfl different
    · rcases before with lower | ⟨_, earlier | ⟨equal, below⟩⟩
      · rw [rank] at lower
        exact absurd lower (Nat.lt_irrefl 1)
      · exact .inl earlier
      · exact .inr ⟨equal, UInt64.lt_of_le_of_ne below different⟩

/-- A source due at a poll is not captured before it again: the sources ahead of it only become fewer. -/
theorem ahead_poll_subset (sourceId : MonitoringSourceId)
    (fits : ∀ other state, other ∈ scheduler.selectedIds nowUs →
      scheduler.sources[other]? = some state → nowUs.toNat + state.profile.intervalUs < UInt64.size)
    (reached : dueAt ≤ nowUs) :
    (scheduler.poll nowUs).1.ahead sourceId dueAt ⊆
      (scheduler.ahead sourceId dueAt).filter (· ∉ scheduler.selectedIds nowUs) := by
  intro other member
  obtain ⟨left, stored, background, thumbnail, order⟩ := mem_ahead.mp member
  have outcome := scheduler.poll_outcome nowUs other
  rw [stored] at outcome
  generalize same : some left = found at outcome
  cases outcome with
  | promoted =>
    cases same
    cases thumbnail
  | captured old _ selected stored' =>
    cases same
    have later := dueAt_capture nowUs old
    have room := fits other old selected stored'
    have positive := old.profile.intervalUs_pos
    have bound := UInt64.le_iff_toNat_le.mp reached
    rcases order with earlier | ⟨equal, _⟩
    · have less := UInt64.lt_iff_toNat_lt.mp earlier
      omega
    · rw [← equal] at bound
      omega
  | kept _ unselected =>
    exact Finset.mem_filter.mpr ⟨mem_ahead.mpr ⟨left, same.symm, background, thumbnail, order⟩, unselected⟩

theorem poll_skipped (capacity : scheduler.remaining ≠ 0) :
    (scheduler.poll nowUs).1.backgroundSkippedPolls =
      skippedAfter scheduler.backgroundSkippedPolls (scheduler.due nowUs) (scheduler.selected nowUs) := by
  rw [poll, selected, if_neg capacity, if_neg capacity]

/-- A poll with room for captures that passes a waiting background source over brings it nearer to its turn. -/
theorem distance_decrease
    (fits : ∀ other state, other ∈ scheduler.selectedIds nowUs →
      scheduler.sources[other]? = some state → nowUs.toNat + state.profile.intervalUs < UInt64.size)
    (ready : BackgroundDue scheduler sourceId state nowUs) (capacity : scheduler.remaining ≠ 0)
    (passed : sourceId ∉ scheduler.selectedIds nowUs) :
    (scheduler.poll nowUs).1.distance sourceId state.dueAt < scheduler.distance sourceId state.dueAt := by
  have inDue := ready.mem_due
  have fewer := ahead_poll_subset sourceId fits ready.2.2.2
  have chosen : scheduler.selected nowUs =
      select scheduler.backgroundSkippedPolls scheduler.remaining (scheduler.due nowUs) := if_neg capacity
  obtain ⟨first, found⟩ : ∃ first, (scheduler.due nowUs).find? DueEntry.isBackground = some first :=
    Option.isSome_iff_exists.mp (List.find?_isSome.mpr ⟨_, inDue, rfl⟩)
  have backgroundDue : (scheduler.due nowUs).any DueEntry.isBackground := List.any_eq_true.mpr ⟨_, inDue, rfl⟩
  unfold distance
  rw [poll_skipped capacity]
  cases some : (scheduler.selected nowUs).any DueEntry.isBackground with
  | true =>
    have taken : first ∈ scheduler.selected nowUs := by
      rw [chosen] at some ⊢
      exact first_background_selected _ found (.inr some)
    have captured : first.sourceId ∈ scheduler.selectedIds nowUs := List.mem_map_of_mem taken
    have goesBefore := first_background_ahead ready found captured passed
    have smaller : ((scheduler.poll nowUs).1.ahead sourceId state.dueAt).card <
        (scheduler.ahead sourceId state.dueAt).card := by
      refine Finset.card_lt_card (Finset.ssubset_iff_subset_ne.mpr ⟨fewer.trans (Finset.filter_subset _ _), ?_⟩)
      intro same
      rw [← same] at goesBefore
      exact (Finset.mem_filter.mp (fewer goesBefore)).2 captured
    have reset : maxBackgroundSkippedPolls - skippedAfter scheduler.backgroundSkippedPolls (scheduler.due nowUs)
        (scheduler.selected nowUs) ≤ 3 := Nat.sub_le _ _
    omega
  | false =>
    have waiting : scheduler.backgroundSkippedPolls < maxBackgroundSkippedPolls := by
      by_contra waited
      have taken := first_background_selected scheduler.remaining found (.inl (Nat.le_of_not_lt waited))
      rw [← chosen] at taken
      have any : (scheduler.selected nowUs).any DueEntry.isBackground :=
        List.any_eq_true.mpr ⟨first, taken, List.find?_some found⟩
      rw [some] at any
      cases any
    have counted : skippedAfter scheduler.backgroundSkippedPolls (scheduler.due nowUs) (scheduler.selected nowUs) =
        scheduler.backgroundSkippedPolls + 1 := by
      rw [skippedAfter, backgroundDue, some]
      exact Nat.min_eq_left waiting
    have bound := Finset.card_le_card (fewer.trans (Finset.filter_subset _ _))
    rw [counted]
    omega

end MonitoringScheduler

section Stretch

variable {initial final : MonitoringScheduler} {stretch : List SchedulerCall} {sourceId : MonitoringSourceId}
  {call : SchedulerCall} {nowUs : UInt64} {state : SourceState} {scheduler after : MonitoringScheduler}
  {input : SchedulerInput} {reply : SchedulerReply}

/-- The calls that a stretch may hold: no source is added, resumed or given another priority. -/
def stretchInput : SchedulerInput → Bool
  | .addSource .. | .resumeThumbnail _ | .setPriority .. => false
  | .removeSource _ | .requestInteractivePromotion _ | .poll _ => true

def SchedulerCall.isPoll (call : SchedulerCall) : Bool :=
  match call.input with
  | .poll _ => true
  | _ => false

/-- A poll whose budget the promotions do not use up. -/
def SchedulerCall.hasCapacity (call : SchedulerCall) : Bool := isPoll call && call.before.remaining != 0

def capacityPolls (stretch : List SchedulerCall) : Nat := stretch.countP SchedulerCall.hasCapacity

/-- At a poll, the source is a background thumbnail source that is due. -/
def SchedulerCall.waits (sourceId : MonitoringSourceId) (call : SchedulerCall) : Bool :=
  match call.input, call.before.sources[sourceId]? with
  | .poll nowUs, some state => state.priority = .background ∧ state.mode = .thumbnail ∧ state.dueAt ≤ nowUs
  | .poll _, none => false
  | _, _ => true

theorem backgroundDue_of_waits (waits : SchedulerCall.waits sourceId call) (polled : call.input = .poll nowUs) :
    ∃ state, BackgroundDue call.before sourceId state nowUs := by
  rw [SchedulerCall.waits, polled] at waits
  cases stored : call.before.sources[sourceId]? with
  | none =>
    rw [stored] at waits
    cases waits
  | some state =>
    rw [stored] at waits
    exact ⟨state, stored, of_decide_eq_true waits⟩

open SchedulerCall

theorem fits_of_unsaturated (taken : Total step call.before call.input call.reply call.after)
    (polled : call.input = .poll nowUs) (unsaturated : unsaturated call) (other : MonitoringSourceId)
    (state : SourceState) (selected : other ∈ call.before.selectedIds nowUs)
    (stored : call.before.sources[other]? = some state) : nowUs.toNat + state.profile.intervalUs < UInt64.size := by
  have captured : .captureThumbnail other state.profile ∈ actions call := by
    rw [(actions_of_poll taken polled).1]
    exact capture_mem_poll.mpr ⟨selected, state, stored, rfl⟩
  exact interval_fits unsaturated polled captured

/-- A control call of a stretch leaves every source that is still a thumbnail source as it was. -/
theorem control_thumbnail {other : MonitoringSourceId} (taken : Total step scheduler input reply after)
    (allowed : stretchInput input) (control : ∀ nowUs, input ≠ .poll nowUs)
    (stored : after.sources[other]? = some state) (thumbnail : state.mode = .thumbnail) :
    scheduler.sources[other]? = some state := by
  cases input with
  | addSource | resumeThumbnail | setPriority => cases allowed
  | poll nowUs => exact absurd rfl (control nowUs)
  | removeSource =>
    obtain ⟨rfl, _⟩ := Prod.ext_iff.mp taken
    exact (BTreeMap.getElem?_erase_cases stored).2
  | requestInteractivePromotion asked =>
    obtain ⟨rfl, _⟩ := Prod.ext_iff.mp taken
    simp only [step, requestInteractivePromotion, alter] at stored
    cases found : scheduler.sources[asked]? with
    | none => simpa only [found] using stored
    | some =>
      simp only [found] at stored
      rcases BTreeMap.getElem?_insert_cases stored with ⟨rfl, rfl⟩ | ⟨_, unchanged⟩
      · split at thumbnail
        · cases thumbnail
        · rw [found, if_neg (by assumption)]
      · exact unchanged

theorem control_skipped (taken : Total step scheduler input reply after) (allowed : stretchInput input)
    (control : ∀ nowUs, input ≠ .poll nowUs) : after.backgroundSkippedPolls = scheduler.backgroundSkippedPolls := by
  cases input with
  | addSource | resumeThumbnail | setPriority => cases allowed
  | poll nowUs => exact absurd rfl (control nowUs)
  | removeSource =>
    obtain ⟨rfl, _⟩ := Prod.ext_iff.mp taken
    rfl
  | requestInteractivePromotion =>
    obtain ⟨rfl, _⟩ := Prod.ext_iff.mp taken
    simp only [step, requestInteractivePromotion, alter]
    split
    · rfl
    · rfl

theorem hasCapacity_of_control (control : ∀ nowUs, call.input ≠ .poll nowUs) : hasCapacity call = false := by
  have other : isPoll call = false := by
    unfold isPoll
    split
    · rename_i nowUs polled
      exact absurd polled (control nowUs)
    · rfl
  rw [hasCapacity, other, Bool.false_and]

theorem hasCapacity_of_poll (polled : call.input = .poll nowUs) : hasCapacity call = (call.before.remaining != 0) := by
  rw [hasCapacity, isPoll, polled, Bool.true_and]

/-- A poll that passes a due source over leaves it as it was. -/
theorem poll_passes (taken : Total step call.before call.input call.reply call.after)
    (polled : call.input = .poll nowUs) (ready : BackgroundDue call.before sourceId state nowUs)
    (passed : ¬ captures sourceId call) :
    sourceId ∉ call.before.selectedIds nowUs ∧ call.after.sources[sourceId]? = some state := by
  obtain ⟨stored, _, thumbnail, _⟩ := ready
  obtain ⟨made, same⟩ := actions_of_poll taken polled
  have unselected : sourceId ∉ call.before.selectedIds nowUs := by
    intro member
    refine passed ⟨state.profile, ?_⟩
    rw [made]
    exact capture_mem_poll.mpr ⟨member, state, stored, rfl⟩
  refine ⟨unselected, ?_⟩
  rw [same]
  have outcome := call.before.poll_outcome nowUs sourceId
  generalize (call.before.poll nowUs).1.sources[sourceId]? = seen at outcome ⊢
  cases outcome with
  | promoted old _ _ stored' requested =>
    cases stored.symm.trans stored'
    cases thumbnail.symm.trans requested
  | captured _ _ member => exact absurd member unselected
  | kept => exact stored

/-- One call of a stretch: a source that is passed over keeps its state and comes nearer at each poll with room. -/
theorem call_passes (call : SchedulerCall) (taken : Total step call.before call.input call.reply call.after)
    (allowed : stretchInput call.input) (unsaturated : unsaturated call) (waits : waits sourceId call)
    (passed : ¬ captures sourceId call) (stored : call.after.sources[sourceId]? = some state)
    (thumbnail : state.mode = .thumbnail) :
    call.before.sources[sourceId]? = some state ∧
      call.after.distance sourceId state.dueAt + (if hasCapacity call then 1 else 0) ≤
        call.before.distance sourceId state.dueAt := by
  rcases poll_or_control call.input with ⟨nowUs, polled⟩ | control
  · obtain ⟨_, ready⟩ := backgroundDue_of_waits waits polled
    obtain ⟨_, same⟩ := actions_of_poll taken polled
    obtain ⟨unselected, kept⟩ := poll_passes taken polled ready passed
    have fits := fits_of_unsaturated taken polled unsaturated
    cases kept.symm.trans stored
    refine ⟨ready.1, ?_⟩
    rw [hasCapacity_of_poll polled, same]
    by_cases capacity : call.before.remaining = 0
    · have fewer := Finset.card_le_card ((ahead_poll_subset sourceId fits ready.2.2.2).trans
        (Finset.filter_subset _ _))
      have counter : (call.before.poll nowUs).1.backgroundSkippedPolls = call.before.backgroundSkippedPolls := by
        rw [poll, if_pos capacity]
      have none : ¬ (call.before.remaining != 0) = true := by simp [capacity]
      unfold distance
      rw [counter, if_neg none]
      omega
    · have nearer := distance_decrease fits ready capacity unselected
      rw [if_pos (bne_iff_ne.mpr capacity)]
      omega
  · refine ⟨control_thumbnail taken allowed control stored thumbnail, ?_⟩
    have fewer : call.after.ahead sourceId state.dueAt ⊆ call.before.ahead sourceId state.dueAt := by
      intro other member
      obtain ⟨own, found, background, mode, order⟩ := mem_ahead.mp member
      exact mem_ahead.mpr ⟨own, control_thumbnail taken allowed control found mode, background, mode, order⟩
    have bound := Finset.card_le_card fewer
    unfold distance
    rw [hasCapacity_of_control control, control_skipped taken allowed control, if_neg Bool.false_ne_true]
    omega

/-- Over a stretch that passes a source over, the polls with room are paid for by its distance at the start. -/
theorem stretch_passes (run : Run (Total step) initial stretch final)
    (allowed : stretch.all fun call => stretchInput call.input) (unsaturated : stretch.all unsaturated)
    (due : stretch.all (waits sourceId)) (passed : ∀ call ∈ stretch, ¬ captures sourceId call)
    (stored : final.sources[sourceId]? = some state) (thumbnail : state.mode = .thumbnail) :
    initial.sources[sourceId]? = some state ∧
      final.distance sourceId state.dueAt + capacityPolls stretch ≤ initial.distance sourceId state.dueAt := by
  induction run with
  | start => exact ⟨stored, Nat.le_refl _⟩
  | @next past current input reply after previous taken ih =>
    rw [List.all_append, Bool.and_eq_true] at allowed unsaturated due
    have last := List.mem_append_right past (List.mem_singleton_self
      (⟨current, input, reply, after⟩ : SchedulerCall))
    obtain ⟨unchanged, nearer⟩ := call_passes ⟨current, input, reply, after⟩ taken
      (List.all_eq_true.mp allowed.2 _ List.mem_cons_self) (List.all_eq_true.mp unsaturated.2 _ List.mem_cons_self)
      (List.all_eq_true.mp due.2 _ List.mem_cons_self) (passed _ last) stored thumbnail
    obtain ⟨start, paid⟩ := ih allowed.1 unsaturated.1 due.1 (forall_of_append passed) unchanged
    refine ⟨start, ?_⟩
    have counted : capacityPolls (past ++ [⟨current, input, reply, after⟩]) = capacityPolls past +
        (if hasCapacity ⟨current, input, reply, after⟩ then 1 else 0) := by
      rw [capacityPolls, List.countP_append, List.countP_singleton]
      rfl
    rw [counted]
    simp only at nearer paid ⊢
    omega

theorem distance_lt_of_background (stored : initial.sources[sourceId]? = some state)
    (background : state.priority = .background) :
    initial.distance sourceId state.dueAt < 4 * initial.backgroundSources.card := by
  have fewer := Finset.card_lt_card (ahead_ssubset_backgroundSources stored background)
  have skipped : maxBackgroundSkippedPolls - initial.backgroundSkippedPolls ≤ 3 := Nat.sub_le _ _
  unfold distance
  omega

/-- A stretch that passes a source over has fewer polls with room than four for each background source. -/
theorem capacityPolls_lt (run : Run (Total step) initial stretch final)
    (allowed : stretch.all fun call => stretchInput call.input) (unsaturated : stretch.all unsaturated)
    (present : initial.sources[sourceId]? = some state) (background : state.priority = .background)
    (due : stretch.all (waits sourceId)) (passed : ∀ call ∈ stretch, ¬ captures sourceId call) :
    capacityPolls stretch < 4 * initial.backgroundSources.card := by
  have whole := run
  induction run with
  | start => exact Nat.lt_of_le_of_lt (Nat.zero_le _) (distance_lt_of_background present background)
  | @next past current input reply after previous taken ih =>
    rcases poll_or_control input with ⟨nowUs, rfl⟩ | control
    · -- The last call is a poll, where the source is still a thumbnail source: the distance is left over.
      have last := List.mem_append_right past (List.mem_singleton_self
        (⟨current, .poll nowUs, reply, after⟩ : SchedulerCall))
      obtain ⟨_, ready⟩ := backgroundDue_of_waits (List.all_eq_true.mp due _ last) rfl
      obtain ⟨_, kept⟩ := poll_passes taken rfl ready (passed _ last)
      obtain ⟨start, _⟩ := stretch_passes whole allowed unsaturated due passed kept ready.2.2.1
      have bound := distance_lt_of_background start ready.2.1
      omega
    · rw [List.all_append, Bool.and_eq_true] at allowed unsaturated due
      have before := ih allowed.1 unsaturated.1 due.1 (forall_of_append passed) previous
      have none : hasCapacity ⟨current, input, reply, after⟩ = false := hasCapacity_of_control control
      rw [capacityPolls, List.countP_append, List.countP_singleton, none]
      exact before

end Stretch

/-- A background source that stays due is captured by the time the stretch has had four polls with room for each
background source that was there at its start. -/
theorem background_never_starves {initial final : MonitoringScheduler} {stretch : List SchedulerCall}
    {sourceId : MonitoringSourceId} {state : SourceState}
    (run : Run (Total MonitoringScheduler.step) initial stretch final)
    (allowed : stretch.all fun call => stretchInput call.input) (unsaturated : stretch.all SchedulerCall.unsaturated)
    (present : initial.sources[sourceId]? = some state) (background : state.priority = .background)
    (due : stretch.all (SchedulerCall.waits sourceId))
    (enough : 4 * initial.backgroundSources.card ≤ capacityPolls stretch) :
    ∃ call ∈ stretch, SchedulerCall.captures sourceId call := by
  by_contra none
  push Not at none
  have fewer := capacityPolls_lt run allowed unsaturated present background due none
  omega

/-- One visible source that is always due, and one background source. -/
def busyScheduler : MonitoringScheduler :=
  runOn MonitoringScheduler.step ⟨⟨64, 1⟩, ∅, 0⟩
    [.addSource 1 twoPerSecond .visible, .addSource 2 twoPerSecond .background]

/-- A visible source is due at every poll, and the background source has its turn all the same. -/
theorem background_never_starves_one_visible :
    ∃ call ∈ calls MonitoringScheduler.step busyScheduler [.poll 0, .poll 500000, .poll 1000000, .poll 1500000],
      SchedulerCall.captures 2 call :=
  background_never_starves (Run.of_calls _ _ _) (by decide +kernel) (by decide +kernel)
    (show busyScheduler.sources[2]? = some ⟨twoPerSecond, .background, .thumbnail, none⟩ by decide +kernel) rfl
    (by decide +kernel) (by decide +kernel)

end ClassMesh
