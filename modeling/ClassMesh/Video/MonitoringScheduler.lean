import ClassMesh.Video.MonitoringFanIn

namespace ClassMesh

open Std Foundation

/-- A profile can only be made with a frame rate in this range. -/
structure MonitoringProfile where
  width : UInt16
  height : UInt16
  fps : UInt8
  fpsRange : 2 ≤ fps ∧ fps ≤ 5
deriving DecidableEq

namespace MonitoringProfile

def intervalUs (profile : MonitoringProfile) : Nat := 1000000 / profile.fps.toNat

theorem intervalUs_pos (profile : MonitoringProfile) : 0 < profile.intervalUs := by
  obtain ⟨low, high⟩ := profile.fpsRange
  have lower := UInt8.le_iff_toNat_le.mp low
  have upper := UInt8.le_iff_toNat_le.mp high
  have five : (5 : UInt8).toNat = 5 := rfl
  have two : (2 : UInt8).toNat = 2 := rfl
  exact Nat.div_pos (by omega) (by omega)

end MonitoringProfile

inductive MonitoringPriority
  | visible
  | background
deriving DecidableEq

structure MonitoringSchedulerConfig where
  maxSources : Nat := 64
  maxActionsPerTick : Nat := 4
deriving DecidableEq

inductive MonitoringSchedulerError
  | invalidMaxSources
  | invalidWorkBudget
  | duplicateSource
  | sourceLimitReached
  | unknownSource
deriving DecidableEq

inductive MonitoringScheduleAction
  | captureThumbnail (sourceId : MonitoringSourceId) (profile : MonitoringProfile)
  | promoteInteractive (sourceId : MonitoringSourceId)
deriving DecidableEq

def MonitoringScheduleAction.sourceId : MonitoringScheduleAction → MonitoringSourceId
  | .captureThumbnail sourceId _ => sourceId
  | .promoteInteractive sourceId => sourceId

inductive SourceMode
  | thumbnail
  | promotionRequested
  | promotedInteractive
deriving DecidableEq

structure SourceState where
  profile : MonitoringProfile
  priority : MonitoringPriority
  mode : SourceMode
  nextDueUs : Option UInt64
deriving DecidableEq

namespace SourceState

def dueAt (state : SourceState) : UInt64 := state.nextDueUs.getD 0

def promote (state : SourceState) : SourceState := { state with mode := .promotedInteractive, nextDueUs := none }

def capture (nowUs : UInt64) (state : SourceState) : SourceState :=
  { state with nextDueUs := some (saturatingAdd nowUs state.profile.intervalUs) }

end SourceState

/-- What is due, as the scheduler sorts it: visible sources first, then the oldest, then by id. -/
structure DueEntry where
  rank : Nat
  dueAt : UInt64
  sourceId : MonitoringSourceId
deriving DecidableEq

namespace DueEntry

def isBackground (entry : DueEntry) : Bool := entry.rank = 1

def le (left right : DueEntry) : Prop :=
  left.rank < right.rank ∨ left.rank = right.rank ∧
    (left.dueAt < right.dueAt ∨ left.dueAt = right.dueAt ∧ left.sourceId ≤ right.sourceId)

instance : DecidableRel DueEntry.le := fun left right => by unfold DueEntry.le; infer_instance

theorem le_iff {left right : DueEntry} : left.le right ↔ left.rank < right.rank ∨ left.rank = right.rank ∧
    (left.dueAt.toNat < right.dueAt.toNat ∨ left.dueAt.toNat = right.dueAt.toNat ∧
      left.sourceId.toNat ≤ right.sourceId.toNat) := by
  rw [le, UInt64.lt_iff_toNat_lt, UInt64.le_iff_toNat_le, UInt64.toNat_inj]

instance : Std.Total DueEntry.le where
  total left right := by
    simp only [le_iff]
    omega

instance : IsTrans DueEntry DueEntry.le where
  trans left middle right := by
    simp only [le_iff]
    omega

end DueEntry

def maxBackgroundSkippedPolls : Nat := 3

abbrev MonitoringSources := BTreeMap MonitoringSourceId SourceState

structure MonitoringScheduler where
  config : MonitoringSchedulerConfig
  sources : MonitoringSources := ∅
  backgroundSkippedPolls : Nat := 0

namespace MonitoringSources

def update (f : SourceState → SourceState) (sources : MonitoringSources) (sourceId : MonitoringSourceId) :
    MonitoringSources :=
  match sources[sourceId]? with
  | none => sources
  | some state => sources.insert sourceId (f state)

def updateAll (f : SourceState → SourceState) (sources : MonitoringSources) (ids : List MonitoringSourceId) :
    MonitoringSources :=
  ids.foldl (update f) sources

theorem update_getElem? (f : SourceState → SourceState) (sources : MonitoringSources)
    (sourceId other : MonitoringSourceId) :
    (sources.update f sourceId)[other]? = if other = sourceId then sources[other]?.map f else sources[other]? := by
  unfold update
  by_cases same : other = sourceId
  · subst same
    cases stored : sources[other]? with
    | none => simp [stored]
    | some => simp
  · cases stored : sources[sourceId]? with
    | none => simp [same]
    | some =>
      rw [if_neg same]
      exact BTreeMap.getElem?_insert_ne same

theorem updateAll_getElem? (f : SourceState → SourceState) (sources : MonitoringSources)
    {ids : List MonitoringSourceId} (distinct : ids.Nodup) (other : MonitoringSourceId) :
    (sources.updateAll f ids)[other]? = if other ∈ ids then sources[other]?.map f else sources[other]? := by
  induction ids generalizing sources with
  | nil => rfl
  | cons sourceId rest ih =>
    obtain ⟨fresh, distinctRest⟩ := List.nodup_cons.mp distinct
    refine (ih (sources.update f sourceId) distinctRest).trans ?_
    rw [update_getElem?]
    by_cases same : other = sourceId
    · subst same
      simp [fresh]
    · simp [same]

end MonitoringSources

namespace MonitoringScheduler

variable (scheduler : MonitoringScheduler)

def addSource (sourceId : MonitoringSourceId) (profile : MonitoringProfile) (priority : MonitoringPriority) :
    MonitoringScheduler × Except MonitoringSchedulerError Unit :=
  if scheduler.sources.contains sourceId then (scheduler, .error .duplicateSource)
  else if scheduler.config.maxSources ≤ scheduler.sources.size then (scheduler, .error .sourceLimitReached)
  else
    ({ scheduler with sources := scheduler.sources.insert sourceId ⟨profile, priority, .thumbnail, none⟩ }, .ok ())

def removeSource (sourceId : MonitoringSourceId) : MonitoringScheduler × Bool :=
  ({ scheduler with sources := scheduler.sources.erase sourceId }, scheduler.sources.contains sourceId)

/-- Change one source that is known. -/
def alter (sourceId : MonitoringSourceId) (f : SourceState → SourceState) :
    MonitoringScheduler × Except MonitoringSchedulerError Unit :=
  match scheduler.sources[sourceId]? with
  | none => (scheduler, .error .unknownSource)
  | some state => ({ scheduler with sources := scheduler.sources.insert sourceId (f state) }, .ok ())

def setPriority (sourceId : MonitoringSourceId) (priority : MonitoringPriority) :
    MonitoringScheduler × Except MonitoringSchedulerError Unit :=
  scheduler.alter sourceId fun state => { state with priority := priority }

def requestInteractivePromotion (sourceId : MonitoringSourceId) :
    MonitoringScheduler × Except MonitoringSchedulerError Unit :=
  scheduler.alter sourceId fun state =>
    if state.mode = .thumbnail then { state with mode := .promotionRequested, nextDueUs := none } else state

def resumeThumbnail (sourceId : MonitoringSourceId) : MonitoringScheduler × Except MonitoringSchedulerError Unit :=
  scheduler.alter sourceId fun state => { state with mode := .thumbnail, nextDueUs := none }

/-! A poll, phase by phase. -/

/-- The sources that this poll promotes. -/
def promotions : List MonitoringSourceId :=
  (scheduler.sources.toList.filterMap fun entry =>
    if entry.2.mode = .promotionRequested then some entry.1 else none).take scheduler.config.maxActionsPerTick

def promotedSources : MonitoringSources :=
  scheduler.sources.updateAll SourceState.promote scheduler.promotions

/-- The budget that the promotions leave. -/
def remaining : Nat :=
  scheduler.config.maxActionsPerTick - scheduler.promotions.length

def priorityRank : MonitoringPriority → Nat
  | .visible => 0
  | .background => 1

def dueEntry (nowUs : UInt64) (entry : MonitoringSourceId × SourceState) : Option DueEntry :=
  if entry.2.mode ≠ .thumbnail then none
  else if nowUs < entry.2.dueAt then none
  else some ⟨priorityRank entry.2.priority, entry.2.dueAt, entry.1⟩

def due (nowUs : UInt64) : List DueEntry :=
  (scheduler.promotedSources.toList.filterMap (dueEntry nowUs)).insertionSort DueEntry.le

/-- After enough polls that passed the background over, its first entry is taken before all others. -/
def select (skipped remaining : Nat) (due : List DueEntry) : List DueEntry :=
  if maxBackgroundSkippedPolls ≤ skipped then
    match due.find? DueEntry.isBackground with
    | none => due.take remaining
    | some reserved => reserved :: (due.eraseP DueEntry.isBackground).take (remaining - 1)
  else due.take remaining

def skippedAfter (skipped : Nat) (due selected : List DueEntry) : Nat :=
  if due.any DueEntry.isBackground && !selected.any DueEntry.isBackground then
    min (skipped + 1) maxBackgroundSkippedPolls
  else 0

def captureAction (sources : MonitoringSources) (entry : DueEntry) : Option MonitoringScheduleAction :=
  sources[entry.sourceId]?.map fun state => .captureThumbnail entry.sourceId state.profile

def poll (nowUs : UInt64) : MonitoringScheduler × List MonitoringScheduleAction :=
  let promoted := scheduler.promotions.map MonitoringScheduleAction.promoteInteractive
  if scheduler.remaining = 0 then ({ scheduler with sources := scheduler.promotedSources }, promoted)
  else
    let due := scheduler.due nowUs
    let selected := select scheduler.backgroundSkippedPolls scheduler.remaining due
    ({ scheduler with
        sources := scheduler.promotedSources.updateAll (SourceState.capture nowUs) (selected.map (·.sourceId))
        backgroundSkippedPolls := skippedAfter scheduler.backgroundSkippedPolls due selected },
      promoted ++ selected.filterMap (captureAction scheduler.promotedSources))

end MonitoringScheduler

inductive SchedulerInput
  | addSource (sourceId : MonitoringSourceId) (profile : MonitoringProfile) (priority : MonitoringPriority)
  | removeSource (sourceId : MonitoringSourceId)
  | setPriority (sourceId : MonitoringSourceId) (priority : MonitoringPriority)
  | requestInteractivePromotion (sourceId : MonitoringSourceId)
  | resumeThumbnail (sourceId : MonitoringSourceId)
  | poll (nowUs : UInt64)
deriving DecidableEq

inductive SchedulerReply
  | done (result : Except MonitoringSchedulerError Unit)
  | removed (present : Bool)
  | actions (actions : List MonitoringScheduleAction)

def MonitoringScheduler.step (scheduler : MonitoringScheduler) : SchedulerInput → MonitoringScheduler × SchedulerReply
  | .addSource sourceId profile priority =>
    ((scheduler.addSource sourceId profile priority).1, .done (scheduler.addSource sourceId profile priority).2)
  | .removeSource sourceId => ((scheduler.removeSource sourceId).1, .removed (scheduler.removeSource sourceId).2)
  | .setPriority sourceId priority =>
    ((scheduler.setPriority sourceId priority).1, .done (scheduler.setPriority sourceId priority).2)
  | .requestInteractivePromotion sourceId =>
    ((scheduler.requestInteractivePromotion sourceId).1, .done (scheduler.requestInteractivePromotion sourceId).2)
  | .resumeThumbnail sourceId => ((scheduler.resumeThumbnail sourceId).1, .done (scheduler.resumeThumbnail sourceId).2)
  | .poll nowUs => ((scheduler.poll nowUs).1, .actions (scheduler.poll nowUs).2)

namespace MonitoringScheduler

variable {scheduler : MonitoringScheduler} {nowUs : UInt64} {sourceId : MonitoringSourceId} {state : SourceState}

/-- What a poll captures; nothing, if the promotions use up the budget. -/
def selected (scheduler : MonitoringScheduler) (nowUs : UInt64) : List DueEntry :=
  if scheduler.remaining = 0 then []
  else select scheduler.backgroundSkippedPolls scheduler.remaining (scheduler.due nowUs)

def selectedIds (scheduler : MonitoringScheduler) (nowUs : UInt64) : List MonitoringSourceId :=
  (scheduler.selected nowUs).map (·.sourceId)

theorem poll_sources (scheduler : MonitoringScheduler) (nowUs : UInt64) :
    (scheduler.poll nowUs).1.sources =
      scheduler.promotedSources.updateAll (SourceState.capture nowUs) (scheduler.selectedIds nowUs) := by
  unfold poll selectedIds selected
  split
  · rfl
  · rfl

theorem poll_actions (scheduler : MonitoringScheduler) (nowUs : UInt64) :
    (scheduler.poll nowUs).2 = scheduler.promotions.map .promoteInteractive ++
      (scheduler.selected nowUs).filterMap (captureAction scheduler.promotedSources) := by
  unfold poll selected
  split
  · simp
  · rfl

theorem promotions_nodup (scheduler : MonitoringScheduler) : scheduler.promotions.Nodup :=
  (BTreeMap.nodup_filterMap_key scheduler.sources fun entry => entry.2.mode = .promotionRequested).sublist
    (List.take_sublist _ _)

theorem mem_pending_promotions : sourceId ∈ (scheduler.sources.toList.filterMap fun entry =>
      if entry.2.mode = .promotionRequested then some entry.1 else none) ↔
    ∃ state, scheduler.sources[sourceId]? = some state ∧ state.mode = .promotionRequested :=
  BTreeMap.mem_filterMap_key scheduler.sources fun entry => entry.2.mode = .promotionRequested

theorem requested_of_promotions (member : sourceId ∈ scheduler.promotions) :
    ∃ state, scheduler.sources[sourceId]? = some state ∧ state.mode = .promotionRequested :=
  mem_pending_promotions.mp (List.mem_of_mem_take member)

theorem promotedSources_getElem? (scheduler : MonitoringScheduler) (sourceId : MonitoringSourceId) :
    scheduler.promotedSources[sourceId]? =
      if sourceId ∈ scheduler.promotions then scheduler.sources[sourceId]?.map SourceState.promote
      else scheduler.sources[sourceId]? :=
  MonitoringSources.updateAll_getElem? _ _ scheduler.promotions_nodup _

theorem mem_due {entry : DueEntry} : entry ∈ scheduler.due nowUs ↔
    ∃ state, scheduler.promotedSources[entry.sourceId]? = some state ∧ state.mode = .thumbnail ∧
      state.dueAt ≤ nowUs ∧ entry.rank = priorityRank state.priority ∧ entry.dueAt = state.dueAt := by
  rw [due, (List.perm_insertionSort _ _).mem_iff]
  simp only [List.mem_filterMap, Prod.exists, ExtTreeMap.mem_toList_iff_getElem?_eq_some]
  constructor
  · rintro ⟨_, state, stored, found⟩
    unfold dueEntry at found
    split at found
    · cases found
    · rename_i thumbnail
      split at found
      · cases found
      · rename_i reached
        cases found
        exact ⟨state, stored, not_not.mp thumbnail, UInt64.not_lt.mp reached, rfl, rfl⟩
  · rintro ⟨state, stored, thumbnail, reached, rank, dueAt⟩
    refine ⟨entry.sourceId, state, stored, ?_⟩
    rw [dueEntry, if_neg (not_not.mpr thumbnail), if_neg (UInt64.not_lt.mpr reached), ← rank, ← dueAt]

theorem due_sorted (scheduler : MonitoringScheduler) (nowUs : UInt64) : (scheduler.due nowUs).Pairwise DueEntry.le :=
  List.pairwise_insertionSort _ _

theorem due_nodup (scheduler : MonitoringScheduler) (nowUs : UInt64) :
    ((scheduler.due nowUs).map (·.sourceId)).Nodup := by
  rw [due, ((List.perm_insertionSort _ _).map _).nodup_iff]
  refine (BTreeMap.nodup_map_fst_toList scheduler.promotedSources).sublist ?_
  induction scheduler.promotedSources.toList with
  | nil => exact .slnil
  | cons entry rest ih =>
    cases found : dueEntry nowUs entry with
    | none => simpa [found] using ih.cons entry.1
    | some dueNow =>
      have same : dueNow.sourceId = entry.1 := by
        unfold dueEntry at found
        split at found
        · cases found
        · split at found
          · cases found
          · cases found
            rfl
      simpa [found, same] using ih.cons_cons entry.1

/-- What is selected is a part of what is due. -/
theorem select_subperm (skipped remaining : Nat) (due : List DueEntry) :
    (select skipped remaining due).Subperm due := by
  unfold select
  split
  · cases found : due.find? DueEntry.isBackground with
    | none => exact (List.take_sublist _ _).subperm
    | some reserved =>
      obtain ⟨background, before, after, rfl, none⟩ := List.find?_eq_some_iff_append.mp found
      have erased : (before ++ reserved :: after).eraseP DueEntry.isBackground = before ++ after := by
        rw [List.eraseP_append_right _ (fun entry member => by simpa using none entry member),
          List.eraseP_cons_of_pos background]
      simp only [erased]
      refine List.Subperm.trans ((List.take_sublist _ _).cons_cons reserved).subperm ?_
      exact List.perm_middle.symm.subperm
  · exact (List.take_sublist _ _).subperm

theorem select_length {skipped remaining : Nat} {due : List DueEntry} (positive : 0 < remaining) :
    (select skipped remaining due).length ≤ remaining := by
  have taken (entries : List DueEntry) (count : Nat) : (entries.take count).length ≤ count := by
    rw [List.length_take]
    exact Nat.min_le_left _ _
  unfold select
  split
  · split
    · exact taken _ _
    · have rest := taken (due.eraseP DueEntry.isBackground) (remaining - 1)
      rw [List.length_cons]
      omega
  · exact taken _ _

theorem selected_subperm (scheduler : MonitoringScheduler) (nowUs : UInt64) :
    (scheduler.selected nowUs).Subperm (scheduler.due nowUs) := by
  unfold selected
  split
  · exact List.nil_subperm
  · exact select_subperm _ _ _

theorem selectedIds_nodup (scheduler : MonitoringScheduler) (nowUs : UInt64) : (scheduler.selectedIds nowUs).Nodup := by
  obtain ⟨_, same, inside⟩ := scheduler.selected_subperm nowUs
  rw [selectedIds, ← (same.map _).nodup_iff]
  exact (scheduler.due_nodup nowUs).sublist (inside.map _)

theorem selected_length (scheduler : MonitoringScheduler) (nowUs : UInt64) :
    (scheduler.selected nowUs).length ≤ scheduler.remaining := by
  unfold selected
  split
  · exact Nat.zero_le _
  · rename_i some
    exact select_length (Nat.pos_of_ne_zero some)

/-- A source that is captured was a thumbnail source that is due, and is not promoted. -/
theorem due_of_selectedIds (member : sourceId ∈ scheduler.selectedIds nowUs) :
    sourceId ∉ scheduler.promotions ∧ ∃ state, scheduler.sources[sourceId]? = some state ∧
      state.mode = .thumbnail ∧ state.dueAt ≤ nowUs := by
  obtain ⟨_, chosen, rfl⟩ := List.mem_map.mp member
  obtain ⟨state, stored, thumbnail, reached, _, _⟩ := mem_due.mp ((scheduler.selected_subperm nowUs).subset chosen)
  rw [promotedSources_getElem?] at stored
  split at stored
  · obtain ⟨_, _, rfl⟩ := Option.map_eq_some_iff.mp stored
    cases thumbnail
  · rename_i unpromoted
    exact ⟨unpromoted, state, stored, thumbnail, reached⟩

/-- What a poll does to one source. -/
inductive PollOutcome (scheduler : MonitoringScheduler) (nowUs : UInt64) (sourceId : MonitoringSourceId) :
    Option SourceState → Prop
  | promoted (state : SourceState) : sourceId ∈ scheduler.promotions → sourceId ∉ scheduler.selectedIds nowUs →
      scheduler.sources[sourceId]? = some state → state.mode = .promotionRequested →
      PollOutcome scheduler nowUs sourceId (some state.promote)
  | captured (state : SourceState) : sourceId ∉ scheduler.promotions → sourceId ∈ scheduler.selectedIds nowUs →
      scheduler.sources[sourceId]? = some state → state.mode = .thumbnail → state.dueAt ≤ nowUs →
      PollOutcome scheduler nowUs sourceId (some (state.capture nowUs))
  | kept : sourceId ∉ scheduler.promotions → sourceId ∉ scheduler.selectedIds nowUs →
      PollOutcome scheduler nowUs sourceId scheduler.sources[sourceId]?

theorem poll_outcome (scheduler : MonitoringScheduler) (nowUs : UInt64) (sourceId : MonitoringSourceId) :
    PollOutcome scheduler nowUs sourceId (scheduler.poll nowUs).1.sources[sourceId]? := by
  rw [poll_sources, MonitoringSources.updateAll_getElem? _ _ (scheduler.selectedIds_nodup nowUs),
    promotedSources_getElem?]
  by_cases captured : sourceId ∈ scheduler.selectedIds nowUs
  · obtain ⟨unpromoted, state, stored, thumbnail, reached⟩ := due_of_selectedIds captured
    rw [if_pos captured, if_neg unpromoted, stored, Option.map_some]
    exact .captured state unpromoted captured stored thumbnail reached
  · by_cases promoted : sourceId ∈ scheduler.promotions
    · obtain ⟨state, stored, requested⟩ := requested_of_promotions promoted
      rw [if_neg captured, if_pos promoted, stored, Option.map_some]
      exact .promoted state promoted captured stored requested
    · rw [if_neg captured, if_neg promoted]
      exact .kept promoted captured

theorem promote_mem_poll :
    .promoteInteractive sourceId ∈ (scheduler.poll nowUs).2 ↔ sourceId ∈ scheduler.promotions := by
  rw [poll_actions, List.mem_append, List.mem_map]
  constructor
  · rintro (⟨_, member, same⟩ | capture)
    · cases same
      exact member
    · obtain ⟨_, _, made⟩ := List.mem_filterMap.mp capture
      obtain ⟨_, _, same⟩ := Option.map_eq_some_iff.mp made
      cases same
  · intro member
    exact .inl ⟨sourceId, member, rfl⟩

theorem capture_mem_poll {profile : MonitoringProfile} :
    .captureThumbnail sourceId profile ∈ (scheduler.poll nowUs).2 ↔ sourceId ∈ scheduler.selectedIds nowUs ∧
      ∃ state, scheduler.sources[sourceId]? = some state ∧ state.profile = profile := by
  rw [poll_actions, List.mem_append, List.mem_map]
  constructor
  · rintro (⟨_, _, same⟩ | capture)
    · cases same
    · obtain ⟨entry, chosen, made⟩ := List.mem_filterMap.mp capture
      obtain ⟨state, stored, same⟩ := Option.map_eq_some_iff.mp made
      cases same
      have member : entry.sourceId ∈ scheduler.selectedIds nowUs := List.mem_map_of_mem chosen
      obtain ⟨unpromoted, _⟩ := due_of_selectedIds member
      rw [promotedSources_getElem?, if_neg unpromoted] at stored
      exact ⟨member, state, stored, rfl⟩
  · rintro ⟨member, _, stored, rfl⟩
    obtain ⟨unpromoted, _⟩ := due_of_selectedIds member
    obtain ⟨entry, chosen, rfl⟩ := List.mem_map.mp member
    refine .inr (List.mem_filterMap.mpr ⟨entry, chosen, ?_⟩)
    rw [captureAction, promotedSources_getElem?, if_neg unpromoted, stored, Option.map_some]

end MonitoringScheduler

end ClassMesh
