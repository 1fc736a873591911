import ClassMesh.Video.FrameDistributor

namespace ClassMesh

open Std Foundation ExtTreeMap BTreeMap

abbrev MonitoringSourceId := UInt64

structure MonitoringThumbnailUpdate where
  sourceId : MonitoringSourceId
  frame : SharedEncodedFrame
deriving DecidableEq

structure MonitoringFanInConfig where
  maxSources : Nat := 64
  maxUpdatesPerDrain : Nat := 8
deriving DecidableEq

inductive MonitoringFanInError
  | invalidMaxSources
  | invalidDrainBudget
  | sourceLimitReached
deriving DecidableEq

inductive MonitoringFanInPush
  | inserted
  | replaced
deriving DecidableEq

structure MonitoringFanIn where
  config : MonitoringFanInConfig
  pending : BTreeMap MonitoringSourceId SharedEncodedFrame := ∅
  cursor : Option MonitoringSourceId := none
  acceptedUpdates : UInt64 := 0
  supersededUpdates : UInt64 := 0
  rejectedUpdates : UInt64 := 0

namespace MonitoringFanIn

variable (fanIn : MonitoringFanIn)

def new (config : MonitoringFanInConfig) : Except MonitoringFanInError MonitoringFanIn :=
  if config.maxSources = 0 then .error .invalidMaxSources
  else if config.maxUpdatesPerDrain = 0 then .error .invalidDrainBudget
  else .ok { config := config }

def push (update : MonitoringThumbnailUpdate) : MonitoringFanIn × Except MonitoringFanInError MonitoringFanInPush :=
  if fanIn.pending.contains update.sourceId then
    ({ fanIn with
        pending := fanIn.pending.insert update.sourceId update.frame
        acceptedUpdates := saturatingAdd fanIn.acceptedUpdates 1
        supersededUpdates := saturatingAdd fanIn.supersededUpdates 1 }, .ok .replaced)
  else if fanIn.config.maxSources ≤ fanIn.pending.size then
    ({ fanIn with rejectedUpdates := saturatingAdd fanIn.rejectedUpdates 1 }, .error .sourceLimitReached)
  else
    ({ fanIn with
        pending := fanIn.pending.insert update.sourceId update.frame
        acceptedUpdates := saturatingAdd fanIn.acceptedUpdates 1 }, .ok .inserted)

def discardSource (sourceId : MonitoringSourceId) : MonitoringFanIn × Bool :=
  ({ fanIn with pending := fanIn.pending.erase sourceId }, fanIn.pending.contains sourceId)

/-- The first position after the cursor. -/
def start : Nat :=
  match fanIn.cursor with
  | none => 0
  | some cursor => fanIn.pending.keys.findIdx fun sourceId => !decide (sourceId ≤ cursor)

/-- The pending sources in the order of their turns. -/
def turns : List MonitoringSourceId :=
  fanIn.pending.keys.drop fanIn.start ++ fanIn.pending.keys.take fanIn.start

def selected : List MonitoringSourceId :=
  fanIn.turns.take fanIn.config.maxUpdatesPerDrain

/-- The loop that takes the selected updates out. -/
def drainSelected : List MonitoringSourceId → MonitoringFanIn → MonitoringFanIn × List MonitoringThumbnailUpdate
  | [], fanIn => (fanIn, [])
  | sourceId :: rest, fanIn =>
    match fanIn.pending[sourceId]? with
    | none => drainSelected rest fanIn
    | some frame =>
      let (after, drained) :=
        drainSelected rest { fanIn with pending := fanIn.pending.erase sourceId, cursor := some sourceId }
      (after, ⟨sourceId, frame⟩ :: drained)

def drain : MonitoringFanIn × List MonitoringThumbnailUpdate :=
  if fanIn.pending.isEmpty then (fanIn, []) else drainSelected fanIn.selected fanIn

end MonitoringFanIn

inductive FanInInput
  | push (update : MonitoringThumbnailUpdate)
  | discardSource (sourceId : MonitoringSourceId)
  | drain
deriving DecidableEq

inductive FanInReply
  | pushed (result : Except MonitoringFanInError MonitoringFanInPush)
  | discarded (removed : Bool)
  | drained (updates : List MonitoringThumbnailUpdate)

def MonitoringFanIn.step (fanIn : MonitoringFanIn) : FanInInput → MonitoringFanIn × FanInReply
  | .push update => ((fanIn.push update).1, .pushed (fanIn.push update).2)
  | .discardSource sourceId => ((fanIn.discardSource sourceId).1, .discarded (fanIn.discardSource sourceId).2)
  | .drain => (fanIn.drain.1, .drained fanIn.drain.2)

namespace MonitoringFanIn

variable {fanIn after : MonitoringFanIn} {sourceId : MonitoringSourceId}

/-- What draining a list of pending sources does. -/
structure Drains (fanIn : MonitoringFanIn) (selected : List MonitoringSourceId) (after : MonitoringFanIn)
    (drained : List MonitoringThumbnailUpdate) : Prop where
  sources : drained.map (·.sourceId) = selected
  frames : ∀ update ∈ drained, fanIn.pending[update.sourceId]? = some update.frame
  cursor : after.cursor = selected.getLast?.or fanIn.cursor
  kept : ∀ sourceId, after.pending[sourceId]? = if sourceId ∈ selected then none else fanIn.pending[sourceId]?
  count : after.pending.size + drained.length = fanIn.pending.size
  accepted : after.acceptedUpdates = fanIn.acceptedUpdates
  superseded : after.supersededUpdates = fanIn.supersededUpdates
  config : after.config = fanIn.config

/-- Draining pending sources one after the other takes each of them once and leaves the others. The induction is on the
selection; being distinct, no source is looked for after it was taken. -/
theorem drainSelected_drains (selected : List MonitoringSourceId) (fanIn : MonitoringFanIn)
    (distinct : selected.Nodup) (pending : ∀ sourceId ∈ selected, sourceId ∈ fanIn.pending) :
    Drains fanIn selected (drainSelected selected fanIn).1 (drainSelected selected fanIn).2 := by
  induction selected generalizing fanIn with
  | nil => exact ⟨rfl, by simp [drainSelected], rfl, by simp [drainSelected], rfl, rfl, rfl, rfl⟩
  | cons sourceId rest ih =>
    obtain ⟨fresh, distinctRest⟩ := List.nodup_cons.mp distinct
    have here := pending sourceId List.mem_cons_self
    obtain ⟨_, stored⟩ := Option.isSome_iff_exists.mp (isSome_getElem?_iff_mem.mpr here)
    have apart {other : MonitoringSourceId} (member : other ∈ rest) : other ≠ sourceId :=
      fun same => fresh (same ▸ member)
    have drains := ih { fanIn with pending := fanIn.pending.erase sourceId, cursor := some sourceId } distinctRest
      fun other member => mem_erase.mpr
        ⟨by simpa [Std.compare_eq_iff_eq] using (apart member).symm, pending other (List.mem_cons_of_mem _ member)⟩
    simp only [drainSelected, stored]
    refine ⟨?_, ?_, ?_, ?_, ?_, drains.accepted, drains.superseded, drains.config⟩
    · rw [List.map_cons, drains.sources]
    · intro update member
      rcases List.mem_cons.mp member with rfl | later
      · exact stored
      · have listed : update.sourceId ∈ rest := drains.sources ▸ List.mem_map_of_mem later
        exact (getElem?_erase_ne (apart listed)).symm.trans (drains.frames update later)
    · rw [drains.cursor]
      cases rest with
      | nil => rfl
      | cons next others =>
        rw [List.getLast?_cons_cons]
        cases last : (next :: others).getLast? with
        | none => simp at last
        | some => rfl
    · intro other
      rw [drains.kept other]
      by_cases same : other = sourceId
      · simp [same]
      · simp only [List.mem_cons, same, false_or]
        rw [getElem?_erase_ne same]
    · have smaller := size_erase_of_getElem? stored
      have counted := drains.count
      change _ = (fanIn.pending.erase sourceId).size at counted
      have some := size_pos_of_mem here
      rw [List.length_cons, ← Nat.add_assoc, counted, smaller]
      omega

theorem mem_turns : sourceId ∈ fanIn.turns ↔ sourceId ∈ fanIn.pending := by
  rw [turns, List.mem_append, or_comm, ← List.mem_append, List.take_append_drop, mem_keys]

theorem turns_nodup (fanIn : MonitoringFanIn) : fanIn.turns.Nodup := by
  have whole : (fanIn.pending.keys.take fanIn.start ++ fanIn.pending.keys.drop fanIn.start).Nodup := by
    rw [List.take_append_drop]
    exact nodup_keys
  exact List.nodup_append_comm.mp whole

theorem drain_drains (fanIn : MonitoringFanIn) : Drains fanIn fanIn.selected fanIn.drain.1 fanIn.drain.2 := by
  unfold drain
  split
  · rename_i empty
    have none : fanIn.selected = [] := by
      refine List.eq_nil_iff_forall_not_mem.mpr fun sourceId member => ?_
      have pending := mem_turns.mp (List.mem_of_mem_take member)
      rw [isEmpty_iff.mp empty] at pending
      simp at pending
    rw [none]
    exact ⟨rfl, by simp, rfl, by simp, rfl, rfl, rfl, rfl⟩
  · exact drainSelected_drains _ fanIn ((List.take_sublist _ _).nodup fanIn.turns_nodup)
      fun sourceId member => mem_turns.mp (List.mem_of_mem_take member)

/-! Turns are taken round the ring of source ids, from the one after the cursor on. -/

/-- The place of a source in the round that starts after the cursor. -/
def place (cursor : Option MonitoringSourceId) (sourceId : MonitoringSourceId) : Nat :=
  match cursor with
  | none => sourceId.toNat
  | some cursor => if cursor < sourceId then sourceId.toNat else sourceId.toNat + 2 ^ 64

/-- From the place where a round stopped, what is up to a later source was up to it before, and had not been passed. -/
theorem place_advance {cursor : Option MonitoringSourceId} {last source other : MonitoringSourceId}
    (passed : place cursor last < place cursor source) (ahead : place (some last) other ≤ place (some last) source) :
    place cursor last < place cursor other ∧ place cursor other ≤ place cursor source := by
  have otherBound := other.toNat_lt
  have sourceBound := source.toNat_lt
  have lastBound := last.toNat_lt
  cases cursor with
  | none =>
    simp only [place, UInt64.lt_iff_toNat_lt] at *
    split_ifs at ahead <;> omega
  | some =>
    simp only [place, UInt64.lt_iff_toNat_lt] at *
    split_ifs at * <;> omega

theorem keys_pairwise (fanIn : MonitoringFanIn) : fanIn.pending.keys.Pairwise (· < ·) :=
  ordered_keys.imp fun ordered => Std.compare_eq_lt.mp ordered

theorem dropWhile_above {keys : List MonitoringSourceId} (sorted : keys.Pairwise (· < ·))
    (cursor : MonitoringSourceId) : ∀ key ∈ keys.dropWhile (fun key => decide (key ≤ cursor)), cursor < key := by
  induction keys with
  | nil => simp
  | cons first rest ih =>
    obtain ⟨below, sortedRest⟩ := List.pairwise_cons.mp sorted
    rw [List.dropWhile_cons]
    split
    · exact ih sortedRest
    · rename_i above
      have firstAbove : cursor < first := by simpa using above
      intro key member
      rcases List.mem_cons.mp member with rfl | later
      · exact firstAbove
      · exact UInt64.lt_trans firstAbove (below key later)

/-- The turns are in the order of their places. -/
theorem turns_ordered (fanIn : MonitoringFanIn) :
    fanIn.turns.Pairwise fun left right => place fanIn.cursor left < place fanIn.cursor right := by
  have sorted := fanIn.keys_pairwise
  unfold turns start
  cases fanIn.cursor with
  | none =>
    simp only [List.drop_zero, List.take_zero, List.append_nil]
    exact sorted.imp fun ordered => UInt64.lt_iff_toNat_lt.mp ordered
  | some cursor =>
    simp only
    rw [← List.dropWhile_eq_drop_findIdx_not, ← List.takeWhile_eq_take_findIdx_not]
    have above := dropWhile_above sorted cursor
    have upTo : ∀ key ∈ fanIn.pending.keys.takeWhile (fun key => decide (key ≤ cursor)), ¬cursor < key := by
      intro key member
      have below := List.mem_takeWhile_imp member
      simpa using below
    refine List.pairwise_append.mpr ⟨?_, ?_, ?_⟩
    · refine (sorted.sublist (List.dropWhile_sublist _)).imp_of_mem fun {left right} inLeft inRight ordered => ?_
      simpa only [place, if_pos (above left inLeft), if_pos (above right inRight)] using
        UInt64.lt_iff_toNat_lt.mp ordered
    · refine (sorted.sublist (List.takeWhile_sublist _)).imp_of_mem fun {left right} inLeft inRight ordered => ?_
      simp only [place, if_neg (upTo left inLeft), if_neg (upTo right inRight)]
      have below := UInt64.lt_iff_toNat_lt.mp ordered
      omega
    · intro left inLeft right inRight
      have bound := left.toNat_lt
      simp only [place, if_pos (above left inLeft), if_neg (upTo right inRight)]
      omega

end MonitoringFanIn

end ClassMesh
