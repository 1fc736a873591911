import ClassMesh.Video.SinkIsolation

namespace ClassMesh

open Std Foundation SinkQueue FrameDistributor ExtTreeMap

namespace SinkQueue

variable {queue : SinkQueue} {keyframe frame : SharedEncodedFrame}

/-- A keyframe that waits in a queue under its own number. -/
structure Holds (queue : SinkQueue) (keyframe : SharedEncodedFrame) : Prop where
  isKeyframe : keyframe.info.keyframe = true
  stored : queue.frames[keyframe.info.frameId]? = some keyframe

theorem staleDelta_ne (holds : queue.Holds keyframe) {stale : UInt64} (found : queue.staleDelta = some stale) :
    keyframe.info.frameId ≠ stale := by
  rintro rfl
  obtain ⟨⟨id, _⟩, first, same⟩ := Option.map_eq_some_iff.mp found
  have notKeyframe := List.find?_some first
  have there := mem_toList_iff_getElem?_eq_some.mp (List.mem_of_find?_eq_some first)
  change id = keyframe.info.frameId at same
  rw [same, holds.stored] at there
  cases there
  simp [holds.isKeyframe] at notKeyframe

/-- Making room for a delta frame never costs a keyframe. -/
theorem Holds.makeRoom (holds : queue.Holds keyframe) (turns : Nat) : (queue.makeRoom turns).1.Holds keyframe := by
  induction turns generalizing queue with
  | zero =>
    unfold makeRoom
    split
    · exact holds
    · exact ⟨holds.isKeyframe, holds.stored⟩
  | succ turns ih =>
    unfold makeRoom
    split
    · exact holds
    · cases found : queue.staleDelta with
      | none => exact ⟨holds.isKeyframe, holds.stored⟩
      | some =>
        refine ih ⟨holds.isKeyframe, ?_⟩
        rw [BTreeMap.getElem?_erase_ne (staleDelta_ne holds found)]
        exact holds.stored

theorem Holds.push_delta (holds : queue.Holds keyframe) (delta : frame.info.keyframe = false)
    (different : keyframe.info.frameId ≠ frame.info.frameId) : (queue.push frame).Holds keyframe := by
  have kept := holds.makeRoom queue.frames.size
  unfold push
  rw [if_neg (by simp [delta])]
  split
  case h_1 roomy made =>
    rw [made] at kept
    exact ⟨holds.isKeyframe, (BTreeMap.getElem?_insert_ne different).trans kept.stored⟩
  case h_2 full made =>
    rw [made] at kept
    exact kept

theorem holds_push_keyframe (queue : SinkQueue) (isKeyframe : frame.info.keyframe = true) :
    (queue.push frame).Holds frame := by
  unfold push
  rw [if_pos isKeyframe]
  exact ⟨isKeyframe, getElem?_insert_self⟩

/-- The keyframe of an ordered queue is what the next pop takes. -/
theorem Holds.popNextDecodable (holds : queue.Holds keyframe) (ordered : queue.Ordered) :
    queue.popNextDecodable.2 = some keyframe := by
  obtain ⟨keyframeId, found⟩ : ∃ keyframeId, queue.queuedKeyframe = some keyframeId := by
    have member : (keyframe.info.frameId, keyframe) ∈ queue.frames.toList.reverse :=
      List.mem_reverse.mpr (ExtTreeMap.mem_toList_iff_getElem?_eq_some.mpr holds.stored)
    have found : (queue.frames.toList.reverse.find? fun entry => entry.2.info.keyframe).isSome :=
      List.find?_isSome.mpr ⟨_, member, holds.isKeyframe⟩
    obtain ⟨entry, first⟩ := Option.isSome_iff_exists.mp found
    exact ⟨entry.1, by rw [SinkQueue.queuedKeyframe, first, Option.map_some]⟩
  obtain ⟨other, stored, isKeyframe⟩ := queuedKeyframe_eq_some found
  have first := ordered.keyframeFirst keyframeId other stored isKeyframe
  have same : keyframeId = keyframe.info.frameId :=
    UInt64.le_antisymm (first _ (BTreeMap.mem_of_getElem? holds.stored))
      (ordered.keyframeFirst _ keyframe holds.stored holds.isKeyframe _ (BTreeMap.mem_of_getElem? stored))
  have none : queue.frames.keys.filter (· < keyframeId) = [] := by
    refine List.filter_eq_nil_iff.mpr fun id member => ?_
    simpa using first id (ExtTreeMap.mem_keys.mp member)
  unfold SinkQueue.popNextDecodable
  simp only [found, none, List.foldl_nil]
  rw [same]
  exact holds.stored

end SinkQueue

/-- A call that publishes, or adds a sink, or concerns another sink. -/
def Undisturbing (id : SinkId) (call : DistributorCall) : Prop :=
  call.input ≠ .removeSink id ∧ call.input ≠ .popLatest id ∧ call.input ≠ .popNextDecodable id ∧
    call.input ≠ .discardQueued

def publishedKeyframe (call : DistributorCall) : Option SharedEncodedFrame :=
  match call.input with
  | .publish frame => if frame.info.keyframe then some frame else none
  | _ => none

/-- The last keyframe published, the given one if there was no other. -/
def latestKeyframe (keyframe : SharedEncodedFrame) (calls : List DistributorCall) : SharedEncodedFrame :=
  (calls.filterMap publishedKeyframe).getLast?.getD keyframe

section Survival

variable {distributor after initial final : FrameDistributor} {input : DistributorInput} {reply : DistributorReply}
  {id : SinkId} {keyframe : SharedEncodedFrame} {middle : List DistributorCall} {queue : SinkQueue}

/-- A sink that exists cannot be added. -/
theorem addSink_present (present : distributor.sinks[id]? = some queue) (mode : SinkMode) (capacity : Nat) :
    ∃ error, distributor.addSink id mode capacity = (distributor, .error error) := by
  unfold addSink
  split
  · exact ⟨_, rfl⟩
  · split
    · exact ⟨_, rfl⟩
    · rw [if_pos (contains_iff_mem.mpr (BTreeMap.mem_of_getElem? present))]
      exact ⟨_, rfl⟩

theorem latestKeyframe_concat (call : DistributorCall) :
    latestKeyframe keyframe (middle ++ [call]) = (publishedKeyframe call).getD (latestKeyframe keyframe middle) := by
  unfold latestKeyframe
  rw [List.filterMap_append, List.filterMap_cons]
  cases publishedKeyframe call with
  | none | some => simp

/-- The number of the latest keyframe was published. -/
theorem latestKeyframe_published :
    (latestKeyframe keyframe middle).info.frameId ∈ keyframe.info.frameId :: publishedIds middle := by
  unfold latestKeyframe
  cases last : (middle.filterMap publishedKeyframe).getLast? with
  | none => exact List.mem_cons_self
  | some =>
    obtain ⟨call, member, published⟩ := List.mem_filterMap.mp (List.mem_of_getLast? last)
    refine List.mem_cons_of_mem _ (List.mem_filterMap.mpr ⟨call, member, ?_⟩)
    unfold publishedKeyframe at published
    split at published
    case h_1 frame publishes =>
      split at published
      · cases published
        simp [publishedBy, publishes]
      · cases published
    case h_2 => cases published

/-- A queue keeps the latest keyframe through calls that do not disturb it. -/
theorem holds_latest (run : Run (Total step) initial middle final) (present : initial.sinks[id]? = some queue)
    (holds : queue.Holds keyframe) (fresh : (keyframe.info.frameId :: publishedIds middle).Pairwise (· < ·))
    (undisturbed : ∀ call ∈ middle, Undisturbing id call) :
    ∃ kept, final.sinks[id]? = some kept ∧ kept.Holds (latestKeyframe keyframe middle) := by
  induction run with
  | start => exact ⟨queue, present, holds⟩
  | @next middle distributor input reply after _ taken ih =>
    have older : (keyframe.info.frameId :: publishedIds middle).Pairwise (· < ·) := by
      rw [publishedIds_concat, ← List.cons_append] at fresh
      exact (List.pairwise_append.mp fresh).1
    obtain ⟨kept, there, held⟩ := ih older (forall_of_append undisturbed)
    obtain ⟨remove, latest, next, discard⟩ := undisturbed ⟨distributor, input, reply, after⟩ (by simp)
    have viewed := (step_view taken id).1
    rw [there] at viewed
    rw [latestKeyframe_concat]
    cases input with
    | addSink sink mode capacity =>
      refine ⟨kept, ?_, held⟩
      by_cases same : sink = id
      · subst same
        obtain ⟨_, refused⟩ := addSink_present there mode capacity
        rw [Foundation.Total, step, refused] at taken
        cases taken
        exact there
      · rwa [sinkAfter, if_neg (fun both => same both.1)] at viewed
    | removeSink sink =>
      have other : sink ≠ id := fun same => remove (by rw [same])
      refine ⟨kept, ?_, held⟩
      rwa [sinkAfter, if_neg other] at viewed
    | publish frame =>
      refine ⟨kept.push frame, viewed, ?_⟩
      cases isKeyframe : frame.info.keyframe with
      | true =>
        have newer : publishedKeyframe ⟨distributor, .publish frame, reply, after⟩ = some frame := if_pos isKeyframe
        rw [newer, Option.getD_some]
        exact holds_push_keyframe kept isKeyframe
      | false =>
        have none : publishedKeyframe ⟨distributor, .publish frame, reply, after⟩ = none :=
          if_neg (by simp [isKeyframe])
        rw [none, Option.getD_none]
        refine held.push_delta isKeyframe fun same => ?_
        rw [publishedIds_concat, ← List.cons_append] at fresh
        have before := (List.pairwise_append.mp fresh).2.2 _ latestKeyframe_published frame.info.frameId
          (by simp [publishedBy])
        rw [same] at before
        exact UInt64.lt_irrefl _ before
    | popLatest sink =>
      have other : sink ≠ id := fun same => latest (by rw [same])
      refine ⟨kept, ?_, held⟩
      rwa [sinkAfter, if_neg other] at viewed
    | popNextDecodable sink =>
      have other : sink ≠ id := fun same => next (by rw [same])
      refine ⟨kept, ?_, held⟩
      rwa [sinkAfter, if_neg other] at viewed
    | discardQueued => exact absurd rfl discard

end Survival

/-- In a run that publishes frames of increasing numbers, a keyframe waits in each sink until the next pop takes it or a
keyframe published since then, and what is popped after a keyframe is newer. -/
theorem queued_keyframe_survives {maxSinks maxQueueDepth : Nat} {initial final : FrameDistributor}
    {past : List DistributorCall} (built : FrameDistributor.withLimits maxSinks maxQueueDepth = .ok initial)
    (run : Run (Total FrameDistributor.step) initial past final) (fresh : (publishedIds past).Pairwise (· < ·))
    (id : SinkId) :
    (∀ earlier published middle popped later keyframe,
      past = earlier ++ published :: (middle ++ popped :: later) → published.input = .publish keyframe →
      keyframe.info.keyframe = true → id ∈ published.before.sinks → (∀ call ∈ middle, Undisturbing id call) →
      popped.input = .popNextDecodable id → poppedBy id popped = some (latestKeyframe keyframe middle)) ∧
    ∀ earlier first middle second later keyframe delta,
      past = earlier ++ first :: (middle ++ second :: later) → poppedBy id first = some keyframe →
      poppedBy id second = some delta → keyframe.info.frameId < delta.info.frameId := by
  obtain ⟨empty, _⟩ := withLimits_ok built
  constructor
  · intro earlier published middle popped later keyframe cut publishes isKeyframe present undisturbed pops
    obtain ⟨_, first, rest⟩ := run.split cut
    obtain ⟨between, second, _⟩ := rest.split rfl
    have cutPop : past = (earlier ++ published :: middle) ++ popped :: later := by
      rw [cut, List.append_assoc, List.cons_append]
    have reached := (run.split cutPop).1
    obtain ⟨queue, there⟩ := Option.isSome_iff_exists.mp (isSome_getElem?_iff_mem.mpr present)
    have viewed := (step_view first id).1
    rw [publishes, there] at viewed
    have ids : (publishedIds earlier ++ (keyframe.info.frameId :: publishedIds middle)).Pairwise (· < ·) := by
      rw [cutPop, publishedIds, List.filterMap_append] at fresh
      have front := (List.pairwise_append.mp fresh).1
      rw [List.filterMap_append, List.filterMap_cons] at front
      simpa [publishedBy, publishes, publishedIds] using front
    have increasing := (List.pairwise_append.mp ids).2.1
    obtain ⟨kept, here, held⟩ := holds_latest between viewed (holds_push_keyframe queue isKeyframe) increasing
      undisturbed
    have history : SinkHistory id (earlier ++ published :: middle) popped.before.sinks[id]? := by
      refine .of_run reached empty ?_
      rw [cutPop, publishedIds, List.filterMap_append] at fresh
      exact (List.pairwise_append.mp fresh).1
    have taken := (step_view second id).2
    rw [here] at taken
    have took : poppedBy id popped = kept.popNextDecodable.2 := taken.trans (by simp [pops, takenFrom])
    rw [took]
    exact held.popNextDecodable (history.ordered kept here)
  · intro earlier first middle second later keyframe delta cut took takes
    have history : SinkHistory id past final.sinks[id]? := .of_run run empty fresh
    have increasing := history.increasing
    rw [cut, poppedFrom, List.filterMap_append, List.map_append] at increasing
    have tail := (List.pairwise_append.mp increasing).2.1
    rw [List.filterMap_cons, took, List.map_cons, List.pairwise_cons] at tail
    refine tail.1 delta.info.frameId (List.mem_map_of_mem (List.mem_filterMap.mpr ⟨second, ?_, takes⟩))
    simp

/-- A sink for one frame: the keyframe stays while two delta frames are published. -/
theorem queued_keyframe_survives_in_one_place :
    ∃ initial, FrameDistributor.withLimits 1 8 = .ok initial ∧
      (calls FrameDistributor.step initial
        [.addSink 1 .unicast 1, .publish (distributedFrame 1 true), .publish (distributedFrame 2 false),
          .publish (distributedFrame 3 false), .popNextDecodable 1]).getLast?.bind (poppedBy 1) =
        some (distributedFrame 1 true) := by
  have built : withLimits 1 8 = .ok { maxSinks := 1 } := rfl
  have run := Run.of_calls step { maxSinks := 1 }
    [.addSink 1 .unicast 1, .publish (distributedFrame 1 true), .publish (distributedFrame 2 false),
      .publish (distributedFrame 3 false), .popNextDecodable 1]
  have popped := (queued_keyframe_survives built run (by decide +kernel) 1).1 [_] _ [_, _] _ []
    (distributedFrame 1 true)
    rfl rfl rfl (by decide +kernel) (by simp [Undisturbing]) rfl
  exact ⟨_, built, popped⟩

end ClassMesh
