import ClassMesh.Video.SinkAccounting

namespace ClassMesh

open Std Foundation FrameDistributor ExtTreeMap BTreeMap DistributorCall

def DistributorReply.isAdded : DistributorReply → Bool
  | .added (.ok _) => true
  | _ => false

def DistributorReply.isLimited : DistributorReply → Bool
  | .added (.error .sinkLimitReached) => true
  | _ => false

/-- What a call makes of one sink. Of the other sinks it depends in one way: they decide whether there is room to add
this one. -/
def sinkAfter (id : SinkId) (input : DistributorInput) (reply : DistributorReply) (queue : Option SinkQueue) :
    Option SinkQueue :=
  match input with
  | .addSink sink mode capacity => if sink = id ∧ reply.isAdded then some (.new mode capacity) else queue
  | .removeSink sink => if sink = id then none else queue
  | .publish frame => queue.map (·.push frame)
  | .popLatest sink => if sink = id then queue.map (·.popLatest.1) else queue
  | .popNextDecodable sink => if sink = id then queue.map (·.popNextDecodable.1) else queue
  | .discardQueued => queue.map (·.discard)

/-- What a call takes from one sink. -/
def takenFrom (id : SinkId) (input : DistributorInput) (queue : Option SinkQueue) : Option SharedEncodedFrame :=
  match input with
  | .popLatest sink => if sink = id then queue.bind (·.popLatest.2) else none
  | .popNextDecodable sink => if sink = id then queue.bind (·.popNextDecodable.2) else none
  | _ => none

section Views

variable {distributor after : FrameDistributor} {input : DistributorInput} {reply : DistributorReply}
  {past : List DistributorCall}

theorem popWith_view (pop : SinkQueue → SinkQueue × Option SharedEncodedFrame) (distributor : FrameDistributor)
    (sink id : SinkId) :
    (distributor.popWith pop sink).1.sinks[id]? =
        (if sink = id then distributor.sinks[id]?.map (fun queue => (pop queue).1) else distributor.sinks[id]?) ∧
      (distributor.popWith pop sink).2 = distributor.sinks[sink]?.bind (fun queue => (pop queue).2) := by
  unfold popWith
  cases found : distributor.sinks[sink]? with
  | none =>
    refine ⟨?_, rfl⟩
    by_cases same : sink = id
    · rw [if_pos same, ← same]
      simp [found]
    · rw [if_neg same]
  | some =>
    refine ⟨?_, rfl⟩
    by_cases same : sink = id
    · rw [if_pos same, ← same, found, Option.map_some]
      exact getElem?_insert_self
    · rw [if_neg same]
      exact getElem?_insert_ne (Ne.symm same)

/-- A sink that is added is new, and has a capacity. -/
theorem addSink_outcome (distributor : FrameDistributor) (sink : SinkId) (mode : SinkMode) (capacity : Nat) :
    (∃ error, distributor.addSink sink mode capacity = (distributor, .error error)) ∨
      (0 < capacity ∧ distributor.addSink sink mode capacity =
        ({ distributor with sinks := distributor.sinks.insert sink (.new mode capacity) }, .ok ())) := by
  unfold addSink
  split
  · exact .inl ⟨_, rfl⟩
  · rename_i positive
    split
    · exact .inl ⟨_, rfl⟩
    · split
      · exact .inl ⟨_, rfl⟩
      · split
        · exact .inl ⟨_, rfl⟩
        · exact .inr ⟨Nat.pos_of_ne_zero positive, rfl⟩

/-- A call as seen from one sink. -/
theorem step_view (taken : Total step distributor input reply after) (id : SinkId) :
    after.sinks[id]? = sinkAfter id input reply distributor.sinks[id]? ∧
      poppedBy id ⟨distributor, input, reply, after⟩ = takenFrom id input distributor.sinks[id]? := by
  unfold Foundation.Total at taken
  cases input with
  | addSink sink mode capacity =>
    rcases addSink_outcome distributor sink mode capacity with ⟨_, refused⟩ | ⟨-, added⟩
    · rw [step, refused] at taken
      cases taken
      exact ⟨by simp [sinkAfter, DistributorReply.isAdded], rfl⟩
    · rw [step, added] at taken
      cases taken
      refine ⟨?_, rfl⟩
      by_cases same : sink = id
      · simp [sinkAfter, DistributorReply.isAdded, same]
      · simpa [sinkAfter, same] using getElem?_insert_ne (Ne.symm same)
  | removeSink sink =>
    cases taken
    refine ⟨?_, rfl⟩
    by_cases same : sink = id
    · simp [sinkAfter, same]
    · simpa [sinkAfter, removeSink, same] using getElem?_erase_ne (Ne.symm same)
  | publish | discardQueued =>
    cases taken
    exact ⟨getElem?_map, rfl⟩
  | popLatest sink =>
    obtain ⟨queues, pops⟩ := popWith_view SinkQueue.popLatest distributor sink id
    obtain ⟨rfl, rfl⟩ := Prod.ext_iff.mp taken
    refine ⟨queues, ?_⟩
    by_cases same : sink = id
    · subst same
      exact (if_pos rfl).trans (pops.trans (if_pos rfl).symm)
    · exact (if_neg same).trans (if_neg same).symm
  | popNextDecodable sink =>
    obtain ⟨queues, pops⟩ := popWith_view SinkQueue.popNextDecodable distributor sink id
    obtain ⟨rfl, rfl⟩ := Prod.ext_iff.mp taken
    refine ⟨queues, ?_⟩
    by_cases same : sink = id
    · subst same
      exact (if_pos rfl).trans (pops.trans (if_pos rfl).symm)
    · exact (if_neg same).trans (if_neg same).symm

/-- Each call keeps the account of one sink. Only a publish, a pop from this sink and its own addition or removal touch
the queue; every other call extends the history and nothing else. -/
theorem SinkHistory.step {id : SinkId} (history : SinkHistory id past distributor.sinks[id]?)
    (taken : Total step distributor input reply after)
    (fresh : (publishedIds (past ++ [⟨distributor, input, reply, after⟩])).Pairwise (· < ·)) :
    SinkHistory id (past ++ [⟨distributor, input, reply, after⟩]) after.sinks[id]? := by
  obtain ⟨viewed, popped⟩ := step_view taken id
  rw [viewed]
  cases input with
  | addSink sink mode capacity =>
    rcases addSink_outcome distributor sink mode capacity with ⟨_, refused⟩ | ⟨positive, added⟩
    · rw [Foundation.Total, step, refused] at taken
      cases taken
      rw [sinkAfter, if_neg (by simp [DistributorReply.isAdded])]
      exact history.kept fresh ⟨by simp [Adds], by simp⟩ rfl rfl
    · rw [Foundation.Total, step, added] at taken
      cases taken
      by_cases same : sink = id
      · subst same
        rw [sinkAfter, if_pos ⟨rfl, rfl⟩]
        exact history.added ⟨rfl, rfl⟩ rfl positive
      · rw [sinkAfter, if_neg (fun both => same both.1)]
        exact history.kept fresh ⟨by simp [Adds, same], by simp⟩ rfl rfl
  | removeSink sink =>
    by_cases same : sink = id
    · rw [sinkAfter, if_pos same]
      exact history.absent rfl
    · rw [sinkAfter, if_neg same]
      exact history.kept fresh ⟨by simp [Adds], by simpa using same⟩ rfl rfl
  | publish frame =>
    rw [sinkAfter]
    cases current : distributor.sinks[id]? with
    | none =>
      rw [current] at history
      exact history.absent rfl
    | some queue =>
      rw [current] at history
      have newest : ∀ key ∈ queue.frames, key < frame.info.frameId := by
        intro key member
        rw [publishedIds_concat, List.pairwise_append] at fresh
        exact fresh.2.2 key (history.queued queue rfl key member).1 _ List.mem_cons_self
      obtain ⟨becomes, arrives⟩ := (history.ordered queue rfl).push newest
      refine history.extend fresh ⟨by simp [Adds], by simp⟩ becomes rfl rfl ?_ (by simp [poppedBy])
      intro key member
      exact (arrives key member).symm.imp_right fun same => congrArg some same.symm
  | popLatest sink =>
    by_cases same : sink = id
    · rw [sinkAfter, if_pos same]
      exact history.pops fresh ⟨by simp [Adds], by simp⟩ rfl (fun _ ordered => ordered.popLatest)
        (popped.trans (if_pos same))
    · rw [sinkAfter, if_neg same]
      exact history.kept fresh ⟨by simp [Adds], by simp⟩ rfl (popped.trans (if_neg same))
  | popNextDecodable sink =>
    by_cases same : sink = id
    · rw [sinkAfter, if_pos same]
      exact history.pops fresh ⟨by simp [Adds], by simp⟩ rfl (fun _ ordered => ordered.popNextDecodable)
        (popped.trans (if_pos same))
    · rw [sinkAfter, if_neg same]
      exact history.kept fresh ⟨by simp [Adds], by simp⟩ rfl (popped.trans (if_neg same))
  | discardQueued =>
    rw [sinkAfter]
    cases current : distributor.sinks[id]? with
    | none =>
      rw [current] at history
      exact history.absent rfl
    | some queue =>
      rw [current] at history
      exact history.extend fresh ⟨by simp [Adds], by simp⟩ (history.ordered queue rfl).discard rfl rfl
        (by simp [SinkQueue.discard]) (by simp [poppedBy])

theorem SinkHistory.of_run {initial final : FrameDistributor} {id : SinkId}
    (run : Run (Total FrameDistributor.step) initial past final) (empty : initial.sinks = ∅)
    (fresh : (publishedIds past).Pairwise (· < ·)) : SinkHistory id past final.sinks[id]? := by
  induction run with
  | start =>
    rw [empty]
    exact .start id
  | next _ taken ih =>
    refine (ih ?_).step taken fresh
    rw [publishedIds_concat, List.pairwise_append] at fresh
    exact fresh.1

end Views

/-- The calls that concern a sink: those addressed to it, except where the limit on sinks has refused to add it, and
those that concern all sinks. -/
def DistributorCall.Concerns (id : SinkId) (call : DistributorCall) : Bool :=
  match call.input with
  | .addSink sink _ _ => sink = id && !call.reply.isLimited
  | .removeSink sink | .popLatest sink | .popNextDecodable sink => sink = id
  | .publish _ | .discardQueued => true

/-- A second distributor that has the one sink only. -/
structure Mirrors (id : SinkId) (distributor alone : FrameDistributor) : Prop where
  same : alone.sinks[id]? = distributor.sinks[id]?
  only : ∀ other ∈ alone.sinks, other = id
  depth : alone.maxQueueDepth = distributor.maxQueueDepth
  limit : 0 < alone.maxSinks

section Isolation

variable {id : SinkId} {distributor alone after : FrameDistributor} {input : DistributorInput}
  {reply : DistributorReply}

theorem step_limits (taken : Total step distributor input reply after) :
    after.maxSinks = distributor.maxSinks ∧ after.maxQueueDepth = distributor.maxQueueDepth := by
  unfold Foundation.Total at taken
  cases input with
  | addSink sink mode capacity =>
    rcases addSink_outcome distributor sink mode capacity with ⟨_, refused⟩ | ⟨-, added⟩
    · rw [step, refused] at taken
      cases taken
      exact ⟨rfl, rfl⟩
    · rw [step, added] at taken
      cases taken
      exact ⟨rfl, rfl⟩
  | removeSink | publish | discardQueued =>
    cases taken
    exact ⟨rfl, rfl⟩
  | popLatest sink | popNextDecodable sink =>
    simp only [step, popLatest, popNextDecodable,
      popWith] at taken
    split at taken
    all_goals
      cases taken
      exact ⟨rfl, rfl⟩

/-- Alone, a sink is never refused for want of room. -/
theorem Mirrors.addSink (mirrors : Mirrors id distributor alone) {mode : SinkMode} {capacity : Nat}
    (admitted : (distributor.addSink id mode capacity).2 ≠ .error .sinkLimitReached) :
    (alone.addSink id mode capacity).2 = (distributor.addSink id mode capacity).2 := by
  have present : alone.sinks.contains id = distributor.sinks.contains id := by
    rw [Bool.eq_iff_iff, contains_iff_mem, contains_iff_mem,
      ← isSome_getElem?_iff_mem, ← isSome_getElem?_iff_mem, mirrors.same]
  unfold FrameDistributor.addSink at admitted ⊢
  rw [mirrors.depth, present]
  split
  · rfl
  · split
    · rfl
    · split
      · rfl
      · rename_i absent
        have empty : alone.sinks = ∅ := by
          refine eq_empty_iff_forall_not_mem.mpr fun other member => ?_
          rw [mirrors.only other member, ← contains_iff_mem, present] at member
          exact absent member
        rw [empty, if_neg (by simpa using mirrors.limit.ne')]
        split
        · rename_i full
          simp_all
        · rfl

/-- A call that does not concern a sink takes nothing from it and leaves it as it is. -/
theorem Mirrors.skip (mirrors : Mirrors id distributor alone) (taken : Total step distributor input reply after)
    (skipped : Concerns id ⟨distributor, input, reply, after⟩ = false) :
    Mirrors id after alone ∧ poppedBy id ⟨distributor, input, reply, after⟩ = none := by
  obtain ⟨viewed, popped⟩ := step_view taken id
  obtain ⟨-, depth⟩ := step_limits taken
  have untouched : sinkAfter id input reply distributor.sinks[id]? = distributor.sinks[id]? ∧
      takenFrom id input distributor.sinks[id]? = none := by
    cases input with
    | addSink =>
      refine ⟨if_neg ?_, rfl⟩
      rintro ⟨rfl, added⟩
      unfold DistributorReply.isAdded at added
      split at added
      · simp [Concerns, DistributorReply.isLimited] at skipped
      · cases added
    | publish | discardQueued => simp [Concerns] at skipped
    | removeSink sink =>
      have other : sink ≠ id := by simpa [Concerns] using skipped
      exact ⟨if_neg other, rfl⟩
    | popLatest sink | popNextDecodable sink =>
      have other : sink ≠ id := by simpa [Concerns] using skipped
      exact ⟨if_neg other, if_neg other⟩
  exact ⟨⟨by rw [viewed, untouched.1, mirrors.same], mirrors.only, mirrors.depth.trans depth.symm, mirrors.limit⟩,
    popped.trans untouched.2⟩

/-- A call that concerns one sink creates no other. -/
theorem sinkAfter_none {other : SinkId} {reply' : DistributorReply} (different : other ≠ id)
    (concerns : Concerns id ⟨distributor, input, reply, after⟩) : sinkAfter other input reply' none = none := by
  cases input with
  | addSink =>
    obtain ⟨addressed, -⟩ := Bool.and_eq_true_iff.mp concerns
    refine if_neg fun both => different ?_
    rw [← both.1]
    simpa using addressed
  | removeSink | publish | discardQueued | popLatest | popNextDecodable => simp [sinkAfter]

/-- A call that concerns a sink does to it the same when it is alone. -/
theorem Mirrors.keep (mirrors : Mirrors id distributor alone) (taken : Total step distributor input reply after)
    (concerns : Concerns id ⟨distributor, input, reply, after⟩) :
    Mirrors id after (alone.step input).1 ∧
      poppedBy id ⟨alone, input, (alone.step input).2, (alone.step input).1⟩ =
        poppedBy id ⟨distributor, input, reply, after⟩ := by
  obtain ⟨viewed, popped⟩ := step_view taken id
  obtain ⟨-, depth⟩ := step_limits taken
  have moved : Total step alone input (alone.step input).2 (alone.step input).1 := rfl
  obtain ⟨viewedAlone, poppedAlone⟩ := step_view moved id
  obtain ⟨limitAlone, depthAlone⟩ := step_limits moved
  have agree : sinkAfter id input (alone.step input).2 distributor.sinks[id]? =
      sinkAfter id input reply distributor.sinks[id]? := by
    cases input with
    | addSink sink mode capacity =>
      obtain ⟨addressed, unlimited⟩ := Bool.and_eq_true_iff.mp concerns
      obtain rfl : sink = id := by simpa using addressed
      have said : reply = .added (distributor.addSink sink mode capacity).2 := (Prod.ext_iff.mp taken).2.symm
      have admitted : (distributor.addSink sink mode capacity).2 ≠ .error .sinkLimitReached := by
        intro refused
        simp [said, refused, DistributorReply.isLimited] at unlimited
      simp only [said, step, Prod.map_snd, mirrors.addSink admitted]
    | removeSink | publish | discardQueued | popLatest | popNextDecodable => rfl
  refine ⟨⟨?_, ?_, ?_, limitAlone ▸ mirrors.limit⟩, ?_⟩
  · rw [viewedAlone, mirrors.same, agree, viewed]
  · intro other member
    by_contra different
    have absent : alone.sinks[other]? = none :=
      getElem?_eq_none fun inside => different (mirrors.only other inside)
    have gone := (step_view moved other).1
    rw [absent, sinkAfter_none different concerns] at gone
    rw [← isSome_getElem?_iff_mem, gone] at member
    cases member
  · rw [depthAlone, mirrors.depth, depth]
  · rw [poppedAlone, mirrors.same, popped]

/-- The arguments of those calls of a run that concern a sink. -/
def concerning (id : SinkId) (past : List DistributorCall) : List DistributorInput :=
  (past.filter (Concerns id)).map (·.input)

theorem Mirrors.of_run {initial final : FrameDistributor} {past : List DistributorCall}
    (run : Run (Total step) initial past final) (start : Mirrors id initial initial) :
    Mirrors id final (runOn step initial (concerning id past)) ∧
      poppedFrom id (calls step initial (concerning id past)) = poppedFrom id past := by
  induction run with
  | start => exact ⟨start, rfl⟩
  | @next past current input reply after _ taken ih =>
    obtain ⟨mirrors, same⟩ := ih
    cases concerns : Concerns id ⟨current, input, reply, after⟩ with
    | false =>
      obtain ⟨mirrors, nothing⟩ := mirrors.skip taken concerns
      have skipped : concerning id (past ++ [⟨current, input, reply, after⟩]) = concerning id past := by
        simp [concerning, concerns]
      rw [skipped, poppedFrom_concat, nothing, Option.toList_none, List.append_nil]
      exact ⟨mirrors, same⟩
    | true =>
      obtain ⟨mirrors, pops⟩ := mirrors.keep taken concerns
      have kept : concerning id (past ++ [⟨current, input, reply, after⟩]) = concerning id past ++ [input] := by
        simp [concerning, concerns]
      rw [kept, runOn_concat, calls_concat, poppedFrom_concat, poppedFrom_concat, pops, same]
      exact ⟨mirrors, rfl⟩

end Isolation

theorem withLimits_ok {maxSinks maxQueueDepth : Nat} {initial : FrameDistributor}
    (built : withLimits maxSinks maxQueueDepth = .ok initial) : initial.sinks = ∅ ∧ 0 < initial.maxSinks := by
  unfold withLimits at built
  split at built
  · cases built
  · split at built
    · cases built
    · rename_i some _
      cases built
      exact ⟨rfl, Nat.pos_of_ne_zero some⟩

/-- In a run that publishes frames of increasing numbers, for each sink: of the frames published since it was added,
each was popped from it, counted as dropped or is still queued, with a counter that is exact up to its limit; its queue
is within its capacity, and a queued keyframe is the only one and the oldest frame; the numbers of the frames popped
from it increase; and its queue, its counter and the frames popped from it are those of the run that remains when the
calls addressed to other sinks are left out, and the calls that failed to add it because there were too many others. -/
theorem sink_accounting_and_isolation {maxSinks maxQueueDepth : Nat} {initial final : FrameDistributor}
    {past : List DistributorCall} (built : FrameDistributor.withLimits maxSinks maxQueueDepth = .ok initial)
    (run : Run (Total FrameDistributor.step) initial past final) (fresh : (publishedIds past).Pairwise (· < ·))
    (id : SinkId) :
    (∀ queue, final.sinks[id]? = some queue →
      (∃ before added since dropped, past = before ++ added :: since ∧ Adds id queue.mode queue.capacity added ∧
        (∀ call ∈ since, Leaves id call) ∧
        (publishedIds since).length = (poppedFrom id since).length + dropped + queue.frames.size ∧
        queue.dropped.toNat = min dropped (2 ^ 64 - 1)) ∧
      queue.frames.size ≤ queue.capacity ∧
      (∀ (key other : UInt64) (frame frame' : SharedEncodedFrame),
        queue.frames[key]? = some frame → frame.info.keyframe → queue.frames[other]? = some frame' →
          key ≤ other ∧ (frame'.info.keyframe → other = key))) ∧
    ((poppedFrom id past).map (·.info.frameId)).Pairwise (· < ·) ∧
    (runOn FrameDistributor.step initial (concerning id past)).sinks[id]? = final.sinks[id]? ∧
    poppedFrom id (calls FrameDistributor.step initial (concerning id past)) = poppedFrom id past := by
  obtain ⟨empty, limit⟩ := withLimits_ok built
  have history : SinkHistory id past final.sinks[id]? := .of_run run empty fresh
  have start : Mirrors id initial initial := ⟨rfl, by simp [empty], rfl, limit⟩
  obtain ⟨mirrors, pops⟩ := Mirrors.of_run run start
  refine ⟨?_, history.increasing, mirrors.same, pops⟩
  intro queue present
  have ordered := history.ordered queue present
  obtain ⟨before, added, since, dropped, cut, adds, leaves, accounted⟩ := history.accounted queue present
  refine ⟨⟨before, added, since, dropped, cut, adds, leaves, accounted.balance, ?_⟩, ordered.bounded, ?_⟩
  · rw [accounted.counter, saturatingAdd_toNat]
    simp [UInt64.size]
  · intro key other frame frame' stored keyframe stored'
    have first := ordered.keyframeFirst key frame stored keyframe other (mem_of_getElem? stored')
    refine ⟨first, fun keyframe' => ?_⟩
    exact UInt64.le_antisymm
      (ordered.keyframeFirst other frame' stored' keyframe' key (mem_of_getElem? stored)) first

def distributedFrame (frameId : UInt64) (keyframe : Bool) : SharedEncodedFrame :=
  ⟨⟨frameId, frameId * 1000, keyframe⟩, .h264, [0, 0, 1], frameId.toNat⟩

/-- With room for one sink: the second one is refused, and added once the first has been removed. -/
def sampleDistribution : List DistributorInput :=
  [.addSink 1 .unicast 2, .addSink 2 .unicast 2, .publish (distributedFrame 1 true), .removeSink 1,
    .addSink 2 .unicast 2, .publish (distributedFrame 2 true), .publish (distributedFrame 3 false),
    .publish (distributedFrame 4 false), .popNextDecodable 2]

/-- Of the three frames published since the second sink was added one is popped, one dropped and one queued. -/
theorem sink_accounting_and_isolation_readded :
    ∃ initial, FrameDistributor.withLimits 1 8 = .ok initial ∧
      let past := calls FrameDistributor.step initial sampleDistribution
      let final := runOn FrameDistributor.step initial sampleDistribution
      final.sinks[(2 : SinkId)]?.map (fun queue => (queue.frames.keys, queue.dropped)) = some ([4], 1) ∧
        poppedFrom 2 past = [distributedFrame 2 true] ∧
        (runOn FrameDistributor.step initial (concerning 2 past)).sinks[(2 : SinkId)]? =
          final.sinks[(2 : SinkId)]? := by
  refine ⟨{ maxSinks := 1 }, rfl, by decide +kernel, by decide +kernel, ?_⟩
  have built : withLimits 1 8 = .ok { maxSinks := 1 } := rfl
  obtain ⟨-, -, isolated, -⟩ := sink_accounting_and_isolation built
    (Run.of_calls step _ sampleDistribution) (by decide +kernel) 2
  exact isolated

/-- All calls that are addressed to a sink or to all sinks. -/
def addressing (id : SinkId) (past : List DistributorCall) : List DistributorInput :=
  (past.map (·.input)).filter fun
    | .addSink sink _ _ | .removeSink sink | .popLatest sink | .popNextDecodable sink => sink = id
    | .publish _ | .discardQueued => true

/-- The limit on sinks is shared. A sink that is refused because of another one would have been added without that one,
and would have queued the frames published before it is added in fact. -/
theorem sink_limit_is_not_isolated :
    ∃ initial past final, FrameDistributor.withLimits 1 8 = .ok initial ∧
      Run (Total FrameDistributor.step) initial past final ∧ (publishedIds past).Pairwise (· < ·) ∧
      (runOn FrameDistributor.step initial (addressing 2 past)).sinks[(2 : SinkId)]? ≠ final.sinks[(2 : SinkId)]? := by
  let initial : FrameDistributor := { maxSinks := 1 }
  let inputs := sampleDistribution.take 5
  refine ⟨initial, calls step initial inputs, runOn step initial inputs, rfl,
    Run.of_calls _ _ _, by decide +kernel, ?_⟩
  intro same
  have sizes := congrArg (Option.map fun queue => queue.frames.size) same
  revert sizes
  decide +kernel

end ClassMesh
