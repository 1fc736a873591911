import ClassMesh.Video.FrameDistributor

namespace ClassMesh

open Std Foundation ExtTreeMap BTreeMap

namespace SinkQueue

/-- A queue within its capacity, whose keyframe, if it holds one, is its oldest frame. -/
structure Ordered (queue : SinkQueue) : Prop where
  positive : 0 < queue.capacity
  bounded : queue.frames.size ≤ queue.capacity
  keyed : ∀ (id : UInt64) (frame : SharedEncodedFrame), queue.frames[id]? = some frame → frame.info.frameId = id
  keyframeFirst : ∀ (id : UInt64) (frame : SharedEncodedFrame), queue.frames[id]? = some frame →
    frame.info.keyframe → ∀ other ∈ queue.frames, id ≤ other

/-- An operation on a queue that adds and takes frames loses the rest, and counts them. -/
structure Becomes (queue after : SinkQueue) (added taken : Nat) : Prop where
  ordered : after.Ordered
  mode : after.mode = queue.mode
  capacity : after.capacity = queue.capacity
  balance : ∃ lost, after.dropped = saturatingAdd queue.dropped lost ∧
    queue.frames.size + added = taken + lost + after.frames.size

variable {queue : SinkQueue} {frame : SharedEncodedFrame}

theorem Becomes.refl (ordered : queue.Ordered) : Becomes queue queue 0 0 :=
  ⟨ordered, rfl, rfl, 0, by simp, by simp⟩

theorem Ordered.of_empty (positive : 0 < queue.capacity) (empty : queue.frames = ∅) : queue.Ordered :=
  ⟨positive, by simp [empty], by simp [empty], by simp [empty]⟩

/-- Any part of an ordered queue is ordered. -/
theorem Ordered.erase (ordered : queue.Ordered) (id : UInt64) (dropped : UInt64) :
    Ordered { queue with frames := queue.frames.erase id, dropped := dropped } := by
  refine ⟨ordered.positive, Nat.le_trans size_erase_le ordered.bounded, ?_, ?_⟩
  · intro other frame stored
    rw [getElem?_erase] at stored
    split at stored
    · cases stored
    · exact ordered.keyed other frame stored
  · intro other frame stored keyframe third member
    rw [getElem?_erase] at stored
    split at stored
    · cases stored
    · exact ordered.keyframeFirst other frame stored keyframe third (mem_of_mem_erase member)

theorem staleDelta_eq_some {stale : UInt64} (found : queue.staleDelta = some stale) :
    ∃ frame, queue.frames[stale]? = some frame := by
  obtain ⟨⟨_, frame⟩, first, rfl⟩ := Option.map_eq_some_iff.mp found
  exact ⟨frame, mem_toList_iff_getElem?_eq_some.mp (List.mem_of_find?_eq_some first)⟩

/-- A delta frame that is newer than all others may be added where there is room. -/
theorem Ordered.insert (ordered : queue.Ordered) (room : queue.frames.size < queue.capacity)
    (newest : ∀ id ∈ queue.frames, id < frame.info.frameId) (delta : frame.info.keyframe = false) :
    Ordered { queue with frames := queue.frames.insert frame.info.frameId frame } ∧
      (queue.frames.insert frame.info.frameId frame).size = queue.frames.size + 1 := by
  have absent : frame.info.frameId ∉ queue.frames := fun member => UInt64.lt_irrefl _ (newest _ member)
  have grown : (queue.frames.insert frame.info.frameId frame).size = queue.frames.size + 1 := by
    rw [size_insert, if_neg (by simpa using absent)]
  refine ⟨⟨ordered.positive, grown ▸ room, ?_, ?_⟩, grown⟩
  · intro id stored found
    rcases getElem?_insert_cases found with ⟨rfl, rfl⟩ | ⟨_, old⟩
    · rfl
    · exact ordered.keyed id stored old
  · intro id stored found keyframe other member
    rcases getElem?_insert_cases found with ⟨_, rfl⟩ | ⟨_, found⟩
    · simp [delta] at keyframe
    rcases mem_insert_iff.mp member with rfl | older
    · exact UInt64.le_of_lt (newest id (mem_of_getElem? found))
    · exact ordered.keyframeFirst id stored found keyframe other older

/-- In an ordered queue the loop takes at most one turn. -/
theorem Ordered.makeRoom (ordered : queue.Ordered) :
    (queue.frames.size < queue.capacity ∧ queue.makeRoom queue.frames.size = (queue, true)) ∨
      (∃ stale ∈ queue.frames, queue.makeRoom queue.frames.size =
        ({ queue with frames := queue.frames.erase stale, dropped := saturatingAdd queue.dropped 1 }, true)) ∨
      queue.makeRoom queue.frames.size = ({ queue with dropped := saturatingAdd queue.dropped 1 }, false) := by
  by_cases room : queue.frames.size < queue.capacity
  · refine .inl ⟨room, ?_⟩
    rw [SinkQueue.makeRoom.eq_def, if_pos room]
  · obtain ⟨turns, count⟩ : ∃ turns, queue.frames.size = turns + 1 :=
      Nat.exists_eq_succ_of_ne_zero (by have := ordered.positive; omega)
    rw [SinkQueue.makeRoom.eq_def, if_neg room, count]
    cases found : queue.staleDelta with
    | none => exact .inr (.inr rfl)
    | some stale =>
      obtain ⟨_, stored⟩ := staleDelta_eq_some found
      have shrunk := size_erase_of_getElem? stored
      have roomy : (queue.frames.erase stale).size < queue.capacity := by
        have := ordered.bounded
        omega
      refine .inr (.inl ⟨stale, mem_of_getElem? stored, ?_⟩)
      simp only
      rw [SinkQueue.makeRoom.eq_def, if_pos roomy]

theorem Ordered.push (ordered : queue.Ordered) (newest : ∀ id ∈ queue.frames, id < frame.info.frameId) :
    Becomes queue (queue.push frame) 1 0 ∧
      ∀ id ∈ (queue.push frame).frames, id = frame.info.frameId ∨ id ∈ queue.frames := by
  unfold SinkQueue.push
  split
  · have alone : ∀ id, id ∈ (∅ : BTreeMap UInt64 SharedEncodedFrame).insert frame.info.frameId frame →
        id = frame.info.frameId := by
      intro id member
      exact (mem_insert_iff.mp member).resolve_right (by simp)
    have single : ((∅ : BTreeMap UInt64 SharedEncodedFrame).insert frame.info.frameId frame).size = 1 := by
      simp [size_insert]
    refine ⟨⟨⟨ordered.positive, single ▸ ordered.positive, ?_, ?_⟩, rfl, rfl, queue.frames.size, rfl, ?_⟩, ?_⟩
    · intro id stored found
      cases alone id (mem_of_getElem? found)
      rw [getElem?_insert_self] at found
      cases found
      rfl
    · intro id stored found _ other member
      cases alone id (mem_of_getElem? found)
      cases alone other member
      exact UInt64.le_refl _
    · simp only [single]
      omega
    · exact fun id member => .inl (alone id member)
  · rename_i delta
    have delta : frame.info.keyframe = false := by simpa using delta
    rcases ordered.makeRoom with ⟨room, made⟩ | ⟨stale, member, made⟩ | made
    · simp only [made]
      obtain ⟨kept, grown⟩ := ordered.insert room newest delta
      exact ⟨⟨kept, rfl, rfl, 0, by simp, by simp [grown]⟩, fun id => mem_insert_iff.mp⟩
    · simp only [made]
      have erased := ordered.erase stale (saturatingAdd queue.dropped 1)
      have shrunk : (queue.frames.erase stale).size + 1 = queue.frames.size := by
        have some := size_pos_of_mem member
        rw [size_erase, if_pos (contains_iff_mem.mpr member)]
        omega
      obtain ⟨kept, grown⟩ := erased.insert (by have := ordered.bounded; simp only; omega)
        (fun id stayed => newest id (mem_of_mem_erase stayed)) delta
      refine ⟨⟨kept, rfl, rfl, 1, rfl, ?_⟩, ?_⟩
      · simp only [grown]
        omega
      · intro id stored
        exact (mem_insert_iff.mp stored).imp_right mem_of_mem_erase
    · simp only [made]
      refine ⟨⟨⟨ordered.positive, ordered.bounded, ordered.keyed, ordered.keyframeFirst⟩, rfl, rfl, 1, rfl, ?_⟩, ?_⟩
      · exact Nat.add_comm _ _
      · exact fun id member => .inr member

/-- What a pop takes is older than all that it leaves. -/
structure Takes (queue after : SinkQueue) (frame : SharedEncodedFrame) : Prop extends Becomes queue after 0 1 where
  queued : frame.info.frameId ∈ queue.frames
  older : ∀ id ∈ after.frames, id ∈ queue.frames ∧ frame.info.frameId < id

/-- A pop takes a frame, or finds the queue empty and leaves it so. -/
inductive PopOutcome (queue : SinkQueue) : SinkQueue × Option SharedEncodedFrame → Prop
  | nothing : PopOutcome queue (queue, none)
  | taken {after frame} : Takes queue after frame → PopOutcome queue (after, some frame)

theorem Ordered.popLatest (ordered : queue.Ordered) : PopOutcome queue queue.popLatest := by
  unfold SinkQueue.popLatest
  split
  · exact .nothing
  · rename_i latest found
    obtain ⟨member, -⟩ := maxKey?_eq_some_iff_mem_and_forall.mp found
    obtain ⟨frame, stored⟩ := Option.isSome_iff_exists.mp (isSome_getElem?_iff_mem.mpr member)
    rw [stored]
    have some := size_pos_of_mem member
    refine .taken ⟨⟨.of_empty ordered.positive rfl, rfl, rfl, queue.frames.size - 1, rfl, ?_⟩, ?_, ?_⟩
    · simp
      omega
    · rw [ordered.keyed latest frame stored]
      exact member
    · simp

theorem queuedKeyframe_eq_some {id : UInt64} (found : queue.queuedKeyframe = some id) :
    ∃ frame, queue.frames[id]? = some frame ∧ frame.info.keyframe := by
  obtain ⟨⟨_, frame⟩, first, rfl⟩ := Option.map_eq_some_iff.mp found
  have member := List.mem_reverse.mp (List.mem_of_find?_eq_some first)
  have keyframe := List.find?_some first
  exact ⟨frame, mem_toList_iff_getElem?_eq_some.mp member, keyframe⟩

/-- In an ordered queue no frame is older than the keyframe. -/
theorem Ordered.popNextDecodable (ordered : queue.Ordered) : PopOutcome queue queue.popNextDecodable := by
  unfold SinkQueue.popNextDecodable
  split
  · exact ordered.popLatest
  · rename_i keyframeId found
    obtain ⟨frame, stored, keyframe⟩ := queuedKeyframe_eq_some found
    have first := ordered.keyframeFirst keyframeId frame stored keyframe
    have none : queue.frames.keys.filter (· < keyframeId) = [] := by
      refine List.filter_eq_nil_iff.mpr fun id member => ?_
      simpa using first id (mem_keys.mp member)
    have named := ordered.keyed keyframeId frame stored
    have some := size_pos_of_mem (mem_of_getElem? stored)
    simp only [none, List.foldl_nil, stored]
    refine .taken ⟨⟨ordered.erase _ _, rfl, rfl, 0, rfl, ?_⟩, ?_, ?_⟩
    · simp only [size_erase_of_getElem? stored]
      omega
    · rw [named]
      exact mem_of_getElem? stored
    · intro id member
      obtain ⟨different, stayed⟩ := mem_erase.mp member
      refine ⟨stayed, ?_⟩
      rw [named]
      rw [ne_eq, Std.compare_eq_iff_eq] at different
      exact UInt64.lt_of_le_of_ne (first id stayed) different

theorem Ordered.discard (ordered : queue.Ordered) : Becomes queue queue.discard 0 0 :=
  ⟨.of_empty ordered.positive rfl, rfl, rfl, queue.frames.size, rfl, by simp [SinkQueue.discard]⟩

end SinkQueue

abbrev DistributorCall := Call FrameDistributor DistributorInput DistributorReply

/-- The frame that a call takes from a sink. -/
def poppedBy (id : SinkId) (call : DistributorCall) : Option SharedEncodedFrame :=
  match call.input, call.reply with
  | .popLatest sink, .popped frame => if sink = id then frame else none
  | .popNextDecodable sink, .popped frame => if sink = id then frame else none
  | _, _ => none

def publishedBy (call : DistributorCall) : Option UInt64 :=
  match call.input with
  | .publish frame => some frame.info.frameId
  | _ => none

def poppedFrom (id : SinkId) (past : List DistributorCall) : List SharedEncodedFrame := past.filterMap (poppedBy id)

def publishedIds (past : List DistributorCall) : List UInt64 := past.filterMap publishedBy

/-- A call that creates a sink. -/
def DistributorCall.Adds (id : SinkId) (mode : SinkMode) (capacity : Nat) (call : DistributorCall) : Prop :=
  call.input = .addSink id mode capacity ∧ call.reply = .added (.ok ())

/-- A call that neither creates nor removes a sink. -/
def DistributorCall.Leaves (id : SinkId) (call : DistributorCall) : Prop :=
  (∀ mode capacity, ¬Adds id mode capacity call) ∧ call.input ≠ .removeSink id

open DistributorCall

/-- What has become of the frames published since a sink was added. The counter of dropped frames stops at its limit. -/
structure Accounted (id : SinkId) (queue : SinkQueue) (since : List DistributorCall) (dropped : Nat) : Prop where
  balance : (publishedIds since).length = (poppedFrom id since).length + dropped + queue.frames.size
  counter : queue.dropped = saturatingAdd 0 dropped

structure SinkHistory (id : SinkId) (past : List DistributorCall) (current : Option SinkQueue) : Prop where
  popped : ∀ frame ∈ poppedFrom id past, frame.info.frameId ∈ publishedIds past
  increasing : ((poppedFrom id past).map (·.info.frameId)).Pairwise (· < ·)
  ordered : ∀ queue, current = some queue → queue.Ordered
  queued : ∀ queue, current = some queue → ∀ key ∈ queue.frames,
    key ∈ publishedIds past ∧ ∀ frame ∈ poppedFrom id past, frame.info.frameId < key
  accounted : ∀ queue, current = some queue → ∃ before added since dropped, past = before ++ added :: since ∧
    Adds id queue.mode queue.capacity added ∧ (∀ call ∈ since, Leaves id call) ∧ Accounted id queue since dropped

section Histories

variable {id : SinkId} {past : List DistributorCall} {call : DistributorCall} {current : Option SinkQueue}
  {queue after : SinkQueue}

@[simp] theorem poppedFrom_concat (id : SinkId) (past : List DistributorCall) (call : DistributorCall) :
    poppedFrom id (past ++ [call]) = poppedFrom id past ++ (poppedBy id call).toList := by
  rw [poppedFrom, List.filterMap_append, List.filterMap_cons]
  cases poppedBy id call <;> rfl

@[simp] theorem publishedIds_concat (past : List DistributorCall) (call : DistributorCall) :
    publishedIds (past ++ [call]) = publishedIds past ++ (publishedBy call).toList := by
  rw [publishedIds, List.filterMap_append, List.filterMap_cons]
  cases publishedBy call <;> rfl

theorem SinkHistory.start (id : SinkId) : SinkHistory id [] none :=
  ⟨by simp [poppedFrom], by simp [poppedFrom], by simp, by simp, by simp⟩

/-- The sink is gone, or was never there. -/
theorem SinkHistory.absent (history : SinkHistory id past current) (nothing : poppedBy id call = none) :
    SinkHistory id (past ++ [call]) none := by
  refine ⟨?_, ?_, by simp, by simp, by simp⟩
  · intro frame member
    rw [poppedFrom_concat, nothing, Option.toList_none, List.append_nil] at member
    exact publishedIds_concat past call ▸ List.mem_append_left _ (history.popped frame member)
  · rw [poppedFrom_concat, nothing, Option.toList_none, List.append_nil]
    exact history.increasing

theorem SinkHistory.added {mode : SinkMode} {capacity : Nat} (history : SinkHistory id past current)
    (adds : Adds id mode capacity call) (nothing : poppedBy id call = none) (positive : 0 < capacity) :
    SinkHistory id (past ++ [call]) (some (.new mode capacity)) := by
  obtain ⟨popped, increasing, -, -, -⟩ := history.absent nothing
  refine ⟨popped, increasing, ?_, ?_, ?_⟩
  · rintro queue ⟨⟩
    exact .of_empty positive rfl
  · rintro queue ⟨⟩ key member
    simp [SinkQueue.new] at member
  · rintro queue ⟨⟩
    exact ⟨past, call, [], 0, rfl, adds, by simp, rfl, by simp [SinkQueue.new]⟩

theorem Accounted.extend {since : List DistributorCall} {dropped added taken : Nat}
    (accounted : Accounted id queue since dropped) (becomes : queue.Becomes after added taken)
    (publishes : (publishedBy call).toList.length = added) (pops : (poppedBy id call).toList.length = taken) :
    ∃ more, Accounted id after (since ++ [call]) (dropped + more) := by
  obtain ⟨lost, counted, balance⟩ := becomes.balance
  refine ⟨lost, ?_, ?_⟩
  · have before := accounted.balance
    rw [publishedIds_concat, poppedFrom_concat, List.length_append, List.length_append, publishes, pops]
    omega
  · rw [counted, accounted.counter, saturatingAdd_add]

/-- A call on a sink that stays: what it leaves in the queue was there or is published now, and what it takes was
there and is older than what is left. -/
theorem SinkHistory.extend {added taken : Nat} (history : SinkHistory id past (some queue))
    (fresh : (publishedIds (past ++ [call])).Pairwise (· < ·)) (leaves : Leaves id call)
    (becomes : queue.Becomes after added taken) (publishes : (publishedBy call).toList.length = added)
    (pops : (poppedBy id call).toList.length = taken)
    (arrives : ∀ key ∈ after.frames, key ∈ queue.frames ∨ publishedBy call = some key)
    (takes : ∀ frame, poppedBy id call = some frame →
      frame.info.frameId ∈ queue.frames ∧ ∀ key ∈ after.frames, frame.info.frameId < key) :
    SinkHistory id (past ++ [call]) (some after) := by
  have queued := history.queued queue rfl
  rw [publishedIds_concat, List.pairwise_append] at fresh
  obtain ⟨-, -, newer⟩ := fresh
  refine ⟨?_, ?_, ?_, ?_, ?_⟩
  · intro frame member
    rw [publishedIds_concat]
    rw [poppedFrom_concat, List.mem_append, Option.mem_toList] at member
    refine List.mem_append_left _ ?_
    rcases member with earlier | last
    · exact history.popped frame earlier
    · exact (queued _ (takes frame last).1).1
  · rw [poppedFrom_concat, List.map_append, List.pairwise_append]
    refine ⟨history.increasing, ?_, ?_⟩
    · cases poppedBy id call <;> simp
    · intro earlier member last final
      obtain ⟨frame, inside, rfl⟩ := List.mem_map.mp member
      obtain ⟨frame', popped, rfl⟩ := List.mem_map.mp final
      exact (queued _ (takes frame' (Option.mem_toList.mp popped)).1).2 frame inside
  · rintro _ ⟨⟩
    exact becomes.ordered
  · rintro _ ⟨⟩ key member
    rw [publishedIds_concat, poppedFrom_concat]
    refine ⟨?_, ?_⟩
    · rcases arrives key member with old | new
      · exact List.mem_append_left _ (queued key old).1
      · exact List.mem_append_right _ (Option.mem_toList.mpr new)
    · intro frame popped
      rw [List.mem_append, Option.mem_toList] at popped
      rcases popped with earlier | last
      · rcases arrives key member with old | new
        · exact (queued key old).2 frame earlier
        · exact newer _ (history.popped frame earlier) key (Option.mem_toList.mpr new)
      · exact (takes frame last).2 key member
  · rintro _ ⟨⟩
    obtain ⟨before, adding, since, dropped, cut, adds, kept, accounted⟩ := history.accounted queue rfl
    obtain ⟨more, extended⟩ := accounted.extend becomes publishes pops
    refine ⟨before, adding, since ++ [call], dropped + more, by rw [cut, List.append_assoc, List.cons_append], ?_, ?_,
      extended⟩
    · rw [becomes.mode, becomes.capacity]
      exact adds
    · exact forall_mem_concat kept leaves

theorem SinkHistory.kept (history : SinkHistory id past current)
    (fresh : (publishedIds (past ++ [call])).Pairwise (· < ·)) (leaves : Leaves id call)
    (publishesNone : publishedBy call = none) (popsNone : poppedBy id call = none) :
    SinkHistory id (past ++ [call]) current := by
  cases current with
  | none => exact history.absent popsNone
  | some queue =>
    refine history.extend fresh leaves (.refl (history.ordered queue rfl)) (by rw [publishesNone]; rfl)
      (by rw [popsNone]; rfl) (fun key member => .inl member) ?_
    intro frame popped
    rw [popsNone] at popped
    cases popped

/-- A pop from a sink, by a policy that takes a frame or finds the queue empty. -/
theorem SinkHistory.pops {pop : SinkQueue → SinkQueue × Option SharedEncodedFrame}
    (history : SinkHistory id past current) (fresh : (publishedIds (past ++ [call])).Pairwise (· < ·))
    (leaves : Leaves id call) (publishesNone : publishedBy call = none)
    (outcome : ∀ queue : SinkQueue, queue.Ordered → queue.PopOutcome (pop queue))
    (popped : poppedBy id call = current.bind fun queue => (pop queue).2) :
    SinkHistory id (past ++ [call]) (current.map fun queue => (pop queue).1) := by
  cases current with
  | none => exact history.absent popped
  | some queue =>
    rw [Option.bind_some] at popped
    rw [Option.map_some]
    have result := outcome queue (history.ordered queue rfl)
    generalize pop queue = reply at popped result
    cases result with
    | nothing => exact history.kept fresh leaves publishesNone popped
    | @taken after frame takes =>
      refine history.extend fresh leaves takes.toBecomes (by rw [publishesNone]; rfl) (by rw [popped]; rfl)
        (fun key member => .inl (takes.older key member).1) ?_
      intro other same
      rw [popped] at same
      cases same
      exact ⟨takes.queued, fun key member => (takes.older key member).2⟩

end Histories

end ClassMesh
