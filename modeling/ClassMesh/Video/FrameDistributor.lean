import ClassMesh.Foundation.OrderedMap
import ClassMesh.Foundation.Run
import ClassMesh.Foundation.Saturating

namespace ClassMesh

open Std Foundation

inductive Codec
  | h264
  | hevc
  | av1
deriving DecidableEq

structure EncodedFrameMeta where
  frameId : UInt64
  timestampUs : UInt64
  keyframe : Bool
deriving DecidableEq

/-- The data is shared: clones of a frame have the same allocation, and no other frame has it. -/
structure SharedEncodedFrame where
  info : EncodedFrameMeta
  codec : Codec
  data : List UInt8
  allocation : Nat
deriving DecidableEq

inductive DistributorError
  | invalidMaxSinks
  | invalidMaxQueueDepth
  | invalidQueueCapacity
  | queueCapacityExceeded
  | duplicateSink
  | sinkLimitReached
deriving DecidableEq

abbrev SinkId := UInt64

inductive SinkMode
  | multicast
  | unicast
  | sfuUplink
  | recording
deriving DecidableEq

structure SinkQueue where
  mode : SinkMode
  frames : BTreeMap UInt64 SharedEncodedFrame := ∅
  capacity : Nat
  dropped : UInt64 := 0

namespace SinkQueue

variable (queue : SinkQueue)

def new (mode : SinkMode) (capacity : Nat) : SinkQueue := { mode, capacity }

/-- The oldest queued frame that is no keyframe. -/
def staleDelta : Option UInt64 :=
  (queue.frames.toList.find? fun entry => !entry.2.info.keyframe).map (·.1)

/-- The loop that makes room for a delta frame, and whether it succeeds. Each turn removes a frame, so that as many
turns as there are frames suffice. -/
def makeRoom (turns : Nat) (queue : SinkQueue) : SinkQueue × Bool :=
  if queue.frames.size < queue.capacity then (queue, true)
  else
    match turns, queue.staleDelta with
    | turns + 1, some stale =>
      makeRoom turns { queue with frames := queue.frames.erase stale, dropped := saturatingAdd queue.dropped 1 }
    -- A queue that holds its recovery keyframe only keeps it.
    | _, _ => ({ queue with dropped := saturatingAdd queue.dropped 1 }, false)

def push (frame : SharedEncodedFrame) : SinkQueue :=
  if frame.info.keyframe then
    { queue with
      dropped := saturatingAdd queue.dropped queue.frames.size
      frames := (∅ : BTreeMap UInt64 SharedEncodedFrame).insert frame.info.frameId frame }
  else
    match queue.makeRoom queue.frames.size with
    | (roomy, true) => { roomy with frames := roomy.frames.insert frame.info.frameId frame }
    | (full, false) => full

def popLatest : SinkQueue × Option SharedEncodedFrame :=
  match queue.frames.maxKey? with
  | none => (queue, none)
  | some latest =>
    ({ queue with dropped := saturatingAdd queue.dropped (queue.frames.size - 1), frames := ∅ }, queue.frames[latest]?)

/-- The newest queued keyframe. -/
def queuedKeyframe : Option UInt64 :=
  (queue.frames.toList.reverse.find? fun entry => entry.2.info.keyframe).map (·.1)

def popNextDecodable : SinkQueue × Option SharedEncodedFrame :=
  match queue.queuedKeyframe with
  | none => queue.popLatest
  | some keyframeId =>
    let staleBeforeKeyframe := queue.frames.keys.filter (· < keyframeId)
    let frames := staleBeforeKeyframe.foldl (fun current frameId => current.erase frameId) queue.frames
    ({ queue with
        dropped := saturatingAdd queue.dropped staleBeforeKeyframe.length
        frames := frames.erase keyframeId },
      frames[keyframeId]?)

def discard : SinkQueue :=
  { queue with frames := ∅, dropped := saturatingAdd queue.dropped queue.frames.size }

end SinkQueue

structure FrameDistributor where
  sinks : BTreeMap SinkId SinkQueue := ∅
  maxSinks : Nat := 64
  maxQueueDepth : Nat := 8

namespace FrameDistributor

variable (distributor : FrameDistributor)

def withLimits (maxSinks maxQueueDepth : Nat) : Except DistributorError FrameDistributor :=
  if maxSinks = 0 then .error .invalidMaxSinks
  else if maxQueueDepth = 0 then .error .invalidMaxQueueDepth
  else .ok { maxSinks, maxQueueDepth }

def addSink (id : SinkId) (mode : SinkMode) (capacity : Nat) : FrameDistributor × Except DistributorError Unit :=
  if capacity = 0 then (distributor, .error .invalidQueueCapacity)
  else if distributor.maxQueueDepth < capacity then (distributor, .error .queueCapacityExceeded)
  else if distributor.sinks.contains id then (distributor, .error .duplicateSink)
  else if distributor.maxSinks ≤ distributor.sinks.size then (distributor, .error .sinkLimitReached)
  else ({ distributor with sinks := distributor.sinks.insert id (.new mode capacity) }, .ok ())

def removeSink (id : SinkId) : FrameDistributor × Bool :=
  ({ distributor with sinks := distributor.sinks.erase id }, distributor.sinks.contains id)

def publish (frame : SharedEncodedFrame) : FrameDistributor :=
  { distributor with sinks := distributor.sinks.map fun _ sink => sink.push frame }

/-- A pop from one sink, by whichever of the two policies. -/
def popWith (pop : SinkQueue → SinkQueue × Option SharedEncodedFrame) (distributor : FrameDistributor) (id : SinkId) :
    FrameDistributor × Option SharedEncodedFrame :=
  match distributor.sinks[id]? with
  | none => (distributor, none)
  | some sink => ({ distributor with sinks := distributor.sinks.insert id (pop sink).1 }, (pop sink).2)

def popLatest : FrameDistributor → SinkId → FrameDistributor × Option SharedEncodedFrame := popWith SinkQueue.popLatest

def popNextDecodable : FrameDistributor → SinkId → FrameDistributor × Option SharedEncodedFrame :=
  popWith SinkQueue.popNextDecodable

def discardQueued : FrameDistributor :=
  { distributor with sinks := distributor.sinks.map fun _ sink => sink.discard }

end FrameDistributor

inductive DistributorInput
  | addSink (id : SinkId) (mode : SinkMode) (capacity : Nat)
  | removeSink (id : SinkId)
  | publish (frame : SharedEncodedFrame)
  | popLatest (id : SinkId)
  | popNextDecodable (id : SinkId)
  | discardQueued
deriving DecidableEq

inductive DistributorReply
  | added (result : Except DistributorError Unit)
  | removed (present : Bool)
  | popped (frame : Option SharedEncodedFrame)
  | done

def FrameDistributor.step (distributor : FrameDistributor) : DistributorInput → FrameDistributor × DistributorReply
  | .addSink sink mode capacity => (distributor.addSink sink mode capacity).map id .added
  | .removeSink sink => (distributor.removeSink sink).map id .removed
  | .publish frame => (distributor.publish frame, .done)
  | .popLatest sink => (distributor.popLatest sink).map id .popped
  | .popNextDecodable sink => (distributor.popNextDecodable sink).map id .popped
  | .discardQueued => (distributor.discardQueued, .done)

end ClassMesh
