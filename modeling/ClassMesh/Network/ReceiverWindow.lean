import ClassMesh.Foundation.OrderedMap
import ClassMesh.Foundation.Saturating
import ClassMesh.Network.FrameAssembler

namespace ClassMesh

open Std Foundation

structure ReceiverPolicy where
  maxInflightFrames : Nat := 3
  nackAfterUs : Nat := 20000
  dropAfterUs : Nat := 80000
deriving DecidableEq

inductive ReceiverEvent
  | frameReady (frame : AssembledFrame)
  | needNack (streamId : UInt32) (frameId : UInt64) (missingPacketIndices : List UInt16)
  | needKeyframe (streamId : UInt32) (afterFrameId : UInt64)
  | droppedStaleFrame (streamId : UInt32) (frameId : UInt64)
deriving DecidableEq

structure InflightFrame where
  firstSeenUs : Nat
  lastNackUs : Option Nat
  assembler : FrameAssembler
deriving DecidableEq

namespace InflightFrame

/-- The drop deadline has passed. Natural subtraction is the code's saturating one. -/
def stale (policy : ReceiverPolicy) (nowUs : Nat) (frame : InflightFrame) : Bool :=
  policy.dropAfterUs ≤ nowUs - frame.firstSeenUs

def nackDue (policy : ReceiverPolicy) (nowUs : Nat) (frame : InflightFrame) : Bool :=
  policy.nackAfterUs ≤ nowUs - frame.firstSeenUs &&
    frame.lastNackUs.all fun last => policy.nackAfterUs ≤ nowUs - last

def asks (policy : ReceiverPolicy) (nowUs : Nat) (frame : InflightFrame) : Bool :=
  frame.nackDue policy nowUs && !frame.assembler.missing.isEmpty

def nacked (policy : ReceiverPolicy) (nowUs : Nat) (frame : InflightFrame) : InflightFrame :=
  if frame.asks policy nowUs then { frame with lastNackUs := some nowUs } else frame

@[simp] theorem nacked_assembler (policy : ReceiverPolicy) (nowUs : Nat) (frame : InflightFrame) :
    (frame.nacked policy nowUs).assembler = frame.assembler := by
  unfold nacked
  split <;> rfl

@[simp] theorem nacked_firstSeenUs (policy : ReceiverPolicy) (nowUs : Nat) (frame : InflightFrame) :
    (frame.nacked policy nowUs).firstSeenUs = frame.firstSeenUs := by
  unfold nacked
  split <;> rfl

end InflightFrame

structure ReceiverWindow where
  policy : ReceiverPolicy
  inflight : BTreeMap UInt64 InflightFrame := ∅
  latestCompleteFrame : Option UInt64 := none
  droppedFrames : UInt64 := 0

/-! As for the assembler, `none` stands for a panic. -/

namespace ReceiverWindow

variable (window : ReceiverWindow)

def new (policy : ReceiverPolicy) : Option ReceiverWindow :=
  if 0 < policy.maxInflightFrames ∧ policy.nackAfterUs < policy.dropAfterUs then some { policy := policy } else none

def staleEntries (nowUs : Nat) : List (UInt64 × InflightFrame) :=
  window.inflight.toList.filter fun entry => entry.2.stale window.policy nowUs

def liveEntries (nowUs : Nat) : List (UInt64 × InflightFrame) :=
  window.inflight.toList.filter fun entry => !entry.2.stale window.policy nowUs

/-- The window that `expire` leaves. -/
def expired (nowUs : Nat) : ReceiverWindow :=
  { window with
    inflight := (window.inflight.filter fun _ frame => !frame.stale window.policy nowUs).map
      fun _ frame => frame.nacked window.policy nowUs
    droppedFrames := saturatingAdd window.droppedFrames (window.staleEntries nowUs).length }

def nackEvent (policy : ReceiverPolicy) (nowUs : Nat) (entry : UInt64 × InflightFrame) : Option ReceiverEvent :=
  if entry.2.asks policy nowUs then
    some (.needNack entry.2.assembler.streamId entry.1 (entry.2.assembler.missingPacketIndices.getD []))
  else none

def dropEvent (entry : UInt64 × InflightFrame) : ReceiverEvent :=
  .droppedStaleFrame entry.2.assembler.streamId entry.1

/-- The events that `expire` returns: requests in frame order, then the dropped frames, then one keyframe
request after the last of these. -/
def expiryEvents (nowUs : Nat) : List ReceiverEvent :=
  (window.liveEntries nowUs).filterMap (nackEvent window.policy nowUs) ++
    ((window.staleEntries nowUs).map dropEvent ++
      ((window.staleEntries nowUs).getLast?.map fun entry =>
        ReceiverEvent.needKeyframe entry.2.assembler.streamId entry.1).toList)

def expire (nowUs : Nat) : Option (ReceiverWindow × List ReceiverEvent) :=
  if (window.liveEntries nowUs).any fun entry =>
      entry.2.nackDue window.policy nowUs && entry.2.assembler.missingPacketIndices.isNone then none
  else some (window.expired nowUs, window.expiryEvents nowUs)

def tick (nowUs : Nat) : Option (ReceiverWindow × List ReceiverEvent) :=
  window.expire nowUs

/-- The eviction loop of `push`; every round removes a frame, so the number of frames bounds the rounds. -/
def makeRoom : Nat → ReceiverWindow → ReceiverWindow × List ReceiverEvent
  | 0, window => (window, [])
  | rounds + 1, window =>
    if window.policy.maxInflightFrames ≤ window.inflight.size then
      match window.inflight.toList.head? with
      | none => (window, [])
      | some oldest =>
        let (room, events) := makeRoom rounds
          { window with
            inflight := window.inflight.erase oldest.1
            droppedFrames := saturatingAdd window.droppedFrames 1 }
        (room, dropEvent oldest :: events)
    else (window, [])

/-- Give the packet's frame an entry, unless it has one. -/
def enter (nowUs : Nat) (packet : MediaPacket) : ReceiverWindow × List ReceiverEvent :=
  if window.inflight.contains packet.header.frameId then (window, [])
  else
    let (room, events) := makeRoom window.inflight.size window
    ({ room with inflight := room.inflight.insert packet.header.frameId ⟨nowUs, none, .fromFirst packet⟩ }, events)

/-- Hand the packet to its entry, and deliver the frame when that completes it. -/
def accept (packet : MediaPacket) : Option (ReceiverWindow × Except AssembleError (List ReceiverEvent)) :=
  let frameId := packet.header.frameId
  match window.inflight[frameId]? with
  | none => none
  | some frame =>
    match frame.assembler.push packet with
    | none => none
    | some (.error error) => some (window, .error error)
    | some (.ok assembler) =>
      let stored := window.inflight.insert frameId { frame with assembler := assembler }
      if assembler.isComplete then
        match assembler.finish with
        | some (some done) =>
          some ({ window with
              inflight := (stored.erase frameId).filter fun candidate _ => frameId < candidate
              latestCompleteFrame := some frameId }, .ok [.frameReady done])
        | _ => none
      else some ({ window with inflight := stored }, .ok [])

def late (frameId : UInt64) : Bool :=
  window.latestCompleteFrame.any (frameId ≤ ·)

def push (nowUs : Nat) (packet : MediaPacket) : Option (ReceiverWindow × Except AssembleError (List ReceiverEvent)) :=
  match window.expire nowUs with
  | none => none
  | some (window, events) =>
    if window.late packet.header.frameId then some (window, .ok events)
    else
      let (window, evicted) := window.enter nowUs packet
      match window.accept packet with
      | none => none
      | some (after, .error error) => some (after, .error error)
      | some (after, .ok delivered) => some (after, .ok (events ++ (evicted ++ delivered)))

end ReceiverWindow

inductive WindowInput
  | push (nowUs : Nat) (packet : MediaPacket)
  | tick (nowUs : Nat)

abbrev WindowReply := Except AssembleError (List ReceiverEvent)

def ReceiverWindow.step (window : ReceiverWindow) : WindowInput → Option (ReceiverWindow × WindowReply)
  | .push nowUs packet => window.push nowUs packet
  | .tick nowUs => (window.tick nowUs).map fun result => (result.1, .ok result.2)

end ClassMesh
