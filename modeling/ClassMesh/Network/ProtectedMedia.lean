import ClassMesh.Network.Reassembly
import ClassMesh.Security.GroupMediaCoordinator

namespace ClassMesh

structure ProtectedMediaBinding where
  presentationId : UInt64
  streamId : UInt32
  epoch : GroupMediaEpoch
deriving DecidableEq

def ProtectedMediaBinding.accepts (self : ProtectedMediaBinding) (binding : GroupMediaFrameBinding) : Bool :=
  binding.presentationId = self.presentationId && binding.streamId = self.streamId && binding.epoch = self.epoch

inductive ProtectedMediaCoreError
  | frameBindingMismatch
  | unsupportedCodec
  | security (error : GroupMediaError)
  | coordinator (error : GroupMediaCoordinatorError)
  | packetize (error : PacketizeError)
  | datagram (error : DatagramError)
  | shortDatagramWrite
deriving DecidableEq

structure PreparedProtectedFrame where
  packets : List MediaPacket
  firstSequence : UInt32
  nextSequence : UInt32
deriving DecidableEq

structure ProtectedMediaPacketizer where
  binding : ProtectedMediaBinding
  nextSequence : UInt32 := 0
deriving DecidableEq

/-- The packet metadata of a sealed frame: what it was sealed with, and nothing else of the frame. -/
def packetizeMeta (binding : GroupMediaFrameBinding) (firstSequence : UInt32) : PacketizeMeta where
  protocolMajor := mediaProtocolMajor
  protocolMinor := mediaProtocolMinor
  streamId := binding.streamId
  frameId := binding.frameId
  firstSequence := firstSequence
  timestampUs := binding.timestampUs
  keyframe := binding.keyframe

namespace ProtectedMediaPacketizer

def packetize (packetizer : ProtectedMediaPacketizer) (frame : SealedGroupMediaFrame) :
    Except ProtectedMediaCoreError (ProtectedMediaPacketizer × PreparedProtectedFrame) :=
  if packetizer.binding.accepts frame.binding = false then .error .frameBindingMismatch
  else
    match packetizeFrame frame.data (packetizeMeta frame.binding packetizer.nextSequence) with
    | .error error => .error (.packetize error)
    | .ok packets =>
      let nextSequence := packetizer.nextSequence + packets.length.toUInt32
      .ok ({ packetizer with nextSequence := nextSequence },
        { packets := packets, firstSequence := packetizer.nextSequence, nextSequence := nextSequence })

theorem packetize_ok {packetizer after : ProtectedMediaPacketizer} {frame : SealedGroupMediaFrame}
    {prepared : PreparedProtectedFrame} (cut : packetizer.packetize frame = .ok (after, prepared)) :
    packetizer.binding.accepts frame.binding = true ∧ Packetizable frame.data ∧
      prepared.packets = sentPackets frame.data (packetizeMeta frame.binding packetizer.nextSequence) := by
  unfold packetize at cut
  split at cut
  · cases cut
  case isFalse accepted =>
    split at cut
    · cases cut
    case h_2 packets made =>
      cases cut
      exact ⟨by simpa using accepted, fits_of_packetizeFrame made⟩

end ProtectedMediaPacketizer

end ClassMesh
