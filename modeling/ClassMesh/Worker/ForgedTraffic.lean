import ClassMesh.Network.ProtectedMedia
import ClassMesh.Network.ReceiverSafety
import ClassMesh.Worker.GroupPlayback

namespace ClassMesh

open Std Foundation ProtectedMediaReceiveState ReceiverWindow Playback ProtectedMediaPacketizer

variable {S : Sframe}

/-- A sealed frame that the Teacher has cut into packets. -/
structure GenuineFrame (S : Sframe) where
  sealing : Sealing S
  packetizer : ProtectedMediaPacketizer
  after : ProtectedMediaPacketizer
  prepared : PreparedProtectedFrame
  cut : packetizer.packetize sealing.frame = .ok (after, prepared)

namespace GenuineFrame

def frameId (frame : GenuineFrame S) : UInt64 := frame.sealing.frame.binding.frameId

def info (frame : GenuineFrame S) : PacketizeMeta :=
  packetizeMeta frame.sealing.frame.binding frame.packetizer.nextSequence

variable {frame : GenuineFrame S} {packet : MediaPacket}

theorem packet_frameId (sent : packet ∈ frame.prepared.packets) : packet.header.frameId = frame.frameId := by
  obtain ⟨_, _, packets⟩ := packetize_ok frame.cut
  rw [packets] at sent
  obtain ⟨_, _, rfl⟩ := mem_sentPackets_iff.mp sent
  rfl

/-- The receiver refuses no packet of a frame for its stream. -/
theorem refusal_eq_none {state : ProtectedMediaReceiveState} {source : SocketAddr}
    (sent : packet ∈ sentPackets frame.sealing.frame.data frame.info) (fromSender : source.ip = state.expectedSender)
    (sameMajor : state.protocolMajor = mediaProtocolMajor) (sameMinor : state.protocolMinor = mediaProtocolMinor)
    (sameStream : frame.sealing.frame.binding.streamId = state.streamId) : state.refusal packet source = none := by
  obtain ⟨_, fits, _⟩ := packetize_ok frame.cut
  obtain ⟨index, _, rfl⟩ := mem_sentPackets_iff.mp sent
  obtain ⟨_, noRetransmit, noFec⟩ := packetFlags_contains frame.info.keyframe
    (packetAt frame.sealing.frame.data frame.info index).header.packetIndex
    (packetAt frame.sealing.frame.data frame.info index).header.packetCount
  have few : packetCountOf frame.sealing.frame.data ≤ maxPackets :=
    Nat.div_le_div_right (Nat.add_le_add_right frame.sealing.spec.2.2.1 _)
  have count := packetAt_packetCount fits frame.info index
  have version : ¬((packetAt frame.sealing.frame.data frame.info index).header.protocolMajor ≠ state.protocolMajor ∨
      (packetAt frame.sealing.frame.data frame.info index).header.protocolMinor ≠ state.protocolMinor) := by
    rw [sameMajor, sameMinor]
    exact not_or.mpr ⟨not_not.mpr rfl, not_not.mpr rfl⟩
  have stream : ¬(packetAt frame.sealing.frame.data frame.info index).header.streamId ≠ state.streamId :=
    not_not.mpr sameStream
  unfold refusal
  rw [if_neg (not_not.mpr fromSender), if_neg version, if_neg stream, if_neg (by rw [count]; omega)]
  simp only [packetAt] at noRetransmit noFec ⊢
  simp only [noRetransmit, noFec, Bool.false_eq_true, if_false]

end GenuineFrame

/-- Nothing but packets of the given frames after the time of the last forged packet. -/
def ReceiveInput.GenuineAfter (earlier : List (GenuineFrame S)) (lastForgedUs : Nat) : ReceiveInput → Prop
  | .pushPacket nowUs packet _ => nowUs ≤ lastForgedUs ∨ ∃ old ∈ earlier, packet ∈ old.prepared.packets
  | .tick _ => True

/-- The packets of the frame, one after another from the expected sender, before its own drop deadline. -/
structure PlaybackBlock (frame : GenuineFrame S) (sender : IpAddr) (policy : ReceiverPolicy) (startUs : Nat)
    (inputs : List ReceiveInput) : Prop where
  fromSender : ∀ nowUs packet source, .pushPacket nowUs packet source ∈ inputs → source.ip = sender
  packets : FrameBlock frame.sealing.frame.data frame.info policy startUs (inputs.map (·.forward))

section

variable {accepted : S.Replay → S.Counter → Prop} {position : S.Counter → Nat}
  {install : SensitivePresentationKeyInstall} {sender : IpAddr} {streamId : UInt32}
  {receive : ProtectedMediaReceiveState} {keys : WorkerGroupMediaKeyState S} {frame : GenuineFrame S}
  {earlier : List (GenuineFrame S)} {lastForgedUs startUs : Nat} {inputs : List ReceiveInput}

/-- The receiver as `new` makes it. -/
theorem ProtectedMediaReceiveState.new_ok (made : new sender streamId = some (.ok receive)) :
    receive =
      { expectedSender := sender
        streamId := streamId
        receiver := { policy := {} }
        protocolMajor := mediaProtocolMajor
        protocolMinor := mediaProtocolMinor } := by
  unfold new at made
  split at made
  · cases made
  · cases made
    rfl

theorem notAfter_of_genuineAfter {input : ReceiveInput} (newest : ∀ old ∈ earlier, old.frameId < frame.frameId)
    (traffic : input.GenuineAfter earlier lastForgedUs) : input.NotAfter frame.frameId lastForgedUs := by
  cases input with
  | tick => trivial
  | pushPacket =>
    intro own
    rcases traffic with early | ⟨old, listed, sent⟩
    · exact early
    · have older := newest old listed
      rw [← GenuineFrame.packet_frameId sent, own] at older
      exact absurd older (UInt64.lt_irrefl _)

theorem PlaybackBlock.forwarded {policy : ReceiverPolicy} (block : PlaybackBlock frame sender policy startUs inputs)
    (made : new sender streamId = some (.ok receive)) (sameStream : frame.sealing.frame.binding.streamId = streamId) :
    ∀ input ∈ inputs, receive.windowInput input = some input.forward := by
  intro input member
  cases input with
  | tick => rfl
  | pushPacket nowUs packet source =>
    obtain ⟨sent, _⟩ := block.packets.parts _ (List.mem_map_of_mem member)
    have start := new_ok made
    have passes : receive.refusal packet source = none := GenuineFrame.refusal_eq_none sent
      (by rw [start]; exact block.fromSender _ _ _ member) (by rw [start]) (by rw [start])
      (by rw [start]; exact sameStream)
    simp only [windowInput, passes, ReceiveInput.forward]

end

section Sample

def sampleFrame : GenuineFrame (ledgerSframe sampleLedger) where
  sealing := sampleSealing
  packetizer := { binding := ⟨55, 7, sampleEpoch⟩ }
  after := { binding := ⟨55, 7, sampleEpoch⟩, nextSequence := 1 }
  prepared := ⟨sentPackets (u64ToBe 0 ++ [1, 2]) (packetizeMeta sampleBinding 0), 0, 1⟩
  cut := rfl

def sampleInstall : SensitivePresentationKeyInstall := ⟨⟨1, 2, 55, 7, 3⟩, sampleMaterial⟩

/-- A Worker that has the key and has received nothing yet. -/
def samplePlayback : Playback (ledgerSframe sampleLedger) where
  receive := ⟨.v4 10, 7, { policy := {} }, mediaProtocolMajor, mediaProtocolMinor, {}⟩
  keys := (WorkerGroupMediaKeyState.install {} sampleInstall).1

def samplePackets (nowUs : Nat) : List ReceiveInput :=
  sampleFrame.prepared.packets.map fun packet => .pushPacket nowUs packet ⟨.v4 10, 5000⟩

theorem samplePackets_block : PlaybackBlock sampleFrame (.v4 10) {} 80001 (samplePackets 80001) where
  fromSender := by
    intro nowUs packet source member
    obtain ⟨_, _, same⟩ := List.mem_map.mp member
    cases same
    rfl
  packets := by
    refine ⟨⟨packetAt (u64ToBe 0 ++ [1, 2]) sampleFrame.info 0, ?_, rfl⟩, ?_, ?_⟩
    · exact mem_sentPackets_iff.mpr ⟨0, by decide, rfl⟩
    · intro input member
      obtain ⟨_, listed, rfl⟩ := List.mem_map.mp member
      obtain ⟨_, sent, rfl⟩ := List.mem_map.mp listed
      exact ⟨sent, by decide⟩
    · intro packet sent
      exact ⟨80001, List.mem_map_of_mem (List.mem_map_of_mem sent)⟩

end Sample

end ClassMesh
