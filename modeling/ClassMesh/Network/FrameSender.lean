import ClassMesh.Network.MediaPacket
import ClassMesh.Video.FrameDistributor

namespace ClassMesh

open Foundation

inductive UdpSendError
  | datagram (error : DatagramError)
  | packetize (error : PacketizeError)
  | unsupportedCodec
  | protocolVersionOutOfRange
deriving DecidableEq

/-- The packets of one frame, as they leave the sender. -/
structure SentFrame where
  data : List UInt8
  info : PacketizeMeta
  packets : List MediaPacket

/-- The part of `UdpFrameSender` that decides what is sent: the stream and the next sequence number. The socket never
fails here, and the retransmission cache and the statistics, which only record, are left to `Transport.UdpFrameSender`,
which refines this one. -/
structure SequencedSender where
  streamId : UInt32
  nextSequence : UInt32 := 0
deriving DecidableEq

namespace SequencedSender

def sendFrame (sender : SequencedSender) (frame : SharedEncodedFrame) :
    Except UdpSendError (SequencedSender × SentFrame) :=
  if frame.codec ≠ .h264 then .error .unsupportedCodec
  else
    let info : PacketizeMeta :=
      { protocolMajor := mediaProtocolMajor
        protocolMinor := mediaProtocolMinor
        streamId := sender.streamId
        frameId := frame.info.frameId
        firstSequence := sender.nextSequence
        timestampUs := frame.info.timestampUs
        keyframe := frame.info.keyframe }
    match packetizeFrame frame.data info with
    | .error error => .error (.packetize error)
    | .ok packets =>
      .ok ({ sender with nextSequence := sender.nextSequence + UInt32.ofNat packets.length },
        ⟨frame.data, info, packets⟩)

def sendFrames (sender : SequencedSender) : List SharedEncodedFrame →
    Except UdpSendError (SequencedSender × List SentFrame)
  | [] => .ok (sender, [])
  | frame :: rest =>
    match sender.sendFrame frame with
    | .error error => .error error
    | .ok (sender, sent) =>
      match sender.sendFrames rest with
      | .error error => .error error
      | .ok (sender, later) => .ok (sender, sent :: later)

end SequencedSender

structure CachedPacket where
  storedAtUs : Nat
  packet : MediaPacket

structure RetransmitCache where
  entries : List CachedPacket := []
  maxPackets : Nat
  maxAgeUs : Nat

namespace RetransmitCache

variable (cache : RetransmitCache)

/-- A cache without room is a panic. -/
def new (maxPackets maxAgeUs : Nat) : Option RetransmitCache :=
  if 0 < maxPackets then some { maxPackets := maxPackets, maxAgeUs := maxAgeUs } else none

def prune (nowUs : Nat) : RetransmitCache :=
  { cache with entries := cache.entries.dropWhile fun entry => cache.maxAgeUs < nowUs - entry.storedAtUs }

/-- The loop of the code takes entries from the front until one more fits. -/
def insert (nowUs : Nat) (packet : MediaPacket) : RetransmitCache :=
  let kept := (cache.prune nowUs).entries
  { cache with entries := kept.drop (kept.length + 1 - cache.maxPackets) ++ [⟨nowUs, packet⟩] }

def find (frameId : UInt64) (packetIndex : UInt16) : Option MediaPacket :=
  (cache.entries.reverse.find? fun entry =>
    entry.packet.header.frameId = frameId ∧ entry.packet.header.packetIndex = packetIndex).map (·.packet)

def insertAll (nowUs : Nat) (packets : List MediaPacket) : RetransmitCache :=
  packets.foldl (fun current packet => current.insert nowUs packet) cache

variable {cache : RetransmitCache} {entry : CachedPacket}

theorem mem_prune {nowUs : Nat} (member : entry ∈ (cache.prune nowUs).entries) : entry ∈ cache.entries :=
  (List.dropWhile_suffix _).subset member

theorem mem_insertAll {nowUs : Nat} {packets : List MediaPacket}
    (member : entry ∈ (cache.insertAll nowUs packets).entries) : entry ∈ cache.entries ∨ entry.packet ∈ packets := by
  induction packets generalizing cache with
  | nil => exact .inl member
  | cons packet rest ih =>
    rcases ih member with inserted | later
    · rcases List.mem_append.mp inserted with old | new
      · exact .inl (mem_prune (List.mem_of_mem_drop old))
      · rw [List.mem_singleton.mp new]
        exact .inr List.mem_cons_self
    · exact .inr (List.mem_cons_of_mem _ later)

theorem find_mem {frameId : UInt64} {packetIndex : UInt16} {packet : MediaPacket}
    (found : cache.find frameId packetIndex = some packet) : ∃ entry ∈ cache.entries, entry.packet = packet := by
  obtain ⟨entry, first, same⟩ := Option.map_eq_some_iff.mp found
  exact ⟨entry, List.mem_reverse.mp (List.mem_of_find?_eq_some first), same⟩

end RetransmitCache

structure UdpSenderConfig where
  streamId : UInt32
  retransmitMaxPackets : Nat := 2048
  retransmitMaxAgeUs : Nat := 250000

structure UdpSenderStats where
  framesSent : UInt64 := 0
  packetsSent : UInt64 := 0
  payloadBytesSent : UInt64 := 0
  retransmitPacketsSent : UInt64 := 0
  retransmitCacheMisses : UInt64 := 0

namespace Transport

/-! The sender with its socket, its cache and its statistics. -/

structure SendFrameReport where
  frameId : UInt64
  packets : Nat
  payloadBytes : Nat
  firstSequence : UInt32
  nextSequence : UInt32
deriving DecidableEq

structure UdpFrameSender where
  config : UdpSenderConfig
  nextSequence : UInt32 := 0
  retransmit : RetransmitCache
  stats : UdpSenderStats := {}

/-- Hand one packet to a socket that takes the datagram or fails. -/
def sendPacketTo (takes : Bool) (packet : MediaPacket) : Except DatagramError Unit :=
  match encodeDatagram packet with
  | .error error => .error error
  | .ok _ => if takes then .ok () else .error .io

namespace UdpFrameSender

/-! A call is given what the socket does with each datagram it is handed, in order, and gives back the packets that the
socket took. -/

def new (config : UdpSenderConfig) : Option UdpFrameSender :=
  (RetransmitCache.new config.retransmitMaxPackets config.retransmitMaxAgeUs).map fun cache =>
    { config := config, retransmit := cache }

def frameMeta (sender : UdpFrameSender) (frame : SharedEncodedFrame) : PacketizeMeta where
  protocolMajor := mediaProtocolMajor
  protocolMinor := mediaProtocolMinor
  streamId := sender.config.streamId
  frameId := frame.info.frameId
  firstSequence := sender.nextSequence
  timestampUs := frame.info.timestampUs
  keyframe := frame.info.keyframe

/-- The loop of `send_frame`: every packet that was sent goes to the cache, and the first failure ends the loop. -/
def sendPackets (nowUs : Nat) : List MediaPacket → (Nat → Bool) → RetransmitCache →
    RetransmitCache × List MediaPacket × Except DatagramError Unit
  | [], _, cache => (cache, [], .ok ())
  | packet :: rest, socket, cache =>
    match sendPacketTo (socket 0) packet with
    | .error error => (cache, [], .error error)
    | .ok () =>
      let (after, sent, result) :=
        sendPackets nowUs rest (fun turn => socket (turn + 1)) (cache.insert nowUs packet)
      (after, packet :: sent, result)

def sendFrame (sender : UdpFrameSender) (nowUs : Nat) (frame : SharedEncodedFrame) (socket : Nat → Bool) :
    UdpFrameSender × List MediaPacket × Except UdpSendError SendFrameReport :=
  if frame.codec ≠ .h264 then (sender, [], .error .unsupportedCodec)
  else
    match packetizeFrame frame.data (sender.frameMeta frame) with
    | .error error => (sender, [], .error (.packetize error))
    | .ok packets =>
      match sendPackets nowUs packets socket sender.retransmit with
      | (cache, sent, .error error) => ({ sender with retransmit := cache }, sent, .error (.datagram error))
      | (cache, sent, .ok ()) =>
        let nextSequence := sender.nextSequence + UInt32.ofNat (min packets.length (UInt32.size - 1))
        ({ sender with
            nextSequence := nextSequence
            retransmit := cache
            stats := { sender.stats with
              framesSent := saturatingAdd sender.stats.framesSent 1
              packetsSent := saturatingAdd sender.stats.packetsSent packets.length
              payloadBytesSent := saturatingAdd sender.stats.payloadBytesSent frame.data.length } },
          sent, .ok ⟨frame.info.frameId, packets.length, frame.data.length, sender.nextSequence, nextSequence⟩)

/-- The loop of `retransmit_missing`: what the cache has lost is counted and passed over. -/
def resend (cache : RetransmitCache) (frameId : UInt64) : List UInt16 → (Nat → Bool) → UdpSenderStats →
    UdpSenderStats × List MediaPacket × Except DatagramError Unit
  | [], _, stats => (stats, [], .ok ())
  | packetIndex :: rest, socket, stats =>
    match cache.find frameId packetIndex with
    | none =>
      resend cache frameId rest socket
        { stats with retransmitCacheMisses := saturatingAdd stats.retransmitCacheMisses 1 }
    | some packet =>
      match sendPacketTo (socket 0) packet with
      | .error error => (stats, [], .error error)
      | .ok () =>
        let (after, sent, result) := resend cache frameId rest (fun turn => socket (turn + 1))
          { stats with retransmitPacketsSent := saturatingAdd stats.retransmitPacketsSent 1 }
        (after, packet :: sent, result)

def retransmitMissing (sender : UdpFrameSender) (nowUs : Nat) (frameId : UInt64) (missing : List UInt16)
    (socket : Nat → Bool) : UdpFrameSender × List MediaPacket × Except UdpSendError Nat :=
  let cache := sender.retransmit.prune nowUs
  match resend cache frameId missing socket sender.stats with
  | (stats, sent, .error error) =>
    ({ sender with retransmit := cache, stats := stats }, sent, .error (.datagram error))
  | (stats, sent, .ok ()) => ({ sender with retransmit := cache, stats := stats }, sent, .ok sent.length)

end UdpFrameSender

inductive SenderInput
  | sendFrame (nowUs : Nat) (frame : SharedEncodedFrame) (socket : Nat → Bool)
  | retransmitMissing (nowUs : Nat) (frameId : UInt64) (missing : List UInt16) (socket : Nat → Bool)

inductive SenderReply
  | frame (sent : List MediaPacket) (result : Except UdpSendError SendFrameReport)
  | retransmitted (sent : List MediaPacket) (result : Except UdpSendError Nat)

def UdpFrameSender.step (sender : UdpFrameSender) : SenderInput → UdpFrameSender × SenderReply
  | .sendFrame nowUs frame socket =>
    let (after, sent, result) := sender.sendFrame nowUs frame socket
    (after, .frame sent result)
  | .retransmitMissing nowUs frameId missing socket =>
    let (after, sent, result) := sender.retransmitMissing nowUs frameId missing socket
    (after, .retransmitted sent result)

namespace UdpFrameSender

variable {sender after : UdpFrameSender} {nowUs : Nat} {frame : SharedEncodedFrame} {socket : Nat → Bool}
  {info : PacketizeMeta} {packets sent : List MediaPacket} {data : List UInt8}
  {result : Except UdpSendError SendFrameReport}

/-- The packets sent are the first ones, and they alone are in the cache; the loop fails unless they are all. -/
theorem sendPackets_outcome (nowUs : Nat) (packets : List MediaPacket) (socket : Nat → Bool) (cache : RetransmitCache) :
    ∃ sent rest, packets = sent ++ rest ∧
      ((rest = [] ∧ sendPackets nowUs packets socket cache = (cache.insertAll nowUs sent, sent, .ok ())) ∨
        ∃ error, sendPackets nowUs packets socket cache = (cache.insertAll nowUs sent, sent, .error error)) := by
  induction packets generalizing socket cache with
  | nil => exact ⟨[], [], rfl, .inl ⟨rfl, rfl⟩⟩
  | cons packet rest ih =>
    cases handed : sendPacketTo (socket 0) packet with
    | error error => exact ⟨[], packet :: rest, rfl, .inr ⟨error, by simp only [sendPackets, handed]; rfl⟩⟩
    | ok =>
      obtain ⟨sent, unsent, rfl, outcome⟩ := ih (fun turn => socket (turn + 1)) (cache.insert nowUs packet)
      refine ⟨packet :: sent, unsent, rfl, ?_⟩
      rcases outcome with ⟨none, all⟩ | ⟨error, some⟩
      · exact .inl ⟨none, by simp only [sendPackets, handed, all]; rfl⟩
      · exact .inr ⟨error, by simp only [sendPackets, handed, some]; rfl⟩

/-- Everything that a call to `send_frame` can do. -/
inductive SendOutcome (sender : UdpFrameSender) (nowUs : Nat) (frame : SharedEncodedFrame) :
    UdpFrameSender → List MediaPacket → Except UdpSendError SendFrameReport → Prop
  | refused (error : UdpSendError) : SendOutcome sender nowUs frame sender [] (.error error)
  | failed (sent rest : List MediaPacket) (error : UdpSendError) :
      packetizeFrame frame.data (sender.frameMeta frame) = .ok (sent ++ rest) →
      SendOutcome sender nowUs frame { sender with retransmit := sender.retransmit.insertAll nowUs sent } sent
        (.error error)
  | complete (sent : List MediaPacket) (stats : UdpSenderStats) (report : SendFrameReport) :
      packetizeFrame frame.data (sender.frameMeta frame) = .ok sent →
      SendOutcome sender nowUs frame
        { sender with
          nextSequence := sender.nextSequence + UInt32.ofNat sent.length
          retransmit := sender.retransmit.insertAll nowUs sent
          stats := stats } sent (.ok report)

theorem packets_few (cut : packetizeFrame data info = .ok packets) : packets.length < UInt16.size := by
  obtain ⟨fits, rfl⟩ := fits_of_packetizeFrame cut
  rw [List.length_map, List.length_range]
  exact packetCountOf_lt fits

theorem sendFrame_outcome (sender : UdpFrameSender) (nowUs : Nat) (frame : SharedEncodedFrame) (socket : Nat → Bool) :
    SendOutcome sender nowUs frame (sender.sendFrame nowUs frame socket).1 (sender.sendFrame nowUs frame socket).2.1
      (sender.sendFrame nowUs frame socket).2.2 := by
  unfold sendFrame
  split
  · exact .refused _
  · cases cut : packetizeFrame frame.data (sender.frameMeta frame) with
    | error => exact .refused _
    | ok packets =>
      obtain ⟨sent, rest, rfl, outcome⟩ := sendPackets_outcome nowUs packets socket sender.retransmit
      rcases outcome with ⟨rfl, all⟩ | ⟨_, some⟩
      · have few := packets_few cut
        have narrow : min sent.length (UInt32.size - 1) = sent.length := by
          simp only [List.append_nil, UInt16.size, UInt32.size] at few ⊢
          omega
        simp only [List.append_nil] at all cut ⊢
        simp only [all, narrow]
        exact .complete sent _ _ cut
      · simp only [some]
        exact .failed sent rest _ cut

theorem packetized_sequences {rest : List MediaPacket} (cut : packetizeFrame data info = .ok (sent ++ rest)) :
    sent.map (·.header.sequence) = (List.range sent.length).map fun index =>
      info.firstSequence + UInt32.ofNat index := by
  obtain ⟨_, whole⟩ := fits_of_packetizeFrame cut
  have front : sent = (List.range sent.length).map (packetAt data info) := by
    have taken := congrArg (List.take sent.length) whole
    rw [List.take_left, ← List.map_take, List.take_range] at taken
    have length := congrArg List.length whole
    rw [List.length_append, List.length_map, List.length_range] at length
    rwa [min_eq_left (by omega)] at taken
  rw [front, List.map_map, List.length_map, List.length_range]
  rfl

/-- What was sent is numbered from the counter on. -/
theorem SendOutcome.sequences (outcome : SendOutcome sender nowUs frame after sent result) :
    sent.map (·.header.sequence) =
      (List.range sent.length).map fun index => sender.nextSequence + UInt32.ofNat index := by
  cases outcome with
  | refused => rfl
  | failed _ rest error cut => exact packetized_sequences cut
  | complete => exact packetized_sequences (by rwa [List.append_nil])

/-- The counter moves by what was sent, and only if that was the whole frame. -/
theorem SendOutcome.nextSequence (outcome : SendOutcome sender nowUs frame after sent result) :
    after.nextSequence = sender.nextSequence + UInt32.ofNat (if result.isOk then sent.length else 0) := by
  cases outcome with
  | refused | failed | complete => simp [Except.isOk, Except.toBool]

theorem SendOutcome.retransmit (outcome : SendOutcome sender nowUs frame after sent result) :
    after.retransmit = sender.retransmit.insertAll nowUs sent := by
  cases outcome with
  | refused | failed | complete => rfl

/-- Only packets of the cache are sent again. -/
theorem resend_sent {cache : RetransmitCache} {frameId : UInt64} (missing : List UInt16) (socket : Nat → Bool)
    (stats : UdpSenderStats) {packet : MediaPacket}
    (member : packet ∈ (resend cache frameId missing socket stats).2.1) :
    ∃ entry ∈ cache.entries, entry.packet = packet := by
  induction missing generalizing socket stats with
  | nil => cases member
  | cons packetIndex rest ih =>
    cases found : cache.find frameId packetIndex with
    | none =>
      simp only [resend, found] at member
      exact ih _ _ member
    | some cached =>
      simp only [resend, found] at member
      cases handed : sendPacketTo (socket 0) cached with
      | error =>
        simp only [handed] at member
        cases member
      | ok =>
        simp only [handed] at member
        rcases List.mem_cons.mp member with here | later
        · rw [here]
          exact RetransmitCache.find_mem found
        · exact ih _ _ later

/-- Sending again leaves the counter, and at most prunes the cache. -/
theorem retransmitMissing_outcome (sender : UdpFrameSender) (nowUs : Nat) (frameId : UInt64) (missing : List UInt16)
    (socket : Nat → Bool) :
    (sender.retransmitMissing nowUs frameId missing socket).1.nextSequence = sender.nextSequence ∧
      (sender.retransmitMissing nowUs frameId missing socket).1.retransmit = sender.retransmit.prune nowUs ∧
      (sender.retransmitMissing nowUs frameId missing socket).2.1 =
        (resend (sender.retransmit.prune nowUs) frameId missing socket sender.stats).2.1 := by
  simp only [retransmitMissing]
  rcases resend (sender.retransmit.prune nowUs) frameId missing socket sender.stats with ⟨_, _, _ | _⟩
  · exact ⟨rfl, rfl, rfl⟩
  · exact ⟨rfl, rfl, rfl⟩

/-- The part of the sender that decides what is sent. -/
def sending (sender : UdpFrameSender) : SequencedSender := ⟨sender.config.streamId, sender.nextSequence⟩

theorem sendPackets_all (nowUs : Nat) (packets : List MediaPacket) (cache : RetransmitCache)
    (formed : ∀ packet ∈ packets, packet.WellFormed) :
    sendPackets nowUs packets (fun _ => true) cache = (cache.insertAll nowUs packets, packets, .ok ()) := by
  induction packets generalizing cache with
  | nil => rfl
  | cons packet rest ih =>
    have handed : sendPacketTo true packet = .ok () := by
      rw [sendPacketTo, encodeDatagram_eq_ok (formed packet List.mem_cons_self)]
      rfl
    simp only [sendPackets, handed, ih _ fun other member => formed other (List.mem_cons_of_mem _ member)]
    rfl

theorem packetized_wellFormed (cut : packetizeFrame data info = .ok packets) :
    ∀ packet ∈ packets, packet.WellFormed := by
  obtain ⟨fits, rfl⟩ := fits_of_packetizeFrame cut
  intro packet member
  obtain ⟨_, within, rfl⟩ := List.mem_map.mp member
  exact packetAt_wellFormed fits info (List.mem_range.mp within)

/-- With a socket that never fails, the sender sends what that part decides. Neither the clock nor the retransmission
cache has a say in it. -/
theorem sendFrame_refines (sender : UdpFrameSender) (nowUs : Nat) (frame : SharedEncodedFrame) :
    (sender.sending.sendFrame frame).map (fun made => (made.1, made.2.packets)) =
      (sender.sendFrame nowUs frame fun _ => true).2.2.map fun _ =>
        ((sender.sendFrame nowUs frame fun _ => true).1.sending, (sender.sendFrame nowUs frame fun _ => true).2.1) := by
  unfold sendFrame SequencedSender.sendFrame
  by_cases codec : frame.codec ≠ .h264
  · simp only [if_pos codec]
    rfl
  · simp only [if_neg codec]
    have info : (⟨mediaProtocolMajor, mediaProtocolMinor, sender.sending.streamId, frame.info.frameId,
        sender.sending.nextSequence, frame.info.timestampUs, frame.info.keyframe⟩ : PacketizeMeta) =
          sender.frameMeta frame := rfl
    rw [info]
    cases cut : packetizeFrame frame.data (sender.frameMeta frame) with
    | error => rfl
    | ok packets =>
      have few := packets_few cut
      have narrow : min packets.length (UInt32.size - 1) = packets.length := by
        simp only [UInt16.size, UInt32.size] at few ⊢
        omega
      simp only [sendPackets_all nowUs packets sender.retransmit (packetized_wellFormed cut), narrow]
      rfl

end UdpFrameSender

end Transport

end ClassMesh
