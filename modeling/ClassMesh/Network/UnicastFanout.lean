import ClassMesh.Foundation.Grouping
import ClassMesh.Network.FrameSender
import ClassMesh.Network.ProtectedMedia
import ClassMesh.Network.SocketAddr

namespace ClassMesh

open Std Foundation

/-- The errors of a sender, of which most are those of the code that it shares with the other senders. -/
inductive ProtectedUnicastSendError
  | invalidDestination
  | invalidPort
  | invalidPresentationId
  | invalidStreamId
  | core (error : ProtectedMediaCoreError)
deriving DecidableEq

structure ProtectedUnicastSenderConfig where
  destination : SocketAddr
  presentationId : UInt64
  streamId : UInt32
  epoch : GroupMediaEpoch
deriving DecidableEq

def ProtectedUnicastSenderConfig.protectedBinding (config : ProtectedUnicastSenderConfig) : ProtectedMediaBinding :=
  ⟨config.presentationId, config.streamId, config.epoch⟩

structure ProtectedUnicastBackpressureDrop where
  frameId : UInt64
  packetsSent : Nat
  packetsTotal : Nat
deriving DecidableEq

inductive ProtectedUnicastTrySendOutcome
  | sent (report : Transport.SendFrameReport)
  | droppedBackpressure (drop : ProtectedUnicastBackpressureDrop)
deriving DecidableEq

/-- What a socket makes of a datagram. -/
inductive SocketOutcome
  | written (bytes : Nat)
  | wouldBlock
  | failed
deriving DecidableEq

/-- The loop over the packets of a frame. The socket is given by what it does with each of them, in order. -/
def trySendPackets (frame : SealedGroupMediaFrame) (prepared : PreparedProtectedFrame) (socket : Nat → SocketOutcome) :
    List MediaPacket → Nat → Except ProtectedMediaCoreError ProtectedUnicastTrySendOutcome
  | [], _ => .ok (.sent ⟨frame.binding.frameId, prepared.packets.length, frame.data.length, prepared.firstSequence,
      prepared.nextSequence⟩)
  | packet :: rest, packetsSent =>
    match encodeDatagram packet with
    | .error error => .error (.datagram error)
    | .ok _ =>
      match socket packetsSent with
      | .written bytes =>
        if bytes = mediaHeaderLen + packet.payload.length then
          trySendPackets frame prepared socket rest (packetsSent + 1)
        else .error .shortDatagramWrite
      | .wouldBlock => .ok (.droppedBackpressure ⟨frame.binding.frameId, packetsSent, prepared.packets.length⟩)
      | .failed => .error (.datagram .io)

structure ProtectedUnicastFrameSender where
  config : ProtectedUnicastSenderConfig
  packetizer : ProtectedMediaPacketizer
deriving DecidableEq

def ProtectedUnicastFrameSender.trySendFrame (sender : ProtectedUnicastFrameSender) (frame : SealedGroupMediaFrame)
    (socket : Nat → SocketOutcome) :
    ProtectedUnicastFrameSender × Except ProtectedUnicastSendError ProtectedUnicastTrySendOutcome :=
  match sender.packetizer.packetize frame with
  | .error error => (sender, .error (.core error))
  | .ok (packetizer, prepared) =>
    ({ sender with packetizer := packetizer }, (trySendPackets frame prepared socket prepared.packets 0).mapError .core)

structure ProtectedUnicastFanoutEntry where
  sink : SinkId
  sender : ProtectedUnicastFrameSender
  config : ProtectedUnicastSenderConfig
deriving DecidableEq

inductive ProtectedUnicastFanoutError
  | bindingMismatch
  | distributor (error : DistributorError)
  | sender (error : ProtectedUnicastSendError)
  | seal (error : ProtectedUnicastSendError)
deriving DecidableEq

inductive ProtectedUnicastFanoutDelivery
  | sent (sinkId : SinkId) (report : Transport.SendFrameReport)
  | droppedBackpressure (sinkId : SinkId) (drop : ProtectedUnicastBackpressureDrop)
  | failed (sinkId : SinkId) (error : ProtectedUnicastSendError)
deriving DecidableEq

def ProtectedUnicastFanoutDelivery.sinkId : ProtectedUnicastFanoutDelivery → SinkId
  | sent id _ | droppedBackpressure id _ | failed id _ => id

/-- Every entry is under the id of its own sink, and all of them send for the one binding of the fan-out. -/
structure ProtectedUnicastFanout where
  entries : BTreeMap SinkId ProtectedUnicastFanoutEntry := ∅
  binding : Option ProtectedMediaBinding := none
  own : ∀ (id : SinkId) (entry : ProtectedUnicastFanoutEntry), entries[id]? = some entry → entry.sink = id := by simp
  bound : ∀ (id : SinkId) (entry : ProtectedUnicastFanoutEntry), entries[id]? = some entry →
    binding = some entry.config.protectedBinding := by simp

namespace ProtectedUnicastFanout

/-- The attachment of a sink, with the outcome of the bind of its socket. -/
def attach (fanout : ProtectedUnicastFanout) (distributor : FrameDistributor) (sinkId : SinkId)
    (config : ProtectedUnicastSenderConfig) (capacity : Nat) (bound : Except ProtectedUnicastSendError Unit) :
    ProtectedUnicastFanout × FrameDistributor × Except ProtectedUnicastFanoutError Unit :=
  let binding := config.protectedBinding
  if other : fanout.binding.any (· ≠ binding) then (fanout, distributor, .error .bindingMismatch)
  else if fanout.entries.contains sinkId then (fanout, distributor, .error (.distributor .duplicateSink))
  else
    match bound with
    | .error error => (fanout, distributor, .error (.sender error))
    | .ok () =>
      match distributor.addSink sinkId .unicast capacity with
      | (distributor, .error error) => (fanout, distributor, .error (.distributor error))
      | (distributor, .ok ()) =>
        let entry : ProtectedUnicastFanoutEntry := ⟨sinkId, ⟨config, { binding := binding }⟩, config⟩
        ({ entries := fanout.entries.insert sinkId entry
           binding := some binding
           own := by
            intro id held stored
            rcases BTreeMap.getElem?_insert_cases stored with ⟨rfl, rfl⟩ | ⟨_, old⟩
            · rfl
            · exact fanout.own id held old
           bound := by
            intro id held stored
            rcases BTreeMap.getElem?_insert_cases stored with ⟨rfl, rfl⟩ | ⟨_, old⟩
            · rfl
            · have before := fanout.bound id held old
              rw [before] at other
              simp only [Option.any_some, decide_eq_true_eq, not_not] at other
              rw [other] }, distributor, .ok ())

/-- The same entry with another state of its sender. -/
def setSender (fanout : ProtectedUnicastFanout) (id : SinkId) (entry : ProtectedUnicastFanoutEntry)
    (stored : fanout.entries[id]? = some entry) (sender : ProtectedUnicastFrameSender) : ProtectedUnicastFanout where
  entries := fanout.entries.insert id { entry with sender := sender }
  binding := fanout.binding
  own := by
    intro key held found
    rcases BTreeMap.getElem?_insert_cases found with ⟨rfl, rfl⟩ | ⟨_, old⟩
    · exact fanout.own key entry stored
    · exact fanout.own key held old
  bound := by
    intro key held found
    rcases BTreeMap.getElem?_insert_cases found with ⟨rfl, rfl⟩ | ⟨_, old⟩
    · exact fanout.bound key entry stored
    · exact fanout.bound key held old

end ProtectedUnicastFanout

def protectSharedH264Frame {S : Sframe} (binding : ProtectedMediaBinding) (coordinator : GroupMediaCoordinator S)
    (authorization : AuthorizationStore) (frame : SharedEncodedFrame) :
    GroupMediaCoordinator S × Except ProtectedMediaCoreError SealedGroupMediaFrame :=
  if frame.codec ≠ .h264 then (coordinator, .error .unsupportedCodec)
  else
    match GroupMediaFrameBinding.new binding.presentationId binding.streamId binding.epoch frame.info.frameId
        frame.info.timestampUs frame.info.keyframe with
    | .error error => (coordinator, .error (.security error))
    | .ok frameBinding =>
      let (after, result) := coordinator.sealBoundFrame authorization frame.data frameBinding
      (after, result.mapError .coordinator)

def sealSharedH264FrameForUnicast {S : Sframe} (config : ProtectedUnicastSenderConfig)
    (coordinator : GroupMediaCoordinator S) (authorization : AuthorizationStore) (frame : SharedEncodedFrame) :
    GroupMediaCoordinator S × Except ProtectedUnicastSendError SealedGroupMediaFrame :=
  let (after, result) := protectSharedH264Frame config.protectedBinding coordinator authorization frame
  (after, result.mapError .core)

/-- Equal metadata and one allocation, which `Arc::ptr_eq` compares. -/
def SameShared (first second : SharedEncodedFrame) : Prop :=
  first.codec = second.codec ∧ first.info = second.info ∧ first.allocation = second.allocation

instance : DecidableRel SameShared := fun _ _ => inferInstanceAs (Decidable (_ ∧ _ ∧ _))

/-- What a drain works on, with the frames that the last one has sealed and what it has handed to the senders. -/
structure FanoutState (S : Sframe) where
  fanout : ProtectedUnicastFanout
  distributor : FrameDistributor
  coordinator : GroupMediaCoordinator S
  seals : List (SharedEncodedFrame × Except ProtectedUnicastSendError SealedGroupMediaFrame) := []
  handed : List (SinkId × SealedGroupMediaFrame) := []

section Drain

variable {S : Sframe}

/-- The first loop of a drain takes a frame from each sink and groups the sinks by it. -/
def takeFrames : List (SinkId × ProtectedUnicastFanoutEntry) → FrameDistributor →
    List (SharedEncodedFrame × List SinkId) → FrameDistributor × List (SharedEncodedFrame × List SinkId)
  | [], distributor, gathered => (distributor, gathered)
  | (sinkId, entry) :: rest, distributor, gathered =>
    match distributor.popNextDecodable entry.sink with
    | (distributor, none) => takeFrames rest distributor gathered
    | (distributor, some frame) => takeFrames rest distributor (joinGroup SameShared gathered (sinkId, frame))

variable (authorization : AuthorizationStore) (sockets : SinkId → Nat → SocketOutcome)

def deliverOne (state : FanoutState S) (sealed : SealedGroupMediaFrame) (sinkId : SinkId) :
    FanoutState S × Option ProtectedUnicastFanoutDelivery :=
  match stored : state.fanout.entries[sinkId]? with
  -- a group has registered sinks only
  | none => (state, none)
  | some entry =>
    let (sender, result) := entry.sender.trySendFrame sealed (sockets sinkId)
    let delivery := match result with
      | .ok (.sent report) => .sent sinkId report
      | .ok (.droppedBackpressure drop) => .droppedBackpressure sinkId drop
      | .error error => .failed sinkId error
    ({ state with
        fanout := state.fanout.setSender sinkId entry stored sender
        handed := state.handed ++ [(sinkId, sealed)] }, some delivery)

def deliverAll (sealed : SealedGroupMediaFrame) : List SinkId → FanoutState S → List ProtectedUnicastFanoutDelivery →
    FanoutState S × List ProtectedUnicastFanoutDelivery
  | [], state, deliveries => (state, deliveries)
  | sinkId :: rest, state, deliveries =>
    let (state, delivery) := deliverOne sockets state sealed sinkId
    deliverAll sealed rest state (deliveries ++ delivery.toList)

/-- The configuration that a group is sealed with: that of its first sink. -/
def groupConfig (fanout : ProtectedUnicastFanout) (sinkIds : List SinkId) : Option ProtectedUnicastSenderConfig :=
  sinkIds.head?.bind fun sinkId => fanout.entries[sinkId]?.map (·.config)

/-- The second loop of a drain. -/
def deliverGroups : List (SharedEncodedFrame × List SinkId) → FanoutState S → List ProtectedUnicastFanoutDelivery →
    FanoutState S × Except ProtectedUnicastFanoutError (List ProtectedUnicastFanoutDelivery)
  | [], state, deliveries => (state, .ok deliveries)
  | (frame, sinkIds) :: rest, state, deliveries =>
    match groupConfig state.fanout sinkIds with
    | none => deliverGroups rest state deliveries
    | some config =>
      match sealSharedH264FrameForUnicast config state.coordinator authorization frame with
      | (coordinator, .error error) =>
        ({ state with coordinator := coordinator, seals := state.seals ++ [(frame, .error error)] },
          .error (.seal error))
      | (coordinator, .ok sealed) =>
        let state := { state with coordinator := coordinator, seals := state.seals ++ [(frame, .ok sealed)] }
        let (state, deliveries) := deliverAll sockets sealed sinkIds state deliveries
        deliverGroups rest state deliveries

def ProtectedUnicastFanout.drain (state : FanoutState S) :
    FanoutState S × Except ProtectedUnicastFanoutError (List ProtectedUnicastFanoutDelivery) :=
  let (distributor, gathered) := takeFrames state.fanout.entries.toList state.distributor []
  deliverGroups authorization sockets gathered { state with distributor := distributor, seals := [], handed := [] } []

end Drain

end ClassMesh
