import ClassMesh.Network.SocketAddr
import ClassMesh.Network.WindowRuns
import ClassMesh.Protocol.Feedback
import ClassMesh.Security.GroupMedia

namespace ClassMesh

open Foundation

inductive ProtectedMediaReceiveCoreError
  | invalidStreamId
  | protocolVersionOutOfRange
deriving DecidableEq

inductive ProtectedMediaPacketDropReason
  | malformedDatagram
  | unexpectedSource
  | unexpectedProtocolVersion
  | wrongStream
  | frameTooLarge
  | retransmitUnsupported
  | fecUnsupported
  | assembly (error : AssembleError)
deriving DecidableEq

structure ReceivedGroupMediaCiphertext where
  streamId : UInt32
  frameId : UInt64
  timestampUs : UInt64
  keyframe : Bool
  ciphertext : List UInt8
deriving DecidableEq

def ReceivedGroupMediaCiphertext.fromAssembled (frame : AssembledFrame) : ReceivedGroupMediaCiphertext :=
  ⟨frame.streamId, frame.frameId, frame.timestampUs, frame.keyframe, frame.data⟩

structure ProtectedMediaReceiveBatch where
  frames : List ReceivedGroupMediaCiphertext := []
  feedback : List FeedbackMessage := []
  droppedStaleFrames : Nat := 0
  droppedInvalidFrames : Nat := 0
deriving DecidableEq

namespace ProtectedMediaReceiveBatch

def add (batch : ProtectedMediaReceiveBatch) : ReceiverEvent → ProtectedMediaReceiveBatch
  | .frameReady frame =>
    if frame.data.length ≤ maxGroupMediaSealedBytes then
      { batch with frames := batch.frames ++ [.fromAssembled frame] }
    else { batch with droppedInvalidFrames := batch.droppedInvalidFrames + 1 }
  | .needNack streamId frameId missingPacketIndices =>
    let truncated := missingPacketIndices.take maxNackPacketIndices
    if truncated.isEmpty then batch
    else { batch with feedback := batch.feedback ++ [.nack streamId frameId truncated] }
  | .needKeyframe streamId afterFrameId =>
    { batch with feedback := batch.feedback ++ [.requestKeyframe streamId afterFrameId] }
  | .droppedStaleFrame _ _ => { batch with droppedStaleFrames := batch.droppedStaleFrames + 1 }

def fromReceiverEvents (events : List ReceiverEvent) : ProtectedMediaReceiveBatch := events.foldl add {}

end ProtectedMediaReceiveBatch

inductive ProtectedMediaReceiveOutcome
  | events (batch : ProtectedMediaReceiveBatch)
  | dropped (reason : ProtectedMediaPacketDropReason)
deriving DecidableEq

structure ProtectedMediaReceiveStats where
  candidateDatagrams : UInt64 := 0
  rejectedDatagrams : UInt64 := 0
  assembledCiphertextFrames : UInt64 := 0
  staleFramesDropped : UInt64 := 0
deriving DecidableEq

structure ProtectedMediaReceiveState where
  expectedSender : IpAddr
  streamId : UInt32
  receiver : ReceiverWindow
  protocolMajor : UInt8
  protocolMinor : UInt8
  stats : ProtectedMediaReceiveStats := {}

namespace ProtectedMediaReceiveState

variable (state : ProtectedMediaReceiveState)

def new (expectedSender : IpAddr) (streamId : UInt32) :
    Option (Except ProtectedMediaReceiveCoreError ProtectedMediaReceiveState) :=
  if streamId = 0 then some (.error .invalidStreamId)
  else (ReceiverWindow.new {}).map fun receiver => .ok
    { expectedSender := expectedSender
      streamId := streamId
      receiver := receiver
      protocolMajor := mediaProtocolMajor
      protocolMinor := mediaProtocolMinor }

def maxPackets : Nat := (maxGroupMediaSealedBytes + (maxPacketPayload - 1)) / maxPacketPayload

/-- The checks made before the packet reaches the reassembly window. -/
def refusal (packet : MediaPacket) (source : SocketAddr) : Option ProtectedMediaPacketDropReason :=
  if source.ip ≠ state.expectedSender then some .unexpectedSource
  else if packet.header.protocolMajor ≠ state.protocolMajor ∨ packet.header.protocolMinor ≠ state.protocolMinor then
    some .unexpectedProtocolVersion
  else if packet.header.streamId ≠ state.streamId then some .wrongStream
  else if maxPackets < packet.header.packetCount.toNat then some .frameTooLarge
  else if packet.header.flags.contains .retransmit then some .retransmitUnsupported
  else if packet.header.flags.contains .fec then some .fecUnsupported
  else none

def pushCheckedPacket (nowUs : Nat) (packet : MediaPacket) (source : SocketAddr) :
    Option (ProtectedMediaReceiveState × ProtectedMediaReceiveOutcome) :=
  match state.refusal packet source with
  | some reason => some (state, .dropped reason)
  | none =>
    match state.receiver.push nowUs packet with
    | none => none
    | some (receiver, .ok events) =>
      some ({ state with receiver := receiver }, .events (.fromReceiverEvents events))
    | some (receiver, .error error) => some ({ state with receiver := receiver }, .dropped (.assembly error))

def countBatch (batch : ProtectedMediaReceiveBatch) : ProtectedMediaReceiveState :=
  { state with stats :=
      { state.stats with
        assembledCiphertextFrames := saturatingAdd state.stats.assembledCiphertextFrames batch.frames.length
        staleFramesDropped := saturatingAdd state.stats.staleFramesDropped batch.droppedStaleFrames } }

def pushPacket (nowUs : Nat) (packet : MediaPacket) (source : SocketAddr) :
    Option (ProtectedMediaReceiveState × ProtectedMediaReceiveOutcome) :=
  match state.pushCheckedPacket nowUs packet source with
  | none => none
  | some (state, .dropped reason) =>
    some ({ state with stats :=
      { state.stats with rejectedDatagrams := saturatingAdd state.stats.rejectedDatagrams 1 } }, .dropped reason)
  | some (state, .events batch) =>
    some (({ state with stats :=
      { state.stats with candidateDatagrams := saturatingAdd state.stats.candidateDatagrams 1 } }).countBatch batch,
        .events batch)

def tick (nowUs : Nat) : Option (ProtectedMediaReceiveState × ProtectedMediaReceiveBatch) :=
  (state.receiver.tick nowUs).map fun result =>
    let batch := ProtectedMediaReceiveBatch.fromReceiverEvents result.2
    (({ state with receiver := result.1 }).countBatch batch, batch)

def droppedFrames : UInt64 := state.receiver.droppedFrames

end ProtectedMediaReceiveState

inductive ReceiveInput
  | pushPacket (nowUs : Nat) (packet : MediaPacket) (source : SocketAddr)
  | tick (nowUs : Nat)

def ProtectedMediaReceiveState.step (state : ProtectedMediaReceiveState) :
    ReceiveInput → Option (ProtectedMediaReceiveState × ProtectedMediaReceiveOutcome)
  | .pushPacket nowUs packet source => state.pushPacket nowUs packet source
  | .tick nowUs => (state.tick nowUs).map fun result => (result.1, .events result.2)

abbrev ReceiveCall := Call ProtectedMediaReceiveState ReceiveInput ProtectedMediaReceiveOutcome

def ReceiveInput.Valid : ReceiveInput → Prop
  | .pushPacket _ packet _ => packet.header.validate = .ok ()
  | .tick _ => True

instance ReceiveInput.decidableValid : DecidablePred ReceiveInput.Valid
  | .pushPacket _ packet _ => inferInstanceAs (Decidable (packet.header.validate = .ok ()))
  | .tick _ => isTrue trivial

namespace ProtectedMediaReceiveOutcome

/-- What the window's reply becomes. -/
def ofReply : WindowReply → ProtectedMediaReceiveOutcome
  | .ok reported => .events (.fromReceiverEvents reported)
  | .error error => .dropped (.assembly error)

def frames : ProtectedMediaReceiveOutcome → List ReceivedGroupMediaCiphertext
  | .events batch => batch.frames
  | .dropped _ => []

def feedback : ProtectedMediaReceiveOutcome → List FeedbackMessage
  | .events batch => batch.feedback
  | .dropped _ => []

def droppedStaleFrames : ProtectedMediaReceiveOutcome → Nat
  | .events batch => batch.droppedStaleFrames
  | .dropped _ => 0

end ProtectedMediaReceiveOutcome

namespace ProtectedMediaReceiveState

/-- The call that reaches the window, if the packet passes the checks. -/
def windowInput (state : ProtectedMediaReceiveState) : ReceiveInput → Option WindowInput
  | .pushPacket nowUs packet source =>
    match state.refusal packet source with
    | some _ => none
    | none => some (.push nowUs packet)
  | .tick nowUs => some (.tick nowUs)

/-- Everything that a call can do, up to the counters of datagrams and of assembled frames. -/
inductive StepOutcome (state : ProtectedMediaReceiveState) (input : ReceiveInput) :
    ProtectedMediaReceiveState → ProtectedMediaReceiveOutcome → Prop
  | refused {reason stats} : state.windowInput input = none →
      stats.staleFramesDropped = state.stats.staleFramesDropped → (∀ error, reason ≠ .assembly error) →
      StepOutcome state input { state with stats := stats } (.dropped reason)
  | forwarded {forward window reply stats} : state.windowInput input = some forward →
      Partial ReceiverWindow.step state.receiver forward reply window →
      stats.staleFramesDropped = saturatingAdd state.stats.staleFramesDropped
        (ProtectedMediaReceiveOutcome.ofReply reply).droppedStaleFrames →
      StepOutcome state input { state with receiver := window, stats := stats } (.ofReply reply)

variable {state after : ProtectedMediaReceiveState} {input : ReceiveInput} {reply : ProtectedMediaReceiveOutcome}
  {forward : WindowInput}

theorem refusal_ne_assembly {packet : MediaPacket} {source : SocketAddr} {reason : ProtectedMediaPacketDropReason}
    (refused : state.refusal packet source = some reason) (error : AssembleError) : reason ≠ .assembly error := by
  rintro rfl
  unfold refusal at refused
  split_ifs at refused <;> cases refused

/-- What a call on the receive state is to the window inside: a refused packet does not reach it, and every other call
is passed on with its result counted. -/
theorem step_outcome (taken : Partial step state input reply after) : StepOutcome state input after reply := by
  cases input with
  | tick nowUs =>
    simp only [Partial, step, tick, Option.map_map, Option.map_eq_some_iff] at taken
    obtain ⟨⟨window, events⟩, ticked, same⟩ := taken
    cases same
    have forwarded : Partial ReceiverWindow.step state.receiver (.tick nowUs) (.ok events) window := by
      simp [Partial, ReceiverWindow.step, ticked]
    refine .forwarded rfl forwarded ?_
    rfl
  | pushPacket nowUs packet source =>
    simp only [Partial, step, pushPacket, pushCheckedPacket] at taken
    cases refused : state.refusal packet source with
    | some =>
      rw [refused] at taken
      cases taken
      exact .refused (by simp [windowInput, refused]) rfl (refusal_ne_assembly refused)
    | none =>
      have reached : state.windowInput (.pushPacket nowUs packet source) = some (.push nowUs packet) := by
        simp [windowInput, refused]
      rw [refused] at taken
      cases pushed : state.receiver.push nowUs packet with
      | none => simp [pushed] at taken
      | some result =>
        obtain ⟨window, events | events⟩ := result
        · rw [pushed] at taken
          cases taken
          have forwarded : Partial ReceiverWindow.step state.receiver (.push nowUs packet)
            (.error events) window := pushed
          refine .forwarded reached forwarded ?_
          exact (saturatingAdd_zero _).symm
        · rw [pushed] at taken
          cases taken
          have forwarded : Partial ReceiverWindow.step state.receiver (.push nowUs packet) (.ok events) window := pushed
          refine .forwarded reached forwarded ?_
          rfl

/-- A packet that passes the checks has exactly the effect that it has on the window. -/
theorem step_forwarded {window : ReceiverWindow} {answer : WindowReply}
    (reached : state.windowInput input = some forward)
    (taken : Partial ReceiverWindow.step state.receiver forward answer window) :
    ∃ stats, state.step input = some ({ state with receiver := window, stats := stats }, .ofReply answer) := by
  cases input with
  | tick =>
    cases reached
    simp only [Partial, ReceiverWindow.step, Option.map_eq_some_iff] at taken
    obtain ⟨⟨_, _⟩, done, same⟩ := taken
    cases same
    exact ⟨_, by simp only [step, tick, done, Option.map_some]; rfl⟩
  | pushPacket nowUs packet source =>
    cases refused : state.refusal packet source with
    | some => simp [windowInput, refused] at reached
    | none =>
      simp only [windowInput, refused, Option.some.injEq] at reached
      subst reached
      have pushed : state.receiver.push nowUs packet = some (window, answer) := taken
      cases answer with
      | ok | error => exact ⟨_, by simp only [step, pushPacket, pushCheckedPacket, refused, pushed]; rfl⟩

theorem windowInput_valid (valid : input.Valid) (reached : state.windowInput input = some forward) : forward.Valid := by
  cases input with
  | tick =>
    cases reached
    trivial
  | pushPacket nowUs packet source =>
    cases refused : state.refusal packet source with
    | some => simp [windowInput, refused] at reached
    | none =>
      simp only [windowInput, refused, Option.some.injEq] at reached
      subst reached
      exact valid

theorem StepOutcome.sound (outcome : StepOutcome state input after reply) (sound : state.receiver.Sound)
    (valid : input.Valid) : after.receiver.Sound := by
  cases outcome with
  | refused => exact sound
  | forwarded reached taken => exact sound.after_step (windowInput_valid valid reached) taken

theorem receiver_sound_of_run {initial final : ProtectedMediaReceiveState} {past : List ReceiveCall}
    (sound : initial.receiver.Sound) (run : Run (Partial step) initial past final)
    (valid : ∀ call ∈ past, call.input.Valid) : final.receiver.Sound := by
  induction run with
  | start => exact sound
  | next _ taken ih =>
    exact (step_outcome taken).sound (ih (forall_of_append valid))
      (valid _ List.mem_concat_self)

end ProtectedMediaReceiveState

end ClassMesh
