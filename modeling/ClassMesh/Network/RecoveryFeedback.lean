import ClassMesh.Network.ReceiverSafety
import ClassMesh.Protocol.Feedback

namespace ClassMesh

open Std Foundation ReceiverWindow

def fromReceiverEvents (events : List ReceiverEvent) : List FeedbackMessage :=
  events.filterMap fun
    | .needNack streamId frameId missing => some (.nack streamId frameId missing)
    | .needKeyframe streamId afterFrameId => some (.requestKeyframe streamId afterFrameId)
    | .frameReady _ | .droppedStaleFrame _ _ => none

def ReceiverEvent.isRequest : ReceiverEvent → Bool
  | .needNack _ _ _ | .needKeyframe _ _ => true
  | .frameReady _ | .droppedStaleFrame _ _ => false

def WindowInput.nowUs : WindowInput → Nat
  | .push nowUs _ => nowUs
  | .tick nowUs => nowUs

def ReceiverEvent.requestedIndices : ReceiverEvent → List UInt16
  | .needNack _ _ missing => missing
  | _ => []

/-- The indices of a frame of so many packets for which none was accepted since its entry was made. -/
def lackedIndices (past : List WindowCall) (frameId : UInt64) (count : Nat) : List Nat :=
  (List.range count).filter fun index => firstPayload (entryLog frameId past) index = none

/-- A request for packets names some of those that its frame lacks, in ascending order. -/
def FeedbackMessage.Justified (past : List WindowCall) (window : ReceiverWindow) : FeedbackMessage → Prop
  | .nack _ frameId missing => missing ≠ [] ∧ missing.Pairwise (· < ·) ∧
      ∃ frame, window.inflight[frameId]? = some frame ∧
        (missing.map UInt16.toNat).Sublist (lackedIndices past frameId frame.assembler.packets.length)
  | .requestKeyframe _ _ => True

/-- The message can be encoded, and what is decoded is the message, which is justified. -/
def FeedbackMessage.Sendable (past : List WindowCall) (window : ReceiverWindow) (message : FeedbackMessage) : Prop :=
  ∃ data, message.encode = .ok data ∧ FeedbackMessage.decode data = .ok message ∧ message.Justified past window

theorem FrameAssembler.Sound.missingPacketIndices_eq {assembler : FrameAssembler} (sound : assembler.Sound) :
    (assembler.missingPacketIndices.getD []).map UInt16.toNat = assembler.missing := by
  have narrow : ∀ index ∈ assembler.missing, index < UInt16.size := fun index member =>
    (List.mem_range.mp (List.mem_filter.mp member).1).trans sound.narrow
  have all : assembler.missing.all (· < UInt16.size) = true :=
    List.all_eq_true.mpr fun index member => decide_eq_true (narrow index member)
  rw [missingPacketIndices, if_pos all, Option.getD_some, List.map_map]
  exact (List.map_congr_left fun index member => UInt16.toNat_ofNat_of_lt (narrow index member)).trans (List.map_id _)

theorem InflightFrame.missing_of_asks {frame : InflightFrame} {policy : ReceiverPolicy} {nowUs : Nat}
    (asks : frame.asks policy nowUs = true) : frame.assembler.missing ≠ [] := by
  simpa [InflightFrame.asks] using (Bool.and_eq_true_iff.mp asks).2

section Requests

variable {window after : ReceiverWindow} {nowUs : Nat} {streamId : UInt32} {frameId : UInt64} {missing : List UInt16}
  {past : List WindowCall} {frame : InflightFrame}

/-- A request for packets comes from an entry of its frame, and asks for what the entry lacks. -/
theorem needNack_of_expiryEvents (asked : .needNack streamId frameId missing ∈ window.expiryEvents nowUs) :
    ∃ frame, window.inflight[frameId]? = some frame ∧ frame.asks window.policy nowUs = true ∧
      streamId = frame.assembler.streamId ∧ missing = frame.assembler.missingPacketIndices.getD [] := by
  rcases List.mem_append.mp asked with nacks | others
  · obtain ⟨entry, member, event⟩ := List.mem_filterMap.mp nacks
    have stored := ExtTreeMap.mem_toList_iff_getElem?_eq_some.mp (List.mem_filter.mp member).1
    unfold nackEvent at event
    split at event
    · rename_i asks
      cases event
      exact ⟨entry.2, stored, asks, rfl, rfl⟩
    · cases event
  · rcases List.mem_append.mp others with drops | request
    · obtain ⟨_, _, event⟩ := List.mem_map.mp drops
      cases event
    · obtain ⟨_, _, event⟩ := Option.map_eq_some_iff.mp (Option.mem_toList.mp request)
      cases event

/-- Only expiry asks for packets. -/
theorem needNack_of_events (sound : window.Sound) {input : WindowInput} {reply : WindowReply} (valid : input.Valid)
    (taken : Partial ReceiverWindow.step window input reply after)
    (asked : .needNack streamId frameId missing ∈ WindowCall.events ⟨window, input, reply, after⟩) :
    .needNack streamId frameId missing ∈ window.expiryEvents input.nowUs := by
  have opening {nowUs : Nat} {packet : MediaPacket}
      (member : .needNack streamId frameId missing ∈ window.openingEvents nowUs packet) :
      .needNack streamId frameId missing ∈ window.expiryEvents nowUs := by
    rcases List.mem_append.mp member with expiry | evicted
    · exact expiry
    · obtain ⟨_, _, event⟩ := Option.map_eq_some_iff.mp (Option.mem_toList.mp evicted)
      cases event
  rcases sound.step_cases valid taken with ⟨_, rfl, _, rfl⟩ | ⟨_, _, rfl, _, outcome⟩
  · exact asked
  · cases outcome with
    | late => exact asked
    | rejected => cases asked
    | stored => exact opening asked
    | delivered =>
      rcases List.mem_append.mp asked with before | ready
      · exact opening before
      · cases List.mem_singleton.mp ready

/-- What is missing from an entry is what was not accepted since it was made. -/
theorem missing_eq_lackedIndices (records : Records frame.assembler (entryLog frameId past)) :
    frame.assembler.missing = lackedIndices past frameId frame.assembler.packets.length := by
  refine List.filter_congr fun index member => ?_
  simp only [records index (List.mem_range.mp member), Option.some.injEq]

theorem justified_nack (streamId : UInt32) (stored : window.inflight[frameId]? = some frame)
    (sound : frame.assembler.Sound) (records : Records frame.assembler (entryLog frameId past))
    (lacking : frame.assembler.missing ≠ []) :
    (FeedbackMessage.nack streamId frameId (frame.assembler.missingPacketIndices.getD [])).Justified past window := by
  have indices := sound.missingPacketIndices_eq
  refine ⟨?_, ?_, frame, stored, ?_⟩
  · intro empty
    rw [empty] at indices
    exact lacking indices.symm
  · have ascending : frame.assembler.missing.Pairwise (· < ·) := List.pairwise_lt_range.filter _
    rw [← indices, List.pairwise_map] at ascending
    exact ascending.imp fun lower => UInt16.lt_iff_toNat_lt.mpr lower
  · rw [indices, missing_eq_lackedIndices records]

end Requests

/-- In every run, each request of the receiver becomes one message, and that message can be sent exactly when it asks
for no more packets than a datagram has room for. -/
theorem request_sendable_iff {policy : ReceiverPolicy} {initial final : ReceiverWindow} {past : List WindowCall}
    (made : ReceiverWindow.new policy = some initial) (run : Run (Partial ReceiverWindow.step) initial past final)
    (formed : ∀ call ∈ past, call.input.WellFormed) :
    ∀ earlier call later event, past = earlier ++ call :: later → event ∈ WindowCall.events call →
      event.isRequest = true → ∃ message, fromReceiverEvents [event] = [message] ∧
        (message.Sendable earlier call.before ↔ event.requestedIndices.length ≤ maxNackPacketIndices) := by
  intro earlier call later event cut emitted request
  have valid : ∀ call ∈ past, call.input.Valid := fun call member => (formed call member).valid
  have fresh : initial.inflight = ∅ := by rw [new_eq made]
  obtain ⟨reached, taken, _⟩ := run.split cut
  have validEarlier : ∀ old ∈ earlier, old.input.Valid := fun old member => valid old (by simp [cut, member])
  have soundNow := sound_of_run (new_sound made) reached validEarlier
  cases event with
  | needNack streamId frameId missing =>
    refine ⟨.nack streamId frameId missing, rfl, ?_⟩
    have expiry := needNack_of_events soundNow (valid call (by simp [cut])) taken emitted
    obtain ⟨frame, stored, asks, _, rfl⟩ := needNack_of_expiryEvents expiry
    have lacking := InflightFrame.missing_of_asks asks
    have records := records_of_run fresh (new_sound made) reached validEarlier frameId frame stored
    have justified := justified_nack streamId stored (soundNow.held _ _ stored).sound records lacking
    constructor
    · rintro ⟨_, encoded, _⟩
      exact (FeedbackMessage.encode_eq_ok_iff.mp encoded).2.1
    · intro fits
      have encoded : (FeedbackMessage.nack streamId frameId (frame.assembler.missingPacketIndices.getD [])).encode =
          .ok _ := FeedbackMessage.encode_eq_ok_iff.mpr ⟨justified.1, fits, rfl⟩
      exact ⟨_, encoded, FeedbackMessage.decode_encode encoded, justified⟩
  | needKeyframe streamId afterFrameId =>
    refine ⟨.requestKeyframe streamId afterFrameId, rfl, fun _ => Nat.zero_le _, fun _ => ?_⟩
    have encoded : (FeedbackMessage.requestKeyframe streamId afterFrameId).encode = .ok _ := rfl
    exact ⟨_, encoded, FeedbackMessage.decode_encode encoded, trivial⟩
  | frameReady | droppedStaleFrame => cases request

/-- The first packet of a frame of so many. -/
def firstOf (packetCount : UInt16) : MediaPacket where
  header := ⟨0, 4, .none, 7, 1, 0, 0, packetCount, 0, 1⟩
  payload := [9]

/-- Two of three packets are lost: the request for them can be sent. -/
theorem request_sendable_two_lost : ∃ past final, Run (Partial ReceiverWindow.step) { policy := {} } past final ∧
    ∃ earlier call later, past = earlier ++ call :: later ∧ .needNack 7 1 [1, 2] ∈ WindowCall.events call ∧
      (FeedbackMessage.nack 7 1 [1, 2]).Sendable earlier call.before := by
  have traced : (tryCalls ReceiverWindow.step { policy := {} } [.push 0 (firstOf 3), .tick 20000]).map
      (fun result => result.1.map WindowCall.events) = some [[], [.needNack 7 1 [1, 2]]] := by decide +kernel
  obtain ⟨_, final, run, inputs, shown⟩ := Run.of_traced traced
  obtain ⟨first, _, rfl, _, tail⟩ := List.map_eq_cons_iff.mp shown
  obtain ⟨second, none, rfl, emitted, _⟩ := List.map_eq_cons_iff.mp tail
  have asked : .needNack 7 1 [1, 2] ∈ WindowCall.events second := by simp [emitted]
  have formed : ∀ call ∈ first :: second :: none, call.input.WellFormed := by
    refine forall_of_inputs inputs ?_
    simp only [List.forall_mem_cons, WindowInput.WellFormed]
    exact ⟨⟨by decide, by decide⟩, trivial, by simp⟩
  have fresh : ReceiverWindow.new {} = some { policy := {} } := rfl
  obtain ⟨_, turned, sendable⟩ := request_sendable_iff fresh run formed [first] second none _ rfl asked rfl
  cases turned
  exact ⟨_, final, run, [first], second, none, rfl, asked, sendable.mpr (by decide)⟩

/-- One packet of sixty-six arrives: the request for the others is refused by the encoder. -/
theorem large_request_refused : ∃ past final, Run (Partial ReceiverWindow.step) { policy := {} } past final ∧
    (∀ call ∈ past, call.input.WellFormed) ∧
    (fromReceiverEvents (past.flatMap WindowCall.events)).map FeedbackMessage.encode =
      [.error .tooManyMissingPackets] := by
  have traced : (tryCalls ReceiverWindow.step { policy := {} } [.push 0 (firstOf 66), .tick 20000]).map
      (fun result => (fromReceiverEvents (result.1.flatMap WindowCall.events)).map FeedbackMessage.encode) =
        some [.error .tooManyMissingPackets] := by decide +kernel
  obtain ⟨past, final, run, inputs, shown⟩ := Run.of_traced traced
  refine ⟨past, final, run, forall_of_inputs inputs ?_, shown⟩
  simp only [List.forall_mem_cons, WindowInput.WellFormed]
  exact ⟨⟨by decide, by decide⟩, trivial, by simp⟩

end ClassMesh
