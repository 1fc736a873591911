import ClassMesh.Network.BlockDelivery
import ClassMesh.Worker.FocusedUdpStream

namespace ClassMesh

open Std Foundation ReceiverWindow LiveStream

namespace SentFrame

/-- The frame was cut into all of its packets. -/
structure Whole (sent : SentFrame) : Prop where
  fits : Packetizable sent.data
  packets : sent.packets = sentPackets sent.data sent.info

/-- The input carries no packet but those of the given frames. -/
def Carry (frames : List SentFrame) : WindowInput → Prop
  | .push _ packet => ∃ sent ∈ frames, packet ∈ sent.packets
  | .tick _ => True

/-- Whatever the packets of the earlier frames did to a window, all packets of this one together deliver it. -/
def DeliveredAfter (earlier : List SentFrame) (sent : SentFrame) : Prop :=
  ∀ (policy : ReceiverPolicy) (initial window : ReceiverWindow) (past : List WindowCall) (startUs : Nat)
    (inputs : List WindowInput), ReceiverWindow.new policy = some initial →
    Run (Partial ReceiverWindow.step) initial past window → (∀ call ∈ past, Carry earlier call.input) →
    FrameBlock sent.data sent.info policy startUs inputs →
    ∃ calls after, tryCalls ReceiverWindow.step window inputs = some (calls, after) ∧
      readyFrames calls = [original sent.data sent.info]

end SentFrame

section Window

variable {initial final : ReceiverWindow} {past : List WindowCall}

/-- The window knows no frame ids but those of the packets pushed to it. -/
theorem known_of_run (known : UInt64 → Prop) (fresh : initial.inflight = ∅)
    (unset : initial.latestCompleteFrame = none) (sound : initial.Sound)
    (run : Run (Partial ReceiverWindow.step) initial past final) (valid : ∀ call ∈ past, call.input.Valid)
    (pushed : ∀ call ∈ past, ∀ nowUs packet, call.input = .push nowUs packet → known packet.header.frameId) :
    (∀ frameId : UInt64, frameId ∈ final.inflight → known frameId) ∧
      ∀ latest, final.latestCompleteFrame = some latest → known latest := by
  induction run with
  | start => simp [fresh, unset]
  | @next past current input reply after previous taken ih =>
    have validPast : ∀ call ∈ past, call.input.Valid := forall_of_append valid
    have last := List.mem_append_right past (List.mem_singleton_self (⟨current, input, reply, after⟩ : WindowCall))
    obtain ⟨held, cut⟩ := ih validPast (forall_of_append pushed)
    have soundNow := sound_of_run sound previous validPast
    refine ⟨?_, ?_⟩
    · intro frameId there
      obtain ⟨_, stored⟩ := Option.isSome_iff_exists.mp (ExtTreeMap.isSome_getElem?_iff_mem.mpr there)
      rcases soundNow.step_entry (valid _ last) taken stored with ⟨_, before, _⟩ | ⟨packet, atInput, rfl⟩
      · exact held frameId (BTreeMap.mem_of_getElem? before)
      · exact pushed _ last _ packet atInput
    · rcases soundNow.step_cases (valid _ last) taken with ⟨nowUs, _, rfl, _⟩ | ⟨nowUs, packet, atInput, _, outcome⟩
      · exact cut
      · cases outcome with
        | late => exact cut
        | rejected | stored => simpa using cut
        | delivered =>
          rintro _ ⟨⟩
          exact pushed _ last nowUs packet atInput

end Window

section Frames

variable {frames : List SentFrame} {sent : SentFrame}

theorem packet_frameId (whole : sent.Whole) {packet : MediaPacket} (member : packet ∈ sent.packets) :
    packet.header.frameId = sent.info.frameId ∧ packet.header.validate = .ok () := by
  rw [whole.packets] at member
  obtain ⟨_, within, rfl⟩ := mem_sentPackets_iff.mp member
  exact ⟨rfl, (packetAt_wellFormed whole.fits sent.info within).valid⟩

/-- A frame whose id exceeds all earlier ones is delivered. -/
theorem deliveredAfter_of_newer {earlier : List SentFrame} (whole : sent.Whole)
    (wholeEarlier : ∀ old ∈ earlier, old.Whole) (newer : ∀ old ∈ earlier, old.info.frameId < sent.info.frameId) :
    sent.DeliveredAfter earlier := by
  intro policy initial window past startUs inputs made run carried block
  have sound := new_sound made
  have start := new_eq made
  have valid : ∀ call ∈ past, call.input.Valid := by
    intro call member
    cases atInput : call.input with
    | tick => trivial
    | push nowUs packet =>
      obtain ⟨old, listed, among⟩ : ∃ old ∈ earlier, packet ∈ old.packets := by
        simpa only [SentFrame.Carry, atInput] using carried call member
      exact (packet_frameId (wholeEarlier old listed) among).2
  have older : ∀ call ∈ past, ∀ nowUs packet, call.input = .push nowUs packet →
      packet.header.frameId < sent.info.frameId := by
    intro call member nowUs packet atInput
    obtain ⟨old, listed, among⟩ : ∃ old ∈ earlier, packet ∈ old.packets := by
      simpa only [SentFrame.Carry, atInput] using carried call member
    rw [(packet_frameId (wholeEarlier old listed) among).1]
    exact newer old listed
  obtain ⟨held, cut⟩ := known_of_run (· < sent.info.frameId) (by rw [start]) (by rw [start]) sound run valid older
  have absent : window.inflight[sent.info.frameId]? = none :=
    ExtTreeMap.getElem?_eq_none fun there => UInt64.lt_irrefl _ (held _ there)
  have policyKept : window.policy = policy := by rw [policy_of_run sound run valid, start]
  rw [← policyKept] at block
  obtain ⟨calls, after, traced, ready, _⟩ := block_delivered whole.fits (sound_of_run sound run valid)
    (not_late_iff.mpr cut) (by simp [expired_getElem?, absent]) block
  exact ⟨calls, after, traced, ready⟩

/-- All packets of a frame at once. -/
theorem frameBlock_at_once (whole : sent.Whole) : FrameBlock sent.data sent.info {} 0 (sent.packets.map (.push 0)) := by
  rw [whole.packets]
  refine ⟨?_, ?_, ?_⟩
  · have some' := packetCountOf_pos whole.fits
    cases listed : sentPackets sent.data sent.info with
    | nil =>
      have length := congrArg List.length listed
      simp only [sentPackets, List.length_map, List.length_range, List.length_nil] at length
      omega
    | cons first => exact ⟨first, List.mem_cons_self, rfl⟩
  · intro input member
    obtain ⟨_, listed, rfl⟩ := List.mem_map.mp member
    exact ⟨listed, by decide⟩
  · intro packet listed
    exact ⟨0, List.mem_map_of_mem listed⟩

theorem valid_at_once (whole : sent.Whole) : ∀ input ∈ sent.packets.map (WindowInput.push 0), input.Valid := by
  intro input member
  obtain ⟨_, listed, rfl⟩ := List.mem_map.mp member
  exact (packet_frameId whole listed).2

/-- Every frame gets through after any of the earlier ones, exactly if their ids increase. -/
theorem deliveredAfter_iff (whole : ∀ sent ∈ frames, sent.Whole) :
    (∀ earlier sent later, frames = earlier ++ sent :: later → sent.DeliveredAfter earlier) ↔
      (frames.map (·.info.frameId)).Pairwise (· < ·) := by
  constructor
  · intro delivered
    rw [List.pairwise_map, List.pairwise_iff_forall_sublist]
    intro first second both
    obtain ⟨earlier, later, cut, member⟩ : ∃ earlier later, frames = earlier ++ second :: later ∧ first ∈ earlier := by
      obtain ⟨before, _, rfl, inBefore, inRest⟩ :=
        List.append_sublist_iff.mp (show ([first] ++ [second]).Sublist frames from both)
      obtain ⟨between, later, rfl⟩ := List.append_of_mem (List.singleton_sublist.mp inRest)
      exact ⟨before ++ between, later, (List.append_assoc _ _ _).symm,
        List.mem_append_left _ (List.singleton_sublist.mp inBefore)⟩
    have wholeFirst := whole first (by simp [cut, member])
    have wholeSecond := whole second (by simp [cut])
    have made : ReceiverWindow.new {} = some { policy := {} } := rfl
    have sound := new_sound made
    obtain ⟨calls, window, traced, ready, _⟩ := block_delivered wholeFirst.fits sound rfl
      (by simp [expired_getElem?]) (frameBlock_at_once wholeFirst)
    obtain ⟨run, inputs⟩ := Run.of_tryCalls traced
    have carried : ∀ call ∈ calls, SentFrame.Carry earlier call.input := by
      refine forall_of_inputs inputs fun input listed => ?_
      obtain ⟨_, among, rfl⟩ := List.mem_map.mp listed
      exact ⟨first, member, among⟩
    obtain ⟨more, _, tracedMore, readyMore⟩ := delivered earlier second later cut {} _ window calls 0 _ made run
      carried (frameBlock_at_once wholeSecond)
    obtain ⟨runMore, inputsMore⟩ := Run.of_tryCalls tracedMore
    have valid : ∀ call ∈ calls ++ more, call.input.Valid := List.forall_mem_append.mpr
      ⟨forall_of_inputs inputs (valid_at_once wholeFirst), forall_of_inputs inputsMore (valid_at_once wholeSecond)⟩
    have increasing := (delivered_increasing sound (run.trans runMore) valid).1
    rw [readyFrames, List.flatMap_append] at increasing
    rw [readyFrames] at ready readyMore
    rw [ready, readyMore] at increasing
    simpa [original] using increasing
  · intro increasing earlier sent later cut
    refine deliveredAfter_of_newer (whole sent (by simp [cut])) (fun old member => whole old (by simp [cut, member])) ?_
    rw [cut, List.map_append, List.pairwise_append] at increasing
    intro old member
    exact increasing.2.2 _ (List.mem_map_of_mem member) _ (by simp)

end Frames

section Live

variable {P F : Type} {pipeline : PresentationPipeline P F} {held : P → List UInt64}

abbrev LiveCall (P F : Type) := Call (LiveStream P F) (CaptureInput F) (CaptureReply F × List SentFrame)

def sentFrames (past : List (LiveCall P F)) : List SentFrame := past.flatMap fun call => call.reply.2

/-- The calls on the capture alone. -/
def captureCalls (past : List (LiveCall P F)) : List (CaptureCall F) :=
  past.map fun call => ⟨call.before.capture, call.input, call.reply.1, call.after.capture⟩

/-- The ids of the frames inside the pipeline of a stream, if it has one. -/
def FocusedUdpStream.heldIds (held : P → List UInt64) (stream : FocusedUdpStream P) : List UInt64 :=
  stream.pipeline.elim [] held

namespace SequencedSender

variable {sender after : SequencedSender}

theorem sendFrame_whole {frame : SharedEncodedFrame} {sent : SentFrame}
    (taken : sender.sendFrame frame = .ok (after, sent)) : sent.Whole ∧ sent.info.frameId = frame.info.frameId := by
  unfold sendFrame at taken
  split at taken
  · cases taken
  · dsimp only at taken
    split at taken
    · cases taken
    · rename_i packets cut
      cases taken
      obtain ⟨fits, whole⟩ := fits_of_packetizeFrame cut
      exact ⟨⟨fits, whole⟩, rfl⟩

theorem sendFrames_whole {frames : List SharedEncodedFrame} {sent : List SentFrame}
    (taken : sender.sendFrames frames = .ok (after, sent)) :
    sent.map (·.info.frameId) = frames.map (·.info.frameId) ∧ ∀ one ∈ sent, one.Whole := by
  induction frames generalizing sender sent with
  | nil =>
    cases taken
    exact ⟨rfl, by simp⟩
  | cons frame rest ih =>
    unfold sendFrames at taken
    split at taken
    · cases taken
    rename_i middle one first
    split at taken
    · cases taken
    rename_i last later others
    cases taken
    obtain ⟨whole, same⟩ := sendFrame_whole first
    obtain ⟨ids, wholeRest⟩ := ih others
    exact ⟨by rw [List.map_cons, List.map_cons, same, ids], List.forall_mem_cons.mpr ⟨whole, wholeRest⟩⟩

end SequencedSender

/-- What a frame makes the stream send, with what the pipeline then holds, are ids that it held before or was just
given, in their order. Frames may be dropped on the way, but none is made up. -/
theorem FocusedUdpStream.processFrame_sent (order : pipeline.InOrder held) {stream after : FocusedUdpStream P}
    {info : CapturedFrameMeta} {frame : F} {sent : List SentFrame}
    (taken : stream.processFrame pipeline info frame = .ok (after, sent)) :
    (sent.map (·.info.frameId) ++ after.heldIds held).Sublist (stream.heldIds held ++ [info.frameId]) ∧
      ∀ one ∈ sent, one.Whole := by
  unfold processFrame at taken
  split at taken
  · cases taken
  rename_i state begun
  have inside : held state = stream.heldIds held := by
    unfold heldIds
    cases running : stream.pipeline with
    | none =>
      rw [running, Option.none_or] at begun
      exact order.fresh begun
    | some =>
      rw [running, Option.some_or] at begun
      rw [Option.some.inj begun]
      rfl
  split at taken
  · cases taken
  rename_i next outputs processed
  split at taken
  · cases taken
  rename_i sender list sentAll
  cases taken
  obtain ⟨ids, whole⟩ := SequencedSender.sendFrames_whole sentAll
  rw [ids, ← inside]
  exact ⟨order.step processed, whole⟩

/-- A round is a call on the capture. Together with the frame it captured, if any, the frames that were inside the
pipeline give those it sends and those that are inside after it. -/
theorem LiveStream.step_sends (order : pipeline.InOrder held) {live after : LiveStream P F} {input : CaptureInput F}
    {reply : CaptureReply F × List SentFrame} (taken : Partial (step pipeline) live input reply after) :
    Total DxgiCapture.step live.capture input reply.1 after.capture ∧
      (reply.2.map (·.info.frameId) ++ after.stream.heldIds held).Sublist
        (live.stream.heldIds held ++ reply.1.frameId.toList) ∧ ∀ sent ∈ reply.2, sent.Whole := by
  unfold Partial step at taken
  obtain ⟨⟨capture, answer⟩, stepped⟩ : ∃ result, DxgiCapture.step live.capture input = result := ⟨_, rfl⟩
  rw [stepped] at taken
  cases answer with
  | started =>
    cases taken
    exact ⟨stepped, List.sublist_append_left _ _, by simp⟩
  | polled step =>
    cases step with
    | noFrame =>
      cases taken
      exact ⟨stepped, List.sublist_append_left _ _, by simp⟩
    | frame =>
      dsimp only at taken
      split at taken
      · cases taken
      · rename_i stream sent processed
        cases taken
        exact ⟨stepped, FocusedUdpStream.processFrame_sent order processed⟩
    | retryAfter | suspended | failed =>
      cases taken
      exact ⟨stepped, List.nil_sublist _, by simp⟩

variable {initial final : LiveStream P F} {past : List (LiveCall P F)}

theorem captureCalls_run (order : pipeline.InOrder held) (run : Run (Partial (step pipeline)) initial past final) :
    Run (Total DxgiCapture.step) initial.capture (captureCalls past) final.capture :=
  run.map (f := capture) (g := id) (h := Prod.fst)
    fun _ _ _ _ taken => (step_sends order taken).1

/-- The ids sent, and after them those inside the pipeline, are among the ids captured, in their order. -/
theorem sentFrames_of_run (order : pipeline.InOrder held) (fresh : initial.stream.pipeline = none)
    (run : Run (Partial (step pipeline)) initial past final) :
    ((sentFrames past).map (·.info.frameId) ++ final.stream.heldIds held).Sublist (frameIds (captureCalls past)) ∧
      ∀ sent ∈ sentFrames past, sent.Whole := by
  induction run with
  | start => simp [sentFrames, frameIds, captureCalls, FocusedUdpStream.heldIds, fresh]
  | @next past current input reply after _ taken ih =>
    obtain ⟨ids, whole⟩ := ih
    obtain ⟨_, idsNow, wholeNow⟩ := step_sends order taken
    have captured : frameIds (captureCalls (past ++ [⟨current, input, reply, after⟩])) =
        frameIds (captureCalls past) ++ reply.1.frameId.toList := by
      simp only [frameIds, captureCalls, List.map_append, List.filterMap_append, List.map_cons, List.map_nil]
      cases known : reply.1.frameId <;> simp [known]
    have sent : sentFrames (past ++ [⟨current, input, reply, after⟩]) = sentFrames past ++ reply.2 := by
      rw [sentFrames, List.flatMap_append, List.flatMap_singleton]
      rfl
    rw [captured, sent]
    refine ⟨?_, fun one member => ?_⟩
    · have moved := ((List.Sublist.refl ((sentFrames past).map (·.info.frameId))).append idsNow)
      rw [← List.append_assoc, ← List.append_assoc, ← List.map_append] at moved
      exact moved.trans (ids.append (List.Sublist.refl _))
    · rcases List.mem_append.mp member with earlier | now
      · exact whole one earlier
      · exact wholeNow one now

end Live

/-- Capture ids increase exactly in the runs where no backend is opened between two captured frames (and there is an id
for each frame). In these runs every frame of a stream that is kept gets through, whatever frames the pipeline drops or
delays; where it has sent as many frames as were captured, all of them get through only in these runs. -/
theorem recovery_keeps_stream_iff {P F : Type} {pipeline : PresentationPipeline P F} {held : P → List UInt64}
    (order : pipeline.InOrder held) (policy : RecoveryPolicy) (streamId : UInt32) :
    (∀ captured (last : DxgiCapture F), Run (Total DxgiCapture.step) (RecoveringCapture.new policy) captured last →
      ((frameIds captured).Pairwise (· < ·) ↔ NumberedOnce captured)) ∧
    ∀ past (final : LiveStream P F),
      Run (Partial (LiveStream.step pipeline)) ⟨.new policy, { sender := { streamId := streamId } }⟩ past final →
        (NumberedOnce (captureCalls past) →
          ∀ earlier sent later, sentFrames past = earlier ++ sent :: later → sent.DeliveredAfter earlier) ∧
        ((sentFrames past).length = (frameIds (captureCalls past)).length →
          ((∀ earlier sent later, sentFrames past = earlier ++ sent :: later → sent.DeliveredAfter earlier) ↔
            NumberedOnce (captureCalls past))) := by
  refine ⟨fun captured last run => frameIds_increasing_iff rfl run, fun past final run => ?_⟩
  obtain ⟨ids, whole⟩ := sentFrames_of_run order rfl run
  have among := (List.sublist_append_left _ _).trans ids
  rw [deliveredAfter_iff whole, ← frameIds_increasing_iff rfl (captureCalls_run order run)]
  refine ⟨fun increasing => increasing.sublist among, fun all => ?_⟩
  rw [among.eq_of_length (by rw [List.length_map, all])]

/-- A pipeline whose frames are already encoded. -/
def rawPipeline : PresentationPipeline Unit (List UInt8) where
  fromFirstFrame _ := some ()
  processFrame _ info frame :=
    some ((), [⟨⟨info.frameId, info.captureTimestampUs, true⟩, .h264, frame, info.frameId.toNat⟩])

theorem rawPipeline_inOrder : rawPipeline.InOrder fun _ => [] where
  fresh _ := rfl
  step processed := by
    cases processed
    exact List.Sublist.refl _

/-- A poll that finds a frame. -/
def pollFrame (frame : List UInt8) : CaptureInput (List UInt8) := .poll (.ok ⟨5, 1, true, frame⟩) (.error .fatal)

/-- A backend that times out and then gives two frames: both are delivered. -/
theorem recovery_keeps_stream_iff_two_frames : ∃ past final,
    Run (Partial (LiveStream.step rawPipeline)) ⟨.new {}, { sender := { streamId := 7 } }⟩ past final ∧
      frameIds (captureCalls past) = [1, 2] ∧
      ∀ earlier sent later, sentFrames past = earlier ++ sent :: later → sent.DeliveredAfter earlier := by
  have traced : (tryCalls (step rawPipeline) ⟨.new {}, { sender := { streamId := 7 } }⟩
      [.start (.ok ⟨640, 480⟩), pollFrame [1, 2], .poll (.error .timeout) (.error .fatal), pollFrame [3]]).map
        (fun result => (frameIds (captureCalls result.1), (captureCalls result.1).map CaptureCall.event)) =
      some ([1, 2], [.restart, .issue, .idle, .issue]) := by decide +kernel
  obtain ⟨past, final, run, _, shown⟩ := Run.of_traced traced
  obtain ⟨ids, events⟩ := Prod.mk.inj shown
  refine ⟨past, final, run, ids,
    ((recovery_keeps_stream_iff rawPipeline_inOrder {} 7).2 past final run).1 ⟨?_, ?_⟩⟩
  · rw [events]
    decide
  · rw [ids]
    decide

/-- The backend is lost after one frame and opened again. The next frame has the same id, and a window that has
delivered the first one discards it. -/
theorem reopened_backend_repeats_ids : ∃ past final calls window,
    Run (Partial (LiveStream.step rawPipeline)) ⟨.new {}, { sender := { streamId := 7 } }⟩ past final ∧
      past.map (·.input) = [.start (.ok ⟨640, 480⟩), pollFrame [1, 2], .poll (.error .accessLost) (.ok ⟨640, 480⟩),
        pollFrame [3]] ∧
      frameIds (captureCalls past) = [1, 1] ∧
      ReceiverWindow.new {} = some { policy := {} } ∧
      tryCalls ReceiverWindow.step { policy := {} }
        ((sentFrames past).flatMap fun sent => sent.packets.map (.push 0)) = some (calls, window) ∧
      (readyFrames calls).map (·.data) = [[1, 2]] := by
  have traced : (tryCalls (step rawPipeline) ⟨.new {}, { sender := { streamId := 7 } }⟩
      [.start (.ok ⟨640, 480⟩), pollFrame [1, 2], .poll (.error .accessLost) (.ok ⟨640, 480⟩), pollFrame [3]]).bind
        (fun live => (tryCalls ReceiverWindow.step { policy := {} }
          ((sentFrames live.1).flatMap fun sent => sent.packets.map (.push 0))).map fun received =>
            (frameIds (captureCalls live.1), (readyFrames received.1).map (·.data))) = some ([1, 1], [[1, 2]]) := by
    decide +kernel
  obtain ⟨⟨past, final⟩, made, rest⟩ := Option.bind_eq_some_iff.mp traced
  obtain ⟨⟨calls, window⟩, received, shown⟩ := Option.map_eq_some_iff.mp rest
  obtain ⟨ids, delivered⟩ := Prod.mk.inj shown
  obtain ⟨run, inputs⟩ := Run.of_tryCalls made
  exact ⟨past, final, calls, window, run, inputs, ids, rfl, received, delivered⟩

end ClassMesh
