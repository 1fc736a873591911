import ClassMesh.Foundation.Run
import ClassMesh.Network.WindowSteps

namespace ClassMesh

open Std Foundation

abbrev WindowCall := Call ReceiverWindow WindowInput WindowReply

/-- Any packet whose header passes validation, whatever its payload. -/
def WindowInput.Valid : WindowInput → Prop
  | .push _ packet => packet.header.validate = .ok ()
  | .tick _ => True

instance WindowInput.decidableValid : DecidablePred WindowInput.Valid
  | .push _ packet => inferInstanceAs (Decidable (packet.header.validate = .ok ()))
  | .tick _ => isTrue trivial

/-- What the call handed to its caller; a rejected push hands over nothing. -/
def WindowCall.events (call : WindowCall) : List ReceiverEvent :=
  match call.reply with
  | .ok events => events
  | .error _ => []

def WindowCall.ready (call : WindowCall) : List AssembledFrame :=
  call.events.filterMap ReceiverWindow.readyFrame

def readyFrames (past : List WindowCall) : List AssembledFrame := past.flatMap WindowCall.ready

theorem readyFrames_append (past : List WindowCall) (call : WindowCall) :
    readyFrames (past ++ [call]) = readyFrames past ++ WindowCall.ready call := by
  simp [readyFrames]

namespace ReceiverWindow

variable {window after : ReceiverWindow} {nowUs : Nat} {packet : MediaPacket} {reply : WindowReply}

variable {input : WindowInput} (sound : window.Sound) (valid : input.Valid)

include sound valid

/-- A tick does what `expire` does; a push has one of its four outcomes. -/
theorem Sound.step_cases (taken : Partial step window input reply after) :
    (∃ nowUs, input = .tick nowUs ∧ after = window.expired nowUs ∧ reply = .ok (window.expiryEvents nowUs)) ∨
      ∃ nowUs packet, input = .push nowUs packet ∧ packet.header.validate = .ok () ∧
        PushOutcome window nowUs packet after reply := by
  cases input with
  | tick nowUs =>
    simp only [Partial, step, tick, sound.expire_eq, Option.map_some, Option.some.injEq] at taken
    cases taken
    exact .inl ⟨nowUs, rfl, rfl, rfl⟩
  | push nowUs packet =>
    obtain ⟨_, _, pushed, outcome⟩ := sound.push_outcome nowUs valid
    cases Option.some.inj (pushed.symm.trans taken)
    exact .inr ⟨nowUs, packet, rfl, valid, outcome⟩

theorem Sound.step_isSome : (window.step input).isSome = true := by
  cases input with
  | tick => simp [step, tick, sound.expire_eq]
  | push nowUs =>
    obtain ⟨_, _, pushed, _⟩ := sound.push_outcome nowUs valid
    simp [step, pushed]

theorem Sound.after_step (taken : Partial step window input reply after) : after.Sound := by
  rcases sound.step_cases valid taken with ⟨nowUs, _, rfl, _⟩ | ⟨nowUs, _, _, valid, outcome⟩
  · exact sound.expired nowUs
  · exact sound.after_push valid outcome

theorem Sound.step_policy (taken : Partial step window input reply after) : after.policy = window.policy := by
  rcases sound.step_cases valid taken with ⟨_, _, rfl, _⟩ | ⟨_, _, _, _, outcome⟩
  · rfl
  · exact outcome.policy_eq

/-- A call delivers nothing and leaves the cut-off, or delivers one frame and cuts off there. -/
theorem Sound.step_ready (taken : Partial step window input reply after) :
    (WindowCall.ready ⟨window, input, reply, after⟩ = [] ∧
        after.latestCompleteFrame = window.latestCompleteFrame) ∨
      ∃ frame, WindowCall.ready ⟨window, input, reply, after⟩ = [frame] ∧ window.late frame.frameId = false ∧
        after.latestCompleteFrame = some frame.frameId := by
  rcases sound.step_cases valid taken with ⟨nowUs, rfl, rfl, rfl⟩ | ⟨nowUs, packet, rfl, _, outcome⟩
  · exact .inl ⟨expiryEvents_ready window nowUs, rfl⟩
  · cases outcome with
    | late => exact .inl ⟨expiryEvents_ready window nowUs, rfl⟩
    | rejected => exact .inl ⟨rfl, by simp⟩
    | stored => exact .inl ⟨openingEvents_ready window nowUs packet, by simp⟩
    | @delivered frame assembler current entry pushed =>
      have own := assembled_frameId pushed
      refine .inr ⟨assembled assembler, ?_, own ▸ current, by rw [own]⟩
      simp only [WindowCall.ready, WindowCall.events, List.filterMap_append, openingEvents_ready]
      rfl

/-- The cut-off never moves back. -/
theorem Sound.step_late (taken : Partial step window input reply after) {frameId : UInt64}
    (late : window.late frameId = true) : after.late frameId = true := by
  obtain ⟨latest, atLatest, below⟩ := late_iff.mp late
  rcases sound.step_ready valid taken with ⟨_, same⟩ | ⟨frame, _, current, cutOff⟩
  · exact late_iff.mpr ⟨latest, same.trans atLatest, below⟩
  · exact late_iff.mpr ⟨frame.frameId, cutOff,
      UInt64.le_of_lt (UInt64.lt_of_le_of_lt below (not_late_iff.mp current latest atLatest))⟩

/-- An entry was there before the call with the same age, or comes from the packet just pushed. -/
theorem Sound.step_entry (taken : Partial step window input reply after) {frameId : UInt64} {frame : InflightFrame}
    (stored : after.inflight[frameId]? = some frame) :
    (∃ previous, window.inflight[frameId]? = some previous ∧ previous.firstSeenUs = frame.firstSeenUs) ∨
      ∃ packet, input = .push frame.firstSeenUs packet ∧ packet.header.frameId = frameId := by
  have older {nowUs : Nat} {frame : InflightFrame} (kept : (window.expired nowUs).inflight[frameId]? = some frame) :
      ∃ previous, window.inflight[frameId]? = some previous ∧ previous.firstSeenUs = frame.firstSeenUs := by
    obtain ⟨previous, before, _, rfl⟩ := expired_eq_some_iff.mp kept
    exact ⟨previous, before, by simp⟩
  rcases sound.step_cases valid taken with ⟨nowUs, rfl, rfl, _⟩ | ⟨nowUs, packet, rfl, _, outcome⟩
  · exact .inl (older stored)
  · by_cases other : frameId = packet.header.frameId
    · subst other
      have opened {frame : InflightFrame}
          (entry : (window.opened nowUs packet).inflight[packet.header.frameId]? = some frame) :
          (∃ previous, window.inflight[packet.header.frameId]? = some previous ∧
              previous.firstSeenUs = frame.firstSeenUs) ∨ nowUs = frame.firstSeenUs := by
        rw [ReceiverWindow.opened, entered_getElem?_self, Option.some.injEq] at entry
        subst entry
        cases before : (window.expired nowUs).inflight[packet.header.frameId]? with
        | none => exact .inr rfl
        | some => exact .inl (older before)
      have started : (∃ previous, window.inflight[packet.header.frameId]? = some previous ∧
          previous.firstSeenUs = frame.firstSeenUs) ∨ nowUs = frame.firstSeenUs := by
        cases outcome with
        | late => exact .inl (older stored)
        | rejected => exact opened stored
        | stored _ entry =>
          rw [ExtTreeMap.getElem?_insert_self, Option.some.injEq] at stored
          subst stored
          have started := opened entry
          exact started
        | delivered =>
          rw [ExtTreeMap.getElem?_filter'] at stored
          have there := (Option.filter_eq_some_iff.mp stored).1
          simp at there
      rcases started with kept | now
      · exact .inl kept
      · exact .inr ⟨packet, by rw [now], rfl⟩
    · obtain ⟨previous, before, _, rfl⟩ := outcome.other_entry other stored
      exact .inl ⟨previous, before, by simp⟩

end ReceiverWindow

open ReceiverWindow

section Runs

variable {initial final : ReceiverWindow} {past : List WindowCall}
  (sound : initial.Sound) (run : Run (Partial ReceiverWindow.step) initial past final)
  (valid : ∀ call ∈ past, call.input.Valid)

include sound run valid

theorem sound_of_run : final.Sound := by
  induction run with
  | start => exact sound
  | next _ taken ih =>
    exact (ih (forall_of_append valid)).after_step
      (valid _ List.mem_concat_self) taken

theorem policy_of_run : final.policy = initial.policy := by
  induction run with
  | start => rfl
  | next previous taken ih =>
    have validPast := forall_of_append valid
    exact ((sound_of_run sound previous validPast).step_policy
      (valid _ List.mem_concat_self) taken).trans (ih validPast)

/-- Every frame delivered so far lies at or below the cut-off, in increasing order. -/
theorem delivered_increasing : ((readyFrames past).map (·.frameId)).Pairwise (· < ·) ∧
      ∀ frame ∈ readyFrames past, final.late frame.frameId = true := by
  induction run with
  | start => simp [readyFrames]
  | @next past current input reply after previous taken ih =>
    have validPast : ∀ call ∈ past, call.input.Valid := forall_of_append valid
    have validNow := valid _ List.mem_concat_self
    obtain ⟨increasing, below⟩ := ih validPast
    rw [readyFrames_append]
    rcases (sound_of_run sound previous validPast).step_ready validNow taken with
      ⟨nothing, same⟩ | ⟨frame, ready, current', cutOff⟩
    · rw [nothing, List.append_nil]
      exact ⟨increasing, fun frame member => by simpa only [late, same] using below frame member⟩
    · have above : ∀ old ∈ readyFrames past, old.frameId < frame.frameId := by
        intro old member
        obtain ⟨latest, atLatest, le⟩ := late_iff.mp (below old member)
        exact UInt64.lt_of_le_of_lt le (not_late_iff.mp current' latest atLatest)
      rw [ready, List.map_append, List.pairwise_append]
      refine ⟨⟨increasing, by simp, ?_⟩, ?_⟩
      · simpa using above
      · intro old member
        refine late_iff.mpr ⟨frame.frameId, cutOff, ?_⟩
        rcases List.mem_append.mp member with earlier | new
        · exact UInt64.le_of_lt (above old earlier)
        · exact List.mem_singleton.mp new ▸ UInt64.le_refl _

end Runs

end ClassMesh
