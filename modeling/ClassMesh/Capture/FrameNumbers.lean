import ClassMesh.Capture.RecoveringCapture
import ClassMesh.Foundation.RestartingCounter

namespace ClassMesh

open Foundation

variable {F : Type}

abbrev CaptureCall (F : Type) := Call (DxgiCapture F) (CaptureInput F) (CaptureReply F)

/-- The id of the frame that a call returned. -/
def CaptureReply.frameId : CaptureReply F → Option UInt64
  | .polled (.frame info _) => some info.frameId
  | _ => none

/-- A call captures a frame, puts a newly opened backend in place, or does neither. Which of them follows from the
capture as the call finds it and from the answers of the platform. -/
def DxgiCapture.event (capture : DxgiCapture F) : CaptureInput F → CounterEvent
  | .start found | .resume found => if found.toBool then .restart else .idle
  | .poll answer found =>
    if capture.backend.isSome && answer.toBool then .issue
    else if capture.asksFactory answer && found.toBool then .restart
    else .idle

def CaptureCall.event (call : CaptureCall F) : CounterEvent := DxgiCapture.event call.before call.input

def frameIds (past : List (CaptureCall F)) : List UInt64 := past.filterMap fun call => call.reply.frameId

/-- The number that the current backend gives to its next frame. -/
def RecoveringCapture.nextFrameId (capture : DxgiCapture F) : Option UInt64 := capture.backend.map (·.nextFrameId)

/-- What a call does to the numbering, by its event. -/
def Numbers (before : Option UInt64) (reply : CaptureReply F) (after : Option UInt64) : CounterEvent → Prop
  | .issue => ∃ frameId, before = some frameId ∧ reply.frameId = some frameId ∧ after = some (saturatingAdd frameId 1)
  | .restart => reply.frameId = none ∧ after = some 1
  | .idle => reply.frameId = none ∧ (after = none ∨ after = before)

namespace RecoveringCapture

variable {capture : DxgiCapture F} {found : Except CaptureFailure DisplayDescriptor}

theorem start_numbers (capture : DxgiCapture F) :
    let result := capture.start (DxgiCaptureBackend.openTarget found)
    Numbers capture.nextFrameId (.started result.2 : CaptureReply F) result.1.nextFrameId
      (if found.toBool then .restart else .idle) := by
  cases found with
  | ok => exact ⟨rfl, rfl⟩
  | error => exact ⟨rfl, .inl rfl⟩

/-- A retry puts a new backend in place, or there is none. -/
theorem tryRecreate_numbers (empty : capture.backend = none) (error : CaptureFailure) (delayMs : Nat)
    (before : Option UInt64) :
    let result : DxgiCapture F × CaptureStep F :=
      capture.tryRecreate (DxgiCaptureBackend.openTarget found) error delayMs
    Numbers before (.polled result.2) result.1.nextFrameId (if found.toBool then .restart else .idle) := by
  cases found with
  | ok => exact ⟨rfl, rfl⟩
  | error => exact ⟨rfl, .inl (by simp [tryRecreate, DxgiCaptureBackend.openTarget, Except.map, nextFrameId, empty])⟩

theorem retryPendingRecovery_numbers (empty : capture.backend = none)
    (answer : Except CaptureFailure (AcquiredFrame F)) :
    let result : DxgiCapture F × CaptureStep F :=
      capture.retryPendingRecovery (DxgiCaptureBackend.openTarget found)
    Numbers capture.nextFrameId (.polled result.2) result.1.nextFrameId
      (if capture.asksFactory answer && found.toBool then .restart else .idle) := by
  unfold retryPendingRecovery asksFactory
  rw [empty]
  cases capture.pendingFailure with
  | none => exact ⟨rfl, .inr rfl⟩
  | some =>
    cases state : capture.recovery.state with
    | recovering attempt =>
      by_cases more : attempt < capture.recovery.policy.maxAttempts
      · simp only [RecoveryController.retryFailed, state, if_neg (UInt8.not_le.mpr more), decide_eq_true more,
          Bool.true_and]
        exact tryRecreate_numbers rfl _ _ _
      · simp only [RecoveryController.retryFailed, state, if_pos (UInt8.not_lt.mp more), decide_eq_false more,
          Bool.false_and, Bool.false_eq_true, if_false]
        exact ⟨rfl, .inl rfl⟩
    | idle | starting | healthy | suspended | failed => exact ⟨rfl, .inr rfl⟩

theorem poll_numbers (capture : DxgiCapture F) (answer : Except CaptureFailure (AcquiredFrame F)) :
    let result : DxgiCapture F × CaptureStep F := capture.poll answer (DxgiCaptureBackend.openTarget found)
    Numbers capture.nextFrameId (.polled result.2) result.1.nextFrameId
      (DxgiCapture.event capture (.poll answer found)) := by
  unfold poll DxgiCapture.event
  cases present : capture.backend with
  | none => exact retryPendingRecovery_numbers present answer
  | some backend =>
    have next : capture.nextFrameId = some backend.nextFrameId := by simp [nextFrameId, present]
    cases answer with
    | ok => exact ⟨backend.nextFrameId, next, rfl, rfl⟩
    | error error =>
      simp only [CaptureBackend.acquire, DxgiCaptureBackend.acquire, asksFactory, acquireFailure, present,
        Option.any_some, Except.toBool, Bool.and_false, Bool.false_eq_true, if_false]
      cases recoverable : error.isRecoverable with
      | true =>
        have other : error ≠ .timeout ∧ error.isSuspension = false := by
          cases error <;> simp_all [CaptureFailure.isRecoverable, CaptureFailure.isSuspension]
        rw [if_neg other.1, other.2, Bool.true_and]
        exact tryRecreate_numbers rfl _ _ _
      | false =>
        split
        · exact ⟨rfl, .inr next.symm⟩
        split
        · exact ⟨rfl, .inl rfl⟩
        · exact ⟨rfl, .inl rfl⟩

end RecoveringCapture

theorem step_numbers {capture after : DxgiCapture F} {input : CaptureInput F} {reply : CaptureReply F}
    (taken : Total DxgiCapture.step capture input reply after) :
    Numbers capture.nextFrameId reply after.nextFrameId (CaptureCall.event ⟨capture, input, reply, after⟩) := by
  cases input with
  | start | resume =>
    cases taken
    exact RecoveringCapture.start_numbers capture
  | poll answer =>
    cases taken
    exact RecoveringCapture.poll_numbers capture answer

section Runs

variable {initial final : DxgiCapture F} {past : List (CaptureCall F)}

/-- The ids of a run are those of a counter that is restarted whenever a backend is opened. -/
theorem frameIds_eq_issued (fresh : initial.backend = none) (run : Run (Total DxgiCapture.step) initial past final) :
    (frameIds past).map UInt64.toNat = issued (UInt64.size - 1) 0 (past.map CaptureCall.event) ∧
      ∀ frameId, final.nextFrameId = some frameId →
        frameId.toNat = min (sinceRestart 0 (past.map CaptureCall.event) + 1) (UInt64.size - 1) := by
  induction run with
  | start => simp [frameIds, issued, RecoveringCapture.nextFrameId, fresh]
  | @next past current input reply after previous taken ih =>
    obtain ⟨ids, next⟩ := ih
    have numbers := step_numbers taken
    simp only [frameIds, List.filterMap_append, List.map_append, List.map_cons, List.map_nil, issued_append,
      sinceRestart_append] at ids ⊢
    rw [ids]
    cases event : CaptureCall.event ⟨current, input, reply, after⟩ with
    | issue =>
      rw [event] at numbers
      obtain ⟨frameId, atBefore, atReply, atAfter⟩ := numbers
      have value := next frameId atBefore
      refine ⟨by simp [atReply, issued, value], ?_⟩
      rintro following atFollowing
      cases Option.some.inj (atAfter.symm.trans atFollowing)
      simp only [sinceRestart, saturatingAdd_toNat]
      omega
    | restart =>
      rw [event] at numbers
      obtain ⟨noFrame, atAfter⟩ := numbers
      refine ⟨by simp [noFrame, issued], ?_⟩
      rintro following atFollowing
      cases Option.some.inj (atAfter.symm.trans atFollowing)
      rfl
    | idle =>
      rw [event] at numbers
      obtain ⟨noFrame, gone | same⟩ := numbers
      · exact ⟨by simp [noFrame, issued], fun following atFollowing => by simp [gone] at atFollowing⟩
      · exact ⟨by simp [noFrame, issued], fun following atFollowing => next following (same ▸ atFollowing)⟩

/-- No backend is opened between two captured frames, and no more frames are captured than there are ids. -/
def NumberedOnce (past : List (CaptureCall F)) : Prop :=
  ¬[CounterEvent.issue, .restart, .issue].Sublist (past.map CaptureCall.event) ∧ (frameIds past).length < UInt64.size

theorem length_frameIds (fresh : initial.backend = none) (run : Run (Total DxgiCapture.step) initial past final) :
    (frameIds past).length = (past.map CaptureCall.event).count .issue := by
  rw [← length_issued, ← (frameIds_eq_issued fresh run).1, List.length_map]

theorem frameIds_increasing_iff (fresh : initial.backend = none)
    (run : Run (Total DxgiCapture.step) initial past final) : (frameIds past).Pairwise (· < ·) ↔ NumberedOnce past := by
  have counted := issued_increasing_iff (by decide : 0 < UInt64.size - 1) (past.map CaptureCall.event)
  rw [← (frameIds_eq_issued fresh run).1, List.pairwise_map] at counted
  simp only [← UInt64.lt_iff_toNat_lt] at counted
  rw [counted, NumberedOnce, length_frameIds fresh run]
  have size : UInt64.size = 2 ^ 64 := rfl
  constructor
  · rintro ⟨_, clean⟩
    exact ⟨clean, by omega⟩
  · rintro ⟨clean, _⟩
    exact ⟨by omega, clean⟩

end Runs

end ClassMesh
