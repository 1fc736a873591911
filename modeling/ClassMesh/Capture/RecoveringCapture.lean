import ClassMesh.Foundation.Run
import ClassMesh.Foundation.Saturating

namespace ClassMesh

open Foundation

inductive RecoveryReason
  | accessLost
  | deviceRemoved
  | deviceReset
  | displayChanged
  | monitorHotPlug
  | sessionChanged
  | secureDesktop
  | encoderFailure
  | decoderFailure
  | networkFailure
deriving DecidableEq

inductive RecoveryState
  | idle
  | starting
  | healthy
  | suspended
  | recovering (attempt : UInt8) (reason : RecoveryReason)
  | failed (reason : RecoveryReason)
deriving DecidableEq

structure RecoveryPolicy where
  maxAttempts : UInt8 := 8
  baseBackoffMs : Nat := 100
  maxBackoffMs : Nat := 5000
deriving DecidableEq

def RecoveryPolicy.backoffMs (policy : RecoveryPolicy) (attempt : UInt8) : Nat :=
  min (min (policy.baseBackoffMs * 2 ^ min (attempt.toNat - 1) 16) (UInt64.size - 1)) policy.maxBackoffMs

structure RecoveryController where
  state : RecoveryState := .idle
  policy : RecoveryPolicy
deriving DecidableEq

namespace RecoveryController

variable (controller : RecoveryController)

def markStarting : RecoveryController := { controller with state := .starting }

def markHealthy : RecoveryController := { controller with state := .healthy }

def suspend : RecoveryController := { controller with state := .suspended }

def begin (reason : RecoveryReason) : RecoveryController × Nat :=
  ({ controller with state := .recovering 1 reason }, controller.policy.backoffMs 1)

def retryFailed : RecoveryController × Option Nat :=
  match controller.state with
  | .recovering attempt reason =>
    if controller.policy.maxAttempts ≤ attempt then ({ controller with state := .failed reason }, none)
    else
      let nextAttempt := if attempt = 255 then 255 else attempt + 1
      ({ controller with state := .recovering nextAttempt reason }, some (controller.policy.backoffMs nextAttempt))
  | _ => (controller, none)

end RecoveryController

inductive CaptureFailure
  | timeout
  | accessLost
  | accessDenied
  | deviceRemoved
  | deviceReset
  | displayChanged
  | monitorRemoved
  | sessionDisconnected
  | protectedContentSuspected
  | unsupported
  | fatal
deriving DecidableEq

namespace CaptureFailure

def isRecoverable : CaptureFailure → Bool
  | accessLost | deviceRemoved | deviceReset | displayChanged | monitorRemoved | sessionDisconnected => true
  | _ => false

def isSuspension : CaptureFailure → Bool
  | accessDenied | protectedContentSuspected => true
  | _ => false

def recoveryReason : CaptureFailure → Option RecoveryReason
  | accessLost => some .accessLost
  | deviceRemoved => some .deviceRemoved
  | deviceReset => some .deviceReset
  | displayChanged | monitorRemoved => some .displayChanged
  | sessionDisconnected => some .sessionChanged
  | accessDenied => some .secureDesktop
  | protectedContentSuspected | timeout | unsupported | fatal => none

end CaptureFailure

structure CapturedFrameMeta where
  frameId : UInt64
  captureTimestampUs : UInt64
  width : UInt32
  height : UInt32
  accumulatedFrames : UInt32
  pointerVisible : Bool
deriving DecidableEq

inductive CaptureStep (F : Type)
  | frame (info : CapturedFrameMeta) (frame : F)
  | noFrame
  | retryAfter (delayMs : Nat) (reason : CaptureFailure)
  | suspended (failure : CaptureFailure)
  | failed (failure : CaptureFailure)
deriving DecidableEq

/-- A capture backend. `ω` is what the platform answers when a frame is asked for. -/
class CaptureBackend (B : Type) (ω F : outParam Type) where
  acquire : B → ω → B × Except CaptureFailure (CapturedFrameMeta × F)

/-- The target display and the factory are left to the caller: wherever the code calls the factory, the
argument `created` is the factory's result. -/
structure RecoveringCapture (B : Type) where
  backend : Option B := none
  recovery : RecoveryController
  pendingFailure : Option CaptureFailure := none

namespace RecoveringCapture

variable {B ω F : Type} (capture : RecoveringCapture B)

def new (policy : RecoveryPolicy) : RecoveringCapture B := { recovery := { policy := policy } }

def start (created : Except CaptureFailure B) : RecoveringCapture B × Except CaptureFailure Unit :=
  let capture := { capture with recovery := capture.recovery.markStarting }
  match created with
  | .ok backend =>
    ({ backend := some backend, recovery := capture.recovery.markHealthy, pendingFailure := none }, .ok ())
  | .error error => ({ capture with backend := none }, .error error)

def resume (created : Except CaptureFailure B) : RecoveringCapture B × Except CaptureFailure Unit :=
  capture.start created

def tryRecreate (created : Except CaptureFailure B) (originalError : CaptureFailure) (delayMs : Nat) :
    RecoveringCapture B × CaptureStep F :=
  match created with
  | .ok backend =>
    ({ backend := some backend, recovery := capture.recovery.markHealthy, pendingFailure := none },
      .retryAfter 0 originalError)
  | .error _ => (capture, .retryAfter delayMs originalError)

def beginRecovery (created : Except CaptureFailure B) (error : CaptureFailure) : RecoveringCapture B × CaptureStep F :=
  let (recovery, delayMs) := capture.recovery.begin (error.recoveryReason.getD .accessLost)
  tryRecreate { backend := none, recovery := recovery, pendingFailure := some error } created error delayMs

def retryPendingRecovery (created : Except CaptureFailure B) : RecoveringCapture B × CaptureStep F :=
  match capture.pendingFailure with
  | none => (capture, .failed .fatal)
  | some error =>
    match capture.recovery.state with
    | .suspended => (capture, .suspended error)
    | .recovering _ _ =>
      let (recovery, delayMs) := capture.recovery.retryFailed
      let capture := { capture with recovery := recovery }
      match capture.recovery.state with
      | .failed _ => (capture, .failed error)
      | _ => capture.tryRecreate created error (delayMs.getD 0)
    | _ => (capture, .failed error)

def poll [CaptureBackend B ω F] (capture : RecoveringCapture B) (answer : ω) (created : Except CaptureFailure B) :
    RecoveringCapture B × CaptureStep F :=
  match capture.backend with
  | none => capture.retryPendingRecovery created
  | some backend =>
    match CaptureBackend.acquire backend answer with
    | (backend, .ok (info, frame)) =>
      ({ backend := some backend, recovery := capture.recovery.markHealthy, pendingFailure := none },
        .frame info frame)
    | (backend, .error error) =>
      if error = .timeout then ({ capture with backend := some backend }, .noFrame)
      else if error.isSuspension then
        ({ backend := none, recovery := capture.recovery.suspend, pendingFailure := some error }, .suspended error)
      else if error.isRecoverable then capture.beginRecovery created error
      else ({ capture with backend := none, pendingFailure := some error }, .failed error)

/-- What the acquisition fails with, if there is a backend and it fails. -/
def acquireFailure [CaptureBackend B ω F] (capture : RecoveringCapture B) (answer : ω) : Option CaptureFailure :=
  match capture.backend with
  | none => none
  | some backend =>
    match (CaptureBackend.acquire backend answer).2 with
    | .ok _ => none
    | .error error => some error

/-- Whether a poll asks the factory for a backend. -/
def asksFactory [CaptureBackend B ω F] (capture : RecoveringCapture B) (answer : ω) : Bool :=
  match capture.backend with
  | some _ => (capture.acquireFailure answer).any CaptureFailure.isRecoverable
  | none =>
    match capture.pendingFailure, capture.recovery.state with
    | some _, .recovering attempt _ => attempt < capture.recovery.policy.maxAttempts
    | _, _ => false

end RecoveringCapture

structure DisplayDescriptor where
  width : UInt32
  height : UInt32
deriving DecidableEq

/-- What `AcquireNextFrame` and the clock give for a new frame. -/
structure AcquiredFrame (F : Type) where
  elapsedUs : UInt64
  accumulatedFrames : UInt32
  pointerVisible : Bool
  frame : F

structure DxgiCaptureBackend (F : Type) where
  descriptor : DisplayDescriptor
  nextFrameId : UInt64

namespace DxgiCaptureBackend

variable {F : Type}

/-- `DxgiCaptureBackend::open`, given what looking up and duplicating the output results in. -/
def openTarget (found : Except CaptureFailure DisplayDescriptor) : Except CaptureFailure (DxgiCaptureBackend F) :=
  found.map fun descriptor => { descriptor := descriptor, nextFrameId := 1 }

def acquire (backend : DxgiCaptureBackend F) (answer : Except CaptureFailure (AcquiredFrame F)) :
    DxgiCaptureBackend F × Except CaptureFailure (CapturedFrameMeta × F) :=
  match answer with
  | .error error => (backend, .error error)
  | .ok acquired =>
    ({ backend with nextFrameId := saturatingAdd backend.nextFrameId 1 },
      .ok ({ frameId := backend.nextFrameId
             captureTimestampUs := acquired.elapsedUs
             width := backend.descriptor.width
             height := backend.descriptor.height
             accumulatedFrames := acquired.accumulatedFrames
             pointerVisible := acquired.pointerVisible }, acquired.frame))

instance : CaptureBackend (DxgiCaptureBackend F) (Except CaptureFailure (AcquiredFrame F)) F where
  acquire := acquire

end DxgiCaptureBackend

/-- The calls on a capture over DXGI backends, with the platform's answers. -/
inductive CaptureInput (F : Type)
  | start (found : Except CaptureFailure DisplayDescriptor)
  | resume (found : Except CaptureFailure DisplayDescriptor)
  | poll (answer : Except CaptureFailure (AcquiredFrame F)) (found : Except CaptureFailure DisplayDescriptor)

inductive CaptureReply (F : Type)
  | started (result : Except CaptureFailure Unit)
  | polled (step : CaptureStep F)

abbrev DxgiCapture (F : Type) := RecoveringCapture (DxgiCaptureBackend F)

def DxgiCapture.step {F : Type} (capture : DxgiCapture F) : CaptureInput F → DxgiCapture F × CaptureReply F
  | .start found =>
    let (capture, result) := capture.start (DxgiCaptureBackend.openTarget found)
    (capture, .started result)
  | .resume found =>
    let (capture, result) := capture.resume (DxgiCaptureBackend.openTarget found)
    (capture, .started result)
  | .poll answer found =>
    let (capture, step) := capture.poll answer (DxgiCaptureBackend.openTarget found)
    (capture, .polled step)

end ClassMesh
