import ClassMesh.Core.Adaptation

namespace ClassMesh

variable {M : Type}

def receiverQualitySampleVersion : UInt16 := 1

/-- `M` holds the floating-point readings and the capability flags. -/
structure ReceiverQualitySample (M : Type) where
  schemaVersion : UInt16
  sampleSequence : UInt64
  observedAtUs : UInt64
  readings : M

inductive ReceiverQualitySampleError
  | unsupportedVersion (version : UInt16)
  | invalidSequence
  | invalidNetworkMetrics
  | invalidReorderedPacketRate
  | invalidDecodeDelay
  | invalidRenderDelay
  | invalidQueueDropRate
deriving DecidableEq

inductive ReceiverQualityPolicyError
  | invalidSampleAge
  | invalidThresholds
deriving DecidableEq

/-- The thresholds of the adaptation and the quality policy appear by what they decide: whether they are ordered, what
is wrong with readings, and the lower of the network tier and the health ceiling of a sample. -/
structure ReceiverQualityPolicy (M : Type) where
  maxSampleAgeUs : UInt64
  orderedThresholds : Bool
  invalidReadings : M → Option ReceiverQualitySampleError
  candidateTier : ReceiverQualitySample M → QualityTier

def ReceiverQualityPolicy.validate (policy : ReceiverQualityPolicy M) : Except ReceiverQualityPolicyError Unit :=
  if policy.maxSampleAgeUs = 0 then .error .invalidSampleAge
  else if !policy.orderedThresholds then .error .invalidThresholds
  else .ok ()

def ReceiverQualitySample.validate (policy : ReceiverQualityPolicy M) (sample : ReceiverQualitySample M) :
    Except ReceiverQualitySampleError Unit :=
  if sample.schemaVersion ≠ receiverQualitySampleVersion then .error (.unsupportedVersion sample.schemaVersion)
  else if sample.sampleSequence = 0 then .error .invalidSequence
  else
    match policy.invalidReadings sample.readings with
    | some error => .error error
    | none => .ok ()

inductive ReceiverQualitySampleStatus
  | accepted
  | invalidSample (error : ReceiverQualitySampleError)
  | futureObservation
  | staleAge
  | nonMonotonicSequence
  | nonMonotonicObservationTime
deriving DecidableEq

structure ReceiverQualityObservation where
  decision : FocusedProfileDecision
  status : ReceiverQualitySampleStatus
deriving DecidableEq

structure ReceiverQualityController (M : Type) where
  qualityPolicy : ReceiverQualityPolicy M
  profileController : FocusedProfileController
  lastSequence : Option UInt64 := none
  lastObservedAtUs : Option UInt64 := none

namespace ReceiverQualityController

variable (controller : ReceiverQualityController M)

def new (kind : StreamKind) (hysteresis : HysteresisConfig) (qualityPolicy : ReceiverQualityPolicy M) :
    Except ReceiverQualityPolicyError (ReceiverQualityController M) :=
  match qualityPolicy.validate with
  | .error error => .error error
  | .ok () => .ok { qualityPolicy := qualityPolicy, profileController := { kind := kind, hysteresis := hysteresis } }

def tier : Option QualityTier := controller.profileController.currentTier

def validateObservation (sample : ReceiverQualitySample M) (nowUs : UInt64) : ReceiverQualitySampleStatus :=
  match sample.validate controller.qualityPolicy with
  | .error error => .invalidSample error
  | .ok () =>
    if nowUs < sample.observedAtUs then .futureObservation
    else if controller.qualityPolicy.maxSampleAgeUs < nowUs - sample.observedAtUs then .staleAge
    else if controller.lastSequence.any (sample.sampleSequence ≤ ·) then .nonMonotonicSequence
    else if controller.lastObservedAtUs.any (sample.observedAtUs ≤ ·) then .nonMonotonicObservationTime
    else .accepted

def observe (sample : ReceiverQualitySample M) (nowUs : UInt64) :
    ReceiverQualityController M × ReceiverQualityObservation :=
  let status := controller.validateObservation sample nowUs
  let candidate := if status = .accepted then controller.qualityPolicy.candidateTier sample else .emergency
  let recorded :=
    if status = .accepted then
      { controller with lastSequence := some sample.sampleSequence, lastObservedAtUs := some sample.observedAtUs }
    else controller
  let (profileController, decision) := controller.profileController.observeTier candidate
  ({ recorded with profileController := profileController }, ⟨decision, status⟩)

def expireIfStale (nowUs : UInt64) : ReceiverQualityController M × Option FocusedProfileDecision :=
  match controller.lastObservedAtUs with
  | none => (controller, none)
  | some last =>
    if last ≤ nowUs ∧ nowUs - last ≤ controller.qualityPolicy.maxSampleAgeUs then (controller, none)
    else
      match controller.profileController.current with
      | none => (controller, none)
      | some _ =>
        let (profileController, decision) := controller.profileController.forceEmergencyOnTelemetryLoss
        ({ controller with profileController := profileController }, if decision.changed then some decision else none)

end ReceiverQualityController

end ClassMesh
