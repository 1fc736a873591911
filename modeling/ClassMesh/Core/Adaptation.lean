import ClassMesh.Foundation.Streak

namespace ClassMesh

open Foundation

inductive StreamKind
  | monitoring
  | interactive
  | teacherPresentation
deriving DecidableEq

inductive MediaTransport
  | udpMulticast
  | udpUnicast
  | quicDatagram
  | webRtc
  | reliableFallback
deriving DecidableEq

def maxStreamWidth : UInt16 := 1920
def maxStreamHeight : UInt16 := 1080
def maxStreamFps : UInt8 := 60
def maxStreamBitrateKbps : UInt32 := 50000

inductive StreamProfileError
  | invalidGeometry
  | invalidFps
  | invalidBitrate
deriving DecidableEq

structure StreamProfile where
  width : UInt16
  height : UInt16
  fps : UInt8
  bitrateKbps : UInt32
deriving DecidableEq

def StreamProfile.validate (profile : StreamProfile) : Except StreamProfileError StreamProfile :=
  if profile.width < 2 ∨ profile.height < 2 ∨ maxStreamWidth < profile.width ∨ maxStreamHeight < profile.height ∨
      profile.width % 2 ≠ 0 ∨ profile.height % 2 ≠ 0 then .error .invalidGeometry
  else if profile.fps = 0 ∨ maxStreamFps < profile.fps then .error .invalidFps
  else if profile.bitrateKbps = 0 ∨ maxStreamBitrateKbps < profile.bitrateKbps then .error .invalidBitrate
  else .ok profile

inductive QualityTier
  | emergency
  | low
  | medium
  | high
deriving DecidableEq, Repr

instance : LinearOrder QualityTier :=
  LinearOrder.lift' QualityTier.ctorIdx fun a b same => by
    cases a <;> cases b <;> first | rfl | exact absurd same (by decide)

theorem QualityTier.emergency_le (tier : QualityTier) : .emergency ≤ tier := by
  cases tier <;> decide

structure StreamDecision where
  transport : MediaTransport
  profile : StreamProfile
  tier : QualityTier
deriving DecidableEq

structure HysteresisConfig where
  degradeSamples : UInt8 := 2
  recoverSamples : UInt8 := 5
  transportSamples : UInt8 := 3
deriving DecidableEq

def profileFor : StreamKind → QualityTier → StreamProfile
  | .monitoring, .high => ⟨640, 360, 5, 700⟩
  | .monitoring, .medium => ⟨480, 270, 4, 450⟩
  | .monitoring, .low => ⟨320, 180, 3, 250⟩
  | .monitoring, .emergency => ⟨320, 180, 1, 120⟩
  | .interactive, .high => ⟨1920, 1080, 30, 5000⟩
  | .interactive, .medium => ⟨1280, 720, 30, 2500⟩
  | .interactive, .low => ⟨960, 540, 30, 1500⟩
  | .interactive, .emergency => ⟨640, 360, 20, 700⟩
  | .teacherPresentation, .high => ⟨1920, 1080, 30, 5000⟩
  | .teacherPresentation, .medium => ⟨1280, 720, 30, 2500⟩
  | .teacherPresentation, .low => ⟨1280, 720, 20, 1500⟩
  | .teacherPresentation, .emergency => ⟨854, 480, 10, 700⟩

/-- A tier other than the current one and for how many samples in a row it was the candidate. -/
abbrev PendingTier := Pending QualityTier

section Hysteresis

def HysteresisConfig.required (hysteresis : HysteresisConfig) (current candidate : QualityTier) : Nat :=
  if candidate < current then max hysteresis.degradeSamples.toNat 1 else max hysteresis.recoverSamples.toNat 1

def applyTierHysteresis (current candidate : QualityTier) (pending : PendingTier) (hysteresis : HysteresisConfig) :
    QualityTier × PendingTier :=
  if candidate = current then (current, {})
  else
    let counted := pending.count candidate
    if hysteresis.required current candidate ≤ counted.samples then (candidate, {}) else (current, counted)

theorem HysteresisConfig.required_le (hysteresis : HysteresisConfig) (current candidate : QualityTier) :
    hysteresis.required current candidate ≤ 255 := by
  have degrade := hysteresis.degradeSamples.toNat_lt
  have recover := hysteresis.recoverSamples.toNat_lt
  unfold HysteresisConfig.required
  split <;> omega

end Hysteresis

structure FocusedProfileDecision where
  profile : StreamProfile
  tier : QualityTier
  changed : Bool
deriving DecidableEq

/-- The policy that turns network metrics into a tier is a parameter of the callers. -/
structure FocusedProfileController where
  kind : StreamKind
  hysteresis : HysteresisConfig
  currentTier : Option QualityTier := none
  pending : PendingTier := {}
deriving DecidableEq

namespace FocusedProfileController

variable (controller : FocusedProfileController)

def current : Option FocusedProfileDecision :=
  controller.currentTier.map fun tier => ⟨profileFor controller.kind tier, tier, false⟩

def forceEmergencyOnTelemetryLoss : FocusedProfileController × FocusedProfileDecision :=
  ({ controller with currentTier := some .emergency, pending := {} },
    ⟨profileFor controller.kind .emergency, .emergency, controller.currentTier ≠ some .emergency⟩)

def observeTier (candidate : QualityTier) : FocusedProfileController × FocusedProfileDecision :=
  match controller.currentTier with
  | none => ({ controller with currentTier := some candidate }, ⟨profileFor controller.kind candidate, candidate, true⟩)
  | some current =>
    let (tier, pending) := applyTierHysteresis current candidate controller.pending controller.hysteresis
    ({ controller with currentTier := some tier, pending := pending },
      ⟨profileFor controller.kind tier, tier, tier ≠ current⟩)

variable {controller : FocusedProfileController} {candidate : QualityTier}

/-- What a candidate does to a controller: it is the first one, confirms the tier, replaces it or waits. -/
inductive Observed (controller : FocusedProfileController) (candidate : QualityTier) : FocusedProfileController → Prop
  | first : controller.currentTier = none →
      Observed controller candidate { controller with currentTier := some candidate }
  | confirmed : controller.currentTier = some candidate →
      Observed controller candidate { controller with currentTier := some candidate, pending := {} }
  | replaced {current : QualityTier} : controller.currentTier = some current → candidate ≠ current →
      controller.hysteresis.required current candidate ≤ (controller.pending.count candidate).samples →
      Observed controller candidate { controller with currentTier := some candidate, pending := {} }
  | waiting {current : QualityTier} : controller.currentTier = some current → candidate ≠ current →
      (controller.pending.count candidate).samples < controller.hysteresis.required current candidate →
      Observed controller candidate
        { controller with currentTier := some current, pending := controller.pending.count candidate }

theorem observeTier_observed (candidate : QualityTier) :
    Observed controller candidate (controller.observeTier candidate).1 := by
  unfold observeTier
  split
  case h_1 unset => exact .first unset
  case h_2 current set =>
    unfold applyTierHysteresis
    by_cases confirms : candidate = current
    · rw [if_pos confirms, ← confirms]
      exact .confirmed (confirms ▸ set)
    · rw [if_neg confirms]
      by_cases enough : controller.hysteresis.required current candidate ≤ (controller.pending.count candidate).samples
      · rw [if_pos enough]
        exact .replaced set confirms enough
      · rw [if_neg enough]
        exact .waiting set confirms (Nat.lt_of_not_le enough)

namespace Observed

variable {after : FocusedProfileController} (outcome : Observed controller candidate after)

include outcome

theorem hysteresis_eq : after.hysteresis = controller.hysteresis := by
  cases outcome <;> rfl

theorem tier_cases : after.currentTier = some candidate ∨ after.currentTier = controller.currentTier := by
  cases outcome with
  | first | confirmed | replaced => exact .inl rfl
  | waiting set => exact .inr set.symm

/-- A tier that is pending afterwards was so before the first sample, or is the candidate and waits. -/
theorem pending_cases {tier : QualityTier} (waits : after.pending.candidate = some tier) :
    (controller.currentTier = none ∧ after.pending = controller.pending) ∨
      ∃ current, after.currentTier = some current ∧ after.pending = controller.pending.count candidate ∧
        after.pending.samples < controller.hysteresis.required current candidate := by
  cases outcome with
  | first unset => exact .inl ⟨unset, rfl⟩
  | confirmed | replaced => cases waits
  | @waiting current set different few => exact .inr ⟨current, rfl, rfl, few⟩

/-- A tier rises to a candidate that was counted often enough. -/
theorem rise {old new : QualityTier} (before : controller.currentTier = some old) (now : after.currentTier = some new)
    (risen : old < new) :
    candidate = new ∧
      max controller.hysteresis.recoverSamples.toNat 1 ≤ (controller.pending.count candidate).samples := by
  cases outcome with
  | first unset => simp [unset] at before
  | confirmed set =>
    cases set.symm.trans before
    cases now
    exact absurd risen (lt_irrefl _)
  | replaced set different enough =>
    cases set.symm.trans before
    cases now
    rw [HysteresisConfig.required, if_neg (not_lt_of_gt risen)] at enough
    exact ⟨rfl, enough⟩
  | waiting set =>
    cases set.symm.trans before
    cases now
    exact absurd risen (lt_irrefl _)

end Observed

end FocusedProfileController

end ClassMesh
