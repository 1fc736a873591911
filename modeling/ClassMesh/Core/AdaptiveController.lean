import ClassMesh.Core.Adaptation
import ClassMesh.Foundation.Run
import ClassMesh.Foundation.Streak

namespace ClassMesh

open Foundation

variable {S : Type}

/-- What the thresholds of a policy make of a sample: its tier, and its transport over any tier but the lowest. -/
structure AdaptationPolicy (S : Type) where
  qualityTier : S → QualityTier
  path : StreamKind → S → MediaTransport

namespace AdaptationPolicy

def transport (policy : AdaptationPolicy S) (kind : StreamKind) (sample : S) (tier : QualityTier) : MediaTransport :=
  if tier = .emergency then .reliableFallback else policy.path kind sample

def decisionForTier (policy : AdaptationPolicy S) (kind : StreamKind) (sample : S) (tier : QualityTier) :
    StreamDecision :=
  ⟨policy.transport kind sample tier, profileFor kind tier, tier⟩

def decide (policy : AdaptationPolicy S) (kind : StreamKind) (sample : S) : StreamDecision :=
  policy.decisionForTier kind sample (policy.qualityTier sample)

end AdaptationPolicy

/-- A transport other than the current one and for how many samples in a row it was the candidate. -/
abbrev PendingTransport := Pending MediaTransport

def applyTransportHysteresis (current candidate : MediaTransport) (pending : PendingTransport)
    (hysteresis : HysteresisConfig) : MediaTransport × PendingTransport :=
  if candidate = current then (current, {})
  else if candidate = .reliableFallback then (candidate, {})
  else
    let counted := pending.count candidate
    if max hysteresis.transportSamples.toNat 1 ≤ counted.samples then (candidate, {}) else (current, counted)

structure AdaptiveController (S : Type) where
  kind : StreamKind
  policy : AdaptationPolicy S
  hysteresis : HysteresisConfig
  current : Option StreamDecision := none
  pendingTier : PendingTier := {}
  pendingTransport : PendingTransport := {}

namespace AdaptiveController

def observe (controller : AdaptiveController S) (sample : S) : AdaptiveController S × StreamDecision :=
  let candidate := controller.policy.decide controller.kind sample
  match controller.current with
  | none => ({ controller with current := some candidate }, candidate)
  | some current =>
    let (tier, pendingTier) :=
      applyTierHysteresis current.tier candidate.tier controller.pendingTier controller.hysteresis
    let base := controller.policy.decisionForTier controller.kind sample tier
    let (transport, pendingTransport) :=
      applyTransportHysteresis current.transport base.transport controller.pendingTransport controller.hysteresis
    let next : StreamDecision := ⟨transport, profileFor controller.kind tier, tier⟩
    ({ controller with current := some next, pendingTier := pendingTier, pendingTransport := pendingTransport }, next)

def tier (controller : AdaptiveController S) : Option QualityTier := controller.current.map (·.tier)

end AdaptiveController

abbrev AdaptiveCall (S : Type) := Call (AdaptiveController S) S StreamDecision

end ClassMesh
