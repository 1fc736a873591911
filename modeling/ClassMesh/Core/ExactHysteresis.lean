import ClassMesh.Core.AdaptiveController

namespace ClassMesh

open Foundation AdaptiveController

variable {S : Type}

section Outcomes

/-- What hysteresis makes of a candidate tier. -/
inductive TierOutcome (current candidate : QualityTier) (pending : PendingTier) (hysteresis : HysteresisConfig) :
    QualityTier × PendingTier → Prop
  | confirmed : candidate = current → TierOutcome current candidate pending hysteresis (current, {})
  | replaced : candidate ≠ current → hysteresis.required current candidate ≤ (pending.count candidate).samples →
      TierOutcome current candidate pending hysteresis (candidate, {})
  | waiting : candidate ≠ current → (pending.count candidate).samples < hysteresis.required current candidate →
      TierOutcome current candidate pending hysteresis (current, pending.count candidate)

theorem tier_outcome (current candidate : QualityTier) (pending : PendingTier) (hysteresis : HysteresisConfig) :
    TierOutcome current candidate pending hysteresis (applyTierHysteresis current candidate pending hysteresis) := by
  unfold applyTierHysteresis
  by_cases same : candidate = current
  · rw [if_pos same]
    exact .confirmed same
  · rw [if_neg same]
    by_cases enough : hysteresis.required current candidate ≤ (pending.count candidate).samples
    · rw [if_pos enough]
      exact .replaced same enough
    · rw [if_neg enough]
      exact .waiting same (Nat.lt_of_not_le enough)

/-- What hysteresis makes of a candidate transport. -/
inductive TransportOutcome (current candidate : MediaTransport) (pending : PendingTransport)
    (hysteresis : HysteresisConfig) : MediaTransport × PendingTransport → Prop
  | confirmed : candidate = current → TransportOutcome current candidate pending hysteresis (current, {})
  | fallback : candidate = .reliableFallback → TransportOutcome current candidate pending hysteresis (candidate, {})
  | replaced : candidate ≠ current → max hysteresis.transportSamples.toNat 1 ≤ (pending.count candidate).samples →
      TransportOutcome current candidate pending hysteresis (candidate, {})
  | waiting : candidate ≠ .reliableFallback →
      TransportOutcome current candidate pending hysteresis (current, pending.count candidate)

theorem transport_outcome (current candidate : MediaTransport) (pending : PendingTransport)
    (hysteresis : HysteresisConfig) :
    TransportOutcome current candidate pending hysteresis
      (applyTransportHysteresis current candidate pending hysteresis) := by
  unfold applyTransportHysteresis
  by_cases same : candidate = current
  · rw [if_pos same]
    exact .confirmed same
  · rw [if_neg same]
    by_cases fallback : candidate = .reliableFallback
    · rw [if_pos fallback]
      exact .fallback fallback
    · rw [if_neg fallback]
      by_cases enough : max hysteresis.transportSamples.toNat 1 ≤ (pending.count candidate).samples
      · rw [if_pos enough]
        exact .replaced same enough
      · rw [if_neg enough]
        exact .waiting fallback

/-- What a sample does to a controller. -/
inductive ObserveOutcome (controller : AdaptiveController S) (sample : S) : AdaptiveController S → Prop
  | first : controller.current = none →
      ObserveOutcome controller sample
        { controller with current := some (controller.policy.decide controller.kind sample) }
  | next (current : StreamDecision) (tier : QualityTier) (pendingTier : PendingTier) (transport : MediaTransport)
      (pendingTransport : PendingTransport) : controller.current = some current →
      TierOutcome current.tier (controller.policy.qualityTier sample) controller.pendingTier controller.hysteresis
        (tier, pendingTier) →
      TransportOutcome current.transport (controller.policy.transport controller.kind sample tier)
        controller.pendingTransport controller.hysteresis (transport, pendingTransport) →
      ObserveOutcome controller sample
        { controller with
          current := some ⟨transport, profileFor controller.kind tier, tier⟩
          pendingTier := pendingTier
          pendingTransport := pendingTransport }

theorem observe_outcome (controller : AdaptiveController S) (sample : S) :
    ObserveOutcome controller sample (controller.observe sample).1 := by
  unfold observe
  cases known : controller.current with
  | none =>
    have outcome : ObserveOutcome controller sample _ := .first known
    simpa [known] using outcome
  | some current =>
    exact .next current _ _ _ _ known (tier_outcome _ _ _ _) (transport_outcome _ _ _ _)

end Outcomes

section History

/-- The sample came while a tier was active, and spoke for another one. -/
def speaksFor (policy : AdaptationPolicy S) (current candidate : QualityTier) (call : AdaptiveCall S) : Bool :=
  call.before.tier = some current && policy.qualityTier call.input = candidate

/-- The transport computed for the tier that was active after the sample. -/
def computes (policy : AdaptationPolicy S) (kind : StreamKind) (transport : MediaTransport) (call : AdaptiveCall S) :
    Bool :=
  call.after.tier.any fun tier => policy.transport kind call.input tier = transport

/-- What the samples so far say about the state of a controller. -/
structure HysteresisHistory (kind : StreamKind) (policy : AdaptationPolicy S) (hysteresis : HysteresisConfig)
    (past : List (AdaptiveCall S)) (controller : AdaptiveController S) : Prop where
  kind_eq : controller.kind = kind
  policy_eq : controller.policy = policy
  hysteresis_eq : controller.hysteresis = hysteresis
  unset : controller.current = none → controller.pendingTier = {} ∧ controller.pendingTransport = {}
  tiers : ∀ current candidate, controller.tier = some current → candidate ≠ current →
    controller.pendingTier.counted candidate = min (trailing (speaksFor policy current candidate) past) 255
  transports : ∀ transport,
    controller.pendingTransport.counted transport ≤ trailing (computes policy kind transport) past
  lowest : ∀ decision, controller.current = some decision → decision.tier = .emergency →
    decision.transport = .reliableFallback

variable {kind : StreamKind} {policy : AdaptationPolicy S} {hysteresis : HysteresisConfig}
  {past : List (AdaptiveCall S)} {controller after : AdaptiveController S} {sample : S} {reply : StreamDecision}

theorem trailing_speaksFor_self {current : QualityTier} (known : controller.tier = some current) :
    trailing (speaksFor policy current (policy.qualityTier sample)) (past ++ [⟨controller, sample, reply, after⟩]) =
      trailing (speaksFor policy current (policy.qualityTier sample)) past + 1 := by
  rw [trailing_concat, if_pos]
  simp [speaksFor, known]

theorem trailing_speaksFor_ne {current candidate : QualityTier}
    (other : ¬ (controller.tier = some current ∧ policy.qualityTier sample = candidate)) :
    trailing (speaksFor policy current candidate) (past ++ [⟨controller, sample, reply, after⟩]) = 0 := by
  rw [trailing_concat, if_neg]
  simpa [speaksFor] using other

theorem trailing_computes_self {tier : QualityTier} (active : after.tier = some tier) :
    trailing (computes policy kind (policy.transport kind sample tier)) (past ++ [⟨controller, sample, reply, after⟩]) =
      trailing (computes policy kind (policy.transport kind sample tier)) past + 1 := by
  rw [trailing_concat, if_pos]
  simp [computes, active]

/-- One sample keeps the account of the streaks. The tier count is exact up to the 255 that a byte holds; the transport
count is only bounded by the streak. -/
theorem HysteresisHistory.observe (history : HysteresisHistory kind policy hysteresis past controller)
    (taken : Total AdaptiveController.observe controller sample reply after) :
    HysteresisHistory kind policy hysteresis (past ++ [⟨controller, sample, reply, after⟩]) after := by
  have outcome := observe_outcome controller sample
  have left : (controller.observe sample).1 = after := (Prod.ext_iff.mp taken).1
  rw [left] at outcome
  obtain ⟨rfl, rfl, rfl, unset, tiers, transports, _⟩ := history
  cases outcome with
  | first none =>
    obtain ⟨noTier, noTransport⟩ := unset none
    refine ⟨rfl, rfl, rfl, nofun, ?_, ?_, ?_⟩
    · intro current candidate _ _
      have unseen : ¬ (controller.tier = some current ∧ controller.policy.qualityTier sample = candidate) := by
        simp [AdaptiveController.tier, none]
      rw [trailing_speaksFor_ne unseen]
      simp only [noTier]
      rfl
    · intro transport
      simp only [noTransport]
      exact Nat.zero_le _
    · intro decision set down
      cases set
      exact if_pos down
  | next current tier pendingTier transport pendingTransport known tierOutcome transportOutcome =>
    have active : controller.tier = some current.tier := by rw [AdaptiveController.tier, known, Option.map_some]
    refine ⟨rfl, rfl, rfl, nofun, ?_, ?_, ?_⟩
    · intro now candidate set different
      cases set
      cases tierOutcome with
      | confirmed same =>
        have unseen : ¬ (controller.tier = some current.tier ∧ controller.policy.qualityTier sample = candidate) := by
          rintro ⟨_, rfl⟩
          exact different same
        rw [trailing_speaksFor_ne unseen]
        rfl
      | replaced changed =>
        have unseen : ¬ (controller.tier = some (controller.policy.qualityTier sample) ∧
            controller.policy.qualityTier sample = candidate) := by
          rw [active, Option.some.injEq]
          exact fun same => changed same.1.symm
        rw [trailing_speaksFor_ne unseen]
        rfl
      | waiting =>
        by_cases same : candidate = controller.policy.qualityTier sample
        · subst same
          have before := tiers current.tier _ active different
          rw [trailing_speaksFor_self active]
          simp only [Pending.counted_count_self, before]
          omega
        · have unseen : ¬ (controller.tier = some current.tier ∧ controller.policy.qualityTier sample = candidate) :=
            fun both => same both.2.symm
          rw [trailing_speaksFor_ne unseen]
          simp only [Pending.counted_count_ne _ same]
          rfl
    · intro path
      cases transportOutcome with
      | confirmed | fallback | replaced => exact Nat.zero_le _
      | waiting =>
        by_cases same : path = controller.policy.transport controller.kind sample tier
        · subst same
          have before := transports (controller.policy.transport controller.kind sample tier)
          rw [trailing_computes_self rfl]
          simp only [Pending.counted_count_self]
          omega
        · simp only [Pending.counted_count_ne _ same]
          exact Nat.zero_le _
    · intro decision set down
      cases set
      have computed : controller.policy.transport controller.kind sample tier = .reliableFallback := if_pos down
      cases transportOutcome with
      | confirmed same => exact same.symm.trans computed
      | fallback | replaced => exact computed
      | waiting other => exact absurd computed other

theorem HysteresisHistory.of_run {initial : AdaptiveController S}
    (run : Run (Total AdaptiveController.observe) initial past controller)
    (fresh : initial = { kind := kind, policy := policy, hysteresis := hysteresis }) :
    HysteresisHistory kind policy hysteresis past controller := by
  induction run with
  | start =>
    subst fresh
    exact ⟨rfl, rfl, rfl, fun _ => ⟨rfl, rfl⟩, nofun, fun _ => Nat.zero_le _, nofun⟩
  | next _ taken ih => exact ih.observe taken

end History

/-- The last samples, as many as a change to the tier needs, all speak for it, and all came while the present tier was
active: that is, after the last change. -/
def TierStreak (policy : AdaptationPolicy S) (hysteresis : HysteresisConfig) (calls : List (AdaptiveCall S))
    (current tier : QualityTier) : Prop :=
  tier ≠ current ∧ ∃ front streak, calls = front ++ streak ∧
    streak.length = (if tier < current then max hysteresis.degradeSamples.toNat 1
      else max hysteresis.recoverSamples.toNat 1) ∧
    ∀ call ∈ streak, call.before.tier = some current ∧ policy.qualityTier call.input = tier

/-- In each of the last samples, as many as a change of transport needs, the transport computed for the tier that was
then active is the given one. -/
def TransportStreak (policy : AdaptationPolicy S) (kind : StreamKind) (hysteresis : HysteresisConfig)
    (calls : List (AdaptiveCall S)) (transport : MediaTransport) : Prop :=
  ∃ front streak, calls = front ++ streak ∧ streak.length = max hysteresis.transportSamples.toNat 1 ∧
    ∀ call ∈ streak, ∃ tier, call.after.tier = some tier ∧ policy.transport kind call.input tier = transport

section Streaks

variable {policy : AdaptationPolicy S} {kind : StreamKind} {hysteresis : HysteresisConfig}
  {calls : List (AdaptiveCall S)} {past : List (AdaptiveCall S)} {controller after : AdaptiveController S}
  {sample : S} {reply : StreamDecision} {current next : StreamDecision}

theorem tierStreak_iff {current tier : QualityTier} : TierStreak policy hysteresis calls current tier ↔
    tier ≠ current ∧ hysteresis.required current tier ≤ trailing (speaksFor policy current tier) calls := by
  rw [le_trailing_iff, TierStreak, HysteresisConfig.required]
  simp only [speaksFor, Bool.and_eq_true, decide_eq_true_eq]

theorem transportStreak_of_le {transport : MediaTransport}
    (enough : max hysteresis.transportSamples.toNat 1 ≤ trailing (computes policy kind transport) calls) :
    TransportStreak policy kind hysteresis calls transport := by
  obtain ⟨front, streak, cut, length, all⟩ := le_trailing_iff.mp enough
  refine ⟨front, streak, cut, length, ?_⟩
  intro call member
  have computed := all call member
  unfold computes at computed
  cases active : call.after.tier with
  | none =>
    rw [active] at computed
    cases computed
  | some tier =>
    rw [active] at computed
    exact ⟨tier, rfl, of_decide_eq_true computed⟩

/-- A sample changes the tier exactly if it completes a streak, and then to the tier of the streak. -/
theorem tier_changes_iff (history : HysteresisHistory kind policy hysteresis past controller)
    (taken : Total observe controller sample reply after) (before : controller.current = some current)
    (now : after.current = some next) :
    (next.tier ≠ current.tier ↔ TierStreak policy hysteresis (past ++ [⟨controller, sample, reply, after⟩])
        current.tier (policy.qualityTier sample)) ∧
      (next.tier ≠ current.tier → next.tier = policy.qualityTier sample) := by
  have active : controller.tier = some current.tier := by rw [tier, before, Option.map_some]
  rw [tierStreak_iff, trailing_speaksFor_self active]
  have outcome := observe_outcome controller sample
  have left : (controller.observe sample).1 = after := (Prod.ext_iff.mp taken).1
  rw [left] at outcome
  cases outcome with
  | first none => cases none.symm.trans before
  | next known tier pendingTier transport pendingTransport same tierOutcome =>
    cases before.symm.trans same
    cases now
    rw [history.policy_eq, history.hysteresis_eq] at tierOutcome
    cases tierOutcome with
    | confirmed confirms => exact ⟨iff_of_false (fun change => change rfl) fun streak => streak.1 confirms,
        fun change => absurd rfl change⟩
    | replaced different enough =>
      have counted := history.tiers current.tier _ active different
      rw [Pending.count_samples] at enough
      exact ⟨iff_of_true different ⟨different, by omega⟩, fun _ => rfl⟩
    | waiting different few =>
      have counted := history.tiers current.tier _ active different
      have bound := hysteresis.required_le current.tier (policy.qualityTier sample)
      rw [Pending.count_samples] at few
      refine ⟨iff_of_false (fun change => change rfl) ?_, fun change => absurd rfl change⟩
      rintro ⟨_, _⟩
      omega

/-- A streak ends with the last sample, so that it speaks for the candidate of that sample. -/
theorem TierStreak.candidate {tier : QualityTier}
    (streak : TierStreak policy hysteresis (past ++ [⟨controller, sample, reply, after⟩]) current.tier tier) :
    tier = policy.qualityTier sample := by
  obtain ⟨_, _, last, cut, length, all⟩ := streak
  rcases List.eq_nil_or_concat last with rfl | ⟨_, final, rfl⟩
  · split at length
    · simp only [List.length_nil] at length
      omega
    · simp only [List.length_nil] at length
      omega
  · rw [List.concat_eq_append] at cut all
    rw [← List.append_assoc] at cut
    obtain ⟨_, same⟩ := List.append_inj' cut rfl
    have spoken := all final List.mem_concat_self
    rw [← List.singleton_inj.mp same] at spoken
    exact spoken.2.symm

theorem transport_change_needs_streak (history : HysteresisHistory kind policy hysteresis past controller)
    (taken : Total observe controller sample reply after) (before : controller.current = some current)
    (now : after.current = some next) (changed : next.transport ≠ current.transport)
    (other : next.transport ≠ .reliableFallback) :
    TransportStreak policy kind hysteresis (past ++ [⟨controller, sample, reply, after⟩]) next.transport := by
  have outcome := observe_outcome controller sample
  have left : (controller.observe sample).1 = after := (Prod.ext_iff.mp taken).1
  rw [left] at outcome
  cases outcome with
  | first none => cases none.symm.trans before
  | next known tier pendingTier transport pendingTransport same tierOutcome transportOutcome =>
    cases before.symm.trans same
    cases now
    rw [history.policy_eq, history.kind_eq, history.hysteresis_eq] at transportOutcome
    cases transportOutcome with
    | confirmed | waiting => exact absurd rfl changed
    | fallback computed => exact absurd computed other
    | replaced _ enough =>
      refine transportStreak_of_le ?_
      have counted := history.transports (policy.transport kind sample tier)
      rw [Pending.count_samples] at enough
      rw [trailing_computes_self rfl]
      omega

end Streaks

/-- The tier changes exactly when enough samples in a row have spoken for another one since the last change; the lowest
tier goes with the fallback transport; and another transport comes only after enough samples in a row for it. -/
theorem hysteresis_exact {kind : StreamKind} {policy : AdaptationPolicy S} {hysteresis : HysteresisConfig}
    {past : List (AdaptiveCall S)} {final : AdaptiveController S}
    (run : Run (Total AdaptiveController.observe) { kind := kind, policy := policy, hysteresis := hysteresis }
      past final) :
    (∀ earlier call later current next, past = earlier ++ call :: later → call.before.current = some current →
      call.after.current = some next →
        (next.tier ≠ current.tier ↔ ∃ tier, TierStreak policy hysteresis (earlier ++ [call]) current.tier tier) ∧
        (∀ tier, TierStreak policy hysteresis (earlier ++ [call]) current.tier tier → next.tier = tier) ∧
        (next.transport ≠ current.transport → next.transport ≠ .reliableFallback →
          TransportStreak policy kind hysteresis (earlier ++ [call]) next.transport)) ∧
    ∀ decision, final.current = some decision → decision.tier = .emergency →
      decision.transport = .reliableFallback := by
  refine ⟨?_, (HysteresisHistory.of_run run rfl).lowest⟩
  rintro earlier ⟨_, _, _, _⟩ later current next rfl before now
  obtain ⟨reached, taken, _⟩ := run.split rfl
  have history := HysteresisHistory.of_run reached rfl
  obtain ⟨changes, becomes⟩ := tier_changes_iff history taken before now
  refine ⟨?_, ?_, transport_change_needs_streak history taken before now⟩
  · rw [changes]
    constructor
    · intro streak
      exact ⟨_, streak⟩
    · rintro ⟨_, streak⟩
      exact streak.candidate ▸ streak
  · intro tier streak
    have same := streak.candidate
    rw [same] at streak ⊢
    exact becomes (changes.mpr streak)

/-- Samples that are tiers themselves, over a path that is always the direct one. -/
def directPolicy : AdaptationPolicy QualityTier := ⟨id, fun _ _ => .udpUnicast⟩

/-- Two samples in a row take the tier down, after one that did not. -/
theorem hysteresis_exact_two_bad_samples :
    let start : AdaptiveController QualityTier := { kind := .interactive, policy := directPolicy, hysteresis := {} }
    ∃ tier, TierStreak directPolicy {} (calls AdaptiveController.observe start [.high, .medium, .low, .low])
      .high tier := by
  intro start
  have run := Run.of_calls observe start [.high, .medium, .low, .low]
  exact ((hysteresis_exact run).1 (calls observe start [.high, .medium, .low]) _ []
    ⟨.udpUnicast, profileFor .interactive .high, .high⟩ ⟨.udpUnicast, profileFor .interactive .low, .low⟩
    rfl rfl rfl).1.mp (by decide)

end ClassMesh
