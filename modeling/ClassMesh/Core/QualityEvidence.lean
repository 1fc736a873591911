import ClassMesh.Core.ReceiverQuality
import ClassMesh.Foundation.Run

namespace ClassMesh

open Foundation

variable {M : Type}

inductive QualityInput (M : Type)
  | observe (sample : ReceiverQualitySample M) (nowUs : UInt64)
  | expireIfStale (nowUs : UInt64)

inductive QualityReply
  | observed (observation : ReceiverQualityObservation)
  | expired (decision : Option FocusedProfileDecision)
deriving DecidableEq

abbrev QualityCall (M : Type) := Call (ReceiverQualityController M) (QualityInput M) QualityReply

/-- Not in the future and not too old. -/
def ReceiverQualityPolicy.Timely (policy : ReceiverQualityPolicy M) (observedAtUs nowUs : UInt64) : Prop :=
  observedAtUs ≤ nowUs ∧ nowUs - observedAtUs ≤ policy.maxSampleAgeUs

namespace ReceiverQualityController

variable {controller : ReceiverQualityController M} {sample : ReceiverQualitySample M} {nowUs : UInt64}

def step (controller : ReceiverQualityController M) : QualityInput M → ReceiverQualityController M × QualityReply
  | .observe sample nowUs => ((controller.observe sample nowUs).1, .observed (controller.observe sample nowUs).2)
  | .expireIfStale nowUs => ((controller.expireIfStale nowUs).1, .expired (controller.expireIfStale nowUs).2)

/-- What an accepted sample has shown. -/
theorem validateObservation_accepted (accepted : controller.validateObservation sample nowUs = .accepted) :
    controller.qualityPolicy.Timely sample.observedAtUs nowUs ∧
      (∀ last, controller.lastSequence = some last → last < sample.sampleSequence) ∧
      ∀ last, controller.lastObservedAtUs = some last → last < sample.observedAtUs := by
  unfold validateObservation at accepted
  split at accepted
  · cases accepted
  split at accepted
  · cases accepted
  case isFalse past =>
    split at accepted
    · cases accepted
    case isFalse young =>
      split at accepted
      · cases accepted
      case isFalse sequence =>
        split at accepted
        · cases accepted
        case isFalse time =>
          refine ⟨⟨UInt64.not_lt.mp past, UInt64.not_lt.mp young⟩, fun last known => ?_, fun last known => ?_⟩
          · simpa [known] using sequence
          · simpa [known] using time

/-- The tier an observation proposes: that of the sample, or the lowest one if the sample is not accepted. -/
def candidate (controller : ReceiverQualityController M) (sample : ReceiverQualitySample M) (nowUs : UInt64) :
    QualityTier :=
  if controller.validateObservation sample nowUs = .accepted then controller.qualityPolicy.candidateTier sample
  else .emergency

theorem observe_profileController (controller : ReceiverQualityController M) (sample : ReceiverQualitySample M)
    (nowUs : UInt64) :
    (controller.observe sample nowUs).1.profileController =
      (controller.profileController.observeTier (controller.candidate sample nowUs)).1 := rfl

theorem observe_accepted (accepted : controller.validateObservation sample nowUs = .accepted) :
    (controller.observe sample nowUs).1.qualityPolicy = controller.qualityPolicy ∧
      (controller.observe sample nowUs).1.lastSequence = some sample.sampleSequence ∧
      (controller.observe sample nowUs).1.lastObservedAtUs = some sample.observedAtUs := by
  simp [observe, accepted]

theorem observe_rejected (rejected : controller.validateObservation sample nowUs ≠ .accepted) :
    (controller.observe sample nowUs).1.qualityPolicy = controller.qualityPolicy ∧
      (controller.observe sample nowUs).1.lastSequence = controller.lastSequence ∧
      (controller.observe sample nowUs).1.lastObservedAtUs = controller.lastObservedAtUs := by
  simp [observe, rejected]

/-- An expiry leaves the controller alone or forces it down, which needs stale data. -/
theorem expireIfStale_cases (controller : ReceiverQualityController M) (nowUs : UInt64) :
    (controller.expireIfStale nowUs = (controller, none) ∧ (controller.tier = none ∨
        ∀ last, controller.lastObservedAtUs = some last → controller.qualityPolicy.Timely last nowUs)) ∨
      ∃ last decision, controller.lastObservedAtUs = some last ∧ ¬controller.qualityPolicy.Timely last nowUs ∧
        controller.expireIfStale nowUs =
          ({ controller with
              profileController := { controller.profileController with
                currentTier := some .emergency, pending := {} } },
            decision) ∧ (controller.tier = some .emergency → decision = none) := by
  unfold expireIfStale
  cases known : controller.lastObservedAtUs with
  | none => exact .inl ⟨rfl, .inr nofun⟩
  | some last =>
    by_cases timely : last ≤ nowUs ∧ nowUs - last ≤ controller.qualityPolicy.maxSampleAgeUs
    · refine .inl ⟨if_pos timely, .inr fun other same => ?_⟩
      cases same
      exact timely
    · dsimp only
      rw [if_neg timely]
      cases current : controller.profileController.current with
      | none =>
        refine .inl ⟨rfl, .inl ?_⟩
        simpa [FocusedProfileController.current, tier] using current
      | some =>
        refine .inr ⟨last, _, rfl, timely, rfl, fun down => ?_⟩
        simp only [tier] at down
        simp [FocusedProfileController.forceEmergencyOnTelemetryLoss, down]

end ReceiverQualityController

namespace QualityCall

/-- The sample of an observe call. -/
def sample (call : QualityCall M) : Option (ReceiverQualitySample M) :=
  match call.input with
  | .observe sample _ => some sample
  | .expireIfStale _ => none

/-- The sample of an observe call that was accepted. -/
def acceptedSample (call : QualityCall M) : Option (ReceiverQualitySample M) :=
  match call.input, call.reply with
  | .observe sample _, .observed observation => if observation.status = .accepted then some sample else none
  | _, _ => none

/-- An accepted and timely sample of the tier, or an expiry call that found the data timely. -/
def Supports (policy : ReceiverQualityPolicy M) (tier : QualityTier) (call : QualityCall M) : Prop :=
  match call.input with
  | .observe sample nowUs => acceptedSample call = some sample ∧ policy.Timely sample.observedAtUs nowUs ∧
      policy.candidateTier sample = tier
  | .expireIfStale nowUs => ∀ last, call.before.lastObservedAtUs = some last → policy.Timely last nowUs

end QualityCall

open QualityCall (acceptedSample Supports)

/-- Later in sequence and in time. -/
def InOrder (first second : ReceiverQualitySample M) : Prop :=
  first.sampleSequence < second.sampleSequence ∧ first.observedAtUs < second.observedAtUs

/-- Calls among which `count` observe calls are all evidence for a tier, with no stale data between them. -/
structure Streak (policy : ReceiverQualityPolicy M) (tier : QualityTier) (count : Nat) (calls : List (QualityCall M)) :
    Prop where
  count_eq : (calls.filterMap QualityCall.sample).length = count
  supports : ∀ call ∈ calls, Supports policy tier call

namespace Streak

variable {policy : ReceiverQualityPolicy M} {tier : QualityTier} {count : Nat} {calls : List (QualityCall M)}
  {call : QualityCall M} (streak : Streak policy tier count calls)

theorem nil : Streak policy tier 0 ([] : List (QualityCall M)) := ⟨rfl, by simp⟩

include streak

theorem supports_concat (more : Supports policy tier call) : ∀ each ∈ calls ++ [call], Supports policy tier each :=
  forall_mem_concat streak.supports more

theorem observe {sample : ReceiverQualitySample M} (more : Supports policy tier call)
    (observes : QualityCall.sample call = some sample) : Streak policy tier (count + 1) (calls ++ [call]) :=
  ⟨by simp [observes, streak.count_eq], streak.supports_concat more⟩

theorem expire (more : Supports policy tier call) (expires : QualityCall.sample call = none) :
    Streak policy tier count (calls ++ [call]) :=
  ⟨by simp [expires, streak.count_eq], streak.supports_concat more⟩

/-- Every observe call of a streak was accepted. -/
theorem accepted : calls.filterMap QualityCall.sample = calls.filterMap acceptedSample := by
  refine List.filterMap_congr fun call member => ?_
  have supports := streak.supports call member
  unfold Supports at supports
  unfold QualityCall.sample
  split at supports
  case h_1 sample nowUs input => exact supports.1.symm
  case h_2 nowUs input =>
    unfold acceptedSample
    rw [input]

end Streak

/-- What the calls so far say about the state of a controller. -/
structure QualityHistory (policy : ReceiverQualityPolicy M) (hysteresis : HysteresisConfig)
    (past : List (QualityCall M))
    (controller : ReceiverQualityController M) : Prop where
  policy_eq : controller.qualityPolicy = policy
  hysteresis_eq : controller.profileController.hysteresis = hysteresis
  lastSequence : controller.lastSequence = (past.filterMap acceptedSample).getLast?.map (·.sampleSequence)
  lastObserved : controller.lastObservedAtUs = (past.filterMap acceptedSample).getLast?.map (·.observedAtUs)
  ordered : (past.filterMap acceptedSample).Pairwise InOrder
  grounded : controller.lastObservedAtUs = none → ∀ tier, controller.tier = some tier → tier = .emergency
  pending : ∀ candidate, controller.profileController.pending.candidate = some candidate →
    ∃ current, controller.tier = some current ∧
      controller.profileController.pending.samples < hysteresis.required current candidate ∧
      (candidate ≠ .emergency → ∃ before streak, past = before ++ streak ∧
        Streak policy candidate controller.profileController.pending.samples streak)

namespace QualityHistory

open ReceiverQualityController

variable {policy : ReceiverQualityPolicy M} {hysteresis : HysteresisConfig} {past : List (QualityCall M)}
  {controller : ReceiverQualityController M} {sample : ReceiverQualitySample M} {nowUs : UInt64}

/-- The call that an observation adds to the history. -/
abbrev observeCall (controller : ReceiverQualityController M) (sample : ReceiverQualitySample M) (nowUs : UInt64) :
    QualityCall M :=
  ⟨controller, .observe sample nowUs, .observed (controller.observe sample nowUs).2,
    (controller.observe sample nowUs).1⟩

theorem acceptedSample_observeCall :
    acceptedSample (observeCall controller sample nowUs) =
      if controller.validateObservation sample nowUs = .accepted then some sample else none := rfl

/-- An accepted sample comes after every one accepted before it. -/
theorem inOrder (history : QualityHistory policy hysteresis past controller)
    (accepted : controller.validateObservation sample nowUs = .accepted) :
    ∀ earlier ∈ past.filterMap acceptedSample, InOrder earlier sample := by
  obtain ⟨_, sequence, time⟩ := validateObservation_accepted accepted
  have lastSequence := history.lastSequence
  have lastObserved := history.lastObserved
  have ordered := history.ordered
  rcases List.eq_nil_or_concat (past.filterMap acceptedSample) with empty | ⟨_, last, split⟩
  · simp [empty]
  · rw [split, List.concat_eq_append] at lastSequence lastObserved ordered ⊢
    rw [List.getLast?_concat, Option.map_some] at lastSequence lastObserved
    have newer : InOrder last sample := ⟨sequence _ lastSequence, time _ lastObserved⟩
    intro earlier member
    rcases List.mem_append.mp member with old | same
    · have before := (List.pairwise_append.mp ordered).2.2 earlier old last (List.mem_singleton_self last)
      exact ⟨UInt64.lt_trans before.1 newer.1, UInt64.lt_trans before.2 newer.2⟩
    · exact List.mem_singleton.mp same ▸ newer

theorem accepted_of_candidate (risen : controller.candidate sample nowUs ≠ .emergency) :
    controller.validateObservation sample nowUs = .accepted ∧
      controller.candidate sample nowUs = controller.qualityPolicy.candidateTier sample := by
  unfold candidate at risen ⊢
  by_cases accepted : controller.validateObservation sample nowUs = .accepted
  · exact ⟨accepted, if_pos accepted⟩
  · exact absurd (if_neg accepted) risen

/-- An observation that proposes a tier above the lowest one carries the streak of that tier on. -/
theorem extend (history : QualityHistory policy hysteresis past controller)
    (risen : controller.candidate sample nowUs ≠ .emergency) :
    ∃ before streak, past ++ [observeCall controller sample nowUs] = before ++ streak ∧
      Streak policy (controller.candidate sample nowUs)
        (controller.profileController.pending.count (controller.candidate sample nowUs)).samples streak := by
  obtain ⟨accepted, tier⟩ := accepted_of_candidate risen
  have timely := (validateObservation_accepted accepted).1
  rw [history.policy_eq] at tier timely
  have supports : Supports policy (controller.candidate sample nowUs) (observeCall controller sample nowUs) :=
    ⟨by rw [acceptedSample_observeCall, if_pos accepted], timely, tier.symm⟩
  by_cases same : controller.profileController.pending.candidate = some (controller.candidate sample nowUs)
  · obtain ⟨current, _, _, evidence⟩ := history.pending _ same
    obtain ⟨before, streak, cut, supported⟩ := evidence risen
    refine ⟨before, streak ++ [observeCall controller sample nowUs], by rw [cut, List.append_assoc], ?_⟩
    have limit := hysteresis.required_le current (controller.candidate sample nowUs)
    rw [Pending.count, if_pos same, Nat.min_eq_left (by omega)]
    exact supported.observe supports rfl
  · refine ⟨past, [observeCall controller sample nowUs], rfl, ?_⟩
    rw [Pending.count, if_neg same]
    exact Streak.nil.observe supports rfl

/-- A sample keeps the account of the evidence, whether it is accepted or not. A refused sample moves neither the
sequence nor the time, and all it can leave pending is the lowest tier. -/
theorem observe_keeps (history : QualityHistory policy hysteresis past controller) (sample : ReceiverQualitySample M)
    (nowUs : UInt64) :
    QualityHistory policy hysteresis (past ++ [observeCall controller sample nowUs])
      (controller.observe sample nowUs).1 := by
  have outcome := controller.profileController.observeTier_observed (controller.candidate sample nowUs)
  rw [← observe_profileController] at outcome
  have waits : ∀ candidate, (controller.observe sample nowUs).1.profileController.pending.candidate = some candidate →
      ∃ current, (controller.observe sample nowUs).1.tier = some current ∧
        (controller.observe sample nowUs).1.profileController.pending.samples < hysteresis.required current candidate ∧
        (candidate ≠ .emergency → ∃ before streak,
          past ++ [observeCall controller sample nowUs] = before ++ streak ∧
          Streak policy candidate (controller.observe sample nowUs).1.profileController.pending.samples streak) := by
    intro candidate pending
    rcases outcome.pending_cases pending with ⟨unset, same⟩ | ⟨current, set, counted, few⟩
    · rw [same] at pending
      obtain ⟨_, set, _⟩ := history.pending candidate pending
      cases unset.symm.trans set
    · rw [counted, Pending.count_candidate] at pending
      cases pending
      rw [history.hysteresis_eq] at few
      refine ⟨current, set, few, fun risen => ?_⟩
      rw [counted]
      exact history.extend risen
  have grounded (unknown : controller.lastObservedAtUs = none)
      (rejected : controller.validateObservation sample nowUs ≠ .accepted) (tier : QualityTier)
      (now : (controller.observe sample nowUs).1.tier = some tier) : tier = .emergency := by
    have lowest : controller.candidate sample nowUs = .emergency := if_neg rejected
    rcases outcome.tier_cases with taken | kept
    · rw [ReceiverQualityController.tier, taken, lowest] at now
      exact (Option.some.inj now).symm
    · exact history.grounded unknown tier (kept.symm.trans now)
  have profile : (controller.observe sample nowUs).1.profileController.hysteresis = hysteresis :=
    outcome.hysteresis_eq.trans history.hysteresis_eq
  by_cases accepted : controller.validateObservation sample nowUs = .accepted
  · have collected : (past ++ [observeCall controller sample nowUs]).filterMap acceptedSample =
        past.filterMap acceptedSample ++ [sample] := by
      rw [List.filterMap_append, List.filterMap_cons, acceptedSample_observeCall, if_pos accepted, List.filterMap_nil]
    obtain ⟨recorded, sequence, time⟩ := observe_accepted accepted
    refine ⟨recorded.trans history.policy_eq, profile, ?_, ?_, ?_, fun unknown => ?_, waits⟩
    · rw [collected, List.getLast?_concat, sequence, Option.map_some]
    · rw [collected, List.getLast?_concat, time, Option.map_some]
    · rw [collected]
      exact List.pairwise_append.mpr ⟨history.ordered, List.pairwise_singleton _ _, fun earlier member new same =>
        List.mem_singleton.mp same ▸ history.inOrder accepted earlier member⟩
    · cases time.symm.trans unknown
  · have collected : (past ++ [observeCall controller sample nowUs]).filterMap acceptedSample =
        past.filterMap acceptedSample := by
      rw [List.filterMap_append, List.filterMap_cons, acceptedSample_observeCall, if_neg accepted, List.filterMap_nil]
      exact List.append_nil _
    obtain ⟨recorded, sequence, time⟩ := observe_rejected accepted
    refine ⟨recorded.trans history.policy_eq, profile, ?_, ?_, ?_, fun unknown => ?_, waits⟩
    · rw [collected, sequence, history.lastSequence]
    · rw [collected, time, history.lastObserved]
    · rw [collected]
      exact history.ordered
    · exact grounded (time.symm.trans unknown) accepted

/-- The call that an expiry adds to the history. -/
abbrev expireCall (controller : ReceiverQualityController M) (nowUs : UInt64) : QualityCall M :=
  ⟨controller, .expireIfStale nowUs, .expired (controller.expireIfStale nowUs).2, (controller.expireIfStale nowUs).1⟩

theorem expire_keeps (history : QualityHistory policy hysteresis past controller) (nowUs : UInt64) :
    QualityHistory policy hysteresis (past ++ [expireCall controller nowUs]) (controller.expireIfStale nowUs).1 := by
  have collected : (past ++ [expireCall controller nowUs]).filterMap acceptedSample =
      past.filterMap acceptedSample := by
    rw [List.filterMap_append]
    exact List.append_nil _
  rcases controller.expireIfStale_cases nowUs with ⟨same, timely⟩ | ⟨_, _, known, _, forced, _⟩
  · have stays : (controller.expireIfStale nowUs).1 = controller := congrArg Prod.fst same
    rw [stays]
    refine ⟨history.policy_eq, history.hysteresis_eq, collected ▸ history.lastSequence,
      collected ▸ history.lastObserved, collected ▸ history.ordered, history.grounded, fun candidate pending => ?_⟩
    obtain ⟨current, set, few, evidence⟩ := history.pending candidate pending
    refine ⟨current, set, few, fun risen => ?_⟩
    obtain ⟨before, streak, cut, supported⟩ := evidence risen
    have supports : Supports policy candidate (expireCall controller nowUs) := by
      rcases timely with unset | timely
      · cases unset.symm.trans set
      · exact history.policy_eq ▸ timely
    exact ⟨before, streak ++ [_], by rw [cut, List.append_assoc], supported.expire supports rfl⟩
  · have falls := congrArg Prod.fst forced
    dsimp only at falls
    rw [falls]
    exact ⟨history.policy_eq, history.hysteresis_eq, collected ▸ history.lastSequence,
      collected ▸ history.lastObserved, collected ▸ history.ordered,
      fun unknown => absurd (known.symm.trans unknown) (by simp), fun candidate pending => (by cases pending)⟩

theorem of_run {kind : StreamKind} {initial final : ReceiverQualityController M}
    (made : ReceiverQualityController.new kind hysteresis policy = .ok initial)
    (run : Run (Total ReceiverQualityController.step) initial past final) :
    QualityHistory policy hysteresis past final := by
  induction run with
  | start =>
    unfold ReceiverQualityController.new at made
    split at made
    · cases made
    · cases made
      exact ⟨rfl, rfl, rfl, rfl, .nil, fun _ _ set => (by cases set), fun _ pending => (by cases pending)⟩
  | @next past controller input reply after _ taken history =>
    cases input with
    | observe sample nowUs =>
      cases taken
      exact history.observe_keeps sample nowUs
    | expireIfStale nowUs =>
      cases taken
      exact history.expire_keeps nowUs

/-- A tier rises on a full streak of samples of the new tier. -/
theorem rise (history : QualityHistory policy hysteresis past controller) {old new : QualityTier}
    (before : controller.tier = some old) (now : (controller.observe sample nowUs).1.tier = some new)
    (risen : old < new) :
    ∃ earlier streak, past ++ [observeCall controller sample nowUs] = earlier ++ streak ∧
      Streak policy new (max hysteresis.recoverSamples.toNat 1) streak := by
  have outcome := controller.profileController.observeTier_observed (controller.candidate sample nowUs)
  rw [← observe_profileController] at outcome
  obtain ⟨rfl, enough⟩ := outcome.rise before now risen
  have above : controller.candidate sample nowUs ≠ .emergency := fun lowest =>
    absurd (lowest ▸ risen) (not_lt_of_ge old.emergency_le)
  have exact_count : (controller.profileController.pending.count (controller.candidate sample nowUs)).samples =
      max hysteresis.recoverSamples.toNat 1 := by
    rw [history.hysteresis_eq] at enough
    refine Nat.le_antisymm ?_ enough
    unfold Pending.count
    split
    case isTrue same =>
      obtain ⟨_, set, few, _⟩ := history.pending _ same
      cases set.symm.trans before
      rw [HysteresisConfig.required, if_neg (not_lt_of_gt risen)] at few
      exact Nat.le_trans (Nat.min_le_left _ _) few
    case isFalse => exact Nat.le_max_right _ _
  rw [← exact_count]
  exact history.extend above

/-- After an expiry a tier above the lowest one rests on timely data. -/
theorem timely_after_expiry (history : QualityHistory policy hysteresis past controller) {tier : QualityTier}
    (now : (controller.expireIfStale nowUs).1.tier = some tier) (above : .emergency < tier) :
    ∃ last, (past.filterMap acceptedSample).getLast? = some last ∧ policy.Timely last.observedAtUs nowUs := by
  rcases controller.expireIfStale_cases nowUs with ⟨same, timely⟩ | ⟨_, _, _, _, forced, _⟩
  · rw [same] at now
    cases known : controller.lastObservedAtUs with
    | none => exact absurd (history.grounded known tier now) (ne_of_gt above)
    | some time =>
      rcases timely with unset | timely
      · cases unset.symm.trans now
      · have recent := timely time known
        rw [history.policy_eq] at recent
        obtain ⟨last, newest, rfl⟩ := Option.map_eq_some_iff.mp (history.lastObserved.symm.trans known)
        exact ⟨last, newest, recent⟩
  · rw [forced] at now
    cases now
    exact absurd above (lt_irrefl _)

end QualityHistory

/-- A second expiry at the same time finds nothing to do. -/
theorem ReceiverQualityController.expireIfStale_twice (controller : ReceiverQualityController M) (nowUs : UInt64) :
    (controller.expireIfStale nowUs).1.expireIfStale nowUs = ((controller.expireIfStale nowUs).1, none) := by
  rcases controller.expireIfStale_cases nowUs with ⟨same, _⟩ | ⟨_, _, _, _, forced, _⟩
  · rw [same]
    exact same
  · have falls := congrArg Prod.fst forced
    dsimp only at falls
    rw [falls]
    rcases expireIfStale_cases { controller with
      profileController := { controller.profileController with currentTier := some .emergency, pending := {} } }
      nowUs with ⟨again, _⟩ | ⟨_, _, _, _, again, quiet⟩
    · exact again
    · rw [again, quiet rfl]

/-- A controller's tier rises only after `max 1 recoverSamples` accepted, timely and ordered samples in a row that all
propose the new tier, and an expiry leaves a tier above the lowest one only over timely data. -/
theorem quality_rises_on_evidence {kind : StreamKind} {hysteresis : HysteresisConfig}
    {policy : ReceiverQualityPolicy M} {initial final : ReceiverQualityController M} {past : List (QualityCall M)}
    (made : ReceiverQualityController.new kind hysteresis policy = .ok initial)
    (run : Run (Total ReceiverQualityController.step) initial past final) :
    (∀ earlier call later old new, past = earlier ++ call :: later → call.before.tier = some old →
      call.after.tier = some new → old < new →
      ∃ before streak, earlier ++ [call] = before ++ streak ∧
        Streak policy new (max 1 hysteresis.recoverSamples.toNat) streak ∧
        (streak.filterMap QualityCall.sample).Pairwise InOrder) ∧
    (∀ earlier call later nowUs tier, past = earlier ++ call :: later → call.input = .expireIfStale nowUs →
      call.after.tier = some tier → .emergency < tier →
      ∃ last, (earlier.filterMap acceptedSample).getLast? = some last ∧
        policy.Timely last.observedAtUs nowUs) ∧
    ∀ nowUs, (final.expireIfStale nowUs).1.expireIfStale nowUs = ((final.expireIfStale nowUs).1, none) := by
  refine ⟨fun earlier call later old new cut before now risen => ?_,
    fun earlier call later nowUs tier cut expires now above => ?_, final.expireIfStale_twice⟩
  · obtain ⟨reached, taken, _⟩ := run.split cut
    have history := QualityHistory.of_run made reached
    obtain ⟨controller, input, reply, after⟩ := call
    cases input with
    | observe sample nowUs =>
      have stepped : controller.step (.observe sample nowUs) = (after, reply) := taken
      cases stepped
      obtain ⟨front, streak, split, supported⟩ := history.rise before now risen
      rw [max_comm] at supported
      refine ⟨front, streak, split, supported, ?_⟩
      have ordered := (history.observe_keeps sample nowUs).ordered
      rw [split, List.filterMap_append] at ordered
      rw [supported.accepted]
      exact (List.pairwise_append.mp ordered).2.1
    | expireIfStale nowUs =>
      have stepped : controller.step (.expireIfStale nowUs) = (after, reply) := taken
      cases stepped
      rcases controller.expireIfStale_cases nowUs with ⟨same, _⟩ | ⟨_, _, _, _, forced, _⟩
      · rw [same] at now
        cases before.symm.trans now
        exact absurd risen (lt_irrefl _)
      · rw [forced] at now
        cases now
        exact absurd risen (not_lt_of_ge old.emergency_le)
  · obtain ⟨reached, taken, _⟩ := run.split cut
    have history := QualityHistory.of_run made reached
    obtain ⟨controller, _, reply, after⟩ := call
    cases expires
    have stepped : controller.step (.expireIfStale nowUs) = (after, reply) := taken
    cases stepped
    exact history.timely_after_expiry now above

/-- Every reading is fine and proposes the tier it holds. -/
def plainPolicy : ReceiverQualityPolicy QualityTier where
  maxSampleAgeUs := 100
  orderedThresholds := true
  invalidReadings := fun _ => none
  candidateTier := fun sample => sample.readings

def plainSample (sequence : UInt64) (tier : QualityTier) :
    ReceiverQualitySample QualityTier := ⟨1, sequence, sequence, tier⟩

/-- With two samples to recover, the second good sample raises the tier. -/
theorem quality_rises_on_evidence_second_sample :
    ∃ (past : List (QualityCall QualityTier)) (earlier : List _) (call : _)
    (before streak : List _), past = earlier ++ [call] ∧ call.before.tier = some .low ∧ call.after.tier = some .high ∧
      earlier ++ [call] = before ++ streak ∧ Streak plainPolicy .high 2 streak ∧
      (streak.filterMap QualityCall.sample).Pairwise InOrder := by
  have made : ReceiverQualityController.new .interactive { recoverSamples := 2 } plainPolicy =
      .ok { qualityPolicy := plainPolicy,
            profileController := { kind := .interactive, hysteresis := { recoverSamples := 2 } } } :=
    rfl
  have run := Run.of_calls ReceiverQualityController.step
    { qualityPolicy := plainPolicy,
      profileController := { kind := .interactive, hysteresis := { recoverSamples := 2 } } }
    [.observe (plainSample 1 .low) 10, .observe (plainSample 2 .high) 20, .observe (plainSample 3 .high) 30]
  obtain ⟨before, streak, cut, supported, ordered⟩ :=
    (quality_rises_on_evidence made run).1 [_, _] _ [] .low .high rfl rfl rfl (by decide)
  exact ⟨_, [_, _], _, before, streak, rfl, rfl, rfl, cut, supported, ordered⟩

end ClassMesh
