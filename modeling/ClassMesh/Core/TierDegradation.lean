import ClassMesh.Core.AdaptiveController

namespace ClassMesh

open Foundation FocusedProfileController

variable {controller : FocusedProfileController} {current : QualityTier} {candidates : List QualityTier}

/-- The controller after a list of candidates. -/
def FocusedProfileController.observeAll (controller : FocusedProfileController) (candidates : List QualityTier) :
    FocusedProfileController :=
  candidates.foldl (fun state candidate => (state.observeTier candidate).1) controller

def WorseThan (current : QualityTier) (controller : FocusedProfileController) : Prop :=
  ∃ tier, controller.currentTier = some tier ∧ tier < current

theorem worseThan_observeAll (worse : WorseThan current controller)
    (bad : ∀ candidate ∈ candidates, candidate < current) : WorseThan current (controller.observeAll candidates) := by
  induction candidates generalizing controller with
  | nil => exact worse
  | cons candidate rest ih =>
    refine ih ?_ fun other member => bad other (List.mem_cons_of_mem _ member)
    obtain ⟨tier, set, below⟩ := worse
    rcases (controller.observeTier_observed candidate).tier_cases with taken | kept
    · exact ⟨candidate, taken, bad candidate List.mem_cons_self⟩
    · exact ⟨tier, kept.trans set, below⟩

/-- The first samples all are for one tier, and with those already counted for it they are enough. -/
def Concerted (needed : Nat) (pending : PendingTier) (candidates : List QualityTier) : Prop :=
  ∃ tier count, 0 < count ∧ count ≤ candidates.length ∧ (∀ candidate ∈ candidates.take count, candidate = tier) ∧
    needed ≤ pending.counted tier + count

theorem concerted_cons_of_few {needed : Nat} {pending : PendingTier} {candidate : QualityTier}
    {rest : List QualityTier} (short : rest.length < needed) (few : (pending.count candidate).samples < needed)
    (bound : needed ≤ 255) :
    Concerted needed pending (candidate :: rest) ↔ Concerted needed (pending.count candidate) rest := by
  rw [Pending.count_samples] at few
  constructor
  · rintro ⟨_, _, positive, within, same, _⟩
    obtain ⟨more, rfl⟩ := Nat.exists_eq_succ_of_ne_zero (Nat.pos_iff_ne_zero.mp positive)
    rw [List.take_succ_cons] at same
    have first := same candidate List.mem_cons_self
    subst first
    refine ⟨candidate, more, ?_, ?_, fun other member => same other (List.mem_cons_of_mem _ member), ?_⟩
    · omega
    · rw [List.length_cons] at within
      omega
    · rw [Pending.counted_count_self]
      omega
  · rintro ⟨tier, count, _, _, same, enough⟩
    -- Samples for another tier would have to be enough by themselves, and there are not so many.
    have sameTier : tier = candidate := by
      by_contra different
      rw [Pending.counted_count_ne _ different] at enough
      omega
    subst sameTier
    rw [Pending.counted_count_self] at enough
    refine ⟨tier, count + 1, by omega, by rw [List.length_cons]; omega, ?_, by omega⟩
    rw [List.take_succ_cons]
    intro other member
    rcases List.mem_cons.mp member with rfl | later
    · rfl
    · exact same other later

/-- Bad samples, no more than a degradation needs, make the tier worse exactly if enough of them agree from the start,
counted with the pending ones. The induction is on the samples, with the pending count carried along. -/
theorem worseThan_observeAll_iff (set : controller.currentTier = some current)
    (short : candidates.length ≤ max controller.hysteresis.degradeSamples.toNat 1)
    (bad : ∀ candidate ∈ candidates, candidate < current) :
    WorseThan current (controller.observeAll candidates) ↔
      Concerted (max controller.hysteresis.degradeSamples.toNat 1) controller.pending candidates := by
  induction candidates generalizing controller with
  | nil =>
    constructor
    · rintro ⟨_, now, below⟩
      cases set.symm.trans now
      exact absurd below (lt_irrefl _)
    · rintro ⟨_, _, _, within, _⟩
      rw [List.length_nil] at within
      omega
  | cons candidate rest ih =>
    have below := bad candidate List.mem_cons_self
    have worseRest := fun other (member : other ∈ rest) => bad other (List.mem_cons_of_mem _ member)
    have needed : controller.hysteresis.required current candidate = max controller.hysteresis.degradeSamples.toNat 1 :=
      if_pos below
    have bound := controller.hysteresis.required_le current candidate
    have outcome := controller.observeTier_observed candidate
    have unfolded : controller.observeAll (candidate :: rest) =
        (controller.observeTier candidate).1.observeAll rest := rfl
    rw [List.length_cons] at short
    rw [unfolded]
    generalize (controller.observeTier candidate).1 = after at outcome ⊢
    cases outcome with
    | first unset => cases unset.symm.trans set
    | confirmed same =>
      cases set.symm.trans same
      exact absurd below (lt_irrefl _)
    | replaced known _ enough =>
      cases set.symm.trans known
      rw [needed, Pending.count_samples] at enough
      refine iff_of_true (worseThan_observeAll ⟨candidate, rfl, below⟩ worseRest) ?_
      exact ⟨candidate, 1, Nat.one_pos, by rw [List.length_cons]; omega, by simp, by omega⟩
    | waiting known _ few =>
      cases set.symm.trans known
      rw [needed] at few bound
      rw [concerted_cons_of_few (by omega) few bound]
      exact ih rfl (by simpa using Nat.le_of_succ_le short) worseRest

/-- A run of worse candidates, as long as a degradation needs, takes the tier down exactly if its first samples agree
and are enough together with those already counted: in particular if all of them agree. -/
theorem degradation_iff (set : controller.currentTier = some current)
    (length : candidates.length = max controller.hysteresis.degradeSamples.toNat 1)
    (bad : ∀ candidate ∈ candidates, candidate < current) :
    (∃ tier, (controller.observeAll candidates).currentTier = some tier ∧ tier < current) ↔
      ∃ tier count, 0 < count ∧ count ≤ candidates.length ∧
        (∀ candidate ∈ candidates.take count, candidate = tier) ∧
        max controller.hysteresis.degradeSamples.toNat 1 ≤ controller.pending.counted tier + count :=
  worseThan_observeAll_iff set (Nat.le_of_eq length) bad

/-- A controller with the default configuration that has seen one good sample. -/
def settledController : FocusedProfileController :=
  (FocusedProfileController.mk .interactive {} none {}).observeAll [.high]

/-- Two low samples in a row take the tier down. -/
theorem degradation_iff_same_samples :
    ∃ tier, (settledController.observeAll [.low, .low]).currentTier = some tier ∧ tier < .high :=
  (degradation_iff (show settledController.currentTier = some .high from rfl) rfl (by decide)).mpr
    ⟨.low, 2, by decide, by decide, by decide, by decide⟩

/-- Two samples in a row are worse than the tier, and the tier stays; so it does over forty that keep
alternating. -/
theorem alternating_samples_keep_tier :
    (∀ candidate ∈ [QualityTier.medium, .emergency], candidate < QualityTier.high) ∧
      max settledController.hysteresis.degradeSamples.toNat 1 = 2 ∧
      (settledController.observeAll [.medium, .emergency]).currentTier = some .high ∧
      (settledController.observeAll (List.replicate 20 [.medium, .emergency]).flatten).currentTier = some .high := by
  decide

end ClassMesh
