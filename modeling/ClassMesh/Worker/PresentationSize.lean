import Mathlib

namespace ClassMesh

/-- `value & !1` clears the lowest bit. -/
def evenFloor (value : UInt32) : UInt32 :=
  let even := value &&& ~~~1
  if even < 2 then 2 else even

/-- The size before it is made even. Products and quotients are of 64 bits, the quotient is cast back to 32. -/
def scaledSize (width height maxWidth maxHeight : UInt32) : UInt32 × UInt32 :=
  if width ≤ maxWidth ∧ height ≤ maxHeight then (width, height)
  else if maxWidth.toUInt64 * height.toUInt64 ≤ maxHeight.toUInt64 * width.toUInt64 then
    (maxWidth, (height.toUInt64 * maxWidth.toUInt64 / width.toUInt64).toUInt32)
  else ((width.toUInt64 * maxHeight.toUInt64 / height.toUInt64).toUInt32, maxHeight)

def boundedEvenSize (width height maxWidth maxHeight : UInt32) : UInt32 × UInt32 :=
  let (scaledWidth, scaledHeight) := scaledSize (max width 2) (max height 2) (max maxWidth 2) (max maxHeight 2)
  (evenFloor scaledWidth, evenFloor scaledHeight)

/-- The factor that makes a size fit without enlarging it. -/
def fittingScale (width height maxWidth maxHeight : ℕ) : ℚ :=
  min 1 (min (maxWidth / width) (maxHeight / height))

/-- The exact side, rounded down to an even number, or the least size. -/
def RoundedEven (exact : ℚ) (side : ℕ) : Prop := side = 2 ∨ exact - 2 < side ∧ (side : ℚ) ≤ exact

/-- The products and casts of a call are those of the numbers. -/
structure Lossless (width height maxWidth maxHeight : UInt32) : Prop where
  maxWidthHeight : (maxWidth.toUInt64 * height.toUInt64).toNat = maxWidth.toNat * height.toNat
  maxHeightWidth : (maxHeight.toUInt64 * width.toUInt64).toNat = maxHeight.toNat * width.toNat
  heightMaxWidth : (height.toUInt64 * maxWidth.toUInt64).toNat = height.toNat * maxWidth.toNat
  widthMaxHeight : (width.toUInt64 * maxHeight.toUInt64).toNat = width.toNat * maxHeight.toNat
  castHeight : ¬(width ≤ maxWidth ∧ height ≤ maxHeight) →
    maxWidth.toUInt64 * height.toUInt64 ≤ maxHeight.toUInt64 * width.toUInt64 →
    (height.toUInt64 * maxWidth.toUInt64 / width.toUInt64).toUInt32.toNat =
      (height.toUInt64 * maxWidth.toUInt64 / width.toUInt64).toNat
  castWidth : ¬(width ≤ maxWidth ∧ height ≤ maxHeight) →
    ¬maxWidth.toUInt64 * height.toUInt64 ≤ maxHeight.toUInt64 * width.toUInt64 →
    (width.toUInt64 * maxHeight.toUInt64 / height.toUInt64).toUInt32.toNat =
      (width.toUInt64 * maxHeight.toUInt64 / height.toUInt64).toNat

theorem toNat_clearLowBit (value : UInt32) : (value &&& ~~~1).toNat = 2 * (value.toNat / 2) := by
  have mask : (~~~1 : UInt32).toNat = 2 * (2 ^ 31 - 1) := by decide
  rw [UInt32.toNat_and, mask]
  apply Nat.eq_of_testBit_eq
  intro i
  cases i with
  | zero => simp
  | succ i =>
    have small := value.toNat_lt
    rw [Nat.testBit_and, Nat.testBit_succ, Nat.testBit_succ, Nat.testBit_succ, Nat.mul_div_cancel_left _ Nat.two_pos,
      Nat.mul_div_cancel_left _ Nat.two_pos, Nat.testBit_two_pow_sub_one]
    by_cases inside : i < 31
    · simp [inside]
    · have above : value.toNat / 2 < 2 ^ i := by
        have grows : 2 ^ 31 ≤ 2 ^ i := Nat.pow_le_pow_right Nat.two_pos (Nat.not_lt.mp inside)
        omega
      simp [inside, Nat.testBit_lt_two_pow above]

theorem evenFloor_toNat (value : UInt32) : (evenFloor value).toNat = max 2 (2 * (value.toNat / 2)) := by
  have cleared := toNat_clearLowBit value
  unfold evenFloor
  dsimp only
  split
  · rename_i least
    rw [UInt32.lt_iff_toNat_lt, cleared] at least
    exact (Nat.max_eq_left (Nat.le_of_lt least)).symm
  · rename_i large
    rw [UInt32.lt_iff_toNat_lt, cleared, Nat.not_lt] at large
    rw [cleared]
    exact (Nat.max_eq_right large).symm

/-- Rounding the whole part of a number down to an even one loses less than two. -/
theorem RoundedEven.of_floor {exact : ℚ} (nonneg : 0 ≤ exact) : RoundedEven exact (max 2 (2 * (⌊exact⌋₊ / 2))) := by
  have below : (⌊exact⌋₊ : ℚ) ≤ exact := Nat.floor_le nonneg
  have above : exact < ⌊exact⌋₊ + 1 := Nat.lt_floor_add_one exact
  by_cases least : 2 * (⌊exact⌋₊ / 2) ≤ 2
  · exact .inl (Nat.max_eq_left least)
  · rw [Nat.max_eq_right (Nat.le_of_not_le least)]
    have lower : ((2 * (⌊exact⌋₊ / 2) : ℕ) : ℚ) ≤ ⌊exact⌋₊ := Nat.cast_le.mpr (Nat.mul_div_le _ _)
    have upper : (⌊exact⌋₊ : ℚ) ≤ (2 * (⌊exact⌋₊ / 2) : ℕ) + 1 := by
      rw [← Nat.cast_succ, Nat.cast_le]
      omega
    exact .inr ⟨by linarith, by linarith⟩

section Scale

variable {width height maxWidth maxHeight : ℕ}

theorem fittingScale_nonneg : 0 ≤ fittingScale width height maxWidth maxHeight := by
  unfold fittingScale
  positivity

theorem fittingScale_swap :
    fittingScale width height maxWidth maxHeight = fittingScale height width maxHeight maxWidth := by
  unfold fittingScale
  rw [min_comm (maxWidth / width : ℚ)]

theorem fittingScale_of_fits (hasWidth : 0 < width) (hasHeight : 0 < height) (fitsWidth : width ≤ maxWidth)
    (fitsHeight : height ≤ maxHeight) : fittingScale width height maxWidth maxHeight = 1 := by
  have wide : (1 : ℚ) ≤ maxWidth / width := (one_le_div (Nat.cast_pos.mpr hasWidth)).mpr (Nat.cast_le.mpr fitsWidth)
  have high : (1 : ℚ) ≤ maxHeight / height :=
    (one_le_div (Nat.cast_pos.mpr hasHeight)).mpr (Nat.cast_le.mpr fitsHeight)
  exact min_eq_left (le_min wide high)

/-- The width decides if it is the side that has to shrink more. -/
theorem fittingScale_of_wide (hasWidth : 0 < width) (hasHeight : 0 < height) (wide : maxWidth ≤ width)
    (cross : maxWidth * height ≤ maxHeight * width) :
    fittingScale width height maxWidth maxHeight = maxWidth / width := by
  have shrinks : (maxWidth / width : ℚ) ≤ 1 := (div_le_one (Nat.cast_pos.mpr hasWidth)).mpr (Nat.cast_le.mpr wide)
  have more : (maxWidth / width : ℚ) ≤ maxHeight / height := by
    rw [div_le_div_iff₀ (Nat.cast_pos.mpr hasWidth) (Nat.cast_pos.mpr hasHeight)]
    exact_mod_cast cross
  unfold fittingScale
  rw [min_eq_left more, min_eq_right shrinks]

/-- The exact width fits both the source and its bound. -/
theorem floor_scaled_le (hasWidth : 0 < width) :
    ⌊fittingScale width height maxWidth maxHeight * width⌋₊ ≤ min width maxWidth := by
  have positive : (0 : ℚ) < width := Nat.cast_pos.mpr hasWidth
  have unlarged : fittingScale width height maxWidth maxHeight * width ≤ 1 * width :=
    mul_le_mul_of_nonneg_right (min_le_left _ _) positive.le
  have bounded : fittingScale width height maxWidth maxHeight * width ≤ maxWidth / width * width :=
    mul_le_mul_of_nonneg_right ((min_le_right _ _).trans (min_le_left _ _)) positive.le
  rw [one_mul] at unlarged
  rw [div_mul_cancel₀ _ positive.ne'] at bounded
  exact le_min (Nat.floor_le_of_le unlarged) (Nat.floor_le_of_le bounded)

theorem floor_scaled_of_wide (hasWidth : 0 < width) (hasHeight : 0 < height) (wide : maxWidth ≤ width)
    (cross : maxWidth * height ≤ maxHeight * width) :
    ⌊fittingScale width height maxWidth maxHeight * width⌋₊ = maxWidth ∧
      ⌊fittingScale width height maxWidth maxHeight * height⌋₊ = height * maxWidth / width := by
  have positive : (width : ℚ) ≠ 0 := Nat.cast_ne_zero.mpr hasWidth.ne'
  rw [fittingScale_of_wide hasWidth hasHeight wide cross]
  constructor
  · rw [div_mul_cancel₀ _ positive, Nat.floor_natCast]
  · rw [div_mul_eq_mul_div, mul_comm (maxWidth : ℚ), ← Nat.cast_mul, Nat.floor_div_eq_div]

end Scale

section Words

variable {width height maxWidth maxHeight : UInt32}

theorem toNat_mul_wide (x y : UInt32) : (x.toUInt64 * y.toUInt64).toNat = x.toNat * y.toNat := by
  have product : x.toNat * y.toNat < 2 ^ 32 * 2 ^ 32 := Nat.mul_lt_mul'' x.toNat_lt y.toNat_lt
  rw [UInt64.toNat_mul, UInt32.toNat_toUInt64, UInt32.toNat_toUInt64]
  exact Nat.mod_eq_of_lt product

theorem cross_iff : maxWidth.toUInt64 * height.toUInt64 ≤ maxHeight.toUInt64 * width.toUInt64 ↔
    maxWidth.toNat * height.toNat ≤ maxHeight.toNat * width.toNat := by
  rw [UInt64.le_iff_toNat_le, toNat_mul_wide, toNat_mul_wide]

theorem toNat_quotient (x y z : UInt32) :
    (x.toUInt64 * y.toUInt64 / z.toUInt64).toNat = x.toNat * y.toNat / z.toNat := by
  rw [UInt64.toNat_div, toNat_mul_wide, UInt32.toNat_toUInt64]

/-- A quotient below the other bound survives the cast. -/
theorem toNat_cast_quotient {x y z bound : UInt32} (cross : y.toNat * x.toNat ≤ bound.toNat * z.toNat) :
    (x.toUInt64 * y.toUInt64 / z.toUInt64).toUInt32.toNat = x.toNat * y.toNat / z.toNat := by
  have below : x.toNat * y.toNat / z.toNat ≤ bound.toNat := by
    rw [Nat.mul_comm]
    exact Nat.div_le_of_le_mul (by rwa [Nat.mul_comm z.toNat])
  rw [UInt64.toNat_toUInt32, toNat_quotient]
  exact Nat.mod_eq_of_lt (Nat.lt_of_le_of_lt below bound.toNat_lt)

/-- If the size does not fit and the cross products favour the width, the width is too large. -/
theorem wide_of_cross {w h maxW maxH : ℕ} (misfit : ¬(w ≤ maxW ∧ h ≤ maxH)) (cross : maxW * h ≤ maxH * w)
    (hasWidth : 0 < w) : maxW ≤ w := by
  by_contra narrow
  have high : maxH < h := by
    by_contra low
    exact misfit ⟨by omega, by omega⟩
  have first : maxH * w < h * w := Nat.mul_lt_mul_of_pos_right high hasWidth
  have second : h * w ≤ h * maxW := Nat.mul_le_mul_left h (by omega)
  rw [Nat.mul_comm maxW] at cross
  omega

theorem lossless (width height maxWidth maxHeight : UInt32) : Lossless width height maxWidth maxHeight where
  maxWidthHeight := toNat_mul_wide _ _
  maxHeightWidth := toNat_mul_wide _ _
  heightMaxWidth := toNat_mul_wide _ _
  widthMaxHeight := toNat_mul_wide _ _
  castHeight := by
    intro _ cross
    rw [toNat_cast_quotient (cross_iff.mp cross), toNat_quotient]
  castWidth := by
    intro _ cross
    rw [cross_iff, Nat.not_le] at cross
    rw [toNat_cast_quotient cross.le, toNat_quotient]

/-- The scaled size is the whole part of the exact one. -/
theorem scaledSize_toNat (hasWidth : 0 < width.toNat) (hasHeight : 0 < height.toNat) :
    (scaledSize width height maxWidth maxHeight).1.toNat =
        ⌊fittingScale width.toNat height.toNat maxWidth.toNat maxHeight.toNat * width.toNat⌋₊ ∧
      (scaledSize width height maxWidth maxHeight).2.toNat =
        ⌊fittingScale width.toNat height.toNat maxWidth.toNat maxHeight.toNat * height.toNat⌋₊ := by
  unfold scaledSize
  by_cases fits : width ≤ maxWidth ∧ height ≤ maxHeight
  · rw [if_pos fits, fittingScale_of_fits hasWidth hasHeight (UInt32.le_iff_toNat_le.mp fits.1)
      (UInt32.le_iff_toNat_le.mp fits.2), one_mul, one_mul, Nat.floor_natCast, Nat.floor_natCast]
    exact ⟨rfl, rfl⟩
  · rw [if_neg fits]
    rw [UInt32.le_iff_toNat_le, UInt32.le_iff_toNat_le] at fits
    by_cases cross : maxWidth.toNat * height.toNat ≤ maxHeight.toNat * width.toNat
    · rw [if_pos (cross_iff.mpr cross)]
      obtain ⟨exactWidth, exactHeight⟩ :=
        floor_scaled_of_wide hasWidth hasHeight (wide_of_cross fits cross hasWidth) cross
      rw [exactWidth, exactHeight]
      exact ⟨rfl, toNat_cast_quotient cross⟩
    · rw [if_neg (fun product => cross (cross_iff.mp product))]
      have swapped : maxHeight.toNat * width.toNat ≤ maxWidth.toNat * height.toNat := Nat.le_of_not_le cross
      have high := wide_of_cross (fun both => fits both.symm) swapped hasHeight
      obtain ⟨exactHeight, exactWidth⟩ := floor_scaled_of_wide hasHeight hasWidth high swapped
      rw [fittingScale_swap, exactWidth, exactHeight]
      exact ⟨toNat_cast_quotient swapped, rfl⟩

theorem raised_toNat (x : UInt32) : (max x 2).toNat = max x.toNat 2 := by
  change (if x ≤ 2 then (2 : UInt32) else x).toNat = max x.toNat 2
  split
  · rename_i least
    exact (Nat.max_eq_right (UInt32.le_iff_toNat_le.mp least)).symm
  · rename_i large
    exact (Nat.max_eq_left (Nat.le_of_not_le fun least => large (UInt32.le_iff_toNat_le.mpr least))).symm

theorem two_le_raised (x : UInt32) : 2 ≤ (max x 2).toNat := by
  rw [raised_toNat]
  exact Nat.le_max_right _ _

theorem raised_eq {x : UInt32} (least : 2 ≤ x.toNat) : max x 2 = x := by
  rw [← UInt32.toNat_inj, raised_toNat]
  exact Nat.max_eq_left least

/-- Each side is the even floor of a side that fits. -/
theorem boundedEvenSize_sides (width height maxWidth maxHeight : UInt32) :
    (boundedEvenSize width height maxWidth maxHeight).1.toNat =
        max 2 (2 * (⌊fittingScale (max width 2).toNat (max height 2).toNat (max maxWidth 2).toNat
          (max maxHeight 2).toNat * (max width 2).toNat⌋₊ / 2)) ∧
      (boundedEvenSize width height maxWidth maxHeight).2.toNat =
        max 2 (2 * (⌊fittingScale (max width 2).toNat (max height 2).toNat (max maxWidth 2).toNat
          (max maxHeight 2).toNat * (max height 2).toNat⌋₊ / 2)) := by
  have hasWidth : 0 < (max width 2).toNat := Nat.lt_of_lt_of_le Nat.two_pos (two_le_raised width)
  have hasHeight : 0 < (max height 2).toNat := Nat.lt_of_lt_of_le Nat.two_pos (two_le_raised height)
  obtain ⟨exactWidth, exactHeight⟩ := scaledSize_toNat hasWidth hasHeight
  unfold boundedEvenSize
  rw [evenFloor_toNat, evenFloor_toNat, exactWidth, exactHeight]
  exact ⟨rfl, rfl⟩

theorem max_two_even (n : ℕ) : max 2 (2 * (n / 2)) % 2 = 0 := by omega

theorem max_two_le {n bound : ℕ} (least : 2 ≤ bound) (within : n ≤ bound) : max 2 (2 * (n / 2)) ≤ bound := by omega

/-- Both sides are even and fit both the source and the bounds. -/
theorem boundedEvenSize_fits (width height maxWidth maxHeight : UInt32) :
    ((boundedEvenSize width height maxWidth maxHeight).1.toNat % 2 = 0 ∧
        2 ≤ (boundedEvenSize width height maxWidth maxHeight).1.toNat ∧
        (boundedEvenSize width height maxWidth maxHeight).1.toNat ≤ min (max width 2).toNat (max maxWidth 2).toNat) ∧
      (boundedEvenSize width height maxWidth maxHeight).2.toNat % 2 = 0 ∧
        2 ≤ (boundedEvenSize width height maxWidth maxHeight).2.toNat ∧
        (boundedEvenSize width height maxWidth maxHeight).2.toNat ≤
          min (max height 2).toNat (max maxHeight 2).toNat := by
  have leastWidth := two_le_raised width
  have leastHeight := two_le_raised height
  obtain ⟨sideWidth, sideHeight⟩ := boundedEvenSize_sides width height maxWidth maxHeight
  rw [sideWidth, sideHeight]
  refine ⟨⟨max_two_even _, le_max_left _ _, ?_⟩, max_two_even _, le_max_left _ _, ?_⟩
  · exact max_two_le (le_min leastWidth (two_le_raised maxWidth)) (floor_scaled_le (by omega))
  · rw [fittingScale_swap]
    exact max_two_le (le_min leastHeight (two_le_raised maxHeight)) (floor_scaled_le (by omega))

theorem evenFloor_of_even {value : UInt32} (least : 2 ≤ value.toNat) (even : value.toNat % 2 = 0) :
    evenFloor value = value := by
  rw [← UInt32.toNat_inj, evenFloor_toNat]
  omega

/-- A size that is even and fits is returned as it is. -/
theorem boundedEvenSize_of_fits (leastWidth : 2 ≤ width.toNat) (leastHeight : 2 ≤ height.toNat)
    (evenWidth : width.toNat % 2 = 0) (evenHeight : height.toNat % 2 = 0)
    (fitsWidth : width.toNat ≤ (max maxWidth 2).toNat) (fitsHeight : height.toNat ≤ (max maxHeight 2).toNat) :
    boundedEvenSize width height maxWidth maxHeight = (width, height) := by
  have fits : width ≤ max maxWidth 2 ∧ height ≤ max maxHeight 2 :=
    ⟨UInt32.le_iff_toNat_le.mpr fitsWidth, UInt32.le_iff_toNat_le.mpr fitsHeight⟩
  simp only [boundedEvenSize, scaledSize, raised_eq leastWidth, raised_eq leastHeight, if_pos fits,
    evenFloor_of_even leastWidth evenWidth, evenFloor_of_even leastHeight evenHeight]

/-- A size is even, within the source and the bounds, and each side is the scaled one up to rounding: the even number at
or below the floor of the scaled side, but not less than two. -/
structure FitsEvenly (width height maxWidth maxHeight : UInt32) (size : UInt32 × UInt32) : Prop where
  evenWidth : size.1.toNat % 2 = 0
  evenHeight : size.2.toNat % 2 = 0
  leastWidth : 2 ≤ size.1.toNat
  fitsWidth : size.1.toNat ≤ min width.toNat maxWidth.toNat
  leastHeight : 2 ≤ size.2.toNat
  fitsHeight : size.2.toNat ≤ min height.toNat maxHeight.toNat
  roundedWidth : RoundedEven
    (fittingScale width.toNat height.toNat maxWidth.toNat maxHeight.toNat * width.toNat) size.1.toNat
  roundedHeight : RoundedEven
    (fittingScale width.toNat height.toNat maxWidth.toNat maxHeight.toNat * height.toNat) size.2.toNat
  exactWidth : size.1.toNat =
    max 2 (2 * (⌊fittingScale width.toNat height.toNat maxWidth.toNat maxHeight.toNat * width.toNat⌋₊ / 2))
  exactHeight : size.2.toNat =
    max 2 (2 * (⌊fittingScale width.toNat height.toNat maxWidth.toNat maxHeight.toNat * height.toNat⌋₊ / 2))

/-- A bounded even size fits, keeps the aspect ratio up to rounding, is computed exactly and is stable. The ratio is
compared as a rational number, with no rounding of its own. -/
theorem bounded_even_size_sound (width height maxWidth maxHeight : UInt32) :
    FitsEvenly (max width 2) (max height 2) (max maxWidth 2) (max maxHeight 2)
        (boundedEvenSize width height maxWidth maxHeight) ∧
      Lossless (max width 2) (max height 2) (max maxWidth 2) (max maxHeight 2) ∧
      boundedEvenSize (boundedEvenSize width height maxWidth maxHeight).1
          (boundedEvenSize width height maxWidth maxHeight).2 maxWidth maxHeight =
        boundedEvenSize width height maxWidth maxHeight := by
  obtain ⟨⟨evenWidth, leastWidth, fitsWidth⟩, evenHeight, leastHeight, fitsHeight⟩ :=
    boundedEvenSize_fits width height maxWidth maxHeight
  obtain ⟨sideWidth, sideHeight⟩ := boundedEvenSize_sides width height maxWidth maxHeight
  refine ⟨⟨evenWidth, evenHeight, leastWidth, fitsWidth, leastHeight, fitsHeight, ?_, ?_, sideWidth, sideHeight⟩,
    lossless _ _ _ _, ?_⟩
  · rw [sideWidth]
    exact RoundedEven.of_floor (mul_nonneg fittingScale_nonneg (Nat.cast_nonneg _))
  · rw [sideHeight]
    exact RoundedEven.of_floor (mul_nonneg fittingScale_nonneg (Nat.cast_nonneg _))
  · exact boundedEvenSize_of_fits leastWidth leastHeight evenWidth evenHeight (fitsWidth.trans (min_le_right _ _))
      (fitsHeight.trans (min_le_right _ _))

end Words

end ClassMesh
