import Mathlib

namespace Foundation

/-! A wrapping 32-bit counter as the image of an unbounded one. -/

theorem toNat_ofInt (i : ℤ) : ((UInt32.ofInt i).toNat : ℤ) = i % 2 ^ 32 := by
  have nonneg : 0 ≤ i % 2 ^ 32 := Int.emod_nonneg i (by norm_num)
  have below : i % 2 ^ 32 < 2 ^ 32 := Int.emod_lt_of_pos i (by norm_num)
  rw [UInt32.ofInt, UInt32.toNat_ofNat', Nat.mod_eq_of_lt (by omega), Int.toNat_of_nonneg nonneg]

theorem toNat_ofInt_sub (i j : ℤ) : ((UInt32.ofInt i - UInt32.ofInt j).toNat : ℤ) = (i - j) % 2 ^ 32 := by
  have left := toNat_ofInt i
  have right := toNat_ofInt j
  have below := (UInt32.ofInt j).toNat_lt
  rw [UInt32.toNat_sub]
  omega

theorem ofInt_add_one (i : ℤ) : UInt32.ofInt i + 1 = UInt32.ofInt (i + 1) := by
  have before := toNat_ofInt i
  have after := toNat_ofInt (i + 1)
  refine UInt32.toNat_inj.mp ?_
  rw [UInt32.toNat_add, UInt32.toNat_one]
  omega

/-- Images of numbers that are close to each other tell them apart. -/
theorem ofInt_inj {i j : ℤ} (below : i - j < 2 ^ 32) (above : j - i < 2 ^ 32) :
    UInt32.ofInt i = UInt32.ofInt j ↔ i = j := by
  constructor
  · intro same
    have left := toNat_ofInt i
    have right := toNat_ofInt j
    rw [same] at left
    omega
  · intro same
    rw [same]

/-- A small backward distance is what the wrapping subtraction gives. -/
theorem toNat_ofInt_sub_of_le {i j : ℤ} (ordered : j ≤ i) (close : i - j < 2 ^ 32) :
    ((UInt32.ofInt i - UInt32.ofInt j).toNat : ℤ) = i - j := by
  rw [toNat_ofInt_sub, Int.emod_eq_of_lt (by omega) close]

end Foundation
