import Mathlib

namespace Foundation

/-- `u64::saturating_add`, any number of times by one. -/
def saturatingAdd (count : UInt64) (more : Nat) : UInt64 :=
  UInt64.ofNat (min (count.toNat + more) (UInt64.size - 1))

variable {count : UInt64} {more : Nat}

theorem saturatingAdd_toNat (count : UInt64) (more : Nat) :
    (saturatingAdd count more).toNat = min (count.toNat + more) (UInt64.size - 1) := by
  rw [saturatingAdd, UInt64.toNat_ofNat', Nat.mod_eq_of_lt]
  have size : UInt64.size = 2 ^ 64 := rfl
  omega

@[simp] theorem saturatingAdd_zero (count : UInt64) : saturatingAdd count 0 = count := by
  have below := count.toNat_lt
  refine UInt64.toNat_inj.mp ?_
  rw [saturatingAdd_toNat, Nat.add_zero, Nat.min_eq_left]
  have size : UInt64.size = 2 ^ 64 := rfl
  omega

theorem saturatingAdd_add (count : UInt64) (first second : Nat) :
    saturatingAdd (saturatingAdd count first) second = saturatingAdd count (first + second) := by
  refine UInt64.toNat_inj.mp ?_
  simp only [saturatingAdd_toNat]
  omega

theorem saturatingAdd_one (fits : count.toNat + 1 < 2 ^ 64) : (saturatingAdd count 1).toNat = count.toNat + 1 := by
  have size : UInt64.size = 2 ^ 64 := rfl
  rw [saturatingAdd_toNat]
  omega

/-- Below the limit a counter moves by exactly what is added. -/
theorem saturatingAdd_ne_self (positive : 0 < more) (fits : count.toNat + more < 2 ^ 64) :
    saturatingAdd count more ≠ count := by
  intro same
  have moved := congrArg UInt64.toNat same
  have size : UInt64.size = 2 ^ 64 := rfl
  rw [saturatingAdd_toNat] at moved
  omega

/-- `u64::checked_add`. -/
def checkedAdd (count : UInt64) (more : Nat) : Option UInt64 :=
  if count.toNat + more < UInt64.size then some (UInt64.ofNat (count.toNat + more)) else none

theorem checkedAdd_eq_some {next : UInt64} : checkedAdd count more = some next ↔ next.toNat = count.toNat + more := by
  unfold checkedAdd
  have below := next.toNat_lt
  have size : UInt64.size = 2 ^ 64 := rfl
  split
  · rename_i fits
    rw [Option.some.injEq, ← UInt64.toNat_inj, UInt64.toNat_ofNat', Nat.mod_eq_of_lt (by omega)]
    exact eq_comm
  · simp only [reduceCtorEq, false_iff]
    omega

/-- `u64::saturating_mul`. -/
def saturatingMul (a b : UInt64) : UInt64 := UInt64.ofNat (min (a.toNat * b.toNat) (UInt64.size - 1))

theorem saturatingMul_toNat (a b : UInt64) : (saturatingMul a b).toNat = min (a.toNat * b.toNat) (UInt64.size - 1) := by
  rw [saturatingMul, UInt64.toNat_ofNat', Nat.mod_eq_of_lt]
  have size : UInt64.size = 2 ^ 64 := rfl
  omega

/-- `u8::saturating_add`, by one. -/
def saturatingSucc (count : UInt8) : UInt8 := UInt8.ofNat (min (count.toNat + 1) (UInt8.size - 1))

theorem saturatingSucc_toNat (count : UInt8) : (saturatingSucc count).toNat = min (count.toNat + 1) 255 := by
  rw [saturatingSucc, UInt8.toNat_ofNat', Nat.mod_eq_of_lt]
  · rfl
  · have size : UInt8.size = 2 ^ 8 := rfl
    omega

end Foundation
