import Mathlib

namespace Foundation

/-- The low `width` bytes of a number, most significant first. -/
def toBe : Nat → Nat → List UInt8
  | 0, _ => []
  | width + 1, v => toBe width (v / 256) ++ [UInt8.ofNat (v % 256)]

def ofBe (bytes : List UInt8) : Nat := bytes.foldl (fun acc b => acc * 256 + b.toNat) 0

@[simp] theorem toBe_length (width v : Nat) : (toBe width v).length = width := by
  induction width generalizing v with
  | zero => rfl
  | succ width ih => simp [toBe, ih]

theorem ofBe_append_singleton (bytes : List UInt8) (b : UInt8) : ofBe (bytes ++ [b]) = ofBe bytes * 256 + b.toNat := by
  simp [ofBe, List.foldl_append]

theorem ofBe_toBe_mod (width v : Nat) : ofBe (toBe width v) = v % 256 ^ width := by
  induction width generalizing v with
  | zero => simp [toBe, ofBe, Nat.mod_one]
  | succ width ih =>
    calc
      ofBe (toBe (width + 1) v) = v / 256 % 256 ^ width * 256 + v % 256 := by
        rw [toBe, ofBe_append_singleton, ih]
        simp
      _ = v % (256 * 256 ^ width) := by rw [Nat.mod_mul]; ring
      _ = v % 256 ^ (width + 1) := by rw [pow_succ']

theorem ofBe_toBe {width v : Nat} (fits : v < 256 ^ width) : ofBe (toBe width v) = v := by
  rw [ofBe_toBe_mod, Nat.mod_eq_of_lt fits]

def u16ToBe (v : UInt16) : List UInt8 := toBe 2 v.toNat
def u32ToBe (v : UInt32) : List UInt8 := toBe 4 v.toNat
def u64ToBe (v : UInt64) : List UInt8 := toBe 8 v.toNat

def u16OfBe (bytes : List UInt8) : UInt16 := UInt16.ofNat (ofBe bytes)
def u32OfBe (bytes : List UInt8) : UInt32 := UInt32.ofNat (ofBe bytes)
def u64OfBe (bytes : List UInt8) : UInt64 := UInt64.ofNat (ofBe bytes)

@[simp] theorem u16ToBe_length (v : UInt16) : (u16ToBe v).length = 2 := toBe_length 2 _
@[simp] theorem u32ToBe_length (v : UInt32) : (u32ToBe v).length = 4 := toBe_length 4 _
@[simp] theorem u64ToBe_length (v : UInt64) : (u64ToBe v).length = 8 := toBe_length 8 _

@[simp] theorem u16OfBe_toBe (v : UInt16) : u16OfBe (u16ToBe v) = v := by
  rw [u16OfBe, u16ToBe, ofBe_toBe (by simpa using v.toNat_lt)]
  exact UInt16.ofNat_toNat

@[simp] theorem u32OfBe_toBe (v : UInt32) : u32OfBe (u32ToBe v) = v := by
  rw [u32OfBe, u32ToBe, ofBe_toBe (by simpa using v.toNat_lt)]
  exact UInt32.ofNat_toNat

@[simp] theorem u64OfBe_toBe (v : UInt64) : u64OfBe (u64ToBe v) = v := by
  rw [u64OfBe, u64ToBe, ofBe_toBe (by simpa using v.toNat_lt)]
  exact UInt64.ofNat_toNat

theorem ofBe_lt (bytes : List UInt8) : ofBe bytes < 256 ^ bytes.length := by
  induction bytes using List.reverseRecOn with
  | nil => simp [ofBe]
  | append_singleton bytes b =>
    have bound := b.toNat_lt
    rw [ofBe_append_singleton, List.length_append, List.length_singleton, pow_succ]
    omega

theorem toBe_ofBe (bytes : List UInt8) : toBe bytes.length (ofBe bytes) = bytes := by
  induction bytes using List.reverseRecOn with
  | nil => rfl
  | append_singleton bytes b ih =>
    have bound := b.toNat_lt
    have high : (ofBe bytes * 256 + b.toNat) / 256 = ofBe bytes := by omega
    have low : (ofBe bytes * 256 + b.toNat) % 256 = b.toNat := by omega
    rw [ofBe_append_singleton, List.length_append, List.length_singleton, toBe, high, low, ih, UInt8.ofNat_toNat]

variable {bytes : List UInt8}

theorem u16ToBe_ofBe (width : bytes.length = 2) : u16ToBe (u16OfBe bytes) = bytes := by
  have bound := ofBe_lt bytes
  rw [width] at bound
  rw [u16ToBe, u16OfBe, UInt16.toNat_ofNat', Nat.mod_eq_of_lt (lt_of_lt_of_eq bound (by norm_num)), ← width, toBe_ofBe]

theorem u32ToBe_ofBe (width : bytes.length = 4) : u32ToBe (u32OfBe bytes) = bytes := by
  have bound := ofBe_lt bytes
  rw [width] at bound
  rw [u32ToBe, u32OfBe, UInt32.toNat_ofNat', Nat.mod_eq_of_lt (lt_of_lt_of_eq bound (by norm_num)), ← width, toBe_ofBe]

theorem u64ToBe_ofBe (width : bytes.length = 8) : u64ToBe (u64OfBe bytes) = bytes := by
  have bound := ofBe_lt bytes
  rw [width] at bound
  rw [u64ToBe, u64OfBe, UInt64.toNat_ofNat', Nat.mod_eq_of_lt (lt_of_lt_of_eq bound (by norm_num)), ← width, toBe_ofBe]

/-- What the `zeroize` crate promises of a buffer that it has wiped in place: as many elements as before, all zero. -/
def Zeroizes {α : Type*} [Zero α] (zeroize : List α → List α) : Prop :=
  ∀ buffer, zeroize buffer = List.replicate buffer.length 0

/-- The `width` elements from `offset` on. -/
def slice {α : Type*} (data : List α) (offset width : Nat) : List α := (data.drop offset).take width

theorem slice_length {α : Type*} {data : List α} {offset width : Nat} (inside : offset + width ≤ data.length) :
    (slice data offset width).length = width := by
  rw [slice, List.length_take, List.length_drop]
  omega

/-- A list is put together again from consecutive slices. -/
theorem slice_append_drop {α : Type*} (data : List α) (offset width : Nat) :
    slice data offset width ++ data.drop (offset + width) = data.drop offset := by
  rw [slice, ← List.drop_drop, List.take_append_drop]

theorem getD_cons_drop {α : Type*} {data : List α} {offset : Nat} (other : α) (inside : offset < data.length) :
    data.getD offset other :: data.drop (offset + 1) = data.drop offset := by
  rw [List.getD_eq_getElem _ _ inside, List.getElem_cons_drop]

theorem u32ToBe_injective : Function.Injective u32ToBe :=
  Function.LeftInverse.injective u32OfBe_toBe

theorem u64ToBe_injective : Function.Injective u64ToBe :=
  Function.LeftInverse.injective u64OfBe_toBe

end Foundation
