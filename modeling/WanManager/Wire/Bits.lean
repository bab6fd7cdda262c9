import Mathlib.Algebra.Group.Nat.Defs
import Mathlib.Data.Nat.Bitwise

/-! # Bit fields of byte strings

The bits of a string of bytes are counted from the most significant bit of the first byte, and
a field of them is the number that they write in binary. -/

namespace WanManager.Wire

/-- Bit `i` of a string of bytes. -/
def bitOf (b : List UInt8) (i : Nat) : Bool := (b.getD (i / 8) 0).toNat.testBit (7 - i % 8)

/-- The number written by the bits from `start` on, `len` of them. -/
def bitField (b : List UInt8) (start : Nat) : Nat → Nat
  | 0 => 0
  | len + 1 => 2 * bitField b start len + (bitOf b (start + len)).toNat

theorem testBit_bitField (b : List UInt8) (start len j : Nat) :
    (bitField b start len).testBit j = (decide (j < len) && bitOf b (start + len - 1 - j)) := by
  induction len generalizing j with
  | zero => simp [bitField]
  | succ len ih =>
    cases j with
    | zero =>
      have hlast : start + (len + 1) - 1 - 0 = start + len := by omega
      rw [hlast, bitField, Nat.testBit_zero]
      cases bitOf b (start + len) <;> simp
    | succ j =>
      have hrest : start + (len + 1) - 1 - (j + 1) = start + len - 1 - j := by omega
      have hdiv : (2 * bitField b start len + (bitOf b (start + len)).toNat) / 2 =
          bitField b start len := by
        cases bitOf b (start + len) <;> simp
        omega
      rw [bitField, Nat.testBit_succ, hdiv, ih, hrest]
      simp

theorem bitField_lt (b : List UInt8) (start len : Nat) : bitField b start len < 2 ^ len := by
  induction len with
  | zero => simp [bitField]
  | succ len ih =>
    have hbit : (bitOf b (start + len)).toNat ≤ 1 := Bool.toNat_le _
    rw [bitField, Nat.pow_succ]
    omega

theorem bitField_eq_zero {b : List UInt8} {start len : Nat} :
    bitField b start len = 0 ↔ ∀ i < len, bitOf b (start + i) = false := by
  induction len with
  | zero => simp [bitField]
  | succ len ih =>
    have hsplit : bitField b start (len + 1) = 0 ↔
        bitField b start len = 0 ∧ bitOf b (start + len) = false := by
      rw [bitField]
      cases bitOf b (start + len) <;> simp
    rw [hsplit, ih]
    constructor
    · rintro ⟨hlt, hlast⟩ i hi
      obtain h | rfl := Nat.lt_succ_iff_lt_or_eq.mp hi
      · exact hlt i h
      · exact hlast
    · intro h
      exact ⟨fun i hi => h i (by omega), h len (by omega)⟩

/-- A field in a part of the string. -/
theorem bitOf_take_drop {b : List UInt8} {s n i : Nat} (h : i < 8 * n) :
    bitOf ((b.drop s).take n) i = bitOf b (8 * s + i) := by
  have hdiv : (8 * s + i) / 8 = s + i / 8 := by omega
  have hmod : (8 * s + i) % 8 = i % 8 := by omega
  have hlt : i / 8 < n := by omega
  simp [bitOf, List.getD, hdiv, hmod, hlt]

end WanManager.Wire
