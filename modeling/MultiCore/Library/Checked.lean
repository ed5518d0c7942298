import Mathlib.Algebra.Group.Nat.Defs
import Mathlib.Algebra.Order.Ring.Int
import Mathlib.Tactic.Common

/-!
# Checked arithmetic

Arithmetic of machine words in which an overflow, a division by zero or an index
out of range ends the computation: there is no value then.
-/

/-- The value of a computation, unless it panics. -/
abbrev Checked (α : Type*) := Option α

namespace Checked

/-- A number that has to be a signed 64-bit word. -/
def i64 (n : Int) : Checked Int :=
  if -9223372036854775808 ≤ n ∧ n ≤ 9223372036854775807 then some n else none

/-- A number that has to be an unsigned 64-bit word. -/
def u64 (n : Nat) : Checked Nat := if n ≤ 18446744073709551615 then some n else none

/-- The quotient, cut towards zero. -/
def div (a b : Int) : Checked Int := if b = 0 then none else i64 (a.tdiv b)

/-- The first `n` elements of a slice. -/
def sliceTo {α : Type*} (xs : List α) (n : Nat) : Checked (List α) :=
  if n ≤ xs.length then some (xs.take n) else none

/-- The elements of a slice from position `n` on. -/
def sliceFrom {α : Type*} (xs : List α) (n : Nat) : Checked (List α) :=
  if n ≤ xs.length then some (xs.drop n) else none

/-- A shift by less than the width of a word. -/
def shl {width : Nat} (bits : BitVec width) (n : Nat) : Checked (BitVec width) :=
  if n < width then some (bits <<< n) else none

theorem i64_eq_some {n : Int} (hlow : -9223372036854775808 ≤ n) (hhigh : n ≤ 9223372036854775807) :
    i64 n = some n := if_pos ⟨hlow, hhigh⟩

theorem i64_eq_some_iff {n m : Int} :
    i64 n = some m ↔ (-9223372036854775808 ≤ n ∧ n ≤ 9223372036854775807) ∧ n = m := by
  unfold i64
  split_ifs with h
  · rw [Option.some_inj]
    exact ⟨fun heq => ⟨h, heq⟩, fun heq => heq.2⟩
  · simp only [h, false_and]

theorem i64_eq_none {n : Int} :
    i64 n = none ↔ n < -9223372036854775808 ∨ 9223372036854775807 < n := by
  unfold i64
  split_ifs with h
  · simp only [false_iff]
    omega
  · simp only [true_iff]
    omega

theorem div_eq_some {a b : Int} (hb : 0 < b) (ha : 0 ≤ a) (hhigh : a ≤ 9223372036854775807) :
    div a b = some (a / b) := by
  have hle : a / b ≤ a := Int.ediv_le_self b ha
  have hpos : 0 ≤ a / b := Int.ediv_nonneg ha (Int.le_of_lt hb)
  rw [div, if_neg (Int.ne_of_gt hb), Int.tdiv_eq_ediv_of_nonneg ha]
  exact i64_eq_some (by omega) (by omega)

/-! A step of a computation that does not panic. -/

theorem bind_some {α β : Type} (a : β) (f : β → Checked α) :
    ((some a : Checked β) >>= f) = f a := rfl

theorem bind_i64 {α : Type} {n : Int} {f : Int → Checked α} (hlow : -9223372036854775808 ≤ n)
    (hhigh : n ≤ 9223372036854775807) : (i64 n >>= f) = f n := by
  rw [i64_eq_some hlow hhigh]
  rfl

theorem bind_div {α : Type} {a b : Int} {f : Int → Checked α} (hb : 0 < b) (ha : 0 ≤ a)
    (hhigh : a ≤ 9223372036854775807) : (div a b >>= f) = f (a / b) := by
  rw [div_eq_some hb ha hhigh]
  rfl

theorem u64_eq_some {n : Nat} (h : n ≤ 18446744073709551615) : u64 n = some n := if_pos h

theorem u64_eq_none {n : Nat} : u64 n = none ↔ 18446744073709551615 < n := by
  unfold u64
  split_ifs with h
  · simp only [false_iff]
    omega
  · simp only [true_iff]
    omega

/-- Words agree under the mask of their upper bits when they agree above the place of the mask. -/
theorem and_shl_allOnes {width : Nat} (x y : BitVec width) (n : Nat) :
    x &&& (shl (BitVec.allOnes width) n).getD 0 = y &&& (shl (BitVec.allOnes width) n).getD 0 ↔
      x.toNat / 2 ^ n = y.toNat / 2 ^ n := by
  have hshift : x.toNat / 2 ^ n = y.toNat / 2 ^ n ↔ x >>> n = y >>> n := by
    rw [← BitVec.toNat_inj, BitVec.toNat_ushiftRight, BitVec.toNat_ushiftRight,
      Nat.shiftRight_eq_div_pow, Nat.shiftRight_eq_div_pow]
  unfold shl
  by_cases hn : n < width
  · rw [if_pos hn, Option.getD_some, hshift]
    constructor
    · intro h
      apply BitVec.eq_of_getLsbD_eq
      intro i hi
      have hbit := congrArg (fun bits => bits.getLsbD (n + i)) h
      simp only [BitVec.getLsbD_and, BitVec.getLsbD_shiftLeft, BitVec.getLsbD_allOnes,
        Nat.add_sub_cancel_left] at hbit
      rw [BitVec.getLsbD_ushiftRight, BitVec.getLsbD_ushiftRight]
      by_cases hinside : n + i < width
      · have hplace : ¬ n + i < n := by omega
        simpa [hinside, hi, hplace] using hbit
      · rw [BitVec.getLsbD_of_ge _ _ (Nat.not_lt.1 hinside),
          BitVec.getLsbD_of_ge _ _ (Nat.not_lt.1 hinside)]
    · intro h
      apply BitVec.eq_of_getLsbD_eq
      intro i hi
      rw [BitVec.getLsbD_and, BitVec.getLsbD_and, BitVec.getLsbD_shiftLeft]
      by_cases hlow : i < n
      · simp [hlow]
      · have hbit := congrArg (fun bits => bits.getLsbD (i - n)) h
        simp only [BitVec.getLsbD_ushiftRight, Nat.add_sub_cancel' (Nat.not_lt.1 hlow)] at hbit
        rw [hbit]
  · have hx : x.toNat / 2 ^ n = 0 := Nat.div_eq_of_lt (lt_of_lt_of_le x.isLt
      (Nat.pow_le_pow_right (by decide) (Nat.not_lt.1 hn)))
    have hy : y.toNat / 2 ^ n = 0 := Nat.div_eq_of_lt (lt_of_lt_of_le y.isLt
      (Nat.pow_le_pow_right (by decide) (Nat.not_lt.1 hn)))
    rw [if_neg hn, Option.getD_none, hx, hy]
    simp

theorem sliceTo_eq_some {α : Type*} {xs : List α} {n : Nat} (h : n ≤ xs.length) :
    sliceTo xs n = some (xs.take n) := if_pos h

theorem sliceFrom_eq_some {α : Type*} {xs : List α} {n : Nat} (h : n ≤ xs.length) :
    sliceFrom xs n = some (xs.drop n) := if_pos h

theorem length_of_sliceFrom {α : Type*} {xs rest : List α} {n : Nat}
    (h : sliceFrom xs n = some rest) : rest.length + n = xs.length := by
  unfold sliceFrom at h
  split_ifs at h with hle
  cases h
  rw [List.length_drop]
  omega

end Checked
