/-!
# Arithmetic of machine words

A saturating sum that does not fit is the greatest word, a saturating difference
that would be negative is zero. Everything is read through the natural numbers,
where the order and the sums are what `omega` knows.
-/

namespace MultiCore.Words

/-- The greatest word. -/
def maxWord : UInt64 := UInt64.ofNat (UInt64.size - 1)

/-- `u64::saturating_add`. -/
def saturatingAdd (a b : UInt64) : UInt64 :=
  UInt64.ofNat (min (a.toNat + b.toNat) (UInt64.size - 1))

/-- `u64::saturating_sub`. -/
def saturatingSub (a b : UInt64) : UInt64 := UInt64.ofNat (a.toNat - b.toNat)

theorem size_eq : UInt64.size = 18446744073709551616 := rfl

@[simp] theorem toNat_maxWord : maxWord.toNat = UInt64.size - 1 :=
  UInt64.toNat_ofNat_of_lt' (by decide)

@[simp] theorem toNat_saturatingAdd (a b : UInt64) :
    (saturatingAdd a b).toNat = min (a.toNat + b.toNat) (UInt64.size - 1) := by
  apply UInt64.toNat_ofNat_of_lt'
  have hsize := size_eq
  omega

@[simp] theorem toNat_saturatingSub (a b : UInt64) :
    (saturatingSub a b).toNat = a.toNat - b.toNat := by
  apply UInt64.toNat_ofNat_of_lt'
  have hlt := a.toNat_lt_size
  omega

theorem toNat_max (a b : UInt64) : (max a b).toNat = max a.toNat b.toNat := by
  rw [show max a b = if a ≤ b then b else a from rfl]
  by_cases h : a ≤ b
  · rw [if_pos h, Nat.max_eq_right (UInt64.le_iff_toNat_le.1 h)]
  · rw [UInt64.le_iff_toNat_le] at h
    rw [if_neg (by rwa [UInt64.le_iff_toNat_le]), Nat.max_eq_left (by omega)]

theorem toNat_min (a b : UInt64) : (min a b).toNat = min a.toNat b.toNat := by
  rw [show min a b = if a ≤ b then a else b from rfl]
  by_cases h : a ≤ b
  · rw [if_pos h, Nat.min_eq_left (UInt64.le_iff_toNat_le.1 h)]
  · rw [UInt64.le_iff_toNat_le] at h
    rw [if_neg (by rwa [UInt64.le_iff_toNat_le]), Nat.min_eq_right (by omega)]

/-- The greatest word is the only one without a greater one. -/
theorem ne_maxWord_iff {a : UInt64} : a ≠ maxWord ↔ a.toNat + 1 < UInt64.size := by
  have hlt := a.toNat_lt_size
  rw [ne_eq, ← UInt64.toNat_inj, toNat_maxWord]
  omega

/-- The successor of a word that is not the greatest does not wrap around. -/
theorem toNat_add_one {a : UInt64} (h : a ≠ maxWord) : (a + 1).toNat = a.toNat + 1 := by
  have hlt := ne_maxWord_iff.1 h
  have hone : (1 : UInt64).toNat = 1 := rfl
  rw [size_eq] at hlt
  rw [UInt64.toNat_add, hone]
  apply Nat.mod_eq_of_lt
  omega

end MultiCore.Words
