import Mathlib.Tactic.Common

/-!
# Keeping a store within its limit

Of a list of items, oldest first, the stale ones are to go, and then the oldest
of the others until what is left is small enough; some items stay whatever
happens. Doing both in one pass takes the total before later stale items are
gone. The two agree exactly where that makes no difference at any fresh item.
-/

namespace Retention

variable {α : Type} (size : α → Nat) (stays stale : α → Bool) (limit : Nat)

/-- What some items take. -/
def total : List α → Nat
  | [] => 0
  | item :: rest => size item + total rest

/-- An item that goes first. -/
def leaves (item : α) : Bool := !stays item && stale item

/-- The oldest items go until the total is within the limit. -/
def trim : Nat → List α → List α
  | _, [] => []
  | sum, item :: rest =>
    if sum ≤ limit then item :: rest
    else if stays item then item :: trim sum rest
    else trim (sum - size item) rest

/-- First the stale items go, then the oldest of the others. -/
def retained (items : List α) : List α :=
  let fresh := items.filter fun item => !leaves stays stale item
  trim size stays limit (total size fresh) fresh

/-- Stale items and the oldest ones go in one pass. -/
def onePass : Nat → List α → List α
  | _, [] => []
  | sum, item :: rest =>
    if stays item then item :: onePass sum rest
    else if stale item || limit < sum then onePass (sum - size item) rest
    else item :: onePass sum rest

/-- What the items take that may go. -/
def removable (items : List α) : Nat := total size (items.filter fun item => !stays item)

/-- What the fresh items take that may go. -/
def removableFresh (items : List α) : Nat :=
  total size (items.filter fun item => !stays item && !stale item)

variable {size stays stale limit}

@[simp] theorem total_cons (item : α) (rest : List α) :
    total size (item :: rest) = size item + total size rest := rfl

theorem trim_of_le {sum : Nat} (h : sum ≤ limit) (items : List α) :
    trim size stays limit sum items = items := by
  cases items with
  | nil => rfl
  | cons item rest => rw [trim, if_pos h]

theorem trim_stays {item : α} (h : stays item = true) (sum : Nat) (rest : List α) :
    trim size stays limit sum (item :: rest) = item :: trim size stays limit sum rest := by
  rw [trim]
  by_cases hsum : sum ≤ limit
  · rw [if_pos hsum, trim_of_le hsum]
  · rw [if_neg hsum, if_pos h]

theorem trim_sublist (sum : Nat) (items : List α) :
    (trim size stays limit sum items).Sublist items := by
  induction items generalizing sum with
  | nil => exact List.Sublist.refl _
  | cons item rest ih =>
    rw [trim]
    by_cases hsum : sum ≤ limit
    · simp only [if_pos hsum, List.Sublist.refl]
    · rw [if_neg hsum]
      by_cases hstays : stays item = true
      · rw [if_pos hstays]
        exact (ih sum).cons_cons item
      · rw [if_neg hstays]
        exact (ih _).cons item

/-- What goes in one pass is more than the stale items. -/
theorem onePass_sublist (sum : Nat) (items : List α) :
    (onePass size stays stale limit sum items).Sublist
      (items.filter fun item => !leaves stays stale item) := by
  induction items generalizing sum with
  | nil => exact List.Sublist.refl _
  | cons item rest ih =>
    rw [onePass]
    by_cases hstays : stays item = true
    · rw [if_pos hstays, List.filter_cons_of_pos (by simp [leaves, hstays])]
      exact (ih sum).cons_cons item
    · rw [if_neg hstays]
      by_cases hstale : stale item = true
      · rw [if_pos (by simp [hstale]), List.filter_cons_of_neg (by simp [leaves, hstays, hstale])]
        exact ih _
      · rw [List.filter_cons_of_pos (by simp [leaves, hstale])]
        by_cases hsum : limit < sum
        · rw [if_pos (by simp [hsum])]
          exact (ih _).cons item
        · rw [if_neg (by simp [hstale, hsum])]
          exact (ih sum).cons_cons item

/-- Within the limit only the stale items go. -/
theorem onePass_of_le {sum : Nat} (h : sum ≤ limit) (items : List α) :
    onePass size stays stale limit sum items =
      items.filter fun item => !leaves stays stale item := by
  induction items generalizing sum with
  | nil => rfl
  | cons item rest ih =>
    rw [onePass]
    by_cases hstays : stays item = true
    · rw [if_pos hstays, List.filter_cons_of_pos (by simp [leaves, hstays]), ih h]
    · rw [if_neg hstays]
      by_cases hstale : stale item = true
      · rw [if_pos (by simp [hstale]), List.filter_cons_of_neg (by simp [leaves, hstays, hstale]),
          ih (Nat.le_trans (Nat.sub_le _ _) h)]
      · rw [if_neg (by simp [hstale, h]), List.filter_cons_of_pos (by simp [leaves, hstale]), ih h]

/-- The items that stay are in what one pass leaves. -/
theorem mem_onePass {item : α} (hstays : stays item = true) {items : List α} (h : item ∈ items)
    (sum : Nat) : item ∈ onePass size stays stale limit sum items := by
  induction items generalizing sum with
  | nil => exact absurd h List.not_mem_nil
  | cons first rest ih =>
    rw [onePass]
    rcases List.mem_cons.1 h with rfl | hrest
    · rw [if_pos hstays]
      exact List.mem_cons_self
    · split
      · exact List.mem_cons_of_mem _ (ih hrest sum)
      · split
        · exact ih hrest _
        · exact List.mem_cons_of_mem _ (ih hrest sum)

section Agreement

/-- At every fresh item that may go, the totals of the two ways are both too great or neither is:
the one without all stale items and the fresh ones before it, and the one without whatever was
removable before it. -/
def Agree (size : α → Nat) (stays stale : α → Bool) (limit freshSum sum : Nat) (items : List α) :
    Prop :=
  ∀ before item after, items = before ++ item :: after → stays item = false →
    stale item = false →
    (limit < freshSum - removableFresh size stays stale before ↔
      limit < sum - removable size stays before)

theorem removable_cons (item : α) (rest : List α) : removable size stays (item :: rest) =
    (if stays item then 0 else size item) + removable size stays rest := by
  cases hstays : stays item <;> simp [removable, hstays]

theorem removableFresh_cons (item : α) (rest : List α) :
    removableFresh size stays stale (item :: rest) =
      (if stays item || stale item then 0 else size item) +
        removableFresh size stays stale rest := by
  cases hstays : stays item <;> cases hstale : stale item <;>
    simp [removableFresh, hstays, hstale]

/-- Agreement at a first item and at the others, with what the first one takes away. -/
theorem agree_cons {freshSum sum : Nat} {first : α} {rest : List α} :
    Agree size stays stale limit freshSum sum (first :: rest) ↔
      (stays first = false → stale first = false → (limit < freshSum ↔ limit < sum)) ∧
      Agree size stays stale limit
        (freshSum - if stays first || stale first then 0 else size first)
        (sum - if stays first then 0 else size first) rest := by
  constructor
  · intro h
    constructor
    · intro hstays hstale
      exact h [] first rest rfl hstays hstale
    · intro before item after hsplit hstays hstale
      have hlater := h (first :: before) item after (by rw [hsplit]; rfl) hstays hstale
      rw [removableFresh_cons, removable_cons] at hlater
      rw [Nat.sub_sub, Nat.sub_sub]
      exact hlater
  · rintro ⟨hfirst, hrest⟩ before item after hsplit hstays hstale
    cases before with
    | nil =>
      obtain ⟨rfl, -⟩ := List.cons.inj hsplit
      exact hfirst hstays hstale
    | cons other before =>
      obtain ⟨rfl, hlater⟩ := List.cons.inj hsplit
      rw [removableFresh_cons, removable_cons, ← Nat.sub_sub, ← Nat.sub_sub]
      exact hrest before item after hlater hstays hstale

/-- Where both totals are within the limit they stay so. -/
theorem agree_of_le {freshSum sum : Nat} (hfresh : freshSum ≤ limit) (hsum : sum ≤ limit)
    (items : List α) : Agree size stays stale limit freshSum sum items := by
  intro before item after _ _ _
  omega

/-- One pass leaves what is left in two exactly where the totals agree. -/
theorem onePass_eq_trim_iff (freshSum sum : Nat) (items : List α) :
    onePass size stays stale limit sum items =
        trim size stays limit freshSum (items.filter fun item => !leaves stays stale item) ↔
      Agree size stays stale limit freshSum sum items := by
  induction items generalizing freshSum sum with
  | nil =>
    constructor
    · intro _ before item after hsplit
      exact absurd hsplit (by simp)
    · exact fun _ => rfl
  | cons first rest ih =>
    rw [agree_cons, onePass]
    by_cases hstays : stays first = true
    · rw [if_pos hstays, List.filter_cons_of_pos (by simp [leaves, hstays]), trim_stays hstays,
        List.cons_inj_right, ih]
      simp [hstays]
    rw [if_neg hstays]
    by_cases hstale : stale first = true
    · rw [if_pos (by simp [hstale]), List.filter_cons_of_neg (by simp [leaves, hstays, hstale]), ih]
      simp [hstays, hstale]
    rw [List.filter_cons_of_pos (by simp [leaves, hstale]), trim, if_neg hstays]
    simp only [hstays, hstale, Bool.false_or, decide_eq_true_eq, Bool.or_self, if_false,
      Bool.false_eq_true, forall_const]
    generalize hkept : (rest.filter fun item => !leaves stays stale item) = fresh at ih
    by_cases hfresh : freshSum ≤ limit
    · rw [if_pos hfresh]
      by_cases hsum : limit < sum
      · -- the pass takes an item that is kept otherwise
        rw [if_pos hsum]
        constructor
        · intro heq
          have hless : (onePass size stays stale limit (sum - size first) rest).Sublist
              (rest.filter fun item => !leaves stays stale item) := onePass_sublist _ rest
          have hlength := hless.length_le
          rw [heq, hkept, List.length_cons] at hlength
          omega
        · intro h
          omega
      · have hle : sum ≤ limit := Nat.le_of_not_lt hsum
        rw [if_neg hsum, onePass_of_le hle, hkept]
        constructor
        · intro _
          refine ⟨by omega, agree_of_le ?_ ?_ rest⟩
          · omega
          · omega
        · exact fun _ => rfl
    · rw [if_neg hfresh]
      by_cases hsum : limit < sum
      · rw [if_pos hsum, ih]
        constructor
        · intro h
          exact ⟨by omega, h⟩
        · exact fun h => h.2
      · -- the pass keeps an item that goes otherwise
        rw [if_neg hsum, onePass_of_le (Nat.le_of_not_lt hsum), hkept]
        constructor
        · intro heq
          have hless : (trim size stays limit (freshSum - size first) fresh).Sublist fresh :=
            trim_sublist _ fresh
          have hlength := hless.length_le
          rw [← heq, List.length_cons] at hlength
          omega
        · intro h
          omega

end Agreement

end Retention
