import Mathlib.Algebra.BigOperators.Group.List.Basic
import Mathlib.Algebra.GroupWithZero.Nat
import Mathlib.Tactic.Common

/-!
# Slices of an ordered list

A slice of a list that is cut where two conditions stop holding is what satisfies the
one and not the other, when no element satisfies a condition after one that does not.
And of a list the newest elements are kept that fit in a limit: the longest suffix.
-/

namespace Slices

variable {α : Type*}

/-- No element satisfies the condition after one that does not. -/
def Partitioned (p : α → Bool) (l : List α) : Prop := l.Pairwise fun a b => p b = true → p a = true

/-- Where a condition stops holding. -/
def partitionPoint (p : α → Bool) (l : List α) : Nat := (l.takeWhile p).length

/-- From where `p` stops holding to where `q` does. -/
def slice (p q : α → Bool) (l : List α) : List α :=
  (l.take (max (partitionPoint q l) (partitionPoint p l))).drop (partitionPoint p l)

section Slice

variable {p q : α → Bool} {l : List α}

theorem Partitioned.of_not {a : α} (h : Partitioned p (a :: l)) (ha : p a = false) :
    ∀ b ∈ l, p b = false := by
  intro b hb
  by_contra hp
  rw [Bool.not_eq_false] at hp
  rw [(List.pairwise_cons.1 h).1 b hb hp] at ha
  cases ha

theorem takeWhile_eq_filter (h : Partitioned p l) : l.takeWhile p = l.filter p := by
  induction l with
  | nil => rfl
  | cons a l ih =>
    by_cases ha : p a = true
    · rw [List.takeWhile_cons_of_pos ha, List.filter_cons_of_pos ha,
        ih (List.pairwise_cons.1 h).2]
    · have hnone := h.of_not (by rwa [Bool.not_eq_true] at ha)
      rw [List.takeWhile_cons_of_neg ha, List.filter_cons_of_neg ha, eq_comm,
        List.filter_eq_nil_iff]
      exact fun b hb => by rw [hnone b hb]; exact Bool.false_ne_true

theorem partitionPoint_cons_pos {a : α} (h : p a = true) :
    partitionPoint p (a :: l) = partitionPoint p l + 1 := by
  rw [partitionPoint, List.takeWhile_cons_of_pos h, List.length_cons, partitionPoint]

theorem partitionPoint_cons_neg {a : α} (h : ¬ p a = true) : partitionPoint p (a :: l) = 0 := by
  rw [partitionPoint, List.takeWhile_cons_of_neg h, List.length_nil]

/-- The slice is what satisfies the one condition and not the other. -/
theorem slice_eq_filter (hp : Partitioned p l) (hq : Partitioned q l) :
    slice p q l = l.filter fun a => !p a && q a := by
  induction l with
  | nil => rfl
  | cons a l ih =>
    have hrest := ih (List.pairwise_cons.1 hp).2 (List.pairwise_cons.1 hq).2
    rw [slice] at hrest ⊢
    by_cases hqa : q a = true
    · rw [partitionPoint_cons_pos hqa]
      by_cases hpa : p a = true
      · rw [partitionPoint_cons_pos hpa, Nat.succ_max_succ, List.take_succ_cons,
          List.drop_succ_cons, hrest, List.filter_cons_of_neg]
        rw [hpa]
        exact Bool.false_ne_true
      · -- nothing satisfies `p`, so the slice is where `q` holds
        have hnone := hp.of_not (by rwa [Bool.not_eq_true] at hpa)
        rw [partitionPoint_cons_neg hpa, Nat.max_zero, List.drop_zero, List.take_succ_cons,
          List.filter_cons_of_pos (by rw [hqa]; simpa using hpa)]
        refine congrArg _ ?_
        rw [← hrest]
        have hzero : partitionPoint p l = 0 := by
          rw [partitionPoint, List.length_eq_zero_iff,
            takeWhile_eq_filter (List.pairwise_cons.1 hp).2, List.filter_eq_nil_iff]
          intro b hb
          rw [hnone b hb]
          exact Bool.false_ne_true
        rw [hzero, Nat.max_zero, List.drop_zero]
    · -- nothing satisfies `q`, so both are empty
      have hnone := hq.of_not (by rwa [Bool.not_eq_true] at hqa)
      have hempty : (a :: l).filter (fun b => !p b && q b) = [] := by
        rw [List.filter_eq_nil_iff]
        intro b hb
        have hqb : q b = false := by
          rcases List.mem_cons.1 hb with rfl | hb
          · rwa [Bool.not_eq_true] at hqa
          · exact hnone b hb
        rw [hqb, Bool.and_false]
        exact Bool.false_ne_true
      rw [hempty, partitionPoint_cons_neg hqa, Nat.zero_max, List.drop_take, Nat.sub_self,
        List.take_zero]

/-- What satisfies `p`, and what satisfies only `q`, is what satisfies `q`. -/
theorem filter_append_filter (hp : Partitioned p l) (hpq : ∀ a ∈ l, p a = true → q a = true) :
    l.filter p ++ l.filter (fun a => !p a && q a) = l.filter q := by
  induction l with
  | nil => rfl
  | cons a l ih =>
    have hrest := ih (List.pairwise_cons.1 hp).2 fun b hb => hpq b (List.mem_cons_of_mem _ hb)
    by_cases hpa : p a = true
    · have hnot : (a :: l).filter (fun b => !p b && q b) = l.filter fun b => !p b && q b := by
        rw [List.filter_cons_of_neg]
        rw [hpa]
        exact Bool.false_ne_true
      rw [List.filter_cons_of_pos hpa, hnot,
        List.filter_cons_of_pos (hpq a List.mem_cons_self hpa), List.cons_append, hrest]
    · have hnone : (a :: l).filter p = [] := by
        have hafter := hp.of_not (by rwa [Bool.not_eq_true] at hpa)
        rw [List.filter_cons_of_neg hpa, List.filter_eq_nil_iff]
        exact fun b hb => by rw [hafter b hb]; exact Bool.false_ne_true
      have hall : ∀ b ∈ a :: l, (!p b && q b) = q b := by
        intro b hb
        have hpb := List.filter_eq_nil_iff.1 hnone b hb
        rw [Bool.not_eq_true] at hpb
        rw [hpb, Bool.not_false, Bool.true_and]
      rw [hnone, List.nil_append, List.filter_congr hall]

end Slice

/-! ## The newest elements that fit -/

section Newest

variable (size : α → Nat) (limit : Nat)

/-- What fits of a list from its front, after some has been used. -/
def fitting : Nat → List α → List α
  | _, [] => []
  | used, a :: rest => if limit < used + size a then [] else a :: fitting (used + size a) rest

/-- What fits of a list from its end. -/
def newest (l : List α) : List α := (fitting size limit 0 l.reverse).reverse

variable {size limit}

/-- The longest suffix of a list that fits in a limit. -/
structure IsLongest (size : α → Nat) (limit : Nat) (l kept : List α) : Prop where
  suffix : kept <:+ l
  fits : (kept.map size).sum ≤ limit
  longest : ∀ other, other <:+ l → (other.map size).sum ≤ limit → other <:+ kept

theorem fitting_prefix (used : Nat) (l : List α) : fitting size limit used l <+: l := by
  induction l generalizing used with
  | nil => exact List.prefix_rfl
  | cons a l ih =>
    rw [fitting]
    split_ifs
    · exact List.nil_prefix
    · exact (List.prefix_cons_inj a).2 (ih _)

theorem fitting_fits {used : Nat} (hused : used ≤ limit) (l : List α) :
    used + ((fitting size limit used l).map size).sum ≤ limit := by
  induction l generalizing used with
  | nil => exact hused
  | cons a l ih =>
    rw [fitting]
    split_ifs with hfull
    · exact hused
    · rw [List.map_cons, List.sum_cons, ← Nat.add_assoc]
      exact ih (Nat.le_of_not_lt hfull)

theorem fitting_longest {used : Nat} {l other : List α} (hother : other <+: l)
    (hfits : used + (other.map size).sum ≤ limit) : other <+: fitting size limit used l := by
  induction l generalizing used other with
  | nil => exact hother
  | cons a l ih =>
    cases other with
    | nil => exact List.nil_prefix
    | cons b other =>
      obtain ⟨rfl, hrest⟩ := List.cons_prefix_cons.1 hother
      rw [List.map_cons, List.sum_cons, ← Nat.add_assoc] at hfits
      have hroom : ¬ limit < used + size b := by omega
      rw [fitting, if_neg hroom]
      exact (List.prefix_cons_inj b).2 (ih hrest hfits)

theorem newest_isLongest (l : List α) : IsLongest size limit l (newest size limit l) := by
  refine ⟨?_, ?_, fun other hother hfits => ?_⟩
  · rw [← List.reverse_prefix, newest, List.reverse_reverse]
    exact fitting_prefix 0 l.reverse
  · rw [newest, List.map_reverse, List.sum_reverse]
    have hfits : 0 + ((fitting size limit 0 l.reverse).map size).sum ≤ limit :=
      fitting_fits (Nat.zero_le limit) l.reverse
    rwa [Nat.zero_add] at hfits
  · rw [← List.reverse_prefix, newest, List.reverse_reverse]
    refine fitting_longest (List.reverse_prefix.2 hother) ?_
    rwa [Nat.zero_add, List.map_reverse, List.sum_reverse]

end Newest

end Slices
