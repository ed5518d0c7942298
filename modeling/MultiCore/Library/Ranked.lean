import Mathlib.Data.List.Sort
import Mathlib.Tactic.Common

/-!
# The highest of a list

A list in order of rank, the highest first, cut off at a limit. Of two entries of
one rank the one that stood first goes first.
-/

namespace Ranked

variable {α : Type*} (rank : α → Nat)

/-- Whether one entry may stand before another. -/
def Before (a b : α) : Prop := rank b ≤ rank a

instance (a b : α) : Decidable (Before rank a b) := inferInstanceAs (Decidable (_ ≤ _))

instance : Std.Total (Before rank) := ⟨fun a b => Nat.le_total (rank b) (rank a)⟩

instance : IsTrans α (Before rank) := ⟨fun _ _ _ hab hbc => Nat.le_trans hbc hab⟩

/-- The first elements by rank, at most `limit`. -/
def highest (limit : Nat) (l : List α) : List α := (l.insertionSort (Before rank)).take limit

variable {rank} {limit : Nat} {l : List α}

theorem mem_of_highest {a : α} (h : a ∈ highest rank limit l) : a ∈ l :=
  (List.mem_insertionSort _).1 (List.mem_of_mem_take h)

theorem length_highest : (highest rank limit l).length = min limit l.length := by
  rw [highest, List.length_take, List.length_insertionSort]

theorem nodup_map_highest {β : Type*} {f : α → β} (h : (l.map f).Nodup) :
    ((highest rank limit l).map f).Nodup := by
  have hsorted := (((List.perm_insertionSort (Before rank) l).map f).nodup_iff).2 h
  exact hsorted.sublist ((List.take_sublist _ _).map f)

/-- Two entries stand in one order or the other. -/
theorem pair_sublist {a b : α} (ha : a ∈ l) (hb : b ∈ l) (hne : a ≠ b) :
    [a, b].Sublist l ∨ [b, a].Sublist l := by
  obtain ⟨before, after, rfl⟩ := List.append_of_mem ha
  rcases List.mem_append.1 hb with hbefore | hafter
  · refine .inr ?_
    have hpair : [b, a] = [b] ++ [a] := rfl
    rw [hpair]
    exact (List.singleton_sublist.2 hbefore).append
      (List.singleton_sublist.2 List.mem_cons_self)
  · rcases List.mem_cons.1 hafter with heq | hafter
    · exact absurd heq.symm hne
    · refine .inl ?_
      exact ((List.singleton_sublist.2 hafter).cons_cons a).trans (List.sublist_append_right _ _)

/-- What is cut off ranks lower than what is kept, or the same and stood behind it. -/
theorem highest_outranks (hnodup : l.Nodup) {a b : α} (ha : a ∈ highest rank limit l)
    (hb : b ∈ l) (hout : b ∉ highest rank limit l) :
    rank b < rank a ∨ rank b = rank a ∧ [a, b].Sublist l := by
  have hne : a ≠ b := fun h => hout (h ▸ ha)
  have hsplit := List.take_append_drop limit (l.insertionSort (Before rank))
  have hcut : b ∈ (l.insertionSort (Before rank)).drop limit := by
    have hmem := (List.mem_insertionSort (Before rank)).2 hb
    rw [← hsplit] at hmem
    exact (List.mem_append.1 hmem).resolve_left hout
  have hsorted := List.pairwise_insertionSort (Before rank) l
  rw [← hsplit] at hsorted
  have hrank : rank b ≤ rank a := (List.pairwise_append.1 hsorted).2.2 a ha b hcut
  rcases Nat.lt_or_eq_of_le hrank with hlower | hsame
  · exact .inl hlower
  · refine .inr ⟨hsame, (pair_sublist (mem_of_highest ha) hb hne).resolve_right fun hpair => ?_⟩
    -- the sort is stable, so the one that is cut off would stand before the one that is kept
    have hkept : [b, a].Sublist (l.insertionSort (Before rank)) :=
      List.pair_sublist_insertionSort (Nat.le_of_eq hsame.symm) hpair
    have hdistinct := (List.perm_insertionSort (Before rank) l).nodup_iff.2 hnodup
    rw [← hsplit] at hkept hdistinct
    have hdisjoint := (List.nodup_append.1 hdistinct).2.2
    obtain ⟨front, back, hboth, hfront, hback⟩ := List.sublist_append_iff.1 hkept
    cases front with
    | nil =>
      rw [List.nil_append] at hboth
      rw [← hboth] at hback
      exact hdisjoint a ha a (hback.subset (List.mem_cons_of_mem _ List.mem_cons_self)) rfl
    | cons c front =>
      rw [List.cons_append, List.cons.injEq] at hboth
      rw [← hboth.1] at hfront
      exact hout (hfront.subset List.mem_cons_self)

end Ranked
