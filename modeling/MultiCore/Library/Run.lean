import Mathlib.Data.List.Basic
import Mathlib.Tactic.Common

/-!
# Finite runs of a labelled transition relation

A run records every transition with its source, label and target, so a property
of runs can speak about the states visited as well as about the steps taken.
Each induction over runs is packaged here once: an invariant is carried by all
of its steps, and a step that decides an invariant exactly decides it exactly
along the whole run.
-/

namespace Transition

variable {σ ε : Type*}

/-- One labelled transition together with both of its states. -/
structure Edge (σ ε : Type*) where
  /-- The state the step starts in. -/
  source : σ
  /-- What the step was. -/
  label : ε
  /-- The state the step ends in. -/
  target : σ

/-- `Run step s es t` is a finite run from `s` to `t` taking the edges `es`, oldest first. -/
inductive Run (step : σ → ε → σ → Prop) (s : σ) : List (Edge σ ε) → σ → Prop
  | nil : Run step s [] s
  | snoc {es : List (Edge σ ε)} {t u : σ} {e : ε} :
      Run step s es t → step t e u → Run step s (es ++ [⟨t, e, u⟩]) u

variable {step : σ → ε → σ → Prop} {s t u : σ} {es fs : List (Edge σ ε)}

/-- A single step is a run. -/
theorem Run.single {e : ε} (h : step s e t) : Run step s [⟨s, e, t⟩] t :=
  Run.snoc Run.nil h

/-- Runs compose end to end. -/
theorem Run.append (h : Run step s es t) (k : Run step t fs u) :
    Run step s (es ++ fs) u := by
  induction k with
  | nil => simpa only [List.append_nil] using h
  | snoc _ hstep ih =>
    rw [← List.append_assoc]
    exact Run.snoc ih hstep

/-- A property that the edges satisfying `Good` preserve holds at the end of a run of them. -/
theorem Run.invariant_of {I : σ → Prop} {Good : Edge σ ε → Prop} (h : Run step s es t)
    (h₀ : I s) (hstep : ∀ {t e u}, I t → step t e u → Good ⟨t, e, u⟩ → I u)
    (hgood : ∀ e ∈ es, Good e) : I t := by
  induction h with
  | nil => exact h₀
  | snoc _ hs ih =>
    have hprev := ih fun e he => hgood e (List.mem_append_left _ he)
    exact hstep hprev hs (hgood _ (by simp))

/-- A property every step preserves holds at the end of every run. -/
theorem Run.invariant {I : σ → Prop} (h : Run step s es t) (h₀ : I s)
    (hstep : ∀ {t e u}, I t → step t e u → I u) : I t :=
  h.invariant_of h₀ (fun hi hs (_ : True) => hstep hi hs) fun _ _ => trivial

/-- A property that the edges satisfying `Good` preserve holds in every state of a run of them. -/
theorem Run.forall_target_of {I : σ → Prop} {Good : Edge σ ε → Prop} (h : Run step s es t)
    (h₀ : I s) (hstep : ∀ {t e u}, I t → step t e u → Good ⟨t, e, u⟩ → I u)
    (hgood : ∀ e ∈ es, Good e) : ∀ e ∈ es, I e.target := by
  induction h with
  | nil => simp
  | @snoc es t u l h hs ih =>
    have hprev := fun e he => hgood e (List.mem_append_left _ he)
    intro e he
    rcases List.mem_append.mp he with he | he
    · exact ih hprev e he
    · obtain rfl : e = ⟨t, l, u⟩ := by simpa using he
      exact hstep (h.invariant_of h₀ hstep hprev) hs (hgood _ (by simp))

/-- Every edge of a run is a step, taken from a state that some run of the same system reaches. -/
theorem Run.edge_mem (h : Run step s es t) {e : Edge σ ε} (he : e ∈ es) :
    step e.source e.label e.target ∧ ∃ ds, Run step s ds e.source ∧ ∀ d ∈ ds, d ∈ es := by
  induction h with
  | nil => simp at he
  | @snoc es t u l h hs ih =>
    rcases List.mem_append.mp he with he | he
    · obtain ⟨hstep, ds, hd, hsub⟩ := ih he
      exact ⟨hstep, ds, hd, fun d hd => List.mem_append_left _ (hsub d hd)⟩
    · obtain rfl : e = ⟨t, l, u⟩ := by simpa using he
      exact ⟨hs, es, h, fun d hd => List.mem_append_left _ hd⟩

/-- Around each of its edges a run is a run before it, the step, and a run after it. -/
theorem Run.split_at {e : Edge σ ε} (h : Run step s (es ++ e :: fs) u) :
    Run step s es e.source ∧ step e.source e.label e.target ∧ Run step e.target fs u := by
  generalize hall : es ++ e :: fs = all at h
  induction h generalizing fs with
  | nil => exact absurd hall (by simp)
  | @snoc ds t u l hrun hstep ih =>
    rcases List.eq_nil_or_concat fs with rfl | ⟨init, last, rfl⟩
    · obtain ⟨rfl, hlast⟩ := List.append_inj' hall rfl
      obtain rfl : e = ⟨t, l, u⟩ := by simpa using hlast
      exact ⟨hrun, hstep, Run.nil⟩
    · have hconcat : (es ++ e :: init) ++ [last] = ds ++ [⟨t, l, u⟩] := by simpa using hall
      obtain ⟨hinit, hlast⟩ := List.append_inj' hconcat rfl
      obtain rfl : last = ⟨t, l, u⟩ := by simpa using hlast
      obtain ⟨hbefore, hmiddle, hafter⟩ := ih hinit
      rw [List.concat_eq_append]
      exact ⟨hbefore, hmiddle, hafter.snoc hstep⟩

/-- When a step from a good state keeps the invariant exactly if the edge is `Good`, the
invariant holds in all states of a run exactly if all of its edges are `Good`. -/
theorem Run.forall_target_iff {I : σ → Prop} {Good : Edge σ ε → Prop} (h : Run step s es t)
    (h₀ : I s) (hstep : ∀ {t e u}, I t → step t e u → (I u ↔ Good ⟨t, e, u⟩)) :
    (∀ e ∈ es, I e.target) ↔ ∀ e ∈ es, Good e := by
  induction h with
  | nil => simp
  | @snoc es t u l h hs ih =>
    constructor
    · intro hall
      have hgood := ih.mp fun e he => hall e (List.mem_append_left _ he)
      have hlast : I t := h.invariant_of h₀ (fun hi hs hg => (hstep hi hs).mpr hg) hgood
      intro e he
      rcases List.mem_append.mp he with he | he
      · exact hgood e he
      · obtain rfl : e = ⟨t, l, u⟩ := by simpa using he
        exact (hstep hlast hs).mp (hall ⟨t, l, u⟩ (by simp))
    · intro hgood
      have hall := ih.mpr fun e he => hgood e (List.mem_append_left _ he)
      have hlast : I t := h.invariant_of h₀ (fun hi hs hg => (hstep hi hs).mpr hg)
        fun e he => hgood e (List.mem_append_left _ he)
      intro e he
      rcases List.mem_append.mp he with he | he
      · exact hall e he
      · obtain rfl : e = ⟨t, l, u⟩ := by simpa using he
        exact (hstep hlast hs).mpr (hgood _ (by simp))

/-- When a step from a good state has a property exactly if the edge is `Good`, and good edges keep
the invariant, all edges of a run have the property exactly if all of them are `Good`. -/
theorem Run.forall_edge_iff {I : σ → Prop} {P Good : Edge σ ε → Prop} (h : Run step s es t)
    (h₀ : I s) (hiff : ∀ {t e u}, I t → step t e u → (P ⟨t, e, u⟩ ↔ Good ⟨t, e, u⟩))
    (hstep : ∀ {t e u}, I t → step t e u → Good ⟨t, e, u⟩ → I u) :
    (∀ e ∈ es, P e) ↔ ∀ e ∈ es, Good e := by
  induction h with
  | nil => simp
  | @snoc es t u l h hs ih =>
    constructor
    · intro hall
      have hgood := ih.mp fun e he => hall e (List.mem_append_left _ he)
      have hlast : I t := h.invariant_of h₀ hstep hgood
      intro e he
      rcases List.mem_append.mp he with he | he
      · exact hgood e he
      · obtain rfl : e = ⟨t, l, u⟩ := by simpa using he
        exact (hiff hlast hs).mp (hall ⟨t, l, u⟩ (by simp))
    · intro hgood
      have hbefore : ∀ e ∈ es, Good e := fun e he => hgood e (List.mem_append_left _ he)
      have hlast : I t := h.invariant_of h₀ hstep hbefore
      intro e he
      rcases List.mem_append.mp he with he | he
      · exact ih.mpr hbefore e he
      · obtain rfl : e = ⟨t, l, u⟩ := by simpa using he
        exact (hiff hlast hs).mpr (hgood ⟨t, l, u⟩ (by simp))

/-- The run of a deterministic system along given labels. -/
def trace (next : σ → ε → σ) (s : σ) : List ε → List (Edge σ ε)
  | [] => []
  | e :: labels => ⟨s, e, next s e⟩ :: trace next (next s e) labels

/-- The edges of a trace form a run, which ends where the labels lead. -/
theorem run_trace (next : σ → ε → σ) (s : σ) (labels : List ε) :
    Run (fun s e t => next s e = t) s (trace next s labels) (labels.foldl next s) := by
  induction labels generalizing s with
  | nil => exact .nil
  | cons e labels ih => exact (Run.single rfl).append (ih (next s e))

/-- The edges of a trace whose labels are allowed are a run of the allowed steps. -/
theorem run_trace_of {allowed : σ → ε → Prop} (next : σ → ε → σ) (s : σ) (labels : List ε)
    (h : ∀ edge ∈ trace next s labels, allowed edge.source edge.label) :
    Run (fun s e t => allowed s e ∧ t = next s e) s (trace next s labels)
      (labels.foldl next s) := by
  induction labels generalizing s with
  | nil => exact .nil
  | cons e labels ih =>
    have hfirst := h ⟨s, e, next s e⟩ List.mem_cons_self
    exact (Run.single ⟨hfirst, rfl⟩).append
      (ih (next s e) fun edge hedge => h edge (List.mem_cons_of_mem _ hedge))

/-- One more label adds one edge. -/
theorem trace_concat (next : σ → ε → σ) (s : σ) (labels : List ε) (e : ε) :
    trace next s (labels ++ [e]) =
      trace next s labels ++ [⟨labels.foldl next s, e, next (labels.foldl next s) e⟩] := by
  induction labels generalizing s with
  | nil => rfl
  | cons label labels ih => exact congrArg (_ :: ·) (ih (next s label))

end Transition
