import Mathlib.Tactic.Common

/-!
# Programs over a faulty environment

A program asks its environment one question after another: a system call, a
message, a call into another component. The environment is a relation, so a
question may fail, take effect in part, or change what the program never asked
about. A program that is cut short, by a crash for instance, leaves the state
reached after one of the answers.

The weakest precondition of a program speaks about both: what holds when it
ends, and what holds after every answer on the way. It is computed along the
program, and two theorems connect it to the executions.
-/

namespace Faulty

/-- A program with questions `Q`, answers `A` and result `α`. -/
inductive Program (Q : Type) (A : Q → Type) (α : Type) : Type
  | done (result : α)
  | ask (question : Q) (next : A question → Program Q A α)

namespace Program

variable {Q : Type} {A : Q → Type} {α β γ ε : Type}

/-- The program that goes on with what the first one ends with. -/
protected def bind (program : Program Q A α) (rest : α → Program Q A β) : Program Q A β :=
  match program with
  | .done result => rest result
  | .ask question next => .ask question fun answer => (next answer).bind rest

instance : Monad (Program Q A) where
  pure := .done
  bind := Program.bind

/-- Asks and returns the answer. -/
def question (q : Q) : Program Q A (A q) := .ask q .done

end Program

/-- How an environment may answer, and what it makes of the state. -/
abbrev Environment (Q : Type) (A : Q → Type) (σ : Type) : Type :=
  (q : Q) → σ → A q → σ → Prop

section Runs

variable {Q : Type} {A : Q → Type} {σ α β ε : Type}

/-- A program run to its end. -/
inductive Executes (env : Environment Q A σ) : Program Q A α → σ → α → σ → Prop
  | done (result : α) (s : σ) : Executes env (.done result) s result s
  | ask {question : Q} {next : A question → Program Q A α} {s t u : σ} {answer : A question}
      {result : α} : env question s answer t → Executes env (next answer) t result u →
      Executes env (.ask question next) s result u

/-- A program run up to some point, from the start state to the state it is cut short in. -/
inductive Reaches (env : Environment Q A σ) : Program Q A α → σ → σ → Prop
  | here (program : Program Q A α) (s : σ) : Reaches env program s s
  | later {question : Q} {next : A question → Program Q A α} {s t u : σ} {answer : A question} :
      env question s answer t → Reaches env (next answer) t u →
      Reaches env (.ask question next) s u

/-- Two programs one after the other. -/
theorem executes_bind {env : Environment Q A σ} {program : Program Q A α}
    {rest : α → Program Q A β} {s t u : σ} {a : α} {b : β} (h : Executes env program s a t)
    (hrest : Executes env (rest a) t b u) : Executes env (program >>= rest) s b u := by
  induction h with
  | done result s => exact hrest
  | ask hanswer _ ih => exact .ask hanswer (ih hrest)

/-- A program cut short is so too with others behind it. -/
theorem reaches_bind {env : Environment Q A σ} {program : Program Q A α} {s t : σ}
    (h : Reaches env program s t) (rest : α → Program Q A β) :
    Reaches env (program >>= rest) s t := by
  induction h with
  | here program s => exact .here _ s
  | later hanswer _ ih => exact .later hanswer ih

/-- A program cut short behind another one. -/
theorem reaches_after {env : Environment Q A σ} {program : Program Q A α}
    {rest : α → Program Q A β} {s t u : σ} {a : α} (h : Executes env program s a t)
    (hrest : Reaches env (rest a) t u) : Reaches env (program >>= rest) s u := by
  induction h with
  | done result s => exact hrest
  | ask hanswer _ ih => exact .later hanswer (ih hrest)

/-- The run of a program against an environment that is a function, of the number of questions
asked so far too. -/
def Program.play (system : Nat → (q : Q) → σ → A q × σ) : Nat → Program Q A α → σ → α × σ
  | _, .done result, s => (result, s)
  | n, .ask question next, s =>
    let reply := system n question s
    (next reply.1).play system (n + 1) reply.2

/-- It is an execution where the function answers as the environment may. -/
theorem executes_play {env : Environment Q A σ} {system : Nat → (q : Q) → σ → A q × σ}
    (h : ∀ n q s, env q s (system n q s).1 (system n q s).2) (n : Nat) (program : Program Q A α)
    (s : σ) : Executes env program s (program.play system n s).1 (program.play system n s).2 := by
  induction program generalizing n s with
  | done result => exact .done result s
  | ask question next ih => exact .ask (h n question s) (ih _ (n + 1) _)

/-- What must hold before the program for `always` to hold after every answer and `post` of the
result at the end. -/
def wp (env : Environment Q A σ) (always : σ → Prop) :
    Program Q A α → (α → σ → Prop) → σ → Prop
  | .done result, post, s => post result s
  | .ask question next, post, s =>
    ∀ answer t, env question s answer t → always t ∧ wp env always (next answer) post t

variable {env : Environment Q A σ} {always always' : σ → Prop}

@[simp] theorem wp_pure (result : α) (post : α → σ → Prop) (s : σ) :
    wp env always (pure result : Program Q A α) post s ↔ post result s := Iff.rfl

@[simp] theorem wp_question (q : Q) (post : A q → σ → Prop) (s : σ) :
    wp env always (Program.question q) post s ↔
      ∀ answer t, env q s answer t → always t ∧ post answer t := Iff.rfl

/-- Sequential composition. -/
@[simp] theorem wp_bind (program : Program Q A α) (rest : α → Program Q A β)
    (post : β → σ → Prop) (s : σ) :
    wp env always (program >>= rest) post s ↔
      wp env always program (fun a => wp env always (rest a) post) s := by
  induction program generalizing s with
  | done result => exact Iff.rfl
  | ask question next ih =>
    change (∀ answer t, env question s answer t →
      always t ∧ wp env always (next answer >>= rest) post t) ↔ _
    simp only [ih]
    exact Iff.rfl

@[simp] theorem wp_map (f : α → β) (program : Program Q A α) (post : β → σ → Prop) (s : σ) :
    wp env always (f <$> program) post s ↔ wp env always program (fun a => post (f a)) s :=
  wp_bind program (fun a => .done (f a)) post s

/-- A weaker postcondition. -/
theorem wp_mono {program : Program Q A α} {post post' : α → σ → Prop} {s : σ}
    (h : wp env always program post s) (hpost : ∀ a t, post a t → post' a t) :
    wp env always program post' s := by
  induction program generalizing s with
  | done result => exact hpost result s h
  | ask question next ih =>
    intro answer t ht
    obtain ⟨hnow, hnext⟩ := h answer t ht
    exact ⟨hnow, ih answer hnext⟩

/-- The result of a program that was run to its end. -/
theorem wp_executes {program : Program Q A α} {post : α → σ → Prop} {s t : σ} {result : α}
    (h : wp env always program post s) (hrun : Executes env program s result t) :
    post result t := by
  induction hrun with
  | done result s => exact h
  | ask hanswer _ ih => exact ih (h _ _ hanswer).2

/-- The state a program was cut short in. -/
theorem wp_reaches {program : Program Q A α} {post : α → σ → Prop} {s t : σ}
    (hs : always s) (h : wp env always program post s) (hrun : Reaches env program s t) :
    always t := by
  induction hrun with
  | here program s => exact hs
  | later hanswer _ ih =>
    obtain ⟨hnow, hnext⟩ := h _ _ hanswer
    exact ih hnow hnext

end Runs

end Faulty
