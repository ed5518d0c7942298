import MultiCore.Library.Run

/-!
# Cooperative tasks over shared state

A task is a sequence of atomic sections on a shared state and of questions to
its environment; between any two of them other tasks run. Sections may wait: a
section is taken only in a state that enables it, which is how locks and joins
are written. Tasks form a monad, so a program reads as the code it models.

A system says which tasks requests of a kind run, how the environment may
answer, and what beginning, dropping or finishing a request records.
-/

namespace Cooperative

/-- A task with sections named by `P`, questions `Q` answered by `A`, state `σ` and result `α`. -/
inductive Task (P Q : Type) (A : Q → Type) (σ α : Type) : Type
  /-- The task has ended. -/
  | done (result : α)
  /-- An atomic section, waiting until it is enabled; what follows may depend on the state found. -/
  | critical (point : P) (enabled : σ → Bool) (run : σ → σ) (next : σ → Task P Q A σ α)
  /-- A question about to be asked. -/
  | ask (question : Q) (next : A question → Task P Q A σ α)
  /-- A question that was asked and is not answered yet. -/
  | waiting (question : Q) (next : A question → Task P Q A σ α)

namespace Task

variable {P Q : Type} {A : Q → Type} {σ α β γ : Type}

/-- The task that continues with what the first one ends with. -/
protected def bind (task : Task P Q A σ α) (rest : α → Task P Q A σ β) : Task P Q A σ β :=
  match task with
  | .done result => rest result
  | .critical point enabled run next =>
    .critical point enabled run fun s => (next s).bind rest
  | .ask question next => .ask question fun a => (next a).bind rest
  | .waiting question next => .waiting question fun a => (next a).bind rest

instance : Monad (Task P Q A σ) where
  pure := .done
  bind := Task.bind

@[simp] theorem critical_bind (point : P) (enabled : σ → Bool) (run : σ → σ)
    (next : σ → Task P Q A σ α) (rest : α → Task P Q A σ β) :
    (Task.critical point enabled run next >>= rest) =
      .critical point enabled run fun s => next s >>= rest := rfl

@[simp] theorem ask_bind (question : Q) (next : A question → Task P Q A σ α)
    (rest : α → Task P Q A σ β) :
    (Task.ask question next >>= rest) = .ask question fun a => next a >>= rest := rfl

@[simp] theorem waiting_bind (question : Q) (next : A question → Task P Q A σ α)
    (rest : α → Task P Q A σ β) :
    (Task.waiting question next >>= rest) = .waiting question fun a => next a >>= rest := rfl

@[simp] theorem bind_done (task : Task P Q A σ α) : (task >>= Task.done) = task := by
  induction task with
  | done result => rfl
  | critical point enabled run next ih => simp only [critical_bind, ih]
  | ask question next ih => simp only [ask_bind, ih]
  | waiting question next ih => simp only [waiting_bind, ih]

theorem bind_assoc (task : Task P Q A σ α) (f : α → Task P Q A σ β) (g : β → Task P Q A σ γ) :
    (task >>= f >>= g) = task >>= fun a => f a >>= g := by
  induction task with
  | done result => rfl
  | critical point enabled run next ih => simp only [critical_bind, ih]
  | ask question next ih => simp only [ask_bind, ih]
  | waiting question next ih => simp only [waiting_bind, ih]

instance : LawfulMonad (Task P Q A σ) :=
  LawfulMonad.mk' _ (fun task => bind_done task) (fun _ _ => rfl) (fun task f g => bind_assoc task f g)

/-- A section that changes the state and returns something of the state it found. -/
def atomic (point : P) (run : σ → σ) (result : σ → α) : Task P Q A σ α :=
  .critical point (fun _ => true) run fun s => .done (result s)

/-- A section that waits for `enabled`. -/
def await (point : P) (enabled : σ → Bool) (run : σ → σ) (result : σ → α) : Task P Q A σ α :=
  .critical point enabled run fun s => .done (result s)

/-- Asks and returns the answer. -/
def question (q : Q) : Task P Q A σ (A q) :=
  .ask q .done

end Task

/-- Requests of kinds `K` served by tasks, with results `ρ` and spontaneous changes `W`. -/
structure System (ι K P Q : Type) (A : Q → Type) (σ ρ W : Type) where
  /-- The task that serves a request. -/
  program : ι → K → Task P Q A σ ρ
  /-- When a request of this kind may begin. -/
  mayBegin : ι → K → σ → Bool
  onBegin : ι → K → σ → σ
  /-- What an answer makes of the state; `none` for an answer that cannot be given. -/
  respond : ι → (q : Q) → A q → σ → Option σ
  onFinish : ι → K → ρ → σ → σ
  /-- A change the environment makes by itself. -/
  world : W → σ → Option σ

/-- The shared state and the requests being served. -/
structure Config (ι K P Q : Type) (A : Q → Type) (σ ρ : Type) where
  shared : σ
  task : ι → Option (K × Task P Q A σ ρ)

/-- What a step of a system was. -/
inductive Label (ι K P Q : Type) (A : Q → Type) (ρ W : Type)
  | began (i : ι) (kind : K)
  | ran (i : ι) (kind : K) (point : P)
  | asked (i : ι) (kind : K) (question : Q)
  | answered (i : ι) (kind : K) (question : Q) (answer : A question)
  | finished (i : ι) (kind : K) (result : ρ)
  | changed (change : W)

/-- The request a step belongs to. -/
def Label.actor {ι K P Q : Type} {A : Q → Type} {ρ W : Type} : Label ι K P Q A ρ W → Option ι
  | .began i _ | .ran i _ _ | .asked i _ _ | .answered i _ _ _ | .finished i _ _ => some i
  | .changed _ => none

section Steps

variable {ι K P Q : Type} {A : Q → Type} {σ ρ W : Type} [DecidableEq ι]

/-- The configuration with the request `i` served by `task` from now on. -/
def Config.put (c : Config ι K P Q A σ ρ) (i : ι) (task : Option (K × Task P Q A σ ρ)) (s : σ) :
    Config ι K P Q A σ ρ :=
  ⟨s, Function.update c.task i task⟩

@[simp] theorem Config.put_same (c : Config ι K P Q A σ ρ) (i : ι)
    (task : Option (K × Task P Q A σ ρ)) (s : σ) : (c.put i task s).task i = task := by
  simp [Config.put]

theorem Config.put_ne (c : Config ι K P Q A σ ρ) {i j : ι} (h : j ≠ i)
    (task : Option (K × Task P Q A σ ρ)) (s : σ) : (c.put i task s).task j = c.task j := by
  simp [Config.put, h]

/-- One step of a system: of one request, or of the environment. -/
inductive System.Step (S : System ι K P Q A σ ρ W) (c : Config ι K P Q A σ ρ) :
    Label ι K P Q A ρ W → Config ι K P Q A σ ρ → Prop
  | began (i : ι) (kind : K) (free : c.task i = none) (may : S.mayBegin i kind c.shared = true) :
      Step S c (.began i kind) (c.put i (some (kind, S.program i kind)) (S.onBegin i kind c.shared))
  | ran (i : ι) (kind : K) (point : P) (enabled : σ → Bool) (run : σ → σ)
      (next : σ → Task P Q A σ ρ) (task : c.task i = some (kind, .critical point enabled run next))
      (ready : enabled c.shared = true) :
      Step S c (.ran i kind point) (c.put i (some (kind, next c.shared)) (run c.shared))
  | asked (i : ι) (kind : K) (question : Q) (next : A question → Task P Q A σ ρ)
      (task : c.task i = some (kind, .ask question next)) :
      Step S c (.asked i kind question) (c.put i (some (kind, .waiting question next)) c.shared)
  | answered (i : ι) (kind : K) (question : Q) (answer : A question) (s : σ)
      (next : A question → Task P Q A σ ρ) (task : c.task i = some (kind, .waiting question next))
      (given : S.respond i question answer c.shared = some s) :
      Step S c (.answered i kind question answer) (c.put i (some (kind, next answer)) s)
  | finished (i : ι) (kind : K) (result : ρ) (task : c.task i = some (kind, .done result)) :
      Step S c (.finished i kind result) (c.put i none (S.onFinish i kind result c.shared))
  | changed (change : W) (s : σ) (given : S.world change c.shared = some s) :
      Step S c (.changed change) ⟨s, c.task⟩

/-- Where a request takes a section, it is being served. -/
theorem System.Step.ran_source {S : System ι K P Q A σ ρ W} {c d : Config ι K P Q A σ ρ} {i : ι}
    {kind : K} {point : P} (h : S.Step c (.ran i kind point) d) :
    ∃ task, c.task i = some (kind, task) := by
  cases h with
  | ran i kind point enabled run next task ready => exact ⟨_, task⟩

/-- It still is after the section. -/
theorem System.Step.ran_target {S : System ι K P Q A σ ρ W} {c d : Config ι K P Q A σ ρ} {i : ι}
    {kind : K} {point : P} (h : S.Step c (.ran i kind point) d) :
    ∃ task, d.task i = some (kind, task) := by
  cases h
  exact ⟨_, Config.put_same ..⟩

/-- A run of a system. -/
abbrev System.Run (S : System ι K P Q A σ ρ W) (c : Config ι K P Q A σ ρ)
    (es : List (Transition.Edge (Config ι K P Q A σ ρ) (Label ι K P Q A ρ W)))
    (d : Config ι K P Q A σ ρ) : Prop :=
  Transition.Run S.Step c es d

/-- The choices that determine a step. -/
inductive Move (ι K Q : Type) (A : Q → Type) (W : Type)
  | begin (i : ι) (kind : K)
  | go (i : ι)
  | answer (i : ι) (question : Q) (answer : A question)
  | change (change : W)

/-- `n` steps in a row of the request `i`. -/
def Move.goOn (i : ι) (n : Nat) : List (Move ι K Q A W) := List.replicate n (.go i)

/-- The step a choice makes, when it can be made. -/
def System.move [DecidableEq Q] (S : System ι K P Q A σ ρ W) (c : Config ι K P Q A σ ρ) :
    Move ι K Q A W → Option (Label ι K P Q A ρ W × Config ι K P Q A σ ρ)
  | .begin i kind =>
    if (c.task i).isNone && S.mayBegin i kind c.shared then
      some (.began i kind,
        c.put i (some (kind, S.program i kind)) (S.onBegin i kind c.shared))
    else none
  | .go i =>
    match c.task i with
    | some (kind, .critical point enabled run next) =>
      if enabled c.shared then
        some (.ran i kind point, c.put i (some (kind, next c.shared)) (run c.shared))
      else none
    | some (kind, .ask question next) =>
      some (.asked i kind question, c.put i (some (kind, .waiting question next)) c.shared)
    | some (kind, .done result) =>
      some (.finished i kind result, c.put i none (S.onFinish i kind result c.shared))
    | some (_, .waiting _ _) => none
    | none => none
  | .answer i question answer =>
    match c.task i with
    | some (kind, .waiting asked next) =>
      if h : asked = question then
        (S.respond i question answer c.shared).map fun s =>
          (.answered i kind question answer, c.put i (some (kind, next (h ▸ answer))) s)
      else none
    | _ => none
  | .change change => (S.world change c.shared).map fun s => (.changed change, ⟨s, c.task⟩)

/-- Every move is a step. -/
theorem System.step_of_move [DecidableEq Q] {S : System ι K P Q A σ ρ W}
    {c d : Config ι K P Q A σ ρ} {move : Move ι K Q A W} {label : Label ι K P Q A ρ W}
    (h : S.move c move = some (label, d)) : S.Step c label d := by
  cases move with
  | begin i kind =>
    simp only [System.move, Option.ite_none_right_eq_some, Bool.and_eq_true, Option.isNone_iff_eq_none,
      Option.some.injEq, Prod.mk.injEq] at h
    obtain ⟨⟨free, may⟩, rfl, rfl⟩ := h
    exact .began i kind free may
  | go i =>
    simp only [System.move] at h
    split at h
    · rename_i kind point enabled run next task
      simp only [Option.ite_none_right_eq_some, Option.some.injEq, Prod.mk.injEq] at h
      obtain ⟨ready, rfl, rfl⟩ := h
      exact .ran i kind point enabled run next task ready
    · rename_i kind question next task
      cases h
      exact .asked i kind question next task
    · rename_i kind result task
      cases h
      exact .finished i kind result task
    · cases h
    · cases h
  | answer i question answer =>
    simp only [System.move] at h
    split at h
    · rename_i kind asked next task
      split at h
      · rename_i heq
        subst heq
        obtain ⟨s, given, he⟩ := Option.map_eq_some_iff.mp h
        cases he
        exact .answered i kind asked answer s next task given
      · cases h
    · cases h
  | change change =>
    obtain ⟨s, given, he⟩ := Option.map_eq_some_iff.mp h
    cases he
    exact .changed change s given

/-- The run that a list of choices makes, when all of them can be made. -/
def System.play [DecidableEq Q] (S : System ι K P Q A σ ρ W) (c : Config ι K P Q A σ ρ) :
    List (Move ι K Q A W) →
      Option (List (Transition.Edge (Config ι K P Q A σ ρ) (Label ι K P Q A ρ W)) ×
        Config ι K P Q A σ ρ)
  | [] => some ([], c)
  | move :: moves =>
    (S.move c move).bind fun (label, d) =>
      (S.play d moves).map fun (es, e) => (⟨c, label, d⟩ :: es, e)

/-- What is played is a run. -/
theorem System.run_of_play [DecidableEq Q] {S : System ι K P Q A σ ρ W}
    {c d : Config ι K P Q A σ ρ} {moves : List (Move ι K Q A W)}
    {es : List (Transition.Edge (Config ι K P Q A σ ρ) (Label ι K P Q A ρ W))}
    (h : S.play c moves = some (es, d)) : S.Run c es d := by
  induction moves generalizing c es with
  | nil =>
    cases h
    exact .nil
  | cons move moves ih =>
    obtain ⟨⟨label, c'⟩, hm, h⟩ := Option.bind_eq_some_iff.mp h
    obtain ⟨⟨es', d'⟩, hp, he⟩ := Option.map_eq_some_iff.mp h
    cases he
    exact (Transition.Run.single (System.step_of_move hm)).append (ih hp)

/-- A played run with a property that can be checked. -/
theorem System.exists_run [DecidableEq Q] (S : System ι K P Q A σ ρ W) (c : Config ι K P Q A σ ρ)
    (moves : List (Move ι K Q A W))
    (p : List (Transition.Edge (Config ι K P Q A σ ρ) (Label ι K P Q A ρ W)) →
      Config ι K P Q A σ ρ → Bool)
    (h : (S.play c moves).any (fun r => p r.1 r.2) = true) :
    ∃ es d, S.Run c es d ∧ p es d = true := by
  obtain ⟨⟨es, d⟩, hplay, hp⟩ := (Option.any_eq_true _ _).mp h
  exact ⟨es, d, System.run_of_play hplay, hp⟩

end Steps

end Cooperative
