import MultiCore.Library.Task

/-!
# Rely and guarantee

A task is judged against a contract: what the other tasks may change between
its steps (rely), what each of its own steps changes (guarantee), what it may
ask, what it shows at its sections, and which answers and sections the run
under consideration grants.
`Safe` follows the task's structure, so a program is judged function by
function. Soundness says that tasks which keep their contracts keep the common
invariant along every granted run, whatever the interleaving.
-/

namespace Cooperative

variable {ι K P Q : Type} {A : Q → Type} {σ α β ρ W : Type}

/-- What a task relies on, guarantees, may ask, shows and is granted. -/
structure Contract (P Q : Type) (A : Q → Type) (σ : Type) where
  /-- Holds in every state of the run. -/
  inv : σ → Prop
  rely : σ → σ → Prop
  guar : σ → σ → Prop
  asks : Q → σ → Prop
  /-- The sections the run takes in a state. -/
  grants : P → σ → Prop
  /-- The answers the run gives in a state, and what they make of it. -/
  answers : (q : Q) → A q → σ → σ → Prop
  /-- What the task makes sure of at a section, of the state it finds and the one it leaves. -/
  shows : P → σ → σ → Prop := fun _ _ _ => True
  rely_refl : ∀ s, rely s s
  rely_trans : ∀ {s t u}, rely s t → rely t u → rely s u

namespace Contract

variable (C : Contract P Q A σ)

/-- The others may have taken the state from `s` to `t`. -/
def Others (s t : σ) : Prop := C.rely s t ∧ C.inv t

/-- A step of the task may take the state from `s` to `t`. -/
def Own (s t : σ) : Prop := C.guar s t ∧ C.inv t

theorem Others.trans {C : Contract P Q A σ} {s t u : σ} (h : C.Others s t) (k : C.Others t u) :
    C.Others s u :=
  ⟨C.rely_trans h.1 k.1, k.2⟩

theorem Others.refl {C : Contract P Q A σ} {s : σ} (h : C.inv s) : C.Others s s :=
  ⟨C.rely_refl s, h⟩

end Contract

/-- A task under the contract has nothing to show at a point. -/
class Contract.Silent (C : Contract P Q A σ) (point : P) : Prop where
  shows : ∀ s t, C.shows point s t

/-- From `s` on, the task keeps its contract and ends with a result and a state in `post`. -/
def Safe (C : Contract P Q A σ) (post : α → σ → Prop) : Task P Q A σ α → σ → Prop
  | .done result, s => ∀ t, C.Others s t → post result t
  | .critical point enabled run next, s =>
    ∀ t, C.Others s t → enabled t = true → C.grants point t →
      C.shows point t (run t) ∧ C.Own t (run t) ∧ Safe C post (next t) (run t)
  | .ask question next, s =>
    ∀ t, C.Others s t → C.asks question t ∧
      ∀ u answer v, C.Others t u → C.answers question answer u v →
        C.Own u v ∧ Safe C post (next answer) v
  | .waiting question next, s =>
    ∀ u answer v, C.Others s u → C.answers question answer u v →
      C.Own u v ∧ Safe C post (next answer) v

namespace Safe

variable {C : Contract P Q A σ} {post post' : α → σ → Prop} {s t : σ}

/-- Interference of the others is already accounted for. -/
theorem others {task : Task P Q A σ α} (h : Safe C post task s) (hst : C.Others s t) :
    Safe C post task t := by
  cases task with
  | done result => exact fun u hu => h u (hst.trans hu)
  | critical point enabled run next => exact fun u hu => h u (hst.trans hu)
  | ask question next => exact fun u hu => h u (hst.trans hu)
  | waiting question next => exact fun u answer v hu => h u answer v (hst.trans hu)

/-- A weaker claim about the end follows. -/
theorem mono {task : Task P Q A σ α} (h : Safe C post task s)
    (himp : ∀ r t, C.inv t → post r t → post' r t) : Safe C post' task s := by
  induction task generalizing s with
  | done result => exact fun u hu => himp result u hu.2 (h u hu)
  | critical point enabled run next ih =>
    intro u hu he hg
    obtain ⟨hshows, hown, hnext⟩ := h u hu he hg
    exact ⟨hshows, hown, ih u hnext⟩
  | ask question next ih =>
    intro u hu
    obtain ⟨hasks, hrest⟩ := h u hu
    refine ⟨hasks, fun v answer w hv hw => ?_⟩
    obtain ⟨hown, hnext⟩ := hrest v answer w hv hw
    exact ⟨hown, ih answer hnext⟩
  | waiting question next ih =>
    intro v answer w hv hw
    obtain ⟨hown, hnext⟩ := h v answer w hv hw
    exact ⟨hown, ih answer hnext⟩

/-- Sequential composition: the second part starts where the first one ended. -/
theorem bind {task : Task P Q A σ α} {rest : α → Task P Q A σ β} {post' : β → σ → Prop}
    (h : Safe C post task s) (hs : C.inv s)
    (hrest : ∀ r t, C.inv t → post r t → Safe C post' (rest r) t) :
    Safe C post' (task >>= rest) s := by
  induction task generalizing s with
  | done result => exact hrest result s hs (h s (.refl hs))
  | critical point enabled run next ih =>
    intro u hu he hg
    obtain ⟨hshows, hown, hnext⟩ := h u hu he hg
    exact ⟨hshows, hown, ih u hnext hown.2⟩
  | ask question next ih =>
    intro u hu
    obtain ⟨hasks, hrest'⟩ := h u hu
    refine ⟨hasks, fun v answer w hv hw => ?_⟩
    obtain ⟨hown, hnext⟩ := hrest' v answer w hv hw
    exact ⟨hown, ih answer hnext hown.2⟩
  | waiting question next ih =>
    intro v answer w hv hw
    obtain ⟨hown, hnext⟩ := h v answer w hv hw
    exact ⟨hown, ih answer hnext hown.2⟩

/-- What neither the task's steps nor the others undo still holds at the end. -/
theorem carry {task : Task P Q A σ α} {k : σ → Prop} (h : Safe C post task s)
    (hrely : ∀ s t, C.rely s t → k s → k t) (hguar : ∀ s t, C.guar s t → k s → k t) (hk : k s) :
    Safe C (fun r t => post r t ∧ k t) task s := by
  induction task generalizing s with
  | done result => exact fun u hu => ⟨h u hu, hrely s u hu.1 hk⟩
  | critical point enabled run next ih =>
    intro u hu he hg
    obtain ⟨hshows, hown, hnext⟩ := h u hu he hg
    exact ⟨hshows, hown, ih u hnext (hguar _ _ hown.1 (hrely s u hu.1 hk))⟩
  | ask question next ih =>
    intro u hu
    obtain ⟨hasks, hrest⟩ := h u hu
    refine ⟨hasks, fun v answer w hv hw => ?_⟩
    obtain ⟨hown, hnext⟩ := hrest v answer w hv hw
    have hv' := hrely u v hv.1 (hrely s u hu.1 hk)
    exact ⟨hown, ih answer hnext (hguar v w hown.1 hv')⟩
  | waiting question next ih =>
    intro v answer w hv hw
    obtain ⟨hown, hnext⟩ := h v answer w hv hw
    exact ⟨hown, ih answer hnext (hguar v w hown.1 (hrely s v hv.1 hk))⟩

/-- A task that has ended, in a state the others may still change. -/
theorem done {result : α} (h : ∀ t, C.Others s t → post result t) :
    Safe C post (.done result) s := h

/-- A section of the task, what it shows and what follows it. -/
theorem await_bind_shows {point : P} {enabled : σ → Bool} {run : σ → σ} {result : σ → α}
    {rest : α → Task P Q A σ β} {post : β → σ → Prop}
    (h : ∀ t, C.Others s t → enabled t = true → C.grants point t →
      C.shows point t (run t) ∧ C.Own t (run t) ∧ Safe C post (rest (result t)) (run t)) :
    Safe C post (Task.await point enabled run result >>= rest) s :=
  fun t ht he hg => h t ht he hg

theorem atomic_bind_shows {point : P} {run : σ → σ} {result : σ → α}
    {rest : α → Task P Q A σ β} {post : β → σ → Prop}
    (h : ∀ t, C.Others s t → C.grants point t →
      C.shows point t (run t) ∧ C.Own t (run t) ∧ Safe C post (rest (result t)) (run t)) :
    Safe C post (Task.atomic point run result >>= rest) s :=
  fun t ht _ hg => h t ht hg

theorem await_shows {point : P} {enabled : σ → Bool} {run : σ → σ} {result : σ → α}
    {post : α → σ → Prop}
    (h : ∀ t, C.Others s t → enabled t = true → C.grants point t →
      C.shows point t (run t) ∧ C.Own t (run t) ∧ ∀ u, C.Others (run t) u → post (result t) u) :
    Safe C post (Task.await point enabled run result) s :=
  fun t ht he hg => h t ht he hg

theorem atomic_shows {point : P} {run : σ → σ} {result : σ → α} {post : α → σ → Prop}
    (h : ∀ t, C.Others s t → C.grants point t →
      C.shows point t (run t) ∧ C.Own t (run t) ∧ ∀ u, C.Others (run t) u → post (result t) u) :
    Safe C post (Task.atomic point run result) s :=
  fun t ht _ hg => h t ht hg

/-- A section at which there is nothing to show, and what follows it. -/
theorem atomic_bind {point : P} {run : σ → σ} {result : σ → α} {rest : α → Task P Q A σ β}
    {post : β → σ → Prop} [hpoint : C.Silent point]
    (h : ∀ t, C.Others s t → C.grants point t →
      C.Own t (run t) ∧ Safe C post (rest (result t)) (run t)) :
    Safe C post (Task.atomic point run result >>= rest) s :=
  atomic_bind_shows fun t ht hg => ⟨hpoint.shows t _, h t ht hg⟩

/-- A question and what follows its answer. -/
theorem question_bind {q : Q} {rest : A q → Task P Q A σ β} {post : β → σ → Prop}
    (h : ∀ t, C.Others s t → C.asks q t ∧ ∀ u a v, C.Others t u → C.answers q a u v →
      C.Own u v ∧ Safe C post (rest a) v) :
    Safe C post (Task.question q >>= rest) s :=
  fun t ht => h t ht

/-- A question that ends the task. -/
theorem question {q : Q} {post : A q → σ → Prop}
    (h : ∀ t, C.Others s t → C.asks q t ∧ ∀ u a v, C.Others t u → C.answers q a u v →
      C.Own u v ∧ ∀ w, C.Others v w → post a w) :
    Safe C post (Task.question q) s :=
  fun t ht => h t ht

/-- What a task that may fail ends with. -/
def Outcome {ε : Type} (post : α → σ → Prop) (failed : ε → σ → Prop) : Except ε α → σ → Prop
  | .ok result => post result
  | .error error => failed error

/-- Sequential composition of tasks that may fail. -/
theorem except_bind {ε : Type} {task : ExceptT ε (Task P Q A σ) α}
    {rest : α → ExceptT ε (Task P Q A σ) β} {post' : β → σ → Prop} {failed : ε → σ → Prop}
    (h : Safe C (Outcome post failed) task.run s) (hs : C.inv s)
    (hfailed : ∀ e {t u}, failed e t → C.Others t u → failed e u)
    (hrest : ∀ r t, C.inv t → post r t → Safe C (Outcome post' failed) (rest r).run t) :
    Safe C (Outcome post' failed) (task >>= rest).run s := by
  show Safe C (Outcome post' failed) (task.run >>= ExceptT.bindCont rest) s
  refine h.bind hs fun result t ht hpost => ?_
  cases result with
  | ok result => exact hrest result t ht hpost
  | error error => exact fun u hu => hfailed error hpost hu

/-- A task that cannot fail, among tasks that may. -/
theorem except_lift {ε : Type} {task : Task P Q A σ α} {failed : ε → σ → Prop}
    (h : Safe C post task s) (hs : C.inv s)
    (hpost : ∀ r {t u}, post r t → C.Others t u → post r u) :
    Safe C (Outcome post failed) (ExceptT.lift task : ExceptT ε (Task P Q A σ) α).run s :=
  Safe.bind h hs fun result _ _ h => .done fun _ hu => hpost result h hu

/-- A section that ends the task. -/
theorem atomic {point : P} {run : σ → σ} {result : σ → α} {post : α → σ → Prop}
    [hpoint : C.Silent point]
    (h : ∀ t, C.Others s t → C.grants point t →
      C.Own t (run t) ∧ ∀ u, C.Others (run t) u → post (result t) u) :
    Safe C post (Task.atomic point run result) s :=
  atomic_shows fun t ht hg => ⟨hpoint.shows t _, h t ht hg⟩

theorem await {point : P} {enabled : σ → Bool} {run : σ → σ} {result : σ → α}
    {post : α → σ → Prop} [hpoint : C.Silent point]
    (h : ∀ t, C.Others s t → enabled t = true → C.grants point t →
      C.Own t (run t) ∧ ∀ u, C.Others (run t) u → post (result t) u) :
    Safe C post (Task.await point enabled run result) s :=
  await_shows fun t ht he hg => ⟨hpoint.shows t _, h t ht he hg⟩

end Safe

section Soundness

variable [DecidableEq ι]

/-- Contracts for all requests of a system that fit together: what one task, the environment or
the beginning and end of a request does is what the other tasks rely on. What is `idle` about a
slot that serves no request survives whatever a task in that slot would have to survive. -/
structure Fits (S : System ι K P Q A σ ρ W) (inv : σ → Prop) (idle : ι → σ → Prop)
    (contract : ι → K → Contract P Q A σ) (post : ι → K → ρ → σ → Prop)
    (grantsChange : W → σ → Prop) : Prop where
  inv_eq : ∀ i k, (contract i k).inv = inv
  guar_rely : ∀ {i j} k l {s t}, i ≠ j → inv s → inv t → (contract i k).guar s t →
    (contract j l).rely s t
  idle_rely : ∀ i k {s t}, inv t → idle i s → (contract i k).rely s t → idle i t
  begin : ∀ i k {s}, inv s → idle i s → S.mayBegin i k s = true →
    inv (S.onBegin i k s) ∧ (∀ j l, j ≠ i → (contract j l).rely s (S.onBegin i k s)) ∧
      Safe (contract i k) (post i k) (S.program i k) (S.onBegin i k s)
  finish : ∀ i k r {s}, inv s → post i k r s →
    inv (S.onFinish i k r s) ∧ idle i (S.onFinish i k r s) ∧
      ∀ j l, j ≠ i → (contract j l).rely s (S.onFinish i k r s)
  change : ∀ w {s t}, inv s → grantsChange w s → S.world w s = some t →
    inv t ∧ (∀ i, idle i s → idle i t) ∧ ∀ j l, (contract j l).rely s t

/-- A step the contracts grant. -/
def Granted (S : System ι K P Q A σ ρ W) (contract : ι → K → Contract P Q A σ)
    (grantsChange : W → σ → Prop)
    (e : Transition.Edge (Config ι K P Q A σ ρ) (Label ι K P Q A ρ W)) : Prop :=
  match e.label with
  | .ran i k p => (contract i k).grants p e.source.shared
  | .answered i k q a => ∀ t, S.respond i q a e.source.shared = some t →
      (contract i k).answers q a e.source.shared t
  | .changed w => grantsChange w e.source.shared
  | _ => True

/-- The invariant holds and every request being served keeps its contract from here on. -/
structure AllSafe (inv : σ → Prop) (idle : ι → σ → Prop) (contract : ι → K → Contract P Q A σ)
    (post : ι → K → ρ → σ → Prop) (c : Config ι K P Q A σ ρ) : Prop where
  inv : inv c.shared
  idle : ∀ i, c.task i = none → idle i c.shared
  safe : ∀ i k task, c.task i = some (k, task) → Safe (contract i k) (post i k) task c.shared

variable {S : System ι K P Q A σ ρ W} {inv : σ → Prop} {idle : ι → σ → Prop}
  {contract : ι → K → Contract P Q A σ}
  {post : ι → K → ρ → σ → Prop} {grantsChange : W → σ → Prop} {c d : Config ι K P Q A σ ρ}

/-- The other slots stay as they were over a step that their tasks rely on. -/
private theorem AllSafe.put (hfit : Fits S inv idle contract post grantsChange)
    (h : AllSafe inv idle contract post c) {i : ι} (k : K) {next : Option (K × Task P Q A σ ρ)}
    {t : σ} (ht : inv t) (hrely : ∀ j l, j ≠ i → (contract j l).rely c.shared t)
    (hidle : next = none → idle i t)
    (hi : ∀ k task, next = some (k, task) → Safe (contract i k) (post i k) task t) :
    AllSafe inv idle contract post (c.put i next t) where
  inv := ht
  idle := by
    intro j hj
    by_cases hji : j = i
    · subst hji
      rw [Config.put_same] at hj
      exact hidle hj
    · rw [Config.put_ne _ hji] at hj
      exact hfit.idle_rely j k ht (h.idle j hj) (hrely j k hji)
  safe := by
    intro j l task htask
    by_cases hji : j = i
    · subst hji
      rw [Config.put_same] at htask
      exact hi l task htask
    · rw [Config.put_ne _ hji] at htask
      refine (h.safe j l task htask).others ⟨hrely j l hji, ?_⟩
      rw [hfit.inv_eq]
      exact ht

/-- A granted step keeps every contract. -/
theorem AllSafe.step (hfit : Fits S inv idle contract post grantsChange)
    (h : AllSafe inv idle contract post c) {label : Label ι K P Q A ρ W}
    (hstep : S.Step c label d) (hgrant : Granted S contract grantsChange ⟨c, label, d⟩) :
    AllSafe inv idle contract post d := by
  have hrefl : ∀ i k, (contract i k).Others c.shared c.shared := fun i k =>
    .refl (by rw [hfit.inv_eq]; exact h.inv)
  have hothers : ∀ {i k t}, (contract i k).Own c.shared t →
      inv t ∧ ∀ j l, j ≠ i → (contract j l).rely c.shared t := by
    intro i k t hown
    have ht : inv t := by
      rw [← hfit.inv_eq i k]
      exact hown.2
    exact ⟨ht, fun j l hji => hfit.guar_rely k l (Ne.symm hji) h.inv ht hown.1⟩
  cases hstep with
  | began i kind free may =>
    obtain ⟨hinv, hrely, hsafe⟩ := hfit.begin i kind h.inv (h.idle i free) may
    refine h.put hfit kind hinv hrely (fun he => by cases he) fun k task he => ?_
    cases he
    exact hsafe
  | ran i kind point enabled run next task ready =>
    obtain ⟨-, hown, hnext⟩ := h.safe i kind _ task c.shared (hrefl i kind) ready hgrant
    obtain ⟨hinv, hrely⟩ := hothers hown
    refine h.put hfit kind hinv hrely (fun he => by cases he) fun k task he => ?_
    cases he
    exact hnext
  | asked i kind question next task =>
    have hrest := (h.safe i kind _ task c.shared (hrefl i kind)).2
    refine h.put hfit kind h.inv (fun j l _ => (contract j l).rely_refl _)
      (fun he => by cases he) fun k task he => ?_
    cases he
    exact hrest
  | answered i kind question answer s next task given =>
    obtain ⟨hown, hnext⟩ :=
      h.safe i kind _ task c.shared answer s (hrefl i kind) (hgrant s given)
    obtain ⟨hinv, hrely⟩ := hothers hown
    refine h.put hfit kind hinv hrely (fun he => by cases he) fun k task he => ?_
    cases he
    exact hnext
  | finished i kind result task =>
    have hpost := h.safe i kind _ task c.shared (hrefl i kind)
    obtain ⟨hinv, hidle, hrely⟩ := hfit.finish i kind result h.inv hpost
    exact h.put hfit kind hinv hrely (fun _ => hidle) fun k task he => by cases he
  | changed change s given =>
    obtain ⟨hinv, hidle, hrely⟩ := hfit.change change h.inv hgrant given
    refine ⟨hinv, fun j hj => hidle j (h.idle j hj), fun j l task htask => ?_⟩
    refine (h.safe j l task htask).others ⟨hrely j l, ?_⟩
    rw [hfit.inv_eq]
    exact hinv

/-- Soundness: along a run whose steps are all granted every contract is kept. -/
theorem AllSafe.run (hfit : Fits S inv idle contract post grantsChange)
    {es : List (Transition.Edge (Config ι K P Q A σ ρ) (Label ι K P Q A ρ W))}
    (hrun : S.Run c es d) (h : AllSafe inv idle contract post c)
    (hgrant : ∀ e ∈ es, Granted S contract grantsChange e) : AllSafe inv idle contract post d :=
  hrun.invariant_of (I := AllSafe inv idle contract post) h
    (fun hi hstep hgood => hi.step hfit hstep hgood) hgrant

/-- Soundness in every state along the way. -/
theorem AllSafe.run_targets (hfit : Fits S inv idle contract post grantsChange)
    {es : List (Transition.Edge (Config ι K P Q A σ ρ) (Label ι K P Q A ρ W))}
    (hrun : S.Run c es d) (h : AllSafe inv idle contract post c)
    (hgrant : ∀ e ∈ es, Granted S contract grantsChange e) :
    ∀ e ∈ es, AllSafe inv idle contract post e.target :=
  hrun.forall_target_of (I := AllSafe inv idle contract post) h
    (fun hi hstep hgood => hi.step hfit hstep hgood) hgrant

/-- A question is only asked where the asking task's contract allows it. -/
theorem AllSafe.asks (hfit : Fits S inv idle contract post grantsChange)
    (h : AllSafe inv idle contract post c) {i : ι} {kind : K} {question : Q}
    (hstep : S.Step c (.asked i kind question) d) : (contract i kind).asks question c.shared := by
  cases hstep with
  | asked i kind question next task =>
    exact (h.safe i kind _ task c.shared (.refl (by rw [hfit.inv_eq]; exact h.inv))).1

/-- A section of a request keeps its guarantee. -/
theorem AllSafe.ran (hfit : Fits S inv idle contract post grantsChange)
    (h : AllSafe inv idle contract post c) {i : ι} {kind : K} {point : P}
    (hstep : S.Step c (.ran i kind point) d)
    (hgrant : Granted S contract grantsChange ⟨c, .ran i kind point, d⟩) :
    (contract i kind).guar c.shared d.shared := by
  cases hstep with
  | ran i kind point enabled run next task ready =>
    have hself : (contract i kind).Others c.shared c.shared :=
      .refl (by rw [hfit.inv_eq]; exact h.inv)
    exact (h.safe i kind _ task c.shared hself ready hgrant).2.1.1

/-- What a request shows at a section holds of the step that takes the section. -/
theorem AllSafe.shows (hfit : Fits S inv idle contract post grantsChange)
    (h : AllSafe inv idle contract post c) {i : ι} {kind : K} {point : P}
    (hstep : S.Step c (.ran i kind point) d)
    (hgrant : Granted S contract grantsChange ⟨c, .ran i kind point, d⟩) :
    (contract i kind).shows point c.shared d.shared := by
  cases hstep with
  | ran i kind point enabled run next task ready =>
    have hself : (contract i kind).Others c.shared c.shared :=
      .refl (by rw [hfit.inv_eq]; exact h.inv)
    exact (h.safe i kind _ task c.shared hself ready hgrant).1

/-- So does an answer to it. -/
theorem AllSafe.answered (hfit : Fits S inv idle contract post grantsChange)
    (h : AllSafe inv idle contract post c) {i : ι} {kind : K} {question : Q} {answer : A question}
    (hstep : S.Step c (.answered i kind question answer) d)
    (hgrant : Granted S contract grantsChange ⟨c, .answered i kind question answer, d⟩) :
    (contract i kind).guar c.shared d.shared := by
  cases hstep with
  | answered i kind question answer s next task given =>
    have hself : (contract i kind).Others c.shared c.shared :=
      .refl (by rw [hfit.inv_eq]; exact h.inv)
    exact (h.safe i kind _ task c.shared answer s hself (hgrant s given)).1.1

/-- A request ends as its contract says. -/
theorem AllSafe.finished (hfit : Fits S inv idle contract post grantsChange)
    (h : AllSafe inv idle contract post c) {i : ι} {kind : K} {result : ρ}
    (hstep : S.Step c (.finished i kind result) d) : post i kind result c.shared := by
  cases hstep with
  | finished i kind result task =>
    exact h.safe i kind _ task c.shared (.refl (by rw [hfit.inv_eq]; exact h.inv))

end Soundness

end Cooperative
