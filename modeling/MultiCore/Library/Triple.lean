import MultiCore.Library.RelyGuarantee

/-!
# Triples

Pre- and postconditions for tasks under a contract. A condition between two
steps has to be stable: the others do not undo it. The rules follow the
constructors of tasks, with their variants for tasks that may fail.
-/

namespace Cooperative

variable {P Q : Type} {A : Q → Type} {σ α β ε : Type}

/-- The others do not undo it. -/
def Contract.Stable (C : Contract P Q A σ) (p : σ → Prop) : Prop :=
  ∀ s t, C.Others s t → p s → p t

/-- From a state with `pre` the task keeps its contract and ends with `post`. -/
def Triple (C : Contract P Q A σ) (pre : σ → Prop) (task : Task P Q A σ α)
    (post : α → σ → Prop) : Prop :=
  ∀ s, C.inv s → pre s → Safe C post task s

namespace Triple

variable {C : Contract P Q A σ} {pre pre' : σ → Prop} {post post' mid : α → σ → Prop}

/-- A stronger precondition and a weaker postcondition. -/
theorem weaken {task : Task P Q A σ α} (h : Triple C pre task post)
    (hpre : ∀ s, C.inv s → pre' s → pre s)
    (hpost : ∀ a s, C.inv s → post a s → post' a s) : Triple C pre' task post' :=
  fun s hs hp => (h s hs (hpre s hs hp)).mono hpost

theorem bind {task : Task P Q A σ α} {rest : α → Task P Q A σ β} {post : β → σ → Prop}
    (h : Triple C pre task mid) (hrest : ∀ a, Triple C (mid a) (rest a) post) :
    Triple C pre (task >>= rest) post :=
  fun s hs hp => (h s hs hp).bind hs hrest

theorem done {result : α} (hpre : C.Stable pre) (h : ∀ s, C.inv s → pre s → post result s) :
    Triple C pre (Task.done result) post :=
  fun s _ hp => Safe.done fun t ht => h t ht.2 (hpre s t ht hp)

/-- A section that may wait. -/
theorem await {point : P} {enabled : σ → Bool} {run : σ → σ} {result : σ → α}
    (hpre : C.Stable pre) (hpost : ∀ a, C.Stable (post a))
    (h : ∀ s, C.inv s → pre s → enabled s = true → C.grants point s →
      C.shows point s (run s) ∧ C.Own s (run s) ∧ post (result s) (run s)) :
    Triple C pre (Task.await point enabled run result) post := by
  intro s hs hp
  refine Safe.await_shows fun t ht he hg => ?_
  obtain ⟨hshows, hown, hend⟩ := h t ht.2 (hpre s t ht hp) he hg
  exact ⟨hshows, hown, fun u hu => hpost _ _ u hu hend⟩

theorem atomic {point : P} {run : σ → σ} {result : σ → α}
    (hpre : C.Stable pre) (hpost : ∀ a, C.Stable (post a))
    (h : ∀ s, C.inv s → pre s → C.grants point s →
      C.shows point s (run s) ∧ C.Own s (run s) ∧ post (result s) (run s)) :
    Triple C pre (Task.atomic point run result) post :=
  await hpre hpost fun s hs hp _ hg => h s hs hp hg

theorem question {q : Q} {post : A q → σ → Prop}
    (hpre : C.Stable pre) (hpost : ∀ a, C.Stable (post a))
    (hasks : ∀ s, C.inv s → pre s → C.asks q s)
    (h : ∀ a s t, C.inv s → pre s → C.answers q a s t → C.Own s t ∧ post a t) :
    Triple C pre (Task.question q) post := by
  intro s _ hp
  refine Safe.question fun t ht => ⟨hasks t ht.2 (hpre s t ht hp), fun u a v hu ha => ?_⟩
  have hu' := hpre t u hu (hpre s t ht hp)
  obtain ⟨hown, hend⟩ := h a u v hu.2 hu' ha
  exact ⟨hown, fun w hw => hpost a v w hw hend⟩

/-- What nobody undoes is carried past a task. -/
theorem carry {task : Task P Q A σ α} {k : σ → Prop} (h : Triple C pre task post)
    (hrely : ∀ s t, C.rely s t → k s → k t) (hguar : ∀ s t, C.guar s t → k s → k t) :
    Triple C (fun s => pre s ∧ k s) task fun a s => post a s ∧ k s :=
  fun s hs hp => (h s hs hp.1).carry hrely hguar hp.2

/-- A task that has ended with a result, among tasks that may fail. -/
theorem except_done {result : α} {failed : ε → σ → Prop} (hpre : C.Stable pre)
    (h : ∀ s, C.inv s → pre s → post result s) :
    Triple C pre (pure result : ExceptT ε (Task P Q A σ) α).run (Safe.Outcome post failed) :=
  fun s _ hp => Safe.done fun t ht => h t ht.2 (hpre s t ht hp)

theorem throw {error : ε} {failed : ε → σ → Prop} (hpre : C.Stable pre)
    (h : ∀ s, C.inv s → pre s → failed error s) :
    Triple C pre (throw error : ExceptT ε (Task P Q A σ) α).run (Safe.Outcome post failed) :=
  fun s _ hp => Safe.done fun t ht => h t ht.2 (hpre s t ht hp)

/-- A task that cannot fail, among tasks that may. -/
theorem lift {task : Task P Q A σ α} {failed : ε → σ → Prop} (h : Triple C pre task post)
    (hstable : ∀ a, C.Stable (post a)) :
    Triple C pre (ExceptT.lift task : ExceptT ε (Task P Q A σ) α).run
      (Safe.Outcome post failed) :=
  fun s hs hp => Safe.except_lift (h s hs hp) hs fun a _ _ hpost ht => hstable a _ _ ht hpost

/-- Sequential composition of tasks that may fail. -/
theorem except_bind {task : ExceptT ε (Task P Q A σ) α} {rest : α → ExceptT ε (Task P Q A σ) β}
    {post : β → σ → Prop} {failed : ε → σ → Prop}
    (h : Triple C pre task.run (Safe.Outcome mid failed))
    (hfailed : ∀ e, C.Stable (failed e))
    (hrest : ∀ a, Triple C (mid a) (rest a).run (Safe.Outcome post failed)) :
    Triple C pre (task >>= rest).run (Safe.Outcome post failed) :=
  fun s hs hp => Safe.except_bind (h s hs hp) hs (fun e _ _ hf ht => hfailed e _ _ ht hf) hrest

end Triple

end Cooperative
