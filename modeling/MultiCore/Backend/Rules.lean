import MultiCore.Backend.Contract

/-!
# Rules for the daemon's sections

One triple for each kind of section and question: looks, changes under the
operation lock, calls of the store, and the sections that take and give back
the locks or record what a request is entitled to.
-/

namespace MultiCore.Backend

open Cooperative Daemon

variable {ι : Type} [DecidableEq ι] {aims : Aims} {i : ι} {m : Mine} {α : Type}
  {pre : CoreBackend ι → Prop} {p q : CoreRuntime → ProfileStore → Prop}

section Sections

/-- A look at the state, with a postcondition that others cannot break. -/
theorem look_rule {f : CoreBackend ι → α} (post : α → CoreBackend ι → Prop)
    (hpre : (contract aims i).Stable pre) (hpost : ∀ a, (contract aims i).Stable (post a))
    (h : ∀ s, Sound aims s → pre s → post (f s) s) :
    Triple (contract aims i) pre (look f) post :=
  Triple.atomic hpre hpost fun s hs hp _ =>
    ⟨trivial, own_aside hs rfl rfl rfl fun h _ => h, h s hs hp⟩

/-- A look at what does not matter. -/
theorem look_aside (hpre : (contract aims i).Stable pre) {f : CoreBackend ι → α} :
    Triple (contract aims i) pre (look f) fun _ => pre :=
  look_rule _ hpre (fun _ => hpre) fun _ _ hp => hp

/-- A look by the holder of the operation lock. -/
theorem look_at (hm : m.holding = true) {f : CoreBackend ι → α}
    {q : α → CoreRuntime → ProfileStore → Prop}
    (h : ∀ s, Sound aims s → s.mine i = m → p s.runtime s.store → q (f s) s.runtime s.store) :
    Triple (contract aims i) (At i m p) (look f) fun a => At i m (q a) :=
  look_rule _ (stable_at hm) (fun _ => stable_at hm) fun s hs hp => ⟨hp.1, h s hs hp.1 hp.2⟩

/-- A write to what no contract speaks of. -/
theorem update_aside (hpre : (contract aims i).Stable pre) {f : CoreBackend ι → CoreBackend ι}
    (hframe : ∀ s, (f s).frame = s.frame)
    (hruntime : ∀ s, (f s).runtime = s.runtime ∧ (f s).warmRevision = s.warmRevision)
    (h : ∀ s, pre s → pre (f s)) (hauto : ∀ s, Schedules s (f s)) :
    Triple (contract aims i) pre (update f) fun _ => pre :=
  Triple.atomic hpre (fun _ => hpre) fun s hs hp _ =>
    ⟨trivial, own_aside hs (hframe s) (hruntime s).1 (hruntime s).2 (hauto s), h s hp⟩

/-- A change of the runtime by the holder of the operation lock. -/
theorem updateAt_rule (hm : m.holding = true) {place : Place} {f : CoreBackend ι → CoreBackend ι}
    (hframe : ∀ s, (f s).frame = s.frame)
    (hauto : ∀ s, p s.runtime s.store → Schedules s (f s))
    (hshows : ∀ s : CoreBackend ι, Shows aims place s)
    (h : ∀ s, Sound aims s → s.mine i = m → p s.runtime s.store → Grant aims i place s →
      Respects aims m s (f s) ∧ q (f s).runtime s.store) :
    Triple (contract aims i) (At i m p) (updateAt place f) fun _ => At i m q := by
  refine Triple.atomic (stable_at hm) (fun _ => stable_at hm) fun s hs hp hg => ?_
  obtain ⟨hr, hq⟩ := h s hs hp.1 hp.2 hg
  have hstore : (f s).store = s.store := by
    have hf := hframe s
    simp only [CoreBackend.frame, Prod.mk.injEq] at hf
    exact hf.2.2.1
  refine ⟨hshows s, own_of_respects hs (.inl (hp.1 ▸ hm)) (hframe s) (hauto s hp.2) (hp.1 ▸ hr), ?_⟩
  refine ⟨(mine_of_frame (hframe s) i).trans hp.1, ?_⟩
  rw [hstore]
  exact hq

omit [DecidableEq ι] in
/-- A change of the runtime that leaves the catalog alone. -/
theorem respects_of_catalog {s : CoreBackend ι} {r : CoreRuntime}
    (hcoherent : aims.coherence → Coherent s.runtime → Coherent r)
    (henters : r.live = true → r.state = s.runtime.state ∨ m.entitled = true)
    (hsnapshot : r.snapshot = s.runtime.snapshot) (hrevision : r.revision = s.runtime.revision) :
    Respects aims m s { s with runtime := r } :=
  ⟨hcoherent, henters, fun _ hw => hw.congr rfl hsnapshot hrevision rfl rfl, .inr fun _ h => h⟩

/-- Getting to a place. -/
theorem reach_rule (hm : m.holding = true) {place : Place}
    (hshows : ∀ s : CoreBackend ι, Shows aims place s)
    (h : ∀ s : CoreBackend ι, Sound aims s → p s.runtime s.store → Grant aims i place s →
      q s.runtime s.store) :
    Triple (contract aims i) (At i m p) (reach place) fun _ => At i m q :=
  updateAt_rule hm (fun _ => rfl) (fun _ _ h _ => h) hshows fun s hs _ hp hg =>
    ⟨respects_of_catalog (fun _ hc => hc) (fun _ => .inl rfl) rfl rfl, h s hs hp hg⟩

end Sections

section Questions

/-- The answer changes nothing. -/
def Ask.quiet : Ask → Bool
  | .store _ | .start .. => false
  | _ => true

omit [DecidableEq ι] in
/-- A quiet question leaves the state alone. -/
theorem respond_quiet {s t : CoreBackend ι} {q : Ask} {a : Reply q} (hq : q.quiet = true)
    (h : s.respond i q a = some t) : t = s := by
  cases q with
  | store call => cases hq
  | start controller engine => cases hq
  | fetch link =>
    cases a with
    | none => exact (Option.some.inj h).symm
    | some snapshot => exact (Option.some.inj (Option.ite_none_right_eq_some.mp h).2).symm
  | _ => exact (Option.some.inj h).symm

/-- A question whose answer changes nothing. -/
theorem ask_rule (hpre : (contract aims i).Stable pre) {q : Ask} (hq : q.quiet = true) :
    Triple (contract aims i) pre (Task.question q) fun _ => pre := by
  refine Triple.question hpre (fun _ => hpre) (fun _ _ _ _ hstarts => ?_) fun a s t hs hp ha => ?_
  · cases q <;> simp_all [Ask.quiet, Ask.starts]
  · obtain rfl := respond_quiet hq ha.1
    exact ⟨own_aside hs rfl rfl rfl fun h _ => h, hp⟩

/-- What is downloaded has the link it was downloaded from. -/
theorem fetch_rule (hpre : (contract aims i).Stable pre) {link : Link} :
    Triple (contract aims i) pre (fetch link) fun found s =>
      pre s ∧ ∀ snapshot ∈ found, snapshot.source = some link := by
  refine Triple.question hpre (fun a s t ht hp => ⟨hpre s t ht hp.1, hp.2⟩)
    (fun _ _ _ _ hstarts => by cases hstarts) fun a s t hs hp ha => ?_
  obtain rfl := respond_quiet rfl ha.1
  refine ⟨own_aside hs rfl rfl rfl fun h _ => h, hp, fun snapshot hsnapshot => ?_⟩
  cases hsnapshot
  exact (Option.ite_none_right_eq_some.mp ha.1).1

/-- What the service may prepare without ill effect. -/
def Prepares (aims : Aims) (controller : Controller) (s : CoreBackend ι) : Prop :=
  aims.warmth → ∀ revision ∈ s.warmRevision,
    controller.snapshot.payload = (aims.content revision).payload

omit [DecidableEq ι] in
/-- A start either has the service prepare or changes nothing. -/
theorem respond_start {s t : CoreBackend ι} {controller : Controller} {engine : Engine}
    {started : Started} (h : s.respond i (.start controller engine) started = some t) :
    controller.mayAnswer engine started = true ∧
      (started.prepares = true ∧ t = s.prepare i controller ∨ started.prepares = false ∧ t = s) := by
  obtain ⟨hmay, ht⟩ := Option.ite_none_right_eq_some.mp h
  refine ⟨hmay, ?_⟩
  have ht := (Option.some.inj ht).symm
  cases hp : started.prepares with
  | true => exact .inl ⟨rfl, by rw [ht, if_pos hp]⟩
  | false => exact .inr ⟨rfl, by rw [ht, if_neg (by simp [hp])]⟩

/-- Cores are started only by a request that is past its look at `shutDown`. -/
theorem start_rule (hpre : (contract aims i).Stable pre) {controller : Controller}
    {engine : Engine} (hpast : ∀ s : CoreBackend ι, pre s → (s.mine i).past = true)
    (hprepares : ∀ s, Sound aims s → pre s → Prepares aims controller s)
    (post : Except StartFailureCause Unit → CoreBackend ι → Prop)
    (hpost : ∀ a, (contract aims i).Stable (post a))
    (hprepared : ∀ s a, pre s → post a (s.prepare i controller))
    (hnot : ∀ s started, pre s → controller.mayAnswer engine started = true →
      started.prepares = false → post started.result s) :
    Triple (contract aims i) pre (start controller engine) post := by
  have hquestion : Triple (contract aims i) pre (Task.question (Ask.start controller engine))
      fun started => post (Started.result started) := by
    refine Triple.question hpre (fun a => hpost _) (fun s hs hp ha _ => ?_)
      fun started s t hs hp ha => ?_
    · by_contra hquit
      have hfalse := (hs.quit ha (by simpa using hquit)).2 i
      rw [show s.past i = true from hpast s hp] at hfalse
      cases hfalse
    · obtain ⟨hmay, ⟨-, rfl⟩ | ⟨hprepares', rfl⟩⟩ := respond_start ha.1
      · refine ⟨⟨⟨fun j _ => rfl, .inr ⟨rfl, rfl⟩, fun _ => .inl rfl, .inl, fun h => h,
          .inr fun _ h => h, .inl rfl, fun _ => .refl _⟩, ?_⟩, hprepared s _ hp⟩
        refine ⟨hs.agreement, hs.coherence, fun hf hfinal => ?_, hs.quit, fun hw => ?_⟩
        · have hdown := hs.finality hf hfinal
          exact ⟨hdown.live, hdown.reconnect, hdown.bound⟩
        · have hwarm := hs.warmth hw
          refine ⟨hwarm.meant, hwarm.installed, hwarm.bare, hwarm.recorded, ?_⟩
          rintro revision hrevision payload ⟨⟩
          exact hprepares s hs hp hw revision hrevision
      · exact ⟨own_aside hs rfl rfl rfl fun h _ => h, hnot _ _ hp hmay hprepares'⟩
  exact hquestion.bind fun started => Triple.done (hpost _) fun _ _ hp => hp

/-- A call of the store by the holder of the operation lock. -/
theorem call_rule (hm : m.holding = true) {c : StoreCall}
    {q : StoreReply c → CoreRuntime → ProfileStore → Prop}
    (hlinks : ∀ a r store store', p r store → store.respond c a = some store' →
      GrantCall aims c a store store' → aims.links → LinksKept store store')
    (h : ∀ a r store store', p r store → store.respond c a = some store' →
      GrantCall aims c a store store' → q a r store') :
    Triple (contract aims i) (At i m p) (call c) fun a => At i m (q a) := by
  refine Triple.question (stable_at hm) (fun _ => stable_at hm)
    (fun _ _ _ _ hstarts => by cases hstarts) fun a s t hs hp ha => ?_
  obtain ⟨store', hrespond, rfl⟩ := Option.map_eq_some_iff.mp ha.1
  have hgrant : GrantCall aims c a s.store store' := ha.2
  refine ⟨⟨⟨fun _ _ => rfl, .inl (hp.1 ▸ hm), fun _ => .inl rfl, fun ht => .inl ht,
    fun ht => ht, .inr fun _ h => h, .inr ⟨rfl, rfl⟩, hlinks a _ _ _ hp.2 hrespond hgrant⟩, ?_⟩,
    hp.1, h a _ _ _ hp.2 hrespond hgrant⟩
  have holding := holding_iff.mp (hp.1 ▸ hm)
  refine ⟨fun _ hnone => ?_, hs.coherence, fun ha ht => ?_, hs.quit, fun ha => ?_⟩
  · rw [show s.operation = none from hnone] at holding
    cases holding
  · have hd := hs.finality ha ht
    exact ⟨hd.live, hd.reconnect, hd.bound⟩
  · have hw := hs.warmth ha
    exact ⟨hgrant.meant ha hw.meant, hw.installed, hw.bare, hw.recorded, hw.prepared⟩

/-- A call that leaves the store as it is. -/
theorem read_rule (hpre : (contract aims i).Stable pre) {c : StoreCall}
    (hc : ∀ (a : StoreReply c) (store store' : ProfileStore),
      store.respond c a = some store' → store' = store)
    {post : StoreReply c → CoreBackend ι → Prop} (hpost : ∀ a, (contract aims i).Stable (post a))
    (h : ∀ a s, Sound aims s → pre s → s.store.respond c a = some s.store →
      GrantCall aims c a s.store s.store → post a s) :
    Triple (contract aims i) pre (call c) post := by
  refine Triple.question hpre hpost (fun _ _ _ _ hstarts => by cases hstarts)
    fun a s t hs hp ha => ?_
  obtain ⟨store', hrespond, rfl⟩ := Option.map_eq_some_iff.mp ha.1
  have hsame := hc a _ _ hrespond
  subst hsame
  exact ⟨own_aside hs rfl rfl rfl fun h _ => h, h a s hs hp hrespond ha.2⟩

end Questions

section Locks

/-- What holds of the runtime and the store whenever the operation lock is free. -/
def Agreed (aims : Aims) (r : CoreRuntime) (store : ProfileStore) : Prop :=
  aims.agreement → Agrees r store

/-- A section that leaves the runtime and the store alone. -/
theorem own_of_kept {s t : CoreBackend ι} (hs : Sound aims s)
    (hothers : ∀ j, j ≠ i → t.mine j = s.mine j) (hruntime : t.runtime = s.runtime)
    (hstore : t.store = s.store) (hfinal : t.final = true → s.final = true ∨
      (s.mine i).switching = true) (hdown : s.shutDown = true → t.shutDown = true)
    (hagree : aims.agreement → t.operation = none → Agrees s.runtime s.store)
    (hfinality : aims.finality → t.final = true → Down t)
    (hquit : aims.quit → t.quit = true → t.shutDown = true ∧ ∀ j, t.past j = false)
    (hwarm : t.warmRevision = s.warmRevision)
    (hprepared : t.preparer = s.preparer ∧ t.prepared = s.prepared) :
    (contract aims i).Own s t := by
  refine ⟨⟨hothers, .inr ⟨hruntime, hstore⟩, fun _ => .inl (by rw [hruntime]), hfinal, hdown,
    .inr (by rw [hwarm]; exact fun _ h => h), .inr hprepared, fun _ => hstore ▸ .refl _⟩, ?_⟩
  refine ⟨fun ha ht => ?_, fun ha => ?_, hfinality, hquit, fun ha => ?_⟩
  · rw [hruntime, hstore]
    exact hagree ha ht
  · rw [hruntime]
    exact hs.coherence ha
  · exact (hs.warmth ha).congr hstore (by rw [hruntime]) (by rw [hruntime]) hwarm hprepared.2

/-- The operation lock is taken, and runtime and store agree. -/
theorem takeOperation_rule :
    Triple (contract aims i) (Out i m) (takeOperation i)
      fun _ => At i { m with holding := true } (Agreed aims) := by
  refine Triple.await stable_out (fun _ => stable_at rfl) fun s hs hp he _ => ?_
  have hfree : s.operation = none := by simpa using he
  refine ⟨trivial, own_of_kept hs (fun j hj => ?_) rfl rfl .inl (fun h => h)
    (fun _ hnone => by cases hnone) (fun ha ht => ?_) hs.quit rfl ⟨rfl, rfl⟩, ?_,
    fun ha => hs.agreement ha hfree⟩
  · have hij : i ≠ j := Ne.symm hj
    simp [CoreBackend.mine, hfree, hij]
  · have hd := hs.finality ha ht
    exact ⟨hd.live, hd.reconnect, hd.bound⟩
  · rw [← show s.mine i = m from hp]
    simp [CoreBackend.mine]

/-- Giving the operation lock back, and what is known of the state from then on. -/
theorem giveOperation_rule (down : Prop) (hm : m.holding = true) {place : Place}
    (hagree : ∀ r store, p r store → Agreed aims r store)
    (hshows : ∀ s : CoreBackend ι, Sound aims s → p s.runtime s.store → Shows aims place s)
    (hdown : ∀ r store, p r store → down → r.live = false) :
    Triple (contract aims i) (At i m p) (giveOperation place) fun _ s =>
      Out i { m with holding := false } s ∧
        (m.switching = true → down → s.runtime.live = false) := by
  have hpost : ∀ _ : Unit, (contract aims i).Stable fun s =>
      Out i { m with holding := false } s ∧
        (m.switching = true → down → s.runtime.live = false) := by
    rintro - s t ht ⟨hout, hlive⟩
    refine ⟨stable_out s t ht hout, fun hw hd => ?_⟩
    by_contra hup
    have hup := ht.1.live (by rw [hout]; exact hw) (by simpa using hup)
    rw [hlive hw hd] at hup
    cases hup
  refine Triple.atomic (stable_at hm) hpost fun s hs hp _ => ?_
  have holding := holding_iff.mp (hp.1 ▸ hm)
  refine ⟨hshows s hs hp.2, own_of_kept hs (fun j hj => ?_) rfl rfl .inl (fun h => h)
    (fun ha _ => hagree _ _ hp.2 ha) (fun ha ht => ?_) hs.quit rfl ⟨rfl, rfl⟩, ?_,
    fun _ hd => hdown _ _ hp.2 hd⟩
  · have hij : i ≠ j := Ne.symm hj
    simp [CoreBackend.mine, holding, hij]
  · have hd := hs.finality ha ht
    exact ⟨hd.live, hd.reconnect, hd.bound⟩
  · rw [Out, ← hp.1]
    simp [CoreBackend.mine]

/-- What an operation with the operation lock leaves behind. -/
theorem locked_rule {task : Op ι α} (hm : m.holding = false)
    (h : Triple (contract aims i) (At i { m with holding := true } (Agreed aims)) task
      fun _ => At i { m with holding := true } (Agreed aims)) :
    Triple (contract aims i) (Out i m) (locked i task) fun _ => Out i m := by
  refine takeOperation_rule.bind fun _ => h.bind fun result => ?_
  have hgive : Triple (contract aims i) (At i { m with holding := true } (Agreed aims))
      (giveOperation .plain) fun _ => Out i m := by
    refine Triple.weaken (giveOperation_rule False rfl (fun _ _ hp => hp) (fun _ _ _ => trivial)
      fun _ _ _ hd => hd.elim) (fun _ _ hp => hp) fun _ s _ hp => ?_
    have hout := hp.1
    cases m
    cases hm
    exact hout
  exact hgive.bind fun _ => Triple.done stable_out fun _ _ hp => hp

/-- `generation_change` is taken when it is free. -/
theorem takeGenerationChange_rule :
    Triple (contract aims i) (Out i m) (takeGenerationChange i)
      fun _ => Out i { m with switching := true } := by
  refine Triple.await stable_out (fun _ => stable_out) fun s hs hp he _ => ?_
  have hfree : s.generationChange = none := by simpa using he
  refine ⟨trivial, own_of_kept hs (fun j hj => ?_) rfl rfl .inl (fun h => h) hs.agreement
    (fun ha ht => ?_) hs.quit rfl ⟨rfl, rfl⟩, ?_⟩
  · have hij : i ≠ j := Ne.symm hj
    simp [CoreBackend.mine, hfree, hij]
  · have hd := hs.finality ha ht
    exact ⟨hd.live, hd.reconnect, hd.bound⟩
  · rw [Out, ← show s.mine i = m from hp]
    simp [CoreBackend.mine]

/-- `generation_change` is taken, or the request goes on without it. -/
theorem tryGenerationChange_rule :
    Triple (contract aims i) (Out i m) (tryGenerationChange i)
      fun taken => Out i { m with switching := m.switching || taken } := by
  refine Triple.atomic stable_out (fun _ => stable_out) fun s hs hp _ => ?_
  have hmine : s.mine i = m := hp
  by_cases hfree : s.generationChange.isNone = true
  · have hnone : s.generationChange = none := by simpa using hfree
    simp only [hfree, if_true]
    refine ⟨trivial, own_of_kept hs (fun j hj => ?_) rfl rfl .inl (fun h => h) hs.agreement
      (fun ha ht => ?_) hs.quit rfl ⟨rfl, rfl⟩, ?_⟩
    · have hij : i ≠ j := Ne.symm hj
      simp [CoreBackend.mine, hnone, hij]
    · have hd := hs.finality ha ht
      exact ⟨hd.live, hd.reconnect, hd.bound⟩
    · rw [Out, ← hmine]
      simp [CoreBackend.mine]
  · simp only [hfree, if_false, Bool.false_eq_true]
    refine ⟨trivial, own_aside hs rfl rfl rfl fun h _ => h, ?_⟩
    rw [Out, hmine]
    simp

/-- What is recorded about a request may go down at any time. -/
theorem own_of_mark {s : CoreBackend ι} (hs : Sound aims s) (bound past : Bool)
    (hbound : aims.finality → bound = true → s.bound i = true ∨ s.final = false)
    (hpast : aims.quit → past = true → s.past i = true ∨ s.quit = false) :
    (contract aims i).Own s (s.mark i bound past) := by
  refine own_of_kept hs (fun j hj => ?_) rfl rfl .inl (fun h => h) hs.agreement
    (fun ha ht => ?_) (fun ha ht => ?_) rfl ⟨rfl, rfl⟩
  · simp only [CoreBackend.mine, CoreBackend.mark, Function.update_of_ne hj]
    rfl
  · have hd := hs.finality ha ht
    refine ⟨hd.live, hd.reconnect, fun j => ?_⟩
    by_cases hj : j = i
    · subst hj
      by_contra hb
      have hb : bound = true := by simpa [CoreBackend.mark] using hb
      rcases hbound ha hb with hb | hf
      · rw [hd.bound j] at hb
        cases hb
      · rw [show s.final = true from ht] at hf
        cases hf
    · simpa [CoreBackend.mark, hj] using hd.bound j
  · obtain ⟨hdown, hall⟩ := hs.quit ha ht
    refine ⟨hdown, fun j => ?_⟩
    by_cases hj : j = i
    · subst hj
      by_contra hb
      have hb : past = true := by simpa [CoreBackend.mark] using hb
      rcases hpast ha hb with hb | hq
      · rw [hall j] at hb
        cases hb
      · rw [show s.quit = true from ht] at hq
        cases hq
    · simpa [CoreBackend.mark, hj] using hall j

/-- Giving `generation_change` back; whoever does makes no connection any more. -/
theorem giveGenerationChange_rule (hm : m.switching = true) :
    Triple (contract aims i) (Out i m) (giveGenerationChange i)
      fun _ => Out i { m with switching := false, bound := false, past := false } := by
  refine Triple.atomic stable_out (fun _ => stable_out) fun s hs hp _ => ?_
  have hmine : s.mine i = m := hp
  have hswitching := switching_iff.mp (hmine ▸ hm)
  obtain ⟨hguar, hinv⟩ := own_of_mark (i := i) hs false false (fun _ h => by cases h) (fun _ h => by cases h)
  refine ⟨trivial, own_of_kept hs (fun j hj => ?_) rfl rfl .inl (fun h => h) hs.agreement
    (fun ha ht => ?_) hinv.quit rfl ⟨rfl, rfl⟩, ?_⟩
  · have hothers := hguar.others j hj
    have hij : i ≠ j := Ne.symm hj
    simp only [CoreBackend.mine, Mine.mk.injEq] at hothers ⊢
    simp [hothers, hswitching, hij]
  · have hd := hinv.finality ha ht
    exact ⟨hd.live, hd.reconnect, hd.bound⟩
  · rw [Out, ← hmine]
    simp only [CoreBackend.mine, CoreBackend.mark, Function.update_self]
    rfl

/-- Whoever finds `shutDown` clear is past its last look. -/
theorem testShutDown_rule :
    Triple (contract aims i) (Out i m) (testShutDown i)
      fun down => Out i { m with past := m.past || !down } := by
  refine Triple.atomic stable_out (fun _ => stable_out) fun s hs hp _ => ?_
  have hmine : s.mine i = m := hp
  cases hdown : s.shutDown with
  | true =>
    rw [if_pos rfl]
    refine ⟨trivial, own_aside hs rfl rfl rfl fun h _ => h, ?_⟩
    rw [Out, hmine]
    simp
  | false =>
    rw [if_neg (by simp)]
    refine ⟨trivial, own_of_mark hs _ _ (fun _ h => .inl h) (fun ha _ => .inr ?_), ?_⟩
    · by_contra hquit
      have hq := (hs.quit ha (by simpa using hquit)).1
      rw [hdown] at hq
      cases hq
    · rw [Out, ← hmine]
      simp [CoreBackend.mine, CoreBackend.mark]

/-- Whoever takes a pending reconnect is bound to bring a connection up. -/
theorem takeAutoReconnect_rule :
    Triple (contract aims i) (Out i m) (takeAutoReconnect i)
      fun taken => Out i { m with bound := taken.isSome } := by
  refine Triple.atomic stable_out (fun _ => stable_out) fun s hs hp _ => ?_
  have hmine : s.mine i = m := hp
  have hfinal : aims.finality → s.autoReconnect.isSome = true → s.final = false := by
    intro ha hsome
    by_contra hfinal
    rw [(hs.finality ha (by simpa using hfinal)).reconnect] at hsome
    cases hsome
  obtain ⟨hguar, hinv⟩ := own_of_mark (i := i) hs s.autoReconnect.isSome (s.past i)
    (fun ha h => .inr (hfinal ha h)) (fun _ h => .inl h)
  refine ⟨trivial, own_of_kept hs hguar.others rfl rfl .inl (fun h => h) hs.agreement
    (fun ha ht => ?_) hinv.quit rfl ⟨rfl, rfl⟩, ?_⟩
  · have hd := hinv.finality ha ht
    exact ⟨hd.live, rfl, hd.bound⟩
  · rw [Out, ← hmine]
    simp [CoreBackend.mine, CoreBackend.mark]

/-- Whoever is to move a connection finds it up. -/
theorem decideToMove_rule {available : Bool} {condition : CoreRuntime → Bool} :
    Triple (contract aims i) (Out i m) (decideToMove i available condition)
      fun moves => Out i { m with bound := m.bound || moves } := by
  refine Triple.atomic stable_out (fun _ => stable_out) fun s hs hp _ => ?_
  have hmine : s.mine i = m := hp
  dsimp only
  split
  · rename_i hmoves
    rw [hmoves]
    refine ⟨trivial, own_of_mark hs _ _ (fun ha _ => .inr ?_) (fun _ h => .inl h), ?_⟩
    · by_contra hfinal
      have hd := hs.finality ha (by simpa using hfinal)
      simp only [Bool.and_eq_true, beq_iff_eq] at hmoves
      have hlive := hd.live
      rw [CoreRuntime.live, hmoves.1.1.1] at hlive
      cases hlive
    · rw [Out, ← hmine]
      simp [CoreBackend.mine, CoreBackend.mark]
  · rename_i hmoves
    refine ⟨trivial, own_aside hs rfl rfl rfl fun h _ => h, ?_⟩
    rw [Out, hmine, Bool.eq_false_iff.mpr hmoves]
    simp

/-- A Disconnect returns, and gives `generation_change` back. -/
theorem answered_rule (hm : m.switching = true) {ok : Bool} :
    Triple (contract aims i)
      (fun s => Out i m s ∧ (ok = true → s.runtime.live = false))
      (updateAt (.answered ok) fun s =>
        { s with
          generationChange := none
          final := if ok then true else s.final })
      fun _ => Out i { m with switching := false } := by
  have hpre : (contract aims i).Stable fun s => Out i m s ∧ (ok = true → s.runtime.live = false) := by
    rintro s t ht ⟨hout, hlive⟩
    refine ⟨stable_out s t ht hout, fun hok => ?_⟩
    by_contra hup
    have hup := ht.1.live (by rw [hout]; exact hm) (by simpa using hup)
    rw [hlive hok] at hup
    cases hup
  refine Triple.atomic hpre (fun _ => stable_out) fun s hs hp hg => ?_
  have hmine : s.mine i = m := hp.1
  have hswitching := switching_iff.mp (hmine ▸ hm)
  refine ⟨trivial, own_of_kept hs (fun j hj => ?_) rfl rfl (fun _ => .inr (hmine ▸ hm))
    (fun h => h) hs.agreement (fun ha ht => ?_) hs.quit rfl ⟨rfl, rfl⟩, ?_⟩
  · have hij : i ≠ j := Ne.symm hj
    simp [CoreBackend.mine, hswitching, hij]
  · cases ok with
    | true =>
      have hleft := hg.leavesNoReconnect ha
      exact ⟨hp.2 rfl, hleft.1, hleft.2⟩
    | false =>
      have hd := hs.finality ha ht
      exact ⟨hd.live, hd.reconnect, hd.bound⟩
  · rw [Out, ← hmine]
    simp [CoreBackend.mine]

/-- From now on the daemon is shutting down. -/
theorem setShutDown_rule :
    Triple (contract aims i) (Out i m) (update fun s => { s with shutDown := true })
      fun _ s => Out i m s ∧ s.shutDown = true := by
  refine Triple.atomic stable_out (fun _ s t ht hp => ⟨stable_out s t ht hp.1, ht.1.shutDown hp.2⟩)
    fun s hs hp _ => ?_
  refine ⟨trivial, own_of_kept hs (fun _ _ => rfl) rfl rfl .inl (fun _ => rfl) hs.agreement
    (fun ha ht => ?_) (fun ha ht => ⟨rfl, (hs.quit ha ht).2⟩) rfl ⟨rfl, rfl⟩, hp, rfl⟩
  have hd := hs.finality ha ht
  exact ⟨hd.live, hd.reconnect, hd.bound⟩

/-- `shutdown_cores` returns. -/
theorem shutDownReturns_rule :
    Triple (contract aims i) (fun s => Out i m s ∧ s.shutDown = true)
      (updateAt .shutDown fun s => { s with quit := true }) fun _ => Out i m := by
  refine Triple.atomic (fun s t ht hp => ⟨stable_out s t ht hp.1, ht.1.shutDown hp.2⟩)
    (fun _ => stable_out) fun s hs hp hg => ?_
  refine ⟨trivial, own_of_kept hs (fun _ _ => rfl) rfl rfl .inl (fun h => h) hs.agreement
    (fun ha ht => ?_) (fun ha _ => ⟨hp.2, hg.returnsLast ha⟩) rfl ⟨rfl, rfl⟩, hp.1⟩
  have hd := hs.finality ha ht
  exact ⟨hd.live, hd.reconnect, hd.bound⟩

end Locks

end MultiCore.Backend
