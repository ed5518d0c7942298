import MultiCore.Host.RuntimeHost

/-!
# The processes behind the host

What the host's calls do to the core processes: a call does what it reports, a
failed one changes nothing, dropping a controller ends its cores, and any core
may crash before or after a call. The calls are recorded, so that the flags of
the host can be read off the record: an engine is marked running when its newest
start was not followed by a stop and did not fail.
-/

namespace MultiCore.Host

open Faulty

/-- One core process. -/
structure Process where
  pid : Nat
  controller : Controller
  engine : Engine
  deriving DecidableEq, Repr

/-- A call of the host as its environment saw it. -/
inductive Call where
  | created (controller : Controller)
  | started (controller : Controller) (engine : Engine) (ok : Bool)
  | stopped (controller : Controller) (engine : Engine) (ok : Bool)
  deriving DecidableEq, Repr

/-- A start or stop of this engine by this controller. -/
def Call.About (controller : Controller) (engine : Engine) : Call → Prop
  | created c => c = controller
  | started c e _ => c = controller ∧ e = engine
  | stopped c e _ => c = controller ∧ e = engine

/-- The processes that run, with a record of what happened, newest first. -/
structure World where
  processes : List Process
  spawned : Nat
  calls : List Call
  crashed : List Engine

/-- Some cores end by themselves. -/
structure Crash (w u : World) : Prop where
  gone : u.processes ⊆ w.processes
  spawned : u.spawned = w.spawned
  calls : u.calls = w.calls
  crashed : ∃ lost, u.crashed = lost ++ w.crashed ∧
    ∀ engine, engine ∈ lost ↔ ∃ p ∈ w.processes, p ∉ u.processes ∧ p.engine = engine

/-- A core of this engine under this controller. -/
def World.Runs (w : World) (controller : Controller) (engine : Engine) : Prop :=
  ∃ p ∈ w.processes, p.controller = controller ∧ p.engine = engine

/-- What a call does, crashes apart. -/
inductive Responds : (q : Ask) → World → Answer q → World → Prop
  | notCreated (w : World) (generation : Nat) : Responds (.create generation) w none w
  | created (w : World) (c : Controller) :
      Responds (.create c.generation) w (some c) { w with calls := .created c :: w.calls }
  | confirmed (w : World) (c : Controller) (e : Engine) (runs : w.Runs c e) :
      Responds (.start c e) w (.ok ()) { w with calls := .started c e true :: w.calls }
  | started (w : World) (c : Controller) (e : Engine) (stopped : ¬w.Runs c e) :
      Responds (.start c e) w (.ok ())
        { w with
          processes := ⟨w.spawned, c, e⟩ :: w.processes
          spawned := w.spawned + 1
          calls := .started c e true :: w.calls }
  | notStarted (w : World) (c : Controller) (e : Engine) (code : BrokerErrorCode) :
      Responds (.start c e) w (.error code) { w with calls := .started c e false :: w.calls }
  | stopped (w : World) (c : Controller) (e : Engine) :
      Responds (.stop c e) w true
        { w with
          processes := w.processes.filter fun p => ¬(p.controller = c ∧ p.engine = e)
          calls := .stopped c e true :: w.calls }
  | notStopped (w : World) (c : Controller) (e : Engine) :
      Responds (.stop c e) w false { w with calls := .stopped c e false :: w.calls }
  /-- An inspection may fail and say anything. -/
  | inspected (w : World) (c : Controller) (d : ProcessDiagnostics) :
      Responds (.diagnostics c) w d w
  | dropped (w : World) (c : Controller) :
      Responds (.drop c) w () { w with processes := w.processes.filter fun p => p.controller ≠ c }

/-- The environment of the host: calls among crashes. -/
def environment : Environment Ask Answer World := fun q w answer u =>
  ∃ v x, Crash w v ∧ Responds q v answer x ∧ Crash x u

/-- Whether the record leaves an engine of a controller marked running. -/
def marked (controller : Controller) (engine : Engine) : List Call → Bool
  | [] => false
  | .created c :: calls => if c = controller then false else marked controller engine calls
  | .started c e ok :: calls =>
    if c = controller ∧ e = engine then ok else marked controller engine calls
  | .stopped c e ok :: calls =>
    if c = controller ∧ e = engine ∧ ok = true then false else marked controller engine calls

/-- Mihomo's starts were delegated only while Xray was marked running. -/
def InOrder : List Call → Prop
  | [] => True
  | call :: calls =>
    InOrder calls ∧
      ∀ controller ok, call = .started controller .mihomo ok → marked controller .xray calls = true

/-- The newest call about Xray is a start that failed while Mihomo was marked running. -/
def RestartFailed (controller : Controller) (calls : List Call) : Prop :=
  ∃ newer older, calls = newer ++ .started controller .xray false :: older ∧
    (∀ call ∈ newer, ¬call.About controller .xray) ∧ marked controller .mihomo older = true

/-- All processes are cores of one generation. -/
def World.OneGeneration (w : World) : Prop :=
  ∀ p ∈ w.processes, ∀ q ∈ w.processes, p.controller.generation = q.controller.generation

/-- What holds after every call of the host. -/
structure World.Orderly (w : World) : Prop where
  calls : InOrder w.calls
  generation : w.OneGeneration

/-- The controller in use, its flags and its processes fit together. -/
structure Active.Sound (a : Active) (w : World) : Prop where
  orderly : InOrder w.calls
  generation : a.controller.generation = a.generation
  processes : ∀ p ∈ w.processes, p.controller = a.controller
  xray : marked a.controller .xray w.calls = a.xray
  mihomo : marked a.controller .mihomo w.calls = a.mihomo
  order : a.mihomo = true → a.xray = true ∨ RestartFailed a.controller w.calls

/-- A host between two commands: without a controller nothing runs, and one in use has an
engine marked running. -/
structure RuntimeHost.Sound (h : RuntimeHost) (w : World) : Prop where
  orderly : InOrder w.calls
  idle : h.active = none → w.processes = []
  active : ∀ a, h.active = some a → a.Sound w ∧ (a.xray = true ∨ a.mihomo = true)

theorem Active.Sound.world {a : Active} {w : World} (h : a.Sound w) : w.Orderly where
  calls := h.orderly
  generation := by
    intro p hp q hq
    rw [h.processes p hp, h.processes q hq]

theorem RuntimeHost.Sound.world {h : RuntimeHost} {w : World} (hs : h.Sound w) : w.Orderly := by
  cases ha : h.active with
  | none =>
    refine ⟨hs.orderly, ?_⟩
    intro p hp
    rw [hs.idle ha] at hp
    simp at hp
  | some a => exact (hs.active a ha).1.world

theorem Crash.refl (w : World) : Crash w w where
  gone := List.Subset.refl _
  spawned := rfl
  calls := rfl
  crashed := by
    refine ⟨[], rfl, fun engine => ?_⟩
    constructor
    · exact fun hlost => nomatch hlost
    · rintro ⟨p, hp, hgone, -⟩
      exact absurd hp hgone

theorem Active.Sound.crash {a : Active} {w u : World} (h : a.Sound w) (hc : Crash w u) :
    a.Sound u where
  orderly := by rw [hc.calls]; exact h.orderly
  generation := h.generation
  processes := fun p hp => h.processes p (hc.gone hp)
  xray := by rw [hc.calls]; exact h.xray
  mihomo := by rw [hc.calls]; exact h.mihomo
  order := by rw [hc.calls]; exact h.order

theorem RuntimeHost.Sound.crash {h : RuntimeHost} {w u : World} (hs : h.Sound w)
    (hc : Crash w u) : h.Sound u where
  orderly := by rw [hc.calls]; exact hs.orderly
  idle := fun ha => List.subset_nil.1 (hs.idle ha ▸ hc.gone)
  active := fun a ha => ⟨(hs.active a ha).1.crash hc, (hs.active a ha).2⟩

/-- A call about something else keeps a failed restart the newest call about Xray. -/
private theorem RestartFailed.cons {c : Controller} {calls : List Call} {call : Call}
    (h : RestartFailed c calls) (hcall : ¬call.About c .xray) : RestartFailed c (call :: calls) := by
  obtain ⟨newer, older, rfl, hnewer, hmarked⟩ := h
  refine ⟨call :: newer, older, rfl, ?_, hmarked⟩
  intro other hother
  rcases List.mem_cons.1 hother with rfl | hother
  · exact hcall
  · exact hnewer other hother

/-- A start sets the engine's mark to its outcome. -/
theorem Active.Sound.recordStart {a : Active} {w u : World} (h : a.Sound w) (engine : Engine)
    (ok : Bool) (hcalls : u.calls = .started a.controller engine ok :: w.calls)
    (hprocesses : ∀ p ∈ u.processes, p.controller = a.controller)
    (horder : engine = .mihomo → a.xray = true) : (a.setRunning engine ok).Sound u := by
  cases engine with
  | xray =>
    constructor
    · rw [hcalls]
      exact ⟨h.orderly, fun _ _ hc => by simp at hc⟩
    · exact h.generation
    · exact hprocesses
    · rw [hcalls]
      simp [marked, Active.setRunning]
    · rw [hcalls]
      simpa [marked, Active.setRunning] using h.mihomo
    · intro hmihomo
      cases ok with
      | true => exact Or.inl rfl
      | false =>
        have hbefore : marked a.controller .mihomo w.calls = true := h.mihomo.trans hmihomo
        exact Or.inr ⟨[], w.calls, hcalls, fun _ hc => by simp at hc, hbefore⟩
  | mihomo =>
    have hxray := horder rfl
    constructor
    · rw [hcalls]
      refine ⟨h.orderly, ?_⟩
      intro c ok' hc
      obtain ⟨rfl, -⟩ : a.controller = c ∧ ok = ok' := by simpa using hc
      exact h.xray.trans hxray
    · exact h.generation
    · exact hprocesses
    · rw [hcalls]
      simpa [marked, Active.setRunning] using h.xray
    · rw [hcalls]
      simp [marked, Active.setRunning]
    · exact fun _ => Or.inl hxray

/-- A stop clears the engine's mark, if it succeeds. -/
theorem Active.Sound.recordStop {a : Active} {w u : World} (h : a.Sound w) (engine : Engine)
    (ok : Bool) (hcalls : u.calls = .stopped a.controller engine ok :: w.calls)
    (hprocesses : u.processes ⊆ w.processes)
    (horder : engine = .xray → a.mihomo = false) :
    (if ok then a.setRunning engine false else a).Sound u := by
  have hgeneration : (if ok then a.setRunning engine false else a).controller.generation =
      (if ok then a.setRunning engine false else a).generation := by
    cases ok <;> cases engine <;> exact h.generation
  have hcontroller : (if ok then a.setRunning engine false else a).controller = a.controller := by
    cases ok <;> cases engine <;> rfl
  constructor
  · rw [hcalls]
    exact ⟨h.orderly, fun _ _ hc => by simp at hc⟩
  · exact hgeneration
  · rw [hcontroller]
    exact fun p hp => h.processes p (hprocesses hp)
  · rw [hcontroller, hcalls]
    cases ok <;> cases engine <;> simp [marked, Active.setRunning, h.xray]
  · rw [hcontroller, hcalls]
    cases ok <;> cases engine <;> simp [marked, Active.setRunning, h.mihomo]
  · rw [hcontroller, hcalls]
    intro hmihomo
    cases engine with
    | xray =>
      have hoff := horder rfl
      cases ok <;> simp [Active.setRunning, hoff] at hmihomo
    | mihomo =>
      cases ok with
      | true => simp [Active.setRunning] at hmihomo
      | false =>
        rcases h.order hmihomo with hxray | hfailed
        · exact Or.inl hxray
        · exact Or.inr (hfailed.cons fun habout => by simp [Call.About] at habout)

/-- Crashes are only ever added to the record. -/
def World.Later (w u : World) : Prop := ∃ lost, u.crashed = lost ++ w.crashed

/-- A core of this engine runs, or one crashed since the record read `base`. -/
def World.Present (base : List Engine) (engine : Engine) (w : World) : Prop :=
  ∃ lost, w.crashed = lost ++ base ∧ ((∃ p ∈ w.processes, p.engine = engine) ∨ engine ∈ lost)

theorem World.Later.trans {w u v : World} (h : w.Later u) (k : u.Later v) : w.Later v := by
  obtain ⟨lost, hlost⟩ := h
  obtain ⟨more, hmore⟩ := k
  exact ⟨more ++ lost, by rw [hmore, hlost, List.append_assoc]⟩

theorem Crash.later {w u : World} (h : Crash w u) : w.Later u := by
  obtain ⟨lost, hlost, -⟩ := h.crashed
  exact ⟨lost, hlost⟩

/-- A core that is gone after a crash is in the record. -/
theorem World.Present.crash {base : List Engine} {engine : Engine} {w u : World}
    (h : w.Present base engine) (hc : Crash w u) : u.Present base engine := by
  obtain ⟨before, hbefore, hpresent⟩ := h
  obtain ⟨lost, hlost, hgone⟩ := hc.crashed
  refine ⟨lost ++ before, by rw [hlost, hbefore, List.append_assoc], ?_⟩
  rcases hpresent with ⟨p, hp, hengine⟩ | hcrashed
  · by_cases hstill : p ∈ u.processes
    · exact Or.inl ⟨p, hstill, hengine⟩
    · have hlost : engine ∈ lost := (hgone engine).2 ⟨p, hp, hstill, hengine⟩
      exact Or.inr (List.mem_append_left _ hlost)
  · exact Or.inr (List.mem_append_right _ hcrashed)

/-- Longer memory of crashes. -/
theorem World.Present.since {engine : Engine} {w u : World} (hlater : w.Later u) {v : World}
    (h : v.Present u.crashed engine) : v.Present w.crashed engine := by
  obtain ⟨lost, hlost, hpresent⟩ := h
  obtain ⟨before, hbefore⟩ := hlater
  refine ⟨lost ++ before, by rw [hlost, hbefore, List.append_assoc], ?_⟩
  rcases hpresent with hruns | hcrashed
  · exact Or.inl hruns
  · exact Or.inr (List.mem_append_left _ hcrashed)

/-- What a start that succeeded did, crashes included. -/
structure StartedCore (c : Controller) (engine : Engine) (w u : World) : Prop where
  calls : u.calls = .started c engine true :: w.calls
  added : ∀ p ∈ u.processes, p ∈ w.processes ∨ p.controller = c ∧ p.engine = engine
  present : u.Present w.crashed engine
  kept : ∀ base other, w.Present base other → u.Present base other

/-- What a call that started nothing did, crashes included. -/
structure Quieted (call : Option Call) (w u : World) : Prop where
  calls : u.calls = call.toList ++ w.calls
  fewer : u.processes ⊆ w.processes
  later : w.Later u

theorem start_ok {c : Controller} {engine : Engine} {w u : World}
    (h : environment (.start c engine) w (.ok ()) u) : StartedCore c engine w u := by
  obtain ⟨v, x, hbefore, hcall, hafter⟩ := h
  /- Between the call and the crashes after it the core runs. -/
  have hcore : x.calls = .started c engine true :: v.calls ∧ x.crashed = v.crashed ∧
      (∃ p ∈ x.processes, p.engine = engine) ∧ v.processes ⊆ x.processes ∧
      ∀ p ∈ x.processes, p ∈ v.processes ∨ p.controller = c ∧ p.engine = engine := by
    cases hcall with
    | confirmed _ _ _ runs =>
      obtain ⟨p, hp, -, hengine⟩ := runs
      exact ⟨rfl, rfl, ⟨p, hp, hengine⟩, List.Subset.refl _, fun q hq => Or.inl hq⟩
    | started _ _ _ stopped =>
      refine ⟨rfl, rfl, ⟨_, List.mem_cons_self, rfl⟩, List.subset_cons_self _ _, ?_⟩
      intro p hp
      rcases List.mem_cons.1 hp with rfl | hp
      · exact Or.inr ⟨rfl, rfl⟩
      · exact Or.inl hp
  obtain ⟨hcalls, hcrashed, hruns, hsub, hadded⟩ := hcore
  constructor
  · rw [hafter.calls, hcalls, hbefore.calls]
  · intro p hp
    rcases hadded p (hafter.gone hp) with hold | hnew
    · exact Or.inl (hbefore.gone hold)
    · exact Or.inr hnew
  · obtain ⟨lost, hlost⟩ := hbefore.later
    have hpresent : x.Present w.crashed engine := ⟨lost, by rw [hcrashed, hlost], Or.inl hruns⟩
    exact hpresent.crash hafter
  · intro base other hother
    obtain ⟨lost, hlost, hstill⟩ := hother.crash hbefore
    refine World.Present.crash ⟨lost, by rw [hcrashed, hlost], ?_⟩ hafter
    rcases hstill with ⟨p, hp, hengine⟩ | hgone
    · exact Or.inl ⟨p, hsub hp, hengine⟩
    · exact Or.inr hgone

/-- A call that leaves no more processes than before is quiet, crashes included. -/
private theorem quieted {call : Option Call} {w v x u : World} (hbefore : Crash w v)
    (hafter : Crash x u) (hcalls : x.calls = call.toList ++ v.calls)
    (hcrashed : x.crashed = v.crashed) (hfewer : x.processes ⊆ v.processes) :
    Quieted call w u where
  calls := by rw [hafter.calls, hcalls, hbefore.calls]
  fewer := fun p hp => hbefore.gone (hfewer (hafter.gone hp))
  later := by
    obtain ⟨lost, hlost⟩ := hbefore.later
    have hx : w.Later x := ⟨lost, by rw [hcrashed, hlost]⟩
    exact hx.trans hafter.later

theorem start_error {c : Controller} {engine : Engine} {code : BrokerErrorCode} {w u : World}
    (h : environment (.start c engine) w (.error code) u) :
    Quieted (some (.started c engine false)) w u := by
  obtain ⟨v, x, hbefore, hcall, hafter⟩ := h
  cases hcall with
  | notStarted => exact quieted hbefore hafter rfl rfl (List.Subset.refl _)

theorem stop_answer {c : Controller} {engine : Engine} {ok : Bool} {w u : World}
    (h : environment (.stop c engine) w ok u) : Quieted (some (.stopped c engine ok)) w u := by
  obtain ⟨v, x, hbefore, hcall, hafter⟩ := h
  cases hcall with
  | stopped => exact quieted hbefore hafter rfl rfl (List.filter_subset_self _)
  | notStopped => exact quieted hbefore hafter rfl rfl (List.Subset.refl _)

theorem diagnostics_answer {c : Controller} {d : ProcessDiagnostics} {w u : World}
    (h : environment (.diagnostics c) w d u) : Quieted none w u := by
  obtain ⟨v, x, hbefore, hcall, hafter⟩ := h
  cases hcall with
  | inspected => exact quieted hbefore hafter rfl rfl (List.Subset.refl _)

/-- Dropping the controller of all processes ends them all. -/
theorem drop_answer {c : Controller} {w u : World} (h : environment (.drop c) w () u) :
    Quieted none w u ∧ ((∀ p ∈ w.processes, p.controller = c) → u.processes = []) := by
  obtain ⟨v, x, hbefore, hcall, hafter⟩ := h
  cases hcall with
  | dropped =>
    constructor
    · exact quieted hbefore hafter rfl rfl (List.filter_subset_self _)
    · intro hall
      rw [List.eq_nil_iff_forall_not_mem]
      intro p hp
      have hleft := List.mem_filter.1 (hafter.gone hp)
      have hcontroller := hall p (hbefore.gone hleft.1)
      simp [hcontroller] at hleft

/-- A new controller has started nothing. -/
theorem create_answer {generation : Nat} {found : Option Controller} {w u : World}
    (h : environment (.create generation) w found u) :
    Quieted (found.map Call.created) w u ∧
      ∀ c, found = some c → c.generation = generation ∧
        ∀ engine, marked c engine u.calls = false := by
  obtain ⟨v, x, hbefore, hcall, hafter⟩ := h
  cases hcall with
  | notCreated => exact ⟨quieted hbefore hafter rfl rfl (List.Subset.refl _), fun c hc => nomatch hc⟩
  | created _ c =>
    refine ⟨quieted hbefore hafter rfl rfl (List.Subset.refl _), ?_⟩
    intro d hd
    obtain rfl : c = d := Option.some.inj hd
    refine ⟨rfl, fun engine => ?_⟩
    rw [hafter.calls]
    simp [marked]

end MultiCore.Host
