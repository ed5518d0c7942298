import MultiCore.Host.Processes

/-!
# The order of the engines

The host keeps its flags as its calls answered, starts Mihomo only while Xray is
marked running, and never runs cores of two generations. Each of its functions
has one lemma that says what it leaves; a run of commands follows from them.
Xray's flag can be clear under Mihomo's only because Xray failed to start again
while Mihomo was running.
-/

namespace MultiCore.Host

open Faulty

/-- The program keeps the processes orderly after every call and ends with `post`. -/
abbrev Meets {α : Type} (program : HostProgram α) (post : α → World → Prop) (w : World) : Prop :=
  wp environment World.Orderly program post w

namespace Meets

variable {α β : Type} {w : World}

theorem mono {program : HostProgram α} {post post' : α → World → Prop}
    (h : Meets program post w) (hpost : ∀ a u, post a u → post' a u) : Meets program post' w :=
  wp_mono h hpost

theorem bind {program : HostProgram α} {rest : α → HostProgram β} {post : β → World → Prop}
    (h : Meets program (fun a => Meets (rest a) post) w) : Meets (program >>= rest) post w :=
  (wp_bind program rest post w).2 h

theorem ask {q : Ask} {post : Answer q → World → Prop}
    (h : ∀ answer u, environment q w answer u → u.Orderly ∧ post answer u) :
    Meets (Program.question q) post w := h

end Meets

theorem Active.Sound.quiet {a : Active} {w u : World} (h : a.Sound w) (hq : Quieted none w u) :
    a.Sound u where
  orderly := by rw [hq.calls]; exact h.orderly
  generation := h.generation
  processes := fun p hp => h.processes p (hq.fewer hp)
  xray := by rw [hq.calls]; exact h.xray
  mihomo := by rw [hq.calls]; exact h.mihomo
  order := by rw [hq.calls]; exact h.order

/-- What a start of `engine` under `generation` leaves of a host `h`. -/
structure StartResult (h : RuntimeHost) (generation : Nat) (engine : Engine) (w : World)
    (result : RuntimeHost × ElevationResponse) (u : World) : Prop where
  sound : result.1.Sound u
  later : w.Later u
  /-- A start that succeeded is marked under the generation, and its core runs unless it crashed. -/
  started : result.2 = .started engine →
    (∃ a, result.1.active = some a ∧ a.generation = generation ∧ a.running engine = true) ∧
      u.Present w.crashed engine
  /-- Cores of the generation in use stay, unless they crash. -/
  kept : result.2 = .started engine → (∃ a, h.active = some a ∧ a.generation = generation) →
    ∀ base other, w.Present base other → u.Present base other
  failed : result.2 ≠ .started engine → u.processes ⊆ w.processes

/-- A start that was refused without a call. -/
private theorem StartResult.refused {h : RuntimeHost} {generation : Nat} {engine : Engine}
    {w : World} (hs : h.Sound w) (code : BrokerErrorCode) :
    StartResult h generation engine w (h, .error code) w where
  sound := hs
  later := ⟨[], rfl⟩
  started := fun hr => nomatch hr
  kept := fun hr => nomatch hr
  failed := fun _ => List.Subset.refl _

namespace RuntimeHost

theorem releaseIdle_spec {a : Active} {w : World} (h : a.Sound w) :
    Meets (releaseIdle a) (fun host u => host.Sound u ∧ Quieted none w u ∧
      host.active = if a.xray || a.mihomo then some a else none) w := by
  unfold releaseIdle
  by_cases hrunning : (a.xray || a.mihomo) = true
  · rw [if_pos hrunning]
    refine ⟨⟨h.orderly, (fun hnone => nomatch hnone), ?_⟩, ⟨rfl, List.Subset.refl _, [], rfl⟩, ?_⟩
    · intro b hb
      obtain rfl : a = b := Option.some.inj hb
      exact ⟨h, by simpa using hrunning⟩
    · rw [if_pos hrunning]
  · rw [if_neg hrunning]
    refine Meets.bind (Meets.ask fun answer u hdrop => ?_)
    obtain ⟨hquiet, hnone⟩ := drop_answer hdrop
    have hsound := h.quiet hquiet
    refine ⟨hsound.world, ⟨hsound.orderly, fun _ => hnone h.processes, (fun b hb => nomatch hb)⟩,
      hquiet, ?_⟩
    rw [if_neg hrunning]

/-- The host asks for a core only while the calls so far are in order. -/
theorem delegate_spec {h : RuntimeHost} {a : Active} {w : World} (hs : a.Sound w) (engine : Engine)
    (horder : engine = .mihomo → a.xray = true) :
    Meets (delegate a engine) (StartResult h a.generation engine w) w := by
  unfold delegate
  refine Meets.bind (Meets.ask fun answer u hstart => ?_)
  rcases answer with code | ⟨⟩
  · have hquiet := start_error hstart
    have hsound := hs.recordStart engine false hquiet.calls
      (fun p hp => hs.processes p (hquiet.fewer hp)) horder
    refine ⟨hsound.world, Meets.bind ((releaseIdle_spec hsound).mono ?_)⟩
    rintro host v ⟨hhost, hreleased, -⟩
    exact
      { sound := hhost
        later := hquiet.later.trans hreleased.later
        started := by
          intro hr
          cases hr
        kept := by
          intro hr
          cases hr
        failed := fun _ => List.Subset.trans hreleased.fewer hquiet.fewer }
  · have hcore := start_ok hstart
    have hsound := hs.recordStart engine true hcore.calls (fun p hp => by
      rcases hcore.added p hp with hold | hnew
      · exact hs.processes p hold
      · exact hnew.1) horder
    have hrunning : (a.setRunning engine true).xray = true ∨
        (a.setRunning engine true).mihomo = true := by
      cases engine <;> simp [Active.setRunning]
    have hlater : w.Later u := by
      obtain ⟨lost, hlost, -⟩ := hcore.present
      exact ⟨lost, hlost⟩
    refine ⟨hsound.world, ?_⟩
    constructor
    · refine ⟨hsound.orderly, ?_, ?_⟩
      · intro hnone
        cases hnone
      · intro b hb
        obtain rfl := Option.some.inj hb
        exact ⟨hsound, hrunning⟩
    · exact hlater
    · refine fun _ => ⟨⟨_, rfl, ?_, ?_⟩, hcore.present⟩
      · cases engine <;> rfl
      · cases engine <;> rfl
    · exact fun _ _ => hcore.kept
    · exact fun hr => absurd rfl hr

theorem startIn_spec {h : RuntimeHost} {w : World} (hs : h.Sound w) (generation : Nat)
    (engine : Engine) (hgeneration : ∀ a, h.active = some a → a.generation = generation) :
    Meets (h.startIn generation engine) (StartResult h generation engine w) w := by
  unfold startIn
  cases ha : h.active with
  | some a =>
    have hsound := (hs.active a ha).1
    obtain rfl := hgeneration a ha
    by_cases hrefuse : engine = .mihomo ∧ a.xray = false
    · simp only [if_pos hrefuse]
      exact StartResult.refused hs _
    · simp only [if_neg hrefuse]
      refine delegate_spec hsound engine fun hengine => ?_
      by_contra hxray
      exact hrefuse ⟨hengine, by simpa using hxray⟩
  | none =>
    by_cases hrefuse : engine = .mihomo
    · simp only [if_pos hrefuse]
      exact StartResult.refused hs _
    · simp only [if_neg hrefuse]
      refine Meets.bind (Meets.ask fun found u hcreate => ?_)
      obtain ⟨hquiet, hnew⟩ := create_answer hcreate
      have hempty : u.processes = [] := List.subset_nil.1 (hs.idle ha ▸ hquiet.fewer)
      cases found with
      | none =>
        have hsound : h.Sound u := by
          refine ⟨?_, fun _ => hempty, fun a hsome => ?_⟩
          · rw [hquiet.calls]
            exact hs.orderly
          · rw [ha] at hsome
            exact nomatch hsome
        refine ⟨hsound.world, ?_⟩
        exact
          { sound := hsound
            later := hquiet.later
            started := fun hr => nomatch hr
            kept := fun hr => nomatch hr
            failed := fun _ => hquiet.fewer }
      | some c =>
        obtain ⟨hc, hmarked⟩ := hnew c rfl
        have hsound : Active.Sound ⟨generation, c, false, false⟩ u := by
          refine ⟨?_, hc, ?_, hmarked .xray, hmarked .mihomo, fun hm => nomatch hm⟩
          · rw [hquiet.calls]
            exact ⟨hs.orderly, fun _ _ hcall => by simp at hcall⟩
          · intro p hp
            rw [hempty] at hp
            simp at hp
        have hdelegate := delegate_spec (h := h) hsound engine fun hm => absurd hm hrefuse
        refine ⟨hsound.world, hdelegate.mono ?_⟩
        intro result v hresult
        exact
          { sound := hresult.sound
            later := hquiet.later.trans hresult.later
            started := fun hr =>
              ⟨(hresult.started hr).1, (hresult.started hr).2.since hquiet.later⟩
            kept := fun _ ⟨a, hsome, _⟩ => by
              rw [ha] at hsome
              exact nomatch hsome
            failed := fun hr => List.Subset.trans (hresult.failed hr) hquiet.fewer }

theorem anyCoreAlive_spec {h : RuntimeHost} {w : World} (hs : h.Sound w) :
    Meets h.anyCoreAlive (fun _ u => h.Sound u ∧ Quieted none w u) w := by
  have hnow : h.Sound w ∧ Quieted none w w := ⟨hs, rfl, List.Subset.refl _, [], rfl⟩
  unfold anyCoreAlive
  cases ha : h.active with
  | none => exact hnow
  | some a =>
    dsimp only
    split
    · exact hnow
    · refine Meets.bind (Meets.ask fun d u hd => ?_)
      have hquiet := diagnostics_answer hd
      have hsound : h.Sound u := by
        refine ⟨?_, fun hnone => ?_, ?_⟩
        · rw [hquiet.calls]
          exact hs.orderly
        · rw [ha] at hnone
          exact nomatch hnone
        · exact fun b hb => ⟨(hs.active b hb).1.quiet hquiet, (hs.active b hb).2⟩
      exact ⟨hsound.world, hsound, hquiet⟩

/-- A call that starts nothing leaves the processes of one controller orderly. -/
private theorem orderly_of_stop {c : Controller} {engine : Engine} {ok : Bool} {w u : World}
    (hcalls : InOrder w.calls) (hall : ∀ p ∈ w.processes, p.controller = c)
    (h : environment (.stop c engine) w ok u) :
    InOrder u.calls ∧ (∀ p ∈ u.processes, p.controller = c) ∧ u.Orderly ∧ w.Later u ∧
      u.processes ⊆ w.processes := by
  have hquiet := stop_answer h
  have horder : InOrder u.calls := by
    rw [hquiet.calls]
    exact ⟨hcalls, fun _ _ hcall => by simp at hcall⟩
  have hprocesses : ∀ p ∈ u.processes, p.controller = c := fun p hp => hall p (hquiet.fewer hp)
  refine ⟨horder, hprocesses, ⟨horder, ?_⟩, hquiet.later, hquiet.fewer⟩
  intro p hp q hq
  rw [hprocesses p hp, hprocesses q hq]

theorem discardActive_spec {h : RuntimeHost} {w : World} (hs : h.Sound w) :
    Meets h.discardActive (fun host u => host.active = none ∧ host.Sound u ∧ w.Later u ∧
      u.processes ⊆ w.processes) w := by
  unfold discardActive
  cases ha : h.active with
  | none => exact ⟨ha, hs, ⟨[], rfl⟩, List.Subset.refl _⟩
  | some a =>
    have hsound := (hs.active a ha).1
    refine Meets.bind (Meets.ask fun first u hfirst => ?_)
    obtain ⟨horder, hall, hu, hlater, hfewer⟩ :=
      orderly_of_stop hsound.orderly hsound.processes hfirst
    refine ⟨hu, Meets.bind (Meets.ask fun second v hsecond => ?_)⟩
    obtain ⟨horder', hall', hv, hlater', hfewer'⟩ := orderly_of_stop horder hall hsecond
    refine ⟨hv, Meets.bind (Meets.ask fun _ x hdrop => ?_)⟩
    obtain ⟨hquiet, hnone⟩ := drop_answer hdrop
    have hempty := hnone hall'
    have hsound' : Sound ⟨none⟩ x := by
      refine ⟨?_, fun _ => hempty, (fun b hb => nomatch hb)⟩
      rw [hquiet.calls]
      exact horder'
    refine ⟨hsound'.world, rfl, hsound', (hlater.trans hlater').trans hquiet.later, ?_⟩
    rw [hempty]
    exact List.nil_subset _

theorem start_spec {h : RuntimeHost} {w : World} (hs : h.Sound w) (generation : Nat)
    (engine : Engine) :
    Meets (h.start generation engine) (StartResult h generation engine w) w := by
  unfold start
  by_cases hother : (h.active.any fun a => a.generation != generation) = true
  · rw [if_pos hother]
    have hnot : ¬∃ a, h.active = some a ∧ a.generation = generation := by
      rintro ⟨a, ha, hgeneration⟩
      simp [ha, hgeneration] at hother
    refine Meets.bind ((anyCoreAlive_spec hs).mono ?_)
    rintro alive u ⟨hsound, hquiet⟩
    cases alive with
    | true =>
      exact
        { sound := hsound
          later := hquiet.later
          started := fun hr => nomatch hr
          kept := fun hr => nomatch hr
          failed := fun _ => hquiet.fewer }
    | false =>
      refine Meets.bind ((discardActive_spec hsound).mono ?_)
      rintro host v ⟨hnone, hhost, hlater, hfewer⟩
      refine (startIn_spec hhost generation engine fun a ha => ?_).mono ?_
      · rw [hnone] at ha
        exact nomatch ha
      · intro result x hresult
        have hbefore := hquiet.later.trans hlater
        exact
          { sound := hresult.sound
            later := hbefore.trans hresult.later
            started := fun hr =>
              ⟨(hresult.started hr).1, (hresult.started hr).2.since hbefore⟩
            kept := fun _ hsame => absurd hsame hnot
            failed := fun hr => List.Subset.trans (hresult.failed hr)
              (List.Subset.trans hfewer hquiet.fewer) }
  · rw [if_neg hother]
    refine startIn_spec hs generation engine fun a ha => ?_
    by_contra hne
    exact hother (by simp [ha, hne])

/-- What a stop leaves: an engine that was not marked, or whose stop succeeded, is not marked, and
a host that marks nothing has let everything go. -/
theorem stopOne_spec {h : RuntimeHost} {w : World} (hs : h.Sound w) (engine : Engine)
    (horder : engine = .xray → ∀ a, h.active = some a → a.mihomo = false) :
    Meets (h.stopOne engine) (fun result u => result.1.Sound u ∧ w.Later u ∧
      u.processes ⊆ w.processes ∧
      (result.2 = true → ∀ a, result.1.active = some a →
        a.running engine = false ∧ (engine = .xray → a.mihomo = false)) ) w := by
  unfold stopOne
  cases ha : h.active with
  | none =>
    refine ⟨hs, ⟨[], rfl⟩, List.Subset.refl _, fun _ a hsome => ?_⟩
    rw [ha] at hsome
    exact nomatch hsome
  | some a =>
    have hsound := (hs.active a ha).1
    have hoff : engine = .xray → a.mihomo = false := fun hengine => horder hengine a ha
    dsimp only
    by_cases hrunning : a.running engine = true
    · rw [if_pos hrunning]
      refine Meets.bind (Meets.ask fun ok u hstop => ?_)
      have hquiet := stop_answer hstop
      have hnext := hsound.recordStop engine ok hquiet.calls hquiet.fewer hoff
      cases ok with
      | true =>
        have hnext : (a.setRunning engine false).Sound u := hnext
        refine ⟨hnext.world, Meets.bind ((releaseIdle_spec hnext).mono ?_)⟩
        rintro host v ⟨hhost, hreleased, hactive⟩
        refine ⟨hhost, hquiet.later.trans hreleased.later,
          List.Subset.trans hreleased.fewer hquiet.fewer, fun _ b hb => ?_⟩
        rw [hactive] at hb
        obtain rfl : a.setRunning engine false = b := by
          split at hb
          · exact Option.some.inj hb
          · exact nomatch hb
        cases engine with
        | xray => exact ⟨rfl, hoff⟩
        | mihomo => exact ⟨rfl, fun he => nomatch he⟩
      | false =>
        have hnext : a.Sound u := hnext
        refine ⟨hnext.world, ⟨hnext.orderly, fun hnone => ?_, ?_⟩, hquiet.later, hquiet.fewer,
          fun hr => nomatch hr⟩
        · rw [ha] at hnone
          exact nomatch hnone
        · intro b hb
          obtain rfl : a = b := Option.some.inj (ha.symm.trans hb)
          exact ⟨hnext, (hs.active a ha).2⟩
    · rw [if_neg hrunning]
      refine Meets.bind ((releaseIdle_spec hsound).mono ?_)
      rintro host v ⟨hhost, hreleased, hactive⟩
      refine ⟨hhost, hreleased.later, hreleased.fewer, fun _ b hb => ?_⟩
      rw [hactive] at hb
      obtain rfl : a = b := by
        split at hb
        · exact Option.some.inj hb
        · exact nomatch hb
      exact ⟨by simpa using hrunning, hoff⟩

/-- A stop of Xray that succeeded leaves nothing running; any stop adds nothing. -/
theorem stop_spec {h : RuntimeHost} {w : World} (hs : h.Sound w) (engine : Engine) :
    Meets (h.stop engine) (fun result u => result.1.Sound u ∧ w.Later u ∧
      u.processes ⊆ w.processes ∧
      (engine = .xray → result.2 = true → result.1.active = none)) w := by
  /- A sound host that marks neither engine has no controller. -/
  have hgone : ∀ {host : RuntimeHost} {u : World}, host.Sound u →
      (∀ a, host.active = some a → a.running .xray = false ∧ (Engine.xray = .xray → a.mihomo = false)) →
      host.active = none := by
    intro host u hhost hoff
    cases ha : host.active with
    | none => rfl
    | some a =>
      obtain ⟨hxray, hmihomo⟩ := hoff a ha
      rcases (hhost.active a ha).2 with hx | hm
      · exact absurd hx (by simpa [Active.running] using hxray)
      · exact absurd hm (by simp [hmihomo rfl])
  unfold stop
  by_cases hfirst : engine = .xray ∧ (h.active.any fun a => a.mihomo) = true
  · rw [if_pos hfirst]
    obtain ⟨rfl, -⟩ := hfirst
    refine Meets.bind ((stopOne_spec hs .mihomo fun he => nomatch he).mono ?_)
    rintro ⟨host, stopped⟩ u ⟨hhost, hlater, hfewer, hoff⟩
    cases stopped with
    | true =>
      have hmihomo : ∀ a, host.active = some a → a.mihomo = false :=
        fun a ha => (hoff rfl a ha).1
      refine (stopOne_spec hhost .xray fun _ => hmihomo).mono ?_
      rintro ⟨host', stopped'⟩ v ⟨hhost', hlater', hfewer', hoff'⟩
      exact ⟨hhost', hlater.trans hlater', List.Subset.trans hfewer' hfewer,
        fun _ hr => hgone hhost' (hoff' hr)⟩
    | false =>
      exact ⟨hhost, hlater, hfewer, (fun _ hr => nomatch hr)⟩
  · rw [if_neg hfirst]
    have horder : engine = .xray → ∀ a, h.active = some a → a.mihomo = false := by
      intro hengine a ha
      by_contra hm
      exact hfirst ⟨hengine, by simpa [ha] using hm⟩
    refine (stopOne_spec hs engine horder).mono ?_
    rintro ⟨host, stopped⟩ u ⟨hhost, hlater, hfewer, hoff⟩
    refine ⟨hhost, hlater, hfewer, fun hengine hr => ?_⟩
    subst hengine
    exact hgone hhost (hoff hr)

theorem shutdown_spec {h : RuntimeHost} {w : World} (hs : h.Sound w) :
    Meets h.shutdown (fun host u => host.Sound u ∧ w.Later u) w := by
  unfold shutdown
  refine Meets.bind ((stop_spec hs .mihomo).mono ?_)
  rintro ⟨host, _⟩ u ⟨hhost, hlater, -, -⟩
  refine Meets.bind ((stop_spec hhost .xray).mono ?_)
  rintro ⟨host', _⟩ v ⟨hhost', hlater', -, -⟩
  dsimp only
  cases ha : host'.active with
  | none => exact ⟨hhost', hlater.trans hlater'⟩
  | some a =>
    have hsound := (hhost'.active a ha).1
    refine Meets.bind (Meets.ask fun _ x hdrop => ?_)
    obtain ⟨hquiet, hnone⟩ := drop_answer hdrop
    have hsound' : Sound ⟨none⟩ x := by
      refine ⟨?_, fun _ => hnone hsound.processes, (fun b hb => nomatch hb)⟩
      rw [hquiet.calls]
      exact hsound.orderly
    exact ⟨hsound'.world, hsound', (hlater.trans hlater').trans hquiet.later⟩

/-- Every command keeps the host sound and its processes orderly. -/
theorem execute_spec (fits : ElevationResponse → Bool) {h : RuntimeHost} {w : World}
    (hs : h.Sound w) (command : ElevationCommand) :
    Meets (h.execute fits command) (fun result u => result.1.Sound u) w := by
  cases command with
  | startXray generation =>
    exact (start_spec hs generation .xray).mono fun _ _ hr => hr.sound
  | startMihomo generation =>
    exact (start_spec hs generation .mihomo).mono fun _ _ hr => hr.sound
  | stop engine =>
    refine Meets.bind ((stop_spec hs engine).mono ?_)
    rintro ⟨host, stopped⟩ u ⟨hhost, -⟩
    exact hhost
  | diagnostics =>
    simp only [execute, diagnostics]
    cases ha : h.active with
    | none => exact hs
    | some a =>
      refine Meets.bind (Meets.bind (Meets.ask fun d u hd => ?_))
      have hquiet := diagnostics_answer hd
      have hsound : h.Sound u := by
        refine ⟨?_, fun hnone => ?_, ?_⟩
        · rw [hquiet.calls]
          exact hs.orderly
        · rw [ha] at hnone
          exact nomatch hnone
        · exact fun b hb => ⟨(hs.active b hb).1.quiet hquiet, (hs.active b hb).2⟩
      exact ⟨hsound.world, hsound⟩
  | shutdown =>
    exact Meets.bind ((shutdown_spec hs).mono fun _ _ hr => hr.1)

end RuntimeHost

/-- A host and the processes behind it, between two commands. -/
structure Hosted where
  host : RuntimeHost
  world : World

/-- What happens to a host. -/
inductive HostEvent where
  | command (command : ElevationCommand) (response : ElevationResponse)
  | crash

/-- A host starts without a controller and without cores. -/
def Hosted.initial : Hosted := ⟨⟨none⟩, ⟨[], 0, [], []⟩⟩

/-- One command, with whatever its calls answer, or some crashes. -/
inductive HostStep (fits : ElevationResponse → Bool) : Hosted → HostEvent → Hosted → Prop
  | command {h h' : RuntimeHost} {w u : World} {command : ElevationCommand}
      {response : ElevationResponse} :
      Executes environment (h.execute fits command) w (h', response) u →
      HostStep fits ⟨h, w⟩ (.command command response) ⟨h', u⟩
  | crash {h : RuntimeHost} {w u : World} : Crash w u → HostStep fits ⟨h, w⟩ .crash ⟨h, u⟩

theorem sound_initial : Hosted.initial.host.Sound Hosted.initial.world where
  orderly := trivial
  idle := fun _ => rfl
  active := fun _ ha => nomatch ha

/-- Every step keeps the host sound. -/
theorem HostStep.sound {fits : ElevationResponse → Bool} {s t : Hosted} {e : HostEvent}
    (h : s.host.Sound s.world) (hstep : HostStep fits s e t) : t.host.Sound t.world := by
  cases hstep with
  | command hexecutes =>
    have hresult := wp_executes (RuntimeHost.execute_spec fits h _) hexecutes
    exact hresult
  | crash hcrash => exact h.crash hcrash

/-- The dependency order of the engines under one host. -/
structure Hosted.Ordered (fits : ElevationResponse → Bool) (s : Hosted) : Prop where
  /-- The flags of the host are the marks of the calls made so far. -/
  flags : ∀ a, s.host.active = some a → ∀ engine,
    a.running engine = marked a.controller engine s.world.calls
  order : ∀ a, s.host.active = some a → a.mihomo = true →
    a.xray = true ∨ RestartFailed a.controller s.world.calls
  /-- Every start of Mihomo so far was delegated while Xray was marked running. -/
  delegated : InOrder s.world.calls
  generation : s.world.OneGeneration
  /-- A command that is under way keeps both. -/
  during : ∀ command u, Reaches environment (s.host.execute fits command) s.world u → u.Orderly

/-- In every state a host can reach, Mihomo is marked running only with Xray, or after a start of
Xray failed under a running Mihomo. -/
theorem RuntimeHost.dependency_order (fits : ElevationResponse → Bool)
    {es : List (Transition.Edge Hosted HostEvent)} {s : Hosted}
    (hrun : Transition.Run (HostStep fits) Hosted.initial es s) : s.Ordered fits := by
  have hsound : s.host.Sound s.world := hrun.invariant sound_initial HostStep.sound
  constructor
  · intro a ha engine
    have hactive := (hsound.active a ha).1
    cases engine with
    | xray => exact hactive.xray.symm
    | mihomo => exact hactive.mihomo.symm
  · exact fun a ha => (hsound.active a ha).1.order
  · exact hsound.orderly
  · exact hsound.world.generation
  · intro command u hreaches
    exact wp_reaches hsound.world (execute_spec fits hsound command) hreaches

section Restart

/-- The only controller of the run below. -/
private def core : Controller := ⟨0, 1⟩

/-- Both engines run, Xray crashes, and its next start fails. -/
private def restartFailed : Hosted where
  host := ⟨some ⟨1, core, false, true⟩⟩
  world :=
    { processes := [⟨1, core, .mihomo⟩]
      spawned := 2
      calls := [.started core .xray false, .started core .mihomo true, .started core .xray true,
        .created core]
      crashed := [.xray] }

/-- A call with no crash around it. -/
theorem environment_calm {q : Ask} {w u : World} {answer : Answer q}
    (h : Responds q w answer u) : environment q w answer u :=
  ⟨w, u, Crash.refl w, h, Crash.refl u⟩

private theorem run_restartFailed :
    ∃ es, Transition.Run (HostStep fun _ => true) Hosted.initial es restartFailed := by
  let xrayUp : World := ⟨[⟨0, core, .xray⟩], 1, [.started core .xray true, .created core], []⟩
  let bothUp : World := ⟨[⟨1, core, .mihomo⟩, ⟨0, core, .xray⟩], 2,
    .started core .mihomo true :: xrayUp.calls, []⟩
  let crashed : World := ⟨[⟨1, core, .mihomo⟩], 2, bothUp.calls, [.xray]⟩
  have hxray : HostStep (fun _ => true) Hosted.initial
      (.command (.startXray 1) (.started .xray)) ⟨⟨some ⟨1, core, true, false⟩⟩, xrayUp⟩ := by
    apply HostStep.command
    apply Executes.ask (environment_calm (Responds.created _ core))
    apply Executes.ask (environment_calm (Responds.started _ core .xray _))
    · exact Executes.done _ _
    · rintro ⟨p, hp, -⟩
      exact absurd hp (by simp)
  have hmihomo : HostStep (fun _ => true) ⟨⟨some ⟨1, core, true, false⟩⟩, xrayUp⟩
      (.command (.startMihomo 1) (.started .mihomo)) ⟨⟨some ⟨1, core, true, true⟩⟩, bothUp⟩ := by
    apply HostStep.command
    apply Executes.ask (environment_calm (Responds.started _ core .mihomo _))
    · exact Executes.done _ _
    · rintro ⟨p, hp, -, hengine⟩
      obtain rfl : p = ⟨0, core, .xray⟩ := by simpa [xrayUp] using hp
      exact nomatch hengine
  have hcrash : HostStep (fun _ => true) ⟨⟨some ⟨1, core, true, true⟩⟩, bothUp⟩ .crash
      ⟨⟨some ⟨1, core, true, true⟩⟩, crashed⟩ := by
    apply HostStep.crash
    constructor
    · intro p hp
      exact List.mem_append_left [⟨0, core, .xray⟩] hp
    · rfl
    · rfl
    · refine ⟨[.xray], rfl, fun engine => ?_⟩
      simp [bothUp, crashed, core, eq_comm]
  have hfailed : HostStep (fun _ => true) ⟨⟨some ⟨1, core, true, true⟩⟩, crashed⟩
      (.command (.startXray 1) (.error .notReady)) restartFailed := by
    apply HostStep.command
    apply Executes.ask (environment_calm (Responds.notStarted _ core .xray .notReady))
    exact Executes.done _ _
  exact ⟨_, (((Transition.Run.single hxray).snoc hmihomo).snoc hcrash).snoc hfailed⟩

/-- Mihomo can be marked running while Xray is not. -/
theorem RuntimeHost.mihomo_without_xray :
    ∃ es s, Transition.Run (HostStep fun _ => true) Hosted.initial es s ∧
      ∃ a, s.host.active = some a ∧ a.mihomo = true ∧ a.xray = false := by
  obtain ⟨es, hrun⟩ := run_restartFailed
  exact ⟨es, restartFailed, hrun, _, rfl, rfl, rfl⟩

theorem RuntimeHost.dependency_order_restartFailed :
    restartFailed.Ordered (fun _ => true) := by
  obtain ⟨es, hrun⟩ := run_restartFailed
  exact RuntimeHost.dependency_order (fun _ => true) hrun

end Restart

end MultiCore.Host
