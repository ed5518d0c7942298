import MultiCore.Service.Ownership
import Mathlib.Logic.Relation

/-!
# Crash restarts and the tunnel

What the loop may do to the cores, as an automaton: it prepares them, restarts
them while its budget lasts, switches the tunnel while they are prepared and
work, and records failures. Every section under the lock is a sequence of its
moves, so the bound on restarts and the order of failure, tunnel and preparation
are shown once, of the automaton.
-/

namespace MultiCore.Service

/-- The loop attempted a preparation. -/
def CoreCall.isPrepare : CoreCall → Bool
  | prepare _ _ _ => true
  | _ => false

/-- Whether a call restarts an engine. -/
def CoreCall.isRestart : CoreCall → Bool
  | restart => true
  | _ => false

/-- The tunnel was asked to come on. -/
def CoreCall.isSwitchOn : CoreCall → Bool
  | setTun on => on
  | _ => false

/-- A call that neither starts the cores nor the tunnel. -/
def CoreCall.Plain (c : CoreCall) : Prop :=
  c.isPrepare = false ∧ c.isRestart = false ∧ c.isSwitchOn = false

/-- Restarts since the newest preparation. -/
def restartsSince : List CoreCall → Nat
  | [] => 0
  | c :: cs =>
    if c.isPrepare then 0 else if c.isRestart then restartsSince cs + 1 else restartsSince cs

/-- Calls, newest first, that start nothing before a preparation among them was attempted. -/
def Restful : List CoreCall → Prop
  | [] => True
  | c :: cs =>
    Restful cs ∧
      ((∃ d ∈ c :: cs, d.isPrepare = true) ∨ c.isRestart = false ∧ c.isSwitchOn = false)

/-- The loop's part in the life of the cores. -/
structure Lifecycle where
  /-- The calls made to the cores, newest first. -/
  calls : List CoreCall
  prepared : Bool
  tunOn : Bool
  crashRestarts : Nat
  failed : Bool

namespace Lifecycle

/-- One thing the loop may do, with the guard it does it under. -/
inductive Move : Lifecycle → Lifecycle → Prop
  | call (s : Lifecycle) (c : CoreCall) (plain : c.Plain) :
      Move s { s with calls := c :: s.calls }
  | restart (s : Lifecycle) (prepared : s.prepared = true) (working : s.failed = false)
      (budget : s.crashRestarts < maxCrashRestarts) :
      Move s { s with calls := .restart :: s.calls, crashRestarts := s.crashRestarts + 1 }
  | switchOn (s : Lifecycle) (prepared : s.prepared = true) (working : s.failed = false) :
      Move s { s with calls := .setTun true :: s.calls }
  | tunnel (s : Lifecycle) (on : Bool)
      (ready : on = true → s.prepared = true ∧ s.failed = false) :
      Move s { s with tunOn := on }
  | attempt (s : Lifecycle) (client : ClientIdentity) (generation : Nat)
      (result : Except BrokerErrorCode ControllerEndpoint) :
      Move s
        { calls := .prepare client generation result :: s.calls
          prepared := result.toOption.isSome
          tunOn := false
          crashRestarts := 0
          failed := result.toOption.isNone }
  | fail (s : Lifecycle) : Move s { s with tunOn := false, failed := true }
  | stop (s : Lifecycle) :
      Move s { s with prepared := false, tunOn := false, crashRestarts := 0, failed := false }

/-- The tunnel may always be off. -/
theorem Move.tunnelOff (s : Lifecycle) : Move s { s with tunOn := false } :=
  .tunnel s false fun on => absurd on Bool.false_ne_true

/-- Any number of moves. -/
abbrev Moves : Lifecycle → Lifecycle → Prop := Relation.ReflTransGen Move

/-- The restart budget holds along the whole history, a tunnel needs prepared cores, and a
failure keeps it off. -/
structure Sound (s : Lifecycle) : Prop where
  tunnel : s.tunOn = true → s.prepared = true
  failed : s.failed = true → s.tunOn = false
  counted : s.prepared = true → restartsSince s.calls ≤ s.crashRestarts
  budget : s.crashRestarts ≤ maxCrashRestarts
  history : ∀ older, older <:+ s.calls → restartsSince older ≤ maxCrashRestarts

/-- A new call keeps the history bounded when the count including it is. -/
private theorem history_cons {c : CoreCall} {calls : List CoreCall}
    (h : ∀ older, older <:+ calls → restartsSince older ≤ maxCrashRestarts)
    (hc : restartsSince (c :: calls) ≤ maxCrashRestarts) :
    ∀ older, older <:+ c :: calls → restartsSince older ≤ maxCrashRestarts := by
  intro older holder
  rcases List.suffix_cons_iff.1 holder with rfl | hold
  · exact hc
  · exact h older hold

private theorem restartsSince_plain {c : CoreCall} (hc : c.Plain) (calls : List CoreCall) :
    restartsSince (c :: calls) = restartsSince calls := by
  simp [restartsSince, hc.1, hc.2.1]

theorem Sound.move {s t : Lifecycle} (h : Sound s) (hm : Move s t) : Sound t := by
  have hnow : restartsSince s.calls ≤ maxCrashRestarts := h.history _ List.suffix_rfl
  cases hm with
  | call c plain =>
    have hcount := restartsSince_plain plain s.calls
    exact
      { tunnel := h.tunnel
        failed := h.failed
        counted := fun hp => by rw [hcount]; exact h.counted hp
        budget := h.budget
        history := history_cons h.history (by rw [hcount]; exact hnow) }
  | restart prepared working budget =>
    have hcount : restartsSince (.restart :: s.calls) = restartsSince s.calls + 1 := rfl
    have hbefore := h.counted prepared
    exact
      { tunnel := h.tunnel
        failed := h.failed
        counted := fun _ => by rw [hcount]; exact Nat.succ_le_succ hbefore
        budget := budget
        history := history_cons h.history (by rw [hcount]; omega) }
  | switchOn prepared working =>
    exact
      { tunnel := h.tunnel
        failed := h.failed
        counted := h.counted
        budget := h.budget
        history := history_cons h.history hnow }
  | tunnel on ready =>
    exact
      { tunnel := fun hon => (ready hon).1
        failed := fun hf => by
          cases on with
          | false => rfl
          | true => exact absurd hf (by simp [(ready rfl).2])
        counted := h.counted
        budget := h.budget
        history := h.history }
  | attempt client generation result =>
    exact
      { tunnel := fun hon => nomatch hon
        failed := fun _ => rfl
        counted := fun _ => Nat.le_refl 0
        budget := Nat.zero_le _
        history := history_cons h.history (Nat.zero_le _) }
  | fail =>
    exact
      { tunnel := fun hon => nomatch hon
        failed := fun _ => rfl
        counted := h.counted
        budget := h.budget
        history := h.history }
  | stop =>
    exact
      { tunnel := fun hon => nomatch hon
        failed := fun _ => rfl
        counted := fun hp => nomatch hp
        budget := Nat.zero_le _
        history := h.history }

theorem Sound.moves {s t : Lifecycle} (h : Sound s) (hm : Moves s t) : Sound t := by
  induction hm with
  | refl => exact h
  | tail _ hmove ih => exact ih.move hmove

/-- Since `base` nothing was started without a preparation, and without one the cores are not
prepared or have failed. -/
def Resting (base : List CoreCall) (s : Lifecycle) : Prop :=
  ∃ newer, s.calls = newer ++ base ∧ Restful newer ∧
    ((∃ c ∈ newer, c.isPrepare = true) ∨ s.prepared = false ∨ s.failed = true)

theorem Resting.move {base : List CoreCall} {s t : Lifecycle} (h : Resting base s)
    (hm : Move s t) : Resting base t := by
  obtain ⟨newer, hcalls, hrest, hwhy⟩ := h
  /- A call made while the cores are prepared and work comes after a preparation. -/
  have hstart : ∀ c, s.prepared = true → s.failed = false →
      (∃ d ∈ newer, d.isPrepare = true) ∧ Restful (c :: newer) := by
    intro c hp hf
    have hprepare : ∃ d ∈ newer, d.isPrepare = true := by
      rcases hwhy with hprepare | hunprepared | hfailed
      · exact hprepare
      · exact absurd hp (by simp [hunprepared])
      · exact absurd hf (by simp [hfailed])
    obtain ⟨d, hd, hprep⟩ := hprepare
    exact ⟨⟨d, hd, hprep⟩, hrest, Or.inl ⟨d, List.mem_cons_of_mem c hd, hprep⟩⟩
  cases hm with
  | call c plain =>
    refine ⟨c :: newer, by rw [hcalls, List.cons_append], ⟨hrest, Or.inr plain.2⟩, ?_⟩
    rcases hwhy with ⟨d, hd, hprep⟩ | hwhy
    · exact Or.inl ⟨d, List.mem_cons_of_mem c hd, hprep⟩
    · exact Or.inr hwhy
  | restart prepared working budget =>
    obtain ⟨⟨d, hd, hprep⟩, hrest'⟩ := hstart .restart prepared working
    exact ⟨.restart :: newer, by rw [hcalls, List.cons_append], hrest',
      Or.inl ⟨d, List.mem_cons_of_mem _ hd, hprep⟩⟩
  | switchOn prepared working =>
    obtain ⟨⟨d, hd, hprep⟩, hrest'⟩ := hstart (.setTun true) prepared working
    exact ⟨.setTun true :: newer, by rw [hcalls, List.cons_append], hrest',
      Or.inl ⟨d, List.mem_cons_of_mem _ hd, hprep⟩⟩
  | tunnel on ready => exact ⟨newer, hcalls, hrest, hwhy⟩
  | attempt client generation result =>
    have hmem : ∃ d ∈ CoreCall.prepare client generation result :: newer, d.isPrepare = true :=
      ⟨_, List.mem_cons_self, rfl⟩
    exact ⟨_ :: newer, by rw [hcalls, List.cons_append], ⟨hrest, Or.inl hmem⟩, Or.inl hmem⟩
  | fail =>
    refine ⟨newer, hcalls, hrest, ?_⟩
    rcases hwhy with hprepare | _
    · exact Or.inl hprepare
    · exact Or.inr (Or.inr rfl)
  | stop => exact ⟨newer, hcalls, hrest, Or.inr (Or.inl rfl)⟩

theorem Resting.moves {base : List CoreCall} {s t : Lifecycle} (h : Resting base s)
    (hm : Moves s t) : Resting base t := by
  induction hm with
  | refl => exact h
  | tail _ hmove ih => exact ih.move hmove

end Lifecycle

theorem Restful.of_suffix {newer older : List CoreCall} (h : Restful newer)
    (hsuffix : older <:+ newer) : Restful older := by
  induction newer with
  | nil =>
    rw [List.suffix_nil.1 hsuffix]
    trivial
  | cons head tail ih =>
    rcases List.suffix_cons_iff.1 hsuffix with rfl | hold
    · exact h
    · exact ih h.1 hold

/-- A restful history without a preparation starts nothing at all. -/
theorem Restful.quiet {calls : List CoreCall} (h : Restful calls)
    (hnone : ∀ c ∈ calls, c.isPrepare = false) :
    ∀ c ∈ calls, c.isRestart = false ∧ c.isSwitchOn = false := by
  induction calls with
  | nil => simp
  | cons head tail ih =>
    have htail := ih h.1 fun c hc => hnone c (List.mem_cons_of_mem _ hc)
    intro c hc
    rcases List.mem_cons.1 hc with rfl | hc
    · rcases h.2 with ⟨d, hd, hprep⟩ | hquiet
      · exact absurd hprep (by simp [hnone d hd])
      · exact hquiet
    · exact htail c hc

/-- A window of calls without a preparation holds no more restarts than were counted at its
newest call. -/
theorem countP_isRestart_le (window older : List CoreCall)
    (hnone : ∀ c ∈ window, c.isPrepare = false) :
    window.countP CoreCall.isRestart ≤ restartsSince (window ++ older) := by
  induction window with
  | nil => exact Nat.zero_le _
  | cons c cs ih =>
    have hc := hnone c List.mem_cons_self
    have hcs := ih fun d hd => hnone d (List.mem_cons_of_mem _ hd)
    rw [List.cons_append, List.countP_cons]
    by_cases hrestart : c.isRestart = true
    · simp only [restartsSince, hc, hrestart, if_true, Bool.false_eq_true, if_false]
      omega
    · simp only [restartsSince, hc, hrestart, if_false, Bool.false_eq_true]
      omega

namespace Traced

variable {C : Type*} [Cores C]

theorem calls_switchOnOrRollBack (c : Traced C) :
    (ServiceLoop.switchOnOrRollBack c).1.calls =
      if (ServiceLoop.switchOnOrRollBack c).2 = .ok () then .setTun true :: c.calls
      else .setTun false :: .setTun true :: c.calls := by
  rcases ServiceLoop.switchOnOrRollBack_cases c with ⟨d, hon, hs⟩ | ⟨d, code, hon, hs⟩
  · have hcalls : d.calls = .setTun true :: c.calls := by
      rw [← show (Cores.setTun c true).1 = d by rw [hon]]
      rfl
    rw [hs, if_pos rfl]
    exact hcalls
  · have hcalls : d.calls = .setTun true :: c.calls := by
      rw [← show (Cores.setTun c true).1 = d by rw [hon]]
      rfl
    rw [hs, if_neg (by simp), ← hcalls]
    rfl

end Traced

/-- The life of the cores as a session knows it. -/
def Session.lifecycle {C : Type*} (s : Session (Traced C)) : Lifecycle where
  calls := s.cores.calls
  prepared := s.prepared.isSome
  tunOn := s.tunOn
  crashRestarts := s.crashRestarts
  failed := s.failure.isSome

namespace ServiceLoop

open Lifecycle

variable {C U T : Type*} [Cores C]

/-- The life of the cores as the loop knows it. -/
abbrev lifecycle (s : ServiceLoop (Traced C) U T) : Lifecycle := s.session.lifecycle

/-- A call to the cores that starts nothing and changes nothing else. -/
private theorem moves_call (s : Lifecycle) (c : CoreCall) (hc : c.Plain) :
    Moves s { s with calls := c :: s.calls } :=
  Relation.ReflTransGen.single (.call s c hc)

private theorem plain_health : CoreCall.health.Plain := ⟨rfl, rfl, rfl⟩

private theorem plain_stopAll : CoreCall.stopAll.Plain := ⟨rfl, rfl, rfl⟩

private theorem plain_setTun_false : (CoreCall.setTun false).Plain := ⟨rfl, rfl, rfl⟩

/-- Switching on prepared, working cores moves to the tunnel being on, or back off. -/
private theorem moves_switchOn {s : Lifecycle} (hp : s.prepared = true) (hf : s.failed = false)
    (rolledBack : Bool) :
    Moves s { s with calls :=
      if rolledBack then .setTun false :: .setTun true :: s.calls else .setTun true :: s.calls } := by
  have hon := Relation.ReflTransGen.single (Move.switchOn s hp hf)
  cases rolledBack with
  | false => exact hon
  | true => exact hon.tail (.call _ _ plain_setTun_false)

theorem moves_tunnelBack {s : ServiceLoop (Traced C) U T} (hp : s.prepared.isSome = true)
    (hf : s.failure = none) (ht : s.tunOn = false) (tunnel : Bool) :
    Moves s.lifecycle (s.tunnelBack tunnel).lifecycle := by
  cases tunnel with
  | false => exact .refl
  | true =>
    have hworking : s.lifecycle.failed = false := by simp [lifecycle, Session.lifecycle, session, hf]
    have hswitch := Traced.calls_switchOnOrRollBack s.cores
    unfold tunnelBack
    rcases hs : switchOnOrRollBack s.cores with ⟨c, code | ⟨⟩⟩
    · have hcalls : c.calls = .setTun false :: .setTun true :: s.cores.calls := by
        simpa [hs] using hswitch
      have hon := moves_switchOn (s := s.lifecycle) hp hworking true
      have hfail := hon.tail (.fail _)
      simpa [lifecycle, Session.lifecycle, session, hcalls, ht] using hfail
    · have hcalls : c.calls = .setTun true :: s.cores.calls := by simpa [hs] using hswitch
      have hon := moves_switchOn (s := s.lifecycle) hp hworking false
      have htun := hon.tail (.tunnel _ true fun _ => ⟨hp, hworking⟩)
      simpa [lifecycle, Session.lifecycle, session, hcalls] using htun

theorem moves_stillRuns (s : ServiceLoop (Traced C) U T) (generation : Nat) :
    Moves s.lifecycle (s.stillRuns generation).1.lifecycle := by
  rcases s.stillRuns_fst generation with hs | hs <;> rw [hs]
  exact moves_call s.lifecycle .health plain_health

theorem moves_prepareAfresh (s : ServiceLoop (Traced C) U T) (client : ClientIdentity)
    (generation : Nat) : Moves s.lifecycle (s.prepareAfresh client generation).1.lifecycle := by
  have hattempt := Relation.ReflTransGen.single
    (Move.attempt s.lifecycle client generation (Cores.prepare s.cores client generation).2)
  unfold prepareAfresh
  rcases hc : Cores.prepare s.cores client generation with ⟨c, code | endpoint⟩
  · have hcalls : c.calls = .prepare client generation (.error code) :: s.cores.calls := by
      rw [← show (Cores.prepare s.cores client generation).1 = c by rw [hc],
        ← show (Cores.prepare s.cores client generation).2 = .error code by rw [hc]]
      rfl
    rw [hc] at hattempt
    simpa [lifecycle, Session.lifecycle, session, hc, hcalls, Except.toOption] using hattempt
  · have hcalls : c.calls = .prepare client generation (.ok endpoint) :: s.cores.calls := by
      rw [← show (Cores.prepare s.cores client generation).1 = c by rw [hc],
        ← show (Cores.prepare s.cores client generation).2 = .ok endpoint by rw [hc]]
      rfl
    rw [hc] at hattempt
    have hback := moves_tunnelBack (s := { s with
      cores := c, prepared := some (generation, endpoint), tunOn := false, crashRestarts := 0,
      failure := none }) rfl rfl rfl s.tunOn
    simp only [hc]
    refine Relation.ReflTransGen.trans ?_ hback
    simpa [lifecycle, Session.lifecycle, session, hcalls, Except.toOption] using hattempt

theorem moves_prepare (s : ServiceLoop (Traced C) U T) (client : ClientIdentity)
    (generation : Nat) : Moves s.lifecycle (s.prepare client generation).1.lifecycle := by
  have hstill := s.moves_stillRuns generation
  unfold prepare
  rcases hr : s.stillRuns generation with ⟨t, _ | endpoint⟩
  · rw [hr] at hstill
    exact hstill.trans (t.moves_prepareAfresh client generation)
  · rw [hr] at hstill
    exact hstill

theorem moves_setTun (s : ServiceLoop (Traced C) U T) (on : Bool) :
    Moves s.lifecycle (s.setTun on).1.lifecycle := by
  rcases s.setTun_cases on with ⟨-, hs⟩ | ⟨-, -, hs⟩ |
    ⟨hready, hoff, -, c, result, hc, hresult⟩ | ⟨hready, hon, -, c, result, hc, hresult⟩
  · rw [hs]
  · rw [hs]
  · have hp : s.lifecycle.prepared = true := hready.1
    have hf : s.lifecycle.failed = false := by
      simp [lifecycle, Session.lifecycle, session, hready.2]
    have hswitch := Traced.calls_switchOnOrRollBack s.cores
    rcases hresult with ⟨rfl, hs⟩ | ⟨code, rfl, hs⟩
    · have hcalls : c.calls = .setTun true :: s.cores.calls := by simpa [hc] using hswitch
      have hon := (moves_switchOn hp hf false).tail (.tunnel _ true fun _ => ⟨hp, hf⟩)
      rw [hs]
      simpa [lifecycle, Session.lifecycle, session, hcalls] using hon
    · have hcalls : c.calls = .setTun false :: .setTun true :: s.cores.calls := by
        simpa [hc] using hswitch
      have hback := (moves_switchOn hp hf true).tail (.tunnelOff _)
      rw [hs]
      simpa [lifecycle, Session.lifecycle, session, hcalls] using hback
  · have hp : s.lifecycle.prepared = true := hready.1
    have hf : s.lifecycle.failed = false := by
      simp [lifecycle, Session.lifecycle, session, hready.2]
    have hcalls : c.calls = .setTun false :: s.cores.calls := by
      rw [← show (Cores.setTun s.cores false).1 = c by rw [hc]]
      rfl
    have hcall := moves_call s.lifecycle _ plain_setTun_false
    rcases hresult with ⟨rfl, hs⟩ | ⟨code, rfl, hs⟩
    · have hoff := hcall.tail (.tunnelOff _)
      rw [hs]
      simpa [lifecycle, Session.lifecycle, session, hcalls] using hoff
    · have hasked := (hcall.tail (.call _ .tunIsOn ⟨rfl, rfl, rfl⟩)).tail
        (.tunnel _ ((Cores.tunIsOn c).2.getD true) fun _ => ⟨hp, hf⟩)
      have hcalls' : (Cores.tunIsOn c).1.calls = .tunIsOn :: c.calls := rfl
      rw [hs]
      simpa [lifecycle, Session.lifecycle, session, hcalls', hcalls] using hasked

/-- Taking the tunnel down first, when it is on, and then stopping the cores. -/
private theorem moves_takeDown (s : ServiceLoop (Traced C) U T) (tunnel : Bool) :
    Moves s.lifecycle
      { s with
        cores := Cores.stopAll (if tunnel then (Cores.setTun s.cores false).1 else s.cores)
      }.lifecycle := by
  cases tunnel with
  | false => exact moves_call s.lifecycle _ plain_stopAll
  | true => exact (moves_call s.lifecycle _ plain_setTun_false).tail (.call _ _ plain_stopAll)

theorem moves_stopCores (s : ServiceLoop (Traced C) U T) :
    Moves s.lifecycle s.stopCores.lifecycle :=
  (s.moves_takeDown s.tunOn).tail (.stop _)

theorem moves_stopEverything (s : ServiceLoop (Traced C) U T) :
    Moves s.lifecycle s.stopEverything.lifecycle :=
  s.moves_stopCores

theorem moves_crashed {s : ServiceLoop (Traced C) U T} (hp : s.prepared.isSome = true)
    (hf : s.failure = none) : Moves s.lifecycle s.crashed.lifecycle := by
  have hworking : s.lifecycle.failed = false := by
    simp [lifecycle, Session.lifecycle, session, hf]
  have hasked := (moves_call s.lifecycle .exits ⟨rfl, rfl, rfl⟩).tail
    (.tunnelOff _)
  unfold crashed
  dsimp only
  split
  · have hdown := moves_takeDown
      { s with cores := (Cores.exits s.cores).1, tunOn := false } s.tunOn
    have hfail := (hasked.trans hdown).tail (.fail _)
    simpa [lifecycle, Session.lifecycle, session] using hfail
  · rename_i hbudget
    have hlt : s.lifecycle.crashRestarts < maxCrashRestarts := Nat.lt_of_not_le hbudget
    have hrestart := hasked.tail (.restart _ hp hworking hlt)
    rcases hc : Cores.restart (Cores.exits s.cores).1 with ⟨c, code | ⟨⟩⟩
    · have hcalls : c.calls = .restart :: .exits :: s.cores.calls := by
        rw [← show (Cores.restart (Cores.exits s.cores).1).1 = c by rw [hc]]
        rfl
      have hstop := (hrestart.tail (.call _ _ plain_stopAll)).tail (.fail _)
      have hcalls' : (Cores.stopAll c).calls = .stopAll :: c.calls := rfl
      simpa [lifecycle, Session.lifecycle, session, hcalls', hcalls, hc] using hstop
    · have hcalls : c.calls = .restart :: .exits :: s.cores.calls := by
        rw [← show (Cores.restart (Cores.exits s.cores).1).1 = c by rw [hc]]
        rfl
      have hback := moves_tunnelBack (s := { s with
        cores := c, tunOn := false, crashRestarts := s.crashRestarts + 1 }) hp hf rfl s.tunOn
      refine Relation.ReflTransGen.trans ?_ hback
      simpa [lifecycle, Session.lifecycle, session, hcalls] using hrestart

theorem moves_tick (s : ServiceLoop (Traced C) U T) : Moves s.lifecycle s.tick.lifecycle := by
  have hhealth := moves_call s.lifecycle _ plain_health
  unfold tick
  split
  · exact .refl
  · rename_i hp
    split
    · exact .refl
    · rename_i hf
      dsimp only
      split
      · exact hhealth
      · have hsome : s.prepared.isSome = true := by
          simpa [Option.isSome_iff_ne_none] using hp
        have hnone : s.failure = none := by simpa using hf
        exact hhealth.trans
          (moves_crashed (s := { s with cores := (Cores.health s.cores).1 }) hsome hnone)

/-- Every section under the lock is a sequence of moves. -/
theorem moves_effect {s : ServiceLoop (Traced C) U T} {e : Event U} {x : Session (Traced C)}
    (he : Effect s e x) : Moves s.lifecycle x.lifecycle := by
  cases he with
  | frame e quiet => exact .refl
  | health connection client held => exact moves_call s.lifecycle _ plain_health
  | diagnostics connection client held =>
    exact moves_call s.lifecycle .diagnostics ⟨rfl, rfl, rfl⟩
  | prepare connection client generation held =>
    exact (s.claim connection client).moves_prepare client generation
  | setTun connection client on held => exact (s.claim connection client).moves_setTun on
  | stop connection client engine held => exact (s.claim connection client).moves_stopCores
  | shutdown connection client held => exact s.moves_stopEverything
  | updated index result => exact s.moves_stopEverything
  | closed connection owned => exact s.moves_stopEverything
  | stopping => exact s.moves_stopEverything
  | tick => exact s.moves_tick

end ServiceLoop

namespace SharedService

open Lifecycle

variable {C U T : Type*} [Cores C] [ServiceUpdater U] [Troubleshooter T] {logs : LogReader}
  {s t : SharedService (Traced C) U T}
  {es : List (Transition.Edge (SharedService (Traced C) U T) (Event U))}

theorem moves_step {e : Event U} (h : Step logs s e t) :
    Moves s.loop.lifecycle t.loop.lifecycle := by
  have heffect := s.handle_effect logs e
  rw [show (s.handle logs e).1 = t from h] at heffect
  exact ServiceLoop.moves_effect heffect

theorem moves_run (h : Run logs s es t) : Moves s.loop.lifecycle t.loop.lifecycle := by
  induction h with
  | nil => exact .refl
  | snoc _ hstep ih => exact ih.trans (moves_step hstep)

omit [Cores C] [ServiceUpdater U] [Troubleshooter T] in
/-- Cores that were never called are sound. -/
private theorem sound_new (cores : C) (updater : Option U) (updateProgress : Option UpdateProgress)
    (troubleshooter : Option T) (logDirectory : Option String) :
    Sound (new (⟨cores, []⟩ : Traced C) updater updateProgress troubleshooter
      logDirectory).loop.lifecycle where
  tunnel := fun h => nomatch h
  failed := fun _ => rfl
  counted := fun h => nomatch h
  budget := Nat.zero_le _
  history := by
    intro older holder
    rw [List.suffix_nil.1 holder]
    exact Nat.zero_le _

/-- What holds of the restarts and the tunnel in a state of the service. -/
structure RestartsBounded (logs : LogReader) (s : SharedService (Traced C) U T) : Prop where
  /-- A tunnel that is on stands on prepared cores. -/
  tunnel : s.loop.tunOn = true → s.loop.prepared.isSome = true
  /-- A recorded failure means the tunnel is off. -/
  failed : s.loop.failure.isSome = true → s.loop.tunOn = false
  /-- No stretch of calls without an attempted preparation has more restarts than allowed. -/
  budget : ∀ window, window <:+: s.loop.cores.calls → (∀ c ∈ window, c.isPrepare = false) →
    window.countP CoreCall.isRestart ≤ maxCrashRestarts
  /-- From a recorded failure on, nothing is restarted and the tunnel is neither asked on nor on
  until the next preparation is attempted. -/
  silent : s.loop.failure.isSome = true → ∀ es t, Run logs s es t →
    ∃ newer, t.loop.cores.calls = newer ++ s.loop.cores.calls ∧
      (∀ older, older <:+ newer → (∀ c ∈ older, c.isPrepare = false) →
        ∀ c ∈ older, c.isRestart = false ∧ c.isSwitchOn = false) ∧
      ((∀ c ∈ newer, c.isPrepare = false) → t.loop.tunOn = false)

/-- In every run of the service the restarts stay bounded, and a failure keeps the tunnel off,
in every state reached. -/
theorem restarts_bounded (logs : LogReader) (cores : C) (updater : Option U)
    (progress : Option UpdateProgress) (troubleshooter : Option T) (directory : Option String)
    {es : List (Transition.Edge (SharedService (Traced C) U T) (Event U))}
    {t : SharedService (Traced C) U T}
    (hrun : Run logs (new ⟨cores, []⟩ updater progress troubleshooter directory) es t) :
    RestartsBounded logs t := by
  have hsound : Sound t.loop.lifecycle :=
    (sound_new cores updater progress troubleshooter directory).moves (moves_run hrun)
  constructor
  case tunnel => exact hsound.tunnel
  case failed => exact hsound.failed
  case budget =>
    rintro window ⟨newer, older, hcalls⟩ hnone
    have hsuffix : window ++ older <:+ t.loop.cores.calls :=
      ⟨newer, by rw [← hcalls, List.append_assoc]⟩
    exact Nat.le_trans (countP_isRestart_le window older hnone) (hsound.history _ hsuffix)
  case silent =>
    intro hfailed es u hu
    have hstart : Resting t.loop.cores.calls t.loop.lifecycle :=
      ⟨[], rfl, trivial, Or.inr (Or.inr hfailed)⟩
    obtain ⟨newer, hcalls, hrest, hwhy⟩ := hstart.moves (moves_run hu)
    refine ⟨newer, hcalls, fun older hold hnone => (hrest.of_suffix hold).quiet hnone, ?_⟩
    intro hnone
    have hend : Sound u.loop.lifecycle := hsound.moves (moves_run hu)
    rcases hwhy with ⟨c, hc, hprep⟩ | hunprepared | hfailed
    · exact absurd hprep (by simp [hnone c hc])
    · by_contra hon
      change ¬u.loop.lifecycle.tunOn = false at hon
      have hprepared : u.loop.lifecycle.prepared = true := by
        apply hend.tunnel
        simpa using hon
      exact absurd hprepared (by simp [hunprepared])
    · exact hend.failed hfailed

end SharedService

section Fragile

/-- Cores that start whenever asked and never stay up. -/
structure FragileCores where

instance : Cores FragileCores where
  prepare c _ _ := (c, .ok ⟨9090, "secret", 7890⟩)
  restart c := (c, .ok ())
  setTun c _ := (c, .ok ())
  tunIsOn c := (c, none)
  health c := (c, ⟨false, true⟩)
  exits c := (c, ["xray exited"])
  stopAll c := c
  diagnostics c := (c, ⟨.stopped, .ready, .stopped, []⟩)

/-- The cores crash twice under the tunnel, and the switch after that is refused. -/
def crashTwice : List (Event Empty) :=
  [.command ⟨1⟩ alice (.prepare 1), .command ⟨1⟩ alice (.setTun true), .tick, .tick,
    .command ⟨1⟩ alice (.setTun true)]

theorem restarts_bounded_crashTwice :
    SharedService.RestartsBounded emptyLogs
      (crashTwice.foldl (fun s e => (s.handle emptyLogs e).1)
        (SharedService.new (⟨⟨⟩, []⟩ : Traced FragileCores) none none (some AllDone.mk) none)) :=
  SharedService.restarts_bounded emptyLogs _ _ _ _ _ (Transition.run_trace _ _ crashTwice)

end Fragile

end MultiCore.Service
