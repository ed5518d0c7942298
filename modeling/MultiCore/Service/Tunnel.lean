import MultiCore.Service.Shared

/-!
# What the loop knows about the real tunnel

The loop answers a switch-off from its own flag when the flag is already clear.
That answer is true as long as a clear flag on prepared, working cores means a
tunnel that is down. A switch-on that fails together with its rollback breaks
this, and it is the only step that does: the three other places that switch the
tunnel back on record a failure, which turns every later switch away.
-/

namespace MultiCore.Service

/-- A controller with a real tunnel behind it. What a call leaves of the tunnel is known where
the call succeeded; a failed call may leave it either way. -/
class TunDevice (C : Type*) [Cores C] where
  /-- The real tunnel is up. -/
  tun : C → Bool
  tun_setTun : ∀ (c : C) (on : Bool), (Cores.setTun c on).2 = .ok () →
    tun (Cores.setTun c on).1 = on
  tun_prepare : ∀ (c : C) (client : ClientIdentity) (generation : Nat) (e : ControllerEndpoint),
    (Cores.prepare c client generation).2 = .ok e → tun (Cores.prepare c client generation).1 = false
  tun_restart : ∀ c : C, (Cores.restart c).2 = .ok () → tun (Cores.restart c).1 = false
  tun_stopAll : ∀ c : C, tun (Cores.stopAll c) = false
  /-- The cores say the tunnel is off only when it is. -/
  tun_tunIsOn : ∀ c : C, (Cores.tunIsOn c).2 = some false → tun (Cores.tunIsOn c).1 = false
  tun_health : ∀ c : C, tun c = false → tun (Cores.health c).1 = false
  tun_exits : ∀ c : C, tun c = false → tun (Cores.exits c).1 = false
  tun_diagnostics : ∀ c : C, tun c = false → tun (Cores.diagnostics c).1 = false

open TunDevice

namespace ServiceLoop

variable {C U T : Type*} [Cores C]

section Switch

/-- A switch-on either succeeds or ends with the rollback's result ignored. -/
theorem switchOnOrRollBack_cases (c : C) :
    (∃ c', Cores.setTun c true = (c', .ok ()) ∧ switchOnOrRollBack c = (c', .ok ())) ∨
    ∃ c' code, Cores.setTun c true = (c', .error code) ∧
      switchOnOrRollBack c = ((Cores.setTun c' false).1, .error code) := by
  rcases h : Cores.setTun c true with ⟨c', _ | ⟨⟩⟩
  · exact .inr ⟨c', _, rfl, by simp [switchOnOrRollBack, h]⟩
  · exact .inl ⟨c', rfl, by simp [switchOnOrRollBack, h]⟩

variable [TunDevice C]

/-- A clear flag on prepared and working cores means that the real tunnel is down. -/
def HonestOff (s : ServiceLoop C U T) : Prop :=
  s.Switchable → s.tunOn = false → tun s.cores = false

/-- A switch-on asked of this state is refused by the cores, and switching them off again leaves
the real tunnel up. -/
def RollbackLeavesTunnel (s : ServiceLoop C U T) : Prop :=
  s.Switchable ∧ s.tunOn = false ∧
    (Cores.setTun s.cores true).2 ≠ .ok () ∧
      tun (Cores.setTun (Cores.setTun s.cores true).1 false).1 = true

/-- Unprepared cores promise nothing about the tunnel. -/
theorem honestOff_of_unprepared {s : ServiceLoop C U T} (h : s.prepared = none) :
    HonestOff s := by
  rintro ⟨hp, -⟩
  simp [h] at hp

theorem honestOff_of_failure {s : ServiceLoop C U T} {code : BrokerErrorCode}
    (h : s.failure = some code) : HonestOff s := by
  rintro ⟨-, hf⟩
  simp [h] at hf

/-- Switching the tunnel back on over a tunnel that is down keeps the flag honest: a tunnel
that does not come back leaves a failure behind. -/
theorem honestOff_tunnelBack {s : ServiceLoop C U T} (h : tun s.cores = false) (tunnel : Bool) :
    HonestOff (s.tunnelBack tunnel) := by
  cases tunnel with
  | false => exact fun _ _ => h
  | true =>
    rcases switchOnOrRollBack_cases s.cores with ⟨c, -, hs⟩ | ⟨c, code, -, hs⟩
    · intro _ ht
      simp [tunnelBack, hs] at ht
    · have hfailure : (s.tunnelBack true).failure = some code := by simp [tunnelBack, hs]
      exact honestOff_of_failure hfailure

theorem HonestOff.withCores {s : ServiceLoop C U T} (h : HonestOff s) {c : C}
    (hc : tun s.cores = false → tun c = false) : HonestOff { s with cores := c } :=
  fun hs ht => hc (h hs ht)

theorem honestOff_stillRuns {s : ServiceLoop C U T} (h : HonestOff s) (generation : Nat) :
    HonestOff (s.stillRuns generation).1 := by
  rcases s.stillRuns_fst generation with hs | hs <;> rw [hs]
  · exact h
  · exact h.withCores (tun_health _)

theorem honestOff_prepareAfresh (s : ServiceLoop C U T) (client : ClientIdentity)
    (generation : Nat) : HonestOff (s.prepareAfresh client generation).1 := by
  unfold prepareAfresh
  rcases hc : Cores.prepare s.cores client generation with ⟨c, code | endpoint⟩
  · exact honestOff_of_unprepared (by simp [hc])
  · have hdown : tun c = false := by
      have := tun_prepare s.cores client generation endpoint (by rw [hc])
      rwa [hc] at this
    simpa only [hc] using honestOff_tunnelBack (by exact hdown) s.tunOn

/-- Answering `prepare` keeps the flag honest. -/
theorem honestOff_prepare {s : ServiceLoop C U T} (h : HonestOff s) (client : ClientIdentity)
    (generation : Nat) : HonestOff (s.prepare client generation).1 := by
  have hrun := honestOff_stillRuns h generation
  unfold prepare
  rcases hr : s.stillRuns generation with ⟨t, _ | endpoint⟩
  · exact honestOff_prepareAfresh t client generation
  · simpa only [hr] using hrun

/-- A crashed core leaves the tunnel down or a failure behind. -/
theorem honestOff_crashed (s : ServiceLoop C U T) : HonestOff s.crashed := by
  unfold crashed
  dsimp only
  split
  · exact honestOff_of_failure rfl
  · rcases hc : Cores.restart (Cores.exits s.cores).1 with ⟨c, code | ⟨⟩⟩
    · exact honestOff_of_failure rfl
    · have hdown : tun c = false := by
        have := tun_restart (Cores.exits s.cores).1 (by rw [hc])
        rwa [hc] at this
      exact honestOff_tunnelBack hdown s.tunOn

theorem honestOff_tick {s : ServiceLoop C U T} (h : HonestOff s) : HonestOff s.tick := by
  unfold tick
  split
  · exact h
  · split
    · exact h
    · dsimp only
      split
      · exact h.withCores (tun_health _)
      · exact honestOff_crashed _

theorem honestOff_stopCores (s : ServiceLoop C U T) : HonestOff s.stopCores :=
  honestOff_of_unprepared rfl

theorem honestOff_stopEverything (s : ServiceLoop C U T) : HonestOff s.stopEverything :=
  honestOff_of_unprepared rfl

/-- A switch keeps the flag honest unless it is a switch-on whose rollback leaves the tunnel. -/
theorem honestOff_setTun_iff {s : ServiceLoop C U T} (h : HonestOff s) (on : Bool) :
    HonestOff (s.setTun on).1 ↔ ¬(on = true ∧ RollbackLeavesTunnel s) := by
  rcases s.setTun_cases on with ⟨hno, hs⟩ | ⟨hsw, ht, hs⟩ |
    ⟨hsw, ht, rfl, c, result, hc, ⟨rfl, hs⟩ | ⟨code, rfl, hs⟩⟩ |
    ⟨hsw, ht, rfl, c, result, hc, ⟨rfl, hs⟩ | ⟨code, rfl, hs⟩⟩ <;> rw [hs]
  · exact iff_of_true h fun hb => hno hb.2.1
  · refine iff_of_true h fun hb => ?_
    exact absurd (ht.symm.trans hb.2.2.1) (by simp [hb.1])
  · refine iff_of_true (fun _ ht' => absurd ht' (by simp)) fun hb => ?_
    rcases switchOnOrRollBack_cases s.cores with ⟨c', hon, -⟩ | ⟨c', code, -, hroll⟩
    · exact hb.2.2.2.1 (by rw [hon])
    · simp [hroll] at hc
  · rcases switchOnOrRollBack_cases s.cores with ⟨c', -, hroll⟩ | ⟨c', code', hon, hroll⟩
    · simp [hroll] at hc
    · obtain ⟨rfl, -⟩ : (Cores.setTun c' false).1 = c ∧ code' = code := by
        simpa [hroll] using hc
      constructor
      · rintro hdown ⟨-, -, -, -, hup⟩
        rw [hon] at hup
        exact absurd (hdown hsw rfl) (by simp [hup])
      · intro hb _ _
        by_contra hup
        exact hb ⟨rfl, hsw, ht, by simp [hon], by simpa [hon] using hup⟩
  · refine iff_of_true (fun _ _ => ?_) fun hb => absurd hb.1 (by simp)
    have := tun_setTun s.cores false (by rw [hc])
    rwa [hc] at this
  · refine iff_of_true (fun _ ht' => ?_) fun hb => absurd hb.1 (by simp)
    refine tun_tunIsOn c ?_
    cases hk : (Cores.tunIsOn c).2 with
    | none => simp [hk] at ht'
    | some known => simpa [hk] using ht'

end Switch

end ServiceLoop

section Truth

variable {C U T : Type*} [Cores C] [TunDevice C]

open ServiceLoop

/-- Whether the flag is honest depends on the session alone. -/
theorem honestOff_congr {s t : ServiceLoop C U T} (h : s.session = t.session) :
    HonestOff s ↔ HonestOff t := by
  obtain ⟨hc, -, hp, ht, -, hf⟩ := by simpa [session] using h
  simp [HonestOff, Switchable, hc, hp, ht, hf]

/-- The one section under the lock that can break the flag: a switch-on, by a client the service
serves, that leaves the tunnel up although it was refused and rolled back. -/
def LeavesTunnelBehind (s : ServiceLoop C U T) (e : Event U) : Prop :=
  ∃ connection client, e = .command connection client (.setTun true) ∧
    s.heldByOther client = false ∧ RollbackLeavesTunnel s

/-- One section under the lock decides exactly whether the flag stays honest. -/
theorem honestOff_effect_iff {s t : ServiceLoop C U T} {e : Event U} (h : HonestOff s)
    (he : Effect s e t.session) : HonestOff t ↔ ¬LeavesTunnelBehind s e := by
  generalize hx : t.session = x at he
  cases he with
  | frame e quiet =>
    rw [honestOff_congr hx]
    refine iff_of_true h ?_
    rintro ⟨connection, client, rfl, held, -⟩
    exact absurd (quiet client rfl) (by simp [held])
  | health connection client held =>
    rw [honestOff_congr hx]
    exact iff_of_true (h.withCores (tun_health _)) fun ⟨_, _, he, _⟩ => by cases he
  | diagnostics connection client held =>
    rw [honestOff_congr hx]
    exact iff_of_true (h.withCores (tun_diagnostics _)) fun ⟨_, _, he, _⟩ => by cases he
  | prepare connection client generation held =>
    rw [honestOff_congr hx]
    have hclaim : HonestOff (s.claim connection client) := h
    exact iff_of_true (honestOff_prepare hclaim client generation) fun ⟨_, _, he, _⟩ => by cases he
  | setTun connection client on held =>
    rw [honestOff_congr hx, honestOff_setTun_iff (s := s.claim connection client) h]
    refine not_congr ⟨?_, ?_⟩
    · rintro ⟨rfl, hb⟩
      exact ⟨connection, client, rfl, held, hb⟩
    · rintro ⟨connection', client', he, -, hb⟩
      cases he
      exact ⟨rfl, hb⟩
  | stop connection client engine held =>
    rw [honestOff_congr hx]
    exact iff_of_true (honestOff_stopCores _) fun ⟨_, _, he, _⟩ => by cases he
  | shutdown connection client held =>
    rw [honestOff_congr hx]
    exact iff_of_true (honestOff_stopEverything s) fun ⟨_, _, he, _⟩ => by cases he
  | updated index result =>
    rw [honestOff_congr hx]
    exact iff_of_true (honestOff_stopEverything s) fun ⟨_, _, he, _⟩ => by cases he
  | closed connection owned =>
    rw [honestOff_congr hx]
    exact iff_of_true (honestOff_stopEverything s) fun ⟨_, _, he, _⟩ => by cases he
  | stopping =>
    rw [honestOff_congr hx]
    exact iff_of_true (honestOff_stopEverything s) fun ⟨_, _, he, _⟩ => by cases he
  | tick =>
    rw [honestOff_congr hx]
    exact iff_of_true (honestOff_tick h) fun ⟨_, _, he, _⟩ => by cases he

variable [ServiceUpdater U] [Troubleshooter T]

/-- A switch-off that is answered with the tunnel off leaves the real tunnel off. -/
def TruthfulOff (logs : LogReader) (s : SharedService C U T) : Prop :=
  ∀ connection client, (s.handle logs (.command connection client (.setTun false))).2 =
      some (.tunState false) →
    tun (s.handle logs (.command connection client (.setTun false))).1.loop.cores = false

/-- Switch-offs are answered truthfully exactly where the flag is honest. -/
theorem truthfulOff_iff (logs : LogReader) (s : SharedService C U T) :
    TruthfulOff logs s ↔ HonestOff s.loop := by
  constructor
  · intro h hsw hoff
    -- The owner itself is never turned away; anybody is served where there is no owner.
    let client : ClientIdentity := ⟨(s.loop.owner.map Owner.userKey).getD "", "", 0, false⟩
    have held : s.loop.heldByOther client = false := by
      cases ho : s.loop.owner <;> simp [heldByOther, ho, client]
    have hset : (s.loop.claim ⟨0⟩ client).setTun false =
        (s.loop.claim ⟨0⟩ client, .tunState false) := by
      rcases (s.loop.claim ⟨0⟩ client).setTun_cases false with ⟨hno, -⟩ | ⟨-, -, hs⟩ |
        ⟨-, -, he, -⟩ | ⟨-, hon, -⟩
      · exact absurd hsw hno
      · exact hs
      · cases he
      · exact absurd (hoff.symm.trans hon) (by simp)
    have := h ⟨0⟩ client
    simp only [SharedService.handle, SharedService.executeShared, execute, held,
      Bool.false_eq_true, if_false, hset] at this
    exact this trivial
  · intro h connection client hanswer
    by_cases held : s.loop.heldByOther client = true
    · simp [SharedService.handle, SharedService.executeShared, execute, held] at hanswer
    · have held : s.loop.heldByOther client = false := by simpa using held
      have hclaim : HonestOff (s.loop.claim connection client) := h
      have hafter := (honestOff_setTun_iff hclaim false).mpr (by simp)
      simp only [SharedService.handle, SharedService.executeShared, execute, held,
        Bool.false_eq_true, if_false] at hanswer ⊢
      rcases (s.loop.claim connection client).setTun_cases false with ⟨-, hs⟩ | ⟨hsw, hoff, hs⟩ |
        ⟨-, -, he, -⟩ | ⟨hsw, -, -, c, result, hc, ⟨rfl, hs⟩ | ⟨code, rfl, hs⟩⟩
      · simp [hs] at hanswer
      · rw [hs]
        exact hclaim hsw hoff
      · cases he
      · rw [hs] at hafter ⊢
        exact hafter hsw rfl
      · simp [hs] at hanswer

/-- In every run of the service, a switch-off answered with the tunnel off tells the truth
wherever it is asked exactly when no refused and rolled back switch-on left the tunnel up. -/
theorem tunnel_off_truthful_iff (logs : LogReader) (cores : C) (updater : Option U)
    (progress : Option UpdateProgress) (troubleshooter : Option T) (directory : Option String)
    {es : List (Transition.Edge (SharedService C U T) (Event U))} {t : SharedService C U T}
    (hrun : SharedService.Run logs
      (SharedService.new cores updater progress troubleshooter directory) es t) :
    (∀ e ∈ es, TruthfulOff logs e.target) ↔
      ∀ e ∈ es, ¬LeavesTunnelBehind e.source.loop e.label := by
  simp only [truthfulOff_iff]
  refine hrun.forall_target_iff (I := fun s => HonestOff s.loop)
    (honestOff_of_unprepared rfl) fun {t e u} hi hs => ?_
  rw [← hs]
  exact honestOff_effect_iff hi (SharedService.handle_effect logs t e)

end Truth

section Scripted

/-- Cores whose switches follow a script: accepted, or refused with the tunnel left as given.
Every other call succeeds, and switches past the end of the script are accepted. -/
structure ScriptedCores where
  tun : Bool
  switches : List (Option Bool)
  deriving DecidableEq, Repr

instance : Cores ScriptedCores where
  prepare c _ _ := ({ c with tun := false }, .ok ⟨9090, "secret", 7890⟩)
  restart c := ({ c with tun := false }, .ok ())
  setTun c on :=
    match c.switches with
    | some left :: rest => (⟨left, rest⟩, .error .notReady)
    | none :: rest => (⟨on, rest⟩, .ok ())
    | [] => (⟨on, []⟩, .ok ())
  tunIsOn c := (c, some c.tun)
  health c := (c, ⟨true, true⟩)
  exits c := (c, [])
  stopAll c := { c with tun := false }
  diagnostics c := (c, ⟨.ready, .ready, .stopped, []⟩)

instance : TunDevice ScriptedCores where
  tun := ScriptedCores.tun
  tun_setTun := by
    rintro ⟨up, _ | ⟨_ | left, rest⟩⟩ on h
    · rfl
    · rfl
    · cases h
  tun_prepare _ _ _ _ _ := rfl
  tun_restart _ _ := rfl
  tun_stopAll _ := rfl
  tun_tunIsOn := by
    intro c h
    simpa [Cores.tunIsOn] using h
  tun_health _ h := h
  tun_exits _ h := h
  tun_diagnostics _ h := h

/-- A service without an updater. -/
instance : ServiceUpdater Empty where
  prepare u := nomatch u
  begin u := nomatch u

/-- A troubleshooter whose fixes all succeed. -/
structure AllDone where
  deriving DecidableEq, Repr

instance : Troubleshooter AllDone where
  run _ fixes := fixes.map fun _ => .done

/-- A log reader with empty logs. -/
def emptyLogs : LogReader where
  readChunk _ _ _ := (0, 0, "")
  readCoreJournal _ _ _ _ := ("", none)

/-- A service over scripted cores. -/
def scripted (switches : List (Option Bool)) : SharedService ScriptedCores Empty AllDone :=
  SharedService.new ⟨false, switches⟩ none none (some ⟨⟩) none

/-- An administrator of the user `alice`. -/
def alice : ClientIdentity := ⟨"alice", "/home/alice", 1000, true⟩

/-- The service over scripted cores along given events. -/
abbrev scriptedTrace (switches : List (Option Bool)) (events : List (Event Empty)) :
    List (Transition.Edge (SharedService ScriptedCores Empty AllDone) (Event Empty)) :=
  Transition.trace (fun s e => (s.handle emptyLogs e).1) (scripted switches) events

/-- A switch-on is refused and its rollback too, both with the tunnel left up; the next
switch-off finds a clear flag. -/
def rollbackFails : List (Event Empty) :=
  [.command ⟨1⟩ alice (.prepare 1), .command ⟨1⟩ alice (.setTun true),
    .command ⟨1⟩ alice (.setTun false)]

/-- After a failed switch-on and a failed rollback, the answer to a switch-off says off while the
real tunnel is up. -/
theorem tunnel_off_untruthful :
    ∃ es t, SharedService.Run emptyLogs (scripted [some true, some true]) es t ∧
      ∃ e ∈ es, e.label = .command ⟨1⟩ alice (.setTun false) ∧
        (e.source.handle emptyLogs e.label).2 = some (.tunState false) ∧
        TunDevice.tun e.target.loop.cores = true :=
  ⟨scriptedTrace [some true, some true] rollbackFails, _, Transition.run_trace _ _ _,
    (scriptedTrace [some true, some true] rollbackFails)[2], by simp [scriptedTrace], rfl, rfl, rfl⟩

theorem tunnel_off_truthful_scripted :
    (∀ e ∈ scriptedTrace [] rollbackFails, TruthfulOff emptyLogs e.target) ↔
      ∀ e ∈ scriptedTrace [] rollbackFails, ¬LeavesTunnelBehind e.source.loop e.label :=
  tunnel_off_truthful_iff emptyLogs _ _ _ _ _ (Transition.run_trace _ _ rollbackFails)

end Scripted

end MultiCore.Service
