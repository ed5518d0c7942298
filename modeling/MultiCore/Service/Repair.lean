import MultiCore.Service.Tunnel

/-!
# Repairs next to a running tunnel

A batch that reinstalls the Wintun adapter is refused while the tunnel is on,
and then runs outside the lock. Only a switch-on can raise the flag meanwhile:
preparations and health ticks bring back a tunnel that was on before, and it
was not.
-/

namespace MultiCore.Service

section Repair

variable {C U T : Type*}

namespace SharedService

/-- A batch that reinstalls the Wintun adapter is running outside the lock. -/
def Reinstalling (s : SharedService C U T) : Prop :=
  ∃ client fixes, .troubleshoot client fixes ∈ s.running ∧ PrivilegedFix.reinstallWintun ∈ fixes

/-- The adapter is reinstalled under a tunnel that is on. -/
def ReinstallUnderTunnel (s : SharedService C U T) : Prop :=
  s.Reinstalling ∧ s.loop.tunOn = true

end SharedService

variable [Cores C]

/-- A switch-on that the cores accept. -/
def AcceptedSwitchOn (s : ServiceLoop C U T) (e : Event U) : Prop :=
  ∃ connection client, e = .command connection client (.setTun true) ∧
    s.heldByOther client = false ∧ s.Switchable ∧ (Cores.setTun s.cores true).2 = .ok ()

namespace ServiceLoop

/-- Only a tunnel that was on is switched back on. -/
theorem tunOn_tunnelBack {s : ServiceLoop C U T} {tunnel : Bool}
    (h : (s.tunnelBack tunnel).tunOn = true) : tunnel = true ∨ s.tunOn = true := by
  cases tunnel with
  | true => exact .inl rfl
  | false => exact .inr h

theorem tunOn_prepareAfresh {s : ServiceLoop C U T} {client : ClientIdentity} {generation : Nat}
    (h : (s.prepareAfresh client generation).1.tunOn = true) : s.tunOn = true := by
  unfold prepareAfresh at h
  rcases hc : Cores.prepare s.cores client generation with ⟨c, code | endpoint⟩
  · simp [hc] at h
  · simp only [hc] at h
    rcases tunOn_tunnelBack h with ht | ht
    · exact ht
    · simp at ht

theorem tunOn_prepare {s : ServiceLoop C U T} {client : ClientIdentity} {generation : Nat}
    (h : (s.prepare client generation).1.tunOn = true) : s.tunOn = true := by
  have hkept : (s.stillRuns generation).1.tunOn = s.tunOn := by
    rcases s.stillRuns_fst generation with hs | hs <;> rw [hs]
  unfold prepare at h
  rcases hr : s.stillRuns generation with ⟨t, _ | endpoint⟩ <;> rw [hr] at h hkept
  · exact hkept ▸ tunOn_prepareAfresh h
  · exact hkept ▸ h

theorem tunOn_crashed {s : ServiceLoop C U T} (h : s.crashed.tunOn = true) : s.tunOn = true := by
  unfold crashed at h
  dsimp only at h
  split at h
  · simp at h
  · rcases hc : Cores.restart (Cores.exits s.cores).1 with ⟨c, code | ⟨⟩⟩ <;> simp only [hc] at h
    · simp at h
    · rcases tunOn_tunnelBack h with ht | ht
      · exact ht
      · simp at ht

theorem tunOn_tick {s : ServiceLoop C U T} (h : s.tick.tunOn = true) : s.tunOn = true := by
  unfold tick at h
  split at h
  · exact h
  · split at h
    · exact h
    · dsimp only at h
      split at h
      · exact h
      · have := tunOn_crashed h
        exact this

/-- A switch that ends with the tunnel on found it on, or is a switch-on the cores accepted. -/
theorem tunOn_setTun {s : ServiceLoop C U T} {on : Bool} (h : (s.setTun on).1.tunOn = true) :
    s.tunOn = true ∨ on = true ∧ s.Switchable ∧ (Cores.setTun s.cores true).2 = .ok () := by
  rcases s.setTun_cases on with ⟨-, hs⟩ | ⟨-, -, hs⟩ |
    ⟨hsw, -, rfl, c, result, hc, ⟨rfl, hs⟩ | ⟨code, rfl, hs⟩⟩ | ⟨-, hon, -⟩
  · exact .inl (by simpa [hs] using h)
  · exact .inl (by simpa [hs] using h)
  · refine .inr ⟨rfl, hsw, ?_⟩
    rcases switchOnOrRollBack_cases s.cores with ⟨c', hon, -⟩ | ⟨c', code, -, hroll⟩
    · rw [hon]
    · simp [hroll] at hc
  · simp [hs] at h
  · exact .inl hon

/-- An accepted switch-on raises the flag. -/
theorem tunOn_setTun_of_accepted {s : ServiceLoop C U T} (hsw : s.Switchable)
    (hon : (Cores.setTun s.cores true).2 = .ok ()) : (s.setTun true).1.tunOn = true := by
  rcases s.setTun_cases true with ⟨hno, -⟩ | ⟨-, ht, hs⟩ |
    ⟨-, -, -, c, result, hc, ⟨-, hs⟩ | ⟨code, rfl, -⟩⟩ | ⟨-, -, he, -⟩
  · exact absurd hsw hno
  · rw [hs]
    exact ht
  · rw [hs]
  · rcases switchOnOrRollBack_cases s.cores with ⟨c', -, hroll⟩ | ⟨c', code', herr, -⟩
    · simp [hroll] at hc
    · simp [herr] at hon
  · cases he

end ServiceLoop

open ServiceLoop

/-- A section under the lock that ends with the tunnel on found it on, or is an accepted
switch-on. -/
theorem tunOn_effect {s t : ServiceLoop C U T} {e : Event U} (he : Effect s e t.session)
    (h : t.tunOn = true) : s.tunOn = true ∨ AcceptedSwitchOn s e := by
  have hx : t.session.tunOn = true := h
  generalize t.session = x at he hx
  cases he with
  | frame e quiet => exact .inl hx
  | health connection client held => exact .inl hx
  | diagnostics connection client held => exact .inl hx
  | prepare connection client generation held =>
    have hprep := tunOn_prepare (s := s.claim connection client) hx
    exact .inl hprep
  | setTun connection client on held =>
    rcases tunOn_setTun (s := s.claim connection client) hx with ht | ⟨rfl, hsw, hon⟩
    · exact .inl ht
    · exact .inr ⟨connection, client, rfl, held, hsw, hon⟩
  | stop connection client engine held => cases hx
  | shutdown connection client held => cases hx
  | updated index result => cases hx
  | closed connection owned => cases hx
  | stopping => cases hx
  | tick => exact .inl (tunOn_tick hx)

namespace SharedService

variable [ServiceUpdater U] [Troubleshooter T]

omit [Cores C] [ServiceUpdater U] [Troubleshooter T] in
/-- A batch that reinstalls the adapter is let in with the tunnel off. -/
theorem startTroubleshoot_admitted {s loop : ServiceLoop C U T} {client : ClientIdentity}
    {fixes : List PrivilegedFix} {troubleshooter : T}
    (h : s.startTroubleshoot client fixes = (loop, .ok troubleshooter))
    (hfix : .reinstallWintun ∈ fixes) : loop.tunOn = false := by
  unfold startTroubleshoot at h
  repeat' split at h
  all_goals cases h
  rename_i hoff _ _
  simpa [hfix] using hoff

omit [Cores C] [ServiceUpdater U] [Troubleshooter T] in
theorem reinstalling_beginUpdate {s : SharedService C U T} {client : ClientIdentity}
    {version : String} {stageOnly : Bool}
    (h : (s.beginUpdate client version stageOnly).1.Reinstalling) : s.Reinstalling := by
  unfold beginUpdate at h
  split at h
  · exact h
  · obtain ⟨client', fixes, hmem, hfix⟩ := h
    exact ⟨client', fixes, by simpa using hmem, hfix⟩

omit [Cores C] [ServiceUpdater U] [Troubleshooter T] in
theorem reinstalling_beginTroubleshoot {s : SharedService C U T} {client : ClientIdentity}
    {fixes : List PrivilegedFix} (h : (s.beginTroubleshoot client fixes).1.Reinstalling) :
    s.Reinstalling ∨ (s.beginTroubleshoot client fixes).1.loop.tunOn = false := by
  unfold beginTroubleshoot at h ⊢
  rcases hs : s.loop.startTroubleshoot client fixes with ⟨loop, response | troubleshooter⟩ <;>
    simp only [hs] at h ⊢
  · exact .inl h
  · obtain ⟨client', fixes', hmem, hfix⟩ := h
    rcases List.mem_append.mp hmem with hmem | hmem
    · exact .inl ⟨client', fixes', hmem, hfix⟩
    · obtain ⟨-, rfl⟩ : client' = client ∧ fixes' = fixes := by simpa using hmem
      exact .inr (startTroubleshoot_admitted hs hfix)

omit [Troubleshooter T] in
theorem reinstalling_finishShared {s : SharedService C U T} {index : Nat} {result : SlowResult U}
    (h : (s.finishShared index result).1.Reinstalling) : s.Reinstalling := by
  obtain ⟨client, fixes, hmem, hfix⟩ := h
  refine ⟨client, fixes, ?_, hfix⟩
  unfold finishShared at hmem
  split at hmem
  · exact List.mem_of_mem_eraseIdx hmem
  · exact List.mem_of_mem_eraseIdx hmem
  · exact hmem

/-- A batch that reinstalls the adapter was running before, or has just been let in with the
tunnel off. -/
theorem reinstalling_handle (logs : LogReader) {s : SharedService C U T} {e : Event U}
    (h : (s.handle logs e).1.Reinstalling) :
    s.Reinstalling ∨ (s.handle logs e).1.loop.tunOn = false := by
  cases e with
  | command connection client command =>
    cases command with
    | update version => exact .inl (reinstalling_beginUpdate h)
    | stageUpdate version => exact .inl (reinstalling_beginUpdate h)
    | troubleshoot fixes => exact reinstalling_beginTroubleshoot h
    | _ => exact .inl h
  | finish index result => exact .inl (reinstalling_finishShared h)
  | _ => exact .inl h

theorem reinstalling_switch (logs : LogReader) (s : SharedService C U T)
    (connection : ConnectionId) (client : ClientIdentity) (on : Bool) :
    (s.handle logs (.command connection client (.setTun on))).1.Reinstalling ↔
      s.Reinstalling := Iff.rfl

/-- One section under the lock keeps repairs and tunnel apart unless it is a switch-on that the
cores accept while the adapter is being reinstalled. -/
theorem apart_handle_iff (logs : LogReader) {s : SharedService C U T} (e : Event U)
    (h : ¬s.ReinstallUnderTunnel) :
    ¬(s.handle logs e).1.ReinstallUnderTunnel ↔ ¬(s.Reinstalling ∧ AcceptedSwitchOn s.loop e) := by
  refine not_congr ⟨?_, ?_⟩
  · rintro ⟨hre, ht⟩
    have hbefore : s.Reinstalling :=
      (reinstalling_handle logs hre).resolve_right (by simp [ht])
    rcases tunOn_effect (handle_effect logs s e) ht with hon | haccepted
    · exact absurd ⟨hbefore, hon⟩ h
    · exact ⟨hbefore, haccepted⟩
  · rintro ⟨hre, connection, client, rfl, held, hsw, hon⟩
    refine ⟨(reinstalling_switch logs s connection client true).mpr hre, ?_⟩
    have hset := tunOn_setTun_of_accepted (s := s.loop.claim connection client) hsw hon
    simpa [handle, executeShared, execute, held] using hset

/-- In every run of the service, the adapter is never being reinstalled under a tunnel that is on
exactly when the cores accept no switch-on while it is being reinstalled. -/
theorem reinstall_apart_iff (logs : LogReader) (cores : C) (updater : Option U)
    (progress : Option UpdateProgress) (troubleshooter : Option T) (directory : Option String)
    {es : List (Transition.Edge (SharedService C U T) (Event U))} {t : SharedService C U T}
    (hrun : Run logs (new cores updater progress troubleshooter directory) es t) :
    (∀ e ∈ es, ¬e.target.ReinstallUnderTunnel) ↔
      ∀ e ∈ es, ¬(e.source.Reinstalling ∧ AcceptedSwitchOn e.source.loop e.label) := by
  refine hrun.forall_target_iff (I := fun s => ¬s.ReinstallUnderTunnel) ?_ fun {t e u} hi hs => ?_
  · rintro ⟨-, ht⟩
    cases ht
  · rw [← hs]
    exact apart_handle_iff logs e hi

end SharedService

end Repair

section Scripted

/-- One connection of `alice` has the adapter reinstalled while another switches the tunnel on. -/
def switchDuringRepair : List (Event Empty) :=
  [.command ⟨1⟩ alice (.prepare 1), .command ⟨2⟩ alice (.troubleshoot [.reinstallWintun]),
    .command ⟨1⟩ alice (.setTun true)]

/-- A switch-on is answered while a batch that reinstalls the adapter runs. -/
theorem reinstall_under_tunnel :
    ∃ es t, SharedService.Run emptyLogs (scripted []) es t ∧ t.ReinstallUnderTunnel :=
  ⟨_, _, Transition.run_trace _ (scripted []) switchDuringRepair,
    ⟨alice, [.reinstallWintun], List.mem_singleton_self _, by simp⟩, rfl⟩

theorem reinstall_apart_switchDuringRepair :
    (∀ e ∈ scriptedTrace [] switchDuringRepair, ¬e.target.ReinstallUnderTunnel) ↔
      ∀ e ∈ scriptedTrace [] switchDuringRepair,
        ¬(e.source.Reinstalling ∧ AcceptedSwitchOn e.source.loop e.label) :=
  SharedService.reinstall_apart_iff emptyLogs _ _ _ _ _
    (Transition.run_trace _ _ switchDuringRepair)

end Scripted

end MultiCore.Service
