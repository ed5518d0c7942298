import MultiCore.Backend.Runs

/-!
# Disconnect and Quit are final

A Disconnect that was answered with success leaves the daemon disconnected
unless a reconnect is left behind, and once `shutdown_cores` has returned no
core is started unless it returns before whoever may still start one.
-/

namespace MultiCore.Backend

open Cooperative Daemon Transition

section Runs

variable {ι : Type} [DecidableEq ι] {store : ProfileStore} {loaded : Bool}
  {saved : List (Option String)} {es : List (Step ι)}
  {d : Config ι Request Place Ask Reply (CoreBackend ι) Response}

/-- What holds of a live state is that a connection is coming up or is up. -/
theorem CoreRuntime.live_eq_false {r : CoreRuntime} :
    r.live = false ↔ r.state ≠ .connecting ∧ r.state ≠ .connected := by
  simp [CoreRuntime.live]

/-- Nothing but the finality of a Disconnect. -/
def Aims.final : Aims := { Aims.none with finality := True }

/-- A step that leaves no reconnect is granted by the contract. -/
theorem granted_final {e : Step ι} (h : e.Avoids LeavesNoReconnect) :
    Granted (daemon ι) (contracts .final) (fun _ _ => True) e := by
  refine granted_of_places (fun h => h) rfl fun i kind place hlabel => ?_
  rw [Step.Avoids, hlabel] at h
  exact ⟨False.elim, False.elim, fun _ => h, False.elim, False.elim, False.elim⟩

/-- A Disconnect is final in every run in which none leaves a reconnect behind. -/
theorem disconnect_final (hrun : (daemon ι).Run (atOpening store loaded saved) es d)
    (h : ∀ e ∈ es, e.Avoids LeavesNoReconnect) :
    ∀ e ∈ es, e.target.shared.final = true →
      e.target.shared.runtime.state ≠ .connecting ∧ e.target.shared.runtime.state ≠ .connected := by
  intro e he hfinal
  have hsound := sound_targets .final (by rintro ⟨⟩) hrun
    (fun e he => granted_final (h e he)) e he
  exact CoreRuntime.live_eq_false.mp (hsound.finality trivial hfinal).live

/-- Nothing but the finality of Quit. -/
def Aims.quitting : Aims := { Aims.none with quit := True }

/-- A step that returns last is granted by the contract. -/
theorem granted_quitting {e : Step ι} (h : e.Avoids ReturnsLast) :
    Granted (daemon ι) (contracts .quitting) (fun _ _ => True) e := by
  refine granted_of_places (fun h => h) rfl fun i kind place hlabel => ?_
  rw [Step.Avoids, hlabel] at h
  exact ⟨False.elim, False.elim, False.elim, fun _ => h, False.elim, False.elim⟩

/-- A step that starts no core and brings no connection up. -/
structure Step.Quiet (e : Step ι) : Prop where
  starts : ∀ i kind controller engine, e.label ≠ .asked i kind (.start controller engine)
  enters : e.target.shared.runtime.state = .connecting ∨ e.target.shared.runtime.state = .connected →
    e.target.shared.runtime.state = e.source.shared.runtime.state

/-- Whoever is not past its look at `shutDown` brings no connection up. -/
theorem enters_of_guar {aims : Aims} {i : ι} {s t : CoreBackend ι} (hguar : Guar aims i s t)
    (hpast : s.past i = false) (hlive : t.runtime.state = .connecting ∨ t.runtime.state = .connected) :
    t.runtime.state = s.runtime.state := by
  have hlive : t.runtime.live = true := by
    rcases hlive with h | h <;> simp [CoreRuntime.live, h]
  rcases hguar.enters hlive with hsame | hentitled
  · exact hsame
  · simp [Mine.entitled, CoreBackend.mine, hpast] at hentitled

/-- Quit is final in every run in which `shutdown_cores` returns last. -/
theorem quit_final (hrun : (daemon ι).Run (atOpening store loaded saved) es d)
    (h : ∀ e ∈ es, e.Avoids ReturnsLast) :
    ∀ e ∈ es, e.source.shared.quit = true → e.Quiet := by
  intro e he hquit
  have hgranted := fun e he => granted_quitting (h e he)
  obtain ⟨hstep, hsafe⟩ := safe_sources .quitting (by rintro ⟨⟩) hrun hgranted e he
  have hpast := (hsafe.inv.quit trivial hquit).2
  have hgrant := hgranted e he
  obtain ⟨source, label, target⟩ := e
  dsimp only at hstep hquit hpast
  constructor
  · rintro i kind controller engine rfl
    have hasks := hsafe.asks daemon_fits hstep
    rw [contracts, Aims.of_eq rfl] at hasks
    rw [hasks trivial rfl] at hquit
    cases hquit
  · cases label with
    | ran i kind place => exact enters_of_guar (hsafe.ran daemon_fits hstep hgrant) (hpast i)
    | answered i kind question answer =>
      exact enters_of_guar (hsafe.answered daemon_fits hstep hgrant) (hpast i)
    | began i kind =>
      cases hstep with
      | began i kind free may =>
        have hrecorded := recorded_begun (hsafe.idle i free) may
        exact fun _ => by
          show (source.shared.begun i kind).runtime.state = _
          rw [hrecorded.runtime]
    | asked i kind question =>
      cases hstep
      exact fun _ => rfl
    | finished i kind result =>
      cases hstep
      exact fun _ => rfl
    | changed change =>
      cases hstep with
      | changed change s given =>
        cases change
        cases given
        exact fun _ => rfl

end Runs

section Examples

/-- A subscription of one group. -/
def subscription (source : Option Link) : Snapshot :=
  ⟨source, "mihomo", "xray", [⟨"group", ["first", "second"], [true, true], false⟩]⟩

/-- The revision of a store's first generation. -/
def firstRevision : ℕ+ := 1

/-- The revision after it. -/
def secondRevision : ℕ+ := 2

/-- The one profile is the active one. -/
theorem mem_of_active {id : ProfileId} (active : some 7 = some id) : id ∈ [(7 : ProfileId)] := by
  simpa using active.symm

/-- A store with one profile. -/
def oneProfile : ProfileStore where
  profiles := [7]
  active := some 7
  generation := Function.update (fun _ => none) 7 (some ⟨firstRevision, subscription none⟩)
  unread _ := false
  listed _ := mem_of_active

/-- A Disconnect that finds no connection. -/
def disconnectingReady {ι : Type} [DecidableEq ι] (i : ι) : List (DaemonMove ι) :=
  [[.begin i .disconnect], Move.goOn i 6].flatten

/-- The watcher stops a connection that was lost; a reconnect is pending after that. -/
def losing (i : Nat) (generation : Generation) : List (DaemonMove Nat) :=
  [[.begin i .watch], Move.goOn i 2, answered i .connectionLost true, [.go i],
    answered i .connectionLost true, [.go i], coresStopped i generation.snapshot .default,
    answered i .cooledDown true, [.go i], reconciling i 7 generation, Move.goOn i 2].flatten

/-- The watcher takes the pending reconnect. -/
def takingReconnect (i : Nat) : List (DaemonMove Nat) :=
  [[.begin i .watch], Move.goOn i 3].flatten

/-- The watcher makes the connection of the reconnect it took. -/
def reconnecting (i : Nat) (snapshot : Snapshot) : List (DaemonMove Nat) :=
  [answered i .serviceAvailable true, Move.goOn i 7,
    coresStarted i snapshot { ConnectOptions.default with serviceOnly := true },
    Move.goOn i 3].flatten

/-- The cores are lost; the watcher takes the reconnect; a Disconnect finds Ready and is answered
with success; then the watcher reconnects. -/
theorem disconnect_not_final :
    ∃ es d, (daemon Nat).Run (atOpening oneProfile true [none]) es d ∧
      d.shared.final = true ∧ d.shared.runtime.state = .connected := by
  obtain ⟨es, d, hrun, hd⟩ := (daemon Nat).exists_run (atOpening oneProfile true [none])
    [readinessOn 0, connecting 0 (subscription none) .default, losing 1 ⟨1, subscription none⟩,
      takingReconnect 1, disconnectingReady 2, reconnecting 1 (subscription none)].flatten
    (fun _ d => d.shared.final && d.shared.runtime.state == .connected) rfl
  simp only [Bool.and_eq_true, beq_iff_eq] at hd
  exact ⟨es, d, hrun, hd⟩

instance {n : Nat} (place : Place) (s : CoreBackend (Fin n)) :
    Decidable (LeavesNoReconnect place s) := by
  cases place <;> (try rename_i ok; cases ok) <;> unfold LeavesNoReconnect <;> infer_instance

instance {n : Nat} (place : Place) (s : CoreBackend (Fin n)) : Decidable (ReturnsLast place s) := by
  cases place <;> unfold ReturnsLast <;> infer_instance

instance {n : Nat} (p : Place → CoreBackend (Fin n) → Prop) [∀ place s, Decidable (p place s)]
    (e : Step (Fin n)) : Decidable (e.Avoids p) := by
  obtain ⟨source, label, target⟩ := e
  cases label <;> unfold Step.Avoids <;> infer_instance

/-- A Connect and a Disconnect, with nothing else under way. -/
theorem disconnect_final_connected :
    ∃ es d, (daemon (Fin 2)).Run (atOpening oneProfile true [none]) es d ∧
      d.shared.final = true ∧ ∀ e ∈ es, e.target.shared.final = true →
        e.target.shared.runtime.state ≠ .connecting ∧
          e.target.shared.runtime.state ≠ .connected := by
  obtain ⟨es, d, hrun, hd⟩ := (daemon (Fin 2)).exists_run (atOpening oneProfile true [none])
    (connecting 0 (subscription none) .default ++
      disconnecting 1 7 ⟨1, subscription none⟩ .default)
    (fun es d => d.shared.final && es.all fun e => decide (Step.Avoids LeavesNoReconnect e))
    rfl
  obtain ⟨hfinal, hall⟩ := Bool.and_eq_true_iff.mp hd
  refine ⟨es, d, hrun, hfinal, disconnect_final hrun fun e he => ?_⟩
  exact of_decide_eq_true (List.all_eq_true.mp hall e he)

/-- A warm-up that is about to start the idle cores. -/
def warming {ι : Type} [DecidableEq ι] (i : ι) (snapshot : Snapshot) : List (DaemonMove ι) :=
  [[.begin i .watch], Move.goOn i 3, answered i .serviceAvailable true, [.go i],
    answered i .serviceAvailable true, answered i .coresReady false, Move.goOn i 3,
    answered i (.prepare snapshot { ConnectOptions.default with warmUp := true }) true,
    answered i (.publish ⟨snapshot, { ConnectOptions.default with warmUp := true }⟩) true,
    Move.goOn i 2].flatten

/-- Quit from Ready. -/
def quitting {ι : Type} [DecidableEq ι] (i : ι) : List (DaemonMove ι) :=
  [[.begin i .shutDown], Move.goOn i 5, answered i .release (), [.go i]].flatten

/-- A core is about to be started. -/
def startsCore {ι : Type} [DecidableEq ι] (e : Step ι) : Bool :=
  match e.label with
  | .asked _ _ (.start _ _) => true
  | _ => false

/-- A warm-up that has looked at `shutDown` starts the idle cores after Quit. -/
theorem quit_not_final :
    ∃ es d, (daemon Nat).Run (atOpening oneProfile true [none]) es d ∧
      ∃ e ∈ es, e.source.shared.quit = true ∧ ¬ Step.Quiet e := by
  obtain ⟨es, d, hrun, hd⟩ := (daemon Nat).exists_run (atOpening oneProfile true [none])
    [readinessOn 0, warming 1 (subscription none), quitting 2, [.go 1]].flatten
    (fun es _ => es.any fun e => e.source.shared.quit && startsCore e) rfl
  obtain ⟨e, he, hlie⟩ := List.any_eq_true.mp hd
  obtain ⟨hquit, hasked⟩ := Bool.and_eq_true_iff.mp hlie
  refine ⟨es, d, hrun, e, he, hquit, fun hquiet => ?_⟩
  unfold startsCore at hasked
  split at hasked
  · rename_i i kind controller engine hlabel
    exact hquiet.starts i kind controller engine hlabel
  · cases hasked

/-- A warm-up begun before Quit starts the idle cores while Quit is under way, and ends before Quit
returns; a Disconnect comes after that. -/
theorem quit_final_warmingUp :
    ∃ es d, (daemon (Fin 2)).Run (atOpening oneProfile true [none]) es d ∧
      (∃ e ∈ es, e.source.shared.shutDown = true ∧ startsCore e = true) ∧
      d.shared.quit = true ∧ ∀ e ∈ es, e.source.shared.quit = true → Step.Quiet e := by
  obtain ⟨es, d, hrun, hd⟩ := (daemon (Fin 2)).exists_run (atOpening oneProfile true [none])
    [readinessOn 0, warming 1 (subscription none), [.begin 0 .shutDown], Move.goOn 0 5,
      answered 1 (.start ⟨subscription none, { ConnectOptions.default with warmUp := true }⟩ .xray)
        ⟨.ok (), true⟩,
      Move.goOn 1 2, answered 0 .release (), Move.goOn 0 2, disconnectingReady 1].flatten
    (fun es d => es.any (fun e => e.source.shared.shutDown && startsCore e) && d.shared.quit &&
      es.all fun e => decide (Step.Avoids ReturnsLast e))
    rfl
  simp only [Bool.and_eq_true] at hd
  obtain ⟨⟨hany, hquit⟩, hall⟩ := hd
  obtain ⟨e, he, hstarts⟩ := List.any_eq_true.mp hany
  refine ⟨es, d, hrun, ⟨e, he, Bool.and_eq_true_iff.mp hstarts⟩, hquit,
    quit_final hrun fun e he => ?_⟩
  exact of_decide_eq_true (List.all_eq_true.mp hall e he)

end Examples

end MultiCore.Backend
