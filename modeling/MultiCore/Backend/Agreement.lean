import MultiCore.Backend.Finality

/-!
# The runtime, the store and the state of the connection

Whenever the operation lock is free the runtime agrees with the store unless an
operation ended early where it falls behind, and the connection has no dead end
unless an error is recorded without a controller.
-/

namespace MultiCore.Backend

open Cooperative Daemon Transition

section Runs

variable {ι : Type} [DecidableEq ι] {store : ProfileStore} {loaded : Bool}
  {saved : List (Option String)} {es : List (Step ι)}
  {d : Config ι Request Place Ask Reply (CoreBackend ι) Response}

/-- Nothing but the agreement of the runtime with the store. -/
def Aims.agreeing : Aims := { Aims.none with agreement := True }

/-- A step that keeps up is granted by the contract. -/
theorem granted_agreeing {e : Step ι} (h : e.Avoids KeepsUp) :
    Granted (daemon ι) (contracts .agreeing) (fun _ _ => True) e := by
  refine granted_of_places (fun h => h) rfl fun i kind place hlabel => ?_
  rw [Step.Avoids, hlabel] at h
  exact ⟨fun _ => h, False.elim, False.elim, False.elim, False.elim, False.elim⟩

/-- Whenever the operation lock is free the runtime agrees with the store, in every run in which no
operation ends early where it falls behind. -/
theorem runtime_agrees (hrun : (daemon ι).Run (atOpening store loaded saved) es d)
    (h : ∀ e ∈ es, e.Avoids KeepsUp) :
    ∀ e ∈ es, e.target.shared.operation = none →
      Agrees e.target.shared.runtime e.target.shared.store := by
  intro e he hfree
  have hsound := sound_targets .agreeing (by rintro ⟨⟩) hrun
    (fun e he => granted_agreeing (h e he)) e he
  exact hsound.agreement trivial hfree

/-- Nothing but the coherence of the connection's state. -/
def Aims.coherent : Aims := { Aims.none with coherence := True }

/-- A step that keeps the controller is granted by the contract. -/
theorem granted_coherent {e : Step ι} (h : e.Avoids KeepsController) :
    Granted (daemon ι) (contracts .coherent) (fun _ _ => True) e := by
  refine granted_of_places (fun h => h) rfl fun i kind place hlabel => ?_
  rw [Step.Avoids, hlabel] at h
  exact ⟨False.elim, fun _ => h, False.elim, False.elim, False.elim, False.elim⟩

/-- The connection has no dead end: its state is coherent, and a Disconnect whose stop of the cores
did not fail ends where changes of profiles and, with a snapshot, Connect are accepted. -/
structure Step.Open (e : Step ι) : Prop where
  coherent : Coherent e.target.shared.runtime
  accepting : ∀ i kind, e.label = .ran i kind (.disconnected false) →
    Accepting e.source.shared.runtime ∧ e.source.shared.runtime.acceptsMutation = true

/-- There is no dead end in any run in which no error is recorded without a controller. -/
theorem no_dead_end (hrun : (daemon ι).Run (atOpening store loaded saved) es d)
    (h : ∀ e ∈ es, e.Avoids KeepsController) : ∀ e ∈ es, e.Open := by
  intro e he
  have hgranted := fun e he => granted_coherent (h e he)
  have hsound := sound_targets .coherent (by rintro ⟨⟩) hrun hgranted e he
  obtain ⟨hstep, hsafe⟩ := safe_sources .coherent (by rintro ⟨⟩) hrun hgranted e he
  have hgrant := hgranted e he
  obtain ⟨source, label, target⟩ := e
  dsimp only at hstep
  refine ⟨hsound.coherence trivial, ?_⟩
  rintro i kind rfl
  have hshows := hsafe.shows daemon_fits hstep hgrant
  rw [contracts, Aims.of_eq rfl] at hshows
  have haccepting : Accepting source.shared.runtime := hshows trivial
  exact ⟨haccepting, haccepting.acceptsMutation⟩

end Runs

section Examples

/-- Where the subscription is downloaded from. -/
def subscriptionLink : Link := Link.of "https://example.org/a"

/-- A store with one profile that has a link. -/
def oneLink : ProfileStore where
  profiles := [7]
  active := some 7
  generation := Function.update (fun _ => none) 7
    (some ⟨firstRevision, subscription (some subscriptionLink)⟩)
  unread _ := false
  listed _ := mem_of_active

/-- The subscription as it was first downloaded. -/
def firstGeneration : Generation := ⟨firstRevision, subscription (some subscriptionLink)⟩

/-- What a later download finds. -/
def secondGeneration : Generation :=
  ⟨secondRevision, { subscription (some subscriptionLink) with mihomo := "changed" }⟩

/-- A refresh of the profile in Ready, up to the selections that are carried forward. -/
def refreshing {ι : Type} [DecidableEq ι] (i : ι) : List (DaemonMove ι) :=
  [[.begin i (.refreshSubscriptionProfile 7)], Move.goOn i 2,
    answered i (.store (.load 7)) (.ok firstGeneration),
    answered i (.fetch subscriptionLink) (some secondGeneration.snapshot), Move.goOn i 2,
    answered i (.store (.load 7)) (.ok firstGeneration),
    answered i (.store (.load 7)) (.ok firstGeneration), Move.goOn i 3,
    answered i (.prepare secondGeneration.snapshot .default) false, [.go i],
    answered i (.store (.replace 7 secondGeneration.snapshot)) (.ok secondRevision)].flatten

/-- A refresh stores the new generation, cannot carry the selections forward and ends. -/
theorem runtime_disagrees :
    ∃ es d, (daemon Nat).Run (atOpening oneLink true [none]) es d ∧
      d.shared.operation = none ∧ ¬ Agrees d.shared.runtime d.shared.store := by
  obtain ⟨es, d, hrun, hd⟩ := (daemon Nat).exists_run (atOpening oneLink true [none])
    [refreshing 0, answered 0 (.store (.carryForward 7 firstGeneration secondGeneration)) false,
      Move.goOn 0 3].flatten
    (fun _ d => d.shared.operation.isNone && !decide (Agrees d.shared.runtime d.shared.store))
    rfl
  simpa using ⟨es, d, hrun, by simpa using hd⟩

instance {ι : Type} (place : Place) (s : CoreBackend ι) : Decidable (KeepsUp place s) :=
  match place with
  | .stopFailed | .compensationFailed =>
    inferInstanceAs (Decidable (s.runtime.pendingSnapshot = none))
  | .carryFailed id | .storingInactive (some id) _ =>
    inferInstanceAs (Decidable (s.store.active ≠ some id))
  | .reloadFailed => instDecidableFalse
  | .deleteRefused =>
    inferInstanceAs
      (Decidable (s.runtime.state = .connected ∨ s.runtime.pendingSnapshot = none))
  | .plain | .storingInactive none _ | .warmedUp _ | .disconnected _ | .answered _ | .shutDown =>
    instDecidableTrue

instance {ι : Type} (place : Place) (s : CoreBackend ι) : Decidable (KeepsController place s) :=
  match place with
  | .compensationFailed => inferInstanceAs (Decidable (s.runtime.controller ≠ none))
  | .plain | .stopFailed | .carryFailed _ | .reloadFailed | .deleteRefused | .storingInactive _ _
  | .warmedUp _ | .disconnected _ | .answered _ | .shutDown => instDecidableTrue

/-- A refresh that installs what it stored. -/
theorem runtime_agrees_refreshed :
    ∃ es d, (daemon (Fin 2)).Run (atOpening oneLink true [none]) es d ∧
      d.shared.runtime.revision = 2 ∧ ∀ e ∈ es, e.target.shared.operation = none →
        Agrees e.target.shared.runtime e.target.shared.store := by
  obtain ⟨es, d, hrun, hd⟩ := (daemon (Fin 2)).exists_run (atOpening oneLink true [none])
    [refreshing 0, answered 0 (.store (.carryForward 7 firstGeneration secondGeneration)) true,
      answered 0 (.store (.savedSelections 7 2 1)) [none], [.go 0]].flatten
    (fun es d => d.shared.runtime.revision == 2 && es.all fun e => decide (Step.Avoids KeepsUp e))
    rfl
  obtain ⟨hrevision, hall⟩ := Bool.and_eq_true_iff.mp hd
  refine ⟨es, d, hrun, beq_iff_eq.mp hrevision, runtime_agrees hrun fun e he => ?_⟩
  exact of_decide_eq_true (List.all_eq_true.mp hall e he)

/-- A warm-up that succeeds. -/
def warmedUp (i : Nat) (snapshot : Snapshot) : List (DaemonMove Nat) :=
  [warming i snapshot,
    answered i (.start ⟨snapshot, { ConnectOptions.default with warmUp := true }⟩ .xray)
      ⟨.ok (), true⟩,
    Move.goOn i 2].flatten

/-- A selection that is applied to warm cores, not saved and not taken back. -/
def selectingBadly (i : Nat) : List (DaemonMove Nat) :=
  [[.begin i (.select ⟨1, 0, 1⟩)], [.go i], answered i .coresReady true, [.go i],
    answered i (.select "group" "second") true,
    answered i (.store (.saveSelection 7 1 0 1)) (.refused .other),
    answered i (.select "group" "first") false, Move.goOn i 3].flatten

/-- A Disconnect ends with a failure. -/
def failsDisconnect (e : Step Nat) : Bool :=
  match e.label with
  | .finished 0 .disconnect (.result (.error .other)) => true
  | _ => false

/-- The failed selection records an error where no controller is; a Disconnect fails and leaves it
so. -/
theorem dead_end :
    ∃ es d, (daemon Nat).Run (atOpening oneProfile true [none]) es d ∧
      d.shared.runtime.state = .error ∧ d.shared.runtime.controller = none ∧
        ∃ e ∈ es, e.label = .finished 0 .disconnect (.result (.error .other)) ∧ ¬ Step.Open e := by
  obtain ⟨es, d, hrun, hd⟩ := (daemon Nat).exists_run (atOpening oneProfile true [none])
    [readinessOn 0, warmedUp 1 (subscription none), selectingBadly 2, disconnectingReady 0,
      [.go 0]].flatten
    (fun es d => d.shared.runtime.state == .error && d.shared.runtime.controller.isNone &&
      es.any fun e => failsDisconnect e && e.target.shared.runtime.state == .error &&
        e.target.shared.runtime.controller.isNone) rfl
  simp only [Bool.and_eq_true, beq_iff_eq, Option.isNone_iff_eq_none] at hd
  obtain ⟨⟨hstate, hcontroller⟩, hany⟩ := hd
  obtain ⟨e, he, hlie⟩ := List.any_eq_true.mp hany
  simp only [Bool.and_eq_true, beq_iff_eq, Option.isNone_iff_eq_none] at hlie
  obtain ⟨⟨hlabel, herror⟩, hnone⟩ := hlie
  refine ⟨es, d, hrun, hstate, hcontroller, e, he, ?_, fun hopen => ?_⟩
  · unfold failsDisconnect at hlabel
    split at hlabel
    · assumption
    · cases hlabel
  · exact hopen.coherent.controller (.inr (.inr herror)) hnone

/-- A Disconnect ends the connection. -/
def disconnects (e : Step (Fin 2)) : Bool :=
  match e.label with
  | .ran 1 .disconnect (.disconnected false) => true
  | _ => false

/-- A connection is made and stopped. -/
theorem no_dead_end_connected :
    ∃ es d, (daemon (Fin 2)).Run (atOpening oneProfile true [none]) es d ∧
      (∃ e ∈ es, e.label = .ran 1 .disconnect (.disconnected false)) ∧ ∀ e ∈ es, Step.Open e := by
  obtain ⟨es, d, hrun, hd⟩ := (daemon (Fin 2)).exists_run (atOpening oneProfile true [none])
    (connecting 0 (subscription none) .default ++
      disconnecting 1 7 ⟨1, subscription none⟩ .default)
    (fun es _ => es.any disconnects && es.all fun e => decide (Step.Avoids KeepsController e)) rfl
  obtain ⟨hany, hall⟩ := Bool.and_eq_true_iff.mp hd
  refine ⟨es, d, hrun, ?_, no_dead_end hrun fun e he => ?_⟩
  · obtain ⟨e, he, hlabel⟩ := List.any_eq_true.mp hany
    refine ⟨e, he, ?_⟩
    unfold disconnects at hlabel
    split at hlabel
    · assumption
    · cases hlabel
  · exact of_decide_eq_true (List.all_eq_true.mp hall e he)

end Examples

end MultiCore.Backend
