import MultiCore.Library.RelyGuarantee
import MultiCore.Daemon.Session

/-!
# The quiet parts of a session's operations

Most sections of the operations touch readiness flags, the endpoint or the
controller slot: neither the transport lock, nor the channel, nor the claim,
nor what surrounds the session. Whatever speaks about the latter alone passes
through such parts unchanged.
-/

namespace MultiCore.Daemon

open Cooperative

variable {ι X α β : Type}

/-- Lock, channel, claim and surroundings are the same. -/
structure Harmless (s t : ServiceSession ι X) : Prop where
  lock : t.lock = s.lock
  transport : t.transport = s.transport
  owner : t.owner = s.owner
  around : t.around = s.around

theorem Harmless.refl (s : ServiceSession ι X) : Harmless s s := ⟨rfl, rfl, rfl, rfl⟩

/-- All sections of the task are harmless, and it asks nothing. -/
def Quiet : Op ι X α → Prop
  | .done _ => True
  | .critical point _ run next =>
    point = .plain ∧ (∀ s, Harmless s (run s)) ∧ ∀ s, Quiet (next s)
  | .ask _ _ => False
  | .waiting _ _ => False

theorem Quiet.bind {task : Op ι X α} {rest : α → Op ι X β} (h : Quiet task)
    (hrest : ∀ a, Quiet (rest a)) : Quiet (task >>= rest) := by
  induction task with
  | done a => exact hrest a
  | critical point enabled run next ih =>
    exact ⟨h.1, h.2.1, fun s => ih s (h.2.2 s)⟩
  | ask question next ih => exact h.elim
  | waiting question next ih => exact h.elim

theorem quiet_pure (a : α) : Quiet (pure a : Op ι X α) := trivial

theorem quiet_store {change : ServiceSession ι X → ServiceSession ι X}
    (h : ∀ s, Harmless s (change s)) : Quiet (store change) :=
  ⟨rfl, h, fun _ => trivial⟩

theorem quiet_load (look : ServiceSession ι X → α) : Quiet (load look) :=
  ⟨rfl, Harmless.refl, fun _ => trivial⟩

theorem quiet_forget : Quiet (forget : Op ι X Unit) := by
  refine Quiet.bind (quiet_store fun _ => ⟨rfl, rfl, rfl, rfl⟩) fun _ => ?_
  refine Quiet.bind (quiet_store fun _ => ⟨rfl, rfl, rfl, rfl⟩) fun _ => ?_
  exact quiet_store fun _ => ⟨rfl, rfl, rfl, rfl⟩

theorem quiet_publish (endpoint : Endpoint) : Quiet (publish endpoint : Op ι X Unit) := by
  refine Quiet.bind (quiet_store fun _ => ⟨rfl, rfl, rfl, rfl⟩) fun _ => ?_
  exact quiet_store fun _ => ⟨rfl, rfl, rfl, rfl⟩

theorem quiet_republish : Quiet (republish : Op ι X Unit) := by
  refine (quiet_load _).bind fun endpoint => ?_
  rcases endpoint with _ | endpoint
  · exact quiet_pure _
  · exact quiet_publish endpoint

theorem quiet_recordPrepared (generation : Nat) (response : ServiceResponse) :
    Quiet (recordPrepared generation response : Op ι X _) := by
  cases response with
  | prepared generationId controller =>
    simp only [recordPrepared]
    split
    · refine (quiet_publish _).bind fun _ => ?_
      refine Quiet.bind (quiet_store fun _ => ⟨rfl, rfl, rfl, rfl⟩) fun _ => ?_
      refine Quiet.bind (quiet_store fun _ => ⟨rfl, rfl, rfl, rfl⟩) fun _ => ?_
      refine Quiet.bind (quiet_store fun _ => ⟨rfl, rfl, rfl, rfl⟩) fun _ => ?_
      refine Quiet.bind (quiet_store fun _ => ⟨rfl, rfl, rfl, rfl⟩) fun _ => ?_
      exact quiet_pure _
    · exact quiet_pure _
  | _ => exact quiet_pure _

theorem quiet_recordTunState (on : Bool) (response : ServiceResponse) :
    Quiet (recordTunState on response : Op ι X _) := by
  cases response with
  | tunState actual =>
    refine Quiet.bind (quiet_store fun _ => ⟨rfl, rfl, rfl, rfl⟩) fun _ => ?_
    split
    · exact quiet_pure _
    · split <;> exact quiet_pure _
  | _ => exact quiet_pure _

theorem quiet_recordStatus (response : ServiceResponse) :
    Quiet (recordStatus response : Op ι X Unit) := by
  cases response with
  | status generationId xray mihomo tunOn failure =>
    refine Quiet.bind (quiet_store fun _ => ⟨rfl, rfl, rfl, rfl⟩) fun _ => ?_
    exact (quiet_load _).bind fun _ => quiet_store fun _ => ⟨rfl, rfl, rfl, rfl⟩
  | _ => exact quiet_store fun _ => ⟨rfl, rfl, rfl, rfl⟩

/-- What an answer is recorded as is quiet when the record is. -/
theorem quiet_recorded {record : ServiceResponse → Op ι X α} (h : ∀ response, Quiet (record response))
    (answer : Except ServiceError ServiceResponse) : Quiet (recorded record answer) := by
  unfold recorded
  split
  · exact quiet_pure _
  · exact quiet_pure _
  · exact quiet_pure _
  · exact (h _).bind fun _ => quiet_pure _

/-- A property that neither the others nor harmless sections touch survives a quiet task. -/
theorem Quiet.safe {C : Contract Point Question Answer (ServiceSession ι X)}
    {P : ServiceSession ι X → Prop} (hothers : ∀ {s t}, P s → C.Others s t → P t)
    (hown : ∀ {s t}, C.inv s → P s → Harmless s t → C.shows .plain s t ∧ C.Own s t ∧ P t)
    {task : Op ι X α} (hquiet : Quiet task) {s : ServiceSession ι X} (h : P s) :
    Safe C (fun _ => P) task s := by
  induction task generalizing s with
  | done a => exact .done fun t ht => hothers h ht
  | critical point enabled run next ih =>
    intro t ht _ _
    obtain ⟨hshows, hstep, hafter⟩ := hown ht.2 (hothers h ht) (hquiet.2.1 t)
    rw [hquiet.1]
    exact ⟨hshows, hstep, ih t (hquiet.2.2 t) hafter⟩
  | ask question next ih => exact hquiet.elim
  | waiting question next ih => exact hquiet.elim

end MultiCore.Daemon
