import MultiCore.Service.Tunnel

/-!
# Who holds the cores

Ownership is checked when a command takes the lock, and slow commands let go of
the lock in between. What is kept over every interleaving is that prepared
cores have an owner whose user prepared them last: a claim is only made by a
client the check let through, so it never moves the cores to another user, and
whatever clears the owner also clears what is prepared.
-/

namespace MultiCore.Service

/-- A call to the cores. -/
inductive CoreCall where
  | prepare (client : ClientIdentity) (generation : Nat)
      (result : Except BrokerErrorCode ControllerEndpoint)
  | restart
  | setTun (on : Bool)
  | tunIsOn
  | health
  | exits
  | stopAll
  | diagnostics

/-- Cores together with the calls made to them, newest first. -/
structure Traced (C : Type*) where
  cores : C
  calls : List CoreCall

namespace Traced

variable {C : Type*} [Cores C]

instance : Cores (Traced C) where
  prepare c client generation :=
    let (cores, result) := Cores.prepare c.cores client generation
    (⟨cores, .prepare client generation result :: c.calls⟩, result)
  restart c :=
    let (cores, result) := Cores.restart c.cores
    (⟨cores, .restart :: c.calls⟩, result)
  setTun c on :=
    let (cores, result) := Cores.setTun c.cores on
    (⟨cores, .setTun on :: c.calls⟩, result)
  tunIsOn c :=
    let (cores, known) := Cores.tunIsOn c.cores
    (⟨cores, .tunIsOn :: c.calls⟩, known)
  health c :=
    let (cores, health) := Cores.health c.cores
    (⟨cores, .health :: c.calls⟩, health)
  exits c :=
    let (cores, exits) := Cores.exits c.cores
    (⟨cores, .exits :: c.calls⟩, exits)
  stopAll c := ⟨Cores.stopAll c.cores, .stopAll :: c.calls⟩
  diagnostics c :=
    let (cores, found) := Cores.diagnostics c.cores
    (⟨cores, .diagnostics :: c.calls⟩, found)

/-- The newest preparation: by whom, of which generation, and what it came to. -/
def lastPrepare (c : Traced C) :
    Option (ClientIdentity × Nat × Except BrokerErrorCode ControllerEndpoint) :=
  c.calls.findSome? fun
    | .prepare client generation result => some (client, generation, result)
    | _ => none

@[simp] theorem lastPrepare_prepare (c : Traced C) (client : ClientIdentity) (generation : Nat) :
    lastPrepare (Cores.prepare c client generation).1 =
      some (client, generation, (Cores.prepare c client generation).2) := rfl

@[simp] theorem lastPrepare_restart (c : Traced C) :
    lastPrepare (Cores.restart c).1 = lastPrepare c := rfl

@[simp] theorem lastPrepare_setTun (c : Traced C) (on : Bool) :
    lastPrepare (Cores.setTun c on).1 = lastPrepare c := rfl

@[simp] theorem lastPrepare_tunIsOn (c : Traced C) :
    lastPrepare (Cores.tunIsOn c).1 = lastPrepare c := rfl

@[simp] theorem lastPrepare_health (c : Traced C) :
    lastPrepare (Cores.health c).1 = lastPrepare c := rfl

@[simp] theorem lastPrepare_exits (c : Traced C) :
    lastPrepare (Cores.exits c).1 = lastPrepare c := rfl

@[simp] theorem lastPrepare_stopAll (c : Traced C) :
    lastPrepare (Cores.stopAll c) = lastPrepare c := rfl

@[simp] theorem lastPrepare_diagnostics (c : Traced C) :
    lastPrepare (Cores.diagnostics c).1 = lastPrepare c := rfl

@[simp] theorem lastPrepare_switchOnOrRollBack (c : Traced C) :
    lastPrepare (ServiceLoop.switchOnOrRollBack c).1 = lastPrepare c := by
  rcases ServiceLoop.switchOnOrRollBack_cases c with ⟨c', hon, hs⟩ | ⟨c', code, hon, hs⟩
  · rw [hs, ← lastPrepare_setTun c true, hon]
  · rw [hs, lastPrepare_setTun, ← lastPrepare_setTun c true, hon]

/-- The cores were last prepared by `user`, as `generation`, and gave out `endpoint`. -/
def PreparedBy (c : Traced C) (user : String) (generation : Nat) (endpoint : ControllerEndpoint) :
    Prop :=
  ∃ client, client.userKey = user ∧ c.lastPrepare = some (client, generation, .ok endpoint)

omit [Cores C] in
theorem PreparedBy.congr {c d : Traced C} {user : String} {generation : Nat}
    {endpoint : ControllerEndpoint} (h : PreparedBy c user generation endpoint)
    (hd : d.lastPrepare = c.lastPrepare) : PreparedBy d user generation endpoint := by
  obtain ⟨client, hu, hc⟩ := h
  exact ⟨client, hu, hd.trans hc⟩

end Traced

namespace ServiceLoop

variable {C U T : Type*} [Cores C]

/-- Prepared cores belong to a user, and that user prepared them. -/
def Owned (s : ServiceLoop (Traced C) U T) : Prop :=
  ∀ generation endpoint, s.prepared = some (generation, endpoint) →
    ∃ owner, s.owner = some owner ∧ s.cores.PreparedBy owner.userKey generation endpoint

omit [Cores C] in
theorem owned_congr {s t : ServiceLoop (Traced C) U T} (h : s.session = t.session) :
    Owned s ↔ Owned t := by
  obtain ⟨hc, ho, hp, -, -, -⟩ := by simpa [session] using h
  simp [Owned, hc, ho, hp]

omit [Cores C] in
theorem owned_of_unprepared {s : ServiceLoop (Traced C) U T} (h : s.prepared = none) :
    Owned s := by
  intro generation endpoint hp
  simp [h] at hp

omit [Cores C] in
/-- What neither prepares, drops the owner nor changes the endpoint keeps the cores owned. -/
theorem Owned.frame {s t : ServiceLoop (Traced C) U T} (h : Owned s)
    (hp : t.prepared = s.prepared) (ho : t.owner = s.owner)
    (hc : t.cores.lastPrepare = s.cores.lastPrepare) : Owned t := by
  intro generation endpoint hp'
  obtain ⟨owner, ho', hby⟩ := h generation endpoint (hp ▸ hp')
  exact ⟨owner, ho.trans ho', hby.congr hc⟩

omit [Cores C] in
/-- A client that the check lets through may claim: it is of the owner's user. -/
theorem Owned.claim {s : ServiceLoop (Traced C) U T} (h : Owned s) (connection : ConnectionId)
    {client : ClientIdentity} (held : s.heldByOther client = false) :
    Owned (s.claim connection client) := by
  intro generation endpoint hp
  obtain ⟨owner, ho, hby⟩ := h generation endpoint hp
  have huser : owner.userKey = client.userKey := by simpa [heldByOther, ho] using held
  exact ⟨_, rfl, huser ▸ hby⟩

@[simp] theorem prepared_tunnelBack (s : ServiceLoop C U T) (tunnel : Bool) :
    (s.tunnelBack tunnel).prepared = s.prepared := by
  unfold tunnelBack
  split
  · split <;> rfl
  · rfl

@[simp] theorem owner_tunnelBack (s : ServiceLoop C U T) (tunnel : Bool) :
    (s.tunnelBack tunnel).owner = s.owner := by
  unfold tunnelBack
  split
  · split <;> rfl
  · rfl

@[simp] theorem lastPrepare_tunnelBack (s : ServiceLoop (Traced C) U T) (tunnel : Bool) :
    (s.tunnelBack tunnel).cores.lastPrepare = s.cores.lastPrepare := by
  have h := Traced.lastPrepare_switchOnOrRollBack s.cores
  unfold tunnelBack
  split
  · split <;> rename_i hs <;> simpa [hs] using h
  · rfl

theorem Owned.stillRuns {s : ServiceLoop (Traced C) U T} (h : Owned s) (generation : Nat) :
    Owned (s.stillRuns generation).1 := by
  rcases s.stillRuns_fst generation with hs | hs <;> rw [hs]
  · exact h
  · exact h.frame rfl rfl rfl

theorem owner_stillRuns (s : ServiceLoop C U T) (generation : Nat) :
    (s.stillRuns generation).1.owner = s.owner := by
  rcases s.stillRuns_fst generation with hs | hs <;> rw [hs]

theorem prepared_stillRuns (s : ServiceLoop C U T) (generation : Nat) :
    (s.stillRuns generation).1.prepared = s.prepared := by
  rcases s.stillRuns_fst generation with hs | hs <;> rw [hs]

/-- Cores prepared afresh belong to the owner when the owner prepared them. -/
theorem owned_prepareAfresh {s : ServiceLoop (Traced C) U T} {client : ClientIdentity}
    {owner : Owner} (ho : s.owner = some owner) (hu : owner.userKey = client.userKey)
    (generation : Nat) : Owned (s.prepareAfresh client generation).1 := by
  have hlast := Traced.lastPrepare_prepare s.cores client generation
  unfold prepareAfresh
  rcases hc : Cores.prepare s.cores client generation with ⟨c, code | endpoint⟩
  · exact owned_of_unprepared (by simp [hc])
  · rw [hc] at hlast
    simp only [hc]
    intro generation' endpoint' hp
    obtain ⟨rfl, rfl⟩ : generation = generation' ∧ endpoint = endpoint' := by simpa using hp
    exact ⟨owner, by simpa using ho, client, hu.symm, by simpa using hlast⟩

/-- A claiming client's preparation leaves the cores owned by its user. -/
theorem Owned.prepare {s : ServiceLoop (Traced C) U T} (h : Owned s) (connection : ConnectionId)
    {client : ClientIdentity} (held : s.heldByOther client = false) (generation : Nat) :
    Owned ((s.claim connection client).prepare client generation).1 := by
  have hclaimed := h.claim connection held
  have hrun := hclaimed.stillRuns generation
  have howner := (s.claim connection client).owner_stillRuns generation
  unfold ServiceLoop.prepare
  rcases hr : (s.claim connection client).stillRuns generation with ⟨t, _ | endpoint⟩
  · rw [hr] at howner
    have howner : t.owner = some ⟨client.userKey, connection⟩ := howner
    exact owned_prepareAfresh howner rfl generation
  · simpa only [hr] using hrun

/-- The answer to a preparation carries the endpoint of cores prepared by the asking user. -/
theorem Owned.prepare_answer {s : ServiceLoop (Traced C) U T} (h : Owned s)
    (connection : ConnectionId) {client : ClientIdentity} (held : s.heldByOther client = false)
    {generation answered : Nat} {endpoint : ControllerEndpoint}
    (hanswer : ((s.claim connection client).prepare client generation).2 =
      .prepared answered endpoint) :
    answered = generation ∧
      ((s.claim connection client).prepare client generation).1.cores.PreparedBy client.userKey
        generation endpoint := by
  have hrun := (h.claim connection held).stillRuns generation
  have howner := (s.claim connection client).owner_stillRuns generation
  unfold ServiceLoop.prepare at hanswer ⊢
  rcases hr : (s.claim connection client).stillRuns generation with ⟨t, _ | found⟩
  · rw [hr] at hanswer
    have hlast := Traced.lastPrepare_prepare t.cores client generation
    simp only [prepareAfresh] at hanswer ⊢
    rcases hc : Cores.prepare t.cores client generation with ⟨c, code | e⟩
    · simp [hc] at hanswer
    · obtain ⟨rfl, rfl⟩ : generation = answered ∧ e = endpoint := by simpa [hc] using hanswer
      rw [hc] at hlast
      exact ⟨rfl, client, rfl, by simpa using hlast⟩
  · rw [hr] at hanswer hrun howner
    obtain ⟨rfl, rfl⟩ : generation = answered ∧ found = endpoint := by simpa using hanswer
    have hprep := (stillRuns_snd (by rw [hr] :
      ((s.claim connection client).stillRuns generation).2 = some found)).1
    have hkept := (s.claim connection client).prepared_stillRuns generation
    rw [hr] at hkept
    obtain ⟨owner, ho, hby⟩ := hrun generation found (hkept.trans hprep)
    obtain rfl : owner = ⟨client.userKey, connection⟩ :=
      Option.some.inj (ho.symm.trans howner)
    exact ⟨rfl, hby⟩

theorem Owned.setTun {s : ServiceLoop (Traced C) U T} (h : Owned s) (on : Bool) :
    Owned (s.setTun on).1 := by
  rcases s.setTun_cases on with ⟨-, hs⟩ | ⟨-, -, hs⟩ |
    ⟨-, -, -, c, result, hc, ⟨-, hs⟩ | ⟨code, -, hs⟩⟩ |
    ⟨-, -, -, c, result, hc, ⟨-, hs⟩ | ⟨code, -, hs⟩⟩ <;> rw [hs]
  · exact h
  · exact h
  · exact h.frame rfl rfl (by simpa [hc] using Traced.lastPrepare_switchOnOrRollBack s.cores)
  · exact h.frame rfl rfl (by simpa [hc] using Traced.lastPrepare_switchOnOrRollBack s.cores)
  · exact h.frame rfl rfl (by simpa [hc] using Traced.lastPrepare_setTun s.cores false)
  · exact h.frame rfl rfl (by simpa [hc] using Traced.lastPrepare_setTun s.cores false)

/-- A crash keeps what is prepared and who owns it, whatever becomes of the processes. -/
theorem Owned.crashed {s : ServiceLoop (Traced C) U T} (h : Owned s) : Owned s.crashed := by
  unfold ServiceLoop.crashed
  dsimp only
  split
  · refine h.frame rfl rfl ?_
    split <;> rfl
  · have hlast := Traced.lastPrepare_restart (Cores.exits s.cores).1
    rcases hc : Cores.restart (Cores.exits s.cores).1 with ⟨c, code | ⟨⟩⟩ <;> rw [hc] at hlast
    · exact h.frame rfl rfl (by simpa using hlast)
    · exact h.frame (by simp) (by simp) (by simpa using hlast)

theorem Owned.tick {s : ServiceLoop (Traced C) U T} (h : Owned s) : Owned s.tick := by
  have hhealth : Owned { s with cores := (Cores.health s.cores).1 } := h.frame rfl rfl rfl
  unfold ServiceLoop.tick
  split
  · exact h
  · split
    · exact h
    · dsimp only
      split
      · exact hhealth
      · exact hhealth.crashed

/-- Every effect of a section under the lock keeps the cores owned. -/
theorem Owned.effect {s t : ServiceLoop (Traced C) U T} {e : Event U} (h : Owned s)
    (he : Effect s e t.session) : Owned t := by
  generalize hx : t.session = x at he
  cases he with
  | frame e quiet => exact (owned_congr hx).mpr h
  | health connection client held =>
    exact (owned_congr hx).mpr (h.frame rfl rfl rfl)
  | diagnostics connection client held =>
    exact (owned_congr hx).mpr (h.frame rfl rfl rfl)
  | prepare connection client generation held =>
    exact (owned_congr hx).mpr (h.prepare connection held generation)
  | setTun connection client on held =>
    exact (owned_congr hx).mpr ((h.claim connection held).setTun on)
  | stop connection client engine held => exact (owned_congr hx).mpr (owned_of_unprepared rfl)
  | shutdown connection client held => exact (owned_congr hx).mpr (owned_of_unprepared rfl)
  | updated index result => exact (owned_congr hx).mpr (owned_of_unprepared rfl)
  | closed connection owned => exact (owned_congr hx).mpr (owned_of_unprepared rfl)
  | stopping => exact (owned_congr hx).mpr (owned_of_unprepared rfl)
  | tick => exact (owned_congr hx).mpr h.tick

/-- A switch answers with the state asked for or an error. -/
theorem setTun_answer (s : ServiceLoop C U T) (on : Bool) :
    (s.setTun on).2 = .tunState on ∨ ∃ code, (s.setTun on).2 = .error code := by
  rcases s.setTun_cases on with ⟨-, hs⟩ | ⟨-, -, hs⟩ |
    ⟨-, -, rfl, c, result, -, ⟨-, hs⟩ | ⟨code, -, hs⟩⟩ |
    ⟨-, -, rfl, c, result, -, ⟨-, hs⟩ | ⟨code, -, hs⟩⟩ <;> simp [hs]

omit [Cores C] in
/-- A refused update is refused as busy or with an error. -/
theorem startUpdate_refusal {s : ServiceLoop C U T} {client : ClientIdentity}
    {response : ServiceResponse} (h : (s.startUpdate client).2 = .error response) :
    response = .busy ∨ ∃ code, response = .error code := by
  unfold startUpdate at h
  repeat' split at h
  all_goals cases h <;> simp

omit [Cores C] in
/-- A refused batch of fixes is refused as busy or with an error. -/
theorem startTroubleshoot_refusal {s : ServiceLoop C U T} {client : ClientIdentity}
    {fixes : List PrivilegedFix} {response : ServiceResponse}
    (h : (s.startTroubleshoot client fixes).2 = .error response) :
    response = .busy ∨ ∃ code, response = .error code := by
  unfold startTroubleshoot at h
  repeat' split at h
  all_goals cases h <;> simp

end ServiceLoop

namespace SharedService

variable {C U T : Type*} [Cores C] [ServiceUpdater U] [Troubleshooter T]

/-- What session ownership promises of a state of the service. -/
structure OwnershipKept (logs : LogReader) (s : SharedService (Traced C) U T) : Prop where
  /-- Prepared cores have an owner, whose user prepared them. -/
  owned : s.loop.Owned
  /-- Another user's command is turned away and changes nothing. -/
  busy : ∀ connection client command, s.loop.heldByOther client = true →
    s.handle logs (.command connection client command) = (s, some .busy)
  /-- A slow command of a user that lost the cores meanwhile touches no session, and an update
  that would have stopped the cores is turned away. -/
  overtaken : ∀ index client version stageOnly pending result,
    s.running[index]? = some (.update client version stageOnly pending) →
      s.loop.heldByOther client = true →
        (s.handle logs (.finish index result)).1.loop.session = s.loop.session ∧
          ∀ updater, stageOnly = false → result = .downloaded updater (.ok ()) →
            (s.handle logs (.finish index result)).2 = some .busy
  /-- The endpoint is only handed out to the user that prepared the running cores. -/
  handedOut : ∀ e generation endpoint,
    (s.handle logs e).2 = some (.prepared generation endpoint) →
      ∃ connection client, e = .command connection client (.prepare generation) ∧
        (s.handle logs e).1.loop.cores.PreparedBy client.userKey generation endpoint
  /-- Closing a connection that does not own the cores changes nothing. -/
  closedOther : ∀ connection, (∀ owner, s.loop.owner = some owner → owner.connection ≠ connection) →
    (s.handle logs (.closed connection)).1 = s
  /-- Closing the owner's connection stops every core and leaves no owner. -/
  closedOwner : ∀ owner, s.loop.owner = some owner →
    let t := (s.handle logs (.closed owner.connection)).1.loop
    t.cores.calls.head? = some .stopAll ∧ t.prepared = none ∧ t.tunOn = false ∧ t.owner = none

theorem busy_of_held (logs : LogReader) {s : SharedService C U T} (connection : ConnectionId)
    {client : ClientIdentity} (command : ServiceCommand)
    (held : s.loop.heldByOther client = true) :
    s.handle logs (.command connection client command) = (s, some .busy) := by
  cases command <;>
    simp [handle, executeShared, beginUpdate, beginTroubleshoot, ServiceLoop.execute,
      ServiceLoop.startUpdate, ServiceLoop.startTroubleshoot, held]

/-- Only an answer to `prepare` carries an endpoint. -/
theorem prepare_of_prepared (logs : LogReader) {s : SharedService C U T} {e : Event U}
    {generation : Nat} {endpoint : ControllerEndpoint}
    (h : (s.handle logs e).2 = some (.prepared generation endpoint)) :
    ∃ connection client asked, e = .command connection client (.prepare asked) ∧
      s.loop.heldByOther client = false := by
  cases e with
  | command connection client command =>
    by_cases held : s.loop.heldByOther client = true
    · simp [busy_of_held logs connection command held] at h
    · have held : s.loop.heldByOther client = false := by simpa using held
      cases command with
      | prepare asked => exact ⟨connection, client, asked, rfl, held⟩
      | setTun on =>
        have hset := (s.loop.claim connection client).setTun_answer on
        rcases hset with hs | ⟨code, hs⟩ <;>
          simp [handle, executeShared, ServiceLoop.execute, held, hs] at h
      | update version | stageUpdate version =>
        rcases hs : s.loop.startUpdate client with ⟨loop, response | pending⟩
        · rcases ServiceLoop.startUpdate_refusal (by rw [hs]) with rfl | ⟨code, rfl⟩ <;>
            simp [handle, executeShared, beginUpdate, hs] at h
        · simp [handle, executeShared, beginUpdate, hs] at h
      | troubleshoot fixes =>
        rcases hs : s.loop.startTroubleshoot client fixes with ⟨loop, response | troubleshooter⟩
        · rcases ServiceLoop.startTroubleshoot_refusal (by rw [hs]) with rfl | ⟨code, rfl⟩ <;>
            simp [handle, executeShared, beginTroubleshoot, hs] at h
        · simp [handle, executeShared, beginTroubleshoot, hs] at h
      | serviceLog file before | coreJournal sinceMs cursor =>
        cases hd : s.loop.logDirectory <;>
          simp [handle, executeShared, ServiceLoop.execute, held, hd] at h
      | updateProgress =>
        simp only [handle, executeShared, ServiceLoop.execute, held,
          ServiceLoop.answerUpdateProgress] at h
        repeat' split at h
        all_goals simp_all [UpdateProgress.response]
      | _ =>
        simp [handle, executeShared, ServiceLoop.execute, held, ServiceLoop.status,
          ProcessDiagnostics.response] at h
  | finish index result =>
    simp only [handle, finishShared, ServiceLoop.finishTroubleshoot, ServiceLoop.finishStage,
      ServiceLoop.finishUpdate] at h
    repeat' split at h
    all_goals simp_all
  | _ => simp [handle] at h

omit [Cores C] [ServiceUpdater U] [Troubleshooter T] in
/-- The loop as a service begins holds nothing. -/
theorem owned_new (cores : Traced C) (updater : Option U) (progress : Option UpdateProgress)
    (troubleshooter : Option T) (directory : Option String) :
    (SharedService.new cores updater progress troubleshooter directory).loop.Owned :=
  ServiceLoop.owned_of_unprepared rfl

/-- The cores stay owned along every run. -/
theorem owned_of_run (logs : LogReader) {s t : SharedService (Traced C) U T}
    {es : List (Transition.Edge (SharedService (Traced C) U T) (Event U))}
    (hrun : Run logs s es t) (h : s.loop.Owned) : t.loop.Owned := by
  refine hrun.invariant (I := fun s => s.loop.Owned) h fun {t e u} hi hs => ?_
  rw [← hs]
  exact hi.effect (handle_effect logs t e)

omit [Troubleshooter T] in
/-- A slow command of a user that lost the cores leaves the session as it was. -/
theorem session_of_overtaken {s : SharedService C U T} {index : Nat} {client : ClientIdentity}
    {version : String} {stageOnly : Bool} {pending : PendingUpdate U}
    (hrunning : s.running[index]? = some (.update client version stageOnly pending))
    (held : s.loop.heldByOther client = true) (result : SlowResult U) :
    (s.finishShared index result).1.loop.session = s.loop.session := by
  cases result with
  | outcomes outcomes => simp [finishShared, hrunning]
  | downloaded updater prepared =>
    cases stageOnly with
    | true => simp [finishShared, hrunning, ServiceLoop.finishStage, ServiceLoop.session]
    | false => simp [finishShared, hrunning, ServiceLoop.session_finishUpdate, held]

/-- In every run of the service, ownership is kept in every state reached. -/
theorem ownership_kept (logs : LogReader) (cores : C) (updater : Option U)
    (progress : Option UpdateProgress) (troubleshooter : Option T) (directory : Option String)
    {es : List (Transition.Edge (SharedService (Traced C) U T) (Event U))}
    {t : SharedService (Traced C) U T}
    (hrun : Run logs (new ⟨cores, []⟩ updater progress troubleshooter directory) es t) :
    OwnershipKept logs t := by
  have howned := owned_of_run logs hrun (owned_new _ _ _ _ _)
  constructor
  case owned => exact howned
  case busy =>
    intro connection client command held
    exact busy_of_held logs connection command held
  case overtaken =>
    intro index client version stageOnly pending result hrunning held
    refine ⟨session_of_overtaken hrunning held result, ?_⟩
    rintro updater rfl rfl
    have held' : ServiceLoop.heldByOther { t.loop with updating := false } client = true := held
    simp [handle, finishShared, hrunning, ServiceLoop.finishUpdate, held']
  case handedOut =>
    intro e generation endpoint hanswer
    obtain ⟨connection, client, asked, rfl, held⟩ := prepare_of_prepared logs hanswer
    simp only [handle, executeShared, ServiceLoop.execute, held, Bool.false_eq_true,
      if_false] at hanswer ⊢
    obtain ⟨rfl, hby⟩ := howned.prepare_answer connection held (Option.some.inj hanswer)
    exact ⟨connection, client, rfl, hby⟩
  case closedOther =>
    intro connection hother
    have hnot : (t.loop.owner.any fun owner => owner.connection == connection) = false := by
      cases ho : t.loop.owner with
      | none => rfl
      | some owner => simpa using hother owner ho
    simp [handle, ServiceLoop.clientGone, hnot]
  case closedOwner =>
    intro owner ho
    simp [handle, ServiceLoop.clientGone, ho, ServiceLoop.stopEverything, ServiceLoop.stopCores,
      Cores.stopAll]

end SharedService

section Scripted

/-- `alice` prepares and switches on, another user is turned away, then the owner goes. -/
def takeover : List (Event Empty) :=
  [.command ⟨1⟩ alice (.prepare 1), .command ⟨1⟩ alice (.setTun true),
    .command ⟨2⟩ { alice with userKey := "bob" } (.prepare 2), .closed ⟨2⟩, .closed ⟨1⟩]

theorem ownership_kept_takeover :
    SharedService.OwnershipKept emptyLogs
      (takeover.foldl (fun s e => (s.handle emptyLogs e).1)
        (SharedService.new (⟨⟨false, []⟩, []⟩ : Traced ScriptedCores) none none (some AllDone.mk)
          none)) :=
  SharedService.ownership_kept emptyLogs _ _ _ _ _ (Transition.run_trace _ _ takeover)

end Scripted

end MultiCore.Service
