import MultiCore.Service.Protocol

/-!
# The service loop

The platform-neutral lifecycle of the privileged service: who owns the cores,
which generation is prepared, whether the tunnel is on, and the phases of the
commands that run outside the service's lock. Every definition takes the loop
before the call and returns the loop after it with the answer. Lines appended
to `service.log` change nothing here and are left out; the calls made only to
compose them are kept, since they reach the cores.
-/

namespace MultiCore.Service

/-- Who is on the other end of one connection, as the platform server established it. -/
structure ClientIdentity where
  /-- Same user in the same session. -/
  userKey : String
  /-- The user's data directory, resolved from the client's token or uid. -/
  dataRoot : String
  /-- Unix: the uid whose ownership the runtime resolver enforces. Windows: 0. -/
  uid : Nat
  /-- Whether the client may run troubleshooting fixes through the service. -/
  administrator : Bool
  deriving DecidableEq, Repr

/-- One accepted connection. -/
structure ConnectionId where
  id : Nat
  deriving DecidableEq, Repr

/-- Whether each core process runs. -/
structure CoreHealth where
  xray : Bool
  mihomo : Bool
  deriving DecidableEq, Repr

/-- Health of cores that were never started. -/
def CoreHealth.default : CoreHealth := ⟨false, false⟩

/-- Both engines run. -/
def CoreHealth.all (h : CoreHealth) : Bool := h.xray && h.mihomo

/-- The content of a diagnostics answer. -/
structure ProcessDiagnostics where
  xray : ElevatedRuntimeState
  mihomo : ElevatedRuntimeState
  tun : ElevatedRuntimeState
  logs : List ElevatedLogRecord
  deriving DecidableEq, Repr

/-- The diagnostics as they are answered. -/
def ProcessDiagnostics.response (d : ProcessDiagnostics) : ServiceResponse :=
  .processDiagnostics d.xray d.mihomo d.tun d.logs

/-- The controller of both cores. Every call may change it, also the reading ones. -/
class Cores (C : Type*) where
  prepare : C → ClientIdentity → Nat → C × Except BrokerErrorCode ControllerEndpoint
  restart : C → C × Except BrokerErrorCode Unit
  setTun : C → Bool → C × Except BrokerErrorCode Unit
  /-- Whether the tunnel is on right now, when the cores can tell. -/
  tunIsOn : C → C × Option Bool
  health : C → C × CoreHealth
  exits : C → C × List String
  stopAll : C → C
  diagnostics : C → C × ProcessDiagnostics

/-- The service-side update: download and verify, then hand over to the updater. -/
class ServiceUpdater (U : Type*) where
  prepare : U → ClientIdentity → String → U × Except BrokerErrorCode Unit
  begin : U → ClientIdentity → String → U × Except BrokerErrorCode Unit

/-- Runs a batch of fixes and reports one outcome per fix. -/
class Troubleshooter (T : Type*) where
  run : T → List PrivilegedFix → List FixOutcome

/-- Reads the two logs a client may see; neither touches the loop. -/
structure LogReader where
  readChunk : String → ServiceLogFile → Option Nat → Nat × Nat × String
  readCoreJournal : String → ClientIdentity → Nat → Option CoreJournalCursor →
    String × Option CoreJournalCursor

/-- Progress of a running download, as the updater publishes it. -/
structure UpdateProgress where
  stage : ServiceUpdateStage
  received : Nat
  total : Nat
  deriving DecidableEq, Repr

/-- The progress as it is answered. -/
def UpdateProgress.response (p : UpdateProgress) : ServiceResponse :=
  .updateProgress p.stage p.received p.total

/-- The user and the connection that hold the cores. -/
structure Owner where
  userKey : String
  connection : ConnectionId
  deriving DecidableEq, Repr

/-- Restarts allowed per prepared generation before a crash is reported. -/
def maxCrashRestarts : Nat := 1

/-- The loop's state, behind the service's lock. -/
structure ServiceLoop (C U T : Type*) where
  cores : C
  owner : Option Owner
  prepared : Option (Nat × ControllerEndpoint)
  tunOn : Bool
  crashRestarts : Nat
  failure : Option BrokerErrorCode
  updater : Option U
  /-- An update is downloading outside the lock; its updater is taken out meanwhile. -/
  updating : Bool
  /-- What the updater last published, when it publishes its progress. -/
  updateProgress : Option UpdateProgress
  troubleshooter : Option T
  /-- A batch of fixes is running outside the lock. -/
  troubleshooting : Bool
  logDirectory : Option String

/-- An update that passed the ownership check and holds the updater while it downloads. -/
structure PendingUpdate (U : Type*) where
  updater : U

namespace ServiceLoop

variable {C U T : Type*}

/-- The loop as the platform builds it: nothing owned, prepared or running. -/
def new (cores : C) (updater : Option U) (updateProgress : Option UpdateProgress)
    (troubleshooter : Option T) (logDirectory : Option String) : ServiceLoop C U T where
  cores := cores
  owner := none
  prepared := none
  tunOn := false
  crashRestarts := 0
  failure := none
  updater := updater
  updating := false
  updateProgress := updateProgress
  troubleshooter := troubleshooter
  troubleshooting := false
  logDirectory := logDirectory

/-- Another user than `client` holds the cores. -/
def heldByOther (s : ServiceLoop C U T) (client : ClientIdentity) : Bool :=
  s.owner.any fun owner => owner.userKey != client.userKey

/-- The claim of a client, over its connection. -/
def claim (s : ServiceLoop C U T) (connection : ConnectionId) (client : ClientIdentity) :
    ServiceLoop C U T :=
  { s with owner := some ⟨client.userKey, connection⟩ }

section Tunnel

variable [Cores C]

/-- Switches the tunnel on and, when that fails, back off; the second result is ignored. -/
def switchOnOrRollBack (cores : C) : C × Except BrokerErrorCode Unit :=
  match Cores.setTun cores true with
  | (cores, .ok ()) => (cores, .ok ())
  | (cores, .error code) => ((Cores.setTun cores false).1, .error code)

/-- A tunnel that was on before a restart is switched back on; a failure to do so is recorded,
not answered. -/
def tunnelBack (s : ServiceLoop C U T) (tunnel : Bool) : ServiceLoop C U T :=
  if tunnel then
    match switchOnOrRollBack s.cores with
    | (cores, .ok ()) => { s with cores := cores, tunOn := true }
    | (cores, .error code) => { s with cores := cores, failure := some code }
  else s

/-- The endpoint of `generation` when it is prepared and still runs. The cores are asked for
their health only when everything else fits. -/
def stillRuns (s : ServiceLoop C U T) (generation : Nat) :
    ServiceLoop C U T × Option ControllerEndpoint :=
  match s.prepared with
  | some (current, endpoint) =>
    if current = generation ∧ s.failure = none then
      let (cores, health) := Cores.health s.cores
      ({ s with cores := cores }, if health.all then some endpoint else none)
    else (s, none)
  | none => (s, none)

/-- Asking whether `generation` still runs changes the cores at most. -/
theorem stillRuns_fst (s : ServiceLoop C U T) (generation : Nat) :
    (s.stillRuns generation).1 = s ∨
      (s.stillRuns generation).1 = { s with cores := (Cores.health s.cores).1 } := by
  unfold stillRuns
  split
  · split
    · exact .inr rfl
    · exact .inl rfl
  · exact .inl rfl

/-- Only the prepared generation, working, counts as running. -/
theorem stillRuns_snd {s : ServiceLoop C U T} {generation : Nat} {endpoint : ControllerEndpoint}
    (h : (s.stillRuns generation).2 = some endpoint) :
    s.prepared = some (generation, endpoint) ∧ s.failure = none := by
  unfold stillRuns at h
  split at h
  · rename_i current found hp
    split at h
    · rename_i hok
      obtain ⟨rfl, hf⟩ := hok
      simp only [Option.ite_none_right_eq_some, Option.some.injEq] at h
      exact ⟨h.2 ▸ hp, hf⟩
    · simp at h
  · simp at h

/-- Stops what ran and starts `generation`, with the tunnel as it was. -/
def prepareAfresh (s : ServiceLoop C U T) (client : ClientIdentity) (generation : Nat) :
    ServiceLoop C U T × ServiceResponse :=
  let tunnel := s.tunOn
  let s := { s with tunOn := false, crashRestarts := 0 }
  match Cores.prepare s.cores client generation with
  | (cores, .ok endpoint) =>
    let s := { s with cores := cores, prepared := some (generation, endpoint), failure := none }
    (s.tunnelBack tunnel, .prepared generation endpoint)
  | (cores, .error code) =>
    ({ s with cores := cores, prepared := none, failure := some code }, .error code)

/-- Makes `generation` run: as it is when it already does, started afresh otherwise. -/
def prepare (s : ServiceLoop C U T) (client : ClientIdentity) (generation : Nat) :
    ServiceLoop C U T × ServiceResponse :=
  match s.stillRuns generation with
  | (s, some endpoint) => (s, .prepared generation endpoint)
  | (s, none) => s.prepareAfresh client generation

/-- The tunnel may be switched: cores are prepared and no failure is recorded. -/
def Switchable (s : ServiceLoop C U T) : Prop := s.prepared.isSome = true ∧ s.failure = none

instance (s : ServiceLoop C U T) : Decidable s.Switchable :=
  inferInstanceAs (Decidable (_ ∧ _))

/-- Switches the tunnel. A failed switch-off asks the cores and keeps `tunOn` unless they
confirm the tunnel is off; a failed switch-on is rolled back and `tunOn` cleared either way. -/
def setTun (s : ServiceLoop C U T) (on : Bool) : ServiceLoop C U T × ServiceResponse :=
  if s.prepared.isNone || s.failure.isSome then (s, .error .notReady)
  else if s.tunOn = on then (s, .tunState on)
  else if on then
    match switchOnOrRollBack s.cores with
    | (cores, .ok ()) => ({ s with cores := cores, tunOn := true }, .tunState true)
    | (cores, .error code) => ({ s with cores := cores, tunOn := false }, .error code)
  else
    match Cores.setTun s.cores false with
    | (cores, .ok ()) => ({ s with cores := cores, tunOn := false }, .tunState false)
    | (cores, .error code) =>
      let (cores, known) := Cores.tunIsOn cores
      ({ s with cores := cores, tunOn := known.getD true }, .error code)

/-- Everything a switch can do: be refused, find the tunnel as asked, or ask the cores and
record what they answered. -/
theorem setTun_cases (s : ServiceLoop C U T) (on : Bool) :
    (¬s.Switchable ∧ s.setTun on = (s, .error .notReady)) ∨
    (s.Switchable ∧ s.tunOn = on ∧ s.setTun on = (s, .tunState on)) ∨
    (s.Switchable ∧ s.tunOn = false ∧ on = true ∧ ∃ c result,
      switchOnOrRollBack s.cores = (c, result) ∧
      ((result = .ok () ∧ s.setTun on = ({ s with cores := c, tunOn := true }, .tunState true)) ∨
        ∃ code, result = .error code ∧
          s.setTun on = ({ s with cores := c, tunOn := false }, .error code))) ∨
    (s.Switchable ∧ s.tunOn = true ∧ on = false ∧ ∃ c result,
      Cores.setTun s.cores false = (c, result) ∧
      ((result = .ok () ∧ s.setTun on = ({ s with cores := c, tunOn := false }, .tunState false)) ∨
        ∃ code, result = .error code ∧ s.setTun on =
          ({ s with
            cores := (Cores.tunIsOn c).1
            tunOn := (Cores.tunIsOn c).2.getD true }, .error code))) := by
  by_cases hready : s.Switchable
  · have hguard : (s.prepared.isNone || s.failure.isSome) = false := by
      obtain ⟨hp, hf⟩ := hready
      cases h : s.prepared <;> simp_all
    by_cases heq : s.tunOn = on
    · exact .inr (.inl ⟨hready, heq, by simp [setTun, hguard, heq]⟩)
    · cases on with
      | true =>
        have hoff : s.tunOn = false := by simpa using heq
        refine .inr (.inr (.inl ⟨hready, hoff, rfl, ?_⟩))
        rcases hc : switchOnOrRollBack s.cores with ⟨c, code | ⟨⟩⟩
        · exact ⟨c, _, rfl, .inr ⟨code, rfl, by simp [setTun, hguard, hoff, hc]⟩⟩
        · exact ⟨c, _, rfl, .inl ⟨rfl, by simp [setTun, hguard, hoff, hc]⟩⟩
      | false =>
        have hon : s.tunOn = true := by simpa using heq
        refine .inr (.inr (.inr ⟨hready, hon, rfl, ?_⟩))
        rcases hc : Cores.setTun s.cores false with ⟨c, code | ⟨⟩⟩
        · exact ⟨c, _, rfl, .inr ⟨code, rfl, by simp [setTun, hguard, hon, hc]⟩⟩
        · exact ⟨c, _, rfl, .inl ⟨rfl, by simp [setTun, hguard, hon, hc]⟩⟩
  · refine .inl ⟨hready, ?_⟩
    have hguard : (s.prepared.isNone || s.failure.isSome) = true := by
      unfold Switchable at hready
      cases hp : s.prepared <;> cases hf : s.failure <;> simp_all
    simp [setTun, hguard]

/-- The answer to `Status`; nothing prepared means nothing running. -/
def status (s : ServiceLoop C U T) : ServiceLoop C U T × ServiceResponse :=
  let (cores, health) :=
    if s.prepared.isSome then Cores.health s.cores else (s.cores, CoreHealth.default)
  let state (running : Bool) : ElevatedRuntimeState := if running then .ready else .stopped
  ({ s with cores := cores },
    .status (s.prepared.map Prod.fst) (state health.xray) (state health.mihomo) s.tunOn s.failure)

/-- The cores stop, the tunnel first. -/
def stopCores (s : ServiceLoop C U T) : ServiceLoop C U T :=
  let cores := if s.tunOn then (Cores.setTun s.cores false).1 else s.cores
  { s with
    cores := Cores.stopAll cores
    prepared := none
    tunOn := false
    crashRestarts := 0
    failure := none }

/-- The cores stop and the claim ends. -/
def stopEverything (s : ServiceLoop C U T) : ServiceLoop C U T :=
  { s.stopCores with owner := none }

/-- A closed connection stops the cores only when it is the current owner's. -/
def clientGone (s : ServiceLoop C U T) (connection : ConnectionId) : ServiceLoop C U T :=
  if s.owner.any fun owner => owner.connection == connection then s.stopEverything else s

/-- A core of a prepared generation ended by itself: the first time both are restarted, with the
tunnel as it was; the second time they are stopped and the failure is reported. -/
def crashed (s : ServiceLoop C U T) : ServiceLoop C U T :=
  let s := { s with cores := (Cores.exits s.cores).1 }
  let tunnel := s.tunOn
  let s := { s with tunOn := false }
  if maxCrashRestarts ≤ s.crashRestarts then
    let cores := if tunnel then (Cores.setTun s.cores false).1 else s.cores
    { s with cores := Cores.stopAll cores, failure := some .notReady }
  else
    let s := { s with crashRestarts := s.crashRestarts + 1 }
    match Cores.restart s.cores with
    | (cores, .ok ()) => { s with cores := cores }.tunnelBack tunnel
    | (cores, .error code) => { s with cores := Cores.stopAll cores, failure := some code }

/-- The periodic health check of prepared cores without a recorded failure. -/
def tick (s : ServiceLoop C U T) : ServiceLoop C U T :=
  if s.prepared.isNone then s
  else if s.failure.isSome then s
  else
    let (cores, health) := Cores.health s.cores
    let s := { s with cores := cores }
    if health.all then s else s.crashed

end Tunnel

section Phases

/-- First phase of a batch of fixes, under the lock. -/
def startTroubleshoot (s : ServiceLoop C U T) (client : ClientIdentity)
    (fixes : List PrivilegedFix) : ServiceLoop C U T × Except ServiceResponse T :=
  if s.heldByOther client || s.updating || s.troubleshooting then (s, .error .busy)
  else if !client.administrator then (s, .error (.error .authenticationFailed))
  else if s.tunOn && fixes.contains .reinstallWintun then (s, .error (.error .notReady))
  else
    match s.troubleshooter with
    | none => (s, .error (.error .unsupported))
    | some troubleshooter => ({ s with troubleshooting := true }, .ok troubleshooter)

/-- Last phase of a batch of fixes, under the lock again. -/
def finishTroubleshoot (s : ServiceLoop C U T) (fixes : List PrivilegedFix)
    (outcomes : List FixOutcome) : ServiceLoop C U T × ServiceResponse :=
  ({ s with troubleshooting := false },
    if outcomes.length = fixes.length then .troubleshot outcomes else .error .invalidRequest)

/-- First phase of an update, under the lock: the updater is taken out for the download. -/
def startUpdate (s : ServiceLoop C U T) (client : ClientIdentity) :
    ServiceLoop C U T × Except ServiceResponse (PendingUpdate U) :=
  if s.heldByOther client || s.updating then (s, .error .busy)
  else
    match s.updater with
    | none => (s, .error (.error .unsupported))
    | some updater => ({ s with updater := none, updating := true }, .ok ⟨updater⟩)

/-- Last phase of a staged download, under the lock again: nothing is stopped. -/
def finishStage (s : ServiceLoop C U T) (version : String) (pending : PendingUpdate U)
    (prepared : Except BrokerErrorCode Unit) : ServiceLoop C U T × ServiceResponse :=
  ({ s with updating := false, updater := some pending.updater },
    match prepared with
    | .ok () => .updateStaged version
    | .error code => .error code)

/-- Last phase of an update, under the lock again: the cores stop and the updater starts,
unless the download failed or another user claimed the cores meanwhile. -/
def finishUpdate [Cores C] [ServiceUpdater U] (s : ServiceLoop C U T) (client : ClientIdentity)
    (version : String) (pending : PendingUpdate U) (prepared : Except BrokerErrorCode Unit) :
    ServiceLoop C U T × ServiceResponse :=
  let s := { s with updating := false }
  match prepared with
  | .error code => ({ s with updater := some pending.updater }, .error code)
  | .ok () =>
    if s.heldByOther client then ({ s with updater := some pending.updater }, .busy)
    else
      let s := s.stopEverything
      let (updater, started) := ServiceUpdater.begin pending.updater client version
      ({ s with updater := some updater },
        match started with
        | .ok () => .updateStarted
        | .error code => .error code)

/-- The running download's progress, or idle. -/
def answerUpdateProgress (s : ServiceLoop C U T) : ServiceResponse :=
  let idle (stage : ServiceUpdateStage) : ServiceResponse := .updateProgress stage 0 0
  match s.updateProgress, s.updating with
  | some progress, true => progress.response
  | none, true => idle .downloading
  | _, false => idle .idle

end Phases

section Execute

variable [Cores C] [ServiceUpdater U] [Troubleshooter T]

/-- An update with all of its phases in one go. -/
def update (s : ServiceLoop C U T) (client : ClientIdentity) (version : String)
    (stageOnly : Bool) : ServiceLoop C U T × ServiceResponse :=
  match s.startUpdate client with
  | (s, .error response) => (s, response)
  | (s, .ok pending) =>
    let (updater, prepared) := ServiceUpdater.prepare pending.updater client version
    if stageOnly then s.finishStage version ⟨updater⟩ prepared
    else s.finishUpdate client version ⟨updater⟩ prepared

/-- One command under the lock. -/
def execute (logs : LogReader) (s : ServiceLoop C U T) (connection : ConnectionId)
    (client : ClientIdentity) (command : ServiceCommand) : ServiceLoop C U T × ServiceResponse :=
  if s.heldByOther client then (s, .busy)
  else
    match command with
    | .prepare generationId => (s.claim connection client).prepare client generationId
    | .setTun on => (s.claim connection client).setTun on
    | .status => s.status
    | .stop engine => ((s.claim connection client).stopCores, .stopped engine)
    | .diagnostics =>
      let (cores, found) := Cores.diagnostics s.cores
      ({ s with cores := cores }, found.response)
    | .serviceLog file before =>
      match s.logDirectory with
      | some directory =>
        let (start, stop, text) := logs.readChunk directory file before
        (s, .serviceLog file start stop text)
      | none => (s, .error .notReady)
    | .coreJournal sinceMs cursor =>
      match s.logDirectory with
      | some directory =>
        let (text, next) := logs.readCoreJournal directory client sinceMs cursor
        (s, .coreJournal text next)
      | none => (s, .error .notReady)
    | .shutdown => (s.stopEverything, .shuttingDown)
    | .updateProgress => (s, s.answerUpdateProgress)
    | .update version => s.update client version false
    | .stageUpdate version => s.update client version true
    | .troubleshoot fixes =>
      match s.startTroubleshoot client fixes with
      | (s, .error response) => (s, response)
      | (s, .ok troubleshooter) =>
        s.finishTroubleshoot fixes (Troubleshooter.run troubleshooter fixes)

end Execute

end ServiceLoop

end MultiCore.Service
