import MultiCore.Backend.Profiles
import MultiCore.Daemon.State
import MultiCore.Daemon.Supervisor
import MultiCore.Library.Task

/-!
# The state of the daemon

`CoreRuntime` is the part of the runtime that only operations with the
operation lock change. What the watcher, warm-ups and requests change without
it stands next to it, and so does what is recorded about a run. Messages,
events, the session index, icons and logos decide nothing and are left out.
-/

namespace MultiCore.Backend

open Cooperative Daemon

/-- How a connection is to be made. -/
structure ConnectOptions where
  tun : Bool
  warmUp : Bool
  serviceOnly : Bool
  deriving DecidableEq, Repr

/-- `ConnectOptions::default`: the tunnel only. -/
def ConnectOptions.default : ConnectOptions := ⟨true, false, false⟩

/-- A controller is made for a snapshot and options. -/
structure Controller where
  snapshot : Snapshot
  options : ConnectOptions
  deriving DecidableEq

/-- `CoreRuntime`, guarded by the `operation` lock. -/
structure CoreRuntime where
  state : ConnectionState
  degraded : Bool
  controller : Option Controller
  activeProfile : Option ProfileId
  snapshot : Option Snapshot
  /-- The revision of the catalog. -/
  revision : Nat
  pendingSnapshot : Option Generation
  selectedNodes : List (Option String)
  explicitSelectedNodes : List (Option String)
  deriving DecidableEq

namespace CoreRuntime

/-- Nothing but the active profile. -/
def cleared (active : Option ProfileId) : CoreRuntime where
  state := .empty
  degraded := false
  controller := none
  activeProfile := active
  snapshot := none
  revision := 0
  pendingSnapshot := none
  selectedNodes := []
  explicitSelectedNodes := []

/-- The selected nodes where some were saved. -/
def selections (snapshot : Snapshot) (saved : List (Option String)) : List (Option String) :=
  List.zipWith (fun chosen fallback => chosen.or fallback) saved snapshot.defaultSelections

/-- Installs a generation, with a controller if one was prepared for it. -/
def applySnapshot (r : CoreRuntime) (id : ProfileId) (generation : Generation)
    (controller : Option Controller) (saved : List (Option String)) : CoreRuntime :=
  { r with
    state := if r.state = .empty ∨ r.state = .error then r.state.moved .ready else r.state
    degraded := false
    controller := controller
    activeProfile := some id
    snapshot := some generation.snapshot
    revision := generation.revision
    pendingSnapshot := none
    selectedNodes := selections generation.snapshot saved
    explicitSelectedNodes := saved }

/-- The error is degraded at every place that records one. -/
def markError (r : CoreRuntime) : CoreRuntime :=
  { r with
    state :=
      match r.state with
      | .ready => (r.state.moved .empty).moved .error
      | .empty | .connecting | .connected => r.state.moved .error
      | .error => .error
    degraded := true }

/-- A move to `next`, which clears `degraded` where the state machine allows it. -/
def settled (r : CoreRuntime) (next : ConnectionState) : CoreRuntime :=
  if r.state.allows next then { r with state := next, degraded := false } else r

/-- The pending snapshot would run differently from the current one. -/
def pendingChangesRuntime (r : CoreRuntime) : Bool :=
  r.pendingSnapshot.any fun pending =>
    r.snapshot.all fun current => !current.sameRuntimePayload pending.snapshot

/-- The queued selections a Connect replays. -/
def queuedSelections (r : CoreRuntime) (snapshot : Snapshot) : List (String × String) :=
  (snapshot.groups.zip r.explicitSelectedNodes).filterMap fun (group, node) =>
    node.map fun node => (group.name, node)

/-- A failure without a way back is shown as an error. -/
@[simp] theorem markError_state (r : CoreRuntime) : r.markError.state = .error := by
  unfold markError
  cases r.state <;> rfl

/-- A failure without a way back leaves the runtime degraded. -/
@[simp] theorem markError_degraded (r : CoreRuntime) : r.markError.degraded = true := rfl

/-- The controller stays where it was. -/
@[simp] theorem markError_controller (r : CoreRuntime) : r.markError.controller = r.controller :=
  rfl

end CoreRuntime

/-- The daemon's state, and what is recorded about a run. -/
structure CoreBackend (ι : Type) where
  /-- Who holds the operation lock. -/
  operation : Option ι
  /-- Who holds `generation_change`. -/
  generationChange : Option ι
  runtime : CoreRuntime
  store : ProfileStore
  /-- The watcher's tick; there is one watcher. -/
  watching : Option ι
  /-- What the service has prepared, and the request that had it do so. -/
  prepared : Option Payload
  preparer : Option ι
  /-- Always-ready mode is on. -/
  readiness : Bool
  warmRevision : Option Nat
  autoReconnect : Option ConnectOptions
  /-- A connection was reconnected automatically before. -/
  lastAutoReconnect : Bool
  shutDown : Bool
  connectAttempts : UInt64
  connectOptions : ConnectOptions
  /-- A Disconnect was answered with success, and no Connect has begun since. -/
  final : Bool
  /-- `shutdown_cores` has returned. -/
  quit : Bool
  /-- The request is a Connect, took a pending reconnect or moves a connection. -/
  bound : ι → Bool
  /-- The request is past its last look at `shutDown`, or never looks. -/
  past : ι → Bool

namespace CoreBackend

variable {ι : Type}

/-- Always-ready mode is on and the service is usable right now. -/
def serviceActive (s : CoreBackend ι) (available : Bool) : Bool := s.readiness && available

/-- The cores run for the installed catalog. -/
def coresLive (s : CoreBackend ι) (ready : Bool) : Bool :=
  !s.runtime.degraded && match s.runtime.state with
    | .connected => true
    | .ready => s.warmRevision == some s.runtime.revision && s.readiness && ready
    | _ => false

/-- Clears everything that belongs to the profile that was active. -/
def clearForActive (s : CoreBackend ι) (active : Option ProfileId) : CoreBackend ι :=
  { s with
    runtime := .cleared active
    warmRevision := none }

/-- Installs a generation of the profile that is active now. -/
def install (s : CoreBackend ι) (id : ProfileId) (generation : Generation)
    (controller : Option Controller) (saved : List (Option String)) : CoreBackend ι :=
  let s := s.clearForActive (some id)
  { s with runtime := s.runtime.applySnapshot id generation controller saved }

/-- Installs what the store says; the service keeps the cores of an unchanged catalog running. -/
def reconciled (s : CoreBackend ι) (id : ProfileId) (generation : Generation)
    (saved : List (Option String)) : CoreBackend ι :=
  let t := s.install id generation none saved
  if s.warmRevision.isSome ∧ s.warmRevision = some t.runtime.revision ∧
      s.runtime.activeProfile = t.runtime.activeProfile then
    { t with warmRevision := s.warmRevision }
  else t

end CoreBackend

/-- What the operations ask of the controllers, the service, the network and the store. -/
inductive Ask where
  | start (controller : Controller) (engine : Engine)
  | stop (controller : Controller) (engine : Engine)
  /-- Has the factory make a controller. -/
  | prepare (snapshot : Snapshot) (options : ConnectOptions)
  /-- Publishes what the factory staged. -/
  | publish (controller : Controller)
  | select (group node : String)
  | fetch (link : Link)
  | serviceAvailable
  | coresReady
  | connectionLost
  | release
  /-- The cooldown since the last automatic reconnect is over. -/
  | cooledDown
  | store (call : StoreCall)
  deriving DecidableEq

/-- What a start came to, and whether the service has prepared the controller's generation. -/
structure Started where
  result : Except StartFailureCause Unit
  prepares : Bool

/-- The answers. -/
def Reply : Ask → Type
  | .start .. => Started
  | .stop .. => Except StartFailureCause Unit
  | .prepare .. | .publish _ | .select .. => Bool
  | .fetch _ => Option Snapshot
  | .serviceAvailable | .coresReady | .connectionLost | .cooledDown => Bool
  | .release => Unit
  | .store call => StoreReply call

/-- The service is told to prepare with the start of Xray; a warm-up goes only through it. -/
def Controller.mayAnswer (controller : Controller) (engine : Engine) (started : Started) : Bool :=
  match engine with
  | .xray => !controller.options.warmUp || !started.result.isOk || started.prepares
  | .mihomo => !started.prepares

namespace CoreBackend

variable {ι : Type}

/-- The service has prepared what was staged for a controller. -/
def prepare (s : CoreBackend ι) (i : ι) (controller : Controller) : CoreBackend ι :=
  { s with
    prepared := some controller.snapshot.payload
    preparer := some i }

/-- The state after an answer; `none` for one that cannot be given. -/
def respond (s : CoreBackend ι) (i : ι) : (ask : Ask) → Reply ask → Option (CoreBackend ι)
  | .start controller engine, started =>
    if controller.mayAnswer engine started then
      some (if started.prepares then s.prepare i controller else s)
    else none
  | .fetch link, some snapshot => if snapshot.source = some link then some s else none
  | .store call, reply => (s.store.respond call reply).map fun store => { s with store := store }
  | .stop .., _ | .prepare .., _ | .publish _, _ | .select .., _ | .fetch _, none => some s
  | .serviceAvailable, _ | .coresReady, _ | .connectionLost, _ | .release, _ => some s
  | .cooledDown, _ => some s

end CoreBackend

end MultiCore.Backend
