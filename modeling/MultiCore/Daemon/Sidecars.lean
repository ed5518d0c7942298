import MultiCore.Daemon.Controllers
import Mathlib.Data.List.Basic
import Mathlib.Logic.Function.Basic

/-!
# The controller of the cores' own processes

The controller holds one child for an engine, and the operating system runs the
processes. The two can differ: a child may have crashed without the controller
knowing, and a process whose start failed may outlive the handle that was
dropped. What the operating system answers is given for each engine, since one
operation asks each of these questions at most once for it.
-/

namespace MultiCore.Daemon.Sidecars

/-- Why a core could not be started or stopped. -/
inductive ProcessError where
  | launchFailed (engine : Engine)
  | inspectFailed (engine : Engine)
  | stopFailed (engine : Engine)
  | readinessFailed (engine : Engine)
  | readinessTimedOut (engine : Engine)
  deriving DecidableEq, Repr

/-- A launched core: no two launches share a number, and the command names program and
configuration. -/
structure Process (Command : Type) where
  engine : Engine
  number : Nat
  command : Command
  deriving DecidableEq, Repr

/-- The children a controller holds, and the processes that run. -/
structure Machine (Command : Type) where
  children : Engine → Option (Process Command) := fun _ => none
  running : List (Process Command) := []
  launched : Nat := 0

/-- One look of the wait for readiness. -/
structure Poll where
  /-- The process exits before this look. -/
  exits : Bool
  /-- The process could be inspected. -/
  seen : Bool
  ready : Bool
  deriving DecidableEq, Repr

/-- How an attempt to stop a running process ends; a failed one may still have ended it. -/
inductive Stopping where
  | stopped
  | unseen (ends : Bool)
  | failed (ends : Bool)
  deriving DecidableEq, Repr

/-- Whether the process is gone afterwards. -/
def Stopping.ends : Stopping → Bool
  | stopped => true
  | unseen ends => ends
  | failed ends => ends

/-- The answers of the operating system during one operation. -/
structure Answers where
  /-- The child at hand can be inspected before a start. -/
  heldSeen : Engine → Bool
  launches : Engine → Bool
  exitsAtOnce : Engine → Bool
  /-- The new process can be inspected right after its launch. -/
  launchedSeen : Engine → Bool
  /-- The looks until the deadline of the wait has passed. -/
  polls : Engine → List Poll
  stopping : Engine → Stopping
  /-- Dropping the handle of a child kills its process, as it does not on every platform. -/
  dropKills : Engine → Bool
  applies : Bool
  restores : Bool

/-- An operation of a controller. -/
abbrev Hosting (Command : Type) := ReaderT Answers (StateM (Machine Command))

section Machine

variable {Command : Type} [DecidableEq Command]

/-- Whether the process runs. -/
def Machine.runs (machine : Machine Command) (process : Process Command) : Bool :=
  decide (process ∈ machine.running)

/-- The process is gone, by itself or killed. -/
def Machine.exit (machine : Machine Command) (process : Process Command) : Machine Command :=
  { machine with running := machine.running.filter (· ≠ process) }

/-- The controller holds `child` for its engine. -/
def Machine.insert (machine : Machine Command) (child : Process Command) : Machine Command :=
  { machine with children := Function.update machine.children child.engine (some child) }

/-- The controller holds no child for the engine. -/
def Machine.remove (machine : Machine Command) (engine : Engine) : Machine Command :=
  { machine with children := Function.update machine.children engine none }

/-- The process the next launch makes. -/
def Machine.fresh (machine : Machine Command) (engine : Engine) (command : Command) :
    Process Command :=
  ⟨engine, machine.launched, command⟩

/-- A process runs from its launch on. -/
def Machine.launch (machine : Machine Command) (engine : Engine) (command : Command) :
    Machine Command :=
  { machine with
    running := machine.running ++ [machine.fresh engine command]
    launched := machine.launched + 1 }

end Machine

section Controller

variable {Command : Type} [DecidableEq Command]

/-- Whether the child's process has exited, when that can be told. -/
def hasExited (seen : Bool) (child : Process Command) :
    Hosting Command (Except ProcessError Bool) := do
  if seen then return .ok !(← get).runs child
  else return .error (.inspectFailed child.engine)

/-- Starts a process; it may exit at once. -/
def launch (engine : Engine) (command : Command) :
    Hosting Command (Except ProcessError (Process Command)) := do
  if (← read).launches engine then
    let child := (← get).fresh engine command
    modify (·.launch engine command)
    if (← read).exitsAtOnce engine then modify (·.exit child)
    return .ok child
  else return .error (.launchFailed engine)

/-- Looks at the process until it is ready, gone or late. -/
def waitUntilReady (child : Process Command) :
    List Poll → Hosting Command (Except ProcessError Unit)
  | [] => return .error (.readinessTimedOut child.engine)
  | poll :: polls => do
    if poll.exits then modify (·.exit child)
    match ← hasExited poll.seen child with
    | .error error => return .error error
    | .ok true => return .error (.readinessFailed child.engine)
    | .ok false =>
      if poll.ready then return .ok ()
      else waitUntilReady child polls

/-- Ends a child's process, unless it has exited already. -/
def stopChild (child : Process Command) : Hosting Command (Except ProcessError Unit) := do
  match (← read).stopping child.engine with
  | .stopped =>
    modify (·.exit child)
    return .ok ()
  | .unseen ends =>
    if ends then modify (·.exit child)
    return .error (.inspectFailed child.engine)
  | .failed ends =>
    if (← get).runs child then
      if ends then modify (·.exit child)
      return .error (.stopFailed child.engine)
    else return .ok ()

/-- A handle that goes out of scope. -/
def dropChild (child : Process Command) : Hosting Command Unit := do
  if (← read).dropKills child.engine then modify (·.exit child)

/-- Launches a core and holds it once it is ready. -/
def bringUp (engine : Engine) (command : Command) :
    Hosting Command (Except ProcessError Unit) := do
  match ← launch engine command with
  | .error error => return .error error
  | .ok child =>
    match ← hasExited ((← read).launchedSeen engine) child with
    | .error error =>
      dropChild child
      return .error error
    | .ok true => return .error (.readinessFailed engine)
    | .ok false =>
      match ← waitUntilReady child ((← read).polls engine) with
      | .error error =>
        let _ ← stopChild child
        dropChild child
        return .error error
      | .ok () =>
        modify (·.insert child)
        return .ok ()

/-- A child that still runs is kept; one that exited is replaced. -/
def start (command : Engine → Command) (engine : Engine) :
    Hosting Command (Except ProcessError Unit) := do
  match (← get).children engine with
  | some child =>
    match ← hasExited ((← read).heldSeen engine) child with
    | .error error => return .error error
    | .ok false => return .ok ()
    | .ok true =>
      modify (·.remove engine)
      bringUp engine (command engine)
  | none => bringUp engine (command engine)

/-- A child that could not be stopped stays at hand. -/
def stop (engine : Engine) : Hosting Command (Except ProcessError Unit) := do
  match (← get).children engine with
  | none => return .ok ()
  | some child =>
    modify (·.remove engine)
    match ← stopChild child with
    | .error error =>
      modify (·.insert child)
      return .error error
    | .ok () => return .ok ()

def ProcessError.startFailureCause : ProcessError → StartFailureCause
  | .readinessTimedOut _ => .readinessTimedOut
  | .launchFailed _ => .coreMissing
  | .readinessFailed _ => .coreExited
  | .inspectFailed _ | .stopFailed _ => .coreFailed

/-- The cores as the user's own processes, started with the commands of one runtime. -/
def sidecarProcessController (command : Engine → Command) :
    ProcessController (Hosting Command) ProcessError where
  start := start command
  stop := stop
  startFailureCause := ProcessError.startFailureCause

end Controller

/-! ## The system proxy around a controller -/

section SystemProxy

/-- Turns the proxy of the operating system on and off; whether that worked. -/
structure ProxySwitch (M : Type → Type) where
  apply : M Bool
  restore : M Bool

variable {M : Type → Type} {E : Type} [Monad M]

/-- The system proxy is applied once Mihomo runs; Mihomo is stopped where it cannot be. -/
def startBehindProxy (inner : ProcessController M E) (proxy : ProxySwitch M) (engine : Engine) :
    M (Except (ProxyModeError E) Unit) := do
  match ← inner.start engine with
  | .error error => return .error (.core error)
  | .ok () =>
    match engine with
    | .xray => return .ok ()
    | .mihomo =>
      if ← proxy.apply then return .ok ()
      else
        let _ ← inner.stop .mihomo
        return .error .systemProxy

/-- The system proxy is restored before Mihomo stops; a failure is only logged. -/
def stopBehindProxy (inner : ProcessController M E) (proxy : ProxySwitch M) (engine : Engine) :
    M (Except (ProxyModeError E) Unit) := do
  if engine = .mihomo then
    let _ ← proxy.restore
  return ProxyModeError.lift (← inner.stop engine)

/-- The proxy-mode controller over any other. -/
def systemProxyController (inner : ProcessController M E) (proxy : ProxySwitch M) :
    ProcessController M (ProxyModeError E) where
  start := startBehindProxy inner proxy
  stop := stopBehindProxy inner proxy
  startFailureCause
    | .core error => inner.startFailureCause error
    | .systemProxy => .systemProxyFailed

/-- The proxy settings of the machine that runs the cores. -/
def hostProxy (Command : Type) : ProxySwitch (Hosting Command) where
  apply := return (← read).applies
  restore := return (← read).restores

end SystemProxy

end MultiCore.Daemon.Sidecars
