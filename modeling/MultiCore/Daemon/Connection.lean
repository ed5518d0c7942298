import MultiCore.Daemon.Controllers
import MultiCore.Daemon.State

/-!
# Connects, Disconnects and warm-ups on one session

The daemon's operations reduced to what they do with the session: the operation
lock, the connection state, the controller and the supervisor's calls. What a
Connect stages and reports is left out; the generation it ends up with is given.
-/

namespace MultiCore.Daemon

open Cooperative

/-- How a connection is carried, and by which generation. -/
inductive Carrier where
  | tun (generation : Nat)
  | proxy (generation : Nat)
  deriving DecidableEq, Repr

/-- The generation that carries the connection. -/
def Carrier.generation : Carrier → Nat
  | .tun generation => generation
  | .proxy generation => generation

/-- The part of the daemon around the session that Connect and Disconnect use. -/
structure Connection (ι : Type) where
  /-- Who holds the operation lock. -/
  operation : Option ι
  state : ConnectionState
  controller : Option Carrier

section Programs

variable {ι : Type}

/-- An operation on the session inside the daemon. -/
abbrev DaemonOp (ι α : Type) := Op ι (Connection ι) α

/-- The lock under which connections are changed. -/
def lockOperation (i : ι) : DaemonOp ι Unit :=
  Task.await .plain (fun s => s.around.operation.isNone)
    (fun s => { s with around := { s.around with operation := some i } }) fun _ => ()

/-- The same lock, given back. -/
def unlockOperation : DaemonOp ι Unit :=
  store fun s => { s with around := { s.around with operation := none } }

/-- Moves the connection state; whether the state machine allowed it. -/
def move (next : ConnectionState) : DaemonOp ι Bool :=
  Task.atomic .plain
    (fun s => { s with around := { s.around with state := s.around.state.moved next } })
    fun s => s.around.state.allows next

/-- Stores the controller and moves to Connecting; whether the state machine allowed it. -/
def beginConnecting (carrier : Carrier) : DaemonOp ι Bool :=
  Task.atomic .plain
    (fun s => { s with around := { s.around with
      controller := some carrier
      state := s.around.state.moved .connecting } })
    fun s => s.around.state.allows .connecting

/-- A Connect over the carrier. -/
def Carrier.connect (i : ι) : Carrier → DaemonOp ι (Except SupervisorError Unit)
  | .tun generation => Supervisor.connect (serviceTunController i generation false)
  | .proxy generation =>
    Supervisor.connect (systemProxyController (serviceCoresController i generation))

/-- A Disconnect over the carrier. -/
def Carrier.disconnect (i : ι) : Carrier → DaemonOp ι (Except SupervisorError Unit)
  | .tun generation => Supervisor.disconnect (serviceTunController i generation false)
  | .proxy generation =>
    Supervisor.disconnect (systemProxyController (serviceCoresController i generation))

/-- Has Mihomo apply the queued selections; whether it applied all of them. -/
def replaySelections : DaemonOp ι Bool :=
  Task.question Question.replaySelections

/-- A connection that does not apply the queued selections is taken down again. -/
def undoConnect (i : ι) (carrier : Carrier) : DaemonOp ι Bool := do
  match ← carrier.disconnect i with
  | .ok () =>
    let _ ← move .ready
    return false
  | .error _ =>
    let _ ← move .error
    return false

/-- What a Connect makes of the supervisor's answer. -/
def settleConnect (i : ι) (carrier : Carrier) : Except SupervisorError Unit → DaemonOp ι Bool
  | .ok () => do
    if ← replaySelections then move .connected else undoConnect i carrier
  | .error (.startFailed _ rollbackFailed _) => do
    let _ ← move (if rollbackFailed then .error else .ready)
    return false
  | .error .stopFailed => do
    let _ ← move .error
    return false

/-- A Connect with the operation lock held; it starts only from Ready. -/
def connectLocked (i : ι) (carrier : Carrier) : DaemonOp ι Bool := do
  if (← load fun s => s.around.state) = .ready then
    if ← beginConnecting carrier then
      settleConnect i carrier (← carrier.connect i)
    else return false
  else return false

/-- A Connect under the lock. -/
def connectNow (i : ι) (carrier : Carrier) : DaemonOp ι Bool := do
  lockOperation i
  let result ← connectLocked i carrier
  unlockOperation
  return result

/-- Stops a connection; whether that worked. -/
def stopConnection (i : ι) (carrier : Carrier) : DaemonOp ι Bool := do
  match ← carrier.disconnect i with
  | .ok () => move .ready
  | .error _ =>
    let _ ← move .error
    return false

/-- A Disconnect with the operation lock held. -/
def disconnectLocked (i : ι) : DaemonOp ι Bool := do
  let connection ← load fun s => s.around
  if connection.state = .empty ∨ connection.state = .ready then return true
  else
    match connection.controller with
    | none => return false
    | some carrier => stopConnection i carrier

/-- A Disconnect under the lock. -/
def disconnectNow (i : ι) : DaemonOp ι Bool := do
  lockOperation i
  let result ← disconnectLocked i
  unlockOperation
  return result

/-- The warm-up's `start(Xray)`. -/
def warmUp (i : ι) (generation : Nat) : DaemonOp ι Bool := do
  match ← (serviceTunController i generation true).start .xray with
  | .ok () => return true
  | .error _ => return false

/-- The requests that share the session. -/
inductive ConnectionRequest where
  | connect (carrier : Carrier)
  | disconnect
  | warmUp (generation : Nat)
  deriving DecidableEq, Repr

/-- The code behind a request. -/
def serveConnection (i : ι) : ConnectionRequest → DaemonOp ι Bool
  | .connect carrier => connectNow i carrier
  | .disconnect => disconnectNow i
  | .warmUp generation => warmUp i generation

/-- Any number of Connects, Disconnects and warm-ups on one session, with any answers. -/
def connectionSystem (ι : Type) :
    System ι ConnectionRequest Point Question Answer (ServiceSession ι (Connection ι)) Bool Empty where
  program := serveConnection
  mayBegin _ _ _ := true
  onBegin _ _ s := s
  respond _ _ _ s := some s
  onFinish _ _ _ s := s
  world w := nomatch w

end Programs

end MultiCore.Daemon
