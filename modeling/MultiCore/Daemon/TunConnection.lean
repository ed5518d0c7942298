import MultiCore.Daemon.Controllers
import MultiCore.Daemon.State

/-!
# Requests whose future may be dropped

In TUN mode every call of the service runs on a blocking thread that its
request awaits. A request may be dropped at an await: its future does nothing
more, its locks are released, and an armed Connect leaves an error behind, but
the blocking thread runs on. The service is truthful about the tunnel.
-/

namespace MultiCore.Daemon

open Cooperative

/-- The part of the daemon around the session that a TUN connection uses, and the real tunnel. -/
structure TunConnection (ι : Type) where
  /-- Who holds the operation lock. -/
  operation : Option ι
  state : ConnectionState
  /-- The generation of the connection's controller. -/
  controller : Option Nat
  /-- The real tunnel. -/
  tunnel : Bool
  /-- The requests being served that are Connects. -/
  connects : ι → Bool
  /-- The Connects whose future was dropped. -/
  dropped : ι → Bool
  /-- The engine that a blocking thread of the request starts, until that thread ends. -/
  starting : ι → Option Engine
  /-- How often stopping Mihomo returned success; read by no operation. -/
  stops : Nat
  /-- What `stops` was when a request took the operation lock; read by no operation. The lock
  serves in order of arrival. -/
  since : ι → Nat

/-- A session with a TUN connection around it. -/
abbrev TunSession (ι : Type) := ServiceSession ι (TunConnection ι)

/-- A change of the connection. -/
def ServiceSession.mapAround {ι X : Type} (s : ServiceSession ι X) (f : X → X) :
    ServiceSession ι X :=
  { s with around := f s.around }

section

variable {ι X : Type} (s : ServiceSession ι X) (f : X → X)

@[simp] theorem ServiceSession.mapAround_around : (s.mapAround f).around = f s.around := rfl

@[simp] theorem ServiceSession.mapAround_transport : (s.mapAround f).transport = s.transport := rfl

end

/-- A future: it ends without a result when it was dropped. -/
abbrev Async (ι α : Type) := ExceptT Unit (Op ι (TunConnection ι)) α

section Programs

variable {ι α : Type} [DecidableEq ι]

/-- A stretch of the future of `i` between two awaits. -/
def stretch (i : ι) (run : TunSession ι → TunSession ι) (look : TunSession ι → α) : Async ι α :=
  ExceptT.mk (Task.atomic .plain (fun s => if s.around.dropped i then s else run s)
    fun s => if s.around.dropped i then .error () else .ok (look s))

/-- Work on a blocking thread, which runs on when the future that awaits it is dropped. -/
def detached (work : Op ι (TunConnection ι) α) : Async ι α :=
  ExceptT.lift work

/-- The connection with `e` as the engine that the blocking thread of `i` starts. -/
def TunConnection.setStarting (a : TunConnection ι) (i : ι) (e : Option Engine) :
    TunConnection ι :=
  { a with starting := Function.update a.starting i e }

@[simp] theorem TunConnection.setStarting_same (a : TunConnection ι) (i : ι) (e : Option Engine) :
    (a.setStarting i e).starting i = e := by
  simp [setStarting]

theorem TunConnection.setStarting_ne (a : TunConnection ι) {i j : ι} (h : j ≠ i)
    (e : Option Engine) : (a.setStarting i e).starting j = a.starting j := by
  simp [setStarting, h]

/-- Hands work to a blocking thread and awaits it; `starts` is the engine it starts. -/
def blocking (i : ι) (starts : Option Engine) (work : Op ι (TunConnection ι) α) : Async ι α := do
  stretch i (fun s => s.mapAround fun a => a.setStarting i starts) fun _ => ()
  let result ← detached work
  detached (store fun s => s.mapAround fun a => a.setStarting i none)
  stretch i id fun _ => result

/-- `start` of the TUN controller, awaited. -/
def startBlocking (i : ι) (generation : Nat) (engine : Engine) :
    Async ι (Except ServiceError Unit) :=
  blocking i (some engine) ((serviceTunController i generation false).start engine)

/-- `stop(Xray)` runs on no blocking thread. -/
def stopXray (i : ι) : Async ι (Except ServiceError Unit) :=
  stretch i (fun s => { s with owner := none }) fun _ => .ok ()

/-- `stop(Mihomo)`, awaited. -/
def stopMihomo (i : ι) (generation : Nat) : Async ι (Except ServiceError Unit) := do
  match ← blocking i none ((serviceTunController i generation false).stop .mihomo) with
  | .ok () =>
    stretch i (fun s => s.mapAround fun a => { a with stops := a.stops + 1 }) fun _ => .ok ()
  | .error error => return .error error

/-- The TUN controller as the supervisor awaits it. -/
def asyncTunController (i : ι) (generation : Nat) :
    ProcessController (Async ι) ServiceError where
  start := startBlocking i generation
  stop
    | .xray => stopXray i
    | .mihomo => stopMihomo i generation
  startFailureCause := ServiceError.startFailureCause

/-- Awaits the operation lock; dropping the request gives the wait up. -/
def awaitOperation (i : ι) : Async ι Unit :=
  ExceptT.mk (Task.await .plain (fun s => s.around.dropped i || s.around.operation.isNone)
    (fun s => if s.around.dropped i then s else s.mapAround fun a =>
      { a with
        operation := some i
        since := Function.update a.since i a.stops })
    fun s => if s.around.dropped i then .error () else .ok ())

/-- The lock of the operation is given back. -/
def giveOperation (i : ι) : Async ι Unit :=
  stretch i (fun s => s.mapAround fun a => { a with operation := none }) fun _ => ()

/-- Moves the connection state; whether the state machine allowed it. -/
def moveState (i : ι) (next : ConnectionState) : Async ι Bool :=
  stretch i (fun s => s.mapAround fun a => { a with state := a.state.moved next })
    fun s => s.around.state.allows next

/-- Stores the controller and moves to Connecting; whether the state machine allowed it. -/
def beginTun (i : ι) (generation : Nat) : Async ι Bool :=
  stretch i (fun s => s.mapAround fun a =>
      { a with
        controller := some generation
        state := a.state.moved .connecting })
    fun s => s.around.state.allows .connecting

/-- Has Mihomo apply the queued selections; whether it applied all of them. -/
def replayTun (i : ι) : Async ι Bool := do
  let applied ← detached (Task.question Question.replaySelections)
  stretch i id fun _ => applied

/-- A connection that does not apply the queued selections is taken down again. -/
def undoTun (i : ι) (generation : Nat) : Async ι Bool := do
  match ← Supervisor.disconnect (asyncTunController i generation) with
  | .ok () =>
    let _ ← moveState i .ready
    return false
  | .error _ =>
    let _ ← moveState i .error
    return false

/-- What a Connect makes of the supervisor's answer. -/
def settleTun (i : ι) (generation : Nat) : Except SupervisorError Unit → Async ι Bool
  | .ok () => do
    if ← replayTun i then moveState i .connected else undoTun i generation
  | .error (.startFailed _ rollbackFailed _) => do
    let _ ← moveState i (if rollbackFailed then .error else .ready)
    return false
  | .error .stopFailed => do
    let _ ← moveState i .error
    return false

/-- A Connect with the operation lock held; it starts only from Ready. -/
def connectTunLocked (i : ι) (generation : Nat) : Async ι Bool := do
  if (← stretch i id fun s => s.around.state) = .ready then
    if ← beginTun i generation then
      settleTun i generation (← Supervisor.connect (asyncTunController i generation))
    else return false
  else return false

/-- A Connect under the lock. -/
def connectTun (i : ι) (generation : Nat) : Async ι Bool := do
  awaitOperation i
  let result ← connectTunLocked i generation
  giveOperation i
  return result

/-- Stops a connection; whether that worked. -/
def stopTun (i : ι) (generation : Nat) : Async ι Bool := do
  match ← Supervisor.disconnect (asyncTunController i generation) with
  | .ok () => moveState i .ready
  | .error _ =>
    let _ ← moveState i .error
    return false

/-- A Disconnect with the operation lock held. -/
def disconnectTunLocked (i : ι) : Async ι Bool := do
  let (state, controller) ← stretch i id fun s => (s.around.state, s.around.controller)
  if state = .empty ∨ state = .ready then return true
  else
    match controller with
    | none => return false
    | some generation => stopTun i generation

/-- A Disconnect under the lock. -/
def disconnectTun (i : ι) : Async ι Bool := do
  awaitOperation i
  let result ← disconnectTunLocked i
  giveOperation i
  return result

end Programs

section System

variable {ι : Type} [DecidableEq ι]

/-- The requests of a TUN connection. -/
inductive TunRequest where
  | connect (generation : Nat)
  | disconnect
  | poll
  deriving DecidableEq, Repr

/-- Whether a request is a Connect. -/
def TunRequest.isConnect : TunRequest → Bool
  | .connect _ => true
  | _ => false

/-- The code behind a request. -/
def serveTun (i : ι) : TunRequest → Op ι (TunConnection ι) (Except Unit Bool)
  | .connect generation => (connectTun i generation).run
  | .disconnect => (disconnectTun i).run
  | .poll => do
    poll i
    return .ok true

/-- What happens without a request of the daemon. -/
inductive TunChange (ι : Type) where
  /-- The service takes the tunnel down by itself. -/
  | tunnelDown
  /-- The future of a Connect is dropped. -/
  | drop (i : ι)

/-- Drops the future of `i`: the operation lock is released, and the guard of an armed Connect
turns Connecting into Error. -/
def TunConnection.drop (a : TunConnection ι) (i : ι) : TunConnection ι :=
  if a.operation = some i then
    { a with
      dropped := Function.update a.dropped i true
      operation := none
      state := if a.state = .connecting then .error else a.state }
  else { a with dropped := Function.update a.dropped i true }

/-- What an answer says of the real tunnel: a switch leaves it as asked, everything else, and a
refused switch, as it was. -/
def truthfulResponse (s : TunSession ι) (command : ServiceCommand) :
    ServiceResponse → Option (TunSession ι)
  | .tunState actual =>
    if actual = s.around.tunnel ∨ command = .setTun actual then
      some (s.mapAround fun a => { a with tunnel := actual })
    else none
  | .status _ _ _ tunOn _ => if tunOn = s.around.tunnel then some s else none
  | _ => some s

/-- A truthful service; a dropped channel takes the tunnel down. -/
def truthful (s : TunSession ι) : (q : Question) → Answer q → Option (TunSession ι)
  | .request _, .error _ => some (s.mapAround fun a => { a with tunnel := false })
  | .request command, .ok response => truthfulResponse s command response
  | .connect, _ | .applyProxy, _ | .replaySelections, _ => some s

/-- Connects, Disconnects and polls against a truthful service; Connects may be dropped. -/
def tunSystem (ι : Type) [DecidableEq ι] :
    System ι TunRequest Point Question Answer (TunSession ι) (Except Unit Bool) (TunChange ι) where
  program := serveTun
  mayBegin _ _ _ := true
  onBegin i kind s := s.mapAround fun a =>
    { a with connects := Function.update a.connects i kind.isConnect }
  respond _ q a s := truthful s q a
  onFinish i _ _ s := s.mapAround fun a =>
    { a with
      connects := Function.update a.connects i false
      dropped := Function.update a.dropped i false }
  world
    | .tunnelDown, s => some (s.mapAround fun a => { a with tunnel := false })
    | .drop i, s => if s.around.connects i then some (s.mapAround fun a => a.drop i) else none

end System

end MultiCore.Daemon
