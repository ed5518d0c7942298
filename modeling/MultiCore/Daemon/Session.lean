import MultiCore.Library.Task
import MultiCore.Service.Protocol

/-!
# The daemon's session with the service

One `ServiceSession` is shared by the watcher, by Connects and by warm-ups.
Requests are exchanged under the transport lock; every flag next to it is an
atomic or a mutex of its own, so each access below is a section of its own. The
text kept for the loss event decides nothing and is left out, and no lock is
ever poisoned.
-/

namespace MultiCore.Daemon

open Cooperative

/-- Why a request to the service failed. -/
inductive ServiceError where
  | notInstalled
  | unavailable
  | impostor
  | busy
  /-- A connection owns the service's cores: a warm-up must not replace its generation. -/
  | inUse
  | disconnected
  | timedOut
  | protocol
  | rejected (code : BrokerErrorCode)
  | tunRejected (code : BrokerErrorCode)
  deriving DecidableEq, Repr

/-- What the daemon currently carries through the service. -/
inductive InUse where
  | none
  | proxy
  | tun
  deriving DecidableEq, Repr

/-- Controller port, token and mixed port of a prepared generation. -/
structure Endpoint where
  port : Nat
  secret : String
  mixedPort : Option Nat
  deriving DecidableEq, Repr

/-- The endpoint of a `Prepared` answer; port 0 is a generation without a mixed port. -/
def Endpoint.ofController (controller : ControllerEndpoint) : Endpoint :=
  ⟨controller.port, controller.secret, (some controller.mixedPort).filter fun port => port != 0⟩

/-- The readiness flags. -/
structure Flags where
  prepared : Option Nat
  healthy : Bool
  tunOn : Bool
  deriving DecidableEq, Repr

/-- What the session knows after `forget`, and before its first exchange. -/
def Flags.forgotten : Flags := ⟨none, false, false⟩

/-- Which operation made an exchange. -/
inductive Purpose where
  | prepare (generation : Nat)
  | setTun (on : Bool)
  | poll
  | probe
  | shutdown
  | diagnostics
  deriving DecidableEq, Repr

/-- One period for which an operation held the transport lock, and what came of it. -/
structure Exchange where
  purpose : Purpose
  /-- A new channel was needed. -/
  opened : Bool
  /-- The answer, when a request was sent. -/
  answer : Option (Except ServiceError ServiceResponse)

/-- What the operations ask of their environment. -/
inductive Question where
  | connect
  | request (command : ServiceCommand)
  /-- Points the system proxy at Mihomo. -/
  | applyProxy
  /-- Has Mihomo apply the queued route selections. -/
  | replaySelections
  deriving DecidableEq, Repr

/-- The answers of each question. -/
def Answer : Question → Type
  | .connect => Except ServiceError Unit
  | .request _ => Except ServiceError ServiceResponse
  | .applyProxy => Bool
  | .replaySelections => Bool

/-- The places of the operations that statements speak about. -/
inductive Point where
  | plain
  /-- The transport lock is released after an exchange. -/
  | released (exchange : Exchange)
  /-- A failed `poll` stores `healthy` after its exchange. -/
  | lateUnhealthy
  /-- `shutdown` clears the flag in question after its exchange. -/
  | latePrepared
  | lateHealthy
  | lateTunOn
  /-- A stop whose switch-off was refused looks at the flag in question. -/
  | refusedHealthy
  | refusedPrepared
  /-- A Connect records the generation that it claims. -/
  | claiming (generation : Nat)
  /-- A claim is released. -/
  | releasing

/-- A `ServiceSession`, the state `X` around it, and the history of its exchanges. -/
structure ServiceSession (ι X : Type) where
  /-- Who holds the transport lock. -/
  lock : Option ι
  /-- A channel is open. -/
  transport : Bool
  prepared : Option Nat
  /-- The endpoint of the prepared generation. -/
  endpoint : Option Endpoint
  /-- The generation whose last `Prepare` the service rejected. -/
  rejected : Option Nat
  healthy : Bool
  tunOn : Bool
  inUse : InUse
  /-- The generation a Connect claimed. -/
  owner : Option Nat
  available : Bool
  /-- The controller slot's target and version. -/
  controller : Option Endpoint
  version : Nat
  /-- Every period for which the transport lock was held, oldest first; read by no operation. -/
  history : List Exchange
  around : X

namespace ServiceSession

variable {ι X : Type}

/-- `ServiceSession::new`: no channel, nothing prepared, no engine in use. -/
def new (around : X) : ServiceSession ι X where
  lock := none
  transport := false
  prepared := none
  endpoint := none
  rejected := none
  healthy := false
  tunOn := false
  inUse := .none
  owner := none
  available := false
  controller := none
  version := 0
  history := []
  around := around

/-- The three facts that the state of the tunnel is read from. -/
def flags (s : ServiceSession ι X) : Flags := ⟨s.prepared, s.healthy, s.tunOn⟩

/-- The cores of a prepared generation run. -/
def coresReady (s : ServiceSession ι X) : Bool := s.healthy && s.prepared.isSome

/-- The service runs another generation than the one the connection was made on. -/
def replaced (s : ServiceSession ι X) : Bool :=
  s.owner.any fun owner => s.prepared != some owner

/-- A connection carried by the service is gone. -/
def connectionLost (s : ServiceSession ι X) : Bool :=
  match s.inUse with
  | .proxy => !s.coresReady || s.replaced
  | .tun => !s.coresReady || s.replaced || !s.tunOn
  | .none => false

end ServiceSession

/-- An operation on the session. -/
abbrev Op (ι X α : Type) := Task Point Question Answer (ServiceSession ι X) α

section Operations

variable {ι X α : Type} [DecidableEq ι]

/-- One change of the session. -/
def store (f : ServiceSession ι X → ServiceSession ι X) : Op ι X Unit :=
  Task.atomic .plain f fun _ => ()

/-- A store at a moment that the claims speak of. -/
def storeAt (point : Point) (f : ServiceSession ι X → ServiceSession ι X) : Op ι X Unit :=
  Task.atomic point f fun _ => ()

/-- One look at the session. -/
def load (f : ServiceSession ι X → α) : Op ι X α :=
  Task.atomic .plain id f

/-- A load at a moment that the claims speak of. -/
def loadAt (point : Point) (f : ServiceSession ι X → α) : Op ι X α :=
  Task.atomic point id f

/-- Connects to the service. -/
def askConnect : Op ι X (Except ServiceError Unit) :=
  Task.question Question.connect

/-- Sends a request over the open channel and waits for its answer. -/
def askService (command : ServiceCommand) : Op ι X (Except ServiceError ServiceResponse) :=
  Task.question (Question.request command)

/-- Waits for the transport lock. -/
def lockTransport (i : ι) : Op ι X Unit :=
  Task.await .plain (fun s => s.lock.isNone) (fun s => { s with lock := some i }) fun _ => ()

/-- The end of an exchange: the guard of `transport` is dropped. -/
def unlockTransport (exchange : Exchange) : Op ι X Unit :=
  storeAt (.released exchange) fun s =>
    { s with lock := none, history := s.history ++ [exchange] }

/-- What a lost channel leaves nothing of: the prepared generation, the health, the tunnel. -/
def forget : Op ι X Unit := do
  store fun s => { s with prepared := none }
  store fun s => { s with healthy := false }
  store fun s => { s with tunOn := false }

/-- Makes sure there is a channel, where `connect` allows to open one; returns whether it is new. -/
def openChannel (connect : Bool) : Op ι X (Bool × Except ServiceError Unit) := do
  if ← load fun s => s.transport then
    return (false, .ok ())
  else if !connect then
    return (false, .error .disconnected)
  else
    forget
    match ← askConnect with
    | .error error => return (true, .error error)
    | .ok () =>
      store fun s => { s with transport := true }
      return (true, .ok ())

/-- Sends a request over the open channel; a failed exchange drops the channel. -/
def transmit (command : ServiceCommand) : Op ι X (Except ServiceError ServiceResponse) := do
  match ← askService command with
  | .ok response => return .ok response
  | .error error =>
    store fun s => { s with transport := false }
    forget
    return .error error

/-- What `exchangeIf` makes of an answer: a refusal, or what `record` makes of it. -/
def recorded (record : ServiceResponse → Op ι X α) :
    Except ServiceError ServiceResponse → Op ι X (Except ServiceError α)
  | .error error => return .error error
  | .ok .busy => return .error .busy
  | .ok (.error code) => return .error (.rejected code)
  | .ok response => return .ok (← record response)

/-- Sends `command` when `allowed` passes with the channel held, and hands the answer to `record`
while the channel is still held. -/
def exchangeIf (i : ι) (purpose : Purpose) (command : ServiceCommand) (connect : Bool)
    (allowed : ServiceSession ι X → Except ServiceError Unit)
    (record : ServiceResponse → Op ι X α) : Op ι X (Except ServiceError α) := do
  lockTransport i
  match ← load allowed with
  | .error error =>
    unlockTransport ⟨purpose, false, none⟩
    return .error error
  | .ok () =>
    match ← openChannel connect with
    | (opened, .error error) =>
      unlockTransport ⟨purpose, opened, none⟩
      return .error error
    | (opened, .ok ()) =>
      let answer ← transmit command
      let result ← recorded record answer
      unlockTransport ⟨purpose, opened, some answer⟩
      return result

/-- An exchange that is always sent. -/
def exchange (i : ι) (purpose : Purpose) (command : ServiceCommand) (connect : Bool)
    (record : ServiceResponse → Op ι X α) : Op ι X (Except ServiceError α) :=
  exchangeIf i purpose command connect (fun _ => .ok ()) record

/-- An exchange whose response is only handed back. -/
def request (i : ι) (purpose : Purpose) (command : ServiceCommand) (connect : Bool) :
    Op ι X (Except ServiceError ServiceResponse) :=
  exchange i purpose command connect fun response => return response

/-- Whether a channel is there, read under the lock of `transport`. -/
def hasChannel (i : ι) : Op ι X Bool := do
  lockTransport i
  let transport ← load fun s => s.transport
  store fun s => { s with lock := none }
  return transport

/-- A channel that died since its last use says nothing about the service. -/
def channelDied : Except ServiceError ServiceResponse → Bool
  | .error .disconnected => true
  | .error .timedOut => true
  | _ => false

/-- The status over a fresh channel when the old one had died. -/
def retryStatus (i : ι) (hadChannel : Bool) (first : Except ServiceError ServiceResponse) :
    Op ι X (Except ServiceError ServiceResponse) :=
  if channelDied first && hadChannel then request i .probe .status true else return first

/-- `ServiceSession::probe`: a `Status`, asked once more over a new channel where the old one was
stale. -/
def probe (i : ι) : Op ι X (Except ServiceError Unit) := do
  let hadChannel ← hasChannel i
  let first ← request i .probe .status true
  match ← retryStatus i hadChannel first with
  | .ok (.status ..) => return .ok ()
  | .ok _ => return .error .protocol
  | .error error => return .error error

/-- What a probe found. -/
inductive ServiceMode where
  | service
  | unavailable
  | absent
  deriving DecidableEq, Repr

/-- How an answer to a probe is shown: a service that is busy is there. -/
def ServiceMode.fromProbe : Except ServiceError Unit → ServiceMode
  | .ok () => .service
  | .error .busy => .service
  | .error .notInstalled => .absent
  | .error (.rejected .authenticationFailed) => .absent
  | .error _ => .unavailable

/-- `ServiceSession::probe_mode`, with the mode kept for the next look. -/
def probeMode (i : ι) : Op ι X ServiceMode := do
  let mode := ServiceMode.fromProbe (← probe i)
  store fun s => { s with available := mode == .service }
  return mode

/-- The endpoint handed to its watchers, under a new version. -/
def publish (endpoint : Endpoint) : Op ι X Unit := do
  store fun s => { s with controller := some endpoint }
  store fun s => { s with version := s.version + 1 }

/-- A Connect takes the session for `generation` before its `Prepare`, under the transport lock. -/
def claim (i : ι) (generation : Nat) : Op ι X Unit := do
  lockTransport i
  storeAt (.claiming generation) fun s => { s with owner := some generation }
  store fun s => { s with lock := none }

/-- The claim of a Connect given back. -/
def releaseClaim : Op ι X Unit :=
  storeAt .releasing fun s => { s with owner := none }

/-- A warm-up is refused while a connection owns the session for another generation. -/
def idleAllowed (generation : Nat) (idle : Bool) (s : ServiceSession ι X) :
    Except ServiceError Unit :=
  if idle && s.owner.any fun owner => owner != generation then .error .inUse else .ok ()

/-- Records the answer to a `Prepare`. -/
def recordPrepared (generation : Nat) : ServiceResponse → Op ι X (Except ServiceError Unit)
  | .prepared generationId controller => do
    if generationId = generation then
      publish (.ofController controller)
      store fun s => { s with endpoint := some (.ofController controller) }
      store fun s => { s with prepared := some generation }
      store fun s => { s with rejected := none }
      store fun s => { s with healthy := true }
      return .ok ()
    else return .error .protocol
  | _ => return .error .protocol

/-- The result of an exchange whose record has a result of its own. -/
def flatten {β : Type} : Except ServiceError (Except ServiceError β) → Except ServiceError β
  | .ok result => result
  | .error error => .error error

/-- A generation that failed to prepare this way must be staged again. -/
def mustRestage : Except ServiceError Unit → Bool
  | .error (.rejected _) => true
  | .error .protocol => true
  | .error .timedOut => true
  | _ => false

/-- The exchange of a `Prepare`, and what a failed one leaves behind. -/
def prepareExchange (i : ι) (generation : Nat) (idle : Bool) : Op ι X (Except ServiceError Unit) := do
  let result := flatten (← exchangeIf i (.prepare generation) (.prepare generation) true
    (idleAllowed generation idle) (recordPrepared generation))
  if mustRestage result then
    store fun s => { s with rejected := some generation }
  return result

/-- Publishes the known endpoint again. -/
def republish : Op ι X Unit := do
  match ← load fun s => s.endpoint with
  | some endpoint => publish endpoint
  | none => return ()

/-- Makes the service run `generation`; nothing is sent when it already does. -/
def prepareIf (i : ι) (generation : Nat) (idle : Bool) : Op ι X (Except ServiceError Unit) := do
  match ← load (idleAllowed generation idle) with
  | .error error => return .error error
  | .ok () =>
    if ← load fun s => s.prepared == some generation then
      if ← load fun s => s.healthy then
        republish
        return .ok ()
      else prepareExchange i generation idle
    else prepareExchange i generation idle

/-- A Prepare that is sent whatever the session already has. -/
def prepare (i : ι) (generation : Nat) : Op ι X (Except ServiceError Unit) :=
  prepareIf i generation false

/-- The warm-up's `Prepare`. -/
def prepareIdle (i : ι) (generation : Nat) : Op ι X (Except ServiceError Unit) :=
  prepareIf i generation true

/-- What a `TunState` changes; one that is not the state asked for is an error. -/
def recordTunState (on : Bool) : ServiceResponse → Op ι X (Except ServiceError Unit)
  | .tunState actual => do
    store fun s => { s with tunOn := actual }
    if actual = on then return .ok ()
    else if on then return .error (.rejected .timedOut)
    else return .error .protocol
  | _ => return .error .protocol

/-- `ServiceSession::set_tun` over a channel that is already there. -/
def setTun (i : ι) (on : Bool) : Op ι X (Except ServiceError Unit) := do
  return flatten (← exchange i (.setTun on) (.setTun on) false (recordTunState on))

/-- A status that finds the prepared generation running. -/
def statusHealthy (generationId : Option Nat) (xray mihomo : ElevatedRuntimeState)
    (failure : Option BrokerErrorCode) (prepared : Option Nat) : Bool :=
  failure.isNone && xray == .ready && mihomo == .ready && generationId.isSome &&
    generationId == prepared

/-- Records the answer to a poll. -/
def recordStatus : ServiceResponse → Op ι X Unit
  | .status generationId xray mihomo tunOn failure => do
    store fun s => { s with tunOn := tunOn }
    let prepared ← load fun s => s.prepared
    store fun s => { s with healthy := statusHealthy generationId xray mihomo failure prepared }
  | _ => store fun s => { s with healthy := false }

/-- Refreshes readiness over an existing channel; a failure is stored once the lock is free. -/
def poll (i : ι) : Op ι X Unit := do
  match ← exchange i .poll .status false recordStatus with
  | .ok () => return ()
  | .error _ => storeAt .lateUnhealthy fun s => { s with healthy := false }

/-- `set_in_use`: the engine that Connects use. -/
def setInUse (mode : InUse) : Op ι X Unit :=
  store fun s => { s with inUse := mode }

/-- Asks the service to shut down, when there is a channel, and gives the channel up. -/
def shutdownExchange (i : ι) : Op ι X Unit := do
  lockTransport i
  if ← load fun s => s.transport then
    store fun s => { s with transport := false }
    let answer ← askService .shutdown
    unlockTransport ⟨.shutdown, false, some answer⟩
  else unlockTransport ⟨.shutdown, false, none⟩

/-- `ServiceSession::shutdown`; its last three stores come after the exchange was released. -/
def shutdown (i : ι) : Op ι X Unit := do
  shutdownExchange i
  setInUse .none
  storeAt .latePrepared fun s => { s with prepared := none }
  storeAt .lateHealthy fun s => { s with healthy := false }
  storeAt .lateTunOn fun s => { s with tunOn := false }

/-- The answer itself is only shown to the user. -/
def diagnostics (i : ι) : Op ι X (Except ServiceError ServiceResponse) :=
  request i .diagnostics .diagnostics false

end Operations

end MultiCore.Daemon
