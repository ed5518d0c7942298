import MultiCore.Daemon.Session
import MultiCore.Daemon.Supervisor

/-!
# Controllers of a connection through the service

With the tunnel, starting Mihomo means switching the tunnel on; with the system
proxy, it means a prepared generation with the tunnel off and the proxy pointed
at it. Stopping never stops the cores: they stay warm.
-/

namespace MultiCore.Daemon

open Cooperative

section Controllers

variable {ι X : Type}

def ServiceError.startFailureCause : ServiceError → StartFailureCause
  | .busy => .serviceBusy
  | .rejected .timedOut => .readinessTimedOut
  | .rejected _ => .coreFailed
  | .tunRejected .timedOut => .tunTimedOut
  | .tunRejected _ => .tunFailed
  | _ => .brokerFailed

/-- A Connect's `start(Xray)`: claim the session for `generation`, then prepare it. -/
def claimAndPrepare (i : ι) (generation : Nat) : Op ι X (Except ServiceError Unit) := do
  claim i generation
  match ← prepare i generation with
  | .ok () => return .ok ()
  | .error error =>
    releaseClaim
    return .error error

/-- A refusal of the tunnel is an adapter problem, not a missing or crashed core. -/
def ServiceError.ofTunnel : ServiceError → ServiceError
  | .rejected code => .tunRejected code
  | other => other

/-- `start(Mihomo)` with the tunnel. -/
def switchOn (i : ι) : Op ι X (Except ServiceError Unit) := do
  match ← setTun i true with
  | .error error => return .error error.ofTunnel
  | .ok () =>
    setInUse .tun
    return .ok ()

/-- A refused switch-off counts as done with the cores gone. -/
def stopRefused (error : ServiceError) : Op ι X (Except ServiceError Unit) := do
  if ← loadAt .refusedHealthy fun s => s.healthy then
    if ← loadAt .refusedPrepared fun s => s.prepared.isSome then return .error error
    else return .ok ()
  else return .ok ()

/-- `stop(Mihomo)` with the tunnel. -/
def switchOff (i : ι) : Op ι X (Except ServiceError Unit) := do
  let result ← setTun i false
  setInUse .none
  releaseClaim
  match result with
  | .ok () => return .ok ()
  | .error .disconnected => return .ok ()
  | .error error => stopRefused error

/-- TUN mode through the service; a warm-up's controller prepares only an unowned session and
claims nothing. -/
def serviceTunController (i : ι) (generation : Nat) (warmUp : Bool) :
    ProcessController (Op ι X) ServiceError where
  start
    | .xray => if warmUp then prepareIdle i generation else claimAndPrepare i generation
    | .mihomo => switchOn i
  stop
    | .xray => do
      if warmUp then return .ok ()
      else
        releaseClaim
        return .ok ()
    | .mihomo => switchOff i
  startFailureCause := ServiceError.startFailureCause

/-- `start(Mihomo)` without the tunnel: the generation runs with the tunnel off. -/
def prepareWithoutTunnel (i : ι) (generation : Nat) : Op ι X (Except ServiceError Unit) := do
  match ← prepare i generation with
  | .error error => return .error error
  | .ok () =>
    match ← setTun i false with
    | .error error => return .error error
    | .ok () =>
      setInUse .proxy
      return .ok ()

/-- System-proxy mode through the service. -/
def serviceCoresController (i : ι) (generation : Nat) :
    ProcessController (Op ι X) ServiceError where
  start
    | .xray => claimAndPrepare i generation
    | .mihomo => prepareWithoutTunnel i generation
  stop
    | .xray => do
      releaseClaim
      return .ok ()
    | .mihomo => do
      setInUse .none
      releaseClaim
      return .ok ()
  startFailureCause := ServiceError.startFailureCause

/-- Why a start in proxy mode failed. -/
inductive ProxyModeError (E : Type) where
  | core (error : E)
  | systemProxy
  deriving DecidableEq, Repr

/-- Points the system proxy at Mihomo; whether that worked. -/
def applyProxy : Op ι X Bool :=
  Task.question Question.applyProxy

/-- Lifts the outcome of the inner controller. -/
def ProxyModeError.lift {E : Type} : Except E Unit → Except (ProxyModeError E) Unit
  | .ok () => .ok ()
  | .error error => .error (.core error)

/-- The system proxy is applied once Mihomo runs. -/
def startProxied {E : Type} (inner : ProcessController (Op ι X) E) (engine : Engine) :
    Op ι X (Except (ProxyModeError E) Unit) := do
  match ← inner.start engine with
  | .error error => return .error (.core error)
  | .ok () =>
    match engine with
    | .xray => return .ok ()
    | .mihomo =>
      if ← applyProxy then return .ok ()
      else
        let _ ← inner.stop .mihomo
        return .error .systemProxy

/-- The system proxy follows Mihomo's lifetime. Its restoring only logs a failure. -/
def systemProxyController {E : Type} (inner : ProcessController (Op ι X) E) :
    ProcessController (Op ι X) (ProxyModeError E) where
  start := startProxied inner
  stop engine := do return ProxyModeError.lift (← inner.stop engine)
  startFailureCause
    | .core error => inner.startFailureCause error
    | .systemProxy => .systemProxyFailed

end Controllers

end MultiCore.Daemon
