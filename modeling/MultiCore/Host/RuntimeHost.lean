import MultiCore.Library.Program
import MultiCore.Library.Run
import MultiCore.Library.Text
import MultiCore.Service.Protocol

/-!
# The runtime host

The elevated process that runs the cores of one generation for the daemon. It
holds at most one core controller and a flag for each engine. The controllers
are its environment: a call may fail, and a core may crash at any moment.
Dropping a controller ends the cores it started.
-/

namespace MultiCore.Host

open Faulty

/-- The commands of the elevation channel. -/
inductive ElevationCommand where
  | startXray (generationId : Nat)
  | startMihomo (generationId : Nat)
  | stop (engine : Engine)
  | diagnostics
  | shutdown
  deriving DecidableEq, Repr

/-- The answers of the elevation channel. -/
inductive ElevationResponse where
  | started (engine : Engine)
  | stopped (engine : Engine)
  | processDiagnostics (xray mihomo tun : ElevatedRuntimeState) (logs : List ElevatedLogRecord)
  | shuttingDown
  | error (code : BrokerErrorCode)
  deriving DecidableEq, Repr

/-- What a controller reports of a core or of the tunnel. -/
inductive RuntimeCheckState where
  | stopped
  | starting
  | ready
  | failed
  | unsupported
  | disabled
  deriving DecidableEq, Repr

/-- `ProcessDiagnostics`: what a controller says of its processes. -/
structure ProcessDiagnostics where
  xray : RuntimeCheckState
  mihomo : RuntimeCheckState
  tun : RuntimeCheckState
  logs : List ElevatedLogRecord

/-- Diagnostics of a host without a controller. -/
def ProcessDiagnostics.default : ProcessDiagnostics := ⟨.stopped, .stopped, .stopped, []⟩

/-- One controller of the cores, made for one generation. -/
structure Controller where
  id : Nat
  generation : Nat
  deriving DecidableEq, Repr

/-- The host's calls into its environment. -/
inductive Ask where
  | create (generation : Nat)
  | start (controller : Controller) (engine : Engine)
  | stop (controller : Controller) (engine : Engine)
  | diagnostics (controller : Controller)
  | drop (controller : Controller)

/-- What the environment answers. -/
abbrev Answer : Ask → Type
  | .create _ => Option Controller
  | .start _ _ => Except BrokerErrorCode Unit
  | .stop _ _ => Bool
  | .diagnostics _ => ProcessDiagnostics
  | .drop _ => Unit

/-- A part of the host, which asks the system and its controllers. -/
abbrev HostProgram (α : Type) : Type := Program Ask Answer α

/-- A controller for a generation; none means that it could not be made. -/
def createController (generation : Nat) : HostProgram (Option Controller) :=
  Program.question (Ask.create generation)

namespace Controller

/-- The start of one engine. -/
def start (c : Controller) (engine : Engine) : HostProgram (Except BrokerErrorCode Unit) :=
  Program.question (Ask.start c engine)

/-- The stop of one engine, and whether it took. -/
def stop (c : Controller) (engine : Engine) : HostProgram Bool :=
  Program.question (Ask.stop c engine)

/-- What a controller says of its processes. -/
def diagnostics (c : Controller) : HostProgram ProcessDiagnostics :=
  Program.question (Ask.diagnostics c)

/-- The controller is given up, with what still runs under it. -/
def drop (c : Controller) : HostProgram Unit := Program.question (Ask.drop c)

end Controller

/-- The controller in use and what it was last seen to run. -/
structure Active where
  generation : Nat
  controller : Controller
  xray : Bool
  mihomo : Bool

/-- Whether the host holds the engine for running. -/
def Active.running (a : Active) : Engine → Bool
  | .xray => a.xray
  | .mihomo => a.mihomo

/-- The same, set. -/
def Active.setRunning (a : Active) (engine : Engine) (running : Bool) : Active :=
  match engine with
  | .xray => { a with xray := running }
  | .mihomo => { a with mihomo := running }

/-- `RuntimeHost`: at most one generation is active. -/
structure RuntimeHost where
  active : Option Active

/-- A diagnostic line as it may leave the host. -/
def brokerSafeLog (message : String) : String :=
  let trimmed := Text.trimStart message
  let lower := Text.lower trimmed
  if Text.contains message ":\\" || Text.contains message ":/" || Text.contains message "\\\\" ||
      Text.startsWith trimmed "\x7b" || Text.startsWith trimmed "[" ||
      Text.contains lower "\"outbounds\"" || Text.contains lower "proxies:" then
    "[redacted privileged diagnostic]"
  else message

/-- The elevated host only runs TUN mode, so a disabled tunnel never reaches it. -/
def RuntimeCheckState.elevated : RuntimeCheckState → ElevatedRuntimeState
  | .stopped => .stopped
  | .starting => .starting
  | .ready => .ready
  | .failed => .failed
  | .unsupported => .unsupported
  | .disabled => .unsupported

namespace RuntimeHost

/-- The host gives its controller up, if no engine is marked running. -/
def releaseIdle (a : Active) : HostProgram RuntimeHost :=
  if a.xray || a.mihomo then pure ⟨some a⟩
  else do
    a.controller.drop
    pure ⟨none⟩

/-- Whether an engine that was started still runs. -/
def anyCoreAlive (h : RuntimeHost) : HostProgram Bool :=
  match h.active with
  | none => pure false
  | some a =>
    if !a.xray && !a.mihomo then pure false
    else do
      let diagnostics ← a.controller.diagnostics
      pure (diagnostics.xray != .stopped || diagnostics.mihomo != .stopped)

/-- Stops what is left of a generation, whatever the stops answer, and drops its controller. -/
def discardActive (h : RuntimeHost) : HostProgram RuntimeHost :=
  match h.active with
  | none => pure h
  | some a => do
    let _ ← a.controller.stop .mihomo
    let _ ← a.controller.stop .xray
    a.controller.drop
    pure ⟨none⟩

/-- A start is delegated to the controller also for an engine marked running: the controller
confirms a live core and starts an exited one again. -/
def delegate (a : Active) (engine : Engine) : HostProgram (RuntimeHost × ElevationResponse) := do
  match ← a.controller.start engine with
  | .ok () => pure (⟨some (a.setRunning engine true)⟩, .started engine)
  | .error code => do
    let h ← releaseIdle (a.setRunning engine false)
    pure (h, .error code)

/-- The start of an engine under the generation in use, which is made when there is none. -/
def startIn (h : RuntimeHost) (generation : Nat) (engine : Engine) :
    HostProgram (RuntimeHost × ElevationResponse) :=
  match h.active with
  | some a =>
    if engine = .mihomo ∧ a.xray = false then pure (h, .error .notReady) else delegate a engine
  | none =>
    if engine = .mihomo then pure (h, .error .notReady)
    else do
      match ← createController generation with
      | none => pure (h, .error .notReady)
      | some controller => delegate ⟨generation, controller, false, false⟩ engine

/-- `start`: another generation is replaced only when nothing of it runs. -/
def start (h : RuntimeHost) (generation : Nat) (engine : Engine) :
    HostProgram (RuntimeHost × ElevationResponse) :=
  if h.active.any fun a => a.generation != generation then do
    if ← h.anyCoreAlive then pure (h, .error .generationMismatch)
    else do
      -- Every core of the previous generation was seen stopped, or could not be inspected.
      let h ← h.discardActive
      h.startIn generation engine
  else h.startIn generation engine

/-- Stops one engine that is marked running, without a look at the other. -/
def stopOne (h : RuntimeHost) (engine : Engine) : HostProgram (RuntimeHost × Bool) :=
  match h.active with
  | none => pure (h, true)
  | some a =>
    if a.running engine then do
      if ← a.controller.stop engine then do
        let h ← releaseIdle (a.setRunning engine false)
        pure (h, true)
      else pure (h, false)
    else do
      let h ← releaseIdle a
      pure (h, true)

/-- Stops an engine; Mihomo goes before Xray. -/
def stop (h : RuntimeHost) (engine : Engine) : HostProgram (RuntimeHost × Bool) :=
  if engine = .xray ∧ (h.active.any fun a => a.mihomo) = true then do
    let (h, stopped) ← h.stopOne .mihomo
    if stopped then h.stopOne .xray else pure (h, false)
  else h.stopOne engine

/-- `shutdown`: Mihomo first, then Xray, then the controller. -/
def shutdown (h : RuntimeHost) : HostProgram RuntimeHost := do
  let (h, _) ← h.stop .mihomo
  let (h, _) ← h.stop .xray
  match h.active with
  | none => pure h
  | some a => do
    a.controller.drop
    pure ⟨none⟩

/-- The newest records that fit into one frame. -/
def trimmed (fits : ElevationResponse → Bool) (d : ProcessDiagnostics) :
    List ElevatedLogRecord → ElevationResponse
  | [] =>
    let response := .processDiagnostics d.xray.elevated d.mihomo.elevated d.tun.elevated []
    if fits response then response else .error .notReady
  | record :: logs =>
    let response :=
      .processDiagnostics d.xray.elevated d.mihomo.elevated d.tun.elevated (record :: logs)
    if fits response then response else trimmed fits d logs

/-- `diagnostics`: as many log records as fit into one answer. -/
def diagnostics (fits : ElevationResponse → Bool) (h : RuntimeHost) :
    HostProgram ElevationResponse := do
  let found ← match h.active with
    | none => pure ProcessDiagnostics.default
    | some a => a.controller.diagnostics
  pure (trimmed fits found
    (found.logs.map fun record => { record with message := brokerSafeLog record.message }))

/-- One command of the daemon. `fits` says whether an answer fits into a frame. -/
def execute (fits : ElevationResponse → Bool) (h : RuntimeHost) :
    ElevationCommand → HostProgram (RuntimeHost × ElevationResponse)
  | .startXray generationId => h.start generationId .xray
  | .startMihomo generationId => h.start generationId .mihomo
  | .stop engine => do
    let (h, stopped) ← h.stop engine
    pure (h, if stopped then .stopped engine else .error .notReady)
  | .diagnostics => do
    let response ← h.diagnostics fits
    pure (h, response)
  | .shutdown => do
    let h ← h.shutdown
    pure (h, .shuttingDown)

end RuntimeHost

end MultiCore.Host
