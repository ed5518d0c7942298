import MultiCore.Service.Protocol

/-!
# The supervisor of both cores

A connection is two engines started in order and rolled back in part, over any
controller and in any monad: the controllers of this project run in different
ones. The supervisor's own lock is new with every supervisor and never waits.
-/

namespace MultiCore.Daemon

/-- Why a sidecar could not be started. -/
inductive StartFailureCause where
  | unknown
  | elevationCancelled
  | elevationFailed
  | brokerFailed
  | coreFailed
  | coreMissing
  | coreExited
  | readinessTimedOut
  | tunFailed
  | tunTimedOut
  | systemProxyFailed
  | serviceBusy
  deriving DecidableEq, Repr

/-- Starts and stops the engines. -/
structure ProcessController (M : Type → Type) (E : Type) where
  start : Engine → M (Except E Unit)
  stop : Engine → M (Except E Unit)
  startFailureCause : E → StartFailureCause

inductive SupervisorError where
  | startFailed (engine : Engine) (rollbackFailed : Bool) (cause : StartFailureCause)
  | stopFailed
  deriving DecidableEq, Repr

namespace Supervisor

variable {M : Type → Type} {E : Type} [Monad M]

/-- The failure of Mihomo's start, after Xray was stopped again. -/
def rollBack (controller : ProcessController M E) (error : E) :
    M (Except SupervisorError Unit) := do
  let xray ← controller.stop .xray
  return .error (.startFailed .mihomo (xray matches .error _) (controller.startFailureCause error))

/-- Starts Xray, then Mihomo; a failure of Mihomo stops Xray again. -/
def connect (controller : ProcessController M E) : M (Except SupervisorError Unit) := do
  match ← controller.start .xray with
  | .error error => return .error (.startFailed .xray false (controller.startFailureCause error))
  | .ok () =>
    match ← controller.start .mihomo with
    | .error error => rollBack controller error
    | .ok () => return .ok ()

/-- The outcome of stopping both engines. -/
def stopped {E : Type} : Except E Unit → Except E Unit → Except SupervisorError Unit
  | .ok (), .ok () => .ok ()
  | _, _ => .error .stopFailed

/-- Stops Mihomo and then Xray, the second also when the first failed. -/
def disconnect (controller : ProcessController M E) : M (Except SupervisorError Unit) := do
  let mihomo ← controller.stop .mihomo
  let xray ← controller.stop .xray
  return stopped mihomo xray

end Supervisor

end MultiCore.Daemon
