import Mathlib.Tactic.Common

/-!
# The connection state machine

The five states of the daemon's connection and the moves between them.
-/

namespace MultiCore.Daemon

/-- The state of the daemon's connection. -/
inductive ConnectionState where
  | empty
  | ready
  | connecting
  | connected
  | error
  deriving DecidableEq, Repr

/-- The moves the state machine allows. -/
def ConnectionState.allows : ConnectionState → ConnectionState → Bool
  | .empty, .ready | .empty, .error => true
  | .ready, .connecting | .ready, .empty => true
  | .connecting, .connected | .connecting, .error | .connecting, .ready => true
  | .connected, .ready | .connected, .error => true
  | .error, .connecting | .error, .ready | .error, .empty => true
  | _, _ => false

/-- The state after a move, when the state machine allows it. -/
def ConnectionState.transition (state next : ConnectionState) : Option ConnectionState :=
  if state.allows next then some next else none

/-- A move that is not allowed leaves the state alone. -/
def ConnectionState.moved (state next : ConnectionState) : ConnectionState :=
  (state.transition next).getD state

end MultiCore.Daemon
