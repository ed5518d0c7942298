import Mathlib.Tactic.Common

/-!
# Commands and answers of the always-ready service

The messages of the service channel as the daemon and the service exchange
them. Byte offsets, generations and times are unbounded naturals here: no
definition below depends on their width.
-/

namespace MultiCore

/-- Why the privileged side refused a request. -/
inductive BrokerErrorCode where
  | notReady
  | unsupported
  | invalidRequest
  | authenticationFailed
  | timedOut
  | generationMismatch
  deriving DecidableEq, Repr

/-- State of one core, or of the TUN adapter, as a status or diagnostics answer reports it. -/
inductive ElevatedRuntimeState where
  | stopped
  | starting
  | ready
  | failed
  | unsupported
  deriving DecidableEq, Repr

/-- The two cores. -/
inductive Engine where
  | xray
  | mihomo
  deriving DecidableEq, Repr

/-- The packet-filter services troubleshooting may stop and delete. -/
inductive DpiService where
  | winDivert
  | winDivert14
  | zapret
  | goodbyeDpi
  deriving DecidableEq, Repr

/-- One privileged troubleshooting fix. -/
inductive PrivilegedFix where
  | winsockReset
  | winhttpResetProxy
  | resyncTime
  | removeDpiService (service : DpiService)
  | reinstallWintun
  | reinstallService
  deriving DecidableEq, Repr

/-- What one fix did. -/
inductive FixOutcome where
  | done
  | nothingToDo
  | failed
  deriving DecidableEq, Repr

/-- The service's own log and its rotated predecessor. -/
inductive ServiceLogFile where
  | current
  | previous
  deriving DecidableEq, Repr

/-- Where paging of the core journal continues. -/
structure CoreJournalCursor where
  segment : Nat
  offset : Nat
  deriving DecidableEq, Repr

/-- Where the service's update download is. -/
inductive ServiceUpdateStage where
  | idle
  | downloading
  | verifying
  deriving DecidableEq, Repr

/-- Where the daemon reaches the service's Mihomo, and the mixed port (0: none). -/
structure ControllerEndpoint where
  port : Nat
  secret : String
  mixedPort : Nat
  deriving DecidableEq, Repr

/-- The two output streams of a core. -/
inductive ElevatedDiagnosticStream where
  | stdout
  | stderr
  deriving DecidableEq, Repr

/-- One line of a core's output in a diagnostics answer. -/
structure ElevatedLogRecord where
  id : Nat
  timestampMs : Nat
  engine : Engine
  stream : ElevatedDiagnosticStream
  message : String
  deriving DecidableEq, Repr

/-- The requests of the service channel. -/
inductive ServiceCommand where
  | prepare (generationId : Nat)
  | setTun (on : Bool)
  | status
  | stop (engine : Engine)
  | diagnostics
  | shutdown
  | stageUpdate (version : String)
  | update (version : String)
  | troubleshoot (fixes : List PrivilegedFix)
  | serviceLog (file : ServiceLogFile) (before : Option Nat)
  | coreJournal (sinceMs : Nat) (cursor : Option CoreJournalCursor)
  | updateProgress
  deriving DecidableEq, Repr

/-- The answers of the service channel. -/
inductive ServiceResponse where
  | prepared (generationId : Nat) (controller : ControllerEndpoint)
  | tunState (on : Bool)
  | status (generationId : Option Nat) (xray mihomo : ElevatedRuntimeState) (tunOn : Bool)
      (failure : Option BrokerErrorCode)
  | stopped (engine : Engine)
  | processDiagnostics (xray mihomo tun : ElevatedRuntimeState) (logs : List ElevatedLogRecord)
  | shuttingDown
  | updateStaged (version : String)
  | updateStarted
  | updateProgress (stage : ServiceUpdateStage) (received total : Nat)
  | troubleshot (outcomes : List FixOutcome)
  | serviceLog (file : ServiceLogFile) (start stop : Nat) (text : String)
  | coreJournal (text : String) (next : Option CoreJournalCursor)
  | busy
  | error (code : BrokerErrorCode)
  deriving DecidableEq, Repr

end MultiCore
