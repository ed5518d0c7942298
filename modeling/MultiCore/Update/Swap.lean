import MultiCore.Library.Program
import MultiCore.Library.Text

/-!
# The install swap of the updater

The updater extracts the new version beside the installed one, publishes it with
two renames, starts the new client and waits for its start marker. A client that
does not start is rolled back with two more renames. Everything happens among
the entries of one directory, the parent of the install directory.
-/

namespace MultiCore.Update

open Faulty

/-- What counts of an error of the system. -/
structure IoError where
  permissionDenied : Bool
  rawOsError : Option Nat
  deriving DecidableEq, Repr

/-- Access denied, sharing violation, lock violation. -/
def isTransientLock (error : IoError) : Bool :=
  error.permissionDenied || error.rawOsError.any fun code => code ∈ [5, 32, 33]

/-- The updater's calls into its environment, on entries of the parent directory. -/
inductive UpdaterAsk where
  | verifyArchive
  | waitForProcessExit
  | canonicalizeTarget
  | parentIsRoot
  | readDir
  | exists (name : String)
  | isPortable (name : String)
  | extractVerifiedBundle (destination : String)
  | rename (source destination : String)
  | removeDirAll (name : String)
  | removeMarker
  | launch
  | readMarker
  | hasExited
  | removeArchive

/-- What each call answers. -/
abbrev UpdaterAnswer : UpdaterAsk → Type
  | .verifyArchive => Bool
  | .waitForProcessExit => Except IoError Unit
  | .canonicalizeTarget => Except IoError String
  | .parentIsRoot => Bool
  | .readDir => List String
  | .exists _ => Bool
  | .isPortable _ => Bool
  | .extractVerifiedBundle _ => Bool
  | .rename _ _ => Except IoError Unit
  | .removeDirAll _ => Except IoError Unit
  | .removeMarker => Unit
  | .launch => Except IoError Unit
  | .readMarker => Option String
  | .hasExited => Bool
  | .removeArchive => Unit

/-- A part of the updater. -/
abbrev UpdaterProgram (α : Type) : Type := Program UpdaterAsk UpdaterAnswer α

/-- One call and its answer. -/
def call (q : UpdaterAsk) : UpdaterProgram (UpdaterAnswer q) := Program.question q

/-- Why an update failed. -/
inductive UpdateFailure where
  | notAbsolute
  | archiveMismatch
  | io (error : IoError)
  | pathsExist
  | extraction
  | unsafeInstallDirectory
  | notIsolatedSiblings
  | invalidPortableDirectory (name : String)
  | publicationAndRollback (publish rollback : IoError)
  | notStarted (error : IoError)
  | exitedBeforeConfirming
  | rollback (failure : UpdateFailure) (error : IoError)
  deriving DecidableEq, Repr

/-- How an update ended that was not rolled back. -/
inductive Finalization where
  | confirmed (cleanup : Except IoError Unit)
  | unconfirmed

/-- What of a request to apply an update decides its course. -/
structure ApplyRequest where
  /-- Both paths of the request are absolute. -/
  absolute : Bool
  version : String
  processId : Nat

/-- The names of directories with an extracted version begin with it. -/
def stagePrefix : String := ".multicore-stage-"

/-- The names of directories with a previous version begin with it. -/
def backupPrefix : String := ".multicore-previous-"

/-- The names of directories with a version that did not start begin with it. -/
def failedPrefix : String := ".multicore-failed-"

namespace ApplyRequest

/-- What sets the directories of one attempt apart from those of others. -/
def suffix (request : ApplyRequest) : String :=
  request.version ++ "-" ++ toString request.processId

/-- Where the new version is extracted to. -/
def staged (request : ApplyRequest) : String := stagePrefix ++ request.suffix

/-- Where the previous version is moved to. -/
def backup (request : ApplyRequest) : String := backupPrefix ++ request.suffix

/-- Where a version that did not start is moved to. -/
def failed (request : ApplyRequest) : String := failedPrefix ++ toString request.processId

end ApplyRequest

/-- So many attempts are made at one rename. -/
def renameRetryAttempts : Nat := 40

/-- The attempts at a rename, while another process has the directory open. -/
def retryTransient (source destination : String) : Nat → UpdaterProgram (Except IoError Unit)
  | 0 => call (.rename source destination)
  | remaining + 1 => do
    match ← call (.rename source destination) with
    | .ok () => pure (.ok ())
    | .error error =>
      if isTransientLock error then retryTransient source destination remaining
      else pure (.error error)

/-- A rename with all its attempts. -/
def renameWithRetry (source destination : String) : UpdaterProgram (Except IoError Unit) :=
  retryTransient source destination (renameRetryAttempts - 1)

/-- Publishes the staged directory; the previous one is put back when that fails. -/
def transactionalSwapWith (target staged backup : String) :
    UpdaterProgram (Except UpdateFailure Unit) := do
  match ← renameWithRetry target backup with
  | .error error => pure (.error (.io error))
  | .ok () =>
    match ← renameWithRetry staged target with
    | .ok () => pure (.ok ())
    | .error publishError =>
      match ← renameWithRetry backup target with
      | .error rollbackError => pure (.error (.publicationAndRollback publishError rollbackError))
      | .ok () => pure (.error (.io publishError))

/-- The paths of a swap are siblings below a directory that is not a root. -/
def validateSwapPaths (target staged backup : String) :
    UpdaterProgram (Except UpdateFailure Unit) := do
  if ← call .parentIsRoot then pure (.error .unsafeInstallDirectory)
  else if target == staged || target == backup || staged == backup then
    pure (.error .notIsolatedSiblings)
  else if ← call (.exists backup) then pure (.error .notIsolatedSiblings)
  else if !(← call (.isPortable target)) then pure (.error (.invalidPortableDirectory target))
  else if !(← call (.isPortable staged)) then pure (.error (.invalidPortableDirectory staged))
  else pure (.ok ())

/-- The swap, once its paths have passed. -/
def transactionalSwap (target staged backup : String) :
    UpdaterProgram (Except UpdateFailure Unit) := do
  match ← validateSwapPaths target staged backup with
  | .error failure => pure (.error failure)
  | .ok () => transactionalSwapWith target staged backup

/-- Removes the directories that interrupted attempts left, out of these entries; backups of
previous versions stay. -/
def removeStaleWorkDirectories : List String → UpdaterProgram Unit
  | [] => pure ()
  | name :: names => do
    if Text.startsWith name stagePrefix || Text.startsWith name failedPrefix then
      let _ ← call (.removeDirAll name)
    removeStaleWorkDirectories names

/-- Moves the new version out of the way and the previous one back. -/
def rollbackAfterLaunchFailure (target backup failed : String) :
    UpdaterProgram (Except IoError Unit) := do
  match ← renameWithRetry target failed with
  | .error error => pure (.error error)
  | .ok () =>
    match ← renameWithRetry backup target with
    | .error rollbackError => do
      let _ ← renameWithRetry failed target
      pure (.error rollbackError)
    | .ok () => do
      let _ ← call (.removeDirAll failed)
      pure (.ok ())

/-- Whether the start marker names this version. -/
def markerConfirms (version : String) (content : Option String) : Bool :=
  content.any fun text => Text.trim text == version

/-- Polls in the time a client has to confirm its start, 60 s at 250 ms. -/
def startupPolls : Nat := 240

/-- What waiting for a client's confirmation came to. -/
inductive Awaited where
  | confirmed
  | exited
  | unconfirmed

/-- One poll. The marker is read once more after the client was seen to exit: it may have
confirmed just before. -/
def pollConfirmation (version : String) : UpdaterProgram (Option Awaited) := do
  if markerConfirms version (← call .readMarker) then pure (some .confirmed)
  else if ← call .hasExited then
    if markerConfirms version (← call .readMarker) then pure (some .confirmed)
    else pure (some .exited)
  else pure none

/-- Polls until the client confirms its start or exits. -/
def awaitConfirmation (version : String) : Nat → UpdaterProgram Awaited
  | 0 => do
    match ← pollConfirmation version with
    | some outcome => pure outcome
    | none => pure .unconfirmed
  | polls + 1 => do
    match ← pollConfirmation version with
    | some outcome => pure outcome
    | none => awaitConfirmation version polls

/-- The failure of a client's start, after the previous version was put back. -/
def rollBack (target backup failed : String) (failure : UpdateFailure) :
    UpdaterProgram (Except UpdateFailure Finalization) := do
  match ← rollbackAfterLaunchFailure target backup failed with
  | .error error => pure (.error (.rollback failure error))
  | .ok () => pure (.error failure)

/-- Starts the client and waits; the previous version goes once it is not needed any more. -/
def launchAndFinalize (request : ApplyRequest) (target : String) :
    UpdaterProgram (Except UpdateFailure Finalization) := do
  match ← call .launch with
  | .error error => rollBack target request.backup request.failed (.notStarted error)
  | .ok () =>
    match ← awaitConfirmation request.version startupPolls with
    | .confirmed => do
      let cleanup ← call (.removeDirAll request.backup)
      pure (.ok (.confirmed cleanup))
    | .unconfirmed => pure (.ok .unconfirmed)
    | .exited => rollBack target request.backup request.failed .exitedBeforeConfirming

/-- The update from the point where its target is known and its archive was verified again. -/
def install (request : ApplyRequest) (target : String) :
    UpdaterProgram (Except UpdateFailure Finalization) := do
  removeStaleWorkDirectories (← call .readDir)
  if ← call (.exists request.staged) then pure (.error .pathsExist)
  else if ← call (.exists request.backup) then pure (.error .pathsExist)
  else if !(← call (.extractVerifiedBundle request.staged)) then pure (.error .extraction)
  else
    match ← transactionalSwap target request.staged request.backup with
    | .error failure => do
      let _ ← call (.removeDirAll request.staged)
      pure (.error failure)
    | .ok () => do
      call .removeMarker
      match ← launchAndFinalize request target with
      | .error failure => pure (.error failure)
      | .ok outcome => do
        call .removeArchive
        pure (.ok outcome)

/-- The whole update: the archive is verified before the old client has exited, and again after. -/
def applyUpdate (request : ApplyRequest) : UpdaterProgram (Except UpdateFailure Finalization) := do
  if !request.absolute then pure (.error .notAbsolute)
  else if !(← call .verifyArchive) then pure (.error .archiveMismatch)
  else
    match ← call .waitForProcessExit with
    | .error error => pure (.error (.io error))
    | .ok () =>
      match ← call .canonicalizeTarget with
      | .error error => pure (.error (.io error))
      | .ok target =>
        if !(← call .verifyArchive) then pure (.error .archiveMismatch)
        else install request target

end MultiCore.Update
