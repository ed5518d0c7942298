import MultiCore.Library.Program
import Mathlib.Data.List.Basic

/-!
# The paths of a runtime generation

Before the host runs anything it opens every directory and file of the layout
by itself, each component relative to the directory opened before it and without
following links, checks what it has opened and keeps the handles. The staged
configurations are read through these handles later.
-/

namespace MultiCore.Host

open Faulty

/-- Why no paths are resolved. -/
inductive ResolveError where
  | invalidGeneration
  | context
  | layout
  | symlink
  | escape
  | missing
  | ownership
  | invalidElf
  | io
  deriving DecidableEq, Repr

/-- A component of a path below its root. -/
inductive PathComponent where
  | normal (name : String)
  | parentDir
  | curDir
  deriving DecidableEq, Repr

/-- The name of a component that is one. -/
def PathComponent.asName : PathComponent → Option String
  | normal name => some name
  | _ => none

/-- A path of components, below the root where it is absolute. -/
structure UnixPath where
  absolute : Bool
  components : List PathComponent
  deriving DecidableEq, Repr

namespace UnixPath

/-- The path without its last component. -/
def parent (path : UnixPath) : Option UnixPath :=
  if path.components.isEmpty then none
  else some { path with components := path.components.dropLast }

/-- The name that is the last component. -/
def fileName (path : UnixPath) : Option String :=
  path.components.getLast?.bind PathComponent.asName

/-- The path with one name more. -/
def join (path : UnixPath) (name : String) : UnixPath :=
  { path with components := path.components ++ [.normal name] }

/-- The names below the root, of an absolute path of names only. -/
def names (path : UnixPath) : Option (List String) :=
  if path.absolute then path.components.mapM PathComponent.asName else none

end UnixPath

/-- Kinds of file system objects. -/
inductive FileKind where
  | directory
  | file
  | symlink
  | special
  deriving DecidableEq, Repr

/-- What the system says of an object. -/
structure FileStat where
  kind : FileKind
  uid : Nat
  mode : Nat
  identity : Nat
  deriving DecidableEq, Repr

/-- An open file of the host. -/
abbrev Handle := Nat

/-- A component that is held open, and what identifies the object behind it. -/
structure GuardedPath where
  path : List String
  handle : Handle
  identity : Nat
  deriving DecidableEq, Repr

/-- A little-endian number in the bytes of an image. -/
def numberAt (image : List UInt8) (offset width : Nat) : Nat :=
  ((image.drop offset).take width).foldr (fun byte rest => byte.toNat + 256 * rest) 0

/-- An executable image for 64-bit x86 with a program header table inside the file; a shared object
counts with an interpreter only. -/
def validElf64 (image : List UInt8) : Bool :=
  let kind := numberAt image 16 2
  let tableOffset := numberAt image 32 8
  let headers := numberAt image 56 2
  let tableBytes := headers * 56
  let hasInterpreter :=
    (List.range headers).any fun i => numberAt image (tableOffset + 56 * i) 4 == 3
  64 ≤ image.length && image.take 4 == [0x7f, 0x45, 0x4c, 0x46] && numberAt image 4 1 == 2 &&
    numberAt image 5 1 == 1 && numberAt image 6 1 == 1 && (kind == 2 || kind == 3) &&
    numberAt image 18 2 == 62 && numberAt image 20 4 == 1 && numberAt image 52 2 == 64 &&
    numberAt image 54 2 == 56 && headers != 0 && headers ≤ 512 && 64 ≤ tableOffset &&
    tableOffset + tableBytes ≤ image.length && (kind == 2 || hasInterpreter)

/-- The host's calls into the system. -/
inductive PathAsk where
  | openRoot
  | openAt (parent : Handle) (name : String) (directory : Bool)
  | isSymlinkAt (parent : Handle) (name : String)
  | metadata (handle : Handle)
  | tryClone (handle : Handle)
  | symlinkMetadata (path : UnixPath)
  | canonicalize (path : UnixPath)
  | validateElf (handle : Handle)
  | readFile (handle : Handle) (limit : Nat)

/-- Why a component could not be opened. -/
inductive OpenError where
  | notFound
  | other
  deriving DecidableEq, Repr

/-- What each call answers. -/
abbrev PathAnswer : PathAsk → Type
  | .openRoot => Option Handle
  | .openAt _ _ _ => Except OpenError Handle
  | .isSymlinkAt _ _ => Bool
  | .metadata _ => Option FileStat
  | .tryClone _ => Option Handle
  | .symlinkMetadata _ => Option FileStat
  | .canonicalize _ => Option (List String)
  | .validateElf _ => Bool
  | .readFile _ _ => Option (List UInt8)

/-- Programs that end with the first error. -/
abbrev Resolving (α : Type) : Type := ExceptT ResolveError (Program PathAsk PathAnswer) α

/-- One call and its answer. -/
def askSystem (q : PathAsk) : Resolving (PathAnswer q) := ExceptT.lift (Program.question q)

/-- The error stands for a missing answer. -/
def orThrow {α : Type} (error : ResolveError) : Option α → Resolving α
  | some a => pure a
  | none => throw error

/-- In such a directory only the owner of an entry removes it. -/
def stickyBit : Nat := 0o1000

/-- Others than the owner may write. -/
def groupOrOtherWrite : Nat := 0o022

/-- What a component must be to be guarded. -/
def checkOpened (stat : FileStat) (directory finalComponent : Bool) (ownerUid : Nat)
    (ownedByClient : Bool) : Except ResolveError Unit :=
  if (stat.kind == .directory) != directory || (!directory && stat.kind != .file) then
    .error .layout
  else if (stat.uid != 0 || ownedByClient) && stat.uid != ownerUid then .error .ownership
  else
    let sharedStickyRoot :=
      directory && !finalComponent && stat.uid == 0 && stat.mode &&& stickyBit != 0
    if stat.mode &&& groupOrOtherWrite != 0 && !sharedStickyRoot then .error .ownership
    else .ok ()

/-- Opens one component below an open directory, without following a link, and checks it. -/
def openGuard (parent : Handle) (path : List String) (name : String)
    (directory finalComponent : Bool) (ownerUid : Nat) (ownedByClient : Bool) :
    Resolving GuardedPath := do
  match ← askSystem (.openAt parent name directory) with
  | .error error => do
    if ← askSystem (.isSymlinkAt parent name) then throw .symlink
    else if error = .notFound then throw .missing
    else throw .layout
  | .ok handle => do
    let stat ← orThrow .io (← askSystem (.metadata handle))
    match checkOpened stat directory finalComponent ownerUid ownedByClient with
    | .error error => throw error
    | .ok () => pure ⟨path, handle, stat.identity⟩

/-- A path with what it is expected to be. -/
structure PathRole where
  path : UnixPath
  directory : Bool
  stagedConfig : Bool

/-- The components of a chain below those already walked; one that is guarded already is not
opened again. -/
def guardBelow (role : PathRole) (ownerUid : Nat) (parent : Handle) (walked : List String) :
    List String → List GuardedPath → Resolving (List GuardedPath)
  | [], guards => pure guards
  | name :: names, guards => do
    match guards.find? fun guard => guard.path = walked ++ [name] with
    | some existing => do
      let parent ← orThrow .io (← askSystem (.tryClone existing.handle))
      guardBelow role ownerUid parent (walked ++ [name]) names guards
    | none => do
      let finalComponent := names.isEmpty
      let guard ← openGuard parent (walked ++ [name]) name (!finalComponent || role.directory)
        finalComponent ownerUid (finalComponent && role.stagedConfig)
      let parent ← orThrow .io (← askSystem (.tryClone guard.handle))
      guardBelow role ownerUid parent (walked ++ [name]) names (guards ++ [guard])

/-- Guards every component of a path, from the root down. -/
def guardChain (role : PathRole) (ownerUid : Nat) (guards : List GuardedPath) :
    Resolving (List GuardedPath) := do
  let names ← orThrow .layout role.path.names
  let root ← orThrow .io (← askSystem .openRoot)
  guardBelow role ownerUid root [] names guards

/-- Guards every component of some paths. -/
def guardChains (ownerUid : Nat) :
    List PathRole → List GuardedPath → Resolving (List GuardedPath)
  | [], guards => pure guards
  | role :: roles, guards => do
    let guards ← guardChain role ownerUid guards
    guardChains ownerUid roles guards

/-- The file name of the host itself. -/
def hostName : String := "multicore-core-host"

/-- The paths of one generation. -/
structure RuntimeLayout where
  dataRoot : UnixPath
  runtimeRoot : UnixPath
  generationDir : UnixPath
  package : UnixPath
  runtimeDir : UnixPath
  cores : UnixPath
  dashboard : UnixPath
  hostExecutable : UnixPath
  xray : UnixPath
  mihomo : UnixPath
  xrayConfig : UnixPath
  mihomoConfig : UnixPath

/-- The name of a generation's directory, its number in twenty digits. -/
def generationName (generation : Nat) : String :=
  let digits := toString generation
  "runtime-" ++ String.ofList (List.replicate (20 - digits.length) '0') ++ digits

/-- The paths of a generation, for a host in the runtime directory of its package. -/
def runtimeLayout (dataRoot hostExecutable : UnixPath) (generation : Nat) :
    Except ResolveError RuntimeLayout :=
  if generation = 0 then .error .invalidGeneration
  else
    match hostExecutable.parent with
    | none => .error .layout
    | some runtimeDir =>
      if runtimeDir.fileName ≠ some "runtime" ∨ hostExecutable.fileName ≠ some hostName then
        .error .layout
      else
        match runtimeDir.parent with
        | none => .error .layout
        | some package =>
          let cores := package.join "cores"
          let runtimeRoot := dataRoot.join "runtime"
          let generationDir := runtimeRoot.join (generationName generation)
          .ok
            { dataRoot, runtimeRoot, generationDir, package, runtimeDir, cores, hostExecutable
              dashboard := package.join "dashboard"
              xray := cores.join "xray"
              mihomo := cores.join "mihomo"
              xrayConfig := generationDir.join "xray.json"
              mihomoConfig := generationDir.join "mihomo.yaml" }

namespace RuntimeLayout

/-- The directories are guarded before the files below them. -/
def directoryRoles (l : RuntimeLayout) (dashboardPresent : Bool) : List PathRole :=
  ([l.dataRoot, l.runtimeRoot, l.generationDir, l.package, l.runtimeDir, l.cores] ++
    if dashboardPresent then [l.dashboard] else []).map fun path => ⟨path, true, false⟩

/-- The files that are guarded; the client owns the two configurations. -/
def fileRoles (l : RuntimeLayout) : List PathRole :=
  [l.hostExecutable, l.xray, l.mihomo, l.xrayConfig, l.mihomoConfig].map fun path =>
    ⟨path, false, path = l.xrayConfig || path = l.mihomoConfig⟩

end RuntimeLayout

/-- The paths that the cores are started with. -/
structure RuntimePaths where
  xrayBinary : List String
  mihomoBinary : List String
  xrayConfig : List String
  mihomoConfig : List String
  dashboardDirectory : Option (List String)
  mihomoHomeDirectory : Option (List String)

/-- The resolved paths, and the handles behind them. -/
structure ResolvedRuntime where
  paths : RuntimePaths
  dataRoot : List String
  guards : List GuardedPath

/-- A path without links, as the system resolves it. -/
def canonical (path : UnixPath) : Resolving (List String) := do
  orThrow .missing (← askSystem (.canonicalize path))

/-- Every path must resolve below this directory. -/
def requireBelow (directory : List String) : List UnixPath → Resolving Unit
  | [] => pure ()
  | path :: paths => do
    if directory.isPrefixOf (← canonical path) then requireBelow directory paths
    else throw .escape

/-- The dashboard, where there is one. -/
def canonicalDashboard (dashboardPresent : Bool) (dashboard : UnixPath) (package : List String) :
    Resolving (Option (List String)) :=
  if dashboardPresent then do
    let found ← canonical dashboard
    if package.isPrefixOf found then pure (some found) else throw .escape
  else pure none

/-- The newest guard of a core binary is validated through its handle. -/
def validateBinaries (guards : List GuardedPath) : List UnixPath → Resolving Unit
  | [] => pure ()
  | binary :: binaries => do
    let guard ← orThrow .missing
      (guards.reverse.find? fun guard => binary.names = some guard.path)
    if ← askSystem (.validateElf guard.handle) then validateBinaries guards binaries
    else throw .invalidElf

/-- Guards the chains first, resolves the paths then, and validates the binaries through their
handles. -/
def resolveLayout (l : RuntimeLayout) (ownerUid : Nat) : Resolving ResolvedRuntime := do
  let dashboardPresent := (← askSystem (.symlinkMetadata l.dashboard)).isSome
  let guards ← guardChains ownerUid (l.directoryRoles dashboardPresent) []
  let guards ← guardChains ownerUid l.fileRoles guards
  let canonicalPackage ← canonical l.package
  let canonicalGeneration ← canonical l.generationDir
  let canonicalData ← canonical l.dataRoot
  if !canonicalData.isPrefixOf canonicalGeneration then throw .escape
  requireBelow canonicalPackage [l.hostExecutable, l.xray, l.mihomo]
  requireBelow canonicalGeneration [l.xrayConfig, l.mihomoConfig]
  let dashboardDirectory ← canonicalDashboard dashboardPresent l.dashboard canonicalPackage
  validateBinaries guards [l.xray, l.mihomo]
  let xrayBinary ← canonical l.xray
  let mihomoBinary ← canonical l.mihomo
  let xrayConfig ← canonical l.xrayConfig
  let mihomoConfig ← canonical l.mihomoConfig
  pure
    { paths := ⟨xrayBinary, mihomoBinary, xrayConfig, mihomoConfig, dashboardDirectory, none⟩
      dataRoot := canonicalData
      guards }

/-- The paths of a generation for the client that asks. -/
def resolveFrom (dataRoot hostExecutable : UnixPath) (generation ownerUid : Nat) :
    Resolving ResolvedRuntime := do
  match runtimeLayout dataRoot hostExecutable generation with
  | .error error => throw error
  | .ok l => resolveLayout l ownerUid

/-- The first of these guards that has this file name and is a regular file. -/
def findGuarded (name : Option String) : List GuardedPath → Resolving GuardedPath
  | [] => throw .missing
  | guard :: guards => do
    if guard.path.getLast? = name then
      if (← askSystem (.metadata guard.handle)).any fun stat => stat.kind = .file then pure guard
      else findGuarded name guards
    else findGuarded name guards

/-- Reads a guarded file, matched by its name, through the handle that was opened for it. -/
def ResolvedRuntime.readGuarded (resolved : ResolvedRuntime) (path : List String) (limit : Nat) :
    Resolving (List UInt8) := do
  let guard ← findGuarded path.getLast? resolved.guards.reverse
  let bytes ← orThrow .io (← askSystem (.readFile guard.handle (limit + 1)))
  if bytes.length > limit then throw .layout else pure bytes

end MultiCore.Host
