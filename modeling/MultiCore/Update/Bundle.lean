import MultiCore.Library.Lines
import MultiCore.Library.Program
import MultiCore.Library.Text
import MultiCore.Library.Utf8

/-!
# Extraction of a verified bundle

The updater extracts an archive into a fresh directory. A first pass over the
entries checks names, kinds and sizes, the inventory in the archive must list
exactly its files, and a second pass writes every entry and compares its digest.
-/

namespace MultiCore.Update

open Faulty

/-- The `UpdateError`s of an extraction, with the message of the bundles that are refused. -/
inductive BundleError where
  | invalidBundle (message : String)
  | zip
  | io
  deriving DecidableEq, Repr

/-- What the directory of an archive says of an entry; names are characters here. -/
structure ArchiveEntry where
  name : List Char
  isDir : Bool
  size : Nat
  unixMode : Option Nat
  deriving DecidableEq, Repr

/-- The calls of the extraction, on paths below the destination. -/
inductive BundleAsk where
  | exists
  | createDir
  | removeDirAll
  | openArchive
  | byIndex (index : Nat)
  | byName (name : List Char)
  | readToEnd (name : List Char)
  | createDirAll (path : List (List Char))
  | createFile (path : List (List Char))
  | read (index : Nat)
  | write (path : List (List Char)) (bytes : List UInt8)
  | flush (path : List (List Char))
  | validatePe (path : List (List Char))

/-- What the system may answer to each question. -/
abbrev BundleAnswer : BundleAsk → Type
  | .exists => Bool
  | .createDir => Bool
  | .removeDirAll => Bool
  | .openArchive => Except BundleError (List ArchiveEntry)
  | .byIndex _ => Bool
  | .byName _ => Option ArchiveEntry
  | .readToEnd _ => Option (List UInt8)
  | .createDirAll _ => Bool
  | .createFile _ => Bool
  | .read _ => Option (List UInt8)
  | .write _ _ => Bool
  | .flush _ => Bool
  | .validatePe _ => Except BundleError Unit

/-- Programs that end with the first error. -/
abbrev Extracting (α : Type) : Type := ExceptT BundleError (Program BundleAsk BundleAnswer) α

/-- One question to the system. -/
def askBundle (q : BundleAsk) : Extracting (BundleAnswer q) := ExceptT.lift (Program.question q)

/-- A refusal of the bundle. -/
def invalid {α : Type} (message : String) : Extracting α := throw (.invalidBundle message)

/-- Goes on where a call succeeded. -/
def ensure (error : BundleError) : Bool → Extracting Unit
  | true => pure ()
  | false => throw error

/-- The ordinary components of a relative path, if it has no others. -/
def normalComponents (path : List Char) : Option (List (List Char)) :=
  let parts := Text.pieces (· == '/') path
  if parts.head? = some ['.'] then none
  else
    let parts := parts.filter fun part => part ≠ [] ∧ part ≠ ['.']
    if parts.contains ['.', '.'] then none else some parts

/-- The path of an entry in the form in which names are compared. -/
def safeArchiveName (raw : List Char) : Except BundleError (List Char) :=
  if raw.isEmpty || raw.head? = some '/' || raw.contains '\\' || raw.contains ':' ||
      raw.any fun c => c.toNat < 0x20 then
    .error (.invalidBundle "unsafe archive path")
  else
    let isDir := raw.getLast? = some '/'
    let trimmed := raw.rdropWhile (· == '/')
    match normalComponents trimmed with
    | none => .error (.invalidBundle "unsafe archive path")
    | some parts =>
      if trimmed.isEmpty then .error (.invalidBundle "unsafe archive path")
      else .ok (['/'].intercalate parts ++ if isDir then ['/'] else [])

/-- Names with one key collide. -/
def collisionKey (name : List Char) : List Char := name.map Text.lowerChar

/-- The components of an entry's path below the destination. -/
def outputPath (name : List Char) : List (List Char) :=
  (Text.pieces (· == '/') name).filter (· ≠ [])

/-- `valid_sha256`: 64 digits in lower case. -/
def validSha256 (digest : List Char) : Bool :=
  digest.length = 64 &&
    digest.all fun c => Text.isDigit c || (97 ≤ c.toNat && c.toNat ≤ 102)

/-- The inventory's own name, `SHA256SUMS.txt`. -/
def checksumsName : List Char := "SHA256SUMS.txt".toList

/-- The digests an inventory lists, by file name. -/
abbrev Checksums := List (List Char × List Char)

/-- A text line without its end. -/
def stripLineEnd (line : List Char) : List Char :=
  if line.getLast? = some '\n' then
    if line.dropLast.getLast? = some '\r' then line.dropLast.dropLast else line.dropLast
  else line

/-- One more line of an inventory. -/
def parseChecksumLine (checksums : Checksums) (line : List Char) : Except BundleError Checksums :=
  match Text.splitOnceAt " *".toList line with
  | none => .error (.invalidBundle "invalid checksum line")
  | some (digest, raw) => do
    let name ← safeArchiveName raw
    if name.getLast? = some '/' || name = checksumsName || !validSha256 digest then
      .error (.invalidBundle "invalid checksum inventory entry")
    else if checksums.any fun listed => listed.1 = name then
      .error (.invalidBundle "duplicate checksum inventory entry")
    else .ok (checksums ++ [(name, digest)])

/-- `parse_checksums`: every line a digest and a name, no name twice. -/
def parseChecksums (bytes : List UInt8) : Except BundleError Checksums :=
  match Utf8.fromUtf8 bytes with
  | none => .error (.invalidBundle "checksum inventory is not UTF-8")
  | some text => do
    let lines := (Lines.lines '\n' text).map stripLineEnd
    let checksums ← lines.foldlM parseChecksumLine []
    if checksums.isEmpty then .error (.invalidBundle "checksum inventory is empty")
    else .ok checksums

/-- `MAX_EXPANDED_BYTES`, one gibibyte. -/
def maxExpandedBytes : Nat := 1024 * 1024 * 1024

/-- `MAX_ARCHIVE_ENTRIES`. -/
def maxArchiveEntries : Nat := 256

/-- The limit of a call, never above the fixed one. -/
def effectiveExpandedLimit (requested : Nat) : Nat := min requested maxExpandedBytes

/-- A symbolic link of a Unix archive. -/
def isUnixLink (entry : ArchiveEntry) : Bool :=
  entry.unixMode.any fun mode => mode &&& 0o170000 = 0o120000

/-- What the first pass has seen: the names in lower case, the files and their bytes. -/
structure Scanned where
  names : List (List Char)
  files : List (List Char)
  expandedBytes : Nat

/-- The first pass over the entries. -/
def scanEntries (maxBytes : Nat) : List (ArchiveEntry × Nat) → Scanned → Extracting Scanned
  | [], seen => pure seen
  | (entry, index) :: entries, seen => do
    ensure .zip (← askBundle (.byIndex index))
    let name ← ExceptT.mk (pure (safeArchiveName entry.name))
    if seen.names.contains (collisionKey name) then invalid "duplicate archive path"
    else if isUnixLink entry then invalid "archive links are not allowed"
    else
      let names := collisionKey name :: seen.names
      if entry.isDir then scanEntries maxBytes entries { seen with names }
      else if 2 ^ 64 ≤ seen.expandedBytes + entry.size then
        invalid "expanded archive size overflow"
      else if maxBytes < seen.expandedBytes + entry.size then
        invalid "expanded archive is too large"
      else
        scanEntries maxBytes entries
          { names, files := name :: seen.files, expandedBytes := seen.expandedBytes + entry.size }

/-- The inventory in the archive. -/
def readChecksums : Extracting Checksums := do
  match ← askBundle (.byName checksumsName) with
  | none => throw .zip
  | some entry =>
    if 64 * 1024 < entry.size then invalid "checksum inventory is too large"
    else
      match ← askBundle (.readToEnd checksumsName) with
      | none => throw .io
      | some bytes => ExceptT.mk (pure (parseChecksums bytes))

/-- Whether two lists have the same elements. -/
def sameFiles (a b : List (List Char)) : Bool := a.all b.contains && b.all a.contains

/-- `REQUIRED_BUNDLE_FILES`: what every Windows bundle has to hold. -/
def requiredBundleFiles : List (List Char) :=
  ["MultiCore.exe", "README.md", "THIRD_PARTY_NOTICES.md", "cores/mihomo.exe", "cores/xray.exe",
    "licenses/Xray-core-MPL-2.0.txt", "licenses/mihomo-GPL-3.0.txt",
    "runtime/multicore-core-host.exe", "runtime/multicore-daemon.exe",
    "runtime/multicore-updater.exe", "versions.json"].map String.toList

/-- `REQUIRED_PE_FILES`: what is checked to be a Windows executable. -/
def requiredPeFiles : List (List Char) :=
  ["MultiCore.exe", "cores/mihomo.exe", "cores/xray.exe", "runtime/multicore-core-host.exe",
    "runtime/multicore-daemon.exe", "runtime/multicore-updater.exe"].map String.toList

/-- Copies an entry into its file, up to its declared size, and returns what was written. -/
def copyEntry (maxBytes index size : Nat) (path : List (List Char)) (content : List UInt8) :
    Extracting (List UInt8) := do
  match ← askBundle (.read index) with
  | none => throw .io
  | some chunk =>
    if _ : chunk = [] then pure content
    else if _ : size < content.length + chunk.length ∨
        maxBytes < content.length + chunk.length then
      invalid "archive entry exceeded its declared size"
    else
      ensure .io (← askBundle (.write path chunk))
      copyEntry maxBytes index size path (content ++ chunk)
  termination_by size - content.length
  decreasing_by
    have hchunk : 0 < chunk.length := List.length_pos_iff.2 ‹_›
    rw [List.length_append]
    omega

/-- Writes one entry and compares its digest. -/
def extractEntry (sha256 : List UInt8 → List Char) (checksums : Checksums) (maxBytes : Nat)
    (entry : ArchiveEntry) (index : Nat) : Extracting Unit := do
  ensure .zip (← askBundle (.byIndex index))
  let name ← ExceptT.mk (pure (safeArchiveName entry.name))
  let path := outputPath name
  if entry.isDir then ensure .io (← askBundle (.createDirAll path))
  else
    ensure .io (← askBundle (.createDirAll path.dropLast))
    ensure .io (← askBundle (.createFile path))
    let content ← copyEntry maxBytes index entry.size path []
    ensure .io (← askBundle (.flush path))
    if content.length ≠ entry.size then invalid "archive entry size mismatch"
    else if name ≠ checksumsName ∧ checksums.lookup name ≠ some (sha256 content) then
      invalid ("checksum mismatch: " ++ String.ofList name)
    else pure ()

/-- The loop over the archive's entries, in their order. -/
def extractEntries (sha256 : List UInt8 → List Char) (checksums : Checksums) (maxBytes : Nat) :
    List (ArchiveEntry × Nat) → Extracting Unit
  | [] => pure ()
  | (entry, index) :: entries => do
    extractEntry sha256 checksums maxBytes entry index
    extractEntries sha256 checksums maxBytes entries

/-- The loop over the executables; the first that is refused ends it. -/
def validateExecutables : List (List Char) → Extracting Unit
  | [] => pure ()
  | name :: names => do
    match ← askBundle (.validatePe (outputPath name)) with
    | .error error => throw error
    | .ok () => validateExecutables names

/-- `BundleInventory`: what a call reports of the bundle it extracted. -/
structure BundleInventory where
  files : Nat
  expandedBytes : Nat
  deriving DecidableEq, Repr

/-- `extract_verified_bundle_inner`: the inventory first, then every entry, then what is missing. -/
def extractVerifiedBundleInner (sha256 : List UInt8 → List Char) (maxBytes : Nat) :
    Extracting BundleInventory := do
  match ← askBundle .openArchive with
  | .error error => throw error
  | .ok archive =>
    if archive.isEmpty || maxArchiveEntries < archive.length then
      invalid "archive entry count is invalid"
    else
      let seen ← scanEntries maxBytes archive.zipIdx ⟨[], [], 0⟩
      if !seen.files.contains checksumsName then invalid "SHA256SUMS.txt is missing"
      else
        let checksums ← readChecksums
        let payload := seen.files.filter (· ≠ checksumsName)
        if !sameFiles payload (checksums.map Prod.fst) then
          invalid "checksum inventory does not match archive files"
        else
          match requiredBundleFiles.find? fun required => !payload.contains required with
          | some required => invalid ("required bundle file is missing: " ++ String.ofList required)
          | none =>
            extractEntries sha256 checksums maxBytes archive.zipIdx
            validateExecutables requiredPeFiles
            pure ⟨seen.files.length, seen.expandedBytes⟩

/-- The extraction into a new directory, which is removed where it fails. -/
def extractVerifiedBundle (sha256 : List UInt8 → List Char) (requested : Nat) :
    Extracting BundleInventory := do
  let maxBytes := effectiveExpandedLimit requested
  if ← askBundle .exists then invalid "extraction destination already exists"
  else
    ensure .io (← askBundle .createDir)
    tryCatch (extractVerifiedBundleInner sha256 maxBytes) fun error => do
      let _ ← askBundle .removeDirAll
      throw error

end MultiCore.Update
