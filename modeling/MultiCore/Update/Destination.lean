import MultiCore.Update.Bundle
import Mathlib.Logic.Function.Basic

/-!
# The disk under an extraction

Directories and files by their place, that is by the components of a path as the
file system tells them apart: two names that it takes for one have one place.
Every call may fail, and a call that fails may have been carried out in part.
-/

namespace MultiCore.Update

open Faulty

/-- What stands at a place of the disk. -/
inductive DiskNode where
  | directory
  | file (content : List UInt8)
  deriving DecidableEq, Repr

/-- The disk, and what the run has asked of it so far. -/
structure Disk where
  node : List (List Char) → Option DiskNode
  /-- How many bytes were written so far. -/
  written : Nat
  /-- The inventory that was read. -/
  listing : Option (List UInt8)
  removalFailed : Bool

/-- Where an extraction goes: the place of the destination, and when names are the same. -/
structure Target where
  /-- Names with one image are one name. -/
  fold : List Char → List Char
  destination : List (List Char)

namespace Target

variable (d : Target)

/-- The place of the destination. -/
def root : List (List Char) := d.destination.map d.fold

/-- The place of a path below the destination. -/
def place (path : List (List Char)) : List (List Char) := d.root ++ path.map d.fold

/-- Every place the extraction uses is under the destination. -/
theorem root_prefix_place (path : List (List Char)) : d.root <+: d.place path :=
  List.prefix_append _ _

end Target

/-- The disk with the destination as a new directory, which is empty. -/
def Disk.withRoot (s : Disk) (d : Target) : Disk :=
  { s with node := fun q =>
      if d.root <+: q then if q = d.root then some .directory else none else s.node q }

/-- Directories that were made on the way to a path. -/
def MadeDirs (d : Target) (path : List (List Char)) (s t : Disk) : Prop :=
  ∀ q, t.node q = s.node q ∨
    (∃ p, p <+: path ∧ q = d.place p) ∧ s.node q = none ∧ t.node q = some .directory

/-- What a call of the extraction does. -/
inductive BundleResponds (d : Target) (archive : List ArchiveEntry) :
    (q : BundleAsk) → Disk → BundleAnswer q → Disk → Prop
  | notFound (s : Disk) : BundleResponds d archive .exists s false s
  | found (s : Disk) (present : s.node d.root ≠ none) : BundleResponds d archive .exists s true s
  | notCreated (s : Disk) : BundleResponds d archive .createDir s false s
  | created (s : Disk) (absent : s.node d.root = none) :
      BundleResponds d archive .createDir s true (s.withRoot d)
  | removed (s : Disk) (node : List (List Char) → Option DiskNode)
      (outside : ∀ q, ¬d.root <+: q → node q = s.node q)
      (inside : ∀ q, d.root <+: q → node q = none) :
      BundleResponds d archive .removeDirAll s true { s with node }
  | notRemoved (s : Disk) (node : List (List Char) → Option DiskNode)
      (outside : ∀ q, ¬d.root <+: q → node q = s.node q) :
      BundleResponds d archive .removeDirAll s false { s with node, removalFailed := true }
  | notOpened (s : Disk) (error : BundleError) :
      BundleResponds d archive .openArchive s (.error error) s
  | opened (s : Disk) : BundleResponds d archive .openArchive s (.ok archive) s
  | byIndex (s : Disk) (index : Nat) (ok : Bool) :
      BundleResponds d archive (.byIndex index) s ok s
  | notNamed (s : Disk) (name : List Char) : BundleResponds d archive (.byName name) s none s
  | named (s : Disk) (name : List Char) (entry : ArchiveEntry) (mem : entry ∈ archive)
      (same : entry.name = name) : BundleResponds d archive (.byName name) s (some entry) s
  | notReadToEnd (s : Disk) (name : List Char) :
      BundleResponds d archive (.readToEnd name) s none s
  | readToEnd (s : Disk) (name : List Char) (bytes : List UInt8) :
      BundleResponds d archive (.readToEnd name) s (some bytes) { s with listing := some bytes }
  | dirs (s : Disk) (path : List (List Char)) (ok : Bool) (node : List (List Char) → Option DiskNode)
      (made : MadeDirs d path s { s with node }) :
      BundleResponds d archive (.createDirAll path) s ok { s with node }
  | notOpenedFile (s : Disk) (path : List (List Char)) :
      BundleResponds d archive (.createFile path) s false s
  /-- An existing file is cut to nothing. -/
  | openedFile (s : Disk) (path : List (List Char))
      (noDirectory : s.node (d.place path) ≠ some .directory) :
      BundleResponds d archive (.createFile path) s true
        { s with node := Function.update s.node (d.place path) (some (.file [])) }
  | read (s : Disk) (index : Nat) (chunk : Option (List UInt8)) :
      BundleResponds d archive (.read index) s chunk s
  /-- Only some of the bytes are written where it fails. -/
  | wrote (s : Disk) (path : List (List Char)) (bytes part content : List UInt8) (ok : Bool)
      (file : s.node (d.place path) = some (.file content)) (prefixed : part <+: bytes)
      (all : ok = true → part = bytes) :
      BundleResponds d archive (.write path bytes) s ok
        { s with
          node := Function.update s.node (d.place path) (some (.file (content ++ part)))
          written := s.written + part.length }
  | notWritten (s : Disk) (path : List (List Char)) (bytes : List UInt8) :
      BundleResponds d archive (.write path bytes) s false s
  | flushed (s : Disk) (path : List (List Char)) (ok : Bool) :
      BundleResponds d archive (.flush path) s ok s
  | validated (s : Disk) (path : List (List Char)) (answer : Except BundleError Unit) :
      BundleResponds d archive (.validatePe path) s answer s

/-- The environment of the extraction. -/
def bundleEnvironment (d : Target) (archive : List ArchiveEntry) :
    Environment BundleAsk BundleAnswer Disk := BundleResponds d archive

/-- If the program succeeds it ends with `post`, and with `bad` where it fails. -/
abbrev Extracts {α : Type} (d : Target) (archive : List ArchiveEntry) (program : Extracting α)
    (post : α → Disk → Prop) (bad : Disk → Prop) (s : Disk) : Prop :=
  wp (bundleEnvironment d archive) (fun _ => True) program.run (fun result t =>
    match result with
    | .ok a => post a t
    | .error _ => bad t) s

namespace Extracts

variable {α β : Type} {d : Target} {archive : List ArchiveEntry} {s : Disk} {bad bad' : Disk → Prop}

/-- A postcondition may be weakened, for the answer and for the failure. -/
theorem mono {program : Extracting α} {post post' : α → Disk → Prop}
    (h : Extracts d archive program post bad s) (hpost : ∀ a t, post a t → post' a t)
    (hbad : ∀ t, bad t → bad' t) : Extracts d archive program post' bad' s := by
  apply wp_mono h
  intro result t ht
  cases result with
  | ok a => exact hpost a t ht
  | error error => exact hbad t ht

/-- A program that only answers. -/
theorem pure {a : α} {post : α → Disk → Prop} (h : post a s) :
    Extracts d archive (Pure.pure a : Extracting α) post bad s := h

/-- A program that only fails. -/
theorem throw {error : BundleError} {post : α → Disk → Prop} (h : bad s) :
    Extracts d archive (MonadExcept.throw error : Extracting α) post bad s := h

/-- A refusal fails, whatever its message. -/
theorem invalid {message : String} {post : α → Disk → Prop} (h : bad s) :
    Extracts d archive (Update.invalid message : Extracting α) post bad s := h

/-- The rule of composition: what follows runs from wherever the first part ended. -/
theorem bind {program : Extracting α} {rest : α → Extracting β} {post : β → Disk → Prop}
    (h : Extracts d archive program (fun a t => Extracts d archive (rest a) post bad t) bad s) :
    Extracts d archive (program >>= rest) post bad s := by
  rw [Extracts, ExceptT.run_bind, wp_bind]
  apply wp_mono h
  intro result t ht
  cases result with
  | ok a => exact ht
  | error error => exact ht

/-- The rule of a question: every answer that the environment allows. -/
theorem ask {q : BundleAsk} {post : BundleAnswer q → Disk → Prop}
    (h : ∀ answer t, BundleResponds d archive q s answer t → post answer t) :
    Extracts d archive (askBundle q) post bad s :=
  fun answer t hanswer => ⟨trivial, h answer t hanswer⟩

/-- A check passes when its condition holds and fails otherwise. -/
theorem ensure {error : BundleError} {ok : Bool} {post : Unit → Disk → Prop}
    (hok : ok = true → post () s) (hbad : ok = false → bad s) :
    Extracts d archive (Update.ensure error ok) post bad s := by
  cases ok with
  | true => exact Extracts.pure (hok rfl)
  | false => exact Extracts.throw (hbad rfl)

/-- An answer that was computed without the system. -/
theorem ofExcept {result : Except BundleError α} {post : α → Disk → Prop}
    (hok : ∀ a, result = .ok a → post a s) (hbad : bad s) :
    Extracts d archive (ExceptT.mk (Pure.pure result)) post bad s := by
  cases result with
  | ok a => exact hok a rfl
  | error error => exact hbad

/-- The rule of a handler: it runs from the state in which the program failed. -/
theorem catching {program : Extracting α} {handler : BundleError → Extracting α}
    {post : α → Disk → Prop}
    (h : Extracts d archive program post
      (fun t => ∀ error, Extracts d archive (handler error) post bad t) s) :
    Extracts d archive (tryCatch program handler) post bad s := by
  change wp _ _ (program.run >>= _) _ s
  rw [wp_bind]
  apply wp_mono h
  intro result t ht
  cases result with
  | ok a => exact ht
  | error error => exact ht error

end Extracts

end MultiCore.Update
