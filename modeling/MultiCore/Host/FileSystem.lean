import MultiCore.Host.RuntimePaths
import Mathlib.Logic.Function.Basic

/-!
# The file system under the resolver

Objects with an owner and a mode, directories with named entries, and the
handles the host holds. Between any two calls of the host the client may rename,
replace or relink whatever it can write: the model lets it change all entries and
all contents, but no object's kind or owner. The calls are recorded as far as
they say what a handle was seen to be.
-/

namespace MultiCore.Host

open Faulty

/-- What a path may lead to. -/
structure Node where
  kind : FileKind
  uid : Nat
  mode : Nat
  entries : String → Option Nat
  content : List UInt8
  /-- Where a symbolic link leads. -/
  link : UnixPath

/-- What a handle refers to, and the directory and name it was opened by. -/
structure Opened where
  node : Nat
  place : Option (Handle × String)
  deriving DecidableEq, Repr

/-- The file system, and what was said of it so far. -/
structure FileSystem where
  root : Nat
  nodes : Nat → Option Node
  opened : Handle → Option Opened
  /-- What the system said of open handles. -/
  stats : List (Handle × FileStat)
  /-- The images that were validated, as they were then. -/
  validated : List (Handle × List UInt8)
  /-- How paths were resolved, newest first. -/
  resolutions : List (UnixPath × List String)
  /-- What was read, newest first. -/
  reads : List (Handle × List UInt8)

namespace FileSystem

/-- The file behind an open handle, whatever its path leads to by now. -/
def nodeOf (s : FileSystem) (handle : Handle) : Option Node :=
  (s.opened handle).bind fun opened => s.nodes opened.node

/-- How a path was resolved last. -/
def lastResolution (s : FileSystem) (path : UnixPath) : Option (List String) :=
  (s.resolutions.find? fun resolution => resolution.1 = path).map Prod.snd

/-- Objects stay what they are and belong to whom they belong. -/
def SameObjects (s t : FileSystem) : Prop :=
  ∀ n a, s.nodes n = some a → ∃ b, t.nodes n = some b ∧ b.kind = a.kind ∧ b.uid = a.uid

/-- What a client can make of the file system. -/
structure Interferes (s t : FileSystem) : Prop where
  objects : s.SameObjects t
  root : t.root = s.root
  opened : t.opened = s.opened
  stats : t.stats = s.stats
  validated : t.validated = s.validated
  resolutions : t.resolutions = s.resolutions
  reads : t.reads = s.reads

/-- What is known of a file system stays known. -/
structure Extends (s t : FileSystem) : Prop where
  objects : s.SameObjects t
  root : t.root = s.root
  opened : ∀ h r, s.opened h = some r → t.opened h = some r
  stats : s.stats ⊆ t.stats
  validated : s.validated ⊆ t.validated

end FileSystem

open FileSystem

/-- What a call does, the client apart. -/
inductive PathResponds : (q : PathAsk) → FileSystem → PathAnswer q → FileSystem → Prop
  | rootNotOpened (s : FileSystem) : PathResponds .openRoot s none s
  | rootOpened (s : FileSystem) (h : Handle) (fresh : s.opened h = none) :
      PathResponds .openRoot s (some h)
        { s with opened := Function.update s.opened h (some ⟨s.root, none⟩) }
  | notOpened (s : FileSystem) (parent : Handle) (name : String) (directory : Bool)
      (error : OpenError) : PathResponds (.openAt parent name directory) s (.error error) s
  /-- A link is not followed, and only a directory has entries. -/
  | opened (s : FileSystem) (parent h : Handle) (name : String) (directory : Bool) (d a : Node)
      (n : Nat) (below : s.nodeOf parent = some d) (isDirectory : d.kind = .directory)
      (entry : d.entries name = some n) (found : s.nodes n = some a) (noLink : a.kind ≠ .symlink)
      (asked : directory = true → a.kind = .directory) (fresh : s.opened h = none) :
      PathResponds (.openAt parent name directory) s (.ok h)
        { s with opened := Function.update s.opened h (some ⟨n, some (parent, name)⟩) }
  | lookedAt (s : FileSystem) (parent : Handle) (name : String) (link : Bool) :
      PathResponds (.isSymlinkAt parent name) s link s
  | noMetadata (s : FileSystem) (h : Handle) : PathResponds (.metadata h) s none s
  | metadata (s : FileSystem) (h : Handle) (r : Opened) (a : Node) (opened : s.opened h = some r)
      (found : s.nodes r.node = some a) :
      PathResponds (.metadata h) s (some ⟨a.kind, a.uid, a.mode, r.node⟩)
        { s with stats := (h, ⟨a.kind, a.uid, a.mode, r.node⟩) :: s.stats }
  | notCloned (s : FileSystem) (h : Handle) : PathResponds (.tryClone h) s none s
  /-- A clone refers to the same open file. -/
  | cloned (s : FileSystem) (h : Handle) : PathResponds (.tryClone h) s (some h) s
  | linkMetadata (s : FileSystem) (path : UnixPath) (stat : Option FileStat) :
      PathResponds (.symlinkMetadata path) s stat s
  | notCanonical (s : FileSystem) (path : UnixPath) : PathResponds (.canonicalize path) s none s
  | canonical (s : FileSystem) (path : UnixPath) (target : List String) :
      PathResponds (.canonicalize path) s (some target)
        { s with resolutions := (path, target) :: s.resolutions }
  | notValidated (s : FileSystem) (h : Handle) : PathResponds (.validateElf h) s false s
  | validated (s : FileSystem) (h : Handle) (a : Node) (found : s.nodeOf h = some a)
      (isFile : a.kind = .file) (valid : validElf64 a.content = true) :
      PathResponds (.validateElf h) s true { s with validated := (h, a.content) :: s.validated }
  | notRead (s : FileSystem) (h : Handle) (limit : Nat) : PathResponds (.readFile h limit) s none s
  | read (s : FileSystem) (h : Handle) (limit : Nat) (a : Node) (found : s.nodeOf h = some a)
      (isFile : a.kind = .file) :
      PathResponds (.readFile h limit) s (some (a.content.take limit))
        { s with reads := (h, a.content.take limit) :: s.reads }

/-- The environment of the resolver: calls with the client at work in between. A path is resolved
in many steps, so under a client that moves things meanwhile it may resolve to anything. -/
def pathEnvironment : Environment PathAsk PathAnswer FileSystem := fun q s answer t =>
  ∃ u v, Interferes s u ∧ PathResponds q u answer v ∧ Interferes v t

namespace FileSystem

/-- The directory reached by walking these entries from the root. -/
def reached (s : FileSystem) (walked : List (String × Nat)) : Nat :=
  (walked.getLast?.map Prod.snd).getD s.root

/-- The entries a path leads through in the end, links followed. -/
def walk (s : FileSystem) :
    (fuel : Nat) → (walked : List (String × Nat)) → List PathComponent →
      Option (List (String × Nat))
  | 0, _, _ => none
  | _ + 1, walked, [] => some walked
  | fuel + 1, walked, .curDir :: rest => s.walk fuel walked rest
  | fuel + 1, walked, .parentDir :: rest => s.walk fuel walked.dropLast rest
  | fuel + 1, walked, .normal name :: rest => do
    let directory ← s.nodes (s.reached walked)
    let n ← directory.entries name
    let found ← s.nodes n
    if found.kind = .symlink then
      s.walk fuel (if found.link.absolute then [] else walked) (found.link.components ++ rest)
    else s.walk fuel (walked ++ [(name, n)]) rest

/-- More steps than any path without a loop of links takes here. -/
def walkLimit : Nat := 256

/-- The path without links, if it leads somewhere. -/
def realpath (s : FileSystem) (path : UnixPath) : Option (List String) :=
  (s.walk walkLimit [] path.components).map fun walked => walked.map Prod.fst

/-- What stands at a path, a link itself where it is one. -/
def lstat (s : FileSystem) (path : UnixPath) : Option FileStat := do
  let parent ← path.parent
  let name ← path.fileName
  let walked ← s.walk walkLimit [] parent.components
  let directory ← s.nodes (s.reached walked)
  let n ← directory.entries name
  let found ← s.nodes n
  some ⟨found.kind, found.uid, found.mode, n⟩

/-- The system by itself, that hands out this handle. -/
def answered (fresh : Handle) : (q : PathAsk) → FileSystem → PathAnswer q × FileSystem
  | .openRoot, s =>
    if s.opened fresh = none then
      (some fresh, { s with opened := Function.update s.opened fresh (some ⟨s.root, none⟩) })
    else (none, s)
  | .openAt parent name directory, s =>
    match s.nodeOf parent with
    | none => (.error .other, s)
    | some d =>
      match d.entries name with
      | none => (.error .notFound, s)
      | some n =>
        match s.nodes n with
        | none => (.error .notFound, s)
        | some a =>
          if d.kind = .directory ∧ a.kind ≠ .symlink ∧ (directory = true → a.kind = .directory) ∧
              s.opened fresh = none then
            (.ok fresh,
              { s with opened := Function.update s.opened fresh (some ⟨n, some (parent, name)⟩) })
          else (.error .other, s)
  | .isSymlinkAt parent name, s =>
    let entry := (s.nodeOf parent).bind fun d => (d.entries name).bind s.nodes
    (entry.any fun a => a.kind = .symlink, s)
  | .metadata h, s =>
    match s.opened h with
    | none => (none, s)
    | some r =>
      match s.nodes r.node with
      | none => (none, s)
      | some a =>
        let stat : FileStat := ⟨a.kind, a.uid, a.mode, r.node⟩
        (some stat, { s with stats := (h, stat) :: s.stats })
  | .tryClone h, s => (some h, s)
  | .symlinkMetadata path, s => (s.lstat path, s)
  | .canonicalize path, s =>
    match s.realpath path with
    | none => (none, s)
    | some target => (some target, { s with resolutions := (path, target) :: s.resolutions })
  | .validateElf h, s =>
    match s.nodeOf h with
    | none => (false, s)
    | some a =>
      if a.kind = .file ∧ validElf64 a.content = true then
        (true, { s with validated := (h, a.content) :: s.validated })
      else (false, s)
  | .readFile h limit, s =>
    match s.nodeOf h with
    | none => (none, s)
    | some a =>
      if a.kind = .file then
        (some (a.content.take limit), { s with reads := (h, a.content.take limit) :: s.reads })
      else (none, s)

/-- The system by itself answers as it may. -/
theorem answered_responds (fresh : Handle) (q : PathAsk) (s : FileSystem) :
    PathResponds q s (answered fresh q s).1 (answered fresh q s).2 := by
  cases q with
  | openRoot =>
    by_cases hfresh : s.opened fresh = none
    · simp only [answered, if_pos hfresh]
      exact .rootOpened s fresh hfresh
    · simp only [answered, if_neg hfresh]
      exact .rootNotOpened s
  | openAt parent name directory =>
    cases hbelow : s.nodeOf parent with
    | none =>
      simp only [answered, hbelow]
      exact .notOpened s parent name directory .other
    | some d =>
      cases hentry : d.entries name with
      | none =>
        simp only [answered, hbelow, hentry]
        exact .notOpened s parent name directory .notFound
      | some n =>
        cases hfound : s.nodes n with
        | none =>
          simp only [answered, hbelow, hentry, hfound]
          exact .notOpened s parent name directory .notFound
        | some a =>
          by_cases hopens : d.kind = .directory ∧ a.kind ≠ .symlink ∧
              (directory = true → a.kind = .directory) ∧ s.opened fresh = none
          · simp only [answered, hbelow, hentry, hfound, if_pos hopens]
            obtain ⟨hdirectory, hlink, hasked, hfresh⟩ := hopens
            exact .opened s parent fresh name directory d a n hbelow hdirectory hentry hfound hlink
              hasked hfresh
          · simp only [answered, hbelow, hentry, hfound, if_neg hopens]
            exact .notOpened s parent name directory .other
  | isSymlinkAt parent name => exact .lookedAt s parent name _
  | metadata h =>
    cases hopened : s.opened h with
    | none =>
      simp only [answered, hopened]
      exact .noMetadata s h
    | some r =>
      cases hfound : s.nodes r.node with
      | none =>
        simp only [answered, hopened, hfound]
        exact .noMetadata s h
      | some a =>
        simp only [answered, hopened, hfound]
        exact .metadata s h r a hopened hfound
  | tryClone h => exact .cloned s h
  | symlinkMetadata path => exact .linkMetadata s path _
  | canonicalize path =>
    cases hpath : s.realpath path with
    | none =>
      simp only [answered, hpath]
      exact .notCanonical s path
    | some target =>
      simp only [answered, hpath]
      exact .canonical s path target
  | validateElf h =>
    cases hnode : s.nodeOf h with
    | none =>
      simp only [answered, hnode]
      exact .notValidated s h
    | some a =>
      by_cases hvalid : a.kind = .file ∧ validElf64 a.content = true
      · simp only [answered, hnode, if_pos hvalid]
        exact .validated s h a hnode hvalid.1 hvalid.2
      · simp only [answered, hnode, if_neg hvalid]
        exact .notValidated s h
  | readFile h limit =>
    cases hnode : s.nodeOf h with
    | none =>
      simp only [answered, hnode]
      exact .notRead s h limit
    | some a =>
      by_cases hfile : a.kind = .file
      · simp only [answered, hnode, if_pos hfile]
        exact .read s h limit a hnode hfile
      · simp only [answered, hnode, if_neg hfile]
        exact .notRead s h limit

/-- The system with a client that acts before each call. -/
def system (client : Nat → FileSystem → FileSystem) (n : Nat) (q : PathAsk) (s : FileSystem) :
    PathAnswer q × FileSystem :=
  answered n q (client n s)

theorem system_environment {client : Nat → FileSystem → FileSystem}
    (h : ∀ n s, Interferes s (client n s)) (n : Nat) (q : PathAsk) (s : FileSystem) :
    pathEnvironment q s (system client n q s).1 (system client n q s).2 :=
  ⟨client n s, (system client n q s).2, h n s, answered_responds n q (client n s),
    ⟨fun _ a ha => ⟨a, ha, rfl, rfl⟩, rfl, rfl, rfl, rfl, rfl, rfl⟩⟩

end FileSystem

namespace FileSystem

theorem SameObjects.refl (s : FileSystem) : s.SameObjects s := fun _ a h => ⟨a, h, rfl, rfl⟩

theorem SameObjects.trans {s t u : FileSystem} (h : s.SameObjects t) (k : t.SameObjects u) :
    s.SameObjects u := by
  intro n a hn
  obtain ⟨b, hb, hkind, huid⟩ := h n a hn
  obtain ⟨c, hc, hkind', huid'⟩ := k n b hb
  exact ⟨c, hc, hkind'.trans hkind, huid'.trans huid⟩

theorem Interferes.refl (s : FileSystem) : Interferes s s :=
  ⟨.refl s, rfl, rfl, rfl, rfl, rfl, rfl⟩

theorem Extends.refl (s : FileSystem) : Extends s s :=
  ⟨.refl s, rfl, fun _ _ h => h, List.Subset.refl _, List.Subset.refl _⟩

theorem Extends.trans {s t u : FileSystem} (h : Extends s t) (k : Extends t u) : Extends s u where
  objects := h.objects.trans k.objects
  root := k.root.trans h.root
  opened := fun handle r hr => k.opened handle r (h.opened handle r hr)
  stats := List.Subset.trans h.stats k.stats
  validated := List.Subset.trans h.validated k.validated

theorem Interferes.extends {s t : FileSystem} (h : Interferes s t) : Extends s t where
  objects := h.objects
  root := h.root
  opened := fun handle r hr => by rw [h.opened]; exact hr
  stats := by rw [h.stats]; exact List.Subset.refl _
  validated := by rw [h.validated]; exact List.Subset.refl _

/-- A handle that was fresh refers to nothing known. -/
private theorem extends_open {s : FileSystem} {h : Handle} (fresh : s.opened h = none)
    (r : Opened) : Extends s { s with opened := Function.update s.opened h (some r) } where
  objects := .refl s
  root := rfl
  opened := by
    intro handle r' hr'
    by_cases hsame : handle = h
    · rw [hsame, fresh] at hr'
      exact nomatch hr'
    · exact (Function.update_of_ne hsame _ _).trans hr'
  stats := List.Subset.refl _
  validated := List.Subset.refl _

theorem extends_of_responds {q : PathAsk} {s t : FileSystem} {answer : PathAnswer q}
    (h : PathResponds q s answer t) : Extends s t := by
  cases h with
  | rootOpened _ _ fresh => exact extends_open fresh _
  | opened _ _ _ _ _ _ _ _ _ _ _ _ _ _ fresh => exact extends_open fresh _
  | metadata => exact ⟨.refl s, rfl, fun _ _ h => h, List.subset_cons_self _ _, List.Subset.refl _⟩
  | validated => exact ⟨.refl s, rfl, fun _ _ h => h, List.Subset.refl _, List.subset_cons_self _ _⟩
  | canonical => exact ⟨.refl s, rfl, fun _ _ h => h, List.Subset.refl _, List.Subset.refl _⟩
  | read => exact ⟨.refl s, rfl, fun _ _ h => h, List.Subset.refl _, List.Subset.refl _⟩
  | _ => exact .refl s

/-- Every call keeps what is known. -/
theorem extends_of_environment {q : PathAsk} {s t : FileSystem} {answer : PathAnswer q}
    (h : pathEnvironment q s answer t) : Extends s t := by
  obtain ⟨u, v, hbefore, hcall, hafter⟩ := h
  exact (hbefore.extends.trans (extends_of_responds hcall)).trans hafter.extends

/-- The object behind a handle stays what it is. -/
theorem Extends.nodeOf {s t : FileSystem} (h : Extends s t) {handle : Handle} {a : Node}
    (hnode : s.nodeOf handle = some a) :
    ∃ b, t.nodeOf handle = some b ∧ b.kind = a.kind ∧ b.uid = a.uid := by
  unfold FileSystem.nodeOf at *
  cases hr : s.opened handle with
  | none => simp [hr] at hnode
  | some r =>
    rw [hr, Option.bind_some] at hnode
    rw [h.opened handle r hr, Option.bind_some]
    exact h.objects r.node a hnode

end FileSystem

end MultiCore.Host
