import MultiCore.Host.FileSystem

/-!
# Chains of guards

What the resolver knows of the components it has guarded, over all chains and
whatever the client does between two calls: each was opened below the guard of
its parent, is no link, and was checked. The chains share their common
components, so a component is checked in the first role that reaches it.
-/

namespace MultiCore.Host

open Faulty FileSystem

/-- If the program succeeds it ends with `post`, whatever the client does. -/
abbrev Walks {α : Type} (program : Resolving α) (post : α → FileSystem → Prop) (s : FileSystem) :
    Prop :=
  wp pathEnvironment (fun _ => True) program.run (fun result t => ∀ a, result = .ok a → post a t) s

namespace Walks

variable {α β : Type} {s : FileSystem}

theorem mono {program : Resolving α} {post post' : α → FileSystem → Prop}
    (h : Walks program post s) (hpost : ∀ a t, post a t → post' a t) : Walks program post' s :=
  wp_mono h fun _ _ hresult a ha => hpost a _ (hresult a ha)

theorem pure {a : α} {post : α → FileSystem → Prop} (h : post a s) :
    Walks (Pure.pure a : Resolving α) post s := by
  intro b hb
  obtain rfl : a = b := Except.ok.inj hb
  exact h

theorem throw {error : ResolveError} {post : α → FileSystem → Prop} :
    Walks (MonadExcept.throw error : Resolving α) post s :=
  fun _ hb => nomatch hb

theorem bind {program : Resolving α} {rest : α → Resolving β} {post : β → FileSystem → Prop}
    (h : Walks program (fun a t => Walks (rest a) post t) s) :
    Walks (program >>= rest) post s := by
  rw [Walks, ExceptT.run_bind, wp_bind]
  apply wp_mono h
  intro result t ht
  cases result with
  | ok a => exact ht a rfl
  | error error => exact fun _ hb => nomatch hb

theorem ask {q : PathAsk} {post : PathAnswer q → FileSystem → Prop}
    (h : ∀ answer t, pathEnvironment q s answer t → post answer t) :
    Walks (askSystem q) post s := by
  intro answer t hanswer
  refine ⟨trivial, fun a ha => ?_⟩
  obtain rfl : answer = a := Except.ok.inj ha
  exact h answer t hanswer

theorem orThrow {error : ResolveError} {found : Option α} {post : α → FileSystem → Prop}
    (h : ∀ a, found = some a → post a s) : Walks (orThrow error found) post s := by
  cases found with
  | some a => exact Walks.pure (h a rfl)
  | none => exact Walks.throw

end Walks

/-- The object behind a guard is of this kind. -/
def GuardedPath.KindIs (s : FileSystem) (kind : FileKind) (g : GuardedPath) : Prop :=
  ∃ a, s.nodeOf g.handle = some a ∧ a.kind = kind

/-- A regular file, of the client itself where `owned`. -/
def GuardedPath.FileOf (s : FileSystem) (ownerUid : Nat) (owned : Bool) (g : GuardedPath) : Prop :=
  ∃ a, s.nodeOf g.handle = some a ∧ a.kind = .file ∧ (owned = true → a.uid = ownerUid)

/-- The open directory a component is looked up in. -/
def ParentOf (guards : List GuardedPath) (s : FileSystem) (above : List String) (parent : Handle) :
    Prop :=
  above = [] ∧ s.opened parent = some ⟨s.root, none⟩ ∨
    ∃ p ∈ guards, p.path = above ∧ p.handle = parent

/-- A guard as it was opened and checked. -/
structure Checked (ownerUid : Nat) (guards : List GuardedPath) (s : FileSystem) (g : GuardedPath) :
    Prop where
  /-- It was opened by its name, relative to the open directory of its parent. -/
  chain : ∃ above name parent node d, g.path = above ++ [name] ∧
    s.opened g.handle = some ⟨node, some (parent, name)⟩ ∧ ParentOf guards s above parent ∧
    s.nodeOf parent = some d ∧ d.kind = .directory
  object : ∃ a, s.nodeOf g.handle = some a ∧ a.kind ≠ .symlink ∧ (a.uid = 0 ∨ a.uid = ownerUid)
  /-- When it was checked, others could write it only as a sticky directory of root. -/
  mode : ∃ stat, (g.handle, stat) ∈ s.stats ∧ (stat.mode &&& groupOrOtherWrite ≠ 0 →
    stat.kind = .directory ∧ stat.uid = 0 ∧ stat.mode &&& stickyBit ≠ 0)

theorem GuardedPath.KindIs.extends {s t : FileSystem} {kind : FileKind} {g : GuardedPath}
    (h : g.KindIs s kind) (he : Extends s t) : g.KindIs t kind := by
  obtain ⟨a, ha, hkind⟩ := h
  obtain ⟨b, hb, hkind', -⟩ := he.nodeOf ha
  exact ⟨b, hb, hkind'.trans hkind⟩

theorem GuardedPath.FileOf.extends {s t : FileSystem} {ownerUid : Nat} {owned : Bool}
    {g : GuardedPath} (h : g.FileOf s ownerUid owned) (he : Extends s t) :
    g.FileOf t ownerUid owned := by
  obtain ⟨a, ha, hkind, howned⟩ := h
  obtain ⟨b, hb, hkind', huid⟩ := he.nodeOf ha
  exact ⟨b, hb, hkind'.trans hkind, fun ho => huid.trans (howned ho)⟩

theorem GuardedPath.KindIs.unique {s : FileSystem} {kind kind' : FileKind} {g : GuardedPath}
    (h : g.KindIs s kind) (h' : g.KindIs s kind') : kind = kind' := by
  obtain ⟨a, ha, rfl⟩ := h
  obtain ⟨b, hb, rfl⟩ := h'
  obtain rfl : a = b := Option.some.inj (ha.symm.trans hb)
  rfl

theorem ParentOf.extends {guards guards' : List GuardedPath} {s t : FileSystem}
    {above : List String} {parent : Handle} (h : ParentOf guards s above parent)
    (hsub : guards ⊆ guards') (he : Extends s t) : ParentOf guards' t above parent := by
  rcases h with ⟨hroot, hopened⟩ | ⟨p, hp, hpath, hhandle⟩
  · refine Or.inl ⟨hroot, ?_⟩
    rw [he.root]
    exact he.opened _ _ hopened
  · exact Or.inr ⟨p, hsub hp, hpath, hhandle⟩

theorem Checked.extends {ownerUid : Nat} {guards guards' : List GuardedPath} {s t : FileSystem}
    {g : GuardedPath} (h : Checked ownerUid guards s g) (hsub : guards ⊆ guards')
    (he : Extends s t) : Checked ownerUid guards' t g where
  chain := by
    obtain ⟨above, name, parent, node, d, hpath, hopened, hparent, hd, hdirectory⟩ := h.chain
    obtain ⟨d', hd', hkind, -⟩ := he.nodeOf hd
    exact ⟨above, name, parent, node, d', hpath, he.opened _ _ hopened, hparent.extends hsub he,
      hd', hkind.trans hdirectory⟩
  object := by
    obtain ⟨a, ha, hlink, huid⟩ := h.object
    obtain ⟨b, hb, hkind, huid'⟩ := he.nodeOf ha
    exact ⟨b, hb, by rw [hkind]; exact hlink, by rw [huid']; exact huid⟩
  mode := by
    obtain ⟨stat, hstat, hmode⟩ := h.mode
    exact ⟨stat, he.stats hstat, hmode⟩

/-- What a check that was passed says. -/
theorem checkOpened_ok {stat : FileStat} {directory finalComponent ownedByClient : Bool}
    {ownerUid : Nat}
    (h : checkOpened stat directory finalComponent ownerUid ownedByClient = .ok ()) :
    stat.kind = (if directory then .directory else .file) ∧
      (stat.uid = 0 ∨ stat.uid = ownerUid) ∧ (ownedByClient = true → stat.uid = ownerUid) ∧
      (stat.mode &&& groupOrOtherWrite ≠ 0 →
        stat.kind = .directory ∧ stat.uid = 0 ∧ stat.mode &&& stickyBit ≠ 0) := by
  unfold checkOpened at h
  split at h
  · exact nomatch h
  rename_i hlayout
  split at h
  · exact nomatch h
  rename_i howner
  dsimp only at h
  split at h
  · exact nomatch h
  rename_i hmode
  have hkind : stat.kind = (if directory then .directory else .file) := by
    cases directory with
    | true => simpa using hlayout
    | false =>
      have hfile : ¬stat.kind = .directory ∧ stat.kind = .file := by simpa using hlayout
      exact hfile.2
  refine ⟨hkind, ?_, ?_, ?_⟩
  · by_contra hne
    rw [not_or] at hne
    exact howner (by simp [hne])
  · intro hclient
    by_contra hne
    exact howner (by simp [hclient, hne])
  · intro hwritable
    have hshared : directory = true ∧ stat.uid = 0 ∧ stat.mode &&& stickyBit ≠ 0 := by
      by_contra hne
      apply hmode
      simp only [hwritable, bne_iff_ne, ne_eq, not_false_eq_true, Bool.and_eq_true,
        Bool.not_eq_true', Bool.and_eq_false_iff, true_and]
      simp only [ne_eq] at hne
      by_cases hd : directory = true <;> by_cases hu : stat.uid = 0 <;> simp_all
    obtain ⟨hdirectory, hroot, hsticky⟩ := hshared
    rw [hkind, if_pos hdirectory]
    exact ⟨rfl, hroot, hsticky⟩

/-- A component right after it was opened and checked. -/
structure Guarded (parent : Handle) (path : List String) (name : String) (directory : Bool)
    (ownerUid : Nat) (ownedByClient : Bool) (g : GuardedPath) (s : FileSystem) : Prop where
  path : g.path = path
  opened : ∃ node, s.opened g.handle = some ⟨node, some (parent, name)⟩
  below : ∃ d, s.nodeOf parent = some d ∧ d.kind = .directory
  object : ∃ a, s.nodeOf g.handle = some a ∧ a.kind = (if directory then .directory else .file) ∧
    (a.uid = 0 ∨ a.uid = ownerUid) ∧ (ownedByClient = true → a.uid = ownerUid)
  mode : ∃ stat, (g.handle, stat) ∈ s.stats ∧ (stat.mode &&& groupOrOtherWrite ≠ 0 →
    stat.kind = .directory ∧ stat.uid = 0 ∧ stat.mode &&& stickyBit ≠ 0)

section Chains

variable {s : FileSystem}

/-- What a successful open says of its directory. -/
private theorem opened_answer {parent h : Handle} {name : String} {directory : Bool}
    {t : FileSystem} (hanswer : pathEnvironment (.openAt parent name directory) s (.ok h) t) :
    (∃ node, t.opened h = some ⟨node, some (parent, name)⟩) ∧
      ∃ d, t.nodeOf parent = some d ∧ d.kind = .directory := by
  obtain ⟨u, v, hbefore, hcall, hafter⟩ := hanswer
  cases hcall with
  | opened _ _ _ _ _ d a n below isDirectory entry found noLink asked fresh =>
    constructor
    · refine ⟨n, ?_⟩
      rw [hafter.opened]
      exact Function.update_self ..
    · have hsteps := (extends_of_responds (.opened u parent h name directory d a n below isDirectory
        entry found noLink asked fresh)).trans hafter.extends
      obtain ⟨d', hd', hkind, -⟩ := hsteps.nodeOf below
      exact ⟨d', hd', hkind.trans isDirectory⟩

/-- What the system says of a handle is true of its object, then and later. -/
theorem metadata_answer {h : Handle} {stat : FileStat} {t : FileSystem}
    (hanswer : pathEnvironment (.metadata h) s (some stat) t) :
    (h, stat) ∈ t.stats ∧
      ∃ a, t.nodeOf h = some a ∧ a.kind = stat.kind ∧ a.uid = stat.uid := by
  obtain ⟨u, v, hbefore, hcall, hafter⟩ := hanswer
  cases hcall with
  | metadata _ _ r a opened found =>
    constructor
    · rw [hafter.stats]
      exact List.mem_cons_self
    · have hnode : u.nodeOf h = some a := by rw [FileSystem.nodeOf, opened, Option.bind_some, found]
      have hsteps := (extends_of_responds (.metadata u h r a opened found)).trans hafter.extends
      exact hsteps.nodeOf hnode

theorem openGuard_spec (parent : Handle) (path : List String) (name : String)
    (directory finalComponent : Bool) (ownerUid : Nat) (ownedByClient : Bool) :
    Walks (openGuard parent path name directory finalComponent ownerUid ownedByClient)
      (fun g t => Extends s t ∧ Guarded parent path name directory ownerUid ownedByClient g t) s := by
  unfold openGuard
  apply Walks.bind
  apply Walks.ask
  intro answer t hopen
  cases answer with
  | error error =>
    apply Walks.bind
    apply Walks.ask
    intro link u _
    cases link with
    | true => exact Walks.throw
    | false =>
      by_cases hmissing : error = .notFound
      · simp only [Bool.false_eq_true, if_false, if_pos hmissing]
        exact Walks.throw
      · simp only [Bool.false_eq_true, if_false, if_neg hmissing]
        exact Walks.throw
  | ok h =>
    obtain ⟨⟨node, hopened⟩, d, hd, hdirectory⟩ := opened_answer hopen
    apply Walks.bind
    apply Walks.ask
    intro found u hmetadata
    apply Walks.bind
    apply Walks.orThrow
    rintro stat rfl
    obtain ⟨hstat, a, ha, hkind, huid⟩ := metadata_answer hmetadata
    have hext := extends_of_environment hmetadata
    cases hcheck : checkOpened stat directory finalComponent ownerUid ownedByClient with
    | error error => exact Walks.throw
    | ok done =>
      obtain ⟨hexpected, howner, hclient, hmode⟩ := checkOpened_ok hcheck
      obtain ⟨d', hd', hkind', -⟩ := hext.nodeOf hd
      apply Walks.pure
      refine ⟨(extends_of_environment hopen).trans hext, rfl, ⟨node, hext.opened _ _ hopened⟩,
        ⟨d', hd', hkind'.trans hdirectory⟩, ⟨a, ha, hkind.trans hexpected, ?_, ?_⟩,
        stat, hstat, hmode⟩
      · rw [huid]
        exact howner
      · rw [huid]
        exact hclient

/-- A clone stands for the same open file. -/
theorem tryClone_spec {α : Type} (h : Handle) {error : ResolveError} {rest : Handle → Resolving α}
    {post : α → FileSystem → Prop} (hrest : ∀ t, Extends s t → Walks (rest h) post t) :
    Walks (askSystem (.tryClone h) >>= fun clone => orThrow error clone >>= rest) post s := by
  apply Walks.bind
  apply Walks.ask
  intro answer t hclone
  apply Walks.bind
  apply Walks.orThrow
  rintro clone rfl
  have hext := extends_of_environment hclone
  obtain ⟨u, v, -, hcall, -⟩ := hclone
  cases hcall with
  | cloned => exact hrest t hext

/-- All guards so far, each checked and each for its own path. -/
structure Chained (ownerUid : Nat) (guards : List GuardedPath) (s : FileSystem) : Prop where
  checked : ∀ g ∈ guards, Checked ownerUid guards s g
  unique : ∀ g ∈ guards, ∀ g' ∈ guards, g.path = g'.path → g = g'

theorem Chained.extends {ownerUid : Nat} {guards : List GuardedPath} {t : FileSystem}
    (h : Chained ownerUid guards s) (he : Extends s t) : Chained ownerUid guards t :=
  ⟨fun g hg => (h.checked g hg).extends (List.Subset.refl _) he, h.unique⟩

/-- One more guard for a path that had none. -/
theorem Chained.add {ownerUid : Nat} {guards : List GuardedPath} {g : GuardedPath}
    (h : Chained ownerUid guards s) (hg : Checked ownerUid (guards ++ [g]) s g)
    (hnew : ∀ g' ∈ guards, g'.path ≠ g.path) : Chained ownerUid (guards ++ [g]) s where
  checked := by
    intro g' hg'
    rcases List.mem_append.1 hg' with hold | hlast
    · exact (h.checked g' hold).extends (List.subset_append_left _ _) (.refl s)
    · obtain rfl := List.mem_singleton.1 hlast
      exact hg
  unique := by
    intro a ha b hb hpath
    rcases List.mem_append.1 ha with hold | hlast <;> rcases List.mem_append.1 hb with hold' | hlast'
    · exact h.unique a hold b hold' hpath
    · rw [List.mem_singleton.1 hlast'] at hpath
      exact absurd hpath (hnew a hold)
    · rw [List.mem_singleton.1 hlast] at hpath
      exact absurd hpath.symm (hnew b hold')
    · rw [List.mem_singleton.1 hlast, List.mem_singleton.1 hlast']

/-- What a chain adds for its target. -/
structure Newly (role : PathRole) (ownerUid : Nat) (target : List String) (g : GuardedPath)
    (s : FileSystem) : Prop where
  below : g.path <+: target
  directory : ¬(g.path = target ∧ role.directory = false) → g.KindIs s .directory
  file : g.path = target → role.directory = false → g.FileOf s ownerUid role.stagedConfig

theorem Newly.extends {role : PathRole} {ownerUid : Nat} {target : List String} {g : GuardedPath}
    {t : FileSystem} (h : Newly role ownerUid target g s) (he : Extends s t) :
    Newly role ownerUid target g t :=
  ⟨h.below, fun hd => (h.directory hd).extends he, fun ht hf => (h.file ht hf).extends he⟩

/-- A component below the guard of its parent is checked. -/
theorem Guarded.checked {parent : Handle} {walked : List String} {name : String}
    {directory ownedByClient : Bool} {ownerUid : Nat} {guards : List GuardedPath} {g : GuardedPath}
    (h : Guarded parent (walked ++ [name]) name directory ownerUid ownedByClient g s)
    (hparent : ParentOf guards s walked parent) : Checked ownerUid guards s g := by
  obtain ⟨node, hopened⟩ := h.opened
  obtain ⟨d, hd, hdirectory⟩ := h.below
  obtain ⟨a, ha, hkind, howner, -⟩ := h.object
  have hlink : a.kind ≠ .symlink := by
    rw [hkind]
    cases directory <;> simp
  exact ⟨⟨walked, name, parent, node, d, h.path, hopened, hparent, hd, hdirectory⟩,
    ⟨a, ha, hlink, howner⟩, h.mode⟩

/-- Only the last component can be a file. -/
theorem Guarded.newly {role : PathRole} {parent : Handle} {walked names target : List String}
    {name : String} {ownerUid : Nat} {g : GuardedPath}
    (h : Guarded parent (walked ++ [name]) name (!names.isEmpty || role.directory) ownerUid
      (names.isEmpty && role.stagedConfig) g s)
    (htarget : (walked ++ [name]) ++ names = target) : Newly role ownerUid target g s := by
  obtain ⟨a, ha, hkind, -, hclient⟩ := h.object
  constructor
  · rw [h.path]
    exact ⟨names, htarget⟩
  · intro hnot
    refine ⟨a, ha, hkind.trans (if_pos ?_)⟩
    cases names with
    | nil =>
      have hrole : role.directory = true := by
        by_contra hfile
        apply hnot
        rw [h.path, ← htarget, List.append_nil]
        exact ⟨rfl, by simpa using hfile⟩
      simp [hrole]
    | cons _ _ => rfl
  · intro hlast hfile
    have hnil : names = [] := by
      rw [h.path, ← htarget] at hlast
      simpa using hlast
    subst hnil
    refine ⟨a, ha, ?_, fun hstaged => hclient (by simp [hstaged])⟩
    rw [hkind, if_neg (by simp [hfile])]

/-- What a chain leaves: every component of the target below `walked` is guarded. -/
structure ChainResult (role : PathRole) (ownerUid : Nat) (walked target : List String)
    (guards guards' : List GuardedPath) (s t : FileSystem) : Prop where
  later : Extends s t
  chained : Chained ownerUid guards' t
  kept : guards ⊆ guards'
  covered : ∀ path, path <+: target → walked.length < path.length → ∃ g ∈ guards', g.path = path
  newly : ∀ g ∈ guards', g ∈ guards ∨ Newly role ownerUid target g t

/-- The rest of a chain after one more component that is guarded. -/
private theorem ChainResult.step {role : PathRole} {ownerUid : Nat} {walked target : List String}
    {name : String} {guards guards₁ guards' : List GuardedPath} {t u : FileSystem}
    (h : ChainResult role ownerUid (walked ++ [name]) target guards₁ guards' t u)
    (hext : Extends s t) (hsub : guards ⊆ guards₁) (htarget : walked ++ [name] <+: target)
    (hhere : ∃ g ∈ guards₁, g.path = walked ++ [name])
    (hnew : ∀ g ∈ guards₁, g ∈ guards ∨ Newly role ownerUid target g t) :
    ChainResult role ownerUid walked target guards guards' s u where
  later := hext.trans h.later
  chained := h.chained
  kept := List.Subset.trans hsub h.kept
  covered := by
    intro path hpath hlength
    by_cases hlonger : (walked ++ [name]).length < path.length
    · exact h.covered path hpath hlonger
    · have hsame : path = walked ++ [name] := by
        apply (List.prefix_of_prefix_length_le hpath htarget (by omega)).eq_of_length
        rw [List.length_append, List.length_singleton] at *
        omega
      obtain ⟨g, hg, hgpath⟩ := hhere
      exact ⟨g, h.kept hg, hgpath.trans hsame.symm⟩
  newly := by
    intro g hg
    rcases h.newly g hg with hold | hnewer
    · rcases hnew g hold with holder | hfirst
      · exact Or.inl holder
      · exact Or.inr (hfirst.extends h.later)
    · exact Or.inr hnewer

/-- The walk down a path, from a component whose directory is open. -/
theorem guardBelow_spec (role : PathRole) (ownerUid : Nat) {target : List String} (names : List String)
    {walked : List String} {parent : Handle} {guards : List GuardedPath}
    (hs : Chained ownerUid guards s) (hparent : ParentOf guards s walked parent)
    (htarget : walked ++ names = target) :
    Walks (guardBelow role ownerUid parent walked names guards)
      (fun guards' t => ChainResult role ownerUid walked target guards guards' s t) s := by
  induction names generalizing walked parent guards s with
  | nil =>
    rw [List.append_nil] at htarget
    apply Walks.pure
    refine ⟨.refl s, hs, List.Subset.refl _, fun path hpath hlength => ?_, fun g hg => Or.inl hg⟩
    have hle := hpath.length_le
    rw [htarget] at hlength
    omega
  | cons name names ih =>
    have hnext : (walked ++ [name]) ++ names = target := by
      rw [List.append_assoc, List.singleton_append, htarget]
    have hprefix : walked ++ [name] <+: target := ⟨names, hnext⟩
    unfold guardBelow
    cases hfind : guards.find? fun guard => guard.path = walked ++ [name] with
    | some existing =>
      have hmem : existing ∈ guards := List.mem_of_find?_eq_some hfind
      have hpath : existing.path = walked ++ [name] := by simpa using List.find?_some hfind
      apply tryClone_spec
      intro t hext
      have hparent' : ParentOf guards t (walked ++ [name]) existing.handle :=
        Or.inr ⟨existing, hmem, hpath, rfl⟩
      apply (ih (hs.extends hext) hparent' hnext).mono
      intro guards' u hresult
      exact hresult.step hext (List.Subset.refl _) hprefix ⟨existing, hmem, hpath⟩
        fun g hg => Or.inl hg
    | none =>
      have hnone : ∀ g ∈ guards, g.path ≠ walked ++ [name] := by
        intro g hg
        simpa using List.find?_eq_none.1 hfind g hg
      apply Walks.bind
      apply (openGuard_spec parent (walked ++ [name]) name (!names.isEmpty || role.directory)
        names.isEmpty ownerUid (names.isEmpty && role.stagedConfig)).mono
      rintro g t ⟨hext, hg⟩
      have hchecked : Checked ownerUid (guards ++ [g]) t g :=
        hg.checked (hparent.extends (List.subset_append_left _ _) hext)
      have hchained : Chained ownerUid (guards ++ [g]) t :=
        (hs.extends hext).add hchecked fun g' hg' => by rw [hg.path]; exact hnone g' hg'
      have hnewly : Newly role ownerUid target g t := hg.newly hnext
      apply tryClone_spec
      intro u hext'
      have hparent' : ParentOf (guards ++ [g]) u (walked ++ [name]) g.handle :=
        Or.inr ⟨g, List.mem_append_right _ (List.mem_singleton_self g), hg.path, rfl⟩
      apply (ih (hchained.extends hext') hparent' hnext).mono
      intro guards' v hresult
      refine hresult.step (hext.trans hext') (List.subset_append_left _ _) hprefix
        ⟨g, List.mem_append_right _ (List.mem_singleton_self g), hg.path⟩ fun g' hg' => ?_
      rcases List.mem_append.1 hg' with hold | hlast
      · exact Or.inl hold
      · obtain rfl := List.mem_singleton.1 hlast
        exact Or.inr (hnewly.extends hext')

/-- The names of a role's path. -/
def PathRole.target (role : PathRole) : List String := role.path.names.getD []

/-- A whole chain, from the root opened anew. -/
theorem guardChain_spec (role : PathRole) (ownerUid : Nat) {guards : List GuardedPath}
    (hs : Chained ownerUid guards s) :
    Walks (guardChain role ownerUid guards)
      (fun guards' t => role.path.names = some role.target ∧
        ChainResult role ownerUid [] role.target guards guards' s t) s := by
  unfold guardChain
  apply Walks.bind
  apply Walks.orThrow
  intro names hnames
  have htarget : role.target = names := by rw [PathRole.target, hnames, Option.getD_some]
  apply Walks.bind
  apply Walks.ask
  intro answer t hopen
  apply Walks.bind
  apply Walks.orThrow
  rintro root rfl
  have hext := extends_of_environment hopen
  have hparent : ParentOf guards t [] root := by
    obtain ⟨u, v, hbefore, hcall, hafter⟩ := hopen
    refine Or.inl ⟨rfl, ?_⟩
    cases hcall with
    | rootOpened =>
      rw [hafter.opened, hafter.root]
      exact Function.update_self ..
  apply (guardBelow_spec role ownerUid names (hs.extends hext) hparent (List.nil_append _)).mono
  intro guards' u hresult
  rw [htarget]
  exact ⟨hnames,
    { later := hext.trans hresult.later
      chained := hresult.chained
      kept := hresult.kept
      covered := hresult.covered
      newly := hresult.newly }⟩

/-- What the chains of some roles leave, in their order. -/
structure WalkedAll (seen : List PathRole) (ownerUid : Nat) (guards : List GuardedPath)
    (s : FileSystem) : Prop where
  chained : Chained ownerUid guards s
  below : ∀ g ∈ guards, ∃ r ∈ seen, g.path <+: r.target
  covered : ∀ r ∈ seen, ∀ path, path ≠ [] → path <+: r.target → ∃ g ∈ guards, g.path = path
  kinds : ∀ g ∈ guards, g.KindIs s .directory ∨
    ∃ r ∈ seen, r.directory = false ∧ g.path = r.target ∧ g.KindIs s .file
  /-- A file that no earlier chain went through was checked as a file. -/
  files : ∀ earlier r later, seen = earlier ++ r :: later → r.directory = false → r.target ≠ [] →
    (∃ r' ∈ earlier, r.target <+: r'.target) ∨
      ∃ g ∈ guards, g.path = r.target ∧ g.FileOf s ownerUid r.stagedConfig

theorem WalkedAll.nil (ownerUid : Nat) : WalkedAll [] ownerUid [] s where
  chained := ⟨(fun _ hg => nomatch hg), fun _ hg => nomatch hg⟩
  below := fun _ hg => nomatch hg
  covered := fun _ hr => nomatch hr
  kinds := fun _ hg => nomatch hg
  files := fun _ _ _ hsplit => by simp at hsplit

theorem WalkedAll.extends {seen : List PathRole} {ownerUid : Nat} {guards : List GuardedPath}
    {t : FileSystem} (h : WalkedAll seen ownerUid guards s) (he : Extends s t) :
    WalkedAll seen ownerUid guards t where
  chained := h.chained.extends he
  below := h.below
  covered := h.covered
  kinds := by
    intro g hg
    rcases h.kinds g hg with hdirectory | ⟨r, hr, hrole, hpath, hfile⟩
    · exact Or.inl (hdirectory.extends he)
    · exact Or.inr ⟨r, hr, hrole, hpath, hfile.extends he⟩
  files := by
    intro earlier r later hsplit hfile hne
    rcases h.files earlier r later hsplit hfile hne with hpassed | ⟨g, hg, hpath, hof⟩
    · exact Or.inl hpassed
    · exact Or.inr ⟨g, hg, hpath, hof.extends he⟩

theorem WalkedAll.step {seen : List PathRole} {role : PathRole} {ownerUid : Nat}
    {guards guards' : List GuardedPath} {t : FileSystem} (h : WalkedAll seen ownerUid guards s)
    (hr : ChainResult role ownerUid [] role.target guards guards' s t) :
    WalkedAll (seen ++ [role]) ownerUid guards' t where
  chained := hr.chained
  below := by
    intro g hg
    rcases hr.newly g hg with hold | hnew
    · obtain ⟨r, hr, hbelow⟩ := h.below g hold
      exact ⟨r, List.mem_append_left _ hr, hbelow⟩
    · exact ⟨role, List.mem_append_right _ (List.mem_singleton_self _), hnew.below⟩
  covered := by
    intro r hseen path hne hpath
    rcases List.mem_append.1 hseen with hold | hlast
    · obtain ⟨g, hg, hgpath⟩ := h.covered r hold path hne hpath
      exact ⟨g, hr.kept hg, hgpath⟩
    · obtain rfl := List.mem_singleton.1 hlast
      exact hr.covered path hpath (List.length_pos_iff.2 hne)
  kinds := by
    intro g hg
    rcases hr.newly g hg with hold | hnew
    · rcases h.kinds g hold with hdirectory | ⟨r, hseen, hrole, hpath, hfile⟩
      · exact Or.inl (hdirectory.extends hr.later)
      · exact Or.inr ⟨r, List.mem_append_left _ hseen, hrole, hpath, hfile.extends hr.later⟩
    · by_cases hlast : g.path = role.target ∧ role.directory = false
      · obtain ⟨a, ha, hkind, -⟩ := hnew.file hlast.1 hlast.2
        exact Or.inr ⟨role, List.mem_append_right _ (List.mem_singleton_self _), hlast.2, hlast.1,
          a, ha, hkind⟩
      · exact Or.inl (hnew.directory hlast)
  files := by
    intro earlier r later hsplit hfile hne
    rcases List.eq_nil_or_concat later with rfl | ⟨later, last, rfl⟩
    · obtain ⟨rfl, hrole⟩ := List.append_inj' hsplit rfl
      obtain rfl := List.singleton_inj.1 hrole
      obtain ⟨g, hg, hpath⟩ := hr.covered role.target (List.prefix_refl _) (List.length_pos_iff.2 hne)
      rcases hr.newly g hg with hold | hnew
      · obtain ⟨r', hseen, hbelow⟩ := h.below g hold
        exact Or.inl ⟨r', hseen, hpath ▸ hbelow⟩
      · exact Or.inr ⟨g, hg, hpath, hnew.file hpath hfile⟩
    · have hsplit' : seen ++ [role] = (earlier ++ r :: later) ++ [last] := by
        simpa using hsplit
      obtain ⟨hseen, -⟩ := List.append_inj' hsplit' rfl
      rcases h.files earlier r later hseen hfile hne with hpassed | ⟨g, hg, hpath, hof⟩
      · exact Or.inl hpassed
      · exact Or.inr ⟨g, hr.kept hg, hpath, hof.extends hr.later⟩

theorem guardChains_spec (ownerUid : Nat) (roles : List PathRole) {seen : List PathRole}
    {guards : List GuardedPath} (hs : WalkedAll seen ownerUid guards s) :
    Walks (guardChains ownerUid roles guards)
      (fun guards' t => WalkedAll (seen ++ roles) ownerUid guards' t ∧ guards ⊆ guards' ∧
        Extends s t ∧ ∀ r ∈ roles, r.path.names = some r.target) s := by
  induction roles generalizing seen guards s with
  | nil =>
    apply Walks.pure
    rw [List.append_nil]
    exact ⟨hs, List.Subset.refl _, .refl s, fun _ hr => nomatch hr⟩
  | cons role roles ih =>
    unfold guardChains
    apply Walks.bind
    apply (guardChain_spec role ownerUid hs.chained).mono
    rintro guards₁ t ⟨hnames, hresult⟩
    apply (ih (hs.step hresult)).mono
    rintro guards₂ u ⟨hall, hkept, hext, hroles⟩
    rw [List.append_assoc, List.singleton_append] at hall
    refine ⟨hall, List.Subset.trans hresult.kept hkept, hresult.later.trans hext, ?_⟩
    intro r hr
    rcases List.mem_cons.1 hr with rfl | hr
    · exact hnames
    · exact hroles r hr

end Chains

end MultiCore.Host
