import MultiCore.Host.Guards

/-!
# A resolved runtime under a hostile client

What holds of a resolved runtime whatever the client did meanwhile: every guard
was checked, the core binaries are the validated images. The staged
configurations are regular files of the client, and are what is read for their
paths, exactly if the package does not lie below one of them and their paths were
not resolved, at the end, to the name of another guarded file.
-/

namespace MultiCore.Host

open Faulty FileSystem

namespace UnixPath

theorem names_eq_some {path : UnixPath} {names : List String} :
    path.names = some names ↔ path.absolute = true ∧ path.components = names.map .normal := by
  have hcomponents : ∀ components : List PathComponent,
      components.mapM PathComponent.asName = some names ↔ components = names.map .normal := by
    intro components
    induction components generalizing names with
    | nil => cases names <;> simp
    | cons component components ih =>
      cases names with
      | nil => cases component <;> simp [PathComponent.asName, Option.bind_eq_some_iff]
      | cons name names =>
        cases component <;> simp [PathComponent.asName, Option.bind_eq_some_iff, ih, and_comm]
  unfold UnixPath.names
  by_cases habsolute : path.absolute = true
  · rw [if_pos habsolute, hcomponents]
    simp [habsolute]
  · rw [if_neg habsolute]
    simp [habsolute]

theorem names_join {path : UnixPath} {names : List String} (name : String)
    (h : path.names = some names) : (path.join name).names = some (names ++ [name]) := by
  obtain ⟨habsolute, hcomponents⟩ := names_eq_some.1 h
  apply names_eq_some.2
  refine ⟨habsolute, ?_⟩
  simp [join, hcomponents]

/-- A path with a parent and a file name is made of both. -/
theorem eq_join {path above : UnixPath} {name : String} (hparent : path.parent = some above)
    (hname : path.fileName = some name) : path = above.join name := by
  obtain ⟨absolute, components⟩ := path
  unfold parent at hparent
  split at hparent
  · exact nomatch hparent
  obtain rfl := Option.some.inj hparent
  rename_i hempty
  have hne : components ≠ [] := by simpa using hempty
  have hlast : components.getLast? = some (.normal name) := by
    obtain ⟨last, hlast, hlastName⟩ := Option.bind_eq_some_iff.1 hname
    cases last with
    | normal found => rw [hlast, Option.some.inj hlastName]
    | parentDir => exact nomatch hlastName
    | curDir => exact nomatch hlastName
  have hsplit : components = components.dropLast ++ [.normal name] := by
    rw [List.getLast?_eq_some_getLast hne] at hlast
    rw [← Option.some.inj hlast, List.dropLast_append_getLast]
  simp only [join]
  rw [← hsplit]

/-- The file name of a path of names is its last. -/
theorem fileName_eq {path : UnixPath} {names : List String} (h : path.names = some names) :
    path.fileName = names.getLast? := by
  obtain ⟨-, hcomponents⟩ := names_eq_some.1 h
  rw [fileName, hcomponents, List.getLast?_map]
  cases names.getLast? <;> rfl

/-- A path at or above another one. -/
def Above (a b : UnixPath) : Prop :=
  ∃ x y, a.names = some x ∧ b.names = some y ∧ x <+: y

end UnixPath

/-- The names in a layout, below those of the data root and of the package. -/
structure LayoutNames (l : RuntimeLayout) (generation : String) (data base : List String) :
    Prop where
  dataRoot : l.dataRoot.names = some data
  runtimeRoot : l.runtimeRoot.names = some (data ++ ["runtime"])
  generationDir : l.generationDir.names = some (data ++ ["runtime", generation])
  package : l.package.names = some base
  runtimeDir : l.runtimeDir.names = some (base ++ ["runtime"])
  cores : l.cores.names = some (base ++ ["cores"])
  dashboard : l.dashboard.names = some (base ++ ["dashboard"])
  hostExecutable : l.hostExecutable.names = some (base ++ ["runtime", hostName])
  xray : l.xray.names = some (base ++ ["cores", "xray"])
  mihomo : l.mihomo.names = some (base ++ ["cores", "mihomo"])
  xrayConfig : l.xrayConfig.names = some (data ++ ["runtime", generation, "xray.json"])
  mihomoConfig : l.mihomoConfig.names = some (data ++ ["runtime", generation, "mihomo.yaml"])

theorem layoutNames_of {dataRoot hostExecutable : UnixPath} {generation : Nat} {l : RuntimeLayout}
    {data base : List String} (h : runtimeLayout dataRoot hostExecutable generation = .ok l)
    (hdata : l.dataRoot.names = some data) (hpackage : l.package.names = some base) :
    LayoutNames l (generationName generation) data base := by
  unfold runtimeLayout at h
  split at h
  · exact nomatch h
  split at h
  · exact nomatch h
  rename_i runtimeDir hparent
  split at h
  · exact nomatch h
  rename_i hnames
  split at h
  · exact nomatch h
  rename_i above hparent'
  rw [not_or, not_not, not_not] at hnames
  obtain rfl := Except.ok.inj h
  have hdata : dataRoot.names = some data := hdata
  have hpackage : above.names = some base := hpackage
  have hruntimeDir : runtimeDir.names = some (base ++ ["runtime"]) := by
    rw [UnixPath.eq_join hparent' hnames.1]
    exact UnixPath.names_join "runtime" hpackage
  have hhost : hostExecutable.names = some (base ++ ["runtime", hostName]) := by
    rw [UnixPath.eq_join hparent hnames.2]
    simpa using UnixPath.names_join hostName hruntimeDir
  have hroot := UnixPath.names_join "runtime" hdata
  have hgeneration : ((dataRoot.join "runtime").join (generationName generation)).names =
      some (data ++ ["runtime", generationName generation]) := by
    simpa using UnixPath.names_join (generationName generation) hroot
  have hcores := UnixPath.names_join "cores" hpackage
  exact
    { dataRoot := hdata
      runtimeRoot := hroot
      generationDir := hgeneration
      package := hpackage
      runtimeDir := hruntimeDir
      cores := hcores
      dashboard := UnixPath.names_join "dashboard" hpackage
      hostExecutable := hhost
      xray := by simpa using UnixPath.names_join "xray" hcores
      mihomo := by simpa using UnixPath.names_join "mihomo" hcores
      xrayConfig := by simpa using UnixPath.names_join "xray.json" hgeneration
      mihomoConfig := by simpa using UnixPath.names_join "mihomo.yaml" hgeneration }

theorem configs_ne {dataRoot hostExecutable : UnixPath} {generation : Nat} {l : RuntimeLayout}
    (h : runtimeLayout dataRoot hostExecutable generation = .ok l) :
    l.mihomoConfig ≠ l.xrayConfig := by
  unfold runtimeLayout at h
  split at h
  · exact nomatch h
  split at h
  · exact nomatch h
  split at h
  · exact nomatch h
  split at h
  · exact nomatch h
  obtain rfl := Except.ok.inj h
  simp [UnixPath.join]

/-- What a resolution that succeeded leaves. -/
structure Outcome (l : RuntimeLayout) (ownerUid : Nat) (resolved : ResolvedRuntime)
    (s : FileSystem) : Prop where
  walked : ∃ present, WalkedAll (l.directoryRoles present ++ l.fileRoles) ownerUid resolved.guards s
  named : ∀ r ∈ l.directoryRoles false ++ l.fileRoles, r.path.names = some r.target
  /-- The components of the directories were guarded first, all as directories. -/
  directories : ∀ r ∈ l.directoryRoles false, ∀ path, path ≠ [] → path <+: r.target →
    ∃ g ∈ resolved.guards, g.path = path ∧ g.KindIs s .directory
  binaries : ∀ binary ∈ [l.xray, l.mihomo], ∃ g ∈ resolved.guards,
    binary.names = some g.path ∧ g.KindIs s .file ∧
      ∃ content, (g.handle, content) ∈ s.validated ∧ validElf64 content = true
  xrayConfig : s.lastResolution l.xrayConfig = some resolved.paths.xrayConfig
  mihomoConfig : s.lastResolution l.mihomoConfig = some resolved.paths.mihomoConfig

/-- The dashboard is one more directory. -/
theorem directoryRoles_subset (l : RuntimeLayout) (present : Bool) :
    l.directoryRoles false ⊆ l.directoryRoles present := by
  unfold RuntimeLayout.directoryRoles
  cases present with
  | false => exact List.Subset.refl _
  | true => exact List.map_subset _ (by simp)

theorem directory_of_mem {l : RuntimeLayout} {present : Bool} {r : PathRole}
    (h : r ∈ l.directoryRoles present) : r.directory = true := by
  obtain ⟨path, -, rfl⟩ := List.mem_map.1 h
  rfl

section Resolution

variable {s : FileSystem}

theorem canonical_spec (path : UnixPath) :
    Walks (canonical path) (fun target t => Extends s t ∧
      t.resolutions = (path, target) :: s.resolutions) s := by
  unfold canonical
  apply Walks.bind
  apply Walks.ask
  intro answer t hcanonical
  apply Walks.orThrow
  rintro target rfl
  refine ⟨extends_of_environment hcanonical, ?_⟩
  obtain ⟨u, v, hbefore, hcall, hafter⟩ := hcanonical
  cases hcall with
  | canonical =>
    rw [hafter.resolutions]
    exact congrArg _ hbefore.resolutions

theorem requireBelow_spec (directory : List String) (paths : List UnixPath) :
    Walks (requireBelow directory paths) (fun _ t => Extends s t) s := by
  induction paths generalizing s with
  | nil => exact Walks.pure (.refl s)
  | cons path paths ih =>
    unfold requireBelow
    apply Walks.bind
    apply (canonical_spec path).mono
    rintro target t ⟨hext, -⟩
    by_cases hbelow : directory.isPrefixOf target = true
    · rw [if_pos hbelow]
      exact ih.mono fun _ u hu => hext.trans hu
    · rw [if_neg hbelow]
      exact Walks.throw

theorem canonicalDashboard_spec (present : Bool) (dashboard : UnixPath) (package : List String) :
    Walks (canonicalDashboard present dashboard package) (fun _ t => Extends s t) s := by
  unfold canonicalDashboard
  cases present with
  | false => exact Walks.pure (.refl s)
  | true =>
    apply Walks.bind
    apply (canonical_spec dashboard).mono
    rintro target t ⟨hext, -⟩
    by_cases hbelow : package.isPrefixOf target = true
    · rw [if_pos hbelow]
      exact Walks.pure hext
    · rw [if_neg hbelow]
      exact Walks.throw

/-- The images are validated through the handles of their guards. -/
theorem validateBinaries_spec (guards : List GuardedPath) (binaries : List UnixPath) :
    Walks (validateBinaries guards binaries) (fun _ t => Extends s t ∧
      ∀ binary ∈ binaries, ∃ g ∈ guards, binary.names = some g.path ∧ g.KindIs t .file ∧
        ∃ content, (g.handle, content) ∈ t.validated ∧ validElf64 content = true) s := by
  induction binaries generalizing s with
  | nil => exact Walks.pure ⟨.refl s, fun _ hb => nomatch hb⟩
  | cons binary binaries ih =>
    unfold validateBinaries
    apply Walks.bind
    apply Walks.orThrow
    intro guard hfind
    have hmem : guard ∈ guards := List.mem_reverse.1 (List.mem_of_find?_eq_some hfind)
    have hnames : binary.names = some guard.path := by simpa using List.find?_some hfind
    apply Walks.bind
    apply Walks.ask
    intro valid t hvalidate
    cases valid with
    | false => exact Walks.throw
    | true =>
      have hext := extends_of_environment hvalidate
      have hfile : guard.KindIs t .file ∧
          ∃ content, (guard.handle, content) ∈ t.validated ∧ validElf64 content = true := by
        obtain ⟨u, v, hbefore, hcall, hafter⟩ := hvalidate
        cases hcall with
        | validated _ _ a found isFile valid =>
          have hsteps := (extends_of_responds
            (.validated u guard.handle a found isFile valid)).trans hafter.extends
          constructor
          · exact GuardedPath.KindIs.extends ⟨a, found, isFile⟩ hsteps
          · refine ⟨a.content, ?_, valid⟩
            rw [hafter.validated]
            exact List.mem_cons_self
      apply ih.mono
      rintro _ u ⟨hext', hrest⟩
      refine ⟨hext.trans hext', fun other hother => ?_⟩
      rcases List.mem_cons.1 hother with rfl | hother
      · obtain ⟨content, hcontent, hvalid⟩ := hfile.2
        exact ⟨guard, hmem, hnames, hfile.1.extends hext', content, hext'.validated hcontent,
          hvalid⟩
      · exact hrest other hother

/-- The whole resolution of a layout. -/
theorem resolveLayout_spec (l : RuntimeLayout) (ownerUid : Nat)
    (hne : l.mihomoConfig ≠ l.xrayConfig) :
    Walks (resolveLayout l ownerUid) (fun resolved t => Outcome l ownerUid resolved t) s := by
  unfold resolveLayout
  apply Walks.bind
  apply Walks.ask
  intro stat s₀ _
  apply Walks.bind
  apply (guardChains_spec ownerUid (l.directoryRoles stat.isSome) (.nil ownerUid)).mono
  rintro guards₁ s₁ ⟨hwalked₁, -, -, hnamed₁⟩
  rw [List.nil_append] at hwalked₁
  apply Walks.bind
  apply (guardChains_spec ownerUid l.fileRoles hwalked₁).mono
  rintro guards s₂ ⟨hwalked, hkept, hext₂, hnamed₂⟩
  apply Walks.bind
  apply (canonical_spec l.package).mono
  rintro package s₃ ⟨hext₃, -⟩
  apply Walks.bind
  apply (canonical_spec l.generationDir).mono
  rintro generation s₄ ⟨hext₄, -⟩
  apply Walks.bind
  apply (canonical_spec l.dataRoot).mono
  rintro data s₅ ⟨hext₅, -⟩
  by_cases hescape : (!data.isPrefixOf generation) = true
  · rw [if_pos hescape]
    exact Walks.throw
  rw [if_neg hescape]
  apply Walks.bind
  apply (requireBelow_spec package _).mono
  intro _ s₆ hext₆
  apply Walks.bind
  apply (requireBelow_spec generation _).mono
  intro _ s₇ hext₇
  apply Walks.bind
  apply (canonicalDashboard_spec stat.isSome l.dashboard package).mono
  intro dashboard s₈ hext₈
  apply Walks.bind
  apply (validateBinaries_spec guards [l.xray, l.mihomo]).mono
  rintro _ s₉ ⟨hext₉, hbinaries⟩
  apply Walks.bind
  apply (canonical_spec l.xray).mono
  rintro xray t₁ ⟨hlast₁, -⟩
  apply Walks.bind
  apply (canonical_spec l.mihomo).mono
  rintro mihomo t₂ ⟨hlast₂, -⟩
  apply Walks.bind
  apply (canonical_spec l.xrayConfig).mono
  rintro xrayConfig t₃ ⟨hlast₃, hresolved₃⟩
  apply Walks.bind
  apply (canonical_spec l.mihomoConfig).mono
  rintro mihomoConfig t ⟨hlast, hresolved⟩
  have hvalidated : Extends s₉ t := ((hlast₁.trans hlast₂).trans hlast₃).trans hlast
  have hguarded : Extends s₂ t := ((((((hext₃.trans hext₄).trans hext₅).trans hext₆).trans
    hext₇).trans hext₈).trans hext₉).trans hvalidated
  apply Walks.pure
  constructor
  · exact ⟨stat.isSome, hwalked.extends hguarded⟩
  · intro r hr
    rcases List.mem_append.1 hr with hdirectory | hfile
    · exact hnamed₁ r (directoryRoles_subset l _ hdirectory)
    · exact hnamed₂ r hfile
  · intro r hr path hpathne hpath
    have hrole := directoryRoles_subset l stat.isSome hr
    obtain ⟨g, hg, hgpath⟩ := hwalked₁.covered r hrole path hpathne hpath
    refine ⟨g, hkept hg, hgpath, ?_⟩
    rcases hwalked₁.kinds g hg with hdirectory | ⟨r', hr', hfile, -⟩
    · exact hdirectory.extends (hext₂.trans hguarded)
    · rw [directory_of_mem hr'] at hfile
      exact nomatch hfile
  · intro binary hbinary
    obtain ⟨g, hg, hnames, hfile, content, hcontent, hvalid⟩ := hbinaries binary hbinary
    exact ⟨g, hg, hnames, hfile.extends hvalidated, content, hvalidated.validated hcontent, hvalid⟩
  · rw [lastResolution, hresolved, List.find?_cons_of_neg (by simpa using hne), hresolved₃,
      List.find?_cons_of_pos (by simp)]
    rfl
  · rw [lastResolution, hresolved, List.find?_cons_of_pos (by simp)]
    rfl

end Resolution

/-- The guarded files. -/
def RuntimeLayout.files (l : RuntimeLayout) : List UnixPath :=
  [l.hostExecutable, l.xray, l.mihomo, l.xrayConfig, l.mihomoConfig]

/-- The package lies below a staged configuration, which is a directory then. -/
def RuntimeLayout.Nested (l : RuntimeLayout) : Prop :=
  l.xrayConfig.Above l.package ∨ l.mihomoConfig.Above l.package

/-- A configuration's path was resolved to the name of another guarded file. -/
def RuntimeLayout.Mistaken (l : RuntimeLayout) (config : UnixPath) (target : List String) : Prop :=
  ∃ f ∈ l.files, f ≠ config ∧ f.fileName = target.getLast? ∧ ¬f.Above l.generationDir

/-- A resolved runtime that a client cannot redirect. -/
structure ResolvedRuntime.Safe (resolved : ResolvedRuntime) (l : RuntimeLayout) (ownerUid : Nat)
    (s : FileSystem) : Prop where
  guards : ∀ g ∈ resolved.guards, Checked ownerUid resolved.guards s g
  configs : ∀ config ∈ [l.xrayConfig, l.mihomoConfig], ∃ g ∈ resolved.guards,
    config.names = some g.path ∧ g.FileOf s ownerUid true
  binaries : ∀ binary ∈ [l.xray, l.mihomo], ∃ g ∈ resolved.guards,
    binary.names = some g.path ∧ g.KindIs s .file ∧
      ∃ content, (g.handle, content) ∈ s.validated ∧ validElf64 content = true
  /-- At any later time a configuration is read through the handle of its own guard. -/
  reads : ∀ staged ∈ [(l.xrayConfig, resolved.paths.xrayConfig),
      (l.mihomoConfig, resolved.paths.mihomoConfig)],
    ∀ t, Extends s t → ∀ limit bytes u,
      Executes pathEnvironment (resolved.readGuarded staged.2 limit).run t (.ok bytes) u →
        ∃ g ∈ resolved.guards, staged.1.names = some g.path ∧ u.reads.head? = some (g.handle, bytes)

/-- A path that ends in a name which the lower part of another path does not have lies above the
upper part, if it lies above that path at all. -/
theorem prefix_of_append {path base rest : List String} {name : String}
    (hlast : path.getLast? = some name) (hname : name ∉ rest) (h : path <+: base ++ rest) :
    path <+: base := by
  rcases List.prefix_or_prefix_of_prefix h (List.prefix_append base rest) with hbelow | ⟨more, rfl⟩
  · exact hbelow
  · have hmore : more <+: rest := (List.prefix_append_right_inj base).1 h
    cases hnil : more.getLast? with
    | none =>
      rw [List.getLast?_eq_none_iff] at hnil
      simp only [hnil, List.append_nil, List.prefix_refl]
    | some last =>
      rw [List.getLast?_append, hnil] at hlast
      obtain rfl : last = name := by simpa using hlast
      exact absurd (hmore.subset (List.mem_of_getLast? hnil)) hname

section Safety

variable {l : RuntimeLayout} {ownerUid : Nat} {resolved : ResolvedRuntime} {s : FileSystem}

/-- A guarded file is one of the layout's, and no directory on the way to the generation. -/
theorem Outcome.file (h : Outcome l ownerUid resolved s) {g : GuardedPath}
    (hg : g ∈ resolved.guards) (hfile : g.KindIs s .file) :
    ∃ f ∈ l.files, f.names = some g.path ∧ ¬f.Above l.generationDir := by
  obtain ⟨present, hwalked⟩ := h.walked
  rcases hwalked.kinds g hg with hdirectory | ⟨r, hr, hrole, hpath, -⟩
  · exact nomatch hfile.unique hdirectory
  · rcases List.mem_append.1 hr with hdirectory | hfiles
    · rw [directory_of_mem hdirectory] at hrole
      exact nomatch hrole
    · have hnames : r.path.names = some g.path := by
        rw [hpath]
        exact h.named r (List.mem_append_right _ hfiles)
      have hmem : r.path ∈ l.files := by
        obtain ⟨path, hmem, rfl⟩ := List.mem_map.1 hfiles
        exact hmem
      refine ⟨r.path, hmem, hnames, ?_⟩
      rintro ⟨x, y, hx, hy, hprefix⟩
      obtain rfl : g.path = x := Option.some.inj (hnames.symm.trans hx)
      have hrole' : (⟨l.generationDir, true, false⟩ : PathRole) ∈ l.directoryRoles false := by
        simp [RuntimeLayout.directoryRoles]
      have htarget : PathRole.target ⟨l.generationDir, true, false⟩ = y := by
        rw [PathRole.target, hy, Option.getD_some]
      have hne : g.path ≠ [] := by
        obtain ⟨above, name, _, _, _, hsplit, -⟩ := (hwalked.chained.checked g hg).chain
        rw [hsplit]
        simp
      obtain ⟨g', hg', hsame, hdirectory⟩ :=
        h.directories _ hrole' g.path hne (htarget.symm ▸ hprefix)
      obtain rfl := hwalked.chained.unique g' hg' g hg hsame
      exact nomatch hfile.unique hdirectory

/-- What the search among some guards finds. -/
theorem findGuarded_spec (name : Option String) (guards : List GuardedPath) :
    Walks (findGuarded name guards) (fun g t => Extends s t ∧ g ∈ guards ∧
      g.path.getLast? = name ∧ g.KindIs t .file) s := by
  induction guards generalizing s with
  | nil => exact Walks.throw
  | cons guard guards ih =>
    unfold findGuarded
    by_cases hname : guard.path.getLast? = name
    · rw [if_pos hname]
      apply Walks.bind
      apply Walks.ask
      intro stat t hmetadata
      have hext := extends_of_environment hmetadata
      by_cases hfile : (stat.any fun stat => stat.kind = .file) = true
      · rw [if_pos hfile]
        apply Walks.pure
        refine ⟨hext, List.mem_cons_self, hname, ?_⟩
        cases stat with
        | none => exact nomatch hfile
        | some stat =>
          obtain ⟨-, a, ha, hkind, -⟩ := metadata_answer hmetadata
          exact ⟨a, ha, hkind.trans (by simpa using hfile)⟩
      · rw [if_neg hfile]
        apply ih.mono
        rintro g u ⟨hext', hmem, hrest⟩
        exact ⟨hext.trans hext', List.mem_cons_of_mem _ hmem, hrest⟩
    · rw [if_neg hname]
      apply ih.mono
      rintro g u ⟨hext, hmem, hrest⟩
      exact ⟨hext, List.mem_cons_of_mem _ hmem, hrest⟩

/-- A read returns what a guarded file of the asked name held when it was read. -/
theorem readGuarded_spec (resolved : ResolvedRuntime) (path : List String) (limit : Nat) :
    Walks (resolved.readGuarded path limit) (fun bytes t => ∃ g ∈ resolved.guards, Extends s t ∧
      g.path.getLast? = path.getLast? ∧ g.KindIs t .file ∧
        t.reads.head? = some (g.handle, bytes)) s := by
  unfold ResolvedRuntime.readGuarded
  apply Walks.bind
  apply (findGuarded_spec _ _).mono
  rintro g t ⟨hext, hmem, hname, hfile⟩
  apply Walks.bind
  apply Walks.ask
  intro answer u hread
  apply Walks.bind
  apply Walks.orThrow
  rintro bytes rfl
  have hext' := extends_of_environment hread
  by_cases hlong : bytes.length > limit
  · rw [if_pos hlong]
    exact Walks.throw
  · rw [if_neg hlong]
    apply Walks.pure
    refine ⟨g, List.mem_reverse.1 hmem, hext.trans hext', hname, hfile.extends hext', ?_⟩
    obtain ⟨v, w, hbefore, hcall, hafter⟩ := hread
    cases hcall with
    | read =>
      rw [hafter.reads]
      rfl

/-- The directories of a layout by their names. -/
theorem target_of_directory {generation : String} {data base : List String} {present : Bool}
    (names : LayoutNames l generation data base) {r : PathRole}
    (h : r ∈ l.directoryRoles present) :
    r.target <+: data ++ ["runtime", generation] ∨
      ∃ rest, r.target = base ++ rest ∧
        ∀ name ∈ rest, name ∈ ["runtime", "cores", "dashboard"] := by
  obtain ⟨path, hpath, rfl⟩ := List.mem_map.1 h
  have htarget : ∀ {x}, path.names = some x → PathRole.target ⟨path, true, false⟩ = x := by
    intro x hx
    rw [PathRole.target, hx, Option.getD_some]
  have hcases : path = l.dataRoot ∨ path = l.runtimeRoot ∨ path = l.generationDir ∨
      path = l.package ∨ path = l.runtimeDir ∨ path = l.cores ∨ path = l.dashboard := by
    cases present <;> simp at hpath <;> tauto
  rcases hcases with rfl | rfl | rfl | rfl | rfl | rfl | rfl
  · rw [htarget names.dataRoot]
    exact Or.inl (List.prefix_append _ _)
  · rw [htarget names.runtimeRoot]
    exact Or.inl ⟨[generation], by simp⟩
  · rw [htarget names.generationDir]
    exact Or.inl (List.prefix_refl _)
  · exact Or.inr ⟨[], by rw [htarget names.package, List.append_nil], by simp⟩
  · exact Or.inr ⟨["runtime"], htarget names.runtimeDir, by simp⟩
  · exact Or.inr ⟨["cores"], htarget names.cores, by simp⟩
  · exact Or.inr ⟨["dashboard"], htarget names.dashboard, by simp⟩

/-- A path that does not lie above the data of the generation or above the package is not on the
way to a directory. -/
private theorem not_below_directory {generation : String} {data base path : List String}
    {name : String} {present : Bool} (names : LayoutNames l generation data base)
    (hlast : path.getLast? = some name) (hname : name ∉ ["runtime", "cores", "dashboard"])
    (hdata : ¬path <+: data ++ ["runtime", generation]) (hbase : ¬path <+: base) :
    ¬∃ r ∈ l.directoryRoles present, path <+: r.target := by
  rintro ⟨r, hr, hbelow⟩
  rcases target_of_directory names hr with hgeneration | ⟨rest, htarget, hrest⟩
  · exact hdata (hbelow.trans hgeneration)
  · rw [htarget] at hbelow
    exact hbase (prefix_of_append hlast (fun hmem => hname (hrest name hmem)) hbelow)

/-- A file that no chain before its own went through. -/
private theorem Outcome.fileOf (h : Outcome l ownerUid resolved s) (earlier later : List PathRole)
    (r : PathRole) (hsplit : l.fileRoles = earlier ++ r :: later) (hrole : r.directory = false)
    (hne : r.target ≠ [])
    (hdirectories : ∀ present, ¬∃ r' ∈ l.directoryRoles present, r.target <+: r'.target)
    (hfiles : ∀ r' ∈ earlier, ¬r.target <+: r'.target) :
    ∃ g ∈ resolved.guards, r.path.names = some g.path ∧ g.FileOf s ownerUid r.stagedConfig := by
  obtain ⟨present, hwalked⟩ := h.walked
  have hall : l.directoryRoles present ++ l.fileRoles =
      (l.directoryRoles present ++ earlier) ++ r :: later := by
    rw [hsplit, List.append_assoc]
  rcases hwalked.files _ r later hall hrole hne with ⟨r', hr', hbelow⟩ | ⟨g, hg, hpath, hof⟩
  · rcases List.mem_append.1 hr' with hdirectory | hfile
    · exact absurd ⟨r', hdirectory, hbelow⟩ (hdirectories present)
    · exact absurd hbelow (hfiles r' hfile)
  · have hmem : r ∈ l.directoryRoles false ++ l.fileRoles := by
      rw [hsplit]
      simp
    exact ⟨g, hg, by rw [hpath]; exact h.named r hmem, hof⟩

private theorem target_eq {path : UnixPath} {directory staged : Bool} {names : List String}
    (h : path.names = some names) : PathRole.target ⟨path, directory, staged⟩ = names := by
  rw [PathRole.target, h, Option.getD_some]

/-- Unless the package lies below them, the staged configurations are regular files of the
client. -/
theorem Outcome.configs (h : Outcome l ownerUid resolved s) {generation : String}
    {data base : List String} (names : LayoutNames l generation data base) (hnested : ¬l.Nested) :
    ∀ config ∈ [l.xrayConfig, l.mihomoConfig], ∃ g ∈ resolved.guards,
      config.names = some g.path ∧ g.FileOf s ownerUid true := by
  have hxrayBase : ¬data ++ ["runtime", generation, "xray.json"] <+: base := fun hbelow =>
    hnested (Or.inl ⟨_, _, names.xrayConfig, names.package, hbelow⟩)
  have hmihomoBase : ¬data ++ ["runtime", generation, "mihomo.yaml"] <+: base := fun hbelow =>
    hnested (Or.inr ⟨_, _, names.mihomoConfig, names.package, hbelow⟩)
  have hlonger : ∀ name,
      ¬data ++ ["runtime", generation, name] <+: data ++ ["runtime", generation] := by
    intro name hbelow
    have hlength := hbelow.length_le
    simp at hlength
  /- The files of the package have other names. -/
  have hpackage : ∀ {path : List String} {name : String}, path.getLast? = some name →
      name ∉ ["runtime", hostName, "cores", "xray", "mihomo"] → ¬path <+: base →
      ∀ file ∈ [l.hostExecutable, l.xray, l.mihomo], ∀ staged,
        ¬path <+: PathRole.target ⟨file, false, staged⟩ := by
    intro path name hlast hname hbase file hfile staged hbelow
    simp only [List.mem_cons, List.not_mem_nil, or_false] at hfile
    simp only [List.mem_cons, List.not_mem_nil, or_false, not_or] at hname
    rcases hfile with rfl | rfl | rfl
    · rw [target_eq names.hostExecutable] at hbelow
      exact hbase (prefix_of_append hlast (by simp [hname]) hbelow)
    · rw [target_eq names.xray] at hbelow
      exact hbase (prefix_of_append hlast (by simp [hname]) hbelow)
    · rw [target_eq names.mihomo] at hbelow
      exact hbase (prefix_of_append hlast (by simp [hname]) hbelow)
  intro config hconfig
  simp only [List.mem_cons, List.not_mem_nil, or_false] at hconfig
  rcases hconfig with rfl | rfl
  · have hlast : (data ++ ["runtime", generation, "xray.json"]).getLast? = some "xray.json" := by
      simp
    have hfile := h.fileOf (l.fileRoles.take 3) (l.fileRoles.drop 4)
      ⟨l.xrayConfig, false, l.xrayConfig = l.xrayConfig || l.xrayConfig = l.mihomoConfig⟩
      rfl rfl (by rw [target_eq names.xrayConfig]; simp)
      (by
        intro present
        rw [target_eq names.xrayConfig]
        exact not_below_directory names hlast (by decide) (hlonger _) hxrayBase)
      (by
        intro r' hr'
        rw [target_eq names.xrayConfig]
        obtain ⟨file, hmem, rfl⟩ := List.mem_map.1 (List.map_take .. ▸ hr')
        exact hpackage hlast (by decide) hxrayBase file (by simpa using hmem) _)
    simpa using hfile
  · have hlast : (data ++ ["runtime", generation, "mihomo.yaml"]).getLast? =
        some "mihomo.yaml" := by
      simp
    have hfile := h.fileOf (l.fileRoles.take 4) []
      ⟨l.mihomoConfig, false, l.mihomoConfig = l.xrayConfig || l.mihomoConfig = l.mihomoConfig⟩
      rfl rfl (by rw [target_eq names.mihomoConfig]; simp)
      (by
        intro present
        rw [target_eq names.mihomoConfig]
        exact not_below_directory names hlast (by decide) (hlonger _) hmihomoBase)
      (by
        intro r' hr'
        rw [target_eq names.mihomoConfig]
        obtain ⟨file, hmem, rfl⟩ := List.mem_map.1 (List.map_take .. ▸ hr')
        have hcases : file ∈ [l.hostExecutable, l.xray, l.mihomo] ∨ file = l.xrayConfig := by
          simpa [or_assoc] using hmem
        rcases hcases with hpackaged | rfl
        · exact hpackage hlast (by decide) hmihomoBase file hpackaged _
        · rw [target_eq names.xrayConfig]
          intro hbelow
          have hsame := hbelow.eq_of_length (by simp)
          simp at hsame)
    simpa using hfile

/-- Every guarded file that is no directory on the way to the generation is a file. -/
theorem Outcome.kindOf (h : Outcome l ownerUid resolved s) {generation : String}
    {data base : List String} (names : LayoutNames l generation data base) (hnested : ¬l.Nested)
    {f : UnixPath} (hf : f ∈ l.files) (habove : ¬f.Above l.generationDir) :
    ∃ g ∈ resolved.guards, f.names = some g.path ∧ g.KindIs s .file := by
  simp only [RuntimeLayout.files, List.mem_cons, List.not_mem_nil, or_false] at hf
  have hconfigs := h.configs names hnested
  rcases hf with rfl | rfl | rfl | rfl | rfl
  · have hlast : (base ++ ["runtime", hostName]).getLast? = some hostName := by simp
    obtain ⟨g, hg, hnames, a, ha, hkind, -⟩ := h.fileOf [] (l.fileRoles.drop 1)
      ⟨l.hostExecutable, false,
        l.hostExecutable = l.xrayConfig || l.hostExecutable = l.mihomoConfig⟩
      rfl rfl (by rw [target_eq names.hostExecutable]; simp)
      (by
        intro present
        rw [target_eq names.hostExecutable]
        apply not_below_directory names hlast (by decide)
        · exact fun hbelow => habove ⟨_, _, names.hostExecutable, names.generationDir, hbelow⟩
        · intro hbelow
          have hlength := hbelow.length_le
          rw [List.length_append, List.length_cons, List.length_singleton] at hlength
          omega)
      (fun r' hr' => nomatch hr')
    exact ⟨g, hg, hnames, a, ha, hkind⟩
  · obtain ⟨g, hg, hnames, hfile, -⟩ := h.binaries l.xray (by simp)
    exact ⟨g, hg, hnames, hfile⟩
  · obtain ⟨g, hg, hnames, hfile, -⟩ := h.binaries l.mihomo (by simp)
    exact ⟨g, hg, hnames, hfile⟩
  · obtain ⟨g, hg, hnames, a, ha, hkind, -⟩ := hconfigs l.xrayConfig (by simp)
    exact ⟨g, hg, hnames, a, ha, hkind⟩
  · obtain ⟨g, hg, hnames, a, ha, hkind, -⟩ := hconfigs l.mihomoConfig (by simp)
    exact ⟨g, hg, hnames, a, ha, hkind⟩

/-- Where the resolution was not mistaken, the guard of the configuration is what is read. -/
theorem Outcome.reads (h : Outcome l ownerUid resolved s) {config : UnixPath} {target : List String}
    (hmistaken : ¬l.Mistaken config target) {t u : FileSystem} (hext : Extends s t) {limit : Nat}
    {bytes : List UInt8}
    (hread : Executes pathEnvironment (resolved.readGuarded target limit).run t (.ok bytes) u) :
    ∃ g ∈ resolved.guards, config.names = some g.path ∧
      u.reads.head? = some (g.handle, bytes) := by
  obtain ⟨g, hg, hext', hname, hfile, hhead⟩ :=
    wp_executes (readGuarded_spec resolved target limit) hread bytes rfl
  have hnow : g.KindIs s .file := by
    obtain ⟨present, hwalked⟩ := h.walked
    obtain ⟨a, ha, -⟩ := (hwalked.chained.checked g hg).object
    have hlater : g.KindIs u a.kind := GuardedPath.KindIs.extends ⟨a, ha, rfl⟩ (hext.trans hext')
    exact ⟨a, ha, hlater.unique hfile⟩
  obtain ⟨f, hf, hnames, habove⟩ := h.file hg hnow
  by_cases hsame : f = config
  · exact ⟨g, hg, hsame ▸ hnames, hhead⟩
  · have hfileName : f.fileName = target.getLast? := (UnixPath.fileName_eq hnames).trans hname
    exact absurd ⟨f, hf, hsame, hfileName, habove⟩ hmistaken

/-- A search that can find something may find it. -/
private theorem findGuarded_finds {name : Option String} (guards : List GuardedPath)
    (t : FileSystem)
    (hopen : ∀ g ∈ guards, ∃ r a, t.opened g.handle = some r ∧ t.nodes r.node = some a)
    (hsome : ∃ g ∈ guards, g.path.getLast? = name ∧ g.KindIs t .file) :
    ∃ g ∈ guards, ∃ u, g.path.getLast? = name ∧ g.KindIs u .file ∧ Extends t u ∧
      Executes pathEnvironment (findGuarded name guards).run t (.ok g) u := by
  induction guards generalizing t with
  | nil =>
    obtain ⟨g, hg, -⟩ := hsome
    exact nomatch hg
  | cons guard guards ih =>
    have hopen' : ∀ u, Extends t u → ∀ g ∈ guards,
        ∃ r a, u.opened g.handle = some r ∧ u.nodes r.node = some a := by
      intro u hext g hg
      obtain ⟨r, a, hr, ha⟩ := hopen g (List.mem_cons_of_mem _ hg)
      obtain ⟨b, hb, -⟩ := hext.objects r.node a ha
      exact ⟨r, b, hext.opened _ _ hr, hb⟩
    by_cases hname : guard.path.getLast? = name
    · obtain ⟨r, a, hr, ha⟩ := hopen guard List.mem_cons_self
      let stat : FileStat := ⟨a.kind, a.uid, a.mode, r.node⟩
      let u : FileSystem := { t with stats := (guard.handle, stat) :: t.stats }
      have hcall : pathEnvironment (.metadata guard.handle) t (some stat) u :=
        ⟨t, u, .refl t, .metadata t guard.handle r a hr ha, .refl u⟩
      have hext : Extends t u := extends_of_environment hcall
      have hnode : t.nodeOf guard.handle = some a := by
        rw [FileSystem.nodeOf, hr, Option.bind_some, ha]
      by_cases hfile : a.kind = .file
      · have hnow : guard.KindIs u .file := GuardedPath.KindIs.extends ⟨a, hnode, hfile⟩ hext
        refine ⟨guard, List.mem_cons_self, u, hname, hnow, hext, ?_⟩
        unfold findGuarded
        rw [if_pos hname]
        apply Executes.ask hcall
        change Executes pathEnvironment (ExceptT.run
          (if decide (a.kind = .file) = true then pure guard else findGuarded name guards)) u _ u
        rw [if_pos (decide_eq_true hfile)]
        exact Executes.done _ _
      · have hsome' : ∃ g ∈ guards, g.path.getLast? = name ∧ g.KindIs u .file := by
          obtain ⟨g, hg, hgname, hgfile⟩ := hsome
          rcases List.mem_cons.1 hg with rfl | hg
          · exact absurd ((GuardedPath.KindIs.unique ⟨a, hnode, rfl⟩) hgfile) hfile
          · exact ⟨g, hg, hgname, hgfile.extends hext⟩
        obtain ⟨g, hg, v, hgname, hgfile, hext', hrun⟩ := ih u (hopen' u hext) hsome'
        refine ⟨g, List.mem_cons_of_mem _ hg, v, hgname, hgfile, hext.trans hext', ?_⟩
        unfold findGuarded
        rw [if_pos hname]
        apply Executes.ask hcall
        change Executes pathEnvironment (ExceptT.run
          (if decide (a.kind = .file) = true then pure guard else findGuarded name guards)) u _ v
        rw [if_neg (by simpa using hfile)]
        exact hrun
    · have hsome' : ∃ g ∈ guards, g.path.getLast? = name ∧ g.KindIs t .file := by
        obtain ⟨g, hg, hgname, hgfile⟩ := hsome
        rcases List.mem_cons.1 hg with rfl | hg
        · exact absurd hgname hname
        · exact ⟨g, hg, hgname, hgfile⟩
      obtain ⟨g, hg, v, hgname, hgfile, hext', hrun⟩ := ih t (hopen' t (.refl t)) hsome'
      refine ⟨g, List.mem_cons_of_mem _ hg, v, hgname, hgfile, hext', ?_⟩
      unfold findGuarded
      rw [if_neg hname]
      exact hrun

/-- The guarded files have different names. -/
theorem LayoutNames.fileName_inj {generation : String} {data base : List String}
    (names : LayoutNames l generation data base) {f f' : UnixPath} (hf : f ∈ l.files)
    (hf' : f' ∈ l.files) (h : f.fileName = f'.fileName) : f = f' := by
  have hhost := UnixPath.fileName_eq names.hostExecutable
  have hxray := UnixPath.fileName_eq names.xray
  have hmihomo := UnixPath.fileName_eq names.mihomo
  have hxrayConfig := UnixPath.fileName_eq names.xrayConfig
  have hmihomoConfig := UnixPath.fileName_eq names.mihomoConfig
  simp only [RuntimeLayout.files, List.mem_cons, List.not_mem_nil, or_false] at hf hf'
  rcases hf with rfl | rfl | rfl | rfl | rfl <;>
    rcases hf' with rfl | rfl | rfl | rfl | rfl <;>
    first
    | rfl
    | simp_all [hostName]

/-- What is open stays open, with something behind it. -/
private theorem Checked.opened {g : GuardedPath} (h : Checked ownerUid resolved.guards s g) :
    ∃ r a, s.opened g.handle = some r ∧ s.nodes r.node = some a := by
  obtain ⟨a, ha, -⟩ := h.object
  obtain ⟨r, hr, hnode⟩ := Option.bind_eq_some_iff.1 ha
  exact ⟨r, a, hr, hnode⟩

/-- The last name of a guard is the name its handle was opened by. -/
private theorem Checked.lastName {g g' : GuardedPath} (h : Checked ownerUid resolved.guards s g)
    (h' : Checked ownerUid resolved.guards s g') (hsame : g.handle = g'.handle) :
    g.path.getLast? = g'.path.getLast? := by
  obtain ⟨above, name, parent, node, -, hpath, hopened, -⟩ := h.chain
  obtain ⟨above', name', parent', node', -, hpath', hopened', -⟩ := h'.chain
  rw [hsame, hopened'] at hopened
  have hname : name' = name := congrArg Prod.snd (Option.some.inj (Opened.mk.inj
    (Option.some.inj hopened)).2)
  rw [hpath, hpath', hname]
  simp

/-- Where a guarded file has the name of this path, the path can be read, and what is read is a
guarded file of that name. -/
private theorem Outcome.readable (h : Outcome l ownerUid resolved s) {target : List String}
    (hsome : ∃ g ∈ resolved.guards, g.path.getLast? = target.getLast? ∧ g.KindIs s .file) :
    ∃ g ∈ resolved.guards, g.path.getLast? = target.getLast? ∧
      ∃ limit bytes u, Executes pathEnvironment (resolved.readGuarded target limit).run s
        (.ok bytes) u ∧ u.reads.head? = some (g.handle, bytes) := by
  obtain ⟨present, hwalked⟩ := h.walked
  have hopen : ∀ g ∈ resolved.guards.reverse,
      ∃ r a, s.opened g.handle = some r ∧ s.nodes r.node = some a :=
    fun g hg => (hwalked.chained.checked g (List.mem_reverse.1 hg)).opened
  have hreversed : ∃ g ∈ resolved.guards.reverse,
      g.path.getLast? = target.getLast? ∧ g.KindIs s .file := by
    obtain ⟨g, hg, hname, hfile⟩ := hsome
    exact ⟨g, List.mem_reverse.2 hg, hname, hfile⟩
  obtain ⟨g, hg, t, hname, ⟨a, ha, hkind⟩, -, hfound⟩ :=
    findGuarded_finds resolved.guards.reverse s hopen hreversed
  let limit := a.content.length
  let u : FileSystem := { t with reads := (g.handle, a.content.take (limit + 1)) :: t.reads }
  have hcall : pathEnvironment (.readFile g.handle (limit + 1)) t
      (some (a.content.take (limit + 1))) u :=
    ⟨t, u, .refl t, .read t g.handle (limit + 1) a ha hkind, .refl u⟩
  have hshort : ¬(a.content.take (limit + 1)).length > limit := by
    rw [List.take_of_length_le (Nat.le_succ limit)]
    exact Nat.lt_irrefl limit
  refine ⟨g, List.mem_reverse.1 hg, hname, limit, a.content.take (limit + 1), u, ?_, rfl⟩
  unfold ResolvedRuntime.readGuarded
  rw [ExceptT.run_bind]
  apply executes_bind hfound
  apply Executes.ask hcall
  change Executes pathEnvironment (ExceptT.run
    (if (a.content.take (limit + 1)).length > limit then throw ResolveError.layout
      else pure (a.content.take (limit + 1)))) u _ u
  rw [if_neg hshort]
  exact Executes.done _ _

/-- A client cannot redirect what was resolved, exactly if the package does not lie below a staged
configuration and no configuration was resolved to another guarded file's name. -/
theorem Outcome.safe_iff (h : Outcome l ownerUid resolved s) {generation : String}
    {data base : List String} (names : LayoutNames l generation data base) :
    resolved.Safe l ownerUid s ↔ ¬l.Nested ∧
      ∀ config ∈ [l.xrayConfig, l.mihomoConfig], ∀ target,
        s.lastResolution config = some target → ¬l.Mistaken config target := by
  obtain ⟨present, hwalked⟩ := h.walked
  constructor
  · intro hsafe
    have hnested : ¬l.Nested := by
      have hdirectory : ∀ config ∈ [l.xrayConfig, l.mihomoConfig], config.names ≠ some [] →
          ¬config.Above l.package := by
        rintro config hconfig hne ⟨x, y, hx, hy, hbelow⟩
        have hrole : (⟨l.package, true, false⟩ : PathRole) ∈ l.directoryRoles false := by
          simp [RuntimeLayout.directoryRoles]
        have hxne : x ≠ [] := by
          rintro rfl
          exact hne hx
        obtain ⟨g, hg, hpath, hkind⟩ :=
          h.directories _ hrole x hxne (by rw [PathRole.target, hy]; exact hbelow)
        obtain ⟨g', hg', hpath', a, ha, hfile, -⟩ := hsafe.configs config hconfig
        obtain rfl := hwalked.chained.unique g hg g' hg'
          (hpath.trans (Option.some.inj (hx.symm.trans hpath')))
        cases hkind.unique ⟨a, ha, hfile⟩
      rintro (hxray | hmihomo)
      · exact hdirectory l.xrayConfig (by simp) (by rw [names.xrayConfig]; simp) hxray
      · exact hdirectory l.mihomoConfig (by simp) (by rw [names.mihomoConfig]; simp) hmihomo
    refine ⟨hnested, ?_⟩
    rintro config hconfig target hlast ⟨f, hf, hne, hname, habove⟩
    obtain ⟨g, hg, hnames, hfile⟩ := h.kindOf names hnested hf habove
    have hgname : g.path.getLast? = target.getLast? :=
      (UnixPath.fileName_eq hnames).symm.trans hname
    obtain ⟨found, hfound, hfoundName, limit, bytes, u, hrun, hread⟩ :=
      h.readable ⟨g, hg, hgname, hfile⟩
    have hstaged : (config, target) ∈ [(l.xrayConfig, resolved.paths.xrayConfig),
        (l.mihomoConfig, resolved.paths.mihomoConfig)] := by
      rcases List.mem_cons.1 hconfig with rfl | hmihomo
      · rw [h.xrayConfig] at hlast
        rw [Option.some.inj hlast]
        exact List.mem_cons_self
      · obtain rfl := List.mem_singleton.1 hmihomo
        rw [h.mihomoConfig] at hlast
        rw [Option.some.inj hlast]
        exact List.mem_cons_of_mem _ List.mem_cons_self
    obtain ⟨own, hown, hownNames, hownRead⟩ :=
      hsafe.reads _ hstaged s (.refl s) limit bytes u hrun
    have hhandle : found.handle = own.handle :=
      congrArg Prod.fst (Option.some.inj (hread.symm.trans hownRead))
    have hlastName := (hsafe.guards found hfound).lastName (hsafe.guards own hown) hhandle
    have hconfigMem : config ∈ l.files := by
      unfold RuntimeLayout.files
      exact List.mem_of_mem_drop (i := 3) hconfig
    apply hne
    apply names.fileName_inj hf hconfigMem
    rw [hname, UnixPath.fileName_eq hownNames, ← hlastName, hfoundName]
  · rintro ⟨hnested, hmistaken⟩
    refine ⟨hwalked.chained.checked, h.configs names hnested, h.binaries, ?_⟩
    intro staged hstaged t hext limit bytes u hrun
    rcases List.mem_cons.1 hstaged with rfl | hmihomo
    · exact h.reads (hmistaken _ (by simp) _ h.xrayConfig) hext hrun
    · obtain rfl := List.mem_singleton.1 hmihomo
      exact h.reads (hmistaken _ (by simp) _ h.mihomoConfig) hext hrun

/-- A layout that was resolved, with its names. -/
theorem resolveFrom_spec (dataRoot hostExecutable : UnixPath) (generation ownerUid : Nat) :
    Walks (resolveFrom dataRoot hostExecutable generation ownerUid) (fun resolved t =>
      ∃ l, runtimeLayout dataRoot hostExecutable generation = .ok l ∧
        Outcome l ownerUid resolved t ∧
        ∃ data base, LayoutNames l (generationName generation) data base) s := by
  unfold resolveFrom
  cases hlayout : runtimeLayout dataRoot hostExecutable generation with
  | error error => exact Walks.throw
  | ok l =>
    apply (resolveLayout_spec l ownerUid (configs_ne hlayout)).mono
    intro resolved t h
    have hdata := h.named ⟨l.dataRoot, true, false⟩ (by simp [RuntimeLayout.directoryRoles])
    have hpackage := h.named ⟨l.package, true, false⟩ (by simp [RuntimeLayout.directoryRoles])
    exact ⟨l, rfl, h, _, _, layoutNames_of hlayout hdata hpackage⟩

end Safety

/-- A resolved runtime is safe from the client, whatever it does meanwhile and later, exactly if
the package does not lie below a staged configuration and, when the paths were resolved for good,
no configuration's led to the name of another guarded file. -/
theorem resolveFrom_safe_iff {dataRoot hostExecutable : UnixPath} {generation ownerUid : Nat}
    {s t : FileSystem} {resolved : ResolvedRuntime}
    (h : Executes pathEnvironment
      (resolveFrom dataRoot hostExecutable generation ownerUid).run s (.ok resolved) t) :
    ∃ l, runtimeLayout dataRoot hostExecutable generation = .ok l ∧
      (resolved.Safe l ownerUid t ↔ ¬l.Nested ∧
        ∀ config ∈ [l.xrayConfig, l.mihomoConfig], ∀ target,
          t.lastResolution config = some target → ¬l.Mistaken config target) := by
  obtain ⟨l, hlayout, houtcome, data, base, names⟩ :=
    wp_executes (resolveFrom_spec dataRoot hostExecutable generation ownerUid) h resolved rfl
  exact ⟨l, hlayout, houtcome.safe_iff names⟩

section Installed

/-- A directory with these entries. -/
private def directoryOf (uid : Nat) (entries : List (String × Nat)) : Node :=
  ⟨.directory, uid, 0o755, fun name => entries.lookup name, [], ⟨false, []⟩⟩

/-- A file that everyone may read. -/
private def fileOf (uid : Nat) (content : List UInt8) : Node :=
  ⟨.file, uid, 0o644, fun _ => none, content, ⟨false, []⟩⟩

/-- An image with one empty program header. -/
private def smallImage : List UInt8 :=
  [0x7f, 0x45, 0x4c, 0x46, 2, 1, 1, 0, 0, 0, 0, 0, 0, 0, 0, 0, 2, 0, 62, 0, 1, 0, 0, 0] ++
    List.replicate 8 0 ++ [64, 0, 0, 0, 0, 0, 0, 0] ++ List.replicate 12 0 ++
    [64, 0, 56, 0, 1, 0] ++ List.replicate 62 0

/-- A package of root in `/app`, and one generation in `/data`, which belongs to the client. -/
private def installedNodes : List Node :=
  [directoryOf 0 [("data", 1), ("app", 6)],
    directoryOf 1000 [("runtime", 2)],
    directoryOf 1000 [("runtime-00000000000000000001", 3)],
    directoryOf 1000 [("xray.json", 4), ("mihomo.yaml", 5)],
    fileOf 1000 [1],
    fileOf 1000 [2],
    directoryOf 0 [("runtime", 7), ("cores", 8)],
    directoryOf 0 [("multicore-core-host", 9)],
    directoryOf 0 [("xray", 10), ("mihomo", 11)],
    fileOf 0 [3],
    fileOf 0 smallImage,
    fileOf 0 smallImage]

/-- An installation as root leaves it. -/
private def installed : FileSystem where
  root := 0
  nodes := fun n => installedNodes[n]?
  opened := fun _ => none
  stats := []
  validated := []
  resolutions := []
  reads := []

/-- The directory of the data. -/
private def installedData : UnixPath := ⟨true, [.normal "data"]⟩

/-- The image of the host. -/
private def installedHost : UnixPath :=
  ⟨true, [.normal "app", .normal "runtime", .normal "multicore-core-host"]⟩

/-- The layout of the first generation. -/
private def installedLayout : RuntimeLayout :=
  let package : UnixPath := ⟨true, [.normal "app"]⟩
  let generationDir := (installedData.join "runtime").join "runtime-00000000000000000001"
  { dataRoot := installedData
    runtimeRoot := installedData.join "runtime"
    generationDir
    package
    runtimeDir := package.join "runtime"
    cores := package.join "cores"
    dashboard := package.join "dashboard"
    hostExecutable := installedHost
    xray := (package.join "cores").join "xray"
    mihomo := (package.join "cores").join "mihomo"
    xrayConfig := generationDir.join "xray.json"
    mihomoConfig := generationDir.join "mihomo.yaml" }

private theorem runtimeLayout_installed :
    runtimeLayout installedData installedHost 1 = .ok installedLayout := by
  rfl

/-- The client puts a link to `xray.json` in the place of `mihomo.yaml`, before some call. -/
private def relinkAt (call n : Nat) (s : FileSystem) : FileSystem :=
  if n = call ∧ s.nodes 12 = none then
    { s with nodes := fun node =>
        if node = 12 then
          some ⟨.symlink, 1000, 0o777, fun _ => none, [], ⟨false, [.normal "xray.json"]⟩⟩
        else (s.nodes node).map fun a =>
          if node = 3 then { a with entries := Function.update a.entries "mihomo.yaml" (some 12) }
          else a }
  else s

private theorem relinkAt_interferes (call n : Nat) (s : FileSystem) :
    Interferes s (relinkAt call n s) := by
  unfold relinkAt
  by_cases hacts : n = call ∧ s.nodes 12 = none
  · rw [if_pos hacts]
    refine ⟨fun node a hnode => ?_, rfl, rfl, rfl, rfl, rfl, rfl⟩
    have hother : node ≠ 12 := by
      rintro rfl
      exact nomatch hacts.2.symm.trans hnode
    simp only [if_neg hother, hnode, Option.map_some]
    by_cases hthree : node = 3
    · rw [if_pos hthree]
      exact ⟨_, rfl, rfl, rfl⟩
    · rw [if_neg hthree]
      exact ⟨_, rfl, rfl, rfl⟩
  · rw [if_neg hacts]
    exact .refl s

/-- The resolution of the generation, with a client that acts before some call. -/
private def installedRun (call : Nat) : Except ResolveError ResolvedRuntime × FileSystem :=
  (resolveFrom installedData installedHost 1 1000).run.play (system (relinkAt call)) 0 installed

private theorem installedRun_executes (call : Nat) (h : (installedRun call).1.toOption.isSome) :
    ∃ resolved, Executes pathEnvironment
      (resolveFrom installedData installedHost 1 1000).run installed (.ok resolved)
      (installedRun call).2 := by
  have hrun := executes_play (system_environment (relinkAt_interferes call)) 0
    (resolveFrom installedData installedHost 1 1000).run installed
  change Executes _ _ _ (installedRun call).1 (installedRun call).2 at hrun
  cases hresult : (installedRun call).1 with
  | error error =>
    rw [hresult] at h
    exact nomatch h
  | ok resolved => exact ⟨resolved, hresult ▸ hrun⟩

/-- What the two runs come to: the one that a client relinks under, and the one left alone. -/
private theorem installedRun_facts :
    ((installedRun 60).1.toOption.isSome = true ∧
      (installedRun 60).2.lastResolution installedLayout.mihomoConfig =
        some ["data", "runtime", "runtime-00000000000000000001", "xray.json"]) ∧
    (installedRun 1000).1.toOption.isSome = true ∧
    (installedRun 1000).2.lastResolution installedLayout.xrayConfig =
      some ["data", "runtime", "runtime-00000000000000000001", "xray.json"] ∧
    (installedRun 1000).2.lastResolution installedLayout.mihomoConfig =
      some ["data", "runtime", "runtime-00000000000000000001", "mihomo.yaml"] := by
  decide +kernel

/-- Relinked before the last sixteen calls, `mihomo.yaml` is read from the file of the other
configuration. -/
theorem resolveFrom_redirected : ∃ resolved t l,
    Executes pathEnvironment (resolveFrom installedData installedHost 1 1000).run installed
      (.ok resolved) t ∧ runtimeLayout installedData installedHost 1 = .ok l ∧
      t.lastResolution l.mihomoConfig =
        some ["data", "runtime", "runtime-00000000000000000001", "xray.json"] ∧
      ¬resolved.Safe l 1000 t := by
  obtain ⟨⟨hok, hlast⟩, -⟩ := installedRun_facts
  obtain ⟨resolved, hrun⟩ := installedRun_executes 60 hok
  obtain ⟨l, hlayout, houtcome, data, base, names⟩ :=
    wp_executes (resolveFrom_spec installedData installedHost 1 1000) hrun resolved rfl
  obtain rfl := Except.ok.inj (hlayout.symm.trans runtimeLayout_installed)
  refine ⟨resolved, _, installedLayout, hrun, hlayout, hlast, fun hsafe => ?_⟩
  have hnot := ((houtcome.safe_iff names).1 hsafe).2 installedLayout.mihomoConfig (by simp) _ hlast
  apply hnot
  refine ⟨installedLayout.xrayConfig, by simp [RuntimeLayout.files], by decide, by decide, ?_⟩
  rintro ⟨x, y, hx, hy, hbelow⟩
  obtain rfl := Option.some.inj (hx.symm.trans (by decide : installedLayout.xrayConfig.names =
    some ["data", "runtime", "runtime-00000000000000000001", "xray.json"]))
  obtain rfl := Option.some.inj (hy.symm.trans (by decide : installedLayout.generationDir.names =
    some ["data", "runtime", "runtime-00000000000000000001"]))
  exact absurd hbelow (by decide)

/-- Left alone, the resolution is safe. -/
theorem resolveFrom_installed : ∃ resolved t l,
    Executes pathEnvironment (resolveFrom installedData installedHost 1 1000).run installed
      (.ok resolved) t ∧ runtimeLayout installedData installedHost 1 = .ok l ∧
      resolved.Safe l 1000 t := by
  obtain ⟨-, hok, hxray, hmihomo⟩ := installedRun_facts
  obtain ⟨resolved, hrun⟩ := installedRun_executes 1000 hok
  obtain ⟨l, hlayout, hsafe⟩ := resolveFrom_safe_iff hrun
  obtain rfl := Except.ok.inj (hlayout.symm.trans runtimeLayout_installed)
  have hpackage : installedLayout.package.names = some ["app"] := by decide
  refine ⟨resolved, _, installedLayout, hrun, hlayout, hsafe.2 ⟨?_, ?_⟩⟩
  · have hbelow : ∀ config ∈ [installedLayout.xrayConfig, installedLayout.mihomoConfig],
        ∀ x, config.names = some x → ¬x <+: ["app"] := by
      intro config hconfig x hx hprefix
      have hlength := hprefix.length_le
      rcases List.mem_cons.1 hconfig with rfl | hmihomo
      · obtain rfl := Option.some.inj (hx.symm.trans (by decide : _ = some
          ["data", "runtime", "runtime-00000000000000000001", "xray.json"]))
        exact absurd hlength (by decide)
      · obtain rfl := List.mem_singleton.1 hmihomo
        obtain rfl := Option.some.inj (hx.symm.trans (by decide : _ = some
          ["data", "runtime", "runtime-00000000000000000001", "mihomo.yaml"]))
        exact absurd hlength (by decide)
    rintro (⟨x, y, hx, hy, hprefix⟩ | ⟨x, y, hx, hy, hprefix⟩)
    · rw [hpackage] at hy
      exact hbelow _ (by simp) x hx (Option.some.inj hy ▸ hprefix)
    · rw [hpackage] at hy
      exact hbelow _ (by simp) x hx (Option.some.inj hy ▸ hprefix)
  · rintro config hconfig target htarget ⟨f, hf, hne, hname, -⟩
    apply hne
    rcases List.mem_cons.1 hconfig with rfl | hlast
    · obtain rfl := Option.some.inj (hxray.symm.trans htarget)
      exact (by decide : ∀ f ∈ installedLayout.files, f.fileName = some "xray.json" →
        f = installedLayout.xrayConfig) f hf hname
    · obtain rfl := List.mem_singleton.1 hlast
      obtain rfl := Option.some.inj (hmihomo.symm.trans htarget)
      exact (by decide : ∀ f ∈ installedLayout.files, f.fileName = some "mihomo.yaml" →
        f = installedLayout.mihomoConfig) f hf hname

end Installed

end MultiCore.Host
