import MultiCore.Update.Destination
import Mathlib.Data.List.Infix
import Mathlib.Data.List.Nodup
import Mathlib.Algebra.GroupWithZero.Nat

/-!
# What an extraction leaves

An extraction writes below its destination only, and no more than the limit. If
it succeeds the files there are those of the inventory and the inventory itself,
and where no two of them are one file to the system each has its listed digest.
-/

namespace MultiCore.Update

open Faulty

/-- Only these places changed, apart from new directories below the destination. -/
structure Touches (d : Target) (places : List (List Char) → Prop) (s t : Disk) : Prop where
  node : ∀ q, ¬places q → t.node q = s.node q ∨
    d.root <+: q ∧ s.node q = none ∧ t.node q = some .directory
  listing : t.listing = s.listing
  removalFailed : t.removalFailed = s.removalFailed

namespace Touches

variable {d : Target} {places places' : List (List Char) → Prop} {s t u : Disk}

/-- Nothing at all touches no place. -/
theorem refl (s : Disk) : Touches d places s s := ⟨fun _ _ => Or.inl rfl, rfl, rfl⟩

/-- Two parts of a run touch what either touched. -/
theorem trans (h : Touches d places s t) (k : Touches d places t u) : Touches d places s u where
  node := by
    intro q hq
    rcases h.node q hq with hsame | ⟨hbelow, hnone, hdirectory⟩
    · rw [← hsame]
      exact k.node q hq
    · rcases k.node q hq with hsame | ⟨-, habsent, -⟩
      · exact Or.inr ⟨hbelow, hnone, hsame.trans hdirectory⟩
      · rw [hdirectory] at habsent
        exact nomatch habsent
  listing := k.listing.trans h.listing
  removalFailed := k.removalFailed.trans h.removalFailed

/-- A larger set of places may be named. -/
theorem weaken (h : Touches d places s t) (hsub : ∀ q, places q → places' q) :
    Touches d places' s t :=
  ⟨fun q hq => h.node q fun hp => hq (hsub q hp), h.listing, h.removalFailed⟩

/-- Files elsewhere stay. -/
theorem file (h : Touches d places s t) {q : List (List Char)} (hq : ¬places q) {content : List UInt8} :
    t.node q = some (.file content) ↔ s.node q = some (.file content) := by
  rcases h.node q hq with hsame | ⟨-, hnone, hdirectory⟩
  · rw [hsame]
  · rw [hnone, hdirectory]
    simp

/-- What stands outside the destination is what it was. -/
theorem outside (h : Touches d places s t) (hplaces : ∀ q, places q → d.root <+: q)
    {q : List (List Char)} (hq : ¬d.root <+: q) : t.node q = s.node q := by
  rcases h.node q fun hp => hq (hplaces q hp) with hsame | ⟨hbelow, -⟩
  · exact hsame
  · exact absurd hbelow hq

/-- One place is written. -/
theorem update {p : List (List Char)} (node : Option DiskNode) (written : Nat) :
    Touches d (· = p) s { s with node := Function.update s.node p node, written } :=
  ⟨fun _ hq => Or.inl (Function.update_of_ne hq _ _), rfl, rfl⟩

/-- Directories that are made touch no file. -/
theorem madeDirs {path : List (List Char)} {node : List (List Char) → Option DiskNode}
    (h : MadeDirs d path s { s with node }) : Touches d (fun _ => False) s { s with node } where
  node := by
    intro q _
    rcases h q with hsame | ⟨⟨p, -, rfl⟩, hnone, hdirectory⟩
    · exact Or.inl hsame
    · exact Or.inr ⟨d.root_prefix_place p, hnone, hdirectory⟩
  listing := rfl
  removalFailed := rfl

end Touches

section Entries

variable {d : Target} {archive : List ArchiveEntry} {s : Disk}

/-- Copying appends to the file, no more than the entry's size. -/
theorem copyEntry_spec (maxBytes index size : Nat) (path : List (List Char)) (content : List UInt8)
    (hfile : s.node (d.place path) = some (.file content)) (hsize : content.length ≤ size) :
    Extracts d archive (copyEntry maxBytes index size path content)
      (fun result t => Touches d (· = d.place path) s t ∧
        t.node (d.place path) = some (.file result) ∧ result.length ≤ size ∧
        t.written + content.length = s.written + result.length)
      (fun t => Touches d (· = d.place path) s t ∧
        t.written + content.length ≤ s.written + size) s := by
  induction hn : size - content.length using Nat.strongRecOn generalizing s content with
  | ind n ih =>
    rw [copyEntry]
    apply Extracts.bind
    apply Extracts.ask
    rintro (_ | chunk) t hread
    · cases hread
      exact Extracts.throw ⟨.refl s, by omega⟩
    · cases hread
      by_cases hend : chunk = []
      · simp only [dif_pos hend]
        exact Extracts.pure ⟨.refl s, hfile, hsize, rfl⟩
      · by_cases hlarge : size < content.length + chunk.length ∨
            maxBytes < content.length + chunk.length
        · simp only [dif_neg hend, dif_pos hlarge]
          exact Extracts.invalid ⟨.refl s, by omega⟩
        · simp only [dif_neg hend, dif_neg hlarge]
          have hchunk : 0 < chunk.length := List.length_pos_iff.2 hend
          have hlength : (content ++ chunk).length = content.length + chunk.length :=
            List.length_append
          apply Extracts.bind
          apply Extracts.ask
          intro ok u hwrite
          cases hwrite with
          | notWritten =>
            apply Extracts.bind
            apply Extracts.ensure
            · exact fun h => nomatch h
            · exact fun _ => ⟨.refl s, by omega⟩
          | wrote _ _ _ part before _ hbefore hprefix hall =>
            obtain rfl : content = before := by
              rw [hfile] at hbefore
              exact DiskNode.file.inj (Option.some.inj hbefore)
            have hpart : part.length ≤ chunk.length := hprefix.length_le
            apply Extracts.bind
            apply Extracts.ensure
            · intro hok
              obtain rfl := hall hok
              have hnow : Function.update s.node (d.place path)
                  (some (.file (content ++ part))) (d.place path) =
                  some (.file (content ++ part)) := Function.update_self ..
              apply (ih (size - (content ++ part).length) (by omega) (content ++ part) hnow
                (by omega) rfl).mono
              · rintro result v ⟨htouches, hresult, hle, hwritten⟩
                refine ⟨(Touches.update _ _).trans htouches, hresult, hle, ?_⟩
                dsimp only at hwritten
                omega
              · rintro v ⟨htouches, hwritten⟩
                refine ⟨(Touches.update _ _).trans htouches, ?_⟩
                dsimp only at hwritten
                omega
            · intro _
              refine ⟨Touches.update _ _, ?_⟩
              dsimp only
              omega

/-- A file that was written: it holds the entry, with the digest of the inventory. -/
def Holds (d : Target) (sha256 : List UInt8 → List Char) (checksums : Checksums) (name : List Char)
    (t : Disk) : Prop :=
  ∃ content, t.node (d.place (outputPath name)) = some (.file content) ∧
    (name ≠ checksumsName → checksums.lookup name = some (sha256 content))

variable {sha256 : List UInt8 → List Char} {checksums : Checksums} {maxBytes : Nat}

/-- One entry that is a file. -/
theorem extractFile_spec {entry : ArchiveEntry} (index : Nat) (hfile : entry.isDir = false) :
    Extracts d archive (extractEntry sha256 checksums maxBytes entry index)
      (fun _ t => ∃ name, safeArchiveName entry.name = .ok name ∧
        Touches d (· = d.place (outputPath name)) s t ∧ Holds d sha256 checksums name t ∧
        t.written = s.written + entry.size)
      (fun t => ∃ path, Touches d (· = d.place path) s t ∧
        t.written ≤ s.written + entry.size) s := by
  unfold extractEntry
  have hstart : ∃ path, Touches d (· = d.place path) s s ∧ s.written ≤ s.written + entry.size :=
    ⟨[], .refl s, Nat.le_add_right _ _⟩
  apply Extracts.bind
  apply Extracts.ask
  intro ok s₀ hindex
  cases hindex
  apply Extracts.bind
  apply Extracts.ensure _ (fun _ => hstart)
  intro _
  apply Extracts.bind
  apply Extracts.ofExcept _ hstart
  intro name hname
  simp only [hfile, Bool.false_eq_true, if_false]
  -- the directories above the file
  apply Extracts.bind
  apply Extracts.ask
  rintro ok s₁ ⟨⟩
  rename_i node made
  have hdirs : Touches d (· = d.place (outputPath name)) s { s with node } :=
    (Touches.madeDirs made).weaken fun _ h => h.elim
  have hmade : ∃ path, Touches d (· = d.place path) s { s with node } ∧
      s.written ≤ s.written + entry.size := ⟨outputPath name, hdirs, Nat.le_add_right _ _⟩
  apply Extracts.bind
  apply Extracts.ensure _ (fun _ => hmade)
  intro _
  -- the file itself, empty
  apply Extracts.bind
  apply Extracts.ask
  intro ok s₂ hcreate
  cases hcreate with
  | notOpenedFile =>
    apply Extracts.bind
    exact Extracts.ensure (fun h => nomatch h) fun _ => hmade
  | openedFile =>
    apply Extracts.bind
    apply Extracts.ensure _ (fun h => nomatch h)
    intro _
    have hempty := hdirs.trans
      (Touches.update (p := d.place (outputPath name)) (some (.file [])) s.written)
    have hnow : Function.update node (d.place (outputPath name)) (some (.file []))
        (d.place (outputPath name)) = some (.file []) := Function.update_self ..
    apply Extracts.bind
    apply (copyEntry_spec maxBytes index entry.size (outputPath name) [] hnow
      (Nat.zero_le _)).mono
    · rintro content s₃ ⟨htouches, hcontent, hle, hwritten⟩
      have hcopied := hempty.trans htouches
      dsimp only [List.length_nil] at hwritten
      have hbad : ∃ path, Touches d (· = d.place path) s s₃ ∧
          s₃.written ≤ s.written + entry.size := ⟨outputPath name, hcopied, by omega⟩
      apply Extracts.bind
      apply Extracts.ask
      rintro ok s₄ ⟨⟩
      apply Extracts.bind
      apply Extracts.ensure _ (fun _ => hbad)
      intro _
      by_cases hsize : content.length ≠ entry.size
      · rw [if_pos hsize]
        exact Extracts.invalid hbad
      · rw [if_neg hsize]
        by_cases hdigest : name ≠ checksumsName ∧ checksums.lookup name ≠ some (sha256 content)
        · rw [if_pos hdigest]
          exact Extracts.invalid hbad
        · rw [if_neg hdigest]
          refine Extracts.pure ⟨name, hname, hcopied, ⟨content, hcontent, ?_⟩, by omega⟩
          intro hother
          by_contra hlookup
          exact hdigest ⟨hother, hlookup⟩
    · rintro s₃ ⟨htouches, hwritten⟩
      dsimp only [List.length_nil] at hwritten
      exact ⟨outputPath name, hempty.trans htouches, by omega⟩

/-- One entry that is a directory. -/
theorem extractDirectory_spec {entry : ArchiveEntry} (index : Nat) (hdir : entry.isDir = true) :
    Extracts d archive (extractEntry sha256 checksums maxBytes entry index)
      (fun _ t => Touches d (fun _ => False) s t ∧ t.written = s.written)
      (fun t => Touches d (fun _ => False) s t ∧ t.written = s.written) s := by
  unfold extractEntry
  have hstart : Touches d (fun _ => False) s s ∧ s.written = s.written := ⟨.refl s, rfl⟩
  apply Extracts.bind
  apply Extracts.ask
  intro ok s₀ hindex
  cases hindex
  apply Extracts.bind
  apply Extracts.ensure _ (fun _ => hstart)
  intro _
  apply Extracts.bind
  apply Extracts.ofExcept _ hstart
  intro name hname
  simp only [hdir, if_true]
  apply Extracts.bind
  apply Extracts.ask
  rintro ok s₁ ⟨⟩
  rename_i node made
  have hdirs : Touches d (fun _ => False) s { s with node } ∧ s.written = s.written :=
    ⟨.madeDirs made, rfl⟩
  exact Extracts.ensure (fun _ => hdirs) fun _ => hdirs

end Entries

/-- The names of the files among some entries. -/
def fileNames (entries : List ArchiveEntry) : List (List Char) :=
  entries.filterMap fun entry =>
    if entry.isDir then none else (safeArchiveName entry.name).toOption

/-- The sizes of the files among some entries. -/
def fileBytes (entries : List ArchiveEntry) : Nat :=
  ((entries.filter fun entry => !entry.isDir).map ArchiveEntry.size).sum

/-- The system takes two of these files for one at most where they differ in ASCII case. -/
def Apart (d : Target) (names : List (List Char)) : Prop :=
  ∀ a ∈ names, ∀ b ∈ names, d.place (outputPath a) = d.place (outputPath b) →
    collisionKey a = collisionKey b

/-- Nothing was touched outside of the destination, and no more than the limit was written. -/
structure Contained (d : Target) (base : Disk) (limit : Nat) (t : Disk) : Prop where
  outside : ∀ q, ¬d.root <+: q → t.node q = base.node q
  written : t.written ≤ base.written + limit
  removalFailed : t.removalFailed = base.removalFailed

/-- The destination with some files in it. -/
structure Progress (d : Target) (sha256 : List UInt8 → List Char) (checksums : Checksums)
    (base : Disk) (names : List (List Char)) (bytes : Nat) (t : Disk) : Prop where
  outside : ∀ q, ¬d.root <+: q → t.node q = base.node q
  only : ∀ q content, d.root <+: q → t.node q = some (.file content) →
    ∃ name ∈ names, q = d.place (outputPath name)
  holds : Apart d names → ∀ name ∈ names, Holds d sha256 checksums name t
  written : t.written = base.written + bytes
  listing : t.listing = base.listing
  removalFailed : t.removalFailed = base.removalFailed

section Runs

variable {d : Target} {archive : List ArchiveEntry} {sha256 : List UInt8 → List Char}
  {checksums : Checksums} {base s t : Disk} {names : List (List Char)} {bytes limit : Nat}

/-- A run in progress stays within its limit. -/
theorem Progress.contained (h : Progress d sha256 checksums base names bytes s)
    (hlimit : bytes ≤ limit) : Contained d base limit s :=
  ⟨h.outside, by rw [h.written]; omega, h.removalFailed⟩

/-- A run that stopped in the middle of one entry, with its bytes counted. -/
theorem Progress.stopped (h : Progress d sha256 checksums base names bytes s)
    {places : List (List Char) → Prop} (htouches : Touches d places s t)
    (hplaces : ∀ q, places q → d.root <+: q) {size : Nat} (hwritten : t.written ≤ s.written + size)
    (hlimit : bytes + size ≤ limit) : Contained d base limit t where
  outside := fun q hq => (htouches.outside hplaces hq).trans (h.outside q hq)
  written := by
    rw [h.written] at hwritten
    omega
  removalFailed := htouches.removalFailed.trans h.removalFailed

/-- An entry for a directory adds nothing. -/
theorem Progress.directory (h : Progress d sha256 checksums base names bytes s)
    (htouches : Touches d (fun _ => False) s t) (hwritten : t.written = s.written) :
    Progress d sha256 checksums base names bytes t where
  outside := fun q hq => (htouches.outside (fun _ hp => hp.elim) hq).trans (h.outside q hq)
  only := fun q content hq hfile => h.only q content hq ((htouches.file not_false).1 hfile)
  holds := by
    intro hapart name hname
    obtain ⟨content, hcontent, hlisted⟩ := h.holds hapart name hname
    exact ⟨content, (htouches.file not_false).2 hcontent, hlisted⟩
  written := hwritten.trans h.written
  listing := htouches.listing.trans h.listing
  removalFailed := htouches.removalFailed.trans h.removalFailed

/-- One more file, of a name that differs from the others in more than case. -/
theorem Progress.file (h : Progress d sha256 checksums base names bytes s) {name : List Char}
    (htouches : Touches d (· = d.place (outputPath name)) s t)
    (hholds : Holds d sha256 checksums name t) {size : Nat}
    (hwritten : t.written = s.written + size)
    (hnew : ∀ other ∈ names, collisionKey other ≠ collisionKey name) :
    Progress d sha256 checksums base (names ++ [name]) (bytes + size) t where
  outside := by
    intro q hq
    refine (htouches.outside ?_ hq).trans (h.outside q hq)
    rintro _ rfl
    exact d.root_prefix_place _
  only := by
    intro q content hq hfile
    by_cases hsame : q = d.place (outputPath name)
    · exact ⟨name, List.mem_append_right _ (List.mem_singleton_self _), hsame⟩
    · obtain ⟨other, hother, hplace⟩ := h.only q content hq ((htouches.file hsame).1 hfile)
      exact ⟨other, List.mem_append_left _ hother, hplace⟩
  holds := by
    intro hapart other hother
    rcases List.mem_append.1 hother with hold | hlast
    · have hapart' : Apart d names := fun a ha b hb =>
        hapart a (List.mem_append_left _ ha) b (List.mem_append_left _ hb)
      obtain ⟨content, hcontent, hlisted⟩ := h.holds hapart' other hold
      have hplace : d.place (outputPath other) ≠ d.place (outputPath name) := fun hsame =>
        hnew other hold (hapart other hother name
          (List.mem_append_right _ (List.mem_singleton_self _)) hsame)
      exact ⟨content, (htouches.file hplace).2 hcontent, hlisted⟩
    · rw [List.mem_singleton.1 hlast]
      exact hholds
  written := by
    rw [hwritten, h.written]
    omega
  listing := htouches.listing.trans h.listing
  removalFailed := htouches.removalFailed.trans h.removalFailed

/-- A directory gives no name. -/
theorem fileNames_cons_directory {entry : ArchiveEntry} (entries : List ArchiveEntry)
    (h : entry.isDir = true) : fileNames (entry :: entries) = fileNames entries := by
  simp [fileNames, h]

/-- A file gives its checked name. -/
theorem fileNames_cons_file {entry : ArchiveEntry} {name : List Char} (entries : List ArchiveEntry)
    (h : entry.isDir = false) (hname : safeArchiveName entry.name = .ok name) :
    fileNames (entry :: entries) = name :: fileNames entries := by
  simp [fileNames, h, hname, Except.toOption]

/-- The sizes of the files add up entry by entry. -/
theorem fileBytes_cons (entry : ArchiveEntry) (entries : List ArchiveEntry) :
    fileBytes (entry :: entries) = (if entry.isDir then 0 else entry.size) + fileBytes entries := by
  cases h : entry.isDir <;> simp [fileBytes, h]

/-- The second pass. -/
theorem extractEntries_spec (entries : List (ArchiveEntry × Nat)) {maxBytes : Nat}
    (hs : Progress d sha256 checksums base names bytes s)
    (hnodup : ((names ++ fileNames (entries.map Prod.fst)).map collisionKey).Nodup)
    (hlimit : bytes + fileBytes (entries.map Prod.fst) ≤ limit) :
    Extracts d archive (extractEntries sha256 checksums maxBytes entries)
      (fun _ t => Progress d sha256 checksums base (names ++ fileNames (entries.map Prod.fst))
        (bytes + fileBytes (entries.map Prod.fst)) t)
      (Contained d base limit) s := by
  induction entries generalizing names bytes s with
  | nil =>
    apply Extracts.pure
    simpa [fileNames, fileBytes] using hs
  | cons entry entries ih =>
    obtain ⟨entry, index⟩ := entry
    rw [List.map_cons, fileBytes_cons] at hlimit ⊢
    unfold extractEntries
    apply Extracts.bind
    cases hdir : entry.isDir with
    | true =>
      rw [List.map_cons, fileNames_cons_directory _ hdir] at hnodup
      rw [fileNames_cons_directory _ hdir]
      simp only [hdir, if_true, Nat.zero_add] at hlimit ⊢
      apply (extractDirectory_spec index hdir).mono
      · rintro _ t ⟨htouches, hwritten⟩
        exact ih (hs.directory htouches hwritten) hnodup hlimit
      · rintro t ⟨htouches, hwritten⟩
        have hle : t.written ≤ s.written + 0 := hwritten.le
        exact hs.stopped htouches (fun _ hp => hp.elim) hle (by omega)
    | false =>
      simp only [hdir, Bool.false_eq_true, if_false] at hlimit ⊢
      apply (extractFile_spec index hdir).mono
      · rintro _ t ⟨name, hname, htouches, hholds, hwritten⟩
        rw [List.map_cons, fileNames_cons_file _ hdir hname] at hnodup
        rw [fileNames_cons_file _ hdir hname, ← Nat.add_assoc]
        have hsplit : names ++ name :: fileNames (entries.map Prod.fst) =
            (names ++ [name]) ++ fileNames (entries.map Prod.fst) := by simp
        rw [hsplit] at hnodup ⊢
        have hnew : ∀ other ∈ names, collisionKey other ≠ collisionKey name := by
          have hparts := hnodup
          rw [List.append_assoc, List.map_append, List.nodup_append] at hparts
          intro other hother
          exact hparts.2.2 _ (List.mem_map_of_mem hother) _ (by simp)
        exact ih (hs.file htouches hholds hwritten hnew) hnodup (by omega)
      · rintro t ⟨path, htouches, hwritten⟩
        refine hs.stopped htouches ?_ hwritten (by omega)
        rintro _ rfl
        exact d.root_prefix_place _

/-- Names of entries, in lower case, that were seen so far, and the files among them. -/
structure Scanned.Sound (seen : Scanned) (maxBytes : Nat) : Prop where
  files : (seen.files.map collisionKey).Nodup
  names : seen.files.map collisionKey ⊆ seen.names
  bytes : seen.expandedBytes ≤ maxBytes

/-- The first pass changes nothing. -/
theorem scanEntries_spec (entries : List (ArchiveEntry × Nat)) {maxBytes : Nat} {seen : Scanned}
    (hseen : seen.Sound maxBytes) :
    Extracts d archive (scanEntries maxBytes entries seen)
      (fun after t => t = s ∧ after.Sound maxBytes ∧
        after.files = (fileNames (entries.map Prod.fst)).reverse ++ seen.files ∧
        after.expandedBytes = seen.expandedBytes + fileBytes (entries.map Prod.fst))
      (· = s) s := by
  induction entries generalizing seen with
  | nil => exact Extracts.pure ⟨rfl, hseen, by simp [fileNames], by simp [fileBytes]⟩
  | cons entry entries ih =>
    obtain ⟨entry, index⟩ := entry
    rw [List.map_cons, fileBytes_cons]
    unfold scanEntries
    apply Extracts.bind
    apply Extracts.ask
    rintro ok _ ⟨⟩
    apply Extracts.bind
    refine Extracts.ensure ?_ fun _ => rfl
    intro _
    apply Extracts.bind
    refine Extracts.ofExcept ?_ rfl
    intro name hname
    by_cases hduplicate : seen.names.contains (collisionKey name) = true
    · rw [if_pos hduplicate]
      exact Extracts.invalid rfl
    rw [if_neg hduplicate]
    by_cases hlink : isUnixLink entry = true
    · rw [if_pos hlink]
      exact Extracts.invalid rfl
    rw [if_neg hlink]
    have hnew : collisionKey name ∉ seen.names := by simpa using hduplicate
    cases hdir : entry.isDir with
    | true =>
      rw [fileNames_cons_directory _ hdir]
      simp only [if_true, Nat.zero_add]
      have hnext : Scanned.Sound { seen with names := collisionKey name :: seen.names } maxBytes :=
        ⟨hseen.files, List.subset_cons_of_subset _ hseen.names, hseen.bytes⟩
      exact ih hnext
    | false =>
      simp only [Bool.false_eq_true, if_false]
      rw [fileNames_cons_file _ hdir hname]
      by_cases hoverflow : 2 ^ 64 ≤ seen.expandedBytes + entry.size
      · rw [if_pos hoverflow]
        exact Extracts.invalid rfl
      rw [if_neg hoverflow]
      by_cases hlarge : maxBytes < seen.expandedBytes + entry.size
      · rw [if_pos hlarge]
        exact Extracts.invalid rfl
      rw [if_neg hlarge]
      have hfiles : ((name :: seen.files).map collisionKey).Nodup :=
        List.nodup_cons.2 ⟨fun hmem => hnew (hseen.names hmem), hseen.files⟩
      have hnext : Scanned.Sound ⟨collisionKey name :: seen.names, name :: seen.files,
          seen.expandedBytes + entry.size⟩ maxBytes :=
        ⟨hfiles, List.cons_subset_cons _ hseen.names, Nat.le_of_not_lt hlarge⟩
      apply (ih hnext).mono
      · rintro after t ⟨rfl, hsound, hfiles, hbytes⟩
        refine ⟨rfl, hsound, ?_, ?_⟩
        · rw [hfiles]
          simp
        · rw [hbytes, Nat.add_assoc]
      · exact fun _ h => h

/-- The inventory that was read. -/
theorem readChecksums_spec :
    Extracts d archive readChecksums
      (fun checksums t => ∃ bytes, parseChecksums bytes = .ok checksums ∧
        t = { s with listing := some bytes })
      (fun t => t.node = s.node ∧ t.written = s.written ∧ t.removalFailed = s.removalFailed)
      s := by
  have hstart : s.node = s.node ∧ s.written = s.written ∧ s.removalFailed = s.removalFailed :=
    ⟨rfl, rfl, rfl⟩
  unfold readChecksums
  apply Extracts.bind
  apply Extracts.ask
  rintro (_ | entry) t hnamed
  · cases hnamed
    exact Extracts.throw hstart
  · cases hnamed
    by_cases hlarge : 64 * 1024 < entry.size
    · simp only [if_pos hlarge]
      exact Extracts.invalid hstart
    · simp only [if_neg hlarge]
      apply Extracts.bind
      apply Extracts.ask
      rintro (_ | bytes) u hread
      · cases hread
        exact Extracts.throw hstart
      · cases hread
        apply Extracts.ofExcept
        · exact fun checksums hparsed => ⟨bytes, hparsed, rfl⟩
        · exact ⟨rfl, rfl, rfl⟩

/-- The checks of the executables change nothing. -/
theorem validateExecutables_spec (names : List (List Char)) :
    Extracts d archive (validateExecutables names) (fun _ t => t = s) (· = s) s := by
  induction names with
  | nil => exact Extracts.pure rfl
  | cons name names ih =>
    unfold validateExecutables
    apply Extracts.bind
    apply Extracts.ask
    rintro (error | ⟨⟩) t ⟨⟩
    · exact Extracts.throw rfl
    · exact ih

/-- What a successful extraction leaves at its destination. -/
structure Extracted (d : Target) (archive : List ArchiveEntry) (sha256 : List UInt8 → List Char)
    (checksums : Checksums) (t : Disk) : Prop where
  only : ∀ q content, d.root <+: q → t.node q = some (.file content) →
    q = d.place (outputPath checksumsName) ∨
      ∃ listed ∈ checksums, q = d.place (outputPath listed.1)
  listed : Apart d (fileNames archive) → ∀ name digest, checksums.lookup name = some digest →
    ∃ content, t.node (d.place (outputPath name)) = some (.file content) ∧
      sha256 content = digest
  inventory : Apart d (fileNames archive) →
    ∃ content, t.node (d.place (outputPath checksumsName)) = some (.file content)

/-- Two lists that pass the comparison have the same names. -/
theorem mem_of_sameFiles {a b : List (List Char)} (h : sameFiles a b = true) (name : List Char) :
    name ∈ a ↔ name ∈ b := by
  rw [sameFiles, Bool.and_eq_true, List.all_eq_true, List.all_eq_true] at h
  constructor
  · intro hname
    simpa using h.1 name hname
  · intro hname
    simpa using h.2 name hname

/-- Everything after the destination was made. -/
theorem extractVerifiedBundleInner_spec {maxBytes : Nat}
    (hempty : ∀ q content, d.root <+: q → s.node q ≠ some (.file content)) :
    Extracts d archive (extractVerifiedBundleInner sha256 maxBytes)
      (fun _ t => Contained d s maxBytes t ∧ ∃ bytes checksums, t.listing = some bytes ∧
        parseChecksums bytes = .ok checksums ∧ Extracted d archive sha256 checksums t)
      (Contained d s maxBytes) s := by
  have hstart : Contained d s maxBytes s := ⟨fun _ _ => rfl, Nat.le_add_right _ _, rfl⟩
  unfold extractVerifiedBundleInner
  apply Extracts.bind
  apply Extracts.ask
  rintro (error | _) _ ⟨⟩
  · exact Extracts.throw hstart
  by_cases hcount : (archive.isEmpty || maxArchiveEntries < archive.length) = true
  · simp only [if_pos hcount]
    exact Extracts.invalid hstart
  simp only [if_neg hcount]
  have hseen : Scanned.Sound ⟨[], [], 0⟩ maxBytes :=
    ⟨List.nodup_nil, List.nil_subset _, Nat.zero_le _⟩
  apply Extracts.bind
  apply (scanEntries_spec archive.zipIdx hseen).mono
  swap
  · rintro _ rfl
    exact hstart
  rintro seen s' ⟨hsame, hsound, hfiles, hbytes⟩
  subst s'
  rw [List.zipIdx_map_fst, List.append_nil] at hfiles
  rw [List.zipIdx_map_fst, Nat.zero_add] at hbytes
  by_cases hmissing : (!seen.files.contains checksumsName) = true
  · rw [if_pos hmissing]
    exact Extracts.invalid hstart
  rw [if_neg hmissing]
  apply Extracts.bind
  apply readChecksums_spec.mono
  swap
  · rintro t ⟨hnode, hwritten, hfailed⟩
    exact ⟨fun q _ => congrFun hnode q, by omega, hfailed⟩
  rintro checksums _ ⟨bytes, hparsed, rfl⟩
  have hread : Contained d s maxBytes { s with listing := some bytes } :=
    ⟨fun _ _ => rfl, Nat.le_add_right _ _, rfl⟩
  by_cases hdiffer : (!sameFiles (seen.files.filter (· ≠ checksumsName))
      (checksums.map Prod.fst)) = true
  · simp only [if_pos hdiffer]
    exact Extracts.invalid hread
  simp only [if_neg hdiffer]
  split
  · exact Extracts.invalid hread
  have hprogress : Progress d sha256 checksums { s with listing := some bytes } [] 0
      { s with listing := some bytes } := by
    refine ⟨fun _ _ => rfl, ?_, (fun _ _ h => nomatch h), rfl, rfl, rfl⟩
    exact fun q content hq hfile => absurd hfile (hempty q content hq)
  have hnodup : (([] ++ fileNames (archive.zipIdx.map Prod.fst)).map collisionKey).Nodup := by
    have hfilesNodup := hsound.files
    rw [hfiles, List.map_reverse, List.nodup_reverse] at hfilesNodup
    rw [List.nil_append, List.zipIdx_map_fst]
    exact hfilesNodup
  have hlimit : 0 + fileBytes (archive.zipIdx.map Prod.fst) ≤ maxBytes := by
    rw [List.zipIdx_map_fst, Nat.zero_add, ← hbytes]
    exact hsound.bytes
  apply Extracts.bind
  apply (extractEntries_spec archive.zipIdx hprogress hnodup hlimit).mono
  swap
  · exact fun t h => ⟨h.outside, h.written, h.removalFailed⟩
  intro _ t hdone
  have hcontained := hdone.contained hlimit
  rw [List.nil_append, List.zipIdx_map_fst] at hdone
  apply Extracts.bind
  apply (validateExecutables_spec requiredPeFiles).mono
  swap
  · rintro _ rfl
    exact ⟨hcontained.outside, hcontained.written, hcontained.removalFailed⟩
  rintro _ _ rfl
  have hsame : ∀ name, name ∈ fileNames archive ∧ name ≠ checksumsName ↔
      name ∈ checksums.map Prod.fst := by
    intro name
    have hequal : sameFiles (seen.files.filter (· ≠ checksumsName))
        (checksums.map Prod.fst) = true := by
      rwa [Bool.not_eq_true, Bool.not_eq_false'] at hdiffer
    rw [← mem_of_sameFiles hequal name, List.mem_filter, hfiles, List.mem_reverse]
    simp
  apply Extracts.pure
  refine ⟨⟨hcontained.outside, hcontained.written, hcontained.removalFailed⟩, bytes, checksums,
    hdone.listing, hparsed, ?_⟩
  constructor
  · intro q content hq hfile
    obtain ⟨name, hname, hplace⟩ := hdone.only q content hq hfile
    by_cases hinventory : name = checksumsName
    · exact Or.inl (hinventory ▸ hplace)
    · obtain ⟨listed, hlisted, rfl⟩ := List.mem_map.1 ((hsame name).1 ⟨hname, hinventory⟩)
      exact Or.inr ⟨listed, hlisted, hplace⟩
  · intro hapart name digest hlookup
    have hname : name ∈ checksums.map Prod.fst := by
      obtain ⟨before, after, hsplit, -⟩ := List.lookup_eq_some_iff.1 hlookup
      rw [hsplit]
      simp
    obtain ⟨hmem, hother⟩ := (hsame name).2 hname
    obtain ⟨content, hcontent, hdigest⟩ := hdone.holds hapart name hmem
    refine ⟨content, hcontent, ?_⟩
    exact Option.some.inj ((hdigest hother).symm.trans hlookup)
  · intro hapart
    have hmem : checksumsName ∈ fileNames archive := by
      have hcontains : checksumsName ∈ seen.files := by simpa using hmissing
      rwa [hfiles, List.mem_reverse] at hcontains
    obtain ⟨content, hcontent, -⟩ := hdone.holds hapart checksumsName hmem
    exact ⟨content, hcontent⟩

/-- What an extraction must leave, whether it succeeds or not. -/
structure Authentic (d : Target) (archive : List ArchiveEntry) (sha256 : List UInt8 → List Char)
    (limit : Nat) (s : Disk) (result : Except BundleError BundleInventory) (t : Disk) : Prop where
  outside : ∀ q, ¬d.root <+: q → t.node q = s.node q
  written : t.written ≤ s.written + limit
  succeeded : result.toOption.isSome → ∃ bytes checksums, t.listing = some bytes ∧
    parseChecksums bytes = .ok checksums ∧ Extracted d archive sha256 checksums t
  /-- What was there before is not touched, and what was begun is removed. -/
  failed : result.toOption = none → t.removalFailed = false →
    t.node d.root = none ∨ s.node d.root ≠ none ∧ t.node = s.node

/-- A call that changed nothing is authentic. -/
theorem Authentic.unchanged (error : BundleError) :
    Authentic d archive sha256 limit s (.error error) s where
  outside := fun _ _ => rfl
  written := Nat.le_add_right _ _
  succeeded := fun h => nomatch h
  failed := by
    intro _ _
    by_cases hroot : s.node d.root = none
    · exact Or.inl hroot
    · exact Or.inr ⟨hroot, rfl⟩

/-- What a call leaves, with success and with failure. -/
theorem extractVerifiedBundle_spec (requested : Nat) :
    Extracts d archive (extractVerifiedBundle sha256 requested)
      (fun inventory t =>
        Authentic d archive sha256 (effectiveExpandedLimit requested) s (.ok inventory) t)
      (fun t => ∀ error,
        Authentic d archive sha256 (effectiveExpandedLimit requested) s (.error error) t) s := by
  unfold extractVerifiedBundle
  apply Extracts.bind
  apply Extracts.ask
  rintro (_ | _) t hexists
  swap
  · cases hexists
    exact Extracts.invalid Authentic.unchanged
  cases hexists
  apply Extracts.bind
  apply Extracts.ask
  intro ok t hcreate
  apply Extracts.bind
  cases hcreate with
  | notCreated => exact Extracts.ensure (fun h => nomatch h) fun _ => Authentic.unchanged
  | created =>
    apply Extracts.ensure _ (fun h => nomatch h)
    intro _
    have hempty : ∀ q content, d.root <+: q →
        (s.withRoot d).node q ≠ some (.file content) := by
      intro q content hq
      simp only [Disk.withRoot, if_pos hq]
      by_cases hroot : q = d.root
      · rw [if_pos hroot]
        simp
      · rw [if_neg hroot]
        simp
    have hmade : ∀ q, ¬d.root <+: q → (s.withRoot d).node q = s.node q := fun q hq => if_neg hq
    apply Extracts.catching
    apply (extractVerifiedBundleInner_spec hempty).mono
    · rintro inventory t ⟨hcontained, hextracted⟩
      exact
        { outside := fun q hq => (hcontained.outside q hq).trans (hmade q hq)
          written := hcontained.written
          succeeded := fun _ => hextracted
          failed := fun h => nomatch h }
    · intro t hcontained error
      apply Extracts.bind
      apply Extracts.ask
      intro ok u hremove
      apply Extracts.throw
      intro error
      cases hremove with
      | removed _ node outside inside =>
        exact
          { outside := fun q hq =>
              (outside q hq).trans ((hcontained.outside q hq).trans (hmade q hq))
            written := hcontained.written
            succeeded := fun h => nomatch h
            failed := fun _ _ => Or.inl (inside _ (List.prefix_refl _)) }
      | notRemoved _ node outside =>
        exact
          { outside := fun q hq =>
              (outside q hq).trans ((hcontained.outside q hq).trans (hmade q hq))
            written := hcontained.written
            succeeded := fun h => nomatch h
            failed := fun _ h => nomatch h }

end Runs

section Sample

/-- A system that tells no case apart, nor dots and spaces at the end of a name. -/
private def windowsTarget : Target where
  fold name := (name.rdropWhile fun c => c = '.' || c = ' ').map Text.lowerChar
  destination := ["staging".toList]

/-- Sixty-four digits that tell one byte from another. -/
private def sampleDigest (content : List UInt8) : List Char :=
  List.replicate 64 (Nat.digitChar ((content.head?.getD 0).toNat % 10))

/-- The required files and some others, each of one byte. -/
private def sampleFiles (extra : List (List Char × UInt8)) : List (List Char × UInt8) :=
  requiredBundleFiles.map (·, 0) ++ extra

/-- The inventory that lists the files of the sample. -/
private def sampleInventory (extra : List (List Char × UInt8)) : List UInt8 :=
  (sampleFiles extra).flatMap fun file =>
    (sampleDigest [file.2] ++ [' ', '*'] ++ file.1 ++ ['\n']).map fun c => UInt8.ofNat c.toNat

/-- An archive with the required files, some more, and the inventory. -/
private def sampleArchive (extra : List (List Char × UInt8)) : List ArchiveEntry :=
  (sampleFiles extra).map (fun file => ⟨file.1, false, 1, none⟩) ++
    [⟨checksumsName, false, (sampleInventory extra).length, none⟩]

/-- What the entry with this index unpacks to. -/
private def sampleContent (extra : List (List Char × UInt8)) (index : Nat) : List UInt8 :=
  match (sampleFiles extra)[index]? with
  | some file => [file.2]
  | none => sampleInventory extra

/-- The directories on the way to a path, made where nothing stands. -/
private def withDirs (d : Target) (path : List (List Char)) (s : Disk) :
    List (List Char) → Option DiskNode :=
  fun q =>
    match s.node q with
    | some found => some found
    | none => if path.inits.any fun p => q = d.place p then some .directory else none

/-- A system without faults; a file that is not empty any more was read to its end. -/
private def sampleSystem (d : Target) (extra : List (List Char × UInt8)) (_ : Nat) :
    (q : BundleAsk) → Disk → BundleAnswer q × Disk
  | .exists, s => ((s.node d.root).isSome, s)
  | .createDir, s =>
    if s.node d.root = none then (true, s.withRoot d) else (false, s)
  | .removeDirAll, s =>
    (true, { s with node := fun q => if d.root <+: q then none else s.node q })
  | .openArchive, s => (.ok (sampleArchive extra), s)
  | .byIndex _, s => (true, s)
  | .byName name, s => ((sampleArchive extra).find? fun entry => entry.name = name, s)
  | .readToEnd _, s =>
    (some (sampleInventory extra), { s with listing := some (sampleInventory extra) })
  | .createDirAll path, s => (true, { s with node := withDirs d path s })
  | .createFile path, s =>
    if s.node (d.place path) = some .directory then (false, s)
    else (true, { s with node := Function.update s.node (d.place path) (some (.file [])) })
  | .read index, s =>
    let name := ((sampleArchive extra)[index]?.map ArchiveEntry.name).getD []
    if s.node (d.place (outputPath name)) = some (.file []) then
      (some (sampleContent extra index), s)
    else (some [], s)
  | .write path bytes, s =>
    match s.node (d.place path) with
    | some (.file content) =>
      (true,
        { s with
          node := Function.update s.node (d.place path) (some (.file (content ++ bytes)))
          written := s.written + bytes.length })
    | _ => (false, s)
  | .flush _, s => (true, s)
  | .validatePe _, s => (.ok (), s)

/-- The sample's system answers as the environment allows. -/
private theorem sampleSystem_responds (d : Target) (extra : List (List Char × UInt8)) (n : Nat)
    (q : BundleAsk) (s : Disk) :
    BundleResponds d (sampleArchive extra) q s (sampleSystem d extra n q s).1
      (sampleSystem d extra n q s).2 := by
  cases q with
  | «exists» =>
    cases hroot : s.node d.root with
    | none =>
      simp only [sampleSystem, hroot, Option.isSome_none]
      exact .notFound s
    | some node =>
      simp only [sampleSystem, hroot, Option.isSome_some]
      exact .found s (by simp [hroot])
  | createDir =>
    by_cases hroot : s.node d.root = none
    · simp only [sampleSystem, if_pos hroot]
      exact .created s hroot
    · simp only [sampleSystem, if_neg hroot]
      exact .notCreated s
  | removeDirAll =>
    exact .removed s _ (fun q hq => if_neg hq) (fun q hq => if_pos hq)
  | openArchive => exact .opened s
  | byIndex index => exact .byIndex s index true
  | byName name =>
    cases hfind : (sampleArchive extra).find? fun entry => entry.name = name with
    | none =>
      simp only [sampleSystem, hfind]
      exact .notNamed s name
    | some entry =>
      simp only [sampleSystem, hfind]
      have hname : entry.name = name := by simpa using List.find?_some hfind
      exact .named s name entry (List.mem_of_find?_eq_some hfind) hname
  | readToEnd name => exact .readToEnd s name _
  | createDirAll path =>
    refine .dirs s path true _ fun q => ?_
    unfold withDirs
    dsimp only
    cases hnode : s.node q with
    | some found => exact Or.inl rfl
    | none =>
      by_cases hplace : (path.inits.any fun p => q = d.place p) = true
      · obtain ⟨p, hp, hq⟩ := List.any_eq_true.1 hplace
        refine Or.inr ⟨⟨p, (List.mem_inits _ _).1 hp, by simpa using hq⟩, rfl, ?_⟩
        simp only [if_pos hplace]
      · left
        simp only [if_neg hplace]
  | createFile path =>
    by_cases hdirectory : s.node (d.place path) = some .directory
    · simp only [sampleSystem, if_pos hdirectory]
      exact .notOpenedFile s path
    · simp only [sampleSystem, if_neg hdirectory]
      exact .openedFile s path hdirectory
  | read index =>
    simp only [sampleSystem]
    split
    · exact .read s index _
    · exact .read s index _
  | write path bytes =>
    simp only [sampleSystem]
    split
    · rename_i content hfile
      exact .wrote s path bytes bytes content true hfile (List.prefix_refl _) fun _ => rfl
    · exact .notWritten s path bytes
  | flush path => exact .flushed s path true
  | validatePe path => exact .validated s path _

/-- A disk on which nothing stands yet. -/
private def emptyDisk : Disk := ⟨fun _ => none, 0, none, false⟩

/-- The run of the sample with these extra files. -/
private def sampleRun (extra : List (List Char × UInt8)) (s : Disk) :
    Except BundleError BundleInventory × Disk :=
  (extractVerifiedBundle sampleDigest 4096).run.play (sampleSystem windowsTarget extra) 0 s

/-- The run of the sample is an execution of the program. -/
private theorem sampleRun_executes (extra : List (List Char × UInt8)) (s : Disk) :
    Executes (bundleEnvironment windowsTarget (sampleArchive extra))
      (extractVerifiedBundle sampleDigest 4096).run s (sampleRun extra s).1 (sampleRun extra s).2 :=
  executes_play (sampleSystem_responds windowsTarget extra) 0
    (extractVerifiedBundle sampleDigest 4096).run s

/-- What the listing that was read says of a name. -/
private def listedDigest (t : Disk) (name : List Char) : Option (Option (List Char)) :=
  t.listing.bind fun bytes => (parseChecksums bytes).toOption.map fun checksums =>
    checksums.lookup name

/-- Two names that Windows takes for one file. -/
private def aliased : List (List Char × UInt8) :=
  [("a.txt".toList, 1), ("a.txt.".toList, 2)]

/-- Names that are not apart: the one file is left with the content of the second. -/
example : (sampleRun aliased emptyDisk).1.toOption.isSome = true ∧
    listedDigest (sampleRun aliased emptyDisk).2 "a.txt".toList = some (some (sampleDigest [1])) ∧
    (sampleRun aliased emptyDisk).2.node (windowsTarget.place (outputPath "a.txt".toList)) =
      some (.file [2]) := by
  decide +kernel

end Sample

end MultiCore.Update
