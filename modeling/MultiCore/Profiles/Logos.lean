import Mathlib.Data.List.MinMax
import Mathlib.Data.List.Sort
import MultiCore.Library.Text
import MultiCore.Profiles.Store

/-!
# Cached service logos

The files in which the store keeps a profile's logo. Every image has a file of
its own with a sequence number in its name, and a marker says that the provider
removed its logo. A file that a reader still holds may stay when it is deleted,
so several can be there; the newest is the one that counts.
-/

namespace MultiCore.Profiles

/-- The files of the store's directory, by their names and in the order they are listed. -/
abbrev StoreFiles := List (String × List UInt8)

/-- The image and hash functions logos are checked and named with. -/
structure LogoCodec where
  sha256 : List UInt8 → List UInt8
  /-- Whether some bytes are a still image of the kind and dimensions that logos have. -/
  isRaster : List UInt8 → Bool

/-- What the clock says, in nanoseconds: a 64-bit number of seconds and a part of one. -/
structure ClockReading where
  nanos : Nat
  within : nanos < 2 ^ 64 * 10 ^ 9

/-- `SERVICE_LOGO_PREFIX`. -/
def serviceLogoPrefix : String := "logo-"

/-- `MAX_SERVICE_LOGO_OUTPUT_BYTES`, 512 KiB. -/
def maxServiceLogoOutputBytes : Nat := 512 * 1024

/-- `is_canonical_service_logo`. -/
def isCanonicalServiceLogo (codec : LogoCodec) (source : List UInt8) : Bool :=
  source.length ≤ maxServiceLogoOutputBytes && codec.isRaster source

/-- The first eight bytes of the hash of an image. -/
def logoDigest (codec : LogoCodec) (png : List UInt8) : String :=
  String.ofList (((codec.sha256 png).take 8).flatMap fun byte => Text.hexadecimal 2 byte.toNat)

/-- The name of a cached logo: its profile, its place in the order, its digest. -/
def logoName (id : ProfileId) (sequence : Nat) (digest : String) : String :=
  serviceLogoPrefix ++ id.value ++ ("-" ++ (String.ofList (Text.hexadecimal 32 sequence) ++
    ("-" ++ digest) ++ ".png"))

/-- The name under which a logo is written before it is one. -/
def logoTemp (id : ProfileId) : String := serviceLogoPrefix ++ id.value ++ ".tmp"

/-- The name of the mark that a logo was removed. -/
def removedLogoName (id : ProfileId) : String := serviceLogoPrefix ++ id.value ++ "-none"

/-- Whether a file is one of the profile's logo files. -/
def isServiceLogoName (id : ProfileId) (name : String) : Bool :=
  (Text.stripPrefix name (serviceLogoPrefix ++ id.value)).any fun rest =>
    Text.startsWith rest "-" || rest = ".tmp"

/-- The names in the folder that are of this profile's logo. -/
def serviceLogoNames (id : ProfileId) (files : StoreFiles) : List String :=
  (files.map Prod.fst).filter (isServiceLogoName id)

/-- The sequence number and the digest in a name. -/
def parseLogoName (id : ProfileId) (name : String) : Option (Nat × String) := do
  let rest ← Text.stripPrefix name (serviceLogoPrefix ++ id.value ++ "-")
  let (sequence, digest) ← Text.splitOnce '-' (← Text.stripSuffix rest ".png")
  let sequence ← Text.parseRadix 16 (2 ^ 128 - 1) sequence.toList
  some (sequence, digest)

/-- A logo file: its sequence number, digest and name. -/
structure LogoFile where
  sequence : Nat
  digest : String
  name : String
  deriving DecidableEq, Repr

/-- Those of them that carry a logo, with what their name says. -/
def serviceLogoFiles (id : ProfileId) (names : List String) : List LogoFile :=
  names.filterMap fun name =>
    (parseLogoName id name).map fun (sequence, digest) => ⟨sequence, digest, name⟩

/-- The last of the files with the highest sequence number. -/
def newestLogo (logos : List LogoFile) : Option LogoFile := logos.reverse.argmax LogoFile.sequence

/-- What a file of the folder holds. -/
def fileContent (files : StoreFiles) (name : String) : Option (List UInt8) :=
  (files.find? fun file => file.1 = name).map Prod.snd

/-- A logo's file, if it is not too large. -/
def readServiceLogo (files : StoreFiles) (name : String) : Option (List UInt8) :=
  (fileContent files name).filter fun bytes => bytes.length ≤ maxServiceLogoOutputBytes

/-- The files that cannot be deleted because readers hold them: only logos are read. -/
structure Held (id : ProfileId) where
  held : String → Bool
  marker : held (removedLogoName id) = false
  temp : held (logoTemp id) = false

section Operations

variable {id : ProfileId}

/-- A file is removed, unless something holds it. -/
def removeFile (held : Held id) (files : StoreFiles) (name : String) : StoreFiles :=
  if held.held name then files else files.filter fun file => file.1 ≠ name

/-- Deletes all of some files but one, as far as they can be deleted. -/
def removeOthers (held : Held id) (kept : String) (names : List String) (files : StoreFiles) :
    StoreFiles :=
  names.foldl (fun files other => if other ≠ kept then removeFile held files other else files) files

/-- A file is renamed over another. -/
def replaceFile (files : StoreFiles) (oldName newName : String) : StoreFiles :=
  (files.filter fun file => file.1 ≠ newName).map fun file =>
    if file.1 = oldName then (newName, file.2) else file

/-- A profile's provider logo as the background download left it. -/
inductive CachedServiceLogo where
  | logo (png : List UInt8)
  | removed
  deriving DecidableEq, Repr

/-- The logo of a profile and the files left, of which older ones are deleted. -/
def cachedServiceLogo (codec : LogoCodec) (held : Held id) (files : StoreFiles) :
    Option CachedServiceLogo × StoreFiles :=
  let names := serviceLogoNames id files
  if names.any (· = removedLogoName id) then (some .removed, files)
  else
    let logos := (serviceLogoFiles id names).insertionSort fun a b => b.sequence ≤ a.sequence
    match logos.findSome? fun logo =>
      ((readServiceLogo files logo.name).filter (isCanonicalServiceLogo codec)).map fun png =>
        (logo.name, png) with
    | none => (none, files)
    | some (chosen, png) =>
      (some (.logo png), removeOthers held chosen (logos.map LogoFile.name) files)

/-- The sequence number of a new image: the time, or one more than the newest of the files. -/
def logoSequence (now : ClockReading) : Option LogoFile → Nat
  | none => now.nanos
  | some newest => max now.nanos ((newest.sequence + 1) % 2 ^ 128)

/-- The name of the newest file where it holds this image already. -/
def keptLogo (codec : LogoCodec) (id : ProfileId) (png : List UInt8) (files : StoreFiles) :
    Option String :=
  (newestLogo (serviceLogoFiles id (serviceLogoNames id files))).bind fun newest =>
    if newest.digest = logoDigest codec png then some newest.name else none

/-- The sequence number that an image to save is given. -/
def issuedSequence (id : ProfileId) (now : ClockReading) (files : StoreFiles) : Nat :=
  logoSequence now (newestLogo (serviceLogoFiles id (serviceLogoNames id files)))

/-- The name that a save uses: that of the same logo, where it is cached already. -/
def savedLogoName (codec : LogoCodec) (id : ProfileId) (now : ClockReading) (png : List UInt8)
    (files : StoreFiles) : String :=
  (keptLogo codec id png files).getD
    (logoName id (issuedSequence id now files) (logoDigest codec png))

/-- Writes an image to a temporary file and gives it its name. -/
def writeLogo (held : Held id) (name : String) (png : List UInt8) (files : StoreFiles) :
    StoreFiles :=
  let files :=
    if (fileContent files (logoTemp id)).isSome then removeFile held files (logoTemp id) else files
  replaceFile (files ++ [(logoTemp id, png)]) (logoTemp id) name

/-- `save_service_logo`. -/
def saveServiceLogo (codec : LogoCodec) (held : Held id) (now : ClockReading) (png : List UInt8)
    (files : StoreFiles) : Except ProfileError (List UInt8) × StoreFiles :=
  if isCanonicalServiceLogo codec png = false then (.error .io, files)
  else
    let name := savedLogoName codec id now png files
    let files :=
      if (fileContent files name).isNone then writeLogo held name png files else files
    let files := removeOthers held name (serviceLogoNames id files) files
    match readServiceLogo files name with
    | some png => (.ok png, files)
    | none => (.error .io, files)

/-- `mark_service_logo_removed`. -/
def markServiceLogoRemoved (held : Held id) (files : StoreFiles) : StoreFiles :=
  let marker := removedLogoName id
  let files := if (fileContent files marker).isNone then files ++ [(marker, [])] else files
  removeOthers held marker (serviceLogoNames id files) files

end Operations

section Names

variable (id : ProfileId)

/-- The name of a logo is a name of the cache. -/
theorem isServiceLogoName_logoName (n : Nat) (digest : String) :
    isServiceLogoName id (logoName id n digest) = true := by
  rw [isServiceLogoName, logoName, Text.stripPrefix_append, Option.any_some, Text.startsWith_append,
    Bool.true_or]

/-- So is the mark of a removal. -/
theorem isServiceLogoName_removedLogoName : isServiceLogoName id (removedLogoName id) = true := by
  rw [isServiceLogoName, removedLogoName, Text.stripPrefix_append, Option.any_some]
  decide

/-- So is the name under which a logo is written. -/
theorem isServiceLogoName_logoTemp : isServiceLogoName id (logoTemp id) = true := by
  rw [isServiceLogoName, logoTemp, Text.stripPrefix_append, Option.any_some]
  decide

/-- A name is read as it was written. -/
theorem parseLogoName_logoName {n : Nat} (hn : n < 2 ^ 128) (digest : String) :
    parseLogoName id (logoName id n digest) = some (n, digest) := by
  have hminus : '-' ∉ (String.ofList (Text.hexadecimal 32 n)).toList := by
    rw [String.toList_ofList]
    intro hmem
    obtain ⟨x, hx⟩ := Text.mem_hexadecimal hmem
    rw [show Text.digitValue 16 '-' = none from rfl] at hx
    exact absurd hx (Option.some_ne_none x).symm
  have hsplit := Text.splitOnce_append hminus digest
  have hsequence : Text.parseRadix 16 (2 ^ 128 - 1) (Text.hexadecimal 32 n) = some n :=
    Text.parseRadix_hexadecimal (by decide) hn (Nat.le_sub_one_of_lt hn)
  rw [parseLogoName, logoName, Text.stripPrefix_append_append, Text.stripPrefix_append]
  simp only [Option.bind_eq_bind, Option.bind_some, Text.stripSuffix_append]
  rw [show ("-" : String) = String.singleton '-' from rfl, hsplit]
  simp only [Option.bind_some, String.toList_ofList, hsequence]

/-- The mark of a removal is no logo. -/
theorem parseLogoName_removedLogoName : parseLogoName id (removedLogoName id) = none := by
  rw [parseLogoName, removedLogoName, Text.stripPrefix_append_append]
  decide

/-- A logo that is still being written is none. -/
theorem parseLogoName_logoTemp : parseLogoName id (logoTemp id) = none := by
  rw [parseLogoName, logoTemp, Text.stripPrefix_append_append]
  decide

end Names

section Names

variable {id : ProfileId}

/-- A name says which logo it is of. -/
theorem logoName_inj {m n : Nat} (hm : m < 2 ^ 128) (hn : n < 2 ^ 128) {digest digest' : String}
    (h : logoName id m digest = logoName id n digest') : m = n ∧ digest = digest' := by
  have hparse := parseLogoName_logoName id hm digest
  rw [h, parseLogoName_logoName id hn] at hparse
  have hpair := Option.some.inj hparse
  exact ⟨(congrArg Prod.fst hpair).symm, (congrArg Prod.snd hpair).symm⟩

/-- No logo has the name of the mark. -/
theorem logoName_ne_removed {n : Nat} (hn : n < 2 ^ 128) (digest : String) :
    logoName id n digest ≠ removedLogoName id := by
  intro h
  have hparse := parseLogoName_logoName id hn digest
  rw [h, parseLogoName_removedLogoName] at hparse
  exact absurd hparse (Option.some_ne_none _).symm

/-- No logo has the name under which it is written. -/
theorem logoName_ne_temp {n : Nat} (hn : n < 2 ^ 128) (digest : String) :
    logoName id n digest ≠ logoTemp id := by
  intro h
  have hparse := parseLogoName_logoName id hn digest
  rw [h, parseLogoName_logoTemp] at hparse
  exact absurd hparse (Option.some_ne_none _).symm

/-- Nor has the mark. -/
theorem removedLogoName_ne_temp : removedLogoName id ≠ logoTemp id := by
  intro h
  have hmarker : Text.stripPrefix (removedLogoName id) (serviceLogoPrefix ++ id.value) =
      some "-none" := Text.stripPrefix_append _ _
  rw [h, logoTemp, Text.stripPrefix_append] at hmarker
  exact absurd hmarker (by decide)

end Names

section Files

variable {id : ProfileId} {files : StoreFiles}

/-- The names of the cache among the files. -/
theorem mem_serviceLogoNames {name : String} :
    name ∈ serviceLogoNames id files ↔
      (∃ bytes, (name, bytes) ∈ files) ∧ isServiceLogoName id name = true := by
  rw [serviceLogoNames, List.mem_filter, List.mem_map]
  constructor
  · rintro ⟨⟨file, hfile, rfl⟩, hname⟩
    exact ⟨⟨file.2, hfile⟩, hname⟩
  · rintro ⟨⟨bytes, hfile⟩, hname⟩
    exact ⟨⟨_, hfile, rfl⟩, hname⟩

/-- The logos among the names. -/
theorem mem_serviceLogoFiles {names : List String} {logo : LogoFile} :
    logo ∈ serviceLogoFiles id names ↔
      logo.name ∈ names ∧ parseLogoName id logo.name = some (logo.sequence, logo.digest) := by
  rw [serviceLogoFiles, List.mem_filterMap]
  constructor
  · rintro ⟨name, hname, hlogo⟩
    obtain ⟨⟨sequence, digest⟩, hparse, rfl⟩ := Option.map_eq_some_iff.1 hlogo
    exact ⟨hname, hparse⟩
  · rintro ⟨hname, hparse⟩
    exact ⟨logo.name, hname, Option.map_eq_some_iff.2 ⟨_, hparse, rfl⟩⟩

/-- There is a newest logo where there is one. -/
theorem newestLogo_eq_none {logos : List LogoFile} : newestLogo logos = none ↔ logos = [] := by
  rw [newestLogo, List.argmax_eq_none, List.reverse_eq_nil_iff]

/-- The newest of some files is one of them, and none has a higher sequence number. -/
theorem newestLogo_spec {logos : List LogoFile} {newest : LogoFile}
    (h : newestLogo logos = some newest) :
    newest ∈ logos ∧ ∀ logo ∈ logos, logo.sequence ≤ newest.sequence := by
  constructor
  · exact List.mem_reverse.1 (List.argmax_mem h)
  · intro logo hlogo
    exact List.le_of_mem_argmax (List.mem_reverse.2 hlogo) h

/-- A file that cannot be read is not there. -/
theorem fileContent_isNone {name : String} :
    (fileContent files name).isNone = true ↔ ∀ file ∈ files, file.1 ≠ name := by
  rw [fileContent, Option.isNone_map, Option.isNone_iff_eq_none, List.find?_eq_none]
  simp only [decide_eq_true_eq, ne_eq]

/-- What is read is a file's content. -/
theorem mem_of_fileContent {name : String} {bytes : List UInt8}
    (h : fileContent files name = some bytes) : (name, bytes) ∈ files := by
  obtain ⟨file, hfile, rfl⟩ := Option.map_eq_some_iff.1 h
  have hname := List.find?_some hfile
  rw [decide_eq_true_eq] at hname
  rw [← hname]
  exact List.mem_of_find?_eq_some hfile

/-- A removal takes the file with the name, unless it is held. -/
theorem mem_removeFile {held : Held id} {name : String} {file : String × List UInt8} :
    file ∈ removeFile held files name ↔
      file ∈ files ∧ (file.1 = name → held.held file.1 = true) := by
  unfold removeFile
  cases hheld : held.held name with
  | true =>
    rw [if_pos rfl]
    constructor
    · exact fun hfile => ⟨hfile, fun heq => heq ▸ hheld⟩
    · exact And.left
  | false =>
    rw [if_neg Bool.false_ne_true, List.mem_filter, decide_eq_true_eq]
    constructor
    · exact fun h => ⟨h.1, fun heq => absurd heq h.2⟩
    · rintro ⟨hfile, hkept⟩
      apply And.intro hfile
      intro heq
      rw [heq, hheld] at hkept
      exact absurd (hkept rfl) Bool.false_ne_true

/-- What is left once other files have been deleted. -/
theorem mem_removeOthers {held : Held id} {kept : String} {names : List String}
    {file : String × List UInt8} :
    file ∈ removeOthers held kept names files ↔
      file ∈ files ∧ (file.1 ∈ names → file.1 ≠ kept → held.held file.1 = true) := by
  unfold removeOthers
  induction names generalizing files with
  | nil => simp
  | cons other names ih =>
    rw [List.foldl_cons, ih]
    by_cases hother : other ≠ kept
    · rw [if_pos hother, mem_removeFile, List.mem_cons]
      grind
    · rw [if_neg hother, List.mem_cons]
      grind

/-- Writing an image adds its file, where neither it nor the temporary file is there. -/
theorem mem_writeLogo {held : Held id} {name : String} {png : List UInt8}
    (htemp : ∀ file ∈ files, file.1 ≠ logoTemp id) (hname : ∀ file ∈ files, file.1 ≠ name)
    (hne : name ≠ logoTemp id) {file : String × List UInt8} :
    file ∈ writeLogo held name png files ↔ file ∈ files ∨ file = (name, png) := by
  have hnone : (fileContent files (logoTemp id)).isSome = false :=
    Option.isSome_eq_false_iff.2 (fileContent_isNone.2 htemp)
  have hkept : (files ++ [(logoTemp id, png)]).filter (fun file => file.1 ≠ name) =
      files ++ [(logoTemp id, png)] := by
    rw [List.filter_eq_self]
    intro file hfile
    rw [decide_eq_true_eq]
    rcases List.mem_append.1 hfile with hfile | hfile
    · exact hname file hfile
    · rw [List.mem_singleton.1 hfile]
      exact hne.symm
  have hmap : files.map (fun file => if file.1 = logoTemp id then (name, file.2) else file) =
      files := by
    have hsame := List.map_congr_left (f := fun file : String × List UInt8 =>
      if file.1 = logoTemp id then (name, file.2) else file) (g := fun file => file)
      fun file hfile => if_neg (htemp file hfile)
    exact hsame.trans (List.map_id' files)
  rw [writeLogo, hnone, if_neg Bool.false_ne_true, replaceFile, hkept, List.map_append, hmap,
    List.mem_append, List.map_singleton, List.mem_singleton, if_pos rfl]

/-- The profile's files that are left: the one to keep, and those readers hold. -/
theorem mem_removeOthers_own {held : Held id} {kept : String} {file : String × List UInt8} :
    file ∈ removeOthers held kept (serviceLogoNames id files) files ↔ file ∈ files ∧
      (isServiceLogoName id file.1 = true → file.1 ≠ kept → held.held file.1 = true) := by
  rw [mem_removeOthers]
  constructor
  · rintro ⟨hfile, hheld⟩
    exact ⟨hfile, fun hname => hheld (mem_serviceLogoNames.2 ⟨⟨_, hfile⟩, hname⟩)⟩
  · rintro ⟨hfile, hheld⟩
    exact ⟨hfile, fun hname => hheld (mem_serviceLogoNames.1 hname).2⟩

end Files

section Runs

/-- What happens to a profile's logo. -/
inductive LogoOperation where
  | save (now : ClockReading) (png : List UInt8)
  | remove
  | read

variable (codec : LogoCodec) (id : ProfileId)

/-- The files left by an operation. -/
def LogoOperation.apply (held : Held id) (files : StoreFiles) : LogoOperation → StoreFiles
  | .save now png => (saveServiceLogo codec held now png files).2
  | .remove => markServiceLogoRemoved held files
  | .read => (cachedServiceLogo codec held files).2

/-- The sequence number that an operation gives to an image. -/
def LogoOperation.issued (files : StoreFiles) : LogoOperation → Option Nat
  | .save now png =>
    if isCanonicalServiceLogo codec png && (keptLogo codec id png files).isNone then
      some (issuedSequence id now files)
    else none
  | .remove => none
  | .read => none

/-- The files after some operations from none of the profile's, and the sequence numbers given.
Files may be listed in any order each time. -/
inductive LogoRun : List LogoOperation → List Nat → StoreFiles → Prop
  | start {files : StoreFiles} (none : serviceLogoNames id files = []) : LogoRun [] [] files
  | step {operations : List LogoOperation} {issued : List Nat} {files listed : StoreFiles}
      (run : LogoRun operations issued files) (order : listed.Perm files) (held : Held id)
      (operation : LogoOperation) :
      LogoRun (operations ++ [operation]) (issued ++ (operation.issued codec id listed).toList)
        (operation.apply codec id held listed)

/-- The images that were saved. -/
def savedImages (operations : List LogoOperation) : List (List UInt8) :=
  operations.filterMap fun
    | .save _ png => if isCanonicalServiceLogo codec png then some png else none
    | .remove => none
    | .read => none

/-- What an operation makes the profile's logo. -/
def LogoOperation.shown (before : Option CachedServiceLogo) :
    LogoOperation → Option CachedServiceLogo
  | .save _ png => if isCanonicalServiceLogo codec png then some (.logo png) else before
  | .remove => some .removed
  | .read => before

/-- The profile's logo as the last save or removal left it. -/
def lastChange (operations : List LogoOperation) : Option CachedServiceLogo :=
  operations.foldl (fun before operation => operation.shown codec before) none

/-- A logo read back for another: an image that was saved and has its digest. -/
inductive ShownAs (images : List (List UInt8)) :
    Option CachedServiceLogo → Option CachedServiceLogo → Prop
  | nothing : ShownAs images none none
  | removed : ShownAs images (some .removed) (some .removed)
  | logo {png png' : List UInt8} (saved : png' ∈ images)
      (digest : logoDigest codec png' = logoDigest codec png) :
      ShownAs images (some (.logo png)) (some (.logo png'))

/-- A file that a save left. -/
structure IsLogo (images : List (List UInt8)) (bound n : Nat) (file : String × List UInt8) :
    Prop where
  within : n < bound
  name : file.1 = logoName id n (logoDigest codec file.2)
  canonical : isCanonicalServiceLogo codec file.2 = true
  saved : file.2 ∈ images

/-- What stands in the directory for the profile's logo. -/
def StandsFor (files : StoreFiles) : Option CachedServiceLogo → Prop
  | none => ∀ file ∈ files, isServiceLogoName id file.1 = false
  | some .removed => ∃ file ∈ files, file.1 = removedLogoName id
  | some (.logo png) => (∀ file ∈ files, file.1 ≠ removedLogoName id) ∧ ∃ n < 2 ^ 128,
      (∃ file ∈ files, file.1 = logoName id n (logoDigest codec png)) ∧
      ∀ file ∈ files, ∀ m < 2 ^ 128, ∀ digest, file.1 = logoName id m digest → m ≤ n

/-- What the profile's files hold, and that no two images share a sequence number. -/
structure OwnFiles (images : List (List UInt8)) (bound : Nat) (files : StoreFiles) : Prop where
  own : ∀ file ∈ files, isServiceLogoName id file.1 = true →
    file.1 = removedLogoName id ∨ ∃ n, IsLogo codec id images bound n file
  unique : ∀ file ∈ files, ∀ other ∈ files, ∀ n < 2 ^ 128, ∀ digest digest',
    file.1 = logoName id n digest → other.1 = logoName id n digest' → digest = digest'

/-- The directory after some operations. -/
structure LogoState (images : List (List UInt8)) (bound : Nat) (shown : Option CachedServiceLogo)
    (files : StoreFiles) : Prop extends OwnFiles codec id images bound files where
  shows : StandsFor codec id files shown

/-- The directory once an image stands under its name in it. -/
structure Written (images : List (List UInt8)) (bound : Nat) (png : List UInt8) (name : String)
    (files : StoreFiles) : Prop extends OwnFiles codec id images bound files where
  newest : ∃ n < 2 ^ 128, name = logoName id n (logoDigest codec png) ∧
    (∃ file ∈ files, file.1 = name) ∧
      ∀ file ∈ files, ∀ m < 2 ^ 128, ∀ digest, file.1 = logoName id m digest → m ≤ n

end Runs

section States

variable {codec : LogoCodec} {id : ProfileId} {images : List (List UInt8)} {bound : Nat}
  {shown : Option CachedServiceLogo} {files : StoreFiles}

/-- Deleting files keeps what is known of those that are left. -/
theorem OwnFiles.shrink {files' : StoreFiles} (own : OwnFiles codec id images bound files)
    (hsub : ∀ file ∈ files', file ∈ files) : OwnFiles codec id images bound files' := by
  constructor
  · intro file hfile
    exact own.own file (hsub file hfile)
  · intro file hfile other hother
    exact own.unique file (hsub file hfile) other (hsub other hother)

/-- Files may go as long as the shown logo stays. -/
theorem LogoState.shrink {files' : StoreFiles} {shown' : Option CachedServiceLogo}
    (state : LogoState codec id images bound shown files) (hsub : ∀ file ∈ files', file ∈ files)
    (hshows : StandsFor codec id files' shown') : LogoState codec id images bound shown' files' :=
  ⟨state.toOwnFiles.shrink hsub, hshows⟩

/-- What the folder stands for does not depend on the order of its files. -/
theorem StandsFor.of_mem_iff {files' : StoreFiles} (hmem : ∀ file, file ∈ files' ↔ file ∈ files)
    (h : StandsFor codec id files shown) : StandsFor codec id files' shown := by
  unfold StandsFor at h ⊢
  simp only [hmem]
  exact h

/-- Nor does the state of the cache. -/
theorem LogoState.perm {listed : StoreFiles} (order : listed.Perm files)
    (state : LogoState codec id images bound shown files) :
    LogoState codec id images bound shown listed :=
  state.shrink (fun _ hfile => order.mem_iff.1 hfile)
    (state.shows.of_mem_iff fun _ => order.mem_iff)

/-- The files whose names say they hold a logo hold it. -/
theorem OwnFiles.file_of_logo (own : OwnFiles codec id images bound files)
    (few : bound ≤ 2 ^ 128) {logo : LogoFile}
    (h : logo ∈ serviceLogoFiles id (serviceLogoNames id files)) :
    ∃ file ∈ files, file.1 = logo.name ∧ logo.digest = logoDigest codec file.2 ∧
      IsLogo codec id images bound logo.sequence file := by
  obtain ⟨hname, hparse⟩ := mem_serviceLogoFiles.1 h
  obtain ⟨⟨bytes, hfile⟩, hown⟩ := mem_serviceLogoNames.1 hname
  rcases own.own _ hfile hown with hmarker | ⟨n, hlogo⟩
  · rw [show logo.name = removedLogoName id from hmarker, parseLogoName_removedLogoName] at hparse
    exact absurd hparse (Option.some_ne_none _).symm
  · have hwritten : logo.name = logoName id n (logoDigest codec bytes) := hlogo.name
    rw [hwritten, parseLogoName_logoName id (Nat.lt_of_lt_of_le hlogo.within few),
      Option.some_inj] at hparse
    have hsequence : n = logo.sequence := congrArg Prod.fst hparse
    have hdigest : logoDigest codec bytes = logo.digest := congrArg Prod.snd hparse
    rw [hsequence] at hlogo
    exact ⟨_, hfile, rfl, hdigest.symm, hlogo⟩

/-- A file with a logo's name is listed as one. -/
theorem logo_of_file {file : String × List UInt8} (hfile : file ∈ files) {n : Nat}
    (hn : n < 2 ^ 128) {digest : String} (hname : file.1 = logoName id n digest) :
    ⟨n, digest, file.1⟩ ∈ serviceLogoFiles id (serviceLogoNames id files) := by
  rw [mem_serviceLogoFiles, mem_serviceLogoNames, hname]
  have hmem : (logoName id n digest, file.2) ∈ files := hname ▸ hfile
  exact ⟨⟨⟨_, hmem⟩, isServiceLogoName_logoName id n digest⟩, parseLogoName_logoName id hn digest⟩

/-- What is read under a logo's name is a logo. -/
theorem OwnFiles.readServiceLogo_eq (own : OwnFiles codec id images bound files)
    (few : bound ≤ 2 ^ 128) {logo : LogoFile}
    (h : logo ∈ serviceLogoFiles id (serviceLogoNames id files)) :
    ∃ png ∈ images, readServiceLogo files logo.name = some png ∧
      isCanonicalServiceLogo codec png = true ∧ logoDigest codec png = logo.digest := by
  obtain ⟨file, hfile, hname, hdigest, hlogo⟩ := own.file_of_logo few h
  have hn := Nat.lt_of_lt_of_le hlogo.within few
  obtain ⟨png, hcontent⟩ : ∃ png, fileContent files logo.name = some png := by
    rw [← Option.isSome_iff_exists, ← Option.not_isNone, Bool.not_eq_true', ← Bool.not_eq_true,
      fileContent_isNone]
    exact fun hnone => hnone file hfile hname
  have hmem := mem_of_fileContent hcontent
  rw [← hname] at hmem
  have hown : isServiceLogoName id file.1 = true := by
    rw [hlogo.name]
    exact isServiceLogoName_logoName id _ _
  rcases own.own _ hmem hown with hmarker | ⟨m, hpng⟩
  · exact absurd (hlogo.name.symm.trans hmarker) (logoName_ne_removed hn _)
  · have hsame := logoName_inj hn (Nat.lt_of_lt_of_le hpng.within few)
      (hlogo.name.symm.trans hpng.name)
    have hcanonical := hpng.canonical
    rw [isCanonicalServiceLogo, Bool.and_eq_true, decide_eq_true_eq] at hcanonical
    have hread : readServiceLogo files logo.name = some png := by
      rw [readServiceLogo, hcontent]
      exact Option.filter_some_pos (decide_eq_true hcanonical.1)
    exact ⟨png, hpng.saved, hread, hpng.canonical, hsame.2.symm.trans hdigest.symm⟩

/-- The newest logo comes first. -/
theorem exists_newest_first {logos : List LogoFile} (hne : logos ≠ []) :
    ∃ newest rest, logos.insertionSort (fun a b => b.sequence ≤ a.sequence) = newest :: rest ∧
      newest ∈ logos ∧ ∀ logo ∈ logos, logo.sequence ≤ newest.sequence := by
  have hmem : ∀ logo, logo ∈ logos.insertionSort (fun a b => b.sequence ≤ a.sequence) ↔
      logo ∈ logos := fun _ => List.mem_insertionSort _
  have hsorted := List.pairwise_insertionSort (fun a b : LogoFile => b.sequence ≤ a.sequence) logos
  generalize logos.insertionSort (fun a b => b.sequence ≤ a.sequence) = sorted at hmem hsorted
  cases sorted with
  | nil =>
    obtain ⟨logo, hlogo⟩ := List.exists_mem_of_ne_nil logos hne
    exact absurd ((hmem logo).2 hlogo) List.not_mem_nil
  | cons newest rest =>
    apply Exists.intro newest
    apply Exists.intro rest
    apply And.intro rfl
    apply And.intro ((hmem newest).1 List.mem_cons_self)
    intro logo hlogo
    rcases List.mem_cons.1 ((hmem logo).2 hlogo) with rfl | hrest
    · exact Nat.le_refl _
    · exact List.rel_of_pairwise_cons hsorted hrest

/-- A name of the cache is found when its file is there. -/
theorem serviceLogoNames_any {name : String} (hown : isServiceLogoName id name = true) :
    (serviceLogoNames id files).any (· = name) = true ↔ ∃ file ∈ files, file.1 = name := by
  simp only [List.any_eq_true, decide_eq_true_eq, mem_serviceLogoNames]
  constructor
  · rintro ⟨_, ⟨⟨bytes, hfile⟩, -⟩, rfl⟩
    exact ⟨_, hfile, rfl⟩
  · rintro ⟨file, hfile, rfl⟩
    exact ⟨file.1, ⟨⟨file.2, hfile⟩, hown⟩, rfl⟩

/-- Reading finds the logo that stands in the directory, and leaves it there. -/
theorem cachedServiceLogo_of_state (state : LogoState codec id images bound shown files)
    (few : bound ≤ 2 ^ 128) (held : Held id) :
    ShownAs codec images shown (cachedServiceLogo codec held files).1 ∧
      LogoState codec id images bound shown (cachedServiceLogo codec held files).2 := by
  have hmarker := @serviceLogoNames_any id files _ (isServiceLogoName_removedLogoName id)
  have hshows := state.shows
  unfold cachedServiceLogo
  cases shown with
  | none =>
    have hnames : serviceLogoNames id files = [] := by
      rw [List.eq_nil_iff_forall_not_mem]
      intro name hname
      obtain ⟨⟨bytes, hfile⟩, hown⟩ := mem_serviceLogoNames.1 hname
      have hnot : isServiceLogoName id name = false := hshows _ hfile
      rw [hnot] at hown
      exact absurd hown Bool.false_ne_true
    rw [hnames]
    exact ⟨ShownAs.nothing, state⟩
  | some current =>
    cases current with
    | removed =>
      rw [if_pos (hmarker.2 hshows)]
      exact ⟨ShownAs.removed, state⟩
    | logo png =>
      obtain ⟨hnone, n, hn, ⟨file, hfile, hname⟩, hnewest⟩ := hshows
      have hany : ¬(serviceLogoNames id files).any (· = removedLogoName id) = true := by
        rw [hmarker]
        rintro ⟨other, hother, hremoved⟩
        exact hnone other hother hremoved
      have hlogo := logo_of_file hfile hn hname
      obtain ⟨newest, rest, hsort, hmem, hle⟩ := exists_newest_first (List.ne_nil_of_mem hlogo)
      obtain ⟨other, hother, hothername, hdigest, hothers⟩ := state.file_of_logo few hmem
      have hlt := Nat.lt_of_lt_of_le hothers.within few
      have hsequence : newest.sequence = n :=
        Nat.le_antisymm (hnewest other hother _ hlt _ hothers.name) (hle _ hlogo)
      obtain ⟨png', hsaved, hread, hcanonical, hpng'⟩ := state.readServiceLogo_eq few hmem
      have hsame : logoDigest codec png' = logoDigest codec png := by
        rw [hpng', hdigest]
        rw [hsequence] at hothers
        exact state.unique other hother file hfile n hn _ _ hothers.name hname
      rw [if_neg hany]
      simp only [hsort, List.findSome?_cons, hread, Option.filter_some_pos hcanonical,
        Option.map_some]
      apply And.intro (ShownAs.logo hsaved hsame)
      apply state.shrink fun _ h => (mem_removeOthers.1 h).1
      apply And.intro fun other hother => hnone other (mem_removeOthers.1 hother).1
      apply Exists.intro n
      apply And.intro hn
      constructor
      · apply Exists.intro other
        apply And.intro (mem_removeOthers.2 ⟨hother, fun _ hne => absurd hothername hne⟩)
        rw [hothers.name, hsequence, ← hdigest, ← hpng', hsame]
      · intro other hother
        exact hnewest other (mem_removeOthers.1 hother).1

/-- A new image gets a sequence number above those of the files that are there. -/
theorem OwnFiles.issuedSequence_above (own : OwnFiles codec id images bound files)
    (hclock : 2 ^ 64 * 10 ^ 9 ≤ bound) (few : bound < 2 ^ 128) (now : ClockReading) :
    issuedSequence id now files < bound + 1 ∧
      ∀ logo ∈ serviceLogoFiles id (serviceLogoNames id files),
        logo.sequence < issuedSequence id now files := by
  have hnow := now.within
  unfold issuedSequence
  cases hnewest : newestLogo (serviceLogoFiles id (serviceLogoNames id files)) with
  | none =>
    rw [newestLogo_eq_none.1 hnewest, logoSequence]
    exact ⟨by omega, fun _ hlogo => absurd hlogo List.not_mem_nil⟩
  | some newest =>
    obtain ⟨hmem, hle⟩ := newestLogo_spec hnewest
    obtain ⟨file, hfile, hname, hdigest, hlogo⟩ := own.file_of_logo (Nat.le_of_lt few) hmem
    have hwithin := hlogo.within
    have hmod : (newest.sequence + 1) % 2 ^ 128 = newest.sequence + 1 :=
      Nat.mod_eq_of_lt (by omega)
    rw [logoSequence, hmod]
    constructor
    · omega
    · intro logo hlogo
      have := hle logo hlogo
      omega

section Saving

variable {png : List UInt8}

/-- More images and a higher bound allow the same files. -/
theorem OwnFiles.mono {images' : List (List UInt8)} {bound' : Nat}
    (own : OwnFiles codec id images bound files) (himages : ∀ image ∈ images, image ∈ images')
    (hbound : bound ≤ bound') : OwnFiles codec id images' bound' files := by
  constructor
  · intro file hfile hname
    rcases own.own file hfile hname with hmarker | ⟨n, hlogo⟩
    · exact Or.inl hmarker
    · exact Or.inr ⟨n, Nat.lt_of_lt_of_le hlogo.within hbound, hlogo.name, hlogo.canonical,
        himages _ hlogo.saved⟩
  · exact own.unique

/-- No logo that was saved is still under its first name. -/
theorem OwnFiles.ne_temp (own : OwnFiles codec id images bound files) (few : bound ≤ 2 ^ 128) :
    ∀ file ∈ files, file.1 ≠ logoTemp id := by
  intro file hfile htemp
  have hname : isServiceLogoName id file.1 = true := by
    rw [htemp]
    exact isServiceLogoName_logoTemp id
  rcases own.own file hfile hname with hmarker | ⟨n, hlogo⟩
  · exact removedLogoName_ne_temp (hmarker.symm.trans htemp)
  · exact logoName_ne_temp (Nat.lt_of_lt_of_le hlogo.within few) _ (hlogo.name.symm.trans htemp)

/-- The newest file that holds the image already is kept as it is. -/
theorem OwnFiles.written_of_kept (own : OwnFiles codec id images bound files)
    (few : bound ≤ 2 ^ 128) {name : String} (h : keptLogo codec id png files = some name) :
    Written codec id images bound png name files := by
  obtain ⟨newest, hnewest, hname⟩ := Option.bind_eq_some_iff.1 h
  by_cases hdigest : newest.digest = logoDigest codec png
  swap
  · rw [if_neg hdigest] at hname
    exact absurd hname (Option.some_ne_none name).symm
  rw [if_pos hdigest, Option.some_inj] at hname
  obtain ⟨hmem, hle⟩ := newestLogo_spec hnewest
  obtain ⟨file, hfile, hfilename, hfiledigest, hlogo⟩ := own.file_of_logo few hmem
  have hn := Nat.lt_of_lt_of_le hlogo.within few
  have hwritten := hlogo.name
  rw [hfilename, hname, ← hfiledigest, hdigest] at hwritten
  apply Written.mk own
  apply Exists.intro newest.sequence
  apply And.intro hn
  apply And.intro hwritten
  apply And.intro ⟨file, hfile, hfilename.trans hname⟩
  intro other hother m hm digest hothername
  exact hle _ (logo_of_file hother hm hothername)

/-- A new image stands in the directory above all that were there. -/
theorem OwnFiles.written_of_new (own : OwnFiles codec id images bound files)
    (hclock : 2 ^ 64 * 10 ^ 9 ≤ bound) (few : bound < 2 ^ 128) (held : Held id)
    (now : ClockReading) (hcanonical : isCanonicalServiceLogo codec png = true) :
    Written codec id (images ++ [png]) (bound + 1) png
      (logoName id (issuedSequence id now files) (logoDigest codec png))
      (writeLogo held (logoName id (issuedSequence id now files) (logoDigest codec png)) png
        files) := by
  obtain ⟨hbound, habove⟩ := own.issuedSequence_above hclock few now
  generalize issuedSequence id now files = n at hbound habove
  have hn : n < 2 ^ 128 := by omega
  have hlower : ∀ file ∈ files, ∀ m < 2 ^ 128, ∀ digest, file.1 = logoName id m digest → m < n :=
    fun file hfile m hm digest hname => habove _ (logo_of_file hfile hm hname)
  have hfresh : ∀ file ∈ files, file.1 ≠ logoName id n (logoDigest codec png) := by
    intro file hfile hname
    exact absurd (hlower file hfile n hn _ hname) (Nat.lt_irrefl n)
  have hmem : ∀ file, file ∈ writeLogo held (logoName id n (logoDigest codec png)) png files ↔
      file ∈ files ∨ file = (logoName id n (logoDigest codec png), png) := fun file =>
    mem_writeLogo (own.ne_temp (Nat.le_of_lt few)) hfresh (logoName_ne_temp hn _)
  have hold : OwnFiles codec id (images ++ [png]) (bound + 1) files :=
    own.mono (fun _ himage => List.mem_append_left _ himage) (Nat.le_succ bound)
  constructor
  · constructor
    · intro file hfile hname
      rcases (hmem file).1 hfile with hfile | rfl
      · exact hold.own file hfile hname
      · exact Or.inr ⟨n, hbound, rfl, hcanonical, List.mem_append_right _ List.mem_cons_self⟩
    · intro file hfile other hother m hm digest digest' hname hothername
      rcases (hmem file).1 hfile with hfile | rfl
      · rcases (hmem other).1 hother with hother | rfl
        · exact hold.unique file hfile other hother m hm digest digest' hname hothername
        · have hlt := hlower file hfile m hm _ hname
          have hsame := (logoName_inj hn hm hothername).1
          omega
      · have hsame := logoName_inj hn hm hname
        rcases (hmem other).1 hother with hother | rfl
        · have hlt := hlower other hother m hm _ hothername
          omega
        · exact hsame.2.symm.trans (logoName_inj hn hm hothername).2
  · apply Exists.intro n
    apply And.intro hn
    apply And.intro rfl
    apply And.intro ⟨_, (hmem _).2 (Or.inr rfl), rfl⟩
    intro file hfile m hm digest hname
    rcases (hmem file).1 hfile with hfile | rfl
    · exact Nat.le_of_lt (hlower file hfile m hm _ hname)
    · exact Nat.le_of_eq (logoName_inj hn hm hname).1.symm

/-- Once its other files are deleted, as far as they can be, the image is the profile's logo. -/
theorem Written.state {name : String} (written : Written codec id images bound png name files)
    (held : Held id) : LogoState codec id images bound (some (.logo png))
      (removeOthers held name (serviceLogoNames id files) files) := by
  obtain ⟨n, hn, rfl, ⟨file, hfile, hname⟩, hnewest⟩ := written.newest
  constructor
  · exact written.toOwnFiles.shrink fun _ h => (mem_removeOthers.1 h).1
  constructor
  · intro other hother hmarker
    have hheld := (mem_removeOthers_own.1 hother).2
    rw [hmarker] at hheld
    have hkept := hheld (isServiceLogoName_removedLogoName id) (logoName_ne_removed hn _).symm
    rw [held.marker] at hkept
    exact absurd hkept Bool.false_ne_true
  · apply Exists.intro n
    apply And.intro hn
    constructor
    · exact ⟨file, mem_removeOthers.2 ⟨hfile, fun _ hne => absurd hname hne⟩, hname⟩
    · intro other hother
      exact hnewest other (mem_removeOthers.1 hother).1

/-- A save makes its image the profile's logo. -/
theorem OwnFiles.saveServiceLogo_state (own : OwnFiles codec id images bound files)
    (hclock : 2 ^ 64 * 10 ^ 9 ≤ bound) (few : bound < 2 ^ 128) (held : Held id)
    (now : ClockReading) (hcanonical : isCanonicalServiceLogo codec png = true) :
    LogoState codec id (images ++ [png]) (bound + 1) (some (.logo png))
      (saveServiceLogo codec held now png files).2 := by
  have hfiles : (saveServiceLogo codec held now png files).2 =
      removeOthers held (savedLogoName codec id now png files)
        (serviceLogoNames id (if (fileContent files (savedLogoName codec id now png files)).isNone
          then writeLogo held (savedLogoName codec id now png files) png files else files))
        (if (fileContent files (savedLogoName codec id now png files)).isNone
          then writeLogo held (savedLogoName codec id now png files) png files else files) := by
    unfold saveServiceLogo
    rw [hcanonical, if_neg (by decide)]
    dsimp only
    split <;> rfl
  rw [hfiles]
  apply Written.state
  have himages : ∀ image ∈ images, image ∈ images ++ [png] :=
    fun _ himage => List.mem_append_left _ himage
  cases hkept : keptLogo codec id png files with
  | some name =>
    have hname : savedLogoName codec id now png files = name := by
      rw [savedLogoName, hkept, Option.getD_some]
    have hwritten := (own.mono himages (Nat.le_succ bound)).written_of_kept few hkept
    obtain ⟨n, -, -, ⟨file, hfile, hfilename⟩, -⟩ := hwritten.newest
    have hthere : (fileContent files name).isNone = false := by
      rw [← Bool.not_eq_true, fileContent_isNone]
      exact fun h => h file hfile hfilename
    rw [hname, hthere, if_neg Bool.false_ne_true]
    exact hwritten
  | none =>
    have hname : savedLogoName codec id now png files =
        logoName id (issuedSequence id now files) (logoDigest codec png) := by
      rw [savedLogoName, hkept, Option.getD_none]
    obtain ⟨hbound, habove⟩ := own.issuedSequence_above hclock few now
    have hfresh : (fileContent files
        (logoName id (issuedSequence id now files) (logoDigest codec png))).isNone = true := by
      rw [fileContent_isNone]
      intro file hfile hfilename
      exact absurd (habove _ (logo_of_file hfile (by omega) hfilename)) (Nat.lt_irrefl _)
    rw [hname, if_pos hfresh]
    exact own.written_of_new hclock few held now hcanonical

/-- A removal leaves the marker. -/
theorem OwnFiles.markServiceLogoRemoved_state (own : OwnFiles codec id images bound files)
    (held : Held id) : LogoState codec id images bound (some .removed)
      (markServiceLogoRemoved held files) := by
  have hmarked : ∃ marked : StoreFiles, markServiceLogoRemoved held files =
      removeOthers held (removedLogoName id) (serviceLogoNames id marked) marked ∧
      OwnFiles codec id images bound marked ∧ ∃ file ∈ marked, file.1 = removedLogoName id := by
    unfold markServiceLogoRemoved
    dsimp only
    cases hnone : (fileContent files (removedLogoName id)).isNone with
    | true =>
      rw [if_pos rfl]
      apply Exists.intro (files ++ [(removedLogoName id, [])])
      apply And.intro rfl
      have hmarker := List.mem_append_right files
        (List.mem_singleton.2 (Eq.refl (removedLogoName id, ([] : List UInt8))))
      apply And.intro _ ⟨_, hmarker, rfl⟩
      constructor
      · intro file hfile hname
        rcases List.mem_append.1 hfile with hfile | hfile
        · exact own.own file hfile hname
        · rw [List.mem_singleton.1 hfile]
          exact Or.inl rfl
      · intro file hfile other hother n hn digest digest' hname hothername
        rcases List.mem_append.1 hfile with hfile | hfile
        · rcases List.mem_append.1 hother with hother | hother
          · exact own.unique file hfile other hother n hn digest digest' hname hothername
          · rw [List.mem_singleton.1 hother] at hothername
            exact absurd hothername.symm (logoName_ne_removed hn _)
        · rw [List.mem_singleton.1 hfile] at hname
          exact absurd hname.symm (logoName_ne_removed hn _)
    | false =>
      rw [if_neg Bool.false_ne_true]
      apply Exists.intro files
      apply And.intro rfl
      apply And.intro own
      rw [← Bool.not_eq_true, fileContent_isNone, not_forall] at hnone
      obtain ⟨file, hfile⟩ := hnone
      rw [Classical.not_imp, not_not] at hfile
      exact ⟨file, hfile⟩
  obtain ⟨marked, hfiles, hown, file, hfile, hname⟩ := hmarked
  rw [hfiles]
  constructor
  · exact hown.shrink fun _ h => (mem_removeOthers.1 h).1
  · exact ⟨file, mem_removeOthers.2 ⟨hfile, fun _ hne => absurd hname hne⟩, hname⟩

end Saving

end States

section Reading

variable {codec : LogoCodec} {id : ProfileId} {operations : List LogoOperation}
  {issued : List Nat} {files : StoreFiles}

/-- One operation brings the directory from what stood for the logo before it to what does
after it. -/
theorem LogoState.apply {images : List (List UInt8)} {bound : Nat}
    {shown : Option CachedServiceLogo} (state : LogoState codec id images bound shown files)
    (hclock : 2 ^ 64 * 10 ^ 9 ≤ bound) (few : bound < 2 ^ 128) (held : Held id)
    (operation : LogoOperation) :
    LogoState codec id (images ++ savedImages codec [operation]) (bound + 1)
      (operation.shown codec shown) (operation.apply codec id held files) := by
  cases operation with
  | save now png =>
    cases hcanonical : isCanonicalServiceLogo codec png with
    | true =>
      have hsaved : savedImages codec [.save now png] = [png] := by
        simp [savedImages, hcanonical]
      rw [hsaved, LogoOperation.shown, hcanonical, if_pos rfl]
      exact state.saveServiceLogo_state hclock few held now hcanonical
    | false =>
      have hsaved : savedImages codec [.save now png] = [] := by
        simp [savedImages, hcanonical]
      have hfiles : (saveServiceLogo codec held now png files).2 = files := by
        rw [saveServiceLogo, if_pos hcanonical]
      rw [hsaved, List.append_nil, LogoOperation.shown, hcanonical, if_neg Bool.false_ne_true,
        LogoOperation.apply, hfiles]
      exact ⟨state.mono (fun _ h => h) (Nat.le_succ bound), state.shows⟩
  | remove =>
    have hremoved := state.markServiceLogoRemoved_state held
    exact ⟨hremoved.mono (fun _ h => List.mem_append_left _ h) (Nat.le_succ bound), hremoved.shows⟩
  | read =>
    have hread := (cachedServiceLogo_of_state state (Nat.le_of_lt few) held).2
    exact ⟨hread.mono (fun _ h => List.mem_append_left _ h) (Nat.le_succ bound), hread.shows⟩

/-- Every run leaves its last change standing. -/
theorem LogoRun.state (run : LogoRun codec id operations issued files)
    (few : 2 ^ 64 * 10 ^ 9 + operations.length ≤ 2 ^ 128) :
    LogoState codec id (savedImages codec operations) (2 ^ 64 * 10 ^ 9 + operations.length)
      (lastChange codec operations) files := by
  induction run with
  | @start files hnone =>
    have hother : ∀ file ∈ files, isServiceLogoName id file.1 = false := by
      intro file hfile
      rw [← Bool.not_eq_true]
      intro hname
      have hmem := mem_serviceLogoNames.2 ⟨⟨file.2, hfile⟩, hname⟩
      rw [hnone] at hmem
      exact List.not_mem_nil hmem
    constructor
    · constructor
      · intro file hfile hname
        rw [hother file hfile] at hname
        exact absurd hname Bool.false_ne_true
      · intro file hfile other hfile' n hn digest digest' hname
        have hnot := hother file hfile
        rw [hname, isServiceLogoName_logoName] at hnot
        exact absurd hnot.symm Bool.false_ne_true
    · exact hother
  | @step operations issued files listed run order held operation ih =>
    rw [List.length_append, List.length_singleton] at few
    have hstate := ((ih (by omega)).perm order).apply (by omega) (by omega) held operation
    rw [savedImages, List.filterMap_append, lastChange, List.foldl_append, List.length_append]
    exact hstate

/-- Whatever was deleted and whatever stayed, the logo read back is the one saved last, or none
after a removal, and a new image is numbered above every file that is there. -/
theorem cachedServiceLogo_of_run (run : LogoRun codec id operations issued files)
    (few : 2 ^ 64 * 10 ^ 9 + operations.length < 2 ^ 128) {listed : StoreFiles}
    (order : listed.Perm files) (held : Held id) :
    ShownAs codec (savedImages codec operations) (lastChange codec operations)
        (cachedServiceLogo codec held listed).1 ∧
      ∀ (operation : LogoOperation) (n : Nat), operation.issued codec id listed = some n →
        n < 2 ^ 128 ∧
          ∀ logo ∈ serviceLogoFiles id (serviceLogoNames id listed), logo.sequence < n := by
  have hstate := (run.state (Nat.le_of_lt few)).perm order
  apply And.intro (cachedServiceLogo_of_state hstate (Nat.le_of_lt few) held).1
  intro operation n hissued
  cases operation with
  | save now png =>
    obtain ⟨hbound, habove⟩ := hstate.issuedSequence_above (Nat.le_add_right _ _) few now
    have hn : issuedSequence id now listed = n := by
      rw [LogoOperation.issued] at hissued
      exact (Option.ite_some_none_eq_some.1 hissued).2
    rw [hn] at hbound habove
    exact ⟨by omega, habove⟩
  | remove => exact absurd hissued (Option.some_ne_none n).symm
  | read => exact absurd hissued (Option.some_ne_none n).symm

end Reading

section Pixel

/-- A green pixel. -/
def pixel : List UInt8 :=
  [0x89, 0x50, 0x4E, 0x47, 0x0D, 0x0A, 0x1A, 0x0A, 0x00, 0x00, 0x00, 0x0D, 0x49, 0x48, 0x44, 0x52,
    0x00, 0x00, 0x00, 0x01, 0x00, 0x00, 0x00, 0x01, 0x08, 0x06, 0x00, 0x00, 0x00, 0x1F, 0x15, 0xC4,
    0x89, 0x00, 0x00, 0x00, 0x0D, 0x49, 0x44, 0x41, 0x54, 0x78, 0xDA, 0x63, 0x60, 0xF8, 0xCF, 0xF0,
    0x1F, 0x00, 0x04, 0x01, 0x01, 0xFF, 0xAE, 0xB5, 0x55, 0xF5, 0x00, 0x00, 0x00, 0x00, 0x49, 0x45,
    0x4E, 0x44, 0xAE, 0x42, 0x60, 0x82]

/-- A blue pixel. -/
def bluePixel : List UInt8 :=
  [0x89, 0x50, 0x4E, 0x47, 0x0D, 0x0A, 0x1A, 0x0A, 0x00, 0x00, 0x00, 0x0D, 0x49, 0x48, 0x44, 0x52,
    0x00, 0x00, 0x00, 0x01, 0x00, 0x00, 0x00, 0x01, 0x08, 0x06, 0x00, 0x00, 0x00, 0x1F, 0x15, 0xC4,
    0x89, 0x00, 0x00, 0x00, 0x0D, 0x49, 0x44, 0x41, 0x54, 0x78, 0xDA, 0x63, 0x60, 0x60, 0xF8, 0xFF,
    0x1F, 0x00, 0x03, 0x02, 0x01, 0xFF, 0x39, 0x29, 0x19, 0xBE, 0x00, 0x00, 0x00, 0x00, 0x49, 0x45,
    0x4E, 0x44, 0xAE, 0x42, 0x60, 0x82]

/-- What the image and hash functions say of the pixels. -/
def pixelCodec : LogoCodec where
  sha256 bytes :=
    if bytes = pixel then
      [0x19, 0x4B, 0xDB, 0x27, 0x3F, 0xA5, 0x50, 0x18, 0xB8, 0xE0, 0xE2, 0x48, 0x71, 0x42, 0x46,
        0xA1, 0x96, 0x28, 0x3B, 0xAB, 0x5B, 0x8C, 0xD2, 0x0A, 0x1D, 0xED, 0xD0, 0xB7, 0x4E, 0xC2,
        0x06, 0xFD]
    else if bytes = bluePixel then
      [0xE4, 0xDE, 0x9A, 0xDB, 0x10, 0xF1, 0x97, 0xCD, 0x55, 0x3B, 0x01, 0x14, 0x40, 0xC2, 0x5C,
        0x4C, 0xC0, 0x98, 0x9A, 0xD6, 0x42, 0xA0, 0x01, 0x1C, 0x00, 0x06, 0xCD, 0x95, 0x5D, 0x32,
        0xBE, 0x0C]
    else []
  isRaster bytes := bytes = pixel || bytes = bluePixel

/-- A profile. -/
def pixelProfile : ProfileId := ⟨"0f0e0d0c-0b0a-4908-8706-050403020100", by decide⟩

/-- No file is held. -/
def noneHeld (id : ProfileId) : Held id := ⟨fun _ => false, rfl, rfl⟩

/-- A save of the pixel, five seconds after the epoch. -/
def savePixel : LogoOperation := .save ⟨5, by decide⟩ pixel

/-- The directory after a save. -/
def pixelFiles : StoreFiles := savePixel.apply pixelCodec pixelProfile (noneHeld pixelProfile) []

/-- The run that saves the pixel once. -/
theorem pixelRun : LogoRun pixelCodec pixelProfile [savePixel] [5] pixelFiles := by
  have hissued : savePixel.issued pixelCodec pixelProfile [] = some 5 := by decide
  have hstart : LogoRun pixelCodec pixelProfile [] [] [] := LogoRun.start rfl
  have hrun := hstart.step (List.Perm.refl []) (noneHeld pixelProfile) savePixel
  rw [hissued] at hrun
  exact hrun

/-- The file of the green pixel is held by a reader. -/
def greenHeld : Held pixelProfile where
  held name := name = logoName pixelProfile 5 (logoDigest pixelCodec pixel)
  marker := by decide +kernel
  temp := by decide +kernel

/-- Saving the blue pixel once the clock was set back. -/
def saveBlue : LogoOperation := .save ⟨3, by decide⟩ bluePixel

/-- The directory after the changes of a profile's logo while the first one's file is held. -/
def heldFiles (changes : List LogoOperation) : StoreFiles :=
  changes.foldl (fun files operation => operation.apply pixelCodec pixelProfile greenHeld files)
    pixelFiles

/-- A change made after others. -/
theorem heldRun_step {changes operations : List LogoOperation} {issued : List Nat}
    (run : LogoRun pixelCodec pixelProfile operations issued (heldFiles changes))
    (operation : LogoOperation) :
    LogoRun pixelCodec pixelProfile (operations ++ [operation])
      (issued ++ (operation.issued pixelCodec pixelProfile (heldFiles changes)).toList)
      (heldFiles (changes ++ [operation])) := by
  have hfiles : heldFiles (changes ++ [operation]) =
      operation.apply pixelCodec pixelProfile greenHeld (heldFiles changes) := List.foldl_append
  rw [hfiles]
  exact run.step (List.Perm.refl _) greenHeld operation

/-- The held file outlives a new image and a removal, and the next image is numbered above it. -/
theorem heldRun : LogoRun pixelCodec pixelProfile [savePixel, saveBlue, .remove, saveBlue] [5, 6, 6]
    (heldFiles [saveBlue, .remove, saveBlue]) := by
  have hfirst : saveBlue.issued pixelCodec pixelProfile (heldFiles []) = some 6 := by
    decide +kernel
  have hsecond : saveBlue.issued pixelCodec pixelProfile (heldFiles [saveBlue, .remove]) =
      some 6 := by decide +kernel
  have hgreen : LogoRun pixelCodec pixelProfile [savePixel] [5] (heldFiles []) := pixelRun
  have hblue := heldRun_step hgreen saveBlue
  rw [hfirst] at hblue
  have hremoved : LogoRun pixelCodec pixelProfile [savePixel, saveBlue, .remove] [5, 6]
      (heldFiles [saveBlue, .remove]) := heldRun_step hblue .remove
  have hagain := heldRun_step hremoved saveBlue
  rw [hsecond] at hagain
  exact hagain

/-- Two more logos and a removal while the first image's file is held. -/
theorem cachedServiceLogo_of_run_held :
    ShownAs pixelCodec [pixel, bluePixel, bluePixel] (some (.logo bluePixel))
        (cachedServiceLogo pixelCodec (noneHeld pixelProfile)
          (heldFiles [saveBlue, .remove, saveBlue])).1 ∧
      ∀ (operation : LogoOperation) (n : Nat), operation.issued pixelCodec pixelProfile
          (heldFiles [saveBlue, .remove, saveBlue]) = some n → n < 2 ^ 128 ∧
        ∀ logo ∈ serviceLogoFiles pixelProfile
            (serviceLogoNames pixelProfile (heldFiles [saveBlue, .remove, saveBlue])),
          logo.sequence < n := by
  have hread := cachedServiceLogo_of_run heldRun (by decide) (List.Perm.refl _)
    (noneHeld pixelProfile)
  have hsaved : savedImages pixelCodec [savePixel, saveBlue, .remove, saveBlue] =
      [pixel, bluePixel, bluePixel] := by decide
  have hshown : lastChange pixelCodec [savePixel, saveBlue, .remove, saveBlue] =
      some (.logo bluePixel) := by decide
  rw [hsaved, hshown] at hread
  exact hread

/-- Where a removal left no file, a clock that did not go on numbers two saves alike. -/
theorem not_issued_nodup :
    ¬∀ (codec : LogoCodec) (id : ProfileId) (operations : List LogoOperation) (issued : List Nat)
      (files : StoreFiles), LogoRun codec id operations issued files → issued.Nodup := by
  intro h
  have hremoved := pixelRun.step (List.Perm.refl _) (noneHeld pixelProfile) .remove
  have hagain := hremoved.step (List.Perm.refl _) (noneHeld pixelProfile) savePixel
  have hissued : savePixel.issued pixelCodec pixelProfile (LogoOperation.remove.apply pixelCodec
      pixelProfile (noneHeld pixelProfile) pixelFiles) = some 5 := by decide +kernel
  rw [hissued] at hagain
  exact absurd (h _ _ _ _ _ hagain) (by decide)

end Pixel

end MultiCore.Profiles
