import Mathlib.Tactic.Common
import MultiCore.Library.UrlPath
import MultiCore.Library.Utf8

/-!
# Releases of the pinned repository

What the updater takes from a release document: the one asset of its own flavour,
with its size and digest, where the texts of its address and of the page's begin
with the repository's releases. The client that asks for the asset reads the
address as a URL.
-/

namespace MultiCore.Update

/-- Why a release document is refused. -/
inductive UpdateError where
  | invalidRepository
  | invalidVersion
  | invalidRelease (reason : String)
  | invalidReleaseJson
  deriving DecidableEq, Repr

/-- The flavours that are built for Windows. -/
inductive WindowsArch where
  | x64
  | x86
  | arm64
  deriving DecidableEq, Repr

/-- Portable bundle and updater asset. -/
def WindowsArch.bundleAssetName : WindowsArch → String
  | .x64 => "multicore-windows-x64.zip"
  | .x86 => "multicore-windows-x86.zip"
  | .arm64 => "multicore-windows-arm64.zip"

/-- A greater asset is not offered. -/
def maxArchiveBytes : Nat := 512 * 1024 * 1024

/-- An ASCII letter or digit. -/
def isAsciiAlphanumeric (c : Char) : Bool :=
  (48 ≤ c.toNat && c.toNat ≤ 57) || (65 ≤ c.toNat && c.toNat ≤ 90) ||
    (97 ≤ c.toNat && c.toNat ≤ 122)

/-- A text that may name an owner or a repository. -/
def validRepositorySegment (value : String) : Bool :=
  value.utf8ByteSize ≤ 100 && !value.isEmpty && value != "." && value != ".." &&
    value.toList.head?.any isAsciiAlphanumeric && value.toList.getLast?.any isAsciiAlphanumeric &&
    value.toList.all fun c => isAsciiAlphanumeric c || c = '.' || c = '_' || c = '-'

/-- The repository an updater build is pinned to. -/
structure Repository where
  owner : String
  name : String
  ownerValid : validRepositorySegment owner = true
  nameValid : validRepositorySegment name = true

/-- The three numbers of a release's tag. -/
structure Version where
  major : Nat
  minor : Nat
  patch : Nat
  deriving DecidableEq, Repr

/-- One number, without a leading zero and within a word. -/
def parseVersionPart (value : String) : Except UpdateError Nat :=
  if value.isEmpty || (1 < value.utf8ByteSize && Text.startsWith value "0") ||
      !value.toList.all Text.isDigit then
    .error .invalidVersion
  else
    match Text.parseUnsigned (2 ^ 64 - 1) value with
    | some n => .ok n
    | none => .error .invalidVersion

/-- A version behind an optional letter `v`. -/
def Version.parse (value : String) : Except UpdateError Version :=
  let value := (Text.stripPrefix value "v").getD value
  match Text.split (· == '.') value with
  | [major, minor, patch] => do
    let major ← parseVersionPart major
    let minor ← parseVersionPart minor
    let patch ← parseVersionPart patch
    .ok ⟨major, minor, patch⟩
  | _ => .error .invalidVersion

/-- The asset that is offered, with the digest that it must have. -/
structure ReleaseAsset where
  downloadUrl : String
  size : Nat
  sha256Hex : String
  deriving DecidableEq, Repr

/-- A release with the asset of this flavour. -/
structure GitHubRelease where
  version : Version
  pageUrl : String
  asset : ReleaseAsset
  deriving DecidableEq, Repr

/-- An asset of a release document as it is deserialized. -/
structure RawAsset where
  name : String
  browserDownloadUrl : String
  size : Nat
  digest : String
  deriving DecidableEq, Repr

/-- A release document as it is deserialized. -/
structure RawRelease where
  tagName : String
  htmlUrl : String
  assets : List RawAsset
  deriving DecidableEq, Repr

/-- A digit of a digest as it is written. -/
def isLowerHexDigit (c : Char) : Bool :=
  (48 ≤ c.toNat && c.toNat ≤ 57) || (97 ≤ c.toNat && c.toNat ≤ 102)

/-- How every address of a release begins. -/
def gitHub : String := "https://github.com/"

/-- The asset of a name, where its size, address and digest pass. -/
def checkedAsset (assetName : String) (rawAsset : RawAsset) : Except UpdateError ReleaseAsset :=
  if rawAsset.size = 0 || maxArchiveBytes < rawAsset.size then
    .error (.invalidRelease "release asset size is invalid")
  else if !Text.startsWith rawAsset.browserDownloadUrl gitHub ||
      !Text.endsWith rawAsset.browserDownloadUrl ("/" ++ assetName) then
    .error (.invalidRelease "unexpected asset URL")
  else
    match Text.stripPrefix rawAsset.digest "sha256:" with
    | none => .error (.invalidRelease "SHA-256 digest is missing")
    | some digest =>
      if digest.utf8ByteSize ≠ 64 || !digest.toList.all isLowerHexDigit then
        .error (.invalidRelease "SHA-256 digest is invalid")
      else .ok ⟨rawAsset.browserDownloadUrl, rawAsset.size, digest⟩

/-- The release of a document whose one asset of the expected name passes. -/
def parseNamed (raw : RawRelease) (assetName : Version → String) :
    Except UpdateError GitHubRelease := do
  let version ← Version.parse raw.tagName
  if !Text.startsWith raw.htmlUrl gitHub then
    .error (.invalidRelease "unexpected release page URL")
  else
    match raw.assets.filter fun asset => asset.name = assetName version with
    | [] => .error (.invalidRelease "release asset is missing")
    | [rawAsset] =>
      let asset ← checkedAsset (assetName version) rawAsset
      .ok ⟨version, raw.htmlUrl, asset⟩
    | _ => .error (.invalidRelease "release asset is duplicated")

/-- How the addresses of a repository's releases begin. -/
def releasesBase (repository : Repository) : String :=
  gitHub ++ (repository.owner ++ "/" ++ repository.name ++ "/releases/")

/-- A release whose two addresses begin so, up to ASCII case. -/
def pinnedTo (repository : Repository) (release : GitHubRelease) :
    Except UpdateError GitHubRelease :=
  let base := Text.lower (releasesBase repository)
  if !Text.startsWith (Text.lower release.pageUrl) base ||
      !Text.startsWith (Text.lower release.asset.downloadUrl) base then
    .error (.invalidRelease "release URLs do not match the pinned repository")
  else .ok release

/-- The release of a repository in a document that `json` deserializes. -/
def parseForRepository (json : List UInt8 → Option RawRelease) (current : WindowsArch)
    (repository : Repository) (body : List UInt8) : Except UpdateError GitHubRelease :=
  match json body with
  | none => .error .invalidReleaseJson
  | some raw => do
    let release ← parseNamed raw fun _ => current.bundleAssetName
    pinnedTo repository release

section Requests

/-- What a client asks for: a host, and the segments of a path on it. -/
structure RequestTarget where
  host : String
  path : List (List Char)
  deriving DecidableEq, Repr

/-- An HTTP client, by what it asks for where it is given an address. -/
structure HttpClient where
  target : String → Option RequestTarget
  encode : List Char → List Char

/-- The client reads addresses on the host as URLs, and escapes no plain characters. -/
structure HttpClient.ReadsUrls (client : HttpClient) : Prop where
  gitHub : ∀ rest : String, client.target (gitHub ++ rest) =
    some ⟨"github.com", (UrlPath.resolve rest.toList).map client.encode⟩
  plain : ∀ segment : List Char, (∀ c ∈ segment, UrlPath.isPlain c = true) →
    client.encode segment = segment

/-- A path under a repository's releases, up to the case of ASCII letters. -/
def UnderReleases (repository : Repository) (target : RequestTarget) : Prop :=
  target.host = "github.com" ∧ ∃ owner name releases below,
    target.path = owner :: name :: releases :: below ∧ below ≠ [] ∧
      Text.lower (String.ofList owner) = Text.lower repository.owner ∧
      Text.lower (String.ofList name) = Text.lower repository.name ∧
      Text.lower (String.ofList releases) = "releases"

end Requests

section Accepted

variable {json : List UInt8 → Option RawRelease} {current : WindowsArch}
  {repository : Repository} {body : List UInt8} {release : GitHubRelease}

/-- The address of an asset that passed is on the host and ends with the name. -/
theorem checkedAsset_eq_ok {assetName : String} {rawAsset : RawAsset} {asset : ReleaseAsset}
    (h : checkedAsset assetName rawAsset = .ok asset) :
    Text.startsWith asset.downloadUrl gitHub = true ∧
      Text.endsWith asset.downloadUrl ("/" ++ assetName) = true := by
  unfold checkedAsset at h
  split_ifs at h with hsize hurl
  rw [Bool.or_eq_true, not_or, Bool.not_eq_true', Bool.not_eq_true', Bool.not_eq_false,
    Bool.not_eq_false] at hurl
  cases hdigest : Text.stripPrefix rawAsset.digest "sha256:" with
  | none =>
    rw [hdigest] at h
    cases h
  | some digest =>
    rw [hdigest] at h
    dsimp only at h
    split_ifs at h
    cases h
    exact hurl

/-- An accepted asset has passed its checks under the name of its release's version. -/
theorem parseNamed_eq_ok {raw : RawRelease} {assetName : Version → String}
    (h : parseNamed raw assetName = .ok release) :
    ∃ rawAsset, checkedAsset (assetName release.version) rawAsset = .ok release.asset := by
  simp only [parseNamed, bind, Except.bind] at h
  cases hversion : Version.parse raw.tagName with
  | error error =>
    rw [hversion] at h
    cases h
  | ok version =>
    rw [hversion] at h
    dsimp only at h
    split_ifs at h
    split at h
    · cases h
    · rename_i rawAsset hmatching
      cases hasset : checkedAsset (assetName version) rawAsset with
      | error error =>
        rw [hasset] at h
        cases h
      | ok asset =>
        rw [hasset] at h
        cases h
        exact ⟨rawAsset, hasset⟩
    · cases h

/-- The address of a release that passed begins with the repository's releases. -/
theorem pinnedTo_eq_ok {release' : GitHubRelease} (h : pinnedTo repository release' = .ok release) :
    release' = release ∧ Text.startsWith (Text.lower release.asset.downloadUrl)
      (Text.lower (releasesBase repository)) = true := by
  unfold pinnedTo at h
  dsimp only at h
  split_ifs at h with hbase
  cases h
  rw [Bool.or_eq_true, not_or, Bool.not_eq_true', Bool.not_eq_true', Bool.not_eq_false,
    Bool.not_eq_false] at hbase
  exact ⟨rfl, hbase.2⟩

/-- What is known of an accepted release's asset address as a text. -/
theorem parseForRepository_eq_ok
    (h : parseForRepository json current repository body = .ok release) :
    (∃ rest, release.asset.downloadUrl = gitHub ++ rest ∧ Text.startsWith (Text.lower rest)
      (Text.lower (repository.owner ++ "/" ++ repository.name ++ "/releases/")) = true) ∧
      Text.endsWith release.asset.downloadUrl ("/" ++ current.bundleAssetName) = true := by
  unfold parseForRepository at h
  cases hjson : json body with
  | none =>
    rw [hjson] at h
    cases h
  | some raw =>
    rw [hjson] at h
    cases hnamed : parseNamed raw fun _ => current.bundleAssetName with
    | error error =>
      simp only [hnamed, bind, Except.bind] at h
      cases h
    | ok release' =>
      simp only [hnamed, bind, Except.bind] at h
      obtain ⟨rfl, hbase⟩ := pinnedTo_eq_ok h
      obtain ⟨rawAsset, hasset⟩ := parseNamed_eq_ok hnamed
      obtain ⟨hgithub, hends⟩ := checkedAsset_eq_ok hasset
      obtain ⟨rest, hrest⟩ := Text.startsWith_iff.1 hgithub
      rw [hrest, releasesBase, Text.lower_append, Text.lower_append,
        Text.startsWith_append_append] at hbase
      exact ⟨⟨rest, hrest, hbase⟩, hends⟩

/-- A client does not escape what names a repository. -/
theorem isPlain_of_repositorySegment {value : String}
    (h : validRepositorySegment value = true) : ∀ c ∈ value.toList, UrlPath.isPlain c = true := by
  rw [validRepositorySegment, Bool.and_eq_true, List.all_eq_true] at h
  exact h.2

/-- What begins with a repository's releases once it is lowered is made of four parts. -/
theorem exists_parts {owner name : String} {rest : List Char}
    (h : (Text.lower (owner ++ "/" ++ name ++ "/releases/")).toList <+: rest.map Text.lowerChar) :
    ∃ o n r below, rest = o ++ '/' :: (n ++ '/' :: (r ++ '/' :: below)) ∧
      o.map Text.lowerChar = owner.toList.map Text.lowerChar ∧
      n.map Text.lowerChar = name.toList.map Text.lowerChar ∧
      r.map Text.lowerChar = "releases".toList.map Text.lowerChar := by
  obtain ⟨lowered, hlowered⟩ := h
  have hslash : ∀ c, Text.lowerChar c = '/' → c = '/' :=
    fun c => (Text.lowerChar_eq_iff (by decide)).1
  have hsplit : owner.toList.map Text.lowerChar ++ '/' :: (name.toList.map Text.lowerChar ++
      '/' :: ("releases".toList.map Text.lowerChar ++ '/' :: lowered)) =
      rest.map Text.lowerChar := by
    rw [← hlowered]
    simp only [Text.toList_lower, String.toList_append, List.map_append, List.append_assoc]
    rfl
  obtain ⟨o, below, rfl, ho, hbelow⟩ := List.map_eq_append_iff.1 hsplit.symm
  obtain ⟨c, below, rfl, hc, hbelow⟩ := List.map_eq_cons_iff.1 hbelow
  obtain ⟨n, below, rfl, hn, hbelow⟩ := List.map_eq_append_iff.1 hbelow
  obtain ⟨d, below, rfl, hd, hbelow⟩ := List.map_eq_cons_iff.1 hbelow
  obtain ⟨r, below, rfl, hr, hbelow⟩ := List.map_eq_append_iff.1 hbelow
  obtain ⟨e, below, rfl, he, -⟩ := List.map_eq_cons_iff.1 hbelow
  rw [hslash c hc, hslash d hd, hslash e he]
  exact ⟨o, n, r, below, rfl, ho, hn, hr⟩

/-- Where an accepted address has no dot segments, the client asks for a path under the pinned
repository's releases. -/
theorem parseForRepository_requests {client : HttpClient} (reads : client.ReadsUrls)
    (h : parseForRepository json current repository body = .ok release)
    (noDots : ∀ rest, release.asset.downloadUrl = gitHub ++ rest →
      UrlPath.NoDots (UrlPath.segments rest.toList)) :
    (∃ target, client.target release.asset.downloadUrl = some target ∧
        UnderReleases repository target) ∧
      Text.endsWith release.asset.downloadUrl ("/" ++ current.bundleAssetName) = true := by
  obtain ⟨⟨rest, hurl, hbase⟩, hends⟩ := parseForRepository_eq_ok h
  apply And.intro _ hends
  have hdots := noDots rest hurl
  rw [Text.startsWith, List.isPrefixOf_iff_prefix, Text.toList_lower rest] at hbase
  obtain ⟨o, n, r, below, hrest, ho, hn, hr⟩ := exists_parts hbase
  have hreleases : ∀ c ∈ "releases".toList, UrlPath.isPlain c = true :=
    List.all_eq_true.1 (by decide +kernel)
  have hoPlain := UrlPath.plain_of_lowered ho (isPlain_of_repositorySegment repository.ownerValid)
  have hnPlain := UrlPath.plain_of_lowered hn (isPlain_of_repositorySegment repository.nameValid)
  have hrPlain := UrlPath.plain_of_lowered hr hreleases
  have hstart : ∀ c ∈ o ++ '/' :: (n ++ '/' :: (r ++ ['/'])),
      UrlPath.isPlain c = true ∨ c = '/' := by
    intro c hc
    simp only [List.mem_append, List.mem_cons, List.not_mem_nil, or_false] at hc
    rcases hc with hc | rfl | hc | rfl | hc | rfl
    · exact Or.inl (hoPlain c hc)
    · exact Or.inr rfl
    · exact Or.inl (hnPlain c hc)
    · exact Or.inr rfl
    · exact Or.inl (hrPlain c hc)
    · exact Or.inr rfl
  have hparts : o ++ '/' :: (n ++ '/' :: (r ++ '/' :: below)) =
      (o ++ '/' :: (n ++ '/' :: (r ++ ['/']))) ++ below := by
    simp only [List.append_assoc, List.cons_append, List.nil_append]
  have htext : UrlPath.pathText rest.toList =
      o ++ '/' :: (n ++ '/' :: (r ++ '/' :: UrlPath.pathText below)) := by
    rw [hrest, hparts, UrlPath.pathText_append hstart]
    simp only [List.append_assoc, List.cons_append, List.nil_append]
  have hsegments : UrlPath.segments rest.toList =
      o :: n :: r :: Text.pieces UrlPath.isSeparator (UrlPath.pathText below) := by
    rw [UrlPath.segments, htext, UrlPath.pieces_plain hoPlain, UrlPath.pieces_plain hnPlain,
      UrlPath.pieces_plain hrPlain]
  have hresolve : UrlPath.resolve rest.toList = UrlPath.segments rest.toList :=
    UrlPath.resolveFrom_of_noDots [] hdots
  have htarget := reads.gitHub rest
  rw [← hurl, hresolve, hsegments, List.map_cons, List.map_cons, List.map_cons,
    reads.plain o hoPlain, reads.plain n hnPlain, reads.plain r hrPlain] at htarget
  have hlower : ∀ {cs : List Char} {s : String}, cs.map Text.lowerChar =
      s.toList.map Text.lowerChar → Text.lower (String.ofList cs) = Text.lower s := by
    intro cs s heq
    rw [Text.lower, Text.lower, String.toList_ofList, heq]
  have hbelow : (Text.pieces UrlPath.isSeparator (UrlPath.pathText below)).map client.encode ≠
      [] := fun hnil => Text.pieces_ne_nil _ _ (List.map_eq_nil_iff.1 hnil)
  have hname : Text.lower "releases" = "releases" := by decide +kernel
  exact ⟨_, htarget, rfl, o, n, r, _, rfl, hbelow, hlower ho, hlower hn, (hlower hr).trans hname⟩

end Accepted

section Documents

/-- A client that reads addresses on the host as URLs. -/
def urlClient : HttpClient where
  target url := (Text.stripPrefix url gitHub).map fun rest =>
    ⟨"github.com", UrlPath.resolve rest.toList⟩
  encode segment := segment

/-- It reads them so. -/
theorem urlClient_readsUrls : urlClient.ReadsUrls := by
  constructor
  · intro rest
    simp only [urlClient, Text.stripPrefix_append, Option.map_some, List.map_id']
  · exact fun _ _ => rfl

/-- The repository of the source itself. -/
def pinnedRepository : Repository :=
  ⟨"fatyzzz", "multicore", by decide +kernel, by decide +kernel⟩

/-- A release document with one asset. -/
def documentOf (address : String) : RawRelease :=
  ⟨"v1.0.0", "https://github.com/fatyzzz/multicore/releases/tag/v1.0.0",
    [⟨"multicore-windows-x64.zip", address, 12,
      "sha256:aaaaaaaaaaaaaaaaaaaaaaaaaaaaaaaaaaaaaaaaaaaaaaaaaaaaaaaaaaaaaaaa"⟩]⟩

/-- The bytes of that document. -/
def bodyOf (address : String) : List UInt8 :=
  Utf8.encode ("\x7b\"tag_name\":\"v1.0.0\",".toList ++
    "\"html_url\":\"https://github.com/fatyzzz/multicore/releases/tag/v1.0.0\",".toList ++
    "\"assets\":[\x7b\"name\":\"multicore-windows-x64.zip\",\"browser_download_url\":\"".toList ++
    address.toList ++ "\",\"size\":12,\"digest\":\"sha256:".toList ++ List.replicate 64 'a' ++
    "\"\x7d]\x7d".toList)

/-- A deserializer that knows one document. -/
def readDocument (address : String) (body : List UInt8) : Option RawRelease :=
  if body = bodyOf address then some (documentOf address) else none

/-- What that document says. -/
def releaseOf (address : String) : GitHubRelease :=
  ⟨⟨1, 0, 0⟩, "https://github.com/fatyzzz/multicore/releases/tag/v1.0.0",
    ⟨address, 12, "aaaaaaaaaaaaaaaaaaaaaaaaaaaaaaaaaaaaaaaaaaaaaaaaaaaaaaaaaaaaaaaa"⟩⟩

/-- It reads its own document. -/
theorem readDocument_bodyOf (address : String) :
    readDocument address (bodyOf address) = some (documentOf address) := if_pos rfl

/-- The asset of another release of the repository. -/
def otherAddress : String :=
  "https://github.com/fatyzzz/multicore/releases/download/v0.9.0/multicore-windows-x64.zip"

/-- The asset of another release is accepted. -/
theorem otherAddress_accepted : parseForRepository (readDocument otherAddress) .x64
    pinnedRepository (bodyOf otherAddress) = .ok (releaseOf otherAddress) := by
  rw [parseForRepository, readDocument_bodyOf]
  decide +kernel

/-- A client that asks for it asks under the repository's releases. -/
theorem parseForRepository_requests_other :
    (∃ target, urlClient.target otherAddress = some target ∧
        UnderReleases pinnedRepository target) ∧
      Text.endsWith otherAddress ("/" ++ WindowsArch.x64.bundleAssetName) = true := by
  apply parseForRepository_requests urlClient_readsUrls otherAddress_accepted
  intro rest hrest
  have hother : otherAddress = gitHub ++
      "fatyzzz/multicore/releases/download/v0.9.0/multicore-windows-x64.zip" := by decide +kernel
  have hsame : rest = "fatyzzz/multicore/releases/download/v0.9.0/multicore-windows-x64.zip" := by
    have hstrip := Text.stripPrefix_append gitHub rest
    rw [← hrest, show (releaseOf otherAddress).asset.downloadUrl = otherAddress from rfl, hother,
      Text.stripPrefix_append, Option.some_inj] at hstrip
    exact hstrip.symm
  rw [hsame]
  unfold UrlPath.NoDots
  decide +kernel

/-- A path under the downloads of a repository's release with some tag. -/
def UnderDownloads (repository : Repository) (tag : String) (target : RequestTarget) : Prop :=
  target.host = "github.com" ∧ ∃ owner name releases download tagged below,
    target.path = owner :: name :: releases :: download :: tagged :: below ∧
      Text.lower (String.ofList owner) = Text.lower repository.owner ∧
      Text.lower (String.ofList name) = Text.lower repository.name ∧
      Text.lower (String.ofList releases) = "releases" ∧
      Text.lower (String.ofList download) = "download" ∧ String.ofList tagged = tag

/-- The asset of another release than the document's is accepted. -/
theorem not_underDownloads_other :
    ¬∀ (json : List UInt8 → Option RawRelease) (client : HttpClient) (current : WindowsArch)
      (repository : Repository) (body : List UInt8) (raw : RawRelease) (release : GitHubRelease),
      client.ReadsUrls → json body = some raw →
        parseForRepository json current repository body = .ok release →
          ∃ target, client.target release.asset.downloadUrl = some target ∧
            UnderDownloads repository raw.tagName target := by
  intro h
  obtain ⟨target, htarget, -, owner, name, releases, download, tagged, below, hpath, -, -, -, -,
    htag⟩ := h _ urlClient .x64 pinnedRepository _ _ _ urlClient_readsUrls
      (readDocument_bodyOf otherAddress) otherAddress_accepted
  have hasked : urlClient.target otherAddress = some ⟨"github.com",
      ["fatyzzz".toList, "multicore".toList, "releases".toList, "download".toList, "v0.9.0".toList,
        "multicore-windows-x64.zip".toList]⟩ := by decide +kernel
  rw [show (releaseOf otherAddress).asset.downloadUrl = otherAddress from rfl, hasked,
    Option.some_inj] at htarget
  rw [← htarget] at hpath
  have htagged : "v0.9.0".toList = tagged := by
    simp only [List.cons.injEq] at hpath
    exact hpath.2.2.2.2.1
  rw [← htagged] at htag
  exact absurd htag (by decide +kernel)

end Documents

end MultiCore.Update
