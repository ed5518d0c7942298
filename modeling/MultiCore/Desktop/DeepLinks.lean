import MultiCore.Library.PercentEncoding
import MultiCore.Library.Utf8

/-!
# Links that start the application

The arguments of a launch, read as a mode or as one of the two links that carry a
subscription. What a link carries percent-encoded is decoded strictly: a spelling is
accepted exactly when it stands for the text, and then the text is what is proposed.
-/

namespace MultiCore.Desktop

/-- An argument of the operating system, which may be no Unicode. -/
inductive OsArgument where
  | unicode (text : String)
  | other (units : List UInt16)
  deriving DecidableEq, Repr

/-- What the URL parser tells of a URL. -/
structure ParsedUrl where
  scheme : String
  host : Option String
  fragment : Option String
  deriving DecidableEq, Repr

/-- A parser of absolute URLs: without a colon there is no scheme. -/
def ReadsSchemes (parse : String → Option ParsedUrl) : Prop :=
  ∀ url parsed, parse url = some parsed → ':' ∈ url.toList

/-- How the window starts. -/
inductive LaunchMode where
  | foreground
  | background
  deriving DecidableEq, Repr

/-- What a command line or a link asks for. -/
structure LaunchArguments where
  mode : LaunchMode
  subscriptionUrl : Option String
  deriving DecidableEq, Repr

/-- A start without a link. -/
def LaunchArguments.foreground : LaunchArguments := ⟨.foreground, none⟩

/-- The route that links go to. -/
def installSubscriptionRoute : String := "multicore://install-sub"

/-- The form of panel pages: the address follows as it is. -/
def addSubscriptionRoute : String := "multicore://add/"

/-- `MAX_SUBSCRIPTION_URL_BYTES`. -/
def maxSubscriptionUrlBytes : Nat := 8192

/-- `u8::is_ascii_control`. -/
def isAsciiControl (byte : UInt8) : Bool := byte < 0x20 || byte = 0x7F

/-- The bytes that need no escape. -/
def isUnreserved (byte : UInt8) : Bool :=
  (0x30 ≤ byte && byte ≤ 0x39) || (0x41 ≤ byte && byte ≤ 0x5A) || (0x61 ≤ byte && byte ≤ 0x7A) ||
    byte = 0x2D || byte = 0x2E || byte = 0x5F || byte = 0x7E

/-- The value of a hexadecimal digit. -/
def hexValue (byte : UInt8) : Option UInt8 :=
  if 0x30 ≤ byte && byte ≤ 0x39 then some (byte - 0x30)
  else if 0x61 ≤ byte && byte ≤ 0x66 then some (byte - 0x61 + 10)
  else if 0x41 ≤ byte && byte ≤ 0x46 then some (byte - 0x41 + 10)
  else none

/-- The bytes that a spelling decodes to. -/
def decodeEscapes : List UInt8 → Except String (List UInt8)
  | [] => .ok []
  | byte :: rest =>
    if byte = Percent.sign then
      match rest with
      | high :: low :: rest =>
        match hexValue high, hexValue low with
        | some x, some y => (decodeEscapes rest).map fun bytes => (x * 16 + y) :: bytes
        | _, _ => .error "invalid percent escape"
      | _ => .error "incomplete percent escape"
    else if isUnreserved byte then (decodeEscapes rest).map fun bytes => byte :: bytes
    else .error "subscription URL contains an unescaped character"

/-- The link that is spelled with escapes; one without any is refused. -/
def decodePercentEncodedUrl (encoded : String) : Except String String :=
  let bytes := Utf8.encode encoded.toList
  if encoded.isEmpty || !bytes.contains Percent.sign then
    .error "subscription URL must be percent-encoded"
  else
    match decodeEscapes bytes with
    | .error error => .error error
    | .ok decoded =>
      match Utf8.fromUtf8 decoded with
      | none => .error "subscription URL is not valid UTF-8"
      | some text => .ok (String.ofList text)

/-- Whether a text begins with another up to ASCII case. -/
def startsIgnoringCase (text start : String) : Bool :=
  Text.sameName (String.ofList (text.toList.take start.toList.length)) start

section Launch

variable (parse : String → Option ParsedUrl)

def deepLinkSubscription (url : String) : Except String LaunchArguments :=
  if maxSubscriptionUrlBytes < url.utf8ByteSize ||
      (Utf8.encode url.toList).any fun byte => isAsciiControl byte || byte = 0x20 then
    .error "subscription URL contains invalid bytes or is too long"
  else
    match parse url with
    | none => .error "subscription URL is malformed"
    | some parsed =>
      if (parsed.scheme ≠ "http" && parsed.scheme ≠ "https") || parsed.host.isNone ||
          parsed.fragment.isSome then
        .error "subscription URL must use HTTP or HTTPS"
      else .ok ⟨.foreground, some url⟩

/-- Whether the address after the add route is written as it is. -/
def isRaw (target : String) : Bool :=
  startsIgnoringCase target "http://" || startsIgnoringCase target "https://"

/-- The route of an installer link; an empty path may be written as a slash. -/
def isInstallRoute (route : String) : Bool :=
  Text.sameName ((Text.stripSuffix route "/").getD route) installSubscriptionRoute

def parseLink (argument : String) : Except String LaunchArguments :=
  if startsIgnoringCase argument addSubscriptionRoute then
    let target := String.ofList (argument.toList.drop addSubscriptionRoute.toList.length)
    if isRaw target then deepLinkSubscription parse target
    else
      match decodePercentEncodedUrl target with
      | .error error => .error error
      | .ok url => deepLinkSubscription parse url
  else
    match Text.splitOnce '?' argument with
    | none => .error "unsupported launch argument"
    | some (route, query) =>
      if !isInstallRoute route then .error "unsupported installer URI route"
      else
        match Text.stripPrefix query "url=" with
        | none => .error "installer URI must contain one subscription URL"
        | some encoded =>
          match decodePercentEncodedUrl encoded with
          | .error error => .error error
          | .ok url => deepLinkSubscription parse url

def parseLaunchArguments : List OsArgument → Except String LaunchArguments
  | [] => .ok .foreground
  | [argument] =>
    if argument = .unicode "--quiet-signal-preview" then .ok .foreground
    else if argument = .unicode "--background" then .ok ⟨.background, none⟩
    else
      match argument with
      | .unicode text => parseLink parse text
      | .other _ => .error "launch argument must be valid Unicode"
  | _ => .error "background mode and installer URI cannot be combined"

end Launch

/-! ## Decoding -/

/-- A text is percent-encoded by a spelling of its bytes in unreserved characters and escapes. -/
def PercentEncodes (encoded url : String) : Prop :=
  Percent.Spells isUnreserved (Utf8.encode encoded.toList) (Utf8.encode url.toList)

section Decoding

variable {raw bytes : List UInt8} {encoded url : String}

theorem hexValue_toNat : ∀ n < 256,
    (hexValue (UInt8.ofNat n)).map UInt8.toNat = Percent.hexValue (UInt8.ofNat n) := by
  decide +kernel

theorem hexValue_eq (byte : UInt8) :
    Percent.hexValue byte = (hexValue byte).map UInt8.toNat := by
  have h := hexValue_toNat byte.toNat byte.toNat_lt
  rw [UInt8.ofNat_toNat] at h
  exact h.symm

/-- The escape of a byte from its two digits. -/
theorem ofNat_digits (high low : UInt8) :
    UInt8.ofNat (high.toNat * 16 + low.toNat) = high * 16 + low := by
  rw [← UInt8.toNat_inj, UInt8.toNat_ofNat', UInt8.toNat_add, UInt8.toNat_mul]
  simp

theorem decodeEscapes_of_spells (h : Percent.Spells isUnreserved raw bytes) :
    decodeEscapes raw = .ok bytes := by
  induction h with
  | nil => rfl
  | plain hplain hsign _ ih =>
    unfold decodeEscapes
    rw [if_neg hsign, if_pos hplain, ih, Except.map]
  | escape hhigh hlow _ ih =>
    rw [hexValue_eq, Option.map_eq_some_iff] at hhigh hlow
    obtain ⟨x, hx, rfl⟩ := hhigh
    obtain ⟨y, hy, rfl⟩ := hlow
    rw [decodeEscapes, if_pos rfl]
    simp only [hx, hy]
    rw [ih, Except.map, ofNat_digits]

theorem map_eq_ok {α β ε : Type} {f : α → β} {result : Except ε α} {b : β}
    (h : result.map f = .ok b) : ∃ a, result = .ok a ∧ f a = b := by
  cases result with
  | error error => cases h
  | ok a =>
    cases h
    exact ⟨a, rfl, rfl⟩

theorem spells_of_decodeEscapes (h : decodeEscapes raw = .ok bytes) :
    Percent.Spells isUnreserved raw bytes := by
  induction raw using decodeEscapes.induct generalizing bytes with
  | case1 =>
    cases h
    exact Percent.Spells.nil
  | case2 high low rest x y hlow hhigh ih =>
    rw [decodeEscapes, if_pos rfl] at h
    simp only [hhigh, hlow] at h
    obtain ⟨after, hafter, rfl⟩ := map_eq_ok h
    have hx : Percent.hexValue high = some x.toNat := by rw [hexValue_eq, hhigh, Option.map_some]
    have hy : Percent.hexValue low = some y.toNat := by rw [hexValue_eq, hlow, Option.map_some]
    rw [← ofNat_digits]
    exact (ih hafter).escape hx hy
  | case3 high low rest hdigits =>
    rw [decodeEscapes, if_pos rfl] at h
    cases hx : hexValue high with
    | none => simp [hx] at h
    | some x =>
      cases hy : hexValue low with
      | none => simp [hx, hy] at h
      | some y => exact (hdigits x y hx hy).elim
  | case4 rest hrest =>
    unfold decodeEscapes at h
    rw [if_pos rfl] at h
    match rest with
    | [] => cases h
    | [_] => cases h
    | high :: low :: rest => exact (hrest high low rest rfl).elim
  | case5 byte rest hsign hplain ih =>
    unfold decodeEscapes at h
    rw [if_neg hsign, if_pos hplain] at h
    obtain ⟨after, hafter, rfl⟩ := map_eq_ok h
    exact (ih hafter).plain hplain hsign
  | case6 byte rest hsign hplain =>
    unfold decodeEscapes at h
    rw [if_neg hsign, if_neg hplain] at h
    cases h

/-- The bytes of a spelling are unreserved, percent signs or hexadecimal digits. -/
theorem mem_of_spells (h : Percent.Spells isUnreserved raw bytes) {byte : UInt8}
    (hbyte : byte ∈ raw) :
    isUnreserved byte = true ∨ byte = Percent.sign ∨ ∃ x, Percent.hexValue byte = some x := by
  induction h with
  | nil => cases hbyte
  | plain hplain _ _ ih =>
    rcases List.mem_cons.1 hbyte with rfl | hbyte
    · exact Or.inl hplain
    · exact ih hbyte
  | escape hhigh hlow _ ih =>
    rcases List.mem_cons.1 hbyte with rfl | hbyte
    · exact Or.inr (Or.inl rfl)
    · rcases List.mem_cons.1 hbyte with rfl | hbyte
      · exact Or.inr (Or.inr ⟨_, hhigh⟩)
      · rcases List.mem_cons.1 hbyte with rfl | hbyte
        · exact Or.inr (Or.inr ⟨_, hlow⟩)
        · exact ih hbyte

/-- A byte that is not unreserved is spelled with a percent sign. -/
theorem sign_mem_of_spells (h : Percent.Spells isUnreserved raw bytes) {byte : UInt8}
    (hbyte : byte ∈ bytes) (hreserved : isUnreserved byte = false) : Percent.sign ∈ raw := by
  induction h with
  | nil => cases hbyte
  | plain hplain _ _ ih =>
    rcases List.mem_cons.1 hbyte with rfl | hbyte
    · rw [hplain] at hreserved
      cases hreserved
    · exact List.mem_cons_of_mem _ (ih hbyte)
  | escape _ _ _ _ => exact List.mem_cons_self

/-- An ASCII character stands in a text as its byte. -/
theorem ascii_mem_encode {c : Char} {byte : UInt8} {text : List Char} (hmem : c ∈ text)
    (hbyte : String.utf8EncodeChar c = [byte]) : byte ∈ Utf8.encode text :=
  List.mem_flatMap.2 ⟨c, hmem, by rw [hbyte]; exact List.mem_singleton_self _⟩

/-- A colon never stands in a spelling. -/
theorem colon_not_mem (h : PercentEncodes encoded url) : ':' ∉ encoded.toList := by
  intro hcolon
  have hbyte : (0x3A : UInt8) ∈ Utf8.encode encoded.toList := ascii_mem_encode hcolon (by decide)
  rcases mem_of_spells h hbyte with hplain | hsign | ⟨x, hx⟩
  · exact absurd hplain (by decide)
  · exact absurd hsign (by decide)
  · have hnone : Percent.hexValue 0x3A = none := by decide
    rw [hnone] at hx
    cases hx

/-- A text with a colon is decoded from each of its spellings. -/
theorem decodePercentEncodedUrl_of_encodes (h : PercentEncodes encoded url)
    (hcolon : ':' ∈ url.toList) : decodePercentEncodedUrl encoded = .ok url := by
  have hbyte : (0x3A : UInt8) ∈ Utf8.encode url.toList := ascii_mem_encode hcolon (by decide)
  have hsign := sign_mem_of_spells h hbyte (by decide)
  have hne : encoded.isEmpty = false := by
    by_contra hempty
    rw [Bool.not_eq_false, String.isEmpty_iff] at hempty
    rw [hempty] at hsign
    cases hsign
  rw [decodePercentEncodedUrl, hne, List.contains_iff_mem.2 hsign, decodeEscapes_of_spells h]
  simp only [Bool.not_true, Bool.or_self, Bool.false_eq_true, if_false]
  rw [Utf8.fromUtf8_encode]
  simp only [String.ofList_toList]

/-- What is decoded is spelled by unreserved characters and escapes of valid UTF-8. -/
theorem spells_of_decodePercentEncodedUrl (h : decodePercentEncodedUrl encoded = .ok url) :
    ∃ bytes, Percent.Spells isUnreserved (Utf8.encode encoded.toList) bytes ∧
      Utf8.fromUtf8 bytes = some url.toList := by
  rw [decodePercentEncodedUrl] at h
  by_cases hempty : (encoded.isEmpty || !(Utf8.encode encoded.toList).contains Percent.sign) = true
  · rw [if_pos hempty] at h
    cases h
  · rw [if_neg hempty] at h
    cases hescapes : decodeEscapes (Utf8.encode encoded.toList) with
    | error error =>
      simp only [hescapes] at h
      cases h
    | ok bytes =>
      simp only [hescapes] at h
      cases htext : Utf8.fromUtf8 bytes with
      | none =>
        simp only [htext] at h
        cases h
      | some text =>
        simp only [htext] at h
        cases h
        exact ⟨bytes, spells_of_decodeEscapes hescapes, by rw [htext, String.toList_ofList]⟩

/-- Each of the first 128 characters is one byte, and the unreserved bytes are among them. -/
theorem ascii_bytes :
    (∀ n < 128, String.utf8EncodeChar (Char.ofNat n) = [UInt8.ofNat n]) ∧
      ∀ n < 256, isUnreserved (UInt8.ofNat n) = true → n < 128 := by
  decide +kernel

/-- The percent-encoding of a text. -/
def percentEncoding (url : String) : String :=
  String.ofList ((Percent.encode isUnreserved (Utf8.encode url.toList)).map fun byte =>
    Char.ofNat byte.toNat)

/-- The percent-encoding is one of the spellings. -/
theorem encodes_percentEncoding (url : String) : PercentEncodes (percentEncoding url) url := by
  have hascii : ∀ bytes : List UInt8, (∀ byte ∈ bytes, byte.toNat < 128) →
      Utf8.encode (bytes.map fun byte => Char.ofNat byte.toNat) = bytes := by
    intro bytes hbytes
    induction bytes with
    | nil => rfl
    | cons byte bytes ih =>
      have hbyte := ascii_bytes.1 byte.toNat (hbytes byte List.mem_cons_self)
      rw [UInt8.ofNat_toNat] at hbyte
      rw [List.map_cons, Utf8.encode, List.flatMap_cons, hbyte, List.singleton_append]
      exact congrArg _ (ih fun other hother => hbytes other (List.mem_cons_of_mem _ hother))
  have hcode : ∀ byte ∈ Percent.encode isUnreserved (Utf8.encode url.toList),
      byte.toNat < 128 := by
    intro byte hbyte
    rcases Percent.mem_encode hbyte with hplain | rfl | ⟨x, hx⟩
    · exact ascii_bytes.2 byte.toNat byte.toNat_lt (by rw [UInt8.ofNat_toNat]; exact hplain)
    · decide
    · exact (Percent.hexValue_bounds hx).1
  rw [PercentEncodes, percentEncoding, String.toList_ofList, hascii _ hcode]
  exact Percent.spells_encode (fun _ hplain => hplain) _

end Decoding

/-! ## Links -/

section Links

variable {parse : String → Option ParsedUrl} {url encoded rest : String}

/-- A proposed subscription is the text that was checked. -/
theorem deepLinkSubscription_eq_ok {launch : LaunchArguments}
    (h : deepLinkSubscription parse url = .ok launch) :
    launch = ⟨.foreground, some url⟩ ∧ ∃ parsed, parse url = some parsed := by
  rw [deepLinkSubscription] at h
  split_ifs at h
  cases hparsed : parse url with
  | none =>
    rw [hparsed] at h
    cases h
  | some parsed =>
    rw [hparsed] at h
    dsimp only at h
    split_ifs at h
    cases h
    exact ⟨rfl, parsed, rfl⟩

/-- A text that begins with another up to case. -/
theorem startsIgnoringCase_append {route start : String} (h : Text.sameName route start = true)
    (rest : String) : startsIgnoringCase (route ++ rest) start = true ∧
      (route ++ rest).toList.drop start.toList.length = rest.toList := by
  have hlower : Text.lower route = Text.lower start := Text.sameName_iff.1 h
  have hlength : start.toList.length = route.toList.length := by
    have hchars := congrArg (fun text => text.toList.length) hlower
    simp only [Text.toList_lower, List.length_map] at hchars
    exact hchars.symm
  rw [startsIgnoringCase, String.toList_append, hlength, List.take_left, List.drop_left,
    String.ofList_toList]
  exact ⟨h, rfl⟩

/-- The characters of a text that begins with another up to case. -/
theorem take_of_startsIgnoringCase {text start : String}
    (h : startsIgnoringCase text start = true) :
    (text.toList.take start.toList.length).map Text.lowerChar =
      start.toList.map Text.lowerChar := by
  have hlower := congrArg String.toList (Text.sameName_iff.1 h)
  rw [Text.toList_lower, Text.toList_lower, String.toList_ofList] at hlower
  exact hlower

/-- What is computed of the routes, the options and the schemes. -/
theorem routes_facts :
    Text.lower installSubscriptionRoute = installSubscriptionRoute ∧
    Text.lowerChar '?' ∉ installSubscriptionRoute.toList ∧
    addSubscriptionRoute.toList.length ≤ installSubscriptionRoute.toList.length ∧
    ¬(installSubscriptionRoute.toList.take addSubscriptionRoute.toList.length =
      addSubscriptionRoute.toList.map Text.lowerChar) ∧
    (∀ option ∈ ["--quiet-signal-preview", "--background"],
      (option.toList.map Text.lowerChar).head? ≠ some 'm') ∧
    ∀ scheme ∈ ["http://", "https://"], ':' ∈ scheme.toList.map Text.lowerChar := by
  decide +kernel

/-- An installer route is the route itself, up to case, with a slash or without. -/
theorem chars_of_isInstallRoute {route : String} (h : isInstallRoute route = true) :
    ∃ base slash, route.toList = base ++ slash ∧ (slash = [] ∨ slash = ['/']) ∧
      base.map Text.lowerChar = installSubscriptionRoute.toList := by
  obtain ⟨hlower, -⟩ := routes_facts
  have hchars := congrArg String.toList (Text.sameName_iff.1 h)
  rw [Text.toList_lower, hlower] at hchars
  cases hslash : Text.stripSuffix route "/" with
  | none =>
    rw [hslash, Option.getD_none] at hchars
    exact ⟨route.toList, [], (List.append_nil _).symm, Or.inl rfl, hchars⟩
  | some base =>
    rw [hslash, Option.getD_some] at hchars
    refine ⟨base.toList, ['/'], ?_, Or.inr rfl, hchars⟩
    rw [Text.eq_of_stripSuffix hslash, String.toList_append]
    rfl

/-- A character of an installer route is none of the characters after it. -/
theorem question_not_mem {route : String} (h : isInstallRoute route = true) :
    '?' ∉ route.toList := by
  obtain ⟨base, slash, hroute, hslash, hbase⟩ := chars_of_isInstallRoute h
  rw [hroute, List.mem_append]
  rintro (hmem | hmem)
  · have hlower := List.mem_map_of_mem (f := Text.lowerChar) hmem
    rw [hbase] at hlower
    exact routes_facts.2.1 hlower
  · rcases hslash with rfl | rfl
    · cases hmem
    · exact absurd hmem (by decide)

/-- An installer link is no add link. -/
theorem not_startsIgnoringCase_add {route : String} (h : isInstallRoute route = true)
    (rest : String) : startsIgnoringCase (route ++ rest) addSubscriptionRoute = false := by
  rw [← Bool.not_eq_true]
  intro hadd
  obtain ⟨base, slash, hroute, -, hbase⟩ := chars_of_isInstallRoute h
  have htake := take_of_startsIgnoringCase hadd
  obtain ⟨-, -, hroutes, hdiffer, -⟩ := routes_facts
  have hlength : addSubscriptionRoute.toList.length ≤ base.length := by
    have hbaseLength := congrArg List.length hbase
    rw [List.length_map] at hbaseLength
    rwa [hbaseLength]
  rw [String.toList_append, hroute, List.append_assoc, List.take_append_of_le_length hlength,
    List.map_take, hbase] at htake
  exact hdiffer htake

/-- A link is no option. -/
theorem parseLaunchArguments_link {argument : String}
    (h : (argument.toList.map Text.lowerChar).head? = some 'm') :
    parseLaunchArguments parse [.unicode argument] = parseLink parse argument := by
  have hne : ∀ option ∈ ["--quiet-signal-preview", "--background"],
      OsArgument.unicode argument ≠ .unicode option := by
    rintro option hoption heq
    cases heq
    exact routes_facts.2.2.2.2.1 _ hoption h
  rw [parseLaunchArguments, if_neg (hne _ List.mem_cons_self),
    if_neg (hne _ (List.mem_cons_of_mem _ List.mem_cons_self))]

/-- An installer link carries what its query spells. -/
theorem parseLaunchArguments_install {route query : String} (h : isInstallRoute route = true) :
    parseLaunchArguments parse [.unicode (route ++ ("?" ++ query))] =
      match Text.stripPrefix query "url=" with
      | none => .error "installer URI must contain one subscription URL"
      | some encoded =>
        match decodePercentEncodedUrl encoded with
        | .error error => .error error
        | .ok url => deepLinkSubscription parse url := by
  have hhead : ((route ++ ("?" ++ query)).toList.map Text.lowerChar).head? = some 'm' := by
    obtain ⟨base, slash, hroute, -, hbase⟩ := chars_of_isInstallRoute h
    rw [String.toList_append, hroute, List.map_append, List.map_append, hbase]
    rfl
  have hsplit := Text.splitOnce_append (question_not_mem h) query
  rw [parseLaunchArguments_link hhead, parseLink, not_startsIgnoringCase_add h]
  simp only [Bool.false_eq_true, if_false]
  rw [show "?" ++ query = String.singleton '?' ++ query from rfl, hsplit]
  simp only [h, Bool.not_true, Bool.false_eq_true, if_false]

/-- An add link carries its target, as it is or decoded. -/
theorem parseLaunchArguments_add {route : String}
    (h : Text.sameName route addSubscriptionRoute = true) (target : String) :
    parseLaunchArguments parse [.unicode (route ++ target)] =
      if isRaw target then deepLinkSubscription parse target
      else
        match decodePercentEncodedUrl target with
        | .error error => .error error
        | .ok url => deepLinkSubscription parse url := by
  obtain ⟨hstarts, hdrop⟩ := startsIgnoringCase_append h target
  have hhead : ((route ++ target).toList.map Text.lowerChar).head? = some 'm' := by
    have hlower := congrArg String.toList (Text.sameName_iff.1 h)
    rw [Text.toList_lower] at hlower
    rw [String.toList_append, List.map_append, hlower]
    rfl
  rw [parseLaunchArguments_link hhead, parseLink, if_pos hstarts, hdrop, String.ofList_toList]

/-- A spelling is not taken for a text as it is. -/
theorem isRaw_of_encodes (h : PercentEncodes encoded url) : isRaw encoded = false := by
  have hnot : ∀ start ∈ ["http://", "https://"], startsIgnoringCase encoded start = false := by
    intro start hscheme
    have hstart := routes_facts.2.2.2.2.2 start hscheme
    rw [← Bool.not_eq_true]
    intro hstarts
    rw [← take_of_startsIgnoringCase hstarts] at hstart
    obtain ⟨c, hc, hcolon⟩ := List.mem_map.1 hstart
    rw [Text.lowerChar_eq_iff (by decide)] at hcolon
    exact colon_not_mem h (hcolon ▸ List.mem_of_mem_take hc)
  rw [isRaw, hnot _ List.mem_cons_self, hnot _ (List.mem_cons_of_mem _ List.mem_cons_self),
    Bool.or_self]

end Links

/-- An accepted address is carried by every link with a spelling of it, in its percent-encoding or
any other, and by every add link with the address as it is where that begins with `http://` or
`https://`. And an installer link is accepted only with the one parameter of an address, spelled by
unreserved characters and escapes of UTF-8. -/
theorem deep_links_decode {parse : String → Option ParsedUrl} (hparse : ReadsSchemes parse) :
    (∀ url launch, deepLinkSubscription parse url = .ok launch →
      (∀ encoded, encoded = percentEncoding url ∨ PercentEncodes encoded url →
        (∀ route, isInstallRoute route = true →
          parseLaunchArguments parse [.unicode (route ++ ("?" ++ ("url=" ++ encoded)))] =
            .ok ⟨.foreground, some url⟩) ∧
        ∀ route, Text.sameName route addSubscriptionRoute = true →
          parseLaunchArguments parse [.unicode (route ++ encoded)] =
            .ok ⟨.foreground, some url⟩) ∧
      (isRaw url = true → ∀ route, Text.sameName route addSubscriptionRoute = true →
        parseLaunchArguments parse [.unicode (route ++ url)] = .ok ⟨.foreground, some url⟩)) ∧
    ∀ argument route query launch, Text.splitOnce '?' argument = some (route, query) →
      isInstallRoute route = true → parseLaunchArguments parse [.unicode argument] = .ok launch →
        ∃ encoded bytes url, query = "url=" ++ encoded ∧ launch = ⟨.foreground, some url⟩ ∧
          Percent.Spells isUnreserved (Utf8.encode encoded.toList) bytes ∧
          Utf8.fromUtf8 bytes = some url.toList := by
  constructor
  · intro url launch hlaunch
    obtain ⟨rfl, parsed, hparsed⟩ := deepLinkSubscription_eq_ok hlaunch
    have hcolon := hparse url parsed hparsed
    constructor
    · intro encoded hencoded
      have hencodes : PercentEncodes encoded url := by
        rcases hencoded with rfl | hencodes
        · exact encodes_percentEncoding url
        · exact hencodes
      have hdecoded := decodePercentEncodedUrl_of_encodes hencodes hcolon
      constructor
      · intro route hroute
        rw [parseLaunchArguments_install hroute, Text.stripPrefix_append]
        simp only [hdecoded]
        exact hlaunch
      · intro route hroute
        rw [parseLaunchArguments_add hroute, isRaw_of_encodes hencodes]
        simp only [Bool.false_eq_true, if_false, hdecoded]
        exact hlaunch
    · intro hraw route hroute
      rw [parseLaunchArguments_add hroute, if_pos hraw]
      exact hlaunch
  · intro argument route query launch hsplit hroute hlaunch
    obtain ⟨rfl, -⟩ := Text.eq_of_splitOnce hsplit
    have hinstall : parseLaunchArguments parse [.unicode (route ++ ("?" ++ query))] = _ :=
      parseLaunchArguments_install hroute
    rw [show String.singleton '?' = "?" from rfl, hinstall] at hlaunch
    cases hquery : Text.stripPrefix query "url=" with
    | none =>
      simp only [hquery] at hlaunch
      cases hlaunch
    | some encoded =>
      simp only [hquery] at hlaunch
      cases hdecoded : decodePercentEncodedUrl encoded with
      | error error =>
        simp only [hdecoded] at hlaunch
        cases hlaunch
      | ok url =>
        simp only [hdecoded] at hlaunch
        obtain ⟨bytes, hspells, htext⟩ := spells_of_decodePercentEncodedUrl hdecoded
        exact ⟨encoded, bytes, url, Text.eq_of_stripPrefix hquery,
          (deepLinkSubscription_eq_ok hlaunch).1, hspells, htext⟩

/-- What the parser tells of an address with slashes, and of one without them. -/
def parseSample (url : String) : Option ParsedUrl :=
  if url = "https://example.com/sub" || url = "https:example.com/sub" then
    some ⟨"https", some "example.com", none⟩
  else none

/-- What is computed of the two addresses. -/
theorem sample_facts :
    (∀ url ∈ ["https://example.com/sub", "https:example.com/sub"], ':' ∈ url.toList) ∧
    deepLinkSubscription parseSample "https://example.com/sub" =
      .ok ⟨.foreground, some "https://example.com/sub"⟩ ∧
    isInstallRoute "MultiCore://install-sub/" = true ∧
    isRaw "https://example.com/sub" = true ∧
    Text.sameName "multicore://add/" addSubscriptionRoute = true ∧
    deepLinkSubscription parseSample "https:example.com/sub" =
      .ok ⟨.foreground, some "https:example.com/sub"⟩ ∧
    ¬(parseLaunchArguments parseSample [.unicode (addSubscriptionRoute ++ "https:example.com/sub")] =
      .ok ⟨.foreground, some "https:example.com/sub"⟩) := by
  decide +kernel

theorem readsSchemes_parseSample : ReadsSchemes parseSample := by
  intro url parsed h
  rw [parseSample] at h
  split_ifs at h with hurl
  rw [Bool.or_eq_true, decide_eq_true_eq, decide_eq_true_eq] at hurl
  rcases hurl with rfl | rfl
  · exact sample_facts.1 _ List.mem_cons_self
  · exact sample_facts.1 _ (List.mem_cons_of_mem _ List.mem_cons_self)

theorem deep_links_decode_sample :
    parseLaunchArguments parseSample [.unicode ("MultiCore://install-sub/" ++ ("?" ++ ("url=" ++
        percentEncoding "https://example.com/sub")))] =
      .ok ⟨.foreground, some "https://example.com/sub"⟩ ∧
    parseLaunchArguments parseSample [.unicode ("multicore://add/" ++ "https://example.com/sub")] =
      .ok ⟨.foreground, some "https://example.com/sub"⟩ :=
  have ⟨_, haccepted, hinstall, hraw, hadd, _⟩ := sample_facts
  have hlinks := (deep_links_decode readsSchemes_parseSample).1 _ _ haccepted
  ⟨(hlinks.1 _ (Or.inl rfl)).1 _ hinstall, hlinks.2 hraw _ hadd⟩

/-- An address without slashes is accepted, yet an add link with it as it is is not. -/
theorem raw_link_refused :
    ¬ ∀ parse, ReadsSchemes parse → ∀ url launch, deepLinkSubscription parse url = .ok launch →
      parseLaunchArguments parse [.unicode (addSubscriptionRoute ++ url)] =
        .ok ⟨.foreground, some url⟩ := by
  intro hall
  obtain ⟨-, -, -, -, -, haccepted, hrefused⟩ := sample_facts
  exact hrefused (hall parseSample readsSchemes_parseSample "https:example.com/sub"
    ⟨.foreground, some "https:example.com/sub"⟩ haccepted)

end MultiCore.Desktop
