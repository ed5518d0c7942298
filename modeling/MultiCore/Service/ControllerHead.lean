import MultiCore.Service.ControllerPaths
import MultiCore.Service.MihomoRest

/-!
# The heads that the controller proxy reads and writes

The proxy reads the head of one request, checks it, and writes a head of its own for the
controller: with the secret in place of the client's credentials, and with framing of
its own.
-/

namespace MultiCore.Service.ControllerProxy

open Text (lowerChar pieces splitOnceAt)

/-- `MAX_HEAD_BYTES`, 16 KiB. -/
def maxHeadBytes : Nat := 16 * 1024

/-- `MAX_BODY_BYTES`, 64 KiB. -/
def maxBodyBytes : Nat := 64 * 1024

/-- Request headers passed on; everything else is dropped and rebuilt by the proxy. -/
def forwardedHeaders : List (List Char) :=
  ["accept", "accept-encoding", "accept-language", "cache-control", "content-type", "origin",
    "pragma", "user-agent", "sec-websocket-extensions", "sec-websocket-key",
    "sec-websocket-protocol", "sec-websocket-version"].map String.toList

/-- Where the controller listens, its secret, and the token of this endpoint. -/
structure Settings where
  upstreamPort : Nat
  upstreamSecret : List Char
  token : List Char
  deriving DecidableEq, Repr

/-- A secret of 32 drawn bytes, in hexadecimal digits. -/
def randomSecret (bytes : List UInt8) : List Char :=
  bytes.flatMap fun byte => Text.hexadecimal 2 byte.toNat

/-- The settings that the service starts the proxy with. -/
structure Settings.Drawn (settings : Settings) : Prop where
  secret : ∃ bytes : List UInt8, bytes.length = 32 ∧ settings.upstreamSecret = randomSecret bytes
  token : ∃ bytes : List UInt8, bytes.length = 32 ∧ settings.token = randomSecret bytes

/-- A request line that parsed, with the headers of its head. -/
structure Request where
  method : List Char
  path : List Char
  query : Option (List Char)
  headers : List (List Char × List Char)
  deriving DecidableEq, Repr

/-- Two texts are the same but for the case of their ASCII letters. -/
def eqIgnoreAsciiCase (s t : List Char) : Bool := s.map lowerChar == t.map lowerChar

namespace Request

/-- The headers of a name. -/
def named (request : Request) (name : List Char) : List (List Char × List Char) :=
  request.headers.filter fun header => eqIgnoreAsciiCase header.1 name

/-- The value of the first header of a name. -/
def header (request : Request) (name : String) : Option (List Char) :=
  (request.headers.find? fun header => eqIgnoreAsciiCase header.1 name.toList).map Prod.snd

/-- How often the head names a header. -/
def headerCount (request : Request) (name : String) : Nat := (request.named name.toList).length

end Request

/-- Why a request is refused. -/
inductive Rejection where
  | badRequest
  | unauthorized
  | forbidden
  | tooLarge
  | badGateway
  deriving DecidableEq, Repr

/-! ## Reading a head -/

/-- The lines of a head, between its line ends. -/
def headLines : List Char → List (List Char)
  | '\r' :: '\n' :: rest => [] :: headLines rest
  | c :: rest =>
    match headLines rest with
    | line :: lines => (c :: line) :: lines
    | [] => [[c]]
  | [] => [[]]

/-- `u8::is_ascii_uppercase`. -/
def isAsciiUppercase (c : Char) : Bool := 'A'.toNat ≤ c.toNat && c.toNat ≤ 'Z'.toNat

/-- The characters of a header's name. -/
def isTokenChar (c : Char) : Bool :=
  c.isAlphanum || c ∈ "!#$%&'*+-.^_`|~".toList

/-- A space or a tab. -/
def isBlank (c : Char) : Bool := c = ' ' || c = '\t'

/-- A value without the blanks around it. -/
def trimBlanks (text : List Char) : List Char := (text.dropWhile isBlank).rdropWhile isBlank

/-- A control character of ASCII other than the tab. -/
def isForbiddenControl (c : Char) : Bool := (c.toNat < 0x20 || c.toNat = 0x7F) && c ≠ '\t'

/-- One header: a token before the colon, a value without control characters. -/
def parseHeader (line : List Char) : Option (List Char × List Char) :=
  match splitOnceAt [':'] line with
  | none => none
  | some (name, rest) =>
    if name = [] || !name.all isTokenChar then none
    else
      let value := trimBlanks rest
      if value.any isForbiddenControl then none else some (name, value)

/-- The versions of HTTP that are served. -/
def versions : List (List Char) := ["HTTP/1.1".toList, "HTTP/1.0".toList]

/-- The path and the query of a target. -/
def splitTarget (target : List Char) : List Char × Option (List Char) :=
  match splitOnceAt ['?'] target with
  | some (path, query) => (path, some query)
  | none => (target, none)

local instance lawfulChars : LawfulBEq (List Char) := inferInstance

/-- `parse_head`: one request line, then the headers. -/
def parseHead (head : List Char) : Option Request :=
  match headLines head with
  | [] => none
  | first :: lines =>
    match pieces (· == ' ') first with
    | [method, target, version] =>
      if method = [] || !method.all isAsciiUppercase || version ∉ versions then none
      else do
        let headers ← lines.mapM parseHeader
        some ⟨method, (splitTarget target).1, (splitTarget target).2, headers⟩
    | _ => none

/-! ## What is allowed -/

/-- Compares two texts in a time that does not depend on where they differ. -/
def sameSecret (presented expected : List Char) : Bool :=
  let presented := Utf8.encode presented
  let expected := Utf8.encode expected
  presented.length = expected.length &&
    (List.zip presented expected).foldl (fun acc pair => acc ||| (pair.1 ^^^ pair.2)) 0 = 0

/-- The token is presented in a header, or in the query as browsers do. -/
def authorised (request : Request) (token : List Char) : Bool :=
  let bearer := (((request.header "authorization").bind (splitOnceAt [' '])).filter fun parts =>
    eqIgnoreAsciiCase parts.1 "bearer".toList).any fun parts =>
      sameSecret (Text.trimmed parts.2) token
  let query := request.query.any fun query =>
    ((pieces (· == '&') query).filterMap fun pair =>
      if "token=".toList.isPrefixOf pair then some (pair.drop "token=".toList.length)
      else none).any fun presented => sameSecret presented token
  bearer || query

/-- What a query may hold. -/
def isQueryChar (c : Char) : Bool := 0x21 ≤ c.toNat && c.toNat ≤ 0x7E && c ≠ '#'

/-- Whether a pair of the query is passed on. -/
def keepsPair (pair : List Char) : Bool :=
  pair ≠ [] && pair ≠ "token".toList && !"token=".toList.isPrefixOf pair

/-- The query that the controller receives: checked, and without any token. -/
def forwardedQuery : Option (List Char) → Option (List Char)
  | none => some []
  | some query =>
    if !query.all isQueryChar then none
    else
      let kept := (pieces (· == '&') query).filter keepsPair
      some (if kept = [] then [] else '?' :: ['&'].intercalate kept)

/-- The paths that Mihomo answers with an endless stream. -/
def isStreaming (segments : List String) : Bool :=
  segments ∈ [["connections"], ["traffic"], ["memory"], ["logs"]]

/-- The allow-list. Everything else is forbidden. -/
def isAllowed (method : String) (segments : List String) (websocket : Bool) : Bool :=
  if websocket then method = "GET" && isStreaming segments
  else if method = "GET" then
    (match segments with
      | [only] => only ∈ ["version", "proxies", "group", "rules", "configs"]
      | ["providers", kind] => kind ∈ ["proxies", "rules"]
      | [kind, _] => kind ∈ ["proxies", "group"]
      | ["providers", "proxies", _] => true
      | [kind, _, "delay"] => kind ∈ ["proxies", "group"]
      | ["providers", "proxies", _, _] => true
      | ["providers", "proxies", _, _, "healthcheck"] => true
      | _ => false) || isStreaming segments
  else if method = "PUT" then
    match segments with
    | ["proxies", _] => true
    | _ => false
  else method = "DELETE" && segments = ["connections"]

/-! ## Writing a head -/

/-- `\r\n`. -/
def lineEnd : List Char := ['\r', '\n']

/-- A header as it is sent, without its line end. -/
def headerLine (header : List Char × List Char) : List Char :=
  header.1 ++ ": ".toList ++ header.2

/-- Whether a client's header reaches the controller. -/
def isForwarded (header : List Char × List Char) : Bool :=
  forwardedHeaders.any fun allowed => eqIgnoreAsciiCase header.1 allowed

/-- Whether the length of the body is told. -/
def carriesLength (method : List Char) (length : Nat) : Bool :=
  0 < length || method ∈ ["PUT".toList, "POST".toList, "PATCH".toList]

/-- The headers that the proxy writes before those it passes on. -/
def leadingHeaders (settings : Settings) : List (List Char × List Char) :=
  [("Host".toList, "127.0.0.1:".toList ++ Nat.toDigits 10 settings.upstreamPort),
    ("Authorization".toList, "Bearer ".toList ++ settings.upstreamSecret)]

/-- The headers that the proxy writes behind those. -/
def framingHeaders (method : List Char) (websocket : Bool) (length : Nat) :
    List (List Char × List Char) :=
  (if websocket then
    [("Connection".toList, "Upgrade".toList), ("Upgrade".toList, "websocket".toList)]
  else [("Connection".toList, "close".toList)]) ++
  if carriesLength method length then [("Content-Length".toList, Nat.toDigits 10 length)] else []

/-- The headers of the head that is written. -/
def upstreamHeaders (settings : Settings) (request : Request) (websocket : Bool) (length : Nat) :
    List (List Char × List Char) :=
  leadingHeaders settings ++ request.headers.filter isForwarded ++
    framingHeaders request.method websocket length

/-- The first line that is sent to the controller. -/
def requestLine (method path query : List Char) : List Char :=
  method ++ [' '] ++ path ++ query ++ " HTTP/1.1".toList

/-- The head that the controller is sent, with the blank line behind it. -/
def upstreamHead (settings : Settings) (request : Request) (query : List Char) (websocket : Bool)
    (length : Nat) : List Char :=
  requestLine request.method request.path query ++ lineEnd ++
    (upstreamHeaders settings request websocket length).flatMap (headerLine · ++ lineEnd) ++ lineEnd

/-! ## Lines -/

/-- A character of a line goes to the first line. -/
theorem headLines_cons {c : Char} (hc : c ≠ '\r') (rest : List Char) :
    ∃ line lines, headLines rest = line :: lines ∧
      headLines (c :: rest) = (c :: line) :: lines := by
  have hne : headLines rest ≠ [] := by
    unfold headLines
    split
    · exact List.cons_ne_nil _ _
    · split <;> exact List.cons_ne_nil _ _
    · exact List.cons_ne_nil _ _
  obtain ⟨line, lines, hlines⟩ := List.exists_cons_of_ne_nil hne
  refine ⟨line, lines, hlines, ?_⟩
  rw [headLines, hlines]
  rintro tail rfl -
  exact hc rfl

/-- A line without its end is the only one. -/
theorem headLines_line {line : List Char} (h : '\r' ∉ line) : headLines line = [line] := by
  induction line with
  | nil => rfl
  | cons c line ih =>
    obtain ⟨first, others, hrest, hcons⟩ := headLines_cons (List.ne_of_not_mem_cons h).symm line
    rw [ih (List.not_mem_of_not_mem_cons h)] at hrest
    obtain ⟨rfl, rfl⟩ := List.cons.inj hrest
    exact hcons

/-- A line and its end are cut off the rest. -/
theorem headLines_append {line : List Char} (h : '\r' ∉ line) (rest : List Char) :
    headLines (line ++ lineEnd ++ rest) = line :: headLines rest := by
  induction line with
  | nil => rfl
  | cons c line ih =>
    obtain ⟨first, others, hrest, hcons⟩ :=
      headLines_cons (List.ne_of_not_mem_cons h).symm (line ++ lineEnd ++ rest)
    rw [ih (List.not_mem_of_not_mem_cons h)] at hrest
    obtain ⟨rfl, rfl⟩ := List.cons.inj hrest
    exact hcons

/-- Lines with their ends between them. -/
def joinLines (first : List Char) (lines : List (List Char)) : List Char :=
  first ++ lines.flatMap (lineEnd ++ ·)

/-- Lines that are joined are cut apart again. -/
theorem headLines_joinLines {first : List Char} {lines : List (List Char)} (hfirst : '\r' ∉ first)
    (h : ∀ line ∈ lines, '\r' ∉ line) : headLines (joinLines first lines) = first :: lines := by
  induction lines generalizing first with
  | nil =>
    rw [joinLines, List.flatMap_nil, List.append_nil]
    exact headLines_line hfirst
  | cons line lines ih =>
    have hjoin : joinLines first (line :: lines) = first ++ lineEnd ++ joinLines line lines := by
      simp only [joinLines, List.flatMap_cons, List.append_assoc]
    rw [hjoin, headLines_append hfirst,
      ih (h line List.mem_cons_self) fun other hmem => h other (List.mem_cons_of_mem _ hmem)]

/-! ## Headers -/

/-- A trimmed value starts with no blank. -/
theorem dropWhile_trimBlanks (text : List Char) :
    ((text.dropWhile isBlank).rdropWhile isBlank).dropWhile isBlank =
      (text.dropWhile isBlank).rdropWhile isBlank := by
  rw [List.dropWhile_eq_self_iff]
  intro hlength
  have hprefix := List.rdropWhile_prefix isBlank (text.dropWhile isBlank)
  have hget := hprefix.getElem hlength
  rw [hget]
  exact List.dropWhile_get_zero_not isBlank text _

/-- Trimming twice is trimming once. -/
theorem trimBlanks_trimBlanks (text : List Char) :
    trimBlanks (trimBlanks text) = trimBlanks text := by
  unfold trimBlanks
  rw [dropWhile_trimBlanks, List.rdropWhile_idempotent]

/-- A header that can be written and read again. -/
structure Clean (header : List Char × List Char) : Prop where
  named : header.1 ≠ []
  token : ∀ c ∈ header.1, isTokenChar c = true
  trimmed : trimBlanks header.2 = header.2
  printable : ∀ c ∈ header.2, isForbiddenControl c = false

/-- The first separator splits. -/
theorem splitOnceAt_single {separator : Char} {before : List Char} (h : separator ∉ before)
    (rest : List Char) :
    splitOnceAt [separator] (before ++ separator :: rest) = some (before, rest) := by
  induction before with
  | nil => simp [splitOnceAt]
  | cons c before ih =>
    have hc : separator ≠ c := List.ne_of_not_mem_cons h
    rw [List.cons_append, splitOnceAt, ih (List.not_mem_of_not_mem_cons h)]
    simp [List.isPrefixOf, hc]

/-- Without a separator there is no split. -/
theorem splitOnceAt_none {separator : Char} {text : List Char} (h : separator ∉ text) :
    splitOnceAt [separator] text = none := by
  induction text with
  | nil => rfl
  | cons c text ih =>
    have hc : separator ≠ c := List.ne_of_not_mem_cons h
    rw [splitOnceAt, ih (List.not_mem_of_not_mem_cons h)]
    simp [List.isPrefixOf, hc]

/-- What is read of a line is clean. -/
theorem clean_of_parseHeader {line : List Char} {header : List Char × List Char}
    (h : parseHeader line = some header) : Clean header := by
  unfold parseHeader at h
  split at h
  · exact nomatch h
  · next name rest _ =>
    dsimp only at h
    split_ifs at h with hname hvalue
    obtain rfl := Option.some.inj h
    simp only [Bool.or_eq_true, decide_eq_true_eq, Bool.not_eq_true', not_or,
      Bool.not_eq_false, List.all_eq_true] at hname
    simp only [List.any_eq_true, not_exists, not_and, Bool.not_eq_true] at hvalue
    exact ⟨hname.1, hname.2, trimBlanks_trimBlanks rest, hvalue⟩

/-- A name has no colon. -/
theorem colon_notMem {name : List Char} (h : ∀ c ∈ name, isTokenChar c = true) : ':' ∉ name := by
  intro hmem
  have hcolon := h ':' hmem
  exact absurd hcolon (by decide +kernel)

/-- A clean header is read from its line. -/
theorem parseHeader_headerLine {header : List Char × List Char} (h : Clean header) :
    parseHeader (headerLine header) = some header := by
  have hline : headerLine header = header.1 ++ ':' :: ' ' :: header.2 := by
    rw [headerLine, List.append_assoc]
    rfl
  have htrim : trimBlanks (' ' :: header.2) = header.2 := h.trimmed
  have hname : (decide (header.1 = []) || !header.1.all isTokenChar) = false := by
    simp only [Bool.or_eq_false_iff, decide_eq_false_iff_not, Bool.not_eq_false', List.all_eq_true]
    exact ⟨h.named, h.token⟩
  have hvalue : header.2.any isForbiddenControl = false := by
    simp only [List.any_eq_false, Bool.not_eq_true]
    exact h.printable
  unfold parseHeader
  rw [hline, splitOnceAt_single (colon_notMem h.token)]
  dsimp only
  rw [hname, htrim, hvalue]
  rfl

/-- A header's line has no carriage return. -/
theorem return_notMem_headerLine {header : List Char × List Char} (h : Clean header) :
    '\r' ∉ headerLine header := by
  rw [headerLine, List.mem_append, List.mem_append]
  rintro ((hmem | hmem) | hmem)
  · exact absurd (h.token _ hmem) (by decide +kernel)
  · revert hmem
    decide +kernel
  · exact absurd (h.printable _ hmem) (by decide)

/-- Headers that parsed are clean. -/
theorem clean_of_mapM {lines : List (List Char)} {headers : List (List Char × List Char)}
    (h : lines.mapM parseHeader = some headers) : ∀ header ∈ headers, Clean header := by
  induction lines generalizing headers with
  | nil =>
    obtain rfl := Option.some.inj h
    exact fun _ hmem => nomatch hmem
  | cons line lines ih =>
    rw [List.mapM_cons] at h
    simp only [Option.bind_eq_bind, Option.bind_eq_some_iff, Option.pure_def, Option.some_inj] at h
    obtain ⟨first, hfirst, rest, hrest, rfl⟩ := h
    intro header hmem
    rcases List.mem_cons.1 hmem with rfl | hmem
    · exact clean_of_parseHeader hfirst
    · exact ih hrest header hmem

/-- Clean headers parse from their lines. -/
theorem mapM_headerLine {headers : List (List Char × List Char)}
    (h : ∀ header ∈ headers, Clean header) :
    (headers.map headerLine).mapM parseHeader = some headers := by
  induction headers with
  | nil => rfl
  | cons header headers ih =>
    rw [List.map_cons, List.mapM_cons, parseHeader_headerLine (h header List.mem_cons_self),
      ih fun other hmem => h other (List.mem_cons_of_mem _ hmem)]
    rfl

/-! ## Targets -/

/-- What is in joined parts is the separator or in a part. -/
theorem mem_intercalate {α : Type} {separator a : α} {parts : List (List α)}
    (h : a ∈ [separator].intercalate parts) : a = separator ∨ ∃ part ∈ parts, a ∈ part := by
  induction parts with
  | nil => exact nomatch h
  | cons part parts ih =>
    by_cases hparts : parts = []
    · rw [hparts, List.intercalate_singleton] at h
      exact Or.inr ⟨part, List.mem_cons_self, h⟩
    · rw [List.intercalate_cons_of_ne_nil hparts, List.mem_append, List.mem_append] at h
      rcases h with (h | h) | h
      · exact Or.inr ⟨part, List.mem_cons_self, h⟩
      · exact Or.inl (List.mem_singleton.1 h)
      · obtain hself | ⟨other, hmem, ha⟩ := ih h
        · exact Or.inl hself
        · exact Or.inr ⟨other, List.mem_cons_of_mem _ hmem, ha⟩

/-- A spelling has raw bytes, signs and hexadecimal digits only. -/
theorem mem_of_spells {raw : UInt8 → Bool} {spelling bytes : List UInt8}
    (h : Percent.Spells raw spelling bytes) :
    ∀ b ∈ spelling, raw b = true ∨ b = Percent.sign ∨ ∃ x, Percent.hexValue b = some x := by
  induction h with
  | nil => exact fun _ hb => nomatch hb
  | plain hplain _ _ ih =>
    intro b hb
    rcases List.mem_cons.1 hb with rfl | hb
    · exact Or.inl hplain
    · exact ih b hb
  | escape hhigh hlow _ ih =>
    intro b hb
    simp only [List.mem_cons] at hb
    rcases hb with rfl | rfl | rfl | hb
    · exact Or.inr (Or.inl rfl)
    · exact Or.inr (Or.inr ⟨_, hhigh⟩)
    · exact Or.inr (Or.inr ⟨_, hlow⟩)
    · exact ih b hb

/-- Every raw segment has its text. -/
theorem exists_segment {raws : List (List UInt8)} {segments : List (List Char)}
    (h : List.Forall₂ (Segment isRawByte isSeparator) raws segments) {raw : List UInt8}
    (hraw : raw ∈ raws) : ∃ text, Segment isRawByte isSeparator raw text := by
  induction h with
  | nil => exact nomatch hraw
  | cons hsegment _ ih =>
    rcases List.mem_cons.1 hraw with rfl | hraw
    · exact ⟨_, hsegment⟩
    · exact ih hraw

/-- The bytes of a segment's spelling are printable, and neither start a query nor a fragment. -/
theorem spelled_bounds {b : UInt8}
    (h : isRawByte b = true ∨ b = Percent.sign ∨ ∃ x, Percent.hexValue b = some x) :
    0x21 ≤ b.toNat ∧ b.toNat ≤ 0x7E ∧ b.toNat ≠ 0x3F ∧ b.toNat ≠ 0x23 := by
  have hne : ∀ n, n < 256 → b ≠ UInt8.ofNat n → b.toNat ≠ n := by
    rintro n hn hb rfl
    exact hb UInt8.ofNat_toNat.symm
  rcases h with hraw | rfl | ⟨x, hx⟩
  · simp only [isRawByte, Bool.and_eq_true, decide_eq_true_eq, Bool.not_eq_true',
      Bool.or_eq_false_iff, beq_eq_false_iff_ne] at hraw
    obtain ⟨⟨hlow, hhigh⟩, ⟨-, hquestion⟩, hhash⟩ := hraw
    exact ⟨hlow, hhigh, hne 0x3F (by decide) hquestion, hne 0x23 (by decide) hhash⟩
  · decide
  · obtain ⟨hhigh, -, hlow⟩ := Percent.hexValue_bounds hx
    have hdigit : ∀ n, Percent.hexValue (UInt8.ofNat n) = none → b ≠ UInt8.ofNat n := by
      rintro n hn rfl
      exact nomatch hn.symm.trans hx
    have hdelete := hne 0x7F (by decide) (hdigit 0x7F rfl)
    exact ⟨by omega, by omega, hne 0x3F (by decide) (hdigit 0x3F rfl),
      hne 0x23 (by decide) (hdigit 0x23 rfl)⟩

/-- The characters of a path that is taken may stand in a query, and none starts one. -/
theorem isQueryChar_of_path {path : List Char} {segments : List (List Char)}
    (h : pathSegments (Utf8.encode path) = some segments) {c : Char} (hc : c ∈ path) :
    isQueryChar c = true ∧ c ≠ '?' := by
  have hbytes : ∀ b ∈ Utf8.encode path,
      0x21 ≤ b.toNat ∧ b.toNat ≤ 0x7E ∧ b.toNat ≠ 0x3F ∧ b.toNat ≠ 0x23 := by
    have hslash : 0x21 ≤ slash.toNat ∧ slash.toNat ≤ 0x7E ∧ slash.toNat ≠ 0x3F ∧
        slash.toNat ≠ 0x23 := by decide
    rcases pathSegments_iff.1 h with ⟨hroot, -⟩ | ⟨rest, hpath, hsegments⟩
    · rw [hroot]
      intro b hb
      exact List.mem_singleton.1 hb ▸ hslash
    · rw [hpath]
      intro b hb
      rcases List.mem_cons.1 hb with rfl | hb
      · exact hslash
      · have hjoined : [slash].intercalate (rest.splitOn slash) = rest :=
          List.intercalate_splitOn slash
        rw [← hjoined] at hb
        rcases mem_intercalate hb with rfl | ⟨piece, hpiece, hb⟩
        · exact hslash
        · obtain ⟨text, hsegment⟩ := exists_segment hsegments hpiece
          obtain ⟨bytes, hspells, -⟩ := hsegment.spelled
          exact spelled_bounds (mem_of_spells hspells b hb)
  obtain ⟨hascii, hmem⟩ :=
    Utf8.ascii_of_encode (fun b hb => Nat.lt_succ_of_le ((hbytes b hb).2.1.trans (by decide))) hc
  have hbounds := hbytes _ hmem
  rw [UInt8.toNat_ofNat', Nat.mod_eq_of_lt (by omega)] at hbounds
  have hne : ∀ d : Char, c.toNat ≠ d.toNat → c ≠ d := fun d hd heq => hd (heq ▸ rfl)
  refine ⟨?_, hne '?' hbounds.2.2.1⟩
  simp only [isQueryChar, Bool.and_eq_true, decide_eq_true_eq]
  exact ⟨⟨hbounds.1, hbounds.2.1⟩, hne '#' hbounds.2.2.2⟩

/-- The query that is sent: nothing, or a question mark and pairs to pass on. -/
theorem forwardedQuery_cases {query : Option (List Char)} {sent : List Char}
    (h : forwardedQuery query = some sent) :
    sent = [] ∨ ∃ kept, sent = '?' :: kept ∧ (∀ c ∈ kept, isQueryChar c = true) ∧
      ∀ pair ∈ pieces (· == '&') kept, keepsPair pair = true := by
  cases query with
  | none => exact Or.inl (Option.some.inj h).symm
  | some query =>
    rw [forwardedQuery] at h
    split_ifs at h with hchars
    rw [Bool.not_eq_true', Bool.not_eq_false, List.all_eq_true] at hchars
    dsimp only at h
    split_ifs at h with hkept
    · exact Or.inl (Option.some.inj h).symm
    · right
      refine ⟨_, (Option.some.inj h).symm, fun c hc => ?_, ?_⟩
      · rcases mem_intercalate hc with rfl | ⟨pair, hpair, hc⟩
        · decide
        · exact hchars c (Text.mem_pieces (List.mem_of_mem_filter hpair) c hc).1
      · rw [Text.pieces_intercalate hkept]
        · exact fun pair hpair => (List.mem_filter.1 hpair).2
        · intro pair hpair hand
          have hpiece := Text.mem_pieces (List.mem_of_mem_filter hpair) '&' hand
          exact absurd hpiece.2 (by decide)

/-- What is read of the query that is sent. -/
def sentQuery : List Char → Option (List Char)
  | [] => none
  | _ :: kept => some kept

/-- The target is read as the path and the query that it was made of. -/
theorem splitTarget_append {path sent : List Char} {query : Option (List Char)}
    (hpath : '?' ∉ path) (h : forwardedQuery query = some sent) :
    splitTarget (path ++ sent) = (path, sentQuery sent) := by
  rcases forwardedQuery_cases h with rfl | ⟨kept, rfl, -⟩
  · rw [splitTarget, List.append_nil, splitOnceAt_none hpath]
    rfl
  · rw [splitTarget, splitOnceAt_single hpath]
    rfl

/-- The characters of a query that is sent are printable. -/
theorem isQueryChar_of_sent {query : Option (List Char)} {sent : List Char}
    (h : forwardedQuery query = some sent) : ∀ c ∈ sent, isQueryChar c = true := by
  rcases forwardedQuery_cases h with rfl | ⟨kept, rfl, hkept, -⟩
  · exact fun _ hc => nomatch hc
  · intro c hc
    rcases List.mem_cons.1 hc with rfl | hc
    · decide
    · exact hkept c hc

/-- The request line has three words. -/
theorem pieces_requestLine {method path sent : List Char} (hmethod : ' ' ∉ method)
    (hpath : ' ' ∉ path) (hsent : ' ' ∉ sent) :
    pieces (· == ' ') (requestLine method path sent) =
      [method, path ++ sent, "HTTP/1.1".toList] := by
  have hwords : requestLine method path sent =
      [' '].intercalate [method, path ++ sent, "HTTP/1.1".toList] := by
    simp only [requestLine, List.intercalate_cons_cons, List.intercalate_singleton,
      List.append_assoc]
    rfl
  rw [hwords, Text.pieces_intercalate (List.cons_ne_nil _ _)]
  intro word hword
  simp only [List.mem_cons, List.not_mem_nil, or_false] at hword
  rcases hword with rfl | rfl | rfl
  · exact hmethod
  · exact fun hmem => (List.mem_append.1 hmem).elim hpath hsent
  · decide

/-! ## The headers that are written -/

/-- Nothing is trimmed of a text without blanks at its ends. -/
theorem trimBlanks_self {text : List Char} (hfirst : ∀ c ∈ text.head?, isBlank c = false)
    (hlast : ∀ c ∈ text.getLast?, isBlank c = false) : trimBlanks text = text := by
  have hdrop : text.dropWhile isBlank = text := by
    cases text with
    | nil => rfl
    | cons c text => exact List.dropWhile_cons_of_neg (by simp [hfirst c rfl])
  rw [trimBlanks, hdrop, List.rdropWhile_eq_self_iff]
  intro hne
  rw [hlast _ (List.getLast?_eq_getLast_of_ne_nil hne)]
  decide

/-- A digit or a letter of a secret. -/
theorem mem_randomSecret {bytes : List UInt8} {c : Char} (h : c ∈ randomSecret bytes) :
    0x30 ≤ c.toNat ∧ c.toNat ≤ 0x66 := by
  obtain ⟨byte, -, hc⟩ := List.mem_flatMap.1 h
  obtain ⟨hlow, hhigh, -⟩ := Text.range_of_mem_hexadecimal hc
  exact ⟨hlow, hhigh⟩

/-- A secret that was drawn is not empty. -/
theorem randomSecret_ne_nil {bytes : List UInt8} (h : bytes.length = 32) :
    randomSecret bytes ≠ [] := by
  cases bytes with
  | nil => exact absurd h (by decide)
  | cons byte bytes =>
    rw [randomSecret, List.flatMap_cons]
    intro hnil
    have hlength := congrArg List.length (List.append_eq_nil_iff.1 hnil).1
    rw [Text.length_hexadecimal] at hlength
    exact absurd hlength (by decide)

/-- A character that is seen is no blank and no control character. -/
theorem visible {c : Char} (h : 0x21 ≤ c.toNat ∧ c.toNat ≤ 0x7E) :
    isBlank c = false ∧ isForbiddenControl c = false := by
  have hspace : c ≠ ' ' ∧ c ≠ '\t' := by
    constructor
    · rintro rfl
      exact absurd h.1 (by decide)
    · rintro rfl
      exact absurd h.1 (by decide)
  constructor
  · rw [isBlank, decide_eq_false hspace.1, decide_eq_false hspace.2, Bool.or_self]
  · simp only [isForbiddenControl, Bool.and_eq_false_iff, Bool.or_eq_false_iff,
      decide_eq_false_iff_not]
    exact Or.inl ⟨by omega, by omega⟩

/-- A text without blanks and control characters. -/
theorem clean_of_visible {name value : List Char} (hnamed : name ≠ [])
    (htoken : ∀ c ∈ name, isTokenChar c = true)
    (hvalue : ∀ c ∈ value, 0x21 ≤ c.toNat ∧ c.toNat ≤ 0x7E) : Clean (name, value) := by
  refine ⟨hnamed, htoken, ?_, fun c hc => (visible (hvalue c hc)).2⟩
  exact trimBlanks_self (fun c hc => (visible (hvalue c (List.mem_of_mem_head? hc))).1)
    fun c hc => (visible (hvalue c (List.mem_of_mem_getLast? hc))).1

/-- Digits are visible. -/
theorem toDigits_visible {n : Nat} {c : Char} (h : c ∈ Nat.toDigits 10 n) :
    0x21 ≤ c.toNat ∧ c.toNat ≤ 0x7E := by
  have hdigit := Nat.isDigit_of_mem_toDigits (b := 10) (by decide) (by decide) h
  rw [Char.isDigit, Bool.and_eq_true, decide_eq_true_eq, decide_eq_true_eq] at hdigit
  have hlow : 48 ≤ c.toNat := hdigit.1
  have hhigh : c.toNat ≤ 57 := hdigit.2
  omega

/-- A character that stands in a text as it is written. -/
def isVisible (c : Char) : Bool := decide (0x21 ≤ c.toNat) && decide (c.toNat ≤ 0x7E)

/-- A value that was checked is visible. -/
theorem visible_of_all {value : List Char} (h : value.all isVisible = true) :
    ∀ c ∈ value, 0x21 ≤ c.toNat ∧ c.toNat ≤ 0x7E := by
  intro c hc
  have hvisible := List.all_eq_true.1 h c hc
  rwa [isVisible, Bool.and_eq_true, decide_eq_true_eq, decide_eq_true_eq] at hvisible

/-- The names of the headers that the proxy writes itself. -/
theorem written_names : ∀ name ∈ ["Host".toList, "Authorization".toList, "Connection".toList,
    "Upgrade".toList, "Content-Length".toList], name ≠ [] ∧ name.all isTokenChar = true := by
  decide

/-- A header whose name the proxy writes itself. -/
theorem clean_of_written {name value : List Char} (hnamed : name ∈ ["Host".toList,
      "Authorization".toList, "Connection".toList, "Upgrade".toList, "Content-Length".toList])
    (hvalue : ∀ c ∈ value, 0x21 ≤ c.toNat ∧ c.toNat ≤ 0x7E) : Clean (name, value) :=
  have hname := written_names name hnamed
  clean_of_visible hname.1 (List.all_eq_true.1 hname.2) hvalue

/-- The proxy's own headers are clean. -/
theorem clean_leadingHeaders {settings : Settings} (drawn : settings.Drawn) :
    ∀ header ∈ leadingHeaders settings, Clean header := by
  obtain ⟨bytes, hlength, hsecret⟩ := drawn.secret
  have hvisible : ∀ c ∈ settings.upstreamSecret,
      isBlank c = false ∧ isForbiddenControl c = false := by
    intro c hc
    rw [hsecret] at hc
    obtain ⟨hlow, hhigh⟩ := mem_randomSecret hc
    exact visible ⟨by omega, by omega⟩
  intro header hheader
  simp only [leadingHeaders, List.mem_cons, List.not_mem_nil, or_false] at hheader
  rcases hheader with rfl | rfl
  · have hhost : "127.0.0.1:".toList.all isVisible = true := by decide
    apply clean_of_written List.mem_cons_self
    intro c hc
    rcases List.mem_append.1 hc with hc | hc
    · exact visible_of_all hhost c hc
    · exact toDigits_visible hc
  · have hname := written_names "Authorization".toList
      (List.mem_cons_of_mem _ List.mem_cons_self)
    refine ⟨hname.1, List.all_eq_true.1 hname.2,
      trimBlanks_self (fun c hc => ?_) fun c hc => ?_, fun c hc => ?_⟩
    · obtain rfl := Option.some.inj hc
      decide
    · have hne : settings.upstreamSecret ≠ [] := by
        rw [hsecret]
        exact randomSecret_ne_nil hlength
      rw [List.getLast?_append_of_ne_nil _ hne] at hc
      exact (hvisible c (List.mem_of_mem_getLast? hc)).1
    · rcases List.mem_append.1 hc with hc | hc
      · have hbearer : "Bearer ".toList.any isForbiddenControl = false := by decide
        exact Bool.eq_false_iff.2 (List.any_eq_false.1 hbearer c hc)
      · exact (hvisible c hc).2

/-- The headers about the body are clean. -/
theorem clean_framingHeaders (method : List Char) (websocket : Bool) (length : Nat) :
    ∀ header ∈ framingHeaders method websocket length, Clean header := by
  have hconnection : ∀ value ∈ ["Upgrade".toList, "close".toList],
      Clean ("Connection".toList, value) := by
    intro value hvalue
    apply clean_of_written (by decide)
    rcases List.mem_pair.1 hvalue with rfl | rfl
    · exact visible_of_all (by decide)
    · exact visible_of_all (by decide)
  have hupgrade : Clean ("Upgrade".toList, "websocket".toList) :=
    clean_of_written (by decide) (visible_of_all (by decide))
  have hlength : Clean ("Content-Length".toList, Nat.toDigits 10 length) :=
    clean_of_written (by decide) fun c hc => toDigits_visible hc
  intro header hheader
  rw [framingHeaders] at hheader
  rcases List.mem_append.1 hheader with hheader | hheader
  · split_ifs at hheader
    · simp only [List.mem_cons, List.not_mem_nil, or_false] at hheader
      rcases hheader with rfl | rfl
      · exact hconnection _ List.mem_cons_self
      · exact hupgrade
    · rw [List.mem_singleton.1 hheader]
      exact hconnection _ (List.mem_cons_of_mem _ List.mem_cons_self)
  · split_ifs at hheader
    · rw [List.mem_singleton.1 hheader]
      exact hlength
    · exact nomatch hheader

/-- All headers that are sent are clean. -/
theorem clean_upstreamHeaders {settings : Settings} (drawn : settings.Drawn) {request : Request}
    (h : ∀ header ∈ request.headers, Clean header) (websocket : Bool) (length : Nat) :
    ∀ header ∈ upstreamHeaders settings request websocket length, Clean header := by
  intro header hheader
  rw [upstreamHeaders, List.mem_append, List.mem_append] at hheader
  rcases hheader with (hleading | hforwarded) | hframing
  · exact clean_leadingHeaders drawn header hleading
  · exact h header (List.mem_of_mem_filter hforwarded)
  · exact clean_framingHeaders _ _ _ header hframing

/-- The headers of a name that is not passed on are those that the proxy writes. -/
theorem named_upstreamHeaders {name : List Char}
    (hname : ∀ allowed ∈ forwardedHeaders, eqIgnoreAsciiCase allowed name = false)
    (settings : Settings) (request : Request) (websocket : Bool) (length : Nat) :
    (upstreamHeaders settings request websocket length).filter
        (fun header => eqIgnoreAsciiCase header.1 name) =
      (leadingHeaders settings ++ framingHeaders request.method websocket length).filter
        fun header => eqIgnoreAsciiCase header.1 name := by
  have hforwarded : (request.headers.filter isForwarded).filter
      (fun header => eqIgnoreAsciiCase header.1 name) = [] := by
    rw [List.filter_eq_nil_iff]
    intro header hheader hsame
    obtain ⟨allowed, hallowed, heq⟩ := List.any_eq_true.1 (List.mem_filter.1 hheader).2
    have hdiffers := hname allowed hallowed
    rw [eqIgnoreAsciiCase, beq_iff_eq] at hsame heq
    rw [eqIgnoreAsciiCase, ← heq, hsame, beq_self_eq_true] at hdiffers
    exact absurd hdiffers (by decide)
  rw [upstreamHeaders, List.filter_append, List.filter_append, hforwarded, List.append_nil,
    List.filter_append]

/-! ## The head that is written, read again -/

/-- The head that is written, without the blank line behind it. -/
def sentHead (settings : Settings) (request : Request) (query : List Char) (websocket : Bool)
    (length : Nat) : List Char :=
  joinLines (requestLine request.method request.path query)
    ((upstreamHeaders settings request websocket length).map headerLine)

/-- The head as it is sent ends with an empty line. -/
theorem upstreamHead_eq (settings : Settings) (request : Request) (query : List Char)
    (websocket : Bool) (length : Nat) :
    upstreamHead settings request query websocket length =
      sentHead settings request query websocket length ++ (lineEnd ++ lineEnd) := by
  have hlines : ∀ headers : List (List Char × List Char),
      lineEnd ++ headers.flatMap (headerLine · ++ lineEnd) =
        (headers.map headerLine).flatMap (lineEnd ++ ·) ++ lineEnd := by
    intro headers
    induction headers with
    | nil => exact List.append_nil _
    | cons header headers ih =>
      simp only [List.flatMap_cons, List.map_cons, List.append_assoc, ih]
  simp only [upstreamHead, sentHead, joinLines, List.append_assoc]
  rw [← List.append_assoc lineEnd, hlines, List.append_assoc]

/-- What is read of the head that is written. -/
def sentRequest (settings : Settings) (request : Request) (query : List Char) (websocket : Bool)
    (length : Nat) : Request :=
  ⟨request.method, request.path, sentQuery query,
    upstreamHeaders settings request websocket length⟩

/-- A request as far as its head passes. -/
structure Passed (request : Request) (segments : List (List Char)) (query : List Char) : Prop where
  method : request.method ≠ [] ∧ ∀ c ∈ request.method, isAsciiUppercase c = true
  headers : ∀ header ∈ request.headers, Clean header
  path : pathSegments (Utf8.encode request.path) = some segments
  query : forwardedQuery request.query = some query

/-- A head that parsed has a method in capitals and clean headers. -/
theorem parseHead_eq_some {head : List Char} {request : Request}
    (h : parseHead head = some request) :
    (request.method ≠ [] ∧ ∀ c ∈ request.method, isAsciiUppercase c = true) ∧
      ∀ header ∈ request.headers, Clean header := by
  unfold parseHead at h
  split at h
  · exact nomatch h
  · split at h
    · split_ifs at h with hrefused
      simp only [Bool.or_eq_true, decide_eq_true_eq, Bool.not_eq_true', not_or,
        Bool.not_eq_false, List.all_eq_true] at hrefused
      simp only [Option.bind_eq_bind, Option.bind_eq_some_iff, Option.some_inj] at h
      obtain ⟨headers, hheaders, rfl⟩ := h
      exact ⟨hrefused.1, clean_of_mapM hheaders⟩
    · exact nomatch h

section Written

variable {settings : Settings} {request : Request} {segments : List (List Char)}
  {query : List Char}

/-- What no method, path or query may hold is in none of them. -/
theorem Passed.notMem (passed : Passed request segments query) {c : Char}
    (hupper : isAsciiUppercase c = false) (hquery : isQueryChar c = false) :
    c ∉ request.method ∧ c ∉ request.path ∧ c ∉ query := by
  refine ⟨fun hc => ?_, fun hc => ?_, fun hc => ?_⟩
  · exact absurd (hupper.symm.trans (passed.method.2 c hc)) (by decide)
  · exact absurd (hquery.symm.trans (isQueryChar_of_path passed.path hc).1) (by decide)
  · exact absurd (hquery.symm.trans (isQueryChar_of_sent passed.query c hc)) (by decide)

/-- No line holds a return. -/
theorem Passed.lines (passed : Passed request segments query) (drawn : settings.Drawn)
    (websocket : Bool) (length : Nat) :
    '\r' ∉ requestLine request.method request.path query ∧
      ∀ line ∈ (upstreamHeaders settings request websocket length).map headerLine,
        '\r' ∉ line ∧ line ≠ [] := by
  obtain ⟨hmethod, hpath, hquery⟩ := passed.notMem (c := '\r') (by decide) (by decide)
  constructor
  · simp only [requestLine, List.mem_append, not_or]
    exact ⟨⟨⟨⟨hmethod, by decide⟩, hpath⟩, hquery⟩, by decide⟩
  · intro line hline
    obtain ⟨header, hheader, rfl⟩ := List.mem_map.1 hline
    have hclean := clean_upstreamHeaders drawn passed.headers websocket length header hheader
    refine ⟨return_notMem_headerLine hclean, fun hnil => hclean.named ?_⟩
    rw [headerLine, List.append_assoc] at hnil
    exact (List.append_eq_nil_iff.1 hnil).1

/-- What is written is read as the request with the proxy's own headers. -/
theorem Passed.parseHead (passed : Passed request segments query) (drawn : settings.Drawn)
    (websocket : Bool) (length : Nat) :
    parseHead (sentHead settings request query websocket length) =
      some (sentRequest settings request query websocket length) := by
  obtain ⟨hfirst, hlines⟩ := passed.lines drawn websocket length
  obtain ⟨hmethod, hpath, hquery⟩ := passed.notMem (c := ' ') (by decide) (by decide)
  have hquestion : '?' ∉ request.path := fun hc => (isQueryChar_of_path passed.path hc).2 rfl
  have haccepted : (decide (request.method = []) || !request.method.all isAsciiUppercase ||
      decide ("HTTP/1.1".toList ∉ versions)) = false := by
    simp only [Bool.or_eq_false_iff, decide_eq_false_iff_not, Bool.not_eq_false',
      List.all_eq_true, Classical.not_not]
    exact ⟨passed.method, by decide⟩
  unfold ControllerProxy.parseHead
  rw [sentHead, headLines_joinLines hfirst fun line hline => (hlines line hline).1]
  dsimp only
  rw [pieces_requestLine hmethod hpath hquery]
  dsimp only
  rw [haccepted, mapM_headerLine (clean_upstreamHeaders drawn passed.headers websocket length),
    splitTarget_append hquestion passed.query]
  rfl

end Written

end MultiCore.Service.ControllerProxy
