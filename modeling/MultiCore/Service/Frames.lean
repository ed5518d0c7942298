import MultiCore.Library.ByteStream
import Mathlib.Algebra.Group.Nat.Defs

/-!
# Frames of the privileged channels

Every message of the elevation channel and of the service channel is the JSON
text of an envelope, with the version of the protocol in it, behind its length.
The serializer is a parameter; it reads what it wrote. A frame is taken apart
again only if it is exactly as long as it says and is of the version asked for,
and a stream of frames can be read one by one, however its bytes arrive.
-/

namespace MultiCore.Service

open ByteStream

/-- The version that messages of the elevation channel are of. -/
def elevationProtocolVersion : UInt16 := 1

/-- The version that messages of the service channel are of. -/
def serviceProtocolVersion : UInt16 := 2

/-- No frame is longer, its length included. -/
def maxElevationFrameBytes : Nat := 64 * 1024

/-- Why a frame is refused. -/
inductive ProtocolError where
  | invalidLength
  | truncated
  | trailingBytes
  | invalidUtf8
  | invalidSchema
  | unknownVersion
  | invalidGeneration
  deriving DecidableEq, Repr

/-- A message with the version of its protocol. -/
structure Envelope (T : Type) where
  version : UInt16
  body : T
  deriving DecidableEq, Repr

/-- Whether some bytes are UTF-8. -/
def isUtf8 (payload : Bytes) : Bool := (ByteArray.mk payload.toArray).validateUTF8

/-- The JSON text of the envelopes of one type of messages. -/
structure Serializer (T : Type) where
  toVec : Envelope T → Option Bytes
  fromSlice : Bytes → Option (Envelope T)

/-- What is relied on of a serializer: it writes text, and reads what it wrote. -/
structure Serializer.RoundTrips {T : Type} (json : Serializer T) : Prop where
  fromSlice_toVec : ∀ envelope payload, json.toVec envelope = some payload →
    json.fromSlice payload = some envelope
  nonempty : ∀ envelope payload, json.toVec envelope = some payload → payload ≠ []
  utf8 : ∀ envelope payload, json.toVec envelope = some payload → isUtf8 payload = true

/-- Two types of messages have their version in the same place of the text. -/
def Serializer.SameVersion {T U : Type} (json : Serializer T) (json' : Serializer U) : Prop :=
  ∀ payload envelope envelope', json.fromSlice payload = some envelope →
    json'.fromSlice payload = some envelope' → envelope.version = envelope'.version

section Codec

variable {T : Type} (json : Serializer T)

/-- The text of an envelope behind its length. -/
def encodeFrameVersioned (version : UInt16) (value : T) : Except ProtocolError Bytes :=
  match json.toVec ⟨version, value⟩ with
  | none => .error .invalidSchema
  | some payload =>
    if payload.isEmpty || maxElevationFrameBytes - 4 < payload.length then .error .invalidLength
    else if 2 ^ 32 ≤ payload.length then .error .invalidLength
    else .ok (toLeBytes (UInt32.ofNat payload.length) ++ payload)

/-- A frame of the elevation channel. -/
def encodeFrame (value : T) : Except ProtocolError Bytes :=
  encodeFrameVersioned json elevationProtocolVersion value

/-- A frame of the service channel. -/
def encodeServiceFrame (value : T) : Except ProtocolError Bytes :=
  encodeFrameVersioned json serviceProtocolVersion value

/-- The message of a frame that is exactly as long as it says. -/
def decodeFrameVersioned (version : UInt16) (frame : Bytes) : Except ProtocolError T :=
  match frame with
  | a :: b :: c :: d :: payload =>
    let length := (fromLeBytes a b c d).toNat
    if length = 0 ∨ maxElevationFrameBytes - 4 < length then .error .invalidLength
    else if frame.length < 4 + length then .error .truncated
    else if 4 + length < frame.length then .error .trailingBytes
    else if isUtf8 payload = false then .error .invalidUtf8
    else match json.fromSlice payload with
      | none => .error .invalidSchema
      | some envelope =>
        if envelope.version ≠ version then .error .unknownVersion else .ok envelope.body
  | _ => .error .truncated

/-- The message of a frame of the elevation channel. -/
def decodeFrame (frame : Bytes) : Except ProtocolError T :=
  decodeFrameVersioned json elevationProtocolVersion frame

/-- The message of a frame of the service channel. -/
def decodeServiceFrame (frame : Bytes) : Except ProtocolError T :=
  decodeFrameVersioned json serviceProtocolVersion frame

end Codec

section Stream

/-- Why no frame came over a stream, or none was sent. -/
inductive StreamError where
  | invalidData (error : ProtocolError)
  | read (error : ReadError)
  | write (error : WriteError)
  | flush
  deriving DecidableEq, Repr

/-- The next frame of a stream; its length is checked before the rest is read. -/
def readStreamFrame (reader : Reader) : Except StreamError (Bytes × Reader) :=
  match readExact 4 reader with
  | .error error => .error (.read error)
  | .ok (header, reader) =>
    match header with
    | [a, b, c, d] =>
      let length := (fromLeBytes a b c d).toNat
      if length = 0 ∨ maxElevationFrameBytes - 4 < length then
        .error (.invalidData .invalidLength)
      else match readExact length reader with
        | .error error => .error (.read error)
        | .ok (payload, reader) => .ok (header ++ payload, reader)
    | _ => .error (.read .unexpectedEof)

/-- Writes an encoded frame; `flushes` is whether the last call, for the flush, goes through. -/
def writeFrame (encoded : Except ProtocolError Bytes) (flushes : Bool) (writer : Writer) :
    Except StreamError Writer :=
  match encoded with
  | .error error => .error (.invalidData error)
  | .ok frame =>
    match writeAll writer frame with
    | .error error => .error (.write error)
    | .ok writer => if flushes then .ok writer else .error .flush

variable {T : Type} (json : Serializer T)

/-- Writes a message to the elevation channel. -/
def writeStreamFrame (value : T) : Bool → Writer → Except StreamError Writer :=
  writeFrame (encodeFrame json value)

/-- Writes a message to the service channel. -/
def writeServiceFrame (value : T) : Bool → Writer → Except StreamError Writer :=
  writeFrame (encodeServiceFrame json value)

/-- As many messages of one version as asked for, read from a stream one after the other. -/
def receive (version : UInt16) : Nat → Reader → Except StreamError (List T × Reader)
  | 0, reader => .ok ([], reader)
  | count + 1, reader => do
    let (frame, reader) ← readStreamFrame reader
    let message ← (decodeFrameVersioned json version frame).mapError StreamError.invalidData
    let (messages, reader) ← receive version count reader
    .ok (message :: messages, reader)

/-- Messages of one version, written one after the other. -/
def sendAll (version : UInt16) : List T → Writer → Except StreamError Writer
  | [], writer => .ok writer
  | message :: messages, writer => do
    let writer ← writeFrame (encodeFrameVersioned json version message) true writer
    sendAll version messages writer

end Stream

section Laws

variable {T : Type} {json : Serializer T} {version : UInt16} {value : T}
  {frame payload : Bytes}

/-- A payload that fits behind its own length. -/
structure Fits (frame payload : Bytes) : Prop where
  nonempty : payload ≠ []
  length_le : payload.length ≤ maxElevationFrameBytes - 4
  eq_append : frame = toLeBytes (UInt32.ofNat payload.length) ++ payload

/-- The length of a payload that fits is a number of four bytes. -/
theorem Fits.length_lt (h : Fits frame payload) : payload.length < 2 ^ 32 :=
  Nat.lt_of_le_of_lt h.length_le (by decide)

/-- The header of a frame is four bytes that write the length of the payload. -/
theorem Fits.exists_header (h : Fits frame payload) :
    ∃ a b c d, frame = a :: b :: c :: d :: payload ∧
      (fromLeBytes a b c d).toNat = payload.length := by
  obtain ⟨a, b, c, d, hbytes, hnumber⟩ := exists_toLeBytes (UInt32.ofNat payload.length)
  refine ⟨a, b, c, d, ?_, ?_⟩
  · rw [h.eq_append, hbytes]
    rfl
  · rw [hnumber]
    exact UInt32.toNat_ofNat_of_lt' h.length_lt

/-- A payload that fits passes the checks of its length. -/
theorem Fits.bounds (h : Fits frame payload) :
    ¬(payload.length = 0 ∨ maxElevationFrameBytes - 4 < payload.length) := by
  rintro (hzero | hlong)
  · exact h.nonempty (List.eq_nil_of_length_eq_zero hzero)
  · exact absurd h.length_le (Nat.not_le.2 hlong)

/-- What is encoded. -/
theorem encodeFrameVersioned_eq_ok :
    encodeFrameVersioned json version value = .ok frame ↔
      ∃ payload, json.toVec ⟨version, value⟩ = some payload ∧ Fits frame payload := by
  unfold encodeFrameVersioned
  cases hpayload : json.toVec ⟨version, value⟩ with
  | none =>
    constructor
    · exact fun h => nomatch h
    · rintro ⟨payload, h, -⟩
      exact nomatch h
  | some payload =>
    simp only [Option.some.injEq, exists_eq_left']
    constructor
    · intro h
      by_cases hbounds :
          (payload.isEmpty || decide (maxElevationFrameBytes - 4 < payload.length)) = true
      · rw [if_pos hbounds] at h
        exact nomatch h
      rw [if_neg hbounds] at h
      simp only [Bool.or_eq_true, List.isEmpty_iff, decide_eq_true_eq, not_or,
        Nat.not_lt] at hbounds
      by_cases hwide : 2 ^ 32 ≤ payload.length
      · rw [if_pos hwide] at h
        exact nomatch h
      · rw [if_neg hwide, Except.ok.injEq] at h
        exact ⟨hbounds.1, hbounds.2, h.symm⟩
    · intro h
      have hbounds :
          ¬(payload.isEmpty || decide (maxElevationFrameBytes - 4 < payload.length)) = true := by
        simp only [Bool.or_eq_true, List.isEmpty_iff, decide_eq_true_eq, not_or, Nat.not_lt]
        exact ⟨h.nonempty, h.length_le⟩
      rw [if_neg hbounds, if_neg (Nat.not_le.2 h.length_lt), h.eq_append]

/-- What becomes of a frame that is as long as it says. -/
theorem decodeFrameVersioned_of_fits (h : Fits frame payload) (hutf8 : isUtf8 payload = true)
    {envelope : Envelope T} (hread : json.fromSlice payload = some envelope) :
    decodeFrameVersioned json version frame =
      if envelope.version ≠ version then .error .unknownVersion else .ok envelope.body := by
  obtain ⟨a, b, c, d, rfl, hnumber⟩ := h.exists_header
  have hlength : (a :: b :: c :: d :: payload).length = 4 + payload.length := by
    simp only [List.length_cons]
    omega
  unfold decodeFrameVersioned
  simp only [hnumber, hlength]
  rw [if_neg h.bounds, if_neg (Nat.lt_irrefl _), if_neg (Nat.lt_irrefl _), hutf8,
    if_neg (by decide), hread]

/-- A frame is accepted exactly when it is as long as it says, its payload is UTF-8 and the
envelope in it is of the version asked for. -/
theorem decodeFrameVersioned_eq_ok : decodeFrameVersioned json version frame = .ok value ↔
    ∃ payload, Fits frame payload ∧ isUtf8 payload = true ∧
      json.fromSlice payload = some ⟨version, value⟩ := by
  constructor
  · intro h
    match frame, h with
    | a :: b :: c :: d :: payload, h =>
      unfold decodeFrameVersioned at h
      simp only at h
      by_cases hbounds : (fromLeBytes a b c d).toNat = 0 ∨
          maxElevationFrameBytes - 4 < (fromLeBytes a b c d).toNat
      · rw [if_pos hbounds] at h
        exact nomatch h
      rw [if_neg hbounds] at h
      by_cases hshort : (a :: b :: c :: d :: payload).length < 4 + (fromLeBytes a b c d).toNat
      · rw [if_pos hshort] at h
        exact nomatch h
      rw [if_neg hshort] at h
      by_cases hlong : 4 + (fromLeBytes a b c d).toNat < (a :: b :: c :: d :: payload).length
      · rw [if_pos hlong] at h
        exact nomatch h
      rw [if_neg hlong] at h
      cases hutf8 : isUtf8 payload with
      | false =>
        rw [hutf8, if_pos rfl] at h
        exact nomatch h
      | true =>
        rw [hutf8, if_neg (by decide)] at h
        cases hread : json.fromSlice payload with
        | none =>
          simp only [hread] at h
          exact nomatch h
        | some envelope =>
          simp only [hread] at h
          by_cases hversion : envelope.version ≠ version
          · rw [if_pos hversion] at h
            exact nomatch h
          · rw [if_neg hversion, Except.ok.injEq] at h
            have hlength : payload.length = (fromLeBytes a b c d).toNat := by
              simp only [List.length_cons] at hshort hlong
              omega
            refine ⟨payload, ⟨?_, ?_, ?_⟩, hutf8, ?_⟩
            · rintro rfl
              exact hbounds (Or.inl hlength.symm)
            · rw [hlength]
              omega
            · rw [hlength, UInt32.ofNat_toNat, toLeBytes_fromLeBytes]
              rfl
            · rw [hread, ← h, ← not_not.1 hversion]
    | [], h => exact nomatch h
    | [_], h => exact nomatch h
    | [_, _], h => exact nomatch h
    | [_, _, _], h => exact nomatch h
  · rintro ⟨payload, hfits, hutf8, hread⟩
    rw [decodeFrameVersioned_of_fits hfits hutf8 hread]
    exact if_neg fun h => h rfl

/-- What was encoded is decoded under its own version and under no other one. -/
theorem decodeFrameVersioned_encode (hjson : json.RoundTrips) {other : UInt16}
    (h : encodeFrameVersioned json other value = .ok frame) :
    decodeFrameVersioned json version frame =
      if other ≠ version then .error .unknownVersion else .ok value := by
  obtain ⟨payload, hpayload, hfits⟩ := encodeFrameVersioned_eq_ok.1 h
  exact decodeFrameVersioned_of_fits hfits (hjson.utf8 _ _ hpayload)
    (hjson.fromSlice_toVec _ _ hpayload)

/-- The frame that comes first in a stream is read whole, and nothing after it. -/
theorem readStreamFrame_of_content (h : Fits frame payload) {reader : Reader} {back : Bytes}
    (hflows : Flows reader) (hcontent : content reader = frame ++ back) :
    ∃ reader', readStreamFrame reader = .ok (frame, reader') ∧ Flows reader' ∧
      content reader' = back := by
  obtain ⟨a, b, c, d, rfl, hnumber⟩ := h.exists_header
  have hsplit : content reader = [a, b, c, d] ++ (payload ++ back) := hcontent
  obtain ⟨middle, hheader, hflows', hmiddle⟩ := readExact_of_content hflows hsplit
  obtain ⟨reader', hpayload, hflows'', hback⟩ := readExact_of_content hflows' hmiddle
  refine ⟨reader', ?_, hflows'', hback⟩
  have hheader' : readExact 4 reader = .ok ([a, b, c, d], middle) := hheader
  unfold readStreamFrame
  simp only [hheader', hnumber]
  rw [if_neg h.bounds, hpayload]
  rfl

/-- The frames of some messages, one after the other, are read one by one to the end. -/
theorem receive_of_content (hjson : json.RoundTrips) {messages : List T} {frames : List Bytes}
    (hframes : List.Forall₂ (fun message frame =>
      encodeFrameVersioned json version message = .ok frame) messages frames)
    {reader : Reader} {back : Bytes} (hflows : Flows reader)
    (hcontent : content reader = frames.flatten ++ back) :
    ∃ reader', receive json version messages.length reader = .ok (messages, reader') ∧
      Flows reader' ∧ content reader' = back := by
  induction hframes generalizing reader with
  | nil => exact ⟨reader, rfl, hflows, hcontent⟩
  | @cons message frame messages frames hframe _ ih =>
    obtain ⟨payload, hpayload, hfits⟩ := encodeFrameVersioned_eq_ok.1 hframe
    rw [List.flatten_cons, List.append_assoc] at hcontent
    obtain ⟨middle, hfirst, hflows', hmiddle⟩ := readStreamFrame_of_content hfits hflows hcontent
    obtain ⟨reader', hrest, hflows'', hback⟩ := ih hflows' hmiddle
    have hdecode : decodeFrameVersioned json version frame = .ok message := by
      rw [decodeFrameVersioned_encode hjson hframe]
      exact if_neg fun h => h rfl
    refine ⟨reader', ?_, hflows'', hback⟩
    rw [List.length_cons, receive, hfirst]
    simp only [bind, Except.bind, hdecode, Except.mapError, hrest]

/-- A frame that was sent is in the stream after what was there, whatever the calls answered. -/
theorem writeFrame_written {encoded : Except ProtocolError Bytes} {flushes : Bool}
    {writer writer' : Writer} (h : writeFrame encoded flushes writer = .ok writer') :
    ∃ frame, encoded = .ok frame ∧ writer'.written = writer.written ++ frame := by
  unfold writeFrame at h
  cases encoded with
  | error error => exact nomatch h
  | ok frame =>
    cases hwrite : writeAll writer frame with
    | error error =>
      simp only [hwrite] at h
      exact nomatch h
    | ok middle =>
      simp only [hwrite] at h
      cases flushes with
      | false => exact nomatch h
      | true =>
        rw [if_pos rfl, Except.ok.injEq] at h
        rw [← h]
        exact ⟨frame, rfl, writeAll_written hwrite⟩

/-- What messages leave in a stream are their frames in order. -/
theorem sendAll_written {messages : List T} {writer writer' : Writer}
    (h : sendAll json version messages writer = .ok writer') :
    ∃ frames, List.Forall₂ (fun message frame =>
        encodeFrameVersioned json version message = .ok frame) messages frames ∧
      writer'.written = writer.written ++ frames.flatten := by
  induction messages generalizing writer with
  | nil =>
    rw [sendAll, Except.ok.injEq] at h
    refine ⟨[], List.Forall₂.nil, ?_⟩
    rw [h, List.flatten_nil, List.append_nil]
  | cons message messages ih =>
    rw [sendAll] at h
    cases hwrite : writeFrame (encodeFrameVersioned json version message) true writer with
    | error error =>
      rw [hwrite] at h
      exact nomatch h
    | ok middle =>
      rw [hwrite] at h
      obtain ⟨frame, hframe, hmiddle⟩ := writeFrame_written hwrite
      obtain ⟨frames, hframes, hwritten⟩ := ih h
      refine ⟨frame :: frames, List.Forall₂.cons hframe hframes, ?_⟩
      rw [hwritten, hmiddle, List.flatten_cons, List.append_assoc]

/-- Whatever the single calls on both sides do, messages that were sent are received in order, and
nothing stays in the stream. -/
theorem receive_sendAll (hjson : json.RoundTrips) {messages : List T} {writer : Writer}
    {answers : List Write} (hsent : sendAll json version messages ⟨[], answers⟩ = .ok writer)
    {reader : Reader} (hflows : Flows reader) (hcontent : content reader = writer.written) :
    ∃ reader', receive json version messages.length reader = .ok (messages, reader') ∧
      content reader' = [] := by
  obtain ⟨frames, hframes, hwritten⟩ := sendAll_written hsent
  have hall : content reader = frames.flatten ++ [] := by
    rw [hcontent, hwritten, List.nil_append, List.append_nil]
  obtain ⟨reader', hreceive, -, hback⟩ := receive_of_content hjson hframes hflows hall
  exact ⟨reader', hreceive, hback⟩

end Laws

/-- The framing of both channels, for every version and type of messages: a message that fits comes
out of its frame, a frame of another version is refused, of these or of other messages, a frame
that is accepted is as long as it says, and a stream of frames is read to its end. -/
theorem frames_faithful {T : Type} {json : Serializer T} (hjson : json.RoundTrips)
    (version : UInt16) :
    (∀ value payload, json.toVec ⟨version, value⟩ = some payload →
      payload.length ≤ maxElevationFrameBytes - 4 →
      ∃ frame, encodeFrameVersioned json version value = .ok frame ∧
        decodeFrameVersioned json version frame = .ok value) ∧
    (∀ other value frame, encodeFrameVersioned json other value = .ok frame → other ≠ version →
      decodeFrameVersioned json version frame = .error .unknownVersion) ∧
    (∀ (U : Type) (json' : Serializer U), json'.RoundTrips → json.SameVersion json' →
      ∀ other value frame, encodeFrameVersioned json' other value = .ok frame → other ≠ version →
      ∀ accepted, decodeFrameVersioned json version frame ≠ .ok accepted) ∧
    (∀ frame value, decodeFrameVersioned json version frame = .ok value →
      ∃ a b c d payload, frame = a :: b :: c :: d :: payload ∧
        (fromLeBytes a b c d).toNat = payload.length) ∧
    (∀ messages frames reader, List.Forall₂ (fun message frame =>
        encodeFrameVersioned json version message = .ok frame) messages frames →
      Flows reader → content reader = frames.flatten →
      ∃ reader', receive json version messages.length reader = .ok (messages, reader') ∧
        content reader' = []) := by
  refine ⟨?_, ?_, ?_, ?_, ?_⟩
  · intro value payload hpayload hlength
    have hencode : encodeFrameVersioned json version value =
        .ok (toLeBytes (UInt32.ofNat payload.length) ++ payload) :=
      encodeFrameVersioned_eq_ok.2
        ⟨payload, hpayload, hjson.nonempty _ _ hpayload, hlength, rfl⟩
    refine ⟨_, hencode, ?_⟩
    rw [decodeFrameVersioned_encode hjson hencode]
    exact if_neg fun h => h rfl
  · intro other value frame hencode hother
    rw [decodeFrameVersioned_encode hjson hencode]
    exact if_pos hother
  · intro U json' hjson' hsame other value frame hencode hother accepted hdecode
    obtain ⟨payload, hpayload, hfits⟩ := encodeFrameVersioned_eq_ok.1 hencode
    obtain ⟨payload', hfits', -, hread⟩ := decodeFrameVersioned_eq_ok.1 hdecode
    have heq : payload' = payload := by
      obtain ⟨a, b, c, d, hframe, -⟩ := hfits.exists_header
      obtain ⟨a', b', c', d', hframe', -⟩ := hfits'.exists_header
      simp only [hframe, List.cons.injEq] at hframe'
      exact hframe'.2.2.2.2.symm
    rw [heq] at hread
    exact hother (hsame _ _ _ hread (hjson'.fromSlice_toVec _ _ hpayload)).symm
  · intro frame value hdecode
    obtain ⟨payload, hfits, -, -⟩ := decodeFrameVersioned_eq_ok.1 hdecode
    obtain ⟨a, b, c, d, hframe, hnumber⟩ := hfits.exists_header
    exact ⟨a, b, c, d, payload, hframe, hnumber⟩
  · intro messages frames reader hframes hflows hcontent
    have hall : content reader = frames.flatten ++ [] := by
      rw [hcontent, List.append_nil]
    obtain ⟨reader', hreceive, -, hback⟩ := receive_of_content hjson hframes hflows hall
    exact ⟨reader', hreceive, hback⟩

section Flag

/-- The JSON text of an envelope around a truth value. -/
def flagText (envelope : Envelope Bool) : List Char :=
  "\x7b\"version\":".toList ++ (Nat.toDigits 10 envelope.version.toNat ++
    (if envelope.body then ",\"body\":true\x7d" else ",\"body\":false\x7d").toList)

/-- The envelope in a text, where it is one of those. -/
def readFlag (text : List Char) : Option (Envelope Bool) :=
  let rest := text.drop 11
  let version := UInt16.ofNat (Nat.ofDigitChars 10 (rest.takeWhile Char.isDigit) 0)
  match String.ofList (rest.dropWhile Char.isDigit) with
  | ",\"body\":true\x7d" => some ⟨version, true⟩
  | ",\"body\":false\x7d" => some ⟨version, false⟩
  | _ => none

/-- A serializer for truth values. -/
def flagJson : Serializer Bool where
  toVec envelope := some (String.ofList (flagText envelope)).toByteArray.data.toList
  fromSlice payload :=
    (String.fromUTF8? (ByteArray.mk payload.toArray)).bind fun text => readFlag text.toList

/-- The text of an envelope is read as it. -/
theorem readFlag_flagText (envelope : Envelope Bool) :
    readFlag (flagText envelope) = some envelope := by
  obtain ⟨version, body⟩ := envelope
  have hdigits : ∀ c ∈ Nat.toDigits 10 version.toNat, Char.isDigit c = true :=
    fun c hc => Nat.isDigit_of_mem_toDigits (by decide) (by decide) hc
  unfold readFlag flagText
  rw [List.drop_left' (by rfl)]
  cases body with
  | true =>
    simp only [if_true]
    rw [List.takeWhile_append_of_pos hdigits, List.dropWhile_append_of_pos hdigits]
    simp
  | false =>
    simp only [Bool.false_eq_true, if_false]
    rw [List.takeWhile_append_of_pos hdigits, List.dropWhile_append_of_pos hdigits]
    simp

/-- The text of valid bytes is read back. -/
theorem fromUTF8?_toByteArray (s : String) : String.fromUTF8? s.toByteArray = some s := by
  rw [String.fromUTF8?, dif_pos s.isValidUTF8]
  rfl

/-- What is relied on holds of this serializer. -/
theorem flagJson_roundTrips : flagJson.RoundTrips := by
  have hbytes : ∀ envelope payload, flagJson.toVec envelope = some payload →
      ByteArray.mk payload.toArray = (String.ofList (flagText envelope)).toByteArray := by
    intro envelope payload h
    rw [flagJson, Option.some.injEq] at h
    rw [← h]
  constructor
  · intro envelope payload h
    have hread : flagJson.fromSlice payload =
        (String.fromUTF8? (ByteArray.mk payload.toArray)).bind fun text =>
          readFlag text.toList := rfl
    rw [hread, hbytes envelope payload h, fromUTF8?_toByteArray, Option.bind_some,
      String.toList_ofList, readFlag_flagText]
  · rintro envelope payload h rfl
    have hempty : String.ofList (flagText envelope) = "" :=
      String.toByteArray_inj.1 (hbytes envelope [] h).symm
    have hnil : flagText envelope = [] := by
      rw [← String.toList_ofList (l := flagText envelope), hempty]
      rfl
    exact nomatch hnil
  · intro envelope payload h
    rw [isUtf8, hbytes envelope payload h]
    exact ByteArray.validateUTF8_eq_true_iff.2 (String.isValidUTF8 _)

/-- Truth values on the service channel. -/
theorem frames_faithful_flag :
    (∀ value payload, flagJson.toVec ⟨serviceProtocolVersion, value⟩ = some payload →
      payload.length ≤ maxElevationFrameBytes - 4 →
      ∃ frame, encodeFrameVersioned flagJson serviceProtocolVersion value = .ok frame ∧
        decodeFrameVersioned flagJson serviceProtocolVersion frame = .ok value) ∧
    (∀ other value frame, encodeFrameVersioned flagJson other value = .ok frame →
      other ≠ serviceProtocolVersion →
      decodeFrameVersioned flagJson serviceProtocolVersion frame = .error .unknownVersion) :=
  have hall := frames_faithful flagJson_roundTrips serviceProtocolVersion
  ⟨hall.1, hall.2.1⟩

end Flag

end MultiCore.Service
