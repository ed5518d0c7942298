import MultiCore.Library.Program
import MultiCore.Service.ControllerHead

/-!
# What the controller proxy relays

One connection carries one request. The proxy reads its head, admits it or rejects it,
reads its body, and writes a request of its own to the controller. What the client sends
after its request follows only where the controller has switched to another protocol.
-/

namespace MultiCore.Service.ControllerProxy

open Faulty
open Utf8 (encode fromUtf8)

/-! ## Admission -/

/-- A request that is passed on. -/
structure Admitted where
  request : Request
  segments : List (List Char)
  query : List Char
  websocket : Bool
  length : Nat
  deriving DecidableEq, Repr

/-- A refusal where there is nothing. -/
def orReject {α : Type} (rejection : Rejection) : Option α → Except Rejection α
  | none => .error rejection
  | some a => .ok a

/-- A refusal unless the condition holds. -/
def require (rejection : Rejection) (holds : Bool) : Except Rejection Unit :=
  if holds then .ok () else .error rejection

/-- Whether the client asks for a WebSocket. -/
def upgrades (request : Request) : Bool :=
  (request.header "upgrade").any fun value => eqIgnoreAsciiCase value "websocket".toList

/-- The length that a request announces for its body. -/
def bodyLength (request : Request) : Option Nat :=
  match request.header "content-length" with
  | none => some 0
  | some value => Text.parseRadix 10 (2 ^ 64 - 1) value

/-- What is made of a head before any of it reaches the controller. -/
def admittedRequest (settings : Settings) (head : List UInt8) : Except Rejection Admitted := do
  let text ← orReject .badRequest (fromUtf8 head)
  let request ← orReject .badRequest (parseHead text)
  require .unauthorized (authorised request settings.token)
  let websocket := upgrades request
  let segments ← orReject .forbidden (pathSegments (encode request.path))
  require .forbidden
    (isAllowed (String.ofList request.method) (segments.map String.ofList) websocket)
  let query ← orReject .forbidden (forwardedQuery request.query)
  require .badRequest
    (!((request.header "transfer-encoding").isSome || 1 < request.headerCount "content-length"))
  let length ← orReject .badRequest (bodyLength request)
  require .tooLarge (!(maxBodyBytes < length))
  .ok ⟨request, segments, query, websocket, length⟩

/-! ## The relay -/

/-- The two ends of the proxy. -/
inductive Peer where
  | client
  | upstream
  deriving DecidableEq, Repr

/-- What the relay does with its two streams. -/
inductive RelayAsk where
  /-- Takes at most so many bytes from a peer. -/
  | read (peer : Peer) (limit : Nat)
  | connect
  | write (peer : Peer) (bytes : List UInt8)
  /-- Copies what the controller sends to the client. -/
  | copy
  /-- Copies in both directions. -/
  | copyBidirectional
  deriving DecidableEq, Repr

/-- No bytes stand for a read that failed or came too late. -/
def RelayAsk.Answer : RelayAsk → Type
  | .read _ _ => Option (List UInt8)
  | .connect => Bool
  | .write _ _ => Bool
  | .copy => Unit
  | .copyBidirectional => Unit

/-- A part of the exchange, which asks the two connections. -/
abbrev Relay (α : Type) : Type := Program RelayAsk RelayAsk.Answer α

/-- Up to `limit` bytes of one end; none means that reading failed. -/
def readBytes (peer : Peer) (limit : Nat) : Relay (Option (List UInt8)) :=
  Program.question (RelayAsk.read peer limit)

/-- The connection to the controller. -/
def connect : Relay Bool := Program.question RelayAsk.connect

/-- All bytes to one end. -/
def writeAll (peer : Peer) (bytes : List UInt8) : Relay Bool :=
  Program.question (RelayAsk.write peer bytes)

/-- The response, as it comes, until the controller closes. -/
def copy : Relay Unit := Program.question RelayAsk.copy

/-- Both directions, until both are closed. -/
def copyBidirectional : Relay Unit := Program.question RelayAsk.copyBidirectional

/-- What became of reading a head. -/
inductive HeadRead where
  | unreadable
  | refused
  | head (head rest : List UInt8)
  deriving DecidableEq, Repr

/-- Reads up to the end of a head. -/
def readHead (peer : Peer) (data : List UInt8) : Relay HeadRead :=
  match position headEnd data with
  | some place => pure (.head (data.take place) (data.drop (place + 4)))
  | none =>
    if maxHeadBytes < data.length then pure .refused
    else do
      match ← readBytes peer 4096 with
      | none => pure .unreadable
      | some bytes =>
        if bytes = [] then pure .refused
        else readHead peer (data ++ bytes)
termination_by maxHeadBytes + 1 - data.length
decreasing_by
  rename_i hsize hbytes
  have hpositive := List.length_pos_iff.2 hbytes
  rw [List.length_append]
  omega

/-- Takes the bytes of a body that are missing from the stream. -/
def readBody (body : List UInt8) (length : Nat) : Relay (Option (List UInt8)) :=
  if body.length < length then do
    match ← readBytes .client (min (length - body.length) 4096) with
    | none => pure none
    | some bytes =>
      if bytes = [] then pure none
      else readBody (body ++ bytes) length
  else pure (some body)
termination_by length - body.length
decreasing_by
  rename_i hmissing hbytes
  have hpositive := List.length_pos_iff.2 hbytes
  rw [List.length_append]
  omega

/-- How a head starts that switches the protocol. -/
def switching : List UInt8 := encode "HTTP/1.1 101 ".toList

/-- The bytes of the request that is written, with its body. -/
def written (settings : Settings) (admitted : Admitted) (body : List UInt8) : List UInt8 :=
  encode (upstreamHead settings admitted.request admitted.query admitted.websocket
    admitted.length) ++ body

/-- What the client sent behind its request are frames for the controller. -/
def relaySwitched (rest : List UInt8) : Relay (Except (Option Rejection) Unit) := do
  let framesSent ← writeAll .upstream rest
  if !framesSent then return .error none
  copyBidirectional
  return .ok ()

/-- The answer to an upgrade is passed back; the client's frames follow where it switches. -/
def relayUpgrade (rest : List UInt8) : Relay (Except (Option Rejection) Unit) := do
  match ← readHead .upstream [] with
  | .head responseHead responseRest =>
    let headSent ← writeAll .client responseHead
    if !headSent then return .error none
    let endSent ← writeAll .client headEnd
    if !endSent then return .error none
    let restSent ← writeAll .client responseRest
    if !restSent then return .error none
    if !switching.isPrefixOf responseHead then
      copy
      return .ok ()
    relaySwitched rest
  | _ => return .error (some .badGateway)

/-- An admitted request with its body goes to the controller. -/
def relayAdmitted (settings : Settings) (admitted : Admitted) (body rest : List UInt8) :
    Relay (Except (Option Rejection) Unit) := do
  let connected ← connect
  if !connected then return .error (some .badGateway)
  let headSent ← writeAll .upstream (encode (upstreamHead settings admitted.request admitted.query
    admitted.websocket admitted.length))
  if !headSent then return .error (some .badGateway)
  let bodySent ← writeAll .upstream body
  if !bodySent then return .error (some .badGateway)
  if !admitted.websocket then
    copy
    return .ok ()
  relayUpgrade rest

/-- A connection that failed without a rejection is closed silently. -/
def relay (settings : Settings) : Relay (Except (Option Rejection) Unit) := do
  match ← readHead .client [] with
  | .unreadable => return .error none
  | .refused => return .error (some .badRequest)
  | .head head rest =>
    match admittedRequest settings head with
    | .error rejection => return .error (some rejection)
    | .ok admitted =>
      match ← readBody (rest.take admitted.length) admitted.length with
      | none => return .error none
      | some body => relayAdmitted settings admitted body (rest.drop admitted.length)

/-- The reason phrase. -/
def Rejection.reason : Rejection → String
  | .badRequest => "Bad Request"
  | .unauthorized => "Unauthorized"
  | .forbidden => "Forbidden"
  | .tooLarge => "Payload Too Large"
  | .badGateway => "Bad Gateway"

/-- The status code. -/
def Rejection.status : Rejection → Nat
  | .badRequest => 400
  | .unauthorized => 401
  | .forbidden => 403
  | .tooLarge => 413
  | .badGateway => 502

/-- The whole answer to a request that is refused. -/
def Rejection.response (rejection : Rejection) : List Char :=
  "HTTP/1.1 ".toList ++ Nat.toDigits 10 rejection.status ++ [' '] ++ rejection.reason.toList ++
    lineEnd ++ "Content-Type: text/plain".toList ++ lineEnd ++ "Content-Length: ".toList ++
    Nat.toDigits 10 rejection.reason.utf8ByteSize ++ lineEnd ++ "Connection: close".toList ++
    lineEnd ++ lineEnd ++ rejection.reason.toList

/-- Takes what the client still sends, up to a limit. -/
def drain (drained : Nat) : Relay Unit :=
  if drained < maxBodyBytes then do
    match ← readBytes .client 4096 with
    | none => pure ()
    | some bytes =>
      if bytes = [] then pure ()
      else drain (drained + bytes.length)
  else pure ()
termination_by maxBodyBytes - drained
decreasing_by
  rename_i hmissing hbytes
  have hpositive := List.length_pos_iff.2 hbytes
  omega

/-- One connection. -/
def serve (settings : Settings) : Relay Unit := do
  match ← relay settings with
  | .error (some rejection) =>
    let _ ← writeAll .client (encode rejection.response)
    drain 0
  | _ => drain 0

/-! ## The streams -/

/-- What has gone over the two connections, from the proxy's side. -/
structure Wire where
  received : List UInt8
  forwarded : List UInt8
  answered : List UInt8
  returned : List UInt8
  deriving DecidableEq, Repr

/-- Nothing received and nothing sent. -/
def Wire.empty : Wire := ⟨[], [], [], []⟩

/-- The bytes that a peer has sent, and more of them. -/
def Wire.took (wire : Wire) : Peer → List UInt8 → Wire
  | .client, bytes => { wire with received := wire.received ++ bytes }
  | .upstream, bytes => { wire with answered := wire.answered ++ bytes }

/-- The bytes that a peer was sent, and more of them. -/
def Wire.sent (wire : Wire) : Peer → List UInt8 → Wire
  | .client, bytes => { wire with returned := wire.returned ++ bytes }
  | .upstream, bytes => { wire with forwarded := wire.forwarded ++ bytes }

/-- A read brings at most the bytes asked for, a write takes a part and all where it succeeds. -/
inductive RelayResponds : (q : RelayAsk) → Wire → q.Answer → Wire → Prop
  | read (wire : Wire) (peer : Peer) (limit : Nat) (bytes : List UInt8)
      (h : bytes.length ≤ limit) :
      RelayResponds (.read peer limit) wire (some bytes) (wire.took peer bytes)
  | unread (wire : Wire) (peer : Peer) (limit : Nat) :
      RelayResponds (.read peer limit) wire none wire
  | connect (wire : Wire) (done : Bool) : RelayResponds .connect wire done wire
  | write (wire : Wire) (peer : Peer) (bytes taken : List UInt8) (done : Bool)
      (h : taken <+: bytes) (hdone : done = true → taken = bytes) :
      RelayResponds (.write peer bytes) wire done (wire.sent peer taken)
  | copy (wire : Wire) (bytes taken : List UInt8) (h : taken <+: bytes) :
      RelayResponds .copy wire () ((wire.took .upstream bytes).sent .client taken)
  | copyBidirectional (wire : Wire) (frames sent bytes taken : List UInt8) (h : sent <+: frames)
      (h' : taken <+: bytes) :
      RelayResponds .copyBidirectional wire ()
        ((((wire.took .client frames).sent .upstream sent).took .upstream bytes).sent .client taken)

/-- Every answer that two connections may give. -/
def relayEnvironment : Environment RelayAsk RelayAsk.Answer Wire := RelayResponds

/-- Nothing received changes nothing. -/
theorem Wire.took_nil (wire : Wire) (peer : Peer) : wire.took peer [] = wire := by
  cases peer <;> simp only [Wire.took, List.append_nil]

/-- What is received in two parts is received in order. -/
theorem Wire.took_took (wire : Wire) (peer : Peer) (bytes more : List UInt8) :
    (wire.took peer bytes).took peer more = wire.took peer (bytes ++ more) := by
  cases peer <;> simp only [Wire.took, List.append_assoc]

/-! ## Reading -/

/-- A place that is found has the pattern behind it. -/
theorem position_eq_some {pattern bytes : List UInt8} {place : Nat}
    (h : position pattern bytes = some place) :
    bytes = bytes.take place ++ pattern ++ bytes.drop (place + pattern.length) ∧
      (bytes.take place).length = place := by
  induction bytes generalizing place with
  | nil => exact nomatch h
  | cons b bytes ih =>
    rw [position] at h
    split_ifs at h with hprefix
    · obtain rfl := Option.some.inj h
      obtain ⟨rest, hrest⟩ := List.isPrefixOf_iff_prefix.1 hprefix
      rw [← hrest, Nat.zero_add, List.drop_left]
      exact ⟨rfl, rfl⟩
    · obtain ⟨found, hfound, rfl⟩ := Option.map_eq_some_iff.1 h
      obtain ⟨hsplit, hlength⟩ := ih hfound
      constructor
      · rw [List.take_succ_cons, Nat.add_right_comm, List.drop_succ_cons, List.cons_append,
          List.cons_append, ← hsplit]
      · rw [List.take_succ_cons, List.length_cons, hlength]

/-- More bytes do not move the first place of a pattern. -/
theorem position_append {pattern bytes : List UInt8} {place : Nat}
    (h : position pattern bytes = some place) (more : List UInt8) :
    position pattern (bytes ++ more) = some place := by
  induction bytes generalizing place with
  | nil => exact nomatch h
  | cons b bytes ih =>
    rw [position] at h
    rw [List.cons_append, position]
    split_ifs at h with hprefix
    · have hstill : pattern.isPrefixOf (b :: (bytes ++ more)) = true := by
        rw [List.isPrefixOf_iff_prefix] at hprefix ⊢
        exact hprefix.trans (List.prefix_append (b :: bytes) more)
      rw [if_pos hstill, ← h]
    · obtain ⟨found, hfound, rfl⟩ := Option.map_eq_some_iff.1 h
      by_cases hearlier : pattern.isPrefixOf (b :: (bytes ++ more)) = true
      · -- The pattern fits into the bytes already, so it stood at the front before.
        obtain ⟨hsplit, hlength⟩ := position_eq_some hfound
        have hfits : pattern.length ≤ (b :: bytes).length := by
          have hlengths := congrArg List.length hsplit
          simp only [List.length_append] at hlengths
          rw [List.length_cons]
          omega
        rw [List.isPrefixOf_iff_prefix] at hearlier hprefix
        exact absurd (List.prefix_of_prefix_length_le hearlier
          (List.prefix_append (b :: bytes) more) hfits) hprefix
      · rw [if_neg hearlier, ih hfound]
        rfl

/-- A head that is found ends at the first blank line of the bytes read. -/
def HeadOf (bytes : List UInt8) : HeadRead → Prop
  | .head head rest => bytes = head ++ headEnd ++ rest ∧ position headEnd bytes = some head.length
  | _ => True

section Asking

variable {always : Wire → Prop} {peer : Peer} {wire : Wire}

/-- The rule of a read: it fails, or gives no more than was asked for. -/
theorem readBytes_spec {post : Option (List UInt8) → Wire → Prop} {limit : Nat}
    (hnone : always wire ∧ post none wire)
    (hsome : ∀ bytes, bytes.length ≤ limit →
      always (wire.took peer bytes) ∧ post (some bytes) (wire.took peer bytes)) :
    wp relayEnvironment always (readBytes peer limit) post wire := by
  rintro answer t (⟨_, _, _, bytes, hlimit⟩ | _)
  · exact hsome bytes hlimit
  · exact hnone

/-- The rule of a connection, which may fail. -/
theorem connect_spec {post : Bool → Wire → Prop} (halways : always wire)
    (hpost : ∀ done, post done wire) : wp relayEnvironment always connect post wire := by
  rintro answer t ⟨⟩
  exact ⟨halways, hpost answer⟩

/-- A write succeeds with all bytes, or fails with some of them. -/
theorem writeAll_spec {post : Bool → Wire → Prop} {bytes : List UInt8}
    (halways : ∀ taken, taken <+: bytes → always (wire.sent peer taken))
    (hfailed : ∀ taken, taken <+: bytes → post false (wire.sent peer taken))
    (hdone : post true (wire.sent peer bytes)) :
    wp relayEnvironment always (writeAll peer bytes) post wire := by
  rintro answer t (_ | _ | _ | ⟨_, _, _, taken, done, htaken, hall⟩)
  refine ⟨halways taken htaken, ?_⟩
  cases answer with
  | false => exact hfailed taken htaken
  | true =>
    rw [hall rfl]
    exact hdone

/-- The rule of a copy: some of what arrives is passed on. -/
theorem copy_spec {post : Unit → Wire → Prop}
    (h : ∀ bytes taken, always ((wire.took .upstream bytes).sent .client taken) ∧
      post () ((wire.took .upstream bytes).sent .client taken)) :
    wp relayEnvironment always copy post wire := by
  rintro answer t ⟨⟩
  exact h _ _

/-- The rule of a copy in both directions. -/
theorem copyBidirectional_spec {post : Unit → Wire → Prop}
    (h : ∀ frames sent bytes taken, sent <+: frames →
      always ((((wire.took .client frames).sent .upstream sent).took .upstream bytes).sent
        .client taken) ∧
      post () ((((wire.took .client frames).sent .upstream sent).took .upstream bytes).sent
        .client taken)) :
    wp relayEnvironment always copyBidirectional post wire := by
  rintro answer t (_ | _ | _ | _ | _ | ⟨_, frames, sent, bytes, taken, hsent, -⟩)
  exact h frames sent bytes taken hsent

end Asking

section Reading

variable {always : Wire → Prop} {peer : Peer} {wire : Wire}

/-- A head is read to its first empty line, and what came behind it is kept. -/
theorem readHead_spec {post : HeadRead → Wire → Prop} {data : List UInt8}
    (halways : ∀ bytes, always (wire.took peer bytes))
    (hpost : ∀ bytes result, HeadOf (data ++ bytes) result → post result (wire.took peer bytes)) :
    wp relayEnvironment always (readHead peer data) post wire := by
  induction hsize : maxHeadBytes + 1 - data.length using Nat.strong_induction_on
    generalizing data wire with
  | _ size ih =>
    rw [readHead]
    cases hposition : position headEnd data with
    | some place =>
      obtain ⟨hsplit, hlength⟩ := position_eq_some hposition
      have hresult := hpost [] (.head (data.take place) (data.drop (place + 4)))
        (by rw [List.append_nil]; exact ⟨hsplit, by rw [hlength]; exact hposition⟩)
      rw [wire.took_nil] at hresult
      exact hresult
    | none =>
      have hnone : ∀ result, HeadOf data result → post result wire := by
        intro result hresult
        have hdone := hpost [] result (by rw [List.append_nil]; exact hresult)
        rwa [wire.took_nil] at hdone
      dsimp only
      by_cases hlarge : maxHeadBytes < data.length
      · rw [if_pos hlarge]
        exact hnone .refused trivial
      · rw [if_neg hlarge, wp_bind]
        apply readBytes_spec
        · refine ⟨?_, hnone .unreadable trivial⟩
          rw [← wire.took_nil peer]
          exact halways []
        · intro bytes hlimit
          refine ⟨halways bytes, ?_⟩
          dsimp only
          by_cases hend : bytes = []
          · rw [if_pos hend]
            exact hpost bytes .refused trivial
          · have hpositive := List.length_pos_iff.2 hend
            rw [if_neg hend]
            refine ih (maxHeadBytes + 1 - (data ++ bytes).length) ?_ ?_ ?_ rfl
            · rw [List.length_append]
              omega
            · intro more
              rw [wire.took_took]
              exact halways _
            · intro more result hresult
              rw [wire.took_took]
              exact hpost _ _ (by rwa [← List.append_assoc])

/-- A body that is read has the length asked for. -/
theorem readBody_spec {post : Option (List UInt8) → Wire → Prop} {body : List UInt8} {length : Nat}
    (hlength : body.length ≤ length) (halways : ∀ bytes, always (wire.took .client bytes))
    (hnone : ∀ bytes, post none (wire.took .client bytes))
    (hpost : ∀ bytes, (body ++ bytes).length = length →
      post (some (body ++ bytes)) (wire.took .client bytes)) :
    wp relayEnvironment always (readBody body length) post wire := by
  induction hsize : length - body.length using Nat.strong_induction_on generalizing body wire with
  | _ size ih =>
    rw [readBody]
    by_cases hmissing : body.length < length
    · rw [if_pos hmissing, wp_bind]
      apply readBytes_spec
      · refine ⟨?_, ?_⟩
        · rw [← wire.took_nil .client]
          exact halways []
        · have hdone := hnone []
          rwa [wire.took_nil] at hdone
      · intro bytes hlimit
        refine ⟨halways bytes, ?_⟩
        dsimp only
        by_cases hend : bytes = []
        · rw [if_pos hend]
          exact hnone bytes
        · have hpositive := List.length_pos_iff.2 hend
          have hfits : (body ++ bytes).length ≤ length := by
            rw [List.length_append]
            omega
          rw [if_neg hend]
          refine ih (length - (body ++ bytes).length) ?_ hfits ?_ ?_ ?_ rfl
          · rw [List.length_append]
            omega
          · intro more
            rw [wire.took_took]
            exact halways _
          · intro more
            rw [wire.took_took]
            exact hnone _
          · intro more hmore
            rw [wire.took_took, List.append_assoc]
            exact hpost _ (by rwa [← List.append_assoc])
    · rw [if_neg hmissing]
      have hdone := hpost [] (by rw [List.append_nil]; omega)
      rwa [wire.took_nil, List.append_nil] at hdone

end Reading

/-! ## One request -/

/-- What has reached the controller of an admitted request: a part of what is written of it, or,
where the controller has switched to another protocol, that and a part of what came later. -/
def Forwards (settings : Settings) (admitted : Admitted) (body later : List UInt8) (wire : Wire) :
    Prop :=
  wire.forwarded <+: written settings admitted body ∨
    (admitted.websocket = true ∧ switching <+: wire.answered ∧
      ∃ frames, wire.forwarded = written settings admitted body ++ frames ∧ frames <+: later)

/-- The client has sent a request that is admitted, with its body. -/
structure Asked (settings : Settings) (admitted : Admitted) (body later : List UInt8)
    (wire : Wire) : Prop where
  received : ∃ head, wire.received = head ++ headEnd ++ (body ++ later) ∧
    position headEnd wire.received = some head.length ∧ admittedRequest settings head = .ok admitted
  length : body.length = admitted.length

/-- Nothing has reached the controller but of the one request. -/
def OneRequest (settings : Settings) (wire : Wire) : Prop :=
  wire.forwarded = [] ∨ ∃ admitted body later,
    Asked settings admitted body later wire ∧ Forwards settings admitted body later wire

section Request

variable {settings : Settings} {admitted : Admitted} {body later : List UInt8} {wire : Wire}

/-- More from the client comes behind what was asked. -/
theorem Asked.client (asked : Asked settings admitted body later wire) (bytes : List UInt8) :
    Asked settings admitted body (later ++ bytes) (wire.took .client bytes) := by
  obtain ⟨head, hreceived, hposition, hadmitted⟩ := asked.received
  refine ⟨⟨head, ?_, position_append hposition bytes, hadmitted⟩, asked.length⟩
  rw [Wire.took, hreceived]
  simp only [List.append_assoc]

/-- More from the client may still be forwarded. -/
theorem Forwards.client (forwards : Forwards settings admitted body later wire)
    (bytes : List UInt8) :
    Forwards settings admitted body (later ++ bytes) (wire.took .client bytes) := by
  rcases forwards with hpart | ⟨hwebsocket, hswitched, frames, hforwarded, hframes⟩
  · exact Or.inl hpart
  · exact Or.inr ⟨hwebsocket, hswitched, frames, hforwarded,
      hframes.trans (List.prefix_append later bytes)⟩

/-- An answer does not change what was forwarded. -/
theorem Forwards.upstream (forwards : Forwards settings admitted body later wire)
    (bytes : List UInt8) :
    Forwards settings admitted body later (wire.took .upstream bytes) := by
  rcases forwards with hpart | ⟨hwebsocket, hswitched, hframes⟩
  · exact Or.inl hpart
  · exact Or.inr ⟨hwebsocket, hswitched.trans (List.prefix_append wire.answered bytes), hframes⟩

/-- Bytes that arrive send no request. -/
theorem OneRequest.took (one : OneRequest settings wire) (peer : Peer) (bytes : List UInt8) :
    OneRequest settings (wire.took peer bytes) := by
  rcases one with hquiet | ⟨admitted, body, later, asked, forwards⟩
  · cases peer <;> exact Or.inl hquiet
  · cases peer with
    | client => exact Or.inr ⟨_, _, _, asked.client bytes, forwards.client bytes⟩
    | upstream =>
      exact Or.inr ⟨_, _, _, ⟨asked.received, asked.length⟩, forwards.upstream bytes⟩

/-- Bytes to the client send no request. -/
theorem OneRequest.returned (one : OneRequest settings wire) (bytes : List UInt8) :
    OneRequest settings (wire.sent .client bytes) := by
  rcases one with hquiet | ⟨admitted, body, later, asked, forwards⟩
  · exact Or.inl hquiet
  · exact Or.inr ⟨admitted, body, later, ⟨asked.received, asked.length⟩, forwards⟩

/-- The whole request and some of what came behind it, where the controller has switched. -/
theorem Asked.splices (asked : Asked settings admitted body later wire)
    (hwebsocket : admitted.websocket = true) (hswitched : switching <+: wire.answered)
    {frames : List UInt8} (hforwarded : wire.forwarded = written settings admitted body ++ frames)
    (hframes : frames <+: later) : OneRequest settings wire :=
  Or.inr ⟨admitted, body, later, asked, Or.inr ⟨hwebsocket, hswitched, frames, hforwarded, hframes⟩⟩

/-- Bytes that are sent do not change what was asked. -/
theorem Asked.sent (asked : Asked settings admitted body later wire) (peer : Peer)
    (bytes : List UInt8) : Asked settings admitted body later (wire.sent peer bytes) := by
  cases peer <;> exact ⟨asked.received, asked.length⟩

/-- Nor do bytes from the controller. -/
theorem Asked.took (asked : Asked settings admitted body later wire) (bytes : List UInt8) :
    Asked settings admitted body later (wire.took .upstream bytes) :=
  ⟨asked.received, asked.length⟩

/-- Once it has switched, frames go both ways. -/
theorem relaySwitched_spec (asked : Asked settings admitted body later wire)
    (hwebsocket : admitted.websocket = true) (hswitched : switching <+: wire.answered)
    (hforwarded : wire.forwarded = written settings admitted body) :
    wp relayEnvironment (OneRequest settings) (relaySwitched later)
      (fun _ t => OneRequest settings t) wire := by
  have hpart : ∀ frames, frames <+: later → OneRequest settings (wire.sent .upstream frames) := by
    intro frames hframes
    refine (asked.sent .upstream frames).splices hwebsocket hswitched ?_ hframes
    rw [Wire.sent, hforwarded]
  rw [relaySwitched, wp_bind]
  apply writeAll_spec
  · exact hpart
  · exact hpart
  rw [Bool.not_true, if_neg Bool.false_ne_true, wp_bind]
  apply copyBidirectional_spec
  intro frames sent bytes taken hsent
  have hsplices : OneRequest settings
      ((((wire.sent .upstream later).took .client frames).sent .upstream sent).took .upstream
        bytes) := by
    have hasked := (asked.sent .upstream later).client frames
    have hframes : later ++ sent <+: later ++ frames :=
      List.prefix_append_right_inj later |>.2 hsent
    refine ((hasked.sent .upstream sent).took bytes).splices hwebsocket
      (hswitched.trans (List.prefix_append _ bytes)) ?_ hframes
    · simp only [Wire.took, Wire.sent, hforwarded, List.append_assoc]
  exact ⟨hsplices.returned taken, hsplices.returned taken⟩

/-- The answer is passed back, and the frames of the client follow only behind a switch. -/
theorem relayUpgrade_spec (asked : Asked settings admitted body later wire)
    (hwebsocket : admitted.websocket = true) (hanswered : wire.answered = [])
    (hforwarded : wire.forwarded = written settings admitted body) :
    wp relayEnvironment (OneRequest settings) (relayUpgrade later)
      (fun _ t => OneRequest settings t) wire := by
  have one : OneRequest settings wire :=
    Or.inr ⟨admitted, body, later, asked, Or.inl (hforwarded ▸ List.prefix_refl _)⟩
  rw [relayUpgrade, wp_bind]
  apply readHead_spec
  · exact fun bytes => one.took .upstream bytes
  · intro bytes result hresult
    have answered := one.took .upstream bytes
    cases result with
    | unreadable => exact answered
    | refused => exact answered
    | head responseHead responseRest =>
      obtain ⟨hbytes, -⟩ := hresult
      rw [List.nil_append] at hbytes
      dsimp only
      rw [wp_bind]
      apply writeAll_spec
      · exact fun taken _ => answered.returned taken
      · exact fun taken _ => answered.returned taken
      have headSent := answered.returned responseHead
      rw [Bool.not_true, if_neg Bool.false_ne_true, wp_bind]
      apply writeAll_spec
      · exact fun taken _ => headSent.returned taken
      · exact fun taken _ => headSent.returned taken
      have endSent := headSent.returned headEnd
      rw [Bool.not_true, if_neg Bool.false_ne_true, wp_bind]
      apply writeAll_spec
      · exact fun taken _ => endSent.returned taken
      · exact fun taken _ => endSent.returned taken
      have restSent := endSent.returned responseRest
      rw [Bool.not_true, if_neg Bool.false_ne_true]
      by_cases hswitched : switching.isPrefixOf responseHead = true
      · rw [hswitched, Bool.not_true, if_neg Bool.false_ne_true]
        apply relaySwitched_spec ((((asked.took bytes).sent _ _).sent _ _).sent _ _) hwebsocket
        · have hprefix : switching <+: bytes := by
            rw [hbytes, List.append_assoc]
            exact (List.isPrefixOf_iff_prefix.1 hswitched).trans (List.prefix_append _ _)
          simp only [Wire.took, Wire.sent, hanswered, List.nil_append]
          exact hprefix
        · exact hforwarded
      · rw [Bool.not_eq_true] at hswitched
        rw [hswitched, Bool.not_false, if_pos rfl, wp_bind]
        apply copy_spec
        intro more taken
        have copied := (restSent.took .upstream more).returned taken
        exact ⟨copied, copied⟩

/-- An admitted request goes to the controller as it is written, and nothing else does. -/
theorem relayAdmitted_spec (asked : Asked settings admitted body later wire)
    (hanswered : wire.answered = []) (hquiet : wire.forwarded = []) :
    wp relayEnvironment (OneRequest settings) (relayAdmitted settings admitted body later)
      (fun _ t => OneRequest settings t) wire := by
  have one : OneRequest settings wire := Or.inl hquiet
  have hpart : ∀ {wire' : Wire} (part : List UInt8), Asked settings admitted body later wire' →
      part <+: written settings admitted body → wire'.forwarded = part →
        OneRequest settings wire' := fun part asked hprefix hforwarded =>
    Or.inr ⟨admitted, body, later, asked, Or.inl (hforwarded ▸ hprefix)⟩
  rw [relayAdmitted, wp_bind]
  apply connect_spec one
  intro connected
  cases connected with
  | false => exact one
  | true =>
    rw [Bool.not_true, if_neg Bool.false_ne_true, wp_bind]
    have hhead : ∀ taken, taken <+: encode (upstreamHead settings admitted.request
        admitted.query admitted.websocket admitted.length) →
          OneRequest settings (wire.sent .upstream taken) := by
      intro taken htaken
      refine hpart taken (asked.sent _ _) (htaken.trans (List.prefix_append _ body)) ?_
      rw [Wire.sent, hquiet, List.nil_append]
    apply writeAll_spec hhead hhead
    rw [Bool.not_true, if_neg Bool.false_ne_true, wp_bind]
    have hbody : ∀ taken, taken <+: body → OneRequest settings ((wire.sent .upstream
        (encode (upstreamHead settings admitted.request admitted.query admitted.websocket
          admitted.length))).sent .upstream taken) := by
      intro taken htaken
      refine hpart _ ((asked.sent _ _).sent _ _)
        ((List.prefix_append_right_inj _).2 htaken) ?_
      simp only [Wire.sent, hquiet, List.nil_append]
    apply writeAll_spec hbody hbody
    have hall := hbody body (List.prefix_refl body)
    rw [Bool.not_true, if_neg Bool.false_ne_true]
    by_cases hwebsocket : admitted.websocket = true
    · rw [if_neg (by rw [hwebsocket]; exact Bool.false_ne_true)]
      refine relayUpgrade_spec ((asked.sent _ _).sent _ _) hwebsocket hanswered ?_
      simp only [Wire.sent, hquiet, List.nil_append, written]
    · rw [Bool.not_eq_true] at hwebsocket
      rw [if_pos (by rw [hwebsocket]; rfl), wp_bind]
      apply copy_spec
      intro bytes taken
      have copied := (hall.took .upstream bytes).returned taken
      exact ⟨copied, copied⟩

/-- A connection carries one request. -/
theorem relay_spec (settings : Settings) :
    wp relayEnvironment (OneRequest settings) (relay settings)
      (fun _ t => OneRequest settings t) .empty := by
  have hquiet : ∀ bytes more, OneRequest settings ((Wire.empty.took .client bytes).took .client
      more) := fun _ _ => Or.inl rfl
  rw [relay, wp_bind]
  apply readHead_spec
  · exact fun bytes => Or.inl rfl
  · intro bytes result hresult
    cases result with
    | unreadable => exact Or.inl rfl
    | refused => exact Or.inl rfl
    | head head rest =>
      obtain ⟨hbytes, hposition⟩ := hresult
      rw [List.nil_append] at hbytes hposition
      dsimp only
      cases hadmitted : admittedRequest settings head with
      | error rejection => exact Or.inl rfl
      | ok admitted =>
        dsimp only
        rw [wp_bind]
        apply readBody_spec (List.length_take_le _ _)
        · exact hquiet bytes
        · exact hquiet bytes
        · intro more hlength
          refine relayAdmitted_spec ⟨⟨head, ?_, ?_, hadmitted⟩, hlength⟩ rfl rfl
          · have hrest : rest ++ more =
                rest.take admitted.length ++ more ++ rest.drop admitted.length := by
              by_cases hlong : admitted.length ≤ rest.length
              · -- The body was read along with the head.
                rw [List.length_append, List.length_take, Nat.min_eq_left hlong] at hlength
                rw [List.length_eq_zero_iff.1 (Nat.add_left_cancel hlength), List.append_nil,
                  List.append_nil, List.take_append_drop]
              · have hshort := Nat.le_of_not_le hlong
                rw [List.take_of_length_le hshort, List.drop_of_length_le hshort, List.append_nil]
            simp only [Wire.took, Wire.empty, List.nil_append]
            rw [hbytes, ← hrest, List.append_assoc, List.append_assoc]
          · exact position_append hposition more

/-- The rest of a client that was refused goes nowhere. -/
theorem drain_spec {wire : Wire} (one : OneRequest settings wire) (drained : Nat) :
    wp relayEnvironment (OneRequest settings) (drain drained)
      (fun _ t => OneRequest settings t) wire := by
  induction hsize : maxBodyBytes - drained using Nat.strong_induction_on
    generalizing drained wire with
  | _ size ih =>
    rw [drain]
    by_cases hmissing : drained < maxBodyBytes
    · rw [if_pos hmissing, wp_bind]
      apply readBytes_spec ⟨one, one⟩
      intro bytes hlimit
      have took := one.took .client bytes
      refine ⟨took, ?_⟩
      dsimp only
      by_cases hend : bytes = []
      · rw [if_pos hend]
        exact took
      · have hpositive := List.length_pos_iff.2 hend
        rw [if_neg hend]
        exact ih _ (by omega) took _ rfl
    · rw [if_neg hmissing]
      exact one

/-- Every connection sends one request at most, which was admitted. -/
theorem serve_spec (settings : Settings) :
    wp relayEnvironment (OneRequest settings) (serve settings)
      (fun _ t => OneRequest settings t) .empty := by
  rw [serve, wp_bind]
  refine wp_mono (relay_spec settings) fun result t one => ?_
  cases result with
  | ok _ => exact drain_spec one 0
  | error error =>
    cases error with
    | none => exact drain_spec one 0
    | some rejection =>
      dsimp only
      rw [wp_bind]
      apply writeAll_spec
      · exact fun taken _ => one.returned taken
      · exact fun taken _ => drain_spec (one.returned taken) 0
      · exact drain_spec (one.returned _) 0

end Request

/-! ## What the controller reads -/

/-- The request that stands at the front of some bytes, and what follows it. -/
def readRequest (bytes : List UInt8) : Option (Request × List UInt8) := do
  let place ← position headEnd bytes
  let text ← fromUtf8 (bytes.take place)
  let request ← parseHead text
  some (request, bytes.drop (place + headEnd.length))

section Framing

/-- A text is encoded part by part. -/
theorem encode_append (text more : List Char) : encode (text ++ more) = encode text ++ encode more :=
  List.flatMap_append

/-- A line without a carriage return has none in its bytes. -/
theorem return_notMem_encode {line : List Char} (h : '\r' ∉ line) : 13 ∉ encode line := by
  intro hmem
  exact h (Utf8.mem_of_ascii (Utf8.fromUtf8_encode line) hmem (by decide))

/-- The end of a head is not before its first carriage return. -/
theorem position_skip {before : List UInt8} (h : 13 ∉ before) (rest : List UInt8) :
    position headEnd (before ++ rest) = (position headEnd rest).map (· + before.length) := by
  induction before with
  | nil => exact Option.map_id'.symm
  | cons b before ih =>
    have hfirst : ¬headEnd.isPrefixOf (b :: (before ++ rest)) = true := by
      rw [List.isPrefixOf_iff_prefix]
      intro hprefix
      exact List.ne_of_not_mem_cons h (List.cons_prefix_cons.1 hprefix).1
    rw [List.cons_append, position, if_neg hfirst, ih (List.not_mem_of_not_mem_cons h),
      Option.map_map]
    rfl

/-- Behind a line end that a line follows the head goes on. -/
theorem position_lineBreak {line : List UInt8} (h : 13 ∉ line) (hne : line ≠ [])
    (rest : List UInt8) :
    position headEnd (lineBreak ++ (line ++ rest)) =
      (position headEnd (line ++ rest)).map (· + 2) := by
  obtain ⟨b, line, rfl⟩ := List.exists_cons_of_ne_nil hne
  have hb := List.ne_of_not_mem_cons h
  have hreturn : ¬headEnd.isPrefixOf (13 :: 10 :: (b :: line ++ rest)) = true := by
    rw [List.isPrefixOf_iff_prefix]
    intro hprefix
    have htail := (List.cons_prefix_cons.1 (List.cons_prefix_cons.1 hprefix).2).2
    exact hb (List.cons_prefix_cons.1 htail).1
  have hfeed : ¬headEnd.isPrefixOf (10 :: (b :: line ++ rest)) = true := by
    rw [List.isPrefixOf_iff_prefix]
    intro hprefix
    exact absurd (List.cons_prefix_cons.1 hprefix).1 (by decide)
  change position headEnd (13 :: 10 :: (b :: line ++ rest)) = _
  rw [position, if_neg hreturn, position, if_neg hfeed, Option.map_map]
  rfl

/-- A head of lines ends at its first blank line. -/
theorem position_lines {first : List Char} {lines : List (List Char)} (hfirst : '\r' ∉ first)
    (hlines : ∀ line ∈ lines, '\r' ∉ line ∧ line ≠ []) (rest : List UInt8) :
    position headEnd (encode (joinLines first lines) ++ (headEnd ++ rest)) =
      some (encode (joinLines first lines)).length := by
  induction lines generalizing first with
  | nil =>
    rw [joinLines, List.flatMap_nil, List.append_nil, position_skip (return_notMem_encode hfirst)]
    have hend : position headEnd (headEnd ++ rest) = some 0 := rfl
    rw [hend, Option.map_some, Nat.zero_add]
  | cons line lines ih =>
    obtain ⟨hline, hne⟩ := hlines line List.mem_cons_self
    have hjoin : encode (joinLines first (line :: lines)) =
        encode first ++ (lineBreak ++ encode (joinLines line lines)) := by
      have htext : joinLines first (line :: lines) = first ++ (lineEnd ++ joinLines line lines) := by
        simp only [joinLines, List.flatMap_cons, List.append_assoc]
      rw [htext, encode_append, encode_append]
      rfl
    have hrest : encode (joinLines line lines) ++ (headEnd ++ rest) =
        encode line ++ (encode (lines.flatMap (lineEnd ++ ·)) ++ (headEnd ++ rest)) := by
      rw [joinLines, encode_append, List.append_assoc]
    rw [hjoin, List.append_assoc, position_skip (return_notMem_encode hfirst), List.append_assoc,
      hrest, position_lineBreak (return_notMem_encode hline) (Utf8.encode_ne_nil hne), ← hrest,
      ih hline fun other hother => hlines other (List.mem_cons_of_mem _ hother)]
    simp only [Option.map_some, List.length_append, Option.some_inj]
    rw [show lineBreak.length = 2 from rfl]
    omega

variable {settings : Settings} {request : Request} {segments : List (List Char)}
  {query : List Char}

/-- What is written is read as one request, and what follows it stays. -/
theorem Passed.readRequest (passed : Passed request segments query) (drawn : settings.Drawn)
    (websocket : Bool) (length : Nat) (more : List UInt8) :
    readRequest (encode (upstreamHead settings request query websocket length) ++ more) =
      some (sentRequest settings request query websocket length, more) := by
  obtain ⟨hfirst, hlines⟩ := passed.lines drawn websocket length
  have hbytes : encode (upstreamHead settings request query websocket length) ++ more =
      encode (sentHead settings request query websocket length) ++ (headEnd ++ more) := by
    rw [upstreamHead_eq, encode_append, List.append_assoc]
    rfl
  have hplace := position_lines hfirst hlines more
  rw [hbytes]
  unfold ControllerProxy.readRequest
  rw [show joinLines (requestLine request.method request.path query)
      ((upstreamHeaders settings request websocket length).map headerLine) =
    sentHead settings request query websocket length from rfl] at hplace
  rw [hplace, Option.bind_eq_bind, Option.bind_some, List.take_left, Utf8.fromUtf8_encode,
    Option.bind_eq_bind, Option.bind_some, passed.parseHead drawn, Option.bind_eq_bind,
    Option.bind_some, ← List.append_assoc, List.drop_left' List.length_append]

end Framing

/-! ## Headers of the proxy's own -/

section Headers

variable (settings : Settings) (request : Request) (query : List Char) (websocket : Bool)
  (length : Nat)

/-- A header that is never forwarded is one of the proxy's own. -/
theorem header_sentRequest {name : String}
    (hname : ∀ allowed ∈ forwardedHeaders, eqIgnoreAsciiCase allowed name.toList = false) :
    (sentRequest settings request query websocket length).header name =
      ((leadingHeaders settings ++ framingHeaders request.method websocket length).find?
        fun header => eqIgnoreAsciiCase header.1 name.toList).map Prod.snd := by
  rw [Request.header, sentRequest, ← List.head?_filter, named_upstreamHeaders hname,
    List.head?_filter]

/-- The one host that is sent is the controller's address. -/
theorem host_sentRequest :
    (sentRequest settings request query websocket length).named "host".toList =
      [("Host".toList, "127.0.0.1:".toList ++ Nat.toDigits 10 settings.upstreamPort)] := by
  rw [Request.named, sentRequest, named_upstreamHeaders (by decide +kernel)]
  unfold framingHeaders
  split_ifs <;> rfl

/-- The one credential that is sent is the controller's secret. -/
theorem authorization_sentRequest :
    (sentRequest settings request query websocket length).named "authorization".toList =
      [("Authorization".toList, "Bearer ".toList ++ settings.upstreamSecret)] := by
  rw [Request.named, sentRequest, named_upstreamHeaders (by decide +kernel)]
  unfold framingHeaders
  split_ifs <;> rfl

/-- No request is sent in chunks. -/
theorem transferEncoding_sentRequest :
    (sentRequest settings request query websocket length).header "transfer-encoding" = none := by
  rw [header_sentRequest _ _ _ _ _ (by decide +kernel)]
  unfold framingHeaders
  split_ifs <;> rfl

/-- The length that is sent is the one that was read, and it is sent once. -/
theorem bodyLength_sentRequest (h : length ≤ maxBodyBytes) :
    bodyLength (sentRequest settings request query websocket length) = some length ∧
      (sentRequest settings request query websocket length).headerCount "content-length" ≤ 1 := by
  have hparsed : Text.parseRadix 10 (2 ^ 64 - 1) (Nat.toDigits 10 length) = some length :=
    Text.parseRadix_toDigits (h.trans (by decide))
  have hfound : ∀ tail, (leadingHeaders settings ++ tail).filter
      (fun header => eqIgnoreAsciiCase header.1 "content-length".toList) =
        tail.filter fun header => eqIgnoreAsciiCase header.1 "content-length".toList :=
    fun _ => rfl
  have hcount : ((sentRequest settings request query websocket length).named
      "content-length".toList) = if carriesLength request.method length then
        [("Content-Length".toList, Nat.toDigits 10 length)] else [] := by
    rw [Request.named, sentRequest, named_upstreamHeaders (by decide +kernel), hfound]
    unfold framingHeaders
    split_ifs <;> rfl
  rw [bodyLength, Request.header, ← List.head?_filter]
  rw [Request.headerCount]
  rw [Request.named] at hcount ⊢
  rw [hcount]
  cases hcarries : carriesLength request.method length with
  | true =>
    rw [if_pos rfl]
    exact ⟨hparsed, Nat.le_refl 1⟩
  | false =>
    rw [carriesLength, Bool.or_eq_false_iff, decide_eq_false_iff_not, Nat.not_lt,
      Nat.le_zero] at hcarries
    rw [if_neg Bool.false_ne_true, hcarries.1]
    exact ⟨rfl, Nat.zero_le 1⟩

end Headers

/-! ## What reaches the controller -/

/-- A composition succeeds when both parts do. -/
theorem bind_eq_ok {ε α β : Type} {x : Except ε α} {f : α → Except ε β} {b : β} :
    (x >>= f) = .ok b ↔ ∃ a, x = .ok a ∧ f a = .ok b := by
  cases x with
  | error error => simp [bind, Except.bind]
  | ok a => simp [bind, Except.bind]

/-- What is not refused is there. -/
theorem orReject_eq_ok {α : Type} {rejection : Rejection} {value : Option α} {a : α} :
    orReject rejection value = .ok a ↔ value = some a := by
  cases value <;> simp [orReject]

/-- What is not refused holds. -/
theorem require_eq_ok {rejection : Rejection} {holds : Bool} {u : Unit} :
    require rejection holds = .ok u ↔ holds = true := by
  cases holds <;> simp [require]

/-- What is admitted has passed every check. -/
structure Admits (settings : Settings) (head : List UInt8) (admitted : Admitted) : Prop where
  parsed : ∃ text, fromUtf8 head = some text ∧ parseHead text = some admitted.request
  authorised : authorised admitted.request settings.token = true
  websocket : admitted.websocket = upgrades admitted.request
  allowed : isAllowed (String.ofList admitted.request.method)
    (admitted.segments.map String.ofList) admitted.websocket = true
  passed : Passed admitted.request admitted.segments admitted.query
  length : bodyLength admitted.request = some admitted.length ∧ admitted.length ≤ maxBodyBytes

/-- A head that is admitted passed every check. -/
theorem admits_of_admitted {settings : Settings} {head : List UInt8} {admitted : Admitted}
    (h : admittedRequest settings head = .ok admitted) : Admits settings head admitted := by
  simp only [admittedRequest, bind_eq_ok, orReject_eq_ok, require_eq_ok, Except.ok.injEq] at h
  obtain ⟨text, htext, request, hrequest, _, hauthorised, segments, hsegments, _, hallowed, query,
    hquery, _, -, length, hlength, _, hsize, rfl⟩ := h
  obtain ⟨hmethod, hheaders⟩ := parseHead_eq_some hrequest
  rw [Bool.not_eq_true', decide_eq_false_iff_not, Nat.not_lt] at hsize
  exact ⟨⟨text, htext, hrequest⟩, hauthorised, rfl, hallowed,
    ⟨hmethod, hheaders, hsegments, hquery⟩, hlength, hsize⟩

/-- The head and the body of one request as the controller reads them: those of an admitted request
of the client, with the secret for its credentials and the length of the body for its framing. -/
structure ReadsAs (settings : Settings) (request : Request) (body : List UInt8)
    (sent : Request) (bytes : List UInt8) : Prop where
  read : ∀ more, readRequest (bytes ++ more) = some (sent, body ++ more)
  line : sent.method = request.method ∧ sent.path = request.path
  query : ∃ query, forwardedQuery request.query = some query ∧ sent.query = sentQuery query
  token : ∀ query ∈ sent.query, ∀ pair ∈ Text.pieces (· == '&') query, keepsPair pair = true
  /-- The proxy's own headers stand around every header of the client that is passed on, in the
  client's order, and there are no others. -/
  headers : sent.headers = leadingHeaders settings ++ request.headers.filter isForwarded ++
    framingHeaders request.method (upgrades request) body.length
  clean : ∀ header ∈ sent.headers, Clean header
  host : sent.named "host".toList =
    [("Host".toList, "127.0.0.1:".toList ++ Nat.toDigits 10 settings.upstreamPort)]
  credential : sent.named "authorization".toList =
    [("Authorization".toList, "Bearer ".toList ++ settings.upstreamSecret)]
  framing : bodyLength sent = some body.length ∧ sent.headerCount "content-length" ≤ 1 ∧
    sent.header "transfer-encoding" = none

/-- What is sent for an admitted head reads as the request that was admitted. -/
theorem Admits.readsAs {settings : Settings} {head body : List UInt8} {admitted : Admitted}
    (admits : Admits settings head admitted) (drawn : settings.Drawn)
    (hlength : body.length = admitted.length) :
    ReadsAs settings admitted.request body
      (sentRequest settings admitted.request admitted.query admitted.websocket admitted.length)
      (written settings admitted body) := by
  have hbody := bodyLength_sentRequest settings admitted.request admitted.query admitted.websocket
    admitted.length admits.length.2
  constructor
  · intro more
    rw [written, List.append_assoc, admits.passed.readRequest drawn]
  · exact ⟨rfl, rfl⟩
  · exact ⟨admitted.query, admits.passed.query, rfl⟩
  · intro query hquery
    rcases forwardedQuery_cases admits.passed.query with hempty | ⟨kept, hkept, -, hpairs⟩
    · rw [sentRequest, hempty] at hquery
      exact nomatch hquery
    · rw [sentRequest, hkept] at hquery
      obtain rfl := Option.some.inj hquery
      exact hpairs
  · rw [hlength, ← admits.websocket, sentRequest, upstreamHeaders]
  · exact clean_upstreamHeaders drawn admits.passed.headers _ _
  · exact host_sentRequest _ _ _ _ _
  · exact authorization_sentRequest _ _ _ _ _
  · rw [hlength]
    exact ⟨hbody.1, hbody.2, transferEncoding_sentRequest _ _ _ _ _⟩

/-- However a connection goes and wherever it breaks off, what has reached the controller is
nothing, or a part of one request that it reads as the proxy admitted it, or that request and a
part of what the client sent behind it where the controller has switched protocols. -/
theorem controller_reads_one_request {settings : Settings} (drawn : settings.Drawn) {wire : Wire}
    (run : Reaches relayEnvironment (serve settings) .empty wire) :
    wire.forwarded = [] ∨ ∃ request segments body later sent bytes,
      readRequest wire.received = some (request, body ++ later) ∧
      authorised request settings.token = true ∧
      pathSegments (encode request.path) = some segments ∧
      isAllowed (String.ofList request.method) (segments.map String.ofList) (upgrades request) =
        true ∧
      ReadsAs settings request body sent bytes ∧
      (wire.forwarded <+: bytes ∨
        upgrades request = true ∧ switching <+: wire.answered ∧
          ∃ frames, wire.forwarded = bytes ++ frames ∧ frames <+: later) := by
  have one : OneRequest settings wire := wp_reaches (Or.inl rfl) (serve_spec settings) run
  rcases one with hquiet | ⟨admitted, body, later, asked, forwards⟩
  · exact Or.inl hquiet
  right
  obtain ⟨head, hreceived, hposition, hadmitted⟩ := asked.received
  have admits := admits_of_admitted hadmitted
  obtain ⟨text, htext, hparsed⟩ := admits.parsed
  refine ⟨admitted.request, admitted.segments, body, later, _, _, ?_, admits.authorised,
    admits.passed.path, admits.websocket ▸ admits.allowed, admits.readsAs drawn asked.length, ?_⟩
  · have htake : wire.received.take head.length = head := by
      rw [hreceived, List.append_assoc, List.take_left]
    have hdrop : wire.received.drop (head.length + headEnd.length) = body ++ later := by
      rw [hreceived, List.drop_left' List.length_append]
    rw [readRequest, hposition, Option.bind_eq_bind, Option.bind_some, htake, htext,
      Option.bind_eq_bind, Option.bind_some, hparsed, Option.bind_eq_bind, Option.bind_some, hdrop]
  · rw [← admits.websocket]
    exact forwards

/-! ## A request for the version -/

/-- An endpoint with one secret for the controller and another for the page. -/
def versionSettings : Settings :=
  ⟨9090, randomSecret (List.replicate 32 0x11), randomSecret (List.replicate 32 0xAB)⟩

/-- A request with a header that is passed on and one that is not. -/
def versionHead : List Char :=
  "GET /version HTTP/1.1\r\nAuthorization: Bearer ".toList ++ versionSettings.token ++
    "\r\nAccept: application/json\r\nCookie: session=1".toList

/-- A request for the version, with a cookie beside what may be forwarded. -/
def versionAdmitted : Admitted :=
  ⟨⟨"GET".toList, "/version".toList, none,
    [("Authorization".toList, "Bearer ".toList ++ versionSettings.token),
      ("Accept".toList, "application/json".toList), ("Cookie".toList, "session=1".toList)]⟩,
    ["version".toList], [], false, 0⟩

/-- The request for the version is admitted. -/
theorem versionHead_admitted :
    position headEnd (encode versionHead ++ headEnd) = some (encode versionHead).length ∧
      (encode versionHead ++ headEnd).length ≤ 4096 ∧
      admittedRequest versionSettings (encode versionHead) = .ok versionAdmitted := by
  decide +kernel

/-- The wire with the whole request passed on. -/
def versionWire : Wire :=
  (Wire.empty.took .client (encode versionHead ++ headEnd)).sent .upstream
    (encode (upstreamHead versionSettings versionAdmitted.request [] false 0))

/-- The exchange of the version can be run. -/
theorem versionWire_reached :
    Reaches relayEnvironment (serve versionSettings) .empty versionWire := by
  obtain ⟨hposition, hlimit, hadmitted⟩ := versionHead_admitted
  have hread : Executes relayEnvironment (readHead .client []) .empty
      (.head (encode versionHead) []) (Wire.empty.took .client (encode versionHead ++ headEnd)) := by
    rw [readHead, show position headEnd [] = none from rfl]
    refine Executes.ask (RelayResponds.read .empty .client 4096 _ hlimit) ?_
    change Executes relayEnvironment (if encode versionHead ++ headEnd = [] then pure .refused
      else readHead .client ([] ++ (encode versionHead ++ headEnd))) _ _ _
    rw [if_neg (List.append_ne_nil_of_right_ne_nil _ (by decide)), List.nil_append, readHead,
      hposition]
    dsimp only
    have hrest : (encode versionHead ++ headEnd).drop ((encode versionHead).length + 4) = [] := by
      rw [← List.drop_drop, List.drop_left]
      rfl
    rw [List.take_left, hrest]
    exact .done _ _
  apply reaches_bind
  refine reaches_after hread ?_
  dsimp only
  rw [hadmitted]
  dsimp only
  rw [readBody, if_neg (by decide)]
  refine Reaches.later (RelayResponds.connect _ true) (Reaches.later
    (RelayResponds.write _ .upstream _ _ true (List.prefix_refl _) fun _ => rfl) (.here _ _))

/-- A request for the version reaches the controller whole. -/
theorem controller_reads_version : ∃ request segments body later sent bytes,
    readRequest versionWire.received = some (request, body ++ later) ∧
    authorised request versionSettings.token = true ∧
    pathSegments (encode request.path) = some segments ∧
    isAllowed (String.ofList request.method) (segments.map String.ofList) (upgrades request) =
      true ∧
    ReadsAs versionSettings request body sent bytes ∧
    (versionWire.forwarded <+: bytes ∨
      upgrades request = true ∧ switching <+: versionWire.answered ∧
        ∃ frames, versionWire.forwarded = bytes ++ frames ∧ frames <+: later) := by
  have drawn : versionSettings.Drawn :=
    ⟨⟨_, List.length_replicate, rfl⟩, ⟨_, List.length_replicate, rfl⟩⟩
  refine (controller_reads_one_request drawn versionWire_reached).resolve_left ?_
  exact Utf8.encode_ne_nil (List.append_ne_nil_of_right_ne_nil _ (by decide))

end MultiCore.Service.ControllerProxy
