import MultiCore.Desktop.DeepLinks
import MultiCore.Library.Run

/-!
# Approved subscription links

Links that other programs propose wait for consent, and approved ones for their
import. The queue is told of every import by the text of its link only, so it takes
the answer of a hand-typed import of the link that it has in flight for its own, and
it never recognises the answer of an import that was begun with another text.
-/

namespace MultiCore.Desktop

open Transition (Edge Run)

/-- `MAX_PENDING_SUBSCRIPTION_IMPORTS`. -/
def maxPendingSubscriptionImports : Nat := 16

/-- What the user is asked about: the link and its host. -/
structure SubscriptionProposal where
  url : String
  host : String
  deriving DecidableEq, Repr

/-- Links that wait for consent, oldest first. -/
structure PendingSubscriptionConsents where
  proposals : List SubscriptionProposal
  deriving DecidableEq, Repr

/-- Approved links, oldest first; times are in milliseconds. -/
structure PendingSubscriptionImports where
  urls : List String
  inFlight : Bool
  attempts : Nat
  retryAt : Option Nat
  deriving DecidableEq, Repr

/-- What became of an attempt. -/
inductive PendingImportOutcome where
  | notQueued
  | retryScheduled
  | succeeded
  | failed
  deriving DecidableEq, Repr

namespace PendingSubscriptionImports

/-- `enqueue`: a full queue takes nothing. -/
def enqueue (imports : PendingSubscriptionImports) (url : String) :
    Bool × PendingSubscriptionImports :=
  if maxPendingSubscriptionImports ≤ imports.urls.length then (false, imports)
  else (true, { imports with urls := imports.urls ++ [url] })

/-- Begins the import of the front link when none is in flight and the wait for a retry is over. -/
def dispatchNext (imports : PendingSubscriptionImports) (now : Nat) (tryImport : String → Bool) :
    Bool × PendingSubscriptionImports :=
  if imports.inFlight || imports.retryAt.any (now < ·) then (false, imports)
  else
    match imports.urls with
    | [] => (false, imports)
    | url :: _ =>
      if !tryImport url then (false, imports)
      else (true, { imports with inFlight := true, attempts := imports.attempts + 1 })

/-- `finish_attempt`: three attempts at most, only for the first in the queue. -/
def finishAttempt (imports : PendingSubscriptionImports) (url : String) (succeeded : Bool)
    (now : Nat) : PendingImportOutcome × PendingSubscriptionImports :=
  if imports.urls.head? ≠ some url then (.notQueued, imports)
  else if succeeded || 3 ≤ imports.attempts then
    (if succeeded then .succeeded else .failed, ⟨imports.urls.tail, false, 0, none⟩)
  else if imports.inFlight then
    (.retryScheduled, { imports with
      inFlight := false
      retryAt := some (now + if imports.attempts = 1 then 2000 else 5000) })
  else (.notQueued, imports)

end PendingSubscriptionImports

namespace PendingSubscriptionConsents

/-- `enqueue`: a link that is too long or does not parse is not proposed. -/
def enqueue (parse : String → Option ParsedUrl) (consents : PendingSubscriptionConsents)
    (url : String) : Bool × PendingSubscriptionConsents :=
  if maxPendingSubscriptionImports ≤ consents.proposals.length ||
      maxSubscriptionUrlBytes < url.utf8ByteSize ||
      (Utf8.encode url.toList).any isAsciiControl then (false, consents)
  else
    match parse url with
    | none => (false, consents)
    | some parsed =>
      if (parsed.scheme ≠ "http" && parsed.scheme ≠ "https") || parsed.fragment.isSome then
        (false, consents)
      else
        match parsed.host with
        | none => (false, consents)
        | some host => (true, ⟨consents.proposals ++ [⟨url, host⟩]⟩)

/-- Moves the front proposal to the imports when there is room. -/
def approveNext (consents : PendingSubscriptionConsents) (imports : PendingSubscriptionImports) :
    Bool × PendingSubscriptionConsents × PendingSubscriptionImports :=
  match consents.proposals with
  | [] => (false, consents, imports)
  | proposal :: rest =>
    if !(imports.enqueue proposal.url).1 then (false, consents, imports)
    else (true, ⟨rest⟩, (imports.enqueue proposal.url).2)

/-- `reject_next`. -/
def rejectNext (consents : PendingSubscriptionConsents) : Bool × PendingSubscriptionConsents :=
  match consents.proposals with
  | [] => (false, consents)
  | _ :: rest => (true, ⟨rest⟩)

end PendingSubscriptionConsents

/-! ## The application -/

/-- An import that runs: the text it was begun with, and the approved link it is for. -/
structure BegunImport where
  url : String
  ticket : Option Nat
  deriving DecidableEq, Repr

/-- Both queues and the imports that run. What was approved, what has left the queue and how many
attempts of the front link failed is remembered beside them. -/
structure ImportSystem where
  consents : PendingSubscriptionConsents
  imports : PendingSubscriptionImports
  outstanding : List BegunImport
  approved : List String
  departed : List String
  failures : Nat
  deriving DecidableEq, Repr

/-- Nothing proposed, nothing queued. -/
def ImportSystem.initial : ImportSystem := ⟨⟨[]⟩, ⟨[], false, 0, none⟩, [], [], [], 0⟩

/-- What happens; an import by hand is one that the model accepted. -/
inductive ImportEvent where
  | propose (url : String)
  | approve
  | reject
  | dispatch (now : Nat) (accepts : Bool)
  | typed (text : String)
  | answer (begun : BegunImport) (succeeded : Bool) (now : Nat)
  deriving DecidableEq, Repr

namespace ImportSystem

/-- What the approval of the front proposal leads to. -/
def approve (state : ImportSystem) : ImportSystem :=
  match state.consents.proposals, state.consents.approveNext state.imports with
  | proposal :: _, (true, consents, imports) =>
    { state with
      consents := consents
      imports := imports
      approved := state.approved ++ [proposal.url] }
  | _, _ => state

/-- An import is begun with the text of the front link, trimmed. -/
def dispatch (state : ImportSystem) (now : Nat) (accepts : Bool) : ImportSystem :=
  match state.imports.urls, state.imports.dispatchNext now fun _ => accepts with
  | url :: _, (true, imports) =>
    { state with
      imports := imports
      outstanding := state.outstanding ++ [⟨Text.trim url, some state.departed.length⟩] }
  | _, _ => state

/-- The answer of an import reaches the queue. -/
def answer (state : ImportSystem) (begun : BegunImport) (succeeded : Bool) (now : Nat) :
    ImportSystem :=
  let finished := state.imports.finishAttempt begun.url succeeded now
  let outstanding := state.outstanding.erase begun
  if finished.1 = .succeeded ∨ finished.1 = .failed then
    { state with
      imports := finished.2
      outstanding := outstanding
      departed := state.departed ++ [begun.url]
      failures := 0 }
  else
    { state with
      imports := finished.2
      outstanding := outstanding
      failures := if begun.ticket = some state.departed.length ∧ succeeded = false
        then state.failures + 1 else state.failures }

/-- One step of the queues. -/
def next (parse : String → Option ParsedUrl) (state : ImportSystem) : ImportEvent → ImportSystem
  | .propose url => { state with consents := (state.consents.enqueue parse url).2 }
  | .approve => state.approve
  | .reject => { state with consents := state.consents.rejectNext.2 }
  | .dispatch now accepts => state.dispatch now accepts
  | .typed text => { state with outstanding := state.outstanding ++ [⟨Text.trim text, none⟩] }
  | .answer begun succeeded now =>
    if begun ∈ state.outstanding then state.answer begun succeeded now else state

/-- The queued attempts that run. -/
def queuedAttempts (state : ImportSystem) : List BegunImport :=
  state.outstanding.filter fun begun => begun.ticket.isSome

end ImportSystem

/-- What a step must do. -/
structure Faithful (edge : Edge ImportSystem ImportEvent) : Prop where
  /-- No approved link is lost, doubled or moved. -/
  kept : edge.target.approved = edge.target.departed ++ edge.target.imports.urls
  /-- One queued attempt runs while the flag says so, and none otherwise. -/
  outstanding : edge.target.queuedAttempts.length = if edge.target.imports.inFlight then 1 else 0
  /-- A queued attempt is of the link next in the order of approval, as it was queued. -/
  ordered : ∀ begun ∈ edge.target.outstanding, ∀ ticket, begun.ticket = some ticket →
    ticket = edge.target.departed.length ∧ edge.target.approved[ticket]? = some begun.url
  /-- A link leaves for an import of it that succeeded, or for its own third failure. -/
  leaves : edge.target.departed = edge.source.departed ∨
    ∃ begun succeeded now, edge.label = .answer begun succeeded now ∧
      edge.source.approved[edge.source.departed.length]? = some begun.url ∧
      edge.target.departed = edge.source.departed ++ [begun.url] ∧
      (succeeded = false →
        begun.ticket = some edge.source.departed.length ∧ edge.source.failures = 2)
  /-- The failure of another import is not counted. -/
  own : ∀ begun now, edge.label = .answer begun false now → begun.ticket = none →
    edge.target.imports = edge.source.imports
  /-- With no attempt running, the next one can begin from some time on. -/
  unblocked : edge.target.imports.urls ≠ [] → edge.target.queuedAttempts = [] →
    ∃ ready, ∀ now, ready ≤ now →
      (edge.target.imports.dispatchNext now fun _ => true).1 = true

/-- No import by hand of the link in flight is answered while the queue's own attempt runs, and no
link with white space around it comes to be imported. -/
def ToldApart (edge : Edge ImportSystem ImportEvent) : Prop :=
  (∀ begun succeeded now, edge.label = .answer begun succeeded now →
    begun ∈ edge.source.outstanding → begun.ticket = none →
      edge.source.imports.inFlight = true → edge.source.imports.urls.head? ≠ some begun.url) ∧
  ∀ now url, edge.label = .dispatch now true → edge.source.imports.inFlight = false →
    edge.source.imports.retryAt.any (now < ·) = false →
      edge.source.imports.urls.head? = some url → Text.trim url = url

/-- What holds between the queue and the imports that run while answers are told apart. -/
structure Matched (state : ImportSystem) : Prop where
  kept : state.approved = state.departed ++ state.imports.urls
  outstanding : state.queuedAttempts.length = if state.imports.inFlight then 1 else 0
  ordered : ∀ begun ∈ state.outstanding, ∀ ticket, begun.ticket = some ticket →
    ticket = state.departed.length ∧ state.imports.urls.head? = some begun.url
  counted : state.imports.attempts = state.failures + if state.imports.inFlight then 1 else 0
  few : state.failures ≤ 2

theorem matched_initial : Matched .initial where
  kept := rfl
  outstanding := rfl
  ordered := fun _ hbegun => by cases hbegun
  counted := rfl
  few := by decide

section Steps

variable {state : ImportSystem} {begun : BegunImport} {succeeded accepts : Bool} {now : Nat}

/-- An approval appends the front proposal, or does nothing. -/
theorem approve_cases (state : ImportSystem) :
    state.approve = state ∨ ∃ (proposal : SubscriptionProposal) (rest : List _), state.approve =
      { state with
        consents := ⟨rest⟩
        imports := { state.imports with urls := state.imports.urls ++ [proposal.url] }
        approved := state.approved ++ [proposal.url] } := by
  obtain ⟨⟨proposals⟩, imports, outstanding, approved, departed, failures⟩ := state
  cases proposals with
  | nil => exact Or.inl rfl
  | cons proposal rest =>
    by_cases hfull : maxPendingSubscriptionImports ≤ imports.urls.length
    · left
      simp [ImportSystem.approve, PendingSubscriptionConsents.approveNext,
        PendingSubscriptionImports.enqueue, hfull]
    · right
      refine ⟨proposal, rest, ?_⟩
      simp [ImportSystem.approve, PendingSubscriptionConsents.approveNext,
        PendingSubscriptionImports.enqueue, hfull]

/-- A dispatch begins the front link when nothing is in flight and the wait is over, or does
nothing. -/
theorem dispatch_cases (state : ImportSystem) (now : Nat) (accepts : Bool) :
    state.dispatch now accepts = state ∨ ∃ url, accepts = true ∧ state.imports.inFlight = false ∧
      state.imports.retryAt.any (now < ·) = false ∧ state.imports.urls.head? = some url ∧
      state.dispatch now accepts =
        { state with
          imports := { state.imports with
            inFlight := true
            attempts := state.imports.attempts + 1 }
          outstanding :=
            state.outstanding ++ [⟨Text.trim url, some state.departed.length⟩] } := by
  obtain ⟨consents, ⟨urls, inFlight, attempts, retryAt⟩, outstanding, approved, departed,
    failures⟩ := state
  cases urls with
  | nil => exact Or.inl rfl
  | cons url rest =>
    by_cases hheld : (inFlight || retryAt.any (now < ·)) = true
    · left
      simp only [ImportSystem.dispatch, PendingSubscriptionImports.dispatchNext]
      rw [if_pos hheld]
    · cases haccepts : accepts with
      | false =>
        left
        simp only [ImportSystem.dispatch, PendingSubscriptionImports.dispatchNext]
        rw [if_neg hheld]
        rfl
      | true =>
        right
        rw [Bool.not_eq_true, Bool.or_eq_false_iff] at hheld
        refine ⟨url, rfl, hheld.1, hheld.2, rfl, ?_⟩
        simp only [ImportSystem.dispatch, PendingSubscriptionImports.dispatchNext]
        rw [hheld.1, hheld.2]
        rfl

/-- The answer of another link's import leaves the queue alone. -/
theorem finishAttempt_other {imports : PendingSubscriptionImports} {url : String}
    (h : imports.urls.head? ≠ some url) :
    imports.finishAttempt url succeeded now = (.notQueued, imports) := by
  rw [PendingSubscriptionImports.finishAttempt, if_pos h]

/-- An answer that is the last one takes the front link off. -/
theorem finishAttempt_last {imports : PendingSubscriptionImports} {url : String}
    (h : imports.urls.head? = some url) (hlast : succeeded = true ∨ 3 ≤ imports.attempts) :
    imports.finishAttempt url succeeded now =
      (if succeeded then .succeeded else .failed, ⟨imports.urls.tail, false, 0, none⟩) := by
  rw [PendingSubscriptionImports.finishAttempt, if_neg (not_not.2 h), if_pos]
  rw [Bool.or_eq_true, decide_eq_true_eq]
  exact hlast

/-- A failure while a link is in flight is followed by a wait. -/
theorem finishAttempt_retry {imports : PendingSubscriptionImports} {url : String}
    (h : imports.urls.head? = some url) (hattempts : imports.attempts < 3)
    (hflight : imports.inFlight = true) :
    imports.finishAttempt url false now = (.retryScheduled, { imports with
      inFlight := false
      retryAt := some (now + if imports.attempts = 1 then 2000 else 5000) }) := by
  rw [PendingSubscriptionImports.finishAttempt, if_neg (not_not.2 h), if_neg, if_pos hflight]
  rw [Bool.false_or, decide_eq_true_eq]
  omega

/-- A failure while nothing is in flight is not the queue's. -/
theorem finishAttempt_idle {imports : PendingSubscriptionImports} {url : String}
    (hattempts : imports.attempts < 3) (hflight : imports.inFlight = false) :
    imports.finishAttempt url false now = (.notQueued, imports) := by
  by_cases h : imports.urls.head? = some url
  · rw [PendingSubscriptionImports.finishAttempt, if_neg (not_not.2 h), if_neg, if_neg]
    · rw [hflight]
      exact Bool.false_ne_true
    · rw [Bool.false_or, decide_eq_true_eq]
      omega
  · exact finishAttempt_other h

/-- An answer that takes the front link off. -/
theorem answer_last (h : state.imports.urls.head? = some begun.url)
    (hlast : succeeded = true ∨ 3 ≤ state.imports.attempts) :
    state.answer begun succeeded now =
      { state with
        imports := ⟨state.imports.urls.tail, false, 0, none⟩
        outstanding := state.outstanding.erase begun
        departed := state.departed ++ [begun.url]
        failures := 0 } := by
  rw [ImportSystem.answer, finishAttempt_last h hlast]
  cases succeeded with
  | false => rfl
  | true => rfl

/-- An answer that takes nothing off the queue. -/
theorem answer_other {imports : PendingSubscriptionImports} {outcome : PendingImportOutcome}
    (h : state.imports.finishAttempt begun.url succeeded now = (outcome, imports))
    (hsucceeded : outcome ≠ .succeeded) (hfailed : outcome ≠ .failed) :
    state.answer begun succeeded now =
      { state with
        imports := imports
        outstanding := state.outstanding.erase begun
        failures := if begun.ticket = some state.departed.length ∧ succeeded = false
          then state.failures + 1 else state.failures } := by
  rw [ImportSystem.answer, h]
  simp only [hsucceeded, hfailed, or_self, if_false]

end Steps

section Invariant

variable {state : ImportSystem} {begun : BegunImport} {succeeded : Bool} {now : Nat}

theorem queuedAttempts_erase_other (h : begun.ticket = none) :
    (state.outstanding.erase begun).filter (fun other => other.ticket.isSome) =
      state.queuedAttempts := by
  have hnot : begun ∉ state.queuedAttempts := by
    intro hmem
    have hsome := (List.mem_filter.1 hmem).2
    rw [h] at hsome
    cases hsome
  rw [← List.erase_filter]
  exact List.erase_of_not_mem hnot

theorem length_queuedAttempts_erase {ticket : Nat} (h : begun.ticket = some ticket)
    (hmem : begun ∈ state.outstanding) :
    ((state.outstanding.erase begun).filter fun other => other.ticket.isSome).length =
      state.queuedAttempts.length - 1 := by
  have hqueued : begun ∈ state.queuedAttempts :=
    List.mem_filter.2 ⟨hmem, by rw [h]; rfl⟩
  rw [← List.erase_filter]
  exact List.length_erase_of_mem hqueued

theorem no_tickets_of_length {outstanding : List BegunImport}
    (h : (outstanding.filter fun other => other.ticket.isSome).length = 0) :
    ∀ other ∈ outstanding, other.ticket = none := by
  intro other hmem
  have hnone := List.filter_eq_nil_iff.1 (List.eq_nil_of_length_eq_zero h) other hmem
  rwa [Bool.not_eq_true, Option.isSome_eq_false_iff, Option.isNone_iff_eq_none] at hnone

namespace Matched

/-- A queued attempt that runs is the one in flight. -/
theorem inFlight_of_ticket (h : Matched state) {ticket : Nat} (hticket : begun.ticket = some ticket)
    (hmem : begun ∈ state.outstanding) : state.imports.inFlight = true := by
  by_contra hflight
  have hlength := h.outstanding
  rw [if_neg hflight] at hlength
  rw [no_tickets_of_length hlength begun hmem] at hticket
  cases hticket

/-- The front link is the one approved next. -/
theorem front (h : Matched state) :
    state.approved[state.departed.length]? = state.imports.urls.head? := by
  rw [h.kept, List.getElem?_append_right (Nat.le_refl _), Nat.sub_self, List.head?_eq_getElem?]

theorem approve (h : Matched state) : Matched state.approve := by
  rcases approve_cases state with hsame | ⟨proposal, rest, happroved⟩
  · rw [hsame]
    exact h
  · rw [happroved]
    refine ⟨?_, h.outstanding, ?_, h.counted, h.few⟩
    · change state.approved ++ [proposal.url] =
        state.departed ++ (state.imports.urls ++ [proposal.url])
      rw [h.kept, List.append_assoc]
    · intro begun hbegun ticket hticket
      obtain ⟨hnext, hfront⟩ := h.ordered begun hbegun ticket hticket
      refine ⟨hnext, ?_⟩
      change (state.imports.urls ++ [proposal.url]).head? = some begun.url
      rw [List.head?_append, hfront, Option.some_or]

/-- A link without white space around it is begun as it was queued. -/
theorem dispatch (h : Matched state) {accepts : Bool}
    (hplain : ∀ url, accepts = true → state.imports.inFlight = false →
      state.imports.retryAt.any (now < ·) = false → state.imports.urls.head? = some url →
        Text.trim url = url) : Matched (state.dispatch now accepts) := by
  rcases dispatch_cases state now accepts with
    hsame | ⟨url, haccepts, hflight, hwait, hfront, hbegun⟩
  · rw [hsame]
    exact h
  · have hlength := h.outstanding
    rw [hflight, if_neg Bool.false_ne_true] at hlength
    have hcounted := h.counted
    rw [hflight, if_neg Bool.false_ne_true] at hcounted
    rw [hbegun, hplain url haccepts hflight hwait hfront]
    refine ⟨h.kept, ?_, ?_, ?_, h.few⟩
    · change ((state.outstanding ++ [_]).filter _).length = 1
      rw [List.filter_append, List.length_append]
      exact congrArg (· + 1) hlength
    · intro begun hmem ticket hticket
      rcases List.mem_append.1 hmem with hmem | hmem
      · rw [no_tickets_of_length hlength begun hmem] at hticket
        cases hticket
      · rw [List.mem_singleton] at hmem
        subst hmem
        exact ⟨(Option.some_inj.1 hticket).symm, hfront⟩
    · change state.imports.attempts + 1 = state.failures + 1
      rw [hcounted, Nat.add_zero]

theorem typed (h : Matched state) (text : String) :
    Matched { state with outstanding := state.outstanding ++ [⟨Text.trim text, none⟩] } := by
  refine ⟨h.kept, ?_, ?_, h.counted, h.few⟩
  · change ((state.outstanding ++ [_]).filter _).length = _
    rw [List.filter_append, List.length_append]
    exact h.outstanding
  · intro begun hmem ticket hticket
    rcases List.mem_append.1 hmem with hmem | hmem
    · exact h.ordered begun hmem ticket hticket
    · rw [List.mem_singleton.1 hmem] at hticket
      exact absurd hticket (Option.some_ne_none ticket).symm

/-- A link that leaves takes its place in what has left. -/
theorem kept_pop (h : Matched state) {url : String} (hfront : state.imports.urls.head? = some url) :
    state.approved = state.departed ++ [url] ++ state.imports.urls.tail := by
  rw [h.kept, List.append_assoc, List.singleton_append, ← List.eq_cons_of_mem_head? hfront]

/-- The queue's own attempt is answered. -/
theorem answer_queued (h : Matched state) {ticket : Nat} (hticket : begun.ticket = some ticket)
    (hmem : begun ∈ state.outstanding) : Matched (state.answer begun succeeded now) := by
  obtain ⟨rfl, hfront⟩ := h.ordered begun hmem ticket hticket
  have hflight := h.inFlight_of_ticket hticket hmem
  have hlength : ((state.outstanding.erase begun).filter fun other =>
      other.ticket.isSome).length = 0 := by
    rw [length_queuedAttempts_erase hticket hmem, h.outstanding, if_pos hflight]
  have hnone := no_tickets_of_length hlength
  have hcounted := h.counted
  rw [if_pos hflight] at hcounted
  by_cases hlast : succeeded = true ∨ 3 ≤ state.imports.attempts
  · rw [answer_last hfront hlast]
    refine ⟨h.kept_pop hfront, hlength, ?_, rfl, Nat.zero_le _⟩
    intro other hother ticket hsome
    rw [hnone other hother] at hsome
    cases hsome
  · rw [not_or, Bool.not_eq_true] at hlast
    obtain ⟨rfl, hattempts⟩ := hlast
    have hmine : begun.ticket = some state.departed.length ∧ false = false := ⟨hticket, rfl⟩
    rw [answer_other (finishAttempt_retry hfront (by omega) hflight) (by decide) (by decide),
      if_pos hmine]
    refine ⟨h.kept, hlength, ?_, hcounted, ?_⟩
    · intro other hother ticket hsome
      rw [hnone other hother] at hsome
      cases hsome
    · change state.failures + 1 ≤ 2
      omega

/-- An import by hand is answered, of another link or while nothing is in flight. -/
theorem answer_typed (h : Matched state) (hticket : begun.ticket = none)
    (happart : state.imports.inFlight = true → state.imports.urls.head? ≠ some begun.url) :
    Matched (state.answer begun succeeded now) ∧
      (succeeded = false → (state.answer begun succeeded now).imports = state.imports ∧
        (state.answer begun succeeded now).departed = state.departed) := by
  have hfailures : ¬ (begun.ticket = some state.departed.length ∧ succeeded = false) := by
    rw [hticket]
    exact fun hsome => by cases hsome.1
  have hsame : Matched { state with outstanding := state.outstanding.erase begun } := by
    refine ⟨h.kept, ?_, ?_, h.counted, h.few⟩
    · change ((state.outstanding.erase begun).filter _).length = _
      rw [queuedAttempts_erase_other hticket]
      exact h.outstanding
    · exact fun other hother => h.ordered other (List.mem_of_mem_erase hother)
  by_cases hfront : state.imports.urls.head? = some begun.url
  · have hflight : state.imports.inFlight = false := by
      rw [← Bool.not_eq_true]
      exact fun hflight => happart hflight hfront
    have hcounted := h.counted
    rw [hflight, if_neg Bool.false_ne_true] at hcounted
    have hfew := h.few
    cases succeeded with
    | true =>
      rw [answer_last hfront (Or.inl rfl)]
      have hlength := h.outstanding
      rw [hflight, if_neg Bool.false_ne_true] at hlength
      refine ⟨⟨h.kept_pop hfront, ?_, ?_, rfl, Nat.zero_le _⟩, fun hfalse => by cases hfalse⟩
      · change ((state.outstanding.erase begun).filter _).length = 0
        rw [queuedAttempts_erase_other hticket]
        exact hlength
      · intro other hother ticket hsome
        rw [no_tickets_of_length hlength other (List.mem_of_mem_erase hother)] at hsome
        cases hsome
    | false =>
      rw [answer_other (finishAttempt_idle (by omega) hflight) (by decide) (by decide),
        if_neg hfailures]
      exact ⟨hsame, fun _ => ⟨rfl, rfl⟩⟩
  · rw [answer_other (finishAttempt_other hfront) (by decide) (by decide), if_neg hfailures]
    exact ⟨hsame, fun _ => ⟨rfl, rfl⟩⟩

end Matched

end Invariant

/-! ## Runs -/

section Runs

variable {parse : String → Option ParsedUrl} {state : ImportSystem} {event : ImportEvent}

/-- While answers are told apart, the queue and the imports that run match. -/
theorem Matched.next (h : Matched state)
    (hgood : ToldApart ⟨state, event, state.next parse event⟩) :
    Matched (state.next parse event) := by
  cases event with
  | propose url => exact ⟨h.kept, h.outstanding, h.ordered, h.counted, h.few⟩
  | approve => exact h.approve
  | reject => exact ⟨h.kept, h.outstanding, h.ordered, h.counted, h.few⟩
  | dispatch now accepts =>
    refine h.dispatch fun url haccepts hflight hwait hfront => ?_
    subst haccepts
    exact hgood.2 now url rfl hflight hwait hfront
  | typed text => exact h.typed text
  | answer begun succeeded now =>
    rw [ImportSystem.next]
    by_cases hmem : begun ∈ state.outstanding
    · rw [if_pos hmem]
      cases hticket : begun.ticket with
      | some ticket => exact h.answer_queued hticket hmem
      | none =>
        exact (h.answer_typed hticket (hgood.1 begun succeeded now rfl hmem hticket)).1
    · rw [if_neg hmem]
      exact h

/-- With none in flight the front link can be begun once the wait is over. -/
theorem Matched.unblocked (h : Matched state) (hurls : state.imports.urls ≠ [])
    (hnone : state.queuedAttempts = []) :
    ∃ ready, ∀ now, ready ≤ now → (state.imports.dispatchNext now fun _ => true).1 = true := by
  have hflight : state.imports.inFlight = false := by
    have hlength := h.outstanding
    rw [hnone] at hlength
    by_contra hflight
    rw [Bool.not_eq_false] at hflight
    rw [hflight] at hlength
    cases hlength
  refine ⟨state.imports.retryAt.getD 0, fun now hnow => ?_⟩
  have hwait : state.imports.retryAt.any (now < ·) = false := by
    cases hretry : state.imports.retryAt with
    | none => rfl
    | some time =>
      rw [hretry, Option.getD_some] at hnow
      rw [Option.any_some, decide_eq_false_iff_not]
      omega
  obtain ⟨url, rest, hrest⟩ := List.exists_cons_of_ne_nil hurls
  rw [PendingSubscriptionImports.dispatchNext, hflight, hwait, hrest]
  rfl

/-- What an answer does to the links that left. -/
theorem Matched.departed_answer (h : Matched state) {begun : BegunImport} {succeeded : Bool}
    {now : Nat} (hmem : begun ∈ state.outstanding)
    (happart : begun.ticket = none → state.imports.inFlight = true →
      state.imports.urls.head? ≠ some begun.url) :
    (state.answer begun succeeded now).departed = state.departed ∨
      state.approved[state.departed.length]? = some begun.url ∧
      (state.answer begun succeeded now).departed = state.departed ++ [begun.url] ∧
      (succeeded = false → begun.ticket = some state.departed.length ∧ state.failures = 2) := by
  by_cases hfront : state.imports.urls.head? = some begun.url
  · by_cases hlast : succeeded = true ∨ 3 ≤ state.imports.attempts
    · right
      rw [answer_last hfront hlast]
      refine ⟨h.front.trans hfront, rfl, ?_⟩
      rintro rfl
      have hattempts : 3 ≤ state.imports.attempts := hlast.resolve_left Bool.false_ne_true
      have hcounted := h.counted
      have hfew := h.few
      have hflight : state.imports.inFlight = true := by
        by_contra hflight
        rw [if_neg hflight] at hcounted
        omega
      rw [if_pos hflight] at hcounted
      cases hticket : begun.ticket with
      | none => exact absurd hfront (happart hticket hflight)
      | some ticket =>
        rw [(h.ordered begun hmem ticket hticket).1]
        exact ⟨rfl, by omega⟩
    · left
      rw [not_or, Bool.not_eq_true] at hlast
      obtain ⟨rfl, hattempts⟩ := hlast
      by_cases hflight : state.imports.inFlight = true
      · rw [answer_other (finishAttempt_retry hfront (by omega) hflight) (by decide) (by decide)]
      · rw [Bool.not_eq_true] at hflight
        rw [answer_other (finishAttempt_idle (by omega) hflight) (by decide) (by decide)]
  · left
    rw [answer_other (finishAttempt_other hfront) (by decide) (by decide)]

/-- Only an answer lets a link leave. -/
theorem departed_next (h : ∀ begun succeeded now, event ≠ .answer begun succeeded now) :
    (state.next parse event).departed = state.departed := by
  cases event with
  | propose url => rfl
  | approve =>
    rcases approve_cases state with hsame | ⟨proposal, rest, happroved⟩
    · rw [ImportSystem.next, hsame]
    · rw [ImportSystem.next, happroved]
  | reject => rfl
  | dispatch now accepts =>
    rcases dispatch_cases state now accepts with hsame | ⟨url, -, -, -, -, hbegun⟩
    · rw [ImportSystem.next, hsame]
    · rw [ImportSystem.next, hbegun]
  | typed text => rfl
  | answer begun succeeded now => exact absurd rfl (h begun succeeded now)

theorem faithful_of_toldApart (h : Matched state)
    (hgood : ToldApart ⟨state, event, state.next parse event⟩) :
    Faithful ⟨state, event, state.next parse event⟩ := by
  have hnext := h.next hgood
  refine ⟨hnext.kept, hnext.outstanding, ?_, ?_, ?_, hnext.unblocked⟩
  · intro begun hbegun ticket hticket
    obtain ⟨rfl, hfront⟩ := hnext.ordered begun hbegun ticket hticket
    exact ⟨rfl, hnext.front.trans hfront⟩
  · by_cases hanswer : ∃ begun succeeded now, event = .answer begun succeeded now
    · obtain ⟨begun, succeeded, now, rfl⟩ := hanswer
      by_cases hmem : begun ∈ state.outstanding
      · have hdeparted : (state.answer begun succeeded now).departed = _ ∨ _ :=
          h.departed_answer hmem (hgood.1 begun succeeded now rfl hmem)
        have hanswered : state.next parse (.answer begun succeeded now) =
            state.answer begun succeeded now := if_pos hmem
        rw [hanswered]
        rcases hdeparted with hsame | ⟨hfront, hleft, hwhy⟩
        · exact Or.inl hsame
        · exact Or.inr ⟨begun, succeeded, now, rfl, hfront, hleft, hwhy⟩
      · left
        rw [ImportSystem.next, if_neg hmem]
    · left
      exact departed_next fun begun succeeded now heq => hanswer ⟨begun, succeeded, now, heq⟩
  · rintro begun now hlabel hticket
    change event = _ at hlabel
    subst hlabel
    change ImportSystem.imports (ImportSystem.next _ _ _) = _
    rw [ImportSystem.next]
    by_cases hmem : begun ∈ state.outstanding
    · rw [if_pos hmem]
      exact ((h.answer_typed hticket (hgood.1 begun false now rfl hmem hticket)).2 rfl).1
    · rw [if_neg hmem]

/-- An answer of the link in flight ends the attempt, whoever's it is. -/
theorem inFlight_answer {begun : BegunImport} {succeeded : Bool} {now : Nat}
    (hfront : state.imports.urls.head? = some begun.url)
    (hflight : state.imports.inFlight = true) :
    (state.answer begun succeeded now).imports.inFlight = false := by
  by_cases hlast : succeeded = true ∨ 3 ≤ state.imports.attempts
  · rw [answer_last hfront hlast]
  · rw [not_or, Bool.not_eq_true] at hlast
    obtain ⟨rfl, hattempts⟩ := hlast
    rw [answer_other (finishAttempt_retry hfront (by omega) hflight) (by decide) (by decide)]

/-- An answer by hand leaves the queued attempts running. -/
theorem queuedAttempts_answer {begun : BegunImport} {succeeded : Bool} {now : Nat}
    (hticket : begun.ticket = none) :
    (state.answer begun succeeded now).queuedAttempts = state.queuedAttempts := by
  have houtstanding : (state.answer begun succeeded now).outstanding =
      state.outstanding.erase begun := by
    rw [ImportSystem.answer]
    split_ifs
    · rfl
    · rfl
    · rfl
  rw [ImportSystem.queuedAttempts, houtstanding]
  exact queuedAttempts_erase_other hticket

theorem toldApart_of_faithful (h : Matched state)
    (hfaithful : Faithful ⟨state, event, state.next parse event⟩) :
    ToldApart ⟨state, event, state.next parse event⟩ := by
  constructor
  · intro begun succeeded now hlabel hmem hticket hflight hfront
    change event = _ at hlabel
    subst hlabel
    change begun ∈ state.outstanding at hmem
    have hlength := hfaithful.outstanding
    have hanswered : state.next parse (.answer begun succeeded now) =
        state.answer begun succeeded now := if_pos hmem
    simp only [hanswered] at hlength
    rw [queuedAttempts_answer hticket, inFlight_answer hfront hflight, h.outstanding,
      if_pos hflight] at hlength
    cases hlength
  · intro now url hlabel hflight hwait hfront
    change event = _ at hlabel
    subst hlabel
    rcases dispatch_cases state now true with hsame | ⟨other, -, -, -, hother, hbegun⟩
    · obtain ⟨rest, hrest⟩ : ∃ rest, state.imports.urls = url :: rest :=
        ⟨_, List.eq_cons_of_mem_head? hfront⟩
      have hbegan : (state.dispatch now true).imports.inFlight = true := by
        change state.imports.inFlight = false at hflight
        change state.imports.retryAt.any (now < ·) = false at hwait
        rw [ImportSystem.dispatch, PendingSubscriptionImports.dispatchNext, hflight, hwait, hrest]
        rfl
      rw [hsame] at hbegan
      exact absurd (hbegan.symm.trans hflight) (by decide)
    · rw [hother] at hfront
      cases hfront
      have hmine := (hfaithful.ordered ⟨Text.trim url, some state.departed.length⟩
        (by
          change _ ∈ (state.dispatch now true).outstanding
          rw [hbegun]
          exact List.mem_append_right _ (List.mem_singleton_self _)) _ rfl).2
      change (state.dispatch now true).approved[state.departed.length]? = _ at hmine
      rw [hbegun] at hmine
      exact Option.some_inj.1 (hmine.symm.trans (h.front.trans hother))

end Runs

/-- Whatever the order of proposals, approvals, imports by hand and answers: approved links are
attempted in the order of approval and as they were queued, a link leaves only for an import of it
that succeeded or for its own third failure, none is lost or doubled, and the flag is up exactly
while a queued attempt runs, precisely when no import by hand of the link in flight is answered
before the queue's own attempt and no link with white space around it is begun. -/
theorem imports_faithful_iff {parse : String → Option ParsedUrl} {target : ImportSystem}
    {edges : List (Edge ImportSystem ImportEvent)}
    (h : Run (fun state event after => state.next parse event = after) .initial edges target) :
    (∀ edge ∈ edges, Faithful edge) ↔ ∀ edge ∈ edges, ToldApart edge := by
  refine h.forall_edge_iff matched_initial ?_ ?_
  · rintro state event after hmatched rfl
    exact ⟨toldApart_of_faithful hmatched, faithful_of_toldApart hmatched⟩
  · rintro state event after hmatched rfl hgood
    exact hmatched.next hgood

/-- A link is approved, imported by hand as well, and attempted again. -/
def retriedByHand : List ImportEvent :=
  let url := "https://example.com/sub"
  [.propose url, .approve, .dispatch 0 true, .typed url, .answer ⟨url, some 0⟩ false 10,
    .dispatch 2010 true, .answer ⟨url, none⟩ false 2020]

theorem imports_faithful_iff_retried :
    (∀ edge ∈ Transition.trace (ImportSystem.next parseSample) .initial retriedByHand,
      Faithful edge) ↔
    ∀ edge ∈ Transition.trace (ImportSystem.next parseSample) .initial retriedByHand,
      ToldApart edge :=
  imports_faithful_iff (Transition.run_trace (ImportSystem.next parseSample) .initial retriedByHand)

/-- An address with an ideographic space at its end. -/
def spacedUrl : String := "https://example.com/sub" ++ String.singleton (Char.ofNat 0x3000)

/-- What the parser tells of that address. -/
def parseSpaced (url : String) : Option ParsedUrl :=
  if url = spacedUrl then some ⟨"https", some "example.com", none⟩ else none

/-- The failure of the import by hand ends the second attempt, which still runs; and a link with
white space at its end is begun as another link, whose answer the queue does not know. -/
theorem imports_mistaken :
    (¬ ∀ edge ∈ Transition.trace (ImportSystem.next parseSample) .initial retriedByHand,
      Faithful edge) ∧
    ¬ ∀ edge ∈ Transition.trace (ImportSystem.next parseSpaced) .initial
      [.propose spacedUrl, .approve, .dispatch 0 true,
        .answer ⟨"https://example.com/sub", some 0⟩ true 10], Faithful edge := by
  constructor
  · intro hall
    have hmem := List.getElem_mem (l := Transition.trace (ImportSystem.next parseSample) .initial
      retriedByHand) (n := 6) (by decide)
    exact absurd (hall _ hmem).outstanding (by decide)
  · intro hall
    have hmem := List.getElem_mem (l := Transition.trace (ImportSystem.next parseSpaced) .initial
      [.propose spacedUrl, .approve, .dispatch 0 true,
        .answer ⟨"https://example.com/sub", some 0⟩ true 10]) (n := 3) (by decide)
    exact absurd (hall _ hmem).outstanding (by decide)

end MultiCore.Desktop
