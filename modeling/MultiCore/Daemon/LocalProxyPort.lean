import Mathlib.Logic.Function.Basic
import MultiCore.Library.JsonText
import MultiCore.Library.Run
import MultiCore.Library.Text
import MultiCore.Library.Utf8

/-!
# The port of the local proxy

The port is chosen once, held in memory under a lock and saved in a file. A call
that asks for it takes what is in memory, whatever became of the file. One that
wants a port nothing listens on looks at the port between two uses of the lock,
and another call may save a different one meanwhile.

Under the lock a call is one step: the file changes only with the rename, which
is the last thing done there.
-/

namespace MultiCore.Daemon

open Transition (Edge Run)

/-- A port that can be listened on. -/
abbrev Port := {port : UInt16 // port ≠ 0}

/-- A port, unless the number is zero. -/
def portOf (value : Nat) : Option Port :=
  if h : UInt16.ofNat value ≠ 0 then some ⟨UInt16.ofNat value, h⟩ else none

/-- The port in the file, if there is one. -/
def readLocalProxyPort (file : Option (List UInt8)) : Option Port :=
  ((file.bind Utf8.fromUtf8).bind fun text =>
    Text.parseRadix 10 65535 (Text.trimmed text)).bind portOf

/-- The file for a port. -/
def portText (port : Port) : List UInt8 := Utf8.encode (Nat.toDigits 10 port.val.toNat)

/-- The operations of a save that can fail. -/
inductive PortFault where
  | createDirAll
  | write
  | rename
  deriving DecidableEq, Repr

/-- What a call can find while it holds the lock. -/
structure PortAnswers where
  preferredBindable : Bool
  freePort : Option Port
  fault : Option PortFault

/-- The port that was chosen, and its file. -/
structure LocalProxyPort where
  preferred : Port
  saved : Option Port
  file : Option (List UInt8)
  deriving DecidableEq

namespace LocalProxyPort

/-- The port as a daemon starts with it. -/
def withPreferred (file : Option (List UInt8)) (preferred : Port) : LocalProxyPort :=
  ⟨preferred, readLocalProxyPort file, file⟩

/-- Memory first, then the file. -/
def save (state : LocalProxyPort) (port : Port) (fault : Option PortFault) :
    LocalProxyPort × Except Unit Unit :=
  match fault with
  | some _ => ({ state with saved := some port }, .error ())
  | none => ({ state with saved := some port, file := some (portText port) }, .ok ())

/-- The port to take when there is none yet. -/
def choose (state : LocalProxyPort) (answers : PortAnswers) : Option Port :=
  if answers.preferredBindable then some state.preferred else answers.freePort

/-- Saves a port that was chosen, if there is one. -/
def saveChosen (state : LocalProxyPort) (chosen : Option Port) (fault : Option PortFault) :
    LocalProxyPort × Except Unit Port :=
  match chosen with
  | none => (state, .error ())
  | some port =>
    let (next, result) := state.save port fault
    (next, result.map fun _ => port)

/-- `current`: the saved port, or a new choice that is saved. -/
def current (state : LocalProxyPort) (answers : PortAnswers) :
    LocalProxyPort × Except Unit Port :=
  match state.saved with
  | some port => (state, .ok port)
  | none => state.saveChosen (state.choose answers) answers.fault

end LocalProxyPort

/-- Where a call is: one that verifies looks at the port it got, and then may replace it. -/
inductive PortCall where
  | idle
  | probing (port : Port)
  | replacing
  deriving DecidableEq

/-- The port and the calls of its callers. -/
structure PortServer (ι : Type) where
  port : LocalProxyPort
  calls : ι → PortCall

/-- What may happen next. -/
inductive PortStep (ι : Type) where
  | current (caller : ι) (answers : PortAnswers)
  /-- The first use of the lock by a call that verifies. -/
  | verified (caller : ι) (answers : PortAnswers)
  | probe (caller : ι) (bindable : Bool)
  /-- The second use of the lock. -/
  | replace (caller : ι) (freePort : Option Port) (fault : Option PortFault)

namespace PortServer

variable {ι : Type} [DecidableEq ι]

/-- No call is waiting. -/
def start (file : Option (List UInt8)) (preferred : Port) : PortServer ι :=
  ⟨.withPreferred file preferred, fun _ => .idle⟩

/-- The calls with one of them somewhere else. -/
def moved (server : PortServer ι) (caller : ι) (call : PortCall) : ι → PortCall :=
  Function.update server.calls caller call

/-- A step, and what the call returns if it ends by it. -/
def serve (server : PortServer ι) : PortStep ι → PortServer ι × Option (Except Unit Port)
  | .current caller answers =>
    match server.calls caller with
    | .idle =>
      let (port, result) := server.port.current answers
      (⟨port, server.calls⟩, some result)
    | _ => (server, none)
  | .verified caller answers =>
    match server.calls caller with
    | .idle =>
      match server.port.current answers with
      | (port, .ok found) => (⟨port, server.moved caller (.probing found)⟩, none)
      | (port, .error error) => (⟨port, server.calls⟩, some (.error error))
    | _ => (server, none)
  | .probe caller bindable =>
    match server.calls caller with
    | .probing port =>
      if bindable then (⟨server.port, server.moved caller .idle⟩, some (.ok port))
      else (⟨server.port, server.moved caller .replacing⟩, none)
    | _ => (server, none)
  | .replace caller freePort fault =>
    match server.calls caller with
    | .replacing =>
      let (port, result) := server.port.saveChosen freePort fault
      (⟨port, server.moved caller .idle⟩, some result)
    | _ => (server, none)

/-- The server after a step, without the answer. -/
def step (server : PortServer ι) (label : PortStep ι) : PortServer ι := (server.serve label).1

/-- No file operation of a save fails, and a port that is returned after it was looked at is still
the one in memory. -/
def Regular (server : PortServer ι) : PortStep ι → Prop
  | .current caller answers | .verified caller answers =>
    server.calls caller = .idle → server.port.saved = none →
      (server.port.choose answers).isSome = true → answers.fault = none
  | .probe caller bindable =>
    ∀ port, server.calls caller = .probing port → bindable = true → server.port.saved = some port
  | .replace caller freePort fault =>
    server.calls caller = .replacing → freePort.isSome = true → fault = none

end PortServer

section Runs

variable {ι : Type} [DecidableEq ι]

/-- A call returns this port by this step. -/
def Returns (edge : Edge (PortServer ι) (PortStep ι)) (port : Port) : Prop :=
  (edge.source.serve edge.label).2 = some (.ok port)

/-- The port after a restart that reads the same file. -/
def restarted (server : PortServer ι) : Option Port :=
  (LocalProxyPort.withPreferred server.port.file server.port.preferred).saved

/-- A port that a call returned is the port after a restart, until a call returns another one. -/
def Durable (edges : List (Edge (PortServer ι) (PortStep ι))) (last : PortServer ι) : Prop :=
  ∀ before edge between port, edges = before ++ edge :: between → Returns edge port →
    (∀ later ∈ between, ∀ other, Returns later other → other = port) →
    restarted last = some port

end Runs

section Text

/-- A port is read as it was saved. -/
theorem readLocalProxyPort_portText (port : Port) :
    readLocalProxyPort (some (portText port)) = some port := by
  have hlt := port.val.toNat_lt
  have hself : UInt16.ofNat port.val.toNat = port.val := UInt16.ofNat_toNat
  rw [readLocalProxyPort, Option.bind_some, portText, Utf8.fromUtf8_encode, Option.bind_some,
    Text.trimmed_toDigits, Text.parseRadix_toDigits (by omega), Option.bind_some, portOf]
  simp only [hself]
  rw [dif_pos port.property]

end Text

section Steps

/-- Memory and file agree. -/
def LocalProxyPort.Saved (state : LocalProxyPort) : Prop :=
  state.saved = readLocalProxyPort state.file

/-- A call under the lock returns the port that is saved then, or fails and changes nothing. -/
def LocalProxyPort.Answers (state : LocalProxyPort)
    (answered : LocalProxyPort × Except Unit Port) : Prop :=
  (∃ found, answered.2 = .ok found ∧ answered.1.saved = some found ∧
      readLocalProxyPort answered.1.file = some found) ∨ answered = (state, .error ())

theorem LocalProxyPort.Answers.saved {state : LocalProxyPort}
    {answered : LocalProxyPort × Except Unit Port} (h : state.Answers answered)
    (hsaved : state.Saved) : answered.1.Saved := by
  rcases h with ⟨found, -, hmemory, hfile⟩ | rfl
  · exact hmemory.trans hfile.symm
  · exact hsaved

theorem saveChosen_answers (state : LocalProxyPort) {chosen : Option Port}
    {fault : Option PortFault} (h : chosen.isSome = true → fault = none) :
    state.Answers (state.saveChosen chosen fault) := by
  cases chosen with
  | none => exact Or.inr rfl
  | some found =>
    rw [h rfl]
    exact Or.inl ⟨found, rfl, rfl, readLocalProxyPort_portText found⟩

theorem current_answers {state : LocalProxyPort} {answers : PortAnswers} (hsaved : state.Saved)
    (h : state.saved = none → (state.choose answers).isSome = true → answers.fault = none) :
    state.Answers (state.current answers) := by
  rw [LocalProxyPort.current]
  cases hmemory : state.saved with
  | none => exact saveChosen_answers state (h hmemory)
  | some port => exact Or.inl ⟨port, rfl, hmemory, hsaved.symm.trans hmemory⟩

/-- A call that takes what is in memory leaves the file, unless there is nothing in either. -/
theorem current_file {state : LocalProxyPort} {port : Port} (hsaved : state.Saved)
    (hport : readLocalProxyPort state.file = some port) (answers : PortAnswers) :
    state.current answers = (state, .ok port) := by
  rw [LocalProxyPort.current, hsaved.trans hport]

variable {ι : Type} {server : PortServer ι}

/-- What a regular step keeps: memory and file agree, a port that is returned is the one saved, and
a step that returns none keeps the port that was saved before. -/
structure Keeps (server : PortServer ι) (served : PortServer ι × Option (Except Unit Port)) :
    Prop where
  saved : served.1.port.Saved
  returned : ∀ port, served.2 = some (.ok port) →
    readLocalProxyPort served.1.port.file = some port
  kept : (∀ port, served.2 ≠ some (.ok port)) → ∀ port,
    readLocalProxyPort server.port.file = some port →
      readLocalProxyPort served.1.port.file = some port

/-- A step that leaves the port alone. -/
theorem keeps_of_port {calls : ι → PortCall} {result : Option (Except Unit Port)}
    (hsaved : server.port.Saved)
    (hresult : ∀ port, result = some (.ok port) → server.port.saved = some port) :
    Keeps server (⟨server.port, calls⟩, result) :=
  ⟨hsaved, fun port h => hsaved.symm.trans (hresult port h), fun _ _ h => h⟩

/-- A step that ends a call under the lock. -/
theorem keeps_of_answers {answered : LocalProxyPort × Except Unit Port} {calls : ι → PortCall}
    (hsaved : server.port.Saved) (h : server.port.Answers answered) :
    Keeps server (⟨answered.1, calls⟩, some answered.2) := by
  refine ⟨h.saved hsaved, ?_, ?_⟩
  · intro port hport
    rcases h with ⟨found, hresult, -, hfile⟩ | rfl
    · rw [hresult] at hport
      rw [← Except.ok.inj (Option.some.inj hport)]
      exact hfile
    · exact nomatch Option.some.inj hport
  · intro hnone port hport
    rcases h with ⟨found, hresult, -, -⟩ | rfl
    · exact absurd (congrArg some hresult) (hnone found)
    · exact hport

variable [DecidableEq ι] {label : PortStep ι}

theorem serve_keeps (hsaved : server.port.Saved) (h : server.Regular label) :
    Keeps server (server.serve label) := by
  have hstays : Keeps server (server, none) :=
    keeps_of_port hsaved fun _ hnone => nomatch hnone
  cases label with
  | current caller answers =>
    rw [PortServer.serve]
    cases hcall : server.calls caller with
    | idle => exact keeps_of_answers hsaved (current_answers hsaved (h hcall))
    | probing port => exact hstays
    | replacing => exact hstays
  | verified caller answers =>
    rw [PortServer.serve]
    cases hcall : server.calls caller with
    | idle =>
      have hanswers := current_answers hsaved (h hcall)
      have hkept := hanswers.saved hsaved
      dsimp only
      cases hfound : server.port.current answers with
      | mk port result =>
        rw [hfound] at hanswers hkept
        cases result with
        | error error => exact keeps_of_answers hsaved hanswers
        | ok found =>
          refine ⟨hkept, fun _ hport => (nomatch hport), ?_⟩
          intro _ saved hport
          have hsame := current_file hsaved hport answers
          rw [hfound] at hsame
          rw [(Prod.mk.inj hsame).1]
          exact hport
    | probing port => exact hstays
    | replacing => exact hstays
  | probe caller bindable =>
    rw [PortServer.serve]
    cases hcall : server.calls caller with
    | idle => exact hstays
    | replacing => exact hstays
    | probing port =>
      cases bindable with
      | false => exact keeps_of_port hsaved fun _ hnone => nomatch hnone
      | true =>
        refine keeps_of_port hsaved ?_
        intro other hother
        rw [← Except.ok.inj (Option.some.inj hother)]
        exact h port hcall rfl
  | replace caller freePort fault =>
    rw [PortServer.serve]
    cases hcall : server.calls caller with
    | idle => exact hstays
    | probing port => exact hstays
    | replacing => exact keeps_of_answers hsaved (saveChosen_answers _ (h hcall))

end Steps

section Durability

variable {ι : Type} [DecidableEq ι] {file : Option (List UInt8)} {preferred : Port}

/-- In a run of regular steps what a call returned is the port after a restart. -/
theorem durable_of_regular {edges : List (Edge (PortServer ι) (PortStep ι))} {last : PortServer ι}
    (run : Run (fun server label next => server.step label = next)
      (PortServer.start file preferred) edges last)
    (regular : ∀ edge ∈ edges, edge.source.Regular edge.label) : Durable edges last := by
  have hsaved : ∀ {edges last}, Run (fun (server : PortServer ι) label next =>
      server.step label = next) (PortServer.start file preferred) edges last →
      (∀ edge ∈ edges, edge.source.Regular edge.label) → last.port.Saved := by
    intro edges last hrun hregular
    refine hrun.invariant_of (I := fun server => server.port.Saved) rfl ?_ hregular
    intro source label target hsource htarget hgood
    rw [← htarget]
    exact (serve_keeps hsource hgood).saved
  induction run with
  | nil => exact fun before edge between port hsplit => absurd hsplit (by simp)
  | @snoc edges source target label hrun hstep ih =>
    have hbefore : ∀ edge ∈ edges, edge.source.Regular edge.label :=
      fun edge hedge => regular edge (List.mem_append_left _ hedge)
    have hgood : source.Regular label := regular _ (List.mem_append_right _ List.mem_cons_self)
    have hkeeps := serve_keeps (hsaved hrun hbefore) hgood
    subst hstep
    intro before edge between port hsplit hreturns hothers
    rcases List.eq_nil_or_concat between with rfl | ⟨middle, latest, rfl⟩
    · -- the call that returned the port is the last step
      obtain ⟨-, hedge⟩ := List.append_inj' hsplit rfl
      rw [← (List.cons.inj hedge).1] at hreturns
      exact hkeeps.returned port hreturns
    · rw [List.concat_eq_append] at hsplit hothers
      rw [← List.cons_append, ← List.append_assoc] at hsplit
      obtain ⟨hedges, hlatest⟩ := List.append_inj' hsplit rfl
      have hport := ih hbefore before edge middle port hedges hreturns
        fun later hlater => hothers later (List.mem_append_left _ hlater)
      by_cases hreturn : ∃ other, (source.serve label).2 = some (.ok other)
      · obtain ⟨other, hother⟩ := hreturn
        have hsame : other = port := by
          refine hothers latest (List.mem_append_right _ List.mem_cons_self) other ?_
          rw [← (List.cons.inj hlatest).1]
          exact hother
        rw [hsame] at hother
        exact hkeeps.returned port hother
      · exact hkeeps.kept (fun other hother => hreturn ⟨other, hother⟩) port hport

end Durability

section Samples

/-- The preferred port of the daemon. -/
def defaultLocalProxyPort : Port := ⟨10780, by decide⟩

/-- The first of the ports that are free for all. -/
def otherPort : Port := ⟨49152, by decide⟩

/-- A server without a file. -/
def portServer : PortServer Bool := .start none defaultLocalProxyPort

/-- Nothing fails, and the preferred port can be bound or not. -/
def portAnswers (preferredBindable : Bool) : PortAnswers :=
  ⟨preferredBindable, some otherPort, none⟩

/-- A port is chosen, found taken and replaced. -/
def replacedLabels : List (PortStep Bool) :=
  [.current false (portAnswers true), .verified true (portAnswers true), .probe true false,
    .replace true (some otherPort) none]

theorem durable_of_regular_replaced :
    Durable (Transition.trace PortServer.step portServer replacedLabels)
      (replacedLabels.foldl PortServer.step portServer) := by
  refine durable_of_regular (Transition.run_trace _ _ _) ?_
  intro edge hedge
  simp only [replacedLabels, Transition.trace, List.mem_cons, List.not_mem_nil, or_false] at hedge
  rcases hedge with rfl | rfl | rfl | rfl
  · exact fun _ _ _ => rfl
  · exact fun _ _ _ => rfl
  · exact fun _ _ hbindable => absurd hbindable Bool.false_ne_true
  · exact fun _ _ => rfl

/-- A save fails after the port is in memory. -/
def failedLabels : List (PortStep Bool) := [.current false ⟨true, none, some .write⟩]

/-- Two calls look at the same port; the one that finds it taken replaces it first. -/
def overtakenLabels : List (PortStep Bool) :=
  [.verified false (portAnswers true), .verified true (portAnswers true), .probe true false,
    .replace true (some otherPort) none]

/-- A run whose last step returns a port that is not the one after a restart. -/
def Forgets (labels : List (PortStep Bool)) (label : PortStep Bool) : Prop :=
  ∃ last, Run (fun server label next => server.step label = next) portServer
      (Transition.trace PortServer.step portServer (labels ++ [label])) last ∧
    ¬Durable (Transition.trace PortServer.step portServer (labels ++ [label])) last

theorem forgets_of_ne {labels : List (PortStep Bool)} {label : PortStep Bool} {port : Port}
    (hreturns : ((labels.foldl PortServer.step portServer).serve label).2 = some (.ok port))
    (h : restarted ((labels ++ [label]).foldl PortServer.step portServer) ≠ some port) :
    Forgets labels label := by
  refine ⟨_, Transition.run_trace _ _ _, ?_⟩
  intro hdurable
  exact h (hdurable _ _ [] port (Transition.trace_concat ..) hreturns
    fun later hlater => absurd hlater List.not_mem_nil)

/-- A failed save, or another call between two uses of the lock, and a port that was returned is
forgotten. -/
theorem returned_port_forgotten :
    Forgets failedLabels (.current false (portAnswers true)) ∧
      Forgets overtakenLabels (.probe false true) := by
  have hfirst : restarted ((failedLabels ++ [PortStep.current false (portAnswers true)]).foldl
      PortServer.step portServer) ≠ some defaultLocalProxyPort := by
    decide
  have hsecond : restarted ((overtakenLabels ++ [PortStep.probe false true]).foldl
      PortServer.step portServer) ≠ some defaultLocalProxyPort := by
    decide
  exact ⟨forgets_of_ne rfl hfirst, forgets_of_ne rfl hsecond⟩

end Samples

end MultiCore.Daemon
