import Mathlib.Data.List.Basic
import Mathlib.Logic.Function.Basic
import Mathlib.Tactic.Common
import MultiCore.Library.Run

/-!
# Latency flights

A target of a latency request joins a probe of its node that is in flight, takes a
result that is new enough, or waits for a permit of its lane and starts a probe.
Probes run apart from the requests: one that gives up leaves its probe running for
everybody else. A result that nobody waited for is kept for a sweep that comes
later.
-/

namespace MultiCore.Latency

/-- `LatencyProbeError`. -/
inductive LatencyProbeError where
  | timeout
  | unavailable
  deriving DecidableEq, Repr

/-- What a probe measured, in milliseconds, or why it could not. -/
abbrev ProbeOutcome : Type := Except LatencyProbeError UInt64

/-- The lanes of requests: a sweep over all nodes, and a single node that a user waits for. -/
inductive Lane where
  | sweep
  | priority
  deriving DecidableEq, Repr

/-- `MAX_CONCURRENT_LATENCY_PROBES`. -/
def maxConcurrentLatencyProbes : Nat := 8

/-- `MAX_PRIORITY_LATENCY_PROBES`. -/
def maxPriorityLatencyProbes : Nat := 4

/-- The permits of a lane. -/
def Lane.permits : Lane → Nat
  | sweep => maxConcurrentLatencyProbes
  | priority => maxPriorityLatencyProbes

/-- A sweep takes a result that nobody waited for. -/
def Lane.takeUnclaimed : Lane → Bool
  | sweep => true
  | priority => false

/-- In milliseconds. -/
def latencyResultRetention : Nat := 60 * 1000

/-- A probe that has finished. Which one it was is not in the program. -/
structure FinishedProbe where
  probe : Nat
  finishedAt : Nat
  outcome : ProbeOutcome
  unclaimed : Bool
  deriving DecidableEq, Repr

/-- Probes in flight and recently finished, by the name of their node. -/
structure LatencyFlights where
  inFlight : String → Option Nat
  finished : String → Option FinishedProbe

/-- What a target finds when it asks for its node. -/
inductive Joined where
  | result (probe : Nat) (outcome : ProbeOutcome)
  | flight (probe : Nat)
  deriving DecidableEq, Repr

namespace LatencyFlights

/-- A probe in flight, unless its task is gone. -/
def joinInFlight (flights : LatencyFlights) (isGone : Nat → Bool) (rawNode : String) :
    Option Joined × LatencyFlights :=
  match flights.inFlight rawNode with
  | none => (none, flights)
  | some probe =>
    if isGone probe then
      (none, { flights with inFlight := Function.update flights.inFlight rawNode none })
    else (some (.flight probe), flights)

/-- A result no older than a time, a recent one that nobody waited for, or a probe in flight. -/
def join (flights : LatencyFlights) (isGone : Nat → Bool) (now : Nat) (rawNode : String)
    (since : Nat) (takeUnclaimed : Bool) : Option Joined × LatencyFlights :=
  match flights.finished rawNode with
  | none => flights.joinInFlight isGone rawNode
  | some finished =>
    if since ≤ finished.finishedAt then
      (some (.result finished.probe finished.outcome), flights)
    else if takeUnclaimed && finished.unclaimed &&
        now - finished.finishedAt < latencyResultRetention then
      (some (.result finished.probe finished.outcome), { flights with
        finished := Function.update flights.finished rawNode
          (some { finished with unclaimed := false }) })
    else flights.joinInFlight isGone rawNode

/-- The flights after a probe has finished. -/
def record (flights : LatencyFlights) (now : Nat) (rawNode : String) (finished : FinishedProbe) :
    LatencyFlights where
  inFlight := Function.update flights.inFlight rawNode none
  finished := Function.update
    (fun node => (flights.finished node).filter fun other =>
      now - other.finishedAt < latencyResultRetention)
    rawNode (some finished)

end LatencyFlights

/-- How far a target is. -/
inductive Phase where
  | fresh
  | queued
  | permitted
  | leaving (joined : Joined)
  | waiting (probe : Nat)
  | answered (probe : Nat) (outcome : ProbeOutcome)
  | aborted
  deriving DecidableEq, Repr

/-- Where a target goes on with what it found. -/
def Joined.phase : Joined → Phase
  | result probe outcome => .answered probe outcome
  | flight probe => .waiting probe

/-- A target of a request, with the time the request began and the catalog it names. -/
structure Target where
  rawNode : String
  lane : Lane
  since : Nat
  revision : Nat
  phase : Phase
  deriving DecidableEq, Repr

/-- The probe a target holds a receiver of. -/
def Target.awaits (target : Target) : Option Nat :=
  match target.phase with
  | .waiting probe => some probe
  | .leaving (.flight probe) => some probe
  | _ => none

/-- The probe and the outcome a target is answered with. -/
def Target.answer (target : Target) : Option (Nat × ProbeOutcome) :=
  match target.phase with
  | .answered probe outcome => some (probe, outcome)
  | .leaving (.result probe outcome) => some (probe, outcome)
  | _ => none

/-- A request holds a permit of its lane until it hands it over or leaves. -/
def Target.holdsPermit (target : Target) (lane : Lane) : Bool :=
  target.lane = lane &&
    match target.phase with
    | .permitted => true
    | .leaving _ => true
    | _ => false

/-- What is known of a finished probe: when it finished and whether nobody waited for it then. -/
structure Report where
  outcome : ProbeOutcome
  finishedAt : Nat
  unclaimed : Bool
  deriving DecidableEq, Repr

/-- How far the task of a probe is. -/
inductive Progress where
  | spawned
  | measuring
  | measured (outcome : ProbeOutcome)
  | recorded (report : Report)
  | published (report : Report)
  deriving DecidableEq, Repr

/-- A probe, with the catalog of the target that started it and the one whose configuration the
cores ran when it was sent to them. -/
structure Probe where
  rawNode : String
  lane : Lane
  revision : Nat
  sentTo : Option Nat
  progress : Progress
  deriving DecidableEq, Repr

/-- A probe holds the permit of its lane until it has measured. -/
def Probe.holdsPermit (probe : Probe) (lane : Lane) : Bool :=
  probe.lane = lane &&
    match probe.progress with
    | .spawned => true
    | .measuring => true
    | _ => false

/-- Whether a probe has not finished. -/
def Probe.isInFlight (probe : Probe) : Bool :=
  match probe.progress with
  | .recorded _ => false
  | .published _ => false
  | _ => true

/-- What the probe has recorded for its flight. -/
def Probe.report (probe : Probe) : Option Report :=
  match probe.progress with
  | .recorded report => some report
  | .published report => some report
  | _ => none

/-- A probe that published its report has left. -/
def Probe.isGone (probe : Probe) : Bool :=
  match probe.progress with
  | .published _ => true
  | _ => false

/-- The requests, the probes and what they share. The catalog and the configuration the cores run
change by switches, refreshes and reconnects. -/
structure State where
  now : Nat
  catalog : Nat
  running : Option Nat
  flights : LatencyFlights
  free : Lane → Nat
  targets : List Target
  probes : List Probe

namespace State

/-- Whether the task of a probe has ended. -/
def isGone (s : State) (probe : Nat) : Bool := s.probes[probe]?.any Probe.isGone

/-- A request looks into the flights, at the time of the state. -/
def join (s : State) (target : Target) : Option Joined × LatencyFlights :=
  s.flights.join s.isGone s.now target.rawNode target.since target.lane.takeUnclaimed

/-- One request moves on. -/
def setPhase (s : State) (index : Nat) (target : Target) (phase : Phase) : List Target :=
  s.targets.set index { target with phase := phase }

/-- One probe moves on. -/
def setProgress (s : State) (index : Nat) (probe : Probe) (progress : Progress) : List Probe :=
  s.probes.set index { probe with progress := progress }

/-- The permits when one of a lane is given back. -/
def released (s : State) (lane : Lane) : Lane → Nat :=
  Function.update s.free lane (s.free lane + 1)

/-- The permits when one of a lane is taken. -/
def acquired (s : State) (lane : Lane) : Lane → Nat :=
  Function.update s.free lane (s.free lane - 1)

/-- No request, no probe and every permit free. -/
def initial : State where
  now := 0
  catalog := 0
  running := none
  flights := ⟨fun _ => none, fun _ => none⟩
  free := Lane.permits
  targets := []
  probes := []

end State

/-- What may happen next. -/
inductive Event where
  | tick (elapsed : Nat)
  | move (catalog : Nat) (running : Option Nat)
  | arrive (rawNode : String) (lane : Lane) (since : Nat)
  | join (index : Nat)
  | acquire (index : Nat)
  | rejoin (index : Nat)
  | release (index : Nat)
  | deliver (index : Nat)
  | abort (index : Nat)
  | send (probe : Nat)
  | finish (probe : Nat) (outcome : ProbeOutcome)
  | record (probe : Nat)
  | publish (probe : Nat)

/-- Where a target can be stopped. -/
def Phase.isAwaiting : Phase → Bool
  | fresh => true
  | queued => true
  | permitted => true
  | waiting _ => true
  | _ => false

/-- One step of the requests, the probes or what is around them. -/
inductive Step (s : State) : Event → State → Prop
  | tick (elapsed : Nat) : Step s (.tick elapsed) { s with now := s.now + elapsed }
  /-- A switch, a refresh, a connect or a disconnect. -/
  | move (catalog : Nat) (running : Option Nat) :
      Step s (.move catalog running) { s with catalog := catalog, running := running }
  /-- A request finds the cores running the configuration of the catalog. -/
  | arrive (rawNode : String) (lane : Lane) (since : Nat) :
      s.running = some s.catalog → since ≤ s.now →
      Step s (.arrive rawNode lane since)
        { s with targets := s.targets ++ [⟨rawNode, lane, since, s.catalog, .fresh⟩] }
  | join (index : Nat) {target : Target} :
      s.targets[index]? = some target → target.phase = .fresh →
      Step s (.join index)
        { s with
          flights := (s.join target).2
          targets := s.setPhase index target ((s.join target).1.elim .queued Joined.phase) }
  | acquire (index : Nat) {target : Target} :
      s.targets[index]? = some target → target.phase = .queued → 0 < s.free target.lane →
      Step s (.acquire index)
        { s with
          free := s.acquired target.lane
          targets := s.setPhase index target .permitted }
  | rejoin (index : Nat) {target : Target} {joined : Joined} :
      s.targets[index]? = some target → target.phase = .permitted →
      (s.join target).1 = some joined →
      Step s (.rejoin index)
        { s with
          flights := (s.join target).2
          targets := s.setPhase index target (.leaving joined) }
  /-- The probe gets the permit, and the target waits for it. -/
  | start (index : Nat) {target : Target} :
      s.targets[index]? = some target → target.phase = .permitted → (s.join target).1 = none →
      Step s (.rejoin index)
        { s with
          flights := { (s.join target).2 with
            inFlight := Function.update (s.join target).2.inFlight target.rawNode
              (some s.probes.length) }
          targets := s.setPhase index target (.waiting s.probes.length)
          probes := s.probes ++ [⟨target.rawNode, target.lane, target.revision, none, .spawned⟩] }
  | release (index : Nat) {target : Target} {joined : Joined} :
      s.targets[index]? = some target → target.phase = .leaving joined →
      Step s (.release index)
        { s with
          free := s.released target.lane
          targets := s.setPhase index target joined.phase }
  | deliver (index : Nat) {target : Target} {probe : Probe} {place : Nat} {report : Report} :
      s.targets[index]? = some target → target.phase = .waiting place →
      s.probes[place]? = some probe → probe.progress = .published report →
      Step s (.deliver index)
        { s with targets := s.setPhase index target (.answered place report.outcome) }
  | abort (index : Nat) {target : Target} :
      s.targets[index]? = some target → target.phase.isAwaiting = true →
      Step s (.abort index)
        { s with
          free := if target.phase = .permitted then s.released target.lane else s.free
          targets := s.setPhase index target .aborted }
  | send (place : Nat) {probe : Probe} :
      s.probes[place]? = some probe → probe.progress = .spawned →
      Step s (.send place)
        { s with
          probes := s.probes.set place
            { probe with progress := .measuring, sentTo := s.running } }
  | finish (place : Nat) {probe : Probe} (outcome : ProbeOutcome) :
      s.probes[place]? = some probe → probe.progress = .measuring →
      Step s (.finish place outcome)
        { s with
          free := s.released probe.lane
          probes := s.setProgress place probe (.measured outcome) }
  | record (place : Nat) {probe : Probe} {outcome : ProbeOutcome} :
      s.probes[place]? = some probe → probe.progress = .measured outcome →
      Step s (.record place)
        { s with
          flights := s.flights.record s.now probe.rawNode ⟨place, s.now, outcome,
            s.targets.countP (fun target => target.awaits = some place) = 0⟩
          probes := s.setProgress place probe (.recorded ⟨outcome, s.now,
            s.targets.countP (fun target => target.awaits = some place) = 0⟩) }
  | publish (place : Nat) {probe : Probe} {report : Report} :
      s.probes[place]? = some probe → probe.progress = .recorded report →
      Step s (.publish place) { s with probes := s.setProgress place probe (.published report) }

section Lists

variable {α : Type*} {l : List α} {i j : Nat} {a b c : α}

theorem countP_set_add (p : α → Bool) (h : l[i]? = some a) (b : α) :
    (l.set i b).countP p + (p a).toNat = l.countP p + (p b).toNat := by
  induction l generalizing i with
  | nil => exact nomatch h
  | cons head tail ih =>
    cases i with
    | zero =>
      obtain rfl : head = a := Option.some.inj h
      rw [List.set_cons_zero, List.countP_cons, List.countP_cons]
      cases p head <;> cases p b <;> simp
    | succ i =>
      have htail := ih h
      rw [List.set_cons_succ, List.countP_cons, List.countP_cons]
      omega

/-- An entry after a change is the changed one or an old one. -/
theorem getElem?_of_set (h : (l.set i b)[j]? = some c) :
    (j = i ∧ c = b) ∨ (j ≠ i ∧ l[j]? = some c) := by
  rw [List.getElem?_set] at h
  by_cases hij : i = j
  · rw [if_pos hij] at h
    split_ifs at h
    exact .inl ⟨hij.symm, (Option.some.inj h).symm⟩
  · rw [if_neg hij] at h
    exact .inr ⟨Ne.symm hij, h⟩

theorem getElem?_set_of (h : l[i]? = some a) : (l.set i b)[i]? = some b := by
  rw [List.getElem?_set, if_pos rfl, if_pos (List.getElem?_eq_some_iff.1 h).1]

theorem getElem?_of_append (h : (l ++ [b])[j]? = some c) :
    (j = l.length ∧ c = b) ∨ l[j]? = some c := by
  rw [List.getElem?_append] at h
  split_ifs at h with hlt
  · exact .inr h
  · refine .inl ?_
    cases hsub : j - l.length with
    | zero =>
      rw [hsub] at h
      exact ⟨by omega, (Option.some.inj h).symm⟩
    | succ k =>
      rw [hsub] at h
      exact nomatch h

end Lists

section Invariant

/-- A target that is answered with a probe that had finished when its request began. -/
def LateOn (s : State) (target : Target) (place : Nat) : Prop :=
  ∃ outcome probe report, target.answer = some (place, outcome) ∧
    s.probes[place]? = some probe ∧ probe.report = some report ∧ report.finishedAt < target.since

/-- What a target has to do with its probe. -/
structure TargetOk (s : State) (target : Target) : Prop where
  began : target.since ≤ s.now
  awaiting : ∀ place, target.awaits = some place →
    ∃ probe, s.probes[place]? = some probe ∧ probe.rawNode = target.rawNode ∧
      ∀ report, probe.report = some report →
        target.since ≤ report.finishedAt ∧ report.unclaimed = false
  answered : ∀ place outcome, target.answer = some (place, outcome) →
    ∃ probe report, s.probes[place]? = some probe ∧ probe.rawNode = target.rawNode ∧
      probe.report = some report ∧ report.outcome = outcome ∧
      (target.since ≤ report.finishedAt ∨ report.unclaimed = true ∧ target.lane = .sweep)

/-- What is kept of a finished probe. -/
structure EntryOk (s : State) (node : String) (finished : FinishedProbe) : Prop where
  past : finished.finishedAt ≤ s.now
  probe : ∃ probe report, s.probes[finished.probe]? = some probe ∧ probe.rawNode = node ∧
    probe.report = some report ∧ report.outcome = finished.outcome ∧
    report.finishedAt = finished.finishedAt ∧
    (finished.unclaimed = true → report.unclaimed = true)
  unclaimed : finished.unclaimed = true →
    ∀ (i : Nat) (target : Target), s.targets[i]? = some target →
      ¬LateOn s target finished.probe

/-- The invariant: permits are conserved and every flight is one probe's own. -/
structure Consistent (s : State) : Prop where
  permits : ∀ lane, s.free lane + s.targets.countP (fun target => target.holdsPermit lane) +
    s.probes.countP (fun probe => probe.holdsPermit lane) = lane.permits
  flights : ∀ (node : String) (place : Nat), s.flights.inFlight node = some place ↔
    ∃ probe, s.probes[place]? = some probe ∧ probe.rawNode = node ∧ probe.isInFlight = true
  targets : ∀ (i : Nat) (target : Target), s.targets[i]? = some target → TargetOk s target
  entries : ∀ node finished, s.flights.finished node = some finished → EntryOk s node finished
  once : ∀ (i j : Nat) (target other : Target) (place : Nat), s.targets[i]? = some target →
    s.targets[j]? = some other → LateOn s target place → LateOn s other place → i = j

/-- A later state knows the same of the probes. -/
structure Agrees (s s' : State) : Prop where
  later : s.now ≤ s'.now
  probes : ∀ (place : Nat) (probe : Probe), s.probes[place]? = some probe →
    ∃ probe', s'.probes[place]? = some probe' ∧ probe'.rawNode = probe.rawNode ∧
      probe'.report = probe.report

end Invariant

section Frames

variable {s s' : State}

theorem TargetOk.agrees {target : Target} (h : TargetOk s target) (agrees : Agrees s s') :
    TargetOk s' target where
  began := Nat.le_trans h.began agrees.later
  awaiting place hplace := by
    obtain ⟨probe, hprobe, hnode, hreport⟩ := h.awaiting place hplace
    obtain ⟨probe', hprobe', hnode', hreport'⟩ := agrees.probes place probe hprobe
    rw [← hreport'] at hreport
    exact ⟨probe', hprobe', hnode'.trans hnode, hreport⟩
  answered place outcome hanswer := by
    obtain ⟨probe, report, hprobe, hnode, hreport, hrest⟩ := h.answered place outcome hanswer
    obtain ⟨probe', hprobe', hnode', hreport'⟩ := agrees.probes place probe hprobe
    exact ⟨probe', report, hprobe', hnode'.trans hnode, hreport'.trans hreport, hrest⟩

/-- Whether a target is late does not change. -/
theorem LateOn.agrees {target : Target} {place : Nat} (h : TargetOk s target)
    (agrees : Agrees s s') (hlate : LateOn s' target place) : LateOn s target place := by
  obtain ⟨outcome, probe', report, hanswer, hprobe', hreport', hbefore⟩ := hlate
  obtain ⟨probe, -, hprobe, -⟩ := h.answered place outcome hanswer
  obtain ⟨other, hother, -, hsame⟩ := agrees.probes place probe hprobe
  obtain rfl : probe' = other := Option.some.inj (hprobe'.symm.trans hother)
  exact ⟨outcome, probe, report, hanswer, hprobe, hsame.symm.trans hreport', hbefore⟩

theorem EntryOk.agrees {node : String} {finished : FinishedProbe} (h : EntryOk s node finished)
    (agrees : Agrees s s') (hlate : finished.unclaimed = true →
      ∀ (i : Nat) (target : Target), s'.targets[i]? = some target →
        ¬LateOn s' target finished.probe) :
    EntryOk s' node finished where
  past := Nat.le_trans h.past agrees.later
  probe := by
    obtain ⟨probe, report, hprobe, hnode, hreport, hrest⟩ := h.probe
    obtain ⟨probe', hprobe', hnode', hreport'⟩ := agrees.probes _ probe hprobe
    exact ⟨probe', report, hprobe', hnode'.trans hnode, hreport'.trans hreport, hrest⟩
  unclaimed := hlate

/-- No target becomes late. -/
def NoLater (s s' : State) : Prop :=
  ∀ (i : Nat) (target : Target) (place : Nat), s'.targets[i]? = some target →
    LateOn s' target place → ∃ before, s.targets[i]? = some before ∧ LateOn s before place

/-- The invariant after a step that makes no target late and finishes no probe. -/
theorem Consistent.of_quiet (inv : Consistent s) (agrees : Agrees s s')
    (permits : ∀ lane, s'.free lane +
      s'.targets.countP (fun target => target.holdsPermit lane) +
      s'.probes.countP (fun probe => probe.holdsPermit lane) = lane.permits)
    (flights : ∀ (node : String) (place : Nat), s'.flights.inFlight node = some place ↔
      ∃ probe, s'.probes[place]? = some probe ∧ probe.rawNode = node ∧ probe.isInFlight = true)
    (targets : ∀ (i : Nat) (target : Target), s'.targets[i]? = some target → TargetOk s' target)
    (finished : s'.flights.finished = s.flights.finished) (late : NoLater s s') :
    Consistent s' where
  permits := permits
  flights := flights
  targets := targets
  entries node entry hentry := by
    have hold := inv.entries node entry (finished ▸ hentry)
    refine hold.agrees agrees fun hunclaimed i target htarget hlate => ?_
    obtain ⟨before, hbefore, hwas⟩ := late i target _ htarget hlate
    exact hold.unclaimed hunclaimed i before hbefore hwas
  once i j target other place htarget hother hlate hlate' := by
    obtain ⟨before, hbefore, hwas⟩ := late i target place htarget hlate
    obtain ⟨before', hbefore', hwas'⟩ := late j other place hother hlate'
    exact inv.once i j before before' place hbefore hbefore' hwas hwas'

/-- The same probes agree. -/
theorem Agrees.of_probes (hnow : s.now ≤ s'.now) (hprobes : s'.probes = s.probes) :
    Agrees s s' where
  later := hnow
  probes _ probe hprobe := ⟨probe, hprobes ▸ hprobe, rfl, rfl⟩

theorem Agrees.of_set {place : Nat} {probe probe' : Probe} (hnow : s.now ≤ s'.now)
    (hprobe : s.probes[place]? = some probe) (hprobes : s'.probes = s.probes.set place probe')
    (hnode : probe'.rawNode = probe.rawNode) (hreport : probe'.report = probe.report) :
    Agrees s s' where
  later := hnow
  probes other before hother := by
    rw [hprobes]
    by_cases heq : other = place
    · subst heq
      obtain rfl : before = probe := Option.some.inj (hother.symm.trans hprobe)
      exact ⟨probe', getElem?_set_of hother, hnode, hreport⟩
    · exact ⟨before, by rw [List.getElem?_set_ne (Ne.symm heq)]; exact hother, rfl, rfl⟩

/-- The invariant after one target has gone on, apart from a result that nobody waited for. -/
theorem Consistent.of_target (inv : Consistent s) {index : Nat} {target target' : Target}
    {free : Lane → Nat} (htarget : s.targets[index]? = some target)
    (hpermits : ∀ lane, free lane + (target'.holdsPermit lane).toNat =
      s.free lane + (target.holdsPermit lane).toNat)
    (hok : TargetOk s target') (hlate : ∀ place, LateOn s target' place → LateOn s target place) :
    Consistent { s with free := free, targets := s.targets.set index target' } := by
  have agrees : Agrees s { s with free := free, targets := s.targets.set index target' } :=
    .of_probes (Nat.le_refl _) rfl
  refine inv.of_quiet agrees (fun lane => ?_) inv.flights (fun i other hother => ?_) rfl ?_
  · have hcount := countP_set_add (fun target => target.holdsPermit lane) htarget target'
    have hbefore := inv.permits lane
    have hpermit := hpermits lane
    dsimp only at hcount ⊢
    omega
  · rcases getElem?_of_set hother with ⟨-, rfl⟩ | ⟨-, hold⟩
    · exact hok.agrees agrees
    · exact (inv.targets i other hold).agrees agrees
  · intro i other place hother hwas
    rcases getElem?_of_set hother with ⟨rfl, rfl⟩ | ⟨-, hold⟩
    · exact ⟨target, htarget, hlate place (hwas.agrees hok agrees)⟩
    · exact ⟨other, hold, hwas.agrees (inv.targets i other hold) agrees⟩

/-- The invariant after a target has taken a result that nobody waited for. -/
theorem Consistent.of_claim (inv : Consistent s) {index : Nat} {target target' : Target}
    {finished : FinishedProbe} (htarget : s.targets[index]? = some target)
    (hentry : s.flights.finished target.rawNode = some finished)
    (hunclaimed : finished.unclaimed = true) (hlane : target.lane = .sweep)
    (hnode : target'.rawNode = target.rawNode) (hsince : target'.since = target.since)
    (hsame : target'.lane = target.lane) (hawaits : target'.awaits = none)
    (hanswer : target'.answer = some (finished.probe, finished.outcome))
    (hpermits : ∀ lane, target'.holdsPermit lane = target.holdsPermit lane) :
    Consistent { s with
      flights := { s.flights with
        finished := Function.update s.flights.finished target.rawNode
          (some { finished with unclaimed := false }) }
      targets := s.targets.set index target' } := by
  have hkept := inv.entries _ finished hentry
  obtain ⟨probe, report, hprobe, hprobeNode, hreport, houtcome, hfinishedAt, hreportUnclaimed⟩ :=
    hkept.probe
  have agrees : ∀ flights targets, Agrees s { s with flights := flights, targets := targets } :=
    fun _ _ => .of_probes (Nat.le_refl _) rfl
  have hok : TargetOk s target' := by
    refine ⟨?_, ?_, ?_⟩
    · rw [hsince]
      exact (inv.targets index target htarget).began
    · intro place hplace
      rw [hawaits] at hplace
      exact nomatch hplace
    · intro place outcome hgiven
      rw [hanswer, Option.some.injEq, Prod.mk.injEq] at hgiven
      obtain ⟨rfl, rfl⟩ := hgiven
      exact ⟨probe, report, hprobe, hprobeNode.trans hnode.symm, hreport, houtcome,
        .inr ⟨hreportUnclaimed hunclaimed, hsame.trans hlane⟩⟩
  have hnobody := hkept.unclaimed hunclaimed
  constructor
  · intro lane
    have hcount := countP_set_add (fun target => target.holdsPermit lane) htarget target'
    have hbefore := inv.permits lane
    rw [hpermits lane] at hcount
    dsimp only at hcount ⊢
    omega
  · exact inv.flights
  · intro i other hother
    rcases getElem?_of_set hother with ⟨-, rfl⟩ | ⟨-, hold⟩
    · exact hok.agrees (agrees _ _)
    · exact (inv.targets i other hold).agrees (agrees _ _)
  · intro node entry hentry'
    dsimp only at hentry'
    by_cases heq : node = target.rawNode
    · subst heq
      rw [Function.update_self, Option.some.injEq] at hentry'
      subst hentry'
      exact ⟨hkept.past, ⟨probe, report, hprobe, hprobeNode, hreport, houtcome, hfinishedAt,
        fun h => absurd h Bool.false_ne_true⟩, fun h => absurd h Bool.false_ne_true⟩
    · rw [Function.update_of_ne heq] at hentry'
      have hother := inv.entries node entry hentry'
      refine hother.agrees (agrees _ _) fun hentryUnclaimed i other hotherTarget hlate => ?_
      rcases getElem?_of_set hotherTarget with ⟨-, rfl⟩ | ⟨-, hold⟩
      · -- a probe is of one node, so this entry is of another one
        obtain ⟨outcome, -, -, hgiven, -⟩ := hlate.agrees hok (agrees _ _)
        rw [hanswer, Option.some.injEq, Prod.mk.injEq] at hgiven
        obtain ⟨probe', -, hprobe', hnode', -⟩ := hother.probe
        rw [← hgiven.1, hprobe, Option.some.injEq] at hprobe'
        rw [← hprobe', hprobeNode] at hnode'
        exact heq hnode'.symm
      · exact hother.unclaimed hentryUnclaimed i other hold
          (hlate.agrees (inv.targets i other hold) (agrees _ _))
  · intro i j first second place hfirst hsecond hlate hlate'
    have hwhich : ∀ (k : Nat) (other : Target), (s.targets.set index target')[k]? = some other →
        LateOn s other place → (k = index ∧ place = finished.probe) ∨
          s.targets[k]? = some other := by
      intro k other hother hwas
      rcases getElem?_of_set hother with ⟨rfl, rfl⟩ | ⟨-, hold⟩
      · obtain ⟨outcome, -, -, hgiven, -⟩ := hwas
        rw [hanswer, Option.some.injEq, Prod.mk.injEq] at hgiven
        exact .inl ⟨rfl, hgiven.1.symm⟩
      · exact .inr hold
    have hback : ∀ (k : Nat) (other : Target), (s.targets.set index target')[k]? = some other →
        LateOn { s with
          flights := { s.flights with
            finished := Function.update s.flights.finished target.rawNode
              (some { finished with unclaimed := false }) }
          targets := s.targets.set index target' } other place → LateOn s other place := by
      intro k other hother hwas
      rcases getElem?_of_set hother with ⟨-, rfl⟩ | ⟨-, hold⟩
      · exact hwas.agrees hok (agrees _ _)
      · exact hwas.agrees (inv.targets k other hold) (agrees _ _)
    have hfirstLate := hback i first hfirst hlate
    have hsecondLate := hback j second hsecond hlate'
    rcases hwhich i first hfirst hfirstLate with ⟨rfl, rfl⟩ | hold
    · rcases hwhich j second hsecond hsecondLate with ⟨rfl, -⟩ | hold'
      · rfl
      · exact absurd hsecondLate (hnobody j second hold')
    · rcases hwhich j second hsecond hsecondLate with ⟨rfl, rfl⟩ | hold'
      · exact absurd hfirstLate (hnobody i first hold)
      · exact inv.once i j first second place hold hold' hfirstLate hsecondLate

end Frames

section Steps

variable {s s' : State}

theorem Probe.report_of_isInFlight {probe : Probe} (h : probe.isInFlight = true) :
    probe.report = none := by
  rw [Probe.isInFlight] at h
  rw [Probe.report]
  cases hprogress : probe.progress with
  | spawned => rfl
  | measuring => rfl
  | measured outcome => rfl
  | recorded report => rw [hprogress] at h; exact nomatch h
  | published report => rw [hprogress] at h; exact nomatch h

/-- What a target finds: nothing, a probe in flight, a result that is new enough, or one that
nobody waited for, which is handed over. -/
theorem Consistent.join_cases (inv : Consistent s) (target : Target) :
    (s.join target = (none, s.flights) ∧ s.flights.inFlight target.rawNode = none) ∨
    (∃ place, s.join target = (some (.flight place), s.flights) ∧
      s.flights.inFlight target.rawNode = some place) ∨
    (∃ finished, s.flights.finished target.rawNode = some finished ∧
      target.since ≤ finished.finishedAt ∧
      s.join target = (some (.result finished.probe finished.outcome), s.flights)) ∨
    ∃ finished, s.flights.finished target.rawNode = some finished ∧
      finished.finishedAt < target.since ∧ finished.unclaimed = true ∧ target.lane = .sweep ∧
      s.join target = (some (.result finished.probe finished.outcome), { s.flights with
        finished := Function.update s.flights.finished target.rawNode
          (some { finished with unclaimed := false }) }) := by
  have hflight : s.flights.joinInFlight s.isGone target.rawNode =
        (none, s.flights) ∧ s.flights.inFlight target.rawNode = none ∨
      ∃ place, s.flights.joinInFlight s.isGone target.rawNode =
        (some (.flight place), s.flights) ∧ s.flights.inFlight target.rawNode = some place := by
    rw [LatencyFlights.joinInFlight]
    cases hentry : s.flights.inFlight target.rawNode with
    | none => exact .inl ⟨rfl, rfl⟩
    | some place =>
      obtain ⟨probe, hprobe, -, hinFlight⟩ := (inv.flights _ _).1 hentry
      have hhere : s.isGone place = false := by
        rw [State.isGone, hprobe, Option.any_some]
        rw [Probe.isInFlight] at hinFlight
        rw [Probe.isGone]
        cases hprogress : probe.progress with
        | published report => rw [hprogress] at hinFlight; exact nomatch hinFlight
        | _ => rfl
      exact .inr ⟨place, by simp [hhere], rfl⟩
  rw [State.join, LatencyFlights.join]
  cases hentry : s.flights.finished target.rawNode with
  | none =>
    rcases hflight with hnone | hsome
    · exact .inl hnone
    · exact .inr (.inl hsome)
  | some finished =>
    dsimp only
    by_cases hnew : target.since ≤ finished.finishedAt
    · rw [if_pos hnew]
      exact .inr (.inr (.inl ⟨finished, rfl, hnew, rfl⟩))
    · rw [if_neg hnew]
      by_cases hclaim : (target.lane.takeUnclaimed && finished.unclaimed &&
          s.now - finished.finishedAt < latencyResultRetention) = true
      · rw [if_pos hclaim]
        rw [Bool.and_eq_true, Bool.and_eq_true] at hclaim
        have hlane : target.lane = .sweep := by
          cases hlane : target.lane with
          | sweep => rfl
          | priority =>
            rw [hlane] at hclaim
            exact nomatch hclaim.1.1
        exact .inr (.inr (.inr ⟨finished, rfl, Nat.lt_of_not_le hnew, hclaim.1.2, hlane, rfl⟩))
      · rw [if_neg hclaim]
        rcases hflight with hnone | hsome
        · exact .inl hnone
        · exact .inr (.inl hsome)

/-- A target without a probe. -/
theorem TargetOk.of_idle {target target' : Target} (h : TargetOk s target)
    (hsince : target'.since = target.since) (hawaits : target'.awaits = none)
    (hanswer : target'.answer = none) : TargetOk s target' where
  began := hsince ▸ h.began
  awaiting place hplace := by
    rw [hawaits] at hplace
    exact nomatch hplace
  answered place outcome hplace := by
    rw [hanswer] at hplace
    exact nomatch hplace

/-- A target that waits for the probe in flight. -/
theorem Consistent.waiting (inv : Consistent s) {target target' : Target} {place : Nat}
    (h : TargetOk s target) (hsince : target'.since = target.since)
    (hnode : target'.rawNode = target.rawNode) (hawaits : target'.awaits = some place)
    (hanswer : target'.answer = none)
    (hflight : s.flights.inFlight target.rawNode = some place) : TargetOk s target' where
  began := hsince ▸ h.began
  awaiting other hother := by
    rw [hawaits, Option.some.injEq] at hother
    subst hother
    obtain ⟨probe, hprobe, hprobeNode, hinFlight⟩ := (inv.flights _ _).1 hflight
    refine ⟨probe, hprobe, hprobeNode.trans hnode.symm, fun report hreport => ?_⟩
    rw [Probe.report_of_isInFlight hinFlight] at hreport
    exact nomatch hreport
  answered other outcome hother := by
    rw [hanswer] at hother
    exact nomatch hother

/-- A target that takes a result that is new enough. -/
theorem Consistent.taking (inv : Consistent s) {target target' : Target}
    {finished : FinishedProbe} (h : TargetOk s target) (hsince : target'.since = target.since)
    (hnode : target'.rawNode = target.rawNode) (hawaits : target'.awaits = none)
    (hanswer : target'.answer = some (finished.probe, finished.outcome))
    (hentry : s.flights.finished target.rawNode = some finished)
    (hnew : target.since ≤ finished.finishedAt) :
    TargetOk s target' ∧ ∀ place, ¬LateOn s target' place := by
  obtain ⟨probe, report, hprobe, hprobeNode, hreport, houtcome, hfinishedAt, -⟩ :=
    (inv.entries _ finished hentry).probe
  have htime : target'.since ≤ report.finishedAt := by omega
  refine ⟨⟨hsince ▸ h.began, fun place hplace => ?_, fun place outcome hplace => ?_⟩, ?_⟩
  · rw [hawaits] at hplace
    exact nomatch hplace
  · rw [hanswer, Option.some.injEq, Prod.mk.injEq] at hplace
    obtain ⟨rfl, rfl⟩ := hplace
    exact ⟨probe, report, hprobe, hprobeNode.trans hnode.symm, hreport, houtcome, .inl htime⟩
  · rintro place ⟨outcome, probe', report', hgiven, hprobe', hreport', hbefore⟩
    rw [hanswer, Option.some.injEq, Prod.mk.injEq] at hgiven
    rw [← hgiven.1, hprobe, Option.some.injEq] at hprobe'
    rw [← hprobe', hreport, Option.some.injEq] at hreport'
    rw [← hreport'] at hbefore
    omega

theorem not_lateOn_of_answer {target : Target} (h : target.answer = none) (place : Nat) :
    ¬LateOn s target place := by
  rintro ⟨outcome, -, -, hanswer, -⟩
  rw [h] at hanswer
  exact nomatch hanswer

/-- Either way of asking leaves what is consistent consistent, if the permits add up. -/
theorem Consistent.of_join (inv : Consistent s) {index : Nat} {target : Target}
    (htarget : s.targets[index]? = some target) {joined : Joined} {phase : Phase}
    (hjoin : (s.join target).1 = some joined)
    (hpermits : ∀ lane, { target with phase := phase }.holdsPermit lane = target.holdsPermit lane)
    (hresult : ∀ place outcome, joined = .result place outcome →
      { target with phase := phase }.awaits = none ∧
        { target with phase := phase }.answer = some (place, outcome))
    (hflight : ∀ place, joined = .flight place →
      { target with phase := phase }.awaits = some place ∧
        { target with phase := phase }.answer = none) :
    Consistent { s with
      flights := (s.join target).2
      targets := s.setPhase index target phase } := by
  have hok := inv.targets index target htarget
  have hsame : ∀ lane, s.free lane + ({ target with phase := phase }.holdsPermit lane).toNat =
      s.free lane + (target.holdsPermit lane).toNat := fun lane => by rw [hpermits]
  rcases inv.join_cases target with ⟨hnothing, -⟩ | ⟨place, hfound, hentry⟩ |
    ⟨finished, hentry, hnew, hfound⟩ | ⟨finished, hentry, -, hunclaimed, hlane, hfound⟩
  · rw [hnothing] at hjoin
    exact nomatch hjoin
  · rw [hfound, Option.some.injEq] at hjoin
    obtain ⟨hawaits, hanswer⟩ := hflight place hjoin.symm
    rw [hfound]
    exact inv.of_target htarget hsame (inv.waiting hok rfl rfl hawaits hanswer hentry)
      fun place hlate => absurd hlate (not_lateOn_of_answer hanswer place)
  · rw [hfound, Option.some.injEq] at hjoin
    obtain ⟨hawaits, hanswer⟩ := hresult _ _ hjoin.symm
    have htaking : TargetOk s { target with phase := phase } ∧
        ∀ place, ¬LateOn s { target with phase := phase } place :=
      inv.taking hok rfl rfl hawaits hanswer hentry hnew
    obtain ⟨htaken, hnot⟩ := htaking
    rw [hfound]
    exact inv.of_target htarget hsame htaken fun place hlate => absurd hlate (hnot place)
  · rw [hfound, Option.some.injEq] at hjoin
    obtain ⟨hawaits, hanswer⟩ := hresult _ _ hjoin.symm
    rw [hfound]
    exact inv.of_claim htarget hentry hunclaimed hlane rfl rfl rfl hawaits hanswer hpermits

/-- A target starts a probe when it finds nothing. -/
theorem Consistent.of_start (inv : Consistent s) {index : Nat} {target : Target}
    (htarget : s.targets[index]? = some target) (hpermitted : target.phase = .permitted)
    (hnothing : s.flights.inFlight target.rawNode = none) :
    Consistent { s with
      flights := { s.flights with
        inFlight := Function.update s.flights.inFlight target.rawNode (some s.probes.length) }
      targets := s.setPhase index target (.waiting s.probes.length)
      probes := s.probes ++ [⟨target.rawNode, target.lane, target.revision, none, .spawned⟩] } := by
  have hold : ∀ (place : Nat) (probe : Probe), s.probes[place]? = some probe →
      (s.probes ++ [⟨target.rawNode, target.lane, target.revision, none, .spawned⟩])[place]? =
        some probe := by
    intro place probe hprobe
    rw [List.getElem?_append_left (List.getElem?_eq_some_iff.1 hprobe).1]
    exact hprobe
  have agrees : ∀ flights targets, Agrees s { s with
      flights := flights
      targets := targets
      probes := s.probes ++ [⟨target.rawNode, target.lane, target.revision, none, .spawned⟩] } :=
    fun _ _ => ⟨Nat.le_refl _, fun place probe hprobe =>
      ⟨probe, hold place probe hprobe, rfl, rfl⟩⟩
  have hnew : (s.probes ++ [⟨target.rawNode, target.lane, target.revision, none, .spawned⟩])[
      s.probes.length]? =
        some ⟨target.rawNode, target.lane, target.revision, none, .spawned⟩ := by
    rw [List.getElem?_append_right (Nat.le_refl _), Nat.sub_self]
    rfl
  refine inv.of_quiet (agrees _ _) (fun lane => ?_) (fun node place => ?_)
    (fun i other hother => ?_) rfl ?_
  · have hcount := countP_set_add (fun target => target.holdsPermit lane) htarget
      { target with phase := .waiting s.probes.length }
    have hbefore := inv.permits lane
    have hgone : { target with phase := Phase.waiting s.probes.length }.holdsPermit lane =
        false := by simp [Target.holdsPermit]
    have htaken : target.holdsPermit lane = decide (target.lane = lane) := by
      simp [Target.holdsPermit, hpermitted]
    have hprobe : Probe.holdsPermit ⟨target.rawNode, target.lane, target.revision, none, .spawned⟩
        lane = decide (target.lane = lane) := by simp [Probe.holdsPermit]
    rw [hgone, htaken] at hcount
    dsimp only [State.setPhase]
    rw [List.countP_append, List.countP_singleton, hprobe]
    cases hlane : decide (target.lane = lane) with
    | true =>
      rw [hlane] at hcount
      simp only [Bool.toNat_true, Bool.toNat_false, if_true] at hcount ⊢
      omega
    | false =>
      rw [hlane] at hcount
      simp only [Bool.toNat_false, Bool.false_eq_true, if_false] at hcount ⊢
      omega
  · dsimp only
    by_cases heq : node = target.rawNode
    · subst heq
      rw [Function.update_self, Option.some.injEq]
      constructor
      · rintro rfl
        exact ⟨_, hnew, rfl, rfl⟩
      · rintro ⟨probe, hprobe, hnode, hinFlight⟩
        rcases getElem?_of_append hprobe with ⟨hplace, -⟩ | hprobe
        · exact hplace.symm
        · -- nothing of this node was in flight
          have hflight := (inv.flights target.rawNode place).2 ⟨probe, hprobe, hnode, hinFlight⟩
          rw [hnothing] at hflight
          exact nomatch hflight
    · rw [Function.update_of_ne heq, inv.flights]
      constructor
      · rintro ⟨probe, hprobe, hnode, hinFlight⟩
        exact ⟨probe, hold place probe hprobe, hnode, hinFlight⟩
      · rintro ⟨probe, hprobe, hnode, hinFlight⟩
        rcases getElem?_of_append hprobe with ⟨-, rfl⟩ | hprobe
        · exact absurd hnode.symm heq
        · exact ⟨probe, hprobe, hnode, hinFlight⟩
  · rcases getElem?_of_set hother with ⟨-, rfl⟩ | ⟨-, hold'⟩
    · refine ⟨(inv.targets index target htarget).began, fun place hplace => ?_,
        fun place outcome hplace => nomatch hplace⟩
      obtain rfl := Option.some.inj hplace
      exact ⟨_, hnew, rfl, fun report hreport => nomatch hreport⟩
    · exact (inv.targets i other hold').agrees (agrees _ _)
  · intro i other place hother hlate
    rcases getElem?_of_set hother with ⟨-, rfl⟩ | ⟨-, hold'⟩
    · exact absurd hlate (not_lateOn_of_answer rfl place)
    · exact ⟨other, hold', hlate.agrees (inv.targets i other hold') (agrees _ _)⟩

/-- The invariant after a probe has gone on without finishing. -/
theorem Consistent.of_probe (inv : Consistent s) {place : Nat} {probe probe' : Probe}
    {free : Lane → Nat} (hprobe : s.probes[place]? = some probe)
    (hnode : probe'.rawNode = probe.rawNode) (hreport : probe'.report = probe.report)
    (hinFlight : probe'.isInFlight = probe.isInFlight)
    (hpermits : ∀ lane, free lane + (probe'.holdsPermit lane).toNat =
      s.free lane + (probe.holdsPermit lane).toNat) :
    Consistent { s with free := free, probes := s.probes.set place probe' } := by
  have agrees : Agrees s { s with free := free, probes := s.probes.set place probe' } :=
    .of_set (Nat.le_refl _) hprobe rfl hnode hreport
  refine inv.of_quiet agrees (fun lane => ?_) (fun node other => ?_)
    (fun i target htarget => (inv.targets i target htarget).agrees agrees) rfl ?_
  · have hcount := countP_set_add (fun probe => probe.holdsPermit lane) hprobe probe'
    have hbefore := inv.permits lane
    have hpermit := hpermits lane
    dsimp only at hcount ⊢
    omega
  · rw [inv.flights]
    constructor
    · rintro ⟨before, hbefore, hbeforeNode, hflies⟩
      by_cases heq : other = place
      · subst heq
        obtain rfl : before = probe := Option.some.inj (hbefore.symm.trans hprobe)
        exact ⟨probe', getElem?_set_of hprobe, hnode.trans hbeforeNode, hinFlight.trans hflies⟩
      · exact ⟨before, by rw [List.getElem?_set_ne (Ne.symm heq)]; exact hbefore, hbeforeNode,
          hflies⟩
    · rintro ⟨after, hafter, hafterNode, hflies⟩
      rcases getElem?_of_set hafter with ⟨rfl, rfl⟩ | ⟨-, hold⟩
      · exact ⟨probe, hprobe, hnode.symm.trans hafterNode, hinFlight.symm.trans hflies⟩
      · exact ⟨after, hold, hafterNode, hflies⟩
  · intro i target other htarget hlate
    exact ⟨target, htarget, hlate.agrees (inv.targets i target htarget) agrees⟩

/-- The invariant after a probe has finished. -/
theorem Consistent.of_record (inv : Consistent s) {place : Nat} {probe : Probe}
    {outcome : ProbeOutcome} (hprobe : s.probes[place]? = some probe)
    (hmeasured : probe.progress = .measured outcome) {unclaimed : Bool}
    (hwaited : ∀ (i : Nat) (target : Target), s.targets[i]? = some target →
      target.awaits = some place → unclaimed = false) :
    Consistent { s with
      flights := s.flights.record s.now probe.rawNode ⟨place, s.now, outcome, unclaimed⟩
      probes := s.setProgress place probe (.recorded ⟨outcome, s.now, unclaimed⟩) } := by
  have hnoReport : probe.report = none := by rw [Probe.report, hmeasured]
  have hflying : probe.isInFlight = true := by rw [Probe.isInFlight, hmeasured]
  have hafter : (s.setProgress place probe (.recorded ⟨outcome, s.now, unclaimed⟩))[place]? =
      some { probe with progress := .recorded ⟨outcome, s.now, unclaimed⟩ } :=
    getElem?_set_of hprobe
  have hother : ∀ other : Nat, other ≠ place →
      (s.setProgress place probe (.recorded ⟨outcome, s.now, unclaimed⟩))[other]? =
        s.probes[other]? := fun other hne => List.getElem?_set_ne (Ne.symm hne)
  -- what had finished before is another probe
  have hfinished : ∀ (other : Nat) (before : Probe) (report : Report),
      s.probes[other]? = some before → before.report = some report → other ≠ place := by
    rintro other before report hbefore hreport rfl
    rw [hprobe, Option.some.injEq] at hbefore
    rw [← hbefore, hnoReport] at hreport
    exact nomatch hreport
  have hlateBefore : ∀ (i : Nat) (target : Target) (which : Nat),
      s.targets[i]? = some target →
      LateOn { s with
        flights := s.flights.record s.now probe.rawNode ⟨place, s.now, outcome, unclaimed⟩
        probes := s.setProgress place probe (.recorded ⟨outcome, s.now, unclaimed⟩) }
        target which → LateOn s target which := by
    rintro i target which htarget ⟨given, after, report, hanswer, hafterProbe, hreport, hbefore⟩
    obtain ⟨before, report', hbeforeProbe, -, hbeforeReport, -⟩ :=
      (inv.targets i target htarget).answered which given hanswer
    have hne := hfinished which before report' hbeforeProbe hbeforeReport
    dsimp only at hafterProbe
    rw [hother which hne] at hafterProbe
    exact ⟨given, after, report, hanswer, hafterProbe, hreport, hbefore⟩
  constructor
  · intro lane
    have hcount := countP_set_add (fun probe => probe.holdsPermit lane) hprobe
      { probe with progress := .recorded ⟨outcome, s.now, unclaimed⟩ }
    have hbefore := inv.permits lane
    have hnone : probe.holdsPermit lane = false := by simp [Probe.holdsPermit, hmeasured]
    have hstill : { probe with progress := Progress.recorded ⟨outcome, s.now, unclaimed⟩
        }.holdsPermit lane = false := by simp [Probe.holdsPermit]
    rw [hnone, hstill] at hcount
    dsimp only [State.setProgress] at hcount ⊢
    omega
  · intro node which
    dsimp only [LatencyFlights.record]
    by_cases heq : node = probe.rawNode
    · subst heq
      rw [Function.update_self]
      constructor
      · exact fun h => nomatch h
      · rintro ⟨after, hafterProbe, hnode, hinFlight⟩
        by_cases hwhich : which = place
        · rw [hwhich, hafter, Option.some.injEq] at hafterProbe
          rw [← hafterProbe] at hinFlight
          exact nomatch hinFlight
        · rw [hother which hwhich] at hafterProbe
          have hfirst := (inv.flights _ which).2 ⟨after, hafterProbe, hnode, hinFlight⟩
          have hsecond := (inv.flights _ place).2 ⟨probe, hprobe, rfl, hflying⟩
          rw [hfirst, Option.some.injEq] at hsecond
          exact absurd hsecond hwhich
    · rw [Function.update_of_ne heq, inv.flights]
      have hnot : ∀ after : Probe, s.probes[which]? = some after → after.rawNode = node →
          which ≠ place := by
        rintro after hafterProbe hnode rfl
        rw [hprobe, Option.some.injEq] at hafterProbe
        exact heq (hnode.symm.trans (congrArg Probe.rawNode hafterProbe).symm)
      constructor
      · rintro ⟨after, hafterProbe, hnode, hinFlight⟩
        have hne := hnot after hafterProbe hnode
        exact ⟨after, (hother which hne).trans hafterProbe, hnode, hinFlight⟩
      · rintro ⟨after, hafterProbe, hnode, hinFlight⟩
        by_cases hwhich : which = place
        · rw [hwhich, hafter, Option.some.injEq] at hafterProbe
          rw [← hafterProbe] at hinFlight
          exact nomatch hinFlight
        · exact ⟨after, (hother which hwhich).symm.trans hafterProbe, hnode, hinFlight⟩
  · intro i target htarget
    have hok := inv.targets i target htarget
    refine ⟨hok.began, fun which hwhich => ?_, fun which given hanswer => ?_⟩
    · obtain ⟨before, hbefore, hnode, hreport⟩ := hok.awaiting which hwhich
      by_cases heq : which = place
      · subst heq
        obtain rfl : before = probe := Option.some.inj (hbefore.symm.trans hprobe)
        refine ⟨_, hafter, hnode, fun report hnew => ?_⟩
        obtain rfl := Option.some.inj hnew
        exact ⟨hok.began, hwaited i target htarget hwhich⟩
      · exact ⟨before, (hother which heq).trans hbefore, hnode, hreport⟩
    · obtain ⟨before, report, hbefore, hnode, hreport, hrest⟩ := hok.answered which given hanswer
      have hne := hfinished which before report hbefore hreport
      exact ⟨before, report, (hother which hne).trans hbefore, hnode, hreport, hrest⟩
  · intro node entry hentry
    dsimp only [LatencyFlights.record] at hentry
    by_cases heq : node = probe.rawNode
    · subst heq
      rw [Function.update_self, Option.some.injEq] at hentry
      subst hentry
      refine ⟨Nat.le_refl _, ⟨_, _, hafter, rfl, rfl, rfl, rfl, id⟩, ?_⟩
      intro _ i target htarget hlate
      obtain ⟨given, before, report, -, hbefore, hreport, -⟩ :=
        hlateBefore i target place htarget hlate
      exact hfinished place before report hbefore hreport rfl
    · rw [Function.update_of_ne heq] at hentry
      have hold := inv.entries node entry (Option.eq_some_of_filter_eq_some hentry)
      obtain ⟨before, report, hbefore, hnode, hreport, hrest⟩ := hold.probe
      have hne := hfinished entry.probe before report hbefore hreport
      exact ⟨hold.past, ⟨before, report, (hother _ hne).trans hbefore, hnode, hreport, hrest⟩,
        fun hunclaimed i target htarget hlate => hold.unclaimed hunclaimed i target htarget
          (hlateBefore i target _ htarget hlate)⟩
  · intro i j target other which htarget hotherTarget hlate hlate'
    exact inv.once i j target other which htarget hotherTarget
      (hlateBefore i target which htarget hlate)
      (hlateBefore j other which hotherTarget hlate')

theorem consistent_initial : Consistent State.initial where
  permits _ := rfl
  flights node place := by
    constructor
    · exact fun h => nomatch h
    · rintro ⟨probe, hprobe, -⟩
      exact nomatch hprobe
  targets i target htarget := nomatch htarget
  entries node finished hfinished := nomatch hfinished
  once i j target other place htarget := nomatch htarget

/-- A permit that is given back. -/
theorem released_add (s : State) (lane other : Lane) :
    s.released lane other = s.free other + (decide (lane = other)).toNat := by
  rw [State.released]
  by_cases heq : lane = other
  · subst heq
    rw [Function.update_self, decide_eq_true rfl]
    rfl
  · rw [Function.update_of_ne (Ne.symm heq), decide_eq_false heq]
    rfl

/-- A permit that is taken. -/
theorem acquired_add {lane : Lane} (h : 0 < s.free lane) (other : Lane) :
    s.acquired lane other + (decide (lane = other)).toNat = s.free other := by
  rw [State.acquired]
  by_cases heq : lane = other
  · subst heq
    rw [Function.update_self, decide_eq_true rfl]
    exact Nat.sub_add_cancel h
  · rw [Function.update_of_ne (Ne.symm heq), decide_eq_false heq]
    rfl

/-- Every step leaves what is consistent consistent. -/
theorem Consistent.step (inv : Consistent s) {event : Event} (h : Step s event s') :
    Consistent s' := by
  cases h with
  | tick elapsed =>
    have agrees : Agrees s { s with now := s.now + elapsed } :=
      .of_probes (Nat.le_add_right _ _) rfl
    exact inv.of_quiet agrees inv.permits inv.flights
      (fun i target htarget => (inv.targets i target htarget).agrees agrees) rfl
      fun i target place htarget hlate =>
        ⟨target, htarget, hlate.agrees (inv.targets i target htarget) agrees⟩
  | move catalog running =>
    have agrees : Agrees s { s with catalog := catalog, running := running } :=
      .of_probes (Nat.le_refl _) rfl
    exact inv.of_quiet agrees inv.permits inv.flights
      (fun i target htarget => (inv.targets i target htarget).agrees agrees) rfl
      fun i target place htarget hlate =>
        ⟨target, htarget, hlate.agrees (inv.targets i target htarget) agrees⟩
  | arrive rawNode lane since hlive hsince =>
    have agrees : Agrees s { s with
        targets := s.targets ++ [⟨rawNode, lane, since, s.catalog, .fresh⟩] } :=
      .of_probes (Nat.le_refl _) rfl
    refine inv.of_quiet agrees (fun other => ?_) inv.flights (fun i target htarget => ?_) rfl ?_
    · have hbefore := inv.permits other
      have hnone : Target.holdsPermit ⟨rawNode, lane, since, s.catalog, .fresh⟩ other = false := by
        simp [Target.holdsPermit]
      dsimp only
      rw [List.countP_append, List.countP_singleton, hnone]
      simpa using hbefore
    · rcases getElem?_of_append htarget with ⟨-, rfl⟩ | hold
      · exact ⟨hsince, fun place hplace => (nomatch hplace), fun place outcome hplace =>
          (nomatch hplace)⟩
      · exact (inv.targets i target hold).agrees agrees
    · intro i target place htarget hlate
      rcases getElem?_of_append htarget with ⟨-, rfl⟩ | hold
      · exact absurd hlate (not_lateOn_of_answer rfl place)
      · exact ⟨target, hold, hlate.agrees (inv.targets i target hold) agrees⟩
  | @join index target htarget hfresh =>
    have hnone : ∀ lane, target.holdsPermit lane = false := fun lane => by
      simp [Target.holdsPermit, hfresh]
    cases hjoin : (s.join target).1 with
    | none =>
      rcases inv.join_cases target with ⟨hnothing, -⟩ | ⟨place, hfound, -⟩ |
        ⟨finished, -, -, hfound⟩ | ⟨finished, -, -, -, -, hfound⟩
      · rw [hnothing]
        refine inv.of_target htarget (fun lane => ?_)
          ((inv.targets index target htarget).of_idle rfl rfl rfl)
          fun place hlate => absurd hlate (not_lateOn_of_answer rfl place)
        rw [hnone]
        simp [Target.holdsPermit]
      · rw [hfound] at hjoin
        exact nomatch hjoin
      · rw [hfound] at hjoin
        exact nomatch hjoin
      · rw [hfound] at hjoin
        exact nomatch hjoin
    | some joined =>
      refine inv.of_join htarget hjoin (fun lane => ?_) ?_ ?_
      · rw [hnone]
        cases joined <;> simp [Target.holdsPermit, Joined.phase]
      · rintro place outcome rfl
        exact ⟨rfl, rfl⟩
      · rintro place rfl
        exact ⟨rfl, rfl⟩
  | @acquire index target htarget hqueued hfree =>
    refine inv.of_target htarget (fun lane => ?_)
      ((inv.targets index target htarget).of_idle rfl rfl rfl)
      fun place hlate => absurd hlate (not_lateOn_of_answer rfl place)
    have hadd := acquired_add hfree lane
    simpa [Target.holdsPermit, hqueued] using hadd
  | @rejoin index target joined htarget hpermitted hjoin =>
    refine inv.of_join htarget hjoin (fun lane => ?_) ?_ ?_
    · simp [Target.holdsPermit, hpermitted]
    · rintro place outcome rfl
      exact ⟨rfl, rfl⟩
    · rintro place rfl
      exact ⟨rfl, rfl⟩
  | @start index target htarget hpermitted hjoin =>
    rcases inv.join_cases target with ⟨hnothing, hentry⟩ | ⟨place, hfound, -⟩ |
      ⟨finished, -, -, hfound⟩ | ⟨finished, -, -, -, -, hfound⟩
    · rw [hnothing]
      exact inv.of_start htarget hpermitted hentry
    · rw [hfound] at hjoin
      exact nomatch hjoin
    · rw [hfound] at hjoin
      exact nomatch hjoin
    · rw [hfound] at hjoin
      exact nomatch hjoin
  | @release index target joined htarget hleaving =>
    have hawaits : { target with phase := joined.phase }.awaits = target.awaits := by
      cases joined <;> simp [Target.awaits, Joined.phase, hleaving]
    have hanswer : { target with phase := joined.phase }.answer = target.answer := by
      cases joined <;> simp [Target.answer, Joined.phase, hleaving]
    have hok := inv.targets index target htarget
    refine inv.of_target htarget (fun lane => ?_) ⟨hok.began, ?_, ?_⟩ fun place hlate => ?_
    · rw [released_add]
      cases joined <;> simp [Target.holdsPermit, Joined.phase, hleaving]
    · rw [hawaits]
      exact hok.awaiting
    · rw [hanswer]
      exact hok.answered
    · rw [LateOn, hanswer] at hlate
      exact hlate
  | @deliver index target probe place report htarget hwaiting hprobe hpublished =>
    have hok := inv.targets index target htarget
    have hawaits : target.awaits = some place := by rw [Target.awaits, hwaiting]
    have hreport : probe.report = some report := by rw [Probe.report, hpublished]
    obtain ⟨before, hbefore, hnode, hnew⟩ := hok.awaiting place hawaits
    obtain rfl : before = probe := Option.some.inj (hbefore.symm.trans hprobe)
    have htime := (hnew report hreport).1
    refine inv.of_target htarget (fun lane => ?_)
      ⟨hok.began, fun other hother => (nomatch hother), fun other outcome hother => ?_⟩ ?_
    · simp [Target.holdsPermit, hwaiting]
    · obtain ⟨rfl, rfl⟩ := Prod.mk.inj (Option.some.inj hother)
      exact ⟨before, report, hprobe, hnode, hreport, rfl, .inl htime⟩
    · rintro other ⟨outcome, after, report', hgiven, hafter, hreport', hlate⟩
      obtain ⟨rfl, -⟩ := Prod.mk.inj (Option.some.inj hgiven)
      rw [hprobe, Option.some.injEq] at hafter
      rw [← hafter, hreport, Option.some.injEq] at hreport'
      rw [← hreport'] at hlate
      exact absurd hlate (Nat.not_lt.2 htime)
  | @abort index target htarget hawaiting =>
    refine inv.of_target htarget (fun lane => ?_)
      ((inv.targets index target htarget).of_idle rfl rfl rfl)
      fun place hlate => absurd hlate (not_lateOn_of_answer rfl place)
    by_cases hpermitted : target.phase = .permitted
    · rw [if_pos hpermitted, released_add]
      simp [Target.holdsPermit, hpermitted]
    · rw [if_neg hpermitted]
      cases hphase : target.phase with
      | permitted => exact absurd hphase hpermitted
      | leaving joined =>
        rw [hphase] at hawaiting
        exact nomatch hawaiting
      | _ => simp [Target.holdsPermit, hphase]
  | @send place probe hprobe hspawned =>
    refine inv.of_probe hprobe rfl ?_ ?_ fun lane => ?_
    · simp [Probe.report, hspawned]
    · simp [Probe.isInFlight, hspawned]
    · simp [Probe.holdsPermit, hspawned]
  | @finish place probe outcome hprobe hmeasuring =>
    refine inv.of_probe hprobe rfl ?_ ?_ fun lane => ?_
    · simp [Probe.report, hmeasuring]
    · simp [Probe.isInFlight, hmeasuring]
    · rw [released_add]
      simp [Probe.holdsPermit, hmeasuring]
  | @record place probe outcome hprobe hmeasured =>
    refine inv.of_record hprobe hmeasured fun i target htarget hawaits => ?_
    refine decide_eq_false fun hnobody => ?_
    exact List.countP_eq_zero.1 hnobody target (List.mem_of_getElem? htarget)
      (decide_eq_true hawaits)
  | @publish place probe report hprobe hrecorded =>
    refine inv.of_probe hprobe rfl ?_ ?_ fun lane => ?_
    · simp [Probe.report, hrecorded]
    · simp [Probe.isInFlight, hrecorded]
    · simp [Probe.holdsPermit, hrecorded]

end Steps

section SingleFlight

variable {s : State}

/-- What holds of the flights at any time. -/
structure SingleFlight (s : State) : Prop where
  /-- One probe of a node at a time. -/
  single : ∀ (i j : Nat) (probe other : Probe), s.probes[i]? = some probe →
    s.probes[j]? = some other → probe.isInFlight = true → other.isInFlight = true →
    probe.rawNode = other.rawNode → i = j
  budget : s.probes.countP (fun probe => probe.holdsPermit .sweep) ≤ maxConcurrentLatencyProbes ∧
    s.probes.countP (fun probe => probe.holdsPermit .priority) ≤ maxPriorityLatencyProbes
  /-- An answer is of a probe that was still running when the request began or started later, or of
  one that nobody waited for, and then no other late answer is of it. -/
  answers : ∀ (i : Nat) (target : Target) (place : Nat) (outcome : ProbeOutcome),
    s.targets[i]? = some target → target.answer = some (place, outcome) →
    ∃ probe report, s.probes[place]? = some probe ∧ probe.rawNode = target.rawNode ∧
      probe.report = some report ∧ report.outcome = outcome ∧
      (target.since ≤ report.finishedAt ∨
        report.finishedAt < target.since ∧ report.unclaimed = true ∧ target.lane = .sweep ∧
          ∀ (j : Nat) (other : Target), s.targets[j]? = some other → LateOn s other place → j = i)
  /-- Every permit is free, or held by a target that is about to pass it on or by a probe that
  runs. -/
  permits : ∀ lane, s.free lane + s.targets.countP (fun target => target.holdsPermit lane) +
    s.probes.countP (fun probe => probe.holdsPermit lane) = lane.permits
  /-- Just the probes in flight have an entry. -/
  entries : ∀ (node : String) (place : Nat), s.flights.inFlight node = some place ↔
    ∃ probe, s.probes[place]? = some probe ∧ probe.rawNode = node ∧ probe.isInFlight = true
  /-- A target that was stopped holds nothing. -/
  aborted : ∀ (i : Nat) (target : Target), s.targets[i]? = some target →
    target.phase = .aborted → target.awaits = none ∧ ∀ lane, target.holdsPermit lane = false

theorem Consistent.singleFlight (inv : Consistent s) : SingleFlight s where
  single i j probe other hprobe hother hinFlight hotherInFlight hnode := by
    have hfirst := (inv.flights _ i).2 ⟨probe, hprobe, rfl, hinFlight⟩
    have hsecond := (inv.flights _ j).2 ⟨other, hother, hnode.symm, hotherInFlight⟩
    rw [hfirst] at hsecond
    exact Option.some.inj hsecond
  budget := by
    have hsweep := inv.permits .sweep
    have hpriority := inv.permits .priority
    simp only [Lane.permits] at hsweep hpriority
    omega
  answers i target place outcome htarget hanswer := by
    obtain ⟨probe, report, hprobe, hnode, hreport, houtcome, htime⟩ :=
      (inv.targets i target htarget).answered place outcome hanswer
    refine ⟨probe, report, hprobe, hnode, hreport, houtcome, ?_⟩
    by_cases hlate : report.finishedAt < target.since
    · have hclaimed := htime.resolve_left (Nat.not_le.2 hlate)
      refine .inr ⟨hlate, hclaimed.1, hclaimed.2, fun j other hother hotherLate => ?_⟩
      exact inv.once j i other target place hother htarget hotherLate
        ⟨outcome, probe, report, hanswer, hprobe, hreport, hlate⟩
    · exact .inl (Nat.not_lt.1 hlate)
  permits := inv.permits
  entries := inv.flights
  aborted i target htarget haborted := by
    simp [Target.awaits, Target.holdsPermit, haborted]

/-- In every run there is one probe of a node at a time, and nothing is lost with a target that is
stopped. -/
theorem single_flight {edges : List (Transition.Edge State Event)}
    (run : Transition.Run Step State.initial edges s) : SingleFlight s :=
  (run.invariant consistent_initial fun inv hstep => inv.step hstep).singleFlight

/-- A probe in flight goes on by itself, whatever becomes of the targets. -/
theorem inFlight_goes_on {place : Nat} {probe : Probe} (hprobe : s.probes[place]? = some probe)
    (hinFlight : probe.isInFlight = true) (outcome : ProbeOutcome) :
    ∃ event s', Step s event s' ∧
      (event = .send place ∨ event = .finish place outcome ∨ event = .record place) := by
  cases hprogress : probe.progress with
  | spawned => exact ⟨_, _, .send place hprobe hprogress, .inl rfl⟩
  | measuring => exact ⟨_, _, .finish place outcome hprobe hprogress, .inr (.inl rfl)⟩
  | measured given => exact ⟨_, _, .record place hprobe hprogress, .inr (.inr rfl)⟩
  | recorded report =>
    rw [Probe.isInFlight, hprogress] at hinFlight
    exact nomatch hinFlight
  | published report =>
    rw [Probe.isInFlight, hprogress] at hinFlight
    exact nomatch hinFlight

/-- When no target holds a permit and no probe is in flight, all permits are free and there are no
entries. -/
theorem SingleFlight.idle (h : SingleFlight s)
    (htargets : ∀ target ∈ s.targets, ∀ lane, target.holdsPermit lane = false)
    (hprobes : ∀ probe ∈ s.probes, probe.isInFlight = false) :
    (∀ lane, s.free lane = lane.permits) ∧ ∀ node, s.flights.inFlight node = none := by
  constructor
  · intro lane
    have hnone : s.targets.countP (fun target => target.holdsPermit lane) = 0 :=
      List.countP_eq_zero.2 fun target hmem => by simp [htargets target hmem lane]
    have hover : s.probes.countP (fun probe => probe.holdsPermit lane) = 0 := by
      refine List.countP_eq_zero.2 fun probe hmem hholds => ?_
      have hfinished := hprobes probe hmem
      rw [Probe.holdsPermit, Bool.and_eq_true] at hholds
      rw [Probe.isInFlight] at hfinished
      cases hprogress : probe.progress with
      | recorded report => rw [hprogress] at hholds; exact nomatch hholds.2
      | published report => rw [hprogress] at hholds; exact nomatch hholds.2
      | _ => rw [hprogress] at hfinished; exact nomatch hfinished
    have hpermits := h.permits lane
    omega
  · intro node
    cases hentry : s.flights.inFlight node with
    | none => rfl
    | some place =>
      obtain ⟨probe, hprobe, -, hinFlight⟩ := (h.entries node place).1 hentry
      rw [hprobes probe (List.mem_of_getElem? hprobe)] at hinFlight
      exact nomatch hinFlight

/-- Three requests for one node: the first starts its probe, the second joins it, the third is stopped
while it waits; the probe answers the two. -/
theorem run_shared : ∃ edges s, Transition.Run Step State.initial edges s ∧
    s.probes.map Probe.rawNode = ["node"] ∧
    s.targets.map Target.phase = [.answered 0 (.ok 5), .answered 0 (.ok 5), .aborted] := by
  have run := Transition.Run.single (Step.move (s := State.initial) 1 (some 1))
  have run := run.snoc (Step.arrive "node" .sweep 0 rfl (Nat.le_refl _))
  have run := run.snoc (Step.join 0 rfl rfl)
  have run := run.snoc (Step.acquire 0 rfl rfl (by decide))
  have run := run.snoc (Step.start 0 rfl rfl rfl)
  have run := run.snoc (Step.arrive "node" .priority 0 rfl (Nat.le_refl _))
  have run := run.snoc (Step.join 1 rfl rfl)
  have run := run.snoc (Step.arrive "node" .sweep 0 rfl (Nat.le_refl _))
  have run := run.snoc (Step.join 2 rfl rfl)
  have run := run.snoc (Step.abort 2 rfl rfl)
  have run := run.snoc (Step.send 0 rfl rfl)
  have run := run.snoc (Step.finish 0 (.ok 5) rfl rfl)
  have run := run.snoc (Step.record 0 rfl rfl)
  have run := run.snoc (Step.publish 0 rfl rfl)
  have run := run.snoc (Step.deliver 0 rfl rfl rfl rfl)
  exact ⟨_, _, run.snoc (Step.deliver 1 rfl rfl rfl rfl), rfl, rfl⟩

theorem single_flight_shared : ∃ s, s.probes.map Probe.rawNode = ["node"] ∧
    s.targets.map Target.phase = [.answered 0 (.ok 5), .answered 0 (.ok 5), .aborted] ∧
      SingleFlight s := by
  obtain ⟨edges, s, run, hprobes, htargets⟩ := run_shared
  exact ⟨s, hprobes, htargets, single_flight run⟩

end SingleFlight

end MultiCore.Latency
