import MultiCore.Daemon.LatencyFlights

/-!
# Latency answers and catalogs

Probes are known by the name of their node only, and they outlive the catalog of
the request that started them. An answer is of the catalog its request names as
long as no request takes or joins a probe of another one, and every probe is sent
while the cores run the configuration it was started for.
-/

namespace MultiCore.Latency

/-- Every answer comes from a probe that was sent to cores that ran the configuration of the
catalog its request names. -/
def AnswersBelong (s : State) : Prop :=
  ∀ (i : Nat) (target : Target) (place : Nat) (outcome : ProbeOutcome),
    s.targets[i]? = some target → target.answer = some (place, outcome) →
    ∃ probe, s.probes[place]? = some probe ∧ probe.sentTo = some target.revision

/-- The probe of what a target finds. -/
def Joined.probe : Joined → Nat
  | result probe _ => probe
  | flight probe => probe

/-- What a target would take or join in a state is of its own catalog. -/
def JoinsOwn (s : State) (index : Nat) : Prop :=
  ∀ target joined, s.targets[index]? = some target → (s.join target).1 = some joined →
    ∀ probe, s.probes[joined.probe]? = some probe → probe.revision = target.revision

/-- A probe is sent while the cores run the configuration it was started for. -/
def SendsOwn (s : State) (place : Nat) : Prop :=
  ∀ probe, s.probes[place]? = some probe → s.running = some probe.revision

/-- No step meets a probe of another catalog. -/
def Regular (edge : Transition.Edge State Event) : Prop :=
  match edge.label with
  | .join index => JoinsOwn edge.source index
  | .rejoin index => JoinsOwn edge.source index
  | .send place => SendsOwn edge.source place
  | _ => True

/-- What targets have to do with is of their catalogs, and was sent to it. -/
structure Own (s : State) : Prop where
  awaited : ∀ (i : Nat) (target : Target) (place : Nat), s.targets[i]? = some target →
    target.awaits = some place →
      ∃ probe, s.probes[place]? = some probe ∧ probe.revision = target.revision
  answered : ∀ (i : Nat) (target : Target) (place : Nat) (outcome : ProbeOutcome),
    s.targets[i]? = some target → target.answer = some (place, outcome) →
      ∃ probe, s.probes[place]? = some probe ∧ probe.revision = target.revision ∧
        probe.progress ≠ .spawned
  sent : ∀ (place : Nat) (probe : Probe), s.probes[place]? = some probe →
    probe.progress ≠ .spawned → probe.sentTo = some probe.revision

section Steps

variable {s s' : State}

theorem own_initial : Own State.initial where
  awaited _ _ _ htarget := nomatch htarget
  answered _ _ _ _ htarget := nomatch htarget
  sent _ _ hprobe := nomatch hprobe

/-- The targets and their probes as they were. -/
theorem Own.of_same (own : Own s) (htargets : s'.targets = s.targets)
    (hprobes : s'.probes = s.probes) : Own s' where
  awaited := by
    rw [htargets, hprobes]
    exact own.awaited
  answered := by
    rw [htargets, hprobes]
    exact own.answered
  sent := by
    rw [hprobes]
    exact own.sent

/-- One target has gone on, to a probe of its own catalog if any. -/
theorem Own.of_target (own : Own s) {index : Nat} {target' : Target}
    (htargets : s'.targets = s.targets.set index target') (hprobes : s'.probes = s.probes)
    (hawaits : ∀ place, target'.awaits = some place →
      ∃ probe, s.probes[place]? = some probe ∧ probe.revision = target'.revision)
    (hanswer : ∀ place outcome, target'.answer = some (place, outcome) →
      ∃ probe, s.probes[place]? = some probe ∧ probe.revision = target'.revision ∧
        probe.progress ≠ .spawned) : Own s' where
  awaited i target place htarget hplace := by
    rw [htargets] at htarget
    rw [hprobes]
    rcases getElem?_of_set htarget with ⟨-, rfl⟩ | ⟨-, hold⟩
    · exact hawaits place hplace
    · exact own.awaited i target place hold hplace
  answered i target place outcome htarget hplace := by
    rw [htargets] at htarget
    rw [hprobes]
    rcases getElem?_of_set htarget with ⟨-, rfl⟩ | ⟨-, hold⟩
    · exact hanswer place outcome hplace
    · exact own.answered i target place outcome hold hplace
  sent := by
    rw [hprobes]
    exact own.sent

/-- One probe has gone on after it was sent to its own configuration. -/
theorem Own.of_probe (own : Own s) {place : Nat} {probe probe' : Probe}
    (hprobe : s.probes[place]? = some probe) (htargets : s'.targets = s.targets)
    (hprobes : s'.probes = s.probes.set place probe') (hrevision : probe'.revision = probe.revision)
    (hprogress : probe'.progress ≠ .spawned) (hsent : probe'.sentTo = some probe'.revision) :
    Own s' := by
  have hafter : ∀ (other : Nat) (before : Probe), s.probes[other]? = some before →
      ∃ after, s'.probes[other]? = some after ∧ after.revision = before.revision ∧
        (before.progress ≠ .spawned → after.progress ≠ .spawned) := by
    intro other before hbefore
    rw [hprobes]
    by_cases heq : other = place
    · subst heq
      obtain rfl : before = probe := Option.some.inj (hbefore.symm.trans hprobe)
      exact ⟨probe', getElem?_set_of hprobe, hrevision, fun _ => hprogress⟩
    · rw [List.getElem?_set_ne (Ne.symm heq)]
      exact ⟨before, hbefore, rfl, id⟩
  refine ⟨fun i target other htarget hother => ?_, fun i target other outcome htarget hother => ?_,
    fun other after hother hspawned => ?_⟩
  · rw [htargets] at htarget
    obtain ⟨before, hbefore, hown⟩ := own.awaited i target other htarget hother
    obtain ⟨after, hafterProbe, hsame, -⟩ := hafter other before hbefore
    exact ⟨after, hafterProbe, hsame.trans hown⟩
  · rw [htargets] at htarget
    obtain ⟨before, hbefore, hown, hbeforeSpawned⟩ :=
      own.answered i target other outcome htarget hother
    obtain ⟨after, hafterProbe, hsame, hstill⟩ := hafter other before hbefore
    exact ⟨after, hafterProbe, hsame.trans hown, hstill hbeforeSpawned⟩
  · rw [hprobes] at hother
    rcases getElem?_of_set hother with ⟨-, rfl⟩ | ⟨-, hold⟩
    · exact hsent
    · exact own.sent other after hold hspawned

theorem Probe.progress_ne_of_report {probe : Probe} {report : Report}
    (h : probe.report = some report) : probe.progress ≠ .spawned := by
  intro hspawned
  rw [Probe.report, hspawned] at h
  cases h

/-- What a target takes or joins is of its own catalog. -/
theorem Own.of_join (inv : Consistent s) (own : Own s) {index : Nat} {target : Target}
    (htarget : s.targets[index]? = some target) (hjoins : JoinsOwn s index) {joined : Joined}
    (hjoin : (s.join target).1 = some joined) {phase : Phase}
    (hphase : phase = joined.phase ∨ phase = .leaving joined)
    (htargets : s'.targets = s.setPhase index target phase) (hprobes : s'.probes = s.probes) :
    Own s' := by
  have hown := hjoins target joined htarget hjoin
  refine own.of_target htargets hprobes (fun place hplace => ?_) fun place outcome hplace => ?_
  · have hflight : joined = .flight place := by
      cases joined with
      | flight other =>
        rcases hphase with rfl | rfl
        · exact congrArg Joined.flight (Option.some.inj hplace)
        · exact congrArg Joined.flight (Option.some.inj hplace)
      | result other outcome =>
        rcases hphase with rfl | rfl
        · exact nomatch hplace
        · exact nomatch hplace
    subst hflight
    rcases inv.join_cases target with ⟨hnothing, -⟩ | ⟨other, hfound, hentry⟩ |
      ⟨finished, -, -, hfound⟩ | ⟨finished, -, -, -, -, hfound⟩
    · rw [hnothing] at hjoin
      exact nomatch hjoin
    · rw [hfound, Option.some.injEq] at hjoin
      obtain rfl := Joined.flight.inj hjoin
      obtain ⟨probe, hprobe, -⟩ := (inv.flights _ _).1 hentry
      exact ⟨probe, hprobe, hown probe hprobe⟩
    · rw [hfound, Option.some.injEq] at hjoin
      exact nomatch hjoin
    · rw [hfound, Option.some.injEq] at hjoin
      exact nomatch hjoin
  · have hresult : joined = .result place outcome := by
      cases joined with
      | flight other =>
        rcases hphase with rfl | rfl
        · exact nomatch hplace
        · exact nomatch hplace
      | result other given =>
        rcases hphase with rfl | rfl
        · obtain ⟨rfl, rfl⟩ := Prod.mk.inj (Option.some.inj hplace)
          rfl
        · obtain ⟨rfl, rfl⟩ := Prod.mk.inj (Option.some.inj hplace)
          rfl
    subst hresult
    have hkept : ∀ finished, s.flights.finished target.rawNode = some finished →
        finished.probe = place → ∃ probe, s.probes[place]? = some probe ∧
          probe.revision = target.revision ∧ probe.progress ≠ .spawned := by
      rintro finished hentry rfl
      obtain ⟨probe, report, hprobe, -, hreport, -⟩ := (inv.entries _ finished hentry).probe
      exact ⟨probe, hprobe, hown probe hprobe, Probe.progress_ne_of_report hreport⟩
    rcases inv.join_cases target with ⟨hnothing, -⟩ | ⟨other, hfound, -⟩ |
      ⟨finished, hentry, -, hfound⟩ | ⟨finished, hentry, -, -, -, hfound⟩
    · rw [hnothing] at hjoin
      exact nomatch hjoin
    · rw [hfound, Option.some.injEq] at hjoin
      exact nomatch hjoin
    · rw [hfound, Option.some.injEq] at hjoin
      exact hkept finished hentry (Joined.result.inj hjoin).1
    · rw [hfound, Option.some.injEq] at hjoin
      exact hkept finished hentry (Joined.result.inj hjoin).1

/-- A regular step leaves everything its own. -/
theorem Own.step (inv : Consistent s) (own : Own s) {event : Event} (h : Step s event s')
    (regular : Regular ⟨s, event, s'⟩) : Own s' := by
  cases h with
  | tick elapsed => exact own.of_same rfl rfl
  | move catalog running => exact own.of_same rfl rfl
  | arrive rawNode lane since hlive hsince =>
    refine ⟨fun i target place htarget hplace => ?_,
      fun i target place outcome htarget hplace => ?_, own.sent⟩
    · rcases getElem?_of_append htarget with ⟨-, rfl⟩ | hold
      · cases hplace
      · exact own.awaited i target place hold hplace
    · rcases getElem?_of_append htarget with ⟨-, rfl⟩ | hold
      · cases hplace
      · exact own.answered i target place outcome hold hplace
  | @join index target htarget hfresh =>
    cases hjoin : (s.join target).1 with
    | none =>
      exact own.of_target rfl rfl (fun place hplace => by cases hplace)
        fun place outcome hplace => by cases hplace
    | some joined => exact own.of_join inv htarget regular hjoin (.inl rfl) rfl rfl
  | @acquire index target htarget hqueued hfree =>
    exact own.of_target rfl rfl (fun place hplace => by cases hplace)
      fun place outcome hplace => by cases hplace
  | @rejoin index target joined htarget hpermitted hjoin =>
    exact own.of_join inv htarget regular hjoin (.inr rfl) rfl rfl
  | @start index target htarget hpermitted hjoin =>
    have hold : ∀ (place : Nat) (probe : Probe), s.probes[place]? = some probe →
        (s.probes ++ [⟨target.rawNode, target.lane, target.revision, none, .spawned⟩])[place]? =
          some probe := by
      intro place probe hprobe
      rw [List.getElem?_append_left (List.getElem?_eq_some_iff.1 hprobe).1]
      exact hprobe
    refine ⟨fun i other place hother hplace => ?_,
      fun i other place outcome hother hplace => ?_, fun place probe hprobe hspawned => ?_⟩
    · rcases getElem?_of_set hother with ⟨-, rfl⟩ | ⟨-, hother⟩
      · obtain rfl := Option.some.inj hplace
        refine ⟨⟨target.rawNode, target.lane, target.revision, none, .spawned⟩, ?_, rfl⟩
        rw [List.getElem?_append_right (Nat.le_refl _), Nat.sub_self]
        rfl
      · obtain ⟨probe, hprobe, hown⟩ := own.awaited i other place hother hplace
        exact ⟨probe, hold place probe hprobe, hown⟩
    · rcases getElem?_of_set hother with ⟨-, rfl⟩ | ⟨-, hother⟩
      · cases hplace
      · obtain ⟨probe, hprobe, hown⟩ := own.answered i other place outcome hother hplace
        exact ⟨probe, hold place probe hprobe, hown⟩
    · rcases getElem?_of_append hprobe with ⟨-, rfl⟩ | hprobe
      · exact absurd rfl hspawned
      · exact own.sent place probe hprobe hspawned
  | @release index target joined htarget hleaving =>
    refine own.of_target rfl rfl (fun place hplace => ?_) fun place outcome hplace => ?_
    · have hbefore : target.awaits = some place := by
        rw [← hplace]
        cases joined <;> simp [Target.awaits, Joined.phase, hleaving]
      exact own.awaited index target place htarget hbefore
    · have hbefore : target.answer = some (place, outcome) := by
        rw [← hplace]
        cases joined <;> simp [Target.answer, Joined.phase, hleaving]
      exact own.answered index target place outcome htarget hbefore
  | @deliver index target probe place report htarget hwaiting hprobe hpublished =>
    refine own.of_target rfl rfl (fun other hother => by cases hother)
      fun other outcome hother => ?_
    obtain ⟨rfl, -⟩ := Prod.mk.inj (Option.some.inj hother)
    have hbefore : target.awaits = some place := by rw [Target.awaits, hwaiting]
    obtain ⟨before, hbeforeProbe, hown⟩ := own.awaited index target place htarget hbefore
    obtain rfl : before = probe := Option.some.inj (hbeforeProbe.symm.trans hprobe)
    exact ⟨before, hprobe, hown, by rw [hpublished]; exact fun h => by cases h⟩
  | @abort index target htarget hawaiting =>
    exact own.of_target rfl rfl (fun place hplace => by cases hplace)
      fun place outcome hplace => by cases hplace
  | @send place probe hprobe hspawned =>
    exact own.of_probe hprobe rfl rfl rfl (fun h => by cases h) (regular probe hprobe)
  | @finish place probe outcome hprobe hmeasuring =>
    have hsent := own.sent place probe hprobe (by rw [hmeasuring]; exact fun h => by cases h)
    exact own.of_probe hprobe rfl rfl rfl (fun h => by cases h) hsent
  | @record place probe outcome hprobe hmeasured =>
    have hsent := own.sent place probe hprobe (by rw [hmeasured]; exact fun h => by cases h)
    exact own.of_probe hprobe rfl rfl rfl (fun h => by cases h) hsent
  | @publish place probe report hprobe hrecorded =>
    have hsent := own.sent place probe hprobe (by rw [hrecorded]; exact fun h => by cases h)
    exact own.of_probe hprobe rfl rfl rfl (fun h => by cases h) hsent

theorem Own.answersBelong (own : Own s) : AnswersBelong s := by
  intro i target place outcome htarget hanswer
  obtain ⟨probe, hprobe, hown, hspawned⟩ := own.answered i target place outcome htarget hanswer
  exact ⟨probe, hprobe, (own.sent place probe hprobe hspawned).trans (congrArg some hown)⟩

end Steps

section Runs

/-- In every run of regular steps all answers belong to the catalogs they name. -/
theorem answersBelong_of_regular {edges : List (Transition.Edge State Event)} {s : State}
    (run : Transition.Run Step State.initial edges s) (regular : ∀ edge ∈ edges, Regular edge) :
    ∀ edge ∈ edges, AnswersBelong edge.target := by
  have hstep : ∀ {t : State} {event : Event} {u : State}, Consistent t ∧ Own t →
      Step t event u → Regular ⟨t, event, u⟩ → Consistent u ∧ Own u :=
    fun hI hstep hregular => ⟨hI.1.step hstep, hI.2.step hI.1 hstep hregular⟩
  have hboth := run.forall_target_of ⟨consistent_initial, own_initial⟩ hstep regular
  exact fun edge hedge => (hboth edge hedge).2.answersBelong

theorem regular_snoc {edges : List (Transition.Edge State Event)}
    {edge : Transition.Edge State Event} (h : ∀ other ∈ edges, Regular other)
    (hedge : Regular edge) : ∀ other ∈ edges ++ [edge], Regular other := by
  intro other hother
  rcases List.mem_append.1 hother with hother | hother
  · exact h other hother
  · rw [List.mem_singleton.1 hother]
    exact hedge

/-- A sweep of one node is answered with its own probe. -/
theorem answersBelong_of_regular_sweep : ∃ edges s, Transition.Run Step State.initial edges s ∧
    (∃ target ∈ s.targets, target.phase = .answered 0 (.ok 40)) ∧
    ∀ edge ∈ edges, AnswersBelong edge.target := by
  have run := Transition.Run.single (Step.move (s := State.initial) 1 (some 1))
  have run := run.snoc (Step.arrive "node" .sweep 0 rfl (Nat.le_refl _))
  have run := run.snoc (Step.join 0 rfl rfl)
  have run := run.snoc (Step.acquire 0 rfl rfl (by decide))
  have run := run.snoc (Step.start 0 rfl rfl rfl)
  have run := run.snoc (Step.send 0 rfl rfl)
  have run := run.snoc (Step.finish 0 (.ok 40) rfl rfl)
  have run := run.snoc (Step.record 0 rfl rfl)
  have run := run.snoc (Step.publish 0 rfl rfl)
  have run := run.snoc (Step.deliver 0 rfl rfl rfl rfl)
  refine ⟨_, _, run, ⟨_, List.mem_singleton_self _, rfl⟩, answersBelong_of_regular run
    (regular_snoc (regular_snoc (regular_snoc (regular_snoc (regular_snoc (regular_snoc
      (regular_snoc (regular_snoc (regular_snoc ?_ trivial) ?_) trivial) ?_) ?_) trivial) trivial)
        trivial) trivial)⟩
  · intro other hother
    rw [List.mem_singleton.1 hother]
    trivial
  · intro target joined htarget hjoin
    obtain rfl := Option.some.inj htarget
    exact nomatch hjoin
  · intro target joined htarget hjoin
    obtain rfl := Option.some.inj htarget
    exact nomatch hjoin
  · intro probe hprobe
    obtain rfl := Option.some.inj hprobe
    rfl

/-- A sweep takes the result of a probe of the profile that was active before. -/
theorem foreign_answer : ¬∀ edges s, Transition.Run Step State.initial edges s →
    AnswersBelong s := by
  intro h
  have run := Transition.Run.single (Step.move (s := State.initial) 1 (some 1))
  have run := run.snoc (Step.arrive "node" .sweep 0 rfl (Nat.le_refl _))
  have run := run.snoc (Step.join 0 rfl rfl)
  have run := run.snoc (Step.acquire 0 rfl rfl (by decide))
  have run := run.snoc (Step.start 0 rfl rfl rfl)
  have run := run.snoc (Step.send 0 rfl rfl)
  have run := run.snoc (Step.abort 0 rfl rfl)
  have run := run.snoc (Step.finish 0 (.ok 40) rfl rfl)
  have run := run.snoc (Step.record 0 rfl rfl)
  have run := run.snoc (Step.publish 0 rfl rfl)
  -- another profile is activated, which has a node of the same name
  have run := run.snoc (Step.tick 1000)
  have run := run.snoc (Step.move 2 (some 2))
  have run := run.snoc (Step.arrive "node" .sweep 1000 rfl (Nat.le_refl _))
  have run := run.snoc (Step.join 1 rfl rfl)
  obtain ⟨probe, hprobe, hsent⟩ := h _ _ run 1 _ 0 (.ok 40) rfl rfl
  obtain rfl := Option.some.inj hprobe
  exact absurd hsent (by decide)

end Runs

end MultiCore.Latency
