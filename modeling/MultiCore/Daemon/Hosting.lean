import MultiCore.Daemon.Sidecars

/-!
# What one operation of the sidecar controller does

The monadic operations are reduced to the machines they leave, whatever the
operating system answers. A start keeps the child that runs, holds a new one, or
fails and may leave a process behind that no child stands for.
-/

namespace MultiCore.Daemon.Sidecars

variable {Command : Type}

/-! ## Running an operation -/

/-- The result of an operation and the machine it leaves. -/
def outcome {α : Type} (x : Hosting Command α) (answers : Answers) (machine : Machine Command) :
    α × Machine Command :=
  Id.run ((x.run answers).run machine)

section Outcome

variable {α β : Type} {answers : Answers} {machine : Machine Command}

@[simp] theorem outcome_pure (a : α) :
    outcome (pure a : Hosting Command α) answers machine = (a, machine) := rfl

@[simp] theorem outcome_bind (x : Hosting Command α) (f : α → Hosting Command β) :
    outcome (x >>= f) answers machine =
      outcome (f (outcome x answers machine).1) answers (outcome x answers machine).2 := rfl

@[simp] theorem outcome_map (f : α → β) (x : Hosting Command α) :
    outcome (f <$> x) answers machine =
      (f (outcome x answers machine).1, (outcome x answers machine).2) := rfl

@[simp] theorem outcome_read :
    outcome (read : Hosting Command Answers) answers machine = (answers, machine) := rfl

@[simp] theorem outcome_get :
    outcome (get : Hosting Command (Machine Command)) answers machine = (machine, machine) := rfl

@[simp] theorem outcome_modify (f : Machine Command → Machine Command) :
    outcome (modify f : Hosting Command PUnit) answers machine = (⟨⟩, f machine) := rfl

end Outcome

/-! ## The machine -/

namespace Machine

variable {machine : Machine Command} {process p : Process Command} {engine : Engine}
  {command : Command}

@[simp] theorem mem_launch :
    p ∈ (machine.launch engine command).running ↔
      p ∈ machine.running ∨ p = machine.fresh engine command := by
  simp [launch]

@[simp] theorem engine_fresh : (machine.fresh engine command).engine = engine := rfl

@[simp] theorem running_insert : (machine.insert process).running = machine.running := rfl

@[simp] theorem running_remove : (machine.remove engine).running = machine.running := rfl

/-- Without a child for the engine there is none to remove. -/
theorem remove_eq_self (none : machine.children engine = none) :
    machine.remove engine = machine := by
  have same : Function.update machine.children engine Option.none = machine.children := by
    rw [← none, Function.update_eq_self]
  simp only [remove, same]

variable [DecidableEq Command]

@[simp] theorem runs_eq : machine.runs process = decide (process ∈ machine.running) := rfl

@[simp] theorem mem_exit :
    p ∈ (machine.exit process).running ↔ p ∈ machine.running ∧ p ≠ process := by
  simp [exit]

@[simp] theorem exit_exit : (machine.exit process).exit process = machine.exit process := by
  simp [exit]

/-- A process that does not run cannot exit. -/
theorem exit_eq_self (gone : process ∉ machine.running) : machine.exit process = machine := by
  have same : machine.running.filter (· ≠ process) = machine.running := by
    rw [List.filter_eq_self]
    intro p runs
    exact decide_eq_true fun same => gone (same ▸ runs)
  simp only [exit, same]

end Machine

/-! ## Waiting and stopping -/

/-- A look sees the process ready, and it was seen running until then. -/
def comesReady : List Poll → Bool
  | [] => false
  | poll :: polls => !poll.exits && poll.seen && (poll.ready || comesReady polls)

/-- The process exits while it is waited for. -/
def exitsWaiting : List Poll → Bool
  | [] => false
  | poll :: polls => poll.exits || (poll.seen && !poll.ready && exitsWaiting polls)

section Waiting

variable [DecidableEq Command] {answers : Answers} {machine : Machine Command}
  {child : Process Command}

@[simp] theorem outcome_hasExited (seen : Bool) :
    outcome (hasExited seen child) answers machine =
      (if seen then .ok (!machine.runs child)
       else .error (.inspectFailed child.engine), machine) := by
  cases seen <;> rfl

/-- The wait for a running process is over when it is ready, gone or out of sight. -/
theorem waitUntilReady_cases (answers : Answers) (runs : child ∈ machine.running)
    (polls : List Poll) :
    (comesReady polls = true ∧
      outcome (waitUntilReady child polls) answers machine = (.ok (), machine)) ∨
    (comesReady polls = false ∧ ∃ error,
      outcome (waitUntilReady child polls) answers machine =
        (.error error, if exitsWaiting polls then machine.exit child else machine)) := by
  induction polls with
  | nil =>
    right
    exact ⟨rfl, _, rfl⟩
  | cons poll polls ih =>
    obtain ⟨exits, seen, ready⟩ := poll
    cases exits <;> cases seen <;> cases ready <;>
      simp [waitUntilReady, comesReady, exitsWaiting, runs]
    exact ih

/-- An attempt to stop a child leaves the machine without its process where it ended it. -/
theorem stopChild_machine :
    (outcome (stopChild child) answers machine).2 =
      if (answers.stopping child.engine).ends then machine.exit child else machine := by
  cases stopping : answers.stopping child.engine with
  | stopped => simp [stopChild, stopping, Stopping.ends]
  | unseen ends => cases ends <;> simp [stopChild, stopping, Stopping.ends]
  | failed ends =>
    by_cases runs : child ∈ machine.running
    · cases ends <;> simp [stopChild, stopping, Stopping.ends, runs]
    · simp [stopChild, stopping, Stopping.ends, runs, machine.exit_eq_self runs]

/-- A running process is stopped when its stopping says so. -/
theorem stopChild_result (answers : Answers) (runs : child ∈ machine.running) :
    (outcome (stopChild child) answers machine).1 = .ok () ↔
      answers.stopping child.engine = .stopped := by
  cases stopping : answers.stopping child.engine with
  | stopped => simp [stopChild, stopping]
  | unseen ends => cases ends <;> simp [stopChild, stopping]
  | failed ends => cases ends <;> simp [stopChild, stopping, runs]

/-- A dropped handle leaves the machine without its process where dropping kills it. -/
@[simp] theorem outcome_dropChild :
    outcome (dropChild child) answers machine =
      (⟨⟩, if answers.dropKills child.engine then machine.exit child else machine) := by
  cases drops : answers.dropKills child.engine <;> simp [dropChild, drops]

end Waiting

/-! ## Bringing a core up -/

/-- A launched core gets ready. -/
def Answers.brings (answers : Answers) (engine : Engine) : Bool :=
  answers.launches engine && !answers.exitsAtOnce engine && answers.launchedSeen engine &&
    comesReady (answers.polls engine)

/-- A launched core that did not get ready is not stopped and outlives its handle. -/
def Answers.strays (answers : Answers) (engine : Engine) : Bool :=
  answers.launches engine && !answers.exitsAtOnce engine && !answers.dropKills engine &&
    (!answers.launchedSeen engine ||
      (!comesReady (answers.polls engine) && !exitsWaiting (answers.polls engine) &&
        !(answers.stopping engine).ends))

section BringingUp

variable [DecidableEq Command] {answers : Answers} {machine : Machine Command}
  {engine : Engine} {command : Command}

/-- The machine after a core was not brought up. -/
def Machine.unlaunched (machine : Machine Command) (answers : Answers) (engine : Engine)
    (command : Command) : Machine Command :=
  if answers.launches engine then
    if answers.strays engine then machine.launch engine command
    else (machine.launch engine command).exit (machine.fresh engine command)
  else machine

@[simp] theorem Machine.children_unlaunched :
    (machine.unlaunched answers engine command).children = machine.children := by
  unfold unlaunched
  split
  · split <;> rfl
  · rfl

/-- A core comes up and is held, or nothing is held and its process may be left. -/
theorem bringUp_cases (answers : Answers) (machine : Machine Command) (engine : Engine)
    (command : Command) :
    (answers.brings engine = true ∧
      outcome (bringUp engine command) answers machine =
        (.ok (), (machine.launch engine command).insert (machine.fresh engine command))) ∨
    (answers.brings engine = false ∧ ∃ error,
      outcome (bringUp engine command) answers machine =
        (.error error, machine.unlaunched answers engine command)) := by
  cases launches : answers.launches engine with
  | false =>
    right
    simp [Answers.brings, bringUp, launch, launches, Machine.unlaunched]
  | true =>
    cases atOnce : answers.exitsAtOnce engine with
    | true =>
      right
      cases seen : answers.launchedSeen engine <;>
        simp [Answers.brings, Answers.strays, bringUp, launch, launches, atOnce, seen,
          Machine.unlaunched]
    | false =>
      cases seen : answers.launchedSeen engine with
      | false =>
        right
        cases drops : answers.dropKills engine <;>
          simp [Answers.brings, Answers.strays, bringUp, launch, launches, atOnce, seen, drops,
            Machine.unlaunched, Machine.fresh]
      | true =>
        have runs : machine.fresh engine command ∈ (machine.launch engine command).running := by
          simp
        rcases waitUntilReady_cases answers runs (answers.polls engine) with
          ⟨ready, waited⟩ | ⟨ready, error, waited⟩
        · left
          simp [Answers.brings, bringUp, launch, launches, atOnce, seen, ready, waited]
        · right
          refine ⟨by simp [Answers.brings, ready], error, ?_⟩
          -- the process is gone if the wait, the stop or the drop ended it
          cases waiting : exitsWaiting (answers.polls engine) <;>
            cases ends : (answers.stopping engine).ends <;>
            cases drops : answers.dropKills engine <;>
            simp [bringUp, launch, launches, atOnce, seen, ready, waited, waiting, ends, drops,
              stopChild_machine, Answers.strays, Machine.unlaunched]

end BringingUp

/-! ## Starting a core -/

section Starting

variable [DecidableEq Command]

/-- The controller holds a child that is seen to run. -/
def Machine.keeps (machine : Machine Command) (answers : Answers) (engine : Engine) : Bool :=
  match machine.children engine with
  | some child => answers.heldSeen engine && machine.runs child
  | none => false

/-- The controller holds no child, or one that is seen to have exited. -/
def Machine.replaces (machine : Machine Command) (answers : Answers) (engine : Engine) : Bool :=
  match machine.children engine with
  | some child => answers.heldSeen engine && !machine.runs child
  | none => true

/-- A start finds the core running or brings it up. -/
def Machine.starts (machine : Machine Command) (answers : Answers) (engine : Engine) : Bool :=
  machine.keeps answers engine || (machine.replaces answers engine && answers.brings engine)

/-- A failed start leaves a process behind. -/
def Machine.strays (machine : Machine Command) (answers : Answers) (engine : Engine) : Bool :=
  machine.replaces answers engine && answers.strays engine

variable {command : Engine → Command} {answers : Answers} {machine : Machine Command}
  {engine : Engine}

/-- A child that runs is kept. -/
theorem start_keeps (keeps : machine.keeps answers engine = true) :
    outcome (start command engine) answers machine = (.ok (), machine) := by
  cases held : machine.children engine with
  | none => simp [Machine.keeps, held] at keeps
  | some child =>
    obtain ⟨seen, runs⟩ : answers.heldSeen engine = true ∧ child ∈ machine.running := by
      simpa [Machine.keeps, held] using keeps
    simp [start, held, seen, runs]

/-- Without a child, or with one that exited, the core is brought up. -/
theorem start_replaces (replaces : machine.replaces answers engine = true) :
    outcome (start command engine) answers machine =
      outcome (bringUp engine (command engine)) answers (machine.remove engine) := by
  cases held : machine.children engine with
  | none => simp [start, held, machine.remove_eq_self held]
  | some child =>
    obtain ⟨seen, gone⟩ : answers.heldSeen engine = true ∧ child ∉ machine.running := by
      simpa [Machine.replaces, held] using replaces
    simp [start, held, seen, gone]

/-- A child that cannot be inspected stays as it is. -/
theorem start_unseen (command : Engine → Command)
    (keeps : machine.keeps answers engine = false)
    (replaces : machine.replaces answers engine = false) :
    ∃ error, outcome (start command engine) answers machine = (.error error, machine) := by
  cases held : machine.children engine with
  | none => simp [Machine.replaces, held] at replaces
  | some child =>
    have unseen : answers.heldSeen engine = false := by
      simp only [Machine.keeps, held] at keeps
      simp only [Machine.replaces, held] at replaces
      by_cases runs : child ∈ machine.running
      · simpa [runs] using keeps
      · simpa [runs] using replaces
    exact ⟨.inspectFailed child.engine, by simp [start, held, unseen]⟩

/-- Everything a start can do: keep the child, bring up a new one, or fail. -/
theorem start_cases (command : Engine → Command) (answers : Answers) (machine : Machine Command)
    (engine : Engine) :
    (machine.keeps answers engine = true ∧
      outcome (start command engine) answers machine = (.ok (), machine)) ∨
    (machine.replaces answers engine = true ∧ answers.brings engine = true ∧
      outcome (start command engine) answers machine =
        (.ok (), ((machine.remove engine).launch engine (command engine)).insert
          (machine.fresh engine (command engine)))) ∨
    (machine.starts answers engine = false ∧ ∃ error,
      outcome (start command engine) answers machine =
        (.error error, if machine.replaces answers engine then
          (machine.remove engine).unlaunched answers engine (command engine) else machine)) := by
  cases keeps : machine.keeps answers engine with
  | true => exact .inl ⟨rfl, start_keeps keeps⟩
  | false =>
    cases replaces : machine.replaces answers engine with
    | false =>
      right; right
      obtain ⟨error, unseen⟩ := start_unseen command keeps replaces
      exact ⟨by simp [Machine.starts, keeps, replaces], error, by simpa using unseen⟩
    | true =>
      rw [start_replaces replaces]
      rcases bringUp_cases answers (machine.remove engine) engine (command engine) with
        ⟨brings, up⟩ | ⟨brings, error, up⟩
      · right; left
        exact ⟨rfl, brings, up⟩
      · right; right
        exact ⟨by simp [Machine.starts, keeps, brings], error, by simpa using up⟩

end Starting

/-! ## Stopping a core -/

section StoppingCore

variable [DecidableEq Command] {answers : Answers} {machine : Machine Command} {engine : Engine}
  {child : Process Command}

/-- The machine after an attempt to stop a child that is no longer held. -/
def Machine.stopped (machine : Machine Command) (answers : Answers) (child : Process Command) :
    Machine Command :=
  if (answers.stopping child.engine).ends then (machine.remove child.engine).exit child
  else machine.remove child.engine

/-- Without a child there is nothing to stop. -/
theorem stop_nothing (none : machine.children engine = none) :
    outcome (stop engine) answers machine = (.ok (), machine) := by
  simp [stop, none]

/-- A child that could be stopped is released, and one that could not is held again. -/
theorem stop_held (answers : Answers)
    (held : machine.children engine = some child) (own : child.engine = engine) :
    ((outcome (stopChild child) answers (machine.remove engine)).1 = .ok () ∧
      outcome (stop engine) answers machine = (.ok (), machine.stopped answers child)) ∨
    ∃ error, (outcome (stopChild child) answers (machine.remove engine)).1 = .error error ∧
      outcome (stop engine) answers machine =
        (.error error, (machine.stopped answers child).insert child) := by
  subst own
  have after : (outcome (stopChild child) answers (machine.remove child.engine)).2 =
      machine.stopped answers child := stopChild_machine
  cases result : (outcome (stopChild child) answers (machine.remove child.engine)).1 with
  | ok => exact .inl ⟨rfl, by simp [stop, held, result, after]⟩
  | error error => exact .inr ⟨error, rfl, by simp [stop, held, result, after]⟩

/-- The stop of a running child succeeds when its stopping says so. -/
theorem stop_result (held : machine.children engine = some child) (own : child.engine = engine)
    (runs : child ∈ machine.running) :
    (outcome (stop engine) answers machine).1 = .ok () ↔ answers.stopping engine = .stopped := by
  have child_result : (outcome (stopChild child) answers (machine.remove engine)).1 = .ok () ↔
      answers.stopping child.engine = .stopped := stopChild_result answers runs
  rw [own] at child_result
  rw [← child_result]
  rcases stop_held answers held own with ⟨result, stopped⟩ | ⟨error, result, stopped⟩
  · simp only [result, stopped]
  · simp only [result, stopped]

/-- After a stop, what ran still runs, except for a child whose process was ended. -/
theorem mem_running_stop (held : machine.children engine = some child)
    (own : child.engine = engine) {p : Process Command} :
    p ∈ (outcome (stop engine) answers machine).2.running ↔
      p ∈ machine.running ∧ ((answers.stopping engine).ends = true → p ≠ child) := by
  have after : p ∈ (machine.stopped answers child).running ↔
      p ∈ machine.running ∧ ((answers.stopping engine).ends = true → p ≠ child) := by
    unfold Machine.stopped
    rw [own]
    cases ends : (answers.stopping engine).ends <;> simp
  rcases stop_held answers held own with ⟨-, stopped⟩ | ⟨error, -, stopped⟩
  · simpa only [stopped] using after
  · simpa only [stopped, Machine.running_insert] using after

/-- A stop leaves the other engine's child. -/
theorem children_stop_other (held : machine.children engine = some child)
    (own : child.engine = engine) {other : Engine} (different : other ≠ engine) :
    (outcome (stop engine) answers machine).2.children other = machine.children other := by
  subst own
  have freed : (machine.stopped answers child).children other = machine.children other := by
    unfold Machine.stopped
    split <;> exact Function.update_of_ne different _ _
  rcases stop_held answers held rfl with ⟨-, stopped⟩ | ⟨error, -, stopped⟩
  · simpa only [stopped] using freed
  · simp only [stopped]
    exact (Function.update_of_ne different _ _).trans freed

end StoppingCore

/-! ## Sound machines -/

section Soundness

/-- Children were launched for their engine with the controller's command, and no launch to come
makes a process that runs already. -/
structure Sound (command : Engine → Command) (machine : Machine Command) : Prop where
  numbered : ∀ p ∈ machine.running, p.number < machine.launched
  held : ∀ engine child, machine.children engine = some child →
    child.engine = engine ∧ child.command = command engine

variable {command : Engine → Command} {answers : Answers} {machine : Machine Command}

/-- A child that is no longer held leaves a sound machine. -/
theorem Sound.remove (sound : Sound command machine) (engine : Engine) :
    Sound command (machine.remove engine) where
  numbered := sound.numbered
  held other child held := by
    by_cases same : other = engine
    · subst same
      simp [Machine.remove] at held
    · exact sound.held other child (by simpa [Machine.remove, same] using held)

/-- A launched process has the number that the next one will not have. -/
theorem Sound.launch (sound : Sound command machine) (engine : Engine) (started : Command) :
    Sound command (machine.launch engine started) where
  numbered p runs := by
    rcases Machine.mem_launch.mp runs with before | rfl
    · exact Nat.lt_succ_of_lt (sound.numbered p before)
    · exact Nat.lt_succ_self _
  held := sound.held

/-- A child of the controller's command may be held. -/
theorem Sound.insert (sound : Sound command machine) {child : Process Command}
    (requested : child.command = command child.engine) :
    Sound command (machine.insert child) where
  numbered := sound.numbered
  held other held child' := by
    by_cases same : other = child.engine
    · subst same
      simp only [Machine.insert, Function.update_self, Option.some.injEq] at child'
      subst child'
      exact ⟨rfl, requested⟩
    · exact sound.held other held (by simpa [Machine.insert, same] using child')

/-- The process of the next launch does not run yet. -/
theorem Sound.fresh_not_running (sound : Sound command machine) (engine : Engine)
    (started : Command) : machine.fresh engine started ∉ machine.running := by
  intro runs
  exact Nat.lt_irrefl _ (sound.numbered _ runs)

variable [DecidableEq Command]

/-- A process that exits leaves a sound machine. -/
theorem Sound.exit (sound : Sound command machine) (process : Process Command) :
    Sound command (machine.exit process) where
  numbered p runs := sound.numbered p (Machine.mem_exit.mp runs).1
  held := sound.held

/-- A failed launch leaves a sound machine. -/
theorem Sound.unlaunched (sound : Sound command machine) (engine : Engine) (started : Command) :
    Sound command (machine.unlaunched answers engine started) := by
  unfold Machine.unlaunched
  split
  · split
    · exact sound.launch engine started
    · exact (sound.launch engine started).exit _
  · exact sound

/-- A start leaves a sound machine. -/
theorem Sound.start (sound : Sound command machine) (answers : Answers) (engine : Engine) :
    Sound command (outcome (start command engine) answers machine).2 := by
  rcases start_cases command answers machine engine with
    ⟨-, started⟩ | ⟨-, -, started⟩ | ⟨-, error, started⟩
  · simpa only [started] using sound
  · simp only [started]
    exact ((sound.remove engine).launch engine (command engine)).insert rfl
  · simp only [started]
    split
    · exact (sound.remove engine).unlaunched engine (command engine)
    · exact sound

/-- A stop leaves a sound machine. -/
theorem Sound.stop (sound : Sound command machine) (answers : Answers) (engine : Engine) :
    Sound command (outcome (stop engine) answers machine).2 := by
  cases held : machine.children engine with
  | none => simpa only [stop_nothing held] using sound
  | some child =>
    have own := sound.held engine child held
    have freed : Sound command (machine.stopped answers child) := by
      unfold Machine.stopped
      split
      · exact (sound.remove _).exit child
      · exact sound.remove _
    rcases stop_held answers held own.1 with ⟨-, stopped⟩ | ⟨error, -, stopped⟩
    · simpa only [stopped] using freed
    · simp only [stopped]
      exact freed.insert (own.2.trans (congrArg command own.1.symm))

end Soundness

/-! ## What runs after a start -/

section Running

variable {command : Engine → Command} {answers : Answers} {machine : Machine Command}
  {engine : Engine}

/-- A core that started runs and is held. -/
structure Started (machine after : Machine Command) (engine : Engine) (child : Process Command) :
    Prop where
  children : after.children = Function.update machine.children engine (some child)
  running : ∀ p, p ∈ after.running ↔ p ∈ machine.running ∨ p = child
  /-- It ran before exactly as the child that was held. -/
  before : ∀ p ∈ machine.running, p = child ↔ machine.children engine = some p

/-- A held child that runs was started already. -/
theorem Started.of_kept {child : Process Command} (held : machine.children engine = some child)
    (runs : child ∈ machine.running) : Started machine machine engine child where
  children := by rw [← held, Function.update_eq_self]
  running p := by
    constructor
    · exact Or.inl
    · rintro (before | rfl)
      · exact before
      · exact runs
  before p _ := by rw [held, Option.some.injEq, eq_comm]

variable [DecidableEq Command]

/-- A kept child is one that runs. -/
theorem Machine.exists_kept (keeps : machine.keeps answers engine = true) :
    ∃ child, machine.children engine = some child ∧ child ∈ machine.running := by
  cases held : machine.children engine with
  | none => simp [Machine.keeps, held] at keeps
  | some child =>
    have both : answers.heldSeen engine = true ∧ child ∈ machine.running := by
      simpa [Machine.keeps, held] using keeps
    exact ⟨child, rfl, both.2⟩

/-- A replaced child is one that does not run. -/
theorem Machine.gone_of_replaces (replaces : machine.replaces answers engine = true)
    {child : Process Command} (held : machine.children engine = some child) :
    child ∉ machine.running := by
  have both : answers.heldSeen engine = true ∧ child ∉ machine.running := by
    simpa [Machine.replaces, held] using replaces
  exact both.2

/-- A child brought up in the place of none, or of one that exited, is started. -/
theorem Started.of_launched (sound : Sound command machine)
    (replaces : machine.replaces answers engine = true) :
    Started machine (((machine.remove engine).launch engine (command engine)).insert
      (machine.fresh engine (command engine))) engine
      (machine.fresh engine (command engine)) where
  children := by simp [Machine.insert, Machine.launch, Machine.remove]
  running p := by simp [Machine.launch, Machine.fresh, Machine.remove]
  before p before := by
    constructor
    · rintro rfl
      exact absurd before (sound.fresh_not_running engine (command engine))
    · intro held
      exact absurd before (Machine.gone_of_replaces replaces held)

/-- A start that succeeds leaves the core running and held. -/
theorem start_ok (sound : Sound command machine) (starts : machine.starts answers engine = true) :
    ∃ child after, outcome (start command engine) answers machine = (.ok (), after) ∧
      Started machine after engine child := by
  rcases start_cases command answers machine engine with
    ⟨keeps, started⟩ | ⟨replaces, -, started⟩ | ⟨fails, -⟩
  · obtain ⟨child, held, runs⟩ := Machine.exists_kept keeps
    exact ⟨child, machine, started, .of_kept held runs⟩
  · exact ⟨_, _, started, .of_launched sound replaces⟩
  · rw [starts] at fails
    cases fails

/-- What ran before a failed start still runs, with the process it may leave behind. -/
structure NotStarted (machine after : Machine Command) (answers : Answers) (engine : Engine) :
    Prop where
  children : ∀ other ≠ engine, after.children other = machine.children other
  running : ∃ stray : Process Command, stray.engine = engine ∧ stray ∉ machine.running ∧
    ∀ p, p ∈ after.running ↔
      p ∈ machine.running ∨ (machine.strays answers engine = true ∧ p = stray)

/-- A launch that came to nothing leaves its process exactly where that strays. -/
theorem Machine.mem_unlaunched {started : Command} {p : Process Command}
    (fresh : machine.fresh engine started ∉ machine.running) :
    p ∈ (machine.unlaunched answers engine started).running ↔
      p ∈ machine.running ∨
        (answers.strays engine = true ∧ p = machine.fresh engine started) := by
  unfold Machine.unlaunched
  by_cases launches : answers.launches engine = true
  · by_cases strays : answers.strays engine = true
    · simp [launches, strays]
    · have other : p ∈ machine.running → p ≠ machine.fresh engine started := by
        rintro before rfl
        exact fresh before
      rw [if_pos launches, if_neg strays, mem_exit, mem_launch]
      constructor
      · rintro ⟨before | same, different⟩
        · exact .inl before
        · exact absurd same different
      · rintro (before | ⟨stray, -⟩)
        · exact ⟨.inl before, other before⟩
        · exact absurd stray strays
  · have none : answers.strays engine = false := by simp [Answers.strays, launches]
    simp [launches, none]

/-- A start that fails leaves what ran before, and a process where it left one behind. -/
theorem start_error (sound : Sound command machine)
    (fails : machine.starts answers engine = false) :
    ∃ error after, outcome (start command engine) answers machine = (.error error, after) ∧
      NotStarted machine after answers engine := by
  have fresh := sound.fresh_not_running engine (command engine)
  rcases start_cases command answers machine engine with
    ⟨keeps, -⟩ | ⟨replaces, brings, -⟩ | ⟨-, error, started⟩
  · simp [Machine.starts, keeps] at fails
  · simp [Machine.starts, replaces, brings] at fails
  · refine ⟨error, _, started, ?_, machine.fresh engine (command engine), rfl, fresh, ?_⟩
    · intro other different
      cases replaces : machine.replaces answers engine with
      | false => rfl
      | true =>
        simp only [if_true, Machine.children_unlaunched]
        simp [Machine.remove, different]
    · intro p
      cases replaces : machine.replaces answers engine with
      | false => simp [Machine.strays, replaces]
      | true =>
        have fresh' : (machine.remove engine).fresh engine (command engine) ∉
            (machine.remove engine).running := fresh
        rw [if_pos rfl, Machine.mem_unlaunched fresh']
        simp only [Machine.strays, replaces, Bool.true_and]
        rfl

end Running

end MultiCore.Daemon.Sidecars
