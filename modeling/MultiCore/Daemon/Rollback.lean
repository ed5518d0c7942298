import MultiCore.Daemon.Hosting
import MultiCore.Library.Run

/-!
# What runs after a failed connection

A connection that could not be started is reported with whether its rollback
failed. The report is compared with the processes that run afterwards, from every
state that starts, stops and exits leave a controller in. It holds exactly when
all that ran before is what the rollback stops, and the failed start left no
process of its own.
-/

namespace MultiCore.Daemon.Sidecars

open Supervisor

variable {Command : Type}

/-- The report of a connection agrees with the processes that run: after a failure that was
rolled back none does, and a connection has both engines run the requested commands. -/
def Honest (command : Engine → Command) :
    Except SupervisorError Unit × Machine Command → Prop
  | (.ok (), machine) => ∀ engine, ∃ child ∈ machine.running,
      machine.children engine = some child ∧ child.engine = engine ∧
        child.command = command engine
  | (.error (.startFailed _ false _), machine) => machine.running = []
  | (.error _, _) => True

/-- All that runs is held for one of the engines. -/
def Machine.RunsOnly (machine : Machine Command) (engines : List Engine) : Prop :=
  ∀ p ∈ machine.running, ∃ engine ∈ engines, machine.children engine = some p

/-! ## The report of any controller -/

section Reports

variable {E : Type} {controller : ProcessController (Hosting Command) E}
  {command : Engine → Command} {answers : Answers} {machine m₁ m₂ m₃ : Machine Command}

/-- After a failed start of Xray the report is right when nothing runs. -/
theorem honest_xray_failed {error : E}
    (xray : outcome (controller.start .xray) answers machine = (.error error, m₁)) :
    Honest command (outcome (connect controller) answers machine) ↔ m₁.running = [] := by
  have connected : outcome (connect controller) answers machine =
      (.error (.startFailed .xray false (controller.startFailureCause error)), m₁) := by
    simp [connect, xray]
  rw [connected]
  rfl

/-- After a failed start of Mihomo the report is right when Xray's stop failed or nothing runs. -/
theorem honest_mihomo_failed {error : E} {result : Except E Unit}
    (xray : outcome (controller.start .xray) answers machine = (.ok (), m₁))
    (mihomo : outcome (controller.start .mihomo) answers m₁ = (.error error, m₂))
    (stopped : outcome (controller.stop .xray) answers m₂ = (result, m₃)) :
    Honest command (outcome (connect controller) answers machine) ↔
      (result = .ok () → m₃.running = []) := by
  cases result with
  | ok =>
    have connected : outcome (connect controller) answers machine =
        (.error (.startFailed .mihomo false (controller.startFailureCause error)), m₃) := by
      simp [connect, rollBack, xray, mihomo, stopped]
    rw [connected]
    simp [Honest]
  | error failure =>
    have connected : outcome (connect controller) answers machine =
        (.error (.startFailed .mihomo true (controller.startFailureCause error)), m₃) := by
      simp [connect, rollBack, xray, mihomo, stopped]
    rw [connected]
    simp [Honest]

end Reports

/-! ## Starts and results -/

section Starts

variable {E : Type} {command : Engine → Command} {machine m₁ m₂ : Machine Command}

/-- Two results leave the same machine and agree on whether they are failures. -/
def Agree {E F : Type} (x : Except E Unit × Machine Command)
    (y : Except F Unit × Machine Command) : Prop :=
  x.2 = y.2 ∧ (x.1 = .ok () ↔ y.1 = .ok ())

/-- A result that agrees with a failure is one. -/
theorem Agree.error {E F : Type} {x : Except E Unit × Machine Command} {error : F}
    (agree : Agree x ((.error error : Except F Unit), machine)) :
    ∃ failure, x = (.error failure, machine) := by
  obtain ⟨result, after⟩ := x
  obtain ⟨rfl, same⟩ := agree
  cases result with
  | ok => cases same.mp rfl
  | error failure => exact ⟨failure, rfl⟩

/-- A result that agrees with a success is one. -/
theorem Agree.ok {E F : Type} {x : Except E Unit × Machine Command}
    (agree : Agree x ((.ok () : Except F Unit), machine)) : x = (.ok (), machine) := by
  obtain ⟨result, after⟩ := x
  obtain ⟨rfl, same⟩ := agree
  exact congrArg (·, after) (same.mpr rfl)

/-- Errors of the inner controller stay errors. -/
theorem agree_lift {x : Except E Unit × Machine Command} :
    Agree (ProxyModeError.lift x.1, x.2) x := by
  obtain ⟨result, after⟩ := x
  cases result with
  | ok => exact ⟨rfl, by simp [ProxyModeError.lift]⟩
  | error error => exact ⟨rfl, by simp [ProxyModeError.lift]⟩

/-- A started core belongs to its engine and runs the requested command. -/
theorem Started.requested {engine : Engine} {child : Process Command}
    (started : Started machine m₁ engine child) (sound : Sound command m₁) :
    child.engine = engine ∧ child.command = command engine := by
  apply sound.held engine child
  rw [started.children, Function.update_self]

/-- Two started cores run as requested. -/
theorem honest_started {xray mihomo : Process Command} (sound₁ : Sound command m₁)
    (sound₂ : Sound command m₂) (started_xray : Started machine m₁ .xray xray)
    (started_mihomo : Started m₁ m₂ .mihomo mihomo) :
    Honest command ((.ok (), m₂) : Except SupervisorError Unit × Machine Command) := by
  intro engine
  cases engine with
  | xray =>
    refine ⟨xray, ?_, ?_, started_xray.requested sound₁⟩
    · exact (started_mihomo.running _).mpr (.inl ((started_xray.running _).mpr (.inr rfl)))
    · rw [started_mihomo.children, Function.update_of_ne (by decide), started_xray.children,
        Function.update_self]
  | mihomo =>
    refine ⟨mihomo, ?_, ?_, started_mihomo.requested sound₂⟩
    · exact (started_mihomo.running _).mpr (.inr rfl)
    · rw [started_mihomo.children, Function.update_self]

end Starts

/-! ## When the report is right -/

variable [DecidableEq Command]

/-- When the supervisor's report of a failed start can be believed. -/
structure CleanRollback (machine : Machine Command) (answers : Answers) : Prop where
  /-- Nothing is rolled back for Xray, so nothing may run. -/
  xray : machine.starts answers .xray = false →
    machine.running = [] ∧ machine.strays answers .xray = false
  /-- Only Xray is rolled back for Mihomo. -/
  mihomo : machine.starts answers .xray = true → machine.starts answers .mihomo = false →
    answers.stopping .xray = .stopped →
      machine.RunsOnly [.xray] ∧ machine.strays answers .mihomo = false

/-- When the report of a connection through the system proxy can be believed. -/
structure CleanProxyRollback (machine : Machine Command) (answers : Answers) : Prop
    extends CleanRollback machine answers where
  /-- Whether Mihomo was stopped for the proxy is not looked at. -/
  proxy : machine.starts answers .xray = true → machine.starts answers .mihomo = true →
    answers.applies = false → answers.stopping .xray = .stopped →
      machine.RunsOnly [.xray, .mihomo] ∧ (answers.stopping .mihomo).ends = true

/-! ## Histories -/

/-- What happens to a controller's machine. -/
inductive Event (Command : Type) where
  | start (engine : Engine) (answers : Answers)
  | stop (engine : Engine) (answers : Answers)
  | exit (process : Process Command)

/-- The machine after an event. -/
def happen (command : Engine → Command) (machine : Machine Command) :
    Event Command → Machine Command
  | .start engine answers => (outcome (start command engine) answers machine).2
  | .stop engine answers => (outcome (stop engine) answers machine).2
  | .exit process => machine.exit process

section Histories

variable {command : Engine → Command} {machine : Machine Command}

/-- Each event leaves a sound machine. -/
theorem Sound.happen (sound : Sound command machine) (event : Event Command) :
    Sound command (happen command machine event) := by
  cases event with
  | start engine answers => exact sound.start answers engine
  | stop engine answers => exact sound.stop answers engine
  | exit process => exact sound.exit process

/-- Every history leaves a sound machine. -/
theorem sound_history (command : Engine → Command) (history : List (Event Command)) :
    Sound command (history.foldl (Sidecars.happen command) {}) := by
  have run := Transition.run_trace (Sidecars.happen command) {} history
  apply run.invariant (I := Sound command)
  · exact ⟨by simp, by simp⟩
  · rintro machine event _ sound rfl
    exact sound.happen event

end Histories

/-! ## What the rollback leaves -/

section Rollback

variable {command : Engine → Command} {answers : Answers} {machine m₁ m₂ m₃ : Machine Command}
  {child : Process Command}

/-- A failed start of Xray leaves nothing running when nothing ran and it leaves nothing. -/
theorem NotStarted.running_eq_nil {engine : Engine}
    (failed : NotStarted machine m₁ answers engine) :
    m₁.running = [] ↔ machine.running = [] ∧ machine.strays answers engine = false := by
  obtain ⟨stray, -, -, running⟩ := failed.running
  constructor
  · intro nothing
    constructor
    · apply List.eq_nil_iff_forall_not_mem.mpr
      intro p before
      have after := (running p).mpr (.inl before)
      simp [nothing] at after
    · by_contra strays
      have after := (running stray).mpr (.inr ⟨by simpa using strays, rfl⟩)
      simp [nothing] at after
  · rintro ⟨nothing, strays⟩
    apply List.eq_nil_iff_forall_not_mem.mpr
    intro p after
    rcases (running p).mp after with before | ⟨stray, -⟩
    · simp [nothing] at before
    · simp [strays] at stray

/-- The other engine is as before a start. -/
theorem Started.same_other (answers : Answers) {engine other : Engine} (sound : Sound command machine)
    (started : Started machine m₁ engine child) (own : child.engine = engine)
    (different : other ≠ engine) :
    m₁.starts answers other = machine.starts answers other ∧
      m₁.strays answers other = machine.strays answers other := by
  have children : m₁.children other = machine.children other := by
    rw [started.children, Function.update_of_ne different]
  have running : ∀ held, machine.children other = some held →
      (held ∈ m₁.running ↔ held ∈ machine.running) := by
    intro held at_hand
    have unlike : held ≠ child := by
      rintro rfl
      exact different ((sound.held other held at_hand).1.symm.trans own)
    rw [started.running]
    exact or_iff_left unlike
  cases held : machine.children other with
  | none =>
    have after := children.trans held
    simp [Machine.starts, Machine.strays, Machine.keeps, Machine.replaces, held, after]
  | some at_hand =>
    have after := children.trans held
    simp [Machine.starts, Machine.strays, Machine.keeps, Machine.replaces, held, after,
      running at_hand held]

/-- After Xray was stopped for a failed Mihomo, nothing runs when only Xray ran before and Mihomo
left nothing. -/
theorem rolled_back_iff (xray : Started machine m₁ .xray child) (own : child.engine = .xray)
    (mihomo : NotStarted m₁ m₂ answers .mihomo)
    (rest : ∀ p, p ∈ m₃.running ↔ p ∈ m₂.running ∧ p ≠ child) :
    m₃.running = [] ↔
      machine.RunsOnly [.xray] ∧ m₁.strays answers .mihomo = false := by
  obtain ⟨stray, of_mihomo, -, running⟩ := mihomo.running
  constructor
  · intro nothing
    constructor
    · intro p before
      refine ⟨.xray, by simp, (xray.before p before).mp ?_⟩
      by_contra other
      have after := (rest p).mpr ⟨(running p).mpr (.inl ((xray.running p).mpr (.inl before))),
        other⟩
      simp [nothing] at after
    · by_contra strays
      have unlike : stray ≠ child := by
        rintro rfl
        rw [own] at of_mihomo
        cases of_mihomo
      have after := (rest stray).mpr ⟨(running stray).mpr (.inr ⟨by simpa using strays, rfl⟩),
        unlike⟩
      simp [nothing] at after
  · rintro ⟨only, strays⟩
    apply List.eq_nil_iff_forall_not_mem.mpr
    intro p after
    obtain ⟨runs, other⟩ := (rest p).mp after
    rcases (running p).mp runs with started | ⟨stray, -⟩
    · rcases (xray.running p).mp started with before | same
      · obtain ⟨engine, at_xray, held⟩ := only p before
        rw [List.mem_singleton.mp at_xray] at held
        exact other ((xray.before p before).mpr held)
      · exact other same
    · simp [strays] at stray

/-- After both were stopped for the proxy, nothing runs when only their children ran before and
Mihomo's process was ended. -/
theorem both_stopped_iff {mihomo_child : Process Command} {ends : Bool}
    (xray : Started machine m₁ .xray child) (own : child.engine = .xray)
    (mihomo : Started m₁ m₂ .mihomo mihomo_child) (own' : mihomo_child.engine = .mihomo)
    (rest : ∀ p, p ∈ m₃.running ↔
      (p ∈ m₂.running ∧ (ends = true → p ≠ mihomo_child)) ∧ p ≠ child) :
    m₃.running = [] ↔ machine.RunsOnly [.xray, .mihomo] ∧ ends = true := by
  have held_mihomo : m₁.children .mihomo = machine.children .mihomo := by
    rw [xray.children, Function.update_of_ne (by decide)]
  have unlike : mihomo_child ≠ child := by
    rintro rfl
    rw [own] at own'
    cases own'
  constructor
  · intro nothing
    have ended : ends = true := by
      by_contra survives
      have after := (rest mihomo_child).mpr
        ⟨⟨(mihomo.running _).mpr (.inr rfl), fun ends => absurd ends survives⟩, unlike⟩
      simp [nothing] at after
    refine ⟨?_, ended⟩
    intro p before
    have before₁ := (xray.running p).mpr (.inl before)
    by_cases of_xray : p = child
    · exact ⟨.xray, by simp, (xray.before p before).mp of_xray⟩
    · refine ⟨.mihomo, by simp, ?_⟩
      rw [← held_mihomo]
      apply (mihomo.before p before₁).mp
      by_contra other
      have after := (rest p).mpr ⟨⟨(mihomo.running p).mpr (.inl before₁), fun _ => other⟩,
        of_xray⟩
      simp [nothing] at after
  · rintro ⟨only, ended⟩
    apply List.eq_nil_iff_forall_not_mem.mpr
    intro p after
    obtain ⟨⟨runs, not_mihomo⟩, not_xray⟩ := (rest p).mp after
    rcases (mihomo.running p).mp runs with started | same
    · rcases (xray.running p).mp started with before | same
      · obtain ⟨engine, -, held⟩ := only p before
        cases engine with
        | xray => exact not_xray ((xray.before p before).mpr held)
        | mihomo =>
          rw [← held_mihomo] at held
          exact not_mihomo ended ((mihomo.before p started).mpr held)
      · exact not_xray same
    · exact not_mihomo ended same

end Rollback

/-! ## Both controllers -/

section Controllers

variable {E : Type} {command : Engine → Command} {answers : Answers}
  {machine : Machine Command}

/-- A controller that does with Xray what the sidecar controller does, and fails on Mihomo where
that does. -/
structure Follows (controller : ProcessController (Hosting Command) E)
    (command : Engine → Command) : Prop where
  start_xray : ∀ answers machine, Agree (outcome (controller.start .xray) answers machine)
    (outcome (start command .xray) answers machine)
  stop_xray : ∀ answers machine, Agree (outcome (controller.stop .xray) answers machine)
    (outcome (stop .xray) answers machine)
  start_mihomo : ∀ {answers machine error after},
    outcome (start command .mihomo) answers machine = (.error error, after) →
      ∃ failure, outcome (controller.start .mihomo) answers machine = (.error failure, after)

variable {controller : ProcessController (Hosting Command) E}

/-- Where Xray's start fails, the report is right when nothing ran and nothing was left. -/
theorem Follows.honest_xray (follows : Follows controller command)
    (sound : Sound command machine) (fails : machine.starts answers .xray = false) :
    Honest command (outcome (connect controller) answers machine) ↔
      machine.running = [] ∧ machine.strays answers .xray = false := by
  obtain ⟨error, m₁, xray, failed⟩ := start_error sound fails
  have agree := follows.start_xray answers machine
  rw [xray] at agree
  obtain ⟨failure, same⟩ := agree.error
  rw [honest_xray_failed same, failed.running_eq_nil]

/-- Where Mihomo's start fails, the report is right when Xray's stop failed, or only Xray ran
before and Mihomo left nothing. -/
theorem Follows.honest_mihomo (follows : Follows controller command)
    (sound : Sound command machine) (starts : machine.starts answers .xray = true)
    (fails : machine.starts answers .mihomo = false) :
    Honest command (outcome (connect controller) answers machine) ↔
      (answers.stopping .xray = .stopped →
        machine.RunsOnly [.xray] ∧ machine.strays answers .mihomo = false) := by
  obtain ⟨child, m₁, xray, started⟩ := start_ok sound starts
  have agree := follows.start_xray answers machine
  rw [xray] at agree
  have sound₁ : Sound command m₁ := by
    simpa only [xray] using sound.start answers .xray
  have own := (started.requested sound₁).1
  obtain ⟨same_starts, same_strays⟩ :=
    started.same_other answers sound own (show Engine.mihomo ≠ .xray by decide)
  obtain ⟨error, m₂, mihomo, failed⟩ := start_error sound₁ (same_starts.trans fails)
  obtain ⟨failure, mihomo'⟩ := follows.start_mihomo mihomo
  have held : m₂.children .xray = some child := by
    rw [failed.children .xray (by decide), started.children, Function.update_self]
  have runs : child ∈ m₂.running := by
    obtain ⟨stray, -, -, running⟩ := failed.running
    exact (running child).mpr (.inl ((started.running child).mpr (.inr rfl)))
  obtain ⟨machines, results⟩ := follows.stop_xray answers m₂
  rw [honest_mihomo_failed agree.ok mihomo' (Prod.eta _).symm, results,
    stop_result held own runs]
  apply imp_congr_right
  intro stopped
  rw [machines, ← same_strays]
  apply rolled_back_iff started own failed
  intro p
  rw [mem_running_stop held own, stopped]
  simp [Stopping.ends]

/-- The sidecar controller itself follows. -/
theorem follows_sidecars (command : Engine → Command) :
    Follows (sidecarProcessController command) command where
  start_xray _ _ := ⟨rfl, Iff.rfl⟩
  stop_xray _ _ := ⟨rfl, Iff.rfl⟩
  start_mihomo := fun failed => ⟨_, failed⟩

/-- The controller behind the system proxy follows: the proxy is of no account for Xray, nor for a
Mihomo that did not start. -/
theorem follows_proxied (command : Engine → Command) :
    Follows (systemProxyController (sidecarProcessController command) (hostProxy Command))
      command where
  start_xray answers machine := by
    have lifted : outcome (startBehindProxy (sidecarProcessController command)
        (hostProxy Command) .xray) answers machine =
        (ProxyModeError.lift (outcome (start command .xray) answers machine).1,
          (outcome (start command .xray) answers machine).2) := by
      cases result : (outcome (start command .xray) answers machine).1 <;>
        simp [startBehindProxy, sidecarProcessController, result, ProxyModeError.lift]
    exact lifted ▸ agree_lift
  stop_xray answers machine := by
    have lifted : outcome (stopBehindProxy (sidecarProcessController command)
        (hostProxy Command) .xray) answers machine =
        (ProxyModeError.lift (outcome (stop .xray) answers machine).1,
          (outcome (stop .xray) answers machine).2) := by
      simp [stopBehindProxy, sidecarProcessController]
    exact lifted ▸ agree_lift
  start_mihomo := by
    intro answers machine error after failed
    exact ⟨.core error, by
      simp [systemProxyController, startBehindProxy, sidecarProcessController, failed]⟩

/-- Both cores started, one after the other. -/
structure BothStarted (command : Engine → Command) (answers : Answers)
    (machine m₁ m₂ : Machine Command) (xray mihomo : Process Command) : Prop where
  start_xray : outcome (start command .xray) answers machine = (.ok (), m₁)
  start_mihomo : outcome (start command .mihomo) answers m₁ = (.ok (), m₂)
  xray : Started machine m₁ .xray xray
  mihomo : Started m₁ m₂ .mihomo mihomo
  sound_between : Sound command m₁
  sound : Sound command m₂

/-- Where neither start fails, both cores start. -/
theorem exists_bothStarted (sound : Sound command machine)
    (starts : machine.starts answers .xray = true)
    (starts' : machine.starts answers .mihomo = true) :
    ∃ m₁ m₂ xray mihomo, BothStarted command answers machine m₁ m₂ xray mihomo := by
  obtain ⟨xray, m₁, start_xray, started⟩ := start_ok sound starts
  have sound₁ : Sound command m₁ := by
    simpa only [start_xray] using sound.start answers .xray
  have same := started.same_other answers sound (started.requested sound₁).1
    (show Engine.mihomo ≠ .xray by decide)
  obtain ⟨mihomo, m₂, start_mihomo, started'⟩ := start_ok sound₁ (same.1.trans starts')
  have sound₂ : Sound command m₂ := by
    simpa only [start_mihomo] using sound₁.start answers .mihomo
  exact ⟨m₁, m₂, xray, mihomo, start_xray, start_mihomo, started, started', sound₁, sound₂⟩

/-- Where the proxy is refused, the report is right when Xray's stop failed, or only the held
children ran before and Mihomo's process was ended. -/
theorem honest_refused (sound : Sound command machine)
    (starts : machine.starts answers .xray = true)
    (starts' : machine.starts answers .mihomo = true) (refused : answers.applies = false) :
    Honest command (outcome (connect
      (systemProxyController (sidecarProcessController command) (hostProxy Command)))
      answers machine) ↔
      (answers.stopping .xray = .stopped →
        machine.RunsOnly [.xray, .mihomo] ∧ (answers.stopping .mihomo).ends = true) := by
  obtain ⟨m₁, m₂, xray, mihomo, both⟩ := exists_bothStarted sound starts starts'
  have follows := follows_proxied command
  have agree := follows.start_xray answers machine
  rw [both.start_xray] at agree
  have own := (both.xray.requested both.sound_between).1
  have own' := (both.mihomo.requested both.sound).1
  have held_mihomo : m₂.children .mihomo = some mihomo := by
    rw [both.mihomo.children, Function.update_self]
  -- Mihomo was started and is stopped again, whatever comes of that
  have failed : outcome (startBehindProxy (sidecarProcessController command)
      (hostProxy Command) .mihomo) answers m₁ =
      (.error .systemProxy, (outcome (stop .mihomo) answers m₂).2) := by
    simp [startBehindProxy, sidecarProcessController, both.start_mihomo, hostProxy, refused]
  have held : (outcome (stop .mihomo) answers m₂).2.children .xray = some xray := by
    rw [children_stop_other held_mihomo own' (by decide), both.mihomo.children,
      Function.update_of_ne (by decide), both.xray.children, Function.update_self]
  have runs : xray ∈ (outcome (stop .mihomo) answers m₂).2.running := by
    rw [mem_running_stop held_mihomo own']
    constructor
    · exact (both.mihomo.running xray).mpr (.inl ((both.xray.running xray).mpr (.inr rfl)))
    · rintro - rfl
      rw [own] at own'
      cases own'
  obtain ⟨machines, results⟩ := follows.stop_xray answers (outcome (stop .mihomo) answers m₂).2
  rw [honest_mihomo_failed agree.ok failed (Prod.eta _).symm, results, stop_result held own runs]
  apply imp_congr_right
  intro stopped
  rw [machines]
  apply both_stopped_iff both.xray own both.mihomo own'
  intro p
  rw [mem_running_stop held own, mem_running_stop held_mihomo own', stopped]
  simp [Stopping.ends]

/-- Where both cores start and no proxy is refused, the report is right. -/
theorem BothStarted.honest {m₁ m₂ : Machine Command} {xray mihomo : Process Command}
    (both : BothStarted command answers machine m₁ m₂ xray mihomo)
    (start_xray : outcome (controller.start .xray) answers machine = (.ok (), m₁))
    (start_mihomo : outcome (controller.start .mihomo) answers m₁ = (.ok (), m₂)) :
    Honest command (outcome (connect controller) answers machine) := by
  have connected : outcome (connect controller) answers machine = (.ok (), m₂) := by
    simp [connect, start_xray, start_mihomo]
  rw [connected]
  exact honest_started both.sound_between both.sound both.xray both.mihomo

/-- The report about the sidecars alone is right exactly after a clean rollback. -/
theorem honest_sidecars_iff (sound : Sound command machine) :
    Honest command (outcome (connect (sidecarProcessController command)) answers machine) ↔
      CleanRollback machine answers := by
  have follows := follows_sidecars command
  cases starts : machine.starts answers .xray with
  | false =>
    rw [follows.honest_xray sound starts]
    constructor
    · intro nothing
      exact ⟨fun _ => nothing, fun started => absurd started (by simp [starts])⟩
    · intro clean
      exact clean.xray starts
  | true =>
    have begun : machine.starts answers .xray ≠ false := by simp [starts]
    cases starts' : machine.starts answers .mihomo with
    | false =>
      rw [follows.honest_mihomo sound starts starts']
      constructor
      · intro rest
        exact ⟨fun fails => absurd fails begun, fun _ _ => rest⟩
      · intro clean
        exact clean.mihomo starts starts'
    | true =>
      obtain ⟨m₁, m₂, xray, mihomo, both⟩ := exists_bothStarted sound starts starts'
      constructor
      · intro _
        exact ⟨fun fails => absurd fails begun, fun _ fails => absurd fails (by simp [starts'])⟩
      · intro _
        exact both.honest both.start_xray both.start_mihomo

/-- A start that fails in a core, or a proxy that is applied, is reported as without the proxy. -/
theorem honest_proxied_of_core (sound : Sound command machine)
    (core : machine.starts answers .xray = true → machine.starts answers .mihomo = true →
      answers.applies = true) :
    Honest command (outcome (connect
      (systemProxyController (sidecarProcessController command) (hostProxy Command)))
      answers machine) ↔ CleanRollback machine answers := by
  have follows := follows_proxied command
  rw [← honest_sidecars_iff sound]
  cases starts : machine.starts answers .xray with
  | false =>
    rw [follows.honest_xray sound starts, (follows_sidecars command).honest_xray sound starts]
  | true =>
    cases starts' : machine.starts answers .mihomo with
    | false =>
      rw [follows.honest_mihomo sound starts starts',
        (follows_sidecars command).honest_mihomo sound starts starts']
    | true =>
      obtain ⟨m₁, m₂, xray, mihomo, both⟩ := exists_bothStarted sound starts starts'
      have agree := follows.start_xray answers machine
      rw [both.start_xray] at agree
      have applied : outcome (startBehindProxy (sidecarProcessController command)
          (hostProxy Command) .mihomo) answers m₁ = (.ok (), m₂) := by
        simp [startBehindProxy, sidecarProcessController, both.start_mihomo, hostProxy,
          core starts starts']
      exact iff_of_true (both.honest agree.ok applied)
        (both.honest both.start_xray both.start_mihomo)

/-- The report of a connection through the system proxy is right exactly after a clean rollback
of the proxy mode. -/
theorem honest_proxied_iff (sound : Sound command machine) :
    Honest command (outcome (connect
      (systemProxyController (sidecarProcessController command) (hostProxy Command)))
      answers machine) ↔ CleanProxyRollback machine answers := by
  by_cases refused : machine.starts answers .xray = true ∧
      machine.starts answers .mihomo = true ∧ answers.applies = false
  · obtain ⟨starts, starts', refused⟩ := refused
    rw [honest_refused sound starts starts' refused]
    constructor
    · intro rest
      exact ⟨⟨fun fails => absurd starts (by simp [fails]),
        fun _ fails => absurd starts' (by simp [fails])⟩, fun _ _ _ => rest⟩
    · intro clean
      exact clean.proxy starts starts' refused
  · rw [honest_proxied_of_core sound]
    · constructor
      · intro clean
        exact ⟨clean, fun starts starts' no => absurd ⟨starts, starts', no⟩ refused⟩
      · intro clean
        exact clean.toCleanRollback
    · intro starts starts'
      by_contra no
      exact refused ⟨starts, starts', by simpa using no⟩

end Controllers

/-- The report of a connection is right exactly after a clean rollback, for the sidecars alone and
behind the system proxy. -/
theorem connect_honest_iff (command : Engine → Command) (history : List (Event Command))
    (answers : Answers) :
    (Honest command (outcome (connect (sidecarProcessController command)) answers
        (history.foldl (happen command) {})) ↔
      CleanRollback (history.foldl (happen command) {}) answers) ∧
    (Honest command (outcome (connect
        (systemProxyController (sidecarProcessController command) (hostProxy Command))) answers
        (history.foldl (happen command) {})) ↔
      CleanProxyRollback (history.foldl (happen command) {}) answers) := by
  have sound := sound_history command history
  exact ⟨honest_sidecars_iff sound, honest_proxied_iff sound⟩

/-- A core that starts at once. -/
def working : Answers where
  heldSeen _ := true
  launches _ := true
  exitsAtOnce _ := false
  launchedSeen _ := true
  polls _ := [⟨false, true, true⟩]
  stopping _ := .stopped
  dropKills _ := true
  applies := true
  restores := true

/-- Both cores run, Xray crashes and cannot be launched again: the failure is reported as rolled
back while Mihomo runs. -/
theorem connect_dishonest :
    ¬ Honest (fun engine : Engine => engine) (outcome
      (connect (sidecarProcessController fun engine => engine))
      { working with launches := (· ≠ .xray) }
      ([.start .xray working, .start .mihomo working, .exit ⟨.xray, 0, .xray⟩].foldl
        (happen fun engine => engine) {})) := by
  intro honest
  have nothing : ([⟨.mihomo, 1, .mihomo⟩] : List (Process Engine)) = [] := honest
  cases nothing

end MultiCore.Daemon.Sidecars
