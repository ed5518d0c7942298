import MultiCore.Daemon.Supervisor
import MultiCore.Host.Order

/-!
# The elevated mode end to end

The daemon's supervisor over the elevated controller over the runtime host over
the core processes. The daemon keeps one session with one host process. An
exchange may get lost before, while or after the host executed the command; the
daemon then gives the session up, and the end of a session ends the host and
its cores. The simulation relates the daemon's session to the host, and the
host's flags to the processes.
-/

namespace MultiCore.Host

open Faulty Daemon

/-- Errors of the elevation broker. -/
inductive ElevationError where
  | elevationCancelled
  | timedOut
  | cancelled
  | peerPidMismatch
  | authenticationFailed
  | alreadyConnected
  | disconnected
  | protocol
  | launchFailed
  | io
  | coreStartFailed
  | coreReadinessTimedOut
  deriving DecidableEq, Repr

/-- The reason shown for a start that failed with this error. -/
def ElevationError.startFailureCause : ElevationError → StartFailureCause
  | elevationCancelled => .elevationCancelled
  | launchFailed | peerPidMismatch | authenticationFailed | alreadyConnected => .elevationFailed
  | coreStartFailed => .coreFailed
  | coreReadinessTimedOut => .readinessTimedOut
  | timedOut | cancelled | disconnected | protocol | io => .brokerFailed

/-- An authenticated session with one host process. -/
structure Transport where
  id : Nat
  deriving DecidableEq, Repr

/-- The daemon's calls into its environment. -/
inductive BrokerAsk where
  | connect
  | request (session : Transport) (command : ElevationCommand)
  | close (session : Transport)

/-- What the broker may answer to each question. -/
abbrev BrokerAnswer : BrokerAsk → Type
  | .connect => Except ElevationError Transport
  | .request _ _ => Except ElevationError ElevationResponse
  | .close _ => Unit

/-- Programs of the broker, over the session it holds. -/
abbrev BrokerProgram (α : Type) : Type :=
  StateT (Option Transport) (Program BrokerAsk BrokerAnswer) α

/-- One question to the broker. -/
def askBroker (q : BrokerAsk) : BrokerProgram (BrokerAnswer q) :=
  StateT.lift (Program.question q)

/-- One exchange; the session is given up with the first failure. -/
def requestOn (session : Transport) (command : ElevationCommand) :
    BrokerProgram (Except ElevationError ElevationResponse) := do
  let result ← askBroker (.request session command)
  match result with
  | .ok response => return .ok response
  | .error error => do
    set (none : Option Transport)
    askBroker (.close session)
    return .error error

/-- A command over the session, which is opened first where `launch` allows it. -/
def commandBlocking (command : ElevationCommand) (launch : Bool) :
    BrokerProgram (Except ElevationError ElevationResponse) := do
  match ← get with
  | some session => requestOn session command
  | none =>
    if launch then
      match ← askBroker .connect with
      | .error error => return .error error
      | .ok session => do
        set (some session)
        requestOn session command
    else return .error .disconnected

namespace ElevatedProcessController

/-- The command that starts an engine. -/
def startCommand (generation : Nat) : Engine → ElevationCommand
  | .xray => .startXray generation
  | .mihomo => .startMihomo generation

/-- What the daemon makes of the answer to a start. -/
def startResult (engine : Engine) :
    Except ElevationError ElevationResponse → Except ElevationError Unit
  | .error error => .error error
  | .ok (.started actual) => if actual = engine then .ok () else .error .protocol
  | .ok (.error .timedOut) => .error .coreReadinessTimedOut
  | .ok (.error _) => .error .coreStartFailed
  | .ok _ => .error .protocol

/-- What the daemon makes of the answer to a stop: without a session nothing is left to stop. -/
def stopResult (engine : Engine) :
    Except ElevationError ElevationResponse → Except ElevationError Unit
  | .error .disconnected => .ok ()
  | .error error => .error error
  | .ok (.stopped actual) => if actual = engine then .ok () else .error .protocol
  | .ok _ => .error .protocol

/-- The start of an engine through the elevated process. -/
def start (generation : Nat) (engine : Engine) : BrokerProgram (Except ElevationError Unit) := do
  let response ← commandBlocking (startCommand generation engine) true
  return startResult engine response

/-- The stop of an engine through the elevated process. -/
def stop (engine : Engine) : BrokerProgram (Except ElevationError Unit) := do
  let response ← commandBlocking (.stop engine) false
  return stopResult engine response

end ElevatedProcessController

/-- The controller of one generation; there is no generation zero. -/
def elevatedController (generation : Nat) :
    Except ElevationError (ProcessController BrokerProgram ElevationError) :=
  if generation = 0 then .error .protocol
  else .ok
    { start := ElevatedProcessController.start generation
      stop := ElevatedProcessController.stop
      startFailureCause := ElevationError.startFailureCause }

/-- The host process at the other end of a session, and the processes of the machine. -/
structure Machine where
  host : Option (Transport × RuntimeHost)
  world : World

/-- What the environment makes of a call, crashes apart. -/
inductive BrokerResponds (fits : ElevationResponse → Bool) :
    (q : BrokerAsk) → Machine → BrokerAnswer q → Machine → Prop
  | connected (w : World) (t : Transport) :
      BrokerResponds fits .connect ⟨none, w⟩ (.ok t) ⟨some (t, ⟨none⟩), w⟩
  | notConnected (m : Machine) (error : ElevationError) :
      BrokerResponds fits .connect m (.error error) m
  | answered {t : Transport} {h h' : RuntimeHost} {command : ElevationCommand}
      {response : ElevationResponse} {w u : World}
      (run : Executes environment (h.execute fits command) w (h', response) u) :
      BrokerResponds fits (.request t command) ⟨some (t, h), w⟩ (.ok response)
        ⟨some (t, h'), u⟩
  /-- The host got anywhere in the command; it will not be asked again. -/
  | lost {t : Transport} {h : RuntimeHost} {command : ElevationCommand} {w u : World}
      (run : Reaches environment (h.execute fits command) w u) (error : ElevationError) :
      BrokerResponds fits (.request t command) ⟨some (t, h), w⟩ (.error error) ⟨some (t, h), u⟩
  /-- The end of a session ends its host and all its cores. -/
  | closed (t : Transport) (h : RuntimeHost) (w : World) :
      BrokerResponds fits (.close t) ⟨some (t, h), w⟩ () ⟨none, { w with processes := [] }⟩

/-- The environment of the daemon: calls among crashes. -/
def brokerEnvironment (fits : ElevationResponse → Bool) :
    Environment BrokerAsk BrokerAnswer Machine := fun q m answer n =>
  ∃ w u, Crash m.world w ∧
    ∃ host, BrokerResponds fits q ⟨m.host, w⟩ answer ⟨host, u⟩ ∧ n.host = host ∧ Crash u n.world

/-- The daemon's session is the session of the host process, whose own idea of the cores is sound;
without a session nothing runs. -/
structure Machine.Sound (m : Machine) (session : Option Transport) : Prop where
  session : session = m.host.map Prod.fst
  calls : InOrder m.world.calls
  idle : m.host = none → m.world.processes = []
  host : ∀ t h, m.host = some (t, h) → h.Sound m.world

theorem Machine.Sound.crash {m n : Machine} {session : Option Transport} (h : m.Sound session)
    (hhost : n.host = m.host) (hc : Crash m.world n.world) : n.Sound session where
  session := by rw [hhost]; exact h.session
  calls := by rw [hc.calls]; exact h.calls
  idle := fun hnone => List.subset_nil.1 (h.idle (hhost ▸ hnone) ▸ hc.gone)
  host := fun t host hsome => (h.host t host (hhost ▸ hsome)).crash hc

/-- The host at the other end of an open session. -/
theorem Machine.Sound.hostOf {m : Machine} {t : Transport} (hs : m.Sound (some t)) :
    ∃ h, m.host = some (t, h) := by
  have hsession := hs.session
  cases hm : m.host with
  | none => simp [hm] at hsession
  | some pair =>
    obtain ⟨t', h⟩ := pair
    obtain rfl : t = t' := by simpa [hm] using hsession
    exact ⟨h, rfl⟩

/-- A host that answered over its session, crashes after its answer included. -/
theorem Machine.Sound.ofHost {m : Machine} {t : Transport} {h : RuntimeHost}
    (hhost : m.host = some (t, h)) (hs : h.Sound m.world) : m.Sound (some t) where
  session := by rw [hhost]; rfl
  calls := hs.orderly
  idle := fun hnone => by
    rw [hhost] at hnone
    exact nomatch hnone
  host := fun t' k hsome => by
    obtain ⟨-, rfl⟩ : t = t' ∧ h = k := by simpa [hhost] using hsome
    exact hs

/-- The broker program ends with `post`, whatever the environment does. -/
abbrev Ensures (fits : ElevationResponse → Bool) {α : Type} (program : BrokerProgram α)
    (post : α → Option Transport → Machine → Prop) (session : Option Transport) (m : Machine) :
    Prop :=
  wp (brokerEnvironment fits) (fun _ => True) (program.run session)
    (fun result n => post result.1 result.2 n) m

namespace Ensures

variable {fits : ElevationResponse → Bool} {α β : Type} {session : Option Transport} {m : Machine}

theorem mono {program : BrokerProgram α} {post post' : α → Option Transport → Machine → Prop}
    (h : Ensures fits program post session m)
    (hpost : ∀ a session' n, post a session' n → post' a session' n) :
    Ensures fits program post' session m :=
  wp_mono h fun _ _ => hpost _ _ _

theorem bind {program : BrokerProgram α} {rest : α → BrokerProgram β}
    {post : β → Option Transport → Machine → Prop}
    (h : Ensures fits program (fun a => Ensures fits (rest a) post) session m) :
    Ensures fits (program >>= rest) post session m := by
  rw [Ensures, StateT.run_bind, wp_bind]
  exact h

theorem put {post : PUnit → Option Transport → Machine → Prop} {session' : Option Transport}
    (h : post ⟨⟩ session' m) : Ensures fits (set session') post session m := h

theorem get {post : Option Transport → Option Transport → Machine → Prop}
    (h : post session session m) : Ensures fits MonadState.get post session m := h

theorem ask {q : BrokerAsk} {post : BrokerAnswer q → Option Transport → Machine → Prop}
    (h : ∀ answer n, brokerEnvironment fits q m answer n → post answer session n) :
    Ensures fits (askBroker q) post session m := by
  intro answer n hanswer
  exact ⟨trivial, h answer n hanswer⟩

end Ensures

/-- What a start of the elevated controller leaves. -/
structure StartOutcome (generation : Nat) (engine : Engine) (m : Machine)
    (result : Except ElevationError Unit) (session : Option Transport) (n : Machine) : Prop where
  sound : n.Sound session
  /-- The host marks the engine under this generation, and its core runs unless it crashed. -/
  started : result = .ok () → m.world.Later n.world ∧
    (∃ t h a, n.host = some (t, h) ∧ h.active = some a ∧ a.generation = generation) ∧
    n.world.Present m.world.crashed engine
  kept : result = .ok () →
    (∃ t h a, m.host = some (t, h) ∧ h.active = some a ∧ a.generation = generation) →
    ∀ base other, m.world.Present base other → n.world.Present base other
  failed : result ≠ .ok () → n.world.processes ⊆ m.world.processes

namespace ElevatedProcessController

variable {fits : ElevationResponse → Bool} {session : Option Transport} {m : Machine}

/-- A session that is given up takes everything with it. -/
private theorem close_spec {t : Transport} {n : Machine} (hcalls : InOrder m.world.calls)
    (h : brokerEnvironment fits (.close t) m () n) :
    n.Sound none ∧ n.world.processes = [] := by
  obtain ⟨before, world⟩ := m
  obtain ⟨w, u, hbefore, host, hresponds, hhost, hafter⟩ := h
  cases hresponds with
  | closed _ _ _ =>
    have hempty : n.world.processes = [] := List.subset_nil.1 hafter.gone
    refine ⟨⟨by rw [hhost]; rfl, ?_, fun _ => hempty, fun t h hsome => ?_⟩, hempty⟩
    · rw [hafter.calls]
      change InOrder w.calls
      rw [hbefore.calls]
      exact hcalls
    · rw [hhost] at hsome
      exact nomatch hsome

/-- What one exchange over an open session leaves. -/
private theorem requestOn_spec {t : Transport} {h : RuntimeHost} {command : ElevationCommand}
    (post : RuntimeHost × ElevationResponse → World → World → Prop)
    (hs : m.Sound (some t)) (hhost : m.host = some (t, h))
    (hspec : ∀ w, h.Sound w → Meets (h.execute fits command) (post · w) w) :
    Ensures fits (requestOn t command) (fun result session' n =>
      match result with
      | .ok response => session' = some t ∧ ∃ w h' u, Crash m.world w ∧ post (h', response) w u ∧
          Crash u n.world ∧ n.host = some (t, h')
      | .error _ => n.Sound session' ∧ n.world.processes = []) (some t) m := by
  unfold requestOn
  refine Ensures.bind (Ensures.ask fun answer n hanswer => ?_)
  obtain ⟨w, u, hbefore, host, hresponds, hnhost, hafter⟩ := hanswer
  rw [hhost] at hresponds
  have hsound : h.Sound w := (hs.host t h hhost).crash hbefore
  cases hresponds with
  | answered run =>
    have hpost := wp_executes (hspec w hsound) run
    exact ⟨rfl, w, _, u, hbefore, hpost, hafter, hnhost⟩
  | lost run error =>
    have horderly : u.Orderly := wp_reaches hsound.world (hspec w hsound) run
    have hcalls : InOrder n.world.calls := by
      rw [hafter.calls]
      exact horderly.calls
    refine Ensures.bind (Ensures.put (Ensures.bind (Ensures.ask fun _ k hclose => ?_)))
    exact close_spec hcalls hclose

/-- Only the expected answer counts as a start. -/
theorem startResult_eq_ok {engine : Engine} {response : Except ElevationError ElevationResponse}
    (h : startResult engine response = .ok ()) : response = .ok (.started engine) := by
  revert h
  fun_cases startResult engine response <;> simp_all

/-- Only the expected answer and a session that is gone count as a stop. -/
theorem stopResult_eq_ok {engine : Engine} {response : Except ElevationError ElevationResponse}
    (h : stopResult engine response = .ok ()) :
    response = .ok (.stopped engine) ∨ response = .error .disconnected := by
  revert h
  fun_cases stopResult engine response <;> simp_all

private theorem startOn_spec {t : Transport} (hs : m.Sound (some t)) (generation : Nat)
    (engine : Engine) :
    Ensures fits (requestOn t (startCommand generation engine))
      (fun response => StartOutcome generation engine m (startResult engine response))
      (some t) m := by
  obtain ⟨h, hhost⟩ := hs.hostOf
  have hspec : ∀ w, h.Sound w → Meets (h.execute fits (startCommand generation engine))
      (fun result u => StartResult h generation engine w result u) w := by
    intro w hw
    cases engine with
    | xray => exact RuntimeHost.start_spec hw generation .xray
    | mihomo => exact RuntimeHost.start_spec hw generation .mihomo
  refine (requestOn_spec (fun result w u => StartResult h generation engine w result u)
    hs hhost hspec).mono fun response session' n hn => ?_
  cases response with
  | error error =>
    obtain ⟨hsound, hempty⟩ := hn
    refine ⟨hsound, fun hr => ?_, fun hr => ?_, fun _ => ?_⟩
    · exact nomatch startResult_eq_ok hr
    · exact nomatch startResult_eq_ok hr
    · rw [hempty]
      exact List.nil_subset _
  | ok response =>
    obtain ⟨rfl, w, h', u, hbefore, hresult, hafter, hnhost⟩ := hn
    have hhost' : h'.Sound n.world := hresult.sound.crash hafter
    constructor
    · exact Machine.Sound.ofHost hnhost hhost'
    · intro hr
      have hstarted : response = .started engine := Except.ok.inj (startResult_eq_ok hr)
      obtain ⟨⟨a, ha, hgeneration, -⟩, hpresent⟩ := hresult.started hstarted
      refine ⟨(hbefore.later.trans hresult.later).trans hafter.later,
        ⟨t, h', a, hnhost, ha, hgeneration⟩, ?_⟩
      exact (hpresent.crash hafter).since hbefore.later
    · rintro hr ⟨t', k, a, hsome, ha, hgeneration⟩ base other hother
      have hstarted : response = .started engine := Except.ok.inj (startResult_eq_ok hr)
      obtain ⟨-, rfl⟩ : t = t' ∧ h = k := by simpa [hhost] using hsome
      have hkept := hresult.kept hstarted ⟨a, ha, hgeneration⟩ base other
      exact (hkept (hother.crash hbefore)).crash hafter
    · intro hr
      have hfailed : response ≠ .started engine := by
        rintro rfl
        exact hr (by simp [startResult])
      exact List.Subset.trans hafter.gone
        (List.Subset.trans (hresult.failed hfailed) hbefore.gone)

/-- A start over whatever session there is, or a new one. -/
theorem start_spec (hs : m.Sound session) (generation : Nat) (engine : Engine) :
    Ensures fits (start generation engine) (StartOutcome generation engine m) session m := by
  unfold start commandBlocking
  refine Ensures.bind (Ensures.bind (Ensures.get ?_))
  cases session with
  | some t => exact startOn_spec hs generation engine
  | none =>
    have hnone : m.host = none := by
      simpa using hs.session.symm
    refine Ensures.bind (Ensures.ask fun answer n hconnect => ?_)
    obtain ⟨w, u, hbefore, host, hresponds, hnhost, hafter⟩ := hconnect
    have hempty : w.processes = [] := List.subset_nil.1 (hs.idle hnone ▸ hbefore.gone)
    rw [hnone] at hresponds
    cases hresponds with
    | connected _ t =>
      have hmempty : n.world.processes = [] := List.subset_nil.1 (hempty ▸ hafter.gone)
      have hcalls : InOrder n.world.calls := by
        rw [hafter.calls, hbefore.calls]
        exact hs.calls
      have hfresh : RuntimeHost.Sound ⟨none⟩ n.world :=
        ⟨hcalls, fun _ => hmempty, fun a ha => nomatch ha⟩
      have hsound : n.Sound (some t) := Machine.Sound.ofHost hnhost hfresh
      have hlater : m.world.Later n.world := hbefore.later.trans hafter.later
      refine Ensures.bind (Ensures.put ((startOn_spec hsound generation engine).mono ?_))
      intro response session' k hk
      refine ⟨hk.sound, fun hr => ?_, fun _ hbusy => ?_, fun hr => ?_⟩
      · obtain ⟨hklater, hactive, hpresent⟩ := hk.started hr
        exact ⟨hlater.trans hklater, hactive, hpresent.since hlater⟩
      · obtain ⟨_, _, _, hsome, -⟩ := hbusy
        rw [hnone] at hsome
        exact nomatch hsome
      · have hfewer := hk.failed hr
        rw [hmempty] at hfewer
        exact List.Subset.trans hfewer (List.nil_subset _)
    | notConnected _ error =>
      have hsound : n.Sound none :=
        (hs.crash (n := ⟨m.host, w⟩) rfl hbefore).crash (by rw [hnhost, hnone]) hafter
      exact
        { sound := hsound
          started := fun hr => nomatch (show Except.error error = Except.ok () from hr)
          kept := fun hr => nomatch (show Except.error error = Except.ok () from hr)
          failed := fun _ => List.Subset.trans hafter.gone hbefore.gone }

/-- A stop of Xray that succeeded leaves nothing running: the host let everything go, or it is
gone with its session. -/
theorem stop_spec (hs : m.Sound session) (engine : Engine) :
    Ensures fits (stop engine) (fun result session' n => n.Sound session' ∧
      (engine = .xray → result = .ok () → n.world.processes = [])) session m := by
  unfold stop commandBlocking
  refine Ensures.bind (Ensures.bind (Ensures.get ?_))
  cases session with
  | none =>
    have hnone : m.host = none := by
      simpa using hs.session.symm
    exact ⟨hs, fun _ _ => hs.idle hnone⟩
  | some t =>
    obtain ⟨h, hhost⟩ := hs.hostOf
    have hspec : ∀ w, h.Sound w → Meets (h.execute fits (.stop engine))
        (fun result u => result.1.Sound u ∧
          (engine = .xray → result.2 = .stopped engine → result.1.active = none)) w := by
      intro w hw
      refine Meets.bind ((RuntimeHost.stop_spec hw engine).mono ?_)
      rintro ⟨host, stopped⟩ u ⟨hhost, -, -, hgone⟩
      refine ⟨hhost, fun hengine hr => hgone hengine ?_⟩
      cases stopped with
      | true => rfl
      | false => exact nomatch hr
    refine (requestOn_spec (fun result w u => result.1.Sound u ∧
      (engine = .xray → result.2 = .stopped engine → result.1.active = none))
      hs hhost hspec).mono fun response session' n hn => ?_
    cases response with
    | error error => exact ⟨hn.1, fun _ _ => hn.2⟩
    | ok response =>
      obtain ⟨rfl, w, h', u, hbefore, ⟨hsound, hgone⟩, hafter, hnhost⟩ := hn
      have hhost' : h'.Sound n.world := hsound.crash hafter
      refine ⟨Machine.Sound.ofHost hnhost hhost', fun hengine hr => ?_⟩
      rcases stopResult_eq_ok hr with hstopped | hlost
      · exact hhost'.idle (hgone hengine (Except.ok.inj hstopped))
      · exact nomatch hlost

end ElevatedProcessController

/-- The daemon's session with the machine behind it, between two requests. -/
structure Elevated where
  session : Option Transport
  machine : Machine

/-- What happens in the elevated mode. -/
inductive ElevatedEvent where
  | connect (generation : Nat) (result : Except SupervisorError Unit)
  | disconnect (generation : Nat) (result : Except SupervisorError Unit)
  | crash

/-- The daemon starts without a session. -/
def Elevated.initial : Elevated := ⟨none, ⟨none, ⟨[], 0, [], []⟩⟩⟩

/-- One request over the controller of its generation, or some crashes. -/
inductive ElevatedStep (fits : ElevationResponse → Bool) :
    Elevated → ElevatedEvent → Elevated → Prop
  | connect {s t : Elevated} {generation : Nat}
      {controller : ProcessController BrokerProgram ElevationError}
      {result : Except SupervisorError Unit} :
      elevatedController generation = .ok controller →
      Executes (brokerEnvironment fits) ((Supervisor.connect controller).run s.session) s.machine
        (result, t.session) t.machine →
      ElevatedStep fits s (.connect generation result) t
  | disconnect {s t : Elevated} {generation : Nat}
      {controller : ProcessController BrokerProgram ElevationError}
      {result : Except SupervisorError Unit} :
      elevatedController generation = .ok controller →
      Executes (brokerEnvironment fits) ((Supervisor.disconnect controller).run s.session)
        s.machine (result, t.session) t.machine →
      ElevatedStep fits s (.disconnect generation result) t
  | crash {s t : Elevated} : t.session = s.session → t.machine.host = s.machine.host →
      Crash s.machine.world t.machine.world → ElevatedStep fits s .crash t

/-- What the answer to a request says of the processes. -/
def ElevatedEvent.Truthful (before after : World) : ElevatedEvent → Prop
  | connect generation (.ok ()) =>
    (∀ p ∈ after.processes, p.controller.generation = generation) ∧
      ∀ engine, after.Present before.crashed engine
  | connect _ (.error (.startFailed _ false _)) => after.processes ⊆ before.processes
  | disconnect _ (.ok ()) => after.processes = []
  | _ => True

section Requests

variable {fits : ElevationResponse → Bool} {m : Machine} {session : Option Transport}

/-- Cores under a host that is sound are cores of the generation it has in use. -/
private theorem generation_of_active {t : Transport} {h : RuntimeHost} {a : Active}
    (hs : m.Sound session) (hhost : m.host = some (t, h)) (ha : h.active = some a) :
    ∀ p ∈ m.world.processes, p.controller.generation = a.generation := by
  intro p hp
  have hactive := ((hs.host t h hhost).active a ha).1
  rw [hactive.processes p hp, hactive.generation]

/-- A connection that is reported up consists of both engines of its generation, and one that was
rolled back left nothing new. -/
theorem connect_spec (hs : m.Sound session) (generation : Nat)
    (controller : ProcessController BrokerProgram ElevationError)
    (hcontroller : elevatedController generation = .ok controller) :
    Ensures fits (Supervisor.connect controller) (fun result session' n => n.Sound session' ∧
      (ElevatedEvent.connect generation result).Truthful m.world n.world) session m := by
  unfold elevatedController at hcontroller
  split at hcontroller
  · exact nomatch hcontroller
  obtain rfl := Except.ok.inj hcontroller
  unfold Supervisor.connect
  refine Ensures.bind ((ElevatedProcessController.start_spec hs generation .xray).mono ?_)
  intro first session₁ m₁ hxray
  cases first with
  | error error => exact ⟨hxray.sound, hxray.failed fun hr => nomatch hr⟩
  | ok done =>
    obtain ⟨hlater, hactive, hpresent⟩ := hxray.started rfl
    refine Ensures.bind
      ((ElevatedProcessController.start_spec hxray.sound generation .mihomo).mono ?_)
    intro second session₂ m₂ hmihomo
    cases second with
    | error error =>
      unfold Supervisor.rollBack
      refine Ensures.bind ((ElevatedProcessController.stop_spec hmihomo.sound .xray).mono ?_)
      rintro third session₃ m₃ ⟨hsound, hempty⟩
      refine ⟨hsound, ?_⟩
      cases third with
      | error _ => trivial
      | ok _ =>
        have hnothing := hempty rfl rfl
        change m₃.world.processes ⊆ m.world.processes
        rw [hnothing]
        exact List.nil_subset _
    | ok done =>
      obtain ⟨-, ⟨t, h, a, hhost, ha, hgeneration⟩, hpresent'⟩ := hmihomo.started rfl
      have hall := generation_of_active hmihomo.sound hhost ha
      rw [hgeneration] at hall
      refine ⟨hmihomo.sound, hall, fun engine => ?_⟩
      cases engine with
      | xray => exact hmihomo.kept rfl hactive _ _ hpresent
      | mihomo => exact hpresent'.since hlater

/-- A disconnection that is reported done left nothing running. -/
theorem disconnect_spec (hs : m.Sound session) (generation : Nat)
    (controller : ProcessController BrokerProgram ElevationError)
    (hcontroller : elevatedController generation = .ok controller) :
    Ensures fits (Supervisor.disconnect controller) (fun result session' n => n.Sound session' ∧
      (ElevatedEvent.disconnect generation result).Truthful m.world n.world) session m := by
  unfold elevatedController at hcontroller
  split at hcontroller
  · exact nomatch hcontroller
  obtain rfl := Except.ok.inj hcontroller
  unfold Supervisor.disconnect
  refine Ensures.bind ((ElevatedProcessController.stop_spec hs .mihomo).mono ?_)
  rintro mihomo session₁ m₁ ⟨hsound₁, -⟩
  refine Ensures.bind ((ElevatedProcessController.stop_spec hsound₁ .xray).mono ?_)
  rintro xray session₂ m₂ ⟨hsound₂, hempty⟩
  refine ⟨hsound₂, ?_⟩
  cases mihomo with
  | error _ => trivial
  | ok _ =>
    cases xray with
    | error _ => trivial
    | ok _ => exact hempty rfl rfl

/-- Every step keeps the session sound and answers truthfully. -/
theorem ElevatedStep.spec {s t : Elevated} {e : ElevatedEvent} (hs : s.machine.Sound s.session)
    (hstep : ElevatedStep fits s e t) :
    t.machine.Sound t.session ∧ e.Truthful s.machine.world t.machine.world := by
  cases hstep with
  | connect hcontroller hexecutes =>
    have hresult := wp_executes (connect_spec hs _ _ hcontroller) hexecutes
    exact hresult
  | disconnect hcontroller hexecutes =>
    have hresult := wp_executes (disconnect_spec hs _ _ hcontroller) hexecutes
    exact hresult
  | crash hsession hhost hcrash =>
    rw [hsession]
    exact ⟨hs.crash hhost hcrash, trivial⟩

end Requests

theorem elevated_sound_initial : Elevated.initial.machine.Sound Elevated.initial.session where
  session := rfl
  calls := trivial
  idle := fun _ => rfl
  host := fun _ _ hsome => nomatch hsome

/-- Every request of every run of the elevated mode is answered truthfully: nothing runs after a
disconnection, a connection runs both engines of its generation and nothing else but for crashes,
and a rolled back one left nothing new. -/
theorem elevated_truthful (fits : ElevationResponse → Bool)
    {es : List (Transition.Edge Elevated ElevatedEvent)} {s : Elevated}
    (hrun : Transition.Run (ElevatedStep fits) Elevated.initial es s) :
    ∀ e ∈ es, e.label.Truthful e.source.machine.world e.target.machine.world := by
  intro e he
  obtain ⟨hstep, ds, hbefore, -⟩ := hrun.edge_mem he
  have hsound : e.source.machine.Sound e.source.session := by
    apply hbefore.invariant (I := fun s => s.machine.Sound s.session) elevated_sound_initial
    exact fun hs hnext => (ElevatedStep.spec hs hnext).1
  exact (ElevatedStep.spec hsound hstep).2

section Connected

/-- The first session that is opened. -/
private def sessionOne : Transport := ⟨0⟩

/-- The controller of the first generation. -/
private def controllerOne : Controller := ⟨0, 1⟩

/-- Both engines run, Mihomo over Xray. -/
private def bothUp : World where
  processes := [⟨1, controllerOne, .mihomo⟩, ⟨0, controllerOne, .xray⟩]
  spawned := 2
  calls := [.started controllerOne .mihomo true, .started controllerOne .xray true,
    .created controllerOne]
  crashed := []

/-- Both engines of generation 1 run. -/
private def connected : Elevated :=
  ⟨some sessionOne, ⟨some (sessionOne, ⟨some ⟨1, controllerOne, true, true⟩⟩), bothUp⟩⟩

/-- A call with no crash around it. -/
private theorem brokerEnvironment_calm {fits : ElevationResponse → Bool} {q : BrokerAsk}
    {m n : Machine} {answer : BrokerAnswer q} (h : BrokerResponds fits q m answer n) :
    brokerEnvironment fits q m answer n :=
  ⟨m.world, n.world, Crash.refl _, n.host, h, rfl, Crash.refl _⟩

private theorem step_connected :
    ElevatedStep (fun _ => true) Elevated.initial (.connect 1 (.ok ())) connected := by
  let xrayUp : World :=
    ⟨[⟨0, controllerOne, .xray⟩], 1, [.started controllerOne .xray true, .created controllerOne], []⟩
  have hxray : Executes environment (RuntimeHost.execute (fun _ => true) ⟨none⟩ (.startXray 1))
      Elevated.initial.machine.world (⟨some ⟨1, controllerOne, true, false⟩⟩, .started .xray)
      xrayUp := by
    apply Executes.ask (environment_calm (Responds.created _ controllerOne))
    apply Executes.ask (environment_calm (Responds.started _ controllerOne .xray _))
    · exact Executes.done _ _
    · rintro ⟨p, hp, -⟩
      exact absurd hp (by simp [Elevated.initial])
  have hmihomo : Executes environment (RuntimeHost.execute (fun _ => true)
      ⟨some ⟨1, controllerOne, true, false⟩⟩ (.startMihomo 1)) xrayUp
      (⟨some ⟨1, controllerOne, true, true⟩⟩, .started .mihomo) bothUp := by
    apply Executes.ask (environment_calm (Responds.started _ controllerOne .mihomo _))
    · exact Executes.done _ _
    · rintro ⟨p, hp, -, hengine⟩
      obtain rfl : p = ⟨0, controllerOne, .xray⟩ := by simpa [xrayUp] using hp
      exact nomatch hengine
  apply ElevatedStep.connect rfl
  apply Executes.ask (brokerEnvironment_calm (BrokerResponds.connected _ sessionOne))
  apply Executes.ask (brokerEnvironment_calm (BrokerResponds.answered hxray))
  apply Executes.ask (brokerEnvironment_calm (BrokerResponds.answered hmihomo))
  exact Executes.done _ _

theorem elevated_truthful_connected :
    (ElevatedEvent.connect 1 (.ok ())).Truthful Elevated.initial.machine.world
      connected.machine.world :=
  elevated_truthful (fun _ => true) (Transition.Run.single step_connected)
    ⟨Elevated.initial, .connect 1 (.ok ()), connected⟩ (List.mem_singleton_self _)

end Connected

end MultiCore.Host
