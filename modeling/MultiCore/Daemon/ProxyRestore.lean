import MultiCore.Daemon.SystemProxy
import MultiCore.Library.Run

/-!
# What the guard gives back

The user's settings through a run of the guard with failing calls and crashes.
A write that stops halfway is undone only if the marker still recognises what it
left: after the first of the four values it often does not, and the settings in
between stay. As long as calls fail and crashes happen only where the settings
are the user's own or recognised, the user gets the settings back.
-/

namespace MultiCore.Daemon

open Faulty

/-- The registry values and the marker file. -/
structure ProxyState where
  settings : ProxySettings
  marker : MarkerFile
  deriving DecidableEq, Repr

/-- What a call does; the user changes nothing meanwhile. -/
inductive ProxyResponds : (q : ProxyAsk) → ProxyState → ProxyAnswer q → ProxyState → Prop
  | markerNotRead (s : ProxyState) : ProxyResponds .readMarker s none s
  | markerRead (s : ProxyState) : ProxyResponds .readMarker s (some s.marker) s
  | markerNotWritten (s : ProxyState) (m : ProxyMarker) : ProxyResponds (.writeMarker m) s false s
  | markerWritten (s : ProxyState) (m : ProxyMarker) :
      ProxyResponds (.writeMarker m) s true { s with marker := .saved m }
  | markerNotRemoved (s : ProxyState) : ProxyResponds .removeMarker s false s
  | markerRemoved (s : ProxyState) : ProxyResponds .removeMarker s true { s with marker := .absent }
  | settingsNotRead (s : ProxyState) : ProxyResponds .readSettings s none s
  | settingsRead (s : ProxyState) : ProxyResponds .readSettings s (some s.settings) s
  | keyOpened (s : ProxyState) (opened : Bool) : ProxyResponds .openKey s opened s
  | valueNotWritten (s : ProxyState) (target : ProxySettings) (value : ProxyValue) :
      ProxyResponds (.writeValue target value) s false s
  | valueWritten (s : ProxyState) (target : ProxySettings) (value : ProxyValue) :
      ProxyResponds (.writeValue target value) s true
        { s with settings := target.put s.settings value }
  | notified (s : ProxyState) : ProxyResponds .notifyChanged s () s
  | published (s : ProxyState) (port : Option Nat) : ProxyResponds (.publish port) s () s

/-- The calls of the guard's users. -/
inductive ProxyCall where
  | apply (proxy : SystemProxy)
  | restore (proxy : SystemProxy)
  | recover

/-- The code behind a call. -/
def ProxyCall.program : ProxyCall → ProxyProgram Bool
  | apply proxy => proxy.apply
  | restore proxy => proxy.restore
  | recover => Daemon.recover

/-- Whether a call turns the proxy on. -/
def ProxyCall.Applies : ProxyCall → Prop
  | apply _ => True
  | _ => False

/-- The failing answers. -/
def ProxyAsk.Failed : (q : ProxyAsk) → ProxyAnswer q → Prop
  | readMarker, answer => answer = none
  | writeMarker _, answer => answer = false
  | removeMarker, answer => answer = false
  | readSettings, answer => answer = none
  | openKey, answer => answer = false
  | writeValue _ _, answer => answer = false
  | _, _ => False

/-- Which calls may fail in which states, and where the guard may be cut short. -/
structure Faults where
  fails : ProxyCall → ProxyAsk → ProxyState → Prop
  crashes : ProxyState → Prop

/-- Anything may fail anywhere. -/
def Faults.any : Faults := ⟨fun _ _ _ => True, fun _ => True⟩

/-- The system, with the failures that the run has. -/
def proxyEnvironment (faults : Faults) (call : ProxyCall) :
    Environment ProxyAsk ProxyAnswer ProxyState :=
  fun q s answer t => ProxyResponds q s answer t ∧ (q.Failed answer → faults.fails call q s)

/-- What happens to the guard. -/
inductive ProxyEvent where
  | finished (call : ProxyCall) (ok : Bool)
  | crashed (call : ProxyCall)

/-- One call, run to its end or cut short by a crash. -/
inductive ProxyStep (faults : Faults) : ProxyState → ProxyEvent → ProxyState → Prop
  | finished {s t : ProxyState} {call : ProxyCall} {ok : Bool} :
      Executes (proxyEnvironment faults call) call.program s ok t →
      ProxyStep faults s (.finished call ok) t
  | crashed {s t : ProxyState} {call : ProxyCall} :
      Reaches (proxyEnvironment faults call) call.program s t → faults.crashes t →
      ProxyStep faults s (.crashed call) t

/-- A restore or recover that succeeded and an apply that failed leave the user's settings. -/
def ProxyEvent.GivesBack (original : ProxySettings) (after : ProxyState) : ProxyEvent → Prop
  | finished (.apply _) false => after.settings = original
  | finished (.restore _) true => after.settings = original
  | finished .recover true => after.settings = original
  | _ => True

/-- The settings are the user's own, or the marker recognises them. -/
def ProxyState.Settled (original : ProxySettings) (s : ProxyState) : Prop :=
  s.settings = original ∨ ∃ m, s.marker = .saved m ∧ restorePlan s.settings m ≠ none

/-- The calls that put settings back: looks, and writes of the user's own values. -/
def ProxyAsk.PutsBack (original : ProxySettings) : ProxyAsk → Prop
  | readMarker | readSettings | openKey => True
  | writeValue target _ => target = original
  | _ => False

/-- Faults the guard is safe against: they strike while the settings are settled, and where an
apply puts settings back, while they are the user's own. -/
def Faults.mild (original : ProxySettings) : Faults where
  fails call q s := s.Settled original ∧
    (call.Applies → q.PutsBack original → s.settings = original)
  crashes s := s.Settled original

/-- A marker always holds the user's settings, and without one they are in place. -/
def ProxyState.MarkerSound (original : ProxySettings) (s : ProxyState) : Prop :=
  match s.marker with
  | .absent => s.settings = original
  | .unreadable => False
  | .saved m => m.previous = original

/-- What holds between two calls. -/
structure ProxyState.Sound (original : ProxySettings) (s : ProxyState) : Prop where
  marker : s.MarkerSound original
  settled : s.Settled original

theorem MarkerSound.saved {original : ProxySettings} {s : ProxyState} {m : ProxyMarker}
    (hm : s.marker = .saved m) (hprevious : m.previous = original) : s.MarkerSound original := by
  rw [ProxyState.MarkerSound, hm]
  exact hprevious

/-- The user's settings in place are sound under any marker that holds them. -/
theorem ProxyState.Sound.of_original {original : ProxySettings} {s : ProxyState}
    (hmarker : s.MarkerSound original) (hsettings : s.settings = original) : s.Sound original :=
  ⟨hmarker, Or.inl hsettings⟩

theorem restorePlan_eq_some {current previous : ProxySettings} {m : ProxyMarker}
    (h : restorePlan current m = some previous) : previous = m.previous := by
  unfold restorePlan at h
  split at h
  · exact (Option.some.inj h).symm
  · exact nomatch h

theorem restorePlan_applied (port : Nat) (previous : ProxySettings) :
    restorePlan (.applied port) ⟨previous, appliedServer port⟩ ≠ none := by
  rw [restorePlan, if_pos ⟨rfl, rfl⟩]
  exact Option.some_ne_none _

/-- The program keeps the marker sound after every call and ends with `post`, under mild faults. -/
abbrev Restores {α : Type} (original : ProxySettings) (call : ProxyCall)
    (program : ProxyProgram α) (post : α → ProxyState → Prop) (s : ProxyState) : Prop :=
  wp (proxyEnvironment (Faults.mild original) call) (ProxyState.MarkerSound original) program post s

namespace Restores

variable {α β : Type} {original : ProxySettings} {call : ProxyCall} {s : ProxyState}

theorem mono {program : ProxyProgram α} {post post' : α → ProxyState → Prop}
    (h : Restores original call program post s) (hpost : ∀ a t, post a t → post' a t) :
    Restores original call program post' s :=
  wp_mono h hpost

theorem bind {program : ProxyProgram α} {rest : α → ProxyProgram β} {post : β → ProxyState → Prop}
    (h : Restores original call program (fun a => Restores original call (rest a) post) s) :
    Restores original call (program >>= rest) post s :=
  (wp_bind program rest post s).2 h

theorem readMarker {post : Option MarkerFile → ProxyState → Prop} (hs : s.Sound original)
    (hfailed : (call.Applies → s.settings = original) → post none s)
    (hread : post (some s.marker) s) :
    Restores original call (askProxy .readMarker) post s := by
  rintro answer t ⟨hanswer, hfault⟩
  cases hanswer with
  | markerNotRead => exact ⟨hs.marker, hfailed fun happly => (hfault rfl).2 happly trivial⟩
  | markerRead => exact ⟨hs.marker, hread⟩

theorem readSettings {post : Option ProxySettings → ProxyState → Prop} (hs : s.Sound original)
    (hfailed : (call.Applies → s.settings = original) → post none s)
    (hread : post (some s.settings) s) :
    Restores original call (askProxy .readSettings) post s := by
  rintro answer t ⟨hanswer, hfault⟩
  cases hanswer with
  | settingsNotRead => exact ⟨hs.marker, hfailed fun happly => (hfault rfl).2 happly trivial⟩
  | settingsRead => exact ⟨hs.marker, hread⟩

theorem removeMarker {post : Bool → ProxyState → Prop} (hs : s.Sound original)
    (hsettings : s.settings = original) (hfailed : post false s)
    (hremoved : post true { s with marker := .absent }) :
    Restores original call (askProxy .removeMarker) post s := by
  rintro answer t ⟨hanswer, -⟩
  cases hanswer with
  | markerNotRemoved => exact ⟨hs.marker, hfailed⟩
  | markerRemoved => exact ⟨hsettings, hremoved⟩

/-- What a write that stopped halfway leaves. -/
structure Stopped (original : ProxySettings) (call : ProxyCall) (target : ProxySettings)
    (s t : ProxyState) : Prop where
  marker : t.marker = s.marker
  settled : t.Settled original
  putBack : call.Applies → target = original → t.settings = original

theorem putValues {post : Bool → ProxyState → Prop} {m : ProxyMarker} {target : ProxySettings}
    (values : List ProxyValue) (hmarker : s.marker = .saved m) (hprevious : m.previous = original)
    (hfailed : ∀ t, Stopped original call target s t → post false t)
    (hwritten : post true { s with settings := values.foldl target.put s.settings }) :
    Restores original call (putValues target values) post s := by
  induction values generalizing s with
  | nil => exact hwritten
  | cons value values ih =>
    unfold Daemon.putValues
    apply Restores.bind
    rintro answer t ⟨hanswer, hfault⟩
    cases hanswer with
    | valueNotWritten =>
      obtain ⟨hsettled, hputBack⟩ := hfault rfl
      exact ⟨MarkerSound.saved hmarker hprevious, hfailed s ⟨rfl, hsettled, hputBack⟩⟩
    | valueWritten =>
      refine ⟨MarkerSound.saved hmarker hprevious, ih hmarker ?_ hwritten⟩
      exact fun u hu => hfailed u ⟨hu.marker, hu.settled, hu.putBack⟩

/-- The write of all settings: done, or stopped where a mild fault may strike. -/
theorem writeSettings {post : Bool → ProxyState → Prop} {m : ProxyMarker} {target : ProxySettings}
    (hmarker : s.marker = .saved m) (hprevious : m.previous = original)
    (hfailed : ∀ t, Stopped original call target s t → post false t)
    (hwritten : post true { s with settings := target }) :
    Restores original call (writeSettings target) post s := by
  have hsound : s.MarkerSound original := MarkerSound.saved hmarker hprevious
  unfold Daemon.writeSettings
  apply Restores.bind
  rintro opened t ⟨hanswer, hfault⟩
  cases hanswer with
  | keyOpened _ _ =>
    refine ⟨hsound, ?_⟩
    cases opened with
    | false =>
      obtain ⟨hsettled, hputBack⟩ := hfault rfl
      exact hfailed s ⟨rfl, hsettled, fun happly _ => hputBack happly trivial⟩
    | true => exact Restores.putValues _ hmarker hprevious hfailed hwritten

end Restores

section Calls

variable {original : ProxySettings} {call : ProxyCall} {s : ProxyState}

/-- A recovery keeps the guard sound; one that succeeded, or that an apply made, left the user's
settings. -/
structure Recovered (original : ProxySettings) (call : ProxyCall) (ok : Bool) (t : ProxyState) :
    Prop where
  sound : t.Sound original
  succeeded : ok = true → t.settings = original ∧ t.marker = .absent
  applying : call.Applies → t.settings = original

/-- The marker goes once the user's settings are in place. -/
private theorem removeMarker_spec (hmarker : s.MarkerSound original)
    (hsettings : s.settings = original) :
    Restores original call (askProxy .removeMarker) (Recovered original call) s := by
  have hs : s.Sound original := .of_original hmarker hsettings
  apply Restores.removeMarker hs hsettings
  · exact ⟨hs, (fun hr => nomatch hr), fun _ => hsettings⟩
  · exact ⟨.of_original hsettings hsettings, fun _ => ⟨hsettings, rfl⟩, fun _ => hsettings⟩

theorem recover_spec (hs : s.Sound original) :
    Restores original call recover (Recovered original call) s := by
  unfold recover
  apply Restores.bind
  apply Restores.readMarker hs
  · exact fun happly => ⟨hs, (fun hr => nomatch hr), happly⟩
  · have hmarker := hs.marker
    cases hm : s.marker with
    | absent =>
      have hsettings : s.settings = original := by
        rw [ProxyState.MarkerSound, hm] at hmarker
        exact hmarker
      exact ⟨hs, fun _ => ⟨hsettings, hm⟩, fun _ => hsettings⟩
    | unreadable =>
      rw [ProxyState.MarkerSound, hm] at hmarker
      exact hmarker.elim
    | saved m =>
      have hprevious : m.previous = original := by
        rw [ProxyState.MarkerSound, hm] at hmarker
        exact hmarker
      apply Restores.bind
      apply Restores.bind
      apply Restores.readSettings hs
      · exact fun happly => ⟨hs, (fun hr => nomatch hr), happly⟩
      · cases hplan : restorePlan s.settings m with
        | none =>
          have hsettings : s.settings = original := by
            rcases hs.settled with hsettings | ⟨m', hm', hrecognised⟩
            · exact hsettings
            · obtain rfl : m = m' := by
                rw [hm] at hm'
                exact MarkerFile.saved.inj hm'
              exact absurd hplan hrecognised
          simp only [hplan]
          exact removeMarker_spec hmarker hsettings
        | some previous =>
          obtain rfl : previous = original := (restorePlan_eq_some hplan).trans hprevious
          simp only [hplan]
          apply Restores.bind
          apply Restores.writeSettings hm hprevious
          · intro t ht
            have hsound : t.Sound previous :=
              ⟨MarkerSound.saved (ht.marker.trans hm) hprevious, ht.settled⟩
            exact ⟨hsound, (fun hr => nomatch hr), fun happly => ht.putBack happly rfl⟩
          · apply Restores.bind
            rintro ⟨⟩ t ⟨hanswer, -⟩
            cases hanswer with
            | notified =>
              have hsound : ProxyState.MarkerSound previous { s with settings := previous } :=
                MarkerSound.saved hm hprevious
              exact ⟨hsound, removeMarker_spec hsound rfl⟩

theorem publish_spec {proxy : SystemProxy} {applied : Bool} {post : Unit → ProxyState → Prop}
    (hs : s.MarkerSound original) (h : post () s) :
    Restores original call (proxy.publish applied) post s := by
  unfold SystemProxy.publish
  by_cases hpublishing : proxy.publishing = true
  · rw [if_pos hpublishing]
    rintro ⟨⟩ t ⟨hanswer, -⟩
    cases hanswer with
    | published => exact ⟨hs, h⟩
  · rw [if_neg hpublishing]
    exact h

theorem restore_spec (proxy : SystemProxy) (hs : s.Sound original) :
    Restores original call proxy.restore (Recovered original call) s := by
  unfold SystemProxy.restore
  apply Restores.bind
  apply publish_spec hs.marker
  exact recover_spec hs

/-- An apply that fails has put everything back. -/
theorem apply_spec (proxy : SystemProxy) (happlies : call.Applies) (hs : s.Sound original) :
    Restores original call proxy.apply
      (fun ok t => t.Sound original ∧ (ok = false → t.settings = original)) s := by
  unfold SystemProxy.apply
  apply Restores.bind
  apply (recover_spec hs).mono
  intro recovered t ht
  have hsettings : t.settings = original := ht.applying happlies
  cases recovered with
  | false => exact ⟨ht.sound, fun _ => hsettings⟩
  | true =>
    apply Restores.bind
    apply Restores.readSettings ht.sound
    · exact fun _ => ⟨ht.sound, fun _ => hsettings⟩
    · apply Restores.bind
      rintro written u ⟨hanswer, -⟩
      cases hanswer with
      | markerNotWritten => exact ⟨ht.sound.marker, ht.sound, fun _ => hsettings⟩
      | markerWritten _ m =>
        have hmarker : ProxyState.MarkerSound original
            { t with marker := .saved ⟨t.settings, appliedServer proxy.port⟩ } := hsettings
        refine ⟨hmarker, Restores.bind (Restores.writeSettings rfl hsettings ?_ ?_)⟩
        · intro v hv
          have hsound : v.Sound original :=
            ⟨MarkerSound.saved hv.marker hsettings, hv.settled⟩
          apply Restores.bind
          apply (recover_spec hsound).mono
          exact fun _ x hx => ⟨hx.sound, fun _ => hx.applying happlies⟩
        · have hrecognised := restorePlan_applied proxy.port t.settings
          apply Restores.bind
          rintro ⟨⟩ v ⟨hanswer, -⟩
          cases hanswer with
          | notified =>
            refine ⟨hmarker, Restores.bind (publish_spec hmarker ?_)⟩
            exact ⟨⟨hmarker, Or.inr ⟨_, rfl, hrecognised⟩⟩, fun hr => nomatch hr⟩

/-- Every call under mild faults. -/
theorem ProxyCall.program_spec (call : ProxyCall) (hs : s.Sound original) :
    Restores original call call.program
      (fun ok t => t.Sound original ∧ (ProxyEvent.finished call ok).GivesBack original t) s := by
  cases call with
  | apply proxy =>
    have happlies : (ProxyCall.apply proxy).Applies := trivial
    apply (apply_spec proxy happlies hs).mono
    rintro (_ | _) t hspec
    · exact ⟨hspec.1, hspec.2 rfl⟩
    · exact ⟨hspec.1, trivial⟩
  | restore proxy =>
    apply (restore_spec proxy hs).mono
    rintro (_ | _) t hspec
    · exact ⟨hspec.sound, trivial⟩
    · exact ⟨hspec.sound, (hspec.succeeded rfl).1⟩
  | recover =>
    apply (recover_spec hs).mono
    rintro (_ | _) t hspec
    · exact ⟨hspec.sound, trivial⟩
    · exact ⟨hspec.sound, (hspec.succeeded rfl).1⟩

/-- A call ends, or is cut short where it may be. -/
theorem ProxyStep.spec {t : ProxyState} {e : ProxyEvent} (hs : s.Sound original)
    (hstep : ProxyStep (Faults.mild original) s e t) :
    t.Sound original ∧ e.GivesBack original t := by
  cases hstep with
  | @finished _ call ok hexecutes =>
    have hspec := wp_executes (call.program_spec hs) hexecutes
    exact hspec
  | @crashed _ call hreaches hcrash =>
    have hmarker : t.MarkerSound original := wp_reaches hs.marker (call.program_spec hs) hreaches
    exact ⟨⟨hmarker, hcrash⟩, trivial⟩

end Calls

/-- In every run whose faults are mild the user gets the settings back. -/
theorem system_proxy_gives_back (original : ProxySettings)
    {es : List (Transition.Edge ProxyState ProxyEvent)} {t : ProxyState}
    (hrun : Transition.Run (ProxyStep (Faults.mild original)) ⟨original, .absent⟩ es t) :
    ∀ e ∈ es, e.label.GivesBack original e.target := by
  intro e he
  obtain ⟨hstep, ds, hbefore, -⟩ := hrun.edge_mem he
  have hinitial : ProxyState.Sound original ⟨original, .absent⟩ := .of_original rfl rfl
  have hsound : e.source.Sound original :=
    hbefore.invariant hinitial fun hs hnext => (ProxyStep.spec hs hnext).1
  exact (ProxyStep.spec hsound hstep).2

section Partial

/-- A user without a proxy. -/
private def direct : ProxySettings := ⟨some 0, none, none, none⟩

/-- The proxy on port 7890. -/
private def guard : SystemProxy := ⟨7890, false⟩

/-- The marker it writes over settings without a proxy. -/
private def guardMarker : ProxyMarker := ⟨direct, appliedServer 7890⟩

/-- The second of the four values cannot be written: the proxy stays switched on. -/
theorem system_proxy_left_on :
    ∃ t, ProxyStep Faults.any ⟨direct, .absent⟩ (.finished (.apply guard) false) t ∧
      ¬(ProxyEvent.finished (.apply guard) false).GivesBack direct t := by
  refine ⟨⟨⟨some 1, none, none, none⟩, .absent⟩, ProxyStep.finished ?_, ?_⟩
  · have hany : ∀ {q : ProxyAsk} {s t : ProxyState} {answer : ProxyAnswer q},
        ProxyResponds q s answer t → proxyEnvironment Faults.any (.apply guard) q s answer t :=
      fun h => ⟨h, fun _ => trivial⟩
    apply Executes.ask (hany (.markerRead _))
    apply Executes.ask (hany (.settingsRead _))
    apply Executes.ask (hany (.markerWritten _ guardMarker))
    apply Executes.ask (hany (.keyOpened _ true))
    apply Executes.ask (hany (.valueWritten _ (.applied 7890) .proxyEnable))
    apply Executes.ask (hany (.valueNotWritten _ (.applied 7890) .proxyServer))
    apply Executes.ask (hany (.markerRead _))
    apply Executes.ask (hany (.settingsRead _))
    apply Executes.ask (hany (.markerRemoved _))
    exact Executes.done _ _
  · intro hback
    have hsame : (⟨some 1, none, none, none⟩ : ProxySettings) = direct := hback
    exact absurd hsame (by decide)

/-- The third value cannot be written, and everything is put back. -/
private theorem step_putBack :
    ProxyStep (Faults.mild direct) ⟨direct, .absent⟩ (.finished (.apply guard) false)
      ⟨direct, .absent⟩ := by
  have hcalm : ∀ {q : ProxyAsk} {s t : ProxyState} {answer : ProxyAnswer q},
      ProxyResponds q s answer t → ¬q.Failed answer →
        proxyEnvironment (Faults.mild direct) (.apply guard) q s answer t :=
    fun h hcalm => ⟨h, fun hfailed => absurd hfailed hcalm⟩
  have hrecognised : ProxyState.Settled direct
      ⟨⟨some 1, some (appliedServer 7890), none, none⟩, .saved guardMarker⟩ :=
    Or.inr ⟨guardMarker, rfl, by decide⟩
  have hforeign : ProxySettings.applied 7890 ≠ direct := by decide
  apply ProxyStep.finished
  apply Executes.ask (hcalm (.markerRead _) nofun)
  apply Executes.ask (hcalm (.settingsRead _) nofun)
  apply Executes.ask (hcalm (.markerWritten _ guardMarker) nofun)
  apply Executes.ask (hcalm (.keyOpened _ true) nofun)
  apply Executes.ask (hcalm (.valueWritten _ (.applied 7890) .proxyEnable) nofun)
  apply Executes.ask (hcalm (.valueWritten _ (.applied 7890) .proxyServer) nofun)
  apply Executes.ask ⟨.valueNotWritten _ (.applied 7890) .proxyOverride,
    fun _ => ⟨hrecognised, fun _ hback => absurd hback hforeign⟩⟩
  apply Executes.ask (hcalm (.markerRead _) nofun)
  apply Executes.ask (hcalm (.settingsRead _) nofun)
  apply Executes.ask (hcalm (.keyOpened _ true) nofun)
  apply Executes.ask (hcalm (.valueWritten _ direct .proxyEnable) nofun)
  apply Executes.ask (hcalm (.valueWritten _ direct .proxyServer) nofun)
  apply Executes.ask (hcalm (.valueWritten _ direct .proxyOverride) nofun)
  apply Executes.ask (hcalm (.valueWritten _ direct .autoConfigUrl) nofun)
  apply Executes.ask (hcalm (.notified _) id)
  apply Executes.ask (hcalm (.markerRemoved _) nofun)
  exact Executes.done _ _

theorem system_proxy_gives_back_putBack :
    (ProxyEvent.finished (.apply guard) false).GivesBack direct ⟨direct, .absent⟩ :=
  system_proxy_gives_back direct (Transition.Run.single step_putBack)
    ⟨⟨direct, .absent⟩, .finished (.apply guard) false, ⟨direct, .absent⟩⟩
    (List.mem_singleton_self _)

end Partial

end MultiCore.Daemon
