import MultiCore.Backend.Connecting

/-!
# What the watcher and Quit keep

One triple for each operation: the warm-up, the watcher's tick with the loss of
a connection and its reconnect, Quit, and the pause and resumption around a
switch.
-/

namespace MultiCore.Backend

open Cooperative Daemon

variable {ι : Type} [DecidableEq ι] {aims : Aims} {i : ι} {m : Mine}
  {p q : CoreRuntime → ProfileStore → Prop}

section Warming

variable {snapshot : Snapshot} {revision : Nat} {attempts : UInt64} {options : ConnectOptions}

/-- A warm-up for the snapshot of a revision is under way. -/
structure Warming (aims : Aims) (i : ι) (m : Mine) (snapshot : Snapshot) (revision : Nat)
    (s : CoreBackend ι) : Prop where
  out : Out i m s
  positive : aims.warmth → revision ≠ 0
  content : aims.warmth → aims.content revision = snapshot
  prepares : aims.warmth → ∀ other ∈ s.warmRevision,
    snapshot.payload = (aims.content other).payload

/-- Its Prepare succeeded. -/
structure Prepared (aims : Aims) (i : ι) (m : Mine) (snapshot : Snapshot) (revision : Nat)
    (s : CoreBackend ι) : Prop where
  out : Out i m s
  positive : aims.warmth → revision ≠ 0
  content : aims.warmth → aims.content revision = snapshot
  own : s.preparer = some i → ∀ payload ∈ s.prepared, payload = snapshot.payload

/-- What a warm-up knows before its start is stable. -/
theorem stable_warming (hm : m.watching = true) :
    (contract aims i).Stable (Warming aims i m snapshot revision) := by
  intro s t ht hs
  refine ⟨stable_out s t ht hs.out, hs.positive, hs.content, fun ha other hother => ?_⟩
  exact hs.prepares ha other (ht.1.records (by rw [hs.out]; exact hm) other hother)

/-- What it knows after its start is stable. -/
theorem stable_prepared : (contract aims i).Stable (Prepared aims i m snapshot revision) := by
  intro s t ht hs
  refine ⟨stable_out s t ht hs.out, hs.positive, hs.content, fun hpreparer payload hp => ?_⟩
  obtain ⟨hbefore, hsame⟩ := ht.1.prepares hpreparer
  exact hs.own hbefore payload (hsame payload hp)

/-- The watcher may forget the warm revision. -/
theorem forget_rule {f : CoreBackend ι → CoreBackend ι} (hframe : ∀ s, (f s).frame = s.frame)
    (hruntime : ∀ s, (f s).runtime = s.runtime)
    (hwarm : ∀ s, ∀ revision ∈ (f s).warmRevision, revision ∈ s.warmRevision)
    (hauto : ∀ s, (f s).autoReconnect = s.autoReconnect) :
    Triple (contract aims i) (Out i m) (update f) fun _ => Out i m := by
  refine Triple.atomic stable_out (fun _ => stable_out) fun s hs hp _ => ?_
  have hf := hframe s
  simp only [CoreBackend.frame, Prod.mk.injEq] at hf
  refine ⟨trivial, own_of_respects hs (.inr (hruntime s)) (hframe s)
    (fun h _ => (hauto s).trans h) ?_, (mine_of_frame (hframe s) i).trans hp⟩
  refine ⟨fun _ hc => (hruntime s).symm ▸ hc, fun _ => .inl (by rw [hruntime s]), fun _ hw => ?_,
    .inr (hwarm s)⟩
  refine hw.installed_of hf.2.2.1 hf.2.2.2.2.1 ?_ ?_ fun revision hr => ⟨hwarm s revision hr, ?_⟩
  · rw [hruntime s]
    exact hw.installed
  · rw [hruntime s]
    exact hw.bare
  · rw [hruntime s]
    exact (hw.recorded revision (hwarm s revision hr)).2

/-- The record of a warm-up is made outside of the lock. -/
theorem recordWarmUp_spec (hm : m.watching = true) :
    Triple (contract aims i) (Prepared aims i m snapshot revision) (recordWarmUp revision)
      fun _ => Out i m := by
  refine Triple.atomic stable_prepared (fun _ => stable_out) fun s hs hp hg => ?_
  have hmine : s.mine i = m := hp.out
  refine ⟨trivial, own_of_respects hs (.inr rfl) rfl (fun h _ => h)
    ⟨fun _ hc => hc, fun _ => .inl rfl, fun ha hw => ?_, .inl (hmine ▸ hm)⟩, hp.out⟩
  by_cases hsame : s.runtime.revision = revision
  · refine ⟨hw.meant, hw.installed, hw.bare, fun other hother => ?_, fun other hother payload hpay => ?_⟩
    · simp only [if_pos hsame, Option.mem_def, Option.some.injEq] at hother
      exact ⟨hother ▸ hp.positive ha, hother ▸ hsame.symm⟩
    · simp only [if_pos hsame, Option.mem_def, Option.some.injEq] at hother
      rw [← hother, hp.content ha]
      exact hp.own (hg.recordsOwn ha hsame) payload hpay
  · exact hw.congr rfl rfl rfl (if_neg hsame) rfl

/-- So is the record of its failure. -/
theorem recordWarmUpFailure_spec :
    Triple (contract aims i) (Out i m) (recordWarmUpFailure attempts revision)
      fun _ => Out i m := by
  refine (look_aside stable_out).bind fun superseded => ?_
  split
  · exact Triple.done stable_out fun _ _ hs => hs
  · refine Triple.bind (forget_rule (fun _ => rfl) (fun _ => rfl) (fun s other hother => ?_)
      fun _ => rfl) fun _ => Triple.done stable_out fun _ _ hs => hs
    dsimp only at hother
    split at hother
    · cases hother
    · exact hother

/-- The start of idle cores, which are of the installed revision. -/
theorem startIdleCores_spec (hm : m.watching = true) (hpast : m.past = true)
    (hwarm : options.warmUp = true) :
    Triple (contract aims i) (Warming aims i m snapshot revision) (start ⟨snapshot, options⟩ .xray)
      fun result s => (∃ error, result = .error error) ∧ Out i m s ∨
        Prepared aims i m snapshot revision s := by
  refine start_rule (stable_warming hm) ?_ ?_ _ ?_ ?_ ?_
  · intro s hs
    rw [hs.out]
    exact hpast
  · exact fun s _ hs => hs.prepares
  · exact fun result s t ht hs =>
      hs.imp (fun h => ⟨h.1, stable_out s t ht h.2⟩) (stable_prepared s t ht)
  · intro s result hs
    refine .inr ⟨hs.out, hs.positive, hs.content, ?_⟩
    rintro - payload ⟨⟩
    rfl
  · intro s started hs hmay hnot
    refine .inl ⟨?_, hs.out⟩
    cases hresult : started.result with
    | ok _ => simp [Controller.mayAnswer, hresult, hwarm, hnot, Except.isOk, Except.toBool] at hmay
    | error error => exact ⟨error, rfl⟩

/-- The look at whether another start came before changes nothing. -/
theorem warmUpSuperseded_spec {pre : CoreBackend ι → Prop} (hpre : (contract aims i).Stable pre) :
    Triple (contract aims i) pre (warmUpSuperseded attempts revision) fun _ => pre := by
  refine (look_aside hpre).bind fun changed => ?_
  split
  · exact Triple.done hpre fun _ _ hs => hs
  · exact look_aside hpre

/-- A warm-up from its start to its record. -/
theorem startIdle_spec (hm : m.watching = true) (hpast : m.past = true) :
    Triple (contract aims i) (Warming aims i m snapshot revision) (startIdle snapshot revision)
      fun _ => Out i m := by
  have hstable : (contract aims i).Stable (Warming aims i m snapshot revision) :=
    stable_warming hm
  have hfailed : ∀ attempts, Triple (contract aims i) (Warming aims i m snapshot revision)
      (recordWarmUpFailure attempts revision) fun _ => Out i m := fun attempts =>
    recordWarmUpFailure_spec.weaken (fun _ _ hs => hs.out) fun _ _ _ hs => hs
  refine (look_aside hstable).bind fun attempts => (look_aside hstable).bind fun options => ?_
  refine (ask_rule hstable rfl).bind fun prepared => ?_
  cases prepared with
  | false => exact hfailed attempts
  | true =>
    refine (ask_rule hstable rfl).bind fun published => ?_
    cases published with
    | false => exact hfailed attempts
    | true =>
      refine (warmUpSuperseded_spec hstable).bind fun superseded => ?_
      cases superseded with
      | true => exact Triple.done hstable fun _ _ hs => hs.out
      | false =>
        refine (startIdleCores_spec hm hpast rfl).bind fun result => ?_
        cases result with
        | ok _ =>
          have hrecord : Triple (contract aims i) (Prepared aims i m snapshot revision)
              (recordWarmUp revision) fun _ => Out i m := recordWarmUp_spec hm
          refine Triple.bind (hrecord.weaken ?_ fun _ _ _ hs => hs) fun _ =>
            Triple.done stable_out fun _ _ hs => hs
          rintro s - (⟨⟨_, ⟨⟩⟩, -⟩ | hs)
          exact hs
        | error _ =>
          refine recordWarmUpFailure_spec.weaken ?_ fun _ _ _ hs => hs
          rintro s - (⟨-, hs⟩ | hs)
          · exact hs
          · exact hs.out

/-- What a warm-up finds of the runtime. -/
def Found (aims : Aims) (i : ι) (m : Mine) (found : CoreRuntime × Bool) (s : CoreBackend ι) : Prop :=
  Out i m s ∧ ∀ snapshot ∈ found.1.snapshot, Warming aims i m snapshot found.1.revision s

/-- The first look of a warm-up, at the whole state. -/
theorem warmUpLook_spec (hm : m.watching = true) {f : CoreBackend ι → Bool} :
    Triple (contract aims i) (Out i m) (look fun s => (s.runtime, f s)) (Found aims i m) := by
  refine look_rule _ stable_out ?_ fun s hs hp => ⟨hp, fun snapshot hsnapshot => ?_⟩
  · rintro found s t ht ⟨hout, hall⟩
    exact ⟨stable_out s t ht hout, fun snapshot hsnapshot =>
      stable_warming hm s t ht (hall snapshot hsnapshot)⟩
  · refine ⟨hp, fun ha hzero => ?_, fun ha => (hs.warmth ha).installed snapshot hsnapshot,
      fun ha other hother => ?_⟩
    · rw [(hs.warmth ha).bare.mpr hzero] at hsnapshot
      cases hsnapshot
    · have hwarm := hs.warmth ha
      rw [(hwarm.recorded other hother).2, hwarm.installed snapshot hsnapshot]

/-- The cores are started where they are idle and a snapshot is installed. -/
theorem warmUpFound_spec (hm : m.watching = true) (hm' : m.holding = false ∧ m.switching = false)
    (hpast : m.past = true) (found : CoreRuntime × Bool) :
    Triple (contract aims i) (Found aims i m found)
      (match found.1.snapshot with
      | some snapshot =>
        if found.2 then startIdle snapshot found.1.revision else (return true : Op ι Bool)
      | none => return true) fun _ => Released i := by
  have hnothing : Triple (contract aims i) (Found aims i m found) (Task.done true : Op ι Bool)
      fun _ => Released i :=
    (done_released hm' true).weaken (fun _ _ hp => hp.1) fun _ _ _ hs => hs
  cases hsnapshot : found.1.snapshot with
  | none => exact hnothing
  | some snapshot =>
    dsimp only
    split
    · exact (startIdle_spec hm hpast).weaken (fun s _ hp => hp.2 snapshot hsnapshot)
        fun _ s _ hs => released_of_out hm' hs
    · exact hnothing

/-- A whole warm-up. -/
theorem warmUp_spec (hm : m.watching = true) (hm' : m.holding = false ∧ m.switching = false) :
    Triple (contract aims i) (Out i m) (warmUp i) fun _ => Released i := by
  refine testShutDown_rule.bind fun down => ?_
  cases down with
  | true => exact done_released (by exact hm') _
  | false =>
    refine (ask_rule stable_out rfl).bind fun available => (ask_rule stable_out rfl).bind fun ready => ?_
    have hpast : ({ m with past := m.past || !false } : Mine).past = true := by simp
    exact (warmUpLook_spec (m := { m with past := m.past || !false }) hm).bind fun found =>
      warmUpFound_spec (m := { m with past := m.past || !false }) hm hm' hpast found

end Warming

section Losing

/-- A connection whose cores are lost. -/
structure Losing (aims : Aims) (r : CoreRuntime) (store : ProfileStore) : Prop where
  connected : r.state = .connected
  agreed : Agreed aims r store
  controller : aims.coherence → r.controller ≠ none

omit [DecidableEq ι] in
/-- The cores are stopped, and a reconnect may become pending. -/
theorem respects_lost {s t : CoreBackend ι} (hstate : s.runtime.state = .connected)
    (hframe : t.frame = s.frame)
    (hruntime : t.runtime = { s.runtime with
      state := s.runtime.state.moved .ready
      degraded := false })
    (hwarm : t.warmRevision = none) : Respects aims m s t := by
  simp only [CoreBackend.frame, Prod.mk.injEq] at hframe
  have hready : t.runtime.state = .ready := by
    rw [hruntime, hstate]
    rfl
  refine ⟨fun _ hc => ?_, fun hlive => ?_, fun _ hw => ?_, .inr ?_⟩
  · refine Accepting.coherent ⟨.inr ⟨hready, ?_⟩, by rw [hruntime]⟩
    rw [hruntime]
    exact hc.installed (by simp [hstate])
  · simp [CoreRuntime.live, hready] at hlive
  · refine hw.installed_of hframe.2.2.1 hframe.2.2.2.2.1 ?_ ?_ ?_
    · rw [hruntime]
      exact hw.installed
    · rw [hruntime]
      exact hw.bare
    · rw [hwarm]
      rintro _ ⟨⟩
  · rw [hwarm]
    rintro _ ⟨⟩

/-- A connection that was lost ends in agreement. -/
theorem afterLoss_spec (hm : m.holding = true) {result : Except SupervisorError Unit} :
    Triple (contract aims i) (At i m (Losing aims)) (afterLoss result)
      fun _ => At i m (Agreed aims) := by
  cases result with
  | ok _ =>
    refine (ask_rule (stable_at hm) rfl).bind fun cooled => ?_
    have hupdate : Triple (contract aims i) (At i m (Losing aims))
        (update fun s : CoreBackend ι =>
          { s with
            runtime := { s.runtime with
              state := s.runtime.state.moved .ready
              degraded := false }
            warmRevision := none
            autoReconnect :=
              if !s.shutDown && (!s.lastAutoReconnect || cooled) then some s.connectOptions
              else s.autoReconnect }) fun _ => At i m fun _ _ => True := by
      refine updateAt_rule hm (fun _ => rfl) (fun s hp _ hlive => ?_) (fun _ => trivial)
        fun s _ _ hp _ => ⟨?_, trivial⟩
      · simp [CoreRuntime.live, hp.connected] at hlive
      · exact respects_lost hp.connected rfl rfl rfl
    refine hupdate.bind fun _ => (reconcileAuthoritative_spec hm).weaken (fun _ _ hp => hp) ?_
    exact fun _ _ _ hp => ⟨hp.1, fun _ => hp.2.settled.agrees⟩
  | error _ =>
    refine markError_spec hm (fun _ => trivial) fun s hp hg =>
      ⟨by simp [hp.connected], fun ha _ => hp.controller ha, ?_⟩
    exact fun ha => (hp.agreed ha).settled (.inr (hg.keepsUp ha))

theorem coresLost_spec (hm : m.holding = false) :
    Triple (contract aims i) (Out i m) (coresLost i) fun _ => Out i m := by
  refine locked_rule hm ?_
  have hheld : ({ m with holding := true } : Mine).holding = true := rfl
  refine (ask_rule (stable_at hheld) rfl).bind fun lost => ?_
  refine (look_at hheld (q := fun runtime r store =>
    r = runtime ∧ Agreed aims r store ∧ (aims.coherence → Coherent r))
    fun s hs _ hp => ⟨rfl, hp, hs.coherence⟩).bind fun runtime => ?_
  have hnothing : Triple (contract aims i)
      (At i { m with holding := true } fun r store =>
        r = runtime ∧ Agreed aims r store ∧ (aims.coherence → Coherent r))
      (Task.done () : Op ι Unit) fun _ => At i { m with holding := true } (Agreed aims) :=
    Triple.done (stable_at hheld) fun _ _ hp => ⟨hp.1, hp.2.2.1⟩
  split
  · rename_i hlost
    cases hcontroller : runtime.controller with
    | none => exact hnothing
    | some controller =>
      refine (supervisorDisconnect_spec (stable_at hheld)).bind fun result =>
        (afterLoss_spec hheld).weaken ?_ fun _ _ _ hp => hp
      rintro s - ⟨hmine, rfl, hagreed, -⟩
      exact ⟨hmine, hlost.1, hagreed, fun _ => by simp [hcontroller]⟩
  · exact hnothing

end Losing

section Watching

variable {options : ConnectOptions}

theorem autoReconnect_spec (hm : m.holding = false ∧ m.switching = false) (hbound : m.bound = true) :
    Triple (contract aims i) (Out i m) (autoReconnect i options) fun _ => Released i := by
  refine (ask_rule stable_out rfl).bind fun available => ?_
  cases available with
  | false => exact done_released hm _
  | true =>
    refine testShutDown_rule.bind fun down => ?_
    cases down with
    | true => exact done_released (by exact hm) _
    | false =>
      have hentitled : ({ m with past := m.past || !false, switching := true } : Mine).entitled = true := by
        simp [Mine.entitled, hbound]
      refine takeGenerationChange_rule.bind fun _ => ?_
      refine Triple.bind (update_aside stable_out (fun _ => rfl) (fun _ => ⟨rfl, rfl⟩)
        (fun _ hs => hs) fun _ h _ => h) fun _ => ?_
      refine (connectNow_spec (m := { m with past := m.past || !false, switching := true })
        hm.1 hentitled).bind fun result => ?_
      exact (giveGenerationChange_rule rfl).bind fun _ => done_released (by exact ⟨hm.1, rfl⟩) _

/-- A tick in a state, with nothing taken yet. -/
theorem watchState_spec (hm : m.watching = true) (hm' : m.holding = false ∧ m.switching = false)
    (state : ConnectionState) :
    Triple (contract aims i) (Out i m) (watchState i state) fun _ => Released i := by
  cases state with
  | connecting | error => exact done_released hm' _
  | empty =>
    refine (ask_rule stable_out rfl).bind fun ready => ?_
    cases ready with
    | false => exact done_released hm' _
    | true => exact (ask_rule stable_out rfl).bind fun _ => done_released hm' _
  | connected =>
    refine (ask_rule stable_out rfl).bind fun lost => ?_
    cases lost with
    | false => exact done_released hm' _
    | true => exact (coresLost_spec hm'.1).bind fun _ => done_released hm' _
  | ready =>
    refine takeAutoReconnect_rule.bind fun taken => ?_
    cases taken with
    | some options => exact autoReconnect_spec (by exact hm') rfl
    | none =>
      refine (ask_rule stable_out rfl).bind fun available => ?_
      cases available with
      | false => exact done_released (by exact hm') _
      | true => exact warmUp_spec hm hm'

theorem forgetReconnect_spec {state : ConnectionState} :
    Triple (contract aims i) (Out i m) (forgetReconnect state) fun _ => Out i m := by
  unfold forgetReconnect
  split
  · exact cancelAutoReconnect_spec
  · exact Triple.done stable_out fun _ _ hs => hs

theorem watchService_spec (hm : m.watching = true) (hm' : m.holding = false ∧ m.switching = false) :
    Triple (contract aims i) (Out i m) (watchService i) fun _ => Released i := by
  refine (look_aside stable_out).bind fun down => ?_
  cases down with
  | true => exact done_released hm' _
  | false =>
    refine (look_aside stable_out).bind fun ⟨state, readiness⟩ => ?_
    cases readiness with
    | false => exact done_released hm' _
    | true => exact forgetReconnect_spec.bind fun _ => watchState_spec hm hm' state

end Watching

section Quitting

theorem releaseWhere_spec {pre : CoreBackend ι → Prop} (hpre : (contract aims i).Stable pre)
    {readiness : Bool} : Triple (contract aims i) pre (releaseWhere readiness) fun _ => pre := by
  cases readiness with
  | true => exact ask_rule hpre rfl
  | false => exact Triple.done hpre fun _ _ hs => hs

/-- Nobody takes a shutdown back. -/
theorem shutdownCores_spec (hm : m.holding = false ∧ m.switching = false) :
    Triple (contract aims i) (Out i m) (shutdownCores i) fun _ => Released i := by
  refine setShutDown_rule.bind fun _ => ?_
  have hdisconnect : Triple (contract aims i) (fun s => Out i m s ∧ s.shutDown = true)
      (disconnectNow i) fun _ s => Out i { m with holding := false } s ∧ s.shutDown = true :=
    (disconnectNow_spec.carry (fun _ _ h => h.shutDown) fun _ _ h => h.shutDown).weaken
      (fun _ _ hp => hp) fun _ _ _ hp => ⟨hp.1.1, hp.2⟩
  have hstable : (contract aims i).Stable fun s : CoreBackend ι =>
      Out i { m with holding := false } s ∧ s.shutDown = true :=
    fun s t ht hp => ⟨stable_out s t ht hp.1, ht.1.shutDown hp.2⟩
  refine hdisconnect.bind fun _ => (look_aside hstable).bind fun _ => ?_
  refine (releaseWhere_spec hstable).bind fun _ => ?_
  exact shutDownReturns_rule.weaken (fun _ _ hp => hp) fun _ _ _ hs =>
    released_of_out (by exact ⟨rfl, hm.2⟩) hs

end Quitting

section Switching

variable {options : ConnectOptions} {resume : Option ConnectOptions}

/-- What a request knows of its own state holds whatever that state is. -/
theorem triple_of_out {α : Type} {k : Mine → Prop} {task : Op ι α} {post : α → CoreBackend ι → Prop}
    (h : ∀ m, k m → Triple (contract aims i) (Out i m) task post) :
    Triple (contract aims i) (fun s => k (s.mine i)) task post :=
  fun s hs hk => h (s.mine i) hk s hs rfl

/-- A switch is under way; where a connection is to come back, the request is bound to that. -/
structure Mine.Turning (resume : Option ConnectOptions) (m : Mine) : Prop where
  free : m.holding = false
  switching : m.switching = true
  bound : resume.isSome = true → m.bound = true

theorem turning_of_out {resume' : Option ConnectOptions} (hm : m.Turning resume)
    (h : resume'.isSome = true → m.bound = true) {s : CoreBackend ι} (hs : Out i m s) :
    (s.mine i).Turning resume' := by
  rw [show s.mine i = m from hs]
  exact ⟨hm.free, hm.switching, h⟩

theorem pauseForGenerationChange_spec (hm : m.Turning none) {condition : CoreRuntime → Bool} :
    Triple (contract aims i) (Out i m) (pauseForGenerationChange i condition)
      fun resume s => (s.mine i).Turning resume := by
  refine (ask_rule stable_out rfl).bind fun available => decideToMove_rule.bind fun moves => ?_
  have hturning : ({ m with bound := m.bound || moves } : Mine).Turning none :=
    ⟨hm.free, hm.switching, fun h => by cases h⟩
  cases moves with
  | false => exact Triple.done stable_out fun _ _ => turning_of_out hturning (by rintro ⟨⟩)
  | true =>
    have hended : ({ m with bound := m.bound || true, holding := false } : Mine).Turning none :=
      ⟨rfl, hm.switching, fun h => by cases h⟩
    refine Triple.bind (disconnectNow_spec.weaken (fun _ _ hp => hp) fun _ _ _ hp => hp.1)
      fun result => ?_
    cases result with
    | error _ => exact Triple.done stable_out fun _ _ => turning_of_out hended (by rintro ⟨⟩)
    | ok _ =>
      refine Triple.bind (look_aside stable_out) fun options => ?_
      exact Triple.done stable_out fun _ _ => turning_of_out hended (by simp)

theorem resumeAfterGenerationChange_spec (hm : m.Turning (some options)) :
    Triple (contract aims i) (Out i m) (resumeAfterGenerationChange i options)
      fun _ s => (s.mine i).Turning none := by
  refine testShutDown_rule.bind fun down => ?_
  have hturning : ({ m with past := m.past || !down } : Mine).Turning none :=
    ⟨hm.free, hm.switching, fun h => by cases h⟩
  cases down with
  | true => exact Triple.done stable_out fun _ _ => turning_of_out hturning (by rintro ⟨⟩)
  | false =>
    have hentitled : ({ m with past := m.past || !false } : Mine).entitled = true := by
      simp [Mine.entitled, hm.bound rfl, hm.switching]
    refine (connectNow_spec (m := { m with past := m.past || !false }) hm.free hentitled).bind
      fun _ => ?_
    exact Triple.done stable_out fun _ _ => turning_of_out hturning (by rintro ⟨⟩)

theorem resumeWhere_spec :
    Triple (contract aims i) (fun s => (s.mine i).Turning resume) (resumeWhere i resume)
      fun _ s => (s.mine i).Turning none := by
  refine triple_of_out fun m hm => ?_
  cases resume with
  | some options => exact resumeAfterGenerationChange_spec hm
  | none => exact Triple.done stable_out fun _ _ => turning_of_out hm (by rintro ⟨⟩)

theorem endSwitch_spec :
    Triple (contract aims i) (fun s => (s.mine i).Turning none) (giveGenerationChange i)
      fun _ => Released i := by
  refine triple_of_out fun m hm => ?_
  refine (giveGenerationChange_rule hm.switching).weaken (fun _ _ hs => hs) fun _ _ _ hs => ?_
  exact released_of_out (by exact ⟨hm.free, rfl⟩) hs

theorem moveToPending_spec (hm : m.holding = false) :
    Triple (contract aims i) (Out i m) (moveToPending i) fun _ => Released i := by
  have hturning : ({ m with switching := true } : Mine).Turning none :=
    ⟨hm, rfl, fun h => by cases h⟩
  refine takeGenerationChange_rule.bind fun _ => ?_
  refine (pauseForGenerationChange_spec hturning).bind fun resume => ?_
  exact resumeWhere_spec.bind fun _ => endSwitch_spec

end Switching

end MultiCore.Backend
