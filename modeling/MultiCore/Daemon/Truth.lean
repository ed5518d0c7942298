import MultiCore.Daemon.TunnelTruth

/-!
# Disconnect and the real tunnel

What the blocking threads keep, the futures that await them keep too, whether
they are dropped or not. From that follow, request by request and then for any
run, what a stop of Mihomo reports and who switches the tunnel on after it.
-/

namespace MultiCore.Daemon

open Cooperative

section Futures

variable {ι : Type} [DecidableEq ι] {i : ι} {s t : TunSession ι} {P Q : TunSession ι → Prop}
  {e : Option Engine} {α β : Type}

/-- `i` was dropped, and its blocking thread has ended. -/
def Gone (i : ι) (s : TunSession ι) : Prop :=
  Off i (fun s => s.around.starting i = none ∧ s.around.dropped i = true) s

omit [DecidableEq ι] in
/-- A caller that was dropped does not come back. -/
theorem firm_gone (i : ι) :
    Firm i fun s : TunSession ι => s.around.starting i = none ∧ s.around.dropped i = true where
  others h hst _ := ⟨hst.starting.trans h.1, hst.dropped h.2⟩
  frame ha h := by simpa only [ha] using h

/-- What a future ends with: a result and `post`, or nothing once it was dropped. -/
abbrev Ends (i : ι) (post : α → TunSession ι → Prop) : Except Unit α → TunSession ι → Prop :=
  Safe.Outcome post fun _ => Gone i

/-- A future as its contract and `post` want it. -/
abbrev SafeFuture (i : ι) (post : α → TunSession ι → Prop) (future : Async ι α)
    (s : TunSession ι) : Prop :=
  Safe (truth i) (Ends i post) future.run s

omit [DecidableEq ι] in
/-- The rule of composition, where the first part may be dropped at an await. -/
theorem SafeFuture.bind {p : α → TunSession ι → Prop} {post' : β → TunSession ι → Prop}
    {future : Async ι α} {rest : α → Async ι β} (h : SafeFuture i p future s)
    (hs : Truthful s) (hrest : ∀ r t, Truthful t → p r t → SafeFuture i post' (rest r) t) :
    SafeFuture i post' (future >>= rest) s :=
  Safe.except_bind h hs (fun _ _ _ h hst => h.others (firm_gone i) hst) hrest

omit [DecidableEq ι] in
/-- An answer needs no step. -/
theorem SafeFuture.pure (hP : Firm i P) (result : α) (h : Off i P s) :
    SafeFuture i (fun _ => Off i P) (Pure.pure result) s :=
  .done fun _ hu => h.others hP hu

omit [DecidableEq ι] in
/-- A stretch of a future, which a dropped one does not take. -/
theorem safe_stretch {run : TunSession ι → TunSession ι} {look : TunSession ι → α}
    {post : α → TunSession ι → Prop} (hP : Firm i P)
    (hidle : ∀ t, P t → t.around.starting i = none) (h : Off i P s)
    (hrun : ∀ t, Truthful t → Off i P t → Alive i t →
      (truth i).Own t (run t) ∧ ∀ u, (truth i).Others (run t) u → post (look t) u) :
    SafeFuture i post (stretch i run look) s := by
  refine .atomic fun t ht _ => ?_
  have hoff := h.others hP ht
  by_cases hdropped : t.around.dropped i = true
  · simp only [hdropped, if_true]
    refine ⟨own_quiet ht.2 (.inl rfl) rfl rfl, fun u hu => ?_⟩
    have hgone : Gone i t := ⟨hoff.1, hidle t hoff.2, hdropped⟩
    exact hgone.others (firm_gone i) hu
  · simp only [hdropped, if_false, Bool.false_eq_true]
    exact hrun t ht.2 hoff (by simpa [Alive] using hdropped)

/-- A blocking thread starts or ends; it starts Mihomo only with a fresh operation lock. -/
theorem own_starting (hs : Truthful s) (e : Option Engine)
    (hmihomo : e = some .mihomo →
      s.around.operation = some i ∧ s.around.since i = s.around.stops) :
    (truth i).Own s (s.mapAround fun a => a.setStarting i e) := by
  refine ⟨⟨fun _ => ⟨.inl rfl, rfl, id⟩, fun hl => .inl hl, rfl, rfl, fun j hj =>
    ⟨TunConnection.setStarting_ne _ hj e, rfl⟩, .inl rfl, fun hstart => ?_, .inl, .inl rfl⟩,
    hs.channel, fun j hj => ?_, fun j hj => ?_, hs.holder⟩
  · rw [ServiceSession.mapAround_around, TunConnection.setStarting_same] at hstart
    exact .inr (hmihomo hstart).1
  · by_cases hji : j = i
    · subst hji
      rw [ServiceSession.mapAround_around, TunConnection.setStarting_same] at hj
      exact .inr (hmihomo hj).1
    · rw [ServiceSession.mapAround_around, TunConnection.setStarting_ne _ hji] at hj
      exact hs.starting j hj
  · by_cases hji : j = i
    · subst hji
      rw [ServiceSession.mapAround_around, TunConnection.setStarting_same] at hj
      exact (hmihomo hj).2
    · rw [ServiceSession.mapAround_around, TunConnection.setStarting_ne _ hji] at hj
      exact hs.recent j hj

/-- Work on a blocking thread: what it leaves is what the future finds, if it is still there. -/
theorem safe_blocking {starts : Option Engine} {work : Op ι (TunConnection ι) α}
    {P Q : TunSession ι → Prop} {R R' : α → TunSession ι → Prop} (hP : Firm i P)
    (hQ : Firm i Q) (hR' : ∀ r, Firm i (R' r))
    (hidle : ∀ t, P t → t.around.starting i = none)
    (hidle' : ∀ r t, R' r t → t.around.starting i = none)
    (hspawn : ∀ t, Truthful t → P t → Alive i t →
      (starts = some .mihomo → t.around.operation = some i ∧ t.around.since i = t.around.stops) ∧
        Q (t.mapAround fun a => a.setStarting i starts))
    (hwork : ∀ t, Truthful t → Off i Q t → Safe (truth i) (fun r => Off i (R r)) work t)
    (hR : ∀ r, Firm i (R r))
    (hclear : ∀ r t, R r t → R' r (t.mapAround fun a => a.setStarting i none))
    (h : Off i P s) (hs : Truthful s) :
    SafeFuture i (fun r => Off i (R' r)) (blocking i starts work) s := by
  unfold blocking
  refine SafeFuture.bind (p := fun _ => Off i Q) (safe_stretch hP hidle h
    fun t ht hoff halive => ?_) hs fun _ t ht h => ?_
  · obtain ⟨hmihomo, hafter⟩ := hspawn t ht hoff.2 halive
    have hafter : Off i Q (t.mapAround fun a => a.setStarting i starts) := ⟨hoff.1, hafter⟩
    exact ⟨own_starting ht starts hmihomo, fun u hu => hafter.others hQ hu⟩
  refine SafeFuture.bind (p := fun r => Off i (R r))
    (Safe.except_lift (hwork t ht h) ht fun r _ _ h hst => h.others (hR r) hst) ht
      fun r t ht h => ?_
  refine SafeFuture.bind (p := fun _ => Off i (R' r)) (Safe.except_lift (.atomic
    fun u hu _ => ?_) ht fun _ _ _ h hst => h.others (hR' r) hst) ht fun _ t ht h => ?_
  · have hoff := h.others (hR r) hu
    have hafter : Off i (R' r) (u.mapAround fun a => a.setStarting i none) :=
      ⟨hoff.1, hclear r u hoff.2⟩
    exact ⟨own_starting hu.2 none (fun he => by cases he), fun v hv => hafter.others (hR' r) hv⟩
  · exact safe_stretch (hR' r) (hidle' r) h fun u hu hoff _ =>
      ⟨own_quiet hu (.inl rfl) rfl rfl, fun v hv => hoff.others (hR' r) hv⟩

/-- A request that serves may note which engine it starts. -/
theorem Serving.setStarting {e' : Option Engine} (h : Serving i e s) :
    Serving i e' (s.mapAround fun a => a.setStarting i e') :=
  ⟨h.1, TunConnection.setStarting_same _ i e'⟩

/-- So may one that has only just got the lock. -/
theorem Recent.setStarting {e' : Option Engine} (h : Recent i e s) :
    Recent i e' (s.mapAround fun a => a.setStarting i e') :=
  ⟨h.1.setStarting, h.2⟩

/-- A start of the TUN controller. -/
theorem safe_start (generation : Nat) (engine : Engine) (h : Off i (Recent i none) s)
    (hs : Truthful s) :
    SafeFuture i (fun _ => Off i (Recent i none)) (startBlocking i generation engine) s := by
  refine safe_blocking (Q := Recent i (some engine)) (R := fun _ => Recent i (some engine))
    (firm_recent i none) (firm_recent i _) (fun _ => firm_recent i none) (fun t ht => ht.1.2)
    (fun _ t ht => ht.1.2) (fun t ht hrecent halive => ?_) (fun t ht h => ?_)
    (fun _ => firm_recent i _) (fun _ t h => h.setStarting) h hs
  · exact ⟨fun _ => ⟨hrecent.1.1 halive, hrecent.2 halive⟩, hrecent.setStarting⟩
  · cases engine with
    | xray => exact off_claimAndPrepare (firm_recent i _) (blind_recent i _) generation h ht
    | mihomo => exact off_switchOn h ht

omit [DecidableEq ι] in
/-- The stop of Xray leaves the request serving. -/
theorem safe_stopXray (h : Off i (Serving i none) s) :
    SafeFuture i (fun _ => Off i (Serving i none)) (stopXray i) s :=
  safe_stretch (firm_serving i none) (fun _ ht => ht.2) h fun t ht hoff _ =>
    ⟨own_quiet ht (.inl rfl) rfl rfl, fun _ hu =>
      Off.others (firm_serving i none) (s := { t with owner := none })
        ⟨hoff.1, (firm_serving i none).frame (s := t) rfl hoff.2⟩ hu⟩

/-- A stop returns success with the tunnel off and nobody starting Mihomo. -/
theorem safe_stopMihomo (generation : Nat) (h : Off i (Serving i none) s) (hs : Truthful s) :
    SafeFuture i (fun _ => Off i (Serving i none)) (stopMihomo i generation) s := by
  unfold stopMihomo
  refine SafeFuture.bind (p := fun r => Off i (Stopped i r)) (safe_blocking
    (Q := Serving i none) (R := Stopped i) (firm_serving i none) (firm_serving i none)
    (firm_stopped i) (fun t ht => ht.2) (fun _ t ht => ht.1.2)
    (fun t ht h _ => ⟨(fun he => nomatch he), h.setStarting⟩)
    (fun t ht h => off_switchOff h ht) (firm_stopped i) (fun r t h => ?_) h hs) hs
      fun result t ht h => ?_
  · refine ⟨h.1.setStarting, fun halive => ?_⟩
    obtain ⟨hop, hnone, hdown⟩ := h.2 halive
    refine ⟨hop, fun j => ?_, hdown⟩
    by_cases hji : j = i
    · subst hji
      simp
    · rw [ServiceSession.mapAround_around, TunConnection.setStarting_ne _ hji]
      exact hnone j
  · rcases result with error | ⟨⟩
    · exact SafeFuture.pure (firm_serving i none) _ ⟨h.1, h.2.1⟩
    · refine safe_stretch (firm_stopped i _) (fun t ht => ht.1.2) h fun u hu hoff halive => ?_
      obtain ⟨hop, hnone, hdown⟩ := hoff.2.2 halive
      have hafter : Off i (Serving i none) (u.mapAround fun a => { a with stops := a.stops + 1 }) :=
        ⟨hoff.1, hoff.2.1⟩
      refine ⟨⟨⟨fun _ => ⟨.inl rfl, rfl, id⟩, fun hl => .inl hl, rfl, rfl, fun _ _ => ⟨rfl, rfl⟩,
        .inl rfl, .inl, .inl, .inr ⟨hop, hdown rfl⟩⟩, hu.channel, hu.starting,
        fun j hj => absurd hj (hnone j), hu.holder⟩, fun v hv => hafter.others (firm_serving i none) hv⟩

end Futures

section Requests

variable {ι : Type} [DecidableEq ι] {i : ι} {s t : TunSession ι} {P : TunSession ι → Prop}
  {α : Type}

/-- A change of state and controller alone. -/
def Bookkeeping (f : TunConnection ι → TunConnection ι) : Prop :=
  ∀ a, ∃ state controller, f a = { a with state := state, controller := controller }

omit [DecidableEq ι] in
/-- Bookkeeping is a step that a request may make. -/
theorem own_bookkeeping {f : TunConnection ι → TunConnection ι} (hf : Bookkeeping f)
    (hs : Truthful s) : (truth i).Own s (s.mapAround f) := by
  obtain ⟨state, controller, hfs⟩ := hf s.around
  refine ⟨⟨fun _ => ⟨.inl rfl, rfl, ?_⟩, fun hl => .inl hl, ?_, ?_, fun j hj => ?_, ?_, ?_, ?_, ?_⟩,
    ?_, ?_, ?_, ?_⟩
  all_goals rw [ServiceSession.mapAround_around, hfs]
  · exact id
  · exact ⟨rfl, rfl⟩
  · exact .inl rfl
  · exact .inl
  · exact .inl
  · exact .inl rfl
  · exact hs.channel
  · exact hs.starting
  · exact hs.recent
  · exact hs.holder

omit [DecidableEq ι] in
/-- Bookkeeping leaves a request serving. -/
theorem serving_bookkeeping {f : TunConnection ι → TunConnection ι} {e : Option Engine}
    (hf : Bookkeeping f) (h : Serving i e s) : Serving i e (s.mapAround f) := by
  obtain ⟨state, controller, hfs⟩ := hf s.around
  simpa only [Serving, Alive, ServiceSession.mapAround_around, hfs] using h

omit [DecidableEq ι] in
/-- It leaves a recent lock recent. -/
theorem recent_bookkeeping {f : TunConnection ι → TunConnection ι} {e : Option Engine}
    (hf : Bookkeeping f) (h : Recent i e s) : Recent i e (s.mapAround f) := by
  obtain ⟨state, controller, hfs⟩ := hf s.around
  simpa only [Recent, Serving, Alive, ServiceSession.mapAround_around, hfs] using h

omit [DecidableEq ι] in
/-- A stretch that looks, or changes state and controller. -/
theorem safe_bookkeeping (hP : Firm i P) (hidle : ∀ t, P t → t.around.starting i = none)
    (hkeep : ∀ {t f}, Bookkeeping f → P t → P (t.mapAround f))
    {f : TunConnection ι → TunConnection ι} (hf : Bookkeeping f) (look : TunSession ι → α)
    (h : Off i P s) :
    SafeFuture i (fun _ => Off i P) (stretch i (fun s => s.mapAround f) look) s :=
  safe_stretch hP hidle h fun t ht hoff _ => ⟨own_bookkeeping hf ht, fun _ hu =>
    Off.others hP (s := t.mapAround f) ⟨hoff.1, hkeep hf hoff.2⟩ hu⟩

omit [DecidableEq ι] in
/-- A look at the state changes nothing. -/
theorem safe_look (hP : Firm i P) (hidle : ∀ t, P t → t.around.starting i = none)
    (look : TunSession ι → α) (h : Off i P s) :
    SafeFuture i (fun _ => Off i P) (stretch i id look) s :=
  safe_stretch hP hidle h fun _ ht hoff _ =>
    ⟨own_quiet ht (.inl rfl) rfl rfl, fun _ hu => hoff.others hP hu⟩

omit [DecidableEq ι] in
/-- A move of the shown state is bookkeeping. -/
theorem safe_moveState (next : ConnectionState) (h : Off i (Serving i none) s) :
    SafeFuture i (fun _ => Off i (Serving i none)) (moveState i next) s :=
  safe_bookkeeping (firm_serving i none) (fun _ ht => ht.2) serving_bookkeeping
    (fun a => ⟨a.state.moved next, a.controller, rfl⟩) _ h

omit [DecidableEq ι] in
/-- It may be the last thing before the answer. -/
theorem safe_moved (next : ConnectionState) (result : α) (h : Off i (Serving i none) s)
    (hs : Truthful s) :
    SafeFuture i (fun _ => Off i (Serving i none))
      (do let _ ← moveState i next; return result) s :=
  (safe_moveState next h).bind hs fun _ _ _ h => SafeFuture.pure (firm_serving i none) _ h

/-- A connection is started with a fresh operation lock. -/
theorem safe_supervisorConnect (generation : Nat) (h : Off i (Recent i none) s)
    (hs : Truthful s) :
    SafeFuture i (fun _ => Off i (Serving i none))
      (Supervisor.connect (asyncTunController i generation)) s := by
  unfold Supervisor.connect
  refine (safe_start generation .xray h hs).bind hs fun xray t ht h => ?_
  rcases xray with error | ⟨⟩
  · exact SafeFuture.pure (firm_serving i none) _ ⟨h.1, h.2.1⟩
  refine (safe_start generation .mihomo h ht).bind ht fun mihomo t ht h => ?_
  replace h : Off i (Serving i none) t := ⟨h.1, h.2.1⟩
  rcases mihomo with error | ⟨⟩
  · unfold Supervisor.rollBack
    exact (safe_stopXray h).bind ht fun xray t _ h => SafeFuture.pure (firm_serving i none) _ h
  · exact SafeFuture.pure (firm_serving i none) _ h

/-- The stop of both engines leaves the request serving. -/
theorem safe_supervisorDisconnect (generation : Nat) (h : Off i (Serving i none) s)
    (hs : Truthful s) :
    SafeFuture i (fun _ => Off i (Serving i none))
      (Supervisor.disconnect (asyncTunController i generation)) s := by
  unfold Supervisor.disconnect
  refine (safe_stopMihomo generation h hs).bind hs fun mihomo t ht h => ?_
  exact (safe_stopXray h).bind ht fun xray t _ h => SafeFuture.pure (firm_serving i none) _ h

/-- A Connect that is undone leaves the request serving. -/
theorem safe_undoTun (generation : Nat) (h : Off i (Serving i none) s) (hs : Truthful s) :
    SafeFuture i (fun _ => Off i (Serving i none)) (undoTun i generation) s := by
  unfold undoTun
  refine (safe_supervisorDisconnect generation h hs).bind hs fun result t ht h => ?_
  rcases result with error | ⟨⟩
  · exact safe_moved _ _ h ht
  · exact safe_moved _ _ h ht

omit [DecidableEq ι] in
/-- The routes that are asked for again leave the request serving. -/
theorem safe_replayTun (h : Off i (Serving i none) s) (hs : Truthful s) :
    SafeFuture i (fun _ => Off i (Serving i none)) (replayTun i) s := by
  have hP := firm_serving i none
  unfold replayTun
  refine SafeFuture.bind (p := fun _ => Off i (Serving i none)) (Safe.except_lift
    (.question fun t ht => ⟨trivial, fun u a v hu hv => ?_⟩) hs
      fun _ _ _ h hst => h.others hP hst) hs fun applied t _ h => ?_
  · obtain rfl : u = v := Option.some.inj hv
    have hoff := (h.others hP ht).others hP hu
    exact ⟨own_quiet hu.2 (.inl rfl) rfl rfl, fun w hw => hoff.others hP hw⟩
  · exact safe_look hP (fun t ht => ht.2) _ h

/-- What follows a start, done or failed, leaves the request serving. -/
theorem safe_settleTun (generation : Nat) (result : Except SupervisorError Unit)
    (h : Off i (Serving i none) s) (hs : Truthful s) :
    SafeFuture i (fun _ => Off i (Serving i none)) (settleTun i generation result) s := by
  unfold settleTun
  split
  · refine (safe_replayTun h hs).bind hs fun applied t ht h => ?_
    split
    · exact safe_moveState _ h
    · exact safe_undoTun generation h ht
  · exact safe_moved _ _ h hs
  · exact safe_moved _ _ h hs

/-- A Connect under the lock. -/
theorem safe_connectTunLocked (generation : Nat) (h : Off i (Recent i none) s)
    (hs : Truthful s) :
    SafeFuture i (fun _ => Off i (Serving i none)) (connectTunLocked i generation) s := by
  have hP := firm_recent i none
  have hidle : ∀ t : TunSession ι, Recent i none t → t.around.starting i = none :=
    fun t ht => ht.1.2
  have hpure : ∀ {t}, Off i (Recent i none) t →
      SafeFuture i (fun _ => Off i (Serving i none)) (pure false) t :=
    fun h => SafeFuture.pure (firm_serving i none) _ ⟨h.1, h.2.1⟩
  unfold connectTunLocked
  refine (safe_look hP hidle _ h).bind hs fun state t ht h => ?_
  split
  · refine (safe_bookkeeping hP hidle recent_bookkeeping
      (fun a => ⟨a.state.moved .connecting, some generation, rfl⟩) _ h).bind ht
        fun allowed t ht h => ?_
    split
    · refine (safe_supervisorConnect generation h ht).bind ht fun result t ht h => ?_
      exact safe_settleTun generation result h ht
    · exact hpure h
  · exact hpure h

/-- A Disconnect under the lock. -/
theorem safe_disconnectTunLocked (h : Off i (Serving i none) s) (hs : Truthful s) :
    SafeFuture i (fun _ => Off i (Serving i none)) (disconnectTunLocked i) s := by
  have hP := firm_serving i none
  unfold disconnectTunLocked
  refine (safe_look hP (fun t ht => ht.2) _ h).bind hs fun ⟨state, controller⟩ t ht h => ?_
  dsimp only
  split
  · exact SafeFuture.pure hP _ h
  · rcases controller with _ | generation
    · exact SafeFuture.pure hP _ h
    · unfold stopTun
      refine (safe_supervisorDisconnect generation h ht).bind ht fun result t ht h => ?_
      rcases result with error | ⟨⟩
      · exact safe_moved _ _ h ht
      · exact safe_moveState _ h

/-- `i` has no part in the connection. -/
def Outside (i : ι) (s : TunSession ι) : Prop :=
  s.around.operation ≠ some i ∧ s.around.starting i = none

omit [DecidableEq ι] in
/-- A request that waits for the lock has nothing that others could take. -/
theorem firm_outside (i : ι) : Firm i (Outside i) where
  others h hst _ := ⟨hst.outside h.1, hst.starting.trans h.2⟩
  frame ha h := by simpa only [Outside, ha] using h

omit [DecidableEq ι] in
/-- A dropped request has no part in the connection either. -/
theorem Gone.outside (h : Gone i s) (hs : Truthful s) : Off i (Outside i) s := by
  refine ⟨h.1, fun hop => ?_, h.2.1⟩
  have := hs.holder i hop
  simp [h.2.2] at this

/-- The lock is awaited, and taken with the flags as they are. -/
theorem safe_awaitOperation (h : Off i (Outside i) s) :
    SafeFuture i (fun _ => Off i (Recent i none)) (awaitOperation i) s := by
  refine .await fun t ht hready _ => ?_
  have hoff := h.others (firm_outside i) ht
  by_cases hdropped : t.around.dropped i = true
  · simp only [hdropped, if_true]
    have hgone : Gone i t := ⟨hoff.1, hoff.2.2, hdropped⟩
    exact ⟨own_quiet ht.2 (.inl rfl) rfl rfl, fun u hu => hgone.others (firm_gone i) hu⟩
  · have halive : Alive i t := by simpa [Alive] using hdropped
    have hfree : t.around.operation = none := by simpa [hdropped] using hready
    simp only [hdropped, if_false, Bool.false_eq_true]
    refine ⟨⟨⟨fun _ => ⟨.inl rfl, rfl, id⟩, fun hl => .inl hl, rfl, rfl, fun j hj =>
      ⟨rfl, ?_⟩, .inr (.inl ⟨hfree, rfl⟩), .inl, .inl, .inl rfl⟩, ht.2.channel, fun j hj => ?_,
      fun j hj => ?_, fun j hj => ?_⟩, fun u hu => Off.others (firm_recent i none) ?_ hu⟩
    · simp [hj]
    · have := (ht.2.starting j hj).resolve_right (by simp [hfree])
      exact .inl this
    · have hji : j ≠ i := by
        rintro rfl
        exact absurd (hoff.2.2.symm.trans hj) (by simp)
      simpa [hji] using ht.2.recent j hj
    · cases hj
      exact halive
    · exact ⟨hoff.1, ⟨fun _ => rfl, hoff.2.2⟩, fun _ => by simp⟩

omit [DecidableEq ι] in
/-- The lock is given back. -/
theorem safe_giveOperation (h : Off i (Serving i none) s) :
    SafeFuture i (fun _ => Off i (Outside i)) (giveOperation i) s := by
  refine safe_stretch (firm_serving i none) (fun t ht => ht.2) h fun t ht hoff halive => ?_
  have hop := hoff.2.1 halive
  refine ⟨⟨⟨fun _ => ⟨.inl rfl, rfl, id⟩, fun hl => .inl hl, rfl, rfl, fun _ _ => ⟨rfl, rfl⟩,
    .inr (.inr ⟨hop, rfl⟩), .inl, .inl, .inl rfl⟩, ht.channel, fun j hj => .inl ?_, ht.recent,
    fun j hj => by cases hj⟩, fun u hu => ?_⟩
  · refine (ht.starting j hj).resolve_right fun hj' => ?_
    rw [hop] at hj'
    cases hj'
    exact absurd (hoff.2.2.symm.trans hj) (by simp)
  · refine Off.others (firm_outside i) ?_ hu
    exact ⟨hoff.1, by simp, hoff.2.2⟩

/-- The operation lock around an operation. -/
theorem safe_locked {future : Async ι α} (h : Off i (Outside i) s) (hs : Truthful s)
    (hfuture : ∀ {t}, Off i (Recent i none) t → Truthful t →
      SafeFuture i (fun _ => Off i (Serving i none)) future t) :
    SafeFuture i (fun _ => Off i (Outside i))
      (do awaitOperation i; let result ← future; giveOperation i; return result) s := by
  refine (safe_awaitOperation h).bind hs fun _ t ht h => ?_
  refine (hfuture h ht).bind ht fun result t ht h => ?_
  exact (safe_giveOperation h).bind ht fun _ t _ h => SafeFuture.pure (firm_outside i) _ h

/-- Every request ends without a part in the connection. -/
theorem safe_serveTun (kind : TunRequest) (h : Off i (Outside i) s) (hs : Truthful s) :
    Safe (truth i) (fun _ => Off i (Outside i)) (serveTun i kind) s := by
  have hends : ∀ {future : Async ι Bool}, SafeFuture i (fun _ => Off i (Outside i)) future s →
      Safe (truth i) (fun _ => Off i (Outside i)) future.run s := by
    refine fun h => Safe.mono h fun result t ht hpost => ?_
    cases result with
    | ok result => exact hpost
    | error error => exact hpost.outside ht
  cases kind with
  | connect generation =>
    exact hends (safe_locked h hs fun h ht => safe_connectTunLocked generation h ht)
  | disconnect =>
    exact hends (safe_locked h hs fun h ht => safe_disconnectTunLocked ⟨h.1, h.2.1⟩ ht)
  | poll =>
    refine (off_poll (firm_outside i) (fun _ _ h => h) h hs).bind hs fun _ t _ h => ?_
    exact off_pure (firm_outside i) _ h

end Requests

section Runs

variable {ι : Type} [DecidableEq ι]

/-- No request is served here, and none can be dropped. -/
def Vacant (i : ι) (s : TunSession ι) : Prop :=
  Off i (Outside i) s ∧ s.around.connects i = false

omit [DecidableEq ι] in
/-- A slot without a request stays one. -/
theorem Vacant.others {i : ι} {s t : TunSession ι} (h : Vacant i s) (hst : TunOthers i s t)
    (ht : Truthful t) : Vacant i t :=
  ⟨h.1.others (firm_outside i) ⟨hst, ht⟩, hst.connects.trans h.2⟩

omit [DecidableEq ι] in
/-- The beginning and the end of a request are nothing to the others. -/
theorem tunOthers_marks {j : ι} {s : TunSession ι} {connects dropped : ι → Bool}
    (hconnects : connects j = s.around.connects j) (hdropped : dropped j = s.around.dropped j) :
    TunOthers j s (s.mapAround fun a => { a with connects := connects, dropped := dropped }) where
  away := id
  holding h := ⟨h, rfl, id⟩
  starting := rfl
  since := rfl
  connects := hconnects
  dropped h := hdropped.trans h
  outside := id
  inside h _ := ⟨h, rfl, fun _ _ => id⟩
  raises _ _ := .inl

/-- Dropping a Connect leaves what holds in every state. -/
theorem Truthful.drop {s : TunSession ι} (hs : Truthful s) (i : ι) :
    Truthful (s.mapAround fun a => a.drop i) := by
  have hdropped : ∀ j, s.around.dropped j = true ∨ j = i →
      (s.around.drop i).dropped j = true := by
    intro j hj
    unfold TunConnection.drop
    by_cases hji : j = i
    · split <;> simp [hji]
    · split <;> simp [hji, hj.resolve_right hji]
  constructor
  · intro hchannel
    have := hs.channel hchannel
    simp only [ServiceSession.mapAround_around, TunConnection.drop]
    split <;> exact this
  · intro j hj
    have hj : s.around.starting j = some .mihomo := by
      simp only [ServiceSession.mapAround_around, TunConnection.drop] at hj
      split at hj <;> exact hj
    rcases hs.starting j hj with hd | hop
    · exact .inl (hdropped j (.inl hd))
    · by_cases hji : j = i
      · exact .inl (hdropped j (.inr hji))
      · refine .inr ?_
        have hne : s.around.operation ≠ some i := by simp [hop, hji]
        simpa [TunConnection.drop, hne] using hop
  · intro j hj
    simp only [ServiceSession.mapAround_around, TunConnection.drop] at hj ⊢
    split at hj <;> rename_i hop <;> simp only [hop, if_true, if_false] <;> exact hs.recent j hj
  · intro j hj
    simp only [ServiceSession.mapAround_around, TunConnection.drop] at hj ⊢
    split at hj
    · cases hj
    · rename_i hne
      have hji : j ≠ i := by
        rintro rfl
        exact hne hj
      simpa [hne, hji] using hs.holder j hj

/-- The others rely on nothing that a drop changes. -/
theorem tunOthers_drop {s : TunSession ι} (i j : ι) :
    TunOthers j s (s.mapAround fun a => a.drop i) := by
  by_cases hop : s.around.operation = some i
  · by_cases hji : j = i
    · subst hji
      refine ⟨id, fun h => ⟨h, rfl, ?_⟩, ?_, ?_, ?_, ?_, ?_, ?_, ?_⟩ <;>
        simp [TunConnection.drop, hop, Alive]
    · have hne : s.around.operation ≠ some j := by simp [hop, Ne.symm hji]
      refine ⟨id, fun h => ⟨h, rfl, ?_⟩, ?_, ?_, ?_, ?_, ?_, ?_, ?_⟩ <;>
        simp [TunConnection.drop, hop, hji, Ne.symm hji]
  · refine ⟨id, fun h => ⟨h, rfl, ?_⟩, ?_, ?_, ?_, ?_, ?_, ?_, ?_⟩ <;>
      simp [TunConnection.drop, hop]
    · by_cases hji : j = i
      · simp [hji]
      · simp [hji]
    · exact fun h _ => h
    · exact fun _ _ => .inl

/-- Connects, Disconnects and polls fit together, and so do drops. -/
theorem fits_truth :
    Fits (tunSystem ι) Truthful Vacant (fun i _ => truth i) (fun i _ _ => Off i (Outside i))
      (fun _ _ => True) where
  inv_eq _ _ := rfl
  guar_rely _ _ _ _ hne _ _ h := tunOthers_of_tunStep hne h
  idle_rely _ _ _ _ ht h hrely := h.others hrely ht
  begin := by
    intro i kind s hs h _
    have hbegun : Truthful ((tunSystem ι).onBegin i kind s) :=
      ⟨hs.channel, hs.starting, hs.recent, hs.holder⟩
    refine ⟨hbegun, fun j l hj => ?_, safe_serveTun kind h.1 hbegun⟩
    exact tunOthers_marks (s := s) (by simp [hj]) rfl
  finish := by
    intro i kind result s hs h
    refine ⟨⟨hs.channel, fun j hj => ?_, hs.recent, fun j hj => ?_⟩, ⟨h, ?_⟩, fun j l hj => ?_⟩
    · have hji : j ≠ i := by
        rintro rfl
        exact absurd (h.2.2.symm.trans hj) (by simp)
      simpa [tunSystem, hji] using hs.starting j hj
    · have hji : j ≠ i := by
        rintro rfl
        exact h.2.1 hj
      simpa [tunSystem, hji] using hs.holder j hj
    · simp [tunSystem]
    · exact tunOthers_marks (s := s) (by simp [hj]) (by simp [hj])
  change := by
    intro w s t hs _ ht
    cases w with
    | tunnelDown =>
      obtain rfl := Option.some.inj ht
      refine ⟨⟨fun _ => rfl, hs.starting, hs.recent, hs.holder⟩, fun i h => ⟨h.1, h.2⟩,
        fun j l => ?_⟩
      exact ⟨id, fun h => ⟨h, rfl, fun hup => by cases hup⟩, rfl, rfl, rfl, id, id,
        fun h _ => ⟨h, rfl, fun _ _ => id⟩, fun _ _ hup => by cases hup⟩
    | drop j =>
      simp only [tunSystem, Option.ite_none_right_eq_some, Option.some.injEq] at ht
      obtain ⟨-, rfl⟩ := ht
      exact ⟨hs.drop j, fun i h => h.others (tunOthers_drop j i) (hs.drop j),
        fun i l => tunOthers_drop j i⟩

/-- A step of a run. -/
abbrev TunEdge (ι : Type) :=
  Transition.Edge (Config ι TunRequest Point Question Answer (TunSession ι) (Except Unit Bool))
    (Label ι TunRequest Point Question Answer (Except Unit Bool) (TunChange ι))

/-- The condition on a step: where it is a section of a stop, the stop is sound. -/
def SoundStep (e : TunEdge ι) : Prop :=
  ∀ i kind point, e.label = .ran i kind point → StopsSoundly i e.source.shared point

/-- A daemon without requests, channel or tunnel. -/
def idleTun (ι : Type) (state : ConnectionState) :
    Config ι TunRequest Point Question Answer (TunSession ι) (Except Unit Bool) :=
  ⟨.new
    { operation := none
      state := state
      controller := none
      tunnel := false
      connects := fun _ => false
      dropped := fun _ => false
      starting := fun _ => none
      stops := 0
      since := fun _ => 0 }, fun _ => none⟩

/-- A step with which a stop of Mihomo returns success leaves the real tunnel off, and a step that
switches the tunnel on belongs to a request that took the operation lock after the last such stop. -/
def TellsTruth (e : TunEdge ι) : Prop :=
  (e.target.shared.around.stops ≠ e.source.shared.around.stops →
    e.target.shared.around.tunnel = false) ∧
  (e.source.shared.around.tunnel = false → e.target.shared.around.tunnel = true →
    ∃ i, e.label.actor = some i ∧ e.source.shared.around.since i = e.source.shared.around.stops)

omit [DecidableEq ι] in
/-- A step of the contract tells the truth. -/
theorem TunStep.tellsTruth {i : ι} {e : TunEdge ι} (hactor : e.label.actor = some i)
    (h : TunStep i e.source.shared e.target.shared) (hs : Truthful e.source.shared) :
    TellsTruth e := by
  constructor
  · intro hne
    exact (h.stops.resolve_left hne).2
  · intro hoff hup
    have hstarting := (h.raises hup).resolve_left (by simp [hoff])
    exact ⟨i, hactor, hs.recent i hstarting⟩

omit [DecidableEq ι] in
/-- So does a step that leaves stops alone and switches nothing on. -/
theorem tellsTruth_of_frame {e : TunEdge ι}
    (hstops : e.target.shared.around.stops = e.source.shared.around.stops)
    (htunnel : e.target.shared.around.tunnel = true → e.source.shared.around.tunnel = true) :
    TellsTruth e := by
  constructor
  · intro hne
    exact absurd hstops hne
  · intro hoff hup
    simp [htunnel hup] at hoff

/-- In every run whose stops are sound, a stop of Mihomo that returns success finds the real tunnel
off, and the tunnel is only switched on for a request that took the operation lock after the last
such stop. -/
theorem stop_tells_truth (state : ConnectionState)
    {d : Config ι TunRequest Point Question Answer (TunSession ι) (Except Unit Bool)}
    {es : List (TunEdge ι)} (hrun : (tunSystem ι).Run (idleTun ι state) es d)
    (hsound : ∀ e ∈ es, SoundStep e) : ∀ e ∈ es, TellsTruth e := by
  have hstart : AllSafe (K := TunRequest) (ρ := Except Unit Bool) Truthful Vacant
      (fun i _ => truth i) (fun i _ _ => Off i (Outside i)) (idleTun ι state) := by
    refine ⟨⟨fun _ => rfl, fun j hj => ?_, fun j hj => ?_, fun j hj => ?_⟩,
      fun i _ => ⟨⟨?_, ?_, rfl⟩, rfl⟩, fun i k task h => ?_⟩
    · cases hj
    · cases hj
    · cases hj
    · simp [idleTun, ServiceSession.new]
    · simp [idleTun, ServiceSession.new]
    · cases h
  have hgrant : ∀ e ∈ es, Granted (tunSystem ι) (fun i _ => truth i) (fun _ _ => True) e := by
    intro e he
    have hin := hsound e he
    cases hl : e.label <;> simp only [Granted, hl]
    case ran i kind point => exact hin i kind point hl
    case answered i kind question answer => exact fun t ht => ht
  intro e he
  obtain ⟨hstep, ds, hds, hsub⟩ := hrun.edge_mem he
  have hsafe := hstart.run fits_truth hds fun e he => hgrant e (hsub e he)
  have hgranted := hgrant e he
  obtain ⟨source, label, target⟩ := e
  dsimp only at hstep
  cases label with
  | ran i kind point =>
    exact TunStep.tellsTruth rfl (hsafe.ran fits_truth hstep hgranted) hsafe.inv
  | answered i kind question answer =>
    exact TunStep.tellsTruth rfl (hsafe.answered fits_truth hstep hgranted) hsafe.inv
  | began i kind =>
    cases hstep
    exact tellsTruth_of_frame rfl id
  | asked i kind question =>
    cases hstep
    exact tellsTruth_of_frame rfl id
  | finished i kind result =>
    cases hstep
    exact tellsTruth_of_frame rfl id
  | changed change =>
    cases hstep with
    | changed change s given =>
      cases change with
      | tunnelDown =>
        obtain rfl := Option.some.inj given
        exact tellsTruth_of_frame rfl fun hup => by cases hup
      | drop i =>
        simp only [tunSystem, Option.ite_none_right_eq_some, Option.some.injEq] at given
        obtain ⟨-, rfl⟩ := given
        refine tellsTruth_of_frame ?_ ?_
        · simp only [ServiceSession.mapAround_around, TunConnection.drop]
          split <;> rfl
        · simp only [ServiceSession.mapAround_around, TunConnection.drop]
          split <;> exact id

/-- A choice of a run. -/
abbrev TunMove (ι : Type) := Move ι TunRequest Question Answer (TunChange ι)

/-- A Connect up to the moment before its `SetTun`, over a fresh channel. -/
def connectPrepared (i : ι) : List (TunMove ι) :=
  [[.begin i (.connect 5)], Move.goOn i 16, [.answer i .connect (.ok ())], Move.goOn i 2,
    [.answer i (.request (.prepare 5)) (.ok (.prepared 5 ⟨9090, "secret", 7890⟩))],
    Move.goOn i 10].flatten

/-- A Connect that brings the tunnel up. -/
def connectUp (i : ι) : List (TunMove ι) :=
  [connectPrepared i, Move.goOn i 4, [.answer i (.request (.setTun true)) (.ok (.tunState true))],
    Move.goOn i 6, [.answer i .replaySelections true], Move.goOn i 4].flatten

/-- A poll whose answer finds Xray in `xray`. -/
def polled (i : ι) (xray : ElevatedRuntimeState) : List (TunMove ι) :=
  [[.begin i .poll], Move.goOn i 4,
    [.answer i (.request .status) (.ok (.status (some 5) xray .ready true none))],
    Move.goOn i 5].flatten

/-- A Disconnect whose switch-off is answered `answer`, after which `n` steps are left. -/
def disconnected (i : ι) (answer : ServiceResponse) (n : Nat) : List (TunMove ι) :=
  [[.begin i .disconnect], Move.goOn i 7, [.answer i (.request (.setTun false)) (.ok answer)],
    Move.goOn i n].flatten

/-- A poll finds Xray restarting; the switch-off is refused as busy; the stop returns success. -/
theorem stop_claims_tunnel_off :
    ∃ es d, (tunSystem Nat).Run (idleTun Nat .ready) es d ∧
      ∃ e ∈ es, e.target.shared.around.stops ≠ e.source.shared.around.stops ∧
        e.target.shared.around.tunnel = true := by
  obtain ⟨es, d, hrun, hd⟩ := (tunSystem Nat).exists_run (idleTun Nat .ready)
    [connectUp 0, polled 1 .starting, disconnected 0 .busy 11].flatten
    (fun es _ => es.any fun e => e.target.shared.around.stops != e.source.shared.around.stops &&
      e.target.shared.around.tunnel) (by decide +kernel)
  obtain ⟨e, he, hlie⟩ := List.any_eq_true.mp hd
  simp only [Bool.and_eq_true, bne_iff_ne, ne_eq] at hlie
  exact ⟨es, d, hrun, e, he, hlie⟩

/-- A Connect is dropped before its `SetTun` is sent; a Disconnect switches the tunnel off and is
done; then the blocking thread of the Connect switches it on. -/
theorem abandoned_connect_switches_on :
    ∃ es d, (tunSystem Nat).Run (idleTun Nat .ready) es d ∧ d.shared.around.state = .ready ∧
      d.shared.around.tunnel = true ∧ ∃ e ∈ es, ¬TellsTruth e := by
  obtain ⟨es, d, hrun, hd⟩ := (tunSystem Nat).exists_run (idleTun Nat .ready)
    [connectPrepared 0, [.change (.drop 0)], disconnected 1 (.tunState false) 11, Move.goOn 0 4,
      [.answer 0 (.request (.setTun true)) (.ok (.tunState true))]].flatten
    (fun es d => d.shared.around.state == .ready && d.shared.around.tunnel && es.any fun e =>
      !e.source.shared.around.tunnel && e.target.shared.around.tunnel &&
        e.label.actor == some 0 && e.source.shared.around.since 0 != e.source.shared.around.stops)
    (by decide +kernel)
  simp only [Bool.and_eq_true, beq_iff_eq] at hd
  obtain ⟨⟨hstate, htunnel⟩, hany⟩ := hd
  obtain ⟨e, he, hlie⟩ := List.any_eq_true.mp hany
  simp only [Bool.and_eq_true, Bool.not_eq_true', beq_iff_eq, bne_iff_ne, ne_eq] at hlie
  obtain ⟨⟨⟨hoff, hup⟩, hactor⟩, hsince⟩ := hlie
  refine ⟨es, d, hrun, hstate, htunnel, e, he, fun htrue => ?_⟩
  obtain ⟨i, hi, hrecent⟩ := htrue.2 hoff hup
  rw [hactor] at hi
  cases hi
  exact hsince hrecent

instance {n : Nat} (i : Fin n) (s : TunSession (Fin n)) (point : Point) :
    Decidable (StopsSoundly i s point) :=
  match point with
  | .refusedHealthy =>
    inferInstanceAs (Decidable
      (s.around.dropped i = false → s.healthy = false → s.around.tunnel = false))
  | .refusedPrepared =>
    inferInstanceAs (Decidable
      (s.around.dropped i = false → s.prepared = none → s.around.tunnel = false))
  | .released x =>
    inferInstanceAs (Decidable (s.around.dropped i = false → x.purpose = .setTun false →
      ∀ j, s.around.dropped j = true → s.around.starting j ≠ some .mihomo))
  | .plain | .lateUnhealthy | .latePrepared | .lateHealthy | .lateTunOn | .claiming _
  | .releasing => instDecidableTrue

/-- A section of an operation stops soundly. -/
def ranSoundly (e : TunEdge (Fin 2)) : Bool :=
  match e.label with
  | .ran i _ point => decide (StopsSoundly i e.source.shared point)
  | _ => true

/-- A Connect, a poll and a Disconnect, all answered as the service finds things. -/
theorem stop_tells_truth_disconnected :
    ∃ es d, (tunSystem (Fin 2)).Run (idleTun (Fin 2) .ready) es d ∧
      d.shared.around.stops = 1 ∧ ∀ e ∈ es, TellsTruth e := by
  obtain ⟨es, d, hrun, hd⟩ := (tunSystem (Fin 2)).exists_run (idleTun (Fin 2) .ready)
    [connectUp 0, polled 1 .ready, disconnected 0 (.tunState false) 11].flatten
    (fun es d => d.shared.around.stops == 1 && es.all ranSoundly) (by decide +kernel)
  obtain ⟨hstops, hall⟩ := Bool.and_eq_true_iff.mp hd
  refine ⟨es, d, hrun, beq_iff_eq.mp hstops, stop_tells_truth .ready hrun fun e he => ?_⟩
  intro i kind point hl
  have := List.all_eq_true.mp hall e he
  simpa [ranSoundly, hl] using this

end Runs

end MultiCore.Daemon
