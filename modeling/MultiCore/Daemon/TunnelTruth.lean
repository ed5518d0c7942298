import MultiCore.Daemon.Quiet
import MultiCore.Daemon.TunConnection

/-!
# The real tunnel and the transport lock

The tunnel is only switched with the transport lock held, and only a request
that starts Mihomo switches it on. A Connect starts Mihomo while it holds the
operation lock, unless it was dropped meanwhile. So the holder of the operation
lock knows that the tunnel stays off once it found it off and no dropped
Connect is still starting Mihomo.
-/

namespace MultiCore.Daemon

open Cooperative

section Contract

variable {ι : Type}

/-- What holds of channel, tunnel and starts in every state. -/
structure Truthful (s : TunSession ι) : Prop where
  /-- Without a channel the service runs no tunnel. -/
  channel : s.transport = false → s.around.tunnel = false
  /-- Mihomo is started for the holder of the operation lock or for a dropped request. -/
  starting : ∀ j, s.around.starting j = some .mihomo →
    s.around.dropped j = true ∨ s.around.operation = some j
  /-- No stop has returned success since that request took the operation lock. -/
  recent : ∀ j, s.around.starting j = some .mihomo → s.around.since j = s.around.stops
  holder : ∀ j, s.around.operation = some j → s.around.dropped j = false

/-- The request is not dropped. -/
def Alive (i : ι) (s : TunSession ι) : Prop := s.around.dropped i = false

/-- Nobody is starting Mihomo for a request that was dropped. -/
def NoneAbandoned (s : TunSession ι) : Prop :=
  ∀ j, s.around.dropped j = true → s.around.starting j ≠ some .mihomo

/-- A stop finds the tunnel off where it takes it to be off, and switches it off with no abandoned
Connect still starting Mihomo. -/
def StopsSoundly (i : ι) (s : TunSession ι) : Point → Prop
  | .refusedHealthy => Alive i s → s.healthy = false → s.around.tunnel = false
  | .refusedPrepared => Alive i s → s.prepared = none → s.around.tunnel = false
  | .released x => Alive i s → x.purpose = .setTun false → NoneAbandoned s
  | _ => True

/-- What one step of a request may do. -/
structure TunStep (i : ι) (s t : TunSession ι) : Prop where
  away : s.lock ≠ some i → (t.lock = s.lock ∨ s.lock = none ∧ t.lock = some i) ∧
    t.transport = s.transport ∧ (t.around.tunnel = true → s.around.tunnel = true)
  holding : s.lock = some i → t.lock = some i ∨ t.lock = none
  connects : t.around.connects = s.around.connects
  dropped : t.around.dropped = s.around.dropped
  others : ∀ j, j ≠ i → t.around.starting j = s.around.starting j ∧
    t.around.since j = s.around.since j
  operation : t.around.operation = s.around.operation ∨
    s.around.operation = none ∧ t.around.operation = some i ∨
    s.around.operation = some i ∧ t.around.operation = none
  starts : t.around.starting i = some .mihomo →
    s.around.starting i = some .mihomo ∨ s.around.operation = some i
  raises : t.around.tunnel = true → s.around.tunnel = true ∨ s.around.starting i = some .mihomo
  stops : t.around.stops = s.around.stops ∨
    s.around.operation = some i ∧ t.around.tunnel = false

/-- What the other requests, the service and the drop of the request itself may have done. -/
structure TunOthers (i : ι) (s t : TunSession ι) : Prop where
  away : s.lock ≠ some i → t.lock ≠ some i
  holding : s.lock = some i → t.lock = some i ∧ t.transport = s.transport ∧
    (t.around.tunnel = true → s.around.tunnel = true)
  starting : t.around.starting i = s.around.starting i
  since : t.around.since i = s.around.since i
  connects : t.around.connects i = s.around.connects i
  dropped : s.around.dropped i = true → t.around.dropped i = true
  outside : s.around.operation ≠ some i → t.around.operation ≠ some i
  inside : s.around.operation = some i → Alive i t →
    t.around.operation = some i ∧ t.around.stops = s.around.stops ∧
      ∀ j, j ≠ i → t.around.starting j = some .mihomo → s.around.starting j = some .mihomo
  raises : s.around.operation = some i → Alive i t → t.around.tunnel = true →
    s.around.tunnel = true ∨ ∃ j, j ≠ i ∧ s.around.starting j = some .mihomo

theorem TunOthers.alive {i : ι} {s t : TunSession ι} (h : TunOthers i s t) (ht : Alive i t) :
    Alive i s := by
  by_contra hdropped
  have := h.dropped (by simpa [Alive] using hdropped)
  simp [Alive, this] at ht

theorem TunOthers.refl (i : ι) (s : TunSession ι) : TunOthers i s s :=
  ⟨id, fun h => ⟨h, rfl, id⟩, rfl, rfl, rfl, id, id, fun h _ => ⟨h, rfl, fun _ _ => id⟩,
    fun _ _ => .inl⟩

theorem TunOthers.trans {i : ι} {s t u : TunSession ι} (h : TunOthers i s t)
    (k : TunOthers i t u) : TunOthers i s u where
  away hs := k.away (h.away hs)
  holding hs := by
    obtain ⟨hl, htr, htun⟩ := h.holding hs
    obtain ⟨hl', htr', htun'⟩ := k.holding hl
    exact ⟨hl', htr'.trans htr, fun hu => htun (htun' hu)⟩
  starting := k.starting.trans h.starting
  since := k.since.trans h.since
  connects := k.connects.trans h.connects
  dropped hs := k.dropped (h.dropped hs)
  outside hs := k.outside (h.outside hs)
  inside hs hu := by
    obtain ⟨hop, hstops, hstart⟩ := h.inside hs (k.alive hu)
    obtain ⟨hop', hstops', hstart'⟩ := k.inside hop hu
    exact ⟨hop', hstops'.trans hstops, fun j hj hj' => hstart j hj (hstart' j hj hj')⟩
  raises hs hu htunnel := by
    obtain ⟨hop, -, hstart⟩ := h.inside hs (k.alive hu)
    rcases k.raises hop hu htunnel with ht | ⟨j, hj, hstarting⟩
    · exact h.raises hs (k.alive hu) ht
    · exact .inr ⟨j, hj, hstart j hj hstarting⟩

/-- The contract of every request on channel, tunnel and starts. -/
def truth (i : ι) : Contract Point Question Answer (TunSession ι) where
  inv := Truthful
  rely := TunOthers i
  guar := TunStep i
  asks _ _ := True
  grants point s := StopsSoundly i s point
  answers q a s t := truthful s q a = some t
  rely_refl := TunOthers.refl i
  rely_trans h k := h.trans k

instance (i : ι) (point : Point) : (truth i).Silent point := ⟨fun _ _ => trivial⟩

/-- A step of one request is what the others rely on. -/
theorem tunOthers_of_tunStep {i j : ι} {s t : TunSession ι} (hne : i ≠ j) (h : TunStep i s t) :
    TunOthers j s t where
  away hj := by
    by_cases hi : s.lock = some i
    · rcases h.holding hi with hl | hl <;> simp [hl, hne]
    · rcases (h.away hi).1 with hl | ⟨-, hl⟩
      · rwa [hl]
      · simp [hl, hne]
  holding hj := by
    have hi : s.lock ≠ some i := by simp [hj, Ne.symm hne]
    obtain ⟨hl | ⟨hl, -⟩, htr, htun⟩ := h.away hi
    · exact ⟨hl.trans hj, htr, htun⟩
    · simp [hj] at hl
  starting := (h.others j (Ne.symm hne)).1
  since := (h.others j (Ne.symm hne)).2
  connects := by rw [h.connects]
  dropped hj := by rwa [h.dropped]
  outside hj := by
    rcases h.operation with ho | ⟨-, ho⟩ | ⟨-, ho⟩
    · rwa [ho]
    · simp [ho, hne]
    · simp [ho]
  inside hj _ := by
    have hi : s.around.operation ≠ some i := by simp [hj, Ne.symm hne]
    refine ⟨?_, ?_, fun k hk hstart => ?_⟩
    · rcases h.operation with ho | ⟨ho, -⟩ | ⟨ho, -⟩
      · exact ho.trans hj
      · simp [hj] at ho
      · exact absurd ho hi
    · rcases h.stops with hs | ⟨ho, -⟩
      · exact hs
      · exact absurd ho hi
    · by_cases hki : k = i
      · subst hki
        exact (h.starts hstart).resolve_right hi
      · rwa [← (h.others k hki).1]
  raises hj _ htunnel := by
    rcases h.raises htunnel with hs | hs
    · exact .inl hs
    · exact .inr ⟨i, hne, hs⟩

variable {i : ι} {s t : TunSession ι} {P Q : TunSession ι → Prop} {α : Type}

/-- A step that leaves the connection alone. -/
theorem tunStep_frame (hl : t.lock = s.lock ∨ s.lock = none ∧ t.lock = some i ∨
      s.lock = some i ∧ t.lock = none)
    (htransport : t.transport = s.transport ∨ s.lock = some i) (ha : t.around = s.around) :
    TunStep i s t where
  away hne := by
    refine ⟨?_, ?_, by rw [ha]; exact id⟩
    · rcases hl with hl | hl | ⟨hl, -⟩
      · exact .inl hl
      · exact .inr hl
      · exact absurd hl hne
    · exact htransport.resolve_right hne
  holding hi := by
    rcases hl with hl | ⟨hl, -⟩ | ⟨-, hl⟩
    · exact .inl (hl.trans hi)
    · simp [hi] at hl
    · exact .inr hl
  connects := by rw [ha]
  dropped := by rw [ha]
  others _ _ := by rw [ha]; exact ⟨rfl, rfl⟩
  operation := .inl (by rw [ha])
  starts h := .inl (by rwa [ha] at h)
  raises h := .inl (by rwa [ha] at h)
  stops := .inl (by rw [ha])

/-- A step that leaves channel and connection alone. -/
theorem own_quiet (hs : Truthful s) (hl : t.lock = s.lock ∨ s.lock = none ∧ t.lock = some i ∨
      s.lock = some i ∧ t.lock = none)
    (htransport : t.transport = s.transport) (ha : t.around = s.around) :
    (truth i).Own s t := by
  refine ⟨tunStep_frame hl (.inl htransport) ha, ?_⟩
  constructor
  · rw [htransport, ha]
    exact hs.channel
  · rw [ha]
    exact hs.starting
  · rw [ha]
    exact hs.recent
  · rw [ha]
    exact hs.holder

/-- The channel is opened, or dropped with the tunnel down. -/
theorem own_transport {b : Bool} (hs : Truthful s) (hlock : s.lock = some i)
    (hdown : s.around.tunnel = false) : (truth i).Own s { s with transport := b } :=
  ⟨tunStep_frame (.inl rfl) (.inr hlock) rfl, ⟨fun _ => hdown, hs.starting, hs.recent, hs.holder⟩⟩

/-- An answer to the holder of the transport lock that leaves the tunnel `b`. -/
theorem own_tunnel {b : Bool} (hs : Truthful s) (hlock : s.lock = some i)
    (htransport : b = true → s.transport = true)
    (hraise : b = true → s.around.tunnel = true ∨ s.around.starting i = some .mihomo) :
    (truth i).Own s (s.mapAround fun a => { a with tunnel := b }) := by
  refine ⟨⟨fun hne => absurd hlock hne, fun _ => .inl hlock, rfl, rfl, fun _ _ => ⟨rfl, rfl⟩,
    .inl rfl, .inl, hraise, .inl rfl⟩, fun hchannel => ?_, hs.starting, hs.recent, hs.holder⟩
  by_contra hb
  have hopen := htransport (eq_true_of_ne_false hb)
  rw [ServiceSession.mapAround_transport, hopen] at hchannel
  cases hchannel

/-- A property of the connection that the others leave alone. -/
structure Firm (i : ι) (P : TunSession ι → Prop) : Prop where
  others : ∀ {s t}, P s → TunOthers i s t → Truthful t → P t
  frame : ∀ {s t : TunSession ι}, t.around = s.around → P s → P t

/-- A property that does not speak of the tunnel. -/
def Blind (P : TunSession ι → Prop) : Prop :=
  ∀ b s, P s → P (s.mapAround fun a => { a with tunnel := b })

/-- A property that the others leave alone while `i` holds the transport lock. -/
structure FirmInside (i : ι) (Q : TunSession ι → Prop) : Prop where
  others : ∀ {s t}, s.lock = some i → Q s → TunOthers i s t → Truthful t → Q t
  frame : ∀ {s t : TunSession ι}, t.transport = s.transport → t.around = s.around → Q s → Q t

/-- `i` does not hold the transport lock, and `P`. -/
def Off (i : ι) (P : TunSession ι → Prop) (s : TunSession ι) : Prop :=
  s.lock ≠ some i ∧ P s

/-- `i` holds the transport lock, and `Q`. -/
def Within (i : ι) (Q : TunSession ι → Prop) (s : TunSession ι) : Prop :=
  s.lock = some i ∧ Q s

theorem Off.others (hP : Firm i P) (h : Off i P s) (hst : (truth i).Others s t) : Off i P t :=
  ⟨hst.1.away h.1, hP.others h.2 hst.1 hst.2⟩

theorem Within.others (hQ : FirmInside i Q) (h : Within i Q s) (hst : (truth i).Others s t) :
    Within i Q t :=
  ⟨(hst.1.holding h.1).1, hQ.others h.1 h.2 hst.1 hst.2⟩

theorem Firm.within (hP : Firm i P) : FirmInside i P :=
  ⟨fun _ h hst ht => hP.others h hst ht, fun _ ha h => hP.frame ha h⟩

/-- `P`, and the tunnel is off if `down`. -/
def Down (P : TunSession ι → Prop) (down : Prop) (s : TunSession ι) : Prop :=
  P s ∧ (down → s.around.tunnel = false)

/-- With the transport lock held, nobody switches the tunnel on. -/
theorem Firm.down (hP : Firm i P) (down : Prop) : FirmInside i (Down P down) := by
  refine ⟨fun hl ⟨hp, hdown⟩ hst ht => ⟨hP.others hp hst ht, fun hd => ?_⟩,
    fun _ ha ⟨hp, hdown⟩ => ⟨hP.frame ha hp, by rw [ha]; exact hdown⟩⟩
  by_contra hup
  have := (hst.holding hl).2.2 (eq_true_of_ne_false hup)
  simp [hdown hd] at this

/-- With the transport lock held, nobody drops or opens the channel. -/
theorem Firm.channel (hP : Firm i P) (b : Bool) : FirmInside i fun s => P s ∧ s.transport = b :=
  ⟨fun hl ⟨hp, hb⟩ hst ht => ⟨hP.others hp hst ht, ((hst.holding hl).2.1).trans hb⟩,
    fun htransport ha ⟨hp, hb⟩ => ⟨hP.frame ha hp, htransport.trans hb⟩⟩

theorem off_pure (hP : Firm i P) (result : α) (h : Off i P s) :
    Safe (truth i) (fun _ => Off i P) (pure result : Op ι (TunConnection ι) α) s :=
  .done fun _ hu => h.others hP hu

theorem off_quiet (hP : Firm i P) {task : Op ι (TunConnection ι) α} (hquiet : Quiet task)
    (h : Off i P s) : Safe (truth i) (fun _ => Off i P) task s := by
  refine hquiet.safe (fun h hst => h.others hP hst) (fun hs h hst => ?_) h
  exact ⟨trivial, own_quiet hs (.inl hst.lock) hst.transport hst.around,
    by rw [hst.lock]; exact h.1, hP.frame hst.around h.2⟩

theorem within_quiet (hQ : FirmInside i Q) {task : Op ι (TunConnection ι) α}
    (hquiet : Quiet task) (h : Within i Q s) : Safe (truth i) (fun _ => Within i Q) task s := by
  refine hquiet.safe (fun h hst => h.others hQ hst) (fun hs h hst => ?_) h
  exact ⟨trivial, own_quiet hs (.inl hst.lock) hst.transport hst.around, hst.lock.trans h.1,
    hQ.frame hst.transport hst.around h.2⟩

/-- A store that leaves lock, channel and connection alone. -/
theorem off_store (hP : Firm i P) {point : Point} {change : TunSession ι → TunSession ι}
    (h : Off i P s)
    (hkeep : ∀ t, (change t).lock = t.lock ∧ (change t).transport = t.transport ∧
      (change t).around = t.around) :
    Safe (truth i) (fun _ => Off i P) (storeAt point change) s := by
  refine .atomic fun t ht _ => ?_
  obtain ⟨hl, htransport, ha⟩ := hkeep t
  have hoff := h.others hP ht
  have hafter : Off i P (change t) := ⟨by rw [hl]; exact hoff.1, hP.frame ha hoff.2⟩
  exact ⟨own_quiet ht.2 (.inl hl) htransport ha, fun u hu => hafter.others hP hu⟩

theorem off_lock (hP : Firm i P) (h : Off i P s) :
    Safe (truth i) (fun _ => Within i P) (lockTransport i) s := by
  refine .await fun t ht hfree _ => ?_
  have hfree : t.lock = none := by simpa using hfree
  have hoff := h.others hP ht
  have hin : Within i P { t with lock := some i } := ⟨rfl, hP.frame (s := t) rfl hoff.2⟩
  exact ⟨own_quiet ht.2 (.inr (.inl ⟨hfree, rfl⟩)) rfl rfl, fun u hu => hin.others hP.within hu⟩

/-- With the channel open the request may be sent; otherwise the tunnel is down. -/
theorem within_openChannel (hP : Firm i P) (connect : Bool) (h : Within i P s) :
    Safe (truth i) (fun found => match found.2 with
        | .ok () => Within i fun t => P t ∧ t.transport = true
        | .error _ => Within i (Down P True))
      (openChannel connect) s := by
  unfold openChannel
  refine Safe.atomic_bind fun t ht _ => ?_
  refine ⟨own_quiet ht.2 (.inl rfl) rfl rfl, ?_⟩
  have hin := h.others hP.within ht
  dsimp only [id]
  split
  · rename_i hopen
    have hopened : Within i (fun t => P t ∧ t.transport = true) t := ⟨hin.1, hin.2, hopen⟩
    exact .done fun u hu => hopened.others (hP.channel true) hu
  · rename_i hclosed
    have hclosed : t.transport = false := by simpa using hclosed
    have hdown : Within i (Down P True) t := ⟨hin.1, hin.2, fun _ => ht.2.channel hclosed⟩
    split
    · exact .done fun u hu => hdown.others (hP.down True) hu
    · refine (within_quiet (hP.down True) quiet_forget hdown).bind ht.2 fun _ u hu h => ?_
      refine Safe.question_bind fun v hv => ⟨trivial, fun w answer x hw hx => ?_⟩
      obtain rfl : w = x := Option.some.inj hx
      have h := (h.others (hP.down True) hv).others (hP.down True) hw
      refine ⟨own_quiet hw.2 (.inl rfl) rfl rfl, ?_⟩
      rcases answer with error | ⟨⟩
      · exact .done fun u hu => h.others (hP.down True) hu
      · refine Safe.atomic_bind fun x hx _ => ?_
        have h := h.others (hP.down True) hx
        refine ⟨own_transport hx.2 h.1 (h.2.2 trivial), .done fun u hu => ?_⟩
        have hopened : Within i (fun t => P t ∧ t.transport = true)
            { x with transport := true } := ⟨h.1, hP.frame (s := x) rfl h.2.1, rfl⟩
        exact hopened.others (hP.channel true) hu

/-- An answer after which the tunnel is off. -/
def Answer.off : Except ServiceError ServiceResponse → Bool
  | .error _ => true
  | .ok (.tunState actual) => !actual
  | .ok _ => false

/-- What a truthful answer makes of the tunnel. -/
theorem truthful_cases {command : ServiceCommand} {answer : Except ServiceError ServiceResponse}
    (h : truthful s (.request command) answer = some t) :
    ∃ b, t = s.mapAround (fun a => { a with tunnel := b }) ∧ (Answer.off answer = true → b = false) ∧
      (b = true → s.around.tunnel = true ∨ command = .setTun true) := by
  cases answer with
  | error error =>
    obtain rfl := Option.some.inj h
    exact ⟨false, rfl, fun _ => rfl, fun hup => by cases hup⟩
  | ok response =>
    simp only [truthful] at h
    cases response with
    | tunState actual =>
      simp only [truthfulResponse, Option.ite_none_right_eq_some, Option.some.injEq] at h
      obtain ⟨hactual, rfl⟩ := h
      refine ⟨actual, rfl, fun hoff => by simpa [Answer.off] using hoff, fun hup => ?_⟩
      rw [hup] at hactual
      exact hactual.imp Eq.symm id
    | status generationId xray mihomo tunOn failure =>
      simp only [truthfulResponse, Option.ite_none_right_eq_some, Option.some.injEq] at h
      obtain ⟨-, rfl⟩ := h
      exact ⟨s.around.tunnel, rfl, fun hoff => by simp [Answer.off] at hoff, .inl⟩
    | _ =>
      obtain rfl := Option.some.inj h
      exact ⟨s.around.tunnel, rfl, fun hoff => by simp [Answer.off] at hoff, .inl⟩

/-- The answer to the holder of the transport lock: when it says so, the tunnel is off. -/
theorem within_transmit (hP : Firm i P) (hblind : Blind P) {command : ServiceCommand}
    (hraise : ∀ t, P t → command = .setTun true → t.around.starting i = some .mihomo)
    (h : Within i (fun t => P t ∧ t.transport = true) s) :
    Safe (truth i) (fun answer => Within i (Down P (Answer.off answer = true)))
      (transmit command) s := by
  unfold transmit
  refine Safe.question_bind fun t ht => ⟨trivial, fun u answer v hu hv => ?_⟩
  have h := (h.others (hP.channel true) ht).others (hP.channel true) hu
  obtain ⟨b, rfl, hoff, hup⟩ := truthful_cases hv
  have hown : (truth i).Own u (u.mapAround fun a => { a with tunnel := b }) :=
    own_tunnel hu.2 h.1 (fun _ => h.2.2) fun hb => (hup hb).imp id (hraise u h.2.1)
  refine ⟨hown, ?_⟩
  have hdown : Within i (Down P (Answer.off answer = true))
      (u.mapAround fun a => { a with tunnel := b }) := ⟨h.1, hblind b u h.2.1, hoff⟩
  have hfirm : FirmInside i (Down P (Answer.off answer = true)) := hP.down _
  rcases answer with error | response
  · refine Safe.atomic_bind fun w hw _ => ?_
    have hdown := hdown.others hfirm hw
    have hown := own_transport (b := false) hw.2 hdown.1 (hdown.2.2 rfl)
    have hclosed : Within i (Down P (Answer.off (.error error) = true))
        { w with transport := false } :=
      ⟨hdown.1, hP.frame (s := w) rfl hdown.2.1, fun _ => hdown.2.2 rfl⟩
    refine ⟨hown, (within_quiet hfirm quiet_forget hclosed).bind hown.2 fun _ x _ h => ?_⟩
    exact .done fun y hy => h.others hfirm hy
  · exact .done fun w hw => hdown.others hfirm hw

end Contract

section Exchanges

variable {ι : Type} {i : ι} {s t : TunSession ι} {P Q : TunSession ι → Prop} {α : Type}

theorem Firm.and (hP : Firm i P) (hQ : Firm i Q) : Firm i fun s => P s ∧ Q s :=
  ⟨fun ⟨hp, hq⟩ hst ht => ⟨hP.others hp hst ht, hQ.others hq hst ht⟩,
    fun ha ⟨hp, hq⟩ => ⟨hP.frame ha hp, hQ.frame ha hq⟩⟩

theorem Firm.imp {p : Prop} (hP : Firm i P) : Firm i fun s => p → P s :=
  ⟨fun h hst ht hp => hP.others (h hp) hst ht, fun ha h hp => hP.frame ha (h hp)⟩

/-- While `i` is not dropped it holds the operation lock, nobody is starting Mihomo, and the
tunnel is off if `down`. -/
def Still (i : ι) (down : Prop) (s : TunSession ι) : Prop :=
  Alive i s → s.around.operation = some i ∧ (∀ j, s.around.starting j ≠ some .mihomo) ∧
    (down → s.around.tunnel = false)

/-- Nobody but the holder of the operation lock can end that. -/
theorem firm_still (i : ι) (down : Prop) : Firm i (Still i down) where
  others := by
    intro s t h hst _ halive
    obtain ⟨hop, hnone, hdown⟩ := h (hst.alive halive)
    obtain ⟨hop', -, hstart⟩ := hst.inside hop halive
    refine ⟨hop', fun j hj => ?_, fun hd => ?_⟩
    · by_cases hji : j = i
      · subst hji
        rw [hst.starting] at hj
        exact hnone j hj
      · exact hnone j (hstart j hji hj)
    · by_contra hup
      rcases hst.raises hop halive (eq_true_of_ne_false hup) with hs | ⟨j, -, hj⟩
      · simp [hdown hd] at hs
      · exact hnone j hj
  frame := by
    intro s t ha h
    simpa only [Still, Alive, ha] using h

theorem Still.imp {down down' : Prop} (h : Still i down s) (himp : down' → down) :
    Still i down' s :=
  fun halive => ⟨(h halive).1, (h halive).2.1, fun hd => (h halive).2.2 (himp hd)⟩

/-- What is made of an answer with the lock held; the results of which `T` holds mean that the
tunnel is off. -/
def RecordsTunnel (i : ι) (P : TunSession ι → Prop) (T : Except ServiceError α → Prop)
    (record : ServiceResponse → Op ι (TunConnection ι) α) : Prop :=
  ∀ answer s, Truthful s → Within i (Down P (Answer.off answer = true)) s →
    Safe (truth i) (fun result => Within i (Down P (T result))) (recorded record answer) s

/-- A quiet record concludes nothing about the tunnel. -/
theorem recordsTunnel_quiet (hP : Firm i P) {record : ServiceResponse → Op ι (TunConnection ι) α}
    (hquiet : ∀ response, Quiet (record response)) :
    RecordsTunnel i P (fun _ => False) record :=
  fun answer _ _ h => (within_quiet (hP.down _) (quiet_recorded hquiet answer) h).mono
    fun _ _ _ h => ⟨h.1, h.2.1, False.elim⟩

/-- `i` holds the operation lock, unless it was dropped, and its blocking thread starts `e`. -/
def Serving (i : ι) (e : Option Engine) (s : TunSession ι) : Prop :=
  (Alive i s → s.around.operation = some i) ∧ s.around.starting i = e

/-- The lock is given back; after a switch-off the condition on the run comes in. -/
theorem within_unlock (hP : Firm i P) {x : Exchange} {down : Prop}
    (hserve : x.purpose = .setTun false → ∀ t, P t → Serving i none t)
    (h : Within i (Down P down) s) :
    Safe (truth i) (fun _ => Off i fun t => P t ∧ (x.purpose = .setTun false → Still i down t))
      (unlockTransport x) s := by
  refine .atomic fun t ht hg => ?_
  have hin := h.others (hP.down down) ht
  have hg : Alive i t → x.purpose = .setTun false → NoneAbandoned t := hg
  refine ⟨own_quiet ht.2 (.inr (.inr ⟨hin.1, rfl⟩)) rfl rfl, fun u hu => ?_⟩
  refine Off.others (hP.and (firm_still i down).imp) ?_ hu
  refine ⟨by simp, hP.frame (s := t) rfl hin.2.1, fun hpurpose => ?_⟩
  have hstill : Still i down t := by
    intro halive
    obtain ⟨hop, hstarting⟩ := hserve hpurpose t hin.2.1
    refine ⟨hop halive, fun j hj => ?_, hin.2.2⟩
    rcases ht.2.starting j hj with hdropped | hholder
    · exact hg halive hpurpose j hdropped hj
    · rw [hop halive] at hholder
      cases hholder
      rw [hstarting] at hj
      cases hj
  exact (firm_still i down).frame (s := t) rfl hstill

/-- An exchange: afterwards `P` still holds, and a switch-off found what it reports. -/
theorem off_exchangeIf (hP : Firm i P) (hblind : Blind P) (purpose : Purpose)
    {command : ServiceCommand} (connect : Bool)
    {allowed : TunSession ι → Except ServiceError Unit}
    {record : ServiceResponse → Op ι (TunConnection ι) α} {T : Except ServiceError α → Prop}
    (hallowed : ∀ error t, allowed t = .error error → ¬T (.error error))
    (hrecord : RecordsTunnel i P T record)
    (hraise : ∀ t, P t → command = .setTun true → t.around.starting i = some .mihomo)
    (hserve : purpose = .setTun false → ∀ t, P t → Serving i none t)
    (h : Off i P s) (hs : Truthful s) :
    Safe (truth i) (fun result => Off i fun t =>
        P t ∧ (purpose = .setTun false → Still i (T result) t))
      (exchangeIf i purpose command connect allowed record) s := by
  have hfirm : ∀ result, Firm i fun t => P t ∧ (purpose = .setTun false → Still i (T result) t) :=
    fun result => hP.and (firm_still i (T result)).imp
  have hend : ∀ {x : Exchange} (result : Except ServiceError α) {t : TunSession ι},
      x.purpose = purpose → Truthful t → Within i (Down P (T result)) t →
        Safe (truth i) (fun result => Off i fun t =>
            P t ∧ (purpose = .setTun false → Still i (T result) t))
          (do unlockTransport x; return result : Op ι (TunConnection ι) _) t := by
    intro x result t hx ht h
    subst hx
    exact (within_unlock hP hserve h).bind ht fun _ u _ h =>
      .done fun v hv => h.others (hfirm result) hv
  unfold exchangeIf
  refine (off_lock hP h).bind hs fun _ t ht h => ?_
  refine Safe.atomic_bind fun t ht _ => ?_
  have hin := h.others hP.within ht
  refine ⟨own_quiet ht.2 (.inl rfl) rfl rfl, ?_⟩
  dsimp only [id]
  rcases hverdict : allowed t with error | ⟨⟩
  · exact hend _ rfl ht.2 ⟨hin.1, hin.2, fun hT => absurd hT (hallowed error t hverdict)⟩
  · refine (within_openChannel hP connect hin).bind ht.2 fun ⟨opened, result⟩ t ht h => ?_
    rcases result with error | ⟨⟩
    · exact hend _ rfl ht ⟨h.1, h.2.1, fun _ => h.2.2 trivial⟩
    · refine (within_transmit hP hblind hraise h).bind ht fun answer t ht h => ?_
      refine (hrecord answer t ht h).bind ht fun result t ht h => ?_
      exact hend _ rfl ht h

theorem off_poll (hP : Firm i P) (hblind : Blind P) (h : Off i P s) (hs : Truthful s) :
    Safe (truth i) (fun _ => Off i P) (poll i) s := by
  unfold poll exchange
  refine (off_exchangeIf hP hblind .poll false (fun _ _ hok => by cases hok)
    (recordsTunnel_quiet hP quiet_recordStatus) (fun _ _ hc => by cases hc)
    (fun hc => by cases hc) h hs).bind hs fun result t _ h => ?_
  have h : Off i P t := ⟨h.1, h.2.1⟩
  rcases result with error | ⟨⟩
  · refine .atomic fun u hu _ => ?_
    have hoff := h.others hP hu
    have hafter : Off i P { u with healthy := false } := ⟨hoff.1, hP.frame (s := u) rfl hoff.2⟩
    exact ⟨own_quiet hu.2 (.inl rfl) rfl rfl, fun v hv => hafter.others hP hv⟩
  · exact off_pure hP _ h

theorem off_prepareExchange (hP : Firm i P) (hblind : Blind P) (generation : Nat) (idle : Bool)
    (h : Off i P s) (hs : Truthful s) :
    Safe (truth i) (fun _ => Off i P) (prepareExchange i generation idle) s := by
  unfold prepareExchange
  refine (off_exchangeIf hP hblind (.prepare generation) true (fun _ _ _ => id)
    (recordsTunnel_quiet hP (quiet_recordPrepared generation)) (fun _ _ hc => by cases hc)
    (fun hc => by cases hc) h hs).bind hs fun result t ht h => ?_
  have h : Off i P t := ⟨h.1, h.2.1⟩
  dsimp only
  split
  · exact Safe.bind (off_store hP h fun _ => ⟨rfl, rfl, rfl⟩) ht fun _ t _ h => off_pure hP _ h
  · exact off_pure hP _ h

theorem off_prepareIf (hP : Firm i P) (hblind : Blind P) (generation : Nat) (idle : Bool)
    (h : Off i P s) (hs : Truthful s) :
    Safe (truth i) (fun _ => Off i P) (prepareIf i generation idle) s := by
  unfold prepareIf
  refine (off_quiet hP (quiet_load _) h).bind hs fun verdict t ht h => ?_
  rcases verdict with error | ⟨⟩
  · exact off_pure hP _ h
  · refine (off_quiet hP (quiet_load _) h).bind ht fun same t ht h => ?_
    split
    · refine (off_quiet hP (quiet_load _) h).bind ht fun healthy t ht h => ?_
      split
      · exact (off_quiet hP quiet_republish h).bind ht fun _ t _ h => off_pure hP _ h
      · exact off_prepareExchange hP hblind generation idle h ht
    · exact off_prepareExchange hP hblind generation idle h ht

/-- The results of a switch-off that mean the tunnel is off. -/
def SwitchedOff (result : Except ServiceError Unit) : Prop :=
  result = .ok () ∨ result = .error .disconnected

/-- A result that says no more about the tunnel than is known. -/
theorem within_done (hP : Firm i P) {d : Prop} {T : α → Prop} (result : α)
    (himp : T result → d) (h : Within i (Down P d) s) :
    Safe (truth i) (fun result => Within i (Down P (T result)))
      (pure result : Op ι (TunConnection ι) α) s := by
  refine .done fun u hu => ?_
  obtain ⟨hl, hp, hdown⟩ := h.others (hP.down d) hu
  exact ⟨hl, hp, fun hT => hdown (himp hT)⟩

theorem within_recordTunState (hP : Firm i P) (on actual : Bool)
    (h : Within i (Down P (actual = false)) s) :
    Safe (truth i) (fun result => Within i (Down P (on = false ∧ SwitchedOff result)))
      (recordTunState on (.tunState actual)) s := by
  refine Safe.atomic_bind fun t ht _ => ⟨own_quiet ht.2 (.inl rfl) rfl rfl, ?_⟩
  have h := h.others (hP.down _) ht
  have h : Within i (Down P (actual = false)) { t with tunOn := actual } :=
    ⟨h.1, hP.frame (s := t) rfl h.2.1, h.2.2⟩
  split
  · rename_i hsame
    exact within_done hP (T := fun result => on = false ∧ SwitchedOff result) _
      (fun hT => hsame.trans hT.1) h
  · have hno : ∀ error : ServiceError, error ≠ .disconnected →
        Safe (truth i) (fun result => Within i (Down P (on = false ∧ SwitchedOff result)))
          (pure (.error error) : Op ι (TunConnection ι) _) { t with tunOn := actual } :=
      fun error hne => within_done hP (T := fun result => on = false ∧ SwitchedOff result) _
        (fun hT => absurd hT.2 (by simp [SwitchedOff, hne])) h
    split
    · exact hno _ (by simp)
    · exact hno _ (by simp)

/-- Only `TunState{off}` and a dropped channel are taken for a tunnel that is off. -/
theorem recordsTunnel_tunState (hP : Firm i P) (on : Bool) :
    RecordsTunnel i P (fun result => on = false ∧ SwitchedOff (flatten result))
      (recordTunState on) := by
  intro answer s hs h
  have hdone := fun result himp => within_done hP (d := Answer.off answer = true)
    (T := fun result => on = false ∧ SwitchedOff (flatten result)) result himp h
  rcases answer with error | response
  · exact hdone _ fun _ => rfl
  · cases response with
    | tunState actual =>
      have h : Within i (Down P (actual = false)) s :=
        ⟨h.1, h.2.1, fun hoff => h.2.2 (by simp [Answer.off, hoff])⟩
      refine (within_recordTunState hP on actual h).bind hs fun result t _ h => ?_
      exact within_done hP (T := fun result => on = false ∧ SwitchedOff (flatten result)) _ id h
    | busy => exact hdone _ fun hT => absurd hT.2 (by simp [SwitchedOff, flatten])
    | error code => exact hdone _ fun hT => absurd hT.2 (by simp [SwitchedOff, flatten])
    | _ => exact hdone _ fun hT => absurd hT.2 (by simp [SwitchedOff, flatten])

/-- A switch of the tunnel; one to off leaves the tunnel as it reports. -/
theorem off_setTun (hP : Firm i P) (hblind : Blind P) (on : Bool)
    (hraise : ∀ t, P t → on = true → t.around.starting i = some .mihomo)
    (hserve : on = false → ∀ t, P t → Serving i none t) (h : Off i P s) (hs : Truthful s) :
    Safe (truth i) (fun result => Off i fun t => P t ∧ (on = false → Still i (SwitchedOff result) t))
      (setTun i on) s := by
  unfold setTun exchange
  refine (off_exchangeIf hP hblind (.setTun on) false (fun _ _ hok => by cases hok)
    (recordsTunnel_tunState hP on) (fun t hp hc => hraise t hp (by simpa using hc))
    (fun hc => hserve (by simpa using hc)) h hs).bind hs fun result t _ h => ?_
  refine .done fun u hu => Off.others (hP.and (firm_still i _).imp) ?_ hu
  refine ⟨h.1, h.2.1, fun hon => ?_⟩
  exact (h.2.2 (by rw [hon])).imp fun hoff => ⟨hon, hoff⟩

end Exchanges

section Controllers

variable {ι : Type} {i : ι} {s t : TunSession ι} {P : TunSession ι → Prop} {e : Option Engine}

/-- `Serving`, and no stop has returned success since `i` took the operation lock. -/
def Recent (i : ι) (e : Option Engine) (s : TunSession ι) : Prop :=
  Serving i e s ∧ (Alive i s → s.around.since i = s.around.stops)

theorem firm_serving (i : ι) (e : Option Engine) : Firm i (Serving i e) where
  others h hst _ :=
    ⟨fun halive => (hst.inside (h.1 (hst.alive halive)) halive).1, hst.starting.trans h.2⟩
  frame ha h := by simpa only [Serving, Alive, ha] using h

theorem firm_recent (i : ι) (e : Option Engine) : Firm i (Recent i e) where
  others := by
    rintro s t ⟨hserving, hsince⟩ hst ht
    refine ⟨(firm_serving i e).others hserving hst ht, fun halive => ?_⟩
    have hstops := (hst.inside (hserving.1 (hst.alive halive)) halive).2.1
    rw [hst.since, hstops]
    exact hsince (hst.alive halive)
  frame ha h := by simpa only [Recent, Serving, Alive, ha] using h

theorem blind_serving (i : ι) (e : Option Engine) : Blind (Serving i e) := fun _ _ h => h

theorem blind_recent (i : ι) (e : Option Engine) : Blind (Recent i e) := fun _ _ h => h

theorem off_claim (hP : Firm i P) (generation : Nat) (h : Off i P s) (hs : Truthful s) :
    Safe (truth i) (fun _ => Off i P) (claim i generation) s := by
  unfold claim
  refine (off_lock hP h).bind hs fun _ t ht h => ?_
  refine Safe.atomic_bind fun t ht _ => ?_
  have hin := h.others hP.within ht
  have hown : (truth i).Own t { t with owner := some generation } :=
    own_quiet ht.2 (.inl rfl) rfl rfl
  refine ⟨hown, .atomic fun u hu _ => ?_⟩
  have hin : Within i P { t with owner := some generation } :=
    ⟨hin.1, hP.frame (s := t) rfl hin.2⟩
  have hin := hin.others hP.within hu
  have hoff : Off i P { u with lock := none } := ⟨by simp, hP.frame (s := u) rfl hin.2⟩
  exact ⟨own_quiet hu.2 (.inr (.inr ⟨hin.1, rfl⟩)) rfl rfl, fun v hv => hoff.others hP hv⟩

theorem off_claimAndPrepare (hP : Firm i P) (hblind : Blind P) (generation : Nat)
    (h : Off i P s) (hs : Truthful s) :
    Safe (truth i) (fun _ => Off i P) (claimAndPrepare i generation) s := by
  unfold claimAndPrepare releaseClaim
  refine (off_claim hP generation h hs).bind hs fun _ t ht h => ?_
  refine (off_prepareIf hP hblind generation false h ht).bind ht fun result t ht h => ?_
  rcases result with error | ⟨⟩
  · exact Safe.bind (off_store hP h fun _ => ⟨rfl, rfl, rfl⟩) ht fun _ t _ h => off_pure hP _ h
  · exact off_pure hP _ h

/-- Only this switches the tunnel on. -/
theorem off_switchOn (h : Off i (Recent i (some .mihomo)) s) (hs : Truthful s) :
    Safe (truth i) (fun _ => Off i (Recent i (some .mihomo))) (switchOn i) s := by
  have hP := firm_recent i (some .mihomo)
  unfold switchOn setInUse
  refine (off_setTun hP (blind_recent i _) true (fun t hp _ => hp.1.2) (fun hon => by cases hon)
    h hs).bind hs fun result t ht h => ?_
  replace h : Off i (Recent i (some .mihomo)) t := ⟨h.1, h.2.1⟩
  rcases result with error | ⟨⟩
  · exact off_pure hP _ h
  · exact Safe.bind (off_store hP h fun _ => ⟨rfl, rfl, rfl⟩) ht fun _ t _ h => off_pure hP _ h

/-- What a stop that returned `result` leaves. -/
def Stopped (i : ι) (result : Except ServiceError Unit) (s : TunSession ι) : Prop :=
  Serving i none s ∧ Still i (result = .ok ()) s

theorem firm_stopped (i : ι) (result : Except ServiceError Unit) : Firm i (Stopped i result) :=
  (firm_serving i none).and (firm_still i _)

/-- A refused switch-off counts as done only where the condition on the run says the tunnel is
off. -/
theorem off_stopRefused (error : ServiceError) {down : Prop}
    (h : Off i (fun t => Serving i none t ∧ Still i down t) s) :
    Safe (truth i) (fun result => Off i (Stopped i result)) (stopRefused error) s := by
  have hP : Firm i fun t => Serving i none t ∧ Still i down t :=
    (firm_serving i none).and (firm_still i down)
  have hok : ∀ {t}, Off i (fun t => Serving i none t ∧ Still i down t) t →
      (Alive i t → t.around.tunnel = false) →
        Safe (truth i) (fun result => Off i (Stopped i result))
          (pure (.ok ()) : Op ι (TunConnection ι) _) t := by
    intro t h hoff
    refine .done fun u hu => Off.others (firm_stopped i _) ⟨h.1, h.2.1, fun halive => ?_⟩ hu
    exact ⟨(h.2.2 halive).1, (h.2.2 halive).2.1, fun _ => hoff halive⟩
  unfold stopRefused
  refine Safe.atomic_bind fun t ht hg => ⟨own_quiet ht.2 (.inl rfl) rfl rfl, ?_⟩
  have hg : Alive i t → t.healthy = false → t.around.tunnel = false := hg
  have h := h.others hP ht
  dsimp only [id]
  split
  · refine Safe.atomic_bind fun u hu hg => ⟨own_quiet hu.2 (.inl rfl) rfl rfl, ?_⟩
    have hg : Alive i u → u.prepared = none → u.around.tunnel = false := hg
    have h := h.others hP hu
    dsimp only [id]
    split
    · refine .done fun v hv => Off.others (firm_stopped i _) ⟨h.1, h.2.1, h.2.2.imp ?_⟩ hv
      intro hok
      cases hok
    · rename_i hnone
      exact hok h fun halive => hg halive (by simpa using hnone)
  · rename_i hunhealthy
    exact hok h fun halive => hg halive (by simpa using hunhealthy)

theorem off_switchOff (h : Off i (Serving i none) s) (hs : Truthful s) :
    Safe (truth i) (fun result => Off i (Stopped i result)) (switchOff i) s := by
  have hP := firm_serving i none
  unfold switchOff setInUse releaseClaim
  refine (off_setTun hP (blind_serving i _) false (fun _ _ hon => by cases hon) (fun _ _ hp => hp)
    h hs).bind hs fun result t ht h => ?_
  have hfirm : Firm i fun t => Serving i none t ∧ Still i (SwitchedOff result) t :=
    hP.and (firm_still i _)
  have h : Off i (fun t => Serving i none t ∧ Still i (SwitchedOff result) t) t :=
    ⟨h.1, h.2.1, h.2.2 rfl⟩
  refine Safe.bind (off_store hfirm h fun _ => ⟨rfl, rfl, rfl⟩) ht fun _ t ht h => ?_
  refine Safe.bind (off_store hfirm h fun _ => ⟨rfl, rfl, rfl⟩) ht fun _ t ht h => ?_
  split
  · refine .done fun u hu => Off.others (firm_stopped i _) ⟨h.1, h.2.1, h.2.2.imp fun _ => ?_⟩ hu
    exact .inl rfl
  · refine .done fun u hu => Off.others (firm_stopped i _) ⟨h.1, h.2.1, h.2.2.imp fun _ => ?_⟩ hu
    exact .inr rfl
  · exact off_stopRefused _ h

end Controllers

end MultiCore.Daemon
