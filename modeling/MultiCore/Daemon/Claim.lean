import MultiCore.Daemon.Connection
import MultiCore.Daemon.Quiet

/-!
# Connections, warm-ups and the claim on the session

A Connect claims the session under the transport lock before it prepares, and
everything that sets or drops a claim runs inside the daemon's operation lock.
A warm-up looks at the claim again with the transport lock held, so between that
look and its `Prepare` nobody can claim. Whoever gives the operation lock back
leaves a claim behind only with a connection that is up.
-/

namespace MultiCore.Daemon

open Cooperative

section Contract

variable {ι : Type}

/-- A free operation lock leaves no claim without a connection that is up. -/
def Released (s : ServiceSession ι (Connection ι)) : Prop :=
  s.around.operation = none → s.owner = none ∨ s.around.state = .connected

/-- A Connect prepares the generation that it has claimed, and a warm-up no other generation than a
claimed one. -/
def MayAsk : ConnectionRequest → Question → ServiceSession ι (Connection ι) → Prop
  | .connect carrier, .request (.prepare generation), s =>
    generation = carrier.generation ∧ s.owner = some generation
  | .warmUp _, .request (.prepare generation), s => ∀ owner, s.owner = some owner → generation = owner
  | _, _, _ => True

/-- Only a Connect claims, and only the generation that it connects with. -/
def MayClaim (kind : ConnectionRequest) (generation : Nat) : Prop :=
  ∃ carrier, kind = .connect carrier ∧ carrier.generation = generation

/-- Claims are released by a Disconnect, and by a Connect that has not come up. -/
def MayRelease (kind : ConnectionRequest) (connection : Connection ι) : Prop :=
  kind = .disconnect ∨ (∃ carrier, kind = .connect carrier) ∧ connection.state = .connecting

/-- What a section does to the claim. -/
def ClaimStep (i : ι) (kind : ConnectionRequest) :
    Point → ServiceSession ι (Connection ι) → ServiceSession ι (Connection ι) → Prop
  | .claiming generation, s, t =>
    MayClaim kind generation ∧ s.around.operation = some i ∧ t.around = s.around ∧
      s.owner = none ∧ t.owner = some generation
  | .releasing, s, t =>
    MayRelease kind s.around ∧ s.around.operation = some i ∧ t.owner = none
  | _, s, t => t.owner = s.owner

/-- What one step of a request may do to lock, claim and connection. -/
structure StepOf (i : ι) (s t : ServiceSession ι (Connection ι)) : Prop where
  away : s.lock ≠ some i → t.lock = s.lock ∨ s.lock = none ∧ t.lock = some i
  holding : s.lock = some i → t.lock = some i ∨ t.lock = none
  owner : t.owner = s.owner ∨ s.around.operation = some i ∧ (t.owner = none ∨ s.lock = some i)
  outside : s.around.operation ≠ some i → t.around = s.around ∨
    s.around.operation = none ∧ t.around.operation = some i ∧ t.around.state = s.around.state
  inside : s.around.operation = some i → t.around.operation = some i ∨ t.around.operation = none
  up : s.around.state = .connected → s.owner ≠ none → t.around.state = .connected

/-- What the other requests may have done meanwhile. -/
structure OthersOf (i : ι) (s t : ServiceSession ι (Connection ι)) : Prop where
  away : s.lock ≠ some i → t.lock ≠ some i
  holding : s.lock = some i → t.lock = some i ∧ (t.owner = s.owner ∨ t.owner = none)
  outside : s.around.operation ≠ some i → t.around.operation ≠ some i
  inside : s.around.operation = some i → t.around = s.around ∧ t.owner = s.owner

/-- The contract of a request on lock, claim and connection. -/
def claiming (i : ι) (kind : ConnectionRequest) :
    Contract Point Question Answer (ServiceSession ι (Connection ι)) where
  inv := Released
  rely := OthersOf i
  guar := StepOf i
  asks := MayAsk kind
  grants _ _ := True
  answers _ _ s t := t = s
  shows := ClaimStep i kind
  rely_refl _ := ⟨id, fun h => ⟨h, .inl rfl⟩, id, fun _ => ⟨rfl, rfl⟩⟩
  rely_trans := by
    intro s t u h k
    refine ⟨fun hs => k.away (h.away hs), fun hs => ?_, fun hs => k.outside (h.outside hs),
      fun hs => ?_⟩
    · obtain ⟨hl, ho⟩ := h.holding hs
      obtain ⟨hl', ho'⟩ := k.holding hl
      refine ⟨hl', ?_⟩
      rcases ho' with ho' | ho'
      · exact ho.imp (fun e => ho'.trans e) fun e => ho'.trans e
      · exact .inr ho'
    · obtain ⟨ha, ho⟩ := h.inside hs
      obtain ⟨ha', ho'⟩ := k.inside (by rw [ha]; exact hs)
      exact ⟨ha'.trans ha, ho'.trans ho⟩

/-- A step of one request is what the others rely on. -/
theorem othersOf_of_stepOf {i j : ι} {s t : ServiceSession ι (Connection ι)} (hne : i ≠ j)
    (h : StepOf i s t) : OthersOf j s t where
  away hj := by
    by_cases hi : s.lock = some i
    · rcases h.holding hi with hl | hl <;> simp [hl, hne]
    · rcases h.away hi with hl | ⟨-, hl⟩
      · rwa [hl]
      · simp [hl, hne]
  holding hj := by
    have hi : s.lock ≠ some i := by simp [hj, Ne.symm hne]
    refine ⟨?_, ?_⟩
    · rcases h.away hi with hl | ⟨hl, -⟩
      · exact hl.trans hj
      · simp [hj] at hl
    · rcases h.owner with ho | ⟨-, ho | ho⟩
      · exact .inl ho
      · exact .inr ho
      · exact absurd ho hi
  outside hj := by
    by_cases hi : s.around.operation = some i
    · rcases h.inside hi with hl | hl <;> simp [hl, hne]
    · rcases h.outside hi with ha | ⟨-, ha, -⟩
      · rwa [ha]
      · simp [ha, hne]
  inside hj := by
    have hi : s.around.operation ≠ some i := by simp [hj, Ne.symm hne]
    refine ⟨?_, ?_⟩
    · rcases h.outside hi with ha | ⟨ha, -, -⟩
      · exact ha
      · simp [hj] at ha
    · rcases h.owner with ho | ⟨ho, -⟩
      · exact ho
      · exact absurd ho hi

/-- A step that leaves the claim and the connection alone. -/
theorem own_frame {i : ι} {kind : ConnectionRequest} {s t : ServiceSession ι (Connection ι)}
    (hs : Released s) (hl : t.lock = s.lock ∨ s.lock = none ∧ t.lock = some i ∨
      s.lock = some i ∧ t.lock = none)
    (ho : t.owner = s.owner) (ha : t.around = s.around) : (claiming i kind).Own s t := by
  refine ⟨⟨fun hne => ?_, fun hi => ?_, .inl ho, fun _ => .inl ha,
    fun hi => .inl (by rw [ha]; exact hi), fun hup _ => by rw [ha]; exact hup⟩, fun hfree => ?_⟩
  · rcases hl with hl | hl | ⟨hl, -⟩
    · exact .inl hl
    · exact .inr hl
    · exact absurd hl hne
  · rcases hl with hl | ⟨hl, -⟩ | ⟨-, hl⟩
    · exact .inl (hl.trans hi)
    · simp [hi] at hl
    · exact .inr hl
  · rw [ho, ha]
    exact hs (ha ▸ hfree)

/-- A property of claim and connection that the others leave alone. -/
structure Kept (i : ι) (kind : ConnectionRequest) (P : ServiceSession ι (Connection ι) → Prop) :
    Prop where
  others : ∀ {s t}, P s → (claiming i kind).Others s t → P t
  frame : ∀ {s t}, t.owner = s.owner → t.around = s.around → P s → P t

/-- Away from the transport lock, with `P`. -/
def Away (i : ι) (P : ServiceSession ι (Connection ι) → Prop)
    (s : ServiceSession ι (Connection ι)) : Prop :=
  s.lock ≠ some i ∧ P s

/-- With the transport lock, and `P`. -/
def Inside (i : ι) (P : ServiceSession ι (Connection ι) → Prop)
    (s : ServiceSession ι (Connection ι)) : Prop :=
  s.lock = some i ∧ P s

variable {i : ι} {kind : ConnectionRequest} {P Q : ServiceSession ι (Connection ι) → Prop}
  {s t : ServiceSession ι (Connection ι)} {α : Type}

/-- What is known away from the lock survives the others. -/
theorem Away.others (hP : Kept i kind P) (h : Away i P s) (hst : (claiming i kind).Others s t) :
    Away i P t :=
  ⟨hst.1.away h.1, hP.others h.2 hst⟩

/-- Quiet tasks away from the lock keep what is known. -/
theorem away_quiet (hP : Kept i kind P) {task : DaemonOp ι α} (hquiet : Quiet task)
    (h : Away i P s) : Safe (claiming i kind) (fun _ => Away i P) task s := by
  refine hquiet.safe (fun h hst => h.others hP hst) (fun hs h hst => ?_) h
  exact ⟨hst.owner, own_frame hs (.inl hst.lock) hst.owner hst.around,
    by rw [hst.lock]; exact h.1, hP.frame hst.owner hst.around h.2⟩

/-- What is known with the lock held survives the others. -/
structure KeptInside (i : ι) (kind : ConnectionRequest)
    (Q : ServiceSession ι (Connection ι) → Prop) : Prop where
  others : ∀ {s t}, s.lock = some i → Q s → (claiming i kind).Others s t → Q t
  frame : ∀ {s t}, t.owner = s.owner → t.around = s.around → Q s → Q t

/-- What is kept anywhere is kept with the lock held. -/
theorem Kept.inside (hP : Kept i kind P) : KeptInside i kind P :=
  ⟨fun _ h hst => hP.others h hst, hP.frame⟩

/-- What is known with the lock held survives the others, who do not take it. -/
theorem Inside.others (hQ : KeptInside i kind Q) (h : Inside i Q s)
    (hst : (claiming i kind).Others s t) : Inside i Q t :=
  ⟨(hst.1.holding h.1).1, hQ.others h.1 h.2 hst⟩

/-- Quiet tasks with the lock held keep what is known. -/
theorem inside_quiet (hQ : KeptInside i kind Q) {task : DaemonOp ι α} (hquiet : Quiet task)
    (h : Inside i Q s) : Safe (claiming i kind) (fun _ => Inside i Q) task s := by
  refine hquiet.safe (fun h hst => h.others hQ hst) (fun hs h hst => ?_) h
  exact ⟨hst.owner, own_frame hs (.inl hst.lock) hst.owner hst.around,
    by rw [hst.lock]; exact h.1, hQ.frame hst.owner hst.around h.2⟩

/-- A store that leaves lock, claim and connection alone. -/
theorem inside_store (hQ : KeptInside i kind Q)
    {change : ServiceSession ι (Connection ι) → ServiceSession ι (Connection ι)}
    (h : Inside i Q s)
    (hkeep : ∀ t, (change t).lock = t.lock ∧ (change t).owner = t.owner ∧
      (change t).around = t.around) :
    Safe (claiming i kind) (fun _ => Inside i Q) (store change) s := by
  refine .atomic_shows fun t ht _ => ?_
  obtain ⟨hl, ho, ha⟩ := hkeep t
  have hin := h.others hQ ht
  refine ⟨ho, own_frame ht.2 (.inl hl) ho ha, fun u hu => ?_⟩
  exact Inside.others hQ ⟨hl.trans hin.1, hQ.frame ho ha hin.2⟩ hu

/-- A question that may be asked, with the lock held. -/
theorem inside_question (hQ : KeptInside i kind Q) {q : Question}
    (hask : ∀ t, Inside i Q t → MayAsk kind q t) (h : Inside i Q s) :
    Safe (claiming i kind) (fun _ => Inside i Q) (Task.question q) s := by
  refine fun t ht => ⟨hask t (h.others hQ ht), fun u a v hu hv => ?_⟩
  obtain rfl : v = u := hv
  exact ⟨own_frame hu.2 (.inl rfl) rfl rfl, fun w hw => ((h.others hQ ht).others hQ hu).others hQ hw⟩

/-- A question to the service keeps what is known, where it may be asked. -/
theorem away_question (hP : Kept i kind P) {q : Question}
    (hask : ∀ t, P t → MayAsk kind q t)
    (h : Away i P s) : Safe (claiming i kind) (fun _ => Away i P) (Task.question q) s := by
  refine fun t ht => ⟨hask t (h.others hP ht).2, fun u a v hu hv => ?_⟩
  obtain rfl : v = u := hv
  exact ⟨own_frame hu.2 (.inl rfl) rfl rfl, fun w hw => ((h.others hP ht).others hP hu).others hP hw⟩

/-- The transport lock is taken with what is known. -/
theorem away_lock (hP : Kept i kind P) (h : Away i P s) :
    Safe (claiming i kind) (fun _ => Inside i P) (lockTransport i) s := by
  refine .await_shows fun t ht hfree _ => ?_
  have hfree : t.lock = none := by simpa using hfree
  have haway := h.others hP ht
  refine ⟨rfl, own_frame ht.2 (.inr (.inl ⟨hfree, rfl⟩)) rfl rfl, fun u hu => ?_⟩
  refine Inside.others hP.inside ?_ hu
  exact ⟨rfl, hP.frame (s := t) rfl rfl haway.2⟩

/-- It is given back with what is known. -/
theorem inside_unlock (hP : Kept i kind P) {x : Exchange} (h : Inside i P s) :
    Safe (claiming i kind) (fun _ => Away i P) (unlockTransport x) s := by
  refine .atomic_shows fun t ht _ => ?_
  have hin := h.others hP.inside ht
  refine ⟨rfl, own_frame ht.2 (.inr (.inr ⟨hin.1, rfl⟩)) rfl rfl, fun u hu => ?_⟩
  refine Away.others hP ?_ hu
  exact ⟨by simp, hP.frame (s := t) rfl rfl hin.2⟩

/-- A channel is opened without a command. -/
theorem inside_openChannel (hQ : KeptInside i kind Q) (connect : Bool) (h : Inside i Q s)
    (hs : Released s) :
    Safe (claiming i kind) (fun _ => Inside i Q) (openChannel connect) s := by
  unfold openChannel
  refine (inside_quiet hQ (quiet_load _) h).bind hs fun transport t ht h => ?_
  split
  · exact .done fun u hu => h.others hQ hu
  · split
    · exact .done fun u hu => h.others hQ hu
    · refine (inside_quiet hQ quiet_forget h).bind ht fun _ t ht h => ?_
      refine (inside_question hQ (fun t _ => ?_) h).bind ht fun result t ht h => ?_
      · cases kind <;> trivial
      rcases result with error | ⟨⟩
      · exact .done fun u hu => h.others hQ hu
      · refine Safe.bind (inside_store hQ h fun _ => ⟨rfl, rfl, rfl⟩) ht fun _ t _ h => ?_
        exact .done fun u hu => h.others hQ hu

/-- A command is sent, where it may be asked. -/
theorem inside_transmit (hQ : KeptInside i kind Q) {command : ServiceCommand}
    (hask : ∀ t, Inside i Q t → MayAsk kind (.request command) t) (h : Inside i Q s)
    (hs : Released s) :
    Safe (claiming i kind) (fun _ => Inside i Q) (transmit command) s := by
  unfold transmit
  refine (inside_question hQ hask h).bind hs fun answer t ht h => ?_
  rcases answer with error | response
  · refine Safe.bind (inside_store hQ h fun _ => ⟨rfl, rfl, rfl⟩) ht fun _ t ht h => ?_
    refine (inside_quiet hQ quiet_forget h).bind ht fun _ t _ h => ?_
    exact .done fun u hu => h.others hQ hu
  · exact .done fun u hu => h.others hQ hu

/-- An exchange keeps what is known of claim and connection. With the lock held, what `allowed`
established may be used to justify the request. -/
theorem away_exchangeIf (hP : Kept i kind P) (hQ : KeptInside i kind Q) (purpose : Purpose)
    {command : ServiceCommand} (connect : Bool)
    {allowed : ServiceSession ι (Connection ι) → Except ServiceError Unit}
    {record : ServiceResponse → DaemonOp ι α} (hrecord : ∀ response, Quiet (record response))
    (hallowed : ∀ t, P t → allowed t = .ok () → Q t) (hkept : ∀ t, Q t → P t)
    (hask : ∀ t, Inside i Q t → MayAsk kind (.request command) t)
    (h : Away i P s) (hs : Released s) :
    Safe (claiming i kind) (fun _ => Away i P)
      (exchangeIf i purpose command connect allowed record) s := by
  have hend : ∀ {x : Exchange} (result : Except ServiceError α)
      {t : ServiceSession ι (Connection ι)}, Released t → Inside i P t →
        Safe (claiming i kind) (fun _ => Away i P)
          (do unlockTransport x; return result : DaemonOp ι (Except ServiceError α)) t := by
    intro x result t ht h
    exact (inside_unlock hP h).bind ht fun _ t _ h => .done fun u hu => h.others hP hu
  unfold exchangeIf
  refine (away_lock hP h).bind hs fun _ t ht h => ?_
  refine Safe.atomic_bind_shows fun t ht _ => ?_
  have hin := h.others hP.inside ht
  refine ⟨rfl, own_frame ht.2 (.inl rfl) rfl rfl, ?_⟩
  dsimp only [id]
  rcases hverdict : allowed t with error | ⟨⟩
  · exact hend _ ht.2 hin
  · have hin' : Inside i Q t := ⟨hin.1, hallowed t hin.2 hverdict⟩
    refine (inside_openChannel hQ connect hin' ht.2).bind ht.2 fun ⟨opened, result⟩ t ht h => ?_
    rcases result with error | ⟨⟩
    · exact hend _ ht ⟨h.1, hkept t h.2⟩
    · refine (inside_transmit hQ hask h ht).bind ht fun answer t ht h => ?_
      refine (inside_quiet hQ (quiet_recorded hrecord answer) h).bind ht fun result t ht h => ?_
      exact hend _ ht ⟨h.1, hkept t h.2⟩

/-- Ends an operation away from the lock. -/
theorem away_pure (hP : Kept i kind P) (result : α) (h : Away i P s) :
    Safe (claiming i kind) (fun _ => Away i P) (pure result : DaemonOp ι α) s :=
  .done fun _ hu => h.others hP hu

/-- A kind of request that may prepare the generation where `P` holds, for a warm-up by the rule of
warm-ups. -/
def MayPrepare (kind : ConnectionRequest) (P : ServiceSession ι (Connection ι) → Prop)
    (generation : Nat) (idle : Bool) : Prop :=
  (∃ warmed, kind = .warmUp warmed) ∧ idle = true ∨
    ∀ t, P t → MayAsk kind (.request (.prepare generation)) t

/-- A warm-up that was let through, or a Connect, prepares its own generation. -/
theorem away_prepareExchange (hP : Kept i kind P) (generation : Nat) (idle : Bool)
    (hkind : MayPrepare kind P generation idle)
    (h : Away i P s) (hs : Released s) :
    Safe (claiming i kind) (fun _ => Away i P) (prepareExchange i generation idle) s := by
  have hQ : KeptInside i kind fun t =>
      P t ∧ (idle = true → ∀ owner, t.owner = some owner → generation = owner) := by
    refine ⟨fun hl ⟨hp, hown⟩ hst => ⟨hP.others hp hst, fun hidle owner ho => ?_⟩,
      fun ho ha ⟨hp, hown⟩ => ⟨hP.frame ho ha hp, by rwa [ho]⟩⟩
    rcases (hst.1.holding hl).2 with he | he
    · exact hown hidle owner (he ▸ ho)
    · simp [he] at ho
  unfold prepareExchange
  refine (away_exchangeIf hP hQ _ _ (quiet_recordPrepared generation) (fun t hp hok => ?_)
    (fun t hq => hq.1) (fun t hin => ?_) h hs).bind hs fun found t ht h => ?_
  · refine ⟨hp, fun hidle owner ho => ?_⟩
    simp only [idleAllowed, hidle, ho, Option.any_some, Bool.true_and] at hok
    by_contra hne
    simp [Ne.symm hne] at hok
  · rcases hkind with ⟨⟨warmed, rfl⟩, hidle⟩ | hask
    · exact hin.2.2 hidle
    · exact hask t hin.2.1
  · dsimp only
    split
    · refine Safe.bind (away_quiet hP (quiet_store fun _ => ⟨rfl, rfl, rfl, rfl⟩) h) ht fun _ t _ h => ?_
      exact away_pure hP _ h
    · exact away_pure hP _ h

/-- A Prepare, for the claim or for none. -/
theorem away_prepareIf (hP : Kept i kind P) (generation : Nat) (idle : Bool)
    (hkind : MayPrepare kind P generation idle)
    (h : Away i P s) (hs : Released s) :
    Safe (claiming i kind) (fun _ => Away i P) (prepareIf i generation idle) s := by
  unfold prepareIf
  refine (away_quiet hP (quiet_load _) h).bind hs fun verdict t ht h => ?_
  rcases verdict with error | ⟨⟩
  · exact away_pure hP _ h
  · refine (away_quiet hP (quiet_load _) h).bind ht fun same t ht h => ?_
    split
    · refine (away_quiet hP (quiet_load _) h).bind ht fun healthy t ht h => ?_
      split
      · exact (away_quiet hP quiet_republish h).bind ht fun _ t _ h => away_pure hP _ h
      · exact away_prepareExchange hP generation idle hkind h ht
    · exact away_prepareExchange hP generation idle hkind h ht

/-- A switch of the tunnel asks nothing that a claim forbids. -/
theorem away_setTun (hP : Kept i kind P) (on : Bool) (h : Away i P s) (hs : Released s) :
    Safe (claiming i kind) (fun _ => Away i P) (setTun i on) s := by
  unfold setTun exchange
  refine (away_exchangeIf hP hP.inside _ _ (quiet_recordTunState on) (fun t hp _ => hp)
    (fun t hp => hp) (fun t _ => ?_) h hs).bind hs fun _ t _ h => away_pure hP _ h
  cases kind <;> trivial

/-- A quiet section at a place of its own. -/
theorem away_loadAt (hP : Kept i kind P) {point : Point} (hpoint : ∀ t, ClaimStep i kind point t t)
    (look : ServiceSession ι (Connection ι) → α) (h : Away i P s) :
    Safe (claiming i kind) (fun _ => Away i P) (loadAt point look) s :=
  .atomic_shows fun t ht _ =>
    ⟨hpoint t, own_frame ht.2 (.inl rfl) rfl rfl, fun _ hu => (h.others hP ht).others hP hu⟩

end Contract

section Claims

variable {ι : Type} {i : ι} {kind : ConnectionRequest} {s t : ServiceSession ι (Connection ι)}
  {a : Connection ι} {α : Type}

/-- The connection is `a`, and the claim is `owner`. -/
def Holds (a : Connection ι) (owner : Option Nat) (s : ServiceSession ι (Connection ι)) : Prop :=
  s.around = a ∧ s.owner = owner

/-- With the operation lock held, nobody else changes connection or claim. -/
theorem kept_holds (ha : a.operation = some i) (owner : Option Nat) :
    Kept i kind (Holds a owner) where
  others := by
    rintro s t ⟨hs, ho⟩ hst
    obtain ⟨hs', ho'⟩ := hst.1.inside (by rw [hs]; exact ha)
    exact ⟨hs'.trans hs, ho'.trans ho⟩
  frame := by
    rintro s t ho ha ⟨hs, ho'⟩
    exact ⟨ha.trans hs, ho.trans ho'⟩

/-- With the operation lock held and the transport lock free of `i`, whatever the claim. -/
def Claimed (i : ι) (a : Connection ι) (s : ServiceSession ι (Connection ι)) : Prop :=
  ∃ owner, Away i (Holds a owner) s

/-- The same, without a claim. -/
def Unclaimed (i : ι) (a : Connection ι) (s : ServiceSession ι (Connection ι)) : Prop :=
  Away i (Holds a none) s

/-- No claim is one of the cases. -/
theorem Unclaimed.claimed (h : Unclaimed i a s) : Claimed i a s := ⟨none, h⟩

/-- The same, with a claim on the generation. -/
def Owned (i : ι) (a : Connection ι) (generation : Nat)
    (s : ServiceSession ι (Connection ι)) : Prop :=
  Away i (Holds a (some generation)) s

/-- A claim on the generation is one of the cases. -/
theorem Owned.claimed {generation : Nat} (h : Owned i a generation s) : Claimed i a s :=
  ⟨some generation, h⟩

/-- Steps of the holder of the operation lock may set and drop the claim. -/
theorem own_claim (ha : a.operation = some i) (hl : t.lock = s.lock)
    (haround : s.around = a) (hsame : t.around = s.around)
    (ho : t.owner = none ∨ s.lock = some i) : (claiming i kind).Own s t := by
  refine ⟨⟨fun _ => .inl hl, fun hi => .inl (hl.trans hi), .inr ⟨by rw [haround]; exact ha, ho⟩,
    fun _ => .inl hsame, fun hi => .inl (by rw [hsame]; exact hi),
    fun hup _ => by rw [hsame]; exact hup⟩, fun hfree => ?_⟩
  rw [hsame, haround, ha] at hfree
  cases hfree

/-- Whoever holds the operation lock may give the claim back. -/
theorem claimed_release (ha : a.operation = some i) (hmay : MayRelease kind a)
    (h : Claimed i a s) :
    Safe (claiming i kind) (fun _ => Unclaimed i a) releaseClaim s := by
  obtain ⟨owner, h⟩ := h
  refine .atomic_shows fun t ht _ => ?_
  have haway := h.others (kept_holds ha owner) ht
  have hop : t.around.operation = some i := by rw [haway.2.1]; exact ha
  have hmay : MayRelease kind t.around := by rw [haway.2.1]; exact hmay
  refine ⟨⟨hmay, hop, rfl⟩, own_claim ha rfl haway.2.1 rfl (.inl rfl), fun u hu => ?_⟩
  refine Away.others (kept_holds ha none) ?_ hu
  exact ⟨haway.1, haway.2.1, rfl⟩

/-- A claim is taken where there is none, and is there when the transport lock is given back. -/
theorem unclaimed_claim (ha : a.operation = some i) {generation : Nat}
    (hmay : MayClaim kind generation) (h : Unclaimed i a s) (hs : Released s) :
    Safe (claiming i kind) (fun _ => Owned i a generation) (claim i generation) s := by
  have hkept : Kept i kind (Holds a (some generation)) := kept_holds ha (some generation)
  unfold claim
  refine (away_lock (kept_holds ha none) h).bind hs fun _ t _ h => ?_
  refine Safe.atomic_bind_shows fun t ht _ => ?_
  have hin := h.others (kept_holds ha none).inside ht
  have hop : t.around.operation = some i := by rw [hin.2.1]; exact ha
  refine ⟨⟨hmay, hop, rfl, hin.2.2, rfl⟩, own_claim ha rfl hin.2.1 rfl (.inr hin.1), ?_⟩
  refine .atomic_shows fun u hu _ => ?_
  have hin' : Inside i (Holds a (some generation)) u := by
    refine Inside.others hkept.inside ?_ hu
    exact ⟨hin.1, hin.2.1, rfl⟩
  refine ⟨rfl, own_frame hu.2 (.inr (.inr ⟨hin'.1, rfl⟩)) rfl rfl, fun v hv => ?_⟩
  refine Away.others hkept ?_ hv
  exact ⟨by simp, hin'.2⟩

/-- An operation that leaves claim and connection alone, whatever the claim. -/
theorem claimed_of_away {task : DaemonOp ι α} (h : Claimed i a s)
    (htask : ∀ owner, Away i (Holds a owner) s →
      Safe (claiming i kind) (fun _ => Away i (Holds a owner)) task s) :
    Safe (claiming i kind) (fun _ => Claimed i a) task s := by
  obtain ⟨owner, h⟩ := h
  exact (htask owner h).mono fun _ t _ h => ⟨owner, h⟩

/-- An answer needs no step. -/
theorem claimed_pure (ha : a.operation = some i) (result : α) (h : Claimed i a s) :
    Safe (claiming i kind) (fun _ => Claimed i a) (pure result : DaemonOp ι α) s :=
  claimed_of_away h fun owner h => away_pure (kept_holds ha owner) result h

/-- What the stops of a controller do about claims: stopping Xray leaves none. -/
structure DropsClaims {E : Type} (i : ι) (kind : ConnectionRequest) (a : Connection ι)
    (controller : ProcessController (DaemonOp ι) E) : Prop where
  stopXray : ∀ {s}, Released s → Claimed i a s →
    Safe (claiming i kind) (fun _ => Unclaimed i a) (controller.stop .xray) s
  stopMihomo : ∀ {s}, Released s → Claimed i a s →
    Safe (claiming i kind) (fun _ => Claimed i a) (controller.stop .mihomo) s

/-- What the starts of a controller do about claims: starting Xray takes one, unless it fails. -/
structure TakesClaims {E : Type} (i : ι) (kind : ConnectionRequest) (a : Connection ι)
    (generation : Nat) (controller : ProcessController (DaemonOp ι) E) : Prop where
  startXray : ∀ {s}, Released s → Unclaimed i a s →
    Safe (claiming i kind) (fun result t => (result = .ok () → Owned i a generation t) ∧
      (result ≠ .ok () → Unclaimed i a t)) (controller.start .xray) s
  startMihomo : ∀ {s}, Released s → Owned i a generation s →
    Safe (claiming i kind) (fun _ => Claimed i a) (controller.start .mihomo) s

variable {E : Type} {controller : ProcessController (DaemonOp ι) E}

/-- The claim is left alone while the operation lock is held. -/
theorem Claimed.others (ha : a.operation = some i) (h : Claimed i a s)
    (hst : (claiming i kind).Others s t) : Claimed i a t := by
  obtain ⟨owner, h⟩ := h
  exact ⟨owner, h.others (kept_holds ha owner) hst⟩

/-- A task that ends without a claim, with any result. -/
theorem unclaimed_pure {post : α → ServiceSession ι (Connection ι) → Prop}
    (ha : a.operation = some i) (result : α) (h : Unclaimed i a s)
    (hpost : ∀ t, Unclaimed i a t → post result t) :
    Safe (claiming i kind) post (pure result : DaemonOp ι α) s :=
  .done fun t ht => hpost t (Away.others (kept_holds ha none) h ht)

/-- A connection that does not come up leaves no claim. -/
theorem TakesClaims.connect {generation : Nat} (hc : TakesClaims i kind a generation controller)
    (hd : DropsClaims i kind a controller) (ha : a.operation = some i) (hs : Released s)
    (h : Unclaimed i a s) :
    Safe (claiming i kind) (fun result t => Claimed i a t ∧ (result ≠ .ok () → Unclaimed i a t))
      (Supervisor.connect controller) s := by
  have hnone : ∀ (result : Except SupervisorError Unit) {t}, Unclaimed i a t →
      Safe (claiming i kind) (fun result t => Claimed i a t ∧ (result ≠ .ok () → Unclaimed i a t))
        (pure result : DaemonOp ι _) t :=
    fun result {t} h => unclaimed_pure ha result h fun t h => ⟨h.claimed, fun _ => h⟩
  unfold Supervisor.connect
  refine (hc.startXray hs h).bind hs fun xray t ht ⟨hstarted, hfailed⟩ => ?_
  rcases xray with error | ⟨⟩
  · exact hnone _ (hfailed (by simp))
  · refine (hc.startMihomo ht (hstarted rfl)).bind ht fun mihomo t ht h => ?_
    rcases mihomo with error | ⟨⟩
    · unfold Supervisor.rollBack
      exact (hd.stopXray ht h).bind ht fun xray t _ h => hnone _ h
    · exact .done fun u hu => ⟨h.others ha hu, fun hne => absurd rfl hne⟩

/-- A connection that is stopped leaves no claim, also when stopping failed. -/
theorem DropsClaims.disconnect (hd : DropsClaims i kind a controller) (ha : a.operation = some i)
    (hs : Released s) (h : Claimed i a s) :
    Safe (claiming i kind) (fun _ => Unclaimed i a) (Supervisor.disconnect controller) s := by
  unfold Supervisor.disconnect
  refine (hd.stopMihomo hs h).bind hs fun mihomo t ht h => ?_
  exact (hd.stopXray ht h).bind ht fun xray t _ h => unclaimed_pure ha _ h fun t h => h

/-- A Connect prepares what it has claimed. -/
theorem mayPrepare_owned {generation : Nat} (hmay : MayClaim kind generation) :
    MayPrepare kind (Holds a (some generation)) generation false := by
  obtain ⟨carrier, rfl, hgeneration⟩ := hmay
  exact .inr fun t hp => ⟨hgeneration.symm, hp.2⟩

/-- The Prepare of a Connect leaves its claim. -/
theorem owned_prepare {generation : Nat} (hmay : MayClaim kind generation)
    (ha : a.operation = some i) (hs : Released s) (h : Owned i a generation s) :
    Safe (claiming i kind) (fun _ => Owned i a generation) (prepare i generation) s :=
  away_prepareIf (kept_holds ha _) generation false (mayPrepare_owned hmay) h hs

/-- A switch of the tunnel leaves the claim. -/
theorem claimed_setTun (ha : a.operation = some i) (on : Bool) (hs : Released s)
    (h : Claimed i a s) : Safe (claiming i kind) (fun _ => Claimed i a) (setTun i on) s :=
  claimed_of_away h fun owner h => away_setTun (kept_holds ha owner) on h hs

/-- Quiet tasks leave the claim. -/
theorem claimed_quiet (ha : a.operation = some i) {task : DaemonOp ι α} (hquiet : Quiet task)
    (h : Claimed i a s) : Safe (claiming i kind) (fun _ => Claimed i a) task s :=
  claimed_of_away h fun owner h => away_quiet (kept_holds ha owner) hquiet h

/-- A question other than a request to the service. -/
theorem claimed_question (ha : a.operation = some i) {q : Question}
    (hq : ∀ t : ServiceSession ι (Connection ι), MayAsk kind q t) (h : Claimed i a s) :
    Safe (claiming i kind) (fun _ => Claimed i a) (Task.question q) s :=
  claimed_of_away h fun owner h => away_question (kept_holds ha owner) (fun t _ => hq t) h

/-- The claim stays after a successful Prepare and goes after a failed one. -/
theorem unclaimed_claimAndPrepare {generation : Nat} (hmay : MayClaim kind generation)
    (hrelease : MayRelease kind a) (ha : a.operation = some i) (hs : Released s)
    (h : Unclaimed i a s) :
    Safe (claiming i kind) (fun result t => (result = .ok () → Owned i a generation t) ∧
      (result ≠ .ok () → Unclaimed i a t)) (claimAndPrepare i generation) s := by
  unfold claimAndPrepare
  refine (unclaimed_claim ha hmay h hs).bind hs fun _ t ht h => ?_
  refine (owned_prepare hmay ha ht h).bind ht fun result t ht h => ?_
  rcases result with error | ⟨⟩
  · refine (claimed_release ha hrelease h.claimed).bind ht fun _ t _ h => ?_
    exact unclaimed_pure ha _ h fun t h => ⟨fun hok => absurd hok (by simp), fun _ => h⟩
  · exact .done fun u hu => ⟨fun _ => Away.others (kept_holds ha _) h hu, fun hne => absurd rfl hne⟩

/-- The switch-on of a Connect leaves the claim. -/
theorem claimed_switchOn (ha : a.operation = some i) (hs : Released s) (h : Claimed i a s) :
    Safe (claiming i kind) (fun _ => Claimed i a) (switchOn i) s := by
  unfold switchOn setInUse
  refine (claimed_setTun ha true hs h).bind hs fun result t ht h => ?_
  rcases result with error | ⟨⟩
  · exact claimed_pure ha _ h
  · refine Safe.bind (claimed_quiet ha (quiet_store fun _ => ⟨rfl, rfl, rfl, rfl⟩) h) ht fun _ t _ h => ?_
    exact claimed_pure ha _ h

/-- A stop that was refused leaves the claim. -/
theorem claimed_stopRefused (ha : a.operation = some i) (error : ServiceError) (hs : Released s)
    (h : Claimed i a s) : Safe (claiming i kind) (fun _ => Claimed i a) (stopRefused error) s := by
  have hlook : ∀ {t} (point : Point) (look : ServiceSession ι (Connection ι) → Bool),
      (∀ u, ClaimStep i kind point u u) → Claimed i a t →
        Safe (claiming i kind) (fun _ => Claimed i a) (loadAt point look) t :=
    fun _ look hpoint h => claimed_of_away h fun owner h =>
      away_loadAt (kept_holds ha owner) hpoint look h
  unfold stopRefused
  refine (hlook .refusedHealthy _ (fun _ => rfl) h).bind hs fun healthy t ht h => ?_
  split
  · refine (hlook .refusedPrepared _ (fun _ => rfl) h).bind ht fun prepared t ht h => ?_
    split <;> exact claimed_pure ha _ h
  · exact claimed_pure ha _ h

/-- The claim goes with the tunnel. -/
theorem claimed_switchOff (hmay : MayRelease kind a) (ha : a.operation = some i) (hs : Released s)
    (h : Claimed i a s) :
    Safe (claiming i kind) (fun _ => Claimed i a) (switchOff i) s := by
  unfold switchOff setInUse
  refine (claimed_setTun ha false hs h).bind hs fun result t ht h => ?_
  refine Safe.bind (claimed_quiet ha (quiet_store fun _ => ⟨rfl, rfl, rfl, rfl⟩) h) ht fun _ t ht h => ?_
  refine (claimed_release ha hmay h).bind ht fun _ t ht h => ?_
  have h := h.claimed
  split
  · exact claimed_pure ha _ h
  · exact claimed_pure ha _ h
  · exact claimed_stopRefused ha _ ht h

/-- The tunnel's controller gives the claim back when it stops. -/
theorem dropsClaims_tun (hmay : MayRelease kind a) (ha : a.operation = some i)
    (generation : Nat) : DropsClaims i kind a (serviceTunController i generation false) where
  stopXray hs h := (claimed_release ha hmay h).bind hs fun _ _ _ h =>
    unclaimed_pure ha _ h fun _ h => h
  stopMihomo hs h := claimed_switchOff hmay ha hs h

/-- It claims the generation of its Connect when it starts. -/
theorem takesClaims_tun {generation : Nat} (hclaim : MayClaim kind generation)
    (hmay : MayRelease kind a) (ha : a.operation = some i) :
    TakesClaims i kind a generation (serviceTunController i generation false) where
  startXray hs h := unclaimed_claimAndPrepare hclaim hmay ha hs h
  startMihomo hs h := claimed_switchOn ha hs h.claimed

/-- The controller of the cores gives the claim back when it stops. -/
theorem dropsClaims_cores (hmay : MayRelease kind a) (ha : a.operation = some i)
    (generation : Nat) : DropsClaims i kind a (serviceCoresController i generation) where
  stopXray hs h := (claimed_release ha hmay h).bind hs fun _ _ _ h =>
    unclaimed_pure ha _ h fun _ h => h
  stopMihomo := by
    intro s hs h
    refine Safe.bind (claimed_quiet ha (quiet_store fun _ => ⟨rfl, rfl, rfl, rfl⟩) h) hs fun _ t ht h => ?_
    exact (claimed_release ha hmay h).bind ht fun _ t _ h => claimed_pure ha _ h.claimed

/-- It claims the generation of its Connect when it starts. -/
theorem takesClaims_cores {generation : Nat} (hclaim : MayClaim kind generation)
    (hmay : MayRelease kind a) (ha : a.operation = some i) :
    TakesClaims i kind a generation (serviceCoresController i generation) where
  startXray hs h := unclaimed_claimAndPrepare hclaim hmay ha hs h
  startMihomo := by
    intro s hs h
    change Safe _ _ (prepareWithoutTunnel i generation) s
    unfold prepareWithoutTunnel setInUse
    refine (owned_prepare hclaim ha hs h).bind hs fun result t ht h => ?_
    rcases result with error | ⟨⟩
    · exact claimed_pure ha _ h.claimed
    · refine (claimed_setTun ha false ht h.claimed).bind ht fun result t ht h => ?_
      rcases result with error | ⟨⟩
      · exact claimed_pure ha _ h
      · refine Safe.bind (claimed_quiet ha (quiet_store fun _ => ⟨rfl, rfl, rfl, rfl⟩) h) ht fun _ t _ h => ?_
        exact claimed_pure ha _ h

/-- The system proxy around a controller leaves this as it is. -/
theorem DropsClaims.systemProxy (hd : DropsClaims i kind a controller)
    (ha : a.operation = some i) : DropsClaims i kind a (systemProxyController controller) where
  stopXray hs h := (hd.stopXray hs h).bind hs fun _ _ _ h =>
    unclaimed_pure ha _ h fun _ h => h
  stopMihomo hs h := (hd.stopMihomo hs h).bind hs fun _ _ _ h => claimed_pure ha _ h

/-- Pointing the system proxy at Mihomo adds nothing to claims. -/
theorem TakesClaims.systemProxy {generation : Nat}
    (hc : TakesClaims i kind a generation controller) (hd : DropsClaims i kind a controller)
    (ha : a.operation = some i) (happly : ∀ t : ServiceSession ι (Connection ι),
      MayAsk kind .applyProxy t) :
    TakesClaims i kind a generation (systemProxyController controller) where
  startXray := by
    intro s hs h
    change Safe _ _ (startProxied controller .xray) s
    unfold startProxied
    refine (hc.startXray hs h).bind hs fun result t ht ⟨hstarted, hfailed⟩ => ?_
    rcases result with error | ⟨⟩
    · exact unclaimed_pure ha _ (hfailed (by simp)) fun t h => ⟨fun hok => absurd hok (by simp), fun _ => h⟩
    · exact .done fun u hu =>
        ⟨fun _ => Away.others (kept_holds ha _) (hstarted rfl) hu, fun hne => absurd rfl hne⟩
  startMihomo := by
    intro s hs h
    change Safe _ _ (startProxied controller .mihomo) s
    unfold startProxied
    refine (hc.startMihomo hs h).bind hs fun result t ht h => ?_
    rcases result with error | ⟨⟩
    · exact claimed_pure ha _ h
    · refine Safe.bind (claimed_question ha happly h) ht fun applied t ht h => ?_
      split
      · exact claimed_pure ha _ h
      · exact (hd.stopMihomo ht h).bind ht fun _ t _ h => claimed_pure ha _ h

/-- A Connect over any carrier has a claim when it succeeds and none when it fails. -/
theorem Carrier.safe_connect (carrier : Carrier) (hkind : kind = .connect carrier)
    (ha : a.operation = some i) (hstate : a.state = .connecting) (hs : Released s)
    (h : Unclaimed i a s) :
    Safe (claiming i kind) (fun result t => Claimed i a t ∧ (result ≠ .ok () → Unclaimed i a t))
      (carrier.connect i) s := by
  have hmay : MayRelease kind a := .inr ⟨⟨carrier, hkind⟩, hstate⟩
  cases carrier with
  | tun generation =>
    exact (takesClaims_tun ⟨_, hkind, rfl⟩ hmay ha).connect (dropsClaims_tun hmay ha _) ha hs h
  | proxy generation =>
    have hdrops := dropsClaims_cores hmay ha generation
    have happly : ∀ t : ServiceSession ι (Connection ι), MayAsk kind .applyProxy t := by
      rw [hkind]
      exact fun _ => trivial
    exact ((takesClaims_cores ⟨_, hkind, rfl⟩ hmay ha).systemProxy hdrops ha happly).connect
      (hdrops.systemProxy ha) ha hs h

/-- A Disconnect over any carrier leaves no claim. -/
theorem Carrier.safe_disconnect (hmay : MayRelease kind a) (ha : a.operation = some i)
    (carrier : Carrier) (hs : Released s) (h : Claimed i a s) :
    Safe (claiming i kind) (fun _ => Unclaimed i a) (carrier.disconnect i) s := by
  cases carrier with
  | tun generation => exact (dropsClaims_tun hmay ha generation).disconnect ha hs h
  | proxy generation =>
    exact ((dropsClaims_cores hmay ha generation).systemProxy ha).disconnect ha hs h

end Claims

section Requests

variable {ι : Type} {i : ι} {kind : ConnectionRequest} {s t : ServiceSession ι (Connection ι)}
  {a : Connection ι} {owner : Option Nat} {α : Type}

/-- The request holds neither lock. -/
def Free (i : ι) (s : ServiceSession ι (Connection ι)) : Prop :=
  s.lock ≠ some i ∧ s.around.operation ≠ some i

/-- The request holds the operation lock, and may give it back. -/
def Ended (i : ι) (s : ServiceSession ι (Connection ι)) : Prop :=
  s.lock ≠ some i ∧ s.around.operation = some i ∧ (s.owner = none ∨ s.around.state = .connected)

/-- A request that holds no lock is not given one by the others. -/
theorem Free.others (h : Free i s) (hst : OthersOf i s t) : Free i t :=
  ⟨hst.away h.1, hst.outside h.2⟩

/-- The end of a request survives the others. -/
theorem Ended.others (h : Ended i s) (hst : (claiming i kind).Others s t) : Ended i t := by
  obtain ⟨hs, ho⟩ := hst.1.inside h.2.1
  exact ⟨hst.1.away h.1, by rw [hs]; exact h.2.1, by rw [hs, ho]; exact h.2.2⟩

/-- Without a claim the operation lock may be given back. -/
theorem ended_of_unclaimed (ha : a.operation = some i) (h : Unclaimed i a s) : Ended i s :=
  ⟨h.1, by rw [h.2.1]; exact ha, .inl h.2.2⟩

/-- An answer needs no step. -/
theorem ended_pure (result : α) (h : Ended i s) :
    Safe (claiming i kind) (fun _ => Ended i) (pure result : DaemonOp ι α) s :=
  .done fun _ hu => h.others hu

/-- A change of the connection by the holder of the operation lock. -/
theorem holds_change (change : Connection ι → Connection ι) (look : Connection ι → α)
    (hkeep : ∀ b, (change b).operation = b.operation)
    (hup : a.state = .connected → owner ≠ none → (change a).state = .connected)
    (ha : a.operation = some i) (h : Away i (Holds a owner) s) :
    Safe (claiming i kind)
      (fun found t => Away i (Holds (change a) owner) t ∧ found = look a)
      (Task.atomic .plain (fun s => { s with around := change s.around }) fun s => look s.around)
      s := by
  refine .atomic_shows fun t ht _ => ?_
  obtain ⟨hl, haround, ho⟩ := h.others (kept_holds ha owner) ht
  have ha' : (change a).operation = some i := (hkeep a).trans ha
  refine ⟨rfl, ⟨⟨fun _ => .inl rfl, fun hi => absurd hi hl, .inl rfl, fun hne => ?_,
    fun _ => .inl ?_, fun hstate hclaim => ?_⟩, fun hfree => ?_⟩, fun u hu => ⟨?_, by rw [haround]⟩⟩
  · exact absurd (by rw [haround]; exact ha) hne
  · change (change t.around).operation = some i
    rw [haround, ha']
  · change (change t.around).state = .connected
    rw [haround] at hstate ⊢
    rw [ho] at hclaim
    exact hup hstate hclaim
  · change (change t.around).operation = none at hfree
    rw [haround, ha'] at hfree
    cases hfree
  · refine Away.others (kept_holds ha' owner) ?_ hu
    exact ⟨hl, by rw [haround], ho⟩

/-- Moving the connection state with no claim. -/
theorem unclaimed_move (ha : a.operation = some i) (next : ConnectionState) (h : Unclaimed i a s) :
    Safe (claiming i kind) (fun _ => Ended i) (move next) s := by
  refine (holds_change (fun b => { b with state := b.state.moved next })
    (fun b => b.state.allows next) (fun _ => rfl) (fun _ hne => absurd rfl hne) ha h).mono
      fun _ t _ ⟨h, _⟩ => ?_
  exact ended_of_unclaimed (a := { a with state := a.state.moved next }) ha h

/-- A connection that came up may keep its claim. -/
theorem claimed_connected (ha : a.operation = some i) (hstate : a.state = .connecting)
    (h : Claimed i a s) :
    Safe (claiming i kind) (fun _ => Ended i) (move .connected) s := by
  obtain ⟨owner, h⟩ := h
  refine (holds_change (fun b => { b with state := b.state.moved .connected })
    (fun b => b.state.allows .connected) (fun _ => rfl) (fun hup => by simp [hstate] at hup)
      ha h).mono fun _ t _ ⟨h, _⟩ => ?_
  refine ⟨h.1, ?_, .inr ?_⟩
  · rw [h.2.1]
    exact ha
  · rw [h.2.1]
    simp [hstate, ConnectionState.moved, ConnectionState.transition, ConnectionState.allows]

/-- A Connect that is undone leaves no claim. -/
theorem ended_undoConnect (hmay : MayRelease kind a) (ha : a.operation = some i)
    (carrier : Carrier) (hs : Released s) (h : Claimed i a s) :
    Safe (claiming i kind) (fun _ => Ended i) (undoConnect i carrier) s := by
  unfold undoConnect
  refine (carrier.safe_disconnect hmay ha hs h).bind hs fun result t ht h => ?_
  rcases result with error | ⟨⟩
  · exact (unclaimed_move ha _ h).bind ht fun _ t _ h => ended_pure _ h
  · exact (unclaimed_move ha _ h).bind ht fun _ t _ h => ended_pure _ h

/-- Whatever the supervisor answered, a Connect ends without a claim or with a connection up. -/
theorem ended_settleConnect (carrier : Carrier) (hkind : kind = .connect carrier)
    (ha : a.operation = some i) (hstate : a.state = .connecting)
    (result : Except SupervisorError Unit) (hs : Released s) (h : Claimed i a s)
    (hfailed : result ≠ .ok () → Unclaimed i a s) :
    Safe (claiming i kind) (fun _ => Ended i) (settleConnect i carrier result) s := by
  unfold settleConnect
  split
  · have hreplay : Safe (claiming i kind) (fun _ => Claimed i a) replaySelections s := by
      refine claimed_question ha (fun t => ?_) h
      rw [hkind]
      trivial
    refine hreplay.bind hs fun applied t ht h => ?_
    split
    · exact claimed_connected ha hstate h
    · exact ended_undoConnect (.inr ⟨⟨carrier, hkind⟩, hstate⟩) ha carrier ht h
  · exact (unclaimed_move ha _ (hfailed (by simp))).bind hs fun _ t _ h => ended_pure _ h
  · exact (unclaimed_move ha _ (hfailed (by simp))).bind hs fun _ t _ h => ended_pure _ h

/-- A Connect under the lock ends with a connection or without a claim. -/
theorem ended_connectLocked (carrier : Carrier) (hkind : kind = .connect carrier)
    (h : Ended i s) :
    Safe (claiming i kind) (fun _ => Ended i) (connectLocked i carrier) s := by
  unfold connectLocked
  refine Safe.atomic_bind_shows fun t ht _ => ?_
  have h := h.others ht
  refine ⟨rfl, own_frame ht.2 (.inl rfl) rfl rfl, ?_⟩
  dsimp only [id]
  have ht := ht.2
  split
  · rename_i hready
    have hnone : t.owner = none := by
      rcases h.2.2 with ho | hup
      · exact ho
      · simp [hready] at hup
    have haway : Away i (Holds t.around none) t := ⟨h.1, rfl, hnone⟩
    refine (holds_change (fun b => { b with
        controller := some carrier, state := b.state.moved .connecting })
      (fun b => b.state.allows .connecting) (fun _ => rfl) (fun _ hne => absurd rfl hne) h.2.1
        haway).bind ht fun allowed u hu ⟨h', hallowed⟩ => ?_
    have hop : ({ t.around with
        controller := some carrier
        state := t.around.state.moved .connecting } : Connection ι).operation = some i := h.2.1
    split
    · have hstate : t.around.state.moved .connecting = .connecting := by
        simp [hready, ConnectionState.moved, ConnectionState.transition, ConnectionState.allows]
      refine (carrier.safe_connect hkind hop hstate hu h').bind hu fun result v hv ⟨hc, hf⟩ => ?_
      exact ended_settleConnect carrier hkind hop hstate result hv hc hf
    · exact ended_pure _ (ended_of_unclaimed hop h')
  · exact ended_pure _ h

/-- A Disconnect under the lock ends without a claim, or with the connection still up. -/
theorem ended_disconnectLocked (h : Ended i s) :
    Safe (claiming i .disconnect) (fun _ => Ended i) (disconnectLocked i) s := by
  unfold disconnectLocked
  refine Safe.atomic_bind_shows fun t ht _ => ?_
  have h := h.others ht
  refine ⟨rfl, own_frame ht.2 (.inl rfl) rfl rfl, ?_⟩
  dsimp only [id]
  split
  · exact ended_pure _ h
  · split
    · exact ended_pure _ h
    · rename_i carrier _
      have hclaimed : Claimed i t.around t := ⟨t.owner, h.1, rfl, rfl⟩
      unfold stopConnection
      refine (carrier.safe_disconnect (.inl rfl) h.2.1 ht.2 hclaimed).bind ht.2
        fun result u hu h' => ?_
      rcases result with error | ⟨⟩
      · exact (unclaimed_move h.2.1 _ h').bind hu fun _ v _ h => ended_pure _ h
      · exact unclaimed_move h.2.1 _ h'

/-- The operation lock around an operation that ends well. -/
theorem free_locked {task : DaemonOp ι α} (h : Free i s)
    (htask : ∀ {t}, Ended i t → Safe (claiming i kind) (fun _ => Ended i) task t) :
    Safe (claiming i kind) (fun _ => Free i)
      (do lockOperation i; let result ← task; unlockOperation; return result) s := by
  refine Safe.await_bind_shows fun t ht hfree _ => ?_
  have hfree : t.around.operation = none := by simpa using hfree
  have hapart := h.others ht.1
  have hended : Ended i
      { t with around := { t.around with operation := some i } } := ⟨hapart.1, rfl, ht.2 hfree⟩
  have hinv : Released { t with around := { t.around with operation := some i } } :=
    fun hnone => by cases hnone
  refine ⟨rfl, ⟨⟨fun _ => .inl rfl, fun hi => absurd hi hapart.1, .inl rfl,
    fun _ => .inr ⟨hfree, rfl, rfl⟩, fun hi => absurd hi hapart.2, fun hup _ => hup⟩, hinv⟩, ?_⟩
  refine (htask hended).bind hinv fun result u hu h => ?_
  refine Safe.atomic_bind_shows fun v hv _ => ?_
  have h := h.others hv
  refine ⟨rfl, ⟨⟨fun _ => .inl rfl, fun hi => absurd hi h.1, .inl rfl,
    fun hne => absurd h.2.1 hne, fun _ => .inr rfl, fun hup _ => hup⟩, fun _ => h.2.2⟩,
    .done fun w hw => ?_⟩
  refine Free.others ?_ hw.1
  exact ⟨h.1, by simp⟩

/-- A Connect claims and releases inside the operation lock. -/
theorem free_connectNow (carrier : Carrier) (h : Free i s) :
    Safe (claiming i (.connect carrier)) (fun _ => Free i) (connectNow i carrier) s :=
  free_locked h fun h => ended_connectLocked carrier rfl h

/-- A Disconnect gives its lock back. -/
theorem free_disconnectNow (h : Free i s) :
    Safe (claiming i .disconnect) (fun _ => Free i) (disconnectNow i) s :=
  free_locked h fun h => ended_disconnectLocked h

/-- A warm-up prepares, when nobody else has a claim, and claims nothing. -/
theorem free_warmUp (generation : Nat) (h : Free i s) (hs : Released s) :
    Safe (claiming i (.warmUp generation)) (fun _ => Free i) (warmUp i generation) s := by
  have hP : Kept i (.warmUp generation)
      fun t : ServiceSession ι (Connection ι) => t.around.operation ≠ some i :=
    ⟨fun h hst => hst.1.outside h, fun _ ha h => by rwa [ha]⟩
  have hprep : Safe (claiming i (.warmUp generation))
      (fun _ => Away i fun t => t.around.operation ≠ some i)
      ((serviceTunController i generation true).start .xray) s :=
    away_prepareIf hP generation true (.inl ⟨⟨_, rfl⟩, rfl⟩) h hs
  unfold warmUp
  refine hprep.bind hs fun result t _ h => ?_
  rcases result with error | ⟨⟩ <;> exact away_pure hP _ h

end Requests

section Runs

variable {ι : Type} [DecidableEq ι]

omit [DecidableEq ι] in
/-- Connects, Disconnects and warm-ups fit together. -/
theorem fits_claiming :
    Fits (connectionSystem ι) Released Free claiming (fun i _ _ => Free i) (fun _ _ => True) where
  inv_eq _ _ := rfl
  guar_rely _ _ _ _ hne _ _ h := othersOf_of_stepOf hne h
  idle_rely _ _ _ _ _ h hrely := h.others hrely
  begin := by
    intro i kind s hs h _
    refine ⟨hs, fun j l _ => (claiming j l).rely_refl s, ?_⟩
    cases kind with
    | connect carrier => exact free_connectNow carrier h
    | disconnect => exact free_disconnectNow h
    | warmUp generation => exact free_warmUp generation h hs
  finish i k r s hs h := ⟨hs, h, fun j l _ => (claiming j l).rely_refl s⟩
  change w := nomatch w

/-- The session with its requests. -/
abbrev ConnectionConfig (ι : Type) :=
  Config ι ConnectionRequest Point Question Answer (ServiceSession ι (Connection ι)) Bool

/-- A step of Connects, Disconnects and warm-ups. -/
abbrev ConnectionEdge (ι : Type) :=
  Transition.Edge (ConnectionConfig ι) (Label ι ConnectionRequest Point Question Answer Bool Empty)

/-- A daemon in Ready or Empty, without requests and without a channel. -/
def idleDaemon (ι : Type) (state : ConnectionState) : ConnectionConfig ι :=
  ⟨.new ⟨none, state, none⟩, fun _ => none⟩

/-- Every request keeps its contract. -/
abbrev AllClaiming (c : ConnectionConfig ι) : Prop :=
  AllSafe Released Free claiming (fun i _ _ => Free i) c

omit [DecidableEq ι] in
/-- The outside changes nothing, so every step of it is granted. -/
theorem granted_claiming (e : ConnectionEdge ι) :
    Granted (connectionSystem ι) claiming (fun _ _ => True) e := by
  cases hl : e.label <;> simp only [Granted, hl]
  case ran i kind point => trivial
  case answered i kind question answer =>
    intro t ht
    exact (Option.some.inj ht).symm

omit [DecidableEq ι] in
/-- A daemon that starts is safe, with no request under way. -/
theorem allClaiming_idle (state : ConnectionState) : AllClaiming (idleDaemon ι state) :=
  ⟨fun _ => .inl rfl, fun i _ => by simp [Free, idleDaemon, ServiceSession.new],
    fun i k task h => by simp [idleDaemon] at h⟩

/-- A claim is released. -/
def Releases (e : ConnectionEdge ι) : Prop :=
  ∃ i kind, e.label = .ran i kind .releasing

/-- The same, as it can be computed. -/
def isRelease : Label ι ConnectionRequest Point Question Answer Bool Empty → Bool
  | .ran _ _ .releasing => true
  | _ => false

omit [DecidableEq ι] in
/-- A release is told from its label. -/
theorem isRelease_of_releases {e : ConnectionEdge ι} (h : Releases e) : isRelease e.label = true := by
  obtain ⟨i, kind, hl⟩ := h
  rw [hl]
  rfl

/-- The claim of the Connect of `i` is in place: the connection is up, or the Connect is still
under way. -/
def Stands (i : ι) (carrier : Carrier) (c : ConnectionConfig ι) : Prop :=
  c.shared.owner = some carrier.generation ∧
    (c.shared.around.state = .connected ∨
      c.shared.around.operation = some i ∧ ∃ task, c.task i = some (.connect carrier, task))

/-- A section that is not the one of a release leaves a claim in place. -/
theorem stands_ran {i j : ι} {carrier : Carrier} {c d : ConnectionConfig ι}
    {kind : ConnectionRequest} {point : Point} (hsafe : AllClaiming c) (h : Stands i carrier c)
    (hstep : (connectionSystem ι).Step c (.ran j kind point) d) (hpoint : point ≠ .releasing) :
    Stands i carrier d := by
  have hgrant := granted_claiming ⟨c, .ran j kind point, d⟩
  have hguar := hsafe.ran fits_claiming hstep hgrant
  have hshows := hsafe.shows fits_claiming hstep hgrant
  have hinv := (hsafe.step fits_claiming hstep hgrant).inv
  obtain ⟨howner, hplace⟩ := h
  have hkept : d.shared.owner = some carrier.generation := by
    cases point with
    | claiming generation => exact absurd (hshows.2.2.2.1.symm.trans howner) (by simp)
    | releasing => exact absurd rfl hpoint
    | _ => exact hshows.trans howner
  refine ⟨hkept, ?_⟩
  rcases hplace with hup | ⟨hop, htask⟩
  · exact .inl (hguar.up hup (by rw [howner]; simp))
  by_cases hji : j = i
  · subst hji
    rcases hguar.inside hop with hop' | hop'
    · obtain ⟨task, htask⟩ := htask
      obtain ⟨running, hrunning⟩ := hstep.ran_source
      rw [hrunning] at htask
      cases htask
      exact .inr ⟨hop', hstep.ran_target⟩
    · exact .inl ((hinv hop').resolve_left (by rw [hkept]; simp))
  · have hother : c.shared.around.operation ≠ some j := by
      rw [hop]
      exact fun heq => hji (Option.some.inj heq).symm
    rcases hguar.outside hother with hsame | ⟨hfree, -⟩
    · refine .inr ⟨by rw [hsame]; exact hop, ?_⟩
      cases hstep with
      | ran j kind point enabled run next running ready =>
        rw [Config.put_ne _ (Ne.symm hji)]
        exact htask
    · rw [hop] at hfree
      cases hfree

/-- No step but a release takes a claim away. -/
theorem stands_step {i : ι} {carrier : Carrier} {c d : ConnectionConfig ι}
    {label : Label ι ConnectionRequest Point Question Answer Bool Empty} (hsafe : AllClaiming c)
    (h : Stands i carrier c) (hstep : (connectionSystem ι).Step c label d)
    (hkeeps : ¬ Releases ⟨c, label, d⟩) : Stands i carrier d := by
  cases label with
  | ran j kind point =>
    exact stands_ran hsafe h hstep fun hpoint => hkeeps ⟨j, kind, by rw [hpoint]⟩
  | changed change => exact change.elim
  | finished j kind result =>
    have hfree : Free j c.shared := hsafe.finished fits_claiming hstep
    obtain ⟨howner, hplace⟩ := h
    cases hstep
    refine ⟨howner, hplace.imp_right fun ⟨hop, htask⟩ => ⟨hop, ?_⟩⟩
    have hne : i ≠ j := by
      rintro rfl
      exact hfree.2 hop
    rw [Config.put_ne _ hne]
    exact htask
  | began j kind =>
    obtain ⟨howner, hplace⟩ := h
    cases hstep with
    | began j kind free may =>
      refine ⟨howner, hplace.imp_right fun ⟨hop, task, htask⟩ => ⟨hop, task, ?_⟩⟩
      have hne : i ≠ j := by
        rintro rfl
        rw [free] at htask
        cases htask
      rw [Config.put_ne _ hne]
      exact htask
  | asked j kind question =>
    obtain ⟨howner, hplace⟩ := h
    cases hstep with
    | asked j kind question next running =>
      refine ⟨howner, hplace.imp_right fun ⟨hop, task, htask⟩ => ⟨hop, ?_⟩⟩
      by_cases hij : i = j
      · subst hij
        rw [running] at htask
        cases htask
        exact ⟨_, Config.put_same ..⟩
      · rw [Config.put_ne _ hij]
        exact ⟨task, htask⟩
  | answered j kind question answer =>
    obtain ⟨howner, hplace⟩ := h
    cases hstep with
    | answered j kind question answer s next running given =>
      obtain rfl : c.shared = s := Option.some.inj given
      refine ⟨howner, hplace.imp_right fun ⟨hop, task, htask⟩ => ⟨hop, ?_⟩⟩
      by_cases hij : i = j
      · subst hij
        rw [running] at htask
        cases htask
        exact ⟨_, Config.put_same ..⟩
      · rw [Config.put_ne _ hij]
        exact ⟨task, htask⟩

/-- What holds of a step between the claim of a Connect and its release, the release included. -/
structure UnderClaim (i : ι) (carrier : Carrier) (e : ConnectionEdge ι) : Prop where
  owner : e.source.shared.owner = some carrier.generation
  warmUp : ∀ j warmed prepared, e.label = .asked j (.warmUp warmed) (.request (.prepare prepared)) →
    prepared = carrier.generation
  kept : ¬ Releases e → e.target.shared.owner = some carrier.generation
  /-- Only that Connect, when it fails, and a Disconnect release the claim. -/
  released : ∀ j kind, e.label = .ran j kind .releasing → e.target.shared.owner = none ∧
    (kind = .disconnect ∨ j = i ∧ kind = .connect carrier ∧
      e.source.shared.around.state = .connecting)

/-- A step of a run after a claim, and what it cannot do. -/
theorem underClaim {i : ι} {carrier : Carrier} {e : ConnectionEdge ι} (hsafe : AllClaiming e.source)
    (h : Stands i carrier e.source) (hstep : (connectionSystem ι).Step e.source e.label e.target) :
    UnderClaim i carrier e where
  owner := h.1
  warmUp := by
    intro j warmed prepared hl
    rw [hl] at hstep
    exact hsafe.asks fits_claiming hstep _ h.1
  kept hkeeps := (stands_step hsafe h hstep hkeeps).1
  released := by
    intro j kind hl
    rw [hl] at hstep
    obtain ⟨hmay, hop, hnone⟩ :=
      hsafe.shows fits_claiming hstep (granted_claiming ⟨e.source, _, e.target⟩)
    refine ⟨hnone, hmay.imp_right fun ⟨⟨other, hkind⟩, hstate⟩ => ?_⟩
    rcases h.2 with hup | ⟨hop', task, htask⟩
    · rw [hup] at hstate
      cases hstate
    · obtain rfl : i = j := Option.some.inj (hop'.symm.trans hop)
      obtain ⟨running, hrunning⟩ := hstep.ran_source
      rw [hrunning] at htask
      cases htask
      exact ⟨rfl, rfl, hstate⟩

/-- In every run of Connects, Disconnects and warm-ups: where a Connect claims, there was no claim,
its generation is claimed from then on up to the release, which is that of a Connect that fails or
of a Disconnect, and meanwhile no warm-up sends a `Prepare` of another generation. What a Connect
prepares it has claimed. And whenever no Connect or Disconnect is under way, there is no claim
unless a connection is up, so that no warm-up is refused for a claim left behind. -/
theorem claim_respected (state : ConnectionState) {d : ConnectionConfig ι}
    {es : List (ConnectionEdge ι)} (hrun : (connectionSystem ι).Run (idleDaemon ι state) es d) :
    (∀ before claim after, es = before ++ claim :: after → ∀ i kind generation,
      claim.label = .ran i kind (.claiming generation) →
        ∃ carrier, kind = .connect carrier ∧ carrier.generation = generation ∧
          claim.source.shared.owner = none ∧ claim.target.shared.owner = some generation ∧
          ∀ between e rest, after = between ++ e :: rest → (∀ d ∈ between, ¬ Releases d) →
            UnderClaim i carrier e) ∧
    (∀ e ∈ es, ∀ i carrier prepared, e.label = .asked i (.connect carrier)
        (.request (.prepare prepared)) →
      prepared = carrier.generation ∧ e.source.shared.owner = some prepared) ∧
    (∀ e ∈ es, ∀ i warmed prepared, e.label = .asked i (.warmUp warmed)
        (.request (.prepare prepared)) →
      ∀ owner, e.source.shared.owner = some owner → prepared = owner) ∧
    ∀ e ∈ es, e.target.shared.around.operation = none →
      e.target.shared.around.state ≠ .connected → e.target.shared.owner = none ∧
        ∀ generation, idleAllowed generation true e.target.shared = .ok () := by
  have hall : ∀ {ds : List (ConnectionEdge ι)} {c : ConnectionConfig ι},
      (connectionSystem ι).Run (idleDaemon ι state) ds c → AllClaiming c :=
    fun hrun => (allClaiming_idle state).run fits_claiming hrun fun e _ => granted_claiming e
  refine ⟨?_, ?_, ?_, ?_⟩
  · rintro before claim after rfl i kind generation hl
    obtain ⟨hbefore, hstep, hafter⟩ := hrun.split_at
    have hsafe := hall hbefore
    have hgrant := granted_claiming ⟨claim.source, claim.label, claim.target⟩
    have htarget : AllClaiming claim.target := hsafe.step fits_claiming hstep hgrant
    rw [hl] at hstep
    obtain ⟨⟨carrier, rfl, rfl⟩, hop, hsame, hnone, hsome⟩ :=
      hsafe.shows fits_claiming hstep (granted_claiming ⟨claim.source, _, claim.target⟩)
    refine ⟨carrier, rfl, rfl, hnone, hsome, ?_⟩
    have hstands : Stands i carrier claim.target :=
      ⟨hsome, .inr ⟨by rw [hsame]; exact hop, hstep.ran_target⟩⟩
    rintro between e rest rfl hkeeps
    obtain ⟨hbetween, hstep, -⟩ := hafter.split_at
    have hkept : AllClaiming e.source ∧ Stands i carrier e.source := by
      refine hbetween.invariant_of (I := fun c => AllClaiming c ∧ Stands i carrier c)
        ⟨htarget, hstands⟩ ?_ hkeeps
      intro t l u hi hs (hgood : ¬ Releases ⟨t, l, u⟩)
      exact ⟨hi.1.step fits_claiming hs (granted_claiming _), stands_step hi.1 hi.2 hs hgood⟩
    exact underClaim hkept.1 hkept.2 hstep
  · intro e he i carrier prepared hl
    obtain ⟨hstep, ds, hds, -⟩ := hrun.edge_mem he
    rw [hl] at hstep
    exact (hall hds).asks fits_claiming hstep
  · intro e he i warmed prepared hl owner howner
    obtain ⟨hstep, ds, hds, -⟩ := hrun.edge_mem he
    rw [hl] at hstep
    exact (hall hds).asks fits_claiming hstep owner howner
  · intro e he hop hdown
    obtain ⟨hstep, ds, hds, -⟩ := hrun.edge_mem he
    have hinv := ((hall hds).step fits_claiming hstep (granted_claiming _)).inv
    have hnone := (hinv hop).resolve_right hdown
    exact ⟨hnone, fun generation => by simp [idleAllowed, hnone]⟩

/-- An answer to what the request asks. -/
def replied (i : Nat) (question : Question) (answer : Answer question) :
    List (Move Nat ConnectionRequest Question Answer Empty) :=
  [.answer i question answer]

/-- A Connect claims; before it prepares, a warm-up of its generation does, and one of another
generation is refused. -/
def warmedWhileClaimed : List (Move Nat ConnectionRequest Question Answer Empty) :=
  [[.begin 0 (.connect (.tun 5))], Move.goOn 0 6, [.begin 1 (.warmUp 5)], Move.goOn 1 9,
    replied 1 .connect (.ok ()), Move.goOn 1 2,
    replied 1 (.request (.prepare 5)) (.ok (.prepared 5 ⟨9090, "secret", 7890⟩)), Move.goOn 1 8,
    [.begin 2 (.warmUp 7)], Move.goOn 2 2].flatten

/-- The connection comes up, and a Disconnect releases the claim. -/
def upAndDown : List (Move Nat ConnectionRequest Question Answer Empty) :=
  [Move.goOn 0 10, replied 0 (.request (.setTun true)) (.ok (.tunState true)), Move.goOn 0 4,
    replied 0 .replaySelections true, Move.goOn 0 3, [.begin 3 .disconnect], Move.goOn 3 6,
    replied 3 (.request (.setTun false)) (.ok (.tunState false)), Move.goOn 3 8].flatten

/-- The label of the claim of a Connect. -/
def isClaim (i : ι) (carrier : Carrier) :
    Label ι ConnectionRequest Point Question Answer Bool Empty → Bool
  | .ran j kind (.claiming generation) =>
    decide (j = i ∧ kind = .connect carrier ∧ generation = carrier.generation)
  | _ => false

/-- The label of a claim names its request and its point. -/
theorem eq_of_isClaim {i : ι} {carrier : Carrier}
    {label : Label ι ConnectionRequest Point Question Answer Bool Empty}
    (h : isClaim i carrier label = true) :
    label = .ran i (.connect carrier) (.claiming carrier.generation) := by
  unfold isClaim at h
  split at h
  · obtain ⟨rfl, rfl, rfl⟩ := of_decide_eq_true h
    rfl
  · cases h

/-- The label of a `Prepare` that a warm-up sends. -/
def isWarmPrepare (i : ι) (generation : Nat) :
    Label ι ConnectionRequest Point Question Answer Bool Empty → Bool
  | .asked j kind question =>
    decide (j = i ∧ kind = .warmUp generation ∧ question = .request (.prepare generation))
  | _ => false

/-- The label of a warm-up's Prepare names its request and its question. -/
theorem eq_of_isWarmPrepare {i : ι} {generation : Nat}
    {label : Label ι ConnectionRequest Point Question Answer Bool Empty}
    (h : isWarmPrepare i generation label = true) :
    label = .asked i (.warmUp generation) (.request (.prepare generation)) := by
  unfold isWarmPrepare at h
  split at h
  · obtain ⟨rfl, rfl, rfl⟩ := of_decide_eq_true h
    rfl
  · cases h

/-- Steps of the run: the Connect claims, the warm-up prepares, no step from the one to the other
releases, and the Disconnect leaves no claim. -/
theorem claim_respected_warmedUp :
    ∃ before claim between prepare after d,
      (connectionSystem Nat).Run (idleDaemon Nat .ready)
        (before ++ claim :: (between ++ prepare :: after)) d ∧
      claim.label = .ran 0 (.connect (.tun 5)) (.claiming 5) ∧
      prepare.label = .asked 1 (.warmUp 5) (.request (.prepare 5)) ∧
      UnderClaim 0 (.tun 5) prepare ∧ d.shared.owner = none ∧ d.shared.around.state = .ready := by
  obtain ⟨es, d, hrun, hes⟩ := (connectionSystem Nat).exists_run (idleDaemon Nat .ready)
    (warmedWhileClaimed ++ upAndDown)
    (fun es d => es[5]?.any (fun e => isClaim 0 (.tun 5) e.label) &&
      es[19]?.any (fun e => isWarmPrepare 1 5 e.label) &&
      ((es.drop 6).take 13).all (fun e => !isRelease e.label) &&
      decide (d.shared.owner = none ∧ d.shared.around.state = .ready)) (by decide +kernel)
  simp only [Bool.and_eq_true, Option.any_eq_true, List.all_eq_true, Bool.not_eq_true'] at hes
  obtain ⟨⟨⟨⟨claim, hclaim, hclaims⟩, prepare, hprepare, hprepares⟩, hkeeps⟩, hend⟩ := hes
  have hsplit : es = es.take 5 ++ claim :: ((es.drop 6).take 13 ++ prepare :: es.drop 20) := by
    obtain ⟨hlt, rfl⟩ := List.getElem?_eq_some_iff.mp hclaim
    obtain ⟨hlt', rfl⟩ := List.getElem?_eq_some_iff.mp hprepare
    calc es = es.take 5 ++ es.drop 5 := (List.take_append_drop 5 es).symm
      _ = es.take 5 ++ es[5] :: es.drop 6 := by rw [List.drop_eq_getElem_cons hlt]
      _ = es.take 5 ++ es[5] :: ((es.drop 6).take 13 ++ (es.drop 6).drop 13) := by
        rw [List.take_append_drop]
      _ = _ := by rw [List.drop_drop, List.drop_eq_getElem_cons hlt']
  rw [hsplit] at hrun
  obtain ⟨hclaimed, -⟩ := claim_respected .ready hrun
  obtain ⟨carrier, hkind, -, -, -, hunder⟩ :=
    hclaimed _ claim _ rfl 0 (.connect (.tun 5)) 5 (eq_of_isClaim hclaims)
  cases hkind
  refine ⟨_, claim, _, prepare, _, d, hrun, eq_of_isClaim hclaims, eq_of_isWarmPrepare hprepares,
    ?_, of_decide_eq_true hend⟩
  refine hunder _ prepare _ rfl fun e he hreleases => ?_
  have hno := hkeeps e he
  rw [isRelease_of_releases hreleases] at hno
  cases hno

end Runs

end MultiCore.Daemon
