import MultiCore.Library.RelyGuarantee
import MultiCore.Daemon.Session

/-!
# Readiness bookkeeping and the order of exchanges

What the flags should say is the fold of the exchanges, in the order in which
they held the transport lock. The stores made under the lock follow that order.
A failed poll and a shutdown store after they let go of the lock: these stores
are late, and the flags keep to the fold exactly as long as no late store
changes what it finds.
-/

namespace MultiCore.Daemon

open Cooperative

section Fold

/-- What an operation records of an answer. -/
def Purpose.record (purpose : Purpose) (response : ServiceResponse) (f : Flags) : Flags :=
  match response, purpose with
  | .busy, _ => f
  | .error _, _ => f
  | .prepared generationId _, .prepare generation =>
    if generationId = generation then { f with prepared := some generation, healthy := true } else f
  | .tunState actual, .setTun _ => { f with tunOn := actual }
  | .status generationId xray mihomo tunOn failure, .poll =>
    { f with
      tunOn := tunOn
      healthy := statusHealthy generationId xray mihomo failure f.prepared }
  | _, .poll => { f with healthy := false }
  | _, _ => f

/-- The answers that turn a request away. -/
def refusal : ServiceResponse → Bool
  | .busy => true
  | .error _ => true
  | _ => false

/-- The exchange ended without an answer to record. -/
def Exchange.refused (x : Exchange) : Bool :=
  match x.answer with
  | some (.ok response) => refusal response
  | _ => true

/-- What an exchange makes of the flags while it holds the lock. -/
def Exchange.underLock (x : Exchange) (f : Flags) : Flags :=
  let f := if x.opened then .forgotten else f
  match x.purpose, x.answer with
  | .shutdown, _ => f
  | _, none => f
  | _, some (.error _) => .forgotten
  | purpose, some (.ok response) => purpose.record response f

/-- What an operation adds to the outcome of its exchange: a refused poll finds nothing healthy,
and a shutdown leaves nothing. -/
def Exchange.afterwards (x : Exchange) (f : Flags) : Flags :=
  match x.purpose with
  | .poll => if x.refused then { f with healthy := false } else f
  | .shutdown => .forgotten
  | _ => f

/-- The outcome of an exchange. -/
def Exchange.outcome (x : Exchange) (f : Flags) : Flags := x.afterwards (x.underLock f)

/-- The flags as a sequence of exchanges leaves them. -/
def readiness (history : List Exchange) : Flags :=
  history.foldl (fun f x => x.outcome f) .forgotten

/-- The readiness after one more exchange. -/
@[simp] theorem readiness_snoc (history : List Exchange) (x : Exchange) :
    readiness (history ++ [x]) = x.outcome (readiness history) := by
  simp [readiness]

end Fold

section Bookkeeping

variable {ι X α : Type}

/-- A free lock means that the flags are the fold of all exchanges. -/
def Settled (s : ServiceSession ι X) : Prop :=
  s.lock = none → s.flags = readiness s.history

/-- A late store finds what it stores, already when the lock is released. -/
def InTime (s : ServiceSession ι X) : Point → Prop
  | .released x => x.afterwards s.flags = s.flags
  | .lateUnhealthy => s.healthy = false
  | .latePrepared => s.prepared = none
  | .lateHealthy => s.healthy = false
  | .lateTunOn => s.tunOn = false
  | _ => True

/-- `i` holds the transport lock since the exchanges `history`, and the flags are `f`. -/
def Held (i : ι) (f : Flags) (history : List Exchange) (s : ServiceSession ι X) : Prop :=
  s.lock = some i ∧ s.flags = f ∧ s.history = history

instance (s : ServiceSession ι X) (point : Point) : Decidable (InTime s point) := by
  cases point <;> unfold InTime <;> infer_instance

/-- The contract of every operation: flags and history belong to the holder of the lock. -/
def bookkeeping (i : ι) : Contract Point Question Answer (ServiceSession ι X) where
  inv := Settled
  rely s t := (∀ f history, Held i f history s → Held i f history t) ∧
    (s.lock ≠ some i → t.lock ≠ some i)
  guar s t := (s.lock ≠ some i → t.flags = s.flags ∧ t.history = s.history ∧
      (t.lock = s.lock ∨ s.lock = none ∧ t.lock = some i)) ∧
    (s.lock = some i → t.lock = some i ∨ t.lock = none)
  asks _ _ := True
  grants point s := InTime s point
  answers _ _ s t := t = s
  rely_refl _ := ⟨fun _ _ h => h, id⟩
  rely_trans h k := ⟨fun f history hs => k.1 f history (h.1 f history hs), fun hs => k.2 (h.2 hs)⟩

instance (i : ι) (point : Point) : (bookkeeping (X := X) i).Silent point := ⟨fun _ _ => trivial⟩

variable {i : ι} {f g : Flags} {history : List Exchange} {s t : ServiceSession ι X}

/-- What is known with the lock held survives the others. -/
theorem Held.others (h : Held i f history s) (hst : (bookkeeping i).Others s t) :
    Held i f history t :=
  hst.1.1 f history h

/-- What the holder of the lock may do: anything that keeps the lock. -/
theorem Held.own (h : Held i f history s) (ht : Held i g history t) : (bookkeeping i).Own s t :=
  ⟨⟨fun hne => absurd h.1 hne, fun _ => .inl ht.1⟩, fun hfree => by simp [ht.1] at hfree⟩

/-- A store of the holder of the lock. -/
theorem held_store {point : Point} {change : ServiceSession ι X → ServiceSession ι X}
    (h : Held i f history s)
    (hchange : ∀ t, Held i f history t → Held i g history (change t)) :
    Safe (bookkeeping i) (fun _ => Held i g history) (storeAt point change) s :=
  .atomic fun _ ht _ => ⟨(h.others ht).own (hchange _ (h.others ht)),
    fun _ hu => (hchange _ (h.others ht)).others hu⟩

/-- A load of the holder of the lock. -/
theorem held_load {look : ServiceSession ι X → α} (h : Held i f history s) :
    Safe (bookkeeping i) (fun found t => Held i f history t ∧
      ∃ u, Held i f history u ∧ look u = found) (load look) s :=
  .atomic fun t ht _ => ⟨(h.others ht).own (h.others ht),
    fun _ hu => ⟨(h.others ht).others hu, t, h.others ht, rfl⟩⟩

/-- `forget` under the lock. -/
theorem held_forget (h : Held i f history s) :
    Safe (bookkeeping i) (fun _ => Held i .forgotten history) forget s := by
  have hs : (bookkeeping (X := X) i).inv s := fun hfree => by simp [h.1] at hfree
  unfold forget
  refine (held_store (g := { f with prepared := none }) h ?_).bind hs fun _ t ht h => ?_
  · rintro t ⟨hl, rfl, hh⟩
    exact ⟨hl, rfl, hh⟩
  refine (held_store (g := ⟨none, false, f.tunOn⟩) h ?_).bind ht fun _ t ht h => ?_
  · rintro t ⟨hl, hf, hh⟩
    exact ⟨hl, by simp_all [ServiceSession.flags], hh⟩
  refine held_store h ?_
  rintro t ⟨hl, hf, hh⟩
  exact ⟨hl, by simp_all [ServiceSession.flags, Flags.forgotten], hh⟩

/-- The flags when a channel was opened, or was there. -/
def opening (opened : Bool) (f : Flags) : Flags := if opened then .forgotten else f

/-- The flags are those of the history and of what the exchange did. -/
theorem Held.inv (h : Held i f history s) : (bookkeeping (X := X) i).inv s :=
  fun hfree => by simp [h.1] at hfree

/-- A store of the holder of the lock that leaves the flags alone. -/
theorem held_keep {point : Point} {change : ServiceSession ι X → ServiceSession ι X}
    (h : Held i f history s)
    (hkeep : ∀ t, (change t).lock = t.lock ∧ (change t).flags = t.flags ∧
      (change t).history = t.history) :
    Safe (bookkeeping i) (fun _ => Held i f history) (storeAt point change) s :=
  held_store h fun t ⟨hl, hf, hh⟩ =>
    ⟨(hkeep t).1.trans hl, (hkeep t).2.1.trans hf, (hkeep t).2.2.trans hh⟩

/-- A question asked by the holder of the lock. -/
theorem held_question {q : Question} (h : Held i f history s) :
    Safe (bookkeeping i) (fun _ => Held i f history) (Task.question q) s := by
  refine fun t ht => ⟨trivial, fun u a v hu hv => ?_⟩
  obtain rfl : v = u := hv
  have hheld := (h.others ht).others hu
  exact ⟨hheld.own hheld, fun w hw => hheld.others hw⟩

/-- A channel that is opened is the first thing an exchange may do. -/
theorem held_openChannel (connect : Bool) (h : Held i f history s) :
    Safe (bookkeeping i) (fun found => Held i (opening found.1 f) history)
      (openChannel connect) s := by
  unfold openChannel
  refine (held_load h).bind h.inv fun transport t ht ⟨h, _⟩ => ?_
  split
  · exact .done fun u hu => h.others hu
  · split
    · exact .done fun u hu => h.others hu
    · refine (held_forget h).bind ht fun _ t ht h => ?_
      refine (held_question h).bind ht fun result t ht h => ?_
      rcases result with error | ⟨⟩
      · exact .done fun u hu => h.others hu
      · refine Safe.bind (held_keep h fun _ => ⟨rfl, rfl, rfl⟩) ht fun _ t _ h => ?_
        exact .done fun u hu => h.others hu

/-- A failed request forgets the flags. -/
theorem held_transmit (command : ServiceCommand) (h : Held i f history s) :
    Safe (bookkeeping i) (fun answer => match answer with
      | .ok _ => Held i f history
      | .error _ => Held i .forgotten history) (transmit command) s := by
  unfold transmit
  refine (held_question h).bind h.inv fun answer t ht h => ?_
  rcases answer with error | response
  · refine Safe.bind (held_keep h fun _ => ⟨rfl, rfl, rfl⟩) ht fun _ t ht h => ?_
    refine (held_forget h).bind ht fun _ t _ h => ?_
    exact .done fun u hu => h.others hu
  · exact .done fun u hu => h.others hu

/-- What `record` makes of the flags is what the purpose of the exchange says. -/
def RecordsAs (i : ι) (purpose : Purpose) (record : ServiceResponse → Op ι X α) : Prop :=
  ∀ response f history s, refusal response = false → Held i f history s →
    Safe (bookkeeping i) (fun _ => Held i (purpose.record response f) history) (record response) s

/-- A response is recorded as its purpose says. -/
theorem held_recorded {purpose : Purpose} {record : ServiceResponse → Op ι X α}
    (hrecord : RecordsAs i purpose record) (response : ServiceResponse)
    (h : Held i f history s) :
    Safe (bookkeeping i) (fun _ => Held i (purpose.record response f) history)
      (recorded record (.ok response)) s := by
  unfold recorded
  split
  · cases ‹_›
  · rename_i heq
    cases heq
    exact .done fun u hu => h.others hu
  · rename_i code heq
    cases heq
    exact .done fun u hu => h.others hu
  · rename_i hbusy herror heq
    cases heq
    have hno : refusal response = false := by
      cases response <;> simp_all [refusal]
    exact (hrecord response f history s hno h).bind h.inv fun result t _ h =>
      .done fun u hu => h.others hu

/-- The operation does not hold the transport lock. -/
def Apart (i : ι) (s : ServiceSession ι X) : Prop := s.lock ≠ some i

/-- A caller without the lock is not given it by the others. -/
theorem Apart.others (h : Apart i s) (hst : (bookkeeping i).Others s t) : Apart i t :=
  hst.1.2 h

/-- Away from the lock, an operation keeps lock, flags and history. -/
theorem Apart.own (h : Apart i s) (hs : Settled s) (hl : t.lock = s.lock)
    (hf : t.flags = s.flags) (hh : t.history = s.history) : (bookkeeping i).Own s t := by
  refine ⟨⟨fun _ => ⟨hf, hh, .inl hl⟩, fun hi => absurd hi h⟩, fun hfree => ?_⟩
  rw [hf, hh]
  exact hs (hl ▸ hfree)

/-- A store to what no flag is read from. -/
theorem apart_store {point : Point} {change : ServiceSession ι X → ServiceSession ι X}
    (h : Apart i s)
    (hkeep : ∀ t, (change t).lock = t.lock ∧ (change t).flags = t.flags ∧
      (change t).history = t.history) :
    Safe (bookkeeping i) (fun _ => Apart i) (storeAt point change) s := by
  refine .atomic fun t ht _ => ⟨(h.others ht).own ht.2 (hkeep t).1 (hkeep t).2.1 (hkeep t).2.2, ?_⟩
  intro u hu
  have hapart : Apart i (change t) := by
    rw [Apart, (hkeep t).1]
    exact h.others ht
  exact hapart.others hu

/-- A load. -/
theorem apart_load {look : ServiceSession ι X → α} (h : Apart i s) :
    Safe (bookkeeping i) (fun _ => Apart i) (load look) s :=
  .atomic fun _ ht _ => ⟨(h.others ht).own ht.2 rfl rfl rfl, fun _ hu => (h.others ht).others hu⟩

/-- Taking the free lock finds the flags settled. -/
theorem apart_lock (h : Apart i s) :
    Safe (bookkeeping i) (fun _ t => ∃ history, Held i (readiness history) history t)
      (lockTransport i) s := by
  refine .await fun t ht hfree _ => ?_
  have hfree : t.lock = none := by simpa using hfree
  have hheld : Held i (readiness t.history) t.history { t with lock := some i } :=
    ⟨rfl, ht.2 hfree, rfl⟩
  refine ⟨⟨⟨fun _ => ⟨rfl, rfl, .inr ⟨hfree, rfl⟩⟩, fun hi => absurd hi (h.others ht)⟩,
    hheld.inv⟩, fun u hu => ⟨t.history, hheld.others hu⟩⟩

/-- Letting go of the lock, with the exchange's late stores in time. -/
theorem held_unlock {x : Exchange} (h : Held i (x.underLock (readiness history)) history s) :
    Safe (bookkeeping i) (fun _ => Apart i) (unlockTransport x) s := by
  refine .atomic fun t ht hg => ?_
  obtain ⟨hl, hf, hh⟩ := h.others ht
  have hsettled : Settled ({ t with lock := none, history := t.history ++ [x] } :
      ServiceSession ι X) := by
    intro _
    change t.flags = readiness (t.history ++ [x])
    rw [readiness_snoc, hh, Exchange.outcome, ← hf]
    exact Eq.symm hg
  refine ⟨⟨⟨fun hne => absurd hl hne, fun _ => .inr rfl⟩, hsettled⟩, fun u hu => ?_⟩
  exact Apart.others (i := i) (by simp [Apart]) hu

/-- Letting go of the lock without an exchange. -/
theorem held_release (h : Held i (readiness history) history s) :
    Safe (bookkeeping i) (fun _ => Apart i) (store fun s => { s with lock := none }) s := by
  refine .atomic fun t ht _ => ?_
  obtain ⟨hl, hf, hh⟩ := h.others ht
  refine ⟨⟨⟨fun hne => absurd hl hne, fun _ => .inr rfl⟩, fun _ => ?_⟩, fun u hu => ?_⟩
  · change t.flags = readiness t.history
    rw [hf, hh]
  · exact Apart.others (i := i) (by simp [Apart]) hu

/-- An exchange without an answer has at most opened a channel. -/
theorem underLock_unanswered (purpose : Purpose) (opened : Bool) (f : Flags) :
    Exchange.underLock ⟨purpose, opened, none⟩ f = opening opened f := by
  cases purpose <;> rfl

/-- A failed exchange forgets everything, unless it is a shutdown. -/
theorem underLock_failed {purpose : Purpose} (hp : purpose ≠ .shutdown) (opened : Bool)
    (error : ServiceError) (f : Flags) :
    Exchange.underLock ⟨purpose, opened, some (.error error)⟩ f = .forgotten := by
  cases purpose <;> first | rfl | exact absurd rfl hp

/-- An answered exchange records its answer. -/
theorem underLock_answered {purpose : Purpose} (hp : purpose ≠ .shutdown) (opened : Bool)
    (response : ServiceResponse) (f : Flags) :
    Exchange.underLock ⟨purpose, opened, some (.ok response)⟩ f =
      purpose.record response (opening opened f) := by
  cases purpose <;> first | rfl | exact absurd rfl hp

/-- An exchange records its outcome before it lets go of the lock. -/
theorem apart_exchangeIf {purpose : Purpose} (hp : purpose ≠ .shutdown) (command : ServiceCommand)
    (connect : Bool) (allowed : ServiceSession ι X → Except ServiceError Unit)
    {record : ServiceResponse → Op ι X α} (hrecord : RecordsAs i purpose record)
    (h : Apart i s) (hs : Settled s) :
    Safe (bookkeeping i) (fun _ => Apart i)
      (exchangeIf i purpose command connect allowed record) s := by
  unfold exchangeIf
  refine (apart_lock h).bind hs fun _ t ht ⟨history, h⟩ => ?_
  refine (held_load h).bind ht fun verdict t ht ⟨h, _⟩ => ?_
  have hend : ∀ {x : Exchange} (result : Except ServiceError α) {t : ServiceSession ι X},
      Settled t → Held i (x.underLock (readiness history)) history t →
        Safe (bookkeeping i) (fun _ => Apart i)
          (do unlockTransport x; return result) t := by
    intro x result t ht h
    exact (held_unlock h).bind ht fun _ t _ h => .done fun u hu => h.others hu
  rcases verdict with error | ⟨⟩
  · exact hend _ ht (by rwa [underLock_unanswered])
  · refine (held_openChannel connect h).bind ht fun ⟨opened, result⟩ t ht h => ?_
    rcases result with error | ⟨⟩
    · exact hend _ ht (by rwa [underLock_unanswered])
    · refine (held_transmit command h).bind ht fun answer t ht h => ?_
      rcases answer with error | response
      · exact hend (.error error) ht (by rwa [underLock_failed hp])
      · refine (held_recorded hrecord response h).bind ht fun result t ht h => ?_
        exact hend result ht (by rwa [underLock_answered hp])

/-- Operations whose answer is not recorded. -/
theorem recordsAs_nothing {purpose : Purpose}
    (hnothing : ∀ response f, purpose.record response f = f) :
    RecordsAs (X := X) i purpose fun response => (return response : Op ι X ServiceResponse) :=
  fun response f _ _ _ h => .done fun u hu => by
    rw [hnothing response f]
    exact h.others hu

/-- The record of a Prepare. -/
theorem recordsAs_prepared (generation : Nat) :
    RecordsAs (X := X) i (.prepare generation) (recordPrepared generation) := by
  intro response f history s _ h
  have hkeep : ∀ result : Except ServiceError Unit, ∀ {g t}, Held i g history t →
      Safe (bookkeeping i) (fun _ => Held i g history) (pure result : Op ι X _) t :=
    fun _ _ _ h => .done fun u hu => h.others hu
  cases response with
  | prepared generationId controller =>
    simp only [recordPrepared, Purpose.record]
    split
    · unfold publish
      simp only [bind_assoc]
      refine Safe.bind (held_keep h fun _ => ⟨rfl, rfl, rfl⟩) h.inv fun _ t ht h => ?_
      refine Safe.bind (held_keep h fun _ => ⟨rfl, rfl, rfl⟩) ht fun _ t ht h => ?_
      refine Safe.bind (held_keep h fun _ => ⟨rfl, rfl, rfl⟩) ht fun _ t ht h => ?_
      refine (held_store (g := { f with prepared := some generation }) h ?_).bind ht
        fun _ t ht h => ?_
      · rintro t ⟨hl, rfl, hh⟩
        exact ⟨hl, rfl, hh⟩
      refine Safe.bind (held_keep h fun _ => ⟨rfl, rfl, rfl⟩) ht fun _ t ht h => ?_
      refine (held_store (g := { f with prepared := some generation, healthy := true }) h ?_).bind
        ht fun _ t ht h => hkeep _ h
      rintro t ⟨hl, hf, hh⟩
      exact ⟨hl, by simp_all [ServiceSession.flags], hh⟩
    · exact hkeep _ h
  | _ => exact hkeep _ h

/-- The record of a switch. -/
theorem recordsAs_tunState (on : Bool) :
    RecordsAs (X := X) i (.setTun on) (recordTunState on) := by
  intro response f history s _ h
  have hkeep : ∀ result : Except ServiceError Unit, ∀ {g t}, Held i g history t →
      Safe (bookkeeping i) (fun _ => Held i g history) (pure result : Op ι X _) t :=
    fun _ _ _ h => .done fun u hu => h.others hu
  cases response with
  | tunState actual =>
    simp only [recordTunState, Purpose.record]
    refine (held_store (g := { f with tunOn := actual }) h ?_).bind h.inv fun _ t ht h => ?_
    · rintro t ⟨hl, rfl, hh⟩
      exact ⟨hl, rfl, hh⟩
    · split
      · exact hkeep _ h
      · split <;> exact hkeep _ h
  | _ => exact hkeep _ h

/-- The record of a poll. -/
theorem recordsAs_status : RecordsAs (X := X) i .poll recordStatus := by
  intro response f history s hno h
  have hbad : Safe (bookkeeping i) (fun _ => Held i { f with healthy := false } history)
      (store fun s => { s with healthy := false } : Op ι X Unit) s := by
    refine held_store h ?_
    rintro t ⟨hl, rfl, hh⟩
    exact ⟨hl, rfl, hh⟩
  cases response with
  | status generationId xray mihomo tunOn failure =>
    simp only [recordStatus, Purpose.record]
    refine (held_store (g := { f with tunOn := tunOn }) h ?_).bind h.inv fun _ t ht h => ?_
    · rintro t ⟨hl, rfl, hh⟩
      exact ⟨hl, rfl, hh⟩
    refine (held_load h).bind ht fun prepared t ht ⟨h, u, hu, hlook⟩ => ?_
    have hprepared : prepared = f.prepared := by
      rw [← hlook]
      exact congrArg Flags.prepared hu.2.1
    refine held_store h ?_
    rintro t ⟨hl, hf, hh⟩
    exact ⟨hl, by simp_all [ServiceSession.flags], hh⟩
  | busy => cases hno
  | error code => cases hno
  | _ => exact hbad

end Bookkeeping

section Operations

variable {ι X α : Type} {i : ι} {s : ServiceSession ι X}

/-- Ends an operation away from the lock. -/
theorem apart_pure (result : α) (h : Apart i s) :
    Safe (bookkeeping i) (fun _ => Apart i) (pure result : Op ι X α) s :=
  .done fun _ hu => h.others hu

/-- A whole exchange, from lock to lock. -/
theorem apart_exchange {purpose : Purpose} (hp : purpose ≠ .shutdown) (command : ServiceCommand)
    (connect : Bool) {record : ServiceResponse → Op ι X α} (hrecord : RecordsAs i purpose record)
    (h : Apart i s) (hs : Settled s) :
    Safe (bookkeeping i) (fun _ => Apart i) (exchange i purpose command connect record) s :=
  apart_exchangeIf hp command connect _ hrecord h hs

/-- The look for a channel takes the lock and changes no flag. -/
theorem apart_hasChannel (h : Apart i s) (hs : Settled s) :
    Safe (bookkeeping i) (fun _ => Apart i) (hasChannel i) s := by
  unfold hasChannel
  refine (apart_lock h).bind hs fun _ t ht ⟨history, h⟩ => ?_
  refine (held_load h).bind ht fun transport t ht ⟨h, _⟩ => ?_
  exact (held_release h).bind ht fun _ t _ h => apart_pure _ h

/-- Both tries of a probe. -/
theorem apart_probe (h : Apart i s) (hs : Settled s) :
    Safe (bookkeeping i) (fun _ => Apart i) (probe i) s := by
  have hrequest : ∀ {t : ServiceSession ι X}, Settled t → Apart i t →
      Safe (bookkeeping i) (fun _ => Apart i) (request i .probe .status true) t :=
    fun ht h => apart_exchange (by simp) _ _
      (recordsAs_nothing fun response f => by cases response <;> rfl) h ht
  unfold probe
  refine (apart_hasChannel h hs).bind hs fun hadChannel t ht h => ?_
  refine (hrequest ht h).bind ht fun first t ht h => ?_
  have hsecond : Safe (bookkeeping i) (fun _ => Apart i) (retryStatus i hadChannel first) t := by
    unfold retryStatus
    split
    · exact hrequest ht h
    · exact apart_pure _ h
  refine hsecond.bind ht fun result t ht h => ?_
  split <;> exact apart_pure _ h

/-- A probe, with the mode it finds. -/
theorem apart_probeMode (h : Apart i s) (hs : Settled s) :
    Safe (bookkeeping i) (fun _ => Apart i) (probeMode i) s := by
  unfold probeMode
  refine (apart_probe h hs).bind hs fun result t ht h => ?_
  exact Safe.bind (apart_store h fun _ => ⟨rfl, rfl, rfl⟩) ht fun _ t _ h => apart_pure _ h

/-- The endpoint is no flag. -/
theorem apart_publish (endpoint : Endpoint) (h : Apart i s) (hs : Settled s) :
    Safe (bookkeeping i) (fun _ => Apart i) (publish endpoint) s := by
  unfold publish
  exact Safe.bind (apart_store h fun _ => ⟨rfl, rfl, rfl⟩) hs fun _ t _ h =>
    apart_store h fun _ => ⟨rfl, rfl, rfl⟩

/-- The claim is no flag. -/
theorem apart_claim (generation : Nat) (h : Apart i s) (hs : Settled s) :
    Safe (bookkeeping i) (fun _ => Apart i) (claim i generation) s := by
  unfold claim
  refine (apart_lock h).bind hs fun _ t ht ⟨history, h⟩ => ?_
  exact Safe.bind (held_keep h fun _ => ⟨rfl, rfl, rfl⟩) ht fun _ t _ h => held_release h

/-- The exchange of a Prepare. -/
theorem apart_prepareExchange (generation : Nat) (idle : Bool) (h : Apart i s) (hs : Settled s) :
    Safe (bookkeeping i) (fun _ => Apart i) (prepareExchange i generation idle) s := by
  unfold prepareExchange
  refine (apart_exchangeIf (by simp) _ _ _ (recordsAs_prepared generation) h hs).bind hs
    fun found t ht h => ?_
  dsimp only
  split
  · exact Safe.bind (apart_store h fun _ => ⟨rfl, rfl, rfl⟩) ht fun _ t _ h => apart_pure _ h
  · exact apart_pure _ h

/-- A Prepare, unless it is refused before. -/
theorem apart_prepareIf (generation : Nat) (idle : Bool) (h : Apart i s) (hs : Settled s) :
    Safe (bookkeeping i) (fun _ => Apart i) (prepareIf i generation idle) s := by
  unfold prepareIf
  refine (apart_load h).bind hs fun verdict t ht h => ?_
  rcases verdict with error | ⟨⟩
  · exact apart_pure _ h
  · refine (apart_load h).bind ht fun same t ht h => ?_
    split
    · refine (apart_load h).bind ht fun healthy t ht h => ?_
      split
      · unfold republish
        simp only [bind_assoc]
        refine (apart_load h).bind ht fun endpoint t ht h => ?_
        rcases endpoint with _ | endpoint
        · exact apart_pure _ h
        · exact (apart_publish endpoint h ht).bind ht fun _ t _ h => apart_pure _ h
      · exact apart_prepareExchange generation idle h ht
    · exact apart_prepareExchange generation idle h ht

/-- A switch of the tunnel. -/
theorem apart_setTun (on : Bool) (h : Apart i s) (hs : Settled s) :
    Safe (bookkeeping i) (fun _ => Apart i) (setTun i on) s := by
  unfold setTun
  exact (apart_exchange (by simp) _ _ (recordsAs_tunState on) h hs).bind hs
    fun _ t _ h => apart_pure _ h

/-- A late store in time changes nothing. -/
theorem apart_late {point : Point} {change : ServiceSession ι X → ServiceSession ι X}
    (h : Apart i s) (hflags : ∀ t, InTime t point → (change t).flags = t.flags)
    (hkeep : ∀ t, (change t).lock = t.lock ∧ (change t).history = t.history := by
      exact fun _ => ⟨rfl, rfl⟩) :
    Safe (bookkeeping i) (fun _ => Apart i) (storeAt point change) s := by
  refine .atomic fun t ht hg =>
    ⟨(h.others ht).own ht.2 (hkeep t).1 (hflags t hg) (hkeep t).2, fun u hu => ?_⟩
  have hapart : Apart i (change t) := by
    rw [Apart, (hkeep t).1]
    exact h.others ht
  exact hapart.others hu

/-- A poll, with its store after the lock. -/
theorem apart_poll (h : Apart i s) (hs : Settled s) :
    Safe (bookkeeping i) (fun _ => Apart i) (poll i) s := by
  unfold poll
  refine (apart_exchange (by simp) _ _ recordsAs_status h hs).bind hs fun result t _ h => ?_
  rcases result with error | ⟨⟩
  · refine apart_late h fun t ht => ?_
    have ht : t.healthy = false := ht
    simp [ServiceSession.flags, ht]
  · exact apart_pure _ h

/-- The exchange of a shutdown, in which the channel is given up. -/
theorem apart_shutdownExchange (h : Apart i s) (hs : Settled s) :
    Safe (bookkeeping i) (fun _ => Apart i) (shutdownExchange i) s := by
  unfold shutdownExchange
  refine (apart_lock h).bind hs fun _ t ht ⟨history, h⟩ => ?_
  refine (held_load h).bind ht fun transport t ht ⟨h, _⟩ => ?_
  split
  · refine Safe.bind (held_keep h fun _ => ⟨rfl, rfl, rfl⟩) ht fun _ t ht h => ?_
    exact (held_question h).bind ht fun answer t _ h => held_unlock h
  · exact held_unlock h

/-- A shutdown, with its stores after the lock. -/
theorem apart_shutdown (h : Apart i s) (hs : Settled s) :
    Safe (bookkeeping i) (fun _ => Apart i) (shutdown i) s := by
  unfold shutdown setInUse
  refine (apart_shutdownExchange h hs).bind hs fun _ t ht h => ?_
  refine Safe.bind (apart_store h fun _ => ⟨rfl, rfl, rfl⟩) ht fun _ t ht h => ?_
  refine (apart_late h fun t ht => ?_).bind ht fun _ t ht h => ?_
  · have ht : t.prepared = none := ht
    simp [ServiceSession.flags, ht]
  refine (apart_late h fun t ht => ?_).bind ht fun _ t ht h => ?_
  · have ht : t.healthy = false := ht
    simp [ServiceSession.flags, ht]
  refine apart_late h fun t ht => ?_
  have ht : t.tunOn = false := ht
  simp [ServiceSession.flags, ht]

end Operations

section Runs

variable {ι : Type} [DecidableEq ι]

/-- The operations that share a session. -/
inductive SessionRequest where
  | prepare (generation : Nat)
  | prepareIdle (generation : Nat)
  | setTun (on : Bool)
  | poll
  | probeMode
  | shutdown
  | diagnostics
  | claim (generation : Nat)
  | releaseClaim
  | setInUse (mode : InUse)
  deriving DecidableEq, Repr

/-- The operation of a request; its result only goes back to whoever asked. -/
def serveSession {ι X : Type} (i : ι) : SessionRequest → Op ι X Unit
  | .prepare generation => do let _ ← prepare i generation
  | .prepareIdle generation => do let _ ← prepareIdle i generation
  | .setTun on => do let _ ← setTun i on
  | .poll => poll i
  | .probeMode => do let _ ← probeMode i
  | .shutdown => shutdown i
  | .diagnostics => do let _ ← diagnostics i
  | .claim generation => claim i generation
  | .releaseClaim => releaseClaim
  | .setInUse mode => setInUse mode

/-- Any number of operations on one session, with any answers. -/
def sessionSystem (ι : Type) :
    System ι SessionRequest Point Question Answer (ServiceSession ι Unit) Unit Empty where
  program := serveSession
  mayBegin _ _ _ := true
  onBegin _ _ s := s
  respond _ _ _ s := some s
  onFinish _ _ _ s := s
  world w := nomatch w

omit [DecidableEq ι] in
/-- Every request of the session. -/
theorem apart_serve {i : ι} {s : ServiceSession ι Unit} (kind : SessionRequest) (h : Apart i s)
    (hs : Settled s) : Safe (bookkeeping i) (fun _ => Apart i) (serveSession i kind) s := by
  cases kind with
  | prepare generation =>
    exact (apart_prepareIf generation false h hs).bind hs fun _ t _ h => apart_pure _ h
  | prepareIdle generation =>
    exact (apart_prepareIf generation true h hs).bind hs fun _ t _ h => apart_pure _ h
  | setTun on => exact (apart_setTun on h hs).bind hs fun _ t _ h => apart_pure _ h
  | poll => exact apart_poll h hs
  | probeMode => exact (apart_probeMode h hs).bind hs fun _ t _ h => apart_pure _ h
  | shutdown => exact apart_shutdown h hs
  | diagnostics =>
    refine (apart_exchange (by simp) _ _ (recordsAs_nothing fun response f => ?_) h hs).bind hs
      fun _ t _ h => apart_pure _ h
    cases response <;> rfl
  | claim generation => exact apart_claim generation h hs
  | releaseClaim => exact apart_store h fun _ => ⟨rfl, rfl, rfl⟩
  | setInUse mode => exact apart_store h fun _ => ⟨rfl, rfl, rfl⟩

/-- The last completed exchange found the connection's generation healthy, and its tunnel on
where it uses one. -/
def FoundUp (s : ServiceSession ι Unit) : Prop :=
  ∃ generation, s.owner = some generation ∧
    (readiness s.history).prepared = some generation ∧ (readiness s.history).healthy = true ∧
      (s.inUse = .tun → (readiness s.history).tunOn = true)

omit [DecidableEq ι] in
/-- Settled flags never report a connection lost that the last exchange found up. -/
theorem Settled.connectionLost {s : ServiceSession ι Unit} (hs : Settled s) (hfree : s.lock = none)
    (hup : FoundUp s) : s.connectionLost = false := by
  obtain ⟨generation, howner, hprepared, hhealthy, htun⟩ := hup
  have hflags := hs hfree
  rw [← hflags] at hprepared hhealthy htun
  have hp : s.prepared = some generation := hprepared
  have hh : s.healthy = true := hhealthy
  cases hu : s.inUse with
  | none => simp [ServiceSession.connectionLost, hu]
  | proxy =>
    simp [ServiceSession.connectionLost, hu, ServiceSession.coresReady, ServiceSession.replaced,
      howner, hp, hh]
  | tun =>
    have ht : s.tunOn = true := htun hu
    simp [ServiceSession.connectionLost, hu, ServiceSession.coresReady, ServiceSession.replaced,
      howner, hp, hh, ht]

/-- The operations fit together: the flags belong to whoever holds the transport lock. -/
theorem fits_bookkeeping :
    Fits (sessionSystem ι) Settled Apart (fun i _ => bookkeeping i) (fun i _ _ => Apart i)
      (fun _ _ => True) where
  inv_eq _ _ := rfl
  guar_rely := by
    intro i j k l s t hne _ _ ⟨haway, hholds⟩
    refine ⟨?_, fun hj => ?_⟩
    · rintro f history ⟨hl, hf, hh⟩
      have hi : s.lock ≠ some i := by
        rw [hl]
        simpa using Ne.symm hne
      obtain ⟨hflags, hhistory, hlock | ⟨hfree, -⟩⟩ := haway hi
      · exact ⟨hlock.trans hl, hflags.trans hf, hhistory.trans hh⟩
      · simp [hl] at hfree
    · by_cases hi : s.lock = some i
      · rcases hholds hi with hlock | hlock <;> simp [hlock, hne]
      · obtain ⟨-, -, hlock | ⟨-, hlock⟩⟩ := haway hi
        · rwa [hlock]
        · simp [hlock, hne]
  idle_rely i k s t _ h hrely := hrely.2 h
  begin i k s hs h _ := ⟨hs, fun j l _ => (bookkeeping j).rely_refl s, apart_serve k h hs⟩
  finish i k r s hs h := ⟨hs, h, fun j l _ => (bookkeeping j).rely_refl s⟩
  change w := nomatch w

/-- A step that lets go of the lock, or stores late, finds what its operation leaves. -/
def StoresInTime
    (e : Transition.Edge
      (Config ι SessionRequest Point Question Answer (ServiceSession ι Unit) Unit)
      (Label ι SessionRequest Point Question Answer Unit Empty)) : Prop :=
  ∀ i kind point, e.label = .ran i kind point → InTime e.source.shared point

/-- A session without requests. -/
def idleSession (ι : Type) :
    Config ι SessionRequest Point Question Answer (ServiceSession ι Unit) Unit :=
  ⟨.new (), fun _ => none⟩

/-- In every run whose late stores are in time, the flags are the fold of the exchanges whenever
the transport lock is free, and no connection found up is reported lost. -/
theorem readiness_in_order {d : Config ι SessionRequest Point Question Answer
      (ServiceSession ι Unit) Unit}
    {es : List (Transition.Edge _ _)} (hrun : (sessionSystem ι).Run (idleSession ι) es d)
    (htime : ∀ e ∈ es, StoresInTime e) :
    ∀ e ∈ es, e.target.shared.lock = none →
      e.target.shared.flags = readiness e.target.shared.history ∧
        (FoundUp e.target.shared → e.target.shared.connectionLost = false) := by
  have hstart : AllSafe (K := SessionRequest) (ρ := Unit) Settled Apart
      (fun i _ => bookkeeping i) (fun i _ _ => Apart i) (idleSession ι) :=
    ⟨fun _ => rfl, fun i _ => by simp [Apart, idleSession, ServiceSession.new],
      fun i k task h => by simp [idleSession] at h⟩
  have hgrant : ∀ e ∈ es,
      Granted (sessionSystem ι) (fun i _ => bookkeeping i) (fun _ _ => True) e := by
    intro e he
    have hin := htime e he
    cases hl : e.label <;> simp only [Granted, hl]
    case ran i kind point => exact hin i kind point hl
    case answered i kind question answer =>
      intro t ht
      exact (Option.some.inj ht).symm
  intro e he hfree
  have hsettled := (hstart.run_targets fits_bookkeeping hrun hgrant e he).inv
  exact ⟨hsettled hfree, hsettled.connectionLost hfree⟩

/-- A `Prepare` over a fresh channel that the service answers. -/
def prepareAnswered (i generation : Nat) : List (Move Nat SessionRequest Question Answer Empty) :=
  [[.begin i (.prepare generation)], Move.goOn i 9, [.answer i .connect (.ok ())], Move.goOn i 2,
    [.answer i (.request (.prepare generation)) (.ok (.prepared generation ⟨9090, "secret", 7890⟩))],
    Move.goOn i 8].flatten

/-- A poll finds no channel and lets go of the lock; a connection is made; then the poll stores. -/
def latePoll : List (Move Nat SessionRequest Question Answer Empty) :=
  [[.begin 0 .poll], Move.goOn 0 4, [.begin 1 (.claim 5)], Move.goOn 1 4, prepareAnswered 1 5,
    [.begin 1 (.setInUse .proxy)], Move.goOn 1 2, Move.goOn 0 2].flatten

/-- A late store of a poll reports a connection lost that the last exchange found up. -/
theorem readiness_out_of_order :
    ∃ es d, (sessionSystem Nat).Run (idleSession Nat) es d ∧ d.shared.lock = none ∧
      d.shared.flags ≠ readiness d.shared.history ∧ FoundUp d.shared ∧
        d.shared.connectionLost = true := by
  obtain ⟨es, d, hrun, hd⟩ := (sessionSystem Nat).exists_run (idleSession Nat) latePoll
    (fun _ d => d.shared.lock.isNone && d.shared.connectionLost &&
      decide (d.shared.flags ≠ readiness d.shared.history) && d.shared.owner == some 5 &&
      (readiness d.shared.history).prepared == some 5 && (readiness d.shared.history).healthy &&
      d.shared.inUse == .proxy) rfl
  simp only [Bool.and_eq_true, Option.isNone_iff_eq_none, decide_eq_true_eq, beq_iff_eq] at hd
  obtain ⟨⟨⟨⟨⟨⟨hfree, hlost⟩, hflags⟩, howner⟩, hprepared⟩, hhealthy⟩, hmode⟩ := hd
  exact ⟨es, d, hrun, hfree, hflags, ⟨5, howner, hprepared, hhealthy, by simp [hmode]⟩, hlost⟩

/-- A played run whose late stores are in time. -/
private theorem storesInTime_of_all
    {es : List (Transition.Edge
      (Config Nat SessionRequest Point Question Answer (ServiceSession Nat Unit) Unit)
      (Label Nat SessionRequest Point Question Answer Unit Empty))}
    (h : es.all (fun e => match e.label with
      | .ran _ _ point => decide (InTime e.source.shared point)
      | _ => true) = true) : ∀ e ∈ es, StoresInTime e := by
  intro e he i kind point hl
  have := List.all_eq_true.mp h e he
  simpa [hl] using this

/-- A failed poll stores. -/
def storesLate {ι : Type} : Label ι SessionRequest Point Question Answer Unit Empty → Bool
  | .ran _ _ .lateUnhealthy => true
  | _ => false

/-- A generation is prepared; a poll fails and a shutdown finds no channel, and both store late what
the failure has already stored under the lock; then another generation is prepared. -/
def latePollInTime : List (Move Nat SessionRequest Question Answer Empty) :=
  [prepareAnswered 1 5, [.begin 0 .poll], Move.goOn 0 4,
    [.answer 0 (.request .status) (.error .disconnected)], Move.goOn 0 5, [.begin 1 .shutdown],
    Move.goOn 1 8, Move.goOn 0 2, prepareAnswered 1 6].flatten

/-- A run with a store that is in time although the transport lock was given back before. -/
theorem readiness_in_order_lateInTime :
    ∃ es d, (sessionSystem Nat).Run (idleSession Nat) es d ∧
      (∃ e ∈ es, storesLate e.label = true) ∧ d.shared.flags.prepared = some 6 ∧
      d.shared.healthy = true ∧ ∀ e ∈ es, e.target.shared.lock = none →
        e.target.shared.flags = readiness e.target.shared.history ∧
          (FoundUp e.target.shared → e.target.shared.connectionLost = false) := by
  obtain ⟨es, d, hrun, hd⟩ := (sessionSystem Nat).exists_run (idleSession Nat) latePollInTime
    (fun es d => es.any (fun e => storesLate e.label) &&
      decide (d.shared.flags.prepared = some 6) && d.shared.healthy && es.all (fun e =>
        match e.label with
        | .ran _ _ point => decide (InTime e.source.shared point)
        | _ => true)) (by decide +kernel)
  simp only [Bool.and_eq_true, decide_eq_true_eq] at hd
  obtain ⟨⟨⟨hlate, hprepared⟩, hhealthy⟩, htime⟩ := hd
  exact ⟨es, d, hrun, List.any_eq_true.mp hlate, hprepared, hhealthy,
    readiness_in_order hrun (storesInTime_of_all htime)⟩

end Runs

end MultiCore.Daemon
