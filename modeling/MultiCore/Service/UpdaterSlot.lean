import MultiCore.Service.Ownership
import Mathlib.Data.List.Perm.Basic

/-!
# The updater and its slot

An update takes the updater out of the loop, downloads without the lock and
brings the updater back in its last phase. The flag `updating` says whether an
update is on its way, so the slot is empty exactly while one is, and a second
one is turned away. Everything else the loop does leaves the slot alone.
-/

namespace MultiCore.Service

/-- A slow command that holds the updater. -/
def Running.isUpdate {U : Type*} : Running U → Bool
  | troubleshoot _ _ => false
  | update _ _ _ _ => true

/-- A command that works without the lock between its two phases. -/
def slow : ServiceCommand → Bool
  | .update _ => true
  | .stageUpdate _ => true
  | .troubleshoot _ => true
  | _ => false

namespace ServiceLoop

variable {C U T : Type*}

/-- The updater in its slot, and whether one is out. -/
def slots (s : ServiceLoop C U T) : Option U × Bool := (s.updater, s.updating)

section Frame

variable [Cores C]

theorem slots_tunnelBack (s : ServiceLoop C U T) (tunnel : Bool) :
    (s.tunnelBack tunnel).slots = s.slots := by
  unfold tunnelBack
  split
  · split <;> rfl
  · rfl

theorem slots_prepareAfresh (s : ServiceLoop C U T) (client : ClientIdentity) (generation : Nat) :
    (s.prepareAfresh client generation).1.slots = s.slots := by
  unfold prepareAfresh
  dsimp only
  split
  · rw [slots_tunnelBack]
    rfl
  · rfl

theorem slots_prepare (s : ServiceLoop C U T) (client : ClientIdentity) (generation : Nat) :
    (s.prepare client generation).1.slots = s.slots := by
  have hstill : (s.stillRuns generation).1.slots = s.slots := by
    rcases s.stillRuns_fst generation with hs | hs <;> rw [hs]
    rfl
  unfold prepare
  split
  · rename_i t endpoint hr
    simpa only [hr] using hstill
  · rename_i t hr
    rw [slots_prepareAfresh]
    simpa only [hr] using hstill

theorem slots_setTun (s : ServiceLoop C U T) (on : Bool) : (s.setTun on).1.slots = s.slots := by
  rcases s.setTun_cases on with ⟨-, hs⟩ | ⟨-, -, hs⟩ |
    ⟨-, -, -, c, result, -, ⟨-, hs⟩ | ⟨code, -, hs⟩⟩ |
    ⟨-, -, -, c, result, -, ⟨-, hs⟩ | ⟨code, -, hs⟩⟩ <;> rw [hs] <;> rfl

theorem slots_crashed (s : ServiceLoop C U T) : s.crashed.slots = s.slots := by
  unfold crashed
  dsimp only
  split
  · rfl
  · split
    · rw [slots_tunnelBack]
      rfl
    · rfl

theorem slots_tick (s : ServiceLoop C U T) : s.tick.slots = s.slots := by
  unfold tick
  split
  · rfl
  · split
    · rfl
    · dsimp only
      split
      · rfl
      · rw [slots_crashed]
        rfl

theorem slots_clientGone (s : ServiceLoop C U T) (connection : ConnectionId) :
    (s.clientGone connection).slots = s.slots := by
  unfold clientGone
  split <;> rfl

end Frame

theorem slots_startTroubleshoot (s : ServiceLoop C U T) (client : ClientIdentity)
    (fixes : List PrivilegedFix) : (s.startTroubleshoot client fixes).1.slots = s.slots := by
  unfold startTroubleshoot
  repeat' split
  all_goals rfl

/-- A command that is not slow leaves the slot alone. -/
theorem slots_execute [Cores C] [ServiceUpdater U] [Troubleshooter T] (logs : LogReader)
    (s : ServiceLoop C U T) (connection : ConnectionId) (client : ClientIdentity)
    (command : ServiceCommand) (hquick : slow command = false) :
    (s.execute logs connection client command).1.slots = s.slots := by
  unfold execute
  split
  · rfl
  · cases command with
    | prepare generation => exact slots_prepare _ client generation
    | setTun on => exact slots_setTun _ on
    | serviceLog file before =>
      dsimp only
      split <;> rfl
    | coreJournal sinceMs cursor =>
      dsimp only
      split <;> rfl
    | update version => cases hquick
    | stageUpdate version => cases hquick
    | troubleshoot fixes => cases hquick
    | _ => rfl

/-- The updater is taken only from a slot that has it, while no update is on its way. -/
theorem startUpdate_cases (s : ServiceLoop C U T) (client : ClientIdentity) :
    (∃ response, s.startUpdate client = (s, .error response)) ∨
    ∃ updater, s.updating = false ∧ s.updater = some updater ∧
      s.startUpdate client = ({ s with updater := none, updating := true }, .ok ⟨updater⟩) := by
  unfold startUpdate
  split
  · exact Or.inl ⟨_, rfl⟩
  · rename_i hfree
    have hupdating : s.updating = false := by
      simp only [Bool.or_eq_true, not_or, Bool.not_eq_true] at hfree
      exact hfree.2
    split
    · exact Or.inl ⟨_, rfl⟩
    · rename_i updater hslot
      exact Or.inr ⟨updater, hupdating, hslot, rfl⟩

/-- The last phase of a staged download brings the updater back and stops nothing. -/
theorem finishStage_slots (s : ServiceLoop C U T) (version : String) (pending : PendingUpdate U)
    (prepared : Except BrokerErrorCode Unit) :
    (s.finishStage version pending prepared).1.slots = (some pending.updater, false) ∧
      (s.finishStage version pending prepared).1.session = s.session := ⟨rfl, rfl⟩

/-- The last phase of an update brings an updater back on every path. -/
theorem finishUpdate_slots [Cores C] [ServiceUpdater U] (s : ServiceLoop C U T)
    (client : ClientIdentity) (version : String) (pending : PendingUpdate U)
    (prepared : Except BrokerErrorCode Unit) :
    ∃ updater, (s.finishUpdate client version pending prepared).1.slots = (some updater, false) := by
  unfold finishUpdate
  dsimp only
  split
  · exact ⟨_, rfl⟩
  · split <;> exact ⟨_, rfl⟩

end ServiceLoop

namespace SharedService

variable {C U T : Type*}

/-- One update at most is on its way, and the updater of a service built with one is in its slot
exactly when none is. -/
structure SlotSound (built : Bool) (s : SharedService C U T) : Prop where
  one : s.running.countP Running.isUpdate = if s.loop.updating then 1 else 0
  slot : s.loop.updater.isSome = (built && !s.loop.updating)
  taken : s.loop.updating = true → built = true

/-- What leaves the slot and the number of updates alone keeps them in order. -/
theorem SlotSound.frame {built : Bool} {s t : SharedService C U T} (h : SlotSound built s)
    (hslots : t.loop.slots = s.loop.slots)
    (hcount : t.running.countP Running.isUpdate = s.running.countP Running.isUpdate) :
    SlotSound built t := by
  have hupdater : t.loop.updater = s.loop.updater := congrArg Prod.fst hslots
  have hupdating : t.loop.updating = s.loop.updating := congrArg Prod.snd hslots
  constructor
  · rw [hcount, hupdating]
    exact h.one
  · rw [hupdater, hupdating]
    exact h.slot
  · rw [hupdating]
    exact h.taken

theorem SlotSound.beginUpdate {built : Bool} {s : SharedService C U T} (h : SlotSound built s)
    (client : ClientIdentity) (version : String) (stageOnly : Bool) :
    SlotSound built (s.beginUpdate client version stageOnly).1 := by
  unfold SharedService.beginUpdate
  rcases s.loop.startUpdate_cases client with ⟨response, hs⟩ | ⟨updater, hfree, hslot, hs⟩
  · rw [hs]
    exact h
  · have hbuilt : built = true := by
      have hsome := h.slot
      rw [hslot, hfree] at hsome
      simpa using hsome.symm
    have hnone : s.running.countP Running.isUpdate = 0 := by
      have hone := h.one
      rw [hfree] at hone
      simpa using hone
    rw [hs]
    constructor
    · simp [List.countP_append, hnone, Running.isUpdate]
    · simp
    · exact fun _ => hbuilt

theorem SlotSound.beginTroubleshoot {built : Bool} {s : SharedService C U T}
    (h : SlotSound built s) (client : ClientIdentity) (fixes : List PrivilegedFix) :
    SlotSound built (s.beginTroubleshoot client fixes).1 := by
  have hslots := s.loop.slots_startTroubleshoot client fixes
  unfold SharedService.beginTroubleshoot
  rcases hs : s.loop.startTroubleshoot client fixes with ⟨loop, response | troubleshooter⟩ <;>
    rw [hs] at hslots
  · exact h.frame hslots rfl
  · exact h.frame hslots (by simp [List.countP_append, Running.isUpdate])

/-- Taking a slow command off the list takes one from the count when it is an update. -/
private theorem countP_eraseIdx {running : List (Running U)} {index : Nat} {command : Running U}
    (h : running[index]? = some command) :
    (running.eraseIdx index).countP Running.isUpdate + (if command.isUpdate then 1 else 0) =
      running.countP Running.isUpdate := by
  obtain ⟨hlt, hget⟩ := List.getElem?_eq_some_iff.1 h
  have hperm := (List.getElem_cons_eraseIdx_perm hlt).countP_eq Running.isUpdate
  rw [List.countP_cons, hget] at hperm
  exact hperm

/-- The last phase of an update ends the only one there is. -/
theorem SlotSound.finished {built : Bool} {s : SharedService C U T} (h : SlotSound built s)
    {index : Nat} {client : ClientIdentity} {version : String} {stageOnly : Bool}
    {pending : PendingUpdate U} {loop : ServiceLoop C U T} {updater : U}
    (hrunning : s.running[index]? = some (.update client version stageOnly pending))
    (hslots : loop.slots = (some updater, false)) :
    SlotSound built ⟨loop, s.running.eraseIdx index⟩ ∧
      ∀ r ∈ s.running.eraseIdx index, r.isUpdate = false := by
  have hcount := countP_eraseIdx hrunning
  have hone := h.one
  have hupdating : s.loop.updating = true := by
    by_contra hfree
    rw [if_neg hfree] at hone
    simp only [Running.isUpdate, if_true] at hcount
    omega
  have hnone : (s.running.eraseIdx index).countP Running.isUpdate = 0 := by
    rw [hupdating] at hone
    simp only [Running.isUpdate, if_true] at hcount hone
    omega
  have hupdater : loop.updater = some updater := congrArg Prod.fst hslots
  have hdone : loop.updating = false := congrArg Prod.snd hslots
  constructor
  · constructor
    · simpa [hdone] using hnone
    · simp [hupdater, hdone, h.taken hupdating]
    · simp [hdone]
  · intro r hr
    simpa using List.countP_eq_zero.1 hnone r hr

variable [Cores C] [ServiceUpdater U]

theorem SlotSound.finishShared {built : Bool} {s : SharedService C U T} (h : SlotSound built s)
    (index : Nat) (result : SlowResult U) : SlotSound built (s.finishShared index result).1 := by
  unfold SharedService.finishShared
  split
  · rename_i client fixes outcomes hrunning
    have hcount := countP_eraseIdx hrunning
    exact h.frame rfl (by simpa [Running.isUpdate] using hcount)
  · rename_i client version stageOnly pending updater prepared hrunning
    dsimp only
    split
    · exact (h.finished hrunning (s.loop.finishStage_slots version ⟨updater⟩ prepared).1).1
    · obtain ⟨back, hslots⟩ := s.loop.finishUpdate_slots client version ⟨updater⟩ prepared
      exact (h.finished hrunning hslots).1
  · exact h

variable [Troubleshooter T]

/-- A command that is not slow is one section under the lock. -/
theorem executeShared_quick (logs : LogReader) (s : SharedService C U T)
    (connection : ConnectionId) (client : ClientIdentity) {command : ServiceCommand}
    (hquick : slow command = false) :
    (s.executeShared logs connection client command).1 =
      { s with loop := (s.loop.execute logs connection client command).1 } := by
  cases command with
  | update version => cases hquick
  | stageUpdate version => cases hquick
  | troubleshoot fixes => cases hquick
  | _ => rfl

theorem SlotSound.executeShared {built : Bool} {s : SharedService C U T} (h : SlotSound built s)
    (logs : LogReader) (connection : ConnectionId) (client : ClientIdentity)
    (command : ServiceCommand) :
    SlotSound built (s.executeShared logs connection client command).1 := by
  by_cases hslow : slow command = true
  · cases command with
    | update version => exact h.beginUpdate client version false
    | stageUpdate version => exact h.beginUpdate client version true
    | troubleshoot fixes => exact h.beginTroubleshoot client fixes
    | _ => cases hslow
  · have hquick : slow command = false := by simpa using hslow
    rw [executeShared_quick logs s connection client hquick]
    exact h.frame (s.loop.slots_execute logs connection client command hquick) rfl

/-- Every section under the lock keeps the slot in order. -/
theorem SlotSound.handle {built : Bool} {s : SharedService C U T} (h : SlotSound built s)
    (logs : LogReader) (e : Event U) : SlotSound built (s.handle logs e).1 := by
  cases e with
  | command connection client command => exact h.executeShared logs connection client command
  | finish index result => exact h.finishShared index result
  | tick => exact h.frame s.loop.slots_tick rfl
  | closed connection => exact h.frame (s.loop.slots_clientGone connection) rfl
  | stopping => exact h.frame rfl rfl
  | progress progress => exact h.frame rfl rfl

/-- What holds of the updater in a state of a service that was built with one, or without. -/
structure UpdaterKept (logs : LogReader) (built : Bool) (s : SharedService C U T) : Prop where
  /-- The updater is in its slot exactly when no update is on its way. -/
  slot : s.loop.updater.isSome = true ↔ built = true ∧ ∀ r ∈ s.running, r.isUpdate = false
  single : s.running.countP Running.isUpdate ≤ 1
  /-- Beginning an update or a staged download does nothing to the cores. -/
  begins : ∀ connection client version,
    (s.handle logs (.command connection client (.update version))).1.loop.session =
        s.loop.session ∧
      (s.handle logs (.command connection client (.stageUpdate version))).1.loop.session =
        s.loop.session
  /-- The last phase brings the updater back whatever happened, and acts on the cores only for an
  update that was prepared and whose client is still let through. -/
  finishes : ∀ index client version stageOnly pending updater prepared,
    s.running[index]? = some (.update client version stageOnly pending) →
    (s.handle logs (.finish index (.downloaded updater prepared))).1.loop.updater.isSome = true ∧
      (∀ r ∈ (s.handle logs (.finish index (.downloaded updater prepared))).1.running,
        r.isUpdate = false) ∧
      ((s.handle logs (.finish index (.downloaded updater prepared))).1.loop.session =
          s.loop.session ∨
        stageOnly = false ∧ prepared = .ok () ∧ s.loop.heldByOther client = false)

omit [ServiceUpdater U] [Cores C] [Troubleshooter T] in
private theorem SlotSound.slot_iff {built : Bool} {s : SharedService C U T}
    (h : SlotSound built s) :
    s.loop.updater.isSome = true ↔ built = true ∧ ∀ r ∈ s.running, r.isUpdate = false := by
  have hnone : (∀ r ∈ s.running, r.isUpdate = false) ↔ s.loop.updating = false := by
    have hcount : s.running.countP Running.isUpdate = 0 ↔ ∀ r ∈ s.running, r.isUpdate = false := by
      simp [List.countP_eq_zero]
    rw [← hcount, h.one]
    cases s.loop.updating <;> simp
  rw [hnone, h.slot]
  simp

/-- In every run of the service, every state reached keeps its updater. -/
theorem updater_kept (logs : LogReader) (cores : C) (updater : Option U)
    (progress : Option UpdateProgress) (troubleshooter : Option T) (directory : Option String)
    {es : List (Transition.Edge (SharedService C U T) (Event U))} {t : SharedService C U T}
    (hrun : Run logs (new cores updater progress troubleshooter directory) es t) :
    UpdaterKept logs updater.isSome t := by
  have hstart : SlotSound updater.isSome
      (new cores updater progress troubleshooter directory : SharedService C U T) := by
    constructor
    · rfl
    · simp [new, ServiceLoop.new]
    · exact fun h => nomatch h
  have hsound : SlotSound updater.isSome t := by
    refine hrun.invariant hstart fun {s e u} hs hstep => ?_
    rw [← hstep]
    exact hs.handle logs e
  constructor
  case slot => exact hsound.slot_iff
  case single =>
    rw [hsound.one]
    split <;> omega
  case begins =>
    intro connection client version
    exact ⟨session_beginUpdate t client version false, session_beginUpdate t client version true⟩
  case finishes =>
    intro index client version stageOnly pending updater prepared hrunning
    cases stageOnly with
    | true =>
      obtain ⟨hslots, hsession⟩ := t.loop.finishStage_slots version ⟨updater⟩ prepared
      have hdone := (hsound.finished hrunning hslots).2
      simp only [handle, finishShared, hrunning, if_true]
      exact ⟨rfl, hdone, Or.inl hsession⟩
    | false =>
      obtain ⟨back, hslots⟩ := t.loop.finishUpdate_slots client version ⟨updater⟩ prepared
      have hdone := (hsound.finished hrunning hslots).2
      have hback : (t.loop.finishUpdate client version ⟨updater⟩ prepared).1.updater = some back :=
        congrArg Prod.fst hslots
      have hsession := t.loop.session_finishUpdate client version ⟨updater⟩ prepared
      simp only [handle, finishShared, hrunning, Bool.false_eq_true, if_false]
      refine ⟨by rw [hback]; rfl, hdone, ?_⟩
      by_cases hgo : prepared = .ok () ∧ t.loop.heldByOther client = false
      · exact Or.inr ⟨trivial, hgo⟩
      · rw [if_neg hgo] at hsession
        exact Or.inl hsession

end SharedService

section Scripted

/-- An updater that prepares and hands over every version. -/
structure Willing where

instance : ServiceUpdater Willing where
  prepare u _ _ := (u, .ok ())
  begin u _ _ := (u, .ok ())

/-- A staged download of one client is overtaken by an update of another, which is turned away. -/
def stagedThenUpdated : List (Event Willing) :=
  [.command ⟨1⟩ alice (.prepare 1), .command ⟨2⟩ alice (.stageUpdate "2.0.0"),
    .command ⟨1⟩ alice (.update "2.0.0"), .finish 0 (.downloaded ⟨⟩ (.ok ())),
    .command ⟨1⟩ alice (.update "2.0.0")]

/-- A service over scripted cores that was built with an updater. -/
def updatable : SharedService ScriptedCores Willing AllDone :=
  SharedService.new ⟨false, []⟩ (some ⟨⟩) none (some ⟨⟩) none

theorem updater_kept_stagedThenUpdated :
    SharedService.UpdaterKept emptyLogs true
      (stagedThenUpdated.foldl (fun s e => (s.handle emptyLogs e).1) updatable) := by
  have hrun := Transition.run_trace (fun s e => (SharedService.handle emptyLogs s e).1) updatable
    stagedThenUpdated
  exact SharedService.updater_kept emptyLogs (ScriptedCores.mk false []) (some Willing.mk) none
    (some AllDone.mk) none hrun

end Scripted

end MultiCore.Service
