import MultiCore.Update.Swap
import Mathlib.Logic.Function.Basic

/-!
# No version is lost in the swap

The entries of the parent directory under every fault of a call: a rename
happens or does not, a removal may stop anywhere, and the updater may be cut
short after any of them. The previous version stays complete at the install
directory or at its backup until a start marker with the new version was read,
and a finished updater leaves a complete version in the install directory unless
two renames into it failed.
-/

namespace MultiCore.Update

open Faulty

/-- What an entry of the parent directory holds. -/
inductive Tree where
  | old
  | new
  | other
  deriving DecidableEq, Repr

/-- One attempt at a rename. -/
structure Attempt where
  source : String
  destination : String
  done : Bool
  deriving DecidableEq, Repr

/-- The parent directory with a record of the renames, newest first, and whether a start marker
with the new version was read. -/
structure Parent where
  entries : String → Option Tree
  attempts : List Attempt
  confirmed : Bool

/-- How the newest attempt at a rename went. -/
def Parent.lastAttempt (s : Parent) (source destination : String) : Option Bool :=
  (s.attempts.find? fun a => a.source = source && a.destination = destination).map Attempt.done

/-- A rename that was given up. -/
def Parent.GaveUp (s : Parent) (source destination : String) : Prop :=
  s.lastAttempt source destination = some false

/-- Calls that leave the parent directory alone. -/
def UpdaterAsk.Looks : UpdaterAsk → Prop
  | extractVerifiedBundle _ | rename _ _ | removeDirAll _ | readMarker | canonicalizeTarget => False
  | _ => True

/-- What a call does to the parent directory. A crash in the middle of a call leaves what the call
can leave when it fails. -/
inductive UpdaterResponds (target version : String) :
    (q : UpdaterAsk) → Parent → UpdaterAnswer q → Parent → Prop
  | looked (q : UpdaterAsk) (s : Parent) (answer : UpdaterAnswer q) (looks : q.Looks) :
      UpdaterResponds target version q s answer s
  | notResolved (s : Parent) (error : IoError) :
      UpdaterResponds target version .canonicalizeTarget s (.error error) s
  | resolved (s : Parent) : UpdaterResponds target version .canonicalizeTarget s (.ok target) s
  /-- The destination is made by the extraction. -/
  | extracted (s : Parent) (name : String) (absent : s.entries name = none) :
      UpdaterResponds target version (.extractVerifiedBundle name) s true
        { s with entries := Function.update s.entries name (some .new) }
  | notExtracted (s : Parent) (name : String) (left : Option Tree)
      (partly : left = s.entries name ∨ s.entries name = none ∧ left = some .other) :
      UpdaterResponds target version (.extractVerifiedBundle name) s false
        { s with entries := Function.update s.entries name left }
  /-- A directory with a version in it is not replaced. -/
  | renamed (s : Parent) (source destination : String) (tree : Tree)
      (present : s.entries source = some tree)
      (free : s.entries destination = none ∨ s.entries destination = some .other) :
      UpdaterResponds target version (.rename source destination) s (.ok ())
        { s with
          entries := Function.update (Function.update s.entries source none) destination (some tree)
          attempts := ⟨source, destination, true⟩ :: s.attempts }
  | notRenamed (s : Parent) (source destination : String) (error : IoError) :
      UpdaterResponds target version (.rename source destination) s (.error error)
        { s with attempts := ⟨source, destination, false⟩ :: s.attempts }
  | removed (s : Parent) (name : String) :
      UpdaterResponds target version (.removeDirAll name) s (.ok ())
        { s with entries := Function.update s.entries name none }
  | notRemoved (s : Parent) (name : String) (left : Option Tree) (error : IoError)
      (partly : left = s.entries name ∨ s.entries name ≠ none ∧ left = some .other) :
      UpdaterResponds target version (.removeDirAll name) s (.error error)
        { s with entries := Function.update s.entries name left }
  | markerRead (s : Parent) (content : Option String) :
      UpdaterResponds target version .readMarker s content
        { s with confirmed := s.confirmed || markerConfirms version content }

/-- The environment as a relation between a question, its answer and the folder after it. -/
def updaterEnvironment (target version : String) : Environment UpdaterAsk UpdaterAnswer Parent :=
  fun q s answer t => UpdaterResponds target version q s answer t

/-- The previous version is complete at the install directory or at its backup, until the new
client is confirmed. -/
def Parent.Kept (target backup : String) (s : Parent) : Prop :=
  s.entries target = some .old ∨ s.entries backup = some .old ∨ s.confirmed = true

/-- A complete version in the install directory. -/
def Parent.Complete (target : String) (s : Parent) : Prop :=
  s.entries target = some .old ∨ s.entries target = some .new

/-- Two renames into the install directory failed: the publication or the restoration of the new
version, and the restoration of the previous one. -/
def Parent.Stranded (request : ApplyRequest) (target : String) (s : Parent) : Prop :=
  s.GaveUp request.backup target ∧
    (s.GaveUp request.staged target ∨ s.GaveUp request.failed target)

/-- The rename of an entry was made. -/
structure Moved (source destination : String) (s t : Parent) : Prop where
  entries : ∃ tree, s.entries source = some tree ∧
    t.entries = Function.update (Function.update s.entries source none) destination (some tree)
  free : s.entries destination = none ∨ s.entries destination = some .other
  confirmed : t.confirmed = s.confirmed

/-- A rename was attempted in vain, if at all. -/
structure Tried (source destination : String) (s t : Parent) : Prop where
  entries : t.entries = s.entries
  confirmed : t.confirmed = s.confirmed
  others : ∀ a b, ¬(source = a ∧ destination = b) → t.lastAttempt a b = s.lastAttempt a b

/-- A rename was given up. -/
structure Stuck (source destination : String) (s t : Parent) : Prop
    extends Tried source destination s t where
  gaveUp : t.GaveUp source destination

/-- A rename that was tried keeps a program in place, done or not. -/
theorem Tried.kept {source destination target backup : String} {s t : Parent}
    (h : Tried source destination s t) (hs : s.Kept target backup) : t.Kept target backup := by
  rw [Parent.Kept, h.entries, h.confirmed]
  exact hs

/-- One more attempt. -/
theorem Tried.attempt {target version source destination : String} {s t u : Parent}
    {answer : Except IoError Unit} (h : Tried source destination s t)
    (hanswer : updaterEnvironment target version (.rename source destination) t answer u) :
    match answer with
    | .ok _ => Moved source destination s u
    | .error _ => Stuck source destination s u := by
  cases hanswer with
  | looked _ _ _ looks => exact absurd looks (by simp [UpdaterAsk.Looks])
  | renamed _ _ _ tree present free =>
    rw [h.entries] at present free
    refine ⟨⟨tree, present, ?_⟩, free, h.confirmed⟩
    rw [h.entries]
  | notRenamed _ _ _ error =>
    refine ⟨⟨h.entries, h.confirmed, fun a b hne => ?_⟩, ?_⟩
    · rw [← h.others a b hne, Parent.lastAttempt, List.find?_cons_of_neg (by simpa using hne)]
      rfl
    · rw [Parent.GaveUp, Parent.lastAttempt, List.find?_cons_of_pos (by simp)]
      rfl

/-- The program keeps the previous version after every call and ends with `post`. -/
abbrev Safely {α : Type} (target version backup : String) (program : UpdaterProgram α)
    (post : α → Parent → Prop) (s : Parent) : Prop :=
  wp (updaterEnvironment target version) (Parent.Kept target backup) program post s

namespace Safely

variable {α β : Type} {target version backup : String} {s : Parent}

/-- A postcondition may be weakened. -/
theorem mono {program : UpdaterProgram α} {post post' : α → Parent → Prop}
    (h : Safely target version backup program post s) (hpost : ∀ a t, post a t → post' a t) :
    Safely target version backup program post' s :=
  wp_mono h hpost

/-- The rule of composition. -/
theorem bind {program : UpdaterProgram α} {rest : α → UpdaterProgram β} {post : β → Parent → Prop}
    (h : Safely target version backup program
      (fun a => Safely target version backup (rest a) post) s) :
    Safely target version backup (program >>= rest) post s :=
  (wp_bind program rest post s).2 h

/-- A look at the parent directory changes nothing, whatever it shows. -/
theorem look {q : UpdaterAsk} {post : UpdaterAnswer q → Parent → Prop} (hq : q.Looks)
    (hs : s.Kept target backup) (h : ∀ answer, post answer s) :
    Safely target version backup (call q) post s := by
  intro answer t hanswer
  cases hanswer with
  | looked => exact ⟨hs, h answer⟩
  | _ => exact absurd hq (by simp [UpdaterAsk.Looks])

/-- A removal leaves every other entry alone. -/
theorem removeDirAll {name : String} {post : Except IoError Unit → Parent → Prop}
    (h : ∀ answer t, (∀ other, other ≠ name → t.entries other = s.entries other) →
      t.attempts = s.attempts → t.confirmed = s.confirmed → t.Kept target backup ∧ post answer t) :
    Safely target version backup (call (.removeDirAll name)) post s := by
  intro answer t hanswer
  have hothers : ∀ left other, other ≠ name →
      Function.update s.entries name left other = s.entries other :=
    fun left other hne => Function.update_of_ne hne left s.entries
  cases hanswer with
  | looked _ _ _ looks => exact absurd looks (by simp [UpdaterAsk.Looks])
  | removed => exact h _ _ (hothers none) rfl rfl
  | notRemoved _ _ left _ _ => exact h _ _ (hothers left) rfl rfl

/-- The marker is only looked at; a confirmation is noted. -/
theorem readMarker {post : Option String → Parent → Prop}
    (h : ∀ content t, t.entries = s.entries →
      (markerConfirms version content = true → t.confirmed = true) →
      t.Kept target backup ∧ post content t) :
    Safely target version backup (call .readMarker) post s := by
  intro content t hanswer
  cases hanswer with
  | looked _ _ _ looks => exact absurd looks (by simp [UpdaterAsk.Looks])
  | markerRead =>
    have hconfirmed : markerConfirms version content = true →
        (s.confirmed || markerConfirms version content) = true := by
      intro hconfirms
      rw [hconfirms, Bool.or_true]
    exact h content _ rfl hconfirmed

/-- The rule of an extraction: the current program stays, the new one is there when it succeeds. -/
theorem extract {name : String} {post : Bool → Parent → Prop} (hne : name ≠ target)
    (hold : s.entries target = some .old)
    (h : ∀ done t, t.entries target = some .old → (done = true → t.entries name = some .new) →
      post done t) :
    Safely target version backup (call (.extractVerifiedBundle name)) post s := by
  have hothers : ∀ left, Function.update s.entries name left target = some .old := by
    intro left
    rw [Function.update_of_ne hne.symm, hold]
  intro done t hanswer
  cases hanswer with
  | looked _ _ _ looks => exact absurd looks (by simp [UpdaterAsk.Looks])
  | extracted => exact ⟨Or.inl (hothers _), h _ _ (hothers _) fun _ => Function.update_self ..⟩
  | notExtracted => exact ⟨Or.inl (hothers _), h _ _ (hothers _) fun hd => nomatch hd⟩

/-- The rule of a path lookup: an error, or the target itself. -/
theorem canonicalize {post : Except IoError String → Parent → Prop} (hs : s.Kept target backup)
    (herror : ∀ error, post (.error error) s) (hok : post (.ok target) s) :
    Safely target version backup (call .canonicalizeTarget) post s := by
  intro answer t hanswer
  cases hanswer with
  | looked _ _ _ looks => exact absurd looks (by simp [UpdaterAsk.Looks])
  | notResolved _ error => exact ⟨hs, herror error⟩
  | resolved => exact ⟨hs, hok⟩

/-- A rename, retried while it fails for a moment. -/
theorem retryTransient {source destination : String} {post : Except IoError Unit → Parent → Prop}
    (hs : s.Kept target backup)
    (hmoved : ∀ t, Moved source destination s t → t.Kept target backup ∧ post (.ok ()) t)
    (hstuck : ∀ t error, Stuck source destination s t → post (.error error) t) (attempts : Nat) :
    Safely target version backup (Update.retryTransient source destination attempts) post s := by
  /- Every attempt starts from entries as they were at first. -/
  have htried : ∀ t, Tried source destination s t →
      Safely target version backup (Update.retryTransient source destination attempts) post t := by
    induction attempts with
    | zero =>
      intro t ht answer u hanswer
      have hu := ht.attempt hanswer
      cases answer with
      | ok _ => exact hmoved u hu
      | error error => exact ⟨hu.kept hs, hstuck u error hu⟩
    | succ remaining ih =>
      intro t ht
      unfold Update.retryTransient
      apply Safely.bind
      intro answer u hanswer
      have hu := ht.attempt hanswer
      cases answer with
      | ok _ => exact hmoved u hu
      | error error =>
        refine ⟨hu.kept hs, ?_⟩
        change Safely target version backup
          (if isTransientLock error then Update.retryTransient source destination remaining
            else pure (.error error)) post u
        by_cases htransient : isTransientLock error = true
        · rw [if_pos htransient]
          exact ih u hu.toTried
        · rw [if_neg htransient]
          exact hstuck u error hu
  exact htried s ⟨rfl, rfl, fun _ _ _ => rfl⟩

end Safely

section Phases

variable {request : ApplyRequest} {target : String} {s : Parent}

/-- The names the updater uses beside the install directory. -/
structure Names (request : ApplyRequest) (target : String) : Prop where
  staged : request.staged ≠ target
  failed : request.failed ≠ target

/-- The staged name is never the backup's. -/
theorem staged_ne_backup (request : ApplyRequest) : request.staged ≠ request.backup := by
  have hstaged : Text.startsWith request.staged stagePrefix = true := Text.startsWith_append _ _
  have hbackup : Text.startsWith request.backup backupPrefix = true := Text.startsWith_append _ _
  intro hsame
  rw [hsame] at hstaged
  exact absurd (Text.startsWith_or hstaged hbackup) (by decide)

/-- The name for a failed program is never the backup's. -/
theorem failed_ne_backup (request : ApplyRequest) : request.failed ≠ request.backup := by
  have hfailed : Text.startsWith request.failed failedPrefix = true := Text.startsWith_append _ _
  have hbackup : Text.startsWith request.backup backupPrefix = true := Text.startsWith_append _ _
  intro hsame
  rw [hsame] at hfailed
  exact absurd (Text.startsWith_or hfailed hbackup) (by decide)

/-- An install directory that is not named like a directory the updater clears away. -/
theorem Names.of_prefix (hstage : Text.startsWith target stagePrefix = false)
    (hfailed : Text.startsWith target failedPrefix = false) : Names request target where
  staged := by
    intro hsame
    have hstart : Text.startsWith request.staged stagePrefix = true := Text.startsWith_append _ _
    rw [hsame, hstage] at hstart
    exact nomatch hstart
  failed := by
    intro hsame
    have hstart : Text.startsWith request.failed failedPrefix = true := Text.startsWith_append _ _
    rw [hsame, hfailed] at hstart
    exact nomatch hstart

/-- The new version stands in the install directory, the previous one in its backup. -/
structure Published (request : ApplyRequest) (target : String) (s : Parent) : Prop where
  target : s.entries target = some .new
  backup : s.entries request.backup = some .old

/-- What a failed update leaves. -/
def Restored (request : ApplyRequest) (target : String) (s : Parent) : Prop :=
  s.entries target = some .old ∨
    s.entries request.backup = some .old ∧ (s.entries target = some .new ∨ s.Stranded request target)

/-- A restored installation has its program. -/
theorem Restored.kept (h : Restored request target s) : s.Kept target request.backup := by
  rcases h with htarget | ⟨hbackup, -⟩
  · exact Or.inl htarget
  · exact Or.inr (Or.inl hbackup)

/-- The two renames of the publication, and the third one that undoes the first. -/
theorem transactionalSwapWith_spec (names : Names request target) (hbackup : request.backup ≠ target)
    (hold : s.entries target = some .old) (hnew : s.entries request.staged = some .new) :
    Safely target request.version request.backup
      (transactionalSwapWith target request.staged request.backup)
      (fun result t => match result with
        | .ok () => Published request target t
        | .error _ => Restored request target t) s := by
  unfold transactionalSwapWith renameWithRetry
  apply Safely.bind
  apply Safely.retryTransient (Or.inl hold)
  · rintro t ⟨⟨tree, htree, hentries⟩, -, -⟩
    obtain rfl : Tree.old = tree := Option.some.inj (hold.symm.trans htree)
    have hbackup' : t.entries request.backup = some .old := by
      rw [hentries, Function.update_self]
    have htarget' : t.entries target = none := by
      rw [hentries, Function.update_of_ne hbackup.symm, Function.update_self]
    have hstaged' : t.entries request.staged = some .new := by
      rw [hentries, Function.update_of_ne (staged_ne_backup request),
        Function.update_of_ne names.staged, hnew]
    have hkept : t.Kept target request.backup := Or.inr (Or.inl hbackup')
    refine ⟨hkept, Safely.bind (Safely.retryTransient hkept ?_ ?_ _)⟩
    · rintro u ⟨⟨tree, htree, hentries⟩, -, -⟩
      obtain rfl : Tree.new = tree := Option.some.inj (hstaged'.symm.trans htree)
      have hbackup'' : u.entries request.backup = some .old := by
        rw [hentries, Function.update_of_ne hbackup, Function.update_of_ne
          (staged_ne_backup request).symm, hbackup']
      refine ⟨Or.inr (Or.inl hbackup''), ?_, hbackup''⟩
      rw [hentries, Function.update_self]
    · intro u publishError hu
      have hbackup'' : u.entries request.backup = some .old := by rw [hu.entries, hbackup']
      have hkept' : u.Kept target request.backup := hu.kept hkept
      apply Safely.bind
      apply Safely.retryTransient hkept'
      · rintro v ⟨⟨tree, htree, hentries⟩, -, -⟩
        obtain rfl : Tree.old = tree := Option.some.inj (hbackup''.symm.trans htree)
        have htarget'' : v.entries target = some .old := by rw [hentries, Function.update_self]
        exact ⟨Or.inl htarget'', Or.inl htarget''⟩
      · intro v rollbackError hv
        have hstaged : v.GaveUp request.staged target := by
          rw [Parent.GaveUp, hv.others _ _ fun hsame => (staged_ne_backup request) hsame.1.symm]
          exact hu.gaveUp
        have hbackupKept : v.entries request.backup = some .old := by rw [hv.entries, hbackup'']
        exact Or.inr ⟨hbackupKept, Or.inr ⟨hv.gaveUp, Or.inl hstaged⟩⟩
  · intro t error ht
    refine Or.inl ?_
    rw [ht.entries, hold]

/-- A removal of an entry that is neither the install directory nor its backup. -/
private theorem Restored.removed {name : String} {t : Parent} (h : Restored request target s)
    (htarget : name ≠ target) (hbackup : name ≠ request.backup)
    (hothers : ∀ other, other ≠ name → t.entries other = s.entries other)
    (hattempts : t.attempts = s.attempts) : Restored request target t := by
  unfold Restored Parent.Stranded Parent.GaveUp Parent.lastAttempt
  rw [hothers target htarget.symm, hothers request.backup hbackup.symm, hattempts]
  exact h

/-- The previous version is put back, or the new one where that failed. -/
theorem rollbackAfterLaunchFailure_spec (names : Names request target)
    (hs : Published request target s) :
    Safely target request.version request.backup
      (rollbackAfterLaunchFailure target request.backup request.failed)
      (fun _ t => Restored request target t) s := by
  unfold rollbackAfterLaunchFailure renameWithRetry
  apply Safely.bind
  apply Safely.retryTransient (Or.inr (Or.inl hs.backup))
  · rintro t ⟨⟨tree, htree, hentries⟩, -, -⟩
    obtain rfl : Tree.new = tree := Option.some.inj (hs.target.symm.trans htree)
    have hfailed : t.entries request.failed = some .new := by rw [hentries, Function.update_self]
    have hbackup : t.entries request.backup = some .old := by
      have hne : request.backup ≠ target := by
        intro hsame
        have hold := hs.backup
        rw [hsame, hs.target] at hold
        exact nomatch hold
      rw [hentries, Function.update_of_ne (failed_ne_backup request).symm,
        Function.update_of_ne hne, hs.backup]
    have hkept : t.Kept target request.backup := Or.inr (Or.inl hbackup)
    refine ⟨hkept, Safely.bind (Safely.retryTransient hkept ?_ ?_ _)⟩
    · rintro u ⟨⟨tree, htree, hentries⟩, -, -⟩
      obtain rfl : Tree.old = tree := Option.some.inj (hbackup.symm.trans htree)
      have htarget : u.entries target = some .old := by rw [hentries, Function.update_self]
      refine ⟨Or.inl htarget, Safely.bind (Safely.removeDirAll ?_)⟩
      intro answer v hothers hattempts hconfirmed
      have htarget' : v.entries target = some .old := by
        rw [hothers target names.failed.symm, htarget]
      exact ⟨Or.inl htarget', Or.inl htarget'⟩
    · intro u rollbackError hu
      have hbackup' : u.entries request.backup = some .old := by rw [hu.entries, hbackup]
      have hfailed' : u.entries request.failed = some .new := by rw [hu.entries, hfailed]
      apply Safely.bind
      apply Safely.retryTransient (hu.kept hkept)
      · rintro v ⟨⟨tree, htree, hentries⟩, -, -⟩
        obtain rfl : Tree.new = tree := Option.some.inj (hfailed'.symm.trans htree)
        have htarget : v.entries target = some .new := by rw [hentries, Function.update_self]
        have hbackup'' : v.entries request.backup = some .old := by
          have hne : request.backup ≠ target := by
            intro hsame
            have hold := hs.backup
            rw [hsame, hs.target] at hold
            exact nomatch hold
          rw [hentries, Function.update_of_ne hne,
            Function.update_of_ne (failed_ne_backup request).symm, hbackup']
        exact ⟨Or.inr (Or.inl hbackup''), Or.inr ⟨hbackup'', Or.inl htarget⟩⟩
      · intro v error hv
        have hbackup'' : v.entries request.backup = some .old := by rw [hv.entries, hbackup']
        have hrestore : v.GaveUp request.backup target := by
          rw [Parent.GaveUp, hv.others _ _ fun hsame => (failed_ne_backup request) hsame.1]
          exact hu.gaveUp
        exact Or.inr ⟨hbackup'', Or.inr ⟨hrestore, Or.inr hv.gaveUp⟩⟩
  · intro t error ht
    refine Or.inr ⟨?_, Or.inl ?_⟩
    · rw [ht.entries, hs.backup]
    · rw [ht.entries, hs.target]

/-- A published installation has its program. -/
theorem Published.kept (h : Published request target s) : s.Kept target request.backup :=
  Or.inr (Or.inl h.backup)

/-- A published version stays so while its client is asked, and a confirmation is seen. -/
theorem pollConfirmation_spec (hs : Published request target s) :
    Safely target request.version request.backup (pollConfirmation request.version)
      (fun outcome t => Published request target t ∧
        (outcome matches some .confirmed → t.confirmed = true)) s := by
  unfold pollConfirmation
  apply Safely.bind
  apply Safely.readMarker
  intro content t hentries hconfirmed
  have ht : Published request target t :=
    ⟨by rw [hentries, hs.target], by rw [hentries, hs.backup]⟩
  refine ⟨ht.kept, ?_⟩
  by_cases hnamed : markerConfirms request.version content = true
  · rw [if_pos hnamed]
    exact ⟨ht, fun _ => hconfirmed hnamed⟩
  · rw [if_neg hnamed]
    apply Safely.bind
    apply Safely.look (q := .hasExited) trivial ht.kept
    intro exited
    cases exited with
    | false => exact ⟨ht, fun hout => nomatch hout⟩
    | true =>
      apply Safely.bind
      apply Safely.readMarker
      intro content' u hentries' hconfirmed'
      have hu : Published request target u :=
        ⟨by rw [hentries', ht.target], by rw [hentries', ht.backup]⟩
      refine ⟨hu.kept, ?_⟩
      by_cases hnamed' : markerConfirms request.version content' = true
      · rw [if_pos hnamed']
        exact ⟨hu, fun _ => hconfirmed' hnamed'⟩
      · rw [if_neg hnamed']
        exact ⟨hu, fun hout => nomatch hout⟩

/-- Waiting for the confirmation leaves the installation published. -/
theorem awaitConfirmation_spec (hs : Published request target s) (polls : Nat) :
    Safely target request.version request.backup (awaitConfirmation request.version polls)
      (fun outcome t => Published request target t ∧
        (outcome matches .confirmed → t.confirmed = true)) s := by
  induction polls generalizing s with
  | zero =>
    apply Safely.bind
    apply (pollConfirmation_spec hs).mono
    rintro outcome t ⟨ht, hconfirmed⟩
    cases outcome with
    | none => exact ⟨ht, fun hout => nomatch hout⟩
    | some outcome =>
      refine ⟨ht, fun hout => ?_⟩
      cases outcome with
      | confirmed => exact hconfirmed rfl
      | _ => exact nomatch hout
  | succ polls ih =>
    apply Safely.bind
    apply (pollConfirmation_spec hs).mono
    rintro outcome t ⟨ht, hconfirmed⟩
    cases outcome with
    | none => exact ih ht
    | some outcome =>
      refine ⟨ht, fun hout => ?_⟩
      cases outcome with
      | confirmed => exact hconfirmed rfl
      | _ => exact nomatch hout

/-- What a finished updater leaves. -/
def Finished (request : ApplyRequest) (target : String) (s : Parent) : Prop :=
  s.Kept target request.backup ∧ (s.Complete target ∨ s.Stranded request target)

/-- A restored installation is one of the ends. -/
theorem Restored.finished (h : Restored request target s) : Finished request target s := by
  refine ⟨h.kept, ?_⟩
  rcases h with hold | ⟨-, hnew | hstranded⟩
  · exact Or.inl (Or.inl hold)
  · exact Or.inl (Or.inr hnew)
  · exact Or.inr hstranded

/-- A published installation is one of the ends. -/
theorem Published.finished (h : Published request target s) : Finished request target s :=
  ⟨h.kept, Or.inl (Or.inr h.target)⟩

/-- A rollback of a published update ends in one of the ends. -/
theorem rollBack_spec (names : Names request target) (hs : Published request target s)
    (failure : UpdateFailure) :
    Safely target request.version request.backup
      (rollBack target request.backup request.failed failure)
      (fun _ t => Finished request target t) s := by
  unfold rollBack
  apply Safely.bind
  apply (rollbackAfterLaunchFailure_spec names hs).mono
  intro result t ht
  cases result with
  | error error => exact ht.finished
  | ok _ => exact ht.finished

/-- The launch of the new program, its confirmation or its rollback. -/
theorem launchAndFinalize_spec (names : Names request target) (hs : Published request target s) :
    Safely target request.version request.backup (launchAndFinalize request target)
      (fun _ t => Finished request target t) s := by
  unfold launchAndFinalize
  apply Safely.bind
  apply Safely.look (q := .launch) trivial hs.kept
  intro launched
  cases launched with
  | error error => exact rollBack_spec names hs _
  | ok _ =>
    apply Safely.bind
    apply (awaitConfirmation_spec hs startupPolls).mono
    rintro outcome t ⟨ht, hconfirmed⟩
    cases outcome with
    | confirmed =>
      apply Safely.bind
      apply Safely.removeDirAll
      intro cleanup u hothers hattempts hsame
      have hne : target ≠ request.backup := by
        intro heq
        have hold := ht.backup
        rw [← heq, ht.target] at hold
        exact nomatch hold
      have hkept : u.Kept target request.backup := by
        refine Or.inr (Or.inr ?_)
        rw [hsame]
        exact hconfirmed rfl
      refine ⟨hkept, hkept, Or.inl (Or.inr ?_)⟩
      rw [hothers target hne, ht.target]
    | unconfirmed => exact ht.finished
    | exited => exact rollBack_spec names ht _

/-- Only looks; a validated target is not its own backup. -/
theorem validateSwapPaths_spec {version backup staged : String} (hs : s.Kept target backup) :
    Safely target version backup (validateSwapPaths target staged backup)
      (fun result t => t = s ∧ (result = .ok () → backup ≠ target)) s := by
  unfold validateSwapPaths
  apply Safely.bind
  apply Safely.look (q := .parentIsRoot) trivial hs
  intro root
  cases root with
  | true => exact ⟨rfl, fun hr => nomatch hr⟩
  | false =>
    by_cases hsiblings : (target == staged || target == backup || staged == backup) = true
    · simp only [Bool.false_eq_true, if_false, if_pos hsiblings]
      exact ⟨rfl, fun hr => nomatch hr⟩
    · have hne : backup ≠ target := by
        rintro rfl
        simp at hsiblings
      simp only [Bool.false_eq_true, if_false, if_neg hsiblings]
      apply Safely.bind
      apply Safely.look (q := .exists backup) trivial hs
      intro present
      cases present with
      | true => exact ⟨rfl, fun hr => nomatch hr⟩
      | false =>
        apply Safely.bind
        apply Safely.look (q := .isPortable target) trivial hs
        intro portable
        cases portable with
        | false => exact ⟨rfl, fun hr => nomatch hr⟩
        | true =>
          apply Safely.bind
          apply Safely.look (q := .isPortable staged) trivial hs
          intro portable'
          cases portable' with
          | false => exact ⟨rfl, fun hr => nomatch hr⟩
          | true => exact ⟨rfl, fun _ => hne⟩

/-- The swap ends in one of the ends, from an installed and a staged program. -/
theorem transactionalSwap_spec (names : Names request target)
    (hold : s.entries target = some .old) (hnew : s.entries request.staged = some .new) :
    Safely target request.version request.backup
      (transactionalSwap target request.staged request.backup)
      (fun result t => match result with
        | .ok () => Published request target t
        | .error _ => Restored request target t) s := by
  unfold transactionalSwap
  apply Safely.bind
  apply (validateSwapPaths_spec (Or.inl hold)).mono
  rintro result t ⟨rfl, hne⟩
  cases result with
  | error failure => exact Or.inl hold
  | ok _ => exact transactionalSwapWith_spec names (hne rfl) hold hnew

/-- The install directory is not among the directories that are cleared away. -/
theorem removeStaleWorkDirectories_spec {version backup : String}
    (hstage : Text.startsWith target stagePrefix = false)
    (hfailed : Text.startsWith target failedPrefix = false)
    (hold : s.entries target = some .old) (names : List String) :
    Safely target version backup (removeStaleWorkDirectories names)
      (fun _ t => t.entries target = some .old) s := by
  induction names generalizing s with
  | nil => exact hold
  | cons name names ih =>
    unfold removeStaleWorkDirectories
    by_cases hstale : (Text.startsWith name stagePrefix || Text.startsWith name failedPrefix) = true
    · rw [if_pos hstale]
      have hne : target ≠ name := by
        rintro rfl
        simp [hstage, hfailed] at hstale
      apply Safely.bind
      apply Safely.removeDirAll
      intro answer t hothers _ _
      have hold' : t.entries target = some .old := by rw [hothers target hne, hold]
      exact ⟨Or.inl hold', ih hold'⟩
    · rw [if_neg hstale]
      exact ih hold

/-- `install` ends in one of the ends, whatever of the staging fails. -/
theorem install_spec (hstage : Text.startsWith target stagePrefix = false)
    (hfailed : Text.startsWith target failedPrefix = false)
    (hold : s.entries target = some .old) :
    Safely target request.version request.backup (install request target)
      (fun _ t => Finished request target t) s := by
  have names : Names request target := Names.of_prefix hstage hfailed
  have hfinished : ∀ t : Parent, t.entries target = some .old → Finished request target t :=
    fun t ht => ⟨Or.inl ht, Or.inl (Or.inl ht)⟩
  unfold install
  apply Safely.bind
  apply Safely.look (q := .readDir) trivial (Or.inl hold)
  intro found
  apply Safely.bind
  apply (removeStaleWorkDirectories_spec hstage hfailed hold found).mono
  intro _ t hold
  apply Safely.bind
  apply Safely.look (q := .exists request.staged) trivial (Or.inl hold)
  intro staged
  cases staged with
  | true => exact hfinished t hold
  | false =>
    apply Safely.bind
    apply Safely.look (q := .exists request.backup) trivial (Or.inl hold)
    intro backup
    cases backup with
    | true => exact hfinished t hold
    | false =>
      apply Safely.bind
      apply Safely.extract names.staged hold
      intro extracted u hold' hnew
      cases extracted with
      | false => exact hfinished u hold'
      | true =>
        apply Safely.bind
        apply (transactionalSwap_spec names hold' (hnew rfl)).mono
        intro result v hv
        cases result with
        | error failure =>
          apply Safely.bind
          apply Safely.removeDirAll
          intro answer x hothers hattempts _
          have hx : Restored request target x :=
            hv.removed names.staged (staged_ne_backup request) hothers hattempts
          exact ⟨hx.kept, hx.finished⟩
        | ok _ =>
          apply Safely.bind
          apply Safely.look (q := .removeMarker) trivial hv.kept
          intro _
          apply Safely.bind
          apply (launchAndFinalize_spec names hv).mono
          intro outcome x hx
          cases outcome with
          | error failure => exact hx
          | ok outcome =>
            apply Safely.bind
            apply Safely.look (q := .removeArchive) trivial hx.1
            exact fun _ => hx

/-- The update as a whole, from any contents of the parent directory. -/
theorem applyUpdate_spec (hstage : Text.startsWith target stagePrefix = false)
    (hfailed : Text.startsWith target failedPrefix = false)
    (hold : s.entries target = some .old) :
    Safely target request.version request.backup (applyUpdate request)
      (fun _ t => Finished request target t) s := by
  have hkept : s.Kept target request.backup := Or.inl hold
  have hfinished : Finished request target s := ⟨hkept, Or.inl (Or.inl hold)⟩
  unfold applyUpdate
  cases request.absolute with
  | false => exact hfinished
  | true =>
    apply Safely.bind
    apply Safely.look (q := .verifyArchive) trivial hkept
    intro verified
    cases verified with
    | false => exact hfinished
    | true =>
      apply Safely.bind
      apply Safely.look (q := .waitForProcessExit) trivial hkept
      intro waited
      cases waited with
      | error error => exact hfinished
      | ok _ =>
        apply Safely.bind
        apply Safely.canonicalize hkept
        · exact fun error => hfinished
        · apply Safely.bind
          apply Safely.look (q := .verifyArchive) trivial hkept
          intro verified
          cases verified with
          | false => exact hfinished
          | true => exact install_spec hstage hfailed hold

end Phases

/-- The parent directory before an update. -/
def Parent.before (entries : String → Option Tree) : Parent := ⟨entries, [], false⟩

/-- An update that loses no version, whatever fails and wherever it is cut short. -/
structure SwapSafe (request : ApplyRequest) (target : String) (s : Parent) : Prop where
  kept : ∀ u, Reaches (updaterEnvironment target request.version) (applyUpdate request) s u →
    u.Kept target request.backup
  finished : ∀ result u,
    Executes (updaterEnvironment target request.version) (applyUpdate request) s result u →
      u.Complete target ∨ u.Stranded request target

/-- The swap is safe for an install directory that is not named like one of the directories the
updater clears away. -/
theorem applyUpdate_safe (request : ApplyRequest) (target : String) (entries : String → Option Tree)
    (hstage : Text.startsWith target stagePrefix = false)
    (hfailed : Text.startsWith target failedPrefix = false)
    (hold : entries target = some .old) : SwapSafe request target (Parent.before entries) where
  kept := fun _ hreaches =>
    wp_reaches (Or.inl hold) (applyUpdate_spec hstage hfailed hold) hreaches
  finished := fun _ _ hexecutes =>
    (wp_executes (applyUpdate_spec hstage hfailed hold) hexecutes).2

section Faults

/-- An update of the directory `current`. -/
private def update : ApplyRequest := ⟨true, "2.0.0", 7⟩

/-- Only this directory, with the previous version. -/
private def only (name : String) : String → Option Tree := fun n => if n = name then some .old else none

/-- A rename that the system refuses. -/
private def refused : IoError := ⟨false, none⟩

/-- An update of the program `current`. -/
theorem applyUpdate_safe_current : SwapSafe update "current" (Parent.before (only "current")) :=
  applyUpdate_safe update "current" (only "current") (by decide) (by decide) rfl

/-- The publication succeeds, the new client does not start, and neither version can be renamed
back: the install directory is gone. An install directory named like an attempt that failed is
cleared away before anything else. -/
theorem applyUpdate_loses :
    (∃ result u, Executes (updaterEnvironment "current" "2.0.0") (applyUpdate update)
        (Parent.before (only "current")) result u ∧
      ¬u.Complete "current" ∧ ¬u.GaveUp update.staged "current") ∧
    ∃ u, Reaches (updaterEnvironment ".multicore-failed-1" "2.0.0") (applyUpdate update)
        (Parent.before (only ".multicore-failed-1")) u ∧
      ¬u.Kept ".multicore-failed-1" update.backup := by
  constructor
  · apply Exists.intro
    apply Exists.intro
    refine ⟨?_, ?_, ?_⟩
    · apply Executes.ask (UpdaterResponds.looked .verifyArchive _ true trivial)
      apply Executes.ask (UpdaterResponds.looked .waitForProcessExit _ (.ok ()) trivial)
      apply Executes.ask (UpdaterResponds.resolved _)
      apply Executes.ask (UpdaterResponds.looked .verifyArchive _ true trivial)
      apply Executes.ask (UpdaterResponds.looked .readDir _ [] trivial)
      apply Executes.ask (UpdaterResponds.looked (.exists update.staged) _ false trivial)
      apply Executes.ask (UpdaterResponds.looked (.exists update.backup) _ false trivial)
      apply Executes.ask (UpdaterResponds.extracted _ update.staged (by decide))
      apply Executes.ask (UpdaterResponds.looked .parentIsRoot _ false trivial)
      apply Executes.ask (UpdaterResponds.looked (.exists update.backup) _ false trivial)
      apply Executes.ask (UpdaterResponds.looked (.isPortable "current") _ true trivial)
      apply Executes.ask (UpdaterResponds.looked (.isPortable update.staged) _ true trivial)
      apply Executes.ask (UpdaterResponds.renamed _ "current" update.backup .old (by decide)
        (by decide))
      apply Executes.ask (UpdaterResponds.renamed _ update.staged "current" .new (by decide)
        (by decide))
      apply Executes.ask (UpdaterResponds.looked .removeMarker _ () trivial)
      apply Executes.ask (UpdaterResponds.looked .launch _ (.error refused) trivial)
      apply Executes.ask (UpdaterResponds.renamed _ "current" update.failed .new (by decide)
        (by decide))
      apply Executes.ask (UpdaterResponds.notRenamed _ update.backup "current" refused)
      apply Executes.ask (UpdaterResponds.notRenamed _ update.failed "current" refused)
      exact Executes.done _ _
    · simp only [Parent.Complete]
      decide
    · simp only [Parent.GaveUp]
      decide
  · apply Exists.intro
    constructor
    · apply Reaches.later (UpdaterResponds.looked .verifyArchive _ true trivial)
      apply Reaches.later (UpdaterResponds.looked .waitForProcessExit _ (.ok ()) trivial)
      apply Reaches.later (UpdaterResponds.resolved _)
      apply Reaches.later (UpdaterResponds.looked .verifyArchive _ true trivial)
      apply Reaches.later (UpdaterResponds.looked .readDir _ [".multicore-failed-1"] trivial)
      apply Reaches.later (UpdaterResponds.removed _ ".multicore-failed-1")
      exact Reaches.here _ _
    · simp only [Parent.Kept]
      decide

end Faults

end MultiCore.Update
