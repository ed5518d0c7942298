import MultiCore.Library.Run
import MultiCore.Update.Download
import MultiCore.Update.Releases

/-!
# The stages of an update

A running update is at a stage, and reports of two threads move it. A report is
taken when it is of a later stage, or of more bytes of the download; the bar
shows the fraction of the size that its report named. So the stage never goes
back, and the bar does not either as long as the reports agree on the size.
-/

namespace MultiCore.Update

open Transition (Edge Run)

/-- `UpdateStage`, the stages of an update in their order. -/
inductive UpdateStage where
  | downloading (progress : DownloadProgress)
  | verifying
  | installing
  | restarting
  deriving DecidableEq, Repr

namespace UpdateStage

/-- The place of a stage in the order. -/
def rank : UpdateStage → Nat
  | downloading _ => 0
  | verifying => 1
  | installing => 2
  | restarting => 3

/-- A later stage, or more bytes of the same download. -/
def precedes : UpdateStage → UpdateStage → Bool
  | downloading now, downloading next =>
    now.received < next.received || (now.total = 0 && 0 < next.total)
  | stage, next => stage.rank < next.rank

/-- The fill of the bar in thousandths, and -1 while the size is not known. -/
def permille : UpdateStage → Int
  | downloading progress =>
    if progress.total = 0 then -1
    else (min progress.received progress.total * 1000 / progress.total : Nat)
  | _ => 1000

end UpdateStage

/-- What is known of an update; errors carry what is told about them. -/
inductive UpdateState where
  | unconfigured
  | checking
  | current
  | available (release : GitHubRelease)
  | managed (release : GitHubRelease)
  | updating (release : GitHubRelease) (stage : UpdateStage)
  | installFailed (release : GitHubRelease) (message : String)
  | deferred
  | error (message : String)
  deriving DecidableEq, Repr

namespace UpdateState

/-- The release that a press of the button would install. -/
def availableRelease : UpdateState → Option GitHubRelease
  | available release | installFailed release _ => some release
  | _ => none

/-- Starts a run of the release that is offered. -/
def beginUpdate (state : UpdateState) : Option GitHubRelease × UpdateState :=
  match state.availableRelease with
  | none => (none, state)
  | some release =>
    (some release, updating release (.downloading ⟨0, release.asset.size⟩))

/-- Moves the run to a stage when that is forward; whether it did. -/
def advance (state : UpdateState) (stage : UpdateStage) : Bool × UpdateState :=
  match state with
  | updating release now =>
    if now.precedes stage then (true, updating release stage) else (false, state)
  | _ => (false, state)

/-- The stage of a run. -/
def stage? : UpdateState → Option UpdateStage
  | updating _ stage => some stage
  | _ => none

end UpdateState

/-- What happens while a run is going: a report, or another press. -/
inductive UpdateEvent where
  | report (stage : UpdateStage)
  | press
  deriving DecidableEq, Repr

/-- One step: a report of the thread, or a press. -/
def UpdateState.next (state : UpdateState) : UpdateEvent → UpdateState
  | .report stage => (state.advance stage).2
  | .press => state.beginUpdate.2

/-- A step keeps the run going and moves neither its stage nor its bar back; another press changes
nothing. -/
def MovesForward (edge : Edge UpdateState UpdateEvent) : Prop :=
  ∃ release stage after, edge.source = .updating release stage ∧
    edge.target = .updating release after ∧ stage.rank ≤ after.rank ∧
    stage.permille ≤ after.permille ∧
    (edge.label = .press → edge.source.beginUpdate = (none, edge.source) ∧ after = stage)

/-- A report of more bytes, once the size is known, knows a size too, and every thousandth of the
old size that the old bytes had reached is reached again by the new bytes of the new size. -/
def SizesAgree (edge : Edge UpdateState UpdateEvent) : Prop :=
  ∀ release now next, edge.source = .updating release (.downloading now) →
    edge.label = .report (.downloading next) → now.received < next.received → now.total ≠ 0 →
      next.total ≠ 0 ∧ ∀ mark ≤ 1000, mark * now.total ≤ now.received * 1000 →
        mark * next.total ≤ next.received * 1000

section Stages

variable {release : GitHubRelease} {now next : DownloadProgress} {stage after : UpdateStage}

/-- The permille of a download is rounded down. -/
theorem permille_of_total (h : now.total ≠ 0) :
    (UpdateStage.downloading now).permille =
      (min now.received now.total * 1000 / now.total : Nat) := by
  rw [UpdateStage.permille, if_neg h]

/-- More than the whole is shown as the whole. -/
theorem thousandths_le (now : DownloadProgress) :
    min now.received now.total * 1000 / now.total ≤ 1000 :=
  Nat.div_le_of_le_mul (Nat.mul_le_mul_right 1000 (Nat.min_le_right _ _))

/-- The permille stays between the mark for 'unknown' and a thousand. -/
theorem permille_bounds (stage : UpdateStage) : -1 ≤ stage.permille ∧ stage.permille ≤ 1000 := by
  cases stage with
  | downloading progress =>
    by_cases htotal : progress.total = 0
    · rw [UpdateStage.permille, if_pos htotal]
      decide
    · rw [permille_of_total htotal]
      constructor
      · exact Int.le_trans (by decide : (-1 : Int) ≤ 0) (Int.natCast_nonneg _)
      · exact Int.ofNat_le.2 (thousandths_le progress)
  | verifying => decide
  | installing => decide
  | restarting => decide

/-- A stage that follows another has no smaller rank. -/
theorem rank_le_of_precedes (h : stage.precedes after = true) : stage.rank ≤ after.rank := by
  cases stage with
  | downloading now => exact Nat.zero_le _
  | verifying => exact Nat.le_of_lt (of_decide_eq_true h)
  | installing => exact Nat.le_of_lt (of_decide_eq_true h)
  | restarting => exact Nat.le_of_lt (of_decide_eq_true h)

/-- From a download to a later stage the bar only gets fuller. -/
theorem permille_of_later (hafter : ∀ next, after ≠ .downloading next) :
    stage.permille ≤ after.permille := by
  have hfull : after.permille = 1000 := by
    cases after with
    | downloading next => exact absurd rfl (hafter next)
    | verifying => rfl
    | installing => rfl
    | restarting => rfl
  rw [hfull]
  exact (permille_bounds stage).2

/-- Nothing precedes a download but a download. -/
theorem downloading_of_precedes (h : stage.precedes (.downloading next) = true) :
    ∃ now, stage = .downloading now := by
  cases stage with
  | downloading now => exact ⟨now, rfl⟩
  | verifying => simp [UpdateStage.precedes, UpdateStage.rank] at h
  | installing => simp [UpdateStage.precedes, UpdateStage.rank] at h
  | restarting => simp [UpdateStage.precedes, UpdateStage.rank] at h

/-- The whole thousandths of a size that some bytes are, told by the marks they reached. -/
theorem mark_le_thousandths_iff {mark received total : Nat} (hmark : mark ≤ 1000)
    (htotal : total ≠ 0) :
    mark ≤ min received total * 1000 / total ↔ mark * total ≤ received * 1000 := by
  have hall : mark * total ≤ total * 1000 := by
    rw [Nat.mul_comm total]
    exact Nat.mul_le_mul_right total hmark
  rw [Nat.le_div_iff_mul_le (Nat.pos_of_ne_zero htotal), ← Nat.mul_min_mul_right,
    Nat.le_min]
  exact and_iff_left hall

/-- When a later report of one download shows no smaller permille. -/
theorem permille_downloading_iff (h : (UpdateStage.downloading now).precedes
    (.downloading next) = true) :
    (UpdateStage.downloading now).permille ≤ (UpdateStage.downloading next).permille ↔
      (now.received < next.received → now.total ≠ 0 →
        next.total ≠ 0 ∧ ∀ mark ≤ 1000, mark * now.total ≤ now.received * 1000 →
          mark * next.total ≤ next.received * 1000) := by
  rw [UpdateStage.precedes, Bool.or_eq_true, Bool.and_eq_true, decide_eq_true_eq,
    decide_eq_true_eq, decide_eq_true_eq] at h
  by_cases hnow : now.total = 0
  · have hunknown : (UpdateStage.downloading now).permille = -1 := by
      rw [UpdateStage.permille, if_pos hnow]
    rw [hunknown]
    exact iff_of_true (permille_bounds _).1 fun _ hne => absurd hnow hne
  · have hmore : now.received < next.received := by
      rcases h with hmore | ⟨hzero, -⟩
      · exact hmore
      · exact absurd hzero hnow
    rw [permille_of_total hnow]
    by_cases hnext : next.total = 0
    · rw [UpdateStage.permille, if_pos hnext]
      constructor
      · intro hle
        exact absurd (Int.le_trans (Int.natCast_nonneg _) hle) (by decide : ¬ (0 : Int) ≤ -1)
      · intro hagree
        exact absurd hnext (hagree hmore hnow).1
    · rw [permille_of_total hnext, Int.ofNat_le]
      constructor
      · intro hle _ _
        refine ⟨hnext, fun mark hmark hreached => ?_⟩
        have hnowMark := (mark_le_thousandths_iff hmark hnow).2 hreached
        exact (mark_le_thousandths_iff hmark hnext).1 (le_trans hnowMark hle)
      · intro hagree
        have hmark := thousandths_le now
        have hreached := (mark_le_thousandths_iff hmark hnow).1 le_rfl
        exact (mark_le_thousandths_iff hmark hnext).2 ((hagree hmore hnow).2 _ hmark hreached)

end Stages

/-! ## Runs -/

section Runs

variable {state target : UpdateState} {release : GitHubRelease} {stage : UpdateStage}

/-- A report of a later stage is taken. -/
theorem advance_of_precedes {after : UpdateStage} (h : stage.precedes after = true) :
    (UpdateState.updating release stage).advance after = (true, .updating release after) := by
  rw [UpdateState.advance, if_pos h]

/-- A report of an earlier stage changes nothing. -/
theorem advance_of_not_precedes {after : UpdateStage} (h : ¬ stage.precedes after = true) :
    (UpdateState.updating release stage).advance after = (false, .updating release stage) := by
  rw [UpdateState.advance, if_neg h]

/-- A run stays the run of its release. -/
theorem updating_next (event : UpdateEvent) :
    ∃ after, (UpdateState.updating release stage).next event = .updating release after := by
  cases event with
  | press => exact ⟨stage, rfl⟩
  | report after =>
    by_cases h : stage.precedes after = true
    · exact ⟨after, by rw [UpdateState.next, advance_of_precedes h]⟩
    · exact ⟨stage, by rw [UpdateState.next, advance_of_not_precedes h]⟩

/-- A step that leaves a run where it is moves it forward. -/
theorem movesForward_stay (event : UpdateEvent) :
    MovesForward ⟨.updating release stage, event, .updating release stage⟩ :=
  ⟨release, stage, stage, rfl, rfl, Nat.le_refl _, Int.le_refl _, fun _ => ⟨rfl, rfl⟩⟩

/-- A step of a run moves it forward exactly when the report agrees on the size. -/
theorem movesForward_iff (event : UpdateEvent) :
    MovesForward ⟨.updating release stage, event,
        (UpdateState.updating release stage).next event⟩ ↔
      SizesAgree ⟨.updating release stage, event,
        (UpdateState.updating release stage).next event⟩ := by
  cases event with
  | press => exact iff_of_true (movesForward_stay _) fun _ _ _ _ hlabel => by cases hlabel
  | report after =>
    by_cases h : stage.precedes after = true
    · rw [UpdateState.next, advance_of_precedes h]
      constructor
      · rintro ⟨_, _, _, hsource, htarget, -, hbar, -⟩ other now next hnow hnext
        cases hsource
        cases htarget
        cases hnow
        cases hnext
        exact (permille_downloading_iff h).1 hbar
      · intro hagree
        refine ⟨release, stage, after, rfl, rfl, rank_le_of_precedes h, ?_, fun hpress => ?_⟩
        · by_cases hdownload : ∃ next, after = .downloading next
          · obtain ⟨next, rfl⟩ := hdownload
            obtain ⟨now, rfl⟩ := downloading_of_precedes h
            exact (permille_downloading_iff h).2 (hagree release now next rfl rfl)
          · exact permille_of_later fun next hnext => hdownload ⟨next, hnext⟩
        · cases hpress
    · rw [UpdateState.next, advance_of_not_precedes h]
      refine iff_of_true (movesForward_stay _) fun other now next hnow hnext hmore _ => ?_
      cases hnow
      cases hnext
      exact absurd (by simp [UpdateStage.precedes, hmore]) h

end Runs

/-- In a run of an offered release, however the reports and presses come, the stage and the bar move
only forward and another press does nothing exactly when every report that is taken for its bytes
agrees on the size. -/
theorem update_moves_forward_iff {offered target : UpdateState} {release : GitHubRelease}
    {edges : List (Edge UpdateState UpdateEvent)}
    (hoffered : offered.beginUpdate.1 = some release)
    (h : Run (fun state event after => state.next event = after) offered.beginUpdate.2 edges
      target) :
    (∀ edge ∈ edges, MovesForward edge) ↔ ∀ edge ∈ edges, SizesAgree edge := by
  have hgoing : ∃ stage, offered.beginUpdate.2 = .updating release stage := by
    rw [UpdateState.beginUpdate] at hoffered ⊢
    cases hrelease : offered.availableRelease with
    | none => rw [hrelease] at hoffered; cases hoffered
    | some found =>
      rw [hrelease] at hoffered
      cases hoffered
      exact ⟨_, rfl⟩
  have hedge : ∀ edge ∈ edges, MovesForward edge ↔ SizesAgree edge := by
    intro edge hedge
    obtain ⟨hstep, before, hbefore, -⟩ := h.edge_mem hedge
    obtain ⟨stage, hsource⟩ : ∃ stage, edge.source = .updating release stage := by
      refine hbefore.invariant (I := fun state => ∃ stage, state = .updating release stage)
        hgoing ?_
      rintro state event after ⟨stage, rfl⟩ rfl
      exact updating_next event
    obtain ⟨source, event, after⟩ := edge
    cases hsource
    obtain rfl : (UpdateState.updating release stage).next event = after := hstep
    exact movesForward_iff event
  exact forall₂_congr hedge

/-- A release of 1234 bytes. -/
def smallRelease : GitHubRelease :=
  ⟨⟨1, 2, 3⟩, "https://github.com/owner/name/releases/tag/v1.2.3",
    ⟨"https://github.com/owner/name/releases/download/v1.2.3/package.zip", 1234, ""⟩⟩

/-- The reports of two threads: 600 bytes of the release, then 700 of a download of 2000. -/
def twoThreads : List UpdateEvent :=
  [.report (.downloading ⟨600, 1234⟩), .press, .report (.downloading ⟨700, 2000⟩)]

/-- Two threads whose reports are mixed, both directions. -/
theorem update_moves_forward_iff_reported :
    (∀ edge ∈ Transition.trace UpdateState.next (UpdateState.available smallRelease).beginUpdate.2
        twoThreads, MovesForward edge) ↔
      ∀ edge ∈ Transition.trace UpdateState.next (UpdateState.available smallRelease).beginUpdate.2
        twoThreads, SizesAgree edge :=
  have hrun := Transition.run_trace UpdateState.next
    (UpdateState.available smallRelease).beginUpdate.2 twoThreads
  update_moves_forward_iff rfl hrun

/-- The bar went from 486 to 350 thousandths: the second report has more bytes, of a larger size. -/
theorem update_bar_moves_back :
    ¬ ∀ (offered : UpdateState) (release : GitHubRelease) (events : List UpdateEvent),
      offered.beginUpdate.1 = some release →
        ∀ edge ∈ Transition.trace UpdateState.next offered.beginUpdate.2 events,
          MovesForward edge := by
  intro hall
  have hedge := hall (.available smallRelease) smallRelease twoThreads rfl
    ⟨.updating smallRelease (.downloading ⟨600, 1234⟩), .report (.downloading ⟨700, 2000⟩),
      .updating smallRelease (.downloading ⟨700, 2000⟩)⟩ (.tail _ (.tail _ (.head _)))
  obtain ⟨_, _, _, hsource, htarget, -, hbar, -⟩ := hedge
  cases hsource
  cases htarget
  exact absurd hbar (by decide)

end MultiCore.Update
