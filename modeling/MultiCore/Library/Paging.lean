import Mathlib.Data.List.Pairwise
import Mathlib.Tactic.Common

/-!
# Reading page after page

A reader answers a cursor with a page and, unless it was the last one, with the
cursor of the next. Where the cursors advance by some measure the pages end, and
what they hold together is what was left at the first cursor. Where every cursor
of a kind is answered with another one of that kind, they never end.
-/

namespace Paging

variable {Cursor Page β : Type} (read : Cursor → Page × Option Cursor)

/-- The pages from a cursor to the last one, and the cursors they were followed by. -/
inductive Run : Cursor → List Page → List Cursor → Prop
  | last {cursor page} (h : read cursor = (page, none)) : Run cursor [page] []
  | more {cursor page next pages cursors} (h : read cursor = (page, some next))
      (rest : Run next pages cursors) : Run cursor (page :: pages) (next :: cursors)

variable {read}

/-- Pages that leave less and less end, and together they are all that was left. -/
theorem exists_run (Left : Cursor → β → Prop) (Whole : List Page → β → Prop)
    (measure : Cursor → Nat)
    (last : ∀ cursor content page, Left cursor content → read cursor = (page, none) →
      Whole [page] content)
    (more : ∀ cursor content page next, Left cursor content → read cursor = (page, some next) →
      measure next < measure cursor ∧ ∃ rest, Left next rest ∧
        ∀ pages, Whole pages rest → Whole (page :: pages) content)
    {cursor : Cursor} {content : β} (h : Left cursor content) :
    ∃ pages cursors, Run read cursor pages cursors ∧ Whole pages content := by
  induction hmeasure : measure cursor using Nat.strongRecOn generalizing cursor content with
  | ind n ih =>
    rcases hread : read cursor with ⟨page, next⟩
    cases next with
    | none => exact ⟨[page], [], Run.last hread, last cursor content page h hread⟩
    | some next =>
      obtain ⟨hless, rest, hrest, hwhole⟩ := more cursor content page next h hread
      obtain ⟨pages, cursors, hrun, hpages⟩ := ih (measure next) (hmeasure ▸ hless) hrest rfl
      exact ⟨page :: pages, next :: cursors, Run.more hread hrun, hwhole pages hpages⟩

/-- Cursors that are never answered with a last page. -/
theorem not_run (Stays : Cursor → Prop)
    (h : ∀ cursor, Stays cursor → ∃ page next, read cursor = (page, some next) ∧ Stays next)
    {cursor : Cursor} (hstays : Stays cursor) {pages : List Page} {cursors : List Cursor} :
    ¬Run read cursor pages cursors := by
  intro hrun
  induction hrun with
  | @last cursor page hlast =>
    obtain ⟨page', next, hread, -⟩ := h cursor hstays
    rw [hlast] at hread
    exact nomatch hread
  | @more cursor page next pages cursors hmore rest ih =>
    obtain ⟨page', next', hread, hnext⟩ := h cursor hstays
    rw [hmore] at hread
    cases hread
    exact ih hnext

/-- What each cursor is to the next, the cursors of a run are to all that follow. -/
theorem Run.pairwise (Left : Cursor → Prop) (before : Cursor → Cursor → Prop)
    (trans : ∀ a b c, before a b → before b c → before a c)
    (step : ∀ cursor page next, Left cursor → read cursor = (page, some next) →
      Left next ∧ before cursor next)
    {cursor : Cursor} (h : Left cursor) {pages : List Page} {cursors : List Cursor}
    (hrun : Run read cursor pages cursors) : (cursor :: cursors).Pairwise before := by
  induction hrun with
  | last => exact List.pairwise_singleton _ _
  | @more cursor page next pages cursors hmore rest ih =>
    obtain ⟨hnext, hbefore⟩ := step cursor page next h hmore
    have hrest := ih hnext
    refine List.Pairwise.cons ?_ hrest
    intro later hlater
    rcases List.mem_cons.1 hlater with rfl | hlater
    · exact hbefore
    · exact trans _ _ _ hbefore ((List.pairwise_cons.1 hrest).1 later hlater)

end Paging
