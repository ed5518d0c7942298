import MultiCore.Library.Retention
import MultiCore.Service.JournalPaging

/-!
# What stays of the core journal

Whoever writes a journal deletes the segments that were not written for long and
then the oldest ones until the rest is small enough. How old a segment is comes
from when it was written last, which one is the oldest from its name. One pass
over the names does both, and gives up a segment that is still needed where an
expired one with a later name is not gone yet.
-/

namespace MultiCore

/-- What is in the journal's directory, with whether it can be deleted. -/
structure PrunableFile where
  name : String
  isFile : Bool
  len : Nat
  modifiedMs : Option Nat
  removable : Bool
  deriving DecidableEq, Repr

/-- A segment as the pruning sees it. -/
structure PrunableSegment where
  name : String
  startMs : Nat
  len : Nat
  modifiedMs : Nat
  removable : Bool
  deriving DecidableEq, Repr

/-- A file of the journal directory whose name is that of a segment. -/
def PrunableFile.asSegment (file : PrunableFile) : Option PrunableSegment := do
  let startMs ← segmentStart file.name
  if file.isFile then
    some ⟨file.name, startMs, file.len, file.modifiedMs.getD startMs, file.removable⟩
  else none

/-- The segments of a directory, oldest first. -/
def prunableSegments (directory : List PrunableFile) : List PrunableSegment :=
  (directory.filterMap PrunableFile.asSegment).mergeSort fun a b => a.startMs ≤ b.startMs

section Pruning

variable (oldestAllowed : Nat) (keep : Option String) (totalLimit : Nat)

/-- What is left of some segments, from a total on. -/
def pruneLoop : Nat → List PrunableSegment → List PrunableSegment
  | _, [] => []
  | total, segment :: rest =>
    if keep = some segment.name then segment :: pruneLoop total rest
    else if (segment.modifiedMs < oldestAllowed ∨ totalLimit < total) ∧
        segment.removable = true then
      pruneLoop (total - segment.len) rest
    else segment :: pruneLoop total rest

/-- Not written since the oldest time allowed. -/
def PrunableSegment.expired (segment : PrunableSegment) : Bool :=
  segment.modifiedMs < oldestAllowed

/-- The segment being written, or one that cannot be deleted. -/
def PrunableSegment.stays (segment : PrunableSegment) : Bool :=
  keep = some segment.name || !segment.removable

end Pruning

/-- The sum of the sizes as a machine word. -/
def wordTotal (segments : List PrunableSegment) : Nat :=
  Retention.total PrunableSegment.len segments % UInt64.size

/-- The segments that are left of a directory. -/
def pruneJournalWithin (directory : List PrunableFile) (nowMs : Nat) (keep : Option String)
    (totalLimit maxAgeMs : Nat) : List PrunableSegment :=
  let segments := prunableSegments directory
  pruneLoop (nowMs - maxAgeMs) keep totalLimit (wordTotal segments) segments

/-- What is left once every expired segment is gone. -/
def unexpiredSegments (oldestAllowed : Nat) (keep : Option String)
    (segments : List PrunableSegment) : List PrunableSegment :=
  segments.filter fun segment => !Retention.leaves (PrunableSegment.stays keep)
    (PrunableSegment.expired oldestAllowed) segment

/-- The segments left are those that are left when first every expired one is deleted and then the
oldest of the others until the total is within the limit; the kept one is among them, and so is
every fresh one if deleting the expired ones was enough. -/
structure PrunesInOrder (segments : List PrunableSegment) (oldestAllowed : Nat)
    (keep : Option String) (totalLimit : Nat) (left : List PrunableSegment) : Prop where
  retained : left = Retention.retained PrunableSegment.len (PrunableSegment.stays keep)
    (PrunableSegment.expired oldestAllowed) totalLimit segments
  kept : ∀ segment ∈ segments, keep = some segment.name → segment ∈ left
  fresh : Retention.total PrunableSegment.len (unexpiredSegments oldestAllowed keep segments) ≤
      totalLimit →
    ∀ segment ∈ segments, segment.expired oldestAllowed = false → segment ∈ left

section Pass

variable {oldestAllowed : Nat} {keep : Option String} {totalLimit : Nat}

/-- The loop is one pass over the segments. -/
theorem pruneLoop_eq_onePass (total : Nat) (segments : List PrunableSegment) :
    pruneLoop oldestAllowed keep totalLimit total segments =
      Retention.onePass PrunableSegment.len (PrunableSegment.stays keep)
        (PrunableSegment.expired oldestAllowed) totalLimit total segments := by
  induction segments generalizing total with
  | nil => rfl
  | cons segment rest ih =>
    rw [pruneLoop, Retention.onePass, ih, ih]
    by_cases hkeep : keep = some segment.name
    · rw [if_pos hkeep, if_pos (by simp [PrunableSegment.stays, hkeep])]
    rw [if_neg hkeep]
    by_cases hremovable : segment.removable = true
    · simp [PrunableSegment.stays, PrunableSegment.expired, hkeep, hremovable]
    · simp [PrunableSegment.stays, hremovable]

/-- The kept segment is left, whatever else is deleted. -/
theorem mem_pruneLoop {segments : List PrunableSegment} {segment : PrunableSegment}
    (h : segment ∈ segments) (hkeep : keep = some segment.name) (total : Nat) :
    segment ∈ pruneLoop oldestAllowed keep totalLimit total segments := by
  rw [pruneLoop_eq_onePass]
  exact Retention.mem_onePass (by simp [PrunableSegment.stays, hkeep]) h total

/-- The segments of a journal are pruned in order exactly where, at every fresh segment that may be
deleted, two totals are both beyond the limit or neither is: the sizes of all segments without the
expired ones and the fresh ones before it, and their sum as a word without whatever may be deleted
before it. -/
theorem pruneJournal_in_order_iff (directory : List PrunableFile) (nowMs : Nat)
    (keep : Option String) (totalLimit maxAgeMs : Nat) :
    PrunesInOrder (prunableSegments directory) (nowMs - maxAgeMs) keep totalLimit
        (pruneJournalWithin directory nowMs keep totalLimit maxAgeMs) ↔
      Retention.Agree PrunableSegment.len (PrunableSegment.stays keep)
        (PrunableSegment.expired (nowMs - maxAgeMs)) totalLimit
        (Retention.total PrunableSegment.len
          (unexpiredSegments (nowMs - maxAgeMs) keep (prunableSegments directory)))
        (wordTotal (prunableSegments directory)) (prunableSegments directory) := by
  rw [← Retention.onePass_eq_trim_iff, ← pruneLoop_eq_onePass]
  constructor
  · exact fun h => h.retained
  · intro h
    refine ⟨h, fun segment hmem hkeep => mem_pruneLoop hmem hkeep _, ?_⟩
    intro hsmall segment hmem hfresh
    have hleft : pruneJournalWithin directory nowMs keep totalLimit maxAgeMs =
        unexpiredSegments (nowMs - maxAgeMs) keep (prunableSegments directory) :=
      h.trans (Retention.trim_of_le hsmall _)
    rw [hleft]
    exact List.mem_filter.2 ⟨hmem, by simp [Retention.leaves, hfresh]⟩

/-- A segment that was written to lately and one with a later name that was not. -/
def staleAfterFresh : List PrunableFile :=
  [⟨"core-1.log", true, 100, some 5000, true⟩, ⟨"core-2.log", true, 200, some 10, true⟩]

/-- The fresh segment is deleted, although deleting the expired one is enough. -/
theorem pruneJournal_gives_up_fresh :
    pruneJournalWithin staleAfterFresh 5000 none 250 1000 = [] ∧
    Retention.total PrunableSegment.len
      (unexpiredSegments 4000 none (prunableSegments staleAfterFresh)) = 100 ∧
    ¬PrunesInOrder (prunableSegments staleAfterFresh) 4000 none 250
      (pruneJournalWithin staleAfterFresh 5000 none 250 1000) := by
  have hlisted : staleAfterFresh.filterMap PrunableFile.asSegment =
      [⟨"core-1.log", 1, 100, 5000, true⟩, ⟨"core-2.log", 2, 200, 10, true⟩] := by
    decide
  have hsegments : prunableSegments staleAfterFresh =
      [⟨"core-1.log", 1, 100, 5000, true⟩, ⟨"core-2.log", 2, 200, 10, true⟩] := by
    rw [prunableSegments, hlisted, List.mergeSort_of_pairwise (by simp)]
  have hleft : pruneJournalWithin staleAfterFresh 5000 none 250 1000 = [] := by
    rw [pruneJournalWithin, hsegments]
    decide
  refine ⟨hleft, ?_, ?_⟩
  · rw [hsegments]
    decide
  · intro h
    have hretained := h.retained
    rw [hleft, hsegments] at hretained
    exact absurd hretained (by decide)

end Pass

end MultiCore
