import MultiCore.Daemon.CoreSessions
import MultiCore.Library.Words

/-!
# The times of core sessions

A session is identified by the time it began, so a start hands out a time after
every one before it, even when two attempts fall in one millisecond. The time
window of a session reaches from some time before its start to some time after
its end, and never into the window of a neighbour: a line of the journal, which
begins with its time, belongs to one session at most.
-/

namespace MultiCore.Daemon

/-- How long before its start the window of a session begins. -/
def sessionLeadMs : UInt64 := 60000

/-- How long after its end the window of a session ends. -/
def sessionTailMs : UInt64 := 10000

/-- The times from the first one to before the second. -/
structure Window where
  fromMs : UInt64
  toMs : UInt64
  deriving DecidableEq, Repr

/-- The window has the time. -/
def Window.Holds (window : Window) (time : UInt64) : Prop :=
  window.fromMs ≤ time ∧ time < window.toMs

/-- When a session is over, by itself. -/
def CoreSession.naturalEnd (session : CoreSession) : UInt64 :=
  match session.disconnectMs with
  | some disconnectMs => Words.saturatingAdd disconnectMs sessionTailMs
  | none => Words.maxWord

/-- When a session is over, at the latest when the next one begins. -/
def CoreSession.endBefore (session : CoreSession) : Option UInt64 → UInt64
  | some nextConnect => min session.naturalEnd nextConnect
  | none => session.naturalEnd

/-- The window of a session after the window before it. -/
def windowAfter (previousEnd : UInt64) (session : CoreSession) (nextConnect : Option UInt64) :
    Window :=
  let fromMs := max (Words.saturatingSub session.connectMs sessionLeadMs) previousEnd
  { fromMs, toMs := max (session.endBefore nextConnect) fromMs }

/-- When the first of some sessions begins. -/
def nextConnect (sessions : List CoreSession) : Option UInt64 :=
  sessions.head?.map CoreSession.connectMs

/-- The windows of the sessions, from the end of the previous one. -/
def windowsAfter (previousEnd : UInt64) : List CoreSession → List Window
  | [] => []
  | session :: rest =>
    let window := windowAfter previousEnd session (nextConnect rest)
    window :: windowsAfter window.toMs rest

/-- `session_windows`. -/
def sessionWindows (sessions : List CoreSession) : List Window := windowsAfter 0 sessions

/-- The window of a session has it: it begins no later than the session, and ends no earlier than
the session does or the next one begins. -/
structure Window.Covers (window : Window) (session : CoreSession) (next : Option UInt64) :
    Prop where
  begins : window.fromMs ≤ session.connectMs
  ends : session.endBefore next ≤ window.toMs

/-- At this time the session has begun, its end and the tail are not over, and the next one has not
begun. -/
structure CoreSession.Lasts (session : CoreSession) (next : Option UInt64) (time : UInt64) :
    Prop where
  begun : session.connectMs ≤ time
  unended : ∀ disconnectMs ∈ session.disconnectMs,
    time.toNat < disconnectMs.toNat + sessionTailMs.toNat
  alone : ∀ nextConnect ∈ next, time < nextConnect

section Windows

/-- Without a next session the end is its own, with one it is the earlier of the two. -/
theorem toNat_endBefore_le (session : CoreSession) {next : Option UInt64} {nextConnect : UInt64}
    (h : nextConnect ∈ next) : (session.endBefore next).toNat ≤ nextConnect.toNat := by
  cases h
  rw [CoreSession.endBefore, Words.toNat_min]
  exact Nat.min_le_right _ _

/-- A session that lasts at a time ends later, unless there is no later time. -/
theorem CoreSession.Lasts.lt_endBefore {session : CoreSession} {next : Option UInt64}
    {time : UInt64} (h : session.Lasts next time) (htime : time ≠ Words.maxWord) :
    time < session.endBefore next := by
  have hlast := Words.ne_maxWord_iff.1 htime
  have hnatural : time.toNat < session.naturalEnd.toNat := by
    unfold CoreSession.naturalEnd
    cases hend : session.disconnectMs with
    | none =>
      rw [Words.toNat_maxWord]
      omega
    | some disconnectMs =>
      have hunended := h.unended disconnectMs hend
      rw [Words.toNat_saturatingAdd]
      omega
  rw [UInt64.lt_iff_toNat_lt]
  cases next with
  | none => exact hnatural
  | some nextConnect =>
    have halone := UInt64.lt_iff_toNat_lt.1 (h.alone nextConnect rfl)
    rw [CoreSession.endBefore, Words.toNat_min]
    exact Nat.lt_min.2 ⟨hnatural, halone⟩

/-- A window that covers a session has every time at which it lasts. -/
theorem Window.Covers.holds {window : Window} {session : CoreSession} {next : Option UInt64}
    {time : UInt64} (h : window.Covers session next) (hlasts : session.Lasts next time)
    (htime : time ≠ Words.maxWord) : window.Holds time := by
  constructor
  · exact UInt64.le_trans h.begins hlasts.begun
  · exact UInt64.lt_of_lt_of_le (hlasts.lt_endBefore htime) h.ends

section After

variable (previousEnd : UInt64) (session : CoreSession) (next : Option UInt64)

theorem toNat_windowAfter_fromMs : (windowAfter previousEnd session next).fromMs.toNat =
    max (session.connectMs.toNat - sessionLeadMs.toNat) previousEnd.toNat := by
  rw [windowAfter, Words.toNat_max, Words.toNat_saturatingSub]

theorem toNat_windowAfter_toMs : (windowAfter previousEnd session next).toMs.toNat =
    max (session.endBefore next).toNat (windowAfter previousEnd session next).fromMs.toNat := by
  rw [windowAfter, Words.toNat_max]

theorem windowAfter_ordered :
    (windowAfter previousEnd session next).fromMs ≤
      (windowAfter previousEnd session next).toMs := by
  rw [UInt64.le_iff_toNat_le, toNat_windowAfter_toMs]
  exact Nat.le_max_right _ _

theorem le_windowAfter : previousEnd ≤ (windowAfter previousEnd session next).fromMs := by
  rw [UInt64.le_iff_toNat_le, toNat_windowAfter_fromMs]
  exact Nat.le_max_right _ _

variable {previousEnd session}

/-- A session that begins after the window before it is covered. -/
theorem windowAfter_covers (h : previousEnd ≤ session.connectMs) :
    (windowAfter previousEnd session next).Covers session next := by
  rw [UInt64.le_iff_toNat_le] at h
  constructor
  · rw [UInt64.le_iff_toNat_le, toNat_windowAfter_fromMs]
    omega
  · rw [UInt64.le_iff_toNat_le, toNat_windowAfter_toMs]
    exact Nat.le_max_left _ _

/-- The window ends before the next session begins. -/
theorem windowAfter_le_next (h : previousEnd ≤ session.connectMs) {nextConnect : UInt64}
    (hnext : nextConnect ∈ next) (hlater : session.connectMs ≤ nextConnect) :
    (windowAfter previousEnd session next).toMs ≤ nextConnect := by
  have hbegins := UInt64.le_iff_toNat_le.1 (windowAfter_covers next h).begins
  have hend := toNat_endBefore_le session hnext
  rw [UInt64.le_iff_toNat_le] at hlater ⊢
  rw [toNat_windowAfter_toMs]
  omega

end After

theorem length_windowsAfter (previousEnd : UInt64) (sessions : List CoreSession) :
    (windowsAfter previousEnd sessions).length = sessions.length := by
  induction sessions generalizing previousEnd with
  | nil => rfl
  | cons session rest ih => rw [windowsAfter, List.length_cons, ih, List.length_cons]

/-- No window begins before the end that it is after. -/
theorem le_windowsAfter (previousEnd : UInt64) (sessions : List CoreSession) :
    ∀ window ∈ windowsAfter previousEnd sessions,
      previousEnd ≤ window.fromMs ∧ window.fromMs ≤ window.toMs := by
  induction sessions generalizing previousEnd with
  | nil => exact fun window hwindow => absurd hwindow List.not_mem_nil
  | cons session rest ih =>
    intro window hwindow
    rw [windowsAfter] at hwindow
    have hfirst := le_windowAfter previousEnd session (nextConnect rest)
    have hordered := windowAfter_ordered previousEnd session (nextConnect rest)
    rcases List.mem_cons.1 hwindow with rfl | hlater
    · exact ⟨hfirst, hordered⟩
    · obtain ⟨hafter, hlater⟩ := ih _ window hlater
      exact ⟨UInt64.le_trans (UInt64.le_trans hfirst hordered) hafter, hlater⟩

/-- The windows follow each other, whatever the sessions are. -/
theorem pairwise_windowsAfter (previousEnd : UInt64) (sessions : List CoreSession) :
    (windowsAfter previousEnd sessions).Pairwise fun window later =>
      window.toMs ≤ later.fromMs := by
  induction sessions generalizing previousEnd with
  | nil => exact List.Pairwise.nil
  | cons session rest ih =>
    rw [windowsAfter]
    constructor
    · exact fun later hlater => (le_windowsAfter _ rest later hlater).1
    · exact ih _

/-- The window of every session covers it, if the sessions begin one after the other. -/
theorem windowsAfter_covers {previousEnd : UInt64} {sessions : List CoreSession}
    (h : sessions.Pairwise fun session later => session.connectMs < later.connectMs)
    (hfirst : ∀ connectMs ∈ nextConnect sessions, previousEnd ≤ connectMs) {i : Nat}
    {window : Window} {session : CoreSession}
    (hwindow : (windowsAfter previousEnd sessions)[i]? = some window)
    (hsession : sessions[i]? = some session) :
    window.Covers session (nextConnect (sessions.drop (i + 1))) := by
  induction sessions generalizing previousEnd i with
  | nil => exact absurd hsession (by simp)
  | cons first rest ih =>
    obtain ⟨hbefore, hrest⟩ := List.pairwise_cons.1 h
    have hend : previousEnd ≤ first.connectMs := hfirst first.connectMs rfl
    rw [windowsAfter] at hwindow
    cases i with
    | zero =>
      rw [List.getElem?_cons_zero, Option.some.injEq] at hwindow hsession
      rw [← hwindow, ← hsession]
      exact windowAfter_covers _ hend
    | succ i =>
      rw [List.getElem?_cons_succ] at hwindow hsession
      refine ih hrest ?_ hwindow hsession
      -- the window of the first session ends before the second one begins
      intro connectMs hconnect
      obtain ⟨second, hsecond, rfl⟩ := Option.mem_map.1 hconnect
      have hlater := hbefore second (List.mem_of_mem_head? hsecond)
      exact windowAfter_le_next _ hend hconnect (UInt64.le_of_lt hlater)

/-- Windows that follow each other have no time in common. -/
theorem window_unique {windows : List Window}
    (h : windows.Pairwise fun window later => window.toMs ≤ later.fromMs) {i j : Nat}
    {window other : Window} {time : UInt64} (hi : windows[i]? = some window)
    (hj : windows[j]? = some other) (hwindow : window.Holds time) (hother : other.Holds time) :
    i = j := by
  have happart : ∀ {a b : Nat} {first second : Window}, windows[a]? = some first →
      windows[b]? = some second → first.Holds time → second.Holds time → ¬a < b := by
    intro a b first second ha hb hfirst hsecond hlt
    obtain ⟨hla, rfl⟩ := List.getElem?_eq_some_iff.1 ha
    obtain ⟨hlb, rfl⟩ := List.getElem?_eq_some_iff.1 hb
    have hle := List.pairwise_iff_getElem.1 h a b hla hlb hlt
    exact UInt64.lt_irrefl _
      (UInt64.lt_of_lt_of_le hfirst.2 (UInt64.le_trans hle hsecond.1))
  have hij := happart hi hj hwindow hother
  have hji := happart hj hi hother hwindow
  omega

/-- Sessions of which each began after those before it have windows in the same order, one for each,
that do not overlap: the window of a session has it whole, from its start to its end with the tail
or to the next start, and no time is in the windows of two. -/
theorem session_windows_apart {sessions : List CoreSession}
    (h : sessions.Pairwise fun session later => session.connectMs < later.connectMs) :
    (sessionWindows sessions).length = sessions.length ∧
    (∀ window ∈ sessionWindows sessions, window.fromMs ≤ window.toMs) ∧
    ((sessionWindows sessions).Pairwise fun window later => window.toMs ≤ later.fromMs) ∧
    (∀ (i : Nat) window session, (sessionWindows sessions)[i]? = some window →
      sessions[i]? = some session →
      window.Covers session (nextConnect (sessions.drop (i + 1))) ∧
      ∀ time, session.Lasts (nextConnect (sessions.drop (i + 1))) time → time ≠ Words.maxWord →
        window.Holds time) ∧
    ∀ (i j : Nat) window other time, (sessionWindows sessions)[i]? = some window →
      (sessionWindows sessions)[j]? = some other → window.Holds time → other.Holds time →
      i = j := by
  have hapart : (sessionWindows sessions).Pairwise fun window later =>
      window.toMs ≤ later.fromMs := pairwise_windowsAfter 0 sessions
  refine ⟨length_windowsAfter 0 sessions, ?_, hapart, ?_, ?_⟩
  · exact fun window hwindow => (le_windowsAfter 0 sessions window hwindow).2
  · intro i window session hwindow hsession
    have hcovers : window.Covers session (nextConnect (sessions.drop (i + 1))) :=
      windowsAfter_covers h (fun connectMs _ => UInt64.zero_le) hwindow hsession
    exact ⟨hcovers, fun time hlasts htime => hcovers.holds hlasts htime⟩
  · exact fun i j window other time hi hj => window_unique hapart hi hj

/-- A session that is cut short by a reconnect, one that a crash left open, and one under way. -/
def reconnectedSessions : List CoreSession :=
  [⟨100000, some 200000, some "user", ⟨"tun", false, [], none⟩⟩,
    ⟨205000, none, some "interrupted", ⟨"tun", false, [], none⟩⟩,
    ⟨400000, none, none, ⟨"proxy", false, [], none⟩⟩]

example : sessionWindows reconnectedSessions =
    [⟨40000, 205000⟩, ⟨205000, 400000⟩, ⟨400000, Words.maxWord⟩] := by
  decide

theorem session_windows_apart_reconnected :
    (reconnectedSessions.Pairwise fun session later => session.connectMs < later.connectMs) ∧
    ((sessionWindows reconnectedSessions).Pairwise fun window later =>
      window.toMs ≤ later.fromMs) := by
  have hsorted : reconnectedSessions.Pairwise fun session later =>
      session.connectMs < later.connectMs := by
    decide
  exact ⟨hsorted, (session_windows_apart hsorted).2.2.1⟩

end Windows

section Starts

/-- An attempt to connect: what the clock says, and how much of its record can be written; none
where the index cannot be opened. -/
structure Attempt where
  clockMs : UInt64
  start : SessionStart
  written : Option Nat

/-- The time that identifies a session begun after `previous`. The sum wraps around. -/
def startAfter (previous clockMs : UInt64) : UInt64 := max clockMs (previous + 1)

variable (json : IndexJson)

/-- Adds a record to the index. -/
def appendRecord (file : IndexFile) (record : IndexRecord) (written : Option Nat) : IndexFile :=
  match json.write record, written with
  | some line, some written =>
    some (file.getD [] ++ (Utf8.encode (line ++ ['\n'])).take written)
  | _, _ => file

/-- A connection attempt begins; what identifies the session is the time it is given. -/
def SessionIndex.start (index : SessionIndex) (attempt : Attempt) : UInt64 × SessionIndex :=
  let connectMs := startAfter index.lastConnectMs attempt.clockMs
  let record := IndexRecord.start connectMs attempt.start.mode attempt.start.service
    attempt.start.engines attempt.start.profile
  (connectMs,
    { file := appendRecord json index.file record attempt.written, lastConnectMs := connectMs })

/-- One attempt after the other, and what each is given. The exchange of the newest time is tried
until nothing came in between, so attempts of several callers are such a sequence too. -/
def SessionIndex.starts (index : SessionIndex) : List Attempt → List UInt64
  | [] => []
  | attempt :: later =>
    (index.start json attempt).1 :: (index.start json attempt).2.starts later

/-- No sum of any of the attempts is too great for a word. -/
def SessionIndex.Fits (index : SessionIndex) : List Attempt → Prop
  | [] => True
  | attempt :: later =>
    index.lastConnectMs.toNat + 1 < UInt64.size ∧ (index.start json attempt).2.Fits later

/-- An index is opened, and attempts follow: nothing overflows, no two sessions are given one time,
and every one is given a later time than any session that was read. -/
structure StartsSoundly (file : IndexFile) (nowMs : UInt64) (replaced : Bool)
    (attempts : List Attempt) : Prop where
  fits : (openIndex json file nowMs replaced).Fits json attempts
  distinct : ((openIndex json file nowMs replaced).starts json attempts).Nodup
  later : ∀ connectMs ∈ (openIndex json file nowMs replaced).starts json attempts,
    ∀ session ∈ readSessions json file, session.connectMs < connectMs

/-- As many times as there are attempts are left after the newest one, and after what the clock
says at each attempt as many as there are attempts after it. -/
structure RoomFor (last : UInt64) (clocks : List UInt64) : Prop where
  afterLast : last.toNat + clocks.length < UInt64.size
  afterClock : ∀ i clock, clocks[i]? = some clock →
    clock.toNat + (clocks.length - (i + 1)) < UInt64.size

variable {json}

theorem lt_startAfter {last clockMs connectMs : UInt64} (hroom : last.toNat + 1 < UInt64.size) :
    connectMs < startAfter last clockMs ↔ connectMs < clockMs ∨ connectMs ≤ last := by
  have hsum := Words.toNat_add_one (Words.ne_maxWord_iff.2 hroom)
  rw [startAfter, UInt64.lt_iff_toNat_lt, UInt64.lt_iff_toNat_lt, UInt64.le_iff_toNat_le,
    Words.toNat_max, hsum]
  omega

/-- There is room for a first attempt and those after it. -/
theorem roomFor_cons {last clockMs : UInt64} {clocks : List UInt64} :
    RoomFor last (clockMs :: clocks) ↔
      last.toNat + 1 < UInt64.size ∧ RoomFor (startAfter last clockMs) clocks := by
  have htoNat : last.toNat + 1 < UInt64.size →
      (startAfter last clockMs).toNat = max clockMs.toNat (last.toNat + 1) := by
    intro hroom
    rw [startAfter, Words.toNat_max, Words.toNat_add_one (Words.ne_maxWord_iff.2 hroom)]
  constructor
  · intro h
    have hlast := h.afterLast
    have hclock := h.afterClock 0 clockMs rfl
    rw [List.length_cons] at hlast hclock
    have hroom : last.toNat + 1 < UInt64.size := by omega
    refine ⟨hroom, ?_, ?_⟩
    · rw [htoNat hroom]
      omega
    · intro i clock hi
      have hlater := h.afterClock (i + 1) clock (by rw [List.getElem?_cons_succ, hi])
      rw [List.length_cons] at hlater
      omega
  · rintro ⟨hroom, h⟩
    have hlast := h.afterLast
    rw [htoNat hroom] at hlast
    constructor
    · rw [List.length_cons]
      omega
    · intro i clock hi
      rw [List.length_cons]
      cases i with
      | zero =>
        rw [List.getElem?_cons_zero, Option.some.injEq] at hi
        rw [← hi]
        omega
      | succ i =>
        rw [List.getElem?_cons_succ] at hi
        have hlater := h.afterClock i clock hi
        omega

/-- Nothing overflows exactly where there is room. -/
theorem fits_iff (json : IndexJson) (index : SessionIndex) (attempts : List Attempt) :
    index.Fits json attempts ↔ RoomFor index.lastConnectMs (attempts.map Attempt.clockMs) := by
  induction attempts generalizing index with
  | nil =>
    constructor
    · intro _
      exact ⟨index.lastConnectMs.toNat_lt_size, fun i clock h => absurd h (by simp)⟩
    · exact fun _ => trivial
  | cons attempt later ih => rw [SessionIndex.Fits, ih, List.map_cons, roomFor_cons]; rfl

/-- Where nothing overflows the times increase, from the newest one on. -/
theorem starts_increase {index : SessionIndex} {attempts : List Attempt}
    (h : index.Fits json attempts) :
    (∀ connectMs ∈ index.starts json attempts, index.lastConnectMs < connectMs) ∧
      (index.starts json attempts).Pairwise fun connectMs later => connectMs < later := by
  induction attempts generalizing index with
  | nil =>
    constructor
    · exact fun connectMs hmem => absurd hmem List.not_mem_nil
    · exact List.Pairwise.nil
  | cons attempt later ih =>
    obtain ⟨hroom, hfits⟩ := h
    obtain ⟨hlater, hpairwise⟩ := ih hfits
    have hfirst : index.lastConnectMs < (index.start json attempt).1 :=
      (lt_startAfter hroom).2 (Or.inr UInt64.le_rfl)
    rw [SessionIndex.starts]
    constructor
    · intro connectMs hmem
      rcases List.mem_cons.1 hmem with rfl | hmem
      · exact hfirst
      · exact UInt64.lt_trans hfirst (hlater connectMs hmem)
    · exact List.Pairwise.cons hlater hpairwise

/-- The identifiers of sessions are sound exactly where there is room for them, and no session that
was read and is left out of the index began after all that are left and no earlier than the clock
says first. -/
theorem starts_sound_iff (json : IndexJson) (file : IndexFile) (nowMs : UInt64) (replaced : Bool)
    (attempts : List Attempt) :
    StartsSoundly json file nowMs replaced attempts ↔
      RoomFor (openIndex json file nowMs replaced).lastConnectMs
        (attempts.map Attempt.clockMs) ∧
      ∀ attempt ∈ attempts.head?, ∀ session ∈ readSessions json file,
        session.connectMs < attempt.clockMs ∨
          session.connectMs ≤ (openIndex json file nowMs replaced).lastConnectMs := by
  rw [← fits_iff json]
  constructor
  · intro h
    refine ⟨h.fits, ?_⟩
    intro attempt hattempt session hsession
    obtain ⟨later, rfl⟩ := List.head?_eq_some_iff.1 hattempt
    have hfirst := h.later _ List.mem_cons_self session hsession
    exact (lt_startAfter h.fits.1).1 hfirst
  · rintro ⟨hfits, hread⟩
    have hincrease := (starts_increase hfits).2
    refine ⟨hfits, hincrease.imp fun hlt heq => ?_, ?_⟩
    · rw [heq] at hlt
      exact UInt64.lt_irrefl _ hlt
    · intro connectMs hmem session hsession
      cases attempts with
      | nil => exact absurd hmem List.not_mem_nil
      | cons attempt later =>
        -- the first time is after every session that was read, the others are after the first
        have hfirst := (lt_startAfter hfits.1).2 (hread attempt rfl session hsession)
        rw [SessionIndex.starts] at hmem hincrease
        rcases List.mem_cons.1 hmem with rfl | hmem
        · exact hfirst
        · exact UInt64.lt_trans hfirst ((List.pairwise_cons.1 hincrease).1 connectMs hmem)

/-- A record of the greatest time that there is, and its line. -/
def lastStart : IndexRecord := .start Words.maxWord "tun" false [] none

/-- The line of a session that starts in the last millisecond. -/
def lastStartLine : List Char :=
  "\x7b\"event\":\"start\",\"connect_ms\":18446744073709551615,\"mode\":\"tun\",".toList ++
    "\"service\":false,\"engines\":[]\x7d".toList

/-- The text of that record. -/
def lastJson : IndexJson where
  write record := if record = lastStart then some lastStartLine else none
  fromStr line := if line = lastStartLine then some lastStart else none

/-- The index with this line. -/
def lastIndex : IndexFile := some (Utf8.encode (lastStartLine ++ ['\n']))

/-- After a record of the greatest time the next session begins before it. -/
theorem starts_unsound_last :
    (openIndex lastJson lastIndex 1000 true).starts lastJson
      [⟨1000, ⟨"tun", false, [], none⟩, none⟩] = [1000] ∧
    ¬StartsSoundly lastJson lastIndex 1000 true [⟨1000, ⟨"tun", false, [], none⟩, none⟩] := by
  have hfold : ((strLines (readIndex lastIndex)).filterMap lastJson.fromStr).foldl applyRecord []
      = [⟨Words.maxWord, none, none, ⟨"tun", false, [], none⟩⟩] := by
    decide +kernel
  have hread : readSessions lastJson lastIndex =
      [⟨Words.maxWord, none, none, ⟨"tun", false, [], none⟩⟩] := by
    rw [readSessions, parseSessions, hfold, List.mergeSort_singleton]
  have hlast : (openIndex lastJson lastIndex 1000 true).lastConnectMs = Words.maxWord := by
    rw [openIndex, hread]
    decide
  constructor
  · rw [SessionIndex.starts, SessionIndex.start, hlast]
    rfl
  · intro h
    have hfits := h.fits.1
    rw [hlast] at hfits
    exact absurd hfits (by decide)

end Starts

end MultiCore.Daemon
