import MultiCore.Library.ByteStream

/-!
# Receiving a release asset

The updater knows how long an asset is before it asks for it. It copies exactly
that many bytes, makes sure that nothing follows and reports the start, every
change of the whole percent on the way and the end. The bytes may arrive in any
parts and with any interruptions; nothing is reported after a failure.
-/

namespace MultiCore.Update

open ByteStream

/-- How far a download of `total` bytes got. -/
structure DownloadProgress where
  received : Nat
  total : Nat
  deriving DecidableEq, Repr

/-- Whole percent received, rounded down. -/
def DownloadProgress.percent (progress : DownloadProgress) : Nat :=
  if progress.total = 0 then 0 else min (progress.received * 100 / progress.total) 100

/-- Why a download was given up. -/
inductive DownloadError where
  | read
  | write
  | short
  | long
  deriving DecidableEq, Repr

/-- What a download comes to: its error, what was written and what was reported. -/
structure Receipt where
  error : Option DownloadError
  writer : Writer
  calls : List DownloadProgress
  deriving DecidableEq, Repr

/-- The size of the buffer, 64 KiB. -/
def bufferBytes : Nat := 64 * 1024

section Receiving

variable (total : Nat) (flushes : Bool)

/-- Nothing may follow the last byte. -/
def checkEnd (received : Nat) : Reader → Writer → List DownloadProgress → Receipt
  | .interrupted :: rest, writer, calls => checkEnd received rest writer calls
  | .failed :: _, writer, calls => ⟨some .read, writer, calls⟩
  | .bytes (_ :: _) :: _, writer, calls => ⟨some .long, writer, calls⟩
  | .bytes [] :: _, writer, calls | [], writer, calls =>
    if flushes then
      ⟨none, writer, if 0 < total then calls ++ [⟨received, total⟩] else calls⟩
    else ⟨some .write, writer, calls⟩

/-- The loop of `receive_exact`: a chunk is read, written, counted and reported where the percent
changed. -/
def copyLoop (received reported : Nat) (reader : Reader) (writer : Writer)
    (calls : List DownloadProgress) : Receipt :=
  if _hmore : received < total then
    match _hread : read (min bufferBytes (total - received)) reader with
    | (.bytes [], _) => ⟨some .short, writer, calls⟩
    | (.failed, _) => ⟨some .read, writer, calls⟩
    | (.interrupted, rest) => copyLoop received reported rest writer calls
    | (.bytes (b :: chunk), rest) =>
      match writeAll writer (b :: chunk) with
      | .error _ => ⟨some .write, writer, calls⟩
      | .ok writer =>
        let current : DownloadProgress := ⟨received + (chunk.length + 1), total⟩
        if current.percent ≠ reported ∧ current.received < total then
          copyLoop current.received current.percent rest writer (calls ++ [current])
        else copyLoop current.received reported rest writer calls
  else checkEnd total flushes received reader writer calls
  termination_by size reader
  decreasing_by
    all_goals
      have hlimit : 0 < min bufferBytes (total - received) := by
        have hbuffer : 0 < bufferBytes := by decide
        omega
      rcases read_spec hlimit _hread with ⟨h, -⟩ | ⟨h, -⟩ | ⟨h, -⟩
      · exact nomatch h
      · exact nomatch h
      · exact h

/-- Copies exactly `total` bytes and checks that nothing follows; `flushes` is whether the writer
can be flushed. -/
def receiveExact (reader : Reader) (writer : Writer) : Receipt :=
  let current : DownloadProgress := ⟨0, total⟩
  copyLoop total flushes 0 current.percent reader writer [current]

end Receiving

section Percent

variable {total : Nat}

/-- More bytes never show a smaller percent. -/
theorem percent_mono {received later : Nat} (h : received ≤ later) :
    (⟨received, total⟩ : DownloadProgress).percent ≤
      (⟨later, total⟩ : DownloadProgress).percent := by
  unfold DownloadProgress.percent
  by_cases hzero : total = 0
  · simp [hzero]
  · have hdiv : received * 100 / total ≤ later * 100 / total :=
      Nat.div_le_div_right (Nat.mul_le_mul_right _ h)
    simp only [hzero, if_false]
    omega

/-- Before the end the percent is below one hundred. -/
theorem percent_lt {received : Nat} (h : received < total) :
    (⟨received, total⟩ : DownloadProgress).percent < 100 := by
  have hdiv : received * 100 / total < 100 := Nat.div_lt_of_lt_mul (by omega)
  rw [DownloadProgress.percent, if_neg (by simpa using Nat.ne_of_gt (Nat.zero_lt_of_lt h))]
  exact Nat.lt_of_le_of_lt (Nat.min_le_left _ _) hdiv

/-- The whole length is a hundred percent. -/
theorem percent_total (h : 0 < total) : (⟨total, total⟩ : DownloadProgress).percent = 100 := by
  rw [DownloadProgress.percent, if_neg (by simpa using Nat.ne_of_gt h),
    Nat.mul_div_cancel_left _ h]
  rfl

end Percent

/-- What was reported while this much was received. -/
structure Reports (total received reported : Nat) (calls : List DownloadProgress) : Prop where
  within : received ≤ total
  increasing : (calls.map DownloadProgress.percent).Pairwise (· < ·)
  bounded : ∀ call ∈ calls, call.percent ≤ reported
  count : calls.length ≤ reported + 1
  behind : reported ≤ (⟨received, total⟩ : DownloadProgress).percent
  below : reported < 100

/-- What is reported in all: at most 101 calls, each with a greater percent than the one before,
and one hundred only where nothing failed. -/
structure Receipt.Reported (receipt : Receipt) : Prop where
  count : receipt.calls.length ≤ 101
  increasing : (receipt.calls.map DownloadProgress.percent).Pairwise (· < ·)
  complete : ∀ call ∈ receipt.calls, call.percent = 100 → receipt.error = none

section Loop

variable {total : Nat} {flushes : Bool}

/-- A failure leaves it at what was reported before. -/
theorem Reports.failed {received reported : Nat} {calls : List DownloadProgress}
    (h : Reports total received reported calls) (error : DownloadError) (writer : Writer) :
    Receipt.Reported ⟨some error, writer, calls⟩ where
  count := by
    have hcount := h.count
    have hbelow := h.below
    exact Nat.le_trans hcount (by omega)
  increasing := h.increasing
  complete := by
    intro call hcall hpercent
    have hbounded := h.bounded call hcall
    have hbelow := h.below
    omega

/-- More is received, and the percent reported if it changed. -/
theorem Reports.received {received reported count : Nat} {calls : List DownloadProgress}
    (h : Reports total received reported calls) (hwithin : received + count ≤ total) :
    Reports total (received + count) reported calls where
  within := hwithin
  increasing := h.increasing
  bounded := h.bounded
  count := h.count
  behind := Nat.le_trans h.behind (percent_mono (Nat.le_add_right _ _))
  below := h.below

/-- The reports so far and one more call keep the record. -/
theorem Reports.called {received reported : Nat} {calls : List DownloadProgress}
    (h : Reports total received reported calls)
    (hchanged : (⟨received, total⟩ : DownloadProgress).percent ≠ reported)
    (hmore : received < total) :
    Reports total received (⟨received, total⟩ : DownloadProgress).percent
      (calls ++ [⟨received, total⟩]) where
  within := h.within
  increasing := by
    rw [List.map_append, List.pairwise_append]
    refine ⟨h.increasing, List.pairwise_singleton _ _, ?_⟩
    intro percent hpercent last hlast
    obtain ⟨call, hcall, rfl⟩ := List.mem_map.1 hpercent
    rw [List.mem_singleton.1 hlast]
    have hbounded := h.bounded call hcall
    have hbehind := h.behind
    omega
  bounded := by
    intro call hcall
    rcases List.mem_append.1 hcall with hcall | hcall
    · exact Nat.le_trans (h.bounded call hcall) h.behind
    · obtain rfl := List.mem_singleton.1 hcall
      exact Nat.le_refl _
  count := by
    have hcount := h.count
    have hbehind := h.behind
    rw [List.length_append, List.length_singleton]
    omega
  behind := Nat.le_refl _
  below := percent_lt hmore

/-- The end is reported as one hundred percent, unless there was nothing to receive. -/
theorem Reports.ended {reported : Nat} {calls : List DownloadProgress}
    (h : Reports total total reported calls) (writer : Writer) :
    Receipt.Reported
      ⟨none, writer, if 0 < total then calls ++ [⟨total, total⟩] else calls⟩ := by
  have hcount := h.count
  have hbelow := h.below
  by_cases htotal : 0 < total
  · rw [if_pos htotal]
    refine ⟨?_, ?_, fun _ _ _ => rfl⟩
    · rw [List.length_append, List.length_singleton]
      omega
    · rw [List.map_append, List.pairwise_append]
      refine ⟨h.increasing, List.pairwise_singleton _ _, ?_⟩
      intro percent hpercent last hlast
      obtain ⟨call, hcall, rfl⟩ := List.mem_map.1 hpercent
      rw [List.mem_singleton.1 hlast, percent_total htotal]
      exact Nat.lt_of_le_of_lt (h.bounded call hcall) hbelow
  · rw [if_neg htotal]
    exact ⟨Nat.le_trans hcount (by omega), h.increasing, fun _ _ _ => rfl⟩

/-- What a download is to come to, when this is left of the stream. -/
structure Receipt.Exact (receipt : Receipt) (left : Bytes) (count : Nat) (writer : Writer)
    (works : Prop) : Prop where
  sound : receipt.error = none →
    left.length = count ∧ receipt.writer.written = writer.written ++ left
  complete : works → left.length = count → receipt.error = none

/-- A download that failed is exact when a stream that works cannot have had that length. -/
theorem Receipt.Exact.of_error {error : DownloadError} {written writer : Writer}
    {calls : List DownloadProgress} {left : Bytes} {count : Nat} {works : Prop}
    (h : works → left.length ≠ count) :
    Receipt.Exact ⟨some error, written, calls⟩ left count writer works where
  sound := nofun
  complete hworks hlength := absurd hlength (h hworks)

/-- Nothing fails: no call of the reader or the writer, and not the flush. -/
def Works (flushes : Bool) (reader : Reader) (writer : Writer) : Prop :=
  Read.failed ∉ reader ∧ writer.Takes ∧ flushes = true

/-- The end of the stream is looked for once, after the last byte. -/
theorem checkEnd_spec {reported : Nat} {calls : List DownloadProgress}
    (h : Reports total total reported calls) (reader : Reader) (writer : Writer) :
    (checkEnd total flushes total reader writer calls).Reported ∧
      (checkEnd total flushes total reader writer calls).Exact (stream reader) 0 writer
        (Works flushes reader writer) := by
  have hend : ∀ reader : Reader, stream reader = [] →
      (if flushes then
        (⟨none, writer, if 0 < total then calls ++ [⟨total, total⟩] else calls⟩ : Receipt)
      else ⟨some .write, writer, calls⟩).Reported ∧
      (if flushes then
        (⟨none, writer, if 0 < total then calls ++ [⟨total, total⟩] else calls⟩ : Receipt)
      else ⟨some .write, writer, calls⟩).Exact (stream reader) 0 writer
        (Works flushes reader writer) := by
    intro reader hnil
    by_cases hflush : flushes = true
    · rw [if_pos hflush, hnil]
      refine ⟨h.ended writer, fun _ => ⟨rfl, (List.append_nil _).symm⟩, fun _ _ => rfl⟩
    · rw [if_neg hflush]
      exact ⟨h.failed .write writer, .of_error fun hworks => absurd hworks.2.2 hflush⟩
  induction reader with
  | nil => exact hend [] rfl
  | cons call rest ih =>
    cases call with
    | interrupted =>
      obtain ⟨hreported, hexact⟩ := ih
      refine ⟨hreported, hexact.sound, fun hworks => hexact.complete ?_⟩
      exact ⟨fun hmem => hworks.1 (List.mem_cons_of_mem _ hmem), hworks.2⟩
    | failed =>
      exact ⟨h.failed .read writer,
        .of_error fun hworks => absurd List.mem_cons_self hworks.1⟩
    | bytes delivered =>
      cases delivered with
      | nil => exact hend _ rfl
      | cons b delivered =>
        refine ⟨h.failed .long writer, .of_error fun _ hlength => ?_⟩
        have hstream : stream (.bytes (b :: delivered) :: rest) =
            b :: delivered ++ stream rest := if_neg (List.cons_ne_nil _ _)
        rw [hstream, List.length_append, List.length_cons] at hlength
        omega

/-- What is written and received of the stream, and what is left of it. -/
theorem Receipt.Exact.step {receipt : Receipt} {chunk left : Bytes} {count : Nat}
    {writer writer' : Writer} {works works' : Prop} (h : receipt.Exact left count writer' works')
    (hwritten : writer'.written = writer.written ++ chunk) (hworks : works → works') :
    receipt.Exact (chunk ++ left) (chunk.length + count) writer works where
  sound herror := by
    obtain ⟨hlength, hall⟩ := h.sound herror
    refine ⟨?_, ?_⟩
    · rw [List.length_append, hlength]
    · rw [hall, hwritten, List.append_assoc]
  complete hworking hlength := by
    rw [List.length_append] at hlength
    exact h.complete (hworks hworking) (by omega)

/-- The loop, and what follows it. -/
theorem copyLoop_spec (flushes : Bool) {received reported : Nat} {calls : List DownloadProgress}
    (h : Reports total received reported calls) (reader : Reader) (writer : Writer) :
    (copyLoop total flushes received reported reader writer calls).Reported ∧
      (copyLoop total flushes received reported reader writer calls).Exact (stream reader)
        (total - received) writer (Works flushes reader writer) := by
  induction hsize : size reader using Nat.strongRecOn
    generalizing received reported reader writer calls with
  | ind n ih =>
    subst hsize
    by_cases hmore : received < total
    swap
    · have hall : received = total := Nat.le_antisymm h.within (Nat.le_of_not_lt hmore)
      rw [copyLoop, dif_neg hmore, hall, Nat.sub_self]
      exact checkEnd_spec (hall ▸ h) reader writer
    have hlimit : 0 < min bufferBytes (total - received) := by
      have hbuffer : 0 < bufferBytes := by decide
      omega
    rw [copyLoop, dif_pos hmore]
    split
    · -- the stream ends too early
      rename_i rest hread
      refine ⟨h.failed .short writer, .of_error fun _ hlength => ?_⟩
      have hnil : stream reader = [] := by
        rcases read_spec hlimit hread with ⟨-, hnil⟩ | ⟨hanswer, -⟩ | ⟨-, -, hanswer, -⟩
        · exact hnil
        · cases hanswer
        · rcases hanswer with hanswer | ⟨delivered, hanswer, hne⟩
          · cases hanswer
          · cases hanswer
            exact absurd rfl hne
      rw [hnil, List.length_nil] at hlength
      omega
    · rename_i rest hread
      refine ⟨h.failed .read writer, .of_error fun hworks => ?_⟩
      rcases read_spec hlimit hread with ⟨hanswer, -⟩ | ⟨-, hmem⟩ | ⟨-, -, hanswer, -⟩
      · cases hanswer
      · exact absurd hmem hworks.1
      · rcases hanswer with hanswer | ⟨delivered, hanswer, -⟩
        · cases hanswer
        · cases hanswer
    · rename_i rest hread
      rcases read_spec hlimit hread with ⟨hanswer, -⟩ | ⟨hanswer, -⟩ |
        ⟨hless, -, -, hstream, hfails⟩
      · cases hanswer
      · cases hanswer
      · rw [Read.content, List.nil_append] at hstream
        rw [hstream]
        obtain ⟨hreported, hexact⟩ := ih (size rest) hless h rest writer rfl
        exact ⟨hreported, hexact.sound, fun hworks =>
          hexact.complete ⟨fun hmem => hworks.1 (hfails hmem), hworks.2⟩⟩
    · rename_i b chunk rest hread
      rcases read_spec hlimit hread with ⟨hanswer, -⟩ | ⟨hanswer, -⟩ |
        ⟨hless, hshort, -, hstream, hfails⟩
      · cases hanswer
      · cases hanswer
      rw [Read.content] at hshort hstream
      rw [List.length_cons] at hshort
      have hwithin : received + (chunk.length + 1) ≤ total := by omega
      have hafter : Reports total (received + (chunk.length + 1)) reported calls :=
        h.received hwithin
      have hcount : total - received =
          (b :: chunk).length + (total - (received + (chunk.length + 1))) := by
        rw [List.length_cons]
        omega
      cases hwrite : writeAll writer (b :: chunk) with
      | error error =>
        refine ⟨h.failed .write writer, .of_error fun hworks => ?_⟩
        obtain ⟨writer', htakes, -⟩ := writeAll_takes hworks.2.1 (b :: chunk)
        rw [hwrite] at htakes
        cases htakes
      | ok writer' =>
        have hworks : Works flushes reader writer → Works flushes rest writer' := by
          rintro ⟨hreads, htakes, hflush⟩
          obtain ⟨other, hother, htakes'⟩ := writeAll_takes htakes (b :: chunk)
          rw [hwrite, Except.ok.injEq] at hother
          exact ⟨fun hmem => hreads (hfails hmem), hother ▸ htakes', hflush⟩
        rw [hstream, hcount]
        dsimp only
        split
        · rename_i hchanged
          obtain ⟨hreported, hexact⟩ :=
            ih (size rest) hless (hafter.called hchanged.1 hchanged.2) rest writer' rfl
          exact ⟨hreported, hexact.step (writeAll_written hwrite) hworks⟩
        · obtain ⟨hreported, hexact⟩ := ih (size rest) hless hafter rest writer' rfl
          exact ⟨hreported, hexact.step (writeAll_written hwrite) hworks⟩

end Loop

/-- A download, however its bytes arrive. It succeeds only with as many bytes as were announced, all
written in order, and it does so if nothing fails. At most 101 calls report how far it is, each with
a greater percent than the one before, and one hundred percent only where it succeeds. -/
theorem receiveExact_spec (total : Nat) (flushes : Bool) (reader : Reader) (writer : Writer) :
    ((receiveExact total flushes reader writer).error = none →
      (stream reader).length = total ∧
      (receiveExact total flushes reader writer).writer.written =
        writer.written ++ stream reader) ∧
    (Works flushes reader writer →
      ((receiveExact total flushes reader writer).error = none ↔
        (stream reader).length = total)) ∧
    (receiveExact total flushes reader writer).Reported := by
  have hstart : Reports total 0 (⟨0, total⟩ : DownloadProgress).percent [⟨0, total⟩] := by
    have hzero : (⟨0, total⟩ : DownloadProgress).percent = 0 := by
      rw [DownloadProgress.percent, Nat.zero_mul, Nat.zero_div]
      simp
    rw [hzero]
    refine ⟨Nat.zero_le _, List.pairwise_singleton _ _, ?_, ?_, Nat.zero_le _, by decide⟩
    · intro call hcall
      obtain rfl := List.mem_singleton.1 hcall
      exact Nat.le_of_eq hzero
    · exact Nat.le_refl 1
  obtain ⟨hreported, hexact⟩ := copyLoop_spec flushes hstart reader writer
  rw [Nat.sub_zero] at hexact
  refine ⟨hexact.sound, fun hworks => ?_, hreported⟩
  constructor
  · exact fun herror => (hexact.sound herror).1
  · exact hexact.complete hworks

/-- Three bytes in two parts with an interruption between them. -/
def partsReader : Reader := [.bytes [1, 2], .interrupted, .bytes [3]]

/-- A file that takes one byte at first, and is interrupted. -/
def partsWriter : Writer := ⟨[], [.accepted 1, .interrupted, .accepted 4]⟩

/-- An asset that arrives in parts is received, whatever is interrupted. -/
theorem receiveExact_spec_parts : (receiveExact 3 true partsReader partsWriter).error = none ∧
    (receiveExact 3 true partsReader partsWriter).writer.written = [1, 2, 3] ∧
    (receiveExact 3 true partsReader partsWriter).Reported := by
  have htakes : ∀ answer ∈ partsWriter.answers, answer ≠ .failed ∧ answer ≠ .accepted 0 := by
    decide
  have hworks : Works true partsReader partsWriter := ⟨by decide, htakes, rfl⟩
  obtain ⟨hsound, hcomplete, hreported⟩ := receiveExact_spec 3 true partsReader partsWriter
  have hdone := (hcomplete hworks).2 rfl
  exact ⟨hdone, (hsound hdone).2, hreported⟩

end MultiCore.Update
