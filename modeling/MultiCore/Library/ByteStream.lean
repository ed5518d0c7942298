import Mathlib.Tactic.Common

/-!
# Byte streams

A number of 32 bits as four bytes, the lowest first, and the two loops that move
a given number of bytes over a channel: one that fills a buffer from a reader
and one that empties a buffer into a writer. A single call may be interrupted,
may move fewer bytes than asked for, and may fail. What a reader will deliver
and what a writer will accept is a list of such calls.
-/

namespace ByteStream

/-- A run of bytes. -/
abbrev Bytes := List UInt8

/-- The four bytes of a number, the lowest first. -/
def toLeBytes (n : UInt32) : Bytes :=
  [UInt8.ofNat n.toNat, UInt8.ofNat (n.toNat / 256), UInt8.ofNat (n.toNat / 65536),
    UInt8.ofNat (n.toNat / 16777216)]

/-- The number that four bytes write. -/
def fromLeBytes (a b c d : UInt8) : UInt32 :=
  UInt32.ofNat (a.toNat + 256 * b.toNat + 65536 * c.toNat + 16777216 * d.toNat)

theorem toNat_fromLeBytes (a b c d : UInt8) : (fromLeBytes a b c d).toNat =
    a.toNat + 256 * b.toNat + 65536 * c.toNat + 16777216 * d.toNat := by
  have ha := a.toNat_lt
  have hb := b.toNat_lt
  have hc := c.toNat_lt
  have hd := d.toNat_lt
  rw [fromLeBytes, UInt32.toNat_ofNat_of_lt']
  change _ < 2 ^ 32
  omega

/-- The bytes of a number, and the number again. -/
theorem exists_toLeBytes (n : UInt32) :
    ∃ a b c d, toLeBytes n = [a, b, c, d] ∧ fromLeBytes a b c d = n := by
  refine ⟨_, _, _, _, rfl, ?_⟩
  rw [← UInt32.toNat_inj, toNat_fromLeBytes]
  have hn := n.toNat_lt
  simp only [UInt8.toNat_ofNat']
  omega

/-- Bytes are determined by their number. -/
theorem toLeBytes_fromLeBytes (a b c d : UInt8) :
    toLeBytes (fromLeBytes a b c d) = [a, b, c, d] := by
  have ha := a.toNat_lt
  have hb := b.toNat_lt
  have hc := c.toNat_lt
  have hd := d.toNat_lt
  rw [toLeBytes, toNat_fromLeBytes]
  simp only [List.cons.injEq, ← UInt8.toNat_inj, UInt8.toNat_ofNat', and_true]
  omega

section Reader

/-- The answer to one call for bytes. -/
inductive Read where
  /-- Some bytes; none mean the end of the stream. -/
  | bytes (bytes : Bytes)
  | interrupted
  | failed
  deriving DecidableEq, Repr

/-- What a reader still delivers; after that its stream has ended. -/
abbrev Reader := List Read

/-- Why nothing was read. -/
inductive ReadError where
  | unexpectedEof
  | failed
  deriving DecidableEq, Repr

/-- Calls until a buffer of `n` bytes is full. A call that has more keeps the rest. -/
def readExact : Nat → Reader → Except ReadError (Bytes × Reader)
  | 0, reader => .ok ([], reader)
  | _ + 1, [] => .error .unexpectedEof
  | n + 1, .interrupted :: rest => readExact (n + 1) rest
  | _ + 1, .failed :: _ => .error .failed
  | n + 1, .bytes delivered :: rest =>
    if delivered = [] then .error .unexpectedEof
    else if n + 1 < delivered.length then
      .ok (delivered.take (n + 1), .bytes (delivered.drop (n + 1)) :: rest)
    else (readExact (n + 1 - delivered.length) rest).map fun filled =>
      (delivered ++ filled.1, filled.2)

/-- The bytes that one call delivers. -/
def Read.content : Read → Bytes
  | .bytes delivered => delivered
  | .interrupted => []
  | .failed => []

/-- All bytes a reader still delivers. -/
def content (reader : Reader) : Bytes := (reader.map Read.content).flatten

/-- A reader that delivers its bytes in parts, with interruptions, and does not fail before. -/
def Flows (reader : Reader) : Prop := ∀ call ∈ reader, call ≠ .failed ∧ call ≠ .bytes []

@[simp] theorem content_cons (call : Read) (reader : Reader) :
    content (call :: reader) = call.content ++ content reader := rfl

theorem Flows.tail {call : Read} {reader : Reader} (h : Flows (call :: reader)) : Flows reader :=
  fun other hother => h other (List.mem_cons_of_mem _ hother)

/-- A buffer is filled with the bytes that come first, and the reader keeps the others. -/
theorem readExact_of_content {front back : Bytes} {reader : Reader} (hflows : Flows reader)
    (hcontent : content reader = front ++ back) :
    ∃ reader', readExact front.length reader = .ok (front, reader') ∧ Flows reader' ∧
      content reader' = back := by
  induction reader generalizing front with
  | nil =>
    obtain ⟨rfl, rfl⟩ := List.append_eq_nil_iff.1 hcontent.symm
    exact ⟨[], rfl, hflows, rfl⟩
  | cons call reader ih =>
    cases front with
    | nil => exact ⟨call :: reader, rfl, hflows, hcontent⟩
    | cons b front =>
      cases call with
      | interrupted => exact ih hflows.tail hcontent
      | failed => exact absurd rfl (hflows _ List.mem_cons_self).1
      | bytes delivered =>
        have hne : delivered ≠ [] := by
          rintro rfl
          exact (hflows _ List.mem_cons_self).2 rfl
        rw [content_cons, Read.content] at hcontent
        rw [List.length_cons, readExact, if_neg hne]
        by_cases hmore : front.length + 1 < delivered.length
        · -- The call delivers more than the buffer takes.
          rw [if_pos hmore]
          have hfront : delivered.take (front.length + 1) = b :: front := by
            have htake := congrArg (List.take (front.length + 1)) hcontent
            rw [List.take_append_of_le_length (by omega),
              List.take_append_of_le_length (by simp)] at htake
            rw [htake]
            exact List.take_of_length_le (by simp)
          have hback : delivered.drop (front.length + 1) ++ content reader = back := by
            have hdrop := congrArg (List.drop (front.length + 1)) hcontent
            rw [List.drop_append_of_le_length (by omega)] at hdrop
            rw [hdrop]
            exact List.drop_left' rfl
          refine ⟨.bytes (delivered.drop (front.length + 1)) :: reader, ?_, ?_, hback⟩
          · rw [hfront]
          · intro other hother
            rcases List.mem_cons.1 hother with rfl | hother
            · refine ⟨nofun, fun h => ?_⟩
              rw [Read.bytes.injEq, List.drop_eq_nil_iff] at h
              omega
            · exact hflows.tail other hother
        · -- The call goes into the buffer whole.
          rw [if_neg hmore]
          obtain ⟨front', hfront', hrest⟩ : ∃ front', b :: front = delivered ++ front' ∧
              content reader = front' ++ back := by
            rcases List.append_eq_append_iff.1 hcontent with ⟨front', h, h'⟩ | ⟨more, h, h'⟩
            · exact ⟨front', h, h'⟩
            · have hlength := congrArg List.length h
              simp only [List.length_cons, List.length_append] at hlength
              have hnil : more = [] := List.eq_nil_of_length_eq_zero (by omega)
              rw [hnil, List.append_nil] at h
              rw [hnil, List.nil_append] at h'
              exact ⟨[], by rw [List.append_nil, h], h'.symm⟩
          obtain ⟨reader', hread, hflows', hcontent'⟩ := ih hflows.tail hrest
          have hlength : front.length + 1 - delivered.length = front'.length := by
            have hboth := congrArg List.length hfront'
            simp only [List.length_cons, List.length_append] at hboth
            omega
          refine ⟨reader', ?_, hflows', hcontent'⟩
          rw [hlength, hread, hfront']
          rfl

/-- One call for at most `limit` bytes. A call that has more keeps the rest. -/
def read (limit : Nat) : Reader → Read × Reader
  | [] => (.bytes [], [])
  | .interrupted :: rest => (.interrupted, rest)
  | .failed :: rest => (.failed, rest)
  | .bytes delivered :: rest =>
    if limit < delivered.length then
      (.bytes (delivered.take limit), .bytes (delivered.drop limit) :: rest)
    else (.bytes delivered, rest)

/-- The bytes up to the end of the stream. -/
def stream : Reader → Bytes
  | [] => []
  | .bytes delivered :: rest => if delivered = [] then [] else delivered ++ stream rest
  | .interrupted :: rest => stream rest
  | .failed :: rest => stream rest

/-- How many calls a reader may still answer with something. -/
def size (reader : Reader) : Nat := reader.length + (content reader).length

/-- What one call says of the stream and leaves of it. -/
theorem read_spec {limit : Nat} (hlimit : 0 < limit) {reader rest : Reader} {answer : Read}
    (h : read limit reader = (answer, rest)) :
    (answer = .bytes [] ∧ stream reader = []) ∨
    (answer = .failed ∧ .failed ∈ reader) ∨
    (size rest < size reader ∧ answer.content.length ≤ limit ∧
      (answer = .interrupted ∨ ∃ delivered, answer = .bytes delivered ∧ delivered ≠ []) ∧
      stream reader = answer.content ++ stream rest ∧ (.failed ∈ rest → .failed ∈ reader)) := by
  cases reader with
  | nil =>
    obtain ⟨rfl, rfl⟩ := Prod.mk.inj h
    exact Or.inl ⟨rfl, rfl⟩
  | cons call later =>
    cases call with
    | interrupted =>
      obtain ⟨rfl, rfl⟩ := Prod.mk.inj h
      refine Or.inr (Or.inr ⟨?_, Nat.zero_le _, Or.inl rfl, rfl, List.mem_cons_of_mem _⟩)
      rw [size, size, List.length_cons, content_cons, Read.content, List.nil_append]
      omega
    | failed =>
      obtain ⟨rfl, rfl⟩ := Prod.mk.inj h
      exact Or.inr (Or.inl ⟨rfl, List.mem_cons_self⟩)
    | bytes delivered =>
      rw [read] at h
      by_cases hempty : delivered = []
      · rw [if_neg (by rw [hempty]; exact Nat.not_lt_zero _)] at h
        obtain ⟨rfl, rfl⟩ := Prod.mk.inj h
        rw [hempty]
        exact Or.inl ⟨rfl, rfl⟩
      · right
        right
        have hstream : stream (.bytes delivered :: later) = delivered ++ stream later :=
          if_neg hempty
        have hpositive : 0 < delivered.length := List.length_pos_iff.2 hempty
        by_cases hmore : limit < delivered.length
        · rw [if_pos hmore] at h
          obtain ⟨rfl, rfl⟩ := Prod.mk.inj h
          have hkept : stream (.bytes (delivered.drop limit) :: later) =
              delivered.drop limit ++ stream later := by
            apply if_neg
            intro hnil
            rw [List.drop_eq_nil_iff] at hnil
            omega
          refine ⟨?_, ?_, Or.inr ⟨_, rfl, ?_⟩, ?_, ?_⟩
          · simp only [size, content_cons, Read.content, List.length_cons, List.length_append,
              List.length_drop]
            omega
          · exact List.length_take_le _ _
          · intro hnil
            have hlength := congrArg List.length hnil
            rw [List.length_take, List.length_nil] at hlength
            omega
          · rw [hstream, hkept, Read.content, ← List.append_assoc, List.take_append_drop]
          · intro hfailed
            rcases List.mem_cons.1 hfailed with hfailed | hfailed
            · exact nomatch hfailed
            · exact List.mem_cons_of_mem _ hfailed
        · rw [if_neg hmore] at h
          obtain ⟨rfl, rfl⟩ := Prod.mk.inj h
          refine ⟨?_, Nat.le_of_not_lt hmore, Or.inr ⟨_, rfl, hempty⟩, hstream,
            List.mem_cons_of_mem _⟩
          simp only [size, content_cons, Read.content, List.length_cons, List.length_append]
          omega

end Reader

section Writer

/-- The answer to one call that offers bytes. -/
inductive Write where
  /-- So many bytes were taken, or all when there were fewer. -/
  | accepted (count : Nat)
  | interrupted
  | failed
  deriving DecidableEq, Repr

/-- The bytes a writer has taken and its answers to the next calls; after these it takes all. -/
structure Writer where
  written : Bytes
  answers : List Write
  deriving DecidableEq, Repr

/-- Why not everything was written. -/
inductive WriteError where
  | writeZero
  | failed
  deriving DecidableEq, Repr

/-- Calls until a buffer is empty. -/
def writeAllAnswers : List Write → Bytes → Bytes → Except WriteError Writer
  | answers, written, [] => .ok ⟨written, answers⟩
  | [], written, offered => .ok ⟨written ++ offered, []⟩
  | .interrupted :: answers, written, offered => writeAllAnswers answers written offered
  | .failed :: _, _, _ => .error .failed
  | .accepted count :: answers, written, offered =>
    if count = 0 then .error .writeZero
    else writeAllAnswers answers (written ++ offered.take count) (offered.drop count)

/-- `Write::write_all`. -/
def writeAll (writer : Writer) (offered : Bytes) : Except WriteError Writer :=
  writeAllAnswers writer.answers writer.written offered

theorem writeAllAnswers_written {answers : List Write} {written offered : Bytes} {writer : Writer}
    (h : writeAllAnswers answers written offered = .ok writer) :
    writer.written = written ++ offered := by
  induction answers generalizing written offered with
  | nil =>
    cases offered with
    | nil =>
      rw [writeAllAnswers, Except.ok.injEq] at h
      rw [← h, List.append_nil]
    | cons b offered =>
      rw [writeAllAnswers, Except.ok.injEq] at h
      · rw [← h]
      · exact nofun
  | cons answer answers ih =>
    cases offered with
    | nil =>
      rw [writeAllAnswers, Except.ok.injEq] at h
      rw [← h, List.append_nil]
    | cons b offered =>
      cases answer with
      | interrupted => exact ih h
      | failed => exact nomatch h
      | accepted count =>
        rw [writeAllAnswers] at h
        · by_cases hzero : count = 0
          · rw [if_pos hzero] at h
            exact nomatch h
          · rw [if_neg hzero] at h
            rw [ih h, List.append_assoc, List.take_append_drop]
        · exact nofun

/-- What was offered comes after what was written before, whatever the calls answered. -/
theorem writeAll_written {writer writer' : Writer} {offered : Bytes}
    (h : writeAll writer offered = .ok writer') : writer'.written = writer.written ++ offered :=
  writeAllAnswers_written h

/-- A writer that takes its bytes in parts, with interruptions, and does not fail before. -/
def Writer.Takes (writer : Writer) : Prop :=
  ∀ answer ∈ writer.answers, answer ≠ .failed ∧ answer ≠ .accepted 0

theorem writeAllAnswers_takes {answers : List Write} (written offered : Bytes)
    (h : ∀ answer ∈ answers, answer ≠ .failed ∧ answer ≠ .accepted 0) :
    ∃ writer, writeAllAnswers answers written offered = .ok writer ∧ writer.Takes := by
  induction answers generalizing written offered with
  | nil =>
    cases offered with
    | nil => exact ⟨_, rfl, h⟩
    | cons b offered => exact ⟨_, rfl, h⟩
  | cons answer answers ih =>
    have hlater := fun other hother => h other (List.mem_cons_of_mem _ hother)
    cases offered with
    | nil => exact ⟨_, rfl, h⟩
    | cons b offered =>
      cases answer with
      | interrupted => exact ih written (b :: offered) hlater
      | failed => exact absurd rfl (h _ List.mem_cons_self).1
      | accepted count =>
        have hcount : count ≠ 0 := by
          rintro rfl
          exact (h _ List.mem_cons_self).2 rfl
        rw [writeAllAnswers, if_neg hcount]
        · exact ih _ _ hlater
        · exact nofun

/-- A writer that does not fail takes whatever is offered. -/
theorem writeAll_takes {writer : Writer} (h : writer.Takes) (offered : Bytes) :
    ∃ writer', writeAll writer offered = .ok writer' ∧ writer'.Takes :=
  writeAllAnswers_takes writer.written offered h

end Writer

end ByteStream
