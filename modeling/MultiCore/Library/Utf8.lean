import Mathlib.Tactic.Common
import Mathlib.Algebra.Group.Nat.Defs

/-!
# Lossy UTF-8

Bytes read as UTF-8, with the replacement character for every longest part that
no character can go on from. A line feed is always a character of its own, so
lines can be decoded one by one.
-/

namespace Utf8

/-- What a decoder has read of a character: how many bytes follow the next one, what the next one
may be, and the value so far. -/
structure Pending where
  more : Nat
  low : Nat
  high : Nat
  value : Nat
  continuation : 0x80 ≤ low
  /-- Shorter forms are not accepted. -/
  shortest : 0x80 ≤ (value * 64 + (low - 0x80)) * 64 ^ more

/-- What stands in for bytes that are no text. -/
def replacement : Char := Char.ofNat 0xFFFD

/-- The first byte of a longer character. -/
def lead (b : Nat) : Option Pending :=
  if h : 0xC2 ≤ b ∧ b ≤ 0xDF then some ⟨0, 0x80, 0xBF, b - 0xC0, by decide, by omega⟩
  else if b = 0xE0 then some ⟨1, 0xA0, 0xBF, 0, by decide, by decide⟩
  else if b = 0xED then some ⟨1, 0x80, 0x9F, 0xD, by decide, by decide⟩
  else if h : 0xE1 ≤ b ∧ b ≤ 0xEF then some ⟨1, 0x80, 0xBF, b - 0xE0, by decide, by omega⟩
  else if b = 0xF0 then some ⟨2, 0x90, 0xBF, 0, by decide, by decide⟩
  else if b = 0xF4 then some ⟨2, 0x80, 0x8F, 4, by decide, by decide⟩
  else if h : 0xF1 ≤ b ∧ b ≤ 0xF3 then some ⟨2, 0x80, 0xBF, b - 0xF0, by decide, by omega⟩
  else none

/-- A byte where a character begins: what is known of the text after it, and what is pending. -/
def first (b : Nat) : List Char × Option Pending :=
  if b < 0x80 then ([Char.ofNat b], none)
  else
    match lead b with
    | some p => ([], some p)
    | none => ([replacement], none)

/-- The value with one more byte. -/
def Pending.with (p : Pending) (b : Nat) : Nat := p.value * 64 + (b - 0x80)

theorem Pending.with_shortest (p : Pending) {b : Nat} (h : p.low ≤ b) :
    0x80 ≤ p.with b * 64 ^ p.more := by
  have hle : p.value * 64 + (p.low - 0x80) ≤ p.with b :=
    Nat.add_le_add_left (Nat.sub_le_sub_right h _) _
  exact Nat.le_trans p.shortest (Nat.mul_le_mul_right _ hle)

/-- A byte that goes on a character. -/
def next (p : Pending) (b : Nat) (h : p.low ≤ b) : List Char × Option Pending :=
  match hmore : p.more with
  | 0 => ([Char.ofNat (p.with b)], none)
  | more + 1 =>
    have hshortest : 0x80 ≤ (p.with b * 64 + (0x80 - 0x80)) * 64 ^ more := by
      have hvalue := p.with_shortest h
      rw [hmore, Nat.pow_succ] at hvalue
      rw [Nat.sub_self, Nat.add_zero, Nat.mul_assoc, Nat.mul_comm 64]
      exact hvalue
    ([], some ⟨more, 0x80, 0xBF, p.with b, by decide, hshortest⟩)

/-- The text of some bytes, of which a part of one character may have been read. -/
def decodeFrom : Option Pending → List UInt8 → List Char
  | none, [] => []
  | some _, [] => [replacement]
  | none, b :: rest => (first b.toNat).1 ++ decodeFrom (first b.toNat).2 rest
  | some p, b :: rest =>
    if h : p.low ≤ b.toNat ∧ b.toNat ≤ p.high then
      (next p b.toNat h.1).1 ++ decodeFrom (next p b.toNat h.1).2 rest
    else replacement :: (first b.toNat).1 ++ decodeFrom (first b.toNat).2 rest

/-- The text of some bytes. -/
def fromUtf8Lossy (bytes : List UInt8) : List Char := decodeFrom none bytes

/-- Whether some bytes are UTF-8, of which a part of one character may have been read. -/
def validFrom : Option Pending → List UInt8 → Bool
  | none, [] => true
  | some _, [] => false
  | none, b :: rest =>
    (b.toNat < 0x80 || (lead b.toNat).isSome) && validFrom (first b.toNat).2 rest
  | some p, b :: rest =>
    if h : p.low ≤ b.toNat ∧ b.toNat ≤ p.high then validFrom (next p b.toNat h.1).2 rest else false

/-- The text of some bytes that are UTF-8. -/
def fromUtf8 (bytes : List UInt8) : Option (List Char) :=
  if validFrom none bytes then some (fromUtf8Lossy bytes) else none

/-- The bytes of a text. -/
def encode (text : List Char) : List UInt8 := text.flatMap String.utf8EncodeChar

section RoundTrip

/-- What is pending, field by field. -/
structure Pending.Is (p : Pending) (more low high value : Nat) : Prop where
  more_eq : p.more = more
  low_eq : p.low = low
  high_eq : p.high = high
  value_eq : p.value = value

/-- Some bytes are read in full, whatever stands behind them: their characters, and what is pending
then. -/
def Reads (p : Option Pending) (bytes : List UInt8) (chars : List Char) (p' : Option Pending) :
    Prop :=
  ∀ rest, decodeFrom p (bytes ++ rest) = chars ++ decodeFrom p' rest ∧
    validFrom p (bytes ++ rest) = validFrom p' rest

theorem Reads.trans {p q r : Option Pending} {before after : List UInt8} {chars chars' : List Char}
    (h : Reads p before chars q) (k : Reads q after chars' r) :
    Reads p (before ++ after) (chars ++ chars') r := by
  intro rest
  obtain ⟨hdecode, hvalid⟩ := h (after ++ rest)
  obtain ⟨kdecode, kvalid⟩ := k rest
  rw [List.append_assoc, List.append_assoc, hdecode, kdecode, hvalid, kvalid]
  exact ⟨rfl, rfl⟩

/-- The last byte of a character. -/
theorem reads_last {p : Pending} {b : UInt8} (hmore : p.more = 0)
    (h : p.low ≤ b.toNat ∧ b.toNat ≤ p.high) :
    Reads (some p) [b] [Char.ofNat (p.with b.toNat)] none := by
  have hnext : next p b.toNat h.1 = ([Char.ofNat (p.with b.toNat)], none) := by
    unfold next
    split
    · rfl
    · rename_i hsucc
      rw [hmore] at hsucc
      exact nomatch hsucc
  intro rest
  rw [List.singleton_append, decodeFrom, validFrom, dif_pos h, dif_pos h, hnext]
  exact ⟨rfl, rfl⟩

/-- A byte with others of its character behind it. -/
theorem reads_middle {p : Pending} {b : UInt8} {more : Nat} (hmore : p.more = more + 1)
    (h : p.low ≤ b.toNat ∧ b.toNat ≤ p.high) :
    ∃ p' : Pending, Reads (some p) [b] [] (some p') ∧ p'.Is more 0x80 0xBF (p.with b.toNat) := by
  have hnext : ∃ p' : Pending, next p b.toNat h.1 = ([], some p') ∧
      p'.Is more 0x80 0xBF (p.with b.toNat) := by
    unfold next
    split
    · rename_i hzero
      rw [hmore] at hzero
      exact nomatch hzero
    · rename_i more' hsucc
      rw [hmore, Nat.add_right_cancel_iff] at hsucc
      exact ⟨_, rfl, ⟨hsucc.symm, rfl, rfl, rfl⟩⟩
  obtain ⟨p', hp', hspec⟩ := hnext
  have hreads : Reads (some p) [b] [] (some p') := by
    intro rest
    rw [List.singleton_append, decodeFrom, validFrom, dif_pos h, dif_pos h, hp']
    exact ⟨rfl, rfl⟩
  exact ⟨p', hreads, hspec⟩

/-- What a first byte says of the bytes behind it. -/
theorem reads_lead {b : UInt8} {p : Pending} (hascii : 0x80 ≤ b.toNat)
    (h : lead b.toNat = some p) : Reads none [b] [] (some p) := by
  have hfirst : first b.toNat = ([], some p) := by
    rw [first, if_neg (Nat.not_lt.2 hascii), h]
  intro rest
  rw [List.singleton_append, decodeFrom, validFrom, hfirst, h]
  exact ⟨rfl, by rw [Option.isSome_some, Bool.or_true, Bool.true_and]⟩

theorem lead_two {b : Nat} (h : 0xC2 ≤ b ∧ b ≤ 0xDF) :
    ∃ p, lead b = some p ∧ p.Is 0 0x80 0xBF (b - 0xC0) := by
  rw [lead, dif_pos h]
  exact ⟨_, rfl, ⟨rfl, rfl, rfl, rfl⟩⟩

theorem lead_three {b : Nat} (h : 0xE0 ≤ b ∧ b ≤ 0xEF) :
    ∃ p, lead b = some p ∧ p.Is 1 (if b = 0xE0 then 0xA0 else 0x80)
      (if b = 0xED then 0x9F else 0xBF) (b - 0xE0) := by
  have htwo : ¬(0xC2 ≤ b ∧ b ≤ 0xDF) := by omega
  rw [lead, dif_neg htwo]
  by_cases hfirst : b = 0xE0
  · rw [if_pos hfirst, hfirst]
    exact ⟨_, rfl, ⟨rfl, rfl, rfl, rfl⟩⟩
  rw [if_neg hfirst]
  by_cases hlast : b = 0xED
  · rw [if_pos hlast, hlast]
    exact ⟨_, rfl, ⟨rfl, rfl, rfl, rfl⟩⟩
  have hbetween : 0xE1 ≤ b ∧ b ≤ 0xEF := by omega
  rw [if_neg hlast, dif_pos hbetween, if_neg hfirst, if_neg hlast]
  exact ⟨_, rfl, ⟨rfl, rfl, rfl, rfl⟩⟩

theorem lead_four {b : Nat} (h : 0xF0 ≤ b ∧ b ≤ 0xF4) :
    ∃ p, lead b = some p ∧ p.Is 2 (if b = 0xF0 then 0x90 else 0x80)
      (if b = 0xF4 then 0x8F else 0xBF) (b - 0xF0) := by
  have htwo : ¬(0xC2 ≤ b ∧ b ≤ 0xDF) := by omega
  have hthree : ¬(0xE1 ≤ b ∧ b ≤ 0xEF) := by omega
  have hother : b ≠ 0xE0 ∧ b ≠ 0xED := by omega
  rw [lead, dif_neg htwo, if_neg hother.1, if_neg hother.2, dif_neg hthree]
  by_cases hfirst : b = 0xF0
  · rw [if_pos hfirst, hfirst]
    exact ⟨_, rfl, ⟨rfl, rfl, rfl, rfl⟩⟩
  rw [if_neg hfirst]
  by_cases hlast : b = 0xF4
  · rw [if_pos hlast, hlast]
    exact ⟨_, rfl, ⟨rfl, rfl, rfl, rfl⟩⟩
  have hbetween : 0xF1 ≤ b ∧ b ≤ 0xF3 := by omega
  rw [if_neg hlast, dif_pos hbetween, if_neg hfirst, if_neg hlast]
  exact ⟨_, rfl, ⟨rfl, rfl, rfl, rfl⟩⟩

section Characters

variable {v : Nat} {a b c d : UInt8}

theorem reads_one (ha : a.toNat = v) (hv : v < 0x80) : Reads none [a] [Char.ofNat v] none := by
  have hfirst : first a.toNat = ([Char.ofNat v], none) := by
    rw [ha, first, if_pos hv]
  intro rest
  rw [List.singleton_append, decodeFrom, validFrom, hfirst, ha, decide_eq_true hv, Bool.true_or,
    Bool.true_and]
  exact ⟨rfl, rfl⟩

theorem reads_two (ha : a.toNat = v / 64 + 0xC0) (hb : b.toNat = v % 64 + 0x80)
    (hv : 0x80 ≤ v ∧ v < 0x800) : Reads none [a, b] [Char.ofNat v] none := by
  have hlead : 0xC2 ≤ a.toNat ∧ a.toNat ≤ 0xDF := by omega
  obtain ⟨p, hp, hspec⟩ := lead_two hlead
  have hlow := hspec.low_eq
  have hhigh := hspec.high_eq
  have hwithin : p.low ≤ b.toNat ∧ b.toNat ≤ p.high := by omega
  have hlast : p.with b.toNat = v := by
    have hvalue := hspec.value_eq
    unfold Pending.with
    omega
  have hreads := (reads_lead (by omega) hp).trans (reads_last hspec.more_eq hwithin)
  rw [hlast] at hreads
  exact hreads

theorem reads_three (ha : a.toNat = v / 4096 + 0xE0) (hb : b.toNat = v / 64 % 64 + 0x80)
    (hc : c.toNat = v % 64 + 0x80) (hv : 0x800 ≤ v ∧ v < 0x10000)
    (hsurrogate : v < 0xD800 ∨ 0xDFFF < v) : Reads none [a, b, c] [Char.ofNat v] none := by
  have hlead : 0xE0 ≤ a.toNat ∧ a.toNat ≤ 0xEF := by omega
  obtain ⟨p, hp, hspec⟩ := lead_three hlead
  have hsecond : p.low ≤ b.toNat ∧ b.toNat ≤ p.high := by
    rw [hspec.low_eq, hspec.high_eq]
    by_cases hfirst : a.toNat = 0xE0
    · rw [if_pos hfirst, if_neg (by omega)]
      omega
    · rw [if_neg hfirst]
      by_cases hlast : a.toNat = 0xED
      · rw [if_pos hlast]
        omega
      · rw [if_neg hlast]
        omega
  obtain ⟨q, hq, hqspec⟩ := reads_middle hspec.more_eq hsecond
  have hwithin : q.low ≤ c.toNat ∧ c.toNat ≤ q.high := by
    rw [hqspec.low_eq, hqspec.high_eq]
    omega
  have hlast : q.with c.toNat = v := by
    have hvalue := hspec.value_eq
    have hqvalue := hqspec.value_eq
    unfold Pending.with at hqvalue ⊢
    omega
  have hreads := ((reads_lead (by omega) hp).trans hq).trans (reads_last hqspec.more_eq hwithin)
  rw [hlast] at hreads
  exact hreads

theorem reads_four (ha : a.toNat = v / 262144 + 0xF0) (hb : b.toNat = v / 4096 % 64 + 0x80)
    (hc : c.toNat = v / 64 % 64 + 0x80) (hd : d.toNat = v % 64 + 0x80)
    (hv : 0x10000 ≤ v ∧ v < 0x110000) : Reads none [a, b, c, d] [Char.ofNat v] none := by
  have hlead : 0xF0 ≤ a.toNat ∧ a.toNat ≤ 0xF4 := by omega
  obtain ⟨p, hp, hspec⟩ := lead_four hlead
  have hsecond : p.low ≤ b.toNat ∧ b.toNat ≤ p.high := by
    rw [hspec.low_eq, hspec.high_eq]
    by_cases hfirst : a.toNat = 0xF0
    · rw [if_pos hfirst, if_neg (by omega)]
      omega
    · rw [if_neg hfirst]
      by_cases hlast : a.toNat = 0xF4
      · rw [if_pos hlast]
        omega
      · rw [if_neg hlast]
        omega
  obtain ⟨q, hq, hqspec⟩ := reads_middle hspec.more_eq hsecond
  have hthird : q.low ≤ c.toNat ∧ c.toNat ≤ q.high := by
    rw [hqspec.low_eq, hqspec.high_eq]
    omega
  obtain ⟨r, hr, hrspec⟩ := reads_middle hqspec.more_eq hthird
  have hwithin : r.low ≤ d.toNat ∧ d.toNat ≤ r.high := by
    rw [hrspec.low_eq, hrspec.high_eq]
    omega
  have hlast : r.with d.toNat = v := by
    have hvalue := hspec.value_eq
    have hqvalue := hqspec.value_eq
    have hrvalue := hrspec.value_eq
    unfold Pending.with at hqvalue hrvalue ⊢
    omega
  have hreads := (((reads_lead (by omega) hp).trans hq).trans hr).trans
    (reads_last hrspec.more_eq hwithin)
  rw [hlast] at hreads
  exact hreads

end Characters

/-- The bytes of a character are read as it. -/
theorem reads_encodeChar (c : Char) : Reads none (String.utf8EncodeChar c) [c] none := by
  have hvalid : c.toNat < 0xD800 ∨ 0xDFFF < c.toNat ∧ c.toNat < 0x110000 := c.valid
  have hbyte : ∀ n, n < 256 → (UInt8.ofNat n).toNat = n := fun n hn => by
    rw [UInt8.toNat_ofNat']
    exact Nat.mod_eq_of_lt hn
  have hself : Char.ofNat c.toNat = c := Char.ofNat_toNat c
  generalize hv : c.toNat = v at hvalid hself
  have hchar : c.val.toNat = v := hv
  unfold String.utf8EncodeChar
  simp only [hchar]
  rw [← hself]
  by_cases hone : v ≤ 0x7f
  · rw [if_pos hone]
    exact reads_one (hbyte v (by omega)) (by omega)
  rw [if_neg hone]
  by_cases htwo : v ≤ 0x7ff
  · rw [if_pos htwo]
    apply reads_two (v := v) _ _ (by omega)
    · rw [hbyte _ (by omega)]
      omega
    · exact hbyte _ (by omega)
  rw [if_neg htwo]
  by_cases hthree : v ≤ 0xffff
  · rw [if_pos hthree]
    apply reads_three (v := v) _ _ _ (by omega) (by omega)
    · rw [hbyte _ (by omega)]
      omega
    · exact hbyte _ (by omega)
    · exact hbyte _ (by omega)
  · rw [if_neg hthree]
    apply reads_four (v := v) _ _ _ _ (by omega)
    · rw [hbyte _ (by omega)]
      omega
    · exact hbyte _ (by omega)
    · exact hbyte _ (by omega)
    · exact hbyte _ (by omega)

theorem reads_encode (text : List Char) : Reads none (encode text) text none := by
  induction text with
  | nil => exact fun rest => ⟨rfl, rfl⟩
  | cons c text ih => exact (reads_encodeChar c).trans ih

/-- What a text was written as is read as it. -/
theorem fromUtf8Lossy_encode (text : List Char) : fromUtf8Lossy (encode text) = text := by
  have hreads := (reads_encode text []).1
  rw [List.append_nil] at hreads
  rw [fromUtf8Lossy, hreads]
  exact List.append_nil text

/-- A text is written as UTF-8. -/
theorem fromUtf8_encode (text : List Char) : fromUtf8 (encode text) = some text := by
  have hvalid := (reads_encode text []).2
  rw [List.append_nil] at hvalid
  rw [fromUtf8, hvalid, fromUtf8Lossy_encode]
  rfl

end RoundTrip

section Ascii

/-- A byte that no longer character holds is a character of its own. -/
theorem mem_decodeFrom_of_ascii {p : Option Pending} {bytes : List UInt8} {b : UInt8}
    (hascii : b.toNat < 0x80) (hmem : b ∈ bytes) (hvalid : validFrom p bytes = true) :
    Char.ofNat b.toNat ∈ decodeFrom p bytes := by
  induction bytes generalizing p with
  | nil => exact absurd hmem List.not_mem_nil
  | cons a rest ih =>
    cases p with
    | none =>
      rw [validFrom, Bool.and_eq_true] at hvalid
      rw [decodeFrom]
      rcases List.mem_cons.1 hmem with rfl | hrest
      · rw [first, if_pos hascii]
        exact List.mem_cons_self
      · exact List.mem_append_right _ (ih hrest hvalid.2)
    | some p =>
      rw [validFrom] at hvalid
      rw [decodeFrom]
      by_cases hgoes : p.low ≤ a.toNat ∧ a.toNat ≤ p.high
      · rw [dif_pos hgoes] at hvalid ⊢
        rcases List.mem_cons.1 hmem with rfl | hrest
        · have hlow := p.continuation
          omega
        · exact List.mem_append_right _ (ih hrest hvalid)
      · rw [dif_neg hgoes] at hvalid
        exact absurd hvalid Bool.false_ne_true

theorem fromUtf8_eq_some {bytes : List UInt8} {text : List Char} :
    fromUtf8 bytes = some text ↔ validFrom none bytes = true ∧ fromUtf8Lossy bytes = text := by
  unfold fromUtf8
  by_cases hvalid : validFrom none bytes = true
  · rw [if_pos hvalid, Option.some_inj, and_iff_right hvalid]
  · rw [if_neg hvalid]
    constructor
    · exact fun h => absurd h (Option.some_ne_none _).symm
    · exact fun h => absurd h.1 hvalid

/-- In the text of UTF-8 every ASCII byte stands for itself. -/
theorem mem_of_ascii {bytes : List UInt8} {text : List Char} {b : UInt8}
    (htext : fromUtf8 bytes = some text) (hmem : b ∈ bytes) (hascii : b.toNat < 0x80) :
    Char.ofNat b.toNat ∈ text := by
  obtain ⟨hvalid, rfl⟩ := fromUtf8_eq_some.1 htext
  exact mem_decodeFrom_of_ascii hascii hmem hvalid

theorem reads_of_valid {p : Option Pending} {bytes : List UInt8} (h : validFrom p bytes = true) :
    Reads p bytes (decodeFrom p bytes) none := by
  intro rest
  induction bytes generalizing p with
  | nil =>
    cases p with
    | none => exact ⟨rfl, rfl⟩
    | some p => exact absurd h Bool.false_ne_true
  | cons b bytes ih =>
    cases p with
    | none =>
      rw [validFrom, Bool.and_eq_true] at h
      obtain ⟨hdecode, hvalid⟩ := ih h.2
      rw [List.cons_append, decodeFrom, decodeFrom, validFrom, hdecode, hvalid, h.1,
        List.append_assoc, Bool.true_and]
      exact ⟨rfl, rfl⟩
    | some p =>
      rw [validFrom] at h
      by_cases hgoes : p.low ≤ b.toNat ∧ b.toNat ≤ p.high
      · rw [dif_pos hgoes] at h
        obtain ⟨hdecode, hvalid⟩ := ih h
        rw [List.cons_append, decodeFrom, decodeFrom, validFrom, dif_pos hgoes, dif_pos hgoes,
          dif_pos hgoes, hdecode, hvalid, List.append_assoc]
        exact ⟨rfl, rfl⟩
      · rw [dif_neg hgoes] at h
        exact absurd h Bool.false_ne_true

/-- UTF-8 behind UTF-8 is UTF-8, and its text is one behind the other. -/
theorem fromUtf8_append {before after : List UInt8} {text text' : List Char}
    (h : fromUtf8 before = some text) (k : fromUtf8 after = some text') :
    fromUtf8 (before ++ after) = some (text ++ text') := by
  obtain ⟨hvalid, rfl⟩ := fromUtf8_eq_some.1 h
  obtain ⟨kvalid, rfl⟩ := fromUtf8_eq_some.1 k
  obtain ⟨hdecode, hvalid'⟩ := reads_of_valid hvalid after
  exact fromUtf8_eq_some.2 ⟨hvalid'.trans kvalid, hdecode⟩

theorem decodeFrom_pending_ne_nil (p : Pending) (bytes : List UInt8) :
    decodeFrom (some p) bytes ≠ [] := by
  induction bytes generalizing p with
  | nil => exact List.cons_ne_nil _ _
  | cons b bytes ih =>
    rw [decodeFrom]
    by_cases hgoes : p.low ≤ b.toNat ∧ b.toNat ≤ p.high
    · rw [dif_pos hgoes]
      unfold next
      split
      · exact List.cons_ne_nil _ _
      · exact ih _
    · rw [dif_neg hgoes]
      exact List.cons_ne_nil _ _

/-- Some bytes have some text. -/
theorem fromUtf8_ne_nil {bytes : List UInt8} {text : List Char} (h : fromUtf8 bytes = some text)
    (hne : bytes ≠ []) : text ≠ [] := by
  obtain ⟨-, rfl⟩ := fromUtf8_eq_some.1 h
  cases bytes with
  | nil => exact absurd rfl hne
  | cons b bytes =>
    rw [fromUtf8Lossy, decodeFrom, first]
    by_cases hascii : b.toNat < 0x80
    · rw [if_pos hascii]
      exact List.cons_ne_nil _ _
    · rw [if_neg hascii]
      cases lead b.toNat with
      | none => exact List.cons_ne_nil _ _
      | some p => exact decodeFrom_pending_ne_nil p bytes

theorem encode_ne_nil {text : List Char} (hne : text ≠ []) : encode text ≠ [] := by
  intro hnil
  have hlossy := fromUtf8Lossy_encode text
  rw [hnil] at hlossy
  exact hne hlossy.symm

/-- ASCII is UTF-8. -/
theorem fromUtf8_ascii {b : UInt8} (h : b.toNat < 0x80) :
    fromUtf8 [b] = some [Char.ofNat b.toNat] := by
  have hreads := reads_one (a := b) rfl h []
  rw [List.append_nil] at hreads
  exact fromUtf8_eq_some.2 ⟨hreads.2, hreads.1⟩

/-- Only the shortest of the longer characters end after one more byte. -/
theorem lead_more_zero {b : Nat} {p : Pending} (h : lead b = some p) (hmore : p.more = 0) :
    p.Is 0 0x80 0xBF (b - 0xC0) ∧ 0xC2 ≤ b ∧ b ≤ 0xDF := by
  by_cases htwo : 0xC2 ≤ b ∧ b ≤ 0xDF
  · obtain ⟨q, hq, hspec⟩ := lead_two htwo
    rw [h, Option.some_inj] at hq
    rw [hq]
    exact ⟨hspec, htwo⟩
  · unfold lead at h
    rw [dif_neg htwo] at h
    split_ifs at h <;> cases h <;> cases hmore

/-- A character of two bytes is not an ASCII one. -/
theorem first_pair {a b : UInt8} (ha : 0x80 ≤ a.toNat) (hvalid : validFrom none [a, b] = true) :
    ∃ c : Char, fromUtf8Lossy [a, b] = [c] ∧ 0x80 ≤ c.toNat := by
  have hlead : ∃ p, lead a.toNat = some p := by
    rw [validFrom, Bool.and_eq_true, decide_eq_false (Nat.not_lt.2 ha), Bool.false_or] at hvalid
    exact Option.isSome_iff_exists.1 hvalid.1
  obtain ⟨p, hp⟩ := hlead
  have hfirst := reads_lead ha hp [b]
  rw [List.singleton_append] at hfirst
  rw [hfirst.2] at hvalid
  have hgoes : p.low ≤ b.toNat ∧ b.toNat ≤ p.high := by
    by_contra hnot
    rw [validFrom, dif_neg hnot] at hvalid
    exact absurd hvalid Bool.false_ne_true
  have hmore : p.more = 0 := by
    cases hmore : p.more with
    | zero => rfl
    | succ more =>
      obtain ⟨q, hq, -⟩ := reads_middle hmore hgoes
      have hnone := (hq []).2
      rw [List.append_nil, hvalid] at hnone
      exact absurd hnone.symm Bool.false_ne_true
  have hlast := reads_last hmore hgoes []
  rw [List.append_nil] at hlast
  obtain ⟨hspec, hrange⟩ := lead_more_zero hp hmore
  have hvalue : 0x80 ≤ p.with b.toNat ∧ p.with b.toNat < 0xD800 := by
    have hlow := hspec.low_eq
    have hhigh := hspec.high_eq
    have hvalue := hspec.value_eq
    unfold Pending.with
    omega
  have hchar : (Char.ofNat (p.with b.toNat)).toNat = p.with b.toNat := by
    rw [Char.ofNat, dif_pos (Or.inl hvalue.2)]
    rfl
  rw [← hchar] at hvalue
  exact ⟨_, hfirst.1.trans hlast.1, hvalue.1⟩

/-- Two bytes of UTF-8 are two ASCII characters or one that is not. -/
theorem fromUtf8_pair {a b : UInt8} {text : List Char} (htext : fromUtf8 [a, b] = some text) :
    (text = [Char.ofNat a.toNat, Char.ofNat b.toNat] ∧ a.toNat < 0x80 ∧ b.toNat < 0x80) ∨
      ∃ c : Char, text = [c] ∧ 0x80 ≤ c.toNat := by
  obtain ⟨hvalid, rfl⟩ := fromUtf8_eq_some.1 htext
  by_cases ha : a.toNat < 0x80
  swap
  · exact Or.inr (first_pair (Nat.not_lt.1 ha) hvalid)
  have hfirst := reads_one (a := a) rfl ha [b]
  rw [List.singleton_append] at hfirst
  have hb : b.toNat < 0x80 := by
    rw [hfirst.2, validFrom, Bool.and_eq_true, first] at hvalid
    by_contra hb
    rw [if_neg hb, decide_eq_false hb, Bool.false_or] at hvalid
    obtain ⟨p, hp⟩ := Option.isSome_iff_exists.1 hvalid.1
    rw [hp] at hvalid
    exact absurd hvalid.2 Bool.false_ne_true
  have hsecond := reads_one (a := b) rfl hb []
  rw [List.append_nil] at hsecond
  rw [fromUtf8Lossy, hfirst.1, hsecond.1]
  exact Or.inl ⟨rfl, ha, hb⟩

/-- A text of ASCII bytes is one of ASCII characters, and these are its bytes. -/
theorem ascii_of_encode {text : List Char} (h : ∀ b ∈ encode text, b.toNat < 0x80) {c : Char}
    (hc : c ∈ text) : c.toNat < 0x80 ∧ UInt8.ofNat c.toNat ∈ encode text := by
  have hbytes : ∀ b ∈ String.utf8EncodeChar c, b ∈ encode text := fun b hb =>
    List.mem_flatMap.2 ⟨c, hc, hb⟩
  have hvalue : c.val.toNat = c.toNat := rfl
  have hascii : c.toNat < 0x80 := by
    by_contra hnot
    have hlead : ∃ b ∈ String.utf8EncodeChar c, 0x80 ≤ b.toNat := by
      unfold String.utf8EncodeChar
      simp only [hvalue]
      rw [if_neg (by omega)]
      split_ifs
      · exact ⟨_, List.mem_cons_self, by rw [UInt8.toNat_ofNat']; omega⟩
      · exact ⟨_, List.mem_cons_self, by rw [UInt8.toNat_ofNat']; omega⟩
      · exact ⟨_, List.mem_cons_self, by rw [UInt8.toNat_ofNat']; omega⟩
    obtain ⟨b, hb, hlarge⟩ := hlead
    exact absurd (h b (hbytes b hb)) (Nat.not_lt.2 hlarge)
  have hself : String.utf8EncodeChar c = [UInt8.ofNat c.toNat] := by
    unfold String.utf8EncodeChar
    simp only [hvalue]
    rw [if_pos (by omega)]
  apply And.intro hascii
  apply hbytes
  rw [hself]
  exact List.mem_cons_self

end Ascii

/-- The line feed. -/
def newline : UInt8 := 10

/-- A line feed ends whatever was pending and is itself. -/
theorem decodeFrom_newline (p : Option Pending) (body rest : List UInt8) :
    decodeFrom p (body ++ newline :: rest) =
      decodeFrom p body ++ '\n' :: decodeFrom none rest := by
  induction body generalizing p with
  | nil =>
    cases p with
    | none => rfl
    | some p =>
      have hnot : ¬(p.low ≤ newline.toNat ∧ newline.toNat ≤ p.high) := by
        intro h
        have hlow := Nat.le_trans p.continuation h.1
        exact absurd hlow (by decide)
      rw [List.nil_append, decodeFrom.eq_4, dif_neg hnot]
      rfl
  | cons b body ih =>
    cases p with
    | none => rw [List.cons_append, decodeFrom, decodeFrom, ih, List.append_assoc]
    | some p =>
      rw [List.cons_append, decodeFrom, decodeFrom]
      by_cases h : p.low ≤ b.toNat ∧ b.toNat ≤ p.high
      · rw [dif_pos h, dif_pos h, ih, List.append_assoc]
      · rw [dif_neg h, dif_neg h, ih, List.append_assoc]

theorem fromUtf8Lossy_newline (body rest : List UInt8) :
    fromUtf8Lossy (body ++ newline :: rest) =
      fromUtf8Lossy body ++ '\n' :: fromUtf8Lossy rest := decodeFrom_newline none body rest

section Foreign

/-- A character of its own: an ASCII character that is not NUL. -/
theorem ofNat_ne_ofNat {n m : Nat} (hm : 0 < m ∧ m < 0x80) (h : n ≠ m) :
    Char.ofNat n ≠ Char.ofNat m := by
  intro heq
  have hm' : m.isValidChar := Or.inl (by omega)
  rw [Char.ofNat, Char.ofNat, dif_pos hm'] at heq
  by_cases hn : n.isValidChar
  · rw [dif_pos hn] at heq
    exact h (congrArg Char.toNat heq)
  · rw [dif_neg hn] at heq
    have hzero : 0 = m := congrArg Char.toNat heq
    omega

theorem ofNat_ne_replacement {m : Nat} (hm : 0 < m ∧ m < 0x80) : Char.ofNat m ≠ replacement :=
  (ofNat_ne_ofNat hm (by omega)).symm

theorem first_ne {m b : Nat} (hm : 0 < m ∧ m < 0x80) (h : b ≠ m) : Char.ofNat m ∉ (first b).1 := by
  unfold first
  by_cases hascii : b < 0x80
  · rw [if_pos hascii]
    exact fun hmem => ofNat_ne_ofNat hm h (List.mem_singleton.1 hmem).symm
  · rw [if_neg hascii]
    cases lead b with
    | none => exact fun hmem => ofNat_ne_replacement hm (List.mem_singleton.1 hmem)
    | some p => exact List.not_mem_nil

theorem next_ne {p : Pending} {m b : Nat} (hm : 0 < m ∧ m < 0x80) (h : p.low ≤ b) :
    Char.ofNat m ∉ (next p b h).1 := by
  have hshortest := p.with_shortest h
  unfold next
  split
  · rename_i hmore
    rw [hmore, Nat.pow_zero, Nat.mul_one] at hshortest
    have hvalue : p.with b ≠ m := by omega
    exact fun hmem => ofNat_ne_ofNat hm hvalue (List.mem_singleton.1 hmem).symm
  · exact List.not_mem_nil

/-- An ASCII character is read only where its byte stands. -/
theorem decodeFrom_ne (p : Option Pending) {a : UInt8} (ha : 0 < a.toNat ∧ a.toNat < 0x80)
    {body : List UInt8} (h : a ∉ body) : Char.ofNat a.toNat ∉ decodeFrom p body := by
  have hreplacement := ofNat_ne_replacement ha
  induction body generalizing p with
  | nil =>
    cases p with
    | none => exact List.not_mem_nil
    | some p => exact fun hmem => hreplacement (List.mem_singleton.1 hmem)
  | cons b body ih =>
    have hb : b.toNat ≠ a.toNat := by
      intro heq
      apply h
      rw [UInt8.toNat_inj.1 heq]
      exact List.mem_cons_self
    have hbody : a ∉ body := fun hmem => h (List.mem_cons_of_mem _ hmem)
    cases p with
    | none =>
      rw [decodeFrom, List.mem_append, not_or]
      exact ⟨first_ne ha hb, ih _ hbody⟩
    | some p =>
      rw [decodeFrom]
      by_cases hgoes : p.low ≤ b.toNat ∧ b.toNat ≤ p.high
      · rw [dif_pos hgoes, List.mem_append, not_or]
        exact ⟨next_ne ha hgoes.1, ih _ hbody⟩
      · rw [dif_neg hgoes, List.mem_append, List.mem_cons, not_or, not_or]
        exact ⟨⟨hreplacement, first_ne ha hb⟩, ih _ hbody⟩

end Foreign

/-- Only a line feed is read as one. -/
theorem fromUtf8Lossy_ne_newline {body : List UInt8} (h : newline ∉ body) :
    '\n' ∉ fromUtf8Lossy body := decodeFrom_ne none (by decide) h

example : fromUtf8Lossy [0x61, 0xC3, 0xA9, 0xE2, 0x82, 0x0A, 0xFF] =
    ['a', 'é', replacement, '\n', replacement] := by decide

end Utf8
