import Mathlib.Data.List.Basic
import Mathlib.Tactic.Common

/-!
# Base64

Bytes in an alphabet of sixty-four symbols, three bytes in four of them, with
padding or without. A text is read only as it would be written: no symbols left
over and no bits set that no byte uses. What was written can be found again inside
a longer text, where it begins at a multiple of four symbols.
-/

namespace Base64

/-- The two alphabets, which differ in two symbols. -/
inductive Alphabet where
  | standard
  | urlSafe
  deriving DecidableEq, Repr

/-- The symbol of 62. -/
def Alphabet.dash : Alphabet → Char
  | standard => '+'
  | urlSafe => '-'

/-- The symbol of 63. -/
def Alphabet.stroke : Alphabet → Char
  | standard => '/'
  | urlSafe => '_'

/-- The symbol of a value under sixty-four. -/
def symbol (alphabet : Alphabet) (n : Nat) : Char :=
  if n < 26 then Char.ofNat (65 + n)
  else if n < 52 then Char.ofNat (71 + n)
  else if n < 62 then Char.ofNat (n - 4)
  else if n = 62 then alphabet.dash
  else alphabet.stroke

/-- The value of a symbol. -/
def value (alphabet : Alphabet) (c : Char) : Option Nat :=
  if 65 ≤ c.toNat ∧ c.toNat ≤ 90 then some (c.toNat - 65)
  else if 97 ≤ c.toNat ∧ c.toNat ≤ 122 then some (c.toNat - 71)
  else if 48 ≤ c.toNat ∧ c.toNat ≤ 57 then some (c.toNat + 4)
  else if c = alphabet.dash then some 62
  else if c = alphabet.stroke then some 63
  else none

/-- Whether a character belongs to the alphabet. -/
def isSymbol (alphabet : Alphabet) (c : Char) : Bool := (value alphabet c).isSome

section Symbols

variable {alphabet : Alphabet}

theorem value_symbol (alphabet : Alphabet) :
    ∀ n < 64, value alphabet (symbol alphabet n) = some n := by
  cases alphabet <;> decide

theorem symbol_value {c : Char} {n : Nat} (h : value alphabet c = some n) :
    n < 64 ∧ symbol alphabet n = c := by
  have hself : Char.ofNat c.toNat = c := Char.ofNat_toNat c
  unfold value at h
  split_ifs at h with hupper hlower hdigit hdash hstroke
  · obtain rfl := Option.some.inj h
    rw [symbol, if_pos (by omega), Nat.add_sub_cancel' hupper.1]
    exact ⟨by omega, hself⟩
  · obtain rfl := Option.some.inj h
    have hsum : 71 + (c.toNat - 71) = c.toNat := by omega
    rw [symbol, if_neg (by omega), if_pos (by omega), hsum]
    exact ⟨by omega, hself⟩
  · obtain rfl := Option.some.inj h
    rw [symbol, if_neg (by omega), if_neg (by omega), if_pos (by omega), Nat.add_sub_cancel]
    exact ⟨by omega, hself⟩
  · obtain rfl := Option.some.inj h
    exact ⟨by decide, hdash.symm⟩
  · obtain rfl := Option.some.inj h
    exact ⟨by decide, hstroke.symm⟩

theorem symbol_inj {m n : Nat} (hm : m < 64) (hn : n < 64)
    (h : symbol alphabet m = symbol alphabet n) : m = n := by
  have hvalue := value_symbol alphabet m hm
  rw [h, value_symbol alphabet n hn] at hvalue
  exact (Option.some.inj hvalue).symm

theorem isSymbol_symbol {n : Nat} (h : n < 64) : isSymbol alphabet (symbol alphabet n) = true := by
  rw [isSymbol, value_symbol alphabet n h]
  rfl

end Symbols

/-- The text of some bytes. -/
def encode (alphabet : Alphabet) : List UInt8 → List Char
  | [] => []
  | [a] => [symbol alphabet (a.toNat / 4), symbol alphabet (a.toNat % 4 * 16)]
  | [a, b] =>
    [symbol alphabet (a.toNat / 4), symbol alphabet (a.toNat % 4 * 16 + b.toNat / 16),
      symbol alphabet (b.toNat % 16 * 4)]
  | a :: b :: c :: rest =>
    symbol alphabet (a.toNat / 4) :: symbol alphabet (a.toNat % 4 * 16 + b.toNat / 16) ::
      symbol alphabet (b.toNat % 16 * 4 + c.toNat / 64) :: symbol alphabet (c.toNat % 64) ::
        encode alphabet rest

/-- The text of some bytes, filled up to a multiple of four. -/
def padded (alphabet : Alphabet) (bytes : List UInt8) : List Char :=
  encode alphabet bytes ++ List.replicate ((3 - bytes.length % 3) % 3) '='

/-- The bytes of a text, which has to be as it would be written. -/
def decode (alphabet : Alphabet) : List Char → Option (List UInt8)
  | [] => some []
  | [_] => none
  | [w, x] => do
    let w ← value alphabet w
    let x ← value alphabet x
    if x % 16 = 0 then some [UInt8.ofNat (w * 4 + x / 16)] else none
  | [w, x, y] => do
    let w ← value alphabet w
    let x ← value alphabet x
    let y ← value alphabet y
    if y % 4 = 0 then
      some [UInt8.ofNat (w * 4 + x / 16), UInt8.ofNat (x % 16 * 16 + y / 4)]
    else none
  | w :: x :: y :: z :: rest => do
    let w ← value alphabet w
    let x ← value alphabet x
    let y ← value alphabet y
    let z ← value alphabet z
    let bytes ← decode alphabet rest
    some (UInt8.ofNat (w * 4 + x / 16) :: UInt8.ofNat (x % 16 * 16 + y / 4) ::
      UInt8.ofNat (y % 4 * 64 + z) :: bytes)

section RoundTrip

variable {alphabet : Alphabet}

theorem toNat_ofNat {n : Nat} (h : n < 256) : (UInt8.ofNat n).toNat = n := by
  rw [UInt8.toNat_ofNat']
  exact Nat.mod_eq_of_lt h

theorem ofNat_toNat {a : UInt8} {n : Nat} (h : n = a.toNat) : UInt8.ofNat n = a := by
  rw [h]
  exact UInt8.ofNat_toNat

/-- What was written is read. -/
theorem decode_encode (alphabet : Alphabet) (bytes : List UInt8) :
    decode alphabet (encode alphabet bytes) = some bytes := by
  have hvalue := value_symbol alphabet
  fun_induction encode alphabet bytes with
  | case1 => rfl
  | case2 a =>
    have ha := a.toNat_lt
    have hfirst : UInt8.ofNat (a.toNat / 4 * 4 + a.toNat % 4 * 16 / 16) = a :=
      ofNat_toNat (by omega)
    simp only [decode, Option.bind_eq_bind]
    rw [hvalue _ (by omega), Option.bind_some, hvalue _ (by omega), Option.bind_some,
      if_pos (by omega), hfirst]
  | case3 a b =>
    have ha := a.toNat_lt
    have hb := b.toNat_lt
    have hfirst : UInt8.ofNat (a.toNat / 4 * 4 + (a.toNat % 4 * 16 + b.toNat / 16) / 16) = a :=
      ofNat_toNat (by omega)
    have hsecond : UInt8.ofNat ((a.toNat % 4 * 16 + b.toNat / 16) % 16 * 16 +
        b.toNat % 16 * 4 / 4) = b := ofNat_toNat (by omega)
    simp only [decode, Option.bind_eq_bind]
    rw [hvalue _ (by omega), Option.bind_some, hvalue _ (by omega), Option.bind_some,
      hvalue _ (by omega), Option.bind_some, if_pos (by omega), hfirst, hsecond]
  | case4 a b c rest ih =>
    have ha := a.toNat_lt
    have hb := b.toNat_lt
    have hc := c.toNat_lt
    have hfirst : UInt8.ofNat (a.toNat / 4 * 4 + (a.toNat % 4 * 16 + b.toNat / 16) / 16) = a :=
      ofNat_toNat (by omega)
    have hsecond : UInt8.ofNat ((a.toNat % 4 * 16 + b.toNat / 16) % 16 * 16 +
        (b.toNat % 16 * 4 + c.toNat / 64) / 4) = b := ofNat_toNat (by omega)
    have hthird : UInt8.ofNat ((b.toNat % 16 * 4 + c.toNat / 64) % 4 * 64 + c.toNat % 64) = c :=
      ofNat_toNat (by omega)
    simp only [decode, Option.bind_eq_bind]
    rw [hvalue _ (by omega), Option.bind_some, hvalue _ (by omega), Option.bind_some,
      hvalue _ (by omega), Option.bind_some, hvalue _ (by omega), Option.bind_some, ih,
      Option.bind_some, hfirst, hsecond, hthird]

/-- What is read is as it would be written. -/
theorem encode_of_decode {text : List Char} {bytes : List UInt8}
    (h : decode alphabet text = some bytes) : encode alphabet bytes = text := by
  fun_induction decode alphabet text generalizing bytes with
  | case1 =>
    obtain rfl := Option.some.inj h
    rfl
  | case2 => exact nomatch h
  | case3 w x =>
    simp only [Option.bind_eq_bind, Option.bind_eq_some_iff] at h
    obtain ⟨m, hm, n, hn, h⟩ := h
    obtain ⟨hmlt, rfl⟩ := symbol_value hm
    obtain ⟨hnlt, rfl⟩ := symbol_value hn
    split_ifs at h with hbits
    obtain rfl := Option.some.inj h
    rw [encode, toNat_ofNat (by omega)]
    have hfirst : (m * 4 + n / 16) / 4 = m := by omega
    have hsecond : (m * 4 + n / 16) % 4 * 16 = n := by omega
    rw [hfirst, hsecond]
  | case4 w x y =>
    simp only [Option.bind_eq_bind, Option.bind_eq_some_iff] at h
    obtain ⟨m, hm, n, hn, o, ho, h⟩ := h
    obtain ⟨hmlt, rfl⟩ := symbol_value hm
    obtain ⟨hnlt, rfl⟩ := symbol_value hn
    obtain ⟨holt, rfl⟩ := symbol_value ho
    split_ifs at h with hbits
    obtain rfl := Option.some.inj h
    rw [encode, toNat_ofNat (by omega), toNat_ofNat (by omega)]
    have hfirst : (m * 4 + n / 16) / 4 = m := by omega
    have hsecond : (m * 4 + n / 16) % 4 * 16 + (n % 16 * 16 + o / 4) / 16 = n := by omega
    have hthird : (n % 16 * 16 + o / 4) % 16 * 4 = o := by omega
    rw [hfirst, hsecond, hthird]
  | case5 w x y z rest ih =>
    simp only [Option.bind_eq_bind, Option.bind_eq_some_iff] at h
    obtain ⟨m, hm, n, hn, o, ho, p, hp, tail, htail, h⟩ := h
    obtain ⟨hmlt, rfl⟩ := symbol_value hm
    obtain ⟨hnlt, rfl⟩ := symbol_value hn
    obtain ⟨holt, rfl⟩ := symbol_value ho
    obtain ⟨hplt, rfl⟩ := symbol_value hp
    obtain rfl := Option.some.inj h
    rw [encode, toNat_ofNat (by omega), toNat_ofNat (by omega), toNat_ofNat (by omega), ih htail]
    have hfirst : (m * 4 + n / 16) / 4 = m := by omega
    have hsecond : (m * 4 + n / 16) % 4 * 16 + (n % 16 * 16 + o / 4) / 16 = n := by omega
    have hthird : (n % 16 * 16 + o / 4) % 16 * 4 + (o % 4 * 64 + p) / 64 = o := by omega
    have hfourth : (o % 4 * 64 + p) % 64 = p := by omega
    rw [hfirst, hsecond, hthird, hfourth]

theorem decode_eq_some {text : List Char} {bytes : List UInt8} :
    decode alphabet text = some bytes ↔ text = encode alphabet bytes := by
  constructor
  · exact fun h => (encode_of_decode h).symm
  · rintro rfl
    exact decode_encode alphabet bytes

end RoundTrip

section Embedding

variable {alphabet : Alphabet}

theorem mem_encode {bytes : List UInt8} {c : Char} (h : c ∈ encode alphabet bytes) :
    isSymbol alphabet c = true := by
  fun_induction encode alphabet bytes with
  | case1 => exact absurd h List.not_mem_nil
  | case2 a =>
    have ha := a.toNat_lt
    simp only [List.mem_cons, List.not_mem_nil, or_false] at h
    rcases h with rfl | rfl
    · exact isSymbol_symbol (by omega)
    · exact isSymbol_symbol (by omega)
  | case3 a b =>
    have ha := a.toNat_lt
    have hb := b.toNat_lt
    simp only [List.mem_cons, List.not_mem_nil, or_false] at h
    rcases h with rfl | rfl | rfl
    · exact isSymbol_symbol (by omega)
    · exact isSymbol_symbol (by omega)
    · exact isSymbol_symbol (by omega)
  | case4 a b c rest ih =>
    have ha := a.toNat_lt
    have hb := b.toNat_lt
    have hc := c.toNat_lt
    simp only [List.mem_cons] at h
    rcases h with rfl | rfl | rfl | rfl | h
    · exact isSymbol_symbol (by omega)
    · exact isSymbol_symbol (by omega)
    · exact isSymbol_symbol (by omega)
    · exact isSymbol_symbol (by omega)
    · exact ih h

theorem length_encode (alphabet : Alphabet) (bytes : List UInt8) :
    (encode alphabet bytes).length = (bytes.length * 4 + 2) / 3 := by
  fun_induction encode alphabet bytes with
  | case1 => rfl
  | case2 a => simp only [List.length_cons, List.length_nil]
  | case3 a b => simp only [List.length_cons, List.length_nil]
  | case4 a b c rest ih =>
    simp only [List.length_cons, ih]
    omega

theorem length_padded (alphabet : Alphabet) (bytes : List UInt8) :
    (padded alphabet bytes).length = (bytes.length + 2) / 3 * 4 := by
  rw [padded, List.length_append, List.length_replicate, length_encode]
  omega

theorem mem_padded {bytes : List UInt8} {c : Char} (h : c ∈ padded alphabet bytes) :
    isSymbol alphabet c = true ∨ c = '=' := by
  rcases List.mem_append.1 h with h | h
  · exact .inl (mem_encode h)
  · exact .inr (List.eq_of_mem_replicate h)

/-- Without its padding a text is the one without padding. -/
theorem filter_padded (alphabet : Alphabet) (bytes : List UInt8) :
    (padded alphabet bytes).filter (· ≠ '=') = encode alphabet bytes := by
  have hsymbol : isSymbol alphabet '=' = false := by cases alphabet <;> decide
  have hnone : (List.replicate ((3 - bytes.length % 3) % 3) '=').filter (· ≠ '=') = [] := by
    rw [List.filter_eq_nil_iff]
    intro c hc
    simp [List.eq_of_mem_replicate hc]
  rw [padded, List.filter_append, hnone, List.append_nil, List.filter_eq_self]
  intro c hc
  refine decide_eq_true fun heq => ?_
  have hmem := mem_encode hc
  rw [heq, hsymbol] at hmem
  exact absurd hmem Bool.false_ne_true

/-- Bytes are found again where their text begins another one. -/
theorem prefix_of_encode {text whole : List UInt8} {after : List Char}
    (h : encode alphabet whole = encode alphabet text ++ after) : text <+: whole := by
  fun_induction encode alphabet text generalizing whole with
  | case1 => exact List.nil_prefix
  | case2 a =>
    have ha := a.toNat_lt
    match whole with
    | [] => exact nomatch h
    | [x] =>
      have hx := x.toNat_lt
      simp only [encode, List.cons_append, List.cons.injEq] at h
      have hfirst := symbol_inj (by omega) (by omega) h.1
      have hsecond := symbol_inj (by omega) (by omega) h.2.1
      obtain rfl : x = a := UInt8.toNat_inj.1 (by omega)
      exact List.prefix_refl _
    | x :: y :: rest =>
      have hx := x.toNat_lt
      have hy := y.toNat_lt
      have hstart : ∃ tail, encode alphabet (x :: y :: rest) = symbol alphabet (x.toNat / 4) ::
          symbol alphabet (x.toNat % 4 * 16 + y.toNat / 16) :: tail := by
        cases rest <;> exact ⟨_, rfl⟩
      obtain ⟨tail, htail⟩ := hstart
      rw [htail] at h
      simp only [List.cons_append, List.cons.injEq] at h
      have hfirst := symbol_inj (by omega) (by omega) h.1
      have hsecond := symbol_inj (by omega) (by omega) h.2.1
      have hsame : x = a := UInt8.toNat_inj.1 (by omega)
      rw [hsame]
      exact ⟨_, rfl⟩
  | case3 a b =>
    have ha := a.toNat_lt
    have hb := b.toNat_lt
    match whole with
    | [] => exact nomatch h
    | [x] => simp [encode] at h
    | [x, y] =>
      have hx := x.toNat_lt
      have hy := y.toNat_lt
      simp only [encode, List.cons_append, List.cons.injEq] at h
      have hfirst := symbol_inj (by omega) (by omega) h.1
      have hsecond := symbol_inj (by omega) (by omega) h.2.1
      have hthird := symbol_inj (by omega) (by omega) h.2.2.1
      obtain rfl : x = a := UInt8.toNat_inj.1 (by omega)
      obtain rfl : y = b := UInt8.toNat_inj.1 (by omega)
      exact List.prefix_refl _
    | x :: y :: z :: rest =>
      have hx := x.toNat_lt
      have hy := y.toNat_lt
      have hz := z.toNat_lt
      simp only [encode, List.cons_append, List.cons.injEq] at h
      have hfirst := symbol_inj (by omega) (by omega) h.1
      have hsecond := symbol_inj (by omega) (by omega) h.2.1
      have hthird := symbol_inj (by omega) (by omega) h.2.2.1
      have hsame : x = a := UInt8.toNat_inj.1 (by omega)
      have hother : y = b := UInt8.toNat_inj.1 (by omega)
      rw [hsame, hother]
      exact ⟨_, rfl⟩
  | case4 a b c text ih =>
    have ha := a.toNat_lt
    have hb := b.toNat_lt
    have hc := c.toNat_lt
    match whole with
    | [] => exact nomatch h
    | [x] => simp [encode] at h
    | [x, y] => simp [encode] at h
    | x :: y :: z :: rest =>
      have hx := x.toNat_lt
      have hy := y.toNat_lt
      have hz := z.toNat_lt
      simp only [encode, List.cons_append, List.cons.injEq] at h
      have hfirst := symbol_inj (by omega) (by omega) h.1
      have hsecond := symbol_inj (by omega) (by omega) h.2.1
      have hthird := symbol_inj (by omega) (by omega) h.2.2.1
      have hfourth := symbol_inj (by omega) (by omega) h.2.2.2.1
      have hsame : x = a := UInt8.toNat_inj.1 (by omega)
      have hother : y = b := UInt8.toNat_inj.1 (by omega)
      have hlast : z = c := UInt8.toNat_inj.1 (by omega)
      rw [hsame, hother, hlast]
      have hrest := ih h.2.2.2.2
      exact List.cons_prefix_cons.2 ⟨rfl, List.cons_prefix_cons.2 ⟨rfl,
        List.cons_prefix_cons.2 ⟨rfl, hrest⟩⟩⟩

/-- Bytes are found again where their text stands in another one, behind a multiple of four
symbols. -/
theorem infix_of_encode {text whole : List UInt8} {before after : List Char}
    (hbefore : 4 ∣ before.length)
    (h : encode alphabet whole = before ++ encode alphabet text ++ after) : text <:+: whole := by
  by_cases hempty : before = []
  · rw [hempty, List.nil_append] at h
    exact (prefix_of_encode h).isInfix
  · have hlength := congrArg List.length h
    have hpositive := List.length_pos_iff.2 hempty
    rw [List.append_assoc, List.length_append] at hlength
    match whole, before with
    | [], _ => simp [encode] at hlength; omega
    | [x], _ => simp [encode] at hlength; omega
    | [x, y], _ => simp [encode] at hlength; omega
    | x :: y :: z :: rest, p :: q :: r :: s :: before =>
      simp only [encode, List.cons_append, List.cons.injEq] at h
      have hfewer : 4 ∣ before.length := by
        simp only [List.length_cons] at hbefore
        omega
      have hrest := infix_of_encode hfewer h.2.2.2.2
      exact hrest.trans (List.suffix_append [x, y, z] rest).isInfix
    | x :: y :: z :: rest, [p] => simp at hbefore
    | x :: y :: z :: rest, [p, q] => simp at hbefore
    | x :: y :: z :: rest, [p, q, r] => simp at hbefore
termination_by before.length

end Embedding

end Base64
