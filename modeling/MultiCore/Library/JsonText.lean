import Mathlib.Tactic.Common
import MultiCore.Library.Text
import MultiCore.Library.Utf8

/-!
# Compact JSON text

How strings, numbers and objects are written without white space, and how long
what is written gets.
-/

namespace Json

/-- A character of a string. -/
def escape (c : Char) : List Char :=
  if c = '"' then ['\\', '"']
  else if c = '\\' then ['\\', '\\']
  else if c = '\n' then ['\\', 'n']
  else if c = '\r' then ['\\', 'r']
  else if c = '\t' then ['\\', 't']
  else if c.toNat = 8 then ['\\', 'b']
  else if c.toNat = 12 then ['\\', 'f']
  else if c.toNat < 32 then ['\\', 'u', '0', '0'] ++ Text.hexadecimal 2 c.toNat
  else [c]

/-- A text in quotation marks. -/
def stringText (s : String) : List Char := '"' :: (s.toList.flatMap escape ++ ['"'])

/-- A number in decimal digits. -/
def numberText (n : Nat) : List Char := Nat.toDigits 10 n

/-- An object from the texts of its values. -/
def objectText (fields : List (String × List Char)) : List Char :=
  '\x7b' :: ([','].intercalate (fields.map fun field => stringText field.1 ++ ':' :: field.2) ++
    ['\x7d'])

section Lengths

/-- Only ASCII characters. -/
def IsAscii (text : List Char) : Prop := ∀ c ∈ text, c.toNat < 0x80

theorem IsAscii.append {text text' : List Char} (h : IsAscii text) (k : IsAscii text') :
    IsAscii (text ++ text') := by
  intro c hc
  rcases List.mem_append.1 hc with hc | hc
  · exact h c hc
  · exact k c hc

theorem IsAscii.cons {c : Char} {text : List Char} (hc : c.toNat < 0x80) (h : IsAscii text) :
    IsAscii (c :: text) := by
  intro d hd
  rcases List.mem_cons.1 hd with rfl | hd
  · exact hc
  · exact h d hd

/-- A text before others adds itself and a separator. -/
theorem length_intercalate_cons_le (separator : Char) (part : List Char)
    (parts : List (List Char)) :
    ([separator].intercalate (part :: parts)).length ≤
      part.length + 1 + ([separator].intercalate parts).length := by
  cases parts with
  | nil =>
    rw [List.intercalate_singleton]
    omega
  | cons second parts =>
    rw [List.intercalate_cons_cons, List.length_append, List.length_append, List.length_singleton]

/-- Texts between separators are no longer than each with one. -/
theorem length_intercalate_le {separator : Char} {parts : List (List Char)} {bound : Nat}
    (h : ∀ part ∈ parts, part.length ≤ bound) :
    ([separator].intercalate parts).length ≤ parts.length * (bound + 1) := by
  induction parts with
  | nil => exact Nat.zero_le _
  | cons part parts ih =>
    have hpart := h part List.mem_cons_self
    have hrest := ih fun part hmem => h part (List.mem_cons_of_mem _ hmem)
    have hcons := length_intercalate_cons_le separator part parts
    rw [List.length_cons, Nat.add_mul, Nat.one_mul]
    omega

theorem isAscii_intercalate {separator : Char} (hseparator : separator.toNat < 0x80)
    {parts : List (List Char)} (h : ∀ part ∈ parts, IsAscii part) :
    IsAscii ([separator].intercalate parts) := by
  induction parts with
  | nil => exact fun _ hc => absurd hc List.not_mem_nil
  | cons part parts ih =>
    have hpart := h part List.mem_cons_self
    have hrest := ih fun part hmem => h part (List.mem_cons_of_mem _ hmem)
    cases parts with
    | nil =>
      rw [List.intercalate_singleton]
      exact hpart
    | cons second parts =>
      rw [List.intercalate_cons_cons, List.append_assoc, List.singleton_append]
      exact hpart.append (hrest.cons hseparator)

/-- The bytes of ASCII are its characters. -/
theorem encode_of_isAscii {text : List Char} (h : IsAscii text) :
    Utf8.encode text = text.map fun c => UInt8.ofNat c.toNat := by
  induction text with
  | nil => rfl
  | cons c text ih =>
    have hc : c.val.toNat ≤ 0x7f := Nat.le_of_lt_succ (h c List.mem_cons_self)
    have hcons : Utf8.encode (c :: text) = String.utf8EncodeChar c ++ Utf8.encode text := rfl
    have hone : String.utf8EncodeChar c = [UInt8.ofNat c.toNat] := by
      simp only [String.utf8EncodeChar, if_pos hc]
      rfl
    rw [hcons, ih fun d hd => h d (List.mem_cons_of_mem c hd), hone, List.map_cons,
      List.singleton_append]

/-- ASCII takes a byte for each character. -/
theorem length_encode_of_isAscii {text : List Char} (h : IsAscii text) :
    (Utf8.encode text).length = text.length := by
  rw [encode_of_isAscii h, List.length_map]

/-- A character that is printable is written as two characters at most. -/
theorem length_escape_le {c : Char} (hc : 32 ≤ c.toNat) : (escape c).length ≤ 2 := by
  unfold escape
  grind

theorem isAscii_escape {c : Char} (hc : 32 ≤ c.toNat ∧ c.toNat < 0x80) : IsAscii (escape c) := by
  have hself : IsAscii [c] := fun d hd => by
    rw [List.mem_singleton.1 hd]
    exact hc.2
  have hpair : ∀ d : Char, d.toNat < 0x80 → IsAscii ['\\', d] := fun d hd =>
    IsAscii.cons (by decide) (IsAscii.cons hd fun _ h => absurd h List.not_mem_nil)
  have hnot : ¬c.toNat < 32 := Nat.not_lt.2 hc.1
  unfold escape
  rw [if_neg hnot]
  split_ifs
  · exact hpair '"' (by decide)
  · exact hpair '\\' (by decide)
  · exact hpair 'n' (by decide)
  · exact hpair 'r' (by decide)
  · exact hpair 't' (by decide)
  · exact hpair 'b' (by decide)
  · exact hpair 'f' (by decide)
  · exact hself

/-- A string of printable ASCII characters. -/
def IsPrintable (s : String) : Prop := ∀ c ∈ s.toList, 32 ≤ c.toNat ∧ c.toNat < 0x80

theorem isPrintable_of_all {s : String}
    (h : s.toList.all (fun c => decide (32 ≤ c.toNat ∧ c.toNat < 0x80)) = true) :
    IsPrintable s :=
  fun c hc => of_decide_eq_true (List.all_eq_true.1 h c hc)

theorem length_stringText_le {s : String} (h : IsPrintable s) :
    (stringText s).length ≤ 2 * s.toList.length + 2 := by
  have hbody : (s.toList.flatMap escape).length ≤ 2 * s.toList.length := by
    unfold IsPrintable at h
    generalize s.toList = cs at h ⊢
    induction cs with
    | nil => exact Nat.zero_le _
    | cons c cs ih =>
      have hc := length_escape_le (h c List.mem_cons_self).1
      have hcs := ih fun d hd => h d (List.mem_cons_of_mem _ hd)
      rw [List.flatMap_cons, List.length_append, List.length_cons]
      omega
  rw [stringText, List.length_cons, List.length_append, List.length_singleton]
  omega

/-- A string without anything to escape is written as it is. -/
theorem length_stringText_of_plain {s : String} (h : ∀ c ∈ s.toList, escape c = [c]) :
    (stringText s).length = s.toList.length + 2 := by
  have hbody : s.toList.flatMap escape = s.toList := by
    generalize s.toList = cs at h ⊢
    induction cs with
    | nil => rfl
    | cons c cs ih =>
      rw [List.flatMap_cons, h c List.mem_cons_self,
        ih fun d hd => h d (List.mem_cons_of_mem _ hd), List.singleton_append]
  rw [stringText, hbody, List.length_cons, List.length_append, List.length_singleton]

theorem isAscii_stringText {s : String} (h : IsPrintable s) : IsAscii (stringText s) := by
  apply IsAscii.cons (by decide)
  apply IsAscii.append
  · intro c hc
    obtain ⟨d, hd, hc⟩ := List.mem_flatMap.1 hc
    exact isAscii_escape (h d hd) c hc
  · exact IsAscii.cons (by decide) fun _ hc => absurd hc List.not_mem_nil

theorem isAscii_numberText (n : Nat) : IsAscii (numberText n) := by
  intro c hc
  have hdigit := Nat.isDigit_of_mem_toDigits (b := 10) (by decide) (by decide) hc
  rw [Char.isDigit, Bool.and_eq_true, decide_eq_true_eq, decide_eq_true_eq] at hdigit
  have hle : c.val.toNat ≤ 57 := hdigit.2
  exact Nat.lt_of_le_of_lt hle (by decide)

/-- An object is no longer than its fields, each with a separator. -/
theorem length_objectText_le {fields : List (String × List Char)} {bound : Nat}
    (h : ∀ field ∈ fields, (stringText field.1).length + field.2.length + 1 ≤ bound) :
    (objectText fields).length ≤ fields.length * (bound + 1) + 2 := by
  have hparts : ∀ part ∈ fields.map fun field => stringText field.1 ++ ':' :: field.2,
      part.length ≤ bound := by
    intro part hpart
    obtain ⟨field, hfield, rfl⟩ := List.mem_map.1 hpart
    have hbound := h field hfield
    rw [List.length_append, List.length_cons]
    omega
  have hbody : ([','].intercalate
      (fields.map fun field => stringText field.1 ++ ':' :: field.2)).length ≤ _ :=
    length_intercalate_le hparts
  rw [List.length_map] at hbody
  rw [objectText, List.length_cons, List.length_append, List.length_singleton]
  omega

/-- An object's first field adds its key, its value and two separators. -/
theorem length_objectText_cons_le (field : String × List Char)
    (fields : List (String × List Char)) :
    (objectText (field :: fields)).length ≤
      (stringText field.1).length + field.2.length + 2 + (objectText fields).length := by
  have hcons := length_intercalate_cons_le ',' (stringText field.1 ++ ':' :: field.2)
    (fields.map fun field => stringText field.1 ++ ':' :: field.2)
  rw [List.length_append, List.length_cons] at hcons
  simp only [objectText, List.map_cons, List.length_cons, List.length_append, List.length_nil]
  omega

theorem isAscii_objectText {fields : List (String × List Char)}
    (h : ∀ field ∈ fields, IsPrintable field.1 ∧ IsAscii field.2) :
    IsAscii (objectText fields) := by
  apply IsAscii.cons (by decide)
  apply IsAscii.append
  · apply isAscii_intercalate (by decide)
    intro part hpart
    obtain ⟨field, hfield, rfl⟩ := List.mem_map.1 hpart
    exact (isAscii_stringText (h field hfield).1).append ((h field hfield).2.cons (by decide))
  · exact IsAscii.cons (by decide) fun _ hc => absurd hc List.not_mem_nil

end Lengths

end Json
