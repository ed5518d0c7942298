import Mathlib.Tactic.Common
import MultiCore.Library.Text

/-!
# Percent-encoding

Bytes written as themselves or as a percent sign and two hexadecimal digits.
A spelling stands for one list of bytes, and spellings can be joined.
-/

namespace Percent

/-- The percent sign. -/
def sign : UInt8 := 0x25

/-- The value of a hexadecimal digit. -/
def hexValue (b : UInt8) : Option Nat := Text.digitValue 16 (Char.ofNat b.toNat)

/-- What a spelling stands for, where `plain` bytes stand for themselves. -/
inductive Spells (plain : UInt8 → Bool) : List UInt8 → List UInt8 → Prop
  | nil : Spells plain [] []
  | plain {b : UInt8} {raw bytes : List UInt8} (hplain : plain b = true) (hsign : b ≠ sign)
      (rest : Spells plain raw bytes) : Spells plain (b :: raw) (b :: bytes)
  | escape {high low : UInt8} {x y : Nat} {raw bytes : List UInt8} (hhigh : hexValue high = some x)
      (hlow : hexValue low = some y) (rest : Spells plain raw bytes) :
      Spells plain (sign :: high :: low :: raw) (UInt8.ofNat (x * 16 + y) :: bytes)

section Spelling

variable {plain plain' : UInt8 → Bool} {raw raw' bytes bytes' : List UInt8}

theorem Spells.append (h : Spells plain raw bytes) (k : Spells plain raw' bytes') :
    Spells plain (raw ++ raw') (bytes ++ bytes') := by
  induction h with
  | nil => exact k
  | plain hplain hsign _ ih => exact ih.plain hplain hsign
  | escape hhigh hlow _ ih => exact ih.escape hhigh hlow

theorem Spells.mono (hle : ∀ b, plain b = true → plain' b = true) (h : Spells plain raw bytes) :
    Spells plain' raw bytes := by
  induction h with
  | nil => exact Spells.nil
  | plain hplain hsign _ ih => exact ih.plain (hle _ hplain) hsign
  | escape hhigh hlow _ ih => exact ih.escape hhigh hlow

/-- A spelling stands for nothing else. -/
theorem Spells.unique (h : Spells plain raw bytes) (k : Spells plain raw bytes') :
    bytes = bytes' := by
  induction h generalizing bytes' with
  | nil =>
    cases k
    rfl
  | plain _ hsign _ ih =>
    cases k with
    | plain _ _ krest => rw [ih krest]
    | escape _ _ _ => exact absurd rfl hsign
  | escape hhigh hlow _ ih =>
    cases k with
    | plain _ hsign _ => exact absurd rfl hsign
    | escape khigh klow krest =>
      rw [hhigh, Option.some_inj] at khigh
      rw [hlow, Option.some_inj] at klow
      rw [khigh, klow, ih krest]

theorem Spells.ne_nil (h : Spells plain raw bytes) (hne : raw ≠ []) : bytes ≠ [] := by
  cases h with
  | nil => exact absurd rfl hne
  | plain _ _ _ => exact List.cons_ne_nil _ _
  | escape _ _ _ => exact List.cons_ne_nil _ _

end Spelling

/-- The digit of a value under sixteen. -/
def hexDigit (n : Nat) : UInt8 := UInt8.ofNat (if n < 10 then 0x30 + n else 0x37 + n)

/-- A byte as it is, or as an escape. -/
def encodeByte (keep : UInt8 → Bool) (b : UInt8) : List UInt8 :=
  if keep b = true ∧ b ≠ sign then [b]
  else [sign, hexDigit (b.toNat / 16), hexDigit (b.toNat % 16)]

/-- The bytes with all but those to `keep` written as escapes. -/
def encode (keep : UInt8 → Bool) (bytes : List UInt8) : List UInt8 :=
  bytes.flatMap (encodeByte keep)

section Encoding

variable {keep plain : UInt8 → Bool}

theorem hexValue_hexDigit : ∀ n < 16, hexValue (hexDigit n) = some n := by decide

/-- A digit is an ASCII character of its own. -/
theorem hexValue_bounds {b : UInt8} {x : Nat} (h : hexValue b = some x) :
    b.toNat < 0x80 ∧ x < 16 ∧ 0x30 ≤ b.toNat := by
  have hchar : (Char.ofNat b.toNat).toNat = b.toNat := by
    have hb := b.toNat_lt
    exact Text.toNat_ofNat (by omega)
  obtain ⟨hx, hlow, hhigh⟩ := Text.digitValue_bounds h
  omega

theorem spells_encodeByte (hle : ∀ b, keep b = true → plain b = true) (b : UInt8) :
    Spells plain (encodeByte keep b) [b] := by
  unfold encodeByte
  by_cases hkeep : keep b = true ∧ b ≠ sign
  · rw [if_pos hkeep]
    exact Spells.nil.plain (hle b hkeep.1) hkeep.2
  · rw [if_neg hkeep]
    have hb := b.toNat_lt
    have hhigh := hexValue_hexDigit (b.toNat / 16) (by omega)
    have hlow := hexValue_hexDigit (b.toNat % 16) (by omega)
    have hnil : Spells plain [] [] := Spells.nil
    have hspells := hnil.escape hhigh hlow
    rw [Nat.div_add_mod', UInt8.ofNat_toNat] at hspells
    exact hspells

/-- What bytes are encoded as stands for them. -/
theorem spells_encode (hle : ∀ b, keep b = true → plain b = true) (bytes : List UInt8) :
    Spells plain (encode keep bytes) bytes := by
  induction bytes with
  | nil => exact Spells.nil
  | cons b bytes ih => exact (spells_encodeByte hle b).append ih

/-- Only bytes to keep, the percent sign and digits stand in a code. -/
theorem mem_encode {bytes : List UInt8} {b : UInt8} (h : b ∈ encode keep bytes) :
    keep b = true ∨ b = sign ∨ ∃ x, hexValue b = some x := by
  obtain ⟨a, -, ha⟩ := List.mem_flatMap.1 h
  unfold encodeByte at ha
  by_cases hkeep : keep a = true ∧ a ≠ sign
  · rw [if_pos hkeep, List.mem_singleton] at ha
    exact Or.inl (ha ▸ hkeep.1)
  · rw [if_neg hkeep, List.mem_cons, List.mem_cons, List.mem_singleton] at ha
    have hbyte := a.toNat_lt
    rcases ha with ha | ha | ha
    · exact Or.inr (Or.inl ha)
    · exact Or.inr (Or.inr ⟨_, ha ▸ hexValue_hexDigit (a.toNat / 16) (by omega)⟩)
    · exact Or.inr (Or.inr ⟨_, ha ▸ hexValue_hexDigit (a.toNat % 16) (by omega)⟩)

theorem encode_ne_nil {bytes : List UInt8} (h : bytes ≠ []) : encode keep bytes ≠ [] := by
  intro hnil
  have hspells : Spells keep (encode keep bytes) bytes := spells_encode (fun _ hb => hb) bytes
  rw [hnil] at hspells
  exact h (hspells.unique Spells.nil)

end Encoding

end Percent
