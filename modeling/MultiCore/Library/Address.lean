import MultiCore.Library.Text
import Mathlib.Tactic.Common
import Mathlib.Algebra.Group.Nat.Defs

/-!
# Internet addresses

The textual form of an internet address as the standard library reads it: four
decimal numbers without a leading zero, or eight groups of hexadecimal digits
of which one run may be left out and the last two may be written as an address
of the first kind. The whole text must be read.
-/

/-- An address of either family, as its bits. -/
inductive IpAddr where
  | v4 (bits : BitVec 32)
  | v6 (bits : BitVec 128)
  deriving DecidableEq

namespace IpAddr

/-- A value read from the front of the text, with the rest of it. -/
abbrev Reader (α : Type) := List Char → Option (α × List Char)

/-- `read_given_char`. -/
def readGivenChar (c : Char) : Reader Unit
  | [] => none
  | d :: rest => if c = d then some ((), rest) else none

/-- A number of at most `maxDigits` digits and at most `max`. -/
def readNumber (base maxDigits max : Nat) (allowZeroPrefix : Bool) : Reader Nat := fun cs =>
  let number := cs.takeWhile fun c => (Text.digitValue base c).isSome
  if number.isEmpty || maxDigits < number.length then none
  else if !allowZeroPrefix && number.head? = some '0' && 1 < number.length then none
  else match Text.digits base number 0 with
    | some value => if value ≤ max then some (value, cs.drop number.length) else none
    | none => none

/-- Every element but the first stands behind a separator. -/
def readSeparator (separator : Char) (index : Nat) {α : Type} (inner : Reader α) : Reader α :=
  fun cs => if index = 0 then inner cs else (readGivenChar separator cs).bind fun r => inner r.2

/-- The numbers of an address of the first family from position `index` on. -/
def readOctets : Nat → Nat → Reader (List Nat)
  | 0, _ => fun cs => some ([], cs)
  | left + 1, index => fun cs => do
    let (octet, rest) ← readSeparator '.' index (readNumber 10 3 255 false) cs
    let (octets, rest) ← readOctets left (index + 1) rest
    some (octet :: octets, rest)

/-- `read_ipv4_addr`. -/
def readIpv4 : Reader (List Nat) := readOctets 4 0

/-- Up to `left` groups, and whether the last two were written as an address of the first family. -/
def readGroups : Nat → Nat → List Char → (List Nat × Bool) × List Char
  | 0, _, cs => (([], false), cs)
  | left + 1, index, cs =>
    let embedded := if 0 < left then readSeparator ':' index readIpv4 cs else none
    match embedded with
    | some ([a, b, c, d], rest) => (([a * 256 + b, c * 256 + d], true), rest)
    | _ =>
      match readSeparator ':' index (readNumber 16 4 65535 true) cs with
      | some (group, rest) =>
        let ((groups, ipv4), rest) := readGroups left (index + 1) rest
        ((group :: groups, ipv4), rest)
      | none => (([], false), cs)

/-- `read_ipv6_addr`: eight groups, or a gap between two runs of them. -/
def readIpv6 : Reader (List Nat) := fun cs =>
  let ((head, ipv4), rest) := readGroups 8 0 cs
  if head.length = 8 then some (head, rest)
  else if ipv4 then none
  else do
    let (_, rest) ← readGivenChar ':' rest
    let (_, rest) ← readGivenChar ':' rest
    let ((tail, _), rest) := readGroups (7 - head.length) 0 rest
    some (head ++ List.replicate (8 - head.length - tail.length) 0 ++ tail, rest)

/-- The bits some groups of `2 ^ width` values stand for. -/
def bitsOf (width : Nat) (groups : List Nat) : Nat :=
  groups.foldl (fun bits group => bits * 2 ^ width + group) 0

/-- `IpAddr::from_str`. -/
def parse (text : String) : Option IpAddr :=
  match readIpv4 text.toList with
  | some (octets, rest) => if rest.isEmpty then some (.v4 (bitsOf 8 octets)) else none
  | none =>
    match readIpv6 text.toList with
    | some (groups, rest) => if rest.isEmpty then some (.v6 (bitsOf 16 groups)) else none
    | none => none

/-- One of the four numbers of an address of the first family. -/
def octet (bits : BitVec 32) (i : Nat) : Nat := bits.toNat / 2 ^ (24 - 8 * i) % 256

/-- One of the eight groups of an address of the second family. -/
def segment (bits : BitVec 128) (i : Nat) : Nat := bits.toNat / 2 ^ (112 - 16 * i) % 65536

/-- The address of the first family that an address of the second one stands for. -/
def toIpv4Mapped (bits : BitVec 128) : Option (BitVec 32) :=
  if bits.toNat / 2 ^ 32 = 0xFFFF then some (BitVec.ofNat 32 bits.toNat) else none

/-- A block of addresses: all that share the first `length` bits with `base`. -/
structure Block where
  base : Nat
  length : Nat
  deriving DecidableEq, Repr

/-- Whether an address of `width` bits lies in a block. -/
def Block.Contains (width : Nat) (block : Block) (n : Nat) : Prop :=
  n / 2 ^ (width - block.length) = block.base / 2 ^ (width - block.length)

instance (width : Nat) (block : Block) (n : Nat) : Decidable (block.Contains width n) :=
  inferInstanceAs (Decidable (_ = _))

namespace Block

variable {width : Nat} {outer inner : Block}

/-- Of the blocks of one family, the wider one that holds an address of the other holds all. -/
theorem contains_of_le (hle : outer.length ≤ inner.length)
    (hbase : outer.Contains width inner.base) {n : Nat} (h : inner.Contains width n) :
    outer.Contains width n := by
  have hexp : width - outer.length =
      (width - inner.length) + (width - outer.length - (width - inner.length)) := by omega
  unfold Contains at *
  rw [← hbase, hexp, Nat.pow_add, ← Nat.div_div_eq_div_mul, ← Nat.div_div_eq_div_mul, h]

/-- A block holds another one exactly when it is at least as wide and holds its base. -/
theorem forall_contains_iff (hbase : inner.base < 2 ^ width) (hlength : outer.length ≤ width) :
    (∀ n < 2 ^ width, inner.Contains width n → outer.Contains width n) ↔
      outer.length ≤ inner.length ∧ outer.Contains width inner.base := by
  constructor
  · intro hall
    refine ⟨?_, hall inner.base hbase rfl⟩
    by_contra hlt
    -- Two addresses of the inner block differ in a bit that the outer one fixes.
    let size := 2 ^ (width - outer.length)
    obtain ⟨extra, hextra⟩ : ∃ extra, width - inner.length = width - outer.length + (extra + 1) :=
      ⟨width - inner.length - (width - outer.length) - 1, by omega⟩
    have hsize : 2 ^ (width - inner.length) = size * 2 ^ (extra + 1) := by
      rw [hextra, Nat.pow_add]
    have hpos : 0 < size := Nat.pow_pos (by decide)
    have htwo : 2 ≤ 2 ^ (extra + 1) := by
      rw [Nat.pow_succ]
      have hone := Nat.one_le_two_pow (n := extra)
      omega
    let first := inner.base / 2 ^ (width - inner.length)
    have hfirst : (first + 1) * 2 ^ (width - inner.length) ≤ 2 ^ width := by
      have hwidth : 2 ^ width = 2 ^ (width - inner.length) * 2 ^ (width - (width - inner.length)) := by
        rw [← Nat.pow_add]
        congr 1
        omega
      rw [hwidth] at hbase ⊢
      rw [Nat.mul_comm]
      exact Nat.mul_le_mul_left _ (Nat.div_lt_of_lt_mul hbase)
    have hsecond : size < 2 ^ (width - inner.length) := by
      rw [hsize]
      exact (Nat.lt_mul_iff_one_lt_right hpos).2 htwo
    have hlow := hall (2 ^ (width - inner.length) * first) (by grind)
      (Nat.mul_div_cancel_left _ (by omega))
    have hhigh := hall (2 ^ (width - inner.length) * first + size) (by grind) (by
      unfold Contains
      rw [Nat.mul_add_div (by omega), Nat.div_eq_of_lt hsecond, Nat.add_zero])
    unfold Contains at hlow hhigh
    rw [hsize, Nat.mul_assoc, Nat.mul_add_div hpos, Nat.div_self hpos] at hhigh
    rw [hsize, Nat.mul_assoc, Nat.mul_div_cancel_left _ hpos] at hlow
    omega
  · rintro ⟨hle, hcontains⟩ n - hn
    exact contains_of_le hle hcontains hn

end Block

/-- The first three bits of a group. -/
theorem and_e000 (n : Nat) : n &&& 0xE000 = n / 8192 % 8 * 8192 := by
  have hmask : (0xE000 : Nat) = 7 <<< 13 := rfl
  have hshift : n &&& 7 <<< 13 = ((n >>> 13) &&& 7) <<< 13 := by
    apply Nat.eq_of_testBit_eq
    intro i
    simp only [Nat.testBit_and, Nat.testBit_shiftLeft, Nat.testBit_shiftRight]
    by_cases hi : 13 ≤ i
    · have hindex : 13 + (i - 13) = i := by omega
      simp [hi, hindex]
    · simp [hi]
  have hseven : (n >>> 13) &&& 7 = (n >>> 13) % 8 := Nat.and_two_pow_sub_one_eq_mod _ 3
  rw [hmask, hshift, hseven, Nat.shiftLeft_eq, Nat.shiftRight_eq_div_pow]

example : parse "127.0.0.1" = some (.v4 0x7F000001) := by decide +kernel

example : parse "fdfe::9876:1.2.3.4" = some (.v6 0xfdfe0000000000000000987601020304) := by
  decide +kernel

end IpAddr
