import MultiCore.Library.Address
import MultiCore.Library.Checked
import MultiCore.Library.YamlValue

/-!
# The fake-ip pool of the second family

A pool of fake addresses that the tunnel does not route is worse than none, so it is
taken out of the document. Whether it is routed is decided by prefixes: one prefix
covers another when every address of the other is an address of it.
-/

namespace MultiCore.Subscription

open Yaml IpAddr

/-- The number of bits of an address. -/
def addressWidth : IpAddr → Nat
  | .v4 _ => 32
  | .v6 _ => 128

/-- An address, perhaps with bits of a host, and the number of the bits that count. -/
structure Prefix where
  address : IpAddr
  length : Nat
  length_le : length ≤ addressWidth address
  deriving DecidableEq

namespace Prefix

/-- `Prefix::parse`: an address, a slash and a length it can have. -/
def parse (text : String) : Option Prefix := do
  let (address, length) ← Text.splitOnce '/' (Text.trim text)
  let address ← IpAddr.parse (Text.trim address)
  let length ← Text.parseUnsigned 255 (Text.trim length)
  if h : length ≤ addressWidth address then some ⟨address, length, h⟩ else none

/-- Whether the prefix is of the newer family. -/
def isV6 (pre : Prefix) : Bool :=
  match pre.address with
  | .v4 _ => false
  | .v6 _ => true

/-- The mask of the first `length` bits of a word. -/
def mask (width length : Nat) : BitVec width :=
  (Checked.shl (BitVec.allOnes width) (width - length)).getD 0

/-- `Prefix::covers`: the mask of the outer prefix, on both addresses. -/
def covers (outer inner : Prefix) : Bool :=
  if inner.length < outer.length then false
  else
    match outer.address, inner.address with
    | .v4 outerBits, .v4 innerBits =>
      let mask := mask 32 outer.length
      outerBits &&& mask == innerBits &&& mask
    | .v6 outerBits, .v6 innerBits =>
      let mask := mask 128 outer.length
      outerBits &&& mask == innerBits &&& mask
    | _, _ => false

end Prefix

/-- Mihomo's address of the tunnel where none is set. -/
def mihomoDefaultInet6Address : String := "fdfe:dcba:9876::1/126"

/-- The prefixes of a list, or of a single text; what cannot be read is passed over. -/
def prefixes (value : Value) : List Prefix :=
  match value with
  | .string text => (Prefix.parse text).toList
  | .sequence entries => (entries.filterMap Value.asStr).filterMap Prefix.parse
  | _ => []

/-- The prefixes under some names of the tunnel's section. -/
def prefixesUnder (names : List String) (tun : Mapping) : List Prefix :=
  (names.filterMap fun name => get name tun).flatMap prefixes

/-- The pool that is set in a dns section, of the second family. -/
def fakeIpPool (dns : Mapping) : Option Prefix :=
  (((get "fake-ip-range6" dns).bind Value.asStr).bind Prefix.parse).filter Prefix.isV6

/-- The addresses of the tunnel itself. -/
def onLink (tun : Mapping) : List Prefix :=
  match get "inet6-address" tun with
  | none => (Prefix.parse mihomoDefaultInet6Address).toList
  | some .null => (Prefix.parse mihomoDefaultInet6Address).toList
  | some value => prefixes value

/-- `drop_unroutable_v6_pool`: the pool goes when the tunnel's routes do not lead to it. -/
def dropUnroutableV6Pool (dns : Mapping) (tun : Option Mapping) : Mapping :=
  match fakeIpPool dns with
  | none => dns
  | some pool =>
    let tun := tun.getD []
    if (get "auto-route" tun).bind Value.asBool = some false then dns
    else if (onLink tun).any fun address => address.covers pool then dns
    else
      let excluded := (prefixesUnder ["route-exclude-address", "inet6-route-exclude-address"]
        tun).any fun excluded => excluded.covers pool
      let routes := (prefixesUnder ["route-address", "inet6-route-address"] tun).filter Prefix.isV6
      let unrouted := !routes.isEmpty && !routes.any fun route => route.covers pool
      if excluded || unrouted then swapRemove "fake-ip-range6" dns else dns

/-! ## Addresses of a prefix -/

namespace Prefix

/-- An address of a prefix: of the same family, and the same in the bits that count. -/
def Has (pre : Prefix) (address : IpAddr) : Prop :=
  match pre.address, address with
  | .v4 base, .v4 bits => Block.Contains 32 ⟨base.toNat, pre.length⟩ bits.toNat
  | .v6 base, .v6 bits => Block.Contains 128 ⟨base.toNat, pre.length⟩ bits.toNat
  | _, _ => False

/-- The addresses of one prefix are addresses of the other one, by their numbers. -/
theorem forall_bits_iff {width : Nat} {p : Nat → Prop} :
    (∀ bits : BitVec width, p bits.toNat) ↔ ∀ n < 2 ^ width, p n := by
  constructor
  · intro h n hn
    have hbits := h (BitVec.ofNat width n)
    rwa [BitVec.toNat_ofNat, Nat.mod_eq_of_lt hn] at hbits
  · intro h bits
    exact h bits.toNat bits.isLt

/-- The comparison under a mask, by the blocks of addresses. -/
theorem covers_bits_iff {width outerLength innerLength : Nat} (houter : outerLength ≤ width)
    (outer inner : BitVec width) :
    (if innerLength < outerLength then false
      else outer &&& mask width outerLength == inner &&& mask width outerLength) = true ↔
      ∀ bits : BitVec width, Block.Contains width ⟨inner.toNat, innerLength⟩ bits.toNat →
        Block.Contains width ⟨outer.toNat, outerLength⟩ bits.toNat := by
  rw [forall_bits_iff (p := fun n => Block.Contains width ⟨inner.toNat, innerLength⟩ n →
    Block.Contains width ⟨outer.toNat, outerLength⟩ n),
    Block.forall_contains_iff inner.isLt houter]
  by_cases hlength : innerLength < outerLength
  · rw [if_pos hlength]
    exact iff_of_false Bool.false_ne_true fun h => Nat.not_lt.2 h.1 hlength
  · rw [if_neg hlength, beq_iff_eq, mask, Checked.and_shl_allOnes]
    exact ⟨fun h => ⟨Nat.not_lt.1 hlength, h.symm⟩, fun h => h.2.symm⟩

end Prefix

/-- A prefix covers another one exactly when both are of one family and every address of the other is
an address of it. -/
theorem covers_iff_addresses (outer inner : Prefix) :
    outer.covers inner = true ↔ outer.isV6 = inner.isV6 ∧
      ∀ address, inner.Has address → outer.Has address := by
  obtain ⟨outerAddress, outerLength, houter⟩ := outer
  obtain ⟨innerAddress, innerLength, hinner⟩ := inner
  cases outerAddress with
  | v4 outerBits =>
    cases innerAddress with
    | v4 innerBits =>
      refine (Prefix.covers_bits_iff houter outerBits innerBits).trans ?_
      constructor
      · rintro h
        refine ⟨rfl, fun address hhas => ?_⟩
        cases address with
        | v4 bits => exact h bits hhas
        | v6 bits => exact hhas.elim
      · rintro ⟨-, h⟩ bits hhas
        exact h (.v4 bits) hhas
    | v6 innerBits =>
      refine iff_of_false ?_ fun h => Bool.false_ne_true h.1
      unfold Prefix.covers
      split_ifs <;> exact not_false
  | v6 outerBits =>
    cases innerAddress with
    | v4 innerBits =>
      refine iff_of_false ?_ fun h => Bool.false_ne_true h.1.symm
      unfold Prefix.covers
      split_ifs <;> exact not_false
    | v6 innerBits =>
      refine (Prefix.covers_bits_iff houter outerBits innerBits).trans ?_
      constructor
      · intro h
        refine ⟨rfl, fun address hhas => ?_⟩
        cases address with
        | v4 bits => exact hhas.elim
        | v6 bits => exact h bits hhas
      · rintro ⟨-, h⟩ bits hhas
        exact h (.v6 bits) hhas

/-- Every address of a pool is an address of a prefix of the list. -/
def Routes (list : List Prefix) (pool : Prefix) : Prop :=
  ∃ route ∈ list, ∀ address, pool.Has address → route.Has address

/-- Every prefix of a pool's family has addresses, the one that is written in it for one. -/
theorem Prefix.has_address (pre : Prefix) : pre.Has pre.address := by
  obtain ⟨address, length, hle⟩ := pre
  cases address <;> exact rfl

theorem Prefix.isV6_eq_of_has {outer inner : Prefix}
    (h : ∀ address, inner.Has address → outer.Has address) : outer.isV6 = inner.isV6 := by
  have haddress := h _ inner.has_address
  obtain ⟨outerAddress, outerLength, houter⟩ := outer
  obtain ⟨innerAddress, innerLength, hinner⟩ := inner
  cases outerAddress <;> cases innerAddress <;> first | rfl | exact haddress.elim

theorem any_covers_iff (list : List Prefix) (pool : Prefix) :
    (list.any fun route => route.covers pool) = true ↔ Routes list pool := by
  rw [List.any_eq_true]
  constructor
  · rintro ⟨route, hroute, hcovers⟩
    exact ⟨route, hroute, ((covers_iff_addresses route pool).1 hcovers).2⟩
  · rintro ⟨route, hroute, hall⟩
    exact ⟨route, hroute, (covers_iff_addresses route pool).2 ⟨Prefix.isV6_eq_of_has hall, hall⟩⟩

/-- The tunnel, with its own routes, does not carry all addresses of a pool: none of its own addresses
does, and they are excluded, or routes are listed and none carries them. -/
def Unroutable (tun : Mapping) (pool : Prefix) : Prop :=
  (get "auto-route" tun).bind Value.asBool ≠ some false ∧ ¬ Routes (onLink tun) pool ∧
    (Routes (prefixesUnder ["route-exclude-address", "inet6-route-exclude-address"] tun) pool ∨
      (prefixesUnder ["route-address", "inet6-route-address"] tun).filter Prefix.isV6 ≠ [] ∧
        ¬ Routes ((prefixesUnder ["route-address", "inet6-route-address"] tun).filter Prefix.isV6)
          pool)

/-- The pool is taken out exactly when the tunnel does not carry it; nothing else is changed. -/
theorem pool_dropped_iff_unroutable (dns : Mapping) (tun : Option Mapping) :
    (∀ pool, fakeIpPool dns = some pool → Unroutable (tun.getD []) pool →
      dropUnroutableV6Pool dns tun = swapRemove "fake-ip-range6" dns) ∧
    ((∀ pool, fakeIpPool dns = some pool → ¬ Unroutable (tun.getD []) pool) →
      dropUnroutableV6Pool dns tun = dns) := by
  unfold dropUnroutableV6Pool
  cases fakeIpPool dns with
  | none => exact ⟨fun pool hpool => (nomatch hpool), fun _ => rfl⟩
  | some pool =>
    dsimp only
    generalize tun.getD [] = tun
    have hdropped : ((prefixesUnder ["route-exclude-address", "inet6-route-exclude-address"]
        tun).any (fun excluded => excluded.covers pool) ||
          (!((prefixesUnder ["route-address", "inet6-route-address"] tun).filter
            Prefix.isV6).isEmpty &&
          !((prefixesUnder ["route-address", "inet6-route-address"] tun).filter Prefix.isV6).any
            fun route => route.covers pool)) = true ↔
        Routes (prefixesUnder ["route-exclude-address", "inet6-route-exclude-address"] tun) pool ∨
          (prefixesUnder ["route-address", "inet6-route-address"] tun).filter Prefix.isV6 ≠ [] ∧
          ¬ Routes ((prefixesUnder ["route-address", "inet6-route-address"] tun).filter
            Prefix.isV6) pool := by
      rw [Bool.or_eq_true, any_covers_iff, Bool.and_eq_true, Bool.not_eq_true', Bool.not_eq_true',
        ← Bool.not_eq_true, ← Bool.not_eq_true, any_covers_iff, List.isEmpty_iff]
    have honLink := any_covers_iff (onLink tun) pool
    constructor
    · rintro _ ⟨⟩ ⟨hauto, hown, hcarried⟩
      rw [if_neg hauto, if_neg (honLink.not.2 hown), if_pos (hdropped.2 hcarried)]
    · intro h
      have hroutable := h pool rfl
      by_cases hauto : (get "auto-route" tun).bind Value.asBool = some false
      · rw [if_pos hauto]
      · by_cases hown : Routes (onLink tun) pool
        · rw [if_neg hauto, if_pos (honLink.2 hown)]
        · rw [if_neg hauto, if_neg (honLink.not.2 hown),
            if_neg (hdropped.not.2 fun hcarried => hroutable ⟨hauto, hown, hcarried⟩)]

example : ((Prefix.parse "fc00::/7").bind fun outer => (Prefix.parse "fdfe::1/64").map fun inner =>
    outer.covers inner) = some true := by decide +kernel

end MultiCore.Subscription
