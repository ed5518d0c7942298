import MultiCore.Library.Address

/-!
# Redirects of a subscription

A redirect is followed hop by hop, each against all addresses visited before. A
chain that came to an encrypted address never leaves it for a plain one, and a
chain from a public provider never turns to the user's machine or network: the
blocks of addresses that are not global are listed here, and the arithmetic of
the check is compared with them.
-/

namespace MultiCore.Subscription

/-- What a redirect looks at in a URL: the scheme, and the host as the URL writes it. An address
host is written as its text form, one of the second family in brackets. -/
structure Url where
  scheme : String
  hostStr : Option String
  deriving DecidableEq, Repr

/-- `MAX_SUBSCRIPTION_REDIRECTS`. -/
def maxSubscriptionRedirects : Nat := 5

/-- `is_global_ipv4`. -/
def isGlobalIpv4 (bits : BitVec 32) : Bool :=
  let a := IpAddr.octet bits 0
  let b := IpAddr.octet bits 1
  let c := IpAddr.octet bits 2
  ¬(a = 0 ∨ a = 10 ∨ a = 127 ∨ (a = 100 ∧ 64 ≤ b ∧ b ≤ 127) ∨ (a = 64 ∧ b = 0 ∧ c = 0) ∨
    (a = 169 ∧ b = 254) ∨ (a = 172 ∧ 16 ≤ b ∧ b ≤ 31) ∨ (a = 192 ∧ b = 0 ∧ c = 0) ∨
    (a = 192 ∧ b = 0 ∧ c = 2) ∨ (a = 192 ∧ b = 168) ∨ (a = 192 ∧ b = 88 ∧ c = 99) ∨
    (a = 198 ∧ (b = 18 ∨ b = 19)) ∨ (a = 198 ∧ b = 51 ∧ c = 100) ∨
    (a = 203 ∧ b = 0 ∧ c = 113) ∨ 224 ≤ a)

/-- `is_global_ipv6`; a mapped address counts as the one it maps. -/
def isGlobalIpv6 (bits : BitVec 128) : Bool :=
  match IpAddr.toIpv4Mapped bits with
  | some ipv4 => isGlobalIpv4 ipv4
  | none =>
    let first := IpAddr.segment bits 0
    let second := IpAddr.segment bits 1
    first &&& 0xE000 = 0x2000 ∧ ¬(first = 0x2001 ∧ (second ≤ 0x01FF ∨ second = 0x0DB8)) ∧
      first ≠ 0x2002 ∧ ¬(first = 0x3FFF ∧ second < 0x1000)

/-- `is_global_ip`. -/
def isGlobalIp : IpAddr → Bool
  | .v4 bits => isGlobalIpv4 bits
  | .v6 bits => isGlobalIpv6 bits

/-- The host without the brackets around an address. -/
def literal (host : String) : String :=
  String.ofList ((host.toList.dropWhile (· = '[')).rdropWhile (· = ']'))

/-- Whether a host is `localhost` or a name below it. -/
def isLocalhost (host : String) : Bool :=
  let host := String.ofList (host.toList.rdropWhile (· = '.'))
  Text.sameName host "localhost" || Text.endsWith (Text.lower host) ".localhost"

/-- The user's machine or network, or no host. -/
def hostIsNonGlobalIp (url : Url) : Bool :=
  match url.hostStr with
  | none => true
  | some host =>
    match IpAddr.parse (literal host) with
    | some ip => !isGlobalIp ip
    | none => isLocalhost host

/-- Whether a redirect may be followed after these addresses. -/
def redirectAllowed (previous : List Url) (next : Url) : Bool :=
  if next.scheme ≠ "http" && next.scheme ≠ "https" then false
  else
    let downgrade := next.scheme ≠ "https" && previous.any fun url => url.scheme = "https"
    let originIsPublic := match previous.head? with
      | none => true
      | some origin => !hostIsNonGlobalIp origin
    !downgrade && !(originIsPublic && hostIsNonGlobalIp next)

/-- The policy of the subscription client for one redirect. -/
def subscriptionRedirectPolicy (previous : List Url) (next : Url) : Bool :=
  if maxSubscriptionRedirects < previous.length then false else redirectAllowed previous next

/-- The addresses visited from an origin on, in order. -/
inductive Follows (origin : Url) : List Url → Prop
  | start : Follows origin [origin]
  | hop {chain : List Url} {next : Url} : Follows origin chain →
      subscriptionRedirectPolicy chain next = true → Follows origin (chain ++ [next])

section Blocks

open IpAddr (Block)

/-- A block by its four numbers. -/
def dotted (a b c d length : Nat) : Block := ⟨((a * 256 + b) * 256 + c) * 256 + d, length⟩

/-- The addresses of the first family that are not global: this network, private networks,
loopback, shared address space, link-local, protocol assignments, documentation, benchmarks,
relays, multicast and the reserved rest. -/
def nonGlobalV4 : List Block :=
  [dotted 0 0 0 0 8, dotted 10 0 0 0 8, dotted 127 0 0 0 8, dotted 100 64 0 0 10,
    dotted 64 0 0 0 24, dotted 169 254 0 0 16, dotted 172 16 0 0 12, dotted 192 0 0 0 24,
    dotted 192 0 2 0 24, dotted 192 168 0 0 16, dotted 192 88 99 0 24, dotted 198 18 0 0 15,
    dotted 198 51 100 0 24, dotted 203 0 113 0 24, dotted 224 0 0 0 3]

/-- A block of the second family by its first two groups. -/
def grouped (first second length : Nat) : Block := ⟨(first * 65536 + second) * 2 ^ 96, length⟩

/-- The addresses of the second family that are not global: all outside the global unicast block
(loopback, unique local and link-local among them), and in it protocol assignments,
documentation and relays. -/
def nonGlobalV6 : List Block :=
  [grouped 0 0 3, grouped 0x4000 0 2, grouped 0x8000 0 1, grouped 0x2001 0 23,
    grouped 0x2001 0x0DB8 32, grouped 0x2002 0 16, grouped 0x3FFF 0 20]

/-- An address that is not global; one that stands for an address of the first family is judged
as that. -/
def NonGlobal : IpAddr → Prop
  | .v4 bits => ∃ block ∈ nonGlobalV4, block.Contains 32 bits.toNat
  | .v6 bits =>
    match IpAddr.toIpv4Mapped bits with
    | some ipv4 => ∃ block ∈ nonGlobalV4, block.Contains 32 ipv4.toNat
    | none => ∃ block ∈ nonGlobalV6, block.Contains 128 bits.toNat

theorem isGlobalIpv4_iff (bits : BitVec 32) :
    isGlobalIpv4 bits = true ↔ ¬∃ block ∈ nonGlobalV4, block.Contains 32 bits.toNat := by
  have hlt : bits.toNat < 2 ^ 32 := bits.isLt
  refine decide_eq_true_iff.trans ?_
  simp only [nonGlobalV4, List.exists_mem_cons_iff, List.not_mem_nil, false_and, exists_false,
    or_false, Block.Contains, dotted, IpAddr.octet, Nat.reduceSub, Nat.reducePow, Nat.reduceMul,
    Nat.reduceAdd, Nat.reduceDiv]
  -- The alternatives of the check and the blocks stand in the same order.
  apply not_congr
  repeat' apply or_congr
  all_goals omega

theorem isGlobalIpv6_iff (bits : BitVec 128) :
    isGlobalIpv6 bits = true ↔ ¬NonGlobal (.v6 bits) := by
  rw [isGlobalIpv6, NonGlobal]
  cases hmapped : IpAddr.toIpv4Mapped bits with
  | some ipv4 => exact isGlobalIpv4_iff ipv4
  | none =>
    have hlt : bits.toNat < 2 ^ 128 := bits.isLt
    simp only [nonGlobalV6, List.exists_mem_cons_iff, List.not_mem_nil, false_and, exists_false,
      or_false, Block.Contains, grouped, IpAddr.segment, IpAddr.and_e000, decide_eq_true_eq,
      Nat.reduceSub, Nat.reducePow, Nat.reduceMul, Nat.reduceAdd, Nat.reduceDiv]
    omega

end Blocks

/-- Loopback, unique local and link-local addresses of the second family are not global. -/
theorem nonGlobal_local {bits : BitVec 128}
    (h : bits.toNat = 1 ∨ (grouped 0xFC00 0 7).Contains 128 bits.toNat ∨
      (grouped 0xFE80 0 10).Contains 128 bits.toNat) : NonGlobal (.v6 bits) := by
  have hlt : bits.toNat < 2 ^ 128 := bits.isLt
  have hunmapped : IpAddr.toIpv4Mapped bits = none := by
    rw [IpAddr.toIpv4Mapped, if_neg]
    simp only [IpAddr.Block.Contains, grouped, Nat.reduceSub, Nat.reducePow, Nat.reduceMul,
      Nat.reduceAdd, Nat.reduceDiv] at h
    omega
  simp only [NonGlobal, hunmapped, nonGlobalV6, List.exists_mem_cons_iff, List.not_mem_nil,
    false_and, exists_false, or_false]
  simp only [IpAddr.Block.Contains, grouped, Nat.reduceSub, Nat.reducePow, Nat.reduceMul,
    Nat.reduceAdd, Nat.reduceDiv] at h ⊢
  omega

/-- A URL that leads to the user's machine or network: its host is an address that is not global
or a name of the machine itself, or it has none. -/
def Inward (url : Url) : Prop :=
  match url.hostStr with
  | none => True
  | some host =>
    match IpAddr.parse (literal host) with
    | some ip => NonGlobal ip
    | none => isLocalhost host = true

theorem isGlobalIp_iff (ip : IpAddr) : isGlobalIp ip = true ↔ ¬NonGlobal ip := by
  cases ip with
  | v4 bits => exact isGlobalIpv4_iff bits
  | v6 bits => exact isGlobalIpv6_iff bits

theorem hostIsNonGlobalIp_iff (url : Url) : hostIsNonGlobalIp url = true ↔ Inward url := by
  unfold hostIsNonGlobalIp Inward
  cases url.hostStr with
  | none => exact iff_of_true rfl trivial
  | some host =>
    cases hparse : IpAddr.parse (literal host) with
    | none => simp only [hparse]
    | some ip =>
      simp only [hparse, Bool.not_eq_true']
      rw [← Bool.not_eq_true, isGlobalIp_iff, not_not]

/-- What a redirect that is followed has been checked for. -/
theorem redirectAllowed_spec {previous : List Url} {next : Url}
    (h : redirectAllowed previous next = true) :
    (∀ url ∈ previous, url.scheme = "https" → next.scheme = "https") ∧
      ∀ origin, previous.head? = some origin → ¬Inward origin → ¬Inward next := by
  unfold redirectAllowed at h
  by_cases hscheme : (next.scheme ≠ "http" && next.scheme ≠ "https") = true
  · rw [if_pos hscheme] at h
    exact nomatch h
  rw [if_neg hscheme] at h
  simp only [Bool.and_eq_true, Bool.not_eq_true'] at h
  obtain ⟨hdowngrade, hinward⟩ := h
  constructor
  · intro url hurl hencrypted
    by_contra hplain
    have hany : (previous.any fun url => url.scheme = "https") = true :=
      List.any_eq_true.2 ⟨url, hurl, by simpa using hencrypted⟩
    rw [hany, Bool.and_true] at hdowngrade
    simp [hplain] at hdowngrade
  · intro origin horigin hpublic hnext
    have horiginCheck : hostIsNonGlobalIp origin = false := by
      rw [← Bool.not_eq_true, hostIsNonGlobalIp_iff]
      exact hpublic
    have hnextCheck : hostIsNonGlobalIp next = true := (hostIsNonGlobalIp_iff next).2 hnext
    rw [horigin] at hinward
    simp only [horiginCheck, hnextCheck] at hinward
    exact nomatch hinward

/-- What is promised of a chain of redirects. -/
structure SafeChain (origin : Url) (chain : List Url) : Prop where
  bounded : chain.length ≤ maxSubscriptionRedirects + 1
  encrypted : chain.Pairwise fun before after => before.scheme = "https" → after.scheme = "https"
  outward : ¬Inward origin → ∀ url ∈ chain, ¬Inward url

theorem Follows.head? {origin : Url} {chain : List Url} (h : Follows origin chain) :
    chain.head? = some origin := by
  induction h with
  | start => rfl
  | hop _ _ ih => rw [List.head?_append, ih, Option.some_or]

/-- One more hop keeps the promises. -/
theorem SafeChain.hop {origin : Url} {chain : List Url} {next : Url} (h : SafeChain origin chain)
    (hhead : chain.head? = some origin) (hnext : subscriptionRedirectPolicy chain next = true) :
    SafeChain origin (chain ++ [next]) := by
  unfold subscriptionRedirectPolicy at hnext
  by_cases hmany : maxSubscriptionRedirects < chain.length
  · rw [if_pos hmany] at hnext
    exact nomatch hnext
  rw [if_neg hmany] at hnext
  obtain ⟨hscheme, hinward⟩ := redirectAllowed_spec hnext
  constructor
  · rw [List.length_append, List.length_singleton]
    omega
  · rw [List.pairwise_append]
    refine ⟨h.encrypted, List.pairwise_singleton _ _, ?_⟩
    intro url hurl last hlast
    rw [List.mem_singleton.1 hlast]
    exact hscheme url hurl
  · intro hpublic url hurl
    rcases List.mem_append.1 hurl with hurl | hlast
    · exact h.outward hpublic url hurl
    · rw [List.mem_singleton.1 hlast]
      exact hinward origin hhead hpublic

/-- Every chain of redirects that is followed keeps its promises. -/
theorem follows_safe {origin : Url} {chain : List Url} (h : Follows origin chain) :
    SafeChain origin chain := by
  induction h with
  | start =>
    refine ⟨by simp [maxSubscriptionRedirects], List.pairwise_singleton _ _, ?_⟩
    intro hpublic url hurl
    rw [List.mem_singleton.1 hurl]
    exact hpublic
  | hop hchain hnext ih => exact ih.hop hchain.head? hnext

/-- From a plain address to the encrypted one of the same host. -/
theorem follows_safe_upgrade :
    SafeChain ⟨"http", some "a.b"⟩ [⟨"http", some "a.b"⟩, ⟨"https", some "a.b"⟩] :=
  follows_safe (.hop .start (by decide))

end MultiCore.Subscription
