import Mathlib.Data.Nat.Notation

/-!
# IP addresses

Networks as prefixes of bit vectors, and the networks that are not reachable from everywhere.
-/

namespace IpAddress

/-- The addresses that begin like this one. -/
structure Network (width : ℕ) where
  base : BitVec width
  length : ℕ
  deriving DecidableEq, Repr

namespace Network

variable {width : ℕ}

def contains (network : Network width) (address : BitVec width) : Bool :=
  address >>> (width - network.length) == network.base >>> (width - network.length)

/-- The prefixes agree as far as both go. -/
def meets (first second : Network width) : Bool :=
  let rest := width - min first.length second.length
  first.base >>> rest == second.base >>> rest

theorem shift_of_contains {network : Network width} {address : BitVec width} {rest : ℕ}
    (inside : network.contains address = true) (shorter : width - network.length ≤ rest) :
    address >>> rest = network.base >>> rest := by
  rw [contains, beq_iff_eq] at inside
  obtain ⟨more, rfl⟩ := Nat.exists_eq_add_of_le shorter
  rw [BitVec.shiftRight_add, inside, BitVec.shiftRight_add]

theorem meets_of_contains {first second : Network width} {address : BitVec width}
    (here : first.contains address = true) (there : second.contains address = true) :
    first.meets second = true := by
  rw [meets, beq_iff_eq, ← shift_of_contains here (by omega),
    shift_of_contains there (by omega)]

end Network

/-- An address of either version. -/
inductive Address
  | v4 (value : BitVec 32)
  | v6 (value : BitVec 128)
  deriving DecidableEq, Repr

/-- The networks of one version. -/
structure Registry (width : ℕ) where
  /-- `_private_networks`. -/
  privates : List (Network width)
  /-- `_private_networks_exceptions`. -/
  exceptions : List (Network width)
  multicast : Network width

namespace Registry

variable {width : ℕ} (registry : Registry width)

def isPrivate (address : BitVec width) : Bool :=
  registry.privates.any (·.contains address) && registry.exceptions.all (!·.contains address)

/-- A private network without an exception. -/
def closed (network : Network width) : Bool :=
  registry.privates.contains network &&
    registry.exceptions.all (!network.meets ·)

variable {registry} {network : Network width} {address : BitVec width}

theorem isPrivate_of_closed (closed : registry.closed network = true)
    (inside : network.contains address = true) : registry.isPrivate address = true := by
  rw [Registry.closed, Bool.and_eq_true, List.contains_iff_mem, List.all_eq_true] at closed
  obtain ⟨listed, apart⟩ := closed
  rw [isPrivate, Bool.and_eq_true, List.any_eq_true, List.all_eq_true]
  refine ⟨⟨network, listed, inside⟩, fun exception member => ?_⟩
  have disjoint := apart exception member
  rw [Bool.not_eq_true'] at disjoint ⊢
  cases excepted : exception.contains address with
  | false => rfl
  | true =>
      rw [Network.meets_of_contains inside excepted] at disjoint
      contradiction

end Registry

/-- The constants of `IPv4Address`. -/
def ipv4 : Registry 32 where
  privates :=
    [⟨0x00000000, 8⟩, ⟨0x0A000000, 8⟩, ⟨0x7F000000, 8⟩, ⟨0xA9FE0000, 16⟩, ⟨0xAC100000, 12⟩,
      ⟨0xC0000000, 24⟩, ⟨0xC00000AA, 31⟩, ⟨0xC0000200, 24⟩, ⟨0xC0A80000, 16⟩,
      ⟨0xC6120000, 15⟩, ⟨0xC6336400, 24⟩, ⟨0xCB007100, 24⟩, ⟨0xF0000000, 4⟩, ⟨0xFFFFFFFF, 32⟩]
  exceptions := [⟨0xC0000009, 32⟩, ⟨0xC000000A, 32⟩]
  multicast := ⟨0xE0000000, 4⟩

/-- `_public_network`: `100.64.0.0/10`, which is neither private nor global. -/
def shared : Network 32 := ⟨0x64400000, 10⟩

/-- The constants of `IPv6Address`. -/
def ipv6 : Registry 128 where
  privates :=
    [⟨1, 128⟩, ⟨0, 128⟩, ⟨0xFFFF00000000, 96⟩, ⟨0x64FF9B000100000000000000000000, 48⟩,
      ⟨0x100 <<< 112, 64⟩, ⟨0x2001 <<< 112, 23⟩, ⟨0x20010DB8 <<< 96, 32⟩, ⟨0x2002 <<< 112, 16⟩,
      ⟨0x3FFF <<< 112, 20⟩, ⟨0xFC00 <<< 112, 7⟩, ⟨0xFE80 <<< 112, 10⟩]
  exceptions :=
    [⟨0x20010001 <<< 96 ||| 1, 128⟩, ⟨0x20010001 <<< 96 ||| 2, 128⟩, ⟨0x20010003 <<< 96, 32⟩,
      ⟨0x200100040112 <<< 80, 48⟩, ⟨0x20010020 <<< 96, 28⟩, ⟨0x20010030 <<< 96, 28⟩]
  multicast := ⟨0xFF00 <<< 112, 8⟩

namespace Address

/-- `ipv4_mapped`. -/
def mapped (value : BitVec 128) : Option (BitVec 32) :=
  if value >>> 32 = 0xFFFF then some (value.setWidth 32) else none

def isGlobal4 (value : BitVec 32) : Bool :=
  !shared.contains value && !ipv4.isPrivate value

def isGlobal : Address → Bool
  | .v4 value => isGlobal4 value
  | .v6 value =>
      match mapped value with
      | some inner => isGlobal4 inner
      | none => !ipv6.isPrivate value

def isMulticast : Address → Bool
  | .v4 value => ipv4.multicast.contains value
  | .v6 value =>
      match mapped value with
      | some inner => ipv4.multicast.contains inner
      | none => ipv6.multicast.contains value

/-- This host, its link, private networks and the metadata address, and the groups of them. -/
def internal4 : List (Network 32) :=
  [⟨0x00000000, 8⟩, ⟨0x7F000000, 8⟩, ⟨0x0A000000, 8⟩, ⟨0xAC100000, 12⟩, ⟨0xC0A80000, 16⟩,
    ⟨0xA9FE0000, 16⟩, ⟨0xFFFFFFFF, 32⟩, shared, ipv4.multicast]

def internal6 : List (Network 128) :=
  [⟨0, 128⟩, ⟨1, 128⟩, ⟨0xFC00 <<< 112, 7⟩, ⟨0xFE80 <<< 112, 10⟩, ipv6.multicast]

/-- An address that a sandbox must not reach. -/
def internal : Address → Bool
  | .v4 value => internal4.any (·.contains value)
  | .v6 value =>
      match mapped value with
      | some inner => internal4.any (·.contains inner)
      | none => internal6.any (·.contains value)

theorem internal4_cases : ∀ network ∈ internal4,
    ipv4.closed network = true ∨ network = shared ∨ network = ipv4.multicast := by
  decide

theorem internal6_cases : ∀ network ∈ internal6,
    ipv6.closed network = true ∨ network = ipv6.multicast := by
  decide

theorem not_internal4 {value : BitVec 32} (wide : isGlobal4 value = true)
    (single : ipv4.multicast.contains value = false) :
    internal4.any (·.contains value) = false := by
  rw [isGlobal4, Bool.and_eq_true, Bool.not_eq_true', Bool.not_eq_true'] at wide
  rw [List.any_eq_false]
  intro network member inside
  rcases internal4_cases network member with closed | rfl | rfl
  · rw [Registry.isPrivate_of_closed closed inside] at wide
    exact Bool.noConfusion wide.2
  · rw [inside] at wide
    exact Bool.noConfusion wide.1
  · rw [inside] at single
    contradiction

/-- What is global and no group is none of them. -/
theorem not_internal {address : Address} (wide : address.isGlobal = true)
    (single : address.isMulticast = false) : address.internal = false := by
  cases address with
  | v4 value => exact not_internal4 wide single
  | v6 value =>
      rw [isGlobal] at wide
      rw [isMulticast] at single
      rw [internal]
      cases inner : mapped value with
      | some inside =>
          rw [inner] at wide single
          exact not_internal4 wide single
      | none =>
          rw [inner] at wide single
          simp only [Bool.not_eq_true'] at wide
          rw [List.any_eq_false]
          intro network member inside
          rcases internal6_cases network member with closed | rfl
          · rw [Registry.isPrivate_of_closed closed inside] at wide
            contradiction
          · rw [inside] at single
            contradiction

end Address

end IpAddress
