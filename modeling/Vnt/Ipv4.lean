/-
This file embeds the address arithmetic both programs use: IPv4 addresses as 32-bit words in
host order and networks as an address with a prefix length. The network address clears the
host bits, the broadcast address sets them, and a network contains the addresses between the
two. The half-open address range is the loop range of the address search.
-/

import Mathlib.Algebra.GroupWithZero.Nat
import Mathlib.Data.List.Basic

namespace Vnt

/-- `Ipv4Addr`, read through `u32::from`. -/
abbrev Ipv4Addr : Type := UInt32

/-- `Ipv4Addr::BROADCAST`. -/
def Ipv4Addr.broadcast : Ipv4Addr := 0xFFFFFFFF

/-- The dotted text of an address. -/
def Ipv4Addr.display (ip : Ipv4Addr) : String :=
  let value := ip.toNat
  s!"{value / 16777216}.{value / 65536 % 256}.{value / 256 % 256}.{value % 256}"

/-- For the numerals of prefix lengths. -/
instance instNeZeroPrefixLens : NeZero 33 := ⟨by decide⟩

/-- `Ipv4Net`: a prefix length over 32 cannot be built. -/
structure Ipv4Net where
  addr : Ipv4Addr
  prefixLen : Fin 33
  deriving DecidableEq, Repr

namespace Ipv4Net

/-- `Ipv4Net::new`. -/
def new (addr : Ipv4Addr) (prefixLen : Nat) : Option Ipv4Net :=
  if valid : prefixLen < 33 then some ⟨addr, ⟨prefixLen, valid⟩⟩ else none

/-- The text of a network, as it stands in the error messages. -/
def display (net : Ipv4Net) : String := s!"{Ipv4Addr.display net.addr}/{net.prefixLen.val}"

/-- The host bits of the network. -/
def hostmask (net : Ipv4Net) : UInt32 := UInt32.ofNat (2 ^ (32 - net.prefixLen.val) - 1)

/-- The prefix bits of the network. -/
def netmask (net : Ipv4Net) : UInt32 := ~~~net.hostmask

def network (net : Ipv4Net) : Ipv4Addr := net.addr &&& net.netmask

def broadcast (net : Ipv4Net) : Ipv4Addr := net.addr ||| net.hostmask

def contains (net : Ipv4Net) (ip : Ipv4Addr) : Bool :=
  decide (net.network ≤ ip) && decide (ip ≤ net.broadcast)

theorem contains_iff (net : Ipv4Net) (ip : Ipv4Addr) :
    net.contains ip = true ↔ net.network ≤ ip ∧ ip ≤ net.broadcast := by
  simp [contains]

theorem toNat_hostmask (net : Ipv4Net) :
    net.hostmask.toNat = 2 ^ (32 - net.prefixLen.val) - 1 := by
  have bound : 2 ^ (32 - net.prefixLen.val) ≤ 2 ^ 32 :=
    Nat.pow_le_pow_right (by decide) (Nat.sub_le _ _)
  have positive : 0 < 2 ^ (32 - net.prefixLen.val) := Nat.two_pow_pos _
  have below : 2 ^ (32 - net.prefixLen.val) - 1 < 2 ^ 32 := by omega
  exact UInt32.toNat_ofNat_of_lt' below

/-- An address is the network address when it has no host bits. -/
theorem network_eq_addr_iff (net : Ipv4Net) :
    net.network = net.addr ↔ net.addr.toNat % 2 ^ (32 - net.prefixLen.val) = 0 := by
  have hostBits : net.addr &&& net.hostmask = 0 ↔
      net.addr.toNat % 2 ^ (32 - net.prefixLen.val) = 0 := by
    rw [← UInt32.toNat_inj, UInt32.toNat_and, toNat_hostmask, Nat.and_two_pow_sub_one_eq_mod]
    rfl
  have parts : net.addr = net.addr &&& net.hostmask ||| net.network := by
    have whole : net.addr &&& (net.hostmask ||| ~~~net.hostmask) =
        net.addr &&& net.hostmask ||| net.addr &&& ~~~net.hostmask :=
      UInt32.toBitVec_inj.mp BitVec.and_or_distrib_left
    rwa [UInt32.or_not_self, UInt32.and_neg_one] at whole
  rw [← hostBits]
  constructor
  · intro same
    rw [← same, network, netmask, UInt32.and_assoc, UInt32.not_and_self, UInt32.and_zero]
  · intro none
    rw [none, UInt32.zero_or] at parts
    exact parts.symm

theorem network_le_addr (net : Ipv4Net) : net.network ≤ net.addr := UInt32.and_le_left

end Ipv4Net

/-- The addresses of `start..stop` in increasing order. -/
def addrRange (start stop : Ipv4Addr) : List Ipv4Addr :=
  (List.range' start.toNat (stop.toNat - start.toNat)).map UInt32.ofNat

theorem mem_addrRange {start stop ip : Ipv4Addr} :
    ip ∈ addrRange start stop ↔ start ≤ ip ∧ ip < stop := by
  unfold addrRange
  rw [List.mem_map, UInt32.le_iff_toNat_le, UInt32.lt_iff_toNat_lt]
  constructor
  · rintro ⟨index, member, rfl⟩
    rw [List.mem_range'_1] at member
    have bound : index < 2 ^ 32 := by have := stop.toNat_lt; omega
    rw [UInt32.toNat_ofNat_of_lt' bound]
    omega
  · rintro ⟨lower, upper⟩
    refine ⟨ip.toNat, ?_, UInt32.ofNat_toNat⟩
    rw [List.mem_range'_1]
    omega

example : (Ipv4Net.mk 0x0A1A0005 24).network = 0x0A1A0000 := by decide
example : (Ipv4Net.mk 0x0A1A0005 24).broadcast = 0x0A1A00FF := by decide

end Vnt
