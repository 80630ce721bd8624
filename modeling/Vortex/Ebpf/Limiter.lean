import Vortex.Lib.BoundedMap
import Vortex.Lib.Net
import Mathlib.Data.Finset.Card

/-!
# The XDP rate limiters

The interface `XdpRateLimiter` and its two implementations: `MockXdpLimiter`, a
set of addresses, and `LinuxXdpLimiter`, which writes the `BLOCKED_IPS` map
shared with the kernel program.

A call either fails and leaves the limiter as it was, or yields its next state.
The BPF map compares keys by their four bytes, so the model keeps keys and
values as bytes and the host's byte order as a parameter.
-/

namespace Vortex.Ebpf

open Lib

/-- The trait `XdpRateLimiter` over a state `σ` with errors `ε`. -/
structure XdpRateLimiter (σ ε : Type) where
  blockIp : σ → IpAddr → Except ε σ
  unblockIp : σ → IpAddr → Except ε σ
  isIpBlocked : σ → IpAddr → Bool
  blockedIpCount : σ → ℕ

/-- `MockXdpLimiter`: an in-memory set; no call fails. -/
def mockXdpLimiter : XdpRateLimiter (Finset IpAddr) Empty where
  blockIp blocked ip := .ok (insert ip blocked)
  unblockIp blocked ip := .ok (blocked.erase ip)
  isIpBlocked blocked ip := decide (ip ∈ blocked)
  blockedIpCount blocked := blocked.card

/-- `max_entries` of `BLOCKED_IPS`. -/
def maxEntries : ℕ := 100000

/-- The `BLOCKED_IPS` map: keys and values are `u32` words as they lie in
memory. -/
abbrev BlockedIps := BoundedMap maxEntries Bytes4 Bytes4

/-- `u32::from_be_bytes(ipv4.octets())`: the number with the first octet as its
most significant byte, on any host. -/
def ipBytes (addr : Ipv4Addr) : UInt32 := Endian.big.load32 addr.octets

/-- The key bytes under which user space files an address. -/
def mapKey (endian : Endian) (addr : Ipv4Addr) : Bytes4 :=
  endian.store32 (ipBytes addr)

/-- `LinuxXdpLimiter` on a host of the given byte order. IPv6 addresses are
accepted without effect. -/
def linuxXdpLimiter (endian : Endian) :
    XdpRateLimiter BlockedIps BoundedMap.Error where
  blockIp map
    | .v4 addr => map.insert (mapKey endian addr) (endian.store32 1)
    | .v6 _ => .ok map
  unblockIp map
    | .v4 addr => map.remove (mapKey endian addr)
    | .v6 _ => .ok map
  isIpBlocked map
    | .v4 addr => (map.lookup (mapKey endian addr)).isSome
    | .v6 _ => false
  blockedIpCount map := map.table.keys.length

/-- A big-endian host stores the octets as they are. -/
@[simp] theorem mapKey_big (addr : Ipv4Addr) : mapKey .big addr = addr.octets :=
  Endian.store32_load32 .big addr.octets

/-- A little-endian host stores the octets in reverse. -/
@[simp] theorem mapKey_little (addr : Ipv4Addr) :
    mapKey .little addr = addr.octets.reverse :=
  Endian.store32_little_load32_big addr.octets

theorem mapKey_injective (endian : Endian) : Function.Injective (mapKey endian) := by
  intro left right equal
  cases left with
  | mk leftOctets =>
    cases right with
    | mk rightOctets =>
      cases endian with
      | big => simpa using equal
      | little =>
          simp only [mapKey_little] at equal
          have octets := congrArg Bytes4.reverse equal
          simpa using octets

end Vortex.Ebpf
