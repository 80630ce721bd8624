import Vortex.Ebpf.Limiter
import Mathlib.Data.List.Induction

/-!
# The XDP program and its agreement with user space

`xdpProg` embeds `xdp_prog` of `xdp_drop.c` over an arbitrary frame.  The
program looks the source address up under the bytes it has in the packet,
whereas `LinuxXdpLimiter` files an address under the bytes of a number built
from its octets.  On a little-endian host these are each other's reverse.
-/

namespace Vortex.Ebpf

open Lib

/-! ## `xdp_drop.c` -/

/-- The actions returned by the program. -/
inductive XdpAction where
  | pass
  | drop
  deriving DecidableEq, Repr

/-- `ETH_P_IP`. -/
def ethPIp : UInt16 := 0x0800

/-- `bpf_htons`: swaps the two bytes on a little-endian host. -/
def bpfHtons : Endian → UInt16 → UInt16
  | .big, value => value
  | .little, value => .ofNat (value.toNat % 256 * 256 + value.toNat / 256)

/-- A byte of the frame; the program reads only below `data_end`. -/
def byteAt (frame : List UInt8) (offset : ℕ) : UInt8 := frame.getD offset 0

/-- `ip->saddr` as it lies in the frame: the Ethernet header has 14 bytes and
the source address starts 12 bytes into the IPv4 header. -/
def saddr (frame : List UInt8) : Bytes4 where
  b0 := byteAt frame 26
  b1 := byteAt frame 27
  b2 := byteAt frame 28
  b3 := byteAt frame 29

/-- `xdp_prog`. The boundary checks compare the ends of the Ethernet header (14
bytes) and of the IPv4 header (20 more) with `data_end`. -/
def xdpProg (endian : Endian) (blockedIps : BlockedIps) (frame : List UInt8) :
    XdpAction :=
  if 14 > frame.length then .pass
  else if endian.load16 (byteAt frame 12) (byteAt frame 13) ≠ bpfHtons endian ethPIp then
    .pass
  else if 34 > frame.length then .pass
  else
    let srcIp := endian.load32 (saddr frame)
    match blockedIps.lookup (endian.store32 srcIp) with
    | some blocked => if endian.load32 blocked = 1 then .drop else .pass
    | none => .pass

/-! ## Sequences of user-space calls -/

/-- A `block_ip` or `unblock_ip` call on an IPv4 address. -/
inductive Call where
  | block (addr : Ipv4Addr)
  | unblock (addr : Ipv4Addr)
  deriving DecidableEq, Repr

namespace Call

/-- The address of a call. -/
def addr : Call → Ipv4Addr
  | .block addr => addr
  | .unblock addr => addr

/-- Whether the call is a `block_ip`. -/
def isBlock : Call → Bool
  | .block _ => true
  | .unblock _ => false

/-- Perform a call on the real limiter. -/
def perform (endian : Endian) (map : BlockedIps) :
    Call → Except BoundedMap.Error BlockedIps
  | .block addr => (linuxXdpLimiter endian).blockIp map (.v4 addr)
  | .unblock addr => (linuxXdpLimiter endian).unblockIp map (.v4 addr)

end Call

/-- Perform calls in order, stopping at the first failure. -/
def performAll (endian : Endian) (calls : List Call) :
    Except BoundedMap.Error BlockedIps :=
  calls.foldlM (Call.perform endian) .empty

/-- Whether the latest call on an address was `block_ip`. -/
def latestIsBlock (calls : List Call) (addr : Ipv4Addr) : Bool :=
  calls.foldl (fun latest call => if call.addr = addr then call.isBlock else latest) false

/-- What the program is for: drop the IPv4 frames whose source address is
blocked by the latest call on it. -/
def ShouldDrop (calls : List Call) (frame : List UInt8) : Prop :=
  34 ≤ frame.length ∧ frame[12]? = some 0x08 ∧ frame[13]? = some 0x00 ∧
    latestIsBlock calls ⟨saddr frame⟩ = true

instance (calls : List Call) (frame : List UInt8) : Decidable (ShouldDrop calls frame) :=
  inferInstanceAs (Decidable (_ ∧ _ ∧ _ ∧ _))

@[simp] theorem latestIsBlock_concat (calls : List Call) (call : Call)
    (addr : Ipv4Addr) :
    latestIsBlock (calls ++ [call]) addr =
      if call.addr = addr then call.isBlock else latestIsBlock calls addr := by
  simp [latestIsBlock]

/-- One successful call rewrites the entry of its own address. -/
theorem Call.lookup_perform {endian : Endian} {map next : BlockedIps} {call : Call}
    (performed : call.perform endian map = .ok next) (query : Ipv4Addr) :
    next.lookup (mapKey endian query) =
      if call.addr = query then
        if call.isBlock then some (endian.store32 1) else none
      else map.lookup (mapKey endian query) := by
  have sameKey : mapKey endian query = mapKey endian call.addr ↔ call.addr = query := by
    constructor
    · intro equal
      exact (mapKey_injective endian equal).symm
    · intro equal
      rw [equal]
  cases call with
  | block addr =>
      rw [BoundedMap.lookup_insert performed]
      simp only [Call.addr] at sameKey
      simp [sameKey, Call.addr, Call.isBlock]
  | unblock addr =>
      rw [BoundedMap.lookup_remove performed]
      simp only [Call.addr] at sameKey
      simp [sameKey, Call.addr, Call.isBlock]

/-- After successful calls the map holds exactly the addresses whose latest
call was `block_ip`, each under its key with the value 1. -/
theorem lookup_performAll {endian : Endian} {calls : List Call} {map : BlockedIps}
    (performed : performAll endian calls = .ok map) (query : Ipv4Addr) :
    map.lookup (mapKey endian query) =
      if latestIsBlock calls query then some (endian.store32 1) else none := by
  induction calls using List.reverseRecOn generalizing map with
  | nil =>
      cases performed
      simp [latestIsBlock]
  | append_singleton calls call ih =>
      unfold performAll at performed ih
      rw [List.foldlM_append] at performed
      cases earlier : calls.foldlM (Call.perform endian) BoundedMap.empty with
      | error error =>
          rw [earlier] at performed
          cases performed
      | ok previous =>
          rw [earlier] at performed
          have last : call.perform endian previous = .ok map := by
            change call.perform endian previous >>= pure = .ok map at performed
            rwa [bind_pure] at performed
          rw [Call.lookup_perform last, ih earlier, latestIsBlock_concat]
          split <;> rfl

/-! ## What the program decides -/

/-- On either host the protocol test accepts exactly the bytes `08 00`. -/
theorem load16_eq_ethPIp_iff (endian : Endian) (first second : UInt8) :
    endian.load16 first second = bpfHtons endian ethPIp ↔
      first = 0x08 ∧ second = 0x00 := by
  have firstLt := first.toNat_lt
  have secondLt := second.toNat_lt
  have eight : (0x08 : UInt8).toNat = 8 := rfl
  have zero : (0x00 : UInt8).toNat = 0 := rfl
  rw [← UInt16.toNat_inj, ← UInt8.toNat_inj, ← UInt8.toNat_inj, eight, zero]
  cases endian with
  | big =>
      have protocol : (bpfHtons .big ethPIp).toNat = 2048 := by decide
      rw [protocol, Endian.load16, UInt16.toNat_ofNat']
      omega
  | little =>
      have protocol : (bpfHtons .little ethPIp).toNat = 8 := by decide
      rw [protocol, Endian.load16, UInt16.toNat_ofNat']
      omega

theorem byteAt_eq_iff {frame : List UInt8} {offset : ℕ} (inside : offset < frame.length)
    (value : UInt8) : byteAt frame offset = value ↔ frame[offset]? = some value := by
  simp [byteAt, List.getElem?_eq_getElem inside]

/-- The program drops exactly the complete IPv4 frames whose source bytes are
filed with the value 1. -/
theorem xdpProg_eq_drop_iff (endian : Endian) (blockedIps : BlockedIps)
    (frame : List UInt8) :
    xdpProg endian blockedIps frame = .drop ↔
      34 ≤ frame.length ∧ frame[12]? = some 0x08 ∧ frame[13]? = some 0x00 ∧
        ∃ blocked, blockedIps.lookup (saddr frame) = some blocked ∧
          endian.load32 blocked = 1 := by
  unfold xdpProg
  split
  · next short =>
      simp only [reduceCtorEq, false_iff]
      omega
  · next ethernet =>
      have type := load16_eq_ethPIp_iff endian (byteAt frame 12) (byteAt frame 13)
      rw [byteAt_eq_iff (by omega), byteAt_eq_iff (by omega)] at type
      split
      · next other =>
          simp only [reduceCtorEq, false_iff]
          intro conditions
          exact other (type.mpr ⟨conditions.2.1, conditions.2.2.1⟩)
      · next ipv4 =>
          rw [not_ne_iff] at ipv4
          have bytes := type.mp ipv4
          split
          · next short =>
              simp only [reduceCtorEq, false_iff]
              omega
          · next complete =>
              simp only [Endian.store32_load32]
              cases found : blockedIps.lookup (saddr frame) with
              | none => simp
              | some blocked =>
                  simp only [Option.some.injEq, exists_eq_left']
                  split
                  · next one => simp [one, bytes, Nat.le_of_not_lt complete]
                  · next other => simp [other]

/-- After successful calls on a little-endian host, the program drops the frames
whose source address, read backwards, is blocked. -/
theorem xdpProg_little_eq_drop_iff {calls : List Call} {map : BlockedIps}
    (performed : performAll .little calls = .ok map) (frame : List UInt8) :
    xdpProg .little map frame = .drop ↔
      34 ≤ frame.length ∧ frame[12]? = some 0x08 ∧ frame[13]? = some 0x00 ∧
        latestIsBlock calls ⟨(saddr frame).reverse⟩ = true := by
  have stored := lookup_performAll performed ⟨(saddr frame).reverse⟩
  rw [mapKey_little, Bytes4.reverse_reverse] at stored
  have one : Endian.little.load32 (Endian.little.store32 1) = 1 := by decide
  rw [xdpProg_eq_drop_iff, stored]
  cases latestIsBlock calls ⟨(saddr frame).reverse⟩ <;> simp [one]

/-- With only two actions, a verdict is determined by when it is `drop`. -/
theorem XdpAction.eq_ite_iff (action : XdpAction) (condition : Prop)
    [Decidable condition] :
    action = (if condition then .drop else .pass) ↔ (action = .drop ↔ condition) := by
  cases action <;> by_cases holds : condition <;> simp [holds]

/-- On a little-endian host, user space and the program agree about a frame
exactly when it is not a complete IPv4 frame or its source address and that
address's byte reversal are both blocked or both not. -/
theorem xdp_agrees_iff {calls : List Call} {map : BlockedIps}
    (performed : performAll .little calls = .ok map) (frame : List UInt8) :
    xdpProg .little map frame = (if ShouldDrop calls frame then .drop else .pass) ↔
      frame.length < 34 ∨ frame[12]? ≠ some 0x08 ∨ frame[13]? ≠ some 0x00 ∨
        latestIsBlock calls ⟨saddr frame⟩ =
          latestIsBlock calls ⟨(saddr frame).reverse⟩ := by
  rw [XdpAction.eq_ite_iff, xdpProg_little_eq_drop_iff performed, ShouldDrop]
  by_cases complete : 34 ≤ frame.length
  · by_cases first : frame[12]? = some 0x08
    · by_cases second : frame[13]? = some 0x00
      · simp only [complete, first, second, true_and, Nat.not_lt.mpr complete, false_or,
          ne_eq, not_true_eq_false]
        rw [← Bool.eq_iff_iff]
        exact eq_comm
      · simp [second]
    · simp [first]
  · simp [complete, Nat.lt_of_not_le complete]

/-- The frame of an IPv4 packet from 10.0.0.1 with nothing after its headers. -/
def frameFromTenOne : List UInt8 :=
  List.replicate 12 0 ++ [0x08, 0x00] ++ List.replicate 12 0 ++ [10, 0, 0, 1] ++
    List.replicate 4 0

/-- The frame of an IPv4 packet from 10.0.0.10, whose bytes read the same backwards. -/
def frameFromTenTen : List UInt8 :=
  List.replicate 12 0 ++ [0x08, 0x00] ++ List.replicate 12 0 ++ [10, 0, 0, 10] ++
    List.replicate 4 0

/-- Blocking the palindromic address 10.0.0.10 drops its frames, as it should. -/
theorem xdp_agrees_iff_palindrome :
    ∃ map, performAll .little [.block ⟨⟨10, 0, 0, 10⟩⟩] = .ok map ∧
      ShouldDrop [.block ⟨⟨10, 0, 0, 10⟩⟩] frameFromTenTen ∧
      xdpProg .little map frameFromTenTen =
        (if ShouldDrop [.block ⟨⟨10, 0, 0, 10⟩⟩] frameFromTenTen then .drop else .pass) :=
  ⟨_, rfl, by decide, (xdp_agrees_iff rfl frameFromTenTen).mpr (by decide)⟩

/-- After blocking 10.0.0.1 its frames should be dropped, but the program lets
them pass. -/
theorem xdp_agrees_fails :
    ∃ map, performAll .little [.block ⟨⟨10, 0, 0, 1⟩⟩] = .ok map ∧
      ShouldDrop [.block ⟨⟨10, 0, 0, 1⟩⟩] frameFromTenOne ∧
      xdpProg .little map frameFromTenOne = .pass :=
  ⟨_, rfl, by decide, by decide⟩

end Vortex.Ebpf
