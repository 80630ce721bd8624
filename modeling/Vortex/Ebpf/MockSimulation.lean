import Vortex.Ebpf.Limiter

/-!
# What the mock limiter simulates

A caller sees a limiter through the four calls of `XdpRateLimiter`.  The mock is
an unbounded set in which no call fails; the real limiter keeps IPv4 addresses
only, has room for a fixed number of them, and passes on the error of removing an
absent key.

The two answer alike as long as addresses blocked are IPv4 and fit into the map,
and IPv4 addresses unblocked are blocked.  The first call outside of this tells
them apart.
-/

namespace Vortex.Ebpf

open Lib

/-- A call through the trait. -/
inductive LimiterCall where
  | blockIp (ip : IpAddr)
  | unblockIp (ip : IpAddr)
  | isIpBlocked (ip : IpAddr)
  | blockedIpCount
  deriving DecidableEq

/-- What a caller sees of a call. -/
inductive LimiterReply where
  | result (ok : Bool)
  | blocked (answer : Bool)
  | count (entries : ℕ)
  deriving DecidableEq, Repr

namespace XdpRateLimiter

variable {σ ε : Type} (limiter : XdpRateLimiter σ ε)

/-- What a call that may fail leaves and returns. -/
def outcome (state : σ) : Except ε σ → σ × LimiterReply
  | .ok next => (next, .result true)
  | .error _ => (state, .result false)

/-- Serve one call. -/
def serve (state : σ) : LimiterCall → σ × LimiterReply
  | .blockIp ip => outcome state (limiter.blockIp state ip)
  | .unblockIp ip => outcome state (limiter.unblockIp state ip)
  | .isIpBlocked ip => (state, .blocked (limiter.isIpBlocked state ip))
  | .blockedIpCount => (state, .count (limiter.blockedIpCount state))

/-- The state after a sequence of calls. -/
def after (state : σ) (calls : List LimiterCall) : σ :=
  calls.foldl (fun state call => (limiter.serve state call).1) state

/-- The replies to a sequence of calls. -/
def replies : σ → List LimiterCall → List LimiterReply
  | _, [] => []
  | state, call :: calls =>
      (limiter.serve state call).2 :: replies (limiter.serve state call).1 calls

theorem replies_append (state : σ) (earlier later : List LimiterCall) :
    limiter.replies state (earlier ++ later) =
      limiter.replies state earlier ++ limiter.replies (limiter.after state earlier) later := by
  induction earlier generalizing state with
  | nil => rfl
  | cons call earlier ih =>
      rw [List.cons_append, replies, ih, replies, List.cons_append]
      rfl

end XdpRateLimiter

/-! ## Where the two agree -/

/-- The real limiter treats the call as a set of the blocked addresses would. -/
def Supported (blocked : Finset IpAddr) : LimiterCall → Prop
  | .blockIp (.v4 addr) => .v4 addr ∈ blocked ∨ blocked.card < maxEntries
  | .blockIp (.v6 _) => False
  | .unblockIp (.v4 addr) => .v4 addr ∈ blocked
  | .unblockIp (.v6 _) => True
  | .isIpBlocked _ => True
  | .blockedIpCount => True

instance (blocked : Finset IpAddr) : (call : LimiterCall) → Decidable (Supported blocked call)
  | .blockIp (.v4 _) => inferInstanceAs (Decidable (_ ∨ _))
  | .blockIp (.v6 _) => inferInstanceAs (Decidable False)
  | .unblockIp (.v4 addr) => inferInstanceAs (Decidable (IpAddr.v4 addr ∈ blocked))
  | .unblockIp (.v6 _) => inferInstanceAs (Decidable True)
  | .isIpBlocked _ => inferInstanceAs (Decidable True)
  | .blockedIpCount => inferInstanceAs (Decidable True)

/-- Each call of a sequence is supported when it is made. -/
def AllSupported : Finset IpAddr → List LimiterCall → Prop
  | _, [] => True
  | blocked, call :: calls =>
      Supported blocked call ∧ AllSupported (mockXdpLimiter.serve blocked call).1 calls

instance decidableAllSupported :
    (blocked : Finset IpAddr) → (calls : List LimiterCall) → Decidable (AllSupported blocked calls)
  | _, [] => isTrue trivial
  | blocked, call :: calls =>
      have := decidableAllSupported (mockXdpLimiter.serve blocked call).1 calls
      inferInstanceAs (Decidable (_ ∧ _))

/-- The map and the set hold the same addresses. -/
structure SameAddresses (endian : Endian) (blocked : Finset IpAddr) (map : BlockedIps) : Prop where
  mem : ∀ ip, ip ∈ blocked ↔ (linuxXdpLimiter endian).isIpBlocked map ip = true
  count : map.table.keys.length = blocked.card

section Step

variable {endian : Endian} {blocked : Finset IpAddr} {map : BlockedIps}

theorem isIpBlocked_v4 (addr : Ipv4Addr) :
    (linuxXdpLimiter endian).isIpBlocked map (.v4 addr) = true ↔
      mapKey endian addr ∈ map.table := by
  change (map.table.lookup (mapKey endian addr)).isSome = true ↔ _
  exact AList.lookup_isSome

theorem SameAddresses.empty : SameAddresses endian ∅ .empty where
  mem := by
    intro ip
    cases ip with
    | v4 addr => simp [linuxXdpLimiter]
    | v6 addr => simp [linuxXdpLimiter]
  count := rfl

theorem SameAddresses.mem_table (same : SameAddresses endian blocked map) (addr : Ipv4Addr) :
    mapKey endian addr ∈ map.table ↔ IpAddr.v4 addr ∈ blocked := by
  rw [same.mem, isIpBlocked_v4]

theorem SameAddresses.not_mem_v6 (same : SameAddresses endian blocked map) (addr : Ipv6Addr) :
    IpAddr.v6 addr ∉ blocked := by
  rw [same.mem]
  exact Bool.false_ne_true

/-- Blocking an IPv4 address that fits. -/
theorem SameAddresses.blockIp (same : SameAddresses endian blocked map) {addr : Ipv4Addr}
    (room : .v4 addr ∈ blocked ∨ blocked.card < maxEntries) :
    ∃ next, (linuxXdpLimiter endian).blockIp map (.v4 addr) = .ok next ∧
      SameAddresses endian (insert (.v4 addr) blocked) next := by
  rw [← same.mem_table, ← same.count] at room
  rcases BoundedMap.insert_ok (endian.store32 1) room with ⟨next, inserted⟩
  refine ⟨next, inserted, ?_, ?_⟩
  · intro ip
    cases ip with
    | v4 other =>
        rw [Finset.mem_insert, isIpBlocked_v4, BoundedMap.table_insert inserted, AList.mem_insert,
          same.mem_table, (mapKey_injective endian).eq_iff, IpAddr.v4.injEq]
    | v6 other => simp [linuxXdpLimiter, same.not_mem_v6 other]
  · rw [BoundedMap.length_insert inserted, same.count]
    split
    · next present => rw [Finset.card_insert_of_mem (same.mem_table addr |>.mp present)]
    · next absent =>
        rw [Finset.card_insert_of_notMem fun present => absent (same.mem_table addr |>.mpr present)]

/-- Unblocking an IPv4 address that is blocked. -/
theorem SameAddresses.unblockIp (same : SameAddresses endian blocked map) {addr : Ipv4Addr}
    (present : .v4 addr ∈ blocked) :
    ∃ next, (linuxXdpLimiter endian).unblockIp map (.v4 addr) = .ok next ∧
      SameAddresses endian (blocked.erase (.v4 addr)) next := by
  have inTable := (same.mem_table addr).mpr present
  rcases BoundedMap.remove_ok inTable with ⟨next, removed⟩
  refine ⟨next, removed, ?_, ?_⟩
  · intro ip
    cases ip with
    | v4 other =>
        rw [Finset.mem_erase, isIpBlocked_v4, BoundedMap.table_remove removed, AList.mem_erase,
          same.mem_table, (mapKey_injective endian).ne_iff, Ne, IpAddr.v4.injEq]
    | v6 other => simp [linuxXdpLimiter, same.not_mem_v6 other]
  · rw [BoundedMap.length_remove inTable removed, same.count, Finset.card_erase_of_mem present]

/-- A supported call gets the same reply and keeps the two together. -/
theorem SameAddresses.serve (same : SameAddresses endian blocked map) {call : LimiterCall}
    (supported : Supported blocked call) :
    (mockXdpLimiter.serve blocked call).2 = ((linuxXdpLimiter endian).serve map call).2 ∧
      SameAddresses endian (mockXdpLimiter.serve blocked call).1
        ((linuxXdpLimiter endian).serve map call).1 := by
  cases call with
  | blockIp ip =>
      cases ip with
      | v4 addr =>
          rcases same.blockIp supported with ⟨next, inserted, sameNext⟩
          rw [XdpRateLimiter.serve, XdpRateLimiter.serve, inserted]
          exact ⟨rfl, sameNext⟩
      | v6 addr => exact supported.elim
  | unblockIp ip =>
      cases ip with
      | v4 addr =>
          rcases same.unblockIp supported with ⟨next, removed, sameNext⟩
          rw [XdpRateLimiter.serve, XdpRateLimiter.serve, removed]
          exact ⟨rfl, sameNext⟩
      | v6 addr =>
          refine ⟨rfl, ?_⟩
          change SameAddresses endian (blocked.erase (.v6 addr)) map
          rwa [Finset.erase_eq_of_notMem (same.not_mem_v6 addr)]
  | isIpBlocked ip =>
      refine ⟨?_, same⟩
      change LimiterReply.blocked (decide (ip ∈ blocked)) =
        .blocked ((linuxXdpLimiter endian).isIpBlocked map ip)
      simp only [same.mem ip, Bool.decide_eq_true]
  | blockedIpCount =>
      refine ⟨?_, same⟩
      change LimiterReply.count blocked.card = .count map.table.keys.length
      rw [same.count]

/-- A call that is not supported is told apart, at the latest by the count. -/
theorem SameAddresses.differ (same : SameAddresses endian blocked map) {call : LimiterCall}
    (unsupported : ¬Supported blocked call) :
    mockXdpLimiter.replies blocked [call, .blockedIpCount] ≠
      (linuxXdpLimiter endian).replies map [call, .blockedIpCount] := by
  cases call with
  | blockIp ip =>
      cases ip with
      | v4 addr =>
          simp only [Supported, not_or, not_lt] at unsupported
          rcases unsupported with ⟨absent, full⟩
          rw [← same.mem_table] at absent
          rw [← same.count] at full
          have failed : (linuxXdpLimiter endian).blockIp map (.v4 addr) = .error .full :=
            BoundedMap.insert_full _ absent full
          simp [XdpRateLimiter.replies, XdpRateLimiter.serve, failed, mockXdpLimiter,
            XdpRateLimiter.outcome]
      | v6 addr =>
          have counted := Finset.card_insert_of_notMem (same.not_mem_v6 addr)
          simp [XdpRateLimiter.replies, XdpRateLimiter.serve, mockXdpLimiter, linuxXdpLimiter,
            XdpRateLimiter.outcome, counted, same.count]
  | unblockIp ip =>
      cases ip with
      | v4 addr =>
          simp only [Supported] at unsupported
          rw [← same.mem_table] at unsupported
          have failed : (linuxXdpLimiter endian).unblockIp map (.v4 addr) = .error .absent :=
            BoundedMap.remove_absent unsupported
          simp [XdpRateLimiter.replies, XdpRateLimiter.serve, failed, mockXdpLimiter,
            XdpRateLimiter.outcome]
      | v6 addr => exact absurd trivial unsupported
  | isIpBlocked ip => exact absurd trivial unsupported
  | blockedIpCount => exact absurd trivial unsupported

end Step

theorem SameAddresses.run {endian : Endian} {blocked : Finset IpAddr} {map : BlockedIps}
    (same : SameAddresses endian blocked map) {calls : List LimiterCall}
    (supported : AllSupported blocked calls) :
    mockXdpLimiter.replies blocked calls = (linuxXdpLimiter endian).replies map calls ∧
      SameAddresses endian (mockXdpLimiter.after blocked calls)
        ((linuxXdpLimiter endian).after map calls) := by
  induction calls generalizing blocked map with
  | nil => exact ⟨rfl, same⟩
  | cons call calls ih =>
      rcases supported with ⟨supportedCall, supportedRest⟩
      rcases same.serve supportedCall with ⟨reply, sameNext⟩
      rcases ih sameNext supportedRest with ⟨replies, sameFinal⟩
      refine ⟨?_, sameFinal⟩
      rw [XdpRateLimiter.replies, XdpRateLimiter.replies, reply, replies]

/-- `127.0.0.1`. -/
def loopback : IpAddr := .v4 ⟨⟨127, 0, 0, 1⟩⟩

/-- `::1`. -/
def loopback6 : IpAddr := .v6 ⟨⟨#[0, 0, 0, 0, 0, 0, 0, 1], rfl⟩⟩

/-- The mock and the real limiter reply alike to every sequence of supported
calls, and the first call that is not supported tells them apart. -/
theorem mock_simulates_linux (endian : Endian) :
    (∀ calls, AllSupported ∅ calls →
        mockXdpLimiter.replies ∅ calls = (linuxXdpLimiter endian).replies .empty calls) ∧
      ∀ calls call, AllSupported ∅ calls → ¬Supported (mockXdpLimiter.after ∅ calls) call →
        mockXdpLimiter.replies ∅ (calls ++ [call, .blockedIpCount]) ≠
          (linuxXdpLimiter endian).replies .empty (calls ++ [call, .blockedIpCount]) := by
  constructor
  · intro calls supported
    exact (SameAddresses.empty.run supported).1
  · intro calls call supported unsupported equal
    have start : SameAddresses endian ∅ .empty := .empty
    rcases start.run supported with ⟨replies, same⟩
    rw [XdpRateLimiter.replies_append, XdpRateLimiter.replies_append, replies] at equal
    exact same.differ unsupported (List.append_cancel_left equal)

/-- An IPv4 address that is blocked, blocked again, and unblocked; unblocking it
once more is the first call that tells the two limiters apart. -/
theorem mock_simulates_linux_once :
    mockXdpLimiter.replies ∅
          [.blockIp loopback, .blockIp loopback, .isIpBlocked loopback, .unblockIp loopback] =
        (linuxXdpLimiter .little).replies .empty
          [.blockIp loopback, .blockIp loopback, .isIpBlocked loopback, .unblockIp loopback] ∧
      mockXdpLimiter.replies ∅
          ([.blockIp loopback, .unblockIp loopback] ++ [.unblockIp loopback, .blockedIpCount]) ≠
        (linuxXdpLimiter .little).replies .empty
          ([.blockIp loopback, .unblockIp loopback] ++ [.unblockIp loopback, .blockedIpCount]) := by
  rcases mock_simulates_linux .little with ⟨alike, apart⟩
  exact ⟨alike _ (by decide), apart _ _ (by decide) (by decide)⟩

/-- The limiters differ on IPv6 addresses, which the real one ignores, and on
unblocking an address that is not blocked. -/
theorem mock_differs_from_linux :
    mockXdpLimiter.replies ∅ [.blockIp loopback6, .isIpBlocked loopback6] =
        [.result true, .blocked true] ∧
      (linuxXdpLimiter .little).replies .empty [.blockIp loopback6, .isIpBlocked loopback6] =
        [.result true, .blocked false] ∧
      mockXdpLimiter.replies ∅ [.unblockIp loopback] = [.result true] ∧
      (linuxXdpLimiter .little).replies .empty [.unblockIp loopback] = [.result false] := by
  decide

end Vortex.Ebpf
