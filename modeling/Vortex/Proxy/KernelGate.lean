import Vortex.Proxy.KernelBans

/-!
# Requests that the kernel lets through

A request only arrives if the kernel lets its frames pass, and what the kernel drops depends
on the requests that were refused before.  This closes the loop between the gate and the XDP
program.

For an address that is filed under its own bytes the loop works: a client that has been
refused does not come back for 300 seconds.  On a little-endian host this is so only for
addresses that read the same backwards; any other client that is refused may go on at once.
-/

namespace Vortex.Proxy

open Vortex.Core Ebpf Filters Lib

/-! ## Frames and addresses -/

/-- The kernel lets the frames of an address pass. -/
def LetsPass (endian : Endian) (map : BlockedIps) (addr : Ipv4Addr) : Prop :=
  ∀ frame, IsIpv4 frame → saddr frame = addr.octets → xdpProg endian map frame = .pass

/-- The headers of a packet from an address. -/
def frameFrom (addr : Ipv4Addr) : List UInt8 :=
  List.replicate 12 0 ++ [0x08, 0x00] ++ List.replicate 12 0 ++
    [addr.octets.b0, addr.octets.b1, addr.octets.b2, addr.octets.b3] ++ List.replicate 4 0

theorem isIpv4_frameFrom (addr : Ipv4Addr) : IsIpv4 (frameFrom addr) :=
  ⟨le_refl 34, rfl, rfl⟩

theorem saddr_frameFrom (addr : Ipv4Addr) : saddr (frameFrom addr) = addr.octets := rfl

theorem filedUnder_octets {endian : Endian} {addr : Ipv4Addr}
    (own : mapKey endian addr = addr.octets) : filedUnder endian addr.octets = addr := by
  apply mapKey_injective endian
  rw [mapKey_filedUnder, own]

/-! ## Requests through the kernel -/

section Gated

variable {HeaderValue : Type} (endian : Endian) (toStr : HeaderValue → Option String)
  (display : IpAddr → String)

/-- Each request of an IPv4 client arrives when the kernel lets its frames pass. -/
def KernelGated (keys : Keyspace) (events : List (ℕ × GateEvent HeaderValue)) : Prop :=
  ∀ before instant addr request after,
    events = before ++ (instant, .request (.v4 addr) request) :: after →
      LetsPass endian (linuxGate endian toStr display keys before).manager.state addr

variable {endian} {toStr} {display} {keys : Keyspace}

/-- The kernel lets pass what is not in the map. -/
theorem letsPass_of_lookup {map : BlockedIps} {addr : Ipv4Addr}
    (absent : map.lookup addr.octets = none) : LetsPass endian map addr := by
  intro frame _ source
  cases action : xdpProg endian map frame with
  | pass => rfl
  | drop =>
      rcases ((xdpProg_eq_drop_iff endian map frame).mp action).2.2.2 with ⟨blocked, found, _⟩
      rw [source, absent] at found
      cases found

/-- Only a refusal of the client filed under the bytes of an address stops its frames. -/
theorem letsPass_of_not_refused {events : List (ℕ × GateEvent HeaderValue)} {addr : Ipv4Addr}
    (unrefused : ∀ instant, ¬RefusedSince endian toStr display keys events
      (.v4 (filedUnder endian addr.octets)) instant) :
    LetsPass endian (linuxGate endian toStr display keys events).manager.state addr := by
  intro frame _ source
  cases action : xdpProg endian (linuxGate endian toStr display keys events).manager.state frame with
  | pass => rfl
  | drop =>
      rcases refusedSince_of_drop action with ⟨_, instant, refused⟩
      rw [source] at refused
      exact absurd refused (unrefused instant)

/-- A client whose address is filed under its own bytes does not get through for 300 seconds
after a refusal. -/
theorem second_of_refused {before between after : List (ℕ × GateEvent HeaderValue)}
    {addr : Ipv4Addr} (own : mapKey endian addr = addr.octets) {first second : ℕ}
    {request again : Request HeaderValue}
    (clock : (before ++ (first, .request (.v4 addr) request) :: between ++
      (second, .request (.v4 addr) again) :: after).Pairwise
        fun earlier later => earlier.1 ≤ later.1)
    (fits : (ipv4Clients (before ++ (first, .request (.v4 addr) request) :: between ++
      (second, .request (.v4 addr) again) :: after)).card ≤ maxEntries)
    (gated : KernelGated endian toStr display keys
      (before ++ (first, .request (.v4 addr) request) :: between ++
        (second, .request (.v4 addr) again) :: after))
    (refused : (applyRateLimit toStr display (.v4 addr)
      (linuxGate endian toStr display keys before).keys request).2.passes = false) :
    first + 300 ≤ second := by
  rcases List.pairwise_append.mp clock with ⟨earlierClock, _, ordered⟩
  by_contra soon
  -- Otherwise no tick in between could have lifted the ban.
  have early : ∀ tick, (tick, .tick) ∈ between → tick < first + 300 := by
    intro tick member
    have inside := List.mem_append_right before (List.mem_cons_of_mem
      (first, GateEvent.request (.v4 addr) request) member)
    exact (ordered _ inside _ List.mem_cons_self).trans_lt (Nat.lt_of_not_le soon)
  have since : RefusedSince endian toStr display keys
      (before ++ (first, .request (.v4 addr) request) :: between) (.v4 addr) first :=
    ⟨before, request, between, rfl, refused, early⟩
  have enough := (Finset.card_le_card (ipv4Clients_subset _ _)).trans fits
  have dropped : xdpProg endian (linuxGate endian toStr display keys
      (before ++ (first, .request (.v4 addr) request) :: between)).manager.state
        (frameFrom addr) = .drop := by
    apply drop_of_refusedSince earlierClock enough (isIpv4_frameFrom addr)
    rw [saddr_frameFrom, filedUnder_octets own]
    exact since
  have passed := gated _ second addr again after rfl (frameFrom addr) (isIpv4_frameFrom addr) rfl
  rw [dropped] at passed
  cases passed

/-- **A refused client pauses.** When requests arrive only through the kernel, the clock does
not go back and at most `max_entries` IPv4 addresses send requests, a client whose address is
filed under its own bytes sends nothing for 300 seconds after it was refused. -/
theorem refused_client_pauses {events before between after : List (ℕ × GateEvent HeaderValue)}
    {addr : Ipv4Addr} (own : mapKey endian addr = addr.octets) {first second : ℕ}
    {request again : Request HeaderValue}
    (clock : events.Pairwise fun earlier later => earlier.1 ≤ later.1)
    (fits : (ipv4Clients events).card ≤ maxEntries)
    (gated : KernelGated endian toStr display keys events)
    (split : events = before ++ (first, .request (.v4 addr) request) :: between ++
      (second, .request (.v4 addr) again) :: after)
    (refused : (applyRateLimit toStr display (.v4 addr)
      (linuxGate endian toStr display keys before).keys request).2.passes = false) :
    first + 300 ≤ second := by
  subst split
  exact second_of_refused own clock fits gated refused

end Gated

/-- The client is refused, and comes back after the tick that lifts the ban. -/
def pausedEvents : List (ℕ × GateEvent String) :=
  [(0, .request firstClient (aiRequest "gpt-4" "1100")), (300, .tick),
    (301, .request firstClient (aiRequest "gpt-4" "5"))]

theorem refused_client_pauses_once :
    KernelGated .big some clientText (fun _ => none) pausedEvents ∧ 0 + 300 ≤ 301 := by
  have gated : KernelGated .big some clientText (fun _ => none) pausedEvents := by
    intro before instant addr request after split
    rcases before with _ | ⟨first, _ | ⟨second, _ | ⟨third, before⟩⟩⟩
    · cases split
      exact letsPass_of_lookup rfl
    · cases split
    · cases split
      exact letsPass_of_lookup (by decide +kernel)
    · cases before <;> cases split
  have refused : (applyRateLimit some clientText firstClient
      (linuxGate .big some clientText (fun _ => none) []).keys
      (aiRequest "gpt-4" "1100")).2.passes = false := by decide +kernel
  exact ⟨gated, @refused_client_pauses _ .big some clientText (fun _ => none) pausedEvents []
    [(300, .tick)] [] ⟨⟨10, 0, 0, 1⟩⟩ (mapKey_big _) 0 301 _ (aiRequest "gpt-4" "5") (by decide)
    (by decide) gated rfl refused⟩

/-! ## Bans without effect -/

section Unimpeded

variable {HeaderValue : Type} {endian : Endian} {toStr : HeaderValue → Option String}
  {display : IpAddr → String} {keys : Keyspace}

/-- A refused request leaves the store as it was. -/
theorem applyRateLimit_keys_of_refused {ip : IpAddr} {request : Request HeaderValue}
    (refused : (applyRateLimit toStr display ip keys request).2.passes = false) :
    (applyRateLimit toStr display ip keys request).1 = keys := by
  cases reachable : request.reachable with
  | false => simp only [applyRateLimit, checkRateLimit, reachable, Bool.false_eq_true, if_false]
  | true =>
      simp only [applyRateLimit, checkRateLimit, reachable, if_true] at refused ⊢
      have denied : allowedReply (gcraScript 1000 60000 (keys (rateLimitKey display ip))
          { request.moment with cost := requestCost toStr request.headers }).2 = false := by
        cases answered : (gcraScript 1000 60000 (keys (rateLimitKey display ip))
            { request.moment with cost := requestCost toStr request.headers }).2 with
        | error error => rfl
        | ok reply =>
            rw [← decodeReply_allowed]
            cases allowed : (decodeReply reply).allowed with
            | false => rfl
            | true =>
                simp only [answered, decodeOutcome, allowed, Bool.not_true, Bool.false_eq_true,
                  if_false, Verdict.passes] at refused
                exact refused
      rw [gcraScript_slot_of_not_admitted denied, Function.update_eq_self]

/-- The store after refused requests is the store before. -/
theorem keys_linuxGate_replicate {ip : IpAddr} {request : Request HeaderValue}
    (refused : (applyRateLimit toStr display ip keys request).2.passes = false) (instant : ℕ)
    (count : ℕ) :
    (linuxGate endian toStr display keys
      (List.replicate count (instant, .request ip request))).keys = keys := by
  induction count with
  | zero => rfl
  | succ count ih =>
      rw [List.replicate_succ', linuxGate_concat]
      simp only [GateOf.take, ih]
      exact applyRateLimit_keys_of_refused refused

/-- **A refused client goes on.** On a little-endian host a client whose address does not read
the same backwards can send any number of requests in one second, each through the kernel and
each refused. -/
theorem refused_client_goes_on {addr : Ipv4Addr} (other : addr.octets.reverse ≠ addr.octets)
    {request : Request HeaderValue}
    (refused : (applyRateLimit toStr display (.v4 addr) keys request).2.passes = false)
    (instant count : ℕ) :
    KernelGated .little toStr display keys
        (List.replicate count (instant, .request (.v4 addr) request)) ∧
      ((runGate (linuxXdpLimiter .little) toStr display ⟨keys, .new .empty⟩
        (List.replicate count (instant, .request (.v4 addr) request))).2.map
          fun entry => (entry.1, entry.2.passes)) = List.replicate count (.v4 addr, false) := by
  constructor
  · intro before now sender arrived after split
    have same : ∀ event ∈ before ++ (now, .request (.v4 sender) arrived) :: after,
        event = (instant, .request (.v4 addr) request) := by
      intro event member
      exact List.eq_of_mem_replicate (split ▸ member)
    cases same _ (List.mem_append_right _ List.mem_cons_self)
    apply letsPass_of_not_refused
    intro earlier since
    -- The refusal would be one of the client with the reversed address.
    rcases since with ⟨start, asked, rest, rfl, _⟩
    have reversed := same _ (List.mem_append_left _ (List.mem_append_right _ List.mem_cons_self))
    simp only [Prod.mk.injEq, GateEvent.request.injEq, IpAddr.v4.injEq] at reversed
    exact other (congrArg Ipv4Addr.octets reversed.2.1)
  · induction count with
    | zero => rfl
    | succ count ih =>
        have store := @keys_linuxGate_replicate _ .little toStr display keys _ _ refused instant
          count
        rw [runGate] at ih
        rw [List.replicate_succ', List.replicate_succ', runGate, runOutputs_append, List.map_append,
          ih]
        congr 1
        change List.map _ (runOutputs _ (linuxGate .little toStr display keys
          (List.replicate count (instant, .request (.v4 addr) request))) [_]).2 = _
        simp only [runOutputs, GateOf.take, store, Option.toList_some, List.append_nil,
          List.map_cons, List.map_nil, refused]

end Unimpeded

theorem refused_client_goes_on_thrice :
    KernelGated .little some clientText (fun _ => none)
      (List.replicate 3 (0, .request firstClient (aiRequest "gpt-4" "1100"))) := by
  have refused : (applyRateLimit some clientText firstClient (fun _ => none)
      (aiRequest "gpt-4" "1100")).2.passes = false := by decide +kernel
  exact (@refused_client_goes_on _ some clientText (fun _ => none) ⟨⟨10, 0, 0, 1⟩⟩ (by decide) _
    refused 0 3).1

end Vortex.Proxy
