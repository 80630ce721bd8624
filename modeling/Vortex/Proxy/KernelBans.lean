import Vortex.Ebpf.Xdp
import Vortex.Proxy.Gateway

/-!
# From a refusal to the kernel

The gate with the limiter it really calls.  `BanManager` holds an `XdpRateLimiter` and
learns from its answers whether an address was blocked or unblocked, so over a given
limiter the outcomes that the gate leaves open are determined.  A request together with its
ban is one event, and so is a tick of the sweeper with all that it removes; a ban that
overlaps a sweep is not among the runs here.

Over `LinuxXdpLimiter` the gate writes the map that the XDP program reads.  This is the way
from an answer 429 to a dropped frame.
-/

namespace Vortex.Proxy

open Vortex.Core Ebpf Filters Lib

/-! ## The ban manager over a limiter -/

/-- `BanManager` with a limiter in some state. -/
structure BanManagerOf (σ : Type) where
  state : σ
  bannedIps : AList fun _ : IpAddr => ℕ

namespace BanManagerOf

variable {σ ε : Type} (limiter : XdpRateLimiter σ ε)

/-- `BanManager::new` with a limiter. -/
def new (state : σ) : BanManagerOf σ where
  state
  bannedIps := ∅

/-- `ban_ip` at an instant. -/
def banIp (manager : BanManagerOf σ) (now : ℕ) (ip : IpAddr) (duration : ℕ) : BanManagerOf σ :=
  match limiter.blockIp manager.state ip with
  | .error _ => manager
  | .ok state => { state, bannedIps := manager.bannedIps.insert ip (now + duration) }

/-- The closure of the sweeper's `retain`. -/
def sweepEntry (now : ℕ) (state : σ) (ip : IpAddr) (expiration : ℕ) : σ × Bool :=
  if expiration ≤ now then
    match limiter.unblockIp state ip with
    -- Retry on the next tick.
    | .error _ => (state, true)
    | .ok next => (next, false)
  else (state, true)

/-- One tick of the sweeper. -/
def tick (manager : BanManagerOf σ) (now : ℕ) : BanManagerOf σ :=
  let swept := retain (sweepEntry limiter now) manager.state manager.bannedIps
  { state := swept.1, bannedIps := swept.2 }

end BanManagerOf

/-- The rate store, and the ban manager over a limiter. -/
structure GateOf (σ : Type) where
  keys : Keyspace
  manager : BanManagerOf σ

/-- What happens at the gate from outside. -/
inductive GateEvent (HeaderValue : Type) where
  | request (clientIp : IpAddr) (request : Request HeaderValue)
  | tick

section Gate

variable {HeaderValue σ ε : Type} (limiter : XdpRateLimiter σ ε)
  (toStr : HeaderValue → Option String) (display : IpAddr → String)

/-- One event at its instant, with the verdict on a request. -/
def GateOf.take (gate : GateOf σ) (event : ℕ × GateEvent HeaderValue) :
    GateOf σ × Option (IpAddr × Verdict) :=
  match event.2 with
  | .request clientIp request =>
      let outcome := applyRateLimit toStr display clientIp gate.keys request
      let manager := match outcome.2 with
        | .tooManyRequests ip banSeconds _ => gate.manager.banIp limiter event.1 ip banSeconds
        | .proceed => gate.manager
      ({ keys := outcome.1, manager }, some (clientIp, outcome.2))
  | .tick => ({ gate with manager := gate.manager.tick limiter event.1 }, none)

/-- The gate and its verdicts after some events. -/
def runGate (gate : GateOf σ) (events : List (ℕ × GateEvent HeaderValue)) :
    GateOf σ × List (IpAddr × Verdict) :=
  runOutputs (GateOf.take limiter toStr display) gate events

end Gate

/-! ## Any limiter gives outcomes -/

/-- The event without the outcomes of the limiter's calls. -/
def GatewayEvent.forget {HeaderValue : Type} : GatewayEvent HeaderValue → GateEvent HeaderValue
  | .request clientIp arrived _ => .request clientIp arrived
  | .tick _ => .tick

/-- The gate over a limiter has the store and the entries of the gate. -/
structure Refines {σ : Type} (gate : GateOf σ) (gateway : Gateway) : Prop where
  keys : gate.keys = gateway.keys
  reached : gateway.manager.Reached
  entries : ∀ ip, gate.manager.bannedIps.lookup ip = gateway.manager.bannedIps.lookup ip

section Refinement

variable {HeaderValue σ ε : Type} {limiter : XdpRateLimiter σ ε}
  {toStr : HeaderValue → Option String} {display : IpAddr → String}

/-- A ban succeeds or changes nothing. -/
theorem BanManagerOf.exists_lookup_banIp (manager : BanManagerOf σ) (now : ℕ) (banned : IpAddr)
    (duration : ℕ) :
    ∃ blocks : Bool, ∀ ip, (manager.banIp limiter now banned duration).bannedIps.lookup ip =
      if ip = banned ∧ blocks = true then some (now + duration)
      else manager.bannedIps.lookup ip := by
  simp only [BanManagerOf.banIp]
  split
  · exact ⟨false, fun ip => (if_neg fun both => Bool.false_ne_true both.2).symm⟩
  · refine ⟨true, ?_⟩
    intro ip
    rcases Decidable.eq_or_ne ip banned with rfl | different
    · rw [if_pos ⟨rfl, rfl⟩]
      exact AList.lookup_insert _
    · rw [if_neg fun both => different both.1]
      exact AList.lookup_insert_ne different

/-- A tick keeps the entries that have not expired and those whose `unblock_ip` fails, which
are the expired ones that are still there. -/
theorem BanManagerOf.lookup_tick (manager : BanManagerOf σ) (now : ℕ) (ip : IpAddr) :
    (manager.tick limiter now).bannedIps.lookup ip =
      (manager.bannedIps.lookup ip).filter
        (stays now (fun ip => decide (ip ∈ (manager.tick limiter now).bannedIps)) ip) := by
  ext expiration
  rw [Option.filter_eq_some_iff]
  constructor
  · intro kept
    refine ⟨lookup_of_retain kept, ?_⟩
    have member := AList.lookup_isSome.mp (Option.isSome_of_eq_some kept)
    simp [stays, member]
  · intro remains
    rcases remains with ⟨entry, remains⟩
    simp only [stays, Bool.or_eq_true, decide_eq_true_eq] at remains
    rcases remains with unexpired | kept
    · apply lookup_retain_of_always _ entry
      intro state
      rw [BanManagerOf.sweepEntry, if_neg unexpired.not_ge]
    · rcases Option.isSome_iff_exists.mp (AList.lookup_isSome.mpr kept) with ⟨other, found⟩
      have same := lookup_of_retain found
      rw [entry] at same
      cases same
      exact found

/-- One event over the limiter is that event with the limiter's outcomes. -/
theorem Refines.take {gate : GateOf σ} {gateway : Gateway} (event : ℕ × GateEvent HeaderValue)
    (refines : Refines gate gateway) :
    ∃ resolved : ℕ × GatewayEvent HeaderValue, (resolved.1, resolved.2.forget) = event ∧
      Refines (gate.take limiter toStr display event).1
        (gateway.take toStr display resolved).1 ∧
      (gate.take limiter toStr display event).2 = (gateway.take toStr display resolved).2 := by
  rcases event with ⟨instant, ⟨clientIp, request⟩ | _⟩
  · cases verdict : (applyRateLimit toStr display clientIp gateway.keys request).2 with
    | proceed =>
        refine ⟨(instant, .request clientIp request true), rfl, ?_, ?_⟩
        · simp only [GateOf.take, Gateway.take, refines.keys, verdict]
          exact ⟨rfl, refines.reached, refines.entries⟩
        · simp only [GateOf.take, Gateway.take, refines.keys]
    | tooManyRequests ip banSeconds response =>
        rcases @BanManagerOf.exists_lookup_banIp _ _ limiter gate.manager instant ip banSeconds
          with ⟨blocks, entries⟩
        refine ⟨(instant, .request clientIp request blocks), rfl, ?_, ?_⟩
        · simp only [GateOf.take, Gateway.take, refines.keys, verdict]
          refine ⟨rfl, refines.reached.perform instant (.ban ip banSeconds blocks), ?_⟩
          intro other
          rw [entries, refines.reached.lookup_banIp, refines.entries]
        · simp only [GateOf.take, Gateway.take, refines.keys]
  · refine ⟨(instant, .tick fun ip =>
      decide (ip ∈ (gate.manager.tick limiter instant).bannedIps)), rfl, ?_, rfl⟩
    refine ⟨refines.keys, refines.reached.perform instant (.tick _), ?_⟩
    intro ip
    simp only [GateOf.take, Gateway.take]
    rw [BanManagerOf.lookup_tick, refines.reached.lookup_tick, refines.entries]

/-- **Any limiter gives outcomes.** Whatever the limiter is, a run of the gate over it is a
run of the gate for some outcomes of the limiter's calls: with the same verdicts, the same
store and the same bans. -/
theorem gate_refines_gateway {gate : GateOf σ} {gateway : Gateway}
    (refines : Refines gate gateway) (events : List (ℕ × GateEvent HeaderValue)) :
    ∃ resolved : List (ℕ × GatewayEvent HeaderValue),
      resolved.map (fun event => (event.1, event.2.forget)) = events ∧
      Refines (runGate limiter toStr display gate events).1
        (runGateway toStr display gateway resolved).1 ∧
      (runGate limiter toStr display gate events).2 =
        (runGateway toStr display gateway resolved).2 :=
  runOutputs_refines (fun event refines => refines.take event) refines events

end Refinement

/-- A request of 10.0.0.1 that costs more than the limit. -/
def costlyEvents : List (ℕ × GateEvent String) :=
  [(0, .request firstClient (aiRequest "gpt-4" "1100"))]

/-- The tick that lifts the ban follows. -/
def sweptEvents : List (ℕ × GateEvent String) := costlyEvents ++ [(300, .tick)]

theorem gate_refines_gateway_costly :
    firstClient ∈ (runGate (linuxXdpLimiter .little) some clientText ⟨fun _ => none, .new .empty⟩
        costlyEvents).1.manager.bannedIps ∧
      ∃ resolved : List (ℕ × GatewayEvent String),
        resolved.map (fun event => (event.1, event.2.forget)) = sweptEvents ∧
        (runGateway some clientText idleGateway resolved).1.manager.bannedIps.lookup firstClient =
          none ∧
        (runGate (linuxXdpLimiter .little) some clientText ⟨fun _ => none, .new .empty⟩
          sweptEvents).2 = (runGateway some clientText idleGateway resolved).2 := by
  have refines : Refines ⟨fun _ => none, .new (.empty : BlockedIps)⟩ idleGateway :=
    ⟨rfl, ⟨[], .initial⟩, fun _ => rfl⟩
  have swept : (runGate (linuxXdpLimiter .little) some clientText ⟨fun _ => none, .new .empty⟩
      sweptEvents).1.manager.bannedIps.lookup firstClient = none := by
    decide +kernel
  rcases @gate_refines_gateway _ _ _ (linuxXdpLimiter .little) some clientText _ _ refines
    sweptEvents with ⟨resolved, same, final, verdicts⟩
  exact ⟨by decide +kernel, resolved, same, (final.entries firstClient).symm.trans swept, verdicts⟩

/-! ## The BPF map files the banned addresses -/

/-- The map files exactly the given IPv4 addresses, each with the value 1. -/
def Files (endian : Endian) (map : BlockedIps) (banned : Set IpAddr) : Prop :=
  ∀ addr value, map.lookup (mapKey endian addr) = some value ↔
    .v4 addr ∈ banned ∧ value = endian.store32 1

/-- The limiter's map files the addresses in `banned_ips`. -/
def BanManagerOf.Filed (endian : Endian) (manager : BanManagerOf BlockedIps) : Prop :=
  Files endian manager.state {ip | ip ∈ manager.bannedIps}

section Files

variable {endian : Endian} {map next : BlockedIps} {banned : Set IpAddr} {ip : IpAddr}

/-- A `block_ip` that succeeds files its address. -/
theorem Files.blockIp (files : Files endian map banned)
    (blocked : (linuxXdpLimiter endian).blockIp map ip = .ok next) :
    Files endian next {other | other = ip ∨ other ∈ banned} := by
  intro addr value
  cases ip with
  | v6 other =>
      cases blocked
      rw [files addr value]
      simp
  | v4 other =>
      rw [BoundedMap.lookup_insert blocked]
      split
      · next same =>
          rw [mapKey_injective endian same]
          simp [eq_comm]
      · next different =>
          have distinct : addr ≠ other := fun same => different (congrArg _ same)
          rw [files addr value]
          simp [distinct]

/-- `unblock_ip` of a banned address succeeds, and removes it alone. -/
theorem Files.unblockIp (files : Files endian map banned) (member : ip ∈ banned) :
    ∃ next, (linuxXdpLimiter endian).unblockIp map ip = .ok next ∧
      Files endian next {other | other ∈ banned ∧ other ≠ ip} := by
  cases ip with
  | v6 other =>
      refine ⟨map, rfl, ?_⟩
      intro addr value
      rw [files addr value]
      simp
  | v4 other =>
      have present : mapKey endian other ∈ map.table :=
        AList.lookup_isSome.mp (Option.isSome_of_eq_some ((files other _).mpr ⟨member, rfl⟩))
      rcases BoundedMap.remove_ok present with ⟨next, removed⟩
      refine ⟨next, removed, ?_⟩
      intro addr value
      rw [BoundedMap.lookup_remove removed]
      split
      · next same =>
          rw [mapKey_injective endian same]
          simp
      · next different =>
          have distinct : addr ≠ other := fun same => different (congrArg _ same)
          rw [files addr value]
          simp [distinct]

/-- The sweeper's closure on the entry of a banned address: no `unblock_ip` fails. -/
theorem Files.sweepEntry (files : Files endian map banned) (member : ip ∈ banned)
    (now expiration : ℕ) :
    (BanManagerOf.sweepEntry (linuxXdpLimiter endian) now map ip expiration).2 =
        decide (now < expiration) ∧
      Files endian (BanManagerOf.sweepEntry (linuxXdpLimiter endian) now map ip expiration).1
        {other | other ∈ banned ∧ (other = ip → decide (now < expiration) = true)} := by
  rcases Nat.lt_or_ge now expiration with unexpired | expired
  · rw [BanManagerOf.sweepEntry, if_neg unexpired.not_ge]
    simpa [unexpired] using files
  · rcases files.unblockIp member with ⟨next, unblocked, remaining⟩
    rw [BanManagerOf.sweepEntry, if_pos expired, unblocked]
    simpa [expired.not_gt] using remaining

/-! ## What the program drops -/

/-- The address that the map files under some bytes. -/
def filedUnder : Endian → Bytes4 → Ipv4Addr
  | .big, bytes => ⟨bytes⟩
  | .little, bytes => ⟨bytes.reverse⟩

@[simp] theorem mapKey_filedUnder (bytes : Bytes4) :
    mapKey endian (filedUnder endian bytes) = bytes := by
  cases endian with
  | big => exact mapKey_big _
  | little =>
      rw [mapKey_little]
      exact bytes.reverse_reverse

/-- The frame holds a whole IPv4 header. -/
def IsIpv4 (frame : List UInt8) : Prop :=
  34 ≤ frame.length ∧ frame[12]? = some 0x08 ∧ frame[13]? = some 0x00

instance (frame : List UInt8) : Decidable (IsIpv4 frame) :=
  inferInstanceAs (Decidable (_ ∧ _ ∧ _))

/-- The program drops the IPv4 frames whose source bytes file a banned address. -/
theorem Files.xdpProg_eq_drop_iff (files : Files endian map banned) (frame : List UInt8) :
    xdpProg endian map frame = .drop ↔
      IsIpv4 frame ∧ .v4 (filedUnder endian (saddr frame)) ∈ banned := by
  have one : endian.load32 (endian.store32 1) = 1 := by
    cases endian with
    | big => decide
    | little => decide
  have stored := files (filedUnder endian (saddr frame))
  rw [mapKey_filedUnder] at stored
  rw [Ebpf.xdpProg_eq_drop_iff, IsIpv4, and_assoc, and_assoc]
  simp only [stored, and_assoc, exists_and_left, exists_eq_left, one, and_true]

end Files

/-! ## Runs over the real limiter -/

namespace BanManagerOf

variable {endian : Endian} {manager : BanManagerOf BlockedIps}

theorem filed_new : (new (.empty : BlockedIps)).Filed endian := by
  intro addr value
  simp [new]

theorem Filed.banIp (filed : manager.Filed endian) (now : ℕ) (ip : IpAddr) (duration : ℕ) :
    (manager.banIp (linuxXdpLimiter endian) now ip duration).Filed endian := by
  simp only [BanManagerOf.banIp]
  split
  · exact filed
  · next blocked =>
      simp only [Filed, AList.mem_insert]
      exact Files.blockIp filed blocked

/-- Over the real limiter a tick removes exactly what has expired. -/
theorem Filed.tick (filed : manager.Filed endian) (now : ℕ) :
    (manager.tick (linuxXdpLimiter endian) now).Filed endian ∧
      ∀ ip, (manager.tick (linuxXdpLimiter endian) now).bannedIps.lookup ip =
        (manager.bannedIps.lookup ip).filter fun expiration => decide (now < expiration) := by
  apply @retain_of_invariant _ _ _ (sweepEntry (linuxXdpLimiter endian) now)
    (fun _ expiration => decide (now < expiration)) (Files endian)
  · intro map banned ip expiration member files
    exact (Files.sweepEntry files member now expiration).1
  · intro map banned ip expiration member files
    exact (Files.sweepEntry files member now expiration).2
  · exact filed

/-- The map has room for a client as long as all banned addresses and the client are among
at most `max_entries` addresses. -/
theorem Filed.exists_blockIp (filed : manager.Filed endian) {clients : Finset Ipv4Addr}
    (known : ∀ addr, .v4 addr ∈ manager.bannedIps → addr ∈ clients)
    (fits : clients.card ≤ maxEntries) {addr : Ipv4Addr} (client : addr ∈ clients) :
    ∃ next, (linuxXdpLimiter endian).blockIp manager.state (.v4 addr) = .ok next := by
  apply BoundedMap.insert_ok
  rw [or_iff_not_imp_left]
  intro absent
  have inside : insert (mapKey endian addr) manager.state.table.keys.toFinset ⊆
      clients.image (mapKey endian) := by
    intro key member
    rw [Finset.mem_insert, List.mem_toFinset, ← AList.mem_keys] at member
    rcases member with rfl | member
    · exact Finset.mem_image_of_mem _ client
    · rcases Option.isSome_iff_exists.mp (AList.lookup_isSome.mpr member) with ⟨value, entry⟩
      have banned := (filed (filedUnder endian key) value).mp (by rwa [mapKey_filedUnder])
      exact Finset.mem_image.mpr ⟨_, known _ banned.1, mapKey_filedUnder key⟩
  have bound := Finset.card_le_card inside
  rw [Finset.card_insert_of_notMem (by rwa [List.mem_toFinset, ← AList.mem_keys]),
    List.toFinset_card_of_nodup manager.state.table.keys_nodup] at bound
  exact bound.trans (Finset.card_image_le.trans fits)

end BanManagerOf

section Runs

variable {HeaderValue : Type} (endian : Endian) (toStr : HeaderValue → Option String)
  (display : IpAddr → String)

/-- An IPv4 address from which a request comes. -/
def GateEvent.ipv4Client : GateEvent HeaderValue → Option Ipv4Addr
  | .request (.v4 addr) _ => some addr
  | .request (.v6 _) _ => none
  | .tick => none

/-- The IPv4 addresses from which requests come. -/
def ipv4Clients (events : List (ℕ × GateEvent HeaderValue)) : Finset Ipv4Addr :=
  (events.filterMap fun event => event.2.ipv4Client).toFinset

/-- The gate of a new process after some events; its store may hold anything. -/
def linuxGate (keys : Keyspace) (events : List (ℕ × GateEvent HeaderValue)) :
    GateOf BlockedIps :=
  (runGate (linuxXdpLimiter endian) toStr display ⟨keys, .new .empty⟩ events).1

/-- A request of the client was refused, and each tick since came less than 300 seconds
later. -/
def RefusedSince (keys : Keyspace) (events : List (ℕ × GateEvent HeaderValue)) (ip : IpAddr)
    (instant : ℕ) : Prop :=
  ∃ before request after, events = before ++ (instant, .request ip request) :: after ∧
    (applyRateLimit toStr display ip (linuxGate endian toStr display keys before).keys
      request).2.passes = false ∧
    ∀ later, (later, .tick) ∈ after → later < instant + 300

variable {endian} {toStr} {display} {keys : Keyspace}
  {events : List (ℕ × GateEvent HeaderValue)} {ip : IpAddr} {instant : ℕ}

theorem linuxGate_concat (event : ℕ × GateEvent HeaderValue) :
    linuxGate endian toStr display keys (events ++ [event]) =
      ((linuxGate endian toStr display keys events).take (linuxXdpLimiter endian) toStr display
        event).1 := by
  simp only [linuxGate, runGate, runOutputs_append, runOutputs]

theorem GateOf.filed_take {gate : GateOf BlockedIps} (filed : gate.manager.Filed endian)
    (event : ℕ × GateEvent HeaderValue) :
    (gate.take (linuxXdpLimiter endian) toStr display event).1.manager.Filed endian := by
  rcases event with ⟨instant, ⟨clientIp, request⟩ | _⟩
  · simp only [GateOf.take]
    split
    · exact filed.banIp _ _ _
    · exact filed
  · exact (filed.tick _).1

theorem filed_linuxGate (events : List (ℕ × GateEvent HeaderValue)) :
    (linuxGate endian toStr display keys events).manager.Filed endian := by
  induction events using List.reverseRecOn with
  | nil => exact BanManagerOf.filed_new
  | append_singleton events event ih =>
      rw [linuxGate_concat]
      exact GateOf.filed_take ih event

/-- A refusal still counts after an event that is not a late tick. -/
theorem RefusedSince.concat (refused : RefusedSince endian toStr display keys events ip instant)
    {event : ℕ × GateEvent HeaderValue} (early : event.2 = .tick → event.1 < instant + 300) :
    RefusedSince endian toStr display keys (events ++ [event]) ip instant := by
  rcases refused with ⟨before, request, after, rfl, verdict, ticks⟩
  refine ⟨before, request, after ++ [event], by simp, verdict, ?_⟩
  intro later member
  rcases List.mem_append.mp member with member | member
  · exact ticks later member
  · cases List.mem_singleton.mp member
    exact early rfl

/-- An entry is that of a refusal. -/
theorem refusedSince_of_lookup {expiration : ℕ}
    (entry : (linuxGate endian toStr display keys events).manager.bannedIps.lookup ip =
      some expiration) :
    ∃ instant, expiration = instant + 300 ∧
      RefusedSince endian toStr display keys events ip instant := by
  induction events using List.reverseRecOn with
  | nil => cases entry
  | append_singleton events event ih =>
      rw [linuxGate_concat] at entry
      rcases event with ⟨now, ⟨clientIp, request⟩ | _⟩
      · have earlier : (linuxGate endian toStr display keys events).manager.bannedIps.lookup ip =
            some expiration →
            ∃ instant, expiration = instant + 300 ∧ RefusedSince endian toStr display keys
              (events ++ [(now, .request clientIp request)]) ip instant := by
          intro kept
          rcases ih kept with ⟨instant, same, refused⟩
          exact ⟨instant, same, refused.concat nofun⟩
        simp only [GateOf.take] at entry
        split at entry
        · next banned banSeconds response verdict =>
            rcases applyRateLimit_ip verdict with ⟨rfl, rfl⟩
            rcases @BanManagerOf.exists_lookup_banIp _ _ (linuxXdpLimiter endian)
              (linuxGate endian toStr display keys events).manager now banned 300 with
              ⟨blocks, entries⟩
            rw [entries] at entry
            split at entry
            · next own =>
                cases entry
                refine ⟨now, rfl, events, request, [], by rw [own.1], ?_, nofun⟩
                rw [own.1, verdict]
                rfl
            · exact earlier entry
        · exact earlier entry
      · simp only [GateOf.take] at entry
        rw [((filed_linuxGate events).tick now).2, Option.filter_eq_some_iff] at entry
        rcases ih entry.1 with ⟨instant, rfl, refused⟩
        refine ⟨instant, rfl, refused.concat ?_⟩
        intro _
        exact of_decide_eq_true entry.2

theorem ipv4Clients_subset (earlier later : List (ℕ × GateEvent HeaderValue)) :
    ipv4Clients earlier ⊆ ipv4Clients (earlier ++ later) := by
  intro addr member
  simp only [ipv4Clients, List.filterMap_append, List.toFinset_append]
  exact Finset.mem_union_left _ member

/-- A refusal with room in the map makes an entry. -/
theorem lookup_of_refused {before : List (ℕ × GateEvent HeaderValue)}
    {request : Request HeaderValue}
    (refused : (applyRateLimit toStr display ip
      (linuxGate endian toStr display keys before).keys request).2.passes = false)
    (fits : (ipv4Clients (before ++ [(instant, .request ip request)])).card ≤ maxEntries) :
    (linuxGate endian toStr display keys
      (before ++ [(instant, .request ip request)])).manager.bannedIps.lookup ip =
        some (instant + 300) := by
  have blocks : ∃ next, (linuxXdpLimiter endian).blockIp
      (linuxGate endian toStr display keys before).manager.state ip = .ok next := by
    cases ip with
    | v6 addr => exact ⟨_, rfl⟩
    | v4 addr =>
        apply (filed_linuxGate before).exists_blockIp _ fits
        · simp [ipv4Clients, GateEvent.ipv4Client]
        · intro other member
          rcases Option.isSome_iff_exists.mp (AList.lookup_isSome.mpr member) with
            ⟨expiration, entry⟩
          rcases refusedSince_of_lookup entry with ⟨_, _, earlier, asked, later, same, _⟩
          rw [same]
          simp [ipv4Clients, GateEvent.ipv4Client]
  rcases blocks with ⟨next, blocked⟩
  rw [linuxGate_concat]
  simp only [GateOf.take]
  split
  · next banned banSeconds response verdict =>
      rcases applyRateLimit_ip verdict with ⟨rfl, rfl⟩
      simp only [BanManagerOf.banIp, blocked]
      exact AList.lookup_insert _
  · next verdict =>
      rw [verdict] at refused
      cases refused

/-- An entry stays through later events until a tick finds it expired; further refusals only
put its expiration off. -/
theorem lookup_append {after : List (ℕ × GateEvent HeaderValue)}
    (entry : (linuxGate endian toStr display keys events).manager.bannedIps.lookup ip =
      some (instant + 300))
    (later : ∀ event ∈ after, instant ≤ event.1)
    (early : ∀ tick, (tick, .tick) ∈ after → tick < instant + 300) :
    ∃ expiration, instant + 300 ≤ expiration ∧
      (linuxGate endian toStr display keys (events ++ after)).manager.bannedIps.lookup ip =
        some expiration := by
  induction after using List.reverseRecOn with
  | nil =>
      rw [List.append_nil]
      exact ⟨_, le_rfl, entry⟩
  | append_singleton after event ih =>
      rcases ih (fun other member => later other (List.mem_append_left _ member))
        (fun tick member => early tick (List.mem_append_left _ member)) with
        ⟨expiration, bound, kept⟩
      have last := List.mem_append_right after (List.mem_singleton_self event)
      rw [← List.append_assoc, linuxGate_concat]
      rcases event with ⟨now, ⟨clientIp, request⟩ | _⟩
      · simp only [GateOf.take]
        split
        · next banned banSeconds response verdict =>
            rcases applyRateLimit_ip verdict with ⟨rfl, rfl⟩
            rcases @BanManagerOf.exists_lookup_banIp _ _ (linuxXdpLimiter endian)
              (linuxGate endian toStr display keys (events ++ after)).manager now banned 300 with
              ⟨blocks, entries⟩
            rw [entries]
            split
            · exact ⟨_, Nat.add_le_add_right (later _ last) 300, rfl⟩
            · exact ⟨expiration, bound, kept⟩
        · exact ⟨expiration, bound, kept⟩
      · refine ⟨expiration, bound, ?_⟩
        simp only [GateOf.take]
        rw [((filed_linuxGate (events ++ after)).tick now).2, kept]
        exact Option.filter_some_pos (decide_eq_true ((early now last).trans_le bound))

/-- A frame is dropped because of a refusal. -/
theorem refusedSince_of_drop {frame : List UInt8}
    (dropped : xdpProg endian (linuxGate endian toStr display keys events).manager.state frame =
      .drop) :
    IsIpv4 frame ∧ ∃ instant, RefusedSince endian toStr display keys events
      (.v4 (filedUnder endian (saddr frame))) instant := by
  rw [Files.xdpProg_eq_drop_iff (filed_linuxGate events), Set.mem_ofPred_eq,
    ← AList.lookup_isSome, Option.isSome_iff_exists] at dropped
  rcases dropped with ⟨ipv4, expiration, entry⟩
  rcases refusedSince_of_lookup entry with ⟨instant, _, refused⟩
  exact ⟨ipv4, instant, refused⟩

/-- With room in the map and a clock that does not go back, a refusal drops frames. -/
theorem drop_of_refusedSince {frame : List UInt8}
    (clock : events.Pairwise fun earlier later => earlier.1 ≤ later.1)
    (fits : (ipv4Clients events).card ≤ maxEntries) (ipv4 : IsIpv4 frame)
    (refused : RefusedSince endian toStr display keys events
      (.v4 (filedUnder endian (saddr frame))) instant) :
    xdpProg endian (linuxGate endian toStr display keys events).manager.state frame = .drop := by
  rw [Files.xdpProg_eq_drop_iff (filed_linuxGate events), Set.mem_ofPred_eq,
    ← AList.lookup_isSome, Option.isSome_iff_exists]
  rcases refused with ⟨before, request, after, rfl, refused, early⟩
  have later : ∀ event ∈ after, instant ≤ event.1 :=
    (List.pairwise_cons.mp (List.pairwise_append.mp clock).2.1).1
  rw [List.append_cons] at fits ⊢
  have enough := (Finset.card_le_card (ipv4Clients_subset _ after)).trans fits
  rcases lookup_append (lookup_of_refused refused enough) later early with ⟨expiration, _, entry⟩
  exact ⟨ipv4, expiration, entry⟩

/-- **The kernel drops what the gate refused.** After every run of complete bans and ticks over
the BPF map, a frame is dropped only if it is a whole IPv4 frame and the client with the
address filed under its source bytes was refused less than 300 seconds before each tick since.
As long as the clock does not go back and at most `max_entries` IPv4 addresses have sent
requests, all these frames are dropped.  On a little-endian host the address filed under the
source bytes is the source address read backwards. -/
theorem kernel_drops_refused (keys : Keyspace) (events : List (ℕ × GateEvent HeaderValue))
    (frame : List UInt8) :
    (xdpProg endian (linuxGate endian toStr display keys events).manager.state frame = .drop →
      IsIpv4 frame ∧ ∃ instant, RefusedSince endian toStr display keys events
        (.v4 (filedUnder endian (saddr frame))) instant) ∧
    (events.Pairwise (fun earlier later => earlier.1 ≤ later.1) →
      (ipv4Clients events).card ≤ maxEntries → IsIpv4 frame →
      (∃ instant, RefusedSince endian toStr display keys events
        (.v4 (filedUnder endian (saddr frame))) instant) →
      xdpProg endian (linuxGate endian toStr display keys events).manager.state frame = .drop) := by
  refine ⟨refusedSince_of_drop, ?_⟩
  intro clock fits ipv4 refused
  rcases refused with ⟨instant, refused⟩
  exact drop_of_refusedSince clock fits ipv4 refused

end Runs

/-- The frame of an IPv4 packet from 1.0.0.10 with nothing after its headers. -/
def frameFromOneTen : List UInt8 :=
  List.replicate 12 0 ++ [0x08, 0x00] ++ List.replicate 12 0 ++ [1, 0, 0, 10] ++
    List.replicate 4 0

/-- On a little-endian host the refusal of 10.0.0.1 cuts off 1.0.0.10, which sent nothing. -/
theorem kernel_drops_refused_reversed :
    xdpProg .little (linuxGate .little some clientText (fun _ => none)
      costlyEvents).manager.state frameFromOneTen = .drop :=
  (kernel_drops_refused _ costlyEvents frameFromOneTen).2 (by decide) (by decide) (by decide)
    ⟨0, [], _, [], rfl, by decide +kernel, nofun⟩

end Vortex.Proxy
