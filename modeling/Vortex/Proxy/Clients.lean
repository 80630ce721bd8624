import Vortex.Proxy.KernelGate

/-!
# What a client gets

The gate seen by one of its clients.  The store keeps one slot for each client, so the
verdicts on a client's requests follow from these requests alone, and what the slot holds is
what the script makes of them.

Bans are different: they share the BPF map, which holds at most `max_entries` addresses.  As
long as it has room, the other clients do not matter for them either.
-/

namespace Vortex.Proxy

open Vortex.Core Ebpf Filters Lib

section Client

variable {HeaderValue σ ε : Type}

/-- The verdicts on the requests of one client. -/
def verdictsOn (clientIp : IpAddr) (verdicts : List (IpAddr × Verdict)) :
    List (IpAddr × Verdict) :=
  verdicts.filter fun entry => entry.1 == clientIp

/-- The event is a request of the client, or a tick. -/
def GateEvent.concerns (clientIp : IpAddr) : GateEvent HeaderValue → Bool
  | .request other _ => other == clientIp
  | .tick => true

/-- No other client has the same text. -/
def GateEvent.Distinct (display : IpAddr → String) (clientIp : IpAddr) :
    GateEvent HeaderValue → Prop
  | .request other _ => display other = display clientIp → other = clientIp
  | .tick => True

instance (display : IpAddr → String) (clientIp : IpAddr) (event : GateEvent HeaderValue) :
    Decidable (event.Distinct display clientIp) :=
  match event with
  | .request other _ =>
      inferInstanceAs (Decidable (display other = display clientIp → other = clientIp))
  | .tick => .isTrue trivial

/-- The events that concern one client. -/
def eventsFor (clientIp : IpAddr) (events : List (ℕ × GateEvent HeaderValue)) :
    List (ℕ × GateEvent HeaderValue) :=
  events.filter fun event => event.2.concerns clientIp

variable {limiter : XdpRateLimiter σ ε} {toStr : HeaderValue → Option String}
  {display : IpAddr → String} {clientIp : IpAddr} {gate : GateOf σ}
  {event : ℕ × GateEvent HeaderValue} {events : List (ℕ × GateEvent HeaderValue)}

theorem eventsFor_own (own : event.2.concerns clientIp = true) :
    eventsFor clientIp (events ++ [event]) = eventsFor clientIp events ++ [event] := by
  rw [eventsFor, List.filter_append]
  simp only [List.filter_cons, own, if_true, List.filter_nil, eventsFor]

theorem eventsFor_foreign (foreign : event.2.concerns clientIp = false) :
    eventsFor clientIp (events ++ [event]) = eventsFor clientIp events := by
  rw [eventsFor, List.filter_append]
  simp only [List.filter_cons, foreign, Bool.false_eq_true, if_false, List.filter_nil,
    List.append_nil, eventsFor]

/-- The other client has another key. -/
theorem rateLimitKey_ne {other : IpAddr} (different : other ≠ clientIp)
    (distinct : display other = display clientIp → other = clientIp) :
    rateLimitKey display clientIp ≠ rateLimitKey display other := by
  intro same
  exact different (distinct (rateLimitKey_inj same).symm)

/-! ## Clients do not influence each other's verdicts -/

/-- A request of another client leaves the slot alone. -/
theorem GateOf.take_foreign (distinct : event.2.Distinct display clientIp)
    (foreign : event.2.concerns clientIp = false) :
    (gate.take limiter toStr display event).1.keys (rateLimitKey display clientIp) =
        gate.keys (rateLimitKey display clientIp) ∧
      verdictsOn clientIp (gate.take limiter toStr display event).2.toList = [] := by
  rcases event with ⟨instant, ⟨other, request⟩ | _⟩
  · have different : other ≠ clientIp := beq_eq_false_iff_ne.mp foreign
    refine ⟨applyRateLimit_other_key (rateLimitKey_ne different distinct), ?_⟩
    simp only [GateOf.take, Option.toList_some, verdictsOn]
    exact List.filter_cons_of_neg (Bool.eq_false_iff.mp foreign)
  · cases foreign

/-- A request of the client, or a tick, acts alike on gates with the same slot. -/
theorem GateOf.take_own {other : GateOf σ} (own : event.2.concerns clientIp = true)
    (same : gate.keys (rateLimitKey display clientIp) =
      other.keys (rateLimitKey display clientIp)) :
    (gate.take limiter toStr display event).1.keys (rateLimitKey display clientIp) =
        (other.take limiter toStr display event).1.keys (rateLimitKey display clientIp) ∧
      (gate.take limiter toStr display event).2 = (other.take limiter toStr display event).2 := by
  rcases event with ⟨instant, ⟨someone, request⟩ | _⟩
  · rw [GateEvent.concerns, beq_iff_eq] at own
    subst own
    rcases @applyRateLimit_congr _ toStr _ _ _ _ request same with ⟨verdict, slot⟩
    simp only [GateOf.take, verdict]
    exact ⟨slot, trivial⟩
  · exact ⟨same, rfl⟩

/-- The slot of a client and the verdicts on its requests, over any limiter. -/
theorem runGate_eventsFor (distinct : ∀ event ∈ events, event.2.Distinct display clientIp) :
    (runGate limiter toStr display gate events).1.keys (rateLimitKey display clientIp) =
        (runGate limiter toStr display gate (eventsFor clientIp events)).1.keys
          (rateLimitKey display clientIp) ∧
      verdictsOn clientIp (runGate limiter toStr display gate events).2 =
        verdictsOn clientIp (runGate limiter toStr display gate (eventsFor clientIp events)).2 :=
  @runOutputs_filter _ _ _ (GateOf.take limiter toStr display)
    (fun first second => first.keys (rateLimitKey display clientIp) =
      second.keys (rateLimitKey display clientIp))
    (fun event => event.2.Distinct display clientIp) (fun event => event.2.concerns clientIp) _
    (fun distinct foreign same =>
      ⟨(GateOf.take_foreign distinct foreign).1.trans same,
        (GateOf.take_foreign distinct foreign).2⟩)
    (fun _ own same => GateOf.take_own own same) gate gate rfl _ distinct

end Client

/-! ## Bans as long as the map has room -/

section Bans

variable {HeaderValue : Type} {endian : Endian} {toStr : HeaderValue → Option String}
  {display : IpAddr → String} {keys : Keyspace} {clientIp : IpAddr} {instant : ℕ}
  {request : Request HeaderValue} {events : List (ℕ × GateEvent HeaderValue)}

/-- A request that passes, and one of another client, leaves an entry as it was. -/
theorem lookup_of_not_refused {other : IpAddr}
    (unrefused : other = clientIp → (applyRateLimit toStr display clientIp
      (linuxGate endian toStr display keys events).keys request).2.passes = true) :
    (linuxGate endian toStr display keys
      (events ++ [(instant, .request other request)])).manager.bannedIps.lookup clientIp =
        (linuxGate endian toStr display keys events).manager.bannedIps.lookup clientIp := by
  rw [linuxGate_concat]
  simp only [GateOf.take]
  split
  · next banned banSeconds response verdict =>
      rcases applyRateLimit_ip verdict with ⟨rfl, rfl⟩
      have different : clientIp ≠ banned := by
        intro same
        subst same
        have passes := unrefused rfl
        rw [verdict] at passes
        cases passes
      rcases @BanManagerOf.exists_lookup_banIp _ _ (linuxXdpLimiter endian)
        (linuxGate endian toStr display keys events).manager instant banned 300 with
        ⟨blocks, entries⟩
      rw [entries, if_neg fun both => different both.1]
  · rfl

theorem ipv4Clients_eventsFor (events : List (ℕ × GateEvent HeaderValue)) :
    ipv4Clients (eventsFor clientIp events) ⊆ ipv4Clients events := by
  intro addr member
  rw [ipv4Clients, List.mem_toFinset] at member ⊢
  exact ((List.filter_sublist).filterMap _).subset member

/-- With room in the map, the entry of a client depends only on its own requests and on the
ticks. -/
theorem lookup_eventsFor (distinct : ∀ event ∈ events, event.2.Distinct display clientIp)
    (fits : (ipv4Clients events).card ≤ maxEntries) :
    (linuxGate endian toStr display keys events).manager.bannedIps.lookup clientIp =
      (linuxGate endian toStr display keys
        (eventsFor clientIp events)).manager.bannedIps.lookup clientIp := by
  induction events using List.reverseRecOn with
  | nil => rfl
  | append_singleton events event ih =>
      rcases forall_mem_concat.mp distinct with ⟨earlier, _⟩
      have enough := (Finset.card_le_card (ipv4Clients_subset events [event])).trans fits
      have slot := (@runGate_eventsFor _ _ _ (linuxXdpLimiter endian) toStr _ _
        ⟨keys, .new .empty⟩ _ earlier).1
      have few := (Finset.card_le_card (@ipv4Clients_eventsFor _ clientIp
        (events ++ [event]))).trans fits
      rcases event with ⟨now, ⟨other, request⟩ | _⟩
      · rcases Decidable.eq_or_ne other clientIp with rfl | different
        · have own : (GateEvent.request other request).concerns other = true :=
            beq_self_eq_true other
          rw [eventsFor_own own] at few ⊢
          have verdict := (@applyRateLimit_congr _ toStr display other _ _ request slot).1
          cases passes : (applyRateLimit toStr display other
              (linuxGate endian toStr display keys events).keys request).2.passes with
          | false =>
              rw [lookup_of_refused passes fits]
              refine (lookup_of_refused ?_ few).symm
              rw [← passes]
              exact congrArg Verdict.passes verdict.symm
          | true =>
              rw [lookup_of_not_refused fun _ => passes, ih earlier enough]
              refine (lookup_of_not_refused fun _ => ?_).symm
              rw [← passes]
              exact congrArg Verdict.passes verdict.symm
        · have foreign : (GateEvent.request other request).concerns clientIp = false :=
            beq_false_of_ne different
          rw [eventsFor_foreign foreign, lookup_of_not_refused fun same => absurd same different]
          exact ih earlier enough
      · rw [eventsFor_own rfl, linuxGate_concat, linuxGate_concat]
        simp only [GateOf.take]
        rw [((filed_linuxGate _).tick now).2, ((filed_linuxGate _).tick now).2,
          ih earlier enough]

end Bans

/-- **Clients are isolated.** In any mix of requests and ticks, over any limiter, the verdicts
on the requests of a client are as if the other clients had made no request.  Over the BPF map
of a new process its ban is as well, as long as at most `max_entries` IPv4 addresses send
requests. -/
theorem clients_are_isolated {HeaderValue σ ε : Type} {limiter : XdpRateLimiter σ ε}
    {toStr : HeaderValue → Option String} {display : IpAddr → String} {clientIp : IpAddr}
    {events : List (ℕ × GateEvent HeaderValue)}
    (distinct : ∀ event ∈ events, event.2.Distinct display clientIp) (gate : GateOf σ)
    (endian : Endian) (keys : Keyspace) :
    verdictsOn clientIp (runGate limiter toStr display gate events).2 =
        verdictsOn clientIp (runGate limiter toStr display gate (eventsFor clientIp events)).2 ∧
      ((ipv4Clients events).card ≤ maxEntries →
        (linuxGate endian toStr display keys events).manager.bannedIps.lookup clientIp =
          (linuxGate endian toStr display keys
            (eventsFor clientIp events)).manager.bannedIps.lookup clientIp) :=
  ⟨(runGate_eventsFor distinct).2, lookup_eventsFor distinct⟩

/-- The second client exceeds the limit between two requests of the first. -/
def mixedEvents : List (ℕ × GateEvent String) :=
  [(0, .request firstClient (aiRequest "gpt-4" "400")),
    (0, .request secondClient (aiRequest "gpt-4" "700")),
    (0, .request secondClient (aiRequest "gpt-4" "700")),
    (0, .request firstClient (aiRequest "gpt-4" "600"))]

theorem clients_are_isolated_mixed :
    (linuxGate .little some clientText (fun _ => none) mixedEvents).manager.bannedIps.lookup
        secondClient =
      (linuxGate .little some clientText (fun _ => none)
        (eventsFor secondClient mixedEvents)).manager.bannedIps.lookup secondClient :=
  (@clients_are_isolated _ _ _ (linuxXdpLimiter .little) some clientText secondClient mixedEvents
    (by decide +kernel) ⟨fun _ => none, .new .empty⟩ .little fun _ => none).2 (by decide +kernel)

/-! ## What the store holds for a client -/

section Slot

variable {HeaderValue σ ε : Type} (toStr : HeaderValue → Option String)

/-- The request, if it comes from the client. -/
def GateEvent.requestOf (clientIp : IpAddr) : GateEvent HeaderValue → Option (Request HeaderValue)
  | .request other asked => if other = clientIp then some asked else none
  | .tick => none

/-- The requests of one client. -/
def requestsOf (clientIp : IpAddr) (events : List (ℕ × GateEvent HeaderValue)) :
    List (Request HeaderValue) :=
  events.filterMap fun event => event.2.requestOf clientIp

/-- The script executions that the requests of one client cause: one for each request that
finds the store reachable. -/
def invocationsOf (clientIp : IpAddr) (events : List (ℕ × GateEvent HeaderValue)) :
    List Invocation :=
  ((requestsOf clientIp events).filter fun request => request.reachable).map (toInvocation toStr)

variable {toStr} {limiter : XdpRateLimiter σ ε} {display : IpAddr → String} {clientIp : IpAddr}
  {gate : GateOf σ}

theorem requestsOf_concat (events : List (ℕ × GateEvent HeaderValue))
    (event : ℕ × GateEvent HeaderValue) :
    requestsOf clientIp (events ++ [event]) =
      requestsOf clientIp events ++ (event.2.requestOf clientIp).toList := by
  rw [requestsOf, List.filterMap_append, requestsOf]
  cases own : event.2.requestOf clientIp with
  | none => simp only [List.filterMap_cons, own, List.filterMap_nil, Option.toList_none]
  | some request => simp only [List.filterMap_cons, own, List.filterMap_nil, Option.toList_some]

/-- One more request of the client adds an execution if it finds the store reachable. -/
theorem invocationsOf_own (events : List (ℕ × GateEvent HeaderValue)) (instant : ℕ)
    (request : Request HeaderValue) :
    invocationsOf toStr clientIp (events ++ [(instant, .request clientIp request)]) =
      invocationsOf toStr clientIp events ++
        if request.reachable then [toInvocation toStr request] else [] := by
  rw [invocationsOf, requestsOf_concat, GateEvent.requestOf, if_pos rfl, List.filter_append,
    List.map_append, Option.toList_some]
  cases reachable : request.reachable with
  | false => rw [List.filter_cons_of_neg (Bool.eq_false_iff.mp reachable)]; rfl
  | true => rw [List.filter_cons_of_pos reachable]; rfl

/-- No other event does. -/
theorem invocationsOf_foreign (events : List (ℕ × GateEvent HeaderValue))
    {event : ℕ × GateEvent HeaderValue} (foreign : event.2.requestOf clientIp = none) :
    invocationsOf toStr clientIp (events ++ [event]) = invocationsOf toStr clientIp events := by
  rw [invocationsOf, requestsOf_concat, foreign, Option.toList_none, List.append_nil]
  rfl

theorem runGate_concat (events : List (ℕ × GateEvent HeaderValue))
    (event : ℕ × GateEvent HeaderValue) :
    runGate limiter toStr display gate (events ++ [event]) =
      (((runGate limiter toStr display gate events).1.take limiter toStr display event).1,
        (runGate limiter toStr display gate events).2 ++
          ((runGate limiter toStr display gate events).1.take limiter toStr display
            event).2.toList) := by
  rw [runGate, runOutputs_append]
  simp only [runOutputs, List.append_nil]
  rfl

/-- The slot of a client is that of the script run on its own requests. -/
theorem slot_runGate (fresh : gate.keys (rateLimitKey display clientIp) = none)
    {events : List (ℕ × GateEvent HeaderValue)}
    (distinct : ∀ event ∈ events, event.2.Distinct display clientIp) :
    (runGate limiter toStr display gate events).1.keys (rateLimitKey display clientIp) =
      (runKey 1000 60000 (invocationsOf toStr clientIp events)).slot := by
  induction events using List.reverseRecOn with
  | nil => exact fresh
  | append_singleton events event ih =>
      rcases forall_mem_concat.mp distinct with ⟨earlier, here⟩
      have slot := ih earlier
      rw [runGate_concat]
      rcases event with ⟨instant, ⟨other, request⟩ | _⟩
      · rcases Decidable.eq_or_ne other clientIp with rfl | different
        · rw [invocationsOf_own]
          cases reachable : request.reachable with
          | false =>
              simp only [GateOf.take, applyRateLimit_of_unreachable reachable, Bool.false_eq_true,
                if_false, List.append_nil]
              exact slot
          | true =>
              simp only [GateOf.take, applyRateLimit_slot reachable, if_true, runKey_concat,
                KeyRun.record, slot]
        · have foreign : (GateEvent.request other request).requestOf clientIp = none :=
            if_neg different
          rw [invocationsOf_foreign _ foreign]
          exact (applyRateLimit_other_key (rateLimitKey_ne different here)).trans slot
      · rw [invocationsOf_foreign _ rfl]
        exact slot

end Slot

/-! ## Clients that keep to the limit -/

section Served

variable {HeaderValue σ ε : Type} {limiter : XdpRateLimiter σ ε}
  {toStr : HeaderValue → Option String} {display : IpAddr → String} {clientIp : IpAddr}
  {events : List (ℕ × GateEvent HeaderValue)}

/-- The next request of a client that keeps to the limit passes. -/
theorem proceed_of_conforming {gate : GateOf σ} {instant : ℕ} {request : Request HeaderValue}
    (fresh : gate.keys (rateLimitKey display clientIp) = none)
    (distinct : ∀ event ∈ events, event.2.Distinct display clientIp)
    (conforming : Conforming 1000 60000
      (invocationsOf toStr clientIp (events ++ [(instant, .request clientIp request)]))) :
    (applyRateLimit toStr display clientIp (runGate limiter toStr display gate events).1.keys
      request).2 = .proceed := by
  cases reachable : request.reachable with
  | false => rw [applyRateLimit_of_unreachable reachable]
  | true =>
      rw [invocationsOf_own, if_pos reachable] at conforming
      apply applyRateLimit_of_allowed
      rw [slot_runGate fresh distinct]
      exact gcraScript_of_conforming conforming

theorem conforming_of_append {later : List (ℕ × GateEvent HeaderValue)}
    (conforming : Conforming 1000 60000 (invocationsOf toStr clientIp (events ++ later))) :
    Conforming 1000 60000 (invocationsOf toStr clientIp events) := by
  rw [invocationsOf, requestsOf, List.filterMap_append, List.filter_append,
    List.map_append] at conforming
  exact conforming.of_append

/-- All requests of such a client pass, and it is not banned. -/
theorem served_of_conforming {gate : GateOf σ}
    (fresh : gate.keys (rateLimitKey display clientIp) = none)
    (unbanned : gate.manager.bannedIps.lookup clientIp = none)
    (distinct : ∀ event ∈ events, event.2.Distinct display clientIp)
    (conforming : Conforming 1000 60000 (invocationsOf toStr clientIp events)) :
    (∀ entry ∈ (runGate limiter toStr display gate events).2, entry.1 = clientIp →
        entry.2 = .proceed) ∧
      (runGate limiter toStr display gate events).1.manager.bannedIps.lookup clientIp = none := by
  induction events using List.reverseRecOn with
  | nil => exact ⟨nofun, unbanned⟩
  | append_singleton events event ih =>
      rcases forall_mem_concat.mp distinct with ⟨earlier, here⟩
      rcases ih earlier (conforming_of_append conforming) with ⟨passed, absent⟩
      rw [runGate_concat]
      rcases event with ⟨instant, ⟨other, request⟩ | _⟩
      · have own : other = clientIp → (applyRateLimit toStr display other
            (runGate limiter toStr display gate events).1.keys request).2 = .proceed := by
          intro same
          subst same
          exact proceed_of_conforming fresh earlier conforming
        constructor
        · intro entry member client
          rcases List.mem_append.mp member with member | member
          · exact passed entry member client
          · rw [List.mem_singleton.mp member] at client ⊢
            exact own client
        · simp only [GateOf.take]
          split
          · next banned banSeconds response verdict =>
              rcases applyRateLimit_ip verdict with ⟨rfl, rfl⟩
              have different : clientIp ≠ banned := by
                intro same
                rw [own same.symm] at verdict
                cases verdict
              rcases @BanManagerOf.exists_lookup_banIp _ _ limiter
                (runGate limiter toStr display gate events).1.manager instant banned 300 with
                ⟨blocks, entries⟩
              rw [entries, if_neg fun both => different both.1]
              exact absent
          · exact absent
      · refine ⟨?_, ?_⟩
        · simpa only [GateOf.take, Option.toList_none, List.append_nil] using passed
        · simp only [GateOf.take]
          rw [BanManagerOf.lookup_tick, absent, Option.filter_none]

/-- **Clients within the limit are served.** Let the requests of a client that find the store
reachable, from any one to any later one, cost together at most 1000 and one more for each 60
milliseconds between them on the proxy's clock.  Then none of its requests is refused and it is
never banned, whatever the other clients do; and the kernel lets its frames pass if its address
is filed under its own bytes. -/
theorem client_within_limit_served {endian : Endian} {keys : Keyspace}
    (fresh : keys (rateLimitKey display clientIp) = none)
    (distinct : ∀ event ∈ events, event.2.Distinct display clientIp)
    (conforming : Conforming 1000 60000 (invocationsOf toStr clientIp events)) (state : σ) :
    (∀ entry ∈ (runGate limiter toStr display ⟨keys, .new state⟩ events).2,
        entry.1 = clientIp → entry.2 = .proceed) ∧
      clientIp ∉ (runGate limiter toStr display ⟨keys, .new state⟩ events).1.manager.bannedIps ∧
      ∀ addr, clientIp = .v4 addr → mapKey endian addr = addr.octets →
        LetsPass endian (linuxGate endian toStr display keys events).manager.state addr := by
  have served := @served_of_conforming _ _ _ limiter toStr display clientIp events
    ⟨keys, .new state⟩ fresh rfl distinct conforming
  refine ⟨served.1, ?_, ?_⟩
  · rw [← AList.lookup_isSome, served.2]
    exact Bool.false_ne_true
  · intro addr same own
    subst same
    apply letsPass_of_lookup
    have absent := (@served_of_conforming _ _ _ (linuxXdpLimiter endian) toStr display _ events
      ⟨keys, .new .empty⟩ fresh rfl distinct conforming).2
    rw [Option.eq_none_iff_forall_ne_some]
    intro value stored
    rw [← own] at stored
    have banned := ((filed_linuxGate events) addr value).mp stored
    exact absurd (AList.lookup_isSome.mpr banned.1) (by
      rw [show (linuxGate endian toStr display keys events).manager.bannedIps.lookup (.v4 addr) =
        none from absent]
      exact Bool.false_ne_true)

end Served

/-- The first client keeps to the limit, and is served. -/
theorem client_within_limit_served_mixed :
    firstClient ∉ (linuxGate .big some clientText (fun _ => none) mixedEvents).manager.bannedIps ∧
      LetsPass .big (linuxGate .big some clientText (fun _ => none) mixedEvents).manager.state
        ⟨⟨10, 0, 0, 1⟩⟩ := by
  have conforming : Conforming 1000 60000 (invocationsOf some firstClient mixedEvents) := by
    have charged : ∀ call ∈ invocationsOf some firstClient mixedEvents, 1 ≤ call.cost := by
      decide +kernel
    have singleClock : ∀ call ∈ invocationsOf some firstClient mixedEvents,
        call.now = call.clock := by
      decide +kernel
    have admitted : (runKey 1000 60000 (invocationsOf some firstClient mixedEvents)).admitted =
        invocationsOf some firstClient mixedEvents := by
      decide +kernel
    rw [← admitted]
    exact (runKey_tracks (by decide) (by decide) charged
      (harmlessRun_of_singleClock (by decide) (by decide) charged singleClock)).2
  have served := @client_within_limit_served _ _ _ (linuxXdpLimiter .big) some clientText
    firstClient mixedEvents .big (fun _ => none) rfl (by decide +kernel) conforming .empty
  exact ⟨served.2.1, served.2.2 _ rfl (mapKey_big _)⟩

/-! ## After a ban -/

section AfterBan

variable {HeaderValue : Type} {endian : Endian} {toStr : HeaderValue → Option String}
  {display : IpAddr → String} {keys : Keyspace}

/-- The wall clock of a request and the instant of its arrival agree to the second. -/
def GateEvent.Timed (event : ℕ × GateEvent HeaderValue) : Prop :=
  match event.2 with
  | .request _ arrived => arrived.moment.now / 1000 = event.1
  | .tick => True

instance (event : ℕ × GateEvent HeaderValue) : Decidable (GateEvent.Timed event) :=
  match event with
  | (_, .request _ _) => Nat.decEq _ _
  | (_, .tick) => .isTrue trivial

/-- By its wall clock, a request of a run arrives in the second of its event. -/
theorem now_of_invocation {clientIp : IpAddr} {events : List (ℕ × GateEvent HeaderValue)}
    {latest : ℕ} (timed : ∀ event ∈ events, GateEvent.Timed event)
    (byLatest : ∀ event ∈ events, event.1 ≤ latest) :
    ∀ call ∈ invocationsOf toStr clientIp events, (call.now : ℚ) ≤ 1000 * latest + 999 := by
  intro call executed
  rcases List.mem_map.mp executed with ⟨request, made, rfl⟩
  rcases List.mem_filterMap.mp (List.mem_filter.mp made).1 with ⟨event, member, own⟩
  have now := timed event member
  have before := byLatest event member
  rcases event with ⟨instant, ⟨other, arrived⟩ | _⟩
  · rw [GateEvent.requestOf] at own
    split at own
    · cases own
      change request.moment.now / 1000 = instant at now
      have bound : request.moment.now ≤ 1000 * latest + 999 := by
        change instant ≤ latest at before
        omega
      exact_mod_cast bound
    · cases own
  · cases own

/-- Without a request of the client its slot stays as it was. -/
theorem invocationsOf_silent {clientIp : IpAddr} {before between : List (ℕ × GateEvent HeaderValue)}
    (silent : requestsOf clientIp between = []) :
    invocationsOf toStr clientIp (before ++ between) = invocationsOf toStr clientIp before := by
  rw [requestsOf] at silent
  rw [invocationsOf, requestsOf, List.filterMap_append, silent, List.append_nil]
  rfl

/-- A request of a client whose stored time has passed is not refused. -/
theorem applyRateLimit_of_idle {clientIp : IpAddr} {request : Request HeaderValue}
    (idle : ∀ entry, keys (rateLimitKey display clientIp) = some entry →
      entry.value ≤ request.moment.now)
    (small : requestCost toStr request.headers ≤ 1000) :
    (applyRateLimit toStr display clientIp keys request).2 = .proceed := by
  apply applyRateLimit_of_allowed
  apply gcraScript_of_early
  have start : startTat (redisGet (keys (rateLimitKey display clientIp))
      (toInvocation toStr request).toMoment) request.moment.now = request.moment.now := by
    apply max_eq_right
    cases answered : redisGet (keys (rateLimitKey display clientIp))
        (toInvocation toStr request).toMoment with
    | none => exact le_rfl
    | some value =>
        rcases redisGet_eq_some answered with ⟨entry, stored, rfl⟩
        exact idle entry stored
  have small' : ((toInvocation toStr request).cost : ℚ) ≤ 1000 := by
    exact_mod_cast small
  change startTat _ request.moment.now + _ ≤ (request.moment.now : ℚ) + (60000 : ℕ)
  rw [start, emissionInterval]
  push_cast
  linarith

/-- **A ban clears the record.** Where the kernel keeps a refused client out, its first request
after the refusal is not refused if it asks for no more than the limit: the 300 seconds of the
ban have run out by then, and with them all that the client was charged for. -/
theorem first_request_after_ban_passes
    {before between after : List (ℕ × GateEvent HeaderValue)} {addr : Ipv4Addr}
    (own : mapKey endian addr = addr.octets) {first second : ℕ}
    {refused next : Request HeaderValue}
    (fresh : keys (rateLimitKey display (.v4 addr)) = none)
    (distinct : ∀ event ∈ before ++ (first, .request (.v4 addr) refused) :: between,
      event.2.Distinct display (.v4 addr))
    (timed : ∀ event ∈ before ++ (first, .request (.v4 addr) refused) :: between ++
      (second, .request (.v4 addr) next) :: after, GateEvent.Timed event)
    (clock : (before ++ (first, .request (.v4 addr) refused) :: between ++
      (second, .request (.v4 addr) next) :: after).Pairwise
        fun earlier later => earlier.1 ≤ later.1)
    (fits : (ipv4Clients (before ++ (first, .request (.v4 addr) refused) :: between ++
      (second, .request (.v4 addr) next) :: after)).card ≤ maxEntries)
    (gated : KernelGated endian toStr display keys
      (before ++ (first, .request (.v4 addr) refused) :: between ++
        (second, .request (.v4 addr) next) :: after))
    (verdict : (applyRateLimit toStr display (.v4 addr)
      (linuxGate endian toStr display keys before).keys refused).2.passes = false)
    (silent : requestsOf (.v4 addr) between = [])
    (small : requestCost toStr next.headers ≤ 1000) :
    (applyRateLimit toStr display (.v4 addr) (linuxGate endian toStr display keys
      (before ++ (first, .request (.v4 addr) refused) :: between)).keys next).2 = .proceed := by
  have pause := second_of_refused own clock fits gated verdict
  have slot := @slot_runGate _ _ _ toStr (linuxXdpLimiter endian) display (.v4 addr)
    ⟨keys, .new .empty⟩ fresh _ distinct
  rw [List.append_cons, invocationsOf_silent silent] at slot
  -- The slot lies at most a minute after the refusal.
  have inside : ∀ event ∈ before ++ [(first, GateEvent.request (.v4 addr) refused)],
      event ∈ before ++ (first, .request (.v4 addr) refused) :: between ++
        (second, .request (.v4 addr) next) :: after := by
    intro event member
    rw [List.append_cons before]
    exact List.mem_append_left _ (List.mem_append_left _ member)
  have byFirst : ∀ event ∈ before ++ [(first, GateEvent.request (.v4 addr) refused)],
      event.1 ≤ first := by
    intro event member
    rcases List.mem_append.mp member with member | member
    · rw [List.append_assoc] at clock
      exact (List.pairwise_append.mp clock).2.2 event member _ List.mem_cons_self
    · rw [List.mem_singleton.mp member]
  have charged := @now_of_invocation _ toStr (.v4 addr) _ first
    (fun event member => timed event (inside event member)) byFirst
  have bounded := @runKey_slot_le 1000 60000 _ _ charged
  rw [← slot] at bounded
  -- The next request arrives after that.
  have arrived : next.moment.now / 1000 = second :=
    timed (second, .request (.v4 addr) next) (List.mem_append_right _ List.mem_cons_self)
  have late : 1000 * (first + 300) ≤ next.moment.now := by
    omega
  have late' : (1000 : ℚ) * (first + 300) ≤ next.moment.now := by
    exact_mod_cast late
  apply applyRateLimit_of_idle _ small
  intro entry stored
  rw [List.append_cons] at stored
  have value := bounded entry stored
  push_cast at value
  linarith

end AfterBan

/-- A request for the whole limit, five minutes later. -/
def laterRequest : Request String :=
  { aiRequest "gpt-4" "1000" with moment := ⟨301007, false, 301007⟩ }

/-- The client is refused, and asks for the whole limit after the tick that lifts the ban. -/
theorem first_request_after_ban_passes_whole_limit :
    (applyRateLimit some clientText firstClient (linuxGate .big some clientText (fun _ => none)
      [(0, .request firstClient (aiRequest "gpt-4" "700")),
        (0, .request firstClient (aiRequest "gpt-4" "700")), (300, .tick)]).keys
      laterRequest).2 = .proceed := by
  have gated : KernelGated .big some clientText (fun _ => none)
      [(0, .request firstClient (aiRequest "gpt-4" "700")),
        (0, .request firstClient (aiRequest "gpt-4" "700")), (300, .tick),
        (301, .request firstClient laterRequest)] := by
    intro before instant addr request after split
    rcases before with _ | ⟨first, _ | ⟨second, _ | ⟨third, _ | ⟨fourth, before⟩⟩⟩⟩
    · cases split
      exact letsPass_of_lookup rfl
    · cases split
      exact letsPass_of_lookup (by decide +kernel)
    · cases split
    · cases split
      exact letsPass_of_lookup (by decide +kernel)
    · cases before <;> cases split
  exact @first_request_after_ban_passes _ .big some clientText (fun _ => none)
    [(0, .request firstClient (aiRequest "gpt-4" "700"))] [(300, .tick)] [] ⟨⟨10, 0, 0, 1⟩⟩
    (mapKey_big _) 0 301 (aiRequest "gpt-4" "700") laterRequest rfl (by decide +kernel)
    (by decide +kernel) (by decide) (by decide) gated (by decide +kernel) rfl (by decide +kernel)

end Vortex.Proxy
