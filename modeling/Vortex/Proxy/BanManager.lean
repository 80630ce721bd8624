import Vortex.Ebpf.Limiter
import Vortex.Lib.Transition
import Mathlib.Logic.Function.Basic

/-!
# Interleavings of `BanManager`

`ban_ip` performs `limiter.block_ip` and then `banned_ips.insert`; the sweeper
visits the entries of `banned_ips` and, for an expired one, performs
`limiter.unblock_ip` and then removes the entry.  The two maps are updated in
opposite orders by concurrent tasks that share no lock, so each half is one
step here and any number of calls may be halfway through.

`DashMap::retain` holds the shard of the entry it visits, so an insert for the
same address waits until the visit is over.  The limiter is a set of addresses
whose calls may fail and then leave it unchanged; an infallible limiter is the
special case in which no step fails.
-/

namespace Vortex.Proxy

open Ebpf Lib

/-- A `ban_ip` call that has succeeded in `block_ip` and not yet inserted. -/
structure PendingBan where
  ip : IpAddr
  duration : ℕ
  deriving DecidableEq, Repr

/-- Where the sweeper task is. During a tick it keeps the instant it read; while
removing, it has unblocked the address and still holds its entry. -/
inductive Sweeper where
  | idle
  | sweeping (now : ℕ)
  | removing (now : ℕ) (ip : IpAddr)
  deriving DecidableEq, Repr

/-- The instant read by the tick in progress. -/
def Sweeper.now : Sweeper → Option ℕ
  | .idle => none
  | .sweeping now => some now
  | .removing now _ => some now

/-- Shared state of the ban manager and its limiter. -/
structure BanState where
  clock : ℕ
  blocked : Finset IpAddr
  bannedIps : IpAddr → Option ℕ
  pending : ℕ → Option PendingBan
  sweeper : Sweeper

namespace BanState

/-- Before the first call. -/
def initial (clock : ℕ) : BanState where
  clock
  blocked := ∅
  bannedIps := fun _ => none
  pending := fun _ => none
  sweeper := .idle

/-- The sweeper holds the entry of an address while it removes it. -/
def locks (state : BanState) (ip : IpAddr) : Bool :=
  match state.sweeper with
  | .removing _ held => decide (held = ip)
  | _ => false

/-- A `ban_ip` call on the address is between its two halves. -/
def Banning (state : BanState) (ip : IpAddr) : Prop :=
  ∃ call ban, state.pending call = some ban ∧ ban.ip = ip

/-- First half of `ban_ip`: `limiter.block_ip(ip)` has succeeded. -/
def blockIp (state : BanState) (call : ℕ) (ip : IpAddr) (duration : ℕ) : BanState :=
  { state with
    blocked := insert ip state.blocked
    pending := Function.update state.pending call (some { ip, duration }) }

/-- Second half: `banned_ips.insert(ip, Instant::now() + duration)`. -/
def insertBan (state : BanState) (call : ℕ) (ban : PendingBan) : BanState :=
  { state with
    bannedIps := Function.update state.bannedIps ban.ip (some (state.clock + ban.duration))
    pending := Function.update state.pending call none }

/-- First half of an expiring visit: `limiter.unblock_ip(ip)` has succeeded. -/
def unblockIp (state : BanState) (now : ℕ) (ip : IpAddr) : BanState :=
  { state with blocked := state.blocked.erase ip, sweeper := .removing now ip }

/-- Second half: the closure answered `false` and the entry is removed. -/
def removeBan (state : BanState) (now : ℕ) (ip : IpAddr) : BanState :=
  { state with
    bannedIps := Function.update state.bannedIps ip none
    sweeper := .sweeping now }

/-- The limiter's half of both operations is `MockXdpLimiter`. -/
theorem limiter_eq_mock (state : BanState) (call : ℕ) (ip : IpAddr) (duration now : ℕ) :
    mockXdpLimiter.blockIp state.blocked ip = .ok (state.blockIp call ip duration).blocked ∧
      mockXdpLimiter.unblockIp state.blocked ip = .ok (state.unblockIp now ip).blocked :=
  ⟨rfl, rfl⟩

end BanState

/-- Atomic actions. `block` and `visit` say whether their limiter call, if any,
succeeds. -/
inductive BanStep where
  /-- Time passes. -/
  | advance (elapsed : ℕ)
  /-- `limiter.block_ip(ip)` of a `ban_ip` call. -/
  | block (call : ℕ) (ip : IpAddr) (duration : ℕ) (succeeds : Bool)
  /-- `banned_ips.insert(ip, Instant::now() + duration)` of a `ban_ip` call. -/
  | insert (call : ℕ)
  /-- The sweeper's interval fires and it reads the clock. -/
  | tick
  /-- The `retain` closure runs on an entry, up to its limiter call. -/
  | visit (ip : IpAddr) (succeeds : Bool)
  /-- `retain` removes the entry whose address was unblocked. -/
  | remove
  /-- `retain` has gone through the map. -/
  | finish
  deriving DecidableEq, Repr

/-- One action of `ban_ip` or of the sweeper. -/
def banStep (state : BanState) : BanStep → Option BanState
  | .advance elapsed => some { state with clock := state.clock + elapsed }
  | .block call ip duration succeeds =>
      match state.pending call with
      | some _ => none
      | none =>
          if succeeds then some (state.blockIp call ip duration) else some state
  | .insert call =>
      match state.pending call with
      | none => none
      | some ban =>
          if state.locks ban.ip then none else some (state.insertBan call ban)
  | .tick =>
      match state.sweeper with
      | .idle => some { state with sweeper := .sweeping state.clock }
      | _ => none
  | .visit ip succeeds =>
      match state.sweeper, state.bannedIps ip with
      | .sweeping now, some expiration =>
          if expiration ≤ now then
            -- A failed `unblock_ip` keeps the entry for the next tick.
            if succeeds then some (state.unblockIp now ip) else some state
          else some state
      | _, _ => none
  | .remove =>
      match state.sweeper with
      | .removing now ip => some (state.removeBan now ip)
      | _ => none
  | .finish =>
      match state.sweeper with
      | .sweeping _ => some { state with sweeper := .idle }
      | _ => none

/-- The ban manager as a transition system. -/
def banSystem : System BanState BanStep where
  step := banStep

/-! ## What one action can do -/

/-- The effects of an action that is enabled; `unchanged` covers the failed
limiter calls and the visits that keep an entry. -/
inductive BanEffect (state : BanState) : BanStep → BanState → Prop where
  | advanced (elapsed : ℕ) :
      BanEffect state (.advance elapsed) { state with clock := state.clock + elapsed }
  | unchanged (step : BanStep) : BanEffect state step state
  | blocked {call : ℕ} (ip : IpAddr) (duration : ℕ) (free : state.pending call = none) :
      BanEffect state (.block call ip duration true) (state.blockIp call ip duration)
  | inserted {call : ℕ} {ban : PendingBan} (inFlight : state.pending call = some ban)
      (unlocked : state.locks ban.ip = false) :
      BanEffect state (.insert call) (state.insertBan call ban)
  | ticked (idle : state.sweeper = .idle) :
      BanEffect state .tick { state with sweeper := .sweeping state.clock }
  | unblocked {now expiration : ℕ} {ip : IpAddr} (sweeping : state.sweeper = .sweeping now)
      (entry : state.bannedIps ip = some expiration) (expired : expiration ≤ now) :
      BanEffect state (.visit ip true) (state.unblockIp now ip)
  | removed {now : ℕ} {ip : IpAddr} (removing : state.sweeper = .removing now ip) :
      BanEffect state .remove (state.removeBan now ip)
  | finished {now : ℕ} (sweeping : state.sweeper = .sweeping now) :
      BanEffect state .finish { state with sweeper := .idle }

theorem banStep_effect {state next : BanState} {step : BanStep}
    (stepped : banStep state step = some next) : BanEffect state step next := by
  cases step with
  | advance elapsed =>
      cases stepped
      exact .advanced elapsed
  | block call ip duration succeeds =>
      simp only [banStep] at stepped
      split at stepped
      · cases stepped
      · next free =>
          cases succeeds with
          | true =>
              cases stepped
              exact .blocked ip duration free
          | false =>
              cases stepped
              exact .unchanged _
  | insert call =>
      simp only [banStep] at stepped
      split at stepped
      · cases stepped
      · next ban inFlight =>
          cases locked : state.locks ban.ip with
          | true => simp [locked] at stepped
          | false =>
              simp only [locked] at stepped
              cases stepped
              exact .inserted inFlight locked
  | tick =>
      simp only [banStep] at stepped
      split at stepped
      · next idle =>
          cases stepped
          exact .ticked idle
      · cases stepped
  | visit ip succeeds =>
      simp only [banStep] at stepped
      split at stepped
      · next now expiration sweeping entry =>
          split at stepped
          · next expired =>
              cases succeeds with
              | true =>
                  cases stepped
                  exact .unblocked sweeping entry expired
              | false =>
                  cases stepped
                  exact .unchanged _
          · cases stepped
            exact .unchanged _
      · cases stepped
  | remove =>
      simp only [banStep] at stepped
      split at stepped
      · next now ip removing =>
          cases stepped
          exact .removed removing
      · cases stepped
  | finish =>
      simp only [banStep] at stepped
      split at stepped
      · next now sweeping =>
          cases stepped
          exact .finished sweeping
      · cases stepped

end Vortex.Proxy
