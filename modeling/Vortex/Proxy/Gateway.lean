import Vortex.Lib.Unwinding
import Vortex.Proxy.Admission
import Vortex.Proxy.BanDuration

/-!
# The gate over any limiter

`forward_request` up to the choice of a backend, for requests of any number of clients:
each is put to the rate store under the key of its client, and a refusal bans the client.
The sweeper of the ban manager runs in between.  The outcomes of the limiter's calls are part
of the events, so that this is the gate over every limiter at once.

An event has its instant on the monotonic clock of the process, in seconds.
-/

namespace Vortex.Proxy

open Vortex.Core Ebpf Filters Lib

/-- The rate store and the ban manager. -/
structure Gateway where
  keys : Keyspace
  manager : BanManager

/-- What happens at the gate. -/
inductive GatewayEvent (HeaderValue : Type) where
  /-- A request arrives; `blocks` is the outcome of `block_ip`, if it is called. -/
  | request (clientIp : IpAddr) (request : Request HeaderValue) (blocks : Bool)
  /-- A tick of the sweeper. -/
  | tick (fails : IpAddr → Bool)

section Gateway

variable {HeaderValue : Type} (toStr : HeaderValue → Option String) (display : IpAddr → String)

/-- One event at its instant, with the verdict on a request. -/
def Gateway.take (gateway : Gateway) (event : ℕ × GatewayEvent HeaderValue) :
    Gateway × Option (IpAddr × Verdict) :=
  match event.2 with
  | .request clientIp request blocks =>
      let outcome := applyRateLimit toStr display clientIp gateway.keys request
      let manager := match outcome.2 with
        | .tooManyRequests ip banSeconds _ =>
            gateway.manager.banIp event.1 ip banSeconds blocks
        | .proceed => gateway.manager
      ({ keys := outcome.1, manager }, some (clientIp, outcome.2))
  | .tick fails => ({ gateway with manager := gateway.manager.tick event.1 fails }, none)

/-- The gate and its verdicts after some events. -/
def runGateway (gateway : Gateway) (events : List (ℕ × GatewayEvent HeaderValue)) :
    Gateway × List (IpAddr × Verdict) :=
  runOutputs (Gateway.take toStr display) gateway events

/-- The manager is one that has performed some calls. -/
def BanManager.Reached (manager : BanManager) : Prop := ∃ history, InStep history manager

end Gateway

/-! ## The ban manager and one address -/

section Manager

variable {manager : BanManager} {ip : IpAddr}

theorem BanManager.Reached.perform (reached : manager.Reached) (now : ℕ) (call : BanCall) :
    (manager.perform now call).Reached := by
  rcases reached with ⟨history, inStep⟩
  exact ⟨_, inStep.perform now call⟩

/-- What a ban records for an address. -/
theorem BanManager.Reached.lookup_banIp (reached : manager.Reached) (now : ℕ) (banned : IpAddr)
    (duration : ℕ) (succeeds : Bool) (ip : IpAddr) :
    (manager.banIp now banned duration succeeds).bannedIps.lookup ip =
      if ip = banned ∧ succeeds = true then some (now + duration)
      else manager.bannedIps.lookup ip := by
  rcases reached with ⟨history, inStep⟩
  simp only [BanManager.banIp, inStep.limiter]
  cases succeeds with
  | false => rw [if_neg Bool.false_ne_true, if_neg fun both => Bool.false_ne_true both.2]
  | true =>
      rw [if_pos rfl]
      rcases Decidable.eq_or_ne ip banned with rfl | different
      · rw [if_pos ⟨rfl, rfl⟩]
        exact AList.lookup_insert _
      · rw [if_neg fun both => different both.1]
        exact AList.lookup_insert_ne different

/-- What a tick leaves of the entry of an address. -/
theorem BanManager.Reached.lookup_tick (reached : manager.Reached) (now : ℕ)
    (fails : IpAddr → Bool) (ip : IpAddr) :
    (manager.tick now fails).bannedIps.lookup ip =
      (manager.bannedIps.lookup ip).filter (stays now fails ip) := by
  rcases reached with ⟨history, inStep⟩
  exact inStep.lookup_tick now fails ip

end Manager

/-- Two clients, and their texts. -/
def firstClient : IpAddr := .v4 ⟨⟨10, 0, 0, 1⟩⟩

def secondClient : IpAddr := .v4 ⟨⟨10, 0, 0, 2⟩⟩

def clientText (ip : IpAddr) : String := if ip = firstClient then "10.0.0.1" else "10.0.0.2"

/-- Nothing is stored and no one is blocked. -/
def idleGateway : Gateway := ⟨fun _ => none, .new (some ∅)⟩

end Vortex.Proxy
