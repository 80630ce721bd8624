import Vortex.Proxy.Forwarding
import Mathlib.Data.List.DropRight

/-!
# From the selected backend to the response

The part of `forward_request` that follows the selection: take a pooled sender or
open a connection, wait until the sender is ready, send the request, and report
to the backend's breaker on the way out.  Each point at which the function may
return is an `Exit`, with what it replies and what it reports.

All exits without a response report a failure except one: a sender that is not
ready at the second `ready()` makes the function return an error and report
nothing.
-/

namespace Vortex.Proxy

open Vortex.Core Lib

/-- What `try_pop` and the first `ready()` yield. -/
inductive PooledSender where
  | absent
  | notReady
  | ready
  deriving DecidableEq, Repr

/-- How the steps of one execution turn out, with the second at which its outcome
is recorded. `response` is the result of `send_request`. -/
structure Attempt where
  pooled : PooledSender
  connects : Bool
  handshakes : Bool
  senderReady : Bool
  response : Option Response
  now : ℕ
  rttMs : ℚ
  deriving DecidableEq, Repr

/-- The points at which the function returns after the selection. -/
inductive Exit where
  | connectionFailed
  | handshakeFailed
  | senderNotReady
  | requestFailed
  | responded (response : Response)
  deriving DecidableEq, Repr

namespace Attempt

/-- Step 4: the second `ready()` and `send_request`. -/
def send (attempt : Attempt) : Exit :=
  if !attempt.senderReady then .senderNotReady
  else
    match attempt.response with
    | some response => .responded response
    | none => .requestFailed

/-- Steps 2 to 4. -/
def exit (attempt : Attempt) : Exit :=
  match attempt.pooled with
  | .ready => attempt.send
  | .absent | .notReady =>
      if !attempt.connects then .connectionFailed
      else if !attempt.handshakes then .handshakeFailed
      else attempt.send

end Attempt

/-- The responses of the failing exits. -/
def serviceUnavailable (body : String) : Response where
  status := 503
  headers := [("Content-Type", "application/json")]
  body

namespace Exit

/-- What the function returns. -/
def reply : Exit → Except String Response
  | .connectionFailed =>
      .ok (serviceUnavailable "\x7b\"error\": \"upstream_connection_failed\", \"message\": \"Failed to establish a connection to the upstream server.\"\x7d")
  | .handshakeFailed =>
      .ok (serviceUnavailable "\x7b\"error\": \"upstream_handshake_failed\", \"message\": \"Failed to negotiate HTTP with the upstream server.\"\x7d")
  | .senderNotReady => .error "Failed to prepare connection sender"
  | .requestFailed =>
      .ok (serviceUnavailable "\x7b\"error\": \"upstream_request_failed\", \"message\": \"Failed to proxy the request to the upstream server.\"\x7d")
  | .responded response => .ok response

/-- What the function reports to the backend. -/
def report (now : ℕ) (rttMs : ℚ) : Exit → Backend → Backend
  | .connectionFailed => reportFailure now
  | .handshakeFailed => reportFailure now
  | .senderNotReady => id
  | .requestFailed => reportFailure now
  | .responded _ => reportSuccess rttMs

/-- The exit as actions of an execution that has selected `backend`. -/
def steps (request : ℕ) (backend : SharedBackend) (rttMs : ℚ) : Exit → List ForwardStep
  | .connectionFailed => [.fail request backend]
  | .handshakeFailed => [.fail request backend]
  | .senderNotReady => [.abandon request backend]
  | .requestFailed => [.dispatch request backend, .fail request backend]
  | .responded _ => [.dispatch request backend, .succeed request backend rttMs]

end Exit

/-- `forward_request` from the selected backend on, run without interference. -/
def forwardUpstream (backend : Backend) (attempt : Attempt) :
    Backend × Except String Response :=
  let entered := { backend with ewma := backend.ewma.incrementActive }
  let left := attempt.exit.report attempt.now attempt.rttMs entered
  ({ left with ewma := left.ewma.dropGuard }, attempt.exit.reply)

/-- Executions on one backend, one after the other. -/
def forwardAll (backend : Backend) (attempts : List Attempt) : Backend :=
  attempts.foldl (fun backend attempt => (forwardUpstream backend attempt).1) backend

@[simp] theorem forwardAll_concat (backend : Backend) (attempts : List Attempt)
    (attempt : Attempt) :
    forwardAll backend (attempts ++ [attempt]) =
      (forwardUpstream (forwardAll backend attempts) attempt).1 := by
  simp [forwardAll]

/-! ## An execution that runs alone -/

theorem ForwardState.finish_dispatch (state : ForwardState) (request : ℕ)
    (backend : SharedBackend) (report : Backend → Backend) :
    (state.dispatch request backend).finish request backend report =
      state.finish request backend report := by
  simp [ForwardState.dispatch, ForwardState.finish]

theorem ForwardState.finish_select {state : ForwardState} {request : ℕ}
    (free : state.requests request = none) (backend : SharedBackend)
    (report : Backend → Backend) :
    (state.select request backend).finish request backend report =
      { state with
        heap := state.heap.modify backend fun b =>
          let left := report { b with ewma := b.ewma.incrementActive }
          { left with ewma := left.ewma.dropGuard } } := by
  simp [ForwardState.select, ForwardState.finish, Heap.modify, ← free]

/-- The actions of an exit report what the exit reports. -/
theorem run_steps {state : ForwardState} {request : ℕ} {backend : SharedBackend}
    (holding : state.requests request = some (.selected backend)) (rttMs : ℚ) (exit : Exit) :
    forwardSystem.run state (exit.steps request backend rttMs) =
      some (state.finish request backend (exit.report state.clock rttMs)) := by
  have waiting : (state.dispatch request backend).requests request =
      some (.dispatched backend) := Function.update_self ..
  cases exit with
  | connectionFailed =>
      simp [System.run, Exit.steps, forwardSystem, forwardStep, holding, Exit.report]
  | handshakeFailed =>
      simp [System.run, Exit.steps, forwardSystem, forwardStep, holding, Exit.report]
  | senderNotReady =>
      simp [System.run, Exit.steps, forwardSystem, forwardStep, holding, Exit.report]
  | requestFailed =>
      simp [System.run, Exit.steps, forwardSystem, forwardStep, holding, waiting, Exit.report,
        ForwardState.finish_dispatch]
      rfl
  | responded response =>
      simp [System.run, Exit.steps, forwardSystem, forwardStep, holding, waiting, Exit.report,
        ForwardState.finish_dispatch]

/-- Undisturbed, the actions of an execution perform it on the backend it
selects and leave everything else as it was. -/
theorem run_forward {state : ForwardState} {request : ℕ} {backend : SharedBackend}
    (free : state.requests request = none)
    (chosen : selectBestBackend state.heap state.clock state.table = some backend)
    {attempt : Attempt} (sameClock : attempt.now = state.clock) :
    forwardSystem.run state
        (.select request :: attempt.exit.steps request backend attempt.rttMs) =
      some { state with
        heap := state.heap.modify backend fun b => (forwardUpstream b attempt).1 } := by
  have selected : forwardStep state (.select request) = some (state.select request backend) := by
    simp only [forwardStep, free, chosen]
  rw [System.run_cons selected, run_steps (Function.update_self ..),
    ForwardState.finish_select free]
  simp only [forwardUpstream, sameClock]
  rfl

/-! ## What reaches the breaker -/

namespace Attempt

/-- A sender is at hand: pooled and ready, or on a new connection. -/
def hasSender (attempt : Attempt) : Bool :=
  attempt.pooled == .ready || (attempt.connects && attempt.handshakes)

/-- The execution receives an upstream response. -/
def responds (attempt : Attempt) : Bool :=
  attempt.hasSender && attempt.senderReady && attempt.response.isSome

/-- The execution has a sender, which is not ready at the second `ready()`. -/
def failsReady (attempt : Attempt) : Bool :=
  attempt.hasSender && !attempt.senderReady

variable {attempt : Attempt}

theorem exit_of_hasSender (sender : attempt.hasSender = true) :
    attempt.exit = attempt.send := by
  unfold hasSender at sender
  cases pooled : attempt.pooled with
  | ready => simp [exit, pooled]
  | absent => simp_all [exit]
  | notReady => simp_all [exit]

theorem exit_of_not_hasSender (noSender : attempt.hasSender = false) :
    attempt.exit = .connectionFailed ∨ attempt.exit = .handshakeFailed := by
  unfold hasSender at noSender
  cases connects : attempt.connects with
  | false => cases pooled : attempt.pooled <;> simp_all [exit]
  | true => cases pooled : attempt.pooled <;> simp_all [exit]

end Attempt

/-- The executions since the last one that received a response. -/
def sinceResponse (attempts : List Attempt) : List Attempt :=
  attempts.rtakeWhile fun attempt => !attempt.responds

/-- One execution clears the counter, leaves it or increments it. -/
theorem failureCount_forwardUpstream (backend : Backend) (attempt : Attempt) :
    (forwardUpstream backend attempt).1.circuitBreaker.failureCount =
      if attempt.responds then 0
      else if attempt.failsReady then backend.circuitBreaker.failureCount
      else backend.circuitBreaker.failureCount + 1 := by
  cases sender : attempt.hasSender with
  | false =>
      rcases Attempt.exit_of_not_hasSender sender with exit | exit
      · simp [forwardUpstream, exit, Attempt.responds, Attempt.failsReady, sender, Exit.report,
          reportFailure]
      · simp [forwardUpstream, exit, Attempt.responds, Attempt.failsReady, sender, Exit.report,
          reportFailure]
  | true =>
      have exit := Attempt.exit_of_hasSender sender
      cases ready : attempt.senderReady with
      | false =>
          simp [forwardUpstream, exit, Attempt.send, Attempt.responds, Attempt.failsReady,
            sender, ready, Exit.report]
      | true =>
          cases response : attempt.response with
          | none =>
              simp [forwardUpstream, exit, Attempt.send, Attempt.responds, Attempt.failsReady,
                sender, ready, response, Exit.report, reportFailure]
          | some reply =>
              simp [forwardUpstream, exit, Attempt.send, Attempt.responds, sender, ready,
                response, Exit.report, reportSuccess]

/-- The counter counts the executions since the last response, except those whose
sender was not ready. -/
theorem failureCount_forwardAll {backend : Backend}
    (fresh : backend.circuitBreaker.failureCount = 0) (attempts : List Attempt) :
    (forwardAll backend attempts).circuitBreaker.failureCount =
      .ofNat ((sinceResponse attempts).countP fun attempt => !attempt.failsReady) := by
  induction attempts using List.reverseRecOn with
  | nil => exact fresh
  | append_singleton attempts attempt ih =>
      rw [forwardAll_concat, failureCount_forwardUpstream, ih, sinceResponse, sinceResponse,
        List.rtakeWhile_concat]
      cases responds : attempt.responds with
      | true => simp
      | false =>
          cases failsReady : attempt.failsReady with
          | true => simp [failsReady]
          | false => simp [failsReady]

/-- After any sequence of executions on a backend the failure count is the number
of executions without a response since the last response, exactly when none of
these failed at the second `ready()` and their number fits the counter. -/
theorem failure_count_exact_iff {backend : Backend}
    (fresh : backend.circuitBreaker.failureCount = 0) (attempts : List Attempt) :
    (forwardAll backend attempts).circuitBreaker.failureCount.toNat =
        (sinceResponse attempts).length ↔
      (∀ attempt ∈ sinceResponse attempts, attempt.failsReady = false) ∧
        (sinceResponse attempts).length < 2 ^ 64 := by
  rw [failureCount_forwardAll fresh, UInt64.toNat_ofNat']
  have atMost := List.countP_le_length
    (p := fun attempt : Attempt => !attempt.failsReady) (l := sinceResponse attempts)
  constructor
  · intro exact
    have fits : (sinceResponse attempts).length < 2 ^ 64 := by
      rw [← exact]
      exact Nat.mod_lt _ (by decide)
    rw [Nat.mod_eq_of_lt (Nat.lt_of_le_of_lt atMost fits), List.countP_eq_length] at exact
    refine ⟨?_, fits⟩
    intro attempt membership
    simpa using exact attempt membership
  · intro clean
    rcases clean with ⟨reported, fits⟩
    have all : (sinceResponse attempts).countP (fun attempt => !attempt.failsReady) =
        (sinceResponse attempts).length := by
      rw [List.countP_eq_length]
      intro attempt membership
      simp [reported attempt membership]
    rw [all, Nat.mod_eq_of_lt fits]

/-- An execution without a pooled sender that ends without a response. -/
def newConnection (connects senderReady : Bool) : Attempt where
  pooled := .absent
  connects
  handshakes := true
  senderReady
  response := none
  now := 100
  rttMs := 0

/-- Two refused connections are both counted. -/
theorem failure_count_exact_refused :
    (forwardAll (.new ⟨1⟩ ⟨.v4 ⟨⟨127, 0, 0, 1⟩⟩, 8080⟩)
        [newConnection false true, newConnection false true]).circuitBreaker.failureCount.toNat =
      (sinceResponse [newConnection false true, newConnection false true]).length :=
  (failure_count_exact_iff rfl _).mpr ⟨by decide, by decide⟩

/-- An execution that connects and then finds its sender not ready ends without a
response and is not counted. -/
theorem failure_count_missed :
    (forwardAll (.new ⟨1⟩ ⟨.v4 ⟨⟨127, 0, 0, 1⟩⟩, 8080⟩)
        [newConnection true false]).circuitBreaker.failureCount.toNat = 0 ∧
      (sinceResponse [newConnection true false]).length = 1 ∧
      (newConnection true false).exit.reply = .error "Failed to prepare connection sender" :=
  ⟨rfl, rfl, rfl⟩

end Vortex.Proxy
