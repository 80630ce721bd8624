import Vortex.Proxy.Forwarding

/-!
# The request pipeline

`forward_request` after the rate limit, with the connections it uses: select a
backend, pop pooled senders until one is open, wait for it to be ready or open a
connection, send, push the sender back, and return the response, whose body is
then relayed to the client.

Each access to the pool, to a sender's `is_closed` and to the backend is one
action, and so is each resolution of an `await`; any number of executions
interleave with each other, with clients that read response bodies, and with
connections that close.  An execution can be cancelled where it awaits.  The
locks of the pool are left out, which only adds interleavings.

A connection is known by a number.  Of `hyper` it is assumed that `send_request`
resolves when the response head arrives; the body stays outstanding on its
connection until it has been read or dropped.
-/

namespace Vortex.Proxy

open Vortex.Core Lib

/-- A connection, and with it its `SendRequest`. -/
abbrev ConnId := ℕ

/-- An upstream connection: the address it was opened to, and whether it has been
closed. -/
structure Connection where
  addr : SocketAddr
  closed : Bool
  deriving DecidableEq, Repr

/-- Where an execution is, with the backend it has selected. -/
inductive Phase where
  /-- Before the next `queue.pop()`. -/
  | selected (backend : SharedBackend)
  /-- `try_pop` has a sender and has not yet tested `is_closed`. -/
  | popped (backend : SharedBackend) (conn : ConnId)
  /-- At the first `ready()`. -/
  | trying (backend : SharedBackend) (conn : ConnId)
  /-- At `TcpStream::connect`. -/
  | connecting (backend : SharedBackend)
  /-- At `handshake`. -/
  | handshaking (backend : SharedBackend)
  /-- At the second `ready()`. -/
  | holding (backend : SharedBackend) (conn : ConnId)
  /-- At `send_request`. -/
  | sent (backend : SharedBackend) (conn : ConnId)
  /-- The response head has arrived. -/
  | answered (backend : SharedBackend) (conn : ConnId) (hasBody : Bool)
  /-- `push` has found the sender open and not yet queued it. -/
  | offering (backend : SharedBackend) (conn : ConnId) (hasBody : Bool)
  /-- After `push`. -/
  | returning (backend : SharedBackend) (conn : ConnId) (hasBody : Bool)
  /-- `forward_request` has returned and the client reads the body. -/
  | relaying (backend : SharedBackend) (conn : ConnId)
  deriving DecidableEq, Repr

namespace Phase

/-- The backend selected. -/
def backend : Phase → SharedBackend
  | .selected backend | .connecting backend | .handshaking backend => backend
  | .popped backend _ | .trying backend _ | .holding backend _ | .sent backend _ => backend
  | .answered backend _ _ | .offering backend _ _ | .returning backend _ _ => backend
  | .relaying backend _ => backend

/-- The connection whose sender the execution holds. -/
def sender : Phase → Option ConnId
  | .popped _ conn | .trying _ conn | .holding _ conn | .sent _ conn => some conn
  | .answered _ conn _ | .offering _ conn _ => some conn
  | _ => none

/-- The connection on which the body of the response is outstanding. -/
def body : Phase → Option ConnId
  | .answered _ conn true | .offering _ conn true | .returning _ conn true => some conn
  | .relaying _ conn => some conn
  | _ => none

/-- `forward_request` has not returned. -/
def executing : Phase → Bool
  | .relaying _ _ => false
  | _ => true

/-- The execution is at an `await`. -/
def awaits : Phase → Bool
  | .trying _ _ | .connecting _ | .handshaking _ | .holding _ _ | .sent _ _ => true
  | _ => false

end Phase

/-- The shared state, the connections and the requests in progress; requests are
numbered in the order of their selection. -/
structure PipelineState where
  clock : ℕ
  heap : Heap
  table : List SharedBackend
  pool : SocketAddr → List ConnId
  conns : ConnId → Option Connection
  requests : ℕ → Option Phase
  started : ℕ

/-- Actions of the executions and of their surroundings. -/
inductive PipelineStep where
  /-- Time passes. -/
  | advance (elapsed : ℕ)
  /-- A health probe sets the flag of a backend. -/
  | setHealthy (backend : SharedBackend) (healthy : Bool)
  /-- The table is replaced. -/
  | updateBackends (table : List SharedBackend)
  /-- A connection closes. -/
  | close (conn : ConnId)
  /-- `select_best_backend` and `increment_active` of a new execution. -/
  | select
  /-- `queue.pop()` in `try_pop`. -/
  | pop (request : ℕ)
  /-- `is_closed()` in `try_pop`. -/
  | checkPopped (request : ℕ)
  /-- The first `ready()` resolves. -/
  | firstReady (request : ℕ) (ok : Bool)
  /-- `TcpStream::connect` resolves. -/
  | connect (request : ℕ) (ok : Bool)
  /-- `handshake` resolves, with a new connection if it succeeds. -/
  | handshake (request : ℕ) (conn : Option ConnId)
  /-- The second `ready()` resolves; if it succeeds, `send_request` is called. -/
  | secondReady (request : ℕ) (ok : Bool)
  /-- `send_request` resolves; if it succeeds, `record_success`. -/
  | respond (request : ℕ) (hasBody : Option Bool)
  /-- `is_closed()` in `push`. -/
  | offer (request : ℕ)
  /-- `queue.push(sender)` in `push`. -/
  | push (request : ℕ)
  /-- `observe_latency`, and `forward_request` returns the response. -/
  | finish (request : ℕ) (rttMs : ℚ)
  /-- The client has read the body to its end or dropped it. -/
  | relayed (request : ℕ)
  /-- The execution is dropped at an `await`. -/
  | cancel (request : ℕ)
  deriving DecidableEq, Repr

namespace PipelineState

/-- Before the first request. -/
def initial (clock : ℕ) (heap : Heap) (table : List SharedBackend) : PipelineState where
  clock
  heap
  table
  pool := fun _ => []
  conns := fun _ => none
  requests := fun _ => none
  started := 0

/-- `sender.is_closed()`. -/
def isClosed (state : PipelineState) (conn : ConnId) : Bool :=
  (state.conns conn).any Connection.closed

/-- The connection closes. -/
@[simps] def closeConn (state : PipelineState) (conn : ConnId) (connection : Connection) :
    PipelineState :=
  { state with conns := Function.update state.conns conn (some { connection with closed := true }) }

/-- A new execution has selected the backend. -/
@[simps] def start (state : PipelineState) (backend : SharedBackend) : PipelineState :=
  { state with
    heap := state.heap.modify backend fun b => { b with ewma := b.ewma.incrementActive }
    requests := Function.update state.requests state.started (some (.selected backend))
    started := state.started + 1 }

/-- The request moves on. -/
@[simps] def move (state : PipelineState) (request : ℕ) (phase : Phase) : PipelineState :=
  { state with requests := Function.update state.requests request (some phase) }

/-- The first sender of the backend's queue goes to the request. -/
@[simps] def take (state : PipelineState) (request : ℕ) (backend : SharedBackend) (conn : ConnId)
    (queue : List ConnId) : PipelineState :=
  { state with
    pool := Function.update state.pool (state.heap backend).addr queue
    requests := Function.update state.requests request (some (.popped backend conn)) }

/-- The request has a new connection to its backend. -/
@[simps] def openConn (state : PipelineState) (request : ℕ) (backend : SharedBackend)
    (conn : ConnId) : PipelineState :=
  { state with
    conns := Function.update state.conns conn
      (some { addr := (state.heap backend).addr, closed := false })
    requests := Function.update state.requests request (some (.holding backend conn)) }

/-- The sender goes to the end of the backend's queue. -/
@[simps] def put (state : PipelineState) (request : ℕ) (backend : SharedBackend) (conn : ConnId)
    (hasBody : Bool) : PipelineState :=
  { state with
    pool := Function.update state.pool (state.heap backend).addr
      (state.pool (state.heap backend).addr ++ [conn])
    requests := Function.update state.requests request (some (.returning backend conn hasBody)) }

/-- The function returns: what it reports to the backend, and its guard dropped. -/
@[simps] def settle (state : PipelineState) (request : ℕ) (backend : SharedBackend)
    (report : Backend → Backend) (after : Option Phase) : PipelineState :=
  { state with
    heap := state.heap.modify backend fun b =>
      { report b with ewma := (report b).ewma.dropGuard }
    requests := Function.update state.requests request after }

/-- The body has been relayed. -/
@[simps] def endRelay (state : PipelineState) (request : ℕ) : PipelineState :=
  { state with requests := Function.update state.requests request none }

end PipelineState

/-- `circuit_breaker.record_success()`. -/
def recordSuccess (backend : Backend) : Backend :=
  { backend with circuitBreaker := backend.circuitBreaker.recordSuccess }

/-- `ewma.observe_latency(rtt_ms)`. -/
def observeLatency (rttMs : ℚ) (backend : Backend) : Backend :=
  { backend with ewma := backend.ewma.observeLatency rttMs }

/-- One action. -/
def pipelineStep (state : PipelineState) : PipelineStep → Option PipelineState
  | .advance elapsed => some { state with clock := state.clock + elapsed }
  | .setHealthy backend healthy =>
      some { state with heap := state.heap.modify backend fun b => { b with healthy } }
  | .updateBackends table => some { state with table }
  | .close conn => (state.conns conn).map (state.closeConn conn)
  | .select =>
      match selectBestBackend state.heap state.clock state.table with
      | some backend => some (state.start backend)
      -- `no_healthy_upstream`: the execution ends at once.
      | none => some state
  | .pop request =>
      match state.requests request with
      | some (.selected backend) =>
          match state.pool (state.heap backend).addr with
          | [] => some (state.move request (.connecting backend))
          | conn :: queue => some (state.take request backend conn queue)
      | _ => none
  | .checkPopped request =>
      match state.requests request with
      | some (.popped backend conn) =>
          -- A closed sender is dropped and the loop goes on.
          if state.isClosed conn then some (state.move request (.selected backend))
          else some (state.move request (.trying backend conn))
      | _ => none
  | .firstReady request ok =>
      match state.requests request with
      | some (.trying backend conn) =>
          if ok then some (state.move request (.holding backend conn))
          else some (state.move request (.connecting backend))
      | _ => none
  | .connect request ok =>
      match state.requests request with
      | some (.connecting backend) =>
          if ok then some (state.move request (.handshaking backend))
          else some (state.settle request backend (reportFailure state.clock) none)
      | _ => none
  | .handshake request conn =>
      match state.requests request, conn with
      | some (.handshaking backend), some conn =>
          if (state.conns conn).isNone then some (state.openConn request backend conn) else none
      | some (.handshaking backend), none =>
          some (state.settle request backend (reportFailure state.clock) none)
      | _, _ => none
  | .secondReady request ok =>
      match state.requests request with
      | some (.holding backend conn) =>
          if ok then some (state.move request (.sent backend conn))
          else some (state.settle request backend id none)
      | _ => none
  | .respond request hasBody =>
      match state.requests request, hasBody with
      | some (.sent backend conn), some hasBody =>
          some ({ state with heap := state.heap.modify backend recordSuccess }.move request
            (.answered backend conn hasBody))
      | some (.sent backend _), none =>
          some (state.settle request backend (reportFailure state.clock) none)
      | _, _ => none
  | .offer request =>
      match state.requests request with
      | some (.answered backend conn hasBody) =>
          if state.isClosed conn then some (state.move request (.returning backend conn hasBody))
          else some (state.move request (.offering backend conn hasBody))
      | _ => none
  | .push request =>
      match state.requests request with
      | some (.offering backend conn hasBody) => some (state.put request backend conn hasBody)
      | _ => none
  | .finish request rttMs =>
      match state.requests request with
      | some (.returning backend conn hasBody) =>
          some (state.settle request backend (observeLatency rttMs)
            (if hasBody then some (.relaying backend conn) else none))
      | _ => none
  | .relayed request =>
      match state.requests request with
      | some (.relaying _ _) => some (state.endRelay request)
      | _ => none
  | .cancel request =>
      match state.requests request with
      | some phase =>
          if phase.awaits then some (state.settle request phase.backend id none) else none
      | none => none

/-- The pipeline as a transition system. -/
def pipelineSystem : System PipelineState PipelineStep where
  step := pipelineStep

/-! ## What one action can do -/

/-- What the actions of the pipeline keep of a backend, apart from guards. -/
def kept (backend : Backend) : SocketAddr × ℕ := (backend.addr, backend.ewma.activeRequests)

/-- The moves of a request that touch neither the pool nor its guard, except for
offering a sender. -/
inductive Move : Phase → Phase → Prop where
  | poolEmpty (backend : SharedBackend) : Move (.selected backend) (.connecting backend)
  | droppedClosed (backend : SharedBackend) (conn : ConnId) :
      Move (.popped backend conn) (.selected backend)
  | keptOpen (backend : SharedBackend) (conn : ConnId) :
      Move (.popped backend conn) (.trying backend conn)
  | ready (backend : SharedBackend) (conn : ConnId) :
      Move (.trying backend conn) (.holding backend conn)
  | notReady (backend : SharedBackend) (conn : ConnId) :
      Move (.trying backend conn) (.connecting backend)
  | connected (backend : SharedBackend) : Move (.connecting backend) (.handshaking backend)
  | sent (backend : SharedBackend) (conn : ConnId) :
      Move (.holding backend conn) (.sent backend conn)
  | answered (backend : SharedBackend) (conn : ConnId) (hasBody : Bool) :
      Move (.sent backend conn) (.answered backend conn hasBody)
  | refused (backend : SharedBackend) (conn : ConnId) (hasBody : Bool) :
      Move (.answered backend conn hasBody) (.returning backend conn hasBody)

namespace Move

variable {before after : Phase} {conn : ConnId}

theorem backend_eq (move : Move before after) : after.backend = before.backend := by
  cases move <;> rfl

theorem executing_eq (move : Move before after) :
    before.executing = true ∧ after.executing = true := by
  cases move <;> exact ⟨rfl, rfl⟩

/-- A move gives no sender to the request. -/
theorem sender_before (move : Move before after) (holds : after.sender = some conn) :
    before.sender = some conn := by
  cases move <;> first | exact holds | cases holds

/-- A move starts no body but that of the response to the sender held. -/
theorem body_before (move : Move before after) (outstanding : after.body = some conn) :
    before.body = some conn ∨ before.sender = some conn ∧ after.sender = some conn := by
  cases move with
  | answered backend conn hasBody =>
      cases hasBody with
      | true => exact .inr ⟨outstanding, outstanding⟩
      | false => cases outstanding
  | refused backend conn hasBody =>
      cases hasBody with
      | true => exact .inl outstanding
      | false => cases outstanding
  | _ => cases outstanding

end Move

/-- The effects of an action that is enabled. -/
inductive PipelineEffect (state : PipelineState) : PipelineStep → PipelineState → Prop where
  /-- Nothing that belongs to a request changes. -/
  | ambient {step : PipelineStep} (clock : ℕ) (table : List SharedBackend) {heap : Heap}
      (keeps : ∀ backend, kept (heap backend) = kept (state.heap backend)) :
      PipelineEffect state step { state with clock, heap, table }
  | closed {conn : ConnId} {connection : Connection} (known : state.conns conn = some connection) :
      PipelineEffect state (.close conn) (state.closeConn conn connection)
  | started (backend : SharedBackend) : PipelineEffect state .select (state.start backend)
  | moved {step : PipelineStep} {request : ℕ} {before after : Phase} {heap : Heap}
      (running : state.requests request = some before) (move : Move before after)
      (keeps : ∀ backend, kept (heap backend) = kept (state.heap backend)) :
      PipelineEffect state step ({ state with heap }.move request after)
  | took {request : ℕ} {backend : SharedBackend} {conn : ConnId} {queue : List ConnId}
      (running : state.requests request = some (.selected backend))
      (queued : state.pool (state.heap backend).addr = conn :: queue) :
      PipelineEffect state (.pop request) (state.take request backend conn queue)
  | opened {request : ℕ} {backend : SharedBackend} {conn : ConnId}
      (running : state.requests request = some (.handshaking backend))
      (fresh : state.conns conn = none) :
      PipelineEffect state (.handshake request (some conn)) (state.openConn request backend conn)
  | offered {request : ℕ} {backend : SharedBackend} {conn : ConnId} {hasBody : Bool}
      (running : state.requests request = some (.answered backend conn hasBody))
      (isOpen : state.isClosed conn = false) :
      PipelineEffect state (.offer request) (state.move request (.offering backend conn hasBody))
  | pushed {request : ℕ} {backend : SharedBackend} {conn : ConnId} {hasBody : Bool}
      (running : state.requests request = some (.offering backend conn hasBody)) :
      PipelineEffect state (.push request) (state.put request backend conn hasBody)
  /-- The request is over: it failed, was cancelled, or has no body to relay. -/
  | left {step : PipelineStep} {request : ℕ} {before : Phase} {report : Backend → Backend}
      (running : state.requests request = some before) (executing : before.executing = true)
      (keeps : ∀ backend, kept (report backend) = kept backend) :
      PipelineEffect state step (state.settle request before.backend report none)
  /-- The function returns a response whose body is still to be relayed. -/
  | returned {request : ℕ} {backend : SharedBackend} {conn : ConnId} (rttMs : ℚ)
      (running : state.requests request = some (.returning backend conn true)) :
      PipelineEffect state (.finish request rttMs)
        (state.settle request backend (observeLatency rttMs) (some (.relaying backend conn)))
  | relayed {request : ℕ} {backend : SharedBackend} {conn : ConnId}
      (running : state.requests request = some (.relaying backend conn)) :
      PipelineEffect state (.relayed request) (state.endRelay request)

/-- What holds of every running request, after one of them has changed. -/
theorem forall_running_update {state next : PipelineState} {request : ℕ} {after : Option Phase}
    (updated : next.requests = Function.update state.requests request after)
    {property : ℕ → Phase → Prop} (own : ∀ phase, after = some phase → property request phase)
    (others : ∀ other phase, state.requests other = some phase → property other phase) :
    ∀ other phase, next.requests other = some phase → property other phase := by
  rw [updated]
  apply (Function.forall_update_iff state.requests fun other current =>
    ∀ phase, current = some phase → property other phase).mpr
  exact ⟨own, fun other _ => others other⟩

/-- A request that moves and leaves the heap alone. -/
theorem PipelineEffect.of_move {state : PipelineState} {step : PipelineStep} {request : ℕ}
    {before after : Phase} (running : state.requests request = some before)
    (move : Move before after) : PipelineEffect state step (state.move request after) :=
  .moved running move fun _ => rfl

theorem pipelineStep_effect {state next : PipelineState} {step : PipelineStep}
    (stepped : pipelineStep state step = some next) : PipelineEffect state step next := by
  cases step with
  | advance elapsed =>
      cases stepped
      exact .ambient _ _ fun _ => rfl
  | setHealthy backend healthy =>
      cases stepped
      exact .ambient _ _ (Heap.modify_keeps kept rfl)
  | updateBackends table =>
      cases stepped
      exact .ambient _ _ fun _ => rfl
  | close conn =>
      rcases Option.map_eq_some_iff.mp stepped with ⟨connection, known, rfl⟩
      exact .closed known
  | select =>
      simp only [pipelineStep] at stepped
      split at stepped
      · cases stepped
        exact .started _
      · cases stepped
        exact .ambient _ _ fun _ => rfl
  | pop request =>
      simp only [pipelineStep] at stepped
      split at stepped
      · next backend running =>
          split at stepped
          · cases stepped
            exact .of_move running (.poolEmpty backend)
          · next conn queue queued =>
              cases stepped
              exact .took running queued
      · cases stepped
  | checkPopped request =>
      simp only [pipelineStep] at stepped
      split at stepped
      · next backend conn running =>
          split at stepped
          · cases stepped
            exact .of_move running (.droppedClosed backend conn)
          · cases stepped
            exact .of_move running (.keptOpen backend conn)
      · cases stepped
  | firstReady request ok =>
      simp only [pipelineStep] at stepped
      split at stepped
      · next backend conn running =>
          cases ok with
          | true =>
              cases stepped
              exact .of_move running (.ready backend conn)
          | false =>
              cases stepped
              exact .of_move running (.notReady backend conn)
      · cases stepped
  | connect request ok =>
      simp only [pipelineStep] at stepped
      split at stepped
      · next backend running =>
          cases ok with
          | true =>
              cases stepped
              exact .of_move running (.connected backend)
          | false =>
              cases stepped
              exact .left running rfl fun _ => rfl
      · cases stepped
  | handshake request conn =>
      simp only [pipelineStep] at stepped
      split at stepped
      · next backend conn running =>
          rw [Option.ite_none_right_eq_some] at stepped
          rcases stepped with ⟨fresh, ⟨⟩⟩
          exact .opened running (Option.isNone_iff_eq_none.mp fresh)
      · next backend running =>
          cases stepped
          exact .left running rfl fun _ => rfl
      · cases stepped
  | secondReady request ok =>
      simp only [pipelineStep] at stepped
      split at stepped
      · next backend conn running =>
          cases ok with
          | true =>
              cases stepped
              exact .of_move running (.sent backend conn)
          | false =>
              cases stepped
              exact .left running rfl fun _ => rfl
      · cases stepped
  | respond request hasBody =>
      simp only [pipelineStep] at stepped
      split at stepped
      · next backend conn hasBody running =>
          cases stepped
          exact .moved running (.answered backend conn hasBody) (Heap.modify_keeps kept rfl)
      · next backend conn running =>
          cases stepped
          exact .left running rfl fun _ => rfl
      · cases stepped
  | offer request =>
      simp only [pipelineStep] at stepped
      split at stepped
      · next backend conn hasBody running =>
          split at stepped
          · cases stepped
            exact .of_move running (.refused backend conn hasBody)
          · next isOpen =>
              cases stepped
              exact .offered running (Bool.eq_false_iff.mpr isOpen)
      · cases stepped
  | push request =>
      simp only [pipelineStep] at stepped
      split at stepped
      · next backend conn hasBody running =>
          cases stepped
          exact .pushed running
      · cases stepped
  | finish request rttMs =>
      simp only [pipelineStep] at stepped
      split at stepped
      · next backend conn hasBody running =>
          cases hasBody with
          | true =>
              cases stepped
              exact .returned rttMs running
          | false =>
              cases stepped
              exact .left running rfl fun _ => rfl
      · cases stepped
  | relayed request =>
      simp only [pipelineStep] at stepped
      split at stepped
      · next backend conn running =>
          cases stepped
          exact .relayed running
      · cases stepped
  | cancel request =>
      simp only [pipelineStep] at stepped
      split at stepped
      · next phase running =>
          rw [Option.ite_none_right_eq_some] at stepped
          rcases stepped with ⟨awaiting, ⟨⟩⟩
          apply PipelineEffect.left running _ fun _ => rfl
          cases phase with
          | relaying backend conn => cases awaiting
          | _ => rfl
      · cases stepped

/-! ## The request of an action -/

/-- The request whose action it is. -/
def PipelineStep.request : PipelineStep → Option ℕ
  | .pop request | .checkPopped request | .firstReady request _ | .connect request _ => some request
  | .handshake request _ | .secondReady request _ | .respond request _ => some request
  | .offer request | .push request | .finish request _ | .relayed request => some request
  | .cancel request => some request
  | .advance _ | .setHealthy _ _ | .updateBackends _ | .close _ | .select => none

/-- An action of a request is enabled only if the request runs, and concerns no other. -/
theorem requests_pipelineStep {state next : PipelineState} {step : PipelineStep} {request : ℕ}
    (own : step.request = some request) (stepped : pipelineStep state step = some next) :
    (state.requests request).isSome ∧
      ∃ after, next.requests = Function.update state.requests request after := by
  cases step with
  | advance elapsed | setHealthy backend healthy | updateBackends table | close conn | select =>
      cases own
  | pop request | checkPopped request | offer request =>
      cases own
      simp only [pipelineStep] at stepped
      split at stepped
      · next running =>
          split at stepped <;> cases stepped <;> exact ⟨by rw [running]; rfl, _, rfl⟩
      · cases stepped
  | firstReady request ok | connect request ok | secondReady request ok =>
      cases own
      simp only [pipelineStep] at stepped
      split at stepped
      · next running =>
          split at stepped <;> cases stepped <;> exact ⟨by rw [running]; rfl, _, rfl⟩
      · cases stepped
  | handshake request conn =>
      cases own
      simp only [pipelineStep] at stepped
      split at stepped
      · next running =>
          rcases Option.ite_none_right_eq_some.mp stepped with ⟨_, ⟨⟩⟩
          exact ⟨by rw [running]; rfl, _, rfl⟩
      · next running =>
          cases stepped
          exact ⟨by rw [running]; rfl, _, rfl⟩
      · cases stepped
  | respond request hasBody =>
      cases own
      simp only [pipelineStep] at stepped
      split at stepped
      · next running =>
          cases stepped
          exact ⟨by rw [running]; rfl, _, rfl⟩
      · next running =>
          cases stepped
          exact ⟨by rw [running]; rfl, _, rfl⟩
      · cases stepped
  | push request | finish request rttMs | relayed request =>
      cases own
      simp only [pipelineStep] at stepped
      split at stepped
      · next running =>
          cases stepped
          exact ⟨by rw [running]; rfl, _, rfl⟩
      · cases stepped
  | cancel request =>
      cases own
      simp only [pipelineStep] at stepped
      split at stepped
      · next running =>
          rcases Option.ite_none_right_eq_some.mp stepped with ⟨_, ⟨⟩⟩
          exact ⟨by rw [running]; rfl, _, rfl⟩
      · cases stepped

/-- The surroundings leave the requests alone. -/
theorem requests_surroundings {state next : PipelineState} {step : PipelineStep}
    (outside : step.request = none ∧ step ≠ .select)
    (stepped : pipelineStep state step = some next) : next.requests = state.requests := by
  cases step with
  | advance elapsed | setHealthy backend healthy | updateBackends table =>
      cases stepped
      rfl
  | close conn =>
      rcases Option.map_eq_some_iff.mp stepped with ⟨connection, _, rfl⟩
      rfl
  | select => exact absurd rfl outside.2
  | _ => cases outside.1

end Vortex.Proxy
