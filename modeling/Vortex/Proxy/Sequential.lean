import Vortex.Proxy.Pipeline
import Vortex.Proxy.Upstream

/-!
# An execution of the pipeline that runs alone

Undisturbed, the actions of one execution pop from the queue what `try_pop`
returns, and perform `forwardUpstream` on the backend that was selected.
-/

namespace Vortex.Proxy

open Vortex.Core Lib

/-! ## `try_pop` -/

/-- `try_pop`: the first sender of the queue that is not closed, and what is left
of the queue. -/
def tryPop (isClosed : ConnId → Bool) : List ConnId → Option ConnId × List ConnId
  | [] => (none, [])
  | conn :: queue => if isClosed conn then tryPop isClosed queue else (some conn, queue)

/-- The actions of `try_pop`. -/
def tryPopSteps (request : ℕ) (isClosed : ConnId → Bool) : List ConnId → List PipelineStep
  | [] => [.pop request]
  | conn :: queue =>
      .pop request :: .checkPopped request ::
        if isClosed conn then tryPopSteps request isClosed queue else []

theorem tryPop_open {isClosed : ConnId → Bool} {queue : List ConnId} {conn : ConnId}
    (popped : (tryPop isClosed queue).1 = some conn) : isClosed conn = false := by
  induction queue with
  | nil => cases popped
  | cons first queue ih =>
      rw [tryPop] at popped
      split at popped
      · exact ih popped
      · next isOpen =>
          cases popped
          exact Bool.eq_false_iff.mpr isOpen

/-- The execution after `try_pop`: with a sender, or about to connect. -/
def PipelineState.afterPop (state : PipelineState) (request : ℕ) (backend : SharedBackend)
    (popped : Option ConnId × List ConnId) : PipelineState :=
  { state with
    pool := Function.update state.pool (state.heap backend).addr popped.2
    requests := Function.update state.requests request
      (some (popped.1.elim (.connecting backend) (.trying backend))) }

theorem run_tryPop {state : PipelineState} {request : ℕ} {backend : SharedBackend}
    (running : state.requests request = some (.selected backend)) {queue : List ConnId}
    (queued : state.pool (state.heap backend).addr = queue) :
    pipelineSystem.run state (tryPopSteps request state.isClosed queue) =
      some (state.afterPop request backend (tryPop state.isClosed queue)) := by
  induction queue generalizing state with
  | nil =>
      have popped : pipelineStep state (.pop request) =
          some (state.move request (.connecting backend)) := by
        simp only [pipelineStep, running, queued]
      rw [tryPopSteps, System.run_cons popped, tryPop, PipelineState.afterPop, ← queued,
        Function.update_eq_self]
      rfl
  | cons conn queue ih =>
      have popped : pipelineStep state (.pop request) =
          some (state.take request backend conn queue) := by
        simp only [pipelineStep, running, queued]
      have isPopped : (state.take request backend conn queue).requests request =
          some (.popped backend conn) := Function.update_self ..
      rw [tryPopSteps, System.run_cons popped, tryPop]
      rcases Bool.eq_false_or_eq_true (state.isClosed conn) with closed | isOpen
      · -- The sender is dropped and the loop goes on with the rest of the queue.
        have dropped : pipelineStep (state.take request backend conn queue)
            (.checkPopped request) =
              some ((state.take request backend conn queue).move request (.selected backend)) := by
          simp only [pipelineStep, isPopped]
          exact if_pos closed
        rw [System.run_cons dropped, if_pos closed, if_pos closed]
        refine (ih (Function.update_self ..) (Function.update_self ..)).trans ?_
        simp only [PipelineState.afterPop, PipelineState.move, PipelineState.take,
          Function.update_idem]
        rfl
      · have isKept := Bool.eq_false_iff.mp isOpen
        have kept : pipelineStep (state.take request backend conn queue) (.checkPopped request) =
            some ((state.take request backend conn queue).move request
              (.trying backend conn)) := by
          simp only [pipelineStep, isPopped]
          exact if_neg isKept
        rw [System.run_cons kept, if_neg isKept, if_neg isKept]
        simp only [PipelineState.afterPop, PipelineState.move, PipelineState.take,
          Function.update_idem]
        rfl

/-! ## The rest of the execution -/

namespace Attempt

/-- The actions of step 4, with those that follow a response. -/
def sendSteps (attempt : Attempt) (request : ℕ) : List PipelineStep :=
  if !attempt.senderReady then [.secondReady request false]
  else
    match attempt.response with
    | none => [.secondReady request true, .respond request none]
    | some response =>
        [.secondReady request true, .respond request (some (!response.body.isEmpty)),
          .offer request, .push request, .finish request attempt.rttMs]

/-- The actions of step 3 and those that follow it; `conn` is the new connection. -/
def connectSteps (attempt : Attempt) (request : ℕ) (conn : ConnId) : List PipelineStep :=
  if !attempt.connects then [.connect request false]
  else if !attempt.handshakes then [.connect request true, .handshake request none]
  else .connect request true :: .handshake request (some conn) :: attempt.sendSteps request

/-- The actions after `try_pop`. -/
def stepsAfterPop (attempt : Attempt) (request : ℕ) (conn : ConnId) : List PipelineStep :=
  match attempt.pooled with
  | .ready => .firstReady request true :: attempt.sendSteps request
  | .notReady => .firstReady request false :: attempt.connectSteps request conn
  | .absent => attempt.connectSteps request conn

end Attempt

/-- What an exit does to the backend: its report, and the guard dropped. -/
def Exit.leave (exit : Exit) (now : ℕ) (rttMs : ℚ) (backend : Backend) : Backend :=
  { exit.report now rttMs backend with ewma := (exit.report now rttMs backend).ewma.dropGuard }

section Alone

variable {state : PipelineState} {request : ℕ} {backend : SharedBackend} {conn : ConnId}

theorem run_sendSteps (running : state.requests request = some (.holding backend conn))
    (isOpen : state.isClosed conn = false) (attempt : Attempt) :
    (pipelineSystem.run state (attempt.sendSteps request)).map PipelineState.heap =
      some (state.heap.modify backend (attempt.send.leave state.clock attempt.rttMs)) := by
  cases ready : attempt.senderReady with
  | false =>
      simp [Attempt.sendSteps, Attempt.send, ready, System.run, pipelineSystem, pipelineStep,
        running]
      rfl
  | true =>
      cases response : attempt.response with
      | none =>
          simp [Attempt.sendSteps, Attempt.send, ready, response, System.run, pipelineSystem,
            pipelineStep, running]
          rfl
      | some response =>
          rw [PipelineState.isClosed] at isOpen
          simp [Attempt.sendSteps, Attempt.send, ready, response, System.run, pipelineSystem,
            pipelineStep, running, PipelineState.isClosed, isOpen]
          change (state.heap.modify backend recordSuccess).modify backend (fun b =>
            { observeLatency attempt.rttMs b with
              ewma := (observeLatency attempt.rttMs b).ewma.dropGuard }) = _
          rw [Heap.modify_modify]
          rfl

theorem run_connectSteps (running : state.requests request = some (.connecting backend))
    (fresh : state.conns conn = none) {attempt : Attempt} (noSender : attempt.pooled ≠ .ready) :
    (pipelineSystem.run state (attempt.connectSteps request conn)).map PipelineState.heap =
      some (state.heap.modify backend (attempt.exit.leave state.clock attempt.rttMs)) := by
  have exit : attempt.exit =
      if !attempt.connects then .connectionFailed
      else if !attempt.handshakes then .handshakeFailed
      else attempt.send := by
    rw [Attempt.exit]
    cases pooled : attempt.pooled with
    | ready => exact absurd pooled noSender
    | absent => rfl
    | notReady => rfl
  rw [exit]
  cases connects : attempt.connects with
  | false =>
      simp [Attempt.connectSteps, connects, System.run, pipelineSystem, pipelineStep, running]
      rfl
  | true =>
      have connected : pipelineStep state (.connect request true) =
          some (state.move request (.handshaking backend)) := by
        simp [pipelineStep, running]
      cases handshakes : attempt.handshakes with
      | false =>
          simp [Attempt.connectSteps, connects, handshakes, System.run, pipelineSystem,
            pipelineStep, running]
          rfl
      | true =>
          have opened : pipelineStep (state.move request (.handshaking backend))
              (.handshake request (some conn)) =
                some ((state.move request (.handshaking backend)).openConn request backend
                  conn) := by
            simp [pipelineStep, fresh]
          simp only [Attempt.connectSteps, connects, handshakes, Bool.not_true, if_false,
            Bool.false_eq_true]
          rw [System.run_cons connected, System.run_cons opened]
          have isOpen : ((state.move request (.handshaking backend)).openConn request backend
              conn).isClosed conn = false := by
            simp [PipelineState.isClosed]
          exact run_sendSteps (Function.update_self ..) isOpen attempt

/-- After `try_pop`: what `popped` has yielded and whether it is ready are as in
the attempt. -/
theorem run_stepsAfterPop {popped : Option ConnId}
    (running : state.requests request =
      some (popped.elim (.connecting backend) (.trying backend)))
    (isOpen : ∀ sender, popped = some sender → state.isClosed sender = false)
    (fresh : state.conns conn = none) {attempt : Attempt}
    (pooled : attempt.pooled = .absent ↔ popped = none) :
    (pipelineSystem.run state (attempt.stepsAfterPop request conn)).map PipelineState.heap =
      some (state.heap.modify backend (attempt.exit.leave state.clock attempt.rttMs)) := by
  have present : attempt.pooled ≠ .absent → ∃ sender, popped = some sender := by
    rw [Ne, pooled]
    exact Option.ne_none_iff_exists'.mp
  cases outcome : attempt.pooled with
  | absent =>
      rw [pooled.mp outcome] at running
      rw [Attempt.stepsAfterPop, outcome]
      apply run_connectSteps running fresh
      rw [outcome]
      decide
  | notReady =>
      rcases present (by rw [outcome]; decide) with ⟨sender, rfl⟩
      have notReady : pipelineStep state (.firstReady request false) =
          some (state.move request (.connecting backend)) := by
        simp [pipelineStep, running]
      have connecting : (state.move request (.connecting backend)).requests request =
          some (.connecting backend) := Function.update_self ..
      rw [Attempt.stepsAfterPop, outcome]
      refine (congrArg _ (System.run_cons notReady _)).trans (run_connectSteps connecting fresh ?_)
      rw [outcome]
      decide
  | ready =>
      rcases present (by rw [outcome]; decide) with ⟨sender, rfl⟩
      have ready : pipelineStep state (.firstReady request true) =
          some (state.move request (.holding backend sender)) := by
        simp [pipelineStep, running]
      have exit : attempt.exit = attempt.send := by
        rw [Attempt.exit, outcome]
      have holding : (state.move request (.holding backend sender)).requests request =
          some (.holding backend sender) := Function.update_self ..
      rw [Attempt.stepsAfterPop, outcome, exit]
      exact (congrArg _ (System.run_cons ready _)).trans
        (run_sendSteps holding (isOpen sender rfl) attempt)

/-- Undisturbed, the actions of an execution perform `forwardUpstream` on the
backend it selects and leave the other backends as they were. -/
theorem run_execution
    (chosen : selectBestBackend state.heap state.clock state.table = some backend)
    (fresh : state.conns conn = none) {attempt : Attempt} (sameClock : attempt.now = state.clock)
    (pooled : attempt.pooled = .absent ↔
      (tryPop state.isClosed (state.pool (state.heap backend).addr)).1 = none) :
    (pipelineSystem.run state (.select ::
        (tryPopSteps state.started state.isClosed (state.pool (state.heap backend).addr) ++
          attempt.stepsAfterPop state.started conn))).map PipelineState.heap =
      some (state.heap.modify backend fun b => (forwardUpstream b attempt).1) := by
  have selected : pipelineStep state .select = some (state.start backend) := by
    simp only [pipelineStep, chosen]
  have sameAddr : (state.start backend).pool ((state.start backend).heap backend).addr =
      state.pool (state.heap backend).addr :=
    congrArg state.pool (Heap.modify_keeps Backend.addr rfl backend)
  generalize state.pool (state.heap backend).addr = queue at pooled sameAddr
  have popped : pipelineSystem.run (state.start backend)
      (tryPopSteps state.started state.isClosed queue) =
        some ((state.start backend).afterPop state.started backend
          (tryPop state.isClosed queue)) :=
    run_tryPop (Function.update_self ..) sameAddr
  have running : ((state.start backend).afterPop state.started backend
      (tryPop state.isClosed queue)).requests state.started =
        some ((tryPop state.isClosed queue).1.elim (.connecting backend) (.trying backend)) :=
    Function.update_self ..
  rw [System.run_cons selected, System.run_append, popped, Option.bind_some,
    run_stepsAfterPop running (fun _ => tryPop_open) fresh pooled]
  have entered : ((state.start backend).afterPop state.started backend
      (tryPop state.isClosed queue)).heap =
        state.heap.modify backend fun b => { b with ewma := b.ewma.incrementActive } := rfl
  have clock : ((state.start backend).afterPop state.started backend
      (tryPop state.isClosed queue)).clock = attempt.now := sameClock.symm
  rw [entered, clock, Heap.modify_modify]
  rfl

end Alone

end Vortex.Proxy
