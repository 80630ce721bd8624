import Vortex.Proxy.BackendEvents

/-!
# The size of the pool

Nothing is ever evicted from the pool: a sender leaves it only when an execution takes it.
It does not grow without bound for that.  A connection is opened only by an execution that
found the pool of its address empty, or that gives up a sender for it, so the senders
pooled and in use are never more than the executions that ran at one time.
-/

namespace Vortex.Proxy

open Vortex.Core Lib

/-- The execution holds a sender, or opens a connection to get one. -/
def Phase.carries : Phase → Bool
  | .selected _ | .returning _ _ _ | .relaying _ _ => false
  | _ => true

/-- The request has a sender to the address, or is opening a connection to it. -/
def carriesTo (addrs : SharedBackend → SocketAddr) (addr : SocketAddr) (request : Option Phase) :
    Bool :=
  request.any fun phase => phase.carries && addrs phase.backend == addr

/-- The request has selected a backend at the address and its execution has not returned. -/
def executesTo (addrs : SharedBackend → SocketAddr) (addr : SocketAddr) (request : Option Phase) :
    Bool :=
  request.any fun phase => phase.executing && addrs phase.backend == addr

namespace PipelineState

variable (addrs : SharedBackend → SocketAddr) (addr : SocketAddr) (state : PipelineState)

/-- The senders in use, or being made, to an address. -/
def carried : ℕ := countBelow (carriesTo addrs addr) state.started state.requests

/-- The executions on backends at an address. -/
def executionsTo : ℕ := countBelow (executesTo addrs addr) state.started state.requests

end PipelineState

/-! ## When connections are opened -/

section Connecting

variable {state next : PipelineState} {step : PipelineStep} {request : ℕ} {backend : SharedBackend}

/-- The request that goes from selection to connecting is the one that was updated. -/
theorem updated_of_connecting {other : ℕ} {after : Option Phase}
    (selected : state.requests request = some (.selected backend))
    (connecting : Function.update state.requests other after request =
      some (.connecting backend)) :
    request = other ∧ after = some (.connecting backend) := by
  by_cases same : request = other
  · subst same
    rw [Function.update_self] at connecting
    exact ⟨rfl, connecting⟩
  · rw [Function.update_of_ne same, selected] at connecting
    cases connecting

/-- An execution that has selected connects only if it finds no sender. -/
theorem pool_eq_nil_of_connecting (stepped : pipelineStep state step = some next)
    (selected : state.requests request = some (.selected backend))
    (connecting : next.requests request = some (.connecting backend)) :
    state.pool (state.heap backend).addr = [] := by
  cases step with
  | advance elapsed | setHealthy target healthy | updateBackends table =>
      cases stepped
      cases selected.symm.trans connecting
  | close conn =>
      rcases Option.map_eq_some_iff.mp stepped with ⟨connection, _, rfl⟩
      cases selected.symm.trans connecting
  | select =>
      simp only [pipelineStep] at stepped
      split at stepped
      · cases stepped
        cases (updated_of_connecting selected connecting).2
      · cases stepped
        cases selected.symm.trans connecting
  | pop other =>
      simp only [pipelineStep] at stepped
      split at stepped
      · next target running =>
          split at stepped
          · next empty =>
              cases stepped
              rcases updated_of_connecting selected connecting with ⟨rfl, _⟩
              cases selected.symm.trans running
              exact empty
          · cases stepped
            cases (updated_of_connecting selected connecting).2
      · cases stepped
  | checkPopped other | firstReady other ok | connect other ok | secondReady other ok
  | offer other =>
      simp only [pipelineStep] at stepped
      split at stepped
      · next running =>
          -- Another request moves, since this one is not where the action starts.
          split at stepped <;> cases stepped <;>
            rcases updated_of_connecting selected connecting with ⟨rfl, _⟩ <;>
            cases selected.symm.trans running
      · cases stepped
  | push other | relayed other | finish other rttMs =>
      simp only [pipelineStep] at stepped
      split at stepped
      · next running =>
          cases stepped
          rcases updated_of_connecting selected connecting with ⟨rfl, _⟩
          cases selected.symm.trans running
      · cases stepped
  | handshake other conn =>
      simp only [pipelineStep] at stepped
      split at stepped
      · rcases Option.ite_none_right_eq_some.mp stepped with ⟨_, ⟨⟩⟩
        cases (updated_of_connecting selected connecting).2
      · cases stepped
        cases (updated_of_connecting selected connecting).2
      · cases stepped
  | respond other hasBody =>
      simp only [pipelineStep] at stepped
      split at stepped
      · cases stepped
        cases (updated_of_connecting selected connecting).2
      · cases stepped
        cases (updated_of_connecting selected connecting).2
      · cases stepped
  | cancel other =>
      simp only [pipelineStep] at stepped
      split at stepped
      · rcases Option.ite_none_right_eq_some.mp stepped with ⟨_, ⟨⟩⟩
        cases (updated_of_connecting selected connecting).2
      · cases stepped

end Connecting

/-! ## The bound -/

/-- The senders pooled and in use for an address are within the bound. -/
structure PoolBound (addrs : SharedBackend → SocketAddr) (addr : SocketAddr) (bound : ℕ)
    (state : PipelineState) : Prop where
  numbered : ∀ request phase, state.requests request = some phase → request < state.started
  placed : ∀ backend, (state.heap backend).addr = addrs backend
  bounded : (state.pool addr).length + state.carried addrs addr ≤ bound

section Bound

variable {addrs : SharedBackend → SocketAddr} {addr : SocketAddr} {bound : ℕ}
  {state next : PipelineState} {request : ℕ} {before : Phase} {backend : SharedBackend}

/-- A request moves on; what it gives up is at least what it takes. -/
theorem PoolBound.update (poolBound : PoolBound addrs addr bound state) {after : Option Phase}
    (running : state.requests request = some before)
    (updated : next.requests = Function.update state.requests request after)
    (started : next.started = state.started)
    (placed : ∀ backend, (next.heap backend).addr = addrs backend)
    (balance : (next.pool addr).length + (carriesTo addrs addr after).toNat ≤
      (state.pool addr).length + (carriesTo addrs addr (some before)).toNat) :
    PoolBound addrs addr bound next := by
  have inside := poolBound.numbered request before running
  refine ⟨?_, placed, ?_⟩
  · rw [started]
    exact forall_running_update updated (fun _ _ => inside) poolBound.numbered
  · have change := countBelow_update (carriesTo addrs addr) state.requests inside after
    have current := poolBound.bounded
    rw [running] at change
    rw [PipelineState.carried, started, updated]
    rw [PipelineState.carried] at current
    omega

/-- An execution that has a sender keeps it, or gives it up. -/
theorem Move.carries_le {after : Phase} (move : Move before after)
    (connects : ∀ backend, before ≠ .selected backend) :
    (carriesTo addrs addr (some after)).toNat ≤ (carriesTo addrs addr (some before)).toNat := by
  cases move with
  | poolEmpty backend => exact absurd rfl (connects backend)
  | droppedClosed backend conn | refused backend conn hasBody => exact Nat.zero_le _
  | keptOpen backend conn | ready backend conn | notReady backend conn | connected backend
  | sent backend conn | answered backend conn hasBody => exact Nat.le_refl _

theorem executesTo_of_carriesTo (request : Option Phase)
    (carries : carriesTo addrs addr request = true) : executesTo addrs addr request = true := by
  cases request with
  | none => cases carries
  | some phase =>
      cases phase with
      | selected backend | returning backend conn hasBody | relaying backend conn => cases carries
      | _ => exact carries

/-- An execution that finds no sender is one more that runs than have one. -/
theorem PoolBound.connecting (poolBound : PoolBound addrs addr bound state)
    (running : state.requests request = some (.selected backend))
    (updated : next.requests = Function.update state.requests request (some (.connecting backend)))
    (started : next.started = state.started) (pool : next.pool = state.pool)
    (placed : ∀ backend, (next.heap backend).addr = addrs backend)
    (empty : state.pool (state.heap backend).addr = [])
    (concurrency : state.executionsTo addrs addr ≤ bound) : PoolBound addrs addr bound next := by
  have inside := poolBound.numbered request _ running
  by_cases here : addrs backend = addr
  · refine ⟨?_, placed, ?_⟩
    · rw [started]
      exact forall_running_update updated (fun _ _ => inside) poolBound.numbered
    · have more : state.carried addrs addr < state.executionsTo addrs addr := by
        apply countBelow_lt executesTo_of_carriesTo inside
        · rw [running]
          rfl
        · rw [running]
          exact beq_iff_eq.mpr here
      have change := countBelow_update (carriesTo addrs addr) state.requests inside
        (some (.connecting backend))
      have before : (carriesTo addrs addr (state.requests request)).toNat = 0 := by
        rw [running]
        rfl
      have after : (carriesTo addrs addr (some (.connecting backend))).toNat ≤ 1 :=
        Bool.toNat_le _
      rw [poolBound.placed, here] at empty
      rw [pool, empty, List.length_nil, PipelineState.carried, started, updated]
      rw [PipelineState.carried] at more
      omega
  · apply poolBound.update running updated started placed
    have elsewhere : carriesTo addrs addr (some (.connecting backend)) = false :=
      beq_false_of_ne here
    rw [pool, elsewhere]
    exact Nat.le_add_right _ _

/-- A new execution has no sender yet. -/
theorem PoolBound.start (poolBound : PoolBound addrs addr bound state)
    (placed : ∀ other, ((state.start backend).heap other).addr = addrs other) :
    PoolBound addrs addr bound (state.start backend) := by
  refine ⟨?_, placed, ?_⟩
  · refine forall_running_update rfl ?_ ?_
    · exact fun _ _ => Nat.lt_succ_self _
    · intro other phase running
      exact (poolBound.numbered other phase running).trans (Nat.lt_succ_self _)
  · have change : (state.start backend).carried addrs addr = state.carried addrs addr + 0 :=
      countBelow_succ _ _ _
    rw [change]
    exact poolBound.bounded

/-- The first sender of a queue goes to an execution. -/
theorem PoolBound.take (poolBound : PoolBound addrs addr bound state) {conn : ConnId}
    {queue : List ConnId} (running : state.requests request = some (.selected backend))
    (queued : state.pool (state.heap backend).addr = conn :: queue) :
    PoolBound addrs addr bound (state.take request backend conn queue) := by
  rw [poolBound.placed] at queued
  refine poolBound.update running rfl rfl poolBound.placed ?_
  rw [PipelineState.take_pool, poolBound.placed]
  by_cases here : addrs backend = addr
  · subst here
    rw [Function.update_self, queued, List.length_cons]
    have one : (carriesTo addrs (addrs backend) (some (.popped backend conn))).toNat ≤ 1 :=
      Bool.toNat_le _
    omega
  · have elsewhere : carriesTo addrs addr (some (.popped backend conn)) = false :=
      beq_false_of_ne here
    rw [Function.update_of_ne (Ne.symm here), elsewhere]
    exact Nat.le_add_right _ _

/-- An execution gives its sender to the queue. -/
theorem PoolBound.put (poolBound : PoolBound addrs addr bound state) {conn : ConnId}
    {hasBody : Bool} (running : state.requests request = some (.offering backend conn hasBody)) :
    PoolBound addrs addr bound (state.put request backend conn hasBody) := by
  refine poolBound.update running rfl rfl poolBound.placed ?_
  rw [PipelineState.put_pool, poolBound.placed]
  by_cases here : addrs backend = addr
  · subst here
    have carried : carriesTo addrs (addrs backend) (some (.offering backend conn hasBody)) = true :=
      beq_self_eq_true _
    rw [Function.update_self, List.length_append, carried]
    exact Nat.le_refl _
  · rw [Function.update_of_ne (Ne.symm here)]
    exact Nat.le_add_right _ _

theorem PoolBound.step (poolBound : PoolBound addrs addr bound state) {step : PipelineStep}
    (stepped : pipelineStep state step = some next)
    (concurrency : state.executionsTo addrs addr ≤ bound) : PoolBound addrs addr bound next := by
  have placed (backend : SharedBackend) : (next.heap backend).addr = addrs backend :=
    (addr_pipelineStep stepped backend).trans (poolBound.placed backend)
  cases pipelineStep_effect stepped with
  | ambient clock table keeps => exact ⟨poolBound.numbered, placed, poolBound.bounded⟩
  | closed known => exact ⟨poolBound.numbered, placed, poolBound.bounded⟩
  | started backend => exact poolBound.start placed
  | @moved _ request before after heap running move keeps =>
      by_cases connects : ∀ backend, before ≠ .selected backend
      · exact poolBound.update running rfl rfl placed
          (Nat.add_le_add_left (move.carries_le connects) _)
      · rcases not_forall_not.mp connects with ⟨backend, rfl⟩
        cases move
        exact poolBound.connecting running rfl rfl rfl placed
          (pool_eq_nil_of_connecting stepped running (Function.update_self _ _ _)) concurrency
  | took running queued => exact poolBound.take running queued
  | opened running fresh | offered running isOpen =>
      exact poolBound.update running rfl rfl placed (Nat.le_refl _)
  | pushed running => exact poolBound.put running
  | left running executing keeps | returned rttMs running | relayed running =>
      exact poolBound.update running rfl rfl placed (Nat.le_add_right _ _)

theorem PoolBound.of_run {steps : List PipelineStep} {final : PipelineState}
    (poolBound : PoolBound addrs addr bound state)
    (executed : pipelineSystem.run state steps = some final)
    (concurrency : ∀ visited, pipelineSystem.Visits state steps visited →
      visited.executionsTo addrs addr ≤ bound) : PoolBound addrs addr bound final := by
  induction steps generalizing state with
  | nil =>
      cases executed
      exact poolBound
  | cons step steps ih =>
      rcases Option.bind_eq_some_iff.mp executed with ⟨next, stepped, rest⟩
      have now := concurrency state (pipelineSystem.visits_start state _)
      apply ih (poolBound.step stepped now) rest
      intro visited visits
      exact concurrency visited (visits.cons stepped)

end Bound

/-- **The pool does not outgrow the traffic.** In every run the senders to an address that
are pooled, in use or being made are no more than the largest number of executions on
backends at that address at one time. -/
theorem pool_bounded {clock : ℕ} {heap : Heap} {table : List SharedBackend}
    {steps : List PipelineStep} {final : PipelineState}
    (executed : pipelineSystem.run (.initial clock heap table) steps = some final)
    {addr : SocketAddr} {bound : ℕ}
    (concurrency : ∀ state, pipelineSystem.Visits (.initial clock heap table) steps state →
      state.executionsTo (fun backend => (heap backend).addr) addr ≤ bound) :
    (final.pool addr).length + final.carried (fun backend => (heap backend).addr) addr ≤ bound := by
  have initially : PoolBound (fun backend => (heap backend).addr) addr bound
      (.initial clock heap table) := by
    refine ⟨?_, fun _ => rfl, Nat.zero_le bound⟩
    intro request phase running
    cases running
  exact (initially.of_run executed concurrency).bounded

/-- A request opens a connection and pools its sender; the next one finds it there. -/
def servedTwice : List PipelineStep :=
  [.select, .pop 0, .connect 0 true, .handshake 0 (some 7), .secondReady 0 true,
    .respond 0 (some false), .offer 0, .push 0, .finish 0 10, .select, .pop 1]

theorem pool_bounded_reused :
    ∃ final, pipelineSystem.run (.initial 0 newBackends [0]) servedTwice = some final ∧
      final.requests 1 = some (.popped 0 7) ∧
      (final.pool (newBackends 0).addr).length +
        final.carried (fun backend => (newBackends backend).addr) (newBackends 0).addr ≤ 1 := by
  have ends : (pipelineSystem.run (.initial 0 newBackends [0]) servedTwice).map
      (fun state => state.requests 1) = some (some (.popped 0 7)) := by
    decide +kernel
  rcases Option.map_eq_some_iff.mp ends with ⟨final, executed, popped⟩
  have checked : ∀ earlier ∈ servedTwice.inits,
      (pipelineSystem.run (.initial 0 newBackends [0]) earlier).all (fun state =>
        decide (state.executionsTo (fun backend => (newBackends backend).addr)
          (newBackends 0).addr ≤ 1)) = true := by
    decide +kernel
  refine ⟨final, executed, popped, pool_bounded executed ?_⟩
  intro state visits
  have one := visits.of_inits checked
  exact of_decide_eq_true one

end Vortex.Proxy
