import Vortex.Proxy.AccessHistory
import Vortex.Proxy.Prober

/-!
# Outages

What a backend that does not answer costs, and how it comes back.

Once its breaker has tripped, each failure keeps requests away for another thirty
seconds.  A half-open breaker lets every request pass until a failure has been recorded, so
what arrives in such a window is bounded by the requests that are in flight, or are being
selected for, at a time.

An open breaker is half open again after a while, and a flag follows the next probe, so a
backend that answers is found again.
-/

namespace Vortex.Proxy

open Vortex.Core Lib

/-! ## What a failing backend costs -/

/-- The requests routed to a backend along a run. -/
def arrivalsOf (start : AccessState) (steps : List AccessStep) (backend : SharedBackend) : ℕ :=
  (writesOf start steps backend).count .entered

/-- The requests that leave a backend along a run before the time of a failure is stored. -/
def departuresOf (start : AccessState) (steps : List AccessStep) (backend : SharedBackend) : ℕ :=
  ((writesOf start steps backend).takeWhile fun write => write.time.isNone).count .left

/-- What the atomics hold while the breaker of a backend is open up to some second. -/
structure OpenUntil (limit : ℕ) (backend : SharedBackend) (store : Atomics) : Prop where
  tripped : failureThreshold ≤ store.failures backend
  recent : limit ≤ store.lastFailureTime backend + resetTimeoutSecs
  within : store.systemTime ≤ limit

section Scans

variable {limit : ℕ} {backend : SharedBackend}

theorem OpenUntil.not_seenPassing : ¬SeenPassing (OpenUntil limit backend) backend := by
  intro passing
  rcases passing.breaker with ⟨counts, opened, below⟩ | ⟨times, clocks, timed, read, late⟩
  · exact absurd below (UInt64.not_lt.mpr opened.tripped)
  · exact absurd late (Nat.not_lt.mpr (read.within.trans timed.recent))

/-- A scan that begins while the breaker is open does not find the backend. -/
theorem OpenUntil.begin_not_answers (table : List SharedBackend) :
    ¬(Scan.begin table).program.Answers (OpenUntil limit backend) (some backend) := by
  intro answers
  refine @Reader.Answers.foldl_induction _ _ _ _ _ _
    (fun _ answer => answer ≠ some backend) _ _ _ ?_ ?_ answers rfl
  · intro found
    cases found
  · intro past best other next missing continued found
    rcases loadNext_answers continued with same | ⟨last, passed⟩
    · exact missing (same ▸ found)
    · cases last.symm.trans found
      exact OpenUntil.not_seenPassing passed

open scoped Classical in
/-- The scan can still find the backend, although its breaker is open from now on. -/
noncomputable def canFind (limit : ℕ) (backend : SharedBackend) (scan : Option Scan) : Bool :=
  scan.any fun scan => decide (scan.program.Answers (OpenUntil limit backend) (some backend))

open scoped Classical in
theorem canFind_some (scan : Scan) :
    canFind limit backend (some scan) = true ↔
      scan.program.Answers (OpenUntil limit backend) (some backend) := by
  rw [canFind, Option.any_some, decide_eq_true_iff]

theorem mayFind_of_canFind (scan : Option Scan) (can : canFind limit backend scan = true) :
    mayFind backend scan = true := by
  cases scan with
  | none => cases can
  | some scan =>
      have answers := (canFind_some scan).mp can
      exact decide_eq_true (scan.within (answers.mono fun _ _ => trivial))

/-- The selections in progress that can still find the backend. -/
noncomputable def AccessState.finding (state : AccessState) (limit : ℕ)
    (backend : SharedBackend) : ℕ :=
  countBelow (canFind limit backend) state.locals.begun state.locals.scans

theorem finding_le_underWay (state : AccessState) :
    state.finding limit backend ≤ state.underWay backend :=
  countBelow_mono mayFind_of_canFind _ _

end Scans

section Failing

variable {limit : ℕ} {backend : SharedBackend} {state next : AccessState} {step : AccessStep}

theorem Progresses.write_ne_entered {clock : ℕ} {own : Backend} {phase : Phase}
    {call : Option BackendCall} {access : CallAccess} {result : Progress}
    (progresses : Progresses clock own phase call access result) :
    result.write ≠ some .entered := by
  intro entered
  cases progresses <;> cases entered

/-- While the breaker is open, no selection that could not find the backend comes to find
it. -/
theorem finding_le (steady : Steady state)
    (opened : OpenUntil limit backend state.pipeline.atomics)
    (stepped : accessStep state step = some next) :
    next.finding limit backend ≤ state.finding limit backend := by
  cases accessStep_effect stepped with
  | acted single free performed => exact Nat.le_refl _
  | called phase result running progresses noted => exact Nat.le_refl _
  | began =>
      have fresh : canFind limit backend (some (.begin state.pipeline.table)) = false := by
        rw [← Bool.not_eq_true, canFind_some]
        exact OpenUntil.begin_not_answers _
      refine (countBelow_succ (canFind limit backend) state.locals.scans _).trans_le ?_
      rw [fresh]
      exact Nat.le_refl _
  | loaded scan next known loads =>
      have change := countBelow_update (canFind limit backend) state.locals.scans
        (steady.scanning _ scan known) (some next)
      have before : (canFind limit backend (some next)).toNat ≤
          (canFind limit backend (some scan)).toNat := by
        apply Bool.toNat_le_toNat
        intro can
        rw [canFind_some] at can ⊢
        exact Scan.answers_load opened loads can
      rw [known] at change
      exact Nat.le_of_add_le_add_right (change.trans_le (Nat.add_le_add_left before _))
  | entered answer known found =>
      have change := countBelow_update (canFind limit backend) state.locals.scans
        (steady.scanning _ _ known) none
      exact (Nat.le_add_right _ _).trans change.le

/-- A request that enters uses up one of them. -/
theorem finding_enter (steady : Steady state) {number : ℕ} {scan : Scan}
    (known : state.locals.scans number = some scan)
    (found : scan.program.answered = some (some backend)) :
    (state.enter number (some backend)).finding limit backend + 1 =
      state.finding limit backend := by
  have change := countBelow_update (canFind limit backend) state.locals.scans
    (steady.scanning number scan known) none
  have can : canFind limit backend (some scan) = true := by
    rw [canFind_some, Reader.eq_ends_of_answered found]
    rfl
  rw [known, can] at change
  exact change

/-- The call reports a failure, and early enough to keep the breaker open up to the limit. -/
def BreakerCall.keepsOpen (limit : ℕ) : BreakerCall → Bool
  | .counted => true
  | .read now => decide (limit ≤ now + resetTimeoutSecs)
  | .cleared => false

/-- The breaker of the backend has tripped, and a failure that is reported from now on keeps it
open up to the limit. -/
structure Failing (limit : ℕ) (backend : SharedBackend) (state : AccessState) : Prop where
  steady : Steady state
  tripped : failureThreshold ≤ (state.pipeline.heap backend).circuitBreaker.failures
  since : limit ≤ state.pipeline.clock + resetTimeoutSecs
  calls : ∀ request call, state.callOn backend request = some call →
    BreakerCall.keepsOpen limit call = true

theorem clock_le_accessStep (stepped : accessStep state step = some next) :
    state.pipeline.clock ≤ next.pipeline.clock := by
  cases accessStep_effect stepped with
  | acted single free performed => exact clock_le_pipelineStep performed
  | entered answer known found => cases answer <;> exact Nat.le_refl _
  | _ => exact Nat.le_refl _

theorem clock_le_of_accesses {steps : List AccessStep}
    (executed : accessSystem.run state steps = some next) :
    state.pipeline.clock ≤ next.pipeline.clock := by
  apply (System.Runs.of_run executed).invariant _ (Nat.le_refl state.pipeline.clock)
  intro middle next step earlier _ stepped
  exact earlier.trans (clock_le_accessStep stepped)

section Progresses

variable {clock : ℕ} {own : Backend} {phase : Phase} {call : Option BackendCall}
  {access : CallAccess} {result : Progress}

/-- A call on the breaker after an access of a request that gets no answer. -/
theorem Progresses.keepsOpen (progresses : Progresses clock own phase call access result)
    (since : limit ≤ clock + resetTimeoutSecs) (unanswered : result.write ≠ some .cleared) :
    ∀ current, result.call.bind BackendCall.onBreaker = some current →
      BreakerCall.keepsOpen limit current = true := by
  intro current calling
  cases progresses with
  | tripped mayFail reached =>
      cases calling
      rfl
  | clockRead =>
      cases calling
      exact decide_eq_true since
  | responded sent hasBody => exact absurd rfl unanswered
  | _ => cases calling

theorem Progresses.timed (progresses : Progresses clock own phase call access result)
    (earlier : ∀ current, call.bind BackendCall.onBreaker = some current →
      BreakerCall.keepsOpen limit current = true)
    {now : ℕ} (written : result.write = some (.timed now)) : limit ≤ now + resetTimeoutSecs := by
  cases progresses with
  | timeStored stored =>
      cases written
      exact of_decide_eq_true (earlier (.read now) rfl)
  | timeCleared =>
      have open' := earlier .cleared rfl
      cases open'
  | _ => cases written

end Progresses

/-- The calls on the breaker after an access. -/
theorem Failing.calls_step (failing : Failing limit backend state)
    (stepped : accessStep state step = some next)
    (unanswered : state.write step ≠ some (backend, .cleared)) :
    ∀ request call, next.callOn backend request = some call →
      BreakerCall.keepsOpen limit call = true := by
  cases step with
  | call request access =>
      cases accessStep_effect stepped with
      | called phase result running progresses noted =>
          rw [callOn_proceed progresses]
          apply (Function.forall_update_iff (state.callOn backend) fun _ current =>
            ∀ call, current = some call → BreakerCall.keepsOpen limit call = true).mpr
          refine ⟨?_, fun other _ => failing.calls other⟩
          split
          · next same =>
              subst same
              apply progresses.keepsOpen failing.since
              intro cleared
              apply unanswered
              rw [AccessState.write, noted, Option.bind_some, cleared]
              rfl
          · intro call calling
            cases calling
  | _ =>
      rw [(callOn_accessStep failing.steady stepped rfl).1]
      exact failing.calls

/-- The time of a failure that is stored keeps the breaker open up to the limit. -/
theorem Failing.timed (failing : Failing limit backend state)
    (stepped : accessStep state step = some next) {now : ℕ}
    (written : state.write step = some (backend, .timed now)) : limit ≤ now + resetTimeoutSecs := by
  cases write_origin stepped written with
  | @called request access phase result _ running own progresses written =>
      apply progresses.timed _ written
      have calls := failing.calls request
      rw [callOn_running running, if_pos own] at calls
      exact calls

/-- A tripped breaker counts on. -/
theorem tripped_apply {own : Backend} (tripped : failureThreshold ≤ own.circuitBreaker.failures)
    (fits : own.circuitBreaker.failures.toNat + 1 < UInt64.size) {write : BackendWrite}
    (unanswered : write ≠ .cleared) :
    failureThreshold ≤ (write.apply own).circuitBreaker.failures ∧
      (write.apply own).circuitBreaker.failures.toNat ≤
        own.circuitBreaker.failures.toNat + 1 := by
  cases write with
  | cleared => exact absurd rfl unanswered
  | added =>
      have counted : (own.circuitBreaker.failures + 1).toNat =
          own.circuitBreaker.failures.toNat + 1 := by
        rw [UInt64.toNat_add]
        exact Nat.mod_eq_of_lt fits
      refine ⟨?_, counted.le⟩
      rw [UInt64.le_iff_toNat_le] at tripped ⊢
      exact (tripped.trans (Nat.le_succ _)).trans counted.ge
  | _ => exact ⟨tripped, Nat.le_succ _⟩

variable {steps : List AccessStep} {final : AccessState}

/-- An access after which the backend has still not answered leaves it failing. -/
theorem Failing.cons (failing : Failing limit backend state)
    (stepped : accessStep state step = some next)
    (fits : (state.pipeline.heap backend).circuitBreaker.failures.toNat + (step :: steps).length <
      UInt64.size)
    (unanswered : .cleared ∉ writesOf state (step :: steps) backend) :
    Failing limit backend next ∧
      (next.pipeline.heap backend).circuitBreaker.failures.toNat + steps.length < UInt64.size ∧
      .cleared ∉ writesOf next steps backend := by
  have other : state.write step ≠ some (backend, .cleared) := by
    intro written
    apply unanswered
    rw [writesOf, System.observed_cons stepped, written]
    simp [eventsOf]
  have calls := failing.calls_step stepped other
  have since := failing.since.trans (Nat.add_le_add_right (clock_le_accessStep stepped) _)
  rw [List.length_cons] at fits
  rcases writesOf_cons stepped steps backend with ⟨writes, heap⟩ | ⟨write, written, writes, heap⟩
  · rw [writes] at unanswered
    rw [heap]
    exact ⟨⟨failing.steady.step stepped, heap ▸ failing.tripped, since, calls⟩, by omega,
      unanswered⟩
  · rw [writes] at unanswered
    rcases tripped_apply failing.tripped (by omega) (List.ne_of_not_mem_cons unanswered).symm with
      ⟨tripped, few⟩
    rw [heap]
    exact ⟨⟨failing.steady.step stepped, heap ▸ tripped, since, calls⟩, by omega,
      List.not_mem_of_not_mem_cons unanswered⟩

/-- Once the time of a failure has been stored, only the selections that can still find the
backend bring it requests. -/
theorem Failing.arrivals_le_finding (failing : Failing limit backend state)
    (recent : limit ≤
      (state.pipeline.heap backend).circuitBreaker.lastFailureTime + resetTimeoutSecs)
    (executed : accessSystem.run state steps = some final) (within : final.pipeline.clock ≤ limit)
    (fits : (state.pipeline.heap backend).circuitBreaker.failures.toNat + steps.length <
      UInt64.size)
    (unanswered : .cleared ∉ writesOf state steps backend) :
    arrivalsOf state steps backend ≤ state.finding limit backend := by
  induction steps generalizing state with
  | nil => exact Nat.zero_le _
  | cons step steps ih =>
      have opened : OpenUntil limit backend state.pipeline.atomics :=
        ⟨failing.tripped, recent, (clock_le_of_accesses executed).trans within⟩
      rcases Option.bind_eq_some_iff.mp executed with ⟨next, stepped, rest⟩
      rcases failing.cons stepped fits unanswered with ⟨still, few, others⟩
      have fewer := finding_le failing.steady opened stepped
      rw [arrivalsOf]
      rcases writesOf_cons stepped steps backend with
        ⟨writes, heap⟩ | ⟨write, written, writes, heap⟩
      · rw [writes]
        rw [← heap] at recent
        exact (ih still recent rest few others).trans fewer
      · rw [writes]
        cases write with
        | entered =>
            cases write_origin stepped written with
            | entered known found after =>
                rw [List.count_cons_self, ← finding_enter failing.steady known found, ← after]
                refine Nat.succ_le_succ (ih still ?_ rest few others)
                rw [heap]
                exact recent
            | called running own progresses written =>
                exact absurd written progresses.write_ne_entered
        | timed now =>
            refine (List.count_cons_of_ne (by nofun)).trans_le ?_
            refine (ih still ?_ rest few others).trans fewer
            rw [heap]
            exact failing.timed stepped written
        | _ =>
            refine (List.count_cons_of_ne (by nofun)).trans_le ?_
            refine (ih still ?_ rest few others).trans fewer
            rw [heap]
            exact recent

/-- A write that stores no time keeps the balance of the requests that have arrived, are on the
backend, or have left it. -/
theorem balance_cons (own : Backend) {write : BackendWrite} (untimed : write.time = none)
    (writes : List BackendWrite) :
    (write :: writes).count .entered + own.ewma.activeRequests +
        (writes.takeWhile fun write => write.time.isNone).count .left ≤
      writes.count .entered + (write.apply own).ewma.activeRequests +
        ((write :: writes).takeWhile fun write => write.time.isNone).count .left := by
  rw [List.takeWhile_cons, untimed, Option.isNone_none, if_pos rfl, List.count_cons,
    List.count_cons]
  cases write with
  | entered =>
      change _ + 1 + own.ewma.activeRequests + _ ≤ _ + (own.ewma.activeRequests + 1) + (_ + 0)
      omega
  | left =>
      change _ + 0 + own.ewma.activeRequests + _ ≤ _ + (own.ewma.activeRequests - 1) + (_ + 1)
      omega
  | timed now => cases untimed
  | _ => exact Nat.le_refl _

/-- Until then every request that has arrived is on the backend or has left it. -/
theorem Failing.arrivals_add_active_le {bound : ℕ} (failing : Failing limit backend state)
    (executed : accessSystem.run state steps = some final) (within : final.pipeline.clock ≤ limit)
    (fits : (state.pipeline.heap backend).circuitBreaker.failures.toNat + steps.length <
      UInt64.size)
    (unanswered : .cleared ∉ writesOf state steps backend)
    (bounded : ∀ visited, accessSystem.Visits state steps visited →
      (visited.pipeline.heap backend).ewma.activeRequests + visited.underWay backend ≤ bound) :
    arrivalsOf state steps backend + (state.pipeline.heap backend).ewma.activeRequests ≤
      bound + departuresOf state steps backend := by
  induction steps generalizing state with
  | nil =>
      have here := bounded state (accessSystem.visits_start state [])
      exact (Nat.zero_add _).trans_le ((Nat.le_add_right _ _).trans here)
  | cons step steps ih =>
      rcases Option.bind_eq_some_iff.mp executed with ⟨next, stepped, rest⟩
      rcases failing.cons stepped fits unanswered with ⟨still, few, others⟩
      have visits := fun visited later => bounded visited (System.Visits.cons stepped later)
      rw [arrivalsOf, departuresOf]
      rcases writesOf_cons stepped steps backend with
        ⟨writes, heap⟩ | ⟨write, written, writes, heap⟩
      · rw [writes, ← heap]
        exact ih still rest few others visits
      · rw [writes]
        cases time : write.time with
        | none =>
            have remaining := ih still rest few others visits
            have balance := balance_cons (state.pipeline.heap backend) time
              (writesOf next steps backend)
            rw [← heap] at balance
            rw [arrivalsOf, departuresOf] at remaining
            omega
        | some now =>
            cases write with
            | timed stored =>
                have recent : limit ≤
                    (next.pipeline.heap backend).circuitBreaker.lastFailureTime +
                      resetTimeoutSecs := by
                  rw [heap]
                  exact failing.timed stepped written
                have late := still.arrivals_le_finding recent rest within few others
                have here := visits next (accessSystem.visits_start next steps)
                rw [heap] at here
                refine Nat.le_add_right_of_le ?_
                calc (.timed stored :: writesOf next steps backend).count .entered +
                      (state.pipeline.heap backend).ewma.activeRequests
                    = arrivalsOf next steps backend +
                      (state.pipeline.heap backend).ewma.activeRequests :=
                      congrArg (· + _) (List.count_cons_of_ne (by nofun))
                  _ ≤ next.underWay backend +
                      (state.pipeline.heap backend).ewma.activeRequests :=
                      Nat.add_le_add_right (late.trans (finding_le_underWay next)) _
                  _ ≤ bound := (Nat.add_comm _ _).trans_le here
            | _ => cases time

end Failing

/-- **A failing backend gets few requests.** However accesses interleave within thirty-one
seconds in which a backend with a tripped breaker answers no request: those routed to it, and
those on it at the start, are together at most as many as at one moment are on it or are being
selected from a table with it, and those that leave it before the time of a failure is stored.
The first failure ends the window. -/
theorem failing_backend_load {clock : ℕ} {heap : Heap} {table : List SharedBackend}
    {earlier steps : List AccessStep} {start final : AccessState} {backend : SharedBackend}
    {bound : ℕ} (unused : ∀ backend, (heap backend).ewma.activeRequests = 0)
    (reached : accessSystem.run (.initial clock heap table) earlier = some start)
    (tripped : failureThreshold ≤ (start.pipeline.heap backend).circuitBreaker.failures)
    (fits : (start.pipeline.heap backend).circuitBreaker.failures.toNat + steps.length <
      UInt64.size)
    (quiet : start.Quiet backend) (executed : accessSystem.run start steps = some final)
    (within : final.pipeline.clock ≤ start.pipeline.clock + 30)
    (unanswered : .cleared ∉ writesOf start steps backend)
    (bounded : ∀ visited, accessSystem.Visits start steps visited →
      (visited.pipeline.heap backend).ewma.activeRequests + visited.underWay backend ≤ bound) :
    arrivalsOf start steps backend + (start.pipeline.heap backend).ewma.activeRequests ≤
      bound + departuresOf start steps backend := by
  have steady : Steady start := Steady.of_runs (.of_run reached) (.initial clock table unused)
  have failing : Failing (start.pipeline.clock + 30) backend start := by
    refine ⟨steady, tripped, Nat.le_refl _, ?_⟩
    intro request call calling
    cases ((quiet_iff steady).mp quiet request).symm.trans calling
  exact failing.arrivals_add_active_le executed within fits unanswered bounded

/-- Backends whose breaker tripped forty seconds before second 100. -/
def trippedBackends : Heap := fun backend =>
  { newBackends backend with circuitBreaker := ⟨5, 60⟩ }

/-- A selection from the only backend, while its breaker is half open. -/
def selectHalfOpen (number : ℕ) : List AccessStep :=
  .snapshot :: .replicate 4 (.load number)

/-- Of two requests routed to the only backend one is cancelled.  A third has found it when the
first fails, and enters; a fourth finds no backend. -/
def threeArrivals : List AccessStep :=
  selectHalfOpen 0 ++ [.enter 0] ++ selectHalfOpen 1 ++ [.enter 1] ++
    [.action (.pop 0), .action (.pop 1), .action (.cancel 1)] ++ selectHalfOpen 2 ++
    [.call 0 .fail, .call 0 .readClock, .call 0 .storeTime, .call 0 .drop, .enter 2] ++
    selectHalfOpen 3 ++ [.enter 3]

/-- Nobody has tried the backend yet. -/
def halfOpen : AccessState := .initial 100 trippedBackends [0]

/-- The failure of the first keeps the fourth away. -/
theorem failing_backend_load_three :
    arrivalsOf halfOpen threeArrivals 0 = 3 ∧ departuresOf halfOpen threeArrivals 0 = 1 ∧
      arrivalsOf halfOpen threeArrivals 0 + (halfOpen.pipeline.heap 0).ewma.activeRequests ≤
        2 + departuresOf halfOpen threeArrivals 0 := by
  have ends : (accessSystem.run halfOpen threeArrivals).map (fun final => final.pipeline.clock) =
      some 100 := by
    decide +kernel
  rcases Option.map_eq_some_iff.mp ends with ⟨final, executed, clock⟩
  have checked : ∀ earlier ∈ threeArrivals.inits, (accessSystem.run halfOpen earlier).all
      (fun state => decide ((state.pipeline.heap 0).ewma.activeRequests + state.underWay 0 ≤ 2)) =
        true := by
    decide +kernel
  have within : final.pipeline.clock ≤ halfOpen.pipeline.clock + 30 := by
    rw [clock]
    decide
  have bounded : ∀ visited, accessSystem.Visits halfOpen threeArrivals visited →
      (visited.pipeline.heap 0).ewma.activeRequests + visited.underWay 0 ≤ 2 := by
    intro visited visits
    have two := visits.of_inits checked
    exact of_decide_eq_true two
  exact ⟨by decide +kernel, by decide +kernel,
    @failing_backend_load 100 trippedBackends [0] [] threeArrivals halfOpen final 0 2
      (fun _ => rfl) rfl (by decide +kernel) (by decide +kernel) (fun _ _ => rfl) executed within
      (by decide +kernel) bounded⟩

/-! ## How a backend comes back -/

/-- The action reports a failure of the backend after the given second. -/
def failsAfter (backend : SharedBackend) (second : ℕ) (state : ProbedState) (step : ProberStep) :
    Bool :=
  match (state.action step).bind state.pipeline.event with
  | some (target, .failed now) => target == backend && decide (second < now)
  | _ => false

/-- The latest failure that a breaker holds against its backend is no later than the
second. -/
def FailedBy (backend : SharedBackend) (second : ℕ) (state : ProbedState) : Prop :=
  (state.pipeline.heap backend).circuitBreaker.lastFailureTime ≤ second

theorem lastFailureTime_recordFailure_le {breaker : CircuitBreaker} {now second : ℕ}
    (earlier : breaker.lastFailureTime ≤ second) (inTime : now ≤ second) :
    (breaker.recordFailure now).lastFailureTime ≤ second := by
  rw [CircuitBreaker.recordFailure]
  split
  · exact inTime
  · exact earlier

theorem FailedBy.preserved {intervalMs : ℕ+} {backend : SharedBackend} {second : ℕ}
    {state next : ProbedState} {step : ProberStep} (failed : FailedBy backend second state)
    (inTime : failsAfter backend second state step = false)
    (stepped : proberStep intervalMs state step = some next) : FailedBy backend second next := by
  have moved := action_proberStep stepped
  rw [failsAfter] at inTime
  rw [FailedBy] at failed ⊢
  cases performed : state.action step with
  | none =>
      rw [performed] at moved
      rw [← Option.some.inj moved]
      exact failed
  | some action =>
      rw [performed] at moved inTime
      rcases Option.bind_eq_some_iff.mp moved with ⟨pipeline, acted, ended⟩
      rw [← Option.some.inj ended]
      rcases heap_of_event acted backend with heap | ⟨event, noted, heap⟩
      · rw [heap]
        exact failed
      · rw [heap]
        rw [Option.bind_some, noted] at inTime
        cases event with
        | failed now =>
            apply lastFailureTime_recordFailure_le failed
            simpa using inTime
        | succeeded => exact Nat.zero_le second
        | probed healthy | entered | finished rttMs | left => exact failed

/-- **Outages end.** A backend that accepts connections again and fails no request after
some second is eligible once the time to detect it and the timeout of the breaker have
passed; if it is in the table then, a request finds a backend. -/
theorem outage_ends {intervalMs : ℕ+} {latency second : ℕ} {situation : Reachability} {clock : ℕ}
    {heap : Heap} {table : List SharedBackend} {steps : List ProberStep} {final : ProbedState}
    (runs : (proberSystem intervalMs).Runs
      (fun state step => (Prompt latency state step ∧ situation.Allows state step) ∧
        failsAfter situation.backend second state step = false)
      (.initial intervalMs clock heap table) steps final)
    (before : (heap situation.backend).circuitBreaker.lastFailureTime ≤ second)
    (reachable : situation.reachable = true)
    (late : situation.detectedBy intervalMs latency < final.nowMs)
    (cooled : second + 30 < final.pipeline.clock) :
    eligible final.pipeline.heap final.pipeline.clock situation.backend = true ∧
      (situation.backend ∈ final.pipeline.table →
        ∃ chosen, selectBestBackend final.pipeline.heap final.pipeline.clock
          final.pipeline.table = some chosen) := by
  have healthy : (final.pipeline.heap situation.backend).healthy = true :=
    (flag_of_late (runs.mono And.left) late).trans reachable
  have failed : FailedBy situation.backend second final := by
    apply runs.invariant _ before
    intro state next step failed allowed stepped
    exact failed.preserved allowed.2 stepped
  have passes : eligible final.pipeline.heap final.pipeline.clock situation.backend = true := by
    apply eligible_iff.mpr ⟨healthy, _⟩
    intro opened
    have recent := ((CircuitBreaker.state_eq_opened_iff _ _).mp opened).2
    rw [FailedBy] at failed
    rw [resetTimeoutSecs] at recent
    omega
  refine ⟨passes, fun listed => ?_⟩
  apply Option.ne_none_iff_exists'.mp
  rw [selectBestBackend, Ne, List.argmin_eq_none]
  exact List.ne_nil_of_mem (List.mem_filter.mpr ⟨listed, passes⟩)

/-- Backend 0 accepts connections all the time. -/
def reachableBackend : Reachability := ⟨0, 0, true, 1⟩

/-- A request to the only backend, which does not get a connection. -/
def refusedRequest (request : ℕ) : List ProberStep :=
  [.traffic .select, .traffic (.pop request), .traffic (.connect request false)]

/-- Five requests fail in the first second; a probe succeeds, and 31 seconds pass. -/
def shortOutage : List ProberStep :=
  (List.range 5).flatMap refusedRequest ++
    [.elapse 5000, .tick, .connected true, .compare, .elapse 2000, .traffic (.advance 31)]

theorem outage_ends_short :
    ∃ final, (proberSystem 5000).Runs
        (fun state step => (Prompt 0 state step ∧ reachableBackend.Allows state step) ∧
          failsAfter 0 0 state step = false)
        (.initial 5000 0 newBackends [0]) shortOutage final ∧
      ∃ chosen, selectBestBackend final.pipeline.heap final.pipeline.clock
        final.pipeline.table = some chosen := by
  have ends : (((proberSystem 5000).restrict fun state step =>
      (Prompt 0 state step ∧ reachableBackend.Allows state step) ∧
        failsAfter 0 0 state step = false).run (.initial 5000 0 newBackends [0]) shortOutage).map
      (fun state => (state.nowMs, state.pipeline.clock, state.pipeline.table)) =
        some (7000, 31, [0]) := by
    decide +kernel
  rcases Option.map_eq_some_iff.mp ends with ⟨final, executed, facts⟩
  have runs := System.Runs.of_run_restrict executed
  rcases Prod.mk.inj facts with ⟨time, rest⟩
  rcases Prod.mk.inj rest with ⟨clock, table⟩
  have late : reachableBackend.detectedBy 5000 0 < final.nowMs := by
    rw [time]
    decide
  have cooled : 0 + 30 < final.pipeline.clock := by
    rw [clock]
    decide
  have listed : reachableBackend.backend ∈ final.pipeline.table := by
    rw [table]
    decide
  exact ⟨final, runs, (outage_ends runs (Nat.le_refl 0) rfl late cooled).2 listed⟩

end Vortex.Proxy
