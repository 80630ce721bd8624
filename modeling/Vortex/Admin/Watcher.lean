import Vortex.Proxy.Forwarding

/-!
# The Kubernetes watcher

Each applied `VortexRoute` makes the watcher build a new backend for every entry
of its specification and swap the whole table.  Nothing is carried over from the
table that was there before, so applying an unchanged specification again shows
every entry as it was when the table was first built.

`SocketAddr::from_str` is the parameter `parse`.  New backends go to locations
from `base` on.
-/

namespace Vortex.Admin

open Vortex.Core Lib Proxy

/-- `VortexBackendMap`. -/
structure VortexBackendMap where
  id : UInt32
  address : String
  aiModels : Option (List String)
  deriving DecidableEq, Repr

/-- `VortexRouteSpec`. -/
structure VortexRouteSpec where
  backends : List VortexBackendMap
  deriving DecidableEq, Repr

/-- `127.0.0.1:80`, used for an address that does not parse. -/
def fallbackAddr : SocketAddr := ⟨.v4 ⟨⟨127, 0, 0, 1⟩⟩, 80⟩

/-- The backend built for an entry. -/
def VortexBackendMap.build (parse : String → Option SocketAddr) (entry : VortexBackendMap) :
    Backend :=
  .withModels ⟨entry.id⟩ ((parse entry.address).getD fallbackAddr) (entry.aiModels.getD [])

/-- The backends built for a specification. -/
def VortexRouteSpec.build (parse : String → Option SocketAddr) (spec : VortexRouteSpec) :
    List Backend :=
  spec.backends.map (·.build parse)

/-- Handle one event of the watch stream. -/
def handleEvent (parse : String → Option SocketAddr) (base : SharedBackend) (state : ForwardState) :
    Except String VortexRouteSpec → ForwardState
  | .error _ => state
  | .ok spec =>
      let newBackends := spec.build parse
      if newBackends.isEmpty then state
      else
        { state with
          heap := state.heap.allocate base newBackends
          table := List.range' base newBackends.length }

/-- The backends seen through the routing table, in its order. -/
def entries (state : ForwardState) : List Backend := state.table.map state.heap

/-- What the specification fixes of a backend. -/
def configured (backend : Backend) : BackendId × SocketAddr × List String :=
  (backend.id, backend.addr, backend.aiModels)

/-- What requests and probes change: the health flag, the breaker, the average and
the number of requests in flight. -/
def acquired (backend : Backend) : Bool × CircuitBreaker × PeakEwma :=
  (backend.healthy, backend.circuitBreaker, backend.ewma)

/-- What a new backend has of these. -/
def acquiredByNew : Bool × CircuitBreaker × PeakEwma := (true, .new, .new 50 (1 / 2))

theorem configured_acquired_ext {first second : Backend}
    (sameConfigured : configured first = configured second)
    (sameAcquired : acquired first = acquired second) : first = second := by
  cases first
  cases second
  simp_all [configured, acquired]

section Event

variable {parse : String → Option SocketAddr} {spec : VortexRouteSpec}

theorem acquired_build {backend : Backend} (built : backend ∈ spec.build parse) :
    acquired backend = acquiredByNew := by
  rcases List.mem_map.mp built with ⟨entry, _, rfl⟩
  rfl

theorem handleEvent_ok (nonempty : spec.backends ≠ []) (base : SharedBackend)
    (state : ForwardState) :
    handleEvent parse base state (.ok spec) =
      { state with
        heap := state.heap.allocate base (spec.build parse)
        table := List.range' base (spec.build parse).length } := by
  apply if_neg
  simpa [VortexRouteSpec.build] using nonempty

/-- After an event the table shows new backends. -/
theorem entries_handleEvent (nonempty : spec.backends ≠ []) (base : SharedBackend)
    (state : ForwardState) :
    entries (handleEvent parse base state (.ok spec)) = spec.build parse := by
  rw [handleEvent_ok nonempty]
  exact Heap.map_allocate _ _ _

end Event

/-! ## Between two events -/

/-- The action does not swap the table. -/
def keepsTable : ForwardStep → Bool
  | .updateBackends _ => false
  | _ => true

/-- No action changes what the specification fixes, and only a swap changes the
table. -/
theorem configured_step {state next : ForwardState} {step : ForwardStep}
    (keeps : keepsTable step = true) (stepped : forwardStep state step = some next) :
    next.table = state.table ∧
      ∀ location, configured (next.heap location) = configured (state.heap location) := by
  cases forwardStep_effect stepped with
  | advanced elapsed => exact ⟨rfl, fun _ => rfl⟩
  | healthSet backend healthy => exact ⟨rfl, Heap.modify_keeps configured rfl⟩
  | tableUpdated table => cases keeps
  | selected free chosen => exact ⟨rfl, Heap.modify_keeps configured rfl⟩
  | refused request => exact ⟨rfl, fun _ => rfl⟩
  | dispatched holding => exact ⟨rfl, fun _ => rfl⟩
  | succeeded rttMs holding => exact ⟨rfl, Heap.modify_keeps configured rfl⟩
  | failed holding => exact ⟨rfl, Heap.modify_keeps configured rfl⟩
  | abandoned holding => exact ⟨rfl, Heap.modify_keeps configured rfl⟩

theorem configured_entries_step {state next : ForwardState} {step : ForwardStep}
    (keeps : keepsTable step = true) (stepped : forwardStep state step = some next) :
    (entries next).map configured = (entries state).map configured := by
  rcases configured_step keeps stepped with ⟨table, heap⟩
  simp only [entries, List.map_map, table]
  exact List.map_congr_left fun location _ => heap location

theorem configured_run {start state : ForwardState} {steps : List ForwardStep}
    (runs : forwardSystem.Runs (fun _ step => keepsTable step = true) start steps state) :
    (entries state).map configured = (entries start).map configured := by
  induction runs with
  | nil => rfl
  | cons keeps stepped _ ih => exact ih.trans (configured_entries_step keeps stepped)

/-! ## The same specification again -/

/-- Lists of backends that agree in both parts are equal. -/
theorem eq_of_map_eq {first second : List Backend}
    (sameConfigured : first.map configured = second.map configured)
    (sameAcquired : first.map acquired = second.map acquired) : first = second := by
  induction first generalizing second with
  | nil => simpa using sameConfigured
  | cons backend first ih =>
      cases second with
      | nil => cases sameConfigured
      | cons other second =>
          simp only [List.map_cons, List.cons.injEq] at sameConfigured sameAcquired
          rw [configured_acquired_ext sameConfigured.1 sameAcquired.1,
            ih sameConfigured.2 sameAcquired.2]

section New

variable {heap : Heap} {backend : SharedBackend}

theorem eligible_of_new (asNew : acquired (heap backend) = acquiredByNew) (now : ℕ) :
    eligible heap now backend = true := by
  simp only [acquired, acquiredByNew, Prod.mk.injEq] at asNew
  rcases asNew with ⟨healthy, breaker, _⟩
  rw [eligible, breakerState, healthy, breaker]
  rfl

theorem score_of_new (asNew : acquired (heap backend) = acquiredByNew) :
    score heap backend = 51 := by
  simp only [acquired, acquiredByNew, Prod.mk.injEq] at asNew
  rcases asNew with ⟨_, _, ewma⟩
  rw [score, ewma]
  decide +kernel

/-- Among new backends the first is selected. -/
theorem select_of_new {table : List SharedBackend} (now : ℕ)
    (asNew : ∀ backend ∈ table, acquired (heap backend) = acquiredByNew) :
    selectBestBackend heap now table = table.head? := by
  have all : table.filter (eligible heap now) = table := by
    apply List.filter_eq_self.mpr
    intro backend listed
    exact eligible_of_new (asNew backend listed) now
  rw [selectBestBackend, all]
  cases table with
  | nil => rfl
  | cons first table =>
      apply argmin_cons_of_least
      intro other listed
      rw [score_of_new (asNew first List.mem_cons_self),
        score_of_new (asNew other (List.mem_cons_of_mem _ listed))]

end New

/-- Applying the specification a table was built from again, after any run, shows
every entry with the same id, address and models, and otherwise as new: the
entries are as they were exactly when all of them were still as new.  The first
entry is selected next, and the backends that requests in flight hold are left
alone. -/
theorem reapplied_topology_as_new {parse : String → Option SocketAddr} {spec : VortexRouteSpec}
    (nonempty : spec.backends ≠ []) {start state after : ForwardState}
    {first base : SharedBackend} {steps : List ForwardStep}
    (runs : forwardSystem.Runs (fun _ step => keepsTable step = true)
      (handleEvent parse first start (.ok spec)) steps state)
    (handled : handleEvent parse base state (.ok spec) = after) :
    (entries after).map configured = (entries state).map configured ∧
      (∀ backend ∈ entries after, acquired backend = acquiredByNew) ∧
      (entries after = entries state ↔
        ∀ backend ∈ entries state, acquired backend = acquiredByNew) ∧
      (selectBestBackend after.heap after.clock after.table).map after.heap =
        (entries after).head? ∧
      ∀ location < base, after.heap location = state.heap location := by
  subst handled
  have sameConfigured : (entries (handleEvent parse base state (.ok spec))).map configured =
      (entries state).map configured := by
    rw [configured_run runs, entries_handleEvent nonempty, entries_handleEvent nonempty]
  have asNew : ∀ backend ∈ entries (handleEvent parse base state (.ok spec)),
      acquired backend = acquiredByNew := by
    intro backend listed
    rw [entries_handleEvent nonempty] at listed
    exact acquired_build listed
  refine ⟨sameConfigured, asNew, ⟨?_, ?_⟩, ?_, ?_⟩
  · intro unchanged
    rwa [← unchanged]
  · intro stillNew
    apply eq_of_map_eq sameConfigured
    have length := congrArg List.length sameConfigured
    simp only [List.length_map] at length
    rw [List.map_congr_left asNew, List.map_congr_left stillNew, List.map_const', List.map_const',
      length]
  · rw [select_of_new, entries, List.head?_map]
    intro backend listed
    exact asNew _ (List.mem_map_of_mem listed)
  · intro location below
    rw [handleEvent_ok nonempty]
    exact Heap.allocate_below _ _ below

/-! ## A tripped backend revived -/

/-- Two backends on one host. -/
def twoBackends : VortexRouteSpec where
  backends := [⟨1, "127.0.0.1:8080", none⟩, ⟨2, "127.0.0.1:8081", none⟩]

/-- Parses the addresses of `twoBackends`. -/
def parseLocal : String → Option SocketAddr
  | "127.0.0.1:8080" => some ⟨.v4 ⟨⟨127, 0, 0, 1⟩⟩, 8080⟩
  | "127.0.0.1:8081" => some ⟨.v4 ⟨⟨127, 0, 0, 1⟩⟩, 8081⟩
  | _ => none

/-- The table built from `twoBackends` at second 100. -/
def twoBackendsBuilt : ForwardState :=
  handleEvent parseLocal 0 (.initial 100 (fun _ => Backend.new ⟨0⟩ fallbackAddr) [])
    (.ok twoBackends)

/-- Five requests that the first backend fails. -/
def fiveFailures : List ForwardStep :=
  [.select 0, .fail 0 0, .select 1, .fail 1 0, .select 2, .fail 2 0, .select 3, .fail 3 0,
    .select 4, .fail 4 0]

theorem reapplied_topology_as_new_tripped :
    ∃ state, forwardSystem.run twoBackendsBuilt fiveFailures = some state ∧
      entries (handleEvent parseLocal 2 state (.ok twoBackends)) ≠ entries state ∧
      ∀ location < 2,
        (handleEvent parseLocal 2 state (.ok twoBackends)).heap location = state.heap location := by
  have reached : (forwardSystem.run twoBackendsBuilt fiveFailures).map
      (fun state => decide (∀ backend ∈ entries state, acquired backend = acquiredByNew)) =
        some false := by
    decide +kernel
  rcases Option.map_eq_some_iff.mp reached with ⟨state, executed, tripped⟩
  have runs : forwardSystem.Runs (fun _ step => keepsTable step = true) twoBackendsBuilt
      fiveFailures state := .of_run_allowed executed (by decide)
  rcases reapplied_topology_as_new (by decide) runs rfl with ⟨_, _, unchanged, _, untouched⟩
  refine ⟨state, executed, ?_, untouched⟩
  intro same
  exact of_decide_eq_false tripped (unchanged.mp same)

/-- The states of the breakers seen through the table, and the id of the backend
that `select_best_backend` returns. -/
def observed (state : ForwardState) : List CircuitState × Option BackendId :=
  ((entries state).map fun backend => backend.circuitBreaker.state state.clock,
    (selectBestBackend state.heap state.clock state.table).map fun backend =>
      (state.heap backend).id)

/-- After five failures the first backend is open and the second is selected;
handling the same specification again closes it and selects it. -/
theorem reapplied_topology_revives :
    (forwardSystem.run twoBackendsBuilt fiveFailures).map observed =
        some ([.opened, .closed], some ⟨2⟩) ∧
      (forwardSystem.run twoBackendsBuilt fiveFailures).map
          (fun state => observed (handleEvent parseLocal 2 state (.ok twoBackends))) =
        some ([.closed, .closed], some ⟨1⟩) := by
  decide +kernel

end Vortex.Admin
