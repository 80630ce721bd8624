import Vortex.Core.Backend
import Vortex.Lib.ArgMin

/-!
# Choosing a backend

The four selection routines over a snapshot of the routing table:
`select_best_backend` and `select_healthy_backends` of the load balancer, and
`get_best_backend` and `get_ai_backend` of `RoutingTable`.

The load balancer tests the health flag and the breaker; `RoutingTable` tests
only the flag.  What it returns is therefore safe exactly as long as a backend
whose breaker is open always loses on score to one whose breaker is not.
-/

namespace Vortex.Core

open Lib

section Selection

variable (heap : Heap) (now : ℕ) (table : List SharedBackend)

/-- `b.ewma.calculate_score()`. -/
def score (backend : SharedBackend) : ℚ := (heap backend).ewma.calculateScore

/-- The state of the breaker of a backend. -/
def breakerState (backend : SharedBackend) : CircuitState :=
  (heap backend).circuitBreaker.state now

/-- The filter of the load balancer: healthy, and the breaker not open. -/
def eligible (backend : SharedBackend) : Bool :=
  (heap backend).healthy && breakerState heap now backend != .opened

/-- The filter of `get_best_backend`. -/
def healthyBackends : List SharedBackend :=
  table.filter fun backend => (heap backend).healthy

/-- The filter of `get_ai_backend`. -/
def healthyServing (model : String) : List SharedBackend :=
  table.filter fun backend =>
    (heap backend).healthy && (heap backend).aiModels.contains model

/-- `select_best_backend`. -/
def selectBestBackend : Option SharedBackend :=
  (table.filter (eligible heap now)).argmin (score heap)

/-- `select_healthy_backends`. -/
def selectHealthyBackends : List SharedBackend :=
  (table.filter (eligible heap now)).mergeSort fun first second =>
    decide (score heap first ≤ score heap second)

/-- `RoutingTable::get_best_backend`. -/
def getBestBackend : Option SharedBackend :=
  (healthyBackends heap table).argmin (score heap)

/-- The best healthy backend serving a model, if there is one. -/
def bestServing (model : String) : Option SharedBackend :=
  (healthyServing heap table model).argmin (score heap)

/-- `RoutingTable::get_ai_backend`. -/
def getAiBackend (metadata : AiMetadata) (fallbackConfig : Option ModelFallbackConfig) :
    Option SharedBackend :=
  let bestPrimary := bestServing heap table metadata.model
  if bestPrimary.isNone then
    match fallbackConfig with
    | none => bestPrimary
    | some fallback =>
        match fallback.fallbackModels.findSome? (bestServing heap table) with
        | some bestFallback => some bestFallback
        | none => bestPrimary
  else bestPrimary

/-! ## The load balancer -/

variable {heap now table}

theorem eligible_iff {backend : SharedBackend} :
    eligible heap now backend = true ↔
      (heap backend).healthy = true ∧ breakerState heap now backend ≠ .opened := by
  simp [eligible]

theorem selectBestBackend_mem {backend : SharedBackend}
    (selected : selectBestBackend heap now table = some backend) : backend ∈ table :=
  (List.mem_filter.mp (List.argmin_mem selected)).1

theorem selectBestBackend_eligible {backend : SharedBackend}
    (selected : selectBestBackend heap now table = some backend) :
    eligible heap now backend = true :=
  (List.mem_filter.mp (List.argmin_mem selected)).2

theorem selectHealthyBackends_eligible {backend : SharedBackend}
    (selected : backend ∈ selectHealthyBackends heap now table) :
    eligible heap now backend = true :=
  (List.mem_filter.mp (List.mem_mergeSort.mp selected)).2

variable (heap now table)

theorem selectHealthyBackends_eq_sortBy :
    selectHealthyBackends heap now table =
      sortBy (score heap) (table.filter (eligible heap now)) :=
  rfl

theorem head?_selectHealthyBackends :
    (selectHealthyBackends heap now table).head? = selectBestBackend heap now table :=
  head?_sortBy _ _

/-- `select_healthy_backends` returns the eligible backends in the order of their
scores, those of one score in the order of the table, and `select_best_backend`
returns the first of them. -/
theorem selectors_agree :
    (selectHealthyBackends heap now table).Perm (table.filter (eligible heap now)) ∧
      (selectHealthyBackends heap now table).Pairwise
        (fun first second => score heap first ≤ score heap second) ∧
      (∀ value,
        (selectHealthyBackends heap now table).filter (fun backend => score heap backend = value) =
          (table.filter (eligible heap now)).filter fun backend => score heap backend = value) ∧
      selectBestBackend heap now table = (selectHealthyBackends heap now table).head? ∧
      (selectBestBackend heap now table = none ↔ selectHealthyBackends heap now table = []) := by
  rw [← head?_selectHealthyBackends, selectHealthyBackends_eq_sortBy]
  refine ⟨sortBy_perm _ _, sortBy_pairwise _ _, filter_sortBy _ _, rfl, ?_⟩
  exact List.head?_eq_none_iff

variable {heap now table}

/-! ## The routing table -/

/-- The models an AI request may be served with: the one it asks for, then the
configured fallbacks. -/
def modelChain (metadata : AiMetadata) (fallbackConfig : Option ModelFallbackConfig) :
    List String :=
  metadata.model :: (fallbackConfig.map ModelFallbackConfig.fallbackModels).getD []

/-- The primary step and the loop over the fallbacks are one search along the
chain. -/
theorem getAiBackend_eq_findSome? (metadata : AiMetadata)
    (fallbackConfig : Option ModelFallbackConfig) :
    getAiBackend heap table metadata fallbackConfig =
      (modelChain metadata fallbackConfig).findSome? (bestServing heap table) := by
  simp only [getAiBackend, modelChain, List.findSome?_cons]
  cases bestServing heap table metadata.model with
  | some best => rfl
  | none =>
      cases fallbackConfig with
      | none => rfl
      | some fallback =>
          change (match fallback.fallbackModels.findSome? (bestServing heap table) with
            | some bestFallback => some bestFallback
            | none => none) = fallback.fallbackModels.findSome? (bestServing heap table)
          cases fallback.fallbackModels.findSome? (bestServing heap table) with
          | some best => rfl
          | none => rfl

/-- An AI request is routed to the best backend of one of its models. -/
theorem getAiBackend_eq_some {metadata : AiMetadata}
    {fallbackConfig : Option ModelFallbackConfig} {backend : SharedBackend}
    (selected : getAiBackend heap table metadata fallbackConfig = some backend) :
    ∃ model, bestServing heap table model = some backend := by
  rw [getAiBackend_eq_findSome?] at selected
  rcases List.exists_of_findSome?_eq_some selected with ⟨model, _, served⟩
  exact ⟨model, served⟩

/-- A model without a configured fallback is served by its own best backend. -/
theorem getAiBackend_primary (metadata : AiMetadata) :
    getAiBackend heap table metadata none = bestServing heap table metadata.model := by
  simp [getAiBackend]

end Selection

/-- Every candidate whose breaker is open is preceded, in the order of scores and
then of the table, by a candidate whose breaker is not. -/
def OpenPreceded (heap : Heap) (now : ℕ) (candidates : List SharedBackend) : Prop :=
  ∀ backend ∈ candidates, breakerState heap now backend = .opened →
    ∃ other ∈ candidates, breakerState heap now other ≠ .opened ∧
      Precedes (score heap) candidates other backend

/-- Choosing by score among healthy candidates is safe exactly when the open ones
are preceded. -/
theorem argmin_eligible_iff {heap : Heap} {now : ℕ} {candidates : List SharedBackend}
    (healthy : ∀ backend ∈ candidates, (heap backend).healthy = true) :
    (∀ backend, candidates.argmin (score heap) = some backend →
        eligible heap now backend = true) ↔
      OpenPreceded heap now candidates := by
  rw [OpenPreceded, ← argmin_good_iff fun backend => breakerState heap now backend = .opened]
  constructor
  · intro safe backend chosen
    exact (eligible_iff.mp (safe backend chosen)).2
  · intro notOpen backend chosen
    exact eligible_iff.mpr ⟨healthy backend (List.argmin_mem chosen), notOpen backend chosen⟩

/-- The four routines return only eligible backends, whatever the request,
exactly when every healthy open backend is preceded by one that is not open, both
among the healthy backends and among those that serve any given model. -/
theorem tripped_isolated_iff (heap : Heap) (now : ℕ) (table : List SharedBackend) :
    ((∀ backend, selectBestBackend heap now table = some backend →
          eligible heap now backend = true) ∧
        (∀ backend ∈ selectHealthyBackends heap now table,
          eligible heap now backend = true) ∧
        (∀ backend, getBestBackend heap table = some backend →
          eligible heap now backend = true) ∧
        ∀ metadata fallbackConfig backend,
          getAiBackend heap table metadata fallbackConfig = some backend →
            eligible heap now backend = true) ↔
      OpenPreceded heap now (healthyBackends heap table) ∧
        ∀ model, OpenPreceded heap now (healthyServing heap table model) := by
  have best := @argmin_eligible_iff heap now (healthyBackends heap table) (by
    intro backend membership
    exact (List.mem_filter.mp membership).2)
  have serving := fun model => @argmin_eligible_iff heap now
    (healthyServing heap table model) (by
      intro backend membership
      exact (Bool.and_eq_true_iff.mp (List.mem_filter.mp membership).2).1)
  constructor
  · intro safe
    rcases safe with ⟨_, _, safeBest, safeAi⟩
    refine ⟨best.mp safeBest, fun model => (serving model).mp ?_⟩
    intro backend served
    apply safeAi { model, estimatedTokens := 1, semanticHash := none } none backend
    rw [getAiBackend_primary]
    exact served
  · intro preceded
    rcases preceded with ⟨bestPreceded, servingPreceded⟩
    refine ⟨fun _ => selectBestBackend_eligible, fun _ => selectHealthyBackends_eligible,
      best.mpr bestPreceded, ?_⟩
    intro metadata fallbackConfig backend selected
    rcases getAiBackend_eq_some selected with ⟨model, served⟩
    exact (serving model).mpr (servingPreceded model) backend served

/-- Location 0 holds a backend that serves `gpt-4` and has failed five times at
second 100; every other location holds a fresh one. -/
def trippedHeap : Heap
  | 0 =>
      { Backend.new ⟨1⟩ ⟨.v4 ⟨⟨127, 0, 0, 1⟩⟩, 8080⟩ with
        circuitBreaker := ((((CircuitBreaker.new.recordFailure 100).recordFailure
          100).recordFailure 100).recordFailure 100).recordFailure 100
        aiModels := ["gpt-4"] }
  | _ => Backend.new ⟨2⟩ ⟨.v4 ⟨⟨127, 0, 0, 1⟩⟩, 8081⟩

/-- One second later its breaker is open and the load balancer avoids it, while
both routines of the routing table return it. -/
theorem tripped_isolated_fails :
    breakerState trippedHeap 101 0 = .opened ∧
      selectBestBackend trippedHeap 101 [0, 1] = some 1 ∧
      getBestBackend trippedHeap [0, 1] = some 0 ∧
      getAiBackend trippedHeap [0, 1]
        { model := "gpt-4", estimatedTokens := 1, semanticHash := none } none = some 0 := by
  decide +kernel

/-! ## The fallback chain -/

section Chain

variable (heap : Heap) (table : List SharedBackend)

/-- A healthy backend that serves a model. -/
def Serves (model : String) (backend : SharedBackend) : Prop :=
  (heap backend).healthy = true ∧ model ∈ (heap backend).aiModels

/-- The earliest backend of the table among those of least score that serve a
model. -/
def FirstLeast (model : String) (backend : SharedBackend) : Prop :=
  ∃ before after, table = before ++ backend :: after ∧ Serves heap model backend ∧
    (∀ other ∈ before, Serves heap model other → score heap backend < score heap other) ∧
    ∀ other ∈ after, Serves heap model other → score heap backend ≤ score heap other

/-- The heap whose backends serve what `Backend::with_models` makes of the given
lists. -/
def Heap.givenModels (models : SharedBackend → List String) : Heap := fun backend =>
  { heap backend with
    aiModels :=
      (Backend.withModels (heap backend).id (heap backend).addr (models backend)).aiModels }

variable {heap table}

theorem serves_iff {model : String} {backend : SharedBackend} :
    ((heap backend).healthy && (heap backend).aiModels.contains model) = true ↔
      Serves heap model backend := by
  simp [Serves]

theorem bestServing_eq_none {model : String} :
    bestServing heap table model = none ↔ ∀ backend ∈ table, ¬Serves heap model backend := by
  rw [bestServing, List.argmin_eq_none, healthyServing, List.filter_eq_nil_iff]
  simp only [serves_iff]

theorem bestServing_eq_some {model : String} {backend : SharedBackend} :
    bestServing heap table model = some backend ↔ FirstLeast heap table model backend := by
  rw [bestServing, healthyServing, argmin_filter_eq_some_iff, FirstLeast]
  simp only [serves_iff]

/-- The lists a backend was given count only as sets. -/
theorem bestServing_givenModels {models others : SharedBackend → List String}
    (same : ∀ backend model, model ∈ models backend ↔ model ∈ others backend) :
    bestServing (heap.givenModels models) table = bestServing (heap.givenModels others) table := by
  funext model
  have serving : healthyServing (heap.givenModels models) table model =
      healthyServing (heap.givenModels others) table model := by
    apply List.filter_congr
    intro backend _
    rw [Bool.eq_iff_iff, serves_iff, serves_iff]
    simp [Serves, Heap.givenModels, Backend.withModels, List.mem_mergeSort, same]
  -- The scores of the two heaps are the same function.
  exact congrArg (List.argmin (score heap)) serving

/-- `get_ai_backend` follows the chain: it answers nothing exactly when no healthy
backend serves any of its models, and otherwise the earliest backend of least score
for the first model that is served.  The order and the repetition of the models
given to a backend do not matter. -/
theorem ai_routing_follows_chain (heap : Heap) (table : List SharedBackend)
    (metadata : AiMetadata) (fallbackConfig : Option ModelFallbackConfig) :
    (getAiBackend heap table metadata fallbackConfig = none ↔
        ∀ model ∈ modelChain metadata fallbackConfig, ∀ backend ∈ table,
          ¬Serves heap model backend) ∧
      (∀ backend, getAiBackend heap table metadata fallbackConfig = some backend ↔
        ∃ earlier model later, modelChain metadata fallbackConfig = earlier ++ model :: later ∧
          (∀ skipped ∈ earlier, ∀ other ∈ table, ¬Serves heap skipped other) ∧
          FirstLeast heap table model backend) ∧
      ∀ models others : SharedBackend → List String,
        (∀ backend model, model ∈ models backend ↔ model ∈ others backend) →
          getAiBackend (heap.givenModels models) table metadata fallbackConfig =
            getAiBackend (heap.givenModels others) table metadata fallbackConfig := by
  simp only [getAiBackend_eq_findSome?]
  refine ⟨?_, ?_, ?_⟩
  · rw [List.findSome?_eq_none_iff]
    simp only [bestServing_eq_none]
  · intro backend
    rw [List.findSome?_eq_some_iff]
    simp only [bestServing_eq_none, bestServing_eq_some]
    constructor
    · intro found
      rcases found with ⟨earlier, model, later, chain, best, skipped⟩
      exact ⟨earlier, model, later, chain, skipped, best⟩
    · intro found
      rcases found with ⟨earlier, model, later, chain, skipped, best⟩
      exact ⟨earlier, model, later, chain, best, skipped⟩
  · intro models others same
    rw [bestServing_givenModels same]

/-- Two spellings of the list of one model route a request alike. -/
theorem ai_routing_follows_chain_twice :
    getAiBackend (trippedHeap.givenModels fun _ => ["gpt-4", "gpt-4"]) [0, 1]
        { model := "gpt-4", estimatedTokens := 1, semanticHash := none } none =
      getAiBackend (trippedHeap.givenModels fun _ => ["gpt-4"]) [0, 1]
        { model := "gpt-4", estimatedTokens := 1, semanticHash := none } none :=
  (ai_routing_follows_chain trippedHeap [0, 1] _ none).2.2 (fun _ => ["gpt-4", "gpt-4"])
    (fun _ => ["gpt-4"]) (by simp)

end Chain

end Vortex.Core
