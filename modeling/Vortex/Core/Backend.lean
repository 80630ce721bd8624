import Vortex.Core.CircuitBreaker
import Vortex.Lib.Net
import Mathlib.Algebra.Order.Ring.Rat
import Mathlib.Logic.Function.Basic

/-!
# Backends

A backend with its health flag, its Peak EWMA tracker and its circuit breaker.
Latencies and scores are exact rationals.  An `Arc<Backend>` is a location of a
heap, so that the routing table and the requests in flight share what they point
to.
-/

namespace Vortex.Core

open Lib

/-! ## The AI gateway -/

/-- `AiMetadata`. -/
structure AiMetadata where
  model : String
  estimatedTokens : ℕ
  semanticHash : Option String
  deriving DecidableEq, Repr

/-- `ModelFallbackConfig`. -/
structure ModelFallbackConfig where
  primaryModel : String
  fallbackModels : List String
  deriving DecidableEq, Repr

/-! ## Peak EWMA -/

/-- `PeakEwma`. -/
structure PeakEwma where
  ewma : ℚ
  decayAlpha : ℚ
  activeRequests : ℕ
  deriving DecidableEq, Repr

namespace PeakEwma

/-- `PeakEwma::new`. -/
def new (initialLatencyMs decayAlpha : ℚ) : PeakEwma where
  ewma := initialLatencyMs
  decayAlpha
  activeRequests := 0

/-- `observe_latency`, run without interference. -/
def observeLatency (tracker : PeakEwma) (rttMs : ℚ) : PeakEwma :=
  { tracker with
    ewma :=
      if rttMs > tracker.ewma then rttMs
      else rttMs * (1 - tracker.decayAlpha) + tracker.ewma * tracker.decayAlpha }

/-- `increment_active`. -/
def incrementActive (tracker : PeakEwma) : PeakEwma :=
  { tracker with activeRequests := tracker.activeRequests + 1 }

/-- Dropping the guard returned by `increment_active`. -/
def dropGuard (tracker : PeakEwma) : PeakEwma :=
  { tracker with activeRequests := tracker.activeRequests - 1 }

/-- `calculate_score`. -/
def calculateScore (tracker : PeakEwma) : ℚ :=
  (tracker.ewma + 1) * (tracker.activeRequests + 1)

end PeakEwma

/-! ## Backends -/

/-- `BackendId`. -/
structure BackendId where
  value : UInt32
  deriving DecidableEq, Repr

/-- `Backend`. -/
structure Backend where
  id : BackendId
  addr : SocketAddr
  healthy : Bool
  ewma : PeakEwma
  circuitBreaker : CircuitBreaker
  aiModels : List String
  deriving DecidableEq, Repr

/-- `Backend::new`. -/
def Backend.new (id : BackendId) (addr : SocketAddr) : Backend where
  id
  addr
  healthy := true
  ewma := .new 50 (1 / 2)
  circuitBreaker := .new
  aiModels := []

/-- `Backend::with_models`. -/
def Backend.withModels (id : BackendId) (addr : SocketAddr) (models : List String) : Backend where
  id
  addr
  healthy := true
  ewma := .new 50 (1 / 2)
  circuitBreaker := .new
  aiModels := models.mergeSort fun first second => decide (first ≤ second)

/-- `Arc<Backend>`: a location. -/
abbrev SharedBackend := ℕ

/-- What every shared backend currently holds. -/
abbrev Heap := SharedBackend → Backend

/-- Change what one shared backend holds. -/
def Heap.modify (heap : Heap) (backend : SharedBackend) (change : Backend → Backend) : Heap :=
  Function.update heap backend (change (heap backend))

/-- Put backends into consecutive locations, from `base` on. -/
def Heap.allocate (heap : Heap) (base : SharedBackend) (backends : List Backend) : Heap :=
  fun location =>
    if base ≤ location then backends[location - base]?.getD (heap location) else heap location

theorem Heap.map_allocate (heap : Heap) (base : SharedBackend) (backends : List Backend) :
    (List.range' base backends.length).map (heap.allocate base backends) = backends := by
  apply List.ext_getElem
  · simp
  · intro index _ inside
    simp [Heap.allocate, inside]

theorem Heap.allocate_below (heap : Heap) {base location : SharedBackend}
    (backends : List Backend) (below : location < base) :
    heap.allocate base backends location = heap location :=
  if_neg (Nat.not_le.mpr below)

theorem Heap.allocate_beyond (heap : Heap) {base location : SharedBackend}
    {backends : List Backend} (beyond : base + backends.length ≤ location) :
    heap.allocate base backends location = heap location := by
  have outside : backends[location - base]? = none :=
    List.getElem?_eq_none (Nat.le_sub_of_add_le' beyond)
  rw [Heap.allocate, outside, Option.getD_none, ite_self]

theorem Heap.allocate_mem (heap : Heap) {base location : SharedBackend} {backends : List Backend}
    (allocated : base ≤ location) (inside : location < base + backends.length) :
    heap.allocate base backends location ∈ backends := by
  have index : location - base < backends.length := Nat.sub_lt_left_of_lt_add allocated inside
  rw [Heap.allocate, if_pos allocated, List.getElem?_eq_getElem index]
  exact List.getElem_mem index

theorem Heap.modify_modify (heap : Heap) (backend : SharedBackend)
    (first second : Backend → Backend) :
    (heap.modify backend first).modify backend second =
      heap.modify backend fun b => second (first b) := by
  simp only [Heap.modify, Function.update_self, Function.update_idem]

/-- A change that keeps something of the backend keeps it of every backend. -/
theorem Heap.modify_keeps {γ : Type*} (field : Backend → γ) {heap : Heap}
    {backend : SharedBackend} {change : Backend → Backend}
    (keeps : field (change (heap backend)) = field (heap backend)) (other : SharedBackend) :
    field (heap.modify backend change other) = field (heap other) := by
  rcases Decidable.eq_or_ne other backend with rfl | different
  · rw [Heap.modify, Function.update_self, keeps]
  · rw [Heap.modify, Function.update_of_ne different]

end Vortex.Core
