import Vortex.Lib.Transition
import Mathlib.Logic.Function.Basic

/-!
# Updating a cell by a compare-exchange loop

A call loads the cell, computes a new value from what it has loaded and its own
argument, and tries to exchange; when the exchange fails it starts again from
the value the failed exchange returned.  A weak exchange may also fail although
the cell holds the expected value.

A state also records the successful exchanges in their order.  Whatever the
interleaving, the cell holds the result of applying the update to the arguments
recorded, one after the other, and each call that has returned is recorded once.
-/

namespace Vortex.Lib

variable {ι V S : Type*}

/-- Where a call is. -/
inductive CellCall (V S : Type*) where
  | idle
  /-- The next exchange of the call expects `loaded`. -/
  | running (loaded : V) (argument : S)
  | returned (argument : S)
  deriving DecidableEq, Repr

/-- What a call has contributed to the record. -/
def CellCall.contribution (call : ι) : CellCall V S → List (ι × S)
  | .idle => []
  | .running _ _ => []
  | .returned argument => [(call, argument)]

/-- The cell, the calls, and the successful exchanges in their order. -/
structure Cell (ι V S : Type*) where
  value : V
  calls : ι → CellCall V S
  exchanged : List (ι × S)

/-- Atomic actions; each belongs to the call it names. -/
inductive CellStep (ι S : Type*) where
  /-- The initial load. -/
  | load (call : ι) (argument : S)
  /-- An exchange that fails only if the cell does not hold the expected value. -/
  | exchange (call : ι)
  /-- An exchange that fails. -/
  | failExchange (call : ι)
  deriving DecidableEq, Repr

namespace Cell

/-- Before the first call. -/
def initial (value : V) : Cell ι V S where
  value
  calls := fun _ => .idle
  exchanged := []

variable [DecidableEq ι]

/-- The call goes on from the current value. -/
def reload (cell : Cell ι V S) (call : ι) (argument : S) : Cell ι V S :=
  { cell with calls := Function.update cell.calls call (.running cell.value argument) }

/-- The call exchanges and returns. -/
def commit (cell : Cell ι V S) (call : ι) (argument : S) (value : V) : Cell ι V S where
  value
  calls := Function.update cell.calls call (.returned argument)
  exchanged := cell.exchanged ++ [(call, argument)]

end Cell

/-! ## Linearized states -/

section Linearized

variable [DecidableEq ι] {update : V → S → V} {start : V} {cell : Cell ι V S}

/-- The cell holds the result of the recorded updates, and the record has the
contribution of each call and nothing else. -/
structure Linearized (update : V → S → V) (start : V) (cell : Cell ι V S) : Prop where
  value_eq : cell.value = (cell.exchanged.map Prod.snd).foldl update start
  contributions : ∀ call,
    cell.exchanged.filter (fun entry => entry.1 = call) = (cell.calls call).contribution call

theorem Linearized.initial : Linearized update start (Cell.initial start : Cell ι V S) :=
  ⟨rfl, fun _ => rfl⟩

theorem Linearized.reload (linearized : Linearized update start cell) {call : ι}
    (pending : (cell.calls call).contribution call = []) (argument : S) :
    Linearized update start (cell.reload call argument) where
  value_eq := linearized.value_eq
  contributions := by
    intro other
    simp only [Cell.reload]
    rw [linearized.contributions other]
    rcases Decidable.eq_or_ne other call with rfl | different
    · rw [pending, Function.update_self]
      rfl
    · rw [Function.update_of_ne different]

theorem Linearized.commit (linearized : Linearized update start cell) {call : ι}
    (pending : (cell.calls call).contribution call = []) (argument : S) :
    Linearized update start (cell.commit call argument (update cell.value argument)) where
  value_eq := by
    simp only [Cell.commit, List.map_append, List.map_cons, List.map_nil, List.foldl_append,
      List.foldl_cons, List.foldl_nil]
    rw [linearized.value_eq]
  contributions := by
    intro other
    simp only [Cell.commit, List.filter_append]
    rw [linearized.contributions other]
    rcases Decidable.eq_or_ne other call with rfl | different
    · rw [pending, Function.update_self]
      simp [CellCall.contribution]
    · rw [Function.update_of_ne different]
      simp [different.symm]

end Linearized

/-! ## The loop -/

section Loop

variable [DecidableEq ι] [DecidableEq V] (update : V → S → V)

/-- One action of a call. -/
def cellStep (cell : Cell ι V S) : CellStep ι S → Option (Cell ι V S)
  | .load call argument =>
      match cell.calls call with
      | .idle => some (cell.reload call argument)
      | _ => none
  | .exchange call =>
      match cell.calls call with
      | .running loaded argument =>
          if cell.value = loaded then some (cell.commit call argument (update loaded argument))
          else some (cell.reload call argument)
      | _ => none
  | .failExchange call =>
      match cell.calls call with
      | .running _ argument => some (cell.reload call argument)
      | _ => none

/-- The loop as a transition system. -/
def cellSystem : System (Cell ι V S) (CellStep ι S) where
  step := cellStep update

/-- The effects of an action that is enabled: a call that has not returned goes
on from the current value, or it applies the update to the current value. -/
inductive CellEffect (cell : Cell ι V S) : Cell ι V S → Prop where
  | reloaded {call : ι} (pending : (cell.calls call).contribution call = []) (argument : S) :
      CellEffect cell (cell.reload call argument)
  | committed {call : ι} (pending : (cell.calls call).contribution call = []) (argument : S) :
      CellEffect cell (cell.commit call argument (update cell.value argument))

variable {update}

theorem cellStep_effect {cell next : Cell ι V S} {step : CellStep ι S}
    (stepped : cellStep update cell step = some next) : CellEffect update cell next := by
  cases step with
  | load call argument =>
      simp only [cellStep] at stepped
      split at stepped
      · next idle =>
          cases stepped
          exact .reloaded (by simp [idle, CellCall.contribution]) argument
      · cases stepped
  | exchange call =>
      simp only [cellStep] at stepped
      split at stepped
      · next loaded argument running =>
          have pending : (cell.calls call).contribution call = [] := by
            simp [running, CellCall.contribution]
          split at stepped
          · next same =>
              cases stepped
              rw [← same]
              exact .committed pending argument
          · cases stepped
            exact .reloaded pending argument
      · cases stepped
  | failExchange call =>
      simp only [cellStep] at stepped
      split at stepped
      · next loaded argument running =>
          cases stepped
          exact .reloaded (by simp [running, CellCall.contribution]) argument
      · cases stepped

/-- In every reachable state the updates are linearized. -/
theorem linearized_of_run {start : V} {final : Cell ι V S} {steps : List (CellStep ι S)}
    (executed : (cellSystem update).run (Cell.initial start) steps = some final) :
    Linearized update start final := by
  apply (System.Runs.of_run executed).invariant _ .initial
  intro cell next step linearized _ stepped
  cases cellStep_effect stepped with
  | reloaded pending argument => exact linearized.reload pending argument
  | committed pending argument => exact linearized.commit pending argument

/-- A call that runs alone performs the update. -/
theorem run_alone {cell : Cell ι V S} {call : ι} (idle : cell.calls call = .idle)
    (argument : S) :
    (cellSystem update).run cell [.load call argument, .exchange call] =
      some (cell.commit call argument (update cell.value argument)) := by
  simp [System.run, cellSystem, cellStep, idle, Cell.reload, Cell.commit]

end Loop

end Vortex.Lib
