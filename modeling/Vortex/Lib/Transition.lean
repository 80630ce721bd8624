/-!
# Labelled transition systems and guarded runs

Concurrent code is described by a partial step function: a label names one
atomic action, and `step` answers `none` when that action is not enabled.  A
run is then a list of labels, and an interleaving of any number of threads is
just one such list.

`Runs` additionally carries a guard on the state before each step.  The trivial
guard gives all runs; a stronger one singles out the runs whose every step
satisfies a side condition.  The executable `run` agrees with the relation, so
concrete traces can be evaluated and arbitrary ones reasoned about.
-/

namespace Vortex.Lib

universe u v

/-- A labelled transition system with a partial, deterministic step. -/
structure System (State : Type u) (Label : Type v) where
  step : State → Label → Option State

namespace System

variable {State : Type u} {Label : Type v}

/-- Execute a list of labels, failing at the first one that is not enabled. -/
def run (system : System State Label) : State → List Label → Option State
  | state, [] => some state
  | state, label :: labels =>
      (system.step state label).bind fun next => system.run next labels

theorem run_cons {system : System State Label} {state next : State} {label : Label}
    (stepped : system.step state label = some next) (labels : List Label) :
    system.run state (label :: labels) = system.run next labels := by
  rw [run, stepped, Option.bind_some]

theorem run_append (system : System State Label) (state : State) (earlier later : List Label) :
    system.run state (earlier ++ later) =
      (system.run state earlier).bind fun next => system.run next later := by
  induction earlier generalizing state with
  | nil => rfl
  | cons label earlier ih =>
      simp only [List.cons_append, run, Option.bind_assoc]
      congr 1
      funext next
      exact ih next

/-- The state is one of those that a list of labels leads through. -/
def Visits (system : System State Label) (start : State) (labels : List Label) (state : State) :
    Prop :=
  ∃ earlier later, labels = earlier ++ later ∧ system.run start earlier = some state

theorem visits_start (system : System State Label) (start : State) (labels : List Label) :
    system.Visits start labels start :=
  ⟨[], labels, rfl, rfl⟩

theorem Visits.cons {system : System State Label} {start next state : State} {label : Label}
    {labels : List Label} (stepped : system.step start label = some next)
    (visits : system.Visits next labels state) : system.Visits start (label :: labels) state := by
  rcases visits with ⟨earlier, later, split, reached⟩
  refine ⟨label :: earlier, later, ?_, ?_⟩
  · rw [split, List.cons_append]
  · rw [run_cons stepped, reached]

/-- Runs whose every step satisfies `guard` in the state it starts from. -/
inductive Runs (system : System State Label) (guard : State → Label → Prop) :
    State → List Label → State → Prop where
  | nil (state : State) : Runs system guard state [] state
  | cons {state next final : State} {label : Label} {labels : List Label} :
      guard state label → system.step state label = some next →
      Runs system guard next labels final →
      Runs system guard state (label :: labels) final

variable {system : System State Label} {guard : State → Label → Prop}

/-- An invariant kept by every guarded step holds at the end of every guarded
run that starts in it. -/
theorem Runs.invariant {inv : State → Prop}
    (preserved : ∀ {state next : State} {label : Label}, inv state →
      guard state label → system.step state label = some next → inv next)
    {state final : State} {labels : List Label}
    (runs : Runs system guard state labels final) (initial : inv state) :
    inv final := by
  induction runs with
  | nil => exact initial
  | cons allowed stepped _ ih => exact ih (preserved initial allowed stepped)

theorem Runs.mono {weaker : State → Label → Prop}
    (implied : ∀ {state : State} {label : Label}, guard state label → weaker state label)
    {state final : State} {labels : List Label}
    (runs : Runs system guard state labels final) : Runs system weaker state labels final := by
  induction runs with
  | nil => exact .nil _
  | cons allowed stepped _ ih => exact .cons (implied allowed) stepped ih

/-- An executable run of labels that are all allowed. -/
theorem Runs.of_run_allowed {allowed : Label → Prop} {state final : State} {labels : List Label}
    (executed : system.run state labels = some final)
    (allAllowed : ∀ label ∈ labels, allowed label) :
    Runs system (fun _ label => allowed label) state labels final := by
  induction labels generalizing state with
  | nil =>
      cases executed
      exact .nil _
  | cons label labels ih =>
      simp only [run, Option.bind_eq_some_iff] at executed
      rcases executed with ⟨next, stepped, rest⟩
      apply Runs.cons (allAllowed label List.mem_cons_self) stepped
      exact ih rest fun other membership => allAllowed other (List.mem_cons_of_mem _ membership)

/-- The system with a guard that is tested before each step. -/
def restrict (system : System State Label) (guard : State → Label → Prop)
    [∀ state label, Decidable (guard state label)] : System State Label where
  step state label := if guard state label then system.step state label else none

theorem Runs.of_run_restrict [∀ state label, Decidable (guard state label)]
    {state final : State} {labels : List Label}
    (executed : (system.restrict guard).run state labels = some final) :
    Runs system guard state labels final := by
  induction labels generalizing state with
  | nil =>
      cases executed
      exact .nil _
  | cons label labels ih =>
      simp only [run, Option.bind_eq_some_iff] at executed
      rcases executed with ⟨next, stepped, rest⟩
      rcases Option.ite_none_right_eq_some.mp stepped with ⟨allowed, performed⟩
      exact .cons allowed performed (ih rest)

/-- A guarded run can be executed. -/
theorem Runs.run_eq {state final : State} {labels : List Label}
    (runs : Runs system guard state labels final) : system.run state labels = some final := by
  induction runs with
  | nil => rfl
  | cons _ stepped _ ih => rw [run_cons stepped, ih]

/-- Every executable run is a run under the trivial guard. -/
theorem Runs.of_run {state final : State} {labels : List Label}
    (executed : system.run state labels = some final) :
    Runs system (fun _ _ => True) state labels final :=
  .of_run_allowed executed fun _ _ => trivial

end System

end Vortex.Lib
