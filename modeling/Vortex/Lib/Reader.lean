import Mathlib.Data.List.ReduceOption
import Vortex.Lib.Transition

/-!
# Programs that load cells others write to

A program that reads shared memory is a tree: it ends with an answer, or it loads a cell
and goes on with the value.  The cells do not keep still meanwhile, so two loads may see
two different stores.

What such a program can answer is said in terms of the stores that occur while it runs.
A program undisturbed by others sees one store.  A program beside a transition system
sees the stores of the states that the system visits.
-/

namespace Vortex.Lib

universe u v w

/-- A program that loads cells. -/
inductive Reader (Cell : Type u) (Value : Cell → Type v) (Answer : Type w) where
  | ends (answer : Answer)
  | loads (cell : Cell) (next : Value cell → Reader Cell Value Answer)

namespace Reader

variable {Cell : Type u} {Value : Cell → Type v} {Answer Next : Type w}

/-- Go on with the answer of a program. -/
def bind (program : Reader Cell Value Answer) (next : Answer → Reader Cell Value Next) :
    Reader Cell Value Next :=
  match program with
  | .ends answer => next answer
  | .loads cell rest => .loads cell fun value => (rest value).bind next

/-- Go through a list from the left. -/
def foldl {Item : Type*} (step : Answer → Item → Reader Cell Value Answer) (answer : Answer) :
    List Item → Reader Cell Value Answer
  | [] => .ends answer
  | item :: items => (step answer item).bind fun next => foldl step next items

/-- The answer of a program that has come to its end. -/
def answered : Reader Cell Value Answer → Option Answer
  | .ends answer => some answer
  | .loads _ _ => none

theorem eq_ends_of_answered {program : Reader Cell Value Answer} {answer : Answer}
    (ended : program.answered = some answer) : program = .ends answer := by
  cases program with
  | ends own =>
      cases ended
      rfl
  | loads cell next => cases ended

/-- The answer of a program that nobody disturbs. -/
def evaluate (store : ∀ cell, Value cell) : Reader Cell Value Answer → Answer
  | .ends answer => answer
  | .loads cell next => (next (store cell)).evaluate store

/-- The program can give the answer when each of its loads sees one of the stores. -/
def Answers (occurs : (∀ cell, Value cell) → Prop) :
    Reader Cell Value Answer → Answer → Prop
  | .ends own, answer => own = answer
  | .loads cell next, answer =>
      ∃ store, occurs store ∧ (next (store cell)).Answers occurs answer

variable {occurs : (∀ cell, Value cell) → Prop} {store : ∀ cell, Value cell}

section Sequence

variable {Item : Type*} {step : Answer → Item → Reader Cell Value Answer}

theorem evaluate_bind (program : Reader Cell Value Answer)
    (next : Answer → Reader Cell Value Next) :
    (program.bind next).evaluate store = (next (program.evaluate store)).evaluate store := by
  induction program with
  | ends answer => rfl
  | loads cell rest ih => exact ih (store cell)

theorem evaluate_foldl (answer : Answer) (items : List Item) :
    (foldl step answer items).evaluate store =
      items.foldl (fun answer item => (step answer item).evaluate store) answer := by
  induction items generalizing answer with
  | nil => rfl
  | cons item items ih => rw [foldl, evaluate_bind, ih, List.foldl_cons]

theorem answers_bind {program : Reader Cell Value Answer}
    {next : Answer → Reader Cell Value Next} {answer : Next} :
    (program.bind next).Answers occurs answer ↔
      ∃ intermediate, program.Answers occurs intermediate ∧
        (next intermediate).Answers occurs answer := by
  induction program with
  | ends own =>
      constructor
      · intro answers
        exact ⟨own, rfl, answers⟩
      · rintro ⟨_, rfl, answers⟩
        exact answers
  | loads cell rest ih =>
      constructor
      · rintro ⟨store, occurred, answers⟩
        rcases (ih _).mp answers with ⟨intermediate, first, second⟩
        exact ⟨intermediate, ⟨store, occurred, first⟩, second⟩
      · rintro ⟨intermediate, ⟨store, occurred, first⟩, second⟩
        exact ⟨store, occurred, (ih _).mpr ⟨intermediate, first, second⟩⟩

/-- What holds before the first item and is kept by each holds after the last. -/
theorem Answers.foldl_induction {motive : List Item → Answer → Prop} {first last : Answer}
    {items : List Item} (initial : motive [] first)
    (kept : ∀ {past answer item next}, motive past answer →
      (step answer item).Answers occurs next → motive (past ++ [item]) next)
    (answers : (foldl step first items).Answers occurs last) : motive items last := by
  -- The items that are already behind are generalised.
  suffices general : ∀ rest past answer, motive past answer →
      (foldl step answer rest).Answers occurs last → motive (past ++ rest) last from
    general items [] first initial answers
  intro rest
  induction rest with
  | nil =>
      intro past answer holds ended
      cases ended
      rw [List.append_nil]
      exact holds
  | cons item rest ih =>
      intro past answer holds continued
      rcases answers_bind.mp continued with ⟨next, stepped, remaining⟩
      have finished := ih (past ++ [item]) next (kept holds stepped) remaining
      rw [List.append_assoc] at finished
      exact finished

end Sequence

/-- A program that sees one store gives the answer for that store. -/
theorem answers_eq_iff {program : Reader Cell Value Answer} {answer : Answer} :
    program.Answers (· = store) answer ↔ program.evaluate store = answer := by
  induction program with
  | ends own => exact Iff.rfl
  | loads cell next ih =>
      constructor
      · rintro ⟨_, rfl, answers⟩
        exact (ih _).mp answers
      · intro evaluated
        exact ⟨store, rfl, (ih _).mpr evaluated⟩

/-- The more stores, the more answers. -/
theorem Answers.mono {program : Reader Cell Value Answer} {answer : Answer}
    {others : (∀ cell, Value cell) → Prop} (included : ∀ store, occurs store → others store)
    (answers : program.Answers occurs answer) : program.Answers others answer := by
  induction program with
  | ends own => exact answers
  | loads cell next ih =>
      rcases answers with ⟨store, occurred, rest⟩
      exact ⟨store, included store occurred, ih _ rest⟩

end Reader

/-! ## Beside a transition system -/

namespace System

variable {State : Type*} {Label : Type*} {Cell : Type u} {Value : Cell → Type v} {Answer : Type w}

/-- The system and a program that loads from its states; the label `none` is the next load
of the program. -/
def beside (system : System State Label) (view : State → ∀ cell, Value cell) :
    System (State × Reader Cell Value Answer) (Option Label) where
  step state label :=
    match label, state.2 with
    | some label, _ => (system.step state.1 label).map fun next => (next, state.2)
    | none, .loads cell next => some (state.1, next (view state.1 cell))
    | none, .ends _ => none

variable {system : System State Label} {view : State → ∀ cell, Value cell}

/-- A program beside a system sees the states that the system visits. -/
theorem answers_of_beside {program : Reader Cell Value Answer} {answer : Answer}
    {start final : State} {labels : List (Option Label)}
    (executed : (system.beside view).run (start, program) labels = some (final, .ends answer)) :
    program.Answers
      (fun store => ∃ state, system.Visits start labels.reduceOption state ∧ view state = store)
      answer := by
  induction labels generalizing start program with
  | nil =>
      cases executed
      exact rfl
  | cons label labels ih =>
      simp only [run, Option.bind_eq_some_iff] at executed
      rcases executed with ⟨⟨next, rest⟩, stepped, remaining⟩
      cases label with
      | some label =>
          rcases Option.map_eq_some_iff.mp stepped with ⟨_, moved, ⟨⟩⟩
          refine (ih remaining).mono ?_
          rintro store ⟨state, visits, seen⟩
          rw [List.reduceOption_cons_of_some]
          exact ⟨state, visits.cons moved, seen⟩
      | none =>
          rw [List.reduceOption_cons_of_none]
          cases program with
          | ends own => cases stepped
          | loads cell continuation =>
              cases stepped
              exact ⟨view start, ⟨start, system.visits_start _ _, rfl⟩, ih remaining⟩

end System

end Vortex.Lib
