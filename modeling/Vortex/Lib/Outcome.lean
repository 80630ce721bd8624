import Mathlib.Data.List.Basic

/-!
# Calls that may panic

A call either returns or panics, and a panic ends the calls around it.  `panicked`
is kept apart from an error that is returned, since the caller gets to see only the
latter.
-/

namespace Vortex.Lib

/-- The outcome of a call. -/
inductive Outcome (α : Type*) where
  | panicked
  | returned (value : α)
  deriving DecidableEq, Repr

namespace Outcome

variable {α β : Type*}

/-- Continue with what a call returned. -/
def bind (outcome : Outcome α) (continuation : α → Outcome β) : Outcome β :=
  match outcome with
  | .panicked => .panicked
  | .returned value => continuation value

@[simp] theorem bind_panicked (continuation : α → Outcome β) :
    (panicked : Outcome α).bind continuation = .panicked := rfl

@[simp] theorem bind_returned (value : α) (continuation : α → Outcome β) :
    (returned value).bind continuation = continuation value := rfl

end Outcome

/-- `Vec::remove`: the element at an index, a panic when there is none. -/
def vecRemove {α : Type*} (vec : List α) (index : ℕ) : Outcome α :=
  match vec[index]? with
  | none => .panicked
  | some element => .returned element

end Vortex.Lib
