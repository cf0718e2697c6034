import Twelve.Library.Runs

/-!
# Cells that are written once

A cell is filled at its first use, with a value read off the environment of that
moment. Later changes of the environment no longer matter to it.
-/

set_option autoImplicit false

namespace Twelve.Once

variable {Environment Value : Type*}

inductive Label (Environment : Type*) where
  | change (environment : Environment)
  | use

def getOrInit (init : Environment → Value) (cell : Option Value) (environment : Environment) :
    Value :=
  cell.getD (init environment)

def Step (init : Environment → Value) (state : Option Value × Environment) :
    Label Environment → Option Value × Environment → Prop
  | .change environment, after => after = (state.1, environment)
  | .use, after => after = (some (getOrInit init state.1 state.2), state.2)

/-- The environment after a history. -/
def current (environment : Environment) : List (Label Environment) → Environment
  | [] => environment
  | .change next :: rest => current next rest
  | .use :: rest => current environment rest

/-- The value read at the first use of a history. -/
def firstUse (init : Environment → Value) (environment : Environment) :
    List (Label Environment) → Option Value
  | [] => none
  | .change next :: rest => firstUse init next rest
  | .use :: _ => some (init environment)

variable {init : Environment → Value} {environment : Environment}
  {labels : List (Label Environment)}

theorem current_append (more : List (Label Environment)) :
    current environment (labels ++ more) = current (current environment labels) more := by
  induction labels generalizing environment with
  | nil => rfl
  | cons label labels ih =>
      cases label with
      | change next => exact ih
      | use => exact ih

private theorem firstUse_append (more : List (Label Environment)) :
    firstUse init environment (labels ++ more) =
      (firstUse init environment labels).or (firstUse init (current environment labels) more) := by
  induction labels generalizing environment with
  | nil => rfl
  | cons label labels ih =>
      cases label with
      | change next => exact ih
      | use => rfl

theorem run_eq {state : Option Value × Environment}
    (run : Run (Step init) (none, environment) labels state) :
    state = (firstUse init environment labels, current environment labels) := by
  induction run with
  | start => rfl
  | @next labels state after label _ taken ih =>
      subst ih
      rw [firstUse_append, current_append]
      cases label with
      | change next =>
          cases taken
          simp [firstUse, current]
      | use =>
          cases taken
          cases found : firstUse init environment labels with
          | none => rfl
          | some value => rfl

/-- A use sees the value of the first use, also of the histories that go on from it. -/
theorem firstUse_of_use (more : List (Label Environment)) :
    firstUse init environment (labels ++ .use :: more) =
      some (getOrInit init (firstUse init environment labels) (current environment labels)) := by
  rw [firstUse_append]
  cases firstUse init environment labels with
  | none => rfl
  | some value => rfl

end Twelve.Once
