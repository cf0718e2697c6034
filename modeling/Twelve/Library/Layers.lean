import Mathlib.Algebra.Group.Commute.Defs
import Mathlib.Algebra.Group.Idempotent

/-!
# Layers

A layer around a function changes the argument before the function sees it, and
the result afterwards with the original argument at hand. Stacked layers multiply,
so algebraic laws of layers hold of every function they are wrapped around.
-/

set_option autoImplicit false

namespace Twelve

@[ext] structure Layer (α β : Type*) where
  before : α → α
  after : α → β → β

namespace Layer

variable {α β : Type*}

def wrap (layer : Layer α β) (next : α → β) : α → β := fun input =>
  layer.after input (next (layer.before input))

/-- The left factor is the outer layer. -/
instance : Mul (Layer α β) where
  mul outer inner :=
    ⟨fun input => inner.before (outer.before input),
      fun input output => outer.after input (inner.after (outer.before input) output)⟩

theorem wrap_mul (outer inner : Layer α β) (next : α → β) :
    (outer * inner).wrap next = outer.wrap (inner.wrap next) := rfl

theorem wrap_wrap {layer : Layer α β} (idempotent : IsIdempotentElem layer) (next : α → β) :
    layer.wrap (layer.wrap next) = layer.wrap next := by
  rw [← wrap_mul, idempotent.eq]

theorem wrap_comm {outer inner : Layer α β} (commute : Commute outer inner) (next : α → β) :
    outer.wrap (inner.wrap next) = inner.wrap (outer.wrap next) := by
  rw [← wrap_mul, commute.eq, wrap_mul]

theorem isIdempotentElem_of {layer : Layer α β}
    (before : ∀ input, layer.before (layer.before input) = layer.before input)
    (after : ∀ input output,
      layer.after input (layer.after (layer.before input) output) = layer.after input output) :
    IsIdempotentElem layer := by
  apply Layer.ext
  · exact funext before
  · exact funext fun input => funext (after input)

theorem commute_of {outer inner : Layer α β}
    (before : ∀ input, inner.before (outer.before input) = outer.before (inner.before input))
    (after : ∀ input output, outer.after input (inner.after (outer.before input) output) =
      inner.after input (outer.after (inner.before input) output)) :
    Commute outer inner := by
  apply Layer.ext
  · exact funext before
  · exact funext fun input => funext (after input)

end Layer

end Twelve
