import Mathlib.Logic.Function.Basic
import Mathlib.Order.SetNotation

/-!
# Multimaps

A map from keys to lists of values, with insertion that replaces and removal
that drops all values of a key. Two multimaps are equal when they hold the same
list of values at every key.
-/

set_option autoImplicit false

namespace Twelve

@[ext] structure Multimap (κ ν : Type*) where
  getAll : κ → List ν

namespace Multimap

variable {κ ν : Type*} [DecidableEq κ]

def empty : Multimap κ ν := ⟨fun _ => []⟩

def get (map : Multimap κ ν) (key : κ) : Option ν := (map.getAll key).head?

def setAll (map : Multimap κ ν) (key : κ) (values : List ν) : Multimap κ ν :=
  ⟨Function.update map.getAll key values⟩

def insert (map : Multimap κ ν) (key : κ) (value : ν) : Multimap κ ν := map.setAll key [value]

def remove (map : Multimap κ ν) (key : κ) : Multimap κ ν := map.setAll key []

/-- The same lists of values except possibly at the given keys. -/
def AgreeOutside (keys : List κ) (left right : Multimap κ ν) : Prop :=
  ∀ key, key ∉ keys → left.getAll key = right.getAll key

theorem getAll_setAll (map : Multimap κ ν) (key other : κ) (values : List ν) :
    (map.setAll key values).getAll other = if other = key then values else map.getAll other := by
  simp [setAll, Function.update_apply]

@[simp] theorem getAll_setAll_self (map : Multimap κ ν) (key : κ) (values : List ν) :
    (map.setAll key values).getAll key = values := by
  simp [getAll_setAll]

@[simp] theorem getAll_insert_self (map : Multimap κ ν) (key : κ) (value : ν) :
    (map.insert key value).getAll key = [value] :=
  getAll_setAll_self map key [value]

theorem getAll_setAll_of_ne {key other : κ} (different : other ≠ key) (map : Multimap κ ν)
    (values : List ν) : (map.setAll key values).getAll other = map.getAll other := by
  simp [getAll_setAll, different]

theorem getAll_insert_of_ne {key other : κ} (different : other ≠ key) (map : Multimap κ ν)
    (value : ν) : (map.insert key value).getAll other = map.getAll other :=
  getAll_setAll_of_ne different map [value]

theorem agreeOutside_insert {keys : List κ} {key : κ} (member : key ∈ keys) (map : Multimap κ ν)
    (value : ν) : AgreeOutside keys map (map.insert key value) := by
  intro other outside
  have different : other ≠ key := fun same => outside (same ▸ member)
  exact (getAll_insert_of_ne different map value).symm

theorem getAll_remove (map : Multimap κ ν) (key other : κ) :
    (map.remove key).getAll other = if other = key then [] else map.getAll other :=
  getAll_setAll map key other []

theorem get_setAll_of_ne {key other : κ} (different : other ≠ key) (map : Multimap κ ν)
    (values : List ν) : (map.setAll key values).get other = map.get other := by
  simp [get, getAll_setAll_of_ne different]

@[simp] theorem setAll_getAll (map : Multimap κ ν) (key : κ) :
    map.setAll key (map.getAll key) = map := by
  simp [setAll]

end Multimap

end Twelve
