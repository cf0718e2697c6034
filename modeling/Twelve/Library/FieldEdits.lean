import Twelve.Library.Multimap

/-!
# Field edits

An edit of a multimap names, for each key, the list of values that replaces what
was there, or nothing. Repeating an edit changes nothing, and edits of different
keys can be made in either order.
-/

set_option autoImplicit false

namespace Twelve.Multimap

variable {κ ν : Type*}

def edit (map : Multimap κ ν) (changes : κ → Option (List ν)) : Multimap κ ν :=
  ⟨fun key => (changes key).getD (map.getAll key)⟩

theorem getAll_edit_of_some {changes : κ → Option (List ν)} {key : κ} {values : List ν}
    (changed : changes key = some values) (map : Multimap κ ν) :
    (map.edit changes).getAll key = values := by
  simp [edit, changed]

theorem getAll_edit_of_none {changes : κ → Option (List ν)} {key : κ}
    (unchanged : changes key = none) (map : Multimap κ ν) :
    (map.edit changes).getAll key = map.getAll key := by
  simp [edit, unchanged]

theorem get_edit_of_some {changes : κ → Option (List ν)} {key : κ} {values : List ν}
    (changed : changes key = some values) (map : Multimap κ ν) :
    (map.edit changes).get key = values.head? := by
  rw [get, getAll_edit_of_some changed]

theorem get_edit_of_none {changes : κ → Option (List ν)} {key : κ}
    (unchanged : changes key = none) (map : Multimap κ ν) :
    (map.edit changes).get key = map.get key := by
  rw [get, getAll_edit_of_none unchanged, get]

/-- An edit that changes a key leaves nothing of what was there. -/
theorem get_edit_eq {changes : κ → Option (List ν)} {key : κ} (changed : changes key ≠ none)
    (first second : Multimap κ ν) :
    (first.edit changes).get key = (second.edit changes).get key := by
  obtain ⟨values, found⟩ := Option.ne_none_iff_exists'.mp changed
  rw [get_edit_of_some found, get_edit_of_some found]

theorem edit_none (map : Multimap κ ν) : map.edit (fun _ => none) = map := rfl

theorem edit_edit_self (map : Multimap κ ν) (changes : κ → Option (List ν)) :
    (map.edit changes).edit changes = map.edit changes := by
  ext1
  funext key
  cases changed : changes key with
  | none => rw [getAll_edit_of_none changed]
  | some values => rw [getAll_edit_of_some changed, getAll_edit_of_some changed]

theorem edit_comm {first second : κ → Option (List ν)}
    (apart : ∀ key, first key = none ∨ second key = none) (map : Multimap κ ν) :
    (map.edit first).edit second = (map.edit second).edit first := by
  ext1
  funext key
  rcases apart key with unchanged | unchanged
  · rw [getAll_edit_of_none unchanged]
    cases changed : second key with
    | none => rw [getAll_edit_of_none changed, getAll_edit_of_none changed,
        getAll_edit_of_none unchanged]
    | some values => rw [getAll_edit_of_some changed, getAll_edit_of_some changed]
  · rw [getAll_edit_of_none unchanged]
    cases changed : first key with
    | none => rw [getAll_edit_of_none changed, getAll_edit_of_none changed,
        getAll_edit_of_none unchanged]
    | some values => rw [getAll_edit_of_some changed, getAll_edit_of_some changed]

variable [DecidableEq κ]

/-- Setting a key after an edit is one more change of the edit. -/
theorem setAll_edit (map : Multimap κ ν) (changes : κ → Option (List ν)) (key : κ)
    (values : List ν) :
    (map.edit changes).setAll key values =
      map.edit (Function.update changes key (some values)) := by
  ext1
  funext other
  by_cases same : other = key
  · subst same
    rw [getAll_setAll_self, getAll_edit_of_some (Function.update_self other _ changes)]
  · rw [getAll_setAll_of_ne same]
    simp only [edit, Function.update_of_ne same]

theorem setAll_eq_edit (map : Multimap κ ν) (key : κ) (values : List ν) :
    map.setAll key values = map.edit (Function.update (fun _ => none) key (some values)) :=
  setAll_edit map (fun _ => none) key values

end Twelve.Multimap
