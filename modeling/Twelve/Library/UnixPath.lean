import Mathlib.Data.List.Basic

/-!
# Components of Unix paths

A path is compared by its components: the pieces between separators, of which the
empty ones and single dots are dropped, except for a dot that starts the path. So a
name is also spelled by the paths that add such pieces behind it.
-/

set_option autoImplicit false

namespace Twelve.UnixPath

variable {α : Type*} [DecidableEq α]

inductive Component (α : Type*) where
  | rootDir | curDir | parentDir
  | normal (name : List α)
  deriving DecidableEq

section Components

variable (sep dot : α)

def pieceComponent (piece : List α) : Option (Component α) :=
  if piece = [] ∨ piece = [dot] then none
  else if piece = [dot, dot] then some .parentDir
  else some (.normal piece)

def leadingComponent : List (List α) → List (Component α)
  | first :: rest =>
      if first = [] ∧ rest ≠ [] then [.rootDir] else if first = [dot] then [.curDir] else []
  | [] => []

def components (path : List α) : List (Component α) :=
  leadingComponent dot (path.splitOn sep) ++ (path.splitOn sep).filterMap (pieceComponent dot)

end Components

variable {sep dot : α}

private theorem pieceComponent_eq_none_iff {piece : List α} :
    pieceComponent dot piece = none ↔ piece = [] ∨ piece = [dot] := by
  rw [pieceComponent]
  split
  · next dropped => simp [dropped]
  · next kept => split <;> simp [kept]

private theorem filterMap_pieceComponent_eq_nil {pieces : List (List α)} :
    pieces.filterMap (pieceComponent dot) = [] ↔ ∀ piece ∈ pieces, piece = [] ∨ piece = [dot] := by
  rw [List.filterMap_eq_nil_iff]
  exact forall₂_congr fun piece _ => pieceComponent_eq_none_iff

private theorem pieceComponent_eq_normal_iff {piece name : List α} :
    pieceComponent dot piece = some (.normal name) ↔
      piece = name ∧ name ≠ [] ∧ name ≠ [dot] ∧ name ≠ [dot, dot] := by
  unfold pieceComponent
  split
  · next dropped =>
      constructor
      · intro impossible
        cases impossible
      · intro named
        obtain ⟨rfl, nonempty, notDot, -⟩ := named
        exact absurd dropped (not_or.mpr ⟨nonempty, notDot⟩)
  · next kept =>
      obtain ⟨nonempty, notDot⟩ := not_or.mp kept
      split
      · next parent =>
          constructor
          · intro impossible
            cases impossible
          · intro named
            exact absurd (named.1 ▸ parent) named.2.2.2
      · next notParent =>
          constructor
          · intro same
            cases same
            exact ⟨rfl, nonempty, notDot, notParent⟩
          · intro named
            rw [named.1]

/-- The pieces of a path put together again. -/
theorem eq_of_splitOn {path first : List α} {rest : List (List α)}
    (split : path.splitOn sep = first :: rest) :
    path = first ++ rest.flatMap (sep :: ·) := by
  have whole : [sep].intercalate (path.splitOn sep) = path := List.intercalate_splitOn sep
  rw [split] at whole
  rw [← whole]
  clear split whole
  induction rest generalizing first with
  | nil => simp
  | cons second rest ih =>
      have step : [sep].intercalate (first :: second :: rest) =
          first ++ sep :: [sep].intercalate (second :: rest) := by
        simp [List.intercalate]
      rw [step, ih]
      simp

private theorem splitOn_flatMap {first : List α} {rest : List (List α)} (absent : sep ∉ first)
    (absentRest : ∀ piece ∈ rest, sep ∉ piece) :
    (first ++ rest.flatMap (sep :: ·)).splitOn sep = first :: rest := by
  induction rest generalizing first with
  | nil => simpa using List.splitOn_eq_singleton absent
  | cons second rest ih =>
      obtain ⟨absentSecond, absentLater⟩ := List.forall_mem_cons.mp absentRest
      rw [List.flatMap_cons, List.cons_append, List.splitOn_append_cons_self_of_not_mem absent,
        ih absentSecond absentLater]

/-- A path whose only component is a name spells it with empty pieces and dots behind it. -/
theorem components_eq_normal_iff {path name : List α} (different : sep ≠ dot)
    (absent : sep ∉ name) (nonempty : name ≠ []) (notDot : name ≠ [dot])
    (notParent : name ≠ [dot, dot]) :
    components sep dot path = [.normal name] ↔
      ∃ rest : List (List α), (∀ piece ∈ rest, piece = [] ∨ piece = [dot]) ∧
        path = name ++ rest.flatMap (sep :: ·) := by
  constructor
  · intro only
    rcases split : path.splitOn sep with _ | ⟨first, rest⟩
    · exact absurd split (List.splitOn_ne_nil sep path)
    · rw [components, split, leadingComponent] at only
      split at only
      · cases only
      · next notRoot =>
          split at only
          · cases only
          · next notCurrent =>
              rw [List.nil_append, List.filterMap_cons] at only
              split at only
              · next dropped =>
                  -- A dropped first piece would have been the root or the current directory.
                  obtain rfl := (pieceComponent_eq_none_iff.mp dropped).resolve_right notCurrent
                  obtain rfl : rest = [] := not_not.mp fun more => notRoot ⟨rfl, more⟩
                  cases only
              · next component found =>
                  obtain ⟨same, none⟩ := List.cons.inj only
                  rw [same] at found
                  obtain ⟨rfl, -⟩ := pieceComponent_eq_normal_iff.mp found
                  exact ⟨rest, filterMap_pieceComponent_eq_nil.mp none, eq_of_splitOn split⟩
  · intro spelled
    obtain ⟨rest, redundant, rfl⟩ := spelled
    have absentRest : ∀ piece ∈ rest, sep ∉ piece := by
      intro piece member
      rcases redundant piece member with rfl | rfl
      · exact List.not_mem_nil
      · simpa using different
    rw [components, splitOn_flatMap absent absentRest, leadingComponent,
      if_neg (by simp [nonempty]), if_neg notDot, List.nil_append, List.filterMap_cons,
      pieceComponent_eq_normal_iff.mpr ⟨rfl, nonempty, notDot, notParent⟩,
      filterMap_pieceComponent_eq_nil.mpr redundant]

end Twelve.UnixPath
