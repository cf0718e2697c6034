import Mathlib.Data.List.DropRight
import Mathlib.Data.List.TakeWhile

/-!
# Joining sequences with exactly one separator

The join drops every separator at the end of its left side and at the start of
its right side, then puts one between them. It is associative, also where a
side consists of separators only, so nested joins need no normal form.
-/

set_option autoImplicit false

namespace Twelve.Separator

variable {α : Type*} [DecidableEq α] (sep : α)

def trimStart (items : List α) : List α := items.dropWhile (· == sep)

def trimEnd (items : List α) : List α := items.rdropWhile (· == sep)

def join (left right : List α) : List α := trimEnd sep left ++ sep :: trimStart sep right

@[simp] theorem trimStart_nil : trimStart sep [] = [] := rfl

@[simp] theorem trimEnd_nil : trimEnd sep [] = [] := rfl

@[simp] theorem trimStart_cons_sep (items : List α) :
    trimStart sep (sep :: items) = trimStart sep items := by
  simp [trimStart]

@[simp] theorem trimEnd_concat_sep (items : List α) :
    trimEnd sep (items ++ [sep]) = trimEnd sep items := by
  simp [trimEnd]

theorem trimStart_cons_of_ne {head : α} (different : head ≠ sep) (items : List α) :
    trimStart sep (head :: items) = head :: items := by
  simp [trimStart, different]

theorem trimEnd_concat_of_ne {last : α} (different : last ≠ sep) (items : List α) :
    trimEnd sep (items ++ [last]) = items ++ [last] := by
  simp [trimEnd, different]

@[simp] theorem trimStart_trimStart (items : List α) :
    trimStart sep (trimStart sep items) = trimStart sep items :=
  List.dropWhile_idempotent _ _

@[simp] theorem trimEnd_trimEnd (items : List α) :
    trimEnd sep (trimEnd sep items) = trimEnd sep items :=
  List.rdropWhile_idempotent _ _

theorem trimStart_subset (items : List α) : trimStart sep items ⊆ items :=
  (List.dropWhile_sublist _).subset

theorem trimEnd_subset (items : List α) : trimEnd sep items ⊆ items := by
  have front : trimEnd sep items <+: items := List.rdropWhile_prefix _ items
  exact front.subset

theorem trimStart_eq_nil_iff {items : List α} :
    trimStart sep items = [] ↔ ∀ item ∈ items, item = sep := by
  simp [trimStart, List.dropWhile_eq_nil_iff]

theorem trimEnd_eq_nil_iff {items : List α} :
    trimEnd sep items = [] ↔ ∀ item ∈ items, item = sep := by
  simp [trimEnd, List.rdropWhile_eq_nil_iff]

theorem trimEnd_eq_self_of_not_mem {items : List α} (absent : sep ∉ items) :
    trimEnd sep items = items := by
  rw [trimEnd, List.rdropWhile_eq_self_iff]
  intro nonempty
  have different : items.getLast nonempty ≠ sep :=
    fun same => absent (same ▸ List.getLast_mem nonempty)
  simpa using different

/-- Trimming stops inside the right side unless that side is separators only. -/
theorem trimEnd_append (left right : List α) :
    trimEnd sep (left ++ right) =
      if trimEnd sep right = [] then trimEnd sep left else left ++ trimEnd sep right := by
  induction right using List.reverseRecOn with
  | nil => simp
  | append_singleton right last ih =>
      by_cases same : last = sep
      · subst same
        rw [← List.append_assoc, trimEnd_concat_sep, trimEnd_concat_sep, ih]
      · rw [← List.append_assoc, trimEnd_concat_of_ne sep same, trimEnd_concat_of_ne sep same]
        simp

/-- Trimming stops inside the left side unless that side is separators only. -/
theorem trimStart_append (left right : List α) :
    trimStart sep (left ++ right) =
      if trimStart sep left = [] then trimStart sep right else trimStart sep left ++ right := by
  induction left with
  | nil => simp
  | cons head left ih =>
      by_cases same : head = sep
      · subst same
        simpa using ih
      · simp [trimStart_cons_of_ne sep same]

@[simp] theorem trimStart_replicate_append (count : Nat) (items : List α) :
    trimStart sep (List.replicate count sep ++ items) = trimStart sep items := by
  rw [trimStart_append, if_pos ((trimStart_eq_nil_iff sep).mpr fun _ => List.eq_of_mem_replicate)]

@[simp] theorem trimEnd_append_replicate (items : List α) (count : Nat) :
    trimEnd sep (items ++ List.replicate count sep) = trimEnd sep items := by
  rw [trimEnd_append, if_pos ((trimEnd_eq_nil_iff sep).mpr fun _ => List.eq_of_mem_replicate)]

theorem trimEnd_append_cons_of_ne (left : List α) {last : α} (different : last ≠ sep)
    (right : List α) :
    trimEnd sep (left ++ last :: right) = left ++ last :: trimEnd sep right := by
  have split : left ++ last :: right = (left ++ [last]) ++ right := by simp
  rw [split, trimEnd_append]
  split
  · next empty => simp [trimEnd_concat_of_ne sep different, empty]
  · simp

/-- The two trims commute: a sequence of separators is emptied by either. -/
theorem trimStart_trimEnd (items : List α) :
    trimStart sep (trimEnd sep items) = trimEnd sep (trimStart sep items) := by
  induction items with
  | nil => rfl
  | cons head tail ih =>
      have split : head :: tail = [head] ++ tail := rfl
      by_cases same : head = sep
      · subst same
        rw [trimStart_cons_sep, split, trimEnd_append]
        by_cases empty : trimEnd head tail = []
        · have allSeparators := (trimEnd_eq_nil_iff head).mp empty
          have emptied : trimEnd head [head] = [] := by simpa using trimEnd_concat_sep head []
          rw [if_pos empty, (trimStart_eq_nil_iff head).mpr allSeparators, emptied]
          rfl
        · rw [if_neg empty]
          simpa using ih
      · rw [trimStart_cons_of_ne sep same]
        have kept := trimEnd_append_cons_of_ne sep [] same tail
        simp only [List.nil_append] at kept
        rw [kept, trimStart_cons_of_ne sep same]

@[simp] theorem join_trimEnd (left right : List α) :
    join sep (trimEnd sep left) right = join sep left right := by
  simp [join]

@[simp] theorem join_replicate_append (left right : List α) (count : Nat) :
    join sep left (List.replicate count sep ++ right) = join sep left right := by
  simp [join]

theorem trimEnd_join (left right : List α) :
    trimEnd sep (join sep left right) =
      if trimStart sep right = [] then trimEnd sep left
      else trimEnd sep left ++ sep :: trimEnd sep (trimStart sep right) := by
  have split : join sep left right = trimEnd sep left ++ ([sep] ++ trimStart sep right) := by
    simp [join]
  by_cases empty : trimStart sep right = []
  · rw [split, empty, if_pos rfl]
    simp
  · have inside : trimEnd sep (trimStart sep right) ≠ [] := by
      intro emptied
      rw [trimEnd_eq_nil_iff] at emptied
      exact empty (by simpa using (trimStart_eq_nil_iff sep).mpr emptied)
    rw [split, trimEnd_append, trimEnd_append, if_neg inside, if_neg empty]
    simp

theorem trimStart_join (left right : List α) :
    trimStart sep (join sep left right) =
      if trimEnd sep left = [] then trimStart sep right
      else trimStart sep (trimEnd sep left) ++ sep :: trimStart sep right := by
  rw [join, trimStart_append]
  by_cases empty : trimEnd sep left = []
  · simp [empty]
  · have inside : trimStart sep (trimEnd sep left) ≠ [] := by
      intro emptied
      rw [trimStart_eq_nil_iff] at emptied
      exact empty (by simpa using (trimEnd_eq_nil_iff sep).mpr emptied)
    rw [if_neg inside, if_neg empty]

/-- Joining is associative. The middle side may be empty or separators only:
both nestings then put one separator between the outer sides. -/
theorem join_assoc (left middle right : List α) :
    join sep (join sep left middle) right = join sep left (join sep middle right) := by
  have degenerate : trimStart sep middle = [] ↔ trimEnd sep middle = [] := by
    rw [trimStart_eq_nil_iff, trimEnd_eq_nil_iff]
  rw [join, trimEnd_join, join.eq_def sep left (join sep middle right), trimStart_join,
    trimStart_trimEnd]
  by_cases empty : trimStart sep middle = []
  · rw [if_pos empty, if_pos (degenerate.mp empty)]
  · rw [if_neg empty, if_neg (mt degenerate.mpr empty)]
    simp

end Twelve.Separator
