import Mathlib.Data.List.Basic

/-!
# Runs of labelled transition systems

A run records its labels in the order in which they were taken. Invariants may
speak of this history, and one step then extends the history by its label. A run
of a system is also seen as a run of each part whose steps its own steps contain.
-/

set_option autoImplicit false

namespace Twelve

variable {State Label : Type*}

/-- A history is split in one way at a label that occurs once. -/
theorem split_unique (own : Label → Prop) {before rest left right : List Label}
    {middle label : Label}
    (absentBefore : ∀ other ∈ before, ¬ own other) (absentAfter : ∀ other ∈ rest, ¬ own other)
    (same : before ++ middle :: rest = left ++ label :: right) (holds : own label) :
    middle = label ∧ rest = right := by
  rcases List.append_eq_append_iff.mp same with ⟨between, -, tail⟩ | ⟨between, head, tail⟩
  · cases between with
    | nil => exact List.cons.inj tail
    | cons first between =>
        obtain ⟨-, following⟩ := List.cons.inj tail
        exact absurd holds (absentAfter label (by simp [following]))
  · cases between with
    | nil =>
        obtain ⟨found, following⟩ := List.cons.inj tail
        exact ⟨found.symm, following.symm⟩
    | cons first between =>
        obtain ⟨rfl, -⟩ := List.cons.inj tail
        exact absurd holds (absentBefore label (by simp [head]))

inductive Run (step : State → Label → State → Prop) (start : State) : List Label → State → Prop
  | start : Run step start [] start
  | next {labels : List Label} {state after : State} {label : Label}
      (run : Run step start labels state) (taken : step state label after) :
      Run step start (labels ++ [label]) after

namespace Run

variable {step : State → Label → State → Prop} {start state : State} {labels : List Label}

/-- What holds of the empty history, and is kept by each step and its label,
holds of every run. -/
theorem history_invariant {invariant : List Label → State → Prop} (initial : invariant [] start)
    (preserved : ∀ labels state label after, invariant labels state → step state label after →
      invariant (labels ++ [label]) after)
    (run : Run step start labels state) : invariant labels state := by
  induction run with
  | start => exact initial
  | next _ taken ih => exact preserved _ _ _ _ ih taken

theorem append {middle : State} {more : List Label} (first : Run step start labels middle)
    (second : Run step middle more state) : Run step start (labels ++ more) state := by
  induction second with
  | start => simpa using first
  | next _ taken ih =>
      rw [← List.append_assoc]
      exact .next ih taken

theorem cons {middle : State} {label : Label} (taken : step start label middle)
    (rest : Run step middle labels state) : Run step start (label :: labels) state :=
  append (.next .start taken) rest

theorem exists_of_append {before rest : List Label} {label : Label}
    (run : Run step start (before ++ label :: rest) state) :
    ∃ middle after, Run step start before middle ∧ step middle label after ∧
      Run step after rest state := by
  generalize whole : before ++ label :: rest = labels at run
  induction run generalizing rest with
  | start => simp at whole
  | next earlier taken ih =>
      rcases List.eq_nil_or_concat rest with rfl | ⟨initial, final, rfl⟩
      · obtain ⟨rfl, same⟩ := List.append_inj' whole rfl
        cases same
        exact ⟨_, _, earlier, taken, .start⟩
      · rw [List.concat_eq_append, ← List.cons_append, ← List.append_assoc] at whole
        obtain ⟨same, lasts⟩ := List.append_inj' whole rfl
        cases lasts
        obtain ⟨middle, after, first, step, more⟩ := ih same
        exact ⟨middle, after, first, step, by simpa using more.next taken⟩

/-- What did not hold at the start was made true by one step of the run. -/
theorem exists_entering {holds : State → Prop} (run : Run step start labels state)
    (before : ¬ holds start) (after : holds state) :
    ∃ earlier label later reached entered, labels = earlier ++ label :: later ∧
      Run step start earlier reached ∧ ¬ holds reached ∧ step reached label entered ∧
      holds entered := by
  induction run with
  | start => exact absurd after before
  | @next labels reached entered label run taken ih =>
      by_cases held : holds reached
      · obtain ⟨earlier, first, later, middle, next, rfl, more⟩ := ih held
        exact ⟨earlier, first, later ++ [label], middle, next, by simp, more⟩
      · exact ⟨labels, label, [], reached, entered, rfl, run, held, taken, after⟩

section Projection

variable {Part PartLabel : Type*} {partStep : Part → PartLabel → Part → Prop}
  {view : State → Part} {viewLabel : Label → Option PartLabel}

/-- The part takes the steps that are its own, and does not move in the others. -/
def Projects (step : State → Label → State → Prop) (partStep : Part → PartLabel → Part → Prop)
    (view : State → Part) (viewLabel : Label → Option PartLabel) : Prop :=
  ∀ state label after, step state label after →
    match viewLabel label with
    | some own => partStep (view state) own (view after)
    | none => view after = view state

theorem project (projects : Projects step partStep view viewLabel)
    (run : Run step start labels state) :
    Run partStep (view start) (labels.filterMap viewLabel) (view state) := by
  induction run with
  | start => exact .start
  | @next labels state after label _ taken ih =>
      have moved := projects state label after taken
      rw [List.filterMap_append]
      cases own : viewLabel label with
      | none =>
          rw [own] at moved
          simpa [own, moved] using ih
      | some partLabel =>
          rw [own] at moved
          simpa [own] using Run.next ih moved

end Projection

end Run

end Twelve
