import Mathlib.Data.List.Nodup
import Mathlib.Logic.Function.Basic

/-!
# Records read from tables

A record is read from the entries of a table in their order: an entry whose key names
a field is read into the slot of that field, and other entries are skipped. When no
key repeats, the order matters only for which of several errors is reported.
-/

set_option autoImplicit false

namespace Twelve

structure RecordReader (Field Key Value Error : Type*) (Slot : Field → Type*) where
  name : Field → Key
  field : Key → Option Field
  field_eq_some_iff : ∀ key named, field key = some named ↔ key = name named
  read : (named : Field) → Value → Except Error (Slot named)
  duplicate : Field → Error

namespace RecordReader

variable {Field Key Value Error : Type*} {Slot : Field → Type*}

section Entries

variable (reader : RecordReader Field Key Value Error Slot)

/-- An entry that cannot be read into its field. -/
def Fails (entry : Key × Value) (error : Error) : Prop :=
  ∃ named, entry.1 = reader.name named ∧ reader.read named entry.2 = .error error

/-- The error of the first entry that cannot be read. -/
def FirstFailure (entries : List (Key × Value)) (error : Error) : Prop :=
  ∃ before entry after, entries = before ++ entry :: after ∧ reader.Fails entry error ∧
    ∀ earlier ∈ before, ∀ other, ¬ reader.Fails earlier other

/-- The slots that entries still to come are read into. -/
def Open (slots : (named : Field) → Option (Slot named)) (entries : List (Key × Value)) : Prop :=
  ∀ named, reader.name named ∈ entries.map Prod.fst → slots named = none

variable [BEq Key]

/-- The slot of a field after all entries: what its own entry is read into. -/
def slotOf (slots : (named : Field) → Option (Slot named)) (entries : List (Key × Value))
    (named : Field) : Except Error (Option (Slot named)) :=
  match entries.lookup (reader.name named) with
  | none => .ok (slots named)
  | some value => (reader.read named value).map some

end Entries

section Properties

variable {reader : RecordReader Field Key Value Error Slot}
  {slots : (named : Field) → Option (Slot named)}

private theorem name_ne_of_field_none {key : Key} (unknown : reader.field key = none)
    (named : Field) : reader.name named ≠ key := by
  intro same
  rw [(reader.field_eq_some_iff key named).mpr same.symm] at unknown
  cases unknown

private theorem not_fails_of_unknown {entry : Key × Value} (unknown : reader.field entry.1 = none)
    (error : Error) : ¬ reader.Fails entry error := by
  intro failed
  obtain ⟨named, known, -⟩ := failed
  exact name_ne_of_field_none unknown named known.symm

private theorem fails_iff_of_known {entry : Key × Value} {named : Field}
    (known : reader.field entry.1 = some named) {error : Error} :
    reader.Fails entry error ↔ reader.read named entry.2 = .error error := by
  constructor
  · intro failed
    obtain ⟨other, spelled, unreadable⟩ := failed
    rw [(reader.field_eq_some_iff _ other).mpr spelled] at known
    cases known
    exact unreadable
  · intro unreadable
    exact ⟨named, (reader.field_eq_some_iff _ _).mp known, unreadable⟩

private theorem firstFailure_cons_iff {entry : Key × Value} {rest : List (Key × Value)}
    {error : Error} :
    FirstFailure reader (entry :: rest) error ↔
      reader.Fails entry error ∨
        (∀ other, ¬ reader.Fails entry other) ∧ FirstFailure reader rest error := by
  constructor
  · intro found
    obtain ⟨before, failing, after, split, failed, readable⟩ := found
    cases before with
    | nil =>
        cases split
        exact .inl failed
    | cons first before =>
        cases split
        exact .inr ⟨readable _ List.mem_cons_self, before, failing, after, rfl, failed,
          fun earlier member => readable earlier (List.mem_cons_of_mem _ member)⟩
  · intro found
    cases found with
    | inl failed => exact ⟨[], entry, rest, rfl, failed, by simp⟩
    | inr later =>
        obtain ⟨first, before, failing, after, rfl, failed, readable⟩ := later
        refine ⟨entry :: before, failing, after, rfl, failed, ?_⟩
        intro earlier member
        cases List.mem_cons.mp member with
        | inl same => exact same ▸ first
        | inr member => exact readable earlier member

/-- In a sorted table the first entry that cannot be read is the one with the least key. -/
theorem firstFailure_iff_of_sorted {lt : Key → Key → Prop}
    (asymm : ∀ first second, lt first second → ¬ lt second first) {entries : List (Key × Value)}
    (sorted : entries.Pairwise fun first second => lt first.1 second.1) {error : Error} :
    FirstFailure reader entries error ↔ ∃ entry ∈ entries, reader.Fails entry error ∧
      ∀ other ∈ entries, lt other.1 entry.1 → ∀ error, ¬ reader.Fails other error := by
  constructor
  · intro found
    obtain ⟨before, entry, after, rfl, failed, readable⟩ := found
    obtain ⟨-, later, -⟩ := List.pairwise_append.mp sorted
    refine ⟨entry, by simp, failed, ?_⟩
    intro other member less
    rcases List.mem_append.mp member with earlier | rest
    · exact readable other earlier
    · rcases List.mem_cons.mp rest with rfl | behind
      · exact absurd less (asymm _ _ less)
      · exact absurd less (asymm _ _ (List.rel_of_pairwise_cons later behind))
  · intro found
    obtain ⟨entry, member, failed, readable⟩ := found
    obtain ⟨before, after, rfl⟩ := List.append_of_mem member
    obtain ⟨-, -, across⟩ := List.pairwise_append.mp sorted
    refine ⟨before, entry, after, rfl, failed, ?_⟩
    intro earlier front
    exact readable earlier (List.mem_append_left _ front)
      (across earlier front entry List.mem_cons_self)

theorem Open.tail {entry : Key × Value} {rest : List (Key × Value)}
    (unread : Open reader slots (entry :: rest)) : Open reader slots rest := by
  intro named member
  exact unread named (List.mem_cons_of_mem _ member)

variable [BEq Key] [LawfulBEq Key]

private theorem slotOf_cons_self {entry : Key × Value} {named : Field}
    (known : entry.1 = reader.name named) (rest : List (Key × Value)) :
    slotOf reader slots (entry :: rest) named = (reader.read named entry.2).map some := by
  obtain ⟨key, value⟩ := entry
  cases known
  simp [slotOf]

private theorem slotOf_cons_of_ne {entry : Key × Value} {named : Field}
    (different : reader.name named ≠ entry.1) (rest : List (Key × Value)) :
    slotOf reader slots (entry :: rest) named = slotOf reader slots rest named := by
  obtain ⟨key, value⟩ := entry
  have missed : (reader.name named == key) = false := by simpa using different
  simp [slotOf, List.lookup_cons, missed]

private theorem slotOf_of_not_mem {entries : List (Key × Value)} {named : Field}
    (absent : reader.name named ∉ entries.map Prod.fst) :
    slotOf reader slots entries named = .ok (slots named) := by
  have missed : entries.lookup (reader.name named) = none := by
    rw [List.lookup_eq_none_iff]
    intro entry member
    have different : reader.name named ≠ entry.1 := fun same =>
      absent (same ▸ List.mem_map_of_mem member)
    simpa using different
  rw [slotOf, missed]

end Properties

section Reading

variable [DecidableEq Field] (reader : RecordReader Field Key Value Error Slot)

def visit (slots : (named : Field) → Option (Slot named)) (entry : Key × Value) :
    Except Error ((named : Field) → Option (Slot named)) :=
  match reader.field entry.1 with
  | none => .ok slots
  | some named =>
      match slots named with
      | some _ => .error (reader.duplicate named)
      | none =>
          (reader.read named entry.2).map fun value => Function.update slots named (some value)

def visitAll (slots : (named : Field) → Option (Slot named)) :
    List (Key × Value) → Except Error ((named : Field) → Option (Slot named))
  | [] => .ok slots
  | entry :: rest =>
      match reader.visit slots entry with
      | .error error => .error error
      | .ok slots => visitAll slots rest

def readAll (entries : List (Key × Value)) :
    Except Error ((named : Field) → Option (Slot named)) :=
  reader.visitAll (fun _ => none) entries

variable {reader} {slots : (named : Field) → Option (Slot named)}

private theorem visit_unknown {entry : Key × Value} (unknown : reader.field entry.1 = none) :
    reader.visit slots entry = .ok slots := by
  simp [visit, unknown]

private theorem visit_known {entry : Key × Value} {named : Field}
    (known : reader.field entry.1 = some named) (unread : slots named = none) :
    reader.visit slots entry =
      (reader.read named entry.2).map fun value => Function.update slots named (some value) := by
  simp [visit, known, unread]

theorem Open.update {entry : Key × Value} {rest : List (Key × Value)} {named : Field}
    (unread : Open reader slots (entry :: rest)) (known : entry.1 = reader.name named)
    (fresh : entry.1 ∉ rest.map Prod.fst) (value : Option (Slot named)) :
    Open reader (Function.update slots named value) rest := by
  intro other member
  have different : other ≠ named := by
    intro same
    subst same
    exact fresh (known ▸ member)
  rw [Function.update_of_ne different]
  exact unread other (List.mem_cons_of_mem _ member)

/-- Without repeated keys the first entry that cannot be read decides the error. -/
theorem visitAll_eq_error_iff {entries : List (Key × Value)}
    (distinct : (entries.map Prod.fst).Nodup) (unread : Open reader slots entries) {error : Error} :
    reader.visitAll slots entries = .error error ↔ FirstFailure reader entries error := by
  induction entries generalizing slots with
  | nil => simp [visitAll, FirstFailure]
  | cons entry rest ih =>
      obtain ⟨fresh, distinctRest⟩ := List.nodup_cons.mp distinct
      rw [firstFailure_cons_iff]
      cases found : reader.field entry.1 with
      | none =>
          rw [visitAll, visit_unknown found]
          simp only [not_fails_of_unknown found, not_false_eq_true, implies_true, true_and,
            false_or]
          exact ih distinctRest unread.tail
      | some named =>
          have known := (reader.field_eq_some_iff _ _).mp found
          rw [visitAll, visit_known found (unread named (known ▸ List.mem_cons_self))]
          simp only [fails_iff_of_known found]
          cases value : reader.read named entry.2 with
          | error other => simp [Except.map]
          | ok read =>
              simp only [reduceCtorEq, not_false_eq_true, implies_true, true_and, false_or]
              exact ih distinctRest (unread.update known fresh _)

theorem readAll_eq_error_iff {entries : List (Key × Value)}
    (distinct : (entries.map Prod.fst).Nodup) {error : Error} :
    reader.readAll entries = .error error ↔ FirstFailure reader entries error :=
  visitAll_eq_error_iff distinct fun _ _ => rfl

variable [BEq Key]

private theorem slotOf_update_of_ne {entries : List (Key × Value)} {named other : Field}
    (different : other ≠ named) (value : Option (Slot named)) :
    slotOf reader (Function.update slots named value) entries other =
      slotOf reader slots entries other := by
  unfold slotOf
  rw [Function.update_of_ne different]

variable [LawfulBEq Key]

/-- Without repeated keys every slot is what the entry of its own field is read into. -/
theorem visitAll_eq_ok_iff {entries : List (Key × Value)}
    (distinct : (entries.map Prod.fst).Nodup) (unread : Open reader slots entries)
    {filled : (named : Field) → Option (Slot named)} :
    reader.visitAll slots entries = .ok filled ↔
      ∀ named, slotOf reader slots entries named = .ok (filled named) := by
  induction entries generalizing slots with
  | nil =>
      simp only [visitAll, slotOf, List.lookup_nil, Except.ok.injEq]
      exact funext_iff
  | cons entry rest ih =>
      obtain ⟨fresh, distinctRest⟩ := List.nodup_cons.mp distinct
      cases found : reader.field entry.1 with
      | none =>
          rw [visitAll, visit_unknown found]
          refine (ih distinctRest unread.tail).trans ?_
          simp only [slotOf_cons_of_ne (name_ne_of_field_none found _)]
      | some named =>
          have known := (reader.field_eq_some_iff _ _).mp found
          rw [visitAll, visit_known found (unread named (known ▸ List.mem_cons_self))]
          cases value : reader.read named entry.2 with
          | error error =>
              refine iff_of_false (by simp [Except.map]) ?_
              intro every
              have failed := every named
              rw [slotOf_cons_self known, value] at failed
              cases failed
          | ok read =>
              refine (ih distinctRest (unread.update known fresh _)).trans ?_
              refine forall_congr' fun other => ?_
              by_cases same : other = named
              · subst same
                rw [slotOf_of_not_mem (known ▸ fresh), slotOf_cons_self known, value,
                  Function.update_self]
                rfl
              · have different : reader.name other ≠ entry.1 := by
                  intro clash
                  rw [(reader.field_eq_some_iff _ other).mpr clash.symm] at found
                  exact same (Option.some.inj found)
                rw [slotOf_update_of_ne same, slotOf_cons_of_ne different]

theorem readAll_eq_ok_iff {entries : List (Key × Value)} (distinct : (entries.map Prod.fst).Nodup)
    {filled : (named : Field) → Option (Slot named)} :
    reader.readAll entries = .ok filled ↔
      ∀ named,
        (entries.lookup (reader.name named)).mapM (reader.read named) = .ok (filled named) := by
  refine (visitAll_eq_ok_iff distinct fun _ _ => rfl).trans (forall_congr' fun named => ?_)
  unfold slotOf
  cases entries.lookup (reader.name named) with
  | none => rfl
  | some value => rfl

end Reading

/-- A field that is read, or has a default where there is nothing to read. -/
theorem exists_slot_iff {Value Error Result : Type*} {read : Value → Except Error Result}
    {found : Option Value} {result : Result} {absent : Prop} :
    (∃ slot, found.mapM read = .ok slot ∧ (slot = some result ∨ slot = none ∧ absent)) ↔
      found = none ∧ absent ∨ ∃ value, found = some value ∧ read value = .ok result := by
  cases found with
  | none =>
      have empty : Option.mapM read none = .ok none := rfl
      simp [empty]
  | some value =>
      have single : Option.mapM read (some value) = (read value).map some := rfl
      cases outcome : read value with
      | error error => simp [single, outcome, Except.map]
      | ok other => simp [single, outcome, Except.map]

theorem slot_eq_none_iff {Value Error Result : Type*} {read : Value → Except Error Result}
    {found : Option Value} {slot : Option Result} (filled : found.mapM read = .ok slot) :
    slot = none ↔ found = none := by
  cases found with
  | none =>
      cases filled
      exact iff_of_true rfl rfl
  | some value =>
      change (read value).map some = .ok slot at filled
      cases outcome : read value with
      | error error =>
          rw [outcome] at filled
          cases filled
      | ok result =>
          rw [outcome] at filled
          cases filled
          simp

end RecordReader

end Twelve
