import Mathlib.Data.List.Basic

/-!
# Structured debug output

The two layouts of a record printed for a programmer: on one line, or with one
indented line for each field. The rendered fields are texts, so nested records
are rendered from the inside out. A rendering determines its last field.
-/

set_option autoImplicit false

namespace Twelve.DebugFormat

inductive Layout where
  | compact
  | pretty
  deriving DecidableEq

/-- Indents every line that is not empty. The flag says whether a line starts here. -/
def indent : Bool → List Char → List Char
  | _, [] => []
  | true, char :: text => "    ".toList ++ char :: indent (char == '\n') text
  | false, char :: text => char :: indent (char == '\n') text

def separated : List (List Char) → List Char
  | [] => []
  | [item] => item
  | item :: rest => item ++ ", ".toList ++ separated rest

def lined (items : List (List Char)) : List Char :=
  items.flatMap fun item => indent true (item ++ ",\n".toList)

def body (layout : Layout) (items : List (List Char)) : List Char :=
  match layout with
  | .compact => separated items
  | .pretty => lined items

def struct (layout : Layout) (name : List Char) (fields : List (List Char × List Char)) :
    List Char :=
  if fields = [] then name
  else
    let items := fields.map fun field => field.1 ++ ": ".toList ++ field.2
    match layout with
    | .compact => name ++ " \x7b ".toList ++ body layout items ++ " \x7d".toList
    | .pretty => name ++ " \x7b\n".toList ++ body layout items ++ "\x7d".toList

def tuple (layout : Layout) (name : List Char) (fields : List (List Char)) : List Char :=
  if fields = [] then name
  else
    match layout with
    | .compact => name ++ "(".toList ++ body layout fields ++ ")".toList
    | .pretty => name ++ "(\n".toList ++ body layout fields ++ ")".toList

theorem indent_injective (starts : Bool) : Function.Injective (indent starts) := by
  intro left right same
  induction left generalizing starts right with
  | nil =>
      cases right with
      | nil => rfl
      | cons char right => cases starts <;> simp [indent] at same
  | cons first left ih =>
      cases right with
      | nil => cases starts <;> simp [indent] at same
      | cons second right =>
          have parts : first = second ∧
              indent (first == '\n') left = indent (second == '\n') right := by
            cases starts with
            | true => simpa [indent] using same
            | false => simpa [indent] using same
          obtain ⟨rfl, tails⟩ := parts
          rw [ih _ tails]

private theorem separated_concat (items : List (List Char)) (last : List Char) :
    separated (items ++ [last]) = items.flatMap (· ++ ", ".toList) ++ last := by
  induction items with
  | nil => rfl
  | cons item rest ih =>
      cases rest with
      | nil => simp [separated]
      | cons next rest =>
          rw [List.cons_append, List.cons_append, separated, ← List.cons_append, ih]
          · simp
          · simp

/-- Two lists of items that differ in the last one at most are told apart by it. -/
theorem body_concat_inj {layout : Layout} {items : List (List Char)} {first second : List Char}
    (same : body layout (items ++ [first]) = body layout (items ++ [second])) : first = second := by
  cases layout with
  | compact =>
      simp only [body, separated_concat] at same
      exact List.append_cancel_left same
  | pretty =>
      simp only [body, lined, List.flatMap_append, List.flatMap_singleton] at same
      have lines := indent_injective true (List.append_cancel_left same)
      exact List.append_cancel_right lines

theorem struct_concat_inj {layout : Layout} {name field : List Char}
    {fields : List (List Char × List Char)} {first second : List Char}
    (same : struct layout name (fields ++ [(field, first)]) =
      struct layout name (fields ++ [(field, second)])) : first = second := by
  have nonempty : ∀ text, fields ++ [(field, text)] ≠ [] := by simp
  rw [struct, struct, if_neg (nonempty first), if_neg (nonempty second)] at same
  simp only [List.map_append, List.map_cons, List.map_nil] at same
  cases layout with
  | compact =>
      have bodies := List.append_cancel_left (List.append_cancel_right same)
      exact List.append_cancel_left (body_concat_inj bodies)
  | pretty =>
      have bodies := List.append_cancel_left (List.append_cancel_right same)
      exact List.append_cancel_left (body_concat_inj bodies)

end Twelve.DebugFormat
