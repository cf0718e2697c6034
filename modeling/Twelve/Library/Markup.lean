import Mathlib.Data.List.Basic

/-!
# Escaped blocks

Two ways to keep contents apart from the markup around them: an escape table that
replaces special items by entities, and blocks that end at the first item which
their contents cannot hold. Both are undone exactly by their readers.
-/

set_option autoImplicit false

namespace Twelve.Markup

variable {α : Type*} [DecidableEq α]

/-- Entities and the special items they stand for. No entity starts another one,
and every entity starts with a special item, which no escaped text leaves bare. -/
structure EscapeTable (α : Type*) [DecidableEq α] where
  entities : List (List α × α)
  nonempty : ∀ entry ∈ entities, entry.1 ≠ []
  leading : ∀ entry ∈ entities, ∀ head, entry.1.head? = some head → head ∈ entities.map (·.2)
  apart : ∀ first ∈ entities, ∀ second ∈ entities, first.1 <+: second.1 → first = second

namespace EscapeTable

variable (table : EscapeTable α)

def escapeItem (item : α) : List α :=
  match table.entities.find? (·.2 = item) with
  | some entry => entry.1
  | none => [item]

def escape (text : List α) : List α := text.flatMap table.escapeItem

def entityAt (text : List α) : Option (List α × α) :=
  table.entities.find? (·.1.isPrefixOf text)

/-- Reads entities back, given how many items of the last entity are still to be skipped. -/
def unescapeFrom : Nat → List α → List α
  | _, [] => []
  | skip + 1, _ :: text => unescapeFrom skip text
  | 0, item :: text =>
      match table.entityAt (item :: text) with
      | some entry => entry.2 :: unescapeFrom (entry.1.length - 1) text
      | none => item :: unescapeFrom 0 text

def unescape (text : List α) : List α := table.unescapeFrom 0 text

variable {table}

private theorem entityAt_append {entry : List α × α} (member : entry ∈ table.entities)
    (rest : List α) : table.entityAt (entry.1 ++ rest) = some entry := by
  have starts : entry.1.isPrefixOf (entry.1 ++ rest) = true :=
    List.isPrefixOf_iff_prefix.mpr ⟨_, rfl⟩
  cases found : table.entityAt (entry.1 ++ rest) with
  | none =>
      rw [entityAt, List.find?_eq_none] at found
      exact absurd starts (found entry member)
  | some other =>
      rw [entityAt] at found
      have otherMember := List.mem_of_find?_eq_some found
      have otherStarts : other.1 <+: entry.1 ++ rest := by simpa using List.find?_some found
      -- Two entities that start the same text start each other.
      rcases List.prefix_or_prefix_of_prefix otherStarts ⟨_, rfl⟩ with
        shorter | longer
      · rw [table.apart other otherMember entry member shorter]
      · rw [table.apart entry member other otherMember longer]

private theorem entityAt_of_plain {item : α} (plain : item ∉ table.entities.map (·.2))
    (rest : List α) : table.entityAt (item :: rest) = none := by
  rw [entityAt, List.find?_eq_none]
  intro entry member starts
  obtain ⟨following, same⟩ := List.isPrefixOf_iff_prefix.mp starts
  cases entity : entry.1 with
  | nil => exact table.nonempty entry member entity
  | cons head tail =>
      rw [entity] at same
      obtain ⟨rfl, -⟩ := List.cons.inj same
      exact plain (table.leading entry member head (by rw [entity]; rfl))

private theorem unescapeFrom_append (skipped rest : List α) :
    table.unescapeFrom skipped.length (skipped ++ rest) = table.unescapeFrom 0 rest := by
  induction skipped with
  | nil => rfl
  | cons item skipped ih => exact ih

theorem escapeItem_eq_self {item : α} (plain : item ∉ table.entities.map (·.2)) :
    table.escapeItem item = [item] := by
  have none : table.entities.find? (·.2 = item) = none := by
    rw [List.find?_eq_none]
    intro entry member same
    exact plain (List.mem_map.mpr ⟨entry, member, of_decide_eq_true same⟩)
  rw [escapeItem, none]

private theorem exists_escapeItem_eq {item : α} (special : item ∈ table.entities.map (·.2)) :
    ∃ entry ∈ table.entities, entry.2 = item ∧ table.escapeItem item = entry.1 := by
  cases found : table.entities.find? (·.2 = item) with
  | none =>
      obtain ⟨entry, member, same⟩ := List.mem_map.mp special
      exact absurd (decide_eq_true same) (List.find?_eq_none.mp found entry member)
  | some entry =>
      have same : entry.2 = item := by simpa using List.find?_some found
      refine ⟨entry, List.mem_of_find?_eq_some found, same, ?_⟩
      rw [escapeItem, found]

/-- Escaping is undone exactly, also for texts that look escaped already. -/
theorem unescape_escape (text : List α) : table.unescape (table.escape text) = text := by
  induction text with
  | nil => rfl
  | cons item text ih =>
      rw [escape, List.flatMap_cons, ← escape, unescape]
      by_cases special : item ∈ table.entities.map (·.2)
      · obtain ⟨entry, member, same, entity⟩ := exists_escapeItem_eq special
        have found := entityAt_append member (table.escape text)
        rw [entity]
        cases spelled : entry.1 with
        | nil => exact absurd spelled (table.nonempty entry member)
        | cons head tail =>
            rw [spelled, List.cons_append] at found
            rw [List.cons_append, unescapeFrom, found]
            simp only [spelled, List.length_cons, Nat.add_sub_cancel, same]
            rw [unescapeFrom_append, ← unescape, ih]
      · rw [escapeItem_eq_self special, List.singleton_append, unescapeFrom,
          entityAt_of_plain special]
        simp only
        rw [← unescape, ih]

/-- A special item that no entity holds does not occur in an escaped text. -/
theorem not_mem_escape {item : α} (special : item ∈ table.entities.map (·.2))
    (absent : ∀ entry ∈ table.entities, item ∉ entry.1) (text : List α) :
    item ∉ table.escape text := by
  intro member
  obtain ⟨source, -, inside⟩ := List.mem_flatMap.mp member
  by_cases sourceSpecial : source ∈ table.entities.map (·.2)
  · obtain ⟨entry, entryMember, -, entity⟩ := exists_escapeItem_eq sourceSpecial
    rw [entity] at inside
    exact absent entry entryMember inside
  · rw [escapeItem_eq_self sourceSpecial, List.mem_singleton] at inside
    rw [inside] at special
    exact sourceSpecial special

end EscapeTable

section Blocks

def writeBlocks (opening closing : List α) (contents : List (List α)) : List α :=
  contents.flatMap fun content => opening ++ content ++ closing

def readBlocks (stop : α) (opening closing : List α) : Nat → List α → Option (List (List α))
  | _, [] => some []
  | 0, _ :: _ => none
  | count + 1, text@(_ :: _) => do
      let body ← text.dropPrefix? opening
      let rest ← (body.dropWhile (· ≠ stop)).dropPrefix? closing
      let contents ← readBlocks stop opening closing count rest
      return body.takeWhile (· ≠ stop) :: contents

theorem dropSuffix_append (text ending : List α) :
    (text ++ ending).dropSuffix? ending = some text :=
  List.dropSuffix?_eq_some_iff.mpr ⟨ending, rfl, beq_self_eq_true ending⟩

theorem dropPrefix_append (start rest : List α) : (start ++ rest).dropPrefix? start = some rest :=
  List.dropPrefix?_append_of_beq rest (beq_self_eq_true start)

variable {stop : α} {content closing : List α}

theorem takeWhile_content (clean : stop ∉ content) (stops : closing.head? = some stop)
    (rest : List α) : (content ++ (closing ++ rest)).takeWhile (· ≠ stop) = content := by
  have kept : ∀ item ∈ content, decide (item ≠ stop) = true := by
    intro item member
    exact decide_eq_true fun same => clean (same ▸ member)
  rw [List.takeWhile_append_of_pos kept]
  cases closing with
  | nil => cases stops
  | cons head tail =>
      cases stops
      simp

theorem dropWhile_content (clean : stop ∉ content) (stops : closing.head? = some stop)
    (rest : List α) :
    (content ++ (closing ++ rest)).dropWhile (· ≠ stop) = closing ++ rest := by
  have split := @List.takeWhile_append_dropWhile _ (· ≠ stop) (content ++ (closing ++ rest))
  rw [takeWhile_content clean stops] at split
  exact List.append_cancel_left split

omit [DecidableEq α] in
theorem length_le_writeBlocks {opening : List α} (nonempty : opening ≠ []) (closing : List α)
    (contents : List (List α)) :
    contents.length ≤ (writeBlocks opening closing contents).length := by
  have positive := List.length_pos_iff.mpr nonempty
  induction contents with
  | nil => exact Nat.zero_le _
  | cons content contents ih =>
      simp only [writeBlocks, List.flatMap_cons, List.length_append, List.length_cons] at ih ⊢
      omega

private theorem readBlocks_succ {text : List α} (nonempty : text ≠ []) (opening : List α)
    (count : Nat) :
    readBlocks stop opening closing (count + 1) text = do
      let body ← text.dropPrefix? opening
      let rest ← (body.dropWhile (· ≠ stop)).dropPrefix? closing
      let contents ← readBlocks stop opening closing count rest
      return body.takeWhile (· ≠ stop) :: contents := by
  cases text with
  | nil => exact absurd rfl nonempty
  | cons head tail => rfl

theorem readBlocks_writeBlocks {opening : List α} (nonempty : opening ≠ [])
    (stops : closing.head? = some stop) {contents : List (List α)}
    (clean : ∀ content ∈ contents, stop ∉ content) {count : Nat}
    (enough : contents.length ≤ count) :
    readBlocks stop opening closing count (writeBlocks opening closing contents) =
      some contents := by
  induction contents generalizing count with
  | nil => cases count <;> rfl
  | cons content contents ih =>
      cases count with
      | zero => cases enough
      | succ count =>
          obtain ⟨cleanHead, cleanTail⟩ := List.forall_mem_cons.mp clean
          have written : writeBlocks opening closing (content :: contents) =
              opening ++ (content ++ (closing ++ writeBlocks opening closing contents)) := by
            simp [writeBlocks]
          have read := ih cleanTail (Nat.le_of_succ_le_succ enough)
          rw [written, readBlocks_succ (by simp [nonempty]), dropPrefix_append]
          simp only [Option.bind_eq_bind, Option.bind_some, takeWhile_content cleanHead stops,
            dropWhile_content cleanHead stops, dropPrefix_append, read]
          rfl

end Blocks

end Twelve.Markup
