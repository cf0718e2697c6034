import Twelve.Library.SeparatorJoin

/-! The string operations the sources use, over sequences of Unicode scalars.
Byte lengths matter only where the `http` crate limits a text, so they are a
measure of the sequence and not its representation. -/

set_option autoImplicit false

namespace Twelve

/-- A Rust `str` or `String` as its sequence of scalar values. -/
abbrev Str := List Char

namespace Str

def byteLen : Str → Nat
  | [] => 0
  | char :: text => char.utf8Size + byteLen text

def containsAny (text : Str) (chars : List Char) : Bool := text.any (chars.contains ·)

def startsWith (text start : Str) : Bool := start.isPrefixOf text

def stripPrefix (text start : Str) : Option Str := text.dropPrefix? start

def trimStartMatches (text : Str) (char : Char) : Str := Separator.trimStart char text

def trimEndMatches (text : Str) (char : Char) : Str := Separator.trimEnd char text

/-- `str::rsplit_once` with one character: the split is at its last occurrence. -/
def rsplitOnce (text : Str) (char : Char) : Option (Str × Str) :=
  if char ∈ text then
    some ((text.rdropWhile (· != char)).dropLast, text.rtakeWhile (· != char))
  else none

/-- `str::split_once` with one character: the split is at its first occurrence. -/
def splitOnce (text : Str) (char : Char) : Option (Str × Str) :=
  if char ∈ text then some (text.takeWhile (· != char), (text.dropWhile (· != char)).tail)
  else none

def toAsciiLowercase (text : Str) : Str := text.map Char.toLower

/-- `char::is_whitespace`, the Unicode property `White_Space`. -/
def isWhitespace (char : Char) : Bool :=
  (9 ≤ char.toNat && char.toNat ≤ 13) || (0x2000 ≤ char.toNat && char.toNat ≤ 0x200A) ||
    [0x20, 0x85, 0xA0, 0x1680, 0x2028, 0x2029, 0x202F, 0x205F, 0x3000].contains char.toNat

def trim (text : Str) : Str := (text.dropWhile isWhitespace).rdropWhile isWhitespace

@[simp] theorem byteLen_nil : byteLen [] = 0 := rfl

@[simp] theorem byteLen_cons (char : Char) (text : Str) :
    byteLen (char :: text) = char.utf8Size + byteLen text := rfl

@[simp] theorem byteLen_append (left right : Str) :
    byteLen (left ++ right) = byteLen left + byteLen right := by
  induction left with
  | nil => simp
  | cons char left ih =>
      rw [List.cons_append, byteLen_cons, byteLen_cons, ih]
      omega

theorem byteLen_trimEndMatches_le (text : Str) (char : Char) :
    byteLen (trimEndMatches text char) ≤ byteLen text := by
  obtain ⟨dropped, whole⟩ := List.rdropWhile_prefix (· == char) text
  have total := congrArg byteLen whole
  rw [byteLen_append] at total
  rw [trimEndMatches, Separator.trimEnd]
  omega

private theorem utf8Size_toLower (char : Char) : char.toLower.utf8Size = char.utf8Size := by
  unfold Char.toLower
  split
  · next upper =>
      -- Both letters are ASCII, which UTF-8 encodes in one byte.
      have letter : char.val.toNat ≤ 90 := UInt32.le_iff_toNat_le.mp upper.2
      have limit : (127 : UInt32).toNat = 127 := rfl
      have ascii : char.val ≤ 127 := by
        rw [UInt32.le_iff_toNat_le]
        omega
      have lowered : char.val + ('a'.val - 'A'.val) ≤ 127 := by
        have offset : ('a'.val - 'A'.val).toNat = 32 := rfl
        rw [UInt32.le_iff_toNat_le, UInt32.toNat_add, offset]
        omega
      exact (if_pos lowered).trans (if_pos ascii).symm
  · rfl

@[simp] theorem byteLen_toAsciiLowercase (text : Str) :
    byteLen (toAsciiLowercase text) = byteLen text := by
  induction text with
  | nil => rfl
  | cons char text ih =>
      change char.toLower.utf8Size + byteLen (toAsciiLowercase text) = _
      rw [utf8Size_toLower, ih, byteLen_cons]

theorem containsAny_eq_false_iff {text : Str} {chars : List Char} :
    containsAny text chars = false ↔ ∀ char ∈ text, char ∉ chars := by
  simp [containsAny]

theorem stripPrefix_eq_some_iff {text start rest : Str} :
    stripPrefix text start = some rest ↔ text = start ++ rest := by
  rw [stripPrefix, List.dropPrefix?_eq_some_iff]
  simp

theorem rsplitOnce_elim (text : Str) (char : Char) :
    (rsplitOnce text char).elim text (·.2) = text.rtakeWhile (· != char) := by
  unfold rsplitOnce
  split
  · rfl
  · next absent =>
      refine (List.rtakeWhile_eq_self_iff.mpr ?_).symm
      intro other member
      have different : other ≠ char := fun same => absent (same ▸ member)
      simpa using different

theorem splitOnce_append {first : Str} {char : Char} (absent : char ∉ first) (rest : Str) :
    splitOnce (first ++ char :: rest) char = some (first, rest) := by
  have before : ∀ other ∈ first, (other != char) = true := by
    intro other member
    have different : other ≠ char := fun same => absent (same ▸ member)
    simpa using different
  have taken : (first ++ char :: rest).takeWhile (· != char) = first := by
    rw [List.takeWhile_append_of_pos before]
    simp
  have dropped : (first ++ char :: rest).dropWhile (· != char) = char :: rest := by
    rw [List.dropWhile_append_of_pos before]
    simp
  rw [splitOnce, if_pos (by simp), taken, dropped, List.tail_cons]

theorem splitOnce_eq_some_iff {text first rest : Str} {char : Char} :
    splitOnce text char = some (first, rest) ↔ text = first ++ char :: rest ∧ char ∉ first := by
  constructor
  · intro found
    by_cases member : char ∈ text
    · obtain ⟨before, after, rfl, absent⟩ := List.eq_append_cons_of_mem member
      rw [splitOnce_append absent] at found
      cases found
      exact ⟨rfl, absent⟩
    · rw [splitOnce, if_neg member] at found
      cases found
  · intro spelled
    obtain ⟨rfl, absent⟩ := spelled
    exact splitOnce_append absent rest

end Str

end Twelve
