import Mathlib.Data.List.Basic

/-!
# Unsigned numbers at the front of a text

A number is read digit by digit up to the first character that is not a digit. It is
bounded by a count of digits, or else by the size of its type after every digit. What
is printed in the same radix is read back, whatever follows that is not a digit.
-/

set_option autoImplicit false

namespace Twelve.Numeral

/-- The value of a digit, of which the letters may have either case. -/
def toDigit (radix : Nat) (char : Char) : Option Nat :=
  let value :=
    if char.isDigit then some (char.toNat - '0'.toNat)
    else if char.isLower then some (char.toNat - 'a'.toNat + 10)
    else if char.isUpper then some (char.toNat - 'A'.toNat + 10)
    else none
  value.filter (· < radix)

def isDigit (radix : Nat) (char : Char) : Bool := (toDigit radix char).isSome

/-- How a number is spelled, and how many values its type has. -/
structure Format where
  radix : Nat
  maxDigits : Option Nat
  allowZeroPrefix : Bool
  size : Nat

namespace Format

def admits (format : Format) (result digitCount : Nat) : Bool :=
  match format.maxDigits with
  | some maxDigits => digitCount ≤ maxDigits
  | none => result < format.size

/-- The value and the count of the digits in front, with what follows them. -/
def readDigits (format : Format) (result digitCount : Nat) :
    List Char → Option (Nat × Nat × List Char)
  | [] => some (result, digitCount, [])
  | char :: rest =>
      match toDigit format.radix char with
      | none => some (result, digitCount, char :: rest)
      | some digit =>
          if format.admits (result * format.radix + digit) (digitCount + 1) then
            format.readDigits (result * format.radix + digit) (digitCount + 1) rest
          else none

def readNumber (format : Format) (text : List Char) : Option (Nat × List Char) :=
  match format.readDigits 0 0 text with
  | none => none
  | some (result, digitCount, rest) =>
      if digitCount = 0 then none
      else if !format.allowZeroPrefix && text.head? == some '0' && 1 < digitCount then none
      else if result < format.size then some (result, rest)
      else none

end Format

section Digits

theorem toDigit_digitChar {radix value : Nat} (small : radix ≤ 16) (digit : value < radix) :
    toDigit radix value.digitChar = some value := by
  have char : ∀ value < 16, toDigit 16 value.digitChar = some value := by decide
  have found := char value (Nat.lt_of_lt_of_le digit small)
  rw [toDigit, Option.filter_eq_some_iff] at found ⊢
  exact ⟨found.1, by simpa using digit⟩

theorem isDigit_mono {radix larger : Nat} {char : Char} (le : radix ≤ larger)
    (other : isDigit larger char = false) : isDigit radix char = false := by
  simp only [isDigit, toDigit, Option.isSome_eq_false_iff, Option.isNone_iff_eq_none,
    Option.filter_eq_none_iff, decide_eq_true_eq] at other ⊢
  intro value found less
  exact other value found (Nat.lt_of_lt_of_le less le)

theorem isDigit_of_mem_toDigits {radix number : Nat} {char : Char} (large : 1 < radix)
    (small : radix ≤ 16) (member : char ∈ Nat.toDigits radix number) :
    isDigit radix char = true := by
  induction number using Nat.strongRecOn with
  | ind number ih =>
      have last : isDigit radix (number % radix).digitChar = true := by
        rw [isDigit, toDigit_digitChar small (Nat.mod_lt _ (by omega))]
        rfl
      rw [Nat.toDigits_eq_if large] at member
      split at member
      · next less =>
          rw [Nat.mod_eq_of_lt less] at last
          rw [List.mem_singleton.mp member]
          exact last
      · next more =>
          rcases List.mem_append.mp member with front | back
          · exact ih _ (Nat.div_lt_self (by omega) large) front
          · rw [List.mem_singleton.mp back]
            exact last

/-- A number of several digits does not start with a zero. -/
theorem toDigits_head_ne_zero {radix number : Nat} (large : 1 < radix)
    (positive : 0 < number) : (Nat.toDigits radix number).head? ≠ some '0' := by
  induction number using Nat.strongRecOn with
  | ind number ih =>
      rw [Nat.toDigits_eq_if large]
      split
      · have nonzero : number ≠ 0 := Nat.ne_of_gt positive
        simpa using nonzero
      · next more =>
          rw [List.head?_append_of_ne_nil _ Nat.toDigits_ne_nil]
          exact ih _ (Nat.div_lt_self positive large) (Nat.div_pos (by omega) (by omega))

end Digits

namespace Format

variable {format : Format} {result digitCount value count number : Nat} {text rest : List Char}

private theorem readDigits_rest
    (read : format.readDigits result digitCount text = some (value, count, rest)) :
    rest = text.dropWhile (isDigit format.radix) := by
  induction text generalizing result digitCount with
  | nil =>
      cases read
      rfl
  | cons char text ih =>
      rw [readDigits] at read
      cases digit : toDigit format.radix char with
      | none =>
          rw [digit] at read
          cases read
          simp [isDigit, digit]
      | some digitValue =>
          simp only [digit] at read
          split at read
          · rw [List.dropWhile_cons_of_pos (by simp [isDigit, digit])]
            exact ih read
          · cases read

private theorem readDigits_append (more : List Char)
    (read : format.readDigits result digitCount text = some (value, count, [])) :
    format.readDigits result digitCount (text ++ more) = format.readDigits value count more := by
  induction text generalizing result digitCount with
  | nil =>
      cases read
      rfl
  | cons char text ih =>
      rw [readDigits] at read
      rw [List.cons_append, readDigits]
      cases digit : toDigit format.radix char with
      | none =>
          rw [digit] at read
          cases read
      | some digitValue =>
          simp only [digit] at read ⊢
          split at read
          · next admitted =>
              rw [if_pos admitted]
              exact ih read
          · cases read

private theorem readDigits_of_head (stops : rest.head?.all (!isDigit format.radix ·) = true) :
    format.readDigits value count rest = some (value, count, rest) := by
  cases rest with
  | nil => rfl
  | cons char rest =>
      have other : toDigit format.radix char = none := by simpa [isDigit] using stops
      simp only [readDigits, other]

private theorem admits_mono {less fewer : Nat} (admitted : format.admits value count = true)
    (le : less ≤ value) (few : fewer ≤ count) : format.admits less fewer = true := by
  unfold admits at *
  split at admitted
  · rw [decide_eq_true_eq] at *
    omega
  · rw [decide_eq_true_eq] at *
    omega

/-- The digits of a number are read one after the other, the last one last. -/
theorem readDigits_toDigits (large : 1 < format.radix) (small : format.radix ≤ 16)
    (admitted : format.admits number (Nat.toDigits format.radix number).length = true) :
    format.readDigits 0 0 (Nat.toDigits format.radix number) =
      some (number, (Nat.toDigits format.radix number).length, []) := by
  induction number using Nat.strongRecOn with
  | ind number ih =>
      have step := Nat.toDigits_eq_if (n := number) large
      split at step
      · next less =>
          rw [step, List.length_singleton] at admitted ⊢
          have digit := toDigit_digitChar small less
          simp only [readDigits, digit, Nat.zero_mul, Nat.zero_add, if_pos admitted]
      · next more =>
          rw [step, List.length_append, List.length_singleton] at admitted ⊢
          have quotient : number / format.radix < number := Nat.div_lt_self (by omega) large
          have digit := toDigit_digitChar small (Nat.mod_lt number (by omega))
          have whole : number / format.radix * format.radix + number % format.radix = number :=
            Nat.div_add_mod' number format.radix
          have front := ih _ quotient
            (admits_mono admitted (Nat.le_of_lt quotient) (Nat.le_add_right _ _))
          rw [readDigits_append _ front]
          simp only [readDigits, digit, whole, if_pos admitted]

theorem readNumber_toDigits (large : 1 < format.radix) (small : format.radix ≤ 16)
    (fits : number < format.size)
    (admitted : format.admits number (Nat.toDigits format.radix number).length = true)
    (stops : rest.head?.all (!isDigit format.radix ·) = true) :
    format.readNumber (Nat.toDigits format.radix number ++ rest) = some (number, rest) := by
  have read : format.readDigits 0 0 (Nat.toDigits format.radix number ++ rest) =
      some (number, (Nat.toDigits format.radix number).length, rest) := by
    rw [readDigits_append _ (readDigits_toDigits large small admitted), readDigits_of_head stops]
  have present : (Nat.toDigits format.radix number).length ≠ 0 :=
    Nat.ne_of_gt Nat.length_toDigits_pos
  have noPrefix : ((Nat.toDigits format.radix number ++ rest).head? == some '0' &&
      decide (1 < (Nat.toDigits format.radix number).length)) = false := by
    rw [List.head?_append_of_ne_nil _ Nat.toDigits_ne_nil, Bool.and_eq_false_iff]
    rcases Nat.eq_zero_or_pos number with rfl | positive
    · right
      simp
    · left
      simpa using toDigits_head_ne_zero large positive
  simp only [readNumber, read, if_neg present, Bool.and_assoc, noPrefix, Bool.and_false,
    if_pos fits]
  rfl

theorem readNumber_rest (read : format.readNumber text = some (value, rest)) :
    rest = text.dropWhile (isDigit format.radix) := by
  unfold readNumber at read
  split at read
  · cases read
  · next digits =>
      split at read
      · cases read
      · split at read
        · cases read
        · split at read
          · cases read
            exact readDigits_rest digits
          · cases read

theorem readNumber_eq_none (stops : text.head?.all (!isDigit format.radix ·) = true) :
    format.readNumber text = none := by
  rw [readNumber, readDigits_of_head stops]
  rfl

end Format

end Twelve.Numeral
