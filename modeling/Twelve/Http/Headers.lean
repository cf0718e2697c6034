import Twelve.Library.Multimap
import Twelve.Text

/-! Header names, values and maps of the `http` crate, as far as the sources
read and write them. -/

set_option autoImplicit false

namespace Twelve

structure HeaderName where
  asStr : Str
  deriving DecidableEq

namespace HeaderName

def allow : HeaderName := ⟨"allow".toList⟩
def cacheControl : HeaderName := ⟨"cache-control".toList⟩
def contentEncoding : HeaderName := ⟨"content-encoding".toList⟩
def contentLength : HeaderName := ⟨"content-length".toList⟩
def contentType : HeaderName := ⟨"content-type".toList⟩
def host : HeaderName := ⟨"host".toList⟩
def ifMatch : HeaderName := ⟨"if-match".toList⟩
def ifModifiedSince : HeaderName := ⟨"if-modified-since".toList⟩
def ifNoneMatch : HeaderName := ⟨"if-none-match".toList⟩
def ifRange : HeaderName := ⟨"if-range".toList⟩
def ifUnmodifiedSince : HeaderName := ⟨"if-unmodified-since".toList⟩
def lastModified : HeaderName := ⟨"last-modified".toList⟩
def xForwardedHost : HeaderName := ⟨"x-forwarded-host".toList⟩
def xForwardedProto : HeaderName := ⟨"x-forwarded-proto".toList⟩
def xScriptName : HeaderName := ⟨"x-script-name".toList⟩

end HeaderName

/-- The bytes a header value may hold: no control characters except the tab. -/
def isHeaderByte (byte : UInt8) : Bool := 0x20 ≤ byte && byte != 0x7F || byte == 0x09

/-- The bytes `HeaderValue::to_str` accepts: visible ASCII, space and tab. -/
def isVisibleAscii (byte : UInt8) : Bool := 0x20 ≤ byte && byte < 0x7F || byte == 0x09

/-- The characters of a value that is read as a text. -/
def isHeaderChar (char : Char) : Bool := ' ' ≤ char && char ≤ '~' || char == '\t'

private theorem isHeaderByte_of_isVisibleAscii {byte : UInt8}
    (visible : isVisibleAscii byte = true) : isHeaderByte byte = true := by
  simp only [isVisibleAscii, isHeaderByte, Bool.or_eq_true, Bool.and_eq_true,
    decide_eq_true_eq] at visible ⊢
  grind

theorem isHeaderChar_iff {char : Char} :
    isHeaderChar char = true ↔
      char.toNat < 0x100 ∧ isVisibleAscii (UInt8.ofNat char.toNat) = true := by
  have tab : char = '\t' ↔ char.toNat = 9 := by
    rw [← Char.toNat_inj]
    rfl
  have code : char.val.toNat = char.toNat := rfl
  simp only [isHeaderChar, isVisibleAscii, Bool.or_eq_true, Bool.and_eq_true, decide_eq_true_eq,
    beq_iff_eq, tab, Char.le_def, UInt32.le_iff_toNat_le, UInt8.le_iff_toNat_le,
    UInt8.lt_iff_toNat_lt, ← UInt8.toNat_inj, UInt8.toNat_ofNat', code]
  simp only [Char.reduceVal, UInt32.reduceToNat, UInt8.reduceToNat, Nat.reducePow]
  omega

private theorem toNat_ofNat_byte (byte : UInt8) : (Char.ofNat byte.toNat).toNat = byte.toNat := by
  have small := byte.toNat_lt
  have valid : byte.toNat.isValidChar := .inl (by omega)
  rw [Char.ofNat, dif_pos valid]
  rfl

structure HeaderValue where
  bytes : List UInt8
  valid : bytes.all isHeaderByte = true
  deriving DecidableEq

namespace HeaderValue

def fromStatic (text : String)
    (valid : (text.toList.map fun char => UInt8.ofNat char.toNat).all isHeaderByte = true := by
      decide) : HeaderValue :=
  ⟨text.toList.map fun char => UInt8.ofNat char.toNat, valid⟩

/-- `HeaderValue::to_str(..).ok()`. -/
def toStr (value : HeaderValue) : Option Str :=
  if value.bytes.all isVisibleAscii then
    some (value.bytes.map fun byte => Char.ofNat byte.toNat)
  else none

/-- The value of a text of characters that a header may hold. -/
def ofText (text : Str) (readable : text.all isHeaderChar = true) : HeaderValue :=
  ⟨text.map fun char => UInt8.ofNat char.toNat, by
    rw [List.all_map, List.all_eq_true]
    intro char member
    exact isHeaderByte_of_isVisibleAscii
      (isHeaderChar_iff.mp (List.all_eq_true.mp readable char member)).2⟩

@[simp] theorem toStr_ofText {text : Str} (readable : text.all isHeaderChar = true) :
    (ofText text readable).toStr = some text := by
  have visible : (ofText text readable).bytes.all isVisibleAscii = true := by
    rw [ofText, List.all_map, List.all_eq_true]
    intro char member
    exact (isHeaderChar_iff.mp (List.all_eq_true.mp readable char member)).2
  rw [toStr, if_pos visible, ofText, List.map_map]
  congr 1
  refine (List.map_congr_left ?_).trans (List.map_id text)
  intro char member
  have small := (isHeaderChar_iff.mp (List.all_eq_true.mp readable char member)).1
  rw [Function.comp_apply, UInt8.toNat_ofNat_of_lt' small, Char.ofNat_toNat, id]

theorem isHeaderChar_of_toStr {value : HeaderValue} {text : Str}
    (spelled : value.toStr = some text) : text.all isHeaderChar = true := by
  unfold toStr at spelled
  split at spelled
  · next visible =>
      cases spelled
      rw [List.all_map, List.all_eq_true]
      intro byte member
      have shown := List.all_eq_true.mp visible byte member
      refine isHeaderChar_iff.mpr ⟨?_, ?_⟩
      · rw [toNat_ofNat_byte]
        exact byte.toNat_lt
      · rw [toNat_ofNat_byte, UInt8.ofNat_toNat]
        exact shown
  · cases spelled

/-- The bytes of several field lines in one line, separated by a comma and a space. -/
def joinBytes (lines : List HeaderValue) : List UInt8 :=
  List.intercalate [0x2C, 0x20] (lines.map bytes)

@[simp] theorem joinBytes_nil : joinBytes [] = [] := rfl

@[simp] theorem joinBytes_singleton (line : HeaderValue) : joinBytes [line] = line.bytes := by
  simp [joinBytes]

private theorem joinBytes_cons_cons (first second : HeaderValue) (rest : List HeaderValue) :
    joinBytes (first :: second :: rest) =
      first.bytes ++ 0x2C :: 0x20 :: joinBytes (second :: rest) := by
  simp [joinBytes, List.intercalate]

/-- A byte condition that holds of the separator holds of a joined line exactly
when it holds of every line. -/
theorem all_joinBytes {condition : UInt8 → Bool} (comma : condition 0x2C = true)
    (space : condition 0x20 = true) (lines : List HeaderValue) :
    (joinBytes lines).all condition = lines.all fun line => line.bytes.all condition := by
  induction lines with
  | nil => rfl
  | cons first rest ih =>
      cases rest with
      | nil => simp
      | cons second rest =>
          rw [joinBytes_cons_cons, List.all_append, List.all_cons, List.all_cons, ih, comma, space]
          rfl

def joinLines (lines : List HeaderValue) : HeaderValue :=
  ⟨joinBytes lines, by
    rw [all_joinBytes (by decide) (by decide), List.all_eq_true]
    exact fun line _ => line.valid⟩

@[simp] theorem joinLines_singleton (line : HeaderValue) : joinLines [line] = line := by
  simp [joinLines]

theorem toStr_joinLines_isSome (lines : List HeaderValue) :
    (joinLines lines).toStr.isSome = lines.all fun line => line.toStr.isSome := by
  have readable : ∀ value : HeaderValue, value.toStr.isSome = value.bytes.all isVisibleAscii := by
    intro value
    cases visible : value.bytes.all isVisibleAscii <;> simp [toStr, visible]
  simp only [readable]
  exact all_joinBytes (by decide) (by decide) lines

theorem toStr_joinLines_cons_cons {first second : HeaderValue} {rest : List HeaderValue}
    {text : Str} (read : (joinLines (first :: second :: rest)).toStr = some text) :
    ∃ head tail, first.toStr = some head ∧ text = head ++ ',' :: ' ' :: tail := by
  have allRead : (first :: second :: rest).all (fun line => line.toStr.isSome) = true := by
    rw [← toStr_joinLines_isSome, read]
    rfl
  obtain ⟨head, firstRead⟩ := Option.isSome_iff_exists.mp (List.all_eq_true.mp allRead first
    List.mem_cons_self)
  refine ⟨head, (joinBytes (second :: rest)).map fun byte => Char.ofNat byte.toNat, firstRead, ?_⟩
  unfold toStr at read firstRead
  split at read
  · split at firstRead
    · cases read
      cases firstRead
      simp only [joinLines, joinBytes_cons_cons, List.map_append, List.map_cons]
      rfl
    · cases firstRead
  · cases read

end HeaderValue

abbrev HeaderMap := Multimap HeaderName HeaderValue

end Twelve
