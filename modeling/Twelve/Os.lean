import Twelve.Text

/-! Strings and reads of the operating system: bytes, of which some are UTF-8 text. -/

set_option autoImplicit false

namespace Twelve

/-- A Rust `OsString` or `PathBuf` on Unix. -/
abbrev OsString := List UInt8

namespace OsString

def ofStr (text : Str) : OsString := (String.ofList text).toByteArray.data.toList

def toStr (bytes : OsString) : Option Str :=
  (String.fromUTF8? ⟨bytes.toArray⟩).map String.toList

theorem toStr_eq_some_iff {bytes : OsString} {text : Str} :
    toStr bytes = some text ↔ bytes = ofStr text := by
  constructor
  · intro decoded
    obtain ⟨string, read, rfl⟩ := Option.map_eq_some_iff.mp decoded
    unfold String.fromUTF8? at read
    split at read
    · cases read
      rw [ofStr, String.ofList_toList]
      rfl
    · cases read
  · intro same
    subst same
    have valid := (String.ofList text).isValidUTF8
    have read : String.fromUTF8? ⟨(ofStr text).toArray⟩ = some (String.ofList text) := by
      rw [ofStr, Array.toArray_toList]
      exact dif_pos valid
    rw [toStr, read, Option.map_some, String.toList_ofList]

@[simp] theorem toStr_ofStr (text : Str) : toStr (ofStr text) = some text :=
  toStr_eq_some_iff.mpr rfl

theorem ofStr_append (first second : Str) :
    ofStr (first ++ second) = ofStr first ++ ofStr second := by
  simp [ofStr, String.ofList_append]

end OsString

/-- `std::io::Error` of a read to the end into a string. -/
inductive ReadError (OsError : Type) where
  | os (error : OsError)
  | invalidUtf8

/-- What `read_to_string` makes of the bytes it reads. -/
def Os.readToString {OsError : Type} (read : Except OsError OsString) :
    Except (ReadError OsError) Str :=
  match read with
  | .error error => .error (.os error)
  | .ok bytes =>
      match bytes.toStr with
      | none => .error .invalidUtf8
      | some text => .ok text

theorem Os.readToString_eq_ok_iff {OsError : Type} {read : Except OsError OsString} {text : Str} :
    Os.readToString read = .ok text ↔ read = .ok (OsString.ofStr text) := by
  cases read with
  | error error => simp [Os.readToString]
  | ok bytes =>
      rw [Except.ok.injEq, ← OsString.toStr_eq_some_iff, Os.readToString]
      cases bytes.toStr <;> simp

/-- `std::env::VarError`, which carries a value that is not text. -/
inductive VarError where
  | notPresent
  | notUnicode (value : OsString)

/-- `std::env::var`, from what the environment holds. -/
def Os.var (found : Option OsString) : Except VarError Str :=
  match found with
  | none => .error .notPresent
  | some bytes =>
      match bytes.toStr with
      | none => .error (.notUnicode bytes)
      | some text => .ok text

theorem Os.var_eq_ok_iff {found : Option OsString} {text : Str} :
    Os.var found = .ok text ↔ found = some (OsString.ofStr text) := by
  cases found with
  | none => simp [Os.var]
  | some bytes =>
      rw [Option.some.injEq, ← OsString.toStr_eq_some_iff, Os.var]
      cases bytes.toStr <;> simp

end Twelve
