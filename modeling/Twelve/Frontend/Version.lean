import Twelve.Frontend.Cache
import Twelve.Library.FieldEdits
import Twelve.Library.Layers

/-! The deployed frontend version as a response header, and how its middleware
stands to the cache policy. Both are layers around a service: one edits the request
and three response fields, the other one field of the response alone. -/

set_option autoImplicit false

namespace Twelve

/-- `Path::join` with a relative path, on Unix. -/
def joinPath (base relative : Str) : Str :=
  if base = [] ∨ base.getLast? = some '/' then base ++ relative else base ++ '/' :: relative

/-- `std::io::Error`, as the sources meet it. -/
inductive IoError (OsError InvalidHeaderValue : Type) where
  | os (error : OsError)
  | invalidUtf8
  | invalidData (source : InvalidHeaderValue)

namespace Version

def manifestName : Str := "frontend-version".toList

def headerName : HeaderName := ⟨"frontend-version".toList⟩

structure FrontendVersion where
  manifest : Str

def FrontendVersion.new (frontend : Str) : FrontendVersion := ⟨joinPath frontend manifestName⟩

section Attach

variable {OsError InvalidHeaderValue : Type}

/-- The file system while a request is handled, and the parser of header values. -/
structure Environment (OsError InvalidHeaderValue : Type) where
  files : Str → Except OsError ByteArray
  parse : Str → Except InvalidHeaderValue HeaderValue

variable (environment : Environment OsError InvalidHeaderValue)

def readToString (path : Str) : Except (IoError OsError InvalidHeaderValue) Str :=
  match environment.files path with
  | .error error => .error (.os error)
  | .ok bytes =>
      match String.fromUTF8? bytes with
      | none => .error .invalidUtf8
      | some text => .ok text.toList

def read (manifest : Str) : Except (IoError OsError InvalidHeaderValue) HeaderValue := do
  let text ← readToString environment manifest
  (environment.parse (Str.trim text)).mapError .invalidData

variable {Body Reply : Type}

def attach (version : FrontendVersion) (next : Service Body Reply) : Service Body Reply :=
  fun request =>
    let version := (read environment version.manifest).toOption
    let response := next request
    match version with
    | some value => { response with headers := response.headers.insert headerName value }
    | none => response

/-- The manifest is readable UTF-8 whose trimmed text is a valid header value. -/
def Advertises (manifest : Str) (value : HeaderValue) : Prop :=
  ∃ bytes text, environment.files manifest = .ok bytes ∧ String.fromUTF8? bytes = some text ∧
    environment.parse (Str.trim text.toList) = .ok value

theorem read_eq_ok_iff {manifest : Str} {value : HeaderValue} :
    read environment manifest = .ok value ↔ Advertises environment manifest value := by
  unfold read readToString Advertises
  cases contents : environment.files manifest with
  | error error => simp [bind, Except.bind]
  | ok bytes =>
      cases decoded : String.fromUTF8? bytes with
      | none => simp [bind, Except.bind, decoded]
      | some text =>
          cases parsed : environment.parse (Str.trim text.toList) with
          | error error => simp [bind, Except.bind, decoded, parsed, Except.mapError]
          | ok found => simp [bind, Except.bind, decoded, parsed, Except.mapError]

end Attach

end Version

end Twelve
