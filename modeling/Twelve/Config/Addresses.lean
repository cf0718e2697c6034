import Twelve.Config
import Twelve.Http.Message
import Twelve.Net.SocketText
import Twelve.Os

/-! Addresses and filters as texts. Filters belong to `tracing-subscriber` and database
URLs to `sqlx`, so their parsers are parameters; what is here decides which parser a text
reaches, and which addresses have a text. -/

set_option autoImplicit false

namespace Twelve

namespace OsString

/-- `Path::is_absolute`, on Unix. -/
def isAbsolute (path : OsString) : Bool := path.head? == some 0x2F

/-- `Path::display`, which replaces what is not UTF-8. -/
def display (lossy : OsString → Str) (path : OsString) : Str := path.toStr.getD (lossy path)

@[simp] theorem display_ofStr (lossy : OsString → Str) (text : Str) :
    display lossy (ofStr text) = text := by
  simp [display]

private theorem ofStr_cons (char : Char) (text : Str) :
    ofStr (char :: text) = String.utf8EncodeChar char ++ ofStr text := by
  have single : ofStr [char] = String.utf8EncodeChar char := by simp [ofStr, List.utf8Encode]
  rw [← single, ← ofStr_append]
  rfl

private theorem decode_encoded (char : Char) (more : List UInt8) :
    ByteArray.utf8DecodeChar? ⟨(String.utf8EncodeChar char ++ more).toArray⟩ 0 = some char := by
  have split : (⟨(String.utf8EncodeChar char ++ more).toArray⟩ : ByteArray) =
      (String.utf8EncodeChar char).toByteArray ++ ⟨more.toArray⟩ := by
    apply ByteArray.ext
    simp
  rw [split]
  exact ByteArray.utf8DecodeChar?_utf8EncodeChar_append

/-- No other character is encoded with the byte of a slash in front. -/
theorem isAbsolute_ofStr_iff {text : Str} :
    (ofStr text).isAbsolute = true ↔ text.head? = some '/' := by
  have slash : String.utf8EncodeChar '/' = [0x2F] := by decide
  cases text with
  | nil => simp [ofStr, isAbsolute]
  | cons char text =>
      rw [isAbsolute, ofStr_cons, List.head?_cons, Option.some.injEq, beq_iff_eq]
      constructor
      · intro first
        obtain ⟨more, bytes⟩ := List.head?_eq_some_iff.mp first
        have same : String.utf8EncodeChar char ++ ofStr text =
            String.utf8EncodeChar '/' ++ more := by
          rw [bytes, slash]
          rfl
        have decoded := decode_encoded char (ofStr text)
        rw [same, decode_encoded] at decoded
        exact (Option.some.inj decoded).symm
      · intro same
        rw [same, slash]
        rfl

end OsString

structure ParseListenAddressError where
  source : AddrParseError

def ParseListenAddressError.message : Str :=
  "expected a TCP socket address or absolute Unix socket path".toList

namespace ListenAddress

def fromStr (value : Str) :
    Except ParseListenAddressError (ListenAddress SocketAddr OsString) :=
  if (OsString.ofStr value).isAbsolute then .ok (.unix (OsString.ofStr value))
  else ((SocketAddr.fromStr value).map .tcp).mapError ParseListenAddressError.mk

def tryFrom (value : Str) :
    Except ParseListenAddressError (ListenAddress SocketAddr OsString) :=
  fromStr value

def display (lossy : OsString → Str) : ListenAddress SocketAddr OsString → Str
  | .tcp address => address.display
  | .unix path => path.display lossy

theorem fromStr_eq_unix_iff {value : Str} {path : OsString} :
    fromStr value = .ok (.unix path) ↔ path = OsString.ofStr value ∧ path.isAbsolute = true := by
  unfold fromStr
  split
  · next absolute =>
      constructor
      · intro parsed
        cases parsed
        exact ⟨rfl, absolute⟩
      · intro spelled
        rw [spelled.1]
  · next relative =>
      refine iff_of_false ?_ ?_
      · intro parsed
        cases result : SocketAddr.fromStr value with
        | error error => simp [result, Except.map, Except.mapError] at parsed
        | ok address => simp [result, Except.map, Except.mapError] at parsed
      · intro spelled
        exact relative (spelled.1 ▸ spelled.2)

theorem fromStr_eq_tcp_iff {value : Str} {address : SocketAddr} :
    fromStr value = .ok (.tcp address) ↔ SocketAddr.fromStr value = .ok address := by
  unfold fromStr
  split
  · next absolute =>
      refine iff_of_false (by simp) ?_
      intro parsed
      obtain ⟨rest, rfl⟩ := List.head?_eq_some_iff.mp (OsString.isAbsolute_ofStr_iff.mp absolute)
      rw [SocketAddr.fromStr_slash] at parsed
      cases parsed
  · cases SocketAddr.fromStr value with
    | error error => simp [Except.map, Except.mapError]
    | ok found => simp [Except.map, Except.mapError]

/-- What a socket address prints configures it, but for its flow information. -/
theorem fromStr_display_tcp (address : SocketAddr) :
    fromStr address.display = .ok (.tcp address.withoutFlowinfo) :=
  fromStr_eq_tcp_iff.mpr (SocketAddr.fromStr_display address)

/-- The addresses of which nothing is missing in a text. -/
def HasText : ListenAddress SocketAddr OsString → Prop
  | .tcp (.v4 _) => True
  | .tcp (.v6 address) => address.flowinfo = 0
  | .unix path => path.isAbsolute = true ∧ ∃ text, path = OsString.ofStr text

theorem withoutFlowinfo_eq_iff {address : SocketAddr} :
    address.withoutFlowinfo = address ↔ HasText (.tcp address) := by
  cases address with
  | v4 address => exact iff_of_true rfl trivial
  | v6 address =>
      obtain ⟨ip, port, flowinfo, scopeId⟩ := address
      simp [SocketAddr.withoutFlowinfo, HasText, eq_comm]

theorem exists_fromStr_iff (address : ListenAddress SocketAddr OsString) :
    (∃ value, fromStr value = .ok address) ↔ address.HasText := by
  cases address with
  | tcp address =>
      rw [← withoutFlowinfo_eq_iff, ← SocketAddr.exists_fromStr_iff]
      exact exists_congr fun value => fromStr_eq_tcp_iff
  | unix path =>
      constructor
      · intro configured
        obtain ⟨value, parsed⟩ := configured
        obtain ⟨same, absolute⟩ := fromStr_eq_unix_iff.mp parsed
        exact ⟨absolute, value, same⟩
      · intro spelled
        obtain ⟨absolute, text, same⟩ := spelled
        exact ⟨text, fromStr_eq_unix_iff.mpr ⟨same, absolute⟩⟩

theorem fromStr_display_iff (lossy : OsString → Str) (address : ListenAddress SocketAddr OsString) :
    fromStr (address.display lossy) = .ok address ↔ address.HasText := by
  cases address with
  | tcp address =>
      rw [display, fromStr_display_tcp, ← withoutFlowinfo_eq_iff]
      simp
  | unix path =>
      constructor
      · intro reparsed
        exact (exists_fromStr_iff (.unix path)).mp ⟨_, reparsed⟩
      · intro spelled
        obtain ⟨absolute, text, rfl⟩ := spelled
        rw [display, OsString.display_ofStr]
        exact fromStr_eq_unix_iff.mpr ⟨rfl, absolute⟩

/-- The addresses that can be configured are those that are parsed from their print, and
those that a text shows whole. -/
theorem configurable_iff (lossy : OsString → Str) (address : ListenAddress SocketAddr OsString) :
    ((∃ value, fromStr value = .ok address) ↔ fromStr (address.display lossy) = .ok address) ∧
      ((∃ value, fromStr value = .ok address) ↔ address.HasText) :=
  ⟨(exists_fromStr_iff address).trans (fromStr_display_iff lossy address).symm,
    exists_fromStr_iff address⟩

end ListenAddress

/-! ## Log filters -/

/-- `EnvFilter` and its parser. -/
structure FilterCrate (EnvFilter ParseError : Type) where
  tryNew : Str → Except ParseError EnvFilter
  message : ParseError → Str

namespace LogFilter

variable {EnvFilter ParseError : Type} (filters : FilterCrate EnvFilter ParseError)

def fromStr (value : Str) : Except ParseError (LogFilter EnvFilter) :=
  (filters.tryNew value).map LogFilter.mk

def tryFrom (value : Str) : Except ParseError (LogFilter EnvFilter) := fromStr filters value

def defaultText : Str := "info,tower_http=warn,axum=warn".toList

def default : Except Panic (LogFilter EnvFilter) :=
  match fromStr filters defaultText with
  | .ok filter => .ok filter
  | .error _ => .error ⟨"default log filter should be valid"⟩

end LogFilter

/-! ## Database URLs -/

/-- `PgConnectOptions`, behind `Secret`. -/
structure DatabaseUrl (PgConnectOptions : Type) where
  options : PgConnectOptions

inductive ParseDatabaseUrlError (SqlxError : Type) where
  | scheme
  | invalid (source : SqlxError)

def ParseDatabaseUrlError.message {SqlxError : Type} : ParseDatabaseUrlError SqlxError → Str
  | .scheme => "expected a postgres or postgresql URL".toList
  | .invalid _ => "invalid PostgreSQL connection URL".toList

namespace DatabaseUrl

variable {PgConnectOptions SqlxError : Type} (parse : Str → Except SqlxError PgConnectOptions)

/-- `str::eq_ignore_ascii_case` with a text in lower case. -/
def selectsPostgres (scheme : Str) : Bool :=
  Str.toAsciiLowercase scheme == "postgres".toList ||
    Str.toAsciiLowercase scheme == "postgresql".toList

def fromStr (value : Str) :
    Except (ParseDatabaseUrlError SqlxError) (DatabaseUrl PgConnectOptions) :=
  match Str.splitOnce value ':' with
  | none => .error .scheme
  | some (scheme, _) =>
      if selectsPostgres scheme then ((parse value).map .mk).mapError .invalid else .error .scheme

def tryFrom (value : Str) :
    Except (ParseDatabaseUrlError SqlxError) (DatabaseUrl PgConnectOptions) :=
  fromStr parse value

/-- A scheme, by either of the two names and in any case, up to the first colon. -/
def SpellsPostgres (value : Str) : Prop :=
  ∃ scheme rest, value = scheme ++ ':' :: rest ∧ ':' ∉ scheme ∧ selectsPostgres scheme = true

variable {parse}

theorem fromStr_of_spells {value : Str} (spells : SpellsPostgres value) :
    fromStr parse value = ((parse value).map .mk).mapError .invalid := by
  obtain ⟨scheme, rest, same, noColon, selected⟩ := spells
  have split := Str.splitOnce_eq_some_iff.mpr ⟨same, noColon⟩
  simp only [fromStr, split, selected, if_true]

theorem fromStr_of_not_spells {value : Str} (other : ¬ SpellsPostgres value) :
    fromStr parse value = .error .scheme := by
  unfold fromStr
  split
  · rfl
  · next scheme rest split =>
      obtain ⟨same, noColon⟩ := Str.splitOnce_eq_some_iff.mp split
      rw [if_neg (fun selected => other ⟨scheme, rest, same, noColon, selected⟩)]

end DatabaseUrl

end Twelve
