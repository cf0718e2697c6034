import Twelve.Config.Document

/-! Values that a document names instead of containing them. Deserializing such a value
touches nothing, and loading it touches the one source that was named. What it cannot load
it reports without a trace of the contents. -/

set_option autoImplicit false

namespace Twelve

inductive External where
  | file (path : OsString)
  | env (name : Str)
  | value (value : Str)
  deriving DecidableEq

inductive LoadError (OsError : Type) where
  | file (path : OsString) (source : ReadError OsError)
  | missingEnv (name : Str)
  | nonUnicodeEnv (name : Str)

/-- The files and the environment of a process, as far as values are loaded from them. -/
structure Surroundings (OsError : Type) where
  files : OsString → Except OsError OsString
  environment : Str → Option OsString

namespace External

/-- The tagged variants of the derived implementation: a table of one entry. -/
def tagged : Toml → Option External
  | .table [(key, .string text)] =>
      if key = "file".toList then some (.file (OsString.ofStr text))
      else if key = "env".toList then some (.env text)
      else none
  | _ => none

/-- The tagged variants are tried first, and then the untagged one. -/
def deserialize (toml : Toml) : Except DeserializeError External :=
  match tagged toml with
  | some external => .ok external
  | none =>
      match toml with
      | .string text => .ok (.value text)
      | _ => .error (.custom "data did not match any variant of untagged enum External".toList)

variable {OsError : Type}

/-- What is kept of a failure to read a variable, which is not its value. -/
def envError (name : Str) : VarError → LoadError OsError
  | .notPresent => .missingEnv name
  | .notUnicode _ => .nonUnicodeEnv name

def load (surroundings : Surroundings OsError) : External → Except (LoadError OsError) Str
  | .value text => .ok text
  | .file path => (Os.readToString (surroundings.files path)).mapError (.file path)
  | .env name => (Os.var (surroundings.environment name)).mapError (envError name)

/-! ## Documents -/

/-- The one value of a document that stands for a source, if its path is text. -/
def spelling : External → Option Toml
  | .value text => some (.string text)
  | .file path => path.toStr.map fun text => .table [("file".toList, .string text)]
  | .env name => some (.table [("env".toList, .string name)])

private theorem tagged_eq_some {toml : Toml} {external : External}
    (found : tagged toml = some external) : external.spelling = some toml := by
  unfold tagged at found
  split at found
  · next key text =>
      split at found
      · next file =>
          cases found
          rw [spelling, OsString.toStr_ofStr, file, Option.map_some]
      · split at found
        · next env =>
            cases found
            rw [spelling, env]
        · cases found
  · cases found

/-- A source is read from its own spelling and from no other value. -/
theorem deserialize_eq_ok_iff {toml : Toml} {external : External} :
    deserialize toml = .ok external ↔ external.spelling = some toml := by
  constructor
  · intro read
    unfold deserialize at read
    split at read
    · next found tag =>
        cases read
        exact tagged_eq_some tag
    · split at read
      · cases read
        rfl
      · cases read
  · intro spelled
    cases external with
    | value text =>
        cases spelled
        rfl
    | file path =>
        obtain ⟨text, decoded, rfl⟩ := Option.map_eq_some_iff.mp spelled
        rw [OsString.toStr_eq_some_iff.mp decoded]
        rfl
    | env name =>
        cases spelled
        rfl

/-! ## Loaded values -/

/-- The text that a value of a document stands for. -/
inductive Provides (surroundings : Surroundings OsError) : Toml → Str → Prop where
  | literal {text : Str} : Provides surroundings (.string text) text
  | file {path text : Str} :
      surroundings.files (OsString.ofStr path) = .ok (OsString.ofStr text) →
        Provides surroundings (.table [("file".toList, .string path)]) text
  | env {name text : Str} :
      surroundings.environment name = some (OsString.ofStr text) →
        Provides surroundings (.table [("env".toList, .string name)]) text

variable {surroundings : Surroundings OsError}

private theorem mapError_eq_ok_iff {ε ε' α : Type} {change : ε → ε'} {result : Except ε α}
    {value : α} : result.mapError change = .ok value ↔ result = .ok value := by
  cases result <;> simp [Except.mapError]

private theorem load_file_eq_ok_iff {path : OsString} {text : Str} :
    load surroundings (.file path) = .ok text ↔
      surroundings.files path = .ok (OsString.ofStr text) :=
  mapError_eq_ok_iff.trans Os.readToString_eq_ok_iff

private theorem load_env_eq_ok_iff {name text : Str} :
    load surroundings (.env name) = .ok text ↔
      surroundings.environment name = some (OsString.ofStr text) :=
  mapError_eq_ok_iff.trans Os.var_eq_ok_iff

/-- A value is loaded as a text exactly when the document provides that text: to the
last byte, and from the source that it names. -/
theorem loaded_iff (surroundings : Surroundings OsError) (toml : Toml) (text : Str) :
    (∃ external, deserialize toml = .ok external ∧ load surroundings external = .ok text) ↔
      Provides surroundings toml text := by
  simp only [deserialize_eq_ok_iff]
  constructor
  · intro found
    obtain ⟨external, spelled, loaded⟩ := found
    cases external with
    | value value =>
        cases spelled
        cases loaded
        exact .literal
    | file path =>
        obtain ⟨name, decoded, rfl⟩ := Option.map_eq_some_iff.mp spelled
        refine .file ?_
        rw [← OsString.toStr_eq_some_iff.mp decoded]
        exact load_file_eq_ok_iff.mp loaded
    | env name =>
        cases spelled
        exact .env (load_env_eq_ok_iff.mp loaded)
  · intro provided
    cases provided with
    | literal => exact ⟨.value text, rfl, rfl⟩
    | @file path _ read =>
        refine ⟨.file (OsString.ofStr path), ?_, load_file_eq_ok_iff.mpr read⟩
        simp [spelling]
    | @env name _ read => exact ⟨.env name, rfl, load_env_eq_ok_iff.mpr read⟩

/-! ## Failures -/

/-- Two reads that fail alike, if they fail. -/
inductive AlikeReads : Except OsError OsString → Except OsError OsString → Prop where
  | error (error : OsError) : AlikeReads (.error error) (.error error)
  | text (first second : Str) :
      AlikeReads (.ok (OsString.ofStr first)) (.ok (OsString.ofStr second))
  | bytes {first second : OsString} : first.toStr = none → second.toStr = none →
      AlikeReads (.ok first) (.ok second)

inductive AlikeVariables : Option OsString → Option OsString → Prop where
  | missing : AlikeVariables none none
  | text (first second : Str) :
      AlikeVariables (some (OsString.ofStr first)) (some (OsString.ofStr second))
  | bytes {first second : OsString} : first.toStr = none → second.toStr = none →
      AlikeVariables (some first) (some second)

/-- Surroundings in which the same sources fail, whatever they contain. -/
structure FailAlike (first second : Surroundings OsError) : Prop where
  files : ∀ path, AlikeReads (first.files path) (second.files path)
  environment : ∀ name, AlikeVariables (first.environment name) (second.environment name)

theorem AlikeReads.mapError {first second : Except OsError OsString}
    (alike : AlikeReads first second) (path : OsString) (error : LoadError OsError) :
    (Os.readToString first).mapError (LoadError.file path) = .error error ↔
      (Os.readToString second).mapError (LoadError.file path) = .error error := by
  cases alike with
  | error => exact Iff.rfl
  | text => simp [Os.readToString, Except.mapError]
  | bytes firstBytes secondBytes => simp [Os.readToString, firstBytes, secondBytes]

theorem AlikeVariables.mapError {first second : Option OsString}
    (alike : AlikeVariables first second) (name : Str) (error : LoadError OsError) :
    (Os.var first).mapError (envError name) = .error error ↔
      (Os.var second).mapError (envError name) = .error error := by
  cases alike with
  | missing => exact Iff.rfl
  | text => simp [Os.var, Except.mapError]
  | bytes firstBytes secondBytes =>
      simp [Os.var, firstBytes, secondBytes, Except.mapError, envError]

/-- A failure to load says nothing of what files and variables contain: it is the same
in all surroundings in which the same sources fail. -/
theorem load_error_iff {first second : Surroundings OsError} (alike : FailAlike first second)
    (external : External) (error : LoadError OsError) :
    load first external = .error error ↔ load second external = .error error := by
  cases external with
  | value text => exact Iff.rfl
  | file path => exact (alike.files path).mapError path error
  | env name => exact (alike.environment name).mapError name error

/-- Every file holds one byte that is not text, and no variable is set. -/
def unreadable (byte : UInt8) : Surroundings Unit := ⟨fun _ => .ok [byte], fun _ => none⟩

theorem load_error_iff_bytes :
    load (unreadable 0xFE) (.file (OsString.ofStr "token".toList)) =
      .error (.file (OsString.ofStr "token".toList) .invalidUtf8) := by
  have alike : FailAlike (unreadable 0xFF) (unreadable 0xFE) :=
    ⟨fun _ => .bytes (by decide) (by decide), fun _ => .missing⟩
  exact (load_error_iff alike (.file (OsString.ofStr "token".toList)) _).mp (by rfl)

end External

end Twelve
