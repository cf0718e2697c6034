import Mathlib.Data.List.Basic
import Twelve.Library.UnixPath
import Twelve.Os

/-! Where configuration is read from. A path that compares equal to `-` stands for
standard input, which is read to its end and is then empty. The parser of documents is
a parameter, as is the type that it deserializes. -/

set_option autoImplicit false

namespace Twelve.Config

open UnixPath (components)

inductive Location where
  | standardInput
  | file (path : OsString)
  deriving DecidableEq

def slash : UInt8 := 0x2F

def dot : UInt8 := 0x2E

def hyphen : UInt8 := 0x2D

/-- `Path::eq` compares components. -/
def Location.ofPath (path : OsString) : Location :=
  if components slash dot path = components slash dot [hyphen] then .standardInput else .file path

def Location.ofArgument (value : OsString) : Location := .ofPath value

/-- The reads of a process, each to the end of what it reads. A read may change what others
find: reading standard input drains it, by whichever name that is done. -/
structure Inputs (OsError : Type) where
  State : Type
  stdin : State → Except OsError OsString × State
  file : OsString → State → Except OsError OsString × State

/-- The arguments of the process that loads its configuration, and what there is to read. -/
structure Process {OsError : Type} (inputs : Inputs OsError) where
  argsOs : List OsString
  state : inputs.State

inductive Error (OsError TomlError : Type) where
  | missingPath
  | unexpectedArgument
  | read (location : Location) (source : ReadError OsError)
  | parse (location : Location) (source : TomlError)

section Loading

variable {OsError TomlError Value : Type} {inputs : Inputs OsError}

def Location.readToString (process : Process inputs) :
    Location → Except (ReadError OsError) Str × Process inputs
  | .standardInput =>
      let (read, state) := inputs.stdin process.state
      (Os.readToString read, { process with state })
  | .file path =>
      let (read, state) := inputs.file path process.state
      (Os.readToString read, { process with state })

variable (fromStr : Str → Except TomlError Value)

def deserialize (serialized : Str) (location : Location) : Except (Error OsError TomlError) Value :=
  (fromStr serialized).mapError (.parse location)

def loadLocation (location : Location) (process : Process inputs) :
    Except (Error OsError TomlError) Value × Process inputs :=
  match location.readToString process with
  | (.ok serialized, process) => (deserialize fromStr serialized location, process)
  | (.error source, process) => (.error (.read location source), process)

def load (path : OsString) (process : Process inputs) :
    Except (Error OsError TomlError) Value × Process inputs :=
  loadLocation fromStr (.ofPath path) process

def fromArgs (process : Process inputs) :
    Except (Error OsError TomlError) Value × Process inputs :=
  match process.argsOs.drop 1 with
  | [] => (.error .missingPath, process)
  | [path] => loadLocation fromStr (.ofArgument path) process
  | _ :: _ :: _ => (.error .unexpectedArgument, process)

/-- The loads of an application, one after the other. -/
def loadAll : List Location → Process inputs →
    List (Except (Error OsError TomlError) Value) × Process inputs
  | [], process => ([], process)
  | location :: rest, process =>
      let loaded := loadLocation fromStr location process
      let others := loadAll rest loaded.2
      (loaded.1 :: others.1, others.2)

end Loading

section Spelling

/-- The paths equal to `-`: a hyphen, and behind it pieces that paths do not count. -/
def SpellsInput (path : OsString) : Prop :=
  ∃ rest : List OsString, (∀ piece ∈ rest, piece = [] ∨ piece = [dot]) ∧
    path = hyphen :: rest.flatMap (slash :: ·)

theorem Location.ofPath_eq_standardInput_iff {path : OsString} :
    Location.ofPath path = .standardInput ↔ SpellsInput path := by
  have hyphenComponents : components slash dot [hyphen] = [.normal [hyphen]] := by decide
  have spelling : components slash dot path = [.normal [hyphen]] ↔ SpellsInput path :=
    UnixPath.components_eq_normal_iff (by decide) (by decide) (by decide) (by decide) (by decide)
  unfold Location.ofPath
  split
  · next same =>
      rw [hyphenComponents] at same
      exact iff_of_true rfl (spelling.mp same)
  · next different =>
      rw [hyphenComponents] at different
      exact iff_of_false (by simp) (fun spells => different (spelling.mpr spells))

end Spelling

section Properties

variable {OsError TomlError Value : Type} {inputs : Inputs OsError}
  {fromStr : Str → Except TomlError Value} {process : Process inputs}

theorem loadLocation_process (location : Location) :
    (loadLocation fromStr location process).2 = (location.readToString process).2 := by
  unfold loadLocation
  split
  · next read => rw [read]
  · next read => rw [read]

theorem loadLocation_eq_ok_iff {location : Location} {value : Value} :
    (loadLocation fromStr location process).1 = .ok value ↔
      ∃ text, (location.readToString process).1 = .ok text ∧ fromStr text = .ok value := by
  unfold loadLocation
  split
  · next text _ read =>
      rw [read]
      cases parsed : fromStr text <;> simp [deserialize, parsed, Except.mapError]
  · next failed =>
      rw [failed]
      simp

private theorem Location.ofPath_of_not_spells {path : OsString} (other : ¬ SpellsInput path) :
    Location.ofPath path = .file path := by
  unfold Location.ofPath
  split
  · next same => exact absurd (Location.ofPath_eq_standardInput_iff.mp (if_pos same)) other
  · rfl

theorem Location.readToString_eq_ok_iff {path : OsString} {text : Str} :
    ((Location.ofPath path).readToString process).1 = .ok text ↔
      (SpellsInput path ∧ (inputs.stdin process.state).1 = .ok (OsString.ofStr text)) ∨
        (¬ SpellsInput path ∧
          (inputs.file path process.state).1 = .ok (OsString.ofStr text)) := by
  by_cases spells : SpellsInput path
  · rw [Location.ofPath_eq_standardInput_iff.mpr spells]
    simp [spells, readToString, Os.readToString_eq_ok_iff]
  · rw [Location.ofPath_of_not_spells spells]
    simp [spells, readToString, Os.readToString_eq_ok_iff]

/-- A command line loads a value exactly when its one argument names an input that is
text, and that text deserializes to the value. -/
theorem fromArgs_eq_ok_iff (fromStr : Str → Except TomlError Value) (process : Process inputs)
    (value : Value) :
    (fromArgs fromStr process).1 = .ok value ↔
      ∃ path text, process.argsOs.drop 1 = [path] ∧ fromStr text = .ok value ∧
        ((SpellsInput path ∧ (inputs.stdin process.state).1 = .ok (OsString.ofStr text)) ∨
          (¬ SpellsInput path ∧
            (inputs.file path process.state).1 = .ok (OsString.ofStr text))) := by
  unfold fromArgs
  split
  · next none => simp [none]
  · next path only =>
      rw [only, Location.ofArgument, loadLocation_eq_ok_iff]
      simp only [Location.readToString_eq_ok_iff, List.cons.injEq, and_true]
      constructor
      · intro found
        obtain ⟨text, read, parsed⟩ := found
        exact ⟨path, text, rfl, parsed, read⟩
      · intro found
        obtain ⟨_, text, rfl, parsed, read⟩ := found
        exact ⟨text, read, parsed⟩
  · next first second rest more => simp [more]

/-- A command line leaves standard input empty exactly when it has one argument, and
that spells `-`: where standard input stays at its end once it was read to it, and reading
the file that the argument names leaves it alone. -/
theorem fromArgs_drains_iff {input : OsString}
    (available : (inputs.stdin process.state).1 = .ok input) (nonempty : input ≠ [])
    (drained : (inputs.stdin (inputs.stdin process.state).2).1 = .ok [])
    (apart : ∀ path, process.argsOs.drop 1 = [path] → ¬ SpellsInput path →
      (inputs.stdin (inputs.file path process.state).2).1 = (inputs.stdin process.state).1) :
    (inputs.stdin (fromArgs fromStr process).2.state).1 = .ok [] ↔
      ∃ path, process.argsOs.drop 1 = [path] ∧ SpellsInput path := by
  have kept : (inputs.stdin process.state).1 ≠ .ok [] := by
    rw [available]
    simpa using nonempty
  unfold fromArgs
  split
  · next none => simp [none, kept]
  · next path only =>
      simp only [only, List.cons.injEq, and_true, exists_eq_left']
      rw [Location.ofArgument, loadLocation_process]
      by_cases spells : SpellsInput path
      · rw [Location.ofPath_eq_standardInput_iff.mpr spells]
        exact iff_of_true drained spells
      · rw [Location.ofPath_of_not_spells spells]
        refine iff_of_false ?_ spells
        change (inputs.stdin (inputs.file path process.state).2).1 ≠ .ok []
        rw [apart path only spells]
        exact kept
  · next first second rest more => simp [more, kept]

/-- What is left of a pipe, beside files that hold their own names. -/
def pipe : Inputs Unit where
  State := OsString
  stdin left := (.ok left, [])
  file path left := (.ok path, left)

/-- A hyphen with a slash and a dot behind it, and one byte of input. -/
def inputProcess : Process pipe where
  argsOs := [OsString.ofStr "app".toList, [hyphen, slash, dot]]
  state := [dot]

def readText : Str → Except Unit Str := .ok

theorem fromArgs_drains_iff_input :
    (pipe.stdin (fromArgs readText inputProcess).2.state).1 = .ok [] :=
  (@fromArgs_drains_iff Unit Unit Str pipe readText inputProcess [dot] rfl (by decide) rfl
    fun _ _ _ => rfl).mpr ⟨[hyphen, slash, dot], rfl, [[dot]], by decide, rfl⟩

/-- Once standard input was read to its end it stays there, and the files that are named
are regular: reading one changes nothing, and what it holds does not depend on that. -/
structure Process.Regular (process : Process inputs) (named : List Location) : Prop where
  drained : inputs.stdin (inputs.stdin process.state).2 = (.ok [], (inputs.stdin process.state).2)
  unchanged : ∀ path, .file path ∈ named → (inputs.file path process.state).2 = process.state
  apart : ∀ path, .file path ∈ named → inputs.file path (inputs.stdin process.state).2 =
    ((inputs.file path process.state).1, (inputs.stdin process.state).2)

section Regular

variable {named : List Location} (regular : process.Regular named)
include regular

/-- After standard input was read, a load finds it empty and every file as it was. -/
theorem loadLocation_drained {location : Location} (member : location ∈ named) :
    loadLocation fromStr location { process with state := (inputs.stdin process.state).2 } =
      (if location = .standardInput then deserialize fromStr [] .standardInput
        else (loadLocation fromStr location process).1,
        { process with state := (inputs.stdin process.state).2 }) := by
  have empty : Os.readToString (.ok [] : Except OsError OsString) = .ok [] :=
    Os.readToString_eq_ok_iff.mpr rfl
  cases location with
  | standardInput => simp [loadLocation, Location.readToString, regular.drained, empty]
  | file path =>
      simp only [loadLocation, Location.readToString, regular.apart path member]
      cases Os.readToString (inputs.file path process.state).1 <;> rfl

private theorem loadAll_drained {locations : List Location}
    (listed : ∀ each ∈ locations, each ∈ named) :
    (loadAll fromStr locations { process with state := (inputs.stdin process.state).2 }).1 =
      locations.mapIdx fun _ location =>
        if location = .standardInput then deserialize fromStr [] .standardInput
        else (loadLocation fromStr location process).1 := by
  induction locations with
  | nil => rfl
  | cons location rest ih =>
      obtain ⟨first, others⟩ := List.forall_mem_cons.mp listed
      rw [loadAll, loadLocation_drained regular first, List.mapIdx_cons, ih others]

private theorem loadLocation_file_process {path : OsString} (member : .file path ∈ named) :
    (loadLocation fromStr (.file path) process).2 = process := by
  rw [loadLocation_process]
  change { process with state := (inputs.file path process.state).2 } = process
  rw [regular.unchanged path member]

private theorem loadAll_of_subset {locations : List Location}
    (listed : ∀ each ∈ locations, each ∈ named) :
    (loadAll fromStr locations process).1 = locations.mapIdx fun index location =>
      if location = .standardInput ∧ .standardInput ∈ locations.take index then
        deserialize fromStr [] .standardInput
      else (loadLocation fromStr location process).1 := by
  induction locations with
  | nil => rfl
  | cons location rest ih =>
      obtain ⟨first, others⟩ := List.forall_mem_cons.mp listed
      rw [loadAll, List.mapIdx_cons]
      cases location with
      | standardInput =>
          have after : (loadLocation fromStr .standardInput process).2 =
              { process with state := (inputs.stdin process.state).2 } :=
            loadLocation_process .standardInput
          rw [after, loadAll_drained regular others]
          simp
      | file path =>
          rw [loadLocation_file_process regular first, ih others]
          simp

end Regular

/-- Of several loads the first one from standard input gets its document, and the others
find it empty. Every load from a file has the outcome that it has alone. -/
theorem loadAll_eq (fromStr : Str → Except TomlError Value) {process : Process inputs}
    {locations : List Location} (regular : process.Regular locations) :
    (loadAll fromStr locations process).1 = locations.mapIdx fun index location =>
      if location = .standardInput ∧ .standardInput ∈ locations.take index then
        deserialize fromStr [] .standardInput
      else (loadLocation fromStr location process).1 :=
  loadAll_of_subset regular fun _ member => member

theorem inputProcess_regular (named : List Location) : inputProcess.Regular named where
  drained := rfl
  unchanged _ _ := rfl
  apart _ _ := rfl

/-- The second load from standard input finds nothing, and a file between them its name. -/
theorem loadAll_eq_input :
    (loadAll readText [.standardInput, .file [hyphen], .standardInput] inputProcess).1 =
      [.ok ".".toList, .ok "-".toList, .ok []] :=
  (loadAll_eq readText (inputProcess_regular _)).trans (by rfl)

end Properties

end Twelve.Config
