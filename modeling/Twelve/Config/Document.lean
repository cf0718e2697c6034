import Twelve.Config.Addresses
import Twelve.Library.Records
import Twelve.Urls.Extraction
import Twelve.Urls.Printing

/-! `Core` as a part of a configuration document, and what a document comes to for the
requests that are served with it. A table shows its entries to the derived deserializers
by their keys in order, wherever they stand in the document; the texts of the errors are
those of the types that are constructed. -/

set_option autoImplicit false

namespace Twelve

/-- A TOML value, as a deserializer is shown it. -/
inductive Toml where
  | string (text : Str)
  | integer (value : Int)
  | float (bits : UInt64)
  | boolean (value : Bool)
  | datetime (text : Str)
  | array (values : List Toml)
  | table (entries : List (Str × Toml))

/-- A table, which has no key twice and keeps its entries sorted by their keys. -/
structure Table where
  entries : List (Str × Toml)
  sorted : entries.Pairwise fun first second => first.1 < second.1

theorem Table.distinct (table : Table) : (table.entries.map Prod.fst).Nodup := by
  rw [List.nodup_iff_pairwise_ne, List.pairwise_map]
  refine table.sorted.imp ?_
  intro first second less same
  rw [same] at less
  exact List.lt_irrefl _ less

def Table.get (table : Table) (key : String) : Option Toml := table.entries.lookup key.toList

inductive DeserializeError where
  | invalidType (value : Toml)
  | custom (message : Str)
  | missingField (name : Str)
  | duplicateField (name : Str)

def ParsePublicUrlError.message {http : UriCrate} : ParsePublicUrlError http → Str
  | .invalid _ => "invalid public URL".toList
  | .origin => "public URL requires an HTTP(S) scheme and host".toList
  | .queryOrFragment => "public URL must not contain a query or fragment".toList

def Toml.asString : Toml → Except DeserializeError Str
  | .string text => .ok text
  | value => .error (.invalidType value)

/-- The derived implementation of `#[serde(try_from = "String")]`. -/
def Toml.tryFrom {α ε : Type} (tryFrom : Str → Except ε α) (message : ε → Str) (value : Toml) :
    Except DeserializeError α :=
  match value.asString with
  | .error error => .error error
  | .ok text => (tryFrom text).mapError fun error => .custom (message error)

theorem Toml.tryFrom_eq_ok_iff {α ε : Type} {tryFrom : Str → Except ε α} {message : ε → Str}
    {value : Toml} {result : α} :
    value.tryFrom tryFrom message = .ok result ↔
      ∃ text, value = .string text ∧ tryFrom text = .ok result := by
  cases value with
  | string text =>
      cases parsed : tryFrom text <;> simp [Toml.tryFrom, asString, parsed, Except.mapError]
  | _ => simp [Toml.tryFrom, asString]

namespace Core

variable {http : UriCrate} {EnvFilter ParseError : Type}

inductive Field where
  | listenAddress
  | publicUrl
  | logFilter
  deriving DecidableEq

def Field.name : Field → Str
  | .listenAddress => "listen_address".toList
  | .publicUrl => "public_url".toList
  | .logFilter => "log_filter".toList

def Field.ofName (key : Str) : Option Field :=
  if key = Field.listenAddress.name then some .listenAddress
  else if key = Field.publicUrl.name then some .publicUrl
  else if key = Field.logFilter.name then some .logFilter
  else none

theorem Field.ofName_eq_some_iff (key : Str) (field : Field) :
    Field.ofName key = some field ↔ key = field.name := by
  constructor
  · intro known
    unfold Field.ofName at known
    split at known
    · next same =>
        cases known
        exact same
    · split at known
      · next same =>
          cases known
          exact same
      · split at known
        · next same =>
            cases known
            exact same
        · cases known
  · intro same
    subst same
    cases field <;> decide

section Deserialize

variable (filters : FilterCrate EnvFilter ParseError)

abbrev Slot (http : UriCrate) (EnvFilter : Type) : Field → Type
  | .listenAddress => ListenAddress SocketAddr OsString
  | .publicUrl => Option (PublicUrl http)
  | .logFilter => LogFilter EnvFilter

/-- The value of a field. A value that is present is never no public URL. -/
def readField : (field : Field) → Toml →
    Except DeserializeError (Slot http EnvFilter field)
  | .listenAddress, value =>
      value.tryFrom ListenAddress.tryFrom fun _ => ParseListenAddressError.message
  | .publicUrl, value =>
      (value.tryFrom PublicUrl.tryFrom ParsePublicUrlError.message).map some
  | .logFilter, value => value.tryFrom (LogFilter.tryFrom filters) filters.message

def reader : RecordReader Field Str Toml DeserializeError (Slot http EnvFilter) where
  name := Field.name
  field := Field.ofName
  field_eq_some_iff := Field.ofName_eq_some_iff
  read := readField filters
  duplicate field := .duplicateField field.name

/-- What the derived visitor makes of the slots. A default is constructed only where it is
needed, and a missing field comes first. -/
def assemble (listenAddress : Option (ListenAddress SocketAddr OsString))
    (publicUrl : Option (Option (PublicUrl http))) (logFilter : Option (LogFilter EnvFilter)) :
    Except Panic (Except DeserializeError (Core http SocketAddr OsString EnvFilter)) :=
  match listenAddress with
  | none => .ok (.error (.missingField Field.listenAddress.name))
  | some listenAddress =>
      match logFilter with
      | some logFilter => .ok (.ok ⟨listenAddress, publicUrl.getD none, logFilter⟩)
      | none => (LogFilter.default filters).map fun logFilter =>
          .ok ⟨listenAddress, publicUrl.getD none, logFilter⟩

def deserialize (table : Table) :
    Except Panic (Except DeserializeError (Core http SocketAddr OsString EnvFilter)) :=
  match (reader filters).readAll table.entries with
  | .error error => .ok (.error error)
  | .ok slots =>
      assemble filters (slots .listenAddress) (slots .publicUrl) (slots .logFilter)

end Deserialize

/-! ## Accepted documents -/

/-- A document that stands for a configuration, whatever else it contains. -/
structure Configures (filters : FilterCrate EnvFilter ParseError) (table : Table)
    (core : Core http SocketAddr OsString EnvFilter) : Prop where
  listenAddress : ∃ text, table.get "listen_address" = some (.string text) ∧
    ListenAddress.fromStr text = .ok core.listenAddress
  publicUrl : (table.get "public_url" = none ∧ core.publicUrl = none) ∨
    ∃ text url, table.get "public_url" = some (.string text) ∧
      PublicUrl.fromStr text = .ok url ∧ core.publicUrl = some url
  logFilter : (table.get "log_filter" = none ∧ LogFilter.default filters = .ok core.logFilter) ∨
    ∃ text, table.get "log_filter" = some (.string text) ∧
      LogFilter.fromStr filters text = .ok core.logFilter

variable {filters : FilterCrate EnvFilter ParseError} {table : Table}
  {core : Core http SocketAddr OsString EnvFilter}

theorem readAll_eq_ok_iff
    {slots : (field : Field) → Option (Slot http EnvFilter field)} :
    (reader filters).readAll table.entries = .ok slots ↔
      ((table.get "listen_address").mapM (readField filters .listenAddress) =
        .ok (slots .listenAddress)) ∧
      ((table.get "public_url").mapM (readField filters .publicUrl) =
        .ok (slots .publicUrl)) ∧
      ((table.get "log_filter").mapM (readField filters .logFilter) =
        .ok (slots .logFilter)) := by
  refine (RecordReader.readAll_eq_ok_iff table.distinct).trans ?_
  constructor
  · intro every
    exact ⟨every .listenAddress, every .publicUrl, every .logFilter⟩
  · intro fields named
    obtain ⟨listenAddress, publicUrl, logFilter⟩ := fields
    cases named with
    | listenAddress => exact listenAddress
    | publicUrl => exact publicUrl
    | logFilter => exact logFilter

theorem assemble_eq_ok_iff {listenAddress : Option (ListenAddress SocketAddr OsString)}
    {publicUrl : Option (Option (PublicUrl http))} {logFilter : Option (LogFilter EnvFilter)} :
    assemble filters listenAddress publicUrl logFilter = .ok (.ok core) ↔
      listenAddress = some core.listenAddress ∧
        (publicUrl = some core.publicUrl ∨ publicUrl = none ∧ core.publicUrl = none) ∧
        (logFilter = some core.logFilter ∨
          logFilter = none ∧ LogFilter.default filters = .ok core.logFilter) := by
  obtain ⟨coreAddress, corePublicUrl, coreFilter⟩ := core
  have filled : publicUrl.getD none = corePublicUrl ↔
      publicUrl = some corePublicUrl ∨ publicUrl = none ∧ corePublicUrl = none := by
    cases publicUrl with
    | none => simp [eq_comm]
    | some publicUrl => simp
  rw [← filled]
  unfold assemble
  cases listenAddress with
  | none => simp
  | some listenAddress =>
      cases logFilter with
      | some logFilter => simp [and_comm]
      | none =>
          cases LogFilter.default filters with
          | error panic => simp [Except.map]
          | ok logFilter => simp [Except.map]

private theorem slot_tryFrom_iff {α ε : Type} {tryFrom : Str → Except ε α} {message : ε → Str}
    {found : Option Toml} {value : α} {absent : Prop} :
    (∃ slot, found.mapM (·.tryFrom tryFrom message) = .ok slot ∧
        (slot = some value ∨ slot = none ∧ absent)) ↔
      found = none ∧ absent ∨ ∃ text, found = some (.string text) ∧ tryFrom text = .ok value := by
  rw [RecordReader.exists_slot_iff]
  refine or_congr_right ?_
  constructor
  · intro read
    obtain ⟨given, same, accepted⟩ := read
    obtain ⟨text, rfl, parsed⟩ := Toml.tryFrom_eq_ok_iff.mp accepted
    exact ⟨text, same, parsed⟩
  · intro read
    obtain ⟨text, same, parsed⟩ := read
    exact ⟨_, same, Toml.tryFrom_eq_ok_iff.mpr ⟨text, rfl, parsed⟩⟩

variable (filters) in
theorem slot_publicUrl_iff {found : Option Toml} {value : Option (PublicUrl http)} :
    (∃ slot : Option (Option (PublicUrl http)),
        found.mapM (readField filters .publicUrl) = .ok slot ∧
          (slot = some value ∨ slot = none ∧ value = none)) ↔
      found = none ∧ value = none ∨
        ∃ text url, found = some (.string text) ∧ PublicUrl.fromStr text = .ok url ∧
          value = some url := by
  refine RecordReader.exists_slot_iff.trans (or_congr_right ?_)
  constructor
  · intro read
    obtain ⟨given, same, accepted⟩ := read
    change (given.tryFrom PublicUrl.tryFrom _).map some = .ok value at accepted
    cases outcome : given.tryFrom (@PublicUrl.tryFrom http) ParsePublicUrlError.message with
    | error error =>
        rw [outcome] at accepted
        cases accepted
    | ok url =>
        rw [outcome] at accepted
        cases accepted
        obtain ⟨text, rfl, parsed⟩ := Toml.tryFrom_eq_ok_iff.mp outcome
        exact ⟨text, url, same, parsed, rfl⟩
  · intro read
    obtain ⟨text, url, same, parsed, rfl⟩ := read
    have accepted : (Toml.string text).tryFrom (@PublicUrl.tryFrom http)
        ParsePublicUrlError.message = .ok url := Toml.tryFrom_eq_ok_iff.mpr ⟨text, rfl, parsed⟩
    refine ⟨_, same, ?_⟩
    change ((Toml.string text).tryFrom PublicUrl.tryFrom _).map some = _
    rw [accepted]
    rfl

private theorem configures_iff :
    Configures filters table core ↔
      (∃ slot : Option (ListenAddress SocketAddr OsString), (table.get "listen_address").mapM
          (·.tryFrom ListenAddress.tryFrom fun _ => ParseListenAddressError.message) =
            .ok slot ∧ (slot = some core.listenAddress ∨ slot = none ∧ False)) ∧
      (∃ slot : Option (Option (PublicUrl http)),
        (table.get "public_url").mapM (readField filters .publicUrl) = .ok slot ∧
          (slot = some core.publicUrl ∨ slot = none ∧ core.publicUrl = none)) ∧
      (∃ slot : Option (LogFilter EnvFilter), (table.get "log_filter").mapM
          (·.tryFrom (LogFilter.tryFrom filters) filters.message) = .ok slot ∧
            (slot = some core.logFilter ∨
              slot = none ∧ LogFilter.default filters = .ok core.logFilter)) := by
  rw [slot_tryFrom_iff, slot_tryFrom_iff, slot_publicUrl_iff]
  simp only [and_false, false_or]
  exact ⟨fun configures => ⟨configures.listenAddress, configures.publicUrl, configures.logFilter⟩,
    fun fields => ⟨fields.1, fields.2.1, fields.2.2⟩⟩

/-- A document is accepted exactly when it stands for a configuration. -/
theorem deserialize_eq_ok_iff :
    deserialize filters table = .ok (.ok core) ↔ Configures filters table core := by
  rw [configures_iff]
  constructor
  · intro accepted
    unfold deserialize at accepted
    split at accepted
    · cases accepted
    · next slots read =>
        obtain ⟨listenAddress, publicUrl, logFilter⟩ := assemble_eq_ok_iff.mp accepted
        obtain ⟨readAddress, readUrl, readFilter⟩ := readAll_eq_ok_iff.mp read
        exact ⟨⟨_, readAddress, .inl listenAddress⟩, ⟨_, readUrl, publicUrl⟩,
          ⟨_, readFilter, logFilter⟩⟩
  · intro fields
    obtain ⟨⟨listenAddress, readAddress, given⟩, ⟨publicUrl, readUrl, urlGiven⟩,
      ⟨logFilter, readFilter, filterGiven⟩⟩ := fields
    let slots : (field : Field) → Option (Slot http EnvFilter field)
      | .listenAddress => listenAddress
      | .publicUrl => publicUrl
      | .logFilter => logFilter
    have read : (reader filters).readAll table.entries = .ok slots :=
      readAll_eq_ok_iff.mpr ⟨readAddress, readUrl, readFilter⟩
    rw [deserialize, read]
    exact assemble_eq_ok_iff.mpr ⟨given.resolve_right And.right, urlGiven, filterGiven⟩

/-! ## Rejected documents -/

theorem assemble_eq_error_iff {listenAddress : Option (ListenAddress SocketAddr OsString)}
    {publicUrl : Option (Option (PublicUrl http))} {logFilter : Option (LogFilter EnvFilter)}
    {error : DeserializeError} :
    assemble filters listenAddress publicUrl logFilter = .ok (.error error) ↔
      listenAddress = none ∧ error = .missingField Field.listenAddress.name := by
  unfold assemble
  cases listenAddress with
  | none => simp [eq_comm]
  | some listenAddress =>
      cases logFilter with
      | some logFilter => simp
      | none => cases LogFilter.default filters <;> simp [Except.map]

/-- The error of an unreadable entry, whose key is the least of all unreadable ones. -/
def FirstUnreadable (http : UriCrate) (filters : FilterCrate EnvFilter ParseError) (table : Table)
    (error : DeserializeError) : Prop :=
  ∃ entry ∈ table.entries, (@reader http _ _ filters).Fails entry error ∧
    ∀ other ∈ table.entries, other.1 < entry.1 →
      ∀ error, ¬ (@reader http _ _ filters).Fails other error

theorem readAll_eq_error_iff {error : DeserializeError} :
    (@reader http _ _ filters).readAll table.entries = .error error ↔
      FirstUnreadable http filters table error := by
  have asymm : ∀ first second : Str, first < second → ¬ second < first :=
    fun _ _ => List.lt_asymm
  rw [RecordReader.readAll_eq_error_iff table.distinct]
  exact RecordReader.firstFailure_iff_of_sorted asymm table.sorted

/-- What a rejected document is rejected for: the unreadable entry that is first by its key,
or else a missing address to listen at. -/
theorem deserialize_eq_error_iff {error : DeserializeError} :
    deserialize filters table = (.ok (.error error) :
        Except Panic (Except DeserializeError (Core http SocketAddr OsString EnvFilter))) ↔
      FirstUnreadable http filters table error ∨
        (∀ other, ¬ FirstUnreadable http filters table other) ∧
          table.get "listen_address" = none ∧
            error = .missingField Field.listenAddress.name := by
  simp only [← readAll_eq_error_iff]
  unfold deserialize
  split
  · next other failed =>
      rw [failed]
      simp
  · next slots read =>
      have absent := RecordReader.slot_eq_none_iff (readAll_eq_ok_iff.mp read).1
      rw [read]
      refine assemble_eq_error_iff.trans ?_
      rw [absent]
      simp

theorem assemble_eq_panic_iff {listenAddress : Option (ListenAddress SocketAddr OsString)}
    {publicUrl : Option (Option (PublicUrl http))} {logFilter : Option (LogFilter EnvFilter)}
    {panic : Panic} :
    assemble filters listenAddress publicUrl logFilter = .error panic ↔
      listenAddress ≠ none ∧ logFilter = none ∧ LogFilter.default filters = .error panic := by
  unfold assemble
  cases listenAddress with
  | none => simp
  | some listenAddress =>
      cases logFilter with
      | some logFilter => simp
      | none => cases LogFilter.default filters <;> simp [Except.map]

/-- A document panics only where the default filter is needed and is not valid. -/
theorem deserialize_eq_panic_iff {panic : Panic} :
    deserialize filters table = (.error panic :
        Except Panic (Except DeserializeError (Core http SocketAddr OsString EnvFilter))) ↔
      (∀ other, ¬ FirstUnreadable http filters table other) ∧
        table.get "listen_address" ≠ none ∧ table.get "log_filter" = none ∧
          LogFilter.default filters = .error panic := by
  simp only [← readAll_eq_error_iff]
  unfold deserialize
  split
  · next other failed =>
      rw [failed]
      simp
  · next slots read =>
      obtain ⟨readAddress, -, readFilter⟩ := readAll_eq_ok_iff.mp read
      have noAddress := RecordReader.slot_eq_none_iff readAddress
      have noFilter := RecordReader.slot_eq_none_iff readFilter
      rw [read]
      refine assemble_eq_panic_iff.trans ?_
      rw [ne_eq, noAddress, noFilter]
      simp

/-- Whatever a document contains, it is accepted for what it configures, rejected for the
unreadable entry that is first by its key or else for a missing address, or fails on the
default filter. -/
theorem deserialize_outcome (filters : FilterCrate EnvFilter ParseError) (table : Table) :
    let outcome :
        Except Panic (Except DeserializeError (Core http SocketAddr OsString EnvFilter)) :=
      deserialize filters table
    let unreadable := FirstUnreadable http filters table
    (∀ core, outcome = .ok (.ok core) ↔ Configures filters table core) ∧
      (∀ error, outcome = .ok (.error error) ↔ unreadable error ∨
        (∀ other, ¬ unreadable other) ∧ table.get "listen_address" = none ∧
          error = .missingField Field.listenAddress.name) ∧
      ∀ panic, outcome = .error panic ↔ (∀ other, ¬ unreadable other) ∧
        table.get "listen_address" ≠ none ∧ table.get "log_filter" = none ∧
          LogFilter.default filters = .error panic :=
  ⟨fun _ => deserialize_eq_ok_iff, fun _ => deserialize_eq_error_iff,
    fun _ => deserialize_eq_panic_iff⟩

/-! ## Served requests -/

/-- An application that registers the URL source of its configuration extracts its URLs
from every request without a panic and without an internal error: the configured ones, or
else those of the request. -/
theorem configured_extraction {grammar : UriGrammar} (laws : http.Laws grammar)
    (accepted : deserialize filters table = .ok (.ok core)) :
    (∀ headers, ExtractionSafe ⟨headers, some core.urlSource⟩) ∧
      (table.get "public_url" = none → core.urls = none ∧
        ∀ headers, Urls.fromRequestParts ⟨headers, some core.urlSource⟩ =
          .ok (Urls.automatic http headers)) ∧
      (table.get "public_url" ≠ none → ∃ urls, core.urls = some (.ok urls) ∧
        ∀ headers, Urls.fromRequestParts ⟨headers, some core.urlSource⟩ = .ok (.ok urls)) := by
  obtain ⟨-, configured, -⟩ := deserialize_eq_ok_iff.mp accepted
  cases configured with
  | inl omitted =>
      obtain ⟨absent, unset⟩ := omitted
      have source : core.urlSource = .automatic := by simp [urlSource, unset]
      refine ⟨?_, ?_, fun present => absurd absent present⟩
      · intro headers
        rw [source]
        exact Urls.extraction_safe_of_constructed laws .automatic
      · intro _
        refine ⟨by simp [urls, unset], ?_⟩
        intro headers
        rw [source]
        rfl
  | inr given =>
      obtain ⟨text, url, present, parsed, set⟩ := given
      have source : core.urlSource = .explicit url := by simp [urlSource, set]
      obtain ⟨built, returns⟩ := Urls.fromPublicUrl_returns laws parsed
      refine ⟨?_, ?_, ?_⟩
      · intro headers
        rw [source]
        exact Urls.extraction_safe_of_constructed laws (.explicit parsed)
      · intro absent
        rw [present] at absent
        cases absent
      · intro _
        refine ⟨built, by simp [urls, set, returns], ?_⟩
        intro headers
        rw [source]
        simp [Urls.fromRequestParts, returns, Except.map]

end Core

section Example

def anyFilter : FilterCrate Str Unit := ⟨.ok, fun _ => []⟩

def socketTable : Table where
  entries := [("frontend".toList, .string "/srv/frontend".toList),
    ("listen_address".toList, .string "/run/app.sock".toList),
    ("public_url".toList, .string "https://example.com/app/".toList)]
  sorted := by decide

def appCore : Core ReferenceUri.crate SocketAddr OsString Str where
  listenAddress := .unix (OsString.ofStr "/run/app.sock".toList)
  publicUrl := some ⟨ReferenceUri.Uri.mk (some Scheme.https) (some ⟨"example.com".toList⟩)
    "/app/".toList, by rfl⟩
  logFilter := ⟨LogFilter.defaultText⟩

theorem configured_extraction_app : ∃ urls, appCore.urls = some (.ok urls) ∧
    ∀ headers, Urls.fromRequestParts ⟨headers, some appCore.urlSource⟩ = .ok (.ok urls) := by
  have accepted : Core.deserialize anyFilter socketTable =
      .ok (.ok appCore) := by rfl
  exact (Core.configured_extraction ReferenceUri.laws accepted).2.2 (by decide)

end Example

end Twelve
