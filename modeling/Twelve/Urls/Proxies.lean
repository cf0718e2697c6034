import Twelve.Library.FieldEdits
import Twelve.Urls.Automatic

/-! Detection behind a reverse proxy. A proxy sets or removes some header fields of every
request and passes the others on. It is safe when what is detected does not depend on the
client, and it can stand in for a configured address when that address is header text. -/

set_option autoImplicit false

namespace Twelve

abbrev Proxy := HeaderName → Option (List HeaderValue)

namespace Proxy

/-- The proxy sets or removes the field. -/
def Decides (proxy : Proxy) (name : HeaderName) : Prop := proxy name ≠ none

/-- The first host field that is there comes from the proxy. -/
inductive DecidesHost (proxy : Proxy) : Prop where
  | forwarded {value : HeaderValue} {rest : List HeaderValue}
      (sets : proxy HeaderName.xForwardedHost = some (value :: rest)) : DecidesHost proxy
  | original (removes : proxy HeaderName.xForwardedHost = some [])
      (decides : proxy.Decides HeaderName.host) : DecidesHost proxy

/-- The prefix or the scheme that the proxy sends cannot be read. -/
def Unreadable (proxy : Proxy) : Prop :=
  Urls.readScriptName (Multimap.empty.edit proxy) = none ∨
    Urls.readScheme (Multimap.empty.edit proxy) = none

end Proxy

namespace Urls

variable {proxy : Proxy} {headers : HeaderMap}

theorem readScriptName_congr {first second : HeaderMap}
    (same : first.get HeaderName.xScriptName = second.get HeaderName.xScriptName) :
    readScriptName first = readScriptName second := by
  rw [readScriptName, same, readScriptName]

theorem readScheme_congr {first second : HeaderMap}
    (same : first.get HeaderName.xForwardedProto = second.get HeaderName.xForwardedProto) :
    readScheme first = readScheme second := by
  rw [readScheme, same, readScheme]

theorem readAuthority_congr {first second : HeaderMap}
    (forwarded : first.get HeaderName.xForwardedHost = second.get HeaderName.xForwardedHost)
    (original : first.get HeaderName.xForwardedHost = none →
      first.get HeaderName.host = second.get HeaderName.host) :
    readAuthority first = readAuthority second := by
  rw [readAuthority, readAuthority, ← forwarded]
  cases found : first.get HeaderName.xForwardedHost with
  | some value => rfl
  | none => rw [original found]

private theorem outcome_eq_badGateway_iff {http : UriCrate} {scriptName text : Option Str}
    {scheme : Option Scheme} :
    outcome http scriptName scheme text = .error StatusCode.badGateway ↔
      scriptName = none ∨ scheme = none := by
  have apart : StatusCode.badRequest ≠ StatusCode.badGateway := by decide
  cases scriptName with
  | none => simp [outcome]
  | some scriptName =>
      cases scheme with
      | none => simp [outcome]
      | some scheme =>
          cases text with
          | none => simp [outcome, apart]
          | some text =>
              rw [outcome]
              split <;> simp [apart]

/-! ## What a proxy decides -/

theorem readScriptName_edit (decides : proxy.Decides HeaderName.xScriptName)
    (first second : HeaderMap) :
    readScriptName (first.edit proxy) = readScriptName (second.edit proxy) :=
  readScriptName_congr (Multimap.get_edit_eq decides first second)

theorem readScheme_edit (decides : proxy.Decides HeaderName.xForwardedProto)
    (first second : HeaderMap) : readScheme (first.edit proxy) = readScheme (second.edit proxy) :=
  readScheme_congr (Multimap.get_edit_eq decides first second)

theorem readAuthority_edit (decides : proxy.DecidesHost) (first second : HeaderMap) :
    readAuthority (first.edit proxy) = readAuthority (second.edit proxy) := by
  cases decides with
  | @forwarded value rest sets =>
      have found := fun headers : HeaderMap => Multimap.get_edit_of_some sets headers
      refine readAuthority_congr ((found first).trans (found second).symm) ?_
      intro absent
      rw [found] at absent
      cases absent
  | original removes decides =>
      have absent := fun headers : HeaderMap => Multimap.get_edit_of_some removes headers
      exact readAuthority_congr ((absent first).trans (absent second).symm) fun _ =>
        Multimap.get_edit_eq decides first second

/-- A prefix or a scheme that cannot be read is the same for every client. -/
theorem edit_of_unreadable (unreadable : proxy.Unreadable) (headers : HeaderMap) :
    readScriptName (headers.edit proxy) = none ∨ readScheme (headers.edit proxy) = none := by
  cases unreadable with
  | inl scriptName =>
      have decides : proxy.Decides HeaderName.xScriptName := by
        intro passes
        rw [readScriptName_congr (Multimap.get_edit_of_none passes _)] at scriptName
        cases scriptName
      exact .inl ((readScriptName_edit decides _ _).trans scriptName)
  | inr scheme =>
      have decides : proxy.Decides HeaderName.xForwardedProto := by
        intro passes
        rw [readScheme_congr (Multimap.get_edit_of_none passes _)] at scheme
        cases scheme
      exact .inr ((readScheme_edit decides _ _).trans scheme)

/-- A client whose prefix and scheme can be read keeps both behind a proxy that does
not spoil them. -/
theorem edit_of_readable (readable : ¬ proxy.Unreadable)
    (scriptName : readScriptName headers ≠ none) (scheme : readScheme headers ≠ none) :
    readScriptName (headers.edit proxy) ≠ none ∧ readScheme (headers.edit proxy) ≠ none := by
  obtain ⟨sentName, sentScheme⟩ := not_or.mp readable
  constructor
  · by_cases passes : proxy HeaderName.xScriptName = none
    · rwa [readScriptName_congr (Multimap.get_edit_of_none passes headers)]
    · rwa [readScriptName_edit passes headers Multimap.empty]
  · by_cases passes : proxy HeaderName.xForwardedProto = none
    · rwa [readScheme_congr (Multimap.get_edit_of_none passes headers)]
    · rwa [readScheme_edit passes headers Multimap.empty]

/-! ## Safe detection -/

/-- A value of a client that is no text. -/
def garbage : HeaderValue := ⟨[0xFF], by decide⟩

private theorem toStr_garbage : garbage.toStr = none := rfl

section Safety

variable {http : UriCrate} {grammar : UriGrammar}

def Safe (http : UriCrate) (proxy : Proxy) : Prop :=
  ∀ first second : HeaderMap,
    fromRequestParts (⟨first.edit proxy, some .automatic⟩ : Parts http) =
      fromRequestParts (⟨second.edit proxy, some .automatic⟩ : Parts http)

variable (laws : http.Laws grammar)
include laws

theorem Safe.outcome (safe : Safe http proxy) (first second : HeaderMap) :
    outcome http (readScriptName (first.edit proxy)) (readScheme (first.edit proxy))
        (readAuthority (first.edit proxy)) =
      outcome http (readScriptName (second.edit proxy)) (readScheme (second.edit proxy))
        (readAuthority (second.edit proxy)) := by
  rw [← automatic_eq_outcome laws, ← automatic_eq_outcome laws]
  exact Except.ok.inj (safe first second)

private theorem safe_of_unreadable (unreadable : proxy.Unreadable) : Safe http proxy := by
  intro first second
  refine congrArg Except.ok ?_
  rw [automatic_eq_outcome laws, automatic_eq_outcome laws,
    outcome_eq_badGateway_iff.mpr (edit_of_unreadable unreadable first),
    outcome_eq_badGateway_iff.mpr (edit_of_unreadable unreadable second)]

private theorem safe_of_decides (scriptName : proxy.Decides HeaderName.xScriptName)
    (scheme : proxy.Decides HeaderName.xForwardedProto) (host : proxy.DecidesHost) :
    Safe http proxy := by
  intro first second
  refine congrArg Except.ok ?_
  rw [automatic_eq_outcome laws, automatic_eq_outcome laws, readScriptName_edit scriptName first,
    readScheme_edit scheme first, readAuthority_edit host first]

section Client

variable (safe : Safe http proxy) (readable : ¬ proxy.Unreadable)
  (scriptName : readScriptName headers ≠ none) (scheme : readScheme headers ≠ none)
include safe readable scriptName scheme

/-- Since one client can be read, no client spoils its prefix or its scheme. -/
theorem Safe.unspoiled (client : HeaderMap) :
    ¬ (readScriptName (client.edit proxy) = none ∨ readScheme (client.edit proxy) = none) := by
  intro spoiled
  have refused := safe.outcome laws client headers
  rw [outcome_eq_badGateway_iff.mpr spoiled] at refused
  obtain ⟨keptName, keptScheme⟩ := edit_of_readable readable scriptName scheme
  exact (outcome_eq_badGateway_iff.mp refused.symm).elim keptName keptScheme

/-- Where the proxy passes the prefix on, a client can spoil it. -/
theorem Safe.decides_scriptName : proxy.Decides HeaderName.xScriptName := by
  intro passes
  let client := headers.setAll HeaderName.xScriptName [garbage]
  refine Safe.unspoiled laws safe readable scriptName scheme client (.inl ?_)
  rw [readScriptName_congr (Multimap.get_edit_of_none passes client), readScriptName,
    Multimap.get, Multimap.getAll_setAll_self]
  exact toStr_garbage

theorem Safe.decides_scheme : proxy.Decides HeaderName.xForwardedProto := by
  intro passes
  let client := headers.setAll HeaderName.xForwardedProto [garbage]
  refine Safe.unspoiled laws safe readable scriptName scheme client (.inr ?_)
  rw [readScheme_congr (Multimap.get_edit_of_none passes client), readScheme,
    Multimap.get, Multimap.getAll_setAll_self]
  rfl

/-- A client whose field is read as the host decides between two outcomes. -/
theorem Safe.not_reads {value : HeaderValue} {text : Str} (spelled : value.toStr = some text)
    (accepted : acceptsAuthority http text = true) (name : HeaderName) :
    ¬ ∀ value, readAuthority ((headers.setAll name [value]).edit proxy) = value.toStr := by
  intro reads
  have kept := fun value : HeaderValue =>
    not_or.mp (Safe.unspoiled laws safe readable scriptName scheme (headers.setAll name [value]))
  have same := safe.outcome laws (headers.setAll name [value]) (headers.setAll name [garbage])
  rw [reads, reads, spelled, toStr_garbage] at same
  obtain ⟨firstName, firstRead⟩ := Option.ne_none_iff_exists'.mp (kept value).1
  obtain ⟨firstScheme, firstKnown⟩ := Option.ne_none_iff_exists'.mp (kept value).2
  obtain ⟨secondName, secondRead⟩ := Option.ne_none_iff_exists'.mp (kept garbage).1
  obtain ⟨secondScheme, secondKnown⟩ := Option.ne_none_iff_exists'.mp (kept garbage).2
  rw [firstRead, firstKnown, secondRead, secondKnown, Urls.outcome, Urls.outcome,
    if_pos accepted] at same
  cases same

theorem Safe.decides_host {value : HeaderValue} {text : Str} (spelled : value.toStr = some text)
    (accepted : acceptsAuthority http text = true) : proxy.DecidesHost := by
  have conflict := Safe.not_reads laws safe readable scriptName scheme spelled accepted
  cases sets : proxy HeaderName.xForwardedHost with
  | none =>
      refine absurd ?_ (conflict HeaderName.xForwardedHost)
      intro value
      rw [readAuthority, Multimap.get_edit_of_none sets, Multimap.get, Multimap.getAll_setAll_self]
      rfl
  | some values =>
      cases values with
      | cons value rest => exact .forwarded sets
      | nil =>
          refine .original sets ?_
          intro passes
          refine absurd ?_ (conflict HeaderName.host)
          intro value
          rw [readAuthority, Multimap.get_edit_of_some sets, Multimap.get_edit_of_none passes,
            Multimap.get, Multimap.getAll_setAll_self]
          rfl

end Client

/-- Behind a proxy no client decides what is detected exactly when the proxy sets or removes
the prefix and the scheme and provides the host, or spoils every request. -/
theorem detection_safe_iff {urls : Urls}
    (extracted : fromRequestParts (⟨headers, some .automatic⟩ : Parts http) = .ok (.ok urls)) :
    (∀ first second : HeaderMap,
      fromRequestParts (⟨first.edit proxy, some .automatic⟩ : Parts http) =
        fromRequestParts (⟨second.edit proxy, some .automatic⟩ : Parts http)) ↔
      proxy.Unreadable ∨ proxy.Decides HeaderName.xScriptName ∧
        proxy.Decides HeaderName.xForwardedProto ∧ proxy.DecidesHost := by
  constructor
  · intro safe
    obtain ⟨name, scheme, text, readName, readProto, readHost, accepted, -⟩ :=
      (automatic_eq_ok_iff laws).mp (Except.ok.inj extracted)
    obtain ⟨value, -, spelled⟩ := Option.bind_eq_some_iff.mp readHost
    have named : readScriptName headers ≠ none := readName ▸ Option.some_ne_none name
    have known : readScheme headers ≠ none := readProto ▸ Option.some_ne_none scheme
    by_cases unreadable : proxy.Unreadable
    · exact .inl unreadable
    · exact .inr ⟨Safe.decides_scriptName laws safe unreadable named known,
        Safe.decides_scheme laws safe unreadable named known,
        Safe.decides_host laws safe unreadable named known spelled accepted⟩
  · intro either
    cases either with
    | inl unreadable => exact safe_of_unreadable laws unreadable
    | inr decides => exact safe_of_decides laws decides.1 decides.2.1 decides.2.2

end Safety

/-! ## Proxies in place of a configured address -/

private theorem isHeaderChar_of_readScriptName {text : Str}
    (read : readScriptName headers = some text) : text.all isHeaderChar = true := by
  unfold readScriptName at read
  split at read
  · exact HeaderValue.isHeaderChar_of_toStr read
  · cases read
    decide

private theorem isHeaderChar_of_readAuthority {text : Str}
    (read : readAuthority headers = some text) : text.all isHeaderChar = true := by
  obtain ⟨value, -, spelled⟩ := Option.bind_eq_some_iff.mp read
  exact HeaderValue.isHeaderChar_of_toStr spelled

/-- An address behind `://` that headers can hold and extraction does not refuse. -/
structure Conveyable (rest : Str) : Prop where
  text : rest.all isHeaderChar = true
  unlisted : Str.containsAny (authorityPart rest) ['@', ',', '\\'] = false

def standIn (scriptName scheme authority : HeaderValue) : Proxy := fun name =>
  if name = HeaderName.xScriptName then some [scriptName]
  else if name = HeaderName.xForwardedProto then some [scheme]
  else if name = HeaderName.xForwardedHost then some [authority]
  else none

section StandIn

variable {scriptName scheme authority : HeaderValue}

private theorem readScriptName_standIn (headers : HeaderMap) :
    readScriptName (headers.edit (standIn scriptName scheme authority)) = scriptName.toStr := by
  have sets : standIn scriptName scheme authority HeaderName.xScriptName = some [scriptName] := by
    rfl
  rw [readScriptName, Multimap.get_edit_of_some sets]
  rfl

private theorem readScheme_standIn {known : Scheme} (headers : HeaderMap)
    (spelled : scheme.toStr = some known.asStr)
    (either : known = Scheme.http ∨ known = Scheme.https) :
    readScheme (headers.edit (standIn scriptName scheme authority)) = some known := by
  have sets : standIn scriptName scheme authority HeaderName.xForwardedProto = some [scheme] := by
    rfl
  rw [readScheme, Multimap.get_edit_of_some sets]
  simp only [List.head?_cons, spelled, Option.bind_some]
  cases either with
  | inl http =>
      subst http
      rfl
  | inr https =>
      subst https
      rfl

private theorem readAuthority_standIn (headers : HeaderMap) :
    readAuthority (headers.edit (standIn scriptName scheme authority)) = authority.toStr := by
  have sets : standIn scriptName scheme authority HeaderName.xForwardedHost = some [authority] := by
    rfl
  rw [readAuthority, Multimap.get_edit_of_some sets]
  rfl

end StandIn

section Conveyed

variable {http : UriCrate} {grammar : UriGrammar} (laws : http.Laws grammar)
include laws

private theorem conveyable_of_extracted {spelled rest : Str}
    (spells : SpellsPublicUrl http grammar spelled rest)
    (extracted : automatic http headers = .ok (ofSpelling spelled rest)) : Conveyable rest := by
  obtain ⟨scriptName, scheme, text, readName, -, readHost, accepted, same⟩ :=
    (automatic_eq_ok_iff laws).mp extracted
  have named := isHeaderChar_of_readScriptName readName
  have hosted := isHeaderChar_of_readAuthority readHost
  obtain ⟨unlisted, -⟩ := (acceptsAuthority_iff laws).mp accepted
  obtain rfl : authorityPart rest = text :=
    congrArg Authority.asStr (Origin.external.inj (congrArg Urls.origin same)).2
  obtain rfl : (ofSpelling spelled rest).scriptName = scriptName := congrArg Urls.scriptName same
  refine ⟨?_, unlisted⟩
  rw [← authorityPart_append_afterAuthority rest, List.all_append, hosted, Bool.true_and]
  cases spells.scriptName_eq with
  | inl whole => exact whole ▸ named
  | inr slash => simp [slash.1]

theorem Conveyable.extracted {spelled rest : Str} (conveyable : Conveyable rest)
    (spells : SpellsPublicUrl http grammar spelled rest) :
    ∃ proxy : Proxy, ∀ headers : HeaderMap,
      automatic http (headers.edit proxy) = .ok (ofSpelling spelled rest) := by
  have parts := conveyable.text
  rw [← authorityPart_append_afterAuthority rest, List.all_append, Bool.and_eq_true] at parts
  obtain ⟨hosted, pathed⟩ := parts
  have named : (ofSpelling spelled rest).scriptName.all isHeaderChar = true := by
    cases spells.scriptName_eq with
    | inl whole => exact whole ▸ pathed
    | inr slash =>
        rw [slash.2]
        decide
  have known : (⟨Str.toAsciiLowercase spelled⟩ : Scheme) = Scheme.http ∨
      (⟨Str.toAsciiLowercase spelled⟩ : Scheme) = Scheme.https :=
    (spellsHttp_iff rfl).mp spells.known
  have lettered : (Str.toAsciiLowercase spelled).all isHeaderChar = true := by
    rcases spells.known with lowered | lowered <;> rw [lowered] <;> decide
  refine ⟨standIn (.ofText _ named) (.ofText _ lettered) (.ofText _ hosted), ?_⟩
  intro headers
  refine (automatic_eq_ok_iff laws).mpr ⟨_, _, _, ?_, ?_, ?_, ?_, rfl⟩
  · exact (readScriptName_standIn headers).trans (HeaderValue.toStr_ofText named)
  · exact readScheme_standIn headers (HeaderValue.toStr_ofText lettered) known
  · exact (readAuthority_standIn headers).trans (HeaderValue.toStr_ofText hosted)
  · obtain ⟨parsed, accepted⟩ := spells.exists_authority
    obtain ⟨text⟩ := parsed
    obtain ⟨rfl, -⟩ := laws.authorityFromStr_ok _ _ accepted
    exact (acceptsAuthority_iff laws).mpr ⟨conveyable.unlisted, accepted⟩

/-- Some proxy makes detection extract a configured address from every request exactly when
the address is header text and its authority has no mark that extraction refuses. -/
theorem proxy_conveys_iff {value : Str} {url : PublicUrl http}
    (accepted : PublicUrl.fromStr value = .ok url) :
    (∃ proxy : Proxy, ∀ headers : HeaderMap,
      fromRequestParts (⟨headers.edit proxy, some .automatic⟩ : Parts http) =
        fromRequestParts ⟨headers, some (.explicit url)⟩) ↔
      ∃ spelled rest, value = spelled ++ "://".toList ++ rest ∧ SpellsHttp spelled ∧
        Conveyable rest := by
  constructor
  · intro conveyed
    obtain ⟨proxy, same⟩ := conveyed
    obtain ⟨spelled, rest, split, spells, built⟩ := PublicUrl.exists_spelling laws accepted
    have extracted := same Multimap.empty
    simp only [fromRequestParts, built] at extracted
    exact ⟨spelled, rest, split, spells.known,
      conveyable_of_extracted laws spells (Except.ok.inj extracted)⟩
  · intro found
    obtain ⟨spelled, rest, rfl, known, conveyable⟩ := found
    obtain ⟨spells, built⟩ := PublicUrl.uri_of_fromStr laws known accepted
    obtain ⟨proxy, extracted⟩ := conveyable.extracted laws spells
    refine ⟨proxy, fun headers => ?_⟩
    simp only [fromRequestParts, built, extracted]
    rfl

end Conveyed

/-- A proxy that removes the prefix and sets the host, and passes the scheme on. -/
def hostProxy : Proxy := fun name =>
  if name = HeaderName.xScriptName then some []
  else if name = HeaderName.xForwardedHost then some [.fromStatic "app.example"]
  else none

theorem detection_safe_iff_scheme : ¬ ∀ first second : HeaderMap,
    fromRequestParts (⟨first.edit hostProxy, some .automatic⟩ : Parts ReferenceUri.crate) =
      fromRequestParts (⟨second.edit hostProxy, some .automatic⟩ : Parts ReferenceUri.crate) := by
  have extracted : fromRequestParts (⟨headerLine HeaderName.host (.fromStatic "127.0.0.1:3000"),
      some .automatic⟩ : Parts ReferenceUri.crate) =
        .ok (.ok ⟨"/".toList, .external Scheme.http ⟨"127.0.0.1:3000".toList⟩⟩) := by rfl
  refine mt (detection_safe_iff ReferenceUri.laws extracted).mp ?_
  intro either
  cases either with
  | inl unreadable =>
      cases unreadable with
      | inl scriptName => cases scriptName
      | inr scheme => cases scheme
  | inr decides => exact decides.2.1 rfl

theorem proxy_conveys_iff_app : ∃ url : PublicUrl ReferenceUri.crate,
    PublicUrl.fromStr "https://app.example/twelve".toList = .ok url ∧
      ∃ proxy : Proxy, ∀ headers : HeaderMap,
        fromRequestParts (⟨headers.edit proxy, some .automatic⟩ : Parts ReferenceUri.crate) =
          fromRequestParts ⟨headers, some (.explicit url)⟩ := by
  obtain ⟨url, accepted⟩ : ∃ url : PublicUrl ReferenceUri.crate,
      PublicUrl.fromStr "https://app.example/twelve".toList = .ok url := ⟨_, rfl⟩
  refine ⟨url, accepted, (proxy_conveys_iff ReferenceUri.laws accepted).mpr ?_⟩
  exact ⟨"https".toList, "app.example/twelve".toList, rfl, .inr rfl, by decide, by decide⟩

end Urls

end Twelve
