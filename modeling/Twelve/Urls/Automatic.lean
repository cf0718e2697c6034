import Twelve.Urls.Composition

/-! Request-derived addresses. Extraction reads three texts from the headers and
checks the authority alone; a configured address checks the whole URL. The two
agree exactly when the host is not empty, the script name is an encoded absolute
path, and the URL is within the length limit. -/

set_option autoImplicit false

namespace Twelve.Urls

def readScriptName (headers : HeaderMap) : Option Str :=
  match headers.get HeaderName.xScriptName with
  | some value => value.toStr
  | none => some "/".toList

def readScheme (headers : HeaderMap) : Option Scheme :=
  match headers.get HeaderName.xForwardedProto with
  | some value => value.toStr.bind fun text =>
      if text = "http".toList then some Scheme.http
      else if text = "https".toList then some Scheme.https
      else none
  | none => some Scheme.http

def readAuthority (headers : HeaderMap) : Option Str :=
  ((headers.get HeaderName.xForwardedHost).or (headers.get HeaderName.host)).bind (·.toStr)

def acceptsAuthority (http : UriCrate) (text : Str) : Bool :=
  !Str.containsAny text ['@', ',', '\\'] && (http.authorityFromStr text).isOk

def outcome (http : UriCrate) : Option Str → Option Scheme → Option Str → Except StatusCode Urls
  | none, _, _ => .error StatusCode.badGateway
  | some _, none, _ => .error StatusCode.badGateway
  | some _, some _, none => .error StatusCode.badRequest
  | some scriptName, some scheme, some text =>
      if acceptsAuthority http text then .ok ⟨scriptName, .external scheme ⟨text⟩⟩
      else .error StatusCode.badRequest

private theorem readScriptName_okOr (headers : HeaderMap) :
    (readOr (headers.get HeaderName.xScriptName) "/".toList fun value =>
        okOr value.toStr StatusCode.badGateway) =
      okOr (readScriptName headers) StatusCode.badGateway := by
  unfold readScriptName
  cases headers.get HeaderName.xScriptName <;> rfl

private theorem readScheme_okOr (headers : HeaderMap) :
    (readOr (headers.get HeaderName.xForwardedProto) Scheme.http fun value => do
        let text ← okOr value.toStr StatusCode.badGateway
        if text = "http".toList then .ok Scheme.http
        else if text = "https".toList then .ok Scheme.https
        else .error StatusCode.badGateway) =
      okOr (readScheme headers) StatusCode.badGateway := by
  unfold readScheme
  cases headers.get HeaderName.xForwardedProto with
  | none => rfl
  | some value =>
      cases read : value.toStr with
      | none => simp only [readOr, read]; rfl
      | some text =>
          simp only [readOr, read, okOr, bind, Except.bind, Option.bind_some]
          by_cases http : text = "http".toList
          · rw [if_pos http, if_pos http]
          · rw [if_neg http, if_neg http]
            by_cases https : text = "https".toList
            · rw [if_pos https, if_pos https]
            · rw [if_neg https, if_neg https]

theorem acceptsAuthority_iff {http : UriCrate} {grammar : UriGrammar} (laws : http.Laws grammar)
    {text : Str} :
    acceptsAuthority http text = true ↔
      Str.containsAny text ['@', ',', '\\'] = false ∧ http.authorityFromStr text = .ok ⟨text⟩ := by
  cases parsed : http.authorityFromStr text with
  | error error => simp [acceptsAuthority, parsed, Except.isOk, Except.toBool]
  | ok authority =>
      obtain ⟨asStr⟩ := authority
      obtain ⟨rfl, -⟩ := laws.authorityFromStr_ok _ _ parsed
      simp [acceptsAuthority, parsed, Except.isOk, Except.toBool]

/-- Extraction reads the three texts in turn, and the first failure decides. -/
theorem automatic_eq_outcome {http : UriCrate} {grammar : UriGrammar} (laws : http.Laws grammar)
    (headers : HeaderMap) :
    automatic http headers =
      outcome http (readScriptName headers) (readScheme headers) (readAuthority headers) := by
  rw [automatic, readScriptName_okOr, readScheme_okOr]
  cases readScriptName headers with
  | none => rfl
  | some scriptName =>
      cases readScheme headers with
      | none => rfl
      | some scheme =>
          unfold readAuthority
          cases (headers.get HeaderName.xForwardedHost).or (headers.get HeaderName.host) with
          | none => rfl
          | some value =>
              simp only [okOr, bind, Except.bind, Option.bind_some]
              cases value.toStr with
              | none => rfl
              | some text =>
                  simp only [outcome]
                  by_cases accepted : acceptsAuthority http text = true
                  · obtain ⟨unlisted, parsed⟩ := (acceptsAuthority_iff laws).mp accepted
                    rw [if_pos accepted, unlisted, parsed]
                    rfl
                  · rw [if_neg accepted]
                    have rejected := mt (acceptsAuthority_iff laws).mpr accepted
                    split
                    · rfl
                    · next unlisted =>
                        split
                        · next authority parsed =>
                            obtain ⟨asStr⟩ := authority
                            obtain ⟨rfl, -⟩ := laws.authorityFromStr_ok _ _ parsed
                            exact absurd ⟨by simpa using unlisted, parsed⟩ rejected
                        · rfl

theorem automatic_eq_ok_iff {http : UriCrate} {grammar : UriGrammar} (laws : http.Laws grammar)
    {headers : HeaderMap} {urls : Urls} :
    automatic http headers = .ok urls ↔
      ∃ scriptName scheme text, readScriptName headers = some scriptName ∧
        readScheme headers = some scheme ∧ readAuthority headers = some text ∧
        acceptsAuthority http text = true ∧ urls = ⟨scriptName, .external scheme ⟨text⟩⟩ := by
  rw [automatic_eq_outcome laws]
  cases readScriptName headers with
  | none => simp [outcome]
  | some scriptName =>
      cases readScheme headers with
      | none => simp [outcome]
      | some scheme =>
          cases readAuthority headers with
          | none => simp [outcome]
          | some text =>
              by_cases accepted : acceptsAuthority http text = true
              · rw [outcome, if_pos accepted]
                constructor
                · intro same
                  cases same
                  exact ⟨_, _, _, rfl, rfl, rfl, accepted, rfl⟩
                · intro found
                  obtain ⟨_, _, _, sameName, sameScheme, sameText, -, same⟩ := found
                  cases sameName
                  cases sameScheme
                  cases sameText
                  rw [same]
              · rw [outcome, if_neg accepted]
                constructor
                · intro impossible
                  cases impossible
                · intro found
                  obtain ⟨_, _, _, -, -, sameText, other, -⟩ := found
                  cases sameText
                  exact absurd other accepted

private theorem readScheme_known {headers : HeaderMap} {scheme : Scheme}
    (read : readScheme headers = some scheme) : scheme = Scheme.http ∨ scheme = Scheme.https := by
  unfold readScheme at read
  split at read
  · next value found =>
      obtain ⟨text, -, chosen⟩ := Option.bind_eq_some_iff.mp read
      split at chosen
      · exact .inl (Option.some.inj chosen).symm
      · split at chosen
        · exact .inr (Option.some.inj chosen).symm
        · cases chosen
  · exact .inl (Option.some.inj read).symm

/-- The extracted address is an accepted configuration with the same behaviour. -/
def ConfigurableAs (http : UriCrate) (urls : Urls) (value : Str) : Prop :=
  ∃ (url : PublicUrl http) (configured : Urls), PublicUrl.fromStr value = .ok url ∧
    fromPublicUrl url = .ok configured ∧ urls.publicHost = configured.publicHost ∧
    ∀ path, (internal http urls path).toOption = (internal http configured path).toOption ∧
      (external http urls path).toOption = (external http configured path).toOption

/-- What configuration checks and extraction does not. -/
structure CompleteAddress (grammar : UriGrammar) (scheme authority scriptName : Str) : Prop where
  host : hostPart authority ≠ []
  rooted : scriptName = [] ∨ scriptName.head? = some '/'
  plain : Plain scriptName
  allowed : ∀ char ∈ scriptName, grammar.pathChar char = true
  fits : Str.byteLen (scheme ++ "://".toList ++ (authority ++ scriptName)) ≤ grammar.maxLen

section Laws

variable {http : UriCrate} {grammar : UriGrammar} (laws : http.Laws grammar)
include laws

private theorem configurable_of_complete {scheme : Scheme} {text scriptName : Str}
    (known : scheme = Scheme.http ∨ scheme = Scheme.https)
    (accepted : http.authorityFromStr text = .ok ⟨text⟩)
    (complete : CompleteAddress grammar scheme.asStr text scriptName) :
    ConfigurableAs http ⟨scriptName, .external scheme ⟨text⟩⟩
      (scheme.asStr ++ "://".toList ++ (text ++ scriptName)) := by
  have fixed := toAsciiLowercase_of_known known
  have spelled : SpellsHttp scheme.asStr := (spellsHttp_iff fixed).mpr known
  obtain ⟨url, configured, parsed, built, mounted⟩ := PublicUrl.exists_ofParts laws spelled accepted
    complete.host complete.rooted complete.plain complete.allowed complete.fits
  rw [fixed] at mounted
  have agree := agree_of_site_eq http mounted.symm
  exact ⟨url, configured, parsed, built, agree.publicHost, fun path =>
    ⟨by rw [agree.internal], by rw [agree.external]⟩⟩

private theorem internal_head {urls : Urls} {path text : Str} {head : Char} {tail : Str}
    (printed : internal http urls path = .ok text) (joined : prefixedPath urls path = head :: tail)
    (notQuery : head ≠ '?') (notFragment : head ≠ '#') : text.head? = some head := by
  unfold internal at printed
  rw [joined] at printed
  cases built : http.build none (head :: tail) with
  | error error =>
      rw [built] at printed
      cases printed
  | ok uri =>
      rw [built] at printed
      cases printed
      rw [laws.build_toString none head tail uri notQuery notFragment built]
      simp [originText, withoutFragment, notFragment]

private theorem internal_mount_ok {spelled rest : Str}
    (spells : SpellsPublicUrl http grammar spelled rest) :
    ∃ tail, internal http (ofSpelling spelled rest) [] = .ok ('/' :: tail) := by
  have mark : Str.byteLen "://".toList = 3 := by decide
  have positive : 1 ≤ grammar.maxLen := by
    have fits := spells.fits
    rw [Str.byteLen_append, Str.byteLen_append, mark] at fits
    omega
  have slash : http.parsesAsPathAndQuery ['/'] = true := by
    refine laws.pathAndQuery_complete ['/'] rfl positive ?_
    rw [grammar.pathAndQuery_plain_iff (by simp [Plain])]
    simpa using laws.slash_pathChar
  obtain ⟨plain, allowed⟩ := spells.scriptName_allowed laws
  have fits : Str.byteLen (prefixedPath (ofSpelling spelled rest) []) ≤ grammar.maxLen := by
    rw [prefixedPath_ofSpelling spells]
    have bounded := spells.fits
    have trimmed := Str.byteLen_trimEndMatches_le (afterAuthority rest) '/'
    have split := congrArg Str.byteLen (authorityPart_append_afterAuthority rest)
    have one : Str.byteLen ('/' :: Str.trimStartMatches [] '/') = 1 := by decide
    rw [Str.byteLen_append, Str.byteLen_append, mark] at bounded
    rw [Str.byteLen_append] at split ⊢
    omega
  have valid : http.parsesAsPathAndQuery (prefixedPath (ofSpelling spelled rest) []) = true :=
    parses_prefixedPath laws spells.rooted plain allowed slash fits
  have whole := @withoutFragment_prefixedPath _ plain [] (by simp)
  obtain ⟨tail, joined⟩ := spells.rooted.prefixedPath_head []
  refine ⟨tail, (internal_eq_ok_iff laws spells.rooted).mpr ⟨valid, ?_⟩⟩
  rw [whole, joined]

private theorem rooted_of_configurable {scheme : Scheme} {text scriptName : Str}
    (plain : Plain scriptName)
    (configurable : ConfigurableAs http ⟨scriptName, .external scheme ⟨text⟩⟩
      (scheme.asStr ++ "://".toList ++ (text ++ scriptName)))
    (known : SpellsHttp scheme.asStr) :
    scriptName = [] ∨ scriptName.head? = some '/' := by
  obtain ⟨url, configured, parsed, built, -, outcomes⟩ := configurable
  obtain ⟨spells, same⟩ := PublicUrl.uri_of_fromStr laws known parsed
  obtain rfl : ofSpelling _ _ = configured := Except.ok.inj (same.symm.trans built)
  obtain ⟨tail, printed⟩ := internal_mount_ok laws spells
  have extracted := (outcomes []).1
  rw [printed] at extracted
  cases scriptName with
  | nil => exact .inl rfl
  | cons head rest =>
      refine .inr ?_
      -- A first character other than a slash would be printed first.
      apply Classical.byContradiction
      intro unrooted
      have different : head ≠ '/' := by
        intro same
        subst same
        exact unrooted rfl
      have joined : prefixedPath ⟨head :: rest, .external scheme ⟨text⟩⟩ [] =
          head :: (Str.trimEndMatches rest '/' ++ ['/']) := by
        have kept := Separator.trimEnd_append_cons_of_ne '/' [] different rest
        rw [prefixedPath, Str.trimEndMatches]
        simp only [List.nil_append] at kept
        rw [kept]
        rfl
      cases outcome : internal http ⟨head :: rest, .external scheme ⟨text⟩⟩ [] with
      | error panic =>
          rw [outcome] at extracted
          cases extracted
      | ok reference =>
          rw [outcome] at extracted
          cases extracted
          have marks := plain head List.mem_cons_self
          have first := internal_head laws outcome joined marks.1 marks.2
          cases first
          exact different rfl

private theorem complete_of_configurable {scheme : Scheme} {text scriptName : Str}
    (known : scheme = Scheme.http ∨ scheme = Scheme.https)
    (accepted : http.authorityFromStr text = .ok ⟨text⟩)
    (configurable : ConfigurableAs http ⟨scriptName, .external scheme ⟨text⟩⟩
      (scheme.asStr ++ "://".toList ++ (text ++ scriptName))) :
    CompleteAddress grammar scheme.asStr text scriptName := by
  have spelled : SpellsHttp scheme.asStr :=
    (spellsHttp_iff (toAsciiLowercase_of_known known)).mpr known
  obtain ⟨-, -, whole⟩ := laws.authorityFromStr_ok _ _ accepted
  have ⟨url, _, parsed, _⟩ := configurable
  obtain ⟨spells, -⟩ := PublicUrl.uri_of_fromStr laws spelled parsed
  have plain : Plain scriptName := (plain_append.mp spells.plain).2
  have rooted := rooted_of_configurable laws plain configurable spelled
  have host := spells.host
  have path := spells.path
  rw [authorityPart_append whole rooted] at host
  rw [afterAuthority_append whole rooted, grammar.pathAndQuery_plain_iff plain] at path
  exact ⟨host, rooted, plain, path, spells.fits⟩

/-- An extracted address behaves as the configured one exactly when it is complete. -/
theorem automatic_configurable_iff {headers : HeaderMap} {urls : Urls}
    (extracted : fromRequestParts (⟨headers, some .automatic⟩ : Parts http) = .ok (.ok urls)) :
    ∃ scriptName scheme text, readScriptName headers = some scriptName ∧
      readScheme headers = some scheme ∧ readAuthority headers = some text ∧
      urls = ⟨scriptName, .external scheme ⟨text⟩⟩ ∧
      (ConfigurableAs http urls (scheme.asStr ++ "://".toList ++ (text ++ scriptName)) ↔
        CompleteAddress grammar scheme.asStr text scriptName) := by
  have succeeded : automatic http headers = .ok urls := Except.ok.inj extracted
  obtain ⟨scriptName, scheme, text, readName, readProto, readHost, accepted, rfl⟩ :=
    (automatic_eq_ok_iff laws).mp succeeded
  have known := readScheme_known readProto
  have parsed := ((acceptsAuthority_iff laws).mp accepted).2
  refine ⟨scriptName, scheme, text, readName, readProto, readHost, rfl, ?_, ?_⟩
  · exact complete_of_configurable laws known parsed
  · exact configurable_of_complete laws known parsed

end Laws

def headerLine (name : HeaderName) (value : HeaderValue) : HeaderMap :=
  Multimap.empty.insert name value

theorem automatic_configurable_iff_local :
    ConfigurableAs ReferenceUri.crate
      ⟨"/".toList, .external Scheme.http ⟨"127.0.0.1:3000".toList⟩⟩
      "http://127.0.0.1:3000/".toList := by
  let headers := headerLine HeaderName.host (.fromStatic "127.0.0.1:3000")
  have extracted : fromRequestParts (⟨headers, some .automatic⟩ : Parts ReferenceUri.crate) =
      .ok (.ok ⟨"/".toList, .external Scheme.http ⟨"127.0.0.1:3000".toList⟩⟩) := by rfl
  obtain ⟨scriptName, scheme, text, readName, readProto, readHost, -, configurable⟩ :=
    automatic_configurable_iff ReferenceUri.laws extracted
  have sameName : readScriptName headers = some "/".toList := by rfl
  have sameScheme : readScheme headers = some Scheme.http := by rfl
  have sameText : readAuthority headers = some "127.0.0.1:3000".toList := by rfl
  obtain rfl := Option.some.inj (sameName.symm.trans readName)
  obtain rfl := Option.some.inj (sameScheme.symm.trans readProto)
  obtain rfl := Option.some.inj (sameText.symm.trans readHost)
  refine configurable.mpr ⟨by decide, .inr rfl, ?_, ?_, by decide⟩
  · simp [Plain]
  · simpa using ReferenceUri.laws.slash_pathChar

theorem port_alone_not_configurable :
    fromRequestParts (⟨headerLine HeaderName.host (.fromStatic ":80"), some .automatic⟩ :
        Parts ReferenceUri.crate) =
      .ok (.ok ⟨"/".toList, .external Scheme.http ⟨":80".toList⟩⟩) ∧
    ¬ ConfigurableAs ReferenceUri.crate ⟨"/".toList, .external Scheme.http ⟨":80".toList⟩⟩
      "http://:80/".toList := by
  constructor
  · rfl
  · intro configurable
    obtain ⟨url, -, accepted, -⟩ := configurable
    cases accepted

end Twelve.Urls
