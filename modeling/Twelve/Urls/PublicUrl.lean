import Twelve.Urls.Site

/-! Which texts `PublicUrl::from_str` accepts, and the `Urls` value of each. -/

set_option autoImplicit false

namespace Twelve

/-- The conditions on a text, split at its first `://`, under which it is a
public URL. -/
structure SpellsPublicUrl (http : UriCrate) (grammar : UriGrammar) (spelled rest : Str) :
    Prop where
  known : SpellsHttp spelled
  fits : Str.byteLen (spelled ++ "://".toList ++ rest) ≤ grammar.maxLen
  plain : Plain rest
  authority : (http.authorityFromStr (authorityPart rest)).isOk = true
  host : hostPart (authorityPart rest) ≠ []
  path : grammar.PathAndQuery (afterAuthority rest)

def Urls.ofSpelling (spelled rest : Str) : Urls :=
  ⟨pathOrSlash (afterAuthority rest),
    .external ⟨Str.toAsciiLowercase spelled⟩ ⟨authorityPart rest⟩⟩

section Laws

variable {http : UriCrate} {grammar : UriGrammar} (laws : http.Laws grammar)
include laws

theorem PublicUrl.spelling_of_fromStr {value : Str} {url : PublicUrl http}
    (accepted : PublicUrl.fromStr value = .ok url) :
    Str.containsAny value ['?', '#'] = false ∧ http.uriFromStr value = .ok url.asUri ∧
      ∃ spelled rest, value = spelled ++ "://".toList ++ rest ∧ SpellsHttp spelled := by
  unfold PublicUrl.fromStr at accepted
  split at accepted
  · cases accepted
  · next marks =>
      split at accepted
      · cases accepted
      · next uri parsed =>
          split at accepted
          · next httpOrigin =>
              cases accepted
              refine ⟨by simpa using marks, parsed, ?_⟩
              simp only [hasHttpOrigin, Bool.and_eq_true, Bool.or_eq_true, beq_iff_eq,
                Option.map_eq_some_iff] at httpOrigin
              rcases httpOrigin.1 with ⟨scheme, stored, text⟩ | ⟨scheme, stored, text⟩
              · have known : scheme = Scheme.http := congrArg Scheme.mk text
                obtain ⟨spelled, rest, same, lowered⟩ :=
                  laws.uriFromStr_scheme value uri scheme parsed stored (.inl known)
                exact ⟨spelled, rest, same, .inl (lowered.trans text)⟩
              · have known : scheme = Scheme.https := congrArg Scheme.mk text
                obtain ⟨spelled, rest, same, lowered⟩ :=
                  laws.uriFromStr_scheme value uri scheme parsed stored (.inr known)
                exact ⟨spelled, rest, same, .inr (lowered.trans text)⟩
          · cases accepted

theorem PublicUrl.uri_of_fromStr {spelled rest : Str} (known : SpellsHttp spelled)
    {url : PublicUrl http}
    (accepted : PublicUrl.fromStr (spelled ++ "://".toList ++ rest) = .ok url) :
    SpellsPublicUrl http grammar spelled rest ∧
      Urls.fromPublicUrl url = .ok (Urls.ofSpelling spelled rest) := by
  obtain ⟨marks, parsed, -⟩ := PublicUrl.spelling_of_fromStr laws accepted
  obtain ⟨scheme, authority, host, path⟩ := laws.uriFromStr_parts spelled rest _ known parsed
  obtain ⟨fits, authorityOk, pathOk⟩ :=
    (laws.uriFromStr_isOk_iff spelled rest known).mp (by rw [parsed]; rfl)
  have plain : Plain (spelled ++ "://".toList ++ rest) := plain_iff_containsAny.mpr marks
  constructor
  · refine ⟨known, fits, (plain_append.mp plain).2, authorityOk, ?_, pathOk⟩
    intro empty
    have checked := url.httpOrigin
    simp [hasHttpOrigin, host, empty] at checked
  · simp only [Urls.fromPublicUrl, scheme, authority, path, expect]
    rfl

theorem PublicUrl.fromStr_isOk_iff {spelled rest : Str} (known : SpellsHttp spelled) :
    (∃ url : PublicUrl http, PublicUrl.fromStr (spelled ++ "://".toList ++ rest) = .ok url) ↔
      SpellsPublicUrl http grammar spelled rest := by
  constructor
  · intro found
    obtain ⟨url, accepted⟩ := found
    exact (PublicUrl.uri_of_fromStr laws known accepted).1
  · intro spells
    have plain : Plain (spelled ++ "://".toList ++ rest) := by
      rw [plain_append, plain_append]
      exact ⟨⟨plain_of_spellsHttp known, by simp [Plain]⟩, spells.plain⟩
    have parses := (laws.uriFromStr_isOk_iff spelled rest known).mpr
      ⟨spells.fits, spells.authority, spells.path⟩
    cases parsed : http.uriFromStr (spelled ++ "://".toList ++ rest) with
    | error error =>
        rw [parsed] at parses
        cases parses
    | ok uri =>
        obtain ⟨scheme, authority, host, path⟩ :=
          laws.uriFromStr_parts spelled rest uri known parsed
        have httpOrigin : hasHttpOrigin http uri = true := by
          have hosted : (some (hostPart (authorityPart rest))).all (·.isEmpty) = false := by
            simpa using spells.host
          rw [hasHttpOrigin, scheme, host, hosted, Option.map_some]
          rcases known with lowered | lowered
          · rw [lowered]
            rfl
          · rw [lowered]
            rfl
        refine ⟨⟨uri, httpOrigin⟩, ?_⟩
        rw [PublicUrl.fromStr, plain_iff_containsAny.mp plain, parsed]
        simp [httpOrigin]

/-- Every accepted text has a spelling, which determines its `Urls` value. -/
theorem PublicUrl.exists_spelling {value : Str} {url : PublicUrl http}
    (accepted : PublicUrl.fromStr value = .ok url) :
    ∃ spelled rest, value = spelled ++ "://".toList ++ rest ∧
      SpellsPublicUrl http grammar spelled rest ∧
      Urls.fromPublicUrl url = .ok (Urls.ofSpelling spelled rest) := by
  obtain ⟨-, -, spelled, rest, same, known⟩ := PublicUrl.spelling_of_fromStr laws accepted
  subst same
  exact ⟨spelled, rest, rfl, PublicUrl.uri_of_fromStr laws known accepted⟩

namespace SpellsPublicUrl

variable {spelled rest : Str} (spells : SpellsPublicUrl http grammar spelled rest)
include spells

omit laws in
theorem exists_authority :
    ∃ authority, http.authorityFromStr (authorityPart rest) = .ok authority := by
  have accepted := spells.authority
  cases parsed : http.authorityFromStr (authorityPart rest) with
  | error error =>
      rw [parsed] at accepted
      cases accepted
  | ok authority => exact ⟨authority, rfl⟩

theorem authority_ne_nil : authorityPart rest ≠ [] := by
  obtain ⟨authority, parsed⟩ := spells.exists_authority
  exact (laws.authorityFromStr_ok _ _ parsed).2.1

omit laws in
theorem plain_afterAuthority : Plain (afterAuthority rest) :=
  spells.plain.of_subset (List.dropWhile_sublist _).subset

omit laws in
theorem rooted : (Urls.ofSpelling spelled rest).Rooted := by
  refine .inr ?_
  have plain := spells.plain_afterAuthority
  rcases afterAuthority_rooted spells.plain with empty | slash
  · simp [Urls.ofSpelling, empty, pathOrSlash, pathPart]
  · have nonempty : afterAuthority rest ≠ [] := by
      intro empty
      rw [empty] at slash
      cases slash
    simpa [Urls.ofSpelling, pathOrSlash, pathPart_eq_self plain, nonempty] using slash

omit laws in
/-- The parsed path of a base without a path is one slash, which the mount drops. -/
theorem scriptName_eq : (Urls.ofSpelling spelled rest).scriptName = afterAuthority rest ∨
    afterAuthority rest = [] ∧ (Urls.ofSpelling spelled rest).scriptName = ['/'] := by
  have plain := spells.plain_afterAuthority
  by_cases empty : afterAuthority rest = []
  · exact .inr ⟨empty, by simp [Urls.ofSpelling, empty, pathOrSlash, pathPart]⟩
  · exact .inl (by simp [Urls.ofSpelling, pathOrSlash, pathPart_eq_self plain, empty])

omit laws in
theorem mount_eq : (Urls.ofSpelling spelled rest).site.mount =
    Separator.trimEnd '/' (afterAuthority rest) := by
  change Separator.trimEnd '/' (Urls.ofSpelling spelled rest).scriptName = _
  rcases spells.scriptName_eq with same | ⟨empty, slash⟩
  · rw [same]
  · rw [slash, empty]
    exact Separator.trimEnd_concat_sep '/' []

theorem scriptName_allowed : Plain (Urls.ofSpelling spelled rest).scriptName ∧
    ∀ char ∈ (Urls.ofSpelling spelled rest).scriptName, grammar.pathChar char = true := by
  have plain := spells.plain_afterAuthority
  rcases spells.scriptName_eq with same | ⟨-, slash⟩
  · rw [same]
    exact ⟨plain, (grammar.pathAndQuery_plain_iff plain).mp spells.path⟩
  · rw [slash]
    constructor
    · simp [Plain]
    · simpa using laws.slash_pathChar

end SpellsPublicUrl

/-- A public URL put together from its parts is accepted, and is mounted at its path. -/
theorem PublicUrl.exists_ofParts {scheme text path : Str} {authority : Authority}
    (known : SpellsHttp scheme) (accepted : http.authorityFromStr text = .ok authority)
    (host : hostPart text ≠ []) (rooted : path = [] ∨ path.head? = some '/') (plain : Plain path)
    (allowed : ∀ char ∈ path, grammar.pathChar char = true)
    (fits : Str.byteLen (scheme ++ "://".toList ++ (text ++ path)) ≤ grammar.maxLen) :
    ∃ (url : PublicUrl http) (urls : Urls),
      PublicUrl.fromStr (scheme ++ "://".toList ++ (text ++ path)) = .ok url ∧
      Urls.fromPublicUrl url = .ok urls ∧
      urls.site = Urls.site ⟨path, .external ⟨Str.toAsciiLowercase scheme⟩ ⟨text⟩⟩ := by
  obtain ⟨-, -, whole⟩ := laws.authorityFromStr_ok _ _ accepted
  have found := authorityPart_append whole rooted
  have after := afterAuthority_append whole rooted
  have spells : SpellsPublicUrl http grammar scheme (text ++ path) := by
    refine ⟨known, fits, ?_, ?_, ?_, ?_⟩
    · exact plain_append.mpr ⟨plain_of_whole_authority whole, plain⟩
    · rw [found, accepted]
      rfl
    · rw [found]
      exact host
    · rw [after, grammar.pathAndQuery_plain_iff plain]
      exact allowed
  obtain ⟨url, parsed⟩ := (PublicUrl.fromStr_isOk_iff laws known).mpr spells
  refine ⟨url, _, parsed, (PublicUrl.uri_of_fromStr laws known parsed).2, Site.ext_of_eq ?_ ?_⟩
  · change Origin.external _ ⟨authorityPart (text ++ path)⟩ = _
    rw [found]
    rfl
  · rw [spells.mount_eq, after]
    rfl

end Laws

end Twelve
