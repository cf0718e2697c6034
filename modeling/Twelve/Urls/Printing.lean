import Twelve.Http.ReferenceUri
import Twelve.Urls.PublicUrl

/-! Public URLs as texts. Printing is canonical: it depends on the address alone, and
what it prints is read back as the same address, unless the slash of an empty path
makes the text too long for the parser. -/

set_option autoImplicit false

namespace Twelve

variable {http : UriCrate} {grammar : UriGrammar}

def PublicUrl.display (url : PublicUrl http) : Str := http.toString url.asUri

/-- `TryFrom<String>`, by which configuration is read. -/
def PublicUrl.tryFrom (value : Str) : Except (ParsePublicUrlError http) (PublicUrl http) :=
  PublicUrl.fromStr value

/-- The text of an address: lower case scheme, authority, and a path that is never empty. -/
def canonicalText (spelled rest : Str) : Str :=
  Str.toAsciiLowercase spelled ++ "://".toList ++
    (authorityPart rest ++ pathOrSlash (afterAuthority rest))

/-- `Display` of a `Uri`, as far as public URLs need it: the parts without a query. -/
structure UriCrate.PrintLaws (http : UriCrate) : Prop where
  uriFromStr_toString : ∀ scheme rest uri, SpellsHttp scheme → Plain rest →
    http.uriFromStr (scheme ++ "://".toList ++ rest) = .ok uri →
      http.toString uri = canonicalText scheme rest

theorem SpellsHttp.lower {spelled : Str} (known : SpellsHttp spelled) :
    Str.toAsciiLowercase (Str.toAsciiLowercase spelled) = Str.toAsciiLowercase spelled := by
  rcases known with http | https
  · rw [http]
    exact toAsciiLowercase_of_known (.inl rfl)
  · rw [https]
    exact toAsciiLowercase_of_known (.inr rfl)

private theorem pathOrSlash_plain {text : Str} (plain : Plain text) :
    pathOrSlash text = if text = [] then ['/'] else text := by
  rw [pathOrSlash, pathPart_eq_self plain]

private theorem pathOrSlash_head {text : Str} (rooted : text = [] ∨ text.head? = some '/')
    (plain : Plain text) : (pathOrSlash text).head? = some '/' := by
  rw [pathOrSlash_plain plain]
  split
  · rfl
  · next nonempty => exact rooted.resolve_left nonempty

private theorem pathOrSlash_pathOrSlash {text : Str} (plain : Plain text) :
    pathOrSlash (pathOrSlash text) = pathOrSlash text := by
  by_cases empty : text = []
  · rw [empty]
    rfl
  · have kept : pathOrSlash text = text := by rw [pathOrSlash_plain plain, if_neg empty]
    rw [kept, kept]

private theorem lower_noColon {spelled : Str} (known : SpellsHttp spelled) :
    ':' ∉ Str.toAsciiLowercase spelled := by
  rcases known with http | https
  · rw [http]
    decide
  · rw [https]
    decide

section Spells

variable {spelled rest : Str} (spells : SpellsPublicUrl http grammar spelled rest)
include spells

private theorem SpellsPublicUrl.printed_path :
    (pathOrSlash (afterAuthority rest)).head? = some '/' :=
  pathOrSlash_head (afterAuthority_rooted spells.plain) spells.plain_afterAuthority

private theorem SpellsPublicUrl.authorityPart_printed (laws : http.Laws grammar) :
    authorityPart (authorityPart rest ++ pathOrSlash (afterAuthority rest)) = authorityPart rest ∧
      afterAuthority (authorityPart rest ++ pathOrSlash (afterAuthority rest)) =
        pathOrSlash (afterAuthority rest) := by
  obtain ⟨authority, parsed⟩ := spells.exists_authority
  have whole := (laws.authorityFromStr_ok _ _ parsed).2.2
  exact ⟨authorityPart_append whole (.inr spells.printed_path),
    afterAuthority_append whole (.inr spells.printed_path)⟩

/-- What is printed spells the same address, if it is short enough. -/
theorem SpellsPublicUrl.printed (laws : http.Laws grammar)
    (fits : Str.byteLen (canonicalText spelled rest) ≤ grammar.maxLen) :
    SpellsPublicUrl http grammar (Str.toAsciiLowercase spelled)
      (authorityPart rest ++ pathOrSlash (afterAuthority rest)) := by
  obtain ⟨authority, path⟩ := spells.authorityPart_printed laws
  obtain ⟨plain, allowed⟩ := spells.scriptName_allowed laws
  have known : SpellsHttp (Str.toAsciiLowercase spelled) := by
    rw [SpellsHttp, spells.known.lower]
    exact spells.known
  constructor
  · exact known
  · exact fits
  · refine plain_append.mpr ⟨?_, plain⟩
    obtain ⟨found, parsed⟩ := spells.exists_authority
    exact plain_of_whole_authority (laws.authorityFromStr_ok _ _ parsed).2.2
  · rw [authority]
    exact spells.authority
  · rw [authority]
    exact spells.host
  · rw [path]
    exact (grammar.pathAndQuery_plain_iff plain).mpr allowed

private theorem SpellsPublicUrl.canonicalText_printed (laws : http.Laws grammar) :
    canonicalText (Str.toAsciiLowercase spelled)
        (authorityPart rest ++ pathOrSlash (afterAuthority rest)) = canonicalText spelled rest ∧
      Urls.ofSpelling (Str.toAsciiLowercase spelled)
        (authorityPart rest ++ pathOrSlash (afterAuthority rest)) =
        Urls.ofSpelling spelled rest := by
  obtain ⟨authority, path⟩ := spells.authorityPart_printed laws
  have stable := pathOrSlash_pathOrSlash spells.plain_afterAuthority
  constructor
  · rw [canonicalText, authority, path, stable, spells.known.lower, canonicalText]
  · rw [Urls.ofSpelling, authority, path, stable, spells.known.lower, Urls.ofSpelling]

omit spells in
theorem byteLen_canonicalText_le (spelled rest : Str) (plain : Plain rest) :
    Str.byteLen (canonicalText spelled rest) ≤
      Str.byteLen (spelled ++ "://".toList ++ rest) + 1 := by
  have plainPath : Plain (afterAuthority rest) :=
    plain.of_subset (List.dropWhile_sublist _).subset
  have path : Str.byteLen (pathOrSlash (afterAuthority rest)) ≤
      Str.byteLen (afterAuthority rest) + 1 := by
    rw [pathOrSlash_plain plainPath]
    split
    · exact Nat.le_add_left _ _
    · exact Nat.le_add_right _ _
  have split := congrArg Str.byteLen (authorityPart_append_afterAuthority rest)
  rw [Str.byteLen_append] at split
  simp only [canonicalText, Str.byteLen_append, Str.byteLen_toAsciiLowercase]
  omega

end Spells

section Printing

variable (laws : http.Laws grammar) (prints : http.PrintLaws)
include laws prints

/-- Every accepted text has a spelling, and is printed as the canonical text of it. -/
theorem PublicUrl.exists_printed {value : Str} {url : PublicUrl http}
    (accepted : PublicUrl.fromStr value = .ok url) :
    ∃ spelled rest, value = spelled ++ "://".toList ++ rest ∧
      SpellsPublicUrl http grammar spelled rest ∧
      Urls.fromPublicUrl url = .ok (Urls.ofSpelling spelled rest) ∧
      url.display = canonicalText spelled rest := by
  obtain ⟨-, parsed, spelled, rest, rfl, known⟩ := PublicUrl.spelling_of_fromStr laws accepted
  obtain ⟨spells, built⟩ := PublicUrl.uri_of_fromStr laws known accepted
  exact ⟨spelled, rest, rfl, spells, built,
    prints.uriFromStr_toString spelled rest _ known spells.plain parsed⟩

/-- A printed public URL is read back as the address it was printed from. Only the
length limit can stand in the way, by the one slash that printing may add. -/
theorem PublicUrl.print_parse {value : Str} {url : PublicUrl http}
    (accepted : PublicUrl.tryFrom value = .ok url) :
    ((∃ again : PublicUrl http, PublicUrl.tryFrom url.display = .ok again) ↔
        Str.byteLen url.display ≤ grammar.maxLen) ∧
      (∀ again : PublicUrl http, PublicUrl.tryFrom url.display = .ok again →
        again.display = url.display ∧ Urls.fromPublicUrl again = Urls.fromPublicUrl url) ∧
      Str.byteLen url.display ≤ Str.byteLen value + 1 := by
  obtain ⟨spelled, rest, rfl, spells, built, printed⟩ :=
    PublicUrl.exists_printed laws prints accepted
  have known : SpellsHttp (Str.toAsciiLowercase spelled) := by
    rw [SpellsHttp, spells.known.lower]
    exact spells.known
  obtain ⟨sameText, sameUrls⟩ := spells.canonicalText_printed laws
  rw [printed]
  refine ⟨⟨?_, ?_⟩, ?_, byteLen_canonicalText_le spelled rest spells.plain⟩
  · intro found
    exact ((PublicUrl.fromStr_isOk_iff laws known).mp found).fits
  · intro fits
    exact (PublicUrl.fromStr_isOk_iff laws known).mpr (spells.printed laws fits)
  · intro again parsedAgain
    obtain ⟨spellsAgain, builtAgain⟩ := PublicUrl.uri_of_fromStr laws known parsedAgain
    obtain ⟨-, uri, -⟩ := PublicUrl.spelling_of_fromStr laws parsedAgain
    constructor
    · rw [PublicUrl.display, prints.uriFromStr_toString _ _ _ known spellsAgain.plain uri, sameText]
    · rw [builtAgain, sameUrls, built]

/-- Two public URLs print alike exactly when they stand for the same address. -/
theorem PublicUrl.display_eq_iff {firstValue secondValue : Str} {first second : PublicUrl http}
    (firstAccepted : PublicUrl.tryFrom firstValue = .ok first)
    (secondAccepted : PublicUrl.tryFrom secondValue = .ok second) :
    first.display = second.display ↔ Urls.fromPublicUrl first = Urls.fromPublicUrl second := by
  obtain ⟨spelled, rest, -, spells, built, printed⟩ :=
    PublicUrl.exists_printed laws prints firstAccepted
  obtain ⟨otherSpelled, otherRest, -, otherSpells, otherBuilt, otherPrinted⟩ :=
    PublicUrl.exists_printed laws prints secondAccepted
  rw [printed, otherPrinted, built, otherBuilt, Except.ok.injEq]
  constructor
  · intro same
    obtain ⟨schemes, rests⟩ := scheme_split_unique (lower_noColon spells.known)
      (lower_noColon otherSpells.known) same
    obtain ⟨authority, path⟩ := spells.authorityPart_printed laws
    obtain ⟨otherAuthority, otherPath⟩ := otherSpells.authorityPart_printed laws
    rw [rests, otherAuthority] at authority
    rw [rests, otherPath] at path
    rw [Urls.ofSpelling, Urls.ofSpelling, schemes, authority, path]
  · intro same
    obtain ⟨path, origin⟩ := Urls.mk.inj same
    obtain ⟨scheme, authority⟩ := Origin.external.inj origin
    rw [canonicalText, canonicalText, path, Scheme.mk.inj scheme, Authority.mk.inj authority]

end Printing

private theorem dropWhile_marks_eq_nil {text : Str} (plain : Plain text) :
    text.dropWhile (fun char => char != '?' && char != '#') = [] := by
  rw [List.dropWhile_eq_nil_iff]
  intro char member
  simpa using plain char member

theorem ReferenceUri.printLaws : ReferenceUri.crate.PrintLaws where
  uriFromStr_toString scheme rest uri known plain parsed := by
    obtain ⟨-, -, -, rfl⟩ := (ReferenceUri.uriFromStr_eq_ok_iff known).mp parsed
    have plainPath : Plain (afterAuthority rest) :=
      plain.of_subset (List.dropWhile_sublist _).subset
    have whole := withoutFragment_eq_self plainPath.not_mem_fragment
    simp only [ReferenceUri.crate, ReferenceUri.Uri.toString, ReferenceUri.Uri.path, whole,
      dropWhile_marks_eq_nil plainPath, Option.elim_some, canonicalText]
    simp

/-- An empty path is printed as a slash, a port and the letter case of a scheme as they are. -/
theorem PublicUrl.print_parse_port : ∃ url again : PublicUrl ReferenceUri.crate,
    PublicUrl.tryFrom "HTTPS://user@Example.com:8443".toList = .ok url ∧
      url.display = "https://user@Example.com:8443/".toList ∧
      PublicUrl.tryFrom url.display = .ok again ∧
      Urls.fromPublicUrl again = Urls.fromPublicUrl url := by
  let url : PublicUrl ReferenceUri.crate :=
    ⟨ReferenceUri.Uri.mk (some Scheme.https) (some ⟨"user@Example.com:8443".toList⟩) [], by rfl⟩
  have accepted : PublicUrl.tryFrom "HTTPS://user@Example.com:8443".toList = .ok url := by rfl
  obtain ⟨reads, same, -⟩ := PublicUrl.print_parse ReferenceUri.laws ReferenceUri.printLaws accepted
  obtain ⟨again, parsed⟩ := reads.mpr (by decide)
  exact ⟨url, again, accepted, by rfl, parsed, (same again parsed).2⟩

theorem PublicUrl.display_eq_iff_slash : ∃ first second : PublicUrl ReferenceUri.crate,
    PublicUrl.tryFrom "HTTP://example.com".toList = .ok first ∧
      PublicUrl.tryFrom "http://example.com/".toList = .ok second ∧
      Urls.fromPublicUrl first = Urls.fromPublicUrl second := by
  let first : PublicUrl ReferenceUri.crate :=
    ⟨ReferenceUri.Uri.mk (some Scheme.http) (some ⟨"example.com".toList⟩) [], by rfl⟩
  let second : PublicUrl ReferenceUri.crate :=
    ⟨ReferenceUri.Uri.mk (some Scheme.http) (some ⟨"example.com".toList⟩) "/".toList, by rfl⟩
  have firstAccepted : PublicUrl.tryFrom "HTTP://example.com".toList = .ok first := by rfl
  have secondAccepted : PublicUrl.tryFrom "http://example.com/".toList = .ok second := by rfl
  exact ⟨first, second, firstAccepted, secondAccepted, (PublicUrl.display_eq_iff
    ReferenceUri.laws ReferenceUri.printLaws firstAccepted secondAccepted).mp (by rfl)⟩

end Twelve
