import Twelve.Urls.FixedSources

/-! Entering a site. The URL that a public URL generates for a plain path is
again a public URL, and its references are those of the first at the joined
path. Slashes at the end of a base or at the start of a path change nothing. -/

set_option autoImplicit false

namespace Twelve

variable {http : UriCrate} {grammar : UriGrammar}

namespace Urls

private theorem lowered_known {spelled : Str} (known : SpellsHttp spelled) :
    SpellsHttp (Str.toAsciiLowercase spelled) ∧
      Str.toAsciiLowercase (Str.toAsciiLowercase spelled) = Str.toAsciiLowercase spelled := by
  have fixed : Str.toAsciiLowercase (Str.toAsciiLowercase spelled) =
      Str.toAsciiLowercase spelled := by
    rcases known with http | https
    · rw [http]
      decide
    · rw [https]
      decide
  refine ⟨?_, fixed⟩
  rw [SpellsHttp, fixed]
  exact known

/-- The URL of a plain path is a public URL whose site is entered at that path. -/
theorem external_enters (laws : http.Laws grammar) {spelled rest path : Str}
    (spells : SpellsPublicUrl http grammar spelled rest) (plain : Plain path)
    (valid : http.parsesAsPathAndQuery ('/' :: Str.trimStartMatches path '/') = true)
    (fits : Str.byteLen (Str.trimEndMatches (spelled ++ "://".toList ++ rest) '/' ++
      '/' :: Str.trimStartMatches path '/') ≤ grammar.maxLen) :
    ∃ (text : Str) (url : PublicUrl http) (urls : Urls),
      external http (ofSpelling spelled rest) path = .ok text ∧
      PublicUrl.fromStr text = .ok url ∧ fromPublicUrl url = .ok urls ∧
      urls.site = (ofSpelling spelled rest).site.enter path := by
  have joined := prefixedPath_ofSpelling spells path
  obtain ⟨scriptPlain, scriptAllowed⟩ := spells.scriptName_allowed laws
  obtain ⟨lowered, fixed⟩ := lowered_known spells.known
  rw [trimEndMatches_spelling laws spells, trimEndMatches_rest rest] at fits
  have total : Str.byteLen (Str.toAsciiLowercase spelled ++ "://".toList ++
      (authorityPart rest ++ prefixedPath (ofSpelling spelled rest) path)) ≤ grammar.maxLen := by
    rw [joined]
    simpa only [Str.byteLen_append, Str.byteLen_toAsciiLowercase, Nat.add_assoc] using fits
  have accepted : http.parsesAsPathAndQuery (prefixedPath (ofSpelling spelled rest) path) = true :=
    parses_prefixedPath laws spells.rooted scriptPlain scriptAllowed valid (by
      simp only [Str.byteLen_append] at total
      omega)
  obtain ⟨tail, rooted⟩ := spells.rooted.prefixedPath_head path
  have head : (prefixedPath (ofSpelling spelled rest) path).head? = some '/' := by
    rw [rooted]
    rfl
  have joinedPlain := plain_prefixedPath scriptPlain plain
  have allowed := (grammar.pathAndQuery_plain_iff joinedPlain).mp
    (laws.pathAndQuery_sound _ head accepted)
  obtain ⟨authority, known⟩ := spells.exists_authority
  obtain ⟨url, entered, parsed, built, site⟩ :=
    PublicUrl.exists_ofParts laws lowered known spells.host (.inr head) joinedPlain allowed total
  have printed := (external_eq_ok_iff laws spells.rooted rfl).mpr
    (And.intro accepted rfl)
  rw [withoutFragment_eq_self joinedPlain.not_mem_fragment] at printed
  refine ⟨_, url, entered, printed, ?_, built, Site.ext_of_eq ?_ ?_⟩
  · rw [originText, List.append_assoc]
    exact parsed
  · rw [site, fixed]
    rfl
  · rw [site, prefixedPath_eq_reference]
    rfl

private theorem append_slashes_site (laws : http.Laws grammar) {spelled rest : Str}
    (spells : SpellsPublicUrl http grammar spelled rest) (count : Nat)
    (fits : Str.byteLen (spelled ++ "://".toList ++ rest ++ List.replicate count '/') ≤
      grammar.maxLen) :
    ∃ (url : PublicUrl http) (urls : Urls),
      PublicUrl.fromStr (spelled ++ "://".toList ++ rest ++ List.replicate count '/') = .ok url ∧
      fromPublicUrl url = .ok urls ∧ urls.site = (ofSpelling spelled rest).site := by
  have text : spelled ++ "://".toList ++ rest ++ List.replicate count '/' =
      spelled ++ "://".toList ++
        (authorityPart rest ++ (afterAuthority rest ++ List.replicate count '/')) := by
    rw [← List.append_assoc (authorityPart rest), authorityPart_append_afterAuthority,
      List.append_assoc]
  have plain := spells.plain_afterAuthority
  have slashes : ∀ char ∈ List.replicate count '/', char = '/' := fun _ => List.eq_of_mem_replicate
  have rooted : afterAuthority rest ++ List.replicate count '/' = [] ∨
      (afterAuthority rest ++ List.replicate count '/').head? = some '/' := by
    rcases afterAuthority_rooted spells.plain with empty | slash
    · rw [empty]
      cases count with
      | zero => exact .inl rfl
      | succ count => exact .inr rfl
    · exact .inr (by rw [List.head?_append, slash]; rfl)
  have allPlain : Plain (afterAuthority rest ++ List.replicate count '/') := by
    refine plain_append.mpr ⟨plain, ?_⟩
    intro char member
    rw [slashes char member]
    decide
  have allowed : ∀ char ∈ afterAuthority rest ++ List.replicate count '/',
      grammar.pathChar char = true := by
    intro char member
    rcases List.mem_append.mp member with base | slash
    · exact (grammar.pathAndQuery_plain_iff plain).mp spells.path char base
    · rw [slashes char slash]
      exact laws.slash_pathChar
  rw [text] at fits ⊢
  obtain ⟨authority, known⟩ := spells.exists_authority
  obtain ⟨url, longer, parsed, built, site⟩ :=
    PublicUrl.exists_ofParts laws spells.known known spells.host rooted allPlain allowed fits
  refine ⟨url, longer, parsed, built, Site.ext_of_eq ?_ ?_⟩
  · rw [site]
    rfl
  · rw [site, spells.mount_eq]
    exact Separator.trimEnd_append_replicate '/' (afterAuthority rest) count

/-- Joining composes: the site of a generated URL renders a path as the first
site renders the joined path. Slashes between a base and a path do not count. The
generated URL, and the URL with slashes behind it, are within the length limit. -/
theorem external_composes (laws : http.Laws grammar) {value : Str} {url : PublicUrl http}
    {urls : Urls} (accepted : PublicUrl.fromStr value = .ok url)
    (built : fromPublicUrl url = .ok urls) :
    (∀ outer : Str, '?' ∉ outer → '#' ∉ outer →
      http.parsesAsPathAndQuery ('/' :: Str.trimStartMatches outer '/') = true →
      Str.byteLen (Str.trimEndMatches value '/' ++ '/' :: Str.trimStartMatches outer '/') ≤
        grammar.maxLen →
      ∃ (text : Str) (inner : PublicUrl http) (entered : Urls),
        external http urls outer = .ok text ∧ PublicUrl.fromStr text = .ok inner ∧
        fromPublicUrl inner = .ok entered ∧
        ∀ path, external http entered path = external http urls
            (Str.trimEndMatches outer '/' ++ '/' :: Str.trimStartMatches path '/') ∧
          internal http entered path = internal http urls
            (Str.trimEndMatches outer '/' ++ '/' :: Str.trimStartMatches path '/')) ∧
    (∀ count, Str.byteLen (value ++ List.replicate count '/') ≤ grammar.maxLen →
      ∃ (longer : PublicUrl http) (same : Urls),
        PublicUrl.fromStr (value ++ List.replicate count '/') = .ok longer ∧
        fromPublicUrl longer = .ok same ∧
        ∀ path, external http same path = external http urls path ∧
          internal http same path = internal http urls path) ∧
    ∀ count path,
      external http urls (List.replicate count '/' ++ path) = external http urls path ∧
        internal http urls (List.replicate count '/' ++ path) = internal http urls path := by
  obtain ⟨spelled, rest, rfl, spells, same⟩ := PublicUrl.exists_spelling laws accepted
  rw [same] at built
  cases built
  refine ⟨?_, ?_, ?_⟩
  · intro outer noQuery noFragment valid fits
    have plain : Plain outer := fun char member =>
      ⟨fun mark => noQuery (mark ▸ member), fun mark => noFragment (mark ▸ member)⟩
    obtain ⟨text, inner, entered, printed, parsed, innerBuilt, site⟩ :=
      external_enters laws spells plain valid fits
    refine ⟨text, inner, entered, printed, parsed, innerBuilt, ?_⟩
    intro path
    have references : entered.site.reference path = (ofSpelling spelled rest).site.reference
        (Str.trimEndMatches outer '/' ++ '/' :: Str.trimStartMatches path '/') := by
      rw [site]
      exact Site.reference_enter _ outer path
    exact ⟨external_eq_of_reference http (by rw [site]; rfl) references,
      internal_eq_of_reference http references⟩
  · intro count fits
    obtain ⟨longer, entered, parsed, longerBuilt, site⟩ :=
      append_slashes_site laws spells count fits
    have agree := agree_of_site_eq http site
    exact ⟨longer, entered, parsed, longerBuilt, fun path =>
      ⟨agree.external path, agree.internal path⟩⟩
  · intro count path
    have references := (ofSpelling spelled rest).site.reference_replicate count path
    exact ⟨external_eq_of_reference http rfl references, internal_eq_of_reference http references⟩

theorem external_composes_root :
    ∃ (url : PublicUrl ReferenceUri.crate) (urls : Urls) (text : Str)
      (inner : PublicUrl ReferenceUri.crate) (entered : Urls),
      PublicUrl.fromStr "http://[::1]:3000".toList = .ok url ∧ fromPublicUrl url = .ok urls ∧
      external ReferenceUri.crate urls "//".toList = .ok text ∧
      PublicUrl.fromStr text = .ok inner ∧ fromPublicUrl inner = .ok entered ∧
      external ReferenceUri.crate entered "/foo".toList =
        external ReferenceUri.crate urls "/foo".toList := by
  let url : PublicUrl ReferenceUri.crate :=
    ⟨ReferenceUri.Uri.mk (some Scheme.http) (some ⟨"[::1]:3000".toList⟩) [], by rfl⟩
  let urls : Urls := ⟨"/".toList, .external Scheme.http ⟨"[::1]:3000".toList⟩⟩
  have accepted : PublicUrl.fromStr "http://[::1]:3000".toList = .ok url := by rfl
  have built : fromPublicUrl url = .ok urls := by rfl
  have composes := external_composes ReferenceUri.laws accepted built
  obtain ⟨text, inner, entered, printed, parsed, innerBuilt, same⟩ :=
    composes.1 "//".toList (by decide) (by decide) (by decide) (by decide)
  exact ⟨url, urls, text, inner, entered, accepted, built, printed, parsed, innerBuilt,
    (same "/foo".toList).1⟩

end Urls

end Twelve
