import Twelve.Urls
import Twelve.Http.UriProperties

/-! A site is what a `Urls` value stands for: an origin, if there is one, and a
mount path without slashes at its end. References are joined to the mount path
with one slash. URL generation depends on the site alone, so two `Urls` values
for one site cannot be told apart. -/

set_option autoImplicit false

namespace Twelve

structure Site where
  origin : Origin
  mount : Str
  trimmed : Separator.trimEnd '/' mount = mount

namespace Site

/-- The path that a reference names at this site, with its query and fragment. -/
def reference (site : Site) (path : Str) : Str := Separator.join '/' site.mount path

def enter (site : Site) (path : Str) : Site :=
  ⟨site.origin, Separator.trimEnd '/' (site.reference path), Separator.trimEnd_trimEnd '/' _⟩

theorem ext_of_eq {first second : Site} (origin : first.origin = second.origin)
    (mount : first.mount = second.mount) : first = second := by
  obtain ⟨firstOrigin, firstMount, firstTrimmed⟩ := first
  obtain ⟨secondOrigin, secondMount, secondTrimmed⟩ := second
  cases origin
  cases mount
  rfl

/-- References compose: entering a site and joining is joining twice. -/
theorem reference_enter (site : Site) (outer inner : Str) :
    (site.enter outer).reference inner = site.reference (Separator.join '/' outer inner) := by
  rw [reference, enter, Separator.join_trimEnd, reference, Separator.join_assoc, reference]

theorem reference_replicate (site : Site) (count : Nat) (path : Str) :
    site.reference (List.replicate count '/' ++ path) = site.reference path :=
  Separator.join_replicate_append '/' site.mount path count

end Site

namespace Urls

def site (urls : Urls) : Site :=
  ⟨urls.origin, Str.trimEndMatches urls.scriptName '/', Separator.trimEnd_trimEnd '/' _⟩

theorem prefixedPath_eq_reference (urls : Urls) (path : Str) :
    prefixedPath urls path = urls.site.reference path :=
  (Separator.join_trimEnd '/' urls.scriptName path).symm

/-- Everything a caller can ask of a `Urls` value. -/
structure Agree (http : UriCrate) (left right : Urls) : Prop where
  internal : ∀ path, internal http left path = internal http right path
  external : ∀ path, external http left path = external http right path
  publicHost : left.publicHost = right.publicHost

theorem internal_eq_of_reference (http : UriCrate) {left right : Urls} {first second : Str}
    (same : left.site.reference first = right.site.reference second) :
    Urls.internal http left first = Urls.internal http right second := by
  rw [Urls.internal, Urls.internal, prefixedPath_eq_reference, prefixedPath_eq_reference, same]

theorem external_eq_of_reference (http : UriCrate) {left right : Urls} {first second : Str}
    (origin : left.site.origin = right.site.origin)
    (same : left.site.reference first = right.site.reference second) :
    Urls.external http left first = Urls.external http right second := by
  change left.origin = right.origin at origin
  rw [Urls.external, Urls.external, prefixedPath_eq_reference, prefixedPath_eq_reference, same,
    origin]

theorem agree_of_site_eq (http : UriCrate) {left right : Urls} (same : left.site = right.site) :
    Agree http left right := by
  constructor
  · exact fun path => internal_eq_of_reference http (by rw [same])
  · exact fun path => external_eq_of_reference http (by rw [same]) (by rw [same])
  · have origins : left.origin = right.origin := congrArg Site.origin same
    rw [Urls.publicHost, Urls.publicHost, origins]

def Rooted (urls : Urls) : Prop := urls.scriptName = [] ∨ urls.scriptName.head? = some '/'

theorem Rooted.prefixedPath_head {urls : Urls} (rooted : urls.Rooted) (path : Str) :
    ∃ tail, prefixedPath urls path = '/' :: tail := by
  rcases trimmed : Str.trimEndMatches urls.scriptName '/' with _ | ⟨head, mount⟩
  · exact ⟨_, by rw [prefixedPath, trimmed]; rfl⟩
  · have kept : (head :: mount) <+: urls.scriptName := by
      rw [← trimmed]
      exact List.rdropWhile_prefix _ _
    obtain ⟨slashes, whole⟩ := kept
    rcases rooted with empty | slash
    · rw [empty] at whole
      cases whole
    · rw [← whole] at slash
      cases slash
      exact ⟨_, by rw [prefixedPath, trimmed]; rfl⟩

theorem plain_prefixedPath {urls : Urls} (mount : Plain urls.scriptName) {path : Str}
    (plain : Plain path) : Plain (prefixedPath urls path) := by
  rw [prefixedPath, plain_append]
  refine ⟨mount.of_subset (Separator.trimEnd_subset _ _), ?_⟩
  intro char member
  rcases List.mem_cons.mp member with rfl | given
  · decide
  · exact plain char (Separator.trimStart_subset _ _ given)

theorem withoutFragment_prefixedPath {urls : Urls} (plain : Plain urls.scriptName) {path : Str}
    (noFragment : '#' ∉ path) :
    withoutFragment (prefixedPath urls path) = prefixedPath urls path := by
  apply withoutFragment_eq_self
  intro member
  simp only [prefixedPath, List.mem_append, List.mem_cons] at member
  rcases member with base | slash | given
  · exact (plain.of_subset (Separator.trimEnd_subset _ _)).not_mem_fragment base
  · cases slash
  · exact noFragment (Separator.trimStart_subset _ _ given)

section Laws

variable {http : UriCrate} {grammar : UriGrammar} (laws : http.Laws grammar)
include laws

private theorem build_rooted {text : Str} (rooted : ∃ tail, text = '/' :: tail)
    (origin : Option (Scheme × Authority)) :
    (http.parsesAsPathAndQuery text = true ∧ ∃ uri, http.build origin text = .ok uri ∧
      http.toString uri = originText origin ++ withoutFragment text) ∨
    (http.parsesAsPathAndQuery text = false ∧ ∃ error, http.build origin text = .error error) := by
  obtain ⟨tail, rfl⟩ := rooted
  have outcome := laws.build_isOk origin ('/' :: tail) rfl
  cases built : http.build origin ('/' :: tail) with
  | ok uri =>
      rw [built] at outcome
      exact .inl ⟨outcome.symm, uri, rfl,
        laws.build_toString origin '/' tail uri (by decide) (by decide) built⟩
  | error error =>
      rw [built] at outcome
      exact .inr ⟨outcome.symm, error, rfl⟩

theorem internal_eq_ok_iff {urls : Urls} (rooted : urls.Rooted) {path text : Str} :
    internal http urls path = .ok text ↔
      http.parsesAsPathAndQuery (prefixedPath urls path) = true ∧
        text = withoutFragment (prefixedPath urls path) := by
  rcases build_rooted laws (rooted.prefixedPath_head path) none with
    ⟨valid, uri, built, printed⟩ | ⟨invalid, error, failed⟩
  · simp only [internal, built, valid, true_and, Except.ok.injEq]
    rw [printed, originText, List.nil_append]
    exact eq_comm
  · simp [internal, failed, invalid]

theorem external_eq_ok_iff {urls : Urls} (rooted : urls.Rooted) {scheme : Scheme}
    {authority : Authority} (origin : urls.origin = .external scheme authority) {path text : Str} :
    external http urls path = .ok text ↔
      http.parsesAsPathAndQuery (prefixedPath urls path) = true ∧
        text = originText (some (scheme, authority)) ++
          withoutFragment (prefixedPath urls path) := by
  rcases build_rooted laws (rooted.prefixedPath_head path) (some (scheme, authority)) with
    ⟨valid, uri, built, printed⟩ | ⟨invalid, error, failed⟩
  · simp only [external, origin, built, valid, true_and, Except.ok.injEq]
    rw [printed]
    exact eq_comm
  · simp [external, origin, failed, invalid]

theorem parses_prefixedPath {urls : Urls} (rooted : urls.Rooted) {path : Str}
    (plain : Plain urls.scriptName)
    (allowed : ∀ char ∈ urls.scriptName, grammar.pathChar char = true)
    (valid : http.parsesAsPathAndQuery ('/' :: Str.trimStartMatches path '/') = true)
    (fits : Str.byteLen (prefixedPath urls path) ≤ grammar.maxLen) :
    http.parsesAsPathAndQuery (prefixedPath urls path) = true := by
  have subset : Str.trimEndMatches urls.scriptName '/' ⊆ urls.scriptName :=
    (Separator.trimEnd_subset _ _)
  have head : (prefixedPath urls path).head? = some '/' := by
    obtain ⟨tail, same⟩ := rooted.prefixedPath_head path
    rw [same]
    rfl
  refine laws.pathAndQuery_complete _ head fits ?_
  rw [prefixedPath, grammar.pathAndQuery_append_iff (plain.of_subset subset)]
  exact ⟨fun char member => allowed char (subset member),
    laws.pathAndQuery_sound _ rfl valid⟩

end Laws

end Urls

end Twelve
