import Twelve.Urls.PublicUrl
import Twelve.Http.ReferenceUri

/-! Where navigation URLs lead. A browser reads two leading slashes, or a slash
and a backslash, as the start of another host. The joined reference starts with
one slash; its second character comes from the mount path, or from the given
path where the mount is empty, and neither of the two is checked for both. -/

set_option autoImplicit false

namespace Twelve

/-- A rooted path that is not a network-path reference. -/
def StaysOnHost (reference : Str) : Prop :=
  reference.head? = some '/' ∧ reference[1]? ≠ some '/' ∧ reference[1]? ≠ some '\\'

namespace Urls

/-- Built from an accepted internal prefix or an accepted public URL. -/
inductive Configured (http : UriCrate) : Urls → Prop where
  | internalOnly {scriptName : Str} {urls : Urls} :
      Urls.internalOnly http scriptName = .ok urls → Configured http urls
  | publicUrl {value : Str} {url : PublicUrl http} {urls : Urls} :
      PublicUrl.fromStr value = .ok url → Urls.fromPublicUrl url = .ok urls →
      Configured http urls

/-- Neither the string nor the redirect for a path leads to another host. -/
def NavigationStays (http : UriCrate) (urls : Urls) (path : Str) : Prop :=
  (∀ text, internal http urls path = .ok text → StaysOnHost text) ∧
    ∀ redirect, redirectTo http urls path = .ok redirect → StaysOnHost redirect.location

/-- The character after the first slash of the joined reference. -/
def secondCharacter (scriptName path : Str) : Option Char :=
  match Str.trimEndMatches scriptName '/' with
  | [] => (Str.trimStartMatches path '/').head?
  | _ :: mount => mount.head?

theorem internalOnly_eq_ok {http : UriCrate} {scriptName : Str} {urls : Urls}
    (accepted : internalOnly http scriptName = .ok urls) :
    acceptsInternalOnly http scriptName = true ∧ urls = ⟨scriptName, .internalOnly⟩ := by
  unfold internalOnly at accepted
  split at accepted
  · next checked =>
      cases accepted
      exact ⟨checked, rfl⟩
  · cases accepted

theorem head_of_acceptsInternalOnly {http : UriCrate} {scriptName : Str}
    (accepted : acceptsInternalOnly http scriptName = true) : scriptName.head? = some '/' := by
  simp only [acceptsInternalOnly, Bool.and_eq_true] at accepted
  obtain ⟨rest, same⟩ := List.isPrefixOf_iff_prefix.mp accepted.1.1.1.1
  rw [← same]
  rfl

theorem plain_of_acceptsInternalOnly {http : UriCrate} {scriptName : Str}
    (accepted : acceptsInternalOnly http scriptName = true) : Plain scriptName := by
  simp only [acceptsInternalOnly, Bool.and_eq_true, Bool.not_eq_true'] at accepted
  intro char member
  have listed := Str.containsAny_eq_false_iff.mp accepted.1.1.2 char member
  simp only [List.mem_cons, not_or] at listed
  exact ⟨listed.1, listed.2.1⟩

theorem Configured.rooted {http : UriCrate} {grammar : UriGrammar} (laws : http.Laws grammar)
    {urls : Urls} (configured : urls.Configured http) : urls.Rooted := by
  cases configured with
  | internalOnly accepted =>
      obtain ⟨checked, rfl⟩ := internalOnly_eq_ok accepted
      exact .inr (head_of_acceptsInternalOnly checked)
  | publicUrl accepted built =>
      obtain ⟨spelled, rest, -, spells, same⟩ := PublicUrl.exists_spelling laws accepted
      rw [same] at built
      cases built
      exact spells.rooted

theorem Configured.plain {http : UriCrate} {grammar : UriGrammar} (laws : http.Laws grammar)
    {urls : Urls} (configured : urls.Configured http) : Plain urls.scriptName := by
  cases configured with
  | internalOnly accepted =>
      obtain ⟨checked, rfl⟩ := internalOnly_eq_ok accepted
      exact plain_of_acceptsInternalOnly checked
  | publicUrl accepted built =>
      obtain ⟨spelled, rest, -, spells, same⟩ := PublicUrl.exists_spelling laws accepted
      rw [same] at built
      cases built
      exact (spells.scriptName_allowed laws).1

private theorem prefixedPath_second {urls : Urls} (rooted : urls.Rooted) (path : Str) :
    ∃ tail, prefixedPath urls path = '/' :: tail ∧
      tail.head? = secondCharacter urls.scriptName path := by
  obtain ⟨tail, joined⟩ := rooted.prefixedPath_head path
  refine ⟨tail, joined, ?_⟩
  rw [prefixedPath] at joined
  cases trimmed : Str.trimEndMatches urls.scriptName '/' with
  | nil =>
      rw [trimmed] at joined
      cases joined
      simp only [secondCharacter, trimmed]
  | cons head mount =>
      rw [trimmed] at joined
      simp only [List.cons_append, List.cons.injEq] at joined
      obtain ⟨rfl, rfl⟩ := joined
      -- A mount of one slash would have been trimmed to nothing.
      have nonempty : mount ≠ [] := by
        intro empty
        subst empty
        have again : Str.trimEndMatches (Str.trimEndMatches urls.scriptName '/') '/' =
            Str.trimEndMatches urls.scriptName '/' :=
          Separator.trimEnd_trimEnd '/' urls.scriptName
        rw [trimmed] at again
        exact absurd again (by decide)
      simp only [secondCharacter, trimmed]
      cases mount with
      | nil => exact absurd rfl nonempty
      | cons second mount => rfl

private theorem staysOnHost_withoutFragment (tail : Str) :
    StaysOnHost (withoutFragment ('/' :: tail)) ↔
      tail.head? ≠ some '/' ∧ tail.head? ≠ some '\\' := by
  cases tail with
  | nil => simp [StaysOnHost, withoutFragment]
  | cons second tail =>
      by_cases fragment : second = '#'
      · subst fragment
        simp [StaysOnHost, withoutFragment]
      · simp [StaysOnHost, withoutFragment, fragment]

theorem redirectTo_eq_ok_iff {http : UriCrate} {urls : Urls} {path : Str} {redirect : Redirect} :
    redirectTo http urls path = .ok redirect ↔
      ∃ text, internal http urls path = .ok text ∧ redirect = Redirect.to text := by
  simp only [redirectTo, bind, Except.bind, pure, Except.pure]
  cases internal http urls path with
  | error error => simp
  | ok text => simp [eq_comm]

theorem navigationStays_iff_internal {http : UriCrate} {urls : Urls} {path : Str} :
    NavigationStays http urls path ↔
      ∀ text, internal http urls path = .ok text → StaysOnHost text := by
  constructor
  · exact fun stays => stays.1
  · intro stays
    refine ⟨stays, ?_⟩
    intro redirect returned
    obtain ⟨text, built, rfl⟩ := redirectTo_eq_ok_iff.mp returned
    exact stays text built

/-- Navigation stays on the visitor's host exactly when the crate rejects the
joined reference or its second character is neither a slash nor a backslash. -/
theorem navigationStays_iff {http : UriCrate} {grammar : UriGrammar} (laws : http.Laws grammar)
    {urls : Urls} (configured : urls.Configured http) (path : Str) :
    NavigationStays http urls path ↔
      (http.parsesAsPathAndQuery
          (Str.trimEndMatches urls.scriptName '/' ++ '/' :: Str.trimStartMatches path '/') = true →
        secondCharacter urls.scriptName path ≠ some '/' ∧
        secondCharacter urls.scriptName path ≠ some '\\') := by
  have rooted := configured.rooted laws
  obtain ⟨tail, joined, second⟩ := prefixedPath_second rooted path
  rw [← second, ← staysOnHost_withoutFragment, ← joined, navigationStays_iff_internal]
  constructor
  · intro stays valid
    exact stays _ ((internal_eq_ok_iff laws rooted).mpr ⟨valid, rfl⟩)
  · intro stays text built
    obtain ⟨valid, rfl⟩ := (internal_eq_ok_iff laws rooted).mp built
    exact stays valid

theorem publicUrl_mount_leaves_host :
    ∃ (url : PublicUrl ReferenceUri.crate) (urls : Urls),
      PublicUrl.fromStr "https://example.com//evil.com".toList = .ok url ∧
      fromPublicUrl url = .ok urls ∧
      internal ReferenceUri.crate urls "login".toList = .ok "//evil.com/login".toList ∧
      ¬ NavigationStays ReferenceUri.crate urls "login".toList := by
  let url : PublicUrl ReferenceUri.crate :=
    ⟨ReferenceUri.Uri.mk (some Scheme.https) (some ⟨"example.com".toList⟩) "//evil.com".toList,
      by rfl⟩
  let urls : Urls := ⟨"//evil.com".toList, .external Scheme.https ⟨"example.com".toList⟩⟩
  have rendered : internal ReferenceUri.crate urls "login".toList =
      .ok "//evil.com/login".toList := by rfl
  refine ⟨url, urls, by rfl, by rfl, rendered, ?_⟩
  intro stays
  exact (stays.1 _ rendered).2.1 (by rfl)

theorem navigationStays_iff_backslash :
    NavigationStays ReferenceUri.crate ⟨"/".toList, .internalOnly⟩ "\\evil.com".toList ↔
      (ReferenceUri.crate.parsesAsPathAndQuery
          (Str.trimEndMatches "/".toList '/' ++
            '/' :: Str.trimStartMatches "\\evil.com".toList '/') = true →
        secondCharacter "/".toList "\\evil.com".toList ≠ some '/' ∧
        secondCharacter "/".toList "\\evil.com".toList ≠ some '\\') :=
  have accepted : internalOnly ReferenceUri.crate "/".toList =
      .ok ⟨"/".toList, .internalOnly⟩ := by rfl
  navigationStays_iff ReferenceUri.laws (.internalOnly accepted) "\\evil.com".toList

end Urls

end Twelve
