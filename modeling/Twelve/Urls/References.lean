import Twelve.Urls.Navigation
import Mathlib.Data.Set.Basic

/-! Whether a generated URL holds the whole of the reference it was asked for. The
parser of the `http` crate accepts a fragment and forgets it, so a reference with a
fragment is printed without one. Every other reference is printed as it is joined,
or rejected. -/

set_option autoImplicit false

namespace Twelve.Urls

/-- What is asked for with a path: the mount, one slash, and the path without its
first slashes. -/
def requested (urls : Urls) (path : Str) : Str :=
  Str.trimEndMatches urls.scriptName '/' ++ '/' :: Str.trimStartMatches path '/'

/-- Nothing of the given references is lost, and different ones are told apart. -/
structure LosesNothing (http : UriCrate) (urls : Urls) (references : Set Str) : Prop where
  internal : ∀ path ∈ references, ∀ text, internal http urls path = .ok text →
    text = requested urls path
  external : ∀ path ∈ references, ∀ text, external http urls path = .ok text →
    ∃ scheme authority, urls.origin = .external scheme authority ∧
      text = scheme.asStr ++ "://".toList ++ authority.asStr ++ requested urls path
  /-- A panic of the one goes with a failure of the other. -/
  rejected : ∀ path ∈ references, ∀ panic, Urls.internal http urls path = .error panic →
    ∃ error, Urls.external http urls path = .error error
  apart : ∀ first ∈ references, ∀ second ∈ references,
    Str.trimStartMatches first '/' ≠ Str.trimStartMatches second '/' →
      (∀ text, Urls.internal http urls first = .ok text →
        Urls.internal http urls second ≠ .ok text) ∧
      (∀ text, Urls.external http urls first = .ok text →
        Urls.external http urls second ≠ .ok text) ∧
      ∀ redirect other, redirectTo http urls first = .ok redirect →
        redirectTo http urls second = .ok other → redirect.location ≠ other.location

private theorem requested_injective {urls : Urls} {first second : Str}
    (same : requested urls first = requested urls second) :
    Str.trimStartMatches first '/' = Str.trimStartMatches second '/' := by
  have tails := List.append_cancel_left same
  exact (List.cons.inj tails).2

private theorem fragment_mem_requested {urls : Urls} (plain : Plain urls.scriptName) {path : Str} :
    '#' ∈ requested urls path ↔ '#' ∈ path := by
  constructor
  · intro member
    rcases List.mem_append.mp member with mount | given
    · exact absurd (Separator.trimEnd_subset _ _ mount) plain.not_mem_fragment
    · rcases List.mem_cons.mp given with slash | inside
      · cases slash
      · exact Separator.trimStart_subset _ _ inside
  · intro member
    refine List.mem_append_right _ (List.mem_cons_of_mem _ ?_)
    -- Only slashes are dropped from the front of the path.
    have split := List.takeWhile_append_dropWhile (p := (· == '/')) (l := path)
    rw [← split] at member
    rcases List.mem_append.mp member with slash | inside
    · have dropped := List.mem_takeWhile_imp slash
      cases dropped
    · exact inside

/-- The crate sees all of the joined reference, or rejects it. -/
def SeenWhole (http : UriCrate) (urls : Urls) (path : Str) : Prop :=
  http.parsesAsPathAndQuery (requested urls path) = true → '#' ∉ requested urls path

section Laws

variable {http : UriCrate} {grammar : UriGrammar} (laws : http.Laws grammar)
  {urls : Urls} (rooted : urls.Rooted) {path first second text : Str}
include laws rooted

theorem internal_eq_requested (whole : SeenWhole http urls path)
    (printed : internal http urls path = .ok text) : text = requested urls path := by
  obtain ⟨valid, same⟩ := (internal_eq_ok_iff laws rooted).mp printed
  rw [same]
  exact withoutFragment_eq_self (whole valid)

theorem external_eq_requested (whole : SeenWhole http urls path)
    (printed : external http urls path = .ok text) :
    ∃ scheme authority, urls.origin = .external scheme authority ∧
      text = scheme.asStr ++ "://".toList ++ authority.asStr ++ requested urls path := by
  cases origin : urls.origin with
  | internalOnly =>
      rw [external, origin] at printed
      cases printed
  | external scheme authority =>
      obtain ⟨valid, same⟩ := (external_eq_ok_iff laws rooted origin).mp printed
      refine ⟨scheme, authority, rfl, ?_⟩
      rw [same]
      exact congrArg _ (withoutFragment_eq_self (whole valid))

theorem external_error_of_internal {panic : Panic}
    (panics : internal http urls path = .error panic) :
    ∃ error, external http urls path = .error error := by
  cases failed : external http urls path with
  | error error => exact ⟨error, rfl⟩
  | ok text =>
      cases origin : urls.origin with
      | internalOnly =>
          rw [external, origin] at failed
          cases failed
      | external scheme authority =>
          obtain ⟨valid, -⟩ := (external_eq_ok_iff laws rooted origin).mp failed
          have printed := (internal_eq_ok_iff laws rooted).mpr ⟨valid, rfl⟩
          rw [panics] at printed
          cases printed

private theorem internal_apart (firstWhole : SeenWhole http urls first)
    (secondWhole : SeenWhole http urls second)
    (different : Str.trimStartMatches first '/' ≠ Str.trimStartMatches second '/')
    (printed : internal http urls first = .ok text) : internal http urls second ≠ .ok text := by
  intro again
  have firstSame := internal_eq_requested laws rooted firstWhole printed
  have secondSame := internal_eq_requested laws rooted secondWhole again
  exact different (requested_injective (firstSame.symm.trans secondSame))

private theorem external_apart (firstWhole : SeenWhole http urls first)
    (secondWhole : SeenWhole http urls second)
    (different : Str.trimStartMatches first '/' ≠ Str.trimStartMatches second '/')
    (printed : external http urls first = .ok text) : external http urls second ≠ .ok text := by
  intro again
  obtain ⟨scheme, authority, origin, firstSame⟩ :=
    external_eq_requested laws rooted firstWhole printed
  obtain ⟨otherScheme, otherAuthority, otherOrigin, secondSame⟩ :=
    external_eq_requested laws rooted secondWhole again
  rw [origin] at otherOrigin
  cases otherOrigin
  have joined := List.append_cancel_left (firstSame.symm.trans secondSame)
  exact different (requested_injective joined)

private theorem redirectTo_apart (firstWhole : SeenWhole http urls first)
    (secondWhole : SeenWhole http urls second)
    (different : Str.trimStartMatches first '/' ≠ Str.trimStartMatches second '/')
    {redirect other : Redirect} (returned : redirectTo http urls first = .ok redirect)
    (otherReturned : redirectTo http urls second = .ok other) :
    redirect.location ≠ other.location := by
  obtain ⟨text, printed, rfl⟩ := redirectTo_eq_ok_iff.mp returned
  obtain ⟨otherText, again, rfl⟩ := redirectTo_eq_ok_iff.mp otherReturned
  intro same
  change text = otherText at same
  rw [← same] at again
  exact internal_apart laws rooted firstWhole secondWhole different printed again

theorem losesNothing_of_seenWhole {references : Set Str}
    (whole : ∀ path ∈ references, SeenWhole http urls path) :
    LosesNothing http urls references := by
  constructor
  · intro path member text printed
    exact internal_eq_requested laws rooted (whole path member) printed
  · intro path member text printed
    exact external_eq_requested laws rooted (whole path member) printed
  · intro path _ panic panics
    exact external_error_of_internal laws rooted panics
  · intro first firstMember second secondMember different
    have firstWhole := whole first firstMember
    have secondWhole := whole second secondMember
    refine ⟨?_, ?_, ?_⟩
    · intro text printed
      exact internal_apart laws rooted firstWhole secondWhole different printed
    · intro text printed
      exact external_apart laws rooted firstWhole secondWhole different printed
    · intro redirect other returned otherReturned
      exact redirectTo_apart laws rooted firstWhole secondWhole different returned otherReturned

theorem LosesNothing.seenWhole {references : Set Str} (kept : LosesNothing http urls references)
    (member : path ∈ references) : SeenWhole http urls path := by
  intro valid fragment
  have printed := (internal_eq_ok_iff laws rooted).mpr ⟨valid, rfl⟩
  have whole : withoutFragment (requested urls path) = requested urls path :=
    kept.internal path member _ printed
  rw [← whole] at fragment
  have absent := List.mem_takeWhile_imp fragment
  cases absent

omit rooted in
/-- References are kept whole and apart exactly when the crate rejects every one of
them that has a fragment. -/
theorem losesNothing_iff {urls : Urls} (configured : urls.Configured http) (references : Set Str) :
    LosesNothing http urls references ↔
      ∀ path ∈ references, '#' ∈ path →
        http.parsesAsPathAndQuery (requested urls path) = false := by
  have rooted := configured.rooted laws
  have plain := configured.plain laws
  constructor
  · intro kept path member fragment
    apply Bool.eq_false_iff.mpr
    intro valid
    exact kept.seenWhole laws rooted member valid ((fragment_mem_requested plain).mpr fragment)
  · intro rejected
    apply losesNothing_of_seenWhole laws rooted
    intro path member valid fragment
    have invalid := rejected path member ((fragment_mem_requested plain).mp fragment)
    rw [valid] at invalid
    cases invalid

end Laws

theorem internal_drops_fragment :
    internalOnly ReferenceUri.crate "/app".toList = .ok ⟨"/app".toList, .internalOnly⟩ ∧
      internal ReferenceUri.crate ⟨"/app".toList, .internalOnly⟩ "a#b".toList =
        .ok "/app/a".toList ∧
      internal ReferenceUri.crate ⟨"/app".toList, .internalOnly⟩ "a".toList =
        .ok "/app/a".toList ∧
      ¬ LosesNothing ReferenceUri.crate ⟨"/app".toList, .internalOnly⟩ Set.univ := by
  have fragment : internal ReferenceUri.crate ⟨"/app".toList, .internalOnly⟩ "a#b".toList =
      .ok "/app/a".toList := by rfl
  refine ⟨by rfl, fragment, by rfl, ?_⟩
  intro kept
  have whole := kept.internal _ (Set.mem_univ _) _ fragment
  exact absurd whole (by decide)

theorem losesNothing_iff_queries :
    LosesNothing ReferenceUri.crate ⟨"/app".toList, .internalOnly⟩ {path | '#' ∉ path} :=
  have accepted : internalOnly ReferenceUri.crate "/app".toList =
      .ok ⟨"/app".toList, .internalOnly⟩ := by rfl
  (losesNothing_iff ReferenceUri.laws (.internalOnly accepted) _).mpr
    fun _ plain fragment => absurd fragment plain

end Twelve.Urls
