import Twelve.Urls.Automatic

/-! Which registered sources let extraction panic. A public URL was checked when it
was parsed, and request headers are only ever rejected. An internal prefix is
asserted again for each request, and its variant is public, so a prefix that no
constructor has seen panics there. -/

set_option autoImplicit false

namespace Twelve

variable {http : UriCrate}

/-- Extraction returns, and an internal error is blamed on a missing source alone. -/
structure ExtractionSafe (parts : Parts http) : Prop where
  returns : ∃ outcome, Urls.fromRequestParts parts = .ok outcome
  internalError : Urls.fromRequestParts parts = .ok (.error StatusCode.internalServerError) ↔
    parts.urlSource = none

/-- The sources that can be registered without naming the variant of a prefix. -/
inductive Constructed : Option (UrlSource http) → Prop where
  | missing : Constructed none
  | automatic : Constructed (some .automatic)
  | explicit {value : Str} {url : PublicUrl http} :
      PublicUrl.fromStr value = .ok url → Constructed (some (.explicit url))
  | internal {scriptName : Str} {source : UrlSource http} :
      UrlSource.internal scriptName = .ok source → Constructed (some source)

theorem UrlSource.internal_eq_ok_iff {scriptName : Str} {source : UrlSource http} :
    UrlSource.internal scriptName = .ok source ↔
      Urls.acceptsInternalOnly http scriptName = true ∧ source = .internalOnly scriptName := by
  cases accepted : Urls.acceptsInternalOnly http scriptName with
  | true =>
      simp only [UrlSource.internal, Urls.internalOnly, accepted, if_true, true_and]
      exact ⟨fun built => (Except.ok.inj built).symm, fun same => congrArg _ same.symm⟩
  | false => simp [UrlSource.internal, Urls.internalOnly, accepted, bind, Except.bind]

namespace Urls

theorem fromRequestParts_internalOnly {headers : HeaderMap} {scriptName : Str} :
    fromRequestParts (⟨headers, some (.internalOnly scriptName)⟩ : Parts http) =
      if acceptsInternalOnly http scriptName then .ok (.ok ⟨scriptName, .internalOnly⟩)
      else .error ⟨"invalid internal URL prefix"⟩ := by
  simp only [fromRequestParts, internalOnly]
  split <;> rfl

private theorem outcome_rejection {scriptName : Option Str} {scheme : Option Scheme}
    {text : Option Str}
    {status : StatusCode} (rejected : outcome http scriptName scheme text = .error status) :
    status = StatusCode.badGateway ∨ status = StatusCode.badRequest := by
  cases scriptName with
  | none =>
      cases rejected
      exact .inl rfl
  | some name =>
      cases scheme with
      | none =>
          cases rejected
          exact .inl rfl
      | some proto =>
          cases text with
          | none =>
              cases rejected
              exact .inr rfl
          | some given =>
              simp only [outcome] at rejected
              split at rejected
              · cases rejected
              · cases rejected
                exact .inr rfl

section Laws

variable {grammar : UriGrammar} (laws : http.Laws grammar)
include laws

theorem fromPublicUrl_returns {value : Str} {url : PublicUrl http}
    (accepted : PublicUrl.fromStr value = .ok url) : ∃ urls, fromPublicUrl url = .ok urls := by
  obtain ⟨spelled, rest, -, -, built⟩ := PublicUrl.exists_spelling laws accepted
  exact ⟨_, built⟩

/-- A request is blamed on the client or on the proxy, never on the application. -/
theorem automatic_rejection {headers : HeaderMap} {status : StatusCode}
    (rejected : automatic http headers = .error status) :
    status = StatusCode.badGateway ∨ status = StatusCode.badRequest := by
  rw [automatic_eq_outcome laws] at rejected
  exact outcome_rejection rejected

theorem extraction_safe {parts : Parts http}
    (publicUrls : ∀ url, parts.urlSource = some (.explicit url) →
      ∃ value, PublicUrl.fromStr value = .ok url)
    (prefixes : ∀ scriptName, parts.urlSource = some (.internalOnly scriptName) →
      acceptsInternalOnly http scriptName = true) :
    ExtractionSafe parts := by
  obtain ⟨headers, source⟩ := parts
  cases source with
  | none => exact ⟨⟨_, rfl⟩, iff_of_true rfl rfl⟩
  | some source =>
      cases source with
      | explicit url =>
          obtain ⟨value, parsed⟩ := publicUrls url rfl
          obtain ⟨urls, built⟩ := fromPublicUrl_returns laws parsed
          have returned : fromRequestParts (⟨headers, some (.explicit url)⟩ : Parts http) =
              .ok (.ok urls) := by
            simp [fromRequestParts, built, Except.map]
          refine ⟨⟨_, returned⟩, iff_of_false ?_ (by simp)⟩
          rw [returned]
          simp
      | automatic =>
          refine ⟨⟨_, rfl⟩, iff_of_false ?_ (by simp)⟩
          intro failed
          have rejected := automatic_rejection laws (Except.ok.inj failed)
          exact absurd rejected (by decide)
      | internalOnly scriptName =>
          have returned := @fromRequestParts_internalOnly http headers scriptName
          rw [if_pos (prefixes scriptName rfl)] at returned
          refine ⟨⟨_, returned⟩, iff_of_false ?_ (by simp)⟩
          rw [returned]
          simp

/-- A prefix that went through `UrlSource::internal` can only have panicked there. -/
theorem extraction_safe_of_constructed {parts : Parts http}
    (constructed : Constructed parts.urlSource) : ExtractionSafe parts := by
  obtain ⟨headers, source⟩ := parts
  cases constructed with
  | missing => exact extraction_safe laws (by simp) (by simp)
  | automatic => exact extraction_safe laws (by simp) (by simp)
  | explicit accepted =>
      refine extraction_safe laws ?_ (by simp)
      intro url registered
      cases registered
      exact ⟨_, accepted⟩
  | internal built =>
      obtain ⟨accepted, rfl⟩ := UrlSource.internal_eq_ok_iff.mp built
      refine extraction_safe laws (by simp) ?_
      intro scriptName registered
      cases registered
      exact accepted

/-- Extraction is safe exactly when a registered prefix is one that its constructor accepts. -/
theorem extraction_safe_iff (parts : Parts http)
    (publicUrls : ∀ url, parts.urlSource = some (.explicit url) →
      ∃ value, PublicUrl.fromStr value = .ok url) :
    ExtractionSafe parts ↔
      ∀ scriptName, parts.urlSource = some (.internalOnly scriptName) →
        acceptsInternalOnly http scriptName = true := by
  constructor
  · intro safe scriptName registered
    obtain ⟨outcome, returned⟩ := safe.returns
    obtain ⟨headers, source⟩ := parts
    cases registered
    rw [fromRequestParts_internalOnly] at returned
    split at returned
    · assumption
    · cases returned
  · exact extraction_safe laws publicUrls

end Laws

theorem extraction_safe_iff_app :
    ExtractionSafe (⟨.empty, some (.internalOnly "/app".toList)⟩ : Parts ReferenceUri.crate) := by
  refine (extraction_safe_iff ReferenceUri.laws _ ?_).mpr ?_
  · intro url registered
    cases registered
  · intro scriptName registered
    cases registered
    rfl

theorem registered_prefix_panics :
    let parts : Parts ReferenceUri.crate := ⟨.empty, some (.internalOnly "app".toList)⟩
    fromRequestParts parts = .error ⟨"invalid internal URL prefix"⟩ ∧ ¬ ExtractionSafe parts := by
  constructor
  · rfl
  · intro safe
    obtain ⟨outcome, returned⟩ := safe.returns
    cases returned

end Urls

end Twelve
