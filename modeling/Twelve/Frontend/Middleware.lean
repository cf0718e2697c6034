import Twelve.Frontend.Version

/-! The two frontend middleware as layers of field edits. Each is idempotent since an
edit that is repeated changes nothing, and they commute since they edit different
fields and neither changes what the other one looks at. -/

set_option autoImplicit false

namespace Twelve.Frontend

open Cache (forward finish isImmutable immutableValue noStoreValue)
open Version (Environment FrontendVersion Advertises attach headerName)

variable {Body Reply OsError InvalidHeaderValue : Type}

def editHeaders (response : Response Reply) (changes : HeaderName → Option (List HeaderValue)) :
    Response Reply :=
  { response with headers := response.headers.edit changes }

private theorem editHeaders_editHeaders_self (response : Response Reply)
    (changes : HeaderName → Option (List HeaderValue)) :
    editHeaders (editHeaders response changes) changes = editHeaders response changes :=
  congrArg (fun headers => { response with headers := headers })
    (Multimap.edit_edit_self response.headers changes)

private theorem editHeaders_comm {first second : HeaderName → Option (List HeaderValue)}
    (apart : ∀ name, first name = none ∨ second name = none) (response : Response Reply) :
    editHeaders (editHeaders response first) second =
      editHeaders (editHeaders response second) first :=
  congrArg (fun headers => { response with headers := headers })
    (Multimap.edit_comm apart response.headers)

/-! ## The cache policy -/

/-- A response that the policy lets a client store. -/
def isCached (immutable : Bool) (status : StatusCode) : Bool :=
  immutable && (status.isSuccess || status == StatusCode.notModified)

def cacheChanges : Bool → HeaderName → Option (List HeaderValue)
  | true => Function.update (fun _ => none) HeaderName.cacheControl (some [immutableValue])
  | false => Function.update (Function.update (fun _ => none) HeaderName.lastModified (some []))
      HeaderName.cacheControl (some [noStoreValue])

def forwardChanges : Bool → HeaderName → Option (List HeaderValue)
  | true => fun _ => none
  | false => Function.update (Function.update (Function.update (fun _ => none)
      HeaderName.ifModifiedSince (some [])) HeaderName.ifNoneMatch (some []))
      HeaderName.ifUnmodifiedSince (some [])

theorem finish_eq_editHeaders (immutable : Bool) (response : Response Reply) :
    finish immutable response =
      editHeaders response (cacheChanges (isCached immutable response.status)) := by
  unfold finish
  cases cached : isCached immutable response.status with
  | true =>
      rw [isCached] at cached
      rw [if_pos cached, Multimap.insert, Multimap.setAll_eq_edit]
      rfl
  | false =>
      rw [isCached] at cached
      rw [if_neg (by simp [cached]), Multimap.insert, Multimap.remove,
        Multimap.setAll_eq_edit response.headers, Multimap.setAll_edit]
      rfl

theorem forward_headers (request : Request Body) :
    (forward request).headers =
      request.headers.edit (forwardChanges (isImmutable request.method request.uri.path)) := by
  unfold forward
  cases isImmutable request.method request.uri.path with
  | true => exact (Multimap.edit_none request.headers).symm
  | false =>
      simp only [Bool.false_eq_true, if_false, Multimap.remove]
      rw [Multimap.setAll_eq_edit request.headers, Multimap.setAll_edit, Multimap.setAll_edit]
      rfl

private theorem forward_forward (request : Request Body) :
    forward (forward request) = forward request := by
  apply Request.ext
  · simp
  · simp
  · rw [forward_headers (forward request), Cache.forward_method, Cache.forward_uri,
      forward_headers request, Multimap.edit_edit_self]
  · simp

def cacheLayer : Layer (Request Body) (Response Reply) where
  before := forward
  after request := finish (isImmutable request.method request.uri.path)

theorem set_eq_wrap (next : Service Body Reply) : Cache.set next = cacheLayer.wrap next := rfl

theorem cacheLayer_idempotent :
    IsIdempotentElem (cacheLayer : Layer (Request Body) (Response Reply)) := by
  apply Layer.isIdempotentElem_of
  · exact forward_forward
  · intro request response
    simp only [cacheLayer, Cache.forward_method, Cache.forward_uri]
    rw [finish_eq_editHeaders, Cache.finish_status, finish_eq_editHeaders,
      editHeaders_editHeaders_self]

/-! ## The version header -/

def versionChanges : Option HeaderValue → HeaderName → Option (List HeaderValue)
  | none => fun _ => none
  | some value => Function.update (fun _ => none) headerName (some [value])

def versionLayer (version : Option HeaderValue) : Layer (Request Body) (Response Reply) where
  before := id
  after _ response := editHeaders response (versionChanges version)

theorem attach_eq_wrap (environment : Environment OsError InvalidHeaderValue)
    (version : FrontendVersion) (next : Service Body Reply) :
    attach environment version next =
      (versionLayer (Version.read environment version.manifest).toOption).wrap next := by
  funext request
  simp only [attach, Layer.wrap, versionLayer, id]
  cases (Version.read environment version.manifest).toOption with
  | none => rfl
  | some value =>
      simp only [Multimap.insert, Multimap.setAll_eq_edit]
      rfl

theorem versionLayer_idempotent (version : Option HeaderValue) :
    IsIdempotentElem (versionLayer version : Layer (Request Body) (Response Reply)) := by
  apply Layer.isIdempotentElem_of
  · intro request
    rfl
  · intro request response
    exact editHeaders_editHeaders_self response (versionChanges version)

theorem versionChanges_of_ne {name : HeaderName} (different : name ≠ headerName)
    (version : Option HeaderValue) : versionChanges version name = none := by
  cases version with
  | none => rfl
  | some value => rw [versionChanges, Function.update_of_ne different]

theorem cacheChanges_headerName (cached : Bool) : cacheChanges cached headerName = none := by
  cases cached <;> rfl

theorem layers_commute (version : Option HeaderValue) :
    Commute (cacheLayer : Layer (Request Body) (Response Reply)) (versionLayer version) := by
  apply Layer.commute_of
  · intro request
    rfl
  · intro request response
    simp only [cacheLayer, versionLayer, id, finish_eq_editHeaders]
    refine editHeaders_comm ?_ response
    intro name
    by_cases same : name = headerName
    · rw [same]
      exact .inr (cacheChanges_headerName _)
    · exact .inl (versionChanges_of_ne same version)

/-! ## Both together -/

theorem cacheChanges_cacheControl (cached : Bool) :
    cacheChanges cached HeaderName.cacheControl =
      some [if cached then immutableValue else noStoreValue] := by
  cases cached <;> rfl

theorem cacheChanges_of_ne {cached : Bool} {name : HeaderName}
    (notControl : name ≠ HeaderName.cacheControl)
    (kept : cached = true ∨ name ≠ HeaderName.lastModified) : cacheChanges cached name = none := by
  cases cached with
  | true => rw [cacheChanges, Function.update_of_ne notControl]
  | false =>
      have notModified : name ≠ HeaderName.lastModified := kept.resolve_left (by decide)
      rw [cacheChanges, Function.update_of_ne notControl, Function.update_of_ne notModified]

private theorem set_attach_eq_editHeaders (environment : Environment OsError InvalidHeaderValue)
    (version : FrontendVersion) (next : Service Body Reply) (request : Request Body) :
    Cache.set (attach environment version next) request =
      editHeaders (editHeaders (next (forward request))
          (versionChanges (Version.read environment version.manifest).toOption))
        (cacheChanges (isCached (isImmutable request.method request.uri.path)
          (next (forward request)).status)) := by
  rw [attach_eq_wrap, Cache.set, finish_eq_editHeaders]
  rfl

/-- What the two middleware make of the response of the inner service. -/
structure OwnHeadersOnly (environment : Environment OsError InvalidHeaderValue) (manifest : Str)
    (cached : Bool) (inner response : Response Reply) : Prop where
  status : response.status = inner.status
  body : response.body = inner.body
  cacheControl : response.headers.getAll HeaderName.cacheControl =
    [if cached then immutableValue else noStoreValue]
  version : ∀ value, Advertises environment manifest value →
    response.headers.getAll headerName = [value]
  versionKept : (∀ value, ¬ Advertises environment manifest value) →
    response.headers.getAll headerName = inner.headers.getAll headerName
  others : ∀ name, name ≠ HeaderName.cacheControl → name ≠ headerName →
    (cached = true ∨ name ≠ HeaderName.lastModified) →
    response.headers.getAll name = inner.headers.getAll name

private theorem set_attach_ownHeadersOnly (environment : Environment OsError InvalidHeaderValue)
    (version : FrontendVersion) (next : Service Body Reply) (request : Request Body) :
    OwnHeadersOnly environment version.manifest
      (isCached (isImmutable request.method request.uri.path) (next (forward request)).status)
      (next (forward request)) (Cache.set (attach environment version next) request) := by
  rw [set_attach_eq_editHeaders]
  constructor
  · rfl
  · rfl
  · exact Multimap.getAll_edit_of_some (cacheChanges_cacheControl _) _
  · intro value advertised
    rw [(Version.read_eq_ok_iff environment).mpr advertised]
    refine (Multimap.getAll_edit_of_none (cacheChanges_headerName _) _).trans ?_
    exact Multimap.getAll_edit_of_some (Function.update_self headerName _ _) _
  · intro unadvertised
    have failed : (Version.read environment version.manifest).toOption = none := by
      cases outcome : Version.read environment version.manifest with
      | error error => rfl
      | ok value =>
          exact absurd ((Version.read_eq_ok_iff environment).mp outcome) (unadvertised value)
    rw [failed]
    exact Multimap.getAll_edit_of_none (cacheChanges_headerName _) _
  · intro name notControl notVersion kept
    refine (Multimap.getAll_edit_of_none (cacheChanges_of_ne notControl kept) _).trans ?_
    exact Multimap.getAll_edit_of_none (versionChanges_of_ne notVersion _) _

/-- The two middleware are idempotent and commute, and in their common response they
touch only their own headers. -/
theorem middleware_laws (environment : Environment OsError InvalidHeaderValue)
    (version : FrontendVersion) (next : Service Body Reply) :
    Cache.set (Cache.set next) = Cache.set next ∧
    attach environment version (attach environment version next) =
      attach environment version next ∧
    Cache.set (attach environment version next) = attach environment version (Cache.set next) ∧
    ∀ request, OwnHeadersOnly environment version.manifest
      (isCached (isImmutable request.method request.uri.path) (next (forward request)).status)
      (next (forward request)) (Cache.set (attach environment version next) request) := by
  refine ⟨?_, ?_, ?_, ?_⟩
  · simp only [set_eq_wrap]
    exact Layer.wrap_wrap cacheLayer_idempotent next
  · simp only [attach_eq_wrap]
    exact Layer.wrap_wrap (versionLayer_idempotent _) next
  · simp only [set_eq_wrap, attach_eq_wrap]
    exact Layer.wrap_comm (layers_commute _) next
  · exact set_attach_ownHeadersOnly environment version next

/-! ## Routers -/

/-- A router stands for the service that its layers are around. What axum's `Router` adds to
a response outside its layers, `Content-Length` and the `Allow` of its own rejections of a
method, is not part of it. -/
def withFrontendCache (router : Service Body Reply) : Service Body Reply := Cache.set router

def withFrontendVersion (environment : Environment OsError InvalidHeaderValue) (frontend : Str)
    (router : Service Body Reply) : Service Body Reply :=
  attach environment (FrontendVersion.new frontend) router

end Twelve.Frontend
