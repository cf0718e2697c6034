import Twelve.Http.Message

/-! The cache policy of a separately built frontend: what the middleware forwards
and what it answers. Outside the static namespace it drops three of the five
conditional fields, so of these a response can depend on the other two only. -/

set_option autoImplicit false

namespace Twelve.Cache

variable {Body Reply : Type}

/-- Whether a method and path identify an immutable static asset. -/
def isImmutable (method : Method) (path : Str) : Bool :=
  (method == .get || method == .head) &&
    (Str.stripPrefix path "/static/".toList).any (!·.isEmpty)

def immutableValue : HeaderValue := .fromStatic "public, max-age=31536000, immutable"

def noStoreValue : HeaderValue := .fromStatic "no-store"

def forward (request : Request Body) : Request Body :=
  if isImmutable request.method request.uri.path then request
  else { request with
    headers := ((request.headers.remove HeaderName.ifModifiedSince).remove
      HeaderName.ifNoneMatch).remove HeaderName.ifUnmodifiedSince }

def finish (immutable : Bool) (response : Response Reply) : Response Reply :=
  if immutable && (response.status.isSuccess || response.status == StatusCode.notModified) then
    { response with headers := response.headers.insert HeaderName.cacheControl immutableValue }
  else
    { response with
      headers := (response.headers.remove HeaderName.lastModified).insert
        HeaderName.cacheControl noStoreValue }

def set (next : Service Body Reply) : Service Body Reply := fun request =>
  finish (isImmutable request.method request.uri.path) (next (forward request))

def IsAsset (path : Str) : Prop := ∃ asset, asset ≠ [] ∧ path = "/static/".toList ++ asset

theorem isImmutable_iff {method : Method} {path : Str} :
    isImmutable method path = true ↔ (method = .get ∨ method = .head) ∧ IsAsset path := by
  simp only [isImmutable, Bool.and_eq_true, Bool.or_eq_true, beq_iff_eq, Option.any_eq_true,
    Str.stripPrefix_eq_some_iff, Bool.not_eq_true', List.isEmpty_eq_false_iff, IsAsset]
  constructor
  · intro found
    obtain ⟨safe, asset, same, nonempty⟩ := found
    exact ⟨safe, asset, nonempty, same⟩
  · intro found
    obtain ⟨safe, asset, nonempty, same⟩ := found
    exact ⟨safe, asset, same, nonempty⟩

theorem forward_of_immutable {request : Request Body}
    (immutable : isImmutable request.method request.uri.path = true) :
    forward request = request :=
  if_pos immutable

@[simp] theorem forward_uri (request : Request Body) : (forward request).uri = request.uri := by
  unfold forward
  split <;> rfl

@[simp] theorem forward_method (request : Request Body) :
    (forward request).method = request.method := by
  unfold forward
  split <;> rfl

@[simp] theorem forward_body (request : Request Body) :
    (forward request).body = request.body := by
  unfold forward
  split <;> rfl

@[simp] theorem finish_status (immutable : Bool) (response : Response Reply) :
    (finish immutable response).status = response.status := by
  unfold finish
  split <;> rfl

@[simp] theorem finish_body (immutable : Bool) (response : Response Reply) :
    (finish immutable response).body = response.body := by
  unfold finish
  split <;> rfl

def droppedFields : List HeaderName :=
  [HeaderName.ifModifiedSince, HeaderName.ifNoneMatch, HeaderName.ifUnmodifiedSince]

theorem getAll_forward {request : Request Body}
    (mutable : isImmutable request.method request.uri.path = false) (name : HeaderName) :
    (forward request).headers.getAll name =
      if name ∈ droppedFields then [] else request.headers.getAll name := by
  rw [forward, mutable, if_neg (by decide)]
  simp only [Multimap.getAll_remove, droppedFields, List.mem_cons, List.not_mem_nil, or_false]
  grind

def conditionalFields : List HeaderName :=
  [HeaderName.ifMatch, HeaderName.ifNoneMatch, HeaderName.ifModifiedSince,
    HeaderName.ifUnmodifiedSince, HeaderName.ifRange]

/-- Two requests that may differ in their conditional fields only. -/
structure SameButValidators (first second : Request Body) : Prop where
  method : first.method = second.method
  uri : first.uri = second.uri
  body : first.body = second.body
  headers : Multimap.AgreeOutside conditionalFields first.headers second.headers

/-- No service makes `set` answer the two requests differently. -/
def SameResponses (Reply : Type) (first second : Request Body) : Prop :=
  ∀ next : Service Body Reply, set next first = set next second

/-- What a response can depend on is the forwarded request. -/
theorem set_same_iff_forward [Inhabited Reply] {first second : Request Body}
    (method : first.method = second.method) (uri : first.uri = second.uri) :
    SameResponses Reply first second ↔
      forward first = forward second := by
  classical
  constructor
  · intro same
    -- A service that recognizes one of the two forwarded requests tells them apart.
    let next : Service Body Reply := fun request =>
      ⟨if request = forward first then StatusCode.ok else StatusCode.notFound, .empty, default⟩
    have statuses := congrArg Response.status (same next)
    simp only [set, finish_status] at statuses
    have recognized : (next (forward first)).status = StatusCode.ok := if_pos rfl
    rw [recognized] at statuses
    apply Classical.byContradiction
    intro different
    have missed : (next (forward second)).status = StatusCode.notFound :=
      if_neg fun equal => different equal.symm
    rw [missed] at statuses
    cases statuses
  · intro same next
    rw [set, set, same, method, uri]

private theorem forward_same_iff {first second : Request Body}
    (mutable : isImmutable first.method first.uri.path = false)
    (same : SameButValidators first second) :
    forward first = forward second ↔
      first.headers.getAll HeaderName.ifMatch = second.headers.getAll HeaderName.ifMatch ∧
        first.headers.getAll HeaderName.ifRange = second.headers.getAll HeaderName.ifRange := by
  have alsoMutable : isImmutable second.method second.uri.path = false := by
    rw [← same.method, ← same.uri]
    exact mutable
  have kept : ∀ name, name ∉ droppedFields → forward first = forward second →
      first.headers.getAll name = second.headers.getAll name := by
    intro name undropped equal
    have values := congrArg (fun request => request.headers.getAll name) equal
    simpa only [getAll_forward mutable, getAll_forward alsoMutable, if_neg undropped] using values
  constructor
  · intro equal
    exact ⟨kept _ (by decide) equal, kept _ (by decide) equal⟩
  · intro both
    obtain ⟨ifMatch, ifRange⟩ := both
    have headers : (forward first).headers = (forward second).headers := by
      ext1
      funext name
      rw [getAll_forward mutable, getAll_forward alsoMutable]
      split
      · rfl
      · next undropped =>
          by_cases conditional : name ∈ conditionalFields
          · simp only [conditionalFields, droppedFields, List.mem_cons, List.not_mem_nil,
              or_false, not_or] at conditional undropped
            rcases conditional with rfl | rfl | rfl | rfl | rfl
            · exact ifMatch
            · exact absurd rfl undropped.2.1
            · exact absurd rfl undropped.1
            · exact absurd rfl undropped.2.2
            · exact ifRange
          · exact same.headers name conditional
    apply Request.ext
    · simpa using same.method
    · simpa using same.uri
    · exact headers
    · simpa using same.body

/-- Outside the static namespace no service tells two requests apart exactly when
their `If-Match` and `If-Range` fields are the same. -/
theorem set_ignores_validators_iff [Inhabited Reply] {first second : Request Body}
    (mutable : isImmutable first.method first.uri.path = false)
    (same : SameButValidators first second) :
    SameResponses Reply first second ↔
      first.headers.getAll HeaderName.ifMatch = second.headers.getAll HeaderName.ifMatch ∧
        first.headers.getAll HeaderName.ifRange = second.headers.getAll HeaderName.ifRange := by
  rw [set_same_iff_forward same.method same.uri, forward_same_iff mutable same]

def entryRequest (headers : HeaderMap) : Request Unit := ⟨.get, ⟨"/".toList, none⟩, headers, ()⟩

private theorem entryRequest_same {name : HeaderName} (validator : name ∈ conditionalFields)
    (value : HeaderValue) :
    SameButValidators (entryRequest .empty) (entryRequest (Multimap.empty.insert name value)) :=
  ⟨rfl, rfl, rfl, Multimap.agreeOutside_insert validator .empty value⟩

theorem set_ignores_validators_iff_modifiedSince :
    SameResponses Unit (entryRequest .empty) (entryRequest (Multimap.empty.insert
      HeaderName.ifModifiedSince (.fromStatic "Thu, 01 Jan 2100 00:00:00 GMT"))) :=
  (set_ignores_validators_iff (by rfl) (entryRequest_same (by decide) _)).mpr
    ⟨by rfl, by rfl⟩

theorem set_depends_on_ifMatch :
    let plain := entryRequest .empty
    let validated := entryRequest (Multimap.empty.insert HeaderName.ifMatch (.fromStatic "*"))
    let next : Service Unit Unit := fun request =>
      ⟨if request.headers.getAll HeaderName.ifMatch = [] then StatusCode.ok
        else StatusCode.preconditionFailed, .empty, ()⟩
    isImmutable plain.method plain.uri.path = false ∧ SameButValidators plain validated ∧
      (set next plain).status = StatusCode.ok ∧
      (set next validated).status = StatusCode.preconditionFailed := by
  refine ⟨by rfl, entryRequest_same (by decide) _, by rfl, by rfl⟩

end Twelve.Cache
