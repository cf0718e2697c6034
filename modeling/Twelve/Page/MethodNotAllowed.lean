import Twelve.Http.Uri
import Twelve.Page

/-! The pages of a path that is not found and of a method that is not allowed, and the
middleware that replaces the body of a 405 response by such a page. The page is rendered
from the method alone and becomes a new response, so the header fields of the response it
replaces are gone, the allowed methods among them. -/

set_option autoImplicit false

namespace Twelve

def Method.asStr : Method → Str
  | .options => "OPTIONS".toList
  | .get => "GET".toList
  | .post => "POST".toList
  | .put => "PUT".toList
  | .delete => "DELETE".toList
  | .head => "HEAD".toList
  | .trace => "TRACE".toList
  | .connect => "CONNECT".toList
  | .patch => "PATCH".toList
  | .extension name => name

/-- What the sources use of axum's responses and of `html-escape`, with the state that
decides about details. -/
structure PageContext (Reply : Type) where
  /-- `(status, Html(text)).into_response()`. -/
  respond : StatusCode → Str → Response Reply
  bodyOf : Str → Reply
  encodeText : Str → Str
  statusText : StatusCode → Str
  stored : Option Bool
  debug : Option Str

/-- The status of the tuple is the status of the response, whose body is the text, and
`Html` describes the text by its content type. -/
structure PageContext.Laws {Reply : Type} (context : PageContext Reply) : Prop where
  status : ∀ status text, (context.respond status text).status = status
  body : ∀ status text, (context.respond status text).body = context.bodyOf text
  headers : ∀ status text name, name ≠ HeaderName.contentType →
    (context.respond status text).headers.getAll name = []

variable {Body Reply : Type}

def ErrorPage.intoResponse (context : PageContext Reply) (page : ErrorPage) : Response Reply :=
  context.respond page.error.statusCode
    (page.render context.encodeText context.statusText context.stored context.debug)

structure MethodNotAllowed where
  method : Method

namespace MethodNotAllowed

def appError (error : MethodNotAllowed) : AppError where
  error := .root ("method not allowed: ".toList ++ error.method.asStr)
  statusCode := StatusCode.methodNotAllowed

def middleware (context : PageContext Reply) (next : Service Body Reply) : Service Body Reply :=
  fun request =>
    let method := request.method
    let response := next request
    if response.status == StatusCode.methodNotAllowed then
      ErrorPage.intoResponse context ⟨(MethodNotAllowed.mk method).appError⟩
    else response

def page (method : Method) : ErrorPage := ⟨(MethodNotAllowed.mk method).appError⟩

/-- The page names the method, whether or not details are enabled. -/
theorem decode_page {encodeText : Str → Str} (encodes : ErrorPage.EncodesText encodeText)
    (statusText : StatusCode → Str) (stored : Option Bool) (debug : Option Str) (method : Method) :
    ErrorPage.decode ((page method).render encodeText statusText stored debug) =
      some (statusText StatusCode.methodNotAllowed,
        ["method not allowed: ".toList ++ method.asStr]) := by
  have visible : (page method).error.userVisible = true := by rfl
  rw [ErrorPage.decode_render encodes, ErrorPage.shown, visible, Bool.or_true, if_pos rfl]
  rfl

/-- The fields that describe a replaced body. -/
def bodyFields : List HeaderName :=
  [HeaderName.contentType, HeaderName.contentLength, HeaderName.contentEncoding]

/-- The body of a 405 response is replaced, and everything else is left as it was. -/
structure KeepsMetadata (context : PageContext Reply) (next : Service Body Reply)
    (request : Request Body) : Prop where
  status : (middleware context next request).status = (next request).status
  unchanged : (next request).status ≠ StatusCode.methodNotAllowed →
    middleware context next request = next request
  body : (next request).status = StatusCode.methodNotAllowed →
    (middleware context next request).body = context.bodyOf
      ((page request.method).render context.encodeText context.statusText context.stored
        context.debug)
  headers : (next request).status = StatusCode.methodNotAllowed → ∀ name, name ∉ bodyFields →
    (middleware context next request).headers.getAll name = (next request).headers.getAll name

variable {context : PageContext Reply} {next : Service Body Reply} {request : Request Body}

theorem middleware_of_ne (other : (next request).status ≠ StatusCode.methodNotAllowed) :
    middleware context next request = next request := by
  simp [middleware, other]

theorem middleware_of_eq (rejected : (next request).status = StatusCode.methodNotAllowed) :
    middleware context next request = (page request.method).intoResponse context := by
  simp [middleware, rejected, page]

section Laws

variable (laws : context.Laws)
include laws

theorem intoResponse_status (method : Method) :
    ((page method).intoResponse context).status = StatusCode.methodNotAllowed :=
  laws.status _ _

theorem middleware_status : (middleware context next request).status = (next request).status := by
  by_cases rejected : (next request).status = StatusCode.methodNotAllowed
  · rw [middleware_of_eq rejected, intoResponse_status laws, rejected]
  · rw [middleware_of_ne rejected]

/-- A 405 response loses every field that the new page does not have. -/
theorem middleware_drops (rejected : (next request).status = StatusCode.methodNotAllowed)
    {name : HeaderName} (different : name ≠ HeaderName.contentType) :
    (middleware context next request).headers.getAll name = [] := by
  rw [middleware_of_eq rejected]
  exact laws.headers _ _ name different

theorem middleware_middleware (next : Service Body Reply) :
    middleware context (middleware context next) = middleware context next := by
  funext request
  by_cases rejected : (next request).status = StatusCode.methodNotAllowed
  · rw [middleware_of_eq ((middleware_status laws).trans rejected), middleware_of_eq rejected]
  · rw [middleware_of_ne ((middleware_status laws).trans_ne rejected)]

/-- The metadata is kept exactly when a 405 response has none. -/
theorem keepsMetadata_iff (next : Service Body Reply) (request : Request Body) :
    KeepsMetadata context next request ↔
      ((next request).status = StatusCode.methodNotAllowed →
        ∀ name, name ∉ bodyFields → (next request).headers.getAll name = []) := by
  have dropped : (next request).status = StatusCode.methodNotAllowed → ∀ name, name ∉ bodyFields →
      (middleware context next request).headers.getAll name = [] := by
    intro rejected name outside
    refine middleware_drops laws rejected ?_
    intro same
    exact outside (same ▸ List.mem_cons_self)
  constructor
  · intro kept rejected name outside
    rw [← kept.headers rejected name outside]
    exact dropped rejected name outside
  · intro bare
    constructor
    · exact middleware_status laws
    · exact middleware_of_ne
    · intro rejected
      rw [middleware_of_eq rejected]
      exact laws.body _ _
    · intro rejected name outside
      rw [dropped rejected name outside, bare rejected name outside]

end Laws

def htmlContext : PageContext Str where
  respond status text := ⟨status, Multimap.empty.insert HeaderName.contentType
    (.fromStatic "text/html; charset=utf-8"), text⟩
  bodyOf text := text
  encodeText text := text.flatMap ErrorPage.encodeChar
  statusText _ := "405 Method Not Allowed".toList
  stored := none
  debug := none

theorem htmlContext_laws : htmlContext.Laws where
  status _ _ := rfl
  body _ _ := rfl
  headers _ _ _ different := Multimap.getAll_insert_of_ne different _ _

def rejects (headers : HeaderMap) : Service Unit Str := fun _ =>
  ⟨StatusCode.methodNotAllowed, headers, []⟩

def postRequest : Request Unit := ⟨.post, ⟨"/".toList, none⟩, .empty, ()⟩

theorem keepsMetadata_iff_bare :
    KeepsMetadata htmlContext
      (rejects (Multimap.empty.insert HeaderName.contentLength (.fromStatic "0"))) postRequest := by
  refine (keepsMetadata_iff htmlContext_laws _ _).mpr ?_
  intro _ name outside
  refine Multimap.getAll_insert_of_ne ?_ _ _
  intro same
  exact outside (same ▸ by decide)

theorem middleware_drops_allow :
    let next := rejects (Multimap.empty.insert HeaderName.allow (.fromStatic "GET,HEAD"))
    (next postRequest).headers.getAll HeaderName.allow = [.fromStatic "GET,HEAD"] ∧
      (middleware htmlContext next postRequest).status = StatusCode.methodNotAllowed ∧
      (middleware htmlContext next postRequest).headers.getAll HeaderName.allow = [] ∧
      ¬ KeepsMetadata htmlContext next postRequest := by
  refine ⟨by rfl, by rfl, by rfl, ?_⟩
  intro kept
  have same := kept.headers rfl HeaderName.allow (by decide)
  cases same

end MethodNotAllowed

structure NotFound (http : UriCrate) where
  uri : http.Uri

namespace NotFound

variable {http : UriCrate}

def appError (error : NotFound http) : AppError where
  error := .root ("uri not found: ".toList ++ http.toString error.uri)
  statusCode := StatusCode.notFound

def handler (uri : http.Uri) : ErrorPage := ⟨(NotFound.mk uri).appError⟩

/-- The page of a missing path shows the path, as text, whatever was decided. -/
theorem decode_page {encodeText : Str → Str} (encodes : ErrorPage.EncodesText encodeText)
    (statusText : StatusCode → Str) (stored : Option Bool) (debug : Option Str) (uri : http.Uri) :
    ErrorPage.decode ((handler uri).render encodeText statusText stored debug) =
      some (statusText StatusCode.notFound, ["uri not found: ".toList ++ http.toString uri]) := by
  have visible : (handler uri).error.userVisible = true := by rfl
  rw [ErrorPage.decode_render encodes, ErrorPage.shown, visible, Bool.or_true, if_pos rfl]
  rfl

end NotFound

end Twelve
