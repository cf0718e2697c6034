import Twelve.Frontend.Middleware
import Twelve.Page.MethodNotAllowed

/-! Stacks of middleware in any order and number. The frontend layers of a stack act
as one policy: whether it caches, and the version of its outermost readable manifest.
The page for rejected methods cuts a stack in two, since of a rejected response nothing
survives that layers inside it have set. -/

set_option autoImplicit false

namespace Twelve.Frontend

open Cache (forward finish isImmutable immutableValue noStoreValue)
open Version (Environment FrontendVersion headerName)

variable {Body Reply OsError InvalidHeaderValue : Type}

inductive Middleware where
  | cache
  | version (frontend : Str)
  | methodNotAllowed
  deriving DecidableEq

section Definitions

variable (environment : Environment OsError InvalidHeaderValue) (context : PageContext Reply)

def Middleware.layer : Middleware → Service Body Reply → Service Body Reply
  | .cache, next => withFrontendCache next
  | .version frontend, next => withFrontendVersion environment frontend next
  | .methodNotAllowed, next => MethodNotAllowed.middleware context next

/-- A service behind layers, of which the first is the outermost. -/
def stack (layers : List Middleware) (next : Service Body Reply) : Service Body Reply :=
  layers.foldr (Middleware.layer environment context) next

/-- What the frontend layers of a stack come to. -/
structure Policy where
  caching : Bool
  version : Option HeaderValue
  deriving DecidableEq

def Middleware.policy : Middleware → Policy
  | .cache => ⟨true, none⟩
  | .version frontend =>
      ⟨false, (Version.read environment (FrontendVersion.new frontend).manifest).toOption⟩
  | .methodNotAllowed => ⟨false, none⟩

def Policy.around (outer inner : Policy) : Policy :=
  ⟨outer.caching || inner.caching, outer.version.or inner.version⟩

def policy (layers : List Middleware) : Policy :=
  layers.foldr (fun layer => (layer.policy environment).around) ⟨false, none⟩

end Definitions

/-- The layers around the page for rejected methods. -/
def outside (layers : List Middleware) : List Middleware :=
  layers.takeWhile (· ≠ .methodNotAllowed)

def inside (layers : List Middleware) : List Middleware :=
  layers.dropWhile (· ≠ .methodNotAllowed)

namespace Policy

def forward (policy : Policy) (request : Request Body) : Request Body :=
  if policy.caching then Cache.forward request else request

def finish (policy : Policy) (request : Request Body) (response : Response Reply) :
    Response Reply :=
  let response := editHeaders response (versionChanges policy.version)
  if policy.caching then Cache.finish (isImmutable request.method request.uri.path) response
  else response

def layer (policy : Policy) : Layer (Request Body) (Response Reply) :=
  ⟨policy.forward, policy.finish⟩

end Policy

/-! ## Policies of stacks -/

private theorem versionChanges_headerName (value : HeaderValue) :
    versionChanges (some value) headerName = some [value] := by
  rw [versionChanges, Function.update_self]

/-- Of two version layers the outer one decides, unless its manifest cannot be read. -/
theorem versionLayer_mul (outer inner : Option HeaderValue) :
    (versionLayer outer * versionLayer inner : Layer (Request Body) (Response Reply)) =
      versionLayer (outer.or inner) := by
  apply Layer.ext
  · rfl
  · funext request response
    cases outer with
    | none => rfl
    | some value =>
        change editHeaders (editHeaders response (versionChanges inner))
          (versionChanges (some value)) = editHeaders response (versionChanges (some value))
        apply Response.ext
        · rfl
        · apply Multimap.ext
          funext name
          by_cases same : name = headerName
          · subst same
            have changed := versionChanges_headerName value
            exact (Multimap.getAll_edit_of_some changed _).trans
              (Multimap.getAll_edit_of_some changed _).symm
          · have kept : ∀ version, versionChanges version name = none := versionChanges_of_ne same
            refine (Multimap.getAll_edit_of_none (kept _) _).trans ?_
            refine (Multimap.getAll_edit_of_none (kept _) _).trans ?_
            exact (Multimap.getAll_edit_of_none (kept _) _).symm
        · rfl

theorem Policy.layer_around (outer inner : Policy) :
    ((outer.around inner).layer : Layer (Request Body) (Response Reply)) =
      outer.layer * inner.layer := by
  obtain ⟨outerCaching, outerVersion⟩ := outer
  obtain ⟨innerCaching, innerVersion⟩ := inner
  have assoc : ∀ first second third : Layer (Request Body) (Response Reply),
      first * second * third = first * (second * third) := fun _ _ _ => rfl
  have commute := @layers_commute Body Reply outerVersion
  cases outerCaching with
  | false =>
      cases innerCaching with
      | false => exact (versionLayer_mul outerVersion innerVersion).symm
      | true =>
          change cacheLayer * versionLayer (outerVersion.or innerVersion) =
            versionLayer outerVersion * (cacheLayer * versionLayer innerVersion)
          rw [← assoc, ← commute.eq, assoc, versionLayer_mul]
  | true =>
      cases innerCaching with
      | false =>
          change cacheLayer * versionLayer (outerVersion.or innerVersion) =
            cacheLayer * versionLayer outerVersion * versionLayer innerVersion
          rw [assoc, versionLayer_mul]
      | true =>
          change cacheLayer * versionLayer (outerVersion.or innerVersion) =
            cacheLayer * versionLayer outerVersion * (cacheLayer * versionLayer innerVersion)
          rw [← assoc, assoc cacheLayer, ← commute.eq, ← assoc, cacheLayer_idempotent.eq, assoc,
            versionLayer_mul]

theorem Policy.wrap_around (outer inner : Policy) (next : Service Body Reply) :
    (outer.around inner).layer.wrap next = outer.layer.wrap (inner.layer.wrap next) := by
  rw [layer_around, Layer.wrap_mul]

theorem Policy.forward_around (outer inner : Policy) (request : Request Body) :
    (outer.around inner).forward request = inner.forward (outer.forward request) :=
  congrArg (fun layer : Layer (Request Body) (Response Unit) => layer.before request)
    (layer_around outer inner)

theorem Policy.finish_around (outer inner : Policy) (request : Request Body)
    (response : Response Reply) :
    (outer.around inner).finish request response =
      outer.finish request (inner.finish (outer.forward request) response) :=
  congrArg (fun layer => layer.after request response) (layer_around outer inner)

@[simp] theorem Policy.finish_status (policy : Policy) (request : Request Body)
    (response : Response Reply) : (policy.finish request response).status = response.status := by
  unfold Policy.finish
  split
  · exact Cache.finish_status _ _
  · rfl

@[simp] theorem Policy.finish_body (policy : Policy) (request : Request Body)
    (response : Response Reply) : (policy.finish request response).body = response.body := by
  unfold Policy.finish
  split
  · exact Cache.finish_body _ _
  · rfl

@[simp] theorem Policy.forward_method (policy : Policy) (request : Request Body) :
    (policy.forward request).method = request.method := by
  unfold Policy.forward
  split
  · exact Cache.forward_method request
  · rfl

/-! ## What a policy leaves to be seen -/

private theorem Policy.finish_eq (policy : Policy) (request : Request Body)
    (response : Response Reply) :
    policy.finish request response =
      editHeaders (editHeaders response (versionChanges policy.version))
        (if policy.caching then
          cacheChanges (isCached (isImmutable request.method request.uri.path) response.status)
        else fun _ => none) := by
  unfold Policy.finish
  split
  · exact finish_eq_editHeaders _ _
  · rfl

theorem Policy.getAll_finish_of_ne {name : HeaderName} (notControl : name ≠ HeaderName.cacheControl)
    (notVersion : name ≠ headerName) (notModified : name ≠ HeaderName.lastModified)
    (policy : Policy) (request : Request Body) (response : Response Reply) :
    (policy.finish request response).headers.getAll name = response.headers.getAll name := by
  rw [policy.finish_eq]
  refine (Multimap.getAll_edit_of_none ?_ _).trans ?_
  · split
    · exact cacheChanges_of_ne notControl (.inr notModified)
    · rfl
  · exact Multimap.getAll_edit_of_none (versionChanges_of_ne notVersion _) _

private theorem Policy.finish_empty {name : HeaderName}
    (notControl : name ≠ HeaderName.cacheControl)
    (notVersion : name ≠ headerName) {request : Request Body} {response : Response Reply}
    (bare : response.headers.getAll name = []) (policy : Policy) :
    (policy.finish request response).headers.getAll name = [] := by
  by_cases modified : name = HeaderName.lastModified
  · have unversioned : (editHeaders response (versionChanges policy.version)).headers.getAll
        name = [] :=
      (Multimap.getAll_edit_of_none (versionChanges_of_ne notVersion _) _).trans bare
    rw [policy.finish_eq]
    split
    · cases isCached (isImmutable request.method request.uri.path) response.status with
      | true =>
          exact (Multimap.getAll_edit_of_none (cacheChanges_of_ne notControl (.inl rfl)) _).trans
            unversioned
      | false =>
          subst modified
          have dropped : cacheChanges false HeaderName.lastModified = some [] := by rfl
          exact Multimap.getAll_edit_of_some dropped _
    · exact unversioned
  · rw [Policy.getAll_finish_of_ne notControl notVersion modified, bare]

theorem Policy.finish_cacheControl {request : Request Body} {response : Response Reply}
    (bare : response.headers.getAll HeaderName.cacheControl = []) (policy : Policy) :
    (policy.finish request response).headers.getAll HeaderName.cacheControl =
      if policy.caching then
        [if isCached (isImmutable request.method request.uri.path) response.status
          then immutableValue else noStoreValue]
      else [] := by
  rw [policy.finish_eq]
  cases policy.caching with
  | false =>
      exact (Multimap.getAll_edit_of_none (versionChanges_of_ne (by decide) _) _).trans bare
  | true => exact Multimap.getAll_edit_of_some (cacheChanges_cacheControl _) _

theorem Policy.finish_version {request : Request Body} {response : Response Reply}
    (bare : response.headers.getAll headerName = []) (policy : Policy) :
    (policy.finish request response).headers.getAll headerName = policy.version.toList := by
  rw [policy.finish_eq]
  refine (Multimap.getAll_edit_of_none ?_ _).trans ?_
  · split
    · exact cacheChanges_headerName _
    · rfl
  · cases policy.version with
    | none => exact bare
    | some value => exact Multimap.getAll_edit_of_some (versionChanges_headerName value) _

/-- On a response without the two fields a policy can be read off. -/
theorem Policy.eq_of_finish {first second : Policy} {request : Request Body}
    {response : Response Reply} (noControl : response.headers.getAll HeaderName.cacheControl = [])
    (noVersion : response.headers.getAll headerName = [])
    (same : first.finish request response = second.finish request response) : first = second := by
  have control := @finish_cacheControl _ _ request response noControl first
  rw [same, finish_cacheControl noControl] at control
  have version := @finish_version _ _ request response noVersion first
  rw [same, finish_version noVersion] at version
  obtain ⟨firstCaching, firstVersion⟩ := first
  obtain ⟨secondCaching, secondVersion⟩ := second
  have caching : firstCaching = secondCaching := by
    cases firstCaching <;> cases secondCaching <;> simp at control ⊢
  have versions : firstVersion = secondVersion := by
    cases firstVersion <;> cases secondVersion <;> simp_all
  rw [caching, versions]

section Stacks

variable {environment : Environment OsError InvalidHeaderValue} {context : PageContext Reply}

theorem Middleware.layer_eq_wrap {layer : Middleware} (plain : layer ≠ .methodNotAllowed)
    (next : Service Body Reply) :
    layer.layer environment context next = (layer.policy environment).layer.wrap next := by
  cases layer with
  | cache => exact set_eq_wrap next
  | version frontend => exact attach_eq_wrap environment (FrontendVersion.new frontend) next
  | methodNotAllowed => exact absurd rfl plain

theorem stack_of_plain {layers : List Middleware} (plain : .methodNotAllowed ∉ layers)
    (next : Service Body Reply) :
    stack environment context layers next = (policy environment layers).layer.wrap next := by
  induction layers with
  | nil => rfl
  | cons layer rest ih =>
      have different := List.ne_of_not_mem_cons plain
      have absent := List.not_mem_of_not_mem_cons plain
      change layer.layer environment context (stack environment context rest next) =
        ((layer.policy environment).around (policy environment rest)).layer.wrap next
      rw [Middleware.layer_eq_wrap different.symm, ih absent, Policy.wrap_around]

theorem stack_append (outer inner : List Middleware) (next : Service Body Reply) :
    stack environment context (outer ++ inner) next =
      stack environment context outer (stack environment context inner next) :=
  List.foldr_append

theorem policy_append (outer inner : List Middleware) :
    policy environment (outer ++ inner) =
      (policy environment outer).around (policy environment inner) := by
  induction outer with
  | nil => rfl
  | cons layer rest ih =>
      change (layer.policy environment).around (policy environment (rest ++ inner)) =
        ((layer.policy environment).around (policy environment rest)).around
          (policy environment inner)
      rw [ih]
      simp [Policy.around, Bool.or_assoc, Option.or_assoc]

section Pages

variable (laws : context.Laws)
include laws

/-- Inside a page for rejected methods another one changes nothing. -/
theorem middleware_wrap_middleware (policy : Policy) (next : Service Body Reply) :
    MethodNotAllowed.middleware context
        (policy.layer.wrap (MethodNotAllowed.middleware context next)) =
      MethodNotAllowed.middleware context (policy.layer.wrap next) := by
  funext request
  have status : (policy.layer.wrap (MethodNotAllowed.middleware context next) request).status =
      (policy.layer.wrap next request).status := by
    change (policy.finish request _).status = (policy.finish request _).status
    rw [Policy.finish_status, Policy.finish_status, MethodNotAllowed.middleware_status laws]
  by_cases rejected : (policy.layer.wrap next request).status = StatusCode.methodNotAllowed
  · rw [MethodNotAllowed.middleware_of_eq rejected,
      MethodNotAllowed.middleware_of_eq (status.trans rejected)]
  · rw [MethodNotAllowed.middleware_of_ne rejected,
      MethodNotAllowed.middleware_of_ne (status.trans_ne rejected)]
    have other : (next (policy.forward request)).status ≠ StatusCode.methodNotAllowed := by
      intro same
      exact rejected ((policy.finish_status request _).trans same)
    exact congrArg (policy.finish request) (MethodNotAllowed.middleware_of_ne other)

/-- A stack around a page for rejected methods, and all that is inside it. -/
theorem middleware_stack (layers : List Middleware) (next : Service Body Reply) :
    MethodNotAllowed.middleware context (stack environment context layers next) =
      MethodNotAllowed.middleware context ((policy environment layers).layer.wrap next) := by
  induction layers with
  | nil => rfl
  | cons layer rest ih =>
      by_cases page : layer = .methodNotAllowed
      · subst page
        change MethodNotAllowed.middleware context (MethodNotAllowed.middleware context
          (stack environment context rest next)) = _
        rw [MethodNotAllowed.middleware_middleware laws, ih]
        rfl
      · change MethodNotAllowed.middleware context
            (layer.layer environment context (stack environment context rest next)) =
          MethodNotAllowed.middleware context
            (((layer.policy environment).around (policy environment rest)).layer.wrap next)
        rw [Middleware.layer_eq_wrap page, ← middleware_wrap_middleware laws, ih,
          middleware_wrap_middleware laws, Policy.wrap_around]

/-- The layers inside the page and those around it, each as one policy. -/
theorem stack_of_page {layers : List Middleware} (page : .methodNotAllowed ∈ layers)
    (next : Service Body Reply) :
    stack environment context layers next = (policy environment (outside layers)).layer.wrap
      (MethodNotAllowed.middleware context
        ((policy environment (inside layers)).layer.wrap next)) := by
  have parts : outside layers ++ inside layers = layers := List.takeWhile_append_dropWhile
  have plain : .methodNotAllowed ∉ outside layers := by
    intro member
    have kept := List.mem_takeWhile_imp member
    simp at kept
  have nonempty : inside layers ≠ [] := by
    intro empty
    rw [empty, List.append_nil] at parts
    exact plain (parts.symm ▸ page)
  obtain ⟨first, rest, found⟩ := List.exists_cons_of_ne_nil nonempty
  have first_eq : first = .methodNotAllowed := by
    have head := List.head?_dropWhile_not (· ≠ .methodNotAllowed) layers
    rw [inside] at found
    rw [found] at head
    simpa using head
  subst first_eq
  have split := @stack_append Body Reply OsError InvalidHeaderValue environment context
    (outside layers) (inside layers) next
  rw [parts, stack_of_plain plain, found] at split
  rw [split, found]
  change _ = (policy environment (outside layers)).layer.wrap (MethodNotAllowed.middleware context
    ((policy environment rest).layer.wrap next))
  rw [← middleware_stack laws]
  rfl

/-- A rejected response behind a page keeps what the layers around the page set on the
page, and any other response gets the policy of the whole stack. -/
theorem stack_response (layers : List Middleware) (next : Service Body Reply)
    (request : Request Body) :
    stack environment context layers next request =
      if .methodNotAllowed ∈ layers ∧
          (next ((policy environment layers).forward request)).status = StatusCode.methodNotAllowed
      then (policy environment (outside layers)).finish request
        ((MethodNotAllowed.page request.method).intoResponse context)
      else (policy environment layers).finish request
        (next ((policy environment layers).forward request)) := by
  by_cases page : .methodNotAllowed ∈ layers
  · have whole : policy environment layers =
        (policy environment (outside layers)).around (policy environment (inside layers)) := by
      rw [← policy_append, outside, inside, List.takeWhile_append_dropWhile]
    rw [stack_of_page laws page, whole, Policy.forward_around, Policy.finish_around]
    let forwarded := (policy environment (outside layers)).forward request
    let service := (policy environment (inside layers)).layer.wrap next
    have status : (service forwarded).status =
        (next ((policy environment (inside layers)).forward forwarded)).status :=
      Policy.finish_status _ _ _
    change (policy environment (outside layers)).finish request
      (MethodNotAllowed.middleware context service forwarded) = _
    by_cases rejected : (service forwarded).status = StatusCode.methodNotAllowed
    · rw [if_pos ⟨page, status.symm.trans rejected⟩, MethodNotAllowed.middleware_of_eq rejected,
        Policy.forward_method]
    · rw [if_neg (fun both => rejected (status.trans both.2)),
        MethodNotAllowed.middleware_of_ne rejected]
      rfl
  · rw [if_neg (fun both => page both.1), stack_of_plain page]
    rfl

/-- A rejected response behind a page is the page with its content type and with the cache
policy and the version of the layers around it, and no other field. What the router adds
outside its layers, the length of the body and for its own rejections the allowed methods,
is not part of it. -/
theorem rejected_behind_page {layers : List Middleware} (page : .methodNotAllowed ∈ layers)
    {next : Service Body Reply} {request : Request Body}
    (rejected : (next ((policy environment layers).forward request)).status =
      StatusCode.methodNotAllowed) :
    let response := stack environment context layers next request
    let around := policy environment (outside layers)
    response.status = StatusCode.methodNotAllowed ∧
      response.body = context.bodyOf ((MethodNotAllowed.page request.method).render
        context.encodeText context.statusText context.stored context.debug) ∧
      response.headers.getAll HeaderName.contentType =
        ((MethodNotAllowed.page request.method).intoResponse context).headers.getAll
          HeaderName.contentType ∧
      ∀ name, name ≠ HeaderName.contentType → response.headers.getAll name =
        if name = HeaderName.cacheControl then (if around.caching then [noStoreValue] else [])
        else if name = headerName then around.version.toList else [] := by
  have answered := @stack_response Body Reply _ _ environment context laws layers next request
  rw [if_pos ⟨page, rejected⟩] at answered
  let answer := (MethodNotAllowed.page request.method).intoResponse context
  have bare : ∀ name, name ≠ HeaderName.contentType → answer.headers.getAll name = [] :=
    laws.headers _ _
  have status : answer.status = StatusCode.methodNotAllowed :=
    MethodNotAllowed.intoResponse_status laws request.method
  intro response around
  have same : response = around.finish request answer := answered
  refine ⟨?_, ?_, ?_, ?_⟩
  · rw [same, Policy.finish_status, status]
  · rw [same, Policy.finish_body]
    exact laws.body _ _
  · rw [same, Policy.getAll_finish_of_ne (by decide) (by decide) (by decide)]
  · intro name other
    rw [same]
    split
    · next control =>
        subst control
        rw [Policy.finish_cacheControl (bare _ other), status]
        -- The status of a rejected response is never cached.
        simp [isCached, StatusCode.isSuccess, StatusCode.methodNotAllowed, StatusCode.notModified]
    · next notControl =>
        split
        · next version =>
            subst version
            exact Policy.finish_version (bare _ other) around
        · next notVersion =>
            exact Policy.finish_empty notControl notVersion (bare _ other) around

/-! ## Interchangeable stacks -/

/-- A page drops the allowed methods of a response, and no policy touches them. -/
theorem Policy.finish_page_ne (outer inner : Policy) {method : Method} {request : Request Body}
    {response : Response Reply} {value : HeaderValue}
    (allowed : response.headers.getAll HeaderName.allow = [value]) :
    outer.finish request ((MethodNotAllowed.page method).intoResponse context) ≠
      inner.finish request response := by
  intro same
  have bare : ((MethodNotAllowed.page method).intoResponse context).headers.getAll
      HeaderName.allow = [] := laws.headers _ _ HeaderName.allow (by decide)
  have fields : (outer.finish request ((MethodNotAllowed.page method).intoResponse
      context)).headers.getAll HeaderName.allow =
    (inner.finish request response).headers.getAll HeaderName.allow := by rw [same]
  rw [Policy.getAll_finish_of_ne (by decide) (by decide) (by decide),
    Policy.getAll_finish_of_ne (by decide) (by decide) (by decide), bare, allowed] at fields
  cases fields

private theorem policy_eq_of_stacks [Inhabited Body] {first second : List Middleware}
    (same : ∀ next : Service Body Reply,
      stack environment context first next = stack environment context second next) :
    policy environment first = policy environment second := by
  let request : Request Body := ⟨.get, ⟨"/".toList, none⟩, .empty, default⟩
  let response : Response Reply := ⟨StatusCode.ok, .empty, context.bodyOf []⟩
  have answers := congrFun (same fun _ => response) request
  have accepted : StatusCode.ok ≠ StatusCode.methodNotAllowed := by decide
  rw [stack_response laws, stack_response laws, if_neg (fun both => accepted both.2),
    if_neg (fun both => accepted both.2)] at answers
  exact Policy.eq_of_finish rfl rfl answers

/-- Two stacks answer alike around every service exactly when their policies are the
same and so are, if there is a page, the policies around it. -/
theorem stacks_interchangeable_iff [Inhabited Body] (first second : List Middleware) :
    (∀ next : Service Body Reply,
        stack environment context first next = stack environment context second next) ↔
      policy environment first = policy environment second ∧
        (.methodNotAllowed ∈ first ↔ .methodNotAllowed ∈ second) ∧
        (.methodNotAllowed ∈ first →
          policy environment (outside first) = policy environment (outside second)) := by
  constructor
  · intro same
    let request : Request Body := ⟨.get, ⟨"/".toList, none⟩, .empty, default⟩
    let response : Response Reply := ⟨StatusCode.methodNotAllowed,
      Multimap.empty.insert HeaderName.allow (.fromStatic "GET"), context.bodyOf []⟩
    have bare : ∀ name, name ≠ HeaderName.contentType →
        ((MethodNotAllowed.page request.method).intoResponse context).headers.getAll name = [] :=
      laws.headers _ _
    have answers := congrFun (same fun _ => response) request
    rw [stack_response laws, stack_response laws] at answers
    have policies := policy_eq_of_stacks laws same
    by_cases page : .methodNotAllowed ∈ first
    · rw [if_pos ⟨page, rfl⟩] at answers
      by_cases other : .methodNotAllowed ∈ second
      · rw [if_pos ⟨other, rfl⟩] at answers
        refine ⟨policies, iff_of_true page other, fun _ => ?_⟩
        exact Policy.eq_of_finish (bare _ (by decide)) (bare _ (by decide)) answers
      · rw [if_neg (fun both => other both.1)] at answers
        exact absurd answers (Policy.finish_page_ne laws _ _ rfl)
    · rw [if_neg (fun both => page both.1)] at answers
      by_cases other : .methodNotAllowed ∈ second
      · rw [if_pos ⟨other, rfl⟩] at answers
        exact absurd answers.symm (Policy.finish_page_ne laws _ _ rfl)
      · exact ⟨policies, iff_of_false page other, fun member => absurd member page⟩
  · intro agreement next
    obtain ⟨policies, pages, around⟩ := agreement
    funext request
    rw [stack_response laws, stack_response laws, policies]
    by_cases page : .methodNotAllowed ∈ first
    · rw [around page]
      simp only [page, pages.mp page]
    · have absent := mt pages.mpr page
      simp only [page, absent, false_and, if_false]

end Pages

end Stacks

section Example

def unreadable : Environment Unit Unit := ⟨fun _ => .error (), fun _ => .error ()⟩

theorem rejected_behind_page_inside :
    let response := stack unreadable MethodNotAllowed.htmlContext [.methodNotAllowed, .cache]
      (MethodNotAllowed.rejects .empty) MethodNotAllowed.postRequest
    response.headers.getAll HeaderName.contentType = [.fromStatic "text/html; charset=utf-8"] ∧
      response.headers.getAll HeaderName.cacheControl = [] := by
  have answered := @rejected_behind_page Unit Str Unit Unit unreadable _
    MethodNotAllowed.htmlContext_laws [.methodNotAllowed, .cache] List.mem_cons_self
    (MethodNotAllowed.rejects .empty) MethodNotAllowed.postRequest rfl
  exact ⟨answered.2.2.1, answered.2.2.2 HeaderName.cacheControl (by decide)⟩

theorem stacks_interchangeable_iff_cache :
    stack unreadable MethodNotAllowed.htmlContext [.cache, .methodNotAllowed, .cache]
        (MethodNotAllowed.rejects .empty) =
      stack unreadable MethodNotAllowed.htmlContext [.cache, .methodNotAllowed]
        (MethodNotAllowed.rejects .empty) :=
  (stacks_interchangeable_iff MethodNotAllowed.htmlContext_laws [.cache, .methodNotAllowed, .cache]
    [.cache, .methodNotAllowed]).mpr ⟨rfl, by decide, fun _ => rfl⟩
    (MethodNotAllowed.rejects .empty)

end Example

end Twelve.Frontend
