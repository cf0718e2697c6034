import Twelve.Frontend.Cache
import Twelve.Library.Runs

/-! A client with a cache in front of a frontend that is deployed again and
again. Deployments and requests interleave freely, and each request may meet a
different file service, as long as that service serves the current release. -/

set_option autoImplicit false

namespace Twelve.Frontend

open Cache (IsAsset isImmutable forward finish)

variable {Body Content : Type}

abbrev Release (Content : Type) := Str → Option Content

def Safe (method : Method) : Prop := method = .get ∨ method = .head

/-- The fields for which a file service may answer that nothing was modified. -/
def Validated (headers : HeaderMap) : Prop :=
  headers.getAll HeaderName.ifNoneMatch ≠ [] ∨ headers.getAll HeaderName.ifModifiedSince ≠ []

/-- What is assumed of the inner service. The body of a response is the content
it represents, which a response to `HEAD` only describes. -/
structure FileService (release : Release Content) (service : Service Body Content) : Prop where
  present : ∀ request content, Safe request.method → release request.uri.path = some content →
    (service request).status.isSuccess = true ∧ (service request).body = content ∨
      (service request).status = StatusCode.notModified ∧ Validated request.headers
  absent : ∀ request, Safe request.method → release request.uri.path = none →
    (service request).status.isSuccess = false ∧
      (service request).status ≠ StatusCode.notModified

structure State (Content : Type) where
  release : Release Content
  cache : Target → Option Content

inductive Event (Body Content : Type) where
  | deploy (next : Release Content)
  | request (request : Request Body) (received : Option Content)

/-- What a client makes of a response, given what it has stored. -/
def receive (stored : Option Content) (response : Response Content) : Option Content :=
  if response.status.isSuccess then some response.body
  else if response.status = StatusCode.notModified then stored
  else none

/-- Whether a client may store a response. -/
def mayStore (method : Method) (response : Response Content) : Bool :=
  method == .get && response.status.isSuccess &&
    !(response.headers.getAll HeaderName.cacheControl).contains Cache.noStoreValue

def store (state : State Content) (request : Request Body) (response : Response Content) :
    State Content :=
  if mayStore request.method response then
    { state with cache := Function.update state.cache request.uri (some response.body) }
  else state

inductive Step : State Content → Event Body Content → State Content → Prop
  | deploy {state : State Content} (next : Release Content) :
      Step state (.deploy next) { state with release := next }
  | fetch {state : State Content} {service : Service Body Content} {request : Request Body}
      (safe : Safe request.method) (serves : FileService state.release service) :
      Step state (.request request (receive (state.cache request.uri) (Cache.set service request)))
        (store state request (Cache.set service request))
  | reuse {state : State Content} {request : Request Body} {content : Content}
      (safe : Safe request.method) (stored : state.cache request.uri = some content) :
      Step state (.request request (some content)) state

/-- The releases deployed in a run, the first one included. -/
def published (initial : Release Content) (events : List (Event Body Content)) :
    List (Release Content) :=
  initial :: events.filterMap fun event =>
    match event with
    | .deploy next => some next
    | .request _ _ => none

/-- The precondition on a frontend: an asset never changes at a published path. -/
def AssetsFixed (releases : List (Release Content)) : Prop :=
  ∀ first ∈ releases, ∀ second ∈ releases, ∀ path, IsAsset path → ∀ content other,
    first path = some content → second path = some other → content = other

/-- A content that some release of the run publishes at the path of an asset. -/
structure PublishedAsset (releases : List (Release Content)) (path : Str) (content : Content) :
    Prop where
  asset : IsAsset path
  release : ∃ release ∈ releases, release path = some content

structure Invariant (initial : Release Content) (events : List (Event Body Content))
    (state : State Content) : Prop where
  current : state.release ∈ published initial events
  cached : ∀ target content, state.cache target = some content →
    PublishedAsset (published initial events) target.path content

private theorem published_deploy (initial next : Release Content)
    (events : List (Event Body Content)) :
    published initial (events ++ [.deploy next]) = published initial events ++ [next] := by
  simp [published]

private theorem published_request (initial : Release Content) (events : List (Event Body Content))
    (request : Request Body) (received : Option Content) :
    published initial (events ++ [.request request received]) = published initial events := by
  simp [published]

private theorem not_validated_forward {request : Request Body}
    (mutable : ¬ IsAsset request.uri.path) : ¬ Validated (forward request).headers := by
  have unclassified : isImmutable request.method request.uri.path = false := by
    rw [Bool.eq_false_iff]
    intro immutable
    exact mutable (Cache.isImmutable_iff.mp immutable).2
  intro validated
  rcases validated with sent | sent
  · exact sent (Cache.getAll_forward unclassified HeaderName.ifNoneMatch)
  · exact sent (Cache.getAll_forward unclassified HeaderName.ifModifiedSince)

section Fetch

variable {release : Release Content} {service : Service Body Content} {request : Request Body}

/-- The three outcomes of a request that reaches the file service. -/
theorem set_outcome (serves : FileService release service) (safe : Safe request.method) :
    (Cache.set service request).status.isSuccess = true ∧
        release request.uri.path = some (Cache.set service request).body ∨
      (Cache.set service request).status = StatusCode.notModified ∧
        IsAsset request.uri.path ∧ Validated request.headers ∧
        release request.uri.path ≠ none ∨
      (Cache.set service request).status.isSuccess = false ∧
        (Cache.set service request).status ≠ StatusCode.notModified ∧
        release request.uri.path = none := by
  have forwardedSafe : Safe (forward request).method := by
    simpa using safe
  simp only [Cache.set, Cache.finish_status, Cache.finish_body]
  cases found : release request.uri.path with
  | none =>
      have missing := serves.absent (forward request) forwardedSafe (by simpa using found)
      exact .inr (.inr ⟨missing.1, missing.2, rfl⟩)
  | some content =>
      rcases serves.present (forward request) content forwardedSafe (by simpa using found) with
        ⟨success, body⟩ | ⟨unmodified, validated⟩
      · exact .inl ⟨success, by rw [body]⟩
      · have asset : IsAsset request.uri.path := by
          apply Classical.byContradiction
          intro mutable
          exact not_validated_forward mutable validated
        have immutable : isImmutable request.method request.uri.path = true :=
          Cache.isImmutable_iff.mpr ⟨safe, asset⟩
        rw [Cache.forward_of_immutable immutable] at validated
        exact .inr (.inl ⟨unmodified, asset, validated, by simp⟩)

private theorem stored_of_mayStore
    (stored : mayStore request.method (Cache.set service request) = true) :
    (Cache.set service request).status.isSuccess = true ∧ IsAsset request.uri.path := by
  simp only [mayStore, Bool.and_eq_true, beq_iff_eq, Bool.not_eq_true'] at stored
  obtain ⟨⟨-, success⟩, storable⟩ := stored
  refine ⟨success, ?_⟩
  cases immutable : isImmutable request.method request.uri.path with
  | true => exact (Cache.isImmutable_iff.mp immutable).2
  | false =>
      simp [Cache.set, Cache.finish, immutable] at storable

end Fetch

theorem Invariant.fetch {initial : Release Content} {events : List (Event Body Content)}
    {state : State Content} {service : Service Body Content} {request : Request Body}
    (invariant : Invariant initial events state) (safe : Safe request.method)
    (serves : FileService state.release service) (received : Option Content) :
    Invariant initial (events ++ [.request request received])
      (store state request (Cache.set service request)) := by
  unfold store
  split
  · next stored =>
      obtain ⟨success, asset⟩ := stored_of_mayStore stored
      rcases set_outcome serves safe with ⟨-, found⟩ | ⟨unmodified, -⟩ | ⟨failure, -⟩
      · constructor
        · rw [published_request]
          exact invariant.current
        · intro target content cached
          rw [published_request]
          by_cases same : target = request.uri
          · subst same
            simp only [Function.update_self, Option.some.injEq] at cached
            rw [← cached]
            exact ⟨asset, _, invariant.current, found⟩
          · simp only [Function.update_of_ne same] at cached
            exact invariant.cached target content cached
      · exact absurd unmodified (StatusCode.notModified_of_isSuccess success)
      · rw [success] at failure
        cases failure
  · constructor
    · rw [published_request]
      exact invariant.current
    · rw [published_request]
      exact invariant.cached

theorem Invariant.step {initial : Release Content} {events : List (Event Body Content)}
    {state after : State Content} {event : Event Body Content}
    (invariant : Invariant initial events state) (taken : Step state event after) :
    Invariant initial (events ++ [event]) after := by
  cases taken with
  | deploy next =>
      constructor
      · rw [published_deploy]
        exact List.mem_append_right _ List.mem_cons_self
      · intro target content cached
        obtain ⟨asset, release, member, found⟩ := invariant.cached target content cached
        rw [published_deploy]
        exact ⟨asset, release, List.mem_append_left _ member, found⟩
  | fetch safe serves => exact invariant.fetch safe serves _
  | reuse safe stored =>
      constructor
      · rw [published_request]
        exact invariant.current
      · rw [published_request]
        exact invariant.cached

theorem Invariant.run {initial : Release Content} {events : List (Event Body Content)}
    {state : State Content} (run : Run Step ⟨initial, fun _ => none⟩ events state) :
    Invariant initial events state := by
  refine Run.history_invariant ?_ ?_ run
  · constructor
    · exact List.mem_cons_self
    · intro target content cached
      cases cached
  · intro labels state label after invariant taken
    exact invariant.step taken

structure Fresh (releases : List (Release Content)) (state : State Content)
    (request : Request Body) (received : Option Content) : Prop where
  other : ¬ IsAsset request.uri.path → received = state.release request.uri.path
  asset : IsAsset request.uri.path → ∀ content, received = some content →
    (∃ release ∈ releases, release request.uri.path = some content) ∧
      ∀ release ∈ releases, ∀ present, release request.uri.path = some present →
        present = content
  available : ∀ content, state.release request.uri.path = some content →
    state.cache request.uri ≠ none ∨ ¬ Validated request.headers → received = some content

private theorem fresh_of_published {releases : List (Release Content)}
    (fixed : AssetsFixed releases)
    {path : Str} {content : Content} (known : PublishedAsset releases path content) :
    ∀ release ∈ releases, ∀ present, release path = some present → present = content := by
  intro release member present found
  obtain ⟨asset, origin, published, same⟩ := known
  exact fixed release member origin published path asset present content found same

theorem Invariant.fresh_stored {initial : Release Content} {events : List (Event Body Content)}
    {state : State Content} {request : Request Body} {content : Content}
    (invariant : Invariant initial events state) (fixed : AssetsFixed (published initial events))
    (stored : state.cache request.uri = some content) :
    Fresh (published initial events) state request (some content) := by
  have known := invariant.cached request.uri content stored
  have agreed := fresh_of_published fixed known
  constructor
  · intro mutable
    exact absurd known.asset mutable
  · intro _ given same
    cases same
    exact ⟨known.release, agreed⟩
  · intro present found _
    rw [agreed state.release invariant.current present found]

theorem Invariant.fresh_fetch {initial : Release Content} {events : List (Event Body Content)}
    {state : State Content} {service : Service Body Content} {request : Request Body}
    (invariant : Invariant initial events state) (fixed : AssetsFixed (published initial events))
    (safe : Safe request.method) (serves : FileService state.release service) :
    Fresh (published initial events) state request
      (receive (state.cache request.uri) (Cache.set service request)) := by
  rcases set_outcome serves safe with
    ⟨success, found⟩ | ⟨unmodified, asset, validated, -⟩ | ⟨failure, modified, absent⟩
  · rw [receive, if_pos success]
    constructor
    · intro _
      exact found.symm
    · intro asset content same
      cases same
      exact ⟨⟨_, invariant.current, found⟩,
        fresh_of_published fixed ⟨asset, _, invariant.current, found⟩⟩
    · intro content present _
      exact found.symm.trans present
  · have failure : ¬ (Cache.set service request).status.isSuccess = true := by
      intro success
      exact StatusCode.notModified_of_isSuccess success unmodified
    rw [receive, if_neg failure, if_pos unmodified]
    cases stored : state.cache request.uri with
    | some content => exact invariant.fresh_stored fixed stored
    | none =>
        constructor
        · intro mutable
          exact absurd asset mutable
        · intro _ content impossible
          cases impossible
        · intro content _ resolvable
          rcases resolvable with kept | plain
          · exact absurd stored kept
          · exact absurd validated plain
  · rw [receive, failure, if_neg modified]
    constructor
    · intro _
      exact absent.symm
    · intro _ content impossible
      cases impossible
    · intro content present _
      rw [absent] at present
      cases present

/-- Over every interleaving of deployments and requests the client stores assets
only, and each request it makes next is answered freshly. -/
theorem frontend_never_stale {initial : Release Content} {events : List (Event Body Content)}
    {state : State Content} (run : Run Step ⟨initial, fun _ => none⟩ events state)
    (fixed : AssetsFixed (published initial events)) :
    (∀ target content, state.cache target = some content → IsAsset target.path) ∧
    ∀ (request : Request Body) (received : Option Content) (after : State Content),
      Step state (.request request received) after →
        Fresh (published initial events) state request received := by
  have invariant := Invariant.run run
  constructor
  · intro target content cached
    exact (invariant.cached target content cached).asset
  · intro request received after taken
    cases taken with
    | fetch safe serves => exact invariant.fresh_fetch fixed safe serves
    | reuse safe stored => exact invariant.fresh_stored fixed stored

def serve (release : Release Nat) : Service Unit Nat := fun request =>
  match release request.uri.path with
  | some content => ⟨StatusCode.ok, .empty, content⟩
  | none => ⟨StatusCode.notFound, .empty, 0⟩

private theorem serve_fileService (release : Release Nat) :
    FileService release (serve release) := by
  constructor
  · intro request content _ found
    left
    simp [serve, found, StatusCode.isSuccess, StatusCode.ok]
  · intro request _ absent
    simp [serve, absent, StatusCode.isSuccess, StatusCode.notFound, StatusCode.notModified]

def build (entry : Nat) : Release Nat := fun path =>
  if path = "/".toList then some entry
  else if path = "/static/app.js".toList then some 1
  else none

def fetchOf (path : String) : Request Unit := ⟨.get, ⟨path.toList, none⟩, .empty, ()⟩

private theorem build_asset (first second : Nat) {path : Str} (asset : IsAsset path) :
    build first path = build second path := by
  obtain ⟨rest, -, rfl⟩ := asset
  have notEntry : "/static/".toList ++ rest ≠ "/".toList := by simp
  rw [build, build, if_neg notEntry, if_neg notEntry]

theorem frontend_never_stale_redeployed :
    receive none (Cache.set (serve (build 20)) (fetchOf "/")) = some 20 := by
  have fetched : Step ⟨build 10, fun _ => none⟩ (.request (fetchOf "/static/app.js") (some 1))
      (store ⟨build 10, fun _ => none⟩ (fetchOf "/static/app.js")
        (Cache.set (serve (build 10)) (fetchOf "/static/app.js"))) :=
    @Step.fetch _ _ ⟨build 10, fun _ => none⟩ (serve (build 10)) (fetchOf "/static/app.js")
      (.inl rfl) (serve_fileService (build 10))
  have run := Run.next (.next .start fetched) (.deploy (build 20))
  have fixed : AssetsFixed (published (build 10)
      ([] ++ [.request (fetchOf "/static/app.js") (some 1)] ++ [.deploy (build 20)])) := by
    intro first firstMember second secondMember path asset content other found alsoFound
    have anyBuild : ∀ release ∈ [build 10, build 20], release path = build 10 path := by
      intro release member
      simp only [List.mem_cons, List.not_mem_nil, or_false] at member
      rcases member with rfl | rfl
      · rfl
      · exact build_asset 20 10 asset
    rw [anyBuild first firstMember] at found
    rw [anyBuild second secondMember] at alsoFound
    exact Option.some.inj (found.symm.trans alsoFound)
  have fresh := (frontend_never_stale run fixed).2 (fetchOf "/") _ _
    (.fetch (.inl rfl) (serve_fileService (build 20)))
  refine fresh.other ?_
  intro asset
  obtain ⟨rest, -, impossible⟩ := asset
  cases impossible

end Twelve.Frontend
