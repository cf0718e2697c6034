import Twelve.Frontend.Version
import Twelve.Library.Runs

/-! Detection of a newer deployment by a running application. The manifest is read when a
request begins to be handled, and the response follows at any later time: deployments and
other requests come in between. Each response is still that of a middleware that does all
of its work at once, at the moment at which the request began. -/

set_option autoImplicit false

namespace Twelve.Version

abbrev Files (OsError : Type) := Str → Except OsError ByteArray

variable {OsError InvalidHeaderValue Body Reply : Type}

/-- The requests that are being handled, each with the version that was read for it. -/
structure State (OsError : Type) where
  files : Files OsError
  pending : Nat → Option (Option HeaderValue)

inductive Event (OsError Reply : Type) where
  | deploy (files : Files OsError)
  | begin (id : Nat)
  | respond (id : Nat) (inner response : Response Reply)

/-- An event of the request of this name. -/
inductive Event.Of (id : Nat) : Event OsError Reply → Prop where
  | begin : Of id (.begin id)
  | respond {inner response : Response Reply} : Of id (.respond id inner response)

section Handling

variable (parse : Str → Except InvalidHeaderValue HeaderValue) (version : FrontendVersion)

/-- `attach` before it awaits the inner service. -/
def beginAttach (files : Files OsError) : Option HeaderValue :=
  (read ⟨files, parse⟩ version.manifest).toOption

/-- `attach` after the inner service has responded. -/
def finishAttach (found : Option HeaderValue) (response : Response Reply) : Response Reply :=
  match found with
  | some value => { response with headers := response.headers.insert headerName value }
  | none => response

theorem attach_eq_finishAttach (files : Files OsError) (next : Service Body Reply)
    (request : Request Body) :
    attach ⟨files, parse⟩ version next request =
      finishAttach (beginAttach parse version files) (next request) := rfl

inductive Step : State OsError → Event OsError Reply → State OsError → Prop
  | deploy {state : State OsError} (files : Files OsError) :
      Step state (.deploy files) { state with files }
  | begin {state : State OsError} {id : Nat} (idle : state.pending id = none) :
      Step state (.begin id) { state with
        pending := Function.update state.pending id (some (beginAttach parse version state.files)) }
  | respond {state : State OsError} {id : Nat} {found : Option HeaderValue}
      (pending : state.pending id = some found) (inner : Response Reply) :
      Step state (.respond id inner (finishAttach found inner))
        { state with pending := Function.update state.pending id none }

def initial (files : Files OsError) : State OsError := ⟨files, fun _ => none⟩

end Handling

/-- The files of the last deployment. -/
def current (files : Files OsError) (events : List (Event OsError Reply)) : Files OsError :=
  events.foldl (fun files event =>
    match event with
    | .deploy next => next
    | _ => files) files

theorem current_append (files : Files OsError) (before rest : List (Event OsError Reply)) :
    current files (before ++ rest) = current (current files before) rest :=
  List.foldl_append

private theorem current_of_no_deploy {files : Files OsError} {events : List (Event OsError Reply)}
    (quiet : ∀ next, .deploy next ∉ events) : current files events = files := by
  induction events generalizing files with
  | nil => rfl
  | cons event rest ih =>
      have quietRest : ∀ next, .deploy next ∉ rest := fun next member =>
        quiet next (List.mem_cons_of_mem _ member)
      cases event with
      | deploy next => exact absurd List.mem_cons_self (quiet next)
      | begin id => exact ih quietRest
      | respond id inner response => exact ih quietRest

/-- The history of a request from its beginning: what is known of it was read then. -/
def Began (parse : Str → Except InvalidHeaderValue HeaderValue) (version : FrontendVersion)
    (first : Files OsError) (events : List (Event OsError Reply)) (id : Nat)
    (found : Option HeaderValue) : Prop :=
  ∃ before middle, events = before ++ .begin id :: middle ∧ (∀ event ∈ middle, ¬ event.Of id) ∧
    found = beginAttach parse version (current first before)

structure Invariant (parse : Str → Except InvalidHeaderValue HeaderValue)
    (version : FrontendVersion) (first : Files OsError) (events : List (Event OsError Reply))
    (state : State OsError) : Prop where
  files : state.files = current first events
  pending : ∀ id found, state.pending id = some found → Began parse version first events id found

section Runs

variable {parse : Str → Except InvalidHeaderValue HeaderValue} {version : FrontendVersion}
  {first : Files OsError} {events : List (Event OsError Reply)} {state after : State OsError}
  {event : Event OsError Reply} {id : Nat} {found : Option HeaderValue}

theorem Began.extend (began : Began parse version first events id found) (other : ¬ event.Of id) :
    Began parse version first (events ++ [event]) id found := by
  obtain ⟨before, middle, rfl, quiet, read⟩ := began
  refine ⟨before, middle ++ [event], by simp, ?_, read⟩
  intro event member
  cases List.mem_append.mp member with
  | inl earlier => exact quiet event earlier
  | inr last => exact List.mem_singleton.mp last ▸ other

theorem Invariant.step (invariant : Invariant parse version first events state)
    (taken : Step parse version state event after) :
    Invariant parse version first (events ++ [event]) after := by
  cases taken with
  | deploy next =>
      constructor
      · rw [current_append]
        rfl
      · intro id found pending
        exact (invariant.pending id found pending).extend (by intro own; cases own)
  | @begin started idle =>
      constructor
      · rw [current_append]
        exact invariant.files
      · intro id found pending
        by_cases same : id = started
        · subst same
          simp only [Function.update_self] at pending
          cases pending
          exact ⟨events, [], rfl, by simp, by rw [invariant.files]⟩
        · simp only [Function.update_of_ne same] at pending
          refine (invariant.pending id found pending).extend ?_
          intro own
          cases own
          exact same rfl
  | @respond finished _ _ inner =>
      constructor
      · rw [current_append]
        exact invariant.files
      · intro id found pending
        by_cases same : id = finished
        · subst same
          simp only [Function.update_self] at pending
          cases pending
        · simp only [Function.update_of_ne same] at pending
          refine (invariant.pending id found pending).extend ?_
          intro own
          cases own
          exact same rfl

theorem Invariant.run (run : Run (Step parse version) (initial first) events state) :
    Invariant parse version first events state := by
  induction run with
  | start => exact ⟨rfl, fun _ _ pending => by cases pending⟩
  | next earlier taken ih => exact ih.step taken

/-- A response is finished with what was read when its request began. -/
theorem response_began {inner response : Response Reply}
    {earlier later : List (Event OsError Reply)}
    (run : Run (Step parse version) (initial first)
      (earlier ++ .respond id inner response :: later) state) :
    ∃ found, Began parse version first earlier id found ∧ response = finishAttach found inner := by
  obtain ⟨middle, after, reached, taken, -⟩ := Run.exists_of_append run
  cases taken with
  | respond pending => exact ⟨_, (Invariant.run reached).pending id _ pending, rfl⟩

/-- Every response is that of `attach` at once, with the files that were deployed when the
request began, whatever was deployed and handled before it was finished. -/
theorem response_at_once {inner response : Response Reply}
    {earlier later : List (Event OsError Reply)}
    (run : Run (Step parse version) (initial first)
      (earlier ++ .respond id inner response :: later) state) :
    ∃ before middle, earlier = before ++ .begin id :: middle ∧
      (∀ event ∈ middle, ¬ event.Of id) ∧
      ∀ request : Request Body,
        response = attach ⟨current first before, parse⟩ version (fun _ => inner) request := by
  obtain ⟨found, ⟨before, middle, split, quiet, read⟩, finished⟩ := response_began run
  refine ⟨before, middle, split, quiet, ?_⟩
  intro request
  rw [finished, read, attach_eq_finishAttach]

/-- A response shows another version, or none, when that is what the files have, unless
they have none and the inner service shows the version by itself. -/
theorem finishAttach_beginAttach_ne_iff {files : Files OsError} {inner : Response Reply}
    (value : HeaderValue) :
    (finishAttach (beginAttach parse version files) inner).headers.getAll headerName ≠ [value] ↔
      ¬ Advertises ⟨files, parse⟩ version.manifest value ∧
        ((∃ other, Advertises ⟨files, parse⟩ version.manifest other) ∨
          inner.headers.getAll headerName ≠ [value]) := by
  simp only [← read_eq_ok_iff, beginAttach]
  cases read (⟨files, parse⟩ : Environment OsError InvalidHeaderValue) version.manifest with
  | error error => simp [Except.toOption, finishAttach]
  | ok found => simp [Except.toOption, finishAttach]

/-- An application that was loaded with one version finds another, or none, in a response
exactly when the files at the beginning of its request no longer have that version, and
have another or leave the header to an inner service that does not show the version. This
is never so without a deployment since the application was loaded. -/
theorem deployment_detected {inner response : Response Reply}
    {earlier later : List (Event OsError Reply)}
    (run : Run (Step parse version) (initial first)
      (earlier ++ .respond id inner response :: later) state) :
    ∃ before middle, earlier = before ++ .begin id :: middle ∧
      (∀ event ∈ middle, ¬ event.Of id) ∧
      ∀ loaded between value, before = loaded ++ between →
        Advertises ⟨current first loaded, parse⟩ version.manifest value →
        (response.headers.getAll headerName ≠ [value] ↔
          ¬ Advertises ⟨current first before, parse⟩ version.manifest value ∧
            ((∃ other, Advertises ⟨current first before, parse⟩ version.manifest other) ∨
              inner.headers.getAll headerName ≠ [value])) ∧
        (response.headers.getAll headerName ≠ [value] → ∃ files, .deploy files ∈ between) := by
  obtain ⟨found, ⟨before, middle, split, quiet, read⟩, finished⟩ := response_began run
  refine ⟨before, middle, split, quiet, ?_⟩
  intro loaded between value history advertised
  have header :=
    @finishAttach_beginAttach_ne_iff _ _ _ parse version (current first before) inner value
  rw [← read, ← finished] at header
  refine ⟨header, ?_⟩
  intro changed
  apply Classical.byContradiction
  intro none
  have same : current first before = current first loaded := by
    rw [history, current_append]
    exact current_of_no_deploy (not_exists.mp none)
  exact (header.mp changed).1 (same ▸ advertised)

end Runs

section Example

def parseValue (text : Str) : Except Unit HeaderValue :=
  let bytes := (String.ofList text).toUTF8.data.toList
  if valid : bytes.all isHeaderByte = true then .ok ⟨bytes, valid⟩ else .error ()

def root : FrontendVersion := .new "/srv".toList

def built (version : String) : Files Unit := fun path =>
  if path = root.manifest then .ok version.toUTF8 else .error ()

def plain : Response Unit := ⟨StatusCode.ok, .empty, ()⟩

def oldResponse : Response Unit := finishAttach (some (.fromStatic "a")) plain

def newResponse : Response Unit := finishAttach (some (.fromStatic "b")) plain

/-- The second build is deployed while one request is handled, and before the next one. -/
def redeployment : List (Event Unit Unit) := [.begin 0, .deploy (built "b\n"), .begin 1]

private theorem run_redeployed : ∃ state, Run (Step parseValue root) (initial (built "a\n"))
    (redeployment ++ [.respond 0 plain oldResponse, .respond 1 plain newResponse]) state := by
  have first : beginAttach parseValue root (built "a\n") = some (.fromStatic "a") := by rfl
  have second : beginAttach parseValue root (built "b\n") = some (.fromStatic "b") := by rfl
  refine ⟨_, .cons (.begin rfl) (.cons (.deploy _) (.cons (.begin rfl)
    (.cons (.respond ?_ plain) (.cons (.respond ?_ plain) .start))))⟩
  · exact congrArg some first
  · exact congrArg some second

def slowRequest : Request Unit := ⟨.get, ⟨"/api/slow".toList, none⟩, .empty, ()⟩

/-- A response that is finished after a deployment still has the version before it. -/
theorem response_at_once_slow :
    oldResponse = attach ⟨built "a\n", parseValue⟩ root (fun _ => plain) slowRequest := by
  obtain ⟨state, run⟩ := run_redeployed
  obtain ⟨before, middle, split, -, same⟩ :=
    @response_at_once Unit Unit Unit Unit _ _ _ _ _ _ _ _ _ run
  cases before with
  | nil => exact same slowRequest
  | cons event before =>
      have member : (.begin 0 : Event Unit Unit) ∈ [.deploy (built "b\n"), .begin 1] := by
        rw [(List.cons.inj split).2]
        simp
      simp at member

/-- The first request after a deployment finds the new version. -/
theorem deployment_detected_next : newResponse.headers.getAll headerName ≠ [.fromStatic "a"] := by
  obtain ⟨state, run⟩ := run_redeployed
  rw [List.append_cons] at run
  obtain ⟨before, middle, split, -, detected⟩ := deployment_detected run
  have history : before = [.begin 0, .deploy (built "b\n")] := by
    have whole : [.begin 0, .deploy (built "b\n")] ++ .begin 1 :: [.respond 0 plain oldResponse] =
        before ++ .begin 1 :: middle := split
    obtain ⟨-, rfl⟩ := split_unique (· = .begin 1) (by simp) (by simp) whole rfl
    exact (List.append_cancel_right whole).symm
  have advertised : Advertises ⟨current (built "a\n") ([] : List (Event Unit Unit)), parseValue⟩
      root.manifest (.fromStatic "a") := (read_eq_ok_iff _).mp (by rfl)
  refine (detected [] before _ rfl advertised).1.mpr ⟨?_, .inr (List.cons_ne_nil _ _).symm⟩
  rw [history, ← read_eq_ok_iff]
  intro read
  have different : (.ok (.fromStatic "b") : Except (IoError Unit Unit) HeaderValue) =
      .ok (.fromStatic "a") := read
  cases different

end Example

end Twelve.Version
