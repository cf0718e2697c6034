import Twelve.Library.Once
import Twelve.Page.MethodNotAllowed

/-! Whether pages show details is decided once in a process, at its first page. Pages
are rendered in any order and `DEBUG` may change at any time, but every page of the
process is read back as the first decision says. -/

set_option autoImplicit false

namespace Twelve

namespace Details

/-- `DETAILED_ERRORS`, and the variable `DEBUG` of the process. -/
abbrev State := Option Bool × Option Str

inductive Label where
  | setDebug (value : Option Str)
  | render (page : ErrorPage) (html : Str)

variable (encodeText : Str → Str) (statusText : StatusCode → Str)

def Step (state : State) : Label → State → Prop
  | .setDebug value, after => after = (state.1, value)
  | .render page html, after => html = page.render encodeText statusText state.1 state.2 ∧
      after = (some (detailedErrors state.1 state.2), state.2)

def Label.use : Label → Option (Once.Label (Option Str))
  | .setDebug value => some (.change value)
  | .render _ _ => some .use

/-- The reading of `DEBUG` when the first page of the history was rendered. -/
def decision (debug : Option Str) (labels : List Label) : Option Bool :=
  Once.firstUse (detailedErrors none) debug (labels.filterMap Label.use)

variable {encodeText : Str → Str} {statusText : StatusCode → Str}

theorem projects :
    Run.Projects (Step encodeText statusText) (Once.Step (detailedErrors none)) id Label.use := by
  intro state label after taken
  cases label with
  | setDebug value => exact taken
  | render page html => exact taken.2

theorem run_eq {debug : Option Str} {labels : List Label} {state : State}
    (run : Run (Step encodeText statusText) (none, debug) labels state) :
    state = (decision debug labels, Once.current debug (labels.filterMap Label.use)) := by
  have projected : Run (Once.Step (detailedErrors none)) (none, debug)
      (labels.filterMap Label.use) state := Run.project projects run
  exact Once.run_eq projected

/-- Every page of a run reads back as its status and, if the decision was to show
details or the error is visible to users, its whole chain. -/
theorem details_settled (encodes : ErrorPage.EncodesText encodeText) {debug : Option Str}
    {labels : List Label} {state : State}
    (run : Run (Step encodeText statusText) (none, debug) labels state) :
    ∀ page html, .render page html ∈ labels → ∃ detailed, decision debug labels = some detailed ∧
      ErrorPage.decode html = some (statusText page.error.statusCode,
        if detailed || page.error.userVisible then page.error.error.messages else []) := by
  intro page html member
  obtain ⟨before, rest, rfl⟩ := List.append_of_mem member
  obtain ⟨middle, after, earlier, step, -⟩ := Run.exists_of_append run
  obtain ⟨rendered, -⟩ := step
  refine ⟨detailedErrors middle.1 middle.2, ?_, ?_⟩
  · rw [run_eq earlier, decision, List.filterMap_append]
    exact Once.firstUse_of_use _
  · rw [rendered, ErrorPage.decode_render encodes, ErrorPage.shown]

def failedPage : ErrorPage where
  error := { error := .caused "database unavailable".toList (.root "password rejected".toList) }

/-- `DEBUG` is set after the first page, and the second page still shows nothing. -/
theorem details_settled_late :
    ErrorPage.decode (failedPage.render (·.flatMap ErrorPage.encodeChar)
      (fun _ => "500 Internal Server Error".toList) (some false) (some "1".toList)) =
      some ("500 Internal Server Error".toList, []) := by
  have encodes : ErrorPage.EncodesText (·.flatMap ErrorPage.encodeChar) := fun _ => rfl
  have run : Run (Step (·.flatMap ErrorPage.encodeChar) fun _ => "500 Internal Server Error".toList)
      (none, none) [.render failedPage _, .setDebug (some "1".toList), .render failedPage _] _ :=
    .next (.next (.next .start ⟨rfl, rfl⟩) rfl) ⟨rfl, rfl⟩
  obtain ⟨detailed, decided, read⟩ := details_settled encodes run failedPage _
    (List.mem_cons_of_mem _ (List.mem_cons_of_mem _ List.mem_cons_self))
  cases decided
  exact read

end Details

end Twelve
