import Twelve.Http.Message
import Twelve.Library.Markup

/-! Error pages, and the reader that recovers what a page was rendered from. The
escaping function and the texts of status codes belong to other crates and are
parameters, of which only the replacement of the three special characters is assumed. -/

set_option autoImplicit false

namespace Twelve

/-- A `std::error::Error` with its text and its finite chain of sources. -/
inductive StdError where
  | root (text : Str)
  | caused (text : Str) (source : StdError)

structure AppError where
  error : StdError
  statusCode : StatusCode := StatusCode.internalServerError
  userVisible : Bool := statusCode != StatusCode.internalServerError

structure ErrorPage where
  error : AppError

/-- `DETAILED_ERRORS.get_or_init`: what is stored, or else the reading of `DEBUG`. -/
def detailedErrors (stored : Option Bool) (debug : Option Str) : Bool :=
  stored.getD (Str.trim (debug.getD []) == "true".toList || Str.trim (debug.getD []) == "1".toList)

namespace ErrorPage

def hrPre : Str := "<hr><pre>".toList

def preEnd : Str := "</pre>".toList

def heading : Str := "<!DOCTYPE html><html><body><h1>".toList

def headingEnd : Str := "</h1>".toList

def bodyEnd : Str := "</body></html>".toList

section Render

variable (encodeText : Str → Str)

def pushErrors (html : Str) : StdError → Str
  | .root text => html ++ (hrPre ++ encodeText text ++ preEnd)
  | .caused text source => pushErrors (html ++ (hrPre ++ encodeText text ++ preEnd)) source

def render (statusText : StatusCode → Str) (stored : Option Bool) (debug : Option Str)
    (page : ErrorPage) : Str :=
  let html := heading ++ encodeText (statusText page.error.statusCode) ++ headingEnd
  let html :=
    if detailedErrors stored debug || page.error.userVisible then
      pushErrors encodeText html page.error.error
    else html
  html ++ bodyEnd

end Render

def encodeChar : Char → Str
  | '&' => "&amp;".toList
  | '<' => "&lt;".toList
  | '>' => "&gt;".toList
  | char => [char]

def EncodesText (encodeText : Str → Str) : Prop :=
  ∀ text, encodeText text = text.flatMap encodeChar

def htmlEntities : Markup.EscapeTable Char where
  entities := [("&amp;".toList, '&'), ("&lt;".toList, '<'), ("&gt;".toList, '>')]
  nonempty := by decide
  leading := by
    intro entry member head first
    simp only [List.mem_cons, List.not_mem_nil, or_false] at member
    rcases member with rfl | rfl | rfl <;> cases first <;> decide
  apart := by decide

/-- The reader of a page: the status text, then the text of each block. -/
def decode (page : Str) : Option (Str × List Str) := do
  let rest ← page.dropPrefix? heading
  let body ← rest.dropSuffix? bodyEnd
  let blocks ← (body.dropWhile (· ≠ '<')).dropPrefix? headingEnd
  let messages ← Markup.readBlocks '<' hrPre preEnd blocks.length blocks
  return (htmlEntities.unescape (body.takeWhile (· ≠ '<')), messages.map htmlEntities.unescape)

end ErrorPage

def StdError.messages : StdError → List Str
  | .root text => [text]
  | .caused text source => text :: source.messages

def ErrorPage.shown (stored : Option Bool) (debug : Option Str) (page : ErrorPage) : List Str :=
  if detailedErrors stored debug || page.error.userVisible then page.error.error.messages else []

namespace ErrorPage

private theorem encodeChar_eq_escapeItem (char : Char) :
    encodeChar char = htmlEntities.escapeItem char := by
  unfold encodeChar
  split
  · rfl
  · rfl
  · rfl
  · next notAmpersand notLess notGreater =>
      refine (Markup.EscapeTable.escapeItem_eq_self ?_).symm
      simp only [htmlEntities, List.map_cons, List.map_nil, List.mem_cons, List.not_mem_nil,
        or_false, not_or]
      exact ⟨notAmpersand, notLess, notGreater⟩

section Encoded

variable {encodeText : Str → Str} (encodes : EncodesText encodeText)
include encodes

theorem encodeText_eq_escape (text : Str) : encodeText text = htmlEntities.escape text := by
  rw [encodes, Markup.EscapeTable.escape, funext encodeChar_eq_escapeItem]

private theorem bracket_not_mem_encodeText (text : Str) : '<' ∉ encodeText text := by
  rw [encodeText_eq_escape encodes]
  exact Markup.EscapeTable.not_mem_escape (by decide) (by decide) text

theorem unescape_encodeText (text : Str) : htmlEntities.unescape (encodeText text) = text := by
  rw [encodeText_eq_escape encodes]
  exact Markup.EscapeTable.unescape_escape text

omit encodes in
theorem pushErrors_eq (html : Str) (error : StdError) :
    pushErrors encodeText html error =
      html ++ Markup.writeBlocks hrPre preEnd (error.messages.map encodeText) := by
  induction error generalizing html with
  | root text => simp [pushErrors, StdError.messages, Markup.writeBlocks]
  | caused text source ih => simp [pushErrors, StdError.messages, Markup.writeBlocks, ih]

omit encodes in
theorem render_eq (statusText : StatusCode → Str) (stored : Option Bool) (debug : Option Str)
    (page : ErrorPage) :
    page.render encodeText statusText stored debug =
      heading ++ (encodeText (statusText page.error.statusCode) ++ (headingEnd ++
        Markup.writeBlocks hrPre preEnd ((page.shown stored debug).map encodeText)) ++
          bodyEnd) := by
  unfold render shown
  split
  · simp [pushErrors_eq]
  · simp [Markup.writeBlocks]

theorem decode_render (statusText : StatusCode → Str) (stored : Option Bool) (debug : Option Str)
    (page : ErrorPage) :
    decode (page.render encodeText statusText stored debug) =
      some (statusText page.error.statusCode, page.shown stored debug) := by
  have cleanStatus := bracket_not_mem_encodeText encodes (statusText page.error.statusCode)
  have clean : ∀ content ∈ (page.shown stored debug).map encodeText, '<' ∉ content := by
    intro content member
    obtain ⟨text, -, rfl⟩ := List.mem_map.mp member
    exact bracket_not_mem_encodeText encodes text
  have stops : headingEnd.head? = some '<' := by decide
  have opens : hrPre ≠ [] := by decide
  have ends : preEnd.head? = some '<' := by decide
  have read := Markup.readBlocks_writeBlocks opens ends clean
    (Markup.length_le_writeBlocks opens preEnd _)
  have unescaped : ((page.shown stored debug).map encodeText).map htmlEntities.unescape =
      page.shown stored debug := by
    rw [List.map_map]
    exact List.map_id'' (unescape_encodeText encodes) _
  rw [render_eq, decode, Markup.dropPrefix_append]
  simp only [Option.bind_eq_bind, Option.bind_some, Markup.dropSuffix_append,
    Markup.takeWhile_content cleanStatus stops, Markup.dropWhile_content cleanStatus stops,
    Markup.dropPrefix_append, read, unescape_encodeText encodes, unescaped]
  rfl

/-- A page is a faithful encoding of its status text and of what it shows: it is read
back exactly, and two pages are the same only if both agree. -/
theorem render_faithful (statusText : StatusCode → Str) (stored : Option Bool) (debug : Option Str)
    (page : ErrorPage) :
    decode (page.render encodeText statusText stored debug) =
        some (statusText page.error.statusCode, page.shown stored debug) ∧
      ∀ other : ErrorPage,
        page.render encodeText statusText stored debug =
            other.render encodeText statusText stored debug ↔
          statusText page.error.statusCode = statusText other.error.statusCode ∧
            page.shown stored debug = other.shown stored debug := by
  constructor
  · exact decode_render encodes statusText stored debug page
  · intro other
    constructor
    · intro same
      have read := congrArg decode same
      rw [decode_render encodes, decode_render encodes] at read
      exact Prod.mk.inj (Option.some.inj read)
    · intro same
      obtain ⟨status, shown⟩ := same
      rw [render_eq, render_eq, status, shown]

end Encoded

def confusingPage : ErrorPage where
  error := {
    error := .caused "</pre><hr><pre>".toList (.root "&lt;".toList)
    statusCode := StatusCode.notFound }

theorem render_faithful_confusing :
    decode (confusingPage.render (·.flatMap encodeChar) (fun _ => "404 Not Found".toList) none
        none) = some ("404 Not Found".toList, ["</pre><hr><pre>".toList, "&lt;".toList]) :=
  (render_faithful (fun _ => rfl) (fun _ => "404 Not Found".toList) none none confusingPage).1

end ErrorPage

end Twelve
