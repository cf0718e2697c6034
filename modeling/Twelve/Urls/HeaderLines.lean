import Twelve.Urls.Automatic

/-! The layout of repeated header lines. Lines of one name may be merged into
one line on the way to the application. Extraction looks at the first line only,
so a merge can change what it reads: it is harmless exactly when the line is
single, not consulted, or when an earlier failure decides in both layouts. -/

set_option autoImplicit false

namespace Twelve

open HeaderName (xScriptName xForwardedProto xForwardedHost host)

def HeaderMap.mergeLines (name : HeaderName) (headers : HeaderMap) : HeaderMap :=
  match headers.getAll name with
  | [] => headers
  | first :: rest => headers.setAll name [HeaderValue.joinLines (first :: rest)]

namespace HeaderMap

variable {headers : HeaderMap} {name other : HeaderName} {first second : HeaderValue}
  {rest : List HeaderValue}

private theorem mergeLines_of_single (single : (headers.getAll name).length ≤ 1) :
    mergeLines name headers = headers := by
  unfold mergeLines
  cases lines : headers.getAll name with
  | nil => rfl
  | cons first rest =>
      rw [lines] at single
      obtain rfl : rest = [] := by simpa using single
      simp only [HeaderValue.joinLines_singleton]
      rw [← lines, Multimap.setAll_getAll]

theorem get_mergeLines_of_ne (different : other ≠ name) :
    (mergeLines name headers).get other = headers.get other := by
  unfold mergeLines
  split
  · rfl
  · exact Multimap.get_setAll_of_ne different headers _

theorem get_mergeLines_self (lines : headers.getAll name = first :: rest) :
    (mergeLines name headers).get name = some (HeaderValue.joinLines (first :: rest)) := by
  simp [mergeLines, lines, Multimap.get]

private theorem get_of_lines (lines : headers.getAll name = first :: rest) :
    headers.get name = some first := by
  simp [Multimap.get, lines]

end HeaderMap

namespace Urls

open HeaderMap

variable {http : UriCrate}

def consultedHeaders : List HeaderName := [xScriptName, xForwardedProto, xForwardedHost, host]

/-- No usable host: it is missing, unreadable, or fails the checks of an authority. -/
def HostRejected (http : UriCrate) (text : Option Str) : Prop :=
  ∀ given, text = some given → acceptsAuthority http given = false

/-- The layouts whose merge changes no outcome. -/
inductive MergeHarmless (http : UriCrate) (headers : HeaderMap) (name : HeaderName) : Prop where
  | single (lines : (headers.getAll name).length ≤ 1)
  | noScriptName (unread : readScriptName headers = none)
  | noScheme (unread : readScheme headers = none)
  | noHost (rejected : HostRejected http (readAuthority headers))
      (notScheme : name ≠ xForwardedProto)
      (readable : name = xScriptName → ∀ line ∈ headers.getAll name, line.toStr ≠ none)
  | shadowed (isHost : name = host) (forwarded : headers.get xForwardedHost ≠ none)

private theorem comma_mem_of_merged {first second : HeaderValue} {rest : List HeaderValue}
    {text : Str}
    (read : (HeaderValue.joinLines (first :: second :: rest)).toStr = some text) : ',' ∈ text := by
  obtain ⟨head, tail, -, rfl⟩ := HeaderValue.toStr_joinLines_cons_cons read
  simp

private theorem rejects_comma {text : Str} (comma : ',' ∈ text) :
    acceptsAuthority http text = false := by
  have listed : Str.containsAny text ['@', ',', '\\'] = true := by
    rw [Str.containsAny, List.any_eq_true]
    exact ⟨',', comma, by decide⟩
  rw [acceptsAuthority, listed]
  rfl

section Outcome

variable {scriptName : Option Str} {scheme : Option Scheme} {text : Option Str}

private theorem outcome_noScriptName :
    outcome http none scheme text = .error StatusCode.badGateway := by
  cases scheme <;> rfl

private theorem outcome_noScheme :
    outcome http scriptName none text = .error StatusCode.badGateway := by
  cases scriptName <;> rfl

private theorem outcome_host (name : Str) (proto : Scheme) (text : Option Str) :
    (HostRejected http text ∧
      outcome http (some name) (some proto) text = .error StatusCode.badRequest) ∨
    ∃ given, text = some given ∧ acceptsAuthority http given = true ∧
      outcome http (some name) (some proto) text = .ok ⟨name, .external proto ⟨given⟩⟩ := by
  cases text with
  | none =>
      left
      constructor
      · intro given impossible
        cases impossible
      · rfl
  | some given =>
      cases accepted : acceptsAuthority http given with
      | true => exact .inr ⟨given, rfl, accepted, if_pos accepted⟩
      | false =>
          left
          constructor
          · intro other same
            cases same
            exact accepted
          · rw [outcome, accepted]
            rfl

/-- Two different prefixes lead to one outcome only where no prefix is returned. -/
theorem outcome_scriptName_iff (name : Str) {other : Option Str} (different : other ≠ some name) :
    outcome http other scheme text = outcome http (some name) scheme text ↔
      scheme = none ∨ other ≠ none ∧ HostRejected http text := by
  cases scheme with
  | none => simp [outcome_noScheme]
  | some proto =>
      have first := @outcome_host http name proto text
      cases other with
      | none =>
          rw [outcome_noScriptName]
          rcases first with ⟨-, failed⟩ | ⟨given, -, -, extracted⟩
          · rw [failed]
            simp [StatusCode.badGateway, StatusCode.badRequest]
          · rw [extracted]
            simp
      | some merged =>
          have second := @outcome_host http merged proto text
          rcases first with ⟨rejected, failed⟩ | ⟨given, found, accepted, extracted⟩
          · rcases second with ⟨-, alsoFailed⟩ | ⟨given, found, accepted, -⟩
            · simp only [failed, alsoFailed, true_iff]
              exact .inr ⟨by simp, rejected⟩
            · exact absurd (rejected given found) (by simp [accepted])
          · subst found
            have unequal : merged ≠ name := fun same => different (congrArg some same)
            simp [HostRejected, outcome, accepted, unequal]

/-- Losing the scheme is a failure of its own, which only the same failure hides. -/
theorem outcome_noScheme_iff :
    outcome http scriptName none text = outcome http scriptName scheme text ↔
      scriptName = none ∨ scheme = none := by
  rw [outcome_noScheme]
  cases scriptName with
  | none => simp [outcome_noScriptName]
  | some name =>
      cases scheme with
      | none => simp [outcome_noScheme]
      | some proto =>
          rcases @outcome_host http name proto text with
            ⟨-, failed⟩ | ⟨given, -, -, extracted⟩
          · rw [failed]
            simp [StatusCode.badGateway, StatusCode.badRequest]
          · rw [extracted]
            simp

theorem outcome_rejected_iff {other : Option Str}
    (rejected : HostRejected http other) :
    outcome http scriptName scheme other = outcome http scriptName scheme text ↔
      scriptName = none ∨ scheme = none ∨ HostRejected http text := by
  cases scriptName with
  | none => simp [outcome_noScriptName]
  | some name =>
      cases scheme with
      | none => simp [outcome_noScheme]
      | some proto =>
          rcases @outcome_host http name proto other with
            ⟨-, alsoFailed⟩ | ⟨given, found, accepted, -⟩
          · rw [alsoFailed]
            rcases @outcome_host http name proto text with
              ⟨unusable, failed⟩ | ⟨given, found, accepted, extracted⟩
            · simp only [failed, true_iff]
              exact .inr (.inr unusable)
            · subst found
              simp [HostRejected, outcome, accepted]
          · exact absurd (rejected given found) (by simp [accepted])

end Outcome

section Readings

variable {headers : HeaderMap} {name : HeaderName} {first second : HeaderValue}
  {rest : List HeaderValue}

theorem readScriptName_mergeLines (different : xScriptName ≠ name) :
    readScriptName (mergeLines name headers) = readScriptName headers := by
  rw [readScriptName, readScriptName, get_mergeLines_of_ne different]

theorem readScheme_mergeLines (different : xForwardedProto ≠ name) :
    readScheme (mergeLines name headers) = readScheme headers := by
  rw [readScheme, readScheme, get_mergeLines_of_ne different]

theorem readAuthority_mergeLines (notForwarded : xForwardedHost ≠ name) (notHost : host ≠ name) :
    readAuthority (mergeLines name headers) = readAuthority headers := by
  rw [readAuthority, readAuthority, get_mergeLines_of_ne notForwarded, get_mergeLines_of_ne notHost]

private theorem merged_scriptName_ne {text : Str} (read : first.toStr = some text) :
    (HeaderValue.joinLines (first :: second :: rest)).toStr ≠ some text := by
  intro merged
  obtain ⟨head, tail, firstRead, same⟩ := HeaderValue.toStr_joinLines_cons_cons merged
  rw [read] at firstRead
  cases firstRead
  simp at same

private theorem readScheme_merged
    (lines : headers.getAll xForwardedProto = first :: second :: rest) :
    readScheme (mergeLines xForwardedProto headers) = none := by
  rw [readScheme, get_mergeLines_self lines]
  cases read : (HeaderValue.joinLines (first :: second :: rest)).toStr with
  | none => simp only [read, Option.bind_none]
  | some text =>
      have comma := comma_mem_of_merged read
      have notHttp : text ≠ "http".toList := by
        intro same
        subst same
        exact absurd comma (by decide)
      have notHttps : text ≠ "https".toList := by
        intro same
        subst same
        exact absurd comma (by decide)
      simp only [read, Option.bind_some, if_neg notHttp, if_neg notHttps]

private theorem hostRejected_merged :
    HostRejected http (HeaderValue.joinLines (first :: second :: rest)).toStr :=
  fun _ read => rejects_comma (comma_mem_of_merged read)

private theorem lines_of_several (several : ¬ (headers.getAll name).length ≤ 1) :
    ∃ first second rest, headers.getAll name = first :: second :: rest := by
  cases lines : headers.getAll name with
  | nil => simp [lines] at several
  | cons first others =>
      cases others with
      | nil => simp [lines] at several
      | cons second rest => exact ⟨first, second, rest, rfl⟩

private theorem several_of_lines (lines : headers.getAll name = first :: second :: rest) :
    ¬ (headers.getAll name).length ≤ 1 := by
  rw [lines]
  simp

end Readings

section Laws

variable {grammar : UriGrammar} (laws : http.Laws grammar) {headers : HeaderMap}
  {first second : HeaderValue} {rest : List HeaderValue}
include laws

theorem mergeScriptName_iff (lines : headers.getAll xScriptName = first :: second :: rest) :
    automatic http (mergeLines xScriptName headers) = automatic http headers ↔
      MergeHarmless http headers xScriptName := by
  have merged : readScriptName (mergeLines xScriptName headers) =
      (HeaderValue.joinLines (first :: second :: rest)).toStr := by
    rw [readScriptName, get_mergeLines_self lines]
  have before : readScriptName headers = first.toStr := by
    rw [readScriptName, get_of_lines lines]
  have readable := HeaderValue.toStr_joinLines_isSome (first :: second :: rest)
  rw [automatic_eq_outcome laws, automatic_eq_outcome laws, merged, before,
    readScheme_mergeLines (by decide), readAuthority_mergeLines (by decide) (by decide)]
  cases read : first.toStr with
  | none =>
      rw [List.all_cons, read] at readable
      have unread : (HeaderValue.joinLines (first :: second :: rest)).toStr = none := by
        simpa using readable
      rw [unread]
      exact iff_of_true rfl (.noScriptName (before.trans read))
  | some text =>
      rw [outcome_scriptName_iff text (merged_scriptName_ne read)]
      constructor
      · intro harmless
        rcases harmless with noScheme | ⟨whole, rejected⟩
        · exact .noScheme noScheme
        · refine .noHost rejected (by decide) fun _ => ?_
          rw [Option.ne_none_iff_isSome, readable, List.all_eq_true] at whole
          intro line member
          rw [lines] at member
          exact Option.ne_none_iff_isSome.mpr (whole line member)
      · intro harmless
        cases harmless with
        | single short => exact absurd short (several_of_lines lines)
        | noScriptName unread =>
            rw [before, read] at unread
            cases unread
        | noScheme unread => exact .inl unread
        | noHost rejected _ whole =>
            refine .inr ⟨?_, rejected⟩
            rw [Option.ne_none_iff_isSome, readable, List.all_eq_true, ← lines]
            exact fun line member => Option.ne_none_iff_isSome.mp (whole rfl line member)
        | shadowed isHost _ => exact absurd isHost (by decide)

theorem mergeScheme_iff (lines : headers.getAll xForwardedProto = first :: second :: rest) :
    automatic http (mergeLines xForwardedProto headers) = automatic http headers ↔
      MergeHarmless http headers xForwardedProto := by
  rw [automatic_eq_outcome laws, automatic_eq_outcome laws, readScheme_merged lines,
    readScriptName_mergeLines (by decide), readAuthority_mergeLines (by decide) (by decide),
    outcome_noScheme_iff]
  constructor
  · intro harmless
    rcases harmless with noScriptName | noScheme
    · exact .noScriptName noScriptName
    · exact .noScheme noScheme
  · intro harmless
    cases harmless with
    | single short => exact absurd short (several_of_lines lines)
    | noScriptName unread => exact .inl unread
    | noScheme unread => exact .inr unread
    | noHost _ notScheme _ => exact absurd rfl notScheme
    | shadowed isHost _ => exact absurd isHost (by decide)

/-- A merge that leaves a rejected host, whichever header it came from. -/
theorem mergeHost_iff {name : HeaderName} (several : ¬ (headers.getAll name).length ≤ 1)
    (notName : xScriptName ≠ name) (notScheme : xForwardedProto ≠ name)
    (notShadowed : name = host → headers.get xForwardedHost = none)
    (rejected : HostRejected http (readAuthority (mergeLines name headers))) :
    automatic http (mergeLines name headers) = automatic http headers ↔
      MergeHarmless http headers name := by
  rw [automatic_eq_outcome laws, automatic_eq_outcome laws, readScriptName_mergeLines notName,
    readScheme_mergeLines notScheme, outcome_rejected_iff rejected]
  constructor
  · intro harmless
    rcases harmless with noScriptName | noScheme | noHost
    · exact .noScriptName noScriptName
    · exact .noScheme noScheme
    · exact .noHost noHost notScheme.symm fun same => absurd same.symm notName
  · intro harmless
    cases harmless with
    | single short => exact absurd short several
    | noScriptName unread => exact .inl unread
    | noScheme unread => exact .inr (.inl unread)
    | noHost before _ _ => exact .inr (.inr before)
    | shadowed isHost forwarded => exact absurd (notShadowed isHost) forwarded

/-- Which layouts of a consulted header extraction treats alike. -/
theorem mergeLines_same_iff (name : HeaderName) (consulted : name ∈ consultedHeaders) :
    fromRequestParts (⟨mergeLines name headers, some .automatic⟩ : Parts http) =
        fromRequestParts (⟨headers, some .automatic⟩ : Parts http) ↔
      MergeHarmless http headers name := by
  simp only [fromRequestParts, Except.ok.injEq]
  by_cases single : (headers.getAll name).length ≤ 1
  · rw [mergeLines_of_single single]
    exact iff_of_true rfl (.single single)
  · obtain ⟨first, second, rest, lines⟩ := lines_of_several single
    simp only [consultedHeaders, List.mem_cons, List.not_mem_nil, or_false] at consulted
    rcases consulted with rfl | rfl | rfl | rfl
    · exact mergeScriptName_iff laws lines
    · exact mergeScheme_iff laws lines
    · refine mergeHost_iff laws (several_of_lines lines) (by decide) (by decide) ?_ ?_
      · intro isHost
        exact absurd isHost (by decide)
      · rw [readAuthority, get_mergeLines_self lines]
        exact hostRejected_merged
    · cases forwarded : headers.get xForwardedHost with
      | some value =>
          have same : readAuthority (mergeLines host headers) = readAuthority headers := by
            rw [readAuthority, readAuthority, get_mergeLines_of_ne (by decide), forwarded]
            rfl
          rw [automatic_eq_outcome laws, automatic_eq_outcome laws, same,
            readScriptName_mergeLines (by decide), readScheme_mergeLines (by decide)]
          exact iff_of_true rfl (.shadowed rfl (by simp [forwarded]))
      | none =>
          refine mergeHost_iff laws (several_of_lines lines) (by decide) (by decide)
            (fun _ => forwarded) ?_
          rw [readAuthority, get_mergeLines_of_ne (by decide), forwarded, get_mergeLines_self lines]
          exact hostRejected_merged

end Laws

theorem mergeLines_same_iff_hostless :
    let headers := Multimap.empty.setAll xScriptName [.fromStatic "/a", .fromStatic "/b"]
    fromRequestParts (⟨mergeLines xScriptName headers, some .automatic⟩ :
        Parts ReferenceUri.crate) =
      fromRequestParts (⟨headers, some .automatic⟩ : Parts ReferenceUri.crate) := by
  refine (mergeLines_same_iff ReferenceUri.laws xScriptName (by decide)).mpr
    (.noHost ?_ (by decide) ?_)
  · intro given found
    cases found
  · intro _ line member
    simp only [Multimap.getAll_setAll_self, List.mem_cons, List.not_mem_nil, or_false] at member
    rcases member with rfl | rfl <;> decide

theorem forwarded_host_lines_depend_on_layout :
    let headers := Multimap.empty.setAll xForwardedHost
      [.fromStatic "evil.example", .fromStatic "app.example"]
    fromRequestParts (⟨headers, some .automatic⟩ : Parts ReferenceUri.crate) =
        .ok (.ok ⟨"/".toList, .external Scheme.http ⟨"evil.example".toList⟩⟩) ∧
      fromRequestParts (⟨mergeLines xForwardedHost headers, some .automatic⟩ :
        Parts ReferenceUri.crate) = .ok (.error StatusCode.badRequest) := by
  constructor
  · rfl
  · rfl

end Urls

end Twelve
