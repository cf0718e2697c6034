import Twelve.Http.UriProperties

/-! An executable instance of the `http::uri` items, written from the crate's
documented grammar. No general result depends on it: it shows that the laws can
hold together and lets a statement be evaluated at a concrete text. -/

set_option autoImplicit false

namespace Twelve.ReferenceUri

inductive InvalidUri where
  | invalidUriChar
  | invalidAuthority
  | invalidFormat
  | tooLong
  | empty
  | schemeTooLong
  deriving DecidableEq

/-- The three stored parts. The path and query is kept without its fragment. -/
structure Uri where
  scheme : Option Scheme
  authority : Option Authority
  pathAndQuery : Str
  deriving DecidableEq

def maxLen : Nat := 65534

def maxSchemeLen : Nat := 64

/-- Bytes a path may hold unencoded, with every non-ASCII scalar. -/
def pathChar (char : Char) : Bool :=
  (0x21 ≤ char.val && char.val ≤ 0x7E || 0x80 ≤ char.val) &&
    !(['#', '<', '>', '?', '\x60'].contains char)

/-- Bytes a query may hold unencoded, with every non-ASCII scalar. -/
def queryChar (char : Char) : Bool :=
  (0x21 ≤ char.val && char.val ≤ 0x7E || 0x80 ≤ char.val) &&
    !(['"', '#', '<', '>'].contains char)

def grammar : UriGrammar := ⟨pathChar, queryChar, maxLen⟩

def schemeChar (char : Char) : Bool := char.isAlphanum || ['+', '-', '.', '~'].contains char

def authorityChar (char : Char) : Bool :=
  char.isAlphanum || "!$&'()*+,-.:;=@[]_~".toList.contains char

/-- Where a path and query may begin. A path that is not empty begins with a slash. -/
def beginsPathAndQuery (text : Str) : Bool := text.head?.all endsAuthority || text == ['*']

def parsesAsPathAndQuery (text : Str) : Bool :=
  beginsPathAndQuery text && (pathPart text).all pathChar && (queryPart text).all queryChar

/-- Colons and brackets of the user information and of a bracketed address are
forgotten at the `@` and at the `]`, as is a percent sign. -/
def authorityScan (colons : Nat) (opened closed percent afterAt : Bool) : Str → Bool
  | [] => opened == closed && colons ≤ 1 && !percent && !afterAt
  | '%' :: rest => authorityScan colons opened closed true false rest
  | ':' :: rest => colons < 8 && authorityScan (colons + 1) opened closed percent false rest
  | '[' :: rest => !percent && !opened && authorityScan colons true closed percent false rest
  | ']' :: rest => opened && !closed && authorityScan 0 opened true false false rest
  | '@' :: rest => authorityScan 0 opened closed false true rest
  | char :: rest => authorityChar char && authorityScan colons opened closed percent false rest

def authorityFromStr (text : Str) : Except InvalidUri Authority :=
  if text = [] then .error .empty
  else if text.any endsAuthority then .error .invalidUriChar
  else if authorityScan 0 false false false false text then .ok ⟨text⟩
  else .error .invalidAuthority

/-- A known scheme in any letter case at the start of a text, and what follows its `://`. -/
def splitKnown (scheme : Scheme) (text : Str) : Option (Scheme × Str) :=
  let length := scheme.asStr.length
  if Str.toAsciiLowercase (text.take length) = scheme.asStr ∧
      Str.startsWith (text.drop length) "://".toList then
    some (scheme, text.drop (length + 3))
  else none

def splitOther (text : Str) : Option (Scheme × Str) :=
  let name := text.takeWhile schemeChar
  if Str.startsWith (text.drop name.length) "://".toList then
    some (⟨name⟩, text.drop (name.length + 3))
  else none

def splitScheme (text : Str) : Option (Scheme × Str) :=
  (splitKnown Scheme.http text).or ((splitKnown Scheme.https text).or (splitOther text))

def parseFull (scheme : Scheme) (rest : Str) : Except InvalidUri Uri :=
  if maxSchemeLen < scheme.asStr.length then .error .schemeTooLong
  else match authorityFromStr (authorityPart rest) with
    | .error error => .error error
    | .ok authority =>
        if parsesAsPathAndQuery (afterAuthority rest) then
          .ok ⟨some scheme, some authority, withoutFragment (afterAuthority rest)⟩
        else .error .invalidUriChar

def uriFromStr (text : Str) : Except InvalidUri Uri :=
  if maxLen < Str.byteLen text then .error .tooLong
  else if text = [] then .error .empty
  else if text.head? = some '/' then
    if parsesAsPathAndQuery text then .ok ⟨none, none, withoutFragment text⟩
    else .error .invalidUriChar
  else if text = ['*'] then .ok ⟨none, none, text⟩
  else match splitScheme text with
    | some (scheme, rest) => parseFull scheme rest
    | none =>
        match authorityFromStr text with
        | .error error => .error error
        | .ok authority => .ok ⟨none, some authority, []⟩

def build (origin : Option (Scheme × Authority)) (text : Str) : Except InvalidUri Uri :=
  if parsesAsPathAndQuery text then
    .ok ⟨origin.map (·.1), origin.map (·.2), withoutFragment text⟩
  else .error .invalidUriChar

def Uri.path (uri : Uri) : Str :=
  if uri.scheme = none ∧ uri.pathAndQuery = [] then [] else pathOrSlash uri.pathAndQuery

def Uri.toString (uri : Uri) : Str :=
  uri.scheme.elim [] (·.asStr ++ "://".toList) ++ uri.authority.elim [] (·.asStr) ++ uri.path ++
    uri.pathAndQuery.dropWhile fun char => char != '?' && char != '#'

def crate : UriCrate where
  Uri := Uri
  InvalidUri := InvalidUri
  Error := InvalidUri
  uriFromStr := uriFromStr
  authorityFromStr := authorityFromStr
  parsesAsPathAndQuery := parsesAsPathAndQuery
  build := build
  scheme := Uri.scheme
  authority := Uri.authority
  host := fun uri => uri.authority.map (hostPart ·.asStr)
  path := Uri.path
  toString := Uri.toString

private theorem parsesAsPathAndQuery_iff {text : Str}
    (begins : text.head?.all endsAuthority = true) :
    parsesAsPathAndQuery text = true ↔ grammar.PathAndQuery text := by
  simp [parsesAsPathAndQuery, beginsPathAndQuery, begins, UriGrammar.PathAndQuery, grammar]

private theorem all_endsAuthority_of_rooted {text : Str} (rooted : text.head? = some '/') :
    text.head?.all endsAuthority = true := by
  rw [rooted]
  rfl

private theorem all_endsAuthority_afterAuthority (rest : Str) :
    (afterAuthority rest).head?.all endsAuthority = true := by
  cases following : afterAuthority rest with
  | nil => rfl
  | cons head tail => exact afterAuthority_head following

theorem authorityFromStr_eq_ok_iff {text : Str} {authority : Authority} :
    authorityFromStr text = .ok authority ↔
      authority.asStr = text ∧ text ≠ [] ∧ authorityPart text = text ∧
        authorityScan 0 false false false false text = true := by
  have whole : authorityPart text = text ↔ text.any endsAuthority = false := by
    rw [authorityPart, List.takeWhile_eq_self_iff]
    simp
  rw [whole]
  constructor
  · intro accepted
    unfold authorityFromStr at accepted
    split at accepted
    · cases accepted
    · next nonempty =>
        split at accepted
        · cases accepted
        · next ends =>
            split at accepted
            · next scanned =>
                cases accepted
                exact ⟨rfl, nonempty, by simpa using ends, scanned⟩
            · cases accepted
  · intro accepted
    obtain ⟨same, nonempty, ends, scanned⟩ := accepted
    obtain ⟨asStr⟩ := authority
    subst same
    simp [authorityFromStr, nonempty, ends, scanned]

private theorem pathPart_withoutFragment (text : Str) :
    pathPart (withoutFragment text) = pathPart text := by
  rw [pathPart, withoutFragment, List.takeWhile_takeWhile]
  congr 1
  funext char
  by_cases query : char = '?' <;> by_cases fragment : char = '#' <;> simp [query, fragment]

private theorem pathOrSlash_withoutFragment (text : Str) :
    pathOrSlash (withoutFragment text) = pathOrSlash text := by
  simp [pathOrSlash, pathPart_withoutFragment]

private theorem path_append_query {head : Char} (notQuery : head ≠ '?') (notFragment : head ≠ '#')
    (tail : Str) :
    pathOrSlash (withoutFragment (head :: tail)) ++
        (withoutFragment (head :: tail)).dropWhile (fun char => char != '?' && char != '#') =
      withoutFragment (head :: tail) := by
  have nonempty : pathPart (head :: tail) ≠ [] := by
    simp [pathPart, notQuery, notFragment]
  rw [pathOrSlash, pathPart_withoutFragment, if_neg nonempty, ← pathPart_withoutFragment, pathPart,
    List.takeWhile_append_dropWhile]

private theorem splitAt_mark {count : Nat} {text : Str}
    (mark : Str.startsWith (text.drop count) "://".toList = true) :
    text = text.take count ++ "://".toList ++ text.drop (count + 3) := by
  obtain ⟨rest, following⟩ := List.isPrefixOf_iff_prefix.mp mark
  have dropped : text.drop (count + 3) = rest := by
    rw [← List.drop_drop, ← following]
    rfl
  rw [dropped, List.append_assoc, following, List.take_append_drop]

private theorem splitKnown_eq_some_iff {known scheme : Scheme} {text rest : Str} :
    splitKnown known text = some (scheme, rest) ↔
      scheme = known ∧ ∃ spelled, text = spelled ++ "://".toList ++ rest ∧
        Str.toAsciiLowercase spelled = known.asStr := by
  constructor
  · intro split
    simp only [splitKnown] at split
    split at split
    · next found =>
        cases split
        exact ⟨rfl, _, splitAt_mark found.2, found.1⟩
    · cases split
  · intro spells
    obtain ⟨rfl, spelled, rfl, lowered⟩ := spells
    have length : scheme.asStr.length = spelled.length := by
      simp [← lowered, Str.toAsciiLowercase]
    have taken : (spelled ++ "://".toList ++ rest).take spelled.length = spelled := by
      rw [List.append_assoc, List.take_left]
    have dropped : (spelled ++ "://".toList ++ rest).drop spelled.length =
        "://".toList ++ rest := by
      rw [List.append_assoc, List.drop_left]
    have mark : Str.startsWith ("://".toList ++ rest) "://".toList = true :=
      List.isPrefixOf_iff_prefix.mpr ⟨_, rfl⟩
    simp only [splitKnown, length, taken, dropped, lowered, mark, and_self, if_true,
      ← List.drop_drop]
    rfl

private theorem splitKnown_http_eq_none {spelled : Str} (rest : Str)
    (https : Str.toAsciiLowercase spelled = Scheme.https.asStr) :
    splitKnown Scheme.http (spelled ++ "://".toList ++ rest) = none := by
  cases split : splitKnown Scheme.http (spelled ++ "://".toList ++ rest) with
  | none => rfl
  | some found =>
      obtain ⟨-, other, same, http⟩ := splitKnown_eq_some_iff.mp split
      have shorter : other.length = 4 := by
        have lengths := congrArg List.length http
        rw [Str.toAsciiLowercase, List.length_map] at lengths
        exact lengths
      have longer : spelled.length = 5 := by
        have lengths := congrArg List.length https
        rw [Str.toAsciiLowercase, List.length_map] at lengths
        exact lengths
      -- The fifth character would be a colon in one reading and an `s` in the other.
      have fifth : spelled[4]? = some ':' := by
        have both := congrArg (·[4]?) same
        simpa [List.getElem?_append, shorter, longer] using both
      have lowered : (spelled.map Char.toLower)[4]? = Scheme.https.asStr[4]? :=
        congrArg (·[4]?) https
      rw [List.getElem?_map, fifth] at lowered
      exact absurd lowered (by decide)

private theorem splitScheme_spelled {spelled : Str} (rest : Str) (known : SpellsHttp spelled) :
    splitScheme (spelled ++ "://".toList ++ rest) =
      some (⟨Str.toAsciiLowercase spelled⟩, rest) := by
  rcases known with http | https
  · have found : splitKnown Scheme.http (spelled ++ "://".toList ++ rest) =
        some (Scheme.http, rest) :=
      splitKnown_eq_some_iff.mpr ⟨rfl, spelled, rfl, http⟩
    rw [splitScheme, found, http]
    rfl
  · have found : splitKnown Scheme.https (spelled ++ "://".toList ++ rest) =
        some (Scheme.https, rest) :=
      splitKnown_eq_some_iff.mpr ⟨rfl, spelled, rfl, https⟩
    rw [splitScheme, splitKnown_http_eq_none rest https, found, https]
    rfl

private theorem splitScheme_sound {text rest : Str} {scheme : Scheme}
    (split : splitScheme text = some (scheme, rest))
    (known : scheme = Scheme.http ∨ scheme = Scheme.https) :
    ∃ spelled, text = spelled ++ "://".toList ++ rest ∧
      Str.toAsciiLowercase spelled = scheme.asStr := by
  simp only [splitScheme, Option.or_eq_some_iff] at split
  rcases split with http | ⟨-, https | ⟨-, other⟩⟩
  · obtain ⟨rfl, spelled⟩ := splitKnown_eq_some_iff.mp http
    exact spelled
  · obtain ⟨rfl, spelled⟩ := splitKnown_eq_some_iff.mp https
    exact spelled
  · simp only [splitOther] at other
    split at other
    · next mark =>
        cases other
        refine ⟨_, splitAt_mark mark, ?_⟩
        have starts : text.takeWhile schemeChar <+: text := List.takeWhile_prefix _
        have name : text.take (text.takeWhile schemeChar).length = text.takeWhile schemeChar :=
          List.prefix_iff_eq_take.mp starts |>.symm
        rw [name]
        rcases known with http | https
        · rw [Scheme.mk.injEq] at http
          rw [http]
          decide
        · rw [Scheme.mk.injEq] at https
          rw [https]
          decide
    · cases other

private theorem parseFull_eq_ok_iff {scheme : Scheme} {rest : Str} {uri : Uri}
    (short : scheme.asStr.length ≤ maxSchemeLen) :
    parseFull scheme rest = .ok uri ↔
      authorityFromStr (authorityPart rest) = .ok ⟨authorityPart rest⟩ ∧
      grammar.PathAndQuery (afterAuthority rest) ∧
      uri = ⟨some scheme, some ⟨authorityPart rest⟩, withoutFragment (afterAuthority rest)⟩ := by
  rw [parseFull, if_neg (Nat.not_lt.mpr short)]
  cases parsed : authorityFromStr (authorityPart rest) with
  | error error => simp
  | ok authority =>
      obtain ⟨asStr⟩ := authority
      obtain ⟨rfl, -⟩ := authorityFromStr_eq_ok_iff.mp parsed
      have parses := parsesAsPathAndQuery_iff (all_endsAuthority_afterAuthority rest)
      by_cases valid : parsesAsPathAndQuery (afterAuthority rest) = true
      · simp [valid, parses.mp valid, eq_comm]
      · simp [valid, mt parses.mpr valid]

private theorem uriFromStr_spelled {spelled : Str} (rest : Str) (known : SpellsHttp spelled)
    (fits : Str.byteLen (spelled ++ "://".toList ++ rest) ≤ maxLen) :
    uriFromStr (spelled ++ "://".toList ++ rest) =
      parseFull ⟨Str.toAsciiLowercase spelled⟩ rest := by
  have found := splitScheme_spelled rest known
  cases spelled with
  | nil => rcases known with impossible | impossible <;> cases impossible
  | cons first letters =>
      have notSlash : first ≠ '/' := by
        intro same
        subst same
        rcases known with impossible | impossible <;> cases impossible
      have longer : first :: letters ++ "://".toList ++ rest ≠ ['*'] := by simp
      rw [uriFromStr, if_neg (Nat.not_lt.mpr fits), if_neg (by simp),
        if_neg (by simpa using notSlash), if_neg longer, found]

private theorem known_length_le {spelled : Str} (known : SpellsHttp spelled) :
    (Scheme.mk (Str.toAsciiLowercase spelled)).asStr.length ≤ maxSchemeLen := by
  rcases known with http | https
  · rw [http]
    decide
  · rw [https]
    decide

theorem uriFromStr_eq_ok_iff {spelled rest : Str} {uri : Uri} (known : SpellsHttp spelled) :
    uriFromStr (spelled ++ "://".toList ++ rest) = .ok uri ↔
      Str.byteLen (spelled ++ "://".toList ++ rest) ≤ maxLen ∧
      authorityFromStr (authorityPart rest) = .ok ⟨authorityPart rest⟩ ∧
      grammar.PathAndQuery (afterAuthority rest) ∧
      uri = ⟨some ⟨Str.toAsciiLowercase spelled⟩, some ⟨authorityPart rest⟩,
        withoutFragment (afterAuthority rest)⟩ := by
  by_cases fits : Str.byteLen (spelled ++ "://".toList ++ rest) ≤ maxLen
  · rw [uriFromStr_spelled rest known fits, parseFull_eq_ok_iff (known_length_le known),
      and_iff_right fits]
  · rw [uriFromStr, if_pos (Nat.lt_of_not_le fits)]
    constructor
    · intro impossible
      cases impossible
    · intro accepted
      obtain ⟨bounded, -⟩ := accepted
      exact absurd bounded fits

private theorem authorityFromStr_isOk_iff {text : Str} :
    (authorityFromStr text).isOk = true ↔ authorityFromStr text = .ok ⟨text⟩ := by
  cases parsed : authorityFromStr text with
  | error error => simp [Except.isOk, Except.toBool]
  | ok authority =>
      obtain ⟨asStr⟩ := authority
      obtain ⟨rfl, -⟩ := authorityFromStr_eq_ok_iff.mp parsed
      simp [Except.isOk, Except.toBool]

theorem uriFromStr_isOk_iff {spelled : Str} (rest : Str) (known : SpellsHttp spelled) :
    (uriFromStr (spelled ++ "://".toList ++ rest)).isOk = true ↔
      Str.byteLen (spelled ++ "://".toList ++ rest) ≤ maxLen ∧
      (authorityFromStr (authorityPart rest)).isOk = true ∧
      grammar.PathAndQuery (afterAuthority rest) := by
  have full : ∀ uri, uriFromStr (spelled ++ "://".toList ++ rest) = .ok uri ↔ _ :=
    fun uri => uriFromStr_eq_ok_iff known
  rw [authorityFromStr_isOk_iff]
  constructor
  · intro accepted
    cases parsed : uriFromStr (spelled ++ "://".toList ++ rest) with
    | error error =>
        rw [parsed] at accepted
        cases accepted
    | ok uri =>
        obtain ⟨fits, authority, valid, -⟩ := (full uri).mp parsed
        exact ⟨fits, authority, valid⟩
  · intro accepted
    obtain ⟨fits, authority, valid⟩ := accepted
    rw [(full _).mpr ⟨fits, authority, valid, rfl⟩]
    rfl

theorem uriFromStr_parts {spelled rest : Str} {uri : Uri} (known : SpellsHttp spelled)
    (parsed : uriFromStr (spelled ++ "://".toList ++ rest) = .ok uri) :
    uri.scheme = some ⟨Str.toAsciiLowercase spelled⟩ ∧
      uri.authority = some ⟨authorityPart rest⟩ ∧
      uri.path = pathOrSlash (afterAuthority rest) := by
  obtain ⟨-, -, -, rfl⟩ := (uriFromStr_eq_ok_iff known).mp parsed
  simp [Uri.path, pathOrSlash_withoutFragment]

private theorem parseFull_scheme {scheme : Scheme} {rest : Str} {uri : Uri}
    (parsed : parseFull scheme rest = .ok uri) : uri.scheme = some scheme := by
  unfold parseFull at parsed
  split at parsed
  · cases parsed
  · split at parsed
    · cases parsed
    · split at parsed <;> cases parsed
      rfl

theorem uriFromStr_scheme {value : Str} {uri : Uri} {scheme : Scheme}
    (parsed : uriFromStr value = .ok uri) (stored : uri.scheme = some scheme) :
    ∃ rest, splitScheme value = some (scheme, rest) := by
  unfold uriFromStr at parsed
  split at parsed
  · cases parsed
  · split at parsed
    · cases parsed
    · split at parsed
      · split at parsed <;> cases parsed
        cases stored
      · split at parsed
        · cases parsed
          cases stored
        · split at parsed
          · next split =>
              have same := (parseFull_scheme parsed).symm.trans stored
              cases same
              exact ⟨_, split⟩
          · split at parsed <;> cases parsed
            cases stored

theorem build_toString {origin : Option (Scheme × Authority)} {head : Char} {tail : Str} {uri : Uri}
    (notQuery : head ≠ '?') (notFragment : head ≠ '#')
    (built : build origin (head :: tail) = .ok uri) :
    uri.toString = originText origin ++ withoutFragment (head :: tail) := by
  unfold build at built
  split at built
  · cases built
    have nonempty : withoutFragment (head :: tail) ≠ [] := by
      simp [withoutFragment, notFragment]
    have printed := path_append_query notQuery notFragment tail
    cases origin <;> simp [Uri.toString, Uri.path, nonempty, originText, printed]
  · cases built

/-- The executable instance satisfies everything the results assume of the crate. -/
theorem laws : crate.Laws grammar where
  slash_pathChar := by decide
  pathAndQuery_sound _ rooted accepted :=
    (parsesAsPathAndQuery_iff (all_endsAuthority_of_rooted rooted)).mp accepted
  pathAndQuery_complete _ rooted _ valid :=
    (parsesAsPathAndQuery_iff (all_endsAuthority_of_rooted rooted)).mpr valid
  build_isOk origin text _ := by
    change (build origin text).isOk = parsesAsPathAndQuery text
    cases valid : parsesAsPathAndQuery text <;> simp [build, valid, Except.isOk, Except.toBool]
  build_toString _ _ _ _ notQuery notFragment built := build_toString notQuery notFragment built
  uriFromStr_isOk_iff _ rest known := uriFromStr_isOk_iff rest known
  uriFromStr_parts _ rest uri known parsed := by
    obtain ⟨scheme, authority, path⟩ := uriFromStr_parts known parsed
    have host := congrArg (Option.map fun found : Authority => hostPart found.asStr) authority
    exact ⟨scheme, authority, host, path⟩
  uriFromStr_scheme _ _ _ parsed stored known := by
    obtain ⟨rest, split⟩ := uriFromStr_scheme parsed stored
    obtain ⟨spelled, text, lowered⟩ := splitScheme_sound split known
    exact ⟨spelled, rest, text, lowered⟩
  authorityFromStr_ok _ _ accepted := by
    obtain ⟨same, nonempty, whole, -⟩ := authorityFromStr_eq_ok_iff.mp accepted
    exact ⟨same, nonempty, whole⟩

end Twelve.ReferenceUri
