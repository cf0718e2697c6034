import Twelve.Text

/-! The URI items the sources take from the `http` crate. The crate is not part
of the repository: its functions are the fields of `UriCrate`, and everything
the results assume of them is a named field of `UriCrate.Laws`. -/

set_option autoImplicit false

namespace Twelve

structure Scheme where
  asStr : Str
  deriving DecidableEq

def Scheme.http : Scheme := ⟨"http".toList⟩

def Scheme.https : Scheme := ⟨"https".toList⟩

structure Authority where
  asStr : Str
  deriving DecidableEq

/-- The functions of `http::uri` that the sources call. -/
structure UriCrate where
  Uri : Type
  InvalidUri : Type
  Error : Type
  uriFromStr : Str → Except InvalidUri Uri
  authorityFromStr : Str → Except InvalidUri Authority
  /-- `str::parse::<PathAndQuery>` followed by `is_ok`. -/
  parsesAsPathAndQuery : Str → Bool
  /-- `Uri::builder()`, with or without `scheme` and `authority`, then
  `path_and_query` of a string and `build`. -/
  build : Option (Scheme × Authority) → Str → Except Error Uri
  scheme : Uri → Option Scheme
  authority : Uri → Option Authority
  host : Uri → Option Str
  path : Uri → Str
  toString : Uri → Str

/-- The text up to the first query or fragment mark. -/
def pathPart (text : Str) : Str := text.takeWhile fun char => char != '?' && char != '#'

/-- The text between a query mark that ends the path and the fragment mark. -/
def queryPart (text : Str) : Str :=
  match text.dropWhile fun char => char != '?' && char != '#' with
  | '?' :: query => query.takeWhile (· != '#')
  | _ => []

def withoutFragment (text : Str) : Str := text.takeWhile (· != '#')

def endsAuthority (char : Char) : Bool := char == '/' || char == '?' || char == '#'

def authorityPart (rest : Str) : Str := rest.takeWhile (!endsAuthority ·)

def afterAuthority (rest : Str) : Str := rest.dropWhile (!endsAuthority ·)

/-- The authority after its last `@`: host and optional port. -/
def hostAndPort (authority : Str) : Str := authority.rtakeWhile (· != '@')

/-- The host of an authority: a bracketed address, or what precedes the port. -/
def hostPart (authority : Str) : Str :=
  match hostAndPort authority with
  | '[' :: address => '[' :: (address.takeWhile (· != ']') ++ [']'])
  | host => host.takeWhile (· != ':')

/-- `Uri::path` never returns an empty path for an absolute URI. -/
def pathOrSlash (text : Str) : Str := if pathPart text = [] then ['/'] else pathPart text

def originText : Option (Scheme × Authority) → Str
  | none => []
  | some (scheme, authority) => scheme.asStr ++ "://".toList ++ authority.asStr

structure UriGrammar where
  pathChar : Char → Bool
  queryChar : Char → Bool
  maxLen : Nat

def UriGrammar.PathAndQuery (grammar : UriGrammar) (text : Str) : Prop :=
  (∀ char ∈ pathPart text, grammar.pathChar char = true) ∧
    ∀ char ∈ queryPart text, grammar.queryChar char = true

/-- The schemes for which the crate has constants, in any letter case. -/
def SpellsHttp (scheme : Str) : Prop :=
  Str.toAsciiLowercase scheme = Scheme.http.asStr ∨
    Str.toAsciiLowercase scheme = Scheme.https.asStr

/-- What the results assume of the crate. A path beyond the length limit may be
accepted or rejected. -/
structure UriCrate.Laws (http : UriCrate) (grammar : UriGrammar) : Prop where
  slash_pathChar : grammar.pathChar '/' = true
  /-- An accepted path and query consists of allowed characters. -/
  pathAndQuery_sound : ∀ text, text.head? = some '/' →
    http.parsesAsPathAndQuery text = true → grammar.PathAndQuery text
  /-- Within the length limit allowed characters suffice. A fragment is dropped unread. -/
  pathAndQuery_complete : ∀ text, text.head? = some '/' → Str.byteLen text ≤ grammar.maxLen →
    grammar.PathAndQuery text → http.parsesAsPathAndQuery text = true
  /-- The builder fails only for the path and query it is given. -/
  build_isOk : ∀ origin text, text.head? = some '/' →
    (http.build origin text).isOk = http.parsesAsPathAndQuery text
  /-- A built URI is printed as its parts, the fragment having been dropped. -/
  build_toString : ∀ origin head tail uri, head ≠ '?' → head ≠ '#' →
    http.build origin (head :: tail) = .ok uri →
      http.toString uri = originText origin ++ withoutFragment (head :: tail)
  /-- `Uri` and `Authority` accept the same authorities after `http://` and `https://`. -/
  uriFromStr_isOk_iff : ∀ scheme rest, SpellsHttp scheme →
    ((http.uriFromStr (scheme ++ "://".toList ++ rest)).isOk = true ↔
      Str.byteLen (scheme ++ "://".toList ++ rest) ≤ grammar.maxLen ∧
      (http.authorityFromStr (authorityPart rest)).isOk = true ∧
      grammar.PathAndQuery (afterAuthority rest))
  uriFromStr_parts : ∀ scheme rest uri, SpellsHttp scheme →
    http.uriFromStr (scheme ++ "://".toList ++ rest) = .ok uri →
      http.scheme uri = some ⟨Str.toAsciiLowercase scheme⟩ ∧
      http.authority uri = some ⟨authorityPart rest⟩ ∧
      http.host uri = some (hostPart (authorityPart rest)) ∧
      http.path uri = pathOrSlash (afterAuthority rest)
  /-- Only a text that spells one of the two schemes has it. -/
  uriFromStr_scheme : ∀ value uri scheme, http.uriFromStr value = .ok uri →
    http.scheme uri = some scheme → scheme = Scheme.http ∨ scheme = Scheme.https →
      ∃ spelled rest, value = spelled ++ "://".toList ++ rest ∧
        Str.toAsciiLowercase spelled = scheme.asStr
  /-- An accepted authority keeps its text, which is one whole non-empty authority. -/
  authorityFromStr_ok : ∀ text authority, http.authorityFromStr text = .ok authority →
    authority.asStr = text ∧ text ≠ [] ∧ authorityPart text = text

end Twelve
