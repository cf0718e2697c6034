import Twelve.Config
import Twelve.Http.Message

/-! URL generation from a public address or an internal prefix, and its
extraction from a request. `Except Panic` is the result of code that may panic:
a rejected extraction is an ordinary result inside it. -/

set_option autoImplicit false

namespace Twelve

variable {http : UriCrate}

inductive UrlSource (http : UriCrate) where
  | explicit (url : PublicUrl http)
  | automatic
  | internalOnly (scriptName : Str)

inductive ExternalUrlError (http : UriCrate) where
  | internalOnly
  | invalidUri (source : http.Error)

inductive Origin where
  | internalOnly
  | external (scheme : Scheme) (authority : Authority)
  deriving DecidableEq

structure Urls where
  scriptName : Str
  origin : Origin
  deriving DecidableEq

structure Redirect where
  status : StatusCode
  location : Str

def Redirect.to (uri : Str) : Redirect := ⟨StatusCode.seeOther, uri⟩

/-- `u8::is_ascii_whitespace` on the bytes of a text. -/
def isAsciiWhitespace (char : Char) : Bool :=
  [' ', '\t', '\n', '\x0C', '\r'].contains char

namespace Urls

/-- The assertion of `Urls::internal_only`. -/
def acceptsInternalOnly (http : UriCrate) (scriptName : Str) : Bool :=
  Str.startsWith scriptName "/".toList &&
  !Str.startsWith scriptName "//".toList &&
  !Str.containsAny scriptName ['?', '#', '\\'] &&
  !scriptName.any isAsciiWhitespace &&
  http.parsesAsPathAndQuery scriptName

def internalOnly (http : UriCrate) (scriptName : Str) : Except Panic Urls :=
  if acceptsInternalOnly http scriptName then .ok ⟨scriptName, .internalOnly⟩
  else .error ⟨"invalid internal URL prefix"⟩

def prefixedPath (urls : Urls) (path : Str) : Str :=
  Str.trimEndMatches urls.scriptName '/' ++ '/' :: Str.trimStartMatches path '/'

def internal (http : UriCrate) (urls : Urls) (path : Str) : Except Panic Str :=
  match http.build none (prefixedPath urls path) with
  | .ok uri => .ok (http.toString uri)
  | .error _ => .error ⟨"invalid internal URI"⟩

def external (http : UriCrate) (urls : Urls) (path : Str) :
    Except (ExternalUrlError http) Str :=
  match urls.origin with
  | .internalOnly => .error .internalOnly
  | .external scheme authority =>
      match http.build (some (scheme, authority)) (prefixedPath urls path) with
      | .ok uri => .ok (http.toString uri)
      | .error source => .error (.invalidUri source)

def publicHost (urls : Urls) : Option Str :=
  match urls.origin with
  | .internalOnly => none
  | .external _ authority =>
      some ((Str.rsplitOnce authority.asStr '@').elim authority.asStr (·.2))

def redirectTo (http : UriCrate) (urls : Urls) (path : Str) : Except Panic Redirect := do
  let location ← internal http urls path
  return Redirect.to location

def fromPublicUrl (url : PublicUrl http) : Except Panic Urls := do
  let scriptName := http.path url.asUri
  let scheme ← expect (http.scheme url.asUri) "PublicUrl has a scheme"
  let authority ← expect (http.authority url.asUri) "PublicUrl has an authority"
  return ⟨scriptName, .external scheme authority⟩

/-- `Option::ok_or`, and `Result::map_err` to a constant. -/
def okOr {α ε : Type} (value : Option α) (error : ε) : Except ε α :=
  match value with
  | some found => .ok found
  | none => .error error

/-- `value.map(read).transpose()?.unwrap_or(absent)`. -/
def readOr {α ε : Type} (value : Option HeaderValue) (absent : α)
    (read : HeaderValue → Except ε α) : Except ε α :=
  match value with
  | some found => read found
  | none => .ok absent

def automatic (http : UriCrate) (headers : HeaderMap) : Except StatusCode Urls := do
  let scriptName ← readOr (headers.get HeaderName.xScriptName) "/".toList fun value =>
    okOr value.toStr StatusCode.badGateway
  let scheme ← readOr (headers.get HeaderName.xForwardedProto) Scheme.http fun value => do
    let text ← okOr value.toStr StatusCode.badGateway
    if text = "http".toList then .ok Scheme.http
    else if text = "https".toList then .ok Scheme.https
    else .error StatusCode.badGateway
  let value ← okOr ((headers.get HeaderName.xForwardedHost).or (headers.get HeaderName.host))
    StatusCode.badRequest
  let authority ← okOr value.toStr StatusCode.badRequest
  if Str.containsAny authority ['@', ',', '\\'] then .error StatusCode.badRequest
  else match http.authorityFromStr authority with
    | .ok authority => .ok ⟨scriptName, .external scheme authority⟩
    | .error _ => .error StatusCode.badRequest

end Urls

/-- What extraction reads of a request: its headers and the registered source. -/
structure Parts (http : UriCrate) where
  headers : HeaderMap
  urlSource : Option (UrlSource http)

def Urls.fromRequestParts (parts : Parts http) : Except Panic (Except StatusCode Urls) :=
  match parts.urlSource with
  | none => .ok (.error StatusCode.internalServerError)
  | some (.explicit url) => (Urls.fromPublicUrl url).map .ok
  | some (.internalOnly scriptName) => (Urls.internalOnly http scriptName).map .ok
  | some .automatic => .ok (Urls.automatic http parts.headers)

def UrlSource.internal (scriptName : Str) : Except Panic (UrlSource http) := do
  let urls ← Urls.internalOnly http scriptName
  return .internalOnly urls.scriptName

variable {SocketAddr PathBuf EnvFilter : Type}

def Core.urls (core : Core http SocketAddr PathBuf EnvFilter) : Option (Except Panic Urls) :=
  core.publicUrl.map Urls.fromPublicUrl

def Core.urlSource (core : Core http SocketAddr PathBuf EnvFilter) : UrlSource http :=
  match core.publicUrl with
  | some url => .explicit url
  | none => .automatic

end Twelve
