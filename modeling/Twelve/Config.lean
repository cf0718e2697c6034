import Twelve.Http.Uri

/-! The configuration types that carry the public address. A `PublicUrl` can
only be built by its parser, so it holds the outcome of the parser's checks. -/

set_option autoImplicit false

namespace Twelve

variable {http : UriCrate}

/-- The scheme and host checks of `PublicUrl::from_str`. -/
def hasHttpOrigin (http : UriCrate) (uri : http.Uri) : Bool :=
  ((http.scheme uri).map (·.asStr) == some "http".toList ||
    (http.scheme uri).map (·.asStr) == some "https".toList) &&
  !(http.host uri).all (·.isEmpty)

structure PublicUrl (http : UriCrate) where
  asUri : http.Uri
  httpOrigin : hasHttpOrigin http asUri = true

inductive ParsePublicUrlError (http : UriCrate) where
  | invalid (source : http.InvalidUri)
  | origin
  | queryOrFragment

def PublicUrl.fromStr (value : Str) : Except (ParsePublicUrlError http) (PublicUrl http) :=
  if Str.containsAny value ['?', '#'] then .error .queryOrFragment
  else match http.uriFromStr value with
    | .error source => .error (.invalid source)
    | .ok uri =>
        if httpOrigin : hasHttpOrigin http uri = true then .ok ⟨uri, httpOrigin⟩
        else .error .origin

inductive ListenAddress (SocketAddr PathBuf : Type) where
  | tcp (address : SocketAddr)
  | unix (path : PathBuf)

structure LogFilter (EnvFilter : Type) where
  filter : EnvFilter

structure Core (http : UriCrate) (SocketAddr PathBuf EnvFilter : Type) where
  listenAddress : ListenAddress SocketAddr PathBuf
  publicUrl : Option (PublicUrl http)
  logFilter : LogFilter EnvFilter

end Twelve
