import Twelve.Config.Addresses
import Twelve.Listener.Transparency

/-! What a bound listener prints. Its address is the one that the system reports for the
bound socket, and what it prints for that can be configured again to listen at the same
place. -/

set_option autoImplicit false

namespace Twelve.Listener

variable {net : Net SocketAddr}

def Address.display (lossy : OsString → Str) (debug : net.UnixAddr → Str) : Address net → Str
  | .tcp address => address.display
  | .unix address =>
      match net.asPathname address with
      | some path => path.display lossy
      | none => debug address

/-- The system reports for a Unix socket the path that it was bound to. -/
def ReportsPaths (net : Net SocketAddr) : Prop :=
  ∀ state path after socket endpoint, path.isAbsolute = true →
    net.unix.bind state path = (after, .ok socket) →
    net.unix.localAddr after socket = .ok endpoint → net.asPathname endpoint = some path

variable {state after : net.State} {listener : Listener net}
  {address : ListenAddress SocketAddr OsString} {value : Str}

/-- A listener prints a text that configures the address of its own socket, as the system
reports it once the socket is bound. For a Unix socket that is the configured text. -/
theorem prints_configuration (reports : ReportsPaths net) (lossy : OsString → Str)
    (debug : net.UnixAddr → Str) (configured : ListenAddress.fromStr value = .ok address)
    (bound : bind state address = (after, .ok listener)) :
    match address with
    | .tcp _ => ∃ socket endpoint, listener.inner = .tcp socket ∧
        net.tcp.localAddr after socket = .ok endpoint ∧
        ListenAddress.fromStr (listener.localAddress.display lossy debug) =
          .ok (.tcp endpoint.withoutFlowinfo)
    | .unix path => ∃ socket endpoint, listener.inner = .unix socket ∧
        net.unix.localAddr after socket = .ok endpoint ∧ net.asPathname endpoint = some path ∧
        listener.localAddress.display lossy debug = value ∧
        ListenAddress.fromStr (listener.localAddress.display lossy debug) = .ok (.unix path) := by
  cases address with
  | tcp address =>
      obtain ⟨socket, endpoint, -, reported, rfl⟩ := bindTcp_eq_ok bound
      exact ⟨socket, endpoint, rfl, reported, ListenAddress.fromStr_display_tcp endpoint⟩
  | unix path =>
      obtain ⟨socket, endpoint, opened, reported, rfl⟩ := bindUnix_eq_ok bound
      obtain ⟨rfl, absolute⟩ := ListenAddress.fromStr_eq_unix_iff.mp configured
      have named := reports _ _ _ _ _ absolute opened reported
      have printed : Address.display lossy debug (.unix endpoint) = value := by
        simp [Address.display, named]
      refine ⟨socket, endpoint, rfl, reported, named, printed, ?_⟩
      rw [printed]
      exact configured

def assignPort : SocketAddr → SocketAddr
  | .v4 address => .v4 { address with port := if address.port = 0 then 49152 else address.port }
  | .v6 address => .v6 { address with port := if address.port = 0 then 49152 else address.port }

def host : Net SocketAddr := hostNet SocketAddr.port assignPort (.v4 ⟨⟨127, 0, 0, 1⟩, 50000⟩)

theorem host_reportsPaths : ReportsPaths host := by
  intro state path after socket endpoint _ opened reported
  cases opened
  cases reported
  rfl

def socketText : Str := "/run/app.sock".toList

def boundTcp : SocketAddr := .v4 ⟨⟨127, 0, 0, 1⟩, 49152⟩

def tcpListener : Listener host := ⟨.tcp boundTcp, .tcp boundTcp⟩

def unixListener : Listener host :=
  ⟨.unix (OsString.ofStr socketText), .unix (some (OsString.ofStr socketText))⟩

/-- Port zero is printed as the port that was assigned. -/
theorem prints_configuration_host :
    ListenAddress.fromStr (tcpListener.localAddress.display (fun _ => []) fun _ => []) =
        .ok (.tcp boundTcp) ∧
      unixListener.localAddress.display (fun _ => []) (fun _ => []) = socketText := by
  constructor
  · have configured : ListenAddress.fromStr "127.0.0.1:0".toList =
        .ok (.tcp (.v4 ⟨⟨127, 0, 0, 1⟩, 0⟩)) := by rfl
    have bound : bind ([] : List SocketAddr) (.tcp (.v4 ⟨⟨127, 0, 0, 1⟩, 0⟩)) =
        (([boundTcp], .ok tcpListener) : host.State × Except (Error host) (Listener host)) := by
      rfl
    obtain ⟨socket, endpoint, inner, reported, parsed⟩ :=
      prints_configuration host_reportsPaths (fun _ => []) (fun _ => []) configured bound
    cases inner
    cases reported
    exact parsed
  · have configured : ListenAddress.fromStr socketText =
        .ok (.unix (OsString.ofStr socketText)) := by rfl
    have bound : bind ([] : List SocketAddr) (.unix (OsString.ofStr socketText)) =
        (([], .ok unixListener) : host.State × Except (Error host) (Listener host)) := by rfl
    obtain ⟨_, _, -, -, -, printed, -⟩ :=
      prints_configuration host_reportsPaths (fun _ => []) (fun _ => []) configured bound
    exact printed

end Twelve.Listener
