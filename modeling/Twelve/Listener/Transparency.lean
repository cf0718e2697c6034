import Twelve.Listener

/-! A bound listener is one socket. Over every run of a server, whatever else happens
to the network, what it sees of the listener is what it would see of that socket
alone, and nothing is asked of the other transport. -/

set_option autoImplicit false

namespace Twelve.Listener

variable {SocketAddr : Type} {net : Net SocketAddr} {Configured Endpoint : Type}
  {state after : net.State} {listener : Listener net}

/-- The listener has the address that its socket had when bound, and exactly the
runs of that socket. -/
def Exposes (transport : Transport net.State net.IoError Configured Endpoint)
    (asConnection : transport.Stream → Connection net) (asAddress : Endpoint → Address net)
    (state after : net.State) (configured : Configured) (listener : Listener net) : Prop :=
  ∃ socket endpoint, transport.bind state configured = (after, .ok socket) ∧
    transport.localAddr after socket = .ok endpoint ∧
    listener.localAddress = asAddress endpoint ∧
    ∀ start labels last, Run (Acceptor.Step listener.acceptor) (start, []) labels last ↔
      ∃ own middle, labels = own.map (Acceptor.Label.wrap asAddress) ∧
        last = Acceptor.wrapState asConnection middle ∧
        Run (Acceptor.Step (transport.acceptor socket)) (start, []) own middle

private theorem wraps_tcp (socket : net.tcp.Socket) (localAddress : Address net) :
    Acceptor.Wraps (net.tcp.acceptor socket) (acceptor ⟨.tcp socket, localAddress⟩)
      Connection.tcp Address.tcp := by
  constructor
  · intro state
    rfl
  · intro request state stream
    exact Connection.answer_eq_call state (.tcp stream) request

private theorem wraps_unix (socket : net.unix.Socket) (localAddress : Address net) :
    Acceptor.Wraps (net.unix.acceptor socket) (acceptor ⟨.unix socket, localAddress⟩)
      Connection.unix Address.unix := by
  constructor
  · intro state
    rfl
  · intro request state stream
    exact Connection.answer_eq_call state (.unix stream) request

theorem bindTcp_eq_ok {address : SocketAddr}
    (bound : bindTcp state address = (after, .ok listener)) :
    ∃ socket endpoint, net.tcp.bind state address = (after, .ok socket) ∧
      net.tcp.localAddr after socket = .ok endpoint ∧ listener = ⟨.tcp socket, .tcp endpoint⟩ := by
  unfold bindTcp at bound
  split at bound
  · cases bound
  · next socket opened =>
      split at bound
      · cases bound
      · next endpoint read =>
          cases bound
          exact ⟨socket, endpoint, opened, read, rfl⟩

theorem bindUnix_eq_ok {path : OsString}
    (bound : bindUnix state path = (after, .ok listener)) :
    ∃ socket endpoint, net.unix.bind state path = (after, .ok socket) ∧
      net.unix.localAddr after socket = .ok endpoint ∧
      listener = ⟨.unix socket, .unix endpoint⟩ := by
  unfold bindUnix at bound
  split at bound
  · cases bound
  · next socket opened =>
      split at bound
      · cases bound
      · next endpoint read =>
          cases bound
          exact ⟨socket, endpoint, opened, read, rfl⟩

private theorem bindTcp_exposes {address : SocketAddr}
    (bound : bindTcp state address = (after, .ok listener)) :
    Exposes net.tcp .tcp .tcp state after address listener := by
  obtain ⟨socket, endpoint, opened, read, rfl⟩ := bindTcp_eq_ok bound
  exact ⟨socket, endpoint, opened, read, rfl,
    fun _ _ _ => Acceptor.run_wrap_iff (wraps_tcp socket _)⟩

private theorem bindUnix_exposes {path : OsString}
    (bound : bindUnix state path = (after, .ok listener)) :
    Exposes net.unix .unix .unix state after path listener := by
  obtain ⟨socket, endpoint, opened, read, rfl⟩ := bindUnix_eq_ok bound
  exact ⟨socket, endpoint, opened, read, rfl,
    fun _ _ _ => Acceptor.run_wrap_iff (wraps_unix socket _)⟩

/-- The configured address selects the one transport that a listener exposes. -/
theorem bind_exposes {address : ListenAddress SocketAddr OsString}
    (bound : bind state address = (after, .ok listener)) :
    match address with
    | .tcp address => Exposes net.tcp .tcp .tcp state after address listener
    | .unix path => Exposes net.unix .unix .unix state after path listener := by
  cases address with
  | tcp address => exact bindTcp_exposes bound
  | unix path => exact bindUnix_exposes bound

def replyAtOnce (request : StreamCall) : request.Reply Unit :=
  match request with
  | .pollRead buffer => (buffer, none)
  | .pollWrite buffer => some (.ok buffer.length)
  | .pollFlush | .pollShutdown => some (.ok ())
  | .isWriteVectored => false
  | .pollWriteVectored buffers => some (.ok buffers.flatten.length)

/-- The sockets of one host, where an address asks for the one that is assigned to it. -/
def hostNet {SocketAddr : Type} [DecidableEq SocketAddr] (port : SocketAddr → UInt16)
    (assign : SocketAddr → SocketAddr) (peer : SocketAddr) : Net SocketAddr where
  State := List SocketAddr
  IoError := Unit
  UnixAddr := Option OsString
  port := port
  asPathname := id
  tcp := {
    Socket := SocketAddr
    Stream := SocketAddr
    bind bound address :=
      let address := assign address
      if address ∈ bound then (bound, .error ()) else (address :: bound, .ok address)
    localAddr _ address := .ok address
    accept address bound := (bound, some (address, peer))
    call request bound _ := (bound, replyAtOnce request) }
  unix := {
    Socket := OsString
    Stream := OsString
    bind bound path := (bound, .ok path)
    localAddr _ path := .ok (some path)
    accept path bound := (bound, some (path, none))
    call request bound _ := (bound, replyAtOnce request) }

/-- Ports of one address, of which zero asks for a free one. -/
def loopback : Net UInt16 := hostNet id (fun port => if port = 0 then 49152 else port) 50000

theorem bind_exposes_loopback :
    Exposes loopback.tcp .tcp .tcp ([] : List UInt16) ([49152] : List UInt16) (0 : UInt16)
      ⟨.tcp (49152 : UInt16), .tcp (49152 : UInt16)⟩ := by
  have bound : bind ([] : List UInt16) (.tcp (0 : UInt16)) =
      (([49152], .ok ⟨.tcp (49152 : UInt16), .tcp (49152 : UInt16)⟩) :
        loopback.State × Except (Error loopback) (Listener loopback)) := by rfl
  exact bind_exposes bound

end Twelve.Listener
