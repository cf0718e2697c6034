import Twelve.Config
import Twelve.Library.Acceptor
import Twelve.Os

/-! One listener type over TCP and Unix-domain sockets. The sockets belong to the
runtime and the operating system: they are the fields of `Net`, a transport each,
and the methods that a stream has are the calls a transport answers. -/

set_option autoImplicit false

namespace Twelve

/-- The bytes read so far, and the room that is left for more. -/
structure ReadBuf where
  filled : List UInt8
  remaining : Nat

/-- The methods of `AsyncRead` and `AsyncWrite`. -/
inductive StreamCall where
  | pollRead (buffer : ReadBuf)
  | pollWrite (buffer : List UInt8)
  | pollFlush
  | pollShutdown
  | isWriteVectored
  | pollWriteVectored (buffers : List (List UInt8))

/-- What a method returns. A poll that is pending returns none. -/
def StreamCall.Reply (IoError : Type) : StreamCall → Type
  | .pollRead _ => ReadBuf × Option (Except IoError Unit)
  | .pollWrite _ | .pollWriteVectored _ => Option (Except IoError Nat)
  | .pollFlush | .pollShutdown => Option (Except IoError Unit)
  | .isWriteVectored => Bool

/-- A kind of sockets. Its state is that of the whole network. -/
structure Transport (State IoError Address Endpoint : Type) where
  Socket : Type
  Stream : Type
  bind : State → Address → State × Except IoError Socket
  localAddr : State → Socket → Except IoError Endpoint
  /-- A poll of axum's `Listener::accept`, which does not return errors. -/
  accept : Socket → State → State × Option (Stream × Endpoint)
  call : (call : StreamCall) → State → Stream → State × call.Reply IoError

def Transport.acceptor {State IoError Address Endpoint : Type}
    (transport : Transport State IoError Address Endpoint) (socket : transport.Socket) :
    Acceptor State transport.Stream Endpoint StreamCall (StreamCall.Reply IoError) :=
  ⟨transport.accept socket, transport.call⟩

structure Net (SocketAddr : Type) where
  State : Type
  IoError : Type
  UnixAddr : Type
  port : SocketAddr → UInt16
  asPathname : UnixAddr → Option OsString
  tcp : Transport State IoError SocketAddr SocketAddr
  unix : Transport State IoError OsString UnixAddr

namespace Listener

variable {SocketAddr : Type} (net : Net SocketAddr)

inductive Inner where
  | tcp (listener : net.tcp.Socket)
  | unix (listener : net.unix.Socket)

inductive Address where
  | tcp (address : SocketAddr)
  | unix (address : net.UnixAddr)

inductive Connection where
  | tcp (connection : net.tcp.Stream)
  | unix (connection : net.unix.Stream)

inductive Error where
  | bindTcp (address : SocketAddr) (source : net.IoError)
  | bindUnix (path : OsString) (source : net.IoError)
  | readTcpAddress (source : net.IoError)
  | readUnixAddress (source : net.IoError)

end Listener

structure Listener {SocketAddr : Type} (net : Net SocketAddr) where
  inner : Listener.Inner net
  localAddress : Listener.Address net

namespace Listener

variable {SocketAddr : Type} {net : Net SocketAddr}

def Address.port : Address net → Option UInt16
  | .tcp address => some (net.port address)
  | .unix _ => none

def Address.asPathname : Address net → Option OsString
  | .tcp _ => none
  | .unix address => net.asPathname address

def port (listener : Listener net) : Option UInt16 := listener.localAddress.port

def bindTcp (state : net.State) (address : SocketAddr) :
    net.State × Except (Error net) (Listener net) :=
  match net.tcp.bind state address with
  | (state, .error source) => (state, .error (.bindTcp address source))
  | (state, .ok listener) =>
      match net.tcp.localAddr state listener with
      | .error source => (state, .error (.readTcpAddress source))
      | .ok localAddress => (state, .ok ⟨.tcp listener, .tcp localAddress⟩)

def bindUnix (state : net.State) (path : OsString) :
    net.State × Except (Error net) (Listener net) :=
  match net.unix.bind state path with
  | (state, .error source) => (state, .error (.bindUnix path source))
  | (state, .ok listener) =>
      match net.unix.localAddr state listener with
      | .error source => (state, .error (.readUnixAddress source))
      | .ok localAddress => (state, .ok ⟨.unix listener, .unix localAddress⟩)

def bind (state : net.State) :
    ListenAddress SocketAddr OsString → net.State × Except (Error net) (Listener net)
  | .tcp address => bindTcp state address
  | .unix path => bindUnix state path

def accept (listener : Listener net) (state : net.State) :
    net.State × Option (Connection net × Address net) :=
  match listener.inner with
  | .tcp listener =>
      let polled := net.tcp.accept listener state
      (polled.1, polled.2.map fun (connection, address) => (.tcp connection, .tcp address))
  | .unix listener =>
      let polled := net.unix.accept listener state
      (polled.1, polled.2.map fun (connection, address) => (.unix connection, .unix address))

/-- `local_addr`, which cannot fail: the address was read when the socket was bound. -/
def localAddr (listener : Listener net) : Except net.IoError (Address net) :=
  .ok listener.localAddress

namespace Connection

/-- The shape of every method: the call goes to the stream inside. -/
def call (call : StreamCall) (state : net.State) :
    Connection net → net.State × call.Reply net.IoError
  | .tcp connection => net.tcp.call call state connection
  | .unix connection => net.unix.call call state connection

def pollRead (connection : Connection net) (buffer : ReadBuf) (state : net.State) :
    net.State × (ReadBuf × Option (Except net.IoError Unit)) :=
  call (.pollRead buffer) state connection

def pollWrite (connection : Connection net) (buffer : List UInt8) (state : net.State) :
    net.State × Option (Except net.IoError Nat) :=
  call (.pollWrite buffer) state connection

def pollFlush (connection : Connection net) (state : net.State) :
    net.State × Option (Except net.IoError Unit) :=
  call .pollFlush state connection

def pollShutdown (connection : Connection net) (state : net.State) :
    net.State × Option (Except net.IoError Unit) :=
  call .pollShutdown state connection

def isWriteVectored (connection : Connection net) (state : net.State) : net.State × Bool :=
  call .isWriteVectored state connection

def pollWriteVectored (connection : Connection net) (buffers : List (List UInt8))
    (state : net.State) : net.State × Option (Except net.IoError Nat) :=
  call (.pollWriteVectored buffers) state connection

/-- The methods together, as the calls that a server makes. -/
def answer (state : net.State) (connection : Connection net) :
    (request : StreamCall) → net.State × request.Reply net.IoError
  | .pollRead buffer => connection.pollRead buffer state
  | .pollWrite buffer => connection.pollWrite buffer state
  | .pollFlush => connection.pollFlush state
  | .pollShutdown => connection.pollShutdown state
  | .isWriteVectored => connection.isWriteVectored state
  | .pollWriteVectored buffers => connection.pollWriteVectored buffers state

theorem answer_eq_call (state : net.State) (connection : Connection net) (request : StreamCall) :
    connection.answer state request = call request state connection := by
  cases request <;> rfl

end Connection

/-- What a server sees of a listener: connections and their methods. -/
def acceptor (listener : Listener net) :
    Acceptor net.State (Connection net) (Address net) StreamCall (StreamCall.Reply net.IoError) :=
  ⟨listener.accept, fun request state connection => connection.answer state request⟩

end Listener

end Twelve
