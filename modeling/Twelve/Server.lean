import Twelve.Listener
import Twelve.Shutdown

/-! `serve`, as what it does between the awaits at which anything else can happen. The
HTTP server of axum is not part of the repository: it is a parameter, that takes steps
of its own and is told when the shutdown future has completed. -/

set_option autoImplicit false

namespace Twelve.Server

open Shutdown (SignalDriver SignalKind World Event Waiter)

/-- `axum::serve(listener, application).with_graceful_shutdown(signal)`. -/
structure AxumServe {SocketAddr : Type} (net : Net SocketAddr) (Application : Type) where
  Future : Type
  Label : Type
  serve : Listener net → Application → Future
  step : net.State → Future → Label → Option (net.State × Future)
  shutdown : Future → Future
  /-- What the server resolves to, once it does. -/
  result : Future → Option (Except net.IoError Unit)

/-- What the results assume of the server: it resolves without an error only after it
has been told to stop, which it never does by itself. -/
structure AxumServe.Laws {SocketAddr : Type} {net : Net SocketAddr} {Application : Type}
    (axum : AxumServe net Application) (Stopping : axum.Future → Prop) : Prop where
  serve_running : ∀ listener application, ¬ Stopping (axum.serve listener application)
  step_running : ∀ state server label after next,
    axum.step state server label = some (after, next) → Stopping next → Stopping server
  shutdown_stopping : ∀ server, Stopping (axum.shutdown server)
  ok_stopping : ∀ server, axum.result server = some (.ok ()) → Stopping server

inductive ServeError {SocketAddr : Type} (net : Net SocketAddr) where
  | listener (error : Listener.Error net)
  | serve (source : net.IoError)

variable {SocketAddr : Type} {net : Net SocketAddr} {Application : Type} {driver : SignalDriver}

inductive Phase (axum : AxumServe net Application) where
  | started
  | bound (listener : Listener net)
  /-- The future of `shutdown::signal` is the waiter of this name. -/
  | serving (signal : Nat) (server : axum.Future)
  | returned (result : Except (ServeError net) Unit)

structure Process (driver : SignalDriver) (axum : AxumServe net Application) where
  network : net.State
  shutdown : World driver
  phase : Phase axum

/-- The steps of `serve`, and those of everything else in the process and outside it. -/
inductive Action (axum : AxumServe net Application) where
  | bind
  | listen (signal : Nat) (registers : SignalKind → Bool)
  | serve (label : axum.Label)
  | shutdown
  | finish
  | process (event : Event)
  | network (state : net.State)

namespace Process

variable {axum : AxumServe net Application}

def bind (address : ListenAddress SocketAddr OsString) (process : Process driver axum) :
    Option (Process driver axum) :=
  match process.phase with
  | .started =>
      match Listener.bind process.network address with
      | (network, .ok listener) => some { process with network, phase := .bound listener }
      | (network, .error error) =>
          some { process with network, phase := .returned (.error (.listener error)) }
  | _ => none

/-- The arguments are evaluated before the server is awaited: handlers are registered
once the socket is bound, and before the first connection is accepted. -/
def listen (application : Application) (signal : Nat) (registers : SignalKind → Bool)
    (process : Process driver axum) : Option (Process driver axum) :=
  match process.phase with
  | .bound listener =>
      (process.shutdown.step (.signal signal registers)).map fun shutdown =>
        { process with shutdown, phase := .serving signal (axum.serve listener application) }
  | _ => none

def serve (label : axum.Label) (process : Process driver axum) : Option (Process driver axum) :=
  match process.phase with
  | .serving signal server =>
      (axum.step process.network server label).map fun (network, server) =>
        { process with network, phase := .serving signal server }
  | _ => none

/-- Possible once the shutdown future has completed. -/
def tellShutdown (process : Process driver axum) : Option (Process driver axum) :=
  match process.phase with
  | .serving signal server =>
      match process.shutdown.waiters signal with
      | some (.signal none) => some { process with phase := .serving signal (axum.shutdown server) }
      | _ => none
  | _ => none

def finish (process : Process driver axum) : Option (Process driver axum) :=
  match process.phase with
  | .serving _ server =>
      (axum.result server).map fun result =>
        { process with phase := .returned (result.mapError .serve) }
  | _ => none

def step (address : ListenAddress SocketAddr OsString) (application : Application)
    (process : Process driver axum) : Action axum → Option (Process driver axum)
  | .bind => process.bind address
  | .listen signal registers => process.listen application signal registers
  | .serve label => process.serve label
  | .shutdown => process.tellShutdown
  | .finish => process.finish
  | .process event =>
      (process.shutdown.step event).map fun shutdown => { process with shutdown }
  | .network network => some { process with network }

def Steps (address : ListenAddress SocketAddr OsString) (application : Application)
    (process : Process driver axum) (action : Action axum) (after : Process driver axum) : Prop :=
  process.step address application action = some after

def initial (network : net.State) (signals : driver.State) : Process driver axum :=
  ⟨network, World.initial signals, .started⟩

end Process

end Twelve.Server
