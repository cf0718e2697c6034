import Mathlib.Logic.Function.Basic
import Mathlib.Order.SetNotation

/-! Shutdown waiters and the events they live through. The signal support of the
runtime is not part of the repository: its functions are the fields of
`SignalDriver`, and everything the results assume of them is a named field of
`SignalDriver.Laws`. -/

set_option autoImplicit false

namespace Twelve.Shutdown

inductive SignalKind where
  | terminate | interrupt
  deriving DecidableEq

/-- `tokio::signal::unix`. The state belongs to the process, and consuming a
notification may change it. -/
structure SignalDriver where
  State : Type
  Signal : Type
  signal : State → SignalKind → State × Signal
  /-- The runtime broadcasts a signal to its listeners. That is later than the arrival of
  the signal at the process, and signals that arrive in between come as one. -/
  deliver : State → SignalKind → State
  /-- A poll of `Signal::recv()`: the state after a notification is consumed, or none. -/
  recv : State → Signal → Option State

/-- What the results assume of the driver: a listener is notified of every signal
of its kind from its creation on, and no other listener takes that away. -/
structure SignalDriver.Laws (driver : SignalDriver)
    (Listens : driver.State → driver.Signal → SignalKind → Prop) : Prop where
  signal_new : ∀ state kind other, ¬ Listens state (driver.signal state kind).2 other
  signal_listens : ∀ state kind,
    Listens (driver.signal state kind).1 (driver.signal state kind).2 kind
  signal_pending : ∀ state kind,
    driver.recv (driver.signal state kind).1 (driver.signal state kind).2 = none
  /-- Registration leaves the other listeners alone. -/
  signal_others : ∀ state kind listener other, Listens state listener other →
    Listens (driver.signal state kind).1 listener other ∧
      (driver.recv (driver.signal state kind).1 listener).isSome =
        (driver.recv state listener).isSome
  /-- A signal notifies the listeners of its kind, and only those. -/
  deliver_listeners : ∀ state kind listener other, Listens state listener other →
    Listens (driver.deliver state kind) listener other ∧
      ((driver.recv (driver.deliver state kind) listener).isSome = true ↔
        other = kind ∨ (driver.recv state listener).isSome = true)
  /-- Consuming a notification leaves the other listeners alone. -/
  recv_others : ∀ state after consumer listener other, driver.recv state consumer = some after →
    Listens state listener other → listener ≠ consumer →
      Listens after listener other ∧
        (driver.recv after listener).isSome = (driver.recv state listener).isSome

inductive Branch where
  | first | second
  deriving DecidableEq

/-- `tokio::select!` of two branches: the first one found ready decides. -/
def select {α : Type} (start : Branch) (first second : Option α) : Option α :=
  match start with
  | .first => first.or second
  | .second => second.or first

variable {driver : SignalDriver}

structure SignalFuture (driver : SignalDriver) where
  terminate : Option driver.Signal
  interrupt : Option driver.Signal

def SignalFuture.listener (future : SignalFuture driver) : SignalKind → Option driver.Signal
  | .terminate => future.terminate
  | .interrupt => future.interrupt

/-- `register_signal`, where the environment decides whether registration succeeds. -/
def registerSignal (state : driver.State) (kind : SignalKind) (succeeds : Bool) :
    driver.State × Option driver.Signal :=
  if succeeds then ((driver.signal state kind).1, some (driver.signal state kind).2)
  else (state, none)

/-- `receive_signal`, polled: without a listener it is pending forever. -/
def receiveSignal (state : driver.State) (signal : Option driver.Signal) : Option driver.State :=
  signal.bind (driver.recv state)

/-- `signal`: both kinds are registered before the future is first polled. -/
def signal (state : driver.State) (registers : SignalKind → Bool) :
    driver.State × SignalFuture driver :=
  let terminate := registerSignal state .terminate (registers .terminate)
  let interrupt := registerSignal terminate.1 .interrupt (registers .interrupt)
  (interrupt.1, ⟨terminate.2, interrupt.2⟩)

def SignalFuture.poll (future : SignalFuture driver) (start : Branch) (state : driver.State) :
    Option driver.State :=
  select start (receiveSignal state future.terminate) (receiveSignal state future.interrupt)

/-- A poll of the watcher of `token`: the driver state and the token after it exits. -/
def watch (future : SignalFuture driver) (outer inner : Branch) (state : driver.State)
    (cancelled : Bool) : Option (driver.State × Bool) :=
  select outer ((future.poll inner state).map (·, true))
    (if cancelled then some (state, cancelled) else none)

/-- A completed future and an exited watcher are dropped with their listeners. -/
inductive Waiter (driver : SignalDriver) where
  | signal (future : Option (SignalFuture driver))
  | token (cancelled : Bool) (watcher : Option (SignalFuture driver))

def Waiter.future : Waiter driver → Option (SignalFuture driver)
  | .signal future => future
  | .token _ watcher => watcher

structure World (driver : SignalDriver) where
  signals : driver.State
  waiters : Nat → Option (Waiter driver)

/-- Names of waiters are chosen at their creation, and so is whether each
registration succeeds. A poll carries the branches that are tried first. -/
inductive Event where
  | signal (id : Nat) (registers : SignalKind → Bool)
  | token (id : Nat) (registers : SignalKind → Bool)
  | deliver (kind : SignalKind)
  | poll (id : Nat) (outer inner : Branch)
  | cancel (id : Nat)

namespace World

def set (world : World driver) (id : Nat) (state : driver.State) (waiter : Waiter driver) :
    World driver :=
  ⟨state, Function.update world.waiters id (some waiter)⟩

def create (world : World driver) (id : Nat) (registers : SignalKind → Bool)
    (waiter : Option (SignalFuture driver) → Waiter driver) : Option (World driver) :=
  match world.waiters id with
  | some _ => none
  | none =>
      let created := Shutdown.signal world.signals registers
      some (world.set id created.1 (waiter (some created.2)))

/-- A completed future is not polled again. -/
def poll (world : World driver) (id : Nat) (outer inner : Branch) : Option (World driver) :=
  match world.waiters id with
  | some (.signal (some future)) =>
      match future.poll inner world.signals with
      | some state => some (world.set id state (.signal none))
      | none => some world
  | some (.token cancelled (some future)) =>
      match watch future outer inner world.signals cancelled with
      | some (state, cancelled) => some (world.set id state (.token cancelled none))
      | none => some world
  | _ => none

def cancel (world : World driver) (id : Nat) : Option (World driver) :=
  match world.waiters id with
  | some (.token _ watcher) => some (world.set id world.signals (.token true watcher))
  | _ => none

def step (world : World driver) : Event → Option (World driver)
  | .signal id registers => world.create id registers .signal
  | .token id registers => world.create id registers (.token false)
  | .deliver kind => some { world with signals := driver.deliver world.signals kind }
  | .poll id outer inner => world.poll id outer inner
  | .cancel id => world.cancel id

def Steps (world : World driver) (event : Event) (after : World driver) : Prop :=
  world.step event = some after

def initial (state : driver.State) : World driver := ⟨state, fun _ => none⟩

end World

end Twelve.Shutdown
