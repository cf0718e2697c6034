import Twelve.Shutdown
import Twelve.Library.Runs

/-! What every run of waiters keeps: a waiter ends only for a cause of its own,
and once there is a cause the next poll ends it. The history of events says what
a waiter has been told, and the listeners of the waiter say the same. -/

set_option autoImplicit false

namespace Twelve.Shutdown

variable {driver : SignalDriver} {events : List Event} {event : Event} {id : Nat}
  {kind : SignalKind}

def Event.creates : Event → Option (Nat × (SignalKind → Bool))
  | .signal id registers | .token id registers => some (id, registers)
  | _ => none

def Registered (events : List Event) (id : Nat) (kind : SignalKind) : Prop :=
  ∃ event ∈ events, ∃ registers, event.creates = some (id, registers) ∧ registers kind = true

/-- A signal of a kind that the waiter registered came after its creation. -/
def Notified (events : List Event) (id : Nat) (kind : SignalKind) : Prop :=
  ∃ before event after registers, events = before ++ event :: after ∧
    event.creates = some (id, registers) ∧ registers kind = true ∧ .deliver kind ∈ after

/-- Cancelled manually, which only a token can be. -/
def Cancelled (events : List Event) (id : Nat) : Waiter driver → Prop
  | .signal _ => False
  | .token _ _ => .cancel id ∈ events

def Cause (events : List Event) (id : Nat) (waiter : Waiter driver) : Prop :=
  (∃ kind, Notified events id kind) ∨ Cancelled events id waiter

def Waiter.Ended : Waiter driver → Prop
  | .signal future => future = none
  | .token cancelled _ => cancelled = true

def Waiter.ended : Waiter driver → Waiter driver
  | .signal _ => .signal none
  | .token _ _ => .token true none

section History

theorem registered_append :
    Registered (events ++ [event]) id kind ↔ Registered events id kind ∨
      ∃ registers, event.creates = some (id, registers) ∧ registers kind = true := by
  simp only [Registered, List.mem_append, List.mem_singleton, or_and_right, exists_or,
    exists_eq_left]

theorem notified_append :
    Notified (events ++ [event]) id kind ↔
      Notified events id kind ∨ event = .deliver kind ∧ Registered events id kind := by
  constructor
  · intro notified
    obtain ⟨before, creation, after, registers, same, created, registered, delivered⟩ := notified
    rcases List.eq_nil_or_concat after with rfl | ⟨initial, last, rfl⟩
    · cases delivered
    · rw [List.concat_eq_append, ← List.cons_append, ← List.append_assoc] at same
      obtain ⟨whole, lasts⟩ := List.append_inj' same rfl
      cases lasts
      rw [List.concat_eq_append, List.mem_append, List.mem_singleton] at delivered
      rcases delivered with earlier | now
      · exact .inl ⟨before, creation, initial, registers, whole, created, registered, earlier⟩
      · refine .inr ⟨now.symm, creation, ?_, registers, created, registered⟩
        rw [whole]
        simp
  · intro notified
    rcases notified with
      ⟨before, creation, after, registers, rfl, created, registered, delivered⟩ |
      ⟨rfl, creation, member, registers, created, registered⟩
    · exact ⟨before, creation, after ++ [event], registers, by simp, created, registered,
        List.mem_append_left _ delivered⟩
    · obtain ⟨before, after, rfl⟩ := List.append_of_mem member
      exact ⟨before, creation, after ++ [.deliver kind], registers, by simp, created, registered,
        by simp⟩

theorem Notified.registered (notified : Notified events id kind) : Registered events id kind := by
  obtain ⟨before, creation, after, registers, rfl, created, registered, -⟩ := notified
  exact ⟨creation, by simp, registers, created, registered⟩

theorem Cause.append {waiter : Waiter driver} (cause : Cause events id waiter) (event : Event) :
    Cause (events ++ [event]) id waiter := by
  rcases cause with ⟨kind, notified⟩ | cancelled
  · exact .inl ⟨kind, notified_append.mpr (.inl notified)⟩
  · cases waiter with
    | signal future => exact cancelled.elim
    | token flag watcher => exact .inr (List.mem_append_left _ cancelled)

structure SameSignals (events later : List Event) (id : Nat) : Prop where
  registered : ∀ kind, Registered later id kind ↔ Registered events id kind
  notified : ∀ kind, Notified later id kind ↔ Notified events id kind

structure SamePast (events later : List Event) (id : Nat) : Prop
    extends SameSignals events later id where
  cancelled : .cancel id ∈ later ↔ .cancel id ∈ events

theorem sameSignals_append (notDelivery : ∀ kind, event ≠ .deliver kind)
    (notCreation : ∀ registers, event.creates ≠ some (id, registers)) :
    SameSignals events (events ++ [event]) id := by
  constructor
  · intro kind
    rw [registered_append]
    constructor
    · intro registered
      rcases registered with earlier | ⟨registers, created, -⟩
      · exact earlier
      · exact absurd created (notCreation registers)
    · exact .inl
  · intro kind
    rw [notified_append]
    constructor
    · intro notified
      rcases notified with earlier | ⟨delivered, -⟩
      · exact earlier
      · exact absurd delivered (notDelivery kind)
    · exact .inl

theorem samePast_append (notDelivery : ∀ kind, event ≠ .deliver kind)
    (notCreation : ∀ registers, event.creates ≠ some (id, registers))
    (notCancel : event ≠ .cancel id) : SamePast events (events ++ [event]) id :=
  ⟨sameSignals_append notDelivery notCreation, by simp [notCancel.symm]⟩

end History

section Polls

private theorem select_eq_some {α : Type} {start : Branch} {first second : Option α} {value : α}
    (selected : select start first second = some value) :
    first = some value ∨ second = some value := by
  cases start with
  | first =>
      rcases Option.or_eq_some_iff.mp selected with found | ⟨-, found⟩
      · exact .inl found
      · exact .inr found
  | second =>
      rcases Option.or_eq_some_iff.mp selected with found | ⟨-, found⟩
      · exact .inr found
      · exact .inl found

private theorem select_isSome {α : Type} {start : Branch} {first second : Option α} :
    (select start first second).isSome = true ↔ first.isSome = true ∨ second.isSome = true := by
  cases start with
  | first => simp [select]
  | second => simp [select, or_comm]

theorem poll_eq_some {future : SignalFuture driver} {start : Branch}
    {state after : driver.State} (polled : future.poll start state = some after) :
    ∃ kind listener, future.listener kind = some listener ∧
      driver.recv state listener = some after := by
  rcases select_eq_some polled with received | received
  · obtain ⟨listener, found, consumed⟩ := Option.bind_eq_some_iff.mp received
    exact ⟨.terminate, listener, found, consumed⟩
  · obtain ⟨listener, found, consumed⟩ := Option.bind_eq_some_iff.mp received
    exact ⟨.interrupt, listener, found, consumed⟩

theorem poll_isSome {future : SignalFuture driver} {state : driver.State}
    {listener : driver.Signal} (found : future.listener kind = some listener)
    (notified : (driver.recv state listener).isSome = true) (start : Branch) :
    (future.poll start state).isSome = true := by
  rw [SignalFuture.poll, select_isSome]
  cases kind with
  | terminate =>
      change future.terminate = some listener at found
      exact .inl (by rw [receiveSignal, found]; exact notified)
  | interrupt =>
      change future.interrupt = some listener at found
      exact .inr (by rw [receiveSignal, found]; exact notified)

/-- An exiting watcher leaves the token cancelled, for a signal or because it was. -/
theorem watch_eq_some {future : SignalFuture driver} {outer inner : Branch}
    {state after : driver.State} {cancelled left : Bool}
    (exited : watch future outer inner state cancelled = some (after, left)) :
    left = true ∧ (future.poll inner state = some after ∨ cancelled = true ∧ after = state) := by
  rcases select_eq_some exited with signalled | seen
  · obtain ⟨polled, completed, same⟩ := Option.map_eq_some_iff.mp signalled
    cases same
    exact ⟨rfl, .inl completed⟩
  · split at seen
    · next already =>
        cases seen
        exact ⟨already, .inr ⟨already, rfl⟩⟩
    · cases seen

theorem watch_isSome {future : SignalFuture driver} {outer inner : Branch}
    {state : driver.State} {cancelled : Bool}
    (ready : (future.poll inner state).isSome = true ∨ cancelled = true) :
    (watch future outer inner state cancelled).isSome = true := by
  rw [watch, select_isSome]
  rcases ready with completed | already
  · exact .inl (by rw [Option.isSome_map]; exact completed)
  · exact .inr (by rw [if_pos already]; rfl)

end Polls

def Keeps (Listens : driver.State → driver.Signal → SignalKind → Prop)
    (state after : driver.State) (listener : driver.Signal) : Prop :=
  ∀ kind, Listens state listener kind → Listens after listener kind ∧
    (driver.recv after listener).isSome = (driver.recv state listener).isSome

/-- An unfinished future listens as it was created, and its listeners have been
told what the history says. -/
structure Watches (Listens : driver.State → driver.Signal → SignalKind → Prop)
    (events : List Event) (state : driver.State) (id : Nat) (future : SignalFuture driver) :
    Prop where
  registered : ∀ kind, (future.listener kind).isSome = true ↔ Registered events id kind
  listens : ∀ kind listener, future.listener kind = some listener → Listens state listener kind
  notified : ∀ kind listener, future.listener kind = some listener →
    ((driver.recv state listener).isSome = true ↔ Notified events id kind)

structure Sound (Listens : driver.State → driver.Signal → SignalKind → Prop)
    (events : List Event) (state : driver.State) (id : Nat) (waiter : Waiter driver) :
    Prop where
  cause : waiter.Ended → Cause events id waiter
  finished : waiter.future = none → waiter.Ended
  cancelled : Cancelled events id waiter → waiter.Ended
  watches : ∀ future, waiter.future = some future → Watches Listens events state id future

section Driver

variable {Listens : driver.State → driver.Signal → SignalKind → Prop}
  {state after : driver.State} {waiter : Waiter driver}

theorem Keeps.refl (state : driver.State) (listener : driver.Signal) :
    Keeps Listens state state listener :=
  fun _ listens => ⟨listens, rfl⟩

theorem Keeps.trans {middle : driver.State} {listener : driver.Signal}
    (first : Keeps Listens state middle listener) (second : Keeps Listens middle after listener) :
    Keeps Listens state after listener := by
  intro kind listens
  obtain ⟨kept, same⟩ := first kind listens
  obtain ⟨alsoKept, alsoSame⟩ := second kind kept
  exact ⟨alsoKept, alsoSame.trans same⟩

theorem Watches.transfer {later : List Event} {future : SignalFuture driver}
    (watches : Watches Listens events state id future) (past : SameSignals events later id)
    (keeps : ∀ kind listener, future.listener kind = some listener →
      Keeps Listens state after listener) : Watches Listens later after id future := by
  constructor
  · intro kind
    rw [watches.registered, past.registered]
  · intro kind listener held
    exact (keeps kind listener held kind (watches.listens kind listener held)).1
  · intro kind listener held
    have kept := keeps kind listener held kind (watches.listens kind listener held)
    rw [kept.2, watches.notified kind listener held, past.notified]

/-- A waiter that an event is not about, and whose listeners it leaves alone. -/
theorem Sound.transfer {later : List Event} (sound : Sound Listens events state id waiter)
    (past : SamePast events later id)
    (keeps : ∀ future kind listener, waiter.future = some future →
      future.listener kind = some listener → Keeps Listens state after listener) :
    Sound Listens later after id waiter := by
  have sameCancelled : Cancelled later id waiter ↔ Cancelled events id waiter := by
    cases waiter with
    | signal future => exact Iff.rfl
    | token flag watcher => exact past.cancelled
  constructor
  · intro ended
    rcases sound.cause ended with ⟨kind, notified⟩ | cancelled
    · exact .inl ⟨kind, (past.notified kind).mpr notified⟩
    · exact .inr (sameCancelled.mpr cancelled)
  · exact sound.finished
  · intro cancelled
    exact sound.cancelled (sameCancelled.mp cancelled)
  · intro future found
    exact (sound.watches future found).transfer past.toSameSignals
      fun kind listener held => keeps future kind listener found held

/-- A waiter that has ended for a cause has nothing left to watch. -/
theorem Sound.of_cause (cause : Cause events id waiter) :
    Sound Listens events state id waiter.ended := by
  cases waiter with
  | signal future =>
      constructor
      · exact fun _ => cause
      · exact fun _ => rfl
      · exact fun _ => rfl
      · intro future impossible
        cases impossible
  | token cancelled watcher =>
      constructor
      · exact fun _ => cause
      · exact fun _ => rfl
      · exact fun _ => rfl
      · intro future impossible
        cases impossible

variable (laws : driver.Laws Listens)
include laws

/-- A delivered signal tells exactly the listeners that were registered for it. -/
theorem Sound.deliver (sound : Sound Listens events state id waiter) (kind : SignalKind) :
    Sound Listens (events ++ [.deliver kind]) (driver.deliver state kind) id waiter := by
  constructor
  · intro ended
    exact (sound.cause ended).append _
  · exact sound.finished
  · intro cancelled
    refine sound.cancelled ?_
    cases waiter with
    | signal future => exact cancelled
    | token flag watcher => simpa [Cancelled] using cancelled
  · intro future found
    have watches := sound.watches future found
    constructor
    · intro other
      rw [watches.registered, registered_append]
      simp [Event.creates]
    · intro other listener held
      exact (laws.deliver_listeners state kind listener other
        (watches.listens other listener held)).1
    · intro other listener held
      have told := (laws.deliver_listeners state kind listener other
        (watches.listens other listener held)).2
      have registered : Registered events id other := by
        rw [← watches.registered, held]
        rfl
      rw [told, watches.notified other listener held, notified_append]
      constructor
      · intro heard
        rcases heard with rfl | earlier
        · exact .inr ⟨rfl, registered⟩
        · exact .inl earlier
      · intro notified
        rcases notified with earlier | ⟨same, -⟩
        · exact .inr earlier
        · cases same
          exact .inl rfl

structure Created (Listens : driver.State → driver.Signal → SignalKind → Prop)
    (state after : driver.State) (listener : driver.Signal) (kind : SignalKind) : Prop where
  new : ∀ other, ¬ Listens state listener other
  listens : Listens after listener kind
  pending : (driver.recv after listener).isSome = false

theorem registerSignal_spec (state : driver.State) (kind : SignalKind) (succeeds : Bool) :
    ((registerSignal state kind succeeds).2.isSome = succeeds) ∧
      (∀ listener, (registerSignal state kind succeeds).2 = some listener →
        Created Listens state (registerSignal state kind succeeds).1 listener kind) ∧
      ∀ listener, Keeps Listens state (registerSignal state kind succeeds).1 listener := by
  cases succeeds with
  | false =>
      refine ⟨rfl, ?_, Keeps.refl state⟩
      intro listener impossible
      cases impossible
  | true =>
      refine ⟨rfl, ?_, ?_⟩
      · intro listener created
        cases created
        refine ⟨laws.signal_new state kind, laws.signal_listens state kind, ?_⟩
        exact congrArg Option.isSome (laws.signal_pending state kind)
      · intro listener other listens
        exact laws.signal_others state kind listener other listens

/-- Eager registration: the listeners of a new future exist and have been told nothing. -/
theorem signal_spec (state : driver.State) (registers : SignalKind → Bool) :
    (∀ kind, ((signal state registers).2.listener kind).isSome = registers kind) ∧
      (∀ kind listener, (signal state registers).2.listener kind = some listener →
        Created Listens state (signal state registers).1 listener kind) ∧
      ∀ listener, Keeps Listens state (signal state registers).1 listener := by
  obtain ⟨terminateIsSome, terminateCreated, terminateKeeps⟩ :=
    registerSignal_spec laws state .terminate (registers .terminate)
  obtain ⟨interruptIsSome, interruptCreated, interruptKeeps⟩ := registerSignal_spec laws
    (registerSignal state .terminate (registers .terminate)).1 .interrupt (registers .interrupt)
  refine ⟨?_, ?_, fun listener => (terminateKeeps listener).trans (interruptKeeps listener)⟩
  · intro kind
    cases kind with
    | terminate => exact terminateIsSome
    | interrupt => exact interruptIsSome
  · intro kind listener held
    cases kind with
    | terminate =>
        obtain ⟨new, listens, pending⟩ := terminateCreated listener held
        obtain ⟨kept, same⟩ := interruptKeeps listener .terminate listens
        exact ⟨new, kept, same.trans pending⟩
    | interrupt =>
        obtain ⟨new, listens, pending⟩ := interruptCreated listener held
        refine ⟨?_, listens, pending⟩
        intro other earlier
        exact new other (terminateKeeps listener other earlier).1

end Driver

end Twelve.Shutdown
