import Twelve.Shutdown.Notification

/-! The invariant of a world of waiters, kept by each event: every waiter is sound
for the history so far, and no two unfinished waiters hold one listener. -/

set_option autoImplicit false

namespace Twelve.Shutdown

variable {driver : SignalDriver} {events : List Event} {event : Event}
  {Listens : driver.State → driver.Signal → SignalKind → Prop} {world after : World driver}

def Holds (world : World driver) (id : Nat) (listener : driver.Signal) : Prop :=
  ∃ waiter future kind, world.waiters id = some waiter ∧ waiter.future = some future ∧
    future.listener kind = some listener

structure Invariant (Listens : driver.State → driver.Signal → SignalKind → Prop)
    (events : List Event) (world : World driver) : Prop where
  fresh : ∀ id, world.waiters id = none →
    (∀ kind, ¬ Registered events id kind) ∧ .cancel id ∉ events
  sound : ∀ id waiter, world.waiters id = some waiter →
    Sound Listens events world.signals id waiter
  apart : ∀ first second listener, Holds world first listener → Holds world second listener →
    first = second

section Lookup

variable {id other : Nat} {state : driver.State} {waiter : Waiter driver}

@[simp] theorem set_waiters_self : (world.set id state waiter).waiters id = some waiter := by
  simp [World.set]

theorem set_waiters_of_ne (different : other ≠ id) :
    (world.set id state waiter).waiters other = world.waiters other := by
  simp [World.set, different]

theorem Holds.listens {listener : driver.Signal} (invariant : Invariant Listens events world)
    (holds : Holds world id listener) : ∃ kind, Listens world.signals listener kind := by
  obtain ⟨waiter, future, kind, found, unfinished, held⟩ := holds
  exact ⟨kind, ((invariant.sound id waiter found).watches future unfinished).listens
    kind listener held⟩

private theorem Holds.of_set_of_ne {listener : driver.Signal} (different : other ≠ id)
    (holds : Holds (world.set id state waiter) other listener) : Holds world other listener := by
  obtain ⟨holder, future, kind, found, unfinished, held⟩ := holds
  rw [set_waiters_of_ne different] at found
  exact ⟨holder, future, kind, found, unfinished, held⟩

end Lookup

/-- Replacing one waiter, by an event that is about no other waiter. -/
theorem Invariant.set {id : Nat} {state : driver.State} {waiter : Waiter driver}
    (invariant : Invariant Listens events world)
    (past : ∀ other, other ≠ id → SamePast events (events ++ [event]) other)
    (sound : Sound Listens (events ++ [event]) state id waiter)
    (keeps : ∀ other listener, other ≠ id → Holds world other listener →
      Keeps Listens world.signals state listener)
    (owned : ∀ listener, Holds (world.set id state waiter) id listener →
      ∀ other, Holds world other listener → other = id) :
    Invariant Listens (events ++ [event]) (world.set id state waiter) := by
  constructor
  · intro other absent
    by_cases same : other = id
    · subst same
      rw [set_waiters_self] at absent
      cases absent
    · rw [set_waiters_of_ne same] at absent
      obtain ⟨unregistered, uncancelled⟩ := invariant.fresh other absent
      constructor
      · intro kind
        rw [(past other same).registered]
        exact unregistered kind
      · rw [(past other same).cancelled]
        exact uncancelled
  · intro other holder found
    by_cases same : other = id
    · subst same
      rw [set_waiters_self] at found
      cases found
      exact sound
    · rw [set_waiters_of_ne same] at found
      refine (invariant.sound other holder found).transfer (past other same) ?_
      intro future kind listener unfinished held
      exact keeps other listener same ⟨holder, future, kind, found, unfinished, held⟩
  · intro first second listener firstHolds secondHolds
    by_cases firstSame : first = id
    · by_cases secondSame : second = id
      · rw [firstSame, secondSame]
      · rw [firstSame] at firstHolds
        rw [firstSame, owned listener firstHolds second (secondHolds.of_set_of_ne secondSame)]
    · by_cases secondSame : second = id
      · rw [secondSame] at secondHolds
        rw [secondSame, owned listener secondHolds first (firstHolds.of_set_of_ne firstSame)]
      · exact invariant.apart first second listener (firstHolds.of_set_of_ne firstSame)
          (secondHolds.of_set_of_ne secondSame)

theorem Invariant.keep (invariant : Invariant Listens events world)
    (past : ∀ id, SamePast events (events ++ [event]) id) :
    Invariant Listens (events ++ [event]) world := by
  constructor
  · intro id absent
    obtain ⟨unregistered, uncancelled⟩ := invariant.fresh id absent
    constructor
    · intro kind
      rw [(past id).registered]
      exact unregistered kind
    · rw [(past id).cancelled]
      exact uncancelled
  · intro id waiter found
    exact (invariant.sound id waiter found).transfer (past id) fun _ _ _ _ _ => Keeps.refl _ _
  · exact invariant.apart

/-- What a poll does: nothing, or it ends the waiter for a notification of its own
or because its token is cancelled. -/
theorem poll_cases {id : Nat} {outer inner : Branch}
    (polled : world.poll id outer inner = some after) :
    ∃ waiter future, world.waiters id = some waiter ∧ waiter.future = some future ∧
      (after = world ∨ ∃ state, after = world.set id state waiter.ended ∧
        ((∃ kind listener, future.listener kind = some listener ∧
            driver.recv world.signals listener = some state) ∨
          waiter.Ended ∧ state = world.signals)) := by
  unfold World.poll at polled
  split at polled
  · next future found =>
      refine ⟨_, future, found, rfl, ?_⟩
      split at polled
      · next state completed =>
          cases polled
          exact .inr ⟨state, rfl, .inl (poll_eq_some completed)⟩
      · cases polled
        exact .inl rfl
  · next cancelled future found =>
      refine ⟨_, future, found, rfl, ?_⟩
      split at polled
      · next state left exited =>
          cases polled
          obtain ⟨rfl, completed | ⟨already, same⟩⟩ := watch_eq_some exited
          · exact .inr ⟨state, rfl, .inl (poll_eq_some completed)⟩
          · exact .inr ⟨state, rfl, .inr ⟨already, same⟩⟩
      · cases polled
        exact .inl rfl
  · cases polled

theorem poll_of_unfinished {id : Nat} {waiter : Waiter driver} {future : SignalFuture driver}
    (found : world.waiters id = some waiter) (unfinished : waiter.future = some future)
    (outer inner : Branch) :
    ∃ after, world.poll id outer inner = some after ∧
      ((future.poll inner world.signals).isSome = true ∨ waiter.Ended →
        after.waiters id = some waiter.ended) := by
  cases waiter with
  | signal held =>
      cases unfinished
      cases completed : future.poll inner world.signals with
      | some state =>
          refine ⟨world.set id state (.signal none), ?_, ?_⟩
          · simp only [World.poll, found, completed]
          · intro _
            exact set_waiters_self
      | none =>
          refine ⟨world, ?_, ?_⟩
          · simp only [World.poll, found, completed]
          · intro either
            rcases either with ready | ended
            · cases ready
            · cases ended
  | token cancelled watcher =>
      cases unfinished
      cases exited : watch future outer inner world.signals cancelled with
      | some result =>
          obtain ⟨state, left⟩ := result
          refine ⟨world.set id state (.token left none), ?_, ?_⟩
          · simp only [World.poll, found, exited]
          · intro _
            rw [(watch_eq_some exited).1]
            exact set_waiters_self
      | none =>
          refine ⟨world, ?_, ?_⟩
          · simp only [World.poll, found, exited]
          · intro ready
            have exits := @watch_isSome driver future outer inner world.signals cancelled ready
            rw [exited] at exits
            cases exits

section Steps

variable (laws : driver.Laws Listens)
include laws

theorem Invariant.poll {id : Nat} {outer inner : Branch}
    (invariant : Invariant Listens events world)
    (polled : world.poll id outer inner = some after) :
    Invariant Listens (events ++ [.poll id outer inner]) after := by
  have past : ∀ other, SamePast events (events ++ [.poll id outer inner]) other := by
    intro other
    exact samePast_append (by simp) (by simp [Event.creates]) (by simp)
  obtain ⟨waiter, future, found, unfinished, unchanged | ⟨state, rfl, ended⟩⟩ := poll_cases polled
  · rw [unchanged]
    exact invariant.keep past
  · have sound := invariant.sound id waiter found
    have watches := sound.watches future unfinished
    have cause : Cause events id waiter := by
      rcases ended with ⟨kind, listener, held, consumed⟩ | ⟨already, -⟩
      · refine .inl ⟨kind, (watches.notified kind listener held).mp ?_⟩
        rw [consumed]
        rfl
      · exact sound.cause already
    refine invariant.set (fun other _ => past other) (.of_cause (cause.append _)) ?_ ?_
    · intro other listener different holds
      rcases ended with ⟨kind, consumer, held, consumed⟩ | ⟨-, same⟩
      · intro heard listens
        refine laws.recv_others _ _ consumer listener heard consumed listens ?_
        intro same
        subst same
        exact different (invariant.apart other id listener holds
          ⟨waiter, future, kind, found, unfinished, held⟩)
      · rw [same]
        exact Keeps.refl _ _
    · intro listener holds
      obtain ⟨holder, left, kind, same, impossible, -⟩ := holds
      rw [set_waiters_self] at same
      cases same
      cases waiter <;> cases impossible

theorem Sound.create {id : Nat} {registers : SignalKind → Bool} {state : driver.State}
    {waiter : Waiter driver} (creation : event.creates = some (id, registers))
    (fresh : (∀ kind, ¬ Registered events id kind) ∧ .cancel id ∉ events)
    (unfinished : waiter.future = some (signal state registers).2) (running : ¬ waiter.Ended) :
    Sound Listens (events ++ [event]) (signal state registers).1 id waiter := by
  obtain ⟨listening, created, -⟩ := signal_spec laws state registers
  constructor
  · intro ended
    exact absurd ended running
  · intro finished
    rw [unfinished] at finished
    cases finished
  · intro cancelled
    cases waiter with
    | signal future => exact cancelled.elim
    | token flag watcher =>
        rcases List.mem_append.mp cancelled with earlier | now
        · exact absurd earlier fresh.2
        · rw [List.mem_singleton] at now
          rw [← now] at creation
          cases creation
  · intro future found
    rw [unfinished] at found
    cases found
    constructor
    · intro kind
      rw [listening, registered_append, creation]
      simp [fresh.1 kind]
    · intro kind listener held
      exact (created kind listener held).listens
    · intro kind listener held
      rw [(created kind listener held).pending, notified_append]
      constructor
      · intro impossible
        cases impossible
      · intro notified
        rcases notified with earlier | ⟨delivered, -⟩
        · exact absurd earlier.registered (fresh.1 kind)
        · rw [delivered] at creation
          cases creation

theorem Invariant.create {id : Nat} {registers : SignalKind → Bool}
    {make : Option (SignalFuture driver) → Waiter driver}
    (invariant : Invariant Listens events world) (creation : event.creates = some (id, registers))
    (unfinished : ∀ future, (make (some future)).future = some future)
    (running : ∀ future, ¬ (make (some future)).Ended)
    (created : world.create id registers make = some after) :
    Invariant Listens (events ++ [event]) after := by
  unfold World.create at created
  split at created
  · cases created
  · next absent =>
      cases created
      obtain ⟨-, new, keeps⟩ := signal_spec laws world.signals registers
      refine invariant.set ?_ (.create laws creation (invariant.fresh id absent)
        (unfinished _) (running _)) (fun other listener _ _ => keeps listener) ?_
      · intro other different
        refine samePast_append ?_ ?_ ?_
        · intro kind delivered
          subst delivered
          cases creation
        · intro others same
          rw [creation] at same
          cases same
          exact different rfl
        · intro cancels
          subst cancels
          cases creation
      · intro listener created other holds
        obtain ⟨holder, future, kind, same, found, held⟩ := created
        rw [set_waiters_self] at same
        cases same
        rw [unfinished] at found
        cases found
        obtain ⟨heard, listens⟩ := holds.listens invariant
        exact absurd listens ((new kind listener held).new heard)

theorem Invariant.deliver (invariant : Invariant Listens events world) (kind : SignalKind) :
    Invariant Listens (events ++ [.deliver kind])
      { world with signals := driver.deliver world.signals kind } := by
  constructor
  · intro id absent
    obtain ⟨unregistered, uncancelled⟩ := invariant.fresh id absent
    constructor
    · intro other
      rw [registered_append]
      simp [Event.creates, unregistered other]
    · simp [uncancelled]
  · intro id waiter found
    exact (invariant.sound id waiter found).deliver laws kind
  · exact invariant.apart

omit laws in
theorem cancel_cases {id : Nat} (taken : world.cancel id = some after) :
    ∃ cancelled watcher, world.waiters id = some (.token cancelled watcher) ∧
      after = world.set id world.signals (.token true watcher) := by
  unfold World.cancel at taken
  split at taken
  · next cancelled watcher found =>
      cases taken
      exact ⟨cancelled, watcher, found, rfl⟩
  · cases taken

omit laws in
theorem Invariant.cancel {id : Nat} (invariant : Invariant Listens events world)
    (taken : world.cancel id = some after) :
    Invariant Listens (events ++ [.cancel id]) after := by
  obtain ⟨cancelled, watcher, found, rfl⟩ := cancel_cases taken
  have sound := invariant.sound id _ found
  refine invariant.set ?_ ?_ (fun other listener _ _ => Keeps.refl _ _) ?_
  · intro other different
    exact samePast_append (by simp) (by simp [Event.creates]) (by simp [different.symm])
  · constructor
    · intro _
      exact .inr (List.mem_append_right _ List.mem_cons_self)
    · exact fun _ => rfl
    · exact fun _ => rfl
    · intro future unfinished
      exact (sound.watches future unfinished).transfer
        (sameSignals_append (by simp) (by simp [Event.creates])) fun _ _ _ => Keeps.refl _ _
  · intro listener mine other holds
    obtain ⟨holder, future, kind, same, unfinished, held⟩ := mine
    rw [set_waiters_self] at same
    cases same
    exact invariant.apart other id listener holds ⟨_, future, kind, found, unfinished, held⟩

theorem Invariant.step (invariant : Invariant Listens events world)
    (taken : world.Steps event after) : Invariant Listens (events ++ [event]) after := by
  cases event with
  | signal id registers =>
      exact invariant.create laws rfl (fun _ => rfl) (by simp [Waiter.Ended]) taken
  | token id registers =>
      exact invariant.create laws rfl (fun _ => rfl) (by simp [Waiter.Ended]) taken
  | deliver kind =>
      cases taken
      exact invariant.deliver laws kind
  | poll id outer inner => exact invariant.poll laws taken
  | cancel id => exact invariant.cancel taken

theorem Invariant.run {start : driver.State}
    (run : Run World.Steps (World.initial start) events world) :
    Invariant Listens events world := by
  refine Run.history_invariant ?_ ?_ run
  · constructor
    · intro id _
      constructor
      · intro kind registered
        obtain ⟨event, member, -⟩ := registered
        cases member
      · exact List.not_mem_nil
    · intro id waiter impossible
      cases impossible
    · intro first second listener holds
      obtain ⟨waiter, future, kind, impossible, -⟩ := holds
      cases impossible
  · intro labels state label next invariant taken
    exact invariant.step laws taken

end Steps

/-- What a waiter can rely on: its end is not invented, not lost, and not shared. -/
structure Reliable (events : List Event) (world : World driver) (id : Nat)
    (waiter : Waiter driver) : Prop where
  caused : waiter.Ended → Cause events id waiter
  exited : waiter.future = none → waiter.Ended
  polled : Cause events id waiter → waiter.future ≠ none → ∀ outer inner, ∃ after,
    world.Steps (.poll id outer inner) after ∧ after.waiters id = some waiter.ended
  others : ∀ other after, other ≠ id →
    (world.Steps (.cancel other) after ∨
      ∃ outer inner, world.Steps (.poll other outer inner) after) →
      after.waiters id = some waiter
  cancel : ∀ other after, world.Steps (.cancel other) after → after.signals = world.signals

/-- In every world that a run reaches, every waiter is reliable. -/
theorem waiters_reliable (laws : driver.Laws Listens) {start : driver.State}
    (run : Run World.Steps (World.initial start) events world) {id : Nat} {waiter : Waiter driver}
    (found : world.waiters id = some waiter) : Reliable events world id waiter := by
  have sound := (Invariant.run laws run).sound id waiter found
  constructor
  · exact sound.cause
  · exact sound.finished
  · intro cause unfinished outer inner
    obtain ⟨future, held⟩ := Option.ne_none_iff_exists'.mp unfinished
    have watches := sound.watches future held
    obtain ⟨after, polled, ends⟩ := poll_of_unfinished found held outer inner
    refine ⟨after, polled, ends ?_⟩
    rcases cause with ⟨kind, notified⟩ | cancelled
    · obtain ⟨listener, listening⟩ :=
        Option.isSome_iff_exists.mp ((watches.registered kind).mpr notified.registered)
      exact .inl (poll_isSome listening ((watches.notified kind listener listening).mpr notified)
        inner)
    · exact .inr (sound.cancelled cancelled)
  · intro other after different taken
    rcases taken with cancelled | ⟨outer, inner, polled⟩
    · obtain ⟨-, -, -, rfl⟩ := cancel_cases cancelled
      rw [set_waiters_of_ne different.symm, found]
    · obtain ⟨-, -, -, -, rfl | ⟨state, rfl, -⟩⟩ := poll_cases polled
      · exact found
      · rw [set_waiters_of_ne different.symm, found]
  · intro other after cancelled
    obtain ⟨-, -, -, rfl⟩ := cancel_cases cancelled
    rfl

abbrev Flags := List (SignalKind × Bool)

def Flags.recv (flags : Flags) (listener : Nat) : Option Flags :=
  match flags[listener]? with
  | some (kind, true) => some (flags.set listener (kind, false))
  | _ => none

def flagDriver : SignalDriver where
  State := Flags
  Signal := Nat
  signal flags kind := (flags ++ [(kind, false)], flags.length)
  deliver flags kind := flags.map fun entry => (entry.1, entry.2 || entry.1 == kind)
  recv := Flags.recv

def Flags.Hears (flags : Flags) (listener : Nat) (kind : SignalKind) : Prop :=
  ∃ flag, flags[listener]? = some (kind, flag)

private theorem Flags.recv_isSome {flags : Flags} {listener : Nat} {kind : SignalKind} {flag : Bool}
    (held : flags[listener]? = some (kind, flag)) : (flags.recv listener).isSome = flag := by
  cases flag <;> simp [Flags.recv, held]

theorem flagDriver_laws : flagDriver.Laws Flags.Hears where
  signal_new := by
    intro (flags : Flags) kind other listens
    obtain ⟨flag, held⟩ := listens
    simp [flagDriver] at held
  signal_listens := by
    intro (flags : Flags) kind
    exact ⟨false, by simp [flagDriver]⟩
  signal_pending := by
    intro (flags : Flags) kind
    simp [flagDriver, Flags.recv]
  signal_others := by
    intro (flags : Flags) kind (listener : Nat) other listens
    obtain ⟨flag, held⟩ := listens
    have kept : (flags ++ [(kind, false)])[listener]? = some (other, flag) := by
      rw [List.getElem?_append_left (List.getElem?_eq_some_iff.mp held).1, held]
    exact ⟨⟨flag, kept⟩, (Flags.recv_isSome kept).trans (Flags.recv_isSome held).symm⟩
  deliver_listeners := by
    intro (flags : Flags) kind (listener : Nat) other listens
    obtain ⟨flag, held⟩ := listens
    have told : (flags.map fun entry => (entry.1, entry.2 || entry.1 == kind))[listener]? =
        some (other, flag || other == kind) := by
      simp [held]
    refine ⟨⟨_, told⟩, ?_⟩
    have before : (flagDriver.recv flags listener).isSome = flag := Flags.recv_isSome held
    have after : (flagDriver.recv (flagDriver.deliver flags kind) listener).isSome =
        (flag || other == kind) := Flags.recv_isSome told
    rw [before, after, Bool.or_eq_true, beq_iff_eq, or_comm]
  recv_others := by
    intro (flags : Flags) after (consumer : Nat) (listener : Nat) other consumed listens different
    obtain ⟨flag, held⟩ := listens
    change flags.recv consumer = some after at consumed
    unfold Flags.recv at consumed
    split at consumed
    · next kind notified =>
        cases consumed
        have kept : (flags.set consumer (kind, false))[listener]? = some (other, flag) := by
          rw [List.getElem?_set_ne (Ne.symm different), held]
        exact ⟨⟨flag, kept⟩, (Flags.recv_isSome kept).trans (Flags.recv_isSome held).symm⟩
    · cases consumed

/-- A future whose `SIGTERM` registration failed ends at its next poll after `SIGINT`,
though a token was cancelled and its watcher exited in between. -/
theorem waiters_reliable_interrupted : ∃ world : World flagDriver,
    Reliable [.token 1 fun _ => true, .signal 2 (· == .interrupt), .cancel 1,
      .deliver .interrupt, .poll 1 .first .first] world 2
        (.signal (some ⟨none, some (2 : Nat)⟩)) := by
  have created : Run World.Steps (World.initial ([] : Flags) : World flagDriver) _ _ :=
    .next (.next .start (Eq.refl (World.step _ (.token 1 fun _ => true))))
      (Eq.refl (World.step _ (.signal 2 (· == .interrupt))))
  have interrupted := Run.next (.next created (Eq.refl (World.step _ (.cancel 1))))
    (Eq.refl (World.step _ (.deliver .interrupt)))
  have run := Run.next interrupted (Eq.refl (World.step _ (.poll 1 .first .first)))
  exact ⟨_, waiters_reliable flagDriver_laws run rfl⟩

end Twelve.Shutdown
