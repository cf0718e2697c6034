import Twelve.Shutdown.Runs

/-! One signal ends every waiter that was registered for it. Whatever happens in
between, a waiter with a cause has finished once it has been polled again, and the
waiters of one signal can be polled in any order without taking it from each other. -/

set_option autoImplicit false

namespace Twelve.Shutdown

variable {driver : SignalDriver} {events : List Event} {event : Event} {id : Nat}
  {Listens : driver.State → driver.Signal → SignalKind → Prop} {world after : World driver}
  {waiter : Waiter driver}

/-- Ended, with its listeners and its watcher gone. -/
def Waiter.Finished (waiter : Waiter driver) : Prop := waiter.Ended ∧ waiter.future = none

/-- Polled at some time after there was a cause. -/
def Answered (events : List Event) (id : Nat) (waiter : Waiter driver) : Prop :=
  ∃ before outer inner rest, events = before ++ .poll id outer inner :: rest ∧
    Cause before id waiter

private theorem Waiter.ended_finished (waiter : Waiter driver) : waiter.ended.Finished := by
  cases waiter with
  | signal future => exact ⟨rfl, rfl⟩
  | token cancelled watcher => exact ⟨rfl, rfl⟩

section History

private theorem answered_append :
    Answered (events ++ [event]) id waiter ↔
      Answered events id waiter ∨
        (∃ outer inner, event = .poll id outer inner) ∧ Cause events id waiter := by
  constructor
  · intro answered
    obtain ⟨before, outer, inner, rest, same, cause⟩ := answered
    rcases List.eq_nil_or_concat rest with rfl | ⟨initial, last, rfl⟩
    · obtain ⟨rfl, lasts⟩ := List.append_inj' same rfl
      cases lasts
      exact .inr ⟨⟨outer, inner, rfl⟩, cause⟩
    · rw [List.concat_eq_append, ← List.cons_append, ← List.append_assoc] at same
      obtain ⟨rfl, -⟩ := List.append_inj' same rfl
      exact .inl ⟨before, outer, inner, initial, rfl, cause⟩
  · intro either
    rcases either with ⟨before, outer, inner, rest, rfl, cause⟩ | ⟨⟨outer, inner, rfl⟩, cause⟩
    · exact ⟨before, outer, inner, rest ++ [event], by simp, cause⟩
    · exact ⟨events, outer, inner, [], rfl, cause⟩

private theorem Cause.append_list (cause : Cause events id waiter) (rest : List Event) :
    Cause (events ++ rest) id waiter := by
  induction rest generalizing events with
  | nil => simpa using cause
  | cons event rest ih =>
      rw [List.append_cons]
      exact ih (cause.append event)

theorem Answered.cause (answered : Answered events id waiter) : Cause events id waiter := by
  obtain ⟨before, outer, inner, rest, rfl, cause⟩ := answered
  exact cause.append_list _

theorem Registered.notified {before rest : List Event} {kind : SignalKind}
    (registered : Registered before id kind) (delivered : .deliver kind ∈ rest) :
    Notified (before ++ rest) id kind := by
  obtain ⟨creation, member, registers, created, listed⟩ := registered
  obtain ⟨earlier, later, rfl⟩ := List.append_of_mem member
  exact ⟨earlier, creation, later ++ rest, registers, by simp, created, listed,
    List.mem_append_right _ delivered⟩

end History

section Steps

theorem create_cases {registers : SignalKind → Bool}
    {make : Option (SignalFuture driver) → Waiter driver}
    (created : world.create id registers make = some after) :
    world.waiters id = none ∧
      after = world.set id (signal world.signals registers).1
        (make (some (signal world.signals registers).2)) := by
  unfold World.create at created
  split at created
  · cases created
  · next absent =>
      cases created
      exact ⟨absent, rfl⟩

theorem create_others {other : Nat} {registers : SignalKind → Bool}
    {make : Option (SignalFuture driver) → Waiter driver}
    (created : world.create other registers make = some after)
    (found : world.waiters id = some waiter) : after.waiters id = some waiter := by
  obtain ⟨absent, rfl⟩ := create_cases created
  have different : id ≠ other := by
    intro same
    rw [← same, found] at absent
    cases absent
  rw [set_waiters_of_ne different, found]

/-- All that a step can do to a waiter: end it in a poll, or cancel its token. -/
theorem step_waiter (taken : world.Steps event after) (found : world.waiters id = some waiter) :
    after.waiters id = some waiter ∨
      ((∃ outer inner, event = .poll id outer inner) ∧ waiter.future ≠ none ∧
        after.waiters id = some waiter.ended) ∨
      ∃ cancelled watcher, event = .cancel id ∧ waiter = .token cancelled watcher ∧
        after.waiters id = some (.token true watcher) := by
  cases event with
  | signal other registers => exact .inl (create_others taken found)
  | token other registers => exact .inl (create_others taken found)
  | deliver kind =>
      cases taken
      exact .inl found
  | poll other outer inner =>
      obtain ⟨polled, future, foundPolled, unfinished, rfl | ⟨state, rfl, -⟩⟩ := poll_cases taken
      · exact .inl found
      · by_cases same : id = other
        · subst same
          rw [found] at foundPolled
          cases foundPolled
          refine .inr (.inl ⟨⟨outer, inner, rfl⟩, ?_, set_waiters_self⟩)
          rw [unfinished]
          exact Option.some_ne_none future
        · exact .inl (by rw [set_waiters_of_ne same, found])
  | cancel other =>
      obtain ⟨cancelled, watcher, foundToken, rfl⟩ := cancel_cases taken
      by_cases same : id = other
      · subst same
        rw [found] at foundToken
        cases foundToken
        exact .inr (.inr ⟨cancelled, watcher, rfl, rfl, set_waiters_self⟩)
      · exact .inl (by rw [set_waiters_of_ne same, found])

theorem Waiter.Finished.step (finished : waiter.Finished) (taken : world.Steps event after)
    (found : world.waiters id = some waiter) :
    ∃ kept, after.waiters id = some kept ∧ kept.Finished := by
  rcases step_waiter taken found with same | ⟨-, unfinished, -⟩ | ⟨flag, watcher, -, rfl, cancelled⟩
  · exact ⟨waiter, same, finished⟩
  · exact absurd finished.2 unfinished
  · exact ⟨_, cancelled, rfl, finished.2⟩

theorem step_creates {registers : SignalKind → Bool} (taken : world.Steps event after)
    (creates : event.creates = some (id, registers)) :
    world.waiters id = none ∧ ∃ waiter, after.waiters id = some waiter := by
  cases event with
  | signal other others =>
      cases creates
      obtain ⟨absent, rfl⟩ := create_cases taken
      exact ⟨absent, _, set_waiters_self⟩
  | token other others =>
      cases creates
      obtain ⟨absent, rfl⟩ := create_cases taken
      exact ⟨absent, _, set_waiters_self⟩
  | deliver kind => cases creates
  | poll other outer inner => cases creates
  | cancel other => cases creates

theorem step_found (taken : world.Steps event after)
    (found : world.waiters id = some waiter) : ∃ kept, after.waiters id = some kept := by
  rcases step_waiter taken found with same | ⟨-, -, ended⟩ | ⟨_, _, -, -, cancelled⟩
  · exact ⟨_, same⟩
  · exact ⟨_, ended⟩
  · exact ⟨_, cancelled⟩

theorem step_signal {future : Option (SignalFuture driver)} (taken : world.Steps event after)
    (found : world.waiters id = some (.signal future)) :
    after.waiters id = some (.signal future) ∨ after.waiters id = some (.signal none) := by
  rcases step_waiter taken found with same | ⟨-, -, ended⟩ | ⟨_, _, -, impossible, -⟩
  · exact .inl same
  · exact .inr ended
  · cases impossible

theorem created_found {start : driver.State} {registers : SignalKind → Bool}
    (run : Run World.Steps (World.initial start) events world) :
    ∀ event ∈ events, event.creates = some (id, registers) →
      ∃ waiter, world.waiters id = some waiter := by
  induction run with
  | start =>
      intro event member
      cases member
  | next earlier taken ih =>
      intro event member creates
      rcases List.mem_append.mp member with before | last
      · obtain ⟨waiter, found⟩ := ih event before creates
        exact step_found taken found
      · rw [List.mem_singleton] at last
        subst last
        exact (step_creates taken creates).2

end Steps

theorem Invariant.exists_waiter {kind : SignalKind} (invariant : Invariant Listens events world)
    (registered : Registered events id kind) : ∃ waiter, world.waiters id = some waiter := by
  cases found : world.waiters id with
  | some waiter => exact ⟨waiter, rfl⟩
  | none => exact absurd registered ((invariant.fresh id found).1 kind)

theorem Invariant.no_cause (invariant : Invariant Listens events world)
    (absent : world.waiters id = none) (waiter : Waiter driver) : ¬ Cause events id waiter := by
  intro cause
  obtain ⟨unregistered, uncancelled⟩ := invariant.fresh id absent
  rcases cause with ⟨kind, notified⟩ | cancelled
  · exact unregistered kind notified.registered
  · cases waiter with
    | signal future => exact cancelled
    | token flag watcher => exact uncancelled cancelled

theorem Invariant.poll_finishes (outer inner : Branch)
    (invariant : Invariant Listens events world) (found : world.waiters id = some waiter)
    (cause : Cause events id waiter)
    (unfinished : waiter.future ≠ none) :
    ∃ after, world.poll id outer inner = some after ∧ after.waiters id = some waiter.ended := by
  have sound := invariant.sound id waiter found
  obtain ⟨future, held⟩ := Option.ne_none_iff_exists'.mp unfinished
  have watches := sound.watches future held
  obtain ⟨after, polled, ends⟩ := poll_of_unfinished found held outer inner
  refine ⟨after, polled, ends ?_⟩
  rcases cause with ⟨kind, notified⟩ | cancelled
  · obtain ⟨listener, listening⟩ :=
      Option.isSome_iff_exists.mp ((watches.registered kind).mpr notified.registered)
    exact .inl (poll_isSome listening ((watches.notified kind listener listening).mpr notified)
      inner)
  · exact .inr (sound.cancelled cancelled)

def AnsweredFinished (events : List Event) (world : World driver) : Prop :=
  ∀ id waiter, world.waiters id = some waiter → Answered events id waiter → waiter.Finished

theorem AnsweredFinished.step (finished : AnsweredFinished events world)
    (invariant : Invariant Listens events world) (taken : world.Steps event after) :
    AnsweredFinished (events ++ [event]) after := by
  intro id kept foundAfter answered
  cases found : world.waiters id with
  | none =>
      rcases answered_append.mp answered with earlier | ⟨-, cause⟩
      · exact absurd earlier.cause (invariant.no_cause found kept)
      · exact absurd cause (invariant.no_cause found kept)
  | some waiter =>
      rcases step_waiter taken found with
        same | ⟨-, -, ended⟩ | ⟨flag, watcher, rfl, rfl, cancelled⟩
      · rw [same] at foundAfter
        cases foundAfter
        rcases answered_append.mp answered with earlier | ⟨⟨outer, inner, rfl⟩, cause⟩
        · exact finished id kept found earlier
        · by_cases unfinished : kept.future = none
          · exact ⟨(invariant.sound id kept found).finished unfinished, unfinished⟩
          · obtain ⟨polled, step, ended⟩ :=
              invariant.poll_finishes outer inner found cause unfinished
            obtain rfl : after = polled := Option.some.inj (taken.symm.trans step)
            rw [Option.some.inj (same.symm.trans ended)]
            exact kept.ended_finished
      · rw [ended] at foundAfter
        cases foundAfter
        exact waiter.ended_finished
      · rw [cancelled] at foundAfter
        cases foundAfter
        rcases answered_append.mp answered with earlier | ⟨⟨outer, inner, impossible⟩, -⟩
        · exact ⟨rfl, (finished id _ found earlier).2⟩
        · cases impossible

section Laws

variable (laws : driver.Laws Listens)
include laws

theorem AnsweredFinished.run {start : driver.State}
    (run : Run World.Steps (World.initial start) events world) : AnsweredFinished events world := by
  induction run with
  | start =>
      intro id waiter impossible
      cases impossible
  | next earlier taken ih => exact ih.step (.run laws earlier) taken

/-- After a signal, every waiter that was registered for it before and has been
polled since is finished, whatever else happened in between. -/
theorem signal_reaches_all {start : driver.State} {before rest : List Event} {kind : SignalKind}
    (run : Run World.Steps (World.initial start) (before ++ .deliver kind :: rest) world)
    (registered : Registered before id kind)
    (polled : ∃ outer inner, .poll id outer inner ∈ rest) :
    ∃ waiter, world.waiters id = some waiter ∧ waiter.Finished := by
  obtain ⟨outer, inner, member⟩ := polled
  obtain ⟨between, after, rfl⟩ := List.append_of_mem member
  have notified : Notified (before ++ .deliver kind :: between) id kind :=
    registered.notified List.mem_cons_self
  have told : Notified (before ++ .deliver kind :: (between ++ .poll id outer inner :: after)) id
      kind := registered.notified List.mem_cons_self
  obtain ⟨waiter, found⟩ := (Invariant.run laws run).exists_waiter told.registered
  refine ⟨waiter, found, AnsweredFinished.run laws run id waiter found ?_⟩
  exact ⟨before ++ .deliver kind :: between, outer, inner, after, by simp, .inl ⟨kind, notified⟩⟩

omit laws in
theorem poll_others {other : Nat} {outer inner : Branch} (different : other ≠ id)
    (polled : world.poll id outer inner = some after) :
    after.waiters other = world.waiters other := by
  obtain ⟨-, -, -, -, rfl | ⟨state, rfl, -⟩⟩ := poll_cases polled
  · rfl
  · exact set_waiters_of_ne different

def pollWith (branches : Nat → Branch × Branch) (id : Nat) : Event :=
  .poll id (branches id).1 (branches id).2

/-- An unfinished waiter that has been told to stop. -/
def Due (events : List Event) (world : World driver) (id : Nat) : Prop :=
  ∃ waiter, world.waiters id = some waiter ∧ waiter.future ≠ none ∧ Cause events id waiter

theorem Invariant.drain {order : List Nat} (distinct : order.Nodup)
    (branches : Nat → Branch × Branch) (invariant : Invariant Listens events world)
    (due : ∀ id ∈ order, Due events world id) :
    ∃ after, Run World.Steps world (order.map (pollWith branches)) after ∧
      ∀ id, after.waiters id =
        if id ∈ order then (world.waiters id).map Waiter.ended else world.waiters id := by
  induction order generalizing events world with
  | nil => exact ⟨world, .start, by simp⟩
  | cons first order ih =>
      obtain ⟨absent, distinct⟩ := List.nodup_cons.mp distinct
      obtain ⟨waiter, found, unfinished, cause⟩ := due first List.mem_cons_self
      obtain ⟨middle, polled, ended⟩ := invariant.poll_finishes (branches first).1
        (branches first).2 found cause unfinished
      have others : ∀ id, id ≠ first → middle.waiters id = world.waiters id :=
        fun id different => poll_others different polled
      have dueLater : ∀ id ∈ order, Due (events ++ [pollWith branches first]) middle id := by
        intro id member
        obtain ⟨holder, held, waits, told⟩ := due id (List.mem_cons_of_mem first member)
        refine ⟨holder, ?_, waits, told.append _⟩
        rw [others id (fun same => absent (same ▸ member)), held]
      obtain ⟨after, run, final⟩ := ih distinct (invariant.poll laws polled) dueLater
      refine ⟨after, .cons polled run, ?_⟩
      intro id
      rw [final id]
      by_cases same : id = first
      · subst same
        simp [absent, ended, found]
      · simp [same, others id same]

/-- Waiters that are due can be polled in any order, with any branches first, and
every one of them ends. The other waiters are left as they are. -/
theorem waiters_drain {start : driver.State} {order : List Nat} (distinct : order.Nodup)
    (branches : Nat → Branch × Branch)
    (run : Run World.Steps (World.initial start) events world)
    (due : ∀ id ∈ order, Due events world id) :
    ∃ after, Run World.Steps world (order.map (pollWith branches)) after ∧
      ∀ id, after.waiters id =
        if id ∈ order then (world.waiters id).map Waiter.ended else world.waiters id :=
  (Invariant.run laws run).drain laws distinct branches due

end Laws

/-- A future, a token and a future without `SIGTERM`; then a `SIGTERM`. -/
def terminated : List Event :=
  [.signal 0 fun _ => true, .token 1 fun _ => true, .signal 2 (· == .interrupt),
    .deliver .terminate]

private theorem run_terminated :
    ∃ world : World flagDriver, Run World.Steps (World.initial ([] : Flags)) terminated world ∧
      world.waiters 0 = some (.signal (some ⟨some (0 : Nat), some (1 : Nat)⟩)) ∧
      world.waiters 1 = some (.token false (some ⟨some (2 : Nat), some (3 : Nat)⟩)) := by
  have created : Run World.Steps (World.initial ([] : Flags) : World flagDriver) _ _ :=
    .next (.next .start (Eq.refl (World.step _ (.signal 0 fun _ => true))))
      (Eq.refl (World.step _ (.token 1 fun _ => true)))
  have run := Run.next (.next created (Eq.refl (World.step _ (.signal 2 (· == .interrupt)))))
    (Eq.refl (World.step _ (.deliver .terminate)))
  exact ⟨_, run, rfl, rfl⟩

private theorem notified_terminated {id : Nat} (member : id = 0 ∨ id = 1) :
    Notified terminated id .terminate := by
  have registered : Registered [.signal 0 fun _ => true, .token 1 fun _ => true] id .terminate := by
    rcases member with rfl | rfl
    · exact ⟨_, List.mem_cons_self, _, rfl, rfl⟩
    · exact ⟨_, List.mem_cons_of_mem _ List.mem_cons_self, _, rfl, rfl⟩
  exact registered.notified (List.mem_cons_of_mem _ List.mem_cons_self)

/-- The token is polled first, and the future still ends. -/
theorem waiters_drain_terminated : ∃ world after : World flagDriver,
    Run World.Steps world [.poll 1 .second .first, .poll 0 .first .second] after ∧
      after.waiters 0 = some (.signal none) ∧ after.waiters 1 = some (.token true none) := by
  obtain ⟨world, run, future, token⟩ := run_terminated
  have due : ∀ id ∈ [1, 0], Due terminated world id := by
    intro id member
    simp only [List.mem_cons, List.not_mem_nil, or_false] at member
    rcases member with rfl | rfl
    · exact ⟨_, token, Option.some_ne_none _, .inl ⟨.terminate, notified_terminated (.inr rfl)⟩⟩
    · exact ⟨_, future, Option.some_ne_none _, .inl ⟨.terminate, notified_terminated (.inl rfl)⟩⟩
  obtain ⟨after, polls, final⟩ := waiters_drain flagDriver_laws (by decide)
    (fun id => if id = 1 then (.second, .first) else (.first, .second)) run due
  refine ⟨world, after, polls, ?_, ?_⟩
  · rw [final 0, future]
    rfl
  · rw [final 1, token]
    rfl

theorem signal_reaches_all_terminated : ∃ world : World flagDriver, ∃ waiter,
    world.waiters 0 = some waiter ∧ waiter.Finished := by
  obtain ⟨world, run, future, -⟩ := run_terminated
  obtain ⟨after, polled, -⟩ := (Invariant.run flagDriver_laws run).poll_finishes .first .second
    future (.inl ⟨.terminate, notified_terminated (.inl rfl)⟩) (Option.some_ne_none _)
  have registered : Registered [.signal 0 fun _ => true, .token 1 fun _ => true,
      .signal 2 (· == .interrupt)] 0 .terminate := ⟨_, List.mem_cons_self, _, rfl, rfl⟩
  have extended : Run World.Steps (World.initial ([] : Flags))
      ([.signal 0 fun _ => true, .token 1 fun _ => true, .signal 2 (· == .interrupt)] ++
        .deliver .terminate :: [.poll 0 .first .second]) after := Run.next run polled
  exact ⟨after, signal_reaches_all flagDriver_laws extended registered
    ⟨.first, .second, List.mem_cons_self⟩⟩

end Twelve.Shutdown
