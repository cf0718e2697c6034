import Twelve.Server
import Twelve.Shutdown.Broadcast
import Twelve.Listener.Transparency

/-! How `serve` ends, over every interleaving of its steps with signals, polls,
cancellations and other waiters. The process is projected to its world of waiters,
and the phase of `serve` records what the history must contain. -/

set_option autoImplicit false

namespace Twelve.Server

open Shutdown (SignalDriver SignalKind World Event Waiter)

variable {SocketAddr : Type} {net : Net SocketAddr} {Application : Type} {driver : SignalDriver}
  {axum : AxumServe net Application} {address : ListenAddress SocketAddr OsString}
  {application : Application} {process after : Process driver axum}
  {action : Action axum} {actions : List (Action axum)} {signal : Nat}
  {registers : SignalKind → Bool}

def Action.event : Action axum → Option Event
  | .listen signal registers => some (.signal signal registers)
  | .process event => some event
  | _ => none

section Cases

theorem bind_cases (taken : process.bind address = some after) :
    process.phase = .started ∧ after.shutdown = process.shutdown ∧
      ((∃ listener, after.phase = .bound listener) ∨
        ∃ error, (Listener.bind process.network address).2 = .error error ∧
          after.phase = .returned (.error (.listener error))) := by
  unfold Process.bind at taken
  split at taken
  · next started =>
      refine ⟨started, ?_⟩
      split at taken
      · cases taken
        exact ⟨rfl, .inl ⟨_, rfl⟩⟩
      · next failed =>
          cases taken
          exact ⟨rfl, .inr ⟨_, by rw [failed], rfl⟩⟩
  · cases taken

theorem listen_cases (taken : process.listen application signal registers = some after) :
    ∃ listener, process.phase = .bound listener ∧
      process.shutdown.Steps (.signal signal registers) after.shutdown ∧
      after.phase = .serving signal (axum.serve listener application) := by
  unfold Process.listen at taken
  split at taken
  · next listener bound =>
      obtain ⟨shutdown, step, rfl⟩ := Option.map_eq_some_iff.mp taken
      exact ⟨listener, bound, step, rfl⟩
  · cases taken

theorem serve_cases {label : axum.Label} (taken : process.serve label = some after) :
    ∃ signal server next network, process.phase = .serving signal server ∧
      axum.step process.network server label = some (network, next) ∧
      after.shutdown = process.shutdown ∧ after.phase = .serving signal next := by
  unfold Process.serve at taken
  split at taken
  · next signal server serving =>
      obtain ⟨⟨network, next⟩, step, rfl⟩ := Option.map_eq_some_iff.mp taken
      exact ⟨signal, server, next, network, serving, step, rfl, rfl⟩
  · cases taken

theorem tellShutdown_cases (taken : process.tellShutdown = some after) :
    ∃ signal server, process.phase = .serving signal server ∧
      process.shutdown.waiters signal = some (.signal none) ∧
      after.shutdown = process.shutdown ∧ after.phase = .serving signal (axum.shutdown server) := by
  unfold Process.tellShutdown at taken
  split at taken
  · next signal server serving =>
      split at taken
      · next completed =>
          cases taken
          exact ⟨signal, server, serving, completed, rfl, rfl⟩
      · cases taken
  · cases taken

private theorem tellShutdown_of_completed {server : axum.Future}
    (serving : process.phase = .serving signal server)
    (completed : process.shutdown.waiters signal = some (.signal none)) :
    process.tellShutdown =
      some { process with phase := .serving signal (axum.shutdown server) } := by
  simp only [Process.tellShutdown, serving, completed]

theorem finish_cases (taken : process.finish = some after) :
    ∃ signal server result, process.phase = .serving signal server ∧
      axum.result server = some result ∧ after.shutdown = process.shutdown ∧
      after.phase = .returned (result.mapError .serve) := by
  unfold Process.finish at taken
  split at taken
  · next signal server serving =>
      obtain ⟨result, resolved, rfl⟩ := Option.map_eq_some_iff.mp taken
      exact ⟨signal, server, result, serving, resolved, rfl, rfl⟩
  · cases taken

end Cases

theorem projects :
    Run.Projects (Process.Steps address application : Process driver axum → _ → _ → Prop)
      World.Steps Process.shutdown Action.event := by
  intro process action after taken
  cases action with
  | bind => exact (bind_cases taken).2.1
  | listen signal registers =>
      obtain ⟨listener, -, step, -⟩ := listen_cases taken
      exact step
  | serve label =>
      obtain ⟨_, _, _, _, -, -, same, -⟩ := serve_cases taken
      exact same
  | shutdown =>
      obtain ⟨_, _, -, -, same, -⟩ := tellShutdown_cases taken
      exact same
  | finish =>
      obtain ⟨_, _, _, -, -, same, -⟩ := finish_cases taken
      exact same
  | process event =>
      obtain ⟨shutdown, step, rfl⟩ := Option.map_eq_some_iff.mp taken
      exact step
  | network state =>
      cases taken
      rfl

theorem shutdown_run {network : net.State} {signals : driver.State}
    (run : Run (Process.Steps address application) (Process.initial network signals) actions
      process) :
    Run World.Steps (World.initial signals) (actions.filterMap Action.event) process.shutdown :=
  Run.project projects run

def Uncreated (actions : List (Action axum)) (signal : Nat) : Prop :=
  ∀ event ∈ actions.filterMap Action.event, ∀ registers, event.creates ≠ some (signal, registers)

/-- The socket was bound, and then the waiter was registered, which nothing else created. -/
def Listening (actions : List (Action axum)) (signal : Nat) : Prop :=
  ∃ before registers rest, actions = before ++ .listen signal registers :: rest ∧
    .bind ∈ before ∧ Uncreated before signal ∧ Uncreated rest signal

def NotListening (actions : List (Action axum)) : Prop :=
  ∀ signal registers, .listen signal registers ∉ actions

theorem Uncreated.append (uncreated : Uncreated actions signal)
    (other : ∀ event registers, action.event = some event →
      event.creates ≠ some (signal, registers)) : Uncreated (actions ++ [action]) signal := by
  intro event member registers
  rw [List.filterMap_append, List.mem_append] at member
  rcases member with earlier | last
  · exact uncreated event earlier registers
  · obtain ⟨same, found, projected⟩ := List.mem_filterMap.mp last
    rw [List.mem_singleton] at found
    exact other event registers (found ▸ projected)

theorem Listening.append (listening : Listening actions signal)
    (other : ∀ event registers, action.event = some event →
      event.creates ≠ some (signal, registers)) : Listening (actions ++ [action]) signal := by
  obtain ⟨before, registers, rest, rfl, bound, first, uncreated⟩ := listening
  exact ⟨before, registers, rest ++ [action], by simp, bound, first, uncreated.append other⟩

theorem NotListening.append (quiet : NotListening actions)
    (other : ∀ signal registers, action ≠ .listen signal registers) :
    NotListening (actions ++ [action]) := by
  intro signal registers member
  rcases List.mem_append.mp member with earlier | last
  · exact quiet signal registers earlier
  · exact other signal registers (List.mem_singleton.mp last).symm

/-- What the history contains in each phase. -/
def Tracks (Stopping : axum.Future → Prop) (actions : List (Action axum))
    (shutdown : World driver) : Phase axum → Prop
  | .started => NotListening actions
  | .bound _ => NotListening actions ∧ .bind ∈ actions
  | .serving signal server => Listening actions signal ∧
      (∃ future, shutdown.waiters signal = some (.signal future)) ∧
      (Stopping server → shutdown.waiters signal = some (.signal none))
  | .returned (.ok ()) => ∃ signal, Listening actions signal ∧
      shutdown.waiters signal = some (.signal none)
  | .returned (.error (.listener _)) => NotListening actions
  | .returned (.error (.serve _)) => True

section Steps

variable {Stopping : axum.Future → Prop} {shutdown next : World driver} {phase : Phase axum}

/-- A step that `serve` takes no part in, and that does not undo its waiter. -/
theorem Tracks.extend (tracks : Tracks Stopping actions shutdown phase)
    (notListen : ∀ signal registers, action ≠ .listen signal registers)
    (kept : ∀ signal future, shutdown.waiters signal = some (.signal future) →
      (∀ event registers, action.event = some event → event.creates ≠ some (signal, registers)) ∧
      (next.waiters signal = some (.signal future) ∨ next.waiters signal = some (.signal none))) :
    Tracks Stopping (actions ++ [action]) next phase := by
  have finished : ∀ signal, shutdown.waiters signal = some (.signal none) →
      next.waiters signal = some (.signal none) := fun signal found =>
    (kept signal none found).2.elim id id
  match phase with
  | .started => exact NotListening.append tracks notListen
  | .bound listener => exact ⟨tracks.1.append notListen, List.mem_append_left _ tracks.2⟩
  | .serving signal server =>
      obtain ⟨listening, ⟨future, found⟩, stopping⟩ := tracks
      obtain ⟨uncreated, still⟩ := kept signal future found
      refine ⟨listening.append uncreated, ?_, fun stops => finished signal (stopping stops)⟩
      rcases still with same | ended
      · exact ⟨future, same⟩
      · exact ⟨none, ended⟩
  | .returned (.ok ()) =>
      obtain ⟨signal, listening, found⟩ := tracks
      exact ⟨signal, listening.append (kept signal none found).1, finished signal found⟩
  | .returned (.error (.listener error)) => exact NotListening.append tracks notListen
  | .returned (.error (.serve source)) => trivial

theorem Tracks.quiet (tracks : Tracks Stopping actions shutdown phase)
    (action : Action axum) (silent : action.event = none) :
    Tracks Stopping (actions ++ [action]) shutdown phase := by
  refine tracks.extend ?_ ?_
  · intro signal registers same
    subst same
    cases silent
  · intro signal future found
    refine ⟨?_, .inl found⟩
    intro event registers impossible
    rw [silent] at impossible
    cases impossible

theorem Tracks.bind (tracks : Tracks Stopping actions process.shutdown process.phase)
    (taken : process.bind address = some after) :
    Tracks Stopping (actions ++ [.bind]) after.shutdown after.phase := by
  have quiet := tracks.quiet .bind rfl
  obtain ⟨started, -, ⟨listener, bound⟩ | ⟨error, -, returned⟩⟩ := bind_cases taken
  · rw [started] at quiet
    rw [bound]
    exact ⟨quiet, by simp⟩
  · rw [started] at quiet
    rw [returned]
    exact quiet

/-- The waiter is new, for no event of the history created it. -/
theorem Tracks.listen (laws : axum.Laws Stopping) {signals : driver.State}
    (run : Run World.Steps (World.initial signals) (actions.filterMap Action.event)
      process.shutdown)
    (tracks : Tracks Stopping actions process.shutdown process.phase)
    (taken : process.listen application signal registers = some after) :
    Tracks Stopping (actions ++ [.listen signal registers]) after.shutdown after.phase := by
  obtain ⟨listener, bound, step, serving⟩ := listen_cases taken
  obtain ⟨absent, same⟩ := Shutdown.create_cases step
  rw [bound] at tracks
  rw [serving]
  refine ⟨⟨actions, registers, [], rfl, tracks.2, ?_, ?_⟩, ?_, ?_⟩
  · intro event member others creates
    obtain ⟨waiter, found⟩ := Shutdown.created_found run event member creates
    rw [found] at absent
    cases absent
  · intro event member
    cases member
  · rw [same]
    exact ⟨_, Shutdown.set_waiters_self⟩
  · intro stopping
    exact absurd stopping (laws.serve_running listener application)

theorem Tracks.step (laws : axum.Laws Stopping) {signals : driver.State}
    (run : Run World.Steps (World.initial signals) (actions.filterMap Action.event)
      process.shutdown)
    (tracks : Tracks Stopping actions process.shutdown process.phase)
    (taken : process.Steps address application action after) :
    Tracks Stopping (actions ++ [action]) after.shutdown after.phase := by
  cases action with
  | bind => exact tracks.bind taken
  | listen signal registers => exact tracks.listen laws run taken
  | serve label =>
      have quiet := tracks.quiet (.serve label) rfl
      obtain ⟨signal, server, next, network, serving, step, same, phase⟩ := serve_cases taken
      rw [serving] at quiet
      obtain ⟨listening, found, stopping⟩ := quiet
      rw [same, phase]
      exact ⟨listening, found, fun stops =>
        stopping (laws.step_running _ _ _ _ _ step stops)⟩
  | shutdown =>
      have quiet := tracks.quiet .shutdown rfl
      obtain ⟨signal, server, serving, completed, same, phase⟩ := tellShutdown_cases taken
      rw [serving] at quiet
      obtain ⟨listening, found, -⟩ := quiet
      rw [same, phase]
      exact ⟨listening, found, fun _ => completed⟩
  | finish =>
      have quiet := tracks.quiet .finish rfl
      obtain ⟨signal, server, result, serving, resolved, same, phase⟩ := finish_cases taken
      rw [serving] at quiet
      obtain ⟨listening, found, stopping⟩ := quiet
      rw [same, phase]
      cases result with
      | ok done => exact ⟨signal, listening, stopping (laws.ok_stopping server resolved)⟩
      | error source => trivial
  | process event =>
      obtain ⟨shutdown, step, rfl⟩ := Option.map_eq_some_iff.mp taken
      refine tracks.extend (by simp) ?_
      intro signal future found
      refine ⟨?_, Shutdown.step_signal step found⟩
      intro other registers same creates
      cases same
      rw [(Shutdown.step_creates step creates).1] at found
      cases found
  | network state =>
      cases taken
      exact tracks.quiet _ rfl

theorem Tracks.run (laws : axum.Laws Stopping) {network : net.State} {signals : driver.State}
    (run : Run (Process.Steps address application) (Process.initial network signals) actions
      process) : Tracks Stopping actions process.shutdown process.phase := by
  induction run with
  | start =>
      intro signal registers
      exact List.not_mem_nil
  | next earlier taken ih => exact ih.step laws (shutdown_run earlier) taken

/-- A registered signal came after the socket was bound and the handlers registered. -/
def StoppedBySignal (actions : List (Action axum)) : Prop :=
  ∃ before signal registers rest kind, actions = before ++ .listen signal registers :: rest ∧
    .bind ∈ before ∧ registers kind = true ∧ .process (.deliver kind) ∈ rest

theorem Listening.stoppedBySignal {kind : SignalKind} (listening : Listening actions signal)
    (notified : Shutdown.Notified (actions.filterMap Action.event) signal kind) :
    StoppedBySignal actions := by
  obtain ⟨before, registers, rest, rfl, bound, uncreatedBefore, uncreatedRest⟩ := listening
  obtain ⟨left, creation, right, others, same, created, registered, delivered⟩ := notified
  rw [List.filterMap_append] at same
  obtain ⟨rfl, rfl⟩ := split_unique
    (fun event => ∃ registers, event.creates = some (signal, registers))
    (fun event member holds => holds.elim (uncreatedBefore event member))
    (fun event member holds => holds.elim (uncreatedRest event member)) same ⟨others, created⟩
  cases created
  obtain ⟨action, member, projected⟩ := List.mem_filterMap.mp delivered
  refine ⟨before, signal, registers, rest, kind, rfl, bound, registered, ?_⟩
  cases action with
  | process event =>
      cases projected
      exact member
  | _ => cases projected

/-- The two steps with which `serve` returns. -/
theorem returned_cases {result : Except (ServeError net) Unit}
    (taken : process.Steps address application action after)
    (running : process.phase ≠ .returned result) (returned : after.phase = .returned result) :
    (action = .bind ∧ process.phase = .started ∧
        ∃ error, (Listener.bind process.network address).2 = .error error ∧
          result = .error (.listener error)) ∨
      (action = .finish ∧ ∃ signal server resolved, process.phase = .serving signal server ∧
        axum.result server = some resolved ∧ result = resolved.mapError .serve) := by
  cases action with
  | bind =>
      obtain ⟨started, -, ⟨listener, bound⟩ | ⟨error, failed, ended⟩⟩ := bind_cases taken
      · rw [bound] at returned
        cases returned
      · rw [ended] at returned
        cases returned
        exact .inl ⟨rfl, started, error, failed, rfl⟩
  | listen signal registers =>
      obtain ⟨listener, -, -, serving⟩ := listen_cases taken
      rw [serving] at returned
      cases returned
  | serve label =>
      obtain ⟨_, _, _, _, -, -, -, serving⟩ := serve_cases taken
      rw [serving] at returned
      cases returned
  | shutdown =>
      obtain ⟨_, _, -, -, -, serving⟩ := tellShutdown_cases taken
      rw [serving] at returned
      cases returned
  | finish =>
      obtain ⟨signal, server, resolved, serving, found, -, ended⟩ := finish_cases taken
      rw [ended] at returned
      cases returned
      exact .inr ⟨rfl, signal, server, resolved, serving, found, rfl⟩
  | process event =>
      obtain ⟨shutdown, step, rfl⟩ := Option.map_eq_some_iff.mp taken
      exact absurd returned running
  | network state =>
      cases taken
      exact absurd returned running

section Returned

variable (address application) (start : Process driver axum) (actions : List (Action axum))

/-- The run came to its `bind`, which failed with this error in the network of that moment. -/
def BindFailed (error : Listener.Error net) : Prop :=
  ∃ before rest reached, actions = before ++ .bind :: rest ∧
    Run (Process.Steps address application) start before reached ∧ reached.phase = .started ∧
    (Listener.bind reached.network address).2 = .error error

/-- The run came to the end of the server that it served, which had resolved to this. -/
def Served (resolved : Except net.IoError Unit) : Prop :=
  ∃ before rest reached signal server, actions = before ++ .finish :: rest ∧
    Run (Process.Steps address application) start before reached ∧
    reached.phase = .serving signal server ∧ Listening before signal ∧
    axum.result server = some resolved

end Returned

theorem exists_returning (laws : axum.Laws Stopping) {network : net.State}
    {signals : driver.State} {result : Except (ServeError net) Unit}
    (run : Run (Process.Steps address application) (Process.initial network signals) actions
      process) (returned : process.phase = .returned result) :
    (∃ error, result = .error (.listener error) ∧
        BindFailed address application (Process.initial network signals : Process driver axum)
          actions error) ∨
      ∃ resolved, result = resolved.mapError .serve ∧
        Served address application (Process.initial network signals : Process driver axum)
          actions resolved := by
  have fresh : (Process.initial network signals : Process driver axum).phase ≠
      .returned result := by
    intro same
    cases same
  obtain ⟨before, action, rest, reached, entered, split, earlier, running, taken, ended⟩ :=
    @Run.exists_entering _ _ _ _ _ _ (fun process => process.phase = .returned result) run fresh
      returned
  rcases returned_cases taken running ended with
    ⟨rfl, started, error, failed, same⟩ | ⟨rfl, signal, server, resolved, serving, found, same⟩
  · exact .inl ⟨error, same, before, rest, reached, split, earlier, started, failed⟩
  · have tracks := Tracks.run laws earlier
    rw [serving] at tracks
    exact .inr ⟨resolved, same, before, rest, reached, signal, server, split, earlier, serving,
      tracks.1, found⟩

section Laws

variable {Listens : driver.State → driver.Signal → SignalKind → Prop} {network : net.State}
  {signals : driver.State} (laws : axum.Laws Stopping) (driverLaws : driver.Laws Listens)
  (run : Run (Process.Steps address application) (Process.initial network signals) actions process)
include laws driverLaws run

/-- Without an error `serve` returns only when the server that it served has resolved, and
for a signal that came after its handlers were registered. An error of its own is that of
its `bind`, and then no handler was; any other is what the server resolved to. -/
theorem serve_outcome {result : Except (ServeError net) Unit}
    (returned : process.phase = .returned result) :
    match result with
    | .ok () => StoppedBySignal actions ∧
        Served address application (Process.initial network signals : Process driver axum)
          actions (.ok ())
    | .error (.listener error) => NotListening actions ∧
        BindFailed address application (Process.initial network signals : Process driver axum)
          actions error
    | .error (.serve source) =>
        Served address application (Process.initial network signals : Process driver axum)
          actions (.error source) := by
  have tracks := Tracks.run laws run
  rw [returned] at tracks
  rcases exists_returning laws run returned with
    ⟨error, rfl, failed⟩ | ⟨resolved, rfl, served⟩
  · exact ⟨tracks, failed⟩
  · cases resolved with
    | error source => exact served
    | ok done =>
        refine ⟨?_, served⟩
        obtain ⟨signal, listening, finished⟩ := tracks
        have sound := (Shutdown.Invariant.run driverLaws (shutdown_run run)).sound signal _ finished
        rcases sound.cause rfl with ⟨kind, notified⟩ | impossible
        · exact listening.stoppedBySignal notified
        · exact impossible.elim

/-- Once a registered signal has come, one poll of the shutdown future is enough for
the server to be told to stop, whatever happened in between. -/
theorem serve_stops {server : axum.Future} (serving : process.phase = .serving signal server)
    {before rest : List (Action axum)} {kind : SignalKind}
    (history : actions = before ++ .listen signal registers :: rest)
    (registered : registers kind = true) (delivered : .process (.deliver kind) ∈ rest)
    (outer inner : Shutdown.Branch) :
    ∃ polls after, (polls = [] ∨ polls = [.process (.poll signal outer inner)]) ∧
      Run (Process.Steps address application) process (polls ++ [.shutdown]) after ∧
      after.phase = .serving signal (axum.shutdown server) := by
  have tracks := Tracks.run laws run
  rw [serving] at tracks
  obtain ⟨-, ⟨future, found⟩, -⟩ := tracks
  have invariant := Shutdown.Invariant.run driverLaws (shutdown_run run)
  have notified : Shutdown.Notified (actions.filterMap Action.event) signal kind := by
    refine ⟨before.filterMap Action.event, .signal signal registers,
      rest.filterMap Action.event, registers, ?_, rfl, registered, ?_⟩
    · rw [history, List.filterMap_append]
      rfl
    · exact List.mem_filterMap.mpr ⟨_, delivered, rfl⟩
  cases future with
  | none =>
      exact ⟨[], _, .inl rfl, .next .start (tellShutdown_of_completed serving found), rfl⟩
  | some unfinished =>
      obtain ⟨world, polled, ended⟩ := invariant.poll_finishes outer inner found
        (.inl ⟨kind, notified⟩) (Option.some_ne_none unfinished)
      have first : process.Steps address application (.process (.poll signal outer inner))
          { process with shutdown := world } := by
        change (process.shutdown.poll signal outer inner).map _ = some _
        rw [polled]
        rfl
      exact ⟨[_], _, .inr rfl,
        .next (.next .start first) (tellShutdown_of_completed serving ended), rfl⟩

end Laws

end Steps

/-- A server that resolves as soon as it is told to stop. -/
def promptServer : AxumServe Listener.loopback Unit where
  Future := Bool
  Label := Unit
  serve _ _ := false
  step network stopping _ := some (network, stopping)
  shutdown _ := true
  result stopping := if stopping then some (.ok ()) else none

theorem promptServer_laws : promptServer.Laws (fun stopping : Bool => stopping = true) where
  serve_running _ _ := Bool.false_ne_true
  step_running := by
    intro state server label after next taken
    cases taken
    exact id
  shutdown_stopping _ := rfl
  ok_stopping := by
    intro server resolved
    cases server with
    | true => rfl
    | false => cases resolved

/-- Started, bound, listening, and interrupted after a step of the server. -/
theorem run_interrupted : ∃ process : Process Shutdown.flagDriver promptServer,
    Run (Process.Steps (.tcp (0 : UInt16)) ())
      (Process.initial ([] : List UInt16) ([] : Shutdown.Flags))
      [.bind, .listen 0 fun _ => true, .serve (), .process (.deliver .interrupt)] process ∧
      process.phase = .serving 0 false := by
  have listening : Run (Process.Steps (.tcp (0 : UInt16)) ())
      (Process.initial ([] : List UInt16) ([] : Shutdown.Flags) :
        Process Shutdown.flagDriver promptServer) _ _ :=
    .next (.next .start (Eq.refl (Process.step _ () _ .bind)))
      (Eq.refl (Process.step _ () _ (.listen 0 fun _ => true)))
  have run := Run.next (.next listening (Eq.refl (Process.step _ () _ (.serve ()))))
    (Eq.refl (Process.step _ () _ (.process (.deliver .interrupt))))
  exact ⟨_, run, rfl⟩

theorem serve_stops_interrupted : ∃ process after : Process Shutdown.flagDriver promptServer,
    ∃ polls, Run (Process.Steps (.tcp (0 : UInt16)) ()) process (polls ++ [.shutdown]) after ∧
      after.phase = .serving 0 true := by
  obtain ⟨process, run, serving⟩ := run_interrupted
  obtain ⟨polls, after, -, stops, told⟩ := serve_stops promptServer_laws Shutdown.flagDriver_laws
    run serving (Eq.refl ([Action.bind] ++ .listen 0 (fun _ => true) :: _)) rfl
    (List.mem_cons_of_mem _ List.mem_cons_self) .first .second
  exact ⟨process, after, polls, stops, told⟩

/-- A run that a signal ends, and one whose port is taken. -/
theorem serve_outcome_interrupted :
    StoppedBySignal ([.bind, .listen 0 fun _ => true, .process (.deliver .interrupt),
      .process (.poll 0 .first .first), .shutdown, .finish] : List (Action promptServer)) ∧
    BindFailed (.tcp (0 : UInt16)) ()
      (Process.initial ([49152] : List UInt16) ([] : Shutdown.Flags) :
        Process Shutdown.flagDriver promptServer) [.bind] (.bindTcp (0 : UInt16) ()) := by
  constructor
  · have listening : Run (Process.Steps (.tcp (0 : UInt16)) ())
        (Process.initial ([] : List UInt16) ([] : Shutdown.Flags) :
          Process Shutdown.flagDriver promptServer) _ _ :=
      .next (.next .start (Eq.refl (Process.step _ () _ .bind)))
        (Eq.refl (Process.step _ () _ (.listen 0 fun _ => true)))
    have polled := Run.next
      (.next listening (Eq.refl (Process.step _ () _ (.process (.deliver .interrupt)))))
      (Eq.refl (Process.step _ () _ (.process (.poll 0 .first .first))))
    have run := Run.next (.next polled (Eq.refl (Process.step _ () _ .shutdown)))
      (Eq.refl (Process.step _ () _ .finish))
    exact (serve_outcome promptServer_laws Shutdown.flagDriver_laws run
      (Eq.refl (Phase.returned (.ok ())))).1
  · have run : Run (Process.Steps (.tcp (0 : UInt16)) ())
        (Process.initial ([49152] : List UInt16) ([] : Shutdown.Flags) :
          Process Shutdown.flagDriver promptServer) _ _ :=
      .next .start (Eq.refl (Process.step _ () _ .bind))
    exact (@serve_outcome _ _ _ _ _ _ _ _ _ _ _ _ _ promptServer_laws Shutdown.flagDriver_laws run
      (.error (.listener (.bindTcp (0 : UInt16) ()))) rfl).2

end Twelve.Server
