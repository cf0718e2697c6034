import Twelve.Library.Runs

/-!
# Acceptors

An acceptor hands out streams with the endpoints they come from, and answers calls
on the streams it handed out. A wrapper of streams and endpoints that otherwise
passes accepts and calls on has the runs of what it wraps, and no others.
-/

set_option autoImplicit false

namespace Twelve

structure Acceptor (State Stream Endpoint Request : Type*) (Reply : Request → Type*) where
  accept : State → State × Option (Stream × Endpoint)
  call : (request : Request) → State → Stream → State × Reply request

namespace Acceptor

variable {State Stream Endpoint Request : Type*} {Reply : Request → Type*}

/-- An accept with the endpoint it found, a call on one of the accepted streams, or
anything else that happens to the state in between. -/
inductive Label (Endpoint : Type*) {Request : Type*} (Reply : Request → Type*) where
  | accept (found : Option Endpoint)
  | call (index : Nat) (request : Request) (reply : Reply request)
  | other

inductive Step (acceptor : Acceptor State Stream Endpoint Request Reply) :
    State × List Stream → Label Endpoint Reply → State × List Stream → Prop
  | pending {state after : State} {streams : List Stream}
      (polled : acceptor.accept state = (after, none)) :
      Step acceptor (state, streams) (.accept none) (after, streams)
  | accepted {state after : State} {streams : List Stream} {stream : Stream} {endpoint : Endpoint}
      (polled : acceptor.accept state = (after, some (stream, endpoint))) :
      Step acceptor (state, streams) (.accept (some endpoint)) (after, streams ++ [stream])
  | called {state after : State} {streams : List Stream} {index : Nat} {stream : Stream}
      {request : Request} {reply : Reply request} (opened : streams[index]? = some stream)
      (answered : acceptor.call request state stream = (after, reply)) :
      Step acceptor (state, streams) (.call index request reply) (after, streams)
  | other {state after : State} {streams : List Stream} :
      Step acceptor (state, streams) .other (after, streams)

section Wrapping

variable {Outer OuterEndpoint : Type*} {inner : Acceptor State Stream Endpoint Request Reply}
  {outer : Acceptor State Outer OuterEndpoint Request Reply} {asOuter : Stream → Outer}
  {asEndpoint : Endpoint → OuterEndpoint}

structure Wraps (inner : Acceptor State Stream Endpoint Request Reply)
    (outer : Acceptor State Outer OuterEndpoint Request Reply) (asOuter : Stream → Outer)
    (asEndpoint : Endpoint → OuterEndpoint) : Prop where
  accept : ∀ state, outer.accept state =
    ((inner.accept state).1, (inner.accept state).2.map (Prod.map asOuter asEndpoint))
  call : ∀ request state stream,
    outer.call request state (asOuter stream) = inner.call request state stream

def Label.wrap (asEndpoint : Endpoint → OuterEndpoint) :
    Label Endpoint Reply → Label OuterEndpoint Reply
  | .accept found => .accept (found.map asEndpoint)
  | .call index request reply => .call index request reply
  | .other => .other

def wrapState (asOuter : Stream → Outer) (state : State × List Stream) : State × List Outer :=
  (state.1, state.2.map asOuter)

variable (wraps : Wraps inner outer asOuter asEndpoint)
include wraps

theorem Step.wrap {state after : State × List Stream} {label : Label Endpoint Reply}
    (taken : Step inner state label after) :
    Step outer (wrapState asOuter state) (label.wrap asEndpoint) (wrapState asOuter after) := by
  cases taken with
  | pending polled =>
      refine .pending ?_
      rw [wraps.accept, polled]
      rfl
  | @accepted state after streams stream endpoint polled =>
      have appended : wrapState asOuter (after, streams ++ [stream]) =
          (after, streams.map asOuter ++ [asOuter stream]) := by
        simp [wrapState]
      rw [appended]
      refine .accepted ?_
      rw [wraps.accept, polled]
      rfl
  | called opened answered =>
      refine .called (List.getElem?_map.trans (congrArg (Option.map asOuter) opened)) ?_
      rw [wraps.call, answered]
  | other => exact .other

private theorem Step.unwrap {state : State} {streams : List Stream} {after : State × List Outer}
    {label : Label OuterEndpoint Reply}
    (taken : Step outer (state, streams.map asOuter) label after) :
    ∃ own middle, label = Label.wrap asEndpoint own ∧ after = wrapState asOuter middle ∧
      Step inner (state, streams) own middle := by
  cases taken with
  | pending polled =>
      rw [wraps.accept] at polled
      obtain ⟨moved, found⟩ := Prod.mk.inj polled
      have waits := Option.map_eq_none_iff.mp found
      exact ⟨.accept none, (_, streams), rfl, rfl, .pending (Prod.ext moved waits)⟩
  | accepted polled =>
      rw [wraps.accept] at polled
      obtain ⟨moved, found⟩ := Prod.mk.inj polled
      obtain ⟨⟨stream, endpoint⟩, accepted, same⟩ := Option.map_eq_some_iff.mp found
      cases same
      exact ⟨.accept (some endpoint), (_, streams ++ [stream]), rfl, by simp [wrapState],
        .accepted (Prod.ext moved accepted)⟩
  | @called _ after _ index stream request reply opened answered =>
      obtain ⟨own, found, rfl⟩ := Option.map_eq_some_iff.mp (List.getElem?_map.symm.trans opened)
      rw [wraps.call] at answered
      exact ⟨.call index request reply, (after, streams), rfl, rfl, .called found answered⟩
  | @other _ after _ => exact ⟨.other, (after, streams), rfl, rfl, .other⟩

/-- The wrapper has exactly the wrapped runs. -/
theorem run_wrap_iff {start : State} {labels : List (Label OuterEndpoint Reply)}
    {after : State × List Outer} :
    Run (Step outer) (start, []) labels after ↔
      ∃ own middle, labels = own.map (Label.wrap asEndpoint) ∧ after = wrapState asOuter middle ∧
        Run (Step inner) (start, []) own middle := by
  constructor
  · intro run
    induction run with
    | start => exact ⟨[], (start, []), rfl, rfl, .start⟩
    | next _ taken ih =>
        obtain ⟨own, ⟨state, streams⟩, rfl, rfl, run⟩ := ih
        obtain ⟨label, middle, rfl, rfl, step⟩ := taken.unwrap wraps
        exact ⟨own ++ [label], middle, by simp, rfl, .next run step⟩
  · intro found
    obtain ⟨own, middle, rfl, rfl, run⟩ := found
    induction run with
    | start => exact .start
    | next _ taken ih =>
        rw [List.map_append]
        exact .next ih (taken.wrap wraps)

end Wrapping

end Acceptor

end Twelve
