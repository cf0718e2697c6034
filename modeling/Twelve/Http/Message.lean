import Twelve.Http.Headers

/-! Requests, responses and services. Awaiting the rest of a middleware stack is
the application of the inner service to the forwarded request. -/

set_option autoImplicit false

namespace Twelve

inductive Method where
  | options | get | post | put | delete | head | trace | connect | patch
  | extension (name : Str)
  deriving DecidableEq

structure StatusCode where
  code : Nat
  inRange : 100 ≤ code ∧ code < 1000
  deriving DecidableEq

namespace StatusCode

def ok : StatusCode := ⟨200, by decide⟩
def seeOther : StatusCode := ⟨303, by decide⟩
def notModified : StatusCode := ⟨304, by decide⟩
def badRequest : StatusCode := ⟨400, by decide⟩
def notFound : StatusCode := ⟨404, by decide⟩
def methodNotAllowed : StatusCode := ⟨405, by decide⟩
def preconditionFailed : StatusCode := ⟨412, by decide⟩
def internalServerError : StatusCode := ⟨500, by decide⟩
def badGateway : StatusCode := ⟨502, by decide⟩

def isSuccess (status : StatusCode) : Bool := 200 ≤ status.code && status.code < 300

theorem notModified_of_isSuccess {status : StatusCode} (success : status.isSuccess = true) :
    status ≠ notModified := by
  intro same
  subst same
  cases success

end StatusCode

structure Target where
  path : Str
  query : Option Str
  deriving DecidableEq

@[ext] structure Request (Body : Type) where
  method : Method
  uri : Target
  headers : HeaderMap
  body : Body

@[ext] structure Response (Body : Type) where
  status : StatusCode
  headers : HeaderMap
  body : Body

abbrev Service (Body Reply : Type) := Request Body → Response Reply

/-- An unrecoverable failure of the running thread, with its message. -/
structure Panic where
  message : String
  deriving DecidableEq

def expect {α : Type} (value : Option α) (message : String) : Except Panic α :=
  match value with
  | some found => .ok found
  | none => .error ⟨message⟩

end Twelve
