import AccessPolicy.Logging
import AccessPolicy.Resource
import AccessPolicy.Service.Store

/-!
# Requests and what comes of them

A `Request` names a collection, a resource, an action and the credentials it is made with. A
`Service` is whatever answers requests; a `Store` is one. A `World` is a service together with the
default credentials, and the trace of all that was done: requests made, log lines, waits, and
look-ups of the default credentials. `World.send` makes a request: it enters the trace before the
service answers.
-/

namespace AccessPolicy

/-- Credentials, known by a label. -/
abbrev Credentials := String

/-- What a request asks for. -/
inductive Action where
  /-- The policy of the resource, in the form of a version if one is given. -/
  | getPolicy (version : Value)
  /-- To store a policy with the given document. -/
  | setPolicy (fields : List (Value × Value))
  /-- Which of some permissions the caller holds. -/
  | testPermissions (permissions : List Value)

namespace Action

/-- The method of an action. -/
def method : Action → String
  | getPolicy _ => "getIamPolicy"
  | setPolicy _ => "setIamPolicy"
  | testPermissions _ => "testIamPermissions"

/-- The body of a request for an action. -/
def body : Action → Value
  | getPolicy version =>
    if version.isNull then .ofFields []
    else .ofFields [("options", .ofFields [("requestedPolicyVersion", version)])]
  | setPolicy fields => .ofFields [("policy", .map fields)]
  | testPermissions permissions => .ofFields [("permissions", .list permissions)]

end Action

/-- A request to the service. -/
structure Request where
  /-- The collection asked. -/
  collection : Collection
  /-- The full name of the resource. -/
  resource : String
  /-- What is asked for. -/
  action : Action
  /-- The credentials used, if any. -/
  credentials : Option Credentials

/-- One thing that was done. -/
inductive Event where
  /-- A request was sent. -/
  | request (r : Request)
  /-- A line was logged. -/
  | log (level : Level) (text : String)
  /-- The work paused for some seconds. -/
  | wait (seconds : Nat)
  /-- The default credentials were looked up. -/
  | defaultCredentials

/-- What answers requests. -/
class Service (σ : Type) where
  /-- Processes a request: the state after it, and the reply. -/
  answer : σ → Request → σ × Except Failure Value

namespace Store

/-- Processes a request. -/
def answer (s : Store) (r : Request) : Store × Except Failure Value :=
  match r.action with
  | .getPolicy _ => s.read r.resource
  | .setPolicy fields => s.write r.resource fields
  | .testPermissions permissions => s.test permissions

instance : Service Store := ⟨answer⟩

end Store

/-- A service with all that was done to it. -/
structure World (σ : Type) where
  /-- The service. -/
  service : σ
  /-- The default credentials, if there are any. -/
  ambient : Option Credentials := none
  /-- What was done, in order. -/
  trace : List Event := []

namespace World

variable {σ : Type}

/-- Notes things done. -/
def note (w : World σ) (events : List Event) : World σ := { w with trace := w.trace ++ events }

/-- Makes a request. -/
def send [Service σ] (w : World σ) (r : Request) : World σ × Except Failure Value :=
  let (service, reply) := Service.answer w.service r
  ({ w with service := service, trace := w.trace ++ [.request r] }, reply)

end World

end AccessPolicy
