import AccessPolicy.Service.Request

/-!
# Read-modify-write

An `Edit` changes the policy of a resource: it reads the policy, changes it, and writes it back with
the tag it read, so that the write is refused if the policy changed in between. A refusal is
followed by a new attempt from a fresh read, five in all, with waits of 1, 2, 4 and 8 seconds.

Between two requests an edit is in a `Phase`. `Phase.action?` is the request that is due,
`Phase.receive` goes on from its reply; so several edits can be interleaved on one store.
`World.modify` runs one edit to its end.
-/

namespace AccessPolicy

/-- A change of a policy in the making. -/
abbrev Change := Builder → Except Failure Builder

namespace Failure

/-- Whether a failure tells that the policy changed since it was read. -/
def isConflict : Failure → Bool
  | service status _ => status = 409 || status = 412
  | _ => false

end Failure

namespace Edit

/-- The greatest number of attempts. -/
def maxAttempts : Nat := 5

/-- Where an edit stands between two requests. -/
inductive Phase where
  /-- About to read, in a given attempt. -/
  | reading (attempt : Nat)
  /-- About to write a document with the given fields, in a given attempt. -/
  | writing (attempt : Nat) (fields : List (Value × Value))
  /-- At its end. -/
  | finished (outcome : Except Failure Policy)

/-- The line logged before a read. -/
def readLine (name : String) : Event := .log .debug ("getIamPolicy " ++ name)

/-- The line logged before a write. -/
def writeLine (name : String) (etag : Value) : Event :=
  .log .debug ("setIamPolicy " ++ name ++ " (etag=" ++ etag.plain ++ ")")

/-- The line logged when there is nothing to write. -/
def unchangedLine (name : String) : Event :=
  .log .debug ("IAM policy for " ++ name ++ " unchanged; skipping write")

/-- The wait after a failed attempt, in seconds. -/
def waitAfter (attempt : Nat) : Nat := Nat.pow 2 (attempt - 1)

/-- The line logged before a wait. -/
def retryLine (attempt : Nat) : Event :=
  .log .info ("IAM policy changed concurrently; retrying in " ++ toString (waitAfter attempt)
    ++ ".0s (attempt " ++ toString attempt ++ ")")

/-- What follows a failed attempt: another one after a conflict while attempts are left. -/
def afterFailure (name : String) (attempt : Nat) (e : Failure) : Phase × List Event :=
  if e.isConflict && attempt < maxAttempts then
    (.reading (attempt + 1), [retryLine attempt, .wait (waitAfter attempt), readLine name])
  else (.finished (.error e), [])

/-- The policy that a change makes of another. -/
def changed (change : Change) (current : Policy) : Except Failure Policy :=
  match current.toBuilder with
  | .error e => .error e
  | .ok b => match change b with
    | .error e => .error e
    | .ok b => .ok b.build

/-- The fields of the document of a policy. -/
def fieldsOf (p : Policy) : Except Failure (List (Value × Value)) :=
  match p.encode with
  | .error e => .error e
  | .ok (.map fields) => .ok fields
  | .ok _ => .error .wrongKind

namespace Phase

/-- What goes on after a policy was read. -/
def afterRead (change : Change) (name : String) (attempt : Nat) (current : Policy) :
    Phase × List Event :=
  match changed change current with
  | .error e => afterFailure name attempt e
  | .ok updated =>
    if updated.same current then (.finished (.ok current), [unchangedLine name])
    else match fieldsOf updated with
      | .error e => (.finished (.error e), [writeLine name updated.etag])
      | .ok fields => (.writing attempt fields, [writeLine name updated.etag])

/-- What is asked for next; nothing at the end. -/
def action? : Phase → Option Action
  | reading _ => some (.getPolicy .null)
  | writing _ fields => some (.setPolicy fields)
  | finished _ => none

/-- Goes on from the reply to the request that was due. -/
def receive (change : Change) (name : String) (phase : Phase) (reply : Except Failure Value) :
    Phase × List Event :=
  match phase with
  | finished outcome => (finished outcome, [])
  | reading attempt => match reply.bind Policy.decode with
    | .error e => afterFailure name attempt e
    | .ok current => afterRead change name attempt current
  | writing attempt _ => match reply.bind Policy.decode with
    | .error e => afterFailure name attempt e
    | .ok stored => (.finished (.ok stored), [])

end Phase

/-- An edit of one resource. -/
structure Call where
  /-- The collection that the resource belongs to. -/
  collection : Collection
  /-- The full name of the resource. -/
  name : String
  /-- The credentials used for all requests. -/
  credentials : Option Credentials
  /-- The change to make. -/
  change : Change

variable {σ : Type} [Service σ]

/-- Makes the request that is due, and goes on from its reply. -/
def Call.step (call : Call) (w : World σ) (phase : Phase) : World σ × Phase :=
  match phase.action? with
  | none => (w, phase)
  | some action =>
    let (w, reply) := w.send ⟨call.collection, call.name, action, call.credentials⟩
    let (phase, events) := phase.receive call.change call.name reply
    (w.note events, phase)

/-- Makes at most `n` requests. -/
def Call.steps (call : Call) : Nat → World σ → Phase → World σ × Phase
  | 0, w, phase => (w, phase)
  | n + 1, w, phase =>
    let (w, phase) := call.step w phase
    call.steps n w phase

/-- The outcome of an edit that made all its requests. -/
def Phase.outcome : Phase → Except Failure Policy
  | .finished outcome => outcome
  | _ => .error .wrongKind

end Edit

/-- Changes the policy of a resource by reading it, changing it and writing it back. -/
def World.modify {σ : Type} [Service σ] (w : World σ) (credentials : Option Credentials)
    (name : String) (change : Change) :
    World σ × Except Failure Policy :=
  match Collection.owning name with
  | .error e => (w, .error e)
  | .ok collection =>
    let call : Edit.Call := ⟨collection, name, credentials, change⟩
    let (w, phase) :=
      call.steps (2 * Edit.maxAttempts) (w.note [Edit.readLine name]) (.reading 1)
    (w, phase.outcome)

end AccessPolicy
