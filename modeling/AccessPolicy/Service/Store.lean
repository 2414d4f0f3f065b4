import AccessPolicy.Policy.Document
import AccessPolicy.Text.Digit
import AccessPolicy.Text.Line

/-!
# The policy store

A `Store` is the state of a policy service: a document for each resource, the permissions that are
granted, and what is about to happen to it from outside. Every stored document gets an entity tag
never issued before; a write that carries another tag than the stored one is refused.

* `Store.read`, `Store.write` and `Store.test` process one request each;
* `Store.edit` is a change by someone else, which may slip in just before a write.
-/

namespace AccessPolicy

/-- What can befall a request on its way. -/
inductive Fault where
  /-- The service answers with an error. -/
  | answer (status : Int) (reason : String)
  /-- The user interrupts the wait for the answer. -/
  | interrupt
deriving Repr, DecidableEq

namespace Fault

/-- The failure that a fault makes of a request. -/
def failure : Fault → Failure
  | answer status reason => .service status (String.ofList (Text.trim Text.isBlank reason.toList))
  | interrupt => .interrupted

end Fault

/-- The state of a policy service. -/
structure Store where
  /-- The document of each resource, in the order of their first use. -/
  documents : List (String × Value) := []
  /-- How many entity tags have been issued. -/
  issued : Nat := 0
  /-- The permissions that are granted. -/
  granted : List Value := []
  /-- Changes by others: a resource and the binding it gets. The first one happens just before the
  next write. -/
  edits : List (String × Value) := []
  /-- What befalls the next reads. -/
  readFaults : List (Option Fault) := []
  /-- What befalls the next writes. -/
  writeFaults : List (Option Fault) := []
  /-- The answer to every accepted write, if it is not what was stored. -/
  writeAnswer : Option Value := none
  /-- The answer to every permission test, if it is fixed. -/
  testAnswer : Option Value := none

namespace Store

/-- The document of a resource, if it has one. -/
def document? (s : Store) (name : String) : Option Value :=
  (s.documents.find? fun e => e.1 = name).map (·.2)

/-- The document of a resource that has none yet. -/
def fresh : Value := .ofFields [("version", .int 1), ("etag", .text "etag-0")]

/-- Replaces an entry under a name, or appends one. -/
def putDocument (name : String) (document : Value) : List (String × Value) → List (String × Value)
  | [] => [(name, document)]
  | e :: rest =>
    if e.1 = name then (name, document) :: rest else e :: putDocument name document rest

/-- Sets the document of a resource. -/
def setDocument (s : Store) (name : String) (document : Value) : Store :=
  { s with documents := putDocument name document s.documents }

/-- The document that was set is there. -/
@[simp] theorem document?_setDocument_self (s : Store) (name : String) (document : Value) :
    (s.setDocument name document).document? name = some document := by
  simp only [document?, setDocument]
  induction s.documents with
  | nil => simp [putDocument]
  | cons x rest ih =>
    rw [putDocument]
    split
    · simp
    · next other => simpa [List.find?_cons, other] using ih

/-- Documents of other resources stay. -/
theorem document?_setDocument_of_ne (s : Store) {name other : String} (h : other ≠ name)
    (document : Value) : (s.setDocument name document).document? other = s.document? other := by
  simp only [document?, setDocument]
  induction s.documents with
  | nil => simp [putDocument, Ne.symm h]
  | cons x rest ih =>
    rw [putDocument]
    split
    · next same => simp [same, Ne.symm h]
    · simp only [List.find?_cons]
      split
      · rfl
      · exact ih

/-- Gives a resource its first document unless it has one. -/
def touch (s : Store) (name : String) : Store :=
  match s.document? name with
  | some _ => s
  | none => s.setDocument name fresh

/-- The document of a resource, or its first one. -/
def current (s : Store) (name : String) : Value := (s.document? name).getD fresh

/-- The next entity tag. -/
def nextEtag (s : Store) : Value := .text ("etag-" ++ toString (s.issued + 1))

/-- The entity tag of a document; null for a document without one. -/
def etagOf : Value → Value
  | .map fields => Value.field "etag" fields
  | _ => .null

/-- The number of an entity tag of the form in which they are issued. -/
def tagNumber? (etag : Value) : Option Nat :=
  match etag with
  | .text t => if t.startsWith "etag-" then ((t.drop 5).toString).toNat? else none
  | _ => none

/-- A store with some documents, which issues none of their entity tags again. -/
def ofDocuments (documents : List (String × Value)) : Store :=
  { documents, issued := (documents.filterMap fun e => tagNumber? (etagOf e.2)).foldl max 0 }

/-- Takes the next fault of a list. -/
def takeFault : List (Option Fault) → Option Fault × List (Option Fault)
  | [] => (none, [])
  | f :: rest => (f, rest)

/-- Processes a read. -/
def read (s : Store) (name : String) : Store × Except Failure Value :=
  let (fault, rest) := takeFault s.readFaults
  let s := { s with readFaults := rest }
  match fault with
  | some f => (s, .error f.failure)
  | none => (s.touch name, .ok (s.current name))

/-- The fields of a document after someone else added a binding to it. -/
def withBinding (binding : Value) (etag : Value) (fields : List (Value × Value)) :
    Except Failure (List (Value × Value)) :=
  match Value.field? "bindings" fields with
  | none => .ok (Value.putField "etag" etag (Value.putField "bindings" (.list [binding]) fields))
  | some (.list bs) =>
    .ok (Value.putField "etag" etag (Value.putField "bindings" (.list (bs ++ [binding])) fields))
  | some _ => .error .noSuchPart

/-- A change by someone else: a binding is added to a resource, and its document gets a new tag. -/
def edit (s : Store) (name : String) (binding : Value) : Store × Except Failure Unit :=
  let s := s.touch name
  match s.current name with
  | .map fields => match withBinding binding s.nextEtag fields with
    | .ok fields => ({ s.setDocument name (.map fields) with issued := s.issued + 1 }, .ok ())
    | .error e => (s, .error e)
  | _ => (s, .error .noSuchPart)

/-- Lets the next change by someone else happen, if there is one. -/
def takeEdit (s : Store) : Store × Except Failure Unit :=
  match s.edits with
  | [] => (s, .ok ())
  | (name, binding) :: rest => { s with edits := rest }.edit name binding

/-- The refusal of a write that carries another tag than the stored one. -/
def conflict : Failure := .service 409 "There were concurrent policy changes."

/-- Whether a document carries a tag that is not the given one. -/
def carriesOther (etag : Value) (fields : List (Value × Value)) : Bool :=
  match Value.field? "etag" fields with
  | none => false
  | some e => !Policy.sameField e etag

/-- Stores a document under a new tag. -/
def accept (s : Store) (name : String) (fields : List (Value × Value)) : Store × Value :=
  let stored := Value.map (Value.putField "etag" s.nextEtag fields)
  ({ s.setDocument name stored with issued := s.issued + 1 }, stored)

/-- Processes a write of a document with the given fields. -/
def write (s : Store) (name : String) (fields : List (Value × Value)) :
    Store × Except Failure Value :=
  let (fault, rest) := takeFault s.writeFaults
  let s := { s with writeFaults := rest }
  match fault with
  | some f => (s, .error f.failure)
  | none => match s.takeEdit with
    | (s, .error e) => (s, .error e)
    | (s, .ok ()) =>
      let s := s.touch name
      if carriesOther (etagOf (s.current name)) fields then (s, .error conflict)
      else
        let (s, stored) := s.accept name fields
        (s, .ok (s.writeAnswer.getD stored))

/-- Processes a test of permissions: those of them that are granted. -/
def test (s : Store) (permissions : List Value) : Store × Except Failure Value :=
  let (fault, rest) := takeFault s.readFaults
  let s := { s with readFaults := rest }
  match fault with
  | some f => (s, .error f.failure)
  | none =>
    let held := permissions.filter fun p => s.granted.any (Policy.sameField p)
    let answer := if held.isEmpty then .ofFields [] else .ofFields [("permissions", .list held)]
    (s, .ok (s.testAnswer.getD answer))

end Store

end AccessPolicy
