import AccessPolicy.Failure
import AccessPolicy.Text.Line

/-!
# Resources

Projects, folders and organizations carry a policy and are addressed by a full name: the word of
their collection, a slash and an id. `Resource.ofName` reads a full name, slashes around it allowed;
`Collection.owning` finds the collection that a request for a name goes to by how the name starts.
The id of a resource that was not read from a name may be any value, and is named by its text.
-/

namespace AccessPolicy

/-- The collections of resources that carry a policy. -/
inductive Collection where
  /-- Projects. -/
  | projects
  /-- Folders. -/
  | folders
  /-- Organizations. -/
  | organizations
deriving DecidableEq, Repr, Inhabited

namespace Collection

/-- All collections. -/
def all : List Collection := [projects, folders, organizations]

/-- The word of a collection. -/
def word : Collection → String
  | projects => "projects"
  | folders => "folders"
  | organizations => "organizations"

/-- The name of one resource of a collection. -/
def single : Collection → String
  | projects => "Project"
  | folders => "Folder"
  | organizations => "Organization"

/-- The collection of a word. -/
def ofWord? (s : String) : Option Collection := all.find? (·.word == s)

/-- The collection that a request for a resource name goes to. -/
def owning (name : String) : Except Failure Collection :=
  match all.find? fun c => (c.word ++ "/").toList.isPrefixOf name.toList with
  | some c => .ok c
  | none => .error (.unsupportedResource name)

end Collection

/-- A resource that carries a policy. -/
structure Resource where
  /-- The collection it belongs to. -/
  collection : Collection
  /-- Its id within the collection. -/
  id : Value
deriving Repr, Inhabited

namespace Resource

/-- The full name of a resource. -/
def fullName (r : Resource) : String := r.collection.word ++ "/" ++ r.id.plain

/-- Whether two resources are equal: of the same collection and with the same id. -/
def same (a b : Resource) : Bool := a.collection == b.collection && a.id.same b.id

/-- Reads a full resource name. Slashes around it are ignored; the id has none. -/
def ofName (name : String) : Except Failure Resource :=
  let cs := Text.trim (· == '/') name.toList
  let id := (cs.dropWhile (· ≠ '/')).drop 1
  match Collection.ofWord? (String.ofList (cs.takeWhile (· ≠ '/'))) with
  | some c =>
    if id.isEmpty ∨ '/' ∈ id then .error (.unsupportedResource name)
    else .ok ⟨c, .text (String.ofList id)⟩
  | none => .error (.unsupportedResource name)

/-- Reads a full resource name, which has to be a text. -/
def ofValue : Value → Except Failure Resource
  | .text name => ofName name
  | _ => .error .noSuchPart

/-- The text of a resource as messages show it. -/
def term (r : Resource) : String := r.collection.single ++ "(id=" ++ r.id.term ++ ")"

end Resource

end AccessPolicy
