import AccessPolicy.Failure

/-!
# Roles

A role is known by its name alone: title and description are carried along but make no difference
to equality. `Role.ofValue` reads a role from its name, and puts `roles/` before a bare one.
-/

namespace AccessPolicy

/-- A role. -/
structure Role where
  /-- The full name, such as `roles/viewer`. -/
  name : Value
  /-- A title to show. -/
  title : Value := .text ""
  /-- What the role grants. -/
  description : Value := .text ""
deriving Repr, Inhabited

namespace Role

/-- What stands before the name of a role that belongs to no project or organization. -/
def collection : String := "roles/"

/-- The full name of a role: a bare name gets `roles/` before it. -/
def fullName (name : String) : String :=
  if '/' ∈ name.toList then name else collection ++ name

/-- Whether a value contains a slash: as a character of a text, an item of a list or set, or a key
of a map. `none` for values that contain nothing. -/
def containsSlash : Value → Option Bool
  | .text s => some ('/' ∈ s.toList)
  | .list items | .set items => some (items.any (Value.same (.text "/")))
  | .map entries => some (entries.any fun e => Value.same (.text "/") e.1)
  | .pair a b => some (Value.same (.text "/") a || Value.same (.text "/") b)
  | _ => none

/-- The role of a name. Only texts can be bare: another value that contains no slash is refused. -/
def ofValue (v : Value) : Except Failure Role :=
  match v with
  | .null => .error (.rejected .nullRole)
  | .text s => .ok { name := .text (fullName s) }
  | v => if containsSlash v.opened = some true then .ok { name := v } else .error .wrongKind

/-- The basic role of full control. -/
def owner : Role := { name := .text (fullName "owner") }

/-- The basic role of changing resources. -/
def editor : Role := { name := .text (fullName "editor") }

/-- The basic role of reading. -/
def viewer : Role := { name := .text (fullName "viewer") }

/-- Whether two roles are equal: whether they have the same name. -/
def same (a b : Role) : Bool := a.name.same b.name

/-- Whether a role may be a key. -/
def hashable (r : Role) : Bool := r.name.hashable

/-- The text of a role as messages show it. -/
def term (r : Role) : String :=
  "Role(name=" ++ r.name.term ++ ", title=" ++ r.title.term ++ ", description="
    ++ r.description.term ++ ")"

/-- A role whose name contains a slash, as all names that requests use do. -/
def Full (r : Role) : Prop := ∃ s : String, r.name = .text s ∧ '/' ∈ s.toList

theorem slash_mem_fullName (s : String) : '/' ∈ (fullName s).toList := by
  unfold fullName
  split
  · assumption
  · simp [collection]

/-- A full name is its own full name. -/
theorem fullName_of_mem {s : String} (h : '/' ∈ s.toList) : fullName s = s := by
  simp [fullName, h]

end Role

end AccessPolicy
