import AccessPolicy.Service.Edit

/-!
# Operations on the policy of a resource

Each operation resolves the credentials to use first: those given with the call, else those stored
with the resource, else the default ones. `Handle` is a resource with its stored credentials; its
operations take a role or its name, and identities or member strings. `Admin` has the same
operations for resources given by their full names.
-/

namespace AccessPolicy

namespace World

variable {σ : Type} [Service σ]

/-- Reads the policy of a resource. -/
def getPolicy (w : World σ) (credentials : Option Credentials) (name : String) (version : Value) :
    World σ × Except Failure Policy :=
  match Collection.owning name with
  | .error e => (w, .error e)
  | .ok collection =>
    let w := w.note [Edit.readLine name]
    let (w, reply) := w.send ⟨collection, name, .getPolicy version, credentials⟩
    (w, reply.bind Policy.decode)

/-- Stores a policy for a resource. -/
def setPolicy (w : World σ) (credentials : Option Credentials) (name : String) (policy : Policy) :
    World σ × Except Failure Policy :=
  match Collection.owning name with
  | .error e => (w, .error e)
  | .ok collection =>
    let w := w.note [Edit.writeLine name policy.etag]
    match Edit.fieldsOf policy with
    | .error e => (w, .error e)
    | .ok fields =>
      let (w, reply) := w.send ⟨collection, name, .setPolicy fields, credentials⟩
      (w, reply.bind Policy.decode)

/-- The permissions that a reply names. -/
def permissionsOf : Value → Except Failure (List Value)
  | .map fields => match ((Value.field? "permissions" fields).getD (.list [])).items? with
    | some items => .ok items
    | none => .error .wrongKind
  | _ => .error .noSuchPart

/-- Asks which of some permissions the caller holds. A single text is one permission. -/
def testPermissions (w : World σ) (credentials : Option Credentials) (name : String)
    (permissions : Value) :
    World σ × Except Failure (List Value) :=
  let asked := match permissions with
    | .text s => some [.text s]
    | v => v.items?
  match Collection.owning name, asked with
  | .error e, _ => (w, .error e)
  | .ok _, none => (w, .error .wrongKind)
  | .ok collection, some asked =>
    let (w, reply) := w.send ⟨collection, name, .testPermissions asked, credentials⟩
    (w, reply.bind permissionsOf)

end World

/-- A role as an operation takes it. -/
inductive RoleArgument where
  /-- A role. -/
  | role (r : Role)
  /-- The name of a role. -/
  | named (v : Value)

namespace RoleArgument

/-- The role meant. -/
def resolve : RoleArgument → Except Failure Role
  | role r => .ok r
  | named v => Role.ofValue v

end RoleArgument

/-- An identity as an operation takes it. -/
inductive MemberArgument where
  /-- An identity. -/
  | identity (i : Identity)
  /-- A member string. -/
  | member (v : Value)

namespace MemberArgument

/-- The identity meant. -/
def resolve : MemberArgument → Except Failure Identity
  | identity i => .ok i
  | member v => (Identity.ofValue v).mapError .rejected

/-- The identities meant, in turn. -/
def resolveAll : List MemberArgument → Except Failure (List Identity)
  | [] => .ok []
  | m :: rest => match m.resolve with
    | .error e => .error e
    | .ok i => match resolveAll rest with
      | .error e => .error e
      | .ok is => .ok (i :: is)

end MemberArgument

/-- A resource with the credentials stored for it. -/
structure Handle where
  /-- The resource. -/
  resource : Resource
  /-- The credentials stored with it. -/
  stored : Option Credentials := none

namespace Handle

variable {σ : Type} [Service σ]

/-- Equality of handles: stored credentials make no difference. -/
def same (a b : Handle) : Bool := a.resource.same b.resource

/-- The credentials to use: given ones, else stored ones, else the default ones. -/
def credentials (h : Handle) (w : World σ) (given : Option Credentials) :
    World σ × Except Failure Credentials :=
  match given, h.stored with
  | some c, _ => (w, .ok c)
  | none, some c => (w, .ok c)
  | none, none =>
    (w.note [.defaultCredentials], match w.ambient with
      | some c => .ok c
      | none => .error .noCredentials)

/-- Does work with the credentials to use. -/
def withCredentials {α : Type} (h : Handle) (w : World σ) (given : Option Credentials)
    (work : World σ → Option Credentials → World σ × Except Failure α) :
    World σ × Except Failure α :=
  match h.credentials w given with
  | (w, .error e) => (w, .error e)
  | (w, .ok c) => work w (some c)

/-- Reads the policy. -/
def policy (h : Handle) (w : World σ) (given : Option Credentials) (version : Value) :
    World σ × Except Failure Policy :=
  h.withCredentials w given fun w c => w.getPolicy c h.resource.fullName version

/-- Stores a policy. Its tag, if any, guards against changes since it was read. -/
def replacePolicy (h : Handle) (w : World σ) (given : Option Credentials) (policy : Policy) :
    World σ × Except Failure Policy :=
  h.withCredentials w given fun w c => w.setPolicy c h.resource.fullName policy

/-- Asks which of some permissions the caller holds. -/
def testPermissions (h : Handle) (w : World σ) (given : Option Credentials) (permissions : Value) :
    World σ × Except Failure (List Value) :=
  h.withCredentials w given fun w c => w.testPermissions c h.resource.fullName permissions

/-- Changes the members of a role: reads role and members, then runs the edit. -/
def changeBinding (h : Handle) (w : World σ) (given : Option Credentials) (role : RoleArgument)
    (members : List MemberArgument) (change : Role → List Identity → Change) :
    World σ × Except Failure Policy :=
  if members.isEmpty then (w, .error .wrongKind)
  else match role.resolve with
    | .error e => (w, .error e)
    | .ok r => match MemberArgument.resolveAll members with
      | .error e => (w, .error e)
      | .ok ids =>
        h.withCredentials w given fun w c => w.modify c h.resource.fullName (change r ids)

/-- The change that grants a role. -/
def granting (r : Role) (ids : List Identity) : Change :=
  fun b => b.addIdentity (some r) (ids.map some)

/-- The change that revokes a role. -/
def revoking (r : Role) (ids : List Identity) : Change :=
  fun b => match b.removeIdentity (some r) (ids.map some) with
    | (b, none) => .ok b
    | (_, some e) => .error e

/-- Grants a role to members. -/
def addBinding (h : Handle) (w : World σ) (given : Option Credentials) (role : RoleArgument)
    (members : List MemberArgument) : World σ × Except Failure Policy :=
  h.changeBinding w given role members granting

/-- Revokes a role from members. -/
def removeBinding (h : Handle) (w : World σ) (given : Option Credentials) (role : RoleArgument)
    (members : List MemberArgument) : World σ × Except Failure Policy :=
  h.changeBinding w given role members revoking

/-- The roles that administer an organization. -/
def adminRoles : List String :=
  ["roles/resourcemanager.organizationAdmin", "roles/iam.securityAdmin",
    "roles/resourcemanager.projectIamAdmin"]

/-- Whether a role administers an organization. -/
def isAdminRole (r : Role) : Bool := adminRoles.any fun n => r.name.same (.text n)

/-- The administrative roles of a policy with their member strings, sorted by code point. -/
def adminsOf (p : Policy) : List (Value × List String) :=
  (p.bindings.filter fun e => isAdminRole e.1).map fun e => (e.1.name, Policy.memberStrings e.2)

/-- The administrators of an organization by role. Other resources have none. -/
def admins (h : Handle) (w : World σ) (given : Option Credentials) :
    World σ × Except Failure (List (Value × List String)) :=
  if h.resource.collection = .organizations then
    match h.policy w given .null with
    | (w, .error e) => (w, .error e)
    | (w, .ok p) => (w, .ok (adminsOf p))
  else (w, .error .noSuchPart)

end Handle

namespace Admin

variable {σ : Type} [Service σ]

/-- Does work on the resource of a name, with the given credentials stored. -/
def onName {α : Type} (w : World σ) (name : Value) (given : Option Credentials)
    (work : Handle → World σ × Except Failure α) : World σ × Except Failure α :=
  match Resource.ofValue name with
  | .error e => (w, .error e)
  | .ok r => work ⟨r, given⟩

/-- Reads the policy of a resource. -/
def getPolicy (w : World σ) (name : Value) (given : Option Credentials) (version : Value) :
    World σ × Except Failure Policy :=
  onName w name given fun h => h.policy w none version

/-- Stores a policy for a resource. -/
def setPolicy (w : World σ) (name : Value) (given : Option Credentials) (policy : Policy) :
    World σ × Except Failure Policy :=
  onName w name given fun h => h.replacePolicy w none policy

/-- Asks which of some permissions the caller holds on a resource. -/
def testPermissions (w : World σ) (name : Value) (given : Option Credentials)
    (permissions : Value) :
    World σ × Except Failure (List Value) :=
  onName w name given fun h => h.testPermissions w none permissions

/-- Grants a role on a resource to members, at least one. -/
def addBinding (w : World σ) (name : Value) (given : Option Credentials) (role : RoleArgument)
    (members : List MemberArgument) : World σ × Except Failure Policy :=
  if members.isEmpty then (w, .error .noMembers)
  else onName w name given fun h => h.addBinding w none role members

/-- Revokes a role on a resource from members, at least one. -/
def removeBinding (w : World σ) (name : Value) (given : Option Credentials) (role : RoleArgument)
    (members : List MemberArgument) : World σ × Except Failure Policy :=
  if members.isEmpty then (w, .error .noMembers)
  else onName w name given fun h => h.removeBinding w none role members

end Admin

end AccessPolicy
