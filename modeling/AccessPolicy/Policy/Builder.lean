import AccessPolicy.Policy.Basic

/-!
# Building policies

A `Builder` accumulates a policy call by call. Arguments come as callers give them: roles and
identities may be missing, and a set of identities may be a supply that is read item by item and may
fail on the way. `Builder.addIdentity` and `Builder.setBindings` check all they are given before
they change anything.

* `Supply.collect` reads a supply into members;
* `Builder.Call` and `Builder.apply` are the calls as data, and their effect with their outcome;
* `Builder.build` and `Policy.toBuilder` go to and fro between builders and policies.
-/

namespace AccessPolicy

/-- A set of identities as a caller gives it: items read in turn, each of which may be missing or
fail to be read. -/
abbrev Supply := List (Except Failure (Option Identity))

namespace Supply

/-- The supply of given identities. -/
def ofMembers (ms : Members) : Supply := ms.map fun i => .ok (some i)

/-- Reads a supply to its end. Whether an identity was missing is told apart from what was read.
The first item that fails, or that cannot be an element of a set, ends the reading. -/
def read : Supply → Members → Bool → Except Failure (Members × Bool)
  | [], ms, missing => .ok (ms, missing)
  | .error e :: _, _, _ => .error e
  | .ok none :: rest, ms, _ => read rest ms true
  | .ok (some i) :: rest, ms, missing =>
    if i.hashable then read rest (ms.insert i) missing else .error .wrongKind

/-- The members that a supply gives, unless an identity is missing. -/
def collect (s : Supply) : Except Failure Members :=
  match s.read [] false with
  | .error e => .error e
  | .ok (_, true) => .error (.rejected .nullIdentity)
  | .ok (ms, false) => .ok ms

end Supply

/-- Bindings as a caller gives them. -/
abbrev Grants := List (Option Role × Option Supply)

/-- A policy in the making. -/
structure Builder where
  /-- The family of the policy. -/
  family : Family := .roles
  /-- The bindings so far. -/
  bindings : Bindings := []
  /-- The entity tag so far. -/
  etag : Value := .null
  /-- The version so far. -/
  version : Value := .null
deriving Inhabited

namespace Builder

/-- The bindings that a caller's bindings make, onto those read so far. Roles without identities are
left out. -/
def readGrants : Grants → Bindings → Except Failure Bindings
  | [], bs => .ok bs
  | (none, _) :: _, _ => .error (.rejected .nullRole)
  | (some _, none) :: _, _ => .error (.rejected .nullIdentitySet)
  | (some r, some s) :: rest, bs =>
    match s.collect with
    | .error e => .error e
    | .ok [] => readGrants rest bs
    | .ok (i :: ms) =>
      if r.hashable then readGrants rest (bs.put r (i :: ms)) else .error .wrongKind

/-- Replaces all bindings. -/
def setBindings (b : Builder) (grants : Option Grants) : Except Failure Builder :=
  match grants with
  | none => .error (.rejected .nullBindings)
  | some gs => match readGrants gs [] with
    | .error e => .error e
    | .ok bs => .ok { b with bindings := bs }

/-- Grants a role to one or more identities. -/
def addIdentity (b : Builder) (role : Option Role) (ids : List (Option Identity)) :
    Except Failure Builder :=
  if ids.isEmpty then .error .wrongKind
  else match role with
    | none => .error (.rejected .nullRole)
    | some r => match Supply.collect (ids.map .ok) with
      | .error e => .error e
      | .ok ms =>
        if r.hashable then .ok { b with bindings := b.bindings.grant r ms } else .error .wrongKind

/-- Removes identities from members in turn. One that cannot be an element of a set ends the work:
those before it are gone. -/
def withdraw : Members → List (Option Identity) → Members × Option Failure
  | ms, [] => (ms, none)
  | ms, none :: rest => withdraw ms rest
  | ms, some i :: rest => if i.hashable then withdraw (ms.erase i) rest else (ms, some .wrongKind)

/-- Revokes a role from one or more identities. A role without members goes. -/
def removeIdentity (b : Builder) (role : Option Role) (ids : List (Option Identity)) :
    Builder × Option Failure :=
  if ids.isEmpty then (b, some .wrongKind)
  else match role with
    | none => (b, none)
    | some r =>
      if !r.hashable then (b, some .wrongKind)
      else match b.bindings.find? r with
        | none => (b, none)
        | some ms => match withdraw ms ids with
          | (rest, some e) => ({ b with bindings := b.bindings.put r rest }, some e)
          | ([], none) => ({ b with bindings := b.bindings.erase r }, none)
          | (i :: rest, none) => ({ b with bindings := b.bindings.put r (i :: rest) }, none)

/-- Removes a role with all its members. A role that cannot be a key is refused, unless there is
nothing to look it up in. -/
def removeRole (b : Builder) (role : Option Role) : Except Failure Builder :=
  match role with
  | none => .ok b
  | some r =>
    if b.bindings.isEmpty then .ok b
    else if r.hashable then .ok { b with bindings := b.bindings.erase r } else .error .wrongKind

/-- Sets the entity tag. -/
def setEtag (b : Builder) (etag : Value) : Builder := { b with etag := etag }

/-- Sets the version. -/
def setVersion (b : Builder) (version : Value) : Builder := { b with version := version }

/-- A builder of a family that starts with given bindings, if any. -/
def make (family : Family) (grants : Option Grants) (etag version : Value) :
    Except Failure Builder :=
  let b : Builder := { family := family, etag := etag, version := version }
  match grants with
  | none => .ok b
  | some gs => b.setBindings (some gs)

/-- The policy that a builder stands for. -/
def build (b : Builder) : Policy := ⟨b.family, b.bindings, b.etag, b.version⟩

/-- The calls that change a builder. -/
inductive Call where
  /-- Grants a role to identities. -/
  | addIdentity (role : Option Role) (ids : List (Option Identity))
  /-- Revokes a role from identities. -/
  | removeIdentity (role : Option Role) (ids : List (Option Identity))
  /-- Removes a role. -/
  | removeRole (role : Option Role)
  /-- Replaces all bindings. -/
  | setBindings (grants : Option Grants)
  /-- Sets the entity tag. -/
  | setEtag (etag : Value)
  /-- Sets the version. -/
  | setVersion (version : Value)

/-- The builder after a change that happens as a whole or not at all. -/
def settle (b : Builder) : Except Failure Builder → Builder × Option Failure
  | .ok b' => (b', none)
  | .error e => (b, some e)

/-- The builder after a call, and the failure that ended the call, if any. -/
def apply (b : Builder) : Call → Builder × Option Failure
  | .addIdentity role ids => b.settle (b.addIdentity role ids)
  | .removeIdentity role ids => b.removeIdentity role ids
  | .removeRole role => b.settle (b.removeRole role)
  | .setBindings grants => b.settle (b.setBindings grants)
  | .setEtag etag => (b.setEtag etag, none)
  | .setVersion version => (b.setVersion version, none)

/-- The builder after calls in turn, up to the first that fails. -/
def applyAll (b : Builder) : List (Except Failure Call) → Except Failure Builder
  | [] => .ok b
  | .error e :: _ => .error e
  | .ok c :: rest => match b.apply c with
    | (_, some e) => .error e
    | (b', none) => b'.applyAll rest

end Builder

/-- The bindings of a policy as a caller gives them. -/
def Bindings.toGrants (bs : Bindings) : Grants :=
  bs.map fun e => (some e.1, some (Supply.ofMembers e.2))

/-- A builder that starts from a policy. -/
def Policy.toBuilder (p : Policy) : Except Failure Builder :=
  Builder.make p.family (some p.bindings.toGrants) p.etag p.version

end AccessPolicy
