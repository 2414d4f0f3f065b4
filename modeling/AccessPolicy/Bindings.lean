import AccessPolicy.Identity
import AccessPolicy.Role

/-!
# Bindings

`Members` are the identities bound to one role, without repetition. `Bindings` map roles to members
in the order in which the roles came; a role that is replaced keeps its place and its first form.

* `Bindings.find?` looks a role up, `Bindings.put` replaces or appends, `Bindings.erase` removes;
* `Bindings.Holds` is the relation that bindings stand for: which role is held by which identity;
* `Bindings.WellFormed`: each role occurs once, with members, and no member repeats;
* `Bindings.same` is equality whatever the order of roles and members.
-/

namespace AccessPolicy

/-- The identities bound to one role. -/
abbrev Members := List Identity

namespace Members

/-- Whether an identity is among the members. -/
def has (ms : Members) (i : Identity) : Bool := ms.any (·.same i)

/-- Adds an identity unless it is there. -/
def insert (ms : Members) (i : Identity) : Members := if ms.has i then ms else ms ++ [i]

/-- Adds identities in turn. -/
def union (ms : Members) (ids : List Identity) : Members := ids.foldl insert ms

/-- Removes an identity. -/
def erase (ms : Members) (i : Identity) : Members := ms.filter fun m => !m.same i

/-- Whether all of the first members are among the second. -/
def subset (a b : Members) : Bool := a.all (has b)

/-- Whether two lists of members hold the same identities. -/
def same (a b : Members) : Bool := subset a b && subset b a

end Members

/-- Roles with their members, in order. -/
abbrev Bindings := List (Role × Members)

namespace Bindings

/-- The members of a role. -/
def find? : Bindings → Role → Option Members
  | [], _ => none
  | e :: rest, r => if e.1.same r then some e.2 else find? rest r

/-- Gives a role its members: in its place if it has some, else at the end. -/
def put : Bindings → Role → Members → Bindings
  | [], r, ms => [(r, ms)]
  | e :: rest, r, ms => if e.1.same r then (e.1, ms) :: rest else e :: put rest r ms

/-- Removes a role. -/
def erase (bs : Bindings) (r : Role) : Bindings := bs.filter fun e => !e.1.same r

/-- Adds identities to the members of a role. -/
def grant (bs : Bindings) (r : Role) (ids : List Identity) : Bindings :=
  bs.put r (((bs.find? r).getD []).union ids)

/-- Whether a role is held by an identity. -/
def Holds (bs : Bindings) (r : Role) (i : Identity) : Prop :=
  ∃ e ∈ bs, e.1.same r = true ∧ Members.has e.2 i = true

/-- Whether a role has a binding. -/
def HasRole (bs : Bindings) (r : Role) : Prop := ∃ e ∈ bs, e.1.same r = true

/-- Each role occurs once, has members, and has no member twice. -/
structure WellFormed (bs : Bindings) : Prop where
  /-- No two entries are of the same role. -/
  roles_differ : bs.Pairwise fun a b => a.1.same b.1 = false
  /-- Every role has a member. -/
  members_ne_nil : ∀ e ∈ bs, e.2 ≠ []
  /-- No member of a role repeats. -/
  members_differ : ∀ e ∈ bs, e.2.Pairwise fun a b => a.same b = false

/-- Whether each entry of the first bindings has its equal in the second. -/
def subset (a b : Bindings) : Bool :=
  a.all fun e => match b.find? e.1 with
    | some ms => e.2.same ms
    | none => false

/-- Whether two bindings have the same roles with the same members, in whatever order. -/
def same (a b : Bindings) : Bool := a.length == b.length && subset a b

end Bindings

end AccessPolicy
