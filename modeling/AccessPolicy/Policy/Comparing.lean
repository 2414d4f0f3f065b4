import AccessPolicy.Policy.Basic

/-!
# Comparing and hashing policies

Each of two policies is asked in turn whether it equals the other. One of another family has no
answer, and policies that have none are different. The hash of a policy is made of the hashes of its
parts: bindings are hashed as a set of roles with their sets of members.

* `Policy.equals`, `Policy.differs`: the two comparisons, each by the answers of both policies;
* `Hashing`, `Policy.hash`: the hashes of single values, tuples and sets, and what they make.
-/

namespace AccessPolicy

/-- The hashes of single values and of families, and how hashes are put together: those of the parts
of a tuple in order, and those of the elements of a set. -/
structure Hashing where
  /-- The hash of a value. -/
  value : Value → Int
  /-- The hash of a family. -/
  family : Family → Int
  /-- The hash of a tuple. -/
  tuple : List Int → Int
  /-- The hash of a set. -/
  set : List Int → Int

/-- The hash of a role as a key of a family: that of its name alone. -/
def Role.hash (h : Hashing) (f : Family) (r : Role) : Int :=
  match f with
  | .roles => h.tuple [h.value r.name]
  | .names | .otherNames => h.value r.name

/-- The hash of an identity. -/
def Identity.hash (h : Hashing) (i : Identity) : Int :=
  h.tuple [h.value (.text i.kind.name), h.value i.value]

namespace Policy

/-- What a policy answers when it is asked whether it equals another: nothing if that is of another
family. -/
def answer? (p q : Policy) : Option Bool :=
  if p.family = q.family then some (p.same q) else none

/-- Whether a policy equals another. The other one is asked if the first has no answer. -/
def equals (p q : Policy) : Bool := ((p.answer? q).or (q.answer? p)).getD false

/-- Whether a policy differs from another. The other one is asked if the first has no answer. -/
def differs (p q : Policy) : Bool :=
  (((p.answer? q).map not).or ((q.answer? p).map not)).getD true

/-- The hash of the bindings of a policy: that of a set of pairs, each of a role and the set of its
members. -/
def bindingsHash (h : Hashing) (p : Policy) : Int :=
  h.set (p.bindings.map fun e =>
    h.tuple [e.1.hash h p.family, h.set (e.2.map fun i => i.hash h)])

/-- The hash of a policy, if its tag and version may be hashed. -/
def hash (h : Hashing) (p : Policy) : Except Failure Int :=
  if p.hashable then
    .ok (h.tuple [h.family p.family, p.bindingsHash h, h.value p.etag, h.value p.version])
  else .error .wrongKind

end Policy

end AccessPolicy
