import AccessPolicy.Bindings

/-!
# Policies

A policy is the bindings of a resource with an entity tag, which tells one state of the stored
policy from the next, and a version of the policy form. Both are kept as they were given. Policies
come in families that differ in what they are keyed by: a policy of requests is keyed by roles,
others by bare names.
-/

namespace AccessPolicy

/-- The families of policies. -/
inductive Family where
  /-- Keyed by roles; the family of requests. -/
  | roles
  /-- Keyed by names. -/
  | names
  /-- Keyed by names, and different from `names`. -/
  | otherNames
deriving DecidableEq, Repr, Inhabited

namespace Family

/-- The name of a family. -/
def name : Family → String
  | roles => "Policy"
  | names => "StringPolicy"
  | otherNames => "AnotherPolicy"

/-- What a role looks like as a key of the family. -/
def keyTerm (f : Family) (r : Role) : String :=
  match f with
  | roles => r.term
  | _ => r.name.term

end Family

/-- An access policy. -/
structure Policy where
  /-- What kind of policy this is. -/
  family : Family
  /-- Who holds which role. -/
  bindings : Bindings
  /-- The tag of the stored state that this policy was read from, or null. -/
  etag : Value
  /-- The version of the policy form, or null. -/
  version : Value
deriving Inhabited

namespace Policy

/-- Equality of entity tags and versions: that of values, but the value that is no number differs
from itself. -/
def sameField : Value → Value → Bool
  | .float .notANumber, _ => false
  | a, b => a.same b

/-- Equality of policies: the same family, tag and version, and the same members for the same roles,
in whatever order. -/
def same (p q : Policy) : Bool :=
  p.family == q.family && p.bindings.same q.bindings && sameField p.etag q.etag
    && sameField p.version q.version

/-- Whether a policy may be a key. -/
def hashable (p : Policy) : Bool := p.etag.hashable && p.version.hashable

/-- The text of a policy as messages show it. Defined while no role has two members, since sets have
no order to show. -/
def term? (p : Policy) : Option String :=
  if p.bindings.any fun e => 1 < e.2.length then none
  else
    let entry (e : Role × Members) : String :=
      p.family.keyTerm e.1 ++ ": frozenset("
        ++ (match e.2 with
            | [] => ")"
            | i :: _ => "\x7b" ++ i.term ++ "\x7d)")
    some (p.family.name ++ "(bindings=\x7b" ++ ", ".intercalate (p.bindings.map entry)
      ++ "\x7d, etag=" ++ p.etag.term ++ ", version=" ++ p.version.term ++ ")")

end Policy

end AccessPolicy
