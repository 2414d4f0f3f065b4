import AccessPolicy.Failure

/-!
# Identities

An identity is a principal that can hold a role: one of the two wildcards, or a user, a service
account, a group or a domain with its address. In requests an identity is a *member string*: the
token of its kind, and after a colon the value of all but the wildcards.

* `Identity.memberString` writes a member string, `Identity.parse` reads one;
* `Identity.Canonical` holds of the identities that member strings denote;
* `IsMemberString` is the grammar of member strings.
-/

namespace AccessPolicy

/-- The kinds of principals. -/
inductive IdentityKind where
  /-- Anyone on the internet. -/
  | allUsers
  /-- Anyone who has signed in. -/
  | allAuthenticatedUsers
  /-- A person's account. -/
  | user
  /-- An account of a program. -/
  | serviceAccount
  /-- A group of accounts. -/
  | group
  /-- All accounts of a domain. -/
  | domain
deriving DecidableEq, Repr, Inhabited

namespace IdentityKind

/-- All kinds. -/
def all : List IdentityKind :=
  [allUsers, allAuthenticatedUsers, user, serviceAccount, group, domain]

/-- The word that stands for a kind in member strings. -/
def token : IdentityKind → String
  | allUsers => "allUsers"
  | allAuthenticatedUsers => "allAuthenticatedUsers"
  | user => "user"
  | serviceAccount => "serviceAccount"
  | group => "group"
  | domain => "domain"

/-- The name of a kind. -/
def name : IdentityKind → String
  | allUsers => "ALL_USERS"
  | allAuthenticatedUsers => "ALL_AUTHENTICATED_USERS"
  | user => "USER"
  | serviceAccount => "SERVICE_ACCOUNT"
  | group => "GROUP"
  | domain => "DOMAIN"

/-- Whether a kind stands for everyone and so takes no value. -/
def isWildcard : IdentityKind → Bool
  | allUsers | allAuthenticatedUsers => true
  | _ => false

/-- The kind that a word stands for. -/
def ofToken? (word : String) : Option IdentityKind := all.find? (·.token == word)

@[simp] theorem ofToken?_token (k : IdentityKind) : ofToken? k.token = some k := by
  cases k <;> rfl

end IdentityKind

/-- A principal that can hold a role. -/
structure Identity where
  /-- The kind of principal. -/
  kind : IdentityKind
  /-- The address or domain name; null for the wildcards. -/
  value : Value
deriving Repr, Inhabited

namespace Identity

/-- Anyone on the internet. -/
def allUsers : Identity := ⟨.allUsers, .null⟩

/-- Anyone who has signed in. -/
def allAuthenticatedUsers : Identity := ⟨.allAuthenticatedUsers, .null⟩

/-- What the value of a kind is called. -/
def valueName : IdentityKind → String
  | .domain => "domain"
  | _ => "email"

/-- An identity of a kind; the value of a kind that is no wildcard must not be null. -/
def make (kind : IdentityKind) (value : Value) : Except Failure Identity :=
  if kind.isWildcard then .ok ⟨kind, .null⟩
  else if value.isNull then .error (.rejected (.nullMemberValue (valueName kind)))
  else .ok ⟨kind, value⟩

/-- The member string of an identity. -/
def memberString (i : Identity) : String :=
  if i.kind.isWildcard then i.kind.token else i.kind.token ++ ":" ++ i.value.plain

/-- Whether an identity has a member string: its value has a text, if it stands there. -/
def isWritable (i : Identity) : Bool := i.kind.isWildcard || i.value.isWritable

/-- Whether two identities are equal: of the same kind and with the same value. -/
def same (a b : Identity) : Bool := a.kind == b.kind && a.value.same b.value

/-- Whether an identity may be an element of a set. -/
def hashable (i : Identity) : Bool := i.value.hashable

/-- Reads a member string. -/
def parse (member : String) : Except Rejection Identity :=
  if member = IdentityKind.allUsers.token then .ok allUsers
  else if member = IdentityKind.allAuthenticatedUsers.token then .ok allAuthenticatedUsers
  else
    let word := String.ofList (member.toList.takeWhile (· ≠ ':'))
    match member.toList.dropWhile (· ≠ ':') with
    | _ :: c :: rest =>
      match IdentityKind.ofToken? word with
      | none => .error (.unsupportedMemberKind word member)
      | some kind =>
        if kind.isWildcard then .error (.malformedMember member)
        else .ok ⟨kind, .text (String.ofList (c :: rest))⟩
    | _ => .error (.malformedMember member)

/-- Reads a member of a document, which has to be a member string. -/
def ofValue : Value → Except Rejection Identity
  | .null => .error .nullMember
  | .text s => parse s
  | v => .error (.memberNotText v)

/-- The text of an identity as messages show it. -/
def term (i : Identity) : String :=
  "Identity(type=<IdentityType." ++ i.kind.name ++ ": " ++ Text.quoted i.kind.token ++ ">, value="
    ++ i.value.term ++ ")"

/-- The identities that member strings denote: wildcards without a value, and the others with a
non-empty text. -/
def Canonical (i : Identity) : Prop :=
  if i.kind.isWildcard then i.value = .null else ∃ s, s ≠ "" ∧ i.value = .text s

end Identity

/-- The grammar of member strings: the token of a wildcard, or the token of another kind, a colon
and a non-empty rest. -/
def IsMemberString (s : String) : Prop :=
  ∃ k : IdentityKind,
    if k.isWildcard then s = k.token else ∃ v, v ≠ "" ∧ s = k.token ++ ":" ++ v

end AccessPolicy
