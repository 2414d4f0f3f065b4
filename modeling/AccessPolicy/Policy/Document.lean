import AccessPolicy.Number.Numeral
import AccessPolicy.Policy.Builder

/-!
# Policy documents

The document of a policy is a map with the keys `bindings`, `etag` and `version`, in this order. Its
bindings are a list of maps, each with a `role` and a list of `members`.

* `Policy.encode` writes a policy with roles and members sorted by code point; tag and version are
  left out when null;
* `Policy.decode` reads one. Entries of one role are merged, entries without members are skipped,
  and an entry with a condition is refused, since nothing here could keep it.
-/

namespace AccessPolicy

namespace Policy

/-! ### Writing -/

/-- The order of role names: texts by code point, numbers by size. Values of different kinds have
no order. -/
def nameLess (a b : Value) : Option Bool :=
  match a, b with
  | .text s, .text t => some (Text.precedes s t)
  | .bytes x, .bytes y => some (x < y)
  | .date d, .date e => some (d.ordinal < e.ordinal)
  | .moment t, .moment u =>
    if t.offset.isSome = u.offset.isSome then
      some (t.instant - t.offset.getD 0 * 60000000 < u.instant - u.offset.getD 0 * 60000000)
    else none
  | a, b => match a.number?, b.number? with
    | some (.inl m), some (.inl n) => some (m < n)
    | some (.inl m), some (.inr y) => some (y.compareInt m == some .gt)
    | some (.inr x), some (.inl n) => some (x.compareInt n == some .lt)
    | some (.inr x), some (.inr y) => some (x.compare y == some .lt)
    | _, _ => none

/-- Whether each two of the names have an order. -/
def comparable (names : List Value) : Bool :=
  names.all fun a => names.all fun b => (nameLess a b).isSome

/-- Entries sorted by the names of their roles. A single entry needs no order. -/
def sortedByRole (bs : Bindings) : Except Failure Bindings :=
  if bs.length ≤ 1 ∨ comparable (bs.map (·.1.name)) then
    .ok (bs.mergeSort fun a b => !(nameLess b.1.name a.1.name).getD false)
  else .error .wrongKind

/-- The member strings of identities, sorted by code point. -/
def memberStrings (ms : Members) : List String :=
  (ms.map Identity.memberString).mergeSort fun a b => !Text.precedes b a

/-- The document of one binding. -/
def encodeBinding (e : Role × Members) : Value :=
  .ofFields [("role", e.1.name), ("members", .list ((memberStrings e.2).map .text))]

/-- A field that is left out when its value is null. -/
def optionalField (key : String) (v : Value) : List (String × Value) :=
  if v.isNull then [] else [(key, v)]

/-- Whether all identities have member strings. -/
def membersWritable (bs : Bindings) : Bool := bs.all fun e => e.2.all Identity.isWritable

/-- The document of a policy. -/
def encode (p : Policy) : Except Failure Value :=
  match sortedByRole p.bindings with
  | .error e => .error e
  | .ok bs =>
    if membersWritable bs then
      .ok (.ofFields (("bindings", .list (bs.map encodeBinding))
        :: (optionalField "etag" p.etag ++ optionalField "version" p.version)))
    else .error (.badInteger .tooLong)

/-- The document of a policy of any family; only the family of requests has documents. -/
def toDocument (p : Policy) : Except Failure Value :=
  if p.family = .roles then p.encode else .error .noSuchPart

/-! ### Reading -/

/-- The items of a field that should be a list. An empty, zero or null value is an empty list. -/
def listOf (v : Value) (otherwise : Rejection) : Except Failure (List Value) :=
  if !v.truthy then .ok []
  else match v.opened with
    | .list items => .ok items
    | _ => .error (.rejected otherwise)

/-- Reads member strings in turn. -/
def decodeMembers : List Value → Except Failure (List Identity)
  | [] => .ok []
  | v :: rest => match Identity.ofValue v with
    | .error e => .error (.rejected e)
    | .ok i => match decodeMembers rest with
      | .error e => .error e
      | .ok is => .ok (i :: is)

/-- Reads one binding onto the bindings read so far. -/
def decodeBinding (bs : Bindings) (v : Value) : Except Failure Bindings :=
  match v.opened with
  | .map fields =>
    let role := Value.field "role" fields
    if (Value.field? "condition" fields).isSome then .error (.rejected (.conditionalBinding role))
    else if !role.truthy then .error (.rejected .unnamedRole)
    else match listOf (Value.field "members" fields) (.membersNotList role) with
      | .error e => .error e
      | .ok items => match decodeMembers items with
        | .error e => .error e
        | .ok [] => .ok bs
        | .ok (i :: is) => match Role.ofValue role with
          | .error e => .error e
          | .ok r => if r.hashable then .ok (bs.grant r (i :: is)) else .error .wrongKind
  | _ => .error (.rejected (.bindingNotMap v))

/-- Reads bindings in turn onto those read so far. -/
def decodeBindings : List Value → Bindings → Except Failure Bindings
  | [], bs => .ok bs
  | v :: rest, bs => match decodeBinding bs v with
    | .error e => .error e
    | .ok bs => decodeBindings rest bs

/-- The integer that a version stands for: numbers lose their fraction, texts are read as
numerals. -/
def decodeVersion (v : Value) : Except Failure Value :=
  match v with
  | .null => .ok .null
  | .bool b => .ok (.int (if b then 1 else 0))
  | .int n => .ok (.int n)
  | .float x => match x with
    | .notANumber => .error .notANumber
    | .infinity _ => .error .infinite
    | x => .ok (.int (x.truncate.getD 0))
  | .text s => match Numeral.read 10 s.toList with
    | .ok n => .ok (.int n)
    | .error e => .error (.badInteger e)
  | .bytes b => match Numeral.read 10 (Numeral.ofBytes b) with
    | .ok n => .ok (.int n)
    | .error (.malformed ..) => .error (.badIntegerBytes b)
    | .error e => .error (.badInteger e)
  | _ => .error .wrongKind

/-- Reads the document of a policy. -/
def decode (document : Value) : Except Failure Policy :=
  match document.opened with
  | .null => .error (.rejected .nullDocument)
  | .map fields =>
    match listOf (Value.field "bindings" fields) .bindingsNotList with
    | .error e => .error e
    | .ok items => match decodeBindings items [] with
      | .error e => .error e
      | .ok bs => match decodeVersion (Value.field "version" fields) with
        | .error e => .error e
        | .ok version =>
          match Builder.make .roles (some bs.toGrants) (Value.field "etag" fields) version with
          | .error e => .error e
          | .ok b => .ok b.build
  | _ => .error .noSuchPart

end Policy

end AccessPolicy
