import AccessPolicy.Number.Binary64
import AccessPolicy.Value.Moment

/-!
# Document values

A `Value` is what a policy document, a request body or a policy file holds: a tree of scalars, lists
and maps. Maps keep the order of their entries. The readers make only maps whose keys differ.

A list or map of a policy file may hold itself. It is then a *knot*: a value with a label, in which
the label stands wherever the value is met again. `Value.opened` is a knot as the list or map that
it is, with the whole knot in these places.

* `Value.truthy`: the empty, zero and null values are the falsy ones;
* `Value.hashable`: a value may be a key unless it is, or holds in a pair, a list, a map or a set;
* `Value.same`: equality of values. Booleans are the numbers 0 and 1, integers and floating-point
  numbers are compared exactly, lists entry by entry, maps and sets whatever their order, knots by
  their labels.
-/

namespace AccessPolicy

/-- A document value. -/
inductive Value where
  /-- The null value. -/
  | null
  /-- A boolean. -/
  | bool (b : Bool)
  /-- An integer of any size. -/
  | int (n : Int)
  /-- A floating-point number. -/
  | float (x : Binary64)
  /-- A text. -/
  | text (s : String)
  /-- A list. -/
  | list (items : List Value)
  /-- A map, in the order of its entries. -/
  | map (entries : List (Value × Value))
  /-- A calendar date. -/
  | date (d : Date)
  /-- A moment. -/
  | moment (t : Moment)
  /-- A sequence of bytes. -/
  | bytes (b : List UInt8)
  /-- A set, in the order in which its elements were met. -/
  | set (items : List Value)
  /-- An ordered pair. -/
  | pair (fst snd : Value)
  /-- A list or map that is labelled since it is met again inside itself. -/
  | knot (label : Nat) (content : Value)
  /-- The list or map of a label, met again. -/
  | again (label : Nat) (isMap : Bool)
deriving Repr, Inhabited

namespace Value

/-- Whether a value is non-empty, non-zero and not null. -/
def truthy : Value → Bool
  | null => false
  | bool b => b
  | int n => n ≠ 0
  | float x => !x.isZero
  | text s => !s.isEmpty
  | list items => !items.isEmpty
  | map entries => !entries.isEmpty
  | bytes b => !b.isEmpty
  | set items => !items.isEmpty
  | knot _ v => v.truthy
  | date _ | moment _ | pair _ _ | again _ _ => true

/-- Whether a value may be a key. -/
def hashable : Value → Bool
  | list _ | map _ | set _ | knot _ _ | again _ _ => false
  | pair a b => a.hashable && b.hashable
  | _ => true

/-- The number that a number or boolean is. -/
def number? : Value → Option (Int ⊕ Binary64)
  | bool b => some (.inl (if b then 1 else 0))
  | int n => some (.inl n)
  | float x => some (.inr x)
  | _ => none

/-- Exact equality of numbers. As a part of a value, what is no number is equal to itself. -/
def sameNumber : Int ⊕ Binary64 → Int ⊕ Binary64 → Bool
  | .inr .notANumber, .inr .notANumber => true
  | .inl a, .inl b => a == b
  | .inl a, .inr b => b.compareInt a == some .eq
  | .inr a, .inl b => a.compareInt b == some .eq
  | .inr a, .inr b => a.compare b == some .eq

/-- Whether a value is a given number. -/
def sameAsNumber (n : Int ⊕ Binary64) (b : Value) : Bool :=
  match b.number? with
  | some m => sameNumber n m
  | none => false

/-- Whether a value is null. -/
def isNull : Value → Bool
  | null => true
  | _ => false

mutual

/-- Equality of values. -/
def same : Value → Value → Bool
  | null, b => b.isNull
  | bool x, b => sameAsNumber (.inl (if x then 1 else 0)) b
  | int n, b => sameAsNumber (.inl n) b
  | float x, b => sameAsNumber (.inr x) b
  | text s, b => match b with
    | .text t => s == t
    | _ => false
  | list xs, b => match b with
    | .list ys => sameItems xs ys
    | _ => false
  | map xs, b => match b with
    | .map ys => xs.length == ys.length && entriesIn xs ys
    | _ => false
  | date d, b => match b with
    | .date e => d == e
    | _ => false
  | moment t, b => match b with
    | .moment u => t.same u
    | _ => false
  | bytes x, b => match b with
    | .bytes y => x == y
    | _ => false
  | set xs, b => match b with
    | .set ys => xs.length == ys.length && itemsIn xs ys
    | _ => false
  | pair x y, b => match b with
    | .pair x' y' => same x x' && same y y'
    | _ => false
  | knot l _, b => match b with
    | .knot m _ => l == m
    | _ => false
  | again l _, b => match b with
    | .again m _ => l == m
    | _ => false

/-- Equality of lists, entry by entry. -/
def sameItems : List Value → List Value → Bool
  | [], ys => ys.isEmpty
  | x :: xs, ys => match ys with
    | [] => false
    | y :: ys => same x y && sameItems xs ys

/-- Whether each element of the first list is the same as some element of the second. -/
def itemsIn : List Value → List Value → Bool
  | [], _ => true
  | x :: xs, ys => ys.any (same x) && itemsIn xs ys

/-- Whether each entry of the first map has an entry in the second with the same key and value. -/
def entriesIn : List (Value × Value) → List (Value × Value) → Bool
  | [], _ => true
  | (k, v) :: xs, ys => ys.any (fun e => same k e.1 && same v e.2) && entriesIn xs ys

end

/-- The value under a text key. -/
def field? (key : String) : List (Value × Value) → Option Value
  | [] => none
  | (k, v) :: rest => match k with
    | .text s => if s = key then some v else field? key rest
    | _ => field? key rest

/-- The value under a text key, or null. -/
def field (key : String) (entries : List (Value × Value)) : Value :=
  (field? key entries).getD .null

/-- Puts a value under a key: in its place if the key is there, else at the end. -/
def put (key value : Value) : List (Value × Value) → List (Value × Value)
  | [] => [(key, value)]
  | (k, v) :: rest => if k.same key then (k, value) :: rest else (k, v) :: put key value rest

/-- Puts a value under a text key. -/
def putField (key : String) (value : Value) (entries : List (Value × Value)) :
    List (Value × Value) :=
  put (.text key) value entries

/-- A map with text keys. -/
def ofFields (fields : List (String × Value)) : Value :=
  .map (fields.map fun f => (.text f.1, f.2))

/-- The items of a value that has some: those of a list or set, the keys of a map, the characters of
a text, the parts of a pair, the bytes of a sequence. -/
def items? : Value → Option (List Value)
  | list xs | set xs => some xs
  | map entries => some (entries.map (·.1))
  | text s => some (s.toList.map fun c => .text (String.singleton c))
  | pair a b => some [a, b]
  | bytes b => some (b.map fun x => .int x.toNat)
  | _ => none

/-! ### Knots -/

mutual

/-- A value with a whole in the place of a label. -/
def fill (label : Nat) (whole : Value) : Value → Value
  | list items => list (fillItems label whole items)
  | map entries => map (fillEntries label whole entries)
  | set items => set (fillItems label whole items)
  | pair a b => pair (fill label whole a) (fill label whole b)
  | knot l v => if l = label then knot l v else knot l (fill label whole v)
  | again l isMap => if l = label then whole else again l isMap
  | v => v

/-- Values with a whole in the place of a label. -/
def fillItems (label : Nat) (whole : Value) : List Value → List Value
  | [] => []
  | v :: rest => fill label whole v :: fillItems label whole rest

/-- Entries with a whole in the place of a label. -/
def fillEntries (label : Nat) (whole : Value) : List (Value × Value) → List (Value × Value)
  | [] => []
  | (k, v) :: rest => (fill label whole k, fill label whole v) :: fillEntries label whole rest

end

/-- A knot as the list or map that it is. Other values are as they are. -/
def opened : Value → Value
  | knot l v => fill l (knot l v) v
  | v => v

@[simp] theorem opened_null : opened .null = .null := rfl

@[simp] theorem opened_text (s : String) : opened (.text s) = .text s := rfl

@[simp] theorem opened_list (items : List Value) : opened (.list items) = .list items := rfl

@[simp] theorem opened_map (entries : List (Value × Value)) :
    opened (.map entries) = .map entries := rfl

@[simp] theorem same_text (s t : String) : same (.text s) (.text t) = (s == t) := by
  simp [same]

end Value

end AccessPolicy
