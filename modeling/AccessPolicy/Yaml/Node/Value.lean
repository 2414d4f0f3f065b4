import AccessPolicy.Yaml.Node.Merge

/-!
# Values of nodes

`Graph.value?` gives the value of a document, or the fault that is met first, where a document is
gone through level by level: a list's own entries before what those entries hold.

* Merges are carried out in a map when its entries are met.
* The last of several equal keys wins. A list, a map or a set is no key.
* Where a scalar is asked for, a map stands for its default entry.
-/

namespace AccessPolicy.Yaml

namespace Graph

/-! ### Scalars -/

/-- The text of a node where a scalar is asked for, at most `n` maps deep. -/
def textOf (g : Graph) : Nat → Nat → Except Fault String
  | 0, _ => .error (.value .tooDeep)
  | n + 1, i => match g.node i with
    | .scalar _ s => .ok s
    | .list _ _ => .error .malformed
    | .map _ es => match es.find? fun e => (g.node e.1).kind == .default with
      | some e => g.textOf n e.2
      | none => .error .malformed

/-- The value of a node that is no list, map or set. No map can stand for a date or a moment. -/
def plainValue (g : Graph) (i : Nat) : Except Fault Value :=
  let node := g.node i
  if !node.kind.isPlain then .error .malformed
  else do
    let s ← g.textOf g.depth i
    match node with
    | .map .timestamp _ => .error (.value .wrongKind)
    | _ => scalarValue node.kind s

end Graph

/-! ### Faults -/

/-- A way through the nodes of a document. -/
structure Tour where
  /-- The nodes, merged as far as was needed. -/
  graph : Graph
  /-- Which nodes were met. -/
  met : Array Bool
  /-- The values of the nodes met that are no lists, maps or sets. -/
  values : Array (Option Value)
  /-- The lists, maps and sets met, in order. -/
  entered : Array Nat := #[]

namespace Tour

/-- The start of a tour. -/
def start (g : Graph) : Tour :=
  { graph := g
    met := Array.replicate g.nodes.size false
    values := Array.replicate g.nodes.size none }

/-- Meets a node, unless it was met before. -/
def meet (t : Tour) (i : Nat) : Except Fault Tour :=
  if t.met.getD i true then .ok t
  else
    let t := { t with met := t.met.setIfInBounds i true }
    if (t.graph.node i).kind.isCollection then .ok { t with entered := t.entered.push i }
    else (t.graph.plainValue i).map fun v => { t with values := t.values.setIfInBounds i (some v) }

/-- Meets the key and the value of an entry. -/
def meetEntry (t : Tour) (e : Nat × Nat) : Except Fault Tour := do
  let t ← t.meet e.1
  if (t.graph.node e.1).kind.isCollection then .error .malformed else t.meet e.2

/-- Meets the key and the value of a map of one entry. -/
def meetPair (t : Tour) (i : Nat) : Except Fault Tour :=
  match t.graph.node i with
  | .map _ [(k, v)] => do (← t.meet k).meet v
  | _ => .error .malformed

/-- Meets the parts of a list, map or set. `limit` is a number that the merges do not go beyond. -/
def meetParts (limit : Nat) (t : Tour) (i : Nat) : Except Fault Tour :=
  match t.graph.node i with
  | .list .list items => items.foldlM meet t
  | .list .pairs items => items.foldlM meetPair t
  | .map .map _ | .map .set _ => match t.graph.merged limit i [] with
    | some g => (g.node i).entries.foldlM meetEntry { t with graph := g }
    | none => .error .malformed
  | _ => .error .malformed

/-- Meets the parts of the lists, maps and sets met, from the `k`-th on, at most `n` of them. -/
def run (limit : Nat) : Nat → Nat → Tour → Except Fault Tour
  | 0, _, t => .ok t
  | n + 1, k, t => match t.entered[k]? with
    | none => .ok t
    | some i => do run limit n (k + 1) (← t.meetParts limit i)

/-- Meets all that a document is made of. -/
def ofGraph (g : Graph) : Except Fault Tour := do
  run (g.size + 1) g.depth 0 (← (start g).meet g.root)

end Tour

/-! ### Values -/

/-- The value of a node inside others. -/
structure Part where
  /-- The value. -/
  value : Value
  /-- The nodes around it that are met again inside it. -/
  met : List Nat := []
  /-- Whether a knot is in it. -/
  tied : Bool := false

namespace Part

/-- What parts make together. -/
def gather (parts : List Part) (value : Value) : Part :=
  { value
    met := parts.foldl (fun met p => met ++ p.met.filter fun i => !met.contains i) []
    tied := parts.any Part.tied }

/-- The list or map of a node: a knot if anything is met again in it. -/
def close (p : Part) (i : Nat) : Part :=
  if p.met.isEmpty then p else ⟨.knot i p.value, p.met.filter (· != i), true⟩

end Part

/-- The values of nodes found so far, but for those with a knot in them. -/
abbrev Found := Array (Option Value)

namespace Graph

/-- The value of a map's entries. -/
def mapOf (es : List (Value × Value)) : List (Value × Value) :=
  es.foldl (fun m e => Value.put e.1 e.2 m) []

/-- The pair that a map of one entry stands for, given what its parts are. -/
def pairOf (inner : Nat → StateM Found Part) : Node → StateM Found Part
  | .map _ [(k, v)] => do
    let key ← inner k
    let value ← inner v
    return .gather [key, value] (.pair key.value value.value)
  | _ => return { value := .null }

/-- The list, map or set that a node is, given what its parts are. -/
def contentOf (g : Graph) (inner : Nat → StateM Found Part) : Node → StateM Found Part
  | .list k items => do
    let parts ← items.mapM fun j => if k == .pairs then pairOf inner (g.node j) else inner j
    return .gather parts (.list (parts.map Part.value))
  | .map k es => do
    let keys ← es.mapM fun e => return (← inner e.1).value
    if k == .set then
      let elements := mapOf (keys.map fun key => (key, .null))
      return { value := .set (elements.map (·.1)) }
    else
      let parts ← es.mapM fun e => inner e.2
      return .gather parts (.map (mapOf (keys.zip (parts.map Part.value))))
  | .scalar _ _ => return { value := .null }

/-- The value of a node inside others, at most `n` levels deep. -/
def part (g : Graph) : Nat → List Nat → Nat → StateM Found Part
  | 0, _, _ => return { value := .null }
  | n + 1, around, i => do
    let node := g.node i
    if around.contains i then return { value := .again i (node.kind == .map), met := [i] }
    else
      let found ← get
      match found.getD i none with
      | some v => return { value := v }
      | none =>
        let content ← g.contentOf (g.part n (i :: around)) node
        let p := content.close i
        if p.met.isEmpty && !p.tied then
          modify fun (found : Found) => found.setIfInBounds i (some p.value)
        return p

/-- The value of a document. -/
def value? (g : Graph) : Except Fault Value := do
  let t ← Tour.ofGraph g
  return ((t.graph.part t.graph.depth [] t.graph.root).run t.values).1.value

end Graph

end AccessPolicy.Yaml
