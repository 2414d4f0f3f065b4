import AccessPolicy.Yaml.Scalar

/-!
# Nodes

The nodes of a document are scalars with their texts, lists and maps, each of some kind. A `Graph`
holds them under numbers, and lists and maps hold the numbers of what they are made of, since an
alias makes a node part of several others, and even of itself.
-/

namespace AccessPolicy.Yaml

namespace Kind

/-- Whether the value of a kind is a list, a map or a set. -/
def isCollection : Kind → Bool
  | list | map | set | pairs => true
  | _ => false

/-- Whether the value of a kind is made of the text of a scalar. -/
def isPlain : Kind → Bool
  | null | bool | int | float | binary | timestamp | text => true
  | _ => false

end Kind

/-- A node of a document. -/
inductive Node where
  /-- A scalar. -/
  | scalar (kind : Kind) (text : String)
  /-- A list. -/
  | list (kind : Kind) (items : List Nat)
  /-- A map. -/
  | map (kind : Kind) (entries : List (Nat × Nat))
deriving Inhabited

namespace Node

/-- The null node. -/
def empty : Node := scalar .null ""

/-- The kind of a node. -/
def kind : Node → Kind
  | scalar k _ | list k _ | map k _ => k

/-- A node with another kind. -/
def withKind (k : Kind) : Node → Node
  | scalar _ s => scalar k s
  | list _ items => list k items
  | map _ es => map k es

/-- The entries of a map. Other nodes have none. -/
def entries : Node → List (Nat × Nat)
  | map _ es => es
  | _ => []

/-- The number of a node's parts. -/
def partCount : Node → Nat
  | scalar _ _ => 0
  | list _ items => items.length
  | map _ es => es.length

end Node

/-- The nodes of a document. -/
structure Graph where
  /-- The nodes under their numbers. -/
  nodes : Array Node := #[]
  /-- The number of the node that is the document. -/
  root : Nat := 0
deriving Inhabited

namespace Graph

/-- The node of a number. -/
def node (g : Graph) (i : Nat) : Node := g.nodes.getD i .empty

/-- Puts a node in the place of another one. -/
def put (g : Graph) (i : Nat) (n : Node) : Graph := { g with nodes := g.nodes.setIfInBounds i n }

/-- A depth that no way through different nodes goes beyond. -/
def depth (g : Graph) : Nat := g.nodes.size + 1

/-- The number of nodes and of their parts. -/
def size (g : Graph) : Nat := g.nodes.foldl (fun total n => total + 1 + n.partCount) 0

end Graph

end AccessPolicy.Yaml
