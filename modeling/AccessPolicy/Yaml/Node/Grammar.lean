import AccessPolicy.Yaml.Node
import AccessPolicy.Yaml.Token.Lexer

/-!
# From tokens to nodes

The grammar of a document, by recursive descent over its tokens. A node may carry an anchor and a
tag; an alias is the node of its anchor, which may be one that it stands inside. Where the grammar
asks for a node and none is there, null stands in, if the place allows it.

`Graph.ofTokens?` reads the one document of a text: `none` is a text without a document. A text that
can be looked at in part only has the faults that are met there, before the one that lies beyond.
-/

namespace AccessPolicy.Yaml

namespace Graph

/-- How many lists and maps may stand inside each other. -/
def deepest : Nat := 488

/-- Where reading stands. -/
structure Position where
  /-- The tokens to come. -/
  tokens : List Token
  /-- The nodes so far. A list or map has no parts while these are being read. -/
  nodes : Array Node := #[]
  /-- The nodes of the anchors so far. -/
  anchors : List (String × Nat) := []
  /-- What tag handles stand for. -/
  handles : List (String × String) := []
  /-- The number of lists and maps that are being read. -/
  depth : Nat := 0

namespace Position

/-- Refuses the next token. -/
def refuse {α : Type} (p : Position) : Except Fault α :=
  match p.tokens with
  | .fault f :: _ => .error f
  | _ => .error .malformed

/-- Whether the next token satisfies a test. -/
def sees (p : Position) (test : Token → Bool) : Bool :=
  match p.tokens with
  | t :: _ => test t
  | [] => false

/-- Passes a token. -/
def next (p : Position) : Position := { p with tokens := p.tokens.tail }

/-- Adds a node, under an anchor if there is one. -/
def add (p : Position) (anchor : Option String) (n : Node) : Nat × Position :=
  let i := p.nodes.size
  (i, { p with
    nodes := p.nodes.push n
    anchors := (anchor.map fun a => (a, i)).toList ++ p.anchors })

/-- Puts a node in its place. -/
def fill (p : Position) (i : Nat) (n : Node) : Position :=
  { p with nodes := p.nodes.setIfInBounds i n }

/-- Reads what is inside a list or a map, unless it is nested too deep. -/
def within {α : Type} (p : Position) (inside : Position → Except Fault (α × Position)) :
    Except Fault (α × Position) :=
  if deepest ≤ p.depth then .error (.value .tooDeep)
  else do
    let (a, q) ← inside { p with depth := p.depth + 1 }
    return (a, { q with depth := p.depth })

end Position

/-! ### Kinds of tokens -/

/-- Whether a token ends an entry of a list by indentation. -/
def endsEntry : Token → Bool
  | .blockEntry | .blockEnd => true
  | _ => false

/-- Whether a token ends a key or a value of a map by indentation. -/
def endsPart : Token → Bool
  | .key | .value | .blockEnd => true
  | _ => false

/-- Whether a token ends an entry of a list that is not indented. -/
def endsLevelEntry (t : Token) : Bool := endsEntry t || endsPart t

/-- Whether a token is a comma or closes a list in brackets. -/
def endsItem : Token → Bool
  | .comma | .listEnd => true
  | _ => false

/-- Whether a token ends a key in a list in brackets. -/
def endsItemKey : Token → Bool
  | .value | .comma | .listEnd => true
  | _ => false

/-- Whether a token is a comma or closes a map in braces. -/
def endsField : Token → Bool
  | .comma | .mapEnd => true
  | _ => false

/-- Whether a token ends a key of a map in braces. -/
def endsFieldKey : Token → Bool
  | .value | .comma | .mapEnd => true
  | _ => false

/-- Whether a token is a colon. -/
def isValue : Token → Bool
  | .value => true
  | _ => false

/-! ### Anchors and tags -/

/-- The anchor and the tag of a node. -/
structure Properties where
  /-- The anchor. -/
  anchor : Option String := none
  /-- The handle of the tag, if it has one, and the rest of the tag. -/
  tag : Option (Option String × String) := none

/-- Reads an anchor and a tag, in either order. -/
def properties (p : Position) : Properties × Position :=
  match p.tokens with
  | .anchor a :: .tag h s :: rest => (⟨some a, some (h, s)⟩, { p with tokens := rest })
  | .tag h s :: .anchor a :: rest => (⟨some a, some (h, s)⟩, { p with tokens := rest })
  | .anchor a :: rest => (⟨some a, none⟩, { p with tokens := rest })
  | .tag h s :: rest => (⟨none, some (h, s)⟩, { p with tokens := rest })
  | _ => ({}, p)

/-- The tag that is meant, with what its handle stands for. -/
def resolveTag (p : Position) : Option (Option String × String) → Except Fault (Option String)
  | none => .ok none
  | some (none, s) => .ok (some s)
  | some (some h, s) => match p.handles.lookup h with
    | some expansion => .ok (some (expansion ++ s))
    | none => p.refuse

/-- The kind of a scalar. A tag that is a lone exclamation mark asks for the looks to decide. -/
def scalarKind (tag : Option String) (s : String) (plain : Bool) : Kind :=
  match tag with
  | none => if plain then plainKind s else .text
  | some t => if t == "!" then looksKind s else .ofTag t

/-- The kind of a list or a map, which is `usual` unless a tag says otherwise. -/
def collectionKind (tag : Option String) (usual : Kind) : Kind :=
  match tag with
  | none => usual
  | some t => if t == "!" then usual else .ofTag t

/-! ### Nodes -/

/-- Reads the items of a list, which has a number before they are read. -/
def listOf (p : Position) (anchor : Option String) (kind : Kind)
    (items : Position → Except Fault (List Nat × Position)) : Except Fault (Nat × Position) := do
  let (i, p) := p.add anchor (.list kind [])
  let (items, p) ← p.within items
  return (i, p.fill i (.list kind items))

/-- Reads the entries of a map, which has a number before they are read. -/
def mapOfEntries (p : Position) (anchor : Option String) (kind : Kind)
    (entries : Position → Except Fault (List (Nat × Nat) × Position)) :
    Except Fault (Nat × Position) := do
  let (i, p) := p.add anchor (.map kind [])
  let (entries, p) ← p.within entries
  return (i, p.fill i (.map kind entries))

/-- What stands for a node that is not there: nothing can unless there is an anchor or a tag. -/
def absent (tag : Option String) (props : Properties) (p : Position) :
    Except Fault (Nat × Position) :=
  if props.anchor.isSome || props.tag.isSome then
    .ok (p.add props.anchor (.scalar (scalarKind tag "" true) ""))
  else p.refuse

mutual

/-- Reads a node. `block` is whether it may be a list or map by indentation, and `level` whether it
may be a list whose dashes stand at the column of the key before it. -/
def read : Nat → Bool → Bool → Position → Except Fault (Nat × Position)
  | 0, _, _, p => p.refuse
  | n + 1, block, level, p =>
    match p.tokens with
    | .alias a :: _ => match p.anchors.lookup a with
      | some i => .ok (i, p.next)
      | none => .error .malformed
    | _ => do
      let (props, p) := properties p
      let tag ← resolveTag p props.tag
      let listKind := collectionKind tag .list
      let mapKind := collectionKind tag .map
      if props.anchor.any fun a => (p.anchors.lookup a).isSome then p.refuse
      else match p.tokens with
        | .scalar s plain :: _ =>
          return p.next.add props.anchor (.scalar (scalarKind tag s plain) s)
        | .listStart :: _ => listOf p.next props.anchor listKind (readItems n true)
        | .mapStart :: _ => mapOfEntries p.next props.anchor mapKind (readFields n true)
        | .blockEntry :: _ =>
          if level then listOf p props.anchor listKind (readLevelEntries n)
          else absent tag props p
        | .blockListStart :: _ =>
          if block then listOf p.next props.anchor listKind (readEntries n)
          else absent tag props p
        | .blockMapStart :: _ =>
          if block then mapOfEntries p.next props.anchor mapKind (readParts n)
          else absent tag props p
        | _ => absent tag props p

/-- Reads a node unless a token of some kind stands in its place. -/
def readUnless :
    Nat → (Token → Bool) → Bool → Bool → Position → Except Fault (Nat × Position)
  | 0, _, _, _, p => p.refuse
  | n + 1, stops, block, level, p =>
    if p.sees stops then .ok (p.add none .empty) else read n block level p

/-- Reads a colon and a value, if there is a colon. -/
def readValue :
    Nat → (Token → Bool) → Bool → Bool → Position → Except Fault (Nat × Position)
  | 0, _, _, _, p => p.refuse
  | n + 1, stops, block, level, p =>
    if p.sees isValue then readUnless n stops block level p.next else .ok (p.add none .empty)

/-- Reads the entries of a list by indentation. -/
def readEntries : Nat → Position → Except Fault (List Nat × Position)
  | 0, p => p.refuse
  | n + 1, p => match p.tokens with
    | .blockEntry :: _ => do
      let (i, p) ← readUnless n endsEntry true false p.next
      let (is, p) ← readEntries n p
      return (i :: is, p)
    | .blockEnd :: _ => .ok ([], p.next)
    | _ => p.refuse

/-- Reads the entries of a list that is not indented. -/
def readLevelEntries : Nat → Position → Except Fault (List Nat × Position)
  | 0, p => p.refuse
  | n + 1, p => match p.tokens with
    | .blockEntry :: _ => do
      let (i, p) ← readUnless n endsLevelEntry true false p.next
      let (is, p) ← readLevelEntries n p
      return (i :: is, p)
    | .fault f :: _ => .error f
    | _ => .ok ([], p)

/-- Reads the entries of a map by indentation. -/
def readParts : Nat → Position → Except Fault (List (Nat × Nat) × Position)
  | 0, p => p.refuse
  | n + 1, p => match p.tokens with
    | .key :: _ => do
      let (k, p) ← readUnless n endsPart true true p.next
      let (v, p) ← readValue n endsPart true true p
      let (es, p) ← readParts n p
      return ((k, v) :: es, p)
    | .blockEnd :: _ => .ok ([], p.next)
    | _ => p.refuse

/-- Reads the entry of a map in brackets or braces, whose key and value end at certain tokens. -/
def readEntry : Nat → (Token → Bool) → (Token → Bool) → Position →
    Except Fault ((Nat × Nat) × Position)
  | 0, _, _, p => p.refuse
  | n + 1, endsKey, ends, p => do
    let (k, p) ← readUnless n endsKey false false p.next
    let (v, p) ← readValue n ends false false p
    return ((k, v), p)

/-- Reads the items of a list in brackets. A key among them starts a map of one entry. -/
def readItems : Nat → Bool → Position → Except Fault (List Nat × Position)
  | 0, _, p => p.refuse
  | n + 1, first, p => match p.tokens with
    | .listEnd :: _ => .ok ([], p.next)
    | t :: rest => do
      let p ← if first then pure p else match t with
        | .comma => pure { p with tokens := rest }
        | _ => p.refuse
      match p.tokens with
      | .listEnd :: _ => return ([], p.next)
      | .key :: _ =>
        let (i, p) ← mapOfEntries p none .map fun p => do
          let (e, p) ← readEntry n endsItemKey endsItem p
          return ([e], p)
        let (is, p) ← readItems n false p
        return (i :: is, p)
      | _ =>
        let (i, p) ← read n false false p
        let (is, p) ← readItems n false p
        return (i :: is, p)
    | [] => p.refuse

/-- Reads the entries of a map in braces. -/
def readFields : Nat → Bool → Position → Except Fault (List (Nat × Nat) × Position)
  | 0, _, p => p.refuse
  | n + 1, first, p => match p.tokens with
    | .mapEnd :: _ => .ok ([], p.next)
    | t :: rest => do
      let p ← if first then pure p else match t with
        | .comma => pure { p with tokens := rest }
        | _ => p.refuse
      match p.tokens with
      | .mapEnd :: _ => return ([], p.next)
      | .key :: _ =>
        let (e, p) ← readEntry n endsFieldKey endsField p
        let (es, p) ← readFields n false p
        return (e :: es, p)
      | _ =>
        let (k, p) ← read n false false p
        let (v, p) := p.add none .empty
        let (es, p) ← readFields n false p
        return ((k, v) :: es, p)
    | [] => p.refuse

end

/-! ### Documents -/

/-- Reads the directives before a document. Handles are given a meaning once, and the version, also
given once, is one that can be read. -/
def readDirectives : List Token → Bool → List (String × String) →
    Except Fault (List Token × List (String × String))
  | .directive d :: rest, versioned, handles => match d with
    | .version major =>
      if versioned || major != 1 then .error .malformed else readDirectives rest true handles
    | .handle h expansion =>
      if (handles.lookup h).isSome then .error .malformed
      else readDirectives rest versioned ((h, expansion) :: handles)
    | .other => readDirectives rest versioned handles
  | tokens, _, handles => .ok (tokens, handles)

/-- Whether a token lies outside a document. -/
def isOutside : Token → Bool
  | .directive _ | .documentStart | .documentEnd => true
  | _ => false

/-- Whether a token closes a document. -/
def isClosing : Token → Bool
  | .documentEnd => true
  | _ => false

/-- The handles that need no directive. A directive may give them another meaning. -/
def standardHandles : List (String × String) := [("!", "!"), ("!!", Kind.tagStart)]

/-- How deep the reading of tokens can go. -/
def tokenDepth (tokens : List Token) : Nat := 4 * tokens.length + 8

/-- Reads the document that starts at the first token. -/
def readDocument (tokens : List Token) : Except Fault (Nat × Position) := do
  match tokens with
  | .directive _ :: _ | .documentStart :: _ =>
    let (rest, handles) ← readDirectives tokens false []
    let p : Position := { tokens := rest, handles := handles ++ standardHandles }
    match rest with
    | .documentStart :: _ =>
      let p := p.next
      if p.tokens.isEmpty || p.sees isOutside then return p.add none .empty
      else read (tokenDepth tokens) true false p
    | _ => p.refuse
  | _ => read (tokenDepth tokens) true false { tokens := tokens, handles := standardHandles }

/-- The nodes of the one document of a text. -/
def ofTokens? (tokens : List Token) : Except Fault (Option Graph) := do
  if tokens.isEmpty then return none
  else
    let (i, p) ← readDocument tokens
    let rest := p.tokens.dropWhile isClosing
    if rest.isEmpty then return some { nodes := p.nodes, root := i }
    else ({ p with tokens := rest } : Position).refuse

end Graph

end AccessPolicy.Yaml
