import AccessPolicy.Text.Base64
import AccessPolicy.Yaml.Page

/-!
# From values to YAML

`Yaml.render` writes a map as a document: lists and maps by indentation, in the order of their
entries, empty ones in brackets or braces. The dashes of a list that is a map's value stand at the
column of the map's keys.
-/

namespace AccessPolicy.Yaml

/-- The columns by which an inner list or map is indented. -/
def stepIn : Nat := 2

/-- The characters of a scalar that is no text. -/
def scalarText : Value → String
  | .null => "null"
  | .bool b => if b then "true" else "false"
  | .int n => toString n
  | .float x => x.text .yaml
  | .text s => s
  | .date d => d.text
  | .moment t => t.text " "
  | _ => ""

/-- The kind of a value. -/
def kindOf : Value → Kind
  | .null => .null
  | .bool _ => .bool
  | .int _ => .int
  | .float _ => .float
  | .text _ => .text
  | .date _ | .moment _ => .timestamp
  | .bytes _ => .binary
  | .list _ | .pair _ _ => .list
  | .map _ => .map
  | .set _ => .set
  | .knot _ v => kindOf v
  | .again _ isMap => if isMap then .map else .list

/-- The short tag of a kind. -/
def shortTag (k : Kind) : String :=
  match Kind.names.find? fun e => e.2 == k with
  | some (name, _) => "!!" ++ name
  | none => ""

/-- The most characters that a key without a question mark has together with its tag. -/
def longestKey : Nat := 127

/-- Whether a character breaks the line of a key. A carriage return alone does not: it is written as
an escape. -/
def breaksKey (c : Char) : Bool := isBreak c && c != '\r'

/-- Whether a key can be written without a question mark: on one line, not empty and not too long.
-/
def isSimpleKey (v : Value) : Bool :=
  match v with
  | .list xs => xs.isEmpty
  | .map es => es.isEmpty
  | .set _ | .pair _ _ | .bytes _ | .knot _ _ | .again _ _ => false
  | v =>
    let cs := (scalarText v).toList
    !cs.isEmpty && !cs.any breaksKey && (shortTag (kindOf v)).length + cs.length ≤ longestKey

/-- Writes lines, each at an indentation. -/
def writeLines (n : Nat) : List (List Char) → Page → Page
  | [], p => p.breakLine
  | line :: rest, p => writeLines n rest ((p.breakLine.indent n).write line)

/-- A text in pieces of at most `size` characters. -/
def pieces (size : Nat) (cs : List Char) : List (List Char) :=
  (List.range ((cs.length + size - 1) / size)).map fun i => (cs.drop (i * size)).take size

/-- Writes a scalar, which goes on at an indentation if it may be broken. -/
def writeScalar (p : Page) (n : Option Nat) (v : Value) : Page :=
  match v with
  | .text s => p.writeText n s
  | .bytes b =>
    writeLines (n.getD stepIn) (pieces 76 (Text.encodeBase64 b))
      ((p.mark "!!binary" true false).mark "|" true false)
  | v => p.writePlain n (scalarText v).toList

/-- Whether a list goes on at the indentation of the map that it is a value of. -/
def listIndent (n : Nat) (inMap : Bool) (p : Page) : Nat :=
  if inMap && !p.fresh then n else n + stepIn

/-- The name of a label after a sign. -/
def anchor (sign : String) (label : Nat) : String := sign ++ "id" ++ toString label

mutual

/-- Writes a value inside a list or map at an indentation. -/
def writeValue : Value → Nat → Bool → Page → Page
  | .list items, n, inMap, p =>
    if items.isEmpty then p.mark "[]" true false else writeItems items (listIndent n inMap p) p
  | .pair a b, n, inMap, p =>
    let k := listIndent n inMap p
    writeValue b k false
      (((writeValue a k false ((p.indent k).mark "-" true true)).indent k).mark "-" true true)
  | .map es, n, _, p =>
    if es.isEmpty then p.mark "\x7b\x7d" true false else writeEntries es (n + stepIn) p
  | .set items, n, _, p =>
    let p := p.mark "!!set" true false
    if items.isEmpty then p.mark "\x7b\x7d" true false else writeElements items (n + stepIn) p
  | .knot l v, n, inMap, p => writeValue v n inMap (p.mark (anchor "&" l) true false)
  | .again l _, _, _, p => p.mark (anchor "*" l) true false
  | v, n, _, p => writeScalar p (some (n + stepIn)) v

/-- Writes the items of a list. -/
def writeItems : List Value → Nat → Page → Page
  | [], _, p => p
  | v :: rest, n, p => writeItems rest n (writeValue v n false ((p.indent n).mark "-" true true))

/-- Writes the entries of a map. -/
def writeEntries : List (Value × Value) → Nat → Page → Page
  | [], _, p => p
  | (k, v) :: rest, n, p => writeEntries rest n (writeValue v n true (writeKey k n p))

/-- Writes a key and the colon after it. -/
def writeKey : Value → Nat → Page → Page
  | k, n, p =>
    let p := p.indent n
    if isSimpleKey k then
      (match k with
        | .list _ => p.mark "[]" true false
        | .map _ => p.mark "\x7b\x7d" true false
        | k => writeScalar p none k).mark ":" false false
    else ((writeValue k n true (p.mark "?" true true)).indent n).mark ":" true true

/-- Writes the elements of a set, as keys of a map to null. -/
def writeElements : List Value → Nat → Page → Page
  | [], _, p => p
  | k :: rest, n, p =>
    writeElements rest n (writeScalar (writeKey k n p) (some (n + stepIn)) .null)

end

/-- The document of a map. -/
def render (es : List (Value × Value)) : String :=
  let p : Page := if es.isEmpty then Page.mark {} "\x7b\x7d" true false else writeEntries es 0 {}
  (p.indent 0).text

end AccessPolicy.Yaml
