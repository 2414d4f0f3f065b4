import AccessPolicy.File.Portions
import AccessPolicy.Yaml.Node.Grammar
import AccessPolicy.Yaml.Node.Value

/-!
# Documents

The value of the document of a text. The text is looked at in portions, and a portion with a
character that no YAML text may hold is refused as a whole: the faults met before it come first.

* `valueOf` is the value of a whole text;
* `valueBefore` is the fault of a text that is followed by something that cannot be read.
-/

namespace AccessPolicy.Yaml

/-- The value of a text of which the characters up to an edge can be looked at, where a fault lies
beyond the edge: null if there is no document. -/
def valueUpTo (edge : Nat) (beyond : Fault) (text : List Char) : Except Fault Value := do
  match ← Graph.ofTokens? (tokensUpTo edge beyond text) with
  | some g => g.value?
  | none => return .null

/-- What a text comes to in which the portion of a character cannot be looked at. -/
def valueUpToPortion (n : Nat) (beyond : Fault) (text : List Char) : Except Fault Value :=
  let edge := Portions.start n
  if edge = 0 then .error beyond else valueUpTo edge beyond (text.take edge)

/-- The value of the document of a text: null if there is none. -/
def valueOf (text : List Char) : Except Fault Value :=
  if text.all isAllowed then valueUpTo (text.length + 1) .malformed text
  else valueUpToPortion (text.takeWhile isAllowed).length .malformed text

/-- What a text comes to that is followed by something that cannot be read. -/
def valueBefore (text : List Char) (beyond : Fault) : Except Fault Value :=
  let allowed := (text.takeWhile isAllowed).length
  if Portions.start allowed < Portions.start text.length then
    valueUpToPortion allowed .malformed text
  else valueUpToPortion text.length beyond text

end AccessPolicy.Yaml
