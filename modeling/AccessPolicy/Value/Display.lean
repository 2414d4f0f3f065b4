import AccessPolicy.Number.Numeral
import AccessPolicy.Number.Shortest
import AccessPolicy.Text.Quoted
import AccessPolicy.Value.Basic

/-!
# The text of a value

`Value.term` is the text of a value as messages show it: texts in quotes, `None`, `True` and `False`
for null and the booleans, lists in brackets, maps in braces. Points stand for a list or map inside
itself. `Value.plain` is the text of a value that stands for itself: a text is unquoted.

Integers of more than `Numeral.longest` digits are not written. `Value.isWritable` holds of the
values without such integers: they are those that have a text, and whoever shows a value asks for
it.
-/

namespace AccessPolicy

/-- Floating-point numbers in messages. -/
def FloatStyle.message : FloatStyle := ⟨"inf", "nan", false⟩

namespace Value

/-- What stands for a list or map inside itself. -/
def ellipsis (isMap : Bool) : String := if isMap then "\x7b...\x7d" else "[...]"

/-- Whether a value is a map. -/
def isMap : Value → Bool
  | map _ => true
  | _ => false

mutual

/-- The text of a value inside knots of given labels. -/
def termIn (around : List Nat) : Value → String
  | null => "None"
  | bool b => if b then "True" else "False"
  | int n => toString n
  | float x => x.text .message
  | text s => Text.quoted s
  | list items => "[" ++ ", ".intercalate (terms around items) ++ "]"
  | map entries => "\x7b" ++ ", ".intercalate (entryTerms around entries) ++ "\x7d"
  | date d => d.term
  | moment t => t.term
  | bytes b => Text.quotedBytes b
  | set items => match items with
    | [] => "set()"
    | x :: xs => "\x7b" ++ ", ".intercalate (termIn around x :: terms around xs) ++ "\x7d"
  | pair a b => "(" ++ termIn around a ++ ", " ++ termIn around b ++ ")"
  | knot l v => if around.contains l then ellipsis v.isMap else termIn (l :: around) v
  | again _ isMap => ellipsis isMap

/-- The texts of the items of a list. -/
def terms (around : List Nat) : List Value → List String
  | [] => []
  | x :: xs => termIn around x :: terms around xs

/-- The texts of the entries of a map. -/
def entryTerms (around : List Nat) : List (Value × Value) → List String
  | [] => []
  | (k, v) :: rest => (termIn around k ++ ": " ++ termIn around v) :: entryTerms around rest

end

mutual

/-- Whether a value has a text: no integer in it is too long to be written. -/
def isWritable : Value → Bool
  | int n => Numeral.isWritable n
  | list items | set items => areWritable items
  | map entries => entriesWritable entries
  | pair a b => a.isWritable && b.isWritable
  | knot _ v => v.isWritable
  | null | bool _ | float _ | text _ | date _ | moment _ | bytes _ | again _ _ => true

/-- Whether the items of a list have texts. -/
def areWritable : List Value → Bool
  | [] => true
  | v :: rest => v.isWritable && areWritable rest

/-- Whether the entries of a map have texts. -/
def entriesWritable : List (Value × Value) → Bool
  | [] => true
  | (k, v) :: rest => k.isWritable && v.isWritable && entriesWritable rest

end

/-- The text of a value as messages show it. -/
def term (v : Value) : String := v.termIn []

/-- The text of a value that stands for itself. -/
def plain : Value → String
  | text s => s
  | date d => d.text
  | moment t => t.text " "
  | v => v.term

@[simp] theorem plain_text (s : String) : plain (.text s) = s := rfl

@[simp] theorem isWritable_null : isWritable .null = true := by rw [isWritable]

@[simp] theorem isWritable_text (s : String) : isWritable (.text s) = true := by rw [isWritable]

end Value

end AccessPolicy
