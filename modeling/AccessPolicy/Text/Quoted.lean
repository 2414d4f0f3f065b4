import AccessPolicy.Text.Half
import AccessPolicy.Text.Printable

/-!
# Quoted text

`Text.quoted` writes a text between single quotes, or between double quotes when it holds a single
quote and no double one. The quote in use and the backslash are escaped with a backslash, tab, line
feed and carriage return have short escapes, and other unprintable characters are written by their
code point in two, four or eight hexadecimal digits.
-/

namespace AccessPolicy.Text

/-- The lower-case hexadecimal digits of `n`, padded with zeros to at least `size`. -/
def hex (size n : Nat) : List Char :=
  let digits := Nat.toDigits 16 n
  List.replicate (size - digits.length) '0' ++ digits

/-- The quote that surrounds a text. -/
def quoteFor (cs : List Char) : Char :=
  if cs.contains '\x27' && !cs.contains '"' then '"' else '\x27'

/-- A character between quotes `q`. -/
def escape (q c : Char) : List Char :=
  if c = q ∨ c = '\\' then ['\\', c]
  else if c = '\n' then ['\\', 'n']
  else if c = '\r' then ['\\', 'r']
  else if c = '\t' then ['\\', 't']
  else if isPrintable c then [c]
  else if point c < 256 then '\\' :: 'x' :: hex 2 (point c)
  else if point c < 65536 then '\\' :: 'u' :: hex 4 (point c)
  else '\\' :: 'U' :: hex 8 (point c)

/-- A text in quotes. -/
def quoted (s : String) : String :=
  let q := quoteFor s.toList
  String.ofList (q :: (s.toList.flatMap (escape q) ++ [q]))

/-- A sequence of bytes in quotes; bytes outside the printable ASCII range are escaped. -/
def quotedBytes (bytes : List UInt8) : String :=
  let cs := bytes.map fun b => Char.ofNat b.toNat
  let q := quoteFor cs
  let escapeByte (c : Char) : List Char :=
    if c.toNat < 127 then escape q c else '\\' :: 'x' :: hex 2 c.toNat
  String.ofList ('b' :: q :: (cs.flatMap escapeByte ++ [q]))

end AccessPolicy.Text
