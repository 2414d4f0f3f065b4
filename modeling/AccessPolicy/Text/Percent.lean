import AccessPolicy.Text.Digit
import AccessPolicy.Text.Half
import AccessPolicy.Text.Quoted

/-!
# Percent encoding

`Text.percentEncode` makes a text fit for a URI: characters that a URI may hold are kept, all others
are written as their UTF-8 bytes in hexadecimal, each after a percent sign. A text in which a byte
is encoded already counts as encoded throughout, and is kept as it is.
-/

namespace AccessPolicy.Text

/-- Whether a character may stand in a URI. -/
def isUriChar (c : Char) : Bool :=
  c.isAlphanum || "-._~:/?#[]@!$&\x27()*+,;=".toList.contains c

/-- Whether characters are two hexadecimal digits and more. -/
def startsHexPair : List Char → Bool
  | a :: b :: _ => isHexDigit a && isHexDigit b
  | _ => false

/-- Whether a byte is encoded in a text. -/
def holdsEncoded : List Char → Bool
  | [] => false
  | c :: rest => (c == '%' && startsHexPair rest) || holdsEncoded rest

/-- The encoding of a character. -/
def percentChar (c : Char) : List Char :=
  (String.singleton c).toUTF8.toList.flatMap fun b => '%' :: (hex 2 b.toNat).map Char.toUpper

/-- Whether a text can be encoded: it is already, or all its characters are whole. -/
def canPercentEncode (cs : List Char) : Bool := holdsEncoded cs || isWhole cs

/-- A text with all characters encoded that a URI cannot hold, unless it is encoded already. -/
def percentEncode (cs : List Char) : List Char :=
  if holdsEncoded cs then cs
  else cs.flatMap fun c => if isUriChar c then [c] else percentChar c

end AccessPolicy.Text
