import AccessPolicy.Number.Binary64
import AccessPolicy.Text.Line
import AccessPolicy.Text.Utf8

/-!
# Text in portions

The text of a file is taken in portions, and its bytes are decoded in chunks as the portions need
them. So bytes that are no text are found only when the portion is taken that needs their chunk, and
what is wrong with them is told with places counted from the start of that chunk, or of the bytes
that were left over from the one before.

* `Portions.start` is where the portion starts that a character belongs to;
* `Portions.broken?` is the text before the chunk that cannot be decoded.
-/

namespace AccessPolicy.Portions

/-- The number of characters in a portion. -/
def size : Nat := 4096

/-- The number of characters that are taken at first: two portions. -/
def firstSize : Nat := 2 * size

/-- Where the portion starts that a character belongs to, from zero. -/
def start (n : Nat) : Nat := if n < firstSize then 0 else n / size * size

/-- The least number of bytes in a chunk, except for the last one. -/
def chunkSize : Nat := 8192

/-- The number of bytes to take for some characters, if the chunk before gave `chars` characters for
`bytes` bytes. -/
def bytesFor (bytes chars wanted : Nat) : Nat :=
  if chars = 0 then chunkSize
  else
    let expected := ((Binary64.ofRatio false bytes chars).mul (Binary64.ofInt wanted)).truncate
    max chunkSize (expected.getD 0).toNat

/-- A text with line breaks unified, as far as they are known: a carriage return at its end may be
part of one. -/
def settled (cs : List Char) : List Char :=
  Text.unifyBreaks (if cs.getLast? == some '\r' then cs.dropLast else cs)

/-- Whether the bad bytes at the end of some may turn out otherwise when more follow: a character is
cut short, or two bytes of the three that would be a half of a pair. -/
def isOpen (data : List UInt8) (bad : BadBytes) : Bool :=
  bad.cause == .cutShort
    || (match data.drop bad.first with
        | [a, b] => a == 0xED && 0xA0 ≤ b && b ≤ 0xBF
        | _ => false)

/-- Decodes bytes in chunks, at most `n` of them. `left` are bytes left over, `cs` is the text so
far, and the last chunk gave `chars` characters for `bytes` bytes. Gives the text before the chunk
that cannot be decoded, and what is wrong with it. -/
def decodeChunks : Nat → List UInt8 → List UInt8 → List Char → Nat → Nat →
    Option (List Char × BadBytes)
  | 0, _, _, _, _, _ => none
  | n + 1, left, rest, cs, bytes, chars =>
    let known := settled cs
    let chunk := rest.take (bytesFor bytes chars (size - known.length % size))
    let data := left ++ chunk
    let go (more : List Char) (left : List UInt8) : Option (List Char × BadBytes) :=
      let cs := cs ++ more
      decodeChunks n left (rest.drop chunk.length) cs chunk.length
        ((settled cs).length - known.length)
    match Text.decodeUtf8 data with
    | .ok more => if chunk.isEmpty then none else go more []
    | .error bad =>
      if isOpen data bad && !chunk.isEmpty then
        go ((Text.decodeUtf8 (data.take bad.first)).toOption.getD []) (data.drop bad.first)
      else some (known, bad)

/-- The text before the first chunk of bytes that cannot be decoded, line breaks unified, and what
is wrong with that chunk. -/
def broken? (bytes : List UInt8) : Option (List Char × BadBytes) :=
  decodeChunks (bytes.length / chunkSize + 3) [] bytes [] 0 0

end AccessPolicy.Portions
