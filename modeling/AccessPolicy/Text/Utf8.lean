/-!
# UTF-8

`Text.decodeUtf8` reads bytes as UTF-8 text. At the first bytes that are no character it tells why,
which byte they start with, and from where to where they reach: the bytes that begin a character and
go on rightly, up to the one that does not.
-/

namespace AccessPolicy

/-- Why bytes are no UTF-8 text. -/
inductive EncodingFault where
  /-- A byte that starts no character. -/
  | badStart
  /-- A byte that does not go on with the character begun. -/
  | badContinuation
  /-- The bytes end inside a character. -/
  | cutShort
deriving DecidableEq, Repr

namespace EncodingFault

/-- The wording of an encoding fault. -/
def text : EncodingFault → String
  | badStart => "invalid start byte"
  | badContinuation => "invalid continuation byte"
  | cutShort => "unexpected end of data"

end EncodingFault

/-- Where bytes stop being UTF-8 text. -/
structure BadBytes where
  /-- Why. -/
  cause : EncodingFault
  /-- The first byte that is no text. -/
  byte : UInt8
  /-- Where it stands. -/
  first : Nat
  /-- Where the last byte stands that belongs to it. -/
  last : Nat
deriving DecidableEq, Repr

namespace Text

/-- The number of bytes after a first byte, and the range of the second one. -/
def followers? (b : UInt8) : Option (Nat × Nat × Nat) :=
  let n := b.toNat
  if n < 0x80 then some (0, 0, 0)
  else if n < 0xC2 then none
  else if n < 0xE0 then some (1, 0x80, 0xBF)
  else if n == 0xE0 then some (2, 0xA0, 0xBF)
  else if n == 0xED then some (2, 0x80, 0x9F)
  else if n < 0xF0 then some (2, 0x80, 0xBF)
  else if n == 0xF0 then some (3, 0x90, 0xBF)
  else if n < 0xF4 then some (3, 0x80, 0xBF)
  else if n == 0xF4 then some (3, 0x80, 0x8F)
  else none

/-- The payload bits of a first byte with the given number of bytes after it. -/
def leadBits (count : Nat) (b : UInt8) : Nat :=
  match count with
  | 0 => b.toNat
  | 1 => b.toNat % 32
  | 2 => b.toNat % 16
  | _ => b.toNat % 8

/-- Reads the bytes after a first byte: the code point, or how many were right and why no more. -/
def readFollowers :
    Nat → Nat → Nat → Nat → Nat → List UInt8 → Except (EncodingFault × Nat) Nat
  | 0, _, _, value, _, _ => .ok value
  | _ + 1, _, _, _, seen, [] => .error (.cutShort, seen)
  | n + 1, low, high, value, seen, b :: rest =>
    if low ≤ b.toNat ∧ b.toNat ≤ high then
      readFollowers n 0x80 0xBF (value * 64 + b.toNat % 64) (seen + 1) rest
    else .error (.badContinuation, seen)

/-- Reads bytes as text, at most `fuel` characters, from a given offset on. -/
def decodeFrom : Nat → Nat → List UInt8 → List Char → Except BadBytes (List Char)
  | _, _, [], acc => .ok acc.reverse
  | 0, _, _, acc => .ok acc.reverse
  | fuel + 1, offset, b :: rest, acc =>
    match followers? b with
    | none => .error ⟨.badStart, b, offset, offset⟩
    | some (count, low, high) =>
      match readFollowers count low high (leadBits count b) 0 rest with
      | .ok value =>
        decodeFrom fuel (offset + 1 + count) (rest.drop count) (Char.ofNat value :: acc)
      | .error (cause, seen) => .error ⟨cause, b, offset, offset + seen⟩

/-- Reads bytes as text. -/
def decodeUtf8 (bytes : List UInt8) : Except BadBytes (List Char) :=
  decodeFrom bytes.length 0 bytes []

end Text

end AccessPolicy
