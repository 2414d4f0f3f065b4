/-!
# Base64

`Text.encodeBase64` writes three bytes as four characters of the base64 alphabet, with padding signs
where bytes are missing at the end. `Text.decodeBase64` reads groups of four characters of the
base64 alphabet as three bytes each. Characters outside the alphabet are passed over. Reading stops
at the padding that completes a group; a group that ends early without it, and text beyond ASCII,
are refused.
-/

namespace AccessPolicy.Text

/-- The six bits of a character of the alphabet. -/
def sextet? (c : Char) : Option Nat :=
  if 'A' ≤ c ∧ c ≤ 'Z' then some (c.toNat - 65)
  else if 'a' ≤ c ∧ c ≤ 'z' then some (c.toNat - 71)
  else if '0' ≤ c ∧ c ≤ '9' then some (c.toNat + 4)
  else if c = '+' then some 62
  else if c = '/' then some 63
  else none

/-- Reads characters onto the bytes read so far. `place` counts the characters of the present group,
`left` holds the bits not yet used, and `pads` counts the padding signs in a row. -/
def base64From : List Char → Nat → Nat → Nat → List UInt8 → Option (List UInt8)
  | [], place, _, _, acc => if place = 0 then some acc.reverse else none
  | c :: cs, place, left, pads, acc =>
    if c = '=' then
      if 2 ≤ place ∧ 4 ≤ place + (pads + 1) then some acc.reverse
      else base64From cs place left (pads + 1) acc
    else match sextet? c with
      | none => base64From cs place left pads acc
      | some v => match place with
        | 0 => base64From cs 1 v 0 acc
        | 1 => base64From cs 2 (v % 16) 0 (UInt8.ofNat (left * 4 + v / 16) :: acc)
        | 2 => base64From cs 3 (v % 4) 0 (UInt8.ofNat (left * 16 + v / 4) :: acc)
        | _ => base64From cs 0 0 0 (UInt8.ofNat (left * 64 + v) :: acc)

/-- Reads base64 text. -/
def decodeBase64 (cs : List Char) : Option (List UInt8) :=
  if cs.all fun c => c.toNat < 128 then base64From cs 0 0 0 [] else none

/-- The character of the alphabet for six bits. -/
def sextetChar (v : Nat) : Char :=
  if v < 26 then Char.ofNat (v + 65)
  else if v < 52 then Char.ofNat (v + 71)
  else if v < 62 then Char.ofNat (v - 4)
  else if v = 62 then '+'
  else '/'

/-- Writes base64 text. -/
def encodeBase64 : List UInt8 → List Char
  | a :: b :: c :: rest =>
    let n := a.toNat * 65536 + b.toNat * 256 + c.toNat
    sextetChar (n / 262144) :: sextetChar (n / 4096 % 64) :: sextetChar (n / 64 % 64)
      :: sextetChar (n % 64) :: encodeBase64 rest
  | [a, b] =>
    let n := a.toNat * 256 + b.toNat
    [sextetChar (n / 1024), sextetChar (n / 16 % 64), sextetChar (n % 16 * 4), '=']
  | [a] => [sextetChar (a.toNat / 4), sextetChar (a.toNat % 4 * 16), '=', '=']
  | [] => []

end AccessPolicy.Text
