import AccessPolicy.Text.Case.Ranges
import AccessPolicy.Text.Printable

/-!
# Small letters

`Text.lower` writes a text in small letters, in every script. Two letters are no matter of a single
character: the capital i with a dot becomes an i and a combining dot, and the capital sigma has
another small form at the end of a word.
-/

namespace AccessPolicy.Text

/-- The small letter of a capital letter, if it is a single character; other characters are kept. -/
def lowerSingle (c : Char) : Char :=
  if c.toNat < 128 then c.toLower
  else match capitalRanges.find? fun r =>
      r.first ≤ c.toNat && c.toNat ≤ r.last && (c.toNat - r.first) % r.step = 0 with
    | some r => Char.ofNat ((c.toNat : Int) + r.offset).toNat
    | none => c

/-- Whether the first character that is not passed over has a case. -/
def meetsCased : List Char → Bool
  | [] => false
  | c :: cs =>
    if inRanges caseIgnorableRanges c.toNat then meetsCased cs else inRanges casedRanges c.toNat

/-- The small form of a capital sigma, given the characters before it, the last one first, and those
after it. -/
def lowerSigma (before after : List Char) : Char :=
  if meetsCased before && !meetsCased after then 'ς' else 'σ'

/-- A text in small letters, after some characters, the last one first. -/
def lowerFrom (before : List Char) : List Char → List Char
  | [] => []
  | c :: cs =>
    (if c = 'Σ' then [lowerSigma before cs]
      else if c = 'İ' then ['i', '\u0307']
      else [lowerSingle c]) ++ lowerFrom (c :: before) cs

/-- A text in small letters. -/
def lower (cs : List Char) : List Char := lowerFrom [] cs

end AccessPolicy.Text
