import AccessPolicy.Number.Binary64
import AccessPolicy.Text.Digit
import AccessPolicy.Text.Line

/-!
# Reading numerals

`Numeral.integer` reads an integer numeral: blanks around it, a sign, and digits of any script with
single underscores between them. A numeral in another radix than ten may open with the mark of that
radix. `Numeral.read` does the same, but reads no decimal numeral of more than `Numeral.longest`
digits; no integer of more digits is written either. `Numeral.float` reads a decimal numeral with an
optional point and exponent, or the name of an infinity or of the value that is no number.
-/

namespace AccessPolicy

/-- Why a text is not read as an integer, or an integer not written as a text. -/
inductive IntegerFault where
  /-- A text is no numeral of a radix. -/
  | malformed (radix : Nat) (found : String)
  /-- A decimal numeral has too many digits. -/
  | tooManyDigits (count : Nat)
  /-- An integer has too many decimal digits to be written. -/
  | tooLong
deriving DecidableEq, Repr

namespace Numeral

/-- Whether a character may stand around a numeral: an ASCII blank, or a blank beyond ASCII. -/
def isMargin (c : Char) : Bool :=
  Text.isAsciiBlank c || (127 < c.toNat && Text.isBlank c)

/-- A text without the blanks around it. -/
def trim (cs : List Char) : List Char := Text.trim isMargin cs

/-- The sign that opens a numeral, and the rest. -/
def sign : List Char → Bool × List Char
  | '-' :: cs => (true, cs)
  | '+' :: cs => (false, cs)
  | cs => (false, cs)

/-- The value of a digit in a radix up to 36. -/
def digit? (radix : Nat) (c : Char) : Option Nat :=
  let value := match Text.digitValue? c with
    | some d => some d
    | none =>
      if 'a' ≤ c ∧ c ≤ 'z' then some (c.toNat - 87)
      else if 'A' ≤ c ∧ c ≤ 'Z' then some (c.toNat - 55) else none
  value.filter (· < radix)

/-- Reads digits with single underscores between them, most significant first, onto a value read so
far. -/
def digits (radix : Nat) (value : Nat) : List Char → Option Nat
  | [] => some value
  | '_' :: c :: cs => do digits radix (value * radix + (← digit? radix c)) cs
  | c :: cs => do digits radix (value * radix + (← digit? radix c)) cs

/-- Reads a non-empty run of digits. -/
def natural (radix : Nat) : List Char → Option Nat
  | [] => none
  | '_' :: _ => none
  | cs => digits radix 0 cs

/-- The letters that mark a radix after a leading zero. -/
def radixMarks : Nat → List Char
  | 16 => ['x', 'X']
  | 8 => ['o', 'O']
  | 2 => ['b', 'B']
  | _ => []

/-- Drops the mark of a radix. -/
def dropMark (radix : Nat) : List Char → List Char
  | '0' :: m :: rest => if m ∈ radixMarks radix then rest else '0' :: m :: rest
  | cs => cs

/-- Reads an integer numeral in a radix. -/
def integer (radix : Nat) (text : List Char) : Option Int :=
  let (negative, cs) := sign (trim text)
  (natural radix (dropMark radix cs)).map fun n => if negative then -(n : Int) else n

/-! ### The number of digits -/

/-- The greatest number of decimal digits of an integer that is read or written. -/
def longest : Nat := 4300

/-- The number of decimal digits at the start of an unsigned numeral, zeros before the number
included. Digits with misplaced underscores between them do not count. -/
def digitCount (cs : List Char) : Nat :=
  let run := cs.takeWhile fun c => c == '_' || (digit? 10 c).isSome
  if (natural 10 run).isSome then run.countP (· != '_') else 0

/-- Reads an integer numeral in a radix. In radix ten there must not be too many digits; they are
counted before it is looked at what comes after them. -/
def read (radix : Nat) (text : List Char) : Except IntegerFault Int :=
  let count := digitCount (sign (trim text)).2
  if radix = 10 ∧ longest < count then .error (.tooManyDigits count)
  else match integer radix text with
    | some n => .ok n
    | none => .error (.malformed radix (String.ofList text))

/-- The characters of bytes, to read a numeral from. A byte beyond ASCII is part of no numeral. -/
def ofBytes (b : List UInt8) : List Char :=
  b.map fun x => if x < 128 then Char.ofNat x.toNat else '?'

/-- Whether an integer has few enough decimal digits to be written. -/
def isWritable (n : Int) : Bool := (Nat.toDigits 10 n.natAbs).length ≤ longest

/-! ### Decimal numerals with a point -/

/-- The value of a run of decimal digits, most significant first. -/
def decimalValue (cs : List Char) : Nat :=
  cs.foldl (fun n c => n * 10 + (Text.digitValue? c).getD 0) 0

/-- Whether a character is a decimal digit of some script. -/
def isDigit (c : Char) : Bool := (Text.digitValue? c).isSome

/-- Reads an exponent: nothing, or the letter, a sign and digits. -/
def exponent : List Char → Option Int
  | [] => some 0
  | e :: cs =>
    if e = 'e' ∨ e = 'E' then
      let (negative, cs) := sign cs
      if cs.isEmpty ∨ !cs.all isDigit then none
      else some (if negative then -(decimalValue cs : Int) else decimalValue cs)
    else none

/-- Reads an unsigned decimal numeral. -/
def unsignedFloat (negative : Bool) (cs : List Char) : Option Binary64 :=
  let name := cs.map Char.toLower
  if name = "inf".toList ∨ name = "infinity".toList then some (.infinity negative)
  else if name = "nan".toList then some .notANumber
  else
    let whole := cs.takeWhile isDigit
    let rest := cs.dropWhile isDigit
    let (fraction, tail) := match rest with
      | '.' :: r => (r.takeWhile isDigit, r.dropWhile isDigit)
      | r => ([], r)
    if whole.isEmpty ∧ fraction.isEmpty then none
    else (exponent tail).map fun e =>
      Binary64.ofDecimal negative (decimalValue (whole ++ fraction)) (e - fraction.length)

/-- Reads a decimal numeral. -/
def float (text : List Char) : Option Binary64 :=
  let (negative, cs) := sign (trim text)
  unsignedFloat negative cs

end Numeral

end AccessPolicy
