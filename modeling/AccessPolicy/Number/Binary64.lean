/-!
# Binary floating-point numbers

A `Binary64` is a signed dyadic number `mantissa · 2 ^ exponent`, an infinity, or not a number.
Finite values are kept in the canonical form of the 64-bit format: the mantissa has 53 bits unless
the exponent is the least one, `-1074`. Everything is exact natural-number arithmetic: rounding
takes the nearest representable value, a half going to the even mantissa.

* `Binary64.ofRatio` rounds a quotient, `Binary64.ofDecimal` a decimal numeral;
* `Binary64.truncate` drops the fraction toward zero;
* `Binary64.compareInt`, `Binary64.compare` order values exactly, without rounding either side.
-/

namespace AccessPolicy

/-- A floating-point number of the 64-bit binary format. -/
inductive Binary64 where
  /-- The number `± mantissa · 2 ^ exponent`. -/
  | finite (negative : Bool) (mantissa : Nat) (exponent : Int)
  /-- An infinity of either sign. -/
  | infinity (negative : Bool)
  /-- The value that is no number. -/
  | notANumber
deriving DecidableEq, Repr, Inhabited

namespace Binary64

/-- The least exponent of the format. -/
def minExponent : Int := -1074

/-- The greatest exponent of the format. -/
def maxExponent : Int := 971

/-- Zero, of either sign. -/
def zero (negative : Bool) : Binary64 := .finite negative 0 minExponent

/-- The quotient `num / den / 2 ^ e` as a pair of naturals. -/
def scaled (num den : Nat) (e : Int) : Nat × Nat :=
  if 0 ≤ e then (num, den * Nat.pow 2 e.toNat) else (num * Nat.pow 2 (-e).toNat, den)

/-- The integer nearest to `num / den`; a half goes to the even neighbour. -/
def roundHalfEven (num den : Nat) : Nat :=
  let q := num / den
  let twice := 2 * (num % den)
  if twice < den then q
  else if den < twice then q + 1
  else if q % 2 = 0 then q else q + 1

/-- The exponent at which `num / den` has 53 bits before its fraction, never below the least one. -/
def exponentFor (num den : Nat) : Int :=
  let guess : Int := max minExponent ((num.log2 : Int) - (den.log2 : Int) - 53)
  let (n, d) := scaled num den guess
  if n / d < Nat.pow 2 53 then guess else guess + 1

/-- The representable number nearest to `± num / den`, for a positive `den`. -/
def ofRatio (negative : Bool) (num den : Nat) : Binary64 :=
  if num = 0 then zero negative
  else
    let e := exponentFor num den
    let (n, d) := scaled num den e
    let m := roundHalfEven n d
    let (m, e) := if m = Nat.pow 2 53 then (Nat.pow 2 52, e + 1) else (m, e)
    if maxExponent < e then .infinity negative else .finite negative m e

/-- The representable number nearest to `± digits · 10 ^ exponent`. Numerals whose leading digit
stands far outside the range of the format are settled without computing the power. -/
def ofDecimal (negative : Bool) (digits : Nat) (exponent : Int) : Binary64 :=
  if digits = 0 then zero negative
  else
    let top : Int := (digits.log2 : Int) * 3 / 10 + exponent
    if 400 < top then .infinity negative
    else if top < -400 then zero negative
    else if 0 ≤ exponent then ofRatio negative (digits * Nat.pow 10 exponent.toNat) 1
    else ofRatio negative digits (Nat.pow 10 (-exponent).toNat)

/-- The representable number nearest to an integer. -/
def ofInt (n : Int) : Binary64 := ofRatio (n < 0) n.natAbs 1

/-- The magnitude of a finite number as a quotient of naturals. -/
def magnitude (mantissa : Nat) (exponent : Int) : Nat × Nat :=
  if 0 ≤ exponent then (mantissa * Nat.pow 2 exponent.toNat, 1)
  else (mantissa, Nat.pow 2 (-exponent).toNat)

/-- The numerator, sign included, and the denominator of a finite number. -/
def ratio (negative : Bool) (mantissa : Nat) (exponent : Int) : Int × Nat :=
  let (n, d) := magnitude mantissa exponent
  (if negative then -(n : Int) else n, d)

/-- The integer part, toward zero; `none` for infinities and the value that is no number. -/
def truncate : Binary64 → Option Int
  | .finite negative m e =>
    let (n, d) := magnitude m e
    some (if negative then -((n / d : Nat) : Int) else ((n / d : Nat) : Int))
  | _ => none

/-- Exact comparison; `none` when either side is no number. -/
def compare : Binary64 → Binary64 → Option Ordering
  | .notANumber, _ => none
  | _, .notANumber => none
  | .infinity a, .infinity b => some (if a = b then .eq else if a then .lt else .gt)
  | .infinity a, .finite .. => some (if a then .lt else .gt)
  | .finite .., .infinity b => some (if b then .gt else .lt)
  | .finite s m e, .finite s' m' e' =>
    let (n, d) := ratio s m e
    let (n', d') := ratio s' m' e'
    some (Ord.compare (n * d') (n' * d))

/-- An integer as an exact dyadic number, whatever its size. Used for comparisons only: the result
need not be canonical. -/
def exactInt (n : Int) : Binary64 := .finite (n < 0) n.natAbs 0

/-- Exact comparison with an integer. -/
def compareInt (x : Binary64) (n : Int) : Option Ordering := compare x (exactInt n)

/-- The number with the opposite sign. -/
def neg : Binary64 → Binary64
  | .finite s m e => .finite (!s) m e
  | .infinity s => .infinity (!s)
  | .notANumber => .notANumber

/-- The representable number nearest to a signed quotient. -/
def ofSignedRatio (num : Int) (den : Nat) : Binary64 := ofRatio (num < 0) num.natAbs den

/-- The rounded sum. -/
def add : Binary64 → Binary64 → Binary64
  | .finite s m e, .finite s' m' e' =>
    let (n, d) := ratio s m e
    let (n', d') := ratio s' m' e'
    if m = 0 ∧ m' = 0 then zero (s && s') else ofSignedRatio (n * d' + n' * d) (d * d')
  | .infinity a, .infinity b => if a = b then .infinity a else .notANumber
  | .notANumber, _ => .notANumber
  | _, .notANumber => .notANumber
  | .infinity a, _ => .infinity a
  | _, .infinity b => .infinity b

/-- Whether a number is zero, of either sign. -/
def isZero : Binary64 → Bool
  | .finite _ m _ => m = 0
  | _ => false

/-- Whether a number is negative; zero counts by its sign. -/
def isNegative : Binary64 → Bool
  | .finite s _ _ | .infinity s => s
  | .notANumber => false

/-- The rounded product. -/
def mul (x y : Binary64) : Binary64 :=
  let negative := x.isNegative != y.isNegative
  match x, y with
  | .finite _ m e, .finite _ m' e' =>
    let (n, d) := magnitude m e
    let (n', d') := magnitude m' e'
    ofRatio negative (n * n') (d * d')
  | .notANumber, _ => .notANumber
  | _, .notANumber => .notANumber
  | _, _ => if x.isZero || y.isZero then .notANumber else .infinity negative

end Binary64

end AccessPolicy
