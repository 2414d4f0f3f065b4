import AccessPolicy.Number.Binary64

/-!
# Shortest decimal numerals

`Binary64.shortest` finds the fewest decimal digits that read back as a given number, and of those
the nearest. The reals that round to `m · 2 ^ e` form an interval around it, closed exactly when
`m` is even. For grids `10 ^ p` of falling step the two neighbours of the number on the grid are
tested against the interval; the first grid with a hit wins. Seventeen digits always suffice.

`Binary64.text` lays the digits out: positional from `1e-4` up to but excluding `1e16`, with an
exponent of at least two digits elsewhere.
-/

namespace AccessPolicy

namespace Binary64

/-- The interval of reals that round to a number, as numerators over a common denominator, with
the number itself in the middle. -/
structure Basin where
  /-- Numerator of the lower end. -/
  low : Nat
  /-- Numerator of the number. -/
  mid : Nat
  /-- Numerator of the upper end. -/
  high : Nat
  /-- The common denominator. -/
  den : Nat
  /-- Whether the ends belong to the interval. -/
  closed : Bool

/-- The basin of `m · 2 ^ e`. Below a power of two the neighbour is half as far away. -/
def basin (m : Nat) (e : Int) : Basin :=
  let (n, d) := magnitude 1 (e - 2)
  let below := if m = Nat.pow 2 52 ∧ minExponent < e then 1 else 2
  { low := (4 * m - below) * n, mid := 4 * m * n, high := (4 * m + 2) * n, den := d
    closed := m % 2 = 0 }

/-- Whether the decimal `k · 10 ^ p` lies in the basin. -/
def Basin.holds (b : Basin) (k : Nat) (p : Int) : Bool :=
  let (n, d) := if 0 ≤ p then (k * Nat.pow 10 p.toNat, 1) else (k, Nat.pow 10 (-p).toNat)
  let x := n * b.den
  if b.closed then b.low * d ≤ x && x ≤ b.high * d else b.low * d < x && x < b.high * d

/-- The neighbours of the middle on the grid `10 ^ p`, the nearer one first. A tie prefers the even
neighbour. -/
def Basin.neighbours (b : Basin) (p : Int) : Nat × Nat :=
  let (n, d) :=
    if 0 ≤ p then (b.mid, b.den * Nat.pow 10 p.toNat) else (b.mid * Nat.pow 10 (-p).toNat, b.den)
  let q := n / d
  let twice := 2 * (n % d)
  if twice < d ∨ (twice = d ∧ q % 2 = 0) then (q, q + 1) else (q + 1, q)

/-- Searches the grids of at most `fuel` falling steps from `10 ^ p`. -/
def Basin.search (b : Basin) : Nat → Int → Nat × Int
  | 0, p => ((b.neighbours p).1, p)
  | fuel + 1, p =>
    let (near, far) := b.neighbours p
    if near ≠ 0 ∧ b.holds near p then (near, p)
    else if far ≠ 0 ∧ b.holds far p then (far, p)
    else b.search fuel (p - 1)

/-- The number of decimal digits of a natural number. -/
def digitCount (n : Nat) : Nat := (Nat.toDigits 10 n).length

/-- The shortest decimal `k · 10 ^ p` that reads back as `m · 2 ^ e`, for a positive `m`. -/
def shortest (m : Nat) (e : Int) : Nat × Int :=
  let b := basin m e
  let whole := b.mid / b.den
  let top : Int :=
    if 0 < whole then (digitCount whole : Int)
    else 1 - (digitCount (b.den / b.mid) : Int)
  b.search 20 top

/-- Drops trailing zeros of a decimal, raising the exponent. The first argument bounds the
number of steps. -/
def trimZeros : Nat → Nat → Int → Nat × Int
  | 0, k, p => (k, p)
  | fuel + 1, k, p => if k ≠ 0 ∧ k % 10 = 0 then trimZeros fuel (k / 10) (p + 1) else (k, p)

end Binary64

/-- The spellings in which texts of floating-point numbers differ from format to format. -/
structure FloatStyle where
  /-- Text of the positive infinity; the negative one has `-` before it. -/
  infinity : String
  /-- Text of the value that is no number. -/
  notANumber : String
  /-- Whether a single digit before an exponent is followed by `.0`. -/
  pointBeforeExponent : Bool

namespace Binary64

/-- The unsigned text of `digits · 10 ^ p`, with `digits` free of trailing zeros. -/
def layOut (style : FloatStyle) (digits : List Char) (p : Int) : List Char :=
  let point : Int := digits.length + p
  if -3 ≤ point ∧ point ≤ 16 then
    if point ≤ 0 then '0' :: '.' :: (List.replicate (-point).toNat '0' ++ digits)
    else if (digits.length : Int) ≤ point then
      digits ++ List.replicate p.toNat '0' ++ ['.', '0']
    else digits.take point.toNat ++ '.' :: digits.drop point.toNat
  else
    let fraction := digits.drop 1
    let mark :=
      if fraction.isEmpty then (if style.pointBeforeExponent then ['.', '0'] else [])
      else '.' :: fraction
    let power := point - 1
    let size := Nat.toDigits 10 power.natAbs
    digits.take 1 ++ mark ++ 'e' :: (if power < 0 then '-' else '+')
      :: (if size.length < 2 then '0' :: size else size)

/-- The text of a floating-point number: the fewest digits that read back. -/
def text (style : FloatStyle) : Binary64 → String
  | .notANumber => style.notANumber
  | .infinity negative => (if negative then "-" else "") ++ style.infinity
  | .finite negative m e =>
    let body :=
      if m = 0 then ['0', '.', '0']
      else
        let (k, p) := shortest m e
        let (k, p) := trimZeros 400 k p
        layOut style (Nat.toDigits 10 k) p
    String.ofList (if negative then '-' :: body else body)

end Binary64

end AccessPolicy
