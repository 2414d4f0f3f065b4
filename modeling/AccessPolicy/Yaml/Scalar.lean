import AccessPolicy.Text.Base64
import AccessPolicy.Text.Line
import AccessPolicy.Yaml.Token

/-!
# Kinds of scalars

What a plain scalar is by its looks, and the value of a scalar of a given kind. Plain scalars are
booleans (`yes`, `no`, `on`, `off`, `true`, `false`), integers (in radix two, eight, ten, sixteen or
in groups of sixty), floating-point numbers (with a point, and a sign in the exponent), null, dates
and moments, the marks `<<` and `=` with a meaning as keys, and texts else.
-/

namespace AccessPolicy.Yaml

/-- The kinds of nodes. -/
inductive Kind where
  /-- Null. -/
  | null
  /-- A boolean. -/
  | bool
  /-- An integer. -/
  | int
  /-- A floating-point number. -/
  | float
  /-- A sequence of bytes. -/
  | binary
  /-- A date or a moment. -/
  | timestamp
  /-- A text. -/
  | text
  /-- A list. -/
  | list
  /-- A map. -/
  | map
  /-- A set, written as a map to nothing. -/
  | set
  /-- A list of pairs. -/
  | pairs
  /-- As a key: what follows is merged in. -/
  | merge
  /-- As a key: the default value. -/
  | default
  /-- A kind that is not known. -/
  | unknown
deriving DecidableEq, Repr, Inhabited

namespace Kind

/-- The kinds by the names that tags give them. -/
def names : List (String × Kind) :=
  [("null", null), ("bool", bool), ("int", int), ("float", float), ("binary", binary),
    ("timestamp", timestamp), ("str", text), ("seq", list), ("map", map), ("set", set),
    ("omap", pairs), ("pairs", pairs), ("merge", merge), ("value", default)]

/-- What the tags of all known kinds start with. -/
def tagStart : String := "tag:yaml.org,2002:"

/-- The kind that a tag names. -/
def ofTag (tag : String) : Kind :=
  ((names.find? fun e => tagStart ++ e.1 == tag).map (·.2)).getD unknown

end Kind

/-! ### The looks of plain scalars -/

/-- The words for booleans. -/
def booleans : List (String × Bool) :=
  [("yes", true), ("no", false), ("true", true), ("false", false), ("on", true), ("off", false)]

/-- The three ways to write a word: in small letters, with a capital, in capitals. -/
def spellings (word : String) : List String :=
  let cs := word.toList
  [word, String.ofList ((cs.take 1).map Char.toUpper ++ cs.drop 1),
    String.ofList (cs.map Char.toUpper)]

/-- Whether a text is a boolean. -/
def isBool (s : String) : Bool := booleans.any fun b => (spellings b.1).contains s

/-- Whether a text is null. -/
def isNull (s : String) : Bool := s == "" || s == "~" || (spellings "null").contains s

/-- Whether a character is a decimal digit or an underscore. -/
def isDigitOrBar (c : Char) : Bool := c.isDigit || c == '_'

/-- The parts of a text between colons. -/
def colonParts (cs : List Char) : List (List Char) := Text.splitOn (· == ':') cs

/-- Whether characters are a number below sixty in one or two digits. -/
def isSixtieth : List Char → Bool
  | [a] => a.isDigit
  | [a, b] => '0' ≤ a && a ≤ '5' && b.isDigit
  | _ => false

/-- Whether characters are groups of one or two digits below sixty, each after a colon. -/
def isSixties (cs : List Char) : Bool :=
  match colonParts cs with
  | [] :: groups => groups.all isSixtieth
  | _ => false

/-- Characters without a sign in front. -/
def dropSign : List Char → List Char
  | '-' :: cs => cs
  | '+' :: cs => cs
  | cs => cs

/-- Whether an unsigned numeral is an integer. -/
def isUnsignedInt : List Char → Bool
  | ['0'] => true
  | '0' :: 'b' :: cs => !cs.isEmpty && cs.all fun c => c == '0' || c == '1' || c == '_'
  | '0' :: 'x' :: cs => !cs.isEmpty && cs.all fun c => Text.isHexDigit c || c == '_'
  | '0' :: cs => cs.all fun c => ('0' ≤ c && c ≤ '7') || c == '_'
  | c :: cs => c.isDigit && isSixties (cs.dropWhile isDigitOrBar)
  | [] => false

/-- Whether a text is an integer. -/
def isInt (s : String) : Bool := isUnsignedInt (dropSign s.toList)

/-- Whether characters are an exponent with a sign, or nothing. -/
def isExponent : List Char → Bool
  | [] => true
  | e :: s :: d :: cs =>
    (e == 'e' || e == 'E') && (s == '-' || s == '+') && d.isDigit && cs.all Char.isDigit
  | _ => false

/-- Whether characters are a point with digits after it and an exponent, or only the point. -/
def isFraction : List Char → Bool
  | '.' :: cs => isExponent (cs.dropWhile isDigitOrBar)
  | _ => false

/-- Whether characters are groups of sixty followed by a point and digits. -/
def isSixtiesFraction (cs : List Char) : Bool :=
  let groups := cs.takeWhile (· != '.')
  match cs.drop groups.length with
  | '.' :: rest => !groups.isEmpty && isSixties groups && rest.all isDigitOrBar
  | _ => false

/-- Whether a text is a floating-point number. -/
def isFloat (s : String) : Bool :=
  let cs := dropSign s.toList
  [".inf", ".Inf", ".INF"].contains (String.ofList cs)
    || [".nan", ".NaN", ".NAN"].contains s
    || (match cs with
        | c :: _ =>
          c.isDigit && (isFraction (cs.dropWhile isDigitOrBar)
            || isSixtiesFraction (cs.dropWhile isDigitOrBar))
        | [] => false)
    || (match s.toList with
        | '.' :: d :: cs => d.isDigit && isExponent (cs.dropWhile isDigitOrBar)
        | _ => false)

/-- Characters without one line feed at their end, which does not count for the looks of a scalar. A
line feed alone is not nothing. -/
def dropLastBreak (cs : List Char) : List Char :=
  if 1 < cs.length && cs.getLast? == some '\n' then cs.dropLast else cs

/-! ### Dates and moments -/

/-- One or two digits, and what follows them. -/
def digitsUpTo2 : List Char → Option (Nat × List Char)
  | a :: b :: rest =>
    if a.isDigit && b.isDigit then some (Numeral.decimalValue [a, b], rest)
    else if a.isDigit then some (Numeral.decimalValue [a], b :: rest) else none
  | [a] => if a.isDigit then some (Numeral.decimalValue [a], []) else none
  | [] => none

/-- Two digits, and what follows them. -/
def digits2 : List Char → Option (Nat × List Char)
  | a :: b :: rest =>
    if a.isDigit && b.isDigit then some (Numeral.decimalValue [a, b], rest) else none
  | _ => none

/-- What follows a given character. -/
def after (c : Char) : List Char → Option (List Char)
  | x :: rest => if x == c then some rest else none
  | [] => none

/-- The six digits of microseconds that a fraction stands for. -/
def micros (digits : List Char) : Nat :=
  Numeral.decimalValue ((digits ++ List.replicate 6 '0').take 6)

/-- Reads an offset from universal time, which must be the rest of a moment. -/
def offset? (cs : List Char) : Option (Option Int) :=
  match cs.dropWhile isSpace with
  | [] => if cs.isEmpty then some none else none
  | ['Z'] => some (some 0)
  | s :: rest => do
    if s != '+' && s != '-' then none
    else
      let (hours, rest) ← digitsUpTo2 rest
      let minutes ← match rest with
        | [] => some 0
        | rest => do
          let (m, rest) ← digits2 (← after ':' rest)
          if rest.isEmpty then some m else none
      let total : Int := (hours * 60 + minutes : Nat)
      some (some (if s == '-' then -total else total))

/-- Reads the time of day after a date. -/
def time? (date : Date) (cs : List Char) : Option Moment := do
  let cs ← match cs with
    | 'T' :: rest => some rest
    | 't' :: rest => some rest
    | c :: rest => if isSpace c then some (rest.dropWhile isSpace) else none
    | [] => none
  let (hour, cs) ← digitsUpTo2 cs
  let (minute, cs) ← digits2 (← after ':' cs)
  let (second, cs) ← digits2 (← after ':' cs)
  let (micro, cs) := match cs with
    | '.' :: rest => (micros (rest.takeWhile Char.isDigit), rest.dropWhile Char.isDigit)
    | cs => (0, cs)
  let offset ← offset? cs
  some ⟨date, hour, minute, second, micro, offset⟩

/-- Reads a date or a moment; tells also whether month and day have two digits. Fields may be out of
range. -/
def timestamp? (s : String) : Option ((Date ⊕ Moment) × Bool) := do
  let cs := dropLastBreak s.toList
  let (century, rest) ← digits2 cs
  let (year, rest) ← digits2 rest
  let rest ← after '-' rest
  let (month, rest) ← digitsUpTo2 rest
  let rest ← after '-' rest
  let (day, rest) ← digitsUpTo2 rest
  let date : Date := ⟨century * 100 + year, month, day⟩
  if rest.isEmpty then some (.inl date, cs.length == 10)
  else
    let moment ← time? date rest
    some (.inr moment, true)

/-- Whether a text is a date, with two digits for month and day, or a moment. -/
def isTimestamp (s : String) : Bool :=
  match timestamp? s with
  | some (_, wide) => wide
  | none => false

/-- The kind of a plain scalar. -/
def plainKind (s : String) : Kind :=
  if isBool s then .bool
  else if isFloat s then .float
  else if isInt s then .int
  else if s == "<<" then .merge
  else if isNull s then .null
  else if isTimestamp s then .timestamp
  else if s == "=" then .default
  else .text

/-- The kind of a scalar in any style by its looks. -/
def looksKind (s : String) : Kind := plainKind (String.ofList (dropLastBreak s.toList))

/-! ### The values of scalars -/

/-- The value of a text that should be a numeral in a radix. -/
def radixValue (radix : Nat) (cs : List Char) : Except Failure Int :=
  (Numeral.read radix cs).mapError .badInteger

/-- The values of several integer numerals. -/
def integers : List (List Char) → Except Failure (List Int)
  | [] => .ok []
  | p :: ps => do
    let n ← radixValue 10 p
    return n :: (← integers ps)

/-- The value of an unsigned integer scalar. -/
def unsignedInt (cs : List Char) : Except Failure Int :=
  match cs with
  | [] => .error .tooShort
  | ['0'] => .ok 0
  | '0' :: 'b' :: rest => radixValue 2 rest
  | '0' :: 'x' :: rest => radixValue 16 rest
  | '0' :: _ => radixValue 8 cs
  | _ =>
    if cs.contains ':' then
      (integers (colonParts cs)).map fun ns => ns.foldl (fun total n => total * 60 + n) 0
    else radixValue 10 cs

/-- The value of an integer scalar. -/
def intValue (s : String) : Except Failure Value :=
  let cs := s.toList.filter (· != '_')
  if cs.isEmpty then .error .tooShort
  else (unsignedInt (dropSign cs)).map fun n => .int (if cs.head? == some '-' then -n else n)

/-- The value of a text that should be a decimal numeral. -/
def decimalFloat (cs : List Char) : Except Failure Binary64 :=
  match Numeral.float cs with
  | some x => .ok x
  | none => .error (.badFloat (String.ofList cs))

/-- The values of several decimal numerals. -/
def decimalFloats : List (List Char) → Except Failure (List Binary64)
  | [] => .ok []
  | p :: ps => do
    let x ← decimalFloat p
    return x :: (← decimalFloats ps)

/-- The sum of numbers in groups of sixty, the smallest first, onto a total. Each group is a unit
that is a whole number, rounded before it is taken times the number. -/
def sixtiesSum (unit : Nat) (total : Binary64) : List Binary64 → Except Failure Binary64
  | [] => .ok total
  | x :: rest => match Binary64.ofInt unit with
    | .finite s m e => sixtiesSum (unit * 60) (total.add (x.mul (.finite s m e))) rest
    | _ => .error .tooLarge

/-- The value of a floating-point scalar. -/
def floatValue (s : String) : Except Failure Value :=
  let cs := (s.toList.filter (· != '_')).map Char.toLower
  let signed (x : Binary64) : Value := .float (if cs.head? == some '-' then x.neg else x)
  let body := dropSign cs
  if cs.isEmpty then .error .tooShort
  else if body == ".inf".toList then .ok (signed (.infinity false))
  else if body == ".nan".toList then .ok (.float .notANumber)
  else if body.contains ':' then
    do
      let xs ← decimalFloats (colonParts body)
      return signed (← sixtiesSum 1 (.zero false) xs.reverse)
  else (decimalFloat body).map signed

/-- The value of a boolean scalar. -/
def boolValue (s : String) : Except Failure Value :=
  match booleans.lookup (String.ofList (s.toList.map Char.toLower)) with
  | some b => .ok (.bool b)
  | none => .error .unknownWord

/-- The value of a date or moment. -/
def timestampValue (s : String) : Except Failure Value :=
  match timestamp? s with
  | none => .error .noSuchPart
  | some (.inl date, _) => match date.check with
    | some e => .error (.calendar e)
    | none => .ok (.date date)
  | some (.inr moment, _) => match moment.check with
    | some e => .error (.calendar e)
    | none => .ok (.moment moment)

/-- The value of a scalar of a kind. -/
def scalarValue (kind : Kind) (s : String) : Except Fault Value :=
  match kind with
  | .null => .ok .null
  | .text => .ok (.text s)
  | .bool => (boolValue s).mapError .value
  | .int => (intValue s).mapError .value
  | .float => (floatValue s).mapError .value
  | .timestamp => (timestampValue s).mapError .value
  | .binary => match Text.decodeBase64 s.toList with
    | some bytes => .ok (.bytes bytes)
    | none => .error .malformed
  | _ => .error .malformed

end AccessPolicy.Yaml
