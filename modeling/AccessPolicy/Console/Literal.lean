import AccessPolicy.Number.Numeral
import AccessPolicy.Text.Half
import AccessPolicy.Text.Letter
import AccessPolicy.Text.Line

/-!
# Literals

A literal writes a value: a number, a text or bytes in quotes, one of the words `True`, `False` and
`None`, an ellipsis, or a tuple, set or map of literals. `isLiteral` tells whether a text is a
literal. It reads the text in two steps: `Token.read?` cuts it into tokens, and `expression` follows
the grammar.

The elements of a set and the keys of a map must be hashable, which sets and maps are not. A sign
may stand before a number, and a real number may be followed by a sign and an imaginary one.
-/

namespace AccessPolicy.Console.Literal

/-- A token of a literal. -/
inductive Token where
  /-- A number, imaginary or real. -/
  | number (imaginary : Bool)
  /-- A text in quotes. -/
  | text
  /-- Bytes in quotes. -/
  | bytes
  /-- A word that is a value, or an ellipsis. -/
  | constant
  /-- The word that, with empty parentheses, is the empty set. -/
  | emptySet
  /-- A plus or minus sign. -/
  | sign
  /-- A bracket, a comma or a colon. -/
  | mark (c : Char)
deriving DecidableEq, Repr

/-! ### Numbers -/

/-- What follows digits with single underscores between them, after the first digit. -/
def afterDigits (isDigit : Char → Bool) : List Char → Option (List Char)
  | [] => some []
  | '_' :: cs => match cs with
    | [] => none
    | c :: cs => if isDigit c then afterDigits isDigit cs else none
  | c :: cs => if isDigit c then afterDigits isDigit cs else some (c :: cs)

/-- What follows digits, of which there must be one. -/
def digits? (isDigit : Char → Bool) : List Char → Option (List Char)
  | [] => none
  | c :: cs => if isDigit c then afterDigits isDigit cs else none

/-- What follows the digits of a number after the mark of its radix. -/
def radixDigits? (isDigit : Char → Bool) : List Char → Option (List Char)
  | '_' :: cs => digits? isDigit cs
  | cs => digits? isDigit cs

/-- Whether digits are those of a decimal integer: no zeros before it, and not too many digits. -/
def isInteger (digits : List Char) : Bool :=
  let digits := digits.filter Char.isDigit
  (digits.head? != some '0' || digits.all (· == '0')) && digits.length ≤ Numeral.longest

/-- What follows an exponent, where one is here. -/
def exponent? : List Char → Option (List Char)
  | e :: s :: cs =>
    if e == 'e' || e == 'E' then
      if s == '+' || s == '-' then digits? Char.isDigit cs else digits? Char.isDigit (s :: cs)
    else some (e :: s :: cs)
  | [e] => if e == 'e' || e == 'E' then none else some [e]
  | [] => some []

/-- Reads a decimal number: whether it is imaginary, and what follows it. -/
def decimal? (cs : List Char) : Option (Bool × List Char) := do
  let rest ← if cs.head? == some '.' then some cs else digits? Char.isDigit cs
  let whole := cs.take (cs.length - rest.length)
  let rest' ← match rest with
    | '.' :: r => if r.head?.any Char.isDigit then digits? Char.isDigit r else some r
    | r => some r
  let rest' ← exponent? rest'
  match rest' with
  | c :: r =>
    if c == 'j' || c == 'J' then some (true, r)
    else if rest'.length == rest.length && !isInteger whole then none else some (false, c :: r)
  | [] => if rest.isEmpty && !isInteger whole then none else some (false, [])

/-- Reads a number. No word may follow right after it. -/
def number? (cs : List Char) : Option (Token × List Char) := do
  let (imaginary, rest) ← match cs with
    | '0' :: c :: r =>
      if c == 'x' || c == 'X' then (radixDigits? Text.isHexDigit r).map (false, ·)
      else if c == 'o' || c == 'O' then
        (radixDigits? (fun d => '0' ≤ d && d ≤ '7') r).map (false, ·)
      else if c == 'b' || c == 'B' then
        (radixDigits? (fun d => d == '0' || d == '1') r).map (false, ·)
      else decimal? cs
    | _ => decimal? cs
  if rest.head?.any fun c => c.isAlphanum || c == '_' || 128 ≤ c.toNat then none
  else some (.number imaginary, rest)

/-! ### Texts and bytes -/

/-- How the inside of quotes is read. -/
structure Quotes where
  /-- The quote. -/
  quote : Char
  /-- Whether there are three at each end. -/
  tripled : Bool
  /-- Whether a backslash starts no escape. -/
  raw : Bool
  /-- Whether bytes are quoted. -/
  bytes : Bool

/-- What follows an escape whose backslash was passed, if it is one. -/
def escape? (q : Quotes) : List Char → Option (List Char)
  | [] => none
  | c :: cs =>
    let hexadecimal (n : Nat) : Option (List Char) :=
      if (cs.take n).length == n && (cs.take n).all Text.isHexDigit then some (cs.drop n) else none
    if q.raw then some cs
    else if c == 'x' then hexadecimal 2
    else if q.bytes then some cs
    else if c == 'u' then hexadecimal 4
    else if c == 'U' then
      if ["0000", "0001", "0002", "0003", "0004", "0005", "0006", "0007", "0008", "0009", "000a",
        "000b", "000c", "000d", "000e", "000f", "0010"].contains
          (String.ofList ((cs.take 4).map Char.toLower)) then hexadecimal 8 else none
    else if c == 'N' then match cs with
      | '\x7b' :: cs =>
        let name := cs.takeWhile fun d => d.isAlphanum || d == ' ' || d == '-'
        if name.isEmpty || (cs.drop name.length).head? != some '\x7d' then none
        else some (cs.drop (name.length + 1))
      | _ => none
    else some cs

/-- What follows the closing quotes, at most `n` characters and escapes on. -/
def afterQuotes? (q : Quotes) : Nat → List Char → Option (List Char)
  | 0, _ => none
  | _, [] => none
  | n + 1, c :: cs =>
    if c == q.quote then
      if !q.tripled then some cs
      else if [q.quote, q.quote].isPrefixOf cs then some (cs.drop 2)
      else afterQuotes? q n cs
    else if c == '\\' then (escape? q cs).bind (afterQuotes? q n)
    else if c == '\n' && !q.tripled then none
    else if q.bytes && 128 ≤ c.toNat then none
    else afterQuotes? q n cs

/-- Reads a text or bytes whose opening quote is the next character, after the letters before it. -/
def quoted? (letters : List Char) (cs : List Char) : Option (Token × List Char) :=
  let letters := letters.map Char.toLower
  let bytes := letters.contains 'b'
  if [[], ['r'], ['u'], ['b'], ['b', 'r'], ['r', 'b']].contains letters then
    match cs with
    | [] => none
    | q :: rest =>
      let tripled := [q, q].isPrefixOf rest
      let inside := if tripled then rest.drop 2 else rest
      (afterQuotes? ⟨q, tripled, letters.contains 'r', bytes⟩ (inside.length + 1) inside).map
        fun rest => (if bytes then .bytes else .text, rest)
  else none

/-- Reads a word, or the letters before quotes with what they quote. -/
def word? (cs : List Char) : Option (Token × List Char) :=
  let word := cs.takeWhile fun c => c.isAlphanum || c == '_'
  let rest := cs.drop word.length
  if rest.head? == some '\x27' || rest.head? == some '"' then quoted? word rest
  else if ["True", "False", "None"].contains (String.ofList word) then some (.constant, rest)
  else if word == "set".toList then some (.emptySet, rest)
  else none

/-! ### Tokens -/

namespace Token

/-- Reads the token at the start of a text. -/
def next? (cs : List Char) : Option (Token × List Char) :=
  match cs with
  | [] => none
  | c :: rest =>
    if c.isDigit || (c == '.' && rest.head?.any Char.isDigit) then number? cs
    else if ['.', '.', '.'].isPrefixOf cs then some (.constant, cs.drop 3)
    else if c == '+' || c == '-' then some (.sign, rest)
    else if "()\x7b\x7d,:".toList.contains c then some (.mark c, rest)
    else word? cs

/-- The greatest number of brackets in brackets. -/
def deepest : Nat := 200

/-- The number of open brackets after a token. -/
def depthAfter (depth : Nat) : Token → Nat
  | .mark c =>
    if c == '(' || c == '\x7b' then depth + 1
    else if c == ')' || c == '\x7d' then depth - 1
    else depth
  | _ => depth

/-- Whether the line that starts here is blank, or starts with no blank. -/
def isFlush (cs : List Char) : Bool :=
  match cs.dropWhile fun c => c == ' ' || c == '\t' || c == '\x0c' with
  | [] => true
  | c :: _ => c == '#' || c == '\n' || cs.head? == some c

/-- The tokens of a text, at most `n`, inside some open brackets, after those read so far, the last
one first. `ended` is whether a line of tokens has come to its end. -/
def read? : Nat → Nat → Bool → List Token → List Char → Option (List Token)
  | 0, _, _, _, _ => none
  | _, _, _, acc, [] => some acc.reverse
  | n + 1, depth, ended, acc, c :: cs =>
    if c == ' ' || c == '\t' || c == '\x0c' then read? n depth ended acc cs
    else if c == '#' then read? n depth ended acc (cs.dropWhile (· != '\n'))
    else if c == '\n' then
      if 0 < depth then read? n depth ended acc cs
      else if acc.isEmpty && !isFlush cs then none
      else read? n depth (!acc.isEmpty) acc cs
    else if c == '\\' then
      (if cs.head? == some '\n' && 1 < cs.length then read? n depth ended acc (cs.drop 1) else none)
    else if ended then none
    else match next? (c :: cs) with
      | none => none
      | some (t, rest) =>
        let depth := t.depthAfter depth
        if deepest < depth then none else read? n depth ended (t :: acc) rest

end Token

/-! ### Grammar -/

/-- What an expression is, as far as what may be made of it depends on it. -/
inductive Form where
  /-- A real number without a sign. -/
  | real
  /-- An imaginary number without a sign. -/
  | imaginary
  /-- A real number with a sign. -/
  | signed
  /-- Another value, which may be hashable. -/
  | other (hashable : Bool)
deriving DecidableEq, Repr

/-- Whether a value may be in a set or be a key. -/
def Form.hashable : Form → Bool
  | other h => h
  | _ => true

/-- An expression with a sign before it. -/
def Form.withSign? : Form → Option Form
  | real => some signed
  | imaginary => some (other true)
  | _ => none

/-- Whether an imaginary number may be added to an expression. -/
def Form.isReal : Form → Bool
  | real | signed => true
  | _ => false

/-- Whether an expression ends before a token, so that a comma before it was the last one. -/
def endsItems : List Token → Bool
  | [] => true
  | .mark c :: _ => c == ')' || c == '\x7d'
  | _ => false

mutual

/-- Reads an expression. -/
def expression : Nat → List Token → Option (Form × List Token)
  | 0, _ => none
  | n + 1, ts => do
    let (left, rest) ← match ts with
      | .sign :: ts => do
        let (form, rest) ← atom n ts
        return (← form.withSign?, rest)
      | ts => atom n ts
    match rest with
    | .sign :: rest => do
      let (right, rest) ← atom n rest
      if left.isReal && right == .imaginary then some (.other true, rest) else none
    | rest => some (left, rest)

/-- Reads an expression without signs outside brackets. -/
def atom : Nat → List Token → Option (Form × List Token)
  | 0, _ => none
  | n + 1, ts => match ts with
    | .number imaginary :: rest => some (if imaginary then .imaginary else .real, rest)
    | .text :: rest =>
      let rest := rest.dropWhile (· == .text)
      if rest.head? == some .bytes then none else some (.other true, rest)
    | .bytes :: rest =>
      let rest := rest.dropWhile (· == .bytes)
      if rest.head? == some .text then none else some (.other true, rest)
    | .constant :: rest => some (.other true, rest)
    | .emptySet :: .mark '(' :: .mark ')' :: rest => some (.other false, rest)
    | .mark '(' :: .mark ')' :: rest => some (.other true, rest)
    | .mark '(' :: rest => do
      let (forms, comma, rest) ← items n rest
      match forms, comma, rest with
      | [form], false, .mark ')' :: rest => some (form, rest)
      | forms, _, .mark ')' :: rest => some (.other (forms.all Form.hashable), rest)
      | _, _, _ => none
    | .mark '\x7b' :: .mark '\x7d' :: rest => some (.other false, rest)
    | .mark '\x7b' :: rest => do
      let (first, after) ← expression n rest
      match after with
      | .mark ':' :: _ => entries n rest
      | _ => do
        let (forms, _, rest) ← items n rest
        match rest with
        | .mark '\x7d' :: rest =>
          if first.hashable && forms.all Form.hashable then some (.other false, rest) else none
        | _ => none
    | _ => none

/-- Reads expressions with commas between them, and tells whether there was a comma. -/
def items : Nat → List Token → Option (List Form × Bool × List Token)
  | 0, _ => none
  | n + 1, ts => do
    let (form, rest) ← expression n ts
    match rest with
    | .mark ',' :: rest =>
      if endsItems rest then some ([form], true, rest)
      else do
        let (forms, _, rest) ← items n rest
        some (form :: forms, true, rest)
    | rest => some ([form], false, rest)

/-- Reads the entries of a map up to its closing brace. -/
def entries : Nat → List Token → Option (Form × List Token)
  | 0, _ => none
  | n + 1, ts => do
    let (key, rest) ← expression n ts
    match rest with
    | .mark ':' :: rest => do
      let (_, rest) ← expression n rest
      if !key.hashable then none
      else match rest with
        | .mark '\x7d' :: rest => some (.other false, rest)
        | .mark ',' :: .mark '\x7d' :: rest => some (.other false, rest)
        | .mark ',' :: rest => entries n rest
        | _ => none
    | _ => none

end

/-- Whether a text is a literal. No text with a null character or a half of a pair is. -/
def isLiteral (cs : List Char) : Bool :=
  let cs := Text.unifyBreaks (cs.dropWhile fun c => c == ' ' || c == '\t')
  if cs.contains '\x00' || !Text.isWhole cs then false
  else match Token.read? (cs.length + 1) 0 false [] cs with
    | none => false
    | some ts => match items (4 * ts.length + 4) ts with
      | some (_, _, []) => true
      | _ => false

end AccessPolicy.Console.Literal
