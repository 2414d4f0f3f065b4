import AccessPolicy.Yaml.Token

/-!
# From text to tokens

A `Lexer` goes over a text token by token. Indentation becomes tokens too: the first entry or key at
a deeper column opens a list or map, and what follows at a lesser column closes it. A key without a
question mark is known only at its colon: until then its position is kept as a candidate, which ends
with its line or after 1024 characters, and the key's tokens are put in where it began.

`tokensUpTo` is the whole way: the tokens of a text, the last of them a fault if the text cannot be
read to its end. Tokens are handed on one by one, and one at which a key may have begun not before
it is known whether it has: a fault comes before the tokens that wait then.
-/

namespace AccessPolicy.Yaml

/-- A place where a key may have begun. -/
structure Candidate where
  /-- The number of open brackets and braces around it. -/
  level : Nat
  /-- How many tokens stand before it. -/
  position : Nat
  /-- Whether nothing but a key can stand there. -/
  required : Bool
  /-- The cursor at it. -/
  start : Cursor

/-- The state of the way from text to tokens. -/
structure Lexer where
  /-- Where the text goes on. -/
  cursor : Cursor
  /-- The tokens so far. -/
  tokens : Array Token := #[]
  /-- The number of open brackets and braces. -/
  level : Nat := 0
  /-- The column of the innermost list or map by indentation. -/
  indent : Int := -1
  /-- The columns of those around it. -/
  outer : List Int := []
  /-- Whether a key may begin here. -/
  keyAllowed : Bool := true
  /-- The places where a key may have begun, at most one for each level. -/
  candidates : List Candidate := []

namespace Lexer

/-- Adds a token. -/
def push (l : Lexer) (t : Token) : Lexer := { l with tokens := l.tokens.push t }

/-- Puts a token in front of those from a position on. -/
def insertAt (l : Lexer) (n : Nat) (t : Token) : Lexer :=
  { l with tokens := (l.tokens.extract 0 n).push t ++ l.tokens.extract n l.tokens.size }

/-- Whether the text is outside all brackets and braces. -/
def inBlock (l : Lexer) : Bool := l.level == 0

/-- The refusal of what stands at the cursor. -/
def refuse {α : Type} (l : Lexer) : Except Stop α := Token.refuse l.cursor

/-- Whether a later line or too many characters have overtaken a candidate. -/
def overtakes (l : Lexer) (k : Candidate) : Bool :=
  k.start.line != l.cursor.line || 1024 < l.cursor.index - k.start.index

/-- Forgets the candidates that are overtaken. -/
def dropStale (l : Lexer) : Except Stop Lexer :=
  if l.candidates.any fun k => l.overtakes k && k.required then l.refuse
  else .ok { l with candidates := l.candidates.filter fun k => !l.overtakes k }

/-- Forgets the candidate of the present level. -/
def dropCandidate (l : Lexer) : Except Stop Lexer :=
  if l.candidates.any fun k => k.level == l.level && k.required then l.refuse
  else .ok { l with candidates := l.candidates.filter fun k => k.level != l.level }

/-- Keeps the present place as a candidate, if a key may begin here. -/
def saveCandidate (l : Lexer) : Except Stop Lexer :=
  if !l.keyAllowed then .ok l
  else do
    let l ← l.dropCandidate
    let required := l.inBlock && l.indent == l.cursor.column
    let k : Candidate := ⟨l.level, l.tokens.size, required, l.cursor⟩
    return { l with candidates := k :: l.candidates }

/-- Closes the lists and maps that are indented deeper than a column. -/
def unwind (column : Int) (l : Lexer) : Lexer :=
  if l.inBlock then
    let closed := (l.indent :: l.outer).takeWhile (column < ·)
    match (l.indent :: l.outer).drop closed.length with
    | indent :: outer =>
      { l with
        tokens := l.tokens ++ (closed.map fun _ => Token.blockEnd).toArray
        indent := indent, outer := outer }
    | [] => l
  else l

/-- Whether a column is deeper than the present indentation. -/
def deepens (l : Lexer) (column : Nat) : Bool := l.indent < (column : Int)

/-- Goes in to a deeper column. -/
def indentTo (l : Lexer) (column : Nat) : Lexer :=
  { l with outer := l.indent :: l.outer, indent := column }

/-- Opens a list or map at the present column, if it is a deeper one. -/
def openAt (l : Lexer) (t : Token) : Lexer :=
  if l.deepens l.cursor.column then (l.indentTo l.cursor.column).push t else l

/-- Passes blanks, comments and line breaks, at most `n` lines. -/
def skipBlanks : Nat → Lexer → Lexer
  | 0, l => l
  | n + 1, l =>
    let c := l.cursor.skipComment
    if c.peek.any isBreak then
      skipBlanks n { l with cursor := c.lineBreak.2, keyAllowed := l.keyAllowed || l.inBlock }
    else { l with cursor := c }

/-- Adds a token of `n` characters. -/
def take (l : Lexer) (n : Nat) (t : Token) : Lexer :=
  { l with cursor := l.cursor.advance n }.push t

/-- Adds a token that a reader gave. -/
def accept (l : Lexer) (keyAllowed : Bool) (read : Except Stop (Token × Cursor)) :
    Except Stop Lexer := do
  let (t, c) ← read
  return { l with cursor := c, keyAllowed := keyAllowed }.push t

/-- Reads the end of the text. -/
def atEnd (l : Lexer) : Except Stop Lexer := do
  let l ← (l.unwind (-1)).dropCandidate
  return { l with keyAllowed := false, candidates := [] }

/-- Reads a directive. -/
def directive (l : Lexer) : Except Stop Lexer := do
  let l ← (l.unwind (-1)).dropCandidate
  l.accept false (Token.readDirective l.cursor)

/-- Reads a separator of documents. -/
def separator (l : Lexer) (t : Token) : Except Stop Lexer := do
  let l ← (l.unwind (-1)).dropCandidate
  return { l with keyAllowed := false }.take 3 t

/-- Reads an opening bracket or brace. -/
def openFlow (l : Lexer) (t : Token) : Except Stop Lexer := do
  let l ← l.saveCandidate
  return { l with level := l.level + 1, keyAllowed := true }.take 1 t

/-- Reads a closing bracket or brace. -/
def closeFlow (l : Lexer) (t : Token) : Except Stop Lexer := do
  let l ← l.dropCandidate
  if l.inBlock then l.refuse
  else return { l with level := l.level - 1, keyAllowed := false }.take 1 t

/-- Reads a comma. -/
def comma (l : Lexer) : Except Stop Lexer := do
  let l ← l.dropCandidate
  return { l with keyAllowed := true }.take 1 .comma

/-- Reads the dash of an entry. -/
def blockEntry (l : Lexer) : Except Stop Lexer := do
  if l.inBlock && !l.keyAllowed then l.refuse
  else
    let l := if l.inBlock then l.openAt .blockListStart else l
    let l ← l.dropCandidate
    return { l with keyAllowed := true }.take 1 .blockEntry

/-- Reads the question mark of a key. -/
def explicitKey (l : Lexer) : Except Stop Lexer := do
  if l.inBlock && !l.keyAllowed then l.refuse
  else
    let l := if l.inBlock then l.openAt .blockMapStart else l
    let l ← l.dropCandidate
    return { l with keyAllowed := l.inBlock }.take 1 .key

/-- Reads the colon of a value. A candidate of the present level turns out to be its key. -/
def value (l : Lexer) : Except Stop Lexer := do
  match l.candidates.find? (·.level == l.level) with
  | some k =>
    let l := { l with candidates := l.candidates.filter fun k => k.level != l.level }
    let l := l.insertAt k.position .key
    let l :=
      if l.inBlock && l.deepens k.start.column then
        (l.indentTo k.start.column).insertAt k.position .blockMapStart
      else l
    return { l with keyAllowed := false }.take 1 .value
  | none =>
    if l.inBlock && !l.keyAllowed then l.refuse
    else
      let l := if l.inBlock then l.openAt .blockMapStart else l
      let l ← l.dropCandidate
      return { l with keyAllowed := l.inBlock }.take 1 .value

/-- Reads an alias, an anchor, a tag or a quoted scalar. -/
def content (l : Lexer) (read : Cursor → Except Stop (Token × Cursor)) : Except Stop Lexer := do
  let l ← l.saveCandidate
  l.accept false (read l.cursor)

/-- Reads a block scalar. -/
def blockScalar (l : Lexer) (folded : Bool) : Except Stop Lexer := do
  let l ← l.dropCandidate
  l.accept true (Token.readBlockScalar folded l.indent l.cursor)

/-- Reads a plain scalar. -/
def plain (l : Lexer) : Except Stop Lexer := do
  let l ← l.saveCandidate
  let (t, broken, c) := Token.readPlainScalar (!l.inBlock) l.indent l.cursor
  return { l with cursor := c, keyAllowed := broken }.push t

/-- Whether a plain scalar can start with a character, given the one after it. -/
def startsPlain (inBlock : Bool) (x : Char) (after : Option Char) : Bool :=
  !(isSpace x || isBreak x || "-?:,[]\x7b\x7d#&*!|>\x27\"%@\x60".toList.contains x)
    || (!endsMark after && (x == '-' || (inBlock && (x == '?' || x == ':'))))

/-- Reads the next token, and tells whether there may be more. -/
def step (l : Lexer) : Except Stop (Lexer × Bool) := do
  let c := l.cursor
  let c := if c.index == 0 && c.peek == some '\ufeff' then c.next else c
  let l ← ({ l with cursor := c }.skipBlanks (c.rest.length + 1)).dropStale
  let l := l.unwind l.cursor.column
  let go (r : Except Stop Lexer) : Except Stop (Lexer × Bool) := r.map fun l => (l, true)
  match l.cursor.peek with
  | none =>
    return (← l.atEnd, false)
  | some x =>
    let c := l.cursor
    let after := c.peekAt 1
    if x == '%' && c.column == 0 then go l.directive
    else if c.column == 0 && x == '-' && c.atSeparator then go (l.separator .documentStart)
    else if c.column == 0 && x == '.' && c.atSeparator then go (l.separator .documentEnd)
    else if x == '[' then go (l.openFlow .listStart)
    else if x == '\x7b' then go (l.openFlow .mapStart)
    else if x == ']' then go (l.closeFlow .listEnd)
    else if x == '\x7d' then go (l.closeFlow .mapEnd)
    else if x == ',' then go l.comma
    else if x == '-' && endsMark after then go l.blockEntry
    else if x == '?' && (!l.inBlock || endsMark after) then go l.explicitKey
    else if x == ':' && (!l.inBlock || endsMark after) then go l.value
    else if x == '*' then
      go (l.content fun c => (Token.readName c).map fun (n, c) => (.alias n, c))
    else if x == '&' then
      go (l.content fun c => (Token.readName c).map fun (n, c) => (.anchor n, c))
    else if x == '!' then go (l.content Token.readTag)
    else if x == '|' && l.inBlock then go (l.blockScalar false)
    else if x == '>' && l.inBlock then go (l.blockScalar true)
    else if x == '\x27' || x == '"' then go (l.content Token.readQuotedScalar)
    else if startsPlain l.inBlock x after then go l.plain
    else l.refuse

/-- How many tokens can be handed on: those before the first candidate that is not overtaken. -/
def ready (l : Lexer) : Nat :=
  (l.candidates.filter fun k => !l.overtakes k).foldl (fun n k => min n k.position) l.tokens.size

/-- The tokens up to a fault: those that can be handed on. -/
def stopAt (l : Lexer) (f : Fault) : Array Token := (l.tokens.extract 0 l.ready).push (.fault f)

/-- Reads at most `n` tokens. The text can be looked at up to an edge, beyond which lies a fault. -/
def run (edge : Nat) (beyond : Fault) : Nat → Lexer → Array Token
  | 0, l => l.tokens
  | n + 1, l => match l.step with
    | .error stop => l.stopAt (if edge ≤ stop.index then beyond else stop.fault)
    | .ok (l', more) =>
      if edge ≤ l'.cursor.index then l.stopAt beyond
      else if more then run edge beyond n l'
      else l'.tokens

end Lexer

/-- The tokens of a text, which can be looked at up to an edge, beyond which lies a fault. -/
def tokensUpTo (edge : Nat) (beyond : Fault) (text : List Char) : List Token :=
  (Lexer.run edge beyond (text.length + 2) { cursor := .start text }).toList

end AccessPolicy.Yaml
