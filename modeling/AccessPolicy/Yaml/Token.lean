import AccessPolicy.Failure
import AccessPolicy.Number.Numeral
import AccessPolicy.Text.Half
import AccessPolicy.Text.Utf8
import AccessPolicy.Yaml.Cursor

/-!
# Tokens of a YAML text

The tokens that a YAML text is made of, and readers of single tokens: names, tags, directives, and
scalars in their five styles. Each reader starts at a cursor and gives the token's content with the
cursor after it. What a reader cannot accept is a `Fault`.

A fault comes with the place up to which the text was looked at when it was found.
-/

namespace AccessPolicy.Yaml

/-- Why a text has no value. -/
inductive Fault where
  /-- The text is no YAML. -/
  | malformed
  /-- A scalar of the text has no value of its kind. -/
  | value (cause : Failure)

/-- A fault met while a text is read. -/
structure Stop where
  /-- Why the text cannot be read on. -/
  fault : Fault
  /-- The place of the last character that was looked at. -/
  index : Nat

/-- What a directive says. -/
inductive Directive where
  /-- The version of the language. -/
  | version (major : Int)
  /-- What a tag handle stands for. -/
  | handle (handle expansion : String)
  /-- Something of no concern. -/
  | other

/-- A token. -/
inductive Token where
  /-- A line that starts with a percent sign. -/
  | directive (d : Directive)
  /-- Three dashes. -/
  | documentStart
  /-- Three points. -/
  | documentEnd
  /-- The first entry of a list by indentation. -/
  | blockListStart
  /-- The first key of a map by indentation. -/
  | blockMapStart
  /-- The end of a list or map by indentation. -/
  | blockEnd
  /-- An opening bracket. -/
  | listStart
  /-- A closing bracket. -/
  | listEnd
  /-- An opening brace. -/
  | mapStart
  /-- A closing brace. -/
  | mapEnd
  /-- A dash before an entry. -/
  | blockEntry
  /-- A comma. -/
  | comma
  /-- The start of a key. -/
  | key
  /-- A colon before a value. -/
  | value
  /-- A reference to an anchor. -/
  | alias (name : String)
  /-- An anchor. -/
  | anchor (name : String)
  /-- A tag, with its handle if it has one. -/
  | tag (handle : Option String) (suffix : String)
  /-- A scalar; a plain one may be more than a text. -/
  | scalar (text : String) (plain : Bool)
  /-- Where the text cannot be read on. -/
  | fault (f : Fault)

namespace Token

/-- The refusal of a text at a place. -/
def refuse {α : Type} (c : Cursor) : Except Stop α := .error ⟨.malformed, c.index⟩

/-! ### Names, tags and directives -/

/-- Reads the name after an anchor or alias sign. -/
def readName (c : Cursor) : Except Stop (String × Cursor) :=
  let (name, c) := c.next.span isNameChar
  let ends := endsMark c.peek || c.peek.any fun x => "?:,]\x7d%@\x60".toList.contains x
  if name.isEmpty || !ends then refuse c
  else .ok (String.ofList name, c)

/-- Reads a run of escaped bytes of a tag, at most `n` of them. -/
def readEscapes : Nat → Cursor → List UInt8 → Except Stop (List UInt8 × Cursor)
  | 0, c, bytes => .ok (bytes.reverse, c)
  | n + 1, c, bytes => match c.rest with
    | '%' :: a :: b :: _ =>
      if Text.isHexDigit a && Text.isHexDigit b then
        let byte := ((Numeral.digit? 16 a).getD 0) * 16 + (Numeral.digit? 16 b).getD 0
        readEscapes n (c.advance 3) (UInt8.ofNat byte :: bytes)
      else refuse c.next
    | '%' :: _ => refuse (c.advance 2)
    | _ => .ok (bytes.reverse, c)

/-- Reads the characters of a tag, in at most `n` pieces. -/
def readTagPieces : Nat → Cursor → List Char → Except Stop (List Char × Cursor)
  | 0, c, acc => .ok (acc, c)
  | n + 1, c, acc =>
    let (piece, c) := c.span fun x => isTagChar x && x != '%'
    let acc := acc ++ piece
    if c.peek == some '%' then do
      let (bytes, c) ← readEscapes (c.rest.length + 1) c []
      match Text.decodeUtf8 bytes with
      | .ok cs => readTagPieces n c (acc ++ cs)
      | .error _ => refuse c
    else .ok (acc, c)

/-- Reads the text of a tag, at least one character. -/
def readTagText (c : Cursor) : Except Stop (String × Cursor) := do
  if c.peek.all fun x => !isTagChar x then refuse c
  else
    let (cs, c) ← readTagPieces (c.rest.length + 1) c []
    return (String.ofList cs, c)

/-- Reads a tag handle: an exclamation mark, or a name between two. -/
def readHandle (c : Cursor) : Except Stop (String × Cursor) :=
  if c.peek != some '!' then refuse c
  else if c.peekAt 1 == some ' ' then .ok ("!", c.next)
  else
    let (name, after) := c.next.span isNameChar
    if after.peek == some '!' then .ok (String.ofList ('!' :: (name ++ ['!'])), after.next)
    else refuse after

/-- Reads a tag. -/
def readTag (c : Cursor) : Except Stop (Token × Cursor) := do
  let (token, c) ←
    if c.peekAt 1 == some '<' then do
      let (suffix, c) ← readTagText (c.advance 2)
      if c.peek != some '>' then refuse c else pure (Token.tag none suffix, c.next)
    else if endsMark (c.peekAt 1) then pure (Token.tag none "!", c.next)
    else do
      let word := c.next.rest.takeWhile fun x => !endsWord (some x)
      let (handle, c) ← if word.contains '!' then readHandle c else pure ("!", c.next)
      let (suffix, c) ← readTagText c
      pure (Token.tag (some handle) suffix, c)
  if endsWord c.peek then return (token, c) else refuse c

/-- Reads a number of a version. -/
def readNumber (c : Cursor) : Except Stop (Int × Cursor) :=
  let (digits, c) := c.span Char.isDigit
  if digits.isEmpty then refuse c
  else match Numeral.read 10 digits with
    | .ok n => .ok (n, c)
    | .error e => .error ⟨.value (.badInteger e), c.index⟩

/-- Reads the rest of a directive's line, which must be blank but for a comment. -/
def readDirectiveEnd (c : Cursor) : Except Stop Cursor :=
  let c := c.skipComment
  if endsLine c.peek then .ok c.lineBreak.2 else refuse c

/-- Reads a directive. -/
def readDirective (c : Cursor) : Except Stop (Token × Cursor) := do
  let (name, c) := c.next.span isNameChar
  if name.isEmpty || !endsWord c.peek then refuse c
  else if name == "YAML".toList then
    let (major, c) ← readNumber (c.skip (· == ' '))
    if c.peek != some '.' then refuse c
    else
      let (_, c) ← readNumber c.next
      if !endsWord c.peek then refuse c
      else return (.directive (.version major), ← readDirectiveEnd c)
  else if name == "TAG".toList then
    let (handle, c) ← readHandle (c.skip (· == ' '))
    if c.peek != some ' ' then refuse c
    else
      let (expansion, c) ← readTagText (c.skip (· == ' '))
      if !endsWord c.peek then refuse c
      else return (.directive (.handle handle expansion), ← readDirectiveEnd c)
  else return (.directive .other, ← readDirectiveEnd (c.skip (!isBreak ·)))

/-! ### Quoted scalars -/

/-- The character that a one-letter escape stands for. -/
def escapeLetter? (c : Char) : Option Char :=
  [('0', '\x00'), ('a', '\x07'), ('b', '\x08'), ('t', '\t'), ('\t', '\t'), ('n', '\n'),
    ('v', '\x0b'), ('f', '\x0c'), ('r', '\r'), ('e', '\x1b'), (' ', ' '), ('"', '"'),
    ('\\', '\\'), ('/', '/'), ('N', '\x85'), ('_', '\xa0'), ('L', '\u2028'),
    ('P', '\u2029')].lookup c

/-- The number of hexadecimal digits after an escape letter. -/
def escapeDigits? (c : Char) : Option Nat := [('x', 2), ('u', 4), ('U', 8)].lookup c

/-- Passes line breaks and the spaces around them, at most `n` breaks, and gives the breaks. No
separator of documents may stand at the start of a line. -/
def readBreaks : Nat → Cursor → List Char → Except Stop (List Char × Cursor)
  | 0, c, breaks => .ok (breaks, c)
  | n + 1, c, breaks =>
    if c.atSeparator then refuse (c.advance 3)
    else
      let c := c.skip isSpace
      if c.peek.any isBreak then
        let (b, c) := c.lineBreak
        readBreaks n c (breaks ++ b)
      else .ok (breaks, c)

/-- What breaks inside a scalar stand for: a single line feed is a space, of more the first is
dropped. -/
def foldBreaks (first rest : List Char) : List Char :=
  if first != ['\n'] then first ++ rest else if rest.isEmpty then [' '] else rest

/-- The character of a code point that an escape gives at a place. -/
def escaped (index p : Nat) : Except Stop Char :=
  if 0x80000000 ≤ p then .error ⟨.value .tooLarge, index⟩
  else if 0x110000 ≤ p then .error ⟨.value .noSuchCharacter, index⟩
  else .ok (Text.ofPoint p)

/-- Reads the inside of a quoted scalar up to its closing quote, in at most `n` pieces. `acc` is
what was read, the last character first. -/
def readQuoted (double : Bool) : Nat → Cursor → List Char → Except Stop ((List Char) × Cursor)
  | 0, c, _ => refuse c
  | n + 1, c, acc =>
    match c.rest with
    | [] => refuse c
    | x :: rest =>
      if double && x == '"' then .ok (acc.reverse, c.next)
      else if double && x == '\\' then
        match rest with
        | [] => refuse c.next
        | y :: _ =>
          if isBreak y then do
            let (_, c) := c.next.lineBreak
            let (breaks, c) ← readBreaks (c.rest.length + 1) c []
            readQuoted double n c (breaks.reverse ++ acc)
          else match escapeLetter? y, escapeDigits? y with
            | some p, _ => readQuoted double n (c.advance 2) (p :: acc)
            | none, some size =>
              let digits := ((c.rest.drop 2).take size).takeWhile Text.isHexDigit
              if digits.length < size then refuse (c.advance (2 + digits.length))
              else do
                let p := digits.foldl (fun n d => n * 16 + (Numeral.digit? 16 d).getD 0) 0
                let x ← escaped (c.index + 1 + size) p
                readQuoted double n (c.advance (2 + size)) (x :: acc)
            | none, none => refuse c.next
      else if !double && x == '\x27' then
        if rest.head? == some '\x27' then readQuoted double n (c.advance 2) ('\x27' :: acc)
        else .ok (acc.reverse, c.next)
      else if isSpace x || isBreak x then do
        let (spaces, c) := c.span isSpace
        match c.peek with
        | none => refuse c
        | some y =>
          if isBreak y then
            let (b, c) := c.lineBreak
            let (breaks, c) ← readBreaks (c.rest.length + 1) c []
            readQuoted double n c ((foldBreaks b breaks).reverse ++ acc)
          else readQuoted double n c (spaces.reverse ++ acc)
      else
        let (run, c) := c.span fun y =>
          !(y == '\x27' || y == '"' || y == '\\' || isSpace y || isBreak y)
        if run.isEmpty then readQuoted double n c.next (x :: acc)
        else readQuoted double n c (run.reverse ++ acc)

/-- Reads a quoted scalar. -/
def readQuotedScalar (c : Cursor) : Except Stop (Token × Cursor) := do
  let (cs, c) ← readQuoted (c.peek == some '"') (c.rest.length + 1) c.next []
  return (.scalar (String.ofList cs) false, c)

/-! ### Plain scalars -/

/-- Whether a plain scalar ends before a character, given the one after it. -/
def endsPlain (inFlow : Bool) (x : Char) (after : Option Char) : Bool :=
  isSpace x || isBreak x
    || (x == ':'
      && (endsMark after || (inFlow && after.any fun y => ",[]\x7b\x7d".toList.contains y)))
    || (inFlow && ",?[]\x7b\x7d".toList.contains x)

/-- The characters of a plain scalar up to where it ends or is broken by a space. -/
def plainRun (inFlow : Bool) : List Char → List Char
  | [] => []
  | x :: rest => if endsPlain inFlow x rest.head? then [] else x :: plainRun inFlow rest

/-- Passes spaces and line breaks after a first break, at most `n` characters, and gives the breaks.
`none` where a separator of documents starts a line. -/
def readPlainBreaks : Nat → Cursor → List Char → Option (List Char) × Cursor
  | 0, c, breaks => (some breaks, c)
  | n + 1, c, breaks => match c.peek with
    | some x =>
      if x == ' ' then readPlainBreaks n c.next breaks
      else if isBreak x then
        let (b, c) := c.lineBreak
        if c.atSeparator then (none, c) else readPlainBreaks n c (breaks ++ b)
      else (some breaks, c)
    | none => (some breaks, c)

/-- Passes the spaces inside a plain scalar, and gives what they stand for: nothing where the scalar
cannot go on. Tells also whether a line was broken. -/
def readPlainSpaces (c : Cursor) : List Char × Bool × Cursor :=
  let (spaces, c) := c.span (· == ' ')
  if c.peek.any isBreak then
    let (b, c) := c.lineBreak
    if c.atSeparator then ([], true, c)
    else match readPlainBreaks (c.rest.length + 1) c [] with
      | (none, c) => ([], true, c)
      | (some breaks, c) => (foldBreaks b breaks, true, c)
  else (spaces, false, c)

/-- Reads a plain scalar in at most `n` pieces. `acc` is what was read, the last character first,
`spaces` is what stands before the next piece, and `broken` whether it held a line break. -/
def readPlain (inFlow : Bool) (indent : Int) :
    Nat → Cursor → List Char → List Char → Bool → List Char × Bool × Cursor
  | 0, c, acc, _, broken => (acc.reverse, broken, c)
  | n + 1, c, acc, spaces, broken =>
    if c.peek == some '#' then (acc.reverse, broken, c)
    else
      let run := plainRun inFlow c.rest
      if run.isEmpty then (acc.reverse, broken, c)
      else
        let acc := run.reverse ++ (spaces.reverse ++ acc)
        let (spaces, broken, c) := readPlainSpaces (c.advance run.length)
        if spaces.isEmpty || c.peek == some '#' || (!inFlow && c.column < indent) then
          (acc.reverse, broken, c)
        else readPlain inFlow indent n c acc spaces broken

/-- Reads a plain scalar that stands inside an indentation. Tells also whether the cursor has passed
a line break after the scalar's last piece. -/
def readPlainScalar (inFlow : Bool) (indent : Int) (c : Cursor) : Token × Bool × Cursor :=
  let (cs, broken, c) := readPlain inFlow (indent + 1) (c.rest.length + 1) c [] [] false
  (.scalar (String.ofList cs) true, broken, c)

/-! ### Block scalars -/

/-- What becomes of the line breaks at the end of a block scalar. -/
inductive Chomping where
  /-- All are dropped. -/
  | strip
  /-- One is kept. -/
  | clip
  /-- All are kept. -/
  | keep
deriving DecidableEq

/-- Reads the sign for the last line breaks. -/
def readChomping (c : Cursor) : Chomping × Cursor :=
  match c.peek with
  | some '+' => (.keep, c.next)
  | some '-' => (.strip, c.next)
  | _ => (.clip, c)

/-- Reads the digit for the indentation. -/
def readIncrement (c : Cursor) : Except Stop ((Option Nat) × Cursor) :=
  match c.peek with
  | some x =>
    if x.isDigit then (if x == '0' then refuse c else .ok (some (x.toNat - 48), c.next))
    else .ok (none, c)
  | none => .ok (none, c)

/-- Reads the signs after the sign of a block scalar, in either order, and the rest of the line. -/
def readBlockHeader (c : Cursor) : Except Stop (Chomping × Option Nat × Cursor) := do
  let (chomping, after) := readChomping c
  let (chomping, increment, c) ←
    if chomping == .clip then do
      let (increment, c) ← readIncrement c
      if increment.isNone then pure (Chomping.clip, none, c)
      else
        let (chomping, c) := readChomping c
        pure (chomping, increment, c)
    else do
      let (increment, c) ← readIncrement after
      pure (chomping, increment, c)
  if !endsWord c.peek then refuse c
  else
    let c := c.skipComment
    if endsLine c.peek then return (chomping, increment, c.lineBreak.2) else refuse c

/-- Passes empty lines before a block scalar, at most `n` characters: gives the breaks, and the
widest indentation met. -/
def readIndentation : Nat → Cursor → List Char → Nat → List Char × Nat × Cursor
  | 0, c, breaks, widest => (breaks, widest, c)
  | n + 1, c, breaks, widest => match c.peek with
    | some x =>
      if x == ' ' then
        let c := c.next
        readIndentation n c breaks (max widest c.column)
      else if isBreak x then
        let (b, c) := c.lineBreak
        readIndentation n c (breaks ++ b) widest
      else (breaks, widest, c)
    | none => (breaks, widest, c)

/-- Passes spaces up to a column. -/
def skipIndent (indent : Nat) (c : Cursor) : Cursor :=
  let spaces := (c.rest.takeWhile (· == ' ')).length
  c.advance (min spaces (indent - c.column))

/-- Passes empty lines inside a block scalar, at most `n`, and the indentation after them. -/
def readBlockBreaks (indent : Nat) : Nat → Cursor → List Char → List Char × Cursor
  | 0, c, breaks => (breaks, c)
  | n + 1, c, breaks =>
    let c := skipIndent indent c
    if c.peek.any isBreak then
      let (b, c) := c.lineBreak
      readBlockBreaks indent n c (breaks ++ b)
    else (breaks, c)

/-- Reads the lines of a block scalar, at most `n`. `breaks` are the empty lines before the next
one. Gives the text, the last line break, and the empty lines at the end. -/
def readLines (folded : Bool) (indent : Nat) :
    Nat → Cursor → List Char → List Char → List Char × List Char × List Char × Cursor
  | 0, c, acc, breaks => (acc, [], breaks, c)
  | n + 1, c, acc, breaks =>
    if c.column == indent && c.peek.isSome then
      let outstanding := c.peek.any isSpace
      let (line, c) := c.span (!isBreak ·)
      let acc := acc ++ breaks ++ line
      let (b, c) := c.lineBreak
      let (breaks, c) := readBlockBreaks indent (c.rest.length + 1) c []
      if c.column == indent && c.peek.isSome then
        let joint :=
          if folded && b == ['\n'] && !outstanding && !c.peek.any isSpace then
            (if breaks.isEmpty then [' '] else [])
          else b
        readLines folded indent n c (acc ++ joint) breaks
      else (acc, b, breaks, c)
    else (acc, [], breaks, c)

/-- Reads a block scalar that stands inside an indentation. -/
def readBlockScalar (folded : Bool) (indent : Int) (c : Cursor) : Except Stop (Token × Cursor) := do
  let (chomping, increment, c) ← readBlockHeader c.next
  let least := (max 1 (indent + 1)).toNat
  let (breaks, indent, c) := match increment with
    | none =>
      let (breaks, widest, c) := readIndentation (c.rest.length + 1) c [] 0
      (breaks, max least widest, c)
    | some k =>
      let indent := least + k - 1
      let (breaks, c) := readBlockBreaks indent (c.rest.length + 1) c []
      (breaks, indent, c)
  let (text, last, breaks, c) := readLines folded indent (c.rest.length + 1) c [] breaks
  let tail := match chomping with
    | .strip => []
    | .clip => last
    | .keep => last ++ breaks
  return (.scalar (String.ofList (text ++ tail)) false, c)

end Token

end AccessPolicy.Yaml
