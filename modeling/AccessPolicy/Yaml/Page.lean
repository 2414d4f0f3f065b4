import AccessPolicy.Text.Quoted
import AccessPolicy.Yaml.Style

/-!
# Writing YAML lines

A `Page` is what has been written so far, with the column and what the last thing written was.
Scalars are written in their three styles. A line that is past column 80 is broken at the next
single space, and goes on at an indentation; in double quotes it is broken with a backslash.
-/

namespace AccessPolicy.Yaml

/-- What is written so far. -/
structure Page where
  /-- The text. -/
  text : String := ""
  /-- The column. -/
  column : Nat := 0
  /-- Whether the last thing written separates. -/
  spaced : Bool := true
  /-- Whether the line holds nothing but indentation and signs that may be followed by more. -/
  fresh : Bool := true
deriving Inhabited

namespace Page

/-- The column after which lines are broken. -/
def width : Nat := 80

/-- Writes characters. -/
def write (p : Page) (cs : List Char) : Page :=
  { p with text := p.text ++ String.ofList cs, column := p.column + cs.length }

/-- Writes a sign, with a space before it if it needs one. `opens` is whether the line stays fresh
after it. -/
def mark (p : Page) (sign : String) (needsSpace opens : Bool) : Page :=
  let p := p.write ((if p.spaced || !needsSpace then [] else [' ']) ++ sign.toList)
  { p with spaced := false, fresh := p.fresh && opens }

/-- Ends the line. -/
def breakLine (p : Page) : Page := ⟨p.text.push '\n', 0, true, true⟩

/-- Goes to an indentation, on a new line unless this one is fresh and not past it. -/
def indent (p : Page) (n : Nat) : Page :=
  let p := if !p.fresh || n < p.column || (p.column == n && !p.spaced) then p.breakLine else p
  if p.column < n then { p.write (List.replicate (n - p.column) ' ') with spaced := true } else p

/-- Breaks a line inside a scalar. -/
def fold (p : Page) (n : Nat) : Page := { p.indent n with spaced := false, fresh := false }

/-! ### Plain and single-quoted scalars -/

/-- What a run of characters of a scalar is. -/
inductive Run where
  /-- Spaces. -/
  | spaces
  /-- Line feeds. -/
  | breaks
  /-- Other characters. -/
  | word
deriving DecidableEq

/-- The run that a character belongs to. -/
def Run.of (c : Char) : Run := if c == ' ' then .spaces else if c == '\n' then .breaks else .word

/-- A text in runs. -/
def runs (cs : List Char) : List (List Char) := cs.splitBy fun a b => Run.of a == Run.of b

/-- Whether a line is to be broken at a run: at a single space past the last column. -/
def foldsAt (p : Page) (run : List Char) : Bool := run == [' '] && width < p.column

/-- Writes the runs of a plain scalar. -/
def writePlainRuns (n : Nat) : List (List Char) → Page → Page
  | [], p => p
  | run :: rest, p => writePlainRuns n rest (if p.foldsAt run then p.fold n else p.write run)

/-- Writes a plain scalar, which goes on at an indentation; none is for one that may not be
broken. -/
def writePlain (p : Page) (n : Option Nat) (cs : List Char) : Page :=
  let p := if p.spaced then p else p.write [' ']
  let p := { p with spaced := false, fresh := false }
  match n with
  | some n => writePlainRuns n (runs cs) p
  | none => p.write cs

/-- Ends a number of lines. -/
def breakLines : Nat → Page → Page
  | 0, p => p
  | k + 1, p => breakLines k p.breakLine

/-- A run of a scalar with its single quotes doubled. -/
def doubleQuotes (run : List Char) : List Char :=
  run.flatMap fun c => if c == '\x27' then [c, c] else [c]

/-- Writes the runs of a single-quoted scalar. A run at either end is not broken. Line feeds are
written with one more before them. -/
def writeSingleRuns (n : Nat) : Bool → List (List Char) → Page → Page
  | _, [], p => p
  | first, run :: rest, p =>
    let p :=
      if run.head? == some '\n' then (breakLines (run.length + 1) p).indent n
      else if !first && !rest.isEmpty && p.foldsAt run then p.indent n
      else p.write (doubleQuotes run)
    writeSingleRuns n false rest p

/-- Writes a single-quoted scalar. -/
def writeSingle (p : Page) (n : Option Nat) (cs : List Char) : Page :=
  let p := p.mark "\x27" true false
  let p := match n with
    | some n => writeSingleRuns n true (runs cs) p
    | none => p.write (doubleQuotes cs)
  p.mark "\x27" false false

/-! ### Double-quoted scalars -/

/-- Whether a character needs an escape in double quotes. -/
def needsEscape (c : Char) : Bool := c == '"' || c == '\\' || !Style.isBare c

/-- The letters of escapes. -/
def escapeLetters : List (Char × Char) :=
  [('\x00', '0'), ('\x07', 'a'), ('\x08', 'b'), ('\t', 't'), ('\n', 'n'), ('\x0b', 'v'),
    ('\x0c', 'f'), ('\r', 'r'), ('\x1b', 'e'), ('"', '"'), ('\\', '\\'), ('\x85', 'N'),
    ('\xa0', '_'), ('\u2028', 'L'), ('\u2029', 'P')]

/-- The letter of the escape of a code point, and the number of digits after it. -/
def escapeForm (n : Nat) : Char × Nat :=
  if n < 256 then ('x', 2) else if n < 65536 then ('u', 4) else ('U', 8)

/-- The escape of a character. -/
def escape (c : Char) : List Char :=
  match escapeLetters.lookup c with
  | some letter => ['\\', letter]
  | none =>
    let form := escapeForm (Text.point c)
    '\\' :: form.1 :: (Text.hex form.2 (Text.point c)).map Char.toUpper

/-- Breaks a line inside double quotes, before a given character. A space there is escaped. -/
def foldDouble (p : Page) (n : Nat) (next : Option Char) : Page :=
  let p := (p.write ['\\']).fold n
  if next == some ' ' then p.write ['\\'] else p

/-- Writes the inside of a double-quoted scalar. `pending` holds, last first, the characters read
but not yet written. A line is broken at spaces and beside escapes, but not at either end. -/
def writeDoubleFrom (n : Option Nat) : Bool → List Char → List Char → Page → Page
  | _, pending, [], p => p.write pending.reverse
  | first, pending, c :: rest, p =>
    let within := !first && !rest.isEmpty
    if needsEscape c then
      let p := (p.write pending.reverse).write (escape c)
      let p := match n with
        | some n => if within && width + 1 < p.column then p.foldDouble n rest.head? else p
        | none => p
      writeDoubleFrom n false [] rest p
    else
      let full := within && (c == ' ' || pending.isEmpty) && width < p.column + pending.length
      match n with
      | some k =>
        if full then
          writeDoubleFrom n false [c] rest ((p.write pending.reverse).foldDouble k (some c))
        else writeDoubleFrom n false (c :: pending) rest p
      | none => writeDoubleFrom n false (c :: pending) rest p

/-- Writes a double-quoted scalar. -/
def writeDouble (p : Page) (n : Option Nat) (cs : List Char) : Page :=
  (writeDoubleFrom n true [] cs (p.mark "\"" true false)).mark "\"" false false

/-- Writes a text in the style that it needs. -/
def writeText (p : Page) (n : Option Nat) (s : String) : Page :=
  match Style.ofText s with
  | .plain => p.writePlain n s.toList
  | .single => p.writeSingle n s.toList
  | .double => p.writeDouble n s.toList

end Page

end AccessPolicy.Yaml
