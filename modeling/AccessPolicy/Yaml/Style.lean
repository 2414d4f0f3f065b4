import AccessPolicy.Number.Shortest
import AccessPolicy.Yaml.Scalar

/-!
# Styles of scalars

The style in which a text is written: plain if it reads back as the same text that way, else in
single quotes if these can hold it, else in double quotes, which can hold every text.
-/

namespace AccessPolicy

/-- Floating-point numbers in YAML. -/
def FloatStyle.yaml : FloatStyle := ⟨".inf", ".nan", true⟩

namespace Yaml

/-- The style of a scalar. -/
inductive Style where
  /-- Without quotes. -/
  | plain
  /-- In single quotes. -/
  | single
  /-- In double quotes, with escapes. -/
  | double
deriving DecidableEq, Repr

namespace Style

/-- Whether a character separates an indicator from what follows: a blank, a line break or the
null character. -/
def separates (c : Char) : Bool :=
  c == '\x00' || c == ' ' || c == '\t' || isBreak c

/-- Whether a text ends here or goes on with a separating character. -/
def separated (c : Option Char) : Bool := c.all separates

/-- Whether a character can stand in a scalar without escapes, line feeds apart. -/
def isBare (c : Char) : Bool := ' ' ≤ c && c ≤ '~'

/-- Whether the rest of a text, after a given character, holds an indicator: a colon before a
separating character, or a number sign after one. -/
def holdsIndicator : Char → List Char → Bool
  | _, [] => false
  | before, c :: rest =>
    (c == ':' && separated rest.head?) || (c == '#' && separates before) || holdsIndicator c rest

/-- Whether a text starts like something else than a scalar. -/
def startsIndicator : List Char → Bool
  | [] => false
  | c :: rest =>
    ['-', '-', '-'].isPrefixOf (c :: rest) || ['.', '.', '.'].isPrefixOf (c :: rest)
      || "#,[]\x7b\x7d&*!|>\x27\"%@\x60".toList.contains c
      || ((c == '?' || c == ':' || c == '-') && separated rest.head?)
      || holdsIndicator c rest

/-- Whether a text holds a character right before another one. -/
def holdsPair (a b : Char) : List Char → Bool
  | [] => false
  | c :: rest => (c == a && rest.head? == some b) || holdsPair a b rest

/-- Whether a text can be written plain: it reads back as a text, on one line. -/
def allowsPlain (s : String) : Bool :=
  let cs := s.toList
  plainKind s == .text && cs.all isBare && !startsIndicator cs
    && cs.head? != some ' ' && cs.getLast? != some ' '

/-- Whether a text can be written in single quotes: no character needs an escape, and no line ends
or goes on with a space. -/
def allowsSingle (s : String) : Bool :=
  let cs := s.toList
  cs.all (fun c => isBare c || c == '\n') && !holdsPair ' ' '\n' cs && !holdsPair '\n' ' ' cs

/-- The style in which a text is written. -/
def ofText (s : String) : Style :=
  if allowsPlain s then .plain else if allowsSingle s then .single else .double

end Style

end Yaml

end AccessPolicy
