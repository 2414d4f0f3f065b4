import AccessPolicy.Console.Emoji
import AccessPolicy.Console.Literal
import AccessPolicy.Console.Style
import AccessPolicy.Failure

/-!
# Console markup

Text for the console may hold tags in brackets: `[bold]` opens a style, `[/bold]` closes the last
one opened under that name, `[/]` the last one opened. A backslash before a tag makes it plain text,
two backslashes stand for one. In plain text, names between colons stand for pictograms.

* `Markup.pieces` cuts a text into plain pieces and tags;
* `Markup.shown` is what a text shows, its plain pieces, with the styles of its parts. A closing tag
  that closes nothing is a failure, and so are a handler whose parameters are no literal and a
  colour that lacks a part;
* `Shown.check` looks the styles up, which can fail when the text is laid out at last;
* `Markup.escape` makes the tags of a text plain.
-/

namespace AccessPolicy.Console

namespace Markup

/-- A piece of a text. -/
inductive Piece where
  /-- Plain text. -/
  | plain (cs : List Char)
  /-- A tag, by what stands between its brackets. -/
  | tag (body : List Char)
deriving DecidableEq, Repr

/-- Whether a tag can start with a character. -/
def startsTag (c : Char) : Bool :=
  ('a' ≤ c && c ≤ 'z') || c == '#' || c == '/' || c == '@'

/-- The body of the tag whose opening bracket stands just before the text: all up to the next
closing bracket, with no opening bracket in it. -/
def tagBody? (cs : List Char) : Option (List Char) :=
  let (body, rest) := cs.span fun c => c != ']' && c != '['
  match body.head?, rest.head? with
  | some c, some ']' => if startsTag c then some body else none
  | _, _ => none

/-- A plain piece, unless it is empty. -/
def plainPiece (cs : List Char) : List Piece := if cs.isEmpty then [] else [.plain cs]

/-- The pieces of a text after some plain text, kept in reverse, and a run of backslashes, when some
characters are yet to be passed over. -/
def cut (before : List Char) (backslashes : Nat) : Nat → List Char → List Piece
  | _, [] => plainPiece (before.reverse ++ List.replicate backslashes '\\')
  | skip + 1, _ :: cs => cut before backslashes skip cs
  | 0, c :: cs =>
    if c == '\\' then cut before (backslashes + 1) 0 cs
    else if c != '[' then cut (c :: (List.replicate backslashes '\\' ++ before)) 0 0 cs
    else match tagBody? cs with
      | none => cut ('[' :: (List.replicate (backslashes - 1) '\\' ++ before)) 0 0 cs
      | some body =>
        plainPiece before.reverse
          ++ plainPiece (List.replicate (backslashes / 2) '\\')
          ++ [if backslashes % 2 = 1 then .plain ('[' :: (body ++ [']'])) else .tag body]
          ++ cut [] 0 (body.length + 1) cs

/-- The pieces of a text. -/
def pieces (cs : List Char) : List Piece := cut [] 0 0 cs

/-- The name of a tag, before the first equals sign, and its parameters, after it. -/
def nameAndParameters (body : List Char) : List Char × Option (List Char) :=
  let name := body.takeWhile (· != '=')
  match body.drop name.length with
  | _ :: parameters => (name, some parameters)
  | [] => (name, none)

/-- Whether the console leaves a character out: the bell, backspace, vertical tab, form feed or
carriage return. -/
def isDropped (c : Char) : Bool :=
  c == '\x07' || c == '\x08' || c == '\x0b' || c == '\x0c' || c == '\r'

/-! ### Tags and what they span -/

/-- A tag that is open. -/
structure OpenTag where
  /-- How many characters are shown before it. -/
  start : Nat
  /-- Its name in normal form. -/
  name : String
  /-- Its parameters. -/
  parameters : Option (List Char)
deriving Repr

namespace OpenTag

/-- The style that a tag asks for. -/
def style (t : OpenTag) : List Char :=
  t.name.toList ++ (t.parameters.elim [] fun ps => ' ' :: ps)

/-- Whether a tag names what is to be done with its text, not a style. -/
def isHandler (t : OpenTag) : Bool := t.name.toList.head? == some '@'

end OpenTag

/-- The literal in the parameters of a handler: after a name with points in it, what stands in
parentheses. A name alone has empty ones. -/
def argument (parameters : List Char) : List Char :=
  let parameters := Text.trim Text.isBlank parameters
  match parameters.dropWhile fun c => Text.isWordChar c || c == '.' with
  | [] => ['(', ')']
  | c :: rest =>
    if c == '(' && rest.getLast? == some ')' && !rest.contains '\n' then c :: rest else parameters

/-- Whether the parameters of a handler can be read. -/
def isReadable (parameters : Option (List Char)) : Bool :=
  match parameters with
  | none => true
  | some ps => ps.isEmpty || Literal.isLiteral (argument ps)

/-- A part of a shown text that has a style. -/
structure Span where
  /-- How many characters are shown before it. -/
  start : Nat
  /-- How many characters are shown before its end. -/
  finish : Nat
  /-- The style. -/
  style : List Char
deriving Repr

/-- What a text shows. -/
structure Shown where
  /-- The characters. -/
  text : List Char := []
  /-- The parts that have a style. -/
  spans : List Span := []
deriving Repr

/-- How far a text has been shown. -/
structure Progress where
  /-- The characters so far. -/
  text : List Char := []
  /-- The tags that are open, the last one first. -/
  opened : List OpenTag := []
  /-- The parts that have a style. -/
  spans : List Span := []

namespace Progress

/-- The part of the text that a tag spans. -/
def span (p : Progress) (t : OpenTag) : Span := ⟨t.start, p.text.length, t.style⟩

/-- The failure to read a name or the parts of a colour in it. -/
def misnamed : Style.Misnomer → Failure
  | .unknown => .markup
  | .badPart e => .badInteger e

/-- Closes an open tag; those that stay open are given. -/
def close (p : Progress) (t : OpenTag) (opened : List OpenTag) : Except Failure Progress :=
  if t.isHandler then
    if isReadable t.parameters then .ok { p with opened := opened } else .error .markup
  else .ok { p with opened := opened, spans := p.span t :: p.spans }

/-- Closes the last tag opened, or the last one of a name. -/
def closeNamed (p : Progress) (name : Option String) : Except Failure Progress :=
  match p.opened.find? fun t => name.all (· == t.name) with
  | some t => p.close t (p.opened.eraseP fun t => name.all (· == t.name))
  | none => .error .markup

/-- Shows a piece. -/
def add (p : Progress) : Piece → Except Failure Progress
  | .plain cs => .ok { p with text := p.text ++ (Emoji.replace cs).filter (!isDropped ·) }
  | .tag body => match nameAndParameters body with
    | ('/' :: name, _) =>
      if (Text.trim Text.isBlank name).isEmpty then p.closeNamed none
      else match Style.normal name with
        | .ok name => p.closeNamed (some name)
        | .error e => .error (misnamed e)
    | (name, parameters) => match Style.normal name with
      | .ok name => .ok { p with opened := ⟨p.text.length, name, parameters⟩ :: p.opened }
      | .error e => .error (misnamed e)

/-- Shows pieces in turn. -/
def addAll (p : Progress) : List Piece → Except Failure Progress
  | [] => .ok p
  | piece :: rest => match p.add piece with
    | .ok p => p.addAll rest
    | .error e => .error e

/-- What is shown at the end. Tags that are still open span all up to the end. -/
def shown (p : Progress) : Shown := ⟨p.text, p.opened.map p.span ++ p.spans⟩

end Progress

/-- What a text shows. -/
def shown (s : String) : Except Failure Shown :=
  (Progress.addAll {} (pieces s.toList)).map Progress.shown

/-- Looks the styles of a shown text up, once it is laid out in a number of lines. A text in several
lines, or with tabs, keeps only the parts that hold a character. -/
def Shown.check (s : Shown) (lines : Nat) : Except Failure Unit :=
  let whole := lines = 1 && !s.text.contains '\t'
  match s.spans.findSome? fun p =>
      if whole || p.start < p.finish then Style.unreadable? p.style else none with
  | some e => .error (.badInteger e)
  | none => .ok ()

/-! ### Escapes -/

/-- A text with a backslash before every tag, and with the backslashes before tags doubled, after a
run of backslashes, when some characters are yet to be copied. -/
def escapeFrom (backslashes : Nat) : Nat → List Char → List Char
  | _, [] => []
  | copied + 1, c :: cs => c :: escapeFrom 0 copied cs
  | 0, c :: cs =>
    if c == '\\' then c :: escapeFrom (backslashes + 1) 0 cs
    else if c != '[' then c :: escapeFrom 0 0 cs
    else match tagBody? cs with
      | none => c :: escapeFrom 0 0 cs
      | some body => List.replicate (backslashes + 1) '\\' ++ c :: escapeFrom 0 (body.length + 1) cs

/-- A text that ends in a single backslash gets another one. -/
def closeBackslash (cs : List Char) : List Char :=
  match cs.reverse with
  | '\\' :: '\\' :: _ => cs
  | '\\' :: _ => cs ++ ['\\']
  | _ => cs

/-- A text whose tags are plain. -/
def escape (s : String) : String := String.ofList (closeBackslash (escapeFrom 0 0 s.toList))

end Markup

end AccessPolicy.Console
