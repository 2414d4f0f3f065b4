import AccessPolicy.Text.Digit
import AccessPolicy.Text.Line
import AccessPolicy.Text.Width

/-!
# Text in columns

A text is laid out in lines that take at most a given number of columns. Lines break before words; a
word that is longer than a line is folded into pieces or, in a table, cut and ended with an
ellipsis.

* `words` cuts a line into words, each with the blanks after it;
* `divide` puts words into lines;
* `layOut` breaks, trims and aligns a text.

Breaking loses nothing (`flatten_divide`).
-/

namespace AccessPolicy.Console

/-- What becomes of a word that is longer than a line. -/
inductive Overflow where
  /-- It goes on in the next line. -/
  | fold
  /-- It is cut, with an ellipsis at the end. -/
  | ellipsis
deriving DecidableEq, Repr

/-- How a line stands in its columns. -/
inductive Alignment where
  /-- As it is. -/
  | free
  /-- Filled with spaces on the right. -/
  | left
  /-- Filled with spaces on both sides; the odd one is on the right. -/
  | centre
deriving DecidableEq, Repr

/-- A number of spaces. -/
def spaces (n : Nat) : List Char := List.replicate n ' '

theorem isPlain_spaces (n : Nat) : Text.isPlain (spaces n) = true := by
  simp only [Text.isPlain, spaces, List.all_eq_true, List.mem_replicate]
  rintro c ⟨-, rfl⟩
  decide

@[simp] theorem width_spaces (n : Nat) : Text.width (spaces n) = n := by
  induction n with
  | zero => rfl
  | succ n ih =>
    have space : Text.charWidth ' ' = 1 := by decide
    have split : spaces (n + 1) = ' ' :: spaces n := rfl
    rw [split, Text.width_cons_plain (split ▸ isPlain_spaces (n + 1)), space, ih, Nat.add_comm]

/-- Joins a character to words that follow it. A word ends where a blank meets another character. -/
def joinWord (c : Char) : List (List Char) → List (List Char)
  | [] => [[c]]
  | w :: rest =>
    if Text.isBlank c && !(w.head?.all Text.isBlank) then [c] :: w :: rest else (c :: w) :: rest

/-- Joins the blanks at the start of a line to its first word. -/
def joinIndent : List (List Char) → List (List Char)
  | a :: b :: rest => if a.all Text.isBlank then (a ++ b) :: rest else a :: b :: rest
  | ws => ws

/-- The words of a line, each with the blanks after it, the first also with those before it. -/
def words (cs : List Char) : List (List Char) := joinIndent (cs.foldr joinWord [])

theorem flatten_joinWord (c : Char) (ws : List (List Char)) :
    (joinWord c ws).flatten = c :: ws.flatten := by
  cases ws with
  | nil => rfl
  | cons w rest =>
    rw [joinWord]
    split <;> simp

theorem flatten_joinIndent (ws : List (List Char)) : (joinIndent ws).flatten = ws.flatten := by
  unfold joinIndent
  split
  · split <;> simp
  · rfl

/-- The words of a line, put together, are the line. -/
theorem flatten_words (cs : List Char) : (words cs).flatten = cs := by
  rw [words, flatten_joinIndent]
  induction cs with
  | nil => rfl
  | cons c cs ih => rw [List.foldr_cons, flatten_joinWord, ih]

/-- The pieces of signs that are too wide for a line, after a part of the current piece, which takes
some columns. -/
def chopFrom (limit : Nat) (piece : List Char) (used : Nat) : List Text.Sign → List (List Char)
  | [] => [piece]
  | s :: rest =>
    if limit < used + s.width then piece :: chopFrom limit s.chars s.width rest
    else chopFrom limit (piece ++ s.chars) (used + s.width) rest

/-- The pieces of a word that is too long for a line. -/
def chop (limit : Nat) (word : List Char) : List (List Char) :=
  chopFrom limit [] 0 (Text.signs word)

theorem flatten_chopFrom (limit : Nat) (piece : List Char) (used : Nat) (signs : List Text.Sign) :
    (chopFrom limit piece used signs).flatten = piece ++ (signs.map Text.Sign.chars).flatten := by
  induction signs generalizing piece used with
  | nil => simp [chopFrom]
  | cons s rest ih =>
    unfold chopFrom
    split
    · simp [ih]
    · simp [ih]

theorem chopFrom_ne_nil (limit : Nat) (piece : List Char) (used : Nat) (signs : List Text.Sign) :
    chopFrom limit piece used signs ≠ [] := by
  induction signs generalizing piece used with
  | nil => simp [chopFrom]
  | cons s rest ih =>
    unfold chopFrom
    split
    · simp
    · exact ih _ _

theorem chop_ne_nil (limit : Nat) (word : List Char) : chop limit word ≠ [] :=
  chopFrom_ne_nil limit [] 0 (Text.signs word)

/-- The pieces of a word, put together, are the word. -/
theorem flatten_chop (limit : Nat) (word : List Char) : (chop limit word).flatten = word := by
  simp [chop, flatten_chopFrom, Text.flatten_signs]

/-- A line, unless it is empty. -/
def lineUnlessEmpty (line : List Char) : List (List Char) := if line.isEmpty then [] else [line]

@[simp] theorem flatten_lineUnlessEmpty (line : List Char) :
    (lineUnlessEmpty line).flatten = line := by
  unfold lineUnlessEmpty
  split <;> simp_all

/-- Puts words into lines, the first of which holds some text already. Blanks at the end of a line
may go beyond it. -/
def fill (limit : Nat) (overflow : Overflow) (line : List Char) (used : Nat) :
    List (List Char) → List (List Char)
  | [] => [line]
  | w :: rest =>
    let needed := Text.width (Text.trimEnd Text.isBlank w)
    if used + needed ≤ limit then fill limit overflow (line ++ w) (used + Text.width w) rest
    else if limit < needed && overflow = .fold then
      let pieces := chop limit w
      let last := pieces.getLast?.getD []
      lineUnlessEmpty line ++ pieces.dropLast ++ fill limit overflow last (Text.width last) rest
    else lineUnlessEmpty line ++ fill limit overflow w (Text.width w) rest

/-- The lines that a line is broken into. -/
def divide (limit : Nat) (overflow : Overflow) (line : List Char) : List (List Char) :=
  fill limit overflow [] 0 (words line)

theorem flatten_dropLast_append (pieces : List (List Char)) (h : pieces ≠ []) :
    pieces.dropLast.flatten ++ pieces.getLast?.getD [] = pieces.flatten := by
  have last := List.dropLast_concat_getLast h
  rw [List.getLast?_eq_some_getLast h, Option.getD_some]
  conv => rhs; rw [← last]
  simp

theorem flatten_fill (limit : Nat) (overflow : Overflow) (line : List Char) (used : Nat)
    (ws : List (List Char)) : (fill limit overflow line used ws).flatten = line ++ ws.flatten := by
  induction ws generalizing line used with
  | nil => simp [fill]
  | cons w rest ih =>
    rw [fill]
    dsimp only
    split
    · simp [ih]
    · split
      · have whole : (chop limit w).dropLast.flatten ++ (chop limit w).getLast?.getD [] = w := by
          rw [flatten_dropLast_append _ (chop_ne_nil limit w), flatten_chop]
        simp only [List.flatten_append, flatten_lineUnlessEmpty, ih, List.flatten_cons,
          List.append_assoc]
        rw [← List.append_assoc (chop limit w).dropLast.flatten, whole]
      · simp [ih]

/-- Breaking a line loses nothing. -/
theorem flatten_divide (limit : Nat) (overflow : Overflow) (line : List Char) :
    (divide limit overflow line).flatten = line := by
  rw [divide, flatten_fill, flatten_words, List.nil_append]

/-- The distance between tab stops. -/
def tabStop : Nat := 8

/-- Parts of a line that are separated by tabs, from a column on, with spaces for the tabs. A tab is
a space, and the spaces to the next tab stop. -/
def expandParts (column : Nat) : List (List Char) → List Char
  | [] => []
  | [part] => part
  | part :: rest =>
    let part := part ++ [' ']
    let column := column + Text.width part
    let more := (tabStop - column % tabStop) % tabStop
    part ++ spaces more ++ expandParts (column + more) rest

/-- A line with spaces for tabs. -/
def expandTabs (line : List Char) : List Char := expandParts 0 (Text.splitOn (· == '\t') line)

/-- A line without the blanks that go beyond a number of characters. -/
def trimBeyond (limit : Nat) (line : List Char) : List Char :=
  line.take (max (Text.trimEnd Text.isBlank line).length (min limit line.length))

/-- As many signs as take at most a number of columns. Where a wide sign does not fit in half, there
is a space. -/
def takeSigns : Nat → List Text.Sign → List Char
  | _, [] => []
  | limit, s :: rest =>
    if s.width ≤ limit then s.chars ++ takeSigns (limit - s.width) rest else spaces limit

/-- As much of a line as takes at most a number of columns. -/
def cutAt (limit : Nat) (line : List Char) : List Char :=
  if limit = 0 then [] else takeSigns limit (Text.signs line)

/-- A line that takes at most a number of columns. -/
def truncate (limit : Nat) (overflow : Overflow) (line : List Char) : List Char :=
  if Text.width line ≤ limit then line
  else match overflow with
    | .fold => cutAt limit line
    | .ellipsis => cutAt (limit - 1) line ++ ['…']

/-- A line that takes few enough columns is kept. -/
theorem truncate_of_width_le {limit : Nat} {line : List Char} (h : Text.width line ≤ limit)
    (overflow : Overflow) : truncate limit overflow line = line := by
  unfold truncate
  rw [if_pos h]

/-- A line filled with spaces on the right. -/
def padRight (limit : Nat) (line : List Char) : List Char :=
  line ++ spaces (limit - Text.width line)

/-- A line in its columns. -/
def align (limit : Nat) (overflow : Overflow) : Alignment → List Char → List Char
  | .free, line => truncate limit overflow line
  | .left, line => padRight limit (truncate limit overflow line)
  | .centre, line =>
    let line := truncate limit overflow (Text.trimEnd Text.isBlank line)
    padRight limit (spaces ((limit - Text.width line) / 2) ++ line)

/-- A text in lines that take at most a number of columns. -/
def layOut (limit : Nat) (overflow : Overflow) (alignment : Alignment) (text : List Char) :
    List (List Char) :=
  (Text.lines text).flatMap fun line =>
    (divide limit overflow (expandTabs line)).map fun l =>
      align limit overflow alignment (trimBeyond limit l)

end AccessPolicy.Console
