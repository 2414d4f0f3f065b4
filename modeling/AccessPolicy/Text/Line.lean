/-!
# Pieces and lines

`splitOn` cuts a text at every character of a kind: there is always a piece, and only one if there
is nothing to cut at. `trim` takes the characters of a kind off both ends.
-/

namespace AccessPolicy.Text

/-- The pieces of a text between the characters of a kind. -/
def splitOn (stop : Char → Bool) : List Char → List (List Char)
  | [] => [[]]
  | c :: cs =>
    if stop c then [] :: splitOn stop cs
    else match splitOn stop cs with
      | [] => [[c]]
      | piece :: rest => (c :: piece) :: rest

theorem splitOn_ne_nil (stop : Char → Bool) (cs : List Char) : splitOn stop cs ≠ [] := by
  cases cs with
  | nil => simp [splitOn]
  | cons c cs =>
    unfold splitOn
    split
    · simp
    · split <;> simp

/-- A text without a character to cut at is one piece. -/
theorem splitOn_of_forall {stop : Char → Bool} {cs : List Char} (h : ∀ c ∈ cs, stop c = false) :
    splitOn stop cs = [cs] := by
  induction cs with
  | nil => rfl
  | cons c cs ih =>
    simp [splitOn, h c (by simp), ih fun d hd => h d (by simp [hd])]

/-- Whether a character ends a line. -/
def isLineBreak (c : Char) : Bool :=
  let n := c.toNat
  (10 ≤ n && n ≤ 13) || (28 ≤ n && n ≤ 30) || n == 133 || n == 8232 || n == 8233

/-- A text with every line break written as a line feed. -/
def unifyBreaks : List Char → List Char
  | [] => []
  | '\r' :: '\n' :: cs => '\n' :: unifyBreaks cs
  | '\r' :: cs => '\n' :: unifyBreaks cs
  | c :: cs => c :: unifyBreaks cs

/-- The lines of a text, cut at line feeds. -/
def lines (cs : List Char) : List (List Char) := splitOn (· == '\n') cs

/-- A text without the characters of a kind at its end. -/
def trimEnd (edge : Char → Bool) (cs : List Char) : List Char := (cs.reverse.dropWhile edge).reverse

/-- A text without the characters of a kind around it. -/
def trim (edge : Char → Bool) (cs : List Char) : List Char := trimEnd edge (cs.dropWhile edge)

end AccessPolicy.Text
