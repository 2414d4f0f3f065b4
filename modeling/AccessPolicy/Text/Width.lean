import AccessPolicy.Text.Printable
import AccessPolicy.Text.Width.Ranges

/-!
# The columns that text takes

A character takes no column, one or two. Two characters act on those beside them: a *joiner* makes
one sign of the characters around it, of which only the first takes columns, and a *selector* asks
for the pictorial form of the character before it, which may take two columns where the character
alone takes one.

* `width` is the number of columns of a text. It is a sum over the characters, but for joiners and
  selectors (`width_cons_plain`), so that a text may be narrower than its parts;
* `signs` cuts a text into signs, the pieces at which it may be cut when it is shown. Nothing is
  lost (`flatten_signs`).
-/

namespace AccessPolicy.Text

/-- The character that makes one sign of the characters beside it. -/
def joiner : Char := '\u200d'

/-- The character that asks for the pictorial form of the character before it. -/
def selector : Char := '\ufe0f'

/-- The number of columns a character takes by itself. -/
def charWidth (c : Char) : Nat :=
  if 32 ≤ c.toNat && c.toNat < 127 then 1
  else if c.toNat < 32 || (127 ≤ c.toNat && c.toNat < 160) then 0
  else if inRanges unseenRanges c.toNat then 0
  else if inRanges wideRanges c.toNat then 2
  else 1

/-- Whether a character takes a column more in its pictorial form. -/
def growsAsPicture (c : Char) : Bool := inRanges pictorialRanges c.toNat

/-- The column more that a character takes in its pictorial form. -/
def growth (last : Option Char) : Nat := if last.any growsAsPicture then 1 else 0

/-- The number of columns a text takes after some character that took columns, if the first
character is not joined to those before it. -/
def widthFrom (last : Option Char) : Bool → List Char → Nat
  | _, [] => 0
  | true, _ :: cs => widthFrom last false cs
  | false, c :: cs =>
    if c = joiner then widthFrom last true cs
    else if c = selector then growth last + widthFrom none false cs
    else if charWidth c = 0 then widthFrom last false cs
    else charWidth c + widthFrom (some c) false cs

/-- The number of columns a text takes. -/
def width (cs : List Char) : Nat := widthFrom none false cs

@[simp] theorem width_nil : width [] = 0 := rfl

/-- Whether a text neither joins nor selects. -/
def isPlain (cs : List Char) : Bool := cs.all fun c => c != joiner && c != selector

/-- A text that neither joins nor selects takes the columns of its characters, whatever stands
before it. -/
theorem widthFrom_of_isPlain {cs : List Char} (h : isPlain cs = true) (last : Option Char) :
    widthFrom last false cs = widthFrom none false cs := by
  induction cs generalizing last with
  | nil => rfl
  | cons c cs ih =>
    simp only [isPlain, List.all_cons, Bool.and_eq_true, bne_iff_ne] at h
    have rest := ih h.2
    simp only [widthFrom, h.1.1, h.1.2, if_false]
    split
    · exact rest last
    · rfl

/-- The columns of a text that neither joins nor selects, character by character. -/
theorem width_cons_plain {c : Char} {cs : List Char} (h : isPlain (c :: cs) = true) :
    width (c :: cs) = charWidth c + width cs := by
  simp only [isPlain, List.all_cons, Bool.and_eq_true, bne_iff_ne] at h
  have rest := widthFrom_of_isPlain h.2
  simp only [width, widthFrom, h.1.1, h.1.2, if_false]
  split
  · next none => rw [none, Nat.zero_add]
  · rw [rest (some c)]

/-! ### Signs -/

/-- A piece of a text that is shown as a whole. -/
structure Sign where
  /-- The characters. -/
  chars : List Char
  /-- The columns that it takes. -/
  width : Nat
deriving DecidableEq, Repr

namespace Sign

/-- Adds a character, and columns. -/
def extend (s : Sign) (c : Char) (more : Nat) : Sign := ⟨s.chars ++ [c], s.width + more⟩

@[simp] theorem chars_extend (s : Sign) (c : Char) (more : Nat) :
    (s.extend c more).chars = s.chars ++ [c] := rfl

end Sign

/-- The signs of a text after a sign that may go on. `last` is the last character that took columns;
the flag tells whether the next character is joined to the sign. -/
def signsFrom (sign : Sign) (last : Option Char) : Bool → List Char → List Sign
  | _, [] => [sign]
  | true, c :: cs => signsFrom (sign.extend c 0) last false cs
  | false, c :: cs =>
    if c = joiner then signsFrom (sign.extend c 0) last (!sign.chars.isEmpty) cs
    else if c = selector then signsFrom (sign.extend c (growth last)) none false cs
    else if charWidth c = 0 then signsFrom (sign.extend c 0) last false cs
    else if sign.chars.isEmpty then signsFrom ⟨[c], charWidth c⟩ (some c) false cs
    else sign :: signsFrom ⟨[c], charWidth c⟩ (some c) false cs

/-- The signs of a text. -/
def signs (cs : List Char) : List Sign := signsFrom ⟨[], 0⟩ none false cs

theorem flatten_signsFrom (sign : Sign) (last : Option Char) (joined : Bool) (cs : List Char) :
    ((signsFrom sign last joined cs).map Sign.chars).flatten = sign.chars ++ cs := by
  induction cs generalizing sign last joined with
  | nil => simp [signsFrom]
  | cons c cs ih =>
    cases joined with
    | true => simp [signsFrom, ih]
    | false =>
      unfold signsFrom
      split
      · simp [ih]
      · split
        · simp [ih]
        · split
          · simp [ih]
          · split
            · next empty => simp_all [List.isEmpty_iff]
            · simp [ih]

/-- The signs of a text, put together, are the text. -/
theorem flatten_signs (cs : List Char) : ((signs cs).map Sign.chars).flatten = cs := by
  simp [signs, flatten_signsFrom]

end AccessPolicy.Text
