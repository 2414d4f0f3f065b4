import AccessPolicy.Number.Numeral
import AccessPolicy.Text.Case

/-!
# Styles of console text

A style is named by words: attributes such as `bold`, a colour, `on` and a colour for the ground,
`link` and a target. Two names mean the same style if they have the same normal form, in which the
attributes come first, in a fixed order, then the colours, then the target. A name that is no style
has itself in small letters as its normal form.

The console shows no styles; names matter because a closing tag closes the tag of its name, and
because a colour whose three parts are not all there cannot be read at all: `Style.parse` tells such
names (`Misnomer.badPart`) from those that merely name no style.
-/

namespace AccessPolicy.Console

/-- A style. -/
structure Style where
  /-- The attributes that are set, on or off. -/
  attributes : List (String × Bool) := []
  /-- The colour. -/
  colour : Option String := none
  /-- The colour of the ground. -/
  ground : Option String := none
  /-- The target of a link. -/
  link : Option String := none

namespace Style

/-- The attributes in their order. -/
def attributeNames : List String :=
  ["bold", "dim", "italic", "underline", "blink", "blink2", "reverse", "conceal", "strike",
    "underline2", "frame", "encircle", "overline"]

/-- The short names of attributes. -/
def shortNames : List (String × String) :=
  [("b", "bold"), ("d", "dim"), ("i", "italic"), ("u", "underline"), ("r", "reverse"),
    ("c", "conceal"), ("s", "strike"), ("uu", "underline2"), ("o", "overline")]

/-- The attribute that a word names. -/
def attribute? (word : String) : Option String :=
  if attributeNames.contains word then some word else shortNames.lookup word

/-- The colours that have a number and no shade. -/
def basicColours : List String :=
  ["black", "red", "green", "yellow", "blue", "magenta", "cyan", "white"]

/-- The colours of the palette of 256 that have a name of their own. -/
def paletteColours : List String :=
  ["navy_blue", "dark_blue", "blue3", "blue1", "dark_green", "deep_sky_blue4", "dodger_blue3",
    "dodger_blue2", "green4", "spring_green4", "turquoise4", "deep_sky_blue3", "dodger_blue1",
    "green3", "spring_green3", "dark_cyan", "light_sea_green", "deep_sky_blue2", "deep_sky_blue1",
    "spring_green2", "cyan3", "dark_turquoise", "turquoise2", "green1", "spring_green1",
    "medium_spring_green", "cyan2", "cyan1", "dark_red", "deep_pink4", "purple4", "purple3",
    "blue_violet", "orange4", "medium_purple4", "slate_blue3", "royal_blue1", "chartreuse4",
    "dark_sea_green4", "pale_turquoise4", "steel_blue", "steel_blue3", "cornflower_blue",
    "chartreuse3", "cadet_blue", "sky_blue3", "steel_blue1", "pale_green3", "sea_green3",
    "aquamarine3", "medium_turquoise", "chartreuse2", "sea_green2", "sea_green1", "aquamarine1",
    "dark_slate_gray2", "dark_magenta", "dark_violet", "purple", "light_pink4", "plum4",
    "medium_purple3", "slate_blue1", "yellow4", "wheat4", "light_slate_grey", "light_slate_gray",
    "medium_purple", "light_slate_blue", "dark_olive_green3", "dark_sea_green", "light_sky_blue3",
    "sky_blue2", "dark_sea_green3", "dark_slate_gray3", "sky_blue1", "chartreuse1", "light_green",
    "pale_green1", "dark_slate_gray1", "red3", "medium_violet_red", "magenta3", "dark_orange3",
    "indian_red", "hot_pink3", "medium_orchid3", "medium_orchid", "medium_purple2",
    "dark_goldenrod", "light_salmon3", "rosy_brown", "medium_purple1", "gold3", "dark_khaki",
    "navajo_white3", "light_steel_blue3", "light_steel_blue", "yellow3", "dark_sea_green2",
    "light_cyan3", "light_sky_blue1", "green_yellow", "dark_olive_green2", "dark_sea_green1",
    "pale_turquoise1", "deep_pink3", "magenta2", "hot_pink2", "orchid", "medium_orchid1",
    "orange3", "light_pink3", "pink3", "plum3", "violet", "light_goldenrod3", "tan",
    "misty_rose3", "thistle3", "plum2", "khaki3", "light_goldenrod2", "light_yellow3",
    "light_steel_blue1", "yellow2", "dark_olive_green1", "honeydew2", "light_cyan1", "red1",
    "deep_pink2", "deep_pink1", "magenta1", "orange_red1", "indian_red1", "hot_pink",
    "dark_orange", "salmon1", "light_coral", "pale_violet_red1", "orchid2", "orchid1", "orange1",
    "sandy_brown", "light_salmon1", "light_pink1", "pink1", "plum1", "gold1", "light_goldenrod1",
    "navajo_white1", "misty_rose1", "thistle1", "yellow1", "khaki1", "wheat1", "cornsilk1"]

/-- The shades of grey that have a name. -/
def greyShades : List String :=
  ["0", "3", "7", "11", "15", "19", "23", "27", "30", "35", "37", "39", "42", "46", "50", "53",
    "54", "58", "62", "63", "66", "69", "70", "74", "78", "82", "84", "85", "89", "93", "100"]

/-- The names of colours. -/
def colourNames : List String :=
  "default" :: basicColours ++ basicColours.map ("bright_" ++ ·) ++ paletteColours
    ++ greyShades.map ("grey" ++ ·) ++ greyShades.map ("gray" ++ ·)

/-- A text in small letters. -/
def lower (s : String) : String := String.ofList (Text.lower s.toList)

/-- What stands in a word between a start and a closing parenthesis at its end. -/
def enclosed? (start word : String) : Option (List Char) :=
  if start.toList.isPrefixOf word.toList && word.toList.getLast? == some ')' then
    some (word.toList.drop start.length).dropLast
  else none

/-- A colour by its number in the palette. -/
def isNumbered (word : String) : Bool :=
  match enclosed? "color(" word with
  | some ds => !ds.isEmpty && ds.all Char.isDigit && ds.length ≤ 3 &&
      decide ((String.ofList ds).toNat?.getD 256 ≤ 255)
  | none => false

/-- A colour by its three parts, in hexadecimal digits. -/
def isHexadecimal (word : String) : Bool :=
  match word.toList with
  | '#' :: ds => ds.length == 6 && ds.all fun c => c.isDigit || ('a' ≤ c && c ≤ 'f')
  | _ => false

/-- Why words name no style. -/
inductive Misnomer where
  /-- A word is no part of a style. -/
  | unknown
  /-- A part of a colour is no numeral: it is empty, or has too many digits. -/
  | badPart (cause : IntegerFault)
deriving DecidableEq, Repr

/-- Reads a colour by its three parts, in decimal digits. -/
def readTriple (body : List Char) : Except Misnomer Unit :=
  let parts := Text.splitOn (· == ',') body
  if body.isEmpty || !(body.all fun c => c == ',' || Numeral.isDigit c) || parts.length != 3 then
    .error .unknown
  else match parts.mapM (Numeral.read 10) with
    | .error e => .error (.badPart e)
    | .ok values => if values.all (· ≤ 255) then .ok () else .error .unknown

/-- Reads a word as the name of a colour. -/
def readColour (word : String) : Except Misnomer Unit :=
  if colourNames.contains word || isHexadecimal word || isNumbered word then .ok ()
  else match enclosed? "rgb(" word with
    | some body => readTriple body
    | none => .error .unknown

/-- Sets an attribute. -/
def set (s : Style) (name : String) (on : Bool) : Style :=
  { s with attributes := (name, on) :: s.attributes.filter (·.1 != name) }

/-- Reads the style that words name, on top of another. The first word that is wrong tells why there
is none. -/
def readWords (s : Style) : List String → Except Misnomer Style
  | [] => .ok s
  | word :: rest =>
    if lower word == "on" then match rest with
      | ground :: rest => match readColour (lower ground) with
        | .ok () => readWords { s with ground := some (lower ground) } rest
        | .error e => .error e
      | [] => .error .unknown
    else if lower word == "not" then match rest with
      | name :: rest => match attribute? name with
        | some a => readWords (s.set a false) rest
        | none => .error .unknown
      | [] => .error .unknown
    else if lower word == "link" then match rest with
      | target :: rest => readWords { s with link := some target } rest
      | [] => .error .unknown
    else match attribute? (lower word) with
      | some a => readWords (s.set a true) rest
      | none => match readColour (lower word) with
        | .ok () => readWords { s with colour := some (lower word) } rest
        | .error e => .error e

/-- The words of a style in their order. -/
def words (s : Style) : List String :=
  (attributeNames.flatMap fun name => match s.attributes.lookup name with
    | some true => [name]
    | some false => ["not", name]
    | none => [])
  ++ s.colour.toList
  ++ (s.ground.elim [] fun c => ["on", c])
  ++ (s.link.elim [] fun t => ["link", t])

/-- The words of a text between blanks. -/
def split : List Char → List (List Char)
  | [] => []
  | c :: cs =>
    if Text.isBlank c then split cs
    else match cs, split cs with
      | d :: _, w :: rest => if Text.isBlank d then [c] :: w :: rest else (c :: w) :: rest
      | _, rest => [c] :: rest

/-- Reads the name of a style. -/
def parse (name : List Char) : Except Misnomer Style :=
  let words := (split name).map String.ofList
  if words == ["none"] then .ok {} else readWords {} words

/-- The text of a style. -/
def text (s : Style) : String := if s.words.isEmpty then "none" else " ".intercalate s.words

/-- The normal form of the name of a style. -/
def normal (name : List Char) : Except Misnomer String :=
  match parse name with
  | .ok s => .ok s.text
  | .error .unknown => .ok (lower (String.ofList (Text.trim Text.isBlank name)))
  | .error e => .error e

/-- Why a text cannot be read as the name of a style, not even as one that is not known. -/
def unreadable? (name : List Char) : Option IntegerFault :=
  match parse name with
  | .error (.badPart e) => some e
  | _ => none

end Style

end AccessPolicy.Console
