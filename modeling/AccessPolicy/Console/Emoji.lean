import AccessPolicy.Console.Emoji.NamesAToB
import AccessPolicy.Console.Emoji.NamesCToE
import AccessPolicy.Console.Emoji.NamesF
import AccessPolicy.Console.Emoji.NamesGToL
import AccessPolicy.Console.Emoji.NamesM
import AccessPolicy.Console.Emoji.NamesNToR
import AccessPolicy.Console.Emoji.NamesSToV
import AccessPolicy.Console.Emoji.NamesWToZ
import AccessPolicy.Text.Case
import AccessPolicy.Text.Digit

/-!
# Pictograms by name

A name between two colons in a text for the console stands for a pictogram, in whatever mix of
capitals it is written. `-emoji` or `-text` after the name asks for the pictorial form or for that
of a letter. Names that are not known stay as they are, with their colons, and the text after the
second colon is looked at next.
-/

namespace AccessPolicy.Console.Emoji

/-- The pictograms by their names. -/
def names : List (String × String) :=
  namesAToB ++ namesCToE ++ namesF ++ namesGToL ++ namesM ++ namesNToR ++ namesSToV ++ namesWToZ

/-- The pictogram of a name. -/
def find? (name : List Char) : Option (List Char) :=
  (names.lookup (String.ofList (Text.lower name))).map String.toList

/-- The endings of names that ask for a form, with the character that selects it. -/
def forms : List (List Char × Char) :=
  [("-emoji".toList, '\ufe0f'), ("-text".toList, '\ufe0e')]

/-- The pictogram that stands for what is between two colons. -/
def pictogram? (body : List Char) : Option (List Char) :=
  match forms.find? fun f => f.1.isSuffixOf body with
  | some (ending, form) => (find? (body.take (body.length - ending.length))).map (· ++ [form])
  | none => find? body

/-- What stands between a colon just before a text and the next colon, with no blank in between. -/
def code? (cs : List Char) : Option (List Char) :=
  let body := cs.takeWhile fun c => c != ':' && !Text.isBlank c
  if (cs.drop body.length).head? == some ':' then some body else none

/-- A text with pictograms for their names, when some characters are yet to be passed over. -/
def replaceFrom : Nat → List Char → List Char
  | _, [] => []
  | skip + 1, _ :: cs => replaceFrom skip cs
  | 0, c :: cs =>
    if c == ':' then match code? cs with
      | some body =>
        (pictogram? body).getD (':' :: (body ++ [':'])) ++ replaceFrom (body.length + 1) cs
      | none => c :: replaceFrom 0 cs
    else c :: replaceFrom 0 cs

/-- A text with pictograms for their names. -/
def replace (cs : List Char) : List Char := replaceFrom 0 cs

end AccessPolicy.Console.Emoji
