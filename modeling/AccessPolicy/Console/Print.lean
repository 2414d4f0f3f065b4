import AccessPolicy.Console.Markup
import AccessPolicy.Console.Wrap

/-!
# Printing on the console

The console writes to no terminal and has no colours, and its width is the one that the environment
names. `printed` is what a text with markup prints: its lines, each with a line feed at its end.
-/

namespace AccessPolicy.Console

/-- The width of the console. No terminal sets it, so it is that of the variable `COLUMNS`, which is
200 wherever the commands are run. Without the variable it would be 80. -/
def columns : Nat := 200

/-- Lines as they are printed. Nothing is printed of lines that hold halves of pairs. -/
def output (lines : List (List Char)) : Except Failure String :=
  if lines.all Text.isWhole then .ok (String.ofList (lines.flatMap fun l => l ++ ['\n']))
  else .error .halfCharacter

/-- What a text prints. -/
def printed (markup : String) : Except Failure String := do
  let shown ← Markup.shown markup
  let lines := layOut columns .fold .free shown.text
  shown.check lines.length
  output lines

end AccessPolicy.Console
