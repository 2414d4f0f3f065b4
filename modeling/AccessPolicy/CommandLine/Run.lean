import AccessPolicy.CommandLine.Command
import AccessPolicy.Console.Table
import AccessPolicy.Policy.File
import AccessPolicy.Service.Access

/-!
# Running a command

A command works on a service and on files, and prints. It ends by itself, with an exit code, or with
a failure that it lets through.

* `Command.run` runs a command;
* `report` is what becomes of a failure of the work that a command does: an expected one, an error
  of the service or an interruption is printed and gives the exit code, any other is let through.
-/

namespace AccessPolicy.CommandLine

variable {σ : Type}

/-- Where a command stands. -/
structure Progress (σ : Type) where
  /-- The service. -/
  world : World σ
  /-- The files. -/
  files : FileTree := {}
  /-- What was printed. -/
  output : String := ""

/-- How a command ends early. -/
inductive Ending where
  /-- With an exit code. -/
  | exit (code : Nat)
  /-- With a failure let through. -/
  | failed (cause : Failure)

/-- A part of a command: it goes on with a result, or ends the command. -/
abbrev Work (σ α : Type) := EStateM Ending (Progress σ) α

/-- Prints a text that may turn out to be unfit. -/
def emit (text : Except Failure String) : Work σ Unit := fun s =>
  match text with
  | .ok t => .ok () { s with output := s.output ++ t }
  | .error e => .error (.failed e) s

/-- Prints a text with markup. -/
def print (markup : String) : Work σ Unit := emit (Console.printed markup)

/-- Prints a text with markup and ends the command. -/
def printAndExit {α : Type} (markup : String) (code : Nat) : Work σ α := do
  print markup
  throw (.exit code)

/-- What becomes of a failure of the work that a command does. -/
def report {α : Type} : Failure → Work σ α
  | .service status reason =>
    printAndExit ("[bold red]API error (" ++ toString status ++ "):[/bold red] "
      ++ Console.Markup.escape reason) 1
  | .interrupted => printAndExit "\n[yellow]Interrupted by user.[/yellow]" 130
  | e =>
    if e.isExpected then
      printAndExit ("[bold red]Error:[/bold red] " ++ Console.Markup.escape e.message) 1
    else throw (.failed e)

/-- The outcome of work, its failure reported. -/
def settled {α : Type} : Except Failure α → Work σ α
  | .ok a => pure a
  | .error e => report e

/-- The outcome of work, its failure let through. -/
def demanded {α : Type} : Except Failure α → Work σ α
  | .ok a => pure a
  | .error e => throw (.failed e)

/-- Does work with the service. -/
def ask {α : Type} (work : World σ → World σ × Except Failure α) : Work σ α := do
  let r ← modifyGet fun s => let (w, r) := work s.world; (r, { s with world := w })
  settled r

/-! ### Policies on the console -/

/-- The rows of the bindings of a policy document: the role, and its members in a line each. -/
def bindingRows (document : Value) : List (List String) :=
  match document with
  | .map fields => match Value.field "bindings" fields with
    | .list bindings => bindings.map fun
      | .map fields =>
        let members := match Value.field "members" fields with
          | .list members => members
          | _ => []
        [(Value.field "role" fields).plain, "\n".intercalate (members.map Value.plain)]
      | _ => []
    | _ => []
  | _ => []

/-- The table of the bindings of a resource. -/
def bindingTable (resource : String) (document : Value) : Console.Table :=
  { title := "IAM policy for " ++ resource
    heads := ["Role", "Members"]
    rows := bindingRows document }

/-- The line under the table of a policy. There is none if the tag or the version has no text. -/
def summary (p : Policy) : Except Failure String :=
  if p.etag.isWritable && p.version.isWritable then
    .ok ("[dim]etag: " ++ (if p.etag.truthy then p.etag.plain else "-")
      ++ "  version: " ++ (if p.version.isNull then "-" else p.version.plain) ++ "[/dim]")
  else .error (.badInteger .tooLong)

/-- Prints the policy of a resource. -/
def printPolicy (resource : String) (p : Policy) : Work σ Unit := do
  let document ← demanded p.encode
  emit (bindingTable resource document).printed
  emit ((summary p).bind Console.printed)

/-! ### Commands -/

/-- The version of the program. -/
def programVersion : String := "0.1.0-alpha"

/-- Prints a mark for each permission: whether it is granted. -/
def printPermissions (granted : List Value) : List String → Work σ Unit
  | [] => pure ()
  | p :: rest => do
    print ((if granted.any (·.same (.text p)) then "[green]✓[/green] " else "[red]✗[/red] ") ++ p)
    printPermissions granted rest

/-- A path that no file system can hold is refused before the work begins. -/
def checkPath (path : String) : Work σ Unit :=
  match FileTree.badPath? path with
  | some e => throw (.failed e)
  | none => pure ()

/-- Writes a policy file. -/
def save (p : Policy) (path : String) : Work σ String := do
  let r ← modifyGet fun s => let (t, r) := Policy.save s.files p path; (r, { s with files := t })
  demanded r

/-- The work of a command. -/
def Command.work [Service σ] : Command → Work σ Unit
  | version => print ("pdum_iam version: [bold green]" ++ programVersion ++ "[/bold green]")
  | showPolicy resource => do
    let p ← ask fun w => Admin.getPolicy w (.text resource) none .null
    printPolicy resource p
  | addBinding resource role members => do
    let p ← ask fun w =>
      Admin.addBinding w (.text resource) none (.named (.text role))
        (members.map fun m => .member (.text m))
    print ("[green]Granted[/green] " ++ role ++ " to " ++ toString members.length
      ++ " member(s) on " ++ resource)
    printPolicy resource p
  | removeBinding resource role members => do
    let p ← ask fun w =>
      Admin.removeBinding w (.text resource) none (.named (.text role))
        (members.map fun m => .member (.text m))
    print ("[green]Revoked[/green] " ++ role ++ " from " ++ toString members.length
      ++ " member(s) on " ++ resource)
    printPolicy resource p
  | exportPolicy resource path => do
    checkPath path
    let p ← ask fun w => Admin.getPolicy w (.text resource) none .null
    let saved ← save p path
    print ("[green]Saved policy to:[/green] " ++ saved)
  | applyPolicy resource path => do
    checkPath path
    let p ← settled (Policy.load (← get).files (Path.parse path).text)
    let updated ← ask fun w => Admin.setPolicy w (.text resource) none p
    printPolicy resource updated
  | testPermissions resource permissions => do
    let granted ← ask fun w =>
      Admin.testPermissions w (.text resource) none (.list (permissions.map .text))
    if granted.all Value.hashable then printPermissions granted permissions
    else throw (.failed .wrongKind)

/-- The end of a command. -/
structure Outcome (σ : Type) where
  /-- Where it stands at its end. -/
  progress : Progress σ
  /-- The exit code. -/
  code : Nat
  /-- The failure that it let through. -/
  failure : Option Failure

/-- Runs a command. -/
def Command.run [Service σ] (c : Command) (world : World σ) (files : FileTree) : Outcome σ :=
  match c.work { world, files } with
  | .ok () s => ⟨s, 0, none⟩
  | .error (.exit code) s => ⟨s, code, none⟩
  | .error (.failed e) s => ⟨s, 1, some e⟩

end AccessPolicy.CommandLine
