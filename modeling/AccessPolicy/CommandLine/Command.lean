/-!
# The commands

A `Command` is what the user asks for; `Invocation.parse` reads it from the arguments of the command
line. Options of the whole program stand before the name of the command; the only option of a
command is the one that asks for help, anywhere among its arguments. Two hyphens end the options.

If the arguments hold an unknown option they are misused, whatever else they hold; else, if they ask
for help, help is given, even if arguments are missing.
-/

namespace AccessPolicy.CommandLine

/-- What the user asks for. -/
inductive Command where
  /-- The version of the program. -/
  | version
  /-- To show the policy of a resource. -/
  | showPolicy (resource : String)
  /-- To grant a role on a resource to members. -/
  | addBinding (resource role : String) (members : List String)
  /-- To revoke a role on a resource from members. -/
  | removeBinding (resource role : String) (members : List String)
  /-- To write the policy of a resource to a file. -/
  | exportPolicy (resource path : String)
  /-- To replace the policy of a resource by the one in a file. -/
  | applyPolicy (resource path : String)
  /-- To show which of some permissions the caller holds on a resource. -/
  | testPermissions (resource : String) (permissions : List String)
deriving DecidableEq, Repr

/-- The path of the file that a command works on, if it does. -/
def Command.path? : Command → Option String
  | exportPolicy _ path | applyPolicy _ path => some path
  | _ => none

/-- Why there is no command. -/
inductive Usage where
  /-- The user asks for help. -/
  | help
  /-- The arguments are of no use. -/
  | misuse
deriving DecidableEq, Repr

/-- A command with the options of the whole program. -/
structure Invocation where
  /-- Whether details of the work are to be logged. -/
  verbose : Bool
  /-- The command. -/
  command : Command
deriving DecidableEq, Repr

/-! ### Options -/

/-- Whether an argument is an option: a hyphen and more. -/
def isOption (argument : String) : Bool :=
  match argument.toList with
  | '-' :: _ :: _ => true
  | _ => false

/-- Whether an argument is one or more short options, all of them for details. -/
def isVerbose (argument : String) : Bool :=
  argument == "--verbose" || match argument.toList with
    | '-' :: letters => !letters.isEmpty && letters.all (· == 'v')
    | _ => false

/-- What the options before a command say. -/
structure Preamble where
  /-- Whether details are to be logged. -/
  verbose : Bool := false
  /-- Whether help is asked for. -/
  help : Bool := false
  /-- What follows the options. -/
  rest : List String := []

/-- Reads the options before a command. -/
def readPreamble (p : Preamble) : List String → Option Preamble
  | [] => some p
  | a :: rest =>
    if !isOption a then some { p with rest := a :: rest }
    else if a == "--" then some { p with rest := rest }
    else if a == "--help" then readPreamble { p with help := true } rest
    else if isVerbose a then readPreamble { p with verbose := true } rest
    else none

/-- The arguments of a command, and whether help is asked for. -/
structure Operands where
  /-- The arguments that are no options. -/
  texts : List String := []
  /-- Whether help is asked for. -/
  help : Bool := false

/-- Reads the arguments of a command. -/
def readOperands : List String → Option Operands
  | [] => some {}
  | a :: rest =>
    if a == "--" then some { texts := rest }
    else if a == "--help" then (readOperands rest).map fun o => { o with help := true }
    else if isOption a then none
    else (readOperands rest).map fun o => { o with texts := a :: o.texts }

/-! ### Commands -/

/-- The shape of the arguments of each command by its name. -/
inductive Shape where
  /-- For the version. -/
  | version
  /-- For a command on a resource. -/
  | resource (command : String → Command)
  /-- For a command on a resource and a file. -/
  | resourceAndPath (command : String → String → Command)
  /-- For a command on a resource, a role and members, at least one. -/
  | binding (command : String → String → List String → Command)
  /-- For a command on a resource and permissions, at least one. -/
  | permissions (command : String → List String → Command)

/-- The command of a shape with the given arguments. -/
def Shape.fill : Shape → List String → Option Command
  | version, [] => some .version
  | resource command, [r] => some (command r)
  | resourceAndPath command, [r, p] => some (command r p)
  | binding command, r :: role :: m :: members => some (command r role (m :: members))
  | permissions command, r :: p :: ps => some (command r (p :: ps))
  | _, _ => none

/-- The shape of the command of a name. -/
def Shape.ofName? : String → Option Shape
  | "version" => some .version
  | "show" => some (.resource .showPolicy)
  | "add-binding" => some (.binding .addBinding)
  | "remove-binding" => some (.binding .removeBinding)
  | "export" => some (.resourceAndPath .exportPolicy)
  | "apply" => some (.resourceAndPath .applyPolicy)
  | "test-permissions" => some (.permissions .testPermissions)
  | _ => none

/-- Reads the arguments of the command of a shape. -/
def Shape.parse (s : Shape) (arguments : List String) : Except Usage Command :=
  match readOperands arguments with
  | none => .error .misuse
  | some o =>
    if o.help then .error .help
    else match s.fill o.texts with
      | some c => .ok c
      | none => .error .misuse

/-- What is asked for by a name of no command: help, if it is an option for that after all. -/
def usageOf (arguments : List String) : Usage :=
  match readPreamble {} arguments with
  | some p => if p.help then .help else .misuse
  | none => .misuse

/-- Reads the arguments of the program. -/
def Invocation.parse (arguments : List String) : Except Usage Invocation :=
  match readPreamble {} arguments with
  | none => .error .misuse
  | some p =>
    if p.help then .error .help
    else match p.rest with
      | [] => .error .misuse
      | name :: rest => match Shape.ofName? name with
        | none => .error (usageOf p.rest)
        | some s => (s.parse rest).map fun c => ⟨p.verbose, c⟩

end AccessPolicy.CommandLine
