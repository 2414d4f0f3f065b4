import AccessPolicy.CommandLine.Run

/-!
# The program

Reads the command line, the policies and the file that the command works on, runs the command, and
writes back what it changed. The service is a store whose documents are kept in a YAML file under
the names of their resources; the environment variable `ACCESS_POLICY_STORE` names the file.
-/

namespace AccessPolicy

/-- The help text. -/
def helpText : String :=
  "Usage: access-policy [-v] COMMAND ARGUMENT...\n\n"
    ++ "  version\n"
    ++ "  show RESOURCE\n"
    ++ "  add-binding RESOURCE ROLE MEMBER...\n"
    ++ "  remove-binding RESOURCE ROLE MEMBER...\n"
    ++ "  export RESOURCE PATH\n"
    ++ "  apply RESOURCE PATH\n"
    ++ "  test-permissions RESOURCE PERMISSION...\n"

/-- What stands at a path. -/
def entryAt (path : String) : IO (Option FileEntry) := do
  try
    if ← (← IO.FS.realPath path).isDir then return some .directory
    return some (.file (← IO.FS.readBinFile path).toList)
  catch _ => return none

/-- The files on the way to a path. -/
def filesTo (path : Path) : IO FileTree := do
  let mut files : FileTree := {}
  for n in List.range path.parts.length do
    let step := { path with parts := path.parts.take (n + 1) }.text
    if let .ok place := files.walk step then
      if let some e ← entryAt step then files := files.put place e
  return files

/-- The documents in the file of the store. -/
def readStore (file : Option String) : IO Store := do
  let some file := file | return {}
  let some (.file bytes) ← entryAt file | return {}
  match Text.decodeUtf8 bytes with
  | .ok cs => match Yaml.valueOf (Text.unifyBreaks cs) with
    | .ok (.map documents) => return .ofDocuments (documents.map fun e => (e.1.plain, e.2))
    | _ => throw (IO.userError "the file of the store holds no documents")
  | .error _ => throw (IO.userError "the file of the store is no text")

/-- Writes the documents to the file of the store. -/
def writeStore (file : Option String) (s : Store) : IO Unit := do
  let some file := file | return ()
  IO.FS.writeFile file (Yaml.render (s.documents.map fun e => (.text e.1, e.2)))

/-- Writes the file of a command if the command changed it. -/
def writeBack (path : Path) (before after : FileTree) : IO Unit := do
  let some bytes := (after.read path.text).toOption | return ()
  if (before.read path.text).toOption == some bytes then return ()
  IO.FS.createDirAll path.parent.text
  IO.FS.writeBinFile path.text ⟨bytes.toArray⟩

/-- The log lines of a run that are shown. -/
def shownLines (verbose : Bool) (w : World Store) : List String :=
  let logging := { own := "access-policy" : Logging }.configure verbose
  w.trace.filterMap fun
    | .log level text =>
      if logging.shows "access-policy" level then some (level.name ++ " " ++ text) else none
    | _ => none

/-- Runs the command that the arguments ask for, and gives the exit code. -/
def runArguments (arguments : List String) : IO UInt32 := do
  match CommandLine.Invocation.parse arguments with
  | .error .help =>
    IO.print helpText
    return 0
  | .error .misuse =>
    IO.eprint helpText
    return 2
  | .ok i =>
    let storeFile ← IO.getEnv "ACCESS_POLICY_STORE"
    let store ← readStore storeFile
    let path := i.command.path?.map Path.parse
    let files ← match path with
      | some p => filesTo p
      | none => pure {}
    let o := i.command.run { service := store, ambient := some "default" } files
    for line in shownLines i.verbose o.progress.world do IO.eprintln line
    IO.print o.progress.output
    if let some e := o.failure then IO.eprintln ("failed: " ++ e.message)
    if let some p := path then writeBack p files o.progress.files
    writeStore storeFile o.progress.world.service
    return o.code.toUInt32

end AccessPolicy

/-- The program. -/
def main (arguments : List String) : IO UInt32 := AccessPolicy.runArguments arguments
