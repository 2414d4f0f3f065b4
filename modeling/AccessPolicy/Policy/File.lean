import AccessPolicy.File.Tree
import AccessPolicy.Policy.Document
import AccessPolicy.Yaml.Document
import AccessPolicy.Yaml.Render

/-!
# Policy files

A policy file holds the document of a policy as YAML. `Policy.load` reads one, `Policy.save` writes
one. Saving makes the directories above the file; a file that was there is emptied first, so that it
is empty if the policy turns out to have no document.
-/

namespace AccessPolicy

namespace Policy

/-- The policy that a policy file holds, given the value of its document. -/
def ofYaml (path : String) : Except Yaml.Fault Value → Except Failure Policy
  | .error .malformed => .error (.rejected (.fileNotYaml path))
  | .error (.value e) => .error e
  | .ok document => match document.opened with
    | .map entries => Policy.decode (.map entries)
    | _ => .error (.rejected (.fileNotMap path))

/-- The policy in the text of a policy file. -/
def ofText (path : String) (cs : List Char) : Except Failure Policy :=
  ofYaml path (Yaml.valueOf (Text.unifyBreaks cs))

/-- What the bytes of a policy file come to that are no text: the fault met first. -/
def ofBroken (path : String) (bytes : List UInt8) (bad : BadBytes) : Except Failure Policy :=
  match Portions.broken? bytes with
  | some (cs, bad) => ofYaml path (Yaml.valueBefore cs (.value (.encoding bad)))
  | none => .error (.encoding bad)

/-- Reads a policy file. -/
def load (t : FileTree) (path : String) : Except Failure Policy :=
  match t.read path with
  | .error e => .error e
  | .ok bytes => match Text.decodeUtf8 bytes with
    | .error bad => ofBroken path bytes bad
    | .ok cs => ofText path cs

/-- The text of the policy file of a policy. -/
def toText (p : Policy) : Except Failure String :=
  match p.encode with
  | .ok (.map entries) =>
    if Value.entriesWritable entries then .ok (Yaml.render entries)
    else .error (.badInteger .tooLong)
  | .ok _ => .error .noSuchPart
  | .error e => .error e

/-- Writes a policy file, and gives the normal form of its path. -/
def save (t : FileTree) (p : Policy) (path : String) : FileTree × Except Failure String :=
  let path := Path.parse path
  match t.makeDirectories path.parent with
  | (t, .error e) => (t, .error e)
  | (t, .ok ()) => match t.write path.text [] with
    | .error e => (t, .error e)
    | .ok t => match p.toText with
      | .error e => (t, .error e)
      | .ok text => match t.write path.text text.toUTF8.toList with
        | .error e => (t, .error e)
        | .ok t => (t, .ok path.text)

end Policy

end AccessPolicy
