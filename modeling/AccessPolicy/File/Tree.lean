import AccessPolicy.Failure
import AccessPolicy.File.Path
import AccessPolicy.Text.Half

/-!
# File trees

A `FileTree` holds files and directories as they are seen from the directory that one is in. A place
in it is a list of names; the empty one is the directory itself, which is always there.

* `FileTree.walk` follows a path to a place, through directories only;
* `FileTree.read` gives the bytes of a file, `FileTree.write` replaces or makes a file;
* `FileTree.makeDirectories` makes a directory with those above it, unless it is there.

Two points lead to the place above. What stands above the directory that one is in, and beside it,
is not known beyond what is made there.
-/

namespace AccessPolicy

/-- What stands at a place. -/
inductive FileEntry where
  /-- A directory. -/
  | directory
  /-- A file. -/
  | file (bytes : List UInt8)
deriving Repr

/-- A place in a file tree. -/
abbrev Place := List String

/-- Files and directories. -/
structure FileTree where
  /-- What stands where, in the order in which it was made. -/
  entries : List (Place × FileEntry) := []
deriving Inhabited

namespace FileTree

/-- The most bytes that a name may have. -/
def longestName : Nat := 255

/-- The most bytes that a path may have. -/
def longestPath : Nat := 4095

/-- The name that leads to the place above. -/
def up : String := ".."

/-- The place above all. -/
def top : Place := ["/"]

/-- Whether a place is always there: the directory that one is in, those above it, and the top. -/
def isGiven (place : Place) : Bool := place == top || place.all (· == up)

/-- What stands at a place. -/
def find? (t : FileTree) (place : Place) : Option FileEntry :=
  if isGiven place then some .directory else t.entries.lookup place

/-- Puts something at a place. -/
def put (t : FileTree) (place : Place) (e : FileEntry) : FileTree :=
  ⟨go t.entries⟩
where
  /-- The entries with the new one in its place, or at the end. -/
  go : List (Place × FileEntry) → List (Place × FileEntry)
    | [] => [(place, e)]
    | x :: rest => if x.1 = place then (place, e) :: rest else x :: go rest

/-- After something is put at a place, it stands there. -/
theorem find?_put_self (t : FileTree) {place : Place} (named : isGiven place = false)
    (e : FileEntry) : (t.put place e).find? place = some e := by
  have entries : (put.go place e t.entries).lookup place = some e := by
    induction t.entries with
    | nil => simp [put.go]
    | cons x rest ih =>
      rw [put.go]
      split
      · simp
      · next other =>
        have differs : (place == x.1) = false := by simpa using fun h => other h.symm
        rw [List.lookup_cons, differs]
        exact ih
  simp [find?, put, named, entries]

/-- What stands elsewhere stays. -/
theorem find?_put_of_ne (t : FileTree) {place other : Place} (h : other ≠ place) (e : FileEntry) :
    (t.put place e).find? other = t.find? other := by
  have entries : (put.go place e t.entries).lookup other = t.entries.lookup other := by
    induction t.entries with
    | nil =>
      have differs : (other == place) = false := by simpa using h
      simp [put.go, List.lookup_cons, differs]
    | cons x rest ih =>
      obtain ⟨here, found⟩ := x
      rw [put.go]
      split
      · next same =>
        change here = place at same
        have differs : (other == place) = false := by simpa using h
        simp [List.lookup_cons, same, differs]
      · simp only [List.lookup_cons, ih]
  rw [find?, find?, put, entries]

/-- Whether there is a directory at a place. -/
def hasDirectory (t : FileTree) (place : Place) : Bool :=
  match t.find? place with
  | some .directory => true
  | _ => false

/-- The place above a place. -/
def above (place : Place) : Place :=
  if place == top then top else if place.all (· == up) then place ++ [up] else place.dropLast

/-- Follows names from a place on. All but the last place must be directories. -/
def follow (t : FileTree) : Place → List String → Except FileFault Place
  | here, [] => .ok here
  | here, name :: rest =>
    match t.find? here with
    | none => .error .missing
    | some (.file _) => .error .notDirectory
    | some .directory =>
      if longestName < name.utf8ByteSize then .error .nameTooLong
      else if name == "" || name == "." then t.follow here rest
      else if name == up then t.follow (above here) rest
      else t.follow (here ++ [name]) rest

/-- The place that a path leads to. -/
def walk (t : FileTree) (path : String) : Except FileFault Place :=
  if path.isEmpty then .error .missing
  else if longestPath < path.utf8ByteSize then .error .nameTooLong
  else if path.startsWith "/" then t.follow top (Path.split path)
  else t.follow [] (Path.split path)

/-- Whether a character stands for a half that is one byte of a name that is no text. -/
def isNameByte (c : Char) : Bool := Text.isHalf c && 0xDC80 ≤ Text.point c && Text.point c ≤ 0xDCFF

/-- What is wrong with a path that holds a character that no path can hold. -/
def badPath? (path : String) : Option Failure :=
  if path.toList.any fun c => Text.isHalf c && !isNameByte c then some .halfCharacter
  else if path.toList.contains '\x00' then some .badPath
  else none

/-- The failure of an operation on a path. -/
def failAt {α : Type} (path : String) (r : Except FileFault α) : Except Failure α :=
  r.mapError fun e => .file e path

@[simp] theorem failAt_ok {α : Type} (path : String) (a : α) : failAt path (.ok a) = .ok a := rfl

@[simp] theorem failAt_error {α : Type} (path : String) (e : FileFault) :
    failAt (α := α) path (.error e) = .error (.file e path) := rfl

/-- The bytes of a file. -/
def read (t : FileTree) (path : String) : Except Failure (List UInt8) :=
  match badPath? path with
  | some e => .error e
  | none => failAt path do
    match t.find? (← t.walk path) with
    | none => .error .missing
    | some .directory => .error .isDirectory
    | some (.file bytes) => .ok bytes

/-- Replaces or makes a file. -/
def write (t : FileTree) (path : String) (bytes : List UInt8) : Except Failure FileTree :=
  match badPath? path with
  | some e => .error e
  | none => failAt path do
    let place ← t.walk path
    if t.hasDirectory place then .error .isDirectory else .ok (t.put place (.file bytes))

/-- Makes a directory. -/
def makeDirectory (t : FileTree) (path : String) : Except FileFault FileTree := do
  let place ← t.walk path
  match t.find? place with
  | some _ => .error .exists
  | none => .ok (t.put place .directory)

/-- Whether a path leads to a directory. -/
def isDirectory (t : FileTree) (path : String) : Bool :=
  match t.walk path with
  | .ok place => t.hasDirectory place
  | .error _ => false

/-- Makes a directory unless it is there, without those above it. -/
def ensureDirectory (t : FileTree) (path : String) : Except FileFault FileTree :=
  match t.makeDirectory path with
  | .ok t' => .ok t'
  | .error e => if t.isDirectory path then .ok t else .error e

/-- Makes a directory and, `n` levels up at most, the ones above it, unless they are there. -/
def makeUp : Nat → FileTree → Path → FileTree × Except Failure Unit
  | 0, t, p => (t, .error (.file .missing p.text))
  | n + 1, t, p =>
    let settle (t : FileTree) : FileTree × Except Failure Unit :=
      match t.ensureDirectory p.text with
      | .ok t' => (t', .ok ())
      | .error e => (t, .error (.file e p.text))
    match t.makeDirectory p.text with
    | .error .missing =>
      if p.parent == p then settle t
      else match makeUp n t p.parent with
        | (t, .error e) => (t, .error e)
        | (t, .ok ()) => settle t
    | _ => settle t

/-- Makes a directory and those above it, unless they are there. -/
def makeDirectories (t : FileTree) (p : Path) : FileTree × Except Failure Unit :=
  match badPath? p.text with
  | some e => (t, .error e)
  | none => makeUp (p.parts.length + 1) t p

/-- The text of a place. -/
def placeText (place : Place) : String := "/".intercalate place

/-- Whether a place is the directory that one is in or below it. -/
def isInside (place : Place) : Bool :=
  match place.head? with
  | none => true
  | some name => name != up && !top.contains name

/-- The files below the directory that one is in, with their paths. -/
def files (t : FileTree) : List (String × List UInt8) :=
  t.entries.filterMap fun e => match e.2 with
    | .file bytes => if isInside e.1 then some (placeText e.1, bytes) else none
    | .directory => none

end FileTree

end AccessPolicy
