import AccessPolicy.Text.Line

/-!
# Paths

A path is a text whose parts stand between slashes. `Path.parse` brings it to its normal form, in
which empty parts and single points are gone; two points stay, since where they lead depends on what
stands there.
-/

namespace AccessPolicy

/-- A path in normal form. -/
structure Path where
  /-- The slashes at the start: none, one or two. -/
  root : String
  /-- The parts, none of them empty or a single point. -/
  parts : List String
deriving DecidableEq, Repr, Inhabited

namespace Path

/-- The parts of a text between slashes. -/
def split (text : String) : List String :=
  (Text.splitOn (· == '/') text.toList).map String.ofList

/-- The slashes that a path starts with. Exactly two are kept; more are one. -/
def rootOf (text : String) : String :=
  match (text.toList.takeWhile (· == '/')).length with
  | 0 => ""
  | 2 => "//"
  | _ => "/"

/-- The normal form of a path. -/
def parse (text : String) : Path :=
  ⟨rootOf text, (split text).filter fun p => p != "" && p != "."⟩

/-- The text of a path. A path without parts is the directory that one is in. -/
def text (p : Path) : String :=
  if p.root.isEmpty && p.parts.isEmpty then "." else p.root ++ "/".intercalate p.parts

/-- The path without its last part. -/
def parent (p : Path) : Path := { p with parts := p.parts.dropLast }

end Path

end AccessPolicy
