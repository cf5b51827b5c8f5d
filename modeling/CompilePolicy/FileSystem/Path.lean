import CompilePolicy.Text.Split

/-!
# Paths

A path is a list of names, relative or from a root. Reading a path drops empty
names and single dots and keeps double dots, since what they lead to depends on
the files. The empty path is the current directory.
-/

namespace CompilePolicy.FileSystem

open CompilePolicy.Text

/-- A path. The root is empty for a relative path and else one or two
slashes. -/
structure Path where
  root : String
  parts : List String
deriving DecidableEq, Repr

/-- The slashes in front of a path that count: two slashes stand for a root of
their own, and three or more for one. -/
def rootOf (chars : List Char) : String :=
  match (chars.takeWhile (· = '/')).length with
  | 0 => ""
  | 2 => "//"
  | _ => "/"

/-- Reads a path. -/
def Path.ofText (text : String) : Path where
  root := rootOf text.toList
  parts := (splitText '/' text).filter fun part => part ≠ "" ∧ part ≠ "."

/-- A path in its normal form. -/
def Path.text (path : Path) : String :=
  if path.root = "" ∧ path.parts = [] then "."
  else path.root ++ "/".intercalate path.parts

/-- The last name, or the empty text. -/
def Path.name (path : Path) : String :=
  path.parts.getLast?.getD ""

/-- The directory that a path lies in. -/
def Path.parent (path : Path) : Path :=
  { path with parts := path.parts.dropLast }

/-- The path one name further. -/
def Path.child (path : Path) (name : String) : Path :=
  { path with parts := path.parts ++ [name] }

/-- The name cut at its last dot, if the dot is neither its first nor its last
character. -/
def splitName (name : String) : String × String :=
  match cutAtLast? '.' name.toList with
  | some (stem, ending) =>
    if stem ≠ [] ∧ ending ≠ [] then (String.ofList stem, String.ofList ('.' :: ending))
    else (name, "")
  | none => (name, "")

/-- The last name without its ending. -/
def Path.stem (path : Path) : String :=
  (splitName path.name).1

/-- The ending of the last name, with its dot. -/
def Path.suffix (path : Path) : String :=
  (splitName path.name).2

example : (Path.ofText "./a//b").text = "a/b" := by decide
example : (Path.ofText "a/../b").text = "a/../b" := by decide
example : (Path.ofText "").text = "." := by decide
example : (Path.ofText "dir.d/run").suffix = "" := by decide
example : (Path.ofText "a.b.c").stem = "a.b" := by decide
example : (Path.ofText ".log").suffix = "" := by decide

end CompilePolicy.FileSystem
