/-
# Paths

A path is a list of names, from the root of the file system or from the current folder.  Empty names
and single points are left out when a path is read; a double point stays, and means the folder above
when the path is followed.
-/
import Conformance.Text.Blank

namespace Conformance

/-- A path. -/
structure Path where
  /-- Whether it starts at the root of the file system. -/
  absolute : Bool
  /-- The names on the way. -/
  names : List String
  deriving DecidableEq, Repr, Inhabited

namespace Path

/-- Whether a name takes part in a path. -/
def isName (n : String) : Bool :=
  n != "" && n != "."

/-- Reads a path. -/
def ofText (s : String) : Path where
  absolute := Text.startsWith s "/"
  names := (Text.pieces '/' s).filter isName

/-- A path as it is written. -/
def text (p : Path) : String :=
  if p.absolute then "/" ++ "/".intercalate p.names
  else if p.names.isEmpty then "."
  else "/".intercalate p.names

/-- A path followed from another one. -/
def join (p q : Path) : Path :=
  if q.absolute then q else { p with names := p.names ++ q.names }

/-- A path followed from another one, as it is written. -/
def child (p : Path) (s : String) : Path :=
  p.join (ofText s)

/-- The names of a path below another one, if it starts with that one. -/
def below? (p root : Path) : Option (List String) :=
  if p.absolute == root.absolute && root.names.isPrefixOf p.names then
    some (p.names.drop root.names.length)
  else none

/-- Names without double points: each takes away the name before it. -/
def flatten (names : List String) : List String :=
  (names.foldl (fun acc n => if n == ".." then acc.drop 1 else n :: acc) []).reverse

/-- A path from the root of the file system, without double points. -/
def resolve (current p : Path) : Path where
  absolute := true
  names := flatten (current.join p).names

/-- Names on the way to a file, as a report shows them. -/
def shown (names : List String) : String :=
  (Path.mk false names).text

end Path

/-- The end of a file name from its last point on.  A name that starts or ends with its only point
has none. -/
def suffixOf (name : String) : String :=
  match Text.splitLast '.' name with
  | none => ""
  | some (before, after) =>
    if before.isEmpty || after.isEmpty then "" else "." ++ after

end Conformance
