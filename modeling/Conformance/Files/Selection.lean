/-
# Source files below a folder

The source files below a folder are the files whose suffix is one of those asked for, outside of
excluded folders.  Suffixes and excluded names are compared in lower case.  The folder itself is not
excluded by its name.
-/
import Conformance.Files.Tree
import Conformance.Text.LowerCase
import Conformance.Text.Order

namespace Conformance

mutual

/-- A tree as a walk through it finds it: a folder that cannot be listed shows nothing.  `way` are
the names that lead to the node. -/
def Node.listed (lists : List String → Bool) (way : List String) : Node → Node
  | .file bytes => .file bytes
  | .folder es => .folder (if lists way then Node.listedEntries lists way es else [])

/-- The entries of a folder as a walk finds them. -/
def Node.listedEntries (lists : List String → Bool) (way : List String) :
    List (String × Node) → List (String × Node)
  | [] => []
  | (name, child) :: es =>
    (name, Node.listed lists (way ++ [name]) child) :: Node.listedEntries lists way es

end

/-- Which files count as sources. -/
structure Selection where
  /-- The suffixes asked for, in lower case. -/
  suffixes : List String
  /-- The names of excluded folders, in lower case. -/
  excluded : List String
  deriving DecidableEq, Repr, Inhabited

namespace Selection

/-- The selection with the given suffixes and excluded names. -/
def ofNames (suffixes excluded : List String) : Selection :=
  ⟨suffixes.map Text.lower, excluded.map Text.lower⟩

/-- Whether a file counts as a source by its name. -/
def takes (s : Selection) (name : String) : Bool :=
  s.suffixes.contains (Text.lower (suffixOf name))

/-- Whether a folder is entered. -/
def enters (s : Selection) (name : String) : Bool :=
  !s.excluded.contains (Text.lower name)

mutual

/-- The names that lead from a node to the sources below it. -/
def below (s : Selection) : Node → List (List String)
  | .file _ => []
  | .folder es => belowEntries s es

/-- The names that lead from a folder to the sources in the given entries. -/
def belowEntries (s : Selection) : List (String × Node) → List (List String)
  | [] => []
  | (name, child) :: es =>
    (if child.isFolder then
        if s.enters name then (below s child).map (name :: ·) else []
      else if s.takes name then [[name]]
      else []) ++
      belowEntries s es

end

mutual

/-- How deeply the folders that are entered are nested from a node on. -/
def depth (s : Selection) : Node → Nat
  | .file _ => 0
  | .folder es => depthEntries s es + 1

/-- How deeply the folders that are entered are nested from the given entries on. -/
def depthEntries (s : Selection) : List (String × Node) → Nat
  | [] => 0
  | (name, child) :: es =>
    max (if child.isFolder && s.enters name then depth s child else 0) (depthEntries s es)

end

/-- The names that lead from a node to the sources below it, in the order of the paths as they are
written. -/
def sorted (s : Selection) (n : Node) : List (List String) :=
  (s.below n).mergeSort fun a b => Text.precedes (Path.shown a) (Path.shown b)

end Selection
end Conformance
