/-
# Markers

A marker is a path pattern: names, with wildcards for any characters, any one character or one of a
set, and a double star for any number of folders.  A folder has a marker if something in it, or
below it, fits.  The root of a solution is the nearest folder at or above a place that has the
marker.
-/
import Conformance.Fault
import Conformance.Files.Tree

namespace Conformance

/-! ## Names with wildcards -/

/-- An item of a set of characters: those from one to another. -/
structure CharSpan where
  /-- The first character. -/
  first : Char
  /-- The last character. -/
  last : Char
  deriving DecidableEq, Repr, Inhabited

/-- A part of a name with wildcards. -/
inductive NamePart where
  /-- A character as it is. -/
  | literal (c : Char)
  /-- Any one character. -/
  | anyOne
  /-- Any characters. -/
  | anyMany
  /-- A character in a set, or outside of it. -/
  | oneOf (negated : Bool) (spans : List CharSpan)
  deriving DecidableEq, Repr, Inhabited

namespace NamePart

/-- The items of a set.  A hyphen between two characters makes a span of them. -/
def spans : List Char → List CharSpan
  | a :: '-' :: b :: cs => ⟨a, b⟩ :: spans cs
  | a :: cs => ⟨a, a⟩ :: spans cs
  | [] => []

/-- The text of a set up to its closing bracket, which cannot come first, and the rest. -/
def takeSet? : List Char → Option (List Char × List Char)
  | [] => none
  | first :: cs =>
    match cs.span (· != ']') with
    | (_, []) => none
    | (body, _ :: rest) => some (first :: body, rest)

/-- A set after its opening bracket, and the rest.  An exclamation mark at its start negates it. -/
def takeOneOf? : List Char → Option (NamePart × List Char)
  | '!' :: cs => (takeSet? cs).map fun (body, rest) => (.oneOf true (spans body), rest)
  | cs => (takeSet? cs).map fun (body, rest) => (.oneOf false (spans body), rest)

/-- Reads a name with wildcards. -/
def readFrom : (fuel : Nat) → List Char → List NamePart
  | 0, _ => []
  | _ + 1, [] => []
  | fuel + 1, c :: cs =>
    if c == '*' then .anyMany :: readFrom fuel cs
    else if c == '?' then .anyOne :: readFrom fuel cs
    else if c == '[' then
      match takeOneOf? cs with
      | some (part, rest) => part :: readFrom fuel rest
      | none => .literal c :: readFrom fuel cs
    else .literal c :: readFrom fuel cs

/-- Whether a character is in a set. -/
def inSpans (spans : List CharSpan) (c : Char) : Bool :=
  spans.any fun s => s.first.toNat ≤ c.toNat && c.toNat ≤ s.last.toNat

/-- Whether a part fits one character. -/
def fits : NamePart → Char → Bool
  | .literal a, c => a == c
  | .anyOne, _ => true
  | .anyMany, _ => true
  | .oneOf negated spans, c => inSpans spans c != negated

/-- Whether some rest of a text fits. -/
def fitsSomeRest (test : List Char → Bool) : List Char → Bool
  | [] => test []
  | c :: cs => test (c :: cs) || fitsSomeRest test cs

/-- Whether the parts fit a whole name. -/
def fitAll : List NamePart → List Char → Bool
  | [], cs => cs.isEmpty
  | .anyMany :: ps, cs => fitsSomeRest (fitAll ps) cs
  | p :: ps, cs =>
    match cs with
    | [] => false
    | c :: cs => p.fits c && fitAll ps cs

end NamePart

/-! ## Markers -/

/-- A step of a marker. -/
inductive MarkerStep where
  /-- A name as it is. -/
  | named (name : String)
  /-- A name with wildcards. -/
  | like (parts : List NamePart)
  /-- Any number of folders. -/
  | anyDepth
  deriving DecidableEq, Repr, Inhabited

/-- A marker. -/
structure Marker where
  /-- The steps. -/
  steps : List MarkerStep
  /-- Whether only a folder fits the last one. -/
  folderOnly : Bool
  deriving DecidableEq, Repr, Inhabited

/-- Reads a step of a marker. -/
def MarkerStep.read (name : String) : Except Fault MarkerStep :=
  if name == "**" then .ok .anyDepth
  else if Text.contains name "**" then .error .partialDepth
  else if name.toList.any fun c => c == '*' || c == '?' || c == '[' then
    .ok (.like (NamePart.readFrom (name.length + 1) name.toList))
  else .ok (.named name)

mutual

/-- The folders at and below a node, each with the names that lead to it and the folders above
it. -/
def Node.folders (way : List String) (above : List Node) :
    Node → List (List String × List Node × Node)
  | .file _ => []
  | .folder es => (way, above, .folder es) :: Node.foldersIn way (.folder es :: above) es

/-- The folders at and below the given entries, each with the names that lead to it and the folders
above it. -/
def Node.foldersIn (way : List String) (above : List Node) :
    List (String × Node) → List (List String × List Node × Node)
  | [] => []
  | (name, child) :: es =>
    Node.folders (way ++ [name]) above child ++ Node.foldersIn way above es

end

namespace Marker

/-- Reads a marker. -/
def read (text : String) : Except Fault Marker := do
  if text.isEmpty then throw .emptyMarker
  let path := Path.ofText text
  if path.absolute then throw .absoluteMarker
  if path.names.isEmpty then
    throw (if Text.endsWith text "/" then .noAttribute "_TerminatingSelector" "select_from"
      else .noSegments)
  let steps ← path.names.mapM MarkerStep.read
  return ⟨steps, Text.endsWith text "/"⟩

/-- Whether something at or below a node fits the steps; `way` are the names that lead to the node
and `above` the folders above it.  A name that is too long ends the search with the names that
lead to it. -/
def fits (folderOnly : Bool) : List MarkerStep → (way : List String) → (above : List Node) →
    Node → Except (List String) Bool
  | [], _, _, _ => .ok true
  | step :: steps, way, above, here =>
    let allowed (n : Node) := n.isFolder || (steps.isEmpty && !folderOnly)
    match step with
    | .named name =>
      let next := way ++ [name]
      if name == ".." then
        match above with
        | [] => fits folderOnly steps next [] here
        | up :: above => fits folderOnly steps next above up
      else if longestName < name.utf8ByteSize then .error next
      else
        match here.entries.lookup name with
        | none => .ok false
        | some child =>
          if allowed child then fits folderOnly steps next (here :: above) child else .ok false
    | .like parts => here.entries.anyM fun (name, child) =>
      if allowed child && NamePart.fitAll parts name.toList then
        fits folderOnly steps (way ++ [name]) (here :: above) child
      else .ok false
    | .anyDepth => (here.folders way above).anyM fun (way, above, n) =>
      fits folderOnly steps way above n

/-- Whether a folder has a marker. -/
def isIn (m : Marker) (above : List Node) (n : Node) : Except (List String) Bool :=
  if n.isFolder then fits m.folderOnly m.steps [] above n else .ok false

end Marker

/-! ## The root of a solution -/

/-- The marker that is looked for. -/
def defaultMarker : String := "*.sln"

/-- The folders above the place that names lead to, from the nearest. -/
def Node.trail : (above : List Node) → Node → List String → List Node
  | above, _, [] => above
  | above, here, n :: names =>
    match here.entries.lookup n with
    | none => here :: above
    | some child => Node.trail (here :: above) child names

namespace FileSystem

/-- Whether the folder at the given names has a marker. -/
def hasMarker (fs : FileSystem) (m : Marker) (names : List String) : Except Fault Bool :=
  match fs.root.find names with
  | .ok n => (m.isIn (Node.trail [] fs.root names) n).mapError fun way =>
    .system .nameTooLong (Path.mk true (names ++ way)).text
  | .error _ => .ok false

/-- The nearest folder at or above the given names that has a marker. -/
def nearestWith? (fs : FileSystem) (m : Marker) (names : List String) :
    Except Fault (Option (List String)) :=
  ((List.range (names.length + 1)).reverse.map names.take).findM? (fs.hasMarker m)

/-- The nearest folder at or above a place that has the marker. -/
def solutionRoot (fs : FileSystem) (start : Path) (marker : String := defaultMarker) :
    Except Fault Path := do
  let place := Path.resolve fs.current start
  if (fs.find place matches .error .nullName) then throw (.system .nullName place.text)
  let names := match ← fs.find? place with
    | some (.file _) => place.names.dropLast
    | _ => place.names
  let m ← Marker.read marker
  match ← fs.nearestWith? m names with
  | some names => return ⟨true, names⟩
  | none => throw (.path start.text ("no parent directory contains " ++ marker))

end FileSystem
end Conformance
