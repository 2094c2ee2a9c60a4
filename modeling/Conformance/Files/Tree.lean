/-
# Trees of files

A file system is a tree of folders, with files at its leaves.  Paths are followed from the root,
name by name; a double point goes back to the folder above.
-/
import Conformance.Fault
import Conformance.Files.Path

namespace Conformance

/-- A file or a folder. -/
inductive Node where
  /-- A file, with its bytes. -/
  | file (bytes : List UInt8)
  /-- A folder, with what is in it by name. -/
  | folder (entries : List (String × Node))
  deriving Inhabited

/-- The greatest number of bytes in a name. -/
def longestName : Nat := 255

/-- The greatest number of bytes in a path. -/
def longestPath : Nat := 4095

/-- Refuses a name that is too long. -/
def checkName (name : String) : Except FileProblem Unit :=
  if longestName < name.utf8ByteSize then .error .nameTooLong else .ok ()

namespace Node

/-- Whether a node is a folder. -/
def isFolder : Node → Bool
  | .folder _ => true
  | .file _ => false

/-- What is in a folder; a file holds nothing. -/
def entries : Node → List (String × Node)
  | .folder es => es
  | .file _ => []

/-- The size that is told of a folder. -/
def folderSize : Nat := 4096

/-- The size of a node in bytes. -/
def size : Node → Nat
  | .file bytes => bytes.length
  | .folder _ => folderSize

/-! ## Following paths -/

/-- Follows names from a node; `above` are the folders on the way back to the root. -/
def follow : (above : List Node) → Node → List String → Except FileProblem Node
  | _, here, [] => .ok here
  | _, .file _, _ :: _ => .error .notFolder
  | above, .folder es, n :: names =>
    if n == ".." then
      match above with
      | [] => follow [] (.folder es) names
      | up :: above => follow above up names
    else do
      checkName n
      match es.lookup n with
      | none => .error .missing
      | some child => follow (.folder es :: above) child names

/-- The node at a path from the root. -/
def find (root : Node) (names : List String) : Except FileProblem Node :=
  follow [] root names

/-! ## Changing the tree -/

/-- Gives a name in a folder another node: in place if the name is there, at the end otherwise. -/
def replaceEntry (name : String) (child : Node) : List (String × Node) → List (String × Node)
  | [] => [(name, child)]
  | e :: es => if e.1 == name then (name, child) :: es else e :: replaceEntry name child es

/-- Writes a file at a path, if the folder is there. -/
def write (bytes : List UInt8) : List String → Node → Except FileProblem Node
  | [], _ => .error .isFolder
  | _ :: _, .file _ => .error .notFolder
  | [name], .folder es => do
    checkName name
    match es.lookup name with
    | some (.folder _) => .error .isFolder
    | _ => .ok (.folder (replaceEntry name (.file bytes) es))
  | name :: names, .folder es => do
    checkName name
    match es.lookup name with
    | none => .error .missing
    | some child =>
      (write bytes names child).map fun child => .folder (replaceEntry name child es)

/-- Makes the folders on a path that are missing. -/
def makeFolders : List String → Node → Except FileProblem Node
  | [], .folder es => .ok (.folder es)
  | [], .file _ => .error .occupied
  | _ :: _, .file _ => .error .notFolder
  | name :: names, .folder es => do
    checkName name
    (makeFolders names ((es.lookup name).getD (.folder []))).map fun child =>
      .folder (replaceEntry name child es)

/-- Places a node at a path.  Folders that are missing are made; what was there is replaced. -/
def attach (node : Node) : List String → Node → Node
  | [], _ => node
  | name :: names, here =>
    let child := (here.entries.lookup name).getD (.folder [])
    .folder (replaceEntry name (attach node names child) here.entries)

/-- Removes what is at a path. -/
def remove : List String → Node → Except FileProblem Node
  | [], _ => .error .isFolder
  | _ :: _, .file _ => .error .notFolder
  | [name], .folder es => do
    checkName name
    match es.lookup name with
    | none => .error .missing
    | some _ => .ok (.folder (es.filter (·.1 != name)))
  | name :: names, .folder es => do
    checkName name
    match es.lookup name with
    | none => .error .missing
    | some child => (remove names child).map fun child => .folder (replaceEntry name child es)

end Node

/-- What is asked of the file system about a path. -/
inductive FileAction where
  /-- To tell what is there. -/
  | look
  /-- To tell what is in a folder. -/
  | list
  /-- To give the bytes of a file. -/
  | open
  deriving DecidableEq, Repr, Inhabited

/-- A file system as a program finds it: its tree, the folder that relative paths start from, and
what is refused for other reasons than those that the tree gives, such as missing rights or faults
of a device.  The names are those that lead from the root. -/
structure FileSystem where
  /-- The root folder. -/
  root : Node
  /-- The current folder. -/
  current : Path
  /-- What is refused. -/
  refuses : FileAction → (names : List String) → Option FileProblem := fun _ _ => none
  deriving Inhabited

namespace FileSystem

/-- The names of a path from the root. -/
def namesOf (fs : FileSystem) (p : Path) : List String :=
  (fs.current.join p).names

/-- Refuses a path that cannot be followed as it is written: one with the character that ends paths,
or one that is too long. -/
def checkPath (p : Path) : Except FileProblem Unit :=
  if p.names.any (·.toList.contains '\x00') then .error .nullName
  else if longestPath < p.text.utf8ByteSize then .error .nameTooLong
  else .ok ()

/-- The node at a path, if an action on it is not refused. -/
def reach (fs : FileSystem) (action : FileAction) (p : Path) : Except FileProblem Node := do
  checkPath p
  match fs.refuses action (fs.namesOf p) with
  | some problem => throw problem
  | none => fs.root.find (fs.namesOf p)

/-- The node at a path. -/
def find (fs : FileSystem) (p : Path) : Except FileProblem Node :=
  fs.reach .look p

/-- Whether the folder at a path can be listed. -/
def lists (fs : FileSystem) (p : Path) : Bool :=
  (fs.reach .list p).toOption.any (·.isFolder)

/-- Whether a path leads anywhere. -/
def has (fs : FileSystem) (p : Path) : Bool :=
  (fs.find p).toOption.isSome

/-- Whether a path leads to a folder. -/
def hasFolder (fs : FileSystem) (p : Path) : Bool :=
  (fs.find p).toOption.any (·.isFolder)

/-- Whether a path leads to a file. -/
def hasFile (fs : FileSystem) (p : Path) : Bool :=
  (fs.find p).toOption.any (!·.isFolder)

/-- What is at a path, if something is.  A path that leads nowhere or cannot be followed is no
fault; any other refusal is. -/
def find? (fs : FileSystem) (p : Path) : Except Fault (Option Node) :=
  match fs.find p with
  | .ok n => .ok (some n)
  | .error problem => if problem.isAbsence then .ok none else .error (.system problem p.text)

/-- The bytes of the file at a path. -/
def read (fs : FileSystem) (p : Path) : Except FileProblem (List UInt8) := do
  match ← fs.reach .open p with
  | .file bytes => return bytes
  | .folder _ => throw .isFolder

/-- Writes a file into a folder that is there. -/
def write (fs : FileSystem) (p : Path) (bytes : List UInt8) : Except FileProblem FileSystem := do
  checkPath p
  let names := fs.namesOf p
  discard (fs.root.find names.dropLast)
  let root ← fs.root.write bytes (Path.flatten names)
  return { fs with root := root }

/-- Makes the folder at the end of each beginning of a path, from the root on, where it is
missing. -/
def makeFoldersAlong (root : Node) (names : List String) : Except FileProblem Node :=
  (List.range names.length).foldlM (fun root n =>
    match root.makeFolders (Path.flatten (names.take (n + 1))) with
    | .error .occupied => .error (if n + 1 < names.length then .notFolder else .occupied)
    | made => made) root

/-- Makes the folders on a path that are missing. -/
def makeFolders (fs : FileSystem) (p : Path) : Except FileProblem FileSystem := do
  checkPath p
  (makeFoldersAlong fs.root (fs.namesOf p)).map fun root => { fs with root := root }

/-- Places a node at a path, unless something is there. -/
def attach (fs : FileSystem) (p : Path) (node : Node) : FileSystem :=
  if fs.has p then fs
  else { fs with root := Node.attach node (Path.flatten (fs.namesOf p)) fs.root }

/-- Removes what is at a path. -/
def remove (fs : FileSystem) (p : Path) : Except FileProblem FileSystem := do
  discard (fs.find p)
  (fs.root.remove (Path.flatten (fs.namesOf p))).map fun root => { fs with root := root }

end FileSystem
end Conformance
