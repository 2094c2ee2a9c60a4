/-
# Declarations of a file

Each line of a file is read for the headers of types, methods and properties; the scopes tell
which containers enclose a header.  The members of a declaration are attached afterwards: those in
the body of an enumeration, the positional parameters of a record and the properties that a type
owns.  Declarations come sorted by line, column and name.
-/
import Conformance.Source.Scope
import Conformance.Source.Tail
import Conformance.Text.Lines

namespace Conformance.Source

/-- A source file: its path below the root, and its lines. -/
structure SourceFile where
  /-- The path below the root, with slashes. -/
  path : String
  /-- The lines. -/
  lines : List String
  deriving DecidableEq, Repr, Inhabited

/-- The lines of a file as one text. -/
def SourceFile.text (f : SourceFile) : String :=
  Text.unlines f.lines

/-- A named construct found in a source text. -/
structure Declaration where
  /-- What is declared. -/
  kind : DeclarationKind
  /-- The declared name. -/
  name : String
  /-- The path of the file. -/
  path : String
  /-- The number of the line; an outside caller may give any integer. -/
  line : Int
  /-- The namespace of the file. -/
  namespaceName : String := unknownNamespace
  /-- The innermost container that encloses the declaration. -/
  container : Option Frame := none
  /-- The column of the name. -/
  column : Int := 0
  /-- Visibility and modifiers. -/
  modifiers : List String := []
  /-- The base types. -/
  bases : List String := []
  /-- The members. -/
  members : List String := []
  /-- Whether the declaration is visible in its file only. -/
  fileScoped : Bool := false
  /-- Every container that encloses the declaration, outermost first. -/
  ancestors : List Frame := []
  deriving DecidableEq, Repr, Inhabited

namespace Declaration

/-- The name with its namespace, if the file has one. -/
def qualifiedName (d : Declaration) : String :=
  if d.namespaceName == unknownNamespace then d.name else d.namespaceName ++ "." ++ d.name

/-- Order by path, line, column and name, as a test. -/
def precedes (a b : Declaration) : Bool :=
  if a.path != b.path then decide (a.path < b.path)
  else if a.line != b.line then decide (a.line < b.line)
  else if a.column != b.column then decide (a.column < b.column)
  else !decide (b.name < a.name)

/-- Declarations in the order of their places. -/
def sort (ds : List Declaration) : List Declaration :=
  ds.mergeSort precedes

end Declaration

/-- What is known about one file. -/
structure FileDeclarations where
  /-- The file. -/
  file : SourceFile
  /-- Its namespace. -/
  namespaceName : String
  /-- Its declarations, sorted. -/
  declarations : List Declaration
  deriving Repr, Inhabited

/-- The path of the file. -/
def FileDeclarations.path (f : FileDeclarations) : String :=
  f.file.path

/-! ## One line -/

/-- The end of the name of an event payload. -/
def eventPayloadSuffix : String := "EventArgs"

/-- The words of a visibility and of modifiers. -/
def modifierWords (visibility : Option String) (modifiers : String) : List String :=
  (Text.words (visibility.getD "").toList ++ Text.words modifiers.toList).map String.ofList

/-- The modifier of declarations that are visible in their file only. -/
def fileModifier : String := "file"

/-- The declaration of a type header. -/
def containerDeclaration (scope : LineScope) (path ns : String) (h : ContainerHeader) :
    Declaration :=
  let modifiers := modifierWords (h.visibility.or h.nestedVisibility) h.modifiers
  let tail := readTypeTail h.tail
  { kind := DeclarationKind.ofContainer h.kind
    name := h.name
    path := path
    line := scope.number
    namespaceName := ns
    container := scope.containerAt h.nameColumn
    column := h.nameColumn
    modifiers := modifiers
    bases := tail.bases.map String.ofList
    members := if h.kind == .record then tail.params.map String.ofList else []
    fileScoped := modifiers.contains fileModifier
    ancestors := scope.enclosingAt h.nameColumn }

/-- A type, and once more as the payload of an event if its name says so. -/
def containerDeclarations (scope : LineScope) (path ns : String) (h : ContainerHeader) :
    List Declaration :=
  let d := containerDeclaration scope path ns h
  if eventPayloadSuffix.toList.isSuffixOf h.name.toList && h.kind != .enum then
    [d, { d with kind := .eventPayload }]
  else [d]

/-- The declaration of a member header. -/
def memberDeclaration (kind : DeclarationKind) (scope : LineScope) (path ns : String)
    (h : MemberHeader) : Declaration :=
  { kind := kind
    name := h.name
    path := path
    line := scope.number
    namespaceName := ns
    container := scope.containerAt h.nameColumn
    column := h.nameColumn
    modifiers := modifierWords (some h.visibility) h.modifiers
    ancestors := scope.enclosingAt h.nameColumn }

/-- The declarations that start on one line. -/
def lineDeclarations (path ns : String) (scope : LineScope) : List Declaration :=
  let chars := scope.text.toList
  (containerHeaders chars).flatMap (containerDeclarations scope path ns) ++
    ((methodHeader? chars).filter (·.declaresMember)).toList.map
      (memberDeclaration .method scope path ns) ++
    ((propertyHeader? chars).filter (·.declaresMember)).toList.map
      (memberDeclaration .property scope path ns)

/-- The declaration of the namespace of a text. -/
def namespaceDeclaration? (path : String) (text : List Char) : Option Declaration :=
  (namespaceHeader? text).map fun h =>
    { kind := .nameSpace
      name := h.name
      path := path
      line := h.preceding.count '\n' + 1
      namespaceName := h.name }

/-! ## Members -/

/-- Reads the body of an enumeration from the character after its start: up to the brace that
matches its first one.  There is none after a semicolon before the first brace, nor without a
matching brace.  Lines are divided by line feeds. -/
def enumBodyFrom : (depth : Nat) → (body : List Char) → List Char → Option (List Char)
  | _, _, [] => none
  | 0, body, c :: cs =>
    if c == '{' then enumBodyFrom 1 body cs
    else if c == ';' then none
    else enumBodyFrom 0 body cs
  | depth + 1, body, c :: cs =>
    if c == '{' then enumBodyFrom (depth + 2) (c :: body) cs
    else if c == '}' then
      if depth == 0 then some body.reverse else enumBodyFrom depth (c :: body) cs
    else enumBodyFrom (depth + 1) (c :: body) cs

/-- The text from a line and column on. -/
def textFrom (lines : List String) (lineIndex column : Nat) : List Char :=
  match lines.drop lineIndex with
  | [] => []
  | first :: rest => first.toList.drop column ++ rest.flatMap fun l => '\n' :: l.toList

/-- The text between the braces of the enumeration declared at a line and column. -/
def enumBody? (lines : List String) (lineIndex column : Nat) : Option (List Char) :=
  enumBodyFrom 0 [] (textFrom lines lineIndex column)

/-- The members of the enumeration declared at a line and column. -/
def enumMembersAt (lines : List String) (lineIndex column : Nat) : List String :=
  match enumBody? lines lineIndex column with
  | some body => (readEnumMembers body).map String.ofList
  | none => []

/-- Names in their order, each once. -/
def distinct (names : List String) : List String :=
  (names.foldl (fun seen n => if seen.contains n then seen else n :: seen) []).reverse

/-- A property together with the line and the name of the type that owns it. -/
structure OwnedProperty where
  /-- The line of the owner's header. -/
  ownerLine : Nat
  /-- The name of the owner. -/
  ownerName : String
  /-- The name of the property. -/
  name : String
  deriving DecidableEq, Repr

/-- The properties among declarations, with their owners. -/
def ownedProperties (scopes : List LineScope) (ds : List Declaration) : List OwnedProperty :=
  ds.filterMap fun d =>
    if d.kind == .property then
      (scopes[(d.line - 1).toNat]?.bind (·.containerAt d.column)).map fun owner =>
        ⟨owner.startLine, owner.name, d.name⟩
    else none

/-- The names of the properties that the type declared on a line owns. -/
def propertiesOf (owned : List OwnedProperty) (d : Declaration) : List String :=
  (owned.filter fun p => (p.ownerLine : Int) == d.line && p.ownerName == d.name).map (·.name)

/-- The declaration with its members. -/
def withMembers (lines : List String) (owned : List OwnedProperty) (d : Declaration) :
    Declaration :=
  match d.kind with
  | .enum => { d with members := enumMembersAt lines (d.line - 1).toNat d.column.toNat }
  | .type | .interface | .eventPayload =>
    match propertiesOf owned d with
    | [] => d
    | names => { d with members := distinct (d.members ++ names) }
  | _ => d

/-- The members of an enumeration as declarations of their own. -/
def enumMemberDeclarations (d : Declaration) : List Declaration :=
  if d.kind == .enum then
    d.members.map fun m =>
      { kind := .enumMember
        name := m
        path := d.path
        line := d.line
        namespaceName := d.namespaceName
        column := d.column }
  else []

/-- Attaches members to declarations; the members of enumerations follow at the end. -/
def attachMembers (lines : List String) (scopes : List LineScope) (ds : List Declaration) :
    List Declaration :=
  let owned := ownedProperties scopes ds
  let complete := ds.map (withMembers lines owned)
  complete ++ complete.flatMap enumMemberDeclarations

/-- The declarations of a file in the order in which they are found, without their members. -/
def foundDeclarations (scopes : List LineScope) (file : SourceFile) : List Declaration :=
  let text := file.text.toList
  (namespaceDeclaration? file.path text).toList ++
    scopes.flatMap (lineDeclarations file.path (namespaceOf text))

/-- Reads the declarations of a file.  Containers are those that the tracker gives; who owns a
property is always decided by following every container on a stack. -/
def extract (t : Tracker) (file : SourceFile) : FileDeclarations :=
  let scopes := (t.track file.lines).scopes
  let ownerScopes := (Tracker.full.track file.lines).scopes
  { file := file
    namespaceName := namespaceOf file.text.toList
    declarations :=
      Declaration.sort (attachMembers file.lines ownerScopes (foundDeclarations scopes file)) }

end Conformance.Source
