/-
# Headers of declarations

The patterns by which types, methods and properties are recognised on one line of C# text, and
the parts of a header that they capture.  Text inside comments and string literals is read like
any other, and a header that is spread over several lines is not recognised.
-/
import Conformance.Pattern.Match
import Conformance.Source.Kind

namespace Conformance.Source

/-- The parts of a header that are captured. -/
inductive Part where
  /-- Visibility at the start of a line. -/
  | visibility
  /-- Visibility after a brace or a semicolon. -/
  | nestedVisibility
  /-- Modifiers, with the blanks after each. -/
  | modifiers
  /-- The word for the sort of type. -/
  | keyword
  /-- The type of a member. -/
  | type
  /-- The declared name. -/
  | name
  /-- The positional parameters of a record. -/
  | params
  /-- The list of base types. -/
  | bases
  deriving DecidableEq, Repr, Inhabited

/-- Patterns that capture parts of headers. -/
abbrev HeaderPattern := Pattern Part

open Pattern

/-! ## Building blocks -/

/-- One word of visibility. -/
def visibilityWord : HeaderPattern :=
  words ["public", "internal", "private", "protected"]

/-- One or two words of visibility. -/
def visibilityRun : HeaderPattern :=
  seq visibilityWord (opt (seq gap1 visibilityWord))

/-- Attributes in brackets, each with the blanks after it. -/
def attributes : HeaderPattern :=
  star (concat [char '[', star (.one (.noneOf [']'])), char ']', gap])

/-- Modifiers of types. -/
def typeModifier : HeaderPattern :=
  words ["static", "sealed", "abstract", "partial", "readonly", "ref", "unsafe", "new", "file"]

/-- Modifiers of members. -/
def memberModifier : HeaderPattern :=
  words ["static", "virtual", "override", "abstract", "sealed", "async", "extern", "unsafe",
    "new", "partial", "readonly", "required"]

/-- A name: a letter or underscore, then word characters. -/
def nameWord : HeaderPattern :=
  seq (.one (.oneOf [.between 'A' 'Z', .between 'a' 'z', .char '_'])) (star (.one (.word false)))

/-- A reference to a type: a dotted name, type arguments, array brackets, a question mark. -/
def typeReference : HeaderPattern :=
  concat [
    plus (.one (.either (.word false) (.char '.'))),
    opt (concat [char '<', lazyStar (.one (.noneOf ['(', ')', '{', '}', ';', '='])), char '>']),
    star (concat [char '[', star (char ','), char ']']),
    opt (char '?')]

/-- The words for the sorts of types; the longer ones come first. -/
def containerKeyword : HeaderPattern :=
  oneOf [
    concat [word "record", gap1, word "class"],
    concat [word "record", gap1, word "struct"],
    word "record", word "class", word "struct", word "interface", word "enum"]

/-! ## The headers -/

/-- The header of a type.  At the start of a line it needs a visibility, or the modifier `file`;
after a brace or a semicolon it needs none. -/
def containerPattern : HeaderPattern :=
  concat [
    alt
      (concat [.anchor .textStart, gap, attributes,
        .group .visibility (alt visibilityRun (word "file")), gap1])
      (concat [.behind true 1 (.one (.chars ['{', '}', ';'])), gap, attributes,
        opt (seq (.group .nestedVisibility visibilityRun) gap1)]),
    .group .modifiers (star (seq typeModifier gap1)),
    .group .keyword containerKeyword,
    gap1,
    .group .name nameWord]

/-- What methods and properties have in common. -/
def memberStart : List HeaderPattern :=
  [.anchor .textStart, gap, attributes, .group .visibility visibilityRun, gap1,
    .group .modifiers (star (seq memberModifier gap1)),
    .group .type typeReference, gap1, .group .name nameWord, gap]

/-- The header of a method, up to its opening parenthesis. -/
def methodPattern : HeaderPattern :=
  concat (memberStart ++
    [opt (concat [char '<', lazyStar (.one (.noneOf ['(', ')'])), char '>']), gap, char '('])

/-- The header of a property, up to its first accessor or its arrow. -/
def propertyPattern : HeaderPattern :=
  concat (memberStart ++
    [alt
      (concat [char '{', gap, opt (seq visibilityWord gap1), words ["get", "set", "init"],
        .anchor (.wordEdge false)])
      (word "=>")])

/-- The declaration of a namespace, up to its semicolon or brace. -/
def namespacePattern : HeaderPattern :=
  concat [word "namespace", gap1, .group .name (plus (.one (.either (.word false) (.char '.')))),
    gap, .one (.chars [';', '{'])]

/-! ## Reading headers -/

/-- The kind of container that a keyword stands for: that of its first word. -/
def kindOfKeyword (keyword : List Char) : ContainerKind :=
  match Text.words keyword with
  | [] => .classType
  | w :: _ => (ContainerKind.ofWord? (String.ofList w)).getD .classType

/-- The header of a type found on a line. -/
structure ContainerHeader where
  /-- The column where the match starts. -/
  column : Nat
  /-- The column after the match, which ends with the name. -/
  endColumn : Nat
  /-- Visibility at the start of the line. -/
  visibility : Option String
  /-- Visibility after a brace or a semicolon. -/
  nestedVisibility : Option String
  /-- The modifiers, as written. -/
  modifiers : String
  /-- The word or words for the sort of type, as written. -/
  keyword : String
  /-- The kind of container. -/
  kind : ContainerKind
  /-- The declared name. -/
  name : String
  /-- The column of the name. -/
  nameColumn : Nat
  /-- The line after the name. -/
  tail : List Char
  deriving Repr, Inhabited

/-- The text of a capture that every match has. -/
def partText (m : Match Part) (p : Part) : String :=
  (m.captured? p).getD ""

/-- The column of a capture that every match has. -/
def partColumn (m : Match Part) (p : Part) : Nat :=
  ((m.capture? p).map (·.column)).getD 0

/-- The header that a match of the container pattern describes. -/
def ContainerHeader.ofMatch (m : Match Part) : ContainerHeader where
  column := m.column
  endColumn := m.endColumn
  visibility := m.captured? .visibility
  nestedVisibility := m.captured? .nestedVisibility
  modifiers := partText m .modifiers
  keyword := partText m .keyword
  kind := kindOfKeyword (partText m .keyword).toList
  name := partText m .name
  nameColumn := partColumn m .name
  tail := m.rest

/-- The headers of types on a line, from left to right. -/
def containerHeaders (line : List Char) : List ContainerHeader :=
  (containerPattern.all line).map ContainerHeader.ofMatch

/-- The header of a method or property found on a line. -/
structure MemberHeader where
  /-- The column where the match starts. -/
  column : Nat
  /-- The column after the match. -/
  endColumn : Nat
  /-- The visibility, as written. -/
  visibility : String
  /-- The modifiers, as written. -/
  modifiers : String
  /-- The type, as written. -/
  type : String
  /-- The declared name. -/
  name : String
  /-- The column of the name. -/
  nameColumn : Nat
  deriving Repr, Inhabited

/-- The header that a match of a member pattern describes. -/
def MemberHeader.ofMatch (m : Match Part) : MemberHeader where
  column := m.column
  endColumn := m.endColumn
  visibility := partText m .visibility
  modifiers := partText m .modifiers
  type := partText m .type
  name := partText m .name
  nameColumn := partColumn m .name

/-- The header of a method on a line. -/
def methodHeader? (line : List Char) : Option MemberHeader :=
  (methodPattern.matchStart? line).map MemberHeader.ofMatch

/-- The header of a property on a line. -/
def propertyHeader? (line : List Char) : Option MemberHeader :=
  (propertyPattern.matchStart? line).map MemberHeader.ofMatch

/-- Words that can stand where the type of a member stands, and then tell that the line declares
no member. -/
def nonMemberTypes : List String :=
  ["class", "struct", "interface", "enum", "record", "delegate", "event", "operator", "implicit",
    "explicit", "return", "new", "await", "throw"]

/-- Whether the type of a header can be that of a member. -/
def MemberHeader.declaresMember (h : MemberHeader) : Bool :=
  !nonMemberTypes.contains h.type

/-- The name of a namespace found in a text, with the number of characters before it. -/
structure NamespaceHeader where
  /-- The declared name. -/
  name : String
  /-- The text before the declaration. -/
  preceding : List Char

/-- The first declaration of a namespace in a text. -/
def namespaceHeader? (text : List Char) : Option NamespaceHeader :=
  (namespacePattern.search? text).map fun m =>
    ⟨partText m .name, m.start.before⟩

/-- The name of files that declare no namespace. -/
def unknownNamespace : String := "Unknown"

/-- The namespace that a text declares first. -/
def namespaceOf (text : List Char) : String :=
  ((namespaceHeader? text).map (·.name)).getD unknownNamespace

end Conformance.Source
