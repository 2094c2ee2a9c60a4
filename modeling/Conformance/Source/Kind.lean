/-
# Kinds of containers and of declarations

A container is a type declaration whose body can enclose others; a declaration is anything with
a name that the reader of a source file finds.  Every kind has one word, which rules and reports
use for it.
-/

namespace Conformance

/-- Type declarations whose body can enclose other declarations. -/
inductive ContainerKind where
  /-- An interface. -/
  | interface
  /-- A class. -/
  | classType
  /-- A struct. -/
  | struct
  /-- A record, of either sort. -/
  | record
  /-- An enumeration. -/
  | enum
  deriving DecidableEq, Repr, Inhabited

namespace ContainerKind

/-- Every kind of container. -/
def all : List ContainerKind :=
  [.interface, .classType, .struct, .record, .enum]

/-- The word for a kind. -/
def word : ContainerKind → String
  | .interface => "interface"
  | .classType => "class"
  | .struct => "struct"
  | .record => "record"
  | .enum => "enum"

/-- The kind with a given word. -/
def ofWord? (w : String) : Option ContainerKind :=
  all.find? (·.word == w)

end ContainerKind

/-- What a declaration declares. -/
inductive DeclarationKind where
  /-- A class, struct or record. -/
  | type
  /-- An interface. -/
  | interface
  /-- An enumeration. -/
  | enum
  /-- A type named as the payload of an event. -/
  | eventPayload
  /-- A method. -/
  | method
  /-- A property. -/
  | property
  /-- A member of an enumeration. -/
  | enumMember
  /-- The namespace of a file. -/
  | nameSpace
  deriving DecidableEq, Repr, Inhabited

namespace DeclarationKind

/-- Every kind of declaration. -/
def all : List DeclarationKind :=
  [.type, .interface, .enum, .eventPayload, .method, .property, .enumMember, .nameSpace]

/-- The word for a kind. -/
def word : DeclarationKind → String
  | .type => "type"
  | .interface => "interface"
  | .enum => "enum"
  | .eventPayload => "event_payload"
  | .method => "method"
  | .property => "property"
  | .enumMember => "enum_member"
  | .nameSpace => "namespace"

/-- The kind with a given word. -/
def ofWord? (w : String) : Option DeclarationKind :=
  all.find? (·.word == w)

/-- What a container declares. -/
def ofContainer : ContainerKind → DeclarationKind
  | .interface => .interface
  | .enum => .enum
  | .classType => .type
  | .struct => .type
  | .record => .type

end DeclarationKind
end Conformance
