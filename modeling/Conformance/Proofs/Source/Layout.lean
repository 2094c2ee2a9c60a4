/-
# Trees of types and their layout

A tree of types is laid out in lines: a header, the opening brace on the same line or on the next,
a line for each property, the types inside, and the closing brace.  An enumeration has one line with
its members instead.  Names and blanks carry the proof that they are such; nothing else is fixed, so
every line has an indentation of its own.

The outline of a forest (`outline`) tells what a reader should find in its layout: each type in the
order of the headers, with its line, the containers around it and its members.
-/
import Conformance.Proofs.Source.MemberLine
import Conformance.Source.Declaration

namespace Conformance.Source

/-! ## Trees -/

/-- A name that a source text can declare. -/
structure Name where
  /-- The characters. -/
  chars : List Char
  /-- They are a letter or underscore and then word characters. -/
  valid : isName chars = true

/-- Any number of blanks. -/
structure Blanks where
  /-- The characters. -/
  chars : List Char
  /-- They are blanks. -/
  areBlank : chars.all Text.isBlank = true

lemma Blanks.valid (b : Blanks) : ∀ c ∈ b.chars, Text.isBlank c = true :=
  List.all_eq_true.1 b.areBlank

/-- No blanks. -/
def noBlanks : Blanks := ⟨[], rfl⟩

/-- One blank. -/
def oneBlank : Blanks := ⟨[' '], rfl⟩

/-- The place of the brace that opens a body. -/
inductive BracePlace where
  /-- At the end of the header's line. -/
  | sameLine (gap : Blanks)
  /-- Alone on the next line. -/
  | nextLine (indent : Blanks)

/-- How a type starts. -/
structure Head where
  /-- The indentation of the header. -/
  indent : Blanks
  /-- The declared name. -/
  name : Name
  /-- The place of the opening brace. -/
  brace : BracePlace

/-- A property. -/
structure Property where
  /-- The indentation of its line. -/
  indent : Blanks
  /-- The declared name. -/
  name : Name

/-- The members of an enumeration on their line. -/
structure MemberList where
  /-- The indentation of the line. -/
  indent : Blanks
  /-- What stands behind each comma. -/
  gap : Blanks
  /-- The names. -/
  names : List Name

/-- Types that can hold properties and other types. -/
inductive TypeSort where
  /-- A class. -/
  | classType
  /-- A struct. -/
  | struct
  /-- An interface. -/
  | interface
  /-- A record. -/
  | record
  deriving DecidableEq, Repr

/-- The kind of container of a sort of type. -/
def TypeSort.kind : TypeSort → ContainerKind
  | .classType => .classType
  | .struct => .struct
  | .interface => .interface
  | .record => .record

/-- A type with what it holds. -/
inductive TypeTree where
  /-- A type with properties and types inside. -/
  | type (sort : TypeSort) (head : Head) (properties : List Property) (children : List TypeTree)
      (closing : Blanks)
  /-- An enumeration. -/
  | enum (head : Head) (members : MemberList) (closing : Blanks)

namespace TypeTree

/-- The kind of container. -/
def kind : TypeTree → ContainerKind
  | .type sort .. => sort.kind
  | .enum .. => .enum

/-- How the type starts. -/
def head : TypeTree → Head
  | .type _ head .. => head
  | .enum head .. => head

/-- The declared name. -/
def name (t : TypeTree) : String :=
  String.ofList t.head.name.chars

/-- The properties that the type itself holds. -/
def properties : TypeTree → List Property
  | .type _ _ properties .. => properties
  | .enum .. => []

end TypeTree

/-! ## Lines -/

/-- The lines of a layout. -/
inductive Line where
  /-- The header of a type. -/
  | header (kind : ContainerKind) (head : Head)
  /-- The brace that opens a body, alone. -/
  | opening (indent : Blanks)
  /-- A property. -/
  | property (p : Property)
  /-- The members of an enumeration. -/
  | members (m : MemberList)
  /-- The brace that closes a body. -/
  | closing (indent : Blanks)

/-- What stands behind the name on a header's line. -/
def Head.rest (h : Head) : List Char :=
  match h.brace with
  | .sameLine gap => gap.chars ++ ['{']
  | .nextLine _ => []

/-- Names with commas between them. -/
def commaSeparated (gap : List Char) : List Name → List Char
  | [] => []
  | [n] => n.chars
  | n :: ns => n.chars ++ ',' :: (gap ++ commaSeparated gap ns)

/-- A text of word characters, commas and blanks. -/
def Listing (text : List Char) : Prop :=
  ∀ x ∈ text, Text.isWord x = true ∨ Text.isBlank x = true ∨ x = ','

lemma Listing.not_mem {text : List Char} (h : Listing text) {x : Char}
    (hx : Text.isWord x = false ∧ Text.isBlank x = false ∧ x ≠ ',') : x ∉ text := by
  intro hmem
  rcases h x hmem with hword | hblank | hcomma
  · exact absurd hword (by simp [hx.1])
  · exact absurd hblank (by simp [hx.2.1])
  · exact hx.2.2 hcomma

lemma listing_commaSeparated (gap : Blanks) (ns : List Name) :
    Listing (commaSeparated gap.chars ns) := by
  intro x hx
  induction ns with
  | nil => exact absurd hx (by simp [commaSeparated])
  | cons n ns ih =>
    cases ns with
    | nil => exact Or.inl (isWord_of_mem_name n.valid hx)
    | cons n' ns =>
      simp only [commaSeparated, List.mem_append, List.mem_cons] at hx
      rcases hx with hx | rfl | hx | hx
      · exact Or.inl (isWord_of_mem_name n.valid hx)
      · exact Or.inr (Or.inr rfl)
      · exact Or.inr (Or.inl (gap.valid x hx))
      · exact ih hx

/-- The characters of a line. -/
def Line.chars : Line → List Char
  | .header kind head => typeLine head.indent.chars kind head.name.chars head.rest
  | .opening indent => indent.chars ++ ['{']
  | .property p => propertyLine p.indent.chars p.name.chars
  | .members m => m.indent.chars ++ commaSeparated m.gap.chars m.names
  | .closing indent => indent.chars ++ ['}']

/-- The lines up to the opening brace of a body. -/
def Head.lines (kind : ContainerKind) (h : Head) : List Line :=
  match h.brace with
  | .sameLine _ => [.header kind h]
  | .nextLine indent => [.header kind h, .opening indent]

mutual

/-- The lines of a type. -/
def TypeTree.lines : TypeTree → List Line
  | .type sort head properties children closing =>
    head.lines sort.kind ++
      (properties.map .property ++ (forestLines children ++ [.closing closing]))
  | .enum head members closing => head.lines .enum ++ [.members members, .closing closing]

/-- The lines of types one after another. -/
def forestLines : List TypeTree → List Line
  | [] => []
  | t :: ts => t.lines ++ forestLines ts

end

/-- Lines as strings. -/
def render (ls : List Line) : List String :=
  ls.map fun l => String.ofList l.chars

example : render (forestLines [.type .record
      ⟨⟨[' '], by decide⟩, ⟨['A'], by decide⟩, .nextLine ⟨[], by decide⟩⟩
      [⟨⟨[' ', ' '], by decide⟩, ⟨['P', '1'], by decide⟩⟩]
      [.enum ⟨⟨[], by decide⟩, ⟨['E'], by decide⟩, .sameLine ⟨[' '], by decide⟩⟩
        ⟨⟨[], by decide⟩, ⟨[' '], by decide⟩, [⟨['x'], by decide⟩, ⟨['y'], by decide⟩]⟩
        ⟨[], by decide⟩] ⟨[], by decide⟩])
    = [" public record A", "\x7b", "  public int P1 \x7b get; set; \x7d", "public enum E \x7b",
      "x, y", "\x7d", "\x7d"] := by
  decide

/-! ## The outline -/

/-- A type at its place: the number of its header's line and the containers around it, outermost
first. -/
structure Placed where
  /-- The number of the header's line. -/
  line : Nat
  /-- The containers around the type, outermost first. -/
  above : List Frame
  /-- The type. -/
  tree : TypeTree

/-- The column of the name in a header. -/
def Head.nameColumn (kind : ContainerKind) (h : Head) : Nat :=
  h.indent.chars.length + 7 + kind.word.length + 1

/-- The frame of a type that starts on a line, in the given containers. -/
def Head.frame (kind : ContainerKind) (line : Nat) (above : List Frame) (h : Head) : Frame :=
  ⟨kind, String.ofList h.name.chars, above.length, line, h.nameColumn kind⟩

mutual

/-- A type and those inside it at their places, in the order of their headers. -/
def TypeTree.placed (line : Nat) (above : List Frame) : TypeTree → List Placed
  | .type sort head properties children closing =>
    ⟨line, above, .type sort head properties children closing⟩ ::
      forestPlaced (line + (head.lines sort.kind).length + properties.length)
        (above ++ [head.frame sort.kind line above]) children
  | .enum head members closing => [⟨line, above, .enum head members closing⟩]

/-- Types one after another at their places. -/
def forestPlaced (line : Nat) (above : List Frame) : List TypeTree → List Placed
  | [] => []
  | t :: ts => t.placed line above ++ forestPlaced (line + t.lines.length) above ts

end

/-- What is told of a type. -/
structure Entry where
  /-- What is declared. -/
  kind : DeclarationKind
  /-- The declared name. -/
  name : String
  /-- The number of the header's line. -/
  line : Int
  /-- The innermost container around the type. -/
  container : Option Frame
  /-- The containers around the type, outermost first. -/
  ancestors : List Frame
  /-- The members. -/
  members : List String
  deriving DecidableEq, Repr

/-- The members that a type holds itself: of an enumeration those that are listed, of another type
its properties, each once. -/
def TypeTree.memberNames : TypeTree → List String
  | .type _ _ properties _ _ => (properties.map fun p => String.ofList p.name.chars).eraseDups
  | .enum _ members _ => members.names.map fun n => String.ofList n.chars

/-- What is told of a type at its place. -/
def Placed.entry (p : Placed) : Entry where
  kind := DeclarationKind.ofContainer p.tree.kind
  name := p.tree.name
  line := p.line
  container := p.above.getLast?
  ancestors := p.above
  members := p.tree.memberNames

/-- What is told of the types of a forest. -/
def outline (forest : List TypeTree) : List Entry :=
  (forestPlaced 1 [] forest).map Placed.entry

end Conformance.Source
