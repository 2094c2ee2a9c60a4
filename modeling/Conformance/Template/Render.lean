/-
# Rendering templates

A template is rendered with values for its fields.  A field is looked up, converted if that is asked
for, and written in its layout.  The layout may hold fields, which are rendered first, one level
deep.

An operation of a value is shown with its place in memory, and a wide layout needs room there.
`Memory` holds what is found there on each occasion on which a value is written; nothing else that
rendering does depends on it.
-/
import Conformance.Template.Basic
import Conformance.Template.Value

namespace Conformance

/-- The values of the fields that a template may use. -/
abbrev FieldValues := List (String × FieldValue)

/-! ## Memory -/

/-- An occasion on which a value is written: the values of the fields, whether it is written for a
layout, and the pieces that are still to be written, from its own on. -/
structure Occasion where
  /-- The values of the fields. -/
  values : FieldValues
  /-- Whether the value is written for the layout of another one. -/
  inLayout : Bool
  /-- The pieces still to be written. -/
  pieces : List TemplatePiece
  deriving DecidableEq, Repr, Inhabited

/-- What is found of memory on each occasion. -/
class Memory where
  /-- The place of the owner of an operation, as it is shown. -/
  address : Occasion → (owner : FieldValue) → String
  /-- The members of a class, each with what it is. -/
  membersText : Occasion → ValueClass → String
  /-- The features of a class, as bits: some tell what has been looked up before. -/
  features : Occasion → ValueClass → Nat
  /-- The number of characters for which there is room. -/
  room : Occasion → Nat

/-- The features of a class in a plain memory. -/
def plainFeatures : ValueClass → Nat
  | .object => 529664
  | .text => 273159424
  | .whole => 21501184
  | .real => 4199680
  | .sort => 2148031744
  | .tuple => 71849248
  | .nothing => 528640
  | .boundMethod => 547200
  | .boundSlot => 20864
  | .method => 153984
  | .slot => 151936
  | .attribute => 545152
  | .field => 545152
  | .classMethod => 20864
  | .static => 546048
  | .namespace => 545088
  | .generic => 548096
  | .flag => 21500160
  | .table => 541611328

/-- A memory in which everything has one place, with room enough. -/
@[reducible] def Memory.plain : Memory where
  address _ _ := "0x7f0000000000"
  membersText _ c := c.name
  features _ := plainFeatures
  room _ := Nat.pow 2 33

namespace FieldValue

/-! ## Text -/

/-- The items of a tuple in parentheses; a comma marks a tuple of one. -/
def tupleText : List String → String
  | [] => "()"
  | [s] => "(" ++ s ++ ",)"
  | ss => "(" ++ ", ".intercalate ss ++ ")"

/-- A class as text. -/
def classText (c : ValueClass) : String :=
  "<class '" ++ c.name ++ "'>"

/-- The word for members of a class. -/
def memberWord : MemberKind → String
  | .slot => "slot wrapper"
  | .attribute => "attribute"
  | .field => "member"
  | _ => "method"

section Memory

variable [m : Memory]

/-- An operation of a value as text, with the place of the value. -/
def operationText (o : Occasion) (owner : FieldValue) (slot : Bool) (name : String) : String :=
  (if slot then "<method-wrapper '" ++ name ++ "'" else "<built-in method " ++ name) ++
    " of " ++ owner.typeName ++ " object at " ++ Memory.address o owner ++ ">"

/-- A value as text. -/
def shown (o : Occasion) : FieldValue → String
  | .text s => s
  | .int i => intText i
  | .real x => x.text
  | .flag b => if b then "True" else "False"
  | .features c => intText (Memory.features o c)
  | .nothing => "None"
  | .sort c => classText c
  | .sorts cs => tupleText (cs.map classText)
  | .single key => tupleText [key.quoted]
  | .generic c index => genericText c index
  | .namespace c => "\x7b" ++ Memory.membersText o c ++ "\x7d"
  | .table => "\x7b\x7d"
  | .operation _ owner slot name => operationText o owner slot name
  | .member .staticMethod keeper name =>
    "<staticmethod(" ++ operationText o (.sort keeper) false name ++ ")>"
  | .member kind keeper name =>
    "<" ++ memberWord kind ++ " '" ++ name ++ "' of '" ++ keeper.name ++ "' objects>"

/-- A value as a diagnostic quotes it: texts are in quotes, and the members of a class are told to
be such. -/
def quoted (o : Occasion) : FieldValue → String
  | .text s => Text.quoted s
  | .namespace c => "mappingproxy(" ++ shown o (.namespace c) ++ ")"
  | v => v.shown o

/-- A value under a conversion: quoted, as text, or quoted in characters below code point 128. -/
def convert (o : Occasion) (v : FieldValue) (conversion : Option Char) :
    Except TemplateFault FieldValue :=
  match conversion with
  | none => .ok v
  | some 'r' => .ok (.text (v.quoted o))
  | some 's' => .ok (.text (v.shown o))
  | some 'a' => .ok (.text (Text.asciiOnly (v.quoted o)))
  | some c => .error (.unknownConversion c)

/-- A value in a layout; an empty layout writes the value as text. -/
def layOut (o : Occasion) (v : FieldValue) (layout : List Char) :
    Except TemplateFault (List Char) :=
  let room := Memory.room o
  if layout.isEmpty then .ok (v.shown o).toList
  else match v with
    | .text s => (Layout.read "str" '<' (some 's') layout).bind (·.text room s.toList)
    | .int i => (Layout.read "int" '>' (some 'd') layout).bind (·.integer room "int" i)
    | .features c =>
      (Layout.read "int" '>' (some 'd') layout).bind (·.integer room "int" (Memory.features o c))
    | .flag b =>
      (Layout.read "bool" '>' (some 'd') layout).bind (·.integer room "bool" (if b then 1 else 0))
    | .real x => (Layout.read "float" '>' none layout).bind (·.real room "float" x)
    | v => .error (.noLayout v.typeName)

end Memory

end FieldValue

namespace Template

section Render

variable [Host]

/-- Looks up the attributes and indices in the rest of a field's name. -/
def lookUp : (fuel : Nat) → FieldValue → List Char → Except TemplateFault FieldValue
  | 0, v, _ => .ok v
  | _ + 1, v, [] => .ok v
  | fuel + 1, v, '.' :: cs =>
    let name := rootOf cs
    if name.isEmpty then .error .emptyAttribute
    else (v.property (String.ofList name)).bind fun w => lookUp fuel w (cs.drop name.length)
  | fuel + 1, v, '[' :: cs =>
    let index := cs.takeWhile (· != ']')
    match cs.drop index.length with
    | [] => .error .missingBracket
    | _ :: rest =>
      if index.isEmpty then .error .emptyAttribute
      else (v.item index).bind fun w => lookUp fuel w rest
  | _ + 1, _, _ :: _ => .error .strayAfterBracket

/-- The value that the name of a field stands for. -/
def valueOf (values : FieldValues) (name : List Char) : Except TemplateFault FieldValue :=
  let root := rootOf name
  match FieldValue.indexOf root with
  | .error e => .error e
  | .ok (some _) => .error .positional
  | .ok none =>
    if root.isEmpty then .error .positional
    else match values.lookup (String.ofList root) with
      | none => .error (.unknownField (String.ofList root))
      | some v => lookUp name.length v (name.drop root.length)

variable [m : Memory]

/-- Renders pieces one after another; `layouts` renders the layout of a field. -/
def renderPieces (values : FieldValues) (inLayout : Bool)
    (layouts : TemplateField → Except TemplateFault (List Char)) :
    List TemplatePiece → Except TemplateFault (List Char)
  | [] => .ok []
  | .text cs :: rest => (renderPieces values inLayout layouts rest).map (cs ++ ·)
  | .field f :: rest => do
    let occasion := ⟨values, inLayout, .field f :: rest⟩
    let v ← valueOf values f.name
    let v ← v.convert occasion f.conversion
    let layout ← layouts f
    let text ← v.layOut occasion layout
    return text ++ (← renderPieces values inLayout layouts rest)

/-- Renders pieces, and then fails if a fault ends them. -/
def renderWith (values : FieldValues) (inLayout : Bool)
    (layouts : TemplateField → Except TemplateFault (List Char)) (t : Template) :
    Except TemplateFault (List Char) := do
  let text ← renderPieces values inLayout layouts t.pieces
  match t.fault with
  | some e => throw e
  | none => return text

/-- The layout inside a layout: it may not hold fields. -/
def innerLayout (f : TemplateField) : Except TemplateFault (List Char) :=
  if f.nested then .error .tooDeep else .ok f.layout

/-- The layout of a field, with its fields rendered. -/
def outerLayout (values : FieldValues) (f : TemplateField) : Except TemplateFault (List Char) :=
  if f.nested then renderWith values true innerLayout (read f.layout) else .ok f.layout

/-- Renders a template. -/
def render (t : Template) (values : FieldValues) : Except TemplateFault String :=
  (renderWith values false (outerLayout values) t).map String.ofList

end Render

end Template
end Conformance
