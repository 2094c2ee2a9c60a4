/-
# Message templates

A template is text with fields in braces.  A field names a value, may look up attributes and
characters of it, may ask for a conversion to text, and may give a layout, which can hold fields of
its own.  A doubled brace stands for itself.  Reading gives the pieces up to the first fault, so
that rendering meets faults in the order in which the text shows them.
-/
import Conformance.Template.Layout

namespace Conformance

/-- A field of a template, as written. -/
structure TemplateField where
  /-- The name, with attributes and indices. -/
  name : List Char
  /-- The conversion, if one is asked for. -/
  conversion : Option Char
  /-- The layout. -/
  layout : List Char
  /-- Whether the layout holds fields. -/
  nested : Bool
  deriving DecidableEq, Repr, Inhabited

/-- A piece of a template. -/
inductive TemplatePiece where
  /-- Text. -/
  | text (cs : List Char)
  /-- A field. -/
  | field (f : TemplateField)
  deriving DecidableEq, Repr, Inhabited

/-- The pieces of a template up to its first fault. -/
structure Template where
  /-- The pieces. -/
  pieces : List TemplatePiece
  /-- The fault that ends them, if there is one. -/
  fault : Option TemplateFault
  deriving DecidableEq, Repr, Inhabited

namespace Template

/-! ## Reading -/

/-- The characters of a name up to its end, a colon, an exclamation mark or a closing brace.
Indices in brackets are passed over. -/
def takeName : (inIndex : Bool) → List Char → List Char × List Char
  | _, [] => ([], [])
  | true, c :: cs =>
    let (name, rest) := takeName (c != ']') cs
    (c :: name, rest)
  | false, c :: cs =>
    if c == '\x7b' || c == '\x7d' || c == ':' || c == '!' then ([], c :: cs)
    else
      let (name, rest) := takeName (c == '[') cs
      (c :: name, rest)

/-- The layout up to the brace that closes the field, whether it holds fields, and the rest. -/
def takeLayout : (depth : Nat) → List Char → Option (List Char × Bool × List Char)
  | _, [] => none
  | depth, c :: cs =>
    if c == '\x7b' then
      (takeLayout (depth + 1) cs).map fun (l, _, rest) => (c :: l, true, rest)
    else if c == '\x7d' then
      match depth with
      | 0 => some ([], false, cs)
      | depth + 1 => (takeLayout depth cs).map fun (l, n, rest) => (c :: l, n, rest)
    else (takeLayout depth cs).map fun (l, n, rest) => (c :: l, n, rest)

/-- A field with a layout. -/
def fieldWithLayout (name : List Char) (conversion : Option Char) (cs : List Char) :
    Except TemplateFault (TemplateField × List Char) :=
  match takeLayout 0 cs with
  | none => .error .unclosedLayout
  | some (layout, nested, rest) => .ok (⟨name, conversion, layout, nested⟩, rest)

/-- A field after its opening brace, and the rest. -/
def takeField (cs : List Char) : Except TemplateFault (TemplateField × List Char) :=
  let (name, rest) := takeName false cs
  match rest with
  | [] => .error .unclosedField
  | '\x7d' :: rest => .ok (⟨name, none, [], false⟩, rest)
  | ':' :: rest => fieldWithLayout name none rest
  | '!' :: rest =>
    match rest with
    | [] => .error .missingConversion
    | [_] => .error .unclosedLayout
    | c :: '\x7d' :: rest => .ok (⟨name, some c, [], false⟩, rest)
    | c :: ':' :: rest => fieldWithLayout name (some c) rest
    | _ => .error .missingColon
  | _ :: _ => .error .openingInName

/-- The characters before the first brace, and the rest. -/
def takeText (cs : List Char) : List Char × List Char :=
  cs.span fun c => c != '\x7b' && c != '\x7d'

/-- A piece, and then those of a template. -/
def after (piece : TemplatePiece) (t : Template) : Template :=
  ⟨piece :: t.pieces, t.fault⟩

/-- Reads pieces one after another. -/
def readFrom : (fuel : Nat) → List Char → Template
  | 0, _ => ⟨[], none⟩
  | fuel + 1, cs =>
    let (text, rest) := takeText cs
    match rest with
    | [] => ⟨if text.isEmpty then [] else [.text text], none⟩
    | '\x7d' :: '\x7d' :: rest => (readFrom fuel rest).after (.text (text ++ ['\x7d']))
    | '\x7d' :: _ => ⟨[], some .strayClosing⟩
    | ['\x7b'] => ⟨[], some .strayOpening⟩
    | '\x7b' :: '\x7b' :: rest => (readFrom fuel rest).after (.text (text ++ ['\x7b']))
    | _ :: rest =>
      match takeField rest with
      | .error e => ⟨[], some e⟩
      | .ok (f, rest) => ((readFrom fuel rest).after (.field f)).after (.text text)

/-- Reads a template. -/
def read (text : List Char) : Template :=
  readFrom (text.length + 1) text

/-- The fields of a template, in order. -/
def fields (t : Template) : List TemplateField :=
  t.pieces.filterMap fun
    | .field f => some f
    | .text _ => none

/-- The first part of a field's name: what stands before an attribute or index. -/
def rootOf (name : List Char) : List Char :=
  name.takeWhile fun c => c != '.' && c != '['

end Template
end Conformance
