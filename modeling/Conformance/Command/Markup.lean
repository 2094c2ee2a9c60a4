/-
# Notices with tags

The text of a notice may hold tags in brackets, which are not shown.  A tag that starts with a slash
closes the latest open tag with the same style, or the latest one if it names none; it must have one
to close.  Backslashes before a tag keep it from being one.
-/
import Conformance.Command.Style
import Conformance.Fault
import Conformance.Text.Printed

namespace Conformance.Markup

/-- A tag. -/
structure Tag where
  /-- What stands before an equals sign. -/
  name : String
  /-- What stands behind it, if it is there. -/
  parameters : Option String
  deriving DecidableEq, Repr, Inhabited

/-- A tag as it is written. -/
def Tag.text (t : Tag) : String :=
  "[" ++ t.name ++ ((t.parameters.map ("=" ++ ·)).getD "") ++ "]"

/-- A part of a notice. -/
inductive Part where
  /-- Characters that are shown. -/
  | shown (cs : List Char)
  /-- A tag at a position. -/
  | tag (position : Nat) (t : Tag)
  deriving DecidableEq, Repr, Inhabited

/-! ## Reading -/

/-- Whether a character can start a tag. -/
def startsTag (c : Char) : Bool :=
  ('a' ≤ c && c ≤ 'z') || c == '#' || c == '/' || c == '@'

/-- What is in the brackets of the tag at the start of a text, and the rest. -/
def tag? : List Char → Option (List Char × List Char)
  | '[' :: c :: cs =>
    if startsTag c then
      match cs.span fun x => x != '[' && x != ']' with
      | (body, ']' :: rest) => some (c :: body, rest)
      | _ => none
    else none
  | _ => none

/-- The tag with the given characters in its brackets. -/
def Tag.read (cs : List Char) : Tag :=
  let name := Text.before '=' cs
  ⟨String.ofList name,
    if name.length == cs.length then none else some (String.ofList (cs.drop (name.length + 1)))⟩

/-- Puts characters before parts; neighbouring characters are one part. -/
def addShown (cs : List Char) : List Part → List Part
  | .shown ds :: parts => .shown (cs ++ ds) :: parts
  | parts => if cs.isEmpty then parts else .shown cs :: parts

/-- The parts of a text that starts at a position.  Two backslashes before a tag stand for one; an
odd one keeps the tag as it is. -/
def partsFrom : (fuel : Nat) → (position : Nat) → List Char → List Part
  | 0, _, cs => addShown cs []
  | fuel + 1, position, cs =>
    let (slashes, rest) := cs.span (· == '\\')
    let after := position + slashes.length
    match tag? rest with
    | some (body, rest) =>
      let parts := partsFrom fuel (after + body.length + 2) rest
      let kept := Part.shown (slashes.take (slashes.length / 2))
      if slashes.length % 2 == 1 then
        kept :: .shown ('[' :: body ++ [']']) :: parts
      else kept :: .tag after (Tag.read body) :: parts
    | none =>
      match rest with
      | [] => addShown slashes []
      | c :: rest => addShown (slashes ++ [c]) (partsFrom fuel (after + 1) rest)

/-- The parts of a text. -/
def parts (text : String) : List Part :=
  partsFrom (text.length + 1) 0 text.toList

/-! ## Showing -/

/-- A text in which a backslash before a bracket is left out. -/
def withoutEscapes : List Char → List Char
  | '\\' :: '[' :: cs => '[' :: withoutEscapes cs
  | c :: cs => c :: withoutEscapes cs
  | [] => []

/-- Closes a tag among the open ones, the latest first; an empty name stands for the latest. -/
def close (t : Tag) (position : Nat) (opened : List String) : Except Fault (List String) :=
  let name := Text.trimmed (String.ofList (t.name.toList.drop 1))
  if name.isEmpty then
    match opened with
    | [] => .error (.nothingToClose position)
    | _ :: opened => .ok opened
  else
    let style := TextStyle.normalForm name
    if opened.contains style then .ok (opened.erase style)
    else .error (.unopenedTag t.text position)

/-- What is shown of parts; `opened` are the styles of the open tags, the latest first. -/
def shownParts : (opened : List String) → List Part → Except Fault (List Char)
  | _, [] => .ok []
  | opened, .shown cs :: parts => do
    return Printed.pictured (withoutEscapes cs) ++ (← shownParts opened parts)
  | opened, .tag position t :: parts =>
    if Text.startsWith t.name "/" then do shownParts (← close t position opened) parts
    else shownParts (TextStyle.normalForm t.name :: opened) parts

/-- A notice as it is printed. -/
def print (text : String) : Except Fault String := do
  return String.ofList (Printed.expandTabs 0 (← shownParts [] (parts text)))

end Conformance.Markup
