/-
# Codes of pictographs

A name between two colons stands for a pictograph.  An ending on the name asks for it to be drawn as
text or as a picture.  A code ends at the first colon; what is between two colons and is no name
stays as it is, and its second colon starts no other code.
-/
import Conformance.Text.Blank
import Conformance.Text.LowerCase
import Conformance.Text.Pictograph.FirstNames
import Conformance.Text.Pictograph.LastNames
import Conformance.Text.Pictograph.MiddleNames

namespace Conformance.Pictograph

/-- The characters of a name among words of which every other one is a name. -/
def findIn (name : String) : List String → Option String
  | n :: characters :: rest => if n == name then some characters else findIn name rest
  | _ => none

/-- The characters that a name stands for. -/
def find? (name : String) : Option String :=
  (firstNames ++ middleNames ++ lastNames).findSome? fun line => findIn name (Text.pieces ' ' line)

/-- The endings of names, each with the character that asks for the drawing. -/
def endings : List (String × List Char) :=
  [("-emoji:", ['\ufe0f']), ("-text:", ['\ufe0e']), (":", [])]

/-- A code without its opening colon. -/
structure Code where
  /-- The name. -/
  name : List Char
  /-- The ending with its colon. -/
  ending : List Char
  /-- The character that the ending asks for. -/
  drawing : List Char
  deriving DecidableEq, Repr, Inhabited

/-- The code at the start of a text, with the shortest name, and the rest. -/
def takeCode? : List Char → Option (Code × List Char)
  | [] => none
  | c :: cs =>
    match endings.find? fun (e, _) => e.toList.isPrefixOf (c :: cs) with
    | some (e, drawing) => some (⟨[], e.toList, drawing⟩, (c :: cs).drop e.length)
    | none =>
      if Text.isBlank c then none
      else (takeCode? cs).map fun (code, rest) => ({ code with name := c :: code.name }, rest)

/-- What a code stands for, or the code as it is written. -/
def Code.meaning (code : Code) : List Char :=
  match find? (Text.lower (String.ofList code.name)) with
  | some characters => characters.toList ++ code.drawing
  | none => ':' :: code.name ++ code.ending

/-- A text in which codes are replaced, with a bound on the number of steps. -/
def replaceFrom : (fuel : Nat) → List Char → List Char
  | 0, cs => cs
  | _, [] => []
  | fuel + 1, c :: cs =>
    if c == ':' then
      match takeCode? cs with
      | some (code, rest) => code.meaning ++ replaceFrom fuel rest
      | none => c :: replaceFrom fuel cs
    else c :: replaceFrom fuel cs

/-- A text in which codes are replaced. -/
def replaceCodes (cs : List Char) : List Char :=
  replaceFrom cs.length cs

end Conformance.Pictograph
