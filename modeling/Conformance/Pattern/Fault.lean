/-
# Faults of written patterns

Why a text is not a pattern, and where.  The message names the cause and the position; if the
text has several lines it also gives line and column.
-/
import Conformance.Number.Decimal
import Conformance.Number.Literal
import Conformance.Text.Quoted

namespace Conformance

/-- Why a text is not a pattern. -/
inductive PatternCause where
  /-- A group is not closed. -/
  | unterminatedGroup
  /-- A comment is not closed. -/
  | unterminatedComment
  /-- A parenthesis closes nothing. -/
  | unbalancedParenthesis
  /-- A set is not closed. -/
  | unterminatedSet
  /-- The bounds of a range are in the wrong order, or no characters. -/
  | badRange (lo hi : String)
  /-- A repetition has nothing before it. -/
  | nothingToRepeat
  /-- A repetition follows another. -/
  | multipleRepeat
  /-- The least number of rounds is above the greatest. -/
  | leastAboveMost
  /-- The text ends inside a group's opening. -/
  | unexpectedEnd
  /-- A group opens in an unknown way. -/
  | unknownExtension (text : String)
  /-- The text ends with a backslash. -/
  | danglingEscape
  /-- An escape is unknown. -/
  | badEscape (text : String)
  /-- A numeric escape lacks digits. -/
  | incompleteEscape (text : String)
  /-- An octal escape is too large. -/
  | octalRange (text : String)
  /-- A named character needs a brace. -/
  | missingBrace
  /-- No character has the name. -/
  | unknownCharacter (name : String)
  /-- A reference to a group that does not exist. -/
  | invalidReference (number : Nat)
  /-- A reference to a group that is still open. -/
  | openReference
  /-- A reference to a group inside the same condition on what precedes. -/
  | behindReference
  /-- A condition on what precedes has no fixed length. -/
  | variableBehind
  /-- A name is missing. -/
  | missing (what : String)
  /-- A name is not closed. -/
  | unterminatedName (terminator : Char)
  /-- A name is not one. -/
  | badName (name : String)
  /-- No group has the name. -/
  | unknownName (name : String)
  /-- A group cannot be numbered so. -/
  | badGroupNumber
  /-- Two groups have the same name. -/
  | redefinition (name : String) (number earlier : Nat)
  /-- A condition has more than two branches. -/
  | extraBranch
  /-- Flags for the whole text do not stand at its start. -/
  | lateFlags
  /-- The flags are wrong in some way. -/
  | badFlags (text : String)
  /-- A number of rounds is too large. -/
  | tooManyRounds
  /-- A number of rounds has too many digits. -/
  | tooManyDigits (count : Nat)
  /-- Two flags for the whole text exclude each other. -/
  | clashingFlags
  /-- Repetitions are switched off by a flag. -/
  | roundsSwitchedOff (greed : String)
  deriving DecidableEq, Repr, Inhabited

/-- The wording of a cause. -/
def PatternCause.message : PatternCause → String
  | .unterminatedGroup => "missing ), unterminated subpattern"
  | .unterminatedComment => "missing ), unterminated comment"
  | .unbalancedParenthesis => "unbalanced parenthesis"
  | .unterminatedSet => "unterminated character set"
  | .badRange lo hi => "bad character range " ++ lo ++ "-" ++ hi
  | .nothingToRepeat => "nothing to repeat"
  | .multipleRepeat => "multiple repeat"
  | .leastAboveMost => "min repeat greater than max repeat"
  | .unexpectedEnd => "unexpected end of pattern"
  | .unknownExtension t => "unknown extension ?" ++ t
  | .danglingEscape => "bad escape (end of pattern)"
  | .badEscape t => "bad escape " ++ t
  | .incompleteEscape t => "incomplete escape " ++ t
  | .octalRange t => "octal escape value " ++ t ++ " outside of range 0-0o377"
  | .missingBrace => "missing \x7b"
  | .unknownCharacter n => "undefined character name " ++ Text.quoted n
  | .invalidReference n => "invalid group reference " ++ intText n
  | .openReference => "cannot refer to an open group"
  | .behindReference => "cannot refer to group defined in the same lookbehind subpattern"
  | .variableBehind => "look-behind requires fixed-width pattern"
  | .missing what => "missing " ++ what
  | .unterminatedName c => "missing " ++ c.toString ++ ", unterminated name"
  | .badName n => "bad character in group name " ++ Text.quoted n
  | .unknownName n => "unknown group name " ++ Text.quoted n
  | .badGroupNumber => "bad group number"
  | .redefinition n k e => "redefinition of group name " ++ Text.quoted n ++ " as group " ++
      intText k ++ "; was group " ++ intText e
  | .extraBranch => "conditional backref with more than two branches"
  | .lateFlags => "global flags not at the start of the expression"
  | .badFlags t => t
  | .tooManyRounds => "the repetition number is too large"
  | .tooManyDigits count => Literal.tooManyDigits count
  | .clashingFlags => "ASCII and UNICODE flags are incompatible"
  | .roundsSwitchedOff greed => "internal: unsupported template operator " ++ greed

/-- Whether a cause is a limit that the text passes, and no fault of its notation. -/
def PatternCause.isLimit : PatternCause → Bool
  | .tooManyRounds => true
  | .tooManyDigits _ => true
  | .clashingFlags => true
  | _ => false

/-- A fault of a written pattern. -/
structure PatternFault where
  /-- The cause. -/
  cause : PatternCause
  /-- Where it was found, unless it concerns the whole. -/
  position : Option Nat
  deriving DecidableEq, Repr, Inhabited

/-- Line and column of a position, both from one. -/
def lineAndColumn (text : List Char) (position : Nat) : Nat × Nat :=
  let before := text.take position
  (before.count '\n' + 1, (before.reverse.takeWhile (· != '\n')).length + 1)

/-- The message of a fault in a given text. -/
def PatternFault.message (f : PatternFault) (text : List Char) : String :=
  match f.position with
  | none => f.cause.message
  | some p =>
    let base := f.cause.message ++ " at position " ++ intText p
    if text.contains '\n' then
      let (line, column) := lineAndColumn text p
      base ++ " (line " ++ intText line ++ ", column " ++ intText column ++ ")"
    else base

end Conformance
