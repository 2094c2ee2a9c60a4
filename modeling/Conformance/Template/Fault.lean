/-
# Faults of message templates

Why a template cannot be read or rendered.  Faults are told apart by what went wrong: the form of
the template, an unknown name, a place that a text does not have, and so on; each has one wording.
-/
import Conformance.Number.Decimal
import Conformance.Text.Quoted

namespace Conformance

/-- Why a template cannot be read or rendered. -/
inductive TemplateFault where
  /-- A closing brace stands alone. -/
  | strayClosing
  /-- An opening brace stands alone at the end. -/
  | strayOpening
  /-- An opening brace inside the name of a field. -/
  | openingInName
  /-- A field is not closed. -/
  | unclosedField
  /-- A layout is not closed. -/
  | unclosedLayout
  /-- The template ends where a conversion should stand. -/
  | missingConversion
  /-- Something other than a colon follows a conversion. -/
  | missingColon
  /-- A conversion is unknown. -/
  | unknownConversion (c : Char)
  /-- A field is named by position. -/
  | positional
  /-- A number has too many digits. -/
  | tooManyDigits
  /-- An attribute or index is empty. -/
  | emptyAttribute
  /-- An index is not closed. -/
  | missingBracket
  /-- Something other than an attribute or index follows an index. -/
  | strayAfterBracket
  /-- Layouts are nested too deeply. -/
  | tooDeep
  /-- A field is unknown. -/
  | unknownField (name : String)
  /-- A text has no character at the index. -/
  | indexOutOfRange
  /-- A text is indexed by a word. -/
  | wordIndex
  /-- A tuple has no item at the index. -/
  | tupleIndexOutOfRange
  /-- A tuple is indexed by a word. -/
  | tupleWordIndex
  /-- A class takes no index. -/
  | classNotIndexable (name : String)
  /-- A value of this type has no index. -/
  | notIndexable (typeName : String)
  /-- A value of this type has no such attribute. -/
  | noAttribute (typeName name : String)
  /-- A class has no such attribute. -/
  | noClassAttribute (className name : String)
  /-- A class does not tell this about itself. -/
  | missingFact (name : String)
  /-- A table has no such key, which is told as it is shown. -/
  | missingKey (shown : String)
  /-- A class with an index takes no further one. -/
  | notGeneric (shown : String)
  /-- A value of this type takes no layout. -/
  | noLayout (typeName : String)
  /-- A layout cannot be read. -/
  | badLayout (text typeName : String)
  /-- A layout lacks the digits after its point. -/
  | missingPrecision
  /-- Both separators are asked for. -/
  | bothSeparators
  /-- A separator does not go with a presentation. -/
  | separatorWith (separator presentation : Char)
  /-- A presentation does not go with the type. -/
  | unknownPresentation (presentation : Char) (typeName : String)
  /-- A sign is asked for a text. -/
  | signOnText
  /-- A blank for the sign is asked for a text. -/
  | spaceOnText
  /-- Zeros without sign are asked for a text or a whole number. -/
  | zeroCoercion (what : String)
  /-- The alternate form is asked for a text. -/
  | alternateOnText
  /-- Padding after the sign is asked for a text. -/
  | signPaddingOnText
  /-- A precision is asked for a whole number. -/
  | precisionOnInteger
  /-- A precision is too large for a real number. -/
  | precisionTooBig
  /-- A sign is asked for a character. -/
  | signOnCharacter
  /-- The alternate form is asked for a character. -/
  | alternateOnCharacter
  /-- A number is no code point. -/
  | noCodePoint
  /-- A number is too large to be tried as a code point. -/
  | tooLargeForCodePoint
  /-- A whole number is too large for a real number. -/
  | tooLargeForReal
  /-- There is no room for the characters that a layout asks for. -/
  | outOfMemory
  deriving DecidableEq, Repr, Inhabited

namespace TemplateFault

/-- A character as shown in a message: itself if it lies between the blank and a bound, else its
code point. -/
def shownChar (bound : Nat) (c : Char) : String :=
  if 32 < c.toNat && c.toNat < bound then c.toString
  else "\\x" ++ String.ofList (Nat.toDigits 16 c.toNat)

/-- The wording of a fault. -/
def message : TemplateFault → String
  | .strayClosing => "Single '\x7d' encountered in format string"
  | .strayOpening => "Single '\x7b' encountered in format string"
  | .openingInName => "unexpected '\x7b' in field name"
  | .unclosedField => "expected '\x7d' before end of string"
  | .unclosedLayout => "unmatched '\x7b' in format spec"
  | .missingConversion => "end of string while looking for conversion specifier"
  | .missingColon => "expected ':' after conversion specifier"
  | .unknownConversion c => "Unknown conversion specifier " ++ shownChar 127 c
  | .positional => "Format string contains positional fields"
  | .tooManyDigits => "Too many decimal digits in format string"
  | .emptyAttribute => "Empty attribute in format string"
  | .missingBracket => "Missing ']' in format string"
  | .strayAfterBracket => "Only '.' or '[' may follow ']' in format field specifier"
  | .tooDeep => "Max string recursion exceeded"
  | .unknownField n => Text.quoted n
  | .indexOutOfRange => "string index out of range"
  | .wordIndex => "string indices must be integers, not 'str'"
  | .tupleIndexOutOfRange => "tuple index out of range"
  | .tupleWordIndex => "tuple indices must be integers or slices, not str"
  | .classNotIndexable n => "type '" ++ n ++ "' is not subscriptable"
  | .notIndexable t => "'" ++ t ++ "' object is not subscriptable"
  | .noAttribute t n => "'" ++ t ++ "' object has no attribute '" ++ n ++ "'"
  | .noClassAttribute c n => "type object '" ++ c ++ "' has no attribute '" ++ n ++ "'"
  | .missingFact n => n
  | .missingKey k => k
  | .notGeneric v => v ++ " is not a generic class"
  | .noLayout t => "unsupported format string passed to " ++ t ++ ".__format__"
  | .badLayout s t => "Invalid format specifier '" ++ s ++ "' for object of type '" ++ t ++ "'"
  | .missingPrecision => "Format specifier missing precision"
  | .bothSeparators => "Cannot specify both ',' and '_'."
  | .separatorWith s p => "Cannot specify '" ++ s.toString ++ "' with '" ++ shownChar 128 p ++ "'."
  | .unknownPresentation p t =>
    "Unknown format code '" ++ shownChar 128 p ++ "' for object of type '" ++ t ++ "'"
  | .signOnText => "Sign not allowed in string format specifier"
  | .spaceOnText => "Space not allowed in string format specifier"
  | .zeroCoercion w => "Negative zero coercion (z) not allowed in " ++ w ++ " format specifier"
  | .alternateOnText => "Alternate form (#) not allowed in string format specifier"
  | .signPaddingOnText => "'=' alignment not allowed in string format specifier"
  | .precisionOnInteger => "Precision not allowed in integer format specifier"
  | .precisionTooBig => "precision too big"
  | .signOnCharacter => "Sign not allowed with integer format specifier 'c'"
  | .alternateOnCharacter => "Alternate form (#) not allowed with integer format specifier 'c'"
  | .noCodePoint => "%c arg not in range(0x110000)"
  | .tooLargeForCodePoint => "Python int too large to convert to C long"
  | .tooLargeForReal => "int too large to convert to float"
  | .outOfMemory => ""

/-- Whether a fault is that a limit is passed: the range of what a number is written as, or the room
for what is written. -/
def isLimit : TemplateFault → Bool
  | .noCodePoint | .tooLargeForCodePoint | .tooLargeForReal | .outOfMemory => true
  | _ => false

end TemplateFault
end Conformance
