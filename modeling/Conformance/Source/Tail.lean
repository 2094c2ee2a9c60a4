/-
# What follows the name of a type, and what stands between the braces of an enumeration

After its name, a type header may have type parameters, the positional parameters of a record
and a list of base types.  The body of an enumeration is a list of members separated by commas.
Lists are split at commas outside of brackets; one counter stands for all three sorts of
brackets and never goes below zero.
-/
import Conformance.Source.Header

namespace Conformance.Source

open Pattern

/-! ## Splitting outside of brackets -/

/-- The nesting depth after a character. -/
def bracketDepth (depth : Nat) (c : Char) : Nat :=
  if c == '<' || c == '(' || c == '[' then depth + 1
  else if c == '>' || c == ')' || c == ']' then depth - 1
  else depth

/-- The pieces of a text between the separators at depth zero, trimmed; the piece being read is
kept in reverse. -/
def topLevelFrom (isSeparator : Char → Bool) : Nat → List Char → List Char → List (List Char)
  | _, piece, [] => [Text.trim piece.reverse]
  | depth, piece, c :: cs =>
    let depth := bracketDepth depth c
    if isSeparator c && depth == 0 then
      Text.trim piece.reverse :: topLevelFrom isSeparator depth [] cs
    else topLevelFrom isSeparator depth (c :: piece) cs

/-- The pieces of a text between the separators outside of brackets, trimmed, without the empty
ones. -/
def splitTopLevelBy (isSeparator : Char → Bool) (text : List Char) : List (List Char) :=
  (topLevelFrom isSeparator 0 [] text).filter (!·.isEmpty)

/-- The pieces of a text between the occurrences of a separator outside of brackets. -/
def splitTopLevel (separator : Char) (text : List Char) : List (List Char) :=
  splitTopLevelBy (· == separator) text

/-! ## The tail of a header -/

/-- Type parameters in angle brackets. -/
def genericPattern : HeaderPattern :=
  concat [.anchor .textStart, gap, char '<', star (.one (.noneOf ['>', '{', ';'])), char '>']

/-- Positional parameters in parentheses. -/
def positionalPattern : HeaderPattern :=
  concat [.anchor .textStart, gap, char '(', .group .params (star (.one (.noneOf [')']))),
    char ')']

/-- The list of base types: from a colon up to the word `where`, a brace, a semicolon or the end
of the line. -/
def basesPattern : HeaderPattern :=
  concat [.anchor .textStart, gap, char ':', gap,
    .group .bases (lazyPlus (.one (.noneOf ['{', ';']))), gap,
    oneOf [concat [.anchor (.wordEdge false), word "where", .anchor (.wordEdge false)],
      char '{', char ';', .anchor .lastLineEnd]]

/-- Text in square brackets. -/
def attributeBlock : HeaderPattern :=
  concat [char '[', star (.one (.noneOf [']'])), char ']']

/-- The name of a parameter: the last of at least two names before its default value. -/
def parameterName? (parameter : List Char) : Option (List Char) :=
  let text := Text.trim (Text.before '=' (attributeBlock.removeFrom parameter))
  let names := (nameWord.all text).map (·.text)
  if 2 ≤ names.length then names.getLast? else none

/-- A base type without the arguments that a record passes to it. -/
def withoutCall (base : List Char) : List Char :=
  Text.trim (Text.before '(' base)

/-- What the tail of a type header declares. -/
structure TypeTail where
  /-- The names of the positional parameters. -/
  params : List (List Char)
  /-- The base types. -/
  bases : List (List Char)
  deriving DecidableEq, Repr

/-- The rest of a text after a match at its start; the whole text if there is none. -/
def skip (p : HeaderPattern) (text : List Char) : List Char :=
  match p.matchStart? text with
  | some m => m.rest
  | none => text

/-- The text of one part of a match at the start of a text. -/
def partAtStart? (p : HeaderPattern) (part : Part) (text : List Char) : Option (List Char) :=
  (p.matchStart? text).bind fun m => (m.capture? part).map (·.text)

/-- Reads the tail of a type header. -/
def readTypeTail (tail : List Char) : TypeTail :=
  let afterGenerics := skip genericPattern tail
  let params := ((partAtStart? positionalPattern .params afterGenerics).map fun ps =>
    (splitTopLevel ',' ps).filterMap parameterName?).getD []
  let afterParams := skip positionalPattern afterGenerics
  let bases := ((partAtStart? basesPattern .bases afterParams).map fun bs =>
    (splitTopLevel ',' bs).map withoutCall).getD []
  ⟨params, bases⟩

/-! ## The body of an enumeration -/

/-- A comment between its marks. -/
def blockComment : HeaderPattern :=
  concat [word "/*", lazyStar (.one .any), word "*/"]

/-- A comment up to the end of its line. -/
def lineComment : HeaderPattern :=
  concat [word "//", star (.one (.noneOf ['\n']))]

/-- Whether a text is a name. -/
def isName : List Char → Bool
  | [] => false
  | c :: cs => Text.isNameStart c && cs.all Text.isWord

/-- The name of a member, if the text before its value is one. -/
def memberName? (entry : List Char) : Option (List Char) :=
  let name := Text.trim (Text.before '=' entry)
  if isName name then some name else none

/-- The names of the members in the body of an enumeration. -/
def readEnumMembers (body : List Char) : List (List Char) :=
  let body := attributeBlock.removeFrom (lineComment.removeFrom (blockComment.removeFrom body))
  (Text.splitOn ',' body).filterMap memberName?

/-- Whether a line is a comment, or continues one. -/
def isCommentLine (line : List Char) : Bool :=
  let line := Text.trimStart line
  ['/', '/'].isPrefixOf line || ['/', '*'].isPrefixOf line || ['*'].isPrefixOf line

end Conformance.Source
