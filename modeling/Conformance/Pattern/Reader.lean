/-
# Reading patterns

Patterns in rules are written in the usual notation of regular expressions: literals, sets,
groups, alternatives, repetitions, anchors, conditions on the text around a place, references to
groups, and flags.  The text is cut into tokens, a backslash belonging to the character after it;
the reader looks one token ahead, so that a backslash at the very end is noticed as soon as it
comes next.
-/
import Conformance.Pattern.Fault
import Conformance.Pattern.Match
import Conformance.Text.Identifier
import Conformance.Text.Name.Lookup

namespace Conformance.PatternReader

/-- A character, or a backslash with the character after it. -/
abbrev Token := List Char

/-- Cuts a text into tokens.  A backslash at the end is a token of its own. -/
def tokens : List Char → List Token
  | '\\' :: c :: cs => ['\\', c] :: tokens cs
  | c :: cs => [c] :: tokens cs
  | [] => []

/-- The number that stands for no bound on rounds and lengths. -/
def unbounded : Nat := 4294967295

/-- The least and the greatest length of what a pattern matches.  The greatest length is counted
up to `unbounded`, and the least one less far, so that a length beyond all bounds is not fixed. -/
structure Width where
  /-- The least length. -/
  least : Nat
  /-- The greatest length. -/
  most : Nat
  deriving DecidableEq, Repr, Inhabited

namespace Width

/-- Lengths within the bounds. -/
def bounded (least most : Nat) : Width :=
  ⟨min least (unbounded - 1), min most unbounded⟩

/-- Exactly `n` characters. -/
def exact (n : Nat) : Width :=
  bounded n n

/-- One after another. -/
def add (a b : Width) : Width :=
  bounded (a.least + b.least) (a.most + b.most)

/-- One or the other. -/
def either (a b : Width) : Width :=
  ⟨min a.least b.least, max a.most b.most⟩

/-- Several rounds. -/
def times (w : Width) (least : Nat) (most : Option Nat) : Width :=
  bounded (w.least * least) (w.most * most.getD unbounded)

/-- Whether only one length is possible. -/
def isFixed (w : Width) : Bool :=
  w.least == w.most

end Width

/-- Flags that are on, by their letters. -/
abbrev Flags := List Char

/-- Flags turned on and off for a part of a pattern. -/
structure Scope where
  /-- Flags turned on. -/
  on : Flags
  /-- Flags turned off. -/
  off : Flags
  deriving Inhabited

/-- What the reader knows at a place. -/
structure State where
  /-- The tokens ahead. -/
  ahead : List Token
  /-- The position of the next token. -/
  position : Nat
  /-- Flags for the whole pattern. -/
  flags : Flags
  /-- The widths of the groups opened so far, from number zero; none while a group is open. -/
  groups : List (Option Width)
  /-- The names of groups. -/
  names : List (String × Nat)
  /-- Inside a condition on what precedes: the number of groups at its start. -/
  behind : Option Nat
  /-- Groups that conditions refer to, with positions. -/
  conditions : List (Nat × Nat)
  /-- The first part that is read and yet cannot be matched, as its start and the cause. -/
  unmatchable : Option (Nat × PatternCause)
  deriving Inhabited

/-- Readers of parts of a pattern. -/
abbrev M := StateT State (Except PatternFault)

/-- A part of a sequence. -/
inductive ItemSort where
  /-- Anything that can be repeated. -/
  | plain
  /-- An anchor. -/
  | anchor
  /-- A repetition. -/
  | rounds
  deriving DecidableEq, Repr, Inhabited

/-- A part of a sequence, with its width. -/
structure Item where
  /-- The pattern. -/
  pattern : Pattern Nat
  /-- Its width. -/
  width : Width
  /-- What it is, for the repetition that may follow. -/
  sort : ItemSort
  /-- The position where it starts. -/
  start : Nat
  /-- The test on its first character, if it starts with a class or a set. -/
  lead : Option CharTest
  deriving Inhabited

/-! ## Tokens -/

/-- Fails at a number of characters before the next token. -/
def fail {α : Type} (cause : PatternCause) (offset : Nat := 0) : M α := do
  throw ⟨cause, some ((← get).position - offset)⟩

/-- Refuses a backslash at the end of the text when it comes next. -/
def refuseDangling : M Unit := do
  let s ← get
  if s.ahead.head? == some ['\\'] then throw ⟨.danglingEscape, some s.position⟩

/-- The next token. -/
def peek : M (Option Token) := do
  return (← get).ahead.head?

/-- Takes the next token. -/
def take : M (Option Token) := do
  let s ← get
  match s.ahead with
  | [] => return none
  | t :: ts =>
    set { s with ahead := ts, position := s.position + t.length }
    refuseDangling
    return some t

/-- Takes the next token if it is the given character. -/
def accept (c : Char) : M Bool := do
  if (← peek) == some [c] then
    let _ ← take
    return true
  else return false

/-- Takes up to `n` characters in a row that satisfy a test. -/
def takeWhile (test : Char → Bool) : Nat → M (List Char)
  | 0 => return []
  | n + 1 => do
    match ← peek with
    | some [c] =>
      if test c then
        let _ ← take
        return c :: (← takeWhile test n)
      else return []
    | _ => return []

/-- The number of tokens ahead. -/
def remaining : M Nat := do
  return (← get).ahead.length

/-- Takes the digits ahead. -/
def takeDigits : M (List Char) := do
  takeWhile Char.isDigit (← remaining)

/-- Takes what stands before a terminator, and the terminator.  `what` says what is wanted. -/
def takeUntil (terminator : Char) (what : String) : (fuel : Nat) → List Char → M (List Char)
  | 0, _ => fail (.missing what)
  | fuel + 1, found => do
    match ← take with
    | none =>
      if found.isEmpty then fail (.missing what)
      else fail (.unterminatedName terminator) found.length
    | some t =>
      if t == [terminator] then
        if found.isEmpty then fail (.missing what) 1 else return found
      else takeUntil terminator what fuel (found ++ t)

/-- Takes a name and its terminator. -/
def takeName (terminator : Char) (what : String) : M (List Char) := do
  takeUntil terminator what ((← remaining) + 1) []

/-- Takes tokens up to and including the given character, or to the end.  Tells whether the
character was found. -/
def skipPast (c : Char) : (fuel : Nat) → M Bool
  | 0 => return false
  | fuel + 1 => do
    match ← take with
    | none => return false
    | some t => if t == [c] then return true else skipPast c fuel

/-! ## Flags -/

/-- The flags in force: those of the whole pattern, changed by those of the part. -/
def flagsIn (scope : Scope) : M Flags := do
  return (← get).flags.filter (!scope.off.contains ·) ++ scope.on

/-- Notes a part that cannot be matched.  Of several the one that starts first counts, and of two
that start at the same place the outer one, which is complete later. -/
def noteUnmatchable (start : Nat) (cause : PatternCause) : M Unit :=
  modify fun s => match s.unmatchable with
    | some (p, _) => if start ≤ p then { s with unmatchable := some (start, cause) } else s
    | none => { s with unmatchable := some (start, cause) }

/-- Whether classes and case are those of the characters below code point 128: of the two flags
that decide it, the innermost counts. -/
def asciiOnly (flags : Flags) : Bool :=
  flags.reverse.find? (fun c => c == 'a' || c == 'u') == some 'a'

/-- How flags treat case. -/
def caseRule (flags : Flags) : CaseRule :=
  if !flags.contains 'i' then .exact else if asciiOnly flags then .ascii else .full

/-- The letters of flags. -/
def flagLetters : List Char :=
  ['i', 'L', 'm', 's', 'x', 'a', 't', 'u']

/-- Whether a token is the letter of a flag. -/
def isFlag (t : Token) : Bool :=
  match t with
  | [c] => flagLetters.contains c
  | _ => false

/-- Whether a token begins with a letter. -/
def isLetter (t : Token) : Bool :=
  match t with
  | [c] => Text.isAlphanumeric c && !Text.isDecimalDigit c
  | _ => false

/-- Reads flags to turn on, from the first one on, and the token that ends them. -/
def takeFlagsOn : (fuel : Nat) → Token → Flags → M (Flags × Token)
  | 0, _, _ => fail (.badFlags "missing -, : or )")
  | fuel + 1, t, on => do
    let letter := t.head?.getD 'i'
    if letter == 'L' then
      fail (.badFlags "bad inline flags: cannot use 'L' flag with a str pattern")
    let on := letter :: on
    if on.contains 'a' && on.contains 'u' then
      fail (.badFlags "bad inline flags: flags 'a', 'u' and 'L' are incompatible")
    match ← take with
    | none => fail (.badFlags "missing -, : or )")
    | some t =>
      if t == [')'] || t == ['-'] || t == [':'] then return (on, t)
      else if isFlag t then takeFlagsOn fuel t on
      else fail (.badFlags (if isLetter t then "unknown flag" else "missing -, : or )")) t.length

/-- Reads flags to turn off, from the first one on, up to the colon. -/
def takeFlagsOff : (fuel : Nat) → Token → Flags → M Flags
  | 0, _, _ => fail (.badFlags "missing :")
  | fuel + 1, t, off => do
    let letter := t.head?.getD 'i'
    if letter == 'L' || letter == 'a' || letter == 'u' then
      fail (.badFlags "bad inline flags: cannot turn off flags 'a', 'u' and 'L'")
    let off := letter :: off
    match ← take with
    | none => fail (.badFlags "missing :")
    | some t =>
      if t == [':'] then return off
      else if isFlag t then takeFlagsOff fuel t off
      else fail (.badFlags (if isLetter t then "unknown flag" else "missing :")) t.length

/-- Reads the flags of a group's opening from their first token on.  Gives none if they are for
the whole pattern, which then has them. -/
def takeFlags (t : Token) : M (Option Scope) := do
  let fuel := (← remaining) + 1
  let (on, t) ← if t == ['-'] then pure ([], t) else takeFlagsOn fuel t []
  if t == [')'] then
    modify fun s => { s with flags := s.flags ++ on }
    return none
  if on.contains 't' then fail (.badFlags "bad inline flags: cannot turn on global flag") 1
  let off ← if t == ['-'] then
    match ← take with
    | none => fail (.badFlags "missing flag")
    | some t =>
      if isFlag t then takeFlagsOff fuel t []
      else fail (.badFlags (if isLetter t then "unknown flag" else "missing flag")) t.length
    else pure []
  if off.contains 't' then fail (.badFlags "bad inline flags: cannot turn off global flag") 1
  if on.any off.contains then fail (.badFlags "bad inline flags: flag turned on and off") 1
  return some ⟨on, off⟩

/-! ## Escapes and sets -/

/-- What an escape or a plain character stands for. -/
inductive Atom where
  /-- The character of a code point. -/
  | point (n : Nat)
  /-- A class of characters. -/
  | test (t : CharTest)
  /-- An anchor. -/
  | anchor (a : Anchor)
  /-- A reference to a group. -/
  | same (number : Nat)
  deriving Inhabited

/-- The value of a hexadecimal or octal number. -/
def valueOf (base : Nat) (digits : List Char) : Nat :=
  digits.foldl (fun n c =>
    base * n + (if c.isDigit then c.toNat - 0x30 else c.toLower.toNat - 0x57)) 0

/-- Whether a character is a hexadecimal digit. -/
def isHexDigit (c : Char) : Bool :=
  c.isDigit || ('a' ≤ c && c ≤ 'f') || ('A' ≤ c && c ≤ 'F')

/-- Whether a character is an octal digit. -/
def isOctalDigit (c : Char) : Bool :=
  '0' ≤ c && c ≤ '7'

/-- A character as an atom. -/
def Atom.char (c : Char) : Atom :=
  .point c.toNat

/-- The control characters that have escapes of their own. -/
def controlEscape? : Char → Option Char
  | 'a' => some '\x07'
  | 'b' => some '\x08'
  | 'f' => some '\x0C'
  | 'n' => some '\n'
  | 'r' => some '\r'
  | 't' => some '\t'
  | 'v' => some '\x0B'
  | '\\' => some '\\'
  | _ => none

/-- The classes of characters that have escapes. -/
def classEscape? (ascii : Bool) : Char → Option CharTest
  | 'd' => some (.digit ascii)
  | 'D' => some (.except (.digit ascii))
  | 's' => some (.blank ascii)
  | 'S' => some (.except (.blank ascii))
  | 'w' => some (.word ascii)
  | 'W' => some (.except (.word ascii))
  | _ => none

/-- The anchors that have escapes. -/
def anchorEscape? (ascii : Bool) : Char → Option Anchor
  | 'A' => some .textStart
  | 'b' => some (.wordEdge ascii)
  | 'B' => some (.noWordEdge ascii)
  | 'Z' => some .textEnd
  | _ => none

/-- An escape as it is written. -/
def written (letter : Char) (digits : List Char) : String :=
  String.ofList ('\\' :: letter :: digits)

/-- An escape of exactly `count` hexadecimal digits. -/
def hexEscape (letter : Char) (count : Nat) : M Atom := do
  let ds ← takeWhile isHexDigit count
  let text := written letter ds
  if ds.length != count then fail (.incompleteEscape text) text.length
  let n := valueOf 16 ds
  if n > 0x10FFFF then fail (.badEscape text) text.length
  return .point n

/-- An escape by the name of a character. -/
def namedEscape : M Atom := do
  if !(← accept '\x7b') then fail .missingBrace
  let name ← takeName '\x7d' "character name"
  match Text.codePointNamed? name with
  | some n => return .point n
  | none => fail (.unknownCharacter (String.ofList name)) (name.length + 4)

/-- The numeric escapes that are the same everywhere. -/
def numericEscape? (letter : Char) : Option (M Atom) :=
  match letter with
  | 'x' => some (hexEscape 'x' 2)
  | 'u' => some (hexEscape 'u' 4)
  | 'U' => some (hexEscape 'U' 8)
  | 'N' => some namedEscape
  | _ => none

/-- An escaped character that stands for itself, unless it is a letter or digit. -/
def plainEscape (letter : Char) : M Atom := do
  if letter.isAlphanum then fail (.badEscape (written letter [])) 2
  return .char letter

/-- An octal escape whose value must fit a byte. -/
def octalEscape (letter : Char) (ds : List Char) : M Atom := do
  let n := valueOf 8 (letter :: ds)
  let text := written letter ds
  if n > 0o377 then fail (.octalRange text) text.length
  return .point n

/-- An escape inside a set. -/
def setEscape (ascii : Bool) (letter : Char) : M Atom := do
  if let some c := controlEscape? letter then return .char c
  if let some t := classEscape? ascii letter then return .test t
  if let some m := numericEscape? letter then return (← m)
  if isOctalDigit letter then
    octalEscape letter (← takeWhile isOctalDigit 2)
  else plainEscape letter

/-- Refuses references to groups that are not complete where they must be. -/
def checkBehind (number : Nat) : M Unit := do
  let s ← get
  if let some start := s.behind then
    if ((s.groups[number]?).join).isNone then fail .openReference
    if start ≤ number then fail .behindReference

/-- An escape that starts with a digit other than zero: three octal digits are a character,
anything else refers to a group. -/
def referenceEscape (letter : Char) : M Atom := do
  let second ← takeWhile Char.isDigit 1
  let octal := isOctalDigit letter && second.length == 1 && second.all isOctalDigit
  let third ← if octal then takeWhile isOctalDigit 1 else pure []
  if !third.isEmpty then octalEscape letter (second ++ third)
  else
    let ds := letter :: second
    let number := valueOf 10 ds
    let s ← get
    if number < s.groups.length then
      if ((s.groups[number]?).join).isNone then fail .openReference (ds.length + 1)
      checkBehind number
      return .same number
    fail (.invalidReference number) ds.length

/-- An escape outside of sets. -/
def escape (ascii : Bool) (letter : Char) : M Atom := do
  if let some t := classEscape? ascii letter then return .test t
  if let some a := anchorEscape? ascii letter then return .anchor a
  if let some c := controlEscape? letter then return .char c
  if let some m := numericEscape? letter then return (← m)
  if letter == '0' then
    return .point (valueOf 8 (← takeWhile isOctalDigit 2))
  else if letter.isDigit then referenceEscape letter
  else plainEscape letter

/-- One end of a range or a member of a set. -/
def setMember (ascii : Bool) : Token → M Atom
  | ['\\', e] => setEscape ascii e
  | c :: _ => return .char c
  | [] => return .test .never

/-- The test for a member of a set. -/
def Atom.asTest : Atom → CharTest
  | .point n => .point n
  | .test t => t
  | _ => .never

/-- The members of a set up to its closing bracket, which is a member if it comes first.  `start`
is the position of the opening bracket. -/
def setMembers (ascii : Bool) (start : Nat) : (fuel : Nat) → List CharTest → M (List CharTest)
  | 0, _ => throw ⟨.unterminatedSet, some start⟩
  | fuel + 1, found => do
    match ← take with
    | none => throw ⟨.unterminatedSet, some start⟩
    | some this =>
      if this == [']'] && !found.isEmpty then return found
      let lo ← setMember ascii this
      if ← accept '-' then
        match ← take with
        | none => throw ⟨.unterminatedSet, some start⟩
        | some that =>
          if that == [']'] then return .char '-' :: lo.asTest :: found
          let hi ← setMember ascii that
          match lo, hi with
          | .point a, .point b =>
            if b < a then badRange this that
            else setMembers ascii start fuel (.range a b :: found)
          | _, _ => badRange this that
      else setMembers ascii start fuel (lo.asTest :: found)
where
  /-- Refuses a range. -/
  badRange {α : Type} (this that : Token) : M α :=
    fail (.badRange (String.ofList this) (String.ofList that)) (this.length + 1 + that.length)

/-- The highest code point of the basic plane. -/
def basicPlaneEnd : Nat := 0xFFFF

/-- A member of a set under a rule for case.  Members of sets are compared with small letters, so
that a capital beyond the basic plane, named on its own, stands for nothing.  A range that reaches
beyond the basic plane takes all letters of different case for the same under either rule. -/
def memberUnder (rule : CaseRule) : CharTest → CharTest
  | .char c =>
    if rule == .full && basicPlaneEnd < c.toNat && rule.small c != c then .never
    else .under rule (.char c)
  | .range lo hi =>
    if rule == .ascii && basicPlaneEnd < hi then .under .full (.range lo hi)
    else .under rule (.range lo hi)
  | t => t

/-- The test of a set with the given members.  A set of one character is that character. -/
def setTest (rule : CaseRule) (members : List CharTest) : CharTest :=
  match members.eraseDups with
  | [.char c] => .under rule (.char c)
  | members => .oneOf (members.map (memberUnder rule))

/-- One character, as a part of a sequence. -/
def oneItem (start : Nat) (t : CharTest) : Item :=
  ⟨.one t, .exact 1, .plain, start, none⟩

/-- A character of a class or set, as a part of a sequence. -/
def classItem (start : Nat) (t : CharTest) : Item :=
  ⟨.one t, .exact 1, .plain, start, some t⟩

/-- An anchor, as a part of a sequence. -/
def anchorItem (start : Nat) (a : Anchor) : Item :=
  ⟨.anchor a, .exact 0, .anchor, start, none⟩

/-- A set, after its opening bracket. -/
def takeSet (flags : Flags) : M Item := do
  let start := (← get).position - 1
  let negated ← accept '^'
  let members ← setMembers (asciiOnly flags) start ((← remaining) + 1) []
  let rule := caseRule flags
  let t := setTest rule members.reverse
  let t := if negated then .except t else t
  return if members.any (·.dependsOn rule) then oneItem start t else classItem start t

/-- An atom as a part of a sequence. -/
def atomItem (flags : Flags) (start : Nat) : Atom → M Item
  | .point n => return oneItem start (.under (caseRule flags) (.point n))
  | .test t => return classItem start t
  | .anchor a => return anchorItem start a
  | .same n => do
    let w := (((← get).groups[n]?).join).getD (.exact 0)
    return ⟨.same n (caseRule flags), w, .plain, start, none⟩

/-! ## Repetitions -/

/-- A bound of a repetition, from its digits. -/
def boundOf (digits : List Char) : M Nat := do
  if Literal.digitLimit < digits.length then throw ⟨.tooManyDigits digits.length, none⟩
  let n := valueOf 10 digits
  if unbounded ≤ n then throw ⟨.tooManyRounds, none⟩
  return n

/-- The bounds of a repetition that starts with the given character; none if a brace turns out to
be an ordinary character. -/
def takeBounds (c : Char) : M (Option (Nat × Option Nat)) := do
  if c == '?' then return some (0, some 1)
  if c == '*' then return some (0, none)
  if c == '+' then return some (1, none)
  let start ← get
  if start.ahead.head? == some ['\x7d'] then return none
  let lo ← takeDigits
  let hi ← if ← accept ',' then takeDigits else pure lo
  if !(← accept '\x7d') then
    set start
    return none
  let least ← boundOf lo
  let most ← if hi.isEmpty then pure none else some <$> boundOf hi
  if most.getD least < least then throw ⟨.leastAboveMost, some start.position⟩
  return some (least, most)

/-- The mark after a repetition that says how it chooses. -/
def takeGreed : M Greed := do
  if ← accept '?' then return .lazy
  if ← accept '+' then return .possessive
  return .greedy

/-- The word for a way to repeat. -/
def greedWord : Greed → String
  | .greedy => "MAX_REPEAT"
  | .lazy => "MIN_REPEAT"
  | .possessive => "POSSESSIVE_REPEAT"

/-- Repeats the last part of a sequence.  `start` is the position of the repetition. -/
def repeatLast (flags : Flags) (start least : Nat) (most : Option Nat) (items : List Item) :
    M (List Item) := do
  match items with
  | [] => throw ⟨.nothingToRepeat, some start⟩
  | item :: rest =>
    if item.sort == .anchor then throw ⟨.nothingToRepeat, some start⟩
    if item.sort == .rounds then throw ⟨.multipleRepeat, some start⟩
    let greed ← takeGreed
    if flags.contains 't' then noteUnmatchable item.start (.roundsSwitchedOff (greedWord greed))
    return ⟨.rounds item.pattern least most greed, item.width.times least most, .rounds,
      item.start, none⟩ :: rest

/-! ## Groups, sequences and alternatives -/

/-- Refuses a text that cannot name a group. -/
def checkName (name : List Char) : M Unit := do
  if !Text.isIdentifier name then fail (.badName (String.ofList name)) (name.length + 1)

/-- Opens a group and gives its number. -/
def openGroup (name : Option (List Char)) : M Nat := do
  let s ← get
  let number := s.groups.length
  if let some n := name then
    let n' := String.ofList n
    if let some earlier := s.names.lookup n' then
      fail (.redefinition n' number earlier) (n.length + 1)
    set { s with groups := s.groups ++ [none], names := (n', number) :: s.names }
  else set { s with groups := s.groups ++ [none] }
  return number

/-- Closes a group of a given width. -/
def closeGroup (number : Nat) (w : Width) : M Unit :=
  modify fun s => { s with groups := s.groups.set number (some w) }

/-- Takes the parenthesis that closes a group opened at a position. -/
def takeClosing (start : Nat) : M Unit := do
  if !(← accept ')') then throw ⟨.unterminatedGroup, some start⟩

/-- Parts put together. -/
structure Part where
  /-- The pattern. -/
  pattern : Pattern Nat
  /-- Its width. -/
  width : Width
  /-- The test on its first character, if it starts with a class or a set. -/
  lead : Option CharTest
  deriving Inhabited

/-- The parts of a sequence, last one first, as one pattern. -/
def Part.ofItems (items : List Item) : Part where
  pattern := Pattern.concat (items.reverse.map (·.pattern))
  width := items.foldl (fun w i => i.width.add w) (.exact 0)
  lead := items.getLast?.bind (·.lead)

/-- One part or another. -/
def Part.either (a b : Part) : Part :=
  ⟨.alt a.pattern b.pattern, a.width.either b.width, none⟩

/-- A part as an item of a sequence, with its pattern changed. -/
def Part.item (part : Part) (start : Nat) (wrap : Pattern Nat → Pattern Nat) : Item :=
  ⟨wrap part.pattern, part.width, .plain, start, part.lead⟩

/-- An item that consumes nothing, as a part of a sequence. -/
def conditionItem (start : Nat) (p : Pattern Nat) : Item :=
  ⟨p, .exact 0, .plain, start, none⟩

/-- A reference to a named group, after its equals sign. -/
def namedReference (flags : Flags) (start : Nat) : M Item := do
  let name ← takeName ')' "group name"
  checkName name
  match (← get).names.lookup (String.ofList name) with
  | none => fail (.unknownName (String.ofList name)) (name.length + 1)
  | some number =>
    if (((← get).groups[number]?).join).isNone then fail .openReference (name.length + 1)
    checkBehind number
    atomItem flags start (.same number)

/-- The greatest number of groups. -/
def mostGroups : Nat := 2147483647

/-- The group that a condition names, after its parenthesis: by its name, or by a number in any
form that whole numbers have. -/
def conditionGroup : M Nat := do
  let name ← takeName ')' "group name"
  let text := String.ofList name
  if Text.isIdentifier name then
    match (← get).names.lookup text with
    | none => fail (.unknownName text) (name.length + 1)
    | some number => return number
  else match Literal.readInt? text with
    | none => fail (.badName text) (name.length + 1)
    | some i =>
      if i < 0 then fail (.badName text) (name.length + 1)
      let number := i.toNat
      if number == 0 then fail .badGroupNumber (name.length + 1)
      if mostGroups ≤ number then fail (.invalidReference number) (name.length + 1)
      modify fun s =>
        { s with conditions := s.conditions ++ [(number, s.position - name.length - 1)] }
      return number

/-- How a group opens. -/
inductive Opening where
  /-- A group that is remembered, with its name. -/
  | capture (name : Option (List Char))
  /-- A group that is not remembered, with its flags. -/
  | plain (scope : Scope)
  /-- A group whose first match is final. -/
  | atomic
  /-- A condition on what follows. -/
  | ahead (holds : Bool)
  /-- A condition on what precedes. -/
  | behind (holds : Bool)
  /-- A choice by whether a group has matched. -/
  | choice (number : Nat)
  /-- A part of the sequence that is complete. -/
  | complete (item : Item)
  /-- Nothing: a comment, or flags for the whole. -/
  | nothing

/-- Reads how a group opens, after its parenthesis at `start`.  `atStart` tells that flags for the
whole pattern may stand here. -/
def takeOpening (flags : Flags) (start : Nat) (atStart : Bool) : M Opening := do
  if !(← accept '?') then return .capture none
  match ← take with
  | none => fail .unexpectedEnd
  | some t =>
    match t with
    | ['P'] =>
      if ← accept '<' then
        let name ← takeName '>' "group name"
        checkName name
        return .capture (some name)
      if ← accept '=' then return .complete (← namedReference flags start)
      match ← take with
      | none => fail .unexpectedEnd
      | some u => fail (.unknownExtension ("P" ++ String.ofList u)) (u.length + 2)
    | [':'] => return .plain ⟨[], []⟩
    | ['#'] =>
      if ← skipPast ')' ((← remaining) + 1) then return .nothing
      else throw ⟨.unterminatedComment, some start⟩
    | ['='] => return .ahead true
    | ['!'] => return .ahead false
    | ['<'] =>
      match ← take with
      | none => fail .unexpectedEnd
      | some ['='] => return .behind true
      | some ['!'] => return .behind false
      | some u => fail (.unknownExtension ("<" ++ String.ofList u)) (u.length + 2)
    | ['('] => return .choice (← conditionGroup)
    | ['>'] => return .atomic
    | t =>
      if isFlag t || t == ['-'] then
        match ← takeFlags t with
        | some scope => return .plain scope
        | none =>
          if !atStart then throw ⟨.lateFlags, some start⟩
          return .nothing
      else fail (.unknownExtension (String.ofList t)) (t.length + 1)

/-- Flags of a part inside another part. -/
def Scope.inside (outer inner : Scope) : Scope :=
  ⟨outer.on.filter (!inner.off.contains ·) ++ inner.on,
    outer.off.filter (!inner.on.contains ·) ++ inner.off⟩

/-- Blanks that flags may make insignificant. -/
def isLayout (t : Token) : Bool :=
  [[' '], ['\t'], ['\n'], ['\r'], ['\x0B'], ['\x0C']].contains t

mutual

/-- Alternatives, up to a closing parenthesis or the end.  `first` tells that this is the start
of the whole pattern. -/
def alternatives : (fuel : Nat) → Scope → (first : Bool) → M Part
  | 0, _, _ => fail .unexpectedEnd
  | fuel + 1, scope, first => do
    let part := Part.ofItems (← sequence fuel scope first [])
    if ← accept '|' then
      return part.either (← alternatives fuel scope false)
    return part

/-- The parts of a sequence, up to a bar, a closing parenthesis or the end; last one first. -/
def sequence : (fuel : Nat) → Scope → (first : Bool) → List Item → M (List Item)
  | 0, _, _, _ => fail .unexpectedEnd
  | fuel + 1, scope, first, items => do
    match ← peek with
    | none => return items
    | some t =>
      if t == ['|'] || t == [')'] then return items
      let start := (← get).position
      let _ ← take
      let flags ← flagsIn scope
      if flags.contains 'x' && isLayout t then return (← sequence fuel scope first items)
      if flags.contains 'x' && t == ['#'] then
        let _ ← skipPast '\n' ((← remaining) + 1)
        return (← sequence fuel scope first items)
      match t with
      | ['\\', e] =>
        let item ← atomItem flags start (← escape (asciiOnly flags) e)
        sequence fuel scope first (item :: items)
      | ['['] => sequence fuel scope first ((← takeSet flags) :: items)
      | ['('] =>
        let opening ← takeOpening flags start (first && items.isEmpty)
        match ← group fuel scope flags start opening with
        | some item => sequence fuel scope first (item :: items)
        | none => sequence fuel scope first items
      | ['.'] =>
        let test := if flags.contains 's' then CharTest.any else .except (.char '\n')
        sequence fuel scope first (oneItem start test :: items)
      | ['^'] =>
        let a := if flags.contains 'm' then Anchor.lineStart else .textStart
        sequence fuel scope first (anchorItem start a :: items)
      | ['$'] =>
        let a := if flags.contains 'm' then Anchor.lineEnd else .lastLineEnd
        sequence fuel scope first (anchorItem start a :: items)
      | [c] =>
        let plain := oneItem start (.under (caseRule flags) (.char c))
        if ['?', '*', '+', '\x7b'].contains c then
          match ← takeBounds c with
          | none => sequence fuel scope first (plain :: items)
          | some (least, most) =>
            sequence fuel scope first (← repeatLast flags start least most items)
        else sequence fuel scope first (plain :: items)
      | _ => return items

/-- The rest of a group that opened at `start`. -/
def group : (fuel : Nat) → Scope → Flags → (start : Nat) → Opening → M (Option Item)
  | 0, _, _, _, _ => fail .unexpectedEnd
  | fuel + 1, scope, _, start, opening => do
    match opening with
    | .nothing => return none
    | .complete item => return some item
    | .capture name =>
      let number ← openGroup name
      let part ← alternatives fuel scope false
      takeClosing start
      closeGroup number part.width
      return some (part.item start (.group number))
    | .plain inner =>
      let part ← alternatives fuel (scope.inside inner) false
      takeClosing start
      return some (part.item start id)
    | .atomic =>
      let part ← alternatives fuel scope false
      takeClosing start
      return some { part.item start .atomic with lead := none }
    | .ahead holds =>
      let part ← alternatives fuel scope false
      takeClosing start
      return some (conditionItem start (.ahead holds part.pattern))
    | .behind holds =>
      let outer := (← get).behind
      if outer.isNone then modify fun s => { s with behind := some s.groups.length }
      let part ← alternatives fuel scope false
      if outer.isNone then modify fun s => { s with behind := none }
      takeClosing start
      if !part.width.isFixed then noteUnmatchable start .variableBehind
      return some (conditionItem start (.behind holds part.width.least part.pattern))
    | .choice number =>
      checkBehind number
      let yes := Part.ofItems (← sequence fuel scope false [])
      if ← accept '|' then
        let no := Part.ofItems (← sequence fuel scope false [])
        if (← peek) == some ['|'] then fail .extraBranch
        takeClosing start
        return some ⟨.ifMatched number yes.pattern no.pattern, yes.width.either no.width, .plain,
          start, none⟩
      takeClosing start
      return some ⟨.ifMatched number yes.pattern .empty, { yes.width with least := 0 }, .plain,
        start, none⟩

end

/-- The pattern of a part.  A match that has to consume something and starts with a class or a set
is looked for where the class under the flags of the whole accepts the next character, whatever
the flags of the part are. -/
def Part.guarded (part : Part) (ascii : Bool) : Pattern Nat :=
  match part.lead with
  | none => part.pattern
  | some t =>
    let seen := t.reading ascii
    if part.width.least == 0 || seen == t then part.pattern
    else .seq (.ahead true (.one seen)) part.pattern

/-- Reads a whole pattern. -/
def whole (size : Nat) : M (Pattern Nat) := do
  refuseDangling
  let part ← alternatives (4 * size + 4) ⟨[], []⟩ true
  let s ← get
  if s.flags.contains 'a' && s.flags.contains 'u' then throw ⟨.clashingFlags, none⟩
  if s.ahead.head?.isSome then fail .unbalancedParenthesis
  match s.conditions.find? fun (n, _) => s.groups.length ≤ n with
  | some (n, position) => throw ⟨.invalidReference n, some position⟩
  | none => pure ()
  match s.unmatchable with
  | some (_, cause) => throw ⟨cause, none⟩
  | none => return part.guarded (asciiOnly s.flags)

end PatternReader

/-- Reads a written pattern. -/
def Pattern.read (text : List Char) : Except PatternFault (Pattern Nat) :=
  let start : PatternReader.State :=
    { ahead := PatternReader.tokens text, position := 0, flags := [], groups := [none], names := [],
      behind := none, conditions := [], unmatchable := none }
  ((PatternReader.whole text.length).run start).map (·.1)

end Conformance
