/-
# Patterns

A pattern describes how a text can be matched from a given place on.  Matching is ordered: an
alternative is preferred to those written after it, a greedy repetition prefers to go on and a
lazy one to stop.  Groups remember the text that they matched last, under a key; the patterns of
this project's own headers use keys of their own, patterns read from rules use numbers.
-/
import Conformance.Pattern.CharTest

namespace Conformance

/-- A condition on a place of the text. -/
inductive Anchor where
  /-- The start of the text. -/
  | textStart
  /-- The end of the text. -/
  | textEnd
  /-- The end of the text, or the place before a line feed that ends it. -/
  | lastLineEnd
  /-- The start of the text or the place after a line feed. -/
  | lineStart
  /-- The end of the text or the place before a line feed. -/
  | lineEnd
  /-- A place with a word character on exactly one side. -/
  | wordEdge (ascii : Bool)
  /-- A place with a word character on both sides or on none. -/
  | noWordEdge (ascii : Bool)
  deriving DecidableEq, Repr, Inhabited

/-- How a repetition chooses the number of rounds. -/
inductive Greed where
  /-- As many rounds as possible first. -/
  | greedy
  /-- As few rounds as possible first. -/
  | lazy
  /-- As many rounds as possible, and never fewer afterwards. -/
  | possessive
  deriving DecidableEq, Repr, Inhabited

/-- A pattern whose groups are named by keys of type `κ`. -/
inductive Pattern (κ : Type) where
  /-- The empty text. -/
  | empty
  /-- One character. -/
  | one (t : CharTest)
  /-- One pattern after another. -/
  | seq (a b : Pattern κ)
  /-- The first pattern or else the second. -/
  | alt (a b : Pattern κ)
  /-- A pattern whose match is remembered. -/
  | group (key : κ) (a : Pattern κ)
  /-- A pattern in several rounds. -/
  | rounds (a : Pattern κ) (least : Nat) (most : Option Nat) (greed : Greed)
  /-- The text that a group remembers, up to the letters that a rule takes for the same. -/
  | same (key : κ) (rule : CaseRule)
  /-- A condition on the place. -/
  | anchor (a : Anchor)
  /-- A condition on the text that follows. -/
  | ahead (holds : Bool) (a : Pattern κ)
  /-- A condition on the text of a given length that precedes. -/
  | behind (holds : Bool) (width : Nat) (a : Pattern κ)
  /-- A pattern whose first match is final. -/
  | atomic (a : Pattern κ)
  /-- The first pattern if a group has matched, else the second. -/
  | ifMatched (key : κ) (a b : Pattern κ)
  deriving DecidableEq, Repr, Inhabited

namespace Pattern

variable {κ : Type}

/-- One pattern after another, for a list. -/
def concat : List (Pattern κ) → Pattern κ
  | [] => .empty
  | [p] => p
  | p :: ps => .seq p (concat ps)

/-- The first pattern of a list that leads to a match; an empty list matches the empty text. -/
def oneOf : List (Pattern κ) → Pattern κ
  | [] => .empty
  | [p] => p
  | p :: ps => .alt p (oneOf ps)

/-- A given text. -/
def literal (cs : List Char) : Pattern κ :=
  concat (cs.map fun c => .one (.char c))

/-- A given string. -/
def word (s : String) : Pattern κ :=
  literal s.toList

/-- One of the given strings. -/
def words (ws : List String) : Pattern κ :=
  oneOf (ws.map word)

/-- Any number of rounds, as many as possible. -/
def star (p : Pattern κ) : Pattern κ :=
  .rounds p 0 none .greedy

/-- At least one round, as many as possible. -/
def plus (p : Pattern κ) : Pattern κ :=
  .rounds p 1 none .greedy

/-- Any number of rounds, as few as possible. -/
def lazyStar (p : Pattern κ) : Pattern κ :=
  .rounds p 0 none .lazy

/-- At least one round, as few as possible. -/
def lazyPlus (p : Pattern κ) : Pattern κ :=
  .rounds p 1 none .lazy

/-- One round or none, one if possible. -/
def opt (p : Pattern κ) : Pattern κ :=
  .rounds p 0 (some 1) .greedy

/-- Any number of blanks. -/
def gap : Pattern κ :=
  star (.one (.blank false))

/-- At least one blank. -/
def gap1 : Pattern κ :=
  plus (.one (.blank false))

/-- A given character. -/
def char (c : Char) : Pattern κ :=
  .one (.char c)

end Pattern
end Conformance
