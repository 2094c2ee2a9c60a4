/-
# Matching a pattern

A cursor is a place in a text: what lies before it, read backwards, and what lies after it, with the
number of characters after it, which tells at once whether anything was consumed between two places.
`Pattern.run` walks a pattern from a cursor and hands every way to match it, in order of
preference, to a continuation, until the continuation succeeds.  It is total: it recurses on the
pattern, and a repetition stops after a round that consumed nothing, so it takes at most one
round more than there are characters left.
-/
import Conformance.Pattern.Basic

namespace Conformance

/-- A place in a text. -/
structure Cursor where
  /-- The text before the place, read backwards. -/
  before : List Char
  /-- The text after the place. -/
  after : List Char
  /-- The number of characters after the place. -/
  left : Nat := after.length
  /-- The number is that of the text. -/
  left_eq : left = after.length := by rfl
  deriving DecidableEq, Repr

namespace Cursor

/-- A place is fixed by the text before it and the text after it. -/
@[ext] theorem ext {c d : Cursor} (before : c.before = d.before) (after : c.after = d.after) :
    c = d := by
  obtain ⟨b, a, l, h⟩ := c
  obtain ⟨b', a', l', h'⟩ := d
  simp only at before after
  subst before after
  simp only [h, h']

/-- The start of a text. -/
def start (text : List Char) : Cursor :=
  { before := [], after := text }

instance : Inhabited Cursor :=
  ⟨start []⟩

/-- The place behind the next character. -/
def advance (c : Cursor) {x : Char} {rest : List Char} (h : c.after = x :: rest) : Cursor where
  before := x :: c.before
  after := rest
  left := c.left - 1
  left_eq := by simp [c.left_eq, h]

/-- The place behind the next character, if there is one. -/
def next? (c : Cursor) : Option Cursor :=
  match h : c.after with
  | [] => none
  | _ :: _ => some (c.advance h)

/-- The number of characters before the place. -/
def column (c : Cursor) : Nat :=
  c.before.length

/-- The place before the last character, if there is one. -/
def previous? (c : Cursor) : Option Cursor :=
  match c.before with
  | [] => none
  | x :: before => some ⟨before, x :: c.after, c.left + 1, by simp [c.left_eq]⟩

/-- The place `n` characters further back. -/
def back? : Nat → Cursor → Option Cursor
  | 0, c => some c
  | n + 1, c => c.previous?.bind (back? n)

/-- The text between an earlier place and this one. -/
def textSince (c start : Cursor) : List Char :=
  start.after.take (start.left - c.left)

/-- Whether the first character of a list is a word character. -/
def headIsWord (ascii : Bool) : List Char → Bool
  | [] => false
  | x :: _ => (CharTest.word ascii).accepts x

/-- Whether exactly one side of the place is a word character. -/
def atWordEdge (c : Cursor) (ascii : Bool) : Bool :=
  headIsWord ascii c.before != headIsWord ascii c.after

/-- Whether the text is empty. -/
def inEmptyText (c : Cursor) : Bool :=
  c.before.isEmpty && c.after.isEmpty

/-- Whether a condition holds at the place.  An empty text has no word edges, and no places
without one either. -/
def satisfies (c : Cursor) : Anchor → Bool
  | .textStart => c.before.isEmpty
  | .textEnd => c.after.isEmpty
  | .lastLineEnd => c.after.isEmpty || c.after == ['\n']
  | .lineStart => c.before.isEmpty || c.before.head? == some '\n'
  | .lineEnd => c.after.isEmpty || c.after.head? == some '\n'
  | .wordEdge ascii => !c.inEmptyText && c.atWordEdge ascii
  | .noWordEdge ascii => !c.inEmptyText && !c.atWordEdge ascii

end Cursor

/-- What a group remembers: the places where its match starts and ends. -/
structure Capture where
  /-- The start. -/
  start : Cursor
  /-- The end. -/
  stop : Cursor
  deriving DecidableEq, Repr, Inhabited

namespace Capture

/-- The column of the first character. -/
def column (c : Capture) : Nat :=
  c.start.column

/-- The matched text. -/
def text (c : Capture) : List Char :=
  c.stop.textSince c.start

end Capture

/-- A place reached while matching, with what the groups remember, the latest first. -/
structure Progress (κ : Type) where
  /-- The place. -/
  cursor : Cursor
  /-- What the groups remember. -/
  captures : List (κ × Capture)
  deriving Repr, Inhabited

namespace Progress

variable {κ : Type}

/-- What a group remembers. -/
def capture? [DecidableEq κ] (s : Progress κ) (key : κ) : Option Capture :=
  (s.captures.find? fun e => decide (e.1 = key)).map (·.2)

/-- Remembers the text since an earlier place. -/
def remember (s : Progress κ) (key : κ) (start : Cursor) : Progress κ :=
  { s with captures := (key, ⟨start, s.cursor⟩) :: s.captures }

/-- Moves to a place, keeping what the groups remember. -/
def moveTo (s : Progress κ) (c : Cursor) : Progress κ :=
  { s with cursor := c }

/-- Reads one character that a test accepts. -/
def step? (s : Progress κ) (t : CharTest) : Option (Progress κ) :=
  match h : s.cursor.after with
  | [] => none
  | x :: _ => if t.accepts x then some (s.moveTo (s.cursor.advance h)) else none

/-- Reads a given text, up to the case of letters. -/
def read? (rule : CaseRule) : List Char → Progress κ → Option (Progress κ)
  | [], s => some s
  | x :: xs, s =>
    match h : s.cursor.after with
    | [] => none
    | y :: _ =>
      if rule.same x y then read? rule xs (s.moveTo (s.cursor.advance h)) else none

end Progress

namespace Pattern

variable {κ : Type}

/-- What is left to do after a part of a pattern has matched. -/
abbrev Continuation (κ : Type) := Progress κ → Option (Progress κ)

/-- A matcher: given a place and what is left to do, the first way to do both. -/
abbrev Matcher (κ : Type) := Progress κ → Continuation κ → Option (Progress κ)

/-- Exactly `n` rounds of a matcher. -/
def exactly (m : Matcher κ) : Nat → Matcher κ
  | 0, s, k => k s
  | n + 1, s, k => m s fun s' => exactly m n s' k

/-- At most `n` rounds, as many as possible; a round that consumed nothing is the last. -/
def greedily (m : Matcher κ) : Nat → Matcher κ
  | 0, s, k => k s
  | n + 1, s, k =>
    match m s fun s' =>
      if s'.cursor.left == s.cursor.left then k s' else greedily m n s' k with
    | some r => some r
    | none => k s

/-- At most `n` rounds, as few as possible; a round that consumed nothing is the last. -/
def lazily (m : Matcher κ) : Nat → Matcher κ
  | 0, s, k => k s
  | n + 1, s, k =>
    match k s with
    | some r => some r
    | none => m s fun s' =>
      if s'.cursor.left == s.cursor.left then k s' else lazily m n s' k

/-- The first way to match, and no other. -/
def firstOnly (m : Matcher κ) : Matcher κ := fun s k =>
  match m s some with
  | some s' => k s'
  | none => none

/-- The number of optional rounds that can matter: the bound of the pattern, or one more than
the characters left. -/
def optionalRounds (s : Progress κ) (least : Nat) : Option Nat → Nat
  | some most => min (most - least) (s.cursor.left + 1)
  | none => s.cursor.left + 1

/-- The rounds of a repetition: the least number, and then optional ones. -/
def repeatedly (m : Matcher κ) (least : Nat) (most : Option Nat) : Greed → Matcher κ
  | .greedy, s, k =>
    exactly m least s fun s' => greedily m (optionalRounds s' least most) s' k
  | .lazy, s, k =>
    exactly m least s fun s' => lazily m (optionalRounds s' least most) s' k
  | .possessive, s, k =>
    exactly (firstOnly m) least s fun s' =>
      firstOnly (greedily (firstOnly m) (optionalRounds s' least most)) s' k

variable [DecidableEq κ]

/-- Walks a pattern from a place and hands each way to match it to a continuation, in order of
preference, until the continuation succeeds. -/
def run : Pattern κ → Matcher κ
  | .empty, s, k => k s
  | .one t, s, k =>
    match s.step? t with
    | some s' => k s'
    | none => none
  | .seq a b, s, k => run a s fun s' => run b s' k
  | .alt a b, s, k =>
    match run a s k with
    | some r => some r
    | none => run b s k
  | .group key a, s, k => run a s fun s' => k (s'.remember key s.cursor)
  | .rounds a least most greed, s, k =>
    repeatedly (fun s k => run a s k) least most greed s k
  | .same key rule, s, k =>
    match s.capture? key with
    | none => none
    | some c =>
      match s.read? rule c.text with
      | some s' => k s'
      | none => none
  | .anchor a, s, k => if s.cursor.satisfies a then k s else none
  | .ahead holds a, s, k =>
    match run a s some with
    | some s' => if holds then k (s'.moveTo s.cursor) else none
    | none => if holds then none else k s
  | .behind holds width a, s, k =>
    match s.cursor.back? width with
    | none => if holds then none else k s
    | some c =>
      match run a (s.moveTo c) some with
      | some s' => if holds then k (s'.moveTo s.cursor) else none
      | none => if holds then none else k s
  | .atomic a, s, k => firstOnly (fun s k => run a s k) s k
  | .ifMatched key a b, s, k => if (s.capture? key).isSome then run a s k else run b s k

end Pattern

/-- A match: where it starts, and the place and captures at its end. -/
structure Match (κ : Type) where
  /-- Where the match starts. -/
  start : Cursor
  /-- Where the match ends, with what the groups remember. -/
  stop : Progress κ
  deriving Repr, Inhabited

namespace Match

variable {κ : Type}

/-- The column of the first character. -/
def column (m : Match κ) : Nat :=
  m.start.column

/-- The column after the last character. -/
def endColumn (m : Match κ) : Nat :=
  m.stop.cursor.column

/-- The matched text. -/
def text (m : Match κ) : List Char :=
  m.stop.cursor.textSince m.start

/-- The text after the match. -/
def rest (m : Match κ) : List Char :=
  m.stop.cursor.after

/-- Whether the match is empty. -/
def isEmpty (m : Match κ) : Bool :=
  m.start.left == m.stop.cursor.left

/-- What a group remembers. -/
def capture? [DecidableEq κ] (m : Match κ) (key : κ) : Option Capture :=
  m.stop.capture? key

/-- The text that a group remembers. -/
def captured? [DecidableEq κ] (m : Match κ) (key : κ) : Option String :=
  (m.capture? key).map fun c => String.ofList c.text

end Match

namespace Pattern

variable {κ : Type} [DecidableEq κ]

/-- The preferred match that starts at a place; an empty one is refused if `consuming` is set. -/
def matchAt? (p : Pattern κ) (consuming : Bool) (c : Cursor) : Option (Match κ) :=
  (p.run ⟨c, []⟩ fun s =>
    if consuming && s.cursor.left == c.left then none else some s).map (⟨c, ·⟩)

/-- The preferred match at the start of a text. -/
def matchStart? (p : Pattern κ) (text : List Char) : Option (Match κ) :=
  p.matchAt? false (Cursor.start text)

/-- The first match from a place on, trying one place more than there are characters in a list.  An
empty match at the very place is refused if `consuming` is set. -/
def searchAlong? (p : Pattern κ) (consuming : Bool) : List Char → Cursor → Option (Match κ)
  | [], c => p.matchAt? consuming c
  | _ :: rest, c =>
    match p.matchAt? consuming c with
    | some m => some m
    | none => c.next?.bind (searchAlong? p false rest)

/-- The first match from a place on.  An empty match at the very place is refused if `consuming` is
set. -/
def searchFrom? (p : Pattern κ) (consuming : Bool) (c : Cursor) : Option (Match κ) :=
  p.searchAlong? consuming c.after c

/-- The first match in a text. -/
def search? (p : Pattern κ) (text : List Char) : Option (Match κ) :=
  p.searchFrom? false (Cursor.start text)

/-- Whether a text holds a match. -/
def occursIn (p : Pattern κ) (text : String) : Bool :=
  (p.search? text.toList).isSome

/-- Matches one after another from a place on: each starts where the last one ended, and an empty
match is not followed by another empty one at its place. -/
def allFrom (p : Pattern κ) : (fuel : Nat) → (consuming : Bool) → Cursor → List (Match κ)
  | 0, _, _ => []
  | fuel + 1, consuming, c =>
    match p.searchFrom? consuming c with
    | none => []
    | some m => m :: allFrom p fuel m.isEmpty m.stop.cursor

/-- All matches in a text that do not overlap, from left to right.  Every two of them move on by
a character, which bounds their number. -/
def all (p : Pattern κ) (text : List Char) : List (Match κ) :=
  p.allFrom (2 * text.length + 2) false (Cursor.start text)

/-- The parts of a text outside the given matches, from a place on. -/
def outside (c : Cursor) : List (Match κ) → List Char
  | [] => c.after
  | m :: ms => m.start.textSince c ++ outside m.stop.cursor ms

/-- The text without its matches. -/
def removeFrom (p : Pattern κ) (text : List Char) : List Char :=
  outside (Cursor.start text) (p.all text)

end Pattern
end Conformance
