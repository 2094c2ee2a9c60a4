/-
# Scopes

Which containers enclose a place of a source text is worked out from braces alone.  Braces inside
comments and string literals are counted like any other, and the depth may become negative.

Two disciplines are offered.  The *stack* keeps every container that has been entered and not been
left.  A container whose body has not opened yet survives the end of its line and is left at a
semicolon at its own depth; once open, it is left when the depth falls back to where it started.
The *single* discipline holds at most one container; it enters the first one whose header stands
at the start of a line while it holds none, and looks only at the end of a line whether to leave
it, so that a container whose brace opens on the next line is left at once.
-/
import Conformance.Source.Header

namespace Conformance.Source

/-- A container that has been entered.  A place belongs to it while the depth there is greater
than the depth at its start. -/
structure Frame where
  /-- The kind of container. -/
  kind : ContainerKind
  /-- The name of the container. -/
  name : String
  /-- The brace depth where the header starts. -/
  startDepth : Int
  /-- The number of the header's line. -/
  startLine : Nat
  /-- The column of the name. -/
  startColumn : Nat
  deriving DecidableEq, Repr, Inhabited

namespace Frame

/-- Whether a place of the given depth belongs to the container. -/
def encloses (f : Frame) (depth : Int) : Bool :=
  decide (f.startDepth < depth)

/-- The kind and name of the container. -/
def label (f : Frame) : String :=
  f.kind.word ++ " " ++ f.name

/-- The frame of a header. -/
def ofHeader (h : ContainerHeader) (depth : Int) (line : Nat) : Frame :=
  ⟨h.kind, h.name, depth, line, h.nameColumn⟩

end Frame

/-- The state from a column up to the next point on the line. -/
structure Point where
  /-- The first column of the state. -/
  column : Nat
  /-- The brace depth. -/
  depth : Int
  /-- The containers entered and not left, outermost first. -/
  frames : List Frame
  deriving DecidableEq, Repr, Inhabited

/-- The containers a point lies in, outermost first. -/
def Point.enclosing (p : Point) : List Frame :=
  p.frames.filter (·.encloses p.depth)

/-- The states along one line.  The first point is the one that the line starts with. -/
structure LineScope where
  /-- The number of the line, from one. -/
  number : Nat
  /-- The line. -/
  text : String
  /-- The depth before the line. -/
  depthBefore : Int
  /-- The depth after the line. -/
  depthAfter : Int
  /-- The point at column zero that the line inherits. -/
  first : Point
  /-- The further points, in order. -/
  more : List Point
  deriving DecidableEq, Repr, Inhabited

namespace LineScope

/-- All points of the line. -/
def points (s : LineScope) : List Point :=
  s.first :: s.more

/-- The last of the points before the first one beyond a column; the given one if there is
none. -/
def lastUpTo (column : Int) : Point → List Point → Point
  | current, [] => current
  | current, p :: ps => if column < p.column then current else lastUpTo column p ps

/-- The point that holds at a column; the first point to the left of the line. -/
def pointAt (s : LineScope) (column : Int) : Point :=
  if column < s.first.column then s.first else lastUpTo column s.first s.more

/-- The depth at a column. -/
def depthAt (s : LineScope) (column : Int) : Int :=
  (s.pointAt column).depth

/-- The containers that enclose a column, outermost first. -/
def enclosingAt (s : LineScope) (column : Int) : List Frame :=
  (s.pointAt column).enclosing

/-- The innermost container that encloses a column. -/
def containerAt (s : LineScope) (column : Int) : Option Frame :=
  (s.enclosingAt column).getLast?

end LineScope

/-- A container is entered or left. -/
inductive ScopeEvent where
  /-- A container is entered on a line. -/
  | enter (frame : Frame) (line : Nat)
  /-- A container is left on a line. -/
  | exit (frame : Frame) (line : Nat)
  deriving DecidableEq, Repr, Inhabited

/-- How containers are followed. -/
inductive ScopeMode where
  /-- Every container entered and not left. -/
  | stack
  /-- At most one container. -/
  | single
  deriving DecidableEq, Repr, Inhabited

/-- The word for a mode. -/
def ScopeMode.word : ScopeMode → String
  | .stack => "stack"
  | .single => "single"

/-- The modes, in the order in which they are listed. -/
def ScopeMode.all : List ScopeMode :=
  [.stack, .single]

/-- The mode with a given word. -/
def ScopeMode.ofWord? (w : String) : Option ScopeMode :=
  ScopeMode.all.find? (·.word == w)

/-- Which containers are followed. -/
abbrev ContainerFilter := ContainerKind → String → Bool

/-- How to follow containers: the mode, and which of them; all of them without a filter. -/
structure Tracker where
  /-- The mode. -/
  mode : ScopeMode
  /-- The containers that are followed. -/
  filter : Option ContainerFilter

namespace Tracker

/-- Follows every container on a stack. -/
def full : Tracker :=
  ⟨.stack, none⟩

/-- Whether a container is followed. -/
def follows (t : Tracker) (h : ContainerHeader) : Bool :=
  match t.filter with
  | none => true
  | some f => f h.kind h.name

end Tracker

/-- The scopes of the lines of a text, and the events in their order. -/
structure Trace where
  /-- One scope for each line. -/
  scopes : List LineScope
  /-- The events. -/
  events : List ScopeEvent
  deriving Repr, Inhabited

/-- The scope of a line.  Lines are counted from one; zero and the numbers below it count back from
the last line. -/
def Trace.scopeOf? (t : Trace) (line : Int) : Option LineScope :=
  let place := if line < 1 then line - 1 + t.scopes.length else line - 1
  if place < 0 then none else t.scopes[place.toNat]?

/-! ## The stack -/

/-- A container on the stack, and whether its body has opened. -/
structure OpenFrame where
  /-- The container. -/
  frame : Frame
  /-- Whether its body has opened. -/
  opened : Bool
  deriving DecidableEq, Repr, Inhabited

/-- The state of the stack discipline between two characters. -/
structure StackState where
  /-- The brace depth. -/
  depth : Int
  /-- The containers, innermost first. -/
  stack : List OpenFrame
  deriving DecidableEq, Repr, Inhabited

namespace StackState

/-- The state before the first line. -/
def initial : StackState :=
  ⟨0, []⟩

/-- The containers, outermost first. -/
def frames (s : StackState) : List Frame :=
  (s.stack.map (·.frame)).reverse

/-- The state as a point. -/
def pointAt (s : StackState) (column : Nat) : Point :=
  ⟨column, s.depth, s.frames⟩

/-- Enters a container. -/
def enter (s : StackState) (f : Frame) : StackState :=
  { s with stack := ⟨f, false⟩ :: s.stack }

/-- Marks the innermost container as open if its body opens at the given depth. -/
def openTop (depth : Int) : List OpenFrame → List OpenFrame
  | [] => []
  | f :: fs => if !f.opened && f.frame.startDepth == depth then { f with opened := true } :: fs
    else f :: fs

/-- A container that is left when the depth falls to the given one. -/
def closes (depth : Int) (f : OpenFrame) : Bool :=
  decide (depth ≤ f.frame.startDepth)

/-- A container whose body has not opened and that a semicolon at the given depth ends. -/
def ends (depth : Int) (f : OpenFrame) : Bool :=
  !f.opened && f.frame.startDepth == depth

/-- Leaves the innermost containers that satisfy a test, up to the first that does not. -/
def leave (test : OpenFrame → Bool) (s : StackState) : StackState × List Frame :=
  ({ s with stack := s.stack.dropWhile test }, (s.stack.takeWhile test).map (·.frame))

/-- What a character does: the new state and the containers that are left, innermost first. -/
def onChar (s : StackState) (c : Char) : StackState × List Frame :=
  if c == '{' then (⟨s.depth + 1, openTop s.depth s.stack⟩, [])
  else if c == '}' then leave (closes (s.depth - 1)) { s with depth := s.depth - 1 }
  else if c == ';' then leave (ends s.depth) s
  else (s, [])

/-- Whether a character adds a point after it. -/
def marks (c : Char) : Bool :=
  c == '{' || c == '}' || c == ';'

end StackState

/-- What a run over characters has produced: the state at its end, and points and events. -/
structure StackRun where
  /-- The state at the end. -/
  state : StackState
  /-- The points, in order. -/
  points : List Point
  /-- The events, in order. -/
  events : List ScopeEvent
  deriving Repr, Inhabited

namespace StackRun

/-- Enters the container whose header starts at a column, if one does. -/
def enterAt (headers : List ContainerHeader) (number column : Nat) (s : StackState) : StackRun :=
  match headers.find? (·.column == column) with
  | none => ⟨s, [], []⟩
  | some h =>
    let f := Frame.ofHeader h s.depth number
    let s' := s.enter f
    ⟨s', [s'.pointAt column], [.enter f number]⟩

/-- Reads one character: enters a container that starts there, then does what the character
does. -/
def step (headers : List ContainerHeader) (number column : Nat) (s : StackState) (c : Char) :
    StackRun :=
  let entered := enterAt headers number column s
  let (s', left) := entered.state.onChar c
  ⟨s', entered.points ++ (if StackState.marks c then [s'.pointAt (column + 1)] else []),
    entered.events ++ left.map (.exit · number)⟩

/-- Reads the characters of a line from a column on. -/
def line (headers : List ContainerHeader) (number : Nat) :
    (column : Nat) → StackState → List Char → StackRun
  | _, s, [] => ⟨s, [], []⟩
  | column, s, c :: cs =>
    let one := step headers number column s c
    let rest := line headers number (column + 1) one.state cs
    ⟨rest.state, one.points ++ rest.points, one.events ++ rest.events⟩

end StackRun

/-- The headers on a line of the containers that are followed. -/
def Tracker.headers (t : Tracker) (line : List Char) : List ContainerHeader :=
  (containerHeaders line).filter t.follows

/-- Follows containers on a stack through lines, the first of which has the given number.  What is
still entered at the end is left on the last line. -/
def Tracker.stackFrom (t : Tracker) (total : Nat) :
    (number : Nat) → StackState → List String → Trace
  | _, s, [] => ⟨[], s.stack.map fun f => .exit f.frame total⟩
  | number, s, text :: rest =>
    let chars := text.toList
    let run := StackRun.line (t.headers chars) number 0 s chars
    let scope : LineScope :=
      ⟨number, text, s.depth, run.state.depth, s.pointAt 0, run.points⟩
    let trace := stackFrom t total (number + 1) run.state rest
    ⟨scope :: trace.scopes, run.events ++ trace.events⟩

/-! ## The single container -/

/-- The change of depth at a character. -/
def braceStep (depth : Int) (c : Char) : Int :=
  if c == '{' then depth + 1 else if c == '}' then depth - 1 else depth

/-- The points of a line whose containers do not change along it. -/
def bracePoints (frames : List Frame) : (column : Nat) → (depth : Int) → List Char → List Point
  | _, _, [] => []
  | column, depth, c :: cs =>
    let depth' := braceStep depth c
    let rest := bracePoints frames (column + 1) depth' cs
    if c == '{' || c == '}' then ⟨column + 1, depth', frames⟩ :: rest else rest

/-- The first container that is followed and whose header starts the line. -/
def Tracker.lineStartFrame? (t : Tracker) (number : Nat) (depth : Int) (line : List Char) :
    Option Frame :=
  ((containerHeaders line).find? fun h => h.visibility.isSome && t.follows h).map
    (Frame.ofHeader · depth number)

/-- Follows at most one container through lines, the first of which has the given number. -/
def Tracker.singleFrom (t : Tracker) (total : Nat) :
    (number : Nat) → (depth : Int) → Option Frame → List String → Trace
  | _, _, none, [] => ⟨[], []⟩
  | _, _, some f, [] => ⟨[], [.exit f total]⟩
  | number, depth, active, text :: rest =>
    let chars := text.toList
    let entered := if active.isSome then none else t.lineStartFrame? number depth chars
    let held := active.or entered
    let frames := held.toList
    let depth' := chars.foldl braceStep depth
    let scope : LineScope :=
      ⟨number, text, depth, depth', ⟨0, depth, frames⟩, bracePoints frames 0 depth chars⟩
    let left := held.filter fun f => !f.encloses depth'
    let trace := singleFrom t total (number + 1) depth' (if left.isSome then none else held) rest
    ⟨scope :: trace.scopes,
      entered.toList.map (.enter · number) ++ left.toList.map (.exit · number) ++ trace.events⟩

/-- Follows containers through the lines of a text. -/
def Tracker.track (t : Tracker) (lines : List String) : Trace :=
  match t.mode with
  | .stack => t.stackFrom lines.length 1 .initial lines
  | .single => t.singleFrom lines.length 1 0 none lines

end Conformance.Source
