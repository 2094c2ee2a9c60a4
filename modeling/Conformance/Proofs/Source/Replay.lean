/-
# Replaying the events

A trace has two outputs: the states along the lines, and the events at which containers are entered
and left.  The second gives the first back.  Replayed on a stack, where entering pushes a container
and leaving pops the top, the events of the lines before a line lead to the containers with which
that line starts; all events together lead to the empty stack, however the braces of the text are
balanced.

What holds of the events of one line (`OnLine`) is joined, line after line, to what holds of the
events of a text (`Bracketed`).  The main statement is `events_replay`.
-/
import Conformance.Proofs.Source.History

namespace Conformance.Source

namespace ScopeEvent

/-- The line of an event. -/
def line : ScopeEvent → Nat
  | enter _ n => n
  | exit _ n => n

/-- The container that is entered or left. -/
def frame : ScopeEvent → Frame
  | enter f _ => f
  | exit f _ => f

/-- The container that is entered, if one is. -/
def entered? : ScopeEvent → Option Frame
  | enter f _ => some f
  | exit _ _ => none

/-- Replays events on a stack of containers, innermost first.  Entering pushes a container; leaving
must name the top of the stack and pops it. -/
def replay : List Frame → List ScopeEvent → Option (List Frame)
  | stack, [] => some stack
  | stack, enter f _ :: es => replay (f :: stack) es
  | [], exit _ _ :: _ => none
  | g :: stack, exit f _ :: es => if f = g then replay stack es else none

lemma replay_append (stack : List Frame) (xs ys : List ScopeEvent) :
    replay stack (xs ++ ys) = (replay stack xs).bind (replay · ys) := by
  induction xs generalizing stack with
  | nil => rfl
  | cons e xs ih =>
    cases e with
    | enter f n => exact ih _
    | exit f n =>
      cases stack with
      | nil => rfl
      | cons g stack =>
        simp only [List.cons_append, replay]
        split
        · exact ih _
        · rfl

/-- What lies on top of a stack is left from the top down. -/
lemma replay_exits (fs stack : List Frame) (n : Nat) :
    replay (fs ++ stack) (fs.map (exit · n)) = some stack := by
  induction fs with
  | nil => rfl
  | cons f fs ih =>
    rw [List.cons_append, List.map_cons, replay, if_pos rfl]
    exact ih

lemma filterMap_entered?_exits (fs : List Frame) (n : Nat) :
    (fs.map (exit · n)).filterMap entered? = [] := by
  rw [List.filterMap_map, List.filterMap_eq_nil_iff]
  intro f _
  rfl

end ScopeEvent

open ScopeEvent

/-! ## The events of a line and of a text -/

/-- The events of one line lead from a stack to another. -/
structure OnLine (number : Nat) (stack stack' : List Frame) (events : List ScopeEvent) : Prop where
  /-- The replay gives the other stack. -/
  replay_eq : replay stack events = some stack'
  /-- All events are on the line. -/
  line_eq : ∀ e ∈ events, e.line = number
  /-- A container is entered on the line of its header. -/
  enter_line : ∀ e ∈ events, ∀ f, e.entered? = some f → e.line = f.startLine

lemma OnLine.append {number : Nat} {a b c : List Frame} {xs ys : List ScopeEvent}
    (hxs : OnLine number a b xs) (hys : OnLine number b c ys) : OnLine number a c (xs ++ ys) := by
  refine ⟨?_, ?_, ?_⟩
  · rw [replay_append, hxs.replay_eq]
    exact hys.replay_eq
  · intro e he
    rcases List.mem_append.1 he with he | he
    · exact hxs.line_eq e he
    · exact hys.line_eq e he
  · intro e he
    rcases List.mem_append.1 he with he | he
    · exact hxs.enter_line e he
    · exact hys.enter_line e he

lemma onLine_nil (number : Nat) (stack : List Frame) : OnLine number stack stack [] :=
  ⟨rfl, by simp, by simp⟩

lemma onLine_enter {number : Nat} {f : Frame} (hf : f.startLine = number) (stack : List Frame) :
    OnLine number stack (f :: stack) [enter f number] := by
  refine ⟨rfl, ?_, ?_⟩
  · intro e he
    rw [List.mem_singleton.1 he]
    rfl
  · intro e he g hg
    rw [List.mem_singleton.1 he] at hg ⊢
    obtain rfl := Option.some.inj hg
    exact hf.symm

lemma onLine_exits (number : Nat) (fs stack : List Frame) :
    OnLine number (fs ++ stack) stack (fs.map (exit · number)) := by
  refine ⟨replay_exits fs stack number, ?_, ?_⟩
  · intro e he
    obtain ⟨f, -, rfl⟩ := List.mem_map.1 he
    rfl
  · intro e he g hg
    obtain ⟨f, -, rfl⟩ := List.mem_map.1 he
    exact absurd hg (by simp [entered?])

/-- Events that leave every container of a stack and all that they enter, in the order of the lines
from a first to a last one. -/
structure Bracketed (stack : List Frame) (first last : Nat) (events : List ScopeEvent) :
    Prop where
  /-- The replay succeeds and ends with the empty stack. -/
  replay_eq : replay stack events = some []
  /-- The lines do not decrease. -/
  sorted : events.Pairwise fun e e' => e.line ≤ e'.line
  /-- The lines lie between the first and the last. -/
  line_mem : ∀ e ∈ events, first ≤ e.line ∧ e.line ≤ last
  /-- A container is entered on the line of its header. -/
  enter_line : ∀ e ∈ events, ∀ f, e.entered? = some f → e.line = f.startLine

/-- The events of a line come before those of the lines behind it. -/
lemma Bracketed.prepend {number last : Nat} {stack stack' : List Frame}
    {xs ys : List ScopeEvent} (hxs : OnLine number stack stack' xs) (hlast : number ≤ last)
    (hys : Bracketed stack' (min (number + 1) last) last ys) :
    Bracketed stack (min number last) last (xs ++ ys) := by
  have hge : ∀ e ∈ ys, number ≤ e.line := by
    intro e he
    have := (hys.line_mem e he).1
    omega
  refine ⟨?_, ?_, ?_, ?_⟩
  · rw [replay_append, hxs.replay_eq]
    exact hys.replay_eq
  · refine List.pairwise_append.2 ⟨?_, hys.sorted, ?_⟩
    · refine List.Pairwise.imp_of_mem ?_ (List.pairwise_of_forall (R := fun _ _ => True) ?_)
      · intro e e' he he' _
        rw [hxs.line_eq e he, hxs.line_eq e' he']
      · exact fun _ _ => trivial
    · intro e he e' he'
      rw [hxs.line_eq e he]
      exact hge e' he'
  · intro e he
    rcases List.mem_append.1 he with he | he
    · rw [hxs.line_eq e he]
      omega
    · have := hge e he
      have := (hys.line_mem e he).2
      omega
  · intro e he
    rcases List.mem_append.1 he with he | he
    · exact hxs.enter_line e he
    · exact hys.enter_line e he

/-- At the end of a text, what is still on the stack is left on the last line. -/
lemma bracketed_exits (fs : List Frame) (last : Nat) :
    Bracketed fs (min (last + 1) last) last (fs.map (exit · last)) := by
  have hline := onLine_exits last fs []
  rw [List.append_nil] at hline
  refine ⟨hline.replay_eq, ?_, ?_, hline.enter_line⟩
  · rw [List.pairwise_map]
    exact List.pairwise_of_forall fun _ _ => le_refl _
  · intro e he
    rw [hline.line_eq e he]
    omega

/-! ## The stack -/

namespace StackState

lemma frames_reverse (s : StackState) : s.frames.reverse = s.stack.map (·.frame) := by
  rw [frames, List.reverse_reverse]

lemma onLine_leave (number : Nat) (test : OpenFrame → Bool) (s : StackState) :
    OnLine number s.frames.reverse (leave test s).1.frames.reverse
      ((leave test s).2.map (exit · number)) := by
  have hsplit : s.frames.reverse
      = (s.stack.takeWhile test).map (·.frame) ++ (s.stack.dropWhile test).map (·.frame) := by
    rw [← List.map_append, List.takeWhile_append_dropWhile, frames_reverse]
  rw [hsplit, frames_reverse]
  exact onLine_exits number _ _

lemma onLine_onChar (number : Nat) (s : StackState) (c : Char) :
    OnLine number s.frames.reverse (s.onChar c).1.frames.reverse
      ((s.onChar c).2.map (exit · number)) := by
  unfold onChar
  split
  · -- an opening brace marks the top, and leaves nothing
    have hframes : (StackState.mk (s.depth + 1) (openTop s.depth s.stack)).frames = s.frames := by
      rw [frames, frames, map_frame_openTop]
    rw [hframes]
    exact onLine_nil number _
  · split
    · exact onLine_leave number (closes (s.depth - 1)) { s with depth := s.depth - 1 }
    · split
      · exact onLine_leave number (ends s.depth) s
      · exact onLine_nil number _

end StackState

namespace StackRun

variable (headers : List ContainerHeader) (number : Nat)

lemma onLine_enterAt (column : Nat) (s : StackState) :
    OnLine number s.frames.reverse (enterAt headers number column s).state.frames.reverse
      (enterAt headers number column s).events := by
  unfold enterAt
  split
  · exact onLine_nil number _
  · rename_i h _
    dsimp only
    rw [StackState.frames_enter, List.reverse_append]
    exact onLine_enter (f := Frame.ofHeader h s.depth number) rfl _

lemma onLine_step (column : Nat) (s : StackState) (c : Char) :
    OnLine number s.frames.reverse (step headers number column s c).state.frames.reverse
      (step headers number column s c).events :=
  (onLine_enterAt headers number column s).append (StackState.onLine_onChar number _ c)

/-- The events of a line lead from the state before it to the state after it. -/
lemma onLine_line (column : Nat) (s : StackState) (cs : List Char) :
    OnLine number s.frames.reverse (line headers number column s cs).state.frames.reverse
      (line headers number column s cs).events := by
  induction cs generalizing column s with
  | nil => exact onLine_nil number _
  | cons c cs ih => exact (onLine_step headers number column s c).append (ih _ _)

end StackRun

namespace Tracker

variable (t : Tracker)

lemma bracketed_stackFrom {total number : Nat} (s : StackState) {lines : List String}
    (hnumber : number + lines.length = total + 1) :
    Bracketed s.frames.reverse (min number total) total
      (t.stackFrom total number s lines).events := by
  induction lines generalizing number s with
  | nil =>
    obtain rfl : number = total + 1 := by simpa using hnumber
    have hexits : (t.stackFrom total (total + 1) s []).events
        = s.frames.reverse.map (exit · total) := by
      rw [StackState.frames_reverse, List.map_map]
      rfl
    rw [hexits]
    exact bracketed_exits _ total
  | cons text rest ih =>
    have hlen : number + 1 + rest.length = total + 1 := by
      rw [List.length_cons] at hnumber
      omega
    exact Bracketed.prepend (StackRun.onLine_line _ number 0 s _) (by omega) (ih _ hlen)

lemma numbers_stackFrom (total number : Nat) (s : StackState) (lines : List String) :
    (t.stackFrom total number s lines).scopes.map (·.number) = List.range' number lines.length := by
  induction lines generalizing number s with
  | nil => rfl
  | cons text rest ih =>
    rw [List.length_cons, List.range'_succ, ← ih (number + 1)]
    rfl

/-- The events of the lines before a line lead to the containers with which it starts. -/
lemma replay_before_stackFrom {total number : Nat} (s : StackState) {lines : List String}
    (hnumber : number + lines.length = total + 1) {scope : LineScope}
    (hscope : scope ∈ (t.stackFrom total number s lines).scopes) :
    replay s.frames.reverse ((t.stackFrom total number s lines).events.filter
        fun e => decide (e.line < scope.number)) = some scope.first.frames.reverse := by
  induction lines generalizing number s with
  | nil => exact absurd hscope (by simp [stackFrom])
  | cons text rest ih =>
    have hlen : number + 1 + rest.length = total + 1 := by
      rw [List.length_cons] at hnumber
      omega
    rcases List.mem_cons.1 hscope with rfl | hscope
    · -- no event comes before the first line
      have hall := (bracketed_stackFrom t s hnumber).line_mem
      have hnone : (t.stackFrom total number s (text :: rest)).events.filter
          (fun e => decide (e.line < number)) = [] := by
        rw [List.filter_eq_nil_iff]
        intro e he
        have := (hall e he).1
        simp only [decide_eq_true_eq]
        omega
      simp only [hnone]
      rfl
    · have hline := StackRun.onLine_line (t.headers text.toList) number 0 s text.toList
      have hlater : number < scope.number := by
        have hmem : scope.number ∈ List.range' (number + 1) rest.length := by
          rw [← numbers_stackFrom t total (number + 1)
            (StackRun.line (t.headers text.toList) number 0 s text.toList).state rest]
          exact List.mem_map_of_mem hscope
        have := (List.mem_range'_1.1 hmem).1
        omega
      have hhead : (StackRun.line (t.headers text.toList) number 0 s text.toList).events.filter
          (fun e => decide (e.line < scope.number))
          = (StackRun.line (t.headers text.toList) number 0 s text.toList).events := by
        refine List.filter_eq_self.2 ?_
        intro e he
        rw [hline.line_eq e he]
        exact decide_eq_true hlater
      have hevents : (t.stackFrom total number s (text :: rest)).events
          = (StackRun.line (t.headers text.toList) number 0 s text.toList).events ++
            (t.stackFrom total (number + 1)
              (StackRun.line (t.headers text.toList) number 0 s text.toList).state rest).events :=
        rfl
      rw [hevents, List.filter_append, hhead, replay_append, hline.replay_eq]
      exact ih _ hlen hscope

end Tracker

/-! ## The containers that are entered -/

lemma braceDepth_append (u v : List Char) : braceDepth (u ++ v) = braceDepth u + braceDepth v := by
  simp only [braceDepth, List.count_append]
  omega

/-- The braces of a text change every depth alike. -/
lemma foldl_braceStep (depth : Int) (u : List Char) :
    u.foldl braceStep depth = depth + braceDepth u := by
  induction u generalizing depth with
  | nil => simp [braceDepth]
  | cons c u ih =>
    have hone : braceStep depth c = depth + braceDepth [c] := by
      by_cases hopen : c = '{'
      · subst hopen
        rfl
      · by_cases hclose : c = '}'
        · subst hclose
          rfl
        · simp [braceStep, braceDepth, hopen, hclose]
    rw [List.foldl_cons, ih, hone, Int.add_assoc, ← braceDepth_append]
    rfl

/-- Of items in strictly increasing order, those from a bound on are the one at it and those above
it. -/
lemma filter_ge_eq_find?_append {α : Type} (f : α → Nat) {l : List α}
    (h : l.Pairwise fun a b => f a < f b) (n : Nat) :
    l.filter (fun a => n ≤ f a) =
      (l.find? fun a => f a == n).toList ++ l.filter (fun a => n < f a) := by
  induction l with
  | nil => rfl
  | cons a l ih =>
    obtain ⟨ha, hl⟩ := List.pairwise_cons.1 h
    rcases Nat.lt_or_ge (f a) n with hlt | hge
    · have hne : (f a == n) = false := by simp; omega
      have h₁ : ¬ n ≤ f a := by omega
      have h₂ : ¬ n < f a := by omega
      simp [h₁, h₂, hne, ih hl]
    · -- all later items are above the bound
      have habove : l.filter (fun b => n < f b) = l := by
        refine List.filter_eq_self.2 fun b hb => decide_eq_true ?_
        have := ha b hb
        omega
      have hfrom : l.filter (fun b => n ≤ f b) = l := by
        refine List.filter_eq_self.2 fun b hb => decide_eq_true ?_
        have := ha b hb
        omega
      rcases Nat.eq_or_lt_of_le hge with heq | hgt
      · simp [← heq, habove, hfrom]
      · have hne : (f a == n) = false := by simp; omega
        have hfind : l.find? (fun b => f b == n) = none := by
          rw [List.find?_eq_none]
          intro b hb
          have := ha b hb
          simp
          omega
        simp [hge, hgt, hne, hfind, habove, hfrom]

namespace StackRun

variable {headers : List ContainerHeader} (number : Nat)

lemma enterAt_depth (headers : List ContainerHeader) (column : Nat) (s : StackState) :
    (enterAt headers number column s).state.depth = s.depth := by
  unfold enterAt
  split <;> rfl

lemma step_depth (headers : List ContainerHeader) (column : Nat) (s : StackState) (c : Char) :
    (step headers number column s c).state.depth = braceStep s.depth c := by
  rw [← enterAt_depth number headers column s]
  exact StackState.onChar_depth _ c

lemma line_depth (headers : List ContainerHeader) (column : Nat) (s : StackState)
    (cs : List Char) :
    (line headers number column s cs).state.depth = cs.foldl braceStep s.depth := by
  induction cs generalizing column s with
  | nil => rfl
  | cons c cs ih =>
    rw [List.foldl_cons, ← step_depth number headers column s c]
    exact ih _ _

lemma entered_enterAt (column : Nat) (s : StackState) :
    (enterAt headers number column s).events.filterMap entered?
      = (headers.find? (·.column == column)).toList.map
        (Frame.ofHeader · s.depth number) := by
  unfold enterAt
  cases headers.find? (·.column == column) <;> rfl

/-- On a line, the containers of the headers ahead are entered, at the depths of the text before
them.  The induction is on what is left of the line; `read` is what has been read of it. -/
lemma entered_line (hord : headers.Pairwise fun h h' => h.column < h'.column)
    {before chars read rest : List Char} (hchars : chars = read ++ rest)
    (hlt : ∀ h ∈ headers, h.column < chars.length) {s : StackState}
    (hdepth : s.depth = braceDepth (before ++ read)) :
    (line headers number read.length s rest).events.filterMap entered?
      = (headers.filter (fun h => read.length ≤ h.column)).map
        fun h => (entered number before chars h).frame := by
  induction rest generalizing read s with
  | nil =>
    have hnone : headers.filter (fun h => read.length ≤ h.column) = [] := by
      rw [List.filter_eq_nil_iff]
      intro h hh
      have := hlt h hh
      rw [hchars, List.append_nil] at this
      simp
      omega
    rw [hnone]
    rfl
  | cons c rest ih =>
    have hevents : (line headers number read.length s (c :: rest)).events
        = (enterAt headers number read.length s).events ++
          ((enterAt headers number read.length s).state.onChar c).2.map (exit · number) ++
          (line headers number (read.length + 1) (step headers number read.length s c).state
            rest).events := rfl
    have hchars' : chars = (read ++ [c]) ++ rest := by simpa using hchars
    have hdepth' : (step headers number read.length s c).state.depth
        = braceDepth (before ++ (read ++ [c])) := by
      rw [step_depth, hdepth, ← List.append_assoc, braceDepth_append_singleton]
    have hnext := ih hchars' hdepth'
    rw [List.length_append, List.length_singleton] at hnext
    have hhere : ∀ h ∈ (headers.find? (·.column == read.length)).toList,
        Frame.ofHeader h s.depth number = (entered number before chars h).frame := by
      intro h hh
      have hcol : h.column = read.length := by
        simpa using List.find?_some (Option.mem_toList.1 hh)
      rw [entered, hcol, hchars, List.take_left, hdepth]
    rw [hevents, List.filterMap_append, List.filterMap_append, filterMap_entered?_exits,
      List.append_nil, hnext, entered_enterAt, List.map_congr_left hhere, ← List.map_append]
    exact congrArg _ (filter_ge_eq_find?_append ContainerHeader.column hord _).symm

end StackRun

/-- The containers of all headers are entered, one after another.  The lines are read one after
another; `done` are those that have been read. -/
lemma entered_stackFrom (t : Tracker) (total : Nat) (done rest : List String) {s : StackState}
    (hdepth : s.depth = braceDepth (done.flatMap String.toList)) :
    (t.stackFrom total (done.length + 1) s rest).events.filterMap entered?
      = ((rest.zipIdx done.length).flatMap fun (text, n) =>
          (t.headers text.toList).map (PlacedHeader.mk n)).map (·.frame (done ++ rest)) := by
  induction rest generalizing done s with
  | nil =>
    have hexits : (t.stackFrom total (done.length + 1) s []).events
        = (s.stack.map (·.frame)).map (exit · total) := by
      rw [List.map_map]
      rfl
    rw [hexits, filterMap_entered?_exits]
    rfl
  | cons text rest ih =>
    have hdone : done ++ text :: rest = (done ++ [text]) ++ rest := by simp
    have hchars : text.toList = [] ++ text.toList := rfl
    have hdepth' : s.depth = braceDepth (done.flatMap String.toList ++ []) := by
      rw [List.append_nil, hdepth]
    have hline := StackRun.entered_line (done.length + 1) (headers_pairwise t text.toList) hchars
      (fun h hh => column_lt_of_mem_headers hh) hdepth'
    have hall : (t.headers text.toList).filter (fun h => ([] : List Char).length ≤ h.column)
        = t.headers text.toList := List.filter_eq_self.2 fun h _ => by simp
    rw [hall] at hline
    have hrest := ih (done ++ [text])
      (s := (StackRun.line (t.headers text.toList) (done.length + 1) 0 s text.toList).state)
      (by rw [StackRun.line_depth, hdepth, foldl_braceStep, ← braceDepth_append]; simp)
    rw [List.length_append, List.length_singleton, ← hdone] at hrest
    have hevents : (t.stackFrom total (done.length + 1) s (text :: rest)).events
        = (StackRun.line (t.headers text.toList) (done.length + 1) 0 s text.toList).events ++
          (t.stackFrom total (done.length + 1 + 1) (StackRun.line (t.headers text.toList)
            (done.length + 1) 0 s text.toList).state rest).events := rfl
    rw [hevents, List.filterMap_append, hrest, List.zipIdx_cons, List.flatMap_cons,
      List.map_append, List.map_map]
    refine congrArg (· ++ _) (hline.trans (List.map_congr_left ?_))
    intro h _
    exact congrArg Entered.frame (entered_middle done text rest h)

/-! ## The single container -/

namespace Tracker

variable (t : Tracker)

/-- The container that is entered on a line. -/
def singleEntered (number : Nat) (depth : Int) (active : Option Frame) (chars : List Char) :
    Option Frame :=
  if active.isSome then none else t.lineStartFrame? number depth chars

/-- The container that is held along a line. -/
def singleHeld (number : Nat) (depth : Int) (active : Option Frame) (chars : List Char) :
    Option Frame :=
  active.or (t.singleEntered number depth active chars)

/-- The container that is left at the end of a line. -/
def singleLeft (number : Nat) (depth : Int) (active : Option Frame) (chars : List Char) :
    Option Frame :=
  (t.singleHeld number depth active chars).filter
    fun f => !f.encloses (chars.foldl braceStep depth)

/-- The container that is held behind a line. -/
def singleNext (number : Nat) (depth : Int) (active : Option Frame) (chars : List Char) :
    Option Frame :=
  if (t.singleLeft number depth active chars).isSome then none
  else t.singleHeld number depth active chars

/-- The events of a line. -/
def singleEvents (number : Nat) (depth : Int) (active : Option Frame) (chars : List Char) :
    List ScopeEvent :=
  (t.singleEntered number depth active chars).toList.map (enter · number) ++
    (t.singleLeft number depth active chars).toList.map (exit · number)

lemma events_singleFrom_cons (total number : Nat) (depth : Int) (active : Option Frame)
    (text : String) (rest : List String) :
    (t.singleFrom total number depth active (text :: rest)).events
      = t.singleEvents number depth active text.toList ++
        (t.singleFrom total (number + 1) (text.toList.foldl braceStep depth)
          (t.singleNext number depth active text.toList) rest).events := by
  cases active <;> rfl

lemma events_singleFrom_nil (total number : Nat) (depth : Int) (active : Option Frame) :
    (t.singleFrom total number depth active []).events = active.toList.map (exit · total) := by
  cases active <;> rfl

lemma startLine_of_lineStartFrame? {number : Nat} {depth : Int} {line : List Char} {f : Frame}
    (h : t.lineStartFrame? number depth line = some f) : f.startLine = number := by
  obtain ⟨hd, -, rfl⟩ := Option.map_eq_some_iff.1 h
  rfl

/-- What a line does to the container that is held: nothing, it is left, one is entered, or one is
entered and left at once. -/
lemma singleLine_cases (number : Nat) (depth : Int) (active : Option Frame) (chars : List Char) :
    (t.singleEvents number depth active chars = [] ∧
      t.singleNext number depth active chars = active) ∨
    (∃ f, active = some f ∧ t.singleEvents number depth active chars = [exit f number] ∧
      t.singleNext number depth active chars = none) ∨
    ∃ f, active = none ∧ f.startLine = number ∧
      ((t.singleEvents number depth active chars = [enter f number] ∧
          t.singleNext number depth active chars = some f) ∨
        (t.singleEvents number depth active chars = [enter f number, exit f number] ∧
          t.singleNext number depth active chars = none)) := by
  unfold singleNext singleEvents singleLeft singleHeld
  cases active with
  | some f =>
    by_cases hleft : f.encloses (chars.foldl braceStep depth) = true
    · exact .inl (by simp [singleEntered, hleft])
    · exact .inr (.inl ⟨f, rfl, by simp [singleEntered, hleft]⟩)
  | none =>
    cases hentered : t.lineStartFrame? number depth chars with
    | none => exact .inl (by simp [singleEntered, hentered])
    | some f =>
      refine .inr (.inr ⟨f, rfl, startLine_of_lineStartFrame? t hentered, ?_⟩)
      by_cases hleft : f.encloses (chars.foldl braceStep depth) = true
      · exact .inl (by simp [singleEntered, hentered, hleft])
      · exact .inr (by simp [singleEntered, hentered, hleft])

lemma onLine_single (number : Nat) (depth : Int) (active : Option Frame) (chars : List Char) :
    OnLine number active.toList (t.singleNext number depth active chars).toList
      (t.singleEvents number depth active chars) := by
  rcases t.singleLine_cases number depth active chars with
    ⟨hevents, hnext⟩ | ⟨f, rfl, hevents, hnext⟩ | ⟨f, rfl, hf, ⟨hevents, hnext⟩ | ⟨hevents, hnext⟩⟩
  · rw [hevents, hnext]
    exact onLine_nil number _
  · rw [hevents, hnext]
    exact onLine_exits number [f] []
  · rw [hevents, hnext]
    exact onLine_enter hf []
  · rw [hevents, hnext]
    exact (onLine_enter hf []).append (onLine_exits number [f] [])

lemma bracketed_singleFrom {total number : Nat} (depth : Int) (active : Option Frame)
    {lines : List String} (hnumber : number + lines.length = total + 1) :
    Bracketed active.toList (min number total) total
      (t.singleFrom total number depth active lines).events := by
  induction lines generalizing number depth active with
  | nil =>
    obtain rfl : number = total + 1 := by simpa using hnumber
    rw [events_singleFrom_nil]
    exact bracketed_exits _ total
  | cons text rest ih =>
    have hlen : number + 1 + rest.length = total + 1 := by
      rw [List.length_cons] at hnumber
      omega
    rw [events_singleFrom_cons]
    exact Bracketed.prepend (t.onLine_single number depth active _) (by omega) (ih _ _ hlen)

end Tracker

/-- Along the replay of events, the stack never holds more than one container. -/
def HoldsOne (stack : List Frame) (events : List ScopeEvent) : Prop :=
  ∀ es, es <+: events → ∃ fs, replay stack es = some fs ∧ fs.length ≤ 1

lemma HoldsOne.append {stack stack' : List Frame} {xs ys : List ScopeEvent}
    (hxs : HoldsOne stack xs) (hreplay : replay stack xs = some stack')
    (hys : HoldsOne stack' ys) : HoldsOne stack (xs ++ ys) := by
  intro es hes
  rcases List.prefix_or_prefix_of_prefix hes (List.prefix_append xs ys) with h | ⟨zs, rfl⟩
  · exact hxs es h
  · obtain ⟨fs, hfs, hlen⟩ := hys zs ((List.prefix_append_right_inj xs).1 hes)
    refine ⟨fs, ?_, hlen⟩
    rw [replay_append, hreplay]
    exact hfs

lemma holdsOne_nil {stack : List Frame} (h : stack.length ≤ 1) : HoldsOne stack [] := by
  intro es hes
  obtain rfl := List.prefix_nil.1 hes
  exact ⟨stack, rfl, h⟩

lemma holdsOne_singleton {stack stack' : List Frame} {e : ScopeEvent} (h : stack.length ≤ 1)
    (hreplay : replay stack [e] = some stack') (h' : stack'.length ≤ 1) : HoldsOne stack [e] := by
  intro es hes
  rcases List.prefix_cons_iff.1 hes with rfl | ⟨zs, rfl, hzs⟩
  · exact ⟨stack, rfl, h⟩
  · obtain rfl := List.prefix_nil.1 hzs
    exact ⟨stack', hreplay, h'⟩

lemma holdsOne_enter (f : Frame) (number : Nat) : HoldsOne [] [enter f number] := by
  have hreplay : replay [] [enter f number] = some [f] := rfl
  exact holdsOne_singleton (by simp) hreplay (by simp)

lemma holdsOne_exit (f : Frame) (number : Nat) : HoldsOne [f] [exit f number] :=
  holdsOne_singleton (by simp) (replay_exits [f] [] number) (by simp)

namespace Tracker

variable (t : Tracker)

lemma holdsOne_single (number : Nat) (depth : Int) (active : Option Frame) (chars : List Char) :
    HoldsOne active.toList (t.singleEvents number depth active chars) := by
  rcases t.singleLine_cases number depth active chars with
    ⟨hevents, -⟩ | ⟨f, rfl, hevents, -⟩ | ⟨f, rfl, -, ⟨hevents, -⟩ | ⟨hevents, -⟩⟩
  · rw [hevents]
    exact holdsOne_nil (by cases active <;> simp)
  · rw [hevents]
    exact holdsOne_exit f number
  · rw [hevents]
    exact holdsOne_enter f number
  · rw [hevents]
    exact (holdsOne_enter f number).append rfl (holdsOne_exit f number)

lemma holdsOne_singleFrom (total number : Nat) (depth : Int) (active : Option Frame)
    (lines : List String) :
    HoldsOne active.toList (t.singleFrom total number depth active lines).events := by
  induction lines generalizing number depth active with
  | nil =>
    rw [events_singleFrom_nil]
    cases active with
    | none => exact holdsOne_nil (by simp)
    | some f => exact holdsOne_exit f total
  | cons text rest ih =>
    rw [events_singleFrom_cons]
    exact (t.holdsOne_single number depth active _).append
      (t.onLine_single number depth active _).replay_eq (ih _ _ _)

/-- In either mode, the events of a text leave all that they enter. -/
lemma bracketed_track (lines : List String) :
    Bracketed [] 1 lines.length (t.track lines).events := by
  have hfrom : Bracketed [] (min 1 lines.length) lines.length (t.track lines).events := by
    have hnumber : 1 + lines.length = lines.length + 1 := Nat.add_comm _ _
    unfold track
    cases t.mode with
    | stack => exact t.bracketed_stackFrom .initial hnumber
    | single => exact t.bracketed_singleFrom 0 none hnumber
  refine ⟨hfrom.replay_eq, hfrom.sorted, ?_, hfrom.enter_line⟩
  intro e he
  obtain ⟨hfirst, hlast⟩ := hfrom.line_mem e he
  cases lines with
  | nil =>
    -- a text without lines has no events
    have hnil : (t.track []).events = [] := by
      unfold track
      cases t.mode <;> rfl
    exact absurd he (by simp [hnil])
  | cons text rest =>
    rw [List.length_cons] at hfirst hlast ⊢
    omega

end Tracker

/-- **The events of a text are well bracketed and tell its states.**  In both modes and for every
filter, replaying them on an empty stack never fails and ends with the empty stack; their lines do
not decrease and are lines of the text, and a container is entered on the line of its header.  On
the stack, just the containers of the headers that are followed are entered, in their order, and the
events of the lines before a line lead to the containers with which it starts.  The single
discipline never holds more than one container. -/
theorem events_replay (filter : Option ContainerFilter) (lines : List String) :
    (∀ mode, Bracketed [] 1 lines.length ((Tracker.mk mode filter).track lines).events) ∧
    ((Tracker.mk .stack filter).track lines).events.filterMap entered?
      = (placedHeaders ⟨.stack, filter⟩ lines).map (·.frame lines) ∧
    ((Tracker.mk .stack filter).track lines).scopes.map (·.number)
      = List.range' 1 lines.length ∧
    (∀ scope ∈ ((Tracker.mk .stack filter).track lines).scopes,
      replay [] (((Tracker.mk .stack filter).track lines).events.filter
        fun e => decide (e.line < scope.number)) = some scope.first.frames.reverse) ∧
    ∀ es, es <+: ((Tracker.mk .single filter).track lines).events →
      ∃ fs, replay [] es = some fs ∧ fs.length ≤ 1 := by
  refine ⟨fun mode => Tracker.bracketed_track _ lines, ?_, ?_, ?_, ?_⟩
  · exact entered_stackFrom ⟨.stack, filter⟩ lines.length [] lines rfl
  · exact Tracker.numbers_stackFrom ⟨.stack, filter⟩ lines.length 1 .initial lines
  · intro scope hscope
    exact Tracker.replay_before_stackFrom ⟨.stack, filter⟩ .initial (Nat.add_comm _ _) hscope
  · exact Tracker.holdsOne_singleFrom ⟨.single, filter⟩ lines.length 1 0 none lines

end Conformance.Source
