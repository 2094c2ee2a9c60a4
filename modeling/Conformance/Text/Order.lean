/-
# Order and groups by names

Names are ordered by their code points.  What is grouped by a name comes in the order of the names,
and inside a group in the order in which it was given.
-/

namespace Conformance.Text

/-- Order of strings by code point, as a test. -/
def precedes (a b : String) : Bool :=
  !decide (b < a)

/-- Names in order, with repetitions. -/
def sorted (names : List String) : List String :=
  names.mergeSort precedes

/-- Sorted names without repetitions. -/
def withoutRepeats (names : List String) : List String :=
  names.foldr (fun n acc => if acc.head? == some n then acc else n :: acc) []

/-- Names in order, each once. -/
def sortedSet (names : List String) : List String :=
  withoutRepeats (sorted names)

/-- Items grouped by a name: the names in order, each with its items. -/
def groupsBy {α : Type} (name : α → String) (items : List α) : List (String × List α) :=
  (sortedSet (items.map name)).map fun n => (n, items.filter fun a => name a == n)

end Conformance.Text
