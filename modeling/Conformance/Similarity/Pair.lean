/-
# Pairs of similar subjects

Two subjects whose members or names overlap.  The first one precedes the second; pairs are ordered
by rule and subjects.
-/
import Conformance.Number.Basic

namespace Conformance

/-- Two similar subjects. -/
structure SimilarPair where
  /-- The identity of the rule. -/
  ruleId : String
  /-- The first subject. -/
  first : String
  /-- The second subject. -/
  second : String
  /-- How much they share. -/
  shared : Int
  /-- How much there is in both together. -/
  total : Int
  /-- The similarity. -/
  ratio : Number
  /-- The members that they share. -/
  sharedMembers : List String := []
  /-- Path and line of the first subject. -/
  firstLocation : Option String := none
  /-- Path and line of the second subject. -/
  secondLocation : Option String := none
  /-- The message. -/
  message : String := ""
  deriving DecidableEq, Repr, Inhabited

namespace SimilarPair

/-- Both subjects. -/
def key (p : SimilarPair) : String :=
  p.first ++ "," ++ p.second

/-- The similarity in per cent. -/
def percent (p : SimilarPair) : String :=
  p.ratio.real.percentText

/-- Order by rule and subjects, as a test. -/
def precedes (a b : SimilarPair) : Bool :=
  if a.ruleId != b.ruleId then decide (a.ruleId < b.ruleId)
  else if a.first != b.first then decide (a.first < b.first)
  else !decide (b.second < a.second)

/-- Pairs in order; those that the order does not tell apart stay as they were. -/
def sort (ps : List SimilarPair) : List SimilarPair :=
  ps.mergeSort precedes

end SimilarPair
end Conformance
