/-
# Similar names

Names are compared by their matching characters, without regard to case.  Suggestions for a name
that nothing has are the candidates that are most similar to it; there case counts.
-/
import Conformance.Fault
import Conformance.Number.Basic
import Conformance.Similarity.Pair
import Conformance.Similarity.Sequence
import Conformance.Text.LowerCase
import Conformance.Text.Order

namespace Conformance

/-- The similarity of two names. -/
def nameSimilarity (a b : String) : Binary64 :=
  Sequence.ratio (Text.lowerList a.toList) (Text.lowerList b.toList)

/-- The pair of two names, unless they are not similar enough. -/
def pairOfNames (threshold : Binary64) (ruleId a b : String) : Option SimilarPair :=
  let ratio := nameSimilarity a b
  if ratio.lt threshold then none
  else
    let shared : Int := Sequence.matchCount (Text.lowerList a.toList) (Text.lowerList b.toList)
    some { ruleId := ruleId
           first := a
           second := b
           shared := shared
           total := a.length + b.length - shared
           ratio := .fractional ratio }

/-- The pairs of each name with the names after it. -/
def pairsOfNames (threshold : Binary64) (ruleId : String) : List String → List SimilarPair
  | [] => []
  | a :: rest => rest.filterMap (pairOfNames threshold ruleId a) ++
      pairsOfNames threshold ruleId rest

/-- Every pair of different names that are similar enough, in order. -/
def similarNames (names : List String) (threshold : Binary64) (ruleId : String := "") :
    List SimilarPair :=
  pairsOfNames threshold ruleId (Text.sortedSet names)

/-! ## Suggestions -/

/-- The number of suggestions. -/
def suggestionLimit : Nat := 3

/-- A candidate with its similarity. -/
structure Scored where
  /-- The similarity. -/
  score : Binary64
  /-- The candidate. -/
  name : String
  deriving DecidableEq, Repr, Inhabited

/-- Order from the more similar to the less, then from the later name to the earlier. -/
def Scored.precedes (a b : Scored) : Bool :=
  b.score.lt a.score || (!a.score.lt b.score && Text.precedes b.name a.name)

/-- The candidates at least as similar to a word as the cutoff, best first. -/
def suggestionsAbove (word : String) (candidates : List String) (cutoff : Binary64) :
    List String :=
  let scored := candidates.map fun c => Scored.mk (Sequence.ratio c.toList word.toList) c
  (((scored.filter fun s => cutoff.le s.score).mergeSort Scored.precedes).take
    suggestionLimit).map (·.name)

/-- The best candidates for a word; the cutoff lies between zero and one. -/
def suggestions (word : String) (candidates : List String) (cutoff : Number) :
    Except Fault (List String) :=
  if Binary64.zero.le cutoff.real && cutoff.real.le (Binary64.ofInt 1) then
    .ok (suggestionsAbove word candidates cutoff.real)
  else .error (.badCutoff cutoff.text)

end Conformance
