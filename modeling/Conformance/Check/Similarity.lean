/-
# Similarity rules

A similarity rule compares the member sets or the keys of its subjects and words a message for
every pair that is similar enough, unless the pair or one of its subjects is allowed.
-/
import Conformance.Finding
import Conformance.Similarity.Names
import Conformance.Similarity.Subjects

namespace Conformance
open Source

variable [Host] [m : Memory]

/-- Whether a pair of names is never reported: the names in order with a comma, or one of them. -/
def RuleHeading.allowsPair (h : RuleHeading) (a b : String) : Bool :=
  h.allows (if Text.precedes a b then a ++ "," ++ b else b ++ "," ++ a) ||
    h.allows a || h.allows b

/-- The place of a declaration. -/
def locationOf (d : Declaration) : String :=
  d.path ++ ":" ++ intText d.line

namespace Similarity

/-- The pairs of subjects that are similar enough. -/
def pairs (s : Similarity) (ruleId : String) (subjects : List Subject) (blockSize : Option Int) :
    List SimilarPair :=
  match s.comparison with
  | .names => similarNames (subjects.map (·.key)) s.threshold ruleId
  | .members least => similarPairs (memberSetsOf subjects) s.threshold least ruleId blockSize

/-- The declaration with a key. -/
def declarationOf (subjects : List Subject) (key : String) : Option Declaration :=
  (subjects.find? (·.key == key)).map (·.declaration)

/-- A pair with its places and its message, unless it is allowed. -/
def finish (r : Rule) (subjects : List Subject) (p : SimilarPair) :
    Except Fault (Option SimilarPair) :=
  match declarationOf subjects p.first, declarationOf subjects p.second with
  | some a, some b =>
    if r.heading.allowsPair p.first p.second || r.heading.allowsPair a.name b.name then .ok none
    else do
      let context := { MessageContext.ofDeclaration a "overlapping members" a.container with
        name := p.first }
      let message ← r.message context
        [("other", .text p.second), ("ratio", .real p.ratio.real),
          ("shared", .text (", ".intercalate p.sharedMembers))]
      return some { p with
        firstLocation := some (locationOf a)
        secondLocation := some (locationOf b)
        message := message }
  | _, _ => .ok none

/-- The pairs that a similarity rule reports. -/
def check (s : Similarity) (r : Rule) (ds : List Declaration) (blockSize : Option Int := none) :
    Except Fault (List SimilarPair) :=
  let subjects := selectSubjects s.kinds s.subjects ds
  (s.pairs r.id subjects blockSize).filterMapM (finish r subjects)

end Similarity
end Conformance
