/-
# Placement

Whether a declaration lives where a placement rule wants it.  Containers are judged first, then the
path, then the namespace; the first problem is reported.  A rule with an upper bound on the number
of declarations is judged for the whole tree: above the bound every one of them is reported.
-/
import Conformance.Finding
import Conformance.Text.Order

namespace Conformance
open Source

variable [Host] [m : Memory]

namespace Placement

/-- Whether a placement rule is about a declaration. -/
def applies (p : Placement) (heading : RuleHeading) (d : Declaration) : Bool :=
  p.kinds.contains d.kind && !heading.allows d.name && !heading.allows d.qualifiedName &&
    p.names.occursIn d.name

/-- The containers of a declaration that count, outermost first. -/
def frames (p : Placement) (d : Declaration) : List Frame :=
  let candidates := if p.anyScope then d.ancestors else d.container.toList
  match p.containers with
  | some pattern => candidates.filter fun f => pattern.occursIn f.name
  | none => candidates

/-- The innermost forbidden container. -/
def forbiddenFrame? (p : Placement) (d : Declaration) : Option Frame :=
  (p.frames d).reverse.find? fun f => p.forbidden.contains f.kind

/-- Whether a required container is missing. -/
def lacksRequired (p : Placement) (d : Declaration) : Bool :=
  !p.required.isEmpty && !(p.frames d).any fun f => p.required.contains f.kind

/-- The words for the required containers. -/
def requiredWords (p : Placement) : String :=
  " or ".intercalate (Text.sortedSet (p.required.map ContainerKind.word))

/-- Whether the path of a declaration has a part. -/
def under (d : Declaration) (part : String) : Bool :=
  Text.contains ("/" ++ d.path) part

/-- What is wrong with the place of a declaration, and the container that matters. -/
def problem? (p : Placement) (d : Declaration) : Option (String × Option Frame) :=
  match p.forbiddenFrame? d with
  | some f => some ("must not be declared inside " ++ f.label, some f)
  | none =>
    if p.lacksRequired d then some ("must be declared inside " ++ p.requiredWords, d.container)
    else match p.requiredPath.filter fun part => !under d part with
    | some part => some ("must be located under " ++ part, d.container)
    | none => match p.forbiddenPath.filter (under d) with
    | some part => some ("must not be located under " ++ part, d.container)
    | none =>
      if p.requireNamespace && d.namespaceName == unknownNamespace then
        some ("has no namespace declaration", d.container)
      else if p.reportsEveryMatch then
        some ("matches forbidden pattern " ++ p.patternText, d.container)
      else none

/-- The violations of a placement rule by single declarations. -/
def check (p : Placement) (r : Rule) (ds : List Declaration) : Except Fault (List Violation) :=
  (ds.filter (p.applies r.heading)).filterMapM fun d =>
    match p.problem? d with
    | some (reason, frame) => (r.violation (.ofDeclaration d reason frame) []).map some
    | none => .ok none

/-- The violations of an upper bound on the number of declarations. -/
def checkCount (p : Placement) (r : Rule) (most : Nat) (ds : List Declaration) :
    Except Fault (List Violation) :=
  let found := Declaration.sort (ds.filter (p.applies r.heading))
  if found.length ≤ most then .ok []
  else
    let reason := "is one of " ++ intText found.length ++ " declarations matching " ++
      p.patternText ++ " (max " ++ intText most ++ ")"
    found.mapM fun d => r.violation (.ofDeclaration d reason d.container) []

end Placement
end Conformance
