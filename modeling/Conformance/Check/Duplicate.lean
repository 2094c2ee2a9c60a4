/-
# Duplicates

Declarations whose names have the same base form a group.  Partial declarations of one name count
as one.  Groups come in the order of their bases, their members in the order of their places.
-/
import Conformance.Finding
import Conformance.Text.Order

namespace Conformance
open Source

variable [Host] [m : Memory]

/-- Declarations whose names have one base. -/
structure DuplicateGroup where
  /-- The base of the names. -/
  base : String
  /-- The declarations, in the order of their places. -/
  members : List Declaration
  deriving DecidableEq, Repr, Inhabited

/-- The names in a group. -/
def DuplicateGroup.names (g : DuplicateGroup) : List String :=
  Text.sortedSet (g.members.map (·.name))

/-- The modifier of declarations that are parts of one. -/
def partialModifier : String := "partial"

/-- Declarations of one name in the order of their places; if all are parts of one, the first. -/
def mergeParts (ds : List Declaration) : List Declaration :=
  let sorted := Declaration.sort ds
  if 1 < sorted.length && sorted.all (·.modifiers.contains partialModifier) then sorted.take 1
  else sorted

namespace Duplication

/-- Whether a duplicate rule is about a declaration. -/
def applies (r : Duplication) (heading : RuleHeading) (d : Declaration) : Bool :=
  r.kinds.contains d.kind && !heading.allows d.name

/-- The declarations that count, by name, parts merged. -/
def candidates (r : Duplication) (heading : RuleHeading) (ds : List Declaration) :
    List Declaration :=
  (Text.groupsBy (·.name) (ds.filter (r.applies heading))).flatMap fun g => mergeParts g.2

/-- Whether the declarations with a base are reported. -/
def qualifies (r : Duplication) (heading : RuleHeading) (base : String)
    (members : List Declaration) : Bool :=
  !heading.allows base && decide (r.minGroup ≤ members.length) &&
    !(r.ignoreFileScoped && members.all (·.fileScoped)) &&
    !(r.distinctSuffixes && decide ((Text.sortedSet
      (members.map fun d => r.suffixOf d.name)).length < 2))

/-- The groups of duplicates among declarations. -/
def groups (r : Duplication) (heading : RuleHeading) (ds : List Declaration) :
    List DuplicateGroup :=
  ((Text.groupsBy (fun d => r.baseKey d.name) (r.candidates heading ds)).filter
    fun g => r.qualifies heading g.1 g.2).map fun g => ⟨g.1, Declaration.sort g.2⟩

/-- The violations of a group. -/
def checkGroup (r : Rule) (g : DuplicateGroup) : Except Fault (List Violation) :=
  g.members.mapM fun d =>
    r.violation (.ofDeclaration d ("shares base name " ++ g.base) d.container)
      [("base", .text g.base), ("count", .int g.members.length),
        ("group", .text (", ".intercalate g.names))]

/-- The violations of a duplicate rule. -/
def check (d : Duplication) (r : Rule) (ds : List Declaration) : Except Fault (List Violation) :=
  ((d.groups r.heading ds).mapM (checkGroup r)).map List.flatten

end Duplication
end Conformance
