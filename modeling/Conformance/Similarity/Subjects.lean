/-
# Subjects of a comparison

Each declaration that is compared has a key: its name, or its qualified name if several have the
name, or that with its path if several have even the qualified name.
-/
import Conformance.Rule.Compile
import Conformance.Similarity.Members
import Conformance.Source.Declaration

namespace Conformance
open Source

/-- A declaration that is compared, under its key. -/
structure Subject where
  /-- The key. -/
  key : String
  /-- The declaration. -/
  declaration : Declaration
  deriving DecidableEq, Repr, Inhabited

/-- The declarations of some kinds whose names match, in the order of their places. -/
def chosenDeclarations (kinds : List DeclarationKind) (pattern : Option (Pattern Nat))
    (ds : List Declaration) : List Declaration :=
  (Declaration.sort ds).filter fun d => kinds.contains d.kind &&
    (match pattern with
     | some p => p.occursIn d.name
     | none => true)

/-- The key of a declaration among the chosen ones. -/
def subjectKey (chosen : List Declaration) (d : Declaration) : String :=
  let named (e : Declaration) := chosen.countP fun f => f.name == e.name
  if named d == 1 then d.name
  else if chosen.countP (fun e => e.qualifiedName == d.qualifiedName && named e != 1) == 1 then
    d.qualifiedName
  else d.qualifiedName ++ "@" ++ d.path

/-- Subjects in their order; of several with one key the first stays. -/
def firstOfEachKey (subjects : List Subject) : List Subject :=
  (subjects.foldl (fun seen s => if seen.any (·.key == s.key) then seen else s :: seen) []).reverse

/-- The subjects among declarations. -/
def selectSubjects (kinds : List DeclarationKind) (pattern : Option (Pattern Nat))
    (ds : List Declaration) : List Subject :=
  let chosen := chosenDeclarations kinds pattern ds
  firstOfEachKey (chosen.map fun d => ⟨subjectKey chosen d, d⟩)

/-- The subjects with their members. -/
def memberSetsOf (subjects : List Subject) : MemberSets :=
  subjects.map fun s => (s.key, s.declaration.members)

/-- The member sets of the declarations of some kinds whose names match a written pattern; an
empty pattern is none. -/
def memberSets (kinds : List DeclarationKind) (pattern : Option String)
    (ds : List Declaration) : Except Fault MemberSets := do
  match nonEmpty pattern with
  | none => return memberSetsOf (selectSubjects kinds none ds)
  | some text =>
    match Pattern.read text.toList with
    | .ok p => return memberSetsOf (selectSubjects kinds (some p) ds)
    | .error e => throw (.pattern text e)

end Conformance
