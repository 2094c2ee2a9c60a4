/-
# Overlap of member sets

The overlap of two sets is the number of members that they share divided by the number of members
that one of them has.  Members are compared without regard to case.

All pairs of subjects are found with an incidence table: a row for every subject, a column for every
member, a mark where the subject has the member.  The product of two rows counts what they share;
it is a number of 32 bits.  Rows are treated in blocks; in the columns that no row of the block uses
there is nothing to share, so a block looks at the others alone.
-/
import Conformance.Similarity.Pair
import Conformance.Text.LowerCase
import Conformance.Text.Order

namespace Conformance

/-- Subjects with their members. -/
abbrev MemberSets := List (String × List String)

/-- Members without regard to case, in order, each once. -/
def normalMembers (members : List String) : List String :=
  Text.sortedSet (members.map Text.lower)

/-- The members that two normal lists share. -/
def sharedMembers (a b : List String) : List String :=
  a.filter b.contains

/-! ## Two sets -/

/-- How two sets overlap. -/
structure Overlap where
  /-- The number of shared members. -/
  shared : Int
  /-- The number of members of one or the other. -/
  total : Int
  /-- The similarity. -/
  ratio : Binary64
  deriving DecidableEq, Repr, Inhabited

namespace Overlap

/-- The overlap of two lists of members; two empty sets have no similarity. -/
def ofMembers (a b : List String) : Overlap :=
  let left := normalMembers a
  let right := normalMembers b
  let shared := (sharedMembers left right).length
  let total := (Text.sortedSet (left ++ right)).length
  ⟨shared, total, if total == 0 then Binary64.zero else Binary64.ofRatio shared total⟩

end Overlap

/-! ## The incidence table -/

/-- A row of the incidence table. -/
structure IncidenceRow where
  /-- The subject. -/
  subject : String
  /-- Its members, in normal form. -/
  members : List String
  /-- A mark for every column. -/
  marks : List Bool
  deriving DecidableEq, Repr, Inhabited

namespace IncidenceRow

/-- The number of marks, in arithmetic of 64 bits. -/
def size (r : IncidenceRow) : Int64 :=
  (r.marks.map Bool.toInt64).sum

/-- The marks of the selected columns. -/
def select : (columns marks : List Bool) → List Bool
  | c :: cs, m :: ms => if c then m :: select cs ms else select cs ms
  | _, _ => []

/-- The product of two rows over the selected columns, in arithmetic of 32 bits. -/
def product (columns : List Bool) (r s : IncidenceRow) : Int32 :=
  (List.zipWith (fun m n => m.toInt32 * n.toInt32) (select columns r.marks)
    (select columns s.marks)).sum

/-- The overlap of two rows, given their product; the union is counted in 64 bits. -/
def overlap (r s : IncidenceRow) (product : Int32) : Overlap :=
  let union := r.size + s.size - product.toInt64
  ⟨product.toInt, union.toInt, Binary64.ofRounded product.toInt union.toInt⟩

end IncidenceRow

/-- The marks of a row: at the places that its members have among the columns. -/
def marksOf (columns members : List String) : List Bool :=
  let places := members.map (columns.idxOf ·)
  (List.range columns.length).map places.contains

/-- The row of every subject that has at least a given number of members, in order. -/
def incidenceRows (sets : MemberSets) (least : Int) : List IncidenceRow :=
  let normal := sets.map fun (s, members) => (s, normalMembers members)
  let chosen := (normal.filter fun (_, members) => decide (least ≤ members.length)).mergeSort
    fun a b => Text.precedes a.1 b.1
  let columns := Text.sortedSet (chosen.flatMap (·.2))
  chosen.map fun (s, members) => ⟨s, members, marksOf columns members⟩

/-- The columns that some row uses. -/
def usedColumns : List IncidenceRow → List Bool
  | [] => []
  | [r] => r.marks
  | r :: rs => List.zipWith (· || ·) r.marks (usedColumns rs)

/-! ## All pairs -/

section Blocks

variable (threshold : Binary64) (ruleId : String) (rows : List IncidenceRow)

/-- The pair of two rows with a given product, if they are similar enough. -/
def pairOfRows (r s : IncidenceRow) (product : Int32) : Option SimilarPair :=
  let o := r.overlap s product
  if threshold.le o.ratio then
    some { ruleId := ruleId
           first := r.subject
           second := s.subject
           shared := o.shared
           total := o.total
           ratio := .fractional o.ratio
           sharedMembers := sharedMembers r.members s.members }
  else none

/-- The products of each row from `start` to before `stop` with all rows. -/
def productsOfBlock (start stop : Nat) : List (List Int32) :=
  let block := (rows.take stop).drop start
  let columns := usedColumns block
  block.map fun r => rows.map (r.product columns)

/-- The pairs of row `i` with the rows behind it; `products` belong to these. -/
def pairsOfRow (i : Nat) (products : List Int32) : List SimilarPair :=
  products.zipIdx.filterMap fun (product, offset) => do
    let r ← rows[i]?
    let s ← rows[i + 1 + offset]?
    pairOfRows threshold ruleId r s product

/-- The pairs of each row from `start` to before `stop` with the rows behind it. -/
def pairsOfBlock (start stop : Nat) : List SimilarPair :=
  let products := productsOfBlock rows start stop
  (List.range' start (stop - start)).flatMap fun i =>
    pairsOfRow threshold ruleId rows i ((products.getD (i - start) []).drop (i + 1))

/-- The pairs of all rows, block after block; the last block may be a smaller one. -/
def pairsInBlocks (step : Nat) : List SimilarPair :=
  let count := (rows.length + step - 1) / step
  (List.range' 0 count step).flatMap fun start =>
    pairsOfBlock threshold ruleId rows start (min (start + step) rows.length)

end Blocks

/-- The number of rows in a block; without a positive number given, all rows. -/
def blockStep (blockSize : Option Int) (rows : Nat) : Nat :=
  match blockSize with
  | some k => if 0 < k then k.toNat else rows
  | none => rows

/-- Every pair of subjects whose member sets are similar enough, in order. -/
def similarPairs (sets : MemberSets) (threshold : Binary64) (least : Int := 3)
    (ruleId : String := "") (blockSize : Option Int := none) : List SimilarPair :=
  let rows := incidenceRows sets least
  if rows.length < 2 then []
  else pairsInBlocks threshold ruleId rows (blockStep blockSize rows.length)

end Conformance
