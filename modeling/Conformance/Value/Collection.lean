/-
# Values as collections

Where a list is wanted, a text stands for its characters and a table for its keys.  Where a table is
wanted, a list of pairs stands for one; the keys of such pairs need not be texts.
-/
import Conformance.Host
import Conformance.Number.Basic
import Conformance.Value.Basic

namespace Conformance

/-- Lists and tables are nested too deeply to be written. -/
def tooDeep : Fault :=
  .recursion " while getting the repr of an object"

namespace Value

/-- The elements of a value. -/
def elements : Value → Except Fault (List Value)
  | .list items => .ok items
  | .text s => .ok (s.toList.map fun c => .text (String.singleton c))
  | .table entries => .ok (entries.map fun e => .text e.1)
  | v => .error (.notIterable v.typeName)

/-- The elements of a value, of which each must be a text; another element does not have the
property that is wanted of it. -/
def textElements (wanted : String) (v : Value) : Except Fault (List String) := do
  (← v.elements).mapM fun
    | .text s => .ok s
    | e => .error (.noAttribute e.typeName wanted)

/-! ## Writing -/

mutual

/-- Why a value cannot be written, if it cannot: it is gone through from left to right, and lists
and tables may be nested in it as deeply as there are levels. -/
def writeFault? : (levels : Nat) → Value → Option Fault
  | _, .int i =>
    if i.natAbs < Nat.pow 10 Literal.digitLimit then none else some .tooLongToWrite
  | _, .list [] => none
  | _, .table [] => none
  | 0, .list (_ :: _) => some tooDeep
  | 0, .table (_ :: _) => some tooDeep
  | levels + 1, .list (v :: vs) => itemsFault? levels (v :: vs)
  | levels + 1, .table (e :: es) => entriesFault? levels (e :: es)
  | _, _ => none

/-- Why the items of a list cannot be written, if they cannot. -/
def itemsFault? : (levels : Nat) → List Value → Option Fault
  | _, [] => none
  | levels, v :: vs => (writeFault? levels v).orElse fun _ => itemsFault? levels vs

/-- Why the entries of a table cannot be written, if they cannot. -/
def entriesFault? : (levels : Nat) → List (String × Value) → Option Fault
  | _, [] => none
  | levels, (_, v) :: es => (writeFault? levels v).orElse fun _ => entriesFault? levels es

end

/-- The value of a key as it is shown on its own, if it may be written. -/
def written [Host] (key : String) (v : Value) : Except Fault String :=
  match v.writeFault? (Host.levels key) with
  | some f => .error f
  | none => .ok v.shown

/-- The number that a value stands for; a truth value counts as one or zero. -/
def number? : Value → Option Number
  | .flag b => some (.whole (if b then 1 else 0))
  | .int i => some (.whole i)
  | .real x => some (.fractional x)
  | _ => none

/-- The key and the value that an item of a list stands for. -/
def toEntry (index : Nat) (v : Value) : Except Fault (Value × Value) := do
  match v with
  | .list _ | .text _ | .table _ =>
    match ← v.elements with
    | [.list _, _] => throw (.unhashable "list")
    | [.table _, _] => throw (.unhashable "dict")
    | [key, value] => return (key, value)
    | items => throw (.entryLength index items.length)
  | _ => throw (.notEntry index)

end Value

/-- A table whose keys may be other values than texts. -/
structure LooseTable where
  /-- The entries whose keys are texts. -/
  named : Table := []
  /-- The other keys. -/
  otherKeys : List Value := []
  deriving Inhabited

namespace LooseTable

/-- Gives a key a value; of the other keys only the keys are kept. -/
def insert (t : LooseTable) (key v : Value) : LooseTable :=
  match key with
  | .text name => { t with named := t.named.insert name v }
  | key => { t with otherKeys := t.otherKeys ++ [key] }

/-- The table that the items of a list stand for, numbered from an index. -/
def ofItems : (index : Nat) → LooseTable → List Value → Except Fault LooseTable
  | _, t, [] => .ok t
  | index, t, v :: vs => do
    let (key, value) ← v.toEntry index
    ofItems (index + 1) (t.insert key value) vs

/-- The table that a value stands for. -/
def ofValue : Value → Except Fault LooseTable
  | .table t => .ok { named := t }
  | v => do ofItems 0 {} (← v.elements)

/-- The least of some numbers; values that are none are passed over. -/
def least? (keys : List Value) : Option Value :=
  keys.foldl (fun best key => match best.bind Value.number?, key.number? with
    | some x, some y => if y.real.lt x.real then some key else best
    | none, some _ => some key
    | _, none => best.orElse fun _ => some key) none

/-- The fault of keys that are listed by name, in order, together with some names: keys of several
types have no order, and keys of one type are no names. -/
def listing (names : List String) (t : LooseTable) : Except Fault Unit :=
  match t.otherKeys with
  | [] => .ok ()
  | key :: _ =>
    if !names.isEmpty then .error (.incomparable "<" "str" key.typeName)
    else match t.otherKeys.find? (·.number?.isNone), t.otherKeys.find? (·.number?.isSome) with
      | some x, some y => .error (.incomparable "<" x.typeName y.typeName)
      | _, _ => .error (.notName 0 ((least? t.otherKeys).getD key).typeName)

end LooseTable
end Conformance
