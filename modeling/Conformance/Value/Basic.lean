/-
# Values of tables

Rules and settings are written in tables whose cells may hold anything a table format can
express.  `Value` is such a cell, before anything is known about what it should be.  Tables keep
the order in which their keys were written.
-/
import Conformance.Calendar.Moment
import Conformance.Number.Basic
import Conformance.Text.Quoted

namespace Conformance

/-- A cell of a table. -/
inductive Value where
  /-- Nothing. -/
  | null
  /-- A truth value. -/
  | flag (b : Bool)
  /-- A whole number. -/
  | int (i : Int)
  /-- A real number. -/
  | real (x : Binary64)
  /-- A text. -/
  | text (s : String)
  /-- A date, a time or both. -/
  | calendar (v : CalendarValue)
  /-- A list of values. -/
  | list (items : List Value)
  /-- A table, with its keys in the order in which they were written. -/
  | table (entries : List (String × Value))
  deriving Repr, Inhabited

/-- A table: keys with their values, in the order in which they were written. -/
abbrev Table := List (String × Value)

namespace Table

/-- The value of a key. -/
def get? (t : Table) (key : String) : Option Value :=
  List.lookup key t

/-- Whether a key is present. -/
def has (t : Table) (key : String) : Bool :=
  t.any (·.1 == key)

/-- The keys, in order. -/
def keys (t : Table) : List String :=
  t.map (·.1)

/-- The table without a key. -/
def erase (t : Table) (key : String) : Table :=
  t.filter (·.1 != key)

/-- Gives a key a value: in place if the key is there, at the end otherwise. -/
def insert (t : Table) (key : String) (v : Value) : Table :=
  if t.has key then t.map fun e => if e.1 == key then (key, v) else e else t ++ [(key, v)]

/-- Gives every key of the second table its value in the first. -/
def update (t u : Table) : Table :=
  u.foldl (fun acc e => acc.insert e.1 e.2) t

end Table

namespace Value

/-- The name of a value's type, as diagnostics show it. -/
def typeName : Value → String
  | .null => "NoneType"
  | .flag _ => "bool"
  | .int _ => "int"
  | .real _ => "float"
  | .text _ => "str"
  | .calendar v => "datetime." ++ v.typeName
  | .list _ => "list"
  | .table _ => "dict"

/-- The name of a value's type, without the collection that the type is from. -/
def shortTypeName : Value → String
  | .calendar v => v.typeName
  | v => v.typeName

/-- Whether a value counts as absent: nothing, false, zero or empty. -/
def isAbsent : Value → Bool
  | .null => true
  | .flag b => !b
  | .int i => i == 0
  | .real x => x.eq Binary64.zero
  | .text s => s.isEmpty
  | .calendar _ => false
  | .list l => l.isEmpty
  | .table t => t.isEmpty

mutual

/-- A value as it is shown inside a list or a table: texts are quoted. -/
def inner : Value → String
  | .null => "None"
  | .flag b => if b then "True" else "False"
  | .int i => intText i
  | .real x => x.text
  | .text s => Text.quoted s
  | .calendar v => v.constructed
  | .list l => "[" ++ ", ".intercalate (innerList l) ++ "]"
  | .table t => "\x7b" ++ ", ".intercalate (innerEntries t) ++ "\x7d"

/-- The items of a list, each as it is shown inside. -/
def innerList : List Value → List String
  | [] => []
  | v :: vs => inner v :: innerList vs

/-- The entries of a table, each as it is shown inside. -/
def innerEntries : List (String × Value) → List String
  | [] => []
  | (k, v) :: es => (Text.quoted k ++ ": " ++ inner v) :: innerEntries es

end

/-- A value as it is shown on its own: a text stands for itself, and a date for its numbers. -/
def shown : Value → String
  | .text s => s
  | .calendar v => v.text
  | v => inner v

/-- The text held by a value. -/
def text? : Value → Option String
  | .text s => some s
  | _ => none

/-- The texts held by a list of nothing but texts. -/
def texts? : Value → Option (List String)
  | .list l => l.mapM text?
  | _ => none

/-- A list of texts. -/
def ofTexts (l : List String) : Value :=
  .list (l.map .text)

/-- A text, or nothing. -/
def ofText? : Option String → Value
  | some s => .text s
  | none => .null

/-- A number. -/
def ofNumber : Number → Value
  | .whole i => .int i
  | .fractional x => .real x

/-- A natural number. -/
def ofNat (n : Nat) : Value :=
  .int n

end Value
end Conformance
