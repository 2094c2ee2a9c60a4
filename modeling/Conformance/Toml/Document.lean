/-
# Documents of tables

A document is a list of statements: a key with its value, the header of a table, the header of an
item of an array of tables.  Keys are paths; a path goes through an array of tables by its last
item.  What a document may say twice is restrained: a table has one header, a value that was written
in full is not extended, and tables that dotted keys made in one section are not reopened in
another.
-/
import Conformance.Host
import Conformance.Toml.Scalar

namespace Conformance.Toml

/-! ## Keys -/

/-- Reads one name of a key. -/
def readKeyPart : List Char → Except Stop (String × List Char)
  | '\'' :: cs => do
    let (text, rest) ← readPlain "'" isControl cs
    return (String.ofList text, rest)
  | '"' :: cs => do
    let (text, rest) ← readQuoted false cs
    return (String.ofList text, rest)
  | cs =>
    match cs.span isBare with
    | ([], _) => stop .badKeyStart cs
    | (name, rest) => .ok (String.ofList name, rest)

/-- Reads the names of a key, with points between them, and the blanks after it. -/
def readKeyFrom : (fuel : Nat) → List Char → Except Stop (Key × List Char)
  | 0, cs => stop .badKeyStart cs
  | fuel + 1, cs => do
    let (name, rest) ← readKeyPart cs
    match skipSpaces rest with
    | '.' :: rest =>
      let (names, rest) ← readKeyFrom fuel (skipSpaces rest)
      return (name :: names, rest)
    | rest => return ([name], rest)

/-- Reads a key. -/
def readKey (cs : List Char) : Except Stop (Key × List Char) :=
  readKeyFrom (cs.length + 1) cs

/-! ## Nested tables -/

/-- Changes the table behind a key.  Tables that are missing on the way are made; an array of tables
is entered at its last item. -/
def changeAt (change : Table → Except Cause Table) : Key → Table → Except Cause Table
  | [], t => change t
  | name :: names, t =>
    match t.get? name with
    | none => (changeAt change names []).map fun u => t.insert name (.table u)
    | some (.table u) => (changeAt change names u).map fun u => t.insert name (.table u)
    | some (.list items) =>
      match items.getLast? with
      | some (.table u) => (changeAt change names u).map fun u =>
        t.insert name (.list (items.dropLast ++ [.table u]))
      | _ => .error .overwritten
    | some _ => .error .overwritten

/-- Makes the table behind a key, if it is missing. -/
def openAt (key : Key) (t : Table) : Except Cause Table :=
  changeAt .ok key t

/-- Gives the array of tables behind a key another item, empty. -/
def appendAt (key : Key) (t : Table) : Except Cause Table :=
  let name := key.getLastD ""
  changeAt (fun u => match u.get? name with
    | none => .ok (u.insert name (.list [.table []]))
    | some (.list items) => .ok (u.insert name (.list (items ++ [.table []])))
    | some _ => .error .overwritten) key.dropLast t

/-- Gives a new key a value; `taken` is the cause when the key is there already. -/
def insertAt (taken : Cause) (key : Key) (v : Value) (t : Table) : Except Cause Table :=
  let name := key.getLastD ""
  changeAt (fun u => if u.has name then .error taken else .ok (u.insert name v)) key.dropLast t

/-- Whether a value is a list or a table. -/
def isComposite : Value → Bool
  | .list _ => true
  | .table _ => true
  | _ => false

/-- Whether a key leads into one of the values that are complete. -/
def isInside (complete : List Key) (key : Key) : Bool :=
  complete.any (·.isPrefixOf key)

/-- The result of a change, or its cause as a fault before the characters ahead. -/
def attempt {α : Type} (ahead : List Char) : Except Cause α → Except Stop α
  | .ok a => .ok a
  | .error cause => stop cause ahead

section Reading

variable [Host]

/-! ## Values -/

mutual

/-- Reads a value behind brackets that are open. -/
def readValue (brackets : List Char) : (fuel : Nat) → List Char →
    Except Stop (Value × List Char)
  | 0, cs => stop .invalidValue cs
  | fuel + 1, cs =>
    if !Host.readsOn brackets then stop .tooDeep cs
    else match readText? cs with
    | some reading => do
      let (text, rest) ← reading
      return (.text (String.ofList text), rest)
    | none =>
      match cs with
      | '[' :: rest => do
        let rest ← skipGaps rest
        match rest with
        | ']' :: rest => return (.list [], rest)
        | _ => readItems ('[' :: brackets) fuel [] rest
      | '\x7b' :: rest =>
        match skipSpaces rest with
        | '\x7d' :: rest => .ok (.table [], rest)
        | rest => readEntries ('\x7b' :: brackets) fuel [] [] rest
      | _ =>
        match readWord? cs with
        | some reading => attempt cs reading
        | none => stop .invalidValue cs

/-- Reads the items of a list up to its end; the items read so far are kept in reverse. -/
def readItems (brackets : List Char) : (fuel : Nat) → (read : List Value) → List Char →
    Except Stop (Value × List Char)
  | 0, _, cs => stop .unclosedArray cs
  | fuel + 1, read, cs => do
    let (v, rest) ← readValue brackets fuel cs
    let rest ← skipGaps rest
    match rest with
    | ']' :: rest => return (.list (v :: read).reverse, rest)
    | ',' :: rest =>
      let rest ← skipGaps rest
      match rest with
      | ']' :: rest => return (.list (v :: read).reverse, rest)
      | _ => readItems brackets fuel (v :: read) rest
    | _ => stop .unclosedArray rest

/-- Reads the entries of a table written in one line; `complete` are the keys whose values are
complete. -/
def readEntries (brackets : List Char) : (fuel : Nat) → (complete : List Key) → Table →
    List Char → Except Stop (Value × List Char)
  | 0, _, _, cs => stop .unclosedInlineTable cs
  | fuel + 1, complete, t, cs => do
    let ((key, v), rest) ← readPair brackets fuel cs
    if isInside complete key then stop (.frozen key) rest
    else
      let t ← attempt rest (insertAt (.duplicateKey (key.getLastD "")) key v t)
      match skipSpaces rest with
      | '\x7d' :: rest => return (.table t, rest)
      | ',' :: rest =>
        readEntries brackets fuel (if isComposite v then key :: complete else complete) t
          (skipSpaces rest)
      | rest => stop .unclosedInlineTable rest

/-- Reads a key with its value. -/
def readPair (brackets : List Char) : (fuel : Nat) → List Char →
    Except Stop ((Key × Value) × List Char)
  | 0, cs => stop .badKeyStart cs
  | fuel + 1, cs => do
    let (key, rest) ← readKey cs
    match rest with
    | '=' :: rest =>
      let (v, rest) ← readValue brackets fuel (skipSpaces rest)
      return ((key, v), rest)
    | _ => stop .missingEquals rest

end

/-! ## Statements -/

/-- A document as far as it has been read. -/
structure Document where
  /-- What it says. -/
  contents : Table
  /-- The key of the section being read. -/
  header : Key
  /-- Keys of values that are complete. -/
  complete : List Key
  /-- Keys of tables that cannot be opened by a header, nor by a dotted key. -/
  declared : List Key
  /-- Keys of tables that will be declared when the section ends. -/
  pending : List Key

namespace Document

/-- The document of which nothing has been read. -/
def empty : Document :=
  ⟨[], [], [], [], []⟩

/-- Ends the section being read. -/
def endSection (d : Document) : Document :=
  { d with declared := d.pending ++ d.declared, pending := [] }

/-- Starts the section of a table. -/
def openTable (d : Document) (key : Key) : Except Cause Document :=
  if d.declared.contains key || isInside d.complete key then .error (.declaredTwice key)
  else (openAt key d.contents).map fun t =>
    { d with contents := t, header := key, declared := key :: d.declared }

/-- Starts the section of another item of an array of tables. -/
def openItem (d : Document) (key : Key) : Except Cause Document :=
  if isInside d.complete key then .error (.frozen key)
  else (appendAt key d.contents).map fun t =>
    { d with
      contents := t
      header := key
      complete := d.complete.filter fun k => !key.isPrefixOf k
      declared := key :: d.declared.filter fun k => !key.isPrefixOf k }

/-- The keys of the tables that a dotted key leads through, from the outermost. -/
def passed (header key : Key) : List Key :=
  ((List.range key.length).drop 1).map fun n => header ++ key.take n

/-- Gives a key of the section a value. -/
def assign (d : Document) (key : Key) (v : Value) : Except Cause Document :=
  let through := passed d.header key
  let parent := d.header ++ key.dropLast
  match through.find? d.declared.contains with
  | some k => .error (.redefined k)
  | none =>
    if isInside d.complete parent then .error (.frozen parent)
    else (insertAt .overwritten (d.header ++ key) v d.contents).map fun t =>
      { d with
        contents := t
        pending := through ++ d.pending
        complete := if isComposite v then (d.header ++ key) :: d.complete else d.complete }

/-- Reads the header of a table after its bracket. -/
def readTableHeader (d : Document) (cs : List Char) : Except Stop (Document × List Char) := do
  let (key, rest) ← readKey (skipSpaces cs)
  let d ← attempt rest (d.endSection.openTable key)
  match rest with
  | ']' :: rest => return (d, rest)
  | _ => stop .unclosedTableHeader rest

/-- Reads the header of an item after its two brackets. -/
def readItemHeader (d : Document) (cs : List Char) : Except Stop (Document × List Char) := do
  let (key, rest) ← readKey (skipSpaces cs)
  let d ← attempt rest (d.endSection.openItem key)
  match rest with
  | ']' :: ']' :: rest => return (d, rest)
  | _ => stop .unclosedArrayHeader rest

/-- Whether a character starts a key. -/
def startsKey (c : Char) : Bool :=
  isBare c || c == '"' || c == '\''

/-- Reads a statement that starts with the given character.  The bound is on the number of steps of
reading its value. -/
def readStatement (bound : Nat) (d : Document) : List Char → Except Stop (Document × List Char)
  | '[' :: '[' :: cs => d.readItemHeader cs
  | '[' :: cs => d.readTableHeader cs
  | '#' :: cs => .ok (d, '#' :: cs)
  | c :: cs =>
    if startsKey c then do
      let ((key, v), rest) ← readPair [] bound (c :: cs)
      let d ← attempt rest (d.assign key v)
      return (d, rest)
    else stop .invalidStatement (c :: cs)
  | [] => .ok (d, [])

/-- Reads statements, a line each, up to the end.  The bound is on the number of steps of reading a
value. -/
def readFrom (bound : Nat) : (fuel : Nat) → Document → List Char → Except Stop Document
  | 0, d, _ => .ok d
  | fuel + 1, d, cs =>
    match skipSpaces cs with
    | [] => .ok d
    | '\n' :: rest => readFrom bound fuel d rest
    | start => do
      let (d, rest) ← readStatement bound d start
      let rest ← skipComment (skipSpaces rest)
      match rest with
      | [] => return d
      | '\n' :: rest => readFrom bound fuel d rest
      | _ => stop .missingNewline rest

end Document

/-- A text in which a carriage return before a line feed is left out. -/
def withoutReturns : List Char → List Char
  | '\r' :: '\n' :: cs => '\n' :: withoutReturns cs
  | c :: cs => c :: withoutReturns cs
  | [] => []

/-- Reads a document. -/
def read (text : List Char) : Except Fault Table :=
  let cs := withoutReturns text
  match Document.readFrom (4 * (cs.length + 1)) (cs.length + 1) .empty cs with
  | .ok d => .ok d.contents
  | .error s => .error ⟨s.cause, Place.ofAhead cs s.ahead⟩

end Reading

end Conformance.Toml
