/-
# Values of fields

A field of a template holds a text or a number.  Looking up an attribute or an item of a value gives
another value, which may be a class, a member of one, or an operation of a value.  A member is found
along the line of classes that a class builds on; how the class keeps it decides what comes of it,
for a value of the class (`FieldValue.bound`) and for the class itself (`FieldValue.ofMember`).
-/
import Conformance.Host
import Conformance.Template.Layout

namespace Conformance

/-- What an item is looked up by. -/
inductive ItemKey where
  /-- A number. -/
  | place (n : Nat)
  /-- A word. -/
  | word (s : String)
  deriving DecidableEq, Repr, Inhabited

/-- A key as it is shown in a diagnostic. -/
def ItemKey.quoted : ItemKey → String
  | .place n => intText n
  | .word s => Text.quoted s

/-- A value of a field, or of an attribute or an item of one. -/
inductive FieldValue where
  /-- A text. -/
  | text (s : String)
  /-- A whole number. -/
  | int (i : Int)
  /-- A real number. -/
  | real (x : Binary64)
  /-- A truth value. -/
  | flag (b : Bool)
  /-- The features of a class, as the bits of a whole number. -/
  | features (c : ValueClass)
  /-- No value. -/
  | nothing
  /-- A class. -/
  | sort (c : ValueClass)
  /-- A tuple of classes. -/
  | sorts (cs : List ValueClass)
  /-- A tuple of one key. -/
  | single (key : ItemKey)
  /-- A class with an index. -/
  | generic (c : ValueClass) (index : ItemKey)
  /-- The members of a class, by name. -/
  | namespace (c : ValueClass)
  /-- An empty table. -/
  | table
  /-- An operation of a value, written by name or as a slot, and the class that keeps it. -/
  | operation (keeper : ValueClass) (owner : FieldValue) (slot : Bool) (name : String)
  /-- A member of a class, by the way the class keeps it. -/
  | member (kind : MemberKind) (keeper : ValueClass) (name : String)
  deriving DecidableEq, Repr, Inhabited

namespace FieldValue

/-- The class of the members that are kept in one way. -/
def memberClass : MemberKind → ValueClass
  | .slot => .slot
  | .method => .method
  | .attribute => .attribute
  | .field => .field
  | .classMethod => .classMethod
  | .staticMethod => .static
  | .maker => .boundMethod
  | .help => .text
  | .unhashable => .nothing

/-- The class of a value. -/
def valueClass : FieldValue → ValueClass
  | .text _ => .text
  | .int _ => .whole
  | .real _ => .real
  | .flag _ => .flag
  | .features _ => .whole
  | .nothing => .nothing
  | .sort _ => .sort
  | .sorts _ => .tuple
  | .single _ => .tuple
  | .generic .. => .generic
  | .namespace _ => .namespace
  | .table => .table
  | .operation _ _ slot _ => if slot then .boundSlot else .boundMethod
  | .member kind _ _ => memberClass kind

/-- The name of a value's class. -/
def typeName (v : FieldValue) : String :=
  v.valueClass.name

/-- A text, or no value. -/
def ofText? : Option String → FieldValue
  | some s => .text s
  | none => .nothing

section Lookup

variable [Host]

/-! ## What values tell -/

/-- What a whole number tells. -/
def wholeFact? (i : FieldValue) : String → Option FieldValue
  | "real" => some i
  | "numerator" => some i
  | "imag" => some (.int 0)
  | "denominator" => some (.int 1)
  | _ => none

/-- What a real number tells. -/
def realFact? (x : Binary64) : String → Option FieldValue
  | "real" => some (.real x)
  | "imag" => some (.real Binary64.zero)
  | _ => none

/-- What a class says about itself; some classes keep an attribute in its place. -/
def documentation (c : ValueClass) : FieldValue :=
  if c.kindOf? "__doc__" == some .attribute then .member .attribute c "__doc__"
  else ofText? (Host.documentation c none)

/-- What a class tells about itself. -/
def classFact? (c : ValueClass) : String → Option FieldValue
  | "__name__" => some (.text c.shortName)
  | "__qualname__" => some (.text c.shortName)
  | "__module__" => some (.text c.collection)
  | "__mro__" => some (.sorts c.line)
  | "__bases__" => some (.sorts ((c.line.drop 1).take 1))
  | "__base__" => some (((c.line.drop 1).head?.map .sort).getD .nothing)
  | "__doc__" => some (documentation c)
  | "__text_signature__" => some (ofText? (Host.signature c none))
  | "__dict__" => some (.namespace c)
  | "__basicsize__" => some (.int c.sizes.basic)
  | "__itemsize__" => some (.int c.sizes.item)
  | "__flags__" => some (.features c)
  | "__dictoffset__" => some (.int c.sizes.attributes)
  | "__weakrefoffset__" => some (.int c.sizes.references)
  | _ => none

/-- The class whose name stands before that of a method: its owner if that is a class, else the
class of its owner. -/
def namingClass : FieldValue → ValueClass
  | .sort c => c
  | v => v.valueClass

/-- What an operation tells about itself.  One that needs no value does not tell its owner. -/
def operationFact? (keeper : ValueClass) (owner : FieldValue) (slot : Bool) (name : String) :
    String → Option FieldValue
  | "__name__" => some (.text name)
  | "__self__" =>
    some (if keeper.kindOf? name == some .staticMethod then .nothing else owner)
  | "__objclass__" => some (.sort keeper)
  | "__qualname__" =>
    some (.text ((if slot then keeper else owner.namingClass).shortName ++ "." ++ name))
  | "__doc__" => some (ofText? (Host.documentation keeper (some name)))
  | "__text_signature__" => some (ofText? (Host.signature keeper (some name)))
  | "__module__" => some .nothing
  | _ => none

/-- What a member of a class tells about itself. -/
def memberFact? (keeper : ValueClass) (name : String) : String → Option FieldValue
  | "__name__" => some (.text name)
  | "__qualname__" => some (.text (keeper.shortName ++ "." ++ name))
  | "__objclass__" => some (.sort keeper)
  | "__doc__" => some (ofText? (Host.documentation keeper (some name)))
  | "__text_signature__" => some (ofText? (Host.signature keeper (some name)))
  | "__func__" => some (.operation keeper (.sort keeper) false name)
  | "__wrapped__" => some (.operation keeper (.sort keeper) false name)
  | "__isabstractmethod__" => some (.flag false)
  | "__dict__" => some .table
  | _ => none

/-- What a class with an index tells about itself. -/
def genericFact? (c : ValueClass) (index : ItemKey) : String → Option FieldValue
  | "__origin__" => some (.sort c)
  | "__args__" => some (.single index)
  | "__parameters__" => some (.sorts [])
  | "__unpacked__" => some (.flag false)
  | "__typing_unpacked_tuple_args__" => some .nothing
  | _ => none

/-- What a value tells, by the name of the attribute or field. -/
def fact? (v : FieldValue) (name : String) : Option FieldValue :=
  if name == "__class__" then some (.sort v.valueClass)
  else match v with
    | .int i => wholeFact? (.int i) name
    | .flag b => wholeFact? (.int (if b then 1 else 0)) name
    | .features c => wholeFact? (.features c) name
    | .real x => realFact? x name
    | .sort c => classFact? c name
    | .generic c index => genericFact? c index name
    | .operation keeper owner slot op => operationFact? keeper owner slot op name
    | .member _ keeper op => memberFact? keeper op name
    | _ => none

/-- What a value tells.  Two attributes of classes are there and tell nothing. -/
def fact (v : FieldValue) (name : String) : Except TemplateFault FieldValue :=
  match v.fact? name, v with
  | some w, _ => .ok w
  | none, .sort c =>
    .error (if name == "__abstractmethods__" then .missingFact name
      else .noClassAttribute c.name name)
  | none, v => .error (.noAttribute v.typeName name)

/-! ## Attributes -/

/-- What a member that a class keeps is for a value. -/
def bound (v : FieldValue) (keeper : ValueClass) (kind : MemberKind) (name : String) :
    Except TemplateFault FieldValue :=
  match kind with
  | .slot => .ok (.operation keeper v true name)
  | .method => .ok (.operation keeper v false name)
  | .classMethod => .ok (.operation keeper (.sort v.valueClass) false name)
  | .staticMethod => .ok (.operation keeper (.sort keeper) false name)
  | .maker => .ok (.operation keeper (.sort keeper) false name)
  | .attribute => v.fact name
  | .field => v.fact name
  | .help => .ok (documentation keeper)
  | .unhashable => .ok .nothing

/-- What a member that a class keeps is for a class that builds on it. -/
def ofMember (c keeper : ValueClass) (kind : MemberKind) (name : String) : FieldValue :=
  match kind with
  | .classMethod => .operation keeper (.sort c) false name
  | .staticMethod => .operation keeper (.sort keeper) false name
  | .maker => .operation keeper (.sort keeper) false name
  | .help => documentation keeper
  | .unhashable => .nothing
  | kind => .member kind keeper name

/-- A member of a class as the class keeps it. -/
def kept (keeper : ValueClass) (kind : MemberKind) (name : String) : FieldValue :=
  match kind with
  | .maker => .operation keeper (.sort keeper) false name
  | .help => documentation keeper
  | .unhashable => .nothing
  | kind => .member kind keeper name

/-- An attribute of a class: what it tells as a class, one of its members, or what it can do as a
class, in this order. -/
def classProperty (c : ValueClass) (name : String) : Except TemplateFault FieldValue :=
  match ValueClass.sort.find? name, c.find? name with
  | some (_, .attribute), _ => fact (.sort c) name
  | some (_, .field), _ => fact (.sort c) name
  | _, some (keeper, kind) => .ok (ofMember c keeper kind name)
  | some (keeper, kind), none => bound (.sort c) keeper kind name
  | none, none => .error (.noClassAttribute c.name name)

/-- An attribute that the class of a value gives it. -/
def ownProperty (v : FieldValue) (name : String) : Except TemplateFault FieldValue :=
  match v.valueClass.find? name with
  | some (keeper, kind) => v.bound keeper kind name
  | none => .error (.noAttribute v.typeName name)

/-- The attributes that a class with an index has itself; it takes all others from the class. -/
def genericNames : List String :=
  ["__class__", "__origin__", "__args__", "__unpacked__", "__parameters__",
    "__typing_unpacked_tuple_args__", "__mro_entries__", "__reduce_ex__", "__reduce__", "__copy__",
    "__deepcopy__"]

/-- An attribute of a value. -/
def property (v : FieldValue) (name : String) : Except TemplateFault FieldValue :=
  match v with
  | .sort c => classProperty c name
  | .generic c index =>
    if genericNames.contains name then ownProperty (.generic c index) name
    else classProperty c name
  | v => v.ownProperty name

/-! ## Items -/

/-- The number written by digits alone, from the digits before on; none if something else is
met first. -/
def indexFrom (n : Nat) : List Char → Except TemplateFault (Option Nat)
  | [] => .ok (some n)
  | c :: cs =>
    match Text.digitValue? c with
    | none => .ok none
    | some d =>
      if Layout.numberLimit < 10 * n + d then .error .tooManyDigits else indexFrom (10 * n + d) cs

/-- The number written by digits alone. -/
def indexOf (cs : List Char) : Except TemplateFault (Option Nat) :=
  if cs.isEmpty then .ok none else indexFrom 0 cs

/-- The item of a tuple. -/
def itemOf (items : List FieldValue) : ItemKey → Except TemplateFault FieldValue
  | .place n =>
    match items[n]? with
    | some v => .ok v
    | none => .error .tupleIndexOutOfRange
  | .word _ => .error .tupleWordIndex

/-- A key as a value. -/
def ofKey : ItemKey → FieldValue
  | .place n => .int n
  | .word s => .text s

/-- A class with an index, as diagnostics show it. -/
def genericText (c : ValueClass) (index : ItemKey) : String :=
  c.name ++ "[" ++ index.quoted ++ "]"

/-- The item of a value with a key. -/
def itemAt (v : FieldValue) (key : ItemKey) : Except TemplateFault FieldValue :=
  match v, key with
  | .text s, .place n =>
    match s.toList[n]? with
    | some c => .ok (.text c.toString)
    | none => .error .indexOutOfRange
  | .text _, .word _ => .error .wordIndex
  | .sorts cs, key => itemOf (cs.map .sort) key
  | .single k, key => itemOf [ofKey k] key
  | .sort c, key =>
    if c.takesIndex then .ok (.generic c key) else .error (.classNotIndexable c.name)
  | .generic c index, _ => .error (.notGeneric (genericText c index))
  | .namespace c, .word name =>
    match c.kindOf? name with
    | some kind => .ok (kept c kind name)
    | none => .error (.missingKey (Text.quoted name))
  | .namespace _, .place n => .error (.missingKey (intText n))
  | .table, key => .error (.missingKey key.quoted)
  | v, _ => .error (.notIndexable v.typeName)

/-- An item of a value. -/
def item (v : FieldValue) (index : List Char) : Except TemplateFault FieldValue := do
  match ← indexOf index with
  | some n => v.itemAt (.place n)
  | none => v.itemAt (.word (String.ofList index))

end Lookup

end FieldValue
end Conformance
