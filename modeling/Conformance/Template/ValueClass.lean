/-
# Classes of values

A template may look at the class of a value: its name, the classes it builds on, what it says
about itself, and its members.  Members are told apart by how a class keeps them, which decides what
they are for the values of the class and for the class itself.
-/

namespace Conformance

/-- A class of values. -/
inductive ValueClass where
  /-- What all values have in common. -/
  | object
  /-- Texts. -/
  | text
  /-- Whole numbers. -/
  | whole
  /-- Real numbers. -/
  | real
  /-- Classes. -/
  | sort
  /-- Tuples. -/
  | tuple
  /-- The value that stands for none. -/
  | nothing
  /-- Methods of a given value. -/
  | boundMethod
  /-- Slots of a given value. -/
  | boundSlot
  /-- Methods of a class. -/
  | method
  /-- Slots of a class. -/
  | slot
  /-- Attributes of a class. -/
  | attribute
  /-- Fields of a class. -/
  | field
  /-- Methods of a class as a whole. -/
  | classMethod
  /-- Methods that belong to no value. -/
  | static
  /-- The members of a class, by name. -/
  | namespace
  /-- Classes with an index. -/
  | generic
  /-- Truth values. -/
  | flag
  /-- Tables. -/
  | table
  deriving DecidableEq, Repr, Inhabited

/-- How a class keeps a member. -/
inductive MemberKind where
  /-- An operation that notation stands for. -/
  | slot
  /-- An operation by name. -/
  | method
  /-- A value that is computed. -/
  | attribute
  /-- A value that is stored. -/
  | field
  /-- An operation of the class as a whole. -/
  | classMethod
  /-- An operation that needs no value. -/
  | staticMethod
  /-- The operation that makes values. -/
  | maker
  /-- What the class says about itself. -/
  | help
  /-- The mark that values of the class are no keys. -/
  | unhashable
  deriving DecidableEq, Repr, Inhabited

/-- The sizes of a class. -/
structure ClassSizes where
  /-- The size of a value. -/
  basic : Nat
  /-- The size of an item of a value. -/
  item : Nat
  /-- Where further attributes are kept. -/
  attributes : Nat
  /-- Where weak references are kept. -/
  references : Nat
  deriving Inhabited

namespace ValueClass

/-- The name of a class, as diagnostics show it. -/
def name : ValueClass → String
  | .object => "object"
  | .text => "str"
  | .whole => "int"
  | .real => "float"
  | .sort => "type"
  | .tuple => "tuple"
  | .nothing => "NoneType"
  | .boundMethod => "builtin_function_or_method"
  | .boundSlot => "method-wrapper"
  | .method => "method_descriptor"
  | .slot => "wrapper_descriptor"
  | .attribute => "getset_descriptor"
  | .field => "member_descriptor"
  | .classMethod => "classmethod_descriptor"
  | .static => "staticmethod"
  | .namespace => "mappingproxy"
  | .generic => "types.GenericAlias"
  | .flag => "bool"
  | .table => "dict"

/-- The name of a class, without the collection that it is from. -/
def shortName : ValueClass → String
  | .generic => "GenericAlias"
  | c => c.name

/-- The collection that a class is from. -/
def collection : ValueClass → String
  | .generic => "types"
  | _ => "builtins"

/-- A class and the classes it builds on, itself first. -/
def line : ValueClass → List ValueClass
  | .object => [.object]
  | .flag => [.flag, .whole, .object]
  | c => [c, .object]

/-- The members of a class by name, by the way it keeps them. -/
def members : ValueClass → List (MemberKind × List String)
  | .object => [
      (.slot, ["__delattr__", "__eq__", "__ge__", "__getattribute__", "__gt__", "__hash__",
         "__init__", "__le__", "__lt__", "__ne__", "__repr__", "__setattr__", "__str__"]),
      (.method, ["__dir__", "__format__", "__getstate__", "__reduce__", "__reduce_ex__",
         "__sizeof__"]),
      (.attribute, ["__class__"]),
      (.classMethod, ["__init_subclass__", "__subclasshook__"]),
      (.maker, ["__new__"]),
      (.help, ["__doc__"])]
  | .text => [
      (.slot, ["__add__", "__contains__", "__eq__", "__ge__", "__getattribute__", "__getitem__",
         "__gt__", "__hash__", "__iter__", "__le__", "__len__", "__lt__", "__mod__", "__mul__",
         "__ne__", "__repr__", "__rmod__", "__rmul__", "__str__"]),
      (.method, ["__format__", "__getnewargs__", "__sizeof__", "capitalize", "casefold", "center",
         "count", "encode", "endswith", "expandtabs", "find", "format", "format_map", "index",
         "isalnum", "isalpha", "isascii", "isdecimal", "isdigit", "isidentifier", "islower",
         "isnumeric", "isprintable", "isspace", "istitle", "isupper", "join", "ljust", "lower",
         "lstrip", "partition", "removeprefix", "removesuffix", "replace", "rfind", "rindex",
         "rjust", "rpartition", "rsplit", "rstrip", "split", "splitlines", "startswith", "strip",
         "swapcase", "title", "translate", "upper", "zfill"]),
      (.staticMethod, ["maketrans"]),
      (.maker, ["__new__"]),
      (.help, ["__doc__"])]
  | .whole => [
      (.slot, ["__abs__", "__add__", "__and__", "__bool__", "__divmod__", "__eq__", "__float__",
         "__floordiv__", "__ge__", "__getattribute__", "__gt__", "__hash__", "__index__",
         "__int__", "__invert__", "__le__", "__lshift__", "__lt__", "__mod__", "__mul__",
         "__ne__", "__neg__", "__or__", "__pos__", "__pow__", "__radd__", "__rand__",
         "__rdivmod__", "__repr__", "__rfloordiv__", "__rlshift__", "__rmod__", "__rmul__",
         "__ror__", "__rpow__", "__rrshift__", "__rshift__", "__rsub__", "__rtruediv__",
         "__rxor__", "__sub__", "__truediv__", "__xor__"]),
      (.method, ["__ceil__", "__floor__", "__format__", "__getnewargs__", "__round__",
         "__sizeof__", "__trunc__", "as_integer_ratio", "bit_count", "bit_length", "conjugate",
         "to_bytes"]),
      (.attribute, ["denominator", "imag", "numerator", "real"]),
      (.classMethod, ["from_bytes"]),
      (.maker, ["__new__"]),
      (.help, ["__doc__"])]
  | .real => [
      (.slot, ["__abs__", "__add__", "__bool__", "__divmod__", "__eq__", "__float__",
         "__floordiv__", "__ge__", "__getattribute__", "__gt__", "__hash__", "__int__", "__le__",
         "__lt__", "__mod__", "__mul__", "__ne__", "__neg__", "__pos__", "__pow__", "__radd__",
         "__rdivmod__", "__repr__", "__rfloordiv__", "__rmod__", "__rmul__", "__rpow__",
         "__rsub__", "__rtruediv__", "__sub__", "__truediv__"]),
      (.method, ["__ceil__", "__floor__", "__format__", "__getnewargs__", "__round__",
         "__trunc__", "as_integer_ratio", "conjugate", "hex", "is_integer"]),
      (.attribute, ["imag", "real"]),
      (.classMethod, ["__getformat__", "fromhex"]),
      (.maker, ["__new__"]),
      (.help, ["__doc__"])]
  | .sort => [
      (.slot, ["__call__", "__delattr__", "__getattribute__", "__init__", "__or__", "__repr__",
         "__ror__", "__setattr__"]),
      (.method, ["__dir__", "__instancecheck__", "__sizeof__", "__subclasscheck__",
         "__subclasses__", "mro"]),
      (.attribute, ["__abstractmethods__", "__annotations__", "__bases__", "__dict__", "__doc__",
         "__module__", "__name__", "__qualname__", "__text_signature__"]),
      (.field, ["__base__", "__basicsize__", "__dictoffset__", "__flags__", "__itemsize__",
         "__mro__", "__weakrefoffset__"]),
      (.classMethod, ["__prepare__"]),
      (.maker, ["__new__"])]
  | .tuple => [
      (.slot, ["__add__", "__contains__", "__eq__", "__ge__", "__getattribute__", "__getitem__",
         "__gt__", "__hash__", "__iter__", "__le__", "__len__", "__lt__", "__mul__", "__ne__",
         "__repr__", "__rmul__"]),
      (.method, ["__getnewargs__", "count", "index"]),
      (.classMethod, ["__class_getitem__"]),
      (.maker, ["__new__"]),
      (.help, ["__doc__"])]
  | .nothing => [
      (.slot, ["__bool__", "__repr__"]),
      (.maker, ["__new__"]),
      (.help, ["__doc__"])]
  | .boundMethod => [
      (.slot, ["__call__", "__eq__", "__ge__", "__getattribute__", "__gt__", "__hash__", "__le__",
         "__lt__", "__ne__", "__repr__"]),
      (.method, ["__reduce__"]),
      (.attribute, ["__doc__", "__name__", "__qualname__", "__self__", "__text_signature__"]),
      (.field, ["__module__"])]
  | .boundSlot => [
      (.slot, ["__call__", "__eq__", "__ge__", "__getattribute__", "__gt__", "__hash__", "__le__",
         "__lt__", "__ne__", "__repr__"]),
      (.method, ["__reduce__"]),
      (.attribute, ["__doc__", "__name__", "__objclass__", "__qualname__", "__text_signature__"]),
      (.field, ["__self__"])]
  | .method => [
      (.slot, ["__call__", "__get__", "__getattribute__", "__repr__"]),
      (.method, ["__reduce__"]),
      (.attribute, ["__doc__", "__qualname__", "__text_signature__"]),
      (.field, ["__name__", "__objclass__"])]
  | .slot => [
      (.slot, ["__call__", "__get__", "__getattribute__", "__repr__"]),
      (.method, ["__reduce__"]),
      (.attribute, ["__doc__", "__qualname__", "__text_signature__"]),
      (.field, ["__name__", "__objclass__"])]
  | .attribute => [
      (.slot, ["__delete__", "__get__", "__getattribute__", "__repr__", "__set__"]),
      (.attribute, ["__doc__", "__qualname__"]),
      (.field, ["__name__", "__objclass__"])]
  | .field => [
      (.slot, ["__delete__", "__get__", "__getattribute__", "__repr__", "__set__"]),
      (.method, ["__reduce__"]),
      (.attribute, ["__doc__", "__qualname__"]),
      (.field, ["__name__", "__objclass__"])]
  | .classMethod => [
      (.slot, ["__call__", "__get__", "__getattribute__", "__repr__"]),
      (.attribute, ["__doc__", "__qualname__", "__text_signature__"]),
      (.field, ["__name__", "__objclass__"])]
  | .static => [
      (.slot, ["__call__", "__get__", "__init__", "__repr__"]),
      (.attribute, ["__dict__", "__isabstractmethod__"]),
      (.field, ["__func__", "__wrapped__"]),
      (.maker, ["__new__"]),
      (.help, ["__doc__"])]
  | .namespace => [
      (.slot, ["__contains__", "__eq__", "__ge__", "__getattribute__", "__getitem__", "__gt__",
         "__ior__", "__iter__", "__le__", "__len__", "__lt__", "__ne__", "__or__", "__repr__",
         "__ror__", "__str__"]),
      (.method, ["__reversed__", "copy", "get", "items", "keys", "values"]),
      (.classMethod, ["__class_getitem__"]),
      (.maker, ["__new__"]),
      (.help, ["__doc__"]),
      (.unhashable, ["__hash__"])]
  | .generic => [
      (.slot, ["__call__", "__eq__", "__ge__", "__getattribute__", "__getitem__", "__gt__",
         "__hash__", "__iter__", "__le__", "__lt__", "__ne__", "__or__", "__repr__", "__ror__"]),
      (.method, ["__dir__", "__instancecheck__", "__mro_entries__", "__reduce__",
         "__subclasscheck__"]),
      (.attribute, ["__parameters__", "__typing_unpacked_tuple_args__"]),
      (.field, ["__args__", "__origin__", "__unpacked__"]),
      (.maker, ["__new__"]),
      (.help, ["__doc__"])]
  | .flag => [
      (.slot, ["__and__", "__or__", "__rand__", "__repr__", "__ror__", "__rxor__", "__xor__"]),
      (.maker, ["__new__"]),
      (.help, ["__doc__"])]
  | .table => [
      (.slot, ["__delitem__", "__eq__", "__ge__", "__getattribute__", "__gt__", "__init__",
         "__ior__", "__iter__", "__le__", "__len__", "__lt__", "__ne__", "__or__", "__repr__",
         "__ror__", "__setitem__"]),
      (.method, ["__contains__", "__getitem__", "__reversed__", "__sizeof__", "clear", "copy",
         "get", "items", "keys", "pop", "popitem", "setdefault", "update", "values"]),
      (.classMethod, ["__class_getitem__", "fromkeys"]),
      (.maker, ["__new__"]),
      (.help, ["__doc__"]),
      (.unhashable, ["__hash__"])]

/-- The sizes of a class. -/
def sizes : ValueClass → ClassSizes
  | .object => ⟨16, 0, 0, 0⟩
  | .text => ⟨80, 0, 0, 0⟩
  | .whole => ⟨24, 4, 0, 0⟩
  | .real => ⟨24, 0, 0, 0⟩
  | .sort => ⟨904, 40, 264, 368⟩
  | .tuple => ⟨24, 8, 0, 0⟩
  | .nothing => ⟨16, 0, 0, 0⟩
  | .boundMethod => ⟨56, 0, 0, 40⟩
  | .boundSlot => ⟨32, 0, 0, 0⟩
  | .method => ⟨56, 0, 0, 0⟩
  | .slot => ⟨56, 0, 0, 0⟩
  | .attribute => ⟨48, 0, 0, 0⟩
  | .field => ⟨48, 0, 0, 0⟩
  | .classMethod => ⟨56, 0, 0, 0⟩
  | .static => ⟨32, 0, 24, 0⟩
  | .namespace => ⟨24, 0, 0, 0⟩
  | .generic => ⟨64, 0, 0, 40⟩
  | .flag => ⟨32, 4, 0, 0⟩
  | .table => ⟨48, 0, 0, 0⟩

/-- How a class itself keeps a member. -/
def kindOf? (c : ValueClass) (member : String) : Option MemberKind :=
  (c.members.find? fun (_, names) => names.contains member).map (·.1)

/-- The first class that keeps a member, along the classes that a class builds on, and how it keeps
it. -/
def find? (c : ValueClass) (member : String) : Option (ValueClass × MemberKind) :=
  c.line.findSome? fun d => (d.kindOf? member).map (d, ·)

/-- Whether a class can be given an index. -/
def takesIndex (c : ValueClass) : Bool :=
  c == .sort || (c.find? "__class_getitem__").isSome

end ValueClass
end Conformance
