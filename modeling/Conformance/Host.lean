/-
# What the program runs on

Some of what the program does is decided by what runs it and by the machine: what classes and their
members say about themselves, how deeply calls may be nested, and which encodings are known beside
the common ones.  `Host` holds these as they are found; everything else is defined for every host.
`Host.plain` is one of them, on which the program can be tried.
-/
import Conformance.Fault
import Conformance.Template.ValueClass

namespace Conformance

/-- Why a codec gives no text. -/
inductive CodecFault where
  /-- The bytes are no text, for a reason. -/
  | undecodable (reason : String)
  /-- The codec fails in another way. -/
  | other (fault : Fault)
  deriving DecidableEq, Repr, Inhabited

/-- A way of reading bytes as a text. -/
abbrev Codec := List UInt8 → Except CodecFault (List Char)

/-- What the program runs on. -/
class Host where
  /-- What a class, or a member that it keeps, says about itself. -/
  documentation : ValueClass → (member : Option String) → Option String
  /-- The form in which a class makes values, or in which a member that it keeps is called. -/
  signature : ValueClass → (member : Option String) → Option String
  /-- How deeply lists and tables may be nested in the value of a key that is written. -/
  levels : (key : String) → Nat
  /-- Whether a document is read on behind brackets that are open, the last one first. -/
  readsOn : (brackets : List Char) → Bool
  /-- How deeply folders may be nested in a walk. -/
  folderDepth : Nat
  /-- The codec with a name that is none of the common ones. -/
  codec : (name : String) → Except Fault Codec

namespace Host

/-! ## A plain host -/

/-- What a class says about itself. -/
def description? : ValueClass → Option String
  | .object => some ("The base class of the class hierarchy.\n" ++
      "\n" ++
      "When called, it accepts no arguments and returns a new featureless\n" ++
      "instance that has no instance attributes and cannot be given any.\n")
  | .text => some ("str(object='') -> str\n" ++
      "str(bytes_or_buffer[, encoding[, errors]]) -> str\n" ++
      "\n" ++
      "Create a new string object from the given object. If encoding or\n" ++
      "errors is specified, then the object must expose a data buffer\n" ++
      "that will be decoded using the given encoding and error handler.\n" ++
      "Otherwise, returns the result of object.__str__() (if defined)\n" ++
      "or repr(object).\n" ++
      "encoding defaults to sys.getdefaultencoding().\n" ++
      "errors defaults to 'strict'.")
  | .whole => some ("int([x]) -> integer\n" ++
      "int(x, base=10) -> integer\n" ++
      "\n" ++
      "Convert a number or string to an integer, or return 0 if no arguments\n" ++
      "are given.  If x is a number, return x.__int__().  For floating point\n" ++
      "numbers, this truncates towards zero.\n" ++
      "\n" ++
      "If x is not a number or if base is given, then x must be a string,\n" ++
      "bytes, or bytearray instance representing an integer literal in the\n" ++
      "given base.  The literal can be preceded by '+' or '-' and be surrounded\n" ++
      "by whitespace.  The base defaults to 10.  Valid bases are 0 and 2-36.\n" ++
      "Base 0 means to interpret the base from the string as an integer literal.\n" ++
      ">>> int('0b100', base=0)\n" ++
      "4")
  | .real => some ("Convert a string or number to a floating point number, if possible.")
  | .sort => some ("type(object) -> the object's type\n" ++
      "type(name, bases, dict, **kwds) -> a new type")
  | .tuple => some ("Built-in immutable sequence.\n" ++
      "\n" ++
      "If no argument is given, the constructor returns an empty tuple.\n" ++
      "If iterable is specified the tuple is initialized from iterable's items.\n" ++
      "\n" ++
      "If the argument is a tuple, the return value is the same object.")
  | _ => none

/-- The form in which values of a class are made, if it is told. -/
def signature? : ValueClass → Option String
  | .object => some "()"
  | .real => some "(x=0, /)"
  | .tuple => some "(iterable=(), /)"
  | _ => none

/-- A host whose members say nothing and that knows the common encodings alone. -/
@[reducible] def plain : Host where
  documentation c member := if member.isNone then description? c else none
  signature c member := if member.isNone then signature? c else none
  levels _ := 980
  readsOn brackets := brackets.foldr (fun c n => (if c == '[' then 2 else 3) + n) 0 < 980
  folderDepth := 980
  codec name := .error (.unknownEncoding name)

end Host
end Conformance
