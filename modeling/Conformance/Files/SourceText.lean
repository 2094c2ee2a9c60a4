/-
# Reading source files

A source file is refused when it is larger than a limit, when the file system refuses it, or when
its bytes are not a text in the encoding.  Otherwise its carriage returns become line feeds, one
mark at its start is dropped, and it is cut into lines.  The common encodings are defined here; the
codecs of all others are the host's.
-/
import Conformance.Files.Tree
import Conformance.Text.Encoding
import Conformance.Text.Lines
import Conformance.Value.Collection

namespace Conformance

/-- The encoding of files when none is named. -/
def standardEncoding : String := "utf-8"

/-- The name of an encoding that a value gives. -/
def encodingName : Value → Except Fault String
  | .text s => if s.toList.contains '\x00' then .error .nullInName else .ok s
  | .null => .ok standardEncoding
  | v => .error (.notEncodingName v.typeName)

/-- The mark that may stand at the start of a text. -/
def byteOrderMark : Char := '\ufeff'

/-- The lines of a text that was read from a file. -/
def linesOfText (cs : List Char) : List String :=
  let cs := Text.unifyBreaks cs
  let cs := if cs.head? == some byteOrderMark then cs.drop 1 else cs
  Text.lines (String.ofList cs)

/-- A fault of a common encoding as one of its codec. -/
def DecodeFault.asCodecFault : DecodeFault → CodecFault
  | .badBytes b => .undecodable b.message
  | .missingMark => .other .missingMark

/-- The codec of the encoding with a name. -/
def codecOf [Host] (encoding : String) : Except Fault Codec :=
  match Encoding.ofName? encoding with
  | some e => .ok fun bytes => (e.decode bytes).mapError DecodeFault.asCodecFault
  | none => Host.codec encoding

/-- Reads bytes as lines, if an encoding has the name. -/
def decodeLines [Host] (path : Path) (encoding : String) (bytes : List UInt8) :
    Except Fault (List String) := do
  match (← codecOf encoding) bytes with
  | .ok cs => return linesOfText cs
  | .error (.undecodable reason) => throw (.fileAccess path.text ("Encoding error: " ++ reason))
  | .error (.other f) => throw f

namespace FileSystem

/-- The fault of a file that the file system refuses. -/
def refusal (path : Path) (p : FileProblem) : Fault :=
  if p == .nullName then .system p path.text
  else .fileAccess path.text ("OS error: " ++ p.message path.text)

/-- Refuses a file that is larger than a limit. -/
def checkSize (files : FileSystem) (path : Path) : Option Number → Except Fault Unit
  | none => .ok ()
  | some limit => do
    let size := (← (files.find path).mapError (refusal path)).size
    if limit.isExceededBy size then
      throw (.fileAccess path.text
        ("File too large: " ++ intText size ++ " bytes (max " ++ limit.text ++ ")"))

/-- The lines of the source file at a path. -/
def readSource [Host] (files : FileSystem) (path : Path) (encoding : Value)
    (limit : Option Number) : Except Fault (List String) := do
  files.checkSize path limit
  let name ← encodingName encoding
  let bytes ← (files.read path).mapError (refusal path)
  decodeLines path name bytes

end FileSystem
end Conformance
