/-
# Refusals of the file system

What the file system answers when it cannot do what is asked of a path, with its numbers and words.
-/
import Conformance.Number.Decimal
import Conformance.Text.Quoted

namespace Conformance

/-- Why the file system refuses. -/
inductive FileProblem where
  /-- Nothing has the path. -/
  | missing
  /-- A folder is wanted, and a folder or file is there already. -/
  | occupied
  /-- The path leads through a file. -/
  | notFolder
  /-- A folder stands where a file is wanted. -/
  | isFolder
  /-- A name of the path is too long. -/
  | nameTooLong
  /-- A name of the path holds the character that ends paths, so that no path is told. -/
  | nullName
  /-- Another refusal, with its number and words. -/
  | other (number : Nat) (words : String)
  deriving DecidableEq, Repr, Inhabited

namespace FileProblem

/-- The number of a refusal, or zero if the path is refused before it is looked at. -/
def number : FileProblem → Nat
  | .missing => 2
  | .occupied => 17
  | .notFolder => 20
  | .isFolder => 21
  | .nameTooLong => 36
  | .nullName => 0
  | .other n _ => n

/-- The words of a refusal. -/
def words : FileProblem → String
  | .missing => "No such file or directory"
  | .occupied => "File exists"
  | .notFolder => "Not a directory"
  | .isFolder => "Is a directory"
  | .nameTooLong => "File name too long"
  | .nullName => "embedded null byte"
  | .other _ w => w

/-- Whether a refusal tells that nothing is at a path: nothing is there, the way leads through a
file or in a circle, or no path is told. -/
def isAbsence (p : FileProblem) : Bool :=
  p == .nullName || [2, 9, 20, 40].contains p.number

/-- The wording of a refusal for a path. -/
def message (p : FileProblem) (path : String) : String :=
  if p == .nullName then p.words
  else "[Errno " ++ intText p.number ++ "] " ++ p.words ++ ": " ++ Text.quoted path

end FileProblem
end Conformance
