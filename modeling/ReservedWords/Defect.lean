import ReservedWords.FileTree

/-!
Defects: failures for which the library has no report, so that they end whatever was being done.
-/

namespace ReservedWords

/-- The kinds of defects. -/
inductive Defect where
  /-- A value has a type for which an operation is not defined. -/
  | wrongType
  /-- A value lacks the part that was asked for. -/
  | noSuchMember
  /-- A value of the right type cannot be used. -/
  | badValue
  /-- Something that was taken for granted does not hold. -/
  | brokenAssumption
  /-- Bytes that should be a text are none. -/
  | undecodable
  /-- A text has surrogates, and so no bytes. -/
  | unencodable
  /-- A file cannot be used. -/
  | file (cause : FileTree.Cause)
  /-- A number is out of range. -/
  | overflow
  /-- A recursion has no end. -/
  | endlessRecursion
  /-- A regular expression cannot be compiled. -/
  | uncompilable
  /-- Something that is needed is not there. -/
  | unsupported
  deriving DecidableEq, Repr

/-- A file error that is not reported. -/
def Defect.ofFile : FileTree.Error → Defect
  | .failed cause _ => .file cause
  | .embeddedNul => .badValue

/-- A text that cannot be read and is not reported. -/
def Defect.ofText : FileTree.TextError → Defect
  | .file error => ofFile error
  | .undecodable _ => .undecodable

end ReservedWords
