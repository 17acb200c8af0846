/-!
# Faults without an error of their own

The tool reports most faults as errors of its own. The kinds below end a run with no message.
-/

namespace Stencil

/-- A fault that none of the tool's own errors covers. -/
inductive Crash where
  /-- An operation on a value that does not have it, or a call with arguments that do not fit. -/
  | wrongType
  /-- A value outside of what an operation takes, or one that has changed under way. -/
  | badValue
  | divisionByZero
  /-- A number too large for double precision or for a size. -/
  | overflow
  | missingKey
  | badIndex
  | missingAttribute
  /-- Bytes that are no UTF-8. -/
  | undecodable
  | isDirectory
  /-- A fault of the file system that is not about a directory. -/
  | system
  /-- Calls nested without end, or a text that is nested deeper than the host takes. -/
  | tooDeep
  /-- More text or a longer list than there is room for. -/
  | noRoom
  deriving DecidableEq, Repr

end Stencil
