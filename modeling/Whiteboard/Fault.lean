/-!
# Faults

An operation that cannot go on ends with a fault instead of an answer: a listener failed, or
something would take more memory than there can be. What was done before the fault stays done.
-/

namespace Whiteboard

/-- The end of an operation that cannot go on. -/
structure Fault where
  /-- What it says. -/
  message : String
  deriving DecidableEq

/-- No buffer has this many bytes. -/
def memoryLimit : Nat := 0x8000000000000000

/-- Something would take as many bytes as no buffer has. -/
def Fault.overflow : Fault := ⟨"capacity overflow"⟩

end Whiteboard
