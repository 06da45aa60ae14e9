import Whiteboard.Fault

/-!
# The clock

Time is counted in milliseconds and moves only when it is told to. Timers count it in ticks, which
stand still at the last one; the clock itself has an end, which is later.
-/

namespace Whiteboard.Clock

/-- The last tick that a timer can be set to. -/
def lastTick : Nat := 0xfffffffffffffffd

/-- The tick of a time: its milliseconds, but no more than the last tick. -/
def tick (time : Nat) : Nat := min time lastTick

/-- Whether a timer that is due at some time has fired. Once the last tick is reached, every timer
has. -/
def hasFired (due now : Nat) : Bool := tick due ≤ tick now

/-- The time at which the clock ends. -/
def finish : Nat := 9223372036854775807000

/-- The fault of a clock that would run past its end. -/
def overrun : Fault := ⟨"overflow when adding duration to instant"⟩

/-- The time after some milliseconds, unless the clock ends before. -/
def advance (now milliseconds : Nat) : Except Fault Nat :=
  if finish < now + milliseconds then .error overrun else .ok (now + milliseconds)

end Whiteboard.Clock
