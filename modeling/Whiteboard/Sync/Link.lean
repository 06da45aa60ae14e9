import Whiteboard.Failure

/-!
# The link to the relay

A link accepts frames for the relay one at a time, or refuses them. It refuses all once the other
end is gone; any other refusals are given in advance, by the number of the attempt.
-/

namespace Whiteboard

/-- A link to the relay. -/
structure Link where
  /-- The frames accepted, oldest first. -/
  accepted : List Frame
  /-- How often sending was tried. -/
  attempts : Nat
  /-- The attempts that are refused whatever the state of the other end, counted from zero. -/
  refuses : Nat → Option LinkError
  /-- Whether the other end is there. -/
  isOpen : Bool

namespace Link

/-- A link with the other end in place, which refuses nothing in advance. -/
def create : Link := ⟨[], 0, fun _ => none, true⟩

/-- Tries to send a frame. -/
def send (l : Link) (frame : Frame) : Link × Except LinkError Unit :=
  let tried := { l with attempts := l.attempts + 1 }
  match l.refuses l.attempts with
  | some e => (tried, .error e)
  | none =>
    if l.isOpen then ({ tried with accepted := l.accepted ++ [frame] }, .ok ())
    else (tried, .error .closed)

/-- The other end goes away, with all frames that it did not look at. -/
def close (l : Link) : Link := { l with accepted := [], isOpen := false }

/-- Takes the accepted frames away. -/
def collect (l : Link) : Link × List Frame := ({ l with accepted := [] }, l.accepted)

/-- Sets which of the attempts from now on are refused, counted from zero. -/
def setRefusals (l : Link) (refuses : Nat → Option LinkError) : Link :=
  { l with attempts := 0, refuses }

end Link

end Whiteboard
