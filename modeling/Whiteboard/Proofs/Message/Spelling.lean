import Whiteboard.Proofs.Frame.Spelling
import Whiteboard.Proofs.Message.RoundTrip

/-!
# The frames of one message

Several frames may hold the same message, since numbers may be written wider than they have to be.
The frame that is written for the message is the shortest of them, and the only one of its length.
-/

namespace Whiteboard

namespace Frame

variable {α : Type} [HasShape α]

/-- The pieces of a message. -/
def pieces (a : α) : List Piece := (HasShape.shape α).pieces (HasShape.toValue a)

/-- A frame that holds a message spells its pieces. Either it is the frame that is written for the
message, or it is longer. -/
theorem shortest_of_decode {frame : Frame} {a : α} (h : decode frame = .ok a) :
    Storable a ∧ Spells (pieces a) frame ∧
      (encode a = frame ∨ (encode a).length < frame.length) := by
  obtain ⟨hstorable, front, hspells, heq⟩ := Shape.spells_of_read _ (read_of_decode h)
  rw [List.append_nil] at heq
  subst heq
  have hshortest := hspells.shortest
  rw [Shape.shortest_pieces] at hshortest
  exact ⟨hstorable, hspells, hshortest⟩

theorem length_encode_le {frame : Frame} {a : α} (h : decode frame = .ok a) :
    (encode a).length ≤ frame.length ∧
      ((encode a).length = frame.length → encode a = frame) := by
  rcases (shortest_of_decode h).2.2 with heq | hlt
  · exact ⟨Nat.le_of_eq (by rw [heq]), fun _ => heq⟩
  · exact ⟨Nat.le_of_lt hlt, fun hlen => absurd hlen (Nat.ne_of_lt hlt)⟩

end Frame

/-- Of all frames that hold a message, the one written for it is the shortest, and it is the only
one of its length. All of them spell the same pieces, so that they differ in the forms of numbers
and in nothing else. -/
theorem toFrame_shortest :
    (∀ (frame : Frame) (e : Inbound), Inbound.ofFrame frame = .ok e →
      Inbound.ofFrame e.toFrame = .ok e ∧ e.toFrame.length ≤ frame.length ∧
      (e.toFrame.length = frame.length → e.toFrame = frame) ∧
      Frame.Spells (Frame.pieces e) frame) ∧
    (∀ (frame : Frame) (c : Request), Request.ofFrame frame = .ok c →
      Request.ofFrame c.toFrame = .ok c ∧ c.toFrame.length ≤ frame.length ∧
      (c.toFrame.length = frame.length → c.toFrame = frame) ∧
      Frame.Spells (Frame.pieces c) frame) := by
  constructor
  · intro frame e h
    have hdecode : Frame.decode frame = .ok e := ok_of_mapError h
    obtain ⟨hstorable, hspells, -⟩ := Frame.shortest_of_decode hdecode
    obtain ⟨hle, heq⟩ := Frame.length_encode_le hdecode
    exact ⟨Inbound.ofFrame_toFrame hstorable, hle, heq, hspells⟩
  · intro frame c h
    have hdecode : Frame.decode frame = .ok c := ok_of_mapError h
    obtain ⟨hstorable, hspells, -⟩ := Frame.shortest_of_decode hdecode
    obtain ⟨hle, heq⟩ := Frame.length_encode_le hdecode
    exact ⟨Request.ofFrame_toFrame hstorable, hle, heq, hspells⟩

/-- A refusal in which the number of the reply and the length of the reason are written wider than
they have to be. -/
def wideRefusal : Frame := [0, 251, 7, 0, 1, 3, 253, 1, 0, 0, 0, 0, 0, 0, 0, 97]

/-- A request in which the numbers of the request, of the command and of the session are written
with four bytes. -/
def wideRequest : Frame := [252, 9, 0, 0, 0, 252, 1, 0, 0, 0, 252, 44, 1, 0, 0]

theorem toFrame_shortest_wide :
    (∃ e, Inbound.ofFrame wideRefusal = .ok e ∧ Inbound.ofFrame e.toFrame = .ok e ∧
      e.toFrame.length ≤ wideRefusal.length ∧
      (e.toFrame.length = wideRefusal.length → e.toFrame = wideRefusal) ∧
      Frame.Spells (Frame.pieces e) wideRefusal) ∧
    (∃ c, Request.ofFrame wideRequest = .ok c ∧ Request.ofFrame c.toFrame = .ok c ∧
      c.toFrame.length ≤ wideRequest.length ∧
      (c.toFrame.length = wideRequest.length → c.toFrame = wideRequest) ∧
      Frame.Spells (Frame.pieces c) wideRequest) := by
  have hreply : Inbound.ofFrame wideRefusal = .ok (.reply 7 (.refused (.rejected "a"))) := rfl
  have hrequest : Request.ofFrame wideRequest = .ok ⟨9, .joinSession 300⟩ := rfl
  exact ⟨⟨_, hreply, toFrame_shortest.1 _ _ hreply⟩, ⟨_, hrequest, toFrame_shortest.2 _ _ hrequest⟩⟩

end Whiteboard
