import Whiteboard.Message.Codec
import Whiteboard.Proofs.Frame.RoundTrip

/-!
# Frames of messages

Requests and arriving messages are found again from their frames. Strings keep their characters
and floating-point numbers their bits, and whatever follows a frame is left over.
-/

namespace Whiteboard

open HasShape (shape toValue)

theorem ok_of_mapError {ε ε' α : Type} {f : ε → ε'} {x : Except ε α} {a : α}
    (h : x.mapError f = .ok a) : x = .ok a := by
  cases x with
  | error e => cases h
  | ok b =>
    cases h
    rfl

theorem error_of_mapError {ε ε' α : Type} {f : ε → ε'} {x : Except ε α} {e' : ε'}
    (h : x.mapError f = .error e') : ∃ e, x = .error e ∧ f e = e' := by
  cases x with
  | error e =>
    cases h
    exact ⟨e, rfl, rfl⟩
  | ok a => cases h

theorem Request.indexable_shape : (shape Request).indexable = true := rfl

theorem Inbound.indexable_shape : (shape Inbound).indexable = true := rfl

theorem Request.ofFrame_toFrame {c : Request} (h : Frame.Storable c) :
    Request.ofFrame c.toFrame = .ok c := by
  have hdecode := Frame.decode_encode Request.indexable_shape c h
  unfold Request.ofFrame Request.toFrame
  rw [hdecode]
  rfl

theorem Inbound.ofFrame_toFrame {e : Inbound} (h : Frame.Storable e) :
    Inbound.ofFrame e.toFrame = .ok e := by
  have hdecode := Frame.decode_encode Inbound.indexable_shape e h
  unfold Inbound.ofFrame Inbound.toFrame
  rw [hdecode]
  rfl

/-- Every request and every arriving message that memory can hold has a frame from which it is
read back as it was. Reading uses up exactly the frame: bytes that follow are left over. -/
theorem ofFrame_toFrame_of_storable :
    (∀ c : Request, Frame.Storable c → Request.ofFrame c.toFrame = .ok c ∧
      ∀ rest, (shape Request).read (c.toFrame ++ rest) = .ok (toValue c, rest)) ∧
    (∀ e : Inbound, Frame.Storable e → Inbound.ofFrame e.toFrame = .ok e ∧
      ∀ rest, (shape Inbound).read (e.toFrame ++ rest) = .ok (toValue e, rest)) := by
  constructor
  · intro c hc
    exact ⟨Request.ofFrame_toFrame hc, Frame.read_encode Request.indexable_shape c hc⟩
  · intro e he
    exact ⟨Inbound.ofFrame_toFrame he, Frame.read_encode Inbound.indexable_shape e he⟩

/-- A request whose number takes three bytes, with names beyond ASCII and a NaN that carries a
payload. -/
def mixedRequest : Request :=
  ⟨300, .session (.transaction ⟨Uuid.numbered 7 1,
    [.create ⟨"größe"⟩ .document, .update ⟨⟨"größe"⟩, .title⟩ (.text "😀"),
      .update ⟨⟨""⟩, .title⟩ (.number ⟨0xffc00001⟩), .delete ⟨"größe"⟩]⟩)⟩

/-- The reply that tells of an entered session, whose document has no name and a negative zero. -/
def joinedReply : Inbound :=
  .reply 0xffffffff (.event (.joinedSession 65536 ⟨[250, 251, 65535]⟩
    ⟨none, [(⟨⟨"größe"⟩, .title⟩, "")], [(⟨⟨"größe"⟩, .title⟩, ⟨0x80000000⟩)]⟩))

theorem ofFrame_toFrame_mixed :
    (Frame.Storable mixedRequest ∧ Request.ofFrame mixedRequest.toFrame = .ok mixedRequest ∧
      ∀ rest, (shape Request).read (mixedRequest.toFrame ++ rest) =
        .ok (toValue mixedRequest, rest)) ∧
    (Frame.Storable joinedReply ∧ Inbound.ofFrame joinedReply.toFrame = .ok joinedReply ∧
      ∀ rest, (shape Inbound).read (joinedReply.toFrame ++ rest) =
        .ok (toValue joinedReply, rest)) := by
  have hrequest : Frame.Storable mixedRequest := by decide
  have hreply : Frame.Storable joinedReply := by decide
  exact ⟨⟨hrequest, ofFrame_toFrame_of_storable.1 mixedRequest hrequest⟩,
    ⟨hreply, ofFrame_toFrame_of_storable.2 joinedReply hreply⟩⟩

end Whiteboard
