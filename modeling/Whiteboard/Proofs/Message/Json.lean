import Whiteboard.Message.Codec
import Whiteboard.Proofs.Json.RoundTrip

/-!
# JSON texts of messages

Commands and arriving messages are found again from their JSON texts. Strings may hold any
characters, and whether the text of a floating-point number gives back the number is the only
thing left to ask. A number that is not finite has no text, and no message is read in its place.
-/

namespace Whiteboard

open HasShape (shape)

theorem Command.readable_shape : (shape Command).readable = true := by decide

theorem Inbound.readable_shape : (shape Inbound).readable = true := by decide

/-- Every command and every arriving message is read back from its JSON text as it was, provided
that each floating-point number in it is read back from its own text, which only finite ones can
be. If one of the numbers is not finite then the text is refused. -/
theorem ofJson_toJson :
    ((∀ c : Command, (∀ x ∈ Json.singles c, x.ReadsBack) → Command.ofJson c.toJson = .ok c) ∧
      ∀ e : Inbound, (∀ x ∈ Json.singles e, x.ReadsBack) → Inbound.ofJson e.toJson = .ok e) ∧
    (∀ c : Command, (∃ x ∈ Json.singles c, x.isFinite = false) →
        ∃ error, Command.ofJson c.toJson = .error (.json error)) ∧
      ∀ e : Inbound, (∃ x ∈ Json.singles e, x.isFinite = false) →
        ∃ error, Inbound.ofJson e.toJson = .error (.json error) := by
  refine ⟨⟨?_, ?_⟩, ?_, ?_⟩
  · intro c hc
    have hparse := Json.parse_write Command.readable_shape c hc
    exact congrArg (Except.mapError CodecError.json) hparse
  · intro e he
    have hparse := Json.parse_write Inbound.readable_shape e he
    exact congrArg (Except.mapError CodecError.json) hparse
  · intro c hc
    obtain ⟨error, hparse⟩ := Json.parse_write_error Command.readable_shape c hc
    exact ⟨error, congrArg (Except.mapError CodecError.json) hparse⟩
  · intro e he
    obtain ⟨error, hparse⟩ := Json.parse_write_error Inbound.readable_shape e he
    exact ⟨error, congrArg (Except.mapError CodecError.json) hparse⟩

/-- A transaction whose strings hold quotes, a backslash, controls and characters beyond ASCII,
with the greatest number that is finite and the one just below zero. -/
def quotedCommand : Command :=
  .session (.transaction ⟨Uuid.numbered 7 1,
    [.create ⟨"\"größe\"\\"⟩ .document, .update ⟨⟨"\n\x01"⟩, .title⟩ (.text "😀"),
      .update ⟨⟨""⟩, .title⟩ (.number ⟨0x7f7fffff⟩),
      .update ⟨⟨"\t"⟩, .title⟩ (.number ⟨0x80000001⟩)]⟩)

/-- The reply that tells of an entered session, whose document has no name and a negative zero. -/
def enteredReply : Inbound :=
  .reply 0xffffffff (.event (.joinedSession 65536 ⟨[250, 65535]⟩
    ⟨none, [(⟨⟨"größe"⟩, .title⟩, "\"")], [(⟨⟨""⟩, .title⟩, ⟨0x80000000⟩)]⟩))

/-- A segment that ends at a NaN. -/
def lostSegment : Fragment := ⟨⟨0x3fc00000⟩, ⟨0⟩, ⟨0x7fc00000⟩, ⟨0⟩⟩

theorem ofJson_toJson_quoted :
    (((∀ x ∈ Json.singles quotedCommand, x.ReadsBack) ∧
        Command.ofJson quotedCommand.toJson = .ok quotedCommand) ∧
      (∀ x ∈ Json.singles enteredReply, x.ReadsBack) ∧
        Inbound.ofJson enteredReply.toJson = .ok enteredReply) ∧
    ((∃ x ∈ Json.singles (Command.session (.fragment lostSegment)), x.isFinite = false) ∧
        ∃ error, Command.ofJson (Command.session (.fragment lostSegment)).toJson =
          .error (.json error)) ∧
      (∃ x ∈ Json.singles (Inbound.notice (.session (.fragment lostSegment))),
          x.isFinite = false) ∧
        ∃ error, Inbound.ofJson (Inbound.notice (.session (.fragment lostSegment))).toJson =
          .error (.json error) := by
  have hcommand : ∀ x ∈ Json.singles quotedCommand, x.ReadsBack := by
    change ∀ x ∈ [(⟨0x7f7fffff⟩ : Single), ⟨0x80000001⟩], x.ReadsBack
    simp only [List.forall_mem_cons, List.not_mem_nil, false_implies, implies_true, and_true]
    exact ⟨rfl, rfl⟩
  have hreply : ∀ x ∈ Json.singles enteredReply, x.ReadsBack := by
    change ∀ x ∈ [(⟨0x80000000⟩ : Single)], x.ReadsBack
    simp only [List.forall_mem_cons, List.not_mem_nil, false_implies, implies_true, and_true]
    rfl
  have hlost : ∃ x ∈ Json.singles (Command.session (.fragment lostSegment)),
      x.isFinite = false := ⟨lostSegment.x2, .tail _ (.tail _ (.head _)), rfl⟩
  have hnotice : ∃ x ∈ Json.singles (Inbound.notice (.session (.fragment lostSegment))),
      x.isFinite = false := ⟨lostSegment.x2, .tail _ (.tail _ (.head _)), rfl⟩
  exact ⟨⟨⟨hcommand, ofJson_toJson.1.1 quotedCommand hcommand⟩,
      hreply, ofJson_toJson.1.2 enteredReply hreply⟩,
    ⟨hlost, ofJson_toJson.2.1 _ hlost⟩, hnotice, ofJson_toJson.2.2 _ hnotice⟩

end Whiteboard
