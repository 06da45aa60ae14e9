import Whiteboard.Proofs.Json.Reading
import Whiteboard.Proofs.Message.Json

/-!
# The JSON texts of one message

Messages written by other programs, or by hand, need not look like the text that is written here.
Fields come in any order or without their names, among fields that are not known, and what is
empty is left out. This makes no difference to what is read.
-/

namespace Whiteboard

open HasShape (shape)

/-- A command or an arriving message may be spelled in many ways, of which its JSON text is one. It
is read from all of them, provided that each floating-point number in it is read back from its own
text. -/
theorem ofJson_of_spelling :
    (∀ c : Command, Json.Spelling c c.toJson ∧
      ((∀ x ∈ Json.singles c, x.ReadsBack) →
        ∀ text, Json.Spelling c text → Command.ofJson text = .ok c)) ∧
    ∀ e : Inbound, Json.Spelling e e.toJson ∧
      ((∀ x ∈ Json.singles e, x.ReadsBack) →
        ∀ text, Json.Spelling e text → Inbound.ofJson text = .ok e) := by
  constructor
  · refine fun c => ⟨Json.spelling_write c, fun hc text htext => ?_⟩
    have hparse := Json.parse_of_spelling Command.readable_shape hc htext
    exact congrArg (Except.mapError CodecError.json) hparse
  · refine fun e => ⟨Json.spelling_write e, fun he text htext => ?_⟩
    have hparse := Json.parse_of_spelling Inbound.readable_shape he htext
    exact congrArg (Except.mapError CodecError.json) hparse

/-- A segment. -/
def placedSegment : Command :=
  .session (.fragment ⟨⟨0⟩, ⟨0x3f800000⟩, ⟨0x3f000000⟩, ⟨0xc0000000⟩⟩)

/-- The segment with its ends in order, but without their names. -/
def placedText : String :=
  " \x7b\"SessionCommand\" : \x7b\"Fragment\":\n\t[0.0, 1.0 ,0.5,-2.0]\x7d\x7d "

/-- The entering of a session where nobody is and nothing was written. -/
def bareReply : Inbound := .reply 7 (.event (.joinedSession 3 ⟨[]⟩ ⟨none, [], []⟩))

/-- The reply with the number of the session behind its document and an entry that is not known.
The document has no name, and who is in the session is left out. -/
def bareText : String :=
  "\x7b\"ByMyself\": [7, \x7b\"SystemEvent\": \x7b\"JoinedSession\": \x7b\r\n" ++
  "\"document_snapshot\": \x7b\"float_props\": [], \"string_props\": [ ]\x7d,\r\n" ++
  "\"x\\u0031\": [-1.5E+9, \"\\ud800\", \x7b\"\": null\x7d],\r\n" ++
  "\"session_id\": 3\x7d\x7d\x7d]\x7d\r\n"

/-- An entry under a name that is written with an escape. It holds a number, half a surrogate pair
and an object. -/
def strangeEntry : Json.Entry where
  key := "x1"
  written := ['x', '\\', 'u', '0', '0', '3', '1']
  value := Json.arrayTokens [[['-', '1', '.', '5', 'E', '+', '9']],
    [Json.quoted ['\\', 'u', 'd', '8', '0', '0']],
    Json.objectTokens ([([], [['n', 'u', 'l', 'l']])].map Json.entryTokens)]
  denotes := by
    change Json.Denotes _ ['x', Char.ofNat 0x31]
    exact .plain (by decide) (by decide) (by decide) (.unit rfl rfl rfl .nil)

theorem wellFormed_strangeEntry : Json.WellFormed strangeEntry.value := by
  have hpower : Json.Power ('E' :: (['+'] ++ ['9'])) :=
    .part (by decide) (by decide) (by decide) (by decide)
  have hnumber : Json.Numeral (['-'] ++ (['1'] ++ (['.', '5'] ++ 'E' :: (['+'] ++ ['9'])))) :=
    .mk (by decide) (by decide) (by decide) (by decide) (.part (by decide) (by decide)) hpower
  have hobject : Json.WellFormed
      (Json.objectTokens ([([], [['n', 'u', 'l', 'l']])].map Json.entryTokens)) :=
    .object (by simpa using .nil) (by simpa using .scalar .null)
  refine .array (List.forall_mem_cons.mpr ⟨.scalar (.number hnumber), ?_⟩)
  exact List.forall_mem_cons.mpr ⟨.scalar (.text (.unit rfl .nil)), by simpa using hobject⟩

theorem spelling_placedText : Json.Spelling placedSegment placedText :=
  ⟨_, ⟨_, Json.denotes_escaped "SessionCommand", .inr ⟨_, ⟨_, Json.denotes_escaped "Fragment",
      .inr ⟨_, .inl ⟨_, .inl ⟨_, _, rfl, .inl ⟨_, _, rfl, .inl ⟨_, _, rfl, .inl ⟨_, _, rfl, rfl,
        rfl⟩, rfl⟩, rfl⟩, rfl⟩, rfl⟩, rfl⟩⟩, rfl⟩⟩, Json.Spaced.of_check rfl⟩

theorem spelling_bareText : Json.Spelling bareReply bareText := by
  let texts : Json.Entry := .plain "string_props" (Json.arrayTokens [])
  let numbers : Json.Entry := .plain "float_props" (Json.arrayTokens [])
  let session : Json.Entry := .plain "session_id" [['3']]
  let document : Json.Entry :=
    .plain "document_snapshot" (Json.objectTokens ([numbers, texts].map Json.Entry.tokens))
  have hdocument : (shape Snapshot).Spells (HasShape.toValue (⟨none, [], []⟩ : Snapshot))
      document.value := by
    refine .inr ⟨rfl, [texts, numbers], [], [numbers, texts], ?_, by simp, .swap _ _ _, rfl⟩
    exact .inr ⟨rfl, .inl ⟨texts, _, rfl, ⟨[], .nil, rfl⟩,
      .inl ⟨numbers, _, rfl, ⟨[], .nil, rfl⟩, rfl, rfl⟩, rfl⟩⟩
  have hjoined : joinedShape.Spells
      (HasShape.toValue (3 : SessionId), HasShape.toValue (⟨[]⟩ : Roster),
        HasShape.toValue (⟨none, [], []⟩ : Snapshot), ())
      (Json.objectTokens ([document, strangeEntry, session].map Json.Entry.tokens)) := by
    refine .inr ⟨rfl, [session, document], [strangeEntry], _, ?_, ?_, ?_, rfl⟩
    · exact .inl ⟨session, _, rfl, rfl,
        .inr ⟨rfl, .inl ⟨document, _, rfl, hdocument, rfl, rfl⟩⟩, rfl⟩
    · exact List.forall_mem_singleton.mpr ⟨by decide, wellFormed_strangeEntry⟩
    · exact (List.perm_append_comm : ([document, strangeEntry] ++ [session]).Perm _)
  exact ⟨_, ⟨_, Json.denotes_escaped "ByMyself", .inr ⟨_, .inl ⟨_, .inl ⟨_, _, rfl,
      .inl ⟨_, _, ⟨_, Json.denotes_escaped "SystemEvent",
        .inr ⟨_, ⟨_, Json.denotes_escaped "JoinedSession", .inr ⟨_, hjoined, rfl⟩⟩, rfl⟩⟩,
      rfl, rfl⟩, rfl⟩, rfl⟩, rfl⟩⟩, Json.Spaced.of_check (by decide +kernel)⟩

theorem ofJson_of_spelling_bare :
    ((∀ x ∈ Json.singles placedSegment, x.ReadsBack) ∧
      Json.Spelling placedSegment placedText ∧ Command.ofJson placedText = .ok placedSegment) ∧
    (∀ x ∈ Json.singles bareReply, x.ReadsBack) ∧
      Json.Spelling bareReply bareText ∧ Inbound.ofJson bareText = .ok bareReply := by
  have hcommand : ∀ x ∈ Json.singles placedSegment, x.ReadsBack := by
    change ∀ x ∈ [(⟨0⟩ : Single), ⟨0x3f800000⟩, ⟨0x3f000000⟩, ⟨0xc0000000⟩], x.ReadsBack
    simp only [List.forall_mem_cons, List.not_mem_nil, false_implies, implies_true, and_true]
    exact ⟨rfl, rfl, rfl, rfl⟩
  have hreply : ∀ x ∈ Json.singles bareReply, x.ReadsBack := List.forall_mem_nil _
  exact ⟨⟨hcommand, spelling_placedText,
      (ofJson_of_spelling.1 placedSegment).2 hcommand _ spelling_placedText⟩,
    hreply, spelling_bareText, (ofJson_of_spelling.2 bareReply).2 hreply _ spelling_bareText⟩

end Whiteboard
