import Whiteboard.Message.Basic
import Whiteboard.Shape

/-!
# The shapes of the messages

Each message type is given its shape: the names of its fields and cases in the order in which they
are written. The two laws of `HasShape` say that a message and the value of its shape determine
each other.
-/

namespace Whiteboard

open HasShape

/-- A field that has to be present. -/
abbrev Fields.required (name : String) (α : Type) [HasShape α] (rest : Fields) : Fields :=
  .cons name false (shape α) rest

/-- A field that may be left out when it is empty. -/
abbrev Fields.omittable (name : String) (α : Type) [HasShape α] (rest : Fields) : Fields :=
  .cons name true (shape α) rest

/-- A case that carries a value of a type. -/
abbrev Cases.holding (name : String) (α : Type) [HasShape α] (rest : Cases) : Cases :=
  .carrying name (shape α) rest

instance : HasShape UInt16 where
  shape := .word16
  toValue n := n
  ofValue n := n
  ofValue_toValue _ := rfl
  toValue_ofValue _ := rfl

instance : HasShape UInt32 where
  shape := .word32
  toValue n := n
  ofValue n := n
  ofValue_toValue _ := rfl
  toValue_ofValue _ := rfl

instance : HasShape Single where
  shape := .single
  toValue x := x
  ofValue x := x
  ofValue_toValue _ := rfl
  toValue_ofValue _ := rfl

instance : HasShape String where
  shape := .text
  toValue t := t
  ofValue t := t
  ofValue_toValue _ := rfl
  toValue_ofValue _ := rfl

instance : HasShape Uuid where
  shape := .uuid
  toValue id := id
  ofValue id := id
  ofValue_toValue _ := rfl
  toValue_ofValue _ := rfl

section Containers

variable {α β : Type} [HasShape α] [HasShape β]

instance : HasShape (Option α) where
  shape := .optional (shape α)
  toValue o := Option.map toValue o
  ofValue o := Option.map ofValue o
  ofValue_toValue o := by cases o <;> simp [ofValue_toValue]
  toValue_ofValue
    | none => rfl
    | some v => congrArg some (toValue_ofValue v)

instance : HasShape (List α) where
  shape := .list (shape α)
  toValue l := List.map toValue l
  ofValue l := List.map ofValue l
  ofValue_toValue l := by simp [Function.comp_def, ofValue_toValue]
  toValue_ofValue (l : List (shape α).Value) := by
    change List.map toValue (List.map ofValue l) = l
    simp [Function.comp_def, toValue_ofValue]

instance : HasShape (α × β) where
  shape := .record .pair (.required "first" α (.required "second" β .nil))
  toValue p := (toValue p.1, toValue p.2, ())
  ofValue v := (ofValue v.1, ofValue v.2.1)
  ofValue_toValue p := by simp [ofValue_toValue]
  toValue_ofValue _ := Prod.ext (toValue_ofValue _) (Prod.ext (toValue_ofValue _) rfl)

end Containers

instance : HasShape ObjectId where
  shape := .text
  toValue id := id.text
  ofValue t := ⟨t⟩
  ofValue_toValue _ := rfl
  toValue_ofValue _ := rfl

instance : HasShape Fragment where
  shape :=
    .record (.keyed "Fragment")
      (.required "x1" Single
        (.required "y1" Single (.required "x2" Single (.required "y2" Single .nil))))
  toValue f := (f.x1, f.y1, f.x2, f.y2, ())
  ofValue v := ⟨v.1, v.2.1, v.2.2.1, v.2.2.2.1⟩
  ofValue_toValue _ := rfl
  toValue_ofValue _ := rfl

instance : HasShape Roster where
  shape := .record (.keyed "SessionSnapshot") (.required "connections" (List ConnectionId) .nil)
  toValue r := (toValue r.connections, ())
  ofValue v := ⟨ofValue v.1⟩
  ofValue_toValue r := by simp [ofValue_toValue]
  toValue_ofValue _ := Prod.ext (toValue_ofValue _) rfl

instance : HasShape ObjectKind where
  shape := .choice (.bare "Document" .nil)
  toValue
    | .document => .inl ()
  ofValue
    | .inl () => .document
  ofValue_toValue k := by cases k; rfl
  toValue_ofValue v := by
    rcases v with _ | v
    · rfl
    · exact v.elim

instance : HasShape PropKind where
  shape := .choice (.bare "Title" .nil)
  toValue
    | .title => .inl ()
  ofValue
    | .inl () => .title
  ofValue_toValue k := by cases k; rfl
  toValue_ofValue v := by
    rcases v with _ | v
    · rfl
    · exact v.elim

instance : HasShape PropKey where
  shape :=
    .record (.positional "PropKey")
      (.required "object" ObjectId (.required "kind" PropKind .nil))
  toValue k := (toValue k.object, toValue k.kind, ())
  ofValue v := ⟨ofValue v.1, ofValue v.2.1⟩
  ofValue_toValue k := by simp [ofValue_toValue]
  toValue_ofValue _ := Prod.ext (toValue_ofValue _) (Prod.ext (toValue_ofValue _) rfl)

instance : HasShape PropValue where
  shape := .choice (.holding "String" String (.holding "Float" Single .nil))
  toValue
    | .text s => .inl s
    | .number x => .inr (.inl x)
  ofValue
    | .inl s => .text s
    | .inr (.inl x) => .number x
  ofValue_toValue v := by cases v <;> rfl
  toValue_ofValue v := by
    rcases v with _ | _ | v
    · rfl
    · rfl
    · exact v.elim

/-- What the introduction of an object carries. -/
def createShape : Shape :=
  .record (.positionalCase "DocumentMutation" "CreateObject")
    (.required "object" ObjectId (.required "kind" ObjectKind .nil))

/-- What the setting of a property carries. -/
def updateShape : Shape :=
  .record (.positionalCase "DocumentMutation" "UpdateObject")
    (.required "key" PropKey (.required "value" PropValue .nil))

instance : HasShape Mutation where
  shape :=
    .choice
      (.carrying "CreateObject" createShape
        (.carrying "UpdateObject" updateShape (.holding "DeleteObject" ObjectId .nil)))
  toValue
    | .create object kind => .inl (toValue object, toValue kind, ())
    | .update key value => .inr (.inl (toValue key, toValue value, ()))
    | .delete object => .inr (.inr (.inl (toValue object)))
  ofValue
    | .inl v => .create (ofValue v.1) (ofValue v.2.1)
    | .inr (.inl v) => .update (ofValue v.1) (ofValue v.2.1)
    | .inr (.inr (.inl v)) => .delete (ofValue v)
  ofValue_toValue m := by cases m <;> simp [ofValue_toValue]
  toValue_ofValue v := by
    rcases v with ⟨_, _, _⟩ | ⟨_, _, _⟩ | _ | v
    · simp only [toValue_ofValue]
      rfl
    · simp only [toValue_ofValue]
      rfl
    · simp only [toValue_ofValue]
      rfl
    · exact v.elim

instance : HasShape Transaction where
  shape :=
    .record (.keyed "Transaction")
      (.required "id" Uuid (.required "items" (List Mutation) .nil))
  toValue tx := (tx.id, toValue tx.items, ())
  ofValue v := ⟨v.1, ofValue v.2.1⟩
  ofValue_toValue tx := by simp [ofValue_toValue]
  toValue_ofValue _ := Prod.ext rfl (Prod.ext (toValue_ofValue _) rfl)

instance : HasShape Snapshot where
  shape :=
    .record (.keyed "DocumentSnapshot")
      (.required "document_id" (Option ObjectId)
        (.required "string_props" (List (PropKey × String))
          (.required "float_props" (List (PropKey × Single)) .nil)))
  toValue s := (toValue s.documentId, toValue s.texts, toValue s.numbers, ())
  ofValue v := ⟨ofValue v.1, ofValue v.2.1, ofValue v.2.2.1⟩
  ofValue_toValue s := by simp [ofValue_toValue]
  toValue_ofValue _ :=
    Prod.ext (toValue_ofValue _)
      (Prod.ext (toValue_ofValue _) (Prod.ext (toValue_ofValue _) rfl))

instance : HasShape Edit where
  shape :=
    .choice
      (.carrying "UpdateDocumentTitle"
        (.record (.keyedCase "DocumentCommand" "UpdateDocumentTitle")
          (.required "title" String .nil))
        .nil)
  toValue
    | .retitle title => .inl (title, ())
  ofValue
    | .inl v => .retitle v.1
  ofValue_toValue e := by cases e; rfl
  toValue_ofValue v := by
    rcases v with ⟨_, _⟩ | v
    · rfl
    · exact v.elim

instance : HasShape SessionCommand where
  shape := .choice (.holding "Fragment" Fragment (.holding "Transaction" Transaction .nil))
  toValue
    | .fragment f => .inl (toValue f)
    | .transaction tx => .inr (.inl (toValue tx))
  ofValue
    | .inl v => .fragment (ofValue v)
    | .inr (.inl v) => .transaction (ofValue v)
  ofValue_toValue c := by cases c <;> simp [ofValue_toValue]
  toValue_ofValue v := by
    rcases v with _ | _ | v
    · simp only [toValue_ofValue]
      rfl
    · simp only [toValue_ofValue]
      rfl
    · exact v.elim

instance : HasShape Command where
  shape :=
    .choice
      (.bare "CreateSession"
        (.carrying "JoinSession"
          (.record (.keyedCase "SystemCommand" "JoinSession")
            (.required "session_id" SessionId .nil))
          (.bare "LeaveSession" (.holding "SessionCommand" SessionCommand .nil))))
  toValue
    | .createSession => .inl ()
    | .joinSession session => .inr (.inl (session, ()))
    | .leaveSession => .inr (.inr (.inl ()))
    | .session command => .inr (.inr (.inr (.inl (toValue command))))
  ofValue
    | .inl () => .createSession
    | .inr (.inl v) => .joinSession v.1
    | .inr (.inr (.inl ())) => .leaveSession
    | .inr (.inr (.inr (.inl v))) => .session (ofValue v)
  ofValue_toValue c := by cases c <;> simp [ofValue_toValue]
  toValue_ofValue v := by
    rcases v with _ | ⟨_, _⟩ | _ | _ | v
    · rfl
    · rfl
    · rfl
    · simp only [toValue_ofValue]
      rfl
    · exact v.elim

instance : HasShape Request where
  shape :=
    .record (.keyed "IdentifiableCommand")
      (.required "command_id" CommandId (.required "system_command" Command .nil))
  toValue r := (r.id, toValue r.command, ())
  ofValue v := ⟨v.1, ofValue v.2.1⟩
  ofValue_toValue r := by simp [ofValue_toValue]
  toValue_ofValue _ := Prod.ext rfl (Prod.ext (toValue_ofValue _) rfl)

instance : HasShape RollbackReason where
  shape := .choice (.bare "Conflict" (.bare "Invalid" .nil))
  toValue
    | .conflict => .inl ()
    | .invalid => .inr (.inl ())
  ofValue
    | .inl () => .conflict
    | .inr (.inl ()) => .invalid
  ofValue_toValue r := by cases r <;> rfl
  toValue_ofValue v := by
    rcases v with _ | _ | v
    · rfl
    · rfl
    · exact v.elim

/-- What the rejection of a transaction carries. -/
def rejectedShape : Shape :=
  .record (.positionalCase "SessionEvent" "TransactionNack")
    (.required "tx" Uuid (.required "reason" RollbackReason .nil))

instance : HasShape SessionEvent where
  shape :=
    .choice
      (.holding "Fragment" Fragment
        (.holding "SomeoneJoined" ConnectionId
          (.holding "SomeoneLeft" ConnectionId
            (.holding "SessionStateChanged" Roster
              (.holding "TransactionAck" Uuid
                (.carrying "TransactionNack" rejectedShape
                  (.holding "OthersTransaction" Transaction .nil)))))))
  toValue
    | .fragment f => .inl (toValue f)
    | .someoneJoined c => .inr (.inl c)
    | .someoneLeft c => .inr (.inr (.inl c))
    | .rosterChanged r => .inr (.inr (.inr (.inl (toValue r))))
    | .accepted tx => .inr (.inr (.inr (.inr (.inl tx))))
    | .rejected tx reason => .inr (.inr (.inr (.inr (.inr (.inl (tx, toValue reason, ()))))))
    | .othersTransaction tx => .inr (.inr (.inr (.inr (.inr (.inr (.inl (toValue tx)))))))
  ofValue
    | .inl v => .fragment (ofValue v)
    | .inr (.inl c) => .someoneJoined c
    | .inr (.inr (.inl c)) => .someoneLeft c
    | .inr (.inr (.inr (.inl v))) => .rosterChanged (ofValue v)
    | .inr (.inr (.inr (.inr (.inl tx)))) => .accepted tx
    | .inr (.inr (.inr (.inr (.inr (.inl v))))) => .rejected v.1 (ofValue v.2.1)
    | .inr (.inr (.inr (.inr (.inr (.inr (.inl v)))))) => .othersTransaction (ofValue v)
  ofValue_toValue e := by cases e <;> simp [ofValue_toValue]
  toValue_ofValue v := by
    rcases v with _ | _ | _ | _ | _ | ⟨_, _, _⟩ | _ | v
    · simp only [toValue_ofValue]
      rfl
    · rfl
    · rfl
    · simp only [toValue_ofValue]
      rfl
    · rfl
    · simp only [toValue_ofValue]
      rfl
    · simp only [toValue_ofValue]
      rfl
    · exact v.elim

/-- What the entering of a session carries. -/
def joinedShape : Shape :=
  .record (.keyedCase "SystemEvent" "JoinedSession")
    (.required "session_id" SessionId
      (.omittable "initial_state" Roster (.omittable "document_snapshot" Snapshot .nil)))

instance : HasShape SystemEvent where
  shape :=
    .choice
      (.carrying "Connected"
        (.record (.keyedCase "SystemEvent" "Connected")
          (.required "connection_id" ConnectionId .nil))
        (.carrying "JoinedSession" joinedShape
          (.bare "LeftSession" (.holding "SessionEvent" SessionEvent .nil))))
  toValue
    | .connected c => .inl (c, ())
    | .joinedSession session roster document =>
      .inr (.inl (session, toValue roster, toValue document, ()))
    | .leftSession => .inr (.inr (.inl ()))
    | .session e => .inr (.inr (.inr (.inl (toValue e))))
  ofValue
    | .inl v => .connected v.1
    | .inr (.inl v) => .joinedSession v.1 (ofValue v.2.1) (ofValue v.2.2.1)
    | .inr (.inr (.inl ())) => .leftSession
    | .inr (.inr (.inr (.inl v))) => .session (ofValue v)
  ofValue_toValue e := by cases e <;> simp [ofValue_toValue]
  toValue_ofValue v := by
    rcases v with ⟨_, _⟩ | ⟨_, _, _, _⟩ | _ | _ | v
    · rfl
    · simp only [toValue_ofValue]
      rfl
    · rfl
    · simp only [toValue_ofValue]
      rfl
    · exact v.elim

instance : HasShape Refusal where
  shape :=
    .choice
      (.bare "InvalidSessionId"
        (.bare "NotInSession"
          (.carrying "FatalError"
            (.record (.keyedCase "SystemError" "FatalError") (.required "reason" String .nil))
            (.holding "Rejected" String .nil))))
  toValue
    | .invalidSession => .inl ()
    | .notInSession => .inr (.inl ())
    | .fatal reason => .inr (.inr (.inl (reason, ())))
    | .rejected reason => .inr (.inr (.inr (.inl reason)))
  ofValue
    | .inl () => .invalidSession
    | .inr (.inl ()) => .notInSession
    | .inr (.inr (.inl v)) => .fatal v.1
    | .inr (.inr (.inr (.inl reason))) => .rejected reason
  ofValue_toValue r := by cases r <;> rfl
  toValue_ofValue v := by
    rcases v with _ | _ | ⟨_, _⟩ | _ | v
    · rfl
    · rfl
    · rfl
    · rfl
    · exact v.elim

instance : HasShape Outcome where
  shape := .choice (.holding "SystemEvent" SystemEvent (.holding "Error" Refusal .nil))
  toValue
    | .event e => .inl (toValue e)
    | .refused r => .inr (.inl (toValue r))
  ofValue
    | .inl v => .event (ofValue v)
    | .inr (.inl v) => .refused (ofValue v)
  ofValue_toValue o := by cases o <;> simp [ofValue_toValue]
  toValue_ofValue v := by
    rcases v with _ | _ | v
    · simp only [toValue_ofValue]
      rfl
    · simp only [toValue_ofValue]
      rfl
    · exact v.elim

/-- What a reply carries. -/
def replyShape : Shape :=
  .record (.keyedCase "IdentifiableEvent" "ByMyself")
    (.required "command_id" CommandId (.required "result" Outcome .nil))

instance : HasShape Inbound where
  shape :=
    .choice
      (.carrying "ByMyself" replyShape
        (.carrying "BySystem"
          (.record (.keyedCase "IdentifiableEvent" "BySystem")
            (.required "system_event" SystemEvent .nil))
          .nil))
  toValue
    | .reply id outcome => .inl (id, toValue outcome, ())
    | .notice e => .inr (.inl (toValue e, ()))
  ofValue
    | .inl v => .reply v.1 (ofValue v.2.1)
    | .inr (.inl v) => .notice (ofValue v.1)
  ofValue_toValue m := by cases m <;> simp [ofValue_toValue]
  toValue_ofValue v := by
    rcases v with ⟨_, _, _⟩ | ⟨_, _⟩ | v
    · simp only [toValue_ofValue]
      rfl
    · simp only [toValue_ofValue]
      rfl
    · exact v.elim

end Whiteboard
