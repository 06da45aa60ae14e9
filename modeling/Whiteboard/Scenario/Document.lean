import Whiteboard.Scenario.Answer

/-!
# Scenarios of documents

Steps on a store alone, and steps on a replica.
-/

namespace Whiteboard.Scenario

open Log (Note)

/-- A step on a store. -/
inductive StoreStep
  /-- Processes a transaction. -/
  | process (tx : Transaction)
  /-- Looks up a string property. -/
  | text (key : PropKey)
  /-- Asks for an object. -/
  | hasObject (id : ObjectId)
  /-- Takes a snapshot. -/
  | snapshot
  /-- Goes on with the store of the snapshot. -/
  | restore

/-- Performs a step on a store. -/
def StoreStep.perform (s : Store) (ids : IdSource) : StoreStep → Store × IdSource × Answer
  | .process tx => (s.process tx, ids, .done)
  | .text key => (s, ids, .text (s.text? key))
  | .hasObject id => (s, ids, .flag (s.hasObject id))
  | .snapshot => (s, ids, .snapshot s.snapshot)
  | .restore =>
    let (s, ids) := Store.openFrom s.snapshot ids
    (s, ids, .done)

/-- A step on a replica. -/
inductive ReplicaStep
  /-- Makes the transaction of an edit, and does nothing with it. -/
  | transactionFor (edit : Edit)
  /-- Begins a transaction. -/
  | begin (tx : Transaction)
  /-- Begins the transaction of an edit. -/
  | beginEdit (edit : Edit)
  /-- Commits a foreign transaction. -/
  | applyRemote (tx : Transaction)
  /-- Commits a pending transaction. -/
  | accept (id : Uuid)
  /-- Takes a pending transaction back. -/
  | reject (id : Uuid)
  /-- Looks up a string property as the reader sees it. -/
  | text (key : PropKey)
  /-- Looks up a committed string property. -/
  | committedText (key : PropKey)
  /-- Asks for a committed object. -/
  | hasObject (id : ObjectId)
  /-- Takes a snapshot of the committed state. -/
  | committed

/-- The answer to an answer of the relay: the objects touched, if the transaction was pending. -/
def touchedAnswer (id : Uuid) : Option ObjectSet → Answer
  | some touched => .objects touched.toList
  | none => .coreError (.unknownTransaction id)

/-- What a step on a replica leaves behind. -/
structure ReplicaResult where
  /-- The replica. -/
  replica : Replica
  /-- The supply of identifiers. -/
  ids : IdSource
  /-- What the log says. -/
  notes : List Note
  /-- The answer. -/
  answer : Answer

/-- Performs a step on a replica. -/
def ReplicaStep.perform (r : Replica) (ids : IdSource) : ReplicaStep → ReplicaResult
  | .transactionFor edit =>
    let (id, ids) := ids.draw
    ⟨r, ids, [], .transaction (r.transactionFor edit id)⟩
  | .begin tx =>
    let (r, touched) := r.begin tx
    ⟨r, ids, [.began tx.id], .objects touched.toList⟩
  | .beginEdit edit =>
    let (id, ids) := ids.draw
    let (r, touched) := r.begin (r.transactionFor edit id)
    ⟨r, ids, [.began id], .begun id touched.toList⟩
  | .applyRemote tx =>
    let (r, touched) := r.applyRemote tx
    ⟨r, ids, [.applied tx.id], .objects touched.toList⟩
  | .accept id =>
    let (r, touched?) := r.accept id
    ⟨r, ids, [], touchedAnswer id touched?⟩
  | .reject id =>
    let (r, touched?) := r.reject id
    ⟨r, ids, if touched?.isSome then [.rolledBack id] else [], touchedAnswer id touched?⟩
  | .text key => ⟨r, ids, [], .text (r.text? key)⟩
  | .committedText key => ⟨r, ids, [], .text (r.committed.text? key)⟩
  | .hasObject id => ⟨r, ids, [], .flag (r.committed.hasObject id)⟩
  | .committed => ⟨r, ids, [], .snapshot r.committed.snapshot⟩

end Whiteboard.Scenario
