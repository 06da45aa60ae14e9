import Whiteboard.Document.Store

/-!
# A participant's copy of the document

A replica is a store together with the transactions that this participant began and the relay has
not yet answered. They show at once to the reader, who sees the newest first, and reach the store
when they are accepted; rejected ones vanish.
-/

namespace Whiteboard

/-- The title of a document that has none. -/
def untitled : String := "Untitled"

/-- The objects that the changes of a transaction are about. -/
def Transaction.touched (tx : Transaction) : ObjectSet := .ofList (tx.items.map Mutation.object)

/-- The property that holds the title of a document. -/
def ObjectId.titleKey (id : ObjectId) : PropKey := ⟨id, .title⟩

/-- What a change alone says about a string property: its new value, its absence, or nothing. -/
def Mutation.verdict? (key : PropKey) : Mutation → Option (Option String)
  | .update k (.text v) => if k = key then some (some v) else none
  | .delete object => if object = key.object then some none else none
  | .create _ _ | .update _ (.number _) => none

/-- A store and the transactions that wait for an answer, oldest first. -/
structure Replica where
  /-- The state on which all participants agree. -/
  committed : Store
  /-- The transactions without an answer. -/
  pending : List Transaction

namespace Replica

/-- Opens the replica of a snapshot, with nothing pending. -/
def openFrom (snapshot : Snapshot) (ids : IdSource) : Replica × IdSource :=
  let (store, ids) := Store.openFrom snapshot ids
  (⟨store, []⟩, ids)

/-- The name of the document. -/
def id (r : Replica) : ObjectId := r.committed.id

/-- The transaction, known by the given identifier, that makes an edit to this document. -/
def transactionFor (r : Replica) (edit : Edit) (id : Uuid) : Transaction :=
  match edit with
  | .retitle title => ⟨id, [.update r.id.titleKey (.text title)]⟩

/-- Begins a transaction of this participant. Gives the objects it touches. -/
def begin (r : Replica) (tx : Transaction) : Replica × ObjectSet :=
  ({ r with pending := r.pending ++ [tx] }, tx.touched)

/-- Commits a transaction of another participant. Gives the objects it touches. -/
def applyRemote (r : Replica) (tx : Transaction) : Replica × ObjectSet :=
  ({ r with committed := r.committed.process tx }, tx.touched)

/-- The oldest pending transaction with an identifier. -/
def find? (r : Replica) (id : Uuid) : Option Transaction := r.pending.find? (·.id = id)

/-- The replica without the oldest pending transaction with an identifier. -/
def drop (r : Replica) (id : Uuid) : Replica := { r with pending := r.pending.eraseP (·.id = id) }

/-- Commits the pending transaction with an identifier. Gives the objects it touches, or nothing
if there is no such transaction; then nothing changes. -/
def accept (r : Replica) (id : Uuid) : Replica × Option ObjectSet :=
  match r.find? id with
  | none => (r, none)
  | some tx => ({ r.drop id with committed := r.committed.process tx }, some tx.touched)

/-- Takes back the pending transaction with an identifier. Gives the objects it touches, or
nothing if there is no such transaction; then nothing changes. -/
def reject (r : Replica) (id : Uuid) : Replica × Option ObjectSet :=
  match r.find? id with
  | none => (r, none)
  | some tx => (r.drop id, some tx.touched)

/-- The pending changes, newest first. -/
def newestFirst (r : Replica) : List Mutation :=
  r.pending.reverse.flatMap fun tx => tx.items.reverse

/-- The value of a string property as the reader sees it: the newest pending change that says
something about it decides, and otherwise the store. -/
def text? (r : Replica) (key : PropKey) : Option String :=
  match r.newestFirst.findSome? (Mutation.verdict? key) with
  | some verdict => verdict
  | none => r.committed.text? key

/-- The document as the reader sees it. -/
def view (r : Replica) : DocumentView := ⟨r.id, (r.text? r.id.titleKey).getD untitled⟩

end Replica

end Whiteboard
