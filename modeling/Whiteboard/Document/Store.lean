import Whiteboard.Document.Keys

/-!
# The committed document

A store holds the state of a document on which all participants agree: which objects exist, and
the string and numeric properties of objects. Transactions change it, and a snapshot of it is
handed to those who join.

## Main definitions

- `Store` — objects and properties of a document
- `Store.mutate`, `Store.process` — the effect of one change and of a transaction
- `Store.snapshot`, `Store.ofSnapshot` — a store as it is handed on
-/

namespace Whiteboard

/-- The committed state of a document. -/
structure Store where
  /-- The name of the document. -/
  id : ObjectId
  /-- The objects that exist. -/
  objects : ObjectMap ObjectKind
  /-- The string properties. -/
  texts : PropMap String
  /-- The numeric properties. -/
  numbers : PropMap Single

/-- The map with the given entries. Of several entries with one key the last one stays. -/
def PropMap.ofEntries {β : Type} (entries : List (PropKey × β)) : PropMap β :=
  entries.foldl (fun m entry => m.insert entry.1 entry.2) ∅

namespace Store

/-- The store of a document with the given name and the properties of a snapshot. The document
itself is the only object. -/
def ofSnapshot (id : ObjectId) (snapshot : Snapshot) : Store where
  id
  objects := (∅ : ObjectMap ObjectKind).insert id .document
  texts := .ofEntries snapshot.texts
  numbers := .ofEntries snapshot.numbers

/-- The name of the document, and its properties in the order of their keys. -/
def snapshot (s : Store) : Snapshot := ⟨some s.id, s.texts.toList, s.numbers.toList⟩

/-- The effect of one change. -/
def mutate (s : Store) : Mutation → Store
  | .create object kind => { s with objects := s.objects.insert object kind }
  | .update key (.text v) => { s with texts := s.texts.insert key v }
  | .update key (.number x) => { s with numbers := s.numbers.insert key x }
  | .delete object =>
    { s with
      objects := s.objects.erase object
      texts := s.texts.filter fun key _ => key.object ≠ object
      numbers := s.numbers.filter fun key _ => key.object ≠ object }

/-- The effect of a transaction: its changes in order. -/
def process (s : Store) (tx : Transaction) : Store := tx.items.foldl mutate s

/-- The value of a string property. -/
def text? (s : Store) (key : PropKey) : Option String := s.texts[key]?

/-- Whether an object exists. -/
def hasObject (s : Store) (object : ObjectId) : Bool := s.objects.contains object

end Store

/-- The name of the document of a snapshot. A snapshot without one gets a fresh name. -/
def Snapshot.nameFrom (snapshot : Snapshot) (ids : IdSource) : ObjectId × IdSource :=
  match snapshot.documentId with
  | some id => (id, ids)
  | none => (⟨ids.draw.1.toText⟩, ids.draw.2)

/-- Opens the store of a snapshot. -/
def Store.openFrom (snapshot : Snapshot) (ids : IdSource) : Store × IdSource :=
  let (id, ids) := snapshot.nameFrom ids
  (ofSnapshot id snapshot, ids)

end Whiteboard
