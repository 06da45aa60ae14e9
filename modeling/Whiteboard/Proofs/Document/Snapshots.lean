import Whiteboard.Proofs.Document.Places

/-!
# Snapshots as a normal form

A snapshot may list properties in any order and more than once. A store that is opened from it and
then changed hands on a snapshot of its own, in which every property stands once, in the order of
the keys, with the value that was written to it last. Opening a store means writing the entries of
the snapshot to a store that has none, so that an entry is a write like any other.

A store that is opened from such a snapshot reads the same as the one that handed it on, and goes on
to do so, since what is held as a property does not depend on the objects.
-/

namespace Whiteboard

open Std (ExtTreeMap)

theorem PropMap.ofEntries_toList {β : Type} (m : PropMap β) : PropMap.ofEntries m.toList = m := by
  rw [ofEntries, ← ExtTreeMap.ofList_eq_foldl]
  refine ExtTreeMap.ext_getElem? fun key => ?_
  cases h : m[key]? with
  | some v =>
    -- no other entry has this key, so it does not matter that the last one would count
    exact ExtTreeMap.getElem?_ofList_of_mem Std.compare_self ExtTreeMap.distinct_keys_toList
      (ExtTreeMap.mem_toList_iff_getElem?_eq_some.mpr h)
  | none =>
    refine ExtTreeMap.getElem?_ofList_of_contains_eq_false ?_
    rw [ExtTreeMap.map_fst_toList_eq_keys, ExtTreeMap.contains_keys,
      ExtTreeMap.contains_eq_isSome_getElem?, h]
    rfl

/-- The entries of a snapshot, as changes. -/
def Snapshot.writes (snapshot : Snapshot) : List Mutation :=
  snapshot.texts.map (fun entry => .update entry.1 (.text entry.2)) ++
    snapshot.numbers.map (fun entry => .update entry.1 (.number entry.2))

namespace Store

/-- A document without properties. -/
def blank (id : ObjectId) : Store := ofSnapshot id ⟨none, [], []⟩

/-- The store that a participant opens who is handed the snapshot of this one. -/
def reopened (s : Store) : Store := ofSnapshot s.id s.snapshot

theorem foldl_writes_texts (entries : List (PropKey × String)) (s : Store) :
    (entries.map fun entry => Mutation.update entry.1 (.text entry.2)).foldl mutate s =
      { s with texts := entries.foldl (fun m entry => m.insert entry.1 entry.2) s.texts } := by
  induction entries generalizing s with
  | nil => rfl
  | cons entry rest ih => exact ih _

theorem foldl_writes_numbers (entries : List (PropKey × Single)) (s : Store) :
    (entries.map fun entry => Mutation.update entry.1 (.number entry.2)).foldl mutate s =
      { s with numbers := entries.foldl (fun m entry => m.insert entry.1 entry.2) s.numbers } := by
  induction entries generalizing s with
  | nil => rfl
  | cons entry rest ih => exact ih _

/-- A store is opened by writing the entries of the snapshot to a document without properties. -/
theorem foldl_writes (id : ObjectId) (snapshot : Snapshot) :
    snapshot.writes.foldl mutate (blank id) = ofSnapshot id snapshot := by
  rw [Snapshot.writes, List.foldl_append, foldl_writes_texts, foldl_writes_numbers]
  rfl

/-- What is held after opening a store and changing it, in one row with the entries. -/
theorem held_foldl_ofSnapshot (id : ObjectId) (snapshot : Snapshot) (txs : List Transaction)
    (place : Place) :
    (txs.foldl process (ofSnapshot id snapshot)).held place =
      (lastVerdict? place (snapshot.writes ++ txs.flatMap Transaction.items)).getD
        ((blank id).held place) := by
  rw [foldl_process, ← foldl_writes, ← List.foldl_append, held_foldl_mutate]

variable {s : Store} {key : PropKey}

theorem mem_texts_snapshot {v : String} :
    (key, v) ∈ s.snapshot.texts ↔ s.held (.text key) = some v :=
  ExtTreeMap.mem_toList_iff_getElem?_eq_some

theorem mem_numbers_snapshot {x : Single} :
    (key, x) ∈ s.snapshot.numbers ↔ s.held (.number key) = some x :=
  ExtTreeMap.mem_toList_iff_getElem?_eq_some

/-- What is held at a place where a document without properties holds nothing. -/
theorem held_eq_some_iff (id : ObjectId) (place : Place) (bare : (blank id).held place = none)
    (snapshot : Snapshot) (txs : List Transaction) (v : place.Value) :
    (txs.foldl process (ofSnapshot id snapshot)).held place = some v ↔
      LastWritten place v (snapshot.writes ++ txs.flatMap Transaction.items) := by
  rw [held_foldl_ofSnapshot, bare, LastWritten, ← lastVerdict?_eq_some_iff]
  cases lastVerdict? place (snapshot.writes ++ txs.flatMap Transaction.items) <;> simp

/-! ### Opened again -/

theorem openFrom_snapshot (s : Store) (ids : IdSource) :
    openFrom s.snapshot ids = (s.reopened, ids) := rfl

theorem texts_reopened (s : Store) : s.reopened.texts = s.texts := PropMap.ofEntries_toList s.texts

theorem numbers_reopened (s : Store) : s.reopened.numbers = s.numbers :=
  PropMap.ofEntries_toList s.numbers

/-- The reopened store has the same properties, whatever both process then. -/
theorem texts_foldl_reopened (s : Store) (txs : List Transaction) :
    (txs.foldl process s.reopened).texts = (txs.foldl process s).texts := by
  refine ExtTreeMap.ext_getElem? fun key => ?_
  show (txs.foldl process s.reopened).held (.text key) = (txs.foldl process s).held (.text key)
  rw [held_foldl_process, held_foldl_process, held, held, texts_reopened]

theorem numbers_foldl_reopened (s : Store) (txs : List Transaction) :
    (txs.foldl process s.reopened).numbers = (txs.foldl process s).numbers := by
  refine ExtTreeMap.ext_getElem? fun key => ?_
  show (txs.foldl process s.reopened).held (.number key) =
    (txs.foldl process s).held (.number key)
  rw [held_foldl_process, held_foldl_process, held, held, numbers_reopened]

/-- The same changes lead to the same snapshots. -/
theorem snapshot_foldl_reopened (s : Store) (txs : List Transaction) :
    (txs.foldl process s.reopened).snapshot = (txs.foldl process s).snapshot := by
  rw [snapshot, snapshot, texts_foldl_reopened, numbers_foldl_reopened, id_foldl_process,
    id_foldl_process]
  rfl

/-- A snapshot is a normal form. Let a store be opened from a snapshot, with entries in any order
and several for one property, and then process some transactions. In the snapshot that it hands on,
each property stands once, in the order of the keys, with the value written to it last, the entries
of the first snapshot being written first; a property of an object that was removed later does not
stand there. A store opened from that one has the same name, and if both process the same
transactions, they hand on the same snapshot and read the same. -/
theorem snapshot_normal_form (first : Snapshot) (ids : IdSource) (txs : List Transaction) :
    let s := txs.foldl process (openFrom first ids).1
    let writes := first.writes ++ txs.flatMap Transaction.items
    ((s.snapshot.texts.Pairwise fun a b => compare a.1 b.1 = .lt) ∧
      ∀ key v, (key, v) ∈ s.snapshot.texts ↔ LastWritten (.text key) v writes) ∧
    ((s.snapshot.numbers.Pairwise fun a b => compare a.1 b.1 = .lt) ∧
      ∀ key x, (key, x) ∈ s.snapshot.numbers ↔ LastWritten (.number key) x writes) ∧
    ∀ ids', let restored := (openFrom s.snapshot ids').1
      restored.id = s.id ∧ ∀ more : List Transaction,
        (more.foldl process restored).snapshot = (more.foldl process s).snapshot ∧
        ∀ key, (more.foldl process restored).text? key = (more.foldl process s).text? key := by
  intro s writes
  refine ⟨⟨ExtTreeMap.ordered_keys_toList, fun key v => ?_⟩,
    ⟨ExtTreeMap.ordered_keys_toList, fun key x => ?_⟩, fun ids' => ⟨rfl, fun more => ?_⟩⟩
  -- the entries of the first snapshot and the changes are one row of writes to a bare document
  · exact mem_texts_snapshot.trans
      (held_eq_some_iff _ (.text key) ExtTreeMap.getElem?_empty first txs v)
  · exact mem_numbers_snapshot.trans
      (held_eq_some_iff _ (.number key) ExtTreeMap.getElem?_empty first txs x)
  · refine ⟨s.snapshot_foldl_reopened more, fun key => ?_⟩
    rw [text?, text?, openFrom_snapshot, texts_foldl_reopened]

end Store

end Whiteboard
