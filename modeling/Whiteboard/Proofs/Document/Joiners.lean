import Whiteboard.Proofs.Document.Rollback
import Whiteboard.Proofs.Document.Snapshots

/-!
# What a joiner knows

Someone who joins late is handed a snapshot and gets the transactions that follow. Some of these
may be in the snapshot already, if it was taken while they were on the way. Delivering them again
does no harm, since the last change with a verdict on a place decides, and that is the same one
whether a run of transactions comes once or twice.

A snapshot lists properties and no objects. So a joiner knows of the document alone, until other
objects are made or removed before its eyes; and it believes that the document exists, even if it
was removed before.
-/

namespace Whiteboard

/-- Whether a change makes or removes an object. -/
def Mutation.makesOrRemoves (object : ObjectId) : Mutation → Bool
  | .create made _ => made = object
  | .delete gone => gone = object
  | .update _ _ => false

theorem Mutation.isSome_verdictAt?_object (object : ObjectId) (m : Mutation) :
    (m.verdictAt? (.object object)).isSome = m.makesOrRemoves object := by
  cases m with
  | create made kind => by_cases h : made = object <;> simp [verdictAt?, makesOrRemoves, h]
  | update key value => rfl
  | delete gone => by_cases h : gone = object <;> simp [verdictAt?, makesOrRemoves, h]

theorem isSome_lastVerdict?_object (object : ObjectId) (ms : List Mutation) :
    (lastVerdict? (.object object) ms).isSome = ms.any (·.makesOrRemoves object) := by
  rw [lastVerdict?, List.isSome_findSome?, List.any_reverse]
  simp only [Mutation.isSome_verdictAt?_object]

namespace Store

variable {object : ObjectId}

/-- The last change that makes or removes an object decides whether it exists. -/
theorem hasObject_foldl_process (txs : List Transaction) (s : Store) (object : ObjectId) :
    (txs.foldl process s).hasObject object =
      ((lastVerdict? (.object object) (txs.flatMap Transaction.items)).map Option.isSome).getD
        (s.hasObject object) := by
  rw [hasObject_eq, held_foldl_process, hasObject_eq]
  cases lastVerdict? (.object object) (txs.flatMap Transaction.items) <;> rfl

/-- Whoever opens a snapshot knows of the document alone. -/
theorem hasObject_ofSnapshot (id : ObjectId) (snapshot : Snapshot) (object : ObjectId) :
    (ofSnapshot id snapshot).hasObject object = decide (object = id) := by
  rw [hasObject, ofSnapshot, Std.ExtTreeMap.contains_insert]
  by_cases h : object = id
  · simp [h]
  · have ne : compare id object ≠ .eq := fun same => h (Std.compare_eq_iff_eq.mp same).symm
    simp [h, ne]

/-- Once an object is made or removed, all who see it agree on it. -/
theorem hasObject_foldl_of_any {txs : List Transaction} (s s' : Store)
    (seen : (txs.flatMap Transaction.items).any (·.makesOrRemoves object)) :
    (txs.foldl process s).hasObject object = (txs.foldl process s').hasObject object := by
  rw [hasObject_foldl_process, hasObject_foldl_process]
  rw [← isSome_lastVerdict?_object] at seen
  cases h : lastVerdict? (.object object) (txs.flatMap Transaction.items) with
  | some verdict => rfl
  | none =>
    rw [h] at seen
    cases seen

/-- Until then, whether it exists stays as it is. -/
theorem hasObject_foldl_of_not_any {txs : List Transaction} (s : Store)
    (unseen : (txs.flatMap Transaction.items).any (·.makesOrRemoves object) = false) :
    (txs.foldl process s).hasObject object = s.hasObject object := by
  rw [hasObject_foldl_process]
  rw [← isSome_lastVerdict?_object] at unseen
  cases h : lastVerdict? (.object object) (txs.flatMap Transaction.items) with
  | some verdict =>
    rw [h] at unseen
    cases unseen
  | none => rfl

/-- Whoever opens a snapshot of a store agrees with those who have the store on an object exactly if
one of the transactions that both process later makes or removes it, or if, to begin with, the store
had it and this is the document, or it is another object and the store did not have it. -/
theorem hasObject_reopened_iff (s : Store) (ids : IdSource) (more : List Transaction)
    (object : ObjectId) :
    (more.foldl process (openFrom s.snapshot ids).1).hasObject object =
        (more.foldl process s).hasObject object ↔
      (more.flatMap Transaction.items).any (·.makesOrRemoves object) = true ∨
        s.hasObject object = decide (object = s.id) := by
  cases seen : (more.flatMap Transaction.items).any (·.makesOrRemoves object) with
  | true => exact iff_of_true (hasObject_foldl_of_any _ s seen) (.inl rfl)
  | false =>
    -- both are as they were when the snapshot was opened
    have opened : (openFrom s.snapshot ids).1.hasObject object = decide (object = s.id) :=
      hasObject_ofSnapshot ..
    rw [hasObject_foldl_of_not_any _ seen, hasObject_foldl_of_not_any _ seen, opened]
    exact ⟨fun same => .inr same.symm, fun h => h.elim (fun absurd => nomatch absurd) Eq.symm⟩

/-- When a joiner knows of an object what those know who saw everything. Let a document be opened
from a snapshot and process some transactions, let someone join who gets its snapshot, and let both
process further transactions. They agree on an object exactly if one of the further transactions
makes or removes it, or if, when the other one joined, the document existed and this is the object,
or it is another one and did not exist. -/
theorem joiner_knows_iff (first : Snapshot) (ids ids' : IdSource) (txs more : List Transaction)
    (object : ObjectId) :
    let s := txs.foldl process (openFrom first ids).1
    let joined := (openFrom s.snapshot ids').1
    (more.foldl process joined).hasObject object = (more.foldl process s).hasObject object ↔
      (more.flatMap Transaction.items).any (·.makesOrRemoves object) = true ∨
        s.hasObject object = decide (object = s.id) :=
  hasObject_reopened_iff (txs.foldl process (openFrom first ids).1) ids' more object

/-- An object is made beside the document. -/
def companion : Transaction := ⟨.numbered 9 1, [.create ⟨"shape"⟩ .document]⟩

/-- The document itself is removed. -/
def removal : Transaction := ⟨.numbered 9 2, [.delete ⟨"plan"⟩]⟩

/-- The joiner misses the object that was made, and believes in the document that was removed. -/
theorem joiner_knows_otherwise :
    let s := [companion, removal].foldl process
      (openFrom ⟨some ⟨"plan"⟩, [], []⟩ (.labelled 1)).1
    let joined := (openFrom s.snapshot (.labelled 2)).1
    (s.hasObject ⟨"shape"⟩ = true ∧ joined.hasObject ⟨"shape"⟩ = false) ∧
      (s.hasObject ⟨"plan"⟩ = false ∧ joined.hasObject ⟨"plan"⟩ = true) := by
  decide +kernel

/-! ### Transactions that come again -/

/-- A run of transactions that comes twice in a row has the verdicts that it has when it comes
once. -/
theorem foldl_process_twice (s : Store) (txs : List Transaction) :
    txs.foldl process (txs.foldl process s) = txs.foldl process s := by
  refine ext_held (by simp) fun place => ?_
  rw [held_foldl_process, held_foldl_process]
  cases lastVerdict? place (txs.flatMap Transaction.items) <;> rfl

theorem run_applyRemote (txs : List Transaction) (s : Store)
    (pending : List Transaction) :
    Replica.run ⟨s, pending⟩ (txs.map .applyRemote) = ⟨txs.foldl process s, pending⟩ := by
  induction txs generalizing s with
  | nil => rfl
  | cons tx rest ih => exact ih _

/-- Delivering transactions again does no harm to those who have them. If a run `b` of transactions
comes twice in a row, the store is the same in the end as if it came once, whatever came before and
comes later. So it is with a participant whose document has `b` already, and who is told of it again
by the others, whatever it has pending itself.

One who opened the snapshot that was taken after `b`, and is told of `b` again, has the same name
and the same properties in the end as those who saw everything. It agrees with them on an object
exactly if the object is made or removed once more, or if the snapshot does not mislead: the
document existed and this is the object, or it is another one and did not exist. On every other
object it is where it would be without the repetition. -/
theorem overlap_harmless (s : Store) (a b c : List Transaction) :
    let before := (a ++ b).foldl process s
    let whole := (a ++ b ++ c).foldl process s
    (a ++ b ++ b ++ c).foldl process s = whole ∧
    (∀ pending, Replica.run ⟨before, pending⟩ ((b ++ c).map .applyRemote) = ⟨whole, pending⟩) ∧
    ∀ ids, let joined := (openFrom before.snapshot ids).1
      ((b ++ c).foldl process joined).snapshot = whole.snapshot ∧
      ∀ object,
        (((b ++ c).foldl process joined).hasObject object = whole.hasObject object ↔
          ((b ++ c).flatMap Transaction.items).any (·.makesOrRemoves object) = true ∨
            before.hasObject object = decide (object = before.id)) ∧
        (((b ++ c).flatMap Transaction.items).any (·.makesOrRemoves object) = false →
          ((b ++ c).foldl process joined).hasObject object =
            (c.foldl process joined).hasObject object) := by
  intro before whole
  have again : (b ++ c).foldl process before = whole := by
    simp only [before, whole, List.foldl_append, foldl_process_twice]
  refine ⟨?_, fun pending => ?_, fun ids => ⟨?_, fun object => ⟨?_, fun unseen => ?_⟩⟩⟩
  · rw [List.append_assoc, List.foldl_append]
    exact again
  · rw [run_applyRemote, again]
  · rw [openFrom_snapshot, snapshot_foldl_reopened, again]
  · rw [← again]
    exact hasObject_reopened_iff before ids (b ++ c) object
  · have later : (c.flatMap Transaction.items).any (·.makesOrRemoves object) = false := by
      rw [List.flatMap_append, List.any_append, Bool.or_eq_false_iff] at unseen
      exact unseen.2
    rw [hasObject_foldl_of_not_any _ unseen, hasObject_foldl_of_not_any _ later]

/-- The document gets a title. -/
def naming : Transaction := ⟨.numbered 9 3, [.update ⟨⟨"plan"⟩, .title⟩ (.text "a")]⟩

/-- An object is made, and the document gets a title, of which a joiner is told that has it already.
The joiner does not end where the others do. -/
theorem overlap_misses_objects :
    ¬ ∀ (s : Store) (a b c : List Transaction) (ids : IdSource) (object : ObjectId),
      let joined := (openFrom ((a ++ b).foldl process s).snapshot ids).1
      ((b ++ c).foldl process joined).hasObject object =
        ((a ++ b ++ c).foldl process s).hasObject object := by
  intro same
  have missing := same (openFrom ⟨some ⟨"plan"⟩, [], []⟩ (.labelled 1)).1 [companion] [naming] []
    (.labelled 2) ⟨"shape"⟩
  revert missing
  decide +kernel

end Store

end Whiteboard
