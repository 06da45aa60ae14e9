import Whiteboard.Proofs.Document.Rollback
import Whiteboard.Proofs.Document.Touched

/-!
# What a step reports is all that it changes

Every step with a replica reports the objects that its transaction touches. Those who show the
document read only these again. That is enough: an answer may uncover values of other transactions
or bury them, but only in objects that the answered transaction touches too. A step that fails
changes nothing.
-/

namespace Whiteboard

namespace Store

theorem hasObject_process (s : Store) {tx : Transaction} {object : ObjectId}
    (h : object ∉ tx.touched) : (s.process tx).hasObject object = s.hasObject object := by
  rw [hasObject_eq, hasObject_eq, s.held_process (.object object) h]

end Store

namespace Replica

/-- The transaction that a step is about. An answer is about the oldest pending transaction with its
identifier, if there is one. -/
def Step.transaction? (r : Replica) : Step → Option Transaction
  | .begin tx | .applyRemote tx => some tx
  | .accept id | .reject id => r.find? id

/-- What can be read of two replicas is the same, but for some objects. -/
structure SameOutside (touched : ObjectSet) (r r' : Replica) : Prop where
  text : ∀ key : PropKey, key.object ∉ touched → r'.text? key = r.text? key
  presence : ∀ object ∉ touched, r'.committed.hasObject object = r.committed.hasObject object

variable {r : Replica} {id : Uuid} {tx : Transaction}

theorem accept_of_find? (found : r.find? id = some tx) :
    r.accept id = (⟨r.committed.process tx, (r.drop id).pending⟩, some tx.touched) := by
  rw [accept, found]

theorem reject_of_find? (found : r.find? id = some tx) :
    r.reject id = (r.drop id, some tx.touched) := by
  rw [reject, found]

theorem step_of_transaction? {s : Step} (about : s.transaction? r = some tx) :
    (r.step s).2 = .ok tx.touched := by
  cases s with
  | begin t =>
    cases about
    rfl
  | applyRemote t =>
    cases about
    rfl
  | accept id => rw [step, accept_of_find? about, answered]
  | reject id => rw [step, reject_of_find? about, answered]

/-- A step that is about no transaction is an answer to one that is not pending, and fails. -/
theorem step_of_transaction?_eq_none {s : Step} (about : s.transaction? r = none) :
    ∃ id, s.answered? = some id ∧ (∀ t ∈ r.pending, t.id ≠ id) ∧
      r.step s = (r, .error (.unknownTransaction id)) := by
  cases s with
  | begin t => cases about
  | applyRemote t => cases about
  | accept id =>
    refine ⟨id, rfl, find?_eq_none.mp about, ?_⟩
    have missing : r.find? id = none := about
    rw [step, accept, missing, answered]
  | reject id =>
    refine ⟨id, rfl, find?_eq_none.mp about, ?_⟩
    have missing : r.find? id = none := about
    rw [step, reject, missing, answered]

theorem text?_step {s : Step} (about : s.transaction? r = some tx) {key : PropKey}
    (h : key.object ∉ tx.touched) : (r.step s).1.text? key = r.text? key := by
  cases s with
  | begin t =>
    cases about
    exact text?_begin h
  | applyRemote t =>
    cases about
    exact text?_applyRemote h
  | accept id =>
    have unseen := text?_accept about h
    rw [accept_of_find? about] at unseen
    rw [step, accept_of_find? about, answered, unseen]
  | reject id =>
    have unseen := text?_reject about h
    rw [reject_of_find? about] at unseen
    rw [step, reject_of_find? about, answered, unseen]

/-- Only a commit can make or remove objects. -/
theorem hasObject_step {s : Step} (about : s.transaction? r = some tx) {object : ObjectId}
    (h : object ∉ tx.touched) :
    (r.step s).1.committed.hasObject object = r.committed.hasObject object := by
  cases s with
  | begin t => rfl
  | applyRemote t =>
    cases about
    exact r.committed.hasObject_process h
  | accept id =>
    rw [step, accept_of_find? about, answered]
    exact r.committed.hasObject_process h
  | reject id =>
    rw [step, reject_of_find? about, answered]
    rfl

theorem sameOutside_step {s : Step} (about : s.transaction? r = some tx) :
    SameOutside tx.touched r (r.step s).1 where
  text := fun _ outside => text?_step about outside
  presence := fun _ outside => hasObject_step about outside

/-- A step reports all that it changes. A transaction begins, is committed for another participant,
or is accepted or rejected, whatever is pending by then. The step reports the objects that the
changes of this transaction are about, and each string property that reads differently afterwards
and each object that was made or removed is, or belongs to, one of them. An answer to a transaction
that is not pending fails and leaves the replica as it is. -/
theorem step_reports_changes (r : Replica) (s : Step) :
    match s.transaction? r with
    | some tx =>
      (r.step s).2 = .ok tx.touched ∧
        (∀ object, object ∈ tx.touched ↔ ∃ m ∈ tx.items, m.object = object) ∧
        (∀ key : PropKey, (r.step s).1.text? key ≠ r.text? key → key.object ∈ tx.touched) ∧
        ∀ object, (r.step s).1.committed.hasObject object ≠ r.committed.hasObject object →
          object ∈ tx.touched
    | none =>
      ∃ id, s.answered? = some id ∧ (∀ t ∈ r.pending, t.id ≠ id) ∧
        r.step s = (r, .error (.unknownTransaction id)) := by
  cases about : s.transaction? r with
  | none => exact step_of_transaction?_eq_none about
  | some tx =>
    have outside := sameOutside_step about
    refine ⟨step_of_transaction? about, fun object => Transaction.mem_touched, ?_, ?_⟩
    · intro key differs
      by_cases touched : key.object ∈ tx.touched
      · exact touched
      · exact (differs (outside.text key touched)).elim
    · intro object differs
      by_cases touched : object ∈ tx.touched
      · exact touched
      · exact (differs (outside.presence object touched)).elim

/-- The document is emptied and gets another title, while an older title still waits. -/
def overtaking : Transaction :=
  ⟨.numbered 9 2, [.delete ⟨"plan"⟩, .update ⟨⟨"plan"⟩, .title⟩ (.text "b")]⟩

/-- If the newer one is accepted first, the document is gone and the older title shows again. -/
theorem step_reports_changes_uncovering :
    let r := (drafted.begin overtaking).1
    let r' := (r.step (.accept overtaking.id)).1
    (r.text? ⟨⟨"plan"⟩, .title⟩ = some "b" ∧ r'.text? ⟨⟨"plan"⟩, .title⟩ = some "a") ∧
      (r.committed.hasObject ⟨"plan"⟩ = true ∧ r'.committed.hasObject ⟨"plan"⟩ = false) ∧
      (r.step (.accept overtaking.id)).2 = .ok overtaking.touched ∧
      (⟨"plan"⟩ : ObjectId) ∈ overtaking.touched := by
  intro r r'
  have before : r.text? ⟨⟨"plan"⟩, .title⟩ = some "b" := by decide +kernel
  have after : r'.text? ⟨⟨"plan"⟩, .title⟩ = some "a" := by decide +kernel
  obtain ⟨reported, -, changes, -⟩ := r.step_reports_changes (.accept overtaking.id)
  have differs : r'.text? ⟨⟨"plan"⟩, .title⟩ ≠ r.text? ⟨⟨"plan"⟩, .title⟩ := by
    rw [before, after]
    decide
  exact ⟨⟨before, after⟩, by decide +kernel, reported, changes _ differs⟩

end Replica

end Whiteboard
