import Whiteboard.Document.Replica

/-!
# Replaying pending transactions

The reader of a replica sees the newest pending change that says something about a property. The
same value is found by committing all pending transactions, oldest first, to a copy of the store.
The two meet in the verdicts: what a change does to a property of the store is its verdict on that
property.
-/

namespace Whiteboard

namespace Store

@[simp] theorem id_mutate (s : Store) (m : Mutation) : (s.mutate m).id = s.id := by
  cases m with
  | create object kind => rfl
  | update key value => cases value <;> rfl
  | delete object => rfl

@[simp] theorem id_process (s : Store) (tx : Transaction) : (s.process tx).id = s.id := by
  unfold process
  induction tx.items generalizing s with
  | nil => rfl
  | cons m rest ih => rw [List.foldl_cons, ih, id_mutate]

theorem text?_mutate_text (s : Store) (k key : PropKey) (v : String) :
    (s.mutate (.update k (.text v))).text? key = if k = key then some v else s.text? key := by
  change (s.texts.insert k v)[key]? = _
  rw [Std.ExtTreeMap.getElem?_insert]
  simp only [Std.compare_eq_iff_eq]
  rfl

theorem text?_mutate_delete (s : Store) (object : ObjectId) (key : PropKey) :
    (s.mutate (.delete object)).text? key = if object = key.object then none else s.text? key := by
  change (s.texts.filter fun k _ => k.object ≠ object)[key]? = _
  rw [Std.ExtTreeMap.getElem?_filter']
  by_cases h : object = key.object
  · simp [h]
  · have hne : key.object ≠ object := Ne.symm h
    cases hv : s.texts[key]? <;> simp [h, hne, text?, hv]

/-- What a change does to a string property is its verdict on the property, and nothing if it has
no verdict. -/
theorem text?_mutate (s : Store) (m : Mutation) (key : PropKey) :
    (s.mutate m).text? key = (m.verdict? key).getD (s.text? key) := by
  cases m with
  | create object kind => rfl
  | update k value =>
    cases value with
    | number x => rfl
    | text v =>
      rw [text?_mutate_text]
      simp only [Mutation.verdict?]
      split <;> rfl
  | delete object =>
    rw [text?_mutate_delete]
    simp only [Mutation.verdict?]
    split <;> rfl

/-- If a step sets what is read to its verdict, and leaves it alone without one, then the last verdict
of several steps decides what is read after them. -/
theorem read_foldl {σ μ β : Type} {step : σ → μ → σ} (read : σ → Option β)
    (verdict? : μ → Option (Option β)) (h : ∀ s m, read (step s m) = (verdict? m).getD (read s))
    (ms : List μ) (s : σ) :
    read (ms.foldl step s) = (ms.reverse.findSome? verdict?).getD (read s) := by
  induction ms generalizing s with
  | nil => rfl
  | cons m rest ih =>
    rw [List.foldl_cons, ih, h, List.reverse_cons, List.findSome?_append]
    cases hrest : rest.reverse.findSome? verdict? with
    | some verdict => rfl
    -- no later step says anything, so the first one decides
    | none => cases hm : verdict? m <;> simp [hm]

/-- Of several changes the last one with a verdict on a property decides its value. -/
theorem text?_foldl_mutate (ms : List Mutation) (s : Store) (key : PropKey) :
    (ms.foldl mutate s).text? key =
      (ms.reverse.findSome? (Mutation.verdict? key)).getD (s.text? key) :=
  read_foldl (text? · key) (Mutation.verdict? key) (fun s m => s.text?_mutate m key) ms s

/-- Transactions committed one after another act as all their changes in one row. -/
theorem foldl_process (txs : List Transaction) (s : Store) :
    txs.foldl process s = (txs.flatMap Transaction.items).foldl mutate s := by
  induction txs generalizing s with
  | nil => rfl
  | cons tx rest ih =>
    rw [List.foldl_cons, ih, List.flatMap_cons, List.foldl_append]
    rfl

end Store

namespace Replica

/-- The store as it were if all pending transactions were committed, oldest first. -/
def replayed (r : Replica) : Store := r.pending.foldl Store.process r.committed

theorem id_replayed (r : Replica) : r.replayed.id = r.id := by
  unfold replayed id
  induction r.pending generalizing r with
  | nil => rfl
  | cons tx rest ih =>
    rw [List.foldl_cons]
    exact (ih ⟨r.committed.process tx, rest⟩).trans (Store.id_process _ _)

theorem newestFirst_eq (r : Replica) :
    r.newestFirst = (r.pending.flatMap Transaction.items).reverse := by
  rw [newestFirst, List.reverse_flatMap]
  rfl

/-- Looking through the pending changes finds what replaying them leaves in the store. -/
theorem text?_replayed (r : Replica) (key : PropKey) : r.replayed.text? key = r.text? key := by
  rw [replayed, Store.foldl_process, Store.text?_foldl_mutate, ← newestFirst_eq]
  unfold text?
  cases r.newestFirst.findSome? (Mutation.verdict? key) <;> rfl

/-- The reader sees what the store would hold after all pending transactions were committed in
order: the same value of every string property, and hence the same title under the same name. -/
theorem text?_eq_text?_replayed (r : Replica) :
    (∀ key, r.text? key = r.replayed.text? key) ∧
      r.view = ⟨r.replayed.id, (r.replayed.text? r.replayed.id.titleKey).getD "Untitled"⟩ := by
  refine ⟨fun key => (text?_replayed r key).symm, ?_⟩
  rw [id_replayed, text?_replayed]
  rfl

end Replica

end Whiteboard
