import Whiteboard.Proofs.Document.Pending
import Whiteboard.Proofs.Document.Places

/-!
# Objects that a transaction does not touch

A transaction has a verdict only on properties of the objects that it touches. So whether it
becomes pending, is committed or is taken back, the reader sees no difference in any other object,
although a transaction that is committed is moved before all that are pending.
-/

namespace Whiteboard

namespace Transaction

/-- What some transactions, committed in order, say about a string property. -/
def verdict? (txs : List Transaction) (key : PropKey) : Option (Option String) :=
  (txs.flatMap items).reverse.findSome? (Mutation.verdict? key)

variable {txs : List Transaction} {tx : Transaction} {key : PropKey}

/-- The later transactions decide first. -/
theorem verdict?_append (txs others : List Transaction) (key : PropKey) :
    verdict? (txs ++ others) key = (verdict? others key).or (verdict? txs key) := by
  rw [verdict?, List.flatMap_append]
  exact lastVerdict?_append (.text key) _ _

theorem verdict?_cons (tx : Transaction) (txs : List Transaction) (key : PropKey) :
    verdict? (tx :: txs) key = (verdict? txs key).or (verdict? [tx] key) :=
  verdict?_append [tx] txs key

/-- A transaction has no verdict on the objects that it does not touch. -/
theorem verdict?_singleton (h : key.object ∉ tx.touched) : verdict? [tx] key = none := by
  rw [verdict?, List.flatMap_singleton]
  exact lastVerdict?_of_not_touched (.text key) h

theorem verdict?_of_not_mem (h : ∀ tx ∈ txs, key.object ∉ tx.touched) :
    verdict? txs key = none := by
  induction txs with
  | nil => rfl
  | cons tx rest ih =>
    rw [verdict?_cons, ih fun other mem => h other (List.mem_cons_of_mem _ mem),
      verdict?_singleton (h tx List.mem_cons_self)]
    rfl

end Transaction

open Transaction (verdict?)

theorem Store.text?_process (s : Store) (tx : Transaction) (key : PropKey) :
    (s.process tx).text? key = (verdict? [tx] key).getD (s.text? key) := by
  rw [process, text?_foldl_mutate, verdict?, List.flatMap_singleton]

namespace Replica

variable {r : Replica} {id : Uuid} {tx : Transaction} {key : PropKey}

/-- The pending transactions decide what the reader sees, and otherwise the store does. -/
theorem text?_eq (r : Replica) (key : PropKey) :
    r.text? key = (verdict? r.pending key).getD (r.committed.text? key) := by
  rw [text?, newestFirst_eq, ← verdict?]
  cases verdict? r.pending key <;> rfl

/-- Taking back a transaction does not change what the others say about other objects. -/
theorem verdict?_drop (key : PropKey) (found : r.find? id = some tx)
    (h : key.object ∉ tx.touched) : verdict? (r.drop id).pending key = verdict? r.pending key := by
  obtain ⟨rfl, earlier, later, split, others⟩ := split_of_find? found
  rw [drop_of_split split others, split, Transaction.verdict?_append, Transaction.verdict?_append,
    Transaction.verdict?_cons, Transaction.verdict?_singleton h, Option.or_none]

/-- A replica of the same document, with the same title, looks the same. -/
theorem view_congr {r' : Replica} (name : r'.id = r.id)
    (title : r'.text? r.id.titleKey = r.text? r.id.titleKey) : r'.view = r.view := by
  rw [view, name, title, view]

theorem text?_begin (h : key.object ∉ tx.touched) : (r.begin tx).1.text? key = r.text? key := by
  rw [text?_eq, text?_eq, begin, Transaction.verdict?_append, Transaction.verdict?_singleton h]
  rfl

theorem text?_applyRemote (h : key.object ∉ tx.touched) :
    (r.applyRemote tx).1.text? key = r.text? key := by
  rw [text?_eq, text?_eq, applyRemote, Store.text?_process, Transaction.verdict?_singleton h]
  rfl

theorem text?_reject (found : r.find? id = some tx) (h : key.object ∉ tx.touched) :
    (r.reject id).1.text? key = r.text? key := by
  rw [text?_eq, text?_eq, reject, found]
  dsimp only
  rw [verdict?_drop _ found h]
  rfl

theorem text?_accept (found : r.find? id = some tx) (h : key.object ∉ tx.touched) :
    (r.accept id).1.text? key = r.text? key := by
  rw [text?_eq, text?_eq, accept, found]
  dsimp only
  rw [verdict?_drop _ found h, Store.text?_process, Transaction.verdict?_singleton h]
  rfl

theorem view_applyRemote (h : r.id ∉ tx.touched) : (r.applyRemote tx).1.view = r.view :=
  view_congr (Store.id_process _ _) (text?_applyRemote h)

theorem view_reject (found : r.find? id = some tx) (h : r.id ∉ tx.touched) :
    (r.reject id).1.view = r.view := by
  refine view_congr ?_ (text?_reject found h)
  rw [reject, found]
  rfl

theorem view_accept (found : r.find? id = some tx) (h : r.id ∉ tx.touched) :
    (r.accept id).1.view = r.view := by
  refine view_congr ?_ (text?_accept found h)
  rw [accept, found]
  exact Store.id_process _ _

end Replica

end Whiteboard
