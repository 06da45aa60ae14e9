import Whiteboard.Document.Replica

/-!
# Pending transactions

An answer is about the oldest pending transaction that has its identifier. It takes this one from
its place, and leaves alone what other answers are about.
-/

namespace Whiteboard.Replica

variable {r : Replica} {id other : Uuid} {tx : Transaction} {earlier later : List Transaction}

theorem find?_eq_none : r.find? id = none ↔ ∀ t ∈ r.pending, t.id ≠ id := by
  simp [find?]

theorem split_of_find? (found : r.find? id = some tx) :
    tx.id = id ∧ ∃ earlier later, r.pending = earlier ++ tx :: later ∧
      ∀ u ∈ earlier, u.id ≠ tx.id := by
  obtain ⟨hid, earlier, later, split, others⟩ := List.find?_eq_some_iff_append.mp found
  obtain rfl : tx.id = id := by simpa using hid
  exact ⟨rfl, earlier, later, split, by simpa using others⟩

theorem find?_of_split (split : r.pending = earlier ++ tx :: later)
    (others : ∀ u ∈ earlier, u.id ≠ tx.id) : r.find? tx.id = some tx := by
  have before : earlier.find? (·.id = tx.id) = none := by simpa using others
  rw [find?, split, List.find?_append, before]
  simp

theorem drop_of_split (split : r.pending = earlier ++ tx :: later)
    (others : ∀ u ∈ earlier, u.id ≠ tx.id) : r.drop tx.id = ⟨r.committed, earlier ++ later⟩ := by
  have taken : (tx :: later).eraseP (·.id = tx.id) = later := List.eraseP_cons_of_pos (by simp)
  rw [drop, split, List.eraseP_append_right _ (by simpa using others), taken]

theorem find?_drop (r : Replica) (ne : id ≠ other) : (r.drop id).find? other = r.find? other := by
  rw [find?, find?, drop]
  induction r.pending with
  | nil => rfl
  | cons tx rest ih =>
    by_cases h : tx.id = id
    · have passed : ¬ tx.id = other := fun same => ne (h.symm.trans same)
      rw [List.eraseP_cons_of_pos (by simpa using h),
        List.find?_cons_of_neg (by simpa using passed)]
    · rw [List.eraseP_cons_of_neg (by simpa using h), List.find?_cons, List.find?_cons, ih]

theorem drop_drop (r : Replica) (ne : id ≠ other) :
    (r.drop id).drop other = (r.drop other).drop id := by
  have comm : (r.pending.eraseP (·.id = id)).eraseP (·.id = other) =
      (r.pending.eraseP (·.id = other)).eraseP (·.id = id) := by
    refine List.eraseP_comm fun tx _ => ?_
    by_cases h : tx.id = id
    · exact .inr (by simpa using fun same => ne (h.symm.trans same))
    · exact .inl (by simpa using h)
  rw [drop, drop, drop, drop, comm]

end Whiteboard.Replica
