import Whiteboard.Proofs.Document.Touched

/-!
# Accepting a transaction unseen

The relay may accept the transactions of a participant in any order. An accepted transaction is
committed at once, and so comes to lie beneath those that began before it and still wait. Where none
of them touches an object that it touches, the reader sees no difference.
-/

namespace Whiteboard

open Transaction (verdict?)

namespace Replica

variable {r : Replica} {t : Transaction} {earlier later : List Transaction}

/-- An accepted transaction is taken from among the pending ones and committed. -/
theorem accept_of_split (split : r.pending = earlier ++ t :: later)
    (others : ∀ u ∈ earlier, u.id ≠ t.id) :
    r.accept t.id = (⟨r.committed.process t, earlier ++ later⟩, some t.touched) := by
  rw [accept, find?_of_split split others, drop_of_split split others]

/-- A transaction with an identifier of its own is accepted, and the reader sees no difference, if
no transaction that has been pending for longer touches an object that it touches. -/
theorem accept_unseen (distinct : (r.pending.map Transaction.id).Nodup)
    (split : r.pending = earlier ++ t :: later)
    (apart : ∀ u ∈ earlier, ∀ object ∈ u.touched, object ∉ t.touched) :
    (r.accept t.id).2 = some t.touched ∧ (∀ key, (r.accept t.id).1.text? key = r.text? key) ∧
      (r.accept t.id).1.view = r.view := by
  have others : ∀ u ∈ earlier, u.id ≠ t.id := by
    rw [split, List.map_append, List.nodup_append] at distinct
    intro u mem
    exact distinct.2.2 u.id (List.mem_map_of_mem mem) t.id List.mem_cons_self
  have accepted := accept_of_split split others
  have unseen : ∀ key, (r.accept t.id).1.text? key = r.text? key := by
    intro key
    rw [text?_eq r, split, Transaction.verdict?_append, Transaction.verdict?_cons, accepted,
      text?_eq, Transaction.verdict?_append, Store.text?_process]
    by_cases mem : key.object ∈ t.touched
    · -- nothing that lies above the transaction now says anything about this object
      have silent : verdict? earlier key = none :=
        Transaction.verdict?_of_not_mem fun u hu touched => apart u hu _ touched mem
      rw [silent]
      cases verdict? later key <;> cases verdict? [t] key <;> rfl
    · rw [Transaction.verdict?_singleton mem]
      cases verdict? later key <;> rfl
  have name : (r.accept t.id).1.id = r.id := by
    rw [accepted]
    exact Store.id_process _ _
  exact ⟨congrArg Prod.snd accepted, unseen, view_congr name (unseen _)⟩

/-- A document is emptied and gets a title. -/
def renewal : Transaction :=
  ⟨.numbered 9 2, [.delete ⟨"plan"⟩, .update ⟨⟨"plan"⟩, .title⟩ (.text "a")]⟩

/-- The renewal waits between the creation of another object and another change of the title. -/
def crowded : Replica where
  committed := .ofSnapshot ⟨"plan"⟩ ⟨none, [], []⟩
  pending :=
    [⟨.numbered 9 1, [.create ⟨"shape"⟩ .document]⟩, renewal,
      ⟨.numbered 9 3, [.update ⟨⟨"plan"⟩, .title⟩ (.text "b")]⟩]

theorem accept_unseen_in_the_middle :
    (crowded.pending.map Transaction.id).Nodup ∧
      crowded.pending = crowded.pending.take 1 ++ renewal :: crowded.pending.drop 2 ∧
      (∀ u ∈ crowded.pending.take 1, ∀ object ∈ u.touched, object ∉ renewal.touched) ∧
      crowded.view = ⟨⟨"plan"⟩, "b"⟩ ∧ (crowded.accept renewal.id).2 = some renewal.touched ∧
      (crowded.accept renewal.id).1.view = ⟨⟨"plan"⟩, "b"⟩ := by
  have distinct : (crowded.pending.map Transaction.id).Nodup := by decide
  have split : crowded.pending = crowded.pending.take 1 ++ renewal :: crowded.pending.drop 2 := rfl
  have apart : ∀ u ∈ crowded.pending.take 1, ∀ object ∈ u.touched, object ∉ renewal.touched := by
    intro u mem object touched
    obtain rfl := List.mem_singleton.mp mem
    rw [Transaction.touched, Std.ExtTreeSet.mem_ofList] at touched ⊢
    obtain rfl : object = ⟨"shape"⟩ := by simpa [Mutation.object] using touched
    decide
  have seen : crowded.view = ⟨⟨"plan"⟩, "b"⟩ := by decide +kernel
  obtain ⟨accepted, -, unseen⟩ := accept_unseen distinct split apart
  exact ⟨distinct, split, apart, seen, accepted, unseen.trans seen⟩

/-- The newest of two changes to a title is seen no more if it is accepted first. -/
example : (crowded.accept (.numbered 9 3)).1.view = ⟨⟨"plan"⟩, "a"⟩ := by decide +kernel

end Replica

end Whiteboard
