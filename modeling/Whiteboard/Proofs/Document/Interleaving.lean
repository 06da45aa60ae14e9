import Whiteboard.Proofs.Document.Places

/-!
# Edits of different objects

Two sides that edit different objects do not get in each other's way. However their transactions are
mixed, as long as each side's own stay in order, the same store comes out of it: at every place that
belongs to an object of one side, the other side has no verdict, so the first side finds there what
it would find if it were alone.
-/

namespace Whiteboard

/-- The third list holds the members of the first two, those of each list in their order. -/
inductive Interleaved {α : Type} : List α → List α → List α → Prop
  /-- There is nothing to mix. -/
  | nil : Interleaved [] [] []
  /-- The first list has its turn. -/
  | left {a : α} {as bs cs : List α} (h : Interleaved as bs cs) : Interleaved (a :: as) bs (a :: cs)
  /-- The second list has its turn. -/
  | right {b : α} {as bs cs : List α} (h : Interleaved as bs cs) :
      Interleaved as (b :: bs) (b :: cs)

/-- No object is touched by an item of both. -/
def Apart (ours theirs : List Transaction) : Prop :=
  ∀ m ∈ ours.flatMap Transaction.items, ∀ other ∈ theirs.flatMap Transaction.items,
    m.object ≠ other.object

namespace Interleaved

theorem swap {α : Type} {as bs cs : List α} (h : Interleaved as bs cs) : Interleaved bs as cs := by
  induction h with
  | nil => exact .nil
  | left _ ih => exact .right ih
  | right _ ih => exact .left ih

variable {ours theirs mixed : List Transaction} {place : Place}

/-- A side that does not touch the owner of a place does not count there. -/
theorem lastVerdict?_left (h : Interleaved ours theirs mixed)
    (silent : ∀ m ∈ theirs.flatMap Transaction.items, m.object ≠ place.owner) :
    lastVerdict? place (mixed.flatMap Transaction.items) =
      lastVerdict? place (ours.flatMap Transaction.items) := by
  induction h with
  | nil => rfl
  | left _ ih =>
    rw [List.flatMap_cons, List.flatMap_cons, lastVerdict?_append, lastVerdict?_append, ih silent]
  | @right tx ours theirs mixed _ ih =>
    rw [List.flatMap_cons, List.forall_mem_append] at silent
    have none_here : lastVerdict? place tx.items = none :=
      lastVerdict?_eq_none_iff.mpr fun m mem => m.verdictAt?_of_ne (silent.1 m mem)
    rw [List.flatMap_cons, lastVerdict?_append, none_here, Option.or_none, ih silent.2]

end Interleaved

/-- Only one of the sides touches the owner of a place. -/
theorem Apart.silent {ours theirs : List Transaction} (apart : Apart ours theirs) (place : Place) :
    (∀ m ∈ ours.flatMap Transaction.items, m.object ≠ place.owner) ∨
      ∀ m ∈ theirs.flatMap Transaction.items, m.object ≠ place.owner := by
  by_cases touched : ∃ m ∈ ours.flatMap Transaction.items, m.object = place.owner
  · obtain ⟨m, mem, owns⟩ := touched
    exact .inr fun other there same => apart m mem other there (owns.trans same.symm)
  · exact .inl fun m mem owns => touched ⟨m, mem, owns⟩

namespace Store

variable {ours theirs mixed : List Transaction} {place : Place}

theorem held_interleaved_left (s : Store) (h : Interleaved ours theirs mixed)
    (silent : ∀ m ∈ theirs.flatMap Transaction.items, m.object ≠ place.owner) :
    (mixed.foldl process s).held place = (ours.foldl process s).held place := by
  rw [held_foldl_process, h.lastVerdict?_left silent, held_foldl_process]

theorem held_interleaved_right (s : Store) (h : Interleaved ours theirs mixed)
    (silent : ∀ m ∈ ours.flatMap Transaction.items, m.object ≠ place.owner) :
    (mixed.foldl process s).held place = (theirs.foldl process s).held place :=
  s.held_interleaved_left h.swap silent

/-- Edits of different objects commute. If no object is touched by both of two rows of transactions,
then all ways to mix them, in which the transactions of each row keep their order, lead from a store
to one and the same store: the same strings, the same numbers and the same objects. At the places of
an object that one row does not touch, it holds what the other row alone would leave there. -/
theorem different_objects_commute (s : Store) (ours theirs : List Transaction)
    (apart : Apart ours theirs) {mixed : List Transaction} (h : Interleaved ours theirs mixed) :
    (∀ {other}, Interleaved ours theirs other → other.foldl process s = mixed.foldl process s) ∧
    ∀ place : Place,
      ((∀ m ∈ theirs.flatMap Transaction.items, m.object ≠ place.owner) →
        (mixed.foldl process s).held place = (ours.foldl process s).held place) ∧
      ((∀ m ∈ ours.flatMap Transaction.items, m.object ≠ place.owner) →
        (mixed.foldl process s).held place = (theirs.foldl process s).held place) := by
  refine ⟨fun {other} h' => ext_held ?_ fun place => ?_,
    fun place => ⟨s.held_interleaved_left h, s.held_interleaved_right h⟩⟩
  · rw [id_foldl_process, id_foldl_process]
  · -- one of the rows is silent here, and the other one keeps its order in both mixtures
    rcases apart.silent place with silent | silent
    · rw [s.held_interleaved_right h' silent, s.held_interleaved_right h silent]
    · rw [s.held_interleaved_left h' silent, s.held_interleaved_left h silent]

/-- A shape is made, gets a string and a number, and is removed and made once more. -/
def shapeEdits : List Transaction :=
  let key : PropKey := ⟨⟨"shape"⟩, .title⟩
  [⟨.numbered 9 1, [.create ⟨"shape"⟩ .document, .update key (.text "a")]⟩,
    ⟨.numbered 9 2, [.update key (.number ⟨0⟩), .delete ⟨"shape"⟩]⟩,
    ⟨.numbered 9 3, [.create ⟨"shape"⟩ .document, .update key (.text "b")]⟩]

/-- The document gets another title, and is removed. -/
def planEdits : List Transaction :=
  let key : PropKey := ⟨⟨"plan"⟩, .title⟩
  [⟨.numbered 8 1, [.update key (.text "c"), .update key (.number ⟨0⟩)]⟩,
    ⟨.numbered 8 2, [.delete ⟨"plan"⟩, .update key (.text "d")]⟩]

/-- The document is edited between the edits of the shape, and after them. -/
theorem different_objects_commute_by_turns :
    let s := ofSnapshot ⟨"plan"⟩ ⟨some ⟨"plan"⟩, [(⟨⟨"shape"⟩, .title⟩, "z")], []⟩
    let byTurns : List Transaction :=
      shapeEdits.take 1 ++ planEdits.take 1 ++ shapeEdits.drop 1 ++ planEdits.drop 1
    Apart shapeEdits planEdits ∧ Interleaved shapeEdits planEdits byTurns ∧
      (planEdits ++ shapeEdits).foldl process s = byTurns.foldl process s := by
  intro s byTurns
  have apart : Apart shapeEdits planEdits := by
    unfold Apart
    decide
  have mixed : Interleaved shapeEdits planEdits byTurns :=
    .left (.right (.left (.left (.right .nil))))
  have later : Interleaved shapeEdits planEdits (planEdits ++ shapeEdits) :=
    .right (.right (.left (.left (.left .nil))))
  exact ⟨apart, mixed, (different_objects_commute s _ _ apart mixed).1 later⟩

end Store

end Whiteboard
