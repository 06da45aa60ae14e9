import Whiteboard.Sync.Watchers

/-!
# Registries of listeners

The two kinds of listeners are kept alike. A listener is registered at some place, an object or the
roster, and gets the next number. It can be removed at this place by its number. As no number is
given out twice, a listener that was removed does not come back.
-/

namespace Whiteboard

open Std (ExtTreeMap)

variable {W P L : Type}

/-- A change to the listeners at places of some type. -/
inductive WatchEdit (P L : Type)
  /-- A listener is added, and gets the next number. -/
  | add (place : P) (listener : L)
  /-- The listener with a number is removed, if it is registered at that place. -/
  | remove (place : P) (id : ListenerId)

/-- Whether a change removes the listener that has this number at this place. -/
def WatchEdit.removes [DecidableEq P] (place : P) (id : ListenerId) : WatchEdit P L → Bool
  | .add .. => false
  | .remove there other => there = place ∧ other = id

/-! ### Both kinds of listeners -/

namespace ObjectWatchers

/-- Adds or removes a listener. -/
def edit (w : ObjectWatchers L) : WatchEdit ObjectId L → ObjectWatchers L
  | .add object listener => (w.add object listener).1
  | .remove object id => (w.remove object id).1

theorem of_add (w : ObjectWatchers L) (object : ObjectId) (listener : L) (other : ObjectId) :
    (w.add object listener).1.of other =
      if object = other then (w.of other).insert w.nextId listener else w.of other := by
  simp only [add, of, ExtTreeMap.getElem?_insert, Std.compare_eq_iff_eq]
  by_cases same : object = other
  · rw [if_pos same, if_pos same, same, Option.getD_some]
  · rw [if_neg same, if_neg same]

theorem of_remove (w : ObjectWatchers L) (object : ObjectId) (id : ListenerId)
    (other : ObjectId) :
    (w.remove object id).1.of other =
      if object = other then (w.of other).erase id else w.of other := by
  rw [remove]
  cases found : w.listeners[object]? with
  | none =>
    by_cases same : object = other
    · rw [if_pos same, ← same, of, found]
      exact ExtTreeMap.erase_empty.symm
    · rw [if_neg same]
  | some set =>
    -- An object without listeners is not kept, but this is not seen from outside.
    by_cases gone : (set.erase id).isEmpty
    · simp only [of, gone, if_true, ExtTreeMap.getElem?_erase, Std.compare_eq_iff_eq]
      by_cases same : object = other
      · rw [if_pos same, if_pos same, ← same, found]
        exact (ExtTreeMap.isEmpty_iff.mp gone).symm
      · rw [if_neg same, if_neg same]
    · simp only [of, if_neg gone, ExtTreeMap.getElem?_insert, Std.compare_eq_iff_eq]
      by_cases same : object = other
      · rw [if_pos same, if_pos same, ← same, found]
        rfl
      · rw [if_neg same, if_neg same]

theorem nextId_remove (w : ObjectWatchers L) (object : ObjectId) (id : ListenerId) :
    (w.remove object id).1.nextId = w.nextId := by
  rw [remove]
  cases w.listeners[object]? <;> rfl

end ObjectWatchers

namespace RosterWatchers

/-- Adds or removes a listener. -/
def edit (w : RosterWatchers L) : WatchEdit Unit L → RosterWatchers L
  | .add _ listener => (w.add listener).1
  | .remove _ id => (w.remove id).1

end RosterWatchers

/-! ### Registries -/

/-- What both kinds of listeners have in common. -/
structure Registry (W P L : Type) [DecidableEq P] where
  /-- No listeners. -/
  empty : W
  /-- Adds or removes a listener. -/
  edit : W → WatchEdit P L → W
  /-- The listeners at a place. -/
  listeners : W → P → ListenerMap L
  /-- The number of the next listener. -/
  nextId : W → ListenerId
  listeners_empty (place : P) : listeners empty place = ∅
  listeners_add (w : W) (place : P) (listener : L) (other : P) :
    listeners (edit w (.add place listener)) other =
      if place = other then (listeners w other).insert (nextId w) listener else listeners w other
  listeners_remove (w : W) (place : P) (id : ListenerId) (other : P) :
    listeners (edit w (.remove place id)) other =
      if place = other then (listeners w other).erase id else listeners w other
  nextId_add (w : W) (place : P) (listener : L) :
    nextId (edit w (.add place listener)) = nextId w + 1
  nextId_remove (w : W) (place : P) (id : ListenerId) :
    nextId (edit w (.remove place id)) = nextId w

/-- The listeners for objects, at these objects. -/
def ObjectWatchers.registry (L : Type) : Registry (ObjectWatchers L) ObjectId L where
  empty := .empty
  edit := .edit
  listeners := ObjectWatchers.of
  nextId := ObjectWatchers.nextId
  listeners_empty _ := by
    rw [ObjectWatchers.of, ObjectWatchers.empty, ExtTreeMap.getElem?_empty, Option.getD_none]
  listeners_add := of_add
  listeners_remove := of_remove
  nextId_add _ _ _ := rfl
  nextId_remove := nextId_remove

/-- The listeners for the roster, which are all at one place. -/
def RosterWatchers.registry (L : Type) : Registry (RosterWatchers L) Unit L where
  empty := .empty
  edit := .edit
  listeners w _ := w.listeners
  nextId := RosterWatchers.nextId
  listeners_empty _ := rfl
  listeners_add _ _ _ _ := (if_pos rfl).symm
  listeners_remove _ _ _ _ := (if_pos rfl).symm
  nextId_add _ _ _ := rfl
  nextId_remove _ _ _ := rfl

namespace Registry

variable [DecidableEq P] (reg : Registry W P L)

/-- The listeners that are left by these edits, in order. -/
def after (edits : List (WatchEdit P L)) : W := edits.foldl reg.edit reg.empty

/-- Every listener has a number that was given out. -/
def Bounded (w : W) : Prop :=
  ∀ place id listener, (reg.listeners w place)[id]? = some listener → id < reg.nextId w

theorem after_append (before edits : List (WatchEdit P L)) :
    reg.after (before ++ edits) = edits.foldl reg.edit (reg.after before) :=
  List.foldl_append

theorem nextId_le_edit (w : W) (e : WatchEdit P L) : reg.nextId w ≤ reg.nextId (reg.edit w e) := by
  cases e with
  | add place listener =>
    rw [reg.nextId_add]
    exact Nat.le_succ _
  | remove place id => exact Nat.le_of_eq (reg.nextId_remove w place id).symm

theorem nextId_le_foldl (w : W) (edits : List (WatchEdit P L)) :
    reg.nextId w ≤ reg.nextId (edits.foldl reg.edit w) := by
  induction edits generalizing w with
  | nil => exact Nat.le_refl _
  | cons e rest ih => exact Nat.le_trans (reg.nextId_le_edit w e) (ih _)

/-- Whoever has a number that was given out before is the one who had it, and was not removed. -/
theorem getElem?_edit_eq_some_iff {w : W} {id : ListenerId} (old : id < reg.nextId w)
    (e : WatchEdit P L) (place : P) (listener : L) :
    (reg.listeners (reg.edit w e) place)[id]? = some listener ↔
      (reg.listeners w place)[id]? = some listener ∧ e.removes place id = false := by
  cases e with
  | add there newcomer =>
    -- The newcomer has a number that was not given out before.
    have ne : ¬compare (reg.nextId w) id = .eq := mt Std.compare_eq_iff_eq.mp (Nat.ne_of_gt old)
    rw [reg.listeners_add, WatchEdit.removes, and_iff_left rfl]
    split
    · rw [ExtTreeMap.getElem?_insert, if_neg ne]
    · rfl
  | remove there other =>
    rw [reg.listeners_remove, WatchEdit.removes, decide_eq_false_iff_not]
    by_cases here : there = place
    · rw [if_pos here, ExtTreeMap.getElem?_erase, Option.ite_none_left_eq_some,
        Std.compare_eq_iff_eq, and_iff_right here, and_comm]
    · rw [if_neg here, and_iff_left fun h => here h.1]

theorem getElem?_foldl_eq_some_iff {w : W} {id : ListenerId} (old : id < reg.nextId w)
    (edits : List (WatchEdit P L)) (place : P) (listener : L) :
    (reg.listeners (edits.foldl reg.edit w) place)[id]? = some listener ↔
      (reg.listeners w place)[id]? = some listener ∧
        ∀ e ∈ edits, e.removes place id = false := by
  induction edits generalizing w with
  | nil => exact ⟨fun h => ⟨h, fun _ mem => nomatch mem⟩, And.left⟩
  | cons e rest ih =>
    rw [List.foldl_cons, ih (Nat.lt_of_lt_of_le old (reg.nextId_le_edit w e)),
      reg.getElem?_edit_eq_some_iff old, and_assoc, List.forall_mem_cons]

theorem contains_foldl {w : W} {id : ListenerId} (old : id < reg.nextId w)
    (edits : List (WatchEdit P L)) (place : P) :
    (reg.listeners (edits.foldl reg.edit w) place).contains id ↔
      (reg.listeners w place).contains id ∧ ∀ e ∈ edits, e.removes place id = false := by
  simp only [ExtTreeMap.contains_eq_isSome_getElem?, Option.isSome_iff_exists,
    reg.getElem?_foldl_eq_some_iff old, exists_and_right]

variable {reg} in
/-- A newcomer gets the next number, and nobody else gets one. -/
theorem Bounded.edit {w : W} (h : reg.Bounded w) (e : WatchEdit P L) :
    reg.Bounded (reg.edit w e) := by
  intro place id listener found
  cases e with
  | add there newcomer =>
    rw [reg.nextId_add, Nat.lt_succ_iff_lt_or_eq]
    rw [reg.listeners_add] at found
    by_cases new : reg.nextId w = id
    · exact .inr new.symm
    · left
      split at found
      · rw [ExtTreeMap.getElem?_insert, if_neg (mt Std.compare_eq_iff_eq.mp new)] at found
        exact h place id listener found
      · exact h place id listener found
  | remove there other =>
    rw [reg.nextId_remove]
    rw [reg.listeners_remove] at found
    split at found
    · rw [ExtTreeMap.getElem?_erase, Option.ite_none_left_eq_some] at found
      exact h place id listener found.2
    · exact h place id listener found

variable {reg} in
theorem Bounded.foldl {w : W} (h : reg.Bounded w) (edits : List (WatchEdit P L)) :
    reg.Bounded (edits.foldl reg.edit w) := by
  induction edits generalizing w with
  | nil => exact h
  | cons e rest ih => exact ih (h.edit e)

theorem bounded_after (edits : List (WatchEdit P L)) : reg.Bounded (reg.after edits) := by
  refine Bounded.foldl (fun place id listener found => ?_) edits
  rw [reg.listeners_empty, ExtTreeMap.getElem?_empty] at found
  cases found

/-- A listener that was added and not removed since is there, with the number it got. -/
theorem getElem?_after_add (before : List (WatchEdit P L)) (place : P) (listener : L)
    {since : List (WatchEdit P L)}
    (stays : ∀ e ∈ since, e.removes place (reg.nextId (reg.after before)) = false) :
    (reg.listeners (reg.after (before ++ .add place listener :: since))
      place)[reg.nextId (reg.after before)]? = some listener := by
  have old : reg.nextId (reg.after before) <
      reg.nextId (reg.edit (reg.after before) (.add place listener)) := by
    rw [reg.nextId_add]
    exact Nat.lt_succ_self _
  rw [after_append, List.foldl_cons, reg.getElem?_foldl_eq_some_iff old, reg.listeners_add,
    if_pos rfl, ExtTreeMap.getElem?_insert_self]
  exact ⟨rfl, stays⟩

end Registry

end Whiteboard
