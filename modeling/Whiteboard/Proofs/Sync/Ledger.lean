import Mathlib.Data.List.Pairwise
import Whiteboard.Proofs.Sync.Keeping
import Whiteboard.Proofs.Sync.Registry

/-!
# The ledger of the listeners

Whoever uses the listeners for objects adds and removes some and has them notified. A listener that
is called may do the same, and so may those who are called meanwhile. All of this is written down
in a ledger, in the order in which it happens. The ledger alone tells who is registered: whoever was
added and not removed since. It also tells how many listeners an object has, and what the answer to
the next removal will be.
-/

namespace Whiteboard

open Std (ExtTreeMap)

variable {L : Type}

/-- What happens to the listeners for objects. -/
inductive LedgerEntry (L : Type)
  /-- A listener was added for an object, and got a number. -/
  | added (object : ObjectId) (listener : L) (id : ListenerId)
  /-- A listener of an object was to be removed, and was found there or not. -/
  | removed (object : ObjectId) (id : ListenerId) (found : Bool)
  /-- A listener was told of an object. -/
  | called (listener : L) (object : ObjectId)
  deriving DecidableEq

namespace LedgerEntry

/-- The number that was given out. -/
def number? : LedgerEntry L → Option ListenerId
  | .added _ _ id => some id
  | .removed _ _ _ | .called _ _ => none

/-- Whether a listener was added for an object. -/
def adds (object : ObjectId) : LedgerEntry L → Bool
  | .added other _ _ => other = object
  | .removed _ _ _ | .called _ _ => false

/-- Whether a listener of an object was removed. -/
def removes (object : ObjectId) : LedgerEntry L → Bool
  | .removed other _ found => found && other = object
  | .added _ _ _ | .called _ _ => false

end LedgerEntry

/-- A listener was added for an object under a number, and not removed since. -/
def Present (ledger : List (LedgerEntry L)) (object : ObjectId) (listener : L) (id : ListenerId) :
    Prop :=
  ∃ before since, ledger = before ++ .added object listener id :: since ∧
    .removed object id true ∉ since

/-! ### Entries at the end -/

/-- An entry is the last one, or stands before it. -/
theorem concat_eq_append_cons {α : Type} {l before since : List α} {a e : α} :
    l ++ [e] = before ++ a :: since ↔
      (before = l ∧ a = e ∧ since = []) ∨
        ∃ since', since = since' ++ [e] ∧ l = before ++ a :: since' := by
  constructor
  · intro split
    rcases List.eq_nil_or_concat since with rfl | ⟨since', last, rfl⟩
    · obtain ⟨same, ends⟩ := List.append_inj' split rfl
      exact .inl ⟨same.symm, (List.cons.inj ends).1.symm, rfl⟩
    · rw [List.concat_eq_append, ← List.cons_append, ← List.append_assoc] at split
      obtain ⟨same, ends⟩ := List.append_inj' split rfl
      rw [List.concat_eq_append, (List.cons.inj ends).1]
      exact .inr ⟨since', rfl, same⟩
  · rintro (⟨rfl, rfl, rfl⟩ | ⟨since', rfl, rfl⟩)
    · rfl
    · rw [List.append_assoc, List.cons_append]

section Present

variable {ledger : List (LedgerEntry L)} {object : ObjectId} {listener : L} {id : ListenerId}

theorem Present.mem (h : Present ledger object listener id) :
    .added object listener id ∈ ledger := by
  obtain ⟨before, since, rfl, -⟩ := h
  exact List.mem_append_right before List.mem_cons_self

/-- Whoever is added last is there, and whoever was there before is unless the last entry is its
removal. -/
theorem present_concat {e : LedgerEntry L} :
    Present (ledger ++ [e]) object listener id ↔
      e = .added object listener id ∨
        Present ledger object listener id ∧ e ≠ .removed object id true := by
  constructor
  · rintro ⟨before, since, split, stays⟩
    rcases concat_eq_append_cons.mp split with ⟨-, same, -⟩ | ⟨since', rfl, earlier⟩
    · exact .inl same.symm
    · rw [List.mem_append, List.mem_singleton, not_or] at stays
      exact .inr ⟨⟨before, since', earlier, stays.1⟩, Ne.symm stays.2⟩
  · rintro (rfl | ⟨⟨before, since, rfl, stays⟩, other⟩)
    · exact ⟨ledger, [], rfl, List.not_mem_nil⟩
    · refine ⟨before, since ++ [e], by simp, ?_⟩
      rw [List.mem_append, List.mem_singleton, not_or]
      exact ⟨stays, Ne.symm other⟩

end Present

namespace ObjectWatchers

/-- No object is kept that has no listeners. -/
def NoneEmpty (w : ObjectWatchers L) : Prop :=
  ∀ (object : ObjectId) (set : ListenerMap L), w.listeners[object]? = some set → set.isEmpty = false

/-! ### One removal -/

section Removal

variable (w : ObjectWatchers L) (object : ObjectId) (id : ListenerId)

theorem remove_answer : (w.remove object id).2 = (w.of object).contains id := by
  rw [remove, of]
  cases w.listeners[object]? with
  | none => exact ExtTreeMap.contains_empty.symm
  | some set => rfl

/-- All other listeners stay. -/
theorem getElem?_remove (other : ObjectId) (number : ListenerId) :
    ((w.remove object id).1.of other)[number]? =
      if object = other ∧ id = number then none else (w.of other)[number]? := by
  rw [of_remove]
  by_cases same : object = other
  · rw [if_pos same, ExtTreeMap.getElem?_erase]
    simp only [same, true_and, Std.compare_eq_iff_eq]
  · rw [if_neg same, if_neg fun h => same h.1]

/-- The object has one listener less, if it was there. -/
theorem count_remove (other : ObjectId) :
    (w.remove object id).1.count other +
      (if (w.of object).contains id && object = other then 1 else 0) = w.count other := by
  rw [count, of_remove, count]
  by_cases same : object = other
  · subst same
    rw [if_pos rfl, ExtTreeMap.size_erase, decide_eq_true rfl, Bool.and_true]
    cases found : (w.of object).contains id with
    | false => rfl
    | true =>
      have some_there : (w.of object).size ≠ 0 :=
        mt ExtTreeMap.eq_empty_iff_size_eq_zero.mpr (ExtTreeMap.ne_empty_of_mem found)
      rw [if_pos rfl, if_pos rfl, Nat.sub_add_cancel (Nat.one_le_iff_ne_zero.mpr some_there)]
  · rw [if_neg same, decide_eq_false same, Bool.and_false]
    rfl

variable {w object id}

/-- Who is not registered there is not removed, and nothing changes. -/
theorem remove_of_not_contains (kept : w.NoneEmpty) (absent : (w.of object).contains id = false) :
    w.remove object id = (w, false) := by
  refine Prod.ext ?_ ((w.remove_answer object id).trans absent)
  rw [remove]
  cases found : w.listeners[object]? with
  | none => rfl
  | some set =>
    have here : w.of object = set := by rw [of, found, Option.getD_some]
    rw [here] at absent
    have same : set.erase id = set := by
      refine ExtTreeMap.ext_getElem? fun number => ?_
      rw [ExtTreeMap.getElem?_erase]
      split
      · rename_i h
        rw [← Std.compare_eq_iff_eq.mp h]
        exact (ExtTreeMap.getElem?_eq_none_of_contains_eq_false absent).symm
      · rfl
    have unchanged : w.listeners.insert object set = w.listeners := by
      refine ExtTreeMap.ext_getElem? fun other => ?_
      rw [ExtTreeMap.getElem?_insert]
      split
      · rename_i h
        rw [← Std.compare_eq_iff_eq.mp h, found]
      · rfl
    dsimp only
    rw [same, kept object set found, if_neg Bool.false_ne_true, unchanged]

theorem noneEmpty_empty : (empty : ObjectWatchers L).NoneEmpty := by
  intro object set found
  rw [empty, ExtTreeMap.getElem?_empty] at found
  cases found

theorem NoneEmpty.add (kept : w.NoneEmpty) (object : ObjectId) (listener : L) :
    (w.add object listener).1.NoneEmpty := by
  intro other set found
  rw [ObjectWatchers.add, ExtTreeMap.getElem?_insert] at found
  split at found
  · cases found
    exact ExtTreeMap.isEmpty_eq_false_iff.mpr ExtTreeMap.insert_ne_empty
  · exact kept other set found

/-- An object that loses its last listener is given up. -/
theorem NoneEmpty.remove (kept : w.NoneEmpty) (object : ObjectId) (id : ListenerId) :
    (w.remove object id).1.NoneEmpty := by
  intro other set found
  rw [ObjectWatchers.remove] at found
  cases there : w.listeners[object]? with
  | none =>
    rw [there] at found
    exact kept other set found
  | some before =>
    rw [there] at found
    dsimp only at found
    split at found
    · rw [ExtTreeMap.getElem?_erase, Option.ite_none_left_eq_some] at found
      exact kept other set found.2
    · rename_i left
      rw [ExtTreeMap.getElem?_insert] at found
      split at found
      · cases found
        exact Bool.eq_false_iff.mpr left
      · exact kept other set found

end Removal

/-! ### The ledger and the listeners -/

/-- The listeners are as the ledger says. -/
structure Accounted (w : ObjectWatchers L) (ledger : List (LedgerEntry L)) : Prop where
  /-- The numbers were given out one after the other. -/
  numbered : ledger.filterMap LedgerEntry.number? = List.range w.nextId
  /-- Who was added and not removed is registered. -/
  present : ∀ object id listener,
    (w.of object)[id]? = some listener ↔ Present ledger object listener id
  kept : w.NoneEmpty
  /-- Those who are left are those who were added less those who were removed. -/
  counted : ∀ object, ledger.countP (·.adds object) =
    w.count object + ledger.countP (·.removes object)
  /-- The answer to each removal was right. -/
  answered : ∀ before object id found since, ledger = before ++ .removed object id found :: since →
    (found = true ↔ ∃ listener, Present before object listener id)

namespace Accounted

variable {w : ObjectWatchers L} {ledger : List (LedgerEntry L)}

theorem contains_iff (h : w.Accounted ledger) (object : ObjectId) (id : ListenerId) :
    (w.of object).contains id = true ↔ ∃ listener, Present ledger object listener id := by
  rw [ExtTreeMap.contains_eq_isSome_getElem?, Option.isSome_iff_exists]
  exact exists_congr fun listener => h.present object id listener

theorem lt_nextId (h : w.Accounted ledger) {object : ObjectId} {listener : L} {id : ListenerId}
    (added : .added object listener id ∈ ledger) : id < w.nextId := by
  rw [← List.mem_range, ← h.numbered]
  exact List.mem_filterMap.mpr ⟨_, added, rfl⟩

/-- The next number was not given to anyone. -/
theorem next_absent (h : w.Accounted ledger) (object : ObjectId) :
    (w.of object)[w.nextId]? = none := by
  rw [Option.eq_none_iff_forall_ne_some]
  intro listener found
  exact Nat.lt_irrefl _ (h.lt_nextId ((h.present object w.nextId listener).mp found).mem)

/-- The answers stay right if the answer in the last entry is. -/
theorem answered_concat (h : w.Accounted ledger) {e : LedgerEntry L}
    (right : ∀ object id found, e = .removed object id found →
      (found = true ↔ ∃ listener, Present ledger object listener id))
    (before : List (LedgerEntry L)) (object : ObjectId) (id : ListenerId) (found : Bool)
    (since : List (LedgerEntry L))
    (split : ledger ++ [e] = before ++ .removed object id found :: since) :
    found = true ↔ ∃ listener, Present before object listener id := by
  rcases concat_eq_append_cons.mp split with ⟨rfl, same, -⟩ | ⟨since', rfl, earlier⟩
  · exact right object id found same.symm
  · exact h.answered before object id found since' earlier

theorem empty : (ObjectWatchers.empty : ObjectWatchers L).Accounted [] where
  numbered := rfl
  present object id listener := by
    refine iff_of_false ?_ ?_
    · rw [of, ObjectWatchers.empty, ExtTreeMap.getElem?_empty, Option.getD_none,
        ExtTreeMap.getElem?_empty]
      exact nofun
    · exact fun h => nomatch h.mem
  kept := noneEmpty_empty
  counted object := by
    rw [count, of, ObjectWatchers.empty, ExtTreeMap.getElem?_empty, Option.getD_none,
      ExtTreeMap.size_empty]
    rfl
  answered before object id found since split :=
    absurd split.symm (List.append_ne_nil_of_right_ne_nil _ (List.cons_ne_nil _ _))

/-- A call changes nothing. -/
theorem call (h : w.Accounted ledger) (listener : L) (object : ObjectId) :
    w.Accounted (ledger ++ [.called listener object]) where
  numbered := by
    rw [List.filterMap_append, h.numbered]
    exact List.append_nil _
  present other id one := by
    rw [h.present, present_concat, or_iff_right nofun, and_iff_left nofun]
  kept := h.kept
  counted other := by
    rw [List.countP_append, List.countP_append, h.counted other]
    rfl
  answered := h.answered_concat nofun

/-- A listener is added under the next number. -/
theorem add (h : w.Accounted ledger) (object : ObjectId) (listener : L) :
    (w.add object listener).1.Accounted (ledger ++ [.added object listener w.nextId]) where
  numbered := by
    rw [List.filterMap_append, h.numbered]
    exact List.range_succ.symm
  present other id one := by
    rw [present_concat, and_iff_left nofun, ← h.present, of_add, LedgerEntry.added.injEq]
    by_cases same : object = other
    · rw [if_pos same, ExtTreeMap.getElem?_insert]
      simp only [Std.compare_eq_iff_eq]
      by_cases new : w.nextId = id
      · rw [if_pos new, ← new, h.next_absent other, Option.some.injEq]
        simp [same]
      · rw [if_neg new, or_iff_right fun added => new added.2.2]
    · rw [if_neg same, or_iff_right fun added => same added.1]
  kept := h.kept.add object listener
  counted other := by
    have grown : (w.add object listener).1.count other =
        w.count other + if object = other then 1 else 0 := by
      rw [count, of_add, count]
      split
      · have absent : (w.of other).contains w.nextId = false := by
          rw [ExtTreeMap.contains_eq_isSome_getElem?, h.next_absent other]
          rfl
        rw [ExtTreeMap.size_insert, absent, if_neg Bool.false_ne_true]
      · rfl
    rw [List.countP_append, List.countP_append, h.counted other, grown]
    simp only [List.countP_singleton, LedgerEntry.adds, LedgerEntry.removes, decide_eq_true_eq,
      Bool.false_eq_true, if_false]
    omega
  answered := h.answered_concat nofun

/-- A listener is removed, if it is there. -/
theorem remove (h : w.Accounted ledger) (object : ObjectId) (id : ListenerId) :
    (w.remove object id).1.Accounted
      (ledger ++ [.removed object id (w.remove object id).2]) where
  numbered := by
    rw [List.filterMap_append, h.numbered, nextId_remove]
    exact List.append_nil _
  present other number one := by
    rw [present_concat, or_iff_right nofun, getElem?_remove, Option.ite_none_left_eq_some,
      h.present, and_comm]
    refine and_congr_right fun present => not_congr ?_
    -- Whoever is present is found, so that the entry says so.
    rw [LedgerEntry.removed.injEq, remove_answer, h.contains_iff]
    constructor
    · rintro ⟨rfl, rfl⟩
      exact ⟨rfl, rfl, one, present⟩
    · exact fun ⟨here, this, _⟩ => ⟨here, this⟩
  kept := h.kept.remove object id
  counted other := by
    rw [List.countP_append, List.countP_append, h.counted other,
      ← w.count_remove object id other]
    simp only [List.countP_singleton, LedgerEntry.adds, LedgerEntry.removes, remove_answer,
      Bool.false_eq_true, if_false]
    omega
  answered := by
    refine h.answered_concat ?_
    rintro _ _ _ ⟨⟩
    rw [remove_answer, h.contains_iff]

end Accounted

end ObjectWatchers

/-! ### Using the listeners -/

/-- What someone does with the listeners for objects. -/
inductive Usage (L : Type)
  /-- Nothing more. -/
  | done
  /-- It fails. -/
  | fail (fault : Fault)
  /-- It adds a listener, and goes on with the number. -/
  | add (object : ObjectId) (listener : L) (next : ListenerId → Usage L)
  /-- It removes a listener, and goes on with the answer. -/
  | remove (object : ObjectId) (id : ListenerId) (next : Bool → Usage L)
  /-- It has the listeners of some objects told, and goes on with the number of calls. Listeners
  called meanwhile do as `others` says, in view of what happened until then. -/
  | notify (objects : List ObjectId)
      (others : L → ObjectId → List (LedgerEntry L) → Usage L)
      (next : Nat → List (LedgerEntry L) → Usage L)

/-- A client for which a ledger of its listeners is kept. -/
abbrev Audited (L : Type) := Client Participant L (List (LedgerEntry L))

/-- Makes an entry in the ledger. -/
def Client.enter (e : LedgerEntry L) : Action Participant L (List (LedgerEntry L)) Unit :=
  modify fun c => { c with memory := c.memory ++ [e] }

/-- Someone uses the listeners. -/
def Usage.act : Usage L → Action Participant L (List (LedgerEntry L)) Unit
  | .done => return
  | .fail fault => throw fault
  | .add object listener next => do
    let id ← Client.onObjectWatchers (·.add object listener)
    Client.enter (.added object listener id)
    (next id).act
  | .remove object id next => do
    let found ← Client.onObjectWatchers (·.remove object id)
    Client.enter (.removed object id found)
    (next found).act
  | .notify objects others next => do
    let calls ← Client.notifyObjects (fun listener notice => do
      match notice with
      | .object object =>
        Client.enter (.called listener object)
        (others listener object (← get).memory).act
      | .roster _ => return) objects
    (next calls (← get).memory).act

/-- Listeners that use the listeners when they are called, each call being entered first. -/
def Usage.reaction (others : L → ObjectId → List (LedgerEntry L) → Usage L) :
    Reaction Participant L (List (LedgerEntry L)) := fun listener notice => do
  match notice with
  | .object object =>
    Client.enter (.called listener object)
    (others listener object (← get).memory).act
  | .roster _ => return

theorem Usage.act_notify (objects : List ObjectId)
    (others : L → ObjectId → List (LedgerEntry L) → Usage L)
    (next : Nat → List (LedgerEntry L) → Usage L) :
    (notify objects others next).act = (do
      let calls ← Client.notifyObjects (reaction others) objects
      (next calls (← get).memory).act) := by
  rw [act]
  rfl

open Whiteboard.Action in
/-- The ledger is right in the course of any use, also if it fails. -/
theorem Usage.keeps_accounted (usage : Usage L) :
    Keeps (fun c : Audited L => c.objectWatchers.Accounted c.memory) usage.act := by
  induction usage with
  | done => exact .pure ()
  | fail fault => exact .throw fault
  | add object listener next ih => exact fun c h => ih _ _ (h.add object listener)
  | remove object id next ih => exact fun c h => ih _ _ (h.remove object id)
  | notify objects others next ihOthers ihNext =>
    -- whoever is called uses the listeners in turn
    have called (listener : L) (object : ObjectId) :
        Keeps (fun c : Audited L => c.objectWatchers.Accounted c.memory)
          (reaction others listener (.object object)) :=
      fun c h => ihOthers listener object _ _ (h.call listener object)
    have notified := Client.notifyObjects_mirrors
      (fun listener object => (called listener object).mirrors) objects
    rw [act_notify]
    exact notified.keeps.bind fun calls => .get_bind fun c h => ihNext calls c.memory c h

namespace ObjectWatchers.Accounted

variable {w : ObjectWatchers L} {ledger : List (LedgerEntry L)}

/-- No number is given out twice. -/
theorem nodup_numbers (h : w.Accounted ledger) :
    (ledger.filterMap LedgerEntry.number?).Nodup := by
  rw [h.numbered]
  exact List.nodup_range

/-- As no number is given out twice, no listener is registered for two objects. -/
theorem object_unique (h : w.Accounted ledger) {object other : ObjectId} {listener one : L}
    {id : ListenerId} (added : .added object listener id ∈ ledger)
    (again : .added other one id ∈ ledger) : object = other := by
  have apart := List.pairwise_filterMap.mp h.nodup_numbers
  by_contra ne
  have differ : LedgerEntry.added object listener id ≠ .added other one id :=
    fun same => ne (LedgerEntry.added.inj same).1
  have symmetric : Std.Symm fun e e' : LedgerEntry L =>
      ∀ n, e.number? = some n → ∀ n', e'.number? = some n' → n ≠ n' :=
    ⟨fun _ _ apart n' hn' n hn => Ne.symm (apart n hn n' hn')⟩
  exact apart.forall added again differ id rfl id rfl rfl

end ObjectWatchers.Accounted

/-- The ledger and the listeners. Let someone begin without listeners for objects, and add, remove
and notify some, those who are called doing the same, until they are done or one of them fails. Then

* all numbers given out are different and below the next one,
* whoever was added for an object and not removed since is registered there, and nobody else; no
  number is registered for two objects, and no object is kept that has no listeners;
* another removal finds the listener exactly if it was added for that object and not removed since;
  if so it takes away this one alone, and otherwise it changes nothing; and all removals that were
  made found the listener in just these cases;
* an object has as many listeners as were added for it, less those that were removed from it. -/
theorem Client.listeners_accounted_for (usage : Usage L) (c : Audited L) :
    let after := usage.act.after { c with objectWatchers := .empty, memory := [] }
    let w := after.objectWatchers
    let ledger := after.memory
    ((ledger.filterMap LedgerEntry.number?).Nodup ∧
      ∀ id ∈ ledger.filterMap LedgerEntry.number?, id < w.nextId) ∧
    ((∀ object id listener,
        (w.of object)[id]? = some listener ↔ Present ledger object listener id) ∧
      (∀ object other id, w.isRegistered object id → w.isRegistered other id → object = other) ∧
      w.NoneEmpty) ∧
    ((∀ object id,
        ((w.remove object id).2 = true ↔ ∃ listener, Present ledger object listener id) ∧
        ((w.remove object id).2 = true →
          (w.remove object id).1.nextId = w.nextId ∧ ∀ other number,
            ((w.remove object id).1.of other)[number]? =
              if object = other ∧ id = number then none else (w.of other)[number]?) ∧
        ((w.remove object id).2 = false → (w.remove object id).1 = w)) ∧
      ∀ before object id found since,
        ledger = before ++ .removed object id found :: since →
          (found = true ↔ ∃ listener, Present before object listener id)) ∧
    ∀ object,
      ledger.countP (·.adds object) = w.count object + ledger.countP (·.removes object) := by
  intro after w ledger
  have h : w.Accounted ledger := usage.keeps_accounted _ .empty
  refine ⟨⟨h.nodup_numbers, fun id given => ?_⟩, ⟨h.present, fun object other id here there => ?_,
    h.kept⟩, ⟨fun object id => ⟨?_, fun _ => ?_, fun absent => ?_⟩, h.answered⟩, h.counted⟩
  · rw [h.numbered] at given
    exact List.mem_range.mp given
  · obtain ⟨listener, present⟩ := (h.contains_iff object id).mp here
    obtain ⟨one, presentToo⟩ := (h.contains_iff other id).mp there
    exact h.object_unique present.mem presentToo.mem
  · rw [w.remove_answer, h.contains_iff]
  · exact ⟨w.nextId_remove object id, w.getElem?_remove object id⟩
  · rw [w.remove_answer] at absent
    rw [ObjectWatchers.remove_of_not_contains h.kept absent]

/-- The listeners of the document are told. The first one takes the second one for a listener of the
shape, then removes it from the document, and has the listeners of the shape told, one of which
removes itself. -/
def upheaved : Usage String :=
  .add ⟨"plan"⟩ "a" fun _ => .add ⟨"plan"⟩ "b" fun second => .add ⟨"shape"⟩ "c" fun third =>
    .notify [⟨"plan"⟩]
      (fun listener _ _ =>
        match listener with
        | "a" => .remove ⟨"shape"⟩ second fun _ => .remove ⟨"plan"⟩ second fun _ =>
            .notify [⟨"shape"⟩] (fun _ object _ => .remove object third fun _ => .done)
              fun _ _ => .done
        | _ => .done)
      fun _ _ => .done

example :
    (upheaved.act.after { Client.newcomer with
        objectWatchers := .empty, rosterWatchers := .empty, memory := [] }).memory =
      [.added ⟨"plan"⟩ "a" 0, .added ⟨"plan"⟩ "b" 1, .added ⟨"shape"⟩ "c" 2,
        .called "a" ⟨"plan"⟩, .removed ⟨"shape"⟩ 1 false, .removed ⟨"plan"⟩ 1 true,
        .called "c" ⟨"shape"⟩, .removed ⟨"shape"⟩ 2 true] := by
  decide +kernel

end Whiteboard
