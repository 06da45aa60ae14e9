import Whiteboard.Proofs.Sync.Registry
import Whiteboard.Proofs.Sync.Sequence

/-!
# Passes over changing listeners

A listener that is called may add and remove listeners of the kind that is being called, itself
included. A pass goes through those that were registered when it began, and asks again for each of
them when its turn comes. As no number is given out twice, a listener that is gone by then was
removed during the pass, and whoever was added during the pass is not met by it.
-/

namespace Whiteboard

open Std (ExtTreeMap)
open Whiteboard.Action

variable {W P L M : Type}

/-- A listener is called. -/
structure Visit (L M : Type) where
  /-- Its number. -/
  id : ListenerId
  /-- The listener. -/
  listener : L
  /-- The client when it is called. -/
  client : Client Participant L M

namespace Visit

/-- The listener with its number. -/
def entry (v : Visit L M) : ListenerId × L := (v.id, v.listener)

/-- What is recorded of the call. -/
def scene (notice : Notice) (v : Visit L M) : Scene L M := ⟨.call v.listener notice, v.client⟩

/-- What the listener changes, if listeners do such edits. -/
def made (edits : L → Client Participant L M → List (WatchEdit P L)) (v : Visit L M) :
    List (WatchEdit P L) := edits v.listener v.client

end Visit

/-- The calls for an object, when its turn comes. -/
structure Pass (L M : Type) where
  /-- The object. -/
  object : ObjectId
  /-- The calls, in order. -/
  visits : List (Visit L M)

namespace Pass

/-- What is recorded of the calls. -/
def scenes (pass : Pass L M) : List (Scene L M) :=
  pass.visits.map (Visit.scene (.object pass.object))

/-- What the listeners change, in order. -/
def made (edits : ObjectId → L → Client Participant L M → List (WatchEdit ObjectId L))
    (pass : Pass L M) : List (WatchEdit ObjectId L) :=
  pass.visits.flatMap (Visit.made (edits pass.object))

end Pass

variable [DecidableEq P]

/-- The listeners return, and what they do to the registry is to add and remove listeners. Which
ones may depend on everything, and they may do anything else to the client. -/
def Reaction.Edits (react : Reaction Participant L M) (reg : Registry W P L)
    (hub : Client Participant L M → W) (notice : Notice)
    (edits : L → Client Participant L M → List (WatchEdit P L)) : Prop :=
  ∀ listener c, ∃ c', react listener notice c = .ok () c' ∧
    hub c' = (edits listener c).foldl reg.edit (hub c)

theorem Reaction.Edits.hub_eq {react : Reaction Participant L M} {reg : Registry W P L}
    {hub : Client Participant L M → W} {notice : Notice}
    {edits : L → Client Participant L M → List (WatchEdit P L)}
    (does : react.Edits reg hub notice edits) {listener : L} {c c' : Client Participant L M}
    (called : react listener notice c = .ok () c') :
    hub c' = (edits listener c).foldl reg.edit (hub c) := by
  obtain ⟨d, returned, edited⟩ := does listener c
  cases returned.symm.trans called
  exact edited

/-- Nobody who is called before removes the listener with this number from the place. -/
def Spared (edits : L → Client Participant L M → List (WatchEdit P L)) (place : P)
    (visits : List (Visit L M)) (id : ListenerId) : Prop :=
  ∀ v ∈ visits, v.id < id → ∀ e ∈ v.made edits, e.removes place id = false

theorem spared_cons {edits : L → Client Participant L M → List (WatchEdit P L)} {place : P}
    {v : Visit L M} {visits : List (Visit L M)} {id : ListenerId} :
    Spared edits place (v :: visits) id ↔
      (v.id < id → ∀ e ∈ v.made edits, e.removes place id = false) ∧
        Spared edits place visits id :=
  List.forall_mem_cons

/-- The calls of a pass over the listeners at a place that are left by earlier edits. -/
structure Registry.Orderly (reg : Registry W P L) (hub : Client Participant L M → W)
    (earlier : List (WatchEdit P L)) (place : P)
    (edits : L → Client Participant L M → List (WatchEdit P L)) (visits : List (Visit L M)) :
    Prop where
  /-- Whoever is called finds the registry as those before have left it. -/
  found : ∀ before v rest, visits = before ++ v :: rest →
    hub v.client = reg.after (earlier ++ before.flatMap (Visit.made edits))
  /-- Listeners are called in the order of their numbers, and none is called twice. -/
  increasing : (visits.map Visit.id).Pairwise (· < ·)
  /-- Exactly those are called that were registered and are not removed before. -/
  called : ∀ id listener, (id, listener) ∈ visits.map Visit.entry ↔
    (reg.listeners (reg.after earlier) place)[id]? = some listener ∧ Spared edits place visits id
  /-- Nobody is called who was added during the pass. -/
  present : ∀ v ∈ visits, v.id < reg.nextId (reg.after earlier)
  /-- Everybody is called who was added earlier, and not removed since. -/
  arrived : ∀ before listener since, earlier = before ++ .add place listener :: since →
    let id := reg.nextId (reg.after before)
    (∀ e ∈ since, e.removes place id = false) → Spared edits place visits id →
      (id, listener) ∈ visits.map Visit.entry

/-- Who is called, and with what. -/
def Deed.call? : Deed L → Option (L × Notice)
  | .call listener notice => some (listener, notice)
  | _ => none

namespace Client

/-! ### A pass over listeners of either kind -/

/-- Calls those of the given listeners that are registered when their turn comes. Counts the
calls. -/
def walk (registered : Client Participant L M → ListenerId → Bool)
    (call : L → Action Participant L M Unit) :
    List (ListenerId × L) → Action Participant L M Nat
  | [] => return 0
  | (id, listener) :: rest => do
    if registered (← get) id then
      call listener
      return (← walk registered call rest) + 1
    else walk registered call rest

theorem callObjectListeners_eq_walk (react : Reaction Participant L M) (object : ObjectId)
    (entries : List (ListenerId × L)) :
    callObjectListeners react object entries =
      walk (·.objectWatchers.isRegistered object) (react · (.object object)) entries := by
  induction entries with
  | nil => rfl
  | cons entry rest ih => rw [callObjectListeners, walk, ih]

theorem callRosterListeners_eq_walk (react : Reaction Participant L M) (roster : Roster)
    (entries : List (ListenerId × L)) :
    callRosterListeners react roster entries = (do
      let _ ← walk (·.rosterWatchers.isRegistered) (react · (.roster roster)) entries
      return) := by
  induction entries with
  | nil => rfl
  | cons entry rest ih =>
    rw [callRosterListeners, walk, ih]
    simp only [bind_assoc]
    refine bind_congr fun c => ?_
    split
    · simp only [bind_assoc, pure_bind]
    · rfl

/-- A pass over these listeners, begun at one client and ended at another, and the calls it
makes. -/
inductive Walks (registered : Client Participant L M → ListenerId → Bool)
    (call : L → Action Participant L M Unit) :
    List (ListenerId × L) → Client Participant L M → List (Visit L M) →
      Client Participant L M → Prop
  /-- Nobody is left. -/
  | done (c : Client Participant L M) : Walks registered call [] c [] c
  /-- The next listener is registered, and called. -/
  | calls {c c₁ c' : Client Participant L M} {id : ListenerId} {listener : L}
      {rest : List (ListenerId × L)} {visits : List (Visit L M)} (here : registered c id)
      (called : call listener c = .ok () c₁) (later : Walks registered call rest c₁ visits c') :
      Walks registered call ((id, listener) :: rest) c (⟨id, listener, c⟩ :: visits) c'
  /-- The next listener is not registered any more. -/
  | skips {c c' : Client Participant L M} {id : ListenerId} {listener : L}
      {rest : List (ListenerId × L)} {visits : List (Visit L M)} (gone : ¬registered c id)
      (later : Walks registered call rest c visits c') :
      Walks registered call ((id, listener) :: rest) c visits c'

variable {registered : Client Participant L M → ListenerId → Bool}
variable {call : L → Action Participant L M Unit} {entries : List (ListenerId × L)}
variable {c c' : Client Participant L M} {visits : List (Visit L M)}

theorem exists_walks (returns : ∀ listener c, ∃ c', call listener c = .ok () c')
    (entries : List (ListenerId × L)) (c : Client Participant L M) :
    ∃ visits c', Walks registered call entries c visits c' := by
  induction entries generalizing c with
  | nil => exact ⟨[], c, .done c⟩
  | cons entry rest ih =>
    by_cases here : registered c entry.1
    · obtain ⟨c₁, called⟩ := returns entry.2 c
      obtain ⟨visits, c', later⟩ := ih c₁
      exact ⟨_, c', .calls here called later⟩
    · obtain ⟨visits, c', later⟩ := ih c
      exact ⟨visits, c', .skips here later⟩

theorem walk_cons_of_registered {id : ListenerId} (here : registered c id) (listener : L)
    (rest : List (ListenerId × L)) :
    walk registered call ((id, listener) :: rest) c = (do
      call listener
      return (← walk registered call rest) + 1) c := by
  rw [walk, get_bind, if_pos here]

theorem walk_cons_of_gone {id : ListenerId} (gone : ¬registered c id) (listener : L)
    (rest : List (ListenerId × L)) :
    walk registered call ((id, listener) :: rest) c = walk registered call rest c := by
  rw [walk, get_bind, if_neg gone]

namespace Walks

theorem walk_eq (h : Walks registered call entries c visits c') :
    walk registered call entries c = .ok visits.length c' := by
  induction h with
  | done c => rfl
  | calls here called _ ih =>
    rw [walk_cons_of_registered here, bind_of_ok called, bind_of_ok ih]
    rfl
  | skips gone _ ih => rw [walk_cons_of_gone gone, ih]

theorem sublist (h : Walks registered call entries c visits c') :
    (visits.map Visit.entry).Sublist entries := by
  induction h with
  | done c => exact List.nil_sublist _
  | calls _ _ _ ih => exact ih.cons_cons _
  | skips _ _ ih => exact ih.cons _

theorem lt_id {id : ListenerId} (h : Walks registered call entries c visits c')
    (below : ∀ n ∈ entries.map Prod.fst, id < n) : ∀ v ∈ visits, id < v.id := by
  intro v mem
  have entered : v.entry ∈ entries := h.sublist.subset (List.mem_map_of_mem mem)
  exact below _ (List.mem_map_of_mem entered)

variable {react : Reaction Participant L M} {notice : Notice}

/-- The record of a pass has its calls, if whether a listener is registered does not depend on the
record. -/
theorem records (h : Walks registered (react · notice) entries c visits c')
    (registered' : Client Participant L (List (Scene L M) × M) → ListenerId → Bool)
    (unseen : ∀ (c : Client Participant L M) before id,
      registered' (c.recorded before) id = registered c id) :
    Records (walk registered' (react.recorded · notice) entries)
      (walk registered (react · notice) entries) c (visits.map (Visit.scene notice)) := by
  induction h with
  | done c => exact .of_silent fun _ => rfl
  | @calls c c₁ c' id listener rest visits here called later ih =>
    have counted : Records (do return (← walk registered' (react.recorded · notice) rest) + 1)
        (do return (← walk registered (react · notice) rest) + 1) c₁
        (visits.map (Visit.scene notice) ++ []) :=
      ih.bind_ok later.walk_eq (.of_silent fun _ => rfl)
    rw [List.append_nil] at counted
    have all : Records (do
          react.recorded listener notice
          return (← walk registered' (react.recorded · notice) rest) + 1)
        (do react listener notice; return (← walk registered (react · notice) rest) + 1) c
        (⟨.call listener notice, c⟩ :: visits.map (Visit.scene notice)) :=
      (records_recording _ _ c).bind_ok called counted
    refine all.congr (fun before => ?_) (walk_cons_of_registered here listener rest)
    exact walk_cons_of_registered ((unseen c before id).trans here) listener rest
  | @skips c c' id listener rest visits gone later ih =>
    refine ih.congr (fun before => ?_) (walk_cons_of_gone gone listener rest)
    exact walk_cons_of_gone (by rwa [unseen]) listener rest

variable {reg : Registry W P L} {hub : Client Participant L M → W} {place : P}
variable {edits : L → Client Participant L M → List (WatchEdit P L)}

/-- The registry gets the edits of those who are called, one after the other. -/
theorem hub_eq (does : react.Edits reg hub notice edits)
    (h : Walks registered (react · notice) entries c visits c') :
    hub c' = (visits.flatMap (Visit.made edits)).foldl reg.edit (hub c) := by
  induction h with
  | done c => rfl
  | skips _ _ ih => exact ih
  | @calls c c₁ c' id listener rest visits _ called _ ih =>
    rw [ih, does.hub_eq called, List.flatMap_cons, List.foldl_append]
    rfl

theorem client_eq (does : react.Edits reg hub notice edits)
    (h : Walks registered (react · notice) entries c visits c') (before : List (Visit L M))
    (v : Visit L M) (rest : List (Visit L M)) (split : visits = before ++ v :: rest) :
    hub v.client = (before.flatMap (Visit.made edits)).foldl reg.edit (hub c) := by
  induction h generalizing before with
  | done c => exact absurd split.symm (List.append_ne_nil_of_right_ne_nil _ (List.cons_ne_nil _ _))
  | skips _ _ ih => exact ih before split
  | calls _ called _ ih =>
    cases before with
    | nil =>
      obtain ⟨rfl, -⟩ := List.cons.inj split
      rfl
    | cons first before =>
      obtain ⟨rfl, tails⟩ := List.cons.inj split
      rw [ih before tails, does.hub_eq called, List.flatMap_cons, List.foldl_append]
      rfl

/-- Whoever is registered when the turn comes was registered before, and has been spared. -/
theorem mem_iff (does : react.Edits reg hub notice edits)
    (asks : ∀ c id, registered c id = (reg.listeners (hub c) place).contains id)
    (h : Walks registered (react · notice) entries c visits c')
    (sorted : (entries.map Prod.fst).Pairwise (· < ·))
    (given : ∀ entry ∈ entries, entry.1 < reg.nextId (hub c)) :
    ∀ entry ∈ entries, entry ∈ visits.map Visit.entry ↔
      (reg.listeners (hub c) place).contains entry.1 ∧ Spared edits place visits entry.1 := by
  induction h with
  | done c => exact fun _ mem => nomatch mem
  | @calls c c₁ c' id listener rest visits here called later ih =>
    obtain ⟨below, sorted⟩ := List.pairwise_cons.mp sorted
    have edited := does.hub_eq called
    intro entry mem
    cases mem with
    | head =>
      -- The numbers grow, so nobody is called before this one who could remove it.
      have first : Spared edits place (⟨id, listener, c⟩ :: visits) id := by
        intro v mem before
        cases mem with
        | head => exact absurd before (Nat.lt_irrefl _)
        | tail _ mem => exact absurd before (Nat.lt_asymm (later.lt_id below v mem))
      rw [asks] at here
      exact iff_of_true List.mem_cons_self ⟨here, first⟩
    | tail _ mem =>
      -- The later one is met as the edits of the first one have left it, which was called ahead.
      have old := given entry (List.mem_cons_of_mem _ mem)
      have ahead : id < entry.1 := below _ (List.mem_map_of_mem mem)
      have other : entry ≠ (⟨id, listener, c⟩ : Visit L M).entry :=
        fun same => Nat.ne_of_gt ahead (congrArg Prod.fst same)
      have given' : ∀ entry ∈ rest, entry.1 < reg.nextId (hub c₁) := by
        intro entry mem
        rw [edited]
        have old := given entry (List.mem_cons_of_mem _ mem)
        exact Nat.lt_of_lt_of_le old (reg.nextId_le_foldl _ _)
      have rest_iff := ih sorted given' entry mem
      rw [edited, reg.contains_foldl old, and_assoc] at rest_iff
      rw [List.map_cons, List.mem_cons, or_iff_right other, rest_iff, spared_cons,
        imp_iff_right ahead]
      rfl
  | @skips c c' id listener rest visits gone later ih =>
    obtain ⟨below, sorted⟩ := List.pairwise_cons.mp sorted
    intro entry mem
    cases mem with
    | head =>
      -- Whoever has a call has a greater number.
      refine iff_of_false (fun mem => ?_) fun h => gone ((asks c id).trans h.1)
      obtain ⟨v, mem, same⟩ := List.mem_map.mp mem
      exact Nat.ne_of_gt (later.lt_id below v mem) (congrArg Prod.fst same)
    | tail _ mem =>
      exact ih sorted (fun entry mem => given entry (List.mem_cons_of_mem _ mem)) entry mem

/-- A pass over all listeners at a place goes through those that are left by the earlier edits. -/
theorem orderly (does : react.Edits reg hub notice edits)
    (asks : ∀ c id, registered c id = (reg.listeners (hub c) place).contains id)
    {earlier : List (WatchEdit P L)} (start : hub c = reg.after earlier)
    (h : Walks registered (react · notice) (reg.listeners (hub c) place).toList c visits c') :
    reg.Orderly hub earlier place edits visits := by
  have found := h.client_eq does
  -- the pass goes through what was there when it began
  rw [start] at h
  have there : ∀ {id listener}, (id, listener) ∈ (reg.listeners (reg.after earlier) place).toList ↔
      (reg.listeners (reg.after earlier) place)[id]? = some listener :=
    ExtTreeMap.mem_toList_iff_getElem?_eq_some
  have sorted :
      ((reg.listeners (reg.after earlier) place).toList.map Prod.fst).Pairwise (· < ·) := by
    rw [List.pairwise_map]
    exact ExtTreeMap.ordered_keys_toList.imp Nat.compare_eq_lt.mp
  have given : ∀ entry ∈ (reg.listeners (reg.after earlier) place).toList,
      entry.1 < reg.nextId (reg.after earlier) :=
    fun entry mem => reg.bounded_after earlier place entry.1 entry.2 (there.mp mem)
  have met := h.mem_iff does asks sorted (by rwa [start])
  have called : ∀ id listener, (id, listener) ∈ visits.map Visit.entry ↔
      (reg.listeners (reg.after earlier) place)[id]? = some listener ∧
        Spared edits place visits id := by
    intro id listener
    constructor
    · intro mem
      have entered := h.sublist.subset mem
      exact ⟨there.mp entered, ((met _ entered).mp mem).2⟩
    · rintro ⟨found, spared⟩
      refine (met _ (there.mpr found)).mpr ⟨?_, spared⟩
      rw [start, ExtTreeMap.contains_eq_isSome_getElem?, found]
      rfl
  refine ⟨?_, ?_, called, ?_, ?_⟩
  · intro before v rest split
    rw [found before v rest split, start, reg.after_append]
  · have some_sorted := sorted.sublist (h.sublist.map Prod.fst)
    rwa [List.map_map] at some_sorted
  · intro v mem
    exact given v.entry (h.sublist.subset (List.mem_map_of_mem mem))
  · rintro before listener since rfl id stays spared
    exact (called _ _).mpr ⟨reg.getElem?_after_add before place listener stays, spared⟩

end Walks

/-- A pass over all listeners at a place. -/
theorem walk_orderly {react : Reaction Participant L M} {notice : Notice} {reg : Registry W P L}
    {hub : Client Participant L M → W} {place : P}
    {edits : L → Client Participant L M → List (WatchEdit P L)}
    (does : react.Edits reg hub notice edits)
    (asks : ∀ c id, registered c id = (reg.listeners (hub c) place).contains id)
    (registered' : Client Participant L (List (Scene L M) × M) → ListenerId → Bool)
    (unseen : ∀ (c : Client Participant L M) before id,
      registered' (c.recorded before) id = registered c id)
    {earlier : List (WatchEdit P L)} (start : hub c = reg.after earlier) :
    let entries := (reg.listeners (hub c) place).toList
    ∃ visits c', walk registered (react · notice) entries c = .ok visits.length c' ∧
      Records (walk registered' (react.recorded · notice) entries)
        (walk registered (react · notice) entries) c (visits.map (Visit.scene notice)) ∧
      hub c' = reg.after (earlier ++ visits.flatMap (Visit.made edits)) ∧
      reg.Orderly hub earlier place edits visits := by
  intro entries
  obtain ⟨visits, c', h⟩ := exists_walks
    (fun listener c => (does listener c).imp fun _ => And.left) entries c
  refine ⟨visits, c', h.walk_eq, h.records registered' unseen, ?_, h.orderly does asks start⟩
  rw [h.hub_eq does, start, reg.after_append]

/-! ### The passes for objects, and the pass for a roster -/

section Objects

variable {react : Reaction Participant L M}
variable {edits : ObjectId → L → Client Participant L M → List (WatchEdit ObjectId L)}
variable {earlier : List (WatchEdit ObjectId L)}

/-- The pass for one object. -/
theorem callObjectListeners_orderly {object : ObjectId}
    (does : react.Edits (ObjectWatchers.registry L) objectWatchers (.object object) (edits object))
    (start : c.objectWatchers = (ObjectWatchers.registry L).after earlier) :
    ∃ pass : Pass L M, ∃ c', pass.object = object ∧
      callObjectListeners react object (c.objectWatchers.of object).toList c =
        .ok pass.visits.length c' ∧
      Records (callObjectListeners react.recorded object (c.objectWatchers.of object).toList)
        (callObjectListeners react object (c.objectWatchers.of object).toList) c pass.scenes ∧
      c'.objectWatchers = (ObjectWatchers.registry L).after (earlier ++ pass.made edits) ∧
      (ObjectWatchers.registry L).Orderly objectWatchers earlier object (edits object)
        pass.visits := by
  obtain ⟨visits, c', ends, records, left, orderly⟩ :=
    walk_orderly does (fun _ _ => rfl) (·.objectWatchers.isRegistered object)
      (fun _ _ _ => rfl) start
  refine ⟨⟨object, visits⟩, c', rfl, ?_, ?_, left, orderly⟩
  · rw [callObjectListeners_eq_walk]
    exact ends
  · rw [callObjectListeners_eq_walk, callObjectListeners_eq_walk]
    exact records

theorem notifyObjects_orderly
    (does : ∀ object, react.Edits (ObjectWatchers.registry L) objectWatchers (.object object)
      (edits object))
    (start : c.objectWatchers = (ObjectWatchers.registry L).after earlier)
    (objects : List ObjectId) :
    ∃ passes : List (Pass L M), ∃ c', passes.map Pass.object = objects ∧
      notifyObjects react objects c = .ok (passes.flatMap Pass.visits).length c' ∧
      Records (notifyObjects react.recorded objects) (notifyObjects react objects) c
        (passes.flatMap Pass.scenes) ∧
      c'.objectWatchers =
        (ObjectWatchers.registry L).after (earlier ++ passes.flatMap (Pass.made edits)) ∧
      ∀ before pass rest, passes = before ++ pass :: rest →
        (ObjectWatchers.registry L).Orderly objectWatchers
          (earlier ++ before.flatMap (Pass.made edits)) pass.object (edits pass.object)
          pass.visits := by
  induction objects generalizing c earlier with
  | nil =>
    refine ⟨[], c, rfl, rfl, .of_silent fun _ => rfl, ?_, ?_⟩
    · rw [List.flatMap_nil, List.append_nil, start]
    · intro before pass rest split
      exact absurd split.symm (List.append_ne_nil_of_right_ne_nil _ (List.cons_ne_nil _ _))
  | cons object rest ih =>
    obtain ⟨first, c₁, rfl, called, records, left, orderly⟩ :=
      callObjectListeners_orderly (does object) start
    obtain ⟨passes, c', objects, notified, recordsAll, leftAll, orderlyAll⟩ := ih left
    refine ⟨first :: passes, c', ?_, ?_, ?_, ?_, ?_⟩
    · rw [List.map_cons, objects]
    · rw [notifyObjects, get_bind, bind_of_ok called, bind_of_ok notified, List.flatMap_cons,
        List.length_append]
      rfl
    · have counted : Records (do return first.visits.length + (← notifyObjects react.recorded rest))
          (do return first.visits.length + (← notifyObjects react rest)) c₁
          (passes.flatMap Pass.scenes ++ []) :=
        recordsAll.bind_ok notified (.of_silent fun _ => rfl)
      rw [List.append_nil] at counted
      exact (records.bind_ok called counted).congr (fun _ => rfl) rfl
    · rw [leftAll, List.flatMap_cons, List.append_assoc]
    · intro before pass after split
      -- what comes before a later pass includes the edits of the first one
      cases before with
      | nil =>
        obtain ⟨rfl, rfl⟩ := List.cons.inj split
        rw [List.flatMap_nil, List.append_nil]
        exact orderly
      | cons head before =>
        obtain ⟨rfl, rfl⟩ := List.cons.inj split
        rw [List.flatMap_cons, ← List.append_assoc]
        exact orderlyAll before pass after rfl

end Objects

/-- The pass for a roster. -/
theorem notifyRoster_orderly {react : Reaction Participant L M} {roster : Roster}
    {edits : L → Client Participant L M → List (WatchEdit Unit L)}
    {earlier : List (WatchEdit Unit L)}
    (does : react.Edits (RosterWatchers.registry L) rosterWatchers (.roster roster) edits)
    (start : c.rosterWatchers = (RosterWatchers.registry L).after earlier) :
    ∃ visits : List (Visit L M), ∃ c', notifyRoster react roster c = .ok () c' ∧
      Records (notifyRoster react.recorded roster) (notifyRoster react roster) c
        (visits.map (Visit.scene (.roster roster))) ∧
      c'.rosterWatchers =
        (RosterWatchers.registry L).after (earlier ++ visits.flatMap (Visit.made edits)) ∧
      (RosterWatchers.registry L).Orderly rosterWatchers earlier () edits visits := by
  let noted : Client Participant L M := { c with log := c.log ++ [.roster roster] }
  have asks : ∀ (c : Client Participant L M) id, c.rosterWatchers.isRegistered id =
      ((RosterWatchers.registry L).listeners c.rosterWatchers ()).contains id := fun _ _ => rfl
  obtain ⟨visits, c', ends, records, left, orderly⟩ :=
    walk_orderly (c := noted) does asks (·.rosterWatchers.isRegistered) (fun _ _ _ => rfl) start
  have passed : callRosterListeners react roster noted.rosterWatchers.listeners.toList noted =
      .ok () c' := by
    rw [callRosterListeners_eq_walk]
    exact bind_of_ok ends _
  have called : Records
      (callRosterListeners react.recorded roster noted.rosterWatchers.listeners.toList)
      (callRosterListeners react roster noted.rosterWatchers.listeners.toList) noted
      (visits.map (Visit.scene (.roster roster)) ++ []) := by
    rw [callRosterListeners_eq_walk, callRosterListeners_eq_walk]
    exact records.bind_ok ends (.of_silent fun _ => rfl)
  rw [List.append_nil] at called
  exact ⟨visits, c', passed, called.congr (fun _ => rfl) rfl, left, orderly⟩

/-- Listeners that are called may add and remove listeners of the same kind, and do what they like
otherwise, as long as they return. Then so does every notification, and whom it calls is fixed by
the edits alone, those made before and those made meanwhile.

* The objects have their turns in the given order, also if an object is given twice. The pass for
  an object calls in the order of their numbers, with this object, those that were left when the
  turn began and are not removed before their own. The number of calls is returned.
* The pass for a roster does the same with all listeners for the roster. -/
theorem listeners_called_in_turn (react : Reaction Participant L M) (c : Client Participant L M) :
    (∀ edits earlier,
      (∀ object, react.Edits (ObjectWatchers.registry L) objectWatchers (.object object)
        (edits object)) →
      c.objectWatchers = (ObjectWatchers.registry L).after earlier → ∀ objects,
      ∃ passes : List (Pass L M), ∃ c', passes.map Pass.object = objects ∧
        notifyObjects react objects c = .ok (passes.flatMap Pass.visits).length c' ∧
        Records (notifyObjects react.recorded objects) (notifyObjects react objects) c
          (passes.flatMap Pass.scenes) ∧
        c'.objectWatchers =
          (ObjectWatchers.registry L).after (earlier ++ passes.flatMap (Pass.made edits)) ∧
        ∀ before pass rest, passes = before ++ pass :: rest →
          (ObjectWatchers.registry L).Orderly objectWatchers
            (earlier ++ before.flatMap (Pass.made edits)) pass.object (edits pass.object)
            pass.visits) ∧
    ∀ roster edits earlier,
      react.Edits (RosterWatchers.registry L) rosterWatchers (.roster roster) edits →
      c.rosterWatchers = (RosterWatchers.registry L).after earlier →
      ∃ visits : List (Visit L M), ∃ c', notifyRoster react roster c = .ok () c' ∧
        Records (notifyRoster react.recorded roster) (notifyRoster react roster) c
          (visits.map (Visit.scene (.roster roster))) ∧
        c'.rosterWatchers =
          (RosterWatchers.registry L).after (earlier ++ visits.flatMap (Visit.made edits)) ∧
        (RosterWatchers.registry L).Orderly rosterWatchers earlier () edits visits :=
  ⟨fun _ _ does start objects => notifyObjects_orderly does start objects,
    fun _ _ _ does start => notifyRoster_orderly does start⟩

/-! ### Listeners by plan -/

/-- Listeners that add and remove others by a plan. -/
def planned (objects : ObjectId → L → List (WatchEdit ObjectId L))
    (rosters : L → List (WatchEdit Unit L)) : Reaction Participant L M := fun listener notice =>
  match notice with
  | .object object =>
    onObjectWatchers fun w => ((objects object listener).foldl ObjectWatchers.edit w, ())
  | .roster _ => onRosterWatchers fun w => ((rosters listener).foldl RosterWatchers.edit w, ())

/-- The first listener removes the next one and itself, and adds one to its own place and one to
another. -/
def upheaval {P : Type} (own other : P) : String → List (WatchEdit P String)
  | "a" => [.remove own 1, .remove own 0, .add own "d", .add other "e"]
  | _ => []

/-- Three listeners at one place. -/
def gathering {P : Type} (place : P) : List (WatchEdit P String) :=
  ["a", "b", "c"].map (.add place)

/-- A client with three listeners for a document, and three for the roster. -/
def gathered : Client Participant String Unit :=
  { newcomer with
    objectWatchers := (ObjectWatchers.registry String).after (gathering ⟨"plan"⟩)
    rosterWatchers := (RosterWatchers.registry String).after (gathering ()) }

/-- The document is given twice, and a shape between. The one who was removed is not called, those
who are added are called when their turn comes, and the first one only once. -/
theorem listeners_called_in_turn_gathered :
    let react : Reaction Participant String Unit :=
      planned (fun _ => upheaval ⟨"plan"⟩ ⟨"shape"⟩) (upheaval () ())
    let plan : Notice := .object ⟨"plan"⟩
    ∃ passes : List (Pass String Unit), ∃ c',
      notifyObjects react [⟨"plan"⟩, ⟨"shape"⟩, ⟨"plan"⟩] gathered = .ok 5 c' ∧
      (passes.flatMap Pass.scenes).filterMap (·.deed.call?) =
        [("a", plan), ("c", plan), ("e", .object ⟨"shape"⟩), ("c", plan), ("d", plan)] ∧
      ∃ visits : List (Visit String Unit), ∃ c',
        notifyRoster react ⟨[3]⟩ gathered = .ok () c' ∧
        (visits.map (Visit.scene (.roster ⟨[3]⟩))).filterMap (·.deed.call?) =
          [("a", .roster ⟨[3]⟩), ("c", .roster ⟨[3]⟩)] := by
  intro react plan
  obtain ⟨objects, rosters⟩ := listeners_called_in_turn react gathered
  obtain ⟨passes, c₁, -, notified, records, -, -⟩ :=
    objects (fun _ listener _ => upheaval ⟨"plan"⟩ ⟨"shape"⟩ listener) (gathering ⟨"plan"⟩)
      (fun object listener c => ⟨_, rfl, rfl⟩) rfl [⟨"plan"⟩, ⟨"shape"⟩, ⟨"plan"⟩]
  obtain ⟨visits, c₂, told, shown, -, -⟩ :=
    rosters ⟨[3]⟩ (fun listener _ => upheaval () () listener) (gathering ())
      (fun listener c => ⟨_, rfl, rfl⟩) rfl
  have five : (match notifyObjects react [⟨"plan"⟩, ⟨"shape"⟩, ⟨"plan"⟩] gathered with
      | .ok calls _ => some calls
      | .error .. => none) = some 5 := by
    decide +kernel
  rw [notified] at five
  refine ⟨passes, c₁, ?_, ?_, visits, c₂, told, ?_⟩
  · rw [notified, Option.some.inj five]
  · rw [← records.memory_after]
    decide +kernel
  · rw [← shown.memory_after]
    decide +kernel

end Client

end Whiteboard
