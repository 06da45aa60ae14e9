import Whiteboard.Proofs.Document.Replay

/-!
# The places of a store

A store holds strings and numbers as properties, and it holds objects. Each property of either sort
and each object is a place of its own, where something is held or nothing is. A change has a verdict
on some places, and the last change with a verdict on a place decides what is held there, whatever
came before. A store is no more than its name and what it holds at its places.

## Main definitions

- `Place`, `Place.owner` — the places of a store, and whose they are
- `Place.Value`, `Store.held` — what a store holds there
- `Mutation.verdictAt?`, `lastVerdict?` — what one change, and what several, say about a place
- `LastWritten` — the value that is written to a place last
-/

namespace Whiteboard

/-- Where a store may hold something. -/
inductive Place
  /-- A string property. -/
  | text (key : PropKey)
  /-- A numeric property. -/
  | number (key : PropKey)
  /-- An object. -/
  | object (id : ObjectId)

/-- The object that a place belongs to. -/
def Place.owner : Place → ObjectId
  | .text key | .number key => key.object
  | .object id => id

/-- What may be held at a place. -/
def Place.Value : Place → Type
  | .text _ => String
  | .number _ => Single
  | .object _ => ObjectKind

/-- What a store holds at a place. -/
def Store.held (s : Store) : (place : Place) → Option place.Value
  | .text key => s.texts[key]?
  | .number key => s.numbers[key]?
  | .object id => s.objects[id]?

/-- What a change alone says about a place: what is held there now, that nothing is, or nothing. -/
def Mutation.verdictAt? : (place : Place) → Mutation → Option (Option place.Value)
  | .text key, m => m.verdict? key
  | .number key, .update k (.number x) => if k = key then some (some x) else none
  | .number key, .delete gone => if gone = key.object then some none else none
  | .number _, .create _ _ | .number _, .update _ (.text _) => none
  | .object id, .create made kind => if made = id then some (some kind) else none
  | .object id, .delete gone => if gone = id then some none else none
  | .object _, .update _ _ => none

/-- The last verdict of several changes on a place. -/
def lastVerdict? (place : Place) (ms : List Mutation) : Option (Option place.Value) :=
  ms.reverse.findSome? (Mutation.verdictAt? place)

/-- The value is written to the place, and nothing is written there or removed from there later. -/
def LastWritten (place : Place) (v : place.Value) (ms : List Mutation) : Prop :=
  ∃ earlier m later, ms = earlier ++ m :: later ∧ m.verdictAt? place = some (some v) ∧
    ∀ other ∈ later, other.verdictAt? place = none

variable {place : Place}

theorem lastVerdict?_append (place : Place) (ms others : List Mutation) :
    lastVerdict? place (ms ++ others) =
      (lastVerdict? place others).or (lastVerdict? place ms) := by
  rw [lastVerdict?, List.reverse_append, List.findSome?_append]
  rfl

theorem lastVerdict?_eq_none_iff {ms : List Mutation} :
    lastVerdict? place ms = none ↔ ∀ m ∈ ms, m.verdictAt? place = none := by
  simp [lastVerdict?]

theorem lastVerdict?_eq_some_iff {ms : List Mutation} {verdict : Option place.Value} :
    lastVerdict? place ms = some verdict ↔
      ∃ earlier m later, ms = earlier ++ m :: later ∧ m.verdictAt? place = some verdict ∧
        ∀ other ∈ later, other.verdictAt? place = none := by
  rw [lastVerdict?, List.findSome?_eq_some_iff]
  constructor
  · rintro ⟨later, m, earlier, split, decides, silent⟩
    refine ⟨earlier.reverse, m, later.reverse, ?_, decides, by simpa using silent⟩
    rw [List.reverse_eq_iff.mp split]
    simp
  · rintro ⟨earlier, m, later, rfl, decides, silent⟩
    exact ⟨later.reverse, m, earlier.reverse, by simp, decides, by simpa using silent⟩

/-- A change has verdicts on places of its own object only. -/
theorem Mutation.verdictAt?_of_ne {m : Mutation} (ne : m.object ≠ place.owner) :
    m.verdictAt? place = none := by
  have key_ne : ∀ {k key : PropKey}, k.object ≠ key.object → k ≠ key :=
    fun apart same => apart (congrArg PropKey.object same)
  cases place with
  | text key =>
    cases m with
    | create made kind => rfl
    | delete gone => exact if_neg ne
    | update k value =>
      cases value with
      | number x => rfl
      | text v => exact if_neg (key_ne ne)
  | number key =>
    cases m with
    | create made kind => rfl
    | delete gone => exact if_neg ne
    | update k value =>
      cases value with
      | number x => exact if_neg (key_ne ne)
      | text v => rfl
  | object id =>
    cases m with
    | update k value => rfl
    | create made kind => exact if_neg ne
    | delete gone => exact if_neg ne

namespace Transaction

variable {tx : Transaction}

theorem mem_touched {object : ObjectId} :
    object ∈ tx.touched ↔ ∃ m ∈ tx.items, m.object = object := by
  rw [touched, Std.ExtTreeSet.mem_ofList, List.contains_iff_mem, List.mem_map]

/-- A transaction has no verdict on the places of objects that it does not touch. -/
theorem lastVerdict?_of_not_touched (place : Place) (h : place.owner ∉ tx.touched) :
    lastVerdict? place tx.items = none := by
  rw [lastVerdict?_eq_none_iff]
  exact fun m mem => Mutation.verdictAt?_of_ne fun same => h (mem_touched.mpr ⟨m, mem, same⟩)

end Transaction

namespace Store

theorem ite_eq_getD {β : Type} (c : Prop) [Decidable c] (verdict before : Option β) :
    (if c then verdict else before) = (if c then some verdict else none).getD before := by
  split <;> rfl

theorem held_number_update (s : Store) (k key : PropKey) (x : Single) :
    (s.mutate (.update k (.number x))).held (.number key) =
      if k = key then some x else s.held (.number key) := by
  show (s.numbers.insert k x)[key]? = _
  rw [Std.ExtTreeMap.getElem?_insert]
  simp only [Std.compare_eq_iff_eq]
  rfl

theorem held_number_delete (s : Store) (gone : ObjectId) (key : PropKey) :
    (s.mutate (.delete gone)).held (.number key) =
      if gone = key.object then none else s.held (.number key) := by
  show (s.numbers.filter fun k _ => k.object ≠ gone)[key]? = _
  rw [Std.ExtTreeMap.getElem?_filter']
  show s.numbers[key]?.filter _ = if _ then none else s.numbers[key]?
  by_cases h : gone = key.object
  · subst h
    cases s.numbers[key]? <;> simp
  · have ne : key.object ≠ gone := Ne.symm h
    cases s.numbers[key]? <;> simp [h, ne]

theorem held_object_create (s : Store) (made id : ObjectId) (kind : ObjectKind) :
    (s.mutate (.create made kind)).held (.object id) =
      if made = id then some kind else s.held (.object id) := by
  show (s.objects.insert made kind)[id]? = _
  rw [Std.ExtTreeMap.getElem?_insert]
  simp only [Std.compare_eq_iff_eq]
  rfl

theorem held_object_delete (s : Store) (gone id : ObjectId) :
    (s.mutate (.delete gone)).held (.object id) =
      if gone = id then none else s.held (.object id) := by
  show (s.objects.erase gone)[id]? = _
  rw [Std.ExtTreeMap.getElem?_erase]
  simp only [Std.compare_eq_iff_eq]
  rfl

/-- A change sets a place to its verdict, and leaves alone the places on which it has none. -/
theorem held_mutate (s : Store) (m : Mutation) (place : Place) :
    (s.mutate m).held place = (m.verdictAt? place).getD (s.held place) := by
  cases place with
  | text key => exact s.text?_mutate m key
  | number key =>
    cases m with
    | create made kind => rfl
    | update k value =>
      cases value with
      | text v => rfl
      | number x => exact (s.held_number_update k key x).trans (ite_eq_getD ..)
    | delete gone => exact (s.held_number_delete gone key).trans (ite_eq_getD ..)
  | object id =>
    cases m with
    | create made kind => exact (s.held_object_create made id kind).trans (ite_eq_getD ..)
    | update k value => cases value <;> rfl
    | delete gone => exact (s.held_object_delete gone id).trans (ite_eq_getD ..)

/-- Of several changes the last one with a verdict on a place decides what is held there. -/
theorem held_foldl_mutate (ms : List Mutation) (s : Store) (place : Place) :
    (ms.foldl mutate s).held place = (lastVerdict? place ms).getD (s.held place) :=
  read_foldl (held · place) (Mutation.verdictAt? place) (fun s m => s.held_mutate m place) ms s

theorem held_foldl_process (txs : List Transaction) (s : Store) (place : Place) :
    (txs.foldl process s).held place =
      (lastVerdict? place (txs.flatMap Transaction.items)).getD (s.held place) := by
  rw [foldl_process, held_foldl_mutate]

/-- A transaction leaves alone the places of objects that it does not touch. -/
theorem held_process (s : Store) {tx : Transaction} (place : Place)
    (h : place.owner ∉ tx.touched) : (s.process tx).held place = s.held place := by
  rw [process, held_foldl_mutate, Transaction.lastVerdict?_of_not_touched place h, Option.getD_none]

theorem hasObject_eq (s : Store) (object : ObjectId) :
    s.hasObject object = (s.held (.object object)).isSome :=
  Std.ExtTreeMap.contains_eq_isSome_getElem?

@[simp] theorem id_foldl_process (txs : List Transaction) (s : Store) :
    (txs.foldl process s).id = s.id := by
  induction txs generalizing s with
  | nil => rfl
  | cons tx rest ih => rw [List.foldl_cons, ih, id_process]

/-- Stores of one name that hold the same are the same. -/
theorem ext_held {s s' : Store} (name : s.id = s'.id)
    (same : ∀ place, s.held place = s'.held place) :
    s = s' := by
  obtain ⟨id, objects, texts, numbers⟩ := s
  obtain ⟨id', objects', texts', numbers'⟩ := s'
  have objectsSame : objects = objects' := Std.ExtTreeMap.ext_getElem? fun o => same (.object o)
  have textsSame : texts = texts' := Std.ExtTreeMap.ext_getElem? fun key => same (.text key)
  have numbersSame : numbers = numbers' := Std.ExtTreeMap.ext_getElem? fun key => same (.number key)
  rw [objectsSame, textsSame, numbersSame, show id = id' from name]

end Store

end Whiteboard
