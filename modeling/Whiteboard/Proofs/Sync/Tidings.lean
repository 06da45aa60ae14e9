import Mathlib.Data.List.Pairwise
import Whiteboard.Proofs.Sync.Chronicle

/-!
# What tidings lead to

As long as numbers are not used twice, a chronicle tells all about awaited replies. Every request
that was sent has a number of its own, which is greater than all numbers given out before; so its
caller is settled by the first signal afterwards that concerns this number, and no other request,
nor any segment or edit, ever has to do with it.
-/

namespace Whiteboard

/-- The number that a tiding is about, if it was given to a request, a segment or an edit. -/
def Tiding.number? : Tiding → Option CommandId
  | .sent _ wait => some wait.reply.id
  | .spent id => some id
  | _ => none

/-- The request that was sent, and the wait of its caller. -/
def Tiding.sent? : Tiding → Option (Command × Wait)
  | .sent command wait => some (command, wait)
  | _ => none

theorem Tiding.eq_of_sent? {t : Tiding} {command : Command} {wait : Wait}
    (h : t.sent? = some (command, wait)) : t = .sent command wait := by
  cases t with
  | sent command' wait' =>
    cases h
    rfl
  | _ => cases h

/-- What the first of some tidings that concerns the caller of a command says to that caller. -/
def settlement? (id : CommandId) (since : List Tiding) : Option (Except SyncError SystemEvent) :=
  (since.filterMap Tiding.signal?).findSome? (Signal.settles? id)

/-- What tidings lead to: the number given out last, and the awaited replies. -/
inductive LeadsTo : List Tiding → CommandId → Replies → Prop
  /-- At first no number is given out. -/
  | nothing : LeadsTo [] 0 .empty
  /-- A request gets a greater number than those before, and its reply is awaited. -/
  | sent {told : List Tiding} {last next : CommandId} {r : Replies} (h : LeadsTo told last r)
      (later : last < next) (command : Command) (limit : Option Nat) (since : Nat) :
      LeadsTo (told ++ [.sent command ⟨⟨next, r.issued⟩, limit, since⟩]) next (r.register next).1
  /-- A request gets a number, but is refused, so that its reply is not awaited any more. -/
  | refused {told : List Tiding} {last next : CommandId} {r : Replies} (h : LeadsTo told last r)
      (later : last < next) : LeadsTo told next ((r.register next).1.forget next).1
  /-- A number goes to a segment or an edit. -/
  | spent {told : List Tiding} {last next : CommandId} {r : Replies} (h : LeadsTo told last r)
      (later : last < next) : LeadsTo (told ++ [.spent next]) next r
  /-- A reply is delivered, or the stream ends. -/
  | heard {told : List Tiding} {last : CommandId} {r : Replies} (h : LeadsTo told last r)
      (s : Signal) : LeadsTo (told ++ [.heard s r]) last (r.hear s)
  /-- An operation fails, but not because its number is pending. -/
  | failed {told : List Tiding} {last : CommandId} {r : Replies} (h : LeadsTo told last r)
      {e : SyncError} (other : ∀ id, e ≠ .duplicate id) : LeadsTo (told ++ [.failed e]) last r

theorem cons_suffix_concat_iff {α : Type} {a b : α} {l m : List α} :
    a :: l <:+ m ++ [b] ↔ (l = [] ∧ a = b) ∨ ∃ rest, l = rest ++ [b] ∧ a :: rest <:+ m := by
  rw [List.suffix_concat_iff]
  constructor
  · rintro (absurd | ⟨rest, split, suffix⟩)
    · cases absurd
    · cases rest with
      | nil =>
        obtain ⟨same, rfl⟩ := List.cons.inj split
        exact .inl ⟨rfl, same⟩
      | cons first rest =>
        obtain ⟨rfl, rfl⟩ := List.cons.inj split
        exact .inr ⟨rest, rfl, suffix⟩
  · rintro (⟨rfl, rfl⟩ | ⟨rest, rfl, suffix⟩)
    · exact .inr ⟨[], rfl, List.nil_suffix⟩
    · exact .inr ⟨a :: rest, rfl, suffix⟩

namespace LeadsTo

variable {told : List Tiding} {last : CommandId} {r : Replies}

theorem orderly (h : LeadsTo told last r) : r.Orderly last := by
  induction h with
  | nothing => exact ⟨nofun, nofun⟩
  | sent _ later _ _ _ ih => exact ih.register later
  | refused _ later ih => exact (ih.register later).remove _ _
  | spent _ later ih => exact ih.mono (UInt32.le_of_lt later)
  | heard _ s ih => exact ih.hear s
  | failed _ _ ih => exact ih

/-- A number that is given out next is not pending. -/
theorem free (h : LeadsTo told last r) {next : CommandId} (later : last < next) :
    r.isPending next = false := h.orderly.not_pending (.inr later)

/-- Only requests that were sent have pending numbers, which lead to the boxes of their callers. -/
theorem sent_of_pending (h : LeadsTo told last r) {id : CommandId} {box : Nat}
    (pending : r.pending[id]? = some box) :
    ∃ command wait, .sent command wait ∈ told ∧ wait.reply = ⟨id, box⟩ := by
  -- what was sent before was sent
  have before : ∀ {told : List Tiding} (t : Tiding),
      (∃ command wait, .sent command wait ∈ told ∧ wait.reply = ⟨id, box⟩) →
        ∃ command wait, .sent command wait ∈ told ++ [t] ∧ wait.reply = ⟨id, box⟩ := by
    rintro told t ⟨command, wait, mem, same⟩
    exact ⟨command, wait, List.mem_append_left _ mem, same⟩
  induction h with
  | nothing => cases pending
  | sent h later command limit since ih =>
    rw [Replies.pending_register (h.free later)] at pending
    split at pending
    · next same =>
      subst same
      obtain rfl := Option.some.inj pending
      exact ⟨command, _, List.mem_concat_self, rfl⟩
    · exact before _ (ih pending)
  | refused h later ih =>
    rw [Replies.forget, Replies.pending_remove, Replies.pending_register (h.free later)] at pending
    split at pending
    · cases pending
    · exact ih pending
  | spent h later ih => exact before _ (ih pending)
  | heard h s ih => exact before _ (ih (Replies.pending_of_hear pending))
  | failed h other ih => exact before _ (ih pending)

/-- The numbers of requests, segments and edits are those given out, each greater than the one
before. -/
theorem numbers (h : LeadsTo told last r) :
    (∀ id ∈ told.filterMap Tiding.number?, 0 < id ∧ id ≤ last) ∧
      (told.filterMap Tiding.number?).Pairwise (· < ·) := by
  -- a number that is given out next comes after all others
  have more : ∀ {ids : List CommandId} {last next : CommandId},
      ((∀ id ∈ ids, 0 < id ∧ id ≤ last) ∧ ids.Pairwise (· < ·)) → last < next →
        (∀ id ∈ ids ++ [next], 0 < id ∧ id ≤ next) ∧ (ids ++ [next]).Pairwise (· < ·) := by
    intro ids last next ⟨given, ordered⟩ later
    have below : ∀ id ∈ ids, id < next := fun id mem => UInt32.lt_of_le_of_lt (given id mem).2 later
    refine ⟨fun id mem => ?_, List.pairwise_append.mpr ⟨ordered, List.pairwise_singleton _ _, ?_⟩⟩
    · rcases List.mem_append.mp mem with old | new
      · exact ⟨(given id old).1, UInt32.le_of_lt (below id old)⟩
      · rw [List.mem_singleton.mp new]
        exact ⟨UInt32.lt_of_le_of_lt UInt32.zero_le later, UInt32.le_refl _⟩
    · intro id mem new here
      rw [List.mem_singleton.mp here]
      exact below id mem
  induction h with
  | nothing => exact ⟨nofun, .nil⟩
  | sent h later command limit since ih =>
    rw [List.filterMap_append]
    exact more ih later
  | refused h later ih =>
    exact ⟨fun id mem => ⟨(ih.1 id mem).1, UInt32.le_trans (ih.1 id mem).2 (UInt32.le_of_lt later)⟩,
      ih.2⟩
  | spent h later ih =>
    rw [List.filterMap_append]
    exact more ih later
  | heard h s ih =>
    rw [List.filterMap_append, List.filterMap_cons_none rfl, List.filterMap_nil, List.append_nil]
    exact ih
  | failed h other ih =>
    rw [List.filterMap_append, List.filterMap_cons_none rfl, List.filterMap_nil, List.append_nil]
    exact ih

theorem sent_given (h : LeadsTo told last r) {command : Command} {wait : Wait}
    (mem : .sent command wait ∈ told) : 0 < wait.reply.id ∧ wait.reply.id ≤ last :=
  h.numbers.1 _ (List.mem_filterMap.mpr ⟨_, mem, rfl⟩)

/-- No two tidings are about the same number. -/
theorem eq_of_number (h : LeadsTo told last r) {t t' : Tiding} (mem : t ∈ told) (mem' : t' ∈ told)
    {id : CommandId} (here : t.number? = some id) (there : t'.number? = some id) : t = t' := by
  let Apart (t t' : Tiding) : Prop :=
    ∀ id, t.number? = some id → ∀ id', t'.number? = some id' → id ≠ id'
  have symmetric : Std.Symm Apart :=
    ⟨fun _ _ apart id here id' there => (apart id' there id here).symm⟩
  have ordered : told.Pairwise Apart :=
    (List.pairwise_filterMap.mp h.numbers.2).imp fun less id here id' there =>
      UInt32.ne_of_lt (less id here id' there)
  by_contra different
  exact ordered.forall mem mem' different id here id there rfl

/-- A number that went to a segment or an edit is not that of a request. -/
theorem sent_ne_spent (h : LeadsTo told last r) {id : CommandId} {command : Command} {wait : Wait}
    (sent : .sent command wait ∈ told) (spent : .spent id ∈ told) : wait.reply.id ≠ id := by
  intro same
  cases h.eq_of_number sent spent (congrArg some same) rfl

theorem not_duplicate (h : LeadsTo told last r) (id : CommandId) :
    .failed (.duplicate id) ∉ told := by
  induction h with
  | nothing => exact List.not_mem_nil
  | refused _ _ ih => exact ih
  | failed _ other ih =>
    intro mem
    rcases List.mem_append.mp mem with before | new
    · exact ih before
    · exact other id (Tiding.failed.inj (List.mem_singleton.mp new)).symm
  | _ => simpa

/-- The replies that were awaited when something was heard are what the tidings before led to. -/
theorem of_heard (h : LeadsTo told last r) {before : List Tiding} {s : Signal} {awaited : Replies}
    (first : before ++ [.heard s awaited] <+: told) : ∃ last, LeadsTo before last awaited := by
  induction h with
  | nothing => simp at first
  | refused _ _ ih => exact ih first
  | @heard told last r h _ ih =>
    rcases List.prefix_concat_iff.mp first with all | earlier
    · obtain ⟨rfl, same⟩ := List.append_inj' all rfl
      obtain ⟨rfl, rfl⟩ := Tiding.heard.inj (List.cons.inj same).1
      exact ⟨last, h⟩
    · exact ih earlier
  | _ =>
    rename_i ih
    rcases List.prefix_concat_iff.mp first with all | earlier
    · simpa using (List.append_inj' all rfl).2
    · exact ih earlier

/-- A reply that is heard finds nobody, unless a request with its number was sent before. -/
theorem resolve_of_unsent (h : LeadsTo told last r) {before : List Tiding} {id : CommandId}
    {outcome : Outcome} {awaited : Replies}
    (first : before ++ [.heard (.reply id outcome) awaited] <+: told)
    (unsent : ∀ command wait, .sent command wait ∈ before → wait.reply.id ≠ id) :
    awaited.resolve id outcome = (awaited, false) := by
  obtain ⟨_, led⟩ := h.of_heard first
  refine Replies.remove_of_not_pending ?_ _
  rw [Replies.isPending_eq_false_iff, Option.eq_none_iff_forall_ne_some]
  intro box pending
  obtain ⟨command, wait, mem, same⟩ := led.sent_of_pending pending
  exact unsent command wait mem (congrArg PendingReply.id same)

/-- The caller of a request that was sent is settled by the first tiding afterwards that concerns
its number. -/
theorem holds (h : LeadsTo told last r) {command : Command} {wait : Wait} {since : List Tiding}
    (sent : .sent command wait :: since <:+ told) :
    r.Holds wait.reply (settlement? wait.reply.id since) := by
  -- a tiding that is no signal leaves what is found so far
  have silent : ∀ (rest : List Tiding) (t : Tiding), t.signal? = none →
      settlement? wait.reply.id (rest ++ [t]) = settlement? wait.reply.id rest := by
    intro rest t none
    rw [settlement?, List.filterMap_append, List.filterMap_cons_none none, List.filterMap_nil,
      List.append_nil, settlement?]
  induction h generalizing since with
  | nothing => cases List.suffix_nil.mp sent
  | sent h later command' limit since' ih =>
    rcases cons_suffix_concat_iff.mp sent with ⟨rfl, same⟩ | ⟨rest, rfl, suffix⟩
    · obtain ⟨rfl, rfl⟩ := Tiding.sent.inj same
      exact h.orderly.holds_register (h.free later)
    · rw [silent rest _ rfl]
      exact (ih suffix).register (h.free later)
  | refused h later ih => exact (ih sent).register_forget (h.free later)
  | spent h later ih =>
    rcases cons_suffix_concat_iff.mp sent with ⟨-, absurd⟩ | ⟨rest, rfl, suffix⟩
    · cases absurd
    · rw [silent rest _ rfl]
      exact ih suffix
  | @heard told last r h s ih =>
    rcases cons_suffix_concat_iff.mp sent with ⟨-, absurd⟩ | ⟨rest, rfl, suffix⟩
    · cases absurd
    · have one : [Tiding.heard s r].filterMap Tiding.signal? = [s] := rfl
      rw [settlement?, List.filterMap_append, List.findSome?_append, one, List.findSome?_singleton]
      exact (ih suffix).hear s
  | failed h other ih =>
    rcases cons_suffix_concat_iff.mp sent with ⟨-, absurd⟩ | ⟨rest, rfl, suffix⟩
    · cases absurd
    · rw [silent rest _ rfl]
      exact ih suffix

/-- The number of a request that was sent is pending as long as nothing settles its caller. -/
theorem isPending_iff (h : LeadsTo told last r) {command : Command} {wait : Wait}
    {since : List Tiding} (sent : .sent command wait :: since <:+ told) :
    r.isPending wait.reply.id = true ↔ settlement? wait.reply.id since = none := by
  have holds := h.holds sent
  rw [Replies.isPending, Std.ExtTreeMap.contains_eq_isSome_getElem?, Option.isSome_iff_exists]
  constructor
  · rintro ⟨box, pending⟩
    obtain ⟨command', wait', mem', same⟩ := h.sent_of_pending pending
    have mem : .sent command wait ∈ told := sent.subset List.mem_cons_self
    have number : some wait'.reply.id = some wait.reply.id :=
      congrArg (fun reply => some reply.id) same
    obtain ⟨rfl, rfl⟩ := Tiding.sent.inj (h.eq_of_number mem mem' rfl number)
    have its : wait.reply.box = box := congrArg PendingReply.box same
    rw [← its] at pending
    exact ((holds.pending _).mp pending).1
  · exact fun unsettled => ⟨_, (holds.pending _).mpr ⟨unsettled, rfl⟩⟩

end LeadsTo

end Whiteboard
