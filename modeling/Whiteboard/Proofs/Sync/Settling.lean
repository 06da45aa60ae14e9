import Whiteboard.Message.Codec
import Whiteboard.Sync.Replies

/-!
# How awaited replies are settled

A handle is good for one box. While its number is pending, that number and no other leads to the
box; the first signal that concerns the number settles the box, and after that no number leads to
it any more, whatever is registered later.
-/

namespace Whiteboard

/-- What settles replies. -/
inductive Signal
  /-- A reply arrives. -/
  | reply (id : CommandId) (outcome : Outcome)
  /-- The stream of frames ends. -/
  | ended
  deriving DecidableEq

/-- What a signal means to the caller of a command, if it concerns that caller. -/
def Signal.settles? (id : CommandId) : Signal → Option (Except SyncError SystemEvent)
  | .reply i outcome => if i = id then some outcome.settle else none
  | .ended => some (.error .abandoned)

/-- The signals of a frame: itself, if it is a reply. -/
def Frame.signals (frame : Frame) : List Signal :=
  match Inbound.ofFrame frame with
  | .ok (.reply id outcome) => [.reply id outcome]
  | _ => []

/-- The fault that reading a frame comes to, if it comes to one. -/
def Frame.fault? (frame : Frame) : Option Fault :=
  match Inbound.ofFrame frame with
  | .error e => e.fault?
  | .ok _ => none

/-- What the caller learns from the contents of a box. -/
def BoxContents.outcome? : BoxContents → Option (Except SyncError SystemEvent)
  | .awaited => none
  | .delivered outcome => some outcome.settle
  | .abandoned => some (.error .abandoned)

namespace Replies

/-- What a signal does to the awaited replies. -/
def hear (r : Replies) : Signal → Replies
  | .reply id outcome => (r.resolve id outcome).1
  | .ended => r.abandonAll.1

variable {r : Replies} {id : CommandId} {contents : BoxContents}

/-! ### The effect of each operation -/

theorem isPending_eq_false_iff : r.isPending id = false ↔ r.pending[id]? = none := by
  rw [isPending, Std.ExtTreeMap.contains_eq_isSome_getElem?, Option.isSome_eq_false_iff,
    Option.isNone_iff_eq_none]

theorem register_of_not_pending (h : r.isPending id = false) :
    r.register id =
      ({ pending := r.pending.insert id r.issued
         boxes := r.boxes.insert r.issued ⟨.awaited, true⟩
         issued := r.issued + 1 }, .ok ⟨id, r.issued⟩) := by
  rw [register, h]
  rfl

theorem pending_register (h : r.isPending id = false) (i : CommandId) :
    (r.register id).1.pending[i]? = if id = i then some r.issued else r.pending[i]? := by
  rw [register_of_not_pending h]
  simp only [Std.ExtTreeMap.getElem?_insert, Std.compare_eq_iff_eq]

theorem boxes_register (h : r.isPending id = false) (box : Nat) :
    (r.register id).1.boxes[box]? =
      if r.issued = box then some ⟨.awaited, true⟩ else r.boxes[box]? := by
  rw [register_of_not_pending h]
  simp only [Std.ExtTreeMap.getElem?_insert, Std.compare_eq_iff_eq]

theorem boxes_fill (r : Replies) (filled box : Nat) (contents : BoxContents) :
    (r.fill filled contents).boxes[box]? =
      if filled = box then (r.boxes[box]?).map fun b => { b with contents } else r.boxes[box]? := by
  rw [fill]
  simp only [Std.ExtTreeMap.getElem?_modify, Std.compare_eq_iff_eq]
  split
  · next h => rw [h]
  · rfl

theorem pending_remove (r : Replies) (id : CommandId) (contents : BoxContents) (i : CommandId) :
    (r.remove id contents).1.pending[i]? = if id = i then none else r.pending[i]? := by
  rw [remove]
  cases h : r.pending[id]? with
  | none =>
    by_cases hi : id = i
    · rw [if_pos hi, ← hi, h]
    · rw [if_neg hi]
  | some box => simp [fill, Std.ExtTreeMap.getElem?_erase]

theorem boxes_remove (r : Replies) (id : CommandId) (contents : BoxContents) (box : Nat) :
    (r.remove id contents).1.boxes[box]? =
      if r.pending[id]? = some box then (r.boxes[box]?).map fun b => { b with contents }
      else r.boxes[box]? := by
  rw [remove]
  cases h : r.pending[id]? with
  | none => simp
  | some filled => simp [boxes_fill]

theorem remove_of_not_pending (h : r.isPending id = false) (contents : BoxContents) :
    r.remove id contents = (r, false) := by
  rw [remove, isPending_eq_false_iff.mp h]

theorem awaited_resolve (r : Replies) (id : CommandId) (outcome : Outcome) :
    (r.resolve id outcome).2 = r.isPending id := by
  rw [resolve, remove, isPending, Std.ExtTreeMap.contains_eq_isSome_getElem?]
  cases r.pending[id]? <;> rfl

theorem issued_remove (r : Replies) (id : CommandId) (contents : BoxContents) :
    (r.remove id contents).1.issued = r.issued := by
  rw [remove]
  cases r.pending[id]? <;> rfl

/-- Filling boxes changes nothing but their contents. -/
theorem foldl_fill (boxes : List Nat) (contents : BoxContents) :
    ∀ r : Replies, (boxes.foldl (fun r box => r.fill box contents) r).pending = r.pending ∧
      (boxes.foldl (fun r box => r.fill box contents) r).issued = r.issued ∧
      ∀ box, (boxes.foldl (fun r box => r.fill box contents) r).boxes[box]? =
        if box ∈ boxes then (r.boxes[box]?).map fun b => { b with contents }
        else r.boxes[box]? := by
  induction boxes with
  | nil => exact fun r => ⟨rfl, rfl, fun box => rfl⟩
  | cons first rest ih =>
    intro r
    obtain ⟨hpending, hissued, hboxes⟩ := ih (r.fill first contents)
    refine ⟨hpending, hissued, fun box => ?_⟩
    rw [List.foldl_cons, hboxes, boxes_fill]
    by_cases hfirst : first = box
    · by_cases hrest : box ∈ rest
      · simp [hfirst, hrest, Function.comp_def]
      · simp [hfirst, hrest]
    · simp [hfirst, Ne.symm hfirst]

theorem mem_pendingBoxes {box : Nat} :
    box ∈ r.pending.toList.map Prod.snd ↔ ∃ id : CommandId, r.pending[id]? = some box := by
  constructor
  · intro h
    obtain ⟨⟨id, _⟩, hentry, rfl⟩ := List.mem_map.mp h
    exact ⟨id, Std.ExtTreeMap.mem_toList_iff_getElem?_eq_some.mp hentry⟩
  · rintro ⟨id, h⟩
    exact List.mem_map.mpr ⟨(id, box), Std.ExtTreeMap.mem_toList_iff_getElem?_eq_some.mpr h, rfl⟩

theorem pending_abandonAll (r : Replies) : r.abandonAll.1.pending = ∅ :=
  (foldl_fill _ _ _).1

theorem issued_abandonAll (r : Replies) : r.abandonAll.1.issued = r.issued :=
  (foldl_fill _ _ _).2.1

theorem boxes_abandonAll_of_pending {box : Nat} (h : r.pending[id]? = some box) :
    r.abandonAll.1.boxes[box]? =
      (r.boxes[box]?).map fun b => { b with contents := .abandoned } := by
  rw [abandonAll]
  dsimp only
  rw [(foldl_fill _ _ _).2.2, if_pos (mem_pendingBoxes.mpr ⟨id, h⟩)]

theorem boxes_abandonAll_of_not_pending {box : Nat}
    (h : ∀ id : CommandId, r.pending[id]? ≠ some box) :
    r.abandonAll.1.boxes[box]? = r.boxes[box]? := by
  rw [abandonAll]
  dsimp only
  rw [(foldl_fill _ _ _).2.2, if_neg fun hmem => (mem_pendingBoxes.mp hmem).elim h]

theorem count_abandonAll (r : Replies) : r.abandonAll.1.count = 0 := by
  rw [count, pending_abandonAll]
  rfl

theorem pending_of_remove {removed : CommandId} {box : Nat}
    (h : (r.remove removed contents).1.pending[id]? = some box) : r.pending[id]? = some box := by
  rw [pending_remove] at h
  split at h
  · exact nomatch h
  · exact h

theorem pending_of_hear {s : Signal} {box : Nat} (h : (r.hear s).pending[id]? = some box) :
    r.pending[id]? = some box := by
  cases s with
  | reply i outcome => exact pending_of_remove h
  | ended =>
    rw [hear, pending_abandonAll] at h
    exact nomatch h

theorem not_pending_register (h : r.isPending id = false) {other : CommandId}
    (free : r.isPending other = false) (ne : other ≠ id) :
    (r.register other).1.isPending id = false ∧
      ((r.register other).1.forget other).1.isPending id = false := by
  have registered : (r.register other).1.pending[id]? = none := by
    rw [pending_register free, if_neg ne]
    exact isPending_eq_false_iff.mp h
  refine ⟨isPending_eq_false_iff.mpr registered, isPending_eq_false_iff.mpr ?_⟩
  rw [forget, pending_remove, if_neg ne, registered]

/-! ### Numbers and boxes that were given out -/

/-- Every pending number has been given out, the last of them being `last`, and so has its box. -/
structure Orderly (last : CommandId) (r : Replies) : Prop where
  /-- Pending numbers have been given out. -/
  ids : ∀ {id : CommandId} {box : Nat}, r.pending[id]? = some box → 0 < id ∧ id ≤ last
  /-- The boxes of pending numbers have been given out. -/
  boxes : ∀ {id : CommandId} {box : Nat}, r.pending[id]? = some box → box < r.issued

namespace Orderly

variable {last : CommandId}

theorem not_pending (h : r.Orderly last) (fresh : id = 0 ∨ last < id) : r.isPending id = false := by
  rw [isPending_eq_false_iff, Option.eq_none_iff_forall_ne_some]
  intro box hbox
  obtain ⟨positive, bound⟩ := h.ids hbox
  rcases fresh with rfl | beyond
  · exact UInt32.lt_irrefl _ positive
  · exact UInt32.lt_irrefl _ (UInt32.lt_of_lt_of_le beyond bound)

theorem mono {later : CommandId} (h : r.Orderly last) (le : last ≤ later) : r.Orderly later :=
  ⟨fun hid => ⟨(h.ids hid).1, UInt32.le_trans (h.ids hid).2 le⟩, h.boxes⟩

protected theorem register (h : r.Orderly last) (fresh : last < id) :
    (r.register id).1.Orderly id := by
  have free := h.not_pending (.inr fresh)
  have issued : (r.register id).1.issued = r.issued + 1 := by rw [register_of_not_pending free]
  refine ⟨fun {i box} hi => ?_, fun {i box} hi => ?_⟩
  · rw [pending_register free] at hi
    split at hi
    · next same =>
      subst same
      exact ⟨UInt32.lt_of_le_of_lt UInt32.zero_le fresh, UInt32.le_refl _⟩
    · exact ⟨(h.ids hi).1, UInt32.le_trans (h.ids hi).2 (UInt32.le_of_lt fresh)⟩
  · rw [issued]
    rw [pending_register free] at hi
    split at hi
    · obtain rfl := Option.some.inj hi
      exact Nat.lt_succ_self _
    · exact Nat.lt_succ_of_lt (h.boxes hi)

protected theorem remove (h : r.Orderly last) (id : CommandId) (contents : BoxContents) :
    (r.remove id contents).1.Orderly last := by
  refine ⟨fun hi => h.ids (pending_of_remove hi), fun hi => ?_⟩
  rw [issued_remove]
  exact h.boxes (pending_of_remove hi)

protected theorem hear (h : r.Orderly last) (s : Signal) : (r.hear s).Orderly last := by
  refine ⟨fun hi => h.ids (pending_of_hear hi), fun hi => ?_⟩
  have issued : (r.hear s).issued = r.issued := by
    cases s with
    | reply id outcome => exact issued_remove r id _
    | ended => exact issued_abandonAll r
  rw [issued]
  exact h.boxes (pending_of_hear hi)

end Orderly

/-! ### What a handle leads to -/

/-- A handle leads to a box that was given out and tells its caller `outcome?`. Its number leads
to the box as long as it tells nothing, and no other number ever does. -/
structure Holds (reply : PendingReply) (outcome? : Option (Except SyncError SystemEvent))
    (r : Replies) : Prop where
  /-- The box is there and tells so much. -/
  box : (r.boxes[reply.box]?).map (fun b => b.contents.outcome?) = some outcome?
  /-- The box has been given out. -/
  issued : reply.box < r.issued
  /-- Only the number of the handle leads to the box, and only before it tells anything. -/
  pending : ∀ id : CommandId, r.pending[id]? = some reply.box ↔ outcome? = none ∧ id = reply.id

/-- A number that is registered gets a handle that tells nothing yet. -/
theorem holds_register (given : ∀ {i : CommandId} {box : Nat}, r.pending[i]? = some box →
    box < r.issued) (free : r.isPending id = false) :
    (r.register id).1.Holds ⟨id, r.issued⟩ none := by
  refine ⟨?_, ?_, fun i => ?_⟩
  · rw [boxes_register free, if_pos rfl]
    rfl
  · rw [register_of_not_pending free]
    exact Nat.lt_succ_self _
  · rw [pending_register free]
    by_cases hi : id = i
    · simp [hi]
    · rw [if_neg hi]
      constructor
      · intro old
        exact absurd (given old) (Nat.lt_irrefl _)
      · rintro ⟨_, rfl⟩
        exact absurd rfl hi

theorem Orderly.holds_register {last : CommandId} (h : r.Orderly last)
    (free : r.isPending id = false) : (r.register id).1.Holds ⟨id, r.issued⟩ none :=
  Replies.holds_register h.boxes free

namespace Holds

variable {reply : PendingReply} {outcome? : Option (Except SyncError SystemEvent)}

theorem outcome?_eq (h : r.Holds reply outcome?) : r.outcome? reply = outcome? := by
  obtain ⟨b, hb, rfl⟩ := Option.map_eq_some_iff.mp h.box
  rw [Replies.outcome?, hb]
  cases hc : b.contents with
  | awaited => simp [hc, BoxContents.outcome?]
  | delivered outcome => simp [hc, BoxContents.outcome?]
  | abandoned => simp [hc, BoxContents.outcome?]

protected theorem register (h : r.Holds reply outcome?) (free : r.isPending id = false) :
    (r.register id).1.Holds reply outcome? := by
  have other : r.issued ≠ reply.box := Nat.ne_of_gt h.issued
  refine ⟨?_, ?_, fun i => ?_⟩
  · rw [boxes_register free, if_neg other]
    exact h.box
  · rw [register_of_not_pending free]
    exact Nat.lt_succ_of_lt h.issued
  · rw [pending_register free]
    by_cases hi : id = i
    · rw [if_pos hi, ← h.pending, ← hi, isPending_eq_false_iff.mp free]
      simp [other]
    · rw [if_neg hi]
      exact h.pending i

/-- Removing a number settles the handle that waits for it. -/
protected theorem remove (h : r.Holds reply outcome?) (id : CommandId)
    (final : contents ≠ .awaited) :
    (r.remove id contents).1.Holds reply
      (outcome?.or (if id = reply.id then contents.outcome? else none)) := by
  have told : contents.outcome? ≠ none := by
    cases contents with
    | awaited => exact absurd rfl final
    | delivered outcome => exact Option.some_ne_none _
    | abandoned => exact Option.some_ne_none _
  by_cases hit : r.pending[id]? = some reply.box
  -- the number leads to the box of the handle, which is settled and left behind
  · obtain ⟨rfl, rfl⟩ := (h.pending id).mp hit
    obtain ⟨b, hb, _⟩ := Option.map_eq_some_iff.mp h.box
    rw [if_pos rfl, Option.none_or]
    refine ⟨?_, by rw [issued_remove]; exact h.issued, fun i => ?_⟩
    · rw [boxes_remove, if_pos hit, hb]
      rfl
    · rw [pending_remove]
      by_cases hi : reply.id = i
      · simp [hi, told]
      · simp [hi, told, h.pending, Ne.symm hi]
  -- it leads to another box or to none; then it is not the number of a handle that waits
  · have kept : outcome?.or (if id = reply.id then contents.outcome? else none) = outcome? := by
      cases outcome? with
      | some outcome => rfl
      | none =>
        have other : id ≠ reply.id := fun same => hit ((h.pending id).mpr ⟨rfl, same⟩)
        rw [if_neg other, Option.none_or]
    rw [kept]
    refine ⟨?_, by rw [issued_remove]; exact h.issued, fun i => ?_⟩
    · rw [boxes_remove, if_neg hit]
      exact h.box
    · rw [pending_remove, ← h.pending]
      by_cases hi : id = i
      · rw [if_pos hi, ← hi]
        exact ⟨nofun, fun old => absurd old hit⟩
      · rw [if_neg hi]

/-- A reply settles the handle that waits for it. -/
protected theorem resolve (h : r.Holds reply outcome?) (id : CommandId) (outcome : Outcome) :
    (r.resolve id outcome).1.Holds reply
      (outcome?.or (if id = reply.id then some outcome.settle else none)) := by
  have final : BoxContents.delivered outcome ≠ .awaited := nofun
  exact h.remove id final

/-- Giving up all replies settles every handle that waits. -/
protected theorem abandonAll (h : r.Holds reply outcome?) :
    r.abandonAll.1.Holds reply (outcome?.or (some (.error .abandoned))) := by
  refine ⟨?_, by rw [issued_abandonAll]; exact h.issued, fun i => ?_⟩
  · cases outcome? with
    -- a handle that waits is pending, so its box is among those given up
    | none =>
      obtain ⟨b, hb, _⟩ := Option.map_eq_some_iff.mp h.box
      rw [boxes_abandonAll_of_pending ((h.pending reply.id).mpr ⟨rfl, rfl⟩), hb]
      rfl
    | some outcome =>
      rw [boxes_abandonAll_of_not_pending fun id hid => nomatch ((h.pending id).mp hid).1]
      exact h.box
  · rw [pending_abandonAll]
    refine ⟨nofun, fun hi => ?_⟩
    cases outcome? with
    | none => exact nomatch hi.1
    | some outcome => exact nomatch hi.1

/-- A number that is registered and forgotten leaves every other handle as it was. -/
theorem register_forget (h : r.Holds reply outcome?)
    (free : r.isPending id = false) : ((r.register id).1.forget id).1.Holds reply outcome? := by
  have final : BoxContents.abandoned ≠ .awaited := nofun
  have forgotten := (h.register free).remove id final
  cases outcome? with
  | some outcome => exact forgotten
  | none =>
    -- a handle that still waits keeps its number pending, so that number is not the free one
    have other : id ≠ reply.id := by
      rintro rfl
      have pending := (h.pending reply.id).mpr ⟨rfl, rfl⟩
      rw [isPending_eq_false_iff.mp free] at pending
      exact nomatch pending
    rwa [if_neg other, Option.none_or] at forgotten

/-- A signal settles the handle if it concerns it and nothing did so before. -/
protected theorem hear (h : r.Holds reply outcome?) (s : Signal) :
    (r.hear s).Holds reply (outcome?.or (s.settles? reply.id)) := by
  cases s with
  | reply id outcome => exact h.resolve id outcome
  | ended => exact h.abandonAll

end Holds

end Replies

end Whiteboard
