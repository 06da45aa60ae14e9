import Whiteboard.Proofs.Relay.Network

/-!
# Replicas agree with the log of the relay

The author of a transaction commits it where the relay's answer stands among the events it
receives, and everyone else where the transaction itself stands. Both places are the place of the
ruling among all rulings of the relay. So at every moment the rulings split, for each member, into
those it has heard of and those still on their way: the former give its committed document, and
its own among the latter are the older part of what is pending, the newer part being on its link.
-/

namespace Whiteboard

namespace Participant

variable {p : Participant} {committed : Store} {tx : Transaction} {rest : List Transaction}

theorem replica?_joined (p : Participant) (id : SessionId) (roster : Roster) {snapshot : Snapshot}
    {name : ObjectId} (named : snapshot.documentId = some name) :
    (p.applyEvent (.joinedSession id roster snapshot)).1.replica? =
      some ⟨.ofSnapshot name snapshot, []⟩ := by
  have opened : Replica.openFrom snapshot p.ids = (⟨.ofSnapshot name snapshot, []⟩, p.ids) := by
    simp only [Replica.openFrom, Store.openFrom, Snapshot.nameFrom, named]
  simp only [applyEvent, join, opened, invalidate, replica?, Option.map_some]

/-- The transaction that is begun waits behind the others. -/
theorem replica?_begin {r : Replica} (h : p.replica? = some r) (tx : Transaction) :
    (p.begin tx).replica? = some (r.begin tx).1 := by
  obtain ⟨s, hs, rfl⟩ := Option.map_eq_some_iff.mp h
  simp only [begin, hs, setDocument, invalidate, replica?, Option.map_some]

theorem applyEvent_accepted (h : p.replica? = some ⟨committed, tx :: rest⟩) :
    (p.applyEvent (.session (.accepted tx.id))).1.replica? = some ⟨committed.process tx, rest⟩ ∧
      (p.applyEvent (.session (.accepted tx.id))).2 = .ok () := by
  obtain ⟨s, hs, hd⟩ := Option.map_eq_some_iff.mp h
  simp [applyEvent, applySession, hs, hd, Replica.accept, Replica.find?, Replica.drop, setAnswered,
    setDocument, invalidate, replica?]

theorem applyEvent_rejected (h : p.replica? = some ⟨committed, tx :: rest⟩)
    (reason : RollbackReason) :
    (p.applyEvent (.session (.rejected tx.id reason))).1.replica? = some ⟨committed, rest⟩ ∧
      (p.applyEvent (.session (.rejected tx.id reason))).2 = .ok () := by
  obtain ⟨s, hs, hd⟩ := Option.map_eq_some_iff.mp h
  simp [applyEvent, applySession, hs, hd, Replica.reject, Replica.find?, Replica.drop, setAnswered,
    setDocument, invalidate, replica?]

theorem applyEvent_othersTransaction {pending : List Transaction}
    (h : p.replica? = some ⟨committed, pending⟩) (tx : Transaction) :
    (p.applyEvent (.session (.othersTransaction tx))).1.replica? =
        some ⟨committed.process tx, pending⟩ ∧
      (p.applyEvent (.session (.othersTransaction tx))).2 = .ok () := by
  obtain ⟨s, hs, hd⟩ := Option.map_eq_some_iff.mp h
  simp [applyEvent, applySession, hs, hd, Replica.applyRemote, setDocument, invalidate, replica?]

end Participant

variable {ι : Type} [DecidableEq ι]

open Ruling (accepted ownOf messages)

section Rulings

theorem filterMap_cons_toList {α β : Type} (f : α → Option β) (a : α) (l : List α) :
    (a :: l).filterMap f = (f a).toList ++ l.filterMap f := by
  rw [List.filterMap_cons]
  cases f a with
  | none => rfl
  | some b => rfl

variable (i : ι) (r : Ruling ι) (rulings later : List (Ruling ι))

omit [DecidableEq ι] in
@[simp] theorem accepted_nil : accepted ([] : List (Ruling ι)) = [] := rfl

@[simp] theorem ownOf_nil : ownOf i [] = [] := rfl

@[simp] theorem messages_nil : messages i [] = [] := rfl

omit [DecidableEq ι] in
@[simp] theorem accepted_append :
    accepted (rulings ++ later) = accepted rulings ++ accepted later :=
  List.filterMap_append

omit [DecidableEq ι] in
@[simp] theorem accepted_cons : accepted (r :: rulings) = r.accepted?.toList ++ accepted rulings :=
  filterMap_cons_toList _ _ _

@[simp] theorem ownOf_append : ownOf i (rulings ++ later) = ownOf i rulings ++ ownOf i later :=
  List.filterMap_append

@[simp] theorem ownOf_cons : ownOf i (r :: rulings) = (r.ownOf? i).toList ++ ownOf i rulings :=
  filterMap_cons_toList _ _ _

@[simp] theorem messages_append :
    messages i (rulings ++ later) = messages i rulings ++ messages i later :=
  List.filterMap_append

@[simp] theorem messages_cons :
    messages i (r :: rulings) = (r.message? i).toList ++ messages i rulings :=
  filterMap_cons_toList _ _ _

/-- The four ways in which a ruling concerns a member: its own transaction is accepted, that of
someone else is, its own is rejected, and that of someone else is. -/
theorem Ruling.concerns (r : Ruling ι) (i : ι) :
    (r.accepted? = some r.tx ∧ r.ownOf? i = some r.tx ∧ r.message? i = some (.accepted r.tx.id)) ∨
      (r.accepted? = some r.tx ∧ r.ownOf? i = none ∧
        r.message? i = some (.othersTransaction r.tx)) ∨
      (∃ reason, r.accepted? = none ∧ r.ownOf? i = some r.tx ∧
        r.message? i = some (.rejected r.tx.id reason)) ∨
      (r.accepted? = none ∧ r.ownOf? i = none ∧ r.message? i = none) := by
  unfold accepted? ownOf? message?
  by_cases own : r.author = i
  · cases hr : r.refusal? with
    | none => simp [own]
    | some reason => simp [own]
  · cases hr : r.refusal? with
    | none => simp [own]
    | some reason => simp [own]

/-- A member that does not hear of a ruling has no part in it. -/
theorem Ruling.silent {i : ι} {r : Ruling ι} (h : r.message? i = none) :
    r.accepted? = none ∧ r.ownOf? i = none := by
  simpa [h] using r.concerns i

/-- Rulings of which a member does not hear leave no trace. -/
theorem accepted_ownOf_silent {i : ι} {silent : List (Ruling ι)}
    (h : ∀ r ∈ silent, r.message? i = none) : accepted silent = [] ∧ ownOf i silent = [] :=
  ⟨List.filterMap_eq_nil_iff.mpr fun r hr => (Ruling.silent (h r hr)).1,
    List.filterMap_eq_nil_iff.mpr fun r hr => (Ruling.silent (h r hr)).2⟩

theorem countP_commits_messages (i : ι) (rulings : List (Ruling ι)) :
    (messages i rulings).countP SessionEvent.commits = (accepted rulings).length := by
  induction rulings with
  | nil => rfl
  | cons r rest ih =>
    rw [messages_cons, accepted_cons, List.countP_append, List.length_append, ih]
    congr 1
    rcases r.concerns i with ⟨ha, _, hm⟩ | ⟨ha, _, hm⟩ | ⟨reason, ha, _, hm⟩ | ⟨ha, _, hm⟩
    · rw [hm, ha]
      rfl
    · rw [hm, ha]
      rfl
    · rw [hm, ha]
      rfl
    · rw [hm, ha]
      rfl

theorem answered_messages (i : ι) (rulings : List (Ruling ι)) :
    (messages i rulings).filterMap SessionEvent.answered? =
      (ownOf i rulings).map Transaction.id := by
  rw [messages, ownOf, List.filterMap_filterMap, List.map_filterMap]
  congr 1
  funext r
  rcases r.concerns i with ⟨_, ho, hm⟩ | ⟨_, ho, hm⟩ | ⟨reason, _, ho, hm⟩ | ⟨_, ho, hm⟩
  · rw [hm, ho]
    rfl
  · rw [hm, ho]
    rfl
  · rw [hm, ho]
    rfl
  · rw [hm, ho]
    rfl

/-- What a member does on hearing of a ruling: the transaction leaves the pending ones if it is its
own, and is committed if it is accepted. -/
theorem Participant.applyEvent_ruling {p : Participant} {i : ι} {r : Ruling ι} {e : SessionEvent}
    {committed : Store} {rest : List Transaction} (hr : r.message? i = some e)
    (h : p.replica? = some ⟨committed, (r.ownOf? i).toList ++ rest⟩) :
    (p.applyEvent (.session e)).1.replica? =
        some ⟨r.accepted?.toList.foldl Store.process committed, rest⟩ ∧
      (p.applyEvent (.session e)).2 = .ok () := by
  rcases r.concerns i with ⟨ha, ho, hm⟩ | ⟨ha, ho, hm⟩ | ⟨reason, ha, ho, hm⟩ | ⟨_, _, hm⟩
  · obtain rfl := Option.some.inj (hr.symm.trans hm)
    rw [ho] at h
    rw [ha]
    exact applyEvent_accepted h
  · obtain rfl := Option.some.inj (hr.symm.trans hm)
    rw [ho] at h
    rw [ha]
    exact applyEvent_othersTransaction h r.tx
  · obtain rfl := Option.some.inj (hr.symm.trans hm)
    rw [ho] at h
    rw [ha]
    exact applyEvent_rejected h reason
  · exact nomatch hr.symm.trans hm

end Rulings

/-- A member of a session that was opened with the store `base` has heard of the rulings `heard`,
while those in `coming` are in its inbox. -/
structure Site.Follows (base : Store) (i : ι) (heard coming : List (Ruling ι)) (s : Site) :
    Prop where
  /-- What is committed is what was accepted; what is pending is on its way, in one direction or
  the other. -/
  replica : s.participant.replica? =
    some ⟨(accepted heard).foldl Store.process base, ownOf i coming ++ s.link⟩
  /-- Every transaction begun was ruled on or is on the link. -/
  begun : s.begun = ownOf i heard ++ ownOf i coming ++ s.link
  /-- The inbox holds what the member will hear. -/
  inbox : s.inbox = messages i coming
  /-- The member handled what it heard. -/
  events : s.events = messages i heard
  /-- Nothing that was handled failed. -/
  fine : ∀ entry ∈ s.handled, entry.2 = .ok ()

namespace Site.Follows

variable {base : Store} {i : ι} {heard coming : List (Ruling ι)} {s : Site}

/-- A transaction that is begun waits behind the others, on the link as in the replica. -/
protected theorem begin (h : Follows base i heard coming s) (tx : Transaction) :
    Follows base i heard coming (s.begin tx) where
  replica := by
    rw [Site.begin, Participant.replica?_begin h.replica, Replica.begin, List.append_assoc]
  begun := by rw [Site.begin, h.begun, List.append_assoc]
  inbox := h.inbox
  events := h.events
  fine := h.fine

/-- A ruling joins those that the member has not heard of. -/
theorem ruled (h : Follows base i heard coming s) {r : Ruling ι} {link : List Transaction}
    (hl : (r.ownOf? i).toList ++ link = s.link) :
    Follows base i heard (coming ++ [r])
      { s with link, inbox := s.inbox ++ (r.message? i).toList } := by
  have own : ownOf i (coming ++ [r]) ++ link = ownOf i coming ++ s.link := by
    rw [ownOf_append, ownOf_cons, ownOf_nil, List.append_nil, List.append_assoc, hl]
  refine ⟨?_, ?_, ?_, h.events, h.fine⟩
  · rw [own, h.replica]
  · rw [List.append_assoc, own, ← List.append_assoc, h.begun]
  · rw [h.inbox, messages_append, messages_cons, messages_nil, List.append_nil]

/-- The member hears of one more ruling: of the oldest one that concerns it, passing over those
that do not. -/
theorem deliver (h : Follows base i heard coming s) :
    ∃ now later, coming = now ++ later ∧ Follows base i (heard ++ now) later s.deliver := by
  cases hi : s.inbox with
  | nil => exact ⟨[], coming, rfl, by simpa only [Site.deliver, hi, List.append_nil] using h⟩
  | cons e rest =>
    obtain ⟨silent, r, later, rfl, hs, hr, hrest⟩ :=
      List.filterMap_eq_cons_iff.mp (h.inbox.symm.trans hi)
    -- what the member passes over are rejections of transactions that others began
    obtain ⟨no_accepted, no_own⟩ := accepted_ownOf_silent hs
    have no_message : messages i silent = [] := List.filterMap_eq_nil_iff.mpr hs
    -- so an answer is always to the oldest pending transaction
    have replica := h.replica
    rw [ownOf_append, ownOf_cons, no_own, List.nil_append, List.append_assoc] at replica
    obtain ⟨after, ok⟩ := Participant.applyEvent_ruling hr replica
    refine ⟨silent ++ [r], later, by rw [List.append_assoc, List.singleton_append], ?_⟩
    simp only [Site.deliver, hi]
    refine ⟨?_, ?_, hrest.symm, ?_, ?_⟩
    · simpa [no_accepted] using after
    · simpa [no_own] using h.begun
    · simpa [Site.events, no_message, hr] using h.events
    · intro entry hentry
      rcases List.mem_append.mp hentry with old | new
      · exact h.fine entry old
      · rw [List.mem_singleton.mp new, ok]

end Site.Follows

namespace Network

/-- Every member has heard of some rulings, and not yet of the others. -/
def Follows (base : Store) (rulings : List (Ruling ι)) (net : Network ι) : Prop :=
  net.log = accepted rulings ∧
    ∀ i, ∃ heard coming, rulings = heard ++ coming ∧ (net.sites i).Follows base i heard coming

/-- What one move preserves; it adds at most one ruling. -/
theorem follows_step {base : Store} {rulings : List (Ruling ι)} {net : Network ι}
    (h : net.Follows base rulings) (move : Move ι) :
    ∃ more, (net.step move).Follows base (rulings ++ more) := by
  obtain ⟨log, sites⟩ := h
  cases move with
  | begin i tx =>
    refine ⟨[], by rw [List.append_nil]; exact log, fun j => ?_⟩
    obtain ⟨heard, coming, split, hj⟩ := sites j
    refine ⟨heard, coming, by rw [List.append_nil, split], ?_⟩
    by_cases hji : j = i
    · simpa [step, update, hji] using hji ▸ hj.begin tx
    · simpa [step, update, hji] using hj
  | deliver i =>
    refine ⟨[], by rw [List.append_nil]; exact log, fun j => ?_⟩
    obtain ⟨heard, coming, split, hj⟩ := sites j
    by_cases hji : j = i
    · obtain ⟨now, later, rfl, hd⟩ := hj.deliver
      refine ⟨heard ++ now, later, by simp [split], ?_⟩
      simpa [step, update, hji] using hji ▸ hd
    · refine ⟨heard, coming, by rw [List.append_nil, split], ?_⟩
      simpa [step, update, hji] using hj
  | rule i refusal? =>
    cases hl : (net.sites i).link with
    | nil =>
      refine ⟨[], ?_⟩
      rw [List.append_nil, step, hl]
      exact ⟨log, sites⟩
    | cons tx rest =>
      refine ⟨[⟨i, tx, refusal?⟩], ?_, fun j => ?_⟩
      · simp [step, hl, announce, log]
      · obtain ⟨heard, coming, split, hj⟩ := sites j
        refine ⟨heard, coming ++ [⟨i, tx, refusal?⟩], by rw [split, List.append_assoc], ?_⟩
        simp only [step, hl, announce]
        -- only the author's link gets shorter, by just the transaction that is ruled on
        apply hj.ruled
        by_cases hji : j = i
        · subst hji
          simp [Ruling.ownOf?, hl]
        · simp [Ruling.ownOf?, hji, Ne.symm hji]

/-- What every sequence of moves preserves. -/
theorem follows_run {base : Store} (moves : List (Move ι)) :
    ∀ {rulings : List (Ruling ι)} {net : Network ι}, net.Follows base rulings →
      ∃ more, (net.run moves).Follows base (rulings ++ more) := by
  induction moves with
  | nil =>
    intro rulings net h
    exact ⟨[], by rw [List.append_nil]; exact h⟩
  | cons move rest ih =>
    intro rulings net h
    obtain ⟨now, hnow⟩ := follows_step h move
    obtain ⟨later, hlater⟩ := ih hnow
    exact ⟨now ++ later, by rw [← List.append_assoc]; exact hlater⟩

theorem follows_start (members : ι → Participant) (session : SessionId) (rosters : ι → Roster)
    {snapshot : Snapshot} {name : ObjectId} (named : snapshot.documentId = some name) :
    (start members session rosters snapshot).Follows (.ofSnapshot name snapshot) [] :=
  ⟨rfl, fun i => ⟨[], [], rfl,
    { replica := (members i).replica?_joined session (rosters i) named
      begun := rfl, inbox := rfl, events := rfl
      fine := fun _ h => absurd h List.not_mem_nil }⟩⟩

/-- Whatever the order of moves, no member fails to handle an event. Its committed document is
that of the log as far as it has heard of it, its answered transactions are the older part of those
it began, and the newer part is pending and has its answer or itself on the way, in that order. A
member that has nothing on the way is where the log is. -/
theorem replicas_follow_log (members : ι → Participant) (session : SessionId)
    (rosters : ι → Roster) {snapshot : Snapshot} {name : ObjectId}
    (named : snapshot.documentId = some name) (moves : List (Move ι)) (i : ι) :
    let net := (start members session rosters snapshot).run moves
    let s := net.sites i
    let base := Store.ofSnapshot name snapshot
    (∀ entry ∈ s.handled, entry.2 = .ok ()) ∧
      (∃ settled pending,
        s.participant.replica? = some
          ⟨(net.log.take (s.events.countP SessionEvent.commits)).foldl Store.process base,
            pending⟩ ∧
        s.begun = settled ++ pending ∧
        settled.map Transaction.id = s.events.filterMap SessionEvent.answered? ∧
        pending.map Transaction.id =
          s.inbox.filterMap SessionEvent.answered? ++ s.link.map Transaction.id) ∧
      (s.link = [] → s.inbox = [] →
        s.participant.replica? = some ⟨net.log.foldl Store.process base, []⟩) := by
  intro net s base
  obtain ⟨rulings, log, sites⟩ :=
    follows_run moves (follows_start members session rosters named)
  rw [List.nil_append] at log sites
  obtain ⟨heard, coming, rfl, h⟩ := sites i
  have committed : net.log.take (s.events.countP SessionEvent.commits) = accepted heard := by
    rw [h.events, countP_commits_messages, log, accepted_append, List.take_left]
  refine ⟨h.fine, ⟨ownOf i heard, ownOf i coming ++ s.link, ?_, ?_, ?_, ?_⟩, ?_⟩
  · rw [committed]
    exact h.replica
  · rw [← List.append_assoc]
    exact h.begun
  · rw [h.events, answered_messages]
  · rw [h.inbox, answered_messages, List.map_append]
  · intro hl hi
    have silent := List.filterMap_eq_nil_iff.mp (h.inbox.symm.trans hi)
    obtain ⟨no_accepted, no_own⟩ := accepted_ownOf_silent silent
    have replica := h.replica
    rw [no_own, hl] at replica
    rw [log, accepted_append, no_accepted, List.append_nil]
    exact replica

/-- The snapshot of a document by the name of `plan`. -/
def planSnapshot : Snapshot := ⟨some ⟨"plan"⟩, [], []⟩

/-- A transaction that gives the plan a title. -/
def entitle (n : Nat) (title : String) : Transaction :=
  ⟨Uuid.numbered 7 n, [.update ⟨⟨"plan"⟩, .title⟩ (.text title)]⟩

/-- Two members begin three transactions. The relay rejects the first one and accepts the others,
the second member's own before that of the first. -/
def crossing : List (Move Bool) :=
  [.begin true (entitle 1 "draft"), .begin true (entitle 2 "final"),
    .begin false (entitle 3 "other"), .rule true (some .conflict), .rule false none,
    .deliver true, .rule true none, .deliver false, .deliver true, .deliver false, .deliver true]

theorem replicas_follow_log_crossing :
    let members := fun i => Participant.create (.labelled (if i then 1 else 2))
    let net := (start members 1 (fun _ => ⟨[1, 2]⟩) planSnapshot).run crossing
    let base := Store.ofSnapshot ⟨"plan"⟩ planSnapshot
    planSnapshot.documentId = some ⟨"plan"⟩ ∧
      net.log = [entitle 3 "other", entitle 2 "final"] ∧
      (∀ i, ∀ entry ∈ (net.sites i).handled, entry.2 = .ok ()) ∧
      (∀ i, (net.sites i).participant.replica? =
        some ⟨(base.process (entitle 3 "other")).process (entitle 2 "final"), []⟩) := by
  intro members net base
  have follows := replicas_follow_log members 1 (fun _ => ⟨[1, 2]⟩)
    (rfl : planSnapshot.documentId = some ⟨"plan"⟩) crossing
  refine ⟨rfl, rfl, fun i => (follows i).1, fun i => ?_⟩
  cases i with
  | true => exact (follows true).2.2 rfl rfl
  | false => exact (follows false).2.2 rfl rfl

end Network

end Whiteboard
