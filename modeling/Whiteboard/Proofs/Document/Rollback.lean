import Whiteboard.Failure
import Whiteboard.Proofs.Document.Pending

/-!
# Taking a transaction back

While a transaction waits for its answer, others begin after it, are committed beneath it, and are
answered in any order. None of this depends on the transaction: a replica that carries it goes
through the same steps as one without it, and stays the same but for the one transaction. So a
rejection, whenever it comes, leaves the replica as if the transaction had never begun.

## Main definitions

- `Replica.Step`, `Replica.step` — what can be done with a replica, and what comes of it
- `Replica.run`, `Replica.results` — several steps, and what comes of each
- `Replica.Carries` — two replicas that differ by one pending transaction
-/

namespace Whiteboard

/-- What can be done with a replica. -/
inductive Replica.Step
  /-- A transaction of this participant begins. -/
  | begin (tx : Transaction)
  /-- A transaction of another participant is committed. -/
  | applyRemote (tx : Transaction)
  /-- A pending transaction is accepted. -/
  | accept (id : Uuid)
  /-- A pending transaction is rejected. -/
  | reject (id : Uuid)

namespace Replica

/-- The transaction that a step answers, if it is an answer. -/
def Step.answered? : Step → Option Uuid
  | .accept id | .reject id => some id
  | .begin _ | .applyRemote _ => none

/-- What comes of an answer to a transaction, which fails if the transaction is not pending. -/
def answered (id : Uuid) : Replica × Option ObjectSet → Replica × Except CoreError ObjectSet
  | (r, some touched) => (r, .ok touched)
  | (r, none) => (r, .error (.unknownTransaction id))

/-- The replica after a step, and the objects touched, unless the step fails. -/
def step (r : Replica) : Step → Replica × Except CoreError ObjectSet
  | .begin tx => ((r.begin tx).1, .ok (r.begin tx).2)
  | .applyRemote tx => ((r.applyRemote tx).1, .ok (r.applyRemote tx).2)
  | .accept id => answered id (r.accept id)
  | .reject id => answered id (r.reject id)

/-- The replica after some steps. -/
def run (r : Replica) (steps : List Step) : Replica := steps.foldl (fun r s => (r.step s).1) r

/-- What comes of some steps, one after the other. -/
def results : Replica → List Step → List (Except CoreError ObjectSet)
  | _, [] => []
  | r, s :: rest => (r.step s).2 :: results (r.step s).1 rest

/-! ### One transaction more -/

/-- The replica carries a pending transaction, and is `r` without it. -/
structure Carries (r' : Replica) (t : Transaction) (r : Replica) : Prop where
  pending : r'.find? t.id = some t
  rest : r'.drop t.id = r

variable {r r' : Replica} {t : Transaction}

theorem carries_begin (fresh : ∀ u ∈ r.pending, u.id ≠ t.id) : (r.begin t).1.Carries t r := by
  have split : (r.begin t).1.pending = r.pending ++ t :: [] := rfl
  refine ⟨find?_of_split split fresh, (drop_of_split split fresh).trans ?_⟩
  rw [List.append_nil]
  rfl

namespace Carries

theorem committed (h : r'.Carries t r) : r.committed = r'.committed := by
  rw [← h.rest, drop]

theorem find? (h : r'.Carries t r) {id : Uuid} (other : id ≠ t.id) : r'.find? id = r.find? id := by
  rw [← h.rest, r'.find?_drop other.symm]

theorem drop (h : r'.Carries t r) {id : Uuid} (other : id ≠ t.id) :
    (r'.drop id).Carries t (r.drop id) where
  pending := (r'.find?_drop other).trans h.pending
  rest := by rw [r'.drop_drop other, h.rest]

/-- A commit concerns the store alone. -/
theorem commit (h : r'.Carries t r) (s : Store) :
    Carries { r' with committed := s } t { r with committed := s } where
  pending := h.pending
  rest := by
    rw [← h.rest]
    rfl

/-- A transaction that begins comes last, whatever its identifier. -/
theorem begin (h : r'.Carries t r) (tx : Transaction) :
    (r'.begin tx).1.Carries t (r.begin tx).1 where
  pending := by
    have found := h.pending
    rw [Replica.find?] at found
    rw [Replica.find?, Replica.begin, List.find?_append, found]
    rfl
  rest := by
    -- the transaction is found before the new one, even if that has the same identifier
    have mem := List.mem_of_find?_eq_some h.pending
    rw [← h.rest, Replica.drop, Replica.begin, List.eraseP_append_left (by simp) _ mem]
    rfl

/-- A step that does not answer the transaction has the same result without it, and the replicas
differ by it as before. -/
theorem step (h : r'.Carries t r) {s : Step} (other : s.answered? ≠ some t.id) :
    (r'.step s).2 = (r.step s).2 ∧ (r'.step s).1.Carries t (r.step s).1 := by
  cases s with
  | begin tx => exact ⟨rfl, h.begin tx⟩
  | applyRemote tx =>
    rw [Replica.step, Replica.step, applyRemote, applyRemote, h.committed]
    exact ⟨rfl, h.commit _⟩
  | accept id =>
    have ne : id ≠ t.id := fun same => other (congrArg some same)
    rw [Replica.step, Replica.step, accept, accept, h.find? ne]
    cases r.find? id with
    | none => exact ⟨rfl, h⟩
    | some tx =>
      rw [h.committed]
      exact ⟨rfl, (h.drop ne).commit _⟩
  | reject id =>
    have ne : id ≠ t.id := fun same => other (congrArg some same)
    rw [Replica.step, Replica.step, reject, reject, h.find? ne]
    cases r.find? id with
    | none => exact ⟨rfl, h⟩
    | some tx => exact ⟨rfl, h.drop ne⟩

theorem run (h : r'.Carries t r) {steps : List Step}
    (others : ∀ s ∈ steps, s.answered? ≠ some t.id) :
    r'.results steps = r.results steps ∧ (r'.run steps).Carries t (r.run steps) := by
  induction steps generalizing r r' with
  | nil => exact ⟨rfl, h⟩
  | cons s rest ih =>
    obtain ⟨result, carries⟩ := h.step (others s List.mem_cons_self)
    obtain ⟨results, later⟩ := ih carries fun s mem => others s (List.mem_cons_of_mem _ mem)
    refine ⟨?_, later⟩
    rw [Replica.results, Replica.results, result, results]

end Carries

/-- A rejected transaction leaves no trace. Let a transaction begin whose identifier is not pending,
then let any steps follow that do not answer it, and then its rejection. The rejection succeeds and
leaves the replica that the steps alone lead to, and each of the steps has the result that it has
without the transaction. -/
theorem reject_leaves_no_trace (r : Replica) {t : Transaction} {steps : List Step}
    (fresh : ∀ u ∈ r.pending, u.id ≠ t.id) (others : ∀ s ∈ steps, s.answered? ≠ some t.id) :
    (r.begin t).1.results steps = r.results steps ∧
      ((r.begin t).1.run steps).step (.reject t.id) = (r.run steps, .ok t.touched) := by
  obtain ⟨results, carries⟩ := (carries_begin fresh).run others
  refine ⟨results, ?_⟩
  rw [step, reject, carries.pending, ← carries.rest]
  rfl

/-- A transaction that gives a document a title. -/
def retitling (n : Nat) (title : String) : Transaction :=
  ⟨.numbered 9 n, [.update ⟨⟨"plan"⟩, .title⟩ (.text title)]⟩

/-- A document with one pending transaction. -/
def drafted : Replica := ⟨.ofSnapshot ⟨"plan"⟩ ⟨none, [], []⟩, [retitling 1 "a"]⟩

/-- Others commit, another transaction begins and is rejected, the first one is accepted, and one is
accepted that never began. -/
def meanwhile : List Step :=
  [.applyRemote (retitling 4 "theirs"), .begin (retitling 3 "c"), .accept (.numbered 9 1),
    .reject (.numbered 9 3), .accept (.numbered 9 5)]

theorem reject_leaves_no_trace_midway :
    (∀ u ∈ drafted.pending, u.id ≠ (retitling 2 "b").id) ∧
      (∀ s ∈ meanwhile, s.answered? ≠ some (retitling 2 "b").id) ∧
      ((drafted.begin (retitling 2 "b")).1.run meanwhile).view = ⟨⟨"plan"⟩, "b"⟩ ∧
      ((drafted.begin (retitling 2 "b")).1.run meanwhile).step (.reject (retitling 2 "b").id) =
        (drafted.run meanwhile, .ok (retitling 2 "b").touched) ∧
      (drafted.run meanwhile).view = ⟨⟨"plan"⟩, "a"⟩ := by
  have fresh : ∀ u ∈ drafted.pending, u.id ≠ (retitling 2 "b").id := by decide
  have others : ∀ s ∈ meanwhile, s.answered? ≠ some (retitling 2 "b").id := by decide
  obtain ⟨-, rejected⟩ := drafted.reject_leaves_no_trace fresh others
  exact ⟨fresh, others, by decide +kernel, rejected, by decide +kernel⟩

end Replica

end Whiteboard
