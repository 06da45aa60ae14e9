import Whiteboard.Proofs.Document.Replay
import Whiteboard.Proofs.Participant.Runs

/-!
# The own document

Outside of every session a participant shows its own document. Sessions come and go without a trace
in it, even one whose document has the same name: only edits made outside of every session reach
it, and these are committed at once.
-/

namespace Whiteboard.Participant

/-- The title that a step gives to the own document, if it is an edit outside of every session. -/
def Step.homeTitles (s : Step) (p : Participant) : List String :=
  match s with
  | .push (.retitle title) => if p.session?.isNone then [title] else []
  | _ => []

/-- The own document has the given name and title, and no edit of it waits for an answer. -/
structure AtHome (name : ObjectId) (title? : Option String) (p : Participant) : Prop where
  named : p.home.id = name
  settled : p.home.pending = []
  title : p.home.committed.text? name.titleKey = title?

theorem atHome_create (ids : IdSource) : (create ids).AtHome ⟨ids.draw.1.toText⟩ none where
  named := rfl
  settled := rfl
  title := Std.ExtTreeMap.getElem?_empty

/-- A step that does not edit the own document leaves it alone. -/
theorem home_step {p : Participant} {s : Step} (silent : s.homeTitles p = []) :
    (p.step s).home = p.home := by
  cases s with
  | apply frame =>
    obtain ⟨_, _, _, _, _, same⟩ := p.apply_eq frame
    rw [step, same]
  | push edit =>
    cases edit with
    | retitle title =>
      cases h : p.session? with
      | none => simp [Step.homeTitles, h] at silent
      | some session =>
        rw [step, push, h]
        rfl
  | takeOutbound =>
    simp only [step, takeOutbound]
    split <;> rfl
  | _ => rfl

namespace AtHome

variable {name : ObjectId} {title? : Option String} {p : Participant}

/-- An edit outside of every session gives the own document its title at once. -/
theorem pushHome (h : p.AtHome name title?) (title : String) :
    (p.pushHome (.retitle title)).AtHome name (some title) := by
  have processed : (p.pushHome (.retitle title)).home.committed =
      p.home.committed.mutate (.update p.home.id.titleKey (.text title)) := rfl
  refine ⟨?_, h.settled, ?_⟩
  · show (p.pushHome (.retitle title)).home.committed.id = name
    rw [processed, Store.id_mutate]
    exact h.named
  · rw [processed, h.named, Store.text?_mutate_text, if_pos rfl]

theorem step (h : p.AtHome name title?) (s : Step) :
    (p.step s).AtHome name ((s.homeTitles p).getLast?.or title?) := by
  by_cases silent : s.homeTitles p = []
  · rw [silent]
    have same := home_step silent
    exact ⟨same ▸ h.named, same ▸ h.settled, same ▸ h.title⟩
  · cases s with
    | push edit =>
      cases edit with
      | retitle title =>
        cases hs : p.session? with
        | none =>
          have pushed : p.step (.push (.retitle title)) = p.pushHome (.retitle title) := by
            rw [Participant.step, push, hs]
          have titles : Step.homeTitles (.push (.retitle title)) p = [title] := by
            simp [Step.homeTitles, hs]
          rw [pushed, titles]
          exact h.pushHome title
        | some session => simp [Step.homeTitles, hs] at silent
    | _ => exact absurd rfl silent

/-- The last edit outside of every session decides the title. -/
theorem run (h : p.AtHome name title?) (steps : List Step) :
    (p.run steps).AtHome name ((gather Step.homeTitles p steps).getLast?.or title?) := by
  induction steps generalizing p title? with
  | nil => exact h
  | cons s rest ih =>
    have later := ih (h.step s)
    rw [gather_cons, run_cons, List.getLast?_append, Option.or_assoc]
    exact later

theorem view (h : p.AtHome name title?) (outside : p.session? = none) :
    p.view = ⟨name, title?.getD untitled⟩ := by
  have home : p.document = p.home := by rw [document, outside]
  have shown : p.home.text? name.titleKey = title? := by
    rw [← h.title]
    simp [Replica.text?, Replica.newestFirst, h.settled]
  rw [Participant.view, home, Replica.view, h.named, shown]

end AtHome

/-- Sessions leave no trace in the own document. After any run of a new participant that ends
outside of every session, the document shown is the one made in the beginning, with the title of
the last edit that was made outside of every session; no edit waits for an answer, and another one
would not be queued. -/
theorem home_isolated (ids : IdSource) (steps : List Step)
    (outside : ((create ids).run steps).session? = none) :
    let p := (create ids).run steps
    p.view = ⟨⟨ids.draw.1.toText⟩,
      ((gather Step.homeTitles (create ids) steps).getLast?).getD "Untitled"⟩ ∧
    p.pendingCount = 0 ∧ ∀ edit, (p.push edit).1.outbound = p.outbound := by
  intro p
  have home : p.AtHome ⟨ids.draw.1.toText⟩
      ((gather Step.homeTitles (create ids) steps).getLast?) := by
    simpa only [Option.or_none] using (atHome_create ids).run steps
  refine ⟨home.view outside, ?_, fun edit => ?_⟩
  · have document : p.document = p.home := by rw [Participant.document, outside]
    rw [pendingCount, document, home.settled]
    rfl
  · rw [outbound_push, queued_push_of_none outside, List.append_nil]

/-- A session whose document has the name of the own one, with an edit of it that is rejected, one
that is accepted and one of someone else. -/
def sameName : List Step :=
  let own : ObjectId := ⟨(Uuid.numbered 1 1).toText⟩
  [.push (.retitle "mine"),
    .apply (Inbound.notice (.joinedSession 7 ⟨[3]⟩ ⟨some own, [(own.titleKey, "ours")], []⟩)).toFrame,
    .push (.retitle "a"), .push (.retitle "b"),
    .apply (Inbound.notice (.session (.rejected (Uuid.numbered 1 3) .conflict))).toFrame,
    .apply (Inbound.notice (.session (.accepted (Uuid.numbered 1 4)))).toFrame,
    .apply (Inbound.notice (.session (.othersTransaction
      ⟨Uuid.numbered 2 1, [.update own.titleKey (.text "theirs")]⟩))).toFrame,
    .push (.retitle "c"), .apply (Inbound.notice .leftSession).toFrame]

theorem home_isolated_same_name :
    let p := (create (.labelled 1)).run sameName
    p.session? = none ∧ p.view = ⟨⟨(Uuid.numbered 1 1).toText⟩, "mine"⟩ ∧ p.pendingCount = 0 ∧
      p.outbound.length = 3 ∧ (p.push (.retitle "d")).1.outbound = p.outbound := by
  intro p
  have outside : p.session? = none := by
    refine Option.isNone_iff_eq_none.mp ?_
    decide +kernel
  have titles : gather Step.homeTitles (create (.labelled 1)) sameName = ["mine"] := by
    decide +kernel
  obtain ⟨view, settled, silent⟩ := home_isolated (.labelled 1) sameName outside
  rw [titles] at view
  exact ⟨outside, view, settled, by decide +kernel, silent _⟩

end Whiteboard.Participant
