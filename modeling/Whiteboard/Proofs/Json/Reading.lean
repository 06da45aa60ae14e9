import Whiteboard.Proofs.Json.Skipping
import Whiteboard.Proofs.Json.Spellings

/-!
# Reading every spelling

All spellings of a value are read alike. The entries of an object are read in the order in which
they come, so what is known halfway is which fields were found and which entries are to come. This
much determines the record, and neither the order of the entries nor those that the record does
not know have any part in it.
-/

namespace Whiteboard

open Whiteboard.Json

/-! ### Objects halfway -/

/-- What is known of a field from the entries to come that have its name: none of them does, and
the field was found or may be absent, or one of them does, and the field was not found. -/
inductive Shape.Due (s : Shape) (omittable : Bool) (v : s.Value) :
    List Entry → Option s.Value → Prop
  /-- Nothing is to come. -/
  | settled {slot : Option s.Value} (h : (slot.orElse fun _ => s.absent? omittable) = some v) :
      Due s omittable v [] slot
  /-- The value is to come. -/
  | expected {e : Entry} (h : ReadAs s.readJson v e.value) : Due s omittable v [e] none

/-- The entries to come fill what is left of a record. -/
def Fields.Awaits : (fields : Fields) → fields.Value → List Entry → fields.Slots → Prop
  | .nil, _, entries, _ => ∀ e ∈ entries, WellFormed e.value
  | .cons name omittable s rest, (v, vs), entries, (slot, slots) =>
    s.Due omittable v (entries.filter (·.key = name)) slot ∧
      rest.Awaits vs (entries.filter (·.key ≠ name)) slots

namespace Fields

/-- Each entry brings the record forward. -/
theorem awaits_entry (fields : Fields) {v : fields.Value} (e : Entry) (entries : List Entry)
    (slots : fields.Slots) (h : fields.Awaits v (e :: entries) slots) :
    ∃ slots', fields.Awaits v entries slots' ∧ ∀ after, Closing after →
      Yields (Spaced ([':'] :: (e.value ++ after))) (fields.readEntry e.key slots) slots'
        (Spaced after) := by
  match fields, v, slots with
  | .nil, (), () =>
    refine ⟨(), fun e' he' => h e' (List.mem_cons_of_mem e he'), fun after hafter => ?_⟩
    refine (yields_symbol rfl).bind fun cs hcs => ?_
    obtain ⟨rest, hrest, hskip⟩ :=
      skipValue?_of_wellFormed (h e List.mem_cons_self) hafter hcs
    refine ⟨rest, hrest, ?_⟩
    rw [skipping, reading, hskip]
    rfl
  | .cons name omittable s rest, (v, vs), (slot, slots) =>
    obtain ⟨hdue, hothers⟩ := h
    by_cases hkey : e.key = name
    · rw [List.filter_cons_of_pos (by simpa using hkey)] at hdue
      rw [List.filter_cons_of_neg (by simpa using hkey)] at hothers
      generalize hlater : entries.filter (·.key = name) = later at hdue
      cases hdue with
      | expected hvalue =>
        refine ⟨(some v, slots), ⟨?_, hothers⟩, fun after hafter => ?_⟩
        · rw [hlater]
          exact .settled rfl
        · have hthis : (Fields.cons name omittable s rest).readEntry e.key (none, slots) =
              (do symbol ':'; return (some (← s.readJson), slots)) := if_pos hkey
          rw [hthis]
          exact (yields_symbol rfl).bind
            ((hvalue.yields after hafter).map fun w => (some w, slots))
    · rw [List.filter_cons_of_neg (by simpa using hkey)] at hdue
      rw [List.filter_cons_of_pos (by simpa using hkey)] at hothers
      obtain ⟨slots', hawaits, hread⟩ := rest.awaits_entry e _ slots hothers
      refine ⟨(slot, slots'), ⟨hdue, hawaits⟩, fun after hafter => ?_⟩
      have hother : (Fields.cons name omittable s rest).readEntry e.key (slot, slots) =
          (do return (slot, ← rest.readEntry e.key slots)) := if_neg hkey
      rw [hother]
      exact (hread after hafter).map (slot, ·)

/-- When nothing is to come, the record is complete. -/
theorem complete_of_awaits (fields : Fields) {v : fields.Value} {slots : fields.Slots}
    (h : fields.Awaits v [] slots) : fields.complete slots = .ok v := by
  match fields, v, slots with
  | .nil, (), () => rfl
  | .cons name omittable s rest, (v, vs), (slot, slots) =>
    obtain ⟨hdue, hothers⟩ := h
    have hslot : (slot.orElse fun _ => s.absent? omittable) = some v := by
      cases hdue with
      | settled h => exact h
    rw [complete, hslot]
    simp only [rest.complete_of_awaits hothers]
    rfl

theorem key_mem_names (fields : Fields) {v : fields.Value} {known : List Entry}
    (h : fields.SpelledByEntries v known) : ∀ e ∈ known, e.key ∈ fields.names := by
  match fields, v with
  | .nil, () =>
    cases h
    exact List.forall_mem_nil _
  | .cons name omittable s rest, (v, vs) =>
    obtain ⟨e, more, rfl, -, hmore, rfl⟩ | ⟨-, hmore⟩ := h
    · exact List.forall_mem_cons.mpr ⟨List.mem_cons_self,
        fun e' he' => List.mem_cons_of_mem _ (rest.key_mem_names hmore e' he')⟩
    · exact fun e he => List.mem_cons_of_mem name (rest.key_mem_names hmore e he)

end Fields

/-- Entries are told apart by whether they have a name, whatever their order. -/
theorem Json.perm_filter_key {name : String} {entries : List Entry} (these others : List Entry)
    (h : entries.Perm (these ++ others)) (hthese : ∀ e ∈ these, e.key = name)
    (hothers : ∀ e ∈ others, e.key ≠ name) :
    (entries.filter (·.key = name)).Perm these ∧ (entries.filter (·.key ≠ name)).Perm others := by
  have hthis : these.filter (·.key = name) = these ∧ these.filter (·.key ≠ name) = [] :=
    ⟨List.filter_eq_self.mpr (by simpa using hthese),
      List.filter_eq_nil_iff.mpr (by simpa using hthese)⟩
  have hother : others.filter (·.key = name) = [] ∧ others.filter (·.key ≠ name) = others :=
    ⟨List.filter_eq_nil_iff.mpr (by simpa using hothers),
      List.filter_eq_self.mpr (by simpa using hothers)⟩
  constructor
  · simpa [List.filter_append, hthis.1, hother.1] using h.filter (·.key = name)
  · have hperm := h.filter (·.key ≠ name)
    rwa [List.filter_append, hthis.2, hother.2, List.nil_append] at hperm

/-! ### Records and choices -/

section Parts

theorem yields_list {s : Shape} {vs : List s.Value} {items : List (List Token)}
    {after : List Token} (h : List.Forall₂ (ReadAs s.readJson) vs items) :
    Yields (Spaced (arrayTokens items ++ after)) (Shape.list s).readJson vs (Spaced after) := by
  have hread (bound : Nat) (hbound : items.length < bound) :
      Yields (Spaced (partTokens ']' true items ++ after)) (elements s.readJson bound true) vs
        (Spaced after) := yields_elements h true hbound
  have hitems := Yields.limit (fun _ => Spaced.length_parts_le) hread
  rw [arrayTokens_append]
  exact (yields_peek rfl).bind (yields_advance.bind hitems)

variable {title : Title} {fields : Fields} {v : fields.Value} {after : List Token}

/-- The fields of a record stand in an array. -/
theorem yields_array {items : List (List Token)}
    (h : Yields (Spaced (partTokens ']' true items ++ after))
      (fields.readElements (fun index => .tooShort index title fields.count) 0 true) v
      (Spaced ([']'] :: after))) :
    Yields (Spaced (arrayTokens items ++ after)) (Shape.record title fields).readJson v
      (Spaced after) := by
  have hread : Yields (Standing ['['] (partTokens ']' true items ++ after))
      (do
        advance
        let v ← fields.readElements (fun index => .tooShort index title fields.count) 0 true
        symbol ']'
        return v : Reader fields.Value) v (Spaced after) :=
    yields_advance.bind (h.bind ((yields_symbol rfl).bind (.pure v)))
  rw [arrayTokens_append]
  exact (yields_peek rfl).bind hread

/-- The fields of a record stand in an object, among others. -/
theorem yields_object (htitle : title.byName) {entries : List Entry}
    (h : fields.Awaits v entries fields.noSlots) :
    Yields (Spaced (objectTokens (entries.map Entry.tokens) ++ after))
      (Shape.record title fields).readJson v (Spaced after) := by
  have hread (bound : Nat) (hbound : (entries.map Entry.tokens).length < bound) :
      Yields (Spaced (partTokens '\x7d' true (entries.map Entry.tokens) ++ after))
        (do
          let slots ← Json.entries (fun key slots => fields.readEntry key slots) bound true
            fields.noSlots
          fields.complete slots) v (Spaced after) := by
    rw [List.length_map] at hbound
    obtain ⟨slots, hslots, hentries⟩ :=
      yields_entries (fun e es found => fields.awaits_entry e es found) h true hbound
    exact hentries.bind (.lift (fields.complete_of_awaits hslots))
  have hlimit := Yields.limit (fun _ => Spaced.length_parts_le) hread
  rw [objectTokens_append]
  exact yields_brace htitle (yields_advance.bind hlimit)

variable {cases : Cases} {w : cases.Value} {body : List Char}

theorem yields_name (hbody : Denotes body (cases.label w).toList) (hnames : cases.names.Nodup)
    (hbare : cases.payload? w = none) :
    Yields (Spaced (quoted body :: after)) (Shape.choice cases).readJson w (Spaced after) := by
  obtain ⟨hname, -⟩ := cases.ofName_label hnames w hbare (.unknownCase (cases.label w) cases.names)
  have hread : Yields (Standing (quoted body) after)
      (do
        let name ← readString
        cases.ofName (.unknownCase name cases.names) name : Reader cases.Value) w (Spaced after) :=
    (yields_readString hbody).bind (.lift hname)
  exact (yields_peek rfl).bind hread

theorem yields_tagged (hbody : Denotes body (cases.label w).toList) {payload : List Token}
    (h : Yields (Spaced ([':'] :: (payload ++ ['\x7d'] :: after)))
      (cases.readJson (.unknownCase (cases.label w) cases.names) (cases.label w)) w
      (Spaced (['\x7d'] :: after))) :
    Yields (Spaced (objectTokens [entryTokens (body, payload)] ++ after))
      (Shape.choice cases).readJson w (Spaced after) := by
  have hread : Yields (Standing (quoted body) ([':'] :: (payload ++ ['\x7d'] :: after)))
      (do
        let name ← readString
        let v ← cases.readJson (.unknownCase name cases.names) name
        symbol '\x7d'
        return v : Reader cases.Value) w (Spaced after) :=
    (yields_readString hbody).bind (h.bind ((yields_symbol rfl).bind (.pure w)))
  rw [objectTokens_append, partTokens_cons]
  exact (yields_peek rfl).bind (yields_advance.bind ((yields_peek rfl).bind hread))

end Parts

mutual

/-- A value is read from all of its spellings, whatever follows. -/
theorem Shape.readAs_of_spells (s : Shape) (hs : s.readable) (v : s.Value)
    (hback : ∀ x ∈ s.singles v, x.ReadsBack) {tokens : List Token} (h : s.Spells v tokens) :
    ReadAs s.readJson v tokens := by
  refine ⟨Shape.opens_of_spells hs h, fun after hafter => ?_⟩
  match s, v with
  | .word16, (n : UInt16) =>
    cases h
    have hn := (yields_readNatural "u16" n.toNat_lt (by decide) hafter).map UInt16.ofNat
    rw [UInt16.ofNat_toNat] at hn
    exact hn
  | .word32, (n : UInt32) =>
    cases h
    have hn := (yields_readNatural "u32" n.toNat_lt (by decide) hafter).map UInt32.ofNat
    rw [UInt32.ofNat_toNat] at hn
    exact hn
  | .single, (x : Single) =>
    cases h
    exact yields_readSingle (hback x (List.mem_singleton_self x)) hafter
  | .text, (t : String) =>
    obtain ⟨body, hbody, rfl⟩ := h
    exact yields_readText hbody "a string"
  | .uuid, (id : Uuid) =>
    obtain ⟨body, hbody, rfl⟩ := h
    refine (yields_readText hbody "a formatted UUID string").bind ?_
    rw [Uuid.ofText?_toText]
    exact .pure id
  | .optional s, (none : Option _) =>
    cases h
    exact yields_none
  | .optional s, some v =>
    simp only [Shape.readable, Bool.and_eq_true] at hs
    have hvalue := (s.readAs_of_spells hs.2 v hback h).yields after hafter
    obtain ⟨c, token, more, rfl, hc, hnull⟩ := Shape.opens_of_neverNull hs.1 h
    exact yields_some hc hnull hvalue
  | .list s, (vs : List _) =>
    obtain ⟨items, hitems, rfl⟩ := h
    rw [Shape.readable] at hs
    have hvalues : List.Forall₂ (ReadAs s.readJson) vs items := by
      have hback' : ∀ v ∈ vs, ∀ x ∈ s.singles v, x.ReadsBack :=
        fun v hv x hx => hback x (List.mem_flatMap.mpr ⟨v, hv, hx⟩)
      exact ((List.forall₂_and_left vs items).mpr ⟨hback', hitems⟩).imp
        fun v item h => s.readAs_of_spells hs v h.1 h.2
    exact yields_list hvalues
  | .record title fields, (v : fields.Value) =>
    simp only [Shape.readable, Bool.and_eq_true, decide_eq_true_eq] at hs
    rcases h with ⟨items, hitems, rfl⟩ | ⟨htitle, known, unknown, entries, hparts⟩
    · exact yields_array (fields.yields_items hs.2 v hback hitems _ 0 true after)
    · obtain ⟨hknown, hunknown, hperm, rfl⟩ := hparts
      exact yields_object htitle (fields.awaits_noSlots hs.2 hs.1 v hback hknown hunknown hperm)
  | .choice cases, (v : cases.Value) =>
    simp only [Shape.readable, Bool.and_eq_true, decide_eq_true_eq] at hs
    obtain ⟨body, hbody, ⟨hbare, rfl⟩ | ⟨payload, hpayload, rfl⟩⟩ := h
    · exact yields_name hbody hs.1 hbare
    · exact yields_tagged hbody (cases.yields_payload hs.2 hs.1 v hback hpayload _ (.brace after))

/-- The fields of a record are read from the items of an array, up to its bracket. -/
theorem Fields.yields_items (fields : Fields) (hs : fields.readable) (v : fields.Value)
    (hback : ∀ x ∈ fields.singles v, x.ReadsBack) {items : List (List Token)}
    (h : fields.SpelledByItems v items) (tooShort : Nat → Error) (index : Nat) (first : Bool)
    (after : List Token) :
    Yields (Spaced (partTokens ']' first items ++ after))
      (fields.readElements tooShort index first) v (Spaced ([']'] :: after)) := by
  match fields, v with
  | .nil, () =>
    cases h
    exact .pure ()
  | .cons name omittable s rest, (v, vs) =>
    simp only [Fields.readable, Bool.and_eq_true] at hs
    rw [Fields.singles, List.forall_mem_append] at hback
    obtain ⟨item, more, hitem, hmore, rfl⟩ | ⟨homittable, hempty, hmore, rfl⟩ := h
    · have hvalue := s.readAs_of_spells hs.1 v hback.1 hitem
      have hothers := rest.yields_items hs.2 vs hback.2 hmore tooShort (index + 1) false after
      rw [partTokens_cons]
      exact (yields_nextElement_item first (hvalue.opens.append _)).bind
        ((hvalue.yields _ (closing_partTokens (.bracket after) more)).bind (hothers.map (v, ·)))
    · have hothers := rest.yields_items hs.2 vs hback.2 hmore tooShort (index + 1) first after
      have hmissing : Yields (Standing [']'] after)
          (match if omittable then s.empty? else none with
          | some v => do return (v, ← rest.readElements tooShort (index + 1) first)
          | none => throw (tooShort index)) (v, vs) (Spaced ([']'] :: after)) := by
        rw [if_pos homittable, hempty]
        exact (hothers.consequence fun _ hcs => hcs.spaced).map (v, ·)
      exact (yields_nextElement_end first).bind hmissing

/-- Nothing has been found yet, and all entries are to come. -/
theorem Fields.awaits_noSlots (fields : Fields) (hs : fields.readable)
    (hnames : fields.names.Nodup) (v : fields.Value)
    (hback : ∀ x ∈ fields.singles v, x.ReadsBack) {known unknown entries : List Entry}
    (hknown : fields.SpelledByEntries v known)
    (hunknown : ∀ e ∈ unknown, e.key ∉ fields.names ∧ WellFormed e.value)
    (hperm : entries.Perm (known ++ unknown)) : fields.Awaits v entries fields.noSlots := by
  match fields, v with
  | .nil, () =>
    cases hknown
    exact fun e he => (hunknown e (hperm.mem_iff.mp he)).2
  | .cons name omittable s rest, (v, vs) =>
    simp only [Fields.readable, Bool.and_eq_true] at hs
    rw [Fields.singles, List.forall_mem_append] at hback
    rw [Fields.names] at hnames hunknown
    have hunknown' : ∀ e ∈ unknown, e.key ∉ rest.names ∧ WellFormed e.value := fun e he =>
      ⟨fun hmem => (hunknown e he).1 (List.mem_cons_of_mem name hmem), (hunknown e he).2⟩
    -- Neither a later field nor an unknown entry goes by the name of this field.
    have hothers {later : List Entry} (h : rest.SpelledByEntries vs later) :
        ∀ e ∈ later ++ unknown, e.key ≠ name := by
      rintro e he rfl
      rcases List.mem_append.mp he with hlater | hnew
      · exact (List.nodup_cons.mp hnames).1 (rest.key_mem_names h e hlater)
      · exact (hunknown e hnew).1 List.mem_cons_self
    obtain ⟨e, more, rfl, hvalue, hmore, rfl⟩ | ⟨habsent, hmore⟩ := hknown
    · obtain ⟨hthis, hrest⟩ := perm_filter_key [e] _ hperm (by simp) (hothers hmore)
      refine ⟨?_, rest.awaits_noSlots hs.2 hnames.of_cons vs hback.2 hmore hunknown' hrest⟩
      rw [List.perm_singleton.mp hthis]
      exact .expected (s.readAs_of_spells hs.1 v hback.1 hvalue)
    · obtain ⟨hthis, hrest⟩ := perm_filter_key [] _ hperm (by simp) (hothers hmore)
      refine ⟨?_, rest.awaits_noSlots hs.2 hnames.of_cons vs hback.2 hmore hunknown' hrest⟩
      rw [List.perm_nil.mp hthis]
      exact .settled habsent

/-- What a case carries is read under the name of the case. -/
theorem Cases.yields_payload (cases : Cases) (hs : cases.readable) (hnames : cases.names.Nodup)
    (v : cases.Value) (hback : ∀ x ∈ cases.singles v, x.ReadsBack) {payload : List Token}
    (h : cases.Carries v payload) (unknown : Error) {after : List Token} (hafter : Closing after) :
    Yields (Spaced ([':'] :: (payload ++ after))) (cases.readJson unknown (cases.label v)) v
      (Spaced after) := by
  match cases, v with
  | .bare name more, .inl () => cases h
  | .bare name more, .inr v =>
    rw [Cases.names] at hnames
    rw [Cases.readable] at hs
    have hmore := more.yields_payload hs hnames.of_cons v hback h unknown hafter
    have hother : (Cases.bare name more).readJson unknown (more.label v) =
        (do return .inr (← more.readJson unknown (more.label v))) :=
      if_neg (Cases.label_ne hnames v)
    rw [Cases.label, hother]
    exact hmore.map (@Sum.inr Unit more.Value)
  | .carrying name s more, .inl v =>
    simp only [Cases.readable, Bool.and_eq_true] at hs
    have hvalue := (s.readAs_of_spells hs.1 v hback h).yields after hafter
    have hthis : (Cases.carrying name s more).readJson unknown name =
        (do symbol ':'; return .inl (← s.readJson)) := if_pos rfl
    rw [Cases.label, hthis]
    exact (yields_symbol rfl).bind (hvalue.map (@Sum.inl s.Value more.Value))
  | .carrying name s more, .inr v =>
    rw [Cases.names] at hnames
    simp only [Cases.readable, Bool.and_eq_true] at hs
    have hmore := more.yields_payload hs.2 hnames.of_cons v hback h unknown hafter
    have hother : (Cases.carrying name s more).readJson unknown (more.label v) =
        (do return .inr (← more.readJson unknown (more.label v))) :=
      if_neg (Cases.label_ne hnames v)
    rw [Cases.label, hother]
    exact hmore.map (@Sum.inr s.Value more.Value)

end

/-! ### Messages -/

namespace Json

variable {α : Type} [HasShape α]

/-- A message is read from all of its spellings. -/
theorem parse_of_spelling (hs : (HasShape.shape α).readable) {a : α} {text : String}
    (hback : ∀ x ∈ singles a, x.ReadsBack) (h : Spelling a text) : parse text = .ok a := by
  obtain ⟨tokens, hspells, htext⟩ := h
  have hread := Shape.readAs_of_spells (HasShape.shape α) hs (HasShape.toValue a) hback hspells
  rw [← List.append_nil tokens] at htext
  obtain ⟨rest, hrest, hok⟩ := hread.yields [] .nil text.toList htext
  have hblank : skipBlanks rest = [] := by
    cases hrest with
    | nil hblanks => exact List.dropWhile_eq_nil_iff.mpr hblanks
  unfold parse readAll
  rw [StateT.run, hok]
  simp only [bind, Except.bind, hblank]
  exact congrArg _ (HasShape.ofValue_toValue a)

end Json

end Whiteboard
