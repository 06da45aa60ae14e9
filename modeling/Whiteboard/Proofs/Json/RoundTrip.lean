import Whiteboard.Proofs.Json.Rereading

/-!
# Reading back a value of any shape

The printed form of a value decides every choice that reading has to make: the opening character
tells null, arrays and objects apart, a name tells the field or the case. This takes shapes in
which names are told apart and in which what may be missing is not itself printed as null.
-/

namespace Whiteboard

open Whiteboard.Json

mutual

/-- The floating-point numbers in a value, in the order in which they are written. -/
def Shape.singles : (s : Shape) → s.Value → List Single
  | .single, (x : Single) => [x]
  | .optional _, (none : Option _) => []
  | .optional s, some v => s.singles v
  | .list s, (vs : List _) => vs.flatMap s.singles
  | .record _ fields, v => fields.singles v
  | .choice cases, v => cases.singles v
  | .word16, _ | .word32, _ | .text, _ | .uuid, _ => []

def Fields.singles : (fields : Fields) → fields.Value → List Single
  | .nil, _ => []
  | .cons _ _ s rest, (v, vs) => s.singles v ++ rest.singles vs

def Cases.singles : (cases : Cases) → cases.Value → List Single
  | .bare _ _, .inl () => []
  | .bare _ rest, .inr v => rest.singles v
  | .carrying _ s _, .inl v => s.singles v
  | .carrying _ _ rest, .inr v => rest.singles v

end

/-- The names of the fields, in order. -/
def Fields.names : Fields → List String
  | .nil => []
  | .cons name _ _ rest => name :: rest.names

/-- Whether no value of the shape is printed as null. -/
def Shape.neverNull : Shape → Bool
  | .single | .optional _ => false
  | .word16 | .word32 | .text | .uuid | .list _ | .record _ _ | .choice _ => true

mutual

/-- Whether fields and cases go by different names and only missing values are printed as null
where a value may be missing. -/
def Shape.readable : Shape → Bool
  | .optional s => s.neverNull && s.readable
  | .list s => s.readable
  | .record _ fields => fields.names.Nodup && fields.readable
  | .choice cases => cases.names.Nodup && cases.readable
  | .word16 | .word32 | .single | .text | .uuid => true

def Fields.readable : Fields → Bool
  | .nil => true
  | .cons _ _ s rest => s.readable && rest.readable

def Cases.readable : Cases → Bool
  | .nil => true
  | .bare _ rest => rest.readable
  | .carrying _ s rest => s.readable && rest.readable

end

/-- All fields found. -/
def Fields.filled : (fields : Fields) → fields.Value → fields.Slots
  | .nil, () => ()
  | .cons _ _ _ rest, (v, vs) => (some v, rest.filled vs)

theorem Fields.length_toEntries (fields : Fields) (v : fields.Value) :
    (fields.toEntries v).length = fields.names.length := by
  cases fields with
  | nil => rfl
  | cons name omittable s rest => exact congrArg (· + 1) (rest.length_toEntries v.2)

theorem Fields.complete_filled (fields : Fields) (v : fields.Value) :
    fields.complete (fields.filled v) = .ok v := by
  cases fields with
  | nil => rfl
  | cons name omittable s rest =>
    obtain ⟨v, vs⟩ := v
    simp only [filled, complete, Option.orElse_some, rest.complete_filled vs]
    rfl

namespace Cases

/-- The name of a case. -/
def label : (cases : Cases) → cases.Value → String
  | .bare name _, .inl () => name
  | .bare _ rest, .inr v => rest.label v
  | .carrying name _ _, .inl _ => name
  | .carrying _ _ rest, .inr v => rest.label v

/-- What is printed beside the name of a case, if it carries something. -/
def payload? : (cases : Cases) → cases.Value → Option Json
  | .bare _ _, .inl () => none
  | .bare _ rest, .inr v => rest.payload? v
  | .carrying _ s _, .inl v => some (s.toJson v)
  | .carrying _ _ rest, .inr v => rest.payload? v

theorem toJson_eq (cases : Cases) (v : cases.Value) :
    cases.toJson v =
      match cases.payload? v with
      | none => .text (cases.label v)
      | some j => .object [(cases.label v, j)] := by
  match cases, v with
  | .bare _ _, .inl () => simp [toJson, payload?, label]
  | .bare _ rest, .inr v => simp [toJson, payload?, label, rest.toJson_eq v]
  | .carrying _ s _, .inl v => simp [toJson, payload?, label]
  | .carrying _ _ rest, .inr v => simp [toJson, payload?, label, rest.toJson_eq v]

theorem label_mem_names (cases : Cases) (v : cases.Value) : cases.label v ∈ cases.names := by
  match cases, v with
  | .bare _ _, .inl () => exact List.mem_cons_self
  | .bare name rest, .inr v => exact List.mem_cons_of_mem name (rest.label_mem_names v)
  | .carrying _ _ _, .inl v => exact List.mem_cons_self
  | .carrying name _ rest, .inr v => exact List.mem_cons_of_mem name (rest.label_mem_names v)

theorem label_ne {name : String} {rest : Cases} (hnames : (name :: rest.names).Nodup)
    (v : rest.Value) : rest.label v ≠ name := by
  rintro rfl
  exact (List.nodup_cons.mp hnames).1 (rest.label_mem_names v)

/-- A case that carries nothing is found by its name, and there is no number in it. -/
theorem ofName_label (cases : Cases) (hnames : cases.names.Nodup) (v : cases.Value)
    (hbare : cases.payload? v = none) (unknown : Error) :
    cases.ofName unknown (cases.label v) = .ok v ∧ cases.singles v = [] := by
  match cases, v with
  | .bare name rest, .inl () =>
    exact ⟨if_pos rfl, rfl⟩
  | .bare name rest, .inr v =>
    rw [names] at hnames
    obtain ⟨hname, hsingles⟩ := rest.ofName_label hnames.of_cons v hbare unknown
    rw [label]
    refine ⟨(if_neg (label_ne hnames v)).trans ?_, hsingles⟩
    rw [hname]
    rfl
  | .carrying name s rest, .inl v => cases hbare
  | .carrying name s rest, .inr v =>
    rw [names] at hnames
    obtain ⟨hname, hsingles⟩ := rest.ofName_label hnames.of_cons v hbare unknown
    rw [label]
    refine ⟨(if_neg (label_ne hnames v)).trans ?_, hsingles⟩
    rw [hname]
    rfl

end Cases

/-- Null is printed only for missing values and for numbers that are not finite. -/
theorem Shape.toJson_ne_null {s : Shape} (h : s.neverNull) (v : s.Value) : s.toJson v ≠ .null := by
  intro hnull
  cases s with
  | single => cases h
  | optional s => cases h
  | record title fields =>
    rw [Shape.toJson] at hnull
    split_ifs at hnull
  | choice cases =>
    have htext := cases.toJson_eq v
    rw [show cases.toJson v = .null from hnull] at htext
    split at htext <;> cases htext
  | word16 => cases hnull
  | word32 => cases hnull
  | text => cases hnull
  | uuid => cases hnull
  | list s => cases hnull

namespace Fields

variable {σ : Type}

/-- Entering a field among all fields found comes to entering it among the given ones. -/
def EnteredBy (fields : Fields) (entry : String → σ → Reader σ) (put : fields.Slots → σ) : Prop :=
  ∀ key ∈ fields.names, ∀ slots,
    entry key (put slots) = (do return put (← fields.readEntry key slots))

variable {name : String} {omittable : Bool} {s : Shape} {rest : Fields}
  {entry : String → σ → Reader σ} {put : (Fields.cons name omittable s rest).Slots → σ}

theorem EnteredBy.first (h : (Fields.cons name omittable s rest).EnteredBy entry put)
    (slots : rest.Slots) :
    entry name (put (none, slots)) = (do symbol ':'; return put (some (← s.readJson), slots)) := by
  have hthis : (Fields.cons name omittable s rest).readEntry name (none, slots) =
      (do symbol ':'; return (some (← s.readJson), slots)) := if_pos rfl
  refine (h name List.mem_cons_self _).trans ?_
  rw [hthis]
  exact return_symbol_return s.readJson (fun v => (some v, slots)) put ':'

/-- The field found is set aside, and the later ones are entered beside it. -/
theorem EnteredBy.later (h : (Fields.cons name omittable s rest).EnteredBy entry put)
    (hnames : (name :: rest.names).Nodup) (v : s.Value) :
    rest.EnteredBy entry fun slots => put (some v, slots) := by
  intro key hkey slots
  have hne : key ≠ name := by
    rintro rfl
    exact (List.nodup_cons.mp hnames).1 hkey
  have hother : (Fields.cons name omittable s rest).readEntry key (some v, slots) =
      (do return (some v, ← rest.readEntry key slots)) := if_neg hne
  refine (h key (List.mem_cons_of_mem name hkey) _).trans ?_
  rw [hother]
  exact return_return (rest.readEntry key slots) (fun slots => (some v, slots)) put

end Fields

/-! ### Records and choices

What is known of the parts gives what is known of the whole: the characters around the parts lead
the steps of reading to them. -/

section Parts

variable {title : Title} {fields : Fields} {v : fields.Value} {rest : List Char}

theorem rereads_array (htitle : title.byName = false)
    (h : Rereads (fields.singles v) v (']' :: rest)
      (fields.readElements (fun index => .tooShort index title fields.count) 0 true
        (itemsText true (fields.toItems v) ++ rest))) :
    Rereads (fields.singles v) v rest
      ((Shape.record title fields).readJson
        (((Shape.record title fields).toJson v).compact ++ rest)) := by
  have htext : (Shape.record title fields).toJson v = .array (fields.toItems v) :=
    if_neg (Bool.eq_false_iff.mp htitle)
  have hread : Rereads (fields.singles v) v rest
      ((do
        let v ← fields.readElements (fun index => .tooShort index title fields.count) 0 true
        symbol ']'
        return v) (itemsText true (fields.toItems v) ++ rest)) :=
    h.bind_ok (f := id) fun _ => bind_of_ok (symbol_cons rfl rest)
  rw [htext, compact, compactItems_eq_itemsText]
  exact hread

theorem rereads_object (htitle : title.byName)
    (h : ∀ limit, fields.names.length < limit →
      Rereads (fields.singles v) (fields.filled v) rest
        (entries (fun key slots => fields.readEntry key slots) limit true fields.noSlots
          (entriesText true (fields.toEntries v) ++ rest))) :
    Rereads (fields.singles v) v rest
      ((Shape.record title fields).readJson
        (((Shape.record title fields).toJson v).compact ++ rest)) := by
  have htext : (Shape.record title fields).toJson v = .object (fields.toEntries v) :=
    if_pos htitle
  have hlimit := length_lt_limit_entriesText true (fields.toEntries v) rest
  rw [fields.length_toEntries] at hlimit
  have hread := (h _ hlimit).convert (fields.complete_filled v)
  rw [htext, compact, compactEntries_eq_entriesText]
  exact Eq.mpr (congrArg _ (peek_brace htitle _)) hread

variable {cases : Cases} {w : cases.Value}

theorem rereads_name (hnames : cases.names.Nodup) (hbare : cases.payload? w = none) :
    Rereads (cases.singles w) w rest
      ((Shape.choice cases).readJson ((cases.toJson w).compact ++ rest)) := by
  obtain ⟨hname, hsingles⟩ :=
    cases.ofName_label hnames w hbare (.unknownCase (cases.label w) cases.names)
  have hread : (do
        let name ← readString
        cases.ofName (.unknownCase name cases.names) name : Reader cases.Value)
      (quotedText (cases.label w) ++ rest) = .ok (w, rest) := by
    rw [bind_of_ok (readString_quotedText _ rest), hname]
    rfl
  rw [cases.toJson_eq, hbare, hsingles]
  exact .of_eq hread

theorem rereads_tagged {j : Json} (hj : cases.payload? w = some j)
    (h : Rereads (cases.singles w) w ('\x7d' :: rest)
      (cases.readJson (.unknownCase (cases.label w) cases.names) (cases.label w)
        (':' :: (j.compact ++ '\x7d' :: rest)))) :
    Rereads (cases.singles w) w rest
      ((Shape.choice cases).readJson ((cases.toJson w).compact ++ rest)) := by
  have hread : Rereads (cases.singles w) w rest
      ((do
        let name ← readString
        let v ← cases.readJson (.unknownCase name cases.names) name
        symbol '\x7d'
        return v : Reader cases.Value)
      (quotedText (cases.label w) ++ ':' :: (j.compact ++ '\x7d' :: rest))) :=
    .after (readString_quotedText _ _)
      (h.bind_ok (f := id) fun _ => bind_of_ok (symbol_cons rfl rest))
  rw [cases.toJson_eq, hj, compact, compactEntries]
  simp only [List.append_assoc, List.cons_append, List.nil_append]
  exact hread

end Parts

mutual

/-- A value is read back from its text, whatever follows. -/
theorem Shape.rereads_toJson (s : Shape) (hs : s.readable) (v : s.Value) {rest : List Char}
    (hrest : Delimited rest) :
    Rereads (s.singles v) v rest (s.readJson ((s.toJson v).compact ++ rest)) := by
  match s, v with
  | .word16, (n : UInt16) =>
    have hn := readNatural_toDigits "u16" n.toNat_lt (by decide) hrest
    refine .of_eq ((bind_of_ok hn).trans ?_)
    rw [UInt16.ofNat_toNat]
    rfl
  | .word32, (n : UInt32) =>
    have hn := readNatural_toDigits "u32" n.toNat_lt (by decide) hrest
    refine .of_eq ((bind_of_ok hn).trans ?_)
    rw [UInt32.ofNat_toNat]
    rfl
  | .single, (x : Single) => exact rereads_single x hrest
  | .text, (t : String) => exact .of_eq (readText_quotedText "a string" t rest)
  | .uuid, (id : Uuid) =>
    have hid := readText_quotedText "a formatted UUID string" id.toText rest
    refine .of_eq ((bind_of_ok hid).trans ?_)
    rw [Uuid.ofText?_toText]
    rfl
  | .optional s, (none : Option _) => exact .of_eq rfl
  | .optional s, some v =>
    simp only [Shape.readable, Bool.and_eq_true] at hs
    exact rereads_some (s.toJson_ne_null hs.1 v) (s.rereads_toJson hs.2 v hrest)
  | .list s, (vs : List _) =>
    have hlimit := length_lt_limit_itemsText true (vs.map s.toJson) rest
    rw [List.length_map] at hlimit
    rw [Shape.readable] at hs
    rw [Shape.singles, Shape.toJson, compact, compactItems_eq_itemsText]
    exact rereads_elements (fun v _ rest hrest => s.rereads_toJson hs v hrest) true rest hlimit
  | .record title fields, (v : fields.Value) =>
    simp only [Shape.readable, Bool.and_eq_true, decide_eq_true_eq] at hs
    -- Fields are read in order from an array, but found by name in an object.
    cases htitle : title.byName with
    | false => exact rereads_array htitle (fields.rereads_items hs.2 v _ 0 true rest)
    | true =>
      have hentered : fields.EnteredBy (fun key slots => fields.readEntry key slots) id :=
        fun key _ slots => (bind_pure (fields.readEntry key slots)).symm
      exact rereads_object htitle fun limit hlimit =>
        fields.rereads_entries hs.2 hs.1 v hentered true rest hlimit
  | .choice cases, (v : cases.Value) =>
    simp only [Shape.readable, Bool.and_eq_true, decide_eq_true_eq] at hs
    cases hpayload : cases.payload? v with
    | none => exact rereads_name hs.1 hpayload
    | some j =>
      exact rereads_tagged hpayload (cases.rereads_payload hs.2 hs.1 v hpayload _ (.brace rest))

/-- The fields of a record are read back in their places. -/
theorem Fields.rereads_items (fields : Fields) (hs : fields.readable) (v : fields.Value)
    (tooShort : Nat → Error) (index : Nat) (first : Bool) (rest : List Char) :
    Rereads (fields.singles v) v (']' :: rest)
      (fields.readElements tooShort index first
        (itemsText first (fields.toItems v) ++ rest)) := by
  match fields, v with
  | .nil, () => exact .of_eq rfl
  | .cons name omittable s more, (v, vs) =>
    simp only [Fields.readable, Bool.and_eq_true] at hs
    have hmore := more.rereads_items hs.2 vs tooShort (index + 1) false rest
    have hfirst := s.rereads_toJson hs.1 v (delimited_itemsText (more.toItems vs) rest)
    have htext : itemsText first ((Fields.cons name omittable s more).toItems (v, vs)) ++ rest =
        separator first ++
          ((s.toJson v).compact ++ (itemsText false (more.toItems vs) ++ rest)) := by
      simp [Fields.toItems, itemsText]
    rw [htext]
    refine .after (nextElement_item first (s.toJson v) _) ?_
    exact hfirst.bind (f := fun w => (w, vs)) fun w => hmore.map (w, ·)

/-- The fields of a record are read back under their names, beside those that were read before. -/
theorem Fields.rereads_entries (fields : Fields) (hs : fields.readable)
    (hnames : fields.names.Nodup) (v : fields.Value) {σ : Type} {entry : String → σ → Reader σ}
    {put : fields.Slots → σ} (hentered : fields.EnteredBy entry put) (first : Bool)
    (rest : List Char) {limit : Nat} (hlimit : fields.names.length < limit) :
    Rereads (fields.singles v) (put (fields.filled v)) rest
      (entries entry limit first (put fields.noSlots)
        (entriesText first (fields.toEntries v) ++ rest)) := by
  obtain ⟨limit, rfl⟩ := Nat.exists_eq_add_one_of_ne_zero (Nat.ne_zero_of_lt hlimit)
  match fields, v with
  | .nil, () => exact .after (nextKey_end first rest) (.of_eq rfl)
  | .cons name omittable s more, (v, vs) =>
    simp only [Fields.readable, Bool.and_eq_true] at hs
    rw [Fields.names] at hnames
    have hvalue := s.rereads_toJson hs.1 v (delimited_entriesText (more.toEntries vs) rest)
    have hmore (w : s.Value) := more.rereads_entries hs.2 hnames.of_cons vs
      (hentered.later hnames w) false rest (Nat.lt_of_succ_lt_succ hlimit)
    have htext : entriesText first ((Fields.cons name omittable s more).toEntries (v, vs)) ++ rest =
        separator first ++ (quotedText name ++
          ':' :: ((s.toJson v).compact ++ (entriesText false (more.toEntries vs) ++ rest))) := by
      simp [Fields.toEntries, entriesText]
    rw [htext]
    exact rereads_entry (hentered.first more.noSlots) hvalue hmore first

/-- What a case carries is read back under the name of the case. -/
theorem Cases.rereads_payload (cases : Cases) (hs : cases.readable) (hnames : cases.names.Nodup)
    (v : cases.Value) {j : Json} (hj : cases.payload? v = some j) (unknown : Error)
    {rest : List Char} (hrest : Delimited rest) :
    Rereads (cases.singles v) v rest
      (cases.readJson unknown (cases.label v) (':' :: (j.compact ++ rest))) := by
  match cases, v with
  | .bare name more, .inl () => cases hj
  | .bare name more, .inr v =>
    rw [Cases.names] at hnames
    rw [Cases.readable] at hs
    have hmore := more.rereads_payload hs hnames.of_cons v hj unknown hrest
    have hother : (Cases.bare name more).readJson unknown (more.label v) =
        (do return .inr (← more.readJson unknown (more.label v))) :=
      if_neg (Cases.label_ne hnames v)
    exact Eq.mpr (congrArg _ (congrFun hother _)) (hmore.map (@Sum.inr Unit more.Value))
  | .carrying name s more, .inl v =>
    simp only [Cases.readable, Bool.and_eq_true] at hs
    cases hj
    have hthis : (Cases.carrying name s more).readJson unknown name =
        (do symbol ':'; return .inl (← s.readJson)) := if_pos rfl
    have hvalue := (s.rereads_toJson hs.1 v hrest).map (@Sum.inl s.Value more.Value)
    exact Eq.mpr (congrArg _ (congrFun hthis _)) (hvalue.after (symbol_cons rfl _))
  | .carrying name s more, .inr v =>
    rw [Cases.names] at hnames
    simp only [Cases.readable, Bool.and_eq_true] at hs
    have hmore := more.rereads_payload hs.2 hnames.of_cons v hj unknown hrest
    have hother : (Cases.carrying name s more).readJson unknown (more.label v) =
        (do return .inr (← more.readJson unknown (more.label v))) :=
      if_neg (Cases.label_ne hnames v)
    exact Eq.mpr (congrArg _ (congrFun hother _)) (hmore.map (@Sum.inr s.Value more.Value))

end

namespace Json

variable {α : Type} [HasShape α]

/-- The floating-point numbers in a message. -/
def singles (a : α) : List Single := (HasShape.shape α).singles (HasShape.toValue a)

theorem rereads_ofMessage (hs : (HasShape.shape α).readable) (a : α) :
    Rereads (singles a) (HasShape.toValue a) []
      ((HasShape.shape α).readJson (ofMessage a).compact) := by
  have hread := (HasShape.shape α).rereads_toJson hs (HasShape.toValue a) .nil
  rwa [List.append_nil] at hread

theorem parse_write (hs : (HasShape.shape α).readable) (a : α)
    (h : ∀ x ∈ singles a, x.ReadsBack) : parse (write a) = .ok a := by
  have hread := rereads_ofMessage hs a
  generalize hresult : (HasShape.shape α).readJson (ofMessage a).compact = result at hread
  cases hread with
  | error hbad =>
    obtain ⟨x, hx, hbad⟩ := hbad
    exact absurd (h x hx) hbad
  | ok _ hsame =>
    rw [hsame h] at hresult
    exact (parse_of_ok hresult).trans (congrArg _ (HasShape.ofValue_toValue a))

theorem parse_write_error (hs : (HasShape.shape α).readable) (a : α)
    (h : ∃ x ∈ singles a, x.isFinite = false) :
    ∃ e, (parse (write a) : Except Error α) = .error e := by
  have hread := rereads_ofMessage hs a
  generalize hresult : (HasShape.shape α).readJson (ofMessage a).compact = result at hread
  cases hread with
  | error => exact ⟨_, parse_of_error hresult⟩
  | ok hfinite =>
    obtain ⟨x, hx, hnot⟩ := h
    rw [hfinite x hx] at hnot
    cases hnot

end Json

end Whiteboard
