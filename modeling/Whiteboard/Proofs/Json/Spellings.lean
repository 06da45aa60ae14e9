import Mathlib.Data.List.Forall2
import Mathlib.Data.List.Perm.Basic
import Whiteboard.Proofs.Json.RoundTrip
import Whiteboard.Proofs.Json.Spacing

/-!
# The spellings of a value

A value may be written in many ways. Numbers have one form, but strings may be escaped, and a
record whose fields go by name may be an object with its entries in any order, among entries that
it does not know, or an array of its fields. What a field holds when it is left out need not be
written. The text that is printed for a value is one of these.
-/

namespace Whiteboard

open Whiteboard.Json

/-! ### Spellings -/

mutual

/-- The tokens with which a value may be written. An object for a record has one entry for each
field, unless the field stands for its value when it is absent. Other entries have keys of their
own and hold anything. -/
def Shape.Spells : (s : Shape) → s.Value → List Token → Prop
  | .word16, (n : UInt16), tokens => tokens = [Nat.toDigits 10 n.toNat]
  | .word32, (n : UInt32), tokens => tokens = [Nat.toDigits 10 n.toNat]
  | .single, (x : Single), tokens => tokens = [(Shape.toJson .single x).compact]
  | .text, (t : String), tokens => ∃ body, Denotes body t.toList ∧ tokens = [quoted body]
  | .uuid, (id : Uuid), tokens => ∃ body, Denotes body id.toText.toList ∧ tokens = [quoted body]
  | .optional _, (none : Option _), tokens => tokens = [['n', 'u', 'l', 'l']]
  | .optional s, some v, tokens => s.Spells v tokens
  | .list s, (vs : List _), tokens =>
    ∃ items, List.Forall₂ s.Spells vs items ∧ tokens = arrayTokens items
  | .record title fields, v, tokens =>
    (∃ items, fields.SpelledByItems v items ∧ tokens = arrayTokens items) ∨
      title.byName ∧ ∃ known unknown entries : List Entry, fields.SpelledByEntries v known ∧
        (∀ e ∈ unknown, e.key ∉ fields.names ∧ WellFormed e.value) ∧
        entries.Perm (known ++ unknown) ∧ tokens = objectTokens (entries.map Entry.tokens)
  | .choice cases, v, tokens =>
    ∃ body, Denotes body (cases.label v).toList ∧
      (cases.payload? v = none ∧ tokens = [quoted body] ∨
        ∃ payload, cases.Carries v payload ∧ tokens = objectTokens [entryTokens (body, payload)])

/-- The items of an array that holds the fields in order. At the end, omittable fields that are
empty may be missing. -/
def Fields.SpelledByItems : (fields : Fields) → fields.Value → List (List Token) → Prop
  | .nil, _, items => items = []
  | .cons _ omittable s rest, (v, vs), items =>
    (∃ item more, s.Spells v item ∧ rest.SpelledByItems vs more ∧ items = item :: more) ∨
      omittable ∧ s.empty? = some v ∧ rest.SpelledByItems vs [] ∧ items = []

/-- The entries of an object that belong to the fields, in the order of the fields. -/
def Fields.SpelledByEntries : (fields : Fields) → fields.Value → List Entry → Prop
  | .nil, _, entries => entries = []
  | .cons name omittable s rest, (v, vs), entries =>
    (∃ e more, e.key = name ∧ s.Spells v e.value ∧ rest.SpelledByEntries vs more ∧
        entries = e :: more) ∨
      s.absent? omittable = some v ∧ rest.SpelledByEntries vs entries

/-- The tokens of what a case carries. -/
def Cases.Carries : (cases : Cases) → cases.Value → List Token → Prop
  | .bare _ _, .inl (), _ => False
  | .bare _ rest, .inr v, tokens => rest.Carries v tokens
  | .carrying _ s _, .inl v, tokens => s.Spells v tokens
  | .carrying _ _ rest, .inr v, tokens => rest.Carries v tokens

end

/-- A number begins like a value, and not like null. -/
theorem Json.opens_number {cs : List Char} (h : ∃ c more, cs = c :: more ∧ startsNumber c) :
    ∃ c token more, [cs] = (c :: token) :: more ∧ opensValue c ∧ c ≠ 'n' := by
  obtain ⟨c, more, rfl, hc⟩ := h
  refine ⟨c, more, [], rfl, by simp [opensValue, hc], ?_⟩
  rintro rfl
  cases hc

/-- What is never printed as null does not begin like null in any spelling. -/
theorem Shape.opens_of_neverNull {s : Shape} (hs : s.neverNull) {v : s.Value} {tokens : List Token}
    (h : s.Spells v tokens) :
    ∃ c token more, tokens = (c :: token) :: more ∧ opensValue c ∧ c ≠ 'n' := by
  cases s with
  | single => cases hs
  | optional s => cases hs
  | word16 =>
    cases h
    exact opens_number (toDigits_eq_cons _)
  | word32 =>
    cases h
    exact opens_number (toDigits_eq_cons _)
  | text =>
    obtain ⟨body, -, rfl⟩ := h
    exact ⟨'"', _, _, rfl, rfl, by decide⟩
  | uuid =>
    obtain ⟨body, -, rfl⟩ := h
    exact ⟨'"', _, _, rfl, rfl, by decide⟩
  | list s =>
    obtain ⟨items, -, rfl⟩ := h
    exact ⟨'[', _, _, rfl, rfl, by decide⟩
  | record title fields =>
    rcases h with ⟨items, -, rfl⟩ | ⟨-, known, unknown, entries, -, -, -, rfl⟩
    · exact ⟨'[', _, _, rfl, rfl, by decide⟩
    · exact ⟨'\x7b', _, _, rfl, rfl, by decide⟩
  | choice cases =>
    obtain ⟨body, -, ⟨-, rfl⟩ | ⟨payload, -, rfl⟩⟩ := h
    · exact ⟨'"', _, _, rfl, rfl, by decide⟩
    · exact ⟨'\x7b', _, _, rfl, rfl, by decide⟩

/-- Every spelling begins like a value. -/
theorem Shape.opens_of_spells {s : Shape} (hs : s.readable) {v : s.Value} {tokens : List Token}
    (h : s.Spells v tokens) : Opens tokens := by
  have hvalue {s : Shape} (hs : s.neverNull) {v : s.Value} (h : s.Spells v tokens) :
      Opens tokens := by
    obtain ⟨c, token, more, heq, hc, -⟩ := opens_of_neverNull hs h
    exact ⟨c, token, more, heq, hc⟩
  cases s with
  | single =>
    cases h
    obtain ⟨c, cs, hcons, hopens, -⟩ := compact_eq_cons (Shape.toJson .single v)
    exact ⟨c, cs, [], by rw [hcons], hopens⟩
  | optional s =>
    simp only [Shape.readable, Bool.and_eq_true] at hs
    change Option s.Value at v
    cases v with
    | none =>
      cases h
      exact ⟨'n', _, _, rfl, rfl⟩
    | some v => exact hvalue hs.1 h
  | word16 => exact hvalue rfl h
  | word32 => exact hvalue rfl h
  | text => exact hvalue rfl h
  | uuid => exact hvalue rfl h
  | list => exact hvalue rfl h
  | record => exact hvalue rfl h
  | choice => exact hvalue rfl h

/-! ### Printed values -/

namespace Json

/-- The text of a value without spaces consists of the tokens, whatever follows. -/
def Printed (j : Json) (tokens : List Token) : Prop :=
  ∀ after rest, Spaced after rest → Spaced (tokens ++ after) (j.compact ++ rest)

/-- A key and a value as they are printed. -/
def PrintedEntry (entry : String × Json) (e : Entry) : Prop :=
  e.written = escaped entry.1 ∧ Printed entry.2 e.value

theorem Spaced.token {tokens : List Token} {cs : List Char} (h : Spaced tokens cs) (token : Token) :
    Spaced (token :: tokens) (token ++ cs) :=
  Standing.spaced ⟨cs, h, rfl⟩

theorem printed_token (j : Json) : Printed j [j.compact] := fun _ _ h => h.token j.compact

theorem Spaced.comma {tokens : List Token} {cs : List Char} (h : Spaced tokens cs) (first : Bool) :
    Spaced (comma first ++ tokens) (separator first ++ cs) := by
  cases first with
  | true => exact h
  | false => exact h.token [',']

theorem printed_array {js : List Json} {items : List (List Token)}
    (h : List.Forall₂ Printed js items) : Printed (.array js) (arrayTokens items) := by
  have hitems (first : Bool) (after : List Token) (rest : List Char) (hrest : Spaced after rest) :
      Spaced (partTokens ']' first items ++ after) (itemsText first js ++ rest) := by
    induction h generalizing first with
    | nil => exact hrest.token [']']
    | cons hitem _ ih =>
      rw [partTokens_cons, itemsText, List.append_assoc, List.append_assoc]
      exact (hitem _ _ (ih false)).comma first
  intro after rest hrest
  rw [compact, compactItems_eq_itemsText]
  exact (hitems true after rest hrest).token ['[']

theorem printed_object {js : List (String × Json)} {entries : List Entry}
    (h : List.Forall₂ PrintedEntry js entries) :
    Printed (.object js) (objectTokens (entries.map Entry.tokens)) := by
  have hentries (first : Bool) (after : List Token) (rest : List Char) (hrest : Spaced after rest) :
      Spaced (partTokens '\x7d' first (entries.map Entry.tokens) ++ after)
        (entriesText first js ++ rest) := by
    induction h generalizing first with
    | nil => exact hrest.token ['\x7d']
    | @cons entry e js entries hentry _ ih =>
      obtain ⟨key, j⟩ := entry
      obtain ⟨hkey, hvalue⟩ := hentry
      have hcolon := (hvalue _ _ (ih false)).token [':']
      have htext : entriesText first ((key, j) :: js) ++ rest =
          separator first ++
            (quotedText key ++ ([':'] ++ (j.compact ++ (entriesText false js ++ rest)))) := by
        simp [entriesText]
      rw [List.map_cons, Entry.tokens, partTokens_cons, hkey, htext]
      exact (hcolon.token (quotedText key)).comma first
  intro after rest hrest
  rw [compact, compactEntries_eq_entriesText]
  exact (hentries true after rest hrest).token ['\x7b']

end Json

mutual

/-- The text that is written for a value is one of its spellings. -/
theorem Shape.spells_toJson (s : Shape) (v : s.Value) :
    ∃ tokens, s.Spells v tokens ∧ Printed (s.toJson v) tokens := by
  match s, v with
  | .word16, (n : UInt16) => exact ⟨_, rfl, printed_token _⟩
  | .word32, (n : UInt32) => exact ⟨_, rfl, printed_token _⟩
  | .single, (x : Single) => exact ⟨_, rfl, printed_token _⟩
  | .text, (t : String) => exact ⟨_, ⟨_, denotes_escaped t, rfl⟩, printed_token (.text t)⟩
  | .uuid, (id : Uuid) =>
    exact ⟨_, ⟨_, denotes_escaped id.toText, rfl⟩, printed_token (.text id.toText)⟩
  | .optional _, (none : Option _) => exact ⟨_, rfl, printed_token .null⟩
  | .optional s, some v => exact s.spells_toJson v
  | .list s, (vs : List _) =>
    have hitems : ∃ items, List.Forall₂ s.Spells vs items ∧
        List.Forall₂ Printed (vs.map s.toJson) items := by
      induction vs with
      | nil => exact ⟨[], .nil, .nil⟩
      | cons v vs ih =>
        obtain ⟨item, hitem, hprinted⟩ := s.spells_toJson v
        obtain ⟨items, hitems, hprinted'⟩ := ih
        exact ⟨item :: items, .cons hitem hitems, .cons hprinted hprinted'⟩
    obtain ⟨items, hitems, hprinted⟩ := hitems
    exact ⟨_, ⟨items, hitems, rfl⟩, printed_array hprinted⟩
  | .record title fields, (v : fields.Value) =>
    cases htitle : title.byName with
    | false =>
      obtain ⟨items, hitems, hprinted⟩ := fields.spelledByItems_toItems v
      have hjson : (Shape.record title fields).toJson v = .array (fields.toItems v) :=
        if_neg (by simp [htitle])
      exact ⟨_, .inl ⟨items, hitems, rfl⟩, hjson ▸ printed_array hprinted⟩
    | true =>
      obtain ⟨entries, hentries, hprinted⟩ := fields.spelledByEntries_toEntries v
      have hjson : (Shape.record title fields).toJson v = .object (fields.toEntries v) :=
        if_pos htitle
      refine ⟨_, .inr ⟨htitle, entries, [], entries, hentries, by simp, by simp, rfl⟩, ?_⟩
      exact hjson ▸ printed_object hprinted
  | .choice cases, (v : cases.Value) =>
    have hjson : (Shape.choice cases).toJson v = _ := cases.toJson_eq v
    cases hpayload : cases.payload? v with
    | none =>
      rw [hpayload] at hjson
      exact ⟨_, ⟨_, denotes_escaped (cases.label v), .inl ⟨hpayload, rfl⟩⟩,
        hjson ▸ printed_token (.text (cases.label v))⟩
    | some j =>
      rw [hpayload] at hjson
      obtain ⟨payload, hcarries, hprinted⟩ := cases.carries_payload v hpayload
      have hobject : Printed (.object [(cases.label v, j)])
          (objectTokens ([Entry.plain (cases.label v) payload].map Entry.tokens)) :=
        printed_object (.cons ⟨rfl, hprinted⟩ .nil)
      exact ⟨_, ⟨_, denotes_escaped (cases.label v), .inr ⟨payload, hcarries, rfl⟩⟩,
        hjson ▸ hobject⟩

/-- The fields of a record without their names. -/
theorem Fields.spelledByItems_toItems (fields : Fields) (v : fields.Value) :
    ∃ items, fields.SpelledByItems v items ∧ List.Forall₂ Printed (fields.toItems v) items := by
  match fields, v with
  | .nil, () => exact ⟨[], rfl, .nil⟩
  | .cons name omittable s rest, (v, vs) =>
    obtain ⟨item, hitem, hprinted⟩ := s.spells_toJson v
    obtain ⟨items, hitems, hprinted'⟩ := rest.spelledByItems_toItems vs
    exact ⟨item :: items, .inl ⟨item, items, hitem, hitems, rfl⟩, .cons hprinted hprinted'⟩

/-- The fields of a record with their names. -/
theorem Fields.spelledByEntries_toEntries (fields : Fields) (v : fields.Value) :
    ∃ entries, fields.SpelledByEntries v entries ∧
      List.Forall₂ PrintedEntry (fields.toEntries v) entries := by
  match fields, v with
  | .nil, () => exact ⟨[], rfl, .nil⟩
  | .cons name omittable s rest, (v, vs) =>
    obtain ⟨value, hvalue, hprinted⟩ := s.spells_toJson v
    obtain ⟨entries, hentries, hprinted'⟩ := rest.spelledByEntries_toEntries vs
    exact ⟨.plain name value :: entries,
      .inl ⟨_, entries, rfl, hvalue, hentries, rfl⟩, .cons ⟨rfl, hprinted⟩ hprinted'⟩

/-- What a case carries. -/
theorem Cases.carries_payload (cases : Cases) (v : cases.Value) {j : Json}
    (hj : cases.payload? v = some j) :
    ∃ payload, cases.Carries v payload ∧ Printed j payload := by
  match cases, v with
  | .bare _ _, .inl () => cases hj
  | .bare _ rest, .inr v => exact rest.carries_payload v hj
  | .carrying _ s _, .inl v =>
    cases hj
    exact s.spells_toJson v
  | .carrying _ _ rest, .inr v => exact rest.carries_payload v hj

end

/-! ### Messages -/

namespace Json

variable {α : Type} [HasShape α]

/-- A text with which a message may be written, with any blanks between the tokens. -/
def Spelling (a : α) (text : String) : Prop :=
  ∃ tokens, (HasShape.shape α).Spells (HasShape.toValue a) tokens ∧ Spaced tokens text.toList

/-- The text that is written for a message is one of its spellings. -/
theorem spelling_write (a : α) : Spelling a (write a) := by
  obtain ⟨tokens, hspells, hprinted⟩ := (HasShape.shape α).spells_toJson (HasShape.toValue a)
  have htext := hprinted [] [] (.nil (List.forall_mem_nil _))
  rw [List.append_nil, List.append_nil] at htext
  exact ⟨tokens, hspells, by rwa [write, String.toList_ofList]⟩

end Json

end Whiteboard
