import Mathlib.Data.List.DropRight
import Whiteboard.Proofs.Json.Grammar
import Whiteboard.Proofs.Json.Rereading

/-!
# Reading past blanks

Between tokens there may be blanks, so what a step of reading leaves behind is known by its tokens
only. A step is described by a triple: the texts that it may meet, what it reads from each of
them, and the texts that may be left. Every step passes the blanks before the token that it looks
at, which leads from a spaced text to one with the token in front.
-/

namespace Whiteboard.Json

/-- From every text of the first kind the step reads the given value, and it leaves a text of the
second kind. -/
def Yields {α : Type} (before : List Char → Prop) (step : Reader α) (a : α)
    (after : List Char → Prop) : Prop :=
  ∀ cs, before cs → ∃ rest, after rest ∧ step cs = .ok (a, rest)

namespace Yields

variable {α β : Type} {before mid after : List Char → Prop} {step : Reader α} {a : α}

theorem bind {next : α → Reader β} {b : β} (h : Yields before step a mid)
    (hnext : Yields mid (next a) b after) : Yields before (step >>= next) b after := by
  intro cs hcs
  obtain ⟨mid, hmid, hstep⟩ := h cs hcs
  obtain ⟨rest, hrest, hread⟩ := hnext mid hmid
  exact ⟨rest, hrest, (bind_of_ok hstep).trans hread⟩

theorem pure (a : α) : Yields before (Pure.pure a) a before := fun cs hcs => ⟨cs, hcs, rfl⟩

theorem map (h : Yields before step a after) (f : α → β) :
    Yields before (do return f (← step)) (f a) after :=
  h.bind (.pure (f a))

/-- What is known without looking at the text. -/
theorem lift {result : Except Error α} (h : result = .ok a) :
    Yields before (liftM result) a before := by
  rintro cs hcs
  rw [h]
  exact ⟨cs, hcs, rfl⟩

theorem consequence {before' : List Char → Prop} (h : Yields before step a after)
    (hbefore : ∀ cs, before' cs → before cs) : Yields before' step a after :=
  fun cs hcs => h cs (hbefore cs hcs)

/-- A limit taken from the text exceeds what the text is known to be longer than. -/
theorem limit {next : Nat → Reader β} {b : β} {size : Nat}
    (hsize : ∀ cs, before cs → size ≤ cs.length)
    (h : ∀ bound, size < bound → Yields before (next bound) b after) :
    Yields before (Json.limit >>= next) b after := by
  intro cs hcs
  exact h (cs.length + 1) (Nat.lt_succ_of_le (hsize cs hcs)) cs hcs

end Yields

/-! ### Single tokens -/

/-- The token stands in front of the text, and the others follow it. -/
def Standing (token : Token) (tokens : List Token) (cs : List Char) : Prop :=
  ∃ rest, Spaced tokens rest ∧ cs = token ++ rest

/-- No blanks are needed. -/
theorem Standing.spaced {token : Token} {tokens : List Token} {cs : List Char}
    (h : Standing token tokens cs) : Spaced (token :: tokens) cs := by
  obtain ⟨rest, hrest, rfl⟩ := h
  change Spaced (token :: tokens) ([] ++ (token ++ rest))
  exact .cons (List.forall_mem_nil _) hrest

section Tokens

variable {tokens : List Token}

theorem yields_peek {c : Char} {token : Token} (hc : isBlank c = false) :
    Yields (Spaced ((c :: token) :: tokens)) peek (some c) (Standing (c :: token) tokens) := by
  intro cs hcs
  obtain ⟨rest, hrest, hfront, -⟩ := hcs.front hc
  refine ⟨c :: (token ++ rest), ⟨rest, hrest, rfl⟩, ?_⟩
  rw [peek, hfront]
  rfl

theorem yields_advance {c : Char} : Yields (Standing [c] tokens) advance () (Spaced tokens) := by
  rintro cs ⟨rest, hrest, rfl⟩
  exact ⟨rest, hrest, rfl⟩

theorem yields_symbol {c : Char} (hc : isBlank c = false) :
    Yields (Spaced ([c] :: tokens)) (symbol c) () (Spaced tokens) := by
  refine (yields_peek hc).bind ?_
  rw [if_pos rfl]
  exact yields_advance

/-- An object is taken for a record if the fields of the record go by name. -/
theorem yields_brace {α : Type} {items entries other : Reader α} {byName : Bool} (h : byName)
    {a : α} {after : List Char → Prop}
    (hentries : Yields (Standing ['\x7b'] tokens) entries a after) :
    Yields (Spaced (['\x7b'] :: tokens))
      (do
        let next ← peek
        if next = some '[' then items
        else if next = some '\x7b' ∧ byName then entries
        else other : Reader α) a after := by
  refine (yields_peek rfl).bind ?_
  rw [if_neg (by decide), if_pos ⟨rfl, h⟩]
  exact hentries

theorem yields_word (w : String) :
    Yields (Standing w.toList tokens) (word w) () (Spaced tokens) := by
  rintro cs ⟨rest, hrest, rfl⟩
  refine ⟨rest, hrest, ?_⟩
  rw [word, skipping, reading, afterWord?_append]
  rfl

/-- A string may be written in any way that stands for it. -/
theorem yields_readString {body : List Char} {s : String} (h : Denotes body s.toList) :
    Yields (Standing (quoted body) tokens) readString s (Spaced tokens) := by
  rintro cs ⟨rest, hrest, rfl⟩
  refine ⟨rest, hrest, ?_⟩
  have hbody : reading stringBody? (body ++ ['"'] ++ rest) = .ok (s.toList, rest) := by
    rw [reading, List.append_assoc, List.singleton_append, stringBody?_of_denotes h]
  change (do return String.ofList (← reading stringBody?) : Reader String)
    (body ++ ['"'] ++ rest) = _
  rw [bind_of_ok hbody, String.ofList_toList]
  rfl

theorem yields_readText {body : List Char} {s : String} (h : Denotes body s.toList)
    (expected : String) :
    Yields (Spaced (quoted body :: tokens)) (readText expected) s (Spaced tokens) := by
  refine (yields_peek rfl).bind ?_
  rw [if_pos rfl]
  exact yields_readString h

end Tokens

/-! ### Numbers -/

theorem bind_eq_bind {α β : Type} {step : Reader α} {next : α → Reader β} {cs cs' : List Char}
    (h : step cs = step cs') : (step >>= next) cs = (step >>= next) cs' := by
  change (step cs >>= fun p => next p.1 p.2) = step cs' >>= fun p => next p.1 p.2
  rw [h]

theorem peek_skipBlanks (cs : List Char) : peek (skipBlanks cs) = peek cs := by
  have hskip : skipBlanks (skipBlanks cs) = skipBlanks cs := List.dropWhile_idempotent _ cs
  rw [peek, peek, hskip]

theorem readNumber_skipBlanks (expected : String) (cs : List Char) :
    readNumber expected (skipBlanks cs) = readNumber expected cs :=
  bind_eq_bind (peek_skipBlanks cs)

section Numbers

variable {token : Token} {tokens : List Token}

/-- A number in front of a text is found behind blanks as well. -/
theorem yields_behind_blanks {α : Type} {step : Reader α} {a : α}
    (hblanks : ∀ cs, step (skipBlanks cs) = step cs)
    (hopens : ∃ c cs, token = c :: cs ∧ startsNumber c)
    (hread : ∀ rest, Delimited rest → step (token ++ rest) = .ok (a, rest))
    (htokens : Closing tokens) : Yields (Spaced (token :: tokens)) step a (Spaced tokens) := by
  intro cs hcs
  obtain ⟨c, more, rfl, hc⟩ := hopens
  have hblank : isBlank c = false := not_blank_of_opensValue (by simp [opensValue, hc])
  obtain ⟨rest, hrest, hfront, -⟩ := hcs.front hblank
  refine ⟨rest, hrest, ?_⟩
  rw [← hblanks, hfront]
  exact hread rest (hrest.delimited htokens)

theorem yields_readNatural (expected : String) {n bound : Nat} (h : n < bound)
    (hbound : bound ≤ maxWord64) (htokens : Closing tokens) :
    Yields (Spaced (Nat.toDigits 10 n :: tokens)) (readNatural bound expected) n (Spaced tokens) :=
  yields_behind_blanks (fun cs => bind_eq_bind (readNumber_skipBlanks expected cs))
    (toDigits_eq_cons n) (fun _ hrest => readNatural_toDigits expected h hbound hrest) htokens

theorem yields_readSingle {x : Single} (h : x.ReadsBack) (htokens : Closing tokens) :
    Yields (Spaced ((Shape.toJson .single x).compact :: tokens)) (readSingle "f32") x
      (Spaced tokens) := by
  have hback : ∀ y ∈ [x], y.ReadsBack := List.forall_mem_singleton.mpr h
  have hopens : ∃ c cs, (Shape.toJson .single x).compact = c :: cs ∧ startsNumber c := by
    rw [Shape.toJson, if_pos (isFinite_of_readsBack h)]
    exact render_eq_cons layout x
  exact yields_behind_blanks (fun cs => bind_eq_bind (readNumber_skipBlanks "f32" cs)) hopens
    (fun _ hrest => (rereads_single x hrest).eq_ok hback) htokens

end Numbers

/-! ### Values -/

/-- From the tokens the step reads the value, whatever follows. The first token tells that a value
begins. -/
structure ReadAs {α : Type} (step : Reader α) (a : α) (tokens : List Token) : Prop where
  /-- A value begins. -/
  opens : Opens tokens
  /-- The value is read. -/
  yields : ∀ after, Closing after → Yields (Spaced (tokens ++ after)) step a (Spaced after)

section Missing

variable {α : Type} {item : Reader α} {tokens : List Token}

theorem yields_none :
    Yields (Spaced (['n', 'u', 'l', 'l'] :: tokens))
      (do if (← peek) = some 'n' then word "null"; return none else return some (← item) :
        Reader (Option α)) none (Spaced tokens) := by
  refine (yields_peek rfl).bind ?_
  rw [if_pos rfl]
  exact (yields_word "null").bind (.pure none)

theorem yields_some {c : Char} {token : Token} {a : α} {after : List Char → Prop}
    (hopens : opensValue c) (hnull : c ≠ 'n')
    (h : Yields (Spaced ((c :: token) :: tokens)) item a after) :
    Yields (Spaced ((c :: token) :: tokens))
      (do if (← peek) = some 'n' then word "null"; return none else return some (← item) :
        Reader (Option α)) (some a) after := by
  refine (yields_peek (not_blank_of_opensValue hopens)).bind ?_
  rw [if_neg fun hc => hnull (Option.some.inj hc)]
  exact (h.consequence fun _ hcs => hcs.spaced).map some

end Missing

section Arrays

variable {tokens after : List Token}

theorem yields_nextElement_end (first : Bool) :
    Yields (Spaced ([']'] :: after)) (nextElement first) false (Standing [']'] after) := by
  refine (yields_peek rfl).bind ?_
  exact .pure false

/-- Another element follows, which stands behind a comma unless it is the first. -/
theorem yields_nextElement_item (first : Bool) (hopens : Opens tokens) :
    Yields (Spaced (comma first ++ tokens)) (nextElement first) true (Spaced tokens) := by
  obtain ⟨c, token, more, rfl, hc⟩ := hopens
  have hbracket : c ≠ ']' := by
    rintro rfl
    cases hc
  have hpeek : Yields (Spaced ((c :: token) :: more)) peek (some c) (Standing (c :: token) more) :=
    yields_peek (not_blank_of_opensValue hc)
  have hfound : Yields (Standing (c :: token) more) (pure true) true
      (Spaced ((c :: token) :: more)) := (Yields.pure true).consequence fun _ h => h.spaced
  cases first with
  | true =>
    refine hpeek.bind ?_
    simp only [hbracket, if_false, if_true]
    exact hfound
  | false =>
    refine (yields_peek rfl).bind ?_
    simp only [Char.reduceEq, Bool.false_eq_true, if_false, if_true]
    refine yields_advance.bind (hpeek.bind ?_)
    simp only [hbracket, if_false]
    exact hfound

/-- The items of an array are read one after another. -/
theorem yields_elements {α : Type} {item : Reader α} {as : List α} {items : List (List Token)}
    (h : List.Forall₂ (ReadAs item) as items) (first : Bool) {limit : Nat}
    (hlimit : items.length < limit) :
    Yields (Spaced (partTokens ']' first items ++ after)) (elements item limit first) as
      (Spaced after) := by
  induction h generalizing first limit with
  | nil =>
    obtain ⟨limit, rfl⟩ := Nat.exists_eq_add_one_of_ne_zero (Nat.ne_zero_of_lt hlimit)
    exact (yields_nextElement_end first).bind (yields_advance.bind (.pure []))
  | @cons a tokens as items ha _ ih =>
    obtain ⟨limit, rfl⟩ := Nat.exists_eq_add_one_of_ne_zero (Nat.ne_zero_of_lt hlimit)
    have hvalue := ha.yields _ (closing_partTokens (.bracket after) items)
    rw [partTokens_cons]
    exact (yields_nextElement_item first (ha.opens.append _)).bind
      (hvalue.bind ((ih false (Nat.lt_of_succ_lt_succ hlimit)).map (a :: ·)))

end Arrays

/-! ### Objects -/

/-- An entry of an object: its key, what stands between quotes for it, and the tokens of its
value. -/
structure Entry where
  /-- The key. -/
  key : String
  /-- The key as it is written. -/
  written : List Char
  /-- The tokens of the value. -/
  value : List Token
  /-- The key is written in a way that stands for it. -/
  denotes : Denotes written key.toList

/-- An entry whose key is written as it would be printed. -/
def Entry.plain (key : String) (value : List Token) : Entry :=
  ⟨key, escaped key, value, denotes_escaped key⟩

/-- The tokens of an entry. -/
def Entry.tokens (e : Entry) : List Token := entryTokens (e.written, e.value)

section Objects

variable {after : List Token}

theorem yields_nextKey_end (first : Bool) :
    Yields (Spaced (['\x7d'] :: after)) (nextKey first) none (Standing ['\x7d'] after) := by
  refine (yields_peek rfl).bind ?_
  exact .pure none

/-- Another entry follows, which stands behind a comma unless it is the first. -/
theorem yields_nextKey_entry (first : Bool) (e : Entry) :
    Yields (Spaced (comma first ++ (quoted e.written :: after))) (nextKey first) (some e.key)
      (Spaced after) := by
  have hpeek : Yields (Spaced (quoted e.written :: after)) peek (some '"')
      (Standing (quoted e.written) after) := yields_peek rfl
  have hkey : Yields (Standing (quoted e.written) after)
      (do return some (← readString) : Reader (Option String)) (some e.key) (Spaced after) :=
    (yields_readString e.denotes).map some
  cases first with
  | true => exact hpeek.bind hkey
  | false =>
    refine (yields_peek rfl).bind ?_
    simp only [Char.reduceEq, Bool.false_eq_true, if_false, if_true]
    exact yields_advance.bind (hpeek.bind hkey)

/-- The entries of an object are read one after another. Whatever holds of the entries to come and
of what was found before holds at the end, if each entry preserves it. -/
theorem yields_entries {σ : Type} {entry : String → σ → Reader σ} {P : List Entry → σ → Prop}
    (hentry : ∀ e es found, P (e :: es) found → ∃ found', P es found' ∧
      ∀ after, Closing after →
        Yields (Spaced ([':'] :: (e.value ++ after))) (entry e.key found) found' (Spaced after))
    {es : List Entry} {found : σ} (h : P es found) (first : Bool) {limit : Nat}
    (hlimit : es.length < limit) :
    ∃ found', P [] found' ∧
      Yields (Spaced (partTokens '\x7d' first (es.map Entry.tokens) ++ after))
        (entries entry limit first found) found' (Spaced after) := by
  induction es generalizing found first limit with
  | nil =>
    obtain ⟨limit, rfl⟩ := Nat.exists_eq_add_one_of_ne_zero (Nat.ne_zero_of_lt hlimit)
    exact ⟨found, h, (yields_nextKey_end first).bind (yields_advance.bind (.pure found))⟩
  | cons e es ih =>
    obtain ⟨limit, rfl⟩ := Nat.exists_eq_add_one_of_ne_zero (Nat.ne_zero_of_lt hlimit)
    obtain ⟨mid, hmid, hread⟩ := hentry e es found h
    obtain ⟨done, hdone, hmore⟩ := ih hmid false (Nat.lt_of_succ_lt_succ hlimit)
    refine ⟨done, hdone, ?_⟩
    rw [List.map_cons, partTokens_cons]
    exact (yields_nextKey_entry first e).bind
      ((hread _ (closing_partTokens (.brace after) _)).bind hmore)

end Objects

end Whiteboard.Json
