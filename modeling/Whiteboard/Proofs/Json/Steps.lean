import Whiteboard.Proofs.Json.Numbers
import Whiteboard.Proofs.Json.Strings

/-!
# Steps of reading JSON

Nothing that is written without spaces begins with a blank, so each step of reading finds at the
front of the text the character that decides what it does.
-/

namespace Whiteboard.Json

/-! ### Composing steps -/

theorem bind_of_ok {α β : Type} {step : Reader α} {next : α → Reader β} {cs rest : List Char}
    {a : α} (h : step cs = .ok (a, rest)) : (step >>= next) cs = next a rest := by
  change (step cs >>= fun p => next p.1 p.2) = next a rest
  rw [h]
  rfl

theorem bind_of_error {α β : Type} {step : Reader α} {next : α → Reader β} {cs : List Char}
    {e : Error} (h : step cs = .error e) : (step >>= next) cs = .error e := by
  change (step cs >>= fun p => next p.1 p.2) = .error e
  rw [h]
  rfl

section Return

variable {α β γ : Type} (step : Reader α) (f : α → β) (g : β → γ)

theorem return_return :
    (do return g (← (do return f (← step) : Reader β)) : Reader γ) =
      (do return g (f (← step))) := by
  simp only [bind_assoc, pure_bind]

theorem return_symbol_return (c : Char) :
    (do return g (← (do symbol c; return f (← step) : Reader β)) : Reader γ) =
      (do symbol c; return g (f (← step))) := by
  simp only [bind_assoc, pure_bind]

end Return

/-! ### The next character -/

/-- Whether a written value may begin with a character. -/
def opensValue (c : Char) : Bool := startsNumber c || c ∈ ['n', 't', 'f', '"', '[', '\x7b']

theorem not_blank_of_opensValue {c : Char} (h : opensValue c) : isBlank c = false := by
  rw [Bool.eq_false_iff]
  intro hblank
  simp only [isBlank, Bool.or_eq_true, decide_eq_true_eq] at hblank
  rcases hblank with ((rfl | rfl) | rfl) | rfl <;> cases h

theorem peek_cons {c : Char} (h : isBlank c = false) (cs : List Char) :
    peek (c :: cs) = .ok (some c, c :: cs) := by
  simp [peek, skipBlanks, h]

theorem symbol_cons {c : Char} (h : isBlank c = false) (cs : List Char) :
    symbol c (c :: cs) = .ok ((), cs) := by
  rw [symbol, bind_of_ok (peek_cons h cs), if_pos rfl]
  rfl

/-- An object is taken for a record if the fields of the record go by name. -/
theorem peek_brace {α : Type} {items entries other : Reader α} {byName : Bool} (h : byName)
    (cs : List Char) :
    (do
      let next ← peek
      if next = some '[' then items
      else if next = some '\x7b' ∧ byName then entries
      else other : Reader α) ('\x7b' :: cs) = entries ('\x7b' :: cs) := by
  rw [bind_of_ok (peek_cons rfl cs)]
  simp [h]

theorem readString_quotedText (s : String) (rest : List Char) :
    readString (quotedText s ++ rest) = .ok (s, rest) := by
  have hbody : reading stringBody? (escaped s ++ ['"'] ++ rest) = .ok (s.toList, rest) := by
    rw [reading, List.append_assoc, List.singleton_append, stringBody?_escaped]
  change (do return String.ofList (← reading stringBody?) : Reader String)
    (escaped s ++ ['"'] ++ rest) = _
  rw [bind_of_ok hbody, String.ofList_toList]
  rfl

theorem readText_quotedText (expected s : String) (rest : List Char) :
    readText expected (quotedText s ++ rest) = .ok (s, rest) := by
  have hpeek : peek (quotedText s ++ rest) = .ok (some '"', quotedText s ++ rest) :=
    peek_cons rfl _
  rw [readText, bind_of_ok hpeek, if_pos rfl, readString_quotedText]

theorem readNumber_cons {c : Char} (h : startsNumber c) (expected : String) (cs : List Char) :
    readNumber expected (c :: cs) = reading number? (c :: cs) := by
  have hopens : opensValue c := by simp [opensValue, h]
  rw [readNumber, bind_of_ok (peek_cons (not_blank_of_opensValue hopens) cs)]
  simp [h]

/-! ### Written values -/

/-- How a written value begins. Only null begins with its first letter. -/
theorem compact_eq_cons (j : Json) :
    ∃ c cs, j.compact = c :: cs ∧ opensValue c ∧ (c = 'n' → j = .null) := by
  have hnumber {c : Char} (hc : startsNumber c) : opensValue c ∧ c ≠ 'n' := by
    refine ⟨by simp [opensValue, hc], ?_⟩
    rintro rfl
    cases hc
  cases j with
  | null => exact ⟨'n', _, rfl, rfl, fun _ => rfl⟩
  | boolean b => cases b <;> exact ⟨_, _, rfl, rfl, nofun⟩
  | natural n =>
    obtain ⟨c, cs, hcons, hc⟩ := toDigits_eq_cons n
    obtain ⟨hopens, hn⟩ := hnumber hc
    exact ⟨c, cs, hcons, hopens, fun h => absurd h hn⟩
  | single x =>
    obtain ⟨c, cs, hcons, hc⟩ := render_eq_cons layout x
    obtain ⟨hopens, hn⟩ := hnumber hc
    exact ⟨c, cs, hcons, hopens, fun h => absurd h hn⟩
  | text s => exact ⟨'"', _, rfl, rfl, nofun⟩
  | array items => exact ⟨'[', _, rfl, rfl, nofun⟩
  | object entries => exact ⟨'\x7b', _, rfl, rfl, nofun⟩

/-- The comma before an item or entry that is not the first. -/
def separator (first : Bool) : List Char := if first then [] else [',']

/-- The items of an array that remain to be read, up to its closing bracket. -/
def itemsText (first : Bool) : List Json → List Char
  | [] => [']']
  | item :: rest => separator first ++ (item.compact ++ itemsText false rest)

/-- The entries of an object that remain to be read, up to its closing brace. -/
def entriesText (first : Bool) : List (String × Json) → List Char
  | [] => ['\x7d']
  | (key, value) :: rest =>
    separator first ++ (quotedText key ++ ':' :: (value.compact ++ entriesText false rest))

theorem compactItems_eq_itemsText (items : List Json) : compactItems items = itemsText true items := by
  induction items with
  | nil => simp [compactItems, itemsText]
  | cons item rest ih =>
    cases rest with
    | nil => simp [compactItems, itemsText, separator]
    | cons next rest => simp_all [compactItems, itemsText, separator]

theorem compactEntries_eq_entriesText (entries : List (String × Json)) :
    compactEntries entries = entriesText true entries := by
  induction entries with
  | nil => simp [compactEntries, entriesText]
  | cons entry rest ih =>
    cases rest with
    | nil => simp [compactEntries, entriesText, separator]
    | cons next rest => simp_all [compactEntries, entriesText, separator]

theorem delimited_itemsText (items : List Json) (rest : List Char) :
    Delimited (itemsText false items ++ rest) := by
  cases items with
  | nil => exact .bracket rest
  | cons item items => exact .comma _

theorem delimited_entriesText (entries : List (String × Json)) (rest : List Char) :
    Delimited (entriesText false entries ++ rest) := by
  cases entries with
  | nil => exact .brace rest
  | cons entry entries => exact .comma _

/-- The text of an array is longer than the array, so the limit taken from it suffices. -/
theorem length_lt_limit_itemsText (first : Bool) (items : List Json) (rest : List Char) :
    items.length < (itemsText first items ++ rest).length + 1 := by
  induction items generalizing first with
  | nil => simp [itemsText]
  | cons item items ih =>
    obtain ⟨c, cs, hcons, -⟩ := compact_eq_cons item
    have hmore := ih false
    simp only [itemsText, hcons, List.length_append, List.length_cons] at hmore ⊢
    omega

theorem length_lt_limit_entriesText (first : Bool) (entries : List (String × Json))
    (rest : List Char) : entries.length < (entriesText first entries ++ rest).length + 1 := by
  induction entries generalizing first with
  | nil => simp [entriesText]
  | cons entry entries ih =>
    have hmore := ih false
    simp only [entriesText, List.length_append, List.length_cons] at hmore ⊢
    omega

/-! ### Separators -/

theorem nextElement_item (first : Bool) (j : Json) (rest : List Char) :
    nextElement first (separator first ++ (j.compact ++ rest)) = .ok (true, j.compact ++ rest) := by
  obtain ⟨c, cs, hcons, hopens, -⟩ := compact_eq_cons j
  have hbracket : c ≠ ']' := by
    rintro rfl
    cases hopens
  have hpeek := peek_cons (not_blank_of_opensValue hopens) (cs ++ rest)
  rw [hcons, List.cons_append]
  cases first with
  | true =>
    change nextElement true (c :: (cs ++ rest)) = _
    rw [nextElement, bind_of_ok hpeek]
    simp only [hbracket, if_false, if_true]
    rfl
  | false =>
    change nextElement false (',' :: c :: (cs ++ rest)) = _
    have hadvance : advance (',' :: c :: (cs ++ rest)) = .ok ((), c :: (cs ++ rest)) := rfl
    rw [nextElement, bind_of_ok (peek_cons rfl _)]
    simp only [Char.reduceEq, Bool.false_eq_true, if_false, if_true]
    rw [bind_of_ok hadvance, bind_of_ok hpeek]
    simp only [hbracket, if_false]
    rfl

theorem nextElement_end (first : Bool) (rest : List Char) :
    nextElement first (']' :: rest) = .ok (false, ']' :: rest) := by
  rw [nextElement, bind_of_ok (peek_cons rfl _)]
  rfl

theorem nextKey_entry (first : Bool) (key : String) (rest : List Char) :
    nextKey first (separator first ++ (quotedText key ++ rest)) = .ok (some key, rest) := by
  have hkey : (do return some (← readString) : Reader (Option String)) (quotedText key ++ rest) =
      .ok (some key, rest) := by
    rw [bind_of_ok (readString_quotedText key rest)]
    rfl
  have hpeek : peek (quotedText key ++ rest) = .ok (some '"', quotedText key ++ rest) :=
    peek_cons rfl _
  cases first with
  | true =>
    change nextKey true (quotedText key ++ rest) = _
    rw [nextKey, bind_of_ok hpeek]
    exact hkey
  | false =>
    change nextKey false (',' :: (quotedText key ++ rest)) = _
    have hadvance : advance (',' :: (quotedText key ++ rest)) = .ok ((), quotedText key ++ rest) :=
      rfl
    rw [nextKey, bind_of_ok (peek_cons rfl _)]
    simp only [Char.reduceEq, Bool.false_eq_true, if_false, if_true]
    rw [bind_of_ok hadvance, bind_of_ok hpeek]
    exact hkey

theorem nextKey_end (first : Bool) (rest : List Char) :
    nextKey first ('\x7d' :: rest) = .ok (none, '\x7d' :: rest) := by
  rw [nextKey, bind_of_ok (peek_cons rfl _)]
  rfl

end Whiteboard.Json
