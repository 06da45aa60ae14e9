import Mathlib.Logic.Relation
import Whiteboard.Proofs.Json.Grammar

/-!
# Every value can be skipped

A field that a record does not know is passed over, whatever stands in it. Skipping goes step by
step, with the open brackets in a list, so the run over a value is put together from the runs over
its parts. Each step but the last takes some of the text, hence there are never too few steps.
-/

namespace Whiteboard.Json

/-! ### Single tokens -/

/-- A string may hold anything that may stand between quotes. -/
theorem skipString?_of_quotable {body : List Char} (h : Quotable body) (rest : List Char) :
    skipString? (body ++ '"' :: rest) = some rest := by
  induction h with
  | nil => rfl
  | plain hcontrol hquote hslash more ih =>
    have hplain : ¬(_ < 32 ∨ _ = '\\') := not_or.mpr ⟨Nat.not_lt.mpr hcontrol, hslash⟩
    rw [List.cons_append, skipString?, if_neg hplain, ih]
    all_goals simp_all
  | short he more ih =>
    obtain ⟨c, hc⟩ := Option.isSome_iff_exists.mp he
    have hu := ne_of_shortEscape? hc
    rw [List.cons_append, List.cons_append, skipString?, if_pos he, ih]
    all_goals simp_all
  | unit hunit more ih => simp [skipString?, hunit, ih]

/-- A run of digits comes to its end where something else follows. -/
theorem takeWhile_digits {digits rest : List Char} (hdigits : Digits digits)
    (hrest : ∀ c ∈ rest.head?, c.isDigit = false) :
    (digits ++ rest).takeWhile Char.isDigit = digits ∧
      (digits ++ rest).dropWhile Char.isDigit = rest := by
  rw [List.takeWhile_append_of_pos hdigits, List.dropWhile_append_of_pos hdigits]
  cases rest with
  | nil => simp
  | cons c rest => simp [hrest c rfl]

theorem skipDigits?_append {digits rest : List Char} (hlead : digits ≠ [])
    (hdigits : Digits digits) (hrest : ∀ c ∈ rest.head?, c.isDigit = false) :
    skipDigits? (digits ++ rest) = some rest := by
  obtain ⟨htake, hdrop⟩ := takeWhile_digits hdigits hrest
  rw [skipDigits?, htake, hdrop, if_neg (by simpa using hlead)]

theorem skipExponent?_append {power rest : List Char} (h : Power power) (hrest : Delimited rest) :
    skipExponent? (power ++ rest) = some rest := by
  cases h with
  | none => cases hrest <;> rfl
  | @part letter sign digits hletter hsign hlead hdigits =>
    have hskip := skipDigits?_append hlead hdigits hrest.isDigit_eq_false
    obtain ⟨d, more, rfl, hd⟩ := hdigits.head hlead
    simp only [List.mem_cons, List.not_mem_nil, or_false] at hletter hsign
    -- Without a sign, the first digit must not be taken for one.
    have hplus := ne_of_isDigit hd (x := '+') rfl
    have hminus := ne_of_isDigit hd (x := '-') rfl
    rcases hletter with rfl | rfl <;> rcases hsign with rfl | rfl | rfl <;>
      simpa [skipExponent?, hplus, hminus] using hskip

/-- What stands behind the whole part of a number goes on with no digit. -/
theorem isDigit_eq_false_of_tail {fraction power rest : List Char} (hfraction : Fraction fraction)
    (hpower : Power power) (hrest : Delimited rest) :
    ∀ c ∈ (fraction ++ (power ++ rest)).head?, c.isDigit = false := by
  cases hfraction with
  | part => simp
  | none =>
    cases hpower with
    | none => exact hrest.isDigit_eq_false
    | part hletter =>
      simp only [List.mem_cons, List.not_mem_nil, or_false] at hletter
      rcases hletter with rfl | rfl <;> simp

theorem skipNumber?_minus {cs : List Char} (h : ∀ c ∈ cs.head?, c ≠ '-') :
    skipNumber? ('-' :: cs) = skipNumber? cs := by
  cases cs with
  | nil => rfl
  | cons c cs => simp [skipNumber?, h c rfl]

/-- What follows the whole part of a number is a fraction if it begins with a point. -/
theorem skipNumber?_whole {sign whole tail : List Char} (hsign : sign ∈ [[], ['-']])
    (hlead : whole ≠ []) (hwhole : Digits whole) (hzero : whole.head? = some '0' → whole = ['0'])
    (htail : ∀ c ∈ tail.head?, c.isDigit = false) :
    skipNumber? (sign ++ (whole ++ tail)) =
      if tail.head? = some '.' then skipDigits? tail.tail >>= skipExponent?
      else skipExponent? tail := by
  obtain ⟨htake, hdrop⟩ := takeWhile_digits hwhole htail
  have hminus : ∀ c ∈ (whole ++ tail).head?, c ≠ '-' := by
    obtain ⟨d, more, rfl, hd⟩ := hwhole.head hlead
    rintro c ⟨⟩
    exact ne_of_isDigit hd rfl
  have hunsigned : skipNumber? (sign ++ (whole ++ tail)) = skipNumber? (whole ++ tail) := by
    simp only [List.mem_cons, List.not_mem_nil, or_false] at hsign
    rcases hsign with rfl | rfl
    · rfl
    · exact skipNumber?_minus hminus
  rw [hunsigned, skipNumber?, htake, hdrop]
  · split
    · exact absurd rfl hlead
    · cases hzero rfl
    · split
      · rfl
      · rename_i hpoint
        rw [if_neg]
        intro hhead
        obtain ⟨more, rfl⟩ := List.head?_eq_some_iff.mp hhead
        exact hpoint more rfl
  · intro rest hrest
    exact hminus '-' (by rw [hrest]; rfl) rfl

/-- A number may be of any size. -/
theorem skipNumber?_of_numeral {cs rest : List Char} (h : Numeral cs) (hrest : Delimited rest) :
    skipNumber? (cs ++ rest) = some rest := by
  cases h with
  | @mk sign whole fraction power hsign hlead hwhole hzero hfraction hpower =>
    have htail := isDigit_eq_false_of_tail hfraction hpower hrest
    have hexponent := skipExponent?_append hpower hrest
    rw [List.append_assoc, List.append_assoc, List.append_assoc,
      skipNumber?_whole hsign hlead hwhole hzero htail]
    cases hfraction with
    | none =>
      -- Neither a power of ten nor what follows a number begins with a point.
      have hpoint : (power ++ rest).head? ≠ some '.' := by
        cases hpower with
        | none => cases hrest <;> simp
        | part hletter =>
          simp only [List.mem_cons, List.not_mem_nil, or_false] at hletter
          rcases hletter with rfl | rfl <;> simp
      exact (if_neg hpoint).trans hexponent
    | @part digits hdigits hfraction =>
      have hstop : ∀ c ∈ (power ++ rest).head?, c.isDigit = false :=
        isDigit_eq_false_of_tail .none hpower hrest
      have hskip := skipDigits?_append hdigits hfraction hstop
      refine (if_pos rfl).trans ?_
      change skipDigits? (digits ++ (power ++ rest)) >>= skipExponent? = some rest
      rw [hskip]
      exact hexponent

/-- What can be a numeral begins as one. -/
theorem Numeral.eq_cons {cs : List Char} (h : Numeral cs) :
    ∃ c more, cs = c :: more ∧ startsNumber c := by
  cases h with
  | mk hsign hlead hwhole =>
    obtain ⟨d, more, rfl, hd⟩ := hwhole.head hlead
    simp only [List.mem_cons, List.not_mem_nil, or_false] at hsign
    rcases hsign with rfl | rfl
    · exact ⟨d, _, rfl, startsNumber_of_isDigit hd⟩
    · exact ⟨'-', _, rfl, rfl⟩

/-- A single token does not begin with a bracket. -/
theorem Scalar.eq_cons {token : Token} (h : Scalar token) :
    ∃ c more, token = c :: more ∧ opensValue c ∧ c ≠ '[' ∧ c ≠ '\x7b' := by
  cases h with
  | null => exact ⟨'n', _, rfl, rfl, by decide, by decide⟩
  | boolean b => cases b <;> exact ⟨_, _, rfl, rfl, by decide, by decide⟩
  | number h =>
    obtain ⟨c, more, rfl, hc⟩ := h.eq_cons
    refine ⟨c, more, rfl, by simp [opensValue, hc], ?_, ?_⟩ <;> rintro rfl <;> cases hc
  | text h => exact ⟨'"', _, rfl, rfl, by decide, by decide⟩

theorem skipScalar?_of_scalar {token : Token} (h : Scalar token) {rest : List Char}
    (hrest : Delimited rest) : skipScalar? (token ++ rest) = some rest := by
  cases h with
  | null => exact afterWord?_append ['u', 'l', 'l'] rest
  | boolean b =>
    cases b with
    | true => exact afterWord?_append ['r', 'u', 'e'] rest
    | false => exact afterWord?_append ['a', 'l', 's', 'e'] rest
  | number h =>
    have hskip := skipNumber?_of_numeral h hrest
    obtain ⟨c, more, rfl, hc⟩ := h.eq_cons
    rw [List.cons_append] at hskip ⊢
    have hne {x : Char} (hx : startsNumber x = false) : c ≠ x := by
      rintro rfl
      rw [hc] at hx
      cases hx
    rw [skipScalar?, hskip]
    all_goals
      intro rest hcons
      exact hne rfl (List.cons.inj hcons).1
  | text h =>
    change skipString? (_ ++ ['"'] ++ rest) = _
    rw [List.append_assoc]
    exact skipString?_of_quotable h rest

/-! ### Runs -/

/-- Where skipping stands: what comes next, the open brackets, and the text left. -/
abbrev SkipPoint := SkipState × List Bracket × List Char

/-- One step, which takes some of the text. -/
def SkipsTo (a b : SkipPoint) : Prop :=
  skipStep? a.1 a.2.1 a.2.2 = some (.inr b) ∧ b.2.2.length < a.2.2.length

/-- One point is reached from another. -/
abbrev Skips : SkipPoint → SkipPoint → Prop := Relation.ReflTransGen SkipsTo

/-- There are never too few steps, since each takes some of the text. -/
theorem skipSteps?_of_skips {a : SkipPoint} {rest : List Char} (h : Skips a (.ended, [], rest)) :
    ∀ steps, a.2.2.length < steps → skipSteps? steps a.1 a.2.1 a.2.2 = some rest := by
  induction h using Relation.ReflTransGen.head_induction_on with
  | refl =>
    intro steps hsteps
    obtain ⟨steps, rfl⟩ := Nat.exists_eq_add_one_of_ne_zero (Nat.ne_zero_of_lt hsteps)
    rfl
  | head hstep _ ih =>
    intro steps hsteps
    obtain ⟨steps, rfl⟩ := Nat.exists_eq_add_one_of_ne_zero (Nat.ne_zero_of_lt hsteps)
    obtain ⟨hstep, hlength⟩ := hstep
    rw [skipSteps?, hstep]
    exact ih steps (hlength.trans_le (Nat.le_of_lt_succ hsteps))

/-- From every text of the first tokens there is a run between two states with the given brackets
open, and it leaves a text of the second tokens. -/
def Runs (before : List Token) (a : SkipState × List Bracket) (after : List Token)
    (b : SkipState × List Bracket) : Prop :=
  ∀ cs, Spaced before cs →
    ∃ rest, Spaced after rest ∧ Skips (a.1, a.2, cs) (b.1, b.2, rest)

theorem Runs.trans {before mid after : List Token} {a b c : SkipState × List Bracket}
    (h : Runs before a mid b) (hmore : Runs mid b after c) : Runs before a after c := by
  intro cs hcs
  obtain ⟨mid, hmid, hfirst⟩ := h cs hcs
  obtain ⟨rest, hrest, hothers⟩ := hmore mid hmid
  exact ⟨rest, hrest, hfirst.trans hothers⟩

/-! ### Steps

There is one step for each single token, comma and bracket; an opening bracket is passed together
with the closing one if nothing stands between them, and a key goes with what is before it. -/

section Steps

variable {tokens : List Token} (opened : List Bracket)

theorem runs_scalar {token : Token} (h : Scalar token) (htokens : Closing tokens) :
    Runs (token :: tokens) (.value, opened) tokens (.ended, opened) := by
  intro cs hcs
  obtain ⟨c, more, rfl, hopens, hbracket, hbrace⟩ := h.eq_cons
  obtain ⟨rest, hrest, hfront, hlength⟩ := hcs.front (not_blank_of_opensValue hopens)
  have hskip := skipScalar?_of_scalar h (hrest.delimited htokens)
  rw [List.cons_append] at hskip
  refine ⟨rest, hrest, .single ⟨?_, Nat.lt_of_add_left_lt hlength⟩⟩
  simp [skipStep?, hfront, hbracket, hbrace, hskip]

theorem runs_empty_array :
    Runs (['['] :: [']'] :: tokens) (.value, opened) tokens (.ended, opened) := by
  intro cs hcs
  obtain ⟨mid, hmid, hopen, hlength⟩ := hcs.mark rfl
  obtain ⟨rest, hrest, hclose, hlength'⟩ := hmid.mark rfl
  exact ⟨rest, hrest, .single ⟨by simp [skipStep?, hopen, hclose], hlength'.trans hlength⟩⟩

theorem runs_open_array (h : Opens tokens) :
    Runs (['['] :: tokens) (.value, opened) tokens (.value, .array :: opened) := by
  intro cs hcs
  obtain ⟨rest, hrest, hopen, hlength⟩ := hcs.mark rfl
  -- What follows does not begin like the end of the array.
  obtain ⟨c, token, more, rfl, hc⟩ := h
  obtain ⟨_, -, hfront, -⟩ := hrest.front (not_blank_of_opensValue hc)
  have hbracket : c ≠ ']' := by
    rintro rfl
    cases hc
  exact ⟨rest, hrest, .single ⟨by simp [skipStep?, hopen, hfront, hbracket], hlength⟩⟩

theorem runs_comma_array :
    Runs ([','] :: tokens) (.ended, .array :: opened) tokens (.value, .array :: opened) := by
  intro cs hcs
  obtain ⟨rest, hrest, hfront, hlength⟩ := hcs.mark rfl
  exact ⟨rest, hrest, .single ⟨by simp [skipStep?, hfront], hlength⟩⟩

theorem runs_close_array :
    Runs ([']'] :: tokens) (.ended, .array :: opened) tokens (.ended, opened) := by
  intro cs hcs
  obtain ⟨rest, hrest, hfront, hlength⟩ := hcs.mark rfl
  exact ⟨rest, hrest, .single ⟨by simp [skipStep?, hfront], hlength⟩⟩

theorem runs_empty_object :
    Runs (['\x7b'] :: ['\x7d'] :: tokens) (.value, opened) tokens (.ended, opened) := by
  intro cs hcs
  obtain ⟨mid, hmid, hopen, hlength⟩ := hcs.mark rfl
  obtain ⟨rest, hrest, hclose, hlength'⟩ := hmid.mark rfl
  exact ⟨rest, hrest, .single ⟨by simp [skipStep?, hopen, hclose], hlength'.trans hlength⟩⟩

/-- A key and its colon. -/
theorem skipKey?_spaced {key cs : List Char} (hkey : Quotable key)
    (hcs : Spaced (quoted key :: [':'] :: tokens) cs) :
    ∃ rest, Spaced tokens rest ∧ skipKey? cs = some rest ∧ rest.length < cs.length := by
  obtain ⟨mid, hmid, hfront, hlength⟩ := hcs.front rfl
  obtain ⟨rest, hrest, hcolon, hlength'⟩ := hmid.mark rfl
  have hbody := skipString?_of_quotable hkey mid
  refine ⟨rest, hrest, ?_, by omega⟩
  rw [List.append_assoc, List.singleton_append] at hfront
  simp [skipKey?, hfront, hbody, hcolon]

theorem runs_open_object {key : List Char} (hkey : Quotable key) :
    Runs (['\x7b'] :: quoted key :: [':'] :: tokens) (.value, opened) tokens
      (.value, .object :: opened) := by
  intro cs hcs
  obtain ⟨mid, hmid, hopen, hlength⟩ := hcs.mark rfl
  obtain ⟨_, -, hquote, -⟩ := hmid.front rfl
  obtain ⟨rest, hrest, hskip, hlength'⟩ := skipKey?_spaced hkey hmid
  exact ⟨rest, hrest,
    .single ⟨by simp [skipStep?, hopen, hquote, hskip], hlength'.trans hlength⟩⟩

theorem runs_comma_object {key : List Char} (hkey : Quotable key) :
    Runs ([','] :: quoted key :: [':'] :: tokens) (.ended, .object :: opened) tokens
      (.value, .object :: opened) := by
  intro cs hcs
  obtain ⟨mid, hmid, hfront, hlength⟩ := hcs.mark rfl
  obtain ⟨rest, hrest, hskip, hlength'⟩ := skipKey?_spaced hkey hmid
  exact ⟨rest, hrest, .single ⟨by simp [skipStep?, hfront, hskip], hlength'.trans hlength⟩⟩

theorem runs_close_object :
    Runs (['\x7d'] :: tokens) (.ended, .object :: opened) tokens (.ended, opened) := by
  intro cs hcs
  obtain ⟨rest, hrest, hfront, hlength⟩ := hcs.mark rfl
  exact ⟨rest, hrest, .single ⟨by simp [skipStep?, hfront], hlength⟩⟩

end Steps

/-! ### Values -/

/-- There is a run over the tokens, between any brackets and whatever follows. -/
def Skippable (tokens : List Token) : Prop :=
  ∀ (after : List Token) (opened : List Bracket), Closing after →
    Runs (tokens ++ after) (.value, opened) after (.ended, opened)

theorem WellFormed.opens {tokens : List Token} (h : WellFormed tokens) : Opens tokens := by
  cases h with
  | scalar h =>
    obtain ⟨c, token, rfl, hopens, -⟩ := h.eq_cons
    exact ⟨c, token, [], rfl, hopens⟩
  | array => exact ⟨'[', [], _, rfl, rfl⟩
  | object => exact ⟨'\x7b', [], _, rfl, rfl⟩

/-- The items that remain after one has ended. -/
theorem runs_items {items : List (List Token)} (h : ∀ item ∈ items, Skippable item)
    (after : List Token) (opened : List Bracket) :
    Runs (partTokens ']' false items ++ after) (.ended, .array :: opened) after
      (.ended, opened) := by
  induction items with
  | nil => exact runs_close_array opened
  | cons item items ih =>
    have hitem := h item List.mem_cons_self _ (.array :: opened)
      (closing_partTokens (.bracket after) items)
    have hothers := ih fun i hi => h i (List.mem_cons_of_mem item hi)
    rw [partTokens_cons]
    exact (runs_comma_array opened).trans (hitem.trans hothers)

theorem skippable_array {items : List (List Token)} (hitems : ∀ item ∈ items, WellFormed item)
    (h : ∀ item ∈ items, Skippable item) : Skippable (arrayTokens items) := by
  intro after opened _
  rw [arrayTokens_append]
  cases items with
  | nil => exact runs_empty_array opened
  | cons item items =>
    have hopens := (hitems item List.mem_cons_self).opens.append
      (partTokens ']' false items ++ after)
    have hitem := h item List.mem_cons_self _ (.array :: opened)
      (closing_partTokens (.bracket after) items)
    have hothers := runs_items (fun i hi => h i (List.mem_cons_of_mem item hi)) after opened
    rw [partTokens_cons]
    exact (runs_open_array opened hopens).trans (hitem.trans hothers)

/-- The entries that remain after the value of one has ended. -/
theorem runs_entries {entries : List (List Char × List Token)}
    (hkeys : ∀ entry ∈ entries, Quotable entry.1) (h : ∀ entry ∈ entries, Skippable entry.2)
    (after : List Token) (opened : List Bracket) :
    Runs (partTokens '\x7d' false (entries.map entryTokens) ++ after)
      (.ended, .object :: opened) after (.ended, opened) := by
  induction entries with
  | nil => exact runs_close_object opened
  | cons entry entries ih =>
    have hvalue := h entry List.mem_cons_self _ (.object :: opened)
      (closing_partTokens (.brace after) (entries.map entryTokens))
    have hothers := ih (fun e he => hkeys e (List.mem_cons_of_mem entry he))
      fun e he => h e (List.mem_cons_of_mem entry he)
    rw [List.map_cons, partTokens_cons]
    exact (runs_comma_object opened (hkeys entry List.mem_cons_self)).trans
      (hvalue.trans hothers)

theorem skippable_object {entries : List (List Char × List Token)}
    (hkeys : ∀ entry ∈ entries, Quotable entry.1) (h : ∀ entry ∈ entries, Skippable entry.2) :
    Skippable (objectTokens (entries.map entryTokens)) := by
  intro after opened _
  rw [objectTokens_append]
  cases entries with
  | nil => exact runs_empty_object opened
  | cons entry entries =>
    have hvalue := h entry List.mem_cons_self _ (.object :: opened)
      (closing_partTokens (.brace after) (entries.map entryTokens))
    have hothers := runs_entries (fun e he => hkeys e (List.mem_cons_of_mem entry he))
      (fun e he => h e (List.mem_cons_of_mem entry he)) after opened
    rw [List.map_cons, partTokens_cons]
    exact (runs_open_object opened (hkeys entry List.mem_cons_self)).trans (hvalue.trans hothers)

/-- There is a run over every value. -/
theorem WellFormed.skippable {tokens : List Token} (h : WellFormed tokens) : Skippable tokens := by
  induction h with
  | scalar h => exact fun _ opened hafter => runs_scalar opened h hafter
  | array hitems ih => exact skippable_array hitems ih
  | object hkeys _ ih => exact skippable_object hkeys ih

/-- A value is passed over, whatever it is. -/
theorem skipValue?_of_wellFormed {tokens after : List Token} {cs : List Char}
    (h : WellFormed tokens) (hafter : Closing after) (hcs : Spaced (tokens ++ after) cs) :
    ∃ rest, Spaced after rest ∧ skipValue? cs = some rest := by
  obtain ⟨rest, hrest, hskips⟩ := h.skippable after [] hafter cs hcs
  exact ⟨rest, hrest, skipSteps?_of_skips hskips _ (Nat.lt_succ_self _)⟩

end Whiteboard.Json
