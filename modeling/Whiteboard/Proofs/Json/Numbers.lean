import Mathlib.Data.List.TakeWhile
import Mathlib.Tactic.SplitIfs
import Whiteboard.Json.Reader
import Whiteboard.Json.Tree

/-!
# Numbers where they end

A number has no closing mark, so it is read as far as it goes. Whatever is written after a value
begins with a comma, a closing bracket or a blank, and none of these goes on with a number: what is
read of a written number is then the whole of it and does not depend on what follows.
-/

namespace Whiteboard.Json

/-- Text that may follow a value. -/
inductive Delimited : List Char → Prop
  /-- Nothing follows. -/
  | nil : Delimited []
  /-- Another value follows. -/
  | comma (rest : List Char) : Delimited (',' :: rest)
  /-- An array ends. -/
  | bracket (rest : List Char) : Delimited (']' :: rest)
  /-- An object ends. -/
  | brace (rest : List Char) : Delimited ('\x7d' :: rest)
  /-- A blank space. -/
  | space (rest : List Char) : Delimited (' ' :: rest)
  /-- The end of a line. -/
  | newLine (rest : List Char) : Delimited ('\n' :: rest)
  /-- A tabulator. -/
  | tab (rest : List Char) : Delimited ('\t' :: rest)
  /-- A carriage return. -/
  | carriage (rest : List Char) : Delimited ('\r' :: rest)

/-- A token takes up the whole of a text, or refuses it, whatever follows. -/
def Whole {α : Type} (token? : List Char → Option (α × List Char)) (cs : List Char) : Prop :=
  ∀ rest, Delimited rest → token? (cs ++ rest) = (token? cs).map fun read => (read.1, rest)

/-! ### Digits -/

/-- Text that consists of decimal digits. -/
def Digits (cs : List Char) : Prop := ∀ c ∈ cs, c.isDigit

instance (cs : List Char) : Decidable (Digits cs) :=
  decidable_of_iff (cs.all Char.isDigit) List.all_eq_true

namespace Digits

theorem append {cs ds : List Char} (hc : Digits cs) (hd : Digits ds) : Digits (cs ++ ds) :=
  fun c h => (List.mem_append.mp h).elim (hc c) (hd c)

theorem take {cs : List Char} (h : Digits cs) (n : Nat) : Digits (cs.take n) :=
  fun c hc => h c (List.mem_of_mem_take hc)

theorem drop {cs : List Char} (h : Digits cs) (n : Nat) : Digits (cs.drop n) :=
  fun c hc => h c (List.mem_of_mem_drop hc)

theorem zeros (n : Nat) : Digits (List.replicate n '0') := by
  intro c hc
  rw [List.eq_of_mem_replicate hc]
  rfl

theorem toDigits (n : Nat) : Digits (Nat.toDigits 10 n) :=
  fun _ hc => Nat.isDigit_of_mem_toDigits (by decide) (by decide) hc

theorem digitChars {ds : List Nat} (h : ∀ d ∈ ds, d < 10) : Digits (Numeric.digitChars ds) := by
  intro c hc
  obtain ⟨d, hd, rfl⟩ := List.mem_map.mp hc
  simpa [Nat.isDigit_digitChar] using h d hd

theorem head {cs : List Char} (h : Digits cs) (hlead : cs ≠ []) :
    ∃ c more, cs = c :: more ∧ c.isDigit := by
  obtain ⟨c, more, rfl⟩ := List.exists_cons_of_ne_nil hlead
  exact ⟨c, more, rfl, h c List.mem_cons_self⟩

end Digits

/-- What the digits of a text stand for. -/
def digitValues (digits : List Char) : List Nat := digits.map fun c => c.toNat - '0'.toNat

theorem digitRun_append {digits rest : List Char} (hdigits : Digits digits)
    (hrest : ∀ c ∈ rest.head?, c.isDigit = false) :
    digitRun (digits ++ rest) = (digitValues digits, rest) := by
  have hnone : rest.takeWhile Char.isDigit = [] ∧ rest.dropWhile Char.isDigit = rest := by
    cases rest with
    | nil => exact ⟨rfl, rfl⟩
    | cons c rest => simp [hrest c rfl]
  simp only [digitRun, List.takeWhile_append_of_pos hdigits, List.dropWhile_append_of_pos hdigits,
    hnone, List.append_nil, digitValues]

theorem Delimited.isDigit_eq_false {rest : List Char} (h : Delimited rest) :
    ∀ c ∈ rest.head?, c.isDigit = false := by
  cases h <;> simp

/-- Digits are taken into the significand as long as the number that they make fits. -/
theorem appendDigits_digitValues {digits : List Char} {significand : Nat}
    (h : Nat.ofDigitChars 10 digits significand ≤ maxWord64) :
    appendDigits significand (digitValues digits) =
      (Nat.ofDigitChars 10 digits significand, []) := by
  induction digits generalizing significand with
  | nil => simp [digitValues, appendDigits]
  | cons c digits ih =>
    rw [Nat.ofDigitChars_cons] at h ⊢
    have hle : 10 * significand + (c.toNat - '0'.toNat) ≤ maxWord64 := by
      rw [Nat.ofDigitChars_eq_ofDigitChars_zero] at h
      have hpower : 0 < 10 ^ digits.length := Nat.pow_pos (by decide)
      exact (Nat.le_mul_of_pos_left _ hpower).trans (Nat.le_of_add_right_le h)
    rw [digitValues, List.map_cons, appendDigits, if_pos hle]
    exact ih h

theorem digitValues_digitChar {d : Nat} (h : d < 10) : digitValues [Nat.digitChar d] = [d] :=
  congrArg (· :: []) (Nat.toNat_digitChar_sub_48_of_lt_ten h)

/-- Only zero is written with a zero in front. -/
theorem digitValues_toDigits {n : Nat} (h : 0 < n) :
    ∃ d ds, digitValues (Nat.toDigits 10 n) = d :: ds ∧ 0 < d := by
  induction n using Nat.base_induction 10 (by decide) with
  | single m hm =>
    rw [Nat.toDigits_of_lt_base hm, digitValues_digitChar hm]
    exact ⟨m, [], rfl, h⟩
  | digit m k hk hm ih =>
    obtain ⟨d, ds, hvalues, hd⟩ := ih hm
    refine ⟨d, ds ++ digitValues (Nat.toDigits 10 k), ?_, hd⟩
    rw [← Nat.toDigits_append_toDigits (by decide) hm hk, digitValues, List.map_append]
    exact congrArg (· ++ _) hvalues

/-! ### Natural numbers -/

theorem ne_of_isDigit {c x : Char} (h : c.isDigit) (hx : x.isDigit = false) : c ≠ x := by
  rintro rfl
  rw [h] at hx
  cases hx

theorem number?_of_isDigit {c : Char} (h : c.isDigit) (cs : List Char) :
    number? (c :: cs) = unsignedNumber? false (c :: cs) := by
  simp [number?, ne_of_isDigit h (x := '-') rfl]

/-- Digits without a zero in front, which make a number of 64 bits, are that number. -/
theorem unsignedNumber?_digits {digits : List Char} (hdigits : Digits digits) {d : Nat}
    {ds : List Nat} (hvalues : digitValues digits = d :: ds) (hlead : d = 0 → ds = [])
    (hfits : Nat.ofDigitChars 10 digits 0 ≤ maxWord64) {rest : List Char}
    (hrest : Delimited rest) :
    unsignedNumber? false (digits ++ rest) =
      some (.integer false (Nat.ofDigitChars 10 digits 0), rest) := by
  have hrun := digitRun_append hdigits hrest.isDigit_eq_false
  have hsum := appendDigits_digitValues hfits
  rw [hvalues] at hrun hsum
  simp only [unsignedNumber?, hrun]
  split
  · rename_i hnil
    cases hnil
  · rename_i hzero
    cases hzero
    cases hlead rfl
  · simp only [hsum]
    cases hrest <;> rfl

/-- A natural number of 64 bits is read back. -/
theorem number?_toDigits {n : Nat} (h : n ≤ maxWord64) {rest : List Char}
    (hrest : Delimited rest) :
    number? (Nat.toDigits 10 n ++ rest) = some (.integer false n, rest) := by
  have hdigits := Digits.toDigits n
  have hfits : Nat.ofDigitChars 10 (Nat.toDigits 10 n) 0 ≤ maxWord64 := by
    rwa [Nat.ofDigitChars_ten_toDigits]
  have hread : unsignedNumber? false (Nat.toDigits 10 n ++ rest) =
      some (.integer false n, rest) := by
    obtain rfl | hpos := Nat.eq_zero_or_pos n
    · exact unsignedNumber?_digits hdigits (digitValues_digitChar (by decide)) (fun _ => rfl) hfits
        hrest
    · obtain ⟨d, ds, hvalues, hd⟩ := digitValues_toDigits hpos
      have hread := unsignedNumber?_digits hdigits hvalues (by omega) hfits hrest
      rwa [Nat.ofDigitChars_ten_toDigits] at hread
  obtain ⟨c, cs, hcons, hc⟩ := hdigits.head Nat.toDigits_ne_nil
  rw [hcons, List.cons_append] at hread ⊢
  rw [number?_of_isDigit hc, hread]

/-! ### Floating-point numbers -/

/-- An exponent part after its letter: at most one sign, then digits. -/
theorem whole_exponentPart? {sign digits : List Char} (hsign : sign ∈ [[], ['+'], ['-']])
    (hdigits : Digits digits) (negative : Bool) (significand : Nat) (start : Int) :
    Whole (exponentPart? negative significand start) (sign ++ digits) := by
  intro rest hrest
  have hrun := digitRun_append hdigits hrest.isDigit_eq_false
  have hrun' := digitRun_append hdigits Delimited.nil.isDigit_eq_false
  rw [List.append_nil] at hrun'
  simp only [List.mem_cons, List.not_mem_nil, or_false] at hsign
  rcases hsign with rfl | rfl | rfl
  · -- Without a sign, the first digit must not be taken for one.
    cases digits with
    | nil => cases hrest <;> rfl
    | cons c digits =>
      have hplus := ne_of_isDigit (hdigits c List.mem_cons_self) (x := '+') rfl
      have hminus := ne_of_isDigit (hdigits c List.mem_cons_self) (x := '-') rfl
      rw [List.cons_append] at hrun
      simp [exponentPart?, hrun, hrun', hplus, hminus, digitValues, Function.comp_def]
  all_goals
    by_cases hempty : digitValues digits = [] <;>
      simp [exponentPart?, hrun, hrun', hempty, Function.comp_def]

/-- What stands after the digits of a number: nothing, or an exponent part. -/
inductive ExponentText : List Char → Prop
  /-- Nothing. -/
  | none : ExponentText []
  /-- A letter, at most one sign, and digits. -/
  | part {sign digits : List Char} (hsign : sign ∈ [[], ['+'], ['-']])
      (hdigits : Digits digits) : ExponentText ('e' :: (sign ++ digits))

theorem ExponentText.isDigit_eq_false {tail rest : List Char} (h : ExponentText tail)
    (hrest : Delimited rest) : ∀ c ∈ (tail ++ rest).head?, c.isDigit = false := by
  cases h with
  | none => exact hrest.isDigit_eq_false
  | part => simp

theorem whole_afterDigits? {tail : List Char} (h : ExponentText tail) (negative : Bool)
    (significand : Nat) (exponent : Int) :
    Whole (afterDigits? negative significand exponent) tail := by
  intro rest hrest
  cases h with
  | none => cases hrest <;> simp [afterDigits?, Function.comp_def]
  | part hsign hdigits =>
    exact whole_exponentPart? hsign hdigits negative significand exponent rest hrest

/-- What a floating-point number looks like without its sign: a digit and more digits, with a point
or an exponent after them. -/
inductive FloatText : List Char → Prop
  /-- With a point. -/
  | point {digits fraction tail : List Char} (hlead : digits ≠ [])
      (hdigits : Digits digits) (hfraction : Digits fraction)
      (htail : ExponentText tail) : FloatText (digits ++ '.' :: (fraction ++ tail))
  /-- Without a point. -/
  | letter {digits sign exponent : List Char} (hlead : digits ≠ [])
      (hdigits : Digits digits) (hsign : sign ∈ [[], ['+'], ['-']])
      (hexponent : Digits exponent) :
      FloatText (digits ++ 'e' :: (sign ++ exponent))

theorem FloatText.eq_cons {cs : List Char} (h : FloatText cs) :
    ∃ c more, cs = c :: more ∧ c.isDigit := by
  cases h with
  | point hlead hdigits =>
    obtain ⟨c, more, rfl, hc⟩ := hdigits.head hlead
    exact ⟨c, _, rfl, hc⟩
  | letter hlead hdigits =>
    obtain ⟨c, more, rfl, hc⟩ := hdigits.head hlead
    exact ⟨c, _, rfl, hc⟩

theorem whole_unsignedNumber? {cs : List Char} (h : FloatText cs) (negative : Bool) :
    Whole (unsignedNumber? negative) cs := by
  intro rest hrest
  cases h with
  | @point digits fraction tail _ hdigits hfraction htail =>
    have hrun (more : List Char) :
        digitRun (digits ++ '.' :: more) = (digitValues digits, '.' :: more) :=
      digitRun_append hdigits (by simp)
    have hmore := digitRun_append hfraction (htail.isDigit_eq_false hrest)
    have hmore' := digitRun_append hfraction (htail.isDigit_eq_false .nil)
    rw [List.append_nil] at hmore'
    simp only [unsignedNumber?, List.append_assoc, List.cons_append, hrun, hmore, hmore']
    -- No digits, or a zero in front, are refused with and without the rest.
    split
    · rfl
    · rfl
    · split_ifs
      · rfl
      · exact whole_afterDigits? htail _ _ _ rest hrest
  | @letter digits sign exponent _ hdigits hsign hexponent =>
    have hrun (more : List Char) :
        digitRun (digits ++ 'e' :: more) = (digitValues digits, 'e' :: more) :=
      digitRun_append hdigits (by simp)
    simp only [unsignedNumber?, List.append_assoc, List.cons_append, hrun]
    split
    · rfl
    · rfl
    · simpa only [List.cons_append, List.append_assoc] using
        whole_afterDigits? (.part hsign hexponent) _ _ _ rest hrest

theorem whole_number?_signed {cs : List Char} (h : FloatText cs) (negative : Bool) :
    Whole number? ((if negative then ['-'] else []) ++ cs) := by
  intro rest hrest
  cases negative with
  | true => exact whole_unsignedNumber? h true rest hrest
  | false =>
    have hread := whole_unsignedNumber? h false rest hrest
    obtain ⟨c, more, rfl, hc⟩ := h.eq_cons
    simp only [Bool.false_eq_true, if_false, List.nil_append]
    rw [List.cons_append] at hread ⊢
    rw [number?_of_isDigit hc, number?_of_isDigit hc]
    exact hread

/-! ### Written forms -/

open Numeric

/-- A decimal written with a point. -/
theorem floatText_point {digits fraction : List Char} (hlead : digits ≠ [])
    (hdigits : Digits digits) (hfraction : Digits fraction) :
    FloatText (digits ++ '.' :: fraction) := by
  have h := FloatText.point hlead hdigits hfraction .none
  rwa [List.append_nil] at h

theorem floatText_positional {d : Decimal} (h : ∀ x ∈ d.digits, x < 10) :
    FloatText d.positional := by
  have hchars := Digits.digitChars h
  have hzero : Digits ['0'] := .zeros 1
  unfold Decimal.positional
  split_ifs
  · exact floatText_point (List.cons_ne_nil _ _) hzero ((Digits.zeros _).append hchars)
  · refine floatText_point (List.ne_nil_of_length_pos ?_) ((hchars.take _).append (.zeros _)) ?_
    · -- Zeros fill up what the digits leave of the whole part.
      simp only [List.length_append, List.length_take, List.length_replicate]
      omega
    · split_ifs
      · exact hzero
      · exact hchars.drop _

theorem floatText_exponential {d : Decimal} (h : ∀ x ∈ d.digits, x < 10) (plusSign : Bool) :
    FloatText (d.exponential plusSign) := by
  have hchars := Digits.digitChars h
  have hexponent := Digits.toDigits d.exponent.natAbs
  have hsign : (if d.exponent < 0 then ['-'] else if plusSign then ['+'] else []) ∈
      [[], ['+'], ['-']] := by
    split_ifs <;> simp
  unfold Decimal.exponential
  split
  · exact .letter (List.cons_ne_nil _ _) (.zeros 1) hsign hexponent
  · rename_i c hdigits
    rw [hdigits] at hchars
    exact .letter (List.cons_ne_nil _ _) hchars hsign hexponent
  · rename_i c more _ hdigits
    rw [hdigits] at hchars
    exact .point (List.cons_ne_nil _ _) (hchars.take 1) (hchars.drop 1) (.part hsign hexponent)

theorem significantDigits_lt {n d : Nat} (h : d ∈ significantDigits n) : d < 10 := by
  have hvalue : d ∈ digitValues (Nat.toDigits 10 n) := by
    have hkept := (List.dropWhile_sublist _).mem (List.mem_reverse.mp h)
    exact List.mem_reverse.mp hkept
  obtain ⟨c, hc, rfl⟩ := List.mem_map.mp hvalue
  obtain ⟨hlow, hhigh⟩ := Char.isDigit_iff_toNat.mp (Digits.toDigits n c hc)
  exact (Nat.sub_lt_iff_lt_add hlow).mpr (Nat.lt_succ_of_le hhigh)

/-- Every grid that is tried, and the last resort, gives the digits of a natural number. -/
theorem firstHit_digits_lt (tie : Tie) (i : Interval) (attempts : Nat) (place : Int) :
    ∀ d ∈ (i.firstHit tie attempts place).digits, d < 10 := by
  induction attempts generalizing place with
  | zero => exact fun _ => significantDigits_lt
  | succ attempts ih =>
    rw [Interval.firstHit]
    split
    · rename_i hit
      simp only [Interval.onGrid?] at hit
      split at hit
      · cases hit
        exact fun _ => significantDigits_lt
      · split_ifs at hit <;> cases hit <;> exact fun _ => significantDigits_lt
    · exact ih _

theorem floatText_render (f : Format) (layout : Layout) (pattern : Nat) :
    FloatText (if pattern = 0 then ['0', '.', '0']
      else (f.shortest layout.tie pattern).render layout) := by
  split_ifs
  · exact floatText_point (List.cons_ne_nil _ _) (.zeros 1) (.zeros 1)
  · have hdigits := firstHit_digits_lt layout.tie (f.interval pattern) 17
    unfold Decimal.render Format.shortest
    split_ifs
    · exact floatText_positional (hdigits _)
    · exact floatText_exponential (hdigits _) _

/-- The text of a floating-point number is taken up as a whole, whatever follows. -/
theorem whole_number?_render (layout : Layout) (x : Single) : Whole number? (x.render layout) :=
  whole_number?_signed (floatText_render Format.single layout x.magnitude) x.negative

/-! ### How numbers begin -/

theorem startsNumber_of_isDigit {c : Char} (h : c.isDigit) : startsNumber c := by
  simp [startsNumber, h]

theorem toDigits_eq_cons (n : Nat) : ∃ c cs, Nat.toDigits 10 n = c :: cs ∧ startsNumber c := by
  obtain ⟨c, cs, hcons, hc⟩ := (Digits.toDigits n).head Nat.toDigits_ne_nil
  exact ⟨c, cs, hcons, startsNumber_of_isDigit hc⟩

theorem render_eq_cons (layout : Layout) (x : Single) :
    ∃ c cs, x.render layout = c :: cs ∧ startsNumber c := by
  obtain ⟨c, cs, hbody, hc⟩ := (floatText_render Format.single layout x.magnitude).eq_cons
  unfold Single.render Format.render
  rw [hbody]
  cases x.negative with
  | true => exact ⟨'-', c :: cs, rfl, rfl⟩
  | false => exact ⟨c, cs, rfl, startsNumber_of_isDigit hc⟩

end Whiteboard.Json
