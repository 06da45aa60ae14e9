import Whiteboard.Json.Skip
import Whiteboard.Proofs.Json.Steps

/-!
# The grammar of JSON

A JSON text consists of tokens, with any blanks between them. What follows describes the tokens,
the sequences of tokens that make a value, and the texts that a sequence of tokens is written as,
whether or not there is a message that looks like this.

## Main definitions

- `Json.Quotable` — what may stand between quotes
- `Json.Denotes` — what stands between quotes for a string
- `Json.Numeral` — a number as it may be written
- `Json.Spaced` — tokens with blanks between them
- `Json.WellFormed` — the tokens of a value
-/

namespace Whiteboard.Json

/-- A word is found in front of what follows it. -/
theorem afterWord?_append (word rest : List Char) : afterWord? word (word ++ rest) = some rest := by
  induction word with
  | nil => cases rest <;> rfl
  | cons w word ih => simpa [afterWord?] using ih

theorem eq_append_of_afterWord? {word cs rest : List Char} (h : afterWord? word cs = some rest) :
    cs = word ++ rest := by
  induction word generalizing cs with
  | nil => cases cs <;> exact Option.some.inj h
  | cons w word ih =>
    cases cs with
    | nil => cases h
    | cons c cs =>
      rw [afterWord?] at h
      split_ifs at h with hw
      rw [hw, ih h, List.cons_append]

/-! ### Strings -/

/-- What may stand between quotes. Nothing is asked of surrogates. -/
inductive Quotable : List Char → Prop
  /-- The closing quote comes next. -/
  | nil : Quotable []
  /-- A character that stands for itself. -/
  | plain {c : Char} {body : List Char} (hcontrol : 32 ≤ c.toNat) (hquote : c ≠ '"')
      (hslash : c ≠ '\\') (more : Quotable body) : Quotable (c :: body)
  /-- A short escape. -/
  | short {e : Char} {body : List Char} (he : (shortEscape? e).isSome) (more : Quotable body) :
      Quotable ('\\' :: e :: body)
  /-- A code unit. -/
  | unit {a b c d : Char} {body : List Char} (hunit : (codeUnit? a b c d).isSome)
      (more : Quotable body) : Quotable ('\\' :: 'u' :: a :: b :: c :: d :: body)

/-- What stands between quotes for the given characters. Surrogates come in pairs. -/
inductive Denotes : List Char → List Char → Prop
  /-- The closing quote comes next. -/
  | nil : Denotes [] []
  /-- A character that stands for itself. -/
  | plain {c : Char} {body cs : List Char} (hcontrol : 32 ≤ c.toNat) (hquote : c ≠ '"')
      (hslash : c ≠ '\\') (more : Denotes body cs) : Denotes (c :: body) (c :: cs)
  /-- A short escape. -/
  | short {e c : Char} {body cs : List Char} (he : shortEscape? e = some c)
      (more : Denotes body cs) : Denotes ('\\' :: e :: body) (c :: cs)
  /-- A code unit that is a character. -/
  | unit {a b c d : Char} {u : Nat} {body cs : List Char} (hunit : codeUnit? a b c d = some u)
      (hhigh : isHighSurrogate u = false) (hlow : isLowSurrogate u = false)
      (more : Denotes body cs) :
      Denotes ('\\' :: 'u' :: a :: b :: c :: d :: body) (Char.ofNat u :: cs)
  /-- Two code units for one character. -/
  | pair {a b c d e f g h : Char} {u v : Nat} {body cs : List Char}
      (hunit : codeUnit? a b c d = some u) (hhigh : isHighSurrogate u)
      (hunit' : codeUnit? e f g h = some v) (hlow : isLowSurrogate v) (more : Denotes body cs) :
      Denotes
        ('\\' :: 'u' :: a :: b :: c :: d :: '\\' :: 'u' :: e :: f :: g :: h :: body)
        (ofSurrogates u v :: cs)

/-- The letter of a code unit is no short escape. -/
theorem ne_of_shortEscape? {e c : Char} (h : shortEscape? e = some c) : e ≠ 'u' := by
  rintro rfl
  cases h

/-- A string is read from every text that stands for it, up to its closing quote. -/
theorem stringBody?_of_denotes {body cs : List Char} (h : Denotes body cs) (rest : List Char) :
    stringBody? (body ++ '"' :: rest) = some (cs, rest) := by
  induction h with
  | nil => rfl
  | plain hcontrol hquote hslash more ih =>
    have hplain : ¬(_ < 32 ∨ _ = '\\') := not_or.mpr ⟨Nat.not_lt.mpr hcontrol, hslash⟩
    rw [List.cons_append, stringBody?, if_neg hplain, ih]
    · rfl
    all_goals simp_all
  | short he more ih =>
    have hu := ne_of_shortEscape? he
    rw [List.cons_append, List.cons_append, stringBody?]
    · simp only [he, ih, withChar, Option.map_some]
    all_goals simp_all
  | unit hunit hhigh hlow more ih =>
    simp [stringBody?, hunit, hhigh, hlow, ih, withChar]
  | pair hunit hhigh hunit' hlow more ih =>
    simp [stringBody?, hunit, hhigh, hunit', hlow, ih, withChar]

/-- A string as it is written stands for the string. -/
theorem denotes_escaped (s : String) : Denotes (escaped s) s.toList := by
  unfold escaped
  induction s.toList with
  | nil => exact .nil
  | cons c cs ih =>
    rw [List.flatMap_cons]
    unfold escapedChar
    split_ifs with hquoted hb ht hn hf hr hcontrol
    · rcases hquoted with rfl | rfl <;> exact .short rfl ih
    · exact .short (hb ▸ rfl) ih
    · exact .short (ht ▸ rfl) ih
    · exact .short (hn ▸ rfl) ih
    · exact .short (hf ▸ rfl) ih
    · exact .short (hr ▸ rfl) ih
    · have hc := Denotes.unit (codeUnit?_control hcontrol) (by simp [isHighSurrogate]; omega)
        (by simp [isLowSurrogate]; omega) ih
      rwa [Char.ofNat_toNat] at hc
    · rw [not_or] at hquoted
      exact .plain (Nat.not_lt.mp hcontrol) hquoted.1 hquoted.2 ih

/-! ### Numbers -/

/-- What may stand after the whole part of a number: nothing, or a point and digits. -/
inductive Fraction : List Char → Prop
  /-- Nothing. -/
  | none : Fraction []
  /-- A point and digits. -/
  | part {digits : List Char} (hlead : digits ≠ []) (hdigits : Digits digits) :
      Fraction ('.' :: digits)

/-- What may stand at the end of a number: nothing, or a power of ten. -/
inductive Power : List Char → Prop
  /-- Nothing. -/
  | none : Power []
  /-- A letter, at most one sign, and digits. -/
  | part {letter : Char} {sign digits : List Char} (hletter : letter ∈ ['e', 'E'])
      (hsign : sign ∈ [[], ['+'], ['-']]) (hlead : digits ≠ []) (hdigits : Digits digits) :
      Power (letter :: (sign ++ digits))

/-- A number as it may be written. Only zero has a zero in front. -/
inductive Numeral : List Char → Prop
  /-- A sign, the whole part, a fraction and a power of ten. -/
  | mk {sign whole fraction power : List Char} (hsign : sign ∈ [[], ['-']]) (hlead : whole ≠ [])
      (hwhole : Digits whole) (hzero : whole.head? = some '0' → whole = ['0'])
      (hfraction : Fraction fraction) (hpower : Power power) :
      Numeral (sign ++ (whole ++ (fraction ++ power)))

/-! ### Tokens -/

/-- A token, as it is written. -/
abbrev Token := List Char

/-- A text that consists of the given tokens, with any blanks before, between and after them. -/
inductive Spaced : List Token → List Char → Prop
  /-- Only blanks are left. -/
  | nil {blanks : List Char} (hblanks : ∀ c ∈ blanks, isBlank c) : Spaced [] blanks
  /-- A token after blanks. -/
  | cons {blanks : List Char} {token : Token} {tokens : List Token} {rest : List Char}
      (hblanks : ∀ c ∈ blanks, isBlank c) (more : Spaced tokens rest) :
      Spaced (token :: tokens) (blanks ++ (token ++ rest))

/-- A token between quotes. -/
def quoted (body : List Char) : Token := '"' :: (body ++ ['"'])

/-- The comma before an item or entry that is not the first. -/
def comma (first : Bool) : List Token := if first then [] else [[',']]

/-- The parts of an array or object that remain, up to its closing bracket. -/
def partTokens (close : Char) (first : Bool) : List (List Token) → List Token
  | [] => [[close]]
  | part :: rest => comma first ++ (part ++ partTokens close false rest)

/-- The tokens of an array. -/
def arrayTokens (items : List (List Token)) : List Token := ['['] :: partTokens ']' true items

/-- The tokens of an object. -/
def objectTokens (entries : List (List Token)) : List Token :=
  ['\x7b'] :: partTokens '\x7d' true entries

/-- The tokens of an entry, given what stands between the quotes of its key and the tokens of its
value. -/
def entryTokens (entry : List Char × List Token) : List Token :=
  quoted entry.1 :: [':'] :: entry.2

/-- A token that is a value by itself. -/
inductive Scalar : Token → Prop
  /-- The null value. -/
  | null : Scalar ['n', 'u', 'l', 'l']
  /-- A truth value. -/
  | boolean (b : Bool) : Scalar (booleanText b)
  /-- A number. -/
  | number {cs : List Char} (h : Numeral cs) : Scalar cs
  /-- A string. -/
  | text {body : List Char} (h : Quotable body) : Scalar (quoted body)

/-- The tokens of a value. -/
inductive WellFormed : List Token → Prop
  /-- A single token. -/
  | scalar {token : Token} (h : Scalar token) : WellFormed [token]
  /-- An array. -/
  | array {items : List (List Token)} (hitems : ∀ item ∈ items, WellFormed item) :
      WellFormed (arrayTokens items)
  /-- An object. -/
  | object {entries : List (List Char × List Token)}
      (hkeys : ∀ entry ∈ entries, Quotable entry.1)
      (hvalues : ∀ entry ∈ entries, WellFormed entry.2) :
      WellFormed (objectTokens (entries.map entryTokens))

/-- Tokens that begin like a value. -/
def Opens (tokens : List Token) : Prop :=
  ∃ c token more, tokens = (c :: token) :: more ∧ opensValue c

theorem Opens.append {tokens : List Token} (h : Opens tokens) (after : List Token) :
    Opens (tokens ++ after) := by
  obtain ⟨c, token, more, rfl, hc⟩ := h
  exact ⟨c, token, more ++ after, rfl, hc⟩

/-- What may follow the tokens of a value. -/
inductive Closing : List Token → Prop
  /-- Nothing follows. -/
  | nil : Closing []
  /-- Another value follows. -/
  | comma (more : List Token) : Closing ([','] :: more)
  /-- An array ends. -/
  | bracket (more : List Token) : Closing ([']'] :: more)
  /-- An object ends. -/
  | brace (more : List Token) : Closing (['\x7d'] :: more)

section Parts

variable (close : Char) (first : Bool) (after : List Token)

theorem partTokens_cons (part : List Token) (parts : List (List Token)) :
    partTokens close first (part :: parts) ++ after =
      comma first ++ (part ++ (partTokens close false parts ++ after)) := by
  simp only [partTokens, List.append_assoc]

theorem arrayTokens_append (items : List (List Token)) :
    arrayTokens items ++ after = ['['] :: (partTokens ']' true items ++ after) := rfl

theorem objectTokens_append (entries : List (List Token)) :
    objectTokens entries ++ after = ['\x7b'] :: (partTokens '\x7d' true entries ++ after) := rfl

variable {close after}

/-- After a part comes another one, or the closing bracket. -/
theorem closing_partTokens (hclose : Closing ([close] :: after)) (parts : List (List Token)) :
    Closing (partTokens close false parts ++ after) := by
  cases parts with
  | nil => exact hclose
  | cons part parts => exact .comma _

/-- Behind every part but the last stands a comma, and the closing bracket behind the last. -/
theorem length_lt_partTokens (parts : List (List Token)) :
    parts.length < (partTokens close first parts).flatten.length + if first then 1 else 0 := by
  induction parts generalizing first with
  | nil => simp [partTokens]
  | cons part parts ih =>
    have hmore := ih false
    rw [partTokens, List.flatten_append, List.flatten_append, List.length_append,
      List.length_append, List.length_cons]
    cases first
    all_goals
      simp only [comma, Bool.false_eq_true, if_false, if_true, List.flatten_cons, List.flatten_nil,
        List.length_append, List.length_cons, List.length_nil] at hmore ⊢
      omega

end Parts

/-! ### Blanks -/

theorem skipBlanks_append {blanks : List Char} (h : ∀ c ∈ blanks, isBlank c) (cs : List Char) :
    skipBlanks (blanks ++ cs) = skipBlanks cs :=
  List.dropWhile_append_of_pos h

namespace Spaced

variable {tokens after : List Token} {cs : List Char}

/-- The first token of a text stands behind the blanks, and the others follow it. -/
theorem front {c : Char} {token : Token} (h : Spaced ((c :: token) :: tokens) cs)
    (hc : isBlank c = false) :
    ∃ rest, Spaced tokens rest ∧ skipBlanks cs = c :: (token ++ rest) ∧
      token.length + rest.length < cs.length := by
  cases h with
  | @cons blanks _ _ rest hblanks more =>
    refine ⟨rest, more, ?_, ?_⟩
    · rw [skipBlanks_append hblanks, List.cons_append, skipBlanks, List.dropWhile_cons, hc]
      rfl
    · simp only [List.length_append, List.length_cons]
      omega

/-- A mark of one character. -/
theorem mark {c : Char} (h : Spaced ([c] :: tokens) cs) (hc : isBlank c = false) :
    ∃ rest, Spaced tokens rest ∧ skipBlanks cs = c :: rest ∧ rest.length < cs.length := by
  obtain ⟨rest, hrest, hskip, hlength⟩ := h.front hc
  exact ⟨rest, hrest, hskip, by simpa using hlength⟩

/-- What follows a value in a text. -/
theorem delimited (h : Spaced after cs) (hafter : Closing after) : Delimited cs := by
  have hblank {blanks : List Char} (hblanks : ∀ c ∈ blanks, isBlank c) (rest : List Char)
      (hrest : Delimited rest) : Delimited (blanks ++ rest) := by
    cases blanks with
    | nil => exact hrest
    | cons c blanks =>
      have hc := hblanks c List.mem_cons_self
      simp only [isBlank, Bool.or_eq_true, decide_eq_true_eq] at hc
      rcases hc with ((rfl | rfl) | rfl) | rfl
      · exact .space _
      · exact .newLine _
      · exact .tab _
      · exact .carriage _
  cases h with
  | nil hblanks => simpa using hblank hblanks [] .nil
  | cons hblanks more =>
    refine hblank hblanks _ ?_
    cases hafter with
    | comma => exact .comma _
    | bracket => exact .bracket _
    | brace => exact .brace _

/-- A text is at least as long as its tokens. -/
theorem length_flatten_le (h : Spaced tokens cs) : tokens.flatten.length ≤ cs.length := by
  induction h with
  | nil => simp
  | cons hblanks more ih =>
    simp only [List.flatten_cons, List.length_append]
    omega

/-- Whether a text consists of the given tokens. -/
def check : List Token → List Char → Bool
  | [], cs => cs.all isBlank
  | token :: tokens, cs =>
    match afterWord? token (skipBlanks cs) with
    | some rest => check tokens rest
    | none => false

theorem of_check (h : check tokens cs) : Spaced tokens cs := by
  induction tokens generalizing cs with
  | nil => exact .nil (List.all_eq_true.mp h)
  | cons token tokens ih =>
    rw [check] at h
    split at h
    · rename_i rest hword
      have hblanks : ∀ c ∈ cs.takeWhile isBlank, isBlank c := fun _ => List.mem_takeWhile_imp
      have htext := List.takeWhile_append_dropWhile (p := isBlank) (l := cs)
      rw [← htext, show cs.dropWhile isBlank = token ++ rest from eq_append_of_afterWord? hword]
      exact .cons hblanks (ih h)
    · cases h

/-- A text has room for the parts that it consists of. -/
theorem length_parts_le {close : Char} {parts : List (List Token)}
    (h : Spaced (partTokens close true parts ++ after) cs) : parts.length ≤ cs.length := by
  have hlength := h.length_flatten_le
  have hparts : parts.length < (partTokens close true parts).flatten.length + 1 :=
    length_lt_partTokens true parts
  rw [List.flatten_append, List.length_append] at hlength
  omega

end Spaced

end Whiteboard.Json
