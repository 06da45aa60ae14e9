import Mathlib.Tactic.IntervalCases
import Whiteboard.Json.Lexer
import Whiteboard.Json.Tree

/-!
# Strings and identifiers between quotes

What stands between quotes is read one character of the string at a time: a character and its
written form, plain or escaped, always go together. An identifier is a string of a known form,
which is read group by group.
-/

namespace Whiteboard

theorem Uuid.hexValue?_digitChar {n : Nat} (h : n < 16) :
    hexValue? (Nat.digitChar n) = some n := by
  interval_cases n <;> rfl

namespace Json

/-- A control character without a short escape is read back from its code unit. -/
theorem codeUnit?_control {n : Nat} (h : n < 32) :
    codeUnit? '0' '0' (Nat.digitChar (n / 16)) (Nat.digitChar (n % 16)) = some n := by
  have hhigh : n / 16 < 16 := by omega
  have hlow : n % 16 < 16 := by omega
  have hzero : Uuid.hexValue? '0' = some 0 := rfl
  simp only [codeUnit?, Uuid.hexValue?_digitChar hhigh, Uuid.hexValue?_digitChar hlow, hzero]
  exact congrArg some (by omega)

theorem stringBody?_escapedChar (c : Char) (cs : List Char) :
    stringBody? (escapedChar c ++ cs) = withChar c (stringBody? cs) := by
  unfold escapedChar
  split_ifs with hquoted hb ht hn hf hr hcontrol
  · rcases hquoted with rfl | rfl <;> rfl
  · subst hb; rfl
  · subst ht; rfl
  · subst hn; rfl
  · subst hf; rfl
  · subst hr; rfl
  · -- A control is no surrogate, so its code unit stands for itself.
    have hhigh : isHighSurrogate c.toNat = false := by
      simp [isHighSurrogate]
      omega
    have hlow : isLowSurrogate c.toNat = false := by
      simp [isLowSurrogate]
      omega
    simp [stringBody?, codeUnit?_control hcontrol, hhigh, hlow]
  · rw [not_or] at hquoted
    have hplain : ¬(c.toNat < 32 ∨ c = '\\') := not_or.mpr ⟨hcontrol, hquoted.2⟩
    rw [List.singleton_append, stringBody?, if_neg hplain]
    all_goals simp_all

/-- A string is read back up to its closing quote, whatever follows. -/
theorem stringBody?_escaped (s : String) (rest : List Char) :
    stringBody? (escaped s ++ '"' :: rest) = some (s.toList, rest) := by
  unfold escaped
  induction s.toList with
  | nil => rfl
  | cons c cs ih =>
    rw [List.flatMap_cons, List.append_assoc, stringBody?_escapedChar, ih]
    rfl

end Json

namespace Uuid

theorem readBytes?_hexBytes (bytes : List UInt8) (rest : List Char) :
    readBytes? bytes.length (bytes.flatMap hexByte ++ rest) = some (bytes, rest) := by
  induction bytes with
  | nil => rfl
  | cons b bytes ih =>
    have hhigh : b.toNat / 16 < 16 := by
      have := b.toNat_lt
      omega
    have hlow : b.toNat % 16 < 16 := by omega
    simp only [List.flatMap_cons, hexByte, List.length_cons, List.cons_append, List.nil_append,
      readBytes?, hexValue?_digitChar hhigh, hexValue?_digitChar hlow, ih]
    change some (UInt8.ofNat (16 * (b.toNat / 16) + b.toNat % 16) :: bytes, rest) = _
    rw [Nat.div_add_mod, UInt8.ofNat_toNat]

/-- Bytes are read back group by group, when the groups take all of them. -/
theorem readGroups?_groupedDigits {lengths : List Nat} {bytes : List UInt8}
    (h : bytes.length = lengths.sum) :
    readGroups? lengths (groupedDigits lengths bytes) = some (bytes, []) := by
  induction lengths generalizing bytes with
  | nil =>
    rw [List.eq_nil_of_length_eq_zero h]
    rfl
  | cons n more ih =>
    rw [List.sum_cons] at h
    have hlength : (bytes.take n).length = n := by
      rw [List.length_take]
      omega
    have hfirst (rest : List Char) :
        readBytes? n ((bytes.take n).flatMap hexByte ++ rest) = some (bytes.take n, rest) := by
      have hread := readBytes?_hexBytes (bytes.take n) rest
      rwa [hlength] at hread
    -- Only the last group has no hyphen after it.
    cases more with
    | nil =>
      have hall : bytes.take n = bytes := List.take_of_length_le (by simpa using h.le)
      have hread := hfirst []
      rw [List.append_nil] at hread
      rw [readGroups?, groupedDigits, hread, hall]
    | cons m more =>
      have hdrop : (bytes.drop n).length = (m :: more).sum := by
        rw [List.length_drop]
        omega
      have hothers := ih hdrop
      simp only [readGroups?, groupedDigits, hfirst]
      simp [hothers]

/-- What begins with a digit is not enclosed. -/
theorem enclosed?_digitChar {n : Nat} (h : n < 16) (cs : List Char) :
    enclosed? (Nat.digitChar n :: cs) = none := by
  have hlower : (Nat.digitChar n).toLower ≠ 'u' := by interval_cases n <;> decide
  simp [enclosed?, urnPrefix, hlower]

/-- The written form of an identifier begins with a digit, so it is in hyphenated groups. -/
theorem ofText?_toText (id : Uuid) : ofText? id.toText = some id := by
  obtain ⟨b, bytes, hbytes⟩ := List.exists_cons_of_length_eq_add_one id.size
  have hplain : enclosed? (groupedDigits groups id.bytes) = none := by
    have hdigit : b.toNat / 16 < 16 := by
      have := b.toNat_lt
      omega
    rw [hbytes]
    exact enclosed?_digitChar hdigit _
  have hgroups : readGroups? groups (groupedDigits groups id.bytes) = some (id.bytes, []) :=
    readGroups?_groupedDigits id.size
  simp only [ofText?, toText, String.toList_ofList, hplain, ofGroups?, hgroups, ofBytes?, id.size]
  rfl

end Uuid

end Whiteboard
