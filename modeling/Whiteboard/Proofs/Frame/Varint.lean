import Mathlib.Algebra.Group.Nat.Defs
import Whiteboard.Frame.Varint

/-!
# Reading numbers back

Each step of reading is described by what it makes of bytes with an arbitrary continuation. A
number is found again from its shortest form, at every width that holds it.
-/

namespace Whiteboard.Frame

/-! ### Steps of reading -/

theorem bind_eq_of_ok {α β : Type} {step : Reader α} {next : α → Reader β}
    {bytes rest : List UInt8} {a : α} (h : step bytes = .ok (a, rest)) :
    (step >>= next) bytes = next a rest := by
  change (step bytes >>= fun p => next p.1 p.2) = next a rest
  rw [h]
  rfl

theorem take_append (bytes rest : List UInt8) :
    take bytes.length (bytes ++ rest) = .ok (bytes, rest) := by
  simp [take]

/-- Reading one value after another from what they were written to. -/
theorem times_flatMap {α : Type} {item : Reader α} {write : α → List UInt8} {as : List α}
    (h : ∀ a ∈ as, ∀ rest, item (write a ++ rest) = .ok (a, rest)) (rest : List UInt8) :
    times item as.length (as.flatMap write ++ rest) = .ok (as, rest) := by
  induction as with
  | nil => rfl
  | cons a more ih =>
    have hfirst := h a List.mem_cons_self (more.flatMap write ++ rest)
    have hrest := ih fun b hb => h b (List.mem_cons_of_mem a hb)
    rw [List.flatMap_cons, List.append_assoc, List.length_cons, times, bind_eq_of_ok hfirst,
      bind_eq_of_ok hrest]
    rfl

/-! ### Numbers as bytes -/

@[simp] theorem length_littleEndian (count n : Nat) : (littleEndian count n).length = count := by
  induction count generalizing n with
  | zero => rfl
  | succ count ih => simp [littleEndian, ih]

theorem ofLittleEndian_littleEndian (count n : Nat) (h : n < 256 ^ count) :
    ofLittleEndian (littleEndian count n) = n := by
  induction count generalizing n with
  | zero =>
    have hn : n = 0 := by simpa using h
    rw [hn]
    rfl
  | succ count ih =>
    have hdiv : n / 256 < 256 ^ count := by
      rw [Nat.div_lt_iff_lt_mul (by decide)]
      rwa [Nat.pow_succ] at h
    have hbyte : (UInt8.ofNat n).toNat = n % 256 := UInt8.toNat_ofNat'
    rw [littleEndian, ofLittleEndian, ih _ hdiv, hbyte]
    omega

theorem take_littleEndian (count n : Nat) (rest : List UInt8) :
    take count (littleEndian count n ++ rest) = .ok (littleEndian count n, rest) := by
  have h := take_append (littleEndian count n) rest
  rwa [length_littleEndian] at h

/-- The first number that a width does not hold. -/
def Width.bound : Width → Nat
  | .word16 => 0x10000
  | .word32 => 0x100000000
  | .word64 | .count => 0x10000000000000000

namespace Varint

/-- A marker is the number itself, or asks for a number of bytes that the width has room for, or is
refused. What the width is called shows in the refusal only. -/
theorem payload_cases (width : Width) (marker : UInt8) :
    (marker < 251 ∧ ∀ named, payload width named marker = .ok (.inl marker.toNat)) ∨
      (∃ count, (marker = 251 ∧ count = 2 ∨ marker = 252 ∧ count = 4 ∧ fits32 width = true ∨
          marker = 253 ∧ count = 8 ∧ fits64 width = true) ∧
        ∀ named, payload width named marker = .ok (.inr count)) ∨
      ∃ found, ∀ named, payload width named marker = .error (.integerTooWide named found) := by
  by_cases h1 : marker < 251
  · exact .inl ⟨h1, fun _ => if_pos h1⟩
  right
  by_cases h2 : marker = 251
  · exact .inl ⟨2, .inl ⟨h2, rfl⟩, fun _ => by simp [payload, h2]⟩
  by_cases h3 : marker = 252
  · by_cases hfits : fits32 width = true
    · exact .inl ⟨4, .inr (.inl ⟨h3, rfl, hfits⟩), fun _ => by simp [payload, h3, hfits]⟩
    · exact .inr ⟨.word32, fun _ => by simp [payload, h3, hfits]⟩
  by_cases h4 : marker = 253
  · by_cases hfits : fits64 width = true
    · exact .inl ⟨8, .inr (.inr ⟨h4, rfl, hfits⟩), fun _ => by simp [payload, h4, hfits]⟩
    · exact .inr ⟨.word64, fun _ => by simp [payload, h4, hfits]⟩
  · exact .inr ⟨_, fun _ => by rw [payload, if_neg h1, if_neg h2, if_neg h3, if_neg h4]⟩

/-- What the marker byte decides: it is the number itself, it says how many bytes follow, or it is
an error. -/
theorem read_cons (width : Width) (marker : UInt8) (rest : List UInt8) :
    read width (marker :: rest) =
      (payload width (namedWidth width rest) marker).bind
        (Sum.elim (fun n => .ok (n, rest)) fun count =>
          (take count rest).map fun p => (ofLittleEndian p.1, p.2)) := by
  unfold read
  rw [bind_eq_of_ok (show byte (marker :: rest) = .ok (marker, rest) from rfl),
    bind_eq_of_ok (show (get : Reader (List UInt8)) rest = .ok (rest, rest) from rfl)]
  cases payload width (namedWidth width rest) marker with
  | error e => rfl
  | ok found =>
    cases found with
    | inl n => rfl
    | inr count =>
      show (take count rest).bind (fun p => .ok (ofLittleEndian p.1, p.2)) =
        (take count rest).map fun p => (ofLittleEndian p.1, p.2)
      cases take count rest with
      | error e => rfl
      | ok taken => rfl

/-- A marker that is followed by so many bytes of a number. -/
theorem read_marked {width : Width} {marker : UInt8} {count n : Nat}
    (hpayload : ∀ named, payload width named marker = .ok (.inr count)) (hn : n < 256 ^ count)
    (rest : List UInt8) :
    read width (marker :: littleEndian count n ++ rest) = .ok (n, rest) := by
  rw [List.cons_append, read_cons, hpayload]
  simp only [Except.bind, Sum.elim_inr, take_littleEndian, Except.map,
    ofLittleEndian_littleEndian count n hn]

/-- A number is read back from its shortest form at every width that holds it. -/
theorem read_write (width : Width) (n : Nat) (h : n < width.bound) (rest : List UInt8) :
    read width (write n ++ rest) = .ok (n, rest) := by
  unfold write
  by_cases h1 : n < 251
  · have hbyte : (UInt8.ofNat n).toNat = n := UInt8.toNat_ofNat_of_lt' (Nat.lt_trans h1 (by decide))
    have hlt : UInt8.ofNat n < 251 := by
      rw [UInt8.lt_iff_toNat_lt, hbyte]
      exact h1
    rw [if_pos h1, List.singleton_append, read_cons]
    simp only [payload, if_pos hlt, hbyte, Except.bind, Sum.elim_inl]
  · by_cases h2 : n < 0x10000
    · rw [if_neg h1, if_pos h2]
      exact read_marked (fun _ => rfl) (by omega) rest
    · by_cases h3 : n < 0x100000000
      · have hfits : fits32 width = true := by
          cases width <;> simp only [Width.bound] at h <;> first | rfl | omega
        rw [if_neg h1, if_neg h2, if_pos h3]
        exact read_marked (fun _ => by simp [payload, hfits]) (by omega) rest
      · have hfits : fits64 width = true ∧ n < 0x10000000000000000 := by
          cases width <;> simp only [Width.bound] at h <;> first | exact ⟨rfl, h⟩ | omega
        rw [if_neg h1, if_neg h2, if_neg h3, if_pos hfits.2]
        exact read_marked (fun _ => by simp [payload, hfits.1]) (by omega) rest

end Varint

end Whiteboard.Frame
