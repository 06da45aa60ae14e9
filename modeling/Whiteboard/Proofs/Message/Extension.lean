import Whiteboard.Proofs.Frame.Extension
import Whiteboard.Proofs.Message.RoundTrip

/-!
# Frames that are cut short or continued

Reading a frame tells what reading a longer one will give. A frame is never the beginning of
another one, and what is left of a frame that was cut short is recognised as such.
-/

namespace Whiteboard

namespace Frame

/-- What a way of reading frames makes of a frame determines what it makes of the frame with more
bytes behind it. -/
structure Grows {α : Type} (read : Frame → Except CodecError α) : Prop where
  /-- Whatever follows a frame that can be read is left over. -/
  whole : ∀ {frame a}, read frame = .ok a →
    ∀ more ≠ [], read (frame ++ more) = .error (.decode (.trailing more.length))
  /-- More bytes add to those left over. -/
  trailing : ∀ {frame n}, read frame = .error (.decode (.trailing n)) →
    ∀ more, read (frame ++ more) = .error (.decode (.trailing (n + more.length)))
  /-- A frame that falls short does so by a number of bytes, and as long as fewer follow it falls
  short by the rest of them. -/
  short : ∀ {frame n}, read frame = .error (.decode (.unexpectedEnd n)) →
    0 < n ∧ ∀ more, more.length < n →
      read (frame ++ more) = .error (.decode (.unexpectedEnd (n - more.length)))
  /-- The length of a string or an identifier that is written too wide, with fewer than eight bytes
  after its marker, changes its name as soon as there are eight. -/
  renamed : ∀ {frame found}, read frame = .error (.decode (.integerTooWide .word64 found)) →
    ∃ seen < 8, ∀ more, read (frame ++ more) =
      .error (.decode (.integerTooWide (lengthName (seen + more.length)) found))
  /-- Every other error stays as it is. -/
  final : ∀ {frame e}, e.isFinal → read frame = .error (.decode e) →
    ∀ more, read (frame ++ more) = .error (.decode e)
  /-- There are no errors but those of reading frames. -/
  decoding : ∀ {frame e}, read frame = .error e → ∃ fault, e = .decode fault
  /-- What is left of a frame that was cut short falls short. -/
  truncated : ∀ {front more a}, read (front ++ more) = .ok a → more ≠ [] →
    ∃ n, read front = .error (.decode (.unexpectedEnd n))

theorem error_of_decode {α : Type} {x : Except Error α} {e : Error}
    (h : x.mapError CodecError.decode = .error (.decode e)) : x = .error e := by
  obtain ⟨e', hx, heq⟩ := error_of_mapError h
  cases heq
  exact hx

variable {α : Type} [HasShape α]

theorem decode_of_error {frame : Frame} {e : Error} (h : (HasShape.shape α).read frame = .error e) :
    (decode frame : Except Error α) = .error e := by
  rw [decode_eq, h]

theorem decode_of_left {frame rest : Frame} {v : (HasShape.shape α).Value}
    (h : (HasShape.shape α).read frame = .ok (v, rest)) (hrest : rest ≠ []) :
    (decode frame : Except Error α) = .error (.trailing rest.length) := by
  rw [decode_eq, h]
  cases rest with
  | nil => exact absurd rfl hrest
  | cons b rest => rfl

/-- An error of a whole frame is that of a step of reading, unless bytes are left over. -/
theorem read_of_decode_error {frame : Frame} {e : Error}
    (h : (decode frame : Except Error α) = .error e) :
    (HasShape.shape α).read frame = .error e ∨
      ∃ v rest, (HasShape.shape α).read frame = .ok (v, rest) ∧ rest ≠ [] ∧
        e = .trailing rest.length := by
  cases hread : (HasShape.shape α).read frame with
  | error e' =>
    rw [decode_of_error hread] at h
    cases h
    exact .inl rfl
  | ok p =>
    obtain ⟨v, rest⟩ := p
    by_cases hrest : rest = []
    · rw [decode_eq, hread, hrest] at h
      cases h
    · rw [decode_of_left hread hrest] at h
      cases h
      exact .inr ⟨v, rest, rfl, hrest, rfl⟩

/-- A failure of a step lasts when the step reads a whole frame. -/
theorem lasts_decode {frame : Frame} {e : Error} (h : (HasShape.shape α).read frame = .error e) :
    e.Lasts fun more => (decode (frame ++ more) : Except Error α) :=
  ((HasShape.shape α).stable_read.error h).imp fun _ _ => decode_of_error

theorem decode_append_of_left {frame rest : Frame} {v : (HasShape.shape α).Value}
    (h : (HasShape.shape α).read frame = .ok (v, rest)) {more : Frame} (hmore : rest ++ more ≠ []) :
    (decode (frame ++ more) : Except Error α) = .error (.trailing (rest.length + more.length)) := by
  rw [decode_of_left ((HasShape.shape α).stable_read.ok h more) hmore, List.length_append]

/-- An error of a whole frame, other than bytes left over, lasts. -/
theorem lasts_of_decode_error {frame : Frame} {e : Error}
    (h : (decode frame : Except Error α) = .error e) (he : ∀ n, e ≠ .trailing n) :
    e.Lasts fun more => (decode (frame ++ more) : Except Error α) := by
  rcases read_of_decode_error h with hread | ⟨v, rest, -, -, rfl⟩
  · exact lasts_decode hread
  · exact absurd rfl (he _)

theorem decode_trailing {frame : Frame} {n : Nat}
    (h : (decode frame : Except Error α) = .error (.trailing n)) (more : Frame) :
    (decode (frame ++ more) : Except Error α) = .error (.trailing (n + more.length)) := by
  rcases read_of_decode_error h with hread | ⟨v, rest, hread, hrest, heq⟩
  · exact (lasts_decode hread).elim
  · cases heq
    exact decode_append_of_left hread (by simp [hrest])

/-- What is left of a frame that was cut short can neither be read nor fail in another way: then
the frame could not be read either. -/
theorem decode_front {front more : Frame} {a : α} (h : decode (front ++ more) = .ok a)
    (hmore : more ≠ []) : ∃ n, (decode front : Except Error α) = .error (.unexpectedEnd n) := by
  cases hfront : (decode front : Except Error α) with
  | ok b =>
    rw [decode_append_of_left (read_of_decode hfront) (by simpa using hmore)] at h
    cases h
  | error e =>
    by_cases htrailing : ∃ n, e = .trailing n
    · obtain ⟨n, rfl⟩ := htrailing
      rw [decode_trailing hfront] at h
      cases h
    · have hlasts := lasts_of_decode_error hfront fun n hn => htrailing ⟨n, hn⟩
      rcases hlasts.short_or_fails with ⟨n, rfl⟩ | hfails
      · exact ⟨n, rfl⟩
      · obtain ⟨e', hagain⟩ := hfails more
        rw [h] at hagain
        cases hagain

theorem grows_decode :
    Grows fun frame => (decode frame : Except Error α).mapError CodecError.decode where
  whole {frame a} h more hmore := by
    have hread := read_of_decode (ok_of_mapError h)
    have hleft : [] ++ more ≠ [] := by simpa using hmore
    have hagain := decode_append_of_left hread hleft
    rw [List.length_nil, Nat.zero_add] at hagain
    exact congrArg (Except.mapError _) hagain
  trailing h more := congrArg (Except.mapError _) (decode_trailing (error_of_decode h) more)
  short {frame n} h := by
    obtain ⟨hpos, hagain⟩ := lasts_of_decode_error (error_of_decode h) (by simp)
    exact ⟨hpos, fun more hmore => congrArg (Except.mapError _) (hagain more hmore)⟩
  renamed {frame found} h := by
    obtain ⟨seen, hseen, hagain⟩ := lasts_of_decode_error (error_of_decode h) (by simp)
    exact ⟨seen, hseen, fun more => congrArg (Except.mapError _) (hagain more)⟩
  final {frame e} he h more := by
    have hne : ∀ n, e ≠ .trailing n := by
      rintro n rfl
      cases he
    have hagain := (Error.lasts_of_final he).mp (lasts_of_decode_error (error_of_decode h) hne)
    exact congrArg (Except.mapError _) (hagain more)
  decoding {frame e} h := by
    obtain ⟨fault, -, heq⟩ := error_of_mapError h
    exact ⟨fault, heq.symm⟩
  truncated {front more a} h hmore := by
    obtain ⟨n, hfront⟩ := decode_front (ok_of_mapError h) hmore
    exact ⟨n, congrArg (Except.mapError _) hfront⟩

end Frame

/-- What reading a frame gives, for arriving messages as for requests, determines what reading a
continuation of the frame gives. -/
theorem ofFrame_grows : Frame.Grows Inbound.ofFrame ∧ Frame.Grows Request.ofFrame :=
  ⟨Frame.grows_decode, Frame.grows_decode⟩

/-- The length of a reason, begun with a marker that no length can have, gets another name in the
message when eight bytes follow the marker. So an error that is neither about missing bytes nor
about bytes left over need not stay as it is. -/
theorem ofFrame_not_final :
    ¬ ∀ (frame more : Frame) (e : Frame.Error), (∀ n, e ≠ .unexpectedEnd n) →
      (∀ n, e ≠ .trailing n) → Inbound.ofFrame frame = .error (.decode e) →
      ∃ e', Inbound.ofFrame (frame ++ more) = .error e' ∧
        e'.message = (CodecError.decode e).message := by
  intro h
  have hshort : Inbound.ofFrame [0, 0, 1, 3, 254] =
      .error (.decode (.integerTooWide .word64 .word128)) := rfl
  have hlong : Inbound.ofFrame ([0, 0, 1, 3, 254] ++ [0, 0, 0, 0, 0, 0, 0, 0]) =
      .error (.decode (.integerTooWide .word32 .word128)) := rfl
  obtain ⟨e', hagain, hmessage⟩ := h _ _ _ (by simp) (by simp) hshort
  rw [hlong] at hagain
  cases hagain
  exact absurd hmessage (by decide +kernel)

end Whiteboard
