import Whiteboard.Frame.Codec
import Whiteboard.Proofs.Frame.Varint

/-!
# Reading longer input

A step of reading looks at its input from left to right and does not look past what it takes, with
one exception: the error for a length of bytes that is written too wide depends on whether eight
more bytes could be looked at. What a step makes of some bytes therefore tells what it makes of
the same bytes with more behind them.
-/

namespace Whiteboard

open Whiteboard.Frame

namespace Frame

/-- The name in errors of the length of a byte string, by the number of bytes after the marker. -/
def lengthName (following : Nat) : Width := if following < 8 then .word64 else .word32

/-- Whether an error stays as it is, whatever follows the input. -/
def Error.isFinal : Error → Bool
  | .unexpectedEnd _ | .integerTooWide .word64 _ | .trailing _ => false
  | _ => true

/-- What becomes of the failure of a step when bytes follow its input. `again more` is the result
for the input with `more` behind it. A shortfall shrinks by the bytes that are there now, until
there are enough; the length of a byte string changes its name once eight bytes follow the marker;
any other error stays. No step complains of bytes left over. -/
def Error.Lasts {β : Type} (again : List UInt8 → Except Error β) : Error → Prop
  | .unexpectedEnd n =>
    0 < n ∧ ∀ more, more.length < n → again more = .error (.unexpectedEnd (n - more.length))
  | .integerTooWide .word64 found =>
    ∃ seen < 8, ∀ more, again more = .error (.integerTooWide (lengthName (seen + more.length)) found)
  | .trailing _ => False
  | e => ∀ more, again more = .error e

/-- A step whose results and failures carry over to longer input. -/
structure Stable {α : Type} (step : Reader α) : Prop where
  /-- A result is found again, and what follows the input is left over as well. -/
  ok : ∀ {bytes a rest}, step bytes = .ok (a, rest) →
    ∀ more, step (bytes ++ more) = .ok (a, rest ++ more)
  /-- A failure lasts. -/
  error : ∀ {bytes e}, step bytes = .error e → e.Lasts fun more => step (bytes ++ more)

theorem Error.lasts_of_final {β : Type} {again : List UInt8 → Except Error β} {e : Error}
    (he : e.isFinal) : e.Lasts again ↔ ∀ more, again more = .error e := by
  unfold Error.isFinal at he
  unfold Error.Lasts
  split at he
  · cases he
  · cases he
  · cases he
  · rfl

theorem Error.Lasts.imp {β γ : Type} {again : List UInt8 → Except Error β}
    {again' : List UInt8 → Except Error γ} {e : Error} (h : e.Lasts again)
    (himp : ∀ more e', again more = .error e' → again' more = .error e') : e.Lasts again' := by
  by_cases hfinal : e.isFinal
  · rw [lasts_of_final hfinal] at h ⊢
    exact fun more => himp _ _ (h more)
  · unfold Error.isFinal at hfinal
    split at hfinal
    · exact ⟨h.1, fun more hmore => himp _ _ (h.2 more hmore)⟩
    · obtain ⟨seen, hseen, h⟩ := h
      exact ⟨seen, hseen, fun more => himp _ _ (h more)⟩
    · exact h
    · exact absurd rfl hfinal

/-- Only a shortfall can be made good. -/
theorem Error.Lasts.short_or_fails {β : Type} {again : List UInt8 → Except Error β} {e : Error}
    (h : e.Lasts again) : (∃ n, e = .unexpectedEnd n) ∨ ∀ more, ∃ e', again more = .error e' := by
  by_cases hfinal : e.isFinal
  · exact .inr fun more => ⟨e, (lasts_of_final hfinal).mp h more⟩
  · unfold Error.isFinal at hfinal
    split at hfinal
    · exact .inl ⟨_, rfl⟩
    · obtain ⟨seen, -, hagain⟩ := h
      exact .inr fun more => ⟨_, hagain more⟩
    · exact h.elim
    · exact absurd rfl hfinal

namespace Stable

variable {α β : Type}

theorem pure (a : α) : Stable (pure a : Reader α) where
  ok h more := by
    cases h
    rfl
  error h := by cases h

theorem throw {e : Error} (he : e.isFinal) : Stable (throw e : Reader α) where
  ok h := by cases h
  error h := by
    cases h
    exact (Error.lasts_of_final he).mpr fun _ => rfl

theorem bind {step : Reader α} {next : α → Reader β} (hstep : Stable step)
    (hnext : ∀ a, Stable (next a)) : Stable (step >>= next) where
  ok {bytes b rest} h more := by
    change (step bytes >>= fun p => next p.1 p.2) = .ok (b, rest) at h
    cases hfirst : step bytes with
    | error e =>
      rw [hfirst] at h
      cases h
    | ok p =>
      rw [hfirst] at h
      rw [bind_eq_of_ok (hstep.ok hfirst more)]
      exact (hnext p.1).ok h more
  error {bytes e} h := by
    change (step bytes >>= fun p => next p.1 p.2) = .error e at h
    cases hfirst : step bytes with
    | error e' =>
      rw [hfirst] at h
      cases h
      refine (hstep.error hfirst).imp fun more e' he => ?_
      change (step (bytes ++ more) >>= fun p => next p.1 p.2) = .error e'
      rw [he]
      rfl
    | ok p =>
      rw [hfirst] at h
      refine ((hnext p.1).error h).imp fun more e' he => ?_
      rw [bind_eq_of_ok (hstep.ok hfirst more), he]

theorem byte : Stable byte where
  ok {bytes a rest} h more := by
    cases bytes with
    | nil => cases h
    | cons b bs =>
      cases h
      rfl
  error {bytes e} h := by
    cases bytes with
    | nil =>
      cases h
      refine ⟨Nat.one_pos, fun more hmore => ?_⟩
      obtain rfl : more = [] := List.eq_nil_of_length_eq_zero (by omega)
      rfl
    | cons b bs => cases h

theorem take (n : Nat) : Stable (take n) where
  ok {bytes a rest} h more := by
    unfold Frame.take at h ⊢
    by_cases hlen : (bytes.take n).length = n
    · have hn : n ≤ bytes.length := by
        rw [List.length_take] at hlen
        omega
      simp only [if_pos hlen] at h
      cases h
      simp [List.take_append_of_le_length hn, List.drop_append_of_le_length hn, hn]
    · simp only [if_neg hlen] at h
      cases h
  error {bytes e} h := by
    unfold Frame.take at h
    by_cases hlen : (bytes.take n).length = n
    · simp only [if_pos hlen] at h
      cases h
    · simp only [if_neg hlen] at h
      cases h
      rw [List.length_take] at hlen ⊢
      refine ⟨by omega, fun more hmore => ?_⟩
      have hshort : ¬ ((bytes ++ more).take n).length = n := by
        rw [List.length_take, List.length_append]
        omega
      have hleft : n - ((bytes ++ more).take n).length = n - min n bytes.length - more.length := by
        rw [List.length_take, List.length_append]
        omega
      simp only [Frame.take, if_neg hshort, hleft]

theorem namedWidth_word64 (following : List UInt8) :
    Varint.namedWidth .word64 following = lengthName following.length := by
  simp only [Varint.namedWidth, lengthName, List.length_take]
  by_cases hlen : following.length < 8
  · rw [if_pos hlen, if_neg (by omega)]
  · rw [if_neg hlen, if_pos (by omega)]

/-- A marker that is refused is refused in front of longer input as well. Its error is final unless
it could still change its name. -/
theorem lasts_refused {width : Width} {marker : UInt8} {found : Marker}
    (h : ∀ named, Varint.payload width named marker = .error (.integerTooWide named found))
    (following : List UInt8) :
    (Error.integerTooWide (Varint.namedWidth width following) found).Lasts fun more =>
      Varint.read width (marker :: following ++ more) := by
  have hagain : ∀ more, Varint.read width (marker :: following ++ more) =
      .error (.integerTooWide (Varint.namedWidth width (following ++ more)) found) := by
    intro more
    rw [List.cons_append, Varint.read_cons, h]
    rfl
  cases width with
  | word16 => exact hagain
  | word32 => exact hagain
  | count => exact hagain
  | word64 =>
    simp only [namedWidth_word64, List.length_append] at hagain ⊢
    by_cases hseen : following.length < 8
    · rw [show lengthName following.length = .word64 from if_pos hseen]
      exact ⟨following.length, hseen, hagain⟩
    · rw [show lengthName following.length = .word32 from if_neg hseen]
      intro more
      have hname : lengthName (following.length + more.length) = .word32 := if_neg (by omega)
      have hmore := hagain more
      rwa [hname] at hmore

theorem varint (width : Width) : Stable (Varint.read width) where
  ok {bytes n rest} h more := by
    cases bytes with
    | nil => cases h
    | cons marker following =>
      rw [Varint.read_cons] at h
      rw [List.cons_append, Varint.read_cons]
      rcases Varint.payload_cases width marker with ⟨-, hpay⟩ | ⟨count, -, hpay⟩ | ⟨found, hpay⟩
      · rw [hpay] at h ⊢
        cases h
        rfl
      · rw [hpay] at h ⊢
        change (Frame.take count following).map _ = _ at h
        change (Frame.take count (following ++ more)).map _ = _
        cases htake : Frame.take count following with
        | error e =>
          rw [htake] at h
          cases h
        | ok p =>
          rw [htake] at h
          cases h
          rw [(take count).ok htake more]
          rfl
      · rw [hpay] at h
        cases h
  error {bytes e} h := by
    cases bytes with
    | nil =>
      cases h
      refine ⟨Nat.one_pos, fun more hmore => ?_⟩
      obtain rfl : more = [] := List.eq_nil_of_length_eq_zero (by omega)
      rfl
    | cons marker following =>
      rw [Varint.read_cons] at h
      rcases Varint.payload_cases width marker with ⟨-, hpay⟩ | ⟨count, -, hpay⟩ | ⟨found, hpay⟩
      · rw [hpay] at h
        cases h
      · rw [hpay] at h
        change (Frame.take count following).map _ = _ at h
        cases htake : Frame.take count following with
        | ok p =>
          rw [htake] at h
          cases h
        | error e' =>
          rw [htake] at h
          cases h
          refine ((take count).error htake).imp fun more e' he => ?_
          rw [List.cons_append, Varint.read_cons, hpay]
          change (Frame.take count (following ++ more)).map _ = _
          rw [he]
          rfl
      · rw [hpay] at h
        cases h
        exact lasts_refused hpay following

theorem times {item : Reader α} (h : Stable item) (n : Nat) : Stable (times item n) := by
  induction n with
  | zero => exact pure []
  | succ n ih => exact h.bind fun a => ih.bind fun more => pure (a :: more)

theorem readBytes : Stable readBytes := (varint .word64).bind take

theorem readBuffer : Stable readBuffer := by
  refine (varint .word64).bind fun length => ?_
  by_cases hlength : memoryLimit ≤ length
  · simp only [if_pos hlength]
    exact (throw rfl).bind fun _ => take length
  · simp only [if_neg hlength]
    exact (pure ()).bind fun _ => take length

theorem presence {item : Reader α} (h : Stable item) (found : UInt8) :
    Stable (if found = 0 then Pure.pure none
      else if found = 1 then do return some (← item)
      else MonadExcept.throw (.badPresence found) : Reader (Option α)) := by
  split
  · exact pure none
  · split
    · exact h.bind fun a => pure (some a)
    · exact throw rfl

end Stable

end Frame

mutual

/-- What reading a value makes of some bytes carries over to longer input. -/
theorem Shape.stable_read (s : Shape) : Stable s.read := by
  match s with
  | .word16 => exact (Stable.varint .word16).bind fun n => .pure (UInt16.ofNat n)
  | .word32 => exact (Stable.varint .word32).bind fun n => .pure (UInt32.ofNat n)
  | .single => exact (Stable.take 4).bind fun bytes => .pure (Single.mk (.ofNat (ofLittleEndian bytes)))
  | .text =>
    refine Stable.readBuffer.bind fun bytes => ?_
    cases Text.ofUtf8 bytes with
    | ok t => exact .pure t
    | error fault => exact .throw rfl
  | .uuid =>
    refine Stable.readBytes.bind fun bytes => ?_
    cases Uuid.ofBytes? bytes with
    | some id => exact .pure id
    | none => exact .throw rfl
  | .optional s => exact Stable.byte.bind s.stable_read.presence
  | .list s => exact (Stable.varint .count).bind s.stable_read.times
  | .record _ fields => exact fields.stable_read
  | .choice cases =>
    exact (Stable.varint .word32).bind fun index => cases.stable_read rfl index

theorem Fields.stable_read (fields : Fields) : Stable fields.read := by
  match fields with
  | .nil => exact .pure ()
  | .cons _ _ s rest =>
    exact s.stable_read.bind fun v => rest.stable_read.bind fun vs => .pure (v, vs)

theorem Cases.stable_read (cases : Cases) {unknown : Error} (h : unknown.isFinal) (index : Nat) :
    Stable (cases.read unknown index) := by
  match cases, index with
  | .nil, _ => exact .throw h
  | .bare _ _, 0 => exact .pure (Sum.inl ())
  | .bare _ rest, index + 1 => exact (rest.stable_read h index).bind fun v => .pure (Sum.inr v)
  | .carrying _ s _, 0 => exact s.stable_read.bind fun v => .pure (Sum.inl v)
  | .carrying _ _ rest, index + 1 => exact (rest.stable_read h index).bind fun v => .pure (Sum.inr v)

end

end Whiteboard
