import Whiteboard.Frame.Codec
import Whiteboard.Proofs.Frame.Varint

/-!
# Reading what was written

A value of any shape is read back from its bytes, whatever follows them. Two things have to fit
where they are written: the value into memory, and the numbers of the cases of a choice into 32
bits. The first is true of all values that there are, the second of every shape with fewer cases.
-/

namespace Whiteboard

open Whiteboard.Frame

mutual

/-- A value that can be held in memory: there is a buffer for each of its strings, and the length
of each of its lists is a 64-bit number. -/
def Shape.Storable : (s : Shape) → s.Value → Prop
  | .text, (t : String) => (Text.utf8Bytes t).length < memoryLimit
  | .optional _, (none : Option _) => True
  | .optional s, some v => s.Storable v
  | .list s, (vs : List _) => vs.length < 2 ^ 64 ∧ ∀ v ∈ vs, s.Storable v
  | .record _ fields, v => fields.Storable v
  | .choice cases, v => cases.Storable v
  | .word16, _ | .word32, _ | .single, _ | .uuid, _ => True

/-- Fields that can all be held in memory. -/
def Fields.Storable : (fields : Fields) → fields.Value → Prop
  | .nil, _ => True
  | .cons _ _ s rest, (v, vs) => s.Storable v ∧ rest.Storable vs

/-- A case that carries what can be held in memory. -/
def Cases.Storable : (cases : Cases) → cases.Value → Prop
  | .bare _ _, .inl () => True
  | .bare _ rest, .inr v => rest.Storable v
  | .carrying _ s _, .inl v => s.Storable v
  | .carrying _ _ rest, .inr v => rest.Storable v

end

mutual

/-- Whether a value can be held in memory is found out by looking at its parts. -/
def Shape.decideStorable : (s : Shape) → (v : s.Value) → Decidable (s.Storable v)
  | .text, (t : String) => inferInstanceAs (Decidable ((Text.utf8Bytes t).length < memoryLimit))
  | .optional _, (none : Option _) => .isTrue trivial
  | .optional s, some v => s.decideStorable v
  | .list s, (vs : List _) =>
    have : DecidablePred s.Storable := s.decideStorable
    inferInstanceAs (Decidable (vs.length < 2 ^ 64 ∧ ∀ v ∈ vs, s.Storable v))
  | .record _ fields, v => fields.decideStorable v
  | .choice cases, v => cases.decideStorable v
  | .word16, _ | .word32, _ | .single, _ | .uuid, _ => .isTrue trivial

def Fields.decideStorable : (fields : Fields) → (v : fields.Value) → Decidable (fields.Storable v)
  | .nil, _ => .isTrue trivial
  | .cons _ _ s rest, (v, vs) =>
    have := s.decideStorable v
    have := rest.decideStorable vs
    inferInstanceAs (Decidable (s.Storable v ∧ rest.Storable vs))

def Cases.decideStorable : (cases : Cases) → (v : cases.Value) → Decidable (cases.Storable v)
  | .bare _ _, .inl () => .isTrue trivial
  | .bare _ rest, .inr v => rest.decideStorable v
  | .carrying _ s _, .inl v => s.decideStorable v
  | .carrying _ _ rest, .inr v => rest.decideStorable v

end

mutual

/-- Whether the cases of all choices in a shape are numbered by 32-bit numbers. -/
def Shape.indexable : Shape → Bool
  | .optional s | .list s => s.indexable
  | .record _ fields => fields.indexable
  | .choice cases => cases.names.length ≤ 2 ^ 32 && cases.indexable
  | .word16 | .word32 | .single | .text | .uuid => true

def Fields.indexable : Fields → Bool
  | .nil => true
  | .cons _ _ s rest => s.indexable && rest.indexable

def Cases.indexable : Cases → Bool
  | .nil => true
  | .bare _ rest => rest.indexable
  | .carrying _ s rest => s.indexable && rest.indexable

end

namespace Cases

/-- The number of a case, from zero. -/
def index : (cases : Cases) → cases.Value → Nat
  | .bare _ _, .inl () => 0
  | .bare _ rest, .inr v => rest.index v + 1
  | .carrying _ _ _, .inl _ => 0
  | .carrying _ _ rest, .inr v => rest.index v + 1

/-- The bytes of what a case carries. -/
def contents : (cases : Cases) → cases.Value → List UInt8
  | .bare _ _, .inl () => []
  | .bare _ rest, .inr v => rest.contents v
  | .carrying _ s _, .inl v => s.write v
  | .carrying _ _ rest, .inr v => rest.contents v

theorem index_lt (cases : Cases) (v : cases.Value) : cases.index v < cases.names.length := by
  match cases, v with
  | .bare _ rest, .inl () => exact Nat.succ_pos _
  | .bare _ rest, .inr v => exact Nat.succ_lt_succ (rest.index_lt v)
  | .carrying _ s rest, .inl v => exact Nat.succ_pos _
  | .carrying _ s rest, .inr v => exact Nat.succ_lt_succ (rest.index_lt v)

/-- A choice is written as the number of its case and what the case carries. -/
theorem write_eq (cases : Cases) (start : Nat) (v : cases.Value) :
    cases.write start v = Varint.write (start + cases.index v) ++ cases.contents v := by
  match cases, v with
  | .bare _ rest, .inl () => simp [write, index, contents]
  | .bare _ rest, .inr v =>
    rw [write, index, contents, rest.write_eq (start + 1) v, Nat.add_right_comm, Nat.add_assoc]
  | .carrying _ s rest, .inl v => simp [write, index, contents]
  | .carrying _ s rest, .inr v =>
    rw [write, index, contents, rest.write_eq (start + 1) v, Nat.add_right_comm, Nat.add_assoc]

end Cases

namespace Frame

theorem readBytes_writeBytes (bytes rest : List UInt8) (h : bytes.length < 2 ^ 64) :
    readBytes (writeBytes bytes ++ rest) = .ok (bytes, rest) := by
  have hlength := Varint.read_write .word64 bytes.length h (bytes ++ rest)
  rw [writeBytes, readBytes, List.append_assoc, bind_eq_of_ok hlength, take_append]

/-- Bytes for which there is a buffer are read back after their length. -/
theorem readBuffer_writeBytes (bytes rest : List UInt8) (h : bytes.length < memoryLimit) :
    readBuffer (writeBytes bytes ++ rest) = .ok (bytes, rest) := by
  have hbound : bytes.length < Width.word64.bound := Nat.lt_trans h (by decide)
  have hlength := Varint.read_write .word64 bytes.length hbound (bytes ++ rest)
  rw [writeBytes, readBuffer, List.append_assoc, bind_eq_of_ok hlength,
    if_neg (Nat.not_le.mpr h)]
  exact take_append bytes rest

end Frame

mutual

/-- A value is read back from its bytes, and what follows them is left over. -/
theorem Shape.read_write (s : Shape) (hs : s.indexable) (v : s.Value) (hv : s.Storable v)
    (rest : List UInt8) : s.read (s.write v ++ rest) = .ok (v, rest) := by
  match s, v with
  | .word16, (n : UInt16) =>
    have hn := Varint.read_write .word16 n.toNat n.toNat_lt rest
    rw [Shape.write, Shape.read, bind_eq_of_ok hn, UInt16.ofNat_toNat]
    rfl
  | .word32, (n : UInt32) =>
    have hn := Varint.read_write .word32 n.toNat n.toNat_lt rest
    rw [Shape.write, Shape.read, bind_eq_of_ok hn, UInt32.ofNat_toNat]
    rfl
  | .single, (x : Single) =>
    have hbits := take_littleEndian 4 x.bits.toNat rest
    rw [Shape.write, Shape.read, bind_eq_of_ok hbits,
      ofLittleEndian_littleEndian 4 x.bits.toNat x.bits.toNat_lt, UInt32.ofNat_toNat]
    rfl
  | .text, (t : String) =>
    rw [Shape.Storable] at hv
    rw [Shape.write, Shape.read, bind_eq_of_ok (readBuffer_writeBytes _ rest hv),
      Text.ofUtf8_utf8Bytes]
    rfl
  | .uuid, (id : Uuid) =>
    have hlength : id.bytes.length < 2 ^ 64 := by
      rw [id.size]
      decide
    rw [Shape.write, Shape.read, bind_eq_of_ok (readBytes_writeBytes _ rest hlength)]
    simp only [Uuid.ofBytes?, dif_pos id.size]
    rfl
  | .optional s, (none : Option _) => rfl
  | .optional s, some v =>
    rw [Shape.indexable] at hs
    rw [Shape.Storable] at hv
    have hread := s.read_write hs v hv rest
    rw [Shape.write, Shape.read, List.cons_append,
      bind_eq_of_ok (show byte (1 :: _) = .ok (1, _) from rfl)]
    change (s.read >>= fun v => pure (some v)) (s.write v ++ rest) = _
    rw [bind_eq_of_ok hread]
    rfl
  | .list s, (vs : List _) =>
    rw [Shape.indexable] at hs
    rw [Shape.Storable] at hv
    have hlength := Varint.read_write .count vs.length hv.1 (vs.flatMap s.write ++ rest)
    rw [Shape.write, Shape.read, List.append_assoc, bind_eq_of_ok hlength]
    exact times_flatMap (fun v hmem => s.read_write hs v (hv.2 v hmem)) rest
  | .record title fields, v =>
    rw [Shape.indexable] at hs
    rw [Shape.Storable] at hv
    rw [Shape.write, Shape.read]
    exact fields.read_write hs v hv rest
  | .choice cases, (v : cases.Value) =>
    simp only [Shape.indexable, Bool.and_eq_true, decide_eq_true_eq] at hs
    have hcase : cases.Storable v := hv
    have hindex : cases.index v < Width.word32.bound := Nat.lt_of_lt_of_le (cases.index_lt v) hs.1
    have hnumber := Varint.read_write .word32 _ hindex (cases.contents v ++ rest)
    change (Shape.choice cases).read (cases.write 0 v ++ rest) = _
    rw [Shape.read, cases.write_eq, Nat.zero_add, List.append_assoc, bind_eq_of_ok hnumber]
    exact cases.read_contents hs.2 v hcase _ rest

theorem Fields.read_write (fields : Fields) (hs : fields.indexable) (v : fields.Value)
    (hv : fields.Storable v) (rest : List UInt8) :
    fields.read (fields.write v ++ rest) = .ok (v, rest) := by
  match fields, v with
  | .nil, () => rfl
  | .cons name omittable s more, (v, vs) =>
    simp only [Fields.indexable, Bool.and_eq_true] at hs
    rw [Fields.Storable] at hv
    have hfirst := s.read_write hs.1 v hv.1 (more.write vs ++ rest)
    have hmore := more.read_write hs.2 vs hv.2 rest
    rw [Fields.write, Fields.read, List.append_assoc, bind_eq_of_ok hfirst, bind_eq_of_ok hmore]
    rfl

/-- What a case carries is read back under the number of the case. -/
theorem Cases.read_contents (cases : Cases) (hs : cases.indexable) (v : cases.Value)
    (hv : cases.Storable v) (unknown : Error) (rest : List UInt8) :
    cases.read unknown (cases.index v) (cases.contents v ++ rest) = .ok (v, rest) := by
  match cases, v with
  | .bare name more, .inl () => rfl
  | .bare name more, .inr v =>
    rw [Cases.indexable] at hs
    rw [Cases.Storable] at hv
    rw [Cases.index, Cases.contents, Cases.read,
      bind_eq_of_ok (more.read_contents hs v hv unknown rest)]
    rfl
  | .carrying name s more, .inl v =>
    simp only [Cases.indexable, Bool.and_eq_true] at hs
    rw [Cases.Storable] at hv
    rw [Cases.index, Cases.contents, Cases.read, bind_eq_of_ok (s.read_write hs.1 v hv rest)]
    rfl
  | .carrying name s more, .inr v =>
    simp only [Cases.indexable, Bool.and_eq_true] at hs
    rw [Cases.Storable] at hv
    rw [Cases.index, Cases.contents, Cases.read,
      bind_eq_of_ok (more.read_contents hs.2 v hv unknown rest)]
    rfl

end

namespace Frame

variable {α : Type} [HasShape α]

/-- A message that can be held in memory. -/
def Storable (a : α) : Prop := (HasShape.shape α).Storable (HasShape.toValue a)

instance (a : α) : Decidable (Storable a) :=
  (HasShape.shape α).decideStorable (HasShape.toValue a)

/-- A frame holds a message if reading succeeds and leaves nothing over. -/
theorem decode_eq (frame : Frame) :
    (decode frame : Except Error α) =
      match (HasShape.shape α).read frame with
      | .ok (v, []) => .ok (HasShape.ofValue v)
      | .ok (_, rest) => .error (.trailing rest.length)
      | .error e => .error e := by
  unfold decode readAll
  rw [StateT.run]
  rcases (HasShape.shape α).read frame with e | ⟨v, rest⟩
  · rfl
  · cases rest <;> rfl

theorem read_of_decode {frame : Frame} {a : α} (h : decode frame = .ok a) :
    (HasShape.shape α).read frame = .ok (HasShape.toValue a, []) := by
  rw [decode_eq] at h
  split at h
  · rename_i v hread
    cases h
    rw [hread, HasShape.toValue_ofValue]
  · cases h
  · cases h

/-- A message is read back from its frame, and nothing of what follows the frame is touched. -/
theorem read_encode (hs : (HasShape.shape α).indexable) (a : α) (ha : Storable a)
    (rest : List UInt8) :
    (HasShape.shape α).read (encode a ++ rest) = .ok (HasShape.toValue a, rest) :=
  Shape.read_write _ hs _ ha rest

theorem decode_encode (hs : (HasShape.shape α).indexable) (a : α) (ha : Storable a) :
    decode (encode a) = .ok a := by
  have hread := read_encode hs a ha []
  rw [List.append_nil] at hread
  have hall : readAll (HasShape.shape α).read (encode a) = .ok (HasShape.toValue a) := by
    unfold readAll
    rw [StateT.run, hread]
    rfl
  unfold decode
  rw [hall]
  change Except.ok (HasShape.ofValue (HasShape.toValue a)) = _
  rw [HasShape.ofValue_toValue]

end Frame

end Whiteboard
