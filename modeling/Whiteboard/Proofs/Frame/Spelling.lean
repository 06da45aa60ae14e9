import Whiteboard.Proofs.Frame.RoundTrip

/-!
# The spellings of a value

A value leaves its writer one choice only: the form of each number in it, which may be wider than
it has to be. A value is therefore a list of pieces, each of them bytes that cannot be otherwise
or a number. Whatever reads as the value spells these pieces, and the bytes that are written for
it are the shortest spelling.
-/

namespace Whiteboard

open Whiteboard.Frame

/-! ### What a successful step of reading has taken -/

namespace Frame

theorem ok_of_bind {α β : Type} {step : Reader α} {next : α → Reader β} {bytes rest : List UInt8}
    {b : β} (h : (step >>= next) bytes = .ok (b, rest)) :
    ∃ a mid, step bytes = .ok (a, mid) ∧ next a mid = .ok (b, rest) := by
  change (step bytes >>= fun p => next p.1 p.2) = .ok (b, rest) at h
  cases hstep : step bytes with
  | error e =>
    rw [hstep] at h
    cases h
  | ok p =>
    rw [hstep] at h
    exact ⟨p.1, p.2, rfl, h⟩

theorem pure_eq_ok {α : Type} {a b : α} {bytes rest : List UInt8}
    (h : (pure a : Reader α) bytes = .ok (b, rest)) : a = b ∧ bytes = rest := by
  cases h
  exact ⟨rfl, rfl⟩

theorem eq_cons_of_byte {b : UInt8} {bytes rest : List UInt8} (h : byte bytes = .ok (b, rest)) :
    bytes = b :: rest := by
  cases bytes with
  | nil => cases h
  | cons c cs =>
    cases h
    rfl

theorem eq_append_of_take {n : Nat} {taken bytes rest : List UInt8}
    (h : take n bytes = .ok (taken, rest)) : taken.length = n ∧ bytes = taken ++ rest := by
  unfold take at h
  by_cases hlen : (bytes.take n).length = n
  · simp only [if_pos hlen] at h
    cases h
    exact ⟨hlen, (List.take_append_drop n bytes).symm⟩
  · simp only [if_neg hlen] at h
    cases h

theorem ofLittleEndian_lt (bytes : List UInt8) : ofLittleEndian bytes < 256 ^ bytes.length := by
  induction bytes with
  | nil => exact Nat.one_pos
  | cons b rest ih =>
    have hb := b.toNat_lt
    simp only [ofLittleEndian, List.length_cons, Nat.pow_succ]
    omega

theorem littleEndian_ofLittleEndian (bytes : List UInt8) :
    littleEndian bytes.length (ofLittleEndian bytes) = bytes := by
  induction bytes with
  | nil => rfl
  | cons b rest ih =>
    have hb := b.toNat_lt
    have hlow : UInt8.ofNat (b.toNat + 256 * ofLittleEndian rest) = b := by
      apply UInt8.toNat_inj.mp
      rw [UInt8.toNat_ofNat']
      omega
    have hhigh : (b.toNat + 256 * ofLittleEndian rest) / 256 = ofLittleEndian rest := by omega
    simp only [List.length_cons, ofLittleEndian, littleEndian, hlow, hhigh, ih]

end Frame

/-! ### The forms of a number -/

namespace Frame.Varint

/-- A form of a number: the number itself as a byte, or a marker that the width admits and as many
bytes as the marker asks for. -/
inductive Form (width : Width) : Nat → List UInt8 → Prop
  /-- The number is its own byte. -/
  | plain (b : UInt8) (h : b < 251) : Form width b.toNat [b]
  /-- The number stands after a marker. -/
  | marked (marker : UInt8) (digits : List UInt8)
      (h : ∀ named, payload width named marker = .ok (.inr digits.length)) :
      Form width (ofLittleEndian digits) (marker :: digits)

theorem form_of_read {width : Width} {n : Nat} {bytes rest : List UInt8}
    (h : read width bytes = .ok (n, rest)) : ∃ form, Form width n form ∧ bytes = form ++ rest := by
  cases bytes with
  | nil => cases h
  | cons marker following =>
    rw [read_cons] at h
    rcases payload_cases width marker with ⟨hlt, hpay⟩ | ⟨count, -, hpay⟩ | ⟨found, hpay⟩
    · rw [hpay] at h
      cases h
      exact ⟨[marker], .plain marker hlt, rfl⟩
    · rw [hpay] at h
      change (take count following).map _ = _ at h
      cases htake : take count following with
      | error e =>
        rw [htake] at h
        cases h
      | ok p =>
        rw [htake] at h
        cases h
        obtain ⟨rfl, heq⟩ := eq_append_of_take htake
        exact ⟨marker :: p.1, .marked marker p.1 hpay, by rw [heq]; rfl⟩
    · rw [hpay] at h
      cases h

/-- The markers that are followed by digits, with the number of the digits. -/
theorem marker_cases {width : Width} {marker : UInt8} {count : Nat}
    (h : ∀ named, payload width named marker = .ok (.inr count)) :
    marker = 251 ∧ count = 2 ∨ marker = 252 ∧ count = 4 ∧ fits32 width = true ∨
      marker = 253 ∧ count = 8 ∧ fits64 width = true := by
  have hcount := h .count
  rcases payload_cases width marker with ⟨-, hpay⟩ | ⟨count', hcases, hpay⟩ | ⟨found, hpay⟩
  · rw [hpay] at hcount
    cases hcount
  · rw [hpay] at hcount
    cases hcount
    exact hcases
  · rw [hpay] at hcount
    cases hcount

theorem Form.lt_bound {width : Width} {n : Nat} {form : List UInt8} (h : Form width n form) :
    n < width.bound := by
  cases h with
  | plain b hb =>
    have hlt : b.toNat < 251 := UInt8.lt_iff_toNat_lt.mp hb
    cases width <;> simp only [Width.bound] <;> omega
  | marked marker digits hpay =>
    have hlt := ofLittleEndian_lt digits
    rcases marker_cases hpay with ⟨-, hlen⟩ | ⟨-, hlen, hfits⟩ | ⟨-, hlen, hfits⟩
    · rw [hlen] at hlt
      cases width <;> simp only [Width.bound] <;> omega
    · rw [hlen] at hlt
      cases width <;> simp only [Width.bound] <;> first | omega | cases hfits
    · rw [hlen] at hlt
      cases width <;> simp only [Width.bound] <;> first | omega | cases hfits

theorem length_write {n : Nat} (h : n < 0x10000000000000000) :
    (write n).length =
      if n < 251 then 1 else if n < 0x10000 then 3 else if n < 0x100000000 then 5 else 9 := by
  unfold write
  repeat' split
  all_goals first | omega | simp

/-- The form that is written is the shortest: every other form is longer. -/
theorem Form.shortest {width : Width} {n : Nat} {form : List UInt8} (h : Form width n form) :
    write n = form ∨ (write n).length < form.length := by
  cases h with
  | plain b hb =>
    have hlt : b.toNat < 251 := UInt8.lt_iff_toNat_lt.mp hb
    exact .inl (by rw [write, if_pos hlt, UInt8.ofNat_toNat])
  | marked marker digits hpay =>
    have hlt := ofLittleEndian_lt digits
    have hsame := littleEndian_ofLittleEndian digits
    -- A number below the range of its marker has a shorter form; otherwise the marker is the one
    -- that is written, and the digits are determined by the number.
    rcases marker_cases hpay with ⟨rfl, hlen⟩ | ⟨rfl, hlen, -⟩ | ⟨rfl, hlen, -⟩
    · rw [hlen] at hlt hsame
      by_cases hlow : ofLittleEndian digits < 251
      · right
        rw [length_write (by omega), if_pos hlow, List.length_cons, hlen]
        decide
      · left
        rw [write, if_neg hlow, if_pos (by omega), hsame]
    · rw [hlen] at hlt hsame
      by_cases hlow : ofLittleEndian digits < 0x10000
      · right
        rw [length_write (by omega), if_pos hlow, List.length_cons, hlen]
        split <;> decide
      · left
        rw [write, if_neg (by omega), if_neg hlow, if_pos (by omega), hsame]
    · rw [hlen] at hlt hsame
      by_cases hlow : ofLittleEndian digits < 0x100000000
      · right
        rw [length_write (by omega), if_pos hlow, List.length_cons, hlen]
        repeat' split
        all_goals decide
      · left
        rw [write, if_neg (by omega), if_neg (by omega), if_neg hlow, if_pos (by omega), hsame]

end Frame.Varint

/-! ### Pieces -/

namespace Frame

/-- A part of a frame. -/
inductive Piece
  /-- Bytes that cannot be otherwise. -/
  | fixed (bytes : List UInt8)
  /-- A number, in any form that the width admits. -/
  | number (width : Width) (n : Nat)

/-- The bytes that are written for a piece. -/
def Piece.shortest : Piece → List UInt8
  | .fixed bytes => bytes
  | .number _ n => Varint.write n

/-- Whether bytes can stand for a piece. -/
def Piece.SpelledBy : Piece → List UInt8 → Prop
  | .fixed bytes, spelled => spelled = bytes
  | .number width n, spelled => Varint.Form width n spelled

/-- Bytes that stand for pieces, one after the other. -/
inductive Spells : List Piece → List UInt8 → Prop
  /-- Nothing is spelled by nothing. -/
  | nil : Spells [] []
  /-- The first piece is spelled by the front of the bytes. -/
  | cons {p : Piece} {ps : List Piece} {front bytes : List UInt8} (first : p.SpelledBy front)
      (rest : Spells ps bytes) : Spells (p :: ps) (front ++ bytes)

theorem Piece.SpelledBy.shortest {p : Piece} {bytes : List UInt8} (h : p.SpelledBy bytes) :
    p.shortest = bytes ∨ p.shortest.length < bytes.length := by
  cases p with
  | fixed fixed => exact .inl (Eq.symm h)
  | number width n => exact Varint.Form.shortest h

namespace Spells

theorem single {p : Piece} {bytes : List UInt8} (h : p.SpelledBy bytes) : Spells [p] bytes := by
  have := cons h nil
  rwa [List.append_nil] at this

theorem append {ps qs : List Piece} {a b : List UInt8} (ha : Spells ps a) (hb : Spells qs b) :
    Spells (ps ++ qs) (a ++ b) := by
  induction ha with
  | nil => exact hb
  | cons first _ ih =>
    rw [List.append_assoc]
    exact cons first ih

/-- The bytes that are written are the shortest spelling: every other one is longer. -/
theorem shortest {ps : List Piece} {bytes : List UInt8} (h : Spells ps bytes) :
    ps.flatMap Piece.shortest = bytes ∨ (ps.flatMap Piece.shortest).length < bytes.length := by
  induction h with
  | nil => exact .inl rfl
  | cons first _ ih =>
    rw [List.flatMap_cons, List.length_append, List.length_append]
    rcases first.shortest with hfirst | hfirst
    · rcases ih with hrest | hrest
      · exact .inl (by rw [hfirst, hrest])
      · exact .inr (by rw [hfirst]; omega)
    · rcases ih with hrest | hrest
      · exact .inr (by rw [hrest]; omega)
      · exact .inr (by omega)

end Spells

end Frame

mutual

/-- The pieces of a value. -/
def Shape.pieces : (s : Shape) → s.Value → List Piece
  | .word16, (n : UInt16) => [.number .word16 n.toNat]
  | .word32, (n : UInt32) => [.number .word32 n.toNat]
  | .single, (x : Single) => [.fixed (littleEndian 4 x.bits.toNat)]
  | .text, (t : String) =>
    [.number .word64 (Text.utf8Bytes t).length, .fixed (Text.utf8Bytes t)]
  | .uuid, (id : Uuid) => [.number .word64 id.bytes.length, .fixed id.bytes]
  | .optional _, (none : Option _) => [.fixed [0]]
  | .optional s, some v => .fixed [1] :: s.pieces v
  | .list s, (vs : List _) => .number .count vs.length :: vs.flatMap s.pieces
  | .record _ fields, v => fields.pieces v
  | .choice cases, v => .number .word32 (cases.index v) :: cases.pieces v

/-- The pieces of all fields, in order. -/
def Fields.pieces : (fields : Fields) → fields.Value → List Piece
  | .nil, _ => []
  | .cons _ _ s rest, (v, vs) => s.pieces v ++ rest.pieces vs

/-- The pieces of what a case carries. -/
def Cases.pieces : (cases : Cases) → cases.Value → List Piece
  | .bare _ _, .inl () => []
  | .bare _ rest, .inr v => rest.pieces v
  | .carrying _ s _, .inl v => s.pieces v
  | .carrying _ _ rest, .inr v => rest.pieces v

end

mutual

theorem Shape.shortest_pieces (s : Shape) (v : s.Value) :
    (s.pieces v).flatMap Piece.shortest = s.write v := by
  match s, v with
  | .word16, (n : UInt16) => simp [Shape.pieces, Shape.write, Piece.shortest]
  | .word32, (n : UInt32) => simp [Shape.pieces, Shape.write, Piece.shortest]
  | .single, (x : Single) => simp [Shape.pieces, Shape.write, Piece.shortest]
  | .text, (t : String) => simp [Shape.pieces, Shape.write, Piece.shortest, writeBytes]
  | .uuid, (id : Uuid) => simp [Shape.pieces, Shape.write, Piece.shortest, writeBytes]
  | .optional s, (none : Option _) => rfl
  | .optional s, some v =>
    rw [Shape.pieces, Shape.write, List.flatMap_cons, s.shortest_pieces v]
    rfl
  | .list s, (vs : List _) =>
    have hall : (fun v => (s.pieces v).flatMap Piece.shortest) = s.write :=
      funext fun v => s.shortest_pieces v
    rw [Shape.pieces, Shape.write, List.flatMap_cons, List.flatMap_assoc, hall]
    rfl
  | .record title fields, v =>
    rw [Shape.pieces, Shape.write]
    exact fields.shortest_pieces v
  | .choice cases, (v : cases.Value) =>
    change (Piece.number .word32 (cases.index v) :: cases.pieces v).flatMap Piece.shortest =
      cases.write 0 v
    rw [cases.write_eq, Nat.zero_add, List.flatMap_cons, cases.shortest_pieces v]
    rfl

theorem Fields.shortest_pieces (fields : Fields) (v : fields.Value) :
    (fields.pieces v).flatMap Piece.shortest = fields.write v := by
  match fields, v with
  | .nil, () => rfl
  | .cons name omittable s more, (v, vs) =>
    rw [Fields.pieces, Fields.write, List.flatMap_append, s.shortest_pieces v,
      more.shortest_pieces vs]

theorem Cases.shortest_pieces (cases : Cases) (v : cases.Value) :
    (cases.pieces v).flatMap Piece.shortest = cases.contents v := by
  match cases, v with
  | .bare name more, .inl () => rfl
  | .bare name more, .inr v =>
    rw [Cases.pieces, Cases.contents, more.shortest_pieces v]
  | .carrying name s more, .inl v =>
    rw [Cases.pieces, Cases.contents, s.shortest_pieces v]
  | .carrying name s more, .inr v =>
    rw [Cases.pieces, Cases.contents, more.shortest_pieces v]

end

/-! ### What is read -/

namespace Frame

theorem spells_of_times {α : Type} {item : Reader α} {pieces : α → List Piece} {P : α → Prop}
    (h : ∀ {bytes rest a}, item bytes = .ok (a, rest) →
      P a ∧ ∃ front, Spells (pieces a) front ∧ bytes = front ++ rest)
    {n : Nat} {bytes rest : List UInt8} {as : List α} (hread : times item n bytes = .ok (as, rest)) :
    as.length = n ∧ (∀ a ∈ as, P a) ∧
      ∃ front, Spells (as.flatMap pieces) front ∧ bytes = front ++ rest := by
  induction n generalizing bytes as with
  | zero =>
    obtain ⟨rfl, rfl⟩ := pure_eq_ok hread
    exact ⟨rfl, by simp, [], .nil, rfl⟩
  | succ n ih =>
    obtain ⟨a, mid, hfirst, hread⟩ := ok_of_bind hread
    obtain ⟨more, mid', hmore, hread⟩ := ok_of_bind hread
    obtain ⟨rfl, rfl⟩ := pure_eq_ok hread
    obtain ⟨ha, front, hfront, rfl⟩ := h hfirst
    obtain ⟨hlen, hall, back, hback, rfl⟩ := ih hmore
    refine ⟨by rw [List.length_cons, hlen], ?_, front ++ back, ?_, ?_⟩
    · simpa using ⟨ha, hall⟩
    · exact hfront.append hback
    · rw [List.append_assoc]

/-- Bytes read after their length, which spell a number and themselves. -/
theorem spells_of_take {n : Nat} {bytes mid rest taken : List UInt8}
    (hlength : Varint.read .word64 bytes = .ok (n, mid)) (htake : take n mid = .ok (taken, rest)) :
    ∃ front, Spells [.number .word64 taken.length, .fixed taken] front ∧
      bytes = front ++ rest := by
  obtain ⟨form, hform, rfl⟩ := Varint.form_of_read hlength
  obtain ⟨rfl, rfl⟩ := eq_append_of_take htake
  exact ⟨form ++ taken, .cons hform (.single rfl), by rw [List.append_assoc]⟩

theorem ok_of_presence {α : Type} {item : Reader α} {presence : UInt8} {o : Option α}
    {bytes rest : List UInt8}
    (h : (if presence = 0 then pure none
      else if presence = 1 then do return some (← item)
      else throw (.badPresence presence) : Reader (Option α)) bytes = .ok (o, rest)) :
    (presence = 0 ∧ o = none ∧ bytes = rest) ∨
      ∃ a, presence = 1 ∧ o = some a ∧ item bytes = .ok (a, rest) := by
  by_cases hzero : presence = 0
  · rw [if_pos hzero] at h
    obtain ⟨rfl, rfl⟩ := pure_eq_ok h
    exact .inl ⟨hzero, rfl, rfl⟩
  · rw [if_neg hzero] at h
    by_cases hone : presence = 1
    · rw [if_pos hone] at h
      obtain ⟨a, mid, hread, hnext⟩ := ok_of_bind h
      obtain ⟨rfl, rfl⟩ := pure_eq_ok hnext
      exact .inr ⟨a, hone, rfl, hread⟩
    · rw [if_neg hone] at h
      cases h

end Frame

mutual

/-- Bytes that read as a value spell its pieces, and memory can hold the value. -/
theorem Shape.spells_of_read (s : Shape) {v : s.Value} {bytes rest : List UInt8}
    (h : s.read bytes = .ok (v, rest)) :
    s.Storable v ∧ ∃ front, Spells (s.pieces v) front ∧ bytes = front ++ rest := by
  match s, v with
  | .word16, (n : UInt16) =>
    obtain ⟨m, mid, hread, h⟩ := ok_of_bind h
    obtain ⟨rfl, rfl⟩ := pure_eq_ok h
    obtain ⟨form, hform, rfl⟩ := Varint.form_of_read hread
    have hm : (UInt16.ofNat m).toNat = m := UInt16.toNat_ofNat_of_lt' hform.lt_bound
    refine ⟨trivial, form, .single ?_, rfl⟩
    rwa [Piece.SpelledBy, hm]
  | .word32, (n : UInt32) =>
    obtain ⟨m, mid, hread, h⟩ := ok_of_bind h
    obtain ⟨rfl, rfl⟩ := pure_eq_ok h
    obtain ⟨form, hform, rfl⟩ := Varint.form_of_read hread
    have hm : (UInt32.ofNat m).toNat = m := UInt32.toNat_ofNat_of_lt' hform.lt_bound
    refine ⟨trivial, form, .single ?_, rfl⟩
    rwa [Piece.SpelledBy, hm]
  | .single, (x : Single) =>
    obtain ⟨taken, mid, hread, h⟩ := ok_of_bind h
    obtain ⟨rfl, rfl⟩ := pure_eq_ok h
    obtain ⟨hlen, rfl⟩ := eq_append_of_take hread
    have hlt := ofLittleEndian_lt taken
    rw [hlen] at hlt
    have hbits : (UInt32.ofNat (ofLittleEndian taken)).toNat = ofLittleEndian taken :=
      UInt32.toNat_ofNat_of_lt' hlt
    have hsame := littleEndian_ofLittleEndian taken
    rw [hlen] at hsame
    refine ⟨trivial, taken, .single ?_, rfl⟩
    rw [Piece.SpelledBy, hbits, hsame]
  | .text, (t : String) =>
    obtain ⟨taken, mid, hread, h⟩ := ok_of_bind h
    obtain ⟨n, mid', hlength, hread⟩ := ok_of_bind hread
    by_cases hn : memoryLimit ≤ n
    · rw [if_pos hn] at hread
      cases hread
    · rw [if_neg hn] at hread
      cases htext : Text.ofUtf8 taken with
      | error fault =>
        rw [htext] at h
        cases h
      | ok u =>
        rw [htext] at h
        obtain ⟨rfl, rfl⟩ := pure_eq_ok h
        obtain rfl := Text.utf8Bytes_of_ofUtf8 htext
        have hlen := (eq_append_of_take hread).1
        rw [Shape.Storable, hlen]
        exact ⟨Nat.not_le.mp hn, spells_of_take hlength hread⟩
  | .uuid, (id : Uuid) =>
    obtain ⟨taken, mid, hread, h⟩ := ok_of_bind h
    obtain ⟨n, mid', hlength, hread⟩ := ok_of_bind hread
    by_cases hsize : taken.length = 16
    · simp only [Uuid.ofBytes?, dif_pos hsize] at h
      obtain ⟨rfl, rfl⟩ := pure_eq_ok h
      exact ⟨trivial, spells_of_take hlength hread⟩
    · simp only [Uuid.ofBytes?, dif_neg hsize] at h
      cases h
  | .optional s, (o : Option s.Value) =>
    obtain ⟨presence, mid, hread, hnext⟩ := ok_of_bind h
    obtain rfl := eq_cons_of_byte hread
    rcases ok_of_presence hnext with ⟨rfl, rfl, rfl⟩ | ⟨v, rfl, rfl, hitem⟩
    · exact ⟨trivial, [0], .single rfl, rfl⟩
    · obtain ⟨hv, front, hfront, rfl⟩ := s.spells_of_read hitem
      exact ⟨hv, [1] ++ front, .cons rfl hfront, rfl⟩
  | .list s, (vs : List s.Value) =>
    obtain ⟨n, mid, hread, hnext⟩ := ok_of_bind h
    obtain ⟨form, hform, rfl⟩ := Varint.form_of_read hread
    obtain ⟨rfl, hall, front, hfront, rfl⟩ := spells_of_times s.spells_of_read hnext
    rw [Shape.Storable]
    exact ⟨⟨hform.lt_bound, hall⟩, form ++ front, .cons hform hfront, by rw [List.append_assoc]⟩
  | .record title fields, v =>
    rw [Shape.Storable, Shape.pieces]
    exact fields.spells_of_read h
  | .choice cases, (v : cases.Value) =>
    obtain ⟨index, mid, hread, hnext⟩ := ok_of_bind h
    obtain ⟨form, hform, rfl⟩ := Varint.form_of_read hread
    obtain ⟨rfl, hv, front, hfront, rfl⟩ := cases.spells_of_read hnext
    exact ⟨hv, form ++ front, .cons hform hfront, by rw [List.append_assoc]⟩

theorem Fields.spells_of_read (fields : Fields) {v : fields.Value} {bytes rest : List UInt8}
    (h : fields.read bytes = .ok (v, rest)) :
    fields.Storable v ∧ ∃ front, Spells (fields.pieces v) front ∧ bytes = front ++ rest := by
  match fields, v with
  | .nil, () =>
    obtain ⟨-, rfl⟩ := pure_eq_ok h
    exact ⟨trivial, [], .nil, rfl⟩
  | .cons name omittable s more, (v, vs) =>
    obtain ⟨w, mid, hfirst, h⟩ := ok_of_bind h
    obtain ⟨ws, mid', hmore, h⟩ := ok_of_bind h
    obtain ⟨heq, rfl⟩ := pure_eq_ok h
    cases heq
    obtain ⟨hv, front, hfront, rfl⟩ := s.spells_of_read hfirst
    obtain ⟨hvs, back, hback, rfl⟩ := more.spells_of_read hmore
    rw [Fields.Storable]
    exact ⟨⟨hv, hvs⟩, front ++ back, hfront.append hback, by rw [List.append_assoc]⟩

/-- What a case carries is read under the number of the case only. -/
theorem Cases.spells_of_read (cases : Cases) {unknown : Error} {index : Nat} {v : cases.Value}
    {bytes rest : List UInt8} (h : cases.read unknown index bytes = .ok (v, rest)) :
    index = cases.index v ∧ cases.Storable v ∧
      ∃ front, Spells (cases.pieces v) front ∧ bytes = front ++ rest := by
  match cases, index with
  | .nil, _ => exact v.elim
  | .bare name more, 0 =>
    obtain ⟨rfl, rfl⟩ := pure_eq_ok h
    exact ⟨rfl, trivial, [], .nil, rfl⟩
  | .bare name more, index + 1 =>
    obtain ⟨w, mid, hread, h⟩ := ok_of_bind h
    obtain ⟨rfl, rfl⟩ := pure_eq_ok h
    obtain ⟨rfl, hv⟩ := more.spells_of_read hread
    exact ⟨rfl, hv⟩
  | .carrying name s more, 0 =>
    obtain ⟨w, mid, hread, h⟩ := ok_of_bind h
    obtain ⟨rfl, rfl⟩ := pure_eq_ok h
    exact ⟨rfl, s.spells_of_read hread⟩
  | .carrying name s more, index + 1 =>
    obtain ⟨w, mid, hread, h⟩ := ok_of_bind h
    obtain ⟨rfl, rfl⟩ := pure_eq_ok h
    obtain ⟨rfl, hv⟩ := more.spells_of_read hread
    exact ⟨rfl, hv⟩

end

end Whiteboard
