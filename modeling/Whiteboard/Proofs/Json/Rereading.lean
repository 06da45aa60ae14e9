import Whiteboard.Json.View
import Whiteboard.Message.Shapes
import Whiteboard.Proofs.Json.Steps

/-!
# Reading what was printed

Whether a floating-point number is read back from its text is a question about decimal notation,
which the structure of a text does not answer. Everything else does not depend on it: the steps of
reading find their way through a printed text whatever becomes of the numbers in it. A step is
therefore described by the numbers printed in the part of the text that it reads.
-/

namespace Whiteboard

/-- A floating-point number that is read from its own text with the same bits. -/
def Single.ReadsBack (x : Single) : Prop := Json.parse (Json.write x) = .ok x

namespace Json

/-- What comes of reading the printed form of a value in which the given numbers occur: if there
is a result, then all numbers are finite, the text is read to the end of the value, and the result
is the value unless one of the numbers is not read back; a failure also has such a number. -/
inductive Rereads {α : Type} (numbers : List Single) (a : α) (rest : List Char) :
    Except Error (α × List Char) → Prop
  /-- There is a result. -/
  | ok {b : α} (hfinite : ∀ x ∈ numbers, x.isFinite)
      (hsame : (∀ x ∈ numbers, x.ReadsBack) → b = a) : Rereads numbers a rest (.ok (b, rest))
  /-- Reading fails. -/
  | error {e : Error} (h : ∃ x ∈ numbers, ¬x.ReadsBack) : Rereads numbers a rest (.error e)

namespace Rereads

variable {α β : Type} {step : Reader α} {a : α} {xs ys : List Single} {cs mid rest : List Char}

/-- Without numbers there is nothing to fail. -/
theorem of_eq {result : Except Error (α × List Char)} (h : result = .ok (a, rest)) :
    Rereads [] a rest result := by
  rw [h]
  exact .ok (by simp) fun _ => rfl

/-- If all numbers are read back then so is the value. -/
theorem eq_ok {result : Except Error (α × List Char)} (h : Rereads xs a rest result)
    (hback : ∀ x ∈ xs, x.ReadsBack) : result = .ok (a, rest) := by
  cases h with
  | ok _ hsame => rw [hsame hback]
  | error hbad =>
    obtain ⟨x, hx, hbad⟩ := hbad
    exact absurd (hback x hx) hbad

/-- A step that reads no numbers goes first. -/
theorem after {γ : Type} {first : Reader γ} {next : γ → Reader α} {c : γ}
    (hfirst : first cs = .ok (c, mid)) (h : Rereads xs a rest (next c mid)) :
    Rereads xs a rest ((first >>= next) cs) := by
  rw [bind_of_ok hfirst]
  exact h

/-- After a part of the text the next one is read, whatever was made of the first. -/
theorem bind {next : α → Reader β} {f : α → β} (h : Rereads xs a mid (step cs))
    (hnext : ∀ b, Rereads ys (f b) rest (next b mid)) :
    Rereads (xs ++ ys) (f a) rest ((step >>= next) cs) := by
  generalize hstep : step cs = result at h
  cases h with
  | error hbad =>
    obtain ⟨x, hx, hbad⟩ := hbad
    rw [bind_of_error hstep]
    exact .error ⟨x, List.mem_append_left ys hx, hbad⟩
  | @ok b hfinite hsame =>
    rw [bind_of_ok hstep]
    have hrest := hnext b
    generalize next b mid = result at hrest
    cases hrest with
    | error hbad =>
      obtain ⟨y, hy, hbad⟩ := hbad
      exact .error ⟨y, List.mem_append_right xs hy, hbad⟩
    | ok hfinite' hsame' =>
      refine .ok ?_ fun hback => ?_
      · simp only [List.mem_append]
        rintro x (hx | hx)
        · exact hfinite x hx
        · exact hfinite' x hx
      · have hb := hsame fun x hx => hback x (List.mem_append_left ys hx)
        rw [← hb]
        exact hsame' fun y hy => hback y (List.mem_append_right xs hy)

theorem bind_ok {next : α → Reader β} {f : α → β} (h : Rereads xs a mid (step cs))
    (hnext : ∀ b, next b mid = .ok (f b, rest)) : Rereads xs (f a) rest ((step >>= next) cs) := by
  have hdone := h.bind fun b => of_eq (hnext b)
  rwa [List.append_nil] at hdone

theorem map (h : Rereads xs a rest (step cs)) (f : α → β) :
    Rereads xs (f a) rest ((do return f (← step)) cs) :=
  h.bind_ok fun _ => rfl

/-- A conversion that succeeds for the value printed may do what it likes with any other. -/
theorem convert {f : α → Except Error β} {b : β} (h : Rereads xs a rest (step cs))
    (hf : f a = .ok b) : Rereads xs b rest ((do f (← step)) cs) := by
  generalize hstep : step cs = result at h
  cases h with
  | error hbad =>
    rw [bind_of_error hstep]
    exact .error hbad
  | @ok a' hfinite hsame =>
    rw [bind_of_ok hstep]
    cases hconverted : f a' with
    | ok b' =>
      refine .ok hfinite fun hback => ?_
      rw [hsame hback, hf] at hconverted
      exact (Except.ok.inj hconverted).symm
    | error e =>
      refine .error ?_
      by_contra hback
      push Not at hback
      rw [hsame hback, hf] at hconverted
      cases hconverted

end Rereads

/-! ### Whole texts -/

section Whole

variable {α : Type} [HasShape α] {cs : List Char}

theorem parse_of_ok {v : (HasShape.shape α).Value}
    (h : (HasShape.shape α).readJson cs = .ok (v, [])) :
    parse (String.ofList cs) = .ok (HasShape.ofValue v : α) := by
  unfold parse readAll
  rw [StateT.run, String.toList_ofList, h]
  rfl

theorem parse_of_error {e : Error} (h : (HasShape.shape α).readJson cs = .error e) :
    (parse (String.ofList cs) : Except Error α) = .error e := by
  unfold parse readAll
  rw [StateT.run, String.toList_ofList, h]
  rfl

end Whole

/-! ### Numbers -/

theorem readNatural_toDigits (expected : String) {n bound : Nat} (h : n < bound)
    (hbound : bound ≤ maxWord64) {rest : List Char} (hrest : Delimited rest) :
    readNatural bound expected (Nat.toDigits 10 n ++ rest) = .ok (n, rest) := by
  have hread : readNumber expected (Nat.toDigits 10 n ++ rest) =
      .ok (.integer false n, rest) := by
    have hnumber := number?_toDigits (h.le.trans hbound) hrest
    obtain ⟨c, cs, hcons, hc⟩ := toDigits_eq_cons n
    rw [hcons, List.cons_append] at hnumber ⊢
    rw [readNumber_cons hc, reading, hnumber]
  rw [readNatural, bind_of_ok hread]
  simp only [Bool.false_or, decide_eq_true_eq, if_neg (Nat.not_le.mpr h)]
  rfl

/-- The 32-bit number for which a number is taken. -/
def Number.toSingle : Number → Single
  | .integer negative n => .ofNatural negative n
  | .float negative pattern => .ofDouble negative pattern

/-- What comes of a floating-point number does not depend on what follows it. -/
theorem readSingle_render (x : Single) {rest : List Char} (hrest : Delimited rest) :
    readSingle "f32" (x.render layout ++ rest) =
      ((number? (x.render layout)).elim (.error .malformed) fun found =>
        .ok found.1.toSingle : Except Error Single).map (·, rest) := by
  have hwhole := whole_number?_render layout x rest hrest
  obtain ⟨c, cs, hcons, hc⟩ := render_eq_cons layout x
  rw [hcons, List.cons_append] at hwhole ⊢
  have hread := readNumber_cons hc "f32" (cs ++ rest)
  rw [reading, hwhole] at hread
  cases hnumber : number? (c :: cs) with
  | none =>
    rw [hnumber] at hread
    exact bind_of_error hread
  | some found =>
    obtain ⟨n, left⟩ := found
    rw [hnumber] at hread
    cases n <;> exact bind_of_ok hread

/-- If a number is not finite then null is found in its place. -/
theorem readSingle_toJson (x : Single) :
    ∃ result : Except Error Single,
      (∀ rest, Delimited rest →
        readSingle "f32" ((Shape.toJson .single x).compact ++ rest) = result.map (·, rest)) ∧
      (x.isFinite = false → ∃ e, result = .error e) := by
  rw [Shape.toJson]
  cases hx : x.isFinite with
  | false => exact ⟨.error (.invalidType .null "f32"), fun rest _ => rfl, fun _ => ⟨_, rfl⟩⟩
  | true => exact ⟨_, fun rest hrest => readSingle_render x hrest, nofun⟩

theorem rereads_single (x : Single) {rest : List Char} (hrest : Delimited rest) :
    Rereads [x] x rest (readSingle "f32" ((Shape.toJson .single x).compact ++ rest)) := by
  obtain ⟨result, hread, hfails⟩ := readSingle_toJson x
  have hmem : x ∈ [x] := List.mem_singleton_self x
  -- The number by itself is the case in which nothing follows.
  have halone := hread [] .nil
  rw [List.append_nil] at halone
  rw [hread rest hrest]
  cases result with
  | error e =>
    have hparse : parse (write x) = (.error e : Except Error Single) := parse_of_error halone
    refine .error ⟨x, hmem, fun hback => ?_⟩
    rw [Single.ReadsBack, hparse] at hback
    cases hback
  | ok y =>
    have hparse : parse (write x) = .ok y := parse_of_ok halone
    refine .ok ?_ fun hback => ?_
    · simp only [List.mem_singleton, forall_eq]
      by_contra hx
      obtain ⟨e, he⟩ := hfails (Bool.eq_false_iff.mpr hx)
      cases he
    · have hsame := hback x hmem
      rw [Single.ReadsBack, hparse] at hsame
      exact Except.ok.inj hsame

/-- Only finite numbers are read back. -/
theorem isFinite_of_readsBack {x : Single} (h : x.ReadsBack) : x.isFinite := by
  have hread := rereads_single x .nil
  generalize readSingle "f32" ((Shape.toJson .single x).compact ++ []) = result at hread
  cases hread with
  | ok hfinite => exact hfinite x (List.mem_singleton_self x)
  | error hbad =>
    obtain ⟨y, hy, hbad⟩ := hbad
    exact absurd h (List.mem_singleton.mp hy ▸ hbad)

/-! ### Missing values -/

theorem rereads_some {α : Type} {item : Reader α} {xs : List Single} {a : α} {j : Json}
    {rest : List Char} (hj : j ≠ .null) (h : Rereads xs a rest (item (j.compact ++ rest))) :
    Rereads xs (some a) rest
      ((do if (← peek) = some 'n' then word "null"; return none else return some (← item) :
        Reader (Option α)) (j.compact ++ rest)) := by
  obtain ⟨c, cs, hcons, hopens, hnull⟩ := compact_eq_cons j
  have hc : ¬some c = some 'n' := fun hc => hj (hnull (Option.some.inj hc))
  rw [hcons, List.cons_append] at h ⊢
  rw [bind_of_ok (peek_cons (not_blank_of_opensValue hopens) _), if_neg hc]
  exact h.map some

/-! ### Arrays -/

/-- The items of an array are read one after another, each whatever was made of those before. -/
theorem rereads_elements {α : Type} {item : Reader α} {toJson : α → Json}
    {singles : α → List Single} {as : List α}
    (hitem : ∀ a ∈ as, ∀ rest, Delimited rest →
      Rereads (singles a) a rest (item ((toJson a).compact ++ rest)))
    (first : Bool) (rest : List Char) {limit : Nat} (hlimit : as.length < limit) :
    Rereads (as.flatMap singles) as rest
      (elements item limit first (itemsText first (as.map toJson) ++ rest)) := by
  induction as generalizing first limit with
  | nil =>
    obtain ⟨limit, rfl⟩ := Nat.exists_eq_add_one_of_ne_zero (Nat.ne_zero_of_lt hlimit)
    rw [elements, List.map_nil, itemsText, List.singleton_append,
      bind_of_ok (nextElement_end first rest)]
    exact .of_eq rfl
  | cons a as ih =>
    obtain ⟨limit, rfl⟩ := Nat.exists_eq_add_one_of_ne_zero (Nat.ne_zero_of_lt hlimit)
    have hrest := ih (fun b hb => hitem b (List.mem_cons_of_mem a hb)) false
      (Nat.lt_of_succ_lt_succ hlimit)
    have hfirst := hitem a List.mem_cons_self (itemsText false (as.map toJson) ++ rest)
      (delimited_itemsText _ rest)
    rw [elements, List.map_cons, itemsText, List.append_assoc, List.append_assoc,
      bind_of_ok (nextElement_item first (toJson a) _), List.flatMap_cons]
    exact hfirst.bind fun b => hrest.map (b :: ·)

/-! ### Objects -/

/-- One entry of an object is read and entered, then the entries after it. -/
theorem rereads_entry {σ α : Type} {entry : String → σ → Reader σ} {item : Reader α} {key : String}
    {found : σ} {enter done : α → σ} {a : α} {j : Json} {xs ys : List Single}
    {mid rest : List Char} {limit : Nat}
    (hentry : entry key found = (do symbol ':'; return enter (← item)))
    (hitem : Rereads xs a mid (item (j.compact ++ mid)))
    (hmore : ∀ b, Rereads ys (done b) rest (entries entry limit false (enter b) mid))
    (first : Bool) :
    Rereads (xs ++ ys) (done a) rest
      (entries entry (limit + 1) first found
        (separator first ++ (quotedText key ++ ':' :: (j.compact ++ mid)))) := by
  rw [entries]
  refine .after (nextKey_entry first key _) ?_
  simp only [hentry, bind_assoc, pure_bind]
  exact .after (symbol_cons rfl _) (hitem.bind hmore)

end Json

end Whiteboard
