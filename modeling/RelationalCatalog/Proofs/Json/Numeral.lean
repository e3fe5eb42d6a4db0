import RelationalCatalog.Json.Token
import RelationalCatalog.Proofs.Number.Digits
import RelationalCatalog.Proofs.Number.Integer

/-!
# Numbers as they are written

`SpellsNumeral` says how a number is written: a sign, the digits of a natural number, a fraction and
an exponent, of which just the digits must be there. Such a text is read as its parts
(`numeral_append`). It has no end of its own, so what follows it matters: `EndsNumber` says that it
cannot go on.

A number is an integer if it is the written form of one of 64 bits, with a sign or without, and only
then (`value?_eq_int_iff`). So a number with a point or an exponent never becomes an integer, and
neither does a negative zero; and an integer of 64 bits never becomes a floating-point number.
-/

namespace RelationalCatalog

namespace Token

/-! ## Grammar -/

/-- A point and digits, or nothing. -/
inductive SpellsFraction : List Char → Option (List Char) → Prop
  | absent : SpellsFraction [] none
  | present {ds : List Char} {d : Nat} (h : Spells ds d) : SpellsFraction ('.' :: ds) (some ds)

/-- A mark, at most one sign and digits, or nothing. -/
inductive SpellsExponent : List Char → Option (Bool × List Char) → Prop
  | absent : SpellsExponent [] none
  | plain {mark : Char} {ds : List Char} {d : Nat} (hmark : mark = 'e' ∨ mark = 'E')
    (h : Spells ds d) : SpellsExponent (mark :: ds) (some (false, ds))
  | plus {mark : Char} {ds : List Char} {d : Nat} (hmark : mark = 'e' ∨ mark = 'E')
    (h : Spells ds d) : SpellsExponent (mark :: '+' :: ds) (some (false, ds))
  | minus {mark : Char} {ds : List Char} {d : Nat} (hmark : mark = 'e' ∨ mark = 'E')
    (h : Spells ds d) : SpellsExponent (mark :: '-' :: ds) (some (true, ds))

/-- The sign of a negative number. -/
def signChars (negative : Bool) : List Char := if negative then ['-'] else []

/-- A number as it is written, and its parts. -/
inductive SpellsNumeral : List Char → Numeral → Prop
  | mk (negative : Bool) (w : Nat) {fractionText exponentText : List Char}
    {fraction : Option (List Char)} {exponent : Option (Bool × List Char)}
    (hfraction : SpellsFraction fractionText fraction)
    (hexponent : SpellsExponent exponentText exponent) :
    SpellsNumeral (signChars negative ++ (natDigits w ++ (fractionText ++ exponentText)))
      ⟨negative, natDigits w, fraction, exponent⟩

/-! ## Reading -/

/-- What follows a number does not continue it. -/
def EndsNumber (rest : List Char) : Prop :=
  ∀ c ∈ rest.head?, c.isDigit = false ∧ c ≠ '.' ∧ c ≠ 'e' ∧ c ≠ 'E'

/-- What follows the digits before the point and those behind it. -/
def EndsFraction (rest : List Char) : Prop := ∀ c ∈ rest.head?, c.isDigit = false ∧ c ≠ '.'

variable {rest text ds : List Char} {atEnd : Fault}

theorem EndsNumber.endsFraction (h : EndsNumber rest) : EndsFraction rest :=
  fun c hc => ⟨(h c hc).1, (h c hc).2.1⟩

theorem EndsFraction.leaves (h : EndsFraction rest) : Leaves Char.isDigit rest :=
  fun c hc => (h c hc).1

theorem SpellsExponent.endsFraction {exponent : Option (Bool × List Char)}
    (h : SpellsExponent text exponent) (hrest : EndsNumber rest) : EndsFraction (text ++ rest) := by
  have hcons {mark : Char} (hmark : mark = 'e' ∨ mark = 'E') (cs : List Char) :
      EndsFraction (mark :: cs) := by
    intro c hc
    obtain rfl := Option.some.inj hc
    rcases hmark with rfl | rfl <;> decide
  cases h with
  | absent => exact hrest.endsFraction
  | plain hmark | plus hmark | minus hmark => exact hcons hmark _

theorem SpellsFraction.leaves {fraction : Option (List Char)} (h : SpellsFraction text fraction)
    (hrest : EndsFraction rest) : Leaves Char.isDigit (text ++ rest) := by
  cases h with
  | absent => exact hrest.leaves
  | present h => exact leaves_cons (by decide) _

/-- Leading digits are split off as a whole. -/
theorem digits_append (hds : ∀ c ∈ ds, c.isDigit = true) (hrest : Leaves Char.isDigit rest) :
    digits (ds ++ rest) = (ds, rest) := by
  rw [digits, takeWhile_run hds hrest, dropWhile_run hds hrest]

/-- A number has no leading zero, so all its digits stand before the point. -/
theorem wholeDigits_natDigits (atEnd : Fault) (n : Nat) (hrest : Leaves Char.isDigit rest) :
    wholeDigits atEnd (natDigits n ++ rest) = .ok (natDigits n, rest) := by
  rcases Nat.eq_zero_or_pos n with rfl | hn
  · cases rest with
    | nil => rfl
    | cons c cs =>
      have hc := hrest c rfl
      simp [natDigits, wholeDigits, hc]
  · obtain ⟨d, ds, hds, hd, hne⟩ := natDigits_eq_cons hn
    have hall : ∀ c ∈ d :: ds, c.isDigit = true := fun c hc =>
      isDigit_of_mem_natDigits (hds ▸ hc)
    have hstep : wholeDigits atEnd (d :: (ds ++ rest)) = .ok (digits (d :: ds ++ rest)) := by
      simp [wholeDigits, hne, hd]
    rw [hds, List.cons_append, hstep, digits_append hall hrest]

theorem someDigits_append {d : Nat} (h : Spells ds d) (hrest : Leaves Char.isDigit rest) :
    someDigits atEnd (ds ++ rest) = .ok (ds, rest) := by
  obtain ⟨c, cs, rfl⟩ := List.exists_cons_of_ne_nil h.ne_nil
  rw [someDigits, digits_append h.isDigit hrest]

theorem fractionPart_append {fraction : Option (List Char)} (h : SpellsFraction text fraction)
    (hrest : EndsFraction rest) : fractionPart atEnd (text ++ rest) = .ok (fraction, rest) := by
  cases h with
  | absent =>
    rw [List.nil_append, fractionPart.eq_def]
    split
    · exact absurd rfl (hrest _ rfl).2
    · rfl
  | present h =>
    rw [List.cons_append, fractionPart, someDigits_append h hrest.leaves]
    rfl

theorem exponentPart_append {exponent : Option (Bool × List Char)}
    (h : SpellsExponent text exponent) (hrest : EndsNumber rest) :
    exponentPart atEnd (text ++ rest) = .ok (exponent, rest) := by
  have hleaves := hrest.endsFraction.leaves
  cases h with
  | absent =>
    cases rest with
    | nil => rfl
    | cons c cs =>
      obtain ⟨-, -, he, hE⟩ := hrest c rfl
      rw [List.nil_append, exponentPart.eq_def]
      exact if_neg (not_or.mpr ⟨he, hE⟩)
  | plain hmark h =>
    rw [List.cons_append, exponentPart, if_pos hmark]
    · simp only [someDigits_append h hleaves]
      rfl
    · exact h.ne_cons (by decide) rest
    · exact h.ne_cons (by decide) rest
  | plus hmark h | minus hmark h =>
    rw [List.cons_append, List.cons_append, exponentPart, if_pos hmark]
    simp only [someDigits_append h hleaves]
    rfl

/-- **A written number is read as its parts**, whatever follows it. -/
theorem numeral_append {n : Numeral} (h : SpellsNumeral text n) (hrest : EndsNumber rest) :
    numeral atEnd (text ++ rest) = .ok (n, rest) := by
  obtain ⟨negative, w, hfraction, hexponent⟩ := h
  have hbehind := hexponent.endsFraction hrest
  have hwhole := wholeDigits_natDigits atEnd w (hfraction.leaves hbehind)
  cases negative with
  | true =>
    rw [signChars, if_pos rfl, List.singleton_append, List.cons_append, List.append_assoc,
      List.append_assoc, numeral]
    simp only [hwhole, fractionPart_append hfraction hbehind, exponentPart_append hexponent hrest,
      bind, Except.bind]
  | false =>
    rw [signChars, if_neg Bool.false_ne_true, List.nil_append, List.append_assoc, List.append_assoc,
      numeral]
    · simp only [hwhole, fractionPart_append hfraction hbehind,
        exponentPart_append hexponent hrest, bind, Except.bind]
    · exact (spells_natDigits w).ne_cons (by decide) _

/-- A written number has one reading. -/
theorem SpellsNumeral.unique {n m : Numeral} (hn : SpellsNumeral text n)
    (hm : SpellsNumeral text m) : n = m := by
  have hread : numeral .cutOff (text ++ []) = .ok (n, []) := numeral_append hn nofun
  have hread' : numeral .cutOff (text ++ []) = .ok (m, []) := numeral_append hm nofun
  exact (Prod.mk.inj (Except.ok.inj (hread.symm.trans hread'))).1

/-! ## Integers -/

/-- The parts of a written integer. -/
def integerParts (n : Int) : Numeral := ⟨decide (n < 0), natDigits n.natAbs, none, none⟩

theorem intDigits_eq_append (n : Int) :
    intDigits n = signChars (decide (n < 0)) ++ natDigits n.natAbs := by
  by_cases hneg : n < 0 <;> simp [intDigits, signChars, hneg]

/-- A text is the written form of an integer just if it has its parts. -/
theorem spellsNumeral_integerParts_iff {n : Int} :
    SpellsNumeral text (integerParts n) ↔ text = intDigits n := by
  rw [intDigits_eq_append]
  constructor
  · intro h
    generalize hparts : integerParts n = parts at h
    obtain ⟨negative, w, hfraction, hexponent⟩ := h
    obtain ⟨rfl, hdigits, rfl, rfl⟩ := Numeral.mk.inj hparts
    cases hfraction
    cases hexponent
    rw [hdigits, List.append_nil, List.append_nil]
  · rintro rfl
    have h := SpellsNumeral.mk (decide (n < 0)) n.natAbs .absent .absent
    rw [List.append_nil, List.append_nil] at h
    exact h

/-- A digit is taken as long as the number has 64 bits. -/
theorem withDigit?_eq_some_iff {significand n : Nat} {c : Char} :
    withDigit? significand c = some n ↔
      significand * 10 + digitValue c ≤ maxUInt64.natAbs ∧ significand * 10 + digitValue c = n := by
  delta withDigit?
  -- With the bound in sight, checking the comparison would count up to it.
  generalize maxUInt64.natAbs = bound
  simp

/-- The digits of a number of 64 bits are taken one by one. -/
theorem takeWhole_of_le {ds : List Char} {acc : Nat}
    (h : Nat.ofDigitChars 10 ds acc ≤ maxUInt64.natAbs) :
    takeWhole ⟨acc, 0⟩ ds = ⟨Nat.ofDigitChars 10 ds acc, 0⟩ := by
  induction ds generalizing acc with
  | nil => rfl
  | cons d rest ih =>
    have hnext : 10 * acc + (d.toNat - '0'.toNat) = acc * 10 + digitValue d := by
      rw [digitValue, Nat.mul_comm]
    rw [Nat.ofDigitChars_cons, hnext] at h ⊢
    have hdigit := withDigit?_eq_some_iff.mpr ⟨Nat.le_trans (le_ofDigitChars rest _) h, rfl⟩
    rw [takeWhole, if_pos rfl, hdigit]
    exact ih h

/-- Once a digit did not fit, the others raise the exponent. -/
theorem exponent_takeWhole_pos {s : Scaled} (h : 0 < s.exponent) (ds : List Char) :
    0 < (takeWhole s ds).exponent := by
  induction ds generalizing s with
  | nil => exact h
  | cons d rest ih =>
    rw [takeWhole, if_neg (Int.ne_of_gt h)]
    exact ih (Int.lt_trans h (Int.lt_succ s.exponent))

/-- If the exponent is not raised, the digits spell a number of 64 bits. -/
theorem le_of_exponent_takeWhole {ds : List Char} {acc : Nat} (hacc : acc ≤ maxUInt64.natAbs)
    (h : (takeWhole ⟨acc, 0⟩ ds).exponent = 0) :
    Nat.ofDigitChars 10 ds acc ≤ maxUInt64.natAbs := by
  induction ds generalizing acc with
  | nil =>
    rw [Nat.ofDigitChars_nil]
    exact hacc
  | cons d rest ih =>
    have hnext : 10 * acc + (d.toNat - '0'.toNat) = acc * 10 + digitValue d := by
      rw [digitValue, Nat.mul_comm]
    rw [takeWhole, if_pos rfl] at h
    rw [Nat.ofDigitChars_cons, hnext]
    cases hdigit : withDigit? acc d with
    | none =>
      rw [hdigit] at h
      have hpos := exponent_takeWhole_pos (s := ⟨acc, 1⟩) Int.one_pos rest
      exact absurd h (Int.ne_of_gt hpos)
    | some n =>
      rw [hdigit] at h
      obtain ⟨hle, rfl⟩ := withDigit?_eq_some_iff.mp hdigit
      exact ih hle h

/-- The parts of an integer of 64 bits, with or without a sign, have that integer as their value. -/
theorem value?_of_int {n : Int} (hlow : minInt64 ≤ n) (hhigh : n ≤ maxUInt64) :
    (integerParts n).value? = some (.int n) := by
  have hvalue : Nat.ofDigitChars 10 (natDigits n.natAbs) 0 = n.natAbs :=
    digitsValue_natDigits n.natAbs
  have hle : n.natAbs ≤ maxUInt64.natAbs := by
    simp only [minInt64, maxUInt64] at hlow hhigh ⊢
    omega
  have hwhole : takeWhole ⟨0, 0⟩ (natDigits n.natAbs) = ⟨n.natAbs, 0⟩ := by
    rw [takeWhole_of_le (by rw [hvalue]; exact hle), hvalue]
  simp only [integerParts, Numeral.value?, hwhole, Option.isNone_none, and_self, if_true, ne_eq,
    not_true_eq_false, if_false]
  by_cases hneg : n < 0
  · have hmagnitude : 0 < n.natAbs ∧ n.natAbs ≤ minInt64.natAbs := by
      simp only [minInt64] at hlow ⊢
      omega
    have hback : -(n.natAbs : Int) = n := by omega
    simp only [hneg, hmagnitude, and_self, decide_true, Bool.not_true, Bool.false_eq_true,
      if_false, if_true, hback]
  · have hback : (n.natAbs : Int) = n := by omega
    simp only [hneg, decide_false, Bool.not_false, if_true, hback]

/-- What is not an integer is a floating-point number, if it is anything. -/
theorem map_float_ne_int (x : Option Binary64) (k : Int) :
    x.map Draft.float ≠ some (.int k) := by
  cases x <;> simp

theorem value?_eq_int {n : Numeral} {w : Nat} (hw : n.whole = natDigits w) {k : Int}
    (h : n.value? = some (.int k)) : n = integerParts k ∧ minInt64 ≤ k ∧ k ≤ maxUInt64 := by
  obtain ⟨negative, whole, fraction, exponent⟩ := n
  obtain rfl : whole = natDigits w := hw
  have hvalue : Nat.ofDigitChars 10 (natDigits w) 0 = w := digitsValue_natDigits w
  simp only [Numeral.value?, Option.isNone_iff_eq_none] at h
  split_ifs at h with hplain hexponent hsign hrange
  · exact absurd h (map_float_ne_int _ k)
  · obtain ⟨rfl, rfl⟩ := hplain
    have hle := le_of_exponent_takeWhole (Nat.zero_le _) (not_not.mp hexponent)
    rw [takeWhole_of_le hle, hvalue] at h
    rw [hvalue] at hle
    dsimp only at h
    obtain rfl := Draft.int.inj (Option.some.inj h)
    obtain rfl : negative = false := by simpa using hsign
    refine ⟨?_, Int.le_trans (by decide) (Int.natCast_nonneg w), by rw [maxUInt64] at hle ⊢; omega⟩
    rw [integerParts, decide_eq_false (Int.not_lt.mpr (Int.natCast_nonneg w)), Int.natAbs_natCast]
  · obtain ⟨rfl, rfl⟩ := hplain
    have hle := le_of_exponent_takeWhole (Nat.zero_le _) (not_not.mp hexponent)
    rw [takeWhole_of_le hle, hvalue] at h hrange
    dsimp only at h hrange
    obtain rfl := Draft.int.inj (Option.some.inj h)
    obtain rfl : negative = true := by simpa using hsign
    obtain ⟨hpos, hbound⟩ := hrange
    have hneg : -(w : Int) < 0 := by omega
    refine ⟨?_, by rw [minInt64] at hbound ⊢; omega, Int.le_trans (Int.le_of_lt hneg) (by decide)⟩
    rw [integerParts, decide_eq_true hneg, Int.natAbs_neg, Int.natAbs_natCast]
  · exact absurd h (map_float_ne_int _ k)
  · exact absurd h (map_float_ne_int _ k)

/-- **A number has an integer as its value just if it is the written form of that integer**, and the
integer has 64 bits. -/
theorem value?_eq_int_iff {n : Numeral} (hn : SpellsNumeral text n) {k : Int} :
    n.value? = some (.int k) ↔ text = intDigits k ∧ minInt64 ≤ k ∧ k ≤ maxUInt64 := by
  constructor
  · intro h
    have hwhole : ∃ w, n.whole = natDigits w := by
      cases hn with
      | mk negative w => exact ⟨w, rfl⟩
    obtain ⟨w, hw⟩ := hwhole
    obtain ⟨rfl, hrange⟩ := value?_eq_int hw h
    exact ⟨spellsNumeral_integerParts_iff.mp hn, hrange⟩
  · rintro ⟨htext, hlow, hhigh⟩
    rw [hn.unique (spellsNumeral_integerParts_iff.mpr htext)]
    exact value?_of_int hlow hhigh

/-- What is not an integer is a floating-point number, if it has a value. -/
theorem value?_cases {n : Numeral} {d : Draft} (h : n.value? = some d) :
    (∃ k, d = .int k) ∨ ∃ x, d = .float x := by
  have hfloat (h : n.float?.map Draft.float = some d) : ∃ x, d = .float x := by
    obtain ⟨x, -, rfl⟩ := Option.map_eq_some_iff.mp h
    exact ⟨x, rfl⟩
  simp only [Numeral.value?] at h
  split_ifs at h
  · exact .inr (hfloat h)
  · exact .inl ⟨_, (Option.some.inj h).symm⟩
  · exact .inl ⟨_, (Option.some.inj h).symm⟩
  · exact .inr (hfloat h)
  · exact .inr (hfloat h)

end Token

end RelationalCatalog
