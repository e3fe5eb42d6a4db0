import RelationalCatalog.Proofs.Instant.Clock
import RelationalCatalog.Proofs.Number.Digits
import RelationalCatalog.Proofs.Number.Integer

/-!
# Written instants are read back

`relaxed_render` is the round trip of the written form: every instant, of whatever year and with
or without a leap second, is what the relaxed reader makes of its written form.

The reader takes the parts one by one, so the proof does too. A part is a run of digits that
spells a number (`Spells`), and each reader of numbers takes such a run off the front:
`looseYear_yearChars`, `looseNumber_padded`, `fraction_fractionChars`. The parts are those of a
clock in universal time. Its date exists and is in range, and date and time together are the instant
again (`at_clock`).
-/

namespace RelationalCatalog

/-! ## Digits -/

open Instant

/-- A padded number is spelled as the number itself. -/
theorem spells_padded (width n : Nat) : Spells (padded width n) n where
  ne_nil h := Nat.toDigits_ne_nil (List.append_eq_nil_iff.mp h).2
  isDigit c hc := by
    rcases List.mem_append.mp hc with hc | hc
    · rw [List.eq_of_mem_replicate hc]
      rfl
    · exact isDigit_of_mem_natDigits hc
  value := by
    rw [padded, digitsValue, Nat.ofDigitChars_append, Nat.ofDigitChars_replicate_zero, Nat.mul_zero]
    exact digitsValue_natDigits n

/-- A number that fits into the width takes up just that. -/
theorem length_padded {width n : Nat} (hw : 0 < width) (hn : n < Nat.pow 10 width) :
    (padded width n).length = width := by
  have hle : (natDigits n).length ≤ width :=
    (Nat.length_toDigits_le_iff (by decide) hw).mpr hn
  rw [padded, List.length_append, List.length_replicate]
  omega

theorem isBlank_of_isDigit {c : Char} (h : c.isDigit = true) : isBlank c = false := by
  have hval : '0' ≤ c ∧ c ≤ '9' := by
    simp only [Char.isDigit, Bool.and_eq_true, decide_eq_true_eq] at h
    exact h
  have hne (d : Char) (hd : d < '0' ∨ '9' < d) : (c == d) = false := by
    rw [beq_eq_false_iff_ne]
    rintro rfl
    rcases hd with hd | hd
    · exact Char.not_le.mpr hd hval.1
    · exact Char.not_le.mpr hd hval.2
  have hlow : ¬ c ≤ '\x0d' := fun hc => absurd (Char.le_trans hval.1 hc) (by decide)
  have hhigh : ¬ '\u2000' ≤ c := fun hc => absurd (Char.le_trans hc hval.2) (by decide)
  simp [isBlank, hne, hlow, hhigh]

theorem dropBlanks_cons {c : Char} (h : isBlank c = false) (cs : List Char) :
    dropBlanks (c :: cs) = c :: cs := by
  simp [dropBlanks, h]

/-- Digits are not dropped with the blanks before them. -/
theorem Spells.dropBlanks_append {ds : List Char} {n : Nat} (h : Spells ds n)
    (rest : List Char) : dropBlanks (ds ++ rest) = ds ++ rest := by
  obtain ⟨d, ds, rfl⟩ := List.exists_cons_of_ne_nil h.ne_nil
  exact dropBlanks_cons (isBlank_of_isDigit (h.isDigit d List.mem_cons_self)) _

/-- A run of digits ends where its width ends, or else where something other than a digit
follows. -/
def RunEnds (width : Option Nat) (ds rest : List Char) : Prop :=
  width = some ds.length ∨ width = none ∧ Leaves Char.isDigit rest

/-- A run of digits is taken off the front. -/
theorem Spells.looseDigits_append {ds rest : List Char} {n : Nat} {width : Option Nat}
    (h : Spells ds n) (hn : n ≤ maxInt64.natAbs) (hend : RunEnds width ds rest) :
    looseDigits width (ds ++ rest) = .ok (n, rest) := by
  obtain ⟨d, ds', hds⟩ := List.exists_cons_of_ne_nil h.ne_nil
  have hd : d.isDigit = true := h.isDigit d (hds ▸ List.mem_cons_self)
  have hcons : ds ++ rest = d :: (ds' ++ rest) := by rw [hds]; rfl
  have hrun : (ds ++ rest).takeWhile Char.isDigit = ds ++ rest.takeWhile Char.isDigit :=
    List.takeWhile_append_of_pos h.isDigit
  rw [looseDigits.eq_def, hcons]
  rcases hend with rfl | ⟨rfl, hrest⟩
  · simp only [hd, hrun, List.take_left, h.value, hn, ← hcons, List.drop_left, Bool.not_true,
      Bool.false_eq_true, if_false, if_true]
  · have hall := takeWhile_run h.isDigit hrest
    simp only [hd, hall, h.value, hn, ← hcons, List.drop_left, Bool.not_true, Bool.false_eq_true,
      if_false, if_true]

namespace Instant

/-! ## Parts -/

theorem expectLoosely_self {c : Char} (h : isBlank c = false) (rest : List Char) :
    expectLoosely c (c :: rest) = .ok rest := by
  rw [expectLoosely, dropBlanks_cons h, expect, if_pos rfl]

/-- A number of two digits within its range is read back. -/
theorem looseNumber_padded {low high n : Nat} (hlow : low ≤ n) (hhigh : n ≤ high) (hn : n < 100)
    (rest : List Char) : looseNumber low high (padded 2 n ++ rest) = .ok (n, rest) := by
  have hspells := spells_padded 2 n
  have hend : RunEnds (some 2) (padded 2 n) rest := .inl (by rw [length_padded (by decide) hn])
  have hmax : n ≤ maxInt64.natAbs := Nat.le_trans (Nat.le_of_lt hn) (by decide)
  rw [looseNumber, hspells.dropBlanks_append, hspells.looseDigits_append hmax hend]
  simp only [bind, Except.bind, hlow, hhigh, and_self, if_true]

/-- A year is read back in front of a dash, whatever its sign and length. -/
theorem looseYear_yearChars {year : Int} (hlow : -0x80000000 ≤ year) (hhigh : year < 0x80000000)
    (rest : List Char) : looseYear (yearChars year ++ '-' :: rest) = .ok (year, '-' :: rest) := by
  have hspells := spells_padded 4 year.natAbs
  have hmax : year.natAbs ≤ maxInt64.natAbs := by
    have : maxInt64.natAbs = 0x7fffffffffffffff := rfl
    omega
  have hdash : ∀ c ∈ ('-' :: rest).head?, c.isDigit = false := by
    intro c hc
    obtain rfl := Option.some.inj hc
    rfl
  by_cases hfour : 0 ≤ year ∧ year ≤ 9999
  · have hlt : year.natAbs < 10000 := by omega
    have hend : RunEnds (some 4) (padded 4 year.natAbs) ('-' :: rest) :=
      .inl (by rw [length_padded (by decide) hlt])
    have hinner : looseDigits (some 4) (padded 4 year.natAbs ++ '-' :: rest) =
        .ok (year.natAbs, '-' :: rest) := hspells.looseDigits_append hmax hend
    rw [yearChars, if_pos hfour, looseYear.eq_def, hspells.dropBlanks_append]
    split
    -- There is no sign in front of four digits.
    · rename_i heq
      exact absurd heq (hspells.ne_cons rfl _ _)
    · rename_i heq
      exact absurd heq (hspells.ne_cons rfl _ _)
    · have habs : (year.natAbs : Int) = year := by omega
      rw [hinner, Except.map, habs]
      exact if_pos ⟨hlow, hhigh⟩
  · have hinner : looseDigits none (padded 4 year.natAbs ++ '-' :: rest) =
        .ok (year.natAbs, '-' :: rest) := hspells.looseDigits_append hmax (.inr ⟨rfl, hdash⟩)
    rw [yearChars, if_neg hfour, List.cons_append, looseYear]
    by_cases hneg : year < 0
    · have habs : -(year.natAbs : Int) = year := by omega
      rw [if_pos hneg, dropBlanks_cons (by decide)]
      simp only [hinner, Except.map, bind, Except.bind, habs, hlow, hhigh, and_self, if_true]
    · have habs : (year.natAbs : Int) = year := by omega
      rw [if_neg hneg, dropBlanks_cons (by decide)]
      simp only [hinner, Except.map, bind, Except.bind, habs, hlow, hhigh, and_self, if_true]

/-- The characters of a fraction: a point stands in front of its digits, if there are any. -/
def pointed : List Char → List Char
  | [] => []
  | d :: ds => '.' :: d :: ds

/-- A fraction is taken as far as its digits go. -/
theorem fraction_append {ds rest : List Char} (h : ∀ c ∈ ds, c.isDigit = true)
    (hrest : ∀ c ∈ rest.head?, c.isDigit = false ∧ c ≠ '.') :
    fraction (pointed ds ++ rest) = .ok (nanosOf ds, rest) := by
  cases ds with
  | nil =>
    rw [pointed, List.nil_append, fraction.eq_def]
    split
    · exact absurd rfl (hrest _ rfl).2
    · rfl
  | cons d ds =>
    have hends : Leaves Char.isDigit rest := fun c hc => (hrest c hc).1
    have hrun := takeWhile_run h hends
    have hdrop := dropWhile_run h hends
    rw [List.cons_append] at hrun hdrop
    rw [pointed, List.cons_append, List.cons_append, fraction]
    simp only [(List.forall_mem_cons.mp h).1, if_true, hrun, hdrop]

/-- The fraction of a padded number of digits. -/
theorem fraction_padded {width n : Nat} (hw : 0 < width) (hwidth : width ≤ 9)
    (hn : n < Nat.pow 10 width) (rest : List Char) :
    fraction ('.' :: (padded width n ++ 'Z' :: rest)) =
      .ok (n * Nat.pow 10 (9 - width), 'Z' :: rest) := by
  have hspells := spells_padded width n
  have hlen : (padded width n).length = width := length_padded hw hn
  have hnanos : nanosOf (padded width n) = n * Nat.pow 10 (9 - width) := by
    rw [nanosOf, List.take_of_length_le (by omega), hspells.value, hlen]
  have hpointed : pointed (padded width n) = '.' :: padded width n := by
    obtain ⟨d, ds, hds⟩ := List.exists_cons_of_ne_nil hspells.ne_nil
    rw [hds, pointed]
  have hZ : ∀ c ∈ ('Z' :: rest).head?, c.isDigit = false ∧ c ≠ '.' := by
    intro c hc
    obtain rfl := Option.some.inj hc
    decide
  rw [← List.cons_append, ← hpointed, fraction_append hspells.isDigit hZ, hnanos]

/-- Nanoseconds are read back from their fraction, however short it is. -/
theorem fraction_fractionChars {nanos : Nat} (h : nanos < 1000000000) (rest : List Char) :
    fraction (fractionChars nanos ++ 'Z' :: rest) = .ok (nanos, 'Z' :: rest) := by
  rw [fractionChars]
  split
  · rename_i hzero
    rw [hzero]
    rfl
  · split
    · rename_i hmod
      have hlt : nanos / 1000000 < 1000 := by omega
      have hnanos : nanos / 1000000 * Nat.pow 10 (9 - 3) = nanos :=
        Nat.div_mul_cancel (Nat.dvd_of_mod_eq_zero hmod)
      rw [List.cons_append, fraction_padded (by decide) (by decide) hlt, hnanos]
    · split
      · rename_i hmod
        have hlt : nanos / 1000 < 1000000 := by omega
        have hnanos : nanos / 1000 * Nat.pow 10 (9 - 6) = nanos :=
          Nat.div_mul_cancel (Nat.dvd_of_mod_eq_zero hmod)
        rw [List.cons_append, fraction_padded (by decide) (by decide) hlt, hnanos]
      · have hnanos : nanos * Nat.pow 10 (9 - 9) = nanos := Nat.mul_one nanos
        rw [List.cons_append, fraction_padded (by decide) (by decide) h, hnanos]

/-! ## Dates in range -/

/-- The date of an instant in universal time lies in the range of years. -/
theorem yearInRange_clock (t : Instant) :
    -262143 ≤ (t.clock 0).date.year ∧ (t.clock 0).date.year ≤ 262142 := by
  have hlow := t.lower
  have hhigh := t.upper
  have hday := Date.daysBeforeYear_yearAndDay ((t.seconds + 0 * 60) / 86400)
  have hlt := Date.yearAndDay_lt ((t.seconds + 0 * 60) / 86400)
  rw [Date.totalLength_monthLengths] at hlt
  have hlt' : (Date.yearAndDay ((t.seconds + 0 * 60) / 86400)).2 < 366 := by
    split at hlt <;> omega
  rw [minSeconds] at hlow
  rw [maxSeconds] at hhigh
  simp only [Date.firstDay, Date.daysBeforeYear] at hday
  show -262143 ≤ (Date.yearAndDay ((t.seconds + 0 * 60) / 86400)).1 ∧
    (Date.yearAndDay ((t.seconds + 0 * 60) / 86400)).1 ≤ 262142
  generalize Date.yearAndDay ((t.seconds + 0 * 60) / 86400) = r at hday hlt'
  -- Where a year begins is only known up to the rounding of leap years. For the years further out
  -- the bounds suffice; the one next to the range needs its own day count.
  constructor
  · have hne : r.1 ≠ -262144 := by
      intro heq
      rw [heq] at hday
      omega
    omega
  · have hne : r.1 ≠ 262143 := by
      intro heq
      rw [heq] at hday
      omega
    omega

/-- **Reading undoes writing**: the relaxed reader takes the written form of an instant back to
the instant, leap seconds and years of any sign and length included. -/
theorem relaxed_render (t : Instant) : relaxed t.render = .ok t := by
  have hread : (t.clock 0).at 0 = .ok t := at_clock t (by decide)
  obtain ⟨hdate, htime, hnanos⟩ := clock_exists t 0
  obtain ⟨hmonth, hmonth', hday, hday'⟩ := Date.bounds_of_exists hdate
  obtain ⟨hyear, hyear'⟩ := yearInRange_clock t
  rw [Local.timeExists, decide_eq_true_eq] at htime
  obtain ⟨hhour, hminute, hsecond⟩ := htime
  rw [relaxed, render, String.toList_ofList, chars_eq]
  generalize t.clock 0 = l at *
  have hyear32 : -0x80000000 ≤ l.date.year := by omega
  have hyear32' : l.date.year < 0x80000000 := by omega
  have hrange : yearInRange l.date.year = true := decide_eq_true ⟨hyear, hyear'⟩
  have hdash : isBlank '-' = false := by decide
  have hcolon : isBlank ':' = false := by decide
  have hzone : looseOffset ['Z'] = .ok (0, []) := rfl
  simp only [List.append_assoc, List.cons_append]
  simp only [looseYear_yearChars hyear32 hyear32', expectLoosely_self hdash,
    expectLoosely_self hcolon, looseNumber_padded hmonth hmonth' (by omega),
    looseNumber_padded hday hday' (by omega), timeMark, or_true, true_or, if_true,
    looseNumber_padded (Nat.zero_le _) hhour (by omega),
    looseNumber_padded (Nat.zero_le _) hminute (by omega),
    looseNumber_padded (Nat.zero_le _) hsecond (by omega),
    fraction_fractionChars hnanos, hzone, hrange, hdate, bind, Except.bind]
  exact hread

end Instant

end RelationalCatalog
