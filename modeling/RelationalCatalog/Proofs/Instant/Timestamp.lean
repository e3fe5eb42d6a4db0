import RelationalCatalog.Proofs.Instant.Reading
import RelationalCatalog.Proofs.Number.Digits
import RelationalCatalog.Proofs.Outcome
import RelationalCatalog.Proofs.Text.Utf8

/-!
# Timestamps

The timestamps of RFC 3339 (`Timestamp`), with their characters and with the date and time that
they spell. `strict_eq_ok_iff` says that the strict reader takes the texts of timestamps and no
others, and that what it takes from a text is the instant at which the clock with the timestamp's
offset shows the timestamp's date and time.

The reader is a sequence of readers of parts. Each has lemmas that say from which characters it
takes its part (`fixedDigits_eq_ok_iff`, `strictDate_eq_ok_iff`, `offset_chars` and
`exists_of_offset`), and the characters of a timestamp are put together from these. Only a fraction
is not delimited by its own length: it goes on as long as there are digits (`fraction_append`).

`strict_text_eq_ok_iff` says the same in numbers, outside leap seconds, and `exists_timestamp` that
an instant has a timestamp for each offset with which its year has four digits. One of them is its
written form (`strict_render`).
-/

namespace RelationalCatalog

namespace Instant

/-- An offset from universal time as it is written. -/
inductive Zone
  /-- The letter for universal time itself. -/
  | universal (letter : Char) (isZ : letter = 'Z' ∨ letter = 'z')
  /-- A sign, which may be the mathematical minus sign, hours and minutes. -/
  | offset (sign : Char) (hours minutes : Nat) (isSign : sign = '+' ∨ sign = '-' ∨ sign = '\u2212')
    (hours_le : hours ≤ 23) (minutes_le : minutes ≤ 59)

namespace Zone

/-- How many minutes the local time is ahead of universal time. -/
def ahead : Zone → Int
  | .universal _ _ => 0
  | .offset sign hours minutes _ _ _ =>
    if sign = '+' then hours * 60 + minutes else -(hours * 60 + minutes)

/-- The characters of an offset. -/
def chars : Zone → List Char
  | .universal letter _ => [letter]
  | .offset sign hours minutes _ _ _ =>
    sign :: (padded 2 hours ++ ':' :: padded 2 minutes)

/-- Offsets are below a day. -/
theorem natAbs_ahead_lt (z : Zone) : z.ahead.natAbs < 1440 := by
  cases z with
  | universal => exact Nat.succ_pos _
  | offset sign hours minutes _ hhours hminutes =>
    rw [ahead]
    split <;> omega

/-- Each offset of whole minutes below a day can be written. -/
theorem exists_ahead_eq {minutes : Int} (h : minutes.natAbs < 1440) :
    ∃ z : Zone, z.ahead = minutes := by
  have hhours : minutes.natAbs / 60 ≤ 23 := by omega
  have hminutes : minutes.natAbs % 60 ≤ 59 := by omega
  by_cases hsign : 0 ≤ minutes
  · refine ⟨.offset '+' _ _ (.inl rfl) hhours hminutes, ?_⟩
    rw [ahead, if_pos rfl]
    omega
  · refine ⟨.offset '-' _ _ (.inr (.inl rfl)) hhours hminutes, ?_⟩
    rw [ahead, if_neg (by decide)]
    omega

end Zone

/-- A local date and time as they are written: a date of a year from 0 to 9999, a time of day, and
any number of digits behind the second. -/
structure LocalTimestamp where
  /-- The date. -/
  date : Date
  /-- The character between date and time. -/
  mark : Char
  /-- The hour. -/
  hour : Nat
  /-- The minute. -/
  minute : Nat
  /-- The second; 60 is a leap second. -/
  second : Nat
  /-- The digits of the fraction of the second. -/
  fraction : List Char
  /-- A year has no sign. -/
  year_nonneg : 0 ≤ date.year
  /-- A year has four digits. -/
  year_le : date.year ≤ 9999
  /-- There is such a date. -/
  date_exists : date.exists? = true
  /-- A letter or a blank is between date and time. -/
  isMark : mark = 't' ∨ mark = 'T' ∨ mark = ' '
  /-- A day has 24 hours. -/
  hour_le : hour ≤ 23
  /-- An hour has 60 minutes. -/
  minute_le : minute ≤ 59
  /-- A minute has 60 seconds, or one more. -/
  second_le : second ≤ 60
  /-- There are only digits in the fraction. -/
  isDigit : ∀ c ∈ fraction, c.isDigit = true

/-- A timestamp of RFC 3339: a local date and time with their offset. -/
structure Timestamp extends LocalTimestamp where
  /-- The offset. -/
  zone : Zone

/-- The characters of a date of a year from 0 to 9999. -/
def dateChars (d : Date) : List Char :=
  padded 4 d.year.natAbs ++ '-' :: (padded 2 d.month ++ '-' :: padded 2 d.day)

namespace LocalTimestamp

/-- The characters of a local date and time. -/
def chars (w : LocalTimestamp) : List Char :=
  dateChars w.date ++ w.mark :: (padded 2 w.hour ++ ':' :: (padded 2 w.minute
    ++ ':' :: (padded 2 w.second ++ pointed w.fraction)))

/-- The nanoseconds of the fraction; what is below a nanosecond is dropped. -/
def nanos (w : LocalTimestamp) : Nat :=
  digitsValue w.fraction * 1000000000 / 10 ^ w.fraction.length

/-- The date and time of day that are spelled. -/
def shown (w : LocalTimestamp) : Local := ⟨w.date, w.hour, w.minute, w.second, w.nanos⟩

end LocalTimestamp

namespace Timestamp

/-- The text of a timestamp. -/
def text (w : Timestamp) : String := String.ofList (w.chars ++ w.zone.chars)

/-- The nanoseconds since the beginning of 1970: those of the local date and time without those of
the offset. -/
def epochNanos (w : Timestamp) : Int :=
  (w.date.dayNumber * 86400 + w.hour * 3600 + w.minute * 60 + w.second) * 1000000000 + w.nanos
    - w.zone.ahead * 60 * 1000000000

end Timestamp

/-! ## Numbers -/

/-- Digits are taken one by one, each as the last one of the number so far. -/
theorem fixedDigits_eq_ok_iff_digits {count acc n : Nat} {cs rest : List Char} :
    fixedDigits count acc cs = .ok (n, rest) ↔
      ∃ ds, cs = ds ++ rest ∧ ds.length = count ∧ (∀ c ∈ ds, c.isDigit = true) ∧
        n = acc * 10 ^ count + digitsValue ds := by
  -- The number so far has to be general: the digits behind the first one are read on top of it.
  induction count generalizing acc cs with
  | zero =>
    rw [fixedDigits]
    constructor
    · intro h
      cases h
      refine ⟨[], rfl, rfl, fun _ hc => absurd hc List.not_mem_nil, ?_⟩
      rw [Nat.pow_zero, Nat.mul_one]
      rfl
    · rintro ⟨ds, rfl, hlength, -, rfl⟩
      rw [List.length_eq_zero_iff.mp hlength, Nat.pow_zero, Nat.mul_one]
      rfl
  | succ count ih =>
    have hvalue (c : Char) (ds : List Char) (h : ds.length = count) :
        (acc * 10 + digitValue c) * 10 ^ count + digitsValue ds =
          acc * 10 ^ (count + 1) + digitsValue (c :: ds) := by
      rw [digitsValue_cons, h, Nat.add_mul, Nat.pow_succ', Nat.mul_assoc, Nat.add_assoc]
    cases cs with
    | nil =>
      rw [fixedDigits]
      constructor
      · intro h
        cases h
      · rintro ⟨ds, hnil, hlength, -, -⟩
        rw [(List.append_eq_nil_iff.mp hnil.symm).1] at hlength
        cases hlength
    | cons c cs =>
      rw [fixedDigits]
      constructor
      · intro h
        split at h
        · rename_i hc
          obtain ⟨ds, rfl, hlength, hds, rfl⟩ := ih.mp h
          refine ⟨c :: ds, rfl, congrArg Nat.succ hlength, ?_, hvalue c ds hlength⟩
          exact List.forall_mem_cons.mpr ⟨hc, hds⟩
        · cases h
      · rintro ⟨ds, hsplit, hlength, hds, rfl⟩
        obtain ⟨d, ds, rfl⟩ := List.exists_cons_of_length_eq_add_one hlength
        obtain ⟨rfl, rfl⟩ := List.cons.inj hsplit
        obtain ⟨hc, hds⟩ := List.forall_mem_cons.mp hds
        have hlength' : ds.length = count := Nat.succ.inj hlength
        rw [if_pos hc]
        exact ih.mpr ⟨ds, rfl, hlength', hds, (hvalue c ds hlength').symm⟩

/-- Digits of a fixed number are those of a padded number. -/
theorem fixedDigits_eq_ok_iff {count n : Nat} {cs rest : List Char} (hcount : 0 < count) :
    fixedDigits count 0 cs = .ok (n, rest) ↔ n < 10 ^ count ∧ cs = padded count n ++ rest := by
  rw [fixedDigits_eq_ok_iff_digits]
  constructor
  · rintro ⟨ds, rfl, rfl, hds, hn⟩
    rw [Nat.zero_mul, Nat.zero_add] at hn
    have hlt : n < 10 ^ ds.length := hn ▸ digitsValue_lt hds
    have hspells := spells_padded ds.length n
    have hlength := length_padded hcount hlt
    exact ⟨hlt, by rw [eq_of_digitsValue_eq hspells.isDigit hds hlength (hspells.value.trans hn)]⟩
  · rintro ⟨hlt, rfl⟩
    have hspells := spells_padded count n
    refine ⟨_, rfl, length_padded hcount hlt, hspells.isDigit, ?_⟩
    rw [hspells.value, Nat.zero_mul, Nat.zero_add]

/-- Two digits that are asked for as two bytes are no others. -/
theorem twoDigits_eq_ok_iff_fixedDigits {n : Nat} {cs rest : List Char} :
    twoDigits cs = .ok (n, rest) ↔ fixedDigits 2 0 cs = .ok (n, rest) := by
  match cs with
  | [] => simp [twoDigits, utf8Length, fixedDigits]
  | [a] =>
    rw [twoDigits.eq_def]
    simp only [fixedDigits]
    split <;> split <;> simp
  | a :: b :: cs =>
    have hlength := length_le_utf8Length (a :: b :: cs)
    have hlong : ¬ utf8Length (a :: b :: cs) < 2 := by
      rw [List.length_cons, List.length_cons] at hlength
      omega
    rw [twoDigits, if_neg hlong]
    simp only [fixedDigits]
    by_cases ha : a.isDigit = true <;> by_cases hb : b.isDigit = true <;> simp [ha, hb]

theorem twoDigits_eq_ok_iff {n : Nat} {cs rest : List Char} :
    twoDigits cs = .ok (n, rest) ↔ n < 100 ∧ cs = padded 2 n ++ rest :=
  twoDigits_eq_ok_iff_fixedDigits.trans (fixedDigits_eq_ok_iff Nat.zero_lt_two)

/-! ## Marks -/

theorem expect_eq_ok_iff {c : Char} {cs rest : List Char} :
    expect c cs = .ok rest ↔ cs = c :: rest := by
  cases cs with
  | nil => simp [expect]
  | cons d cs =>
    rw [expect]
    split <;> simp [*]

theorem timeMark_eq_ok_iff {cs rest : List Char} :
    timeMark cs = .ok rest ↔
      ∃ mark, (mark = 't' ∨ mark = 'T' ∨ mark = ' ') ∧ cs = mark :: rest := by
  cases cs with
  | nil => simp [timeMark]
  | cons c cs =>
    rw [timeMark]
    split
    · rename_i h
      constructor
      · intro heq
        cases heq
        exact ⟨c, h, rfl⟩
      · rintro ⟨mark, -, heq⟩
        cases heq
        rfl
    · rename_i h
      constructor
      · intro heq
        cases heq
      · rintro ⟨mark, hmark, heq⟩
        cases heq
        exact absurd hmark h

/-! ## Fractions -/

/-- The nanoseconds of the digits of a fraction are the quotient by the power of ten for them. -/
theorem nanosOf_eq {ds : List Char} (h : ∀ c ∈ ds, c.isDigit = true) :
    nanosOf ds = digitsValue ds * 1000000000 / 10 ^ ds.length := by
  have hnanos : 1000000000 = 10 ^ 9 := rfl
  have hpow : Nat.pow 10 (9 - min 9 ds.length) = 10 ^ (9 - min 9 ds.length) := rfl
  rw [nanosOf, digitsValue_take h, List.length_take, hnanos, hpow]
  -- Either digits are missing to nine, or there are some that are cut off; never both.
  rcases Nat.le_total ds.length 9 with hle | hle
  · have hsplit : 10 ^ 9 = 10 ^ (9 - ds.length) * 10 ^ ds.length := by
      rw [← Nat.pow_add, Nat.sub_add_cancel hle]
    rw [hsplit, ← Nat.mul_assoc, Nat.mul_div_cancel _ (Nat.pow_pos (by decide)),
      Nat.sub_eq_zero_of_le hle, Nat.pow_zero, Nat.div_one, Nat.min_eq_right hle]
  · have hsplit : 10 ^ ds.length = 10 ^ (ds.length - 9) * 10 ^ 9 := by
      rw [← Nat.pow_add, Nat.sub_add_cancel hle]
    rw [hsplit, Nat.mul_div_mul_right _ _ (Nat.pow_pos (by decide)), Nat.min_eq_left hle,
      Nat.sub_self, Nat.pow_zero, Nat.mul_one]

/-- A fraction is below a second. -/
theorem nanosOf_lt {ds : List Char} (h : ∀ c ∈ ds, c.isDigit = true) :
    nanosOf ds < 1000000000 := by
  rw [nanosOf_eq h]
  refine Nat.div_lt_of_lt_mul ?_
  exact Nat.mul_lt_mul_of_pos_right (digitsValue_lt h) (Nat.succ_pos _)

/-- What is taken is a fraction. -/
theorem exists_of_fraction {n : Nat} {cs rest : List Char} (h : fraction cs = .ok (n, rest)) :
    ∃ ds, (∀ c ∈ ds, c.isDigit = true) ∧ n = nanosOf ds ∧ cs = pointed ds ++ rest := by
  by_cases hpoint : ∃ cs', cs = '.' :: cs'
  · obtain ⟨cs', rfl⟩ := hpoint
    cases cs' with
    | nil => cases h
    | cons c cs =>
      rw [fraction] at h
      by_cases hc : c.isDigit = true
      · rw [if_pos hc] at h
        cases h
        refine ⟨(c :: cs).takeWhile Char.isDigit, List.all_eq_true.mp List.all_takeWhile, rfl, ?_⟩
        have hrun := List.takeWhile_append_dropWhile (p := Char.isDigit) (l := c :: cs)
        rw [List.takeWhile_cons, if_pos hc] at hrun ⊢
        rw [pointed, List.cons_append, hrun]
      · rw [if_neg hc] at h
        cases h
  · rw [fraction.eq_3 cs fun cs' heq => hpoint ⟨cs', heq⟩] at h
    cases h
    exact ⟨[], fun _ hc => absurd hc List.not_mem_nil, rfl, rfl⟩

/-! ## Parts -/

/-- A date is taken from its characters, and from nothing else. -/
theorem strictDate_eq_ok_iff {d : Date} {cs rest : List Char} :
    strictDate cs = .ok (d, rest) ↔
      0 ≤ d.year ∧ d.year ≤ 9999 ∧ d.exists? = true ∧ cs = dateChars d ++ rest := by
  rw [strictDate]
  simp only [bind_eq_ok_iff, Prod.exists, expect_eq_ok_iff, fixedDigits_eq_ok_iff Nat.zero_lt_two,
    fixedDigits_eq_ok_iff (Nat.succ_pos 3)]
  constructor
  · rintro ⟨year, cs, ⟨hyear, rfl⟩, cs, rfl, month, cs, ⟨hmonth, rfl⟩, cs, rfl, day, cs,
      ⟨hday, rfl⟩, h⟩
    split at h
    · rename_i hexists
      cases h
      refine ⟨Int.natCast_nonneg _, by simp only; omega, hexists, ?_⟩
      simp only [dateChars, Int.natAbs_natCast, List.append_assoc, List.cons_append]
    · cases h
  · rintro ⟨hyear, hyear', hexists, rfl⟩
    obtain ⟨-, hmonth, -, hday⟩ := Date.bounds_of_exists hexists
    refine ⟨d.year.natAbs, _, ⟨by omega, ?_⟩, _, rfl, d.month, _, ⟨by omega, rfl⟩, _, rfl, d.day,
      rest, ⟨by omega, rfl⟩, ?_⟩
    · simp only [dateChars, List.append_assoc, List.cons_append]
    · have hdate : (⟨(d.year.natAbs : Int), d.month, d.day⟩ : Date) = d := by
        rw [Int.natAbs_of_nonneg hyear]
      rw [hdate, if_pos hexists]

theorem LocalTimestamp.nanosOf_fraction (w : LocalTimestamp) : nanosOf w.fraction = w.nanos :=
  nanosOf_eq w.isDigit

/-- The date and time that are spelled exist. -/
theorem LocalTimestamp.shown_exists (w : LocalTimestamp) : w.shown.Exists where
  date := w.date_exists
  time := decide_eq_true ⟨w.hour_le, w.minute_le, w.second_le⟩
  nanos_lt := by
    show w.nanos < 1000000000
    rw [← nanosOf_fraction]
    exact nanosOf_lt w.isDigit

/-- A local date and time are taken from their characters, if no digit follows. -/
theorem strictLocal_append (w : LocalTimestamp) {rest : List Char}
    (hrest : ∀ c ∈ rest.head?, c.isDigit = false ∧ c ≠ '.') :
    strictLocal (w.chars ++ rest) = .ok (w.shown, rest) := by
  have hdate (cs : List Char) : strictDate (dateChars w.date ++ cs) = .ok (w.date, cs) :=
    strictDate_eq_ok_iff.mpr ⟨w.year_nonneg, w.year_le, w.date_exists, rfl⟩
  have hmark (cs : List Char) : timeMark (w.mark :: cs) = .ok cs :=
    timeMark_eq_ok_iff.mpr ⟨w.mark, w.isMark, rfl⟩
  have hcolon (cs : List Char) : expect ':' (':' :: cs) = .ok cs := expect_eq_ok_iff.mpr rfl
  have hread {n : Nat} (hn : n < 100) (cs : List Char) :
      fixedDigits 2 0 (padded 2 n ++ cs) = .ok (n, cs) :=
    (fixedDigits_eq_ok_iff Nat.zero_lt_two).mpr ⟨hn, rfl⟩
  have hhour : w.hour < 100 := Nat.lt_of_le_of_lt w.hour_le (by decide)
  have hminute : w.minute < 100 := Nat.lt_of_le_of_lt w.minute_le (by decide)
  have hsecond : w.second < 100 := Nat.lt_of_le_of_lt w.second_le (by decide)
  rw [strictLocal, LocalTimestamp.chars]
  simp only [List.append_assoc, List.cons_append, hdate, hmark, hcolon, hread hhour, hread hminute,
    hread hsecond, fraction_append w.isDigit hrest, LocalTimestamp.nanosOf_fraction, bind,
    Except.bind]
  exact if_pos w.shown_exists.time

/-- What is taken as a local date and time is one. -/
theorem exists_of_strictLocal {l : Local} {cs rest : List Char}
    (h : strictLocal cs = .ok (l, rest)) :
    ∃ w : LocalTimestamp, w.shown = l ∧ cs = w.chars ++ rest := by
  rw [strictLocal] at h
  simp only [bind_eq_ok_iff, Prod.exists, strictDate_eq_ok_iff, timeMark_eq_ok_iff,
    expect_eq_ok_iff, fixedDigits_eq_ok_iff Nat.zero_lt_two] at h
  obtain ⟨date, cs, ⟨hyear, hyear', hexists, rfl⟩, cs, ⟨mark, isMark, rfl⟩, hour, cs, ⟨-, rfl⟩, cs,
    rfl, minute, cs, ⟨-, rfl⟩, cs, rfl, second, cs, ⟨-, rfl⟩, nanos, cs, hfraction, h⟩ := h
  obtain ⟨ds, hds, rfl, rfl⟩ := exists_of_fraction hfraction
  split at h
  · rename_i htime
    cases h
    rw [Local.timeExists, decide_eq_true_eq] at htime
    obtain ⟨hhour, hminute, hsecond⟩ := htime
    refine ⟨⟨date, mark, hour, minute, second, ds, hyear, hyear', hexists, isMark, hhour, hminute,
      hsecond, hds⟩, ?_, ?_⟩
    · simp only [LocalTimestamp.shown, LocalTimestamp.nanos, nanosOf_eq hds]
    · simp only [LocalTimestamp.chars, List.append_assoc, List.cons_append]
  · cases h

/-- An offset is taken from its characters. -/
theorem offset_chars (z : Zone) (rest : List Char) :
    offset (expect ':') (z.chars ++ rest) = .ok (z.ahead, rest) := by
  cases z with
  | universal letter isZ => exact if_pos isZ
  | offset sign hours minutes isSign hhours hminutes =>
    have hnotZ : ¬ (sign = 'Z' ∨ sign = 'z') := by
      rcases isSign with rfl | rfl | rfl <;> decide
    have hsign : sign = '+' ∨ sign = '-' ∨ sign = '−' := isSign
    have hread (n : Nat) (hn : n < 100) (cs : List Char) :
        twoDigits (padded 2 n ++ cs) = .ok (n, cs) := twoDigits_eq_ok_iff.mpr ⟨hn, rfl⟩
    have hfit : ¬ 59 < minutes := Nat.not_lt.mpr hminutes
    rw [Zone.chars, List.cons_append, List.append_assoc, List.cons_append, offset, if_neg hnotZ,
      if_pos hsign]
    simp only [hread hours (by omega), hread minutes (by omega), expect, if_true, bind, Except.bind,
      if_neg hfit]
    rfl

/-- What is taken as an offset below a day is one. -/
theorem exists_of_offset {minutes : Int} {cs rest : List Char}
    (h : offset (expect ':') cs = .ok (minutes, rest)) (hminutes : minutes.natAbs < 1440) :
    ∃ z : Zone, z.ahead = minutes ∧ cs = z.chars ++ rest := by
  cases cs with
  | nil => cases h
  | cons c cs =>
    rw [offset] at h
    split at h
    · rename_i isZ
      cases h
      exact ⟨.universal c isZ, rfl, rfl⟩
    · split at h
      · rename_i isSign
        simp only [bind_eq_ok_iff, Prod.exists, expect_eq_ok_iff, twoDigits_eq_ok_iff] at h
        obtain ⟨hours, cs, ⟨hhours, rfl⟩, cs, rfl, mins, cs, ⟨hmins, rfl⟩, h⟩ := h
        split at h
        · cases h
        · rename_i hfit
          cases h
          have hhours' : hours ≤ 23 := by
            split at hminutes <;> omega
          refine ⟨.offset c hours mins isSign hhours' (Nat.not_lt.mp hfit), rfl, ?_⟩
          simp only [Zone.chars, List.cons_append, List.append_assoc]
      · cases h


/-! ## Timestamps -/

/-- An offset does not begin as a fraction or its digits do. -/
theorem Zone.head_chars (z : Zone) : ∀ c ∈ z.chars.head?, c.isDigit = false ∧ c ≠ '.' := by
  intro c hc
  cases z with
  | universal letter isZ =>
    obtain rfl := Option.some.inj hc
    rcases isZ with rfl | rfl <;> decide
  | offset sign hours minutes isSign =>
    obtain rfl := Option.some.inj hc
    rcases isSign with rfl | rfl | rfl <;> decide

theorem LocalTimestamp.le_length_chars (w : LocalTimestamp) : 19 ≤ w.chars.length := by
  obtain ⟨-, hmonth, -, hday⟩ := Date.bounds_of_exists w.date_exists
  have hfour : w.date.year.natAbs < 10000 := by
    have hnonneg := w.year_nonneg
    have hle := w.year_le
    omega
  have hyear : (padded 4 w.date.year.natAbs).length = 4 := length_padded (by decide) hfour
  have hlength {n : Nat} (hn : n < 100) : (padded 2 n).length = 2 := length_padded (by decide) hn
  have hhour := hlength (Nat.lt_of_le_of_lt w.hour_le (by decide))
  have hminute := hlength (Nat.lt_of_le_of_lt w.minute_le (by decide))
  have hsecond := hlength (Nat.lt_of_le_of_lt w.second_le (by decide))
  have hmonth' := hlength (Nat.lt_of_le_of_lt hmonth (by decide))
  have hday' := hlength (Nat.lt_of_le_of_lt hday (by decide))
  simp only [chars, dateChars, List.length_append, List.length_cons, hyear, hmonth', hday', hhour,
    hminute, hsecond]
  omega

/-- The instant of a timestamp is that of its date and time with its offset. -/
theorem strict_text (w : Timestamp) : strict w.text = w.shown.at w.zone.ahead := by
  have hlong : ¬ utf8Length (w.chars ++ w.zone.chars) < 19 := by
    have hle := length_le_utf8Length (w.chars ++ w.zone.chars)
    have hchars := w.le_length_chars
    rw [List.length_append] at hle
    omega
  have hoffset : offset (expect ':') w.zone.chars = .ok (w.zone.ahead, []) := by
    have h := offset_chars w.zone []
    rwa [List.append_nil] at h
  rw [strict, Timestamp.text, String.toList_ofList, if_neg hlong,
    strictLocal_append _ w.zone.head_chars]
  simp only [bind, Except.bind, hoffset, List.isEmpty_nil, if_true]

/-- What is taken as a timestamp is one. -/
theorem exists_of_strict {s : String} {t : Instant} (h : strict s = .ok t) :
    ∃ w : Timestamp, w.text = s := by
  rw [strict] at h
  split at h
  · cases h
  · simp only [bind_eq_ok_iff, Prod.exists] at h
    obtain ⟨l, cs, hlocal, minutes, cs', hoffset, h⟩ := h
    split at h
    · rename_i hend
      obtain ⟨w, rfl, hw⟩ := exists_of_strictLocal hlocal
      obtain ⟨z, -, rfl⟩ := exists_of_offset hoffset (at_eq_ok_iff.mp h).1
      rw [List.isEmpty_iff.mp hend, List.append_nil] at hw
      refine ⟨⟨w, z⟩, ?_⟩
      rw [Timestamp.text, ← hw, String.ofList_toList]
    · cases h

/-- **The strict reader takes timestamps**, and nothing else; and what it takes from one is the
instant at which the clock with the timestamp's offset shows its date and time. -/
theorem strict_eq_ok_iff {s : String} {t : Instant} :
    strict s = .ok t ↔ ∃ w : Timestamp, w.text = s ∧ t.clock w.zone.ahead = w.shown := by
  have hat (w : Timestamp) : strict w.text = .ok t ↔ t.clock w.zone.ahead = w.shown := by
    rw [strict_text, at_eq_ok_iff_clock w.shown_exists, and_iff_right w.zone.natAbs_ahead_lt]
  constructor
  · intro h
    obtain ⟨w, rfl⟩ := exists_of_strict h
    exact ⟨w, rfl, (hat w).mp h⟩
  · rintro ⟨w, rfl, hclock⟩
    exact (hat w).mpr hclock

/-- Each timestamp has an instant. -/
theorem exists_strict_text (w : Timestamp) : ∃ t, strict w.text = .ok t := by
  have hnonneg := w.year_nonneg
  have hle := w.year_le
  rw [strict_text]
  exact exists_at w.shown_exists (by show _ < w.date.year; omega) (by show w.date.year < _; omega)
    w.zone.natAbs_ahead_lt

/-- Outside leap seconds, the instant of a timestamp is the local date and time that it spells minus
its offset. -/
theorem strict_text_eq_ok_iff {w : Timestamp} (h : w.second ≠ 60) {t : Instant} :
    strict w.text = .ok t ↔ t.nanos < 1000000000 ∧ t.epochNanos = w.epochNanos := by
  have hlt : w.nanos < 1000000000 := w.shown_exists.nanos_lt
  have hepoch {t : Instant} (ht : strict w.text = .ok t) :
      t.nanos < 1000000000 ∧ t.epochNanos = w.epochNanos := by
    rw [strict_text, at_eq_ok_iff, instant?_eq_some_iff] at ht
    obtain ⟨-, ⟨-, hseconds, hnanos⟩ | ⟨hleap, -⟩⟩ := ht
    · have hseconds' : t.seconds = w.date.dayNumber * 86400 + w.hour * 3600 + w.minute * 60
          - w.zone.ahead * 60 + w.second := hseconds
      have hnanos' : t.nanos = w.nanos := hnanos
      rw [epochNanos, Timestamp.epochNanos]
      omega
    · exact absurd hleap h
  constructor
  · exact hepoch
  · -- Some instant is read, and it has the same nanoseconds.
    rintro ⟨hnanos, heq⟩
    obtain ⟨t', ht'⟩ := exists_strict_text w
    obtain ⟨hnanos', heq'⟩ := hepoch ht'
    rw [ht', eq_of_epochNanos_eq hnanos hnanos' (heq.trans heq'.symm)]

/-! ## Spellings of an instant -/

/-- An instant can be spelled with an offset if the local year has four digits. -/
theorem exists_timestamp (t : Instant) (z : Zone) (hyear : 0 ≤ (t.clock z.ahead).date.year)
    (hyear' : (t.clock z.ahead).date.year ≤ 9999) :
    ∃ w : Timestamp, w.zone = z ∧ w.shown = t.clock z.ahead ∧ w.mark = 'T' ∧
      pointed w.fraction = fractionChars (t.clock z.ahead).nanos := by
  obtain ⟨hdate, htime, hnanos⟩ := clock_exists t z.ahead
  rw [Local.timeExists, decide_eq_true_eq] at htime
  obtain ⟨hhour, hminute, hsecond⟩ := htime
  -- The digits of the fraction are those of the written form, which is read back.
  obtain ⟨ds, hds, hvalue, hchars⟩ := exists_of_fraction (fraction_fractionChars hnanos [])
  refine ⟨⟨⟨_, 'T', _, _, _, ds, hyear, hyear', hdate, .inr (.inl rfl), hhour, hminute, hsecond,
    hds⟩, z⟩, rfl, ?_, rfl, (List.append_cancel_right hchars).symm⟩
  simp only [LocalTimestamp.shown, LocalTimestamp.nanos, ← nanosOf_eq hds, ← hvalue]

/-- An instant of a year of four digits is read back by the strict reader. -/
theorem strict_render {t : Instant} (hyear : 0 ≤ (t.clock 0).date.year)
    (hyear' : (t.clock 0).date.year ≤ 9999) : strict t.render = .ok t := by
  obtain ⟨w, hzone, hshown, hmark, hfraction⟩ :=
    exists_timestamp t (.universal 'Z' (.inl rfl)) hyear hyear'
  have hclock : t.clock 0 = w.shown := hshown.symm
  refine strict_eq_ok_iff.mpr ⟨w, ?_, by rw [hzone]; exact hclock⟩
  have hfraction' : pointed w.fraction = fractionChars w.nanos := by
    rw [hfraction, ← hshown]
    rfl
  have hyearChars : yearChars w.date.year = padded 4 w.date.year.natAbs :=
    if_pos ⟨w.year_nonneg, w.year_le⟩
  rw [Timestamp.text, render, chars_eq, hclock, LocalTimestamp.chars, dateChars, hmark, hzone,
    hfraction']
  simp only [LocalTimestamp.shown, hyearChars, Zone.chars, List.append_assoc, List.cons_append]

end Instant

end RelationalCatalog
