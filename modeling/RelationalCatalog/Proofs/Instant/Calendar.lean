import RelationalCatalog.Instant.Calendar

/-!
# Dates and their days

A date that exists is the date of its day (`Date.ofDayNumber_dayNumber`), and the day after it has
the next number (`Date.dayNumber_next`): days are numbered as the calendar goes, without gaps and
without repetitions. A year is as long as its months together, so that its days come between its
first one and that of the next year (`Date.dayNumber_mem_year`); and within a year, no day belongs
to two months (`Date.monthAndDay_eq`).
-/

namespace RelationalCatalog

namespace Date

/-- A year is as long as its months together. -/
theorem daysBeforeYear_succ (year : Int) :
    daysBeforeYear (year + 1) =
      daysBeforeYear year + totalLength (monthLengths (isLeapYear year)) := by
  rw [totalLength_monthLengths]
  simp only [daysBeforeYear, isLeapYear, decide_eq_true_eq]
  split <;> omega

/-- Later years begin later. -/
theorem daysBeforeYear_le {year year' : Int} (h : year ≤ year') :
    daysBeforeYear year ≤ daysBeforeYear year' := by
  simp only [daysBeforeYear]
  omega

/-- A day of a month is found again in the year. -/
theorem monthAndDay_eq {lengths : List Nat} {index length day : Nat}
    (hlength : lengths[index]? = some length) (hday : 1 ≤ day) (hday' : day ≤ length)
    (month : Nat) :
    monthAndDay month (daysBeforeMonth index lengths + day) lengths = (month + index, day) := by
  induction lengths generalizing index month with
  | nil => cases hlength
  | cons first rest ih =>
    cases index with
    | zero =>
      obtain rfl := Option.some.inj hlength
      rw [monthAndDay, daysBeforeMonth, Nat.zero_add, if_pos hday', Nat.add_zero]
    | succ index =>
      have hlater : ¬ first + daysBeforeMonth index rest + day ≤ first := by omega
      have hrest : first + daysBeforeMonth index rest + day - first =
          daysBeforeMonth index rest + day := by omega
      rw [monthAndDay, daysBeforeMonth, if_neg hlater, hrest, ih hlength, Nat.add_right_comm,
        Nat.add_assoc]

/-- A month is followed by the next one. -/
theorem daysBeforeMonth_succ {lengths : List Nat} {index length : Nat}
    (hlength : lengths[index]? = some length) :
    daysBeforeMonth (index + 1) lengths = daysBeforeMonth index lengths + length := by
  induction lengths generalizing index with
  | nil => cases hlength
  | cons first rest ih =>
    cases index with
    | zero =>
      obtain rfl := Option.some.inj hlength
      simp only [daysBeforeMonth]
      omega
    | succ index =>
      rw [daysBeforeMonth, ih hlength, daysBeforeMonth, Nat.add_assoc]

/-- The months before another one are not longer than all months together. -/
theorem daysBeforeMonth_le (index : Nat) (lengths : List Nat) :
    daysBeforeMonth index lengths ≤ totalLength lengths := by
  induction lengths generalizing index with
  | nil => cases index <;> exact Nat.zero_le _
  | cons first rest ih =>
    cases index with
    | zero => exact Nat.zero_le _
    | succ index => exact Nat.add_le_add_left (ih index) first

/-- The year of a day between its first one and that of the next year. -/
theorem yearAndDay_eq_of_bounds {number year : Int}
    (hlow : firstDay + daysBeforeYear year ≤ number)
    (hhigh : number < firstDay + daysBeforeYear (year + 1)) :
    yearAndDay number = (year, (number - (firstDay + daysBeforeYear year)).toNat) := by
  have hsum := daysBeforeYear_yearAndDay number
  have hlt := yearAndDay_lt number
  have hnext := daysBeforeYear_succ (yearAndDay number).1
  -- The days of an earlier year end before this one begins, and those of a later year begin when it
  -- has ended.
  have hyear : (yearAndDay number).1 = year := by
    rcases Int.lt_trichotomy (yearAndDay number).1 year with hless | heq | hgreater
    · have hle := daysBeforeYear_le (Int.add_one_le_of_lt hless)
      omega
    · exact heq
    · have hle := daysBeforeYear_le (Int.add_one_le_of_lt hgreater)
      omega
  rw [hyear] at hsum
  exact Prod.ext hyear (by omega)

/-- A date exists if its month has the day. -/
theorem exists?_iff {d : Date} :
    d.exists? = true ↔ 1 ≤ d.month ∧ 1 ≤ d.day ∧ ∃ length,
      (monthLengths (isLeapYear d.year))[d.month - 1]? = some length ∧ d.day ≤ length := by
  rw [exists?, Bool.and_eq_true, decide_eq_true_eq, and_assoc]
  cases (monthLengths (isLeapYear d.year))[d.month - 1]? with
  | none => simp
  | some length => simp

/-- The month and day of a date that exists. -/
theorem bounds_of_exists {d : Date} (h : d.exists? = true) :
    1 ≤ d.month ∧ d.month ≤ 12 ∧ 1 ≤ d.day ∧ d.day ≤ 31 := by
  obtain ⟨hmonth, hday, length, hlength, hday'⟩ := exists?_iff.mp h
  obtain ⟨hindex, hval⟩ := List.getElem?_eq_some_iff.mp hlength
  have hlen : (monthLengths (isLeapYear d.year)).length = 12 := rfl
  have hmax : ∀ leap, ∀ n ∈ monthLengths leap, n ≤ 31 := by decide
  have hlength' : length ≤ 31 := hmax _ _ (hval ▸ List.getElem_mem hindex)
  omega

/-- The day of a date that exists lies in its year. -/
theorem dayNumber_mem_year {d : Date} (h : d.exists? = true) :
    firstDay + daysBeforeYear d.year ≤ d.dayNumber ∧
      d.dayNumber < firstDay + daysBeforeYear (d.year + 1) := by
  obtain ⟨-, hday, length, hlength, hday'⟩ := exists?_iff.mp h
  have hinYear := daysBeforeMonth_le (d.month - 1 + 1) (monthLengths (isLeapYear d.year))
  have hmonth := daysBeforeMonth_succ hlength
  have hnext := daysBeforeYear_succ d.year
  rw [dayNumber]
  omega

/-- **A date that exists is the date of its day.** -/
theorem ofDayNumber_dayNumber {d : Date} (h : d.exists? = true) : ofDayNumber d.dayNumber = d := by
  obtain ⟨hmonth, hday, length, hlength, hday'⟩ := exists?_iff.mp h
  obtain ⟨hlow, hhigh⟩ := dayNumber_mem_year h
  have hyear := yearAndDay_eq_of_bounds hlow hhigh
  have hdayOfYear : (d.dayNumber - (firstDay + daysBeforeYear d.year)).toNat + 1 =
      daysBeforeMonth (d.month - 1) (monthLengths (isLeapYear d.year)) + d.day := by
    rw [dayNumber]
    omega
  have hmonth' : 1 + (d.month - 1) = d.month := by omega
  simp only [ofDayNumber, hyear, hdayOfYear, monthAndDay_eq hlength hday hday', hmonth']

/-- The day after a date: in the same month, in the next one or in the next year. -/
def next (d : Date) : Date :=
  if (monthLengths (isLeapYear d.year))[d.month - 1]? ≠ some d.day then ⟨d.year, d.month, d.day + 1⟩
  else if d.month < 12 then ⟨d.year, d.month + 1, 1⟩
  else ⟨d.year + 1, 1, 1⟩

/-- **Days are numbered one after the other.** The day after a date that exists is a date that
exists, and has the next number. -/
theorem dayNumber_next {d : Date} (h : d.exists? = true) :
    d.next.exists? = true ∧ d.next.dayNumber = d.dayNumber + 1 := by
  obtain ⟨hmonth, hday, length, hlength, hday'⟩ := exists?_iff.mp h
  have hle := (bounds_of_exists h).2.1
  rw [next]
  split
  · rename_i hlast
    have hlt : d.day < length := Nat.lt_of_le_of_ne hday' fun heq => hlast (heq ▸ hlength)
    refine ⟨exists?_iff.mpr ⟨hmonth, Nat.succ_pos _, length, hlength, hlt⟩, ?_⟩
    simp only [dayNumber]
    omega
  · -- Behind the last day of a month, the days before the next month have grown by its length.
    rename_i hlast
    obtain rfl : length = d.day := Option.some.inj (hlength.symm.trans (Decidable.not_not.mp hlast))
    have hstart := daysBeforeMonth_succ hlength
    rw [Nat.sub_add_cancel hmonth] at hstart
    split
    · rename_i htwelve
      have hpos : ∀ leap, ∀ n ∈ monthLengths leap, 1 ≤ n := by decide
      have hget := List.getElem?_eq_getElem (l := monthLengths (isLeapYear d.year)) htwelve
      refine ⟨exists?_iff.mpr ⟨by simp, by simp, _, hget, hpos _ _ (List.getElem_mem _)⟩, ?_⟩
      simp only [dayNumber, Nat.add_sub_cancel, hstart]
      omega
    · rename_i htwelve
      have hdecember : d.month = 12 := by omega
      have htotal : daysBeforeMonth 12 (monthLengths (isLeapYear d.year)) =
          totalLength (monthLengths (isLeapYear d.year)) := rfl
      have hnext := daysBeforeYear_succ d.year
      rw [hdecember] at hstart
      refine ⟨exists?_iff.mpr ⟨by simp, by simp, 31, rfl, by simp⟩, ?_⟩
      simp only [dayNumber, hdecember, Nat.sub_self, daysBeforeMonth]
      omega

end Date

end RelationalCatalog
