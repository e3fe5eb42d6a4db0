/-!
# The proleptic Gregorian calendar

Days are numbered from the first of January of the year 1970, which is day 0. The calendar is
extended over all years, the year 0 and negative ones among them. The main statements are
`dayNumber_ofDayNumber` and `exists_ofDayNumber`: the date of a day exists
and has that day's number.
-/

namespace RelationalCatalog

/-- Whether a year has 366 days. -/
def isLeapYear (year : Int) : Bool :=
  decide (year % 4 = 0 ∧ (year % 100 ≠ 0 ∨ year % 400 = 0))

/-- The lengths of the months of a year. -/
def monthLengths (leap : Bool) : List Nat :=
  [31, if leap then 29 else 28, 31, 30, 31, 30, 31, 31, 30, 31, 30, 31]

/-- The number of days of months of the listed lengths. -/
def totalLength : List Nat → Nat
  | [] => 0
  | length :: rest => length + totalLength rest

/-- A date of the calendar. -/
structure Date where
  /-- The year, counted through the year 0. -/
  year : Int
  /-- The month, from 1. -/
  month : Nat
  /-- The day of the month, from 1. -/
  day : Nat
deriving DecidableEq

namespace Date

/-- Whether there is such a date. -/
def exists? (d : Date) : Bool :=
  decide (1 ≤ d.month ∧ 1 ≤ d.day) &&
    match (monthLengths (isLeapYear d.year))[d.month - 1]? with
    | some length => decide (d.day ≤ length)
    | none => false

/-- The number of days before the first of January of a year, from the first of January of the
year 1. -/
def daysBeforeYear (year : Int) : Int :=
  365 * (year - 1) + (year - 1) / 4 - (year - 1) / 100 + (year - 1) / 400

/-- The day number of the first of January of the year 1. -/
def firstDay : Int := -719162

/-- The number of days before a month, `before` of them before the lengths at hand. -/
def daysBeforeMonth : (month : Nat) → List Nat → Nat
  | 0, _ => 0
  | _ + 1, [] => 0
  | month + 1, length :: rest => length + daysBeforeMonth month rest

/-- The number of a date's day. -/
def dayNumber (d : Date) : Int :=
  firstDay + daysBeforeYear d.year
    + daysBeforeMonth (d.month - 1) (monthLengths (isLeapYear d.year)) + (d.day : Int) - 1

/-- The month, counted from `month`, and the day of the month of a day of the year. -/
def monthAndDay (month day : Nat) : List Nat → Nat × Nat
  | [] => (month, day)
  | length :: rest =>
    if day ≤ length then (month, day) else monthAndDay (month + 1) (day - length) rest

/-- The year of a day and its number in that year, from 0. Years come in cycles of 400; in a
cycle the first three centuries, in a century the first twenty-four groups of four years and in
a group the first three years are of equal length, and the last ones are one day longer or
shorter. -/
def yearAndDay (number : Int) : Int × Nat :=
  let n := number - firstDay
  let cycle := n / 146097
  let inCycle := n % 146097
  let century := min (inCycle / 36524) 3
  let inCentury := inCycle - century * 36524
  let group := inCentury / 1461
  let inGroup := inCentury % 1461
  let year := min (inGroup / 365) 3
  (400 * cycle + 100 * century + 4 * group + year + 1, (inGroup - year * 365).toNat)

/-- The date of a day. -/
def ofDayNumber (number : Int) : Date :=
  let (year, day) := yearAndDay number
  let (month, day) := monthAndDay 1 (day + 1) (monthLengths (isLeapYear year))
  ⟨year, month, day⟩

/-- How a day number is made up of cycles, centuries, groups, years and days. -/
theorem yearAndDay_eq (number : Int) : ∃ (cycle century group year : Int) (day : Nat),
    yearAndDay number = (400 * cycle + 100 * century + 4 * group + year + 1, day) ∧
    0 ≤ century ∧ century ≤ 3 ∧ 0 ≤ group ∧ group ≤ 24 ∧ 0 ≤ year ∧ year ≤ 3 ∧
    number = firstDay + 146097 * cycle + 36524 * century + 1461 * group + 365 * year + day ∧
    (day < 365 ∨ (day = 365 ∧ year = 3 ∧ (group < 24 ∨ century = 3))) := by
  refine ⟨_, _, _, _, _, rfl, ?_⟩
  simp only [firstDay]
  omega

/-- The days before a year of a cycle. -/
theorem daysBeforeYear_cycle {cycle century group year : Int}
    (hc : 0 ≤ century ∧ century ≤ 3) (hg : 0 ≤ group ∧ group ≤ 24) (hy : 0 ≤ year ∧ year ≤ 3) :
    daysBeforeYear (400 * cycle + 100 * century + 4 * group + year + 1) =
      146097 * cycle + 36524 * century + 1461 * group + 365 * year := by
  simp only [daysBeforeYear]
  omega

/-- The last year of a group is a leap year, but the last group of a century has none unless the
century is the last of its cycle. -/
theorem isLeapYear_cycle {cycle century group : Int} (hg : 0 ≤ group)
    (h : group < 24 ∨ (group = 24 ∧ century = 3)) :
    isLeapYear (400 * cycle + 100 * century + 4 * group + 3 + 1) = true := by
  simp only [isLeapYear, decide_eq_true_eq]
  omega

/-- The year of a day begins as many days before it as `yearAndDay` says. -/
theorem daysBeforeYear_yearAndDay (number : Int) :
    firstDay + daysBeforeYear (yearAndDay number).1 + (yearAndDay number).2 = number := by
  obtain ⟨cycle, century, group, year, day, h, hc, hc', hg, hg', hy, hy', hn, -⟩ :=
    yearAndDay_eq number
  rw [h, daysBeforeYear_cycle ⟨hc, hc'⟩ ⟨hg, hg'⟩ ⟨hy, hy'⟩]
  omega

theorem totalLength_monthLengths (leap : Bool) :
    totalLength (monthLengths leap) = if leap then 366 else 365 := by
  cases leap <;> decide

/-- A day lies within its year. -/
theorem yearAndDay_lt (number : Int) :
    (yearAndDay number).2 < totalLength (monthLengths (isLeapYear (yearAndDay number).1)) := by
  obtain ⟨cycle, century, group, year, day, h, hc, hc', hg, hg', hy, hy', -, hd⟩ :=
    yearAndDay_eq number
  rw [totalLength_monthLengths, h]
  rcases hd with hd | ⟨hd, rfl, hl⟩
  · split <;> simp <;> omega
  · rw [isLeapYear_cycle hg (by omega)]
    simp [hd]

/-- The month and day of a day of the year add up to that day, and the day lies in the month. -/
theorem monthAndDay_spec (month day : Nat) (lengths : List Nat) (h1 : 1 ≤ day)
    (h : day ≤ totalLength lengths) :
    month ≤ (monthAndDay month day lengths).1 ∧ 1 ≤ (monthAndDay month day lengths).2 ∧
    daysBeforeMonth ((monthAndDay month day lengths).1 - month) lengths
      + (monthAndDay month day lengths).2 = day ∧
    ∃ length, lengths[(monthAndDay month day lengths).1 - month]? = some length ∧
      (monthAndDay month day lengths).2 ≤ length := by
  induction lengths generalizing month day with
  | nil => simp [totalLength] at h; omega
  | cons length rest ih =>
    rw [monthAndDay]
    split
    · rename_i hle
      exact ⟨Nat.le_refl _, h1, by simp [daysBeforeMonth], length, by simp, hle⟩
    · rename_i hgt
      have hsum : day - length ≤ totalLength rest := by rw [totalLength] at h; omega
      obtain ⟨ha, hb, hc, l, hd, he⟩ := ih (month + 1) (day - length) (by omega) hsum
      generalize monthAndDay (month + 1) (day - length) rest = r at ha hb hc hd he
      have hstep : r.1 - month = (r.1 - (month + 1)) + 1 := by omega
      refine ⟨by omega, hb, ?_, l, ?_, he⟩
      · rw [hstep, daysBeforeMonth]; omega
      · rw [hstep]; simpa using hd

/-- The date of a day has that day's number. -/
theorem dayNumber_ofDayNumber (number : Int) : (ofDayNumber number).dayNumber = number := by
  have hyear := daysBeforeYear_yearAndDay number
  have hlt := yearAndDay_lt number
  simp only [ofDayNumber, dayNumber]
  generalize yearAndDay number = y at hyear hlt
  obtain ⟨-, hb, hc, -⟩ := monthAndDay_spec 1 (y.2 + 1) (monthLengths (isLeapYear y.1)) (by omega)
    (by omega)
  generalize monthAndDay 1 (y.2 + 1) (monthLengths (isLeapYear y.1)) = r at hb hc
  omega

/-- The date of a day exists. -/
theorem exists_ofDayNumber (number : Int) : (ofDayNumber number).exists? = true := by
  have hlt := yearAndDay_lt number
  obtain ⟨ha, hb, -, l, hd, he⟩ := monthAndDay_spec 1 ((yearAndDay number).2 + 1)
    (monthLengths (isLeapYear (yearAndDay number).1)) (by omega) (by omega)
  simp only [ofDayNumber, exists?, Bool.and_eq_true]
  refine ⟨decide_eq_true ⟨ha, hb⟩, ?_⟩
  rw [hd]
  exact decide_eq_true he
end Date

example : (⟨1970, 1, 1⟩ : Date).dayNumber = 0 ∧ (⟨2000, 2, 29⟩ : Date).dayNumber = 11016 ∧
    (⟨0, 12, 31⟩ : Date).dayNumber = -719163 := by decide

example : Date.ofDayNumber 11016 = ⟨2000, 2, 29⟩ ∧ Date.ofDayNumber (-719163) = ⟨0, 12, 31⟩ := by
  decide

end RelationalCatalog
