import RelationalCatalog.Instant.Reading
import RelationalCatalog.Proofs.Instant.Calendar

/-!
# What clocks show

A clock that is some minutes ahead of universal time shows a date and a time of day at each instant
(`Instant.clock`). Reading is the inverse of that: a date and time with an offset is the instant at
which the clock with that offset shows them (`at_eq_ok_iff_clock`). Outside leap seconds, an instant
is given by the nanoseconds since the beginning of 1970 (`eq_of_epochNanos_eq`).
-/

namespace RelationalCatalog

namespace Instant

/-- The nanoseconds since the beginning of 1970; those of a leap second are the ones of the second
behind it. -/
def epochNanos (t : Instant) : Int := t.seconds * 1000000000 + t.nanos

/-- What a clock shows that is so many minutes ahead of universal time. -/
def clock (t : Instant) (ahead : Int) : Local :=
  let seconds := t.seconds + ahead * 60
  let second := (seconds % 86400).toNat
  ⟨Date.ofDayNumber (seconds / 86400), second / 3600, second / 60 % 60,
    second % 60 + (if 1000000000 ≤ t.nanos then 1 else 0), t.nanos % 1000000000⟩

/-- A date and time of day that there is. -/
structure Local.Exists (l : Local) : Prop where
  /-- there is such a date -/
  date : l.date.exists? = true
  /-- there is such a time of day -/
  time : l.timeExists = true
  /-- a second has no more nanoseconds -/
  nanos_lt : l.nanos < 1000000000

/-- Instants are the same if their seconds and nanoseconds are. -/
theorem eq_of_parts {t t' : Instant} (hs : t.seconds = t'.seconds) (hn : t.nanos = t'.nanos) :
    t = t' := by
  cases t
  cases t'
  cases hs
  cases hn
  rfl

/-- Outside leap seconds, nanoseconds tell instants apart. -/
theorem eq_of_epochNanos_eq {t t' : Instant} (ht : t.nanos < 1000000000)
    (ht' : t'.nanos < 1000000000) (h : t.epochNanos = t'.epochNanos) : t = t' := by
  rw [epochNanos, epochNanos] at h
  exact eq_of_parts (by omega) (by omega)

theorem of?_eq_some_iff {seconds : Int} {nanos : Nat} {t : Instant} :
    of? seconds nanos = some t ↔ t.seconds = seconds ∧ t.nanos = nanos := by
  constructor
  · intro h
    rw [of?] at h
    split at h
    · cases h
      exact ⟨rfl, rfl⟩
    · cases h
  · rintro ⟨rfl, rfl⟩
    exact dif_pos ⟨t.lower, t.upper, t.nanos_lt, t.leap⟩

/-- A date and time with an offset below a day is the instant of its seconds and nanoseconds. -/
theorem at_eq_ok_iff {l : Local} {ahead : Int} {t : Instant} :
    l.at ahead = .ok t ↔ ahead.natAbs < 1440 ∧ l.instant? ahead = some t := by
  rw [Local.at]
  split
  · rename_i hahead
    cases l.instant? ahead with
    | none => simp
    | some t' => simp [hahead]
  · rename_i hahead
    simp [hahead]

/-- The second at which the minute of a date and time begins. -/
def Local.minuteStart (l : Local) (ahead : Int) : Int :=
  l.date.dayNumber * 86400 + l.hour * 3600 + l.minute * 60 - ahead * 60

/-- The seconds and nanoseconds of a date and time. A leap second is the second before it, with more
nanoseconds. -/
theorem instant?_eq_some_iff {l : Local} {ahead : Int} {t : Instant} :
    l.instant? ahead = some t ↔
      (l.second ≠ 60 ∧ t.seconds = l.minuteStart ahead + l.second ∧ t.nanos = l.nanos) ∨
      (l.second = 60 ∧ t.seconds = l.minuteStart ahead + 59 ∧ t.nanos = l.nanos + 1000000000) := by
  simp only [Local.instant?, of?_eq_some_iff, Local.minuteStart]
  split <;> omega

/-- What a clock shows exists. -/
theorem clock_exists (t : Instant) (ahead : Int) : (t.clock ahead).Exists where
  date := Date.exists_ofDayNumber _
  time := by
    rw [Local.timeExists, decide_eq_true_eq]
    simp only [clock]
    split <;> omega
  nanos_lt := Nat.mod_lt _ (by decide)

/-- Outside leap seconds, no clock shows the second 60. -/
theorem clock_second_ne {t : Instant} (h : t.nanos < 1000000000) (ahead : Int) :
    (t.clock ahead).second ≠ 60 := by
  simp only [clock, if_neg (Nat.not_le.mpr h)]
  omega

/-- What a clock shows is the instant at which it does. -/
theorem instant?_clock (t : Instant) (ahead : Int) :
    (t.clock ahead).instant? ahead = some t := by
  have hlt := t.nanos_lt
  have hday := Date.dayNumber_ofDayNumber ((t.seconds + ahead * 60) / 86400)
  simp only [instant?_eq_some_iff, Local.minuteStart, clock, hday]
  by_cases hleap : 1000000000 ≤ t.nanos
  · -- A leap second is shown as the second 60, and is the 59th one with more nanoseconds.
    have hsixty := t.leap hleap
    rw [if_pos hleap]
    omega
  · rw [if_neg hleap]
    omega

/-- The clock shows the date and time that an instant was taken from. -/
theorem clock_of_instant? {l : Local} {ahead : Int} {t : Instant} (hl : l.Exists)
    (h : l.instant? ahead = some t) : t.clock ahead = l := by
  have hparts := instant?_eq_some_iff.mp h
  have htime := hl.time
  have hlt := hl.nanos_lt
  have hdate := Date.ofDayNumber_dayNumber hl.date
  rw [Local.timeExists, decide_eq_true_eq] at htime
  rw [Local.minuteStart] at hparts
  have hday : (t.seconds + ahead * 60) / 86400 = l.date.dayNumber := by omega
  have hhour : ((t.seconds + ahead * 60) % 86400).toNat / 3600 = l.hour := by omega
  have hminute : ((t.seconds + ahead * 60) % 86400).toNat / 60 % 60 = l.minute := by omega
  have hsecond : ((t.seconds + ahead * 60) % 86400).toNat % 60 +
      (if 1000000000 ≤ t.nanos then 1 else 0) = l.second := by
    split <;> omega
  have hnanos : t.nanos % 1000000000 = l.nanos := by omega
  rw [clock]
  simp only [hday, hdate, hhour, hminute, hsecond, hnanos]

/-- **Reading is the inverse of the clock.** A date and time that exist, with an offset below a day,
are the instant at which the clock with that offset shows them. -/
theorem at_eq_ok_iff_clock {l : Local} {ahead : Int} {t : Instant} (hl : l.Exists) :
    l.at ahead = .ok t ↔ ahead.natAbs < 1440 ∧ t.clock ahead = l := by
  rw [at_eq_ok_iff]
  constructor
  · rintro ⟨hahead, h⟩
    exact ⟨hahead, clock_of_instant? hl h⟩
  · rintro ⟨hahead, rfl⟩
    exact ⟨hahead, instant?_clock t ahead⟩

theorem at_clock (t : Instant) {ahead : Int} (h : ahead.natAbs < 1440) :
    (t.clock ahead).at ahead = .ok t :=
  (at_eq_ok_iff_clock (clock_exists t ahead)).mpr ⟨h, rfl⟩

/-- There is an instant of a date and time in the range of years, as long as no offset leads out of
the range. -/
theorem exists_at {l : Local} (hl : l.Exists) (hyear : -262143 < l.date.year)
    (hyear' : l.date.year < 262142) {ahead : Int} (h : ahead.natAbs < 1440) :
    ∃ t, l.at ahead = .ok t := by
  obtain ⟨hlow, hhigh⟩ := Date.dayNumber_mem_year hl.date
  have hfirst : Date.daysBeforeYear (-262142) ≤ Date.daysBeforeYear l.date.year :=
    Date.daysBeforeYear_le (by omega)
  have hlast : Date.daysBeforeYear (l.date.year + 1) ≤ Date.daysBeforeYear 262142 :=
    Date.daysBeforeYear_le (by omega)
  have hfirst' : Date.daysBeforeYear (-262142) = -95745765 := by decide
  have hlast' : Date.daysBeforeYear 262142 = 95745034 := by decide
  have hepoch : Date.firstDay = -719162 := rfl
  have htime := hl.time
  have hlt := hl.nanos_lt
  have hmin : minSeconds = -8334601228800 := rfl
  have hmax : maxSeconds = 8210266876799 := rfl
  have hstart : l.minuteStart ahead = l.date.dayNumber * 86400 + l.hour * 3600 + l.minute * 60
      - ahead * 60 := rfl
  rw [Local.timeExists, decide_eq_true_eq] at htime
  by_cases hleap : l.second = 60
  · let t : Instant := ⟨l.minuteStart ahead + 59, l.nanos + 1000000000, by omega, by omega,
      by omega, by omega⟩
    exact ⟨t, at_eq_ok_iff.mpr ⟨h, instant?_eq_some_iff.mpr (.inr ⟨hleap, rfl, rfl⟩)⟩⟩
  · let t : Instant := ⟨l.minuteStart ahead + l.second, l.nanos, by omega, by omega, by omega,
      by omega⟩
    exact ⟨t, at_eq_ok_iff.mpr ⟨h, instant?_eq_some_iff.mpr (.inl ⟨hleap, rfl, rfl⟩)⟩⟩

/-- An instant is written as a clock in universal time shows it. -/
theorem chars_eq (t : Instant) :
    t.chars = yearChars (t.clock 0).date.year ++ '-' :: padded 2 (t.clock 0).date.month
      ++ '-' :: padded 2 (t.clock 0).date.day ++ 'T' :: padded 2 (t.clock 0).hour
      ++ ':' :: padded 2 (t.clock 0).minute ++ ':' :: padded 2 (t.clock 0).second
      ++ fractionChars (t.clock 0).nanos ++ ['Z'] := by
  simp only [clock, Int.zero_mul, Int.add_zero]
  rfl

end Instant

end RelationalCatalog
