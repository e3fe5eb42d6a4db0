import RelationalCatalog.Attribute.Coercion
import RelationalCatalog.Proofs.Instant.Timestamp

/-!
# Coercion of dates

A date is taken from milliseconds or from a timestamp, and either way it is the instant that is
denoted: `dates_denote_instants` says which numbers of milliseconds and which texts are coerced, to
which instants, and that all spellings of an instant are coerced to the same date.
-/

namespace RelationalCatalog

open Instant (Timestamp Zone)

/-! ## Milliseconds -/

namespace Instant

/-- The instant of milliseconds has their nanoseconds, and is in no leap second. -/
theorem ofMillis?_eq_some_iff {millis : Int} {t : Instant} :
    ofMillis? millis = some t ↔
      t.nanos < 1000000000 ∧ t.epochNanos = millis * 1000000 := by
  rw [ofMillis?, of?_eq_some_iff, epochNanos]
  omega

/-- The milliseconds of an instant whose nanoseconds are whole milliseconds. -/
theorem epochNanos_eq_iff_millis {millis : Int} {t : Instant} :
    t.epochNanos = millis * 1000000 ↔ t.nanos % 1000000 = 0 ∧ t.millis = millis := by
  rw [epochNanos, Instant.millis]
  omega

/-- There is an instant of milliseconds in the range of instants, and in no others. -/
theorem exists_ofMillis?_iff {millis : Int} :
    (∃ t, ofMillis? millis = some t) ↔
      -8334601228800000 ≤ millis ∧ millis ≤ 8210266876799999 := by
  have hmin : minSeconds = -8334601228800 := rfl
  have hmax : maxSeconds = 8210266876799 := rfl
  simp only [ofMillis?, of?_eq_some_iff]
  constructor
  · rintro ⟨t, hseconds, -⟩
    have hlow := t.lower
    have hhigh := t.upper
    omega
  · rintro ⟨hlow, hhigh⟩
    exact ⟨⟨_, _, by omega, by omega, by omega, by omega⟩, rfl, rfl⟩

/-- The seconds and nanoseconds of 64 bits of milliseconds fit into 64 and 32 bits. -/
theorem exists_ofMillis?_eq (m : Int64) : ∃ (seconds : Int64) (nanos : UInt32),
    seconds.toInt * 1000000000 + nanos.toNat = m.toInt * 1000000 ∧ nanos.toNat < 1000000000 ∧
      ofMillis? m.toInt = of? seconds.toInt nanos.toNat := by
  have hlow := m.le_toInt
  have hhigh := m.toInt_lt
  have hsize : UInt32.size = 4294967296 := rfl
  have hseconds : (Int64.ofInt (m.toInt / 1000)).toInt = m.toInt / 1000 :=
    Int64.toInt_ofInt_of_le (by omega) (by omega)
  have hnanos : (UInt32.ofNat ((m.toInt % 1000).toNat * 1000000)).toNat =
      (m.toInt % 1000).toNat * 1000000 := UInt32.toNat_ofNat_of_lt' (by omega)
  refine ⟨.ofInt (m.toInt / 1000), .ofNat ((m.toInt % 1000).toNat * 1000000), ?_, ?_, ?_⟩
  · omega
  · omega
  · rw [hseconds, hnanos, ofMillis?]

/-- The milliseconds of an instant fit into 64 bits. -/
theorem exists_toInt_eq_millis (t : Instant) : ∃ m : Int64, m.toInt = t.millis := by
  have hlow := t.lower
  have hhigh := t.upper
  have hlt := t.nanos_lt
  have hmin : minSeconds = -8334601228800 := rfl
  have hmax : maxSeconds = 8210266876799 := rfl
  have hmillis : t.millis = t.seconds * 1000 + (t.nanos / 1000000 : Nat) := rfl
  exact ⟨.ofInt t.millis, Int64.toInt_ofInt_of_le (by omega) (by omega)⟩

end Instant

/-- A date is taken from the milliseconds of its instant. -/
theorem coerce_millis_eq_ok_iff {m : Int64} {t : Instant} :
    coerce (.int m) .date = .ok (some (.date t)) ↔ Instant.ofMillis? m.toInt = some t := by
  rw [coerce, map_eq_ok_iff, coerceMillis]
  cases Instant.ofMillis? m.toInt with
  | none => simp
  | some t' => simp

/-- Milliseconds without an instant are refused. -/
theorem coerce_millis_eq_error_iff {m : Int64} {fault : CoercionFault} :
    coerce (.int m) .date = .error fault ↔
      fault = .dateOutOfRange m ∧ ¬ ∃ t, Instant.ofMillis? m.toInt = some t := by
  rw [coerce, map_eq_error_iff, coerceMillis]
  cases Instant.ofMillis? m.toInt with
  | none => simp [eq_comm]
  | some t' => simp

/-! ## Timestamps -/

/-- A timestamp is coerced to its date. -/
theorem coerceDate_eq_ok_iff {s : String} {v : AttributeValue} :
    coerceDate s = .ok v ↔ ∃ t, v = .date t ∧ Instant.strict s = .ok t := by
  rw [coerceDate]
  cases Instant.strict s with
  | error fault => simp
  | ok t => simp [eq_comm]

/-- A date is taken from the timestamp of an instant. -/
theorem coerce_timestamp_eq_ok_iff {s : String} {t : Instant} :
    coerce (.text s) .date = .ok (some (.date t)) ↔ Instant.strict s = .ok t := by
  simp [coerce, map_eq_ok_iff, coerceDate_eq_ok_iff]

/-- A text is coerced to the date of its timestamp, if it is one. -/
theorem coerce_text_date_eq_ok_iff {s : String} {v : Option AttributeValue} :
    coerce (.text s) .date = .ok v ↔ ∃ (w : Timestamp) (t : Instant),
      v = some (.date t) ∧ w.text = s ∧ t.clock w.zone.ahead = w.shown := by
  constructor
  · intro h
    obtain ⟨d, hdate, rfl⟩ := map_eq_ok_iff.mp h
    obtain ⟨t, rfl, hstrict⟩ := coerceDate_eq_ok_iff.mp hdate
    obtain ⟨w, hw, hclock⟩ := Instant.strict_eq_ok_iff.mp hstrict
    exact ⟨w, t, rfl, hw, hclock⟩
  · rintro ⟨w, t, rfl, hw, hclock⟩
    exact coerce_timestamp_eq_ok_iff.mpr (Instant.strict_eq_ok_iff.mpr ⟨w, hw, hclock⟩)

/-- **A date denotes one instant, whatever its spelling.** Milliseconds are coerced just in the
range of instants, and those of 64 bits never overflow. A text is coerced just if it is a timestamp,
to the instant at which the clock with its offset shows its local date and time; outside leap
seconds, these minus the offset. Hence the written form of a date, its timestamps and its
milliseconds are all coerced to that date. -/
theorem dates_denote_instants :
    (∀ m : Int64, -8334601228800000 ≤ m.toInt ∧ m.toInt ≤ 8210266876799999 →
      ∃ t, coerce (.int m) .date = .ok (some (.date t)) ∧
        t.millis = m.toInt ∧ t.nanos < 1000000000 ∧ t.epochNanos = m.toInt * 1000000) ∧
    (∀ m : Int64, ¬ (-8334601228800000 ≤ m.toInt ∧ m.toInt ≤ 8210266876799999) →
      coerce (.int m) .date = .error (.dateOutOfRange m)) ∧
    (∀ m : Int64, ∃ (seconds : Int64) (nanos : UInt32),
      seconds.toInt * 1000000000 + nanos.toNat = m.toInt * 1000000 ∧ nanos.toNat < 1000000000 ∧
        Instant.ofMillis? m.toInt = Instant.of? seconds.toInt nanos.toNat) ∧
    (∀ s v, coerce (.text s) .date = .ok v ↔ ∃ (w : Timestamp) (t : Instant),
      v = some (.date t) ∧ w.text = s ∧ t.clock w.zone.ahead = w.shown) ∧
    (∀ (w : Timestamp) (t : Instant), w.second ≠ 60 →
      (coerce (.text w.text) .date = .ok (some (.date t)) ↔
        t.nanos < 1000000000 ∧ t.epochNanos = w.epochNanos)) ∧
    ∀ t : Instant, t.nanos < 1000000000 →
      (0 ≤ (t.clock 0).date.year ∧ (t.clock 0).date.year ≤ 9999 →
        coerce (.text t.render) .date = .ok (some (.date t))) ∧
      (∀ minutes : Int, minutes.natAbs < 1440 →
        0 ≤ (t.clock minutes).date.year ∧ (t.clock minutes).date.year ≤ 9999 →
        ∃ w : Timestamp, w.zone.ahead = minutes ∧ w.second ≠ 60 ∧ w.epochNanos = t.epochNanos) ∧
      (∀ w : Timestamp, w.second ≠ 60 → w.epochNanos = t.epochNanos →
        coerce (.text w.text) .date = .ok (some (.date t))) ∧
      (t.nanos % 1000000 = 0 → ∃ m : Int64, m.toInt = t.millis ∧
        coerce (.int m) .date = .ok (some (.date t))) := by
  have htimestamp {w : Timestamp} (hsecond : w.second ≠ 60) {t : Instant} :
      coerce (.text w.text) .date = .ok (some (.date t)) ↔
        t.nanos < 1000000000 ∧ t.epochNanos = w.epochNanos :=
    coerce_timestamp_eq_ok_iff.trans (Instant.strict_text_eq_ok_iff hsecond)
  refine ⟨fun m hrange => ?_, fun m hrange => ?_, Instant.exists_ofMillis?_eq,
    fun s v => coerce_text_date_eq_ok_iff, fun w t hsecond => htimestamp hsecond,
    fun t hnanos => ⟨fun hyear => ?_, fun minutes hminutes hyear => ?_, fun w hsecond hepoch => ?_,
      fun hwhole => ?_⟩⟩
  · obtain ⟨t, ht⟩ := Instant.exists_ofMillis?_iff.mpr hrange
    obtain ⟨hnanos, hepoch⟩ := Instant.ofMillis?_eq_some_iff.mp ht
    have hmillis := (Instant.epochNanos_eq_iff_millis.mp hepoch).2
    exact ⟨t, coerce_millis_eq_ok_iff.mpr ht, hmillis, hnanos, hepoch⟩
  · exact coerce_millis_eq_error_iff.mpr ⟨rfl, fun h => hrange (Instant.exists_ofMillis?_iff.mp h)⟩
  · exact coerce_timestamp_eq_ok_iff.mpr (Instant.strict_render hyear.1 hyear.2)
  · -- The timestamp of what the clock shows is read back, so it has the nanoseconds of the instant.
    obtain ⟨z, rfl⟩ := Zone.exists_ahead_eq hminutes
    obtain ⟨w, rfl, hshown, -⟩ := Instant.exists_timestamp t z hyear.1 hyear.2
    have hsecond : w.second ≠ 60 := by
      show w.shown.second ≠ 60
      rw [hshown]
      exact Instant.clock_second_ne hnanos _
    have hstrict := Instant.strict_eq_ok_iff.mpr ⟨w, rfl, hshown.symm⟩
    exact ⟨w, rfl, hsecond, ((Instant.strict_text_eq_ok_iff hsecond).mp hstrict).2.symm⟩
  · exact (htimestamp hsecond).mpr ⟨hnanos, hepoch.symm⟩
  · obtain ⟨m, hm⟩ := Instant.exists_toInt_eq_millis t
    have hepoch := Instant.epochNanos_eq_iff_millis.mpr ⟨hwhole, hm.symm⟩
    have hmillis := Instant.ofMillis?_eq_some_iff.mpr ⟨hnanos, hepoch⟩
    exact ⟨m, hm, coerce_millis_eq_ok_iff.mpr hmillis⟩

/-- Half an hour into March of the year 1900, which is no leap year. -/
def marchOf1900 : Instant := ⟨-2203889400, 500000000, by decide, by decide, by decide, by decide⟩

/-- The same instant an hour to the west, where it is still February. -/
def februaryOf1900 : Timestamp where
  date := ⟨1900, 2, 28⟩
  mark := 'T'
  hour := 23
  minute := 30
  second := 0
  fraction := ['5']
  year_nonneg := by decide
  year_le := by decide
  date_exists := by decide
  isMark := by decide
  hour_le := by decide
  minute_le := by decide
  second_le := by decide
  isDigit c hc := by
    rw [List.mem_singleton.mp hc]
    rfl
  zone := .offset '-' 1 0 (by decide) (by decide) (by decide)

/-- An instant before 1970 is coerced from its written form, from a spelling of the day before and
from its milliseconds, and the first millisecond behind the range is refused. -/
theorem march_coerced_from_february :
    coerce (.text "1900-03-01T00:30:00.500Z") .date = .ok (some (.date marchOf1900)) ∧
    coerce (.text "1900-02-28T23:30:00.5-01:00") .date = .ok (some (.date marchOf1900)) ∧
    coerce (.int (-2203889399500)) .date = .ok (some (.date marchOf1900)) ∧
    coerce (.int 8210266876800000) .date = .error (.dateOutOfRange 8210266876800000) := by
  obtain ⟨hmillis, hrefused, -, -, -, hinstant⟩ := dates_denote_instants
  obtain ⟨hrender, -, htext, -⟩ := hinstant marchOf1900 (by decide)
  have hwritten : marchOf1900.render = "1900-03-01T00:30:00.500Z" := by decide
  have hspelled : februaryOf1900.text = "1900-02-28T23:30:00.5-01:00" := by decide
  refine ⟨?_, ?_, ?_, hrefused _ (by decide)⟩
  · rw [← hwritten]
    exact hrender (by decide)
  · rw [← hspelled]
    exact htext februaryOf1900 (by decide) (by decide)
  · obtain ⟨t, ht, -, hnanos, hepoch⟩ := hmillis (-2203889399500) (by decide)
    have hsame : t = marchOf1900 := Instant.eq_of_epochNanos_eq hnanos (by decide) hepoch
    rw [← hsame]
    exact ht

end RelationalCatalog
