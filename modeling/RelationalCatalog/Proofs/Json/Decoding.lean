import RelationalCatalog.Proofs.Json.Record
import Mathlib.Data.List.Forall2

/-!
# What is taken as a value

For each decoder, the values that it takes and what it takes them as. A text, a truth value and an
integer of a type of fixed width are taken from their written forms and from nothing else; a list is
taken item by item (`list_eq_ok_iff`), and `null` as nothing where there may be nothing
(`optional_eq_ok_iff`).
-/

namespace RelationalCatalog

namespace Decode

theorem toOption_eq_some_iff {α : Type} {x : Decoded α} {a : α} :
    x.toOption = some a ↔ x = .ok a := by
  cases x <;> simp [Except.toOption]

/-- A text is what is written as one, and none is what is written as null. -/
theorem optionalText_eq_ok_iff {e : Ending} {v : Json} {o : Option String} :
    optional text (v.toDraft e) = .ok o ↔ v = o.elim .null Json.str := by
  cases v <;> cases o <;> simp [Json.toDraft, optional, text, Except.map]

theorem text_eq_ok_iff {e : Ending} {v : Json} {s : String} :
    text (v.toDraft e) = .ok s ↔ v = .str s := by
  cases v <;> simp [Json.toDraft, text]

theorem boolean_eq_ok_iff {e : Ending} {v : Json} {b : Bool} :
    boolean (v.toDraft e) = .ok b ↔ v = .bool b := by
  cases v <;> simp [Json.toDraft, boolean]

/-- What is taken as an integer is written as one that is within the bounds. -/
theorem integer_eq_ok_iff {e : Ending} {low high n : Int} {expected : String} {v : Json} :
    integer low high expected (v.toDraft e) = .ok n ↔ v = .int n ∧ low ≤ n ∧ n ≤ high := by
  constructor
  · intro h
    cases v with
    | int i =>
      rw [Json.toDraft, integer] at h
      split at h
      next hi =>
        obtain rfl := Except.ok.inj h
        exact ⟨rfl, hi⟩
      next => cases h
    | _ => cases h
  · rintro ⟨rfl, hlow, hhigh⟩
    exact integer_of_le hlow hhigh expected

/-- An unsigned integer of a type of fixed width is taken from its written form and from nothing
else. -/
theorem unsigned_eq_ok_iff {α : Type} {toNat : α → Nat} {ofNat : Nat → α} {high : Int}
    (hback : ∀ a, ofNat (toNat a) = a) (hhigh : ∀ a, (toNat a : Int) ≤ high)
    (hvalue : ∀ n : Nat, (n : Int) ≤ high → toNat (ofNat n) = n) {e : Ending} {expected : String}
    {v : Json} {a : α} :
    (integer 0 high expected (v.toDraft e)).map (fun n => ofNat n.toNat) = .ok a ↔
      v = .int (toNat a) := by
  simp only [map_eq_ok_iff, integer_eq_ok_iff]
  constructor
  · rintro ⟨n, ⟨rfl, hlow, hle⟩, rfl⟩
    obtain ⟨n, rfl⟩ := Int.eq_ofNat_of_zero_le hlow
    exact congrArg Json.int (congrArg Int.ofNat (hvalue n hle).symm)
  · rintro rfl
    exact ⟨toNat a, ⟨rfl, Int.natCast_nonneg _, hhigh a⟩, hback a⟩

theorem uint16_eq_ok_iff {e : Ending} {v : Json} {n : UInt16} :
    uint16 (v.toDraft e) = .ok n ↔ v = .int n.toNat :=
  unsigned_eq_ok_iff (fun _ => UInt16.ofNat_toNat)
    (fun n => by have := n.toNat_lt; omega)
    fun _ hn => UInt16.toNat_ofNat_of_lt' (by rw [UInt16.size]; omega)

theorem uint32_eq_ok_iff {e : Ending} {v : Json} {n : UInt32} :
    uint32 (v.toDraft e) = .ok n ↔ v = .int n.toNat :=
  unsigned_eq_ok_iff (fun _ => UInt32.ofNat_toNat)
    (fun n => by have := n.toNat_lt; omega)
    fun _ hn => UInt32.toNat_ofNat_of_lt' (by rw [UInt32.size]; omega)

theorem uint64_eq_ok_iff {e : Ending} {v : Json} {n : UInt64} :
    uint64 (v.toDraft e) = .ok n ↔ v = .int n.toNat :=
  unsigned_eq_ok_iff (fun _ => UInt64.ofNat_toNat)
    (fun n => by have := n.toNat_lt; rw [maxUInt64]; omega)
    fun _ hn => UInt64.toNat_ofNat_of_lt' (by rw [maxUInt64] at hn; rw [UInt64.size]; omega)

/-- A list is taken from an array, item by item. -/
theorem list_eq_ok_iff {α : Type} {decode : Draft → Decoded α} {e : Ending}
    (he : e.readFault? = none) {v : Json} {as : List α} :
    list decode (v.toDraft e) = .ok as ↔
      ∃ values, v = .arr values ∧
        List.Forall₂ (fun value a => decode (value.toDraft e) = .ok a) values as := by
  have hitems (values : List Json) (as : List α) :
      items decode (Json.toDraftItems e values) e = .ok as ↔
        List.Forall₂ (fun value a => decode (value.toDraft e) = .ok a) values as := by
    induction values generalizing as with
    | nil =>
      rw [Json.toDraftItems, items, he]
      cases as <;> simp
    | cons v values ih =>
      rw [Json.toDraftItems, items]
      cases as with
      | nil =>
        refine iff_of_false (fun h => ?_) fun h => (by cases h)
        obtain ⟨a, -, hmore⟩ := bind_eq_ok_iff.mp h
        obtain ⟨more, -, hcons⟩ := bind_eq_ok_iff.mp hmore
        cases hcons
      | cons a as =>
        rw [List.forall₂_cons, ← ih as]
        simp only [bind_eq_ok_iff, Except.ok.injEq, List.cons.injEq]
        constructor
        · rintro ⟨a, ha, as, has, rfl, rfl⟩
          exact ⟨ha, has⟩
        · rintro ⟨ha, has⟩
          exact ⟨a, ha, as, has, rfl, rfl⟩
  cases v with
  | arr values =>
    rw [Json.toDraft, list, hitems]
    simp
  | _ => simp [Json.toDraft, list]

theorem texts_eq_ok_iff {e : Ending} (he : e.readFault? = none) {v : Json} {texts : List String} :
    list text (v.toDraft e) = .ok texts ↔ v = .ofTexts texts := by
  have hall (values : List Json) :
      List.Forall₂ (fun value s => value = Json.str s) values texts ↔
        values = texts.map Json.str := by
    rw [← List.forall₂_eq_eq_eq, List.forall₂_map_right_iff]
  rw [list_eq_ok_iff he]
  simp only [text_eq_ok_iff, hall, Json.ofTexts, exists_eq_right]

/-- A value that may be missing is null without one. -/
theorem optional_eq_ok_iff {α : Type} {decode : Draft → Decoded α} {e : Ending}
    (hnull : ∀ a, decode .null ≠ .ok a) {v : Json} {o : Option α} :
    optional decode (v.toDraft e) = .ok o ↔
      (v = .null ∧ o = none) ∨ ∃ a, decode (v.toDraft e) = .ok a ∧ some a = o := by
  cases v with
  | null =>
    simp only [Json.toDraft, optional, Except.ok.injEq, true_and, hnull, false_and, exists_false,
      or_false]
    exact eq_comm
  | _ => simp only [Json.toDraft, optional, map_eq_ok_iff, reduceCtorEq, false_and, false_or]

end Decode

end RelationalCatalog
