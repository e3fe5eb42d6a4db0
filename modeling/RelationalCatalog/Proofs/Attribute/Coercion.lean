import RelationalCatalog.Proofs.Attribute.Mapping
import RelationalCatalog.Proofs.Number.Integer
import RelationalCatalog.Proofs.Text.LetterCase

/-!
# Coercion is strict

Which properties are coerced to a value, kind by kind: a text is taken from a text or the name of a
symbol, an integer from an integer or its decimal text, a truth value from a truth value or the word
for it, a symbol from a text or a name that is equal to a listed one up to letter case. All else is
refused. `coerce_strict` says it for texts, integers and truth values at once.

The readers of texts come first, each with the texts that it takes and those that it refuses; what a
property of a kind is coerced to follows by cases on the property.
-/

namespace RelationalCatalog

/-- A property gives a name: it is a text, or a symbol of that name. -/
def Property.Names (p : Property) (name : String) : Prop :=
  p = .text name ∨ ∃ ordinal, p = .symbol ⟨ordinal, name⟩

/-- The properties that a kind can be taken from, if their content is right. -/
inductive AttributeKind.Admits : AttributeKind → Property → Prop
  | text {p name} : p.Names name → Admits .text p
  | int (n) : Admits .int (.int n)
  | decimal (s) : Admits .int (.text s)
  | bool (b) : Admits .bool (.bool b)
  | word (s) : Admits .bool (.text s)
  | millis (n) : Admits .date (.int n)
  | timestamp (s) : Admits .date (.text s)
  | symbol {p name symbols} : p.Names name → Admits (.symbol symbols) p

/-! ## Texts -/

/-- A decimal text is coerced to its integer. -/
theorem coerceInt_eq_ok_iff {s : String} {v : AttributeValue} :
    coerceInt s = .ok v ↔ ∃ n : Int64, v = .int n ∧ SpellsInteger s.toList n.toInt := by
  simp only [← readInt64_eq_ok_iff]
  rw [coerceInt]
  cases hread : readInt64 s with
  | error fault => simp
  | ok n => simp [eq_comm]

/-- Another text is no integer. -/
theorem coerceInt_eq_error_iff {s : String} {fault : CoercionFault} :
    coerceInt s = .error fault ↔
      fault = .notInteger s ∧ ¬ ∃ n : Int64, SpellsInteger s.toList n.toInt := by
  simp only [← readInt64_eq_ok_iff]
  rw [coerceInt]
  cases hread : readInt64 s with
  | error fault => simp [eq_comm]
  | ok n => simp

/-- The word for a truth value. -/
def wordFor (b : Bool) : String := if b then "true" else "false"

/-- No text is the word for both truth values. -/
theorem wordFor_inj {s : String} {b b' : Bool} (h : EqualUpToCase s (wordFor b))
    (h' : EqualUpToCase s (wordFor b')) : b = b' := by
  have hwords : equalUpToCase (wordFor b) (wordFor b') = true :=
    equalUpToCase_iff_forall₂.mpr (h.symm.trans h')
  cases b <;> cases b' <;> first | rfl | exact absurd hwords (by decide)

/-- A word is coerced to its truth value. -/
theorem coerceBool_eq_ok_iff {s : String} {v : AttributeValue} :
    coerceBool s = .ok v ↔ ∃ b, v = .bool b ∧ EqualUpToCase s (wordFor b) := by
  constructor
  · intro h
    rw [coerceBool] at h
    split at h
    · rename_i htrue
      cases h
      exact ⟨true, rfl, equalUpToCase_iff_forall₂.mp htrue⟩
    · split at h
      · rename_i hfalse
        cases h
        exact ⟨false, rfl, equalUpToCase_iff_forall₂.mp hfalse⟩
      · cases h
  · rintro ⟨b, rfl, hword⟩
    have hequal : equalUpToCase s (wordFor b) = true := equalUpToCase_iff_forall₂.mpr hword
    cases b with
    | true => exact if_pos hequal
    | false =>
      have hnot : ¬ equalUpToCase s (wordFor true) = true := fun htrue =>
        absurd (wordFor_inj hword (equalUpToCase_iff_forall₂.mp htrue)) (by decide)
      exact (if_neg hnot).trans (if_pos hequal)

/-- Another text is no truth value. -/
theorem coerceBool_of_not_word {s : String} (h : ∀ b, ¬ EqualUpToCase s (wordFor b)) :
    coerceBool s = .error (.notBoolean s) := by
  have hnot (b : Bool) : ¬ equalUpToCase s (wordFor b) = true :=
    fun hequal => h b (equalUpToCase_iff_forall₂.mp hequal)
  exact (if_neg (hnot true)).trans (if_neg (hnot false))

/-- A symbol is the first of the listed ones that is equal to a text up to letter case. -/
def IsFirstOf (symbols : List String) (s symbol : String) : Prop :=
  ∃ before after, symbols = before ++ symbol :: after ∧ EqualUpToCase symbol s ∧
    ∀ x ∈ before, ¬ EqualUpToCase x s

/-- A text is coerced to the first symbol that is equal to it. -/
theorem coerceSymbol_eq_ok_iff {symbols : List String} {s : String} {v : AttributeValue} :
    coerceSymbol symbols s = .ok v ↔ ∃ symbol, v = .symbol symbol ∧ IsFirstOf symbols s symbol := by
  have hfind {symbol : String} :
      symbols.find? (fun x => equalUpToCase x s) = some symbol ↔ IsFirstOf symbols s symbol := by
    simp only [List.find?_eq_some_iff_append, Bool.not_eq_true', ← Bool.not_eq_true,
      equalUpToCase_iff_forall₂, IsFirstOf]
    constructor
    · rintro ⟨hequal, before, after, hsplit, hbefore⟩
      exact ⟨before, after, hsplit, hequal, hbefore⟩
    · rintro ⟨before, after, hsplit, hequal, hbefore⟩
      exact ⟨hequal, before, after, hsplit, hbefore⟩
  simp only [← hfind]
  rw [coerceSymbol]
  cases hsymbol : symbols.find? fun x => equalUpToCase x s with
  | none => simp
  | some symbol => simp [eq_comm]

/-- A text to which none is equal is refused. -/
theorem coerceSymbol_eq_error_iff {symbols : List String} {s : String} {fault : CoercionFault} :
    coerceSymbol symbols s = .error fault ↔
      fault = .notListed s symbols ∧ ∀ symbol ∈ symbols, ¬ EqualUpToCase symbol s := by
  have hfind : symbols.find? (fun x => equalUpToCase x s) = none ↔
      ∀ symbol ∈ symbols, ¬ EqualUpToCase symbol s := by
    simp only [List.find?_eq_none, equalUpToCase_iff_forall₂]
  rw [← hfind, coerceSymbol]
  cases hsymbol : symbols.find? fun x => equalUpToCase x s with
  | none => simp [eq_comm]
  | some symbol => simp

/-- If a symbol is equal to a text, there is a first one. -/
theorem exists_isFirstOf {symbols : List String} {s symbol : String} (hmem : symbol ∈ symbols)
    (hequal : EqualUpToCase symbol s) : ∃ first, IsFirstOf symbols s first := by
  cases hcoerce : coerceSymbol symbols s with
  | ok v =>
    obtain ⟨first, -, hfirst⟩ := coerceSymbol_eq_ok_iff.mp hcoerce
    exact ⟨first, hfirst⟩
  | error fault => exact absurd hequal ((coerceSymbol_eq_error_iff.mp hcoerce).2 symbol hmem)

theorem IsFirstOf.mem {symbols : List String} {s symbol : String}
    (h : IsFirstOf symbols s symbol) : symbol ∈ symbols := by
  obtain ⟨before, after, rfl, -, -⟩ := h
  exact List.mem_append_right _ List.mem_cons_self

/-- A symbol that is the first for a text is the first for itself. -/
theorem IsFirstOf.self {symbols : List String} {s symbol : String}
    (h : IsFirstOf symbols s symbol) : IsFirstOf symbols symbol symbol := by
  obtain ⟨before, after, hsplit, hequal, hbefore⟩ := h
  exact ⟨before, after, hsplit, .refl symbol, fun x hx hx' => hbefore x hx (hx'.trans hequal)⟩

/-! ## Properties -/

section Coerce

variable {p : Property} {k : AttributeKind}

/-- A property is null, or a kind can be taken from it, or it is refused as being of another
kind. -/
theorem admits_or_refused (p : Property) (k : AttributeKind) :
    p = .null ∨ k.Admits p ∨ coerce p k = .error (.wrongKind k.label p.kindName) := by
  cases k with
  | text =>
    cases p with
    | null => exact .inl rfl
    | text s => exact .inr (.inl (.text (.inl rfl)))
    | symbol symbol => exact .inr (.inl (.text (.inr ⟨symbol.ordinal, rfl⟩)))
    | _ => exact .inr (.inr rfl)
  | int =>
    cases p with
    | null => exact .inl rfl
    | int n => exact .inr (.inl (.int n))
    | text s => exact .inr (.inl (.decimal s))
    | _ => exact .inr (.inr rfl)
  | bool =>
    cases p with
    | null => exact .inl rfl
    | bool b => exact .inr (.inl (.bool b))
    | text s => exact .inr (.inl (.word s))
    | _ => exact .inr (.inr rfl)
  | date =>
    cases p with
    | null => exact .inl rfl
    | int n => exact .inr (.inl (.millis n))
    | text s => exact .inr (.inl (.timestamp s))
    | _ => exact .inr (.inr rfl)
  | symbol symbols =>
    cases p with
    | null => exact .inl rfl
    | text s => exact .inr (.inl (.symbol (.inl rfl)))
    | symbol symbol => exact .inr (.inl (.symbol (.inr ⟨symbol.ordinal, rfl⟩)))
    | _ => exact .inr (.inr rfl)

/-- What is coerced to a value is a property that the kind can be taken from. -/
theorem admits_of_coerce {v : AttributeValue} (h : coerce p k = .ok (some v)) : k.Admits p := by
  rcases admits_or_refused p k with hnull | hadmits | hrefused
  · have hnone : coerce p k = .ok none := coerce_eq_ok_none_iff.mpr hnull
    rw [hnone] at h
    cases h
  · exact hadmits
  · rw [hrefused] at h
    cases h

/-- A name is coerced to a symbol as a text is. -/
theorem coerce_symbol_of_names {name : String} {symbols : List String} (h : p.Names name) :
    coerce p (.symbol symbols) = (coerceSymbol symbols name).map some := by
  obtain rfl | ⟨ordinal, rfl⟩ := h <;> rfl

/-- Texts are taken from names alone. -/
theorem coerce_eq_text_iff {s : String} :
    coerce p k = .ok (some (.text s)) ↔ k = .text ∧ p.Names s := by
  constructor
  · intro h
    have hfits := coerce_fits h
    cases k with
    | text =>
      cases admits_of_coerce h with
      | text hnames =>
        obtain rfl | ⟨ordinal, rfl⟩ := hnames <;> cases h
        · exact ⟨rfl, .inl rfl⟩
        · exact ⟨rfl, .inr ⟨ordinal, rfl⟩⟩
    | _ => cases hfits
  · rintro ⟨rfl, rfl | ⟨ordinal, rfl⟩⟩ <;> rfl

/-- Integers are taken from integers and from their decimal texts alone. -/
theorem coerce_eq_int_iff {n : Int64} :
    coerce p k = .ok (some (.int n)) ↔
      k = .int ∧ (p = .int n ∨ ∃ s, p = .text s ∧ SpellsInteger s.toList n.toInt) := by
  have htext {s : String} : coerce (.text s) .int = .ok (some (.int n)) ↔
      SpellsInteger s.toList n.toInt := by
    simp [coerce, map_eq_ok_iff, coerceInt_eq_ok_iff]
  constructor
  · intro h
    have hfits := coerce_fits h
    cases k with
    | int =>
      cases admits_of_coerce h with
      | int => cases h; exact ⟨rfl, .inl rfl⟩
      | decimal s => exact ⟨rfl, .inr ⟨s, rfl, htext.mp h⟩⟩
    | _ => cases hfits
  · rintro ⟨rfl, rfl | ⟨s, rfl, hspells⟩⟩
    · rfl
    · exact htext.mpr hspells

/-- Truth values are taken from truth values and from the words for them alone. -/
theorem coerce_eq_bool_iff {b : Bool} :
    coerce p k = .ok (some (.bool b)) ↔
      k = .bool ∧ (p = .bool b ∨ ∃ s, p = .text s ∧ EqualUpToCase s (wordFor b)) := by
  have htext {s : String} : coerce (.text s) .bool = .ok (some (.bool b)) ↔
      EqualUpToCase s (wordFor b) := by
    cases b <;> simp [coerce, map_eq_ok_iff, coerceBool_eq_ok_iff]
  constructor
  · intro h
    have hfits := coerce_fits h
    cases k with
    | bool =>
      cases admits_of_coerce h with
      | bool => cases h; exact ⟨rfl, .inl rfl⟩
      | word s => exact ⟨rfl, .inr ⟨s, rfl, htext.mp h⟩⟩
    | _ => cases hfits
  · rintro ⟨rfl, rfl | ⟨s, rfl, hword⟩⟩
    · rfl
    · exact htext.mpr hword

/-- A name is coerced to the first symbol that is equal to it. -/
theorem coerce_eq_symbol_iff {name symbol : String} {symbols : List String} (h : p.Names name) :
    coerce p (.symbol symbols) = .ok (some (.symbol symbol)) ↔ IsFirstOf symbols name symbol := by
  rw [coerce_symbol_of_names h, map_eq_ok_iff]
  simp [coerceSymbol_eq_ok_iff]

end Coerce

/-- **Coercion is strict.** A null property stands for no value and any other for one or none of its
kind: floating-point numbers are always refused, and texts, integers and truth values are taken from
nothing but themselves, from names, from decimal texts of integers in range and from the words for
truth values. -/
theorem coerce_strict :
    (∀ p k, coerce p k = .ok none ↔ p = .null) ∧
    (∀ x k, coerce (.float x) k = .error (.wrongKind k.label "float")) ∧
    (∀ p k s, coerce p k = .ok (some (.text s)) ↔ k = .text ∧ p.Names s) ∧
    (∀ p k (n : Int64), coerce p k = .ok (some (.int n)) ↔
      k = .int ∧ (p = .int n ∨ ∃ s, p = .text s ∧ SpellsInteger s.toList n.toInt)) ∧
    (∀ s, (¬ ∃ n : Int64, SpellsInteger s.toList n.toInt) →
      coerce (.text s) .int = .error (.notInteger s)) ∧
    (∀ p k b, coerce p k = .ok (some (.bool b)) ↔
      k = .bool ∧ (p = .bool b ∨ ∃ s, p = .text s ∧ EqualUpToCase s (wordFor b))) ∧
    (∀ s, (∀ b, ¬ EqualUpToCase s (wordFor b)) →
      coerce (.text s) .bool = .error (.notBoolean s)) ∧
    (∀ p k, p ≠ .null → ¬ k.Admits p →
      coerce p k = .error (.wrongKind k.label p.kindName)) ∧
    ∀ n : Int64, coerce (.text (intText n.toInt)) .int = .ok (some (.int n)) := by
  refine ⟨fun p k => coerce_eq_ok_none_iff, fun x k => ?_, fun p k s => coerce_eq_text_iff,
    fun p k n => coerce_eq_int_iff, fun s hnone => ?_, fun p k b => coerce_eq_bool_iff,
    fun s hnone => ?_, fun p k hnull hnot => ?_, fun n => ?_⟩
  · cases k <;> rfl
  · exact map_eq_error_iff.mpr (coerceInt_eq_error_iff.mpr ⟨rfl, hnone⟩)
  · exact map_eq_error_iff.mpr (coerceBool_of_not_word hnone)
  · rcases admits_or_refused p k with hp | hadmits | hrefused
    · exact absurd hp hnull
    · exact absurd hadmits hnot
    · exact hrefused
  · refine coerce_eq_int_iff.mpr ⟨rfl, .inr ⟨_, rfl, ?_⟩⟩
    rw [intText, String.toList_ofList]
    exact spellsInteger_intDigits n.toInt

/-- The least integer is coerced from its text, and the one above the greatest is not. -/
theorem least_coerced_and_greatest_exceeded :
    coerce (.text "-9223372036854775808") .int = .ok (some (.int Int64.minValue)) ∧
    coerce (.text "9223372036854775808") .int = .error (.notInteger "9223372036854775808") ∧
    coerce (.text "yes") .bool = .error (.notBoolean "yes") ∧
    coerce (.bool true) .int = .error (.wrongKind "int" "bool") := by
  obtain ⟨-, -, -, -, hnotInteger, -, hnotBoolean, hwrongKind, hdecimal⟩ := coerce_strict
  refine ⟨hdecimal Int64.minValue, hnotInteger _ ?_, hnotBoolean _ fun b hword => ?_,
    hwrongKind _ _ nofun nofun⟩
  · rintro ⟨n, hspells⟩
    have hread := readInt64_eq_ok_iff.mpr hspells
    have htooLarge : readInt64 "9223372036854775808" = .error .tooLarge := rfl
    rw [htooLarge] at hread
    cases hread
  · have hequal := equalUpToCase_iff_forall₂.mpr hword
    cases b <;> exact absurd hequal (by decide)

end RelationalCatalog
