import RelationalCatalog.Proofs.Entity.Wire
import RelationalCatalog.Proofs.Json.Members

/-!
# What a value stands for as a property

The kind of a property is guessed by trying one form after the other. `Property.Denotes` says what
comes of that without any order: no value has two of the forms, except that an integer could be
taken as a floating-point number, and is if it is too large for an integer. Nothing but an object or
a pair of an ordinal and a name is a symbol, whatever else an object has, and no other object or
array is anything (`Property.ofJson?_eq_some_iff`).

In a text, a number is an integer if it is written as one, and otherwise a floating-point number,
even if it denotes an integer (`Document.ofText_numeral`).
-/

namespace RelationalCatalog

open Decode Token

/-! ## Symbols -/

namespace StoredSymbol

variable {members : List (String × Json)} {items : List Json} {e : Ending} {s : StoredSymbol}

/-- The fields of a symbol. -/
def values (s : StoredSymbol) : (f : Field) → layout.Value f
  | .ordinal => s.ordinal
  | .symbolicName => s.symbolicName

theorem decode_eq_ok_iff {d : Draft} :
    decode d = .ok s ↔ ∃ r, layout.read d = .ok r ∧ ∀ f, r.take f = .ok (s.values f) := by
  obtain ⟨ordinal, symbolicName⟩ := s
  rw [decode, bind_eq_ok_iff]
  refine exists_congr fun r => and_congr_right fun _ => ?_
  rw [bind_eq_ok_iff]
  constructor
  · rintro ⟨ordinal', hordinal, h⟩
    obtain ⟨name', hname, h⟩ := bind_eq_ok_iff.mp h
    cases h
    intro f
    cases f with
    | ordinal => exact hordinal
    | symbolicName => exact hname
  · intro h
    exact ⟨ordinal, h .ordinal, bind_eq_ok_iff.mpr ⟨symbolicName, h .symbolicName, rfl⟩⟩

/-- An object is a symbol just if it has one ordinal and one name. -/
theorem decode_obj_eq_ok_iff (he : e.readFault? = none) :
    decode ((Json.obj members).toDraft e) = .ok s ↔
      members.filter (fun m => m.1 == "ordinal") = [("ordinal", .int s.ordinal.toNat)] ∧
        members.filter (fun m => m.1 == "symbolicName") =
          [("symbolicName", .str s.symbolicName)] := by
  have hread := Layout.exists_read_obj_iff lawful_layout he members s.values
  have hordinal : layout.found e (.obj members) .ordinal = .ok s.ordinal ↔
      (Json.obj members).member? "ordinal" = some (.int s.ordinal.toNat) := by
    refine (Layout.found_eq_ok_iff_of_refused rfl).trans ?_
    simp only [layout, uint32_eq_ok_iff, exists_eq_right]
  have hname : layout.found e (.obj members) .symbolicName = .ok s.symbolicName ↔
      (Json.obj members).member? "symbolicName" = some (.str s.symbolicName) := by
    refine (Layout.found_eq_ok_iff_of_refused rfl).trans ?_
    simp only [layout, text_eq_ok_iff, exists_eq_right]
  rw [decode_eq_ok_iff, hread, Json.filter_eq_singleton_iff, Json.filter_eq_singleton_iff,
    ← hordinal, ← hname]
  constructor
  · rintro ⟨hadmits, hfound⟩
    exact ⟨⟨hadmits.once .ordinal, hfound .ordinal⟩, hadmits.once .symbolicName,
      hfound .symbolicName⟩
  · rintro ⟨⟨honce, hfound⟩, honce', hfound'⟩
    refine ⟨⟨nofun, fun f => ?_⟩, fun f => ?_⟩
    · cases f with
      | ordinal => exact honce
      | symbolicName => exact honce'
    · cases f with
      | ordinal => exact hfound
      | symbolicName => exact hfound'

/-- An array is a symbol just if it is a pair of an ordinal and a name. -/
theorem decode_arr_eq_ok_iff (he : Layout.Ends e) :
    decode ((Json.arr items).toDraft e) = .ok s ↔
      items = [.int s.ordinal.toNat, .str s.symbolicName] := by
  have hread := Layout.exists_read_arr_iff lawful_layout rfl he items s.values
  rw [decode_eq_ok_iff, hread]
  constructor
  · rintro ⟨hfits, hfound⟩
    have hordinal := hfound .ordinal
    have hname := hfound .symbolicName
    match items with
    | [] => cases hordinal
    | [_] => cases hname
    | [v, w] =>
      have hv : uint32 (v.toDraft e) = .ok s.ordinal := hordinal
      have hw : text (w.toDraft e) = .ok s.symbolicName := hname
      rw [uint32_eq_ok_iff.mp hv, text_eq_ok_iff.mp hw]
    | _ :: _ :: _ :: _ => exact absurd hfits.length_le (by simp [layout])
  · rintro rfl
    refine ⟨⟨Nat.le_refl 2, nofun⟩, fun f => ?_⟩
    cases f with
    | ordinal => exact uint32_eq_ok_iff.mpr rfl
    | symbolicName => rfl

end StoredSymbol

namespace Property

/-! ## Values -/

/-- The property that a JSON value stands for. -/
inductive Denotes : Json → Property → Prop
  | null : Denotes .null .null
  | bool (b : Bool) : Denotes (.bool b) (.bool b)
  | text (s : String) : Denotes (.str s) (.text s)
  | int (n : Int64) : Denotes (.int n.toInt) (.int n)
  /-- An integer of more bits is a floating-point number. -/
  | wide {n : Int} (h : n < minInt64 ∨ maxInt64 < n) : Denotes (.int n) (.float (Binary64.ofInt n))
  | float (x : Binary64) : Denotes (.float x) (.float x)
  /-- An object with one ordinal and one name, whatever its other members. -/
  | object {members : List (String × Json)} {s : StoredSymbol}
    (hordinal : members.filter (fun m => m.1 == "ordinal") = [("ordinal", .int s.ordinal.toNat)])
    (hname : members.filter (fun m => m.1 == "symbolicName") =
      [("symbolicName", .str s.symbolicName)]) : Denotes (.obj members) (.symbol s)
  /-- A pair of an ordinal and a name. -/
  | pair (s : StoredSymbol) :
    Denotes (.arr [.int s.ordinal.toNat, .str s.symbolicName]) (.symbol s)

/-- An object or an array is taken as a symbol or not at all, since no other form takes it. -/
theorem ofJson?_bracket_eq_some_iff {v : Json} {p : Property}
    (h : (∃ members, v = .obj members) ∨ ∃ items, v = .arr items) :
    ofJson? v = some p ↔ ∃ s, StoredSymbol.decode v.draft = .ok s ∧ .symbol s = p := by
  have hforms : ofJson? v = (StoredSymbol.decode v.draft).toOption.map .symbol := by
    obtain ⟨members, rfl⟩ | ⟨items, rfl⟩ := h <;>
    · simp only [ofJson?, forms, Json.draft, Json.toDraft, List.findSome?_cons, unit, boolean,
        int64, integer, Decode.float, Decode.text, Except.map, Except.toOption,
        List.findSome?_nil]
      cases StoredSymbol.decode _ <;> rfl
  rw [hforms, Option.map_eq_some_iff]
  simp only [toOption_eq_some_iff]

/-- An integer is taken as one if it has 64 bits, and otherwise as a floating-point number. -/
theorem ofJson?_int_of_le {n : Int} (hlow : minInt64 ≤ n) (hhigh : n ≤ maxInt64) :
    ofJson? (.int n) = some (.int (Int64.ofInt n)) := by
  simp only [ofJson?, forms, Json.draft, Json.toDraft, List.findSome?_cons, unit, boolean, int64,
    integer_of_le hlow hhigh, Except.map, Except.toOption]

theorem ofJson?_int_of_not_le {n : Int} (h : ¬ (minInt64 ≤ n ∧ n ≤ maxInt64)) :
    ofJson? (.int n) = some (.float (Binary64.ofInt n)) := by
  simp only [ofJson?, forms, Json.draft, Json.toDraft, List.findSome?_cons, unit, boolean, int64,
    integer, if_neg h, Decode.float, Except.map, Except.toOption]

theorem ofJson?_of_denotes {v : Json} {p : Property} (h : Denotes v p) : ofJson? v = some p := by
  cases h with
  | null | bool | text | float => rfl
  | int n =>
    rw [ofJson?_int_of_le n.le_toInt n.toInt_le, Int64.ofInt_toInt]
  | wide h =>
    refine ofJson?_int_of_not_le fun hrange => ?_
    omega
  | @object members s hordinal hname =>
    exact (ofJson?_bracket_eq_some_iff (.inl ⟨members, rfl⟩)).mpr
      ⟨s, (StoredSymbol.decode_obj_eq_ok_iff rfl).mpr ⟨hordinal, hname⟩, rfl⟩
  | pair s =>
    exact (ofJson?_bracket_eq_some_iff (.inr ⟨_, rfl⟩)).mpr
      ⟨s, (StoredSymbol.decode_arr_eq_ok_iff (.inr rfl)).mpr rfl, rfl⟩

theorem denotes_of_ofJson? {v : Json} {p : Property} (h : ofJson? v = some p) : Denotes v p := by
  have heq {p' : Property} (h' : Denotes v p') : Denotes v p := by
    rwa [← Option.some.inj ((ofJson?_of_denotes h').symm.trans h)]
  cases v with
  | null => exact heq .null
  | bool b => exact heq (.bool b)
  | str s => exact heq (.text s)
  | float x => exact heq (.float x)
  | int n =>
    by_cases hrange : minInt64 ≤ n ∧ n ≤ maxInt64
    · have hint := Denotes.int (Int64.ofInt n)
      rw [Int64.toInt_ofInt_of_le hrange.1 (Int.lt_add_one_of_le hrange.2)] at hint
      exact heq hint
    · exact heq (.wide (by omega))
  | obj members =>
    obtain ⟨s, hs, rfl⟩ := (ofJson?_bracket_eq_some_iff (.inl ⟨members, rfl⟩)).mp h
    obtain ⟨hordinal, hname⟩ := (StoredSymbol.decode_obj_eq_ok_iff rfl).mp hs
    exact .object hordinal hname
  | arr items =>
    obtain ⟨s, hs, rfl⟩ := (ofJson?_bracket_eq_some_iff (.inr ⟨items, rfl⟩)).mp h
    rw [(StoredSymbol.decode_arr_eq_ok_iff (.inr rfl)).mp hs]
    exact .pair s

/-- **A value is taken as the property that it stands for**, and as no other. -/
theorem ofJson?_eq_some_iff {v : Json} {p : Property} : ofJson? v = some p ↔ Denotes v p :=
  ⟨denotes_of_ofJson?, ofJson?_of_denotes⟩

/-- A draft is decoded to a property just if it is a value that stands for it. -/
theorem decode_eq_ok_iff {d : Draft} {p : Property} :
    decode d = .ok p ↔ ∃ v, anything d = .ok v ∧ Denotes v p := by
  rw [decode, bind_eq_ok_iff]
  refine exists_congr fun v => and_congr_right fun _ => ?_
  rw [← ofJson?_eq_some_iff]
  cases ofJson? v <;> simp

/-! ## Texts -/

/-- A text is decoded to a property just if it is a value that stands for it. -/
theorem decodeText_eq_ok_iff {s : String} {p : Property} :
    decodeText decode s = .ok p ↔ ∃ v, decodeText anything s = .ok v ∧ Denotes v p := by
  simp only [Decode.decodeText_eq_ok_iff, decode_eq_ok_iff]
  constructor
  · rintro ⟨⟨v, hv, hp⟩, htrailing⟩
    exact ⟨v, ⟨hv, htrailing⟩, hp⟩
  · rintro ⟨v, ⟨hv, htrailing⟩, hp⟩
    exact ⟨⟨v, hv, hp⟩, htrailing⟩

variable {chars : List Char} {n : Numeral}

/-- A number that has a value is decoded to it. -/
theorem decodeText_anything_numeral (h : SpellsNumeral chars n) {v : Json}
    (hv : n.value? = some (v.toDraft .closed)) :
    decodeText anything (String.ofList chars) = .ok v := by
  rw [Decode.decodeText_eq_ok_iff, Document.ofText_numeral h, hv]
  exact ⟨anything_toDraft (e := .closed) rfl v, rfl⟩

/-- The written form of an integer of 64 bits is that integer. -/
theorem decodeText_intDigits (k : Int64) :
    decodeText decode (String.ofList (intDigits k.toInt)) = .ok (.int k) := by
  have hnumeral := spellsNumeral_integerParts_iff.mpr (rfl : intDigits k.toInt = _)
  have hvalue := value?_of_int k.le_toInt (Int.le_trans k.toInt_le (by decide))
  exact decodeText_eq_ok_iff.mpr
    ⟨.int k.toInt, decodeText_anything_numeral hnumeral hvalue, .int k⟩

/-- Any other number is a floating-point number, unless it is too large to be read at all. -/
theorem decodeText_numeral_of_ne (h : SpellsNumeral chars n)
    (hne : ∀ k : Int64, chars ≠ intDigits k.toInt) :
    (∃ x, decodeText decode (String.ofList chars) = .ok (.float x)) ∨
      decodeText anything (String.ofList chars) = .error .malformed := by
  cases hvalue : n.value? with
  | none =>
    right
    rw [decodeText, Document.ofText_numeral h, hvalue]
    rfl
  | some d =>
    left
    obtain ⟨k, rfl⟩ | ⟨x, rfl⟩ := value?_cases hvalue
    · obtain ⟨hchars, -⟩ := (value?_eq_int_iff h).mp hvalue
      have hwide : k < minInt64 ∨ maxInt64 < k := by
        by_contra hrange
        obtain ⟨hlow, hhigh⟩ : minInt64 ≤ k ∧ k ≤ maxInt64 := by omega
        refine hne (Int64.ofInt k) ?_
        rw [Int64.toInt_ofInt_of_le hlow (Int.lt_add_one_of_le hhigh)]
        exact hchars
      exact ⟨_, decodeText_eq_ok_iff.mpr
        ⟨.int k, decodeText_anything_numeral h hvalue, .wide hwide⟩⟩
    · exact ⟨x, decodeText_eq_ok_iff.mpr
        ⟨.float x, decodeText_anything_numeral h hvalue, .float x⟩⟩

/-- **A property is what its value stands for, and nothing else**: values and texts that stand for
none are refused, and of the numbers just the written integers of 64 bits are integers. -/
theorem decoded_iff_denotes :
    (∀ (v : Json) (p : Property), decodeValue decode v = .ok p ↔ Denotes v p) ∧
    (∀ (s : String) (p : Property),
      decodeText decode s = .ok p ↔ ∃ v, decodeText anything s = .ok v ∧ Denotes v p) ∧
    (∀ (chars : List Char) (n : Numeral), SpellsNumeral chars n →
      (∀ k : Int64, chars = intDigits k.toInt →
        decodeText decode (String.ofList chars) = .ok (.int k)) ∧
      ((∀ k : Int64, chars ≠ intDigits k.toInt) →
        (∃ x, decodeText decode (String.ofList chars) = .ok (.float x)) ∨
          decodeText anything (String.ofList chars) = .error .malformed)) := by
  refine ⟨fun v p => ?_, fun s p => decodeText_eq_ok_iff, fun chars n h => ⟨?_, ?_⟩⟩
  · rw [decodeValue, decode_eq_ok_iff, Json.draft, anything_toDraft rfl]
    simp
  · rintro k rfl
    exact decodeText_intDigits k
  · exact decodeText_numeral_of_ne h

/-- A symbol among other members, one with an ordinal twice, and the least integer. -/
theorem symbol_among_others_denoted :
    decodeValue decode (.obj [("ordinal", .int 4294967295), ("note", .arr [.null]),
      ("symbolicName", .str "ASC")]) = .ok (.symbol ⟨4294967295, "ASC"⟩) ∧
    (∀ p, decodeValue decode (.obj [("ordinal", .int 1), ("symbolicName", .str "ASC"),
      ("ordinal", .int 1)]) ≠ .ok p) ∧
    decodeText decode (String.ofList "-9223372036854775808".toList) = .ok (.int Int64.minValue) := by
  obtain ⟨hvalue, -, hnumber⟩ := decoded_iff_denotes
  refine ⟨(hvalue _ _).mpr (.object rfl rfl), fun p hp => ?_, ?_⟩
  · cases (hvalue _ _).mp hp with
    | object hordinal hname => simp at hordinal
  · have hleast : "-9223372036854775808".toList = intDigits Int64.minValue.toInt := by
      decide +kernel
    exact (hnumber _ _ (spellsNumeral_integerParts_iff.mpr hleast)).1 Int64.minValue hleast

end Property

end RelationalCatalog
