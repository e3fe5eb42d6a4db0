import RelationalCatalog.Proofs.Attribute.Coercion
import RelationalCatalog.Proofs.Bean.Faithfulness

/-!
# Symbols of sort orders

A symbol is recognised twice before it becomes the sort order of a column: coercion compares it with
the listed symbols in lower case, and `SortOrder.ofSymbol?` folds it to upper case. Both take the
same texts (`SortOrder.ofSymbol?_eq_some_iff`, `SortOrder.isFirstOf_symbols_iff`), so what coercion
lets through always has a sort order, and the default is never put in its place
(`Column.ofSymbol?_sortOrder`).
-/

namespace RelationalCatalog

namespace SortOrder

/-- The symbols are in upper case. -/
theorem asciiUpper_symbol (order : SortOrder) : asciiUpper order.symbol = order.symbol := by
  cases order <;> decide

/-- A text stands for the sort order whose symbol is equal to it up to letter case. -/
theorem ofSymbol?_eq_some_iff {s : String} {order : SortOrder} :
    ofSymbol? s = some order ↔ EqualUpToCase order.symbol s := by
  rw [← asciiUpper_eq_iff, asciiUpper_symbol, ofSymbol?]
  constructor
  · intro h
    split at h
    · rename_i hupper
      cases h
      exact hupper.symm
    · rename_i hupper
      cases h
      exact hupper.symm
    · rename_i hupper
      cases h
      exact hupper.symm
    · cases h
  · intro hupper
    rw [← hupper]
    cases order <;> rfl

theorem mem_symbols_iff {s : String} : s ∈ symbols ↔ ∃ order : SortOrder, order.symbol = s := by
  constructor
  · intro hmem
    have hsymbol := map_symbol_ofSymbol? s hmem
    obtain ⟨order, -, horder⟩ := Option.map_eq_some_iff.mp hsymbol
    exact ⟨order, horder⟩
  · rintro ⟨order, rfl⟩
    cases order <;> decide

/-- The first symbol that is equal to a text is that of the sort order that the text stands for. -/
theorem isFirstOf_symbols_iff {s symbol : String} :
    IsFirstOf symbols s symbol ↔ ∃ order, ofSymbol? s = some order ∧ order.symbol = symbol := by
  have horder {symbol : String} (h : IsFirstOf symbols s symbol) :
      ∃ order, ofSymbol? s = some order ∧ order.symbol = symbol := by
    obtain ⟨order, rfl⟩ := mem_symbols_iff.mp h.mem
    obtain ⟨-, -, -, hequal, -⟩ := h
    exact ⟨order, ofSymbol?_eq_some_iff.mpr hequal, rfl⟩
  refine ⟨horder, ?_⟩
  rintro ⟨order, hsome, rfl⟩
  obtain ⟨first, hfirst⟩ :=
    exists_isFirstOf (mem_symbols_iff.mpr ⟨order, rfl⟩) (ofSymbol?_eq_some_iff.mp hsome)
  obtain ⟨order', hsome', rfl⟩ := horder hfirst
  obtain rfl := Option.some.inj (hsome'.symm.trans hsome)
  exact hfirst

end SortOrder

/-- **A sort order that is there is never replaced by the default.** -/
theorem Column.ofSymbol?_sortOrder {r : TypeRegistry} {e : Entity} {column : Column}
    (h : r.convert Column.mapping e = .ok column) {p : Property}
    (hp : e.property? "sortOrder" = some p) (hnull : p ≠ .null) :
    ∃ name, p.Names name ∧ SortOrder.ofSymbol? name = some column.sortOrder := by
  have hspec : AttributeSpec.optional "sortOrder" (.symbol SortOrder.symbols) ∈
      Column.mapping.attributes := by
    simp [Column.mapping]
  obtain ⟨v, hcoerce, hshown⟩ := (Column.lawful_view.reproduces h).present _ hspec p hp hnull
  obtain rfl : v = .symbol column.sortOrder.symbol := (Option.some.inj hshown).symm
  cases admits_of_coerce hcoerce with
  | symbol hnames =>
    obtain ⟨order, hsome, hsymbol⟩ :=
      SortOrder.isFirstOf_symbols_iff.mp ((coerce_eq_symbol_iff hnames).mp hcoerce)
    exact ⟨_, hnames, SortOrder.symbol_inj hsymbol ▸ hsome⟩

/-- **Symbols are coerced to the listed ones, as sort orders are recognised.** A name is coerced to
the first listed symbol that is equal to it up to the case of ASCII letters, and is refused if there
is none; the symbol is coerced to itself again. The symbols of sort orders are found just where a
sort order is recognised, and it is the one that the column shows. -/
theorem symbols_coerced_canonically :
    (∀ (symbols : List String) (name : String) (p : Property), p.Names name →
      (∀ symbol, coerce p (.symbol symbols) = .ok (some (.symbol symbol)) ↔
        ∃ before after, symbols = before ++ symbol :: after ∧ EqualUpToCase symbol name ∧
          ∀ x ∈ before, ¬ EqualUpToCase x name) ∧
      (∀ fault, coerce p (.symbol symbols) = .error fault ↔
        fault = .notListed name symbols ∧ ∀ symbol ∈ symbols, ¬ EqualUpToCase symbol name) ∧
      ∀ symbol, coerce p (.symbol symbols) = .ok (some (.symbol symbol)) →
        ∀ p' : Property, p'.Names symbol →
          coerce p' (.symbol symbols) = .ok (some (.symbol symbol))) ∧
    (∀ s t, EqualUpToCase s t → s.toList.length = t.toList.length ∧
      ∀ (i : Nat) (a b : Char), s.toList[i]? = some a → t.toList[i]? = some b →
        128 ≤ a.toNat ∨ 128 ≤ b.toNat → a = b) ∧
    (∀ (name : String) (p : Property), p.Names name →
      ∀ symbol, coerce p (.symbol SortOrder.symbols) = .ok (some (.symbol symbol)) ↔
        ∃ order, SortOrder.ofSymbol? name = some order ∧ order.symbol = symbol) ∧
    ∀ (r : TypeRegistry) (e : Entity) (column : Column) (p : Property),
      r.convert Column.mapping e = .ok column → e.property? "sortOrder" = some p → p ≠ .null →
        ∃ name, p.Names name ∧ SortOrder.ofSymbol? name = some column.sortOrder := by
  refine ⟨fun symbols name p hname => ⟨fun symbol => coerce_eq_symbol_iff hname, fun fault => ?_,
      fun symbol hcoerce p' hname' => ?_⟩, fun s t h => h.only_ascii, fun name p hname symbol => ?_,
    fun r e column p h hp hnull => Column.ofSymbol?_sortOrder h hp hnull⟩
  · rw [coerce_symbol_of_names hname, map_eq_error_iff, coerceSymbol_eq_error_iff]
  · have hfirst := (coerce_eq_symbol_iff hname).mp hcoerce
    exact (coerce_eq_symbol_iff hname').mpr hfirst.self
  · rw [coerce_eq_symbol_iff hname, SortOrder.isFirstOf_symbols_iff]

/-- A column that is sorted. -/
def sortedColumn : Entity :=
  (((Entity.new "c1" "RelationalColumn").withProperty "displayName" (.text "id")).withProperty
    "dataType" (.text "INT")).withProperty "sortOrder" (.symbol ⟨9, "Ascending"⟩)

/-- Of two symbols that are equal up to letter case, the first counts. A letter that is not of ASCII
is no other letter. A column shows the sort order that its property names. -/
theorem first_symbol_counts :
    coerce (.symbol ⟨7, "Red"⟩) (.symbol ["GREEN", "red", "RED"]) = .ok (some (.symbol "red")) ∧
    coerce (.text "uN\u017forted") (.symbol SortOrder.symbols) =
      .error (.notListed "uN\u017forted" SortOrder.symbols) ∧
    ∃ name, Property.Names (.symbol ⟨9, "Ascending"⟩) name ∧
      SortOrder.ofSymbol? name = some .ascending := by
  obtain ⟨hcanonical, -, -, hcolumn⟩ := symbols_coerced_canonically
  obtain ⟨hfirst, -⟩ :=
    hcanonical ["GREEN", "red", "RED"] "Red" (.symbol ⟨7, "Red"⟩) (.inr ⟨7, rfl⟩)
  obtain ⟨-, hrefused, -⟩ :=
    hcanonical SortOrder.symbols "uN\u017forted" (.text "uN\u017forted") (.inl rfl)
  simp only [← equalUpToCase_iff_forall₂] at hfirst hrefused
  have hsorted := hcolumn .builtin sortedColumn
    ⟨"c1", "", "id", "INT", 0, 0, true, .ascending, false, []⟩ (.symbol ⟨9, "Ascending"⟩) rfl rfl
    nofun
  exact ⟨(hfirst "red").mpr ⟨["GREEN"], ["RED"], rfl, by decide, by decide⟩,
    (hrefused _).mpr ⟨rfl, by decide⟩, hsorted⟩

end RelationalCatalog
