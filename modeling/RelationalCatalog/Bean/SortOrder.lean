import RelationalCatalog.Text.LetterCase

/-!
# Sort orders of columns

A column is sorted in one of three ways, each with a symbol of its own. A symbol is recognised
whatever the case of its letters.
-/

namespace RelationalCatalog

/-- How a column is sorted. -/
inductive SortOrder
  | unsorted
  | ascending
  | descending
deriving DecidableEq

namespace SortOrder

/-- The symbol of a sort order. -/
def symbol : SortOrder → String
  | .unsorted => "UNSORTED"
  | .ascending => "ASCENDING"
  | .descending => "DESCENDING"

/-- All symbols. -/
def symbols : List String := ["UNSORTED", "ASCENDING", "DESCENDING"]

/-- The sort order of a symbol, whatever the case of its letters. -/
def ofSymbol? (s : String) : Option SortOrder :=
  match asciiUpper s with
  | "UNSORTED" => some .unsorted
  | "ASCENDING" => some .ascending
  | "DESCENDING" => some .descending
  | _ => none

/-- A column of which nothing is known is unsorted. -/
instance : Inhabited SortOrder := ⟨.unsorted⟩

end SortOrder

end RelationalCatalog
