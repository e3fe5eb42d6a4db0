/-!
# Letter case of ASCII letters

Symbols of the catalog are compared without regard to the case of the letters `A` to `Z`. All
other characters, letters of other alphabets among them, stand for themselves alone.
-/

namespace RelationalCatalog

/-- The text with its ASCII letters in upper case. -/
def asciiUpper (s : String) : String := String.ofList (s.toList.map Char.toUpper)

/-- Whether two texts are the same up to the case of their ASCII letters. -/
def equalUpToCase (a b : String) : Bool :=
  a.toList.map Char.toLower == b.toList.map Char.toLower

theorem equalUpToCase_iff {a b : String} :
    equalUpToCase a b = true ↔ a.toList.map Char.toLower = b.toList.map Char.toLower := by
  simp [equalUpToCase]

@[simp] theorem equalUpToCase_self (s : String) : equalUpToCase s s = true := by
  simp [equalUpToCase]

end RelationalCatalog
