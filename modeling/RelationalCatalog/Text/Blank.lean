/-!
# Blank characters

The characters that count as white space are those with the property `White_Space` of the
Unicode character database. A name made of them alone is no name.
-/

namespace RelationalCatalog

/-- Whether a character has the property `White_Space`. -/
def isBlank (c : Char) : Bool :=
  ('\t' ≤ c && c ≤ '\x0d') || c == ' ' || c == '\u0085' || c == '\u00a0' || c == '\u1680' ||
  ('\u2000' ≤ c && c ≤ '\u200a') || c == '\u2028' || c == '\u2029' || c == '\u202f' ||
  c == '\u205f' || c == '\u3000'

/-- The characters from the first that is not blank. -/
def dropBlanks (cs : List Char) : List Char := cs.dropWhile isBlank

/-- The characters without the blank ones at both ends. -/
def trimBlanks (cs : List Char) : List Char :=
  (dropBlanks (dropBlanks cs).reverse).reverse

/-- Whether a text has nothing but blank characters. -/
def isBlankText (s : String) : Bool := s.toList.all isBlank

/-- Dropped characters are blank. -/
theorem all_isBlank_dropBlanks (cs : List Char) :
    (dropBlanks cs).all isBlank = cs.all isBlank := by
  induction cs with
  | nil => rfl
  | cons c cs ih =>
    cases hc : isBlank c with
    | true => simpa [dropBlanks, hc] using ih
    | false => simp [dropBlanks, hc]

theorem dropBlanks_eq_nil_iff {cs : List Char} :
    dropBlanks cs = [] ↔ cs.all isBlank = true := by
  induction cs with
  | nil => simp [dropBlanks]
  | cons c cs ih =>
    cases hc : isBlank c with
    | true =>
      have hdrop : dropBlanks (c :: cs) = dropBlanks cs := List.dropWhile_cons_of_pos hc
      rw [hdrop, ih, List.all_cons, hc, Bool.true_and]
    | false => simp [dropBlanks, hc]

/-- A text has nothing but blank characters if nothing is left when it is trimmed. -/
theorem isBlankText_iff {s : String} : isBlankText s = true ↔ trimBlanks s.toList = [] := by
  rw [trimBlanks, List.reverse_eq_nil_iff, dropBlanks_eq_nil_iff, List.all_reverse,
    all_isBlank_dropBlanks, isBlankText]

theorem isBlankText_eq_false_iff {s : String} :
    isBlankText s = false ↔ trimBlanks s.toList ≠ [] := by
  rw [← Bool.not_eq_true, isBlankText_iff]

example : isBlank '\u200b' = false ∧ isBlank '\u180e' = false ∧ isBlank '\ufeff' = false := by
  decide

end RelationalCatalog
