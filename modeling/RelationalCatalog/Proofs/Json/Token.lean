import RelationalCatalog.Json.Printer
import RelationalCatalog.Proofs.Json.Numeral

/-!
# Written texts are read back

A text is read back from between its quotes, whatever its characters (`readText_flatMap_escaped`).
Reading undoes one escape at a time (`readText_escaped`).
-/

namespace RelationalCatalog

namespace Token

/-- The escape by number of a character below the space is read back. -/
theorem numberedEscape_of_lt {c : Char} (h : c < ' ') (rest : List Char) :
    numberedEscape ('0' :: '0' :: hexDigit (c.toNat / 16) :: hexDigit (c.toNat % 16) :: rest)
      = .ok (c, rest) := by
  have hlt : c.toNat < 32 := h
  have hhex : hexEscape ('0' :: '0' :: hexDigit (c.toNat / 16) :: hexDigit (c.toNat % 16) :: rest)
      = .ok (c.toNat, rest) := by
    have hzero : hexValue? '0' = some 0 := by decide
    have hvalue : ((0 * 16 + 0) * 16 + c.toNat / 16) * 16 + c.toNat % 16 = c.toNat := by omega
    simp only [hexEscape, hzero, hexValue?_hexDigit (Nat.mod_lt c.toNat (by decide : 0 < 16)),
      hexValue?_hexDigit (show c.toNat / 16 < 16 by omega), hvalue]
  have hlow : ¬ (0xdc00 ≤ c.toNat ∧ c.toNat ≤ 0xdfff) := by omega
  have hbasic : c.toNat < 0xd800 ∨ 0xdbff < c.toNat := by omega
  simp only [numberedEscape, hhex, bind, Except.bind, if_neg hlow, if_pos hbasic,
    Char.ofNat_toNat]

/-- Behind a short escape, reading goes on with its character. -/
theorem readText_shortEscape {e c : Char} (he : shortEscape? e = some c) (hu : e ≠ 'u')
    (fuel : Nat) (rest : List Char) :
    readText (fuel + 1) ('\\' :: e :: rest) =
      (readText fuel rest).map (fun r => (c :: r.1, r.2)) := by
  have hquote : ¬ '\\' = '"' := by decide
  simp only [readText, he, hquote, if_false, if_true]
  cases readText fuel rest <;> rfl

/-- Behind an escape by number, reading goes on with its character. -/
theorem readText_numberedEscape {c : Char} (h : c < ' ') (fuel : Nat) (rest : List Char) :
    readText (fuel + 1) ('\\' :: 'u' :: '0' :: '0' :: hexDigit (c.toNat / 16)
        :: hexDigit (c.toNat % 16) :: rest) =
      (readText fuel rest).map (fun r => (c :: r.1, r.2)) := by
  have hquote : ¬ '\\' = '"' := by decide
  simp only [readText, numberedEscape_of_lt h, hquote, if_false, if_true, bind, Except.bind]
  cases readText fuel rest <;> rfl

/-- A character that stands for itself is read as it is. -/
theorem readText_plain {c : Char} (hq : c ≠ '"') (hb : c ≠ '\\') (hs : ¬ c < ' ')
    (fuel : Nat) (rest : List Char) :
    readText (fuel + 1) (c :: rest) = (readText fuel rest).map (fun r => (c :: r.1, r.2)) := by
  rw [readText.eq_def]
  simp only [hq, hb, hs, if_false]
  cases readText fuel rest <;> rfl

/-- A character stands between quotes by a short escape, by its number or for itself. -/
theorem escaped_cases (c : Char) :
    (∃ e, e ≠ 'u' ∧ shortEscape? e = some c ∧ Json.escaped c = ['\\', e]) ∨
    (c < ' ' ∧ Json.escaped c =
      ['\\', 'u', '0', '0', hexDigit (c.toNat / 16), hexDigit (c.toNat % 16)]) ∨
    (c ≠ '"' ∧ c ≠ '\\' ∧ ¬ c < ' ' ∧ Json.escaped c = [c]) := by
  by_cases hc : c ∈ ['"', '\\', '\x08', '\x0c', '\n', '\x0d', '\t']
  · simp only [List.mem_cons, List.not_mem_nil, or_false] at hc
    rcases hc with rfl | rfl | rfl | rfl | rfl | rfl | rfl
    · exact Or.inl ⟨'"', by decide, rfl, rfl⟩
    · exact Or.inl ⟨'\\', by decide, rfl, rfl⟩
    · exact Or.inl ⟨'b', by decide, rfl, rfl⟩
    · exact Or.inl ⟨'f', by decide, rfl, rfl⟩
    · exact Or.inl ⟨'n', by decide, rfl, rfl⟩
    · exact Or.inl ⟨'r', by decide, rfl, rfl⟩
    · exact Or.inl ⟨'t', by decide, rfl, rfl⟩
  · simp only [List.mem_cons, List.not_mem_nil, or_false, not_or] at hc
    obtain ⟨hq, hb, h8, hf, hn, hr, ht⟩ := hc
    have hescaped : Json.escaped c = if c < ' ' then
        ['\\', 'u', '0', '0', hexDigit (c.toNat / 16), hexDigit (c.toNat % 16)] else [c] := by
      simp only [Json.escaped, hq, hb, h8, hf, hn, hr, ht, if_false]
    by_cases hs : c < ' '
    · exact Or.inr (Or.inl ⟨hs, by rw [hescaped, if_pos hs]⟩)
    · exact Or.inr (Or.inr ⟨hq, hb, hs, by rw [hescaped, if_neg hs]⟩)

/-- A character as it stands between quotes is read in one step. -/
theorem readText_escaped (fuel : Nat) (c : Char) (rest : List Char) :
    readText (fuel + 1) (Json.escaped c ++ rest) =
      (readText fuel rest).map (fun r => (c :: r.1, r.2)) := by
  rcases escaped_cases c with ⟨e, hu, he, h⟩ | ⟨hs, h⟩ | ⟨hq, hb, hs, h⟩
  · rw [h]
    exact readText_shortEscape he hu fuel rest
  · rw [h]
    exact readText_numberedEscape hs fuel rest
  · rw [h]
    exact readText_plain hq hb hs fuel rest

/-- A text is read back from between its quotes. -/
theorem readText_flatMap_escaped (text rest : List Char) (fuel : Nat) (h : text.length < fuel) :
    readText fuel (text.flatMap Json.escaped ++ '"' :: rest) = .ok (text, rest) := by
  induction text generalizing fuel with
  | nil =>
    obtain ⟨fuel, rfl⟩ := Nat.exists_eq_add_of_lt h
    rfl
  | cons c text ih =>
    obtain ⟨fuel, rfl⟩ : ∃ n, fuel = n + 1 := ⟨fuel - 1, by omega⟩
    rw [List.flatMap_cons, List.append_assoc, readText_escaped, ih fuel (by simpa using h)]
    rfl

end Token

end RelationalCatalog
