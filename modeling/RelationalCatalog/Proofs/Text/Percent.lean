import RelationalCatalog.Proofs.Text.Utf8
import RelationalCatalog.Text.Percent

/-!
# Encoded texts are read back

- `percentText?_percentEncoded` — a text of which every byte is percent-encoded is read back from
  a part of a path
- `splitAll_intercalate`, `splitAtFirst_append` — what is joined by a mark is split there again
  if it does not have that mark itself
- `formFields_join` — the fields of a query are read back if none of their characters has a
  meaning of its own there
-/

namespace RelationalCatalog

/-! ## Percent encoding -/

/-- A percent-encoded byte. -/
def percentByte (b : Nat) : List Char := ['%', hexDigit (b / 16), hexDigit (b % 16)]

/-- A text with every byte percent-encoded. -/
def percentEncoded (s : String) : List Char := (s.toList.flatMap utf8Bytes).flatMap percentByte

theorem percentBytes_percentByte {b : Nat} (h : b < 256) (rest : List Char) :
    percentBytes (percentByte b ++ rest) = b :: percentBytes rest := by
  have hsum : b / 16 * 16 + b % 16 = b := by omega
  rw [percentByte, List.cons_append, List.cons_append, List.cons_append, List.nil_append,
    percentBytes, hexValue?_hexDigit (by omega), hexValue?_hexDigit (by omega)]
  simp only [hsum]

theorem percentBytes_flatMap_percentByte {bytes : List Nat} (h : ∀ b ∈ bytes, b < 256) :
    percentBytes (bytes.flatMap percentByte) = bytes := by
  induction bytes with
  | nil => rfl
  | cons b bytes ih =>
    rw [List.flatMap_cons, percentBytes_percentByte (h b List.mem_cons_self),
      ih fun b' hb' => h b' (List.mem_cons_of_mem _ hb')]

/-- **A percent-encoded text is read back as that text.** -/
theorem percentText?_percentEncoded (s : String) : percentText? (percentEncoded s) = some s := by
  have hbytes : ∀ b ∈ s.toList.flatMap utf8Bytes, b < 256 := by
    intro b hb
    obtain ⟨c, -, hc⟩ := List.mem_flatMap.mp hb
    exact lt_of_mem_utf8Bytes hc
  rw [percentText?, percentEncoded, percentBytes_flatMap_percentByte hbytes, utf8Text?_utf8Bytes]

/-- A percent-encoded text has only percent signs and hexadecimal digits. -/
theorem mem_percentEncoded {s : String} {c : Char} (h : c ∈ percentEncoded s) :
    c = '%' ∨ ∃ n < 16, c = hexDigit n := by
  obtain ⟨b, hb, hc⟩ := List.mem_flatMap.mp h
  obtain ⟨d, -, hd⟩ := List.mem_flatMap.mp hb
  have hlt := lt_of_mem_utf8Bytes hd
  simp only [percentByte, List.mem_cons, List.not_mem_nil, or_false] at hc
  rcases hc with rfl | rfl | rfl
  · exact .inl rfl
  · exact .inr ⟨b / 16, by omega, rfl⟩
  · exact .inr ⟨b % 16, by omega, rfl⟩

theorem notMem_percentEncoded {mark : Char} (s : String)
    (h : mark ≠ '%' ∧ ∀ n : Fin 16, mark ≠ hexDigit n) : mark ∉ percentEncoded s := by
  intro hmem
  rcases mem_percentEncoded hmem with hc | ⟨n, hn, hc⟩
  · exact h.1 hc
  · exact h.2 ⟨n, hn⟩ hc

theorem percentEncoded_ne_nil {s : String} (h : s ≠ "") : percentEncoded s ≠ [] := by
  intro hnil
  have hback := percentText?_percentEncoded s
  have hempty : percentText? [] = some "" := percentText?_percentEncoded ""
  rw [hnil, hempty] at hback
  exact h (Option.some.inj hback).symm

/-! ## Marks -/

/-- Splitting at a mark is what the library calls `splitOn`. -/
theorem splitAll_eq_splitOn (mark : Char) (cs : List Char) :
    splitAll mark cs = cs.splitOn mark := by
  induction cs with
  | nil => rfl
  | cons c cs ih =>
    rw [splitAll, List.splitOn_cons_eq_if_modifyHead, ih]
    by_cases hc : c = mark
    · rw [if_pos hc, if_pos (beq_iff_eq.mpr hc)]
    · rw [if_neg hc, if_neg (fun h => hc (beq_iff_eq.mp h))]
      cases hsplit : cs.splitOn mark with
      | nil => exact absurd hsplit (List.splitOn_ne_nil mark cs)
      | cons part parts => rfl

/-- What is joined by a mark that it does not have is split there again. -/
theorem splitAll_intercalate {mark : Char} {parts : List (List Char)}
    (h : ∀ part ∈ parts, mark ∉ part) (hne : parts ≠ []) :
    splitAll mark ([mark].intercalate parts) = parts := by
  rw [splitAll_eq_splitOn, List.splitOn_intercalate mark h hne]

/-- Joining brings in no mark but its own. -/
theorem notMem_intercalate {mark sep : Char} (hne : mark ≠ sep) {parts : List (List Char)}
    (h : ∀ part ∈ parts, mark ∉ part) : mark ∉ [sep].intercalate parts := by
  induction parts with
  | nil => exact List.not_mem_nil
  | cons part parts ih =>
    have hpart : mark ∉ part := h part List.mem_cons_self
    have hparts := ih fun p hp => h p (List.mem_cons_of_mem _ hp)
    cases parts with
    | nil => rwa [List.intercalate_singleton]
    | cons q parts =>
      rw [List.intercalate_cons_cons]
      intro hmem
      rcases List.mem_append.mp hmem with hmem | hmem
      · rcases List.mem_append.mp hmem with hmem | hmem
        · exact hpart hmem
        · exact hne (List.mem_singleton.mp hmem)
      · exact hparts hmem

theorem splitAtFirst_of_notMem {mark : Char} {cs : List Char} (h : mark ∉ cs) :
    splitAtFirst mark cs = (cs, none) := by
  induction cs with
  | nil => rfl
  | cons c cs ih =>
    have hc := List.ne_of_not_mem_cons h
    have hcs := List.not_mem_of_not_mem_cons h
    rw [splitAtFirst, if_neg (Ne.symm hc), ih hcs]

/-- The characters in front of the first mark are split off. -/
theorem splitAtFirst_append {mark : Char} {before : List Char} (h : mark ∉ before)
    (behind : List Char) :
    splitAtFirst mark (before ++ mark :: behind) = (before, some behind) := by
  induction before with
  | nil => exact if_pos rfl
  | cons c before ih =>
    have hc := List.ne_of_not_mem_cons h
    have hbefore := List.not_mem_of_not_mem_cons h
    rw [List.cons_append, splitAtFirst, if_neg (Ne.symm hc), ih hbefore]

/-! ## Queries -/

/-- Characters that stand for themselves in a query. -/
def Plain (cs : List Char) : Prop := ∀ c ∈ cs, c ≠ '%' ∧ c ≠ '+'

theorem plain_of_all {cs : List Char} (h : cs.all (fun c => c != '%' && c != '+') = true) :
    Plain cs := by
  intro c hc
  have hboth := Bool.and_eq_true_iff.mp (List.all_eq_true.mp h c hc)
  exact ⟨bne_iff_ne.mp hboth.1, bne_iff_ne.mp hboth.2⟩

theorem percentBytes_of_plain {cs : List Char} (h : Plain cs) :
    percentBytes cs = cs.flatMap utf8Bytes := by
  induction cs with
  | nil => rfl
  | cons c cs ih =>
    have hc : c ≠ '%' := (h c List.mem_cons_self).1
    have hstep : percentBytes (c :: cs) = utf8Bytes c ++ percentBytes cs := by
      rw [percentBytes.eq_def]
      split
      · rename_i heq
        exact absurd (List.cons.inj heq).1 hc
      · rename_i heq
        obtain ⟨rfl, rfl⟩ := List.cons.inj heq
        rfl
      · rename_i heq
        cases heq
    rw [hstep, ih fun c' hc' => h c' (List.mem_cons_of_mem _ hc'), List.flatMap_cons]

/-- A plain part of a query stands for itself. -/
theorem formText_of_plain {cs : List Char} (h : Plain cs) : formText cs = String.ofList cs := by
  have hmap : cs.map (fun c => if c = '+' then ' ' else c) = cs := by
    refine (List.map_congr_left fun c hc => ?_).trans (List.map_id' cs)
    exact if_neg (h c hc).2
  rw [formText, hmap, percentBytes_of_plain h, utf8TextLossy_utf8Bytes]

/-- A field of a query as it is written. -/
def joinField (f : List Char × List Char) : List Char := f.1 ++ '=' :: f.2

/-- **Plain fields of a query are read back**, one by one. -/
theorem formFields_join {fields : List (List Char × List Char)} (hne : fields ≠ [])
    (hname : ∀ f ∈ fields, Plain f.1 ∧ '=' ∉ f.1 ∧ '&' ∉ f.1)
    (hvalue : ∀ f ∈ fields, Plain f.2 ∧ '&' ∉ f.2) :
    formFields (['&'].intercalate (fields.map joinField)) =
      fields.map fun f => (String.ofList f.1, String.ofList f.2) := by
  have hparts : ∀ part ∈ fields.map joinField, '&' ∉ part := by
    intro part hpart
    obtain ⟨f, hf, rfl⟩ := List.mem_map.mp hpart
    intro hmem
    rcases List.mem_append.mp hmem with h | h
    · exact (hname f hf).2.2 h
    · rcases List.mem_cons.mp h with h | h
      · cases h
      · exact (hvalue f hf).2 h
  have hfull : (fields.map joinField).filter (fun part => !part.isEmpty) =
      fields.map joinField := by
    refine List.filter_eq_self.mpr fun part hpart => ?_
    obtain ⟨f, -, rfl⟩ := List.mem_map.mp hpart
    simp [joinField]
  rw [formFields, splitAll_intercalate hparts (by simpa using hne), hfull, List.map_map]
  refine List.map_congr_left fun f hf => ?_
  rw [Function.comp_apply, joinField, splitAtFirst_append (hname f hf).2.1]
  simp only [Option.getD_some]
  rw [formText_of_plain (hname f hf).1, formText_of_plain (hvalue f hf).1]

end RelationalCatalog
