import RelationalCatalog.Number.Integer
import RelationalCatalog.Proofs.Outcome

/-!
# Decimal digits are read back

What is said of `natDigits` here is what its readers ask for: there are digits, only digits, and
no leading zero. `readUInt64_natDigits` reads an unsigned integer of 64 bits back; a reader
refuses digits as soon as the number leaves the type, which it never does, as more digits only
make a number larger.

For signed integers, `SpellsInteger` says which texts stand for a number at all, with leading zeros
and a plus sign or without, and `readInt64_eq_ok_iff` that just these are read, as that number.
-/

namespace RelationalCatalog

/-! ## The digits of a number -/

/-- The digits of a number are ASCII digits. -/
theorem isDigit_of_mem_natDigits {n : Nat} {c : Char} (h : c ∈ natDigits n) :
    c.isDigit = true :=
  Nat.isDigit_of_mem_toDigits (by decide) (by decide) h

/-- A positive number begins with a digit other than zero. -/
theorem natDigits_eq_cons {n : Nat} (h : 0 < n) :
    ∃ d ds, natDigits n = d :: ds ∧ d.isDigit = true ∧ d ≠ '0' := by
  induction n using Nat.strongRecOn with
  | _ n ih =>
    by_cases hn : n < 10
    · refine ⟨Nat.digitChar n, [], Nat.toDigits_of_lt_base hn, ?_, ?_⟩
      · simp [Nat.isDigit_digitChar, hn]
      · rw [ne_eq, Nat.digitChar_eq_zero]
        omega
    · have hsplit : natDigits n = natDigits (n / 10) ++ [Nat.digitChar (n % 10)] :=
        Nat.toDigits_of_base_le (by decide) (by omega)
      obtain ⟨d, ds, hds, hd⟩ := ih (n / 10) (by omega) (by omega)
      exact ⟨d, ds ++ [Nat.digitChar (n % 10)], by rw [hsplit, hds]; rfl, hd⟩

/-- A number begins with a digit. -/
theorem exists_natDigits_eq_cons (n : Nat) :
    ∃ d ds, natDigits n = d :: ds ∧ d.isDigit = true := by
  cases hds : natDigits n with
  | nil => exact absurd hds Nat.toDigits_ne_nil
  | cons d ds => exact ⟨d, ds, rfl, isDigit_of_mem_natDigits (hds ▸ List.mem_cons_self)⟩

/-! ## Reading digits -/

/-- Digits only make a number larger. -/
theorem le_ofDigitChars (ds : List Char) (acc : Nat) : acc ≤ Nat.ofDigitChars 10 ds acc := by
  rw [Nat.ofDigitChars_eq_ofDigitChars_zero]
  have hpos : 1 * acc ≤ 10 ^ ds.length * acc :=
    Nat.mul_le_mul_right acc (Nat.pow_pos (by decide))
  omega

/-- Digits are read to their end if the number that they spell is within the bound. -/
theorem readMagnitude_of_le {bound : Nat} {beyond : IntegerFault} {ds : List Char} {acc : Nat}
    (hds : ∀ c ∈ ds, c.isDigit = true) (h : Nat.ofDigitChars 10 ds acc ≤ bound) :
    readMagnitude bound beyond acc ds = .ok (Nat.ofDigitChars 10 ds acc) := by
  induction ds generalizing acc with
  | nil => rw [readMagnitude, Nat.ofDigitChars_nil]
  | cons c ds ih =>
    have hnext : 10 * acc + (c.toNat - '0'.toNat) = acc * 10 + digitValue c := by
      rw [digitValue, Nat.mul_comm]
    rw [Nat.ofDigitChars_cons, hnext] at h ⊢
    have hle : acc * 10 + digitValue c ≤ bound := Nat.le_trans (le_ofDigitChars ds _) h
    rw [readMagnitude, if_pos (hds c List.mem_cons_self), if_pos hle]
    exact ih (fun c' hc' => hds c' (List.mem_cons_of_mem _ hc')) h

/-- The digits of a number within the bound are read back. -/
theorem readUnsigned_natDigits {bound n : Nat} (h : n ≤ bound) :
    readUnsigned bound (String.ofList (natDigits n)) = .ok n := by
  have hvalue : Nat.ofDigitChars 10 (natDigits n) 0 = n := digitsValue_natDigits n
  have hread : readMagnitude bound .tooLarge 0 (natDigits n) = .ok n := by
    rw [readMagnitude_of_le (fun c hc => isDigit_of_mem_natDigits hc) (by rw [hvalue]; exact h),
      hvalue]
  have hplus : ∀ cs, natDigits n ≠ '+' :: cs := by
    intro cs hcs
    have hplus := isDigit_of_mem_natDigits (hcs ▸ List.mem_cons_self : '+' ∈ natDigits n)
    exact absurd hplus (by decide)
  rw [readUnsigned, String.toList_ofList]
  split
  · rename_i hnil
    exact absurd hnil Nat.toDigits_ne_nil
  · rename_i hcons
    exact absurd hcons (hplus _)
  · rename_i hcons
    exact absurd hcons (hplus _)
  · exact hread

/-- The digits of an unsigned integer of 64 bits are read back. -/
theorem readUInt64_natDigits (n : UInt64) :
    readUInt64 (String.ofList (natDigits n.toNat)) = .ok n := by
  have hle : n.toNat ≤ maxUInt64.natAbs := by
    have hlt := n.toNat_lt
    have hmax : maxUInt64.natAbs = 0xffffffffffffffff := rfl
    omega
  rw [readUInt64, readUnsigned_natDigits hle]
  exact congrArg Except.ok (UInt64.ofNat_toNat)

/-! ## Signed integers -/

/-- The characters are digits behind at most one sign, and they spell the number. -/
inductive SpellsInteger : List Char → Int → Prop
  | unsigned {digits} (ne_nil : digits ≠ []) (isDigit : ∀ c ∈ digits, c.isDigit = true) :
    SpellsInteger digits (digitsValue digits)
  | plus {digits} (ne_nil : digits ≠ []) (isDigit : ∀ c ∈ digits, c.isDigit = true) :
    SpellsInteger ('+' :: digits) (digitsValue digits)
  | minus {digits} (ne_nil : digits ≠ []) (isDigit : ∀ c ∈ digits, c.isDigit = true) :
    SpellsInteger ('-' :: digits) (-(digitsValue digits : Int))

/-- What is read is a run of digits, and the number that they spell is within the bound. -/
theorem readMagnitude_eq_ok_iff {bound : Nat} {beyond : IntegerFault} {ds : List Char}
    {acc n : Nat} (hacc : acc ≤ bound) :
    readMagnitude bound beyond acc ds = .ok n ↔
      (∀ c ∈ ds, c.isDigit = true) ∧ Nat.ofDigitChars 10 ds acc = n ∧ n ≤ bound := by
  constructor
  · induction ds generalizing acc with
    | nil =>
      intro h
      cases h
      exact ⟨nofun, Nat.ofDigitChars_nil, hacc⟩
    | cons c ds ih =>
      intro h
      have hnext : acc * 10 + digitValue c = 10 * acc + (c.toNat - '0'.toNat) := by
        rw [digitValue, Nat.mul_comm]
      simp only [readMagnitude] at h
      split at h
      · rename_i hc
        split at h
        · rename_i hle
          obtain ⟨hds, hvalue, hn⟩ := ih hle h
          rw [hnext, ← Nat.ofDigitChars_cons] at hvalue
          exact ⟨List.forall_mem_cons.mpr ⟨hc, hds⟩, hvalue, hn⟩
        · cases h
      · cases h
  · rintro ⟨hds, rfl, hn⟩
    exact readMagnitude_of_le hds hn

/-- A run of digits is no sign alone and has none in front. -/
theorem ne_cons_of_isDigit {ds : List Char} (hds : ∀ c ∈ ds, c.isDigit = true) {c : Char}
    (hc : c.isDigit = false) (rest : List Char) : ds ≠ c :: rest := by
  rintro rfl
  rw [hds c List.mem_cons_self] at hc
  cases hc

section Signed

variable {below above : Nat} {s : String} {digits : List Char}

theorem readSigned_plus (hs : s.toList = '+' :: digits) (hne : digits ≠ []) :
    readSigned below above s =
      (readMagnitude above .tooLarge 0 digits).map fun n : Nat => (n : Int) := by
  rw [readSigned, hs]
  cases digits with
  | nil => exact absurd rfl hne
  | cons d ds => rfl

theorem readSigned_minus (hs : s.toList = '-' :: digits) (hne : digits ≠ []) :
    readSigned below above s =
      (readMagnitude below .tooSmall 0 digits).map fun n : Nat => -(n : Int) := by
  rw [readSigned, hs]
  cases digits with
  | nil => exact absurd rfl hne
  | cons d ds =>
    show Except.map _ (_ >>= _) = _
    cases readMagnitude below .tooSmall 0 (d :: ds) <;> rfl

theorem readSigned_unsigned (hne : s.toList ≠ []) (hplus : ∀ ds, s.toList ≠ '+' :: ds)
    (hminus : ∀ ds, s.toList ≠ '-' :: ds) :
    readSigned below above s =
      (readMagnitude above .tooLarge 0 s.toList).map fun n : Nat => (n : Int) := by
  rw [readSigned]
  split
  · rename_i hs
    exact absurd hs hne
  · rename_i hs
    exact absurd hs (hplus _)
  · rename_i hs
    exact absurd hs (hminus _)
  · rename_i hs
    exact absurd hs (hplus _)
  · rename_i hs
    exact absurd hs (hminus _)
  · rfl

/-- A sign alone is no number. -/
theorem readSigned_sign {c : Char} (hs : s.toList = [c]) (hc : c = '+' ∨ c = '-') :
    readSigned below above s = .error .invalidDigit := by
  rw [readSigned, hs]
  rcases hc with rfl | rfl <;> rfl

/-- What is read is spelled by the text and is within the bounds. -/
theorem spellsInteger_of_readSigned {n : Int} (h : readSigned below above s = .ok n) :
    SpellsInteger s.toList n ∧ -(below : Int) ≤ n ∧ n ≤ above := by
  have hread {bound : Nat} {beyond : IntegerFault} {ds : List Char} {m : Nat}
      (hm : readMagnitude bound beyond 0 ds = .ok m) :
      (∀ c ∈ ds, c.isDigit = true) ∧ digitsValue ds = m ∧ m ≤ bound :=
    (readMagnitude_eq_ok_iff (Nat.zero_le _)).mp hm
  cases hs : s.toList with
  | nil =>
    rw [readSigned, hs] at h
    cases h
  | cons c ds =>
    by_cases hsign : (c = '+' ∨ c = '-') ∧ ds = []
    · rw [readSigned_sign (hsign.2 ▸ hs) hsign.1] at h
      cases h
    · by_cases hplus : c = '+'
      · have hne : ds ≠ [] := fun hnil => hsign ⟨.inl hplus, hnil⟩
        rw [readSigned_plus (hplus ▸ hs) hne] at h
        obtain ⟨m, hm, rfl⟩ := map_eq_ok_iff.mp h
        obtain ⟨hdigits, rfl, hle⟩ := hread hm
        exact ⟨hplus ▸ .plus hne hdigits, by omega, Int.ofNat_le.mpr hle⟩
      · by_cases hminus : c = '-'
        · have hne : ds ≠ [] := fun hnil => hsign ⟨.inr hminus, hnil⟩
          rw [readSigned_minus (hminus ▸ hs) hne] at h
          obtain ⟨m, hm, rfl⟩ := map_eq_ok_iff.mp h
          obtain ⟨hdigits, rfl, hle⟩ := hread hm
          exact ⟨hminus ▸ .minus hne hdigits, by omega, by omega⟩
        · have hne : s.toList ≠ [] := hs ▸ List.cons_ne_nil c ds
          have hfirst {sign : Char} (hc : c ≠ sign) (rest : List Char) :
              s.toList ≠ sign :: rest := by
            rw [hs]
            exact fun heq => hc (List.cons.inj heq).1
          rw [readSigned_unsigned hne (hfirst hplus) (hfirst hminus)] at h
          obtain ⟨m, hm, rfl⟩ := map_eq_ok_iff.mp h
          obtain ⟨hdigits, rfl, hle⟩ := hread hm
          exact ⟨hs ▸ .unsigned hne hdigits, by omega, Int.ofNat_le.mpr hle⟩

/-- What a text spells is read if it is within the bounds. -/
theorem readSigned_of_spellsInteger {n : Int} (h : SpellsInteger s.toList n)
    (hlow : -(below : Int) ≤ n) (hhigh : n ≤ above) : readSigned below above s = .ok n := by
  have hread {bound : Nat} {beyond : IntegerFault} {ds : List Char}
      (hds : ∀ c ∈ ds, c.isDigit = true) (hle : digitsValue ds ≤ bound) :
      readMagnitude bound beyond 0 ds = .ok (digitsValue ds) :=
    readMagnitude_of_le hds hle
  generalize hs : s.toList = cs at h
  cases h with
  | unsigned hne hds =>
    subst hs
    rw [readSigned_unsigned hne (ne_cons_of_isDigit hds rfl) (ne_cons_of_isDigit hds rfl),
      hread hds (by omega)]
    rfl
  | plus hne hds =>
    rw [readSigned_plus hs hne, hread hds (by omega)]
    rfl
  | minus hne hds =>
    rw [readSigned_minus hs hne, hread hds (by omega)]
    rfl

end Signed

/-- **A text is read as an integer of 64 bits just if it spells that integer.** -/
theorem readInt64_eq_ok_iff {s : String} {n : Int64} :
    readInt64 s = .ok n ↔ SpellsInteger s.toList n.toInt := by
  have hmin : (minInt64.natAbs : Int) = 0x8000000000000000 := rfl
  have hmax : (maxInt64.natAbs : Int) = 0x7fffffffffffffff := rfl
  rw [readInt64, map_eq_ok_iff]
  constructor
  · rintro ⟨m, hm, rfl⟩
    obtain ⟨hspells, hlow, hhigh⟩ := spellsInteger_of_readSigned hm
    rwa [Int64.toInt_ofInt_of_le (by omega) (by omega)]
  · intro hspells
    have hlow := n.le_toInt
    have hhigh := n.toInt_lt
    exact ⟨n.toInt, readSigned_of_spellsInteger hspells (by omega) (by omega), n.ofInt_toInt⟩

/-- The written form of an integer spells it. -/
theorem spellsInteger_intDigits (n : Int) : SpellsInteger (intDigits n) n := by
  have hne : natDigits n.natAbs ≠ [] := Nat.toDigits_ne_nil
  have hdigits : ∀ c ∈ natDigits n.natAbs, c.isDigit = true := fun _ hc =>
    isDigit_of_mem_natDigits hc
  have hvalue : digitsValue (natDigits n.natAbs) = n.natAbs := digitsValue_natDigits _
  rw [intDigits]
  split
  · have hspells := SpellsInteger.minus hne hdigits
    have hn : -(n.natAbs : Int) = n := by omega
    rwa [hvalue, hn] at hspells
  · have hspells := SpellsInteger.unsigned hne hdigits
    have hn : (n.natAbs : Int) = n := by omega
    rwa [hvalue, hn] at hspells

end RelationalCatalog
