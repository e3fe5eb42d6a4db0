import Mathlib.Algebra.Group.Nat.Defs
import Mathlib.Data.List.TakeWhile
import RelationalCatalog.Number.Integer

/-!
# Runs of decimal digits

The number that a run of digits spells, digit by digit from the front (`digitsValue_cons`). Runs of
one length spell different numbers (`eq_of_digitsValue_eq`), and the number of a run that is cut off
behind some digits is the quotient by the power of ten for the others (`digitsValue_take`).

Readers take the longest run in front of a text, so they depend on what follows it. A run of a class
of characters is all that is taken if no character of the class follows (`takeWhile_run`,
`dropWhile_run`). `Spells` is what a reader of numbers takes; among the runs that spell a number, only
its own digits have no leading zero (`natDigits_digitsValue`).
-/

namespace RelationalCatalog

/-! ## Runs in front of a text -/

section Run

variable {p : Char → Bool} {run rest : List Char}

/-- A text does not begin with a character of a class. -/
def Leaves (p : Char → Bool) (rest : List Char) : Prop := ∀ c ∈ rest.head?, p c = false

theorem leaves_nil : Leaves p [] := nofun

theorem leaves_cons {c : Char} (h : p c = false) (rest : List Char) : Leaves p (c :: rest) := by
  intro d hd
  obtain rfl := Option.some.inj hd
  exact h

theorem takeWhile_run (hrun : ∀ c ∈ run, p c = true) (hrest : Leaves p rest) :
    (run ++ rest).takeWhile p = run := by
  rw [List.takeWhile_append_of_pos hrun]
  cases rest with
  | nil => exact List.append_nil run
  | cons c cs => simp [hrest c rfl]

theorem dropWhile_run (hrun : ∀ c ∈ run, p c = true) (hrest : Leaves p rest) :
    (run ++ rest).dropWhile p = rest := by
  rw [List.dropWhile_append_of_pos hrun]
  cases rest with
  | nil => rfl
  | cons c cs => simp [hrest c rfl]

theorem forall_mem_takeWhile (cs : List Char) : ∀ c ∈ cs.takeWhile p, p c = true :=
  fun _ hc => List.mem_takeWhile_imp hc

theorem leaves_dropWhile (cs : List Char) : Leaves p (cs.dropWhile p) := by
  intro c hc
  have hnot := List.head?_dropWhile_not p cs
  rw [Option.mem_def.mp hc] at hnot
  exact hnot

end Run

/-! ## Digits -/

/-- A digit is a number below ten. -/
theorem digitValue_lt {c : Char} (h : c.isDigit = true) : digitValue c < 10 := by
  have hbounds := Char.isDigit_iff_toNat.mp h
  have hzero : '0'.toNat = 48 := rfl
  have hnine : '9'.toNat = 57 := rfl
  rw [digitValue]
  omega

/-- Digits of one number are the same. -/
theorem eq_of_digitValue_eq {c d : Char} (hc : c.isDigit = true) (hd : d.isDigit = true)
    (h : digitValue c = digitValue d) : c = d := by
  have hboundsc := Char.isDigit_iff_toNat.mp hc
  have hboundsd := Char.isDigit_iff_toNat.mp hd
  have hzero : '0'.toNat = 48 := rfl
  rw [digitValue, digitValue] at h
  exact Char.toNat_inj.mp (by omega)

/-- The first digit counts for the power of ten of the digits behind it. -/
theorem digitsValue_cons (c : Char) (ds : List Char) :
    digitsValue (c :: ds) = digitValue c * 10 ^ ds.length + digitsValue ds := by
  rw [digitsValue, Nat.ofDigitChars_cons, Nat.ofDigitChars_eq_ofDigitChars_zero, Nat.mul_zero,
    Nat.zero_add, Nat.mul_comm]
  rfl

/-- A run in front of another one counts for the power of ten of that one. -/
theorem digitsValue_append (ds es : List Char) :
    digitsValue (ds ++ es) = digitsValue ds * 10 ^ es.length + digitsValue es := by
  rw [digitsValue, Nat.ofDigitChars_append, Nat.ofDigitChars_eq_ofDigitChars_zero, Nat.mul_comm]
  rfl

/-- A run of digits is a number below the power of ten of its length. -/
theorem digitsValue_lt {ds : List Char} (h : ∀ c ∈ ds, c.isDigit = true) :
    digitsValue ds < 10 ^ ds.length := by
  induction ds with
  | nil => exact Nat.one_pos
  | cons c ds ih =>
    obtain ⟨hc, hds⟩ := List.forall_mem_cons.mp h
    have hlt := ih hds
    have hle : digitValue c * 10 ^ ds.length ≤ 9 * 10 ^ ds.length :=
      Nat.mul_le_mul_right _ (Nat.le_of_lt_succ (digitValue_lt hc))
    rw [digitsValue_cons, List.length_cons, Nat.pow_succ]
    omega

/-- Runs of one length that spell one number are the same. -/
theorem eq_of_digitsValue_eq {ds es : List Char} (hds : ∀ c ∈ ds, c.isDigit = true)
    (hes : ∀ c ∈ es, c.isDigit = true) (hlength : ds.length = es.length)
    (h : digitsValue ds = digitsValue es) : ds = es := by
  induction ds generalizing es with
  | nil => exact (List.length_eq_zero_iff.mp hlength.symm).symm
  | cons c ds ih =>
    cases es with
    | nil => cases hlength
    | cons d es =>
      obtain ⟨hc, hds⟩ := List.forall_mem_cons.mp hds
      obtain ⟨hd, hes⟩ := List.forall_mem_cons.mp hes
      have hlength' : ds.length = es.length := Nat.succ.inj hlength
      have hlt := digitsValue_lt hds
      have hlt' := digitsValue_lt hes
      rw [digitsValue_cons, digitsValue_cons, ← hlength'] at h
      rw [← hlength'] at hlt'
      -- The first digits are the quotients, and the others are the remainders.
      have hquotient {m v : Nat} (hv : v < 10 ^ ds.length) :
          (m * 10 ^ ds.length + v) / 10 ^ ds.length = m := by
        rw [Nat.mul_comm, Nat.mul_add_div (Nat.pow_pos (by decide)), Nat.div_eq_of_lt hv,
          Nat.add_zero]
      have hfirst : digitValue c = digitValue d := by
        calc
          digitValue c = (digitValue c * 10 ^ ds.length + digitsValue ds) / 10 ^ ds.length :=
            (hquotient hlt).symm
          _ = digitValue d := by rw [h, hquotient hlt']
      rw [hfirst] at h
      rw [eq_of_digitValue_eq hc hd hfirst, ih hds hes hlength' (Nat.add_left_cancel h)]

/-- Cutting digits off is dividing by the power of ten for them. -/
theorem digitsValue_take {ds : List Char} (hds : ∀ c ∈ ds, c.isDigit = true) (count : Nat) :
    digitsValue (ds.take count) = digitsValue ds / 10 ^ (ds.length - count) := by
  have hlt : digitsValue (ds.drop count) < 10 ^ (ds.length - count) := by
    rw [← List.length_drop]
    exact digitsValue_lt fun c hc => hds c (List.mem_of_mem_drop hc)
  have hsplit := digitsValue_append (ds.take count) (ds.drop count)
  rw [List.take_append_drop, List.length_drop] at hsplit
  rw [hsplit, Nat.mul_comm, Nat.mul_add_div (Nat.pow_pos (by decide)), Nat.div_eq_of_lt hlt,
    Nat.add_zero]

/-- A run of digits that spells a number, with leading zeros or without. -/
structure Spells (ds : List Char) (n : Nat) : Prop where
  /-- there is a digit -/
  ne_nil : ds ≠ []
  /-- there are only digits -/
  isDigit : ∀ c ∈ ds, c.isDigit = true
  /-- the digits spell the number -/
  value : digitsValue ds = n

/-- A number is spelled by its digits. -/
theorem spells_natDigits (n : Nat) : Spells (natDigits n) n where
  ne_nil := Nat.toDigits_ne_nil
  isDigit _ hc := Nat.isDigit_of_mem_toDigits (by decide) (by decide) hc
  value := digitsValue_natDigits n

/-- A run of digits begins with a digit. -/
theorem Spells.ne_cons {ds : List Char} {n : Nat} (h : Spells ds n) {c : Char}
    (hc : c.isDigit = false) (rest cs : List Char) : ds ++ rest ≠ c :: cs := by
  intro heq
  obtain ⟨d, ds, rfl⟩ := List.exists_cons_of_ne_nil h.ne_nil
  obtain ⟨rfl, -⟩ := List.cons.inj heq
  rw [h.isDigit d List.mem_cons_self] at hc
  cases hc

/-- Digits without a leading zero are those of the number that they spell. -/
theorem natDigits_digitsValue {c : Char} {ds : List Char} (hds : ∀ d ∈ c :: ds, d.isDigit = true)
    (hzero : c = '0' → ds = []) : natDigits (digitsValue (c :: ds)) = c :: ds := by
  have hvalue := spells_natDigits (digitsValue (c :: ds))
  have hupper : (natDigits (digitsValue (c :: ds))).length ≤ (c :: ds).length :=
    (Nat.length_toDigits_le_iff (by decide) (Nat.succ_pos _)).mpr (digitsValue_lt hds)
  have hlower : ds.length < (natDigits (digitsValue (c :: ds))).length := by
    rcases Nat.eq_zero_or_pos ds.length with hnil | hpos
    · rw [hnil]
      exact List.length_pos_iff.mpr hvalue.ne_nil
    · -- With digits behind it the first one is not zero, so the number has its place.
      have hc : '0' ≠ c := fun hc => by simp [hzero hc.symm] at hpos
      have hdigit : digitValue c ≠ 0 := fun h =>
        hc (eq_of_digitValue_eq rfl (hds c List.mem_cons_self) h.symm)
      have hle : 10 ^ ds.length ≤ digitValue c * 10 ^ ds.length :=
        Nat.le_mul_of_pos_left _ (Nat.pos_of_ne_zero hdigit)
      have hplace : ¬ digitsValue (c :: ds) < 10 ^ ds.length := by
        rw [digitsValue_cons]
        omega
      exact Nat.lt_of_not_le fun hle => hplace ((Nat.length_toDigits_le_iff (by decide) hpos).mp hle)
  refine eq_of_digitsValue_eq hvalue.isDigit hds ?_ hvalue.value
  rw [List.length_cons] at hupper ⊢
  omega

end RelationalCatalog
