import RelationalCatalog.Address.Ipv4
import RelationalCatalog.Proofs.Number.Digits
import RelationalCatalog.Proofs.Number.Integer

/-!
# Which texts are addresses of four octets

A reader takes a part off the front of a text and leaves the rest. Each reader here is described by
what it takes, in both directions: a number takes the digits that spell it
(`takeNumber_eq_some_iff`), an octet takes its own digits and no others, since it has no leading
zeros (`takeOctet_eq_some_iff`), and an address takes its written form (`Ipv4.take_eq_some_iff`).
All of them end where no digit follows.
-/

namespace RelationalCatalog

variable {cs rest : List Char}

theorem decimalRun_append {digits : List Char} (hdigits : ∀ c ∈ digits, c.isDigit = true)
    (hrest : Leaves Char.isDigit rest) : decimalRun (digits ++ rest) = (digits, rest) := by
  rw [decimalRun, takeWhile_run hdigits hrest, dropWhile_run hdigits hrest]

/-- A number takes the digits that spell it, and these are all that there are. -/
theorem takeNumber_eq_some_iff {bound n : Nat} :
    takeNumber bound cs = some (n, rest) ↔
      ∃ digits, cs = digits ++ rest ∧ Spells digits n ∧ n ≤ bound ∧ Leaves Char.isDigit rest := by
  constructor
  · intro h
    by_cases hne : cs.takeWhile Char.isDigit = []
    · simp [takeNumber, decimalRun, hne] at h
    · by_cases hle : digitsValue (cs.takeWhile Char.isDigit) ≤ bound
      · simp only [takeNumber, decimalRun, List.isEmpty_iff, hne, Nat.not_lt.mpr hle, if_false,
          Option.some.injEq, Prod.mk.injEq] at h
        obtain ⟨rfl, rfl⟩ := h
        exact ⟨_, List.takeWhile_append_dropWhile.symm, ⟨hne, forall_mem_takeWhile cs, rfl⟩, hle,
          leaves_dropWhile cs⟩
      · simp [takeNumber, decimalRun, hne, Nat.lt_of_not_le hle] at h
  · rintro ⟨digits, rfl, hspells, hle, hrest⟩
    simp only [takeNumber, decimalRun_append hspells.isDigit hrest, List.isEmpty_iff,
      hspells.ne_nil, hspells.value, Nat.not_lt.mpr hle, if_false]

theorem takeMark_eq_some_iff {mark : Char} : takeMark mark cs = some rest ↔ cs = mark :: rest := by
  cases cs with
  | nil => simp [takeMark]
  | cons c cs =>
    by_cases hc : c = mark
    · simp [takeMark, hc]
    · simp [takeMark, hc]

theorem hasLeadingZero_cons_iff {c : Char} {digits : List Char} :
    hasLeadingZero (c :: digits) = false ↔ (c = '0' → digits = []) := by
  simp [hasLeadingZero]

theorem hasLeadingZero_natDigits (n : Nat) : hasLeadingZero (natDigits n) = false := by
  rcases Nat.eq_zero_or_pos n with rfl | hn
  · decide
  · obtain ⟨d, ds, hds, -, hne⟩ := natDigits_eq_cons hn
    rw [hds, hasLeadingZero_cons_iff]
    exact fun h => absurd h hne

/-- An octet takes its own digits. -/
theorem takeOctet_eq_some_iff {octet : UInt8} :
    takeOctet cs = some (octet, rest) ↔
      cs = natDigits octet.toNat ++ rest ∧ Leaves Char.isDigit rest := by
  constructor
  · intro h
    rw [takeOctet] at h
    split at h
    · cases h
    · rename_i hzero
      obtain ⟨⟨n, rest'⟩, hread, heq⟩ := Option.map_eq_some_iff.mp h
      obtain ⟨rfl, rfl⟩ := Prod.mk.inj heq
      obtain ⟨digits, rfl, hspells, hle, hrest⟩ := takeNumber_eq_some_iff.mp hread
      obtain ⟨c, digits, rfl⟩ := List.exists_cons_of_ne_nil hspells.ne_nil
      rw [decimalRun_append hspells.isDigit hrest, Bool.not_eq_true, hasLeadingZero_cons_iff]
        at hzero
      have hdigits := natDigits_digitsValue hspells.isDigit hzero
      rw [hspells.value] at hdigits
      have hn : (UInt8.ofNat n).toNat = n := UInt8.toNat_ofNat_of_lt' (Nat.lt_succ_of_le hle)
      rw [hn, hdigits]
      exact ⟨rfl, hrest⟩
  · rintro ⟨rfl, hrest⟩
    have hspells := spells_natDigits octet.toNat
    have hread : takeNumber 255 (natDigits octet.toNat ++ rest) = some (octet.toNat, rest) :=
      takeNumber_eq_some_iff.mpr
        ⟨_, rfl, hspells, Nat.le_of_lt_succ octet.toNat_lt, hrest⟩
    rw [takeOctet, decimalRun_append hspells.isDigit hrest, hasLeadingZero_natDigits, hread]
    exact congrArg (fun octet => some (octet, rest)) UInt8.ofNat_toNat

namespace Ipv4

/-- What can follow an address: no digit, which would belong to its last octet. -/
theorem leaves_point (rest : List Char) : Leaves Char.isDigit ('.' :: rest) := leaves_cons rfl rest

/-- **An address takes its written form.** -/
theorem take_eq_some_iff {ip : Ipv4} :
    take cs = some (ip, rest) ↔ cs = ip.chars ++ rest ∧ Leaves Char.isDigit rest := by
  obtain ⟨a, b, c, d⟩ := ip
  simp only [take, chars, Option.bind_eq_bind, Option.bind_eq_some_iff, Prod.exists,
    takeOctet_eq_some_iff, takeMark_eq_some_iff, Option.pure_def, Option.some.injEq,
    Prod.mk.injEq, Ipv4.mk.injEq, List.append_assoc, List.cons_append]
  constructor
  · rintro ⟨a, cs, ⟨rfl, -⟩, cs, rfl, b, cs, ⟨rfl, -⟩, cs, rfl, c, cs, ⟨rfl, -⟩, cs, rfl, d, rest,
      ⟨rfl, hrest⟩, ⟨rfl, rfl, rfl, rfl⟩, rfl⟩
    exact ⟨rfl, hrest⟩
  · rintro ⟨rfl, hrest⟩
    exact ⟨a, _, ⟨rfl, leaves_point _⟩, _, rfl, b, _, ⟨rfl, leaves_point _⟩, _, rfl, c, _,
      ⟨rfl, leaves_point _⟩, _, rfl, d, rest, ⟨rfl, hrest⟩, ⟨rfl, rfl, rfl, rfl⟩, rfl⟩

/-- A text that does not begin with a digit has no address in front. -/
theorem take_of_leaves (h : Leaves Char.isDigit cs) : take cs = none := by
  refine Option.eq_none_iff_forall_ne_some.mpr fun ⟨ip, rest⟩ htake => ?_
  obtain ⟨rfl, -⟩ := take_eq_some_iff.mp htake
  obtain ⟨d, ds, hds, hd⟩ := exists_natDigits_eq_cons ip.a.toNat
  have hnot := h d (by simp [chars, hds])
  rw [hd] at hnot
  cases hnot

end Ipv4

end RelationalCatalog
