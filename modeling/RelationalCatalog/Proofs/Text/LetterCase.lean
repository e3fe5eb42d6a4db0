import Mathlib.Data.List.Forall2
import RelationalCatalog.Text.LetterCase

/-!
# Texts that are equal up to letter case

`SameLetter` says when two characters count as one: they are equal, or the two cases of one of the
letters `A` to `Z`. Texts are compared character by character (`EqualUpToCase`). Folding both texts
to lower case decides it (`equalUpToCase_iff_forall₂`), and so does folding them to upper case
(`asciiUpper_eq_iff`), so texts that are the same in one way are the same in the other.
-/

namespace RelationalCatalog

/-- Two characters are equal, or the two cases of one ASCII letter. -/
def SameLetter (a b : Char) : Prop :=
  a = b ∨ ('A' ≤ a ∧ a ≤ 'Z' ∧ b.toNat = a.toNat + 32) ∨
    ('A' ≤ b ∧ b ≤ 'Z' ∧ a.toNat = b.toNat + 32)

/-- Two texts are equal, character by character, up to the case of ASCII letters. -/
def EqualUpToCase (s t : String) : Prop := List.Forall₂ SameLetter s.toList t.toList

/-! ## Characters -/

theorem toNat_toLower (c : Char) :
    c.toLower.toNat = if 65 ≤ c.toNat ∧ c.toNat ≤ 90 then c.toNat + 32 else c.toNat := by
  have hlow : 'A'.val ≤ c.val ↔ 65 ≤ c.toNat := UInt32.le_iff_toNat_le
  have hhigh : c.val ≤ 'Z'.val ↔ c.toNat ≤ 90 := UInt32.le_iff_toNat_le
  delta Char.toLower
  by_cases h : 65 ≤ c.toNat ∧ c.toNat ≤ 90
  · rw [if_pos h, dif_pos ⟨hlow.2 h.1, hhigh.2 h.2⟩]
    have hadd : (c.val + ('a'.val - 'A'.val)).toNat = (c.toNat + 32) % 4294967296 :=
      UInt32.toNat_add _ _
    exact hadd.trans (Nat.mod_eq_of_lt (by omega))
  · rw [if_neg h, dif_neg fun hc => h ⟨hlow.1 hc.1, hhigh.1 hc.2⟩]

theorem toNat_toUpper (c : Char) :
    c.toUpper.toNat = if 97 ≤ c.toNat ∧ c.toNat ≤ 122 then c.toNat - 32 else c.toNat := by
  have hlow : 'a'.val ≤ c.val ↔ 97 ≤ c.toNat := UInt32.le_iff_toNat_le
  have hhigh : c.val ≤ 'z'.val ↔ c.toNat ≤ 122 := UInt32.le_iff_toNat_le
  delta Char.toUpper
  by_cases h : 97 ≤ c.toNat ∧ c.toNat ≤ 122
  · rw [if_pos h, dif_pos ⟨hlow.2 h.1, hhigh.2 h.2⟩]
    have hadd : (c.val + ('A'.val - 'a'.val)).toNat = (c.toNat + 4294967264) % 4294967296 :=
      UInt32.toNat_add _ _
    exact hadd.trans (by omega)
  · rw [if_neg h, dif_neg fun hc => h ⟨hlow.1 hc.1, hhigh.1 hc.2⟩]

theorem sameLetter_iff {a b : Char} :
    SameLetter a b ↔ a.toNat = b.toNat ∨ (65 ≤ a.toNat ∧ a.toNat ≤ 90 ∧ b.toNat = a.toNat + 32) ∨
      (65 ≤ b.toNat ∧ b.toNat ≤ 90 ∧ a.toNat = b.toNat + 32) := by
  have hle {x y : Char} : x ≤ y ↔ x.toNat ≤ y.toNat := UInt32.le_iff_toNat_le
  rw [SameLetter, Char.toNat_inj, hle, hle, hle, hle]
  rfl

/-- Characters are the same letter just if they are in lower case. -/
theorem toLower_eq_toLower_iff {a b : Char} : a.toLower = b.toLower ↔ SameLetter a b := by
  rw [← Char.toNat_inj, toNat_toLower, toNat_toLower, sameLetter_iff]
  split <;> split <;> omega

/-- Characters are the same letter just if they are in upper case. -/
theorem toUpper_eq_toUpper_iff {a b : Char} : a.toUpper = b.toUpper ↔ SameLetter a b := by
  rw [← Char.toNat_inj, toNat_toUpper, toNat_toUpper, sameLetter_iff]
  split <;> split <;> omega

/-- A character that is not of ASCII stands for itself alone. -/
theorem SameLetter.eq_of_not_ascii {a b : Char} (h : SameLetter a b)
    (hascii : 128 ≤ a.toNat ∨ 128 ≤ b.toNat) : a = b := by
  rw [sameLetter_iff] at h
  exact Char.toNat_inj.1 (by omega)

/-! ## Texts -/

/-- Comparing in lower case decides equality up to case. -/
theorem equalUpToCase_iff_forall₂ {s t : String} :
    equalUpToCase s t = true ↔ EqualUpToCase s t := by
  rw [equalUpToCase_iff, ← List.forall₂_eq_eq_eq, List.forall₂_map_left_iff,
    List.forall₂_map_right_iff]
  simp only [toLower_eq_toLower_iff]
  rfl

/-- So does comparing in upper case. -/
theorem asciiUpper_eq_iff {s t : String} : asciiUpper s = asciiUpper t ↔ EqualUpToCase s t := by
  rw [asciiUpper, asciiUpper, String.ofList_inj, ← List.forall₂_eq_eq_eq,
    List.forall₂_map_left_iff, List.forall₂_map_right_iff]
  simp only [toUpper_eq_toUpper_iff]
  rfl

/-- Texts that are equal up to letter case differ in ASCII letters alone. -/
theorem EqualUpToCase.only_ascii {s t : String} (h : EqualUpToCase s t) :
    s.toList.length = t.toList.length ∧
      ∀ (i : Nat) (a b : Char), s.toList[i]? = some a → t.toList[i]? = some b →
        128 ≤ a.toNat ∨ 128 ≤ b.toNat → a = b := by
  refine ⟨h.length_eq, fun i a b ha hb hascii => ?_⟩
  obtain ⟨hi, rfl⟩ := List.getElem?_eq_some_iff.mp ha
  obtain ⟨hi', rfl⟩ := List.getElem?_eq_some_iff.mp hb
  exact (h.get hi hi').eq_of_not_ascii hascii

theorem EqualUpToCase.refl (s : String) : EqualUpToCase s s := asciiUpper_eq_iff.1 rfl

theorem EqualUpToCase.symm {s t : String} (h : EqualUpToCase s t) : EqualUpToCase t s :=
  asciiUpper_eq_iff.1 (asciiUpper_eq_iff.2 h).symm

theorem EqualUpToCase.trans {s t u : String} (h : EqualUpToCase s t) (h' : EqualUpToCase t u) :
    EqualUpToCase s u :=
  asciiUpper_eq_iff.1 ((asciiUpper_eq_iff.2 h).trans (asciiUpper_eq_iff.2 h'))

end RelationalCatalog
