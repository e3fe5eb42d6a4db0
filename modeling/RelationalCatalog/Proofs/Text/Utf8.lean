import RelationalCatalog.Text.Utf8

/-!
# Bytes of characters are read back

`utf8Text?_utf8Bytes` is the round trip: the bytes of a text are UTF-8, and they are the bytes
of that text. A character is read back from its bytes whatever follows them (`utf8Char_append`).
Its first byte tells how many follow, and the range that it sets for the second one holds
because a character of a shorter form has other bytes and because surrogates are no characters.

`textBytes_lt_iff` says that texts are ordered as their bytes are. A greater code point never has
a lesser first byte, so the first characters that differ decide in either order.
-/

namespace RelationalCatalog

/-- A character has at least one byte. -/
theorem length_le_utf8Length (cs : List Char) : cs.length ≤ utf8Length cs := by
  induction cs with
  | nil => exact Nat.le_refl _
  | cons c cs ih =>
    have hpos := c.utf8Size_pos
    rw [utf8Length, List.length_cons]
    omega

/-- A code point is no surrogate. -/
theorem toNat_not_surrogate (c : Char) :
    c.toNat < 0xd800 ∨ 0xdfff < c.toNat ∧ c.toNat < 0x110000 := c.valid

/-- The bytes of a character by the size of its code point. -/
theorem utf8Bytes_cases (c : Char) :
    (c.toNat < 0x80 ∧ utf8Bytes c = [c.toNat]) ∨
    (0x80 ≤ c.toNat ∧ c.toNat < 0x800 ∧
      utf8Bytes c = [0xc0 + c.toNat / 0x40, 0x80 + c.toNat % 0x40]) ∨
    (0x800 ≤ c.toNat ∧ c.toNat < 0x10000 ∧
      utf8Bytes c = [0xe0 + c.toNat / 0x1000, 0x80 + c.toNat / 0x40 % 0x40,
        0x80 + c.toNat % 0x40]) ∨
    (0x10000 ≤ c.toNat ∧
      utf8Bytes c = [0xf0 + c.toNat / 0x40000, 0x80 + c.toNat / 0x1000 % 0x40,
        0x80 + c.toNat / 0x40 % 0x40, 0x80 + c.toNat % 0x40]) := by
  rw [utf8Bytes]
  by_cases h1 : c.toNat < 0x80
  · exact .inl ⟨h1, if_pos h1⟩
  · by_cases h2 : c.toNat < 0x800
    · exact .inr (.inl ⟨Nat.le_of_not_lt h1, h2, by simp only [if_neg h1, if_pos h2]⟩)
    · by_cases h3 : c.toNat < 0x10000
      · exact .inr (.inr (.inl ⟨Nat.le_of_not_lt h2, h3,
          by simp only [if_neg h1, if_neg h2, if_pos h3]⟩))
      · exact .inr (.inr (.inr ⟨Nat.le_of_not_lt h3,
          by simp only [if_neg h1, if_neg h2, if_neg h3]⟩))

/-- A byte is below 256. -/
theorem lt_of_mem_utf8Bytes {c : Char} {b : Nat} (h : b ∈ utf8Bytes c) : b < 256 := by
  have hvalid := toNat_not_surrogate c
  rcases utf8Bytes_cases c with ⟨hc, hcs⟩ | ⟨hc, hc', hcs⟩ | ⟨hc, hc', hcs⟩ | ⟨hc, hcs⟩ <;>
    rw [hcs] at h <;>
    simp only [List.mem_cons, List.not_mem_nil, or_false] at h <;>
    omega

/-- The first of three bytes, and what it allows as the second. -/
theorem utf8Lead?_three (b second : Nat) (hlow : 0xe0 ≤ b) (hhigh : b ≤ 0xef)
    (hsecond : 0x80 ≤ second ∧ second ≤ 0xbf) (hshort : b = 0xe0 → 0xa0 ≤ second)
    (hsurrogate : b = 0xed → second ≤ 0x9f) :
    ∃ low high, utf8Lead? b = some ⟨b - 0xe0, 2, low, high⟩ ∧ low ≤ second ∧ second ≤ high := by
  rw [utf8Lead?, if_neg (by omega)]
  by_cases h0 : b = 0xe0
  · subst h0
    exact ⟨0xa0, 0xbf, rfl, hshort rfl, hsecond.2⟩
  · by_cases hd : b = 0xed
    · subst hd
      exact ⟨0x80, 0x9f, rfl, hsecond.1, hsurrogate rfl⟩
    · rw [if_neg h0, if_neg hd, if_pos (by omega)]
      exact ⟨0x80, 0xbf, rfl, hsecond⟩

/-- The first of four bytes, and what it allows as the second. -/
theorem utf8Lead?_four (b second : Nat) (hlow : 0xf0 ≤ b) (hhigh : b ≤ 0xf4)
    (hsecond : 0x80 ≤ second ∧ second ≤ 0xbf) (hshort : b = 0xf0 → 0x90 ≤ second)
    (hlast : b = 0xf4 → second ≤ 0x8f) :
    ∃ low high, utf8Lead? b = some ⟨b - 0xf0, 3, low, high⟩ ∧ low ≤ second ∧ second ≤ high := by
  rw [utf8Lead?, if_neg (by omega), if_neg (by omega), if_neg (by omega), if_neg (by omega)]
  by_cases h0 : b = 0xf0
  · subst h0
    exact ⟨0x90, 0xbf, rfl, hshort rfl, hsecond.2⟩
  · by_cases h4 : b = 0xf4
    · subst h4
      exact ⟨0x80, 0x8f, rfl, hsecond.1, hlast rfl⟩
    · rw [if_neg h0, if_pos (by omega)]
      exact ⟨0x80, 0xbf, rfl, hsecond⟩

/-- A character is read back from its bytes, whatever follows them. -/
theorem utf8Char_append (c : Char) (rest : List Nat) :
    ∃ b bs, utf8Bytes c = b :: bs ∧ utf8Char b (bs ++ rest) = (some c, rest) := by
  have hvalid := toNat_not_surrogate c
  have hback : Char.ofNat c.toNat = c := Char.ofNat_toNat c
  have hcases := utf8Bytes_cases c
  generalize c.toNat = n at hvalid hback hcases
  -- For each number of bytes, the first one is no shorter form's, and the bits of all of them make
  -- up the code point again.
  rcases hcases with ⟨h, hbytes⟩ | ⟨h, h', hbytes⟩ | ⟨h, h', hbytes⟩ | ⟨h, hbytes⟩
  · refine ⟨_, _, hbytes, ?_⟩
    rw [utf8Char, if_pos h, hback]
    rfl
  · refine ⟨_, _, hbytes, ?_⟩
    have hlead : utf8Lead? (0xc0 + n / 0x40) =
        some ⟨0xc0 + n / 0x40 - 0xc0, 1, 0x80, 0xbf⟩ := by
      rw [utf8Lead?, if_pos (by omega)]
    have hsum : (0xc0 + n / 0x40 - 0xc0) * 0x40 + (0x80 + n % 0x40 - 0x80) = n := by omega
    rw [utf8Char, if_neg (by omega), hlead]
    simp only [List.cons_append, List.nil_append]
    rw [utf8Follow, if_pos (by omega), utf8Follow, hsum, hback]
  · refine ⟨_, _, hbytes, ?_⟩
    obtain ⟨low, high, hlead, hlow, hhigh⟩ :=
      utf8Lead?_three (0xe0 + n / 0x1000) (0x80 + n / 0x40 % 0x40) (by omega) (by omega)
        (by omega) (by omega) (by omega)
    have hsum : ((0xe0 + n / 0x1000 - 0xe0) * 0x40 + (0x80 + n / 0x40 % 0x40 - 0x80)) * 0x40 +
        (0x80 + n % 0x40 - 0x80) = n := by omega
    rw [utf8Char, if_neg (by omega), hlead]
    simp only [List.cons_append, List.nil_append]
    rw [utf8Follow, if_pos ⟨hlow, hhigh⟩, utf8Follow, if_pos (by omega), utf8Follow, hsum,
      hback]
  · refine ⟨_, _, hbytes, ?_⟩
    obtain ⟨low, high, hlead, hlow, hhigh⟩ :=
      utf8Lead?_four (0xf0 + n / 0x40000) (0x80 + n / 0x1000 % 0x40) (by omega) (by omega)
        (by omega) (by omega) (by omega)
    have hsum : (((0xf0 + n / 0x40000 - 0xf0) * 0x40 + (0x80 + n / 0x1000 % 0x40 - 0x80)) * 0x40
        + (0x80 + n / 0x40 % 0x40 - 0x80)) * 0x40 + (0x80 + n % 0x40 - 0x80) = n := by omega
    rw [utf8Char, if_neg (by omega), hlead]
    simp only [List.cons_append, List.nil_append]
    rw [utf8Follow, if_pos ⟨hlow, hhigh⟩, utf8Follow, if_pos (by omega), utf8Follow,
      if_pos (by omega), utf8Follow, hsum, hback]

/-- The characters of a text are read back from its bytes. -/
theorem utf8Chars_flatMap_utf8Bytes (cs : List Char) :
    utf8Chars (cs.flatMap utf8Bytes) = cs.map some := by
  induction cs with
  | nil => rw [List.flatMap_nil, utf8Chars]; rfl
  | cons c cs ih =>
    obtain ⟨b, bs, hbytes, hchar⟩ := utf8Char_append c (cs.flatMap utf8Bytes)
    rw [List.flatMap_cons, hbytes, List.cons_append, utf8Chars]
    simp only [hchar, ih, List.map_cons]

/-- **The bytes of a text are read back as that text.** -/
theorem utf8Text?_utf8Bytes (s : String) : utf8Text? (s.toList.flatMap utf8Bytes) = some s := by
  have hmapM (cs : List Char) : (cs.map some).mapM id = some cs := by
    induction cs with
    | nil => rfl
    | cons c cs ih => rw [List.map_cons, List.mapM_cons, ih]; rfl
  rw [utf8Text?, utf8Chars_flatMap_utf8Bytes, hmapM, Option.map_some, String.ofList_toList]

/-- The bytes of a text are also read back by the reader that replaces what is not UTF-8. -/
theorem utf8TextLossy_utf8Bytes (cs : List Char) :
    utf8TextLossy (cs.flatMap utf8Bytes) = String.ofList cs := by
  rw [utf8TextLossy, utf8Chars_flatMap_utf8Bytes, List.map_map]
  exact congrArg String.ofList (List.map_id' cs)

/-! ## The order of bytes -/

/-- The bytes of a lesser character come before those of a greater one, whatever follows. -/
theorem utf8Bytes_append_lt {c d : Char} (h : c < d) (xs ys : List Nat) :
    utf8Bytes c ++ xs < utf8Bytes d ++ ys := by
  have hlt : c.toNat < d.toNat := UInt32.lt_iff_toNat_lt.mp h
  -- Of two characters of equally many bytes, the first bytes that differ decide.
  rcases utf8Bytes_cases c with ⟨hc, hcs⟩ | ⟨hc, hc', hcs⟩ | ⟨hc, hc', hcs⟩ | ⟨hc, hcs⟩ <;>
    rcases utf8Bytes_cases d with ⟨hd, hds⟩ | ⟨hd, hd', hds⟩ | ⟨hd, hd', hds⟩ | ⟨hd, hds⟩ <;>
    rw [hcs, hds] <;>
    simp only [List.cons_append, List.nil_append, List.cons_lt_cons_iff] <;>
    omega

/-- The bytes of a text. -/
def textBytes (s : String) : List Nat := s.toList.flatMap utf8Bytes

theorem flatMap_utf8Bytes_lt {cs ds : List Char} (h : cs < ds) :
    cs.flatMap utf8Bytes < ds.flatMap utf8Bytes := by
  induction h with
  | @nil d ds =>
    obtain ⟨b, bs, hbytes, -⟩ := utf8Char_append d []
    rw [List.flatMap_cons, hbytes]
    exact .nil
  | rel hlt => exact utf8Bytes_append_lt hlt _ _
  | cons _ ih => exact List.append_left_lt ih

/-- **Texts are ordered as their bytes are.** -/
theorem textBytes_lt_iff {a b : String} : textBytes a < textBytes b ↔ a < b := by
  refine ⟨fun h => ?_, fun h => flatMap_utf8Bytes_lt (String.lt_iff.mp h)⟩
  by_cases hlt : a < b
  · exact hlt
  · by_cases heq : a = b
    · subst heq
      exact absurd h (List.lt_irrefl _)
    · have hgt : b < a := Std.lt_of_le_of_ne (String.not_lt.mp hlt) (Ne.symm heq)
      exact absurd h (List.lt_asymm (flatMap_utf8Bytes_lt (String.lt_iff.mp hgt)))

end RelationalCatalog
