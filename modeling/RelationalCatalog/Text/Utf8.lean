/-!
# UTF-8

Characters and their bytes. The first byte of a character says how many follow and in which
range the second one lies; all further ones lie from `0x80` to `0xbf`. Bytes that cannot be a
character are taken in runs: as many as can begin one, and at least one.
-/

namespace RelationalCatalog

/-- The number of bytes of characters. -/
def utf8Length : List Char → Nat
  | [] => 0
  | c :: rest => c.utf8Size + utf8Length rest

/-- The bytes of a character. -/
def utf8Bytes (c : Char) : List Nat :=
  let n := c.toNat
  if n < 0x80 then [n]
  else if n < 0x800 then [0xc0 + n / 0x40, 0x80 + n % 0x40]
  else if n < 0x10000 then [0xe0 + n / 0x1000, 0x80 + n / 0x40 % 0x40, 0x80 + n % 0x40]
  else [0xf0 + n / 0x40000, 0x80 + n / 0x1000 % 0x40, 0x80 + n / 0x40 % 0x40, 0x80 + n % 0x40]

/-- What a first byte says of a character. -/
structure Utf8Lead where
  /-- The bits of the first byte that belong to the code point. -/
  bits : Nat
  /-- The number of bytes that follow. -/
  following : Nat
  /-- The least second byte. -/
  low : Nat
  /-- The greatest second byte. -/
  high : Nat

/-- What a byte says as the first one of a character of several bytes. -/
def utf8Lead? (b : Nat) : Option Utf8Lead :=
  if 0xc2 ≤ b ∧ b ≤ 0xdf then some ⟨b - 0xc0, 1, 0x80, 0xbf⟩
  else if b = 0xe0 then some ⟨0, 2, 0xa0, 0xbf⟩
  else if b = 0xed then some ⟨0xd, 2, 0x80, 0x9f⟩
  else if 0xe1 ≤ b ∧ b ≤ 0xef then some ⟨b - 0xe0, 2, 0x80, 0xbf⟩
  else if b = 0xf0 then some ⟨0, 3, 0x90, 0xbf⟩
  else if 0xf1 ≤ b ∧ b ≤ 0xf3 then some ⟨b - 0xf0, 3, 0x80, 0xbf⟩
  else if b = 0xf4 then some ⟨4, 3, 0x80, 0x8f⟩
  else none

/-- Takes the bytes that follow a first one, the next of them from `low` to `high`. Without
enough of them there is no character, and those that fit are taken. -/
def utf8Follow (bits : Nat) : (following low high : Nat) → List Nat → Option Char × List Nat
  | 0, _, _, bytes => (some (Char.ofNat bits), bytes)
  | _ + 1, _, _, [] => (none, [])
  | n + 1, low, high, b :: rest =>
    if low ≤ b ∧ b ≤ high then utf8Follow (bits * 0x40 + (b - 0x80)) n 0x80 0xbf rest
    else (none, b :: rest)

/-- Takes a character behind its first byte, or a run of bytes that is none. -/
def utf8Char (b : Nat) (rest : List Nat) : Option Char × List Nat :=
  if b < 0x80 then (some (Char.ofNat b), rest)
  else
    match utf8Lead? b with
    | some lead => utf8Follow lead.bits lead.following lead.low lead.high rest
    | none => (none, rest)

theorem length_utf8Follow (bits : Nat) (n low high : Nat) (bytes : List Nat) :
    (utf8Follow bits n low high bytes).2.length ≤ bytes.length := by
  induction bytes generalizing bits n low high with
  | nil => cases n <;> simp [utf8Follow]
  | cons b rest ih =>
    cases n with
    | zero => simp [utf8Follow]
    | succ n =>
      rw [utf8Follow]
      split
      · exact Nat.le_succ_of_le (ih ..)
      · simp

theorem length_utf8Char (b : Nat) (rest : List Nat) :
    (utf8Char b rest).2.length ≤ rest.length := by
  rw [utf8Char]
  split
  · simp
  · split
    · exact length_utf8Follow ..
    · simp

/-- The characters of bytes, with `none` for each run that is no character. -/
def utf8Chars : List Nat → List (Option Char)
  | [] => []
  | b :: rest =>
    let next := utf8Char b rest
    next.1 :: utf8Chars next.2
termination_by bytes => bytes.length
decreasing_by
  exact Nat.lt_succ_of_le (length_utf8Char b rest)

/-- The text of bytes, if they are UTF-8. -/
def utf8Text? (bytes : List Nat) : Option String :=
  (utf8Chars bytes).mapM id |>.map String.ofList

/-- The text of bytes, with the replacement character for each run that is no character. -/
def utf8TextLossy (bytes : List Nat) : String :=
  String.ofList ((utf8Chars bytes).map (·.getD '\ufffd'))

end RelationalCatalog
