import RelationalCatalog.Text.Invisible

/-!
# Texts as messages show them

A message shows a text between double quotes. Quotes, backslashes and the common controls have
short escapes; all other characters without a shape of their own are shown by their number.
-/

namespace RelationalCatalog

/-- The hexadecimal number of a character between braces. -/
def numberedChar (c : Char) : List Char :=
  '\\' :: 'u' :: '\x7b' :: (Nat.toDigits 16 c.toNat ++ ['\x7d'])

/-- A character as it is shown between quotes. -/
def shownChar (c : Char) : List Char :=
  if c = '\x00' then ['\\', '0']
  else if c = '\t' then ['\\', 't']
  else if c = '\x0d' then ['\\', 'r']
  else if c = '\n' then ['\\', 'n']
  else if c = '\\' ∨ c = '"' then ['\\', c]
  else if c < ' ' ∨ c = '\x7f' then numberedChar c
  else if c.toNat < 127 then [c]
  else if isInvisible c then numberedChar c
  else [c]

/-- A text between quotes, as a message shows it. -/
def shown (s : String) : String :=
  String.ofList ('"' :: (s.toList.flatMap shownChar ++ ['"']))

end RelationalCatalog
