import RelationalCatalog.Text.Hexadecimal
import RelationalCatalog.Text.Utf8

/-!
# Percent encoding

In a path or a query, a percent sign and two hexadecimal digits stand for a byte. A percent sign
that is not followed by two of them stands for itself. In the fields of a query a plus sign
stands for a space.
-/

namespace RelationalCatalog

/-- The bytes that percent-encoded characters stand for. -/
def percentBytes : List Char → List Nat
  | '%' :: a :: b :: rest =>
    match hexValue? a, hexValue? b with
    | some high, some low => (high * 16 + low) :: percentBytes rest
    | _, _ => utf8Bytes '%' ++ percentBytes (a :: b :: rest)
  | c :: rest => utf8Bytes c ++ percentBytes rest
  | [] => []

/-- The text of a part of a path, if its bytes are UTF-8. -/
def percentText? (cs : List Char) : Option String := utf8Text? (percentBytes cs)

/-- The text of a part of a query. Bytes that are not UTF-8 are replaced. -/
def formText (cs : List Char) : String :=
  utf8TextLossy (percentBytes (cs.map (fun c => if c = '+' then ' ' else c)))

/-- The characters up to the first `mark`, and those behind it if there is one. -/
def splitAtFirst (mark : Char) : List Char → List Char × Option (List Char)
  | [] => ([], none)
  | c :: rest =>
    if c = mark then ([], some rest)
    else
      let (before, behind) := splitAtFirst mark rest
      (c :: before, behind)

/-- The parts between the `mark`s, of which there is at least one. -/
def splitAll (mark : Char) : List Char → List (List Char)
  | [] => [[]]
  | c :: rest =>
    if c = mark then [] :: splitAll mark rest
    else
      match splitAll mark rest with
      | part :: parts => (c :: part) :: parts
      | [] => [[c]]

/-- The names and values of a query, in their order. Empty parts are passed over, and a part
without an equals sign is a name with an empty value. -/
def formFields (query : List Char) : List (String × String) :=
  ((splitAll '&' query).filter (fun part => !part.isEmpty)).map fun part =>
    let (name, value) := splitAtFirst '=' part
    (formText name, formText (value.getD []))

end RelationalCatalog
