import RelationalCatalog.Json.Decoding
import RelationalCatalog.Json.Reader

/-!
# Decoding values and texts

A decoder reads a value at hand or a text. In a text, what stands behind the value is looked at
only when the value itself has been decoded.
-/

namespace RelationalCatalog

/-- Decodes a value at hand. -/
def decodeValue {α : Type} (decode : Draft → Decoded α) (v : Json) : Decoded α :=
  decode v.draft

/-- Decodes a text. -/
def decodeText {α : Type} (decode : Draft → Decoded α) (s : String) : Decoded α := do
  let document := Document.ofText s
  let a ← decode document.root
  if document.trailing then .error .malformed else .ok a

end RelationalCatalog
