import RelationalCatalog.Bean.Basic
import RelationalCatalog.Types.Assignability

/-!
# Conversion of entities

An entity converts to a bean if its type counts as the bean's type and its attributes are those
of the bean. A list of entities converts as a whole or not at all, with the first error.
-/

namespace RelationalCatalog

namespace TypeRegistry

variable {β : Type}

/-- Converts an entity to a bean. -/
def convert (r : TypeRegistry) (m : Mapping β) (e : Entity) : Except ServiceError β :=
  if r.isAssignable e.typeName m.typeName then
    match Attributes.ofEntity e m.attributes with
    | .ok attributes => .ok ((m.assemble e.header).run attributes).1
    | .error error => .error error
  else .error (.typeMismatch e.guid m.typeName e.typeName)

/-- Converts entities one after the other, up to the first error. -/
def convertAll (r : TypeRegistry) (m : Mapping β) : List Entity → Except ServiceError (List β)
  | [] => .ok []
  | e :: rest => do
    let bean ← r.convert m e
    let beans ← convertAll r m rest
    .ok (bean :: beans)

end TypeRegistry

end RelationalCatalog
