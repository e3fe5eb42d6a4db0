import RelationalCatalog.Error

/-!
# Failures as callers see them

Each kind of failure has a code, an identifier and two pieces of advice: what the catalog did and
what the user can do. A `Failure` is what an answer says of one failure. Answers of other
programs may leave out all but its code, class name and message.
-/

namespace RelationalCatalog

/-- What the catalog says of a kind of failure. -/
structure Advice where
  /-- The code of the answer. -/
  code : UInt16
  /-- The identifier of the message. -/
  messageId : String
  /-- What the catalog did. -/
  systemAction : String
  /-- What the user can do. -/
  userAction : String
deriving DecidableEq

/-- The advice for a kind of failure. -/
def FailureKind.advice : FailureKind → Advice
  | .invalidEntity => {
      code := 400
      messageId := "METADATA-CATALOG-400-001"
      systemAction := "The request was rejected because the entity does not match the " ++
        "requested type or carries invalid attribute values."
      userAction := "Check the GUID and type of the requested element, then correct the " ++
        "entity in the metadata repository." }
  | .unauthorized => {
      code := 403
      messageId := "METADATA-CATALOG-403-001"
      systemAction := "The request was rejected because the caller may not perform this " ++
        "operation."
      userAction := "Ask the catalog administrator for access." }
  | .repositoryAccess => {
      code := 404
      messageId := "METADATA-CATALOG-404-001"
      systemAction := "The metadata repository did not return the requested entity."
      userAction := "Check that the GUID exists and the metadata repository is reachable, " ++
        "then retry." }

/-- What an answer says of a failure. -/
structure Failure where
  /-- The code of the answer. -/
  code : UInt16
  /-- The class name of the failure. -/
  className : String
  /-- The identifier of the message. -/
  messageId : Option String
  /-- The message. -/
  message : String
  /-- What the catalog did. -/
  systemAction : Option String
  /-- What the user can do. -/
  userAction : Option String
deriving DecidableEq

/-- The failure of a kind with a message. -/
def FailureKind.failure (k : FailureKind) (message : String) : Failure where
  code := k.advice.code
  className := k.className
  messageId := some k.advice.messageId
  message := message
  systemAction := some k.advice.systemAction
  userAction := some k.advice.userAction

/-- The failure of an error. -/
def ClientError.failure (e : ClientError) : Failure := e.kind.failure e.message

end RelationalCatalog
