import RelationalCatalog.Rest.Failure
import RelationalCatalog.Rest.Payload

/-!
# Envelopes

Every answer is an envelope: the name of the action that it answers and either a payload or a
failure. Written, the two are members side by side. A failure has members of its own and no
payload, a payload comes with the code 200 and without any of them.

Reading takes the members of the envelope as they come and keeps the others for the payload. An
exception class name makes it a failure, whatever else there is. Without one, the others must be
a payload and the code must be 200: an envelope is never half of each.
-/

namespace RelationalCatalog

/-- What became of a request. -/
inductive Outcome (P : Type)
  /-- It was answered. -/
  | success (payload : P)
  /-- It failed. -/
  | failure (failure : Failure)
deriving DecidableEq

/-- The answer to a request. -/
structure Envelope (P : Type) where
  /-- The action that is answered. -/
  action : Option String
  /-- What became of the request. -/
  outcome : Outcome P
deriving DecidableEq

/-- The code of a success. -/
def successCode : UInt16 := 200

namespace Envelope

variable {P : Type}

/-- The envelope of a payload. -/
def success (payload : P) : Envelope P := ⟨none, .success payload⟩

/-- The envelope of a failure. -/
def failure (f : Failure) : Envelope P := ⟨none, .failure f⟩

/-- The envelope of an answer of the service. -/
def ofClient : Except ClientError P → Envelope P
  | .ok payload => success payload
  | .error error => failure error.failure

/-- The envelope with the name of its action. -/
def withAction (e : Envelope P) (action : String) : Envelope P := { e with action := some action }

/-- The code of an envelope. -/
def code (e : Envelope P) : UInt16 :=
  match e.outcome with
  | .success _ => successCode
  | .failure f => f.code

/-- Whether the request was answered. -/
def isSuccess (e : Envelope P) : Bool :=
  match e.outcome with
  | .success _ => true
  | .failure _ => false

/-- The payload of a success. -/
def payload? (e : Envelope P) : Option P :=
  match e.outcome with
  | .success payload => some payload
  | .failure _ => none

/-- The failure of a failed request. -/
def failure? (e : Envelope P) : Option Failure :=
  match e.outcome with
  | .success _ => none
  | .failure f => some f

/-- The envelope as JSON. -/
def toJson (form : PayloadForm P) (e : Envelope P) : Json :=
  .obj (optionalMember "actionDescription" Json.str e.action
    ++ ("relatedHTTPCode", .int e.code.toNat) ::
      match e.outcome with
      | .success payload => form.members payload
      | .failure f =>
        ("exceptionClassName", .str f.className)
          :: (optionalMember "exceptionErrorMessageId" Json.str f.messageId
            ++ ("exceptionErrorMessage", .str f.message)
            :: (optionalMember "exceptionSystemAction" Json.str f.systemAction
              ++ optionalMember "exceptionUserAction" Json.str f.userAction)))

/-- The written form of an envelope. -/
def render (form : PayloadForm P) (e : Envelope P) : String := (e.toJson form).render

/-- The fields of an envelope. -/
inductive Field
  | action
  | code
  | className
  | messageId
  | message
  | systemAction
  | userAction
deriving DecidableEq

/-- The form of an envelope in JSON. -/
def layout : Layout where
  title := "WireEnvelope"
  Field := Field
  fields := [.action, .code, .className, .messageId, .message, .systemAction, .userAction]
  label
    | .action => "actionDescription"
    | .code => "relatedHTTPCode"
    | .className => "exceptionClassName"
    | .messageId => "exceptionErrorMessageId"
    | .message => "exceptionErrorMessage"
    | .systemAction => "exceptionSystemAction"
    | .userAction => "exceptionUserAction"
  Value
    | .action => Option String
    | .code => UInt16
    | .className => Option String
    | .messageId => Option String
    | .message => Option String
    | .systemAction => Option String
    | .userAction => Option String
  decode
    | .action => Decode.optional Decode.text
    | .code => Decode.uint16
    | .className => Decode.optional Decode.text
    | .messageId => Decode.optional Decode.text
    | .message => Decode.optional Decode.text
    | .systemAction => Decode.optional Decode.text
    | .userAction => Decode.optional Decode.text
  absence
    | .action => .fromObject none
    | .code => .refused
    | .className => .fromObject none
    | .messageId => .fromObject none
    | .message => .fromObject none
    | .systemAction => .fromObject none
    | .userAction => .fromObject none
  unlisted := .kept
  positional := false

/-- The members of an envelope and the payload next to them, if there is one. -/
structure Parts (P : Type) where
  action : Option String
  code : UInt16
  className : Option String
  messageId : Option String
  message : Option String
  systemAction : Option String
  userAction : Option String
  payload : Option P

/-- Reads the parts of an envelope. What is no payload counts as none. -/
def Parts.decode (form : PayloadForm P) (d : Draft) : Decoded (Parts P) := do
  let r ← layout.read d
  return {
    action := ← r.take Field.action
    code := ← r.take Field.code
    className := ← r.take Field.className
    messageId := ← r.take Field.messageId
    message := ← r.take Field.message
    systemAction := ← r.take Field.systemAction
    userAction := ← r.take Field.userAction
    payload := (form.decode (Json.obj r.others).draft).toOption }

/-- Why parts are no envelope. -/
inductive Incoherence
  /-- There is a payload, but the code is that of a failure. -/
  | payloadWithCode (code : UInt16)
  /-- There is nothing. -/
  | nothing
deriving DecidableEq

/-- The wording of an incoherence. -/
def Incoherence.message : Incoherence → String
  | .payloadWithCode code => s!"relatedHTTPCode {intText code.toNat} without exceptionClassName"
  | .nothing => "envelope carries neither payload nor exception"

/-- The outcome that parts speak of. -/
def Parts.outcome (p : Parts P) : Except Incoherence (Outcome P) :=
  match p.className, p.payload with
  | some className, _ => .ok (.failure {
      code := p.code
      className := className
      messageId := p.messageId
      message := p.message.getD ""
      systemAction := p.systemAction
      userAction := p.userAction })
  | none, some payload =>
    if p.code = successCode then .ok (.success payload) else .error (.payloadWithCode p.code)
  | none, none => .error .nothing

/-- Reads an envelope. -/
def decode (form : PayloadForm P) (d : Draft) : Decoded (Envelope P) := do
  let parts ← Parts.decode form d
  match parts.outcome with
  | .ok outcome => .ok ⟨parts.action, outcome⟩
  | .error incoherence => .error (.mismatch (.refused incoherence.message))

end Envelope

end RelationalCatalog
