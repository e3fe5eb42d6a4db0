import RelationalCatalog.Text.Percent

/-!
# Requests and responses

A request has a method and a target, which is a path with or without a query. A response has a
status, a body and a few headers.
-/

namespace RelationalCatalog

namespace Http

/-- A request, as far as it matters. -/
structure Request where
  /-- The method, in its own letter case. -/
  method : String
  /-- The target as it was sent. -/
  target : String
  /-- The identifier that the sender gave to the request. -/
  requestId : Option String
deriving DecidableEq

/-- Drops the characters up to and including the first occurrence of `mark`. -/
def dropThrough (mark : List Char) : List Char → Option (List Char)
  | [] => if mark.isEmpty then some [] else none
  | c :: rest =>
    if mark.isPrefixOf (c :: rest) then some ((c :: rest).drop mark.length)
    else dropThrough mark rest

/-- A target without its scheme and host, if it names them. -/
def originForm (target : List Char) : List Char :=
  if target.head? = some '/' then target
  else
    match dropThrough [':', '/', '/'] target with
    | some rest => rest.dropWhile (fun c => c != '/' && c != '?' && c != '#')
    | none => target

/-- The path and the query of a target; what follows a number sign is dropped. -/
def splitTarget (target : List Char) : List Char × Option (List Char) :=
  splitAtFirst '?' (splitAtFirst '#' (originForm target)).1

/-- The path of a request. -/
def Request.path (r : Request) : List Char := (splitTarget r.target.toList).1

/-- The query of a request, empty if there is none. -/
def Request.query (r : Request) : List Char := (splitTarget r.target.toList).2.getD []

/-- Where the identifier of a response comes from. -/
inductive RequestId
  /-- It is the one of the request. -/
  | given (id : String)
  /-- It was made for the request. -/
  | generated
deriving DecidableEq

/-- A response. -/
structure Response where
  /-- The status. -/
  status : UInt16
  /-- The type of the body. -/
  contentType : Option String
  /-- The methods that are allowed, if the one of the request is not. -/
  allow : Option String
  /-- The identifier of the request, if the server hands it on. -/
  requestId : Option RequestId
  /-- The body. -/
  body : String
deriving DecidableEq

/-- The status for a code: a code that is no status shows as a fault of the server. -/
def statusOfCode (code : UInt16) : UInt16 := if 100 ≤ code ∧ code < 1000 then code else 500

/-- A response with a body. -/
def Response.ofBody (status : UInt16) (contentType body : String) : Response :=
  ⟨status, some contentType, none, none, body⟩

/-- The response for a path that is not known. -/
def Response.notFound : Response := ⟨404, none, none, none, ""⟩

/-- The response for a method that a known path does not have. -/
def Response.methodNotAllowed : Response := ⟨405, none, some "GET,HEAD", none, ""⟩

/-- What a known path answers: what is asked for by `GET`, and by `HEAD` the same without the
body. -/
def Request.answer (r : Request) (response : Response) : Response :=
  if r.method = "GET" then response
  else if r.method = "HEAD" then { response with body := "" }
  else .methodNotAllowed

end Http

end RelationalCatalog
