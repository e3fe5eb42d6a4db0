import RelationalCatalog.Rest.Handler

/-!
# The server's routes

The server answers the routes of the catalog and one of its own, by which others can see that it
is up. Every response carries the identifier of its request, also if the path is not known: the
one that the sender gave, or else one that the server makes.
-/

namespace RelationalCatalog

/-- The path by which the server shows that it is up. -/
def healthPath : List Char := "/health".toList

/-- The response of a server that is up. -/
def healthy : Http.Response := .ofBody 200 "text/plain; charset=utf-8" "ok"

/-- The identifier that the response to a request carries. -/
def Http.Request.answerId (r : Http.Request) : Http.RequestId :=
  match r.requestId with
  | some id => .given id
  | none => .generated

/-- The response of the server to a request. -/
def Catalog.serve (c : Catalog) (r : Http.Request) : Http.Response :=
  let response := if r.path = healthPath then r.answer healthy else c.handle r
  { response with requestId := some r.answerId }

end RelationalCatalog
