import RelationalCatalog.Number.Integer

/-!
# Errors of the catalog

What can go wrong has a cause (`ServiceError`), and every cause is of one of three kinds. The
kind is what callers are told: it fixes the class name, the status and the advice of the answer.
A `ClientError` is what is left of an error outside the catalog, its kind and its message.
-/

namespace RelationalCatalog

/-- The kinds of failure that callers can tell apart. -/
inductive FailureKind
  /-- An entity or a request is unfit. -/
  | invalidEntity
  /-- The repository does not have the entity or cannot be reached. -/
  | repositoryAccess
  /-- The caller may not do this. -/
  | unauthorized
deriving DecidableEq

/-- The class name that stands for a kind in answers. -/
def FailureKind.className : FailureKind → String
  | .invalidEntity => "InvalidEntityError"
  | .repositoryAccess => "RepositoryAccessError"
  | .unauthorized => "UnauthorizedError"

/-- Errors of a repository. -/
inductive RepositoryError
  /-- There is no entity of that identifier. -/
  | notFound (guid : String)
  /-- The repository cannot answer. -/
  | unavailable (reason : String)
deriving DecidableEq

/-- The wording of a repository's error. -/
def RepositoryError.message : RepositoryError → String
  | .notFound guid => s!"Entity not found: {guid}"
  | .unavailable reason => s!"Repository unavailable: {reason}"

/-- Errors of the catalog's service. -/
inductive ServiceError
  /-- An entity is of a type that is not wanted. -/
  | typeMismatch (guid expected actual : String)
  /-- An entity has no value for an attribute that it needs. -/
  | missingAttribute (guid name : String)
  /-- The value of an attribute is not of its kind. -/
  | invalidAttribute (guid name reason : String)
  /-- A page that is not served. -/
  | invalidPaging (reason : String)
  /-- A path whose parts cannot be read. -/
  | invalidPath (reason : String)
  /-- An error of the repository. -/
  | repository (error : RepositoryError)
  /-- A user who may not call an action. -/
  | unauthorized (user action : String)
deriving DecidableEq

namespace ServiceError

/-- The wording of an error. -/
def message : ServiceError → String
  | .typeMismatch guid expected actual =>
    s!"entity {guid} of type '{actual}' cannot be converted to '{expected}'"
  | .missingAttribute guid name =>
    s!"entity {guid} is missing required attribute '{name}'"
  | .invalidAttribute guid name reason =>
    s!"entity {guid} has an invalid '{name}' attribute: {reason}"
  | .invalidPaging reason => s!"invalid paging request: {reason}"
  | .invalidPath reason => s!"invalid request path: {reason}"
  | .repository error => error.message
  | .unauthorized user action => s!"user '{user}' is not authorized to call {action}"

/-- The kind of an error. -/
def kind : ServiceError → FailureKind
  | .typeMismatch .. => .invalidEntity
  | .missingAttribute .. => .invalidEntity
  | .invalidAttribute .. => .invalidEntity
  | .invalidPaging _ => .invalidEntity
  | .invalidPath _ => .invalidEntity
  | .repository _ => .repositoryAccess
  | .unauthorized .. => .unauthorized

end ServiceError

/-- An error as clients see it. -/
structure ClientError where
  /-- The kind of failure. -/
  kind : FailureKind
  /-- What went wrong. -/
  message : String
deriving DecidableEq

/-- The error that a client sees. -/
def ServiceError.toClient (e : ServiceError) : ClientError := ⟨e.kind, e.message⟩

/-- A repository's error as a client sees it. -/
def RepositoryError.toClient (e : RepositoryError) : ClientError :=
  ⟨.repositoryAccess, e.message⟩

/-- The words that stand before the message of an error of a kind. -/
def FailureKind.heading : FailureKind → String
  | .invalidEntity => "Invalid entity"
  | .repositoryAccess => "Repository access failed"
  | .unauthorized => "Unauthorized"

/-- The error in one line. -/
def ClientError.display (e : ClientError) : String := s!"{e.kind.heading}: {e.message}"

/-- What went wrong, with the circumstances in front, the outermost first. -/
structure Report where
  /-- The circumstances and, last, the cause. -/
  chain : List String
deriving DecidableEq

/-- The report of a cause. -/
def Report.ofCause (cause : String) : Report := ⟨[cause]⟩

/-- The report within a circumstance. -/
def Report.within (context : String) (r : Report) : Report := ⟨context :: r.chain⟩

/-- The report in one line. -/
def Report.line (r : Report) : String := ": ".intercalate r.chain

/-- The text of a report: what went wrong and, on lines of their own, its causes. -/
def Report.text (r : Report) : String :=
  match r.chain with
  | [] => "Error:"
  | [what] => "Error: " ++ what
  | [what, cause] => "Error: " ++ what ++ "\n\nCaused by:\n    " ++ cause.replace "\n" "\n    "
  | what :: causes =>
    let numbered := causes.zipIdx.map fun (cause, i) =>
      let number := intText i
      "\n" ++ String.ofList (List.replicate (5 - number.length) ' ') ++ number ++ ": "
        ++ cause.replace "\n" "\n       "
    "Error: " ++ what ++ "\n\nCaused by:" ++ String.join numbered

end RelationalCatalog
