import RelationalCatalog.Proofs.Rest.Answer

/-!
# Bodies are answers or failures

The body of a response is an object that holds either the payload of its route or all members of
an exception (`Coherent`). A request can fail for its path, its user, its query, the repository
and the entities, but all failures are enclosed in one way, by the kind of their error
(`Service.enclose_cases`), and each kind has a code of its own. `Catalog.responses_coherent` says
so of every response of a route, and that the status of the response is the code in its body or
the one of a success.
-/

namespace RelationalCatalog

/-- The names of an object's members. -/
def Json.memberNames : Json → List String
  | .obj members => members.map (·.1)
  | _ => []

/-- The names of the members of an exception. -/
def exceptionNames : List String :=
  ["exceptionClassName", "exceptionErrorMessageId", "exceptionErrorMessage",
    "exceptionSystemAction", "exceptionUserAction"]

/-- No member of a payload is named like one of a failure. -/
theorem Route.notMem_failureNames (route : Route) : ∀ name ∈ route.payloadNames,
    name ∉ "actionDescription" :: "relatedHTTPCode" :: exceptionNames := by
  cases route with
  | supportedTypes user =>
    rw [payloadNames]
    decide
  | listing k user =>
    rw [payloadNames]
    decide
  | element k user guid =>
    rw [payloadNames]
    decide

/-- A body that a route can answer with, by its code. -/
inductive Coherent (route : Route) (body : Json) : UInt16 → Prop
  /-- The body of a success has all members of the payload and none of an exception. -/
  | success (hpayload : ∀ name ∈ route.payloadNames, name ∈ body.memberNames)
    (hexception : ∀ name ∈ exceptionNames, name ∉ body.memberNames) : Coherent route body 200
  /-- The body of a failure has all members of an exception and none of the payload. Its class
  name and its message's identifier are those of the only kind of failure with its code. -/
  | failure (kind : FailureKind)
    (honly : ∀ other : FailureKind, other.advice.code = kind.advice.code → other = kind)
    (hclass : body.member? "exceptionClassName" = some (.str kind.className))
    (hid : body.member? "exceptionErrorMessageId" = some (.str kind.advice.messageId))
    (hexception : ∀ name ∈ exceptionNames, name ∈ body.memberNames)
    (hpayload : ∀ name ∈ route.payloadNames, name ∉ body.memberNames) :
    Coherent route body kind.advice.code

/-- The codes of coherent bodies. -/
theorem Coherent.mem_codes {route : Route} {body : Json} {code : UInt16}
    (h : Coherent route body code) : code ∈ [200, 400, 403, 404] := by
  cases h with
  | success => decide
  | failure kind => cases kind <;> decide

/-- The code of a failure tells its kind. -/
theorem FailureKind.eq_of_code_eq {kind other : FailureKind}
    (h : other.advice.code = kind.advice.code) : other = kind := by
  cases other <;> cases kind <;> first | rfl | exact absurd h (by decide)

/-! ## Envelopes -/

namespace Service

/-- An answer is enclosed as a payload or as a failure of one kind. -/
theorem enclose_cases {P : Type} (action : Action) (answer : Except ServiceError P) :
    (∃ payload, enclose action answer = ⟨some action.name, .success payload⟩) ∨
      ∃ (kind : FailureKind) (message : String),
        enclose action answer = ⟨some action.name, .failure (kind.failure message)⟩ := by
  cases answer with
  | ok payload => exact .inl ⟨payload, rfl⟩
  | error error => exact .inr ⟨error.kind, error.message, rfl⟩

/-- An enclosed answer is coherent if the members of its payload are those of the route. -/
theorem coherent_enclose {P : Type} {form : PayloadForm P} {route : Route}
    (hnames : ∀ payload, (form.members payload).map (·.1) = route.payloadNames) (action : Action)
    (answer : Except ServiceError P) :
    Coherent route ((enclose action answer).toJson form) (enclose action answer).code := by
  rcases enclose_cases action answer with ⟨payload, h⟩ | ⟨kind, message, h⟩
  · have hmembers : ((enclose action answer).toJson form).memberNames =
        "actionDescription" :: "relatedHTTPCode" :: route.payloadNames := by
      rw [h, ← hnames payload]
      rfl
    rw [h] at hmembers ⊢
    refine .success ?_ ?_
    · intro name hname
      rw [hmembers]
      exact List.mem_cons_of_mem _ (List.mem_cons_of_mem _ hname)
    · intro name hname hmem
      rw [hmembers, List.mem_cons, List.mem_cons] at hmem
      rcases hmem with rfl | rfl | hmem
      · exact absurd hname (by decide)
      · exact absurd hname (by decide)
      · exact route.notMem_failureNames name hmem
          (List.mem_cons_of_mem _ (List.mem_cons_of_mem _ hname))
  · rw [h]
    refine .failure kind (fun _ => FailureKind.eq_of_code_eq) rfl rfl ?_ ?_
    · intro name hname
      exact List.mem_cons_of_mem _ (List.mem_cons_of_mem _ hname)
    · intro name hname
      exact route.notMem_failureNames name hname

/-- The body says its code. -/
theorem member?_enclose_code {P : Type} (form : PayloadForm P) (action : Action)
    (answer : Except ServiceError P) :
    ((enclose action answer).toJson form).member? "relatedHTTPCode" =
      some (.int (enclose action answer).code.toNat) := by
  rcases enclose_cases action answer with ⟨payload, h⟩ | ⟨kind, message, h⟩
  · rw [h]
    rfl
  · rw [h]
    rfl

end Service

/-! ## Responses -/

namespace Catalog

/-- The body of a response does not depend on the options. -/
theorem body_respond (service : Service) (options options' : ResponseOptions)
    (query : List Char) (route : Route) :
    (respond ⟨service, options⟩ query route).body =
      (respond ⟨service, options'⟩ query route).body := by
  cases route <;> rfl

/-- A code of a coherent body is a status. -/
theorem statusOfCode_of_coherent {route : Route} {body : Json} {code : UInt16}
    (h : Coherent route body code) : Http.statusOfCode code = code := by
  cases h with
  | success => decide
  | failure kind => cases kind <;> decide

/-- **Every response of a route is a coherent envelope.** Whatever the settings, the types and the
repository are and however a `GET` request for a route may fail, the body of the response is an
object that tells its code and is coherent for it. The status is the same code, or that of a
success if the settings say so, and the body does not depend on which of the two it is. -/
theorem responses_coherent (settings : Settings) (registry : TypeRegistry)
    (repository : Repository) (r : Http.Request) (route : Route) (hmethod : r.method = "GET")
    (hroute : Route.ofPath? r.path = some route) :
    ∃ (body : Json) (code : UInt16),
      decodeText Decode.anything ((ofParts settings registry repository).handle r).body =
        .ok body ∧
      body.member? "relatedHTTPCode" = some (.int code.toNat) ∧
      code ∈ [200, 400, 403, 404] ∧
      Coherent route body code ∧
      ((ofParts settings registry repository).handle r).status =
        (if settings.statusFollowsCode then code else 200) ∧
      ((ofParts settings registry repository).handle r).status ≠ 500 ∧
      ∀ statusFollowsCode,
        ((ofParts { settings with statusFollowsCode := statusFollowsCode } registry
          repository).handle r).body =
          ((ofParts settings registry repository).handle r).body := by
  have hhandle : ∀ c : Catalog, c.handle r = c.respond r.query route := by
    intro c
    rw [handle_of_route hroute]
    exact if_pos hmethod
  obtain ⟨P, form, decoded, answer, hlawful, hnames, -, hanswer⟩ :=
    exists_answer (ofParts settings registry repository) r.query route
  have hrespond := hanswer route.userPart
  rw [Route.withUserPart_userPart] at hrespond
  generalize (do
    let user ← decodeUser route.userPart
    decoded
    (ofParts settings registry repository).service.checkAccess user route.action.name
    answer) = result at hrespond
  have hcoherent := Service.coherent_enclose hnames route.action result
  have hstatus : ((ofParts settings registry repository).handle r).status =
      if settings.statusFollowsCode then (Service.enclose route.action result).code else 200 := by
    rw [hhandle, hrespond, ← statusOfCode_of_coherent hcoherent]
    rfl
  refine ⟨_, _, ?_, Service.member?_enclose_code form route.action result, hcoherent.mem_codes,
    hcoherent, hstatus, ?_, ?_⟩
  · rw [hhandle, hrespond]
    exact Decode.decodeText_anything_render (Envelope.legible_toJson hlawful _)
  · have hcodes := hcoherent.mem_codes
    rw [hstatus]
    intro h500
    split at h500
    · rw [h500] at hcodes
      exact absurd hcodes (by decide)
    · exact absurd h500 (by decide)
  · intro statusFollowsCode
    rw [hhandle, hhandle]
    exact body_respond _ _ _ _ _

/-- An identifier that is no text is reported as a request that is unfit. -/
theorem undecodable_guid_coherent :
    ∃ body, decodeText Decode.anything ((ofParts Settings.default .builtin
        EntityStore.empty.repository).handle
          ⟨"GET", "/metadata-catalog/v1/users/alice/tables/%FF", none⟩).body = .ok body ∧
      body.member? "relatedHTTPCode" = some (.int 400) ∧
      Coherent (.element .table "alice".toList "%FF".toList) body 400 := by
  have hstatus : ((ofParts Settings.default .builtin EntityStore.empty.repository).handle
      ⟨"GET", "/metadata-catalog/v1/users/alice/tables/%FF", none⟩).status = 400 := by decide +kernel
  obtain ⟨body, code, hbody, hcode, -, hcoherent, hfollows, -⟩ := responses_coherent
    Settings.default .builtin EntityStore.empty.repository
    ⟨"GET", "/metadata-catalog/v1/users/alice/tables/%FF", none⟩
    (.element .table "alice".toList "%FF".toList) rfl (by decide +kernel)
  have hcode400 : code = 400 := hfollows.symm.trans hstatus
  subst hcode400
  exact ⟨body, hbody, hcode, hcoherent⟩

end Catalog

end RelationalCatalog
