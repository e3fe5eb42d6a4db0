import RelationalCatalog.Proofs.Rest.Answer

/-!
# What a response tells of users

With a list of users who may call, every other user gets one and the same response to all
requests for an action (`denial`). Neither the entities, the types and the page sizes of the
catalog nor the rest of the request show in it, and a query is not even read. A user on the list
gets what every other one on it gets. `Catalog.responses_depend_on_admission` states both sides,
so a user's name decides on nothing but the admission.
-/

namespace RelationalCatalog

/-- Whether settings let a user call: there is no list of users, or the user is on it. -/
def Settings.Admits (settings : Settings) (user : String) : Prop :=
  ∀ users, settings.authorizedUsers = some users → user ∈ users

/-- The response that denies an action to a user: an envelope with the code 403. -/
def denial (user : String) (action : Action) (statusFollowsCode : Bool) : Http.Response :=
  .ofBody (if statusFollowsCode then 403 else 200) "application/json" (Json.render (.obj
    [("actionDescription", .str action.name),
      ("relatedHTTPCode", .int 403),
      ("exceptionClassName", .str "UnauthorizedError"),
      ("exceptionErrorMessageId", .str "METADATA-CATALOG-403-001"),
      ("exceptionErrorMessage", .str s!"user '{user}' is not authorized to call {action.name}"),
      ("exceptionSystemAction", .str FailureKind.unauthorized.advice.systemAction),
      ("exceptionUserAction", .str FailureKind.unauthorized.advice.userAction)]))

namespace Catalog

variable {settings : Settings} {user user' : String}

/-! ## Admission -/

section

variable (registry : TypeRegistry) (repository : Repository)

theorem checkAccess_of_admits (h : settings.Admits user) (action : String) :
    (ofParts settings registry repository).service.checkAccess user action = .ok () := by
  show Service.checkAccess ⟨registry, repository, settings.service⟩ user action = .ok ()
  rw [Service.checkAccess, Settings.service]
  cases hlist : settings.authorizedUsers with
  | none => rfl
  | some users =>
    have hmem : user ∈ NameSet.ofList users := NameSet.mem_ofList.mpr (h users hlist)
    exact if_pos (NameSet.contains_iff_mem.mpr hmem)

theorem checkAccess_of_notMem {users : List String} (hlist : settings.authorizedUsers = some users)
    (h : user ∉ users) (action : String) :
    (ofParts settings registry repository).service.checkAccess user action =
      .error (.unauthorized user action) := by
  show Service.checkAccess ⟨registry, repository, settings.service⟩ user action = _
  rw [Service.checkAccess, Settings.service, hlist]
  refine if_neg fun hcontains => h ?_
  exact NameSet.mem_ofList.mp (NameSet.contains_iff_mem.mp hcontains)

end

/-! ## Responses of routes -/

variable {registry : TypeRegistry} {repository : Repository}

/-- The envelope of a denial has no payload, whatever the payload could have been. -/
theorem respond_unauthorized {P : Type} (options : ResponseOptions) (form : PayloadForm P)
    (user : String) (action : Action) :
    options.respond form (Service.enclose action (.error (.unauthorized user action.name))) =
      denial user action options.statusFollowsCode := by
  obtain ⟨statusFollowsCode⟩ := options
  cases statusFollowsCode <;> rfl

/-- A route that decodes denies its action to a user who is not on the list. -/
theorem respond_eq_denial {users : List String} (hlist : settings.authorizedUsers = some users)
    (h : user ∉ users) {route : Route} (hroute : route.DecodesFor user) (query : List Char) :
    (ofParts settings registry repository).respond query route =
      denial user route.action settings.statusFollowsCode := by
  obtain ⟨P, form, decoded, answer, -, -, hdecoded, hrespond⟩ :=
    exists_answer (ofParts settings registry repository) query route
  have hanswer := hrespond route.userPart
  rw [Route.withUserPart_userPart, hroute.user, hdecoded user hroute] at hanswer
  simp only [bind, Except.bind, checkAccess_of_notMem registry repository hlist h] at hanswer
  rw [hanswer]
  exact respond_unauthorized _ _ user route.action

/-- A route answers all admitted users alike, also when the rest of its path does not decode. -/
theorem respond_withUserPart (h : settings.Admits user) (h' : settings.Admits user')
    {route : Route} {part : List Char} (huser : decodeUser route.userPart = .ok user)
    (huser' : decodeUser part = .ok user') (query : List Char) :
    (ofParts settings registry repository).respond query (route.withUserPart part) =
      (ofParts settings registry repository).respond query route := by
  obtain ⟨P, form, decoded, answer, -, -, -, hrespond⟩ :=
    exists_answer (ofParts settings registry repository) query route
  have hanswer := hrespond route.userPart
  have hanswer' := hrespond part
  rw [Route.withUserPart_userPart, huser] at hanswer
  rw [huser'] at hanswer'
  rw [hanswer, hanswer']
  simp only [bind, Except.bind, checkAccess_of_admits registry repository h,
    checkAccess_of_admits registry repository h']

/-! ## Responses to requests -/

/-- **A response depends on the user only by the admission.** A user who is not on the list of
those who may call gets a response that is determined by the user, the action and the option for
the status: two catalogs and two requests may differ in all else. Users who are admitted get the
same response to the same request. -/
theorem responses_depend_on_admission :
    (∀ (settings : Settings) (registry : TypeRegistry) (repository : Repository)
      (users : List String) (user : String),
      settings.authorizedUsers = some users → user ∉ users →
      ∀ (r : Http.Request) (route : Route), Route.ofPath? r.path = some route →
        route.DecodesFor user →
        (ofParts settings registry repository).handle r =
          r.answer (denial user route.action settings.statusFollowsCode)) ∧
    (∀ (settings settings' : Settings) (registry registry' : TypeRegistry)
      (repository repository' : Repository) (users users' : List String) (user : String),
      settings.authorizedUsers = some users → user ∉ users →
      settings'.authorizedUsers = some users' → user ∉ users' →
      settings.statusFollowsCode = settings'.statusFollowsCode →
      ∀ (r r' : Http.Request) (route route' : Route),
        Route.ofPath? r.path = some route → Route.ofPath? r'.path = some route' →
        route.DecodesFor user → route'.DecodesFor user →
        route.action = route'.action → r.method = r'.method →
        (ofParts settings registry repository).handle r =
          (ofParts settings' registry' repository').handle r') ∧
    (∀ (settings : Settings) (registry : TypeRegistry) (repository : Repository)
      (user user' : String), settings.Admits user → settings.Admits user' →
      ∀ (r r' : Http.Request) (route : Route) (part : List Char),
        Route.ofPath? r.path = some route →
        Route.ofPath? r'.path = some (route.withUserPart part) →
        decodeUser route.userPart = .ok user → decodeUser part = .ok user' →
        r.method = r'.method → r.query = r'.query →
        (ofParts settings registry repository).handle r =
          (ofParts settings registry repository).handle r') := by
  have hdenied : ∀ (settings : Settings) (registry : TypeRegistry) (repository : Repository)
      (users : List String) (user : String),
      settings.authorizedUsers = some users → user ∉ users →
      ∀ (r : Http.Request) (route : Route), Route.ofPath? r.path = some route →
        route.DecodesFor user →
        (ofParts settings registry repository).handle r =
          r.answer (denial user route.action settings.statusFollowsCode) := by
    intro settings registry repository users user hlist hnotMem r route hroute hdecodes
    rw [handle_of_route hroute, respond_eq_denial hlist hnotMem hdecodes]
  refine ⟨hdenied, ?_, ?_⟩
  · intro settings settings' registry registry' repository repository' users users' user hlist
      hnotMem hlist' hnotMem' hstatus r r' route route' hroute hroute' hdecodes hdecodes' haction
      hmethod
    rw [hdenied _ _ _ _ _ hlist hnotMem r route hroute hdecodes,
      hdenied _ _ _ _ _ hlist' hnotMem' r' route' hroute' hdecodes', hstatus, haction,
      Http.Request.answer, Http.Request.answer, hmethod]
  · intro settings registry repository user user' hadmits hadmits' r r' route part hroute hroute'
      huser huser' hmethod hquery
    rw [handle_of_route hroute, handle_of_route hroute',
      respond_withUserPart hadmits hadmits' huser huser', Http.Request.answer,
      Http.Request.answer, hmethod, hquery]

/-- A stranger is not told that the query of a request cannot be read and that the repository does
not answer, and two users of the list are told the same of an element. -/
theorem stranger_denied_and_users_alike :
    ((ofParts { Settings.default with authorizedUsers := some ["alice", "bob"] } .builtin
        (.failing (.unavailable "closed"))).handle
        ⟨"GET", "/metadata-catalog/v1/users/eve/tables?pageSize=x", none⟩ =
      denial "eve" (.find .table) true) ∧
    (ofParts { Settings.default with authorizedUsers := some ["alice", "bob"] } .builtin
        (.failing (.unavailable "closed"))).handle
        ⟨"GET", "/metadata-catalog/v1/users/alice/tables/t1", none⟩ =
      (ofParts { Settings.default with authorizedUsers := some ["alice", "bob"] } .builtin
        (.failing (.unavailable "closed"))).handle
        ⟨"GET", "/metadata-catalog/v1/users/b%6Fb/tables/t1", none⟩ := by
  obtain ⟨hdenied, -, halike⟩ := responses_depend_on_admission
  constructor
  · exact hdenied _ _ _ ["alice", "bob"] "eve" rfl (by decide) _ (.listing .table "eve".toList)
      (by decide +kernel) (decodePart_of_percentText? (by decide +kernel))
  · have hadmits : ∀ user ∈ ["alice", "bob"],
        { Settings.default with authorizedUsers := some ["alice", "bob"] }.Admits user := by
      intro user hmem users husers
      cases husers
      exact hmem
    exact halike _ _ _ "alice" "bob" (hadmits _ (by decide)) (hadmits _ (by decide)) _ _
      (.element .table "alice".toList "t1".toList) "b%6Fb".toList (by decide +kernel)
      (by decide +kernel) (decodePart_of_percentText? (by decide +kernel))
      (decodePart_of_percentText? (by decide +kernel)) rfl (by decide +kernel)

end Catalog

end RelationalCatalog
