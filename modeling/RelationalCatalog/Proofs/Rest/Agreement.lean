import RelationalCatalog.Proofs.Rest.Request

/-!
# Routes and clients give the same answers

A route decodes its arguments, admits the user and encloses the service's answer in an envelope,
with elements in place of the beans. A client of the same catalog gets the beans themselves, or the
service's error cut down to kind and message.

`Call.body` says what the client's result of a call looks like in an answer, without a look at
elements, payloads and envelopes: it names the action, the code and every member of a bean or an
error. `Call.routes_agree_with_client` says that nothing else comes between the two: for an admitted
user, this is the body of the response.
-/

namespace RelationalCatalog

/-! ## What results look like -/

/-- The object of the members that have a value. -/
def Json.ofGiven (members : List (String × Option Json)) : Json :=
  .obj (members.filterMap fun m => m.2.map fun v => (m.1, v))

/-- A type in an answer. -/
def TypeDescriptor.shown (d : TypeDescriptor) : Json := .obj
  [("name", .str d.name),
    ("description", .str d.description),
    ("superTypeNames", .arr (d.superTypeNames.map .str))]

/-- A table in an answer. -/
def Table.shown (t : Table) : Json := .ofGiven
  [("guid", some (.str t.guid)),
    ("qualifiedName", some (.str t.qualifiedName)),
    ("displayName", some (.str t.displayName)),
    ("description", t.description.map .str),
    ("owner", t.owner.map .str),
    ("createTime", t.createTime.map fun time => .str time.render),
    ("isDeprecated", some (.bool t.isDeprecated)),
    ("classifications", some (.arr (t.classifications.map .str)))]

/-- A column in an answer. -/
def Column.shown (c : Column) : Json := .obj
  [("guid", .str c.guid),
    ("qualifiedName", .str c.qualifiedName),
    ("displayName", .str c.displayName),
    ("dataType", .str c.dataType),
    ("position", .int c.position.toInt),
    ("length", .int c.length.toInt),
    ("isNullable", .bool c.isNullable),
    ("sortOrder", .str c.sortOrder.symbol),
    ("isPrimaryKey", .bool c.isPrimaryKey),
    ("classifications", .arr (c.classifications.map .str))]

/-- A schema in an answer. -/
def Schema.shown (s : Schema) : Json := .ofGiven
  [("guid", some (.str s.guid)),
    ("qualifiedName", some (.str s.qualifiedName)),
    ("displayName", some (.str s.displayName)),
    ("description", s.description.map .str),
    ("createTime", s.createTime.map fun time => .str time.render),
    ("classifications", some (.arr (s.classifications.map .str)))]

/-- A bean in an answer. -/
def BeanKind.shown : (k : BeanKind) → k.Bean → Json
  | .table => Table.shown
  | .column => Column.shown
  | .schema => Schema.shown

/-- The code, the class name and the message's identifier that tell a kind of failure. -/
def FailureKind.told : FailureKind → Int × String × String
  | .invalidEntity => (400, "InvalidEntityError", "METADATA-CATALOG-400-001")
  | .unauthorized => (403, "UnauthorizedError", "METADATA-CATALOG-403-001")
  | .repositoryAccess => (404, "RepositoryAccessError", "METADATA-CATALOG-404-001")

/-- The answer to an action that a client's result makes, where the result is given by the members
of its payload. -/
def answerOf (action : String) : Except ClientError (List (String × Json)) → Json
  | .ok payload =>
    .obj (("actionDescription", .str action) :: ("relatedHTTPCode", .int 200) :: payload)
  | .error error =>
    let (code, className, messageId) := error.kind.told
    .obj [("actionDescription", .str action),
      ("relatedHTTPCode", .int code),
      ("exceptionClassName", .str className),
      ("exceptionErrorMessageId", .str messageId),
      ("exceptionErrorMessage", .str error.message),
      ("exceptionSystemAction", .str error.kind.advice.systemAction),
      ("exceptionUserAction", .str error.kind.advice.userAction)]

namespace Call

/-- The name of the action that a call stands for. -/
def actionName : Call → String
  | .supportedTypes => "listSupportedTypes"
  | .get .table _ => "getTable"
  | .get .column _ => "getColumn"
  | .get .schema _ => "getSchema"
  | .list .table _ => "findTables"
  | .list .column _ => "findColumns"
  | .list .schema _ => "findSchemas"

/-- The client's result of a call, as the members of a payload: all types, one bean, or the beans
of a page in their order with what was asked for. -/
def result (c : Catalog) : Call → Except ClientError (List (String × Json))
  | .supportedTypes => c.client.supportedTypes.map fun types =>
    [("types", .arr (types.map TypeDescriptor.shown))]
  | .get k guid => (c.client.get k guid).map fun bean => [("element", k.shown bean)]
  | .list k page => (c.client.list k page).map fun p =>
    [("elementList", .arr (p.elements.map k.shown)),
      ("startFrom", .int p.startFrom.toNat),
      ("pageSize", .int p.pageSize.toNat)]

/-- The body that the client's result of a call makes. -/
def body (c : Catalog) (call : Call) : String := (answerOf call.actionName (call.result c)).render

end Call

/-! ## Elements and envelopes -/

/-- An element is written with the fields of its bean. -/
theorem BeanKind.toJson_element (k : BeanKind) (bean : k.Bean) :
    k.wireForm.toJson (k.element bean) = k.shown bean := by
  cases k with
  | table =>
    obtain ⟨guid, qualifiedName, displayName, description, owner, createTime, isDeprecated,
      classifications⟩ := bean
    cases description <;> cases owner <;> cases createTime <;> rfl
  | column => rfl
  | schema =>
    obtain ⟨guid, qualifiedName, displayName, description, createTime, classifications⟩ := bean
    cases description <;> cases createTime <;> rfl

namespace Call

variable {c : Catalog} {user : String} {call : Call}

theorem name_action (call : Call) : call.action.name = call.actionName := by
  cases call with
  | supportedTypes => rfl
  | get k guid => cases k <;> rfl
  | list k page => cases k <;> rfl

/-- The service's answers are enclosed as the client's results are told. -/
theorem toJson_enclose {P : Type} (form : PayloadForm P) (action : Action)
    (answer : Except ServiceError P) :
    (Service.enclose action answer).toJson form =
      answerOf action.name ((asSeenByClients answer).map form.members) := by
  cases answer with
  | ok payload => rfl
  | error error =>
    show Envelope.toJson form ⟨some action.name, .failure (error.kind.failure error.message)⟩ =
      answerOf action.name (.error ⟨error.kind, error.message⟩)
    cases error.kind <;> rfl

/-! ## Routes -/

theorem answerTypes_eq {part : List Char} (huser : decodeUser part = .ok user)
    (hadmitted : c.service.checkAccess user Action.listSupportedTypes.name = .ok ()) :
    (c.service.answerTypes part).toJson SupportedTypes.payloadForm =
      answerOf Action.listSupportedTypes.name (supportedTypes.result c) := by
  have hshown : (SupportedTypes.ofTypes c.service.supportedTypes).members =
      [("types", .arr (c.service.supportedTypes.map TypeDescriptor.shown))] := by
    rw [SupportedTypes.members, SupportedTypes.ofTypes, List.map_map]
    rfl
  rw [Service.answerTypes, huser]
  simp only [bind, Except.bind, hadmitted]
  rw [toJson_enclose]
  exact congrArg (fun payload => answerOf _ (.ok payload)) hshown

theorem answerElement_eq {k : BeanKind} {guid : String} {part guidPart : List Char}
    (huser : decodeUser part = .ok user) (hguid : decodeGuid guidPart = .ok guid)
    (hadmitted : c.service.checkAccess user (Action.get k).name = .ok ()) :
    (c.service.answerElement k part guidPart).toJson (SingleElement.payloadForm k.wireForm) =
      answerOf (Action.get k).name ((get k guid).result c) := by
  rw [Service.answerElement, huser, hguid]
  simp only [bind, Except.bind, hadmitted]
  rw [toJson_enclose, result, Client.get, Catalog.client]
  cases c.service.getBean k.mapping guid with
  | error error => rfl
  | ok bean =>
    show answerOf _ (.ok [("element", k.wireForm.toJson (k.element bean))]) = _
    rw [k.toJson_element]
    rfl

theorem answerListing_eq {k : BeanKind} {page : PageRequest} {part query : List Char}
    (huser : decodeUser part = .ok user) (hpage : Service.readPage query = .ok page)
    (hadmitted : c.service.checkAccess user (Action.find k).name = .ok ()) :
    (c.service.answerListing k part query).toJson (ElementList.payloadForm k.wireForm) =
      answerOf (Action.find k).name ((list k page).result c) := by
  rw [Service.answerListing, huser]
  simp only [bind, Except.bind, hadmitted, hpage]
  rw [toJson_enclose, result, Client.list, Catalog.client]
  cases c.service.listBeans k.mapping page with
  | error error => rfl
  | ok p =>
    have hshown : (p.elements.map k.element).map k.wireForm.toJson = p.elements.map k.shown := by
      rw [List.map_map]
      exact List.map_congr_left fun bean _ => k.toJson_element bean
    show answerOf _ (.ok [("elementList", .arr ((p.elements.map k.element).map k.wireForm.toJson)),
      ("startFrom", .int p.startFrom.toNat), ("pageSize", .int p.pageSize.toNat)]) = _
    rw [hshown]
    rfl

/-- A route that spells a call answers an admitted user with the client's result. -/
theorem respond_body_eq {route : Route} {query : List Char}
    (hadmitted : c.service.checkAccess user call.actionName = .ok ())
    (h : call.SpelledBy user route query) : (c.respond query route).body = call.body c := by
  rw [← name_action] at hadmitted
  rw [body, ← name_action]
  cases h with
  | supportedTypes huser => exact congrArg Json.render (answerTypes_eq huser hadmitted)
  | get huser hguid => exact congrArg Json.render (answerElement_eq huser hguid hadmitted)
  | list huser hpage => exact congrArg Json.render (answerListing_eq huser hpage hadmitted)

/-- A request that asks for a call is answered by a route that spells it. -/
theorem exists_route_of_askedBy {r : Http.Request} (h : call.AskedBy user r) :
    ∃ route, call.SpelledBy user route r.query ∧ c.handle r = c.respond r.query route := by
  obtain ⟨hmethod, route, hroute, hspelled⟩ := h
  refine ⟨route, hspelled, ?_⟩
  rw [Catalog.handle, hroute]
  exact if_pos hmethod

/-- **The routes and the client give the same answers.** For a user who is admitted to a call,
whatever route and query spell the call and whatever request asks for it, the body of the
response is what the client's result makes: an object with the name of the action and either all
fields of the beans, in their order, or the class name, the code and the message of the error. There
is such a request for every call, except for an element without an identifier, for which there is
no path. -/
theorem routes_agree_with_client (c : Catalog) (user : String) (call : Call)
    (hadmitted : c.service.checkAccess user call.actionName = .ok ()) :
    (∀ route query, call.SpelledBy user route query →
      (c.respond query route).body = call.body c) ∧
    (∀ r, call.AskedBy user r → (c.handle r).body = call.body c) ∧
    (call.HasPath → call.AskedBy user (call.request user)) := by
  refine ⟨fun route query h => respond_body_eq hadmitted h, fun r h => ?_,
    fun h => askedBy_request h user⟩
  obtain ⟨route, hspelled, hhandle⟩ := exists_route_of_askedBy (c := c) h
  rw [hhandle]
  exact respond_body_eq hadmitted hspelled

/-- A catalog of one table for one user. -/
def ordersCatalog : Catalog :=
  .ofParts { Settings.default with authorizedUsers := some ["alice"] } .builtin
    (EntityStore.ofList [((Entity.new "t1" "RelationalTable").withProperty "displayName"
      (.text "orders")).withProperty "owner" (.text "ann")]).repository

/-- The table of the catalog, shown with the fields that it has. -/
def ordersShown : Json := .obj
  [("guid", .str "t1"),
    ("qualifiedName", .str ""),
    ("displayName", .str "orders"),
    ("owner", .str "ann"),
    ("isDeprecated", .bool false),
    ("classifications", .arr [])]

/-- The user is shown the table alone and on a page, and is told that there is no other one. -/
theorem handle_body_orders :
    (ordersCatalog.handle ((Call.get .table "t1").request "alice")).body =
      Json.render (.obj [("actionDescription", .str "getTable"), ("relatedHTTPCode", .int 200),
        ("element", ordersShown)]) ∧
    (ordersCatalog.handle ((Call.list .table ⟨0, some 5⟩).request "alice")).body =
      Json.render (.obj [("actionDescription", .str "findTables"), ("relatedHTTPCode", .int 200),
        ("elementList", .arr [ordersShown]), ("startFrom", .int 0), ("pageSize", .int 5)]) ∧
    (ordersCatalog.handle ((Call.get .table "t2").request "alice")).body =
      Json.render (.obj [("actionDescription", .str "getTable"), ("relatedHTTPCode", .int 404),
        ("exceptionClassName", .str "RepositoryAccessError"),
        ("exceptionErrorMessageId", .str "METADATA-CATALOG-404-001"),
        ("exceptionErrorMessage", .str "Entity not found: t2"),
        ("exceptionSystemAction", .str FailureKind.repositoryAccess.advice.systemAction),
        ("exceptionUserAction", .str FailureKind.repositoryAccess.advice.userAction)]) := by
  have hanswers (call : Call)
      (hadmitted : ordersCatalog.service.checkAccess "alice" call.actionName = .ok ())
      (hpath : call.HasPath) :
      (ordersCatalog.handle (call.request "alice")).body = call.body ordersCatalog := by
    obtain ⟨-, hbody, hasked⟩ := routes_agree_with_client ordersCatalog "alice" call hadmitted
    exact hbody _ (hasked hpath)
  have hpath : ∀ guid ∈ ["t1", "t2"], (Call.get .table guid).HasPath := by
    show ∀ guid ∈ ["t1", "t2"], guid ≠ ""
    decide
  refine ⟨?_, ?_, ?_⟩
  · exact hanswers (.get .table "t1") rfl (hpath _ (by decide))
  · exact hanswers (.list .table ⟨0, some 5⟩) rfl trivial
  · exact hanswers (.get .table "t2") rfl (hpath _ (by decide))

end Call

end RelationalCatalog
