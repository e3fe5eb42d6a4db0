import RelationalCatalog.Proofs.Rest.Envelope
import RelationalCatalog.Rest.Handler

/-!
# How a route answers

All routes answer in one order, which `Catalog.exists_answer` states: the parts of the path are
decoded, the user is admitted to the action, and what comes then does not know the user any more.
Whatever the outcome is, it is enclosed in an envelope in the form of the route's payload.
-/

namespace RelationalCatalog

namespace Route

/-- The part of a route's path that names the user, as it was sent. -/
def userPart : Route → List Char
  | .supportedTypes user => user
  | .listing _ user => user
  | .element _ user _ => user

/-- The route with another part in place of the one that names the user. -/
def withUserPart (user : List Char) : Route → Route
  | .supportedTypes _ => .supportedTypes user
  | .listing k _ => .listing k user
  | .element k _ guid => .element k user guid

@[simp] theorem withUserPart_userPart (route : Route) :
    route.withUserPart route.userPart = route := by
  cases route <;> rfl

/-- Whether all parts of a route decode, and the first of them to a user. -/
def DecodesFor (user : String) : Route → Prop
  | .supportedTypes part => decodeUser part = .ok user
  | .listing _ part => decodeUser part = .ok user
  | .element _ part guidPart => decodeUser part = .ok user ∧ ∃ guid, decodeGuid guidPart = .ok guid

theorem DecodesFor.user {user : String} {route : Route} (h : route.DecodesFor user) :
    decodeUser route.userPart = .ok user := by
  cases route with
  | supportedTypes part => exact h
  | listing k part => exact h
  | element k part guidPart => exact h.1

/-- The names of the members of the payload that a route answers with. -/
def payloadNames : Route → List String
  | .supportedTypes _ => ["types"]
  | .listing _ _ => ["elementList", "startFrom", "pageSize"]
  | .element _ _ _ => ["element"]

end Route

namespace Catalog

/-- A route decodes the user and then the rest of the path, admits the user, and only then makes
the answer, without regard to the user. -/
theorem exists_answer (c : Catalog) (query : List Char) (route : Route) :
    ∃ (P : Type) (form : PayloadForm P) (decoded : Except ServiceError Unit)
      (answer : Except ServiceError P),
      form.Lawful ∧
      (∀ payload, (form.members payload).map (·.1) = route.payloadNames) ∧
      (∀ user, route.DecodesFor user → decoded = .ok ()) ∧
      ∀ part, c.respond query (route.withUserPart part) =
        c.options.respond form (Service.enclose route.action do
          let user ← decodeUser part
          decoded
          c.service.checkAccess user route.action.name
          answer) := by
  cases route with
  | supportedTypes part =>
    exact ⟨_, SupportedTypes.payloadForm, .ok (), .ok (.ofTypes c.service.supportedTypes),
      SupportedTypes.lawful_payloadForm, fun _ => rfl, fun _ _ => rfl, fun _ => rfl⟩
  | listing k part =>
    exact ⟨_, ElementList.payloadForm k.wireForm, .ok (), do
        let request ← Service.readPage query
        let page ← c.service.listBeans k.mapping request
        return ElementList.ofPage k page,
      ElementList.lawful_payloadForm k, fun _ => rfl, fun _ _ => rfl, fun _ => rfl⟩
  | element k part guidPart =>
    cases hguid : decodeGuid guidPart with
    | error error =>
      refine ⟨_, SingleElement.payloadForm k.wireForm, .error error, .error error,
        SingleElement.lawful_payloadForm k, fun _ => rfl, fun user hdecodes => ?_, fun part => ?_⟩
      · obtain ⟨-, guid, hok⟩ := hdecodes
        rw [hguid] at hok
        cases hok
      · rw [Route.withUserPart, respond, Service.answerElement, hguid]
        rfl
    | ok guid =>
      refine ⟨_, SingleElement.payloadForm k.wireForm, .ok (), do
          let bean ← c.service.getBean k.mapping guid
          return ⟨k.element bean⟩,
        SingleElement.lawful_payloadForm k, fun _ => rfl, fun _ _ => rfl, fun part => ?_⟩
      rw [Route.withUserPart, respond, Service.answerElement, hguid]
      rfl

/-- A request for a route is answered by it, as its method says. -/
theorem handle_of_route {c : Catalog} {r : Http.Request} {route : Route}
    (h : Route.ofPath? r.path = some route) : c.handle r = r.answer (c.respond r.query route) := by
  rw [handle, h]

end Catalog

end RelationalCatalog
