import RelationalCatalog.Proofs.Number.Integer
import RelationalCatalog.Proofs.Text.Percent
import RelationalCatalog.Rest.Handler

/-!
# Requests for calls

A client of the catalog makes a *call*, a user of the server sends a request. A call is spelled
by a route and a query if these decode to the call's arguments (`Call.SpelledBy`), and many
spellings of one call are possible. `Call.askedBy_request` gives a request for every call that
has a path: it writes the user and the identifier with every byte percent-encoded and the page
with plain digits. Only an element without an identifier has no path.
-/

namespace RelationalCatalog

/-- A call of a client. -/
inductive Call
  | supportedTypes
  | get (k : BeanKind) (guid : String)
  | list (k : BeanKind) (page : PageRequest)

/-! ## Paths -/

namespace Route

/-- The part of a path at which the listing of a kind is. -/
def collection : BeanKind → List Char
  | .table => "tables".toList
  | .column => "columns".toList
  | .schema => "schemas".toList

/-- The parts of a route's path behind those that all routes begin with. -/
def parts : Route → List (List Char)
  | .supportedTypes user => [user, "supported-types".toList]
  | .listing k user => [user, collection k]
  | .element k user guid => [user, collection k, guid]

/-- The path of a route. -/
def path (route : Route) : List Char := ['/'].intercalate (basePath ++ route.parts)

/-- An element needs an identifier. -/
def HasPath : Route → Prop
  | .element _ _ guid => guid ≠ []
  | _ => True

theorem ofCollection?_collection (k : BeanKind) :
    BeanKind.ofCollection? (collection k) = some k := by
  cases k <;> rfl

theorem ofParts?_parts {route : Route} (h : route.HasPath) : ofParts? route.parts = some route := by
  cases route with
  | supportedTypes user => rfl
  | listing k user => cases k <;> rfl
  | element k user guid =>
    have hguid : guid.isEmpty = false := List.isEmpty_eq_false_iff.mpr h
    rw [parts, ofParts?, hguid, ofCollection?_collection]
    rfl

/-- A path leads back to its route if no part of it has a slash. -/
theorem ofPath?_path {route : Route} (h : route.HasPath)
    (hslash : ∀ part ∈ route.parts, '/' ∉ part) : ofPath? route.path = some route := by
  have hbase : ∀ part ∈ basePath, '/' ∉ part := by decide
  have hall : ∀ part ∈ basePath ++ route.parts, '/' ∉ part := by
    intro part hpart
    rcases List.mem_append.mp hpart with hpart | hpart
    · exact hbase part hpart
    · exact hslash part hpart
  have hne : basePath ++ route.parts ≠ [] := fun hnil => by cases hnil
  have hbegins : basePath.isPrefixOf (basePath ++ route.parts) = true :=
    List.isPrefixOf_iff_prefix.mpr (List.prefix_append _ _)
  rw [ofPath?, path, splitAll_intercalate hall hne]
  simp only [hbegins, if_true, List.drop_left]
  exact ofParts?_parts h

end Route

/-! ## Queries -/

namespace PageRequest

/-- The fields of the query for a page. -/
def fields (page : PageRequest) : List (List Char × List Char) :=
  ("startFrom".toList, natDigits page.startFrom.toNat) ::
    (page.pageSize.map fun size => ("pageSize".toList, natDigits size.toNat)).toList

/-- The query for a page. -/
def query (page : PageRequest) : List Char := ['&'].intercalate (page.fields.map joinField)

/-- A character that is no digit is not among digits. -/
theorem ne_of_mem_natDigits {n : Nat} {c d : Char} (h : c ∈ natDigits n)
    (hd : d.isDigit = false) : c ≠ d := by
  rintro rfl
  rw [isDigit_of_mem_natDigits h] at hd
  cases hd

theorem fields_cases {page : PageRequest} {f : List Char × List Char} (h : f ∈ page.fields) :
    ∃ n, f.2 = natDigits n ∧ (f.1 = "startFrom".toList ∨ f.1 = "pageSize".toList) := by
  rcases List.mem_cons.mp h with rfl | h
  · exact ⟨_, rfl, .inl rfl⟩
  · obtain ⟨size, -, rfl⟩ := Option.map_eq_some_iff.mp (Option.mem_toList.mp h)
    exact ⟨_, rfl, .inr rfl⟩

/-- The query for a page is read back. -/
theorem formFields_query (page : PageRequest) :
    formFields page.query = page.fields.map fun f => (String.ofList f.1, String.ofList f.2) := by
  refine formFields_join (List.cons_ne_nil _ _) (fun f hf => ?_) (fun f hf => ?_)
  · obtain ⟨n, -, hname⟩ := fields_cases hf
    rcases hname with hname | hname
    · rw [hname]
      exact ⟨plain_of_all (by decide), by decide, by decide⟩
    · rw [hname]
      exact ⟨plain_of_all (by decide), by decide, by decide⟩
  · obtain ⟨n, hvalue, -⟩ := fields_cases hf
    rw [hvalue]
    refine ⟨fun c hc => ⟨ne_of_mem_natDigits hc rfl, ne_of_mem_natDigits hc rfl⟩, fun hmem => ?_⟩
    exact ne_of_mem_natDigits hmem rfl rfl

theorem readPage_query (page : PageRequest) : Service.readPage page.query = .ok page := by
  obtain ⟨startFrom, pageSize⟩ := page
  have hquery : PagingQuery.ofQuery (query ⟨startFrom, pageSize⟩) =
      .ok ⟨some startFrom, pageSize⟩ := by
    have hstart : PagingQuery.readField "startFrom" (String.ofList (natDigits startFrom.toNat))
        none = .ok (some startFrom) := by
      rw [PagingQuery.readField, readUInt64_natDigits]
    rw [PagingQuery.ofQuery, formFields_query]
    cases pageSize with
    | none =>
      show PagingQuery.ofFields [("startFrom", String.ofList (natDigits startFrom.toNat))] _ = _
      simp only [PagingQuery.ofFields, if_true, PagingQuery.empty, hstart, bind, Except.bind]
    | some size =>
      have hsize : PagingQuery.readField "pageSize" (String.ofList (natDigits size.toNat)) none =
          .ok (some size) := by
        rw [PagingQuery.readField, readUInt64_natDigits]
      have hne : "pageSize" ≠ "startFrom" := by decide
      show PagingQuery.ofFields [("startFrom", String.ofList (natDigits startFrom.toNat)),
        ("pageSize", String.ofList (natDigits size.toNat))] _ = _
      simp only [PagingQuery.ofFields, if_true, if_neg hne, PagingQuery.empty, hstart, hsize, bind,
        Except.bind]
  rw [Service.readPage, hquery]
  rfl

/-- The query for a page has no number sign. -/
theorem notMem_query (page : PageRequest) : '#' ∉ page.query := by
  refine notMem_intercalate (by decide) fun part hpart hmem => ?_
  obtain ⟨f, hf, rfl⟩ := List.mem_map.mp hpart
  obtain ⟨n, hvalue, hname⟩ := fields_cases hf
  rcases List.mem_append.mp hmem with h | h
  · rcases hname with hname | hname
    · rw [hname] at h
      exact absurd h (by decide)
    · rw [hname] at h
      exact absurd h (by decide)
  · rcases List.mem_cons.mp h with h | h
    · cases h
    · rw [hvalue] at h
      exact ne_of_mem_natDigits h rfl rfl

end PageRequest

/-! ## Requests -/

/-- A target is split into its path and its query. -/
theorem Http.splitTarget_append {path query : List Char} (hhead : path.head? = some '/')
    (hpath : '?' ∉ path ∧ '#' ∉ path) (hquery : '#' ∉ query) :
    splitTarget (path ++ '?' :: query) = (path, some query) := by
  have htarget : (path ++ '?' :: query).head? = some '/' := by
    rw [List.head?_append, hhead]
    rfl
  have hmark : '#' ∉ path ++ '?' :: query := by
    intro hmem
    rcases List.mem_append.mp hmem with h | h
    · exact hpath.2 h
    · rcases List.mem_cons.mp h with h | h
      · cases h
      · exact hquery h
  rw [splitTarget, originForm, if_pos htarget, splitAtFirst_of_notMem hmark]
  exact splitAtFirst_append hpath.1 query

namespace Call

/-- The action of a call. -/
def action : Call → Action
  | .supportedTypes => .listSupportedTypes
  | .get k _ => .get k
  | .list k _ => .find k

/-- A route and a query that decode to the arguments of a call. -/
inductive SpelledBy (user : String) : Call → Route → (query : List Char) → Prop
  | supportedTypes {part query : List Char} (huser : decodeUser part = .ok user) :
    SpelledBy user .supportedTypes (.supportedTypes part) query
  | get {k : BeanKind} {guid : String} {part guidPart query : List Char}
    (huser : decodeUser part = .ok user) (hguid : decodeGuid guidPart = .ok guid) :
    SpelledBy user (.get k guid) (.element k part guidPart) query
  | list {k : BeanKind} {page : PageRequest} {part query : List Char}
    (huser : decodeUser part = .ok user) (hpage : Service.readPage query = .ok page) :
    SpelledBy user (.list k page) (.listing k part) query

/-- A request that asks for a call on behalf of a user. -/
def AskedBy (call : Call) (user : String) (r : Http.Request) : Prop :=
  r.method = "GET" ∧ ∃ route, Route.ofPath? r.path = some route ∧ call.SpelledBy user route r.query

/-- Whether there is a path for a call. -/
def HasPath : Call → Prop
  | .get _ guid => guid ≠ ""
  | _ => True

/-- The route that spells a call. -/
def route (call : Call) (user : String) : Route :=
  match call with
  | .supportedTypes => .supportedTypes (percentEncoded user)
  | .get k guid => .element k (percentEncoded user) (percentEncoded guid)
  | .list k _ => .listing k (percentEncoded user)

/-- The query that spells a call. -/
def query : Call → List Char
  | .list _ page => page.query
  | _ => []

/-- A request for a call. -/
def request (call : Call) (user : String) : Http.Request :=
  ⟨"GET", String.ofList ((call.route user).path ++ '?' :: call.query), none⟩

theorem decodePart_percentEncoded (name text : String) :
    decodePart name (percentEncoded text) = .ok text :=
  decodePart_of_percentText? (percentText?_percentEncoded text)

/-- The arguments of a call are read back. -/
theorem spelledBy_route (call : Call) (user : String) :
    call.SpelledBy user (call.route user) call.query := by
  have huser : decodeUser (percentEncoded user) = .ok user := decodePart_percentEncoded _ _
  cases call with
  | supportedTypes => exact .supportedTypes huser
  | get k guid => exact .get huser (decodePart_percentEncoded _ _)
  | list k page => exact .list huser (PageRequest.readPage_query page)

/-- A character that is neither in names of collections nor in encoded texts. -/
theorem notMem_parts {mark : Char} (call : Call) (user : String)
    (hencoded : mark ≠ '%' ∧ ∀ n : Fin 16, mark ≠ hexDigit n)
    (hnames : mark ∉ "supported-types".toList ∧ ∀ k, mark ∉ Route.collection k) :
    ∀ part ∈ (call.route user).parts, mark ∉ part := by
  have huser := notMem_percentEncoded user hencoded
  intro part hpart
  cases call with
  | supportedTypes =>
    simp only [route, Route.parts, List.mem_cons, List.not_mem_nil, or_false] at hpart
    rcases hpart with rfl | rfl
    · exact huser
    · exact hnames.1
  | get k guid =>
    simp only [route, Route.parts, List.mem_cons, List.not_mem_nil, or_false] at hpart
    rcases hpart with rfl | rfl | rfl
    · exact huser
    · exact hnames.2 k
    · exact notMem_percentEncoded guid hencoded
  | list k page =>
    simp only [route, Route.parts, List.mem_cons, List.not_mem_nil, or_false] at hpart
    rcases hpart with rfl | rfl
    · exact huser
    · exact hnames.2 k

theorem notMem_path {mark : Char} (call : Call) (user : String)
    (hencoded : mark ≠ '%' ∧ ∀ n : Fin 16, mark ≠ hexDigit n)
    (hnames : mark ∉ "supported-types".toList ∧ ∀ k, mark ∉ Route.collection k)
    (hbase : mark ≠ '/' ∧ ∀ part ∈ Route.basePath, mark ∉ part) :
    mark ∉ (call.route user).path := by
  refine notMem_intercalate hbase.1 fun part hpart => ?_
  rcases List.mem_append.mp hpart with hpart | hpart
  · exact hbase.2 part hpart
  · exact notMem_parts call user hencoded hnames part hpart

/-- The target of a request is split into the path and the query of its call. -/
theorem splitTarget_request (call : Call) (user : String) :
    Http.splitTarget (call.request user).target.toList =
      ((call.route user).path, some call.query) := by
  have hquestion : '?' ∉ (call.route user).path :=
    notMem_path call user (by decide) ⟨by decide, fun k => by cases k <;> decide⟩ (by decide)
  have hnumber : '#' ∉ (call.route user).path :=
    notMem_path call user (by decide) ⟨by decide, fun k => by cases k <;> decide⟩ (by decide)
  have hquery : '#' ∉ call.query := by
    cases call with
    | list k page => exact page.notMem_query
    | _ => exact List.not_mem_nil
  rw [request, String.toList_ofList]
  exact Http.splitTarget_append rfl ⟨hquestion, hnumber⟩ hquery

/-- **Every call with a path is asked for by a request**, whoever the user is. -/
theorem askedBy_request {call : Call} (h : call.HasPath) (user : String) :
    call.AskedBy user (call.request user) := by
  have hroute : (call.route user).HasPath := by
    cases call with
    | get k guid => exact percentEncoded_ne_nil h
    | _ => trivial
  have hslash : ∀ part ∈ (call.route user).parts, '/' ∉ part :=
    notMem_parts call user (by decide) ⟨by decide, fun k => by cases k <;> decide⟩
  refine ⟨rfl, call.route user, ?_, ?_⟩
  · rw [Http.Request.path, splitTarget_request]
    exact Route.ofPath?_path hroute hslash
  · rw [Http.Request.query, splitTarget_request]
    exact call.spelledBy_route user

end Call

end RelationalCatalog
