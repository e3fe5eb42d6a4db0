import RelationalCatalog.Proofs.Json.Members
import RelationalCatalog.Proofs.Rest.Envelope

/-!
# Which objects are envelopes

An object with different names is read as a failure, as a success, or not at all, and which of
these is told by its members (`Envelope.decode_object_iff`). The members of the envelope must be of
the right types, whatever comes of it (`Envelope.WellTyped`). A class name then makes it a failure.
Without one, the code must be 200, and the object must be read as a payload.

Envelope and payload share the object. The envelope keeps aside the members that are none of its
own, and this is where the payload is read from; but as the two have no names in common, it is the
same payload that the whole object gives (`PayloadKind.decode_kept`).
-/

namespace RelationalCatalog

/-- The kinds of payloads. -/
inductive PayloadKind
  | types
  | type
  | element (k : BeanKind)
  | elements (k : BeanKind)

namespace PayloadKind

/-- The payloads of a kind. -/
def Payload : PayloadKind → Type
  | .types => SupportedTypes
  | .type => TypeElement
  | .element k => SingleElement k.Element
  | .elements k => ElementList k.Element

/-- How the payloads of a kind are read and written. -/
def form : (kind : PayloadKind) → PayloadForm kind.Payload
  | .types => SupportedTypes.payloadForm
  | .type => TypeElement.payloadForm
  | .element k => SingleElement.payloadForm k.wireForm
  | .elements k => ElementList.payloadForm k.wireForm

/-- The names of a payload's members. -/
def names : PayloadKind → List String
  | .types => ["types"]
  | .type => ["name", "description", "superTypeNames"]
  | .element _ => ["element"]
  | .elements _ => ["elementList", "startFrom", "pageSize"]

variable {kind : PayloadKind} {e : Ending} {members : List (String × Json)} {p : kind.Payload}

/-- What is read as a payload depends only on the members of the payload's names. -/
theorem decode_congr (he : e.readFault? = none) {members' : List (String × Json)}
    (hdistinct : (members.map (·.1)).Nodup) (hdistinct' : (members'.map (·.1)).Nodup)
    (hsame : ∀ name ∈ kind.names,
      (Json.obj members').member? name = (Json.obj members).member? name) :
    kind.form.decode ((Json.obj members').toDraft e) = .ok p ↔
      kind.form.decode ((Json.obj members).toDraft e) = .ok p := by
  cases kind with
  | types =>
    refine Layout.read_bind_congr SupportedTypes.lawful_layout rfl he hdistinct hdistinct'
      fun f => ?_
    exact hsame "types" (List.mem_singleton.mpr rfl)
  | type =>
    refine Layout.read_bind_congr TypeElement.lawful_layout rfl he hdistinct hdistinct'
      fun f => hsame _ ?_
    cases f <;> decide
  | element k =>
    refine Layout.read_bind_congr (SingleElement.lawful_layout k) rfl he hdistinct hdistinct'
      fun f => ?_
    exact hsame "element" (List.mem_singleton.mpr rfl)
  | elements k =>
    refine Layout.read_bind_congr (ElementList.lawful_layout k) rfl he hdistinct hdistinct'
      fun f => hsame _ ?_
    cases f <;> simp [names, ElementList.layout]

/-- No member of a payload is taken for one of the envelope. -/
theorem field?_of_mem_names {name : String} (h : name ∈ kind.names) :
    Envelope.layout.field? name = none := by
  cases kind with
  | types | element =>
    obtain rfl := List.mem_singleton.mp h
    rfl
  | type | elements =>
    simp only [names, List.mem_cons, List.not_mem_nil, or_false] at h
    rcases h with rfl | rfl | rfl <;> rfl

/-- The members that the envelope keeps aside give the payload that the whole object gives. -/
theorem decode_kept (hdistinct : (members.map (·.1)).Nodup) :
    kind.form.decode (Json.obj (Envelope.layout.kept members)).draft = .ok p ↔
      kind.form.decode (Json.obj members).draft = .ok p := by
  have hkept : Envelope.layout.kept members =
      members.filter fun m => (Envelope.layout.field? m.1).isNone := if_pos rfl
  refine decode_congr rfl hdistinct ?_ fun name hname => ?_
  · rw [hkept]
    exact hdistinct.sublist (List.filter_sublist.map _)
  · rw [hkept]
    exact Json.member?_filter (p := fun name => (Envelope.layout.field? name).isNone)
      (Option.isNone_iff_eq_none.mpr (field?_of_mem_names hname)) members

theorem toOption_decode_kept (hdistinct : (members.map (·.1)).Nodup) :
    (kind.form.decode (Json.obj (Envelope.layout.kept members)).draft).toOption =
      (kind.form.decode (Json.obj members).draft).toOption := by
  refine Option.ext fun p => ?_
  rw [Decode.toOption_eq_some_iff, Decode.toOption_eq_some_iff, decode_kept hdistinct]

end PayloadKind

namespace Json

variable {v : Json} {e : Ending} {name : String}

/-- The text of a member, if there is one and it is a text. -/
def text? (v : Json) (name : String) : Option String :=
  match v.member? name with
  | some (.str s) => some s
  | _ => none

/-- A member is absent, null or a text. -/
def OptionalText (v : Json) (name : String) : Prop :=
  v.member? name = none ∨ v.member? name = some .null ∨ ∃ s, v.member? name = some (.str s)

/-- An object whose members have different names. -/
def IsPlainObject (v : Json) : Prop :=
  ∃ members, v = .obj members ∧ (members.map (·.1)).Nodup

theorem text?_congr {v' : Json} (h : v'.member? name = v.member? name) :
    v'.text? name = v.text? name := by
  rw [text?, text?, h]

theorem text?_eq_some_iff {s : String} :
    v.text? name = some s ↔ v.member? name = some (.str s) := by
  rw [text?]
  cases v.member? name with
  | none => simp
  | some value => cases value <;> simp

theorem OptionalText.text?_eq_none_iff (h : v.OptionalText name) :
    v.text? name = none ↔ v.member? name = none ∨ v.member? name = some .null := by
  rw [text?]
  obtain h | h | ⟨s, h⟩ := h <;> simp [h]

/-- The text of a member that may be absent or null, decoded. -/
def foundText (e : Ending) (v : Json) (name : String) : Decoded (Option String) :=
  ((v.member? name).map fun value => Decode.optional Decode.text (value.toDraft e)).getD (.ok none)

theorem foundText_eq_ok_iff {o : Option String} :
    v.foundText e name = .ok o ↔ v.OptionalText name ∧ v.text? name = o := by
  rw [foundText, OptionalText, text?]
  cases v.member? name with
  | none => simp
  | some value =>
    simp only [Option.map_some, Option.getD_some, Decode.optionalText_eq_ok_iff]
    cases value <;> cases o <;> simp

end Json

namespace Envelope

variable {P : Type} {form : PayloadForm P} {v : Json} {e : Ending}

/-- The name of the member with the code. -/
def codeName : String := "relatedHTTPCode"

/-- The names of the members that are texts and need not be there. -/
def textNames : List String :=
  ["actionDescription", "exceptionClassName", "exceptionErrorMessageId", "exceptionErrorMessage",
    "exceptionSystemAction", "exceptionUserAction"]

/-- The members of an envelope have the right types. -/
structure WellTyped (v : Json) : Prop where
  /-- the code is an integer of 16 bits -/
  code : ∃ n : Nat, n ≤ 65535 ∧ v.member? codeName = some (.int n)
  /-- each of the others is a text, or there is none -/
  texts : ∀ name ∈ textNames, v.OptionalText name

/-- The values of the fields of an envelope. -/
def Parts.values (p : Parts P) : (f : Field) → layout.Value f
  | .action => p.action
  | .code => p.code
  | .className => p.className
  | .messageId => p.messageId
  | .message => p.message
  | .systemAction => p.systemAction
  | .userAction => p.userAction

/-- The parts say what the members of an object say. -/
structure Parts.Tell (p : Parts P) (v : Json) : Prop where
  action : v.text? "actionDescription" = p.action
  code : v.member? codeName = some (.int p.code.toNat)
  className : v.text? "exceptionClassName" = p.className
  messageId : v.text? "exceptionErrorMessageId" = p.messageId
  message : v.text? "exceptionErrorMessage" = p.message
  systemAction : v.text? "exceptionSystemAction" = p.systemAction
  userAction : v.text? "exceptionUserAction" = p.userAction

theorem found_code_iff {code : UInt16} :
    layout.found e v .code = .ok code ↔ v.member? codeName = some (.int code.toNat) := by
  show ((v.member? codeName).map fun value => Decode.uint16 (value.toDraft e)).getD
    (.error (.mismatch (.missingField codeName))) = .ok code ↔ _
  cases v.member? codeName with
  | none => exact ⟨fun h => (by cases h), fun h => (by cases h)⟩
  | some value =>
    rw [Option.map_some, Option.getD_some, Option.some_inj]
    exact Decode.uint16_eq_ok_iff

/-- The fields of an envelope are found in an object just if its members have the right types. -/
theorem found_iff {p : Parts P} :
    (∀ f, layout.found e v f = .ok (p.values f)) ↔ WellTyped v ∧ p.Tell v := by
  -- All fields are texts that need not be there, but for the code.
  constructor
  · intro h
    obtain ⟨hactionTyped, haction⟩ := Json.foundText_eq_ok_iff.mp (h .action)
    obtain ⟨hclassTyped, hclass⟩ := Json.foundText_eq_ok_iff.mp (h .className)
    obtain ⟨hidTyped, hid⟩ := Json.foundText_eq_ok_iff.mp (h .messageId)
    obtain ⟨hmessageTyped, hmessage⟩ := Json.foundText_eq_ok_iff.mp (h .message)
    obtain ⟨hsystemTyped, hsystem⟩ := Json.foundText_eq_ok_iff.mp (h .systemAction)
    obtain ⟨huserTyped, huser⟩ := Json.foundText_eq_ok_iff.mp (h .userAction)
    have hcode : v.member? codeName = some (.int p.code.toNat) := found_code_iff.mp (h .code)
    have hbound : p.code.toNat ≤ 65535 := Nat.le_of_lt_succ p.code.toNat_lt
    refine ⟨⟨⟨p.code.toNat, hbound, hcode⟩, ?_⟩,
      ⟨haction, hcode, hclass, hid, hmessage, hsystem, huser⟩⟩
    simp only [textNames, List.forall_mem_cons]
    exact ⟨hactionTyped, hclassTyped, hidTyped, hmessageTyped, hsystemTyped, huserTyped, nofun⟩
  · rintro ⟨htyped, htell⟩ f
    have htext {name : String} {o : Option String} (hname : name ∈ textNames)
        (ho : v.text? name = o) : v.foundText e name = .ok o :=
      Json.foundText_eq_ok_iff.mpr ⟨htyped.texts name hname, ho⟩
    cases f with
    | action => exact htext (by decide) htell.action
    | code => exact found_code_iff.mpr htell.code
    | className => exact htext (by decide) htell.className
    | messageId => exact htext (by decide) htell.messageId
    | message => exact htext (by decide) htell.message
    | systemAction => exact htext (by decide) htell.systemAction
    | userAction => exact htext (by decide) htell.userAction

/-- The parts are the fields of a record and the payload from its other members. -/
theorem Parts.decode_eq_ok_iff {d : Draft} {p : Parts P} :
    Parts.decode form d = .ok p ↔ ∃ r, layout.read d = .ok r ∧
      (∀ f, r.take f = .ok (p.values f)) ∧
      (form.decode (Json.obj r.others).draft).toOption = p.payload := by
  simp only [decode, bind_eq_ok_iff, pure, Except.pure, Except.ok.injEq]
  constructor
  · rintro ⟨r, hr, action, haction, code, hcode, className, hclass, messageId, hid, message,
      hmessage, systemAction, hsystem, userAction, huser, rfl⟩
    refine ⟨r, hr, fun f => ?_, rfl⟩
    cases f <;> assumption
  · rintro ⟨r, hr, htake, hpayload⟩
    refine ⟨r, hr, p.action, htake .action, p.code, htake .code, p.className, htake .className,
      p.messageId, htake .messageId, p.message, htake .message, p.systemAction, htake .systemAction,
      p.userAction, htake .userAction, ?_⟩
    rw [hpayload]

/-! ## Outcomes -/

theorem Parts.outcome_eq_failure_iff {p : Parts P} {f : Failure} :
    p.outcome = .ok (.failure f) ↔ p.className = some f.className ∧ p.code = f.code ∧
      p.messageId = f.messageId ∧ p.message.getD "" = f.message ∧
      p.systemAction = f.systemAction ∧ p.userAction = f.userAction := by
  obtain ⟨action, code, className, messageId, message, systemAction, userAction, payload⟩ := p
  obtain ⟨fcode, fclassName, fmessageId, fmessage, fsystemAction, fuserAction⟩ := f
  rw [Parts.outcome]
  cases className with
  | some className =>
    simp only [Except.ok.injEq, Outcome.failure.injEq, Failure.mk.injEq, Option.some_inj]
    exact and_left_comm
  | none =>
    cases payload with
    | none => simp
    | some payload =>
      dsimp only
      split <;> simp

theorem Parts.outcome_eq_success_iff {p : Parts P} {payload : P} :
    p.outcome = .ok (.success payload) ↔
      p.className = none ∧ p.code = successCode ∧ p.payload = some payload := by
  obtain ⟨action, code, className, messageId, message, systemAction, userAction, payload'⟩ := p
  rw [Parts.outcome]
  cases className with
  | some className => simp
  | none =>
    cases payload' with
    | none => simp
    | some payload' =>
      dsimp only
      split <;> simp_all

/-- An envelope is what its parts speak of. -/
theorem decode_eq_ok_iff {d : Draft} {action : Option String} {outcome : Outcome P} :
    decode form d = .ok ⟨action, outcome⟩ ↔
      ∃ p, Parts.decode form d = .ok p ∧ p.action = action ∧ p.outcome = .ok outcome := by
  rw [decode, bind_eq_ok_iff]
  refine exists_congr fun p => and_congr_right fun _ => ?_
  cases p.outcome <;> simp

/-! ## Objects -/

section Object

variable {kind : PayloadKind} {action : Option String}

/-- The parts of an envelope are read from an object just if its members have the right types. -/
theorem Parts.decode_object (hv : v.IsPlainObject) (he : e.readFault? = none)
    {p : Parts kind.Payload} :
    Parts.decode kind.form (v.toDraft e) = .ok p ↔
      WellTyped v ∧ p.Tell v ∧ (kind.form.decode v.draft).toOption = p.payload := by
  obtain ⟨members, rfl, hdistinct⟩ := hv
  have hkept : layout.unlisted ≠ .refused := by decide
  have hread := Layout.exists_read_iff lawful_layout he members p.values fun others =>
    (kind.form.decode (Json.obj others).draft).toOption = p.payload
  refine Iff.trans Parts.decode_eq_ok_iff (hread.trans ?_)
  rw [and_iff_right (Layout.admits_of_nodup hkept hdistinct),
    PayloadKind.toOption_decode_kept hdistinct, ← and_assoc]
  exact and_congr_left fun _ => found_iff

theorem decode_failure_iff (hv : v.IsPlainObject) (he : e.readFault? = none) {f : Failure} :
    decode kind.form (v.toDraft e) = .ok ⟨action, .failure f⟩ ↔
      WellTyped v ∧ v.member? codeName = some (.int f.code.toNat) ∧
        v.text? "exceptionClassName" = some f.className ∧
        v.text? "exceptionErrorMessageId" = f.messageId ∧
        (v.text? "exceptionErrorMessage").getD "" = f.message ∧
        v.text? "exceptionSystemAction" = f.systemAction ∧
        v.text? "exceptionUserAction" = f.userAction ∧
        v.text? "actionDescription" = action := by
  rw [decode_eq_ok_iff]
  simp only [Parts.decode_object hv he, Parts.outcome_eq_failure_iff]
  constructor
  · rintro ⟨p, ⟨htyped, htell, -⟩, rfl, hclass, hcode, hid, hmessage, hsystem, huser⟩
    refine ⟨htyped, ?_, htell.className.trans hclass, htell.messageId.trans hid, ?_,
      htell.systemAction.trans hsystem, htell.userAction.trans huser, htell.action⟩
    · rw [← hcode]
      exact htell.code
    · rw [htell.message]
      exact hmessage
  · -- A failure does not look at the payload: it is whatever the object gives.
    rintro ⟨htyped, hcode, hclass, hid, hmessage, hsystem, huser, haction⟩
    refine ⟨⟨action, f.code, some f.className, f.messageId, v.text? "exceptionErrorMessage",
      f.systemAction, f.userAction, (kind.form.decode v.draft).toOption⟩,
      ⟨htyped, ⟨haction, hcode, hclass, hid, rfl, hsystem, huser⟩, rfl⟩,
      rfl, rfl, rfl, rfl, hmessage, rfl, rfl⟩

theorem decode_success_iff (hv : v.IsPlainObject) (he : e.readFault? = none)
    {payload : kind.Payload} :
    decode kind.form (v.toDraft e) = .ok ⟨action, .success payload⟩ ↔
      WellTyped v ∧ v.member? codeName = some (.int 200) ∧
        v.text? "exceptionClassName" = none ∧ kind.form.decode v.draft = .ok payload ∧
        v.text? "actionDescription" = action := by
  rw [decode_eq_ok_iff]
  simp only [Parts.decode_object hv he, Parts.outcome_eq_success_iff]
  constructor
  · rintro ⟨p, ⟨htyped, htell, hread⟩, rfl, hclass, hcode, hpayload⟩
    refine ⟨htyped, ?_, htell.className.trans hclass, ?_, htell.action⟩
    · rw [htell.code, hcode]
      rfl
    · exact Decode.toOption_eq_some_iff.mp (hread.trans hpayload)
  · rintro ⟨htyped, hcode, hclass, hpayload, haction⟩
    refine ⟨⟨action, successCode, none, v.text? "exceptionErrorMessageId",
      v.text? "exceptionErrorMessage", v.text? "exceptionSystemAction",
      v.text? "exceptionUserAction", some payload⟩,
      ⟨htyped, ⟨haction, hcode, hclass, rfl, rfl, rfl, rfl⟩,
        Decode.toOption_eq_some_iff.mpr hpayload⟩, rfl, rfl, rfl, rfl⟩

/-- An object is an envelope if it tells a failure, or else a success with its payload. -/
theorem exists_decode_iff (hv : v.IsPlainObject) (he : e.readFault? = none) :
    (∃ envelope, decode kind.form (v.toDraft e) = .ok envelope) ↔
      WellTyped v ∧ ((∃ className, v.text? "exceptionClassName" = some className) ∨
        v.member? codeName = some (.int 200) ∧
          ∃ payload, kind.form.decode v.draft = .ok payload) := by
  constructor
  · rintro ⟨⟨action, outcome⟩, h⟩
    cases outcome with
    | failure f =>
      obtain ⟨htyped, -, hclass, -⟩ := (decode_failure_iff hv he).mp h
      exact ⟨htyped, .inl ⟨f.className, hclass⟩⟩
    | success payload =>
      obtain ⟨htyped, hcode, -, hpayload, -⟩ := (decode_success_iff hv he).mp h
      exact ⟨htyped, .inr ⟨hcode, payload, hpayload⟩⟩
  · rintro ⟨htyped, h⟩
    cases hclass : v.text? "exceptionClassName" with
    | some className =>
      obtain ⟨n, hn, hcode⟩ := htyped.code
      have hcode' : v.member? codeName = some (.int (UInt16.ofNat n).toNat) := by
        rw [hcode, UInt16.toNat_ofNat_of_lt' (Nat.lt_succ_of_le hn)]
      exact ⟨⟨_, .failure ⟨UInt16.ofNat n, className, _, _, _, _⟩⟩,
        (decode_failure_iff hv he).mpr ⟨htyped, hcode', hclass, rfl, rfl, rfl, rfl, rfl⟩⟩
    | none =>
      obtain ⟨className, hclass'⟩ | ⟨hcode, payload, hpayload⟩ := h
      · rw [hclass] at hclass'
        cases hclass'
      · exact ⟨⟨_, .success payload⟩,
          (decode_success_iff hv he).mpr ⟨htyped, hcode, hclass, hpayload, rfl⟩⟩

section Declared

variable {v' : Json}

theorem wellTyped_congr (hcode : v'.member? codeName = v.member? codeName)
    (htexts : ∀ name ∈ textNames, v'.member? name = v.member? name) :
    WellTyped v' ↔ WellTyped v := by
  have htyped {name : String} (hname : name ∈ textNames) :
      v'.OptionalText name ↔ v.OptionalText name := by
    rw [Json.OptionalText, Json.OptionalText, htexts name hname]
  constructor
  · rintro ⟨⟨n, hn, hmember⟩, h⟩
    exact ⟨⟨n, hn, hcode ▸ hmember⟩, fun name hname => (htyped hname).mp (h name hname)⟩
  · rintro ⟨⟨n, hn, hmember⟩, h⟩
    exact ⟨⟨n, hn, hcode.trans hmember⟩, fun name hname => (htyped hname).mpr (h name hname)⟩

/-- Objects that agree on the declared members are read as the same envelope. -/
theorem decode_congr (hv : v.IsPlainObject) (hv' : v'.IsPlainObject) {e' : Ending}
    (he : e.readFault? = none) (he' : e'.readFault? = none)
    (hsame : ∀ name ∈ codeName :: textNames ++ kind.names, v'.member? name = v.member? name)
    {envelope : Envelope kind.Payload} :
    decode kind.form (v'.toDraft e') = .ok envelope ↔
      decode kind.form (v.toDraft e) = .ok envelope := by
  have hcode : v'.member? codeName = v.member? codeName := hsame _ (by simp)
  have htexts : ∀ name ∈ textNames, v'.member? name = v.member? name :=
    fun name hname => hsame _ (by simp [hname])
  have htext (name : String) (hname : name ∈ textNames) : v'.text? name = v.text? name :=
    Json.text?_congr (htexts name hname)
  have hclass := htext "exceptionClassName" (by decide)
  have haction := htext "actionDescription" (by decide)
  have hpayload (payload : kind.Payload) :
      kind.form.decode v'.draft = .ok payload ↔ kind.form.decode v.draft = .ok payload := by
    obtain ⟨members, rfl, hdistinct⟩ := hv
    obtain ⟨members', rfl, hdistinct'⟩ := hv'
    exact PayloadKind.decode_congr rfl hdistinct hdistinct'
      fun name hname => hsame name (List.mem_append_right _ hname)
  obtain ⟨action, outcome⟩ := envelope
  cases outcome with
  | failure f =>
    rw [decode_failure_iff hv he, decode_failure_iff hv' he', wellTyped_congr hcode htexts, hcode,
      hclass, haction, htext "exceptionErrorMessageId" (by decide),
      htext "exceptionErrorMessage" (by decide), htext "exceptionSystemAction" (by decide),
      htext "exceptionUserAction" (by decide)]
  | success payload =>
    rw [decode_success_iff hv he, decode_success_iff hv' he', wellTyped_congr hcode htexts, hcode,
      hclass, haction, hpayload]

end Declared

end Object

/-- **The members of an object tell what envelope it is.** It is a failure just if its members
have the right types and there is a class name, and a success just if they have, the class name is
absent or null, the code is 200 and the object is read as a payload. It is refused in all other
cases. Neither the order of the members nor undeclared ones matter. -/
theorem decode_object_iff (kind : PayloadKind) {v : Json} (hv : v.IsPlainObject) {e : Ending}
    (he : e.readFault? = none) :
    (∀ action f, decode kind.form (v.toDraft e) = .ok ⟨action, .failure f⟩ ↔
      WellTyped v ∧ v.member? codeName = some (.int f.code.toNat) ∧
        v.member? "exceptionClassName" = some (.str f.className) ∧
        v.text? "exceptionErrorMessageId" = f.messageId ∧
        (v.text? "exceptionErrorMessage").getD "" = f.message ∧
        v.text? "exceptionSystemAction" = f.systemAction ∧
        v.text? "exceptionUserAction" = f.userAction ∧
        v.text? "actionDescription" = action) ∧
    (∀ action payload, decode kind.form (v.toDraft e) = .ok ⟨action, .success payload⟩ ↔
      WellTyped v ∧ v.member? codeName = some (.int 200) ∧
        (v.member? "exceptionClassName" = none ∨ v.member? "exceptionClassName" = some .null) ∧
        kind.form.decode v.draft = .ok payload ∧
        v.text? "actionDescription" = action) ∧
    ((∃ error, decode kind.form (v.toDraft e) = .error error) ↔
      ¬ (WellTyped v ∧
        ((∃ className, v.member? "exceptionClassName" = some (.str className)) ∨
          v.member? codeName = some (.int 200) ∧
            ∃ payload, kind.form.decode v.draft = .ok payload))) ∧
    (∀ (v' : Json) (e' : Ending), v'.IsPlainObject → e'.readFault? = none →
      (∀ name ∈ codeName :: textNames ++ kind.names, v'.member? name = v.member? name) →
      ∀ envelope, decode kind.form (v'.toDraft e') = .ok envelope ↔
        decode kind.form (v.toDraft e) = .ok envelope) := by
  refine ⟨fun action f => ?_, fun action payload => ?_, ?_, fun v' e' hv' he' hsame envelope => ?_⟩
  · rw [decode_failure_iff hv he, Json.text?_eq_some_iff]
  · rw [decode_success_iff hv he]
    refine and_congr_right fun htyped => and_congr_right fun _ => and_congr_left fun _ => ?_
    exact (htyped.texts _ (by decide)).text?_eq_none_iff
  · have hok : (∃ envelope, decode kind.form (v.toDraft e) = .ok envelope) ↔ _ :=
      exists_decode_iff hv he
    simp only [Json.text?_eq_some_iff] at hok
    rw [← hok]
    cases decode kind.form (v.toDraft e) <;> simp
  · exact decode_congr hv hv' he he' hsame

/-- A member of another name, and another order, do not change what is read. -/
theorem decode_object_with_version :
    decode PayloadKind.types.form ((Json.obj [("serverVersion", .str "4.3"),
      ("types", .arr []), ("relatedHTTPCode", .int 200)]).toDraft .closed) =
        .ok ⟨none, .success ⟨[]⟩⟩ := by
  have hv : (Json.obj [("relatedHTTPCode", .int 200), ("types", .arr [])]).IsPlainObject :=
    ⟨_, rfl, by decide⟩
  have hv' : (Json.obj [("serverVersion", .str "4.3"), ("types", .arr []),
      ("relatedHTTPCode", .int 200)]).IsPlainObject := ⟨_, rfl, by decide⟩
  obtain ⟨-, hsuccess, -, hsame⟩ := decode_object_iff .types hv (e := .counted) rfl
  refine (hsame _ .closed hv' rfl ?_ _).mpr ((hsuccess none ⟨[]⟩).mpr ?_)
  · simp only [textNames, PayloadKind.names, List.cons_append, List.nil_append,
      List.forall_mem_cons]
    exact ⟨rfl, rfl, rfl, rfl, rfl, rfl, rfl, rfl, nofun⟩
  · refine ⟨⟨⟨200, by decide, rfl⟩, ?_⟩, rfl, .inl rfl, rfl, rfl⟩
    simp only [textNames, List.forall_mem_cons]
    exact ⟨.inl rfl, .inl rfl, .inl rfl, .inl rfl, .inl rfl, .inl rfl, nofun⟩

end Envelope

end RelationalCatalog
