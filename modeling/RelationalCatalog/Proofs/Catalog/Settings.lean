import RelationalCatalog.Catalog.Settings
import RelationalCatalog.Proofs.Json.Members

/-!
# Which objects are settings

Settings are read strictly: an object is read as settings just if it has no other names than those
of settings, none twice, and each of its members is of the type of its setting
(`Settings.decode_obj_eq_ok_iff`). What is left out has its default, so `Settings.Denotes` says for
each setting what it is. The types in the settings are read just as strictly
(`TypeDescriptor.decode_settings_eq_ok_iff`), and they may also be written as arrays.
-/

namespace RelationalCatalog

open Decode

/-- What is given stands for a value, or nothing is given and the value is the default. -/
def Given {α : Type} (typed : Json → α → Prop) (default : α) (given : Option Json) (a : α) : Prop :=
  given.elim (a = default) fun v => typed v a

variable {members : List (String × Json)} {items : List Json}

/-- A field that may be left out is found as what is given for it. -/
theorem Layout.found_eq_ok_iff_given {l : Layout} {e : Ending} {v : Json} {f : l.Field}
    {default a : l.Value f} (h : l.absence f = .anywhere default)
    {typed : Json → l.Value f → Prop}
    (htyped : ∀ v, l.decode f (v.toDraft e) = .ok a ↔ typed v a) :
    l.found e v f = .ok a ↔ Given typed default (v.member? (l.label f)) a := by
  rw [found_eq_ok_iff_of_anywhere h, Given]
  simp only [htyped]

/-! ## Types -/

namespace TypeDescriptor

/-- The type that an entry of the settings stands for. -/
inductive Denotes : Json → TypeDescriptor → Prop
  /-- An object with a name, and besides it at most a description and the names of supertypes. -/
  | object {members : List (String × Json)} {d : TypeDescriptor}
    (distinct : (members.map (·.1)).Nodup)
    (listed : ∀ n ∈ members.map (·.1), n ∈ ["name", "description", "super_types"])
    (name : (Json.obj members).member? "name" = some (.str d.name))
    (description : Given (fun v s => v = .str s) "" ((Json.obj members).member? "description")
      d.description)
    (superTypes : Given (fun v names => v = .ofTexts names) []
      ((Json.obj members).member? "super_types") d.superTypeNames) : Denotes (.obj members) d
  /-- An array of the same, of which the last two may be left out. -/
  | name (n : String) : Denotes (.arr [.str n]) ⟨n, "", []⟩
  | described (n s : String) : Denotes (.arr [.str n, .str s]) ⟨n, s, []⟩
  | full (n s : String) (names : List String) :
    Denotes (.arr [.str n, .str s, .ofTexts names]) ⟨n, s, names⟩

/-- The fields of a type. -/
def values (d : TypeDescriptor) : (f : Field) → layout.Value f
  | .name => d.name
  | .description => d.description
  | .superTypes => d.superTypeNames

theorem lawful_settingsLayout : layout.Lawful where
  field?_label := by intro f; cases f <;> rfl
  nodup := by decide

theorem decode_eq_ok_iff_values {draft : Draft} {d : TypeDescriptor} :
    decode draft = .ok d ↔ ∃ r, layout.read draft = .ok r ∧ ∀ f, r.take f = .ok (d.values f) := by
  rw [decode, bind_eq_ok_iff]
  refine exists_congr fun r => and_congr_right fun _ => ?_
  simp only [bind_eq_ok_iff]
  constructor
  · rintro ⟨name, hname, description, hdescription, names, hnames, h⟩
    cases h
    intro f
    cases f with
    | name => exact hname
    | description => exact hdescription
    | superTypes => exact hnames
  · intro h
    exact ⟨_, h .name, _, h .description, _, h .superTypes, rfl⟩

section Object

variable {d : TypeDescriptor}

theorem found_name_iff : layout.found .counted (.obj members) .name = .ok d.name ↔
    (Json.obj members).member? "name" = some (.str d.name) := by
  refine (Layout.found_eq_ok_iff_of_refused rfl).trans ?_
  simp only [layout, text_eq_ok_iff, exists_eq_right]

theorem found_description_iff :
    layout.found .counted (.obj members) .description = .ok d.description ↔
      Given (fun v s => v = .str s) "" ((Json.obj members).member? "description") d.description :=
  Layout.found_eq_ok_iff_given rfl fun _ => text_eq_ok_iff

theorem found_superTypes_iff :
    layout.found .counted (.obj members) .superTypes = .ok d.superTypeNames ↔
      Given (fun v names => v = .ofTexts names) [] ((Json.obj members).member? "super_types")
        d.superTypeNames :=
  Layout.found_eq_ok_iff_given rfl fun _ => texts_eq_ok_iff rfl

/-- An object is a type just if it has a name and, of the other names, only those of a type. -/
theorem decode_settings_obj_eq_ok_iff :
    decode (Json.obj members).draft = .ok d ↔ Denotes (.obj members) d := by
  have hread :=
    Layout.exists_read_obj_iff (e := .counted) lawful_settingsLayout rfl members d.values
  rw [Layout.admits_iff_of_refused lawful_settingsLayout rfl] at hread
  refine decode_eq_ok_iff_values.trans (hread.trans ?_)
  constructor
  · rintro ⟨⟨hdistinct, hlisted⟩, hfound⟩
    exact .object hdistinct hlisted (found_name_iff.mp (hfound .name))
      (found_description_iff.mp (hfound .description))
      (found_superTypes_iff.mp (hfound .superTypes))
  · intro h
    cases h with
    | object hdistinct hlisted hname hdescription hsuperTypes =>
      refine ⟨⟨hdistinct, hlisted⟩, fun f => ?_⟩
      cases f with
      | name => exact found_name_iff.mpr hname
      | description => exact found_description_iff.mpr hdescription
      | superTypes => exact found_superTypes_iff.mpr hsuperTypes

end Object

/-- Only the name must be given. -/
theorem fits_of_length (hpos : 0 < items.length) (hle : items.length ≤ 3) :
    layout.Fits layout.fields items where
  length_le := hle
  optional := by
    obtain ⟨n, hn⟩ := Nat.exists_eq_add_of_lt hpos
    rw [hn, Nat.zero_add]
    intro f hf
    have htail : f ∈ [Field.description, .superTypes] := List.mem_of_mem_drop hf
    rcases List.mem_cons.mp htail with rfl | htail
    · exact ⟨"", rfl⟩
    · obtain rfl := List.mem_singleton.mp htail
      exact ⟨[], rfl⟩

/-- An array is a type just if it has a name, then perhaps a description, and then perhaps the names
of supertypes. -/
theorem decode_settings_arr_eq_ok_iff {d : TypeDescriptor} :
    decode (Json.arr items).draft = .ok d ↔ Denotes (.arr items) d := by
  have hread := Layout.exists_read_arr_iff lawful_settingsLayout rfl (.inr rfl) items d.values
  refine decode_eq_ok_iff_values.trans (hread.trans ?_)
  obtain ⟨name, description, names⟩ := d
  constructor
  · rintro ⟨hfits, hfound⟩
    have hname := hfound .name
    have hdescription := hfound .description
    have hnames := hfound .superTypes
    match items with
    | [] => cases hname
    | [v] =>
      have hv : text (v.toDraft .counted) = .ok name := hname
      cases hdescription
      cases hnames
      rw [text_eq_ok_iff.mp hv]
      exact .name name
    | [v, w] =>
      have hv : text (v.toDraft .counted) = .ok name := hname
      have hw : text (w.toDraft .counted) = .ok description := hdescription
      cases hnames
      rw [text_eq_ok_iff.mp hv, text_eq_ok_iff.mp hw]
      exact .described name description
    | [v, w, x] =>
      have hv : text (v.toDraft .counted) = .ok name := hname
      have hw : text (w.toDraft .counted) = .ok description := hdescription
      have hx : Decode.list text (x.toDraft .counted) = .ok names := hnames
      rw [text_eq_ok_iff.mp hv, text_eq_ok_iff.mp hw, (texts_eq_ok_iff rfl).mp hx]
      exact .full name description names
    | _ :: _ :: _ :: _ :: _ => exact absurd hfits.length_le (by simp [layout])
  · intro h
    cases h with
    | name =>
      refine ⟨fits_of_length (by simp) (by simp), fun f => ?_⟩
      cases f <;> rfl
    | described =>
      refine ⟨fits_of_length (by simp) (by simp), fun f => ?_⟩
      cases f <;> rfl
    | full =>
      refine ⟨fits_of_length (by simp) (by simp), fun f => ?_⟩
      cases f with
      | name | description => rfl
      | superTypes => exact (texts_eq_ok_iff rfl).mpr rfl

/-- **An entry is read as the type that it stands for.** -/
theorem decode_settings_eq_ok_iff {v : Json} {d : TypeDescriptor} :
    decode v.draft = .ok d ↔ Denotes v d := by
  cases v with
  | obj members => exact decode_settings_obj_eq_ok_iff
  | arr items => exact decode_settings_arr_eq_ok_iff
  | _ => exact iff_of_false nofun nofun

end TypeDescriptor

/-! ## Settings -/

namespace Settings

/-- The entities that a value stands for, each decoded for itself. -/
def DenotesEntities (v : Json) (entities : List Entity) : Prop :=
  ∃ items, v = .arr items ∧
    List.Forall₂ (fun item e => decodeValue Entity.decode item = .ok e) items entities

/-- The types that a value stands for. -/
def DenotesTypes (v : Json) (types : List TypeDescriptor) : Prop :=
  ∃ items, v = .arr items ∧ List.Forall₂ TypeDescriptor.Denotes items types

/-- The users that a value stands for: without a list of them everybody may call. -/
def DenotesUsers (v : Json) (users : Option (List String)) : Prop :=
  (v = .null ∧ users = none) ∨ ∃ names, v = .ofTexts names ∧ users = some names

/-- The settings that an object stands for. -/
structure Denotes (members : List (String × Json)) (s : Settings) : Prop where
  /-- no name is there twice -/
  distinct : (members.map (·.1)).Nodup
  /-- every name is that of a setting -/
  listed : ∀ n ∈ members.map (·.1), n ∈ ["types", "entities", "default_page_size", "max_page_size",
    "authorized_users", "mirror_http_status"]
  types : Given DenotesTypes default.types ((Json.obj members).member? "types") s.types
  entities : Given DenotesEntities default.entities ((Json.obj members).member? "entities")
    s.entities
  defaultPageSize : Given (fun v n => v = .int n.toNat) default.defaultPageSize
    ((Json.obj members).member? "default_page_size") s.defaultPageSize
  maxPageSize : Given (fun v n => v = .int n.toNat) default.maxPageSize
    ((Json.obj members).member? "max_page_size") s.maxPageSize
  authorizedUsers : Given DenotesUsers default.authorizedUsers
    ((Json.obj members).member? "authorized_users") s.authorizedUsers
  statusFollowsCode : Given (fun v b => v = .bool b) default.statusFollowsCode
    ((Json.obj members).member? "mirror_http_status") s.statusFollowsCode

/-- The fields of the settings. -/
def values (s : Settings) : (f : Field) → layout.Value f
  | .types => s.types
  | .entities => s.entities
  | .defaultPageSize => s.defaultPageSize
  | .maxPageSize => s.maxPageSize
  | .authorizedUsers => s.authorizedUsers
  | .statusFollowsCode => s.statusFollowsCode

theorem lawful_layout : layout.Lawful where
  field?_label := by intro f; cases f <;> rfl
  nodup := by decide

variable {s : Settings} {v : Json}

theorem decode_eq_ok_iff_values {draft : Draft} :
    decode draft = .ok s ↔ ∃ r, layout.read draft = .ok r ∧ ∀ f, r.take f = .ok (s.values f) := by
  rw [decode, bind_eq_ok_iff]
  refine exists_congr fun r => and_congr_right fun _ => ?_
  simp only [bind_eq_ok_iff]
  constructor
  · rintro ⟨types, htypes, entities, hentities, defaultSize, hdefault, maxSize, hmax, users, husers,
      follows, hfollows, h⟩
    cases h
    intro f
    cases f with
    | types => exact htypes
    | entities => exact hentities
    | defaultPageSize => exact hdefault
    | maxPageSize => exact hmax
    | authorizedUsers => exact husers
    | statusFollowsCode => exact hfollows
  · intro h
    exact ⟨_, h .types, _, h .entities, _, h .defaultPageSize, _, h .maxPageSize, _,
      h .authorizedUsers, _, h .statusFollowsCode, rfl⟩

theorem types_eq_ok_iff {types : List TypeDescriptor} :
    Decode.list TypeDescriptor.decode (v.toDraft .counted) = .ok types ↔ DenotesTypes v types := by
  rw [list_eq_ok_iff rfl, DenotesTypes]
  have hentry (item : Json) (d : TypeDescriptor) :
      TypeDescriptor.decode (item.toDraft .counted) = .ok d ↔ TypeDescriptor.Denotes item d :=
    TypeDescriptor.decode_settings_eq_ok_iff
  simp only [hentry]

theorem entities_eq_ok_iff {entities : List Entity} :
    Decode.list Entity.decode (v.toDraft .counted) = .ok entities ↔ DenotesEntities v entities :=
  list_eq_ok_iff rfl

theorem users_eq_ok_iff {users : Option (List String)} :
    Decode.optional (Decode.list text) (v.toDraft .counted) = .ok users ↔ DenotesUsers v users := by
  rw [optional_eq_ok_iff fun _ h => (by cases h), DenotesUsers]
  simp only [texts_eq_ok_iff (e := .counted) rfl, eq_comm]

/-- The values that the member of a field stands for. -/
def Typed : (f : Field) → Json → layout.Value f → Prop
  | .types => DenotesTypes
  | .entities => DenotesEntities
  | .defaultPageSize => fun v n => v = .int n.toNat
  | .maxPageSize => fun v n => v = .int n.toNat
  | .authorizedUsers => DenotesUsers
  | .statusFollowsCode => fun v b => v = .bool b

theorem decode_field_eq_ok_iff (f : Field) {a : layout.Value f} :
    layout.decode f (v.toDraft .counted) = .ok a ↔ Typed f v a := by
  cases f with
  | types => exact types_eq_ok_iff
  | entities => exact entities_eq_ok_iff
  | defaultPageSize => exact uint64_eq_ok_iff
  | maxPageSize => exact uint64_eq_ok_iff
  | authorizedUsers => exact users_eq_ok_iff
  | statusFollowsCode => exact boolean_eq_ok_iff

/-- Every field may be left out, and has its default then. -/
theorem absence_eq (f : Field) : layout.absence f = .anywhere (default.values f) := by
  cases f <;> rfl

theorem found_iff (f : Field) :
    layout.found .counted (.obj members) f = .ok (s.values f) ↔
      Given (Typed f) (default.values f) ((Json.obj members).member? (layout.label f))
        (s.values f) :=
  Layout.found_eq_ok_iff_given (absence_eq f) fun _ => decode_field_eq_ok_iff f

/-- **An object is read as the settings that it stands for**, and as nothing else. -/
theorem decode_obj_eq_ok_iff :
    decodeValue decode (.obj members) = .ok s ↔ Denotes members s := by
  have hread := Layout.exists_read_obj_iff (e := .counted) lawful_layout rfl members s.values
  rw [Layout.admits_iff_of_refused lawful_layout rfl] at hread
  refine decode_eq_ok_iff_values.trans (hread.trans ?_)
  constructor
  · rintro ⟨⟨hdistinct, hlisted⟩, h⟩
    exact {
      distinct := hdistinct
      listed := hlisted
      types := (found_iff .types).mp (h .types)
      entities := (found_iff .entities).mp (h .entities)
      defaultPageSize := (found_iff .defaultPageSize).mp (h .defaultPageSize)
      maxPageSize := (found_iff .maxPageSize).mp (h .maxPageSize)
      authorizedUsers := (found_iff .authorizedUsers).mp (h .authorizedUsers)
      statusFollowsCode := (found_iff .statusFollowsCode).mp (h .statusFollowsCode) }
  · intro h
    refine ⟨⟨h.distinct, h.listed⟩, fun f => (found_iff f).mpr ?_⟩
    cases f with
    | types => exact h.types
    | entities => exact h.entities
    | defaultPageSize => exact h.defaultPageSize
    | maxPageSize => exact h.maxPageSize
    | authorizedUsers => exact h.authorizedUsers
    | statusFollowsCode => exact h.statusFollowsCode

end Settings

end RelationalCatalog
