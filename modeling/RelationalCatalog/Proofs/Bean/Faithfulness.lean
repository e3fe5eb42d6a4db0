import RelationalCatalog.Proofs.Attribute.Mapping
import RelationalCatalog.Proofs.Bean.Conversion

/-!
# Beans reproduce their entities

The table of a mapping and its assembly are written separately, and an access under a wrong name
or of a wrong kind is not noticed: it finds nothing and gives the default. Here it is shown that
for tables, columns and schemas the two agree.

A `BeanView` says under which names a bean shows what, and `BeanView.Reproduces` what it should
show of an entity. A view is `Lawful` for a mapping if the assembly shows, under each name of the
table, the value that it is given or else the default, and takes all of them out. Then a converted
bean reproduces its entity (`BeanView.Lawful.reproduces`), and no other bean does
(`BeanView.Lawful.eq_of_reproduces`).
-/

namespace RelationalCatalog

open Attributes

/-! ## What beans show -/

/-- How the beans of a kind are looked at. -/
structure BeanView (β : Type) where
  /-- the identifier -/
  guid : β → String
  /-- the names of the classifications -/
  classifications : β → List String
  /-- whether a bean belongs to the primary key, where beans say so -/
  isPrimaryKey? : Option (β → Bool)
  /-- the value that is shown for an attribute -/
  shown : β → String → Option AttributeValue
  /-- the bean that shows the defaults -/
  blank : β

namespace BeanView

variable {β : Type}

/-- What a bean should show of an entity, whose attributes are those of a table. -/
structure Reproduces (view : BeanView β) (specs : List AttributeSpec) (e : Entity) (bean : β) :
    Prop where
  /-- the bean has the identifier of the entity -/
  guid : view.guid bean = e.guid
  /-- it has the classifications of the entity -/
  mem_classifications : ∀ name,
    name ∈ view.classifications bean ↔ e.hasClassification name = true
  /-- the classifications are in strictly increasing order -/
  increasing : (view.classifications bean).Pairwise (· < ·)
  /-- it belongs to the primary key if the entity is classified so -/
  isPrimaryKey : ∀ isPrimaryKey ∈ view.isPrimaryKey?,
    isPrimaryKey bean = true ↔ e.hasClassification "PrimaryKey" = true
  /-- a property that is not null is shown as the value that it is coerced to -/
  present : ∀ spec ∈ specs, ∀ p, e.property? spec.name = some p → p ≠ .null →
    ∃ v, coerce p spec.kind = .ok (some v) ∧ view.shown bean spec.name = some v
  /-- only what is optional is missing or null, and for it the default is shown -/
  missing : ∀ spec ∈ specs,
    e.property? spec.name = none ∨ e.property? spec.name = some .null →
      spec.required = false ∧ view.shown bean spec.name = view.shown view.blank spec.name

/-- A view of the beans that a mapping makes: what is shown is what the assembly was given, and it
is all there is to a bean. -/
structure Lawful (view : BeanView β) (m : Mapping β) : Prop where
  /-- no attribute is listed twice -/
  distinct : (m.attributes.map (·.name)).Nodup
  /-- the assembly takes out the attributes of the table -/
  consumes : ∀ header as, ((m.assemble header).run as).2 =
    (m.attributes.map (·.name)).foldl without as
  /-- it copies the identifier -/
  guid : ∀ header as, view.guid ((m.assemble header).run as).1 = header.guid
  /-- it copies the classifications -/
  classifications : ∀ header as,
    view.classifications ((m.assemble header).run as).1 = header.classifications
  /-- it looks for the classification of primary keys -/
  isPrimaryKey : ∀ isPrimaryKey ∈ view.isPrimaryKey?, ∀ header as,
    isPrimaryKey ((m.assemble header).run as).1 = header.hasClassification "PrimaryKey"
  /-- an attribute whose value is of its kind is shown, and another has its default -/
  shown : ∀ header as, ∀ spec ∈ m.attributes,
    (∀ v, as.values.get? spec.name = some v → v.Fits spec.kind) →
      view.shown ((m.assemble header).run as).1 spec.name =
        (as.values.get? spec.name).or (view.shown view.blank spec.name)
  /-- the type of the entity does not matter -/
  congr : ∀ header header', header'.guid = header.guid →
    header'.classifications = header.classifications → m.assemble header' = m.assemble header
  /-- beans that show the same are the same -/
  ext : ∀ bean bean', view.guid bean = view.guid bean' →
    view.classifications bean = view.classifications bean' →
    (∀ isPrimaryKey ∈ view.isPrimaryKey?, isPrimaryKey bean = isPrimaryKey bean') →
    (∀ spec ∈ m.attributes, view.shown bean spec.name = view.shown bean' spec.name) →
      bean = bean'

end BeanView

theorem AttributeValue.map_text_inj {s s' : Option String}
    (h : s.map AttributeValue.text = s'.map .text) : s = s' :=
  (Option.map_inj_right fun _ _ => AttributeValue.text.inj).1 h

theorem AttributeValue.map_date_inj {d d' : Option Instant}
    (h : d.map AttributeValue.date = d'.map .date) : d = d' :=
  (Option.map_inj_right fun _ _ => AttributeValue.date.inj).1 h

/-! ## Tables -/

namespace Table

/-- How tables are looked at. -/
def view : BeanView Table where
  guid := Table.guid
  classifications := Table.classifications
  isPrimaryKey? := none
  shown t
    | "qualifiedName" => some (.text t.qualifiedName)
    | "displayName" => some (.text t.displayName)
    | "description" => t.description.map .text
    | "owner" => t.owner.map .text
    | "createTime" => t.createTime.map .date
    | "isDeprecated" => some (.bool t.isDeprecated)
    | _ => none
  blank := {
    guid := "", qualifiedName := "", displayName := "", description := none, owner := none,
    createTime := none, isDeprecated := false, classifications := [] }

/-- The table of a header and of attributes. -/
def ofAttributes (header : EntityHeader) (as : Attributes) : Table where
  guid := header.guid
  qualifiedName := (as.content? AttributeValue.text? "qualifiedName").getD ""
  displayName := (as.content? AttributeValue.text? "displayName").getD ""
  description := as.content? AttributeValue.text? "description"
  owner := as.content? AttributeValue.text? "owner"
  createTime := as.content? AttributeValue.date? "createTime"
  isDeprecated := (as.content? AttributeValue.bool? "isDeprecated").getD false
  classifications := header.classifications

theorem run_assemble (header : EntityHeader) (as : Attributes) :
    (mapping.assemble header).run as =
      (ofAttributes header as, (mapping.attributes.map (·.name)).foldl without as) := by
  simp (disch := decide) only [mapping, run_bind, run_pure, run_text, run_text?, run_date?,
    run_boolOr, content?_without_of_ne]
  rfl

theorem shown_ofAttributes {header : EntityHeader} {as : Attributes} :
    ∀ spec ∈ mapping.attributes,
      (∀ v, as.values.get? spec.name = some v → v.Fits spec.kind) →
        view.shown (ofAttributes header as) spec.name =
          (as.values.get? spec.name).or (view.shown view.blank spec.name) := by
  simp only [mapping, List.forall_mem_cons]
  refine ⟨fun h => ?_, fun h => ?_, fun h => ?_, fun h => ?_, fun h => ?_, fun h => ?_, nofun⟩
  · exact reads_text.some_getD_content? h ""
  · exact reads_text.some_getD_content? h ""
  · exact (reads_text.map_content? h).trans Option.or_none.symm
  · exact (reads_text.map_content? h).trans Option.or_none.symm
  · exact (reads_date.map_content? h).trans Option.or_none.symm
  · exact reads_bool.some_getD_content? h false

theorem lawful_view : view.Lawful mapping where
  distinct := by decide
  consumes header as := congrArg Prod.snd (run_assemble header as)
  guid _ _ := rfl
  classifications _ _ := rfl
  isPrimaryKey := nofun
  shown header as := by
    rw [run_assemble]
    exact shown_ofAttributes
  congr := by
    rintro ⟨_, _, _⟩ ⟨_, _, _⟩ rfl rfl
    rfl
  ext t t' hguid hclassifications _ hshown := by
    simp only [mapping, List.forall_mem_cons] at hshown
    obtain ⟨hqualifiedName, hdisplayName, hdescription, howner, hcreateTime, hdeprecated, -⟩ :=
      hshown
    cases t
    cases t'
    rw [mk.injEq]
    exact ⟨hguid, AttributeValue.text.inj (Option.some.inj hqualifiedName),
      AttributeValue.text.inj (Option.some.inj hdisplayName),
      AttributeValue.map_text_inj hdescription, AttributeValue.map_text_inj howner,
      AttributeValue.map_date_inj hcreateTime,
      AttributeValue.bool.inj (Option.some.inj hdeprecated), hclassifications⟩

end Table

/-! ## Columns -/

namespace SortOrder

/-- The sort order of a symbol that an attribute has. -/
def ofValue? (v : AttributeValue) : Option SortOrder := v.symbol?.bind ofSymbol?

theorem content?_ofValue? (as : Attributes) (name : String) :
    as.content? ofValue? name = (as.content? AttributeValue.symbol? name).bind ofSymbol? :=
  (Option.bind_assoc ..).symm

/-- A listed symbol is that of the sort order that it stands for. -/
theorem map_symbol_ofSymbol? : ∀ s ∈ symbols, (ofSymbol? s).map symbol = some s := by decide

theorem reads_ofValue? :
    Reads (.symbol symbols) ofValue? (fun order => .symbol order.symbol) := by
  intro v hfits
  cases v with
  | symbol s =>
    have hsymbol : (ofSymbol? s).map symbol = some s := map_symbol_ofSymbol? s hfits
    have hmap := congrArg (Option.map AttributeValue.symbol) hsymbol
    rwa [Option.map_map] at hmap
  | _ => cases hfits

theorem ofSymbol?_symbol (order : SortOrder) : ofSymbol? order.symbol = some order := by
  cases order <;> rfl

theorem symbol_inj {order order' : SortOrder} (h : order.symbol = order'.symbol) :
    order = order' := by
  have hsymbols := congrArg ofSymbol? h
  rw [ofSymbol?_symbol, ofSymbol?_symbol] at hsymbols
  exact Option.some.inj hsymbols

end SortOrder

namespace Column

/-- How columns are looked at. A sort order is shown as its symbol. -/
def view : BeanView Column where
  guid := Column.guid
  classifications := Column.classifications
  isPrimaryKey? := some Column.isPrimaryKey
  shown c
    | "qualifiedName" => some (.text c.qualifiedName)
    | "displayName" => some (.text c.displayName)
    | "dataType" => some (.text c.dataType)
    | "position" => some (.int c.position)
    | "length" => some (.int c.length)
    | "isNullable" => some (.bool c.isNullable)
    | "sortOrder" => some (.symbol c.sortOrder.symbol)
    | _ => none
  blank := {
    guid := "", qualifiedName := "", displayName := "", dataType := "", position := 0, length := 0,
    isNullable := true, sortOrder := .unsorted, isPrimaryKey := false, classifications := [] }

/-- The column of a header and of attributes. -/
def ofAttributes (header : EntityHeader) (as : Attributes) : Column where
  guid := header.guid
  qualifiedName := (as.content? AttributeValue.text? "qualifiedName").getD ""
  displayName := (as.content? AttributeValue.text? "displayName").getD ""
  dataType := (as.content? AttributeValue.text? "dataType").getD ""
  position := (as.content? AttributeValue.int? "position").getD 0
  length := (as.content? AttributeValue.int? "length").getD 0
  isNullable := (as.content? AttributeValue.bool? "isNullable").getD true
  sortOrder := (as.content? SortOrder.ofValue? "sortOrder").getD .unsorted
  isPrimaryKey := header.hasClassification primaryKeyClassification
  classifications := header.classifications

theorem run_assemble (header : EntityHeader) (as : Attributes) :
    (mapping.assemble header).run as =
      (ofAttributes header as, (mapping.attributes.map (·.name)).foldl without as) := by
  simp (disch := decide) only [mapping, run_bind, run_pure, run_text, run_int, run_boolOr,
    run_symbol?, content?_without_of_ne]
  rw [ofAttributes, SortOrder.content?_ofValue?]
  rfl

theorem shown_ofAttributes {header : EntityHeader} {as : Attributes} :
    ∀ spec ∈ mapping.attributes,
      (∀ v, as.values.get? spec.name = some v → v.Fits spec.kind) →
        view.shown (ofAttributes header as) spec.name =
          (as.values.get? spec.name).or (view.shown view.blank spec.name) := by
  simp only [mapping, List.forall_mem_cons]
  refine ⟨fun h => ?_, fun h => ?_, fun h => ?_, fun h => ?_, fun h => ?_, fun h => ?_,
    fun h => ?_, nofun⟩
  · exact reads_text.some_getD_content? h ""
  · exact reads_text.some_getD_content? h ""
  · exact reads_text.some_getD_content? h ""
  · exact reads_int.some_getD_content? h 0
  · exact reads_int.some_getD_content? h 0
  · exact reads_bool.some_getD_content? h true
  · exact SortOrder.reads_ofValue?.some_getD_content? h .unsorted

theorem lawful_view : view.Lawful mapping where
  distinct := by decide
  consumes header as := congrArg Prod.snd (run_assemble header as)
  guid _ _ := rfl
  classifications _ _ := rfl
  isPrimaryKey := by
    rintro _ ⟨⟩ _ _
    rfl
  shown header as := by
    rw [run_assemble]
    exact shown_ofAttributes
  congr := by
    rintro ⟨_, _, _⟩ ⟨_, _, _⟩ rfl rfl
    rfl
  ext c c' hguid hclassifications hprimary hshown := by
    simp only [mapping, List.forall_mem_cons] at hshown
    obtain ⟨hqualifiedName, hdisplayName, hdataType, hposition, hlength, hnullable, hsortOrder,
      -⟩ := hshown
    cases c
    cases c'
    rw [mk.injEq]
    exact ⟨hguid, AttributeValue.text.inj (Option.some.inj hqualifiedName),
      AttributeValue.text.inj (Option.some.inj hdisplayName),
      AttributeValue.text.inj (Option.some.inj hdataType),
      AttributeValue.int.inj (Option.some.inj hposition),
      AttributeValue.int.inj (Option.some.inj hlength),
      AttributeValue.bool.inj (Option.some.inj hnullable),
      SortOrder.symbol_inj (AttributeValue.symbol.inj (Option.some.inj hsortOrder)),
      hprimary _ rfl, hclassifications⟩

end Column

/-! ## Schemas -/

namespace Schema

/-- How schemas are looked at. -/
def view : BeanView Schema where
  guid := Schema.guid
  classifications := Schema.classifications
  isPrimaryKey? := none
  shown s
    | "qualifiedName" => some (.text s.qualifiedName)
    | "displayName" => some (.text s.displayName)
    | "description" => s.description.map .text
    | "createTime" => s.createTime.map .date
    | _ => none
  blank := {
    guid := "", qualifiedName := "", displayName := "", description := none, createTime := none,
    classifications := [] }

/-- The schema of a header and of attributes. -/
def ofAttributes (header : EntityHeader) (as : Attributes) : Schema where
  guid := header.guid
  qualifiedName := (as.content? AttributeValue.text? "qualifiedName").getD ""
  displayName := (as.content? AttributeValue.text? "displayName").getD ""
  description := as.content? AttributeValue.text? "description"
  createTime := as.content? AttributeValue.date? "createTime"
  classifications := header.classifications

theorem run_assemble (header : EntityHeader) (as : Attributes) :
    (mapping.assemble header).run as =
      (ofAttributes header as, (mapping.attributes.map (·.name)).foldl without as) := by
  simp (disch := decide) only [mapping, run_bind, run_pure, run_text, run_text?, run_date?,
    content?_without_of_ne]
  rfl

theorem shown_ofAttributes {header : EntityHeader} {as : Attributes} :
    ∀ spec ∈ mapping.attributes,
      (∀ v, as.values.get? spec.name = some v → v.Fits spec.kind) →
        view.shown (ofAttributes header as) spec.name =
          (as.values.get? spec.name).or (view.shown view.blank spec.name) := by
  simp only [mapping, List.forall_mem_cons]
  refine ⟨fun h => ?_, fun h => ?_, fun h => ?_, fun h => ?_, nofun⟩
  · exact reads_text.some_getD_content? h ""
  · exact reads_text.some_getD_content? h ""
  · exact (reads_text.map_content? h).trans Option.or_none.symm
  · exact (reads_date.map_content? h).trans Option.or_none.symm

theorem lawful_view : view.Lawful mapping where
  distinct := by decide
  consumes header as := congrArg Prod.snd (run_assemble header as)
  guid _ _ := rfl
  classifications _ _ := rfl
  isPrimaryKey := nofun
  shown header as := by
    rw [run_assemble]
    exact shown_ofAttributes
  congr := by
    rintro ⟨_, _, _⟩ ⟨_, _, _⟩ rfl rfl
    rfl
  ext s s' hguid hclassifications _ hshown := by
    simp only [mapping, List.forall_mem_cons] at hshown
    obtain ⟨hqualifiedName, hdisplayName, hdescription, hcreateTime, -⟩ := hshown
    cases s
    cases s'
    rw [mk.injEq]
    exact ⟨hguid, AttributeValue.text.inj (Option.some.inj hqualifiedName),
      AttributeValue.text.inj (Option.some.inj hdisplayName),
      AttributeValue.map_text_inj hdescription, AttributeValue.map_date_inj hcreateTime,
      hclassifications⟩

end Schema

/-! ## Conversion -/

namespace BeanView.Lawful

variable {β : Type} {view : BeanView β} {m : Mapping β} {r : TypeRegistry} {e : Entity} {bean : β}

/-- A converted bean is assembled from the attributes of its entity, which are all taken out. -/
theorem exists_run_of_convert (hview : view.Lawful m) (h : r.convert m e = .ok bean) :
    ∃ as, ofEntity e m.attributes = .ok as ∧
      (m.assemble e.header).run as = (bean, Attributes.empty) := by
  rw [TypeRegistry.convert_of_isAssignable (TypeRegistry.isAssignable_of_convert h)] at h
  cases hof : ofEntity e m.attributes with
  | error error =>
    rw [hof] at h
    cases h
  | ok as =>
    rw [hof] at h
    have hempty : (m.attributes.map (·.name)).foldl without as = Attributes.empty :=
      foldl_without_eq_empty fun _ hname => get?_of_ofEntity_of_not_mem hof hname
    exact ⟨as, rfl, Prod.ext (Except.ok.inj h) ((hview.consumes _ _).trans hempty)⟩

/-- **A converted bean reproduces its entity.** -/
theorem reproduces (hview : view.Lawful m) (h : r.convert m e = .ok bean) :
    view.Reproduces m.attributes e bean := by
  obtain ⟨as, hof, hrun⟩ := hview.exists_run_of_convert h
  have hbean : ((m.assemble e.header).run as).1 = bean := congrArg Prod.fst hrun
  have hsupplies {spec : AttributeSpec} (hspec : spec ∈ m.attributes) :
      Supplies e spec (as.values.get? spec.name) := supplies_of_ofEntity hview.distinct hof hspec
  have hshown {spec : AttributeSpec} (hspec : spec ∈ m.attributes) :
      view.shown bean spec.name =
        (as.values.get? spec.name).or (view.shown view.blank spec.name) :=
    hbean ▸ hview.shown e.header as spec hspec fun v hv => (hv ▸ hsupplies hspec).fits
  have hclassifications : view.classifications bean = e.classificationNames :=
    hbean ▸ hview.classifications e.header as
  refine ⟨hbean ▸ hview.guid e.header as, fun name => ?_, ?_, fun isPrimaryKey hmem => ?_,
    fun spec hspec p hp hnull => ?_, fun spec hspec hp => ?_⟩
  · rw [hclassifications]
    exact NameSet.contains_iff_mem.symm
  · rw [hclassifications]
    exact e.classifications.sorted
  · rw [← hbean, hview.isPrimaryKey isPrimaryKey hmem]
    rfl
  · obtain ⟨v, hcoerce, hget⟩ := (hsupplies hspec).of_property hp hnull
    exact ⟨v, hcoerce, by rw [hshown hspec, hget, Option.some_or]⟩
  · obtain ⟨hrequired, hget⟩ := (hsupplies hspec).of_missing hp
    exact ⟨hrequired, by rw [hshown hspec, hget, Option.none_or]⟩

/-- **At most one bean reproduces an entity.** -/
theorem eq_of_reproduces (hview : view.Lawful m) {bean' : β}
    (h : view.Reproduces m.attributes e bean) (h' : view.Reproduces m.attributes e bean') :
    bean = bean' := by
  refine hview.ext _ _ (h.guid.trans h'.guid.symm) ?_ (fun isPrimaryKey hmem => ?_)
    (fun spec hspec => ?_)
  · have hsets : (⟨view.classifications bean, h.increasing⟩ : NameSet) =
        ⟨view.classifications bean', h'.increasing⟩ :=
      NameSet.ext_mem fun name =>
        (h.mem_classifications name).trans (h'.mem_classifications name).symm
    exact congrArg NameSet.names hsets
  · exact Bool.eq_iff_iff.2
      ((h.isPrimaryKey isPrimaryKey hmem).trans (h'.isPrimaryKey isPrimaryKey hmem).symm)
  · by_cases hp : e.property? spec.name = none ∨ e.property? spec.name = some .null
    · rw [(h.missing spec hspec hp).2, (h'.missing spec hspec hp).2]
    · rw [not_or] at hp
      obtain ⟨p, hsome⟩ := Option.ne_none_iff_exists'.1 hp.1
      have hnull : p ≠ .null := fun heq => hp.2 (heq ▸ hsome)
      obtain ⟨v, hcoerce, hshown⟩ := h.present spec hspec p hsome hnull
      obtain ⟨v', hcoerce', hshown'⟩ := h'.present spec hspec p hsome hnull
      obtain rfl := Option.some.inj (Except.ok.inj (hcoerce.symm.trans hcoerce'))
      rw [hshown, hshown']

/-- **Undeclared properties and the type of an entity have no influence on the bean.** -/
theorem convert_congr (hview : view.Lawful m) (h : r.convert m e = .ok bean) {r' : TypeRegistry}
    {e' : Entity} (hguid : e'.guid = e.guid) (hclassifications : e'.classifications = e.classifications)
    (hproperties : ∀ spec ∈ m.attributes, e'.property? spec.name = e.property? spec.name)
    (hassignable : r'.isAssignable e'.typeName m.typeName = true) :
    r'.convert m e' = .ok bean := by
  have hassemble : m.assemble e'.header = m.assemble e.header :=
    hview.congr _ _ hguid (congrArg NameSet.names hclassifications)
  have hpresent : ∀ name ∈ m.attributes.map (·.name), e'.present? name = e.present? name := by
    intro name hname
    obtain ⟨spec, hspec, rfl⟩ := List.mem_map.1 hname
    rw [Entity.present?, Entity.present?, hproperties spec hspec]
  rw [TypeRegistry.convert_of_isAssignable (TypeRegistry.isAssignable_of_convert h)] at h
  rw [TypeRegistry.convert_of_isAssignable hassignable, ofEntity_congr hguid hpresent, hassemble, h]

end BeanView.Lawful

namespace BeanKind

/-- How the beans of a kind are looked at. -/
def view : (k : BeanKind) → BeanView k.Bean
  | .table => Table.view
  | .column => Column.view
  | .schema => Schema.view

theorem lawful_view (k : BeanKind) : k.view.Lawful k.mapping := by
  cases k with
  | table => exact Table.lawful_view
  | column => exact Column.lawful_view
  | schema => exact Schema.lawful_view

/-- **A converted bean reproduces its entity.** Its assembly takes out all attributes, and any
other entity with the same identifier, classifications and declared properties converts to the
same bean, whatever its type is, as long as it counts as the bean's. -/
theorem convert_reproduces (registry : TypeRegistry) (k : BeanKind) (e : Entity) (bean : k.Bean)
    (h : registry.convert k.mapping e = .ok bean) :
    k.view.Reproduces k.mapping.attributes e bean ∧
    (∃ attributes, ofEntity e k.mapping.attributes = .ok attributes ∧
      (k.mapping.assemble e.header).run attributes = (bean, Attributes.empty)) ∧
    ∀ (registry' : TypeRegistry) (e' : Entity), e'.guid = e.guid →
      e'.classifications = e.classifications →
      (∀ spec ∈ k.mapping.attributes, e'.property? spec.name = e.property? spec.name) →
      registry'.isAssignable e'.typeName k.mapping.typeName = true →
        registry'.convert k.mapping e' = .ok bean :=
  ⟨k.lawful_view.reproduces h, k.lawful_view.exists_run_of_convert h,
    fun _ _ hguid hclassifications hproperties hassignable =>
      k.lawful_view.convert_congr h hguid hclassifications hproperties hassignable⟩

/-- A column whose properties are spelled in several ways. -/
def sampleColumn : Entity :=
  ((((((Entity.new "c1" "RelationalColumn").withProperty "displayName" (.text "id")).withProperty
    "dataType" (.symbol ⟨4, "BIGINT"⟩)).withProperty "position" (.text "+7")).withProperty
    "isNullable" .null).withProperty "sortOrder" (.text "descending")).withClassification
    "PrimaryKey"

theorem sampleColumn_reproduced :
    Column.view.Reproduces Column.mapping.attributes sampleColumn
      ⟨"c1", "", "id", "BIGINT", 7, 0, true, .descending, true, ["PrimaryKey"]⟩ :=
  (convert_reproduces .builtin .column sampleColumn
    (⟨"c1", "", "id", "BIGINT", 7, 0, true, .descending, true, ["PrimaryKey"]⟩ : Column) rfl).1

end BeanKind

end RelationalCatalog
