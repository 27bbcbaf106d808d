/- module: Entities/Catalogue
   source: custom_components/marstek_ble/entity.py
   digest: Every plan of one shape lists, in order, entities of one fixed catalogue. -/

import MarstekBle.Entities.Monotone

/-!
The catalogue is what the walk would list if every item of every section were
populated. It does not look at a value, so all data objects of one shape share it.
-/

set_option autoImplicit false
set_option relaxedAutoImplicit false

namespace MarstekBle.Entities

open MarstekBle.Data MarstekBle.Schema MarstekBle.Product MarstekBle.Lib.AttributeTree

universe u

section Catalogue

variable {V : Type u}

mutual

/-- The bindings of a data-class instance with every item populated. -/
def catalogue (scope : Scope) : Node FieldDef V → List EntityBinding
  | .record fields => catalogueFields scope fields
  | _ => []
termination_by structural current => current

def catalogueFields (scope : Scope) : List (FieldDef × Node FieldDef V) → List EntityBinding
  | [] => []
  | (field, value) :: rest =>
    (scope.fieldEntities field ++ field.indexedEntities.flatMap (scope.indexedEntities field)) ++
      ((match field.repeatedSection with
        | some spec => match value with
          | .items members => catalogueItems scope field spec 0 members
          | _ => []
        | none => catalogue { scope with path := scope.path ++ [.attr field.name] } value) ++
      catalogueFields scope rest)
termination_by structural fields => fields

def catalogueItems (scope : Scope) (field : FieldDef) (spec : RepeatedSectionSpec)
    (index : Nat) : List (Node FieldDef V) → List EntityBinding
  | [] => []
  | item :: rest =>
    catalogue (scope.item field spec index) item ++
      catalogueItems scope field spec (index + 1) rest
termination_by structural members => members

end

/-- The catalogue forgets the values. -/
private theorem catalogue_map {W : Type u} (g : V → W) (t : Node FieldDef V) :
    ∀ scope, catalogue scope (t.map g) = catalogue scope t := by
  refine (Node.induct_items (O := fun t => ∀ scope, catalogue scope (t.map g) = catalogue scope t)
    (Q := fun fields => ∀ scope,
      catalogueFields scope (mapFields g fields) = catalogueFields scope fields)
    (I := fun members => ∀ scope field spec index,
      catalogueItems scope field spec index (mapItems g members) =
        catalogueItems scope field spec index members)
    ?value ?items ?record ?noFields ?field ?noItems ?item t).1
  case value => exact fun c scope => rfl
  case items => exact fun members scope => rfl
  case record => exact fun fields hfields => hfields
  case noFields => exact fun scope => rfl
  case field =>
    intro field value rest hvalue hmembers hrest scope
    rw [mapFields, catalogueFields, catalogueFields, hrest scope]
    cases hspec : field.repeatedSection with
    | none => simp only [hvalue]
    | some spec =>
      cases value with
      | value c => rfl
      | record fields => rfl
      | items members => simp only [Node.map, hmembers members rfl]
  case noItems => exact fun scope field spec index => rfl
  case item =>
    intro item rest hitem hrest scope field spec index
    rw [mapItems, catalogueItems, catalogueItems, hitem, hrest]

end Catalogue

theorem catalogue_congr {t u : DataTree} (same : t.shape = u.shape) (scope : Scope) :
    catalogue scope t = catalogue scope u := by
  rw [← catalogue_map (fun _ => ()) t, ← catalogue_map (fun _ => ()) u]
  exact congrArg (catalogue scope) same

section Walk

variable {configuredCounts : List (String × Int)}

/-- A part of the walk that finishes lists entities of the given catalogue, in order. -/
private def Within (walk : Raises Collected) (listed : List EntityBinding) : Prop :=
  ∀ collected, walk = .ok collected → collected.entities.Sublist listed

theorem collectIndexed_eq {scope : Scope} {field : FieldDef} {value : DataTree} :
    ∀ {specs : List IndexedEntitySpec} {entities : List EntityBinding},
      collectIndexed scope field value specs = .ok entities →
        entities = specs.flatMap (scope.indexedEntities field) := by
  intro specs
  induction specs with
  | nil =>
    intro entities built
    exact (Except.ok.inj built).symm
  | cons spec specs ih =>
    intro entities built
    rw [collectIndexed] at built
    obtain ⟨length, _, built⟩ := bind_eq_ok_iff.mp built
    split at built
    · cases built
    · obtain ⟨later, hlater, finished⟩ := bind_eq_ok_iff.mp built
      obtain rfl := Except.ok.inj finished
      rw [List.flatMap_cons, ih hlater]

/-- The catalogue of the section or the nested record of one field. -/
private def catalogueNested (scope : Scope) (field : FieldDef) (value : DataTree) :
    List EntityBinding :=
  match field.repeatedSection with
  | some spec => match value with
    | .items members => catalogueItems scope field spec 0 members
    | _ => []
  | none => catalogue { scope with path := scope.path ++ [.attr field.name] } value

private theorem catalogueFields_cons (scope : Scope) (field : FieldDef) (value : DataTree)
    (rest : List (FieldDef × DataTree)) :
    catalogueFields scope ((field, value) :: rest) =
      (scope.fieldEntities field ++ field.indexedEntities.flatMap (scope.indexedEntities field)) ++
        (catalogueNested scope field value ++ catalogueFields scope rest) := by
  rw [catalogueFields, catalogueNested]
  cases field.repeatedSection with
  | none => rfl
  | some spec => cases value <;> rfl

private theorem within_collectNested {field : FieldDef} {value : DataTree}
    (object : ∀ scope, Within (collect configuredCounts scope value) (catalogue scope value))
    (items : ∀ members, value = .items members → ∀ scope field spec index n,
      Within (collectItems configuredCounts scope field spec index n members)
        (catalogueItems scope field spec index members))
    (scope : Scope) (parent : List (FieldDef × DataTree)) :
    Within (collectNested configuredCounts scope parent field value)
      (catalogueNested scope field value) := by
  intro collected built
  unfold collectNested at built
  unfold catalogueNested
  cases hspec : field.repeatedSection with
  | none =>
    simp only [hspec] at built ⊢
    split at built
    · exact object _ collected built
    · obtain rfl := Except.ok.inj built
      exact List.nil_sublist _
  | some spec =>
    simp only [hspec] at built ⊢
    obtain ⟨discovered, _, built⟩ := bind_eq_ok_iff.mp built
    obtain ⟨configured, _, built⟩ := bind_eq_ok_iff.mp built
    obtain ⟨added, hadded, finished⟩ := bind_eq_ok_iff.mp built
    obtain rfl := Except.ok.inj finished
    cases value with
    | items members => exact items members rfl scope field spec 0 configured added hadded
    | value c =>
      rw [sectionItems_eq_nothing (by nofun) hadded]
      exact List.nil_sublist _
    | record fields =>
      rw [sectionItems_eq_nothing (by nofun) hadded]
      exact List.nil_sublist _

/-- The walk over a data object stays within the catalogue of its shape. -/
theorem collect_sublist_catalogue (t : DataTree) (scope : Scope) {collected : Collected}
    (built : collect configuredCounts scope t = .ok collected) :
    collected.entities.Sublist (catalogue scope t) := by
  refine (Node.induct_items
    (O := fun t => ∀ scope, Within (collect configuredCounts scope t) (catalogue scope t))
    (Q := fun fields => ∀ scope parent,
      Within (collectFields configuredCounts scope parent fields) (catalogueFields scope fields))
    (I := fun members => ∀ scope field spec index n,
      Within (collectItems configuredCounts scope field spec index n members)
        (catalogueItems scope field spec index members))
    ?value ?items ?record ?noFields ?field ?noItems ?item t).1 scope collected built
  case value =>
    intro c scope collected built
    cases built
  case items =>
    intro members scope collected built
    cases built
  case record => exact fun fields hfields scope => hfields scope fields
  case noFields =>
    intro scope parent collected built
    obtain rfl := Except.ok.inj built
    exact List.nil_sublist _
  case field =>
    intro field value rest hvalue hmembers hrest scope parent collected built
    rw [collectFields_cons] at built
    obtain ⟨indexed, hindexed, built⟩ := bind_eq_ok_iff.mp built
    obtain ⟨inner, hinner, built⟩ := bind_eq_ok_iff.mp built
    obtain ⟨later, hlater, finished⟩ := bind_eq_ok_iff.mp built
    obtain rfl := Except.ok.inj finished
    obtain rfl := collectIndexed_eq hindexed
    have nested := within_collectNested hvalue hmembers scope parent inner hinner
    rw [catalogueFields_cons]
    exact (List.Sublist.refl _).append (nested.append (hrest scope parent later hlater))
  case noItems =>
    intro scope field spec index n collected built
    cases n with
    | zero =>
      obtain rfl := Except.ok.inj built
      exact List.nil_sublist _
    | succ n => cases built
  case item =>
    intro item rest hitem hrest scope field spec index n collected built
    cases n with
    | zero =>
      obtain rfl := Except.ok.inj built
      exact List.nil_sublist _
    | succ n =>
      rw [collectItems] at built
      obtain ⟨here, hhere, built⟩ := bind_eq_ok_iff.mp built
      obtain ⟨later, hlater, finished⟩ := bind_eq_ok_iff.mp built
      obtain rfl := Except.ok.inj finished
      exact (hitem _ here hhere).append (hrest scope field spec (index + 1) n later hlater)

end Walk

namespace EntityProfile

/-- The bindings of fields and items that any plan of the profile can list. -/
def fieldCatalogue (profile : EntityProfile) : List EntityBinding :=
  catalogue profile.rootScope (.record profile.dataType.fields : DataTree)

/-- All bindings that any plan of the profile can list. -/
def catalogue (profile : EntityProfile) : List EntityBinding :=
  profile.fieldCatalogue ++ profile.derivedEntities.map profile.derivedEntity

/-- A plan lists entities of the profile's catalogue, in its order. -/
theorem plan_sublist_catalogue (profile : EntityProfile) {data : TrackedProductData}
    (shape : data.tree.shape = (.record profile.dataType.fields : DataTree).shape)
    {configuredCounts : List (String × Int)} {plan : EntityPlan}
    (built : profile.buildEntityPlan data configuredCounts = .ok plan) :
    plan.entities.Sublist profile.catalogue := by
  unfold EntityProfile.buildEntityPlan at built
  split at built
  · cases built
  · obtain ⟨collected, hcollected, finished⟩ := bind_eq_ok_iff.mp built
    obtain rfl := Except.ok.inj finished
    have listed := collect_sublist_catalogue data.tree profile.rootScope hcollected
    rw [catalogue_congr shape] at listed
    exact listed.append (List.Sublist.refl _)

/-- Every plan lists the calculated entities. -/
theorem derivedEntity_mem_plan (profile : EntityProfile) {data : TrackedProductData}
    {configuredCounts : List (String × Int)} {plan : EntityPlan}
    (built : profile.buildEntityPlan data configuredCounts = .ok plan)
    {spec : DerivedEntitySpec} (declared : spec ∈ profile.derivedEntities) :
    profile.derivedEntity spec ∈ plan.entities := by
  unfold EntityProfile.buildEntityPlan at built
  split at built
  · cases built
  · obtain ⟨collected, _, finished⟩ := bind_eq_ok_iff.mp built
    obtain rfl := Except.ok.inj finished
    exact List.mem_append_right _ (List.mem_map.mpr ⟨spec, declared, rfl⟩)

end EntityProfile

end MarstekBle.Entities
