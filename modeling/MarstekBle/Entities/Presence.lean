/- module: Entities/Presence
   source: custom_components/marstek_ble/entity.py
   digest: When the presence check of a binding agrees with planning again. -/

import MarstekBle.Entities.Enclosures

set_option autoImplicit false
set_option relaxedAutoImplicit false

namespace MarstekBle.Entities

open MarstekBle.Data MarstekBle.Schema MarstekBle.Product MarstekBle.Lib.AttributeTree

/-! ### Plans -/

/-- A plan lists what its walk comes to, and the calculated entities. -/
theorem mem_plan_iff {profile : EntityProfile} {data : TrackedProductData} {plan : EntityPlan}
    (built : profile.buildEntityPlan data = .ok plan) (binding : EntityBinding) :
    binding ∈ plan.entities ↔ Listed (profile.rootScope, data.tree) (.entity binding) ∨
      binding ∈ profile.derivedEntities.map profile.derivedEntity := by
  unfold EntityProfile.buildEntityPlan at built
  split at built
  · cases built
  · obtain ⟨collected, hcollected, finished⟩ := bind_eq_ok_iff.mp built
    obtain rfl := Except.ok.inj finished
    have walked := lists_collect_iff data.tree profile.rootScope hcollected (.entity binding)
    exact List.mem_append.trans (or_congr walked Iff.rfl)

theorem ownEntities_path {scope : Scope} {field : FieldDef} {binding : EntityBinding}
    (own : binding ∈ scope.ownEntities field) : binding.presence = scope.presence ∧
      (binding.path = some (scope.path ++ [.attr field.name]) ∨
        ∃ i, binding.path = some (scope.path ++ [.attr field.name, .index i])) := by
  rcases List.mem_append.mp own with direct | indexed
  · obtain ⟨spec, _, rfl⟩ := List.mem_map.mp direct
    exact ⟨rfl, .inl rfl⟩
  · obtain ⟨spec, _, item⟩ := List.mem_flatMap.mp indexed
    obtain ⟨i, _, rfl⟩ := List.mem_map.mp item
    refine ⟨rfl, .inr ⟨i, congrArg some ?_⟩⟩
    exact List.append_assoc _ _ _

/-- The sections around a binding's path, in a data object. -/
def EntityBinding.enclosures (binding : EntityBinding) (data : DataTree) : List Enclosure :=
  match binding.path with
  | none => []
  | some path => Entities.enclosures path data

/-- The sections around a field's own bindings are those its record is in. -/
theorem enclosures_ownEntities {root t : DataTree} {scope : Scope} {around : List Enclosure}
    (here : Located root scope t around) {field : FieldDef} {binding : EntityBinding}
    (own : binding ∈ scope.ownEntities field) : binding.enclosures root = around := by
  unfold EntityBinding.enclosures
  rcases (ownEntities_path own).2 with path | ⟨i, path⟩
  · rw [path]
    show Entities.enclosures (scope.path ++ [.attr field.name]) root = around
    rw [here.enclosed, enclosures_field, List.append_nil]
  · rw [path]
    show Entities.enclosures (scope.path ++ [.attr field.name, .index i]) root = around
    rw [here.enclosed, enclosures_indexed, List.append_nil]

/-! ### The presence check -/

/-- The stored check looks at the innermost section with a count of its own. -/
def Guarded (root : DataTree) (scope : Scope) (around : List Enclosure) : Prop :=
  match (around.filter Enclosure.counted).getLast? with
  | none => scope.presence = none
  | some last => ∃ presence, scope.presence = some presence ∧
      (presence.isPresent root = .ok true ↔ last.Below)

/-- The check at a section's count is the comparison that planning makes. -/
theorem isPresent_iff {root : DataTree} {path : DataPath} {fields : List (FieldDef × DataTree)}
    (found : resolve root path = .ok (.record fields)) {spec : RepeatedSectionSpec} {name : String}
    (counts : spec.activeCountAttribute = some name) (index : Nat) :
    PresenceBinding.isPresent ⟨path ++ [.attr name], index, spec.count⟩ root = .ok true ↔
      (⟨spec, index, activeCount fields spec⟩ : Enclosure).Below := by
  have reads : resolve root (path ++ [.attr name]) = getattr (.record fields) name := by
    rw [resolve_append, found, ok_bind]
    cases content : getattr (.record fields) name <;> simp [resolve, content]
  unfold PresenceBinding.isPresent Enclosure.Below
  rw [reads]
  cases content : attr? fields name with
  | none =>
    have missing : getattr (.record fields) name = .error ⟨.attributeError, name⟩ := by
      simp only [getattr, Node.child?, content]
    have uncounted : activeCount fields spec = .error ⟨.attributeError, name⟩ := by
      simp only [activeCount, counts, content]
    rw [missing, uncounted]
    refine iff_of_false (fun h => by cases h) ?_
    rintro ⟨n, raised, _⟩
    cases raised
  | some value =>
    have present : getattr (.record fields) name = .ok value := by
      simp only [getattr, Node.child?, content]
    rw [present, ok_bind]
    cases value with
    | value v =>
      have counted : activeCount fields spec = countOf v spec.count := by
        simp only [activeCount, counts, content]
      rw [counted]
      simp only
      rw [bind_eq_ok_iff]
      refine exists_congr fun n => and_congr_right fun _ => ?_
      exact ⟨fun h => of_decide_eq_true (Except.ok.inj h), fun h => congrArg Except.ok (by simpa)⟩
    | items members =>
      refine iff_of_false (fun h => by cases h) ?_
      rintro ⟨n, raised, _⟩
      simp only [activeCount, counts, content] at raised
      cases raised
    | record inner =>
      refine iff_of_false (fun h => by cases h) ?_
      rintro ⟨n, raised, _⟩
      simp only [activeCount, counts, content] at raised
      cases raised

/-- Going into an item replaces the check where the section has a count of its own. -/
private theorem Guarded.item {root : DataTree} {scope : Scope} {around : List Enclosure}
    {fields : List (FieldDef × DataTree)} {field : FieldDef} {spec : RepeatedSectionSpec}
    (guarded : Guarded root scope around) (found : resolve root scope.path = .ok (.record fields))
    (named : spec.activeCountAttribute ≠ some "") (index : Nat) :
    Guarded root (scope.item field spec index)
      (around ++ [⟨spec, index, activeCount fields spec⟩]) := by
  unfold Guarded
  cases counts : spec.activeCountAttribute with
  | none =>
    have uncounted : (⟨spec, index, activeCount fields spec⟩ : Enclosure).counted = false := by
      simp [Enclosure.counted, counts]
    have kept : (scope.item field spec index).presence = scope.presence := by
      simp [Scope.item, Scope.countPath, counts, truthy]
    rw [List.filter_append, List.filter_cons_of_neg (by simp [uncounted]), List.filter_nil,
      List.append_nil, kept]
    exact guarded
  | some name =>
    have own : (⟨spec, index, activeCount fields spec⟩ : Enclosure).counted = true := by
      simp [Enclosure.counted, counts]
    have nonempty : name ≠ "" := fun same => named (by rw [counts, same])
    have replaced : (scope.item field spec index).presence =
        some ⟨scope.path ++ [.attr name], index, spec.count⟩ := by
      simp [Scope.item, Scope.countPath, counts, truthy, Option.filter, nonempty]
    rw [List.filter_append, List.filter_cons_of_pos own, List.filter_nil, List.getLast?_concat]
    exact ⟨_, replaced, isPresent_iff found counts index⟩

/-- A name under which a count is read is not empty. -/
private theorem name_ne_empty {fields : List (FieldDef × DataTree)} (plain : plainFields fields)
    {spec : RepeatedSectionSpec} {n : Nat} (counted : activeCount fields spec = .ok n) :
    spec.activeCountAttribute ≠ some "" := by
  intro empty
  unfold activeCount at counted
  rw [empty] at counted
  cases content : attr? fields "" with
  | none => simp [content] at counted
  | some value => exact absurd (plain_of_attr? plain content).1 (by decide)

/-- What the walk comes to in one snapshot is found in every other of the same
shape, with a check that looks at the innermost count there. -/
theorem reaches_guarded {root other : DataTree} (same : root.shape = other.shape)
    (wf : WellFormed other) (plain : plainNames root = true) {start : Scope}
    (top : start.path = []) (unguarded : start.presence = none) {scope : Scope} {t : DataTree}
    (reaches : Reaches (start, root) (scope, t)) :
    ∃ t' around, t.shape = t'.shape ∧ Located other scope t' around ∧
      Visits (start, other) (scope, t') ∧ Guarded other scope around ∧
      ∀ e ∈ around, e.counted = false → e.Below := by
  generalize hnext : (scope, t) = next at reaches
  induction reaches generalizing scope t with
  | refl =>
    obtain ⟨rfl, rfl⟩ := Prod.mk.inj hnext
    refine ⟨other, [], same, .start wf top, .refl, unguarded, fun e he => ?_⟩
    cases he
  | tail walked step ih =>
    cases step with
    | mk member enters =>
      obtain ⟨u, around, sameHere, here, visited, guarded, fixed⟩ := ih rfl
      have names := visits_plain plain (Reaches.visits walked)
      obtain ⟨fields', rfl, fieldOf⟩ := exists_field_of_shape sameHere
      obtain ⟨value', member', sameValue⟩ := fieldOf _ _ member
      cases enters with
      | nested section_ =>
        obtain ⟨rfl, rfl⟩ := Prod.mk.inj hnext
        obtain ⟨inner', rfl, _⟩ := exists_field_of_shape sameValue
        exact ⟨_, around, sameValue, here.nested member',
          visited.tail (.mk member' (.nested section_)), guarded, fixed⟩
      | @item members spec n index item declared counted inside found =>
        obtain ⟨rfl, rfl⟩ := Prod.mk.inj hnext
        obtain ⟨members', rfl, itemOf⟩ := exists_item_of_shape sameValue
        obtain ⟨item', found', sameItem⟩ := itemOf _ _ found
        refine ⟨item', _, sameItem, here.item member' declared found',
          visited.tail (.mk member' (.item declared found')),
          guarded.item here.found (name_ne_empty names counted) index, fun e he uncounted => ?_⟩
        rcases List.mem_append.mp he with earlier | last
        · exact fixed e earlier uncounted
        · obtain rfl := List.mem_singleton.mp last
          have noAttribute : spec.activeCountAttribute = none := by
            simpa [Enclosure.counted] using uncounted
          have all : activeCount fields' spec = .ok spec.count := by
            simp [activeCount, noAttribute]
          exact ⟨spec.count, all, Nat.lt_of_lt_of_le inside (activeCount_le counted)⟩

/-! ### Presence and planning -/

/-- Every index of the binding's path into a repeated section is below the active count. -/
def EnclosuresActive (binding : EntityBinding) (data : DataTree) : Prop :=
  ∀ e ∈ binding.enclosures data, e.Below

/-- So is the index into the innermost section that has a count of its own. -/
def InnermostActive (binding : EntityBinding) (data : DataTree) : Prop :=
  ∀ last ∈ ((binding.enclosures data).filter Enclosure.counted).getLast?, last.Below

/-- The plan has a binding with that path and unique key. -/
def EntityPlan.Replans (plan : EntityPlan) (binding : EntityBinding) : Prop :=
  ∃ other ∈ plan.entities, other.path = binding.path ∧ other.uniqueKey = binding.uniqueKey

/-- Presence in later data is activity of every section around the binding, and
that is being planned again. -/
def PresenceAgrees (binding : EntityBinding) (later : DataTree) (plan : EntityPlan) : Prop :=
  (binding.isPresent later = .ok true ↔ EnclosuresActive binding later) ∧
    (EnclosuresActive binding later ↔ plan.Replans binding)

section

variable {profile : EntityProfile} {data later : TrackedProductData} {plan plan' : EntityPlan}
  {binding : EntityBinding}

/-- Planning again lists exactly the bindings whose sections are all still active. -/
theorem enclosuresActive_iff_replans (same : data.tree.shape = later.tree.shape)
    (wf : WellFormed data.tree) (built : profile.buildEntityPlan data = .ok plan)
    (built' : profile.buildEntityPlan later = .ok plan') (listed : binding ∈ plan.entities) :
    EnclosuresActive binding later.tree ↔ plan'.Replans binding := by
  have wf' : WellFormed later.tree := wellFormed_congr same wf
  constructor
  · intro active
    refine ⟨binding, (mem_plan_iff built' binding).mpr ?_, rfl, rfl⟩
    rcases (mem_plan_iff built binding).mp listed with walked | derived
    · obtain ⟨scope, fields, field, value, reaches, member, declares⟩ := walked
      obtain ⟨t', sameHere, visits⟩ := visits_of_shape same (Reaches.visits reaches)
      obtain ⟨around, here, reached⟩ := visits_located wf' rfl visits
      obtain ⟨fields', rfl, fieldOf⟩ := exists_field_of_shape sameHere
      obtain ⟨value', member', _⟩ := fieldOf _ _ member
      cases declares with
      | entity own =>
        have below : ∀ e ∈ around, e.Below := by
          rw [← enclosures_ownEntities here own]
          exact active
        exact .inl ⟨scope, fields', field, value', reached below, member', .entity own⟩
    · exact .inr derived
  · rintro ⟨other, member, path, _⟩
    have around : binding.enclosures later.tree = other.enclosures later.tree := by
      rw [EntityBinding.enclosures, EntityBinding.enclosures, path]
    unfold EnclosuresActive
    rw [around]
    rcases (mem_plan_iff built' other).mp member with walked | derived
    · obtain ⟨scope, fields, field, value, reaches, _, declares⟩ := walked
      obtain ⟨around, here, below⟩ := reaches_below wf' rfl reaches
      cases declares with
      | entity own =>
        rw [enclosures_ownEntities here own]
        exact below
    · obtain ⟨spec, _, rfl⟩ := List.mem_map.mp derived
      intro e he
      cases he

/-- The stored check and the counts of the later data. -/
theorem isPresent_iff_innermostActive (same : data.tree.shape = later.tree.shape)
    (wf : WellFormed data.tree) (plain : plainNames data.tree = true)
    (built : profile.buildEntityPlan data = .ok plan) (listed : binding ∈ plan.entities) :
    (binding.isPresent later.tree = .ok true ↔ InnermostActive binding later.tree) ∧
      ∀ e ∈ binding.enclosures later.tree, e.counted = false → e.Below := by
  rcases (mem_plan_iff built binding).mp listed with walked | derived
  · obtain ⟨scope, fields, field, value, reaches, _, declares⟩ := walked
    obtain ⟨t', around, _, here, _, guarded, fixed⟩ :=
      reaches_guarded same (wellFormed_congr same wf) plain rfl rfl reaches
    cases declares with
    | entity own =>
      have presence := (ownEntities_path own).1
      unfold InnermostActive EntityBinding.isPresent
      rw [enclosures_ownEntities here own, presence]
      refine ⟨?_, fixed⟩
      unfold Guarded at guarded
      cases innermost : (around.filter Enclosure.counted).getLast? with
      | none =>
        rw [innermost] at guarded
        rw [guarded]
        exact iff_of_true rfl fun last h => by cases h
      | some last =>
        rw [innermost] at guarded
        obtain ⟨check, stored, agrees⟩ := guarded
        rw [stored]
        refine agrees.trans ⟨fun below e he => ?_, fun all => all last rfl⟩
        obtain rfl := Option.some.inj he
        exact below
  · obtain ⟨spec, _, rfl⟩ := List.mem_map.mp derived
    refine ⟨iff_of_true rfl ?_, fun e he => ?_⟩
    · intro last h
      cases h
    · cases he

/-- A binding's presence agrees with planning exactly when no outer count has
fallen to its index while the innermost count has not. -/
theorem presence_agrees_iff (same : data.tree.shape = later.tree.shape)
    (wf : WellFormed data.tree) (plain : plainNames data.tree = true)
    (built : profile.buildEntityPlan data = .ok plan)
    (built' : profile.buildEntityPlan later = .ok plan') (listed : binding ∈ plan.entities) :
    PresenceAgrees binding later.tree plan' ↔
      (InnermostActive binding later.tree →
        ∀ e ∈ binding.enclosures later.tree, e.counted = true → e.Below) := by
  obtain ⟨check, fixed⟩ := isPresent_iff_innermostActive same wf plain built listed
  have replans := enclosuresActive_iff_replans same wf built built' listed
  have onlyCounted : (∀ e ∈ binding.enclosures later.tree, e.counted = true → e.Below) ↔
      EnclosuresActive binding later.tree := by
    constructor
    · intro below e he
      cases counted : e.counted with
      | true => exact below e he counted
      | false => exact fixed e he counted
    · exact fun active e he _ => active e he
  have inner : EnclosuresActive binding later.tree → InnermostActive binding later.tree := by
    intro active last hlast
    have among := List.mem_of_getLast? hlast
    exact active last (List.mem_filter.mp among).1
  rw [onlyCounted, PresenceAgrees, check, and_iff_left replans]
  exact ⟨Iff.mp, fun outer => ⟨outer, inner⟩⟩

end

/-! ### A stack of packs with cells -/

/-- A pack declares how many of its cells are populated. -/
def packFields : DataClass := [
  plainField "cell_count",
  repeatedSectionField "cells" [valueField "voltage" (sensor "voltage" "Voltage")] {
    count := 2
    inhabited := Nat.two_pos
    sources := [({ name := "cells", command := 0x31 },
      { offset := 0, stride := 1, advances := Nat.one_pos })]
    activeCountAttribute := some "cell_count" }]

/-- A stack declares how many of its packs are populated. -/
def stackFields : DataClass := [
  plainField "pack_count",
  repeatedSectionField "packs" packFields {
    count := 2
    inhabited := Nat.two_pos
    sources := [({ name := "packs", command := 0x30 },
      { offset := 0, stride := 1, advances := Nat.one_pos })]
    activeCountAttribute := some "pack_count" }]

def stackProfile : EntityProfile where
  productId := "stack"
  dataType := ⟨"StackData", stackFields, baseAliases⟩
  packets := []
  supportedCommands := []
  device := { manufacturer := "Marstek", model := "Stack" }

/-- A stack with the given counts of packs and of cells in each. -/
def stackOf (packs first second : Int) : TrackedProductData where
  dataType := stackProfile.dataType
  tree := (Node.record stackFields).assignAll [
    ([.attr "pack_count"], .int packs),
    ([.attr "packs", .index 0, .attr "cell_count"], .int first),
    ([.attr "packs", .index 1, .attr "cell_count"], .int second)]
  fieldUpdates := fun _ => none

/-- The cell of the second pack, after the stack has shrunk to one pack. -/
theorem presence_agrees_iff_stack : ∃ plan plan' binding,
    stackProfile.buildEntityPlan (stackOf 2 2 1) = .ok plan ∧
    stackProfile.buildEntityPlan (stackOf 1 2 1) = .ok plan' ∧ binding ∈ plan.entities ∧
    (PresenceAgrees binding (stackOf 1 2 1).tree plan' ↔
      (InnermostActive binding (stackOf 1 2 1).tree →
        ∀ e ∈ binding.enclosures (stackOf 1 2 1).tree, e.counted = true → e.Below)) := by
  have same : (stackOf 2 2 1).tree.shape = (stackOf 1 2 1).tree.shape := rfl
  obtain ⟨plan, built⟩ : ∃ plan, stackProfile.buildEntityPlan (stackOf 2 2 1) = .ok plan :=
    ⟨_, rfl⟩
  obtain ⟨plan', built'⟩ : ∃ plan', stackProfile.buildEntityPlan (stackOf 1 2 1) = .ok plan' :=
    ⟨_, rfl⟩
  have some_cell : 2 < plan.entities.length := by
    obtain rfl := Except.ok.inj built
    decide
  refine ⟨plan, plan', plan.entities[2], built, built', List.getElem_mem some_cell, ?_⟩
  exact presence_agrees_iff same (by decide) (by decide) built built' (List.getElem_mem some_cell)

/-- That cell counts as present, since its own pack still declares it. -/
theorem shrunk_stack_cell_present : ¬ ∀ (profile : EntityProfile)
    (data later : TrackedProductData) (plan plan' : EntityPlan),
    data.tree.shape = later.tree.shape → WellFormed data.tree → plainNames data.tree = true →
    profile.buildEntityPlan data = .ok plan → profile.buildEntityPlan later = .ok plan' →
    ∀ binding ∈ plan.entities, PresenceAgrees binding later.tree plan' := by
  intro claim
  have agrees := claim stackProfile (stackOf 2 2 1) (stackOf 1 2 1) _ _ rfl (by decide) (by decide)
    rfl rfl _ (List.getElem_mem (n := 2) (by decide))
  have active := agrees.1.mp rfl
  obtain ⟨n, counted, below⟩ := active _ List.mem_cons_self
  obtain rfl : 1 = n := Except.ok.inj counted
  exact absurd below (by decide)

end MarstekBle.Entities
