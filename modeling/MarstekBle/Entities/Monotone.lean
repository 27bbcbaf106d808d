/- module: Entities/Monotone
   source: custom_components/marstek_ble/entity.py
   digest: A larger active count only adds entities to the plan, and changes none before it. -/

import MarstekBle.Entities.Products

/-!
Two snapshots of one shape are compared field by field. Counts are compared only
where the walk reads them, at the parent of a repeated section. The walk on the
smaller snapshot makes the same bindings in the same scopes; it only leaves a
repeated section earlier.
-/

set_option autoImplicit false
set_option relaxedAutoImplicit false

namespace MarstekBle.Entities

open MarstekBle.Data MarstekBle.Schema MarstekBle.Product MarstekBle.Lib.AttributeTree

/-- What a field has to satisfy beside its contents: an indexed field holds as many
items as before, and the active count of a repeated section is not smaller. -/
structure FieldGrows (parent parent' : List (FieldDef × DataTree)) (field : FieldDef)
    (value value' : DataTree) : Prop where
  lengths : field.indexedEntities ≠ [] → lengthOf value = lengthOf value'
  counts : ∀ spec, field.repeatedSection = some spec → ∃ n m,
    activeCount parent spec = .ok n ∧ activeCount parent' spec = .ok m ∧ n ≤ m

namespace FieldGrows

variable {parent parent' : List (FieldDef × DataTree)} {field : FieldDef}
  {value value' : DataTree}

theorem of_no_section (plain : field.repeatedSection = none)
    (lengths : lengthOf value = lengthOf value') :
    FieldGrows parent parent' field value value' := by
  refine ⟨fun _ => lengths, fun spec hspec => ?_⟩
  rw [plain] at hspec
  cases hspec

theorem of_section {spec : RepeatedSectionSpec} (declared : field.repeatedSection = some spec)
    (lengths : lengthOf value = lengthOf value') {n m : Nat}
    (before : activeCount parent spec = .ok n) (after : activeCount parent' spec = .ok m)
    (le : n ≤ m) : FieldGrows parent parent' field value value' := by
  refine ⟨fun _ => lengths, fun spec' hspec => ?_⟩
  rw [declared] at hspec
  obtain rfl := Option.some.inj hspec
  exact ⟨n, m, before, after, le⟩

end FieldGrows

mutual

/-- The second snapshot has the shape of the first and no smaller active counts. -/
def Grows : DataTree → DataTree → Prop
  | .value _, .value _ => True
  | .items members, .items members' => GrowsItems members members'
  | .record fields, .record fields' => GrowsFields fields fields' fields fields'
  | _, _ => False
termination_by structural t => t

def GrowsFields (parent parent' : List (FieldDef × DataTree)) :
    List (FieldDef × DataTree) → List (FieldDef × DataTree) → Prop
  | [], [] => True
  | (field, value) :: rest, (field', value') :: rest' =>
    field = field' ∧ FieldGrows parent parent' field value value' ∧ Grows value value' ∧
      GrowsFields parent parent' rest rest'
  | _, _ => False
termination_by structural fields => fields

def GrowsItems : List DataTree → List DataTree → Prop
  | [], [] => True
  | item :: rest, item' :: rest' => Grows item item' ∧ GrowsItems rest rest'
  | _, _ => False
termination_by structural members => members

end

section Walk

variable {configuredCounts : List (String × Int)}

/-- The items of a section up to its configured count. -/
def sectionItems (configuredCounts : List (String × Int)) (scope : Scope) (field : FieldDef)
    (spec : RepeatedSectionSpec) (value : DataTree) (configured : Nat) : Raises Collected :=
  match value with
  | .items members => collectItems configuredCounts scope field spec 0 configured members
  | _ =>
    if configured = 0 then .ok {}
    else .error ⟨.typeError, "must be called with a dataclass type or instance"⟩

/-- Contents that are no list add nothing, where the walk finishes. -/
theorem sectionItems_eq_nothing {scope : Scope} {field : FieldDef} {spec : RepeatedSectionSpec}
    {value : DataTree} {configured : Nat} {added : Collected}
    (noItems : ∀ members, value ≠ .items members)
    (built : sectionItems configuredCounts scope field spec value configured = .ok added) :
    added = {} := by
  cases value with
  | items members => exact absurd rfl (noItems members)
  | _ =>
    simp only [sectionItems] at built
    split at built
    · exact (Except.ok.inj built).symm
    · cases built

/-- What the section or the nested record of one field adds. -/
def collectNested (configuredCounts : List (String × Int)) (scope : Scope)
    (parent : List (FieldDef × DataTree)) (field : FieldDef) (value : DataTree) :
    Raises Collected :=
  let fieldPath := scope.path ++ [.attr field.name]
  match field.repeatedSection with
  | some spec => do
    let discovered ← activeCount parent spec
    let configured ← configuredCount configuredCounts fieldPath spec discovered
    let added ← sectionItems configuredCounts scope field spec value configured
    pure (Collected.append { counts := [(pathString fieldPath, configured)] } added)
  | none =>
    if value.isRecord then collect configuredCounts { scope with path := fieldPath } value
    else .ok {}

theorem collectFields_cons (scope : Scope) (parent : List (FieldDef × DataTree))
    (field : FieldDef) (value : DataTree) (rest : List (FieldDef × DataTree)) :
    collectFields configuredCounts scope parent ((field, value) :: rest) =
      (do
        let indexed ← collectIndexed scope field value field.indexedEntities
        let inner ← collectNested configuredCounts scope parent field value
        let later ← collectFields configuredCounts scope parent rest
        pure (Collected.append { entities := scope.fieldEntities field ++ indexed }
          (inner.append later))) := by
  rw [collectFields]
  rfl

/-- A later binding list extends an earlier one: it is built whenever the later one
is, and what it lists is listed there in the same order. -/
def Extends (first second : Raises Collected) : Prop :=
  ∀ later, second = .ok later →
    ∃ earlier, first = .ok earlier ∧ earlier.entities.Sublist later.entities

theorem configuredCount_mono (configuredCounts : List (String × Int)) (path : DataPath)
    (spec : RepeatedSectionSpec) {n m : Nat} (le : n ≤ m) : ∃ k l,
      configuredCount configuredCounts path spec n = .ok k ∧
      configuredCount configuredCounts path spec m = .ok l ∧ k ≤ l := by
  refine ⟨_, _, rfl, rfl, ?_⟩
  cases configuredCounts.lookup (pathString path) with
  | none => simp only [Option.getD_none]; omega
  | some count => exact Nat.le_refl _

private theorem collectIndexed_congr {scope : Scope} {field : FieldDef} {value value' : DataTree}
    (same : lengthOf value = lengthOf value') (specs : List IndexedEntitySpec) :
    collectIndexed scope field value specs = collectIndexed scope field value' specs := by
  induction specs with
  | nil => rfl
  | cons spec specs ih => rw [collectIndexed, collectIndexed, same, ih]

private theorem collectIndexed_grows {scope : Scope} {field : FieldDef} {value value' : DataTree}
    (lengths : field.indexedEntities ≠ [] → lengthOf value = lengthOf value') :
    collectIndexed scope field value field.indexedEntities =
      collectIndexed scope field value' field.indexedEntities := by
  by_cases plain : field.indexedEntities = []
  · rw [plain]
    rfl
  · exact collectIndexed_congr (lengths plain) _

private theorem extends_nothing (second : Raises Collected) : Extends (.ok {}) second :=
  fun _ _ => ⟨_, rfl, List.nil_sublist _⟩

private theorem extends_error (first : Raises Collected) (e : PyError) :
    Extends first (.error e) := fun _ built => by cases built

/-- How the walk over one tree extends the walk over another. -/
private structure Walks (configuredCounts : List (String × Int)) (t u : DataTree) : Prop where
  object : ∀ scope, Extends (collect configuredCounts scope t) (collect configuredCounts scope u)
  inSection : ∀ scope field spec n m, n ≤ m →
    Extends (sectionItems configuredCounts scope field spec t n)
      (sectionItems configuredCounts scope field spec u m)

/-- Contents that are no list have no items to add. -/
private theorem extends_sectionItems {t u : DataTree} (noItems : ∀ members, t ≠ .items members)
    (noItems' : ∀ members, u ≠ .items members) (scope : Scope) (field : FieldDef)
    (spec : RepeatedSectionSpec) {n m : Nat} (le : n ≤ m) :
    Extends (sectionItems configuredCounts scope field spec t n)
      (sectionItems configuredCounts scope field spec u m) := by
  intro later built
  have none_left : m = 0 := by
    by_contra some_left
    cases u with
    | items members => exact noItems' members rfl
    | value c => simp [sectionItems, some_left] at built
    | record fields => simp [sectionItems, some_left] at built
  obtain rfl : n = 0 := by omega
  have nothing : sectionItems configuredCounts scope field spec t 0 = .ok {} := by
    cases t with
    | items members => exact absurd rfl (noItems members)
    | value c => rfl
    | record fields => rfl
  rw [nothing]
  exact extends_nothing (.ok later) later rfl

private theorem isRecord_of_grows {t u : DataTree} (grows : Grows t u) :
    t.isRecord = u.isRecord := by
  cases t <;> cases u <;> simp [Grows] at grows <;> rfl

private theorem extends_collectNested {parent parent' : List (FieldDef × DataTree)}
    {field : FieldDef} {value value' : DataTree}
    (fits : FieldGrows parent parent' field value value') (grows : Grows value value')
    (walks : Walks configuredCounts value value') (scope : Scope) :
    Extends (collectNested configuredCounts scope parent field value)
      (collectNested configuredCounts scope parent' field value') := by
  cases hspec : field.repeatedSection with
  | none =>
    simp only [collectNested, hspec, isRecord_of_grows grows]
    split
    · exact walks.object _
    · exact extends_nothing _
  | some spec =>
    obtain ⟨n, m, hn, hm, le⟩ := fits.counts spec hspec
    obtain ⟨k, l, hk, hl, within⟩ := configuredCount_mono configuredCounts
      (scope.path ++ [.attr field.name]) spec le
    intro later built
    simp only [collectNested, hspec, hm, ok_bind, hl] at built
    obtain ⟨added, hadded, finished⟩ := bind_eq_ok_iff.mp built
    obtain rfl := Except.ok.inj finished
    obtain ⟨before, hbefore, sub⟩ := walks.inSection scope field spec k l within added hadded
    let fieldPath := scope.path ++ [.attr field.name]
    refine ⟨Collected.append { counts := [(pathString fieldPath, k)] } before, ?_, ?_⟩
    · simp only [collectNested, hspec, hn, ok_bind, hk, hbefore]
      rfl
    · simpa [Collected.append] using sub

private theorem extends_collectFields_cons {parent parent' : List (FieldDef × DataTree)}
    {field : FieldDef} {value value' : DataTree} {rest rest' : List (FieldDef × DataTree)}
    (fits : FieldGrows parent parent' field value value') (grows : Grows value value')
    (walks : Walks configuredCounts value value') (scope : Scope)
    (tail : Extends (collectFields configuredCounts scope parent rest)
      (collectFields configuredCounts scope parent' rest')) :
    Extends (collectFields configuredCounts scope parent ((field, value) :: rest))
      (collectFields configuredCounts scope parent' ((field, value') :: rest')) := by
  intro later built
  rw [collectFields_cons, ← collectIndexed_grows fits.lengths] at built
  obtain ⟨indexed, hindexed, built⟩ := bind_eq_ok_iff.mp built
  obtain ⟨inner', hinner', built⟩ := bind_eq_ok_iff.mp built
  obtain ⟨others', hothers', finished⟩ := bind_eq_ok_iff.mp built
  obtain rfl := Except.ok.inj finished
  obtain ⟨inner, hinner, innerSub⟩ :=
    extends_collectNested fits grows walks scope inner' hinner'
  obtain ⟨others, hothers, othersSub⟩ := tail others' hothers'
  refine ⟨Collected.append { entities := scope.fieldEntities field ++ indexed }
    (inner.append others), ?_, ?_⟩
  · rw [collectFields_cons, hindexed, ok_bind, hinner, ok_bind, hothers]
    rfl
  · exact (List.Sublist.refl _).append (innerSub.append othersSub)

private theorem extends_collectItems_cons {item item' : DataTree} {rest rest' : List DataTree}
    (walks : Walks configuredCounts item item') (scope : Scope) (field : FieldDef)
    (spec : RepeatedSectionSpec) (index : Nat) {n m : Nat}
    (tail : Extends (collectItems configuredCounts scope field spec (index + 1) n rest)
      (collectItems configuredCounts scope field spec (index + 1) m rest')) :
    Extends (collectItems configuredCounts scope field spec index (n + 1) (item :: rest))
      (collectItems configuredCounts scope field spec index (m + 1) (item' :: rest')) := by
  intro later built
  rw [collectItems] at built
  obtain ⟨here', hhere', built⟩ := bind_eq_ok_iff.mp built
  obtain ⟨others', hothers', finished⟩ := bind_eq_ok_iff.mp built
  obtain rfl := Except.ok.inj finished
  obtain ⟨here, hhere, hereSub⟩ := walks.object _ here' hhere'
  obtain ⟨others, hothers, othersSub⟩ := tail others' hothers'
  refine ⟨Collected.append { devices := scope.itemDevices spec index } (here.append others),
    ?_, ?_⟩
  · rw [collectItems, hhere, ok_bind, hothers]
    rfl
  · exact (List.Sublist.refl _).append (hereSub.append othersSub)

/-- The walk over a snapshot extends the walk over one with smaller counts. -/
private theorem walks_of_grows (t : DataTree) : ∀ u, Grows t u → Walks configuredCounts t u := by
  refine Node.induct (P := fun t => ∀ u, Grows t u → Walks configuredCounts t u)
    (Q := fun fields => ∀ parent parent' fields', GrowsFields parent parent' fields fields' →
      ∀ scope, Extends (collectFields configuredCounts scope parent fields)
        (collectFields configuredCounts scope parent' fields'))
    (R := fun members => ∀ members', GrowsItems members members' →
      ∀ scope field spec index n m, n ≤ m →
        Extends (collectItems configuredCounts scope field spec index n members)
          (collectItems configuredCounts scope field spec index m members'))
    ?value ?items ?record ?noFields ?field ?noItems ?item t
  case value =>
    intro c u grows
    cases u with
    | items members => simp [Grows] at grows
    | record fields => simp [Grows] at grows
    | value d =>
      exact ⟨fun scope => extends_error _ _, fun scope field spec n m le =>
        extends_sectionItems (fun _ h => by cases h) (fun _ h => by cases h) scope field spec le⟩
  case items =>
    intro members hmembers u grows
    cases u with
    | value d => simp [Grows] at grows
    | record fields => simp [Grows] at grows
    | items members' =>
      exact ⟨fun scope => extends_error _ _, fun scope field spec n m le =>
        hmembers members' grows scope field spec 0 n m le⟩
  case record =>
    intro fields hfields u grows
    cases u with
    | value d => simp [Grows] at grows
    | items members => simp [Grows] at grows
    | record fields' =>
      exact ⟨fun scope => hfields fields fields' fields' grows scope,
        fun scope field spec n m le => extends_sectionItems (fun _ h => by cases h)
          (fun _ h => by cases h) scope field spec le⟩
  case noFields =>
    intro parent parent' fields' grows scope
    cases fields' with
    | nil => exact extends_nothing _
    | cons e rest => simp [GrowsFields] at grows
  case field =>
    intro field value rest hvalue hrest parent parent' fields' grows scope
    cases fields' with
    | nil => simp [GrowsFields] at grows
    | cons e rest' =>
      obtain ⟨rfl, fits, inner, outer⟩ := grows
      exact extends_collectFields_cons fits inner (hvalue e.2 inner) scope
        (hrest parent parent' rest' outer scope)
  case noItems =>
    intro members' grows scope field spec index n m le
    cases members' with
    | cons item rest => simp [GrowsItems] at grows
    | nil =>
      cases n with
      | zero => exact extends_nothing _
      | succ n =>
        cases m with
        | zero => omega
        | succ m => exact extends_error _ _
  case item =>
    intro item rest hitem hrest members' grows scope field spec index n m le
    cases members' with
    | nil => simp [GrowsItems] at grows
    | cons item' rest' =>
      obtain ⟨inner, outer⟩ := grows
      cases n with
      | zero => exact extends_nothing _
      | succ n =>
        cases m with
        | zero => omega
        | succ m =>
          exact extends_collectItems_cons (hitem item' inner) scope field spec index
            (hrest rest' outer scope field spec (index + 1) n m (by omega))

end Walk

/-- Growing a count only adds entities. Between two snapshots of one shape, the
second with no smaller active counts, a plan for the second makes one for the
first, and the entities of the first plan occur in the second in the same order,
each with its key, path, device, name, stale paths and presence. -/
theorem plan_monotone (profile : EntityProfile) (configuredCounts : List (String × Int))
    {first second : TrackedProductData} (sameType : first.dataType = second.dataType)
    (grows : Grows first.tree second.tree) {later : EntityPlan}
    (built : profile.buildEntityPlan second configuredCounts = .ok later) :
    ∃ earlier, profile.buildEntityPlan first configuredCounts = .ok earlier ∧
      earlier.entities.Sublist later.entities := by
  unfold EntityProfile.buildEntityPlan at built ⊢
  rw [sameType]
  split at built
  · cases built
  · rename_i instanceOf
    obtain ⟨collected', hcollected', finished⟩ := bind_eq_ok_iff.mp built
    obtain rfl := Except.ok.inj finished
    obtain ⟨collected, hcollected, sub⟩ :=
      (walks_of_grows first.tree second.tree grows).object profile.rootScope collected' hcollected'
    rw [if_neg instanceOf, hcollected, ok_bind]
    exact ⟨_, rfl, sub.append (List.Sublist.refl _)⟩

/-- A fresh Jupiter object that declares the given number of battery packs. -/
def withPacks (count : Int) : TrackedProductData :=
  let fresh := Product.Jupiter.jupiterRuntime.createData
  { fresh with tree := fresh.tree.assign [.attr "battery", .attr "pack_count"] (.int count) }

set_option maxRecDepth 20000 in
private theorem grows_withPacks : Grows (withPacks 1).tree (withPacks 2).tree := by
  repeat' first
    | exact trivial
    | refine ⟨rfl, .of_no_section rfl rfl, ?_, ?_⟩
    | refine ⟨rfl, .of_section rfl rfl rfl rfl (by decide), ?_, ?_⟩
    | refine ⟨?_, ?_⟩

private theorem built_withPacks :
    ∃ later, Jupiter.jupiterEntityProfile.buildEntityPlan (withPacks 2) = .ok later := ⟨_, rfl⟩

/-- The Jupiter plan for one battery pack and the plan for two. -/
theorem plan_monotone_packs :
    ∃ later, Jupiter.jupiterEntityProfile.buildEntityPlan (withPacks 2) = .ok later ∧
      ∃ earlier, Jupiter.jupiterEntityProfile.buildEntityPlan (withPacks 1) = .ok earlier ∧
        earlier.entities.Sublist later.entities := by
  have sameType : (withPacks 1).dataType = (withPacks 2).dataType := rfl
  obtain ⟨later, built⟩ := built_withPacks
  exact ⟨later, built,
    plan_monotone Jupiter.jupiterEntityProfile [] sameType grows_withPacks built⟩

end MarstekBle.Entities
