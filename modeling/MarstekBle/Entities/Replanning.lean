/- module: Entities/Replanning
   source: custom_components/marstek_ble/entity.py
   digest: When the detected increases agree with planning again. -/

import MarstekBle.Entities.Expansion

set_option autoImplicit false
set_option relaxedAutoImplicit false

namespace MarstekBle.Entities

open MarstekBle.Data MarstekBle.Schema MarstekBle.Product MarstekBle.Lib.AttributeTree
open MarstekBle.Lib.Dictionary

/-! ### Sections of a data object -/

/-- A repeated section in populated items only. -/
def ActiveSection (start : Scope × DataTree) (path : DataPath) (spec : RepeatedSectionSpec)
    (n : Nat) : Prop :=
  SectionAt start path spec n ∧ ∀ e ∈ enclosures path start.2, e.Below

section Sections

variable {start : Scope} {root other : DataTree}

private theorem path_inj {p q : DataPath} {name name' : String}
    (same : p ++ [PathElement.attr name] = q ++ [.attr name']) : p = q ∧ name = name' := by
  obtain ⟨rfl, last⟩ := List.append_inj' same rfl
  exact ⟨rfl, PathElement.attr.inj (List.cons.inj last).1⟩

/-- Objects of one shape have the same section at a path. -/
theorem SectionAt.spec_eq (shape : root.shape = other.shape) (wf : WellFormed other)
    (top : start.path = []) {path : DataPath} {spec spec' : RepeatedSectionSpec} {n m : Nat}
    (first : SectionAt (start, root) path spec n) (second : SectionAt (start, other) path spec' m) :
    spec = spec' := by
  obtain ⟨scope, fields, field, value, visits, member, declared, _, rfl⟩ := first
  obtain ⟨scope', fields', field', value', visits', member', declared', _, same⟩ := second
  obtain ⟨samePath, sameName⟩ := path_inj same
  obtain ⟨t, sameHere, visited⟩ := visits_of_shape shape visits
  obtain ⟨others, rfl, fieldOf⟩ := exists_field_of_shape sameHere
  obtain ⟨content, listed, _⟩ := fieldOf field value member
  obtain ⟨around, here, _⟩ := visits_located wf top visited
  obtain ⟨around', there, _⟩ := visits_located wf top visits'
  have sameFields : (Node.record others : DataTree) = .record fields' := by
    have found := here.found
    rw [samePath, there.found] at found
    exact (Except.ok.inj found).symm
  obtain rfl := Node.record.inj sameFields
  have wfFields : wellFormedFields others = true := here.wf
  have entry := (attr?_of_mem wfFields listed).2.1
  rw [sameName, (attr?_of_mem wfFields member').2.1] at entry
  obtain ⟨rfl, _⟩ := Prod.mk.inj (Option.some.inj entry)
  exact Option.some.inj (declared.symm.trans declared')

/-- An object has one section at a path, with one active count. -/
theorem SectionAt.count_eq (wf : WellFormed root) (top : start.path = []) {path : DataPath}
    {spec spec' : RepeatedSectionSpec} {n m : Nat} (first : SectionAt (start, root) path spec n)
    (second : SectionAt (start, root) path spec' m) : n = m := by
  obtain rfl := first.spec_eq rfl wf top second
  obtain ⟨scope, fields, field, value, visits, _, _, counted, rfl⟩ := first
  obtain ⟨scope', fields', field', value', visits', _, _, counted', same⟩ := second
  obtain ⟨around, here, _⟩ := visits_located wf top visits
  obtain ⟨around', there, _⟩ := visits_located wf top visits'
  have found := here.found
  rw [(path_inj same).1, there.found] at found
  obtain rfl := Node.record.inj (Except.ok.inj found)
  exact Except.ok.inj (counted.symm.trans counted')

/-- The sections around a section are those its record is in. -/
private theorem enclosures_section {scope : Scope} {t : DataTree} {around : List Enclosure}
    (here : Located root scope t around) (name : String) :
    enclosures (scope.path ++ [.attr name]) root = around := by
  rw [here.enclosed, enclosures_field, List.append_nil]

/-- The walk of a plan comes to exactly the active sections. -/
theorem activeSection_iff (wf : WellFormed root) (top : start.path = []) (path : DataPath)
    (spec : RepeatedSectionSpec) (n : Nat) : ActiveSection (start, root) path spec n ↔
      ∃ scope fields field value, Reaches (start, root) (scope, .record fields) ∧
        (field, value) ∈ fields ∧ field.repeatedSection = some spec ∧
        activeCount fields spec = .ok n ∧ path = scope.path ++ [.attr field.name] := by
  constructor
  · rintro ⟨⟨scope, fields, field, value, visits, member, declared, counted, rfl⟩, below⟩
    obtain ⟨around, here, reached⟩ := visits_located wf top visits
    have inside : ∀ e ∈ around, e.Below := by
      rw [← enclosures_section here field.name]
      exact below
    exact ⟨scope, fields, field, value, reached inside, member, declared, counted, rfl⟩
  · rintro ⟨scope, fields, field, value, reaches, member, declared, counted, rfl⟩
    obtain ⟨around, here, below⟩ := reaches_below wf top reaches
    refine ⟨⟨scope, fields, field, value, Reaches.visits reaches, member, declared, counted, rfl⟩,
      ?_⟩
    show ∀ e ∈ enclosures (scope.path ++ [.attr field.name]) root, e.Below
    rw [enclosures_section here field.name]
    exact below

private theorem visits_plainPath {here next : Scope × DataTree}
    (plain : plainNames here.2 = true) (plainStart : here.1.path.all plainElement = true)
    (visits : Visits here next) : next.1.path.all plainElement = true := by
  induction visits with
  | refl => exact plainStart
  | @tail middle last before step ih =>
    have names := visits_plain plain before
    cases step with
    | mk member opens =>
      have named := (plain_of_mem names member).1
      cases opens with
      | nested _ =>
        show (_ ++ [_]).all plainElement = true
        rw [List.all_append, ih]
        simpa [plainElement] using named
      | item _ _ =>
        show ((_ ++ [_]) ++ [_]).all plainElement = true
        rw [List.all_append, List.all_append, ih]
        simpa [plainElement] using named

theorem SectionAt.plain (plain : plainNames root = true) (top : start.path = [])
    {path : DataPath} {spec : RepeatedSectionSpec} {n : Nat}
    (here : SectionAt (start, root) path spec n) :
    path.all plainElement = true ∧ path ≠ [] := by
  obtain ⟨scope, fields, field, value, visits, member, _, _, rfl⟩ := here
  have plainStart : start.path.all plainElement = true := by rw [top, List.all_nil]
  have before := visits_plainPath plain plainStart visits
  have named := (plain_of_mem (visits_plain plain visits) member).1
  refine ⟨?_, by simp⟩
  rw [List.all_append]
  simp only [Bool.and_eq_true]
  exact ⟨before, by simpa [plainElement] using named⟩

/-- Sections with one path string have one path. -/
theorem SectionAt.path_eq {root' : DataTree} (plain : plainNames root = true)
    (plain' : plainNames root' = true) (top : start.path = []) {path path' : DataPath}
    {spec spec' : RepeatedSectionSpec} {n n' : Nat} (here : SectionAt (start, root) path spec n)
    (there : SectionAt (start, root') path' spec' n') (same : pathString path = pathString path') :
    path = path' := by
  obtain ⟨plainHere, nonempty⟩ := here.plain plain top
  obtain ⟨plainThere, nonempty'⟩ := there.plain plain' top
  exact pathString_injective plainHere plainThere nonempty nonempty' same

end Sections

/-! ### The counts of a plan -/

section Counts

variable {profile : EntityProfile} {data : TrackedProductData} {plan : EntityPlan}

/-- A plan keeps the counts of the active sections. -/
theorem lookup_repeatedCounts (wf : WellFormed data.tree) (plain : plainNames data.tree = true)
    (built : profile.buildEntityPlan data = .ok plan) (key : String) (n : Nat) :
    plan.repeatedCounts.lookup key = some n ↔ ∃ path spec, key = pathString path ∧
      ActiveSection (profile.rootScope, data.tree) path spec n := by
  unfold EntityProfile.buildEntityPlan at built
  split at built
  · cases built
  · obtain ⟨collected, hcollected, finished⟩ := bind_eq_ok_iff.mp built
    obtain rfl := Except.ok.inj finished
    have listed : ∀ k m, (k, m) ∈ collected.counts ↔ ∃ path spec, k = pathString path ∧
        ActiveSection (profile.rootScope, data.tree) path spec m := by
      intro k m
      refine (lists_collect_iff data.tree profile.rootScope hcollected (.count k m)).trans ?_
      constructor
      · rintro ⟨scope, fields, field, value, reaches, member, declares⟩
        cases declares with
        | count declared counted =>
          exact ⟨_, _, rfl, (activeSection_iff wf rfl _ _ _).mpr
            ⟨scope, fields, field, value, reaches, member, declared, counted, rfl⟩⟩
      · rintro ⟨path, spec, rfl, active⟩
        obtain ⟨scope, fields, field, value, reaches, member, declared, counted, rfl⟩ :=
          (activeSection_iff wf rfl _ _ _).mp active
        exact ⟨scope, fields, field, value, reaches, member, .count declared counted⟩
    show (stored collected.counts).lookup key = some n ↔ _
    rw [lookup_stored, ← listed]
    constructor
    · exact mem_of_latest
    · intro member
      obtain ⟨m, hm⟩ := Option.isSome_iff_exists.mp
        ((latest_isSome_iff key collected.counts).mpr ⟨_, member, rfl⟩)
      obtain ⟨path, spec, rfl, active⟩ := (listed key n).mp member
      obtain ⟨path', spec', samePath, active'⟩ := (listed _ m).mp (mem_of_latest hm)
      obtain rfl := active.1.path_eq plain plain rfl active'.1 samePath
      rw [hm, active.1.count_eq wf rfl active'.1]

end Counts

/-! ### Detection and planning -/

/-- What detection against an earlier plan promises about planning again: every
change is a section that grew, with both counts, and none is named twice; a new
entity does not go unnoticed; and an unchanged object has not changed. -/
structure ExpansionAgrees (data later : TrackedProductData) (plan plan' : EntityPlan)
    (changes : List ExpansionChange) : Prop where
  sound : ∀ change ∈ changes,
    plan.repeatedCounts.lookup (pathString change.path) = some change.configuredCount ∧
    plan'.repeatedCounts.lookup (pathString change.path) = some change.discoveredCount ∧
    change.configuredCount < change.discoveredCount
  once : (changes.map ExpansionChange.path).Nodup
  complete : ∀ binding ∈ plan'.entities, ¬ plan.Replans binding → changes ≠ []
  unchanged : data.tree = later.tree → changes = []

/-- No section that is planned from the first object has a larger count in the
second while it lies in an item that is not populated there. -/
def NoHiddenGrowth (start : Scope) (data later : DataTree) : Prop :=
  ∀ path spec n m, ActiveSection (start, data) path spec n →
    SectionAt (start, later) path spec m → n < m → ∀ e ∈ enclosures path later, e.Below

section

variable {profile : EntityProfile} {data later : TrackedProductData} {plan plan' : EntityPlan}
  {changes : List ExpansionChange}

/-- A section is reported where the plan knows it with a smaller count. -/
private theorem mem_changes_iff (wf : WellFormed later.tree)
    (readable : sectionsReadable later.tree = true)
    (detected : profile.detectExpansionIncreases later plan = .ok changes)
    (change : ExpansionChange) : change ∈ changes ↔ ∃ path spec n m,
      SectionAt (profile.rootScope, later.tree) path spec m ∧
      plan.repeatedCounts.lookup (pathString path) = some n ∧ n < m ∧
      change ∈ sectionChange plan.repeatedCounts profile.productId path spec m := by
  obtain ⟨found, hfound, reports⟩ :=
    @findIncreases_spec plan.repeatedCounts profile.productId _ wf.1 readable profile.rootScope rfl
  obtain rfl : found = changes := Except.ok.inj (hfound.symm.trans detected)
  rw [reports]
  constructor
  · rintro ⟨path, spec, m, here, listed⟩
    have grown : (plan.repeatedCounts.lookup (pathString path)).getD m < m := by
      by_contra same
      unfold sectionChange at listed
      rw [if_neg same] at listed
      cases listed
    cases known : plan.repeatedCounts.lookup (pathString path) with
    | none => simp [known] at grown
    | some n =>
      rw [known] at grown
      exact ⟨path, spec, n, m, here, known, grown, listed⟩
  · rintro ⟨path, spec, n, m, here, _, _, listed⟩
    exact ⟨path, spec, m, here, listed⟩

private theorem sectionChange_known {configured : List (String × Nat)} {productId : String}
    {path : DataPath} {spec : RepeatedSectionSpec} {n m : Nat}
    (known : configured.lookup (pathString path) = some n) (grown : n < m) :
    ∃ change, sectionChange configured productId path spec m = [change] ∧ change.path = path ∧
      change.configuredCount = n ∧ change.discoveredCount = m := by
  unfold sectionChange
  simp only [known, Option.getD_some, grown, if_true]
  exact ⟨_, rfl, rfl, rfl, rfl⟩

/-- Where no section has grown, the second walk stays within the first. -/
private theorem reaches_of_no_growth (same : data.tree.shape = later.tree.shape)
    (wf : WellFormed data.tree) {collected : Collected}
    (built : collect [] profile.rootScope data.tree = .ok collected)
    (noGrowth : ∀ path spec n m, ActiveSection (profile.rootScope, data.tree) path spec n →
      SectionAt (profile.rootScope, later.tree) path spec m → m ≤ n)
    {scope : Scope} {t : DataTree} (reaches : Reaches (profile.rootScope, later.tree) (scope, t)) :
    ∃ u, t.shape = u.shape ∧ Reaches (profile.rootScope, data.tree) (scope, u) := by
  generalize hnext : (scope, t) = next at reaches
  induction reaches generalizing scope t with
  | refl =>
    obtain ⟨rfl, rfl⟩ := Prod.mk.inj hnext
    exact ⟨data.tree, same.symm, .refl⟩
  | tail walked step ih =>
    cases step with
    | mk member enters =>
      obtain ⟨u, sameHere, reached⟩ := ih rfl
      obtain ⟨fields', rfl, fieldOf⟩ := exists_field_of_shape sameHere
      obtain ⟨value', member', sameValue⟩ := fieldOf _ _ member
      cases enters with
      | nested plain =>
        obtain ⟨rfl, rfl⟩ := Prod.mk.inj hnext
        obtain ⟨inner', rfl, _⟩ := exists_field_of_shape sameValue
        exact ⟨_, sameValue, reached.tail (.mk member' (.nested plain))⟩
      | @item members spec m index item declared counted inside found =>
        obtain ⟨rfl, rfl⟩ := Prod.mk.inj hnext
        obtain ⟨members', rfl, itemOf⟩ := exists_item_of_shape sameValue
        obtain ⟨item', found', sameItem⟩ := itemOf _ _ found
        obtain ⟨n, counted'⟩ := activeCount_of_collect
          (collect_of_reaches reached ⟨collected, built⟩) member' declared
        have active := (activeSection_iff wf rfl _ spec n).mpr
          ⟨_, _, _, _, reached, member', declared, counted', rfl⟩
        have within : m ≤ n := noGrowth _ spec n m active
          ⟨_, _, _, _, Reaches.visits walked, member, declared, counted, rfl⟩
        exact ⟨item', sameItem, reached.tail (.mk member' (.item declared counted'
          (Nat.lt_of_lt_of_le inside within) found'))⟩

/-- A plan that lists something new has a grown section to show for it. -/
private theorem replans_of_no_growth (same : data.tree.shape = later.tree.shape)
    (wf : WellFormed data.tree) (built : profile.buildEntityPlan data = .ok plan)
    (built' : profile.buildEntityPlan later = .ok plan')
    (noGrowth : ∀ path spec n m, ActiveSection (profile.rootScope, data.tree) path spec n →
      SectionAt (profile.rootScope, later.tree) path spec m → m ≤ n)
    {binding : EntityBinding} (listed : binding ∈ plan'.entities) : plan.Replans binding := by
  refine ⟨binding, (mem_plan_iff built binding).mpr ?_, rfl, rfl⟩
  rcases (mem_plan_iff built' binding).mp listed with walked | derived
  · obtain ⟨scope, fields, field, value, reaches, member, declares⟩ := walked
    obtain ⟨collected, hcollected⟩ : ∃ collected,
        collect [] profile.rootScope data.tree = .ok collected := by
      unfold EntityProfile.buildEntityPlan at built
      split at built
      · cases built
      · obtain ⟨collected, hcollected, _⟩ := bind_eq_ok_iff.mp built
        exact ⟨collected, hcollected⟩
    obtain ⟨u, sameHere, reached⟩ := reaches_of_no_growth same wf hcollected noGrowth reaches
    obtain ⟨fields', rfl, fieldOf⟩ := exists_field_of_shape sameHere
    obtain ⟨value', member', _⟩ := fieldOf _ _ member
    cases declares with
    | entity own => exact .inl ⟨scope, fields', field, value', reached, member', .entity own⟩
  · exact .inr derived

/-- A section the plan knows is active in the first object, with the count the plan knows. -/
private theorem active_of_known (same : data.tree.shape = later.tree.shape)
    (wf : WellFormed data.tree) (plain : plainNames data.tree = true)
    (plain' : plainNames later.tree = true) (built : profile.buildEntityPlan data = .ok plan)
    {path : DataPath} {spec : RepeatedSectionSpec} {n m : Nat}
    (here : SectionAt (profile.rootScope, later.tree) path spec m)
    (found : plan.repeatedCounts.lookup (pathString path) = some n) :
    ActiveSection (profile.rootScope, data.tree) path spec n := by
  obtain ⟨path', spec', samePath, active⟩ := (lookup_repeatedCounts wf plain built _ _).mp found
  obtain rfl := here.path_eq plain' plain rfl active.1 samePath
  obtain rfl := active.1.spec_eq same (wellFormed_congr same wf) rfl here
  exact active

/-- A section of the plan that grew is reported. -/
private theorem change_of_growth (wf : WellFormed data.tree) (plain : plainNames data.tree = true)
    (built : profile.buildEntityPlan data = .ok plan) (wf' : WellFormed later.tree)
    (readable : sectionsReadable later.tree = true)
    (detected : profile.detectExpansionIncreases later plan = .ok changes)
    {path : DataPath} {spec : RepeatedSectionSpec} {n m : Nat}
    (active : ActiveSection (profile.rootScope, data.tree) path spec n)
    (here : SectionAt (profile.rootScope, later.tree) path spec m) (grown : n < m) :
    ∃ change ∈ changes, change.path = path ∧ change.discoveredCount = m := by
  have found := (lookup_repeatedCounts wf plain built _ _).mpr ⟨path, spec, rfl, active⟩
  obtain ⟨change, only, samePath, _, discovered⟩ :=
    @sectionChange_known _ profile.productId _ spec _ _ found grown
  have listed : change ∈ changes := by
    apply (mem_changes_iff wf' readable detected change).mpr
    refine ⟨path, spec, n, m, here, found, grown, ?_⟩
    rw [only]
    exact List.mem_singleton_self change
  exact ⟨change, listed, samePath, discovered⟩

/-- Detection finishes, and it agrees with planning again exactly when no section
has grown out of sight. -/
theorem expansion_agrees_iff (same : data.tree.shape = later.tree.shape)
    (wf : WellFormed data.tree) (plain : plainNames data.tree = true)
    (readable : sectionsReadable later.tree = true)
    (built : profile.buildEntityPlan data = .ok plan)
    (built' : profile.buildEntityPlan later = .ok plan') :
    ∃ changes, profile.detectExpansionIncreases later plan = .ok changes ∧
      (ExpansionAgrees data later plan plan' changes ↔
        NoHiddenGrowth profile.rootScope data.tree later.tree) := by
  have wf' : WellFormed later.tree := wellFormed_congr same wf
  have plain' : plainNames later.tree = true := plainNames_congr same ▸ plain
  obtain ⟨changes, detected, _⟩ :=
    @findIncreases_spec plan.repeatedCounts profile.productId _ wf'.1 readable profile.rootScope rfl
  refine ⟨changes, detected, ?_⟩
  have reported := @mem_changes_iff profile later plan changes wf' readable detected
  have known' := lookup_repeatedCounts wf' plain' built'
  constructor
  · intro agrees path spec n m active here grown
    obtain ⟨change, listed, rfl, rfl⟩ :=
      change_of_growth wf plain built wf' readable detected active here grown
    obtain ⟨path', spec', samePath, active'⟩ := (known' _ _).mp (agrees.sound change listed).2.1
    rw [here.path_eq plain' plain' rfl active'.1 samePath]
    exact active'.2
  · intro visible
    refine ⟨fun change listed => ?_, findIncreases_once wf'.2 detected,
      fun binding listed new => ?_,
      fun unchanged => ?_⟩
    · obtain ⟨path, spec, n, m, here, found, grown, own⟩ := (reported change).mp listed
      obtain ⟨change', only, rfl, rfl, rfl⟩ :=
        @sectionChange_known _ profile.productId _ spec _ _ found grown
      rw [only] at own
      obtain rfl := List.mem_singleton.mp own
      have active := active_of_known same wf plain plain' built here found
      have below := visible _ spec _ _ active here grown
      exact ⟨found, (known' _ _).mpr ⟨_, spec, rfl, here, below⟩, grown⟩
    · rintro rfl
      refine new (replans_of_no_growth same wf built built' (fun path spec n m active here => ?_)
        listed)
      by_contra grown
      obtain ⟨change, reportedChange, _⟩ :=
        change_of_growth wf plain built wf' readable detected active here (Nat.lt_of_not_le grown)
      cases reportedChange
    · refine List.eq_nil_iff_forall_not_mem.mpr fun change listed => ?_
      obtain ⟨path, spec, n, m, here, found, grown, _⟩ := (reported change).mp listed
      have active := active_of_known same wf plain plain' built here found
      rw [unchanged] at active
      exact Nat.lt_irrefl _ (active.1.count_eq wf' rfl here ▸ grown)

end

/-- The stack loses its second pack while that pack declares one cell more. -/
theorem expansion_agrees_iff_stack : ∃ plan plan',
    stackProfile.buildEntityPlan (stackOf 2 1 1) = .ok plan ∧
    stackProfile.buildEntityPlan (stackOf 1 1 2) = .ok plan' ∧
    ∃ changes, stackProfile.detectExpansionIncreases (stackOf 1 1 2) plan = .ok changes ∧
      (ExpansionAgrees (stackOf 2 1 1) (stackOf 1 1 2) plan plan' changes ↔
        NoHiddenGrowth stackProfile.rootScope (stackOf 2 1 1).tree (stackOf 1 1 2).tree) := by
  have same : (stackOf 2 1 1).tree.shape = (stackOf 1 1 2).tree.shape := rfl
  obtain ⟨plan, built⟩ : ∃ plan, stackProfile.buildEntityPlan (stackOf 2 1 1) = .ok plan :=
    ⟨_, rfl⟩
  obtain ⟨plan', built'⟩ : ∃ plan', stackProfile.buildEntityPlan (stackOf 1 1 2) = .ok plan' :=
    ⟨_, rfl⟩
  exact ⟨plan, plan', built, built',
    expansion_agrees_iff same (by decide) (by decide) (by decide) built built'⟩

/-- The cells of the lost pack are reported as grown, and the new plan has none. -/
theorem lost_pack_reported : ¬ ∀ (profile : EntityProfile)
    (data later : TrackedProductData) (plan plan' : EntityPlan) (changes : List ExpansionChange),
    data.tree.shape = later.tree.shape → WellFormed data.tree → plainNames data.tree = true →
    sectionsReadable later.tree = true → profile.buildEntityPlan data = .ok plan →
    profile.buildEntityPlan later = .ok plan' →
    profile.detectExpansionIncreases later plan = .ok changes →
    ExpansionAgrees data later plan plan' changes := by
  intro claim
  have agrees := claim stackProfile (stackOf 2 1 1) (stackOf 1 1 2) _ _ _ rfl (by decide)
    (by decide) (by decide) rfl rfl rfl
  obtain ⟨_, planned, _⟩ := agrees.sound _ List.mem_cons_self
  revert planned
  decide

end MarstekBle.Entities
