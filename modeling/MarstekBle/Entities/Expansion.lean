/- module: Entities/Expansion
   source: custom_components/marstek_ble/entity.py
   digest: The detection of grown sections, and which sections it reports. -/

import Mathlib.Data.List.Nodup
import MarstekBle.Entities.Presence

/-!
Detection walks all items of every section, populated or not. A section whose
path the plan does not know is compared with itself.
-/

set_option autoImplicit false
set_option relaxedAutoImplicit false

namespace MarstekBle.Entities

open MarstekBle.Data MarstekBle.Schema MarstekBle.Product MarstekBle.Lib.AttributeTree

/-- A detected increase in populated repeated product records. -/
structure ExpansionChange where
  path : DataPath
  configuredCount : Nat
  discoveredCount : Nat
  maximumCount : Nat
  issueId : String
  translationKey : String := "expansion_count_increased"

/-- `path_name.replace('.', '_')`. -/
def dotsReplaced (pathName : String) : String := pathName.map fun c => if c = '.' then '_' else c

section Detection

variable (configured : List (String × Nat)) (productId : String)

/-- The change of one section, if its active count exceeds the known one. -/
def sectionChange (fieldPath : DataPath) (spec : RepeatedSectionSpec) (discovered : Nat) :
    List ExpansionChange :=
  let old := (configured.lookup (pathString fieldPath)).getD discovered
  if old < discovered then
    [{ path := fieldPath
       configuredCount := old
       discoveredCount := discovered
       maximumCount := spec.count
       issueId := productId ++ "_" ++ dotsReplaced (pathString fieldPath) ++
        "_expansion_count_increased" }]
  else []

def notIterable : PyError := ⟨.typeError, "object is not iterable"⟩

/-- A sequence of values is iterated over, and none of them is a record. -/
def passValues : Value → Raises (List ExpansionChange)
  | .list _ => .ok []
  | .tuple _ => .ok []
  | .str _ => .ok []
  | _ => .error notIterable

mutual

/-- `_find_increases` on one data-class instance. -/
def findIncreases (path : DataPath) : DataTree → Raises (List ExpansionChange)
  | .record fields => findFields path fields fields
  | _ => .error ⟨.typeError, "must be called with a dataclass type or instance"⟩
termination_by structural current => current

/-- The loop over the fields of an instance. -/
def findFields (path : DataPath) (parent : List (FieldDef × DataTree)) :
    List (FieldDef × DataTree) → Raises (List ExpansionChange)
  | [] => .ok []
  | (field, value) :: rest =>
    let fieldPath := path ++ [.attr field.name]
    let here : Raises (List ExpansionChange) := match field.repeatedSection with
      | some spec =>
        let items : Raises (List ExpansionChange) := match value with
          | .items members => findItems fieldPath 0 members
          | .value content => passValues content
          | .record _ => .error notIterable
        do
          let discovered ← activeCount parent spec
          let inner ← items
          pure (sectionChange configured productId fieldPath spec discovered ++ inner)
      | none => if value.isRecord then findIncreases fieldPath value else .ok []
    do
      let changes ← here
      let later ← findFields path parent rest
      pure (changes ++ later)
termination_by structural fields => fields

/-- The loop over the items of a section, from a position on. -/
def findItems (path : DataPath) (index : Nat) : List DataTree → Raises (List ExpansionChange)
  | [] => .ok []
  | item :: rest =>
    let here : Raises (List ExpansionChange) :=
      if item.isRecord then findIncreases (path ++ [.index index]) item else .ok []
    do
      let changes ← here
      let later ← findItems path (index + 1) rest
      pure (changes ++ later)
termination_by structural members => members

end

end Detection

/-- `detect_expansion_increases`. -/
def EntityProfile.detectExpansionIncreases (profile : EntityProfile) (data : TrackedProductData)
    (plan : EntityPlan) : Raises (List ExpansionChange) :=
  findIncreases plan.repeatedCounts profile.productId [] data.tree

/-! ### What is reported -/

/-- A repeated section somewhere in the object, with its active count. -/
def SectionAt (start : Scope × DataTree) (path : DataPath) (spec : RepeatedSectionSpec) (n : Nat) :
    Prop :=
  ∃ scope fields field value, Visits start (scope, .record fields) ∧ (field, value) ∈ fields ∧
    field.repeatedSection = some spec ∧ activeCount fields spec = .ok n ∧
    path = scope.path ++ [.attr field.name]

/-- What detection reads at a repeated section: a list of records, and a count. -/
def sectionReadable (parent : List (FieldDef × DataTree)) (spec : RepeatedSectionSpec)
    (value : DataTree) : Bool :=
  (match value with
    | .items members => members.all Node.isRecord
    | _ => false) &&
  (match activeCount parent spec with
    | .ok _ => true
    | .error _ => false)

mutual

/-- Every repeated section is a list of records, and its active count can be read. -/
def sectionsReadable : DataTree → Bool
  | .value _ => true
  | .items members => itemsReadable members
  | .record fields => fieldsReadable fields fields
termination_by structural t => t

def fieldsReadable (parent : List (FieldDef × DataTree)) : List (FieldDef × DataTree) → Bool
  | [] => true
  | (field, value) :: rest =>
    field.repeatedSection.all (fun spec => sectionReadable parent spec value) &&
      sectionsReadable value && fieldsReadable parent rest
termination_by structural fields => fields

def itemsReadable : List DataTree → Bool
  | [] => true
  | item :: rest => sectionsReadable item && itemsReadable rest
termination_by structural members => members

end

section Reports

variable {configured : List (String × Nat)} {productId : String}

/-- What the items of a section report. -/
private def insideSection (configured : List (String × Nat)) (productId : String)
    (fieldPath : DataPath) (value : DataTree) : Raises (List ExpansionChange) :=
  match value with
  | .items members => findItems configured productId fieldPath 0 members
  | .value content => passValues content
  | .record _ => .error notIterable

/-- What one field reports, its own section before what is inside. -/
private def findField (configured : List (String × Nat)) (productId : String) (path : DataPath)
    (parent : List (FieldDef × DataTree)) (field : FieldDef) (value : DataTree) :
    Raises (List ExpansionChange) :=
  let fieldPath := path ++ [.attr field.name]
  match field.repeatedSection with
  | some spec => do
    let discovered ← activeCount parent spec
    let inner ← insideSection configured productId fieldPath value
    pure (sectionChange configured productId fieldPath spec discovered ++ inner)
  | none => if value.isRecord then findIncreases configured productId fieldPath value else .ok []

private theorem findFields_cons_eq (path : DataPath) (parent : List (FieldDef × DataTree))
    (field : FieldDef) (value : DataTree) (rest : List (FieldDef × DataTree)) :
    findFields configured productId path parent ((field, value) :: rest) =
      (do
        let changes ← findField configured productId path parent field value
        let later ← findFields configured productId path parent rest
        pure (changes ++ later)) := by
  rw [findFields.eq_def]
  rfl

/-- The change is the one of some section of the object. -/
def Reports (configured : List (String × Nat)) (productId : String) (start : Scope × DataTree)
    (change : ExpansionChange) : Prop :=
  ∃ path spec n, SectionAt start path spec n ∧
    change ∈ sectionChange configured productId path spec n

/-- What one field of a record reports: its own section, or something inside. -/
private def FieldReports (configured : List (String × Nat)) (productId : String) (scope : Scope)
    (parent : List (FieldDef × DataTree)) (field : FieldDef) (value : DataTree)
    (change : ExpansionChange) : Prop :=
  (∃ spec n, field.repeatedSection = some spec ∧ activeCount parent spec = .ok n ∧
    change ∈ sectionChange configured productId (scope.path ++ [.attr field.name]) spec n) ∨
  ∃ next, Opens scope field value next ∧ Reports configured productId next change

private theorem reports_record_iff (scope : Scope) (fields : List (FieldDef × DataTree))
    (change : ExpansionChange) :
    Reports configured productId (scope, .record fields) change ↔
      ∃ e ∈ fields, FieldReports configured productId scope fields e.1 e.2 change := by
  constructor
  · rintro ⟨_, spec, n, ⟨scope', fields', field, value, visits, member, declared, counted, rfl⟩,
      listed⟩
    rcases Relation.ReflTransGen.cases_head visits with here | ⟨next, step, onward⟩
    · obtain ⟨rfl, same⟩ := Prod.mk.inj here
      obtain rfl := Node.record.inj same
      exact ⟨(field, value), member, .inl ⟨spec, n, declared, counted, listed⟩⟩
    · cases step with
      | @mk _ _ first content _ entered opens =>
        exact ⟨(first, content), entered, .inr ⟨next, opens, _, spec, n,
          ⟨scope', fields', field, value, onward, member, declared, counted, rfl⟩, listed⟩⟩
  · rintro ⟨⟨field, value⟩, member, ⟨spec, n, declared, counted, listed⟩ | ⟨next, opens, inside⟩⟩
    · exact ⟨_, spec, n, ⟨scope, fields, field, value, .refl, member, declared, counted, rfl⟩,
        listed⟩
    · obtain ⟨path, spec, n, ⟨scope', fields', field', value', onward, rest⟩, listed⟩ := inside
      exact ⟨path, spec, n, ⟨scope', fields', field', value', .head (.mk member opens) onward,
        rest⟩, listed⟩

/-- How detection goes on below a place: it finishes, and reports what is there. -/
private structure Detects (configured : List (String × Nat)) (productId : String) (t : DataTree) :
    Prop where
  finds : t.isRecord = true → ∀ scope : Scope, ∃ changes,
    findIncreases configured productId scope.path t = .ok changes ∧
      ∀ change, change ∈ changes ↔ Reports configured productId (scope, t) change
  items : ∀ members, t = .items members → members.all Node.isRecord = true →
    ∀ (scope : Scope) (field : FieldDef) (spec : RepeatedSectionSpec), ∃ changes,
      findItems configured productId (scope.path ++ [.attr field.name]) 0 members = .ok changes ∧
      ∀ change, change ∈ changes ↔ ∃ i item, members[i]? = some item ∧
        Reports configured productId (scope.item field spec i, item) change

private theorem sectionReadable_iff (parent : List (FieldDef × DataTree))
    (spec : RepeatedSectionSpec) (value : DataTree) : sectionReadable parent spec value = true ↔
      (∃ members, value = .items members ∧ members.all Node.isRecord = true) ∧
        ∃ n, activeCount parent spec = .ok n := by
  unfold sectionReadable
  rw [Bool.and_eq_true]
  refine and_congr ?_ ?_
  · cases value with
    | items members =>
      exact ⟨fun h => ⟨members, rfl, h⟩, fun ⟨_, same, h⟩ => Node.items.inj same ▸ h⟩
    | value c => exact iff_of_false Bool.false_ne_true fun ⟨_, same, _⟩ => by cases same
    | record fields => exact iff_of_false Bool.false_ne_true fun ⟨_, same, _⟩ => by cases same
  · cases activeCount parent spec with
    | ok n => exact iff_of_true rfl ⟨n, rfl⟩
    | error e => exact iff_of_false Bool.false_ne_true fun ⟨_, same⟩ => by cases same

/-- A field outside a section reports what is inside its record, if it holds one. -/
private theorem findField_nested {parent : List (FieldDef × DataTree)} {field : FieldDef}
    {value : DataTree} (hspec : field.repeatedSection = none)
    (inside : Detects configured productId value) (scope : Scope) :
    ∃ here, findField configured productId scope.path parent field value = .ok here ∧
      ∀ change, change ∈ here ↔
        FieldReports configured productId scope parent field value change := by
  have noSection : ∀ change, ¬ ∃ spec n, field.repeatedSection = some spec ∧
      activeCount parent spec = .ok n ∧ change ∈
        sectionChange configured productId (scope.path ++ [.attr field.name]) spec n := by
    rintro change ⟨spec, n, declared, _⟩
    rw [hspec] at declared
    cases declared
  have opened : ∀ next, Opens scope field value next → ∃ fields, value = .record fields ∧
      next = ({ scope with path := scope.path ++ [.attr field.name] }, .record fields) := by
    intro next opens
    cases opens with
    | nested _ => exact ⟨_, rfl, rfl⟩
    | item declared _ =>
      rw [hspec] at declared
      cases declared
  rw [findField]
  simp only [hspec]
  cases record : value.isRecord with
  | true =>
    obtain ⟨changes, found, reports⟩ :=
      inside.finds record { scope with path := scope.path ++ [.attr field.name] }
    refine ⟨changes, by rw [if_pos rfl, found], fun change => (reports change).trans ?_⟩
    rw [FieldReports, or_iff_right (noSection change)]
    constructor
    · intro inner
      cases value with
      | record fields => exact ⟨_, .nested hspec, inner⟩
      | _ => cases record
    · rintro ⟨next, opens, inner⟩
      obtain ⟨fields, rfl, rfl⟩ := opened next opens
      exact inner
  | false =>
    refine ⟨[], by rw [if_neg Bool.false_ne_true], fun change => ?_⟩
    refine iff_of_false List.not_mem_nil (not_or.mpr ⟨noSection change, ?_⟩)
    rintro ⟨next, opens, _⟩
    obtain ⟨fields, rfl, _⟩ := opened next opens
    cases record

/-- A section reports its own change before what is inside its items. -/
private theorem findField_section {parent : List (FieldDef × DataTree)} {field : FieldDef}
    {value : DataTree} {spec : RepeatedSectionSpec} (hspec : field.repeatedSection = some spec)
    (readable : sectionReadable parent spec value = true)
    (inside : Detects configured productId value) (scope : Scope) :
    ∃ here, findField configured productId scope.path parent field value = .ok here ∧
      ∀ change, change ∈ here ↔
        FieldReports configured productId scope parent field value change := by
  obtain ⟨⟨members, rfl, records⟩, n, counted⟩ := (sectionReadable_iff _ _ _).mp readable
  obtain ⟨changes, found, reports⟩ := inside.items members rfl records scope field spec
  rw [findField]
  simp only [hspec, counted, ok_bind, insideSection, found]
  refine ⟨_, rfl, fun change => List.mem_append.trans
    (or_congr ?_ ((reports change).trans ?_))⟩
  · constructor
    · exact fun own => ⟨spec, n, hspec, counted, own⟩
    · rintro ⟨spec', m, declared, countedAgain, own⟩
      obtain rfl := Option.some.inj (hspec.symm.trans declared)
      obtain rfl := Except.ok.inj (counted.symm.trans countedAgain)
      exact own
  · constructor
    · rintro ⟨i, item, at_i, inner⟩
      exact ⟨_, .item hspec at_i, inner⟩
    · rintro ⟨next, opens, inner⟩
      cases opens with
      | item declared at_i =>
        obtain rfl := Option.some.inj (hspec.symm.trans declared)
        exact ⟨_, _, at_i, inner⟩

private theorem findFields_cons {parent : List (FieldDef × DataTree)} {field : FieldDef}
    {value : DataTree} {rest : List (FieldDef × DataTree)}
    (readable : field.repeatedSection.all (fun spec => sectionReadable parent spec value) = true)
    (inside : Detects configured productId value) {scope : Scope} {later : List ExpansionChange}
    (others : findFields configured productId scope.path parent rest = .ok later) :
    ∃ here, findFields configured productId scope.path parent ((field, value) :: rest) =
        .ok (here ++ later) ∧
      ∀ change, change ∈ here ↔
        FieldReports configured productId scope parent field value change := by
  have first : ∃ here, findField configured productId scope.path parent field value = .ok here ∧
      ∀ change, change ∈ here ↔
        FieldReports configured productId scope parent field value change := by
    cases hspec : field.repeatedSection with
    | none => exact findField_nested hspec inside scope
    | some spec =>
      rw [hspec, Option.all_some] at readable
      exact findField_section hspec readable inside scope
  obtain ⟨here, found, reports⟩ := first
  refine ⟨here, ?_, reports⟩
  rw [findFields_cons_eq, found, ok_bind, others]
  rfl

/-- The items of a section, from a position on. -/
private def ItemsReport (configured : List (String × Nat)) (productId : String)
    (members : List DataTree) (scope : Scope) (field : FieldDef) (spec : RepeatedSectionSpec)
    (index : Nat) (change : ExpansionChange) : Prop :=
  ∃ i item, members[i]? = some item ∧
    Reports configured productId (scope.item field spec (index + i), item) change

private theorem itemsReport_cons (item : DataTree) (rest : List DataTree) (scope : Scope)
    (field : FieldDef) (spec : RepeatedSectionSpec) (index : Nat) (change : ExpansionChange) :
    ItemsReport configured productId (item :: rest) scope field spec index change ↔
      Reports configured productId (scope.item field spec index, item) change ∨
        ItemsReport configured productId rest scope field spec (index + 1) change := by
  refine exists_getElem?_cons.trans (or_congr Iff.rfl
    (exists_congr fun i => exists_congr fun next => ?_))
  have shifted : index + (i + 1) = index + 1 + i := by omega
  rw [shifted]

private theorem findItems_cons {item : DataTree} {rest : List DataTree} {scope : Scope}
    {field : FieldDef} {spec : RepeatedSectionSpec} {index : Nat}
    {here later : List ExpansionChange}
    (record : item.isRecord = true)
    (found : findIncreases configured productId (scope.item field spec index).path item = .ok here)
    (others : findItems configured productId (scope.path ++ [.attr field.name]) (index + 1) rest =
      .ok later) :
    findItems configured productId (scope.path ++ [.attr field.name]) index (item :: rest) =
      .ok (here ++ later) := by
  have into : (scope.item field spec index).path =
      scope.path ++ [.attr field.name] ++ [.index index] := rfl
  rw [findItems, record, if_pos rfl, ← into, found, others]
  rfl

/-- Detection on a readable object finishes and reports its grown sections. -/
private theorem detects (t : DataTree) (readable : sectionsReadable t = true) :
    t.isRecord = true → ∀ scope : Scope, ∃ changes,
      findIncreases configured productId scope.path t = .ok changes ∧
        ∀ change, change ∈ changes ↔ Reports configured productId (scope, t) change := by
  refine (Node.induct_items
    (O := fun t => sectionsReadable t = true → t.isRecord = true → ∀ scope : Scope, ∃ changes,
      findIncreases configured productId scope.path t = .ok changes ∧
        ∀ change, change ∈ changes ↔ Reports configured productId (scope, t) change)
    (Q := fun fields => ∀ parent, fieldsReadable parent fields = true → ∀ scope : Scope,
      ∃ changes, findFields configured productId scope.path parent fields = .ok changes ∧
        ∀ change, change ∈ changes ↔
          ∃ e ∈ fields, FieldReports configured productId scope parent e.1 e.2 change)
    (I := fun members => itemsReadable members = true → members.all Node.isRecord = true →
      ∀ (scope : Scope) (field : FieldDef) (spec : RepeatedSectionSpec) (index : Nat), ∃ changes,
        findItems configured productId (scope.path ++ [.attr field.name]) index members =
          .ok changes ∧
        ∀ change, change ∈ changes ↔
          ItemsReport configured productId members scope field spec index change)
    ?value ?items ?record ?noFields ?field ?noItems ?item t).1 readable
  case value =>
    intro c _ record
    cases record
  case items =>
    intro members _ record
    cases record
  case record =>
    intro fields hfields readable _ scope
    obtain ⟨changes, found, reports⟩ := hfields fields readable scope
    exact ⟨changes, found, fun change => (reports change).trans (reports_record_iff _ _ _).symm⟩
  case noFields =>
    intro parent _ scope
    refine ⟨[], rfl, fun change => iff_of_false List.not_mem_nil ?_⟩
    rintro ⟨e, member, _⟩
    cases member
  case field =>
    intro field value rest hvalue hmembers hrest parent readable scope
    simp only [fieldsReadable, Bool.and_eq_true] at readable
    obtain ⟨later, others, laterReports⟩ := hrest parent readable.2 scope
    have inside : Detects configured productId value := by
      refine ⟨hvalue readable.1.2, ?_⟩
      rintro members rfl records scope field spec
      obtain ⟨changes, found, reports⟩ :=
        hmembers members rfl readable.1.2 records scope field spec 0
      refine ⟨changes, found, fun change => (reports change).trans ?_⟩
      simp only [ItemsReport, Nat.zero_add]
    obtain ⟨here, found, reports⟩ := findFields_cons readable.1.1 inside others
    refine ⟨here ++ later, found, fun change => ?_⟩
    rw [List.mem_append, reports, laterReports]
    simp only [List.mem_cons, exists_eq_or_imp]
  case noItems =>
    intro _ _ scope field spec index
    refine ⟨[], rfl, fun change => iff_of_false List.not_mem_nil ?_⟩
    rintro ⟨i, item, found, _⟩
    cases found
  case item =>
    intro item rest hitem hrest readable records scope field spec index
    simp only [itemsReadable, Bool.and_eq_true] at readable
    simp only [List.all_cons, Bool.and_eq_true] at records
    obtain ⟨later, others, laterReports⟩ :=
      hrest readable.2 records.2 scope field spec (index + 1)
    obtain ⟨here, found, reports⟩ :=
      hitem readable.1 records.1 (scope.item field spec index)
    refine ⟨here ++ later, findItems_cons records.1 found others, fun change => ?_⟩
    rw [List.mem_append, reports, laterReports, itemsReport_cons]

/-- Detection on a readable object finishes and reports its grown sections. -/
theorem findIncreases_spec {t : DataTree} (record : t.isRecord = true)
    (readable : sectionsReadable t = true) {scope : Scope} (top : scope.path = []) :
    ∃ changes, findIncreases configured productId [] t = .ok changes ∧
      ∀ change, change ∈ changes ↔ Reports configured productId (scope, t) change := by
  have found := @detects configured productId t readable record scope
  rwa [top] at found

/-! ### Each section once -/

private theorem nodup_paths_append {here later : List ExpansionChange}
    (first : (here.map ExpansionChange.path).Nodup)
    (second : (later.map ExpansionChange.path).Nodup)
    (apart : ∀ c ∈ here, ∀ c' ∈ later, c.path ≠ c'.path) :
    ((here ++ later).map ExpansionChange.path).Nodup := by
  rw [List.map_append, List.nodup_append]
  refine ⟨first, second, ?_⟩
  intro p hp q hq
  obtain ⟨c, hc, rfl⟩ := List.mem_map.mp hp
  obtain ⟨c', hc', rfl⟩ := List.mem_map.mp hq
  exact apart c hc c' hc'

private theorem sectionChange_path {fieldPath : DataPath} {spec : RepeatedSectionSpec} {n : Nat} :
    (∀ c ∈ sectionChange configured productId fieldPath spec n, c.path = fieldPath) ∧
      ((sectionChange configured productId fieldPath spec n).map ExpansionChange.path).Nodup := by
  unfold sectionChange
  dsimp only
  split
  · refine ⟨fun c hc => ?_, List.nodup_singleton _⟩
    rw [List.mem_singleton.mp hc]
  · refine ⟨fun c hc => ?_, List.nodup_nil⟩
    cases hc

/-- The changes found below a place lie strictly below it, each at a path of its own. -/
private structure Separate (path : DataPath) (changes : List ExpansionChange) : Prop where
  below : ∀ c ∈ changes, ∃ e rest, c.path = path ++ e :: rest
  once : (changes.map ExpansionChange.path).Nodup

private theorem separate_nil (path : DataPath) : Separate path [] := by
  refine ⟨fun c hc => ?_, List.nodup_nil⟩
  cases hc

/-- What lies strictly below a place lies at or below it, seen from above. -/
private theorem Separate.under {path : DataPath} {e : PathElement String}
    {changes : List ExpansionChange} (separate : Separate (path ++ [e]) changes) :
    ∀ c ∈ changes, ∃ rest, c.path = path ++ e :: rest := by
  intro c hc
  obtain ⟨next, rest, same⟩ := separate.below c hc
  exact ⟨next :: rest, by rw [same, List.append_assoc, List.singleton_append]⟩

/-- Changes under one element, and changes under others. -/
private theorem nodup_paths_of_elements {path : DataPath} {e : PathElement String}
    {here later : List ExpansionChange} (once : (here.map ExpansionChange.path).Nodup)
    (onceLater : (later.map ExpansionChange.path).Nodup)
    (own : ∀ c ∈ here, ∃ rest, c.path = path ++ e :: rest)
    (others : ∀ c ∈ later, ∃ e' rest, e ≠ e' ∧ c.path = path ++ e' :: rest) :
    ((here ++ later).map ExpansionChange.path).Nodup := by
  refine nodup_paths_append once onceLater ?_
  intro c hc c' hc' same
  obtain ⟨rest, path_c⟩ := own c hc
  obtain ⟨e', rest', apart, path_c'⟩ := others c' hc'
  rw [path_c, path_c'] at same
  exact apart (List.cons.inj (List.append_cancel_left same)).1

/-- Where the walk below a place reports. -/
private structure Separates (configured : List (String × Nat)) (productId : String) (t : DataTree) :
    Prop where
  object : ∀ path changes, findIncreases configured productId path t = .ok changes →
    Separate path changes
  items : ∀ members, t = .items members → ∀ path changes,
    findItems configured productId path 0 members = .ok changes → Separate path changes

private theorem separate_insideSection {value : DataTree}
    (separates : Separates configured productId value) {path : DataPath}
    {changes : List ExpansionChange}
    (found : insideSection configured productId path value = .ok changes) :
    Separate path changes := by
  cases value with
  | items members => exact separates.items members rfl path changes found
  | record fields => cases found
  | value c =>
    have nothing : changes = [] := by
      cases c with
      | list xs => exact (Except.ok.inj found).symm
      | tuple xs => exact (Except.ok.inj found).symm
      | str text => exact (Except.ok.inj found).symm
      | none => cases found
      | bool b => cases found
      | int k => cases found
      | float q => cases found
    rw [nothing]
    exact separate_nil _

/-- The changes of one field lie at or below its path. -/
private theorem separate_field {path : DataPath} {parent : List (FieldDef × DataTree)}
    {field : FieldDef} {value : DataTree} (separates : Separates configured productId value)
    {changes : List ExpansionChange}
    (found : findField configured productId path parent field value = .ok changes) :
    (∀ c ∈ changes, ∃ rest, c.path = path ++ .attr field.name :: rest) ∧
      (changes.map ExpansionChange.path).Nodup := by
  unfold findField at found
  cases hspec : field.repeatedSection with
  | none =>
    simp only [hspec] at found
    have separate : Separate (path ++ [.attr field.name]) changes := by
      split at found
      · exact separates.object _ changes found
      · obtain rfl := Except.ok.inj found
        exact separate_nil _
    exact ⟨separate.under, separate.once⟩
  | some spec =>
    simp only [hspec] at found
    obtain ⟨n, _, reading⟩ := bind_eq_ok_iff.mp found
    obtain ⟨inner, hinner, finished⟩ := bind_eq_ok_iff.mp reading
    obtain rfl := Except.ok.inj finished
    have separate := separate_insideSection separates hinner
    have own := @sectionChange_path configured productId (path ++ [.attr field.name]) spec n
    refine ⟨fun c hc => ?_, nodup_paths_append own.2 separate.once ?_⟩
    · rcases List.mem_append.mp hc with here | there
      · exact ⟨[], own.1 c here⟩
      · exact separate.under c there
    · intro c hc c' hc' same
      obtain ⟨e, rest, below⟩ := separate.below c' hc'
      rw [own.1 c hc, below] at same
      exact absurd (List.self_eq_append_right.mp same) (List.cons_ne_nil e rest)

/-- The changes of the fields of an object, each under the name of its field. -/
private structure FieldsSeparate (path : DataPath) (fields : List (FieldDef × DataTree))
    (changes : List ExpansionChange) : Prop where
  named : ∀ c ∈ changes, ∃ e ∈ fields, ∃ rest, c.path = path ++ .attr e.1.name :: rest
  once : (changes.map ExpansionChange.path).Nodup

private theorem fieldsSeparate_cons {path : DataPath} {parent : List (FieldDef × DataTree)}
    {field : FieldDef} {value : DataTree} {rest : List (FieldDef × DataTree)}
    {here later : List ExpansionChange} (separates : Separates configured productId value)
    (fresh : rest.all (fun e => e.1.name != field.name) = true)
    (found : findField configured productId path parent field value = .ok here)
    (others : FieldsSeparate path rest later) :
    FieldsSeparate path ((field, value) :: rest) (here ++ later) := by
  obtain ⟨own, once⟩ := separate_field separates found
  refine ⟨fun c hc => ?_, nodup_paths_of_elements once others.once own fun c hc => ?_⟩
  · rcases List.mem_append.mp hc with first | second
    · exact ⟨(field, value), List.mem_cons_self, own c first⟩
    · obtain ⟨e, he, at_e⟩ := others.named c second
      exact ⟨e, List.mem_cons_of_mem _ he, at_e⟩
  · obtain ⟨e, he, rest_c, path_c⟩ := others.named c hc
    refine ⟨_, rest_c, fun names => ?_, path_c⟩
    have distinct := List.all_eq_true.mp fresh e he
    simp [PathElement.attr.inj names] at distinct

/-- The changes of the items of a section from a position on, each under its index. -/
private structure ItemsSeparate (path : DataPath) (index : Nat)
    (changes : List ExpansionChange) : Prop where
  placed : ∀ c ∈ changes, ∃ i rest, index ≤ i ∧ c.path = path ++ .index i :: rest
  once : (changes.map ExpansionChange.path).Nodup

private theorem itemsSeparate_cons {path : DataPath} {index : Nat}
    {here later : List ExpansionChange} (separate : Separate (path ++ [.index index]) here)
    (others : ItemsSeparate path (index + 1) later) :
    ItemsSeparate path index (here ++ later) := by
  have own := separate.under
  refine ⟨fun c hc => ?_, nodup_paths_of_elements separate.once others.once own fun c hc => ?_⟩
  · rcases List.mem_append.mp hc with first | second
    · obtain ⟨rest, path_c⟩ := own c first
      exact ⟨index, rest, Nat.le_refl _, path_c⟩
    · obtain ⟨i, rest, above, path_c⟩ := others.placed c second
      exact ⟨i, rest, Nat.le_of_succ_le above, path_c⟩
  · obtain ⟨i, rest, above, path_c⟩ := others.placed c hc
    refine ⟨_, rest, fun places => ?_, path_c⟩
    have same := PathElement.index.inj places
    omega

private theorem separate_of_wellFormed (t : DataTree) (wf : wellFormed t = true) :
    ∀ path changes, findIncreases configured productId path t = .ok changes →
      Separate path changes := by
  refine (Node.induct_items
    (O := fun t => wellFormed t = true → ∀ path changes,
      findIncreases configured productId path t = .ok changes → Separate path changes)
    (Q := fun fields => wellFormedFields fields = true → ∀ path parent changes,
      findFields configured productId path parent fields = .ok changes →
        FieldsSeparate path fields changes)
    (I := fun members => wellFormedItems members = true → ∀ path index changes,
      findItems configured productId path index members = .ok changes →
        ItemsSeparate path index changes)
    ?value ?items ?record ?noFields ?field ?noItems ?item t).1 wf
  case value =>
    intro c _ path changes found
    cases found
  case items =>
    intro members _ path changes found
    cases found
  case record =>
    intro fields hfields wf path changes found
    obtain ⟨named, once⟩ := hfields wf path fields changes found
    refine ⟨fun c hc => ?_, once⟩
    obtain ⟨e, _, rest, path_c⟩ := named c hc
    exact ⟨_, rest, path_c⟩
  case noFields =>
    intro _ path parent changes found
    obtain rfl := Except.ok.inj found
    exact ⟨fun c hc => absurd hc List.not_mem_nil, List.nodup_nil⟩
  case field =>
    intro field value rest hvalue hmembers hrest wf path parent changes found
    simp only [wellFormedFields, Bool.and_eq_true] at wf
    rw [findFields_cons_eq] at found
    obtain ⟨here, hhere, onward⟩ := bind_eq_ok_iff.mp found
    obtain ⟨later, hlater, finished⟩ := bind_eq_ok_iff.mp onward
    obtain rfl := Except.ok.inj finished
    have separates : Separates configured productId value := by
      refine ⟨hvalue wf.1.2, ?_⟩
      rintro members rfl path changes found
      obtain ⟨placed, once⟩ := hmembers members rfl wf.1.2 path 0 changes found
      refine ⟨fun c hc => ?_, once⟩
      obtain ⟨i, rest, _, path_c⟩ := placed c hc
      exact ⟨_, rest, path_c⟩
    exact fieldsSeparate_cons separates wf.1.1.2 hhere (hrest wf.2 path parent later hlater)
  case noItems =>
    intro _ path index changes found
    obtain rfl := Except.ok.inj found
    exact ⟨fun c hc => absurd hc List.not_mem_nil, List.nodup_nil⟩
  case item =>
    intro item rest hitem hrest wf path index changes found
    simp only [wellFormedItems, Bool.and_eq_true] at wf
    rw [findItems] at found
    obtain ⟨here, hhere, onward⟩ := bind_eq_ok_iff.mp found
    obtain ⟨later, hlater, finished⟩ := bind_eq_ok_iff.mp onward
    obtain rfl := Except.ok.inj finished
    have separate : Separate (path ++ [.index index]) here := by
      split at hhere
      · exact hitem wf.1 _ here hhere
      · obtain rfl := Except.ok.inj hhere
        exact separate_nil _
    exact itemsSeparate_cons separate (hrest wf.2 path (index + 1) later hlater)

/-- Detection reports no section twice. -/
theorem findIncreases_once {t : DataTree} (wf : wellFormed t = true) {path : DataPath}
    {changes : List ExpansionChange}
    (found : findIncreases configured productId path t = .ok changes) :
    (changes.map ExpansionChange.path).Nodup :=
  (separate_of_wellFormed t wf path changes found).once

end Reports

end MarstekBle.Entities
