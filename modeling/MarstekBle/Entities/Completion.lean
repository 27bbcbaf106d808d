/- module: Entities/Completion
   source: custom_components/marstek_ble/entity.py
   digest: The walk of a plan finishes wherever lists are long enough and counts can be read. -/

import MarstekBle.Entities.Descent
import MarstekBle.Schema.Leaves

/-!
What the walk needs of a data object comes in two parts. Whether every list is
as long as the entities and sections declared on it is decided by the lengths
alone. Whether an active count can be read depends on one leaf for each section.
-/

set_option autoImplicit false
set_option relaxedAutoImplicit false

namespace MarstekBle.Entities

open MarstekBle.Data MarstekBle.Schema MarstekBle.Product MarstekBle.Lib.AttributeTree

universe u

/-! ### Lengths -/

/-- The content of a field is as long as its indexed entities and its section ask for. -/
def longEnough (field : FieldDef) : Node FieldDef (Option Nat) → Bool
  | .value length => field.repeatedSection.isNone &&
      field.indexedEntities.all fun spec => length.any fun n => spec.count ≤ n
  | .items members => field.indexedEntities.all (fun spec => spec.count ≤ members.length) &&
      field.repeatedSection.all fun spec => spec.count ≤ members.length &&
        members.all Node.isRecord
  | .record _ => field.repeatedSection.isNone && field.indexedEntities.isEmpty

mutual

/-- Every field of a data object is long enough. -/
def roomy : Node FieldDef (Option Nat) → Bool
  | .value _ => true
  | .items members => roomyItems members
  | .record fields => roomyFields fields
termination_by structural lengths => lengths

def roomyFields : List (FieldDef × Node FieldDef (Option Nat)) → Bool
  | [] => true
  | (field, value) :: rest => longEnough field value && roomy value && roomyFields rest
termination_by structural fields => fields

def roomyItems : List (Node FieldDef (Option Nat)) → Bool
  | [] => true
  | item :: rest => roomy item && roomyItems rest
termination_by structural members => members

end

private theorem roomy_of_mem_fields {fields : List (FieldDef × DataTree)}
    (room : roomyFields (mapFields Value.listLength fields) = true) {field : FieldDef}
    {value : DataTree} (member : (field, value) ∈ fields) :
    longEnough field (value.map Value.listLength) = true ∧
      roomy (value.map Value.listLength) = true := by
  induction fields with
  | nil => cases member
  | cons e fields ih =>
    simp only [mapFields, roomyFields, Bool.and_eq_true] at room
    rcases List.mem_cons.mp member with rfl | later
    · exact room.1
    · exact ih room.2 later

private theorem roomy_of_mem_items {members : List DataTree}
    (room : roomyItems (mapItems Value.listLength members) = true) {item : DataTree}
    (member : item ∈ members) : roomy (item.map Value.listLength) = true := by
  induction members with
  | nil => cases member
  | cons first members ih =>
    simp only [mapItems, roomyItems, Bool.and_eq_true] at room
    rcases List.mem_cons.mp member with rfl | later
    · exact room.1
    · exact ih room.2 later

/-! ### Counts -/

section CountPaths

variable {V : Type u}

mutual

/-- The paths of the attributes that sections read their active count from. -/
def countPaths : Node FieldDef V → List DataPath
  | .value _ => []
  | .items members => countPathsItems 0 members
  | .record fields => countPathsFields fields
termination_by structural t => t

def countPathsFields : List (FieldDef × Node FieldDef V) → List DataPath
  | [] => []
  | (field, value) :: rest =>
    (field.repeatedSection.bind RepeatedSectionSpec.activeCountAttribute).toList.map
        (fun name => [.attr name]) ++
      ((countPaths value).map (.attr field.name :: ·) ++ countPathsFields rest)
termination_by structural fields => fields

def countPathsItems (index : Nat) : List (Node FieldDef V) → List DataPath
  | [] => []
  | item :: rest =>
    (countPaths item).map (.index index :: ·) ++ countPathsItems (index + 1) rest
termination_by structural members => members

end

/-- The count paths do not depend on the values. -/
theorem countPaths_map {W : Type u} (g : V → W) (t : Node FieldDef V) :
    countPaths (t.map g) = countPaths t := by
  refine Node.induct
    (P := fun t => countPaths (t.map g) = countPaths t)
    (Q := fun fields => countPathsFields (mapFields g fields) = countPathsFields fields)
    (R := fun members => ∀ index,
      countPathsItems index (mapItems g members) = countPathsItems index members)
    ?value ?items ?record ?noFields ?field ?noItems ?item t
  case value => exact fun c => rfl
  case items => exact fun members hmembers => hmembers 0
  case record => exact fun fields hfields => hfields
  case noFields => rfl
  case field =>
    intro field value rest hvalue hrest
    rw [mapFields, countPathsFields, countPathsFields, hvalue, hrest]
  case noItems => exact fun index => rfl
  case item =>
    intro item rest hitem hrest index
    rw [mapItems, countPathsItems, countPathsItems, hitem, hrest]

private theorem countPaths_of_mem_fields {fields : List (FieldDef × Node FieldDef V)}
    {field : FieldDef} {value : Node FieldDef V} (member : (field, value) ∈ fields) :
    (∀ spec ∈ field.repeatedSection, ∀ name ∈ spec.activeCountAttribute,
      [.attr name] ∈ countPathsFields fields) ∧
    ∀ p ∈ countPaths value, .attr field.name :: p ∈ countPathsFields fields := by
  induction fields with
  | nil => cases member
  | cons e fields ih =>
    simp only [countPathsFields, List.mem_append]
    rcases List.mem_cons.mp member with rfl | later
    · refine ⟨fun spec declared name named => .inl ?_, fun p hp => .inr (.inl ?_)⟩
      · rw [Option.mem_def] at declared named
        simp [declared, named]
      · exact List.mem_map.mpr ⟨p, hp, rfl⟩
    · obtain ⟨own, below⟩ := ih later
      exact ⟨fun spec declared name named => .inr (.inr (own spec declared name named)),
        fun p hp => .inr (.inr (below p hp))⟩

private theorem countPaths_of_getElem? {members : List (Node FieldDef V)} {i : Nat}
    {item : Node FieldDef V} (found : members[i]? = some item) {p : DataPath}
    (hp : p ∈ countPaths item) (first : Nat) :
    .index (first + i) :: p ∈ countPathsItems first members := by
  induction members generalizing i first with
  | nil => cases found
  | cons head members ih =>
    rw [countPathsItems, List.mem_append]
    cases i with
    | zero =>
      obtain rfl := Option.some.inj found
      exact .inl (List.mem_map.mpr ⟨p, hp, rfl⟩)
    | succ i =>
      have later := ih found (first + 1)
      rw [Nat.add_right_comm] at later
      exact .inr later

end CountPaths

/-- Every count path leads to a value that a count can be made of. -/
def CountsReadable (t : DataTree) : Prop :=
  ∀ p ∈ countPaths t, ∃ v, t.valueAt p = some v ∧ ∀ maximum, ∃ n, countOf v maximum = .ok n

private theorem countsReadable_field {fields : List (FieldDef × DataTree)}
    (wf : wellFormedFields fields = true) (readable : CountsReadable (.record fields))
    {field : FieldDef} {value : DataTree} (member : (field, value) ∈ fields) :
    CountsReadable value ∧
      ∀ spec ∈ field.repeatedSection, ∃ n, activeCount fields spec = .ok n := by
  obtain ⟨own, below⟩ := countPaths_of_mem_fields member
  constructor
  · intro p hp
    obtain ⟨v, held, counts⟩ := readable _ (below p hp)
    refine ⟨v, ?_, counts⟩
    simpa [Node.valueAt_cons, Node.child?, (attr?_of_mem wf member).1] using held
  · intro spec declared
    cases hname : spec.activeCountAttribute with
    | none => exact ⟨spec.count, by rw [activeCount, hname]⟩
    | some name =>
      obtain ⟨v, held, counts⟩ := readable _ (own spec declared name hname)
      obtain ⟨n, hn⟩ := counts spec.count
      have found : attr? fields name = some (.value v) := by
        rw [Node.valueAt_cons, Option.bind_eq_some_iff] at held
        obtain ⟨child, found, content⟩ := held
        cases child with
        | value c =>
          obtain rfl : c = v := by simpa [Node.content?] using content
          exact found
        | items members => simp [Node.content?] at content
        | record inner => simp [Node.content?] at content
      exact ⟨n, by simp only [activeCount, hname, found, hn]⟩

private theorem countsReadable_item {members : List DataTree}
    (readable : CountsReadable (.items members)) {item : DataTree} (member : item ∈ members) :
    CountsReadable item := by
  obtain ⟨i, found⟩ := List.mem_iff_getElem?.mp member
  intro p hp
  have listed := countPaths_of_getElem? found hp 0
  rw [Nat.zero_add] at listed
  obtain ⟨v, held, counts⟩ := readable _ listed
  refine ⟨v, ?_, counts⟩
  simpa [Node.valueAt_cons, Node.child?, found] using held

/-! ### The walk -/

variable {configuredCounts : List (String × Int)}

private theorem lengthOf_of_listLength {v : Value} {n : Nat} (length : v.listLength = some n) :
    lengthOf (.value v) = .ok n := by
  cases v with
  | list members => exact congrArg Except.ok (Option.some.inj length)
  | none => cases length
  | bool b => cases length
  | int k => cases length
  | float q => cases length
  | str text => cases length
  | tuple members => cases length

/-- A field that is long enough expands into its indexed entities. -/
private theorem collectIndexed_finishes (scope : Scope) {field : FieldDef} {value : DataTree}
    (long : longEnough field (value.map Value.listLength) = true) :
    ∃ entities, collectIndexed scope field value field.indexedEntities = .ok entities := by
  have each : ∀ spec ∈ field.indexedEntities, ∃ n, lengthOf value = .ok n ∧ spec.count ≤ n := by
    intro spec declared
    cases value with
    | value v =>
      simp only [Node.map, longEnough, Bool.and_eq_true, List.all_eq_true] at long
      have enough := long.2 spec declared
      cases hl : v.listLength with
      | none => simp [hl] at enough
      | some n => exact ⟨n, lengthOf_of_listLength hl, by simpa [hl] using enough⟩
    | items members =>
      simp only [Node.map, longEnough, Bool.and_eq_true, List.all_eq_true, length_mapItems] at long
      exact ⟨members.length, rfl, by simpa using long.1 spec declared⟩
    | record fields =>
      simp only [Node.map, longEnough, Bool.and_eq_true, List.isEmpty_iff] at long
      rw [long.2] at declared
      cases declared
  generalize field.indexedEntities = specs at each
  induction specs with
  | nil => exact ⟨[], rfl⟩
  | cons spec specs ih =>
    obtain ⟨n, length, enough⟩ := each spec List.mem_cons_self
    obtain ⟨later, hlater⟩ := ih fun s hs => each s (List.mem_cons_of_mem spec hs)
    refine ⟨scope.indexedEntities field spec ++ later, ?_⟩
    rw [collectIndexed, length, ok_bind, if_neg (Nat.not_lt.mpr enough), hlater]
    rfl

/-- The walk finishes on every item and from every record of the tree. -/
private structure Finishes (configuredCounts : List (String × Int)) (t : DataTree) : Prop where
  object : t.isRecord = true → ∀ scope,
    ∃ collected, collect configuredCounts scope t = .ok collected
  items : ∀ members, t = .items members → members.all Node.isRecord = true →
    ∀ scope field spec index n, n ≤ members.length →
      ∃ collected, collectItems configuredCounts scope field spec index n members = .ok collected

/-- What the walk needs of a tree. -/
private structure Ready (t : DataTree) : Prop where
  wellFormed : wellFormed t = true
  roomy : roomy (t.map Value.listLength) = true
  readable : CountsReadable t

private theorem collectNested_finishes {parent : List (FieldDef × DataTree)} {field : FieldDef}
    {value : DataTree} (finishes : Finishes configuredCounts value)
    (long : longEnough field (value.map Value.listLength) = true)
    (counts : ∀ spec ∈ field.repeatedSection, ∃ n, activeCount parent spec = .ok n)
    (scope : Scope) :
    ∃ collected, collectNested configuredCounts scope parent field value = .ok collected := by
  unfold collectNested
  cases hspec : field.repeatedSection with
  | none =>
    by_cases record : value.isRecord = true
    · simp only [record, if_true]
      exact finishes.object record _
    · simp only [record]
      exact ⟨{}, rfl⟩
  | some spec =>
    obtain ⟨n, hn⟩ := counts spec hspec
    cases value with
    | value v =>
      simp [Node.map, longEnough, hspec] at long
    | record fields =>
      simp [Node.map, longEnough, hspec] at long
    | items members =>
      simp only [Node.map, longEnough, hspec, Bool.and_eq_true, Option.all_some,
        length_mapItems, decide_eq_true_eq] at long
      obtain ⟨configured, hconfigured⟩ : ∃ k, configuredCount configuredCounts
          (scope.path ++ [.attr field.name]) spec n = .ok k := ⟨_, rfl⟩
      have within : configured ≤ members.length := (countOf_le hconfigured).trans long.2.1
      have same : ∀ s : DataTree, (s.map Value.listLength).isRecord = s.isRecord := by
        intro s
        cases s <;> rfl
      have records : members.all Node.isRecord = true := by
        simpa [mapItems_eq, List.all_map, Function.comp_def, same] using long.2.2
      obtain ⟨added, hadded⟩ := finishes.items members rfl records scope field spec 0 configured
        within
      refine ⟨Collected.append
        { counts := [(pathString (scope.path ++ [.attr field.name]), configured)] } added, ?_⟩
      simp only [hn, ok_bind, hconfigured, sectionItems, hadded]
      rfl

private theorem ready_field {fields : List (FieldDef × DataTree)}
    (ready : Ready (.record fields)) {field : FieldDef} {value : DataTree}
    (member : (field, value) ∈ fields) : Ready value ∧
      longEnough field (value.map Value.listLength) = true ∧
      ∀ spec ∈ field.repeatedSection, ∃ n, activeCount fields spec = .ok n := by
  obtain ⟨_, _, _, inner⟩ := attr?_of_mem ready.wellFormed member
  obtain ⟨long, room⟩ := roomy_of_mem_fields ready.roomy member
  obtain ⟨readable, counts⟩ := countsReadable_field ready.wellFormed ready.readable member
  exact ⟨⟨inner, room, readable⟩, long, counts⟩

private theorem ready_item {members : List DataTree} (ready : Ready (.items members))
    {item : DataTree} (member : item ∈ members) : Ready item := by
  obtain ⟨i, found⟩ := List.mem_iff_getElem?.mp member
  exact ⟨wellFormed_of_getElem? ready.wellFormed found, roomy_of_mem_items ready.roomy member,
    countsReadable_item ready.readable member⟩

private theorem finishes_of_ready (t : DataTree) (ready : Ready t) : t.isRecord = true →
    ∀ scope, ∃ collected, collect configuredCounts scope t = .ok collected := by
  refine (Node.induct_items
    (O := fun t => Ready t → t.isRecord = true → ∀ scope,
      ∃ collected, collect configuredCounts scope t = .ok collected)
    (Q := fun fields => ∀ parent, (∀ e ∈ fields, Ready e.2 ∧
      longEnough e.1 (e.2.map Value.listLength) = true ∧
        ∀ spec ∈ e.1.repeatedSection, ∃ n, activeCount parent spec = .ok n) → ∀ scope,
      ∃ collected, collectFields configuredCounts scope parent fields = .ok collected)
    (I := fun members => (∀ item ∈ members, Ready item) → members.all Node.isRecord = true →
      ∀ scope field spec index n, n ≤ members.length →
        ∃ collected, collectItems configuredCounts scope field spec index n members = .ok collected)
    ?value ?items ?record ?noFields ?field ?noItems ?item t).1 ready
  case value =>
    intro c _ record
    cases record
  case items =>
    intro members _ record
    cases record
  case record =>
    intro fields hfields ready _ scope
    exact hfields fields (fun e member => ready_field ready member) scope
  case noFields => exact fun _ _ scope => ⟨{}, rfl⟩
  case field =>
    intro field value rest hvalue hmembers hrest parent each scope
    obtain ⟨ready, long, counts⟩ := each (field, value) List.mem_cons_self
    have finishes : Finishes configuredCounts value := by
      refine ⟨hvalue ready, ?_⟩
      rintro members rfl
      exact hmembers members rfl fun item member => ready_item ready member
    obtain ⟨indexed, hindexed⟩ := collectIndexed_finishes scope long
    obtain ⟨inner, hinner⟩ := collectNested_finishes finishes long counts scope
    obtain ⟨later, hlater⟩ := hrest parent
      (fun e member => each e (List.mem_cons_of_mem _ member)) scope
    refine ⟨Collected.append { entities := scope.fieldEntities field ++ indexed }
      (inner.append later), ?_⟩
    rw [collectFields_cons, hindexed, ok_bind, hinner, ok_bind, hlater, ok_bind]
    rfl
  case noItems =>
    intro _ _ scope field spec index n within
    obtain rfl := Nat.le_zero.mp within
    exact ⟨{}, rfl⟩
  case item =>
    intro item rest hitem hrest each records scope field spec index n within
    simp only [List.all_cons, Bool.and_eq_true] at records
    cases n with
    | zero => exact ⟨{}, rfl⟩
    | succ n =>
      obtain ⟨here, hhere⟩ := hitem (each item List.mem_cons_self) records.1
        (scope.item field spec index)
      obtain ⟨later, hlater⟩ := hrest (fun m member => each m (List.mem_cons_of_mem item member))
        records.2 scope field spec (index + 1) n (Nat.le_of_succ_le_succ within)
      refine ⟨Collected.append { devices := scope.itemDevices spec index }
        (here.append later), ?_⟩
      rw [collectItems, hhere, ok_bind, hlater, ok_bind]
      rfl

/-- Whatever counts are configured, the walk finishes on a well-formed object whose lists
are long enough and whose counts can be read. -/
theorem collect_finishes {t : DataTree} (wf : WellFormed t)
    (room : roomy (t.map Value.listLength) = true) (readable : CountsReadable t) (scope : Scope) :
    ∃ collected, collect configuredCounts scope t = .ok collected :=
  finishes_of_ready t ⟨wf.2, room, readable⟩ wf.1 scope

end MarstekBle.Entities
