/- module: Entities/Descent
   source: custom_components/marstek_ble/entity.py
   digest: Which records the walk of a plan comes to: a plan lists exactly what they declare. -/

import Mathlib.Logic.Relation
import MarstekBle.Entities.Catalogue

/-!
The walk enters a nested record, and every item of a repeated section up to the
active count its parent declares. What a plan lists is described here by the
records that can be reached by such steps, without the order of the walk.
-/

set_option autoImplicit false
set_option relaxedAutoImplicit false

namespace MarstekBle.Entities

open MarstekBle.Data MarstekBle.Schema MarstekBle.Product MarstekBle.Lib.AttributeTree

/-- Where the walk goes on from one field of a record. -/
inductive Enters (scope : Scope) (parent : List (FieldDef × DataTree)) :
    FieldDef → DataTree → Scope × DataTree → Prop
  | nested {field : FieldDef} {inner : List (FieldDef × DataTree)}
      (plain : field.repeatedSection = none) :
      Enters scope parent field (.record inner)
        ({ scope with path := scope.path ++ [.attr field.name] }, .record inner)
  | item {field : FieldDef} {members : List DataTree} {spec : RepeatedSectionSpec}
      {n index : Nat} {item : DataTree} (declared : field.repeatedSection = some spec)
      (counted : activeCount parent spec = .ok n) (below : index < n)
      (found : members[index]? = some item) :
      Enters scope parent field (.items members) (scope.item field spec index, item)

/-- One step of the walk. -/
inductive Descends : Scope × DataTree → Scope × DataTree → Prop
  | mk {scope : Scope} {fields : List (FieldDef × DataTree)} {field : FieldDef}
      {value : DataTree} {next : Scope × DataTree} (member : (field, value) ∈ fields)
      (enters : Enters scope fields field value next) : Descends (scope, .record fields) next

/-- The walk from one place comes to the other. -/
abbrev Reaches : Scope × DataTree → Scope × DataTree → Prop := Relation.ReflTransGen Descends

/-- One thing a plan lists. -/
inductive Entry where
  | entity (binding : EntityBinding)
  | count (key : String) (n : Nat)

/-- The bindings a field has of its own. -/
def Scope.ownEntities (scope : Scope) (field : FieldDef) : List EntityBinding :=
  scope.fieldEntities field ++ field.indexedEntities.flatMap (scope.indexedEntities field)

/-- The string a section's count is kept under. -/
def Scope.countKey (scope : Scope) (field : FieldDef) : String :=
  pathString (scope.path ++ [.attr field.name])

/-- What a field of a record declares itself. -/
inductive Declares (scope : Scope) (parent : List (FieldDef × DataTree)) (field : FieldDef) :
    Entry → Prop
  | entity {binding : EntityBinding} (own : binding ∈ scope.ownEntities field) :
      Declares scope parent field (.entity binding)
  | count {spec : RepeatedSectionSpec} {n : Nat} (declared : field.repeatedSection = some spec)
      (counted : activeCount parent spec = .ok n) :
      Declares scope parent field (.count (scope.countKey field) n)

/-- Some record the walk comes to declares the entry. -/
def Listed (start : Scope × DataTree) (entry : Entry) : Prop :=
  ∃ scope fields field value, Reaches start (scope, .record fields) ∧ (field, value) ∈ fields ∧
    Declares scope fields field entry

def Collected.Lists (collected : Collected) : Entry → Prop
  | .entity binding => binding ∈ collected.entities
  | .count key n => (key, n) ∈ collected.counts

private theorem lists_append (here later : Collected) (entry : Entry) :
    (here.append later).Lists entry ↔ here.Lists entry ∨ later.Lists entry := by
  cases entry <;> exact List.mem_append

private theorem not_lists_nothing (entry : Entry) : ¬ ({} : Collected).Lists entry := by
  cases entry <;> exact List.not_mem_nil

/-- What the walk lists from a record on, field by field. -/
theorem listed_record_iff (scope : Scope) (fields : List (FieldDef × DataTree)) (entry : Entry) :
    Listed (scope, .record fields) entry ↔ ∃ e ∈ fields, Declares scope fields e.1 entry ∨
      ∃ next, Enters scope fields e.1 e.2 next ∧ Listed next entry := by
  constructor
  · rintro ⟨scope', fields', field, value, reaches, member, declares⟩
    rcases Relation.ReflTransGen.cases_head reaches with here | ⟨next, step, onward⟩
    · obtain ⟨rfl, same⟩ := Prod.mk.inj here
      obtain rfl := Node.record.inj same
      exact ⟨(field, value), member, .inl declares⟩
    · cases step with
      | @mk _ _ first content _ entered enters =>
        exact ⟨(first, content), entered,
          .inr ⟨next, enters, scope', fields', field, value, onward, member, declares⟩⟩
  · rintro ⟨⟨field, value⟩, member, declares | ⟨next, enters, listed⟩⟩
    · exact ⟨scope, fields, field, value, .refl, member, declares⟩
    · obtain ⟨scope', fields', field', value', onward, member', declares⟩ := listed
      exact ⟨scope', fields', field', value', .head (.mk member enters) onward, member', declares⟩

/-! ### The counts -/

theorem countOf_le {value : Value} {maximum n : Nat} (counted : countOf value maximum = .ok n) :
    n ≤ maximum := by
  unfold countOf at counted
  split at counted
  · obtain rfl := Except.ok.inj counted
    exact Nat.zero_le _
  · obtain ⟨k, _, rfl⟩ := map_eq_ok_iff.mp counted
    omega

theorem activeCount_le {parent : List (FieldDef × DataTree)} {spec : RepeatedSectionSpec} {n : Nat}
    (counted : activeCount parent spec = .ok n) : n ≤ spec.count := by
  unfold activeCount at counted
  split at counted
  · exact (Except.ok.inj counted).ge
  · split at counted
    · cases counted
    · exact countOf_le counted
    · cases counted

/-- Without configured counts the discovered one is used. -/
theorem configuredCount_nil {path : DataPath} {spec : RepeatedSectionSpec} {n : Nat}
    (within : n ≤ spec.count) : configuredCount [] path spec n = .ok n := by
  have inside : min (n : Int) spec.count = n := by omega
  show Except.ok (max 0 (min (n : Int) spec.count)).toNat = _
  rw [inside]
  exact congrArg Except.ok (by omega)

/-! ### The walk -/

/-- A finished walk from a place lists what is listed there. -/
private def Describes (walk : Raises Collected) (listed : Entry → Prop) : Prop :=
  ∀ collected, walk = .ok collected → ∀ entry, collected.Lists entry ↔ listed entry

/-- What the items of a section add, from a position on. -/
private def ItemsListed (scope : Scope) (field : FieldDef) (spec : RepeatedSectionSpec)
    (index remaining : Nat) (members : List DataTree) (entry : Entry) : Prop :=
  ∃ i item, i < remaining ∧ members[i]? = some item ∧
    Listed (scope.item field spec (index + i), item) entry

/-- The count a field's section adds. -/
private def CountListed (scope : Scope) (parent : List (FieldDef × DataTree)) (field : FieldDef)
    (entry : Entry) : Prop :=
  ∃ spec n, field.repeatedSection = some spec ∧ activeCount parent spec = .ok n ∧
    entry = .count (scope.countKey field) n

/-- What a field's section or nested record adds. -/
private def ContentListed (scope : Scope) (parent : List (FieldDef × DataTree)) (field : FieldDef)
    (value : DataTree) (entry : Entry) : Prop :=
  ∃ next, Enters scope parent field value next ∧ Listed next entry

/-- A field outside a section adds what its nested record holds. -/
private theorem describes_plain {parent : List (FieldDef × DataTree)} {field : FieldDef}
    {value : DataTree} (hspec : field.repeatedSection = none)
    (object : ∀ scope, Describes (collect [] scope value) (Listed (scope, value)))
    (scope : Scope) :
    Describes (collectNested [] scope parent field value) fun entry =>
      CountListed scope parent field entry ∨ ContentListed scope parent field value entry := by
  intro collected built entry
  show collected.Lists entry ↔
    CountListed scope parent field entry ∨ ContentListed scope parent field value entry
  have noCount : ¬ CountListed scope parent field entry := by
    rintro ⟨spec, n, declared, _⟩
    rw [hspec] at declared
    cases declared
  have entered : ContentListed scope parent field value entry ↔ ∃ inner, value = .record inner ∧
      Listed ({ scope with path := scope.path ++ [.attr field.name] }, .record inner) entry := by
    constructor
    · rintro ⟨next, enters, listed⟩
      cases enters with
      | nested _ => exact ⟨_, rfl, listed⟩
      | item declared _ _ _ =>
        rw [hspec] at declared
        cases declared
    · rintro ⟨inner, rfl, listed⟩
      exact ⟨_, .nested hspec, listed⟩
  rw [or_iff_right noCount, entered]
  simp only [collectNested, hspec] at built
  cases value with
  | record inner =>
    refine (object _ collected built entry).trans ?_
    constructor
    · exact fun listed => ⟨inner, rfl, listed⟩
    · rintro ⟨inner', same, listed⟩
      obtain rfl := Node.record.inj same
      exact listed
  | _ =>
    obtain rfl := Except.ok.inj built
    refine iff_of_false (not_lists_nothing entry) ?_
    rintro ⟨inner, same, _⟩
    cases same

/-- What the items of a section list is what its contents list. -/
private theorem describes_items {field : FieldDef} {value : DataTree} {spec : RepeatedSectionSpec}
    (items : ∀ members, value = .items members → ∀ scope spec n,
      Describes (collectItems [] scope field spec 0 n members)
        (ItemsListed scope field spec 0 n members)) (scope : Scope) (n : Nat) :
    Describes (sectionItems [] scope field spec value n) fun entry =>
      ∃ members, value = .items members ∧ ItemsListed scope field spec 0 n members entry := by
  intro added built entry
  cases value with
  | items members =>
    refine (items members rfl scope spec n added built entry).trans ?_
    constructor
    · exact fun listed => ⟨members, rfl, listed⟩
    · rintro ⟨members', same, listed⟩
      obtain rfl := Node.items.inj same
      exact listed
  | _ =>
    rw [sectionItems_eq_nothing (by nofun) built]
    refine iff_of_false (not_lists_nothing entry) ?_
    rintro ⟨members, same, _⟩
    cases same

/-- A section adds its count, and what its items hold up to that count. -/
private theorem describes_section {parent : List (FieldDef × DataTree)} {field : FieldDef}
    {value : DataTree} {spec : RepeatedSectionSpec} (hspec : field.repeatedSection = some spec)
    (items : ∀ members, value = .items members → ∀ scope spec n,
      Describes (collectItems [] scope field spec 0 n members)
        (ItemsListed scope field spec 0 n members)) (scope : Scope) :
    Describes (collectNested [] scope parent field value) fun entry =>
      CountListed scope parent field entry ∨ ContentListed scope parent field value entry := by
  intro collected built entry
  simp only [collectNested, hspec] at built
  obtain ⟨n, hn, counted⟩ := bind_eq_ok_iff.mp built
  rw [configuredCount_nil (activeCount_le hn), ok_bind] at counted
  obtain ⟨added, hadded, finished⟩ := bind_eq_ok_iff.mp counted
  obtain rfl := Except.ok.inj finished
  rw [lists_append, describes_items items scope n added hadded]
  refine or_congr ?_ ?_
  · constructor
    · intro here
      cases entry with
      | entity binding => exact absurd here List.not_mem_nil
      | count key m =>
        obtain ⟨rfl, rfl⟩ := Prod.mk.inj (List.mem_singleton.mp here)
        exact ⟨spec, _, hspec, hn, rfl⟩
    · rintro ⟨spec', m, declared, hm, rfl⟩
      obtain rfl := Option.some.inj (hspec.symm.trans declared)
      obtain rfl := Except.ok.inj (hn.symm.trans hm)
      exact List.mem_singleton.mpr rfl
  · constructor
    · rintro ⟨members, rfl, i, item, below, found, listed⟩
      rw [Nat.zero_add] at listed
      exact ⟨_, .item hspec hn below found, listed⟩
    · rintro ⟨next, enters, listed⟩
      cases enters with
      | nested plain =>
        rw [hspec] at plain
        cases plain
      | @item members spec' m index item declared counted below found =>
        obtain rfl := Option.some.inj (hspec.symm.trans declared)
        obtain rfl := Except.ok.inj (hn.symm.trans counted)
        exact ⟨members, rfl, index, item, below, found, by rwa [Nat.zero_add]⟩

private theorem describes_nested {parent : List (FieldDef × DataTree)} {field : FieldDef}
    {value : DataTree}
    (object : ∀ scope, Describes (collect [] scope value) (Listed (scope, value)))
    (items : ∀ members, value = .items members → ∀ scope spec n,
      Describes (collectItems [] scope field spec 0 n members)
        (ItemsListed scope field spec 0 n members)) (scope : Scope) :
    Describes (collectNested [] scope parent field value) fun entry =>
      CountListed scope parent field entry ∨ ContentListed scope parent field value entry := by
  cases hspec : field.repeatedSection with
  | none => exact describes_plain hspec object scope
  | some spec => exact describes_section hspec items scope

private theorem lists_entities_iff (bindings : List EntityBinding) (entry : Entry) :
    ({ entities := bindings } : Collected).Lists entry ↔
      ∃ binding ∈ bindings, entry = .entity binding := by
  cases entry with
  | entity binding =>
    constructor
    · exact fun here => ⟨binding, here, rfl⟩
    · rintro ⟨binding', here, same⟩
      obtain rfl := Entry.entity.inj same
      exact here
  | count key n =>
    refine iff_of_false List.not_mem_nil ?_
    rintro ⟨binding, _, same⟩
    cases same

private theorem declares_iff (scope : Scope) (parent : List (FieldDef × DataTree))
    (field : FieldDef) (entry : Entry) : Declares scope parent field entry ↔
      (∃ binding ∈ scope.ownEntities field, entry = .entity binding) ∨
        CountListed scope parent field entry := by
  constructor
  · intro declares
    cases declares with
    | entity own => exact .inl ⟨_, own, rfl⟩
    | count declared counted => exact .inr ⟨_, _, declared, counted, rfl⟩
  · rintro (⟨binding, own, rfl⟩ | ⟨spec, n, declared, counted, rfl⟩)
    · exact .entity own
    · exact .count declared counted

/-- What the fields of a record add, its own declarations before its contents. -/
private def FieldsListed (scope : Scope) (parent fields : List (FieldDef × DataTree))
    (entry : Entry) : Prop :=
  ∃ e ∈ fields, Declares scope parent e.1 entry ∨ ContentListed scope parent e.1 e.2 entry

private theorem fieldsListed_cons (scope : Scope) (parent : List (FieldDef × DataTree))
    (field : FieldDef) (value : DataTree) (rest : List (FieldDef × DataTree)) (entry : Entry) :
    FieldsListed scope parent ((field, value) :: rest) entry ↔
      (∃ binding ∈ scope.ownEntities field, entry = .entity binding) ∨
      (CountListed scope parent field entry ∨ ContentListed scope parent field value entry) ∨
        FieldsListed scope parent rest entry := by
  simp only [FieldsListed, List.mem_cons, exists_eq_or_imp, declares_iff]
  exact or_assoc.trans (or_assoc.trans (or_congr_right or_assoc.symm))

private theorem describes_cons {scope : Scope} {parent : List (FieldDef × DataTree)}
    {field : FieldDef} {value : DataTree} {rest : List (FieldDef × DataTree)}
    (nested : Describes (collectNested [] scope parent field value) fun entry =>
      CountListed scope parent field entry ∨ ContentListed scope parent field value entry)
    (others : Describes (collectFields [] scope parent rest) (FieldsListed scope parent rest)) :
    Describes (collectFields [] scope parent ((field, value) :: rest))
      (FieldsListed scope parent ((field, value) :: rest)) := by
  intro collected built entry
  rw [collectFields_cons] at built
  obtain ⟨indexed, hindexed, withIndexed⟩ := bind_eq_ok_iff.mp built
  obtain ⟨inner, hinner, withInner⟩ := bind_eq_ok_iff.mp withIndexed
  obtain ⟨later, hlater, finished⟩ := bind_eq_ok_iff.mp withInner
  obtain rfl := Except.ok.inj finished
  obtain rfl := collectIndexed_eq hindexed
  rw [fieldsListed_cons, lists_append, lists_append, lists_entities_iff]
  exact or_congr Iff.rfl (or_congr (nested inner hinner entry) (others later hlater entry))

private theorem itemsListed_iff {scope : Scope} {field : FieldDef} {spec : RepeatedSectionSpec}
    {index remaining : Nat} {members : List DataTree} {entry : Entry} :
    ItemsListed scope field spec index remaining members entry ↔
      ∃ i item, members[i]? = some item ∧ i < remaining ∧
        Listed (scope.item field spec (index + i), item) entry :=
  exists_congr fun _ => exists_congr fun _ => and_left_comm

private theorem itemsListed_cons (scope : Scope) (field : FieldDef) (spec : RepeatedSectionSpec)
    (index remaining : Nat) (item : DataTree) (rest : List DataTree) (entry : Entry) :
    ItemsListed scope field spec index (remaining + 1) (item :: rest) entry ↔
      Listed (scope.item field spec index, item) entry ∨
        ItemsListed scope field spec (index + 1) remaining rest entry := by
  rw [itemsListed_iff, itemsListed_iff, exists_getElem?_cons]
  refine or_congr (by simp) (exists_congr fun i => exists_congr fun later => ?_)
  have shifted : index + (i + 1) = index + 1 + i := by omega
  rw [shifted, Nat.add_lt_add_iff_right]

private theorem not_itemsListed_nil {scope : Scope} {field : FieldDef} {spec : RepeatedSectionSpec}
    {index remaining : Nat} {entry : Entry} :
    ¬ ItemsListed scope field spec index remaining [] entry := by
  rintro ⟨i, item, _, found, _⟩
  cases found

private theorem not_itemsListed_zero {scope : Scope} {field : FieldDef} {spec : RepeatedSectionSpec}
    {index : Nat} {members : List DataTree} {entry : Entry} :
    ¬ ItemsListed scope field spec index 0 members entry := by
  rintro ⟨i, item, below, _⟩
  exact absurd below (Nat.not_lt_zero i)

/-- The items of a section, one after the other. -/
private theorem describes_items_cons {scope : Scope} {field : FieldDef} {spec : RepeatedSectionSpec}
    {item : DataTree} {rest : List DataTree}
    (object : ∀ scope, Describes (collect [] scope item) (Listed (scope, item)))
    (others : ∀ field scope spec index n, Describes (collectItems [] scope field spec index n rest)
      (ItemsListed scope field spec index n rest)) (index n : Nat) :
    Describes (collectItems [] scope field spec index n (item :: rest))
      (ItemsListed scope field spec index n (item :: rest)) := by
  intro collected built entry
  cases n with
  | zero =>
    obtain rfl := Except.ok.inj built
    exact iff_of_false (not_lists_nothing entry) not_itemsListed_zero
  | succ n =>
    rw [collectItems] at built
    obtain ⟨here, hhere, built⟩ := bind_eq_ok_iff.mp built
    obtain ⟨later, hlater, finished⟩ := bind_eq_ok_iff.mp built
    obtain rfl := Except.ok.inj finished
    have devices : ¬ ({ devices := scope.itemDevices spec index } : Collected).Lists entry := by
      cases entry <;> exact List.not_mem_nil
    rw [lists_append, or_iff_right devices, lists_append, object _ here hhere entry,
      others field scope spec (index + 1) n later hlater entry, itemsListed_cons]

/-- A finished walk lists what the records it comes to declare. -/
theorem lists_collect_iff (t : DataTree) (scope : Scope) {collected : Collected}
    (built : collect [] scope t = .ok collected) (entry : Entry) :
    collected.Lists entry ↔ Listed (scope, t) entry := by
  refine (Node.induct_items
    (O := fun t => ∀ scope, Describes (collect [] scope t) (Listed (scope, t)))
    (Q := fun fields => ∀ scope parent,
      Describes (collectFields [] scope parent fields) (FieldsListed scope parent fields))
    (I := fun members => ∀ field scope spec index n,
      Describes (collectItems [] scope field spec index n members)
        (ItemsListed scope field spec index n members))
    ?value ?items ?record ?noFields ?field ?noItems ?item t).1 scope collected built entry
  case value =>
    intro c scope collected built
    cases built
  case items =>
    intro members scope collected built
    cases built
  case record =>
    intro fields hfields scope collected built entry
    rw [listed_record_iff]
    exact hfields scope fields collected built entry
  case noFields =>
    intro scope parent collected built entry
    obtain rfl := Except.ok.inj built
    refine iff_of_false (not_lists_nothing entry) ?_
    rintro ⟨e, member, _⟩
    cases member
  case field =>
    intro field value rest hvalue hmembers hrest scope parent
    exact describes_cons (describes_nested hvalue (fun members same scope spec n =>
      hmembers members same field scope spec 0 n) scope) (hrest scope parent)
  case noItems =>
    intro field scope spec index n collected built entry
    have nothing : collected = {} := by
      cases n with
      | zero => exact (Except.ok.inj built).symm
      | succ n => cases built
    rw [nothing]
    exact iff_of_false (not_lists_nothing entry) not_itemsListed_nil
  case item =>
    intro item rest hitem hrest field scope spec index n
    exact describes_items_cons hitem hrest index n

/-! ### A finished walk has finished everywhere -/

private theorem collectFields_member {scope : Scope} {parent fields : List (FieldDef × DataTree)}
    {collected : Collected} (built : collectFields [] scope parent fields = .ok collected)
    {field : FieldDef} {value : DataTree} (member : (field, value) ∈ fields) :
    ∃ inner, collectNested [] scope parent field value = .ok inner := by
  induction fields generalizing collected with
  | nil => cases member
  | cons e rest ih =>
    obtain ⟨first, content⟩ := e
    rw [collectFields_cons] at built
    obtain ⟨_, _, withIndexed⟩ := bind_eq_ok_iff.mp built
    obtain ⟨inner, hinner, withInner⟩ := bind_eq_ok_iff.mp withIndexed
    obtain ⟨later, hlater, _⟩ := bind_eq_ok_iff.mp withInner
    rcases List.mem_cons.mp member with same | listed
    · obtain ⟨rfl, rfl⟩ := Prod.mk.inj same
      exact ⟨inner, hinner⟩
    · exact ih hlater listed

private theorem collectItems_member {scope : Scope} {field : FieldDef} {spec : RepeatedSectionSpec}
    {index n : Nat} {members : List DataTree} {collected : Collected}
    (built : collectItems [] scope field spec index n members = .ok collected) {i : Nat}
    (below : i < n) {item : DataTree} (found : members[i]? = some item) :
    ∃ inner, collect [] (scope.item field spec (index + i)) item = .ok inner := by
  induction members generalizing index n i collected with
  | nil => cases found
  | cons first rest ih =>
    cases n with
    | zero => exact absurd below (Nat.not_lt_zero i)
    | succ n =>
      rw [collectItems] at built
      obtain ⟨here, hhere, onward⟩ := bind_eq_ok_iff.mp built
      obtain ⟨later, hlater, _⟩ := bind_eq_ok_iff.mp onward
      cases i with
      | zero =>
        obtain rfl := Option.some.inj found
        exact ⟨here, hhere⟩
      | succ i =>
        have inner := ih hlater (Nat.lt_of_succ_lt_succ below) found
        rwa [Nat.add_assoc, Nat.add_comm 1 i] at inner

/-- Where the walk finished, every section it compared had a readable count. -/
theorem activeCount_of_collect {scope : Scope} {fields : List (FieldDef × DataTree)}
    (built : ∃ collected, collect [] scope (.record fields) = .ok collected) {field : FieldDef}
    {value : DataTree} (member : (field, value) ∈ fields) {spec : RepeatedSectionSpec}
    (declared : field.repeatedSection = some spec) : ∃ n, activeCount fields spec = .ok n := by
  obtain ⟨collected, hcollected⟩ := built
  obtain ⟨inner, hinner⟩ := collectFields_member hcollected member
  simp only [collectNested, declared] at hinner
  obtain ⟨n, hn, _⟩ := bind_eq_ok_iff.mp hinner
  exact ⟨n, hn⟩

private theorem collect_of_descends {here next : Scope × DataTree} (step : Descends here next)
    (built : ∃ collected, collect [] here.1 here.2 = .ok collected) :
    ∃ collected, collect [] next.1 next.2 = .ok collected := by
  obtain ⟨collected, hcollected⟩ := built
  cases step with
  | mk member enters =>
    obtain ⟨inner, hinner⟩ := collectFields_member hcollected member
    cases enters with
    | nested plain =>
      simp only [collectNested, plain, Node.isRecord, if_true] at hinner
      exact ⟨inner, hinner⟩
    | item declared counted below found =>
      simp only [collectNested, declared, counted, ok_bind,
        configuredCount_nil (activeCount_le counted)] at hinner
      obtain ⟨added, hadded, _⟩ := bind_eq_ok_iff.mp hinner
      have item := collectItems_member hadded below found
      rwa [Nat.zero_add] at item

theorem collect_of_reaches {here next : Scope × DataTree} (reaches : Reaches here next)
    (built : ∃ collected, collect [] here.1 here.2 = .ok collected) :
    ∃ collected, collect [] next.1 next.2 = .ok collected := by
  induction reaches with
  | refl => exact built
  | tail _ step ih => exact collect_of_descends step ih

end MarstekBle.Entities
