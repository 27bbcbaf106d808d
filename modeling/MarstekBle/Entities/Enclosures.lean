/- module: Entities/Enclosures
   source: custom_components/marstek_ble/entity.py
   digest: The repeated sections around a path, and how a walk meets them. -/

import MarstekBle.Entities.Descent
import MarstekBle.Schema.Leaves
import MarstekBle.Schema.PathKeys

/-!
A binding is built from one data object and consulted on later ones, so the
sections around it are read here from its path and the later object alone. A
walk through that object, whatever its counts, meets exactly these sections.
-/

set_option autoImplicit false
set_option relaxedAutoImplicit false

namespace MarstekBle.Entities

open MarstekBle.Data MarstekBle.Schema MarstekBle.Product MarstekBle.Lib.AttributeTree

/-- A repeated section around a path: its declaration, the position in it, and the
active count its parent declares. -/
structure Enclosure where
  spec : RepeatedSectionSpec
  index : Nat
  count : Raises Nat

/-- The position is below the active count. -/
def Enclosure.Below (enclosure : Enclosure) : Prop :=
  ∃ n, enclosure.count = .ok n ∧ enclosure.index < n

/-- The section has an active count of its own. -/
def Enclosure.counted (enclosure : Enclosure) : Bool :=
  enclosure.spec.activeCountAttribute.isSome

/-- The declaration of the repeated section of that name. -/
def sectionNamed (fields : List (FieldDef × DataTree)) (name : String) :
    Option RepeatedSectionSpec :=
  (fields.find? (·.1.name = name)).bind (·.1.repeatedSection)

/-- The sections a path goes into, from the outermost on. An index at the end of a
path names an item of a sequence-valued field, not a place in a section. -/
def enclosures : DataPath → DataTree → List Enclosure
  | .attr name :: .index i :: part :: rest, .record fields =>
    ((sectionNamed fields name).map fun spec =>
      ⟨spec, i, activeCount fields spec⟩).toList ++
      match (Node.record fields : DataTree).get? [.attr name, .index i] with
      | some item => enclosures (part :: rest) item
      | none => []
  | .attr name :: rest, .record fields => match attr? fields name with
    | some value => enclosures rest value
    | none => []
  | _, _ => []

theorem enclosures_field (name : String) (t : DataTree) : enclosures [.attr name] t = [] := by
  cases t with
  | value c => rfl
  | items members => rfl
  | record fields =>
    rw [enclosures]
    · cases attr? fields name <;> rfl
    · intro i part rest same
      cases same

theorem enclosures_indexed (name : String) (i : Nat) (t : DataTree) :
    enclosures [.attr name, .index i] t = [] := by
  cases t with
  | value c => rfl
  | items members => rfl
  | record fields =>
    rw [enclosures]
    · cases attr? fields name <;> rfl
    · intro i part rest same
      cases same

/-! ### Walks that pass everywhere -/

/-- Where a walk can go on from one field, whatever the counts. -/
inductive Opens (scope : Scope) : FieldDef → DataTree → Scope × DataTree → Prop
  | nested {field : FieldDef} {inner : List (FieldDef × DataTree)}
      (plain : field.repeatedSection = none) :
      Opens scope field (.record inner)
        ({ scope with path := scope.path ++ [.attr field.name] }, .record inner)
  | item {field : FieldDef} {members : List DataTree} {spec : RepeatedSectionSpec} {index : Nat}
      {item : DataTree} (declared : field.repeatedSection = some spec)
      (found : members[index]? = some item) :
      Opens scope field (.items members) (scope.item field spec index, item)

inductive Passes : Scope × DataTree → Scope × DataTree → Prop
  | mk {scope : Scope} {fields : List (FieldDef × DataTree)} {field : FieldDef}
      {value : DataTree} {next : Scope × DataTree} (member : (field, value) ∈ fields)
      (opens : Opens scope field value next) : Passes (scope, .record fields) next

/-- A walk through populated and unpopulated items alike. -/
abbrev Visits : Scope × DataTree → Scope × DataTree → Prop := Relation.ReflTransGen Passes

/-- The scope and the object a walk has come to, and the sections it has gone into. -/
structure Located (root : DataTree) (scope : Scope) (t : DataTree) (around : List Enclosure) :
    Prop where
  wf : wellFormed t = true
  found : resolve root scope.path = .ok t
  enclosed : ∀ name rest, enclosures (scope.path ++ .attr name :: rest) root =
    around ++ enclosures (.attr name :: rest) t

namespace Located

variable {root : DataTree} {scope : Scope} {around : List Enclosure}

theorem start {root : DataTree} (wf : WellFormed root) {scope : Scope} (top : scope.path = []) :
    Located root scope root [] := by
  refine ⟨wf.2, ?_, fun name rest => ?_⟩
  · rw [top]
    rfl
  · rw [top]
    rfl

/-- The object and the sections around it are determined by the scope. -/
theorem unique {t t' : DataTree} {around' : List Enclosure} (first : Located root scope t around)
    (second : Located root scope t' around') : t = t' ∧ around = around' := by
  refine ⟨Except.ok.inj (first.found.symm.trans second.found), ?_⟩
  have same := (first.enclosed "" []).symm.trans (second.enclosed "" [])
  rwa [enclosures_field, enclosures_field, List.append_nil, List.append_nil] at same

variable {fields : List (FieldDef × DataTree)} {field : FieldDef}

theorem nested {inner : List (FieldDef × DataTree)}
    (here : Located root scope (.record fields) around) (member : (field, .record inner) ∈ fields) :
    Located root { scope with path := scope.path ++ [.attr field.name] } (.record inner)
      around := by
  have wfFields : wellFormedFields fields = true := here.wf
  obtain ⟨named, _, _, wf⟩ := attr?_of_mem wfFields member
  refine ⟨wf, ?_, fun name rest => ?_⟩
  · show resolve root (scope.path ++ [.attr field.name]) = _
    rw [resolve_append, here.found]
    simp [resolve, getattr, Node.child?, named]
  · show enclosures ((scope.path ++ [.attr field.name]) ++ .attr name :: rest) root = _
    rw [List.append_assoc, List.singleton_append, here.enclosed, enclosures, named]
    intro i part rest same
    cases same

theorem item {members : List DataTree} {spec : RepeatedSectionSpec} {index : Nat} {item : DataTree}
    (here : Located root scope (.record fields) around) (member : (field, .items members) ∈ fields)
    (declared : field.repeatedSection = some spec) (found : members[index]? = some item) :
    Located root (scope.item field spec index) item
      (around ++ [⟨spec, index, activeCount fields spec⟩]) := by
  have wfFields : wellFormedFields fields = true := here.wf
  obtain ⟨named, entry, _, wf⟩ := attr?_of_mem wfFields member
  refine ⟨wellFormed_of_getElem? wf found, ?_, fun name rest => ?_⟩
  · show resolve root ((scope.path ++ [.attr field.name]) ++ [.index index]) = _
    rw [List.append_assoc, resolve_append, here.found]
    simp [resolve, getattr, subscript, Node.child?, named, found]
  · have declaredHere : sectionNamed fields field.name = some spec := by
      rw [sectionNamed, entry]
      exact declared
    have content : (Node.record fields : DataTree).get? [.attr field.name, .index index] =
        some item := by
      simp [Node.get?, Node.child?, named, found]
    show enclosures (((scope.path ++ [.attr field.name]) ++ [.index index]) ++ .attr name :: rest)
      root = _
    rw [List.append_assoc, List.append_assoc, List.singleton_append, List.singleton_append,
      here.enclosed, enclosures, declaredHere, content, List.append_assoc]
    rfl

end Located

variable {root : DataTree} {start : Scope}

/-- Every visited object is located, and it is reached where no section around it
has ended before. -/
theorem visits_located (wf : WellFormed root) (top : start.path = []) {scope : Scope}
    {t : DataTree} (visits : Visits (start, root) (scope, t)) :
    ∃ around, Located root scope t around ∧
      ((∀ e ∈ around, e.Below) → Reaches (start, root) (scope, t)) := by
  generalize hnext : (scope, t) = next at visits
  induction visits generalizing scope t with
  | refl =>
    obtain ⟨rfl, rfl⟩ := Prod.mk.inj hnext
    exact ⟨[], .start wf top, fun _ => .refl⟩
  | tail _ step ih =>
    cases step with
    | mk member opens =>
      obtain ⟨around, here, reaches⟩ := ih rfl
      cases opens with
      | nested plain =>
        obtain ⟨rfl, rfl⟩ := Prod.mk.inj hnext
        exact ⟨around, here.nested member, fun below =>
          (reaches below).tail (.mk member (.nested plain))⟩
      | item declared found =>
        obtain ⟨rfl, rfl⟩ := Prod.mk.inj hnext
        refine ⟨_, here.item member declared found, fun below => ?_⟩
        obtain ⟨n, counted, inside⟩ := below _ List.mem_concat_self
        exact (reaches fun e he => below e (List.mem_append_left _ he)).tail
          (.mk member (.item declared counted inside found))

/-- A walk that keeps to the counts stays below all of them. -/
theorem reaches_below (wf : WellFormed root) (top : start.path = []) {scope : Scope}
    {t : DataTree} (reaches : Reaches (start, root) (scope, t)) :
    ∃ around, Located root scope t around ∧ ∀ e ∈ around, e.Below := by
  generalize hnext : (scope, t) = next at reaches
  induction reaches generalizing scope t with
  | refl =>
    obtain ⟨rfl, rfl⟩ := Prod.mk.inj hnext
    refine ⟨[], .start wf top, fun e he => ?_⟩
    cases he
  | tail _ step ih =>
    cases step with
    | mk member enters =>
      obtain ⟨around, here, below⟩ := ih rfl
      cases enters with
      | nested plain =>
        obtain ⟨rfl, rfl⟩ := Prod.mk.inj hnext
        exact ⟨around, here.nested member, below⟩
      | item declared counted inside found =>
        obtain ⟨rfl, rfl⟩ := Prod.mk.inj hnext
        refine ⟨_, here.item member declared found, fun e he => ?_⟩
        rcases List.mem_append.mp he with earlier | last
        · exact below e earlier
        · obtain rfl := List.mem_singleton.mp last
          exact ⟨_, counted, inside⟩

theorem Reaches.visits {here next : Scope × DataTree} (reaches : Reaches here next) :
    Visits here next := by
  refine Relation.ReflTransGen.mono (fun a b step => ?_) _ _ reaches
  cases step with
  | mk member enters =>
    cases enters with
    | nested plain => exact .mk member (.nested plain)
    | item declared _ _ found => exact .mk member (.item declared found)

/-- Objects of one shape are visited in the same scopes. -/
theorem visits_of_shape {other : DataTree} (same : root.shape = other.shape) {scope : Scope}
    {t : DataTree} (visits : Visits (start, root) (scope, t)) :
    ∃ t', t.shape = t'.shape ∧ Visits (start, other) (scope, t') := by
  generalize hnext : (scope, t) = next at visits
  induction visits generalizing scope t with
  | refl =>
    obtain ⟨rfl, rfl⟩ := Prod.mk.inj hnext
    exact ⟨other, same, .refl⟩
  | tail _ step ih =>
    cases step with
    | mk member opens =>
      obtain ⟨u, sameHere, visited⟩ := ih rfl
      obtain ⟨fields', rfl, fieldOf⟩ := exists_field_of_shape sameHere
      obtain ⟨value', member', sameValue⟩ := fieldOf _ _ member
      cases opens with
      | nested plain =>
        obtain ⟨rfl, rfl⟩ := Prod.mk.inj hnext
        obtain ⟨inner', rfl, _⟩ := exists_field_of_shape sameValue
        exact ⟨_, sameValue, visited.tail (.mk member' (.nested plain))⟩
      | item declared found =>
        obtain ⟨rfl, rfl⟩ := Prod.mk.inj hnext
        obtain ⟨members', rfl, itemOf⟩ := exists_item_of_shape sameValue
        obtain ⟨item', found', sameItem⟩ := itemOf _ _ found
        exact ⟨item', sameItem, visited.tail (.mk member' (.item declared found'))⟩

/-- The names in every visited record are plain. -/
theorem visits_plain {here next : Scope × DataTree} (plain : plainNames here.2 = true)
    (visits : Visits here next) : plainNames next.2 = true := by
  induction visits with
  | refl => exact plain
  | tail _ step ih =>
    cases step with
    | mk member opens =>
      have content := plain_of_mem ih member
      cases opens with
      | nested _ => exact content.2
      | item _ found => exact plain_of_getElem? content.2 found

end MarstekBle.Entities
