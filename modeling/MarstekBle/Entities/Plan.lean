/- module: Entities/Plan
   source: custom_components/marstek_ble/entity.py
   digest: Entity bindings, the plan built from a data object, and reading a binding's value. -/

import MarstekBle.Lib.Dictionary
import MarstekBle.Product.Runtime

/-!
A plan is built by one walk over the data object. The walk only ever adds to its
devices, entities and counts, so what it adds is returned here and put together
in the order of the walk; the two dictionaries are formed at the end.
-/

set_option autoImplicit false
set_option relaxedAutoImplicit false

namespace MarstekBle.Entities

open MarstekBle.Data MarstekBle.Schema MarstekBle.Product MarstekBle.Lib.AttributeTree
open MarstekBle.Lib.Dictionary

abbrev ValueGetter := DataTree → Raises Value

/-- An entity calculated from several fields. -/
structure DerivedEntitySpec where
  platform : EntityPlatform
  description : EntityDescription
  valueFn : ValueGetter
  stalePaths : List DataPath := []

structure ProductDeviceSpec where
  manufacturer : String
  model : String
  modelId : Option String := none

/-- One primary or child device. -/
structure DeviceBinding where
  key : String
  name : Option String
  manufacturer : String
  model : String
  modelId : Option String := none
  identifierSuffix : Option String := none
  parentKey : Option String := none
  index : Option Nat := none
  deriving DecidableEq

/-- The stable registry identifier. -/
def DeviceBinding.identifier (device : DeviceBinding) (mainIdentifier : String) : String :=
  match device.identifierSuffix with
  | none => mainIdentifier
  | some suffix => mainIdentifier ++ ":" ++ suffix

/-! ### Reading a data object -/

/-- `int(value)`; a float is truncated towards zero, and text is read as ASCII: decimal
digits of other scripts are not modelled, as no count is ever a text. -/
def intOfValue : Value → Raises Int
  | .int n => .ok n
  | .bool b => .ok (if b then 1 else 0)
  | .float q => .ok (q.num.tdiv q.den)
  | .str text => match intOf text with
    | some n => .ok n
    | none => .error ⟨.valueError, "invalid literal for int() with base 10"⟩
  | _ => .error ⟨.typeError, "int() argument must be a string or a real number"⟩

/-- `_count`: an active count, held between zero and the maximum. -/
def countOf (value : Value) (maximum : Nat) : Raises Nat :=
  match value with
  | .none => .ok 0
  | value => (intOfValue value).map fun n => (max 0 (min n (maximum : Int))).toNat

/-- `_active_count`: how many items of a repeated section its parent declares populated. -/
def activeCount (parent : List (FieldDef × DataTree)) (spec : RepeatedSectionSpec) : Raises Nat :=
  match spec.activeCountAttribute with
  | none => .ok spec.count
  | some name => match attr? parent name with
    | none => .error ⟨.attributeError, name⟩
    | some (.value value) => countOf value spec.count
    | some _ => .error ⟨.typeError, "int() argument must be a string or a real number"⟩

/-- `len(value)`. -/
def lengthOf : DataTree → Raises Nat
  | .items members => .ok members.length
  | .value (.list members) => .ok members.length
  | .value (.tuple members) => .ok members.length
  | .value (.str text) => .ok text.length
  | _ => .error ⟨.typeError, "object has no len()"⟩

/-- `getattr(value, name)`. -/
def getattr (value : DataTree) (name : String) : Raises DataTree :=
  match value.child? (.attr name) with
  | some child => .ok child
  | none => .error ⟨.attributeError, name⟩

/-- `value[index]`. -/
def subscript (value : DataTree) (index : Nat) : Raises DataTree :=
  let found : Raises (Option DataTree) := match value with
    | .items members => .ok members[index]?
    | .value (.list members) => .ok (members[index]?.map .value)
    | .value (.tuple members) => .ok (members[index]?.map .value)
    | .value (.str text) => .ok (text[index]?.map fun c => .value (.str [c]))
    | _ => .error ⟨.typeError, "object is not subscriptable"⟩
  match found with
  | .error e => .error e
  | .ok none => .error ⟨.indexError, "index out of range"⟩
  | .ok (some item) => .ok item

/-- `_resolve`. -/
def resolve : DataTree → DataPath → Raises DataTree
  | value, [] => .ok value
  | value, .attr name :: path => do resolve (← getattr value name) path
  | value, .index i :: path => do resolve (← subscript value i) path

/-- A path that leads to a leaf resolves to its value. -/
theorem resolve_of_valueAt {t : DataTree} {p : DataPath} {v : Value} (h : t.valueAt p = some v) :
    resolve t p = .ok (.value v) := by
  induction p generalizing t with
  | nil =>
    cases t with
    | value c =>
      obtain rfl : c = v := by simpa [Node.content?] using h
      rfl
    | items members => simp [Node.content?] at h
    | record fields => simp [Node.content?] at h
  | cons e p ih =>
    rw [Node.valueAt_cons] at h
    cases hc : t.child? e with
    | none => simp [hc] at h
    | some s =>
      have below : resolve s p = .ok (.value v) := ih (by simpa [hc] using h)
      cases e with
      | attr name => simp [resolve, getattr, hc, below]
      | index i =>
        cases t with
        | value c => simp [Node.child?] at hc
        | record fields => simp [Node.child?] at hc
        | items members =>
          have found : members[i]? = some s := by simpa [Node.child?] using hc
          simp [resolve, subscript, found, below]

theorem resolve_append (t : DataTree) (p q : DataPath) :
    resolve t (p ++ q) = (resolve t p >>= fun s => resolve s q) := by
  induction p generalizing t with
  | nil => rfl
  | cons e p ih =>
    cases e with
    | attr name =>
      simp only [List.cons_append, resolve]
      cases getattr t name with
      | error e => rfl
      | ok s => exact ih s
    | index i =>
      simp only [List.cons_append, resolve]
      cases subscript t i with
      | error e => rfl
      | ok s => exact ih s

/-- Runtime presence check for one repeated item. -/
structure PresenceBinding where
  countPath : DataPath
  index : Nat
  maximumCount : Nat
  deriving DecidableEq

def PresenceBinding.isPresent (presence : PresenceBinding) (data : DataTree) : Raises Bool := do
  match ← resolve data presence.countPath with
  | .value value =>
    let count ← countOf value presence.maximumCount
    pure (decide (presence.index < count))
  | _ => .error ⟨.typeError, "int() argument must be a string or a real number"⟩

/-- Resolved metadata and value access for one entity. -/
structure EntityBinding where
  platform : EntityPlatform
  description : EntityDescription
  device : DeviceBinding
  path : Option DataPath := none
  valueFn : Option ValueGetter := none
  stalePaths : List DataPath := []
  presence : Option PresenceBinding := none
  repeatedKey : Option String := none

namespace EntityBinding

/-- The product-local unique-id suffix. -/
def uniqueKey (binding : EntityBinding) : String :=
  if binding.device.key ≠ "main" then binding.device.key ++ "_" ++ binding.description.key
  else match binding.repeatedKey with
    | some key => key ++ "_" ++ binding.description.key
    | none => binding.description.key

/-- Read or calculate the entity value. -/
def valueFrom (binding : EntityBinding) (data : DataTree) : Raises DataTree :=
  match binding.valueFn with
  | some valueFn => (valueFn data).map .value
  | none => match binding.path with
    | none => .error ⟨.valueError, "Entity binding has no value source"⟩
    | some path => resolve data path

def isPresent (binding : EntityBinding) (data : DataTree) : Raises Bool :=
  match binding.presence with
  | none => .ok true
  | some presence => presence.isPresent data

end EntityBinding

/-! ### The walk -/

/-- What a part of the walk adds. -/
structure Collected where
  devices : List DeviceBinding := []
  entities : List EntityBinding := []
  counts : List (String × Nat) := []

/-- One part of the walk after another. -/
def Collected.append (here later : Collected) : Collected :=
  ⟨here.devices ++ later.devices, here.entities ++ later.entities, here.counts ++ later.counts⟩

/-- The arguments that `_collect` passes down. -/
structure Scope where
  path : DataPath
  device : DeviceBinding
  presence : Option PresenceBinding
  namePrefix : Option String
  keyPrefix : Option String

/-- `_prefixed`. -/
def prefixed (description : EntityDescription) (namePrefix : Option String) :
    EntityDescription :=
  match namePrefix, description.name with
  | some start, some name => { description with name := some (start ++ " " ++ name) }
  | _, _ => description

/-- `value or None` for an optional text: the empty text counts as absent. -/
def truthy (text : Option String) : Option String := text.filter (· ≠ "")

namespace Scope

/-- The bindings of a field's own entities. -/
def fieldEntities (scope : Scope) (field : FieldDef) : List EntityBinding :=
  let fieldPath := scope.path ++ [.attr field.name]
  field.entities.map fun spec =>
    { platform := spec.platform
      description := prefixed spec.description scope.namePrefix
      device := scope.device
      path := some fieldPath
      stalePaths := [fieldPath]
      presence := scope.presence
      repeatedKey := scope.keyPrefix }

/-- The bindings of the items of a sequence-valued field. -/
def indexedEntities (scope : Scope) (field : FieldDef) (spec : IndexedEntitySpec) :
    List EntityBinding :=
  let fieldPath := scope.path ++ [.attr field.name]
  (List.range spec.count).map fun index =>
    { platform := spec.platform
      description := prefixed (spec.descriptionFactory index) scope.namePrefix
      device := scope.device
      path := some (fieldPath ++ [.index index])
      stalePaths := [fieldPath]
      presence := scope.presence
      repeatedKey := match truthy scope.keyPrefix with
        | some key => some (key ++ "_" ++ toString index)
        | none => some (pathString fieldPath ++ "_" ++ toString index) }

/-- The child device of one item. -/
def childDevice (scope : Scope) (child : RepeatedChildDeviceSpec) (index : Nat) : DeviceBinding :=
  { key := child.keyPrefix ++ "_" ++ toString index
    name := some (child.nameFactory index)
    manufacturer := scope.device.manufacturer
    model := child.model
    modelId := child.modelId
    identifierSuffix := some (child.identifierFactory index)
    parentKey := some scope.device.key
    index := some index }

/-- The path of a section's active count, if it declares one. -/
def countPath (scope : Scope) (spec : RepeatedSectionSpec) : Option DataPath :=
  (truthy spec.activeCountAttribute).map fun name => scope.path ++ [.attr name]

/-- The scope of one item of a repeated section; an item with a child device of
its own needs neither the name nor the key of its position. -/
def item (scope : Scope) (field : FieldDef) (spec : RepeatedSectionSpec) (index : Nat) : Scope :=
  let path := scope.path ++ [.attr field.name]
  let positionKey := pathString path ++ "_" ++ toString index
  { path := path ++ [.index index]
    device := match spec.childDevice with
      | some child => scope.childDevice child index
      | none => scope.device
    presence := match scope.countPath spec with
      | some countPath => some ⟨countPath, index, spec.count⟩
      | none => scope.presence
    namePrefix := match spec.childDevice, spec.itemNameFactory with
      | some _, _ => none
      | none, some factory => some (factory index)
      | none, none => scope.namePrefix
    keyPrefix := match spec.childDevice, truthy scope.keyPrefix with
      | some _, _ => none
      | none, some key => some (key ++ "_" ++ positionKey)
      | none, none => some positionKey }

/-- The devices one item of a repeated section adds itself. -/
def itemDevices (scope : Scope) (spec : RepeatedSectionSpec) (index : Nat) :
    List DeviceBinding :=
  (spec.childDevice.map fun child => scope.childDevice child index).toList

end Scope

def fewerItems (fieldPath : DataPath) : PyError :=
  ⟨.valueError, pathString fieldPath ++ " has fewer items than configured"⟩

/-- The indexed entities of a field; an expansion beyond its items raises. -/
def collectIndexed (scope : Scope) (field : FieldDef) (value : DataTree) :
    List IndexedEntitySpec → Raises (List EntityBinding)
  | [] => .ok []
  | spec :: specs => do
    let length ← lengthOf value
    if length < spec.count then .error (fewerItems (scope.path ++ [.attr field.name]))
    else
      let later ← collectIndexed scope field value specs
      pure (scope.indexedEntities field spec ++ later)

section Walk

variable (configuredCounts : List (String × Int))

/-- The configured count of a section, else the discovered one. -/
def configuredCount (path : DataPath) (spec : RepeatedSectionSpec) (discovered : Nat) :
    Raises Nat :=
  countOf (.int ((configuredCounts.lookup (pathString path)).getD discovered)) spec.count

mutual

/-- `_collect` on one data-class instance. -/
def collect (scope : Scope) : DataTree → Raises Collected
  | .record fields => collectFields scope fields fields
  | _ => .error ⟨.typeError, "must be called with a dataclass type or instance"⟩
termination_by structural current => current

/-- The loop over the fields of an instance. -/
def collectFields (scope : Scope) (parent : List (FieldDef × DataTree)) :
    List (FieldDef × DataTree) → Raises Collected
  | [] => .ok {}
  | (field, value) :: rest =>
    let fieldPath := scope.path ++ [.attr field.name]
    let nested : Raises Collected := match field.repeatedSection with
      | some spec =>
        let items (configured : Nat) : Raises Collected := match value with
          | .items members => collectItems scope field spec 0 configured members
          | _ =>
            if configured = 0 then .ok {}
            else .error ⟨.typeError, "must be called with a dataclass type or instance"⟩
        do
          let discovered ← activeCount parent spec
          let configured ← configuredCount configuredCounts fieldPath spec discovered
          let added ← items configured
          pure (Collected.append { counts := [(pathString fieldPath, configured)] } added)
      | none =>
        if value.isRecord then collect { scope with path := fieldPath } value else .ok {}
    do
      let indexed ← collectIndexed scope field value field.indexedEntities
      let inner ← nested
      let later ← collectFields scope parent rest
      pure (Collected.append { entities := scope.fieldEntities field ++ indexed }
        (inner.append later))
termination_by structural fields => fields

/-- The loop of `_collect_repeated` from position `index` on. -/
def collectItems (scope : Scope) (field : FieldDef) (spec : RepeatedSectionSpec) (index : Nat) :
    Nat → List DataTree → Raises Collected
  | 0, _ => .ok {}
  | _ + 1, [] => .error ⟨.indexError, "list index out of range"⟩
  | remaining + 1, item :: rest => do
    let here ← collect (scope.item field spec index) item
    let later ← collectItems scope field spec (index + 1) remaining rest
    pure (Collected.append { devices := scope.itemDevices spec index } (here.append later))
termination_by structural _ members => members

end

end Walk

/-! ### Plans -/

/-- The configured devices and entities of one data object. -/
structure EntityPlan where
  devices : List DeviceBinding
  entities : List EntityBinding
  repeatedCounts : List (String × Nat)

/-- A product profile with its main device and its calculated entities. -/
structure EntityProfile extends ProductProfile where
  device : ProductDeviceSpec
  derivedEntities : List DerivedEntitySpec := []

namespace EntityProfile

def mainDevice (profile : EntityProfile) : DeviceBinding :=
  { key := "main"
    name := none
    manufacturer := profile.device.manufacturer
    model := profile.device.model
    modelId := profile.device.modelId }

/-- The binding of a calculated entity. -/
def derivedEntity (profile : EntityProfile) (spec : DerivedEntitySpec) : EntityBinding :=
  { platform := spec.platform
    description := spec.description
    device := profile.mainDevice
    valueFn := some spec.valueFn
    stalePaths := spec.stalePaths }

/-- The scope the walk starts in. -/
def rootScope (profile : EntityProfile) : Scope := ⟨[], profile.mainDevice, none, none, none⟩

def buildEntityPlan (profile : EntityProfile) (data : TrackedProductData)
    (configuredRepeatedCounts : List (String × Int) := []) : Raises EntityPlan :=
  if data.dataType.name ≠ profile.dataType.name then
    .error ⟨.typeError, profile.productId ++ " expects " ++ profile.dataType.name⟩
  else do
    let main := profile.mainDevice
    let collected ← collect configuredRepeatedCounts profile.rootScope data.tree
    pure
      { devices := (stored ((main :: collected.devices).map fun d => (d.key, d))).map Prod.snd
        entities := collected.entities ++ profile.derivedEntities.map profile.derivedEntity
        repeatedCounts := stored collected.counts }

end EntityProfile

end MarstekBle.Entities
