/- module: Schema/Model
   source: custom_components/marstek_ble/schema.py
   digest: Packet schemas, field sources, data-class fields and the generic payload parser. -/

import MarstekBle.Lib.AttributeTree
import MarstekBle.Data.Value

/-!
A data object is a tree whose record nodes list the data-class fields of one
instance with their current contents. What the source attaches to a
`dataclasses.Field` as metadata is the annotation of that attribute.
-/

set_option autoImplicit false
set_option relaxedAutoImplicit false

namespace MarstekBle.Schema

open MarstekBle.Data MarstekBle.Lib.AttributeTree

abbrev DataPath := Path String

instance lawfulBEqDataPath : LawfulBEq DataPath := inferInstance

/-- `str(part)` of one path element. -/
def partString : PathElement String → String
  | .attr name => name
  | .index i => Nat.repr i

/-- `".".join(str(part) for part in path)`. -/
def pathString (path : DataPath) : String := ".".intercalate (path.map partString)

/-- One packet payload that may provide data-class fields. -/
structure PacketSchema where
  name : String
  command : Byte
  minimumLength : Nat := 0
  maximumLength : Option Nat := none
  named : name ≠ "" := by decide
  ordered : ∀ m ∈ maximumLength, minimumLength ≤ m := by decide
  deriving DecidableEq

namespace PacketSchema

/-- Lengths the schema allows. -/
def Admits (packet : PacketSchema) (length : Nat) : Prop :=
  packet.minimumLength ≤ length ∧ ∀ m ∈ packet.maximumLength, length ≤ m

/-- The bounds of a packet that declares none. -/
theorem ordered_of_unbounded : ∀ m ∈ (none : Option Nat), 0 ≤ m := fun m _ => m.zero_le

instance (packet : PacketSchema) (length : Nat) : Decidable (packet.Admits length) :=
  inferInstanceAs (Decidable (_ ∧ _))

def validatePayload (packet : PacketSchema) (payload : Bytes) : Raises Unit :=
  if payload.length < packet.minimumLength then
    .error ⟨.valueError, packet.name ++ " payload is too short: expected at least " ++
      toString packet.minimumLength ++ " bytes, received " ++ toString payload.length⟩
  else match packet.maximumLength with
    | none => .ok ()
    | some m =>
      if m < payload.length then
        .error ⟨.valueError, packet.name ++ " payload is too long: expected at most " ++
          toString m ++ " bytes, received " ++ toString payload.length⟩
      else .ok ()

theorem validatePayload_ok_iff (packet : PacketSchema) (payload : Bytes) :
    packet.validatePayload payload = .ok () ↔ packet.Admits payload.length := by
  unfold validatePayload Admits
  cases packet.maximumLength with
  | none =>
    by_cases h : payload.length < packet.minimumLength
    · simp [h]
    · simp [h, Nat.le_of_not_lt h]
  | some m =>
    by_cases h : payload.length < packet.minimumLength
    · simp [h]
    · by_cases hm : m < payload.length
      · simp [h, hm]
      · simp only [h, hm, if_false, true_iff]
        exact ⟨by omega, fun k hk => by cases hk; omega⟩

end PacketSchema

/-- How one packet represents one result field. -/
structure FieldSource where
  offset : Nat
  format : Struct
  converter : Converter := identity
  minimumLength : Option Nat := none
  maximumLength : Option Nat := none
  bounded : ∀ m ∈ maximumLength, offset + format.size ≤ m ∧ minimumLength.getD 0 ≤ m := by simp

namespace FieldSource

def size (source : FieldSource) : Nat := source.format.size

def endOffset (source : FieldSource) : Nat := source.offset + source.size

/-- Whether the source applies to a payload of the given length. -/
def appliesTo (source : FieldSource) (payloadLength baseOffset : Nat) : Bool :=
  let requiredLength := max (baseOffset + source.endOffset) (source.minimumLength.getD 0)
  if payloadLength < requiredLength then false
  else match source.maximumLength with
    | none => true
    | some m => payloadLength ≤ m

/-- The raw and the converted value. -/
def parseFrom (source : FieldSource) (payload : Bytes) (baseOffset : Nat) :
    Raises (Value × Value) :=
  let absoluteOffset := baseOffset + source.offset
  if absoluteOffset + source.size > payload.length then
    .error ⟨.valueError, "Field at offset " ++ toString absoluteOffset ++ " with size " ++
      toString source.size ++ " exceeds payload length " ++ toString payload.length⟩
  else do
    let unpacked ← source.format.unpackFrom payload absoluteOffset
    let rawValue := single unpacked
    let value ← source.converter rawValue
    pure (rawValue, value)

end FieldSource

/-- `FieldSource(offset, format, converter, minimum_length)` without a maximum length. -/
def fieldSource (offset : Nat) (format : Struct) (converter : Converter := identity)
    (minimumLength : Option Nat := none) : FieldSource :=
  { offset, format, converter, minimumLength }

structure SectionSource where
  offset : Nat := 0

structure RepeatedSectionSource where
  offset : Nat
  stride : Nat
  advances : 0 < stride := by decide

/-! ### Entity metadata attached to fields -/

inductive EntityPlatform where
  | sensor
  | binarySensor
  deriving DecidableEq

/-- The part of an entity description that identifies and names the entity. -/
structure EntityDescription where
  key : String
  name : Option String
  deriving DecidableEq

structure FieldEntitySpec where
  platform : EntityPlatform
  description : EntityDescription
  deriving DecidableEq

structure IndexedEntitySpec where
  platform : EntityPlatform
  count : Nat
  descriptionFactory : Nat → EntityDescription

structure RepeatedChildDeviceSpec where
  keyPrefix : String
  model : String
  nameFactory : Nat → String
  identifierFactory : Nat → String
  modelId : Option String := none

/-- A fixed-limit list of nested data-class records. -/
structure RepeatedSectionSpec where
  count : Nat
  sources : List (PacketSchema × RepeatedSectionSource)
  activeCountAttribute : Option String := none
  childDevice : Option RepeatedChildDeviceSpec := none
  itemNameFactory : Option (Nat → String) := none
  inhabited : 0 < count := by decide
  located : sources ≠ [] := by simp

/-- One `dataclasses.Field` with its metadata. -/
structure FieldDef where
  name : String
  sources : Option (List (PacketSchema × FieldSource)) := none
  entities : List FieldEntitySpec := []
  indexedEntities : List IndexedEntitySpec := []
  sectionSources : Option (List (PacketSchema × SectionSource)) := none
  repeatedSection : Option RepeatedSectionSpec := none

instance : Named FieldDef String := ⟨FieldDef.name⟩

/-- `(sensor_entity(key, name),)`. -/
def sensor (key name : String) : List FieldEntitySpec := [⟨.sensor, ⟨key, some name⟩⟩]

/-- `(binary_sensor_entity(key, name),)`. -/
def binary (key name : String) : List FieldEntitySpec := [⟨.binarySensor, ⟨key, some name⟩⟩]

abbrev DataTree := Node FieldDef Value

/-- The fields of a freshly constructed data-class instance. -/
abbrev DataClass := List (FieldDef × DataTree)

def sourceField (name : String) (sources : List (PacketSchema × FieldSource))
    (entities : List FieldEntitySpec := []) (indexedEntities : List IndexedEntitySpec := [])
    (default : Value := .none) : FieldDef × DataTree :=
  ({ name, sources := some sources, entities, indexedEntities }, .value default)

def valueField (name : String) (entities : List FieldEntitySpec) (default : Value := .none) :
    FieldDef × DataTree :=
  ({ name, entities }, .value default)

/-- A data-class field without metadata. -/
def plainField (name : String) (default : Value := .none) : FieldDef × DataTree :=
  ({ name }, .value default)

def sectionField (name : String) (sectionType : DataClass)
    (sectionSources : Option (List (PacketSchema × SectionSource)) := none) :
    FieldDef × DataTree :=
  ({ name, sectionSources }, .record sectionType)

def repeatedSectionField (name : String) (itemType : DataClass) (spec : RepeatedSectionSpec) :
    FieldDef × DataTree :=
  ({ name, repeatedSection := some spec },
    .items (List.replicate spec.count (.record itemType)))

/-! ### The parser -/

/-- `mapping.get(packet)` on packet-keyed metadata. -/
def sourceFor {α : Type} (packet : PacketSchema) : List (PacketSchema × α) → Option α
  | [] => none
  | (key, source) :: rest => if key = packet then some source else sourceFor packet rest

/-- One pending field update. -/
structure ParsedField where
  path : DataPath
  value : Value
  rawValue : Value

/-- `setattr` on the target the update was produced for. -/
def ParsedField.apply (update : ParsedField) (result : DataTree) : DataTree :=
  result.assign update.path update.value

/-- One generator after another; the first exception ends the iteration. -/
def yieldFrom (here later : Raises (List ParsedField)) : Raises (List ParsedField) := do
  let first ← here
  let rest ← later
  pure (first ++ rest)

/-- What the parser does with one field for one packet. -/
inductive FieldRole where
  | skipped
  | sourced (source : FieldSource)
  | repeated (spec : RepeatedSectionSpec) (source : RepeatedSectionSource)
  | nested (offset : Nat)

/-- A field's own sources come first, then its repeated section, then a nested
record; whatever does not list the packet is passed over. -/
def fieldRole (packet : PacketSchema) (field : FieldDef) (isRecord : Bool) : FieldRole :=
  match field.sources with
  | some fieldSources => match sourceFor packet fieldSources with
    | none => .skipped
    | some source => .sourced source
  | none => match field.repeatedSection with
    | some spec => match sourceFor packet spec.sources with
      | none => .skipped
      | some repeatedSource => .repeated spec repeatedSource
    | none =>
      if isRecord then match field.sectionSources with
        | none => .nested 0
        | some sectionSources => match sourceFor packet sectionSources with
          | none => .skipped
          | some sectionSource => .nested sectionSource.offset
      else .skipped

def wrongItemCount (fieldPath : DataPath) (received expected : Nat) : PyError :=
  ⟨.valueError, "Repeated section " ++ pathString fieldPath ++ " contains " ++
    toString received ++ " items, expected " ++ toString expected⟩

section Parse

universe u

variable {V : Type u} (payload : Bytes) (packet : PacketSchema)

/-- The update of a source field at the given path, if its source applies. -/
def iterSource (baseOffset : Nat) (fieldPath : DataPath) (source : FieldSource) :
    Raises (List ParsedField) :=
  if source.appliesTo payload.length baseOffset then do
    let (rawValue, value) ← source.parseFrom payload baseOffset
    pure [⟨fieldPath, value, rawValue⟩]
  else pure []

mutual

/-- The updates of one data-class instance at a base offset. -/
def iterParsedFieldsFrom (baseOffset : Nat) (path : DataPath) :
    Node FieldDef V → Raises (List ParsedField)
  | .record fields => iterFields baseOffset path fields
  | _ => .error ⟨.typeError, "must be called with a dataclass type or instance"⟩
termination_by structural result => result

/-- The loop over the fields of an instance, in declaration order. -/
def iterFields (baseOffset : Nat) (path : DataPath) :
    List (FieldDef × Node FieldDef V) → Raises (List ParsedField)
  | [] => .ok []
  | (field, current) :: rest =>
    let fieldPath := path ++ [.attr field.name]
    yieldFrom
      (match fieldRole packet field current.isRecord with
        | .skipped => .ok []
        | .sourced source => iterSource payload baseOffset fieldPath source
        | .repeated spec repeatedSource => match current with
          | .items members =>
            if members.length ≠ spec.count then
              .error (wrongItemCount fieldPath members.length spec.count)
            else iterItems repeatedSource baseOffset fieldPath 0 members
          | _ => .error ⟨.typeError, "Repeated section " ++ pathString fieldPath ++
              " must contain a list"⟩
        | .nested offset => iterParsedFieldsFrom (baseOffset + offset) fieldPath current)
      (iterFields baseOffset path rest)
termination_by structural fields => fields

/-- The loop over the items of a repeated section, from position `index` on. -/
def iterItems (source : RepeatedSectionSource) (baseOffset : Nat) (path : DataPath)
    (index : Nat) : List (Node FieldDef V) → Raises (List ParsedField)
  | [] => .ok []
  | item :: rest =>
    yieldFrom
      (if item.isRecord then
        iterParsedFieldsFrom (baseOffset + source.offset + index * source.stride)
          (path ++ [.index index]) item
      else .error ⟨.typeError, "Repeated section items must be dataclass instances"⟩)
      (iterItems source baseOffset path (index + 1) rest)
termination_by structural items => items

end

def iterParsedFields (result : Node FieldDef V) : Raises (List ParsedField) :=
  if result.isRecord then do
    packet.validatePayload payload
    iterParsedFieldsFrom payload packet 0 [] result
  else .error ⟨.typeError, "Result must be a dataclass instance"⟩

end Parse

end MarstekBle.Schema
