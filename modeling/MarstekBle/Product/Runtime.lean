/- module: Product/Runtime
   source: custom_components/marstek_ble/product_runtime.py
   digest: Tracked data objects, product runtimes, payload dispatch and notification parsing. -/

import MarstekBle.Protocol.Frame
import MarstekBle.Schema.Model

set_option autoImplicit false
set_option relaxedAutoImplicit false

namespace MarstekBle.Product

open MarstekBle.Data MarstekBle.Schema MarstekBle.Protocol MarstekBle.Lib.AttributeTree

def identificationCommand : Byte := 0x04

/-- One command in a product polling schedule; the delay in seconds. -/
structure PollCommand where
  command : Byte
  payload : Bytes := []
  delay : ℚ := 3 / 10

/-- One entry of `field_updates`. -/
structure UpdateEntry where
  command : Byte
  timestamp : ℚ
  payloadHex : Option String
  deriving DecidableEq

/-- What `get_field_metadata` returns; the source prints the timestamp in ISO format. -/
structure FieldMetadata where
  command : Byte
  commandHex : String
  timestamp : ℚ
  ageSeconds : ℚ
  payloadHex : Option String
  deriving DecidableEq

/-- A data class: its fields as constructed, and its override of `_metadata_aliases`. -/
structure DataType where
  name : String
  fields : DataClass
  metadataAliases : DataPath → List String

/-- A cumulative data object. `field_updates` is kept beside the tree of the
other attributes, which the schema parser walks. -/
structure TrackedProductData where
  dataType : DataType
  tree : DataTree
  fieldUpdates : String → Option UpdateEntry

/-- The aliases of `TrackedProductData` itself. -/
def baseAliases (path : DataPath) : List String :=
  match path.getLast? with
  | none => []
  | some element => [partString element]

/-- `field: str | DataPath`. -/
inductive FieldRef where
  | name (field : String)
  | path (field : DataPath)

namespace TrackedProductData

/-- The keys one update is recorded under. -/
def updateKeys (data : TrackedProductData) : FieldRef → List String
  | .name field => [field]
  | .path field => pathString field :: data.dataType.metadataAliases field

def setEntry (data : TrackedProductData) (entry : UpdateEntry) (key : String) :
    TrackedProductData :=
  { data with fieldUpdates := fun k => if k = key then some entry else data.fieldUpdates k }

def markFieldUpdate (data : TrackedProductData) (field : FieldRef) (command : Byte)
    (timestamp : ℚ) (payload : Bytes) : TrackedProductData :=
  let entry : UpdateEntry :=
    ⟨command, timestamp, if payload.isEmpty then none else some (hex payload)⟩
  (data.updateKeys field).eraseDups.foldl (fun d key => d.setEntry entry key) data

/-- Metadata of a field at the clock reading `now`. -/
def getFieldMetadata (data : TrackedProductData) (field : FieldRef) (now : ℚ) :
    Option FieldMetadata :=
  let key := match field with
    | .name name => name
    | .path path => pathString path
  (data.fieldUpdates key).map fun entry =>
    ⟨entry.command, commandHex entry.command, entry.timestamp, now - entry.timestamp,
      entry.payloadHex⟩

end TrackedProductData

/-- A product's own decoder: the reported paths and the tree it leaves. -/
abbrev PayloadParser := Bytes → DataTree → Raises (Option (List DataPath)) × DataTree

structure ProductProfile where
  productId : String
  dataType : DataType
  packets : List PacketSchema
  supportedCommands : List Byte
  discoveryPrefixes : List Text := []

/-- A runtime that passed the checks of `__post_init__`. -/
structure ProductRuntime where
  profile : ProductProfile
  fastPoll : List PollCommand
  mediumPoll : List PollCommand := []
  payloadParsers : List (Byte × PayloadParser)
  distinctCommands : (profile.packets.map PacketSchema.command).Nodup := by decide
  scheduled : ∀ poll ∈ fastPoll ++ mediumPoll, poll.command = identificationCommand ∨
    poll.command ∈ profile.supportedCommands := by decide

namespace ProductRuntime

/-- `_packets_by_command.get(command)`. -/
def packetFor (runtime : ProductRuntime) (command : Byte) : Option PacketSchema :=
  runtime.profile.packets.find? (·.command = command)

/-- `payload_parsers.get(command)`. -/
def parserFor (runtime : ProductRuntime) (command : Byte) : Option PayloadParser :=
  (runtime.payloadParsers.find? (·.1 = command)).map Prod.snd

/-- Whether a Bluetooth local name belongs to the product. -/
def matchesName (runtime : ProductRuntime) : Option Text → Bool
  | none => false
  | some [] => false
  | some localName => runtime.profile.discoveryPrefixes.any (List.isPrefixOf · localName)

def createData (runtime : ProductRuntime) : TrackedProductData :=
  ⟨runtime.profile.dataType, .record runtime.profile.dataType.fields, fun _ => none⟩

/-- The dispatch of one payload: the paths it updated and the object it leaves. -/
def parsePayload (runtime : ProductRuntime) (command : Byte) (payload : Bytes)
    (data : TrackedProductData) : Raises (Option (List DataPath)) × TrackedProductData :=
  if data.dataType.name ≠ runtime.profile.dataType.name then
    (.error ⟨.typeError, runtime.profile.productId ++ " expects " ++
      runtime.profile.dataType.name⟩, data)
  else
    let validated := match runtime.packetFor command with
      | some packet => packet.validatePayload payload
      | none => .ok ()
    match validated with
    | .error e => (.error e, data)
    | .ok () => match runtime.parserFor command with
      | some parser =>
        let (paths, tree) := parser payload data.tree
        (paths, { data with tree })
      | none => match runtime.packetFor command with
        | none => (.ok none, data)
        | some packet => match iterParsedFields payload packet data.tree with
          | .error e => (.error e, data)
          | .ok updates =>
            (.ok (some (updates.map ParsedField.path)),
              { data with tree := updates.foldl (fun tree u => u.apply tree) data.tree })

/-- Validate and parse one notification received at `timestamp`. An exception
of the dispatch is caught, and what it had changed stays. -/
def parseNotification (runtime : ProductRuntime) (frame : Bytes) (timestamp : ℚ)
    (data : TrackedProductData) : Raises Bool × TrackedProductData :=
  match openFrame frame with
  | .error e => (.error e, data)
  | .ok none => (.ok false, data)
  | .ok (some (command, payload)) => match runtime.parsePayload command payload data with
    | (.error _, data) => (.ok false, data)
    | (.ok none, data) => (.ok false, data)
    | (.ok (some paths), data) =>
      (.ok true, paths.foldl
        (fun d path => d.markFieldUpdate (.path path) command timestamp payload) data)

end ProductRuntime

/-- A notification and its receive time. -/
structure Notification where
  frame : Bytes
  time : ℚ

namespace ProductRuntime

/-- The `result` of `_handle_notification`: a parser that raises counts as `False`. -/
def handled (runtime : ProductRuntime) (data : TrackedProductData) (n : Notification) : Bool :=
  match (runtime.parseNotification n.frame n.time data).1 with
  | .ok accepted => accepted
  | .error _ => false

/-- The object one notification leaves. -/
def receive (runtime : ProductRuntime) (data : TrackedProductData) (n : Notification) :
    TrackedProductData :=
  (runtime.parseNotification n.frame n.time data).2

/-- The object a sequence of notifications leaves. -/
def receiveAll (runtime : ProductRuntime) (data : TrackedProductData) (ns : List Notification) :
    TrackedProductData :=
  ns.foldl runtime.receive data

end ProductRuntime

end MarstekBle.Product
