/- module: Product/Dispatch
   source: custom_components/marstek_ble/product_runtime.py
   digest: One notification is a fixed sequence of leaf writes, or changes nothing. -/

import Mathlib.Data.List.Nodup
import MarstekBle.Product.Runtime
import MarstekBle.Schema.Totality

/-!
Whether a notification is accepted, what it writes and what it reports depend
on its bytes alone: the schema parser looks at the shape of the data object
only, and so do the text decoders of a lawful runtime.
-/

set_option autoImplicit false
set_option relaxedAutoImplicit false

namespace MarstekBle.Product

open MarstekBle.Data MarstekBle.Schema MarstekBle.Protocol MarstekBle.Lib.AttributeTree

/-- Writes to leaves of a tree, and the paths reported for them. -/
structure Effect (root : DataTree) where
  writes : List (DataPath × Value)
  paths : List DataPath
  leaves : ∀ u ∈ writes, root.IsLeaf u.1
  reports : ∀ p, p ∈ paths ↔ ∃ u ∈ writes, u.1 = p

/-- The decoder has one effect on every tree: it never raises, and it reads nothing. -/
def DecodesTo (root : DataTree) (parser : PayloadParser) (payload : Bytes) : Prop :=
  ∃ effect : Effect root, ∀ tree,
    parser payload tree = (.ok (some effect.paths), tree.assignAll effect.writes)

/-- What a runtime has to provide. -/
structure Lawful (runtime : ProductRuntime) : Prop where
  wellFormed : WellFormed runtime.createData.tree
  total : everySource FieldSource.Total runtime.createData.tree
  decodes : ∀ command parser, runtime.parserFor command = some parser →
    ∃ packet, runtime.packetFor command = some packet ∧ ∀ payload,
      packet.Admits payload.length → DecodesTo runtime.createData.tree parser payload
  keysDistinct : ∀ p q, runtime.createData.tree.IsLeaf p → runtime.createData.tree.IsLeaf q →
    pathString p = pathString q → p = q
  aliasesApart : ∀ p q, runtime.createData.tree.IsLeaf p → runtime.createData.tree.IsLeaf q →
    pathString p ∉ runtime.profile.dataType.metadataAliases q

/-- A data object of the runtime's class whose lists have kept their lengths. -/
structure InShape (runtime : ProductRuntime) (data : TrackedProductData) : Prop where
  dataType : data.dataType = runtime.profile.dataType
  shape : data.tree.shape = runtime.createData.tree.shape

theorem inShape_createData (runtime : ProductRuntime) : InShape runtime runtime.createData :=
  ⟨rfl, rfl⟩

theorem isLeaf_of_inShape {runtime : ProductRuntime} {data : TrackedProductData}
    (inShape : InShape runtime data) (p : DataPath) :
    data.tree.IsLeaf p ↔ runtime.createData.tree.IsLeaf p := by
  rw [← Node.isLeaf_shape, inShape.shape, Node.isLeaf_shape]

/-- The packet that accepts a payload of the command, if there is one. -/
def Accepts (runtime : ProductRuntime) (command : Byte) (payload : Bytes) : Prop :=
  ∃ packet, runtime.packetFor command = some packet ∧ packet.Admits payload.length

/-! ### One payload -/

/-- A packet's effect on every data object is the writes of its applying leaves. -/
theorem schema_effect {runtime : ProductRuntime} (lawful : Lawful runtime)
    {packet : PacketSchema} {payload : Bytes} (admits : packet.Admits payload.length) :
    ∃ effect : Effect runtime.createData.tree,
      effect.writes = schemaWrites packet payload runtime.createData.tree ∧
      ∀ data, InShape runtime data →
      ∃ updates, iterParsedFields payload packet data.tree = .ok updates ∧
        updates.map ParsedField.path = effect.paths ∧
        updates.foldl (fun tree u => u.apply tree) data.tree =
          data.tree.assignAll effect.writes := by
  have fits : packet.validatePayload payload = .ok () :=
    (packet.validatePayload_ok_iff payload).mpr admits
  obtain ⟨updates, parsed, writes⟩ :=
    parseLeaves_ok payload (leafSources packet runtime.createData.tree)
      fun leaf hleaf => source_of_mem_leafSources lawful.total hleaf
  refine ⟨⟨updates.map fun u => (u.path, u.value), updates.map ParsedField.path, ?_, ?_⟩,
    writes, ?_⟩
  · intro u hu
    rw [writes] at hu
    obtain ⟨leaf, hleaf, rfl⟩ := List.mem_map.mp hu
    exact isLeaf_of_mem_leafSources lawful.wellFormed (List.mem_filter.mp hleaf).1
  · intro p
    simp
  · intro data inShape
    refine ⟨updates, ?_, rfl, ?_⟩
    · rw [iterParsedFields_eq payload packet
        (wellFormed_congr inShape.shape.symm lawful.wellFormed), fits,
        leafSources_congr packet inShape.shape]
      exact parsed
    · rw [Node.assignAll, List.foldl_map]
      rfl

theorem parsePayload_none {runtime : ProductRuntime} {command : Byte}
    (noPacket : runtime.packetFor command = none) (noParser : runtime.parserFor command = none)
    (payload : Bytes) {data : TrackedProductData} (inShape : InShape runtime data) :
    runtime.parsePayload command payload data = (.ok none, data) := by
  simp [ProductRuntime.parsePayload, inShape.dataType, noPacket, noParser]

theorem parsePayload_rejected {runtime : ProductRuntime} {command : Byte}
    {packet : PacketSchema} (hpacket : runtime.packetFor command = some packet)
    {payload : Bytes} (rejects : ¬ packet.Admits payload.length) :
    ∃ e, ∀ data, InShape runtime data →
      runtime.parsePayload command payload data = (.error e, data) := by
  cases hv : packet.validatePayload payload with
  | ok u => exact absurd ((packet.validatePayload_ok_iff payload).mp hv) rejects
  | error e =>
    refine ⟨e, fun data inShape => ?_⟩
    simp [ProductRuntime.parsePayload, inShape.dataType, hpacket, hv]

theorem parsePayload_decoded {runtime : ProductRuntime} {command : Byte}
    {packet : PacketSchema} {parser : PayloadParser}
    (hpacket : runtime.packetFor command = some packet)
    (hparser : runtime.parserFor command = some parser) {payload : Bytes}
    (admits : packet.Admits payload.length) {data : TrackedProductData}
    (inShape : InShape runtime data) :
    runtime.parsePayload command payload data =
      ((parser payload data.tree).1, { data with tree := (parser payload data.tree).2 }) := by
  have fits := (packet.validatePayload_ok_iff payload).mpr admits
  simp [ProductRuntime.parsePayload, inShape.dataType, hpacket, hparser, fits]

private theorem parsePayload_schema {runtime : ProductRuntime} {command : Byte}
    {packet : PacketSchema} (hpacket : runtime.packetFor command = some packet)
    (noParser : runtime.parserFor command = none) {payload : Bytes}
    (admits : packet.Admits payload.length) {data : TrackedProductData}
    (inShape : InShape runtime data) {updates : List ParsedField}
    (parsed : iterParsedFields payload packet data.tree = .ok updates) :
    runtime.parsePayload command payload data =
      (.ok (some (updates.map ParsedField.path)),
        { data with tree := updates.foldl (fun tree u => u.apply tree) data.tree }) := by
  have fits := (packet.validatePayload_ok_iff payload).mpr admits
  simp [ProductRuntime.parsePayload, inShape.dataType, hpacket, noParser, fits, parsed]

/-- A packet without a decoder of its own makes its schema's writes. -/
theorem parsePayload_of_schema {runtime : ProductRuntime} (lawful : Lawful runtime)
    {command : Byte} {packet : PacketSchema} (hpacket : runtime.packetFor command = some packet)
    (noParser : runtime.parserFor command = none) {payload : Bytes}
    (admits : packet.Admits payload.length) : ∃ effect : Effect runtime.createData.tree,
      effect.writes = schemaWrites packet payload runtime.createData.tree ∧
      ∀ data, InShape runtime data → runtime.parsePayload command payload data =
        (.ok (some effect.paths), { data with tree := data.tree.assignAll effect.writes }) := by
  obtain ⟨effect, writes, heffect⟩ := schema_effect lawful admits
  refine ⟨effect, writes, fun data inShape => ?_⟩
  obtain ⟨updates, parsed, hpaths, hwrites⟩ := heffect data inShape
  rw [parsePayload_schema hpacket noParser admits inShape parsed, hpaths, hwrites]

/-- A payload has one effect on every data object, or none at all. -/
theorem parsePayload_cases {runtime : ProductRuntime} (lawful : Lawful runtime)
    (command : Byte) (payload : Bytes) :
    (Accepts runtime command payload ∧ ∃ effect : Effect runtime.createData.tree,
      ∀ data, InShape runtime data → runtime.parsePayload command payload data =
        (.ok (some effect.paths), { data with tree := data.tree.assignAll effect.writes })) ∨
    (¬ Accepts runtime command payload ∧ ∃ r : Raises (Option (List DataPath)),
      (∀ paths, r ≠ .ok (some paths)) ∧ ∀ data, InShape runtime data →
        runtime.parsePayload command payload data = (r, data)) := by
  cases hpacket : runtime.packetFor command with
  | none =>
    have noParser : runtime.parserFor command = none := by
      cases hparser : runtime.parserFor command with
      | none => rfl
      | some parser =>
        obtain ⟨packet, found, _⟩ := lawful.decodes command parser hparser
        rw [hpacket] at found
        cases found
    refine .inr ⟨fun ⟨packet, found, _⟩ => ?_, .ok none, nofun,
      fun data inShape => parsePayload_none hpacket noParser payload inShape⟩
    rw [hpacket] at found
    cases found
  | some packet =>
    by_cases admits : packet.Admits payload.length
    · refine .inl ⟨⟨packet, hpacket, admits⟩, ?_⟩
      cases hparser : runtime.parserFor command with
      | some parser =>
        obtain ⟨packet', found, decodes⟩ := lawful.decodes command parser hparser
        obtain rfl : packet = packet' := by
          rw [hpacket] at found
          exact Option.some.inj found
        obtain ⟨effect, heffect⟩ := decodes payload admits
        refine ⟨effect, fun data inShape => ?_⟩
        rw [parsePayload_decoded hpacket hparser admits inShape, heffect]
      | none =>
        obtain ⟨effect, _, heffect⟩ := parsePayload_of_schema lawful hpacket hparser admits
        exact ⟨effect, heffect⟩
    · obtain ⟨e, rejected⟩ := parsePayload_rejected hpacket admits
      refine .inr ⟨fun ⟨packet', found, admits'⟩ => ?_, .error e, nofun, rejected⟩
      rw [hpacket] at found
      obtain rfl := Option.some.inj found
      exact admits admits'

/-! ### One notification -/

/-- Record the update of every path of one notification. -/
def markAll (command : Byte) (timestamp : ℚ) (payload : Bytes) (paths : List DataPath)
    (data : TrackedProductData) : TrackedProductData :=
  paths.foldl (fun d path => d.markFieldUpdate (.path path) command timestamp payload) data

/-- The entry one notification writes under every key it touches. -/
def entryOf (command : Byte) (timestamp : ℚ) (payload : Bytes) : UpdateEntry :=
  ⟨command, timestamp, if payload.isEmpty then none else some (hex payload)⟩

/-- One entry under each of the given keys. -/
def TrackedProductData.withEntry (data : TrackedProductData) (entry : UpdateEntry)
    (keys : List String) : TrackedProductData :=
  { data with fieldUpdates := fun k => if k ∈ keys then some entry else data.fieldUpdates k }

namespace TrackedProductData

@[simp] theorem withEntry_dataType (data : TrackedProductData) (entry : UpdateEntry)
    (keys : List String) : (data.withEntry entry keys).dataType = data.dataType := rfl

@[simp] theorem withEntry_tree (data : TrackedProductData) (entry : UpdateEntry)
    (keys : List String) : (data.withEntry entry keys).tree = data.tree := rfl

private theorem withEntry_append (data : TrackedProductData) (entry : UpdateEntry)
    (keys later : List String) :
    (data.withEntry entry keys).withEntry entry later = data.withEntry entry (keys ++ later) := by
  simp only [withEntry, TrackedProductData.mk.injEq, true_and, List.mem_append]
  funext k
  by_cases hl : k ∈ later <;> by_cases hk : k ∈ keys <;> simp [hl, hk]

private theorem setEntries_eq (entry : UpdateEntry) (keys : List String) :
    ∀ data : TrackedProductData,
      keys.foldl (fun d key => d.setEntry entry key) data = data.withEntry entry keys := by
  induction keys with
  | nil => intro data; simp [withEntry]
  | cons key keys ih =>
    intro data
    have single : data.setEntry entry key = data.withEntry entry [key] := by
      simp [setEntry, withEntry]
    rw [List.foldl_cons, ih, single, withEntry_append]
    rfl

/-- One update sets the path's own key and the aliases the class gives it. -/
theorem markFieldUpdate_eq (data : TrackedProductData) (path : DataPath) (command : Byte)
    (timestamp : ℚ) (payload : Bytes) :
    data.markFieldUpdate (.path path) command timestamp payload =
      data.withEntry (entryOf command timestamp payload) (data.updateKeys (.path path)) := by
  rw [markFieldUpdate, setEntries_eq]
  simp only [withEntry, List.mem_eraseDups]
  rfl

end TrackedProductData

/-- Marking enters one entry under the keys of the reported paths. -/
theorem markAll_eq (command : Byte) (timestamp : ℚ) (payload : Bytes) (paths : List DataPath) :
    ∀ data : TrackedProductData, markAll command timestamp payload paths data =
      data.withEntry (entryOf command timestamp payload)
        (paths.flatMap fun path => data.updateKeys (.path path)) := by
  induction paths with
  | nil => intro data; simp [markAll, TrackedProductData.withEntry]
  | cons path paths ih =>
    intro data
    have first := ih (data.markFieldUpdate (.path path) command timestamp payload)
    simp only [markAll, List.foldl_cons] at first ⊢
    rw [first, TrackedProductData.markFieldUpdate_eq, TrackedProductData.withEntry_append]
    rfl

/-- What the bytes of a notification decide: it is accepted and has one effect on
every data object of the runtime, or it is rejected and changes none. -/
theorem parseNotification_cases {runtime : ProductRuntime} (lawful : Lawful runtime)
    (frame : Bytes) :
    (∃ command payload, buildCommand command payload = .ok frame ∧
      openFrame frame = .ok (some (command, payload)) ∧ Accepts runtime command payload ∧
      ∃ effect : Effect runtime.createData.tree, ∀ data, InShape runtime data →
        runtime.parsePayload command payload data =
          (.ok (some effect.paths), { data with tree := data.tree.assignAll effect.writes }) ∧
        ∀ timestamp, runtime.parseNotification frame timestamp data =
          (.ok true, markAll command timestamp payload effect.paths
            { data with tree := data.tree.assignAll effect.writes })) ∨
    ((∀ command payload, buildCommand command payload = .ok frame →
        ¬ Accepts runtime command payload) ∧
      ∀ data, InShape runtime data →
        (∀ command payload paths, openFrame frame = .ok (some (command, payload)) →
          (runtime.parsePayload command payload data).1 ≠ .ok (some paths)) ∧
        ∀ timestamp, runtime.parseNotification frame timestamp data = (.ok false, data)) := by
  rcases openFrame_eq frame with ⟨command, payload, built, opened⟩ | ⟨notBuilt, opened⟩
  · have openedAs : ∀ command' payload', openFrame frame = .ok (some (command', payload')) →
        command = command' ∧ payload = payload' := by
      intro command' payload' h
      simpa [opened] using h
    rcases parsePayload_cases lawful command payload with ⟨accepts, effect, heffect⟩ |
      ⟨rejects, r, hr, hdata⟩
    · refine .inl ⟨command, payload, built, opened, accepts, effect, fun data inShape =>
        ⟨heffect data inShape, fun timestamp => ?_⟩⟩
      rw [ProductRuntime.parseNotification, opened]
      simp only [heffect data inShape]
      rfl
    · refine .inr ⟨?_, fun data inShape => ⟨?_, fun timestamp => ?_⟩⟩
      · intro command' payload' built'
        obtain ⟨rfl, rfl⟩ := openedAs command' payload' (by
          obtain ⟨fits, rfl⟩ := (buildCommand_eq_ok_iff _ _ _).mp built'
          exact openFrame_frameOf fits command')
        exact rejects
      · intro command' payload' paths h
        obtain ⟨rfl, rfl⟩ := openedAs command' payload' h
        rw [hdata data inShape]
        exact hr paths
      · rw [ProductRuntime.parseNotification, opened]
        simp only [hdata data inShape]
        match r, hr with
        | .error e, _ => rfl
        | .ok none, _ => rfl
        | .ok (some paths), hr => exact absurd rfl (hr paths)
  · refine .inr ⟨fun command payload built => absurd built (notBuilt command payload),
      fun data _ => ⟨?_, fun timestamp => ?_⟩⟩
    · intro command payload paths h
      simp [opened] at h
    · rw [ProductRuntime.parseNotification, opened]

/-! ### Runs -/

theorem inShape_receive {runtime : ProductRuntime} (lawful : Lawful runtime)
    {data : TrackedProductData} (inShape : InShape runtime data) (n : Notification) :
    InShape runtime (runtime.receive data n) := by
  rcases parseNotification_cases lawful n.frame with
    ⟨command, payload, _, _, _, effect, heffect⟩ | ⟨_, hrejected⟩
  · rw [ProductRuntime.receive, (heffect data inShape).2 n.time, markAll_eq]
    have leaves : ∀ u ∈ effect.writes, data.tree.IsLeaf u.1 :=
      fun u hu => (isLeaf_of_inShape inShape u.1).mpr (effect.leaves u hu)
    exact ⟨inShape.dataType, (Node.shape_assignAll leaves).trans inShape.shape⟩
  · rw [ProductRuntime.receive, (hrejected data inShape).2 n.time]
    exact inShape

theorem inShape_receiveAll {runtime : ProductRuntime} (lawful : Lawful runtime)
    {data : TrackedProductData} (inShape : InShape runtime data) (ns : List Notification) :
    InShape runtime (runtime.receiveAll data ns) := by
  induction ns generalizing data with
  | nil => exact inShape
  | cons n ns ih => exact ih (inShape_receive lawful inShape n)

/-- A command has the packet of the profile that declares it. -/
theorem packetFor_eq_some_iff (runtime : ProductRuntime) (command : Byte)
    (packet : PacketSchema) :
    runtime.packetFor command = some packet ↔
      packet ∈ runtime.profile.packets ∧ packet.command = command := by
  constructor
  · intro h
    exact ⟨List.mem_of_find?_eq_some h, by simpa using List.find?_some h⟩
  · rintro ⟨member, rfl⟩
    cases found : runtime.packetFor packet.command with
    | none => exact absurd (List.find?_eq_none.mp found packet member) (by simp)
    | some other =>
      have same : other.command = packet.command := by simpa using List.find?_some found
      rw [List.inj_on_of_nodup_map runtime.distinctCommands
        (List.mem_of_find?_eq_some found) member same]

end MarstekBle.Product
