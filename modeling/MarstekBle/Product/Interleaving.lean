/- module: Product/Interleaving
   source: custom_components/marstek_ble/product_runtime.py, venus.py, venus_runtime.py
   digest: No field or metadata key of Venus hears two commands: replies interleave freely. -/

import Mathlib.Data.List.Pairwise
import MarstekBle.Lib.Channels
import MarstekBle.Product.Coherence

/-!
Every Venus leaf is reported by the replies to one command, and every metadata
key, aliases included, belongs to one leaf. Leaves and keys are therefore
registers with a single writer, the command byte being the channel.
-/

set_option autoImplicit false
set_option relaxedAutoImplicit false

namespace MarstekBle.Product

open MarstekBle.Data MarstekBle.Schema MarstekBle.Protocol MarstekBle.Lib.AttributeTree
open MarstekBle.Lib.Channels

/-- The command byte of a frame; none if it is too short to have one. -/
def commandByte (frame : Bytes) : Option Byte := frame[3]?

/-- The frames of a sequence that carry the command, in order. -/
def repliesTo (command : Byte) (ns : List Notification) : List Bytes :=
  (ns.map Notification.frame).filter (commandByte · = some command)

/-- An update entry without its timestamp. -/
def UpdateEntry.untimed (entry : UpdateEntry) : Byte × Option String :=
  (entry.command, entry.payloadHex)

/-! ### What a frame writes -/

namespace ProductRuntime

/-- The paths a frame reports to a fresh object. -/
def framePaths (runtime : ProductRuntime) (frame : Bytes) : List DataPath :=
  runtime.reportedPaths runtime.createData ⟨frame, 0⟩

/-- The value a frame writes at a path, if it writes one. -/
def frameValue (runtime : ProductRuntime) (frame : Bytes) (p : DataPath) :
    Option (Option Value) :=
  if p ∈ runtime.framePaths frame then some (runtime.decoded ⟨frame, 0⟩ p) else none

/-- The keys a frame leaves its entry under. -/
def frameKeys (runtime : ProductRuntime) (frame : Bytes) : List String :=
  (runtime.framePaths frame).flatMap fun path =>
    pathString path :: runtime.profile.dataType.metadataAliases path

/-- The entry a frame leaves under a key, if it leaves one. -/
def frameEntry (runtime : ProductRuntime) (frame : Bytes) (key : String) :
    Option (Option (Byte × Option String)) :=
  if key ∈ runtime.frameKeys frame then
    some ((Notification.entry ⟨frame, 0⟩).map UpdateEntry.untimed)
  else none

end ProductRuntime

variable {runtime : ProductRuntime}

/-- The values of a data object are registers written by the frames. -/
theorem registers_valueAt (lawful : Lawful runtime) :
    Registers (InShape runtime) runtime.receive (fun data p => data.tree.valueAt p)
      Notification.frame runtime.frameValue where
  keeps := fun _ n inShape => inShape_receive lawful inShape n
  reads := by
    intro data n p inShape
    have fresh := inShape_createData runtime
    rcases receive_cases lawful n.frame with ⟨command, payload, _, _, effect, heffect⟩ | unchanged
    · obtain ⟨_, received, _⟩ := (heffect data inShape).2 n.time
      obtain ⟨reported, decoded, _⟩ := (heffect _ fresh).2 0
      have values : ∀ {d}, InShape runtime d → (d.tree.assignAll effect.writes).valueAt p =
          (latest p effect.writes).or (d.tree.valueAt p) := by
        intro d inShape
        exact Node.valueAt_assignAll
          (fun u hu => (isLeaf_of_inShape inShape u.1).mpr (effect.leaves u hu)) p
      have written : runtime.frameValue n.frame p = (latest p effect.writes).map some := by
        rw [ProductRuntime.frameValue, ProductRuntime.framePaths, reported,
          ProductRuntime.decoded, decoded, TrackedProductData.withEntry_tree, values fresh]
        cases hl : latest p effect.writes with
        | none =>
          have unwritten := (latest_eq_none_iff p effect.writes).mp hl
          have absent : p ∉ effect.paths := fun member => by
            obtain ⟨u, hu, same⟩ := (effect.reports p).mp member
            exact unwritten u hu same
          simp [absent]
        | some c =>
          have present : p ∈ effect.paths := by
            rw [effect.reports, ← latest_isSome_iff, hl]
            rfl
          simp [present]
      rw [received, TrackedProductData.withEntry_tree, values inShape, written]
      cases latest p effect.writes <;> rfl
    · have same := (unchanged data inShape n.time).2
      have silent := (unchanged _ fresh 0).1
      rw [same, ProductRuntime.frameValue, ProductRuntime.framePaths, silent]
      simp

/-- The metadata of a data object, but for the timestamps, are registers too. -/
theorem registers_fieldUpdates (lawful : Lawful runtime) :
    Registers (InShape runtime) runtime.receive
      (fun data key => (data.fieldUpdates key).map UpdateEntry.untimed)
      Notification.frame runtime.frameEntry where
  keeps := fun _ n inShape => inShape_receive lawful inShape n
  reads := by
    intro data n key inShape
    have fresh := inShape_createData runtime
    rcases receive_cases lawful n.frame with ⟨command, payload, _, _, effect, heffect⟩ | unchanged
    · obtain ⟨_, received, _⟩ := (heffect data inShape).2 n.time
      obtain ⟨reported, _, entry⟩ := (heffect _ fresh).2 0
      rw [received, ProductRuntime.frameEntry, ProductRuntime.frameKeys,
        ProductRuntime.framePaths, reported, entry]
      simp only [TrackedProductData.withEntry]
      split <;> rfl
    · have same := (unchanged data inShape n.time).2
      have silent := (unchanged _ fresh 0).1
      rw [same, ProductRuntime.frameEntry, ProductRuntime.frameKeys, ProductRuntime.framePaths,
        silent]
      simp

/-- What a frame reports is what its accepted command and payload report. -/
theorem command_of_framePaths (lawful : Lawful runtime) {frame : Bytes} {p : DataPath}
    (reported : p ∈ runtime.framePaths frame) :
    ∃ command payload paths, commandByte frame = some command ∧
      Accepts runtime command payload ∧
      (runtime.parsePayload command payload runtime.createData).1 = .ok (some paths) ∧
      p ∈ paths := by
  have fresh := inShape_createData runtime
  rcases receive_cases lawful frame with ⟨command, payload, built, accepts, effect, heffect⟩ |
    unchanged
  · obtain ⟨parsed, timed⟩ := heffect _ fresh
    rw [ProductRuntime.framePaths, (timed 0).1] at reported
    refine ⟨command, payload, effect.paths, ?_, accepts, by rw [parsed], reported⟩
    rw [built]
    simp [commandByte, frameOf, unsealed]
  · rw [ProductRuntime.framePaths, (unchanged _ fresh 0).1] at reported
    cases reported

/-- A frame reports leaves only. -/
theorem isLeaf_of_framePaths (lawful : Lawful runtime) {frame : Bytes} {p : DataPath}
    (reported : p ∈ runtime.framePaths frame) : runtime.createData.tree.IsLeaf p := by
  have fresh := inShape_createData runtime
  rcases receive_cases lawful frame with ⟨_, _, _, _, effect, heffect⟩ | unchanged
  · rw [ProductRuntime.framePaths, ((heffect _ fresh).2 0).1] at reported
    obtain ⟨u, hu, rfl⟩ := (effect.reports p).mp reported
    exact effect.leaves u hu
  · rw [ProductRuntime.framePaths, (unchanged _ fresh 0).1] at reported
    cases reported

namespace Venus

/-- The command whose replies report a path. -/
def replyCommand : DataPath → Option Byte
  | [.attr "runtime", _] => some 0x03
  | [.attr "device", _] => some 0x04
  | [.attr "network", .attr "wifi_ssid"] => some 0x08
  | [.attr "system", _] => some 0x0D
  | [.attr "timer", _] => some 0x13
  | [.attr "battery", _] => some 0x14
  | [.attr "configuration", .attr "ct_polling_rate"] => some 0x22
  | [.attr "configuration", _] => some 0x1A
  | [.attr "network", .attr "meter_ip"] => some 0x21
  | [.attr "network", .attr "local_api_status"] => some 0x28
  | [.attr "network", _] => some 0x24
  | _ => none

/-- A source of a leaf is the packet of the command that owns it. -/
private theorem replyCommand_leafSources : ∀ packet ∈ venusProfile.packets,
    ∀ leaf ∈ leafSources packet venusRuntime.createData.tree,
      replyCommand leaf.path = some packet.command := by
  decide +kernel

private theorem replyCommand_mapped {separator : Char} {mapping : List (String × String)}
    {sectionName : String} {pairs : List Text} {command : Byte}
    (owned : ∀ name ∈ mapping.map Prod.snd,
      replyCommand [.attr sectionName, .attr name] = some command)
    {p : DataPath} (h : ∃ u ∈ pairWrites separator mapping sectionName pairs, u.1 = p) :
    replyCommand p = some command := by
  obtain ⟨u, hu, rfl⟩ := h
  obtain ⟨name, hname, hpath, _⟩ := pairWrites_path hu
  rw [hpath]
  exact owned name hname

private theorem replyCommand_single {p : DataPath} {command : Byte} {path : DataPath}
    (owned : replyCommand path = some command) {result : Raises (Option (List DataPath))}
    (parsed : result = .ok (some [path])) {paths : List DataPath}
    (reported : result = .ok (some paths)) (member : p ∈ paths) :
    replyCommand p = some command := by
  have same : [path] = paths := by simpa [parsed] using reported
  rw [← same, List.mem_singleton] at member
  rw [member, owned]

/-- A decoder reports leaves of its own command. -/
theorem replyCommand_parsers : ∀ e ∈ venusRuntime.payloadParsers,
    ∀ payload tree paths, (e.2 payload tree).1 = .ok (some paths) →
      ∀ p ∈ paths, replyCommand p = some e.1 := by
  intro e registered payload tree paths parsed p member
  simp only [venusRuntime, List.mem_cons, List.not_mem_nil, or_false] at registered
  rcases registered with rfl | rfl | rfl | rfl | rfl
  · have decoded := parseDeviceInformation_eq payload tree
    dsimp only at decoded parsed
    rw [decoded] at parsed
    obtain rfl := Option.some.inj (Except.ok.inj parsed)
    have written := (mem_reportOnce p _ []).mp member
    simp only [List.not_mem_nil, false_or] at written
    exact replyCommand_mapped (by decide) written
  · exact replyCommand_single (by rfl) (show (parseWifiSsid payload tree).1 = _ from rfl)
      parsed member
  · exact replyCommand_single (by rfl) (show (parseMeterIp payload tree).1 = _ from rfl)
      parsed member
  · have decoded := parseNetworkInformation_eq payload tree
    dsimp only at decoded parsed
    rw [decoded] at parsed
    obtain rfl := Option.some.inj (Except.ok.inj parsed)
    rcases (mem_reportOnce p _ _).mp member with info | written
    · rw [List.mem_singleton] at info
      rw [info]
      decide
    · exact replyCommand_mapped (by decide) written
  · dsimp only [parseLocalApiStatus] at parsed
    cases hb : byteAt payload 0 with
    | error e => simp [hb] at parsed
    | ok first =>
      cases hu : unpackIntegerFrom .H payload 1 with
      | error e => simp [hb, hu] at parsed
      | ok port =>
        simp only [hb, hu] at parsed
        exact replyCommand_single (by rfl) rfl parsed member

/-- A path an accepted payload reports belongs to its command. -/
private theorem replyCommand_parsePayload {command : Byte} {payload : Bytes}
    (accepts : Accepts venusRuntime command payload) {paths : List DataPath}
    (parsed : (venusRuntime.parsePayload command payload venusRuntime.createData).1 =
      .ok (some paths)) {p : DataPath} (member : p ∈ paths) :
    replyCommand p = some command := by
  obtain ⟨packet, found, admits⟩ := accepts
  have fresh := inShape_createData venusRuntime
  cases hparser : venusRuntime.parserFor command with
  | some parser =>
    rw [parsePayload_decoded found hparser admits fresh] at parsed
    obtain ⟨e, he, rfl⟩ := Option.map_eq_some_iff.mp hparser
    have own : e.1 = command := by simpa using List.find?_some he
    rw [← own]
    exact replyCommand_parsers e (List.mem_of_find?_eq_some he) payload _ paths parsed p member
  | none =>
    obtain ⟨effect, writes, heffect⟩ :=
      parsePayload_of_schema venusRuntime_lawful found hparser admits
    rw [heffect _ fresh] at parsed
    obtain rfl := Option.some.inj (Except.ok.inj parsed)
    obtain ⟨u, hu, rfl⟩ := (effect.reports p).mp member
    rw [writes, schemaWrites] at hu
    obtain ⟨leaf, hleaf, rfl⟩ := List.mem_map.mp hu
    obtain ⟨declared, rfl⟩ := (packetFor_eq_some_iff _ _ packet).mp found
    exact replyCommand_leafSources packet declared leaf (List.mem_filter.mp hleaf).1

theorem replyCommand_framePaths {frame : Bytes} {p : DataPath}
    (reported : p ∈ venusRuntime.framePaths frame) : commandByte frame = replyCommand p := by
  obtain ⟨command, payload, paths, carried, accepts, parsed, member⟩ :=
    command_of_framePaths venusRuntime_lawful reported
  rw [carried, replyCommand_parsePayload accepts parsed member]

set_option maxRecDepth 20000 in
/-- No two leaves share an alias. -/
private theorem nodup_aliases :
    (venusRuntime.createData.tree.leaves.flatMap metadataAliases).Nodup := by
  decide +kernel

/-- A metadata key belongs to one leaf. -/
private theorem leaf_of_key {p q : DataPath} (leafP : venusRuntime.createData.tree.IsLeaf p)
    (leafQ : venusRuntime.createData.tree.IsLeaf q) {key : String}
    (ofP : key ∈ pathString p :: metadataAliases p)
    (ofQ : key ∈ pathString q :: metadataAliases q) : p = q := by
  have lawful := venusRuntime_lawful
  rcases List.mem_cons.mp ofP with rfl | aliasP
  · rcases List.mem_cons.mp ofQ with same | aliasQ
    · exact lawful.keysDistinct p q leafP leafQ same
    · exact absurd aliasQ (lawful.aliasesApart p q leafP leafQ)
  · rcases List.mem_cons.mp ofQ with rfl | aliasQ
    · exact absurd aliasP (lawful.aliasesApart q p leafQ leafP)
    · by_contra apart
      have symmetric : Std.Symm (Function.onFun List.Disjoint metadataAliases) :=
        ⟨fun _ _ disjoint _ inFirst inSecond => disjoint inSecond inFirst⟩
      have disjoint := (List.nodup_flatMap.mp nodup_aliases).2.forall
        (Node.mem_leaves_of_isLeaf leafP) (Node.mem_leaves_of_isLeaf leafQ) apart
      exact disjoint aliasP aliasQ

theorem singleWriter_frameValue : SingleWriter venusRuntime.frameValue commandByte := by
  intro p
  refine ⟨(replyCommand p).getD 0, fun frame written => ?_⟩
  have reported : p ∈ venusRuntime.framePaths frame := by
    by_contra absent
    simp [ProductRuntime.frameValue, absent] at written
  obtain ⟨command, _, _, carried, _⟩ := command_of_framePaths venusRuntime_lawful reported
  have owned := replyCommand_framePaths reported
  rw [carried] at owned
  rw [carried, ← owned]
  rfl

theorem singleWriter_frameEntry : SingleWriter venusRuntime.frameEntry commandByte := by
  intro key
  by_cases spoken : ∃ frame, key ∈ venusRuntime.frameKeys frame
  · obtain ⟨frame, hkey⟩ := spoken
    obtain ⟨p, reported, ofP⟩ := List.mem_flatMap.mp hkey
    have leafP := isLeaf_of_framePaths venusRuntime_lawful reported
    obtain ⟨command, _, _, carried, _⟩ := command_of_framePaths venusRuntime_lawful reported
    refine ⟨command, fun frame' written => ?_⟩
    have hkey' : key ∈ venusRuntime.frameKeys frame' := by
      by_contra absent
      simp [ProductRuntime.frameEntry, absent] at written
    obtain ⟨q, reported', ofQ⟩ := List.mem_flatMap.mp hkey'
    have leafQ := isLeaf_of_framePaths venusRuntime_lawful reported'
    obtain rfl := leaf_of_key leafP leafQ ofP ofQ
    rw [replyCommand_framePaths reported', ← replyCommand_framePaths reported, carried]
  · refine ⟨0, fun frame written => ?_⟩
    have silent : key ∉ venusRuntime.frameKeys frame := fun hkey => spoken ⟨frame, hkey⟩
    simp [ProductRuntime.frameEntry, silent] at written

/-- How the replies to different commands interleave never affects a Venus object:
sequences with the same frames for every command leave the same values, and the
same metadata but for the timestamps. -/
theorem interleaving_irrelevant (ns ms : List Notification)
    (same : ∀ command, repliesTo command ns = repliesTo command ms) :
    let left := venusRuntime.receiveAll venusRuntime.createData ns
    let right := venusRuntime.receiveAll venusRuntime.createData ms
    (∀ p, left.tree.valueAt p = right.tree.valueAt p) ∧
    ∀ key, (left.fieldUpdates key).map UpdateEntry.untimed =
      (right.fieldUpdates key).map UpdateEntry.untimed := by
  have lawful := venusRuntime_lawful
  have fresh := inShape_createData venusRuntime
  refine ⟨fun p => ?_, fun key => ?_⟩
  · exact read_eq_of_channels (registers_valueAt lawful) singleWriter_frameValue same fresh p
  · exact read_eq_of_channels (registers_fieldUpdates lawful) singleWriter_frameEntry same
      fresh key

/-- A Wi-Fi name and a meter address, received in either order at different times. -/
theorem interleaving_irrelevant_wifi_meter :
    let ns : List Notification := [⟨frameOf 0x08 [0x61], 1⟩, ⟨frameOf 0x21 [0x31], 2⟩]
    let ms : List Notification := [⟨frameOf 0x21 [0x31], 5⟩, ⟨frameOf 0x08 [0x61], 9⟩]
    let left := venusRuntime.receiveAll venusRuntime.createData ns
    let right := venusRuntime.receiveAll venusRuntime.createData ms
    (∀ p, left.tree.valueAt p = right.tree.valueAt p) ∧
    ∀ key, (left.fieldUpdates key).map UpdateEntry.untimed =
      (right.fieldUpdates key).map UpdateEntry.untimed :=
  interleaving_irrelevant [⟨frameOf 0x08 [0x61], 1⟩, ⟨frameOf 0x21 [0x31], 2⟩]
    [⟨frameOf 0x21 [0x31], 5⟩, ⟨frameOf 0x08 [0x61], 9⟩] (by
      intro command
      have wifi : commandByte (frameOf 0x08 [0x61]) = some 0x08 := by decide
      have meter : commandByte (frameOf 0x21 [0x31]) = some 0x21 := by decide
      by_cases first : (0x08 : Byte) = command
      · subst first
        simp [repliesTo, wifi, meter]
      · by_cases second : (0x21 : Byte) = command
        · subst second
          simp [repliesTo, wifi, meter]
        · simp [repliesTo, wifi, meter, first, second])

end Venus

end MarstekBle.Product
