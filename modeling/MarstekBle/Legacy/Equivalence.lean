/- module: Legacy/Equivalence
   source: custom_components/marstek_ble/marstek_device.py, product_runtime.py,
           products/venus.py, products/venus_runtime.py
   digest: The hand-written parser and the declarative Venus parser agree along every run. -/

import MarstekBle.Legacy.Payloads
import MarstekBle.Product.Lawful

set_option autoImplicit false
set_option relaxedAutoImplicit false

namespace MarstekBle.Legacy

open MarstekBle.Data MarstekBle.Schema MarstekBle.Protocol MarstekBle.Product
open MarstekBle.Product.Venus MarstekBle.Lib.AttributeTree

/-! ### Flat names -/

/-- The section of `VenusData` that holds a flat field. -/
def LegacyField.sectionName : LegacyField → String
  | .out1Power | .tempLow | .tempHigh | .wifiConnected | .mqttConnected | .out1Active |
    .extern1Connected | .gridPower | .solarPower | .workMode | .productCode | .powerRating |
    .dailyEnergyCharged | .monthlyEnergyCharged | .dailyEnergyDischarged |
    .monthlyEnergyDischarged | .totalEnergyCharged | .totalEnergyDischarged => "runtime"
  | .bmsVersion | .voltageLimit | .chargeCurrentLimit | .dischargeCurrentLimit | .batterySoc |
    .batterySoh | .designCapacity | .batteryVoltage | .batteryCurrent | .batteryTemp |
    .errorCode | .warningCode | .runtimeHours | .mosfetTemp | .tempSensor1 | .tempSensor2 |
    .tempSensor3 | .tempSensor4 | .cellVoltages => "battery"
  | .systemStatus | .systemValue1 | .systemValue2 | .systemValue3 | .systemValue4 |
    .systemValue5 => "system"
  | .adaptiveModeEnabled | .smartMeterConnected | .adaptivePowerOut => "timer"
  | .configMode | .configStatus | .configValue | .ctPollingRate => "configuration"
  | .deviceType | .deviceId | .serialNumber | .macAddress | .firmwareVersion | .hardwareVersion =>
    "device"
  | .wifiSsid | .meterIp | .networkInfo | .ipAddress | .gateway | .subnetMask | .dnsServer |
    .localApiStatus => "network"

/-- Where `VenusData` keeps a flat field. -/
def flatPath (field : LegacyField) : DataPath := [.attr field.sectionName, .attr field.name]

private def flatFields : List LegacyField :=
  [.out1Power, .tempLow, .tempHigh, .wifiConnected, .mqttConnected, .out1Active, .extern1Connected,
    .gridPower, .solarPower, .workMode, .productCode, .powerRating, .dailyEnergyCharged,
    .monthlyEnergyCharged, .dailyEnergyDischarged, .monthlyEnergyDischarged, .totalEnergyCharged,
    .totalEnergyDischarged, .bmsVersion, .voltageLimit, .chargeCurrentLimit, .dischargeCurrentLimit,
    .batterySoc, .batterySoh, .designCapacity, .batteryVoltage, .batteryCurrent, .batteryTemp,
    .errorCode, .warningCode, .runtimeHours, .mosfetTemp, .tempSensor1, .tempSensor2, .tempSensor3,
    .tempSensor4, .cellVoltages, .systemStatus, .systemValue1, .systemValue2, .systemValue3,
    .systemValue4, .systemValue5, .adaptiveModeEnabled, .smartMeterConnected, .adaptivePowerOut,
    .configMode, .configStatus, .configValue, .ctPollingRate, .deviceType, .deviceId, .serialNumber,
    .macAddress, .firmwareVersion, .hardwareVersion, .wifiSsid, .meterIp, .networkInfo, .ipAddress,
    .gateway, .subnetMask, .dnsServer, .localApiStatus]

private theorem mem_flatFields (field : LegacyField) : field ∈ flatFields := by
  cases field <;> decide

/-- `_FLAT_FIELD_PATHS` sends every legacy name to its place. -/
theorem lookup_flatPath (field : LegacyField) :
    flatFieldPaths.lookup field.name = some (flatPath field) := by
  have all : ∀ f ∈ flatFields, flatFieldPaths.lookup f.name = some (flatPath f) := by
    decide
  exact all field (mem_flatFields field)

theorem flatPath_injective : Function.Injective flatPath := by
  have names : ∀ f ∈ flatFields, ∀ g ∈ flatFields, f.name = g.name → f = g := by
    decide +kernel
  intro f g same
  have last : f.name = g.name := by simpa [flatPath] using (List.cons.inj same).2
  exact names f (mem_flatFields f) g (mem_flatFields g) last

/-- The writes to `VenusData` that assign the same flat fields. -/
def treeWrites (us : List (LegacyField × Value)) : List (DataPath × Value) :=
  us.map fun u => (flatPath u.1, u.2)

/-- On every Venus data object the dispatch gives this answer and makes these assignments. -/
def Handles (command : Byte) (payload : Bytes) (answer : Bool)
    (us : List (LegacyField × Value)) : Prop :=
  ∃ r : Raises (Option (List DataPath)), ((∃ paths, r = .ok (some paths)) ↔ answer = true) ∧
    ∀ data, InShape venusRuntime data → venusRuntime.parsePayload command payload data =
      (r, { data with tree := data.tree.assignAll (treeWrites us) })

/-! ### Binary packets -/

section Packets

variable {command : Byte} (packet : PacketSchema) {payload : Bytes}

private theorem handles_rejected (hpacket : venusRuntime.packetFor command = some packet)
    (rejects : ¬ packet.Admits payload.length) : Handles command payload false [] := by
  obtain ⟨e, rejected⟩ := parsePayload_rejected hpacket rejects
  exact ⟨.error e, by simp, rejected⟩

private theorem handles_schema (hpacket : venusRuntime.packetFor command = some packet)
    (noParser : venusRuntime.parserFor command = none) (admits : packet.Admits payload.length)
    {us : List (LegacyField × Value)}
    (writes : schemaWrites packet payload venusRuntime.createData.tree = treeWrites us) :
    Handles command payload true us := by
  obtain ⟨effect, written, parsed⟩ :=
    parsePayload_of_schema venusRuntime_lawful hpacket noParser admits
  refine ⟨.ok (some effect.paths), by simp, fun data inShape => ?_⟩
  rw [parsed data inShape, written, writes]

private theorem handles_decoder {parser : PayloadParser}
    (hpacket : venusRuntime.packetFor command = some packet)
    (hparser : venusRuntime.parserFor command = some parser)
    (admits : packet.Admits payload.length) {us : List (LegacyField × Value)}
    (decodes : ∃ paths, ∀ tree, parser payload tree =
      (.ok (some paths), tree.assignAll (treeWrites us))) :
    Handles command payload true us := by
  obtain ⟨paths, decodes⟩ := decodes
  refine ⟨.ok (some paths), by simp, fun data inShape => ?_⟩
  rw [parsePayload_decoded hpacket hparser admits inShape, decodes]

end Packets

/-- The leaves of `VenusData` that list a packet. -/
private def venusLeaves (packet : PacketSchema) : List LeafSource :=
  leafSources packet venusRuntime.createData.tree

private theorem unbounded (packet : PacketSchema) (member : packet ∈ venusProfile.packets) :
    ∀ leaf ∈ venusLeaves packet, leaf.source.maximumLength = none := by
  have all : ∀ packet ∈ venusProfile.packets, ∀ leaf ∈ venusLeaves packet,
      leaf.source.maximumLength = none := by decide
  exact all packet member

/-- The writes of the leaves that apply from a length on, up to where another starts to. -/
private theorem schemaWrites_steady {packet : PacketSchema}
    (member : packet ∈ venusProfile.packets) {payload : Bytes} {atLeast : Nat}
    (long : atLeast ≤ payload.length) (steady : ∀ leaf ∈ venusLeaves packet,
      leaf.required ≤ atLeast ∨ payload.length < leaf.required) :
    schemaWrites packet payload venusRuntime.createData.tree =
      ((venusLeaves packet).filter fun leaf => decide (leaf.required ≤ atLeast)).map
        fun leaf => (leaf.path, leaf.decoded payload) := by
  rw [schemaWrites, ← filter_applies (unbounded packet member) long steady]
  rfl

private theorem schemaWrites_system {payload : Bytes} (fits : 11 ≤ payload.length) :
    schemaWrites systemData payload venusRuntime.createData.tree =
      treeWrites (systemWrites payload) := by
  have low : ∀ leaf ∈ venusLeaves systemData, leaf.required ≤ 11 := by decide
  rw [schemaWrites_steady (by decide) fits fun leaf hleaf => .inl (low leaf hleaf)]
  rfl

private theorem schemaWrites_timer {payload : Bytes} (fits : 45 ≤ payload.length) :
    schemaWrites timerInformation payload venusRuntime.createData.tree =
      treeWrites (timerWrites payload) := by
  have low : ∀ leaf ∈ venusLeaves timerInformation, leaf.required ≤ 45 := by decide
  rw [schemaWrites_steady (by decide) fits fun leaf hleaf => .inl (low leaf hleaf)]
  rfl

/-- Below 60 bytes five leaves apply, below 100 two more, then all eighteen. -/
private theorem steps_runtime : ∀ leaf ∈ venusLeaves runtimeInformation,
    leaf.required ≤ 37 ∨ leaf.required = 60 ∨ leaf.required = 100 := by decide

private theorem schemaWrites_short {payload : Bytes} (fits : 37 ≤ payload.length)
    (short : payload.length < 60) :
    schemaWrites runtimeInformation payload venusRuntime.createData.tree =
      treeWrites (shortRuntimeWrites payload) := by
  rw [schemaWrites_steady (by decide) fits fun leaf hleaf => by
    have steps := steps_runtime leaf hleaf
    omega]
  rfl

private theorem schemaWrites_long {payload : Bytes} (fits : 60 ≤ payload.length)
    (short : payload.length < 100) :
    schemaWrites runtimeInformation payload venusRuntime.createData.tree =
      treeWrites (longRuntimeWrites payload) := by
  rw [schemaWrites_steady (by decide) fits fun leaf hleaf => by
    have steps := steps_runtime leaf hleaf
    omega]
  rfl

/-- The declared order of the long format, which puts the power rating earlier. -/
private def declaredRuntimeWrites (payload : Bytes) : List (LegacyField × Value) :=
  longRuntimeWrites payload ++ (extendedRuntimeWrites payload).take 4 ++
    (extendedRuntimeWrites payload).drop 10 ++ ((extendedRuntimeWrites payload).drop 4).take 6

private theorem latest_declared (payload : Bytes) (f : LegacyField) :
    latest f (declaredRuntimeWrites payload) =
      latest f (longRuntimeWrites payload ++ extendedRuntimeWrites payload) := by
  cases f <;> rfl

private theorem schemaWrites_extended {payload : Bytes} (fits : 100 ≤ payload.length) :
    schemaWrites runtimeInformation payload venusRuntime.createData.tree =
      treeWrites (declaredRuntimeWrites payload) := by
  rw [schemaWrites_steady (by decide) fits fun leaf hleaf => by
    have steps := steps_runtime leaf hleaf
    omega]
  rfl

private theorem schemaWrites_battery {payload : Bytes} (fits : 80 ≤ payload.length) :
    schemaWrites bmsData payload venusRuntime.createData.tree =
      treeWrites (batteryWrites payload ++ [cellWrite payload]) := by
  have low : ∀ leaf ∈ venusLeaves bmsData, leaf.required ≤ 80 := by decide
  let cells : LeafSource := ⟨flatPath .cellVoltages, 0,
    fieldSource 0x30 (integers .little (List.replicate 16 .H)) (divideEachBy 1000)⟩
  have raw : cells.source.rawAt payload 0 = .tuple (((List.range 16).map fun i =>
      integerAt .H payload (48 + i * 2)).map .int) := by
    have values := integerValues_replicate .H payload 16 48
    exact (single_of_length_ne_one (by simp [cells, fieldSource, integers])).trans
      (congrArg (fun ns : List Int => Value.tuple (ns.map .int)) values)
  have voltages : cells.decoded payload = (cellWrite payload).2 := by
    have converted : cells.source.converter (cells.source.rawAt payload 0) =
        .ok (cellWrite payload).2 := by
      rw [raw]
      refine (divideEachBy_tuple 1000 ((List.range 16).map fun i =>
        integerAt .H payload (48 + i * 2))).trans ?_
      rw [List.map_map]
      rfl
    rw [LeafSource.decoded, converted]
  rw [schemaWrites_steady (by decide) fits fun leaf hleaf => .inl (low leaf hleaf), treeWrites,
    List.map_append, List.map_singleton, ← voltages]
  rfl

private theorem schemaWrites_configuration {payload : Bytes} (fits : 17 ≤ payload.length) :
    schemaWrites configurationData payload venusRuntime.createData.tree =
      treeWrites (configWrites payload) := by
  have low : ∀ leaf ∈ venusLeaves configurationData, leaf.required ≤ 17 := by decide
  rw [schemaWrites_steady (by decide) fits fun leaf hleaf => .inl (low leaf hleaf)]
  rfl

private theorem schemaWrites_ctPollingRate {payload : Bytes} (fits : 1 ≤ payload.length) :
    schemaWrites ctPollingRate payload venusRuntime.createData.tree =
      treeWrites (ctPollingWrites payload) := by
  have low : ∀ leaf ∈ venusLeaves ctPollingRate, leaf.required ≤ 1 := by decide
  rw [schemaWrites_steady (by decide) fits fun leaf hleaf => .inl (low leaf hleaf)]
  rfl

/-! ### Text packets -/

private theorem ofList_beq (key : Text) (name : String) :
    (String.ofList key == name) = decide (key = name.toList) := by
  rw [Bool.eq_iff_iff, beq_iff_eq, decide_eq_true_iff]
  constructor
  · rintro rfl
    exact String.toList_ofList.symm
  · rintro rfl
    exact String.ofList_toList

private theorem lookup_deviceMapping (key : Text) :
    deviceMapping.lookup (String.ofList key) = (deviceField key).map LegacyField.name := by
  simp only [deviceMapping, List.lookup_cons, List.lookup_nil, ofList_beq, deviceField]
  split_ifs with type id sn mac firmware hw
  · rw [type]; rfl
  · rw [id]; rfl
  · rw [sn]; rfl
  · rw [mac]; rfl
  · rcases firmware with rfl | rfl | rfl <;> rfl
  · rw [hw]; rfl
  · push Not at firmware
    simp only [type, id, sn, mac, firmware, hw, decide_false, Option.map_none]

private theorem lookup_networkMapping (key : Text) :
    networkMapping.lookup (String.ofList key) = (networkField key).map LegacyField.name := by
  simp only [networkMapping, List.lookup_cons, List.lookup_nil, ofList_beq, networkField]
  split_ifs with ip gate mask dns
  · rw [ip]; rfl
  · rcases gate with rfl | rfl <;> rfl
  · rw [mask]; rfl
  · rw [dns]; rfl
  · push Not at gate
    simp only [ip, gate, mask, dns, decide_false, Option.map_none]

private theorem section_deviceField {key : Text} {field : LegacyField}
    (h : deviceField key = some field) : field.sectionName = "device" := by
  unfold deviceField at h
  split_ifs at h <;> cases h <;> rfl

private theorem section_networkField {key : Text} {field : LegacyField}
    (h : networkField key = some field) : field.sectionName = "network" := by
  unfold networkField at h
  split_ifs at h <;> cases h <;> rfl

/-- The two segment loops assign the same fields, if the key tables agree. -/
private theorem pairWrites_eq {mapping : List (String × String)} {sectionName : String}
    {fieldOf : Text → Option LegacyField} (tables : ∀ key,
      mapping.lookup (String.ofList key) = (fieldOf key).map LegacyField.name)
    (sections : ∀ {key field}, fieldOf key = some field → field.sectionName = sectionName)
    (separator : Char) (pairs : List Text) :
    pairWrites separator mapping sectionName pairs =
      treeWrites (segmentWrites separator fieldOf pairs) := by
  rw [treeWrites, segmentWrites, List.map_filterMap, pairWrites]
  refine List.filterMap_congr fun pair _ => ?_
  unfold segmentWrite
  cases splitOnce separator pair with
  | none => rfl
  | some e =>
    cases found : fieldOf (strip e.1) with
    | none => simp [tables, found]
    | some field => simp [tables, found, flatPath, sections found]

private theorem handles_deviceInformation {payload : Bytes} (fits : 1 ≤ payload.length) :
    Handles 0x04 payload true (deviceWrites payload) := by
  have same := pairWrites_eq lookup_deviceMapping section_deviceField '='
    (split ',' (decodeAsciiIgnore payload))
  have parsed := parseDeviceInformation_eq payload
  simp only [same] at parsed
  exact handles_decoder deviceInformation rfl rfl ⟨fits, by simp [deviceInformation]⟩ ⟨_, parsed⟩

private theorem handles_networkInformation (payload : Bytes) :
    Handles 0x24 payload true (networkWrites payload) := by
  have same := pairWrites_eq lookup_networkMapping section_networkField ':'
    (split ',' (strip (decodeAsciiIgnore payload)))
  have parsed := parseNetworkInformation_eq payload
  simp only [same] at parsed
  exact handles_decoder networkInformation rfl rfl
    ⟨Nat.zero_le _, by simp [networkInformation]⟩ ⟨_, parsed⟩

/-! ### One payload -/

/-- Both parsers give a payload the same answer and the same assignments. -/
def SameEffect (command : Byte) (payload : Bytes) : Prop :=
  ∃ answer us ws, (∀ timestamp, Yields (parseCommand command payload timestamp) answer us) ∧
    Handles command payload answer ws ∧ ∀ f, latest f ws = latest f us

section Commands

variable {command : Byte} {payload : Bytes}

private theorem sameEffect_accepted {us : List (LegacyField × Value)}
    (legacy : ∀ timestamp, Yields (parseCommand command payload timestamp) true us)
    (product : Handles command payload true us) : SameEffect command payload :=
  ⟨true, us, us, legacy, product, fun _ => rfl⟩

private theorem sameEffect_rejected
    (legacy : ∀ timestamp, parseCommand command payload timestamp = reject)
    (product : Handles command payload false []) : SameEffect command payload :=
  ⟨false, [], [], fun timestamp => legacy timestamp ▸ yields_reject, product, fun _ => rfl⟩

private theorem admits_of_le {packet : PacketSchema} (member : packet ∈ venusProfile.packets)
    (fits : packet.minimumLength ≤ payload.length) : packet.Admits payload.length := by
  have unlimited : ∀ packet ∈ venusProfile.packets, packet.maximumLength = none := by decide
  exact ⟨fits, by simp [unlimited packet member]⟩

private theorem rejects_of_lt {packet : PacketSchema}
    (short : payload.length < packet.minimumLength) : ¬ packet.Admits payload.length :=
  fun admits => absurd admits.1 (Nat.not_le.mpr short)

private theorem sameEffect_runtime : SameEffect 0x03 payload := by
  rcases Nat.lt_or_ge payload.length 37 with short | fits
  · exact sameEffect_rejected (fun t => (if_pos short : parseRuntimeInfo payload t = reject))
      (handles_rejected runtimeInformation rfl (rejects_of_lt short))
  have admits : runtimeInformation.Admits payload.length := admits_of_le (by decide) fits
  have legacy := fun timestamp => yields_runtimeInfo timestamp fits
  unfold runtimeWrites at legacy
  rcases Nat.lt_or_ge payload.length 60 with short | long
  · rw [if_pos short] at legacy
    exact sameEffect_accepted legacy
      (handles_schema runtimeInformation rfl rfl admits (schemaWrites_short fits short))
  rw [if_neg (Nat.not_lt.mpr long)] at legacy
  rcases Nat.lt_or_ge payload.length 100 with short | extended
  · rw [if_pos short] at legacy
    exact sameEffect_accepted legacy
      (handles_schema runtimeInformation rfl rfl admits (schemaWrites_long long short))
  · rw [if_neg (Nat.not_lt.mpr extended)] at legacy
    exact ⟨true, _, _, legacy,
      handles_schema runtimeInformation rfl rfl admits (schemaWrites_extended extended),
      latest_declared payload⟩

private theorem sameEffect_deviceInfo : SameEffect 0x04 payload := by
  rcases Nat.lt_or_ge payload.length 1 with short | fits
  · have empty : payload = [] := List.eq_nil_of_length_eq_zero (by omega)
    exact sameEffect_rejected (fun t => (if_pos empty : parseDeviceInfo payload t = reject))
      (handles_rejected deviceInformation rfl (rejects_of_lt short))
  · exact sameEffect_accepted (fun t => yields_deviceInfo t fits)
      (handles_deviceInformation fits)

private theorem sameEffect_wifiSsid : SameEffect 0x08 payload :=
  sameEffect_accepted (fun t => yields_wifiSsid t) (handles_decoder wifiSsid rfl rfl
    (admits_of_le (by decide) (Nat.zero_le _)) ⟨_, fun _ => rfl⟩)

private theorem sameEffect_systemData : SameEffect 0x0D payload := by
  rcases Nat.lt_or_ge payload.length 11 with short | fits
  · exact sameEffect_rejected (fun t => (if_pos short : parseSystemData payload t = reject))
      (handles_rejected systemData rfl (rejects_of_lt short))
  · exact sameEffect_accepted (fun t => yields_systemData t fits)
      (handles_schema systemData rfl rfl (admits_of_le (by decide) fits)
        (schemaWrites_system fits))

private theorem sameEffect_timerInfo : SameEffect 0x13 payload := by
  rcases Nat.lt_or_ge payload.length 45 with short | fits
  · exact sameEffect_rejected (fun t => (if_pos short : parseTimerInfo payload t = reject))
      (handles_rejected timerInformation rfl (rejects_of_lt short))
  · exact sameEffect_accepted (fun t => yields_timerInfo t fits)
      (handles_schema timerInformation rfl rfl (admits_of_le (by decide) fits)
        (schemaWrites_timer fits))

private theorem sameEffect_bmsData : SameEffect 0x14 payload := by
  rcases Nat.lt_or_ge payload.length 80 with short | fits
  · exact sameEffect_rejected (fun t => (if_pos short : parseBmsData payload t = reject))
      (handles_rejected bmsData rfl (rejects_of_lt short))
  · exact sameEffect_accepted (fun t => yields_bmsData t fits)
      (handles_schema bmsData rfl rfl (admits_of_le (by decide) fits)
        (schemaWrites_battery fits))

private theorem sameEffect_configData : SameEffect 0x1A payload := by
  rcases Nat.lt_or_ge payload.length 17 with short | fits
  · exact sameEffect_rejected (fun t => (if_pos short : parseConfigData payload t = reject))
      (handles_rejected configurationData rfl (rejects_of_lt short))
  · exact sameEffect_accepted (fun t => yields_configData t fits)
      (handles_schema configurationData rfl rfl (admits_of_le (by decide) fits)
        (schemaWrites_configuration fits))

private theorem sameEffect_meterIp : SameEffect 0x21 payload := by
  rcases Nat.lt_or_ge payload.length 1 with short | fits
  · have empty : payload = [] := List.eq_nil_of_length_eq_zero (by omega)
    exact sameEffect_rejected (fun t => (if_pos empty : parseMeterIp payload t = reject))
      (handles_rejected meterIp rfl (rejects_of_lt short))
  · exact sameEffect_accepted (fun t => yields_meterIp t fits) (handles_decoder meterIp rfl rfl
      (admits_of_le (by decide) fits) ⟨_, fun _ => rfl⟩)

private theorem sameEffect_ctPollingRate : SameEffect 0x22 payload := by
  rcases Nat.lt_or_ge payload.length 1 with short | fits
  · exact sameEffect_rejected (fun t => (if_pos short : parseCtPollingRate payload t = reject))
      (handles_rejected ctPollingRate rfl (rejects_of_lt short))
  · exact sameEffect_accepted (fun t => yields_ctPollingRate t fits)
      (handles_schema ctPollingRate rfl rfl (admits_of_le (by decide) fits)
        (schemaWrites_ctPollingRate fits))

private theorem sameEffect_networkInfo : SameEffect 0x24 payload :=
  sameEffect_accepted (fun t => yields_networkInfo t) (handles_networkInformation payload)

private theorem sameEffect_localApiStatus : SameEffect 0x28 payload := by
  rcases Nat.lt_or_ge payload.length 3 with short | fits
  · exact sameEffect_rejected (fun t => (if_pos short : parseLocalApiStatus payload t = reject))
      (handles_rejected localApiStatus rfl (rejects_of_lt short))
  · match payload, fits with
    | first :: rest, fits =>
      exact sameEffect_accepted (fun t => yields_localApiStatus t fits)
        (handles_decoder localApiStatus rfl rfl (admits_of_le (by decide) fits)
          ⟨_, parseLocalApiStatus_eq fits⟩)

private theorem parseCommand_unknown {command : Byte} (unknown : command ∉
    ([0x03, 0x04, 0x08, 0x0D, 0x13, 0x14, 0x1A, 0x21, 0x22, 0x24, 0x28] : List Byte))
    (payload : Bytes) (timestamp : ℚ) : parseCommand command payload timestamp = reject := by
  simp only [List.mem_cons, List.not_mem_nil, or_false, not_or] at unknown
  obtain ⟨h₁, h₂, h₃, h₄, h₅, h₆, h₇, h₈, h₉, h₁₀, h₁₁⟩ := unknown
  rw [parseCommand, if_neg h₁, if_neg h₂, if_neg h₃, if_neg h₄, if_neg h₅, if_neg h₆, if_neg h₇,
    if_neg h₈, if_neg h₉, if_neg h₁₀, if_neg h₁₁]

/-- Any other command byte has no packet and no branch. -/
private theorem sameEffect_other (unknown : ∀ packet ∈ venusProfile.packets,
    packet.command ≠ command) : SameEffect command payload := by
  have noPacket : venusRuntime.packetFor command = none :=
    List.find?_eq_none.mpr fun packet member => by simpa using unknown packet member
  have noParser : venusRuntime.parserFor command = none := by
    cases hparser : venusRuntime.parserFor command with
    | none => rfl
    | some parser =>
      obtain ⟨packet, found, _⟩ := venusRuntime_lawful.decodes command parser hparser
      rw [noPacket] at found
      cases found
  refine sameEffect_rejected (fun timestamp => parseCommand_unknown (fun member => ?_) _ _)
    ⟨.ok none, by simp, fun data inShape => parsePayload_none noPacket noParser payload inShape⟩
  obtain ⟨packet, listed, same⟩ := List.mem_map.mp
    (show command ∈ venusProfile.packets.map PacketSchema.command from member)
  exact unknown packet listed same

end Commands

theorem sameEffect (command : Byte) (payload : Bytes) : SameEffect command payload := by
  by_cases known : ∀ packet ∈ venusProfile.packets, packet.command ≠ command
  · exact sameEffect_other known
  · push Not at known
    obtain ⟨packet, member, rfl⟩ := known
    simp only [venusProfile, List.mem_cons, List.not_mem_nil, or_false] at member
    rcases member with rfl | rfl | rfl | rfl | rfl | rfl | rfl | rfl | rfl | rfl | rfl
    · exact sameEffect_runtime
    · exact sameEffect_deviceInfo
    · exact sameEffect_wifiSsid
    · exact sameEffect_systemData
    · exact sameEffect_timerInfo
    · exact sameEffect_bmsData
    · exact sameEffect_configData
    · exact sameEffect_meterIp
    · exact sameEffect_ctPollingRate
    · exact sameEffect_networkInfo
    · exact sameEffect_localApiStatus

/-! ### Simulation -/

/-- The two data objects hold the same value under every flat name. -/
structure Agree (legacy : MarstekData) (product : TrackedProductData) : Prop where
  ready : Ready legacy
  inShape : InShape venusRuntime product
  same : ∀ f, product.tree.valueAt (flatPath f) = some (legacy.attrs f)

theorem agree_fresh : Agree MarstekData.fresh venusRuntime.createData where
  ready := ⟨List.replicate 16 .none, rfl, rfl⟩
  inShape := inShape_createData venusRuntime
  same := fun f => by cases f <;> rfl

/-- The assignments of one payload keep the two objects in agreement. -/
private theorem Agree.assignAll {legacy after : MarstekData} {product : TrackedProductData}
    (agree : Agree legacy product) {us ws : List (LegacyField × Value)}
    (assigned : after.attrs = overwrite legacy.attrs us)
    (same : ∀ f, latest f ws = latest f us) (f : LegacyField) :
    (product.tree.assignAll (treeWrites ws)).valueAt (flatPath f) = some (after.attrs f) := by
  have leaves : ∀ w ∈ treeWrites ws, product.tree.IsLeaf w.1 := by
    intro w hw
    obtain ⟨u, _, rfl⟩ := List.mem_map.mp hw
    rw [Node.IsLeaf, agree.same u.1]
    rfl
  rw [Node.valueAt_assignAll leaves, treeWrites, latest_map flatPath_injective, same f,
    agree.same f, assigned, overwrite]
  cases latest f us <;> rfl


/-- One notification gets the same answer from both parsers and keeps the agreement. -/
theorem Agree.step {legacy : MarstekData} {product : TrackedProductData}
    (agree : Agree legacy product) (frame : Bytes) (legacyTime productTime : ℚ) :
    ∃ answer, (parseNotification frame legacyTime legacy).1 = .ok answer ∧
      (venusRuntime.parseNotification frame productTime product).1 = .ok answer ∧
      Agree (parseNotification frame legacyTime legacy).2
        (venusRuntime.parseNotification frame productTime product).2 := by
  have inShape := inShape_receive venusRuntime_lawful agree.inShape ⟨frame, productTime⟩
  rw [ProductRuntime.receive] at inShape
  rcases openFrame_eq frame with ⟨command, payload, _, opened⟩ | ⟨_, opened⟩
  · obtain ⟨answer, us, ws, yields, ⟨r, answers, handled⟩, same⟩ := sameEffect command payload
    obtain ⟨after, ran, assigned, ready⟩ := yields legacyTime legacy agree.ready
    have legacyResult : parseNotification frame legacyTime legacy = (.ok answer, after) := by
      simp only [parseNotification, opened, ran]
    have values := agree.assignAll assigned same
    have productResult : (venusRuntime.parseNotification frame productTime product).1 =
          .ok answer ∧ (venusRuntime.parseNotification frame productTime product).2.tree =
          product.tree.assignAll (treeWrites ws) := by
      have parsed := handled product agree.inShape
      cases r with
      | error e =>
        have no : answer = false := by simpa using answers
        simp only [ProductRuntime.parseNotification, opened, parsed, no, and_self]
      | ok reported => cases reported with
        | none =>
          have no : answer = false := by simpa using answers
          simp only [ProductRuntime.parseNotification, opened, parsed, no, and_self]
        | some paths =>
          have yes : answer = true := by simpa using answers
          have marked := markAll_eq command productTime payload paths
            { product with tree := product.tree.assignAll (treeWrites ws) }
          rw [markAll] at marked
          simp only [ProductRuntime.parseNotification, opened, parsed, yes, marked,
            TrackedProductData.withEntry_tree, and_self]
    rw [legacyResult]
    refine ⟨answer, rfl, productResult.1, ready, inShape, fun f => ?_⟩
    rw [productResult.2]
    exact values f
  · have legacyResult : parseNotification frame legacyTime legacy = (.ok false, legacy) := by
      simp only [parseNotification, opened]
    have productResult : venusRuntime.parseNotification frame productTime product =
        (.ok false, product) := by
      simp only [ProductRuntime.parseNotification, opened]
    rw [legacyResult, productResult]
    exact ⟨false, rfl, rfl, agree⟩

/-- A byte string fed to both parsers, with the clock reading of each. -/
structure Delivery where
  frame : Bytes
  legacyTime : ℚ
  productTime : ℚ

/-- The `MarstekData` a sequence of byte strings leaves. -/
def legacyAfter (seen : List Delivery) : MarstekData :=
  seen.foldl (fun data d => (parseNotification d.frame d.legacyTime data).2) MarstekData.fresh

/-- The `VenusData` the same sequence leaves. -/
def productAfter (seen : List Delivery) : TrackedProductData :=
  seen.foldl (fun data d => (venusRuntime.parseNotification d.frame d.productTime data).2)
    venusRuntime.createData

theorem agree_run (seen : List Delivery) : Agree (legacyAfter seen) (productAfter seen) := by
  have run : ∀ legacy product, Agree legacy product → Agree
      (seen.foldl (fun data d => (parseNotification d.frame d.legacyTime data).2) legacy)
      (seen.foldl (fun data d =>
        (venusRuntime.parseNotification d.frame d.productTime data).2) product) := by
    induction seen with
    | nil => exact fun _ _ agree => agree
    | cons d seen ih =>
      intro legacy product agree
      obtain ⟨answer, _, _, kept⟩ := agree.step d.frame d.legacyTime d.productTime
      exact ih _ _ kept
  exact run _ _ agree_fresh

/-- The two Venus parsers are observationally equal: after any byte strings every
flat field reads the same, and the next byte string gets the same answer. -/
theorem parsers_observationally_equal (seen : List Delivery) :
    (∀ field : LegacyField, Venus.getattr (productAfter seen) field.name =
      .ok ((legacyAfter seen).attrs field)) ∧
    ∀ next : Delivery, ∃ answer,
      (parseNotification next.frame next.legacyTime (legacyAfter seen)).1 = .ok answer ∧
      (venusRuntime.parseNotification next.frame next.productTime (productAfter seen)).1 =
        .ok answer := by
  have agree := agree_run seen
  refine ⟨fun field => ?_, fun next => ?_⟩
  · simp only [Venus.getattr, lookup_flatPath, agree.same field]
  · obtain ⟨answer, legacyAnswer, productAnswer, _⟩ :=
      agree.step next.frame next.legacyTime next.productTime
    exact ⟨answer, legacyAnswer, productAnswer⟩

end MarstekBle.Legacy
