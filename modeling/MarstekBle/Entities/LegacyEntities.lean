/- module: Entities/LegacyEntities
   source: custom_components/marstek_ble/sensor.py, binary_sensor.py
   digest: The flat Venus entities, and what the planned entities keep of them. -/

import MarstekBle.Entities.Evaluation
import MarstekBle.Entities.Manager
import MarstekBle.Legacy.Equivalence
import Mathlib.Data.List.Perm.Subperm

set_option autoImplicit false
set_option relaxedAutoImplicit false

namespace MarstekBle.Entities

open MarstekBle.Data MarstekBle.Schema MarstekBle.Product MarstekBle.Legacy
open MarstekBle.Lib.AttributeTree

/-! ### The flat entities -/

/-- `getattr` with a flat name, on either kind of data object. -/
abbrev FlatReader := String → Raises Value

/-- An entity that reads flat names. -/
structure FlatEntity where
  platform : EntityPlatform
  key : String
  name : String
  value : FlatReader → Raises Value

/-- `_LEGACY_SENSOR_SPECS`, keys and names. -/
def legacySensorSpecs : List (String × String) := [
  ("battery_voltage", "Battery Voltage"),
  ("battery_current", "Battery Current"),
  ("battery_soc", "Battery SOC"),
  ("battery_soh", "Battery SOH"),
  ("battery_temp", "Battery Temperature"),
  ("battery_power", "Battery Power"),
  ("grid_power", "Grid Power"),
  ("solar_power", "Solar Power"),
  ("battery_power_in", "Battery Power In"),
  ("battery_power_out", "Battery Power Out"),
  ("out1_power", "Output 1 Power"),
  ("daily_energy_charged", "Daily Energy Charged"),
  ("daily_energy_discharged", "Daily Energy Discharged"),
  ("monthly_energy_charged", "Monthly Energy Charged"),
  ("monthly_energy_discharged", "Monthly Energy Discharged"),
  ("total_energy_charged", "Total Energy Charged"),
  ("total_energy_discharged", "Total Energy Discharged"),
  ("design_capacity", "Design Capacity"),
  ("remaining_capacity", "Remaining Capacity"),
  ("available_capacity", "Available Capacity"),
  ("temp_low", "Temperature Low"),
  ("temp_high", "Temperature High"),
  ("mosfet_temp", "MOSFET Temperature"),
  ("temp_sensor_1", "Temperature Sensor 1"),
  ("temp_sensor_2", "Temperature Sensor 2"),
  ("temp_sensor_3", "Temperature Sensor 3"),
  ("temp_sensor_4", "Temperature Sensor 4"),
  ("system_status", "System Status"),
  ("config_mode", "Config Mode"),
  ("ct_polling_rate", "CT Polling Rate"),
  ("work_mode", "Work Mode"),
  ("product_code", "Product Code"),
  ("power_rating", "Power Rating"),
  ("bms_version", "BMS Version"),
  ("voltage_limit", "Voltage Limit"),
  ("charge_current_limit", "Charge Current Limit"),
  ("discharge_current_limit", "Discharge Current Limit"),
  ("error_code", "Error Code"),
  ("warning_code", "Warning Code"),
  ("runtime_hours", "Runtime")]

/-- `_LEGACY_TEXT_SPECS`. -/
def legacyTextSpecs : List (String × String) := [
  ("battery_state", "Battery State"),
  ("device_type", "Device Type"),
  ("device_id", "Device ID"),
  ("serial_number", "Serial Number"),
  ("mac_address", "MAC Address"),
  ("firmware_version", "Firmware Version"),
  ("hardware_version", "Hardware Version"),
  ("wifi_ssid", "WiFi SSID"),
  ("network_info", "Network Info"),
  ("ip_address", "IP Address"),
  ("gateway", "Gateway"),
  ("subnet_mask", "Subnet Mask"),
  ("dns_server", "DNS Server"),
  ("meter_ip", "Meter IP")]

/-- `_LEGACY_BINARY_SPECS`. -/
def legacyBinarySpecs : List (String × String) := [
  ("wifi_connected", "WiFi Connected"),
  ("mqtt_connected", "MQTT Connected"),
  ("out1_active", "Output 1 Active"),
  ("extern1_connected", "External 1 Connected"),
  ("smart_meter_connected", "Smart Meter Connected")]

section Values

variable (read : FlatReader)

/-- `data.battery_voltage * data.battery_current`, if both are known. -/
def flatPower : Raises Value := do
  let voltage ← read "battery_voltage"
  let current ← read "battery_current"
  match voltage, current with
  | .none, _ => pure .none
  | _, .none => pure .none
  | voltage, current => multiply voltage current

def flatCapacity (available : Bool) : Raises Value := do
  let soc ← read "battery_soc"
  let capacity ← read "design_capacity"
  match soc, capacity with
  | .none, _ => pure .none
  | _, .none => pure .none
  | soc, capacity => match soc.toRat?, capacity.toRat? with
    | some s, some c => pure (.float ((if available then 100 - s else s) / 100 * c))
    | _, _ => .error (unsupported "/")

def flatState : Raises Value := do
  match ← flatPower read with
  | .none => pure (.str "inactive".toList)
  | power => match power.toRat? with
    | some p => pure (.str (if 5 < p then "charging" else if p < -5 then "discharging"
        else "inactive").toList)
    | none => .error (unsupported ">")

/-- `_legacy_value`. -/
def legacyValue (key : String) : Raises Value :=
  match key with
  | "battery_power" => flatPower read
  | "battery_power_in" => do
    match ← flatPower read with
    | .none => pure .none
    | power => atLeastZero power
  | "battery_power_out" => do
    match ← flatPower read with
    | .none => pure .none
    | power => do atLeastZero (← negate power)
  | "remaining_capacity" => flatCapacity read false
  | "available_capacity" => flatCapacity read true
  | "battery_state" => flatState read
  | key => read key

/-- The voltage of a cell, if the list reaches so far. -/
def legacyCell (idx : Nat) : Raises Value := do
  match ← read "cell_voltages" with
  | .list cells => pure (cells[idx]?.getD .none)
  | .none => pure .none
  | _ => .error (unsupported "[]")

/-- `native_value` of a text sensor. -/
def legacyText (str : Value → Text) (key : String) : Raises Value := do
  match ← legacyValue read key with
  | .none => pure .none
  | value => pure (.str (str value))

end Values

/-- `str()` of a text is the text. -/
structure TextPrinter where
  str : Value → Text
  str_text : ∀ text, str (.str text) = text

def batteryState (printer : TextPrinter) : FlatEntity :=
  ⟨.sensor, "battery_state", "Battery State",
    fun read => legacyText read printer.str "battery_state"⟩

/-- The sixteen sensors of the cells. -/
def legacyCells : List FlatEntity := (List.range 16).map fun index =>
  ⟨.sensor, "cell_" ++ toString (index + 1) ++ "_voltage",
    "Cell " ++ toString (index + 1) ++ " Voltage", fun read => legacyCell read index⟩

/-- `_setup_legacy_sensors` and `_setup_legacy_binary_sensors`. -/
def legacyEntities (printer : TextPrinter) : List FlatEntity :=
  legacySensorSpecs.map (fun spec =>
    ⟨.sensor, spec.1, spec.2, fun read => legacyValue read spec.1⟩) ++ legacyCells ++
  legacyTextSpecs.map (fun spec =>
    ⟨.sensor, spec.1, spec.2, fun read => legacyText read printer.str spec.1⟩) ++
  legacyBinarySpecs.map fun spec => ⟨.binarySensor, spec.1, spec.2, fun read => read spec.1⟩

/-! ### What is shown -/

def legacyFields : List LegacyField :=
  [.out1Power, .tempLow, .tempHigh, .wifiConnected, .mqttConnected, .out1Active, .extern1Connected,
    .gridPower, .solarPower, .workMode, .productCode, .powerRating, .dailyEnergyCharged,
    .dailyEnergyDischarged, .monthlyEnergyCharged, .monthlyEnergyDischarged, .totalEnergyCharged,
    .totalEnergyDischarged, .deviceType, .deviceId, .serialNumber, .macAddress, .firmwareVersion,
    .hardwareVersion, .wifiSsid, .systemStatus, .systemValue1, .systemValue2, .systemValue3,
    .systemValue4, .systemValue5, .adaptiveModeEnabled, .smartMeterConnected, .adaptivePowerOut,
    .batterySoc, .batterySoh, .designCapacity, .batteryVoltage, .batteryCurrent, .batteryTemp,
    .cellVoltages, .bmsVersion, .voltageLimit, .chargeCurrentLimit, .dischargeCurrentLimit,
    .errorCode, .warningCode, .runtimeHours, .mosfetTemp, .tempSensor1, .tempSensor2, .tempSensor3,
    .tempSensor4, .configMode, .configStatus, .configValue, .meterIp, .ctPollingRate, .networkInfo,
    .ipAddress, .gateway, .subnetMask, .dnsServer, .localApiStatus]

/-- `getattr(data, name)` on a `MarstekData`. -/
def flatAttribute (data : MarstekData) : FlatReader := fun name =>
  match legacyFields.find? fun field => field.name = name with
  | some field => .ok (data.attrs field)
  | none => .error ⟨.attributeError, name⟩

/-- What the replacement keeps of an entity. Its availability, unit, precision, category and
classes are not part of it. -/
structure ShownEntity where
  platform : EntityPlatform
  key : String
  name : Option String
  value : Raises DataTree

def FlatEntity.shown (entity : FlatEntity) (read : FlatReader) : ShownEntity :=
  ⟨entity.platform, entity.key, some entity.name, (entity.value read).map .value⟩

/-- The entity of a binding, as the manager registers it. -/
def EntityBinding.shown (binding : EntityBinding) (data : TrackedProductData) : ShownEntity :=
  ⟨binding.platform, liveKey binding, binding.description.name,
    (liveBinding binding).valueFrom data.tree⟩

/-- The flat entities of a `MarstekData`. -/
def legacyShown (printer : TextPrinter) (data : MarstekData) : List ShownEntity :=
  (legacyEntities printer).map fun entity => entity.shown (flatAttribute data)

/-- The entities of a `VenusData`: those of the plan, and the one that is still flat. -/
def venusShown (printer : TextPrinter) (data : TrackedProductData) (plan : EntityPlan) :
    List ShownEntity :=
  (plan.entities.map fun binding => binding.shown data) ++
    [(batteryState printer).shown (Venus.getattr data)]

/-! ### One reader for both objects -/

private theorem mem_legacyFields (field : LegacyField) : field ∈ legacyFields := by
  cases field <;> decide

private theorem find_legacyField (field : LegacyField) :
    (legacyFields.find? fun other => other.name = field.name) = some field := by
  have all : ∀ field ∈ legacyFields,
      (legacyFields.find? fun other => other.name = field.name) = some field := by
    decide
  exact all field (mem_legacyFields field)

private theorem name_of_lookup {name : String} {path : DataPath}
    (known : Venus.flatFieldPaths.lookup name = some path) :
    ∃ field : LegacyField, field.name = name := by
  have all : ∀ e ∈ Venus.flatFieldPaths, ∃ field ∈ legacyFields, field.name = e.1 := by
    decide +kernel
  obtain ⟨before, after, whole, _⟩ := List.lookup_eq_some_iff.mp known
  have member : (name, path) ∈ Venus.flatFieldPaths := by
    rw [whole]
    exact List.mem_append_right before List.mem_cons_self
  obtain ⟨field, _, same⟩ := all _ member
  exact ⟨field, same⟩

theorem flatAttribute_name (data : MarstekData) (field : LegacyField) :
    flatAttribute data field.name = .ok (data.attrs field) := by
  simp only [flatAttribute, find_legacyField]

/-- Objects that agree read the same under every name. -/
theorem flatAttribute_eq {legacy : MarstekData} {product : TrackedProductData}
    (agree : Agree legacy product) : flatAttribute legacy = Venus.getattr product := by
  funext name
  cases known : Venus.flatFieldPaths.lookup name with
  | none =>
    have unnamed : (legacyFields.find? fun field => field.name = name) = none := by
      rw [List.find?_eq_none]
      intro field _ same
      obtain rfl := of_decide_eq_true same
      rw [lookup_flatPath] at known
      cases known
    simp only [flatAttribute, unnamed, Venus.getattr, known]
  | some path =>
    obtain ⟨field, rfl⟩ := name_of_lookup known
    simp only [flatAttribute, find_legacyField, Venus.getattr, lookup_flatPath, agree.same field]

/-! ### Plans without repeated sections -/

universe u

section Sectionless

variable {V : Type u}

mutual

/-- No field of the object, or of one inside it, is a repeated section. -/
def sectionless : Node FieldDef V → Bool
  | .record fields => sectionlessFields fields
  | _ => true
termination_by structural t => t

def sectionlessFields : List (FieldDef × Node FieldDef V) → Bool
  | [] => true
  | (field, value) :: rest =>
    field.repeatedSection.isNone && sectionless value && sectionlessFields rest
termination_by structural fields => fields

end

private theorem sectionless_map {W : Type u} (g : V → W) (t : Node FieldDef V) :
    sectionless (t.map g) = sectionless t := by
  refine Node.induct (P := fun t => sectionless (t.map g) = sectionless t)
    (Q := fun fields => sectionlessFields (mapFields g fields) = sectionlessFields fields)
    (R := fun _ => True) ?value ?items ?record ?noFields ?field ?noItems ?item t
  case value => exact fun _ => rfl
  case items => exact fun _ _ => rfl
  case record => exact fun _ hfields => hfields
  case noFields => rfl
  case field =>
    intro field value rest hvalue hrest
    rw [mapFields, sectionlessFields, sectionlessFields, hvalue, hrest]
  case noItems => trivial
  case item => exact fun _ _ _ _ => trivial

theorem sectionless_congr {t u : DataTree} (same : t.shape = u.shape) :
    sectionless t = sectionless u := by
  rw [← sectionless_map (fun _ => ()) t, ← sectionless_map (fun _ => ()) u]
  exact congrArg sectionless same

variable {configuredCounts : List (String × Int)}

/-- Without repeated sections a plan lists the whole catalogue. -/
theorem collect_eq_catalogue (t : DataTree) (scope : Scope) {collected : Collected}
    (flat : sectionless t = true) (built : collect configuredCounts scope t = .ok collected) :
    collected.entities = catalogue scope t := by
  refine (Node.induct_items
    (O := fun t => ∀ scope collected, sectionless t = true →
      collect configuredCounts scope t = .ok collected → collected.entities = catalogue scope t)
    (Q := fun fields => ∀ scope parent collected, sectionlessFields fields = true →
      collectFields configuredCounts scope parent fields = .ok collected →
        collected.entities = catalogueFields scope fields)
    (I := fun _ => True) ?value ?items ?record ?noFields ?field ?noItems ?item t).1
    scope collected flat built
  case value => exact fun _ _ _ _ built => by cases built
  case items => exact fun _ _ _ _ built => by cases built
  case record =>
    intro fields hfields scope collected flat built
    rw [catalogue]
    exact hfields scope fields collected (by rwa [sectionless] at flat) built
  case noFields =>
    intro scope parent collected _ built
    obtain rfl := Except.ok.inj built
    rfl
  case field =>
    intro field value rest hvalue _ hrest scope parent collected flat built
    rw [sectionlessFields, Bool.and_eq_true, Bool.and_eq_true, Option.isNone_iff_eq_none] at flat
    obtain ⟨⟨single, inner⟩, later⟩ := flat
    rw [collectFields_cons] at built
    obtain ⟨indexed, hindexed, built⟩ := bind_eq_ok_iff.mp built
    obtain ⟨nested, hnested, built⟩ := bind_eq_ok_iff.mp built
    obtain ⟨others, hothers, finished⟩ := bind_eq_ok_iff.mp built
    obtain rfl := Except.ok.inj finished
    obtain rfl := collectIndexed_eq hindexed
    have here : nested.entities =
        catalogue { scope with path := scope.path ++ [.attr field.name] } value := by
      simp only [collectNested, single] at hnested
      cases value with
      | record fields => exact hvalue _ _ inner hnested
      | value c =>
        obtain rfl := Except.ok.inj hnested
        rfl
      | items members =>
        obtain rfl := Except.ok.inj hnested
        rfl
    rw [catalogueFields]
    simp only [Collected.append, single, here, hrest scope parent others later hothers]
  case noItems => trivial
  case item => exact fun _ _ _ _ => trivial

end Sectionless

/-! ### Texts -/

namespace Venus

open MarstekBle.Product.Venus

/-- The leaves that text sensors show. -/
def textPaths : List DataPath :=
  venusDeviceInformation.map (fun e => [.attr "device", .attr e.1.name]) ++
    venusNetworkData.map fun e => [.attr "network", .attr e.1.name]

/-- A leaf that a text sensor shows holds a text or nothing. -/
def Textual (p : DataPath) (v : Value) : Prop := p ∈ textPaths → v = .none ∨ ∃ text, v = .str text

private theorem textual_pairs {mapping : List (String × String)} {sectionName : String}
    {separator : Char} {pairs : List Text} {u : DataPath × Value}
    (written : u ∈ pairWrites separator mapping sectionName pairs) : Textual u.1 u.2 := by
  obtain ⟨_, _, _, text, value⟩ := pairWrites_path written
  exact fun _ => .inr ⟨text, value⟩

private theorem pairs_isLeaf {mapping : List (String × String)} {sectionName : String}
    (leaves : ∀ name ∈ mapping.map Prod.snd,
      venusRuntime.createData.tree.IsLeaf [.attr sectionName, .attr name])
    {separator : Char} {pairs : List Text} {u : DataPath × Value}
    (written : u ∈ pairWrites separator mapping sectionName pairs) :
    venusRuntime.createData.tree.IsLeaf u.1 := by
  obtain ⟨name, mapped, path, _⟩ := pairWrites_path written
  rw [path]
  exact leaves name mapped

theorem respects_textual : Respects venusRuntime Textual where
  fresh := by
    intro p v held listed
    have unset : ∀ p ∈ textPaths, ∀ v ∈ venusRuntime.createData.tree.valueAt p,
        Legacy.Value.isNone v = true := by
      decide
    have none_ := unset p listed v held
    cases v with
    | none => exact .inl rfl
    | _ => cases none_
  sources := by
    intro packet declared leaf member payload _ listed
    have apart : ∀ packet ∈ venusRuntime.profile.packets,
        ∀ leaf ∈ leafSources packet venusRuntime.createData.tree, leaf.path ∉ textPaths := by
      decide
    exact absurd listed (apart packet declared leaf member)
  decoders := of_parserFor fun e registered packet found payload admits => by
    have single : ∀ (path : DataPath) (text : Text), venusRuntime.createData.tree.IsLeaf path →
        ∀ u ∈ [(path, Value.str text)],
          venusRuntime.createData.tree.IsLeaf u.1 ∧ Textual u.1 u.2 := by
      intro path text leaf u written
      obtain rfl := List.mem_singleton.mp written
      exact ⟨leaf, fun _ => .inr ⟨text, rfl⟩⟩
    simp only [venusRuntime, List.mem_cons, List.not_mem_nil, or_false] at registered
    rcases registered with rfl | rfl | rfl | rfl | rfl
    · refine ⟨pairWrites '=' deviceMapping "device" (split ',' (decodeAsciiIgnore payload)),
        fun u written => ⟨pairs_isLeaf (by decide) written, textual_pairs written⟩,
        fun tree => congrArg Prod.snd (parseDeviceInformation_eq payload tree)⟩
    · exact ⟨_, single [.attr "network", .attr "wifi_ssid"] _ (by decide), fun tree => rfl⟩
    · exact ⟨_, single [.attr "network", .attr "meter_ip"] _ (by decide), fun tree => rfl⟩
    · have leaf : venusRuntime.createData.tree.IsLeaf
          [.attr "network", .attr "network_info"] := by decide
      refine ⟨([.attr "network", .attr "network_info"], .str (strip (decodeAsciiIgnore payload))) ::
          pairWrites ':' networkMapping "network" (split ',' (strip (decodeAsciiIgnore payload))),
        fun u written => ?_,
        fun tree => congrArg Prod.snd (parseNetworkInformation_eq payload tree)⟩
      rcases List.mem_cons.mp written with rfl | later
      · exact ⟨leaf, fun _ => .inr ⟨_, rfl⟩⟩
      · exact ⟨pairs_isLeaf (by decide) later, textual_pairs later⟩
    · obtain rfl : packet = localApiStatus := Option.some.inj (found.symm.trans rfl)
      have fits := admits.1
      cases payload with
      | nil => cases fits
      | cons first rest =>
        exact ⟨_, single [.attr "network", .attr "local_api_status"] _ (by decide),
          fun tree => congrArg Prod.snd (parseLocalApiStatus_eq fits tree)⟩

theorem textual_receiveAll (ns : List Notification) :
    (venusRuntime.receiveAll venusRuntime.createData ns).tree.Obeys Textual :=
  (obeys_receiveAll (g := fun _ => ()) venusRuntime_lawful respects_textual
    (fun _ _ _ _ _ => rfl) ns (inShape_createData venusRuntime) respects_textual.fresh).1

/-! ### The plan -/

/-- After any notifications the plan lists the whole catalogue. -/
theorem plan_receiveAll (ns : List Notification) : ∃ plan,
    venusEntityProfile.buildEntityPlan (venusRuntime.receiveAll venusRuntime.createData ns) =
      .ok plan ∧ plan.entities = venusEntityProfile.catalogue := by
  have inShape := inShape_receiveAll venusRuntime_lawful (inShape_createData venusRuntime) ns
  obtain ⟨_, lengths, _⟩ := kept_receiveAll venusRuntime_lawful respects_measured ns
  generalize venusRuntime.receiveAll venusRuntime.createData ns = data at inShape lengths
  have readable : CountsReadable data.tree := by
    intro p hp
    have same : countPaths data.tree = countPaths venusRuntime.createData.tree := by
      rw [← countPaths_map Value.listLength data.tree, lengths, countPaths_map]
    have none_ : countPaths venusRuntime.createData.tree = [] := by decide
    rw [same, none_] at hp
    cases hp
  have room : roomy (data.tree.map Value.listLength) = true := by
    rw [lengths]
    decide
  obtain ⟨collected, walked⟩ := collect_finishes
    (wellFormed_congr inShape.shape.symm venusRuntime_lawful.wellFormed) room readable
    venusEntityProfile.rootScope
  have flat : sectionless data.tree = true := by
    rw [sectionless_congr inShape.shape]
    decide
  have listed := collect_eq_catalogue data.tree venusEntityProfile.rootScope flat walked
  rw [catalogue_congr inShape.shape] at listed
  have named : data.dataType.name = venusEntityProfile.dataType.name := by
    rw [inShape.dataType]
    rfl
  unfold EntityProfile.buildEntityPlan
  rw [if_neg (not_not.mpr named), walked]
  refine ⟨_, rfl, ?_⟩
  show collected.entities ++ _ = _
  rw [listed]
  rfl

/-! ### The same entities -/

theorem valueFrom_liveBinding (binding : EntityBinding) (data : DataTree) :
    (liveBinding binding).valueFrom data = binding.valueFrom data := by
  unfold liveBinding
  split
  · split <;> rfl
  · rfl

/-- The entities that show the field of their key. -/
def plainEntities : List (EntityPlatform × String × String) :=
  (legacySensorSpecs.filter fun spec => (flatFieldPaths.lookup spec.1).isSome).map
      (fun spec => (.sensor, spec)) ++
    (legacyTextSpecs.filter fun spec => (flatFieldPaths.lookup spec.1).isSome).map
      (fun spec => (.sensor, spec)) ++
    legacyBinarySpecs.map fun spec => (.binarySensor, spec)

/-- The binding reads a path as it is, for an entity of the given key and name. -/
def ReadsAt (binding : EntityBinding) (platform : EntityPlatform) (key name : String)
    (path : Option DataPath) : Prop :=
  (binding.platform = platform ∧ liveKey binding = key ∧ binding.description.name = some name) ∧
    binding.valueFn.isNone = true ∧ binding.path = path ∧ path.isSome = true

instance (binding : EntityBinding) (platform : EntityPlatform) (key name : String)
    (path : Option DataPath) : Decidable (ReadsAt binding platform key name path) :=
  inferInstanceAs (Decidable (_ ∧ _))

set_option maxRecDepth 20000 in
private theorem plain_planned : ∀ spec ∈ plainEntities, ∃ binding ∈ venusEntityProfile.catalogue,
    ReadsAt binding spec.1 spec.2.1 spec.2.2 (flatFieldPaths.lookup spec.2.1) := by
  decide

set_option maxRecDepth 20000 in
private theorem cells_planned : ∀ index ∈ List.range 16,
    ∃ binding ∈ venusEntityProfile.catalogue, ReadsAt binding .sensor
      ("cell_" ++ toString (index + 1) ++ "_voltage")
      ("Cell " ++ toString (index + 1) ++ " Voltage")
      (some [.attr "battery", .attr "cell_voltages", .index index]) := by
  decide

section Shown

variable {legacy : MarstekData} {product : TrackedProductData}

/-- Every flat name reads the leaf it stands for. -/
theorem getattr_of_lookup (agree : Agree legacy product) {name : String} {path : DataPath}
    (known : flatFieldPaths.lookup name = some path) :
    ∃ v, product.tree.valueAt path = some v ∧ Product.Venus.getattr product name = .ok v := by
  obtain ⟨field, rfl⟩ := name_of_lookup known
  obtain rfl := Option.some.inj ((lookup_flatPath field).symm.trans known)
  refine ⟨legacy.attrs field, agree.same field, ?_⟩
  simp only [Product.Venus.getattr, known, agree.same field]

theorem readValue_eq (agree : Agree legacy product) {name : String} {path : DataPath}
    (known : flatFieldPaths.lookup name = some path) :
    readValue product.tree path = Product.Venus.getattr product name := by
  obtain ⟨v, held, read⟩ := getattr_of_lookup agree known
  rw [readValue, resolve_of_valueAt held, read]
  rfl

theorem shown_of_readsAt (agree : Agree legacy product) {binding : EntityBinding}
    {platform : EntityPlatform} {key name : String}
    (reads : ReadsAt binding platform key name (flatFieldPaths.lookup key)) :
    binding.shown product =
      ⟨platform, key, some name, (Product.Venus.getattr product key).map .value⟩ := by
  obtain ⟨⟨rfl, rfl, named⟩, direct, at_, isSome⟩ := reads
  obtain ⟨path, known⟩ := Option.isSome_iff_exists.mp isSome
  obtain ⟨v, held, read⟩ := getattr_of_lookup agree known
  rw [Option.isNone_iff_eq_none] at direct
  rw [known] at at_
  rw [EntityBinding.shown, valueFrom_liveBinding, EntityBinding.valueFrom, direct, at_, named, read]
  simp only [resolve_of_valueAt held]
  rfl

theorem legacyValue_of_lookup (read : FlatReader) {key : String}
    (known : (flatFieldPaths.lookup key).isSome = true) : legacyValue read key = read key := by
  unfold legacyValue
  split <;> first | rfl | exact absurd known (by decide)

theorem flatPower_eq (agree : Agree legacy product) :
    batteryPower voltagePath currentPath product.tree =
      flatPower (Product.Venus.getattr product) := by
  have voltage := readValue_eq agree (show flatFieldPaths.lookup "battery_voltage" =
    some voltagePath by decide)
  have current := readValue_eq agree (show flatFieldPaths.lookup "battery_current" =
    some currentPath by decide)
  rw [batteryPower, voltage, current]
  rfl

theorem flatCapacity_eq (agree : Agree legacy product) (available : Bool) :
    capacity available product.tree = flatCapacity (Product.Venus.getattr product) available := by
  have soc := readValue_eq agree (show flatFieldPaths.lookup "battery_soc" =
    some socPath by decide)
  have design := readValue_eq agree (show flatFieldPaths.lookup "design_capacity" =
    some capacityPath by decide)
  rw [capacity, soc, design]
  rfl

theorem shown_of_valueFn (spec : DerivedEntitySpec) :
    (venusEntityProfile.derivedEntity spec).shown product =
      ⟨spec.platform, liveKey (venusEntityProfile.derivedEntity spec), spec.description.name,
        (spec.valueFn product.tree).map .value⟩ := by
  rw [EntityBinding.shown, valueFrom_liveBinding]
  rfl

/-- The calculated entities calculate the same. -/
theorem derived_shown (agree : Agree legacy product) (spec : String × String)
    (listed : spec ∈ legacySensorSpecs) (calculated : flatFieldPaths.lookup spec.1 = none) :
    ∃ binding ∈ venusEntityProfile.catalogue, binding.shown product =
      ⟨.sensor, spec.1, some spec.2,
        (legacyValue (Product.Venus.getattr product) spec.1).map .value⟩ := by
  have only : ∀ spec ∈ legacySensorSpecs, flatFieldPaths.lookup spec.1 = none →
      spec ∈ [("battery_power", "Battery Power"), ("battery_power_in", "Battery Power In"),
        ("battery_power_out", "Battery Power Out"), ("remaining_capacity", "Remaining Capacity"),
        ("available_capacity", "Available Capacity")] := by
    decide
  have member : ∀ index (below : index < venusEntityProfile.derivedEntities.length),
      venusEntityProfile.derivedEntity venusEntityProfile.derivedEntities[index] ∈
        venusEntityProfile.catalogue := fun index below =>
    List.mem_append_right _ (List.mem_map_of_mem (List.getElem_mem below))
  have which := only spec listed calculated
  simp only [List.mem_cons, List.not_mem_nil, or_false] at which
  rcases which with rfl | rfl | rfl | rfl | rfl
  · refine ⟨_, member 0 (by decide), (shown_of_valueFn _).trans ?_⟩
    show (⟨.sensor, _, _, (batteryPower voltagePath currentPath product.tree).map .value⟩ :
      ShownEntity) = _
    rw [flatPower_eq agree]
    rfl
  · refine ⟨_, member 1 (by decide), (shown_of_valueFn _).trans ?_⟩
    show (⟨.sensor, _, _, (batteryPowerIn voltagePath currentPath product.tree).map .value⟩ :
      ShownEntity) = _
    rw [batteryPowerIn, flatPower_eq agree]
    rfl
  · refine ⟨_, member 2 (by decide), (shown_of_valueFn _).trans ?_⟩
    show (⟨.sensor, _, _, (batteryPowerOut voltagePath currentPath product.tree).map .value⟩ :
      ShownEntity) = _
    rw [batteryPowerOut, flatPower_eq agree]
    rfl
  · refine ⟨_, member 3 (by decide), (shown_of_valueFn _).trans ?_⟩
    show (⟨.sensor, _, _, (capacity false product.tree).map .value⟩ : ShownEntity) = _
    rw [flatCapacity_eq agree]
    rfl
  · refine ⟨_, member 4 (by decide), (shown_of_valueFn _).trans ?_⟩
    show (⟨.sensor, _, _, (capacity true product.tree).map .value⟩ : ShownEntity) = _
    rw [flatCapacity_eq agree]
    rfl

/-- Where only texts are held, `str` changes nothing. -/
theorem legacyText_eq (printer : TextPrinter) (agree : Agree legacy product)
    (texts : product.tree.Obeys Textual) {key : String}
    (textual : ∃ path ∈ textPaths, flatFieldPaths.lookup key = some path) :
    legacyText (Product.Venus.getattr product) printer.str key =
      Product.Venus.getattr product key := by
  obtain ⟨path, listed, known⟩ := textual
  obtain ⟨v, held, read⟩ := getattr_of_lookup agree known
  have isSome : (flatFieldPaths.lookup key).isSome = true := by rw [known]; rfl
  rw [legacyText, legacyValue_of_lookup _ isSome, read]
  rcases texts path v held listed with rfl | ⟨text, rfl⟩
  · rfl
  · show Except.ok (Value.str (printer.str (.str text))) = _
    rw [printer.str_text]

/-- An item of the list of cells is what the flat entity of the cell shows. -/
theorem cell_shown (agree : Agree legacy product) {index : Nat} (below : index < 16)
    {binding : EntityBinding} {key name : String}
    (reads : ReadsAt binding .sensor key name
      (some [.attr "battery", .attr "cell_voltages", .index index])) :
    binding.shown product = ⟨.sensor, key, some name,
      (legacyCell (Product.Venus.getattr product) index).map .value⟩ := by
  obtain ⟨⟨platform, rfl, named⟩, direct, path, _⟩ := reads
  obtain ⟨cells, filled, sixteen⟩ := agree.ready
  have held : product.tree.valueAt [.attr "battery", .attr "cell_voltages"] =
      some (.list cells) := filled ▸ agree.same .cellVoltages
  have read : Product.Venus.getattr product "cell_voltages" = .ok (.list cells) := by
    rw [← flatAttribute_eq agree, ← filled]
    exact flatAttribute_name legacy .cellVoltages
  have inside : index < cells.length := sixteen ▸ below
  have item : resolve product.tree
      ([.attr "battery", .attr "cell_voltages"] ++ [.index index]) =
        .ok (.value cells[index]) := by
    rw [resolve_append, resolve_of_valueAt held]
    simp [resolve, subscript, List.getElem?_eq_getElem inside]
  rw [Option.isNone_iff_eq_none] at direct
  rw [EntityBinding.shown, valueFrom_liveBinding, EntityBinding.valueFrom, direct, path, named,
    platform, legacyCell, read]
  refine congrArg (ShownEntity.mk _ _ _) (item.trans ?_)
  show _ = Except.ok (Node.value (cells[index]?.getD .none))
  rw [List.getElem?_eq_getElem inside]
  rfl

variable {plan : EntityPlan} (printer : TextPrinter)

private theorem mem_venusShown (product : TrackedProductData) {binding : EntityBinding}
    (whole : plan.entities = venusEntityProfile.catalogue)
    (member : binding ∈ venusEntityProfile.catalogue) :
    binding.shown product ∈ venusShown printer product plan :=
  List.mem_append_left _ (List.mem_map.mpr ⟨binding, whole ▸ member, rfl⟩)

/-- Whatever a flat entity shows, one of the entities that replace them shows. -/
theorem flat_mem_venusShown (agree : Agree legacy product) (texts : product.tree.Obeys Textual)
    (whole : plan.entities = venusEntityProfile.catalogue) {entity : FlatEntity}
    (listed : entity ∈ legacyEntities printer) :
    entity.shown (Product.Venus.getattr product) ∈ venusShown printer product plan := by
  simp only [legacyEntities, List.mem_append, List.mem_map] at listed
  rcases listed with ((⟨spec, declared, rfl⟩ | cell) | ⟨spec, declared, rfl⟩) |
    ⟨spec, declared, rfl⟩
  · cases known : flatFieldPaths.lookup spec.1 with
    | none =>
      obtain ⟨binding, member, shows⟩ := derived_shown agree spec declared known
      have planned := mem_venusShown printer product whole member
      rwa [shows] at planned
    | some path =>
      have isSome : (flatFieldPaths.lookup spec.1).isSome = true := by rw [known]; rfl
      obtain ⟨binding, member, reads⟩ := plain_planned (.sensor, spec) <|
        List.mem_append_left _ <| List.mem_append_left _ <|
          List.mem_map_of_mem (List.mem_filter.mpr ⟨declared, isSome⟩)
      show (⟨.sensor, spec.1, some spec.2,
        (legacyValue (Product.Venus.getattr product) spec.1).map .value⟩ : ShownEntity) ∈ _
      rw [legacyValue_of_lookup _ isSome, ← shown_of_readsAt agree reads]
      exact mem_venusShown printer product whole member
  · obtain ⟨index, inside, rfl⟩ := List.mem_map.mp cell
    obtain ⟨binding, member, reads⟩ := cells_planned index inside
    have planned := mem_venusShown printer product whole member
    rwa [cell_shown agree (List.mem_range.mp inside) reads] at planned
  · have textual : ∀ spec ∈ legacyTextSpecs, spec = ("battery_state", "Battery State") ∨
        ∃ path ∈ textPaths, flatFieldPaths.lookup spec.1 = some path := by
      decide
    rcases textual spec declared with rfl | text
    · exact List.mem_append_right _ List.mem_cons_self
    · have isSome : (flatFieldPaths.lookup spec.1).isSome = true := by
        obtain ⟨path, _, known⟩ := text
        rw [known]
        rfl
      obtain ⟨binding, member, reads⟩ := plain_planned (.sensor, spec) <|
        List.mem_append_left _ <| List.mem_append_right _ <|
          List.mem_map_of_mem (List.mem_filter.mpr ⟨declared, isSome⟩)
      show (⟨.sensor, spec.1, some spec.2,
        (legacyText (Product.Venus.getattr product) printer.str spec.1).map .value⟩ :
          ShownEntity) ∈ _
      rw [legacyText_eq printer agree texts text, ← shown_of_readsAt agree reads]
      exact mem_venusShown printer product whole member
  · obtain ⟨binding, member, reads⟩ := plain_planned (.binarySensor, spec) <|
      List.mem_append_right _ (List.mem_map_of_mem declared)
    have planned := mem_venusShown printer product whole member
    rwa [shown_of_readsAt agree reads] at planned

/-- The keys of the flat entities. -/
def legacyKeys : List String :=
  legacySensorSpecs.map Prod.fst ++
    (List.range 16).map (fun index => "cell_" ++ toString (index + 1) ++ "_voltage") ++
    legacyTextSpecs.map Prod.fst ++ legacyBinarySpecs.map Prod.fst

theorem legacyShown_keys (data : MarstekData) :
    (legacyShown printer data).map ShownEntity.key = legacyKeys := by
  simp only [legacyShown, legacyEntities, legacyCells, legacyKeys, List.map_append, List.map_map]
  rfl

theorem legacyShown_nodup (data : MarstekData) : (legacyShown printer data).Nodup := by
  have distinct : legacyKeys.Nodup := by decide
  refine List.Nodup.of_map ShownEntity.key ?_
  rw [legacyShown_keys]
  exact distinct

end Shown

/-- The replacement of the flat entities keeps their platforms, keys, names and values.
After any byte strings a plan is built, and its entities, with the battery state that
stayed flat, are in these four the flat entities of the hand-written parser's data. -/
theorem flat_contract_kept (printer : TextPrinter) (seen : List Delivery) : ∃ plan,
    venusEntityProfile.buildEntityPlan (productAfter seen) = .ok plan ∧
      (legacyShown printer (legacyAfter seen)).Perm
        (venusShown printer (productAfter seen) plan) := by
  have agree := agree_run seen
  have run : productAfter seen = venusRuntime.receiveAll venusRuntime.createData
      (seen.map fun d => ⟨d.frame, d.productTime⟩) := by
    rw [productAfter, ProductRuntime.receiveAll, List.foldl_map]
    rfl
  have texts : (productAfter seen).tree.Obeys Textual := run ▸ textual_receiveAll _
  obtain ⟨plan, built, whole⟩ := plan_receiveAll (seen.map fun d => ⟨d.frame, d.productTime⟩)
  rw [← run] at built
  refine ⟨plan, built, ?_⟩
  have included : legacyShown printer (legacyAfter seen) ⊆
      venusShown printer (productAfter seen) plan := by
    intro shown member
    obtain ⟨entity, listed, rfl⟩ := List.mem_map.mp member
    rw [flatAttribute_eq agree]
    exact flat_mem_venusShown printer agree texts whole listed
  have sameLength : (venusShown printer (productAfter seen) plan).length =
      (legacyShown printer (legacyAfter seen)).length := by
    have planned : venusEntityProfile.catalogue.length = 74 := by decide
    have flat := congrArg List.length (legacyShown_keys printer (legacyAfter seen))
    rw [List.length_map] at flat
    rw [flat, venusShown, List.length_append, List.length_map, whole, planned]
    rfl
  have subperm := List.Nodup.subperm (legacyShown_nodup printer _) included
  exact subperm.perm_of_length_le sameLength.le

end Venus

end MarstekBle.Entities
