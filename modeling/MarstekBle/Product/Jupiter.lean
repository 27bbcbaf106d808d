/- module: Product/Jupiter
   source: custom_components/marstek_ble/products/jupiter.py, products/jupiter_runtime.py
   digest: Jupiter-C Plus packets, data model, text decoders and runtime. -/

import MarstekBle.Product.Runtime

set_option autoImplicit false
set_option relaxedAutoImplicit false

namespace MarstekBle.Product.Jupiter

open MarstekBle.Data MarstekBle.Schema MarstekBle.Lib.AttributeTree

def batteryStateName (value : Option ℚ) : String :=
  if value = some 0 then "idle"
  else if value = some 1 then "charging"
  else if value = some 2 then "discharging"
  else "unknown"

/-- `_BATTERY_STATES.get(value, "unknown")`; a list is no dictionary key. -/
def batteryState : Converter := fun value =>
  match value with
  | .list _ => .error ⟨.typeError, "unhashable type"⟩
  | v => .ok (.str (batteryStateName v.toRat?).toList)

def summaryText (year month day hour minute unknown1 unknown2 : Int) : Text :=
  paddedDecimal 4 year ++ '-' :: paddedDecimal 2 month ++ '-' :: paddedDecimal 2 day ++
    ' ' :: paddedDecimal 2 hour ++ ':' :: paddedDecimal 2 minute ++
    " | 0x".toList ++ paddedHex 2 unknown1 ++ " 0x".toList ++ paddedHex 2 unknown2

def eventSummary : Converter := fun values =>
  match values with
  | .tuple vs | .list vs => match vs.mapM Value.toInt? with
    | some [year, month, day, hour, minute, unknown1, unknown2] =>
      .ok (.str (summaryText year month day hour minute unknown1 unknown2))
    | some _ => .error ⟨.valueError, "wrong number of values to unpack"⟩
    | none => .error ⟨.valueError, "unknown format code for object"⟩
  | _ => .error ⟨.typeError, "cannot unpack non-iterable object"⟩

def runtimeInformation : PacketSchema :=
  { name := "jupiter_runtime_information", command := 0x03,
    minimumLength := 74, maximumLength := some 74 }

def deviceInformation : PacketSchema :=
  { name := "jupiter_device_information", command := 0x04,
    ordered := PacketSchema.ordered_of_unbounded }

def wifiSsid : PacketSchema :=
  { name := "jupiter_wifi_ssid", command := 0x08,
    ordered := PacketSchema.ordered_of_unbounded }

def unresolvedStatus : PacketSchema :=
  { name := "jupiter_unresolved_status", command := 0x0D,
    minimumLength := 12, maximumLength := some 12 }

def eventHistory : PacketSchema :=
  { name := "jupiter_event_history", command := 0x13,
    minimumLength := 160, maximumLength := some 160 }

def detailedTelemetry : PacketSchema :=
  { name := "jupiter_detailed_telemetry", command := 0x14,
    minimumLength := 166, maximumLength := some 166 }

def rawStatus21 : PacketSchema :=
  { name := "jupiter_raw_status_21", command := 0x21,
    minimumLength := 1, maximumLength := some 1 }

def rawStatus22 : PacketSchema :=
  { name := "jupiter_raw_status_22", command := 0x22,
    minimumLength := 1, maximumLength := some 1 }

def rawStatus24 : PacketSchema :=
  { name := "jupiter_raw_status_24", command := 0x24,
    minimumLength := 1, maximumLength := some 1 }

def jupiterPvInputData : DataClass := [
  sourceField "power"
    [(runtimeInformation, fieldSource 0x00 (little .H) toFloat),
      (detailedTelemetry, fieldSource 0x04 (little .H) (divideBy 10))]
    (sensor "power" "Power"),
  sourceField "connected" [(runtimeInformation, fieldSource 0x02 (little .B) nonzero)]
    (binary "connected" "Connected"),
  sourceField "voltage" [(detailedTelemetry, fieldSource 0x00 (little .H) (divideBy 10))]
    (sensor "voltage" "Voltage"),
  sourceField "current" [(detailedTelemetry, fieldSource 0x02 (little .H) (divideBy 10))]
    (sensor "current" "Current")]

def jupiterRuntimeData : DataClass := [
  sourceField "ac_output_power"
    [(runtimeInformation, fieldSource 0x0C (little .H) toFloat),
      (detailedTelemetry, fieldSource 0x10 (little .h) toFloat)]
    (sensor "ac_output_power" "AC Output Power"),
  sourceField "grid_connection_valid" [(runtimeInformation, fieldSource 0x0E (little .B) nonzero)]
    (binary "grid_connection_valid" "Grid Connection Valid"),
  sourceField "ac_output_active" [(runtimeInformation, fieldSource 0x0E (little .B) nonzero)],
  sourceField "battery_state" [(runtimeInformation, fieldSource 0x12 (little .B) batteryState)]
    (sensor "battery_state" "Battery State"),
  sourceField "stored_battery_energy"
    [(runtimeInformation, fieldSource 0x13 (little .H) (multiplyBy 10)),
      (detailedTelemetry, fieldSource 0x78 (little .H) toFloat)]
    (sensor "stored_battery_energy" "Stored Battery Energy"),
  sourceField "battery_soc"
    [(runtimeInformation, fieldSource 0x15 (little .B) toFloat),
      (detailedTelemetry, fieldSource 0x5E (little .H) toFloat)]
    (sensor "battery_soc" "Battery SOC"),
  sourceField "operational_status" [(runtimeInformation, fieldSource 0x3C (little .B))]
    (sensor "operational_status" "Operational Status"),
  sourceField "surplus_feed_in_active"
    [(runtimeInformation, fieldSource 0x3C (little .B) (bit 1))]
    (binary "surplus_feed_in_active" "Surplus Feed-In Active Unverified"),
  sourceField "ems_firmware_version" [(runtimeInformation, fieldSource 0x2F (little .H))]
    (sensor "ems_firmware_version" "EMS Firmware Version"),
  sourceField "inverter_firmware_version" [(runtimeInformation, fieldSource 0x31 (little .H))]
    (sensor "inverter_firmware_version" "Inverter Firmware Version"),
  sourceField "mppt_firmware_version" [(runtimeInformation, fieldSource 0x33 (little .H))]
    (sensor "mppt_firmware_version" "MPPT Firmware Version"),
  sourceField "bms_firmware_version"
    [(runtimeInformation, fieldSource 0x35 (little .H)),
      (detailedTelemetry, fieldSource 0x64 (little .H))]
    (sensor "bms_firmware_version" "BMS Firmware Version")]

def jupiterEnergyData : DataClass := [
  sourceField "daily_pv_generation"
    [(runtimeInformation, fieldSource 0x17 (little .I) (divideBy 100)),
      (detailedTelemetry, fieldSource 0x40 (little .I) (divideBy 100))]
    (sensor "daily_pv_generation" "Daily PV Generation"),
  sourceField "monthly_pv_generation"
    [(runtimeInformation, fieldSource 0x1B (little .I) (divideBy 100)),
      (detailedTelemetry, fieldSource 0x48 (little .I) (divideBy 100))]
    (sensor "monthly_pv_generation" "Monthly PV Generation"),
  sourceField "total_pv_generation"
    [(runtimeInformation, fieldSource 0x1F (little .I) (divideBy 100)),
      (detailedTelemetry, fieldSource 0x4C (little .I) (divideBy 100))]
    (sensor "total_pv_generation" "Total PV Generation"),
  sourceField "daily_output_energy"
    [(runtimeInformation, fieldSource 0x27 (little .I) (divideBy 100)),
      (detailedTelemetry, fieldSource 0x14 (little .I) (divideBy 100))]
    (sensor "daily_output_energy" "Daily Output Energy"),
  sourceField "monthly_output_energy"
    [(runtimeInformation, fieldSource 0x2B (little .I) (divideBy 100)),
      (detailedTelemetry, fieldSource 0x1C (little .I) (divideBy 100))]
    (sensor "monthly_output_energy" "Monthly Output Energy"),
  sourceField "local_total_output_energy"
    [(detailedTelemetry, fieldSource 0x18 (little .I) (divideBy 100))]
    (sensor "local_total_output_energy" "Local Total Output Energy")]

def jupiterInverterData : DataClass := [
  sourceField "state_flags" [(detailedTelemetry, fieldSource 0x00 (little .H))]
    (sensor "inverter_state_flags" "Inverter State Flags"),
  sourceField "error_code"
    [(runtimeInformation, fieldSource 0x23 (little .H)),
      (detailedTelemetry, fieldSource 0x02 (little .H))]
    (sensor "inverter_error_code" "Inverter Error Code"),
  sourceField "warning_code" [(detailedTelemetry, fieldSource 0x04 (little .H))]
    (sensor "inverter_warning_code" "Inverter Warning Code"),
  sourceField "grid_voltage" [(detailedTelemetry, fieldSource 0x06 (little .H) (divideBy 10))]
    (sensor "grid_voltage" "Grid Voltage"),
  sourceField "grid_current" [(detailedTelemetry, fieldSource 0x08 (little .H) (divideBy 10))],
  sourceField "grid_power_factor" [(detailedTelemetry, fieldSource 0x0A (little .H))]
    (sensor "grid_power_factor" "Grid Power Factor"),
  sourceField "grid_frequency" [(detailedTelemetry, fieldSource 0x0C (little .H) (divideBy 100))]
    (sensor "grid_frequency" "Grid Frequency"),
  sourceField "bus_voltage" [(detailedTelemetry, fieldSource 0x0E (little .H) (divideBy 10))]
    (sensor "bus_voltage" "Internal Bus Voltage"),
  sourceField "temperature" [(detailedTelemetry, fieldSource 0x12 (little .h) toFloat)]
    (sensor "inverter_temperature" "Inverter Temperature")]

def jupiterMpptData : DataClass := [
  sourceField "state_flags" [(detailedTelemetry, fieldSource 0x20 (little .H))]
    (sensor "mppt_state_flags" "MPPT State Flags"),
  sourceField "controller_ready" [(detailedTelemetry, fieldSource 0x20 (little .H) (bit 2))]
    (binary "mppt_controller_ready" "MPPT Controller Ready Unverified"),
  sourceField "pv_input_1_active" [(detailedTelemetry, fieldSource 0x20 (little .H) (bit 4))]
    (binary "pv_input_1_active" "PV Input 1 Active"),
  sourceField "pv_input_2_active" [(detailedTelemetry, fieldSource 0x20 (little .H) (bit 5))]
    (binary "pv_input_2_active" "PV Input 2 Active"),
  sourceField "pv_input_3_active" [(detailedTelemetry, fieldSource 0x20 (little .H) (bit 6))]
    (binary "pv_input_3_active" "PV Input 3 Active"),
  sourceField "pv_input_4_active" [(detailedTelemetry, fieldSource 0x20 (little .H) (bit 7))]
    (binary "pv_input_4_active" "PV Input 4 Active"),
  sourceField "error_code" [(detailedTelemetry, fieldSource 0x22 (little .H))]
    (sensor "mppt_error_code" "MPPT Error Code"),
  sourceField "temperature" [(detailedTelemetry, fieldSource 0x24 (little .h) toFloat)]
    (sensor "mppt_temperature" "MPPT Temperature"),
  sourceField "warning_code" [(detailedTelemetry, fieldSource 0x26 (little .H))]
    (sensor "mppt_warning_code" "MPPT Warning Code"),
  sourceField "dc_output_voltage"
    [(detailedTelemetry, fieldSource 0x50 (little .H) (divideBy 10))]
    (sensor "mppt_dc_output_voltage" "MPPT DC Output Voltage"),
  sourceField "dc_output_current"
    [(detailedTelemetry, fieldSource 0x52 (little .h) (divideBy 10))]
    (sensor "mppt_dc_output_current" "MPPT DC Output Current")]

def jupiterBatteryPackData : DataClass := [
  sourceField "highest_cell_index" [(detailedTelemetry, fieldSource 0x00 (little .B))]
    (sensor "highest_cell_index" "Highest Cell Index"),
  sourceField "lowest_cell_index" [(detailedTelemetry, fieldSource 0x01 (little .B))]
    (sensor "lowest_cell_index" "Lowest Cell Index"),
  sourceField "highest_cell_voltage"
    [(detailedTelemetry, fieldSource 0x02 (little .H) (divideBy 1000))]
    (sensor "highest_cell_voltage" "Highest Cell Voltage"),
  sourceField "lowest_cell_voltage"
    [(detailedTelemetry, fieldSource 0x04 (little .H) (divideBy 1000))]
    (sensor "lowest_cell_voltage" "Lowest Cell Voltage"),
  sourceField "status" [(detailedTelemetry, fieldSource 0x06 (little .H))]
    (sensor "status" "Status")]

def batteryChildren : RepeatedChildDeviceSpec where
  keyPrefix := "battery_pack"
  model := "Jupiter-C Battery Pack"
  nameFactory := fun index =>
    if index = 0 then "Base Battery" else "Expansion Battery " ++ toString index
  identifierFactory := fun index => "battery_pack:" ++ toString index

def jupiterBatteryData : DataClass := [
  sourceField "base_voltage" [(detailedTelemetry, fieldSource 0x54 (little .H) (divideBy 10))]
    (sensor "base_voltage" "Base Voltage"),
  sourceField "pe_voltage" [(detailedTelemetry, fieldSource 0x56 (little .H) (divideBy 10))]
    (sensor "pe_voltage" "PE Voltage"),
  sourceField "charge_voltage_limit"
    [(detailedTelemetry, fieldSource 0x58 (little .H) (divideBy 10))]
    (sensor "charge_voltage_limit" "Charge Voltage Limit"),
  sourceField "charge_current_limit"
    [(detailedTelemetry, fieldSource 0x5A (little .H) (divideBy 10))]
    (sensor "charge_current_limit" "Charge Current Limit"),
  sourceField "discharge_current_limit"
    [(detailedTelemetry, fieldSource 0x5C (little .H) (divideBy 10))]
    (sensor "discharge_current_limit" "Discharge Current Limit"),
  sourceField "soh" [(detailedTelemetry, fieldSource 0x60 (little .H) toFloat)]
    (sensor "battery_soh" "Battery SOH"),
  sourceField "rated_capacity" [(detailedTelemetry, fieldSource 0x62 (little .H) toFloat)]
    (sensor "rated_capacity" "Rated Battery Capacity"),
  sourceField "voltage" [(detailedTelemetry, fieldSource 0x66 (little .H) (divideBy 100))]
    (sensor "battery_voltage" "Battery Voltage"),
  sourceField "current" [(detailedTelemetry, fieldSource 0x68 (little .h) (divideBy 10))]
    (sensor "battery_current" "Battery Current"),
  sourceField "temperature" [(detailedTelemetry, fieldSource 0x6A (little .h) (divideBy 10))]
    (sensor "battery_temperature" "Battery Temperature"),
  sourceField "error_code_1" [(detailedTelemetry, fieldSource 0x6C (little .H))]
    (sensor "bms_error_code_1" "BMS Error Code 1"),
  sourceField "warning_code_1" [(detailedTelemetry, fieldSource 0x6E (little .H))]
    (sensor "bms_warning_code_1" "BMS Warning Code 1"),
  sourceField "error_code_2" [(detailedTelemetry, fieldSource 0x70 (little .H))]
    (sensor "bms_error_code_2" "BMS Error Code 2"),
  sourceField "warning_code_2" [(detailedTelemetry, fieldSource 0x72 (little .H))]
    (sensor "bms_warning_code_2" "BMS Warning Code 2"),
  sourceField "cell_flags" [(detailedTelemetry, fieldSource 0x74 (little .B))]
    (sensor "cell_flags" "Cell Flags"),
  sourceField "status_flags" [(detailedTelemetry, fieldSource 0x75 (little .B))]
    (sensor "bms_status_flags" "BMS Status Flags"),
  sourceField "pack_count" [(detailedTelemetry, fieldSource 0x76 (little .H))]
    (sensor "battery_pack_count" "Battery Pack Count"),
  repeatedSectionField "packs" jupiterBatteryPackData
    { count := 4, sources := [(detailedTelemetry, { offset := 0x7A, stride := 8 })],
      activeCountAttribute := some "pack_count", childDevice := some batteryChildren },
  sourceField "temp_sensor_1" [(detailedTelemetry, fieldSource 0x9A (little .h) toFloat)]
    (sensor "battery_temp_sensor_1" "Battery Temperature Sensor 1"),
  sourceField "temp_sensor_2" [(detailedTelemetry, fieldSource 0x9C (little .h) toFloat)]
    (sensor "battery_temp_sensor_2" "Battery Temperature Sensor 2"),
  sourceField "temp_sensor_3" [(detailedTelemetry, fieldSource 0x9E (little .h) toFloat)]
    (sensor "battery_temp_sensor_3" "Battery Temperature Sensor 3"),
  sourceField "temp_sensor_4" [(detailedTelemetry, fieldSource 0xA0 (little .h) toFloat)]
    (sensor "battery_temp_sensor_4" "Battery Temperature Sensor 4"),
  sourceField "environment_temperature"
    [(detailedTelemetry, fieldSource 0xA2 (little .h) toFloat)]
    (sensor "bms_environment_temperature" "BMS Environment Temperature"),
  sourceField "mosfet_temperature" [(detailedTelemetry, fieldSource 0xA4 (little .h) toFloat)]
    (sensor "bms_mosfet_temperature" "BMS MOSFET Temperature")]

def jupiterEventRecord : DataClass := [
  sourceField "summary"
    [(eventHistory, fieldSource 0x00
      (integers .little [.H, .B, .B, .B, .B, .B, .B]) eventSummary)]
    (sensor "summary" "Record"),
  sourceField "year" [(eventHistory, fieldSource 0x00 (little .H))],
  sourceField "month" [(eventHistory, fieldSource 0x02 (little .B))],
  sourceField "day" [(eventHistory, fieldSource 0x03 (little .B))],
  sourceField "hour" [(eventHistory, fieldSource 0x04 (little .B))],
  sourceField "minute" [(eventHistory, fieldSource 0x05 (little .B))],
  sourceField "event_code" [(eventHistory, fieldSource 0x06 (little .H))],
  sourceField "event_value" [(eventHistory, fieldSource 0x06 (little .B))],
  sourceField "event_state" [(eventHistory, fieldSource 0x07 (little .B))]]

def jupiterIdentityData : DataClass := [
  valueField "device_type" (sensor "device_type" "Device Type"),
  valueField "device_id" (sensor "device_id" "Device ID"),
  valueField "mac_address" (sensor "mac_address" "Bluetooth MAC Address"),
  valueField "wifi_ssid" (sensor "wifi_ssid" "WiFi SSID")]

def jupiterRawStatusData : DataClass := [
  sourceField "status_21" [(rawStatus21, fieldSource 0 (little .B))],
  sourceField "status_22" [(rawStatus22, fieldSource 0 (little .B))],
  sourceField "status_24" [(rawStatus24, fieldSource 0 (little .B))]]

def jupiterData : DataClass := [
  sectionField "runtime" jupiterRuntimeData,
  sectionField "energy" jupiterEnergyData,
  sectionField "inverter" jupiterInverterData,
  sectionField "mppt" jupiterMpptData,
  repeatedSectionField "pv_inputs" jupiterPvInputData
    { count := 4,
      sources := [(runtimeInformation, { offset := 0, stride := 3 }),
        (detailedTelemetry, { offset := 0x28, stride := 6 })],
      itemNameFactory := some fun index => "PV Input " ++ toString (index + 1) },
  sectionField "battery" jupiterBatteryData,
  repeatedSectionField "events" jupiterEventRecord
    { count := 20, sources := [(eventHistory, { offset := 0, stride := 8 })],
      itemNameFactory := some fun index => "Event " ++ toString (index + 1) },
  sectionField "identity" jupiterIdentityData,
  sectionField "raw_status" jupiterRawStatusData]


def flatPaths : List (String × DataPath) := [
  ("battery_voltage", [.attr "battery", .attr "voltage"]),
  ("battery_current", [.attr "battery", .attr "current"]),
  ("battery_soc", [.attr "runtime", .attr "battery_soc"]),
  ("battery_soh", [.attr "battery", .attr "soh"]),
  ("battery_temp", [.attr "battery", .attr "temperature"]),
  ("design_capacity", [.attr "battery", .attr "rated_capacity"]),
  ("grid_power", [.attr "runtime", .attr "ac_output_power"]),
  ("out1_power", [.attr "runtime", .attr "ac_output_power"]),
  ("daily_energy_discharged", [.attr "energy", .attr "daily_output_energy"]),
  ("monthly_energy_discharged", [.attr "energy", .attr "monthly_output_energy"]),
  ("total_energy_discharged", [.attr "energy", .attr "local_total_output_energy"]),
  ("mosfet_temp", [.attr "battery", .attr "mosfet_temperature"]),
  ("temp_sensor_1", [.attr "battery", .attr "temp_sensor_1"]),
  ("temp_sensor_2", [.attr "battery", .attr "temp_sensor_2"]),
  ("temp_sensor_3", [.attr "battery", .attr "temp_sensor_3"]),
  ("temp_sensor_4", [.attr "battery", .attr "temp_sensor_4"]),
  ("bms_version", [.attr "runtime", .attr "bms_firmware_version"]),
  ("voltage_limit", [.attr "battery", .attr "charge_voltage_limit"]),
  ("charge_current_limit", [.attr "battery", .attr "charge_current_limit"]),
  ("discharge_current_limit", [.attr "battery", .attr "discharge_current_limit"]),
  ("error_code", [.attr "battery", .attr "error_code_1"]),
  ("warning_code", [.attr "battery", .attr "warning_code_1"]),
  ("device_type", [.attr "identity", .attr "device_type"]),
  ("device_id", [.attr "identity", .attr "device_id"]),
  ("mac_address", [.attr "identity", .attr "mac_address"]),
  ("wifi_ssid", [.attr "identity", .attr "wifi_ssid"]),
  ("out1_active", [.attr "runtime", .attr "ac_output_active"])]

/-- `_metadata_aliases` of `RuntimeJupiterData`. -/
def metadataAliases (path : DataPath) : List String :=
  let flat := (flatPaths.filter (·.2 = path)).map Prod.fst
  let solar := if path.head? = some (.attr "pv_inputs") ∧ path.getLast? = some (.attr "power")
    then ["solar_power"] else []
  let capacities :=
    if path = [.attr "runtime", .attr "battery_soc"] ∨
        path = [.attr "battery", .attr "rated_capacity"]
    then ["remaining_capacity", "available_capacity"] else []
  (baseAliases path ++ flat ++ solar ++ capacities).eraseDups

def identityFields : List (String × String) := [
  ("type", "device_type"),
  ("id", "device_id"),
  ("mac", "mac_address")]

def versionFields : List (String × String) := [
  ("ems_v", "ems_firmware_version"),
  ("inv_v", "inverter_firmware_version"),
  ("mppt_v", "mppt_firmware_version"),
  ("bms_v", "bms_firmware_version")]

/-- The `values` dictionary of the device information, the latest entry first. -/
def deviceValues (text : Text) : List (Text × Text) :=
  (split ',' text).foldl
    (fun values item => match splitOnce '=' item with
      | none => values
      | some (key, value) => (strip key, strip value) :: values) []

def setIdentity (values : List (Text × Text)) (acc : DataTree × List DataPath)
    (item : String × String) : DataTree × List DataPath :=
  match values.lookup item.1.toList with
  | none => acc
  | some value =>
    let path : DataPath := [.attr "identity", .attr item.2]
    (acc.1.assign path (.str value), acc.2 ++ [path])

def setVersion (values : List (Text × Text)) (acc : DataTree × List DataPath)
    (item : String × String) : DataTree × List DataPath :=
  match values.lookup item.1.toList with
  | none => acc
  | some value => match intOf value with
    | none => acc
    | some parsed =>
      let path : DataPath := [.attr "runtime", .attr item.2]
      (acc.1.assign path (.int parsed), acc.2 ++ [path])

def parseDeviceInformation : PayloadParser := fun payload tree =>
  match decodeAscii payload with
  | none => (.ok (some []), tree)
  | some text =>
    let values := deviceValues text
    let identified := identityFields.foldl (setIdentity values) (tree, [])
    let (tree, updates) := versionFields.foldl (setVersion values) identified
    (.ok (some updates), tree)

def parseWifiSsid : PayloadParser := fun payload tree =>
  match decodeUtf8 payload with
  | none => (.ok (some []), tree)
  | some ssid =>
    let path : DataPath := [.attr "identity", .attr "wifi_ssid"]
    (.ok (some [path]), tree.assign path (.str (rstripChar '\x00' ssid)))

/-- `JUPITER_PROFILE` with `RuntimeJupiterData` as its data type. -/
def jupiterRuntimeProfile : ProductProfile where
  productId := "jupiter_c_plus"
  dataType := ⟨"RuntimeJupiterData", jupiterData, metadataAliases⟩
  packets := [runtimeInformation, deviceInformation, wifiSsid, unresolvedStatus, eventHistory,
    detailedTelemetry, rawStatus21, rawStatus22, rawStatus24]
  supportedCommands := [0x03, 0x08, 0x0D, 0x13, 0x14]
  discoveryPrefixes := ["MST_JPLS_".toList]

def jupiterRuntime : ProductRuntime where
  profile := jupiterRuntimeProfile
  fastPoll := [
    { command := runtimeInformation.command, delay := 1 / 10 },
    { command := detailedTelemetry.command, delay := 1 / 10 }]
  mediumPoll := [
    { command := unresolvedStatus.command },
    { command := wifiSsid.command },
    { command := deviceInformation.command },
    { command := eventHistory.command }]
  payloadParsers := [
    (deviceInformation.command, parseDeviceInformation),
    (wifiSsid.command, parseWifiSsid)]

end MarstekBle.Product.Jupiter
