/- module: Product/Venus
   source: custom_components/marstek_ble/products/venus.py, products/venus_runtime.py
   digest: Venus packets, data model, text decoders and runtime. -/

import MarstekBle.Product.Runtime

set_option autoImplicit false
set_option relaxedAutoImplicit false

namespace MarstekBle.Product

open MarstekBle.Data MarstekBle.Schema MarstekBle.Protocol MarstekBle.Lib.AttributeTree

/-- One `key<separator>value` segment: a mapped key sets its attribute of the
section and reports it once. -/
def setPair (separator : Char) (mapping : List (String × String)) (sectionName : String)
    (acc : DataTree × List DataPath) (pair : Text) : DataTree × List DataPath :=
  match splitOnce separator pair with
  | none => acc
  | some (key, value) => match mapping.lookup (String.ofList (strip key)) with
    | none => acc
    | some attributeName =>
      let path : DataPath := [.attr sectionName, .attr attributeName]
      (acc.1.assign path (.str (strip value)),
        if path ∈ acc.2 then acc.2 else acc.2 ++ [path])

namespace Venus

def runtimeInformation : PacketSchema :=
  { name := "venus_runtime_information", command := 0x03, minimumLength := 37 }

def deviceInformation : PacketSchema :=
  { name := "venus_device_information", command := 0x04, minimumLength := 1 }

def wifiSsid : PacketSchema :=
  { name := "venus_wifi_ssid", command := 0x08,
    ordered := PacketSchema.ordered_of_unbounded }

def systemData : PacketSchema :=
  { name := "venus_system_data", command := 0x0D, minimumLength := 11 }

def timerInformation : PacketSchema :=
  { name := "venus_timer_information", command := 0x13, minimumLength := 45 }

def bmsData : PacketSchema :=
  { name := "venus_bms_data", command := 0x14, minimumLength := 80 }

def configurationData : PacketSchema :=
  { name := "venus_configuration_data", command := 0x1A, minimumLength := 17 }

def meterIp : PacketSchema :=
  { name := "venus_meter_ip", command := 0x21, minimumLength := 1 }

def ctPollingRate : PacketSchema :=
  { name := "venus_ct_polling_rate", command := 0x22, minimumLength := 1 }

def networkInformation : PacketSchema :=
  { name := "venus_network_information", command := 0x24,
    ordered := PacketSchema.ordered_of_unbounded }

def localApiStatus : PacketSchema :=
  { name := "venus_local_api_status", command := 0x28, minimumLength := 3 }

def venusRuntimeData : DataClass := [
  sourceField "out1_power" [(runtimeInformation, fieldSource 0x14 (little .H) toFloat)]
    (sensor "out1_power" "Output 1 Power"),
  sourceField "temp_low"
    [(runtimeInformation, fieldSource 0x21 (little .h) (divideBy 10) (some 60))]
    (sensor "temp_low" "Temperature Low"),
  sourceField "temp_high"
    [(runtimeInformation, fieldSource 0x23 (little .h) (divideBy 10) (some 60))]
    (sensor "temp_high" "Temperature High"),
  sourceField "wifi_connected" [(runtimeInformation, fieldSource 0x0F (little .B) (bit 0))]
    (binary "wifi_connected" "WiFi Connected"),
  sourceField "mqtt_connected" [(runtimeInformation, fieldSource 0x0F (little .B) (bit 1))]
    (binary "mqtt_connected" "MQTT Connected"),
  sourceField "out1_active" [(runtimeInformation, fieldSource 0x10 (little .B) nonzero)]
    (binary "out1_active" "Output 1 Active"),
  sourceField "extern1_connected" [(runtimeInformation, fieldSource 0x1C (little .B) nonzero)]
    (binary "extern1_connected" "External 1 Connected"),
  sourceField "grid_power" [(runtimeInformation, fieldSource 0x00 (little .h) toFloat (some 100))]
    (sensor "grid_power" "Grid Power"),
  sourceField "solar_power"
    [(runtimeInformation, fieldSource 0x02 (little .h) toFloat (some 100))]
    (sensor "solar_power" "Solar Power"),
  sourceField "work_mode" [(runtimeInformation, fieldSource 0x04 (little .B) identity (some 100))]
    (sensor "work_mode" "Work Mode"),
  sourceField "product_code"
    [(runtimeInformation, fieldSource 0x0C (little .H) identity (some 100))]
    (sensor "product_code" "Product Code"),
  sourceField "power_rating"
    [(runtimeInformation, fieldSource 0x4A (little .H) identity (some 100))]
    (sensor "power_rating" "Power Rating"),
  sourceField "daily_energy_charged"
    [(runtimeInformation, fieldSource 0x0E (little .I) (divideBy 100) (some 100))]
    (sensor "daily_energy_charged" "Daily Energy Charged"),
  sourceField "monthly_energy_charged"
    [(runtimeInformation, fieldSource 0x12 (little .I) (divideBy 1000) (some 100))]
    (sensor "monthly_energy_charged" "Monthly Energy Charged"),
  sourceField "daily_energy_discharged"
    [(runtimeInformation, fieldSource 0x16 (little .I) (divideBy 100) (some 100))]
    (sensor "daily_energy_discharged" "Daily Energy Discharged"),
  sourceField "monthly_energy_discharged"
    [(runtimeInformation, fieldSource 0x1A (little .I) (divideBy 100) (some 100))]
    (sensor "monthly_energy_discharged" "Monthly Energy Discharged"),
  sourceField "total_energy_charged"
    [(runtimeInformation, fieldSource 0x29 (little .I) (divideBy 100) (some 100))]
    (sensor "total_energy_charged" "Total Energy Charged"),
  sourceField "total_energy_discharged"
    [(runtimeInformation, fieldSource 0x2D (little .I) (divideBy 100) (some 100))]
    (sensor "total_energy_discharged" "Total Energy Discharged")]

def cellVoltageEntities : IndexedEntitySpec where
  platform := .sensor
  count := 16
  descriptionFactory := fun index =>
    ⟨"cell_" ++ toString (index + 1) ++ "_voltage",
      some ("Cell " ++ toString (index + 1) ++ " Voltage")⟩

def venusBatteryData : DataClass := [
  sourceField "bms_version" [(bmsData, fieldSource 0x00 (little .H))]
    (sensor "bms_version" "BMS Version"),
  sourceField "voltage_limit" [(bmsData, fieldSource 0x02 (little .H) (divideBy 10))]
    (sensor "voltage_limit" "Voltage Limit"),
  sourceField "charge_current_limit" [(bmsData, fieldSource 0x04 (little .H) (divideBy 10))]
    (sensor "charge_current_limit" "Charge Current Limit"),
  sourceField "discharge_current_limit" [(bmsData, fieldSource 0x06 (little .h) (divideBy 10))]
    (sensor "discharge_current_limit" "Discharge Current Limit"),
  sourceField "battery_soc" [(bmsData, fieldSource 0x08 (little .H) toFloat)]
    (sensor "battery_soc" "Battery SOC"),
  sourceField "battery_soh" [(bmsData, fieldSource 0x0A (little .H) toFloat)]
    (sensor "battery_soh" "Battery SOH"),
  sourceField "design_capacity" [(bmsData, fieldSource 0x0C (little .H) toFloat)]
    (sensor "design_capacity" "Design Capacity"),
  sourceField "battery_voltage" [(bmsData, fieldSource 0x0E (little .H) (divideBy 100))]
    (sensor "battery_voltage" "Battery Voltage"),
  sourceField "battery_current" [(bmsData, fieldSource 0x10 (little .h) (divideBy 10))]
    (sensor "battery_current" "Battery Current"),
  sourceField "battery_temp" [(bmsData, fieldSource 0x12 (little .H) toFloat)]
    (sensor "battery_temp" "Battery Temperature"),
  sourceField "error_code" [(bmsData, fieldSource 0x1A (little .H))]
    (sensor "error_code" "Error Code"),
  sourceField "warning_code" [(bmsData, fieldSource 0x1C (little .I))]
    (sensor "warning_code" "Warning Code"),
  sourceField "runtime_hours" [(bmsData, fieldSource 0x20 (little .I) (divideBy 3600000))]
    (sensor "runtime_hours" "Runtime"),
  sourceField "mosfet_temp" [(bmsData, fieldSource 0x26 (little .H) toFloat)]
    (sensor "mosfet_temp" "MOSFET Temperature"),
  sourceField "temp_sensor_1" [(bmsData, fieldSource 0x28 (little .H) toFloat)]
    (sensor "temp_sensor_1" "Temperature Sensor 1"),
  sourceField "temp_sensor_2" [(bmsData, fieldSource 0x2A (little .H) toFloat)]
    (sensor "temp_sensor_2" "Temperature Sensor 2"),
  sourceField "temp_sensor_3" [(bmsData, fieldSource 0x2C (little .H) toFloat)]
    (sensor "temp_sensor_3" "Temperature Sensor 3"),
  sourceField "temp_sensor_4" [(bmsData, fieldSource 0x2E (little .H) toFloat)]
    (sensor "temp_sensor_4" "Temperature Sensor 4"),
  sourceField "cell_voltages"
    [(bmsData, fieldSource 0x30 (integers .little (List.replicate 16 .H)) (divideEachBy 1000))]
    [] [cellVoltageEntities]
    (.list (List.replicate 16 .none))]

def venusSystemData : DataClass := [
  sourceField "system_status" [(systemData, fieldSource 0x00 (little .B))]
    (sensor "system_status" "System Status"),
  sourceField "system_value_1" [(systemData, fieldSource 0x01 (little .H))],
  sourceField "system_value_2" [(systemData, fieldSource 0x03 (little .H))],
  sourceField "system_value_3" [(systemData, fieldSource 0x05 (little .H))],
  sourceField "system_value_4" [(systemData, fieldSource 0x07 (little .H))],
  sourceField "system_value_5" [(systemData, fieldSource 0x09 (little .H))]]

def venusTimerData : DataClass := [
  sourceField "adaptive_mode_enabled" [(timerInformation, fieldSource 0x00 (little .B) nonzero)],
  sourceField "smart_meter_connected" [(timerInformation, fieldSource 0x25 (little .B) nonzero)]
    (binary "smart_meter_connected" "Smart Meter Connected"),
  sourceField "adaptive_power_out" [(timerInformation, fieldSource 0x26 (little .H) toFloat)]]

def venusConfigurationData : DataClass := [
  sourceField "config_mode" [(configurationData, fieldSource 0x00 (little .B))]
    (sensor "config_mode" "Config Mode"),
  sourceField "config_status" [(configurationData, fieldSource 0x04 (little .b))],
  sourceField "config_value" [(configurationData, fieldSource 0x10 (little .B))],
  sourceField "ct_polling_rate" [(ctPollingRate, fieldSource 0x00 (little .B))]
    (sensor "ct_polling_rate" "CT Polling Rate")]

def venusDeviceInformation : DataClass := [
  valueField "device_type" (sensor "device_type" "Device Type"),
  valueField "device_id" (sensor "device_id" "Device ID"),
  valueField "serial_number" (sensor "serial_number" "Serial Number"),
  valueField "mac_address" (sensor "mac_address" "MAC Address"),
  valueField "firmware_version" (sensor "firmware_version" "Firmware Version"),
  valueField "hardware_version" (sensor "hardware_version" "Hardware Version")]

def venusNetworkData : DataClass := [
  valueField "wifi_ssid" (sensor "wifi_ssid" "WiFi SSID"),
  valueField "meter_ip" (sensor "meter_ip" "Meter IP"),
  valueField "network_info" (sensor "network_info" "Network Info"),
  valueField "ip_address" (sensor "ip_address" "IP Address"),
  valueField "gateway" (sensor "gateway" "Gateway"),
  valueField "subnet_mask" (sensor "subnet_mask" "Subnet Mask"),
  valueField "dns_server" (sensor "dns_server" "DNS Server"),
  plainField "local_api_status"]

def venusData : DataClass := [
  sectionField "runtime" venusRuntimeData,
  sectionField "battery" venusBatteryData,
  sectionField "system" venusSystemData,
  sectionField "timer" venusTimerData,
  sectionField "configuration" venusConfigurationData,
  sectionField "device" venusDeviceInformation,
  sectionField "network" venusNetworkData]


def flatSection (sectionName : String) (names : List String) : List (String × DataPath) :=
  names.map fun name => (name, [.attr sectionName, .attr name])

/-- `_FLAT_FIELD_PATHS`. -/
def flatFieldPaths : List (String × DataPath) :=
  flatSection "runtime" [
    "out1_power", "temp_low", "temp_high", "wifi_connected", "mqtt_connected", "out1_active",
    "extern1_connected", "grid_power", "solar_power", "work_mode", "product_code",
    "power_rating", "daily_energy_charged", "monthly_energy_charged",
    "daily_energy_discharged", "monthly_energy_discharged", "total_energy_charged",
    "total_energy_discharged"] ++
  flatSection "battery" [
    "bms_version", "voltage_limit", "charge_current_limit", "discharge_current_limit",
    "battery_soc", "battery_soh", "design_capacity", "battery_voltage", "battery_current",
    "battery_temp", "error_code", "warning_code", "runtime_hours", "mosfet_temp",
    "temp_sensor_1", "temp_sensor_2", "temp_sensor_3", "temp_sensor_4", "cell_voltages"] ++
  flatSection "system" [
    "system_status", "system_value_1", "system_value_2", "system_value_3", "system_value_4",
    "system_value_5"] ++
  flatSection "timer" [
    "adaptive_mode_enabled", "smart_meter_connected", "adaptive_power_out"] ++
  flatSection "configuration" [
    "config_mode", "config_status", "config_value", "ct_polling_rate"] ++
  flatSection "device" [
    "device_type", "device_id", "serial_number", "mac_address", "firmware_version",
    "hardware_version"] ++
  flatSection "network" [
    "wifi_ssid", "meter_ip", "network_info", "ip_address", "gateway", "subnet_mask",
    "dns_server", "local_api_status"]

/-- `VenusData.__getattr__`: a read of a legacy flat name. -/
def getattr (data : TrackedProductData) (name : String) : Raises Value :=
  match flatFieldPaths.lookup name with
  | none => .error ⟨.attributeError, name⟩
  | some path => match data.tree.valueAt path with
    | some value => .ok value
    | none => .error ⟨.attributeError, name⟩

/-- `_metadata_aliases` of `VenusData`. -/
def metadataAliases (path : DataPath) : List String :=
  if path = [.attr "battery", .attr "cell_voltages"] then
    baseAliases path ++
      (List.range 16).map fun index => "cell_" ++ toString (index + 1) ++ "_voltage"
  else baseAliases path

def deviceMapping : List (String × String) := [
  ("type", "device_type"),
  ("id", "device_id"),
  ("sn", "serial_number"),
  ("mac", "mac_address"),
  ("hw", "hardware_version"),
  ("dev_ver", "firmware_version"),
  ("fc_ver", "firmware_version"),
  ("fw", "firmware_version")]

def networkMapping : List (String × String) := [
  ("ip", "ip_address"),
  ("gate", "gateway"),
  ("gateway", "gateway"),
  ("mask", "subnet_mask"),
  ("dns", "dns_server")]

def parseDeviceInformation : PayloadParser := fun payload tree =>
  let (tree, updates) := (split ',' (decodeAsciiIgnore payload)).foldl
    (setPair '=' deviceMapping "device") (tree, [])
  (.ok (some updates), tree)

def parseWifiSsid : PayloadParser := fun payload tree =>
  let path : DataPath := [.attr "network", .attr "wifi_ssid"]
  (.ok (some [path]), tree.assign path (.str (strip (decodeAsciiIgnore payload))))

def parseMeterIp : PayloadParser := fun payload tree =>
  let path : DataPath := [.attr "network", .attr "meter_ip"]
  let text := if payload.all (· == 0xFF) then "(not set)".toList
    else stripChar '\x00' (decodeAsciiIgnore payload)
  (.ok (some [path]), tree.assign path (.str text))

def parseNetworkInformation : PayloadParser := fun payload tree =>
  let text := strip (decodeAsciiIgnore payload)
  let path : DataPath := [.attr "network", .attr "network_info"]
  let (tree, updates) := (split ',' text).foldl (setPair ':' networkMapping "network")
    (tree.assign path (.str text), [path])
  (.ok (some updates), tree)

/-- `f"{enabled}/{port}"`. -/
def localApiText (first : Byte) (port : Int) : Text :=
  (if first = 1 then "enabled" else "disabled").toList ++ '/' :: (toString port).toList

def parseLocalApiStatus : PayloadParser := fun payload tree =>
  let path : DataPath := [.attr "network", .attr "local_api_status"]
  match byteAt payload 0 with
  | .error e => (.error e, tree)
  | .ok first => match unpackIntegerFrom .H payload 1 with
    | .error e => (.error e, tree)
    | .ok port => (.ok (some [path]), tree.assign path (.str (localApiText first port)))

def venusProfile : ProductProfile where
  productId := "venus"
  dataType := ⟨"VenusData", venusData, metadataAliases⟩
  packets := [runtimeInformation, deviceInformation, wifiSsid, systemData, timerInformation,
    bmsData, configurationData, meterIp, ctPollingRate, networkInformation, localApiStatus]
  supportedCommands := [0x03, 0x08, 0x0D, 0x13, 0x14, 0x1A, 0x1C, 0x21, 0x22, 0x24, 0x28]
  discoveryPrefixes := ["MST_ACCP_".toList, "MST_VNSE3_".toList]

def venusRuntime : ProductRuntime where
  profile := venusProfile
  fastPoll := [{ command := 0x03, delay := 1 / 10 }, { command := 0x14, delay := 1 / 10 }]
  mediumPoll := [
    { command := 0x0D },
    { command := 0x08 },
    { command := 0x1A },
    { command := 0x22 },
    { command := 0x21, payload := [0x0B] },
    { command := 0x24 },
    { command := 0x04 },
    { command := 0x13 },
    { command := 0x28 },
    { command := 0x1C }]
  payloadParsers := [
    (0x04, parseDeviceInformation),
    (0x08, parseWifiSsid),
    (0x21, parseMeterIp),
    (0x24, parseNetworkInformation),
    (0x28, parseLocalApiStatus)]

end Venus

end MarstekBle.Product
