/- module: Legacy/MarstekProtocol
   source: custom_components/marstek_ble/marstek_device.py
   digest: The flat data object and the hand-written notification parser. -/

import MarstekBle.Product.Runtime

/-!
A statement of the source is a state transformer that may raise; what it had
assigned before raising stays assigned. `block` runs statements one after
another up to the first exception.
-/

set_option autoImplicit false
set_option relaxedAutoImplicit false

namespace MarstekBle.Legacy

open MarstekBle.Data MarstekBle.Protocol MarstekBle.Product

/-- The attributes of `MarstekData` other than `field_updates`. -/
inductive LegacyField where
  | out1Power
  | tempLow
  | tempHigh
  | wifiConnected
  | mqttConnected
  | out1Active
  | extern1Connected
  | gridPower
  | solarPower
  | workMode
  | productCode
  | powerRating
  | dailyEnergyCharged
  | dailyEnergyDischarged
  | monthlyEnergyCharged
  | monthlyEnergyDischarged
  | totalEnergyCharged
  | totalEnergyDischarged
  | deviceType
  | deviceId
  | serialNumber
  | macAddress
  | firmwareVersion
  | hardwareVersion
  | wifiSsid
  | systemStatus
  | systemValue1
  | systemValue2
  | systemValue3
  | systemValue4
  | systemValue5
  | adaptiveModeEnabled
  | smartMeterConnected
  | adaptivePowerOut
  | batterySoc
  | batterySoh
  | designCapacity
  | batteryVoltage
  | batteryCurrent
  | batteryTemp
  | cellVoltages
  | bmsVersion
  | voltageLimit
  | chargeCurrentLimit
  | dischargeCurrentLimit
  | errorCode
  | warningCode
  | runtimeHours
  | mosfetTemp
  | tempSensor1
  | tempSensor2
  | tempSensor3
  | tempSensor4
  | configMode
  | configStatus
  | configValue
  | meterIp
  | ctPollingRate
  | networkInfo
  | ipAddress
  | gateway
  | subnetMask
  | dnsServer
  | localApiStatus
  deriving DecidableEq

/-- The attribute's name in the source. -/
def LegacyField.name : LegacyField → String
  | .out1Power => "out1_power"
  | .tempLow => "temp_low"
  | .tempHigh => "temp_high"
  | .wifiConnected => "wifi_connected"
  | .mqttConnected => "mqtt_connected"
  | .out1Active => "out1_active"
  | .extern1Connected => "extern1_connected"
  | .gridPower => "grid_power"
  | .solarPower => "solar_power"
  | .workMode => "work_mode"
  | .productCode => "product_code"
  | .powerRating => "power_rating"
  | .dailyEnergyCharged => "daily_energy_charged"
  | .dailyEnergyDischarged => "daily_energy_discharged"
  | .monthlyEnergyCharged => "monthly_energy_charged"
  | .monthlyEnergyDischarged => "monthly_energy_discharged"
  | .totalEnergyCharged => "total_energy_charged"
  | .totalEnergyDischarged => "total_energy_discharged"
  | .deviceType => "device_type"
  | .deviceId => "device_id"
  | .serialNumber => "serial_number"
  | .macAddress => "mac_address"
  | .firmwareVersion => "firmware_version"
  | .hardwareVersion => "hardware_version"
  | .wifiSsid => "wifi_ssid"
  | .systemStatus => "system_status"
  | .systemValue1 => "system_value_1"
  | .systemValue2 => "system_value_2"
  | .systemValue3 => "system_value_3"
  | .systemValue4 => "system_value_4"
  | .systemValue5 => "system_value_5"
  | .adaptiveModeEnabled => "adaptive_mode_enabled"
  | .smartMeterConnected => "smart_meter_connected"
  | .adaptivePowerOut => "adaptive_power_out"
  | .batterySoc => "battery_soc"
  | .batterySoh => "battery_soh"
  | .designCapacity => "design_capacity"
  | .batteryVoltage => "battery_voltage"
  | .batteryCurrent => "battery_current"
  | .batteryTemp => "battery_temp"
  | .cellVoltages => "cell_voltages"
  | .bmsVersion => "bms_version"
  | .voltageLimit => "voltage_limit"
  | .chargeCurrentLimit => "charge_current_limit"
  | .dischargeCurrentLimit => "discharge_current_limit"
  | .errorCode => "error_code"
  | .warningCode => "warning_code"
  | .runtimeHours => "runtime_hours"
  | .mosfetTemp => "mosfet_temp"
  | .tempSensor1 => "temp_sensor_1"
  | .tempSensor2 => "temp_sensor_2"
  | .tempSensor3 => "temp_sensor_3"
  | .tempSensor4 => "temp_sensor_4"
  | .configMode => "config_mode"
  | .configStatus => "config_status"
  | .configValue => "config_value"
  | .meterIp => "meter_ip"
  | .ctPollingRate => "ct_polling_rate"
  | .networkInfo => "network_info"
  | .ipAddress => "ip_address"
  | .gateway => "gateway"
  | .subnetMask => "subnet_mask"
  | .dnsServer => "dns_server"
  | .localApiStatus => "local_api_status"

structure MarstekData where
  attrs : LegacyField → Value
  fieldUpdates : String → Option UpdateEntry

namespace MarstekData

/-- `MarstekData()`. -/
def fresh : MarstekData where
  attrs := fun f => if f = .cellVoltages then .list (List.replicate 16 .none) else .none
  fieldUpdates := fun _ => none

def set (data : MarstekData) (field : LegacyField) (value : Value) : MarstekData :=
  { data with attrs := fun f => if f = field then value else data.attrs f }

def markFieldUpdate (data : MarstekData) (field : String) (command : Byte) (timestamp : ℚ)
    (payload : Bytes) : MarstekData :=
  let entry : UpdateEntry :=
    ⟨command, timestamp, if payload.isEmpty then none else some (hex payload)⟩
  { data with fieldUpdates := fun k => if k = field then some entry else data.fieldUpdates k }

end MarstekData

/-! ### Statements -/

abbrev Statement := MarstekData → Raises Unit × MarstekData

abbrev Parsing := MarstekData → Raises Bool × MarstekData

/-- `device_data.<field> = <expression>`. -/
def assign (field : LegacyField) (expression : Raises Value) : Statement := fun data =>
  match expression with
  | .ok value => (.ok (), data.set field value)
  | .error e => (.error e, data)

/-- The arguments `_track_field` is called with besides the field. -/
structure Origin where
  command : Byte
  timestamp : ℚ
  payload : Bytes

def trackName (origin : Origin) (field : String) : Statement := fun data =>
  (.ok (), data.markFieldUpdate field origin.command origin.timestamp origin.payload)

def track (origin : Origin) (field : LegacyField) : Statement := trackName origin field.name

def Value.isNone : Value → Bool
  | .none => true
  | _ => false

/-- `if getattr(device_data, field) is not None: _track_field(...)`. -/
def trackIfSet (origin : Origin) (field : LegacyField) : Statement := fun data =>
  if Value.isNone (data.attrs field) then (.ok (), data) else track origin field data

def block : List Statement → Statement
  | [], data => (.ok (), data)
  | s :: rest, data => match s data with
    | (.ok (), data) => block rest data
    | (.error e, data) => (.error e, data)

def when (condition : Prop) [Decidable condition] (s : Statement) : Statement :=
  if condition then s else block []

/-- Run the statements, then return `True`. -/
def returning (s : Statement) : Parsing := fun data =>
  match s data with
  | (.ok (), data) => (.ok true, data)
  | (.error e, data) => (.error e, data)

/-- The same inside `try`, with `return False` in the handler. -/
def trying (s : Statement) : Parsing := fun data =>
  match s data with
  | (.ok (), data) => (.ok true, data)
  | (.error _, data) => (.ok false, data)

def reject : Parsing := fun data => (.ok false, data)

/-! ### Expressions -/

/-- `struct.unpack("<c", payload[start:stop])[0]`. -/
def unpackAt (code : IntegerCode) (payload : Bytes) (start stop : Nat) : Raises Int :=
  unpackInteger code (slice payload start stop)

def asInt (e : Raises Int) : Raises Value := e.map .int

def asFloat (e : Raises Int) : Raises Value := e.map fun n => .float n

/-- `<integer> / divisor`. -/
def scaled (divisor : ℚ) (e : Raises Int) : Raises Value := e.map fun n => .float (n / divisor)

/-- `payload[i]`. -/
def byteValue (payload : Bytes) (i : Nat) : Raises Int :=
  (byteAt payload i).map fun b => (b.toNat : Int)

/-- `payload[i] != 0`. -/
def byteNonzero (payload : Bytes) (i : Nat) : Raises Value :=
  (byteAt payload i).map fun b => .bool (decide (b.toNat ≠ 0))

/-- `(payload[i] & mask) != 0`. -/
def byteMasked (payload : Bytes) (i mask : Nat) : Raises Value :=
  (byteAt payload i).map fun b => .bool (decide (b.toNat &&& mask ≠ 0))

/-! ### Payload parsers -/

/-- Statements for the short runtime format, each guarded by the payload length. -/
def shortRuntimeInfo (payload : Bytes) (origin : Origin) : Statement := block [
  when (16 ≤ payload.length) (block [
    assign .wifiConnected (byteMasked payload 15 0x01),
    assign .mqttConnected (byteMasked payload 15 0x02),
    track origin .wifiConnected,
    track origin .mqttConnected]),
  when (17 ≤ payload.length) (block [
    assign .out1Active (byteNonzero payload 16),
    track origin .out1Active]),
  when (22 ≤ payload.length) (block [
    assign .out1Power (asFloat (unpackAt .H payload 20 22)),
    track origin .out1Power]),
  when (29 ≤ payload.length) (block [
    assign .extern1Connected (byteNonzero payload 28),
    track origin .extern1Connected])]

def longRuntimeInfo (payload : Bytes) (origin : Origin) : Statement := block [
  assign .out1Power (asFloat (unpackAt .H payload 20 22)),
  assign .tempLow (scaled 10 (unpackAt .h payload 33 35)),
  assign .tempHigh (scaled 10 (unpackAt .h payload 35 37)),
  assign .wifiConnected (byteMasked payload 15 0x01),
  assign .mqttConnected (byteMasked payload 15 0x02),
  assign .out1Active (byteNonzero payload 16),
  assign .extern1Connected (byteNonzero payload 28),
  when (100 ≤ payload.length) (block [
    assign .gridPower (asFloat (unpackAt .h payload 0 2)),
    assign .solarPower (asFloat (unpackAt .h payload 2 4)),
    assign .workMode (asInt (byteValue payload 4)),
    assign .productCode (asInt (unpackAt .H payload 12 14)),
    assign .dailyEnergyCharged (scaled 100 (unpackAt .I payload 14 18)),
    assign .monthlyEnergyCharged (scaled 1000 (unpackAt .I payload 18 22)),
    assign .dailyEnergyDischarged (scaled 100 (unpackAt .I payload 22 26)),
    assign .monthlyEnergyDischarged (scaled 100 (unpackAt .I payload 26 30)),
    assign .totalEnergyCharged (scaled 100 (unpackAt .I payload 41 45)),
    assign .totalEnergyDischarged (scaled 100 (unpackAt .I payload 45 49)),
    assign .powerRating (asInt (unpackAt .H payload 74 76)),
    block ([.gridPower, .solarPower, .workMode, .productCode, .dailyEnergyCharged,
      .monthlyEnergyCharged, .dailyEnergyDischarged, .monthlyEnergyDischarged,
      .totalEnergyCharged, .totalEnergyDischarged, .powerRating].map (track origin))]),
  block ([.out1Power, .tempLow, .tempHigh, .wifiConnected, .mqttConnected, .out1Active,
    .extern1Connected].map (track origin))]

/-- `_parse_runtime_info` (0x03). -/
def parseRuntimeInfo (payload : Bytes) (timestamp : ℚ) : Parsing :=
  let origin : Origin := ⟨0x03, timestamp, payload⟩
  if payload.length < 37 then reject
  else if payload.length < 60 then trying (shortRuntimeInfo payload origin)
  else returning (longRuntimeInfo payload origin)

def deviceField (key : Text) : Option LegacyField :=
  if key = "type".toList then some .deviceType
  else if key = "id".toList then some .deviceId
  else if key = "sn".toList then some .serialNumber
  else if key = "mac".toList then some .macAddress
  else if key = "dev_ver".toList ∨ key = "fc_ver".toList ∨ key = "fw".toList then
    some .firmwareVersion
  else if key = "hw".toList then some .hardwareVersion
  else none

/-- One segment of a key/value text. -/
def assignPair (separator : Char) (fieldOf : Text → Option LegacyField) (pair : Text) :
    Statement :=
  match splitOnce separator pair with
  | none => block []
  | some (key, value) => match fieldOf (strip key) with
    | none => block []
    | some field => assign field (.ok (.str (strip value)))

/-- `_parse_device_info` (0x04). -/
def parseDeviceInfo (payload : Bytes) (timestamp : ℚ) : Parsing :=
  let origin : Origin := ⟨0x04, timestamp, payload⟩
  if payload = [] then reject
  else trying (block [
    block ((split ',' (decodeAsciiIgnore payload)).map (assignPair '=' deviceField)),
    block ([.deviceType, .deviceId, .serialNumber, .macAddress, .firmwareVersion,
      .hardwareVersion].map (trackIfSet origin))])

/-- `_parse_wifi_ssid` (0x08). -/
def parseWifiSsid (payload : Bytes) (timestamp : ℚ) : Parsing :=
  trying (block [
    assign .wifiSsid (.ok (.str (strip (decodeAsciiIgnore payload)))),
    track ⟨0x08, timestamp, payload⟩ .wifiSsid])

/-- `_parse_system_data` (0x0D). -/
def parseSystemData (payload : Bytes) (timestamp : ℚ) : Parsing :=
  if payload.length < 11 then reject
  else returning (block [
    assign .systemStatus (asInt (byteValue payload 0)),
    assign .systemValue1 (asInt (unpackAt .H payload 1 3)),
    assign .systemValue2 (asInt (unpackAt .H payload 3 5)),
    assign .systemValue3 (asInt (unpackAt .H payload 5 7)),
    assign .systemValue4 (asInt (unpackAt .H payload 7 9)),
    assign .systemValue5 (asInt (unpackAt .H payload 9 11)),
    block ([.systemStatus, .systemValue1, .systemValue2, .systemValue3, .systemValue4,
      .systemValue5].map (track ⟨0x0D, timestamp, payload⟩))])

/-- `_parse_timer_info` (0x13). -/
def parseTimerInfo (payload : Bytes) (timestamp : ℚ) : Parsing :=
  if payload.length < 45 then reject
  else returning (block [
    assign .adaptiveModeEnabled (byteNonzero payload 0),
    assign .smartMeterConnected (byteNonzero payload 37),
    assign .adaptivePowerOut (asFloat (unpackAt .H payload 38 40)),
    block ([.adaptiveModeEnabled, .smartMeterConnected, .adaptivePowerOut].map
      (track ⟨0x13, timestamp, payload⟩))])

/-- `device_data.cell_voltages[i] = value`. -/
def assignCell (i : Nat) (expression : Raises Value) : Statement := fun data =>
  match expression with
  | .error e => (.error e, data)
  | .ok value => match data.attrs .cellVoltages with
    | .list cells =>
      if i < cells.length then (.ok (), data.set .cellVoltages (.list (cells.set i value)))
      else (.error ⟨.indexError, "list assignment index out of range"⟩, data)
    | _ => (.error ⟨.typeError, "object does not support item assignment"⟩, data)

/-- One turn of the loop over the sixteen cells. -/
def parseCell (payload : Bytes) (origin : Origin) (i : Nat) : Statement :=
  let offset := 48 + i * 2
  when (offset + 1 < payload.length) (block [
    assignCell i (scaled 1000 (unpackAt .H payload offset (offset + 2))),
    trackName origin ("cell_" ++ toString (i + 1) ++ "_voltage")])

/-- `_parse_bms_data` (0x14). -/
def parseBmsData (payload : Bytes) (timestamp : ℚ) : Parsing :=
  let origin : Origin := ⟨0x14, timestamp, payload⟩
  if payload.length < 80 then reject
  else returning (block [
    assign .bmsVersion (asInt (unpackAt .H payload 0 2)),
    assign .voltageLimit (scaled 10 (unpackAt .H payload 2 4)),
    assign .chargeCurrentLimit (scaled 10 (unpackAt .H payload 4 6)),
    assign .dischargeCurrentLimit (scaled 10 (unpackAt .h payload 6 8)),
    assign .batterySoc (asFloat (unpackAt .H payload 8 10)),
    assign .batterySoh (asFloat (unpackAt .H payload 10 12)),
    assign .designCapacity (asFloat (unpackAt .H payload 12 14)),
    assign .batteryVoltage (scaled 100 (unpackAt .H payload 14 16)),
    assign .batteryCurrent (scaled 10 (unpackAt .h payload 16 18)),
    assign .batteryTemp (asFloat (unpackAt .H payload 18 20)),
    assign .errorCode (asInt (unpackAt .H payload 26 28)),
    assign .warningCode (asInt (unpackAt .I payload 28 32)),
    assign .runtimeHours (scaled 3600000 (unpackAt .I payload 32 36)),
    assign .mosfetTemp (asFloat (unpackAt .H payload 38 40)),
    assign .tempSensor1 (asFloat (unpackAt .H payload 40 42)),
    assign .tempSensor2 (asFloat (unpackAt .H payload 42 44)),
    assign .tempSensor3 (asFloat (unpackAt .H payload 44 46)),
    assign .tempSensor4 (asFloat (unpackAt .H payload 46 48)),
    block ((List.range 16).map (parseCell payload origin)),
    block ([.bmsVersion, .voltageLimit, .chargeCurrentLimit, .dischargeCurrentLimit,
      .batterySoc, .batterySoh, .designCapacity, .batteryVoltage, .batteryCurrent,
      .batteryTemp, .errorCode, .warningCode, .runtimeHours, .mosfetTemp, .tempSensor1,
      .tempSensor2, .tempSensor3, .tempSensor4].map (track origin))])

/-- `_parse_config_data` (0x1A). -/
def parseConfigData (payload : Bytes) (timestamp : ℚ) : Parsing :=
  if payload.length < 17 then reject
  else returning (block [
    assign .configMode (asInt (byteValue payload 0)),
    assign .configStatus (asInt (unpackAt .b payload 4 5)),
    assign .configValue (asInt (byteValue payload 16)),
    block ([.configMode, .configStatus, .configValue].map
      (track ⟨0x1A, timestamp, payload⟩))])

/-- `_parse_meter_ip` (0x21). -/
def parseMeterIp (payload : Bytes) (timestamp : ℚ) : Parsing :=
  if payload = [] then reject
  else trying (block [
    assign .meterIp (.ok (.str (if payload.all (· == 0xFF) then "(not set)".toList
      else stripChar '\x00' (decodeAsciiIgnore payload)))),
    track ⟨0x21, timestamp, payload⟩ .meterIp])

/-- `_parse_ct_polling_rate` (0x22). -/
def parseCtPollingRate (payload : Bytes) (timestamp : ℚ) : Parsing :=
  if payload.length < 1 then reject
  else returning (block [
    assign .ctPollingRate (asInt (byteValue payload 0)),
    track ⟨0x22, timestamp, payload⟩ .ctPollingRate])

def networkField (key : Text) : Option LegacyField :=
  if key = "ip".toList then some .ipAddress
  else if key = "gate".toList ∨ key = "gateway".toList then some .gateway
  else if key = "mask".toList then some .subnetMask
  else if key = "dns".toList then some .dnsServer
  else none

/-- `_parse_network_info` (0x24). -/
def parseNetworkInfo (payload : Bytes) (timestamp : ℚ) : Parsing :=
  let networkText := strip (decodeAsciiIgnore payload)
  trying (block [
    assign .networkInfo (.ok (.str networkText)),
    when (networkText ≠ [])
      (block ((split ',' networkText).map (assignPair ':' networkField))),
    block ([.networkInfo, .ipAddress, .gateway, .subnetMask, .dnsServer].map
      (trackIfSet ⟨0x24, timestamp, payload⟩))])

/-- `_parse_local_api_status` (0x28). -/
def parseLocalApiStatus (payload : Bytes) (timestamp : ℚ) : Parsing :=
  if payload.length < 3 then reject
  else returning (block [
    assign .localApiStatus (do
      let first ← byteAt payload 0
      let port ← unpackAt .H payload 1 3
      pure (.str ((if first = 1 then "enabled" else "disabled").toList ++
        '/' :: (toString port).toList))),
    track ⟨0x28, timestamp, payload⟩ .localApiStatus])

/-- The `if`/`elif` chain over the command byte. -/
def parseCommand (command : Byte) (payload : Bytes) (timestamp : ℚ) : Parsing :=
  if command = 0x03 then parseRuntimeInfo payload timestamp
  else if command = 0x04 then parseDeviceInfo payload timestamp
  else if command = 0x08 then parseWifiSsid payload timestamp
  else if command = 0x0D then parseSystemData payload timestamp
  else if command = 0x13 then parseTimerInfo payload timestamp
  else if command = 0x14 then parseBmsData payload timestamp
  else if command = 0x1A then parseConfigData payload timestamp
  else if command = 0x21 then parseMeterIp payload timestamp
  else if command = 0x22 then parseCtPollingRate payload timestamp
  else if command = 0x24 then parseNetworkInfo payload timestamp
  else if command = 0x28 then parseLocalApiStatus payload timestamp
  else reject

/-- `MarstekProtocol.parse_notification`, with the clock reading as a parameter. -/
def parseNotification (frame : Bytes) (timestamp : ℚ) (data : MarstekData) :
    Raises Bool × MarstekData :=
  match openFrame frame with
  | .error e => (.error e, data)
  | .ok none => (.ok false, data)
  | .ok (some (command, payload)) => match parseCommand command payload timestamp data with
    | (.error _, data) => (.ok false, data)
    | (.ok parsed, data) => (.ok parsed, data)

end MarstekBle.Legacy
