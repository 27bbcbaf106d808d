/- module: Standalone/Payloads
   source: standalone_test/marstek_basic_info.py
   digest: The payload parsers of the tool and the commands it reads. -/

import MarstekBle.Data.PairText
import MarstekBle.Data.Utf8
import MarstekBle.Data.Value
import MarstekBle.Lib.Dictionary
import MarstekBle.Protocol.Frame

set_option autoImplicit false
set_option relaxedAutoImplicit false

namespace MarstekBle.Standalone

open MarstekBle.Data MarstekBle.Protocol MarstekBle.Lib.Dictionary

/-- What a parser reports: scalars, lists and dictionaries, nested. A `float` is the exact
rational the source computes it from. -/
inductive Metric where
  | none
  | bool (b : Bool)
  | int (n : Int)
  | float (q : ℚ)
  | str (text : Text)
  | list (members : List Metric)
  | dict (entries : List (Text × Metric))

namespace Metric

def text (s : String) : Metric := .str s.toList

/-- A dictionary literal. -/
def record (entries : List (String × Metric)) : Metric :=
  .dict (entries.map fun e => (e.1.toList, e.2))

def nat (n : Nat) : Metric := .int n

def byte (b : Byte) : Metric := .int b.toNat

end Metric

/-- `str.lower()` and `str.isdigit()`. -/
structure StringMethods where
  lower : Text → Text
  isdigit : Text → Bool

/-! ### Readers -/

/-- `_read_le`. -/
def readLe (payload : Bytes) (offset size : Nat) (signed : Bool := false) : Option Int :=
  if offset + size > payload.length then none
  else
    let data := slice payload offset (offset + size)
    some (if signed then signedOf data else unsignedOf data)

/-- `_read_be`. -/
def readBe (payload : Bytes) (offset size : Nat) : Option Int :=
  if offset + size > payload.length then none
  else some (unsignedOf (slice payload offset (offset + size)).reverse)

/-- `_read_str`; a slice ends with the payload. -/
def readStr (payload : Bytes) (offset length : Nat) : Text :=
  strip (rstripChar '\x00' (decodeUtf8Ignore (slice payload offset (offset + length))))

section Readers

variable (payload : Bytes) (offset : Nat)

def u16 : Int := (readLe payload offset 2).getD 0
def s16 : Int := (readLe payload offset 2 true).getD 0
def u32 : Int := (readLe payload offset 4).getD 0

end Readers

/-- `n / divisor`. -/
def quotient (n : Int) (divisor : ℚ) : Metric := .float (n / divisor)

def daysInMonth (year month : Nat) : Nat :=
  if month = 2 then
    if (4 ∣ year ∧ ¬ 100 ∣ year) ∨ 400 ∣ year then 29 else 28
  else if month ∈ [4, 6, 9, 11] then 30 else 31

/-- A `datetime` without seconds. -/
structure DateTime where
  year : Nat
  month : Nat
  day : Nat
  hour : Nat
  minute : Nat
  year_range : 1 ≤ year ∧ year ≤ 9999
  month_range : 1 ≤ month ∧ month ≤ 12
  day_range : 1 ≤ day ∧ day ≤ daysInMonth year month
  time_range : hour < 24 ∧ minute < 60
  deriving DecidableEq

/-- `_safe_timestamp`; `none` where `datetime` raises. -/
def safeTimestamp (year month day hour minute : Nat) : Option DateTime :=
  if h : (1 ≤ year ∧ year ≤ 9999) ∧ (1 ≤ month ∧ month ≤ 12) ∧
      (1 ≤ day ∧ day ≤ daysInMonth year month) ∧ hour < 24 ∧ minute < 60 then
    some ⟨year, month, day, hour, minute, h.1, h.2.1, h.2.2.1, h.2.2.2⟩
  else none

/-- `dt.isoformat(sep=" ")`. -/
def DateTime.isoformat (dt : DateTime) : Text :=
  paddedDecimal 4 dt.year ++ '-' :: paddedDecimal 2 dt.month ++ '-' :: paddedDecimal 2 dt.day ++
    ' ' :: paddedDecimal 2 dt.hour ++ ':' :: paddedDecimal 2 dt.minute ++ ":00".toList

/-- `_format_dt`. -/
def formatDt (dt : Option DateTime) : Text :=
  match dt with
  | some dt => dt.isoformat
  | none => "Unknown".toList

/-! ### Runtime and battery data -/

def workModeLabel (mode : Byte) : Text :=
  match ["Auto", "Standby", "Charging", "Sell Electricity", "UPS/EPS", "Force Charge",
      "Grid Export", "Schedule/TOU"][mode.toNat]? with
  | some label => label.toList
  | none => "Unknown (".toList ++ Nat.toDigits 10 mode.toNat ++ ")".toList

/-- `bool(status & mask)`. -/
def flagSet (status mask : Byte) : Metric := .bool (decide (status &&& mask ≠ 0))

def statusFlags (statusB statusC statusD : Byte) : Metric := .record [
  ("p1_meter_connected", flagSet statusB 0x02),
  ("eco_tracker_connected", flagSet statusB 0x04),
  ("network_active", flagSet statusB 0x08),
  ("work_mode_state", .byte (statusC &&& 0x0F)),
  ("data_quality_ok", flagSet statusC 0x10),
  ("error_state", .byte (statusD &&& 0x07)),
  ("server_connected", flagSet statusD 0x08),
  ("http_active", flagSet statusD 0x10),
  ("raw", .record [
    ("status_b", .byte statusB), ("status_c", .byte statusC), ("status_d", .byte statusD)])]

/-- `text.ljust(width, fill)`. -/
def ljust (width : Nat) (fill : Char) (text : Text) : Text :=
  text ++ List.replicate (width - text.length) fill

/-- The build date, if the text is one. -/
def firmwareBuild (strings : StringMethods) (build : Text) : Text :=
  if build = [] then "Unknown".toList
  else if strings.isdigit build then
    let fb := (ljust 12 '0' build).take 12
    let part (start stop : Nat) : Text := (fb.drop start).take (stop - start)
    part 0 4 ++ '-' :: part 4 6 ++ '-' :: part 6 8 ++ ' ' :: part 8 10 ++ ':' :: part 10 12
  else build

def parseRuntimeInfo (strings : StringMethods) (payload : Bytes) : Raises Metric :=
  if payload.length < 0x68 then
    .error ⟨.valueError,
      "Runtime payload too short (" ++ toString payload.length ++ " bytes)"⟩
  else do
    let workMode ← byteAt payload 4
    let statusB ← byteAt payload 5
    let statusC ← byteAt payload 6
    let statusD ← byteAt payload 7
    let major ← byteAt payload 0x4C
    let minor ← byteAt payload 0x4D
    let parallelStatus ← byteAt payload 0x5F
    let generatorEnabled ← byteAt payload 0x60
    pure (.record [
      ("grid_power_w", .int (s16 payload 0x00)),
      ("battery_power_w", .int (s16 payload 0x02)),
      ("work_mode_id", .byte workMode),
      ("work_mode_label", .str (workModeLabel workMode)),
      ("status_b", .byte statusB),
      ("status_c", .byte statusC),
      ("status_d", .byte statusD),
      ("status_flags", statusFlags statusB statusC statusD),
      ("product_code", .int (u16 payload 0x0C)),
      ("power_rating_w", .int (u16 payload 0x4A)),
      ("daily_charge_kwh", quotient (u32 payload 0x0E) 100),
      ("monthly_charge_kwh", quotient (u32 payload 0x12) 1000),
      ("daily_discharge_kwh", quotient (u32 payload 0x16) 100),
      ("monthly_discharge_kwh", quotient (u32 payload 0x1A) 100),
      ("total_charge_kwh", quotient (u32 payload 0x29) 100),
      ("total_discharge_kwh", quotient (u32 payload 0x2D) 100),
      ("firmware_version", .str ('v' :: Nat.toDigits 10 major.toNat ++ '.' ::
        Nat.toDigits 10 minor.toNat)),
      ("build_code", .int ((readBe payload 0x4E 2).getD 0)),
      ("firmware_build", .str (firmwareBuild strings (readStr payload 0x51 12))),
      ("reserved_counter", .int (u16 payload 0x5E)),
      ("parallel_status", .byte parallelStatus),
      ("generator_enabled", .byte generatorEnabled),
      ("calibration_tag_1", .int (u16 payload 0x62)),
      ("calibration_tag_2", .int (u16 payload 0x64)),
      ("api_port", .int (u16 payload 0x66))])

/-- `f"{voltage / 1000:.3f}"`. -/
def millivolts (voltage : Int) : Text :=
  (toString (voltage / 1000)).toList ++ '.' :: paddedDecimal 3 (voltage % 1000)

/-- The offsets of `range(48, min(len(payload), 82), 2)`. -/
def cellOffsets (payload : Bytes) : List Nat :=
  (List.range ((min payload.length 82 - 48 + 1) / 2)).map fun i => 48 + 2 * i

def cellVoltages (payload : Bytes) : List Metric :=
  ((cellOffsets payload).map (u16 payload)).filterMap fun voltage =>
    if 0 < voltage ∧ voltage < 5000 then some (.str (millivolts voltage)) else none

def parseBmsData (payload : Bytes) : Raises Metric :=
  if payload.length < 80 then
    .error ⟨.valueError, "BMS payload too short (" ++ toString payload.length ++ " bytes)"⟩
  else .ok (.record [
    ("bms_version", .int (u16 payload 0)),
    ("voltage_limit_v", quotient (u16 payload 2) 10),
    ("charge_current_limit_a", quotient (u16 payload 4) 10),
    ("discharge_current_limit_a", quotient (s16 payload 6) 10),
    ("remaining_capacity_pct", .int (u16 payload 8)),
    ("state_of_health_pct", .int (u16 payload 10)),
    ("design_capacity_wh", .int (u16 payload 12)),
    ("voltage_v", quotient (u16 payload 14) 100),
    ("battery_current_a", quotient (s16 payload 16) 10),
    ("battery_temperature_c", .int (u16 payload 18)),
    ("error_code", .int (u16 payload 26)),
    ("warning_code", .int (u32 payload 28)),
    ("runtime_ms", .int (u32 payload 32)),
    ("mosfet_temperature_c", .int (u16 payload 38)),
    ("temperature_1_c", .int (u16 payload 40)),
    ("temperature_2_c", .int (u16 payload 42)),
    ("temperature_3_c", .int (u16 payload 44)),
    ("temperature_4_c", .int (u16 payload 46)),
    ("cell_voltages_v", .list (cellVoltages payload))])

/-- `payload[i] if len(payload) > i else 0`. -/
def byteOrZero (payload : Bytes) (i : Nat) : Metric := .byte ((payload[i]?).getD 0)

def parseSystemData (payload : Bytes) : Raises Metric := .ok (.record [
  ("system_status", byteOrZero payload 0),
  ("line_frequency_hz", .int (u16 payload 2)),
  ("ac_voltage_v", .int (u16 payload 4)),
  ("reserved", .int (u16 payload 6)),
  ("temperatures_c", .list ((List.range 5).map fun i => .int (u16 payload (8 + 2 * i)))),
  ("work_mode", byteOrZero payload 18)])

/-- `bool(len(payload) > i and payload[i])`. -/
def byteSet (payload : Bytes) (i : Nat) : Metric := .bool ((payload[i]?).any (· ≠ 0))

def parseConfigData (payload : Bytes) : Raises Metric := .ok (.record [
  ("mode", byteOrZero payload 0),
  ("flags", byteOrZero payload 1),
  ("config_status", byteOrZero payload 4),
  ("status_bytes", .text (if 8 ≤ payload.length then hex (slice payload 5 8) else "")),
  ("enable_flag_1", byteSet payload 8),
  ("enable_flag_2", byteSet payload 12),
  ("config_value", byteOrZero payload 16)])

/-! ### Texts -/

/-- `payload.rstrip(b"\x00")`. -/
def rstripZeros (payload : Bytes) : Bytes := (payload.reverse.dropWhile (· == 0)).reverse

/-- The pair of one chunk of the device information. -/
def deviceEntry (chunk : Text) : Option (Text × Metric) :=
  (splitOnce '=' (strip chunk)).map fun pair => (strip pair.1, .str (strip pair.2))

def parseDeviceInfo (payload : Bytes) : Raises Metric :=
  .ok (.dict (stored
    ((split ',' (decodeUtf8Ignore (rstripZeros payload))).filterMap deviceEntry)))

def parseWifiInfo (payload : Bytes) : Raises Metric :=
  let ssid := strip (decodeUtf8Ignore payload)
  .ok (.record [
    ("ssid", if ssid = [] then .text "Not connected" else .str ssid),
    ("connected", .bool (decide (ssid ≠ [])))])

def parseMeterIp (payload : Bytes) : Raises Metric :=
  let notConfigured := Metric.record [
    ("ip_address", .text "Not configured"), ("configured", .bool false)]
  let ipBytes := payload.take 16
  if ipBytes.all (· == 0) ∨ ipBytes.all (· == 0xFF) then .ok notConfigured
  else
    let ip := decodeUtf8Ignore (ipBytes.takeWhile (· != 0))
    if ip = [] then .ok notConfigured
    else .ok (.record [("ip_address", .str ip), ("configured", .bool true)])

/-- The key a part of the network information is stored under. -/
def networkKey (key : Text) : Option Text :=
  if ["ip", "gate", "gateway", "mask", "dns"].contains (String.ofList key) then
    some (if key = "gate".toList then "gateway".toList else key)
  else none

def networkEntry (strings : StringMethods) (part : Text) : Option (Text × Metric) :=
  (splitOnce ':' part).bind fun pair =>
    (networkKey (strings.lower (strip pair.1))).map fun key => (key, .str (strip pair.2))

def parseNetworkInfo (strings : StringMethods) (payload : Bytes) : Raises Metric :=
  let config := decodeUtf8Ignore payload
  .ok (.dict (stored (("raw".toList, .str config) ::
    (split ',' config).filterMap (networkEntry strings))))

/-! ### Record logs -/

/-- The complete records of a payload. -/
def recordChunks (recordSize : Nat) (payload : Bytes) : List Bytes :=
  (List.range (payload.length / recordSize)).map fun i =>
    slice payload (i * recordSize) (i * recordSize + recordSize)

/-- `_parse_records`; both parsers return a dictionary, which is not empty. -/
def parseRecords (recordSize : Nat) (parser : Bytes → Raises Metric) (payload : Bytes) :
    Raises (List Metric) :=
  ((recordChunks recordSize payload).filter fun chunk => !chunk.all (· == 0)).mapM parser

/-- The time stamp both kinds of records begin with. -/
def recordTime (chunk : Bytes) : Raises (List (String × Metric)) := do
  let year := ((readLe chunk 0 2).getD 0).toNat
  let month ← byteAt chunk 2
  let day ← byteAt chunk 3
  let hour ← byteAt chunk 4
  let minute ← byteAt chunk 5
  pure [
    ("timestamp", .str (formatDt
      (safeTimestamp year month.toNat day.toNat hour.toNat minute.toNat))),
    ("year", .nat year),
    ("month", .byte month),
    ("day", .byte day),
    ("hour", .byte hour),
    ("minute", .byte minute)]

def parseErrorRecord (chunk : Bytes) : Raises Metric := do
  let time ← recordTime chunk
  let code ← byteAt chunk 6
  pure (.record (time ++ [("error_code", .byte code), ("data", .text (hex (slice chunk 7 14)))]))

def parseEventRecord (chunk : Bytes) : Raises Metric := do
  let time ← recordTime chunk
  let eventType ← byteAt chunk 6
  pure (.record (time ++ [("type", .byte eventType), ("code", .int (u16 chunk 7))]))

/-- The record count and the last record; a log begins with 14 bytes of its own. -/
def parseLog (recordSize : Nat) (parser : Bytes → Raises Metric) (latest : String)
    (payload : Bytes) : Raises Metric := do
  let records ← parseRecords recordSize parser (payload.drop 14)
  pure (.record [
    ("record_count", .nat records.length),
    (latest, records.getLast?.getD (.dict []))])

def parseErrorLog : Bytes → Raises Metric := parseLog 14 parseErrorRecord "latest_error"

def parseEventLog : Bytes → Raises Metric := parseLog 9 parseEventRecord "latest_event"

/-! ### The commands -/

structure CommandSpec where
  key : String
  commandId : Byte
  name : String
  parser : Bytes → Raises Metric

/-- `SAFE_COMMANDS`. -/
def safeCommands (strings : StringMethods) : List CommandSpec := [
  ⟨"runtime", 0x03, "Runtime Info", parseRuntimeInfo strings⟩,
  ⟨"device_info", 0x04, "Device Info", parseDeviceInfo⟩,
  ⟨"wifi", 0x08, "WiFi Info", parseWifiInfo⟩,
  ⟨"system_data", 0x0D, "System Data", parseSystemData⟩,
  ⟨"error_log", 0x13, "Error Codes", parseErrorLog⟩,
  ⟨"bms", 0x14, "BMS Data", parseBmsData⟩,
  ⟨"config", 0x1A, "Config Data", parseConfigData⟩,
  ⟨"event_log", 0x1C, "Event Log", parseEventLog⟩,
  ⟨"meter_ip", 0x21, "Meter IP", parseMeterIp⟩,
  ⟨"network", 0x24, "Network Info", parseNetworkInfo strings⟩]

end MarstekBle.Standalone
