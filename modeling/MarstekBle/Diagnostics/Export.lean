/- module: Diagnostics/Export
   source: custom_components/marstek_ble/diagnostics.py, marstek_device.py; tests/conftest.py
   digest: The diagnostics of a config entry and their redaction. -/

import Mathlib.Data.Int.Log
import MarstekBle.Device.State
import MarstekBle.Lib.Redaction
import MarstekBle.Polling.Coordinator

/-!
A diagnostics document is a tree of dictionaries and lists. The records of a device
carry the times that its model leaves out; the source prints a time in ISO format.
-/

set_option autoImplicit false
set_option relaxedAutoImplicit false

namespace MarstekBle.Diagnostics

open MarstekBle.Data MarstekBle.Schema MarstekBle.Product MarstekBle.Lib.AttributeTree
open MarstekBle.Lib.Redaction

abbrev Document := Node String Value

abbrev Entries := List (String × Document)

/-! ### What is exported -/

structure CommandEntry extends Device.CommandRecord where
  timestamp : ℚ

structure NotificationEntry extends Device.NotificationRecord where
  timestamp : ℚ

structure StatsEntry extends Device.CommandStats where
  lastSuccess : Option ℚ
  lastFailure : Option ℚ
  lastNotificationTime : Option ℚ

/-- What a `MarstekBLEDevice` knows of itself and of its commands. -/
structure DeviceRecord where
  deviceName : String
  address : String
  connected : Bool
  commandHistory : List CommandEntry
  notificationHistory : List NotificationEntry
  commandStats : List (Byte × StatsEntry)
  totalCommandsSent : Nat
  totalCommandsSuccess : Nat
  totalCommandsFailure : Nat
  lastCommandError : Option String

/-- A coordinator: its polling, its cumulative data and its device. `field_updates` is
kept beside the other fields of the data class. -/
structure CoordinatorRecord where
  deviceName : String
  bleDevice : Option String
  wasUnavailable : Bool
  lastPollSuccessful : Bool
  polling : Polling.Coordinator
  data : DataClass
  fieldUpdates : List (String × UpdateEntry)
  device : DeviceRecord

/-- `entry.data`; entries made before products were told apart have no product id. -/
structure EntryData where
  address : String
  name : String
  productId : Option String

structure ConfigEntry where
  entryId : String
  title : String
  source : String
  uniqueId : Option String
  minorVersion : Nat
  version : Nat
  data : EntryData
  options : Polling.Options

/-- A config entry, and the coordinator it holds or that `hass.data` holds for it. -/
structure View where
  entry : ConfigEntry
  runtimeData : Option CoordinatorRecord
  domainData : Option CoordinatorRecord

structure Environment where
  homeAssistantVersion : String
  integrationVersion : Option String

/-! ### Documents -/

def text (s : String) : Document := .value (.str s.toList)

def textOrNone : Option String → Document
  | some s => text s
  | none => .value .none

def number (n : Int) : Document := .value (.int n)

def flag (b : Bool) : Document := .value (.bool b)

def numberOrNone : Option ℚ → Document
  | some q => .value (.float q)
  | none => .value .none

/-- To the nearest integer, a tie to the even one. -/
def roundEven (q : ℚ) : Int :=
  let below := ⌊q⌋
  let rest := q - below
  if rest < 1 / 2 ∨ rest = 1 / 2 ∧ below % 2 = 0 then below else below + 1

/-- The double-precision number nearest to a number in the normal range. -/
def nearestFloat (q : ℚ) : ℚ :=
  let unit : ℚ := 2 ^ (Int.log 2 q - 52)
  roundEven (q / unit) * unit

/-- `round(success / sent * 100, 2)`: the quotient and the product are rounded to doubles,
and the decimal stands for the double nearest to it. -/
def percentage (sent success : Nat) : ℚ :=
  roundEven (nearestFloat (nearestFloat ((success : ℚ) / sent) * 100) * 100) / 100

-- the double nearest to 23 / 160 is below it
example : percentage 160 23 = 1437 / 100 := by decide +kernel

/-- The success rate in percent. -/
def successRate (sent success : Nat) : Document :=
  numberOrNone (if sent = 0 then none else some (percentage sent success))

/-- `f"{success}/{sent}" if sent else "0/0"`. -/
def ratio (sent success : Nat) : Document :=
  text (if sent = 0 then "0/0" else toString success ++ "/" ++ toString sent)

/-- `dataclasses.asdict` of one attribute. -/
def asdict : DataTree → Document
  | .value c => .value c
  | .items ts => .items (asdictItems ts)
  | .record fs => .record (asdictFields fs)
where
  asdictItems : List DataTree → List Document
    | [] => []
    | t :: ts => asdict t :: asdictItems ts
  asdictFields : DataClass → Entries
    | [] => []
    | (field, t) :: fs => (field.name, asdict t) :: asdictFields fs

/-! ### `get_diagnostics` -/

def recentCommand (entry : CommandEntry) : Document := .record [
  ("command", text (commandHex entry.command)),
  ("payload_hex", text (hex entry.payload)),
  ("frame_hex", text (hex entry.frame)),
  ("attempts", number entry.attempts),
  ("success", flag entry.success),
  ("error", textOrNone entry.error),
  ("response", text entry.response),
  ("timestamp", numberOrNone entry.timestamp)]

def recentNotification (entry : NotificationEntry) : Document := .record [
  ("sender", number entry.sender),
  ("command", textOrNone (entry.command.map commandHex)),
  ("frame_hex", text (hex entry.frame)),
  ("payload_hex", text (hex entry.payload)),
  ("parsed", flag entry.parsed),
  ("timestamp", numberOrNone entry.timestamp)]

def statsDocument (stats : StatsEntry) : Document := .record [
  ("sent", number stats.sent),
  ("success", number stats.success),
  ("failure", number stats.failure),
  ("success_rate", successRate stats.sent stats.success),
  ("ratio", ratio stats.sent stats.success),
  ("last_success", numberOrNone stats.lastSuccess),
  ("last_failure", numberOrNone stats.lastFailure),
  ("last_notification", numberOrNone stats.lastNotificationTime),
  ("last_notification_hex", textOrNone (stats.lastNotification.map hex)),
  ("last_error", textOrNone stats.lastError)]

def overall (device : DeviceRecord) : Document := .record [
  ("total_sent", number device.totalCommandsSent),
  ("success", number device.totalCommandsSuccess),
  ("failure", number device.totalCommandsFailure),
  ("success_rate", successRate device.totalCommandsSent device.totalCommandsSuccess),
  ("ratio", ratio device.totalCommandsSent device.totalCommandsSuccess),
  ("last_error", textOrNone device.lastCommandError)]

def getDiagnostics (device : DeviceRecord) : Document := .record [
  ("device_name", text device.deviceName),
  ("address", text device.address),
  ("connected", flag device.connected),
  ("overall", overall device),
  ("recent_commands", .items (device.commandHistory.map recentCommand)),
  ("recent_notifications", .items (device.notificationHistory.map recentNotification)),
  ("command_stats", .record (device.commandStats.map fun stats =>
    (commandHex stats.1, statsDocument stats.2)))]

/-! ### `async_get_config_entry_diagnostics` -/

def fieldUpdate (update : String × UpdateEntry) : String × Document :=
  (update.1, .record [
    ("command", number update.2.command.toNat),
    ("timestamp", numberOrNone update.2.timestamp),
    ("payload_hex", textOrNone update.2.payloadHex)])

/-- `asdict(data)`. -/
def dataclassToDict (coordinator : CoordinatorRecord) : Document :=
  .record (asdict.asdictFields coordinator.data ++
    [("field_updates", .record (coordinator.fieldUpdates.map fieldUpdate))])

def pollingDocument (polling : Polling.Coordinator) : Document := .record [
  ("configured_fast_interval_seconds", number polling.pollInterval),
  ("configured_medium_interval_seconds", number polling.mediumPollInterval),
  ("active_update_interval_seconds",
    numberOrNone (if polling.updateInterval = 0 then none else some polling.updateInterval)),
  ("fast_poll_count", number polling.fastPollCount),
  ("medium_poll_count", number polling.mediumPollCount),
  ("medium_poll_cycle", number polling.mediumPollCycle)]

def coordinatorDiagnostics (coordinator : CoordinatorRecord) : Document := .record [
  ("device_name", text coordinator.deviceName),
  ("bluetooth_address", textOrNone coordinator.bleDevice),
  ("ready", flag coordinator.polling.readyEvent),
  ("was_unavailable", flag coordinator.wasUnavailable),
  ("last_poll_successful", flag coordinator.lastPollSuccessful),
  ("polling", pollingDocument coordinator.polling),
  ("device_connected", flag coordinator.device.connected),
  ("coordinator_data", dataclassToDict coordinator),
  ("device_diagnostics", getDiagnostics coordinator.device)]

def entryDataDocument (data : EntryData) : Document := .record (
  [("address", text data.address), ("name", text data.name)] ++
    (data.productId.toList.map fun productId => ("product_id", text productId)))

def optionsDocument (options : Polling.Options) : Document := .record (
  (options.pollInterval.toList.map fun seconds => ("poll_interval", number seconds)) ++
    options.mediumPollInterval.toList.map fun seconds => ("medium_poll_interval", number seconds))

def configEntryDocument (entry : ConfigEntry) : Document := .record [
  ("entry_id", text entry.entryId),
  ("title", text entry.title),
  ("source", text entry.source),
  ("unique_id", textOrNone entry.uniqueId),
  ("minor_version", number entry.minorVersion),
  ("version", number entry.version),
  ("data", entryDataDocument entry.data),
  ("options", optionsDocument entry.options)]

def environmentDocument (environment : Environment) : Document := .record [
  ("home_assistant_version", text environment.homeAssistantVersion),
  ("integration_version", textOrNone environment.integrationVersion)]

def toRedact : List String := [
  "wifi_ssid", "wifi_name", "meter_ip", "network_info", "mac_address", "device_id",
  "serial_number", "address", "bluetooth_address", "unique_id"]

/-- `async_redact_data`. -/
def asyncRedactData (keys : List String) : Document → Document :=
  redact (fun key => key ∈ keys) (text "**REDACTED**")

def View.coordinator (view : View) : Option CoordinatorRecord :=
  view.runtimeData.or view.domainData

/-- The document before its redaction. -/
def diagnosticsDocument (environment : Environment) (entry : ConfigEntry)
    (coordinator : CoordinatorRecord) : Document := .record [
  ("environment", environmentDocument environment),
  ("config_entry", configEntryDocument entry),
  ("coordinator", coordinatorDiagnostics coordinator)]

def asyncGetConfigEntryDiagnostics (environment : Environment) (view : View) : Document :=
  match view.coordinator with
  | none => .record [("error", text "coordinator_not_available")]
  | some coordinator =>
    asyncRedactData toRedact (diagnosticsDocument environment view.entry coordinator)

end MarstekBle.Diagnostics
