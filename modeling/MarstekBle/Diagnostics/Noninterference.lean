/- module: Diagnostics/Noninterference
   source: custom_components/marstek_ble/diagnostics.py, marstek_device.py
   digest: Which identifying values a config entry's diagnostics show. -/

import Mathlib.Data.Option.Basic
import MarstekBle.Diagnostics.Export

set_option autoImplicit false
set_option relaxedAutoImplicit false

namespace MarstekBle.Diagnostics

open MarstekBle.Data MarstekBle.Schema MarstekBle.Product MarstekBle.Lib.AttributeTree
open MarstekBle.Lib.Redaction

/-! ### Views that differ in identifying values only -/

/-- The attributes of a data object whose values identify the device, its owner's
networks or its place in them. -/
def identifying : List String := [
  "wifi_ssid", "wifi_name", "mac_address", "device_id", "serial_number", "meter_ip",
  "network_info", "ip_address", "gateway", "subnet_mask", "dns_server"]

/-- The keys of raw frames and payloads. -/
def rawHex : List String := ["payload_hex", "frame_hex", "last_notification_hex"]

/-- Part of a text: as it stands, or one of the addresses at hand. -/
inductive TextPart where
  | literal (s : String)
  | address (i : Nat)

def TextPart.render (addresses : List String) : TextPart → String
  | .literal s => s
  | .address i => addresses.getD i ""

/-- The texts are the same apart from the addresses they mention. -/
def SameText (addresses addresses' : List String) (x y : String) : Prop :=
  ∃ parts : List TextPart, x = String.join (parts.map (TextPart.render addresses)) ∧
    y = String.join (parts.map (TextPart.render addresses'))

structure EntriesDiffer (e e' : ConfigEntry) : Prop where
  entryId : e.entryId = e'.entryId
  title : SameText [e.data.address] [e'.data.address] e.title e'.title
  source : e.source = e'.source
  minorVersion : e.minorVersion = e'.minorVersion
  version : e.version = e'.version
  name : SameText [e.data.address] [e'.data.address] e.data.name e'.data.name
  productId : e.data.productId = e'.data.productId
  options : e.options = e'.options

variable (addresses addresses' : List String)

/-- Frames and payloads may differ in anything. -/
structure CommandsDiffer (x y : CommandEntry) : Prop where
  command : x.command = y.command
  attempts : x.attempts = y.attempts
  success : x.success = y.success
  error : Option.Rel (SameText addresses addresses') x.error y.error
  response : x.response = y.response
  timestamp : x.timestamp = y.timestamp

structure NotificationsDiffer (x y : NotificationEntry) : Prop where
  sender : x.sender = y.sender
  command : x.command = y.command
  parsed : x.parsed = y.parsed
  timestamp : x.timestamp = y.timestamp

structure StatsDiffer (x y : Byte × StatsEntry) : Prop where
  command : x.1 = y.1
  sent : x.2.sent = y.2.sent
  success : x.2.success = y.2.success
  failure : x.2.failure = y.2.failure
  lastSuccess : x.2.lastSuccess = y.2.lastSuccess
  lastFailure : x.2.lastFailure = y.2.lastFailure
  lastNotificationTime : x.2.lastNotificationTime = y.2.lastNotificationTime
  lastError : Option.Rel (SameText addresses addresses') x.2.lastError y.2.lastError

structure DevicesDiffer (d d' : DeviceRecord) : Prop where
  deviceName : SameText addresses addresses' d.deviceName d'.deviceName
  connected : d.connected = d'.connected
  commandHistory : List.Forall₂ (CommandsDiffer addresses addresses')
    d.commandHistory d'.commandHistory
  notificationHistory : List.Forall₂ NotificationsDiffer
    d.notificationHistory d'.notificationHistory
  commandStats : List.Forall₂ (StatsDiffer addresses addresses') d.commandStats d'.commandStats
  totalCommandsSent : d.totalCommandsSent = d'.totalCommandsSent
  totalCommandsSuccess : d.totalCommandsSuccess = d'.totalCommandsSuccess
  totalCommandsFailure : d.totalCommandsFailure = d'.totalCommandsFailure
  lastCommandError : Option.Rel (SameText addresses addresses')
    d.lastCommandError d'.lastCommandError

structure UpdatesDiffer (x y : String × UpdateEntry) : Prop where
  key : x.1 = y.1
  command : x.2.command = y.2.command
  timestamp : x.2.timestamp = y.2.timestamp

structure CoordinatorsDiffer (c c' : CoordinatorRecord) : Prop where
  deviceName : SameText addresses addresses' c.deviceName c'.deviceName
  wasUnavailable : c.wasUnavailable = c'.wasUnavailable
  lastPollSuccessful : c.lastPollSuccessful = c'.lastPollSuccessful
  polling : c.polling = c'.polling
  data : FieldsDiffer (fun key => key ∈ identifying)
    (asdict.asdictFields c.data) (asdict.asdictFields c'.data)
  fieldUpdates : List.Forall₂ UpdatesDiffer c.fieldUpdates c'.fieldUpdates
  device : DevicesDiffer addresses addresses' c.device c'.device

/-- The views differ only in identifying values that the device reported or the entry
holds, and in raw frames and payloads. -/
structure DifferInIdentifiers (a b : View) : Prop where
  entry : EntriesDiffer a.entry b.entry
  coordinator : Option.Rel (fun c c' => CoordinatorsDiffer
    [a.entry.data.address, c.device.address] [b.entry.data.address, c'.device.address] c c')
    a.coordinator b.coordinator

/-! ### What no listed key covers -/

/-- The network addresses whose keys are not listed. -/
def unlistedAddresses : List String := ["ip_address", "gateway", "subnet_mask", "dns_server"]

/-- What a comparison of diagnostics disregards: raw hex, and what is redacted. -/
def disregarded (key : String) : Bool := key ∈ rawHex || key ∈ toRedact

/-- The values a data object holds at them, in the order of its attributes. -/
def CoordinatorRecord.networkAddresses (c : CoordinatorRecord) : List Value :=
  exposedFields (fun key => key ∈ unlistedAddresses) disregarded (asdict.asdictFields c.data)

/-- The error texts a device has recorded. -/
def DeviceRecord.errors (d : DeviceRecord) : List (Option String) :=
  d.commandHistory.map (·.error) ++ d.commandStats.map (·.2.lastError) ++ [d.lastCommandError]

/-- Two views hold the same identifying values wherever no listed key covers them. -/
structure UnlistedAgree (e e' : ConfigEntry) (c c' : CoordinatorRecord) : Prop where
  title : e.title = e'.title
  name : e.data.name = e'.data.name
  coordinatorName : c.deviceName = c'.deviceName
  deviceName : c.device.deviceName = c'.device.deviceName
  errors : c.device.errors = c'.device.errors
  networkAddresses : c.networkAddresses = c'.networkAddresses

/-! ### Leaves of a document -/

variable {addresses addresses'} {listed : String → Bool}

@[simp] theorem sameOutside_text_iff (s t : String) :
    SameOutside listed (text s) (text t) ↔ s = t := by
  simp [text, SameOutside, String.toList_inj]

@[simp] theorem sameOutside_textOrNone_iff (s t : Option String) :
    SameOutside listed (textOrNone s) (textOrNone t) ↔ s = t := by
  cases s <;> cases t <;> simp [textOrNone, text, SameOutside, String.toList_inj]

@[simp] theorem sameOutside_self_iff (t : Document) : SameOutside listed t t ↔ True :=
  iff_true_intro (sameOutside_refl listed t)

@[simp] theorem sameFields_self_iff (fs : Entries) : SameFields listed fs fs ↔ True :=
  iff_true_intro (sameOutside_refl listed (.record fs))

/-- A key that names a command is neither disregarded nor redacted. -/
theorem disregarded_commandHex (command : Byte) : disregarded (commandHex command) = false := by
  have first : (commandHex command).toList.head? = some '0' := by simp [commandHex]
  have others : ∀ key ∈ rawHex ++ toRedact, key.toList.head? ≠ some '0' := by decide
  have unlisted : commandHex command ∉ rawHex ++ toRedact :=
    fun member => others _ member first
  simpa [disregarded] using unlisted

/-! ### The parts of the document -/

theorem recentCommand_iff {x y : CommandEntry} (h : CommandsDiffer addresses addresses' x y) :
    SameOutside disregarded (recentCommand x) (recentCommand y) ↔ x.error = y.error := by
  simp [recentCommand, SameOutside, SameFields, disregarded, rawHex, toRedact, h.command,
    h.attempts, h.success, h.response, h.timestamp]

theorem recentNotification_same {x y : NotificationEntry} (h : NotificationsDiffer x y) :
    SameOutside disregarded (recentNotification x) (recentNotification y) := by
  simp [recentNotification, SameOutside, SameFields, disregarded, rawHex, toRedact, h.sender,
    h.command, h.parsed, h.timestamp]

theorem statsDocument_iff {x y : Byte × StatsEntry} (h : StatsDiffer addresses addresses' x y) :
    SameOutside disregarded (statsDocument x.2) (statsDocument y.2) ↔
      x.2.lastError = y.2.lastError := by
  simp [statsDocument, SameOutside, SameFields, disregarded, rawHex, toRedact, h.sent, h.success,
    h.failure, h.lastSuccess, h.lastFailure, h.lastNotificationTime]

theorem overall_iff {d d' : DeviceRecord} (h : DevicesDiffer addresses addresses' d d') :
    SameOutside disregarded (overall d) (overall d') ↔
      d.lastCommandError = d'.lastCommandError := by
  simp [overall, SameOutside, SameFields, disregarded, rawHex, toRedact, h.totalCommandsSent,
    h.totalCommandsSuccess, h.totalCommandsFailure]

theorem recentCommands_iff {xs ys : List CommandEntry}
    (h : List.Forall₂ (CommandsDiffer addresses addresses') xs ys) :
    SameItems disregarded (xs.map recentCommand) (ys.map recentCommand) ↔
      xs.map (fun x => x.error) = ys.map (fun y => y.error) := by
  refine sameItems_map_iff disregarded recentCommand (fun x => x.error) ?_ h
  intro x y differ
  exact recentCommand_iff differ

theorem recentNotifications_same {xs ys : List NotificationEntry}
    (h : List.Forall₂ NotificationsDiffer xs ys) :
    SameItems disregarded (xs.map recentNotification) (ys.map recentNotification) := by
  induction h with
  | nil => trivial
  | cons head tail ih => exact ⟨recentNotification_same head, ih⟩

theorem commandStats_iff {xs ys : List (Byte × StatsEntry)}
    (h : List.Forall₂ (StatsDiffer addresses addresses') xs ys) :
    SameFields disregarded (xs.map fun x => (commandHex x.1, statsDocument x.2))
      (ys.map fun y => (commandHex y.1, statsDocument y.2)) ↔
      xs.map (fun x => x.2.lastError) = ys.map (fun y => y.2.lastError) := by
  have keys : ∀ x y, StatsDiffer addresses addresses' x y → commandHex x.1 = commandHex y.1 :=
    fun x y differ => congrArg commandHex differ.command
  have unlisted : ∀ x : Byte × StatsEntry, disregarded (commandHex x.1) = false :=
    fun x => disregarded_commandHex x.1
  have each : ∀ x y, StatsDiffer addresses addresses' x y →
      (SameOutside disregarded (statsDocument x.2) (statsDocument y.2) ↔
        x.2.lastError = y.2.lastError) := fun x y differ => statsDocument_iff differ
  have same := sameFields_map_iff (R := StatsDiffer addresses addresses') disregarded
    (fun x => commandHex x.1) (fun x => statsDocument x.2) (fun x => x.2.lastError) keys unlisted
    each h
  exact same

/-- A device shows its name and its error texts. -/
theorem getDiagnostics_iff {d d' : DeviceRecord} (h : DevicesDiffer addresses addresses' d d') :
    SameOutside disregarded (getDiagnostics d) (getDiagnostics d') ↔
      d.deviceName = d'.deviceName ∧ d.errors = d'.errors := by
  have parts : SameOutside disregarded (getDiagnostics d) (getDiagnostics d') ↔
      d.deviceName = d'.deviceName ∧ SameOutside disregarded (overall d) (overall d') ∧
        SameItems disregarded (d.commandHistory.map recentCommand)
          (d'.commandHistory.map recentCommand) ∧
        SameItems disregarded (d.notificationHistory.map recentNotification)
          (d'.notificationHistory.map recentNotification) ∧
        SameFields disregarded
          (d.commandStats.map fun stats => (commandHex stats.1, statsDocument stats.2))
          (d'.commandStats.map fun stats => (commandHex stats.1, statsDocument stats.2)) := by
    simp [getDiagnostics, SameOutside, SameFields, disregarded, rawHex, toRedact, h.connected]
  have errors : d.errors = d'.errors ↔
      d.commandHistory.map (·.error) = d'.commandHistory.map (·.error) ∧
        d.commandStats.map (·.2.lastError) = d'.commandStats.map (·.2.lastError) ∧
        d.lastCommandError = d'.lastCommandError := by
    have length := h.commandHistory.length_eq
    constructor
    · intro same
      obtain ⟨recorded, last⟩ := List.append_inj' same rfl
      obtain ⟨commands, stats⟩ := List.append_inj recorded (by simpa using length)
      exact ⟨commands, stats, by simpa using last⟩
    · rintro ⟨commands, stats, last⟩
      simp only [DeviceRecord.errors, commands, stats, last]
  rw [parts, errors, overall_iff h, recentCommands_iff h.commandHistory,
    commandStats_iff h.commandStats]
  have same := recentNotifications_same h.notificationHistory
  tauto

theorem fieldUpdates_same {xs ys : List (String × UpdateEntry)}
    (h : List.Forall₂ UpdatesDiffer xs ys) :
    SameFields disregarded (xs.map fieldUpdate) (ys.map fieldUpdate) := by
  induction h with
  | nil => trivial
  | cons head tail ih =>
    refine ⟨head.key, .inr ?_, ih⟩
    simp [SameOutside, SameFields, disregarded, rawHex, toRedact, head.command, head.timestamp]

/-- Of the identifying attributes, the list leaves out the network addresses. -/
theorem mem_identifying_iff {key : String} (shown : disregarded key = false) :
    decide (key ∈ identifying) = decide (key ∈ unlistedAddresses) := by
  simp only [disregarded, Bool.or_eq_false_iff, decide_eq_false_iff_not] at shown
  have unlisted := shown.2
  simp only [toRedact, List.mem_cons, not_or] at unlisted
  simp only [identifying, unlistedAddresses, List.mem_cons, decide_eq_decide]
  tauto

/-- A data object shows the network addresses it holds. -/
theorem dataclassToDict_iff {c c' : CoordinatorRecord}
    (h : CoordinatorsDiffer addresses addresses' c c') :
    SameOutside disregarded (dataclassToDict c) (dataclassToDict c') ↔
      c.networkAddresses = c'.networkAddresses := by
  have updates : SameFields disregarded
      [("field_updates", .record (c.fieldUpdates.map fieldUpdate))]
      [("field_updates", .record (c'.fieldUpdates.map fieldUpdate))] :=
    ⟨rfl, .inr (fieldUpdates_same h.fieldUpdates), trivial⟩
  have whole : DifferInSecrets (fun key => key ∈ identifying)
      (.record (asdict.asdictFields c.data)) (.record (asdict.asdictFields c'.data)) := h.data
  have shown : SameFields disregarded (asdict.asdictFields c.data)
      (asdict.asdictFields c'.data) ↔ c.networkAddresses = c'.networkAddresses := by
    have secrets := sameOutside_iff_exposed disregarded whole
    rw [exposed_congr fun _ shown => mem_identifying_iff shown,
      exposed_congr fun _ shown => mem_identifying_iff shown] at secrets
    exact secrets
  show SameFields disregarded (_ ++ _) (_ ++ _) ↔ _
  rw [sameFields_append h.data.length_eq, shown]
  exact and_iff_left updates

theorem configEntryDocument_iff {e e' : ConfigEntry} (h : EntriesDiffer e e') :
    SameOutside disregarded (configEntryDocument e) (configEntryDocument e') ↔
      e.title = e'.title ∧ e.data.name = e'.data.name := by
  simp [configEntryDocument, entryDataDocument, SameOutside, SameFields, disregarded, rawHex,
    toRedact, h.entryId, h.source, h.minorVersion, h.version, h.options, h.productId]

theorem coordinatorDiagnostics_iff {c c' : CoordinatorRecord}
    (h : CoordinatorsDiffer addresses addresses' c c') :
    SameOutside disregarded (coordinatorDiagnostics c) (coordinatorDiagnostics c') ↔
      c.deviceName = c'.deviceName ∧ c.networkAddresses = c'.networkAddresses ∧
        c.device.deviceName = c'.device.deviceName ∧ c.device.errors = c'.device.errors := by
  rw [← dataclassToDict_iff h, ← getDiagnostics_iff h.device]
  simp [coordinatorDiagnostics, SameOutside, SameFields, disregarded, rawHex, toRedact,
    h.wasUnavailable, h.lastPollSuccessful, h.polling, h.device.connected]

/-- A comparison of redacted documents is one of the documents under the longer list. -/
theorem asyncRedactData_iff (d d' : Document) :
    SameOutside (fun key => key ∈ rawHex) (asyncRedactData toRedact d)
      (asyncRedactData toRedact d') ↔ SameOutside disregarded d d' :=
  sameOutside_redact_iff d d'

theorem diagnosticsDocument_iff (environment : Environment) {e e' : ConfigEntry}
    {c c' : CoordinatorRecord} (entries : EntriesDiffer e e')
    (coordinators : CoordinatorsDiffer addresses addresses' c c') :
    SameOutside disregarded (diagnosticsDocument environment e c)
      (diagnosticsDocument environment e' c') ↔ UnlistedAgree e e' c c' := by
  have parts : SameOutside disregarded (diagnosticsDocument environment e c)
      (diagnosticsDocument environment e' c') ↔
      SameOutside disregarded (configEntryDocument e) (configEntryDocument e') ∧
        SameOutside disregarded (coordinatorDiagnostics c) (coordinatorDiagnostics c') := by
    simp [diagnosticsDocument, SameOutside, SameFields, disregarded, rawHex, toRedact]
  rw [parts, configEntryDocument_iff entries, coordinatorDiagnostics_iff coordinators]
  constructor
  · rintro ⟨⟨title, name⟩, coordinatorName, networkAddresses, deviceName, errors⟩
    exact ⟨title, name, coordinatorName, deviceName, errors, networkAddresses⟩
  · intro agree
    exact ⟨⟨agree.title, agree.name⟩, agree.coordinatorName, agree.networkAddresses,
      agree.deviceName, agree.errors⟩

/-- Views that differ in identifying values have the same diagnostics, raw hex apart,
exactly if the entry has no coordinator or the values no listed key covers agree. -/
theorem diagnostics_agree_iff (environment : Environment) {a b : View}
    (differ : DifferInIdentifiers a b) :
    SameOutside (fun key => key ∈ rawHex) (asyncGetConfigEntryDiagnostics environment a)
        (asyncGetConfigEntryDiagnostics environment b) ↔
      ∀ c ∈ a.coordinator, ∀ c' ∈ b.coordinator, UnlistedAgree a.entry b.entry c c' := by
  have related := differ.coordinator
  unfold asyncGetConfigEntryDiagnostics
  revert related
  cases a.coordinator <;> cases b.coordinator <;> intro related
  case none.none => simp
  case none.some => cases related
  case some.none => cases related
  case some.some c c' =>
    obtain ⟨coordinators⟩ := related
    simp only [Option.mem_some_iff, forall_eq']
    rw [asyncRedactData_iff, diagnosticsDocument_iff environment differ.entry coordinators]

/-! ### A Venus device -/

/-- The data of a Venus device that reported a Wi-Fi name and its address. -/
def venusDataOn (wifiName ipAddress : Text) : DataClass := [
  sectionField "runtime" Venus.venusRuntimeData,
  sectionField "battery" Venus.venusBatteryData,
  sectionField "system" Venus.venusSystemData,
  sectionField "timer" Venus.venusTimerData,
  sectionField "configuration" Venus.venusConfigurationData,
  sectionField "device" Venus.venusDeviceInformation,
  sectionField "network" [
    valueField "wifi_ssid" (sensor "wifi_ssid" "WiFi SSID") (.str wifiName),
    valueField "meter_ip" (sensor "meter_ip" "Meter IP"),
    valueField "network_info" (sensor "network_info" "Network Info")
      (.str ("ip:".toList ++ ipAddress)),
    valueField "ip_address" (sensor "ip_address" "IP Address") (.str ipAddress),
    valueField "gateway" (sensor "gateway" "Gateway"),
    valueField "subnet_mask" (sensor "subnet_mask" "Subnet Mask"),
    valueField "dns_server" (sensor "dns_server" "DNS Server"),
    plainField "local_api_status"]]

def venusView (wifiName ipAddress : Text) : View where
  entry := {
    entryId := "entry-1"
    title := "MST_ACCP_1234"
    source := "bluetooth"
    uniqueId := some "AA:BB:CC:DD:EE:FF"
    minorVersion := 1
    version := 1
    data := ⟨"AA:BB:CC:DD:EE:FF", "MST_ACCP_1234", some "venus"⟩
    options := {} }
  runtimeData := some {
    deviceName := "MST_ACCP_1234"
    bleDevice := some "AA:BB:CC:DD:EE:FF"
    wasUnavailable := false
    lastPollSuccessful := true
    polling := { product := Venus.venusRuntime, pollInterval := 1, mediumPollInterval := 60 }
    data := venusDataOn wifiName ipAddress
    fieldUpdates := []
    device := {
      deviceName := "MST_ACCP_1234"
      address := "AA:BB:CC:DD:EE:FF"
      connected := true
      commandHistory := []
      notificationHistory := []
      commandStats := []
      totalCommandsSent := 0
      totalCommandsSuccess := 0
      totalCommandsFailure := 0
      lastCommandError := none } }
  domainData := none

theorem sameText_self (addresses addresses' : List String) (s : String) :
    SameText addresses addresses' s s :=
  ⟨[.literal s], by simp [TextPart.render, String.join], by simp [TextPart.render, String.join]⟩

/-- Only identifying attributes of the network section differ. -/
theorem venusDataOn_differ (wifiName wifiName' ipAddress ipAddress' : Text) :
    FieldsDiffer (fun key => key ∈ identifying)
      (asdict.asdictFields (venusDataOn wifiName ipAddress))
      (asdict.asdictFields (venusDataOn wifiName' ipAddress')) := by
  have unchanged (t : Document) : DifferInSecrets (fun key => key ∈ identifying) t t :=
    differInSecrets_refl _ t
  have secret (key : String) (listed : key ∈ identifying) (c d : Value) :
      (decide (key ∈ identifying) = true ∧ ∃ c' d', Node.value (F := String) c = .value c' ∧
        Node.value (F := String) d = .value d') :=
    ⟨decide_eq_true listed, c, d, rfl, rfl⟩
  refine ⟨rfl, .inr (unchanged _), rfl, .inr (unchanged _), rfl, .inr (unchanged _),
    rfl, .inr (unchanged _), rfl, .inr (unchanged _), rfl, .inr (unchanged _),
    rfl, .inr ?_, trivial⟩
  exact ⟨rfl, .inl (secret _ (by decide) _ _), rfl, .inr rfl, rfl, .inl (secret _ (by decide) _ _),
    rfl, .inl (secret _ (by decide) _ _), rfl, .inr rfl, rfl, .inr rfl, rfl, .inr rfl,
    rfl, .inr rfl, trivial⟩

theorem venusView_differ (wifiName wifiName' ipAddress ipAddress' : Text) :
    DifferInIdentifiers (venusView wifiName ipAddress) (venusView wifiName' ipAddress') where
  entry := ⟨rfl, sameText_self _ _ _, rfl, rfl, rfl, sameText_self _ _ _, rfl, rfl⟩
  coordinator := by
    refine .some ⟨sameText_self _ _ _, rfl, rfl, rfl, venusDataOn_differ _ _ _ _, .nil, ?_⟩
    exact ⟨sameText_self _ _ _, rfl, .nil, .nil, .nil, rfl, rfl, rfl, .none⟩

theorem networkAddresses_venusView {wifiName ipAddress : Text} {c : CoordinatorRecord}
    (h : c ∈ (venusView wifiName ipAddress).coordinator) :
    c.networkAddresses = [.str ipAddress, .none, .none, .none] := by
  obtain rfl := Option.some.inj h
  rfl

/-- Two Wi-Fi names and one address. -/
theorem diagnostics_agree_iff_wifi_names :
    SameOutside (fun key => key ∈ rawHex)
      (asyncGetConfigEntryDiagnostics ⟨"2026.1.0", some "1.0.0"⟩
        (venusView "home".toList "192.168.20.82".toList))
      (asyncGetConfigEntryDiagnostics ⟨"2026.1.0", some "1.0.0"⟩
        (venusView "away".toList "192.168.20.82".toList)) := by
  refine (diagnostics_agree_iff ⟨"2026.1.0", some "1.0.0"⟩
    (venusView_differ "home".toList "away".toList "192.168.20.82".toList
      "192.168.20.82".toList)).mpr ?_
  intro c hc c' hc'
  have addresses : c.networkAddresses = c'.networkAddresses :=
    (networkAddresses_venusView hc).trans (networkAddresses_venusView hc').symm
  obtain rfl := Option.some.inj hc
  obtain rfl := Option.some.inj hc'
  exact ⟨rfl, rfl, rfl, rfl, rfl, addresses⟩

/-- The address a Venus device reports is shown. -/
theorem ip_address_shown :
    ¬ ∀ (environment : Environment) (a b : View), DifferInIdentifiers a b →
      SameOutside (fun key => key ∈ rawHex) (asyncGetConfigEntryDiagnostics environment a)
        (asyncGetConfigEntryDiagnostics environment b) := by
  intro all
  have differ := venusView_differ "home".toList "home".toList "192.168.20.82".toList
    "192.168.20.83".toList
  have same := all ⟨"2026.1.0", some "1.0.0"⟩ _ _ differ
  obtain ⟨coordinators⟩ := differ.coordinator
  have agree := (diagnosticsDocument_iff _ differ.entry coordinators).mp
    ((asyncRedactData_iff _ _).mp same)
  have addresses := agree.networkAddresses
  rw [networkAddresses_venusView rfl, networkAddresses_venusView rfl] at addresses
  simp at addresses

end MarstekBle.Diagnostics
