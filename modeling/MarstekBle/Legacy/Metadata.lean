/- module: Legacy/Metadata
   source: custom_components/marstek_ble/marstek_device.py, product_runtime.py, products/venus.py
   digest: Which update entries the hand-written parser leaves, and how far the other agrees. -/

import MarstekBle.Legacy.Equivalence
import MarstekBle.Product.Acceptance
import MarstekBle.Product.Interleaving
import MarstekBle.Product.Reporters
import MarstekBle.Protocol.Receivers
import Mathlib.Data.List.Induction

/-!
Both parsers record for every field which reply updated it last. The hand-written
one tracks the fields of a packet by name, at the end of its parser; those of a
key/value text it tracks wherever they are set, mentioned in the text or not.
-/

set_option autoImplicit false
set_option relaxedAutoImplicit false

namespace MarstekBle.Legacy

open MarstekBle.Data MarstekBle.Schema MarstekBle.Protocol MarstekBle.Product
open MarstekBle.Product.Venus MarstekBle.Lib.AttributeTree

/-- `MarstekData.get_field_metadata`. -/
def MarstekData.getFieldMetadata (data : MarstekData) (field : String) (now : ℚ) :
    Option FieldMetadata :=
  (data.fieldUpdates field).map fun entry =>
    ⟨entry.command, commandHex entry.command, entry.timestamp, now - entry.timestamp,
      entry.payloadHex⟩

/-! ### Statements -/

abbrev Updates := String → Option UpdateEntry

/-- The updates with one entry under some more names. -/
def marked (entry : UpdateEntry) (names : List String) (updates : Updates) : Updates :=
  fun key => if key ∈ names then some entry else updates key

@[simp] theorem marked_nil (entry : UpdateEntry) (updates : Updates) :
    marked entry [] updates = updates := by
  funext key
  simp [marked]

theorem marked_append (entry : UpdateEntry) (first later : List String) (updates : Updates) :
    marked entry later (marked entry first updates) = marked entry (first ++ later) updates := by
  funext key
  simp only [marked, List.mem_append]
  by_cases last : key ∈ later
  · simp [last]
  · simp [last]

/-- The entry `_track_field` records. -/
def Origin.entry (origin : Origin) : UpdateEntry :=
  entryOf origin.command origin.timestamp origin.payload

/-- Where the statement ends normally, it has tracked these names and no others. -/
def Marks (s : Statement) (entry : UpdateEntry) (names : List String) : Prop :=
  ∀ data after, s data = (.ok (), after) → after.fieldUpdates = marked entry names data.fieldUpdates

section Statements

variable {entry : UpdateEntry}

theorem marks_nil : Marks (block []) entry [] := by
  intro data after ran
  obtain rfl := (Prod.mk.inj ran).2
  rw [marked_nil]

theorem block_ran {s : Statement} {rest : List Statement} {data after : MarstekData}
    (ran : block (s :: rest) data = (.ok (), after)) :
    ∃ middle, s data = (.ok (), middle) ∧ block rest middle = (.ok (), after) := by
  rw [block] at ran
  split at ran
  · rename_i middle here
    exact ⟨middle, here, ran⟩
  · cases (Prod.mk.inj ran).1

theorem Marks.cons {s : Statement} {rest : List Statement} {first later : List String}
    (here : Marks s entry first) (there : Marks (block rest) entry later) :
    Marks (block (s :: rest)) entry (first ++ later) := by
  intro data after ran
  obtain ⟨middle, ranHere, ranThere⟩ := block_ran ran
  rw [there middle after ranThere, here data middle ranHere, marked_append]

/-- A statement that tracks nothing. -/
theorem Marks.skip {s : Statement} {rest : List Statement} {names : List String}
    (here : Marks s entry []) (there : Marks (block rest) entry names) :
    Marks (block (s :: rest)) entry names := here.cons there

theorem Marks.last {s : Statement} {names : List String} (here : Marks s entry names) :
    Marks (block [s]) entry names := by
  have whole := here.cons marks_nil
  rwa [List.append_nil] at whole

theorem marks_map {α : Type} {s : α → Statement} {names : α → List String}
    (turn : ∀ a, Marks (s a) entry (names a)) (items : List α) :
    Marks (block (items.map s)) entry (items.flatMap names) := by
  induction items with
  | nil => exact marks_nil
  | cons a items ih => exact (turn a).cons ih

theorem marks_when (condition : Prop) [Decidable condition] {s : Statement}
    {names : List String} (here : Marks s entry names) :
    Marks (when condition s) entry (if condition then names else []) := by
  unfold when
  split
  · exact here
  · exact marks_nil

theorem marks_assign (field : LegacyField) (expression : Raises Value) :
    Marks (assign field expression) entry [] := by
  intro data after ran
  unfold assign at ran
  split at ran
  · obtain rfl := (Prod.mk.inj ran).2
    rw [marked_nil]
    rfl
  · cases (Prod.mk.inj ran).1

theorem marks_assignCell (i : Nat) (expression : Raises Value) :
    Marks (assignCell i expression) entry [] := by
  intro data after ran
  unfold assignCell at ran
  split at ran
  · cases (Prod.mk.inj ran).1
  · split at ran
    · split at ran
      · obtain rfl := (Prod.mk.inj ran).2
        rw [marked_nil]
        rfl
      · cases (Prod.mk.inj ran).1
    · cases (Prod.mk.inj ran).1

theorem marks_assignPair (separator : Char) (fieldOf : Text → Option LegacyField) (pair : Text) :
    Marks (assignPair separator fieldOf pair) entry [] := by
  unfold assignPair
  split
  · exact marks_nil
  · split
    · exact marks_nil
    · exact marks_assign _ _

theorem marks_segments (separator : Char) (fieldOf : Text → Option LegacyField)
    (pairs : List Text) : Marks (block (pairs.map (assignPair separator fieldOf))) entry [] := by
  have turns : Marks _ entry _ := marks_map (marks_assignPair separator fieldOf) pairs
  rwa [List.flatMap_eq_nil_iff.mpr fun _ _ => rfl] at turns

end Statements

theorem marks_trackName (origin : Origin) (name : String) :
    Marks (trackName origin name) origin.entry [name] := by
  intro data after ran
  obtain rfl := (Prod.mk.inj ran).2
  funext key
  simp only [marked, List.mem_singleton]
  rfl

theorem marks_tracks (origin : Origin) (fields : List LegacyField) :
    Marks (block (fields.map (track origin))) origin.entry (fields.map LegacyField.name) := by
  have turns := marks_map (fun field : LegacyField => marks_trackName origin field.name) fields
  rwa [← List.map_eq_flatMap] at turns

/-- The names of the fields that are set. -/
def setNames (fields : List LegacyField) (attrs : LegacyField → Value) : List String :=
  (fields.filter fun field => !Value.isNone (attrs field)).map LegacyField.name

/-- Where the statement ends normally, it has tracked those of the fields that are set then. -/
def MarksSet (s : Statement) (entry : UpdateEntry) (fields : List LegacyField) : Prop :=
  ∀ data after, s data = (.ok (), after) →
    after.fieldUpdates = marked entry (setNames fields after.attrs) data.fieldUpdates

theorem tracksIfSet_ran (origin : Origin) (fields : List LegacyField) (data after : MarstekData)
    (ran : block (fields.map (trackIfSet origin)) data = (.ok (), after)) :
    after.attrs = data.attrs ∧
      after.fieldUpdates = marked origin.entry (setNames fields data.attrs) data.fieldUpdates := by
  induction fields generalizing data with
  | nil =>
    obtain rfl := (Prod.mk.inj ran).2
    exact ⟨rfl, (marked_nil _ _).symm⟩
  | cons field fields ih =>
    obtain ⟨middle, here, there⟩ := block_ran ran
    obtain ⟨attrs, updates⟩ := ih middle there
    unfold trackIfSet at here
    cases unset : Value.isNone (data.attrs field) with
    | true =>
      rw [if_pos unset] at here
      obtain rfl := (Prod.mk.inj here).2
      refine ⟨attrs, updates.trans ?_⟩
      simp only [setNames, unset, List.filter_cons, Bool.not_true, Bool.false_eq_true, if_false]
    | false =>
      rw [if_neg (by rw [unset]; exact Bool.false_ne_true)] at here
      have tracked := marks_trackName origin field.name data middle here
      obtain rfl := (Prod.mk.inj here).2
      refine ⟨attrs, ?_⟩
      rw [updates, tracked, marked_append]
      simp only [setNames, unset, List.filter_cons, Bool.not_false, if_true, List.map_cons]
      rfl

theorem marksSet_tracks (origin : Origin) (fields : List LegacyField) :
    MarksSet (block [block (fields.map (trackIfSet origin))]) origin.entry fields := by
  intro data after ran
  obtain ⟨middle, here, there⟩ := block_ran ran
  obtain rfl := (Prod.mk.inj there).2
  obtain ⟨attrs, updates⟩ := tracksIfSet_ran origin fields data middle here
  rw [attrs, updates]

theorem MarksSet.skip {s : Statement} {rest : List Statement} {entry : UpdateEntry}
    {fields : List LegacyField} (here : Marks s entry [])
    (there : MarksSet (block rest) entry fields) :
    MarksSet (block (s :: rest)) entry fields := by
  intro data after ran
  obtain ⟨middle, ranHere, ranThere⟩ := block_ran ran
  rw [there middle after ranThere, here data middle ranHere, marked_nil]

/-! ### Payload parsers -/

/-- Where the parser returns `True`, it has tracked these names, which may depend on the
attributes it leaves. -/
def Tracks (p : Parsing) (entry : UpdateEntry) (names : (LegacyField → Value) → List String) :
    Prop :=
  ∀ data after, p data = (.ok true, after) →
    after.fieldUpdates = marked entry (names after.attrs) data.fieldUpdates

theorem returning_ran {s : Statement} {data after : MarstekData}
    (ran : returning s data = (.ok true, after)) : s data = (.ok (), after) := by
  unfold returning at ran
  split at ran
  · rename_i middle here
    obtain rfl := (Prod.mk.inj ran).2
    exact here
  · cases (Prod.mk.inj ran).1

theorem trying_ran {s : Statement} {data after : MarstekData}
    (ran : trying s data = (.ok true, after)) : s data = (.ok (), after) := by
  unfold trying at ran
  split at ran
  · rename_i middle here
    obtain rfl := (Prod.mk.inj ran).2
    exact here
  · cases Except.ok.inj (Prod.mk.inj ran).1

theorem Marks.returning {s : Statement} {entry : UpdateEntry} {names : List String}
    (h : Marks s entry names) : Tracks (returning s) entry fun _ => names :=
  fun data after ran => h data after (returning_ran ran)

theorem Marks.trying {s : Statement} {entry : UpdateEntry} {names : List String}
    (h : Marks s entry names) : Tracks (trying s) entry fun _ => names :=
  fun data after ran => h data after (trying_ran ran)

theorem MarksSet.trying {s : Statement} {entry : UpdateEntry} {fields : List LegacyField}
    (h : MarksSet s entry fields) : Tracks (trying s) entry (setNames fields) :=
  fun data after ran => h data after (trying_ran ran)

section Packets

variable {payload : Bytes} (t : ℚ)

def cellName (i : Nat) : String := "cell_" ++ toString (i + 1) ++ "_voltage"

def shortRuntimeFields : List LegacyField :=
  [.wifiConnected, .mqttConnected, .out1Active, .out1Power, .extern1Connected]

def longRuntimeFields : List LegacyField :=
  [.out1Power, .tempLow, .tempHigh, .wifiConnected, .mqttConnected, .out1Active,
    .extern1Connected]

def extendedRuntimeFields : List LegacyField :=
  [.gridPower, .solarPower, .workMode, .productCode, .dailyEnergyCharged,
    .monthlyEnergyCharged, .dailyEnergyDischarged, .monthlyEnergyDischarged,
    .totalEnergyCharged, .totalEnergyDischarged, .powerRating]

def runtimeFields (length : Nat) : List LegacyField :=
  if length < 60 then shortRuntimeFields
  else if length < 100 then longRuntimeFields
  else extendedRuntimeFields ++ longRuntimeFields

def batteryFields : List LegacyField :=
  [.bmsVersion, .voltageLimit, .chargeCurrentLimit, .dischargeCurrentLimit, .batterySoc,
    .batterySoh, .designCapacity, .batteryVoltage, .batteryCurrent, .batteryTemp, .errorCode,
    .warningCode, .runtimeHours, .mosfetTemp, .tempSensor1, .tempSensor2, .tempSensor3,
    .tempSensor4]

theorem tracks_runtimeInfo (fits : 37 ≤ payload.length) :
    Tracks (parseRuntimeInfo payload t) (entryOf 0x03 t payload)
      fun _ => (runtimeFields payload.length).map LegacyField.name := by
  have origin : (⟨0x03, t, payload⟩ : Origin).entry = entryOf 0x03 t payload := rfl
  unfold parseRuntimeInfo runtimeFields
  rw [if_neg (Nat.not_lt.mpr fits), ← origin]
  generalize (⟨0x03, t, payload⟩ : Origin) = origin
  split
  · have connections := marks_when (16 ≤ payload.length) <|
      (marks_assign .wifiConnected (byteMasked payload 15 0x01)).skip <|
      (marks_assign .mqttConnected (byteMasked payload 15 0x02)).skip <|
      (marks_trackName origin "wifi_connected").cons (marks_trackName origin "mqtt_connected").last
    have output := marks_when (17 ≤ payload.length) <|
      (marks_assign .out1Active (byteNonzero payload 16)).skip
        (marks_trackName origin "out1_active").last
    have watts := marks_when (22 ≤ payload.length) <|
      (marks_assign .out1Power (asFloat (unpackAt .H payload 20 22))).skip
        (marks_trackName origin "out1_power").last
    have external := marks_when (29 ≤ payload.length) <|
      (marks_assign .extern1Connected (byteNonzero payload 28)).skip
        (marks_trackName origin "extern1_connected").last
    have whole := (connections.cons (output.cons (watts.cons external.last))).trying
    rw [if_pos (by omega), if_pos (by omega), if_pos (by omega), if_pos (by omega)] at whole
    exact whole
  · have extended := marks_when (100 ≤ payload.length) <|
      (marks_assign .gridPower (asFloat (unpackAt .h payload 0 2))).skip <|
      (marks_assign .solarPower (asFloat (unpackAt .h payload 2 4))).skip <|
      (marks_assign .workMode (asInt (byteValue payload 4))).skip <|
      (marks_assign .productCode (asInt (unpackAt .H payload 12 14))).skip <|
      (marks_assign .dailyEnergyCharged (scaled 100 (unpackAt .I payload 14 18))).skip <|
      (marks_assign .monthlyEnergyCharged (scaled 1000 (unpackAt .I payload 18 22))).skip <|
      (marks_assign .dailyEnergyDischarged (scaled 100 (unpackAt .I payload 22 26))).skip <|
      (marks_assign .monthlyEnergyDischarged (scaled 100 (unpackAt .I payload 26 30))).skip <|
      (marks_assign .totalEnergyCharged (scaled 100 (unpackAt .I payload 41 45))).skip <|
      (marks_assign .totalEnergyDischarged (scaled 100 (unpackAt .I payload 45 49))).skip <|
      (marks_assign .powerRating (asInt (unpackAt .H payload 74 76))).skip
        (marks_tracks origin extendedRuntimeFields).last
    have whole := Marks.returning <|
      (marks_assign .out1Power (asFloat (unpackAt .H payload 20 22))).skip <|
      (marks_assign .tempLow (scaled 10 (unpackAt .h payload 33 35))).skip <|
      (marks_assign .tempHigh (scaled 10 (unpackAt .h payload 35 37))).skip <|
      (marks_assign .wifiConnected (byteMasked payload 15 0x01)).skip <|
      (marks_assign .mqttConnected (byteMasked payload 15 0x02)).skip <|
      (marks_assign .out1Active (byteNonzero payload 16)).skip <|
      (marks_assign .extern1Connected (byteNonzero payload 28)).skip <|
      extended.cons (marks_tracks origin longRuntimeFields).last
    split
    · rw [if_neg (by omega)] at whole
      exact whole
    · rw [if_pos (by omega), ← List.map_append] at whole
      exact whole

theorem tracks_bmsData (fits : 80 ≤ payload.length) :
    Tracks (parseBmsData payload t) (entryOf 0x14 t payload)
      fun _ => (List.range 16).map cellName ++ batteryFields.map LegacyField.name := by
  have origin : (⟨0x14, t, payload⟩ : Origin).entry = entryOf 0x14 t payload := rfl
  have turn : ∀ i : Nat, Marks (parseCell payload ⟨0x14, t, payload⟩ i)
      (entryOf 0x14 t payload) (if 48 + i * 2 + 1 < payload.length then [cellName i] else []) :=
    fun i => marks_when _ <| (marks_assignCell i _).skip (marks_trackName _ (cellName i)).last
  have cells := marks_map turn (List.range 16)
  have all : (List.range 16).flatMap (fun i =>
      if 48 + i * 2 + 1 < payload.length then [cellName i] else []) =
        (List.range 16).map cellName := by
    rw [List.map_eq_flatMap]
    refine List.flatMap_congr fun i inside => if_pos ?_
    have small := List.mem_range.mp inside
    omega
  rw [all] at cells
  unfold parseBmsData
  rw [if_neg (Nat.not_lt.mpr fits)]
  refine Marks.returning ?_
  iterate 18 refine (marks_assign _ _).skip ?_
  exact cells.cons (marks_tracks ⟨0x14, t, payload⟩ batteryFields).last

theorem tracks_systemData (fits : 11 ≤ payload.length) :
    Tracks (parseSystemData payload t) (entryOf 0x0D t payload)
      fun _ => [LegacyField.systemStatus, .systemValue1, .systemValue2, .systemValue3,
        .systemValue4, .systemValue5].map LegacyField.name := by
  unfold parseSystemData
  rw [if_neg (Nat.not_lt.mpr fits)]
  refine Marks.returning ?_
  iterate 6 refine (marks_assign _ _).skip ?_
  exact (marks_tracks ⟨0x0D, t, payload⟩ _).last

theorem tracks_timerInfo (fits : 45 ≤ payload.length) :
    Tracks (parseTimerInfo payload t) (entryOf 0x13 t payload)
      fun _ => [LegacyField.adaptiveModeEnabled, .smartMeterConnected, .adaptivePowerOut].map
        LegacyField.name := by
  unfold parseTimerInfo
  rw [if_neg (Nat.not_lt.mpr fits)]
  refine Marks.returning ?_
  iterate 3 refine (marks_assign _ _).skip ?_
  exact (marks_tracks ⟨0x13, t, payload⟩ _).last

theorem tracks_configData (fits : 17 ≤ payload.length) :
    Tracks (parseConfigData payload t) (entryOf 0x1A t payload)
      fun _ => [LegacyField.configMode, .configStatus, .configValue].map LegacyField.name := by
  unfold parseConfigData
  rw [if_neg (Nat.not_lt.mpr fits)]
  refine Marks.returning ?_
  iterate 3 refine (marks_assign _ _).skip ?_
  exact (marks_tracks ⟨0x1A, t, payload⟩ _).last

theorem tracks_ctPollingRate (fits : 1 ≤ payload.length) :
    Tracks (parseCtPollingRate payload t) (entryOf 0x22 t payload)
      fun _ => [LegacyField.ctPollingRate].map LegacyField.name := by
  unfold parseCtPollingRate
  rw [if_neg (Nat.not_lt.mpr fits)]
  exact Marks.returning ((marks_assign _ _).skip (marks_trackName ⟨0x22, t, payload⟩ _).last)

theorem tracks_localApiStatus (fits : 3 ≤ payload.length) :
    Tracks (parseLocalApiStatus payload t) (entryOf 0x28 t payload)
      fun _ => [LegacyField.localApiStatus].map LegacyField.name := by
  unfold parseLocalApiStatus
  rw [if_neg (Nat.not_lt.mpr fits)]
  exact Marks.returning ((marks_assign _ _).skip (marks_trackName ⟨0x28, t, payload⟩ _).last)

theorem tracks_meterIp (fits : 1 ≤ payload.length) :
    Tracks (parseMeterIp payload t) (entryOf 0x21 t payload)
      fun _ => [LegacyField.meterIp].map LegacyField.name := by
  unfold parseMeterIp
  rw [if_neg (List.ne_nil_of_length_pos fits)]
  exact Marks.trying ((marks_assign _ _).skip (marks_trackName ⟨0x21, t, payload⟩ _).last)

theorem tracks_wifiSsid :
    Tracks (parseWifiSsid payload t) (entryOf 0x08 t payload)
      fun _ => [LegacyField.wifiSsid].map LegacyField.name :=
  Marks.trying ((marks_assign _ _).skip (marks_trackName ⟨0x08, t, payload⟩ _).last)

/-- The fields of the device reply, which its text may or may not mention. -/
def deviceFields : List LegacyField :=
  [.deviceType, .deviceId, .serialNumber, .macAddress, .firmwareVersion, .hardwareVersion]

def networkFields : List LegacyField := [.ipAddress, .gateway, .subnetMask, .dnsServer]

theorem tracks_deviceInfo (fits : 1 ≤ payload.length) :
    Tracks (parseDeviceInfo payload t) (entryOf 0x04 t payload) (setNames deviceFields) := by
  unfold parseDeviceInfo
  rw [if_neg (List.ne_nil_of_length_pos fits)]
  exact MarksSet.trying
    (MarksSet.skip (marks_segments _ _ _) (marksSet_tracks ⟨0x04, t, payload⟩ deviceFields))

theorem tracks_networkInfo :
    Tracks (parseNetworkInfo payload t) (entryOf 0x24 t payload)
      (setNames (.networkInfo :: networkFields)) := by
  refine MarksSet.trying (MarksSet.skip (marks_assign _ _) (MarksSet.skip ?_
    (marksSet_tracks ⟨0x24, t, payload⟩ (.networkInfo :: networkFields))))
  have segments : Marks _ (entryOf 0x24 t payload) _ :=
    marks_when (strip (decodeAsciiIgnore payload) ≠ []) <|
      marks_segments ':' networkField (split ',' (strip (decodeAsciiIgnore payload)))
  rwa [ite_self] at segments

end Packets

/-! ### One payload -/

/-- The fields that a key/value text may leave out. -/
def pairFields : List LegacyField := deviceFields ++ networkFields

def trackedFields : List LegacyField :=
  extendedRuntimeFields ++ longRuntimeFields ++ batteryFields ++
    [.systemStatus, .systemValue1, .systemValue2, .systemValue3, .systemValue4, .systemValue5,
      .adaptiveModeEnabled, .smartMeterConnected, .adaptivePowerOut, .configMode, .configStatus,
      .configValue, .ctPollingRate, .localApiStatus, .meterIp, .wifiSsid, .networkInfo] ++
    pairFields

/-- The names that can be tracked, each with the field it stands for. -/
def trackedNames : List (String × LegacyField) :=
  trackedFields.map (fun field => (field.name, field)) ++
    (List.range 16).map fun i => (cellName i, .cellVoltages)

/-- Among the tracked fields a tracked name stands for its own only. -/
private theorem name_of_tracked : ∀ e ∈ trackedNames,
    (∀ field ∈ trackedFields, field.name = e.1 ↔ field = e.2) ∧
      (e.1 ∈ (List.range 16).map cellName ↔ e.2 = .cellVoltages) := by
  decide +kernel

private theorem mem_names_iff {e : String × LegacyField} (listed : e ∈ trackedNames)
    {fields : List LegacyField} (within : ∀ field ∈ fields, field ∈ trackedFields) :
    e.1 ∈ fields.map LegacyField.name ↔ e.2 ∈ fields := by
  have named := (name_of_tracked e listed).1
  rw [List.mem_map]
  constructor
  · rintro ⟨field, member, same⟩
    exact (named field (within field member)).mp same ▸ member
  · intro member
    exact ⟨e.2, member, (named e.2 (within e.2 member)).mpr rfl⟩

/-- What an accepted payload assigns, and what is tracked of it: every field that is
assigned, and of the fields that a text may leave out those that are set afterwards. -/
def Bookkept (command : Byte) (payload : Bytes) (us : List (LegacyField × Value)) : Prop :=
  (∀ t, Yields (parseCommand command payload t) true us) ∧
  (∀ u ∈ us, u.1 ∈ pairFields → Value.isNone u.2 = false) ∧
  ∃ names, (∀ t, Tracks (parseCommand command payload t) (entryOf command t payload) names) ∧
    ∀ before, ∀ e ∈ trackedNames, e.1 ∈ names (overwrite before us) ↔
      if e.2 ∈ pairFields then replyCommand (flatPath e.2) = some command ∧
        Value.isNone (overwrite before us e.2) = false
      else (latest e.2 us).isSome = true

section Payloads

variable {payload : Bytes}

/-- The payload of a packet that assigns and tracks the same fields. -/
private theorem bookkept_plain {command : Byte} {us : List (LegacyField × Value)}
    {names : List String} (fields : List LegacyField)
    (yields : ∀ t, Yields (parseCommand command payload t) true us)
    (tracks : ∀ t, Tracks (parseCommand command payload t) (entryOf command t payload)
      fun _ => names)
    (assigned : us.map Prod.fst = fields)
    (same : ∀ e ∈ trackedNames, e.1 ∈ names ↔ e.2 ∈ fields)
    (apart : ∀ field ∈ fields, field ∉ pairFields)
    (plain : ∀ field ∈ pairFields, replyCommand (flatPath field) ≠ some command) :
    Bookkept command payload us := by
  have inside : ∀ {u : LegacyField × Value}, u ∈ us → u.1 ∈ fields := fun {u} member =>
    assigned ▸ List.mem_map_of_mem member
  refine ⟨yields, fun u member pair => absurd pair (apart u.1 (inside member)), fun _ => names,
    tracks, fun before e listed => ?_⟩
  rw [same e listed]
  split
  · rename_i pair
    exact iff_of_false (fun member => apart e.2 member pair) fun h => plain e.2 pair h.1
  · rw [latest_isSome_iff, ← assigned, List.mem_map]

/-- It tracks the names of these fields, in whatever order. -/
private theorem bookkept_fields {command : Byte} {us : List (LegacyField × Value)}
    {tracked : List LegacyField} (fields : List LegacyField)
    (yields : ∀ t, Yields (parseCommand command payload t) true us)
    (tracks : ∀ t, Tracks (parseCommand command payload t) (entryOf command t payload)
      fun _ => tracked.map LegacyField.name)
    (assigned : us.map Prod.fst = fields) (same : tracked.Perm fields)
    (within : ∀ field ∈ fields, field ∈ trackedFields)
    (apart : ∀ field ∈ fields, field ∉ pairFields)
    (plain : ∀ field ∈ pairFields, replyCommand (flatPath field) ≠ some command) :
    Bookkept command payload us := by
  refine bookkept_plain fields yields tracks assigned (fun e listed => ?_) apart plain
  rw [mem_names_iff listed fun field member => within field (same.mem_iff.mp member),
    same.mem_iff]

theorem bookkept_runtime (fits : 37 ≤ payload.length) :
    Bookkept 0x03 payload (runtimeWrites payload) := by
  have yields := fun t => yields_runtimeInfo t fits
  have tracks := fun t => tracks_runtimeInfo t fits
  unfold runtimeWrites at yields ⊢
  unfold runtimeFields at tracks
  split_ifs at yields tracks ⊢
  · exact bookkept_fields
      [.out1Power, .wifiConnected, .mqttConnected, .out1Active, .extern1Connected] yields tracks
      rfl (by decide) (by decide) (by decide) (by decide)
  · exact bookkept_fields longRuntimeFields yields tracks rfl (.refl _) (by decide) (by decide)
      (by decide)
  · exact bookkept_fields (longRuntimeFields ++ extendedRuntimeFields) yields tracks rfl
      List.perm_append_comm (by decide) (by decide) (by decide)

theorem bookkept_battery (fits : 80 ≤ payload.length) :
    Bookkept 0x14 payload (batteryWrites payload ++ [cellWrite payload]) := by
  refine bookkept_plain (batteryFields ++ [.cellVoltages]) (fun t => yields_bmsData t fits)
    (fun t => tracks_bmsData t fits) rfl (fun e listed => ?_) (by decide) (by decide)
  rw [List.mem_append, List.mem_append, mem_names_iff listed (by decide),
    (name_of_tracked e listed).2, List.mem_singleton, or_comm]

theorem bookkept_system (fits : 11 ≤ payload.length) :
    Bookkept 0x0D payload (systemWrites payload) :=
  bookkept_fields [.systemStatus, .systemValue1, .systemValue2, .systemValue3, .systemValue4,
      .systemValue5] (fun t => yields_systemData t fits) (fun t => tracks_systemData t fits) rfl
    (.refl _) (by decide) (by decide) (by decide)

theorem bookkept_timer (fits : 45 ≤ payload.length) :
    Bookkept 0x13 payload (timerWrites payload) :=
  bookkept_fields [.adaptiveModeEnabled, .smartMeterConnected, .adaptivePowerOut]
    (fun t => yields_timerInfo t fits) (fun t => tracks_timerInfo t fits) rfl
    (.refl _) (by decide) (by decide) (by decide)

theorem bookkept_config (fits : 17 ≤ payload.length) :
    Bookkept 0x1A payload (configWrites payload) :=
  bookkept_fields [.configMode, .configStatus, .configValue]
    (fun t => yields_configData t fits) (fun t => tracks_configData t fits) rfl
    (.refl _) (by decide) (by decide) (by decide)

theorem bookkept_ctPollingRate (fits : 1 ≤ payload.length) :
    Bookkept 0x22 payload (ctPollingWrites payload) :=
  bookkept_fields [.ctPollingRate] (fun t => yields_ctPollingRate t fits)
    (fun t => tracks_ctPollingRate t fits) rfl (.refl _) (by decide) (by decide) (by decide)

theorem bookkept_meterIp (fits : 1 ≤ payload.length) :
    Bookkept 0x21 payload (meterWrites payload) :=
  bookkept_fields [.meterIp] (fun t => yields_meterIp t fits) (fun t => tracks_meterIp t fits)
    rfl (.refl _) (by decide) (by decide) (by decide)

theorem bookkept_wifiSsid : Bookkept 0x08 payload (wifiWrites payload) :=
  bookkept_fields [.wifiSsid] (fun t => yields_wifiSsid t) (fun t => tracks_wifiSsid t) rfl
    (.refl _) (by decide) (by decide) (by decide)

theorem bookkept_localApiStatus {first : Byte} {rest : Bytes}
    (fits : 3 ≤ (first :: rest).length) : Bookkept 0x28 (first :: rest)
      (localApiWrites first (integerAt .H (first :: rest) 1)) :=
  bookkept_fields [.localApiStatus] (fun t => yields_localApiStatus t fits)
    (fun t => tracks_localApiStatus t fits) rfl (.refl _) (by decide) (by decide) (by decide)

/-- Every segment assigns a text to a field that its key can name. -/
private theorem segmentWrites_cases {separator : Char} {fieldOf : Text → Option LegacyField}
    {pairs : List Text} {u : LegacyField × Value}
    (written : u ∈ segmentWrites separator fieldOf pairs) :
    (∃ key, fieldOf key = some u.1) ∧ ∃ text, u.2 = .str text := by
  obtain ⟨pair, _, assigned⟩ := List.mem_filterMap.mp written
  obtain ⟨e, _, mapped⟩ := Option.bind_eq_some_iff.mp assigned
  obtain ⟨field, named, rfl⟩ := Option.map_eq_some_iff.mp mapped
  exact ⟨⟨_, named⟩, _, rfl⟩

private theorem deviceField_mem {key : Text} {field : LegacyField}
    (named : deviceField key = some field) : field ∈ deviceFields := by
  unfold deviceField at named
  split_ifs at named <;> (obtain rfl := Option.some.inj named; decide)

private theorem networkField_mem {key : Text} {field : LegacyField}
    (named : networkField key = some field) : field ∈ networkFields := by
  unfold networkField at named
  split_ifs at named <;> (obtain rfl := Option.some.inj named; decide)

private theorem mem_setNames_iff {fields : List LegacyField} {attrs : LegacyField → Value}
    {e : String × LegacyField} (listed : e ∈ trackedNames)
    (within : ∀ field ∈ fields, field ∈ trackedFields) :
    e.1 ∈ setNames fields attrs ↔ e.2 ∈ fields ∧ Value.isNone (attrs e.2) = false := by
  rw [setNames, mem_names_iff listed fun field member =>
    within field (List.mem_filter.mp member).1, List.mem_filter, Bool.not_eq_true']

theorem bookkept_deviceInfo (fits : 1 ≤ payload.length) :
    Bookkept 0x04 payload (deviceWrites payload) := by
  have texts : ∀ u ∈ deviceWrites payload, u.1 ∈ deviceFields ∧ ∃ text, u.2 = .str text := by
    intro u member
    obtain ⟨⟨key, named⟩, text⟩ := segmentWrites_cases member
    exact ⟨deviceField_mem named, text⟩
  have owner : ∀ field ∈ pairFields,
      replyCommand (flatPath field) = some 0x04 ↔ field ∈ deviceFields := by decide
  refine ⟨fun t => yields_deviceInfo t fits, fun u member _ => ?_, setNames deviceFields,
    fun t => tracks_deviceInfo t fits, fun before e listed => ?_⟩
  · obtain ⟨_, text, held⟩ := texts u member
    rw [held]
    rfl
  · rw [mem_setNames_iff listed (by decide)]
    split
    · rename_i pair
      rw [owner e.2 pair]
    · rename_i other
      refine iff_of_false (fun h => other (List.mem_append_left networkFields h.1)) fun h => ?_
      obtain ⟨u, member, same⟩ := (latest_isSome_iff e.2 _).mp h
      exact other (List.mem_append_left networkFields (same ▸ (texts u member).1))

theorem bookkept_networkInfo : Bookkept 0x24 payload (networkWrites payload) := by
  have texts : ∀ u ∈ networkWrites payload,
      (u.1 = .networkInfo ∨ u.1 ∈ networkFields) ∧ ∃ text, u.2 = .str text := by
    intro u member
    rcases List.mem_cons.mp member with rfl | later
    · exact ⟨.inl rfl, _, rfl⟩
    · obtain ⟨⟨key, named⟩, text⟩ := segmentWrites_cases later
      exact ⟨.inr (networkField_mem named), text⟩
  have owner : ∀ field ∈ pairFields,
      replyCommand (flatPath field) = some 0x24 ↔ field ∈ networkFields := by decide
  have notPair : LegacyField.networkInfo ∉ pairFields := by decide
  refine ⟨fun t => yields_networkInfo t, fun u member _ => ?_,
    setNames (.networkInfo :: networkFields), fun t => tracks_networkInfo t,
    fun before e listed => ?_⟩
  · obtain ⟨_, text, held⟩ := texts u member
    rw [held]
    rfl
  · rw [mem_setNames_iff listed (by decide)]
    split
    · rename_i pair
      have apart : e.2 ≠ .networkInfo := fun same => notPair (same ▸ pair)
      rw [owner e.2 pair, List.mem_cons, or_iff_right apart]
    · rename_i other
      have info : (latest LegacyField.networkInfo (networkWrites payload)).isSome = true :=
        (latest_isSome_iff _ _).mpr ⟨_, List.mem_cons_self, rfl⟩
      constructor
      · rintro ⟨member, _⟩
        rcases List.mem_cons.mp member with same | inside
        · rw [same]
          exact info
        · exact absurd (List.mem_append_right deviceFields inside) other
      · intro h
        obtain ⟨v, written⟩ := Option.isSome_iff_exists.mp h
        obtain ⟨u, member, same⟩ := (latest_isSome_iff e.2 _).mp h
        have which : e.2 = .networkInfo := by
          rcases (texts u member).1 with here | inside
          · rw [← same, here]
          · exact absurd (List.mem_append_right deviceFields (same ▸ inside)) other
        obtain ⟨_, text, held⟩ := texts (e.2, v) (mem_of_latest written)
        obtain rfl : v = .str text := held
        refine ⟨which ▸ List.mem_cons_self, ?_⟩
        rw [overwrite, written]
        rfl

/-- Every payload is book-kept or rejected. -/
theorem bookkept_or_reject (command : Byte) (payload : Bytes) :
    (∃ us, Bookkept command payload us) ∨ ∀ t, parseCommand command payload t = reject := by
  by_cases runtime : command = 0x03
  · subst runtime
    rcases Nat.lt_or_ge payload.length 37 with short | fits
    · exact .inr fun t => if_pos short
    · exact .inl ⟨_, bookkept_runtime fits⟩
  by_cases deviceInfo : command = 0x04
  · subst deviceInfo
    rcases Nat.lt_or_ge payload.length 1 with short | fits
    · exact .inr fun t => if_pos (List.eq_nil_of_length_eq_zero (by omega))
    · exact .inl ⟨_, bookkept_deviceInfo fits⟩
  by_cases wifi : command = 0x08
  · subst wifi
    exact .inl ⟨_, bookkept_wifiSsid⟩
  by_cases system : command = 0x0D
  · subst system
    rcases Nat.lt_or_ge payload.length 11 with short | fits
    · exact .inr fun t => if_pos short
    · exact .inl ⟨_, bookkept_system fits⟩
  by_cases timer : command = 0x13
  · subst timer
    rcases Nat.lt_or_ge payload.length 45 with short | fits
    · exact .inr fun t => if_pos short
    · exact .inl ⟨_, bookkept_timer fits⟩
  by_cases battery : command = 0x14
  · subst battery
    rcases Nat.lt_or_ge payload.length 80 with short | fits
    · exact .inr fun t => if_pos short
    · exact .inl ⟨_, bookkept_battery fits⟩
  by_cases config : command = 0x1A
  · subst config
    rcases Nat.lt_or_ge payload.length 17 with short | fits
    · exact .inr fun t => if_pos short
    · exact .inl ⟨_, bookkept_config fits⟩
  by_cases meter : command = 0x21
  · subst meter
    rcases Nat.lt_or_ge payload.length 1 with short | fits
    · exact .inr fun t => if_pos (List.eq_nil_of_length_eq_zero (by omega))
    · exact .inl ⟨_, bookkept_meterIp fits⟩
  by_cases ct : command = 0x22
  · subst ct
    rcases Nat.lt_or_ge payload.length 1 with short | fits
    · exact .inr fun t => if_pos short
    · exact .inl ⟨_, bookkept_ctPollingRate fits⟩
  by_cases network : command = 0x24
  · subst network
    exact .inl ⟨_, bookkept_networkInfo⟩
  by_cases localApi : command = 0x28
  · subst localApi
    rcases Nat.lt_or_ge payload.length 3 with short | fits
    · exact .inr fun t => if_pos short
    · match payload, fits with
      | first :: rest, fits => exact .inl ⟨_, bookkept_localApiStatus fits⟩
  · refine .inr fun t => ?_
    rw [parseCommand, if_neg runtime, if_neg deviceInfo, if_neg wifi, if_neg system, if_neg timer,
      if_neg battery, if_neg config, if_neg meter, if_neg ct, if_neg network, if_neg localApi]

end Payloads

/-! ### One notification -/

/-- Data objects that agree and hold any given value, or list of cells, in a field. -/
private theorem exists_agree (field : LegacyField) {v : Value}
    (fits : field = .cellVoltages → ∃ cells, v = .list cells ∧ cells.length = 16) :
    ∃ legacy product, Agree legacy product ∧ legacy.attrs field = v := by
  have leaf : venusRuntime.createData.tree.IsLeaf (flatPath field) := by
    rw [Node.IsLeaf, agree_fresh.same field]
    rfl
  refine ⟨MarstekData.fresh.set field v, { venusRuntime.createData with
    tree := venusRuntime.createData.tree.assign (flatPath field) v }, ?_, if_pos rfl⟩
  refine ⟨?_, ⟨rfl, Node.shape_assign leaf v⟩, fun f => ?_⟩
  · by_cases cells : field = .cellVoltages
    · obtain ⟨list, rfl, sixteen⟩ := fits cells
      exact ⟨list, if_pos cells.symm, sixteen⟩
    · exact ⟨List.replicate 16 .none, if_neg (Ne.symm cells), rfl⟩
  · rw [Node.valueAt_assign leaf, agree_fresh.same f]
    by_cases same : f = field
    · subst same
      simp [MarstekData.set]
    · have apart : flatPath field ≠ flatPath f := fun h => same (flatPath_injective h).symm
      simp [MarstekData.set, same, apart]

section Notifications

variable {n : Notification} {command : Byte} {payload : Bytes} {us : List (LegacyField × Value)}

theorem legacy_ran (opened : parseFrame n.frame = .ok (command, payload))
    (yields : ∀ t, Yields (parseCommand command payload t) true us) {legacy : MarstekData}
    (ready : Ready legacy) :
    ∃ after, parseCommand command payload n.time legacy = (.ok true, after) ∧
      parseNotification n.frame n.time legacy = (.ok true, after) ∧
      after.attrs = overwrite legacy.attrs us := by
  obtain ⟨after, ran, assigned, _⟩ := yields n.time legacy ready
  refine ⟨after, ran, ?_, assigned⟩
  rw [legacyParse_eq, opened]
  simp only [legacyDispatch, ran]

/-- The declarative parser writes the fields the hand-written one assigns. -/
theorem reported_iff_assigned (opened : parseFrame n.frame = .ok (command, payload))
    (yields : ∀ t, Yields (parseCommand command payload t) true us) (field : LegacyField) :
    flatPath field ∈ venusRuntime.framePaths n.frame ↔ (latest field us).isSome = true := by
  have written : ∀ v, (field = .cellVoltages → ∃ cells, v = .list cells ∧ cells.length = 16) →
      some ((latest field us).getD v) =
        (venusRuntime.frameValue n.frame (flatPath field)).getD (some v) := by
    intro v fits
    obtain ⟨legacy, product, agree, held⟩ := exists_agree field fits
    obtain ⟨after, _, ran, assigned⟩ := legacy_ran opened yields agree.ready
    obtain ⟨_, _, _, agreed⟩ := agree.step n.frame n.time n.time
    have reads := (registers_valueAt venusRuntime_lawful).reads product n (flatPath field)
      agree.inShape
    have same := agreed.same field
    rw [ran, assigned, overwrite, held] at same
    rw [agree.same field, held] at reads
    exact same.symm.trans reads
  have empty := written (.list (List.replicate 16 .none)) fun _ => ⟨_, rfl, rfl⟩
  have full := written (.list (List.replicate 16 (.bool true))) fun _ => ⟨_, rfl, rfl⟩
  have apart : Value.list (List.replicate 16 .none) ≠ .list (List.replicate 16 (.bool true)) := by
    intro same
    cases (List.cons.inj (Value.list.inj same)).1
  unfold ProductRuntime.frameValue at empty full
  constructor
  · intro reported
    rw [if_pos reported] at empty full
    cases latestWrite : latest field us with
    | some v => rfl
    | none =>
      rw [latestWrite] at empty full
      exact absurd (Option.some.inj (empty.trans full.symm)) apart
  · intro assigned
    by_contra silent
    rw [if_neg silent] at empty full
    obtain ⟨v, latestWrite⟩ := Option.isSome_iff_exists.mp assigned
    rw [latestWrite] at empty full
    exact apart (Option.some.inj (empty.symm.trans full))

theorem mem_reportedPaths {product : TrackedProductData} (inShape : InShape venusRuntime product)
    (p : DataPath) :
    p ∈ venusRuntime.reportedPaths product n ↔ p ∈ venusRuntime.framePaths n.frame := by
  rcases receive_cases venusRuntime_lawful n.frame with ⟨_, _, _, _, effect, heffect⟩ | unchanged
  · rw [ProductRuntime.framePaths, ((heffect product inShape).2 n.time).1,
      ((heffect _ (inShape_createData venusRuntime)).2 0).1]
  · rw [ProductRuntime.framePaths, (unchanged product inShape n.time).1,
      (unchanged _ (inShape_createData venusRuntime) 0).1]

/-- An accepted notification with this command byte. -/
def isReplyTo (command : Byte) (n : Notification) : Bool :=
  decide (commandByte n.frame = some command ∧
    (venusRuntime.parseNotification n.frame n.time venusRuntime.createData).1 = .ok true)

/-- A notification is book-kept by its command and payload, or changes nothing. -/
theorem notification_cases (n : Notification) :
    (∃ command payload us, parseFrame n.frame = .ok (command, payload) ∧
      Bookkept command payload us) ∨
    (∀ c, isReplyTo c n = false) ∧ ∀ legacy product, Agree legacy product →
      (parseNotification n.frame n.time legacy).2 = legacy ∧
        venusRuntime.receive product n = product := by
  have refused : (∀ legacy, parseNotification n.frame n.time legacy = (.ok false, legacy)) →
      (∀ c, isReplyTo c n = false) ∧ ∀ legacy product, Agree legacy product →
        (parseNotification n.frame n.time legacy).2 = legacy ∧
          venusRuntime.receive product n = product := by
    intro same
    have answers : ∀ legacy product, Agree legacy product →
        venusRuntime.parseNotification n.frame n.time product = (.ok false, product) := by
      intro legacy product agree
      obtain ⟨answer, ofLegacy, ofProduct, _⟩ := agree.step n.frame n.time n.time
      rw [same legacy] at ofLegacy
      obtain rfl := Except.ok.inj ofLegacy
      rcases parseNotification_exact venusRuntime_lawful agree.inShape n.frame n.time with
        ⟨_, accepted⟩ | ⟨_, unchanged⟩
      · cases Except.ok.inj (accepted.symm.trans ofProduct)
      · exact unchanged
    refine ⟨fun c => decide_eq_false fun accepted => ?_, fun legacy product agree =>
      ⟨by rw [same legacy], by rw [ProductRuntime.receive, answers legacy product agree]⟩⟩
    rw [answers _ _ agree_fresh] at accepted
    cases Except.ok.inj accepted.2
  cases opened : parseFrame n.frame with
  | error e =>
    refine .inr (refused fun legacy => ?_)
    rw [legacyParse_eq, opened]
  | ok content =>
    obtain ⟨command, payload⟩ := content
    rcases bookkept_or_reject command payload with ⟨us, kept⟩ | rejected
    · exact .inl ⟨command, payload, us, rfl, kept⟩
    · refine .inr (refused fun legacy => ?_)
      rw [legacyParse_eq, opened]
      simp only [legacyDispatch, rejected n.time, reject]

theorem isReplyTo_iff (opened : parseFrame n.frame = .ok (command, payload))
    (yields : ∀ t, Yields (parseCommand command payload t) true us) (c : Byte) :
    isReplyTo c n = true ↔ c = command := by
  obtain ⟨after, _, ran, _⟩ := legacy_ran opened yields agree_fresh.ready
  obtain ⟨answer, ofLegacy, ofProduct, _⟩ := agree_fresh.step n.frame n.time n.time
  rw [ran] at ofLegacy
  obtain rfl := Except.ok.inj ofLegacy
  obtain ⟨_, whole⟩ := (parseFrame_eq_ok_iff n.frame command payload).mp opened
  have carried : commandByte n.frame = some command := by
    rw [whole]
    rfl
  rw [isReplyTo, decide_eq_true_iff, carried, and_iff_left ofProduct, Option.some.injEq, eq_comm]

end Notifications

/-! ### A run -/

/-- One byte string for both parsers, which read the same clock. -/
def Notification.delivery (n : Notification) : Delivery := ⟨n.frame, n.time, n.time⟩

/-- The last accepted reply to a command. -/
def lastReply (command : Byte) (ns : List Notification) : Option Notification :=
  (ns.filter (isReplyTo command)).getLast?

theorem lastReply_snoc (command : Byte) (ns : List Notification) (n : Notification) :
    lastReply command (ns ++ [n]) =
      if isReplyTo command n then some n else lastReply command ns := by
  rw [lastReply, List.filter_append, List.filter_singleton]
  cases isReplyTo command n with
  | true => simp
  | false => simp [lastReply]

/-- A tracked name is recorded with the leaf of its field, and with no other. -/
theorem claimants_tracked : ∀ e ∈ trackedNames,
    venusRuntime.claimants e.1 = [flatPath e.2] := by
  decide

private theorem pathString_ne_tracked {e : String × LegacyField} (listed : e ∈ trackedNames)
    (p : DataPath) (leaf : venusRuntime.createData.tree.IsLeaf p) : pathString p ≠ e.1 := by
  have apart : ∀ e ∈ trackedNames, ∀ p ∈ venusRuntime.createData.tree.leaves,
      pathString p ≠ e.1 := by
    decide +kernel
  exact apart e listed p (Node.mem_leaves_of_isLeaf leaf)

theorem product_step {product : TrackedProductData} (inShape : InShape venusRuntime product)
    (n : Notification) {e : String × LegacyField} (listed : e ∈ trackedNames) :
    (venusRuntime.receive product n).fieldUpdates e.1 =
      if flatPath e.2 ∈ venusRuntime.framePaths n.frame then n.entry
      else product.fieldUpdates e.1 := by
  rw [receive_alias venusRuntime_lawful inShape n (pathString_ne_tracked listed),
    claimants_tracked e listed]
  refine if_congr ?_ rfl rfl
  rw [← mem_reportedPaths inShape]
  simp

/-- How the two records of a tracked name are related: they are the same, but for a field
that a text may leave out. Such a field has a record in both objects once it is set, and
the hand-written parser's is that of the last reply, whether or not it names the field. -/
structure Booked (legacy : MarstekData) (product : TrackedProductData)
    (last : Byte → Option Notification) (e : String × LegacyField) : Prop where
  plain : e.2 ∉ pairFields → legacy.fieldUpdates e.1 = product.fieldUpdates e.1
  pair : e.2 ∈ pairFields → ∀ command, replyCommand (flatPath e.2) = some command →
    legacy.fieldUpdates e.1 =
      (product.fieldUpdates e.1).bind fun _ => (last command).bind Notification.entry
  set : e.2 ∈ pairFields →
    (product.fieldUpdates e.1).isSome = !Value.isNone (legacy.attrs e.2)
  answered : e.2 ∈ pairFields → ∀ command, replyCommand (flatPath e.2) = some command →
    (product.fieldUpdates e.1).isSome = true →
    ((last command).bind Notification.entry).isSome = true

private theorem exists_replyCommand (field : LegacyField) (pair : field ∈ pairFields) :
    ∃ command, replyCommand (flatPath field) = some command := by
  have owned : ∀ field ∈ pairFields,
      ∃ command ∈ [0x04, 0x24], replyCommand (flatPath field) = some command := by decide
  obtain ⟨command, _, owner⟩ := owned field pair
  exact ⟨command, owner⟩

theorem Booked.both {legacy : MarstekData} {product : TrackedProductData}
    {last : Byte → Option Notification} {e : String × LegacyField}
    (booked : Booked legacy product last e) :
    (legacy.fieldUpdates e.1).isSome = (product.fieldUpdates e.1).isSome := by
  by_cases pair : e.2 ∈ pairFields
  · obtain ⟨command, owner⟩ := exists_replyCommand e.2 pair
    have answered := booked.answered pair command owner
    rw [booked.pair pair command owner]
    cases dated : product.fieldUpdates e.1 with
    | none => rfl
    | some entry => exact answered (by rw [dated]; rfl)
  · rw [booked.plain pair]

theorem booked_fresh (e : String × LegacyField) :
    Booked MarstekData.fresh venusRuntime.createData (fun _ => none) e where
  plain := fun _ => rfl
  pair := fun _ _ _ => rfl
  set := fun pair => by
    have apart : LegacyField.cellVoltages ∉ pairFields := by decide
    have other : e.2 ≠ .cellVoltages := fun same => apart (same ▸ pair)
    show false = !Value.isNone (if e.2 = .cellVoltages then _ else _)
    rw [if_neg other]
    rfl
  answered := nofun

/-- One notification keeps the relation. -/
theorem Booked.step {legacy : MarstekData} {product : TrackedProductData}
    {last : Byte → Option Notification} {e : String × LegacyField}
    (booked : Booked legacy product last e) (agree : Agree legacy product)
    (listed : e ∈ trackedNames) (n : Notification) :
    Booked (parseNotification n.frame n.time legacy).2 (venusRuntime.receive product n)
      (fun command => if isReplyTo command n then some n else last command) e := by
  rcases notification_cases n with
    ⟨command, payload, us, opened, yields, texts, names, tracks, kept⟩ | ⟨silent, unchanged⟩
  · obtain ⟨after, parsed, ran, assigned⟩ := legacy_ran opened yields agree.ready
    have entry : n.entry = some (entryOf command n.time payload) := by
      rw [Notification.entry, openFrame_eq_parseFrame, opened]
      rfl
    have updates := congrFun (tracks n.time legacy after parsed) e.1
    have tracked := kept legacy.attrs e listed
    rw [assigned, marked] at updates
    have stepped := product_step agree.inShape n listed
    rw [if_congr (reported_iff_assigned opened yields e.2) rfl rfl, entry] at stepped
    have owner : (latest e.2 us).isSome = true → replyCommand (flatPath e.2) = some command := by
      intro written
      have reported := (reported_iff_assigned opened yields e.2).mpr written
      obtain ⟨_, whole⟩ := (parseFrame_eq_ok_iff n.frame command payload).mp opened
      rw [← replyCommand_framePaths reported, whole]
      rfl
    have written_set : e.2 ∈ pairFields → (latest e.2 us).isSome = true →
        Value.isNone (overwrite legacy.attrs us e.2) = false := by
      intro pair written
      obtain ⟨v, lastWrite⟩ := Option.isSome_iff_exists.mp written
      rw [overwrite, lastWrite]
      exact texts (e.2, v) (mem_of_latest lastWrite) pair
    have unwritten : ¬ (latest e.2 us).isSome = true →
        overwrite legacy.attrs us e.2 = legacy.attrs e.2 := by
      intro nothing
      rw [overwrite, Option.not_isSome_iff_eq_none.mp nothing]
      rfl
    rw [ran]
    refine ⟨fun other => ?_, fun pair c owned => ?_, fun pair => ?_, fun pair c owned dated => ?_⟩
    · rw [if_neg other] at tracked
      rw [if_congr tracked rfl rfl] at updates
      rw [updates, stepped, booked.plain other]
    · rw [if_pos pair, owned] at tracked
      rw [if_congr tracked rfl rfl] at updates
      rw [updates, stepped]
      by_cases replied : c = command
      · subst replied
        rw [if_pos ((isReplyTo_iff opened yields c).mpr rfl), Option.bind_some, entry]
        by_cases written : (latest e.2 us).isSome = true
        · rw [if_pos ⟨rfl, written_set pair written⟩, if_pos written]
          rfl
        · rw [if_neg written, unwritten written, booked.pair pair c owned]
          have known := booked.set pair
          cases record : product.fieldUpdates e.1 with
          | none =>
            rw [record] at known
            rw [if_neg fun h => by simp [h.2] at known]
            rfl
          | some older =>
            rw [record] at known
            rw [if_pos ⟨rfl, by simpa using known.symm⟩]
            rfl
      · have written : ¬ (latest e.2 us).isSome = true := fun written =>
          replied (Option.some.inj (owned.symm.trans (owner written)))
        rw [if_neg (mt (isReplyTo_iff opened yields c).mp replied), if_neg written,
          if_neg fun h => replied (Option.some.inj h.1), booked.pair pair c owned]
    · rw [stepped, assigned]
      by_cases written : (latest e.2 us).isSome = true
      · rw [if_pos written, written_set pair written]
        rfl
      · rw [if_neg written, unwritten written, booked.set pair]
    · by_cases replied : isReplyTo c n = true
      · rw [if_pos replied, Option.bind_some, entry]
        rfl
      · have written : ¬ (latest e.2 us).isSome = true := fun written => replied
          ((isReplyTo_iff opened yields c).mpr (Option.some.inj (owned.symm.trans (owner written))))
        rw [stepped, if_neg written] at dated
        rw [if_neg replied]
        exact booked.answered pair c owned dated
  · obtain ⟨same, still⟩ := unchanged legacy product agree
    rw [same, still]
    simpa only [silent, Bool.false_eq_true, if_false] using booked

theorem booked_run (ns : List Notification) {e : String × LegacyField}
    (listed : e ∈ trackedNames) :
    Booked (legacyAfter (ns.map Notification.delivery))
      (productAfter (ns.map Notification.delivery)) (lastReply · ns) e := by
  induction ns using List.reverseRecOn with
  | nil => exact booked_fresh e
  | append_singleton ns n ih =>
    have stepped := ih.step (agree_run _) listed n
    rw [List.map_append, legacyAfter, productAfter, List.foldl_append, List.foldl_append]
    simp only [lastReply_snoc]
    exact stepped

/-- The declarative parser dates a tracked name by the last reply that reports its field. -/
theorem product_dated (ns : List Notification) {e : String × LegacyField}
    (listed : e ∈ trackedNames) :
    (venusRuntime.receiveAll venusRuntime.createData ns).fieldUpdates e.1 =
      (venusRuntime.lastReporter (flatPath e.2) venusRuntime.createData ns).bind
        Notification.entry := by
  have fresh := inShape_createData venusRuntime
  have leaf : venusRuntime.createData.tree.IsLeaf (flatPath e.2) := by
    rw [Node.IsLeaf, agree_fresh.same e.2]
    rfl
  rw [fieldUpdates_alias venusRuntime_lawful (pathString_ne_tracked listed) leaf
    (fun data _ n => by rw [claimants_tracked e listed]; simp) ns fresh rfl]
  have run := receiveAll_leaf venusRuntime_lawful leaf ns fresh
  dsimp only at run
  cases last : venusRuntime.lastReporter (flatPath e.2) venusRuntime.createData ns with
  | none =>
    rw [last] at run
    exact run.2
  | some n =>
    rw [last] at run
    exact run.2

/-- How far the two Venus parsers agree on the metadata of a field. After any
notifications every tracked name, of a field or of a cell, is dated by the last reply that
reported the field, in both data objects, unless it is one of the ten fields that a
key/value text may leave out. Those the hand-written parser dates by the last accepted
reply to their command instead, whether or not the reply mentions them. Every tracked
name has metadata in both objects or in neither. -/
theorem metadata_agrees (ns : List Notification) (now : ℚ) :
    let legacy := legacyAfter (ns.map Notification.delivery)
    let product := productAfter (ns.map Notification.delivery)
    ∀ e ∈ trackedNames,
      product.fieldUpdates e.1 =
        (venusRuntime.lastReporter (flatPath e.2) venusRuntime.createData ns).bind
          Notification.entry ∧
      (legacy.fieldUpdates e.1).isSome = (product.fieldUpdates e.1).isSome ∧
      (e.2 ∉ pairFields →
        legacy.getFieldMetadata e.1 now = product.getFieldMetadata (.name e.1) now) ∧
      (e.2 ∈ pairFields → ∃ command, replyCommand (flatPath e.2) = some command ∧
        legacy.fieldUpdates e.1 = (product.fieldUpdates e.1).bind fun _ =>
          (lastReply command ns).bind Notification.entry) := by
  intro legacy product e listed
  have booked := booked_run ns listed
  have whole : product = venusRuntime.receiveAll venusRuntime.createData ns := by
    show List.foldl _ _ (ns.map Notification.delivery) = _
    rw [List.foldl_map]
    rfl
  refine ⟨whole ▸ product_dated ns listed, booked.both, fun other => ?_, fun pair => ?_⟩
  · unfold MarstekData.getFieldMetadata TrackedProductData.getFieldMetadata
    exact congrArg (Option.map _) (booked.plain other)
  · obtain ⟨command, owner⟩ := exists_replyCommand e.2 pair
    exact ⟨command, owner, booked.pair pair command owner⟩

/-- Device-information texts with the type, at 5, and without it, at 9, and a reply with
the Wi-Fi name between them: the hand-written parser dates the type by the second text,
the declarative one by the first; the Wi-Fi name has the same metadata in both objects. -/
theorem metadata_agrees_device_type :
    let ns : List Notification := [⟨frameOf 0x04 [0x74, 0x79, 0x70, 0x65, 0x3D, 0x41], 5⟩,
      ⟨frameOf 0x08 [0x61], 6⟩, ⟨frameOf 0x04 [0x69, 0x64, 0x3D, 0x31], 9⟩]
    let legacy := legacyAfter (ns.map Notification.delivery)
    let product := productAfter (ns.map Notification.delivery)
    legacy.getFieldMetadata "wifi_ssid" 12 = product.getFieldMetadata (.name "wifi_ssid") 12 ∧
      product.fieldUpdates "device_type" = some ⟨0x04, 5, some "747970653d41"⟩ ∧
      legacy.fieldUpdates "device_type" = some ⟨0x04, 9, some "69643d31"⟩ := by
  intro ns legacy product
  have agrees := metadata_agrees ns 12
  obtain ⟨_, _, plain, _⟩ := agrees ("wifi_ssid", .wifiSsid) (by decide)
  obtain ⟨dated, _, _, pair⟩ := agrees ("device_type", .deviceType) (by decide)
  have first : product.fieldUpdates "device_type" = some ⟨0x04, 5, some "747970653d41"⟩ :=
    dated.trans (by decide)
  obtain ⟨command, owner, last⟩ := pair (by decide)
  obtain rfl : (0x04 : Byte) = command := Option.some.inj owner
  refine ⟨plain (by decide), first, last.trans ?_⟩
  rw [first, Option.bind_some]
  decide

end MarstekBle.Legacy
