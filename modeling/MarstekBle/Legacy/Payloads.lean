/- module: Legacy/Payloads
   source: custom_components/marstek_ble/marstek_device.py
   digest: What each hand-written payload parser answers and assigns. -/

import MarstekBle.Legacy.Writes

set_option autoImplicit false
set_option relaxedAutoImplicit false

namespace MarstekBle.Legacy

open MarstekBle.Data MarstekBle.Protocol MarstekBle.Lib.AttributeTree

/-! ### Assignments per packet -/

section Tables

variable (payload : Bytes)

def shortRuntimeWrites : List (LegacyField × Value) := [
  (.out1Power, convert toFloat (integerAt .H payload 20)),
  (.wifiConnected, convert (bit 0) (integerAt .B payload 15)),
  (.mqttConnected, convert (bit 1) (integerAt .B payload 15)),
  (.out1Active, convert nonzero (integerAt .B payload 16)),
  (.extern1Connected, convert nonzero (integerAt .B payload 28))]

def longRuntimeWrites : List (LegacyField × Value) := [
  (.out1Power, convert toFloat (integerAt .H payload 20)),
  (.tempLow, convert (divideBy 10) (integerAt .h payload 33)),
  (.tempHigh, convert (divideBy 10) (integerAt .h payload 35)),
  (.wifiConnected, convert (bit 0) (integerAt .B payload 15)),
  (.mqttConnected, convert (bit 1) (integerAt .B payload 15)),
  (.out1Active, convert nonzero (integerAt .B payload 16)),
  (.extern1Connected, convert nonzero (integerAt .B payload 28))]

/-- What a payload of at least 100 bytes adds, in the order of the source's branch. -/
def extendedRuntimeWrites : List (LegacyField × Value) := [
  (.gridPower, convert toFloat (integerAt .h payload 0)),
  (.solarPower, convert toFloat (integerAt .h payload 2)),
  (.workMode, convert identity (integerAt .B payload 4)),
  (.productCode, convert identity (integerAt .H payload 12)),
  (.dailyEnergyCharged, convert (divideBy 100) (integerAt .I payload 14)),
  (.monthlyEnergyCharged, convert (divideBy 1000) (integerAt .I payload 18)),
  (.dailyEnergyDischarged, convert (divideBy 100) (integerAt .I payload 22)),
  (.monthlyEnergyDischarged, convert (divideBy 100) (integerAt .I payload 26)),
  (.totalEnergyCharged, convert (divideBy 100) (integerAt .I payload 41)),
  (.totalEnergyDischarged, convert (divideBy 100) (integerAt .I payload 45)),
  (.powerRating, convert identity (integerAt .H payload 74))]

def runtimeWrites : List (LegacyField × Value) :=
  if payload.length < 60 then shortRuntimeWrites payload
  else if payload.length < 100 then longRuntimeWrites payload
  else longRuntimeWrites payload ++ extendedRuntimeWrites payload

def systemWrites : List (LegacyField × Value) := [
  (.systemStatus, convert identity (integerAt .B payload 0)),
  (.systemValue1, convert identity (integerAt .H payload 1)),
  (.systemValue2, convert identity (integerAt .H payload 3)),
  (.systemValue3, convert identity (integerAt .H payload 5)),
  (.systemValue4, convert identity (integerAt .H payload 7)),
  (.systemValue5, convert identity (integerAt .H payload 9))]

def timerWrites : List (LegacyField × Value) := [
  (.adaptiveModeEnabled, convert nonzero (integerAt .B payload 0)),
  (.smartMeterConnected, convert nonzero (integerAt .B payload 37)),
  (.adaptivePowerOut, convert toFloat (integerAt .H payload 38))]

/-- The voltage of one cell. -/
def cellValue (i : Nat) : Value := convert (divideBy 1000) (integerAt .H payload (48 + i * 2))

def batteryWrites : List (LegacyField × Value) := [
  (.bmsVersion, convert identity (integerAt .H payload 0)),
  (.voltageLimit, convert (divideBy 10) (integerAt .H payload 2)),
  (.chargeCurrentLimit, convert (divideBy 10) (integerAt .H payload 4)),
  (.dischargeCurrentLimit, convert (divideBy 10) (integerAt .h payload 6)),
  (.batterySoc, convert toFloat (integerAt .H payload 8)),
  (.batterySoh, convert toFloat (integerAt .H payload 10)),
  (.designCapacity, convert toFloat (integerAt .H payload 12)),
  (.batteryVoltage, convert (divideBy 100) (integerAt .H payload 14)),
  (.batteryCurrent, convert (divideBy 10) (integerAt .h payload 16)),
  (.batteryTemp, convert toFloat (integerAt .H payload 18)),
  (.errorCode, convert identity (integerAt .H payload 26)),
  (.warningCode, convert identity (integerAt .I payload 28)),
  (.runtimeHours, convert (divideBy 3600000) (integerAt .I payload 32)),
  (.mosfetTemp, convert toFloat (integerAt .H payload 38)),
  (.tempSensor1, convert toFloat (integerAt .H payload 40)),
  (.tempSensor2, convert toFloat (integerAt .H payload 42)),
  (.tempSensor3, convert toFloat (integerAt .H payload 44)),
  (.tempSensor4, convert toFloat (integerAt .H payload 46))]

def cellWrite : LegacyField × Value :=
  (.cellVoltages, .list ((List.range 16).map (cellValue payload)))

def configWrites : List (LegacyField × Value) := [
  (.configMode, convert identity (integerAt .B payload 0)),
  (.configStatus, convert identity (integerAt .b payload 4)),
  (.configValue, convert identity (integerAt .B payload 16))]

def ctPollingWrites : List (LegacyField × Value) := [
  (.ctPollingRate, convert identity (integerAt .B payload 0))]

def wifiWrites : List (LegacyField × Value) := [
  (.wifiSsid, .str (strip (decodeAsciiIgnore payload)))]

def meterWrites : List (LegacyField × Value) := [
  (.meterIp, .str (if payload.all (· == 0xFF) then "(not set)".toList
    else stripChar '\x00' (decodeAsciiIgnore payload)))]

/-- The assignment of one key/value segment. -/
def segmentWrite (separator : Char) (fieldOf : Text → Option LegacyField) (pair : Text) :
    Option (LegacyField × Value) :=
  (splitOnce separator pair).bind fun e =>
    (fieldOf (strip e.1)).map fun field => (field, .str (strip e.2))

def segmentWrites (separator : Char) (fieldOf : Text → Option LegacyField)
    (pairs : List Text) : List (LegacyField × Value) :=
  pairs.filterMap (segmentWrite separator fieldOf)

def deviceWrites : List (LegacyField × Value) :=
  segmentWrites '=' deviceField (split ',' (decodeAsciiIgnore payload))

def networkWrites : List (LegacyField × Value) :=
  let text := strip (decodeAsciiIgnore payload)
  (.networkInfo, .str text) :: segmentWrites ':' networkField (split ',' text)

/-- `f"{enabled}/{port}"`. -/
def localApiWrites (first : Byte) (port : Int) : List (LegacyField × Value) := [
  (.localApiStatus, .str ((if first = 1 then "enabled" else "disabled").toList ++
    '/' :: (toString port).toList))]

end Tables

/-! ### Binary payloads -/

section Binary

variable {payload : Bytes} (timestamp : ℚ)

private theorem assigns_short (origin : Origin) (fits : 37 ≤ payload.length) :
    Assigns (shortRuntimeInfo payload origin) (shortRuntimeWrites payload) := by
  have wifi : 16 ≤ payload.length := by omega
  have active : 17 ≤ payload.length := by omega
  have power : 22 ≤ payload.length := by omega
  have reachesExtern : 29 ≤ payload.length := by omega
  unfold shortRuntimeInfo
  simp (disch := first | decide | omega) only [byteMasked_one, byteMasked_two, byteNonzero_eq,
    asFloat_unpackAt]
  have connections := assigns_when wifi (assigns_entries
    [(.wifiConnected, convert (bit 0) (integerAt .B payload 15)),
      (.mqttConnected, convert (bit 1) (integerAt .B payload 15))] (by simp)
    (assigns_tracks origin [.wifiConnected, .mqttConnected]))
  have output := assigns_when active (assigns_entries
    [(.out1Active, convert nonzero (integerAt .B payload 16))] (by simp)
    (assigns_tracks origin [.out1Active]))
  have watts := assigns_when power (assigns_entries
    [(.out1Power, convert toFloat (integerAt .H payload 20))] (by simp)
    (assigns_tracks origin [.out1Power]))
  have external := assigns_when reachesExtern (assigns_entries
    [(.extern1Connected, convert nonzero (integerAt .B payload 28))] (by simp)
    (assigns_tracks origin [.extern1Connected]))
  refine (connections.cons (output.cons (watts.cons (external.cons assigns_nil)))).congr ?_
  intro f
  cases f <;> rfl

private theorem assigns_long (origin : Origin) (fits : 60 ≤ payload.length)
    (short : ¬ 100 ≤ payload.length) :
    Assigns (longRuntimeInfo payload origin) (longRuntimeWrites payload) := by
  unfold longRuntimeInfo
  rw [when, if_neg short]
  simp (disch := first | decide | omega) only [byteMasked_one, byteMasked_two, byteNonzero_eq,
    asFloat_unpackAt, scaled_unpackAt]
  have tracked := assigns_tracks origin [.out1Power, .tempLow, .tempHigh, .wifiConnected,
    .mqttConnected, .out1Active, .extern1Connected]
  have written := assigns_entries (longRuntimeWrites payload) (by simp [longRuntimeWrites])
    (assigns_nil.cons (tracked.cons assigns_nil))
  exact written

private theorem assigns_extended (origin : Origin) (fits : 100 ≤ payload.length) :
    Assigns (longRuntimeInfo payload origin)
      (longRuntimeWrites payload ++ extendedRuntimeWrites payload) := by
  unfold longRuntimeInfo
  rw [when, if_pos fits]
  simp (disch := first | decide | omega) only [byteMasked_one, byteMasked_two, byteNonzero_eq,
    asFloat_unpackAt, scaled_unpackAt, asInt_unpackAt, asInt_byteValue]
  have extended := assigns_entries (extendedRuntimeWrites payload)
    (by simp [extendedRuntimeWrites])
    ((assigns_tracks origin [.gridPower, .solarPower, .workMode, .productCode,
      .dailyEnergyCharged, .monthlyEnergyCharged, .dailyEnergyDischarged,
      .monthlyEnergyDischarged, .totalEnergyCharged, .totalEnergyDischarged,
      .powerRating]).cons assigns_nil)
  have tracked := assigns_tracks origin [.out1Power, .tempLow, .tempHigh, .wifiConnected,
    .mqttConnected, .out1Active, .extern1Connected]
  have written := assigns_entries (longRuntimeWrites payload) (by simp [longRuntimeWrites])
    (extended.cons (tracked.cons assigns_nil))
  exact written

theorem yields_runtimeInfo (fits : 37 ≤ payload.length) :
    Yields (parseRuntimeInfo payload timestamp) true (runtimeWrites payload) := by
  have long : ¬ payload.length < 37 := Nat.not_lt.mpr fits
  unfold parseRuntimeInfo runtimeWrites
  rw [if_neg long]
  by_cases short : payload.length < 60
  · rw [if_pos short, if_pos short]
    exact (assigns_short _ fits).trying
  · rw [if_neg short, if_neg short]
    by_cases medium : payload.length < 100
    · rw [if_pos medium]
      exact (assigns_long _ (Nat.le_of_not_lt short) (Nat.not_le.mpr medium)).returning
    · rw [if_neg medium]
      exact (assigns_extended _ (Nat.le_of_not_lt medium)).returning

theorem yields_systemData (fits : 11 ≤ payload.length) :
    Yields (parseSystemData payload timestamp) true (systemWrites payload) := by
  have long : ¬ payload.length < 11 := Nat.not_lt.mpr fits
  rw [parseSystemData, if_neg long]
  simp (disch := first | decide | omega) only [asInt_unpackAt, asInt_byteValue]
  have tracked := assigns_tracks ⟨0x0D, timestamp, payload⟩ [.systemStatus, .systemValue1,
    .systemValue2, .systemValue3, .systemValue4, .systemValue5]
  have written := assigns_entries (systemWrites payload) (by simp [systemWrites])
    (tracked.cons assigns_nil)
  exact written.returning

theorem yields_timerInfo (fits : 45 ≤ payload.length) :
    Yields (parseTimerInfo payload timestamp) true (timerWrites payload) := by
  have long : ¬ payload.length < 45 := Nat.not_lt.mpr fits
  rw [parseTimerInfo, if_neg long]
  simp (disch := first | decide | omega) only [asFloat_unpackAt, byteNonzero_eq]
  have tracked := assigns_tracks ⟨0x13, timestamp, payload⟩ [.adaptiveModeEnabled,
    .smartMeterConnected, .adaptivePowerOut]
  have written := assigns_entries (timerWrites payload) (by simp [timerWrites])
    (tracked.cons assigns_nil)
  exact written.returning

/-- The first turns of the cell loop replace the first cells and keep the others. -/
private theorem block_parseCell (origin : Origin) (fits : 80 ≤ payload.length)
    {data : MarstekData} {cells : List Value} (hcells : data.attrs .cellVoltages = .list cells)
    (length : cells.length = 16) (k : Nat) (turns : k ≤ 16) :
    ∃ after, block ((List.range k).map (parseCell payload origin)) data = (.ok (), after) ∧
      after.attrs = fun f => if f = .cellVoltages then
        .list ((List.range k).map (cellValue payload) ++ cells.drop k) else data.attrs f := by
  induction k with
  | zero =>
    refine ⟨data, rfl, ?_⟩
    funext f
    by_cases h : f = .cellVoltages
    · simp [h, hcells]
    · simp [h]
  | succ k ih =>
    obtain ⟨middle, ran, assigned⟩ := ih (by omega)
    have inside : 48 + k * 2 + 1 < payload.length := by omega
    have last : 48 + k * 2 + 2 ≤ payload.length := by omega
    have room : k < cells.length := by omega
    have current : middle.attrs .cellVoltages =
        .list ((List.range k).map (cellValue payload) ++ cells.drop k) := by simp [assigned]
    have replaced : ((List.range k).map (cellValue payload) ++ cells.drop k).set k
        (cellValue payload k) =
          (List.range k ++ [k]).map (cellValue payload) ++ cells.drop (k + 1) := by
      have here : k - ((List.range k).map (cellValue payload)).length = 0 := by simp
      rw [List.set_append_right _ _ (by simp), here, List.drop_eq_getElem_cons room,
        List.set_cons_zero, List.map_append, List.append_assoc]
      rfl
    have voltage : scaled 1000 (unpackAt .H payload (48 + k * 2) (48 + k * 2 + 2)) =
        .ok (cellValue payload k) := scaled_unpackAt 1000 rfl last
    rw [List.range_succ]
    refine ⟨(middle.set .cellVoltages (.list ((List.range k ++ [k]).map (cellValue payload) ++
      cells.drop (k + 1)))).markFieldUpdate ("cell_" ++ toString (k + 1) ++ "_voltage")
        origin.command origin.timestamp origin.payload, ?_, ?_⟩
    · have index : k < ((List.range k).map (cellValue payload) ++ cells.drop k).length := by
        simp
        omega
      rw [List.map_append, block_append, ran]
      simp only [List.map_cons, List.map_nil, block, parseCell, when, inside, if_true, voltage,
        assignCell, current, index, replaced, trackName]
    · funext f
      by_cases h : f = .cellVoltages
      · simp [MarstekData.markFieldUpdate, MarstekData.set, h]
      · simp [MarstekData.markFieldUpdate, MarstekData.set, assigned, h]

private theorem assigns_cells (origin : Origin) (fits : 80 ≤ payload.length) :
    Assigns (block ((List.range 16).map (parseCell payload origin))) [cellWrite payload] := by
  rintro data ⟨cells, hcells, length⟩
  obtain ⟨after, ran, assigned⟩ := block_parseCell origin fits hcells length 16 le_rfl
  have whole : cells.drop 16 = [] := List.drop_eq_nil_of_le (by omega)
  rw [whole, List.append_nil] at assigned
  refine ⟨after, ran, ?_, (List.range 16).map (cellValue payload), by simp [assigned], by simp⟩
  funext f
  by_cases h : f = .cellVoltages
  · simp [assigned, overwrite, latest, cellWrite, h]
  · simp [assigned, overwrite, latest, cellWrite, h, Ne.symm h]

theorem yields_bmsData (fits : 80 ≤ payload.length) :
    Yields (parseBmsData payload timestamp) true
      (batteryWrites payload ++ [cellWrite payload]) := by
  have long : ¬ payload.length < 80 := Nat.not_lt.mpr fits
  rw [parseBmsData, if_neg long]
  simp (disch := first | decide | omega) only [asInt_unpackAt, asFloat_unpackAt,
    scaled_unpackAt]
  have tracked := assigns_tracks ⟨0x14, timestamp, payload⟩ [.bmsVersion, .voltageLimit,
    .chargeCurrentLimit, .dischargeCurrentLimit, .batterySoc, .batterySoh, .designCapacity,
    .batteryVoltage, .batteryCurrent, .batteryTemp, .errorCode, .warningCode, .runtimeHours,
    .mosfetTemp, .tempSensor1, .tempSensor2, .tempSensor3, .tempSensor4]
  have written := assigns_entries (batteryWrites payload) (by simp [batteryWrites])
    ((assigns_cells ⟨0x14, timestamp, payload⟩ fits).cons (tracked.cons assigns_nil))
  exact written.returning

theorem yields_configData (fits : 17 ≤ payload.length) :
    Yields (parseConfigData payload timestamp) true (configWrites payload) := by
  have long : ¬ payload.length < 17 := Nat.not_lt.mpr fits
  rw [parseConfigData, if_neg long]
  simp (disch := first | decide | omega) only [asInt_unpackAt, asInt_byteValue]
  have tracked := assigns_tracks ⟨0x1A, timestamp, payload⟩ [.configMode, .configStatus,
    .configValue]
  have written := assigns_entries (configWrites payload) (by simp [configWrites])
    (tracked.cons assigns_nil)
  exact written.returning

theorem yields_ctPollingRate (fits : 1 ≤ payload.length) :
    Yields (parseCtPollingRate payload timestamp) true (ctPollingWrites payload) := by
  have long : ¬ payload.length < 1 := Nat.not_lt.mpr fits
  rw [parseCtPollingRate, if_neg long]
  simp (disch := omega) only [asInt_byteValue]
  have written := assigns_entries (ctPollingWrites payload) (by simp [ctPollingWrites])
    (assigns_tracks ⟨0x22, timestamp, payload⟩ [.ctPollingRate])
  exact written.returning

end Binary

/-! ### Text payloads -/

section Textual

variable {payload : Bytes} (timestamp : ℚ)

private theorem assigns_pair {separator : Char} {fieldOf : Text → Option LegacyField}
    (notCells : ∀ key, fieldOf key ≠ some .cellVoltages) (pair : Text) :
    Assigns (assignPair separator fieldOf pair)
      (segmentWrite separator fieldOf pair).toList := by
  unfold assignPair segmentWrite
  cases splitOnce separator pair with
  | none => exact assigns_nil
  | some e =>
    obtain ⟨key, value⟩ := e
    cases found : fieldOf (strip key) with
    | none => simpa [found] using assigns_nil
    | some field =>
      have plain : field ≠ .cellVoltages := fun h => notCells (strip key) (h ▸ found)
      simpa [found] using assigns_assign plain (.str (strip value))

private theorem assigns_segments (separator : Char) {fieldOf : Text → Option LegacyField}
    (notCells : ∀ key, fieldOf key ≠ some .cellVoltages) (pairs : List Text) :
    Assigns (block (pairs.map (assignPair separator fieldOf)))
      (segmentWrites separator fieldOf pairs) := by
  rw [segmentWrites, List.filterMap_eq_flatMap_toList]
  exact assigns_map (assigns_pair notCells) pairs

private theorem deviceField_ne (key : Text) : deviceField key ≠ some .cellVoltages := by
  unfold deviceField
  split_ifs <;> simp

private theorem networkField_ne (key : Text) : networkField key ≠ some .cellVoltages := by
  unfold networkField
  split_ifs <;> simp

theorem yields_deviceInfo (fits : 1 ≤ payload.length) :
    Yields (parseDeviceInfo payload timestamp) true (deviceWrites payload) := by
  have nonempty : payload ≠ [] := List.ne_nil_of_length_pos fits
  rw [parseDeviceInfo, if_neg nonempty]
  have tracked := assigns_tracksIfSet ⟨0x04, timestamp, payload⟩ [.deviceType, .deviceId,
    .serialNumber, .macAddress, .firmwareVersion, .hardwareVersion]
  have written := (assigns_segments '=' deviceField_ne
    (split ',' (decodeAsciiIgnore payload))).cons (tracked.cons assigns_nil)
  simpa [deviceWrites] using written.trying

theorem yields_wifiSsid :
    Yields (parseWifiSsid payload timestamp) true (wifiWrites payload) := by
  unfold parseWifiSsid
  have written := assigns_entries (wifiWrites payload) (by simp [wifiWrites])
    (assigns_tracks ⟨0x08, timestamp, payload⟩ [.wifiSsid])
  exact written.trying

theorem yields_meterIp (fits : 1 ≤ payload.length) :
    Yields (parseMeterIp payload timestamp) true (meterWrites payload) := by
  have nonempty : payload ≠ [] := List.ne_nil_of_length_pos fits
  rw [parseMeterIp, if_neg nonempty]
  have plain : ∀ u ∈ meterWrites payload, u.1 ≠ .cellVoltages := by
    intro u hu
    rw [List.mem_singleton.mp hu]
    exact nofun
  have written := assigns_entries (meterWrites payload) plain
    (assigns_tracks ⟨0x21, timestamp, payload⟩ [.meterIp])
  exact written.trying

theorem yields_networkInfo :
    Yields (parseNetworkInfo payload timestamp) true (networkWrites payload) := by
  have tracked := assigns_tracksIfSet ⟨0x24, timestamp, payload⟩ [.networkInfo, .ipAddress,
    .gateway, .subnetMask, .dnsServer]
  unfold parseNetworkInfo networkWrites
  generalize strip (decodeAsciiIgnore payload) = text
  have segments : Assigns (when (text ≠ []) (block ((split ',' text).map
      (assignPair ':' networkField)))) (segmentWrites ':' networkField (split ',' text)) := by
    by_cases nonempty : text ≠ []
    · exact assigns_when nonempty (assigns_segments _ networkField_ne _)
    · have empty : text = [] := by simpa using nonempty
      rw [when, if_neg nonempty, empty]
      exact assigns_nil
  have written := (assigns_assign (f := .networkInfo) (by simp) (.str text)).cons
    (segments.cons (tracked.cons assigns_nil))
  simpa using written.trying

theorem yields_localApiStatus {first : Byte} {rest : Bytes} (fits : 3 ≤ (first :: rest).length) :
    Yields (parseLocalApiStatus (first :: rest) timestamp) true
      (localApiWrites first (integerAt .H (first :: rest) 1)) := by
  have long : ¬ (first :: rest).length < 3 := Nat.not_lt.mpr fits
  have head : byteAt (first :: rest) 0 = .ok first := rfl
  have port : unpackAt .H (first :: rest) 1 3 = .ok (integerAt .H (first :: rest) 1) :=
    unpackAt_eq rfl fits
  rw [parseLocalApiStatus, if_neg long, head, port]
  exact (assigns_entries (localApiWrites first (integerAt .H (first :: rest) 1))
    (by simp [localApiWrites])
    (assigns_tracks ⟨0x28, timestamp, first :: rest⟩ [.localApiStatus])).returning

end Textual

end MarstekBle.Legacy
