/- module: Standalone/SharedReplies
   source: standalone_test/marstek_basic_info.py, custom_components/marstek_ble/marstek_device.py,
           products/venus.py
   digest: What the tool prints of a reply is what the integration keeps of it. -/

import MarstekBle.Legacy.Equivalence
import MarstekBle.Product.Interleaving
import MarstekBle.Protocol.Receivers
import MarstekBle.Standalone.Payloads

/-!
The tool has payload parsers of its own. Several replies are decoded by it, by the
hand-written Venus parser and by the declarative one, under different names and
partly in different units.
-/

set_option autoImplicit false
set_option relaxedAutoImplicit false

namespace MarstekBle.Standalone

open MarstekBle.Data MarstekBle.Schema MarstekBle.Protocol MarstekBle.Product
open MarstekBle.Legacy (LegacyField MarstekData Delivery legacyAfter productAfter flatPath
  overwrite convert integerAt_B slice_single)
open MarstekBle.Lib.AttributeTree

/-! ### Reading a report -/

namespace Metric

/-- The value of a key of a dictionary. -/
def get? : Metric → String → Option Metric
  | .dict entries, key => entries.lookup key.toList
  | _, _ => Option.none

def number? : Metric → Option ℚ
  | .int n => some n
  | .float q => some q
  | _ => Option.none

theorem get?_record (entries : List (String × Metric)) (key : String) :
    (record entries).get? key = entries.lookup key := by
  show (entries.map fun e => (e.1.toList, e.2)).lookup key.toList = _
  induction entries with
  | nil => rfl
  | cons e entries ih =>
    have same : (key.toList == e.1.toList) = (key == e.1) := by
      rw [Bool.eq_iff_iff, beq_iff_eq, beq_iff_eq, String.toList_inj]
    rw [List.map_cons, List.lookup_cons, List.lookup_cons, ih, same]

end Metric

/-- A quantity both programs decode: the key the tool reports it under, the field the
integration keeps it in, and how many of the tool's units make one of the field's. -/
structure Quantity where
  key : String
  field : LegacyField
  unit : ℚ := 1

def runtimeQuantities : List Quantity := [
  { key := "grid_power_w", field := .gridPower },
  { key := "battery_power_w", field := .solarPower },
  { key := "work_mode_id", field := .workMode },
  { key := "product_code", field := .productCode },
  { key := "power_rating_w", field := .powerRating },
  { key := "daily_charge_kwh", field := .dailyEnergyCharged },
  { key := "monthly_charge_kwh", field := .monthlyEnergyCharged },
  { key := "daily_discharge_kwh", field := .dailyEnergyDischarged },
  { key := "monthly_discharge_kwh", field := .monthlyEnergyDischarged },
  { key := "total_charge_kwh", field := .totalEnergyCharged },
  { key := "total_discharge_kwh", field := .totalEnergyDischarged }]

def batteryQuantities : List Quantity := [
  { key := "bms_version", field := .bmsVersion },
  { key := "voltage_limit_v", field := .voltageLimit },
  { key := "charge_current_limit_a", field := .chargeCurrentLimit },
  { key := "discharge_current_limit_a", field := .dischargeCurrentLimit },
  { key := "remaining_capacity_pct", field := .batterySoc },
  { key := "state_of_health_pct", field := .batterySoh },
  { key := "design_capacity_wh", field := .designCapacity },
  { key := "voltage_v", field := .batteryVoltage },
  { key := "battery_current_a", field := .batteryCurrent },
  { key := "battery_temperature_c", field := .batteryTemp },
  { key := "error_code", field := .errorCode },
  { key := "warning_code", field := .warningCode },
  { key := "runtime_ms", field := .runtimeHours, unit := 3600000 },
  { key := "mosfet_temperature_c", field := .mosfetTemp },
  { key := "temperature_1_c", field := .tempSensor1 },
  { key := "temperature_2_c", field := .tempSensor2 },
  { key := "temperature_3_c", field := .tempSensor3 },
  { key := "temperature_4_c", field := .tempSensor4 }]

/-- The numbers that both programs read from the replies to a command, except
`config_status` of 0x1A, which the tool reads unsigned and the integration signed. -/
def sharedQuantities (command : Byte) : List Quantity :=
  if command = 0x03 then runtimeQuantities
  else if command = 0x0D then [{ key := "system_status", field := .systemStatus }]
  else if command = 0x14 then batteryQuantities
  else if command = 0x1A then [
    { key := "mode", field := .configMode },
    { key := "config_value", field := .configValue }]
  else []

/-- The number of 0x1A that the two programs read with different signs. -/
def configStatus : Quantity := { key := "config_status", field := .configStatus }

/-- The tool reports the quantity as the number the integration holds, in its own unit. -/
def Quantity.Reads (quantity : Quantity) (tool : Metric) (held : Value) : Prop :=
  ∃ q, held.toRat? = some q ∧
    (tool.get? quantity.key).bind Metric.number? = some (quantity.unit * q)

/-- How the tool prints a voltage between zero and five volts. -/
def shownCell (cell : Value) : Option Metric :=
  match cell.toRat? with
  | some volts =>
    if 0 < volts ∧ volts < 5 then some (.str (millivolts (volts * 1000).num)) else none
  | none => none

/-! ### One number -/

section Numbers

variable {payload : Bytes} {offset : Nat}

theorem u16_eq (fits : offset + 2 ≤ payload.length) :
    u16 payload offset = integerAt .H payload offset := by
  rw [u16, readLe, if_neg (Nat.not_lt.mpr fits)]
  rfl

theorem s16_eq (fits : offset + 2 ≤ payload.length) :
    s16 payload offset = integerAt .h payload offset := by
  rw [s16, readLe, if_neg (Nat.not_lt.mpr fits)]
  rfl

theorem u32_eq (fits : offset + 4 ≤ payload.length) :
    u32 payload offset = integerAt .I payload offset := by
  rw [u32, readLe, if_neg (Nat.not_lt.mpr fits)]
  rfl

theorem integerAt_b (inside : offset < payload.length) : integerAt .b payload offset =
    if payload[offset].toNat < 128 then (payload[offset].toNat : Int)
    else payload[offset].toNat - 256 := by
  have unsigned : unsignedOf [payload[offset]] = payload[offset].toNat := by simp [unsignedOf]
  show signedOf (slice payload offset (offset + 1)) = _
  rw [slice_single inside, signedOf, unsigned]
  have half : 2 * payload[offset].toNat < 256 ^ [payload[offset]].length ↔
      payload[offset].toNat < 128 := by
    rw [List.length_singleton]
    omega
  rw [if_congr half rfl rfl]
  rfl

theorem byteOrZero_eq (inside : offset < payload.length) :
    byteOrZero payload offset = .int (integerAt .B payload offset) := by
  rw [byteOrZero, List.getElem?_eq_getElem inside, integerAt_B inside]
  rfl

variable {quantity : Quantity} {tool : Metric} (n : Int)

theorem reads_identity (found : tool.get? quantity.key = some (.int n))
    (whole : quantity.unit = 1) : quantity.Reads tool (convert identity n) :=
  ⟨n, rfl, by rw [found, whole, one_mul]; rfl⟩

theorem reads_toFloat (found : tool.get? quantity.key = some (.int n))
    (whole : quantity.unit = 1) : quantity.Reads tool (convert toFloat n) :=
  ⟨n, rfl, by rw [found, whole, one_mul]; rfl⟩

theorem reads_divideBy {divisor : ℚ} (found : tool.get? quantity.key = some (quotient n divisor))
    (whole : quantity.unit = 1) : quantity.Reads tool (convert (divideBy divisor) n) :=
  ⟨n / divisor, rfl, by rw [found, whole, one_mul]; rfl⟩

theorem reads_unit {divisor : ℚ} (found : tool.get? quantity.key = some (.int n))
    (scaled : quantity.unit = divisor) (nonzero : divisor ≠ 0) :
    quantity.Reads tool (convert (divideBy divisor) n) :=
  ⟨n / divisor, rfl, by rw [found, scaled, mul_div_cancel₀ _ nonzero]; rfl⟩

end Numbers

/-! ### One reply -/

section Replies

variable {payload : Bytes} {tool : Metric}

open MarstekBle.Legacy (parseCommand Yields runtimeWrites longRuntimeWrites
  extendedRuntimeWrites systemWrites batteryWrites cellWrite cellValue configWrites
  yields_runtimeInfo yields_systemData yields_bmsData yields_configData)

/-- The payload assigns the quantity's field the number that the tool reports. -/
def Assigned (us : List (LegacyField × Value)) (tool : Metric) (quantity : Quantity) : Prop :=
  ∃ v, latest quantity.field us = some v ∧ quantity.Reads tool v

theorem length_of_parseRuntimeInfo {strings : StringMethods}
    (parsed : parseRuntimeInfo strings payload = .ok tool) : 0x68 ≤ payload.length := by
  unfold parseRuntimeInfo at parsed
  split at parsed
  · cases parsed
  · rename_i long
    exact Nat.le_of_not_lt long

theorem assigned_runtime {strings : StringMethods}
    (parsed : parseRuntimeInfo strings payload = .ok tool) :
    ∀ quantity ∈ runtimeQuantities, Assigned (runtimeWrites payload) tool quantity := by
  have fits := length_of_parseRuntimeInfo parsed
  rw [parseRuntimeInfo, if_neg (Nat.not_lt.mpr fits)] at parsed
  have whole : runtimeWrites payload =
      longRuntimeWrites payload ++ extendedRuntimeWrites payload := by
    rw [runtimeWrites, if_neg (by omega), if_neg (by omega)]
  have byte : ∀ i, i < 0x68 → ∃ b, byteAt payload i = .ok b ∧
      (b.toNat : Int) = integerAt .B payload i := by
    intro i inside
    have within : i < payload.length := by omega
    exact ⟨payload[i], byteAt_of_lt within, (integerAt_B within).symm⟩
  obtain ⟨workMode, work, same⟩ := byte 4 (by omega)
  obtain ⟨statusB, hb, _⟩ := byte 5 (by omega)
  obtain ⟨statusC, hc, _⟩ := byte 6 (by omega)
  obtain ⟨statusD, hd, _⟩ := byte 7 (by omega)
  obtain ⟨major, hmajor, _⟩ := byte 0x4C (by omega)
  obtain ⟨minor, hminor, _⟩ := byte 0x4D (by omega)
  obtain ⟨parallel, hparallel, _⟩ := byte 0x5F (by omega)
  obtain ⟨generator, hgenerator, _⟩ := byte 0x60 (by omega)
  simp only [work, hb, hc, hd, hmajor, hminor, hparallel, hgenerator, ok_bind] at parsed
  obtain rfl := Except.ok.inj parsed
  simp (disch := omega) only [s16_eq, u16_eq, u32_eq, Metric.byte, same]
  rw [whole]
  intro quantity listed
  simp only [runtimeQuantities, List.mem_cons, List.not_mem_nil, or_false] at listed
  rcases listed with rfl | rfl | rfl | rfl | rfl | rfl | rfl | rfl | rfl | rfl | rfl
  · exact ⟨_, rfl, reads_toFloat _ (Metric.get?_record _ _) rfl⟩
  · exact ⟨_, rfl, reads_toFloat _ (Metric.get?_record _ _) rfl⟩
  · exact ⟨_, rfl, reads_identity _ (Metric.get?_record _ _) rfl⟩
  · exact ⟨_, rfl, reads_identity _ (Metric.get?_record _ _) rfl⟩
  · exact ⟨_, rfl, reads_identity _ (Metric.get?_record _ _) rfl⟩
  all_goals exact ⟨_, rfl, reads_divideBy _ (Metric.get?_record _ _) rfl⟩

theorem assigned_system (fits : 11 ≤ payload.length) (parsed : parseSystemData payload = .ok tool) :
    ∀ quantity ∈ sharedQuantities 0x0D, Assigned (systemWrites payload) tool quantity := by
  obtain rfl := Except.ok.inj parsed
  intro quantity listed
  obtain rfl := List.mem_singleton.mp listed
  rw [byteOrZero_eq (by omega : 0 < payload.length)]
  exact ⟨_, rfl, reads_identity _ (Metric.get?_record _ _) rfl⟩

theorem assigned_config (fits : 17 ≤ payload.length) (parsed : parseConfigData payload = .ok tool) :
    ∀ quantity ∈ sharedQuantities 0x1A, Assigned (configWrites payload) tool quantity := by
  obtain rfl := Except.ok.inj parsed
  have byte : ∀ i, i < 17 → byteOrZero payload i = .int (integerAt .B payload i) :=
    fun i small => byteOrZero_eq (by omega)
  rw [byte 0 (by omega), byte 1 (by omega), byte 4 (by omega), byte 16 (by omega)]
  intro quantity listed
  rcases List.mem_cons.mp listed with rfl | later
  · exact ⟨_, rfl, reads_identity _ (Metric.get?_record _ _) rfl⟩
  · obtain rfl := List.mem_singleton.mp later
    exact ⟨_, rfl, reads_identity _ (Metric.get?_record _ _) rfl⟩

/-- How the two programs read the fifth byte of a configuration reply. -/
theorem configStatus_read (fits : 17 ≤ payload.length)
    (parsed : parseConfigData payload = .ok tool) : ∃ status : Byte, payload[4]? = some status ∧
      tool.get? configStatus.key = some (.int status.toNat) ∧
      convert identity (integerAt .b payload 4) =
        .int (if status.toNat < 128 then (status.toNat : Int) else status.toNat - 256) := by
  obtain rfl := Except.ok.inj parsed
  have inside : 4 < payload.length := by omega
  refine ⟨payload[4], List.getElem?_eq_getElem inside, (Metric.get?_record _ _).trans ?_, ?_⟩
  · show some (byteOrZero payload 4) = _
    rw [byteOrZero, List.getElem?_eq_getElem inside]
    rfl
  · rw [integerAt_b inside]
    rfl

/-- The two readings are the same number exactly below the sign bit. -/
theorem configStatus_reads_iff {status : Byte}
    (reported : tool.get? configStatus.key = some (.int status.toNat)) {held : Value}
    (stored : held =
      .int (if status.toNat < 128 then (status.toNat : Int) else status.toNat - 256)) :
    configStatus.Reads tool held ↔ status.toNat < 128 := by
  subst stored
  unfold Quantity.Reads
  rw [reported]
  by_cases small : status.toNat < 128
  · refine iff_of_true ⟨_, rfl, ?_⟩ small
    rw [if_pos small]
    simp [configStatus, Metric.number?]
  · refine iff_of_false ?_ small
    rintro ⟨q, number, same⟩
    rw [if_neg small] at number
    obtain rfl := Option.some.inj number
    have equal : ((status.toNat : Int) : ℚ) = 1 * ((status.toNat - 256 : Int) : ℚ) :=
      Option.some.inj same
    rw [one_mul, Int.cast_inj] at equal
    omega

theorem length_of_parseBmsData (parsed : parseBmsData payload = .ok tool) :
    80 ≤ payload.length := by
  unfold parseBmsData at parsed
  split at parsed
  · cases parsed
  · rename_i long
    exact Nat.le_of_not_lt long

theorem assigned_battery (parsed : parseBmsData payload = .ok tool) :
    ∀ quantity ∈ batteryQuantities,
      Assigned (batteryWrites payload ++ [cellWrite payload]) tool quantity := by
  have fits := length_of_parseBmsData parsed
  rw [parseBmsData, if_neg (Nat.not_lt.mpr fits)] at parsed
  obtain rfl := Except.ok.inj parsed
  simp (disch := omega) only [s16_eq, u16_eq, u32_eq]
  intro quantity listed
  simp only [batteryQuantities, List.mem_cons, List.not_mem_nil, or_false] at listed
  rcases listed with rfl | rfl | rfl | rfl | rfl | rfl | rfl | rfl | rfl | rfl | rfl | rfl | rfl |
    rfl | rfl | rfl | rfl | rfl
  · exact ⟨_, rfl, reads_identity _ (Metric.get?_record _ _) rfl⟩
  · exact ⟨_, rfl, reads_divideBy _ (Metric.get?_record _ _) rfl⟩
  · exact ⟨_, rfl, reads_divideBy _ (Metric.get?_record _ _) rfl⟩
  · exact ⟨_, rfl, reads_divideBy _ (Metric.get?_record _ _) rfl⟩
  · exact ⟨_, rfl, reads_toFloat _ (Metric.get?_record _ _) rfl⟩
  · exact ⟨_, rfl, reads_toFloat _ (Metric.get?_record _ _) rfl⟩
  · exact ⟨_, rfl, reads_toFloat _ (Metric.get?_record _ _) rfl⟩
  · exact ⟨_, rfl, reads_divideBy _ (Metric.get?_record _ _) rfl⟩
  · exact ⟨_, rfl, reads_divideBy _ (Metric.get?_record _ _) rfl⟩
  · exact ⟨_, rfl, reads_toFloat _ (Metric.get?_record _ _) rfl⟩
  · exact ⟨_, rfl, reads_identity _ (Metric.get?_record _ _) rfl⟩
  · exact ⟨_, rfl, reads_identity _ (Metric.get?_record _ _) rfl⟩
  · exact ⟨_, rfl, reads_unit _ (Metric.get?_record _ _) rfl (by norm_num)⟩
  all_goals exact ⟨_, rfl, reads_toFloat _ (Metric.get?_record _ _) rfl⟩

/-- A cell is printed if and only if the tool accepts its reading. -/
theorem shownCell_cellValue (i : Nat) (inside : 48 + 2 * i + 2 ≤ payload.length) :
    shownCell (cellValue payload i) =
      if 0 < u16 payload (48 + 2 * i) ∧ u16 payload (48 + 2 * i) < 5000 then
        some (.str (millivolts (u16 payload (48 + 2 * i)))) else none := by
  have place : 48 + i * 2 = 48 + 2 * i := by omega
  rw [u16_eq inside, cellValue, place]
  generalize integerAt .H payload (48 + 2 * i) = n
  have volts : ((n : ℚ) / 1000 * 1000).num = n := by
    rw [div_mul_cancel₀ _ (by norm_num : (1000 : ℚ) ≠ 0)]
    exact Rat.num_intCast n
  have bounds : (0 < (n : ℚ) / 1000 ∧ (n : ℚ) / 1000 < 5) ↔ 0 < n ∧ n < 5000 := by
    have upper : (5 : ℚ) * 1000 = ((5000 : Int) : ℚ) := by norm_num
    rw [lt_div_iff₀ (by norm_num), div_lt_iff₀ (by norm_num), zero_mul, upper, Int.cast_pos,
      Int.cast_lt]
  show (if 0 < (n : ℚ) / 1000 ∧ (n : ℚ) / 1000 < 5 then
    some (Metric.str (millivolts ((n : ℚ) / 1000 * 1000).num)) else none) = _
  rw [volts, if_congr bounds rfl rfl]

/-- The tool's list of cells: those of the sixteen that are printed, and perhaps one more. -/
theorem cells_shown (parsed : parseBmsData payload = .ok tool) : ∃ more : List Metric,
    tool.get? "cell_voltages_v" = some (.list
      (((List.range 16).map (cellValue payload)).filterMap shownCell ++ more)) ∧
      more.length ≤ 1 ∧ (payload.length < 82 → more = []) := by
  have fits := length_of_parseBmsData parsed
  rw [parseBmsData, if_neg (Nat.not_lt.mpr fits)] at parsed
  obtain rfl := Except.ok.inj parsed
  let shown (voltage : Int) : Option Metric :=
    if 0 < voltage ∧ voltage < 5000 then some (.str (millivolts voltage)) else none
  have sixteen : ((List.range 16).map (cellValue payload)).filterMap shownCell =
      ((List.range 16).map fun i => u16 payload (48 + 2 * i)).filterMap shown := by
    rw [List.filterMap_map, List.filterMap_map]
    refine List.filterMap_congr fun i inside => ?_
    have small := List.mem_range.mp inside
    exact shownCell_cellValue i (by omega)
  have offsets : cellOffsets payload = (List.range 16).map (48 + 2 * ·) ++
      if payload.length < 81 then [] else [80] := by
    split
    · have count : (min payload.length 82 - 48 + 1) / 2 = 16 := by omega
      rw [cellOffsets, count, List.append_nil]
    · have count : (min payload.length 82 - 48 + 1) / 2 = 16 + 1 := by omega
      rw [cellOffsets, count, List.range_succ, List.map_append]
      rfl
  refine ⟨((if payload.length < 81 then [] else [80]).map (u16 payload)).filterMap shown,
    (Metric.get?_record _ _).trans ?_, ?_, fun short => ?_⟩
  · show some (Metric.list (cellVoltages payload)) = _
    rw [cellVoltages, offsets, sixteen, List.map_append, List.filterMap_append, List.map_map]
    rfl
  · refine (List.length_filterMap_le _ _).trans ?_
    split <;> simp
  · split
    · rfl
    · have outside : u16 payload 80 = 0 := by
        rw [u16, readLe, if_pos (by omega)]
        rfl
      simp [outside, shown]

/-- The assignments of a reply that both programs accept. -/
theorem exists_writes {strings : StringMethods} {spec : CommandSpec}
    (listed : spec ∈ safeCommands strings) (parsed : spec.parser payload = .ok tool)
    {timestamp : ℚ} {data : MarstekData}
    (accepted : (parseCommand spec.commandId payload timestamp data).1 = .ok true) :
    (sharedQuantities spec.commandId = [] ∧ spec.commandId ≠ 0x14 ∧ spec.commandId ≠ 0x1A) ∨
    ∃ us, (∀ t, Yields (parseCommand spec.commandId payload t) true us) ∧
      (∀ quantity ∈ sharedQuantities spec.commandId, Assigned us tool quantity) ∧
      (spec.commandId = 0x14 → parseBmsData payload = .ok tool ∧
        latest .cellVoltages us = some (.list ((List.range 16).map (cellValue payload)))) ∧
      (spec.commandId = 0x1A → 17 ≤ payload.length ∧ parseConfigData payload = .ok tool ∧
        latest .configStatus us = some (convert identity (integerAt .b payload 4))) := by
  simp only [safeCommands, List.mem_cons, List.not_mem_nil, or_false] at listed
  rcases listed with rfl | rfl | rfl | rfl | rfl | rfl | rfl | rfl | rfl | rfl
  case inl =>
    refine .inr ⟨runtimeWrites payload, fun t => ?_, assigned_runtime parsed, nofun, nofun⟩
    have long := length_of_parseRuntimeInfo parsed
    exact yields_runtimeInfo t (by omega)
  case inr.inr.inr.inl =>
    have fits : 11 ≤ payload.length := by
      by_contra short
      have refused : parseCommand 0x0D payload timestamp data = (.ok false, data) :=
        congrFun (if_pos (Nat.lt_of_not_le short)) data
      rw [refused] at accepted
      cases accepted
    exact .inr ⟨systemWrites payload, fun t => yields_systemData t fits,
      assigned_system fits parsed, nofun, nofun⟩
  case inr.inr.inr.inr.inr.inl =>
    refine .inr ⟨batteryWrites payload ++ [cellWrite payload],
      fun t => yields_bmsData t (length_of_parseBmsData parsed), assigned_battery parsed,
      fun _ => ⟨parsed, rfl⟩, nofun⟩
  case inr.inr.inr.inr.inr.inr.inl =>
    have fits : 17 ≤ payload.length := by
      by_contra short
      have refused : parseCommand 0x1A payload timestamp data = (.ok false, data) :=
        congrFun (if_pos (Nat.lt_of_not_le short)) data
      rw [refused] at accepted
      cases accepted
    exact .inr ⟨configWrites payload, fun t => yields_configData t fits,
      assigned_config fits parsed, nofun, fun _ => ⟨fits, parsed, rfl⟩⟩
  all_goals exact .inl ⟨rfl, nofun, nofun⟩

end Replies

/-! ### A run -/

open MarstekBle.Legacy (Agree agree_run parseCommand Yields)

/-- The path is reported by frames that the tool's decoder accepts, of one command only. -/
theorem parseFrame_of_framePaths {frame : Bytes} {p : DataPath}
    (reported : p ∈ Venus.venusRuntime.framePaths frame) : ∃ command payload,
    Venus.replyCommand p = some command ∧ parseFrame frame = .ok (command, payload) := by
  obtain ⟨command, payload, opened⟩ := opened_of_reported reported
  rw [openFrame_eq_parseFrame] at opened
  have decoded : parseFrame frame = .ok (command, payload) := by
    cases found : parseFrame frame with
    | error e =>
      rw [found] at opened
      cases Except.ok.inj opened
    | ok content =>
      rw [found] at opened
      exact congrArg Except.ok (Option.some.inj (Except.ok.inj opened))
  obtain ⟨_, rfl⟩ := (parseFrame_eq_ok_iff frame command payload).mp decoded
  refine ⟨command, payload, ?_, decoded⟩
  rw [← Venus.replyCommand_framePaths reported]
  rfl

/-- Frames that do not report a path leave its value alone. -/
theorem valueAt_kept {data : TrackedProductData} (inShape : InShape Venus.venusRuntime data)
    {p : DataPath} {ns : List Notification}
    (silent : ∀ n ∈ ns, p ∉ Venus.venusRuntime.framePaths n.frame) :
    (Venus.venusRuntime.receiveAll data ns).tree.valueAt p = data.tree.valueAt p := by
  have nothing : (ns.map Notification.frame).filterMap
      (Venus.venusRuntime.frameValue · p) = [] := by
    rw [List.filterMap_eq_nil_iff]
    intro frame member
    obtain ⟨n, listed, rfl⟩ := List.mem_map.mp member
    exact if_neg (silent n listed)
  have settled := (registers_valueAt Venus.venusRuntime_lawful).read_foldl p ns data inShape
  rw [Lib.Channels.settled, nothing] at settled
  exact settled

/-- The deliveries a data object has seen, as the product's notifications. -/
def notifications (seen : List Delivery) : List Notification :=
  seen.map fun d => ⟨d.frame, d.productTime⟩

theorem productAfter_append (seen later : List Delivery) :
    productAfter (seen ++ later) =
      Venus.venusRuntime.receiveAll (productAfter seen) (notifications later) := by
  rw [productAfter, List.foldl_append, notifications, ProductRuntime.receiveAll, List.foldl_map]
  rfl

/-- A field keeps its value until the next frame of its command. -/
theorem attrs_kept (seen later : List Delivery) {field : LegacyField} {command : Byte}
    (owned : Venus.replyCommand (flatPath field) = some command)
    (silent : ∀ d ∈ later, ∀ payload, parseFrame d.frame ≠ .ok (command, payload)) :
    (legacyAfter (seen ++ later)).attrs field = (legacyAfter seen).attrs field := by
  have unreported : ∀ n ∈ notifications later,
      flatPath field ∉ Venus.venusRuntime.framePaths n.frame := by
    intro n member reported
    obtain ⟨d, listed, rfl⟩ := List.mem_map.mp member
    obtain ⟨other, payload, owner, decoded⟩ := parseFrame_of_framePaths reported
    obtain rfl : command = other := Option.some.inj (owned.symm.trans owner)
    exact silent d listed payload decoded
  have kept := valueAt_kept (agree_run seen).inShape unreported
  rw [← productAfter_append, (agree_run (seen ++ later)).same field,
    (agree_run seen).same field] at kept
  exact Option.some.inj kept

/-- What one accepted reply leaves in the fields. -/
theorem attrs_after (seen : List Delivery) {reply : Delivery} {command : Byte} {payload : Bytes}
    (opened : parseFrame reply.frame = .ok (command, payload)) {us : List (LegacyField × Value)}
    (yields : ∀ t, Yields (parseCommand command payload t) true us) :
    (legacyAfter (seen ++ [reply])).attrs = overwrite (legacyAfter seen).attrs us := by
  obtain ⟨after, ran, assigned, _⟩ := yields reply.legacyTime _ (agree_run seen).ready
  have received : legacyAfter (seen ++ [reply]) = after := by
    rw [legacyAfter, List.foldl_append]
    show (Legacy.parseNotification reply.frame reply.legacyTime (legacyAfter seen)).2 = after
    rw [legacyParse_eq, opened]
    simp only [legacyDispatch, ran]
  rw [received, assigned]

/-- What an accepted reply assigns a field stands there until the next frame of its command. -/
theorem attrs_held (seen later : List Delivery) {reply : Delivery} {command : Byte}
    {payload : Bytes} (opened : parseFrame reply.frame = .ok (command, payload))
    {us : List (LegacyField × Value)}
    (yields : ∀ t, Yields (parseCommand command payload t) true us)
    (silent : ∀ d ∈ later, ∀ other, parseFrame d.frame ≠ .ok (command, other))
    {field : LegacyField} (owned : Venus.replyCommand (flatPath field) = some command) {v : Value}
    (lastWritten : latest field us = some v) :
    (legacyAfter (seen ++ [reply] ++ later)).attrs field = v := by
  rw [attrs_kept (seen ++ [reply]) later owned silent, attrs_after seen opened yields, overwrite,
    lastWritten]
  rfl

/-- A reply that the product accepts is accepted by the hand-written parser. -/
theorem legacy_accepts {seen : List Delivery} {reply : Delivery} {command : Byte} {payload : Bytes}
    (opened : parseFrame reply.frame = .ok (command, payload))
    (accepted : (Venus.venusRuntime.parseNotification reply.frame reply.productTime
      (productAfter seen)).1 = .ok true) :
    (parseCommand command payload reply.legacyTime (legacyAfter seen)).1 = .ok true := by
  obtain ⟨answer, legacy, product, _⟩ :=
    (agree_run seen).step reply.frame reply.legacyTime reply.productTime
  obtain rfl : answer = true := Except.ok.inj (product.symm.trans accepted)
  rw [legacyParse_eq, opened] at legacy
  simp only [legacyDispatch] at legacy
  split at legacy
  · cases legacy
  · rename_i answer after ran
    rw [ran]
    exact legacy

theorem owned_quantities : ∀ command, ∀ quantity ∈ sharedQuantities command,
    Venus.replyCommand (flatPath quantity.field) = some command := by
  intro command quantity listed
  unfold sharedQuantities at listed
  split_ifs at listed with runtime system battery config
  · subst runtime
    have all : ∀ quantity ∈ runtimeQuantities,
        Venus.replyCommand (flatPath quantity.field) = some 0x03 := by decide
    exact all quantity listed
  · subst system
    obtain rfl := List.mem_singleton.mp listed
    rfl
  · subst battery
    have all : ∀ quantity ∈ batteryQuantities,
        Venus.replyCommand (flatPath quantity.field) = some 0x14 := by decide
    exact all quantity listed
  · subst config
    rcases List.mem_cons.mp listed with rfl | later
    · rfl
    · obtain rfl := List.mem_singleton.mp later
      rfl
  · cases listed

/-- The tool and the integration read the same numbers. Whatever was received before,
once a reply is accepted by the integration and parsed by the tool, and until the next
frame of its command, both of the integration's data objects hold every shared quantity
as the number the tool prints, and the tool's list of cells is the integration's sixteen,
as far as they are between zero and five volts, with at most one more value that only a
longer payload can bring. Of `config_status` they read the same number exactly if its
byte is below 128: the integration takes it as signed. -/
theorem tool_reads_what_integration_holds (strings : StringMethods) (seen later : List Delivery)
    (reply : Delivery) {spec : CommandSpec} (listed : spec ∈ safeCommands strings)
    {payload : Bytes} (opened : parseFrame reply.frame = .ok (spec.commandId, payload))
    {tool : Metric} (parsed : spec.parser payload = .ok tool)
    (accepted : (Venus.venusRuntime.parseNotification reply.frame reply.productTime
      (productAfter seen)).1 = .ok true)
    (latest : ∀ d ∈ later, ∀ other, parseFrame d.frame ≠ .ok (spec.commandId, other)) :
    let run := seen ++ [reply] ++ later
    (∀ quantity ∈ sharedQuantities spec.commandId,
      quantity.Reads tool ((legacyAfter run).attrs quantity.field) ∧
      (productAfter run).tree.valueAt (flatPath quantity.field) =
        some ((legacyAfter run).attrs quantity.field)) ∧
    (spec.commandId = 0x14 → ∃ cells more,
      (legacyAfter run).attrs .cellVoltages = .list cells ∧
      (productAfter run).tree.valueAt (flatPath .cellVoltages) = some (.list cells) ∧
      cells.length = 16 ∧
      tool.get? "cell_voltages_v" = some (.list (cells.filterMap shownCell ++ more)) ∧
      more.length ≤ 1 ∧ (payload.length < 82 → more = [])) ∧
    (spec.commandId = 0x1A → ∃ status : Byte, payload[4]? = some status ∧
      tool.get? configStatus.key = some (.int status.toNat) ∧
      (legacyAfter run).attrs .configStatus =
        .int (if status.toNat < 128 then (status.toNat : Int) else status.toNat - 256) ∧
      (productAfter run).tree.valueAt (flatPath .configStatus) =
        some ((legacyAfter run).attrs .configStatus) ∧
      (configStatus.Reads tool ((legacyAfter run).attrs .configStatus) ↔
        status.toNat < 128)) := by
  intro run
  have agree := agree_run run
  rcases exists_writes listed parsed (legacy_accepts opened accepted) with
    ⟨unshared, notBattery, notConfig⟩ | ⟨us, yields, assigned, cells, config⟩
  · refine ⟨fun quantity member => ?_, fun battery => absurd battery notBattery,
      fun configuration => absurd configuration notConfig⟩
    rw [unshared] at member
    cases member
  · refine ⟨fun quantity member => ⟨?_, agree.same quantity.field⟩, fun battery => ?_,
      fun configuration => ?_⟩
    · obtain ⟨v, lastWritten, reads⟩ := assigned quantity member
      have held := attrs_held seen later opened yields latest (owned_quantities _ quantity member)
        lastWritten
      exact held ▸ reads
    · obtain ⟨bms, lastWritten⟩ := cells battery
      obtain ⟨more, shown, few, short⟩ := cells_shown bms
      have held : (legacyAfter run).attrs .cellVoltages =
          .list ((List.range 16).map (Legacy.cellValue payload)) :=
        attrs_held seen later opened yields latest (battery ▸ rfl) lastWritten
      refine ⟨_, more, held, ?_, by simp, shown, few, short⟩
      rw [agree.same, held]
    · obtain ⟨fits, parsedConfig, lastWritten⟩ := config configuration
      obtain ⟨status, here, reported, signed⟩ := configStatus_read fits parsedConfig
      have held : (legacyAfter run).attrs .configStatus =
          .int (if status.toNat < 128 then (status.toNat : Int) else status.toNat - 256) :=
        (attrs_held seen later opened yields latest (configuration ▸ rfl) lastWritten).trans signed
      exact ⟨status, here, reported, held, agree.same .configStatus,
        configStatus_reads_iff reported held⟩

/-- A battery reply whose bytes are all twelve, and a configuration reply whose bytes are
all 200: the tool reads its `config_status` as 200, the integration as -56. -/
theorem tool_reads_what_integration_holds_two_replies :
    (let payload : Bytes := List.replicate 80 12
    let run : List Delivery := [⟨frameOf 0x14 payload, 3, 3⟩]
    ∃ tool, parseBmsData payload = .ok tool ∧ (∀ quantity ∈ batteryQuantities,
      quantity.Reads tool ((legacyAfter run).attrs quantity.field) ∧
      (productAfter run).tree.valueAt (flatPath quantity.field) =
        some ((legacyAfter run).attrs quantity.field)) ∧
    ∃ cells, (legacyAfter run).attrs .cellVoltages = .list cells ∧
      tool.get? "cell_voltages_v" = some (.list (cells.filterMap shownCell))) ∧
    (let payload : Bytes := List.replicate 17 200
    let run : List Delivery := [⟨frameOf 0x1A payload, 3, 3⟩]
    ∃ tool, parseConfigData payload = .ok tool ∧
      tool.get? "config_status" = some (.int 200) ∧
      (legacyAfter run).attrs .configStatus = .int (-56)) := by
  let strings : StringMethods := ⟨id, fun _ => false⟩
  constructor
  · intro payload run
    have listed : (⟨"bms", 0x14, "BMS Data", parseBmsData⟩ : CommandSpec) ∈
        safeCommands strings := by
      simp [safeCommands]
    have both := fun tool (parsed : parseBmsData payload = .ok tool) =>
      tool_reads_what_integration_holds strings [] [] ⟨frameOf 0x14 payload, 3, 3⟩ listed
        (parseFrame_frameOf (by decide) 0x14) parsed (by decide) (by simp)
    refine ⟨_, rfl, (both _ rfl).1, ?_⟩
    obtain ⟨cells, more, held, _, _, shown, _, short⟩ := (both _ rfl).2.1 rfl
    refine ⟨cells, held, ?_⟩
    rw [shown, short (by decide), List.append_nil]
  · intro payload run
    have listed : (⟨"config", 0x1A, "Config Data", parseConfigData⟩ : CommandSpec) ∈
        safeCommands strings := by
      simp [safeCommands]
    have both := fun tool (parsed : parseConfigData payload = .ok tool) =>
      tool_reads_what_integration_holds strings [] [] ⟨frameOf 0x1A payload, 3, 3⟩ listed
        (parseFrame_frameOf (by decide) 0x1A) parsed (by decide) (by simp)
    refine ⟨_, rfl, ?_⟩
    obtain ⟨status, here, reported, held, _⟩ := (both _ rfl).2.2 rfl
    obtain rfl : (200 : Byte) = status := Option.some.inj here
    exact ⟨reported, held⟩

end MarstekBle.Standalone
