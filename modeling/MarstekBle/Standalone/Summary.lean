/- module: Standalone/Summary
   source: standalone_test/marstek_basic_info.py
   digest: What is collected of a device is flattened without losing a value. -/

import MarstekBle.Standalone.Discovery
import MarstekBle.Standalone.Flatten
import MarstekBle.Standalone.Reports

set_option autoImplicit false
set_option relaxedAutoImplicit false

namespace MarstekBle.Standalone

open MarstekBle.Data MarstekBle.Lib.Dictionary MarstekBle.Lib.GuardedRun
open MarstekBle.Lib.AttributeTree

/-! ### Records -/

/-- Different names, none with a character that joins keys. -/
def PlainNames (names : List String) : Prop :=
  names.Nodup ∧ ∀ name ∈ names, '.' ∉ name.toList ∧ '[' ∉ name.toList

instance (names : List String) : Decidable (PlainNames names) :=
  inferInstanceAs (Decidable (_ ∧ _))

theorem not_below_of_plain {key other : Text} (plain : '.' ∉ other ∧ '[' ∉ other) :
    ¬ Below key other := by
  rintro ⟨c, rest, joins, rfl⟩
  have inside : c ∈ key ++ c :: rest := List.mem_append_right key List.mem_cons_self
  rcases joins with rfl | rfl
  · exact plain.1 inside
  · exact plain.2 inside

/-- A record is separated where the entries that are flattened by parts are. -/
theorem separated_record {entries : List (String × Metric)}
    (plain : PlainNames (entries.map Prod.fst))
    (nested : ∀ e ∈ entries.filter fun e => e.2.isContainer, Separated e.2) :
    Separated (.record entries) := by
  obtain ⟨once, joinless⟩ := plain
  refine .dict _ ?_ fun e member => ?_
  · rw [List.pairwise_map]
    rw [List.Nodup, List.pairwise_map] at once
    refine once.imp_of_mem fun {a b} first second different => ?_
    have here := joinless a.1 (List.mem_map_of_mem first)
    have there := joinless b.1 (List.mem_map_of_mem second)
    exact ⟨fun same => different (String.toList_inj.mp same), fun _ => not_below_of_plain there,
      fun _ => not_below_of_plain here⟩
  · obtain ⟨named, listed, rfl⟩ := List.mem_map.mp member
    by_cases container : named.2.isContainer = true
    · exact nested named (List.mem_filter.mpr ⟨listed, container⟩)
    · exact .leaf _ (Bool.eq_false_iff.mpr container)

/-- A record of leaves. -/
theorem separated_scalars {entries : List (String × Metric)}
    (plain : PlainNames (entries.map Prod.fst))
    (scalars : entries.filter (fun e => e.2.isContainer) = []) : Separated (.record entries) := by
  apply separated_record plain
  rw [scalars]
  exact List.forall_mem_nil _

/-- Leaves under different keys. -/
theorem separated_leaves {entries : List (Text × Metric)} (once : (entries.map Prod.fst).Nodup)
    (leaves : ∀ e ∈ entries, e.2.isContainer = false) : Separated (.dict entries) := by
  refine .dict _ ?_ fun e member => .leaf e.2 (leaves e member)
  rw [List.Nodup, List.pairwise_map] at once
  refine once.imp_of_mem fun {a b} first second different => ⟨different, ?_, ?_⟩
  · rw [leaves a first]
    exact fun container => by cases container
  · rw [leaves b second]
    exact fun container => by cases container

@[simp] theorem isContainer_text (s : String) : (Metric.text s).isContainer = false := rfl
@[simp] theorem isContainer_str (text : Text) : (Metric.str text).isContainer = false := rfl
@[simp] theorem isContainer_int (n : Int) : (Metric.int n).isContainer = false := rfl
@[simp] theorem isContainer_nat (n : Nat) : (Metric.nat n).isContainer = false := rfl
@[simp] theorem isContainer_bool (b : Bool) : (Metric.bool b).isContainer = false := rfl
@[simp] theorem isContainer_byte (b : Byte) : (Metric.byte b).isContainer = false := rfl
@[simp] theorem isContainer_over (n : Int) (divisor : ℚ) :
    (quotient n divisor).isContainer = false := rfl

theorem isContainer_list {members : List Metric}
    (scalars : ∀ member ∈ members, member.isContainer = false) :
    (Metric.list members).isContainer = false := by
  cases members with
  | nil => rfl
  | cons first members =>
    have here := scalars first List.mem_cons_self
    cases first with
    | dict entries => cases here
    | none | bool _ | int _ | float _ | str _ | list _ => rfl

/-! ### The parsers -/

section Parsers

variable {payload : Bytes} {metric : Metric}

theorem separated_statusFlags (statusB statusC statusD : Byte) :
    Separated (statusFlags statusB statusC statusD) := by
  refine separated_record (by simp only [List.map_cons, List.map_nil]; decide) ?_
  show ∀ e ∈ [("raw", _)], Separated e.2
  rw [List.forall_mem_singleton]
  exact separated_scalars (by simp only [List.map_cons, List.map_nil]; decide) rfl

theorem separated_parseRuntimeInfo {strings : StringMethods}
    (h : parseRuntimeInfo strings payload = .ok metric) : Separated metric := by
  rw [parseRuntimeInfo] at h
  split at h
  · cases h
  · simp only [bind_eq_ok_iff] at h
    obtain ⟨workMode, -, statusB, -, statusC, -, statusD, -, _, -, _, -, _, -, _, -, h⟩ := h
    obtain rfl := Except.ok.inj h
    refine separated_record (by simp only [List.map_cons, List.map_nil]; decide) ?_
    show ∀ e ∈ [("status_flags", statusFlags statusB statusC statusD)], Separated e.2
    rw [List.forall_mem_singleton]
    exact separated_statusFlags statusB statusC statusD

theorem isContainer_cellVoltages (payload : Bytes) :
    (Metric.list (cellVoltages payload)).isContainer = false := by
  apply isContainer_list
  intro member listed
  obtain ⟨voltage, _, shown⟩ := List.mem_filterMap.mp listed
  split at shown
  · obtain rfl := Option.some.inj shown
    rfl
  · cases shown

theorem separated_parseBmsData (h : parseBmsData payload = .ok metric) : Separated metric := by
  rw [parseBmsData] at h
  split at h
  · cases h
  · obtain rfl := Except.ok.inj h
    refine separated_scalars (by simp only [List.map_cons, List.map_nil]; decide) ?_
    simp [isContainer_cellVoltages]

theorem separated_parseSystemData (h : parseSystemData payload = .ok metric) :
    Separated metric := by
  obtain rfl := Except.ok.inj h
  refine separated_scalars (by simp only [List.map_cons, List.map_nil]; decide) ?_
  have temperatures : (Metric.list ((List.range 5).map fun i =>
      .int (u16 payload (8 + 2 * i)))).isContainer = false := by
    apply isContainer_list
    intro member listed
    obtain ⟨i, _, rfl⟩ := List.mem_map.mp listed
    rfl
  simp [byteOrZero, temperatures]

theorem separated_parseConfigData (h : parseConfigData payload = .ok metric) :
    Separated metric := by
  obtain rfl := Except.ok.inj h
  exact separated_scalars (by simp only [List.map_cons, List.map_nil]; decide) rfl

/-- Texts that the device names itself: the last of equal keys is kept. -/
theorem separated_stored {writes : List (Text × Metric)}
    (leaves : ∀ e ∈ writes, e.2.isContainer = false) : Separated (.dict (stored writes)) := by
  apply separated_leaves (nodup_keys_stored writes)
  rintro ⟨key, value⟩ member
  exact leaves _ (mem_of_latest ((mem_stored_iff writes key value).mp member))

theorem separated_parseDeviceInfo (h : parseDeviceInfo payload = .ok metric) :
    Separated metric := by
  obtain rfl := Except.ok.inj h
  apply separated_stored
  intro e member
  obtain ⟨chunk, _, found⟩ := List.mem_filterMap.mp member
  obtain ⟨pair, _, rfl⟩ := Option.map_eq_some_iff.mp found
  rfl

theorem separated_parseWifiInfo (h : parseWifiInfo payload = .ok metric) :
    Separated metric := by
  obtain rfl := Except.ok.inj h
  refine separated_scalars (by simp only [List.map_cons, List.map_nil]; decide) ?_
  by_cases blank : strip (decodeUtf8Ignore payload) = [] <;> simp [blank]

theorem separated_parseMeterIp (h : parseMeterIp payload = .ok metric) : Separated metric := by
  have record : ∀ (address : Metric) (configured : Bool), address.isContainer = false →
      Separated (.record [("ip_address", address), ("configured", .bool configured)]) := by
    intro address configured leaf
    refine separated_scalars (by simp only [List.map_cons, List.map_nil]; decide) ?_
    simp [leaf]
  rw [parseMeterIp] at h
  split at h
  · obtain rfl := Except.ok.inj h
    exact record _ _ rfl
  · dsimp only at h
    split at h
    · obtain rfl := Except.ok.inj h
      exact record _ _ rfl
    · obtain rfl := Except.ok.inj h
      exact record _ _ rfl

theorem separated_parseNetworkInfo {strings : StringMethods}
    (h : parseNetworkInfo strings payload = .ok metric) : Separated metric := by
  obtain rfl := Except.ok.inj h
  apply separated_stored
  intro e member
  rcases List.mem_cons.mp member with rfl | member
  · rfl
  · obtain ⟨part, _, found⟩ := List.mem_filterMap.mp member
    obtain ⟨pair, _, named⟩ := Option.bind_eq_some_iff.mp found
    obtain ⟨key, _, rfl⟩ := Option.map_eq_some_iff.mp named
    rfl

theorem separated_parseErrorRecord (h : parseErrorRecord payload = .ok metric) :
    Separated metric := by
  simp only [parseErrorRecord, recordTime, bind_eq_ok_iff] at h
  obtain ⟨time, ⟨month, -, day, -, hour, -, minute, -, named⟩, code, -, h⟩ := h
  obtain rfl := Except.ok.inj named
  obtain rfl := Except.ok.inj h
  exact separated_scalars
    (by simp only [List.map_append, List.map_cons, List.map_nil]; decide) rfl

theorem separated_parseEventRecord (h : parseEventRecord payload = .ok metric) :
    Separated metric := by
  simp only [parseEventRecord, recordTime, bind_eq_ok_iff] at h
  obtain ⟨time, ⟨month, -, day, -, hour, -, minute, -, named⟩, eventType, -, h⟩ := h
  obtain rfl := Except.ok.inj named
  obtain rfl := Except.ok.inj h
  exact separated_scalars
    (by simp only [List.map_append, List.map_cons, List.map_nil]; decide) rfl

theorem separated_parseLog {recordSize : Nat} {parser : Bytes → Raises Metric} {latest : String}
    (plain : PlainNames ["record_count", latest])
    (each : ∀ chunk record, parser chunk = .ok record → Separated record)
    (h : parseLog recordSize parser latest payload = .ok metric) : Separated metric := by
  obtain ⟨records, parsed, h⟩ := bind_eq_ok_iff.mp h
  obtain rfl := Except.ok.inj h
  have last : Separated (records.getLast?.getD (.dict [])) := by
    cases found : records.getLast? with
    | none => exact .dict [] List.Pairwise.nil (List.forall_mem_nil _)
    | some record =>
      have member := List.mem_of_getLast? found
      obtain ⟨i, inside, rfl⟩ := List.mem_iff_getElem.mp member
      have all := (mapM_eq_ok_iff _ _ _).mp parsed
      have one := all.get (i := i) (by rw [all.length_eq]; exact inside) inside
      exact each _ _ one
  refine separated_record (show PlainNames (List.map Prod.fst [("record_count", _), (latest, _)])
    from plain) fun e member => ?_
  obtain ⟨listed, container⟩ := List.mem_filter.mp member
  rcases List.mem_cons.mp listed with rfl | listed
  · cases container
  · obtain rfl := List.mem_singleton.mp listed
    exact last

theorem separated_parse {strings : StringMethods} {spec : CommandSpec}
    (listed : spec ∈ safeCommands strings) (h : spec.parser payload = .ok metric) :
    Separated metric := by
  simp only [safeCommands, List.mem_cons, List.not_mem_nil, or_false] at listed
  rcases listed with rfl | rfl | rfl | rfl | rfl | rfl | rfl | rfl | rfl | rfl
  · exact separated_parseRuntimeInfo h
  · exact separated_parseDeviceInfo h
  · exact separated_parseWifiInfo h
  · exact separated_parseSystemData h
  · exact separated_parseLog (by decide) (fun _ _ => separated_parseErrorRecord) h
  · exact separated_parseBmsData h
  · exact separated_parseConfigData h
  · exact separated_parseLog (by decide) (fun _ _ => separated_parseEventRecord) h
  · exact separated_parseMeterIp h
  · exact separated_parseNetworkInfo h

end Parsers

/-! ### What is collected of a device -/

/-- `address_type_label`. -/
def ResolvedDevice.addressTypeLabel (device : ResolvedDevice) : Text :=
  match device.addressType with
  | 0 => "public".toList
  | 1 => "random".toList
  | other => "unknown(".toList ++ Nat.toDigits 10 other ++ ")".toList

/-- `collected["device"]`. -/
def deviceRecord (texts : TextFunctions) (device : ResolvedDevice) : Metric := .record [
  ("name", .str device.name),
  ("address", .str (texts.toHumanReadableAddress device.address)),
  ("address_type", .str device.addressTypeLabel),
  ("rssi_dbm", .int device.rssi)]

/-- The results, or the text of the exception that `run` catches. -/
abbrev DeviceReport := Except String (List (String × Metric))

/-- How a collection ends for `run`; a cancellation ends `run` as well. -/
def Collector.report (c : Collector) : Option DeviceReport :=
  match c.pc with
  | .finished .returned => some (.ok c.results)
  | .finished (.raised message) => some (.error message)
  | _ => none

/-- `per_device_data[device.label]`. -/
def deviceData (texts : TextFunctions) (device : ResolvedDevice) : DeviceReport → Metric
  | .ok collected => .record (store collected "device" (deviceRecord texts device))
  | .error message => .record [("status", errorEntry message)]

theorem separated_errorEntry (message : String) : Separated (errorEntry message) :=
  separated_scalars (by simp only [List.map_cons, List.map_nil]; decide) rfl

variable {texts : TextFunctions} {device : ResolvedDevice} {strings : StringMethods}

theorem wellKeyed_record {entries : List (String × Metric)}
    (plain : PlainNames (entries.map Prod.fst)) (named : ∀ e ∈ entries, e.1 ≠ "")
    (nested : ∀ e ∈ entries, Separated e.2) :
    WellKeyed (entries.map fun e => (e.1.toList, e.2)) where
  separated := separated_record plain fun e member => nested e (List.mem_filter.mp member).1
  named := by
    intro e member
    obtain ⟨entry, listed, rfl⟩ := List.mem_map.mp member
    cases name : entry.1.toList with
    | nil => exact absurd (String.toList_eq_nil_iff.mp name) (named entry listed)
    | cons c rest =>
      refine ⟨c, rest, rfl, fun dot => ?_⟩
      have joinless := plain.2 entry.1 (List.mem_map_of_mem listed)
      rw [name, dot] at joinless
      exact joinless.1 List.mem_cons_self

/-- The names that collected data is stored under. -/
def summaryNames : List String := ["runtime", "device_info", "wifi", "system_data", "error_log",
  "bms", "config", "event_log", "meter_ip", "network", "device"]

theorem plainNames_of_subset {names : List String} (once : names.Nodup)
    (known : names ⊆ summaryNames) : PlainNames names ∧ ∀ name ∈ names, name ≠ "" := by
  have all : ∀ name ∈ summaryNames, ('.' ∉ name.toList ∧ '[' ∉ name.toList) ∧ name ≠ "" := by
    decide
  exact ⟨⟨once, fun name member => (all name (known member)).1⟩,
    fun name member => (all name (known member)).2⟩

theorem Attributed.separated {w : Watched} (h : Attributed (safeCommands strings) w) :
    ∀ e ∈ w.collector.results, Separated e.2 ∧ e.1 ∈ summaryNames := by
  rintro ⟨key, metric⟩ member
  obtain ⟨i, spec, placed, rfl, source⟩ := h key metric member
  have listed := List.mem_of_getElem? placed
  refine ⟨?_, ?_⟩
  · rcases source with ⟨payload, _, parsed⟩ | ⟨message, rfl⟩
    · exact separated_parse listed parsed
    · exact separated_errorEntry message
  · have keys : (safeCommands strings).map CommandSpec.key ⊆ summaryNames := by
      simp [safeCommands, summaryNames]
    exact keys (List.mem_map_of_mem listed)

theorem rowForEachLeaf_deviceData (printer : Printer) {results : List (String × Metric)}
    (once : (results.map Prod.fst).Nodup)
    (known : ∀ e ∈ results, Separated e.2 ∧ e.1 ∈ summaryNames) :
    RowForEachLeaf printer (deviceData texts device (.ok results)) := by
  have device_ : Separated (deviceRecord texts device) :=
    separated_scalars (by simp only [List.map_cons, List.map_nil]; decide) rfl
  have inner : ∀ e ∈ store results "device" (deviceRecord texts device),
      Separated e.2 ∧ e.1 ∈ summaryNames := by
    intro e member
    rcases (mem_store_iff _ _ _ _).mp member with rfl | ⟨listed, _⟩
    · exact ⟨device_, by simp [summaryNames]⟩
    · exact known e listed
  obtain ⟨plain, named⟩ := plainNames_of_subset (nodup_keys_store once _ _)
    (fun name member => by
      obtain ⟨e, listed, rfl⟩ := List.mem_map.mp member
      exact (inner e listed).2)
  exact (wellKeyed_record plain (fun e member => named e.1 (List.mem_map_of_mem member))
    fun e member => (inner e member).1).rowForEachLeaf printer

theorem rowForEachLeaf_error (printer : Printer) (message : String) :
    RowForEachLeaf printer (deviceData texts device (.error message)) := by
  refine WellKeyed.rowForEachLeaf printer
    (wellKeyed_record (by simp only [List.map_cons, List.map_nil]; decide) ?_ ?_)
  · simp
  · rw [List.forall_mem_singleton]
    exact separated_errorEntry message

theorem Accounted.rowForEachLeaf (printer : Printer) {w : Watched}
    (h : Accounted (safeCommands strings) w.collector w.heard) {report : DeviceReport}
    (ends : w.collector.report = some report) :
    RowForEachLeaf printer (deviceData texts device report) := by
  have known := h.attributed.separated
  obtain ⟨attempts, account, _⟩ := h
  have once : (w.collector.results.map Prod.fst).Nodup := by
    rw [account.results]
    exact nodup_keys_stored _
  unfold Collector.report at ends
  split at ends
  · obtain rfl := Option.some.inj ends
    exact rowForEachLeaf_deviceData printer once known
  · obtain rfl := Option.some.inj ends
    exact rowForEachLeaf_error printer _
  · cases ends

/-- However the collection of a device goes: what it leaves is flattened to one row for each
value, under a key that no other value has. -/
theorem collection_rows (texts : TextFunctions) (device : ResolvedDevice)
    (strings : StringMethods) (label : String) (printer : Printer) (events : List CollectEvent) :
    States (collectStep strings label) (fun c => ∀ report, c.report = some report →
        RowForEachLeaf printer (deviceData texts device report))
      (Collector.start (safeCommands strings)) events := by
  have follows : ∀ w e c, collectStep strings label w.collector e = some c →
      ∃ v, watchStep strings label w e = some v ∧ v.collector = c := fun w e c next =>
    ⟨_, Option.map_eq_some_iff.mpr ⟨c, next, rfl⟩, rfl⟩
  refine States.of_view (w := Watched.start (safeCommands strings)) Watched.collector follows ?_
  apply (runs_accounted strings label (safeCommands strings) events).mono
  intro w accounted report ends
  exact accounted.rowForEachLeaf printer ends

end MarstekBle.Standalone
