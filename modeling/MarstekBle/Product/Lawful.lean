/- module: Product/Lawful
   source: custom_components/marstek_ble/products/venus_runtime.py, products/jupiter_runtime.py
   digest: Both registered runtimes decode without raising and key their metadata apart. -/

import MarstekBle.Product.Dispatch
import MarstekBle.Product.Registry
import MarstekBle.Schema.PathKeys

set_option autoImplicit false
set_option relaxedAutoImplicit false

namespace MarstekBle.Product

open MarstekBle.Data MarstekBle.Schema MarstekBle.Protocol MarstekBle.Lib.AttributeTree

/-! ### Decoders as sequences of writes -/

/-- The assignments of a list of segments, in order. -/
def pairWrites (separator : Char) (mapping : List (String × String)) (sectionName : String)
    (pairs : List Text) : List (DataPath × Value) :=
  pairs.filterMap fun pair =>
    (splitOnce separator pair).bind fun e =>
      (mapping.lookup (String.ofList (strip e.1))).map fun name =>
        ([.attr sectionName, .attr name], .str (strip e.2))

/-- Report the written paths once each, in order of first occurrence. -/
def reportOnce (paths : List DataPath) (writes : List (DataPath × Value)) : List DataPath :=
  writes.foldl (fun ps u => if u.1 ∈ ps then ps else ps ++ [u.1]) paths

theorem mem_reportOnce (p : DataPath) (writes : List (DataPath × Value)) :
    ∀ paths, p ∈ reportOnce paths writes ↔ p ∈ paths ∨ ∃ u ∈ writes, u.1 = p := by
  induction writes with
  | nil => intro paths; simp [reportOnce]
  | cons u writes ih =>
    intro paths
    have later := ih (if u.1 ∈ paths then paths else paths ++ [u.1])
    simp only [reportOnce, List.foldl_cons] at later ⊢
    rw [later, List.exists_mem_cons_iff]
    by_cases known : u.1 ∈ paths
    · by_cases hp : u.1 = p
      · subst hp
        simp [known]
      · simp [known, hp]
    · simp [known, eq_comm, or_assoc]

/-- The segment loop writes the segments' assignments, whatever it starts from. -/
theorem foldl_setPair (separator : Char) (mapping : List (String × String))
    (sectionName : String) (pairs : List Text) : ∀ (tree : DataTree) (paths : List DataPath),
    pairs.foldl (setPair separator mapping sectionName) (tree, paths) =
      (tree.assignAll (pairWrites separator mapping sectionName pairs),
        reportOnce paths (pairWrites separator mapping sectionName pairs)) := by
  induction pairs with
  | nil => exact fun _ _ => rfl
  | cons pair pairs ih =>
    intro tree paths
    rw [List.foldl_cons, setPair]
    cases hs : splitOnce separator pair with
    | none =>
      have skipped : pairWrites separator mapping sectionName (pair :: pairs) =
          pairWrites separator mapping sectionName pairs := by simp [pairWrites, hs]
      rw [skipped]
      exact ih tree paths
    | some e =>
      obtain ⟨key, value⟩ := e
      cases hl : mapping.lookup (String.ofList (strip key)) with
      | none =>
        have skipped : pairWrites separator mapping sectionName (pair :: pairs) =
            pairWrites separator mapping sectionName pairs := by simp [pairWrites, hs, hl]
        rw [skipped]
        simp only [hl]
        exact ih tree paths
      | some name =>
        have written : pairWrites separator mapping sectionName (pair :: pairs) =
            ([.attr sectionName, .attr name], .str (strip value)) ::
              pairWrites separator mapping sectionName pairs := by simp [pairWrites, hs, hl]
        rw [written]
        simp only [hl]
        exact ih _ _

/-- A written path is named by the mapping, and it is given a text. -/
theorem pairWrites_path {separator : Char} {mapping : List (String × String)}
    {sectionName : String} {pairs : List Text} {u : DataPath × Value}
    (h : u ∈ pairWrites separator mapping sectionName pairs) :
    ∃ name ∈ mapping.map Prod.snd, u.1 = [.attr sectionName, .attr name] ∧
      ∃ text, u.2 = .str text := by
  obtain ⟨pair, _, hpair⟩ := List.mem_filterMap.mp h
  obtain ⟨e, _, he⟩ := Option.bind_eq_some_iff.mp hpair
  obtain ⟨name, hname, rfl⟩ := Option.map_eq_some_iff.mp he
  exact ⟨name, List.mem_map.mpr ⟨_, mem_of_lookup hname, rfl⟩, rfl, _, rfl⟩

private theorem not_dot_baseAliases {path : DataPath} (plain : path.all plainElement = true)
    {key : String} (h : key ∈ baseAliases path) : '.' ∉ key.toList := by
  unfold baseAliases at h
  split at h
  · simp at h
  · rename_i e last
    obtain rfl : key = partString e := by simpa using h
    exact not_dot_of_plain (List.all_eq_true.mp plain e (List.mem_of_getLast? last))

/-- What holds of every registered decoder holds of the one found for a command. -/
theorem of_parserFor {runtime : ProductRuntime} {P : Byte → PayloadParser → Prop}
    (every : ∀ e ∈ runtime.payloadParsers, P e.1 e.2) (command : Byte) (parser : PayloadParser)
    (h : runtime.parserFor command = some parser) : P command parser := by
  obtain ⟨e, found, rfl⟩ := Option.map_eq_some_iff.mp h
  have key := List.find?_some found
  rw [decide_eq_true_eq] at key
  exact key ▸ every e (List.mem_of_find?_eq_some found)

/-- The decoder sets texts and whole numbers at some of the given paths, the same on
every tree, and reports what it sets. -/
def DecodesPlainly (paths : List DataPath) (parser : PayloadParser) (payload : Bytes) : Prop :=
  ∃ writes reported, (∀ u ∈ writes, u.1 ∈ paths ∧ u.2.isPlain = true) ∧
    (∀ p, p ∈ reported ↔ ∃ u ∈ writes, u.1 = p) ∧
    ∀ tree, parser payload tree = (.ok (some reported), tree.assignAll writes)

namespace DecodesPlainly

variable {paths : List DataPath} {parser : PayloadParser} {payload : Bytes}

theorem decodesTo (decodes : DecodesPlainly paths parser payload) {root : DataTree}
    (leaves : ∀ p ∈ paths, root.IsLeaf p) : DecodesTo root parser payload := by
  obtain ⟨writes, reported, plain, reports, decoded⟩ := decodes
  exact ⟨⟨writes, reported, fun u hu => leaves u.1 (plain u hu).1, reports⟩, decoded⟩

/-- Nothing outside the given paths is reported. -/
theorem mem_of_reported (decodes : DecodesPlainly paths parser payload) {tree : DataTree}
    {reported : List DataPath} (parsed : (parser payload tree).1 = .ok (some reported))
    {p : DataPath} (member : p ∈ reported) : p ∈ paths := by
  obtain ⟨writes, reported', plain, reports, decoded⟩ := decodes
  rw [decoded tree] at parsed
  obtain rfl := Option.some.inj (Except.ok.inj parsed)
  obtain ⟨u, hu, rfl⟩ := (reports p).mp member
  exact (plain u hu).1

/-- A decoder that assigns one of the paths. -/
theorem of_assign {path : DataPath} (listed : path ∈ paths) {value : Value}
    (plain : value.isPlain = true)
    (assigns : ∀ tree, parser payload tree = (.ok (some [path]), tree.assign path value)) :
    DecodesPlainly paths parser payload := by
  refine ⟨[(path, value)], [path], ?_, by simp [eq_comm], assigns⟩
  simpa using ⟨listed, plain⟩

/-- A decoder that gives up. -/
theorem of_nothing (nothing : ∀ tree, parser payload tree = (.ok (some []), tree)) :
    DecodesPlainly paths parser payload :=
  ⟨[], [], by simp, by simp, nothing⟩

end DecodesPlainly

namespace Venus

/-- The leaves the text decoders can report. -/
def decodedPaths : List DataPath :=
  deviceMapping.map (fun e => [.attr "device", .attr e.2]) ++
    (networkMapping.map (fun e => [.attr "network", .attr e.2]) ++
      ["wifi_ssid", "meter_ip", "network_info", "local_api_status"].map
        fun name => [.attr "network", .attr name])

private theorem plain_of_mapped {mapping : List (String × String)} {sectionName : String}
    (listed : ∀ name ∈ mapping.map Prod.snd,
      [.attr sectionName, .attr name] ∈ decodedPaths) {separator : Char} {pairs : List Text} :
    ∀ u ∈ pairWrites separator mapping sectionName pairs,
      u.1 ∈ decodedPaths ∧ u.2.isPlain = true := by
  intro u hu
  obtain ⟨name, hname, path, text, value⟩ := pairWrites_path hu
  rw [path, value]
  exact ⟨listed name hname, rfl⟩

theorem parseDeviceInformation_eq (payload : Bytes) (tree : DataTree) :
    let written := pairWrites '=' deviceMapping "device" (split ',' (decodeAsciiIgnore payload))
    parseDeviceInformation payload tree =
      (.ok (some (reportOnce [] written)), tree.assignAll written) := by
  simp only [parseDeviceInformation, foldl_setPair]

theorem parseNetworkInformation_eq (payload : Bytes) (tree : DataTree) :
    let text := strip (decodeAsciiIgnore payload)
    let info : DataPath := [.attr "network", .attr "network_info"]
    let mapped := pairWrites ':' networkMapping "network" (split ',' text)
    parseNetworkInformation payload tree =
      (.ok (some (reportOnce [info] mapped)), tree.assignAll ((info, .str text) :: mapped)) := by
  simp only [parseNetworkInformation, foldl_setPair]
  rfl

theorem parseLocalApiStatus_eq {first : Byte} {rest : Bytes}
    (fits : 3 ≤ (first :: rest).length) (tree : DataTree) :
    let status : DataPath := [.attr "network", .attr "local_api_status"]
    parseLocalApiStatus (first :: rest) tree = (.ok (some [status]),
      tree.assign status (.str (localApiText first (integerAt .H (first :: rest) 1)))) := by
  have head : byteAt (first :: rest) 0 = .ok first := rfl
  have port : unpackIntegerFrom .H (first :: rest) 1 =
      .ok (integerAt .H (first :: rest) 1) := unpackIntegerFrom_eq fits
  simp only [parseLocalApiStatus, head, port]

private theorem decodes_deviceInformation (payload : Bytes) :
    DecodesPlainly decodedPaths parseDeviceInformation payload :=
  ⟨_, _, plain_of_mapped (by decide), fun p => (mem_reportOnce p _ []).trans (by simp),
    parseDeviceInformation_eq payload⟩

private theorem decodes_networkInformation (payload : Bytes) :
    DecodesPlainly decodedPaths parseNetworkInformation payload := by
  refine ⟨_, _, ?_, fun p => ?_, parseNetworkInformation_eq payload⟩
  · intro u hu
    rcases List.mem_cons.mp hu with rfl | later
    · have listed : [.attr "network", .attr "network_info"] ∈ decodedPaths := by decide
      exact ⟨listed, rfl⟩
    · exact plain_of_mapped (by decide) u later
  · exact (mem_reportOnce p _ _).trans (by simp [eq_comm])

private theorem decodes_localApiStatus {payload : Bytes}
    (admits : localApiStatus.Admits payload.length) :
    DecodesPlainly decodedPaths parseLocalApiStatus payload := by
  match payload, admits.1 with
  | first :: rest, fits =>
    exact .of_assign (by decide) rfl (parseLocalApiStatus_eq fits)

/-- The decoders set texts at the leaves listed for them. -/
theorem decodesPlainly : ∀ e ∈ venusRuntime.payloadParsers, ∃ packet,
    venusRuntime.packetFor e.1 = some packet ∧ ∀ payload, packet.Admits payload.length →
      DecodesPlainly decodedPaths e.2 payload := by
  refine List.forall_mem_cons.mpr ⟨?_, List.forall_mem_cons.mpr ⟨?_, List.forall_mem_cons.mpr
    ⟨?_, List.forall_mem_cons.mpr ⟨?_, List.forall_mem_cons.mpr ⟨?_, nofun⟩⟩⟩⟩⟩
  · exact ⟨deviceInformation, rfl, fun payload _ => decodes_deviceInformation payload⟩
  · have listed : [.attr "network", .attr "wifi_ssid"] ∈ decodedPaths := by decide
    exact ⟨wifiSsid, rfl, fun payload _ => .of_assign listed rfl fun _ => rfl⟩
  · have listed : [.attr "network", .attr "meter_ip"] ∈ decodedPaths := by decide
    exact ⟨meterIp, rfl, fun payload _ => .of_assign listed rfl fun _ => rfl⟩
  · exact ⟨networkInformation, rfl, fun payload _ => decodes_networkInformation payload⟩
  · exact ⟨localApiStatus, rfl, fun payload admits => decodes_localApiStatus admits⟩

theorem decodedPaths_isLeaf : ∀ p ∈ decodedPaths, venusRuntime.createData.tree.IsLeaf p := by
  decide

theorem venusData_total : everySourceField FieldSource.Total venusData := by
  simp [venusData, venusRuntimeData, venusBatteryData, venusSystemData, venusTimerData,
    venusConfigurationData, venusDeviceInformation, venusNetworkData]

private theorem not_dot_metadataAliases {path : DataPath}
    (plain : path.all plainElement = true) {key : String} (h : key ∈ metadataAliases path) :
    '.' ∉ key.toList := by
  have cells : ∀ key ∈ (List.range 16).map (fun index => "cell_" ++ toString (index + 1) ++
      "_voltage"), '.' ∉ key.toList := by decide
  unfold metadataAliases at h
  split at h
  · rcases List.mem_append.mp h with base | cell
    · exact not_dot_baseAliases plain base
    · exact cells key cell
  · exact not_dot_baseAliases plain h

private theorem venusNames_plain : plainFields venusData = true := by decide

private theorem venusNames_nested : nestedOnly venusData = true := by decide

theorem venusRuntime_lawful : Lawful venusRuntime where
  wellFormed := by decide
  total := venusData_total
  decodes := of_parserFor fun e registered => by
    obtain ⟨packet, found, decodes⟩ := decodesPlainly e registered
    exact ⟨packet, found, fun payload admits =>
      (decodes payload admits).decodesTo decodedPaths_isLeaf⟩
  keysDistinct := fun _ _ leafP leafQ =>
    leafKey_injective venusData venusNames_plain venusNames_nested leafP leafQ
  aliasesApart := by
    intro p q leafP leafQ aliased
    have dot := dot_mem_pathString (two_le_of_isLeaf venusData venusNames_nested leafP)
    exact not_dot_metadataAliases
      (plain_of_isLeaf (t := .record venusData) venusNames_plain leafQ) aliased dot

end Venus

namespace Jupiter

private theorem acceptsIntegers_batteryState : AcceptsIntegers batteryState :=
  fun n => ⟨.str (batteryStateName (some n)).toList, rfl⟩

theorem eventSummary_tuple {ns : List Int} (h : ns.length = 7) :
    ∃ text, eventSummary (.tuple (ns.map .int)) = .ok (.str text) := by
  match ns, h with
  | [year, month, day, hour, minute, unknown1, unknown2], _ =>
    exact ⟨summaryText year month day hour minute unknown1 unknown2, rfl⟩

private theorem total_summary (offset : Nat) (minimumLength : Option Nat) :
    (fieldSource offset (integers .little [.H, .B, .B, .B, .B, .B, .B]) eventSummary
      minimumLength).Total :=
  total_fieldSource_integers offset (by decide) minimumLength fun _ h => by
    obtain ⟨text, converted⟩ := eventSummary_tuple h
    exact ⟨.str text, converted⟩

theorem jupiterData_total : everySourceField FieldSource.Total jupiterData := by
  simp [jupiterData, jupiterRuntimeData, jupiterEnergyData, jupiterInverterData, jupiterMpptData,
    jupiterPvInputData, jupiterBatteryData, jupiterBatteryPackData, jupiterEventRecord,
    jupiterIdentityData, jupiterRawStatusData, total_summary, acceptsIntegers_batteryState]

/-- A loop that writes and reports what each item decodes to, if anything. -/
private theorem foldl_step {α : Type}
    {step : DataTree × List DataPath → α → DataTree × List DataPath}
    {decode : α → Option (DataPath × Value)}
    (steps : ∀ acc item, step acc item = match decode item with
      | none => acc
      | some u => (acc.1.assign u.1 u.2, acc.2 ++ [u.1])) (items : List α) :
    ∀ tree paths, items.foldl step (tree, paths) =
      (tree.assignAll (items.filterMap decode),
        paths ++ (items.filterMap decode).map Prod.fst) := by
  induction items with
  | nil => exact fun _ _ => by simp [Node.assignAll]
  | cons item items ih =>
    intro tree paths
    rw [List.foldl_cons, steps]
    cases hd : decode item with
    | none => simpa [hd] using ih tree paths
    | some u => simpa [hd, Node.assignAll] using ih (tree.assign u.1 u.2) (paths ++ [u.1])

/-- What an identity field is set to, if its key occurs. -/
def identityWrite (values : List (Text × Text)) (item : String × String) :
    Option (DataPath × Value) :=
  (values.lookup item.1.toList).map fun value => ([.attr "identity", .attr item.2], .str value)

/-- What a version field is set to, if its key occurs with an integer. -/
def versionWrite (values : List (Text × Text)) (item : String × String) :
    Option (DataPath × Value) :=
  ((values.lookup item.1.toList).bind intOf).map fun parsed =>
    ([.attr "runtime", .attr item.2], .int parsed)

private theorem setIdentity_eq (values : List (Text × Text)) (acc : DataTree × List DataPath)
    (item : String × String) : setIdentity values acc item =
      match identityWrite values item with
      | none => acc
      | some u => (acc.1.assign u.1 u.2, acc.2 ++ [u.1]) := by
  cases hl : values.lookup item.1.toList <;> simp [setIdentity, identityWrite, hl]

private theorem setVersion_eq (values : List (Text × Text)) (acc : DataTree × List DataPath)
    (item : String × String) : setVersion values acc item =
      match versionWrite values item with
      | none => acc
      | some u => (acc.1.assign u.1 u.2, acc.2 ++ [u.1]) := by
  cases hl : values.lookup item.1.toList with
  | none => simp [setVersion, versionWrite, hl]
  | some value => cases hv : intOf value <;> simp [setVersion, versionWrite, hl, hv]

/-- The assignments of the device information, in order. -/
def deviceWrites (text : Text) : List (DataPath × Value) :=
  identityFields.filterMap (identityWrite (deviceValues text)) ++
    versionFields.filterMap (versionWrite (deviceValues text))

theorem parseDeviceInformation_eq {payload : Bytes} {text : Text}
    (decoded : decodeAscii payload = some text) (tree : DataTree) :
    parseDeviceInformation payload tree =
      (.ok (some ((deviceWrites text).map Prod.fst)), tree.assignAll (deviceWrites text)) := by
  simp only [parseDeviceInformation, decoded, foldl_step (setIdentity_eq (deviceValues text)),
    foldl_step (setVersion_eq (deviceValues text)), ← Node.assignAll_append, List.nil_append,
    ← List.map_append]
  rfl

/-- The leaves the text decoders can report. -/
def decodedPaths : List DataPath :=
  identityFields.map (fun e => [.attr "identity", .attr e.2]) ++
    (versionFields.map (fun e => [.attr "runtime", .attr e.2]) ++
      [[.attr "identity", .attr "wifi_ssid"]])

private theorem decodes_deviceInformation (payload : Bytes) :
    DecodesPlainly decodedPaths parseDeviceInformation payload := by
  cases hd : decodeAscii payload with
  | none => exact .of_nothing fun tree => by simp [parseDeviceInformation, hd]
  | some text =>
    refine ⟨deviceWrites text, (deviceWrites text).map Prod.fst, fun u hu => ?_, by simp,
      parseDeviceInformation_eq hd⟩
    rcases List.mem_append.mp hu with first | second
    · obtain ⟨item, hitem, h⟩ := List.mem_filterMap.mp first
      obtain ⟨value, _, rfl⟩ := Option.map_eq_some_iff.mp h
      exact ⟨List.mem_append_left _ (List.mem_map.mpr ⟨item, hitem, rfl⟩), rfl⟩
    · obtain ⟨item, hitem, h⟩ := List.mem_filterMap.mp second
      obtain ⟨parsed, _, rfl⟩ := Option.map_eq_some_iff.mp h
      exact ⟨List.mem_append_right _ (List.mem_append_left _
        (List.mem_map.mpr ⟨item, hitem, rfl⟩)), rfl⟩

private theorem decodes_wifiSsid (payload : Bytes) :
    DecodesPlainly decodedPaths parseWifiSsid payload := by
  cases hd : decodeUtf8 payload with
  | none => exact .of_nothing fun tree => by simp [parseWifiSsid, hd]
  | some ssid =>
    have listed : [.attr "identity", .attr "wifi_ssid"] ∈ decodedPaths := by decide
    exact .of_assign listed rfl fun tree => by
      simp only [parseWifiSsid, hd]
      rfl

/-- The decoders set texts and whole numbers at the leaves listed for them. -/
theorem decodesPlainly : ∀ e ∈ jupiterRuntime.payloadParsers, ∀ payload,
    DecodesPlainly decodedPaths e.2 payload := by
  intro e registered payload
  simp only [jupiterRuntime, List.mem_cons, List.not_mem_nil, or_false] at registered
  rcases registered with rfl | rfl
  · exact decodes_deviceInformation payload
  · exact decodes_wifiSsid payload

theorem decodedPaths_isLeaf : ∀ p ∈ decodedPaths, jupiterRuntime.createData.tree.IsLeaf p := by
  decide

theorem packetFor_decoded : ∀ e ∈ jupiterRuntime.payloadParsers, ∃ packet,
    jupiterRuntime.packetFor e.1 = some packet :=
  List.forall_mem_cons.mpr ⟨⟨deviceInformation, rfl⟩,
    List.forall_mem_cons.mpr ⟨⟨wifiSsid, rfl⟩, nofun⟩⟩

private theorem not_dot_metadataAliases {path : DataPath}
    (plain : path.all plainElement = true) {key : String} (h : key ∈ metadataAliases path) :
    '.' ∉ key.toList := by
  have flat : ∀ e ∈ flatPaths, '.' ∉ e.1.toList := by decide
  simp only [metadataAliases, List.mem_eraseDups, List.mem_append] at h
  rcases h with ((base | named) | solar) | capacity
  · exact not_dot_baseAliases plain base
  · obtain ⟨e, he, rfl⟩ := List.mem_map.mp named
    exact flat e (List.mem_filter.mp he).1
  · have apart : ∀ k ∈ ["solar_power"], '.' ∉ k.toList := by decide
    split at solar
    · exact apart key solar
    · simp at solar
  · have apart : ∀ k ∈ ["remaining_capacity", "available_capacity"], '.' ∉ k.toList := by decide
    split at capacity
    · exact apart key capacity
    · simp at capacity

private theorem jupiterNames_plain : plainFields jupiterData = true := by decide

private theorem jupiterNames_nested : nestedOnly jupiterData = true := by decide

theorem jupiterRuntime_lawful : Lawful jupiterRuntime where
  wellFormed := by decide
  total := jupiterData_total
  decodes := of_parserFor fun e registered => by
    obtain ⟨packet, found⟩ := packetFor_decoded e registered
    exact ⟨packet, found, fun payload _ =>
      (decodesPlainly e registered payload).decodesTo decodedPaths_isLeaf⟩
  keysDistinct := fun _ _ leafP leafQ =>
    leafKey_injective jupiterData jupiterNames_plain jupiterNames_nested leafP leafQ
  aliasesApart := by
    intro p q leafP leafQ aliased
    have dot := dot_mem_pathString (two_le_of_isLeaf jupiterData jupiterNames_nested leafP)
    exact not_dot_metadataAliases
      (plain_of_isLeaf (t := .record jupiterData) jupiterNames_plain leafQ) aliased dot

end Jupiter

theorem lawful_of_mem {runtime : ProductRuntime} (h : runtime ∈ runtimeProducts) :
    Lawful runtime := by
  simp only [runtimeProducts, List.mem_cons, List.not_mem_nil, or_false] at h
  rcases h with rfl | rfl
  · exact Venus.venusRuntime_lawful
  · exact Jupiter.jupiterRuntime_lawful

end MarstekBle.Product
