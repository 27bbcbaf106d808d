/- module: Product/Contents
   source: custom_components/marstek_ble/product_runtime.py, schema.py
   digest: Along every run lists keep their length, and measured leaves hold numbers or nothing. -/

import MarstekBle.Product.Lawful

/-!
A condition on the contents of leaves that the fresh object meets and that the
sources and the text decoders respect holds after every run. Two conditions are
carried together: how long the list at a leaf is, and that a leaf which the
program calculates with never holds anything but a number.
-/

set_option autoImplicit false
set_option relaxedAutoImplicit false

namespace MarstekBle.Product

open MarstekBle.Data MarstekBle.Schema MarstekBle.Protocol MarstekBle.Lib.AttributeTree

/-! ### Conditions that every frame respects -/

/-- The condition holds of the fresh object and of everything a frame can write. -/
structure Respects (runtime : ProductRuntime) (K : DataPath → Value → Prop) : Prop where
  fresh : runtime.createData.tree.Obeys K
  sources : ∀ packet ∈ runtime.profile.packets,
    ∀ leaf ∈ leafSources packet runtime.createData.tree, ∀ payload,
      leaf.applies payload = true → K leaf.path (leaf.decoded payload)
  decoders : ∀ command parser, runtime.parserFor command = some parser → ∀ packet,
    runtime.packetFor command = some packet → ∀ payload, packet.Admits payload.length →
      ∃ writes : List (DataPath × Value),
        (∀ u ∈ writes, runtime.createData.tree.IsLeaf u.1 ∧ K u.1 u.2) ∧
        ∀ tree, (parser payload tree).2 = tree.assignAll writes

variable {runtime : ProductRuntime} {K : DataPath → Value → Prop}

/-- One notification makes a sequence of allowed writes. -/
theorem receive_writes (lawful : Lawful runtime) (respects : Respects runtime K)
    {data : TrackedProductData} (inShape : InShape runtime data) (n : Notification) :
    ∃ writes : List (DataPath × Value),
      (∀ u ∈ writes, runtime.createData.tree.IsLeaf u.1 ∧ K u.1 u.2) ∧
      (runtime.receive data n).tree = data.tree.assignAll writes := by
  rcases parseNotification_cases lawful n.frame with
    ⟨command, payload, _, _, ⟨packet, found, admits⟩, effect, heffect⟩ | ⟨_, hrejected⟩
  · have left : (runtime.receive data n).tree =
        (runtime.parsePayload command payload data).2.tree := by
      rw [ProductRuntime.receive, (heffect data inShape).2 n.time, markAll_eq,
        (heffect data inShape).1]
      rfl
    rw [left]
    cases hparser : runtime.parserFor command with
    | some parser =>
      obtain ⟨writes, allowed, decoded⟩ :=
        respects.decoders command parser hparser packet found payload admits
      rw [parsePayload_decoded found hparser admits inShape]
      exact ⟨writes, allowed, decoded data.tree⟩
    | none =>
      obtain ⟨effect', writes, parsed⟩ := parsePayload_of_schema lawful found hparser admits
      obtain ⟨declared, _⟩ := (packetFor_eq_some_iff runtime command packet).mp found
      rw [parsed data inShape]
      refine ⟨effect'.writes, fun u hu => ⟨effect'.leaves u hu, ?_⟩, rfl⟩
      rw [writes] at hu
      obtain ⟨leaf, hleaf, rfl⟩ := List.mem_map.mp hu
      obtain ⟨member, applies⟩ := List.mem_filter.mp hleaf
      exact respects.sources packet declared leaf member payload applies
  · refine ⟨[], by simp, ?_⟩
    rw [ProductRuntime.receive, (hrejected data inShape).2 n.time]
    rfl

/-- After every run the condition holds, and what it determines is as before the run. -/
theorem obeys_receiveAll (lawful : Lawful runtime) (respects : Respects runtime K) {W : Type}
    {g : Value → W} (determined : ∀ p c d, K p c → K p d → g c = g d) (ns : List Notification) :
    ∀ {data : TrackedProductData}, InShape runtime data → data.tree.Obeys K →
      (runtime.receiveAll data ns).tree.Obeys K ∧
        (runtime.receiveAll data ns).tree.map g = data.tree.map g := by
  induction ns with
  | nil => exact fun _ obeys => ⟨obeys, rfl⟩
  | cons n ns ih =>
    intro data inShape obeys
    obtain ⟨writes, allowed, tree⟩ := receive_writes lawful respects inShape n
    have here : ∀ u ∈ writes, data.tree.IsLeaf u.1 ∧ K u.1 u.2 := by
      intro u hu
      exact ⟨(isLeaf_of_inShape inShape u.1).mpr (allowed u hu).1, (allowed u hu).2⟩
    have step := obeys.assignAll determined here
    rw [← tree] at step
    obtain ⟨last, later⟩ := ih (inShape_receive lawful inShape n) step.1
    exact ⟨last, later.trans step.2⟩

/-! ### Lists and measured leaves -/

/-- The length of the list a fresh object holds at a leaf. -/
def freshLength (runtime : ProductRuntime) (p : DataPath) : Option Nat :=
  (runtime.createData.tree.valueAt p).bind Value.listLength

/-- Lists are as long as in the fresh object, and measured leaves hold numbers or nothing. -/
def Kept (runtime : ProductRuntime) (measured : List DataPath) (p : DataPath) (v : Value) : Prop :=
  v.listLength = freshLength runtime p ∧ (p ∈ measured → v.isMeasured = true)

/-- What the size of a source says about its values: thirty-two bytes make a list of
sixteen, two bytes make a number. -/
def SizeTells (source : FieldSource) (v : Value) : Prop :=
  v.listLength = (if source.size = 32 then some 16 else none) ∧
    (source.size = 2 → v.isMeasured = true)

/-- The source decodes everything its format unpacks, as its size tells. -/
def DecodesBySize (source : FieldSource) : Prop :=
  ∀ data : Bytes, data.length = source.size →
    ∃ v, source.converter (single (source.format.unpack data)) = .ok v ∧ SizeTells source v

/-- The converter turns every integer into a number. -/
def Measures (converter : Converter) : Prop :=
  ∀ n, ∃ v, converter (.int n) = .ok v ∧ v.listLength = none ∧ v.isMeasured = true

@[simp] theorem measures_identity : Measures identity := fun n => ⟨.int n, rfl, rfl, rfl⟩
@[simp] theorem measures_toFloat : Measures toFloat := fun n => ⟨_, toFloat_int n, rfl, rfl⟩
@[simp] theorem measures_nonzero : Measures nonzero := fun n => ⟨_, nonzero_int n, rfl, rfl⟩
@[simp] theorem measures_bit (k : Nat) : Measures (bit k) := fun n => ⟨_, bit_int k n, rfl, rfl⟩

@[simp] theorem measures_multiplyBy (m : Int) : Measures (multiplyBy m) :=
  fun n => ⟨_, multiplyBy_int m n, rfl, rfl⟩

@[simp] theorem measures_divideBy (d : ℚ) : Measures (divideBy d) :=
  fun n => ⟨_, divideBy_int d n, rfl, rfl⟩

@[simp] private theorem width_b : IntegerCode.b.width = 1 := by decide
@[simp] private theorem width_B : IntegerCode.B.width = 1 := by decide
@[simp] private theorem width_h : IntegerCode.h.width = 2 := by decide
@[simp] private theorem width_H : IntegerCode.H.width = 2 := by decide
@[simp] private theorem width_I : IntegerCode.I.width = 4 := by decide

@[simp] theorem decodesBySize_little (offset : Nat) {code : IntegerCode}
    (narrow : code.width ≠ 32) {converter : Converter} (measures : Measures converter)
    (minimumLength : Option Nat) :
    DecodesBySize (fieldSource offset (little code) converter minimumLength) := by
  intro data _
  obtain ⟨v, converted, noList, measured⟩ := measures (integerOf .little code data)
  refine ⟨v, converted, ?_, fun _ => measured⟩
  have size : (fieldSource offset (little code) converter minimumLength).size ≠ 32 := narrow
  rw [noList, if_neg size]

@[simp] theorem decodesBySize_divideEachBy (offset : Nat) {codes : List IntegerCode}
    (sixteen : codes.length = 16) (wide : (codes.map IntegerCode.width).sum = 32) (d : ℚ)
    (minimumLength : Option Nat) :
    DecodesBySize (fieldSource offset (integers .little codes) (divideEachBy d)
      minimumLength) := by
  intro data _
  have size : (fieldSource offset (integers .little codes) (divideEachBy d)
    minimumLength).size = 32 := wide
  have unpacked : single ((integers .little codes).unpack data) =
      .tuple ((integerValues .little codes data).map .int) :=
    single_of_length_ne_one (by simp [integers, sixteen])
  refine ⟨_, (congrArg (divideEachBy d) unpacked).trans (divideEachBy_tuple d _), ?_,
    fun h => ?_⟩
  · rw [if_pos size]
    simp [Value.listLength, sixteen]
  · rw [size] at h
    exact absurd h (by decide)

/-- A source of texts whose size promises neither a list nor a number. -/
theorem decodesBySize_text {source : FieldSource} (noList : source.size ≠ 32)
    (unmeasured : source.size ≠ 2) (texts : ∀ data : Bytes, data.length = source.size →
      ∃ text, source.converter (single (source.format.unpack data)) = .ok (.str text)) :
    DecodesBySize source := by
  intro data sized
  obtain ⟨text, converted⟩ := texts data sized
  refine ⟨.str text, converted, ?_, fun h => absurd h unmeasured⟩
  rw [if_neg noList]
  rfl

theorem sizeTells_decoded {leaf : LeafSource} (decodes : DecodesBySize leaf.source)
    {payload : Bytes} (applies : leaf.applies payload = true) :
    SizeTells leaf.source (leaf.decoded payload) :=
  (LeafSource.decoded_spec decodes applies).2

theorem respects_kept {measured decoded : List DataPath}
    (unset : ∀ p ∈ measured, ∀ v ∈ runtime.createData.tree.valueAt p, v.isMeasured = true)
    (sized : everySource DecodesBySize runtime.createData.tree)
    (places : ∀ packet ∈ runtime.profile.packets,
      ∀ leaf ∈ leafSources packet runtime.createData.tree,
        freshLength runtime leaf.path = (if leaf.source.size = 32 then some 16 else none) ∧
          (leaf.path ∈ measured → leaf.source.size = 2))
    (decodes : ∀ e ∈ runtime.payloadParsers, ∃ packet, runtime.packetFor e.1 = some packet ∧
      ∀ payload, packet.Admits payload.length → DecodesPlainly decoded e.2 payload)
    (apart : ∀ p ∈ decoded, runtime.createData.tree.IsLeaf p ∧ freshLength runtime p = none ∧
      p ∉ measured) :
    Respects runtime (Kept runtime measured) where
  fresh := by
    intro p v held
    refine ⟨?_, fun member => unset p member v held⟩
    rw [freshLength, held]
    rfl
  sources := by
    intro packet declared leaf member payload applies
    obtain ⟨length, narrow⟩ := places packet declared leaf member
    have tells := sizeTells_decoded (source_of_mem_leafSources sized member) applies
    exact ⟨tells.1.trans length.symm, fun listed => tells.2 (narrow listed)⟩
  decoders := by
    intro command parser hparser packet found payload admits
    obtain ⟨packet', found', decodes⟩ := of_parserFor
      (P := fun command parser => ∃ packet, runtime.packetFor command = some packet ∧
        ∀ payload, packet.Admits payload.length → DecodesPlainly decoded parser payload)
      decodes command parser hparser
    obtain rfl := Option.some.inj (found.symm.trans found')
    obtain ⟨writes, _, plain, _, decoded⟩ := decodes payload admits
    refine ⟨writes, fun u hu => ?_, fun tree => by rw [decoded tree]⟩
    obtain ⟨listed, isPlain⟩ := plain u hu
    obtain ⟨leaf, noList, unmeasured⟩ := apart u.1 listed
    refine ⟨leaf, ?_, fun member => absurd member unmeasured⟩
    rw [noList]
    cases hv : u.2 <;> simp_all [Value.isPlain, Value.listLength]

/-- The length of the list at a place of a data object, a section or a list value. -/
def lengthAt (data : DataTree) (p : DataPath) : Option Nat :=
  match data.get? p with
  | some (.items members) => some members.length
  | some (.value v) => v.listLength
  | _ => none

private theorem lengthAt_of_map {t u : DataTree}
    (same : t.map Value.listLength = u.map Value.listLength) (p : DataPath) :
    lengthAt t p = lengthAt u p := by
  have image : (t.get? p).map (Node.map Value.listLength) =
      (u.get? p).map (Node.map Value.listLength) := by
    rw [← Node.get?_map, ← Node.get?_map, same]
  have read : ∀ s : DataTree, lengthAt s p =
      ((s.get? p).map (Node.map Value.listLength)).bind fun node => match node with
        | .items members => some members.length
        | .value length => length
        | .record _ => none := by
    intro s
    rw [lengthAt]
    cases s.get? p with
    | none => rfl
    | some node => cases node <;> simp [Node.map, mapItems_eq]
  rw [read t, read u, image]

/-- What one run keeps: the lists their lengths, the measured leaves their numbers. -/
theorem kept_receiveAll (lawful : Lawful runtime) {measured : List DataPath}
    (respects : Respects runtime (Kept runtime measured)) (ns : List Notification) :
    let data := runtime.receiveAll runtime.createData ns
    data.tree.Obeys (Kept runtime measured) ∧
      data.tree.map Value.listLength = runtime.createData.tree.map Value.listLength ∧
      ∀ p, lengthAt data.tree p = lengthAt runtime.createData.tree p := by
  have determined : ∀ p c d, Kept runtime measured p c → Kept runtime measured p d →
      c.listLength = d.listLength := fun _ _ _ here there => here.1.trans there.1.symm
  obtain ⟨obeys, image⟩ := obeys_receiveAll lawful respects determined ns
    (inShape_createData runtime) respects.fresh
  exact ⟨obeys, image, lengthAt_of_map image⟩

/-! ### The products -/

namespace Venus

/-- The leaves that calculated entities read. -/
def measuredPaths : List DataPath :=
  ["battery_voltage", "battery_current", "battery_soc", "design_capacity"].map
    fun name => [.attr "battery", .attr name]

theorem venusData_sized : everySourceField DecodesBySize venusData := by
  simp [venusData, venusRuntimeData, venusBatteryData, venusSystemData, venusTimerData,
    venusConfigurationData, venusDeviceInformation, venusNetworkData]

theorem respects_measured : Respects venusRuntime (Kept venusRuntime measuredPaths) :=
  respects_kept (by decide) venusData_sized (by decide +kernel) decodesPlainly
    (by decide +kernel)

end Venus

namespace Jupiter

/-- The leaves that calculated entities and the number of battery packs are read from. -/
def measuredPaths : List DataPath :=
  ["voltage", "current", "pack_count"].map fun name => [.attr "battery", .attr name]

private theorem decodesBySize_batteryState (offset : Nat) (minimumLength : Option Nat) :
    DecodesBySize (fieldSource offset (little .B) batteryState minimumLength) := by
  have size : (fieldSource offset (little .B) batteryState minimumLength).size = 1 := rfl
  refine decodesBySize_text (by omega) (by omega) fun data _ => ?_
  exact ⟨(batteryStateName (some (integerOf .little .B data))).toList, rfl⟩

private theorem decodesBySize_summary (offset : Nat) (minimumLength : Option Nat) :
    DecodesBySize (fieldSource offset (integers .little [.H, .B, .B, .B, .B, .B, .B])
      eventSummary minimumLength) := by
  have size : (fieldSource offset (integers .little [.H, .B, .B, .B, .B, .B, .B])
    eventSummary minimumLength).size = 8 := rfl
  refine decodesBySize_text (by omega) (by omega) fun data _ => ?_
  have unpacked : single ((integers .little [.H, .B, .B, .B, .B, .B, .B]).unpack data) =
      .tuple ((integerValues .little [.H, .B, .B, .B, .B, .B, .B] data).map .int) := rfl
  obtain ⟨text, converted⟩ := eventSummary_tuple
    (length_integerValues .little [.H, .B, .B, .B, .B, .B, .B] data)
  exact ⟨text, (congrArg eventSummary unpacked).trans converted⟩

theorem jupiterData_sized : everySourceField DecodesBySize jupiterData := by
  simp [jupiterData, jupiterRuntimeData, jupiterEnergyData, jupiterInverterData, jupiterMpptData,
    jupiterPvInputData, jupiterBatteryData, jupiterBatteryPackData, jupiterEventRecord,
    jupiterIdentityData, jupiterRawStatusData, decodesBySize_batteryState,
    decodesBySize_summary]

theorem respects_measured : Respects jupiterRuntime (Kept jupiterRuntime measuredPaths) :=
  respects_kept (by decide) jupiterData_sized (by decide +kernel)
    (fun e registered => by
      obtain ⟨packet, found⟩ := packetFor_decoded e registered
      exact ⟨packet, found, fun payload _ => decodesPlainly e registered payload⟩)
    (by decide +kernel)

end Jupiter

end MarstekBle.Product
