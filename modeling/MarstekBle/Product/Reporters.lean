/- module: Product/Reporters
   source: custom_components/marstek_ble/product_runtime.py, schema.py
   digest: Which frames report a leaf, and which updates a metadata alias follows. -/

import MarstekBle.Product.Coherence

/-!
A leaf without length conditions of its own is reported by the frames of the
packets that declare it and by no others. An alias carries the entry of the last
notification that reported any leaf recorded under it.
-/

set_option autoImplicit false
set_option relaxedAutoImplicit false

namespace MarstekBle.Product

open MarstekBle.Data MarstekBle.Schema MarstekBle.Protocol MarstekBle.Lib.AttributeTree

/-! ### Leaves -/

/-- A frame built from the packet, with a payload the packet admits. -/
def Carries (packet : PacketSchema) (frame : Bytes) : Prop :=
  ∃ payload : Bytes, payload.length ≤ 250 ∧ packet.Admits payload.length ∧
    frame = frameOf packet.command payload

/-- The packet reads the leaf from every payload it admits. -/
def AlwaysReads (root : DataTree) (packet : PacketSchema) (p : DataPath) : Prop :=
  ∃ leaf ∈ leafSources packet root, leaf.path = p ∧
    leaf.source.maximumLength = none ∧ leaf.required ≤ packet.minimumLength

/-- The packet does not declare the leaf. -/
def NeverReads (root : DataTree) (packet : PacketSchema) (p : DataPath) : Prop :=
  ∀ leaf ∈ leafSources packet root, leaf.path ≠ p

instance (root : DataTree) (packet : PacketSchema) (p : DataPath) :
    Decidable (AlwaysReads root packet p) :=
  inferInstanceAs (Decidable (∃ _ ∈ _, _))

instance (root : DataTree) (packet : PacketSchema) (p : DataPath) :
    Decidable (NeverReads root packet p) :=
  inferInstanceAs (Decidable (∀ _ ∈ _, _))

/-- Whether a packet reads the leaf does not depend on the payload. -/
def SteadilyRead (runtime : ProductRuntime) (p : DataPath) : Prop :=
  ∀ packet ∈ runtime.profile.packets, AlwaysReads runtime.createData.tree packet p ∨
    NeverReads runtime.createData.tree packet p

instance (runtime : ProductRuntime) (p : DataPath) : Decidable (SteadilyRead runtime p) :=
  inferInstanceAs (Decidable (∀ _ ∈ _, _))

/-- No decoder of the runtime reports one of the leaves. -/
def NotDecoded (runtime : ProductRuntime) (paths : List DataPath) : Prop :=
  ∀ e ∈ runtime.payloadParsers, ∀ payload tree reported,
    (e.2 payload tree).1 = .ok (some reported) → ∀ p ∈ reported, p ∉ paths

variable {runtime : ProductRuntime}

theorem NotDecoded.of_mem {paths : List DataPath} (undecoded : NotDecoded runtime paths)
    {p : DataPath} (hp : p ∈ paths) : NotDecoded runtime [p] := by
  intro e registered payload tree reported parsed q member hq
  rw [List.mem_singleton.mp hq] at member
  exact undecoded e registered payload tree reported parsed p member hp

private theorem applies_of_reads {packet : PacketSchema} {leaf : LeafSource}
    (unbounded : leaf.source.maximumLength = none) (short : leaf.required ≤ packet.minimumLength)
    {payload : Bytes} (admits : packet.Admits payload.length) : leaf.applies payload = true := by
  have reached : ¬ payload.length < leaf.required := Nat.not_lt.mpr (short.trans admits.1)
  rw [LeafSource.applies, FieldSource.appliesTo, unbounded]
  exact if_neg reached

/-- A frame that reports something carries a packet of the profile. -/
theorem carries_of_reported (lawful : Lawful runtime) {data : TrackedProductData}
    (inShape : InShape runtime data) {n : Notification} {p : DataPath}
    (reported : p ∈ runtime.reportedPaths data n) :
    ∃ packet ∈ runtime.profile.packets, Carries packet n.frame := by
  rcases parseNotification_cases lawful n.frame with
    ⟨command, payload, built, _, ⟨packet, found, admits⟩, _⟩ | ⟨_, hrejected⟩
  · obtain ⟨declared, rfl⟩ := (packetFor_eq_some_iff runtime command packet).mp found
    obtain ⟨fits, same⟩ := (buildCommand_eq_ok_iff _ _ _).mp built
    exact ⟨packet, declared, payload, fits, admits, same⟩
  · obtain ⟨command, payload, opened⟩ := opened_of_reported reported
    have refused := (hrejected data inShape).1 command payload
    simp only [ProductRuntime.reportedPaths, opened] at reported
    split at reported
    · rename_i paths parsed
      exact absurd parsed (refused paths opened)
    · cases reported

/-- What a frame reports of a leaf that no decoder reports: its packet has no decoder
and reads the leaf from the payload. -/
theorem reports_iff_of_carries (lawful : Lawful runtime) {data : TrackedProductData}
    (inShape : InShape runtime data) {n : Notification} {packet : PacketSchema}
    (declared : packet ∈ runtime.profile.packets) (carries : Carries packet n.frame)
    {p : DataPath} (steady : SteadilyRead runtime p) (undecoded : NotDecoded runtime [p]) :
    p ∈ runtime.reportedPaths data n ↔ runtime.parserFor packet.command = none ∧
      AlwaysReads runtime.createData.tree packet p := by
  obtain ⟨payload, fits, admits, same⟩ := carries
  have found : runtime.packetFor packet.command = some packet :=
    (packetFor_eq_some_iff runtime _ packet).mpr ⟨declared, rfl⟩
  have opened := openFrame_frameOf fits packet.command
  simp only [ProductRuntime.reportedPaths, same, opened]
  cases hparser : runtime.parserFor packet.command with
  | some parser =>
    rw [parsePayload_decoded found hparser admits inShape]
    refine iff_of_false (fun reported => ?_) (fun h => Option.some_ne_none _ h.1)
    obtain ⟨e, he, rfl⟩ := Option.map_eq_some_iff.mp hparser
    split at reported
    · rename_i paths parsed
      exact undecoded e (List.mem_of_find?_eq_some he) payload data.tree paths parsed p reported
        (List.mem_singleton_self p)
    · cases reported
  | none =>
    obtain ⟨effect, writes, heffect⟩ := parsePayload_of_schema lawful found hparser admits
    rw [heffect data inShape]
    simp only [effect.reports, writes, true_and]
    constructor
    · rintro ⟨u, hu, rfl⟩
      obtain ⟨leaf, hleaf, rfl⟩ := List.mem_map.mp hu
      rcases steady packet declared with always | never
      · exact always
      · exact absurd rfl (never leaf (List.mem_filter.mp hleaf).1)
    · rintro ⟨leaf, hleaf, rfl, unbounded, short⟩
      have applies := applies_of_reads unbounded short admits
      exact ⟨_, List.mem_map.mpr ⟨leaf, List.mem_filter.mpr ⟨hleaf, applies⟩, rfl⟩, rfl⟩

/-- A leaf that is read steadily and that no decoder reports is reported by the
frames of the packets without a decoder that read it. -/
theorem mem_reportedPaths_iff (lawful : Lawful runtime) {data : TrackedProductData}
    (inShape : InShape runtime data) (n : Notification) {p : DataPath}
    (steady : SteadilyRead runtime p) (undecoded : NotDecoded runtime [p]) :
    p ∈ runtime.reportedPaths data n ↔ ∃ packet ∈ runtime.profile.packets,
      Carries packet n.frame ∧ runtime.parserFor packet.command = none ∧
        AlwaysReads runtime.createData.tree packet p := by
  constructor
  · intro reported
    obtain ⟨packet, declared, carries⟩ := carries_of_reported lawful inShape reported
    exact ⟨packet, declared, carries,
      (reports_iff_of_carries lawful inShape declared carries steady undecoded).mp reported⟩
  · rintro ⟨packet, declared, carries, reads⟩
    exact (reports_iff_of_carries lawful inShape declared carries steady undecoded).mpr reads

/-! ### Aliases -/

/-- The leaves whose updates are recorded under the name too. -/
def ProductRuntime.claimants (runtime : ProductRuntime) (name : String) : List DataPath :=
  runtime.createData.tree.leaves.filter (name ∈ runtime.profile.dataType.metadataAliases ·)

/-- Only leaves are reported. -/
theorem isLeaf_of_reported (lawful : Lawful runtime) {data : TrackedProductData}
    (inShape : InShape runtime data) {n : Notification} {p : DataPath}
    (reported : p ∈ runtime.reportedPaths data n) : runtime.createData.tree.IsLeaf p := by
  rcases receive_cases lawful n.frame with ⟨_, _, _, _, effect, heffect⟩ | unchanged
  · rw [((heffect data inShape).2 n.time).1] at reported
    obtain ⟨u, hu, rfl⟩ := (effect.reports p).mp reported
    exact effect.leaves u hu
  · rw [(unchanged data inShape n.time).1] at reported
    cases reported

/-- One notification: a name that is no leaf's own key takes the entry of a
notification that reports one of its claimants, and keeps its entry otherwise. -/
theorem receive_alias (lawful : Lawful runtime) {data : TrackedProductData}
    (inShape : InShape runtime data) (n : Notification) {name : String}
    (apart : ∀ p, runtime.createData.tree.IsLeaf p → pathString p ≠ name) :
    (runtime.receive data n).fieldUpdates name =
      if ∃ p ∈ runtime.claimants name, p ∈ runtime.reportedPaths data n then n.entry
      else data.fieldUpdates name := by
  have leaf : ∀ p ∈ runtime.reportedPaths data n, runtime.createData.tree.IsLeaf p :=
    fun p reported => isLeaf_of_reported lawful inShape reported
  rcases receive_cases lawful n.frame with ⟨_, payload, _, _, effect, heffect⟩ | unchanged
  · obtain ⟨reported, received, entry⟩ := (heffect data inShape).2 n.time
    have keys : (name ∈ effect.paths.flatMap fun path =>
        pathString path :: runtime.profile.dataType.metadataAliases path) ↔
        ∃ p ∈ runtime.claimants name, p ∈ runtime.reportedPaths data n := by
      rw [List.mem_flatMap, reported]
      rw [reported] at leaf
      constructor
      · rintro ⟨p, member, key⟩
        rcases List.mem_cons.mp key with own | aliased
        · exact absurd own.symm (apart p (leaf p member))
        · exact ⟨p, List.mem_filter.mpr
            ⟨Node.mem_leaves_of_isLeaf (leaf p member), decide_eq_true aliased⟩, member⟩
      · rintro ⟨p, claims, member⟩
        exact ⟨p, member, List.mem_cons_of_mem _ (of_decide_eq_true (List.mem_filter.mp claims).2)⟩
    rw [received, entry, ← if_congr keys rfl rfl]
    rfl
  · obtain ⟨reported, same⟩ := unchanged data inShape n.time
    rw [same, reported]
    simp

/-- A name whose claimants are reported exactly when a leaf is carries that leaf's
entry after every run. -/
theorem fieldUpdates_alias (lawful : Lawful runtime) {name : String} {p : DataPath}
    (apart : ∀ q, runtime.createData.tree.IsLeaf q → pathString q ≠ name)
    (leaf : runtime.createData.tree.IsLeaf p)
    (follows : ∀ data, InShape runtime data → ∀ n,
      (∃ q ∈ runtime.claimants name, q ∈ runtime.reportedPaths data n) ↔
        p ∈ runtime.reportedPaths data n) (ns : List Notification) :
    ∀ {data : TrackedProductData}, InShape runtime data →
      data.fieldUpdates name = data.fieldUpdates (pathString p) →
      (runtime.receiveAll data ns).fieldUpdates name =
        (runtime.receiveAll data ns).fieldUpdates (pathString p) := by
  induction ns with
  | nil => exact fun _ same => same
  | cons n ns ih =>
    intro data inShape same
    refine ih (inShape_receive lawful inShape n) ?_
    have aliased := receive_alias lawful inShape n apart
    have own := receive_leaf lawful inShape n leaf
    rw [if_congr (follows data inShape n) rfl rfl] at aliased
    by_cases reported : p ∈ runtime.reportedPaths data n
    · simp only [reported, if_true] at aliased own
      exact aliased.trans own.2.symm
    · simp only [reported, if_false] at aliased own
      exact aliased.trans (same.trans own.2.symm)

end MarstekBle.Product
