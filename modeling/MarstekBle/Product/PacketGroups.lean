/- module: Product/PacketGroups
   source: custom_components/marstek_ble/product_runtime.py, schema.py
   digest: Leaves that one packet alone reads always hold the fields of one of its payloads. -/

import MarstekBle.Product.Reporters
import MarstekBle.Schema.Contract

/-!
A group is a list of leaves that one packet reads from every payload it admits
and that no other packet and no decoder touches. A notification reports the whole
group or nothing of it, so that after any run the group shows one payload, under
one entry of the metadata.
-/

set_option autoImplicit false
set_option relaxedAutoImplicit false

namespace MarstekBle.Product

open MarstekBle.Data MarstekBle.Schema MarstekBle.Protocol MarstekBle.Lib.AttributeTree

/-! ### Located leaves -/

theorem locate_of_mem_leafSources {packet : PacketSchema} {root : DataTree} (wf : WellFormed root)
    {leaf : LeafSource} (listed : leaf ∈ leafSources packet root) :
    locate packet leaf.path root 0 = some (leaf.baseOffset, leaf.source) := by
  rw [leafSources_eq_locate packet wf, List.mem_filterMap] at listed
  obtain ⟨p, _, found⟩ := listed
  obtain ⟨⟨baseOffset, source⟩, located, rfl⟩ := Option.map_eq_some_iff.mp found
  exact located

theorem mem_leafSources_of_locate {packet : PacketSchema} {root : DataTree}
    (wf : WellFormed root) {p : DataPath} (leaf : root.IsLeaf p) {found : Nat × FieldSource}
    (located : locate packet p root 0 = some found) :
    ⟨p, found.1, found.2⟩ ∈ leafSources packet root := by
  rw [leafSources_eq_locate packet wf, List.mem_filterMap]
  exact ⟨p, Node.mem_leaves_of_isLeaf leaf, by rw [leafAt, located]; rfl⟩

/-- The packet reads the leaf from every payload it admits. -/
def ReadsAlways (root : DataTree) (packet : PacketSchema) (p : DataPath) : Prop :=
  ∃ found ∈ locate packet p root 0, found.2.maximumLength = none ∧
    (LeafSource.mk p found.1 found.2).required ≤ packet.minimumLength

instance (root : DataTree) (packet : PacketSchema) (p : DataPath) :
    Decidable (ReadsAlways root packet p) :=
  inferInstanceAs (Decidable (∃ _ ∈ _, _))

/-- What the packet's payload holds for the leaf. -/
def fieldOf (root : DataTree) (packet : PacketSchema) (payload : Bytes) (p : DataPath) :
    Option Value :=
  (locate packet p root 0).map fun found => (LeafSource.mk p found.1 found.2).decoded payload

/-- An integer source: the integer at the leaf's place, converted. -/
theorem fieldOf_little {root : DataTree} {packet : PacketSchema} {p : DataPath}
    {baseOffset offset : Nat} {code : IntegerCode} {converter : Converter} {value : Value}
    (located : locate packet p root 0 =
      some (baseOffset, fieldSource offset (little code) converter)) {payload : Bytes}
    (converted : converter (.int (integerAt code payload (baseOffset + offset))) = .ok value) :
    fieldOf root packet payload p = some value := by
  have raw : (fieldSource offset (little code) converter).rawAt payload baseOffset =
      .int (integerAt code payload (baseOffset + offset)) := rfl
  have taken : (fieldSource offset (little code) converter).converter
      (.int (integerAt code payload (baseOffset + offset))) = .ok value := converted
  rw [fieldOf, located, Option.map_some, LeafSource.decoded]
  dsimp only
  rw [raw, taken]

/-- A source of several integers: the integers from the leaf's place on, converted. -/
theorem fieldOf_integers {root : DataTree} {packet : PacketSchema} {p : DataPath}
    {baseOffset offset : Nat} {codes : List IntegerCode} {converter : Converter} {value : Value}
    (located : locate packet p root 0 =
      some (baseOffset, fieldSource offset (integers .little codes) converter))
    (several : codes.length ≠ 1) {payload : Bytes} {ns : List Int}
    (read : integerValues .little codes (slice payload (baseOffset + offset)
      (baseOffset + offset + (codes.map IntegerCode.width).sum)) = ns)
    (converted : converter (.tuple (ns.map .int)) = .ok value) :
    fieldOf root packet payload p = some value := by
  have raw : (fieldSource offset (integers .little codes) converter).rawAt payload baseOffset =
      .tuple (ns.map .int) := by
    have many : ∀ data : Bytes, ((integers .little codes).unpack data).length ≠ 1 := by
      simpa [integers] using several
    rw [← read]
    exact single_of_length_ne_one (many _)
  have taken : (fieldSource offset (integers .little codes) converter).converter
      (.tuple (ns.map .int)) = .ok value := converted
  rw [fieldOf, located, Option.map_some, LeafSource.decoded]
  dsimp only
  rw [raw, taken]

theorem applies_of_required {leaf : LeafSource} {payload : Bytes}
    (unbounded : leaf.source.maximumLength = none) (reached : leaf.required ≤ payload.length) :
    leaf.applies payload = true := by
  rw [LeafSource.applies, FieldSource.appliesTo, unbounded]
  exact if_neg (Nat.not_lt.mpr reached)

/-- Only one source of a packet writes to a leaf. -/
theorem latest_schemaWrites {root : DataTree} (wf : WellFormed root) {packet : PacketSchema}
    {p : DataPath} (leaf : root.IsLeaf p) (reads : ReadsAlways root packet p) {payload : Bytes}
    (admits : packet.Admits payload.length) :
    latest p (schemaWrites packet payload root) = fieldOf root packet payload p := by
  obtain ⟨found, located, unbounded, short⟩ := reads
  have same : fieldOf root packet payload p =
      some ((LeafSource.mk p found.1 found.2).decoded payload) := by
    rw [fieldOf, Option.mem_def.mp located, Option.map_some]
  have applies : (LeafSource.mk p found.1 found.2).applies payload = true :=
    applies_of_required unbounded (short.trans admits.1)
  have listed := mem_leafSources_of_locate wf leaf located
  have written : (p, (LeafSource.mk p found.1 found.2).decoded payload) ∈
      schemaWrites packet payload root :=
    List.mem_map.mpr ⟨_, List.mem_filter.mpr ⟨listed, applies⟩, rfl⟩
  obtain ⟨value, last⟩ := Option.isSome_iff_exists.mp
    ((latest_isSome_iff p _).mpr ⟨_, written, rfl⟩)
  obtain ⟨other, member, pair⟩ := List.mem_map.mp (mem_of_latest last)
  obtain ⟨path, rfl⟩ := Prod.mk.inj pair
  have place := locate_of_mem_leafSources wf (List.mem_filter.mp member).1
  rw [path, Option.mem_def.mp located, Option.some.injEq] at place
  rw [last, same, place, ← path]

/-! ### What a notification decodes -/

section Decoded

variable {runtime : ProductRuntime} (lawful : Lawful runtime) {data : TrackedProductData}
  (inShape : InShape runtime data) {n : Notification} {p : DataPath}

include inShape

/-- A reported leaf decodes to the last write of the payload's effect. -/
private theorem decoded_of_effect {command : Byte} {payload : Bytes}
    (opened : openFrame n.frame = .ok (some (command, payload)))
    {effect : Effect runtime.createData.tree}
    (parsed : ∀ object, InShape runtime object → runtime.parsePayload command payload object =
      (.ok (some effect.paths), { object with tree := object.tree.assignAll effect.writes }))
    (reported : p ∈ runtime.reportedPaths data n) :
    ∃ value, latest p effect.writes = some value ∧ runtime.decoded n p = some value := by
  have listed : p ∈ effect.paths := by
    simpa only [ProductRuntime.reportedPaths, opened, parsed data inShape] using reported
  obtain ⟨value, last⟩ := Option.isSome_iff_exists.mp
    ((latest_isSome_iff p effect.writes).mpr ((effect.reports p).mp listed))
  refine ⟨value, last, ?_⟩
  have marked : runtime.receive runtime.createData n = markAll command n.time payload effect.paths
      { runtime.createData with
        tree := runtime.createData.tree.assignAll effect.writes } := by
    rw [ProductRuntime.receive, ProductRuntime.parseNotification, opened]
    simp only [parsed _ (inShape_createData runtime)]
    rfl
  rw [ProductRuntime.decoded, marked, markAll_eq, TrackedProductData.withEntry_tree,
    Node.valueAt_assignAll effect.leaves, last, Option.some_or]

include lawful

/-- A notification decodes for a leaf it reports what the text decoder of its command
leaves there, whatever the object held, or else what the converter of the leaf's source
makes of the payload at its place. -/
theorem decoded_of_reported (reported : p ∈ runtime.reportedPaths data n) :
    ∃ command payload packet value, openFrame n.frame = .ok (some (command, payload)) ∧
      runtime.packetFor command = some packet ∧ packet.Admits payload.length ∧
      runtime.decoded n p = some value ∧
      match runtime.parserFor command with
      | some parser => ∀ object, InShape runtime object →
          (parser payload object.tree).2.valueAt p = some value
      | none => ∃ found ∈ writtenFrom packet payload runtime.createData.tree p,
          found.2.converter (found.2.rawAt payload found.1) = .ok value := by
  obtain ⟨command, payload, opened⟩ := opened_of_reported reported
  obtain ⟨packet, hpacket, admits⟩ : Accepts runtime command payload := by
    rcases parsePayload_cases lawful command payload with ⟨accepts, _⟩ | ⟨_, r, refuses, parsed⟩
    · exact accepts
    · cases r with
      | error e => simp [ProductRuntime.reportedPaths, opened, parsed data inShape] at reported
      | ok result =>
        cases result with
        | none => simp [ProductRuntime.reportedPaths, opened, parsed data inShape] at reported
        | some paths => exact absurd rfl (refuses paths)
  refine ⟨command, payload, packet, ?_⟩
  cases hparser : runtime.parserFor command with
  | some parser =>
    obtain ⟨packet', found, decodes⟩ := lawful.decodes command parser hparser
    obtain rfl : packet = packet' := Option.some.inj (hpacket.symm.trans found)
    obtain ⟨effect, decoder⟩ := decodes payload admits
    have parsed : ∀ object, InShape runtime object →
        runtime.parsePayload command payload object = (.ok (some effect.paths),
          { object with tree := object.tree.assignAll effect.writes }) := by
      intro object shaped
      rw [parsePayload_decoded hpacket hparser admits shaped, decoder]
    obtain ⟨value, last, decoded⟩ := decoded_of_effect inShape opened parsed reported
    refine ⟨value, opened, hpacket, admits, decoded, fun object shaped => ?_⟩
    rw [decoder, Node.valueAt_assignAll
      (fun u hu => (isLeaf_of_inShape shaped u.1).mpr (effect.leaves u hu)), last, Option.some_or]
  | none =>
    obtain ⟨effect, writes, parsed⟩ := parsePayload_of_schema lawful hpacket hparser admits
    obtain ⟨value, last, decoded⟩ := decoded_of_effect inShape opened parsed reported
    refine ⟨value, opened, hpacket, admits, decoded, ?_⟩
    rw [writes] at last
    obtain ⟨leaf, applied, pair⟩ := List.mem_map.mp (mem_of_latest last)
    obtain ⟨rfl, rfl⟩ := Prod.mk.inj pair
    obtain ⟨listed, applies⟩ := List.mem_filter.mp applied
    refine ⟨(leaf.baseOffset, leaf.source), ?_, ?_⟩
    · rw [writtenFrom, locate_of_mem_leafSources lawful.wellFormed listed]
      exact Option.mem_def.mpr (Option.filter_some_pos applies)
    · exact LeafSource.converter_eq_decoded (source_of_mem_leafSources lawful.total listed) applies

end Decoded

/-! ### Groups -/

/-- The packet reads the leaves, and nothing else writes to them. -/
structure OwnedBy (runtime : ProductRuntime) (packet : PacketSchema) (paths : List DataPath) :
    Prop where
  declared : packet ∈ runtime.profile.packets
  undispatched : runtime.parserFor packet.command = none
  undecoded : NotDecoded runtime paths
  leaves : ∀ p ∈ paths, runtime.createData.tree.IsLeaf p
  reads : ∀ p ∈ paths, ReadsAlways runtime.createData.tree packet p
  alone : ∀ other ∈ runtime.profile.packets, other ≠ packet → ∀ p ∈ paths,
    locate other p runtime.createData.tree 0 = none

/-- The group is as constructed or shows one payload of the packet, and its leaves
carry one entry. -/
structure Agrees (runtime : ProductRuntime) (packet : PacketSchema) (paths : List DataPath)
    (data : TrackedProductData) : Prop where
  values : (∀ p ∈ paths, data.tree.valueAt p = runtime.createData.tree.valueAt p) ∨
    ∃ payload : Bytes, packet.Admits payload.length ∧ ∀ p ∈ paths,
      data.tree.valueAt p = fieldOf runtime.createData.tree packet payload p
  entries : ∀ p ∈ paths, ∀ q ∈ paths,
    data.fieldUpdates (pathString p) = data.fieldUpdates (pathString q)

variable {runtime : ProductRuntime} {packet : PacketSchema} {paths : List DataPath}

theorem agrees_createData (runtime : ProductRuntime) (packet : PacketSchema)
    (paths : List DataPath) : Agrees runtime packet paths runtime.createData :=
  ⟨.inl fun _ _ => rfl, fun _ _ _ _ => rfl⟩

theorem OwnedBy.steady (lawful : Lawful runtime) (owned : OwnedBy runtime packet paths)
    {p : DataPath} (listed : p ∈ paths) : SteadilyRead runtime p := by
  intro other declared
  by_cases same : other = packet
  · subst same
    obtain ⟨found, located, unbounded, short⟩ := owned.reads p listed
    exact .inl ⟨_, mem_leafSources_of_locate lawful.wellFormed (owned.leaves p listed) located,
      rfl, unbounded, short⟩
  · refine .inr fun leaf member path => ?_
    have located := locate_of_mem_leafSources lawful.wellFormed member
    rw [path, owned.alone other declared same p listed] at located
    cases located

/-- A leaf of the group is reported by the packet's frames and by no others. -/
theorem OwnedBy.reported_iff (lawful : Lawful runtime) (owned : OwnedBy runtime packet paths)
    {data : TrackedProductData} (inShape : InShape runtime data) (n : Notification)
    {p : DataPath} (listed : p ∈ paths) :
    p ∈ runtime.reportedPaths data n ↔ Carries packet n.frame := by
  have steady := owned.steady lawful listed
  have undecoded := owned.undecoded.of_mem listed
  constructor
  · intro reported
    obtain ⟨other, declared, carries, _, leaf, member, path, _⟩ :=
      (mem_reportedPaths_iff lawful inShape n steady undecoded).mp reported
    by_cases same : other = packet
    · exact same ▸ carries
    · have located := locate_of_mem_leafSources lawful.wellFormed member
      rw [path, owned.alone other declared same p listed] at located
      cases located
  · intro carries
    obtain ⟨found, located, unbounded, short⟩ := owned.reads p listed
    have member := mem_leafSources_of_locate lawful.wellFormed (owned.leaves p listed) located
    exact (mem_reportedPaths_iff lawful inShape n steady undecoded).mpr
      ⟨packet, owned.declared, carries, owned.undispatched, _, member, rfl, unbounded, short⟩

/-- After one of its frames the group shows that frame's payload. -/
theorem OwnedBy.valueAt_receive (lawful : Lawful runtime) (owned : OwnedBy runtime packet paths)
    {data : TrackedProductData} (inShape : InShape runtime data) {n : Notification}
    {payload : Bytes} (fits : payload.length ≤ 250) (admits : packet.Admits payload.length)
    (frame : n.frame = frameOf packet.command payload) {p : DataPath} (listed : p ∈ paths) :
    (runtime.receive data n).tree.valueAt p =
      fieldOf runtime.createData.tree packet payload p := by
  have found : runtime.packetFor packet.command = some packet :=
    (packetFor_eq_some_iff runtime _ packet).mpr ⟨owned.declared, rfl⟩
  obtain ⟨effect, writes, heffect⟩ :=
    parsePayload_of_schema lawful found owned.undispatched admits
  have received : (runtime.receive data n).tree = data.tree.assignAll effect.writes := by
    rw [ProductRuntime.receive, ProductRuntime.parseNotification, frame,
      openFrame_frameOf fits packet.command]
    simp only [heffect data inShape]
    have marked := markAll_eq packet.command n.time payload effect.paths
      { data with tree := data.tree.assignAll effect.writes }
    exact congrArg TrackedProductData.tree marked
  have leaves : ∀ u ∈ effect.writes, data.tree.IsLeaf u.1 :=
    fun u hu => (isLeaf_of_inShape inShape u.1).mpr (effect.leaves u hu)
  have last := latest_schemaWrites lawful.wellFormed (owned.leaves p listed)
    (owned.reads p listed) admits
  obtain ⟨_, located, _⟩ := owned.reads p listed
  rw [received, Node.valueAt_assignAll leaves, writes, last, fieldOf,
    Option.mem_def.mp located, Option.map_some, Option.some_or]

theorem Agrees.receive (lawful : Lawful runtime) (owned : OwnedBy runtime packet paths)
    {data : TrackedProductData} (inShape : InShape runtime data)
    (agrees : Agrees runtime packet paths data) (n : Notification) :
    Agrees runtime packet paths (runtime.receive data n) := by
  by_cases carries : Carries packet n.frame
  · have entry : ∀ p ∈ paths, (runtime.receive data n).fieldUpdates (pathString p) = n.entry := by
      intro p listed
      have reported := (owned.reported_iff lawful inShape n listed).mpr carries
      have leaf := receive_leaf lawful inShape n (owned.leaves p listed)
      rw [if_pos reported] at leaf
      exact leaf.2
    obtain ⟨payload, fits, admits, frame⟩ := carries
    exact ⟨.inr ⟨payload, admits, fun p listed =>
        owned.valueAt_receive lawful inShape fits admits frame listed⟩,
      fun p hp q hq => (entry p hp).trans (entry q hq).symm⟩
  · have kept : ∀ p ∈ paths,
        (runtime.receive data n).tree.valueAt p = data.tree.valueAt p ∧
        (runtime.receive data n).fieldUpdates (pathString p) =
          data.fieldUpdates (pathString p) := by
      intro p listed
      have unreported : p ∉ runtime.reportedPaths data n :=
        fun reported => carries ((owned.reported_iff lawful inShape n listed).mp reported)
      have leaf := receive_leaf lawful inShape n (owned.leaves p listed)
      rw [if_neg unreported] at leaf
      exact leaf
    refine ⟨?_, fun p hp q hq => ?_⟩
    · rcases agrees.values with unset | ⟨payload, admits, shown⟩
      · exact .inl fun p listed => (kept p listed).1.trans (unset p listed)
      · exact .inr ⟨payload, admits, fun p listed => (kept p listed).1.trans (shown p listed)⟩
    · rw [(kept p hp).2, (kept q hq).2]
      exact agrees.entries p hp q hq

/-- After every run the group shows one payload. -/
theorem agrees_receiveAll (lawful : Lawful runtime) (owned : OwnedBy runtime packet paths)
    (ns : List Notification) : ∀ {data : TrackedProductData}, InShape runtime data →
      Agrees runtime packet paths data →
        Agrees runtime packet paths (runtime.receiveAll data ns) := by
  induction ns with
  | nil => exact fun _ agrees => agrees
  | cons n ns ih =>
    intro data inShape agrees
    exact ih (inShape_receive lawful inShape n) (agrees.receive lawful owned inShape n)

end MarstekBle.Product
