/- module: Product/Coherence
   source: custom_components/marstek_ble/product_runtime.py
   digest: Values and update metadata agree: both are those of the last report of a path. -/

import MarstekBle.Product.Lawful

set_option autoImplicit false
set_option relaxedAutoImplicit false

namespace MarstekBle.Product

open MarstekBle.Data MarstekBle.Schema MarstekBle.Protocol MarstekBle.Lib.AttributeTree

namespace ProductRuntime

/-- The paths `parse_payload` returns for a notification; none if it is not accepted. -/
def reportedPaths (runtime : ProductRuntime) (data : TrackedProductData) (n : Notification) :
    List DataPath :=
  match openFrame n.frame with
  | .ok (some (command, payload)) => match (runtime.parsePayload command payload data).1 with
    | .ok (some paths) => paths
    | _ => []
  | _ => []

/-- The last notification of a run that reported the path. -/
def lastReporter (runtime : ProductRuntime) (p : DataPath) :
    TrackedProductData → List Notification → Option Notification
  | _, [] => none
  | data, n :: ns => (lastReporter runtime p (runtime.receive data n) ns).or
      (if p ∈ runtime.reportedPaths data n then some n else none)

/-- What the notification decodes for the path: its value once the notification
alone has been parsed into a fresh object. -/
def decoded (runtime : ProductRuntime) (n : Notification) (p : DataPath) : Option Value :=
  (runtime.receive runtime.createData n).tree.valueAt p

end ProductRuntime

/-- The entry of a notification: its command, its receive time and its payload in
hexadecimal, or no payload where that is empty. -/
def Notification.entry (n : Notification) : Option UpdateEntry :=
  match openFrame n.frame with
  | .ok (some (command, payload)) => some (entryOf command n.time payload)
  | _ => none

/-- Among the keys of the reported leaves, a leaf's own string stands for that leaf only. -/
private theorem key_mem_iff {runtime : ProductRuntime} (lawful : Lawful runtime)
    {paths : List DataPath} (leaves : ∀ q ∈ paths, runtime.createData.tree.IsLeaf q)
    {p : DataPath} (leaf : runtime.createData.tree.IsLeaf p) :
    pathString p ∈ paths.flatMap (fun path =>
      pathString path :: runtime.profile.dataType.metadataAliases path) ↔ p ∈ paths := by
  rw [List.mem_flatMap]
  constructor
  · rintro ⟨q, member, key⟩
    rcases List.mem_cons.mp key with own | aliased
    · exact lawful.keysDistinct p q leaf (leaves q member) own ▸ member
    · exact absurd aliased (lawful.aliasesApart p q leaf (leaves q member))
  · exact fun member => ⟨p, member, List.mem_cons_self⟩

/-- A frame has one effect on every data object of the runtime, whenever it arrives,
or it has none. -/
theorem receive_cases {runtime : ProductRuntime} (lawful : Lawful runtime) (frame : Bytes) :
    (∃ command payload, frame = frameOf command payload ∧ Accepts runtime command payload ∧
      ∃ effect : Effect runtime.createData.tree, ∀ data, InShape runtime data →
        runtime.parsePayload command payload data =
          (.ok (some effect.paths), { data with tree := data.tree.assignAll effect.writes }) ∧
        ∀ time, runtime.reportedPaths data ⟨frame, time⟩ = effect.paths ∧
          runtime.receive data ⟨frame, time⟩ =
            ({ data with tree := data.tree.assignAll effect.writes }).withEntry
              (entryOf command time payload) (effect.paths.flatMap fun path =>
                pathString path :: runtime.profile.dataType.metadataAliases path) ∧
          Notification.entry ⟨frame, time⟩ = some (entryOf command time payload)) ∨
    (∀ data, InShape runtime data → ∀ time,
      runtime.reportedPaths data ⟨frame, time⟩ = [] ∧
      runtime.receive data ⟨frame, time⟩ = data) := by
  rcases parseNotification_cases lawful frame with
    ⟨command, payload, built, opened, accepts, effect, heffect⟩ | ⟨_, hrejected⟩
  · have shape := ((buildCommand_eq_ok_iff _ _ _).mp built).2
    refine .inl ⟨command, payload, shape, accepts, effect, fun data inShape => ?_⟩
    have parsed := (heffect data inShape).1
    refine ⟨parsed, fun time => ⟨?_, ?_, ?_⟩⟩
    · simp [ProductRuntime.reportedPaths, opened, parsed]
    · rw [ProductRuntime.receive, (heffect data inShape).2 time, markAll_eq]
      simp only [TrackedProductData.updateKeys, inShape.dataType]
    · simp [Notification.entry, opened]
  · refine .inr fun data inShape time => ⟨?_, ?_⟩
    · unfold ProductRuntime.reportedPaths
      split
      · rename_i command payload opened
        split
        · rename_i paths parsed
          exact absurd parsed ((hrejected data inShape).1 command payload paths opened)
        · rfl
      · rfl
    · rw [ProductRuntime.receive, (hrejected data inShape).2 time]

/-- One notification: a reported leaf takes the notification's value and entry,
any other leaf keeps both. -/
theorem receive_leaf {runtime : ProductRuntime} (lawful : Lawful runtime)
    {data : TrackedProductData} (inShape : InShape runtime data) (n : Notification)
    {p : DataPath} (leaf : runtime.createData.tree.IsLeaf p) :
    let after := runtime.receive data n
    if p ∈ runtime.reportedPaths data n then
      after.tree.valueAt p = runtime.decoded n p ∧
        after.fieldUpdates (pathString p) = n.entry
    else after.tree.valueAt p = data.tree.valueAt p ∧
      after.fieldUpdates (pathString p) = data.fieldUpdates (pathString p) := by
  rcases receive_cases lawful n.frame with
    ⟨command, payload, _, _, effect, heffect⟩ | unchanged
  · obtain ⟨reported, received, entry⟩ := (heffect data inShape).2 n.time
    obtain ⟨_, fresh, _⟩ := (heffect _ (inShape_createData runtime)).2 n.time
    have values : ∀ {d}, InShape runtime d →
        (d.tree.assignAll effect.writes).valueAt p =
          (latest p effect.writes).or (d.tree.valueAt p) := by
      intro d inShape
      exact Node.valueAt_assignAll
        (fun u hu => (isLeaf_of_inShape inShape u.1).mpr (effect.leaves u hu)) p
    have entries : (runtime.receive data n).fieldUpdates (pathString p) =
        if p ∈ effect.paths then n.entry else data.fieldUpdates (pathString p) := by
      have leaves : ∀ q ∈ effect.paths, runtime.createData.tree.IsLeaf q := by
        intro q hq
        obtain ⟨u, hu, rfl⟩ := (effect.reports q).mp hq
        exact effect.leaves u hu
      rw [received, entry]
      simp only [TrackedProductData.withEntry, key_mem_iff lawful leaves leaf]
    dsimp only
    rw [reported, ProductRuntime.decoded, entries, received, fresh,
      TrackedProductData.withEntry_tree, TrackedProductData.withEntry_tree, values inShape,
      values (inShape_createData runtime)]
    split
    · rename_i member
      obtain ⟨c, hc⟩ := Option.isSome_iff_exists.mp
        ((latest_isSome_iff p effect.writes).mpr ((effect.reports p).mp member))
      simp [hc]
    · rename_i absent
      have unwritten : latest p effect.writes = none := by
        rw [latest_eq_none_iff]
        exact fun u hu hp => absent ((effect.reports p).mpr ⟨u, hu, hp⟩)
      simp [unwritten]
  · obtain ⟨reported, same⟩ := unchanged data inShape n.time
    simp [reported, same]

/-- Along a run a leaf holds what its last reporter decoded, under that reporter's entry. -/
theorem receiveAll_leaf {runtime : ProductRuntime} (lawful : Lawful runtime) {p : DataPath}
    (leaf : runtime.createData.tree.IsLeaf p) (ns : List Notification)
    {data : TrackedProductData} (inShape : InShape runtime data) :
    let final := runtime.receiveAll data ns
    match runtime.lastReporter p data ns with
    | none => final.tree.valueAt p = data.tree.valueAt p ∧
        final.fieldUpdates (pathString p) = data.fieldUpdates (pathString p)
    | some n => final.tree.valueAt p = runtime.decoded n p ∧
        final.fieldUpdates (pathString p) = n.entry := by
  induction ns generalizing data with
  | nil => exact ⟨rfl, rfl⟩
  | cons n ns ih =>
    have first := receive_leaf lawful inShape n leaf
    have later := ih (inShape_receive lawful inShape n)
    simp only [ProductRuntime.lastReporter, ProductRuntime.receiveAll, List.foldl_cons]
      at first later ⊢
    cases hl : runtime.lastReporter p (runtime.receive data n) ns with
    | some m => simpa [hl] using later
    | none =>
      simp only [hl] at later
      by_cases reported : p ∈ runtime.reportedPaths data n
      · simp only [reported, if_true] at first
        simpa [reported] using And.intro (later.1.trans first.1) (later.2.trans first.2)
      · simp only [reported, if_false] at first
        simpa [reported] using And.intro (later.1.trans first.1) (later.2.trans first.2)

theorem opened_of_reported {runtime : ProductRuntime} {p : DataPath} {n : Notification}
    {data : TrackedProductData} (reported : p ∈ runtime.reportedPaths data n) :
    ∃ command payload, openFrame n.frame = .ok (some (command, payload)) := by
  unfold ProductRuntime.reportedPaths at reported
  split at reported
  · rename_i command payload opened
    exact ⟨command, payload, opened⟩
  · cases reported

theorem opened_of_lastReporter {runtime : ProductRuntime} {p : DataPath}
    {ns : List Notification} {n : Notification} {data : TrackedProductData}
    (h : runtime.lastReporter p data ns = some n) :
    ∃ command payload, openFrame n.frame = .ok (some (command, payload)) := by
  induction ns generalizing data with
  | nil => simp [ProductRuntime.lastReporter] at h
  | cons m ns ih =>
    rw [ProductRuntime.lastReporter, Option.or_eq_some_iff] at h
    rcases h with later | ⟨_, here⟩
    · exact ih later
    · split at here
      · rename_i reported
        obtain rfl := Option.some.inj here
        exact opened_of_reported reported
      · cases here

/-- Values and metadata never drift apart: after any notifications a leaf nobody
reported is as constructed and has no metadata, and any other leaf shows the
decode, the command, the payload and the receive time of its last reporter. A
further notification leaves the leaves it does not report alone, and no alias is
the key of a leaf. -/
theorem last_writer_wins {runtime : ProductRuntime} (registered : runtime ∈ runtimeProducts)
    (ns : List Notification) {p : DataPath} (leaf : runtime.createData.tree.IsLeaf p) (now : ℚ) :
    let data := runtime.receiveAll runtime.createData ns
    (match runtime.lastReporter p runtime.createData ns with
      | none => data.tree.valueAt p = runtime.createData.tree.valueAt p ∧
          data.getFieldMetadata (.path p) now = none
      | some n => data.tree.valueAt p = runtime.decoded n p ∧ ∃ command payload,
          openFrame n.frame = .ok (some (command, payload)) ∧
          data.getFieldMetadata (.path p) now = some ⟨command, commandHex command, n.time,
            now - n.time, if payload.isEmpty then none else some (hex payload)⟩) ∧
    (∀ n, p ∉ runtime.reportedPaths data n →
      (runtime.receive data n).tree.valueAt p = data.tree.valueAt p ∧
      (runtime.receive data n).fieldUpdates (pathString p) =
        data.fieldUpdates (pathString p)) ∧
    ∀ q, runtime.createData.tree.IsLeaf q →
      pathString p ∉ runtime.profile.dataType.metadataAliases q := by
  have lawful := lawful_of_mem registered
  have inShape := inShape_receiveAll lawful (inShape_createData runtime) ns
  refine ⟨?_, fun n absent => ?_, fun q leafQ => lawful.aliasesApart p q leaf leafQ⟩
  · have run := receiveAll_leaf lawful leaf ns (inShape_createData runtime)
    dsimp only at run
    cases hl : runtime.lastReporter p runtime.createData ns with
    | none =>
      simp only [hl] at run
      refine ⟨run.1, ?_⟩
      simp only [TrackedProductData.getFieldMetadata, run.2]
      rfl
    | some n =>
      simp only [hl] at run
      obtain ⟨command, payload, opened⟩ := opened_of_lastReporter hl
      refine ⟨run.1, command, payload, opened, ?_⟩
      simp only [TrackedProductData.getFieldMetadata, run.2, Notification.entry, opened]
      rfl
  · simpa [absent] using receive_leaf lawful inShape n leaf

/-- The Venus Wi-Fi name after one reply that carries it. -/
theorem last_writer_wins_wifi_ssid :
    let runtime := Venus.venusRuntime
    let p : DataPath := [.attr "network", .attr "wifi_ssid"]
    let ns : List Notification := [⟨frameOf 0x08 [0x61, 0x62], 5⟩]
    let data := runtime.receiveAll runtime.createData ns
    (match runtime.lastReporter p runtime.createData ns with
      | none => data.tree.valueAt p = runtime.createData.tree.valueAt p ∧
          data.getFieldMetadata (.path p) 7 = none
      | some n => data.tree.valueAt p = runtime.decoded n p ∧ ∃ command payload,
          openFrame n.frame = .ok (some (command, payload)) ∧
          data.getFieldMetadata (.path p) 7 = some ⟨command, commandHex command, n.time,
            7 - n.time, if payload.isEmpty then none else some (hex payload)⟩) ∧
    (∀ n, p ∉ runtime.reportedPaths data n →
      (runtime.receive data n).tree.valueAt p = data.tree.valueAt p ∧
      (runtime.receive data n).fieldUpdates (pathString p) =
        data.fieldUpdates (pathString p)) ∧
    ∀ q, runtime.createData.tree.IsLeaf q →
      pathString p ∉ runtime.profile.dataType.metadataAliases q :=
  last_writer_wins (List.mem_cons_self : Venus.venusRuntime ∈ runtimeProducts)
    [⟨frameOf 0x08 [0x61, 0x62], 5⟩] (p := [.attr "network", .attr "wifi_ssid"]) (by decide) 7

end MarstekBle.Product
