/- module: Entities/Freshness
   source: custom_components/marstek_ble/sensor.py, entity.py
   digest: A sensor's age is the age of the last notification that rewrote what its value reads. -/

import MarstekBle.Entities.Catalogue
import MarstekBle.Product.Interleaving
import MarstekBle.Product.Reporters

/-!
A binding is tracked if its stale paths are leaves, its value reads nothing else,
and a notification that reports one of them reports them all. Everything about
ages follows from that; every binding of both catalogues is tracked.
-/

set_option autoImplicit false
set_option relaxedAutoImplicit false

namespace MarstekBle.Entities

open MarstekBle.Data MarstekBle.Schema MarstekBle.Protocol MarstekBle.Product
open MarstekBle.Lib.AttributeTree

/-! ### The sensor -/

/-- `STALE_AFTER_SECONDS`. -/
def staleAfterSeconds : ℚ := 600

namespace EntityBinding

/-- The ages of the stale paths that have metadata. -/
def staleAges (binding : EntityBinding) (data : TrackedProductData) (now : ℚ) : List ℚ :=
  binding.stalePaths.filterMap fun path =>
    (data.getFieldMetadata (.path path) now).map FieldMetadata.ageSeconds

/-- `_stale_age_seconds`: the oldest dependency age, if there is any. -/
def staleAgeSeconds (binding : EntityBinding) (data : TrackedProductData) (now : ℚ) : Option ℚ :=
  (binding.staleAges data now).max?

/-- `available`, given whether the coordinator is. -/
def available (binding : EntityBinding) (coordinatorAvailable : Bool)
    (data : TrackedProductData) (now : ℚ) : Raises Bool :=
  if coordinatorAvailable then do
    if ← binding.isPresent data.tree then
      match binding.staleAgeSeconds data now with
      | none => pure true
      | some age => pure (decide (age ≤ staleAfterSeconds))
    else pure false
  else .ok false

end EntityBinding

/-- What a runtime has to guarantee of a binding for its age to mean something. -/
structure Tracked (runtime : ProductRuntime) (binding : EntityBinding) : Prop where
  leaves : ∀ p ∈ binding.stalePaths, runtime.createData.tree.IsLeaf p
  reads : ∀ data data', InShape runtime data → InShape runtime data' →
    (∀ p ∈ binding.stalePaths, data.tree.valueAt p = data'.tree.valueAt p) →
    binding.valueFrom data.tree = binding.valueFrom data'.tree
  jointly : ∀ data, InShape runtime data → ∀ n, ∀ p ∈ binding.stalePaths,
    ∀ q ∈ binding.stalePaths, p ∈ runtime.reportedPaths data n → q ∈ runtime.reportedPaths data n

namespace Tracked

variable {runtime : ProductRuntime} {binding : EntityBinding}

/-- A notification that changes the value reports every stale path. -/
theorem reported_of_changed (tracked : Tracked runtime binding) (lawful : Lawful runtime)
    {data : TrackedProductData} (inShape : InShape runtime data) {n : Notification}
    (changed : binding.valueFrom (runtime.receive data n).tree ≠ binding.valueFrom data.tree) :
    ∀ p ∈ binding.stalePaths, p ∈ runtime.reportedPaths data n := by
  by_contra unreported
  push Not at unreported
  obtain ⟨q, hq, absent⟩ := unreported
  refine changed (tracked.reads _ _ (inShape_receive lawful inShape n) inShape fun p hp => ?_)
  have silent : p ∉ runtime.reportedPaths data n :=
    fun reported => absent (tracked.jointly data inShape n p hp q hq reported)
  have frame := receive_leaf lawful inShape n (tracked.leaves p hp)
  simp only [silent, if_false] at frame
  exact frame.1

/-- The stale paths share their last reporter. -/
theorem lastReporter_eq (tracked : Tracked runtime binding) (lawful : Lawful runtime)
    {p q : DataPath} (hp : p ∈ binding.stalePaths) (hq : q ∈ binding.stalePaths)
    (ns : List Notification) : ∀ {data : TrackedProductData}, InShape runtime data →
      runtime.lastReporter p data ns = runtime.lastReporter q data ns := by
  induction ns with
  | nil => exact fun _ => rfl
  | cons n ns ih =>
    intro data inShape
    have later := ih (inShape_receive lawful inShape n)
    have together : p ∈ runtime.reportedPaths data n ↔ q ∈ runtime.reportedPaths data n :=
      ⟨tracked.jointly data inShape n p hp q hq, tracked.jointly data inShape n q hq p hp⟩
    simp only [ProductRuntime.lastReporter, later, together]

private theorem max?_of_const {ages : List ℚ} {age : ℚ} (some_age : ages ≠ [])
    (all : ∀ a ∈ ages, a = age) : ages.max? = some age := by
  obtain ⟨count, rfl⟩ : ∃ count, ages = List.replicate count age :=
    ⟨ages.length, List.eq_replicate_iff.mpr ⟨rfl, all⟩⟩
  have positive : 0 < count := by
    rcases Nat.eq_zero_or_pos count with rfl | positive
    · exact absurd rfl some_age
    · exact positive
  exact List.max?_replicate_of_pos positive

/-- Stale paths that share an entry give its age. -/
theorem staleAgeSeconds_of_entry {data : TrackedProductData} {entry : UpdateEntry}
    (some_path : binding.stalePaths ≠ [])
    (entries : ∀ p ∈ binding.stalePaths, data.fieldUpdates (pathString p) = some entry)
    (now : ℚ) : binding.staleAgeSeconds data now = some (now - entry.timestamp) := by
  have ages : binding.staleAges data now =
      binding.stalePaths.map fun _ => now - entry.timestamp := by
    rw [← List.filterMap_eq_map]
    refine List.filterMap_congr fun p hp => ?_
    simp only [TrackedProductData.getFieldMetadata, entries p hp]
    rfl
  rw [EntityBinding.staleAgeSeconds, ages]
  refine max?_of_const (by simpa using some_path) fun a ha => ?_
  obtain ⟨p, _, rfl⟩ := List.mem_map.mp ha
  rfl

/-- The age only depends on the entries of the stale paths. -/
theorem staleAgeSeconds_congr {data data' : TrackedProductData}
    (entries : ∀ p ∈ binding.stalePaths,
      data.fieldUpdates (pathString p) = data'.fieldUpdates (pathString p)) (now : ℚ) :
    binding.staleAgeSeconds data now = binding.staleAgeSeconds data' now := by
  have ages : binding.staleAges data now = binding.staleAges data' now := by
    refine List.filterMap_congr fun p hp => ?_
    simp only [TrackedProductData.getFieldMetadata, entries p hp]
  rw [EntityBinding.staleAgeSeconds, EntityBinding.staleAgeSeconds, ages]

/-- After a run the age of a binding is that of the last notification that rewrote
what its value reads. -/
theorem staleAgeSeconds_eq (tracked : Tracked runtime binding) (lawful : Lawful runtime)
    (ns : List Notification) {p : DataPath} (hp : p ∈ binding.stalePaths) (now : ℚ) :
    binding.staleAgeSeconds (runtime.receiveAll runtime.createData ns) now =
      (runtime.lastReporter p runtime.createData ns).map fun n => now - n.time := by
  have fresh := inShape_createData runtime
  have entry : ∀ q ∈ binding.stalePaths,
      (runtime.receiveAll runtime.createData ns).fieldUpdates (pathString q) =
        (runtime.lastReporter p runtime.createData ns).bind Notification.entry := by
    intro q hq
    have run := receiveAll_leaf lawful (tracked.leaves q hq) ns fresh
    rw [tracked.lastReporter_eq lawful hq hp ns fresh] at run
    dsimp only at run
    cases hl : runtime.lastReporter p runtime.createData ns with
    | none =>
      simp only [hl] at run
      exact run.2
    | some n =>
      simp only [hl] at run
      exact run.2
  cases hl : runtime.lastReporter p runtime.createData ns with
  | none =>
    have same : binding.staleAgeSeconds (runtime.receiveAll runtime.createData ns) now =
        binding.staleAgeSeconds runtime.createData now := by
      refine staleAgeSeconds_congr (fun q hq => ?_) now
      rw [entry q hq, hl]
      rfl
    have nothing : binding.staleAges runtime.createData now = [] :=
      List.filterMap_eq_nil_iff.mpr fun q _ => rfl
    rw [same, EntityBinding.staleAgeSeconds, nothing]
    rfl
  | some n =>
    obtain ⟨command, payload, opened⟩ := opened_of_lastReporter hl
    have recorded : n.entry = some (entryOf command n.time payload) := by
      simp [Notification.entry, opened]
    have entries : ∀ q ∈ binding.stalePaths,
        (runtime.receiveAll runtime.createData ns).fieldUpdates (pathString q) =
          some (entryOf command n.time payload) := by
      intro q hq
      rw [entry q hq, hl]
      exact recorded
    exact staleAgeSeconds_of_entry (List.ne_nil_of_mem hp) entries now

/-- A value that just changed is available wherever its record is present. -/
theorem available_of_changed (tracked : Tracked runtime binding) (lawful : Lawful runtime)
    {data : TrackedProductData} (inShape : InShape runtime data) {n : Notification}
    (changed : binding.valueFrom (runtime.receive data n).tree ≠ binding.valueFrom data.tree) :
    binding.available true (runtime.receive data n) n.time =
      binding.isPresent (runtime.receive data n).tree := by
  have reported := tracked.reported_of_changed lawful inShape changed
  have some_path : binding.stalePaths ≠ [] := by
    intro none_left
    refine changed (tracked.reads _ _ (inShape_receive lawful inShape n) inShape fun p hp => ?_)
    rw [none_left] at hp
    cases hp
  obtain ⟨p, hp⟩ := List.exists_mem_of_ne_nil _ some_path
  have entries : ∀ q ∈ binding.stalePaths,
      (runtime.receive data n).fieldUpdates (pathString q) = n.entry := by
    intro q hq
    have step := receive_leaf lawful inShape n (tracked.leaves q hq)
    simp only [reported q hq, if_true] at step
    exact step.2
  obtain ⟨command, payload, recorded⟩ :
      ∃ command payload, n.entry = some (entryOf command n.time payload) := by
    obtain ⟨command, payload, opened⟩ := opened_of_reported (reported p hp)
    exact ⟨command, payload, by simp [Notification.entry, opened]⟩
  have age : binding.staleAgeSeconds (runtime.receive data n) n.time = some 0 := by
    rw [staleAgeSeconds_of_entry some_path (fun q hq => (entries q hq).trans recorded)]
    simp [entryOf]
  simp only [EntityBinding.available, age, if_true]
  cases binding.isPresent (runtime.receive data n).tree with
  | error e => rfl
  | ok present => cases present <;> rfl

end Tracked

/-! ### Reading leaves -/

theorem readValue_congr {t u : DataTree} {p : DataPath} (leaf : t.IsLeaf p)
    (same : t.valueAt p = u.valueAt p) : readValue t p = readValue u p := by
  obtain ⟨v, hv⟩ := Option.isSome_iff_exists.mp leaf
  rw [readValue, readValue, resolve_of_valueAt hv, resolve_of_valueAt (same ▸ hv)]

/-- The leaf that the path of a binding reads: an indexed path reads its field. -/
def leafOf (path : DataPath) : DataPath :=
  match path.getLast? with
  | some (.index _) => path.dropLast
  | _ => path

theorem resolve_congr {t u : DataTree} {path : DataPath} (leaf : t.IsLeaf (leafOf path))
    (same : t.valueAt (leafOf path) = u.valueAt (leafOf path)) :
    resolve t path = resolve u path := by
  obtain ⟨v, hv⟩ := Option.isSome_iff_exists.mp leaf
  have left := resolve_of_valueAt hv
  have right := resolve_of_valueAt (same ▸ hv)
  have start : leafOf path <+: path := by
    unfold leafOf
    split
    · exact List.dropLast_prefix path
    · exact List.prefix_refl path
  rw [← List.prefix_iff_eq_append.mp start, resolve_append, resolve_append, left, right]

/-! ### Bindings that are tracked -/

/-- A binding of a field or of an item of a sequence-valued field. -/
def ReadsOneLeaf (root : DataTree) (binding : EntityBinding) : Prop :=
  binding.valueFn.isNone = true ∧ ∃ path ∈ binding.path,
    binding.stalePaths = [leafOf path] ∧ root.IsLeaf (leafOf path)

instance (root : DataTree) (binding : EntityBinding) : Decidable (ReadsOneLeaf root binding) :=
  inferInstanceAs (Decidable (_ ∧ _))

theorem tracked_of_readsOneLeaf {runtime : ProductRuntime} {binding : EntityBinding}
    (h : ReadsOneLeaf runtime.createData.tree binding) : Tracked runtime binding := by
  obtain ⟨direct, path, hpath, stale, leaf⟩ := h
  have noFn : binding.valueFn = none := Option.isNone_iff_eq_none.mp direct
  have onPath : binding.path = some path := hpath
  refine ⟨fun p hp => ?_, fun data data' inShape _ same => ?_, fun data _ n p hp q hq => ?_⟩
  · rw [stale, List.mem_singleton] at hp
    exact hp ▸ leaf
  · have agree := same (leafOf path) (by rw [stale]; exact List.mem_singleton_self _)
    simp only [EntityBinding.valueFrom, noFn, onPath]
    exact resolve_congr ((isLeaf_of_inShape inShape _).mpr leaf) agree
  · rw [stale, List.mem_singleton] at hp hq
    rw [hp, hq]
    exact id

/-- A calculation that only reads the given paths. -/
def CalculatesFrom (valueFn : ValueGetter) (paths : List DataPath) : Prop :=
  ∀ t u, (∀ p ∈ paths, readValue t p = readValue u p) → valueFn t = valueFn u

theorem calculates_batteryPower (voltagePath currentPath : DataPath) :
    CalculatesFrom (batteryPower voltagePath currentPath) [voltagePath, currentPath] := by
  intro t u same
  have voltage := same voltagePath List.mem_cons_self
  have current := same currentPath (List.mem_cons_of_mem _ List.mem_cons_self)
  simp only [batteryPower, voltage, current]

theorem calculates_batteryPowerIn (voltagePath currentPath : DataPath) :
    CalculatesFrom (batteryPowerIn voltagePath currentPath) [voltagePath, currentPath] := by
  intro t u same
  have power := calculates_batteryPower voltagePath currentPath t u same
  simp only [batteryPowerIn, power]

theorem calculates_batteryPowerOut (voltagePath currentPath : DataPath) :
    CalculatesFrom (batteryPowerOut voltagePath currentPath) [voltagePath, currentPath] := by
  intro t u same
  have power := calculates_batteryPower voltagePath currentPath t u same
  simp only [batteryPowerOut, power]

theorem Venus.calculates_capacity (available : Bool) :
    CalculatesFrom (Venus.capacity available) [Venus.socPath, Venus.capacityPath] := by
  intro t u same
  have soc := same Venus.socPath List.mem_cons_self
  have capacity := same Venus.capacityPath (List.mem_cons_of_mem _ List.mem_cons_self)
  simp only [Venus.capacity, soc, capacity]

theorem tracked_of_calculated {runtime : ProductRuntime} {profile : EntityProfile}
    {spec : DerivedEntitySpec}
    (leaves : ∀ p ∈ spec.stalePaths, runtime.createData.tree.IsLeaf p)
    (calculates : CalculatesFrom spec.valueFn spec.stalePaths)
    (jointly : ∀ data, InShape runtime data → ∀ n, ∀ p ∈ spec.stalePaths,
      ∀ q ∈ spec.stalePaths, p ∈ runtime.reportedPaths data n →
        q ∈ runtime.reportedPaths data n) :
    Tracked runtime (profile.derivedEntity spec) := by
  refine ⟨leaves, fun data data' inShape _ same => ?_, jointly⟩
  have value : spec.valueFn data.tree = spec.valueFn data'.tree :=
    calculates data.tree data'.tree fun p hp =>
      readValue_congr ((isLeaf_of_inShape inShape p).mpr (leaves p hp)) (same p hp)
  simp only [EntityBinding.valueFrom, EntityProfile.derivedEntity, value]

/-! ### Leaves that are reported together -/

/-- Every packet reads all of the leaves from every payload it admits, or none from any. -/
def ReadTogether (runtime : ProductRuntime) (paths : List DataPath) : Prop :=
  ∀ packet ∈ runtime.profile.packets,
    (∀ p ∈ paths, ∃ leaf ∈ leafSources packet runtime.createData.tree, leaf.path = p ∧
      leaf.source.maximumLength = none ∧ leaf.required ≤ packet.minimumLength) ∨
    ∀ leaf ∈ leafSources packet runtime.createData.tree, leaf.path ∉ paths

instance (runtime : ProductRuntime) (paths : List DataPath) :
    Decidable (ReadTogether runtime paths) :=
  inferInstanceAs (Decidable (∀ _ ∈ _, _))

theorem reported_together {runtime : ProductRuntime} (lawful : Lawful runtime)
    {paths : List DataPath} (together : ReadTogether runtime paths)
    (undecoded : NotDecoded runtime paths) (data : TrackedProductData)
    (inShape : InShape runtime data) (n : Notification) : ∀ p ∈ paths, ∀ q ∈ paths,
      p ∈ runtime.reportedPaths data n → q ∈ runtime.reportedPaths data n := by
  have steady : ∀ p ∈ paths, SteadilyRead runtime p := by
    intro p hp packet declared
    rcases together packet declared with always | never
    · exact .inl (always p hp)
    · exact .inr fun leaf hleaf same => never leaf hleaf (same ▸ hp)
  intro p hp q hq reported
  obtain ⟨packet, declared, carries, undispatched, leaf, hleaf, same, _⟩ :=
    (mem_reportedPaths_iff lawful inShape n (steady p hp) (undecoded.of_mem hp)).mp reported
  refine (mem_reportedPaths_iff lawful inShape n (steady q hq) (undecoded.of_mem hq)).mpr
    ⟨packet, declared, carries, undispatched, ?_⟩
  rcases together packet declared with always | never
  · exact always q hq
  · exact absurd hp (same ▸ never leaf hleaf)

/-! ### Venus -/

namespace Venus

open MarstekBle.Product.Venus

private theorem notDecoded_battery {paths : List DataPath}
    (owned : ∀ p ∈ paths, replyCommand p = some 0x14) : NotDecoded venusRuntime paths := by
  intro e registered payload tree reported parsed p member hp
  have own := replyCommand_parsers e registered payload tree reported parsed p member
  have apart : ∀ e ∈ venusRuntime.payloadParsers, e.1 ≠ 0x14 := by decide
  rw [owned p hp] at own
  exact apart e registered (Option.some.inj own).symm

private theorem power_together (data : TrackedProductData) (inShape : InShape venusRuntime data) :
    ∀ n, ∀ p ∈ [voltagePath, currentPath], ∀ q ∈ [voltagePath, currentPath],
      p ∈ venusRuntime.reportedPaths data n → q ∈ venusRuntime.reportedPaths data n :=
  fun n => reported_together venusRuntime_lawful (by decide +kernel)
    (notDecoded_battery (by decide)) data inShape n

private theorem capacity_together (data : TrackedProductData)
    (inShape : InShape venusRuntime data) :
    ∀ n, ∀ p ∈ [socPath, capacityPath], ∀ q ∈ [socPath, capacityPath],
      p ∈ venusRuntime.reportedPaths data n → q ∈ venusRuntime.reportedPaths data n :=
  fun n => reported_together venusRuntime_lawful (by decide +kernel)
    (notDecoded_battery (by decide)) data inShape n

theorem tracked_of_mem {binding : EntityBinding} (listed : binding ∈ venusEntityProfile.catalogue) :
    Tracked venusRuntime binding := by
  have fields : ∀ b ∈ venusEntityProfile.fieldCatalogue,
      ReadsOneLeaf venusRuntime.createData.tree b := by decide +kernel
  rw [EntityProfile.catalogue, List.mem_append] at listed
  rcases listed with direct | derived
  · exact tracked_of_readsOneLeaf (fields binding direct)
  · obtain ⟨spec, hspec, rfl⟩ := List.mem_map.mp derived
    simp only [venusEntityProfile, List.mem_cons, List.not_mem_nil, or_false] at hspec
    rcases hspec with rfl | rfl | rfl | rfl | rfl
    · exact tracked_of_calculated (by decide) (calculates_batteryPower _ _) power_together
    · exact tracked_of_calculated (by decide) (calculates_batteryPowerIn _ _) power_together
    · exact tracked_of_calculated (by decide) (calculates_batteryPowerOut _ _) power_together
    · exact tracked_of_calculated (by decide) (calculates_capacity false) capacity_together
    · exact tracked_of_calculated (by decide) (calculates_capacity true) capacity_together

end Venus

/-! ### Jupiter -/

namespace Jupiter

open MarstekBle.Product.Jupiter

/-- A path outside the battery section. -/
def OutsideBattery (p : DataPath) : Prop := p.head? ≠ some (.attr "battery")

/-- The text decoders stay out of the battery section. -/
private theorem notDecoded_battery {paths : List DataPath}
    (inside : ∀ p ∈ paths, ¬ OutsideBattery p) : NotDecoded jupiterRuntime paths := by
  intro e registered payload tree reported parsed p member hp
  have outside : ∀ q ∈ decodedPaths, OutsideBattery q := by
    unfold OutsideBattery
    decide
  have listed := (decodesPlainly e registered payload).mem_of_reported parsed member
  exact inside p hp (outside p listed)

private theorem power_together (data : TrackedProductData)
    (inShape : InShape jupiterRuntime data) :
    ∀ n, ∀ p ∈ [voltagePath, currentPath], ∀ q ∈ [voltagePath, currentPath],
      p ∈ jupiterRuntime.reportedPaths data n → q ∈ jupiterRuntime.reportedPaths data n :=
  fun n => reported_together jupiterRuntime_lawful (by decide +kernel)
    (notDecoded_battery (by simp [voltagePath, currentPath, OutsideBattery])) data inShape n

theorem tracked_of_mem {binding : EntityBinding}
    (listed : binding ∈ jupiterEntityProfile.catalogue) : Tracked jupiterRuntime binding := by
  have fields : ∀ b ∈ jupiterEntityProfile.fieldCatalogue,
      ReadsOneLeaf jupiterRuntime.createData.tree b := by decide +kernel
  rw [EntityProfile.catalogue, List.mem_append] at listed
  rcases listed with direct | derived
  · exact tracked_of_readsOneLeaf (fields binding direct)
  · obtain ⟨spec, hspec, rfl⟩ := List.mem_map.mp derived
    simp only [jupiterEntityProfile, List.mem_cons, List.not_mem_nil, or_false] at hspec
    rcases hspec with rfl | rfl | rfl
    · exact tracked_of_calculated (by decide) (calculates_batteryPower _ _) power_together
    · exact tracked_of_calculated (by decide) (calculates_batteryPowerIn _ _) power_together
    · exact tracked_of_calculated (by decide) (calculates_batteryPowerOut _ _) power_together

end Jupiter

/-- Every binding of a plan of a registered product is tracked. -/
theorem tracked_of_mem_plan {product : EntityProduct} (registered : product ∈ entityProducts)
    {data : TrackedProductData} (inShape : InShape product.runtime data)
    {configuredCounts : List (String × Int)} {plan : EntityPlan}
    (built : product.entities.buildEntityPlan data configuredCounts = .ok plan)
    {binding : EntityBinding} (listed : binding ∈ plan.entities) :
    Tracked product.runtime binding := by
  have shape : data.tree.shape =
      (.record product.entities.dataType.fields : DataTree).shape := by
    rw [inShape.shape, product.sameProfile]
    rfl
  have catalogued := (product.entities.plan_sublist_catalogue shape built).subset listed
  simp only [entityProducts, List.mem_cons, List.not_mem_nil, or_false] at registered
  rcases registered with rfl | rfl
  · exact Venus.tracked_of_mem catalogued
  · exact Jupiter.tracked_of_mem catalogued

/-- Sensors are fresh. For every binding of any plan made from a reachable object,
and after any notifications: its value depends on the values at its stale paths
only; a notification that changes it refreshes the metadata of every stale path;
metadata of a stale path is only refreshed by a notification that rewrote the path;
and the age that decides availability counts from the last notification that
rewrote the stale paths, which is the same for all of them. So a packet that does
not rewrite all of them leaves the age alone, and a changed value is not stale. -/
theorem sensors_fresh {product : EntityProduct} (registered : product ∈ entityProducts)
    (planned : List Notification) (configuredCounts : List (String × Int)) {plan : EntityPlan}
    (built : product.entities.buildEntityPlan
      (product.runtime.receiveAll product.runtime.createData planned) configuredCounts = .ok plan)
    {binding : EntityBinding} (listed : binding ∈ plan.entities) (ns : List Notification) :
    let runtime := product.runtime
    let data := runtime.receiveAll runtime.createData ns
    (∀ ms, let other := runtime.receiveAll runtime.createData ms
      (∀ p ∈ binding.stalePaths, data.tree.valueAt p = other.tree.valueAt p) →
        binding.valueFrom data.tree = binding.valueFrom other.tree) ∧
    (∀ n, binding.valueFrom (runtime.receive data n).tree ≠ binding.valueFrom data.tree →
      ∀ p ∈ binding.stalePaths, p ∈ runtime.reportedPaths data n ∧
        (runtime.receive data n).fieldUpdates (pathString p) = n.entry) ∧
    (∀ n, ∀ p ∈ binding.stalePaths, p ∉ runtime.reportedPaths data n →
      (runtime.receive data n).fieldUpdates (pathString p) = data.fieldUpdates (pathString p)) ∧
    (∀ n, ∀ p ∈ binding.stalePaths, p ∈ runtime.reportedPaths data n →
      (runtime.receive data n).tree.valueAt p = runtime.decoded n p) ∧
    (∀ p ∈ binding.stalePaths, ∀ now, binding.staleAgeSeconds data now =
      (runtime.lastReporter p runtime.createData ns).map fun n => now - n.time) ∧
    (∀ n, (∃ p ∈ binding.stalePaths, p ∉ runtime.reportedPaths data n) → ∀ now,
      binding.staleAgeSeconds (runtime.receive data n) now =
        binding.staleAgeSeconds data now) ∧
    (∀ n, binding.valueFrom (runtime.receive data n).tree ≠ binding.valueFrom data.tree →
      binding.available true (runtime.receive data n) n.time =
        binding.isPresent (runtime.receive data n).tree) := by
  have lawful := lawful_of_mem (runtime_mem_of_entityProducts registered)
  have fresh := inShape_createData product.runtime
  have tracked := tracked_of_mem_plan registered (inShape_receiveAll lawful fresh planned) built
    listed
  have inShape := inShape_receiveAll lawful fresh ns
  refine ⟨fun ms same => ?_, fun n changed p hp => ?_, fun n p hp absent => ?_,
    fun n p hp present => ?_, fun p hp now => ?_, fun n unrelated now => ?_,
    fun n changed => ?_⟩
  · exact tracked.reads _ _ inShape (inShape_receiveAll lawful fresh ms) same
  · have reported := tracked.reported_of_changed lawful inShape changed p hp
    have step := receive_leaf lawful inShape n (tracked.leaves p hp)
    simp only [reported, if_true] at step
    exact ⟨reported, step.2⟩
  · have step := receive_leaf lawful inShape n (tracked.leaves p hp)
    simp only [absent, if_false] at step
    exact step.2
  · have step := receive_leaf lawful inShape n (tracked.leaves p hp)
    simp only [present, if_true] at step
    exact step.1
  · exact tracked.staleAgeSeconds_eq lawful ns hp now
  · obtain ⟨p, hp, absent⟩ := unrelated
    refine Tracked.staleAgeSeconds_congr (fun q hq => ?_) now
    have silent : q ∉ product.runtime.reportedPaths
        (product.runtime.receiveAll product.runtime.createData ns) n :=
      fun reported => absent (tracked.jointly _ inShape n q hq p hp reported)
    have step := receive_leaf lawful inShape n (tracked.leaves q hq)
    simp only [silent, if_false] at step
    exact step.2
  · exact tracked.available_of_changed lawful inShape changed

private theorem venus_plan_built : ∃ plan, Venus.venusEntityProfile.buildEntityPlan
    Product.Venus.venusRuntime.createData = .ok plan := ⟨_, rfl⟩

/-- The Venus battery power, before and after a Wi-Fi name has been received. -/
theorem sensors_fresh_battery_power :
    let runtime := Product.Venus.venusRuntime
    let binding := Venus.venusEntityProfile.derivedEntity
      (derivedSensor "battery_power" "Battery Power"
        (batteryPower Venus.voltagePath Venus.currentPath) [Venus.voltagePath, Venus.currentPath])
    let data := runtime.receiveAll runtime.createData [⟨frameOf 0x08 [0x61], 5⟩]
    (∀ ms, let other := runtime.receiveAll runtime.createData ms
      (∀ p ∈ binding.stalePaths, data.tree.valueAt p = other.tree.valueAt p) →
        binding.valueFrom data.tree = binding.valueFrom other.tree) ∧
    (∀ n, binding.valueFrom (runtime.receive data n).tree ≠ binding.valueFrom data.tree →
      ∀ p ∈ binding.stalePaths, p ∈ runtime.reportedPaths data n ∧
        (runtime.receive data n).fieldUpdates (pathString p) = n.entry) ∧
    (∀ n, ∀ p ∈ binding.stalePaths, p ∉ runtime.reportedPaths data n →
      (runtime.receive data n).fieldUpdates (pathString p) = data.fieldUpdates (pathString p)) ∧
    (∀ n, ∀ p ∈ binding.stalePaths, p ∈ runtime.reportedPaths data n →
      (runtime.receive data n).tree.valueAt p = runtime.decoded n p) ∧
    (∀ p ∈ binding.stalePaths, ∀ now, binding.staleAgeSeconds data now =
      (runtime.lastReporter p runtime.createData [⟨frameOf 0x08 [0x61], 5⟩]).map
        fun n => now - n.time) ∧
    (∀ n, (∃ p ∈ binding.stalePaths, p ∉ runtime.reportedPaths data n) → ∀ now,
      binding.staleAgeSeconds (runtime.receive data n) now =
        binding.staleAgeSeconds data now) ∧
    (∀ n, binding.valueFrom (runtime.receive data n).tree ≠ binding.valueFrom data.tree →
      binding.available true (runtime.receive data n) n.time =
        binding.isPresent (runtime.receive data n).tree) := by
  obtain ⟨plan, built⟩ := venus_plan_built
  exact sensors_fresh (List.mem_cons_self :
      ({ runtime := Product.Venus.venusRuntime, entities := Venus.venusEntityProfile } :
        EntityProduct) ∈ entityProducts) [] [] built
    (Venus.venusEntityProfile.derivedEntity_mem_plan built List.mem_cons_self)
    [⟨frameOf 0x08 [0x61], 5⟩]

end MarstekBle.Entities
