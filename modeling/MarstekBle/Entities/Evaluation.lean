/- module: Entities/Evaluation
   source: custom_components/marstek_ble/entity.py, schema.py
   digest: Parsing, planning and reading any planned binding never raise, whatever was received. -/

import MarstekBle.Entities.Completion
import MarstekBle.Entities.Freshness
import MarstekBle.Product.Contents
import MarstekBle.Product.RedundantViews

/-!
A plan outlives the object it was built from, so its bindings read later objects
through paths and positions fixed long before. They stay inside: the shape of
the object never changes, its lists keep their lengths, and the leaves that are
calculated or counted with hold numbers or nothing.
-/

set_option autoImplicit false
set_option relaxedAutoImplicit false

namespace MarstekBle.Entities

open MarstekBle.Data MarstekBle.Schema MarstekBle.Product MarstekBle.Protocol
open MarstekBle.Lib.AttributeTree

/-! ### Calculations on measured leaves -/

private theorem measured_cases {v : Value} (measured : v.isMeasured = true) :
    v = .none ∨ (v ≠ .none ∧ ∃ q, v.toRat? = some q) := by
  by_cases unset : v = .none
  · exact .inl unset
  · refine .inr ⟨unset, Option.isSome_iff_exists.mp ?_⟩
    cases v <;> first | exact absurd rfl unset | exact measured

/-- The product of two numbers is a number. -/
private theorem multiply_finishes {left right : Value} {p q : ℚ} (hp : left.toRat? = some p)
    (hq : right.toRat? = some q) : ∃ v, multiply left right = .ok v ∧ v.isMeasured = true := by
  unfold multiply
  cases hl : left.toInt? with
  | none => exact ⟨.float (p * q), by simp [hp, hq], rfl⟩
  | some m =>
    cases hr : right.toInt? with
    | none => exact ⟨.float (p * q), by simp [hp, hq], rfl⟩
    | some n => exact ⟨.int (m * n), rfl, rfl⟩

private theorem negate_finishes {v : Value} {q : ℚ} (number : v.toRat? = some q) :
    ∃ w r, negate v = .ok w ∧ w.toRat? = some r := by
  unfold negate
  cases hv : v.toInt? with
  | none => exact ⟨.float (-q), -q, by simp [number], rfl⟩
  | some n => exact ⟨.int (-n), ((-n : Int) : ℚ), rfl, rfl⟩

private theorem atLeastZero_finishes {v : Value} {q : ℚ} (number : v.toRat? = some q) :
    ∃ w, atLeastZero v = .ok w := by
  rw [atLeastZero, number]
  exact ⟨_, rfl⟩

/-- The measured leaves of an object can be read. -/
def Measurable (measured : List DataPath) (t : DataTree) : Prop :=
  ∀ p ∈ measured, ∃ v, t.valueAt p = some v ∧ v.isMeasured = true

private theorem readValue_finishes {measured : List DataPath} {t : DataTree}
    (measurable : Measurable measured t) {p : DataPath} (listed : p ∈ measured) :
    ∃ v, readValue t p = .ok v ∧ v.isMeasured = true := by
  obtain ⟨v, held, number⟩ := measurable p listed
  refine ⟨v, ?_, number⟩
  rw [readValue, resolve_of_valueAt held]
  rfl

section BatteryPower

variable {measured : List DataPath} {t : DataTree} (measurable : Measurable measured t)
  {voltagePath currentPath : DataPath} (voltageListed : voltagePath ∈ measured)
  (currentListed : currentPath ∈ measured)

include measurable voltageListed currentListed

theorem batteryPower_finishes :
    ∃ v, batteryPower voltagePath currentPath t = .ok v ∧ v.isMeasured = true := by
  obtain ⟨voltage, hvoltage, measuredVoltage⟩ := readValue_finishes measurable voltageListed
  obtain ⟨current, hcurrent, measuredCurrent⟩ := readValue_finishes measurable currentListed
  simp only [batteryPower, hvoltage, hcurrent, ok_bind]
  rcases measured_cases measuredVoltage with rfl | ⟨setVoltage, p, hp⟩
  · exact ⟨.none, rfl, rfl⟩
  · rcases measured_cases measuredCurrent with rfl | ⟨setCurrent, q, hq⟩
    · exact ⟨.none, by cases voltage <;> rfl, rfl⟩
    · obtain ⟨v, product, number⟩ := multiply_finishes hp hq
      refine ⟨v, ?_, number⟩
      rw [← product]
      split
      · exact absurd rfl setVoltage
      · exact absurd rfl setCurrent
      · rfl

theorem batteryPowerIn_finishes : ∃ v, batteryPowerIn voltagePath currentPath t = .ok v := by
  obtain ⟨power, hpower, number⟩ :=
    batteryPower_finishes measurable voltageListed currentListed
  simp only [batteryPowerIn, hpower, ok_bind]
  rcases measured_cases number with rfl | ⟨setPower, q, hq⟩
  · exact ⟨.none, rfl⟩
  · obtain ⟨v, bounded⟩ := atLeastZero_finishes hq
    refine ⟨v, ?_⟩
    rw [← bounded]
    split
    · exact absurd rfl setPower
    · rfl

theorem batteryPowerOut_finishes : ∃ v, batteryPowerOut voltagePath currentPath t = .ok v := by
  obtain ⟨power, hpower, number⟩ :=
    batteryPower_finishes measurable voltageListed currentListed
  simp only [batteryPowerOut, hpower, ok_bind]
  rcases measured_cases number with rfl | ⟨setPower, q, hq⟩
  · exact ⟨.none, rfl⟩
  · obtain ⟨negated, r, hnegated, hr⟩ := negate_finishes hq
    obtain ⟨v, bounded⟩ := atLeastZero_finishes hr
    refine ⟨v, ?_⟩
    split
    · exact absurd rfl setPower
    · rw [hnegated, ok_bind, bounded]

end BatteryPower

theorem Venus.capacity_finishes {measured : List DataPath} {t : DataTree}
    (measurable : Measurable measured t) (socListed : Venus.socPath ∈ measured)
    (capacityListed : Venus.capacityPath ∈ measured) (available : Bool) :
    ∃ v, Venus.capacity available t = .ok v := by
  obtain ⟨soc, hsoc, measuredSoc⟩ := readValue_finishes measurable socListed
  obtain ⟨capacity, hcapacity, measuredCapacity⟩ := readValue_finishes measurable capacityListed
  simp only [Venus.capacity, hsoc, hcapacity, ok_bind]
  rcases measured_cases measuredSoc with rfl | ⟨setSoc, p, hp⟩
  · exact ⟨.none, rfl⟩
  · rcases measured_cases measuredCapacity with rfl | ⟨setCapacity, q, hq⟩
    · exact ⟨.none, by cases soc <;> rfl⟩
    · refine ⟨.float ((if available then 100 - p else p) / 100 * q), ?_⟩
      split
      · exact absurd rfl setSoc
      · exact absurd rfl setCapacity
      · rw [hp, hq]
        rfl

/-! ### Bindings that stay inside -/

/-- The position that a path ends with, if it does, lies in the list before it. -/
def positionFits (runtime : ProductRuntime) (path : DataPath) : Bool :=
  match path.getLast? with
  | some (.index i) => (freshLength runtime path.dropLast).any (i < ·)
  | _ => true

/-- The path leads to a leaf, or to a position inside the list at a leaf. -/
def LeadsInside (runtime : ProductRuntime) (path : DataPath) : Prop :=
  runtime.createData.tree.IsLeaf (leafOf path) ∧ positionFits runtime path = true

/-- The binding reads one such path, and its presence a measured leaf. -/
def ReadsInside (runtime : ProductRuntime) (measured : List DataPath)
    (binding : EntityBinding) : Prop :=
  binding.valueFn.isNone = true ∧ (∃ path ∈ binding.path, LeadsInside runtime path) ∧
    ∀ presence ∈ binding.presence, presence.countPath ∈ measured

instance (runtime : ProductRuntime) (path : DataPath) : Decidable (LeadsInside runtime path) :=
  inferInstanceAs (Decidable (_ ∧ _))

instance (runtime : ProductRuntime) (measured : List DataPath) (binding : EntityBinding) :
    Decidable (ReadsInside runtime measured binding) :=
  inferInstanceAs (Decidable (_ ∧ _ ∧ _))

/-- What makes every reachable object of a product safe to plan from and to read. -/
structure Evaluable (product : EntityProduct) (measured : List DataPath) : Prop where
  lawful : Lawful product.runtime
  respects : Respects product.runtime (Kept product.runtime measured)
  room : roomy (product.runtime.createData.tree.map Value.listLength) = true
  leaves : ∀ p ∈ measured, product.runtime.createData.tree.IsLeaf p
  counts : ∀ p ∈ countPaths product.runtime.createData.tree, p ∈ measured
  fields : ∀ binding ∈ product.entities.fieldCatalogue,
    ReadsInside product.runtime measured binding
  derived : ∀ spec ∈ product.entities.derivedEntities, ∀ t, Measurable measured t →
    ∃ v, spec.valueFn t = .ok v

section Runtime

variable {runtime : ProductRuntime} {measured : List DataPath} {data : TrackedProductData}

private theorem measurable_of_kept (leaves : ∀ p ∈ measured, runtime.createData.tree.IsLeaf p)
    (inShape : InShape runtime data) (kept : data.tree.Obeys (Kept runtime measured)) :
    Measurable measured data.tree := by
  intro p listed
  obtain ⟨v, held⟩ := Option.isSome_iff_exists.mp
    ((isLeaf_of_inShape inShape p).mpr (leaves p listed))
  exact ⟨v, held, (kept p v held).2 listed⟩

/-- A path that leads inside resolves on every object in shape whose lists have kept
their lengths. -/
private theorem resolve_finishes {path : DataPath} (inside : LeadsInside runtime path)
    (inShape : InShape runtime data) (kept : data.tree.Obeys (Kept runtime measured)) :
    ∃ v, resolve data.tree path = .ok v := by
  obtain ⟨leaf, within⟩ := inside
  obtain ⟨v, held⟩ := Option.isSome_iff_exists.mp ((isLeaf_of_inShape inShape _).mpr leaf)
  have length := (kept _ v held).1
  have found := resolve_of_valueAt held
  unfold leafOf at found length
  unfold positionFits at within
  split at within
  · rename_i i last
    simp only [last] at found length
    have whole : path.dropLast ++ [.index i] = path :=
      List.dropLast_append_getLast? _ last
    cases hf : freshLength runtime path.dropLast with
    | none => simp [hf] at within
    | some n =>
      have below : i < n := by simpa [hf] using within
      rw [hf] at length
      cases v with
      | list members =>
        have sized : members.length = n := by simpa [Value.listLength] using length
        refine ⟨.value members[i], ?_⟩
        rw [← whole, resolve_append, found]
        simp [resolve, subscript, List.getElem?_eq_getElem (sized ▸ below)]
      | none => cases length
      | bool b => cases length
      | int k => cases length
      | float q => cases length
      | str text => cases length
      | tuple members => cases length
  · rename_i plain
    refine ⟨.value v, ?_⟩
    split at found
    · rename_i i last
      exact absurd last (plain i)
    · exact found

private theorem countOf_finishes {v : Value} (measuredValue : v.isMeasured = true)
    (maximum : Nat) : ∃ n, countOf v maximum = .ok n := by
  cases v with
  | none => exact ⟨0, rfl⟩
  | bool b => exact ⟨_, rfl⟩
  | int n => exact ⟨_, rfl⟩
  | float q => exact ⟨_, rfl⟩
  | str text => cases measuredValue
  | tuple members => cases measuredValue
  | list members => cases measuredValue

private theorem isPresent_finishes {binding : EntityBinding}
    (counted : ∀ presence ∈ binding.presence, presence.countPath ∈ measured)
    (measurable : Measurable measured data.tree) :
    ∃ present, binding.isPresent data.tree = .ok present := by
  cases hp : binding.presence with
  | none => exact ⟨true, by rw [EntityBinding.isPresent, hp]⟩
  | some presence =>
    obtain ⟨v, held, number⟩ := measurable presence.countPath (counted presence hp)
    obtain ⟨n, hn⟩ := countOf_finishes number presence.maximumCount
    refine ⟨decide (presence.index < n), ?_⟩
    simp only [EntityBinding.isPresent, hp, PresenceBinding.isPresent, resolve_of_valueAt held,
      ok_bind, hn]
    rfl

/-- Every binding of the catalogue reads every object whose contents are kept. -/
private theorem binding_finishes {product : EntityProduct} (safe : Evaluable product measured)
    {binding : EntityBinding} (listed : binding ∈ product.entities.catalogue)
    (inShape : InShape product.runtime data)
    (kept : data.tree.Obeys (Kept product.runtime measured)) :
    (∃ value, binding.valueFrom data.tree = .ok value) ∧
      ∃ present, binding.isPresent data.tree = .ok present := by
  have measurable := measurable_of_kept safe.leaves inShape kept
  rw [EntityProfile.catalogue, List.mem_append] at listed
  rcases listed with field | calculated
  · obtain ⟨direct, ⟨path, hpath, inside⟩, counted⟩ := safe.fields binding field
    obtain ⟨value, resolved⟩ := resolve_finishes inside inShape kept
    refine ⟨⟨value, ?_⟩, isPresent_finishes counted measurable⟩
    have noFn : binding.valueFn = none := Option.isNone_iff_eq_none.mp direct
    have onPath : binding.path = some path := hpath
    simp only [EntityBinding.valueFrom, noFn, onPath, resolved]
  · obtain ⟨spec, declared, rfl⟩ := List.mem_map.mp calculated
    obtain ⟨v, calculates⟩ := safe.derived spec declared data.tree measurable
    refine ⟨⟨.value v, ?_⟩, true, rfl⟩
    simp only [EntityBinding.valueFrom, EntityProfile.derivedEntity, calculates]
    rfl

private theorem plan_finishes {product : EntityProduct} (safe : Evaluable product measured)
    (inShape : InShape product.runtime data)
    (kept : data.tree.Obeys (Kept product.runtime measured))
    (lengths : data.tree.map Value.listLength =
      product.runtime.createData.tree.map Value.listLength)
    (configuredCounts : List (String × Int)) :
    ∃ plan, product.entities.buildEntityPlan data configuredCounts = .ok plan := by
  have measurable := measurable_of_kept safe.leaves inShape kept
  have readable : CountsReadable data.tree := by
    intro p hp
    have same : countPaths data.tree = countPaths product.runtime.createData.tree := by
      rw [← countPaths_map Value.listLength data.tree, lengths, countPaths_map]
    obtain ⟨v, held, number⟩ := measurable p (safe.counts p (same ▸ hp))
    exact ⟨v, held, countOf_finishes number⟩
  have room : roomy (data.tree.map Value.listLength) = true := by
    rw [lengths]
    exact safe.room
  obtain ⟨collected, walked⟩ := collect_finishes
    (wellFormed_congr inShape.shape.symm safe.lawful.wellFormed) room readable
    product.entities.rootScope
  have named : data.dataType.name = product.entities.dataType.name := by
    rw [inShape.dataType, product.sameProfile]
  unfold EntityProfile.buildEntityPlan
  rw [if_neg (not_not.mpr named), walked]
  exact ⟨_, rfl⟩

end Runtime

/-! ### The products -/

namespace Venus

theorem evaluable : Evaluable ⟨Product.Venus.venusRuntime, venusEntityProfile, rfl⟩
    Product.Venus.measuredPaths where
  lawful := Product.Venus.venusRuntime_lawful
  respects := Product.Venus.respects_measured
  room := by decide +kernel
  leaves := by decide
  counts := by decide +kernel
  fields := by decide +kernel
  derived := by
    have listed : ∀ p ∈ [voltagePath, currentPath, socPath, capacityPath],
        p ∈ Product.Venus.measuredPaths := by decide
    have voltage := listed voltagePath (by simp)
    have current := listed currentPath (by simp)
    have soc := listed socPath (by simp)
    have capacity := listed capacityPath (by simp)
    intro spec declared t measurable
    simp only [venusEntityProfile, List.mem_cons, List.not_mem_nil, or_false] at declared
    rcases declared with rfl | rfl | rfl | rfl | rfl
    · obtain ⟨v, power, _⟩ := batteryPower_finishes measurable voltage current
      exact ⟨v, power⟩
    · exact batteryPowerIn_finishes measurable voltage current
    · exact batteryPowerOut_finishes measurable voltage current
    · exact capacity_finishes measurable soc capacity false
    · exact capacity_finishes measurable soc capacity true

end Venus

namespace Jupiter

theorem evaluable : Evaluable ⟨Product.Jupiter.jupiterRuntime, jupiterEntityProfile, rfl⟩
    Product.Jupiter.measuredPaths where
  lawful := Product.Jupiter.jupiterRuntime_lawful
  respects := Product.Jupiter.respects_measured
  room := by decide +kernel
  leaves := by decide
  counts := by decide +kernel
  fields := by decide +kernel
  derived := by
    have listed : ∀ p ∈ [voltagePath, currentPath], p ∈ Product.Jupiter.measuredPaths := by
      decide
    have voltage := listed voltagePath (by simp)
    have current := listed currentPath (by simp)
    intro spec declared t measurable
    simp only [jupiterEntityProfile, List.mem_cons, List.not_mem_nil, or_false] at declared
    rcases declared with rfl | rfl | rfl
    · obtain ⟨v, power, _⟩ := batteryPower_finishes measurable voltage current
      exact ⟨v, power⟩
    · exact batteryPowerIn_finishes measurable voltage current
    · exact batteryPowerOut_finishes measurable voltage current

end Jupiter

theorem evaluable_of_mem {product : EntityProduct} (registered : product ∈ entityProducts) :
    ∃ measured, Evaluable product measured := by
  simp only [entityProducts, List.mem_cons, List.not_mem_nil, or_false] at registered
  rcases registered with rfl | rfl
  · exact ⟨_, Venus.evaluable⟩
  · exact ⟨_, Jupiter.evaluable⟩

/-- A plan is built from whatever was received. -/
theorem plan_of_received {product : EntityProduct} (registered : product ∈ entityProducts)
    (ns : List Notification) (configuredCounts : List (String × Int)) :
    ∃ plan, product.entities.buildEntityPlan
      (product.runtime.receiveAll product.runtime.createData ns) configuredCounts = .ok plan := by
  obtain ⟨measured, safe⟩ := evaluable_of_mem registered
  have inShape := inShape_receiveAll safe.lawful (inShape_createData product.runtime) ns
  obtain ⟨kept, lengths, _⟩ := kept_receiveAll safe.lawful safe.respects ns
  exact plan_finishes safe inShape kept lengths configuredCounts

/-- Lists keep their lengths and nothing raises. After any notifications every list is as
long as it was at construction, every packet parses every payload it admits, and a plan
is built whatever counts are configured; after any further notifications every binding
of that plan still has a value and a presence. -/
theorem evaluation_never_raises {product : EntityProduct} (registered : product ∈ entityProducts)
    (ns : List Notification) :
    let runtime := product.runtime
    let data := runtime.receiveAll runtime.createData ns
    (∀ p, lengthAt data.tree p = lengthAt runtime.createData.tree p) ∧
    (∀ (packet : PacketSchema) (payload : Bytes), packet.Admits payload.length →
      ∃ updates, iterParsedFields payload packet data.tree = .ok updates) ∧
    ∀ configuredCounts : List (String × Int), ∃ plan,
      product.entities.buildEntityPlan data configuredCounts = .ok plan ∧
      ∀ later, let after := runtime.receiveAll data later
        ∀ binding ∈ plan.entities, (∃ value, binding.valueFrom after.tree = .ok value) ∧
          ∃ present, binding.isPresent after.tree = .ok present := by
  obtain ⟨measured, safe⟩ := evaluable_of_mem registered
  have fresh := inShape_createData product.runtime
  have inShape := inShape_receiveAll safe.lawful fresh ns
  obtain ⟨_, _, lengthsAt⟩ := kept_receiveAll safe.lawful safe.respects ns
  refine ⟨lengthsAt, fun packet payload admits => ?_, fun configuredCounts => ?_⟩
  · obtain ⟨_, _, parses⟩ := schema_effect safe.lawful admits
    obtain ⟨updates, parsed, _⟩ := parses _ inShape
    exact ⟨updates, parsed⟩
  · obtain ⟨plan, built⟩ := plan_of_received registered ns configuredCounts
    refine ⟨plan, built, fun later binding listed => ?_⟩
    have shape : (product.runtime.receiveAll product.runtime.createData ns).tree.shape =
        (.record product.entities.dataType.fields : DataTree).shape := by
      rw [inShape.shape, product.sameProfile]
      rfl
    have catalogued := (product.entities.plan_sublist_catalogue shape built).subset listed
    have run : product.runtime.receiveAll
        (product.runtime.receiveAll product.runtime.createData ns) later =
        product.runtime.receiveAll product.runtime.createData (ns ++ later) :=
      List.foldl_append.symm
    rw [run]
    exact binding_finishes safe catalogued (inShape_receiveAll safe.lawful fresh (ns ++ later))
      (kept_receiveAll safe.lawful safe.respects (ns ++ later)).1

/-- A telemetry payload that declares two battery packs. -/
def twoPacks : Bytes := (List.replicate 166 0).set 0x76 2

/-- The telemetry reply sets the count that the items of the packs are planned by. -/
private theorem packCount_twoPacks (n : Notification) (time : ℚ) :
    (Product.Jupiter.jupiterRuntime.receiveAll Product.Jupiter.jupiterRuntime.createData
      [n, ⟨frameOf 0x14 twoPacks, time⟩]).tree.valueAt
        [.attr "battery", .attr "pack_count"] = some (.int 2) := by
  have inShape := inShape_receive Product.Jupiter.jupiterRuntime_lawful
    (inShape_createData _) n
  have owned : OwnedBy Product.Jupiter.jupiterRuntime Product.Jupiter.detailedTelemetry
      [[.attr "battery", .attr "pack_count"]] :=
    Product.Jupiter.ownedBy_of_plainly (by decide) (by decide) (by decide)
  have long : twoPacks.length = 166 := by rw [twoPacks, List.length_set, List.length_replicate]
  have fits : twoPacks.length ≤ 250 := by rw [long]; decide
  have admits : Product.Jupiter.detailedTelemetry.Admits twoPacks.length := by rw [long]; decide
  have count : integerAt .H twoPacks (0 + 0x76) = 2 := by decide +kernel
  rw [ProductRuntime.receiveAll, List.foldl_cons, List.foldl_cons, List.foldl_nil,
    owned.valueAt_receive Product.Jupiter.jupiterRuntime_lawful inShape fits admits rfl
      List.mem_cons_self]
  exact fieldOf_little rfl (by rw [count]; rfl)

/-- The Jupiter after replies with its events and with the count of its packs. -/
theorem evaluation_never_raises_jupiter :
    let product : EntityProduct :=
      ⟨Product.Jupiter.jupiterRuntime, Jupiter.jupiterEntityProfile, rfl⟩
    let runtime := product.runtime
    let ns : List Notification :=
      [⟨frameOf 0x13 (List.replicate 160 1), 0⟩, ⟨frameOf 0x14 twoPacks, 1⟩]
    let data := runtime.receiveAll runtime.createData ns
    data.tree.valueAt [.attr "battery", .attr "pack_count"] = some (.int 2) ∧
    (∀ p, lengthAt data.tree p = lengthAt runtime.createData.tree p) ∧
    (∀ (packet : PacketSchema) (payload : Bytes), packet.Admits payload.length →
      ∃ updates, iterParsedFields payload packet data.tree = .ok updates) ∧
    ∀ configuredCounts : List (String × Int), ∃ plan,
      product.entities.buildEntityPlan data configuredCounts = .ok plan ∧
      ∀ later, let after := runtime.receiveAll data later
        ∀ binding ∈ plan.entities, (∃ value, binding.valueFrom after.tree = .ok value) ∧
          ∃ present, binding.isPresent after.tree = .ok present := by
  refine ⟨packCount_twoPacks ⟨frameOf 0x13 (List.replicate 160 1), 0⟩ 1, ?_⟩
  exact evaluation_never_raises (List.mem_cons_of_mem _ List.mem_cons_self)
    [⟨frameOf 0x13 (List.replicate 160 1), 0⟩, ⟨frameOf 0x14 twoPacks, 1⟩]

end MarstekBle.Entities
