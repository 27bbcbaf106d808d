/- module: Entities/Manager
   source: custom_components/marstek_ble/product_entity_platform.py
   digest: The entity manager adds every planned entity once, whenever adding fails. -/

import MarstekBle.Entities.Evaluation

set_option autoImplicit false
set_option relaxedAutoImplicit false

namespace MarstekBle.Entities

open MarstekBle.Data MarstekBle.Schema MarstekBle.Product MarstekBle.Lib.AttributeTree

/-- The binding the manager uses: an indexed scalar of the main device has a key of
its own for each index, and drops the one its position gives it. -/
def liveBinding (binding : EntityBinding) : EntityBinding :=
  match binding.path, binding.path.bind List.getLast?, binding.repeatedKey with
  | some path, some (.index index), some key =>
    if binding.device.key = "main" ∧ key = pathString path.dropLast ++ "_" ++ toString index then
      { binding with repeatedKey := none }
    else binding
  | _, _, _ => binding

/-- The key an entity is registered under. -/
def liveKey (binding : EntityBinding) : String := (liveBinding binding).uniqueKey

structure ProductEntityManager where
  platform : EntityPlatform
  knownKeys : List String := []

namespace ProductEntityManager

/-- The bindings of a plan that belong to the manager's platform, as it uses them. -/
def planned (manager : ProductEntityManager) (plan : EntityPlan) : List EntityBinding :=
  (plan.entities.filter (·.platform = manager.platform)).map liveBinding

/-- `new_entities`. -/
def newEntities (manager : ProductEntityManager) (plan : EntityPlan) : List EntityBinding :=
  (manager.planned plan).filter (·.uniqueKey ∉ manager.knownKeys)

/-- One call of `sync`, given what the add callback does with the entities it is handed:
the entities that were added, and the manager afterwards. -/
def sync (manager : ProductEntityManager) (profile : EntityProfile)
    (data : Option TrackedProductData) (addEntities : List EntityBinding → Raises Unit) :
    Raises (List EntityBinding) × ProductEntityManager :=
  match data with
  | none => (.ok [], manager)
  | some data => match profile.buildEntityPlan data with
    | .error e => (.error e, manager)
    | .ok plan =>
      let entities := manager.newEntities plan
      if entities.isEmpty then (.ok [], manager)
      else match addEntities entities with
        | .error e => (.error e, manager)
        | .ok () => (.ok entities, { manager with
            knownKeys := manager.knownKeys ++ entities.map EntityBinding.uniqueKey })

/-- The call hands these entities to the callback, whatever that does with them, and ends
as it does. -/
def Offers (manager : ProductEntityManager) (profile : EntityProfile)
    (data : TrackedProductData) (entities : List EntityBinding) : Prop :=
  ∀ addEntities, (manager.sync profile (some data) addEntities).1 =
    (addEntities entities).map fun _ => entities

end ProductEntityManager

/-! ### Runs -/

/-- The coordinator's data, one manager, and the keys added so far. -/
structure PlatformState where
  data : TrackedProductData
  manager : ProductEntityManager
  added : List String

inductive PlatformEvent where
  | received (n : Notification)
  | synced (addEntities : List EntityBinding → Raises Unit)

namespace EntityProduct

def start (product : EntityProduct) (platform : EntityPlatform) : PlatformState :=
  ⟨product.runtime.createData, { platform }, []⟩

def step (product : EntityProduct) (state : PlatformState) : PlatformEvent → PlatformState
  | .received n => { state with data := product.runtime.receive state.data n }
  | .synced addEntities =>
    let (result, manager) := state.manager.sync product.entities (some state.data) addEntities
    let keys := match result with
      | .ok entities => entities.map EntityBinding.uniqueKey
      | .error _ => []
    { state with manager, added := state.added ++ keys }

def run (product : EntityProduct) (state : PlatformState) (events : List PlatformEvent) :
    PlatformState :=
  events.foldl product.step state

/-- After any further notifications, the next call offers each of these entities' keys
that the plan then lists. -/
def OffersAgain (product : EntityProduct) (state : PlatformState)
    (refused : List EntityBinding) : Prop :=
  ∀ ns : List Notification,
    let next := product.run state (ns.map .received)
    ∃ plan, product.entities.buildEntityPlan next.data = .ok plan ∧
      ∀ binding ∈ refused,
        binding.uniqueKey ∈ (next.manager.planned plan).map EntityBinding.uniqueKey →
        ∃ entities, next.manager.Offers product.entities next.data entities ∧
          binding.uniqueKey ∈ entities.map EntityBinding.uniqueKey

end EntityProduct

/-! ### One call -/

namespace ProductEntityManager

theorem mem_newEntities_iff (manager : ProductEntityManager) (plan : EntityPlan) (key : String) :
    key ∈ (manager.newEntities plan).map EntityBinding.uniqueKey ↔
      key ∈ (manager.planned plan).map EntityBinding.uniqueKey ∧ key ∉ manager.knownKeys := by
  simp only [newEntities, List.mem_map, List.mem_filter, decide_eq_true_eq]
  constructor
  · rintro ⟨binding, ⟨listed, unknown⟩, rfl⟩
    exact ⟨⟨binding, listed, rfl⟩, unknown⟩
  · rintro ⟨⟨binding, listed, rfl⟩, unknown⟩
    exact ⟨binding, ⟨listed, unknown⟩, rfl⟩

section Sync

variable (manager : ProductEntityManager) {profile : EntityProfile} {data : TrackedProductData}
  {plan : EntityPlan}

/-- Where there is something new, the call offers exactly that. -/
theorem offers_newEntities (built : profile.buildEntityPlan data = .ok plan)
    (something : manager.newEntities plan ≠ []) :
    manager.Offers profile data (manager.newEntities plan) := by
  intro addEntities
  cases added : addEntities (manager.newEntities plan) with
  | error e => simp [sync, built, something, added, Except.map]
  | ok u => simp [sync, built, something, added, Except.map]

/-- A call with nothing to add, or whose callback returns, records the keys it added. -/
theorem sync_of_added (built : profile.buildEntityPlan data = .ok plan)
    {addEntities : List EntityBinding → Raises Unit} (added : manager.newEntities plan = [] ∨
      addEntities (manager.newEntities plan) = .ok ()) :
    manager.sync profile (some data) addEntities = (.ok (manager.newEntities plan),
      { manager with knownKeys := manager.knownKeys ++
          (manager.newEntities plan).map EntityBinding.uniqueKey }) := by
  by_cases nothing : manager.newEntities plan = []
  · simp [sync, built, nothing]
  · simp [sync, built, nothing, added.resolve_left nothing]

/-- A call whose callback raises leaves the manager as it was. -/
theorem sync_of_refused (built : profile.buildEntityPlan data = .ok plan)
    (something : manager.newEntities plan ≠ [])
    {addEntities : List EntityBinding → Raises Unit} {e : PyError}
    (refused : addEntities (manager.newEntities plan) = .error e) :
    manager.sync profile (some data) addEntities = (.error e, manager) := by
  simp [sync, built, something, refused]

/-- What one call can do: it adds the new entities and records their keys, or it
records nothing, because something raised. -/
theorem sync_cases (manager : ProductEntityManager) (profile : EntityProfile)
    (data : TrackedProductData) (addEntities : List EntityBinding → Raises Unit) :
    (∃ e, manager.sync profile (some data) addEntities = (.error e, manager)) ∨
    ∃ plan, profile.buildEntityPlan data = .ok plan ∧
      manager.sync profile (some data) addEntities = (.ok (manager.newEntities plan),
        { manager with knownKeys := manager.knownKeys ++
            (manager.newEntities plan).map EntityBinding.uniqueKey }) := by
  cases built : profile.buildEntityPlan data with
  | error e => exact .inl ⟨e, by simp [sync, built]⟩
  | ok plan =>
    by_cases nothing : manager.newEntities plan = []
    · exact .inr ⟨plan, rfl, manager.sync_of_added built (.inl nothing)⟩
    · cases added : addEntities (manager.newEntities plan) with
      | error e => exact .inl ⟨e, manager.sync_of_refused built nothing added⟩
      | ok u => exact .inr ⟨plan, rfl, manager.sync_of_added built (.inr added)⟩

/-- A call with nothing to add, or whose callback returns, leaves every key of the plan
known. -/
theorem planned_known_of_added (built : profile.buildEntityPlan data = .ok plan)
    {addEntities : List EntityBinding → Raises Unit} (added : manager.newEntities plan = [] ∨
      addEntities (manager.newEntities plan) = .ok ()) {binding : EntityBinding}
    (listed : binding ∈ manager.planned plan) :
    binding.uniqueKey ∈ (manager.sync profile (some data) addEntities).2.knownKeys := by
  rw [manager.sync_of_added built added]
  have planned := List.mem_map_of_mem (f := EntityBinding.uniqueKey) listed
  show binding.uniqueKey ∈
    manager.knownKeys ++ (manager.newEntities plan).map EntityBinding.uniqueKey
  rw [List.mem_append]
  by_cases known : binding.uniqueKey ∈ manager.knownKeys
  · exact .inl known
  · exact .inr ((manager.mem_newEntities_iff plan binding.uniqueKey).mpr ⟨planned, known⟩)

/-- A key of the plan that the manager does not know is among what the call offers. -/
theorem offers_unknown (built : profile.buildEntityPlan data = .ok plan) {key : String}
    (listed : key ∈ (manager.planned plan).map EntityBinding.uniqueKey)
    (unknown : key ∉ manager.knownKeys) : ∃ entities,
      manager.Offers profile data entities ∧ key ∈ entities.map EntityBinding.uniqueKey := by
  have new := (manager.mem_newEntities_iff plan key).mpr ⟨listed, unknown⟩
  refine ⟨_, manager.offers_newEntities built ?_, new⟩
  intro nothing
  rw [nothing] at new
  cases new

end Sync

end ProductEntityManager

/-! ### The keys of a product -/

set_option maxRecDepth 20000 in
private theorem nodup_venusKeys : (Venus.venusEntityProfile.catalogue.map liveKey).Nodup := by
  decide +kernel

set_option maxRecDepth 20000 in
private theorem nodup_jupiterKeys : (Jupiter.jupiterEntityProfile.catalogue.map liveKey).Nodup := by
  decide +kernel

/-- No two entities of a product have one key, whatever their platforms. -/
theorem nodup_liveKeys {product : EntityProduct} (registered : product ∈ entityProducts) :
    (product.entities.catalogue.map liveKey).Nodup := by
  simp only [entityProducts, List.mem_cons, List.not_mem_nil, or_false] at registered
  rcases registered with rfl | rfl
  · exact nodup_venusKeys
  · exact nodup_jupiterKeys

/-- Any plan of the product has one entity for each of its keys. -/
theorem nodup_planned {product : EntityProduct} (registered : product ∈ entityProducts)
    {data : TrackedProductData} (inShape : InShape product.runtime data) {plan : EntityPlan}
    (built : product.entities.buildEntityPlan data = .ok plan)
    (manager : ProductEntityManager) :
    ((manager.planned plan).map EntityBinding.uniqueKey).Nodup := by
  have shape : data.tree.shape =
      (.record product.entities.dataType.fields : DataTree).shape := by
    rw [inShape.shape, product.sameProfile]
    rfl
  have listed : ((manager.planned plan).map EntityBinding.uniqueKey).Sublist
      (product.entities.catalogue.map liveKey) := by
    rw [ProductEntityManager.planned, List.map_map]
    exact (List.filter_sublist.trans (product.entities.plan_sublist_catalogue shape built)).map
      liveKey
  exact (nodup_liveKeys registered).sublist listed

/-! ### Invariant -/

/-- The data object is what some notifications left, and the manager knows exactly the
keys it has added. -/
structure Invariant (product : EntityProduct) (state : PlatformState) : Prop where
  received : ∃ ns, state.data = product.runtime.receiveAll product.runtime.createData ns
  recorded : state.manager.knownKeys = state.added
  once : state.added.Nodup

theorem invariant_start (product : EntityProduct) (platform : EntityPlatform) :
    Invariant product (product.start platform) :=
  ⟨⟨[], rfl⟩, rfl, List.nodup_nil⟩

theorem Invariant.inShape {product : EntityProduct} (registered : product ∈ entityProducts)
    {state : PlatformState} (inv : Invariant product state) :
    InShape product.runtime state.data := by
  obtain ⟨ns, received⟩ := inv.received
  have lawful := lawful_of_mem (runtime_mem_of_entityProducts registered)
  rw [received]
  exact inShape_receiveAll lawful (inShape_createData product.runtime) ns

/-- A plan can be built in every state of a run. -/
theorem Invariant.plan {product : EntityProduct} (registered : product ∈ entityProducts)
    {state : PlatformState} (inv : Invariant product state) :
    ∃ plan, product.entities.buildEntityPlan state.data = .ok plan := by
  obtain ⟨ns, received⟩ := inv.received
  rw [received]
  exact plan_of_received registered ns []

theorem invariant_step {product : EntityProduct} (registered : product ∈ entityProducts)
    {state : PlatformState} (inv : Invariant product state) (event : PlatformEvent) :
    Invariant product (product.step state event) := by
  cases event with
  | received n =>
    obtain ⟨ns, received⟩ := inv.received
    refine ⟨⟨ns ++ [n], ?_⟩, inv.recorded, inv.once⟩
    rw [ProductRuntime.receiveAll, List.foldl_append]
    exact congrArg (product.runtime.receive · n) received
  | synced addEntities =>
    rcases state.manager.sync_cases product.entities state.data addEntities with
      ⟨e, failed⟩ | ⟨plan, built, added⟩
    · simp only [EntityProduct.step, failed, List.append_nil]
      exact inv
    · simp only [EntityProduct.step, added]
      refine ⟨inv.received, by rw [inv.recorded], ?_⟩
      rw [List.nodup_append]
      refine ⟨inv.once, ?_, ?_⟩
      · have planned := nodup_planned registered (inv.inShape registered) built state.manager
        exact planned.sublist (List.filter_sublist.map EntityBinding.uniqueKey)
      · rintro known hknown fresh hfresh rfl
        have unknown := ((state.manager.mem_newEntities_iff plan known).mp hfresh).2
        rw [inv.recorded] at unknown
        exact unknown hknown

theorem invariant_run {product : EntityProduct} (registered : product ∈ entityProducts)
    {state : PlatformState} (inv : Invariant product state) (events : List PlatformEvent) :
    Invariant product (product.run state events) := by
  induction events generalizing state with
  | nil => exact inv
  | cons event events ih => exact ih (invariant_step registered inv event)

/-- Known keys are never removed. -/
theorem known_run {product : EntityProduct} {key : String} (events : List PlatformEvent) :
    ∀ {state : PlatformState}, key ∈ state.manager.knownKeys →
      key ∈ (product.run state events).manager.knownKeys := by
  induction events with
  | nil => exact fun known => known
  | cons event events ih =>
    intro state known
    have kept : key ∈ (product.step state event).manager.knownKeys := by
      cases event with
      | received n => exact known
      | synced addEntities =>
        rcases state.manager.sync_cases product.entities state.data addEntities with
          ⟨e, failed⟩ | ⟨plan, _, added⟩
        · simpa only [EntityProduct.step, failed] using known
        · simp only [EntityProduct.step, added]
          exact List.mem_append_left _ known
    exact ih kept

/-- Notifications leave the manager alone. -/
theorem manager_received {product : EntityProduct} (ns : List Notification) :
    ∀ state : PlatformState, (product.run state (ns.map .received)).manager = state.manager := by
  induction ns with
  | nil => exact fun _ => rfl
  | cons n ns ih => exact fun state => ih (product.step state (.received n))

/-- The manager never duplicates and never loses an entity. In any run of data updates
and calls, for either platform of either product, every key is added at most once, and
known keys stay known. In every state a plan is built, and the next call hands what is
new in it to the callback. If there is nothing new or the callback returns, the call
succeeds, and every key of the plan is known. If the callback raises, the call raises,
records nothing, and what it offered is offered again. -/
theorem entities_added_once {product : EntityProduct} (registered : product ∈ entityProducts)
    (platform : EntityPlatform) (events : List PlatformEvent) :
    let state := product.run (product.start platform) events
    let sync := state.manager.sync product.entities (some state.data)
    state.added.Nodup ∧ state.manager.knownKeys = state.added ∧
    (∀ key ∈ state.manager.knownKeys, ∀ later,
      key ∈ (product.run state later).manager.knownKeys) ∧
    ∃ plan, product.entities.buildEntityPlan state.data = .ok plan ∧
      let offered := state.manager.newEntities plan
      (offered ≠ [] → state.manager.Offers product.entities state.data offered) ∧
      (∀ addEntities, offered = [] ∨ addEntities offered = .ok () →
        (sync addEntities).1 = .ok offered ∧
        ∀ binding ∈ state.manager.planned plan,
          binding.uniqueKey ∈ (sync addEntities).2.knownKeys) ∧
      ∀ addEntities e, offered ≠ [] → addEntities offered = .error e →
        sync addEntities = (.error e, state.manager) ∧
        product.OffersAgain (product.step state (.synced addEntities)) offered := by
  have inv := invariant_run registered (invariant_start product platform) events
  refine ⟨inv.once, inv.recorded, fun key known later => known_run later known, ?_⟩
  generalize product.run (product.start platform) events = state at inv
  obtain ⟨plan, built⟩ := inv.plan registered
  refine ⟨plan, built, state.manager.offers_newEntities built, ?_, ?_⟩
  · intro addEntities added
    refine ⟨?_, fun binding listed => state.manager.planned_known_of_added built added listed⟩
    rw [state.manager.sync_of_added built added]
  · intro addEntities e something refused
    have failed := state.manager.sync_of_refused built something refused
    refine ⟨failed, fun ns => ?_⟩
    have same : (product.run (product.step state (.synced addEntities))
        (ns.map .received)).manager = state.manager := by
      rw [manager_received]
      simp only [EntityProduct.step, failed]
    have later := invariant_run registered (invariant_step registered inv (.synced addEntities))
      (ns.map .received)
    obtain ⟨next, replanned⟩ := later.plan registered
    refine ⟨next, replanned, fun binding new listed => ?_⟩
    have refusedKey := List.mem_map_of_mem (f := EntityBinding.uniqueKey) new
    have unknown := ((state.manager.mem_newEntities_iff plan binding.uniqueKey).mp refusedKey).2
    refine ProductEntityManager.offers_unknown _ replanned listed ?_
    rwa [same]

/-- The Jupiter sensors, after a call whose add raised. -/
theorem entities_added_once_jupiter :
    let product : EntityProduct :=
      { runtime := Product.Jupiter.jupiterRuntime, entities := Jupiter.jupiterEntityProfile }
    let state := product.run (product.start .sensor)
      [.synced fun _ => .error ⟨.typeError, "add failed"⟩]
    let sync := state.manager.sync product.entities (some state.data)
    state.added.Nodup ∧ state.manager.knownKeys = state.added ∧
    (∀ key ∈ state.manager.knownKeys, ∀ later,
      key ∈ (product.run state later).manager.knownKeys) ∧
    ∃ plan, product.entities.buildEntityPlan state.data = .ok plan ∧
      let offered := state.manager.newEntities plan
      (offered ≠ [] → state.manager.Offers product.entities state.data offered) ∧
      (∀ addEntities, offered = [] ∨ addEntities offered = .ok () →
        (sync addEntities).1 = .ok offered ∧
        ∀ binding ∈ state.manager.planned plan,
          binding.uniqueKey ∈ (sync addEntities).2.knownKeys) ∧
      ∀ addEntities e, offered ≠ [] → addEntities offered = .error e →
        sync addEntities = (.error e, state.manager) ∧
        product.OffersAgain (product.step state (.synced addEntities)) offered :=
  entities_added_once (List.mem_cons_of_mem _ List.mem_cons_self) .sensor
    [.synced fun _ => .error ⟨.typeError, "add failed"⟩]

end MarstekBle.Entities
