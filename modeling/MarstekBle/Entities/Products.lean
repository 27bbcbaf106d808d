/- module: Entities/Products
   source: custom_components/marstek_ble/products/venus.py, products/jupiter.py
   digest: Main devices and calculated entities of the two products. -/

import MarstekBle.Entities.Plan
import MarstekBle.Product.Registry

set_option autoImplicit false
set_option relaxedAutoImplicit false

namespace MarstekBle.Entities

open MarstekBle.Data MarstekBle.Schema MarstekBle.Product MarstekBle.Lib.AttributeTree

/-! ### Arithmetic on attribute values -/

/-- `left * right` on numbers. -/
def multiply (left right : Value) : Raises Value :=
  match left.toInt?, right.toInt? with
  | some m, some n => .ok (.int (m * n))
  | _, _ => match left.toRat?, right.toRat? with
    | some p, some q => .ok (.float (p * q))
    | _, _ => .error (unsupported "*")

/-- `-value` on a number. -/
def negate (value : Value) : Raises Value :=
  match value.toInt? with
  | some n => .ok (.int (-n))
  | none => match value.toRat? with
    | some q => .ok (.float (-q))
    | none => .error (unsupported "unary -")

/-- `max(0, value)`. -/
def atLeastZero (value : Value) : Raises Value :=
  match value.toRat? with
  | some q => .ok (if 0 < q then value else .int 0)
  | none => .error ⟨.typeError, "'>' not supported between these operands"⟩

/-- A chain of attribute reads that ends at a value. -/
def readValue (data : DataTree) (path : DataPath) : Raises Value := do
  match ← resolve data path with
  | .value value => .ok value
  | _ => .error (unsupported "arithmetic")

/-- `_battery_power`, for the product's voltage and current. -/
def batteryPower (voltagePath currentPath : DataPath) : ValueGetter := fun data => do
  let voltage ← readValue data voltagePath
  let current ← readValue data currentPath
  match voltage, current with
  | .none, _ => pure .none
  | _, .none => pure .none
  | voltage, current => multiply voltage current

/-- `max(0, value)` of the battery power, if there is one. -/
def batteryPowerIn (voltagePath currentPath : DataPath) : ValueGetter := fun data => do
  match ← batteryPower voltagePath currentPath data with
  | .none => pure .none
  | value => atLeastZero value

/-- `max(0, -value)` of the battery power, if there is one. -/
def batteryPowerOut (voltagePath currentPath : DataPath) : ValueGetter := fun data => do
  match ← batteryPower voltagePath currentPath data with
  | .none => pure .none
  | value => do atLeastZero (← negate value)

/-- `derived_sensor`. -/
def derivedSensor (key name : String) (valueFn : ValueGetter) (stalePaths : List DataPath) :
    DerivedEntitySpec :=
  ⟨.sensor, ⟨key, some name⟩, valueFn, stalePaths⟩

namespace Venus

open MarstekBle.Product.Venus

def voltagePath : DataPath := [.attr "battery", .attr "battery_voltage"]
def currentPath : DataPath := [.attr "battery", .attr "battery_current"]
def socPath : DataPath := [.attr "battery", .attr "battery_soc"]
def capacityPath : DataPath := [.attr "battery", .attr "design_capacity"]

/-- `_capacity`. -/
def capacity (available : Bool) : ValueGetter := fun data => do
  let soc ← readValue data socPath
  let capacity ← readValue data capacityPath
  match soc, capacity with
  | .none, _ => pure .none
  | _, .none => pure .none
  | soc, capacity => match soc.toRat?, capacity.toRat? with
    | some s, some c => pure (.float ((if available then 100 - s else s) / 100 * c))
    | _, _ => .error (unsupported "/")

/-- `VENUS_PROFILE`. -/
def venusEntityProfile : EntityProfile where
  toProductProfile := venusProfile
  device := ⟨"Marstek", "Venus E", none⟩
  derivedEntities := [
    derivedSensor "battery_power" "Battery Power" (batteryPower voltagePath currentPath)
      [voltagePath, currentPath],
    derivedSensor "battery_power_in" "Battery Power In" (batteryPowerIn voltagePath currentPath)
      [voltagePath, currentPath],
    derivedSensor "battery_power_out" "Battery Power Out"
      (batteryPowerOut voltagePath currentPath) [voltagePath, currentPath],
    derivedSensor "remaining_capacity" "Remaining Capacity" (capacity false)
      [socPath, capacityPath],
    derivedSensor "available_capacity" "Available Capacity" (capacity true)
      [socPath, capacityPath]]

end Venus

namespace Jupiter

open MarstekBle.Product.Jupiter

def voltagePath : DataPath := [.attr "battery", .attr "voltage"]
def currentPath : DataPath := [.attr "battery", .attr "current"]

/-- `JUPITER_RUNTIME_PROFILE`. -/
def jupiterEntityProfile : EntityProfile where
  toProductProfile := jupiterRuntimeProfile
  device := ⟨"Marstek", "Jupiter-C Plus", some "JPLS"⟩
  derivedEntities := [
    derivedSensor "battery_power" "Battery Power" (batteryPower voltagePath currentPath)
      [voltagePath, currentPath],
    derivedSensor "battery_power_in" "Battery Power In" (batteryPowerIn voltagePath currentPath)
      [voltagePath, currentPath],
    derivedSensor "battery_power_out" "Battery Power Out"
      (batteryPowerOut voltagePath currentPath) [voltagePath, currentPath]]

end Jupiter

/-- A registered runtime with the entities of its profile. -/
structure EntityProduct where
  runtime : ProductRuntime
  entities : EntityProfile
  sameProfile : entities.toProductProfile = runtime.profile := by rfl

/-- The registered products with their entities. -/
def entityProducts : List EntityProduct :=
  [{ runtime := Product.Venus.venusRuntime, entities := Venus.venusEntityProfile },
    { runtime := Product.Jupiter.jupiterRuntime, entities := Jupiter.jupiterEntityProfile }]

/-- They are the products of the registry. -/
theorem runtime_mem_of_entityProducts {product : EntityProduct} (h : product ∈ entityProducts) :
    product.runtime ∈ runtimeProducts := by
  have runtimes : entityProducts.map EntityProduct.runtime = runtimeProducts := rfl
  rw [← runtimes]
  exact List.mem_map.mpr ⟨product, h, rfl⟩

end MarstekBle.Entities
