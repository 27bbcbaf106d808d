/- module: Setup/ConfigFlow
   source: custom_components/marstek_ble/config_flow.py
   digest: The steps of a config flow, and concurrent flows that create entries. -/

import MarstekBle.Lib.Dictionary
import MarstekBle.Product.Registry

/-!
The steps of one flow run without a pause; between them a flow waits for the user to
submit the form it shows. What Home Assistant's unique-id checks decide is left open,
apart from their looking at addresses only. A flow that waits may be closed at any time.
-/

set_option autoImplicit false
set_option relaxedAutoImplicit false

namespace MarstekBle.Setup

open MarstekBle.Data MarstekBle.Product MarstekBle.Lib.Dictionary

/-- What an advertisement says of a device. -/
structure DiscoveryInfo where
  address : Text
  name : Option Text

structure ConfigEntry where
  title : Text
  address : Text
  name : Text
  productId : String

/-- The forms a flow shows. -/
inductive StepId where
  | bluetoothConfirm
  | user

inductive FlowResult where
  | abort (reason : String)
  | showForm (stepId : StepId)
  | createEntry (entry : ConfigEntry)

structure MarstekBLEConfigFlow where
  uniqueId : Option Text := none
  discoveryInfo : Option DiscoveryInfo := none
  discoveredDevices : List (Text × DiscoveryInfo) := []

/-- Whether a unique id is among those of the flows in progress, and of the entries. -/
structure UniqueIdChecks where
  inProgress : List Text → Text → Bool
  configured : List Text → Text → Bool

/-- What a step sees of Home Assistant. -/
structure Hass where
  entries : List ConfigEntry
  progress : List Text

variable (checks : UniqueIdChecks)

/-! ### Names -/

/-- The name, if it is not empty. -/
def nonempty : Option Text → Option Text
  | some (c :: cs) => some (c :: cs)
  | _ => none

/-- `name or address`. -/
def orAddress (name : Option Text) (address : Text) : Text := (nonempty name).getD address

def productIdForName (name : Option Text) : String :=
  ((runtimeForName name).getD Venus.venusRuntime).profile.productId

def devicePrefixes : List Text :=
  ["MST_ACCP_".toList, "MST_VNSE3_".toList, "MST_JPLS_".toList]

/-- The entry both flows create for a device. -/
def entryFor (name : Option Text) (address : Text) : ConfigEntry where
  title := orAddress name address
  address := address
  name := orAddress name address
  productId := productIdForName name

/-! ### Unique ids -/

def Hass.currentIds (hass : Hass) : List Text := hass.entries.map ConfigEntry.address

/-- `async_set_unique_id`; the error is the reason the flow is aborted for. -/
def asyncSetUniqueId (hass : Hass) (flow : MarstekBLEConfigFlow) (uniqueId : Text)
    (raiseOnProgress : Bool := true) : Except String MarstekBLEConfigFlow :=
  if raiseOnProgress && checks.inProgress hass.progress uniqueId then
    .error "already_in_progress"
  else .ok { flow with uniqueId := some uniqueId }

/-- `_abort_if_unique_id_configured`. -/
def abortIfUniqueIdConfigured (hass : Hass) (flow : MarstekBLEConfigFlow) : Except String Unit :=
  if flow.uniqueId.any (checks.configured hass.currentIds) then .error "already_configured"
  else .ok ()

/-! ### Steps -/

/-- `async_step_bluetooth_confirm`; without a discovery its assertion fails. -/
def asyncStepBluetoothConfirm (flow : MarstekBLEConfigFlow) (submitted : Bool) :
    Option FlowResult :=
  flow.discoveryInfo.map fun info =>
    if submitted then .createEntry (entryFor info.name info.address)
    else .showForm .bluetoothConfirm

def asyncStepBluetooth (hass : Hass) (flow : MarstekBLEConfigFlow) (info : DiscoveryInfo) :
    Option FlowResult × MarstekBLEConfigFlow :=
  match asyncSetUniqueId checks hass flow info.address with
  | .error reason => (some (.abort reason), flow)
  | .ok flow => match abortIfUniqueIdConfigured checks hass flow with
    | .error reason => (some (.abort reason), flow)
    | .ok () =>
      if (nonempty info.name).any fun name => hass.entries.any (·.name = name) then
        (some (.abort "already_configured"), flow)
      else
        let flow := { flow with discoveryInfo := some info }
        (asyncStepBluetoothConfirm flow false, flow)

/-- Whether the user step offers a device. -/
def offered (hass : Hass) (info : DiscoveryInfo) : Bool :=
  if info.address ∈ hass.currentIds then false
  else match nonempty info.name with
    | none => false
    | some name =>
      if hass.entries.any (·.name = name) then false
      else devicePrefixes.any (List.isPrefixOf · name)

/-- `self._discovered_devices[info.address] = info`. -/
def setDevice (devices : List (Text × DiscoveryInfo)) (info : DiscoveryInfo) :
    List (Text × DiscoveryInfo) := store devices info.address info

/-- `async_step_user`, with the devices Home Assistant has discovered. -/
def asyncStepUser (hass : Hass) (flow : MarstekBLEConfigFlow) (discovered : List DiscoveryInfo)
    (userInput : Option Text) : FlowResult × MarstekBLEConfigFlow :=
  match userInput with
  | some address => match flow.discoveredDevices.lookup address with
    | none =>
      if flow.discoveredDevices.isEmpty then (.abort "no_devices_found", flow)
      else (.showForm .user, flow)
    | some info => match asyncSetUniqueId checks hass flow address false with
      | .error reason => (.abort reason, flow)
      | .ok flow => match abortIfUniqueIdConfigured checks hass flow with
        | .error reason => (.abort reason, flow)
        | .ok () => (.createEntry (entryFor info.name address), flow)
  | none =>
    let devices := (discovered.filter (offered hass)).foldl setDevice flow.discoveredDevices
    let flow := { flow with discoveredDevices := devices }
    if devices.isEmpty then (.abort "no_devices_found", flow) else (.showForm .user, flow)

/-! ### Concurrent flows -/

/-- A flow that shows a form. -/
structure FlowInProgress where
  flow : MarstekBLEConfigFlow
  stepId : StepId

structure State where
  entries : List ConfigEntry := []
  flows : List FlowInProgress := []

inductive Event where
  | discovered (info : DiscoveryInfo)
  | userStarts (devices : List DiscoveryInfo)
  | submits (position : Nat) (address : Text)
  | closes (position : Nat)

def State.hass (s : State) : Hass := ⟨s.entries, s.flows.filterMap (·.flow.uniqueId)⟩

/-- A new flow's first step has returned. -/
def startFlow (s : State) (flow : MarstekBLEConfigFlow) : FlowResult → State
  | .abort _ => s
  | .showForm stepId => { s with flows := s.flows ++ [⟨flow, stepId⟩] }
  | .createEntry entry => { s with entries := s.entries ++ [entry] }

/-- A later step of the flow at a position has returned. -/
def continueFlow (s : State) (position : Nat) (flow : MarstekBLEConfigFlow) : FlowResult → State
  | .abort _ => { s with flows := s.flows.eraseIdx position }
  | .showForm stepId => { s with flows := s.flows.set position ⟨flow, stepId⟩ }
  | .createEntry entry =>
    { s with entries := s.entries ++ [entry], flows := s.flows.eraseIdx position }

/-- The user submits the form of a flow; only the user form has an address in it. -/
def submit (s : State) (position : Nat) (address : Text) : Option State :=
  match s.flows[position]? with
  | none => none
  | some ⟨flow, .bluetoothConfirm⟩ =>
    (asyncStepBluetoothConfirm flow true).map (continueFlow s position flow)
  | some ⟨flow, .user⟩ =>
    let stepped := asyncStepUser checks s.hass flow [] (some address)
    some (continueFlow s position stepped.2 stepped.1)

def step (s : State) : Event → Option State
  | .discovered info =>
    let stepped := asyncStepBluetooth checks s.hass {} info
    stepped.1.map (startFlow s stepped.2)
  | .userStarts devices =>
    let stepped := asyncStepUser checks s.hass {} devices none
    some (startFlow s stepped.2 stepped.1)
  | .submits position address => submit checks s position address
  | .closes position =>
    if position < s.flows.length then some { s with flows := s.flows.eraseIdx position } else none

end MarstekBle.Setup
