/- module: Device/MarstekBLEDevice
   source: custom_components/marstek_ble/marstek_device.py
   digest: The step function of a MarstekBLEDevice: its coroutines statement by statement. -/

import MarstekBle.Device.State

/-!
`step` takes one event. `run` lets the task that is between two awaits execute
its next statement; as long as there is one, no other event is enabled. The other
events resume an `await`, deliver a callback of the event loop or the BLE stack,
or start a coroutine. An event that is not enabled has no successor.
-/

set_option autoImplicit false
set_option relaxedAutoImplicit false

namespace MarstekBle.Device

open MarstekBle.Data MarstekBle.Protocol

/-- What the device was constructed with. -/
structure Config where
  deviceName : String
  hasNotificationCallback : Bool
  hasDeviceCallback : Bool

/-- How an `await` ends. -/
inductive Outcome where
  | returned
  | raised (error : String)
  | cancelled

inductive Event where
  | sendCommand (call : Call)
  | cancelCaller (position : Nat)
  | enterOperation
  | disconnect
  | cancelConnectWaiter (position : Nat)
  | enterConnect
  | timerFires (timer : Nat)
  | idleStarts
  | operationResumes (outcome : Outcome)
  | holderResumes (outcome : Outcome)
  | linkLost (client : Nat)
  | disconnected (client : Nat)
  | notification (sender : Nat) (data : Bytes) (parsed : Bool) (inReplyTo : Option Nat)
  | registryChanges (device : Option String)
  | run

variable (config : Config)

/-! ### Locks and timers -/

/-- The task acquires the connection lock. -/
def takeConnect (s : State) : Waiter → State
  | .operation => { s with
      connect := some .operation
      operation := s.operation.map fun op => { op with pc := .connectLocked } }
  | .disconnect => { s with connect := some (.disconnecting .entered) }
  | .idle => { s with connect := some (.idling .entered) }

/-- `async with self._connect_lock`: a free lock nobody waits for is taken at once. -/
def requestConnect (s : State) (waiter : Waiter) : State :=
  if s.connect = none ∧ s.connectWaiters = [] then takeConnect s waiter
  else { s with connectWaiters := s.connectWaiters ++ [waiter] }

/-- `self._disconnect_timer.cancel()`, if there is one. -/
def cancelTimer (s : State) : State :=
  { s with scheduled := s.scheduled.filter fun timer => s.disconnectTimer ≠ some timer }

/-- `_reset_disconnect_timer`. -/
def resetDisconnectTimer (s : State) : State :=
  let s := cancelTimer s
  { s with
    disconnectTimer := some s.timers
    scheduled := s.scheduled ++ [s.timers]
    timers := s.timers + 1 }

/-- `_on_disconnect`; its argument is not looked at. -/
def onDisconnect (s : State) : State :=
  { s with
    expectedDisconnect := false
    client := none
    notificationsStarted := false }

/-! ### `send_command` -/

/-- The operation returns and releases its lock. -/
def complete (s : State) (op : Operation) (result : Bool) (inReplyTo : Option Nat) : State :=
  { s with
    diagnostics := s.diagnostics.recordCommandResult op.call.command op.frame op.attemptsMade
      result (if result then none else op.lastError)
    completions := s.completions ++ [⟨op.id, result, inReplyTo⟩]
    operation := none }

/-- The statement an operation executes next, up to the next `await` or branch. -/
def runOperation (s : State) (op : Operation) : State :=
  match op.pc with
  | .attempting =>
    if op.attempt < op.call.retry then
      let op := { op with attemptsMade := op.attempt + 1 }
      match s.connectedClient with
      | some _ => s.goto op .ensured
      | none => requestConnect (s.goto op .awaitingConnect) .operation
    else s.goto op .exhausted
  | .connectLocked =>
    match s.connectedClient with
    | some _ => State.goto { s with connect := none } op .ensured
    | none =>
      let refreshed := if config.hasDeviceCallback then s.registry.or s.bleDevice else s.bleDevice
      match refreshed with
      | some device => State.goto { s with bleDevice := some device } op .establishing
      | none => State.goto { s with connect := none } op (.failed (config.deviceName ++
          ": No connectable BLE device available to establish connection"))
  | .connectFailed error =>
    let failed := { s with client := none, notificationsStarted := false }
    match s.connectedClient with
    | some k => State.goto { failed with expectedDisconnect := true } op (.cleaning k error)
    | none => State.goto { failed with connect := none } op (.failed error)
  | .ensured =>
    let armed := { s with
      pendingCommand := some op.call.command
      responseEvent := some .clear
      responseData := none }
    match s.client with
    | some k => State.goto { armed with
        writes := s.writes ++ [⟨op.id, op.call.command, k⟩] } op .writing
    | none => armed.goto op (.failed "'NoneType' object has no attribute 'write_gatt_char'")
  | .written =>
    match s.responseEvent with
    | some (.set _) => (resetDisconnectTimer s).goto op .replied
    | _ => (resetDisconnectTimer s).goto op .waiting
  | .replied =>
    match s.responseEvent with
    | some (.set inReplyTo) => complete s.clearSlot op true inReplyTo
    | _ => complete s.clearSlot op true none
  | .timedOut =>
    s.clearSlot.goto { op with lastError := some "no_response", attempt := op.attempt + 1 }
      .attempting
  | .failed error =>
    let op := { op with lastError := some error }
    match s.client with
    | some k => State.goto { s.clearSlot with expectedDisconnect := true } op (.dropping k)
    | none => s.clearSlot.goto op .retrying
  | .retrying =>
    if op.attempt + 1 < op.call.retry then s.goto op .backoff
    else s.goto { op with attempt := op.attempt + 1 } .attempting
  | .exhausted => complete s op false none
  | _ => s

/-- An exception that is no `Exception` leaves `send_command`: every lock is released. -/
def abandon (s : State) : State := { s with operation := none }

/-- The `await` an operation is suspended at ends. -/
def resumeOperation (s : State) (op : Operation) : Outcome → Option State
  | .returned => match op.pc with
    | .establishing =>
      let k := s.clients
      let connected := { s with
        client := some k
        clients := k + 1 }.setLink k fun _ => { isConnected := true }
      if config.hasNotificationCallback ∧ s.notificationsStarted = false then
        some (connected.goto op (.startingNotify k))
      else some (State.goto { connected with connect := none } op .ensured)
    | .startingNotify k =>
      let subscribed := s.setLink k fun link => { link with started := true }
      some (State.goto { subscribed with notificationsStarted := true, connect := none } op
        .ensured)
    | .cleaning k error => some (State.goto { s.closeLink k with
        expectedDisconnect := false, connect := none } op (.failed error))
    | .writing => some (s.goto op .written)
    | .waiting => match s.responseEvent with
      | some (.set _) => some (s.goto op .replied)
      | _ => none
    | .dropping k => some (State.goto { s.closeLink k with
        expectedDisconnect := false, client := none, notificationsStarted := false } op .retrying)
    | .backoff => some (s.goto { op with attempt := op.attempt + 1 } .attempting)
    | _ => none
  | .raised error => match op.pc with
    | .establishing => some (s.goto op (.connectFailed error))
    | .startingNotify _ => some (s.goto op (.connectFailed error))
    | .cleaning _ first => some (State.goto { s with
        expectedDisconnect := false, connect := none } op (.failed first))
    | .writing => some (s.goto op (.failed error))
    | .waiting => some (s.goto op .timedOut)
    | .dropping _ => some (State.goto { s with
        expectedDisconnect := false, client := none, notificationsStarted := false } op .retrying)
    | _ => none
  | .cancelled => match op.pc with
    | .awaitingConnect => some (abandon { s with
        connectWaiters := s.connectWaiters.filter (· ≠ .operation) })
    | .establishing => some (abandon { s with connect := none })
    | .startingNotify _ => some (abandon { s with connect := none })
    | .cleaning _ _ => some (abandon { s with expectedDisconnect := false, connect := none })
    | .writing => some (abandon s)
    | .waiting => some (abandon s.clearSlot)
    | .dropping _ => some (abandon { s with expectedDisconnect := false })
    | .backoff => some (abandon s)
    | _ => none

/-! ### `disconnect` and `_execute_disconnect` -/

def runHolder (s : State) : Holder → State
  | .disconnecting .entered =>
    match s.connectedClient with
    | some k =>
      if s.notificationsStarted then { s.setLink k fun link => { link with stopped := true } with
        connect := some (.disconnecting (.stopping k)) }
      else { s with connect := some (.disconnecting .stopped) }
    | none => { s with connect := some (.disconnecting .closed) }
  | .disconnecting .stopped =>
    let stopped := { s with notificationsStarted := false, expectedDisconnect := true }
    match s.client with
    | some k => { stopped with connect := some (.disconnecting (.closing k)) }
    | none => { stopped with connect := none }
  | .disconnecting .closed => { s with client := none, connect := none }
  | .idling .entered =>
    match s.connectedClient with
    | some k => { s with expectedDisconnect := true, connect := some (.idling (.closing k)) }
    | none => { s with connect := some (.idling .closed) }
  | .idling .closed => { s with disconnectTimer := none, connect := none }
  | _ => s

def resumeHolder (s : State) : Holder → Outcome → Option State
  | .disconnecting (.stopping _), .returned =>
    some { s with connect := some (.disconnecting .stopped) }
  | .disconnecting (.stopping _), .raised _ =>
    some { s with connect := some (.disconnecting .stopped) }
  | .disconnecting (.closing k), .returned =>
    some { s.closeLink k with connect := some (.disconnecting .closed) }
  | .idling (.closing k), .returned =>
    some { s.closeLink k with connect := some (.idling .closed) }
  | .disconnecting (.closing _), .raised _ => some { s with connect := none }
  | .idling (.closing _), .raised _ => some { s with connect := none }
  | .disconnecting (.stopping _), .cancelled => some { s with connect := none }
  | .disconnecting (.closing _), .cancelled => some { s with connect := none }
  | .idling (.closing _), .cancelled => some { s with connect := none }
  | _, _ => none

/-! ### Notifications -/

/-- `record_notification`. -/
def recordNotification (s : State) (sender : Nat) (data : Bytes) (parsed : Bool)
    (inReplyTo : Option Nat) : State :=
  let recorded := { s with
    diagnostics := s.diagnostics.recordNotification sender data parsed }
  match data[3]?, s.responseEvent with
  | some command, some event =>
    if s.pendingCommand = some command then
      { recorded with
        responseData := some data
        responseEvent := some (match event with
          | .clear => .set inReplyTo
          | .set first => .set first) }
    else recorded
  | _, _ => recorded

/-! ### The step function -/

/-- An event that is delivered while no task is between two awaits. -/
def deliver (s : State) : Event → Option State
  | .sendCommand call => match buildCommand call.command call.payload with
    | .error _ => some s
    | .ok frame =>
      let caller : Caller := ⟨s.calls, call, frame⟩
      let called := { s with calls := s.calls + 1 }
      if s.operation.isNone ∧ s.operationWaiters.isEmpty then
        some { called with operation := some { toCaller := caller } }
      else some { called with operationWaiters := s.operationWaiters ++ [caller] }
  | .cancelCaller position =>
    if position < s.operationWaiters.length then
      some { s with operationWaiters := s.operationWaiters.eraseIdx position }
    else none
  | .enterOperation => match s.operation, s.operationWaiters with
    | none, caller :: rest =>
      some { s with operation := some { toCaller := caller }, operationWaiters := rest }
    | _, _ => none
  | .disconnect => some (requestConnect { cancelTimer s with disconnectTimer := none } .disconnect)
  | .cancelConnectWaiter position =>
    if (s.connectWaiters[position]?).any (· ≠ .operation) then
      some { s with connectWaiters := s.connectWaiters.eraseIdx position }
    else none
  | .enterConnect => match s.connect, s.connectWaiters with
    | none, waiter :: rest => some (takeConnect { s with connectWaiters := rest } waiter)
    | _, _ => none
  | .timerFires timer =>
    if timer ∈ s.scheduled then
      some { s with
        scheduled := s.scheduled.filter (· ≠ timer)
        idleTasks := s.idleTasks + 1 }
    else none
  | .idleStarts =>
    if 0 < s.idleTasks then some (requestConnect { s with idleTasks := s.idleTasks - 1 } .idle)
    else none
  | .operationResumes outcome => s.operation.bind fun op => resumeOperation config s op outcome
  | .holderResumes outcome => s.connect.bind fun holder => resumeHolder s holder outcome
  | .linkLost k =>
    if (s.links k).isConnected then some (s.closeLink k) else none
  | .disconnected k =>
    if k < s.clients ∧ (s.links k).isConnected = false ∧ (s.links k).reported = false then
      some (onDisconnect (s.setLink k fun link => { link with reported := true }))
    else none
  | .notification sender data parsed inReplyTo =>
    some (recordNotification s sender data parsed inReplyTo)
  | .registryChanges device => some { s with registry := device }
  | .run => none

/-- The task between two awaits executes its next statement. -/
def runTask (s : State) : Option State :=
  match s.operation, s.connect with
  | some op, holder =>
    if op.pc.running then some (runOperation config s op)
    else match holder with
      | some h => if h.running then some (runHolder s h) else none
      | none => none
  | none, some h => if h.running then some (runHolder s h) else none
  | none, none => none

def step (s : State) : Event → Option State
  | .run => runTask config s
  | event => if s.quiet then deliver config s event else none

/-- A device fresh from its constructor. -/
def initial (bleDevice : Option String) : State := { bleDevice }

end MarstekBle.Device
