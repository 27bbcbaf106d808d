/- module: Device/State
   source: custom_components/marstek_ble/marstek_device.py
   digest: The state of a MarstekBLEDevice, its tasks, its timers and its BLE clients. -/

import MarstekBle.Protocol.Frame

/-!
The device object is used by tasks of one event loop: callers of `send_command`
(serialised by the operation lock), callers of `disconnect` and the tasks the
idle timer creates. A program counter stands for the statement a task executes
next, or for the `await` it is suspended at.
-/

set_option autoImplicit false
set_option relaxedAutoImplicit false

namespace MarstekBle.Device

open MarstekBle.Data MarstekBle.Protocol

/-- The arguments of one `send_command` call. -/
structure Call where
  command : Byte
  payload : Bytes := []
  retry : Nat := 3

/-- A client that `establish_connection` returned: whether its link is up, whether
`start_notify` has completed on it, whether `stop_notify` was called on it, and
whether its disconnect callback has been delivered. -/
structure Link where
  isConnected : Bool := false
  started : Bool := false
  stopped : Bool := false
  reported : Bool := false

/-- One `write_gatt_char`: the call that made it, its command byte and the client. -/
structure Write where
  call : Nat
  command : Byte
  client : Nat

/-- The `asyncio.Event` of the response slot. Beside being set, the model notes
which write the notification that set it replies to. -/
inductive ResponseEvent where
  | clear
  | set (inReplyTo : Option Nat)
  deriving DecidableEq

/-- What a finished `send_command` returned, and the write its reply belongs to. -/
structure Completion where
  call : Nat
  result : Bool
  inReplyTo : Option Nat

/-! ### Program counters -/

/-- Where a `send_command` that holds the operation lock is. -/
inductive OperationPc where
  | attempting
  | awaitingConnect
  | connectLocked
  | establishing
  | startingNotify (client : Nat)
  | connectFailed (error : String)
  | cleaning (client : Nat) (error : String)
  | ensured
  | writing
  | written
  | waiting
  | replied
  | timedOut
  | failed (error : String)
  | dropping (client : Nat)
  | retrying
  | backoff
  | exhausted
  deriving DecidableEq

/-- The task is not at an `await`. -/
def OperationPc.running : OperationPc → Bool
  | .attempting | .connectLocked | .connectFailed _ | .ensured | .written | .replied | .timedOut
  | .failed _ | .retrying | .exhausted => true
  | _ => false

/-- Inside the body of the connection lock. -/
def OperationPc.locked : OperationPc → Bool
  | .connectLocked | .establishing | .startingNotify _ | .connectFailed _ | .cleaning _ _ => true
  | _ => false

/-- From the return of `_ensure_connected` to the end of the attempt. -/
def OperationPc.active : OperationPc → Bool
  | .ensured | .writing | .written | .waiting | .replied | .timedOut => true
  | _ => false

/-- Where a `disconnect` that holds the connection lock is. -/
inductive DisconnectPc where
  | entered
  | stopping (client : Nat)
  | stopped
  | closing (client : Nat)
  | closed
  deriving DecidableEq

def DisconnectPc.running : DisconnectPc → Bool
  | .entered | .stopped | .closed => true
  | _ => false

/-- Where an `_execute_disconnect` that holds the connection lock is. -/
inductive IdlePc where
  | entered
  | closing (client : Nat)
  | closed
  deriving DecidableEq

def IdlePc.running : IdlePc → Bool
  | .entered | .closed => true
  | _ => false

/-- A `send_command` call whose frame is built. -/
structure Caller where
  id : Nat
  call : Call
  frame : Bytes

/-- The holder of the operation lock. -/
structure Operation extends Caller where
  attempt : Nat := 0
  attemptsMade : Nat := 0
  lastError : Option String := none
  pc : OperationPc := .attempting

/-- The holder of the connection lock. -/
inductive Holder where
  | operation
  | disconnecting (pc : DisconnectPc)
  | idling (pc : IdlePc)
  deriving DecidableEq

def Holder.running : Holder → Bool
  | .operation => false
  | .disconnecting pc => pc.running
  | .idling pc => pc.running

/-- An idle task holds the lock. -/
def Holder.idles : Holder → Bool
  | .idling _ => true
  | _ => false

/-- An idle task awaits the `disconnect()` of the client. -/
def Holder.idleCloses : Holder → Bool
  | .idling (.closing _) => true
  | _ => false

/-- A task in the queue of the connection lock. -/
inductive Waiter where
  | operation
  | disconnect
  | idle
  deriving DecidableEq

/-! ### Diagnostics -/

/-- One entry of the command history. -/
structure CommandRecord where
  command : Byte
  payload : Bytes
  frame : Bytes
  attempts : Nat
  success : Bool
  error : Option String
  response : String

/-- One entry of the notification history. -/
structure NotificationRecord where
  sender : Nat
  command : Option Byte
  frame : Bytes
  payload : Bytes
  parsed : Bool

structure CommandStats where
  sent : Nat := 0
  success : Nat := 0
  failure : Nat := 0
  lastError : Option String := none
  lastNotification : Option Bytes := none

structure Diagnostics where
  commandHistory : List CommandRecord := []
  notificationHistory : List NotificationRecord := []
  commandStats : Byte → CommandStats := fun _ => {}
  totalCommandsSent : Nat := 0
  totalCommandsSuccess : Nat := 0
  totalCommandsFailure : Nat := 0
  lastCommandError : Option String := none

/-- `deque(maxlen=25).append(entry)`. -/
def appendBounded {α : Type} (history : List α) (entry : α) : List α :=
  (history ++ [entry]).drop (history.length + 1 - 25)

def CommandStats.record (stats : CommandStats) (success : Bool) (error : Option String) :
    CommandStats :=
  if success then { stats with sent := stats.sent + 1, success := stats.success + 1 }
  else { stats with sent := stats.sent + 1, failure := stats.failure + 1, lastError := error }

/-- `_record_command_result`. -/
def Diagnostics.recordCommandResult (diagnostics : Diagnostics) (command : Byte)
    (frame : Bytes) (attempts : Nat) (success : Bool) (error : Option String) : Diagnostics :=
  let payload := if frame.length > 5 then slice frame 4 (frame.length - 1) else []
  let response := if success then "received"
    else if error = some "no_response" then "no_response" else "error"
  let stats := diagnostics.commandStats
  { diagnostics with
    commandHistory := appendBounded diagnostics.commandHistory
      ⟨command, payload, frame, attempts, success, error, response⟩
    commandStats := fun c => if c = command then (stats c).record success error else stats c
    totalCommandsSent := diagnostics.totalCommandsSent + 1
    totalCommandsSuccess := diagnostics.totalCommandsSuccess + (if success then 1 else 0)
    totalCommandsFailure := diagnostics.totalCommandsFailure + (if success then 0 else 1)
    lastCommandError := if success then none else error }

/-- The book-keeping of `record_notification`. -/
def Diagnostics.recordNotification (diagnostics : Diagnostics) (sender : Nat) (data : Bytes)
    (parsed : Bool) : Diagnostics :=
  let command := data[3]?
  let payload := if data.length > 5 then slice data 4 (data.length - 1) else []
  let stats := diagnostics.commandStats
  { diagnostics with
    notificationHistory := appendBounded diagnostics.notificationHistory
      ⟨sender, command, data, payload, parsed⟩
    commandStats := fun c => if some c = command then
      { stats c with lastNotification := some data } else stats c }

/-! ### The whole state -/

structure State where
  client : Option Nat := none
  notificationsStarted : Bool := false
  expectedDisconnect : Bool := false
  disconnectTimer : Option Nat := none
  pendingCommand : Option Byte := none
  responseEvent : Option ResponseEvent := none
  responseData : Option Bytes := none
  bleDevice : Option String
  diagnostics : Diagnostics := {}
  operation : Option Operation := none
  operationWaiters : List Caller := []
  calls : Nat := 0
  connect : Option Holder := none
  connectWaiters : List Waiter := []
  idleTasks : Nat := 0
  scheduled : List Nat := []
  timers : Nat := 0
  links : Nat → Link := fun _ => {}
  clients : Nat := 0
  registry : Option String := none
  writes : List Write := []
  completions : List Completion := []

namespace State

/-- Where the holder of the operation lock is. -/
def pc (s : State) : Option OperationPc := s.operation.map fun op => op.pc

/-- The client, if it is set and connected. -/
def connectedClient (s : State) : Option Nat :=
  s.client.filter fun k => (s.links k).isConnected

def setLink (s : State) (k : Nat) (f : Link → Link) : State :=
  { s with links := fun j => if j = k then f (s.links j) else s.links j }

/-- The operation goes on at another statement. -/
def goto (s : State) (op : Operation) (pc : OperationPc) : State :=
  { s with operation := some { op with pc } }

/-- `_pending_command = None; _response_event = None`. -/
def clearSlot (s : State) : State :=
  { s with pendingCommand := none, responseEvent := none }

/-- A client's `disconnect()` returned. -/
def closeLink (s : State) (k : Nat) : State :=
  s.setLink k fun link => { link with isConnected := false }

/-- The operation is at an `await`, if there is one. -/
def suspended (s : State) : Bool := !(s.pc.any OperationPc.running)

/-- No task is between two awaits. -/
def quiet (s : State) : Bool := s.suspended && !(s.connect.any Holder.running)

-- The updates above are abbreviations: proofs see the record update itself.
attribute [simp] setLink goto clearSlot closeLink

theorem running_of_suspended {s : State} (suspended : s.suspended = true) {pc : OperationPc}
    (hpc : s.pc = some pc) : pc.running = false := by
  simpa [State.suspended, hpc] using suspended

/-- Closing a link leaves its subscription as it was. -/
theorem closeLink_subscription (s : State) (k j : Nat) :
    ((s.closeLink k).links j).started = (s.links j).started ∧
      ((s.closeLink k).links j).stopped = (s.links j).stopped := by
  simp only [closeLink, setLink]
  split <;> exact ⟨rfl, rfl⟩

theorem connectedClient_eq_some {s : State} {k : Nat} :
    s.connectedClient = some k ↔ s.client = some k ∧ (s.links k).isConnected = true := by
  simp [connectedClient, Option.filter_eq_some_iff]

theorem connectedClient_eq_none {s : State} :
    s.connectedClient = none ↔ ∀ k, s.client = some k → (s.links k).isConnected = false := by
  simp [connectedClient, Option.filter_eq_none_iff]

end State

end MarstekBle.Device
