/- module: Standalone/Collection
   source: standalone_test/marstek_basic_info.py
   digest: The task that connects to one battery, reads every safe command, closes the session. -/

import MarstekBle.Standalone.Payloads
import MarstekBle.Standalone.Session

/-!
`collect_device_data` is the only caller of its session. An event ends the `await`
the task is suspended at, and the task runs up to the next one; notifications are
handled between these steps, at any time. The first state the proxy reports for the
connection is the only one `connect` looks at.
-/

set_option autoImplicit false
set_option relaxedAutoImplicit false

namespace MarstekBle.Standalone

open MarstekBle.Data MarstekBle.Protocol MarstekBle.Lib.Dictionary

/-- How `collect_device_data` ends. -/
inductive CollectOutcome where
  | returned
  | raised (message : String)
  | cancelled
  deriving DecidableEq

/-- The `await` the task is suspended at. -/
inductive CollectPc where
  | connecting
  | awaitingState
  | gettingServices
  | startingNotify
  /-- in `send_command`, with the number of the call -/
  | sending (spec : CommandSpec) (call : Nat)
  | sleeping
  /-- in `close`, on the way to the given end -/
  | stoppingNotify (outcome : CollectOutcome)
  | disconnecting (outcome : CollectOutcome)
  | finished (outcome : CollectOutcome)

structure GattCharacteristic where
  uuid : Text
  handle : Nat

structure GattService where
  uuid : Text
  characteristics : List GattCharacteristic

structure Collector where
  session : BLEDeviceSession
  remaining : List CommandSpec
  results : List (String × Metric) := []
  consecutiveFailures : Nat := 0
  pc : CollectPc := .connecting
  /-- `_connection_unsub` is set and has not been called -/
  stateSubscribed : Bool := false
  /-- `_stop_notify` and `_notify_remove` are set and the latter has not been called -/
  notifying : Bool := false
  /-- calls of `bluetooth_device_disconnect` -/
  disconnects : Nat := 0

inductive CollectEvent where
  | connectReturns
  | stateReported (connected : Bool) (errorText : String)
  | servicesReturn (services : List GattService)
  | notifyStarts
  /-- the `await` of `connect` raises -/
  | connectRaises (message : String)
  /-- the call of `send_command` moves; a failing write raises with the given message -/
  | moves (move : CallMove) (message : String)
  | wakes
  | cancel
  /-- `_stop_notify` ends; what it raises is only logged -/
  | notifyStopped
  /-- `bluetooth_device_disconnect` returns, or raises an error of the proxy that is only logged -/
  | disconnectEnds
  | disconnectRaises (message : String)
  | notification (data : Bytes)

def serviceUuid : String := "0000ff00-0000-1000-8000-00805f9b34fb"
def txCharUuid : String := "0000ff01-0000-1000-8000-00805f9b34fb"
def rxCharUuid : String := "0000ff02-0000-1000-8000-00805f9b34fb"

/-- The TX handle of the Marstek service, where both characteristics are found. -/
def findTxHandle (strings : StringMethods) (services : List GattService) : Except String Nat :=
  match services.find? fun svc => strings.lower svc.uuid = serviceUuid.toList with
  | none => .error "Marstek service 0xFF00 not found in GATT table"
  | some service =>
    let characteristic (uuid : String) := service.characteristics.find? fun char =>
      strings.lower char.uuid = uuid.toList
    match characteristic txCharUuid, characteristic rxCharUuid with
    | some txChar, some _ => .ok txChar.handle
    | _, _ => .error "Marstek characteristics FF01/FF02 not found"

def maxConsecutiveFailures : Nat := 3

/-- `{"error": message}`. -/
def errorEntry (message : String) : Metric := .record [("error", .text message)]

/-- The text of the exception `send_command` raised. -/
def errorText (spec : CommandSpec) (writeMessage : String) : CommandError → String
  | .cannotBuild error => error.message
  | .writeFailed => writeMessage
  | .timedOut => "Timeout waiting for " ++ spec.name ++ " response"
  | .failed message => message
  | .cancelled => ""

namespace Collector

/-- `close`, on the way to the given end; a closed session is not closed again. -/
def close (c : Collector) (outcome : CollectOutcome) : Collector :=
  if c.session.closed then { c with pc := .finished outcome }
  else
    let closed := { c with session := c.session.close }
    if c.notifying then { closed with pc := .stoppingNotify outcome }
    else { closed with pc := .disconnecting outcome, disconnects := c.disconnects + 1 }

/-- What a command reports, and whether it counts as a failure. -/
def evaluate (spec : CommandSpec) (answer : Except String Bytes) : Metric × Bool :=
  match answer with
  | .error message => (errorEntry message, true)
  | .ok payload => match spec.parser payload with
    | .ok parsed => (parsed, false)
    | .error error => (errorEntry error.message, true)

/-- The end of one turn of the loop. -/
def afterCommand (c : Collector) (spec : CommandSpec) (answer : Except String Bytes) :
    Collector :=
  let (entry, failed) := evaluate spec answer
  let next := { c with
    results := store c.results spec.key entry
    consecutiveFailures := if failed then c.consecutiveFailures + 1 else 0 }
  if next.consecutiveFailures ≥ maxConsecutiveFailures then next.close .returned
  else { next with pc := .sleeping }

/-- The task goes on where its call has ended; a `CancelledError` leaves the loop. -/
def settle (c : Collector) (spec : CommandSpec) (call : Nat) (writeMessage : String) :
    Collector :=
  match (c.session.calls[call]?).map Call.pc with
  | some (.returned payload) => c.afterCommand spec (.ok payload)
  | some (.raised .cancelled) => c.close .cancelled
  | some (.raised error) => c.afterCommand spec (.error (errorText spec writeMessage error))
  | _ => { c with pc := .sending spec call }

/-- The next turn of the loop, or the end of the loop. -/
def nextCommand (c : Collector) : Collector :=
  match c.remaining with
  | [] => c.close .returned
  | spec :: rest => match c.session.txHandle with
    | none => afterCommand { c with remaining := rest } spec
        (.error "TX characteristic not initialized")
    | some _ =>
      settle { c with
        remaining := rest
        session := c.session.sendCommand spec.commandId.toNat [] } spec c.session.calls.length ""

end Collector

/-- The `await` is a call of the proxy in `connect`, which may raise. -/
def CollectPc.callsProxy : CollectPc → Bool
  | .connecting | .gettingServices | .startingNotify => true
  | _ => false

def collectStep (strings : StringMethods) (label : String) (c : Collector) :
    CollectEvent → Option Collector
  | .connectReturns => match c.pc with
    | .connecting => some { c with stateSubscribed := true, pc := .awaitingState }
    | _ => none
  | .stateReported connected errorText => match c.pc with
    | .awaitingState =>
      if connected then some { c with pc := .gettingServices }
      else some (c.close (.raised ("BLE connection to " ++ label ++ " failed: " ++ errorText)))
    | _ => none
  | .servicesReturn services => match c.pc with
    | .gettingServices => match findTxHandle strings services with
      | .ok handle => some { c with
          session := { c.session with txHandle := some handle }
          pc := .startingNotify }
      | .error message => some (c.close (.raised message))
    | _ => none
  | .notifyStarts => match c.pc with
    | .startingNotify => some (Collector.nextCommand { c with notifying := true })
    | _ => none
  | .connectRaises message => if c.pc.callsProxy then some (c.close (.raised message)) else none
  | .moves move message => match c.pc with
    | .sending spec call => (c.session.moveCall call move).map fun session =>
        Collector.settle { c with session } spec call message
    | _ => none
  | .wakes => match c.pc with
    | .sleeping => some c.nextCommand
    | _ => none
  -- in `send_command` a cancellation is a move of the call
  | .cancel => match c.pc with
    | .sending _ _ | .finished _ => none
    | .stoppingNotify _ | .disconnecting _ => some { c with pc := .finished .cancelled }
    | _ => some (c.close .cancelled)
  | .notifyStopped => match c.pc with
    | .stoppingNotify outcome => some { c with
        notifying := false
        pc := .disconnecting outcome
        disconnects := c.disconnects + 1 }
    | _ => none
  | .disconnectEnds => match c.pc with
    | .disconnecting outcome => some { c with stateSubscribed := false, pc := .finished outcome }
    | _ => none
  | .disconnectRaises message => match c.pc with
    | .disconnecting _ => some { c with pc := .finished (.raised message) }
    | _ => none
  | .notification data => some { c with session := c.session.handleNotification data }

/-- The state when the task begins to connect. -/
def Collector.start (specs : List CommandSpec) : Collector :=
  { session := BLEDeviceSession.start, remaining := specs }

end MarstekBle.Standalone
