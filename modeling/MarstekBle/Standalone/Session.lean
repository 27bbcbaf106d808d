/- module: Standalone/Session
   source: standalone_test/marstek_basic_info.py
   digest: `BLEDeviceSession`: the calls of `send_command`, their futures, and the queues. -/

import Mathlib.Logic.Function.Basic
import MarstekBle.Protocol.Codec
import MarstekBle.Protocol.FrameBuffer

/-!
Every call of `send_command` creates one future, so a call and its future share
a number: the position of the call among all calls of the session. The event
loop runs one piece of a task, or one callback, at a time; a task that is
cancelled, by its caller or by the timeout of `wait_for`, notices only when it
runs again.
-/

set_option autoImplicit false
set_option relaxedAutoImplicit false

namespace MarstekBle.Standalone

open MarstekBle.Data MarstekBle.Protocol

inductive FutureState where
  | pending
  | result (payload : Bytes)
  | exception (message : String)
  | cancelled
  deriving DecidableEq

/-- What `send_command` raises. -/
inductive CommandError where
  | cannotBuild (error : PyError)
  | writeFailed
  | timedOut
  | failed (message : String)
  | cancelled
  deriving DecidableEq

/-- Where a call is. -/
inductive CallPc where
  /-- in `bluetooth_gatt_write` -/
  | writing (frame : Bytes)
  /-- in `wait_for` -/
  | waiting
  /-- the timeout of `wait_for` has cancelled the task, which has not run yet -/
  | expired
  /-- the task was cancelled and has not run yet -/
  | cancelling
  | returned (payload : Bytes)
  | raised (error : CommandError)
  deriving DecidableEq

structure Call where
  command : Int
  future : FutureState
  pc : CallPc
  deriving DecidableEq

/-- What happens to one call. -/
inductive CallMove where
  | writeReturns
  | writeFails
  | expires
  | cancel
  | resumes
  deriving DecidableEq

/-- `await` of the future, and whether the handler for `Exception` removes it from the queue. A
`CancelledError` is no `Exception`. -/
def Call.awaitFuture (call : Call) : Call × Bool := match call.future with
  | .pending => ({ call with pc := .waiting }, false)
  | .result payload => ({ call with pc := .returned payload }, false)
  | .exception message => ({ call with pc := .raised (.failed message) }, true)
  | .cancelled => ({ call with pc := .raised .cancelled }, false)

/-- `task.cancel()` in `wait_for`: a future that is not done is cancelled at once. -/
def Call.cancelFuture (call : Call) (pc : CallPc) : Call :=
  { call with
    future := if call.future = .pending then .cancelled else call.future
    pc := pc }

/-- The call after a move that is possible where it is, and whether the move removes its future
from the queue. -/
def Call.move (call : Call) : CallMove → Option (Call × Bool)
  | .writeReturns => match call.pc with
    | .writing _ => some call.awaitFuture
    | _ => none
  | .writeFails => match call.pc with
    | .writing _ => some ({ call with pc := .raised .writeFailed }, true)
    | _ => none
  | .expires => match call.pc with
    | .waiting => some (call.cancelFuture .expired, false)
    | _ => none
  | .cancel => match call.pc with
    | .writing _ | .expired => some ({ call with pc := .cancelling }, false)
    | .waiting => some (call.cancelFuture .cancelling, false)
    | _ => none
  | .resumes => match call.pc with
    | .waiting => if call.future = .pending then none else some call.awaitFuture
    | .expired => some ({ call with pc := .raised .timedOut }, true)
    | .cancelling => some ({ call with pc := .raised .cancelled }, false)
    | _ => none

/-- `future.set_result(payload)`, unless the future is done. -/
def Call.receive (payload : Bytes) (call : Call) : Call :=
  if call.future = .pending then { call with future := .result payload } else call

structure BLEDeviceSession where
  txHandle : Option Nat
  closed : Bool
  decoder : Bytes
  /-- `_pending`; an absent key has an empty queue -/
  pending : Int → List Nat
  calls : List Call

namespace BLEDeviceSession

/-- A new session. -/
def start : BLEDeviceSession := ⟨none, false, [], fun _ => [], []⟩

def setQueue (s : BLEDeviceSession) (command : Int) (queue : List Nat) : BLEDeviceSession :=
  { s with pending := Function.update s.pending command queue }

/-- `send_command` up to its first suspension. The future is queued before the frame is built,
outside the `try`. -/
def sendCommand (s : BLEDeviceSession) (command : Int) (payload : Bytes) : BLEDeviceSession :=
  match s.txHandle with
  | none => s
  | some _ =>
    let s' := s.setQueue command (s.pending command ++ [s.calls.length])
    match Protocol.Standalone.createCommandFrame command (some payload) with
    | .ok frame => { s' with calls := s.calls ++ [⟨command, .pending, .writing frame⟩] }
    | .error error =>
      { s' with calls := s.calls ++ [⟨command, .pending, .raised (.cannotBuild error)⟩] }

def moveCall (s : BLEDeviceSession) (id : Nat) (move : CallMove) : Option BLEDeviceSession :=
  (s.calls[id]?).bind fun call => (call.move move).map fun (call', removes) =>
    let s' := { s with calls := s.calls.set id call' }
    if removes then s'.setQueue call.command ((s.pending call.command).erase id) else s'

/-- What `_handle_notification` does with one parsed frame. -/
def handleReply (s : BLEDeviceSession) (reply : Byte × Bytes) : BLEDeviceSession :=
  match s.pending reply.1.toNat with
  | [] => s
  | future :: queue =>
    { s.setQueue reply.1.toNat queue with
      calls := s.calls.modify future (Call.receive reply.2) }

/-- The loop of `_handle_notification`; only a `ValueError` is caught. -/
def handleFrames : List Bytes → BLEDeviceSession → BLEDeviceSession
  | [], s => s
  | frame :: frames, s => match parseFrame frame with
    | .ok reply => handleFrames frames (s.handleReply reply)
    | .error error => if error.kind = .valueError then handleFrames frames s else s

/-- `_handle_notification`. -/
def handleNotification (s : BLEDeviceSession) (data : Bytes) : BLEDeviceSession :=
  let fed := FrameBuffer.feed s.decoder data
  handleFrames fed.1 { s with decoder := fed.2 }

/-- The exception of a future that is queued and not done; futures are queued under the command of
their call. -/
def failQueued (s : BLEDeviceSession) (id : Nat) (call : Call) : Call :=
  if id ∈ s.pending call.command ∧ call.future = .pending then
    { call with future := .exception "Session closed" }
  else call

/-- `close` up to its first suspension; the rest does not come back to the queues. -/
def close (s : BLEDeviceSession) : BLEDeviceSession :=
  if s.closed then s
  else { s with
    closed := true
    calls := s.calls.mapIdx s.failQueued
    pending := fun _ => [] }

end BLEDeviceSession

inductive SessionEvent where
  /-- `connect` finds the characteristics -/
  | connects (txHandle : Nat)
  | sendCommand (command : Int) (payload : Bytes)
  | moves (call : Nat) (move : CallMove)
  | notification (data : Bytes)
  | close
  deriving DecidableEq

def sessionStep (s : BLEDeviceSession) : SessionEvent → Option BLEDeviceSession
  | .connects txHandle => some { s with txHandle := some txHandle }
  | .sendCommand command payload => some (s.sendCommand command payload)
  | .moves call move => s.moveCall call move
  | .notification data => some (s.handleNotification data)
  | .close => some s.close

end MarstekBle.Standalone
