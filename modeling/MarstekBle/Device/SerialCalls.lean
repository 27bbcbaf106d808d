/- module: Device/SerialCalls
   source: custom_components/marstek_ble/marstek_device.py
   digest: Calls of send_command without cancellation, disconnect or idle expiry. -/

import MarstekBle.Device.Callers

set_option autoImplicit false
set_option relaxedAutoImplicit false

namespace MarstekBle.Device

open MarstekBle.Data MarstekBle.Protocol

variable {config : Config} {s t : State} {e : Event}

/-- Neither a cancellation nor `disconnect()` nor the expiry of the idle timer. -/
def Event.undisturbing : Event → Bool
  | .cancelCaller _ | .disconnect | .cancelConnectWaiter _ | .timerFires _ => false
  | .operationResumes .cancelled | .holderResumes .cancelled => false
  | _ => true

/-- A statement of the operation, or the end of its `await`. -/
def Event.ofOperation : Event → Bool
  | .run | .operationResumes _ => true
  | _ => false

/-- Only the operation uses the connection lock, and nobody queues for it. -/
structure Serial (s : State) : Prop where
  holder : ∀ holder, s.connect = some holder → holder = .operation
  unqueued : s.connectWaiters = []
  noIdleTask : s.idleTasks = 0

/-! ### What a step can be -/

/-- What arrives while the operation is at an `await`, or while there is none. -/
inductive Arrived (s : State) : Event → State → Prop where
  | refused {call error} (h : buildCommand call.command call.payload = .error error) :
    Arrived s (.sendCommand call) s
  | begins {call frame} (h : buildCommand call.command call.payload = .ok frame)
    (free : s.operation = none) (first : s.operationWaiters = []) :
    Arrived s (.sendCommand call) { s with
      calls := s.calls + 1
      operation := some { toCaller := ⟨s.calls, call, frame⟩ } }
  | queues {call frame} (h : buildCommand call.command call.payload = .ok frame) :
    Arrived s (.sendCommand call) { s with
      calls := s.calls + 1
      operationWaiters := s.operationWaiters ++ [⟨s.calls, call, frame⟩] }
  | enters {caller rest} (free : s.operation = none)
    (queue : s.operationWaiters = caller :: rest) : Arrived s .enterOperation { s with
      operation := some { toCaller := caller }
      operationWaiters := rest }
  | linkLost {k} : Arrived s (.linkLost k) (s.closeLink k)
  | disconnected {k} : Arrived s (.disconnected k)
      (onDisconnect (s.setLink k fun link => { link with reported := true }))
  | notification {sender data parsed inReplyTo} :
    Arrived s (.notification sender data parsed inReplyTo)
      (recordNotification s sender data parsed inReplyTo)
  | registryChanges {device} : Arrived s (.registryChanges device) { s with registry := device }

/-- A statement of the operation, the end of its `await`, or an arrival. -/
inductive Advanced (config : Config) (s : State) : Event → State → Prop where
  | ran {op after} (hop : s.operation = some op) (ran : Ran config s op after)
    (unqueued : after.connectWaiters = []) : Advanced config s .run after
  | resumed {op outcome after} (hop : s.operation = some op) (kept : outcome ≠ .cancelled)
    (resumed : Resumed config s op outcome after) :
    Advanced config s (.operationResumes outcome) after
  | arrived {event after} (suspended : s.suspended = true) (arrived : Arrived s event after) :
    Advanced config s event after

theorem Serial.free (serial : Serial s) (control : Control s) {pc : OperationPc}
    (hpc : s.pc = some pc) (outside : pc.locked = false) : s.connect = none := by
  cases held : s.connect with
  | none => rfl
  | some holder =>
    obtain rfl := serial.holder holder held
    have inside := control.holds.mp held
    rw [hpc, Option.any_some, outside] at inside
    cases inside

/-- The lock is taken at once: the operation never queues for it. -/
theorem Serial.locks (serial : Serial s) (control : Control s) {op : Operation}
    (hop : s.operation = some op) (ran : Ran config s op t)
    (h : step config s .run = some t) : t.connectWaiters = [] := by
  cases ran
  case queues hpc more down =>
    have free := serial.free control (by rw [State.pc, hop]; exact congrArg some hpc) rfl
    simp only [step, runTask, hop, hpc, OperationPc.running, if_true, runOperation, more, down,
      requestConnect, State.goto, free, serial.unqueued, and_self, takeConnect] at h
    cases congrArg State.connect (Option.some.inj h)
  all_goals exact serial.unqueued

theorem arrived_of_sendCommand {call : Call}
    (h : deliver config s (.sendCommand call) = some t) : Arrived s (.sendCommand call) t := by
  simp only [deliver] at h
  split at h
  · rename_i error refused
    obtain rfl := Option.some.inj h
    exact .refused refused
  · rename_i frame built
    split at h <;> obtain rfl := Option.some.inj h
    · rename_i free
      exact .begins built (Option.isNone_iff_eq_none.mp free.1) (List.isEmpty_iff.mp free.2)
    · exact .queues built

theorem advanced_of_delivered (serial : Serial s) (undisturbing : e.undisturbing = true)
    (suspended : s.suspended = true) (h : deliver config s e = some t)
    (delivered : Delivered s e t) : Advanced config s e t := by
  cases delivered with
  | refused _ => exact .arrived suspended (arrived_of_sendCommand h)
  | begins _ _ => exact .arrived suspended (arrived_of_sendCommand h)
  | queues _ => exact .arrived suspended (arrived_of_sendCommand h)
  | enterOperation free queue => exact .arrived suspended (.enters free queue)
  | linkLost _ => exact .arrived suspended .linkLost
  | disconnected _ _ => exact .arrived suspended .disconnected
  | notification => exact .arrived suspended .notification
  | registryChanges => exact .arrived suspended .registryChanges
  | idleStarts started =>
    rw [serial.noIdleTask] at started
    cases started
  | enterConnect _ queue =>
    rw [serial.unqueued] at queue
    cases queue
  | cancelCaller => cases undisturbing
  | disconnect => cases undisturbing
  | cancelConnectWaiter _ _ => cases undisturbing
  | timerFires _ => cases undisturbing

theorem advanced_of_step (control : Control s) (serial : Serial s)
    (undisturbing : e.undisturbing = true) (h : step config s e = some t) :
    Advanced config s e t := by
  rcases step_cases h with ⟨rfl, op, hop, ran⟩ | ⟨rfl, _, holder, hconnect, ran⟩ |
    ⟨quiet, delivered⟩
  · exact .ran hop ran (serial.locks control hop ran h)
  · obtain rfl := serial.holder holder hconnect
    cases ran
  · have suspended : s.suspended = true := (Bool.and_eq_true_iff.mp quiet).1
    rcases deliver_cases delivered with ⟨outcome, op, rfl, hop, resumed⟩ |
      ⟨outcome, holder, rfl, hconnect, resumed⟩ | arrived
    · refine .resumed hop ?_ resumed
      rintro rfl
      cases undisturbing
    · obtain rfl := serial.holder holder hconnect
      cases resumed
      case leaves other _ => exact absurd rfl other
    · exact advanced_of_delivered serial undisturbing suspended delivered arrived

/-- The operation lock is held as before, or by a call that has done nothing yet. -/
theorem operation_of_arrived (arrived : Arrived s e t) : t.operation = s.operation ∨
    s.operation = none ∧ ∃ caller, t.operation = some { toCaller := caller } := by
  cases arrived with
  | begins _ free _ => exact .inr ⟨free, _, rfl⟩
  | enters free _ => exact .inr ⟨free, _, rfl⟩
  | @notification sender data parsed inReplyTo =>
    obtain ⟨_, _, _, recorded⟩ := recordNotification_eq s sender data parsed inReplyTo
    rw [recorded]
    exact .inl rfl
  | _ => exact .inl rfl

theorem serial_initial (device : Option String) : Serial (initial device) :=
  ⟨nofun, rfl, rfl⟩

theorem serial_arrived (serial : Serial s) (arrived : Arrived s e t) : Serial t := by
  cases arrived with
  | @notification sender data parsed inReplyTo =>
    obtain ⟨_, _, _, recorded⟩ := recordNotification_eq s sender data parsed inReplyTo
    rw [recorded]
    exact ⟨serial.holder, serial.unqueued, serial.noIdleTask⟩
  | _ => exact ⟨serial.holder, serial.unqueued, serial.noIdleTask⟩

/-- The operation takes the connection lock, releases it, or leaves it as it is. -/
theorem connect_of_ran {op : Operation} (ran : Ran config s op t) :
    t.connect = s.connect ∨ t.connect = none ∨ t.connect = some .operation := by
  cases ran with
  | locks => exact .inr (.inr rfl)
  | connectedMeanwhile => exact .inr (.inl rfl)
  | unavailable => exact .inr (.inl rfl)
  | nothingToClean => exact .inr (.inl rfl)
  | _ => exact .inl rfl

theorem connect_of_resumed {op : Operation} {outcome : Outcome}
    (resumed : Resumed config s op outcome t) : t.connect = s.connect ∨ t.connect = none := by
  cases resumed with
  | established => exact .inr rfl
  | subscribed => exact .inr rfl
  | cleaned => exact .inr rfl
  | cleanupFails => exact .inr rfl
  | cancelledEstablishing => exact .inr rfl
  | cancelledSubscribing => exact .inr rfl
  | cancelledCleaning => exact .inr rfl
  | _ => exact .inl rfl

theorem serial_advanced (serial : Serial s) (advanced : Advanced config s e t) : Serial t := by
  cases advanced with
  | ran hop ran unqueued =>
    refine ⟨fun holder held => ?_, unqueued, ?_⟩
    · rcases connect_of_ran ran with same | free | own
      · exact serial.holder holder (same ▸ held)
      · rw [free] at held
        cases held
      · rw [own] at held
        exact (Option.some.inj held).symm
    · have tasks : t.idleTasks = s.idleTasks := by cases ran <;> rfl
      rw [tasks]
      exact serial.noIdleTask
  | resumed hop kept resumed =>
    refine ⟨fun holder held => ?_, ?_, ?_⟩
    · rcases connect_of_resumed resumed with same | free
      · exact serial.holder holder (same ▸ held)
      · rw [free] at held
        cases held
    · cases resumed
      case cancelledQueueing => exact absurd rfl kept
      all_goals exact serial.unqueued
    · have tasks : t.idleTasks = s.idleTasks := by cases resumed <;> rfl
      rw [tasks]
      exact serial.noIdleTask
  | arrived _ arrived => exact serial_arrived serial arrived

/-! ### Every call returns -/

/-- How many statements and awaits are left in an attempt, at most. -/
def OperationPc.stepsLeft : OperationPc → Nat
  | .awaitingConnect | .connectLocked => 9
  | .establishing => 8
  | .startingNotify _ => 7
  | .connectFailed _ | .ensured => 6
  | .cleaning _ _ | .writing => 5
  | .failed _ | .written => 4
  | .dropping _ | .waiting => 3
  | .retrying | .replied | .timedOut => 2
  | .backoff => 1
  | .attempting | .exhausted => 0

/-- How many statements and awaits are left in a call, at most. -/
def Operation.stepsLeft (op : Operation) : Nat :=
  match op.pc with
  | .attempting => 10 * (op.call.retry - op.attempt) + 2
  | .exhausted => 1
  | pc => 10 * (op.call.retry - (op.attempt + 1)) + 2 + pc.stepsLeft

/-- A statement of the call leaves fewer steps to the same call. -/
theorem stepsLeft_ran {op op' : Operation} (ran : Ran config s op t)
    (next : t.operation = some op') :
    op'.toCaller = op.toCaller ∧ op'.stepsLeft < op.stepsLeft := by
  cases ran
  case succeeds => cases next
  case succeedsUnset => cases next
  case fails => cases next
  all_goals
    obtain rfl := Option.some.inj next
    refine ⟨rfl, ?_⟩
    simp only [Operation.stepsLeft, OperationPc.stepsLeft, *]
    omega

theorem stepsLeft_resumed {op op' : Operation} {outcome : Outcome}
    (resumed : Resumed config s op outcome t) (next : t.operation = some op') :
    op'.toCaller = op.toCaller ∧ op'.stepsLeft < op.stepsLeft := by
  cases outcome with
  | cancelled => cases resumed <;> cases next
  | _ =>
    cases resumed
    all_goals
      obtain rfl := Option.some.inj next
      refine ⟨rfl, ?_⟩
      simp only [Operation.stepsLeft, OperationPc.stepsLeft, *]
      omega

theorem Operation.stepsLeft_pos (op : Operation) : 0 < op.stepsLeft := by
  unfold Operation.stepsLeft
  split <;> omega

/-- Between two statements of the operation no task runs. -/
theorem Serial.quiet (serial : Serial s) (suspended : s.suspended = true) : s.quiet = true := by
  have held : s.connect.any Holder.running = false := by
    cases holds : s.connect with
    | none => rfl
    | some holder =>
      obtain rfl := serial.holder holder holds
      rfl
  rw [State.quiet, suspended, held]
  rfl

/-- The call under way can always go on. -/
theorem exists_step (control : Control s) (serial : Serial s) {op : Operation}
    (hop : s.operation = some op) :
    ∃ e, e.ofOperation = true ∧ e.undisturbing = true ∧ (step config s e).isSome = true := by
  cases running : op.pc.running with
  | true => exact ⟨.run, rfl, rfl, by simp [step, runTask, hop, running]⟩
  | false =>
    have quiet : s.quiet = true :=
      serial.quiet (by simp [State.suspended, State.pc, hop, running])
    have resumes : ∀ outcome, step config s (.operationResumes outcome) =
        resumeOperation config s op outcome := by
      intro outcome
      simp [step, quiet, deliver, hop]
    cases hpc : op.pc with
    | awaitingConnect =>
      have queued := control.queued
      rw [serial.unqueued, if_pos (by rw [State.pc, hop]; exact congrArg some hpc)] at queued
      cases queued
    | waiting =>
      -- the wait for a reply may run into its timeout at any time
      exact ⟨.operationResumes (.raised "TimeoutError"), rfl, rfl, by
        simp [resumes, resumeOperation, hpc]⟩
    | establishing =>
      refine ⟨.operationResumes .returned, rfl, rfl, ?_⟩
      rw [resumes]
      simp only [resumeOperation, hpc]
      split <;> rfl
    | startingNotify _ => exact ⟨.operationResumes .returned, rfl, rfl, by
        simp [resumes, resumeOperation, hpc]⟩
    | cleaning _ _ => exact ⟨.operationResumes .returned, rfl, rfl, by
        simp [resumes, resumeOperation, hpc]⟩
    | writing => exact ⟨.operationResumes .returned, rfl, rfl, by
        simp [resumes, resumeOperation, hpc]⟩
    | dropping _ => exact ⟨.operationResumes .returned, rfl, rfl, by
        simp [resumes, resumeOperation, hpc]⟩
    | backoff => exact ⟨.operationResumes .returned, rfl, rfl, by
        simp [resumes, resumeOperation, hpc]⟩
    | _ => simp [hpc, OperationPc.running] at running

/-- A call that waits for a free operation lock can enter. -/
theorem enters_of_free (serial : Serial s) (free : s.operation = none)
    (waiting : s.operationWaiters ≠ []) :
    (step config s .enterOperation).isSome = true := by
  have quiet : s.quiet = true := serial.quiet (by simp [State.suspended, State.pc, free])
  obtain ⟨caller, rest, queue⟩ := List.exists_cons_of_ne_nil waiting
  simp [step, quiet, deliver, free, queue]

end MarstekBle.Device
