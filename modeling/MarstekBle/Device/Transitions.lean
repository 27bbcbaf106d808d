/- module: Device/Transitions
   source: custom_components/marstek_ble/marstek_device.py
   digest: What a step of a MarstekBLEDevice can be, branch by branch. -/

import MarstekBle.Device.MarstekBLEDevice

set_option autoImplicit false
set_option relaxedAutoImplicit false

namespace MarstekBle.Device

open MarstekBle.Data MarstekBle.Protocol

variable {config : Config} {s t : State} {e : Event}

/-- The statements an operation can execute. -/
inductive Ran (config : Config) (s : State) (op : Operation) : State → Prop where
  | alreadyConnected {k} (hpc : op.pc = .attempting) (more : op.attempt < op.call.retry)
    (up : s.connectedClient = some k) :
    Ran config s op (s.goto { op with attemptsMade := op.attempt + 1 } .ensured)
  | locks (hpc : op.pc = .attempting) (more : op.attempt < op.call.retry)
    (down : s.connectedClient = none) (free : s.connect = none) (first : s.connectWaiters = []) :
    Ran config s op (State.goto { s with connect := some .operation }
      { op with attemptsMade := op.attempt + 1 } .connectLocked)
  | queues (hpc : op.pc = .attempting) (more : op.attempt < op.call.retry)
    (down : s.connectedClient = none) :
    Ran config s op (State.goto { s with connectWaiters := s.connectWaiters ++ [.operation] }
      { op with attemptsMade := op.attempt + 1 } .awaitingConnect)
  | givesUp (hpc : op.pc = .attempting) (spent : op.call.retry ≤ op.attempt) :
    Ran config s op (s.goto op .exhausted)
  | connectedMeanwhile {k} (hpc : op.pc = .connectLocked) (up : s.connectedClient = some k) :
    Ran config s op (State.goto { s with connect := none } op .ensured)
  | establishes {device} (hpc : op.pc = .connectLocked) (down : s.connectedClient = none) :
    Ran config s op (State.goto { s with bleDevice := some device } op .establishing)
  | unavailable (hpc : op.pc = .connectLocked) (down : s.connectedClient = none) :
    Ran config s op (State.goto { s with connect := none } op (.failed (config.deviceName ++
      ": No connectable BLE device available to establish connection")))
  | cleans {k error} (hpc : op.pc = .connectFailed error) (up : s.connectedClient = some k) :
    Ran config s op (State.goto { s with
      client := none, notificationsStarted := false, expectedDisconnect := true } op
      (.cleaning k error))
  | nothingToClean {error} (hpc : op.pc = .connectFailed error)
    (down : s.connectedClient = none) :
    Ran config s op (State.goto { s with
      client := none, notificationsStarted := false, connect := none } op (.failed error))
  | writes {k} (hpc : op.pc = .ensured) (held : s.client = some k) :
    Ran config s op (State.goto { s with
      pendingCommand := some op.call.command, responseEvent := some .clear, responseData := none
      writes := s.writes ++ [⟨op.id, op.call.command, k⟩] } op .writing)
  | clientGone (hpc : op.pc = .ensured) (gone : s.client = none) :
    Ran config s op (State.goto { s with
      pendingCommand := some op.call.command, responseEvent := some .clear, responseData := none }
      op (.failed "'NoneType' object has no attribute 'write_gatt_char'"))
  | alreadyReplied {inReplyTo} (hpc : op.pc = .written)
    (event : s.responseEvent = some (.set inReplyTo)) :
    Ran config s op ((resetDisconnectTimer s).goto op .replied)
  | waits (hpc : op.pc = .written) :
    Ran config s op ((resetDisconnectTimer s).goto op .waiting)
  | succeeds {inReplyTo} (hpc : op.pc = .replied)
    (event : s.responseEvent = some (.set inReplyTo)) :
    Ran config s op (complete s.clearSlot op true inReplyTo)
  | succeedsUnset (hpc : op.pc = .replied)
    (event : ∀ inReplyTo, s.responseEvent ≠ some (.set inReplyTo)) :
    Ran config s op (complete s.clearSlot op true none)
  | timesOut (hpc : op.pc = .timedOut) :
    Ran config s op (s.clearSlot.goto
      { op with lastError := some "no_response", attempt := op.attempt + 1 } .attempting)
  | drops {k error} (hpc : op.pc = .failed error) (held : s.client = some k) :
    Ran config s op (State.goto { s.clearSlot with expectedDisconnect := true }
      { op with lastError := some error } (.dropping k))
  | nothingToDrop {error} (hpc : op.pc = .failed error) (gone : s.client = none) :
    Ran config s op (s.clearSlot.goto { op with lastError := some error } .retrying)
  | sleeps (hpc : op.pc = .retrying) : Ran config s op (s.goto op .backoff)
  | retries (hpc : op.pc = .retrying) :
    Ran config s op (s.goto { op with attempt := op.attempt + 1 } .attempting)
  | fails (hpc : op.pc = .exhausted) : Ran config s op (complete s op false none)

theorem ran_of_running {op : Operation} (running : op.pc.running = true) :
    Ran config s op (runOperation config s op) := by
  unfold runOperation
  cases hpc : op.pc with
  | attempting =>
    dsimp only
    split
    · rename_i more
      cases connected : s.connectedClient with
      | some k => exact .alreadyConnected hpc more connected
      | none =>
        show Ran config s op (requestConnect _ _)
        unfold requestConnect
        split
        · rename_i free
          exact .locks hpc more connected free.1 free.2
        · exact .queues hpc more connected
    · rename_i spent
      exact .givesUp hpc (by omega)
  | connectLocked =>
    cases connected : s.connectedClient with
    | some k => exact .connectedMeanwhile hpc connected
    | none =>
      dsimp only
      split
      · exact .establishes hpc connected
      · exact .unavailable hpc connected
  | connectFailed error =>
    cases connected : s.connectedClient with
    | some k => exact .cleans hpc connected
    | none => exact .nothingToClean hpc connected
  | ensured =>
    dsimp only
    split
    · rename_i held
      exact .writes hpc held
    · rename_i gone
      exact .clientGone hpc gone
  | written =>
    dsimp only
    split
    · rename_i event
      exact .alreadyReplied hpc event
    · exact .waits hpc
  | replied =>
    dsimp only
    split
    · rename_i event
      exact .succeeds hpc event
    · rename_i unset
      exact .succeedsUnset hpc unset
  | timedOut => exact .timesOut hpc
  | failed error =>
    dsimp only
    split
    · rename_i held
      exact .drops hpc held
    · rename_i gone
      exact .nothingToDrop hpc gone
  | retrying =>
    dsimp only
    split
    · exact .sleeps hpc
    · exact .retries hpc
  | exhausted => exact .fails hpc
  | _ => simp [hpc, OperationPc.running] at running

/-- How the `await` of an operation can end. -/
inductive Resumed (config : Config) (s : State) (op : Operation) : Outcome → State → Prop where
  | subscribes (hpc : op.pc = .establishing) (wanted : config.hasNotificationCallback = true)
    (fresh : s.notificationsStarted = false) :
    Resumed config s op .returned (State.goto ({ s with
      client := some s.clients, clients := s.clients + 1 }.setLink s.clients
        fun _ => { isConnected := true }) op (.startingNotify s.clients))
  | established (hpc : op.pc = .establishing)
    (skips : ¬ (config.hasNotificationCallback = true ∧ s.notificationsStarted = false)) :
    Resumed config s op .returned (State.goto { { s with
      client := some s.clients, clients := s.clients + 1 }.setLink s.clients
        fun _ => { isConnected := true } with connect := none } op .ensured)
  | subscribed {k} (hpc : op.pc = .startingNotify k) :
    Resumed config s op .returned (State.goto
      { s.setLink k fun link => { link with started := true } with
        notificationsStarted := true, connect := none } op .ensured)
  | cleaned {k error} (hpc : op.pc = .cleaning k error) :
    Resumed config s op .returned (State.goto { s.closeLink k with
      expectedDisconnect := false, connect := none } op (.failed error))
  | wrote (hpc : op.pc = .writing) : Resumed config s op .returned (s.goto op .written)
  | replied {inReplyTo} (hpc : op.pc = .waiting)
    (event : s.responseEvent = some (.set inReplyTo)) :
    Resumed config s op .returned (s.goto op .replied)
  | dropped {k} (hpc : op.pc = .dropping k) :
    Resumed config s op .returned (State.goto { s.closeLink k with
      expectedDisconnect := false, client := none, notificationsStarted := false } op .retrying)
  | slept (hpc : op.pc = .backoff) :
    Resumed config s op .returned (s.goto { op with attempt := op.attempt + 1 } .attempting)
  | establishFails {error} (hpc : op.pc = .establishing) :
    Resumed config s op (.raised error) (s.goto op (.connectFailed error))
  | subscribeFails {k error} (hpc : op.pc = .startingNotify k) :
    Resumed config s op (.raised error) (s.goto op (.connectFailed error))
  | cleanupFails {k first error} (hpc : op.pc = .cleaning k first) :
    Resumed config s op (.raised error) (State.goto { s with
      expectedDisconnect := false, connect := none } op (.failed first))
  | writeFails {error} (hpc : op.pc = .writing) :
    Resumed config s op (.raised error) (s.goto op (.failed error))
  | timesOut {error} (hpc : op.pc = .waiting) :
    Resumed config s op (.raised error) (s.goto op .timedOut)
  | dropFails {k error} (hpc : op.pc = .dropping k) :
    Resumed config s op (.raised error) (State.goto { s with
      expectedDisconnect := false, client := none, notificationsStarted := false } op .retrying)
  | cancelledQueueing (hpc : op.pc = .awaitingConnect) :
    Resumed config s op .cancelled (abandon { s with
      connectWaiters := s.connectWaiters.filter (· ≠ .operation) })
  | cancelledEstablishing (hpc : op.pc = .establishing) :
    Resumed config s op .cancelled (abandon { s with connect := none })
  | cancelledSubscribing {k} (hpc : op.pc = .startingNotify k) :
    Resumed config s op .cancelled (abandon { s with connect := none })
  | cancelledCleaning {k error} (hpc : op.pc = .cleaning k error) :
    Resumed config s op .cancelled
      (abandon { s with expectedDisconnect := false, connect := none })
  | cancelledWriting (hpc : op.pc = .writing) : Resumed config s op .cancelled (abandon s)
  | cancelledWaiting (hpc : op.pc = .waiting) :
    Resumed config s op .cancelled (abandon s.clearSlot)
  | cancelledDropping {k} (hpc : op.pc = .dropping k) :
    Resumed config s op .cancelled (abandon { s with expectedDisconnect := false })
  | cancelledSleeping (hpc : op.pc = .backoff) : Resumed config s op .cancelled (abandon s)

theorem resumed_cases {op : Operation} {outcome : Outcome}
    (h : resumeOperation config s op outcome = some t) : Resumed config s op outcome t := by
  cases outcome with
  | returned =>
    cases hpc : op.pc <;> simp only [resumeOperation, hpc, Option.some.injEq, reduceCtorEq] at h
    case establishing =>
      split at h <;> obtain rfl := Option.some.inj h
      · rename_i subscribe
        exact .subscribes hpc subscribe.1 subscribe.2
      · rename_i skips
        exact .established hpc skips
    case waiting =>
      split at h
      · rename_i event
        obtain rfl := Option.some.inj h
        exact .replied hpc event
      · cases h
    all_goals subst h
    case startingNotify => exact .subscribed hpc
    case cleaning => exact .cleaned hpc
    case writing => exact .wrote hpc
    case dropping => exact .dropped hpc
    case backoff => exact .slept hpc
  | raised error =>
    cases hpc : op.pc <;> simp only [resumeOperation, hpc, Option.some.injEq, reduceCtorEq] at h <;>
      subst h
    case establishing => exact .establishFails hpc
    case startingNotify => exact .subscribeFails hpc
    case cleaning => exact .cleanupFails hpc
    case writing => exact .writeFails hpc
    case waiting => exact .timesOut hpc
    case dropping => exact .dropFails hpc
  | cancelled =>
    cases hpc : op.pc <;> simp only [resumeOperation, hpc, Option.some.injEq, reduceCtorEq] at h <;>
      subst h
    case awaitingConnect => exact .cancelledQueueing hpc
    case establishing => exact .cancelledEstablishing hpc
    case startingNotify => exact .cancelledSubscribing hpc
    case cleaning => exact .cancelledCleaning hpc
    case writing => exact .cancelledWriting hpc
    case waiting => exact .cancelledWaiting hpc
    case dropping => exact .cancelledDropping hpc
    case backoff => exact .cancelledSleeping hpc

/-- The statements `disconnect` and `_execute_disconnect` can execute under the
connection lock. -/
inductive HolderRan (s : State) : Holder → State → Prop where
  | stops {k} (up : s.connectedClient = some k) (subscribed : s.notificationsStarted = true) :
    HolderRan s (.disconnecting .entered)
      { s.setLink k fun link => { link with stopped := true } with
        connect := some (.disconnecting (.stopping k)) }
  | nothingToStop {k} (up : s.connectedClient = some k)
    (unsubscribed : s.notificationsStarted = false) :
    HolderRan s (.disconnecting .entered) { s with connect := some (.disconnecting .stopped) }
  | alreadyClosed (down : s.connectedClient = none) :
    HolderRan s (.disconnecting .entered) { s with connect := some (.disconnecting .closed) }
  | closes {k} (held : s.client = some k) :
    HolderRan s (.disconnecting .stopped) { s with
      notificationsStarted := false, expectedDisconnect := true
      connect := some (.disconnecting (.closing k)) }
  | clientGone (gone : s.client = none) :
    HolderRan s (.disconnecting .stopped) { s with
      notificationsStarted := false, expectedDisconnect := true, connect := none }
  | releases : HolderRan s (.disconnecting .closed) { s with client := none, connect := none }
  | idleCloses {k} (up : s.connectedClient = some k) :
    HolderRan s (.idling .entered) { s with
      expectedDisconnect := true, connect := some (.idling (.closing k)) }
  | idleClosed (down : s.connectedClient = none) :
    HolderRan s (.idling .entered) { s with connect := some (.idling .closed) }
  | idleReleases : HolderRan s (.idling .closed) { s with disconnectTimer := none, connect := none }

theorem holderRan_of_running {holder : Holder} (running : holder.running = true) :
    HolderRan s holder (runHolder s holder) := by
  cases holder with
  | operation => cases running
  | disconnecting pc =>
    cases pc with
    | entered =>
      unfold runHolder
      cases connected : s.connectedClient with
      | none => exact .alreadyClosed connected
      | some k =>
        dsimp only
        split
        · rename_i subscribed
          exact .stops connected subscribed
        · rename_i unsubscribed
          exact .nothingToStop connected (Bool.not_eq_true _ ▸ unsubscribed)
    | stopped =>
      unfold runHolder
      dsimp only
      split
      · rename_i held
        exact .closes held
      · rename_i gone
        exact .clientGone gone
    | closed => exact .releases
    | _ => cases running
  | idling pc =>
    cases pc with
    | entered =>
      unfold runHolder
      cases connected : s.connectedClient with
      | some k => exact .idleCloses connected
      | none => exact .idleClosed connected
    | closed => exact .idleReleases
    | closing k => cases running

/-- How the `await` of a disconnect under the connection lock can end. -/
inductive HolderResumed (s : State) : Holder → State → Prop where
  | stopped {k} : HolderResumed s (.disconnecting (.stopping k))
      { s with connect := some (.disconnecting .stopped) }
  | closed {k} : HolderResumed s (.disconnecting (.closing k))
      { s.closeLink k with connect := some (.disconnecting .closed) }
  | idleClosed {k} : HolderResumed s (.idling (.closing k))
      { s.closeLink k with connect := some (.idling .closed) }
  | leaves {holder} (other : holder ≠ .operation) (suspended : holder.running = false) :
    HolderResumed s holder { s with connect := none }

theorem holderResumed_cases {holder : Holder} {outcome : Outcome}
    (h : resumeHolder s holder outcome = some t) : HolderResumed s holder t := by
  unfold resumeHolder at h
  split at h
  case h_10 => cases h
  all_goals obtain rfl := Option.some.inj h
  · exact .stopped
  · exact .stopped
  · exact .closed
  · exact .idleClosed
  all_goals exact .leaves nofun rfl

/-- The deliveries other than the end of an `await`. -/
inductive Delivered (s : State) : Event → State → Prop where
  | refused {call error} (h : buildCommand call.command call.payload = .error error) :
    Delivered s (.sendCommand call) s
  | begins {call frame} (h : buildCommand call.command call.payload = .ok frame)
    (free : s.operation = none) : Delivered s (.sendCommand call) { s with
      calls := s.calls + 1
      operation := some { toCaller := ⟨s.calls, call, frame⟩ } }
  | queues {call frame} (h : buildCommand call.command call.payload = .ok frame) :
    Delivered s (.sendCommand call) { s with
      calls := s.calls + 1
      operationWaiters := s.operationWaiters ++ [⟨s.calls, call, frame⟩] }
  | cancelCaller {position} : Delivered s (.cancelCaller position) { s with
      operationWaiters := s.operationWaiters.eraseIdx position }
  | enterOperation {caller rest} (free : s.operation = none)
    (queue : s.operationWaiters = caller :: rest) : Delivered s .enterOperation { s with
      operation := some { toCaller := caller }
      operationWaiters := rest }
  | disconnect : Delivered s .disconnect
      (requestConnect { cancelTimer s with disconnectTimer := none } .disconnect)
  | cancelConnectWaiter {position waiter} (queue : s.connectWaiters[position]? = some waiter)
    (other : waiter ≠ .operation) : Delivered s (.cancelConnectWaiter position) { s with
      connectWaiters := s.connectWaiters.eraseIdx position }
  | enterConnect {waiter rest} (free : s.connect = none)
    (queue : s.connectWaiters = waiter :: rest) :
    Delivered s .enterConnect (takeConnect { s with connectWaiters := rest } waiter)
  | timerFires {timer} (h : timer ∈ s.scheduled) : Delivered s (.timerFires timer) { s with
      scheduled := s.scheduled.filter (· ≠ timer)
      idleTasks := s.idleTasks + 1 }
  | idleStarts (h : 0 < s.idleTasks) : Delivered s .idleStarts
      (requestConnect { s with idleTasks := s.idleTasks - 1 } .idle)
  | linkLost {k} (h : (s.links k).isConnected = true) : Delivered s (.linkLost k) (s.closeLink k)
  | disconnected {k} (returned : k < s.clients) (lost : (s.links k).isConnected = false) :
    Delivered s (.disconnected k)
      (onDisconnect (s.setLink k fun link => { link with reported := true }))
  | notification {sender data parsed inReplyTo} :
    Delivered s (.notification sender data parsed inReplyTo)
      (recordNotification s sender data parsed inReplyTo)
  | registryChanges {device} : Delivered s (.registryChanges device) { s with registry := device }

theorem deliver_cases (delivered : deliver config s e = some t) :
    (∃ outcome op, e = .operationResumes outcome ∧ s.operation = some op ∧
      Resumed config s op outcome t) ∨
    (∃ outcome holder, e = .holderResumes outcome ∧ s.connect = some holder ∧
      HolderResumed s holder t) ∨ Delivered s e t := by
  cases e with
  | operationResumes outcome =>
    obtain ⟨op, hop, resumed⟩ := Option.bind_eq_some_iff.mp delivered
    exact .inl ⟨outcome, op, rfl, hop, resumed_cases resumed⟩
  | holderResumes outcome =>
    obtain ⟨holder, hconnect, resumed⟩ := Option.bind_eq_some_iff.mp delivered
    exact .inr (.inl ⟨outcome, holder, rfl, hconnect, holderResumed_cases resumed⟩)
  | sendCommand call =>
    refine .inr (.inr ?_)
    simp only [deliver] at delivered
    split at delivered
    · rename_i error refused
      obtain rfl := Option.some.inj delivered
      exact .refused refused
    · rename_i frame built
      split at delivered <;> obtain rfl := Option.some.inj delivered
      · rename_i free
        exact .begins built (Option.isNone_iff_eq_none.mp free.1)
      · exact .queues built
  | enterOperation =>
    refine .inr (.inr ?_)
    simp only [deliver] at delivered
    split at delivered
    · rename_i caller rest free queue
      obtain rfl := Option.some.inj delivered
      exact .enterOperation free queue
    · cases delivered
  | enterConnect =>
    refine .inr (.inr ?_)
    simp only [deliver] at delivered
    split at delivered
    · rename_i waiter rest free queue
      obtain rfl := Option.some.inj delivered
      exact .enterConnect free queue
    · cases delivered
  | cancelConnectWaiter position =>
    refine .inr (.inr ?_)
    simp only [deliver, Option.ite_none_right_eq_some, Option.some.injEq] at delivered
    obtain ⟨some_other, rfl⟩ := delivered
    cases queue : s.connectWaiters[position]? with
    | none => simp [queue] at some_other
    | some waiter => exact .cancelConnectWaiter queue (by simpa [queue] using some_other)
  | cancelCaller position =>
    simp only [deliver, Option.ite_none_right_eq_some, Option.some.injEq] at delivered
    exact .inr (.inr (delivered.2 ▸ .cancelCaller))
  | timerFires timer =>
    simp only [deliver, Option.ite_none_right_eq_some, Option.some.injEq] at delivered
    exact .inr (.inr (delivered.2 ▸ .timerFires delivered.1))
  | idleStarts =>
    simp only [deliver, Option.ite_none_right_eq_some, Option.some.injEq] at delivered
    exact .inr (.inr (delivered.2 ▸ .idleStarts delivered.1))
  | linkLost k =>
    simp only [deliver, Option.ite_none_right_eq_some, Option.some.injEq] at delivered
    exact .inr (.inr (delivered.2 ▸ .linkLost delivered.1))
  | disconnected k =>
    simp only [deliver, Option.ite_none_right_eq_some, Option.some.injEq] at delivered
    exact .inr (.inr (delivered.2 ▸ .disconnected delivered.1.1 delivered.1.2.1))
  | disconnect =>
    obtain rfl := Option.some.inj delivered
    exact .inr (.inr .disconnect)
  | notification sender data parsed inReplyTo =>
    obtain rfl := Option.some.inj delivered
    exact .inr (.inr .notification)
  | registryChanges device =>
    obtain rfl := Option.some.inj delivered
    exact .inr (.inr .registryChanges)
  | run => cases delivered

/-- A step is a statement of the operation, a statement of the connection lock's
holder while the operation is at an `await`, or an event delivered while no task is
between two awaits. -/
theorem step_cases (h : step config s e = some t) :
    (e = .run ∧ ∃ op, s.operation = some op ∧ Ran config s op t) ∨
    (e = .run ∧ s.suspended = true ∧ ∃ holder, s.connect = some holder ∧ HolderRan s holder t) ∨
    (s.quiet = true ∧ deliver config s e = some t) := by
  cases e with
  | run =>
    simp only [step, runTask] at h
    cases hop : s.operation with
    | some op =>
      simp only [hop] at h
      split at h
      · rename_i running
        obtain rfl := Option.some.inj h
        exact .inl ⟨rfl, op, rfl, ran_of_running running⟩
      · rename_i suspended
        have suspended : s.suspended = true := by
          simpa [State.suspended, State.pc, hop] using suspended
        cases hconnect : s.connect with
        | none => simp [hconnect] at h
        | some holder =>
          simp only [hconnect, Option.ite_none_right_eq_some, Option.some.injEq] at h
          obtain ⟨running, rfl⟩ := h
          exact .inr (.inl ⟨rfl, suspended, holder, rfl, holderRan_of_running running⟩)
    | none =>
      have suspended : s.suspended = true := by simp [State.suspended, State.pc, hop]
      cases hconnect : s.connect with
      | none => simp [hop, hconnect] at h
      | some holder =>
        simp only [hop, hconnect, Option.ite_none_right_eq_some, Option.some.injEq] at h
        obtain ⟨running, rfl⟩ := h
        exact .inr (.inl ⟨rfl, suspended, holder, rfl, holderRan_of_running running⟩)
  | _ =>
    simp only [step, Option.ite_none_right_eq_some] at h
    exact .inr (.inr h)

end MarstekBle.Device
