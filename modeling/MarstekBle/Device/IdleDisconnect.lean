/- module: Device/IdleDisconnect
   source: custom_components/marstek_ble/marstek_device.py
   digest: When the idle timer and its task keep apart from the commands. -/

import MarstekBle.Device.Locks

set_option autoImplicit false
set_option relaxedAutoImplicit false

namespace MarstekBle.Device

open MarstekBle.Lib.GuardedRun

variable {config : Config} {s t : State} {e : Event}

/-- No idle disconnect is under way while an attempt has its connection. -/
def NotInterrupted (s : State) : Prop :=
  s.pc.any OperationPc.active = true → s.connect.any Holder.idleCloses = false

/-- At most one timer is scheduled, and it is the one in `_disconnect_timer`. -/
def TimerStored (s : State) : Prop :=
  s.scheduled.length ≤ 1 ∧ ∀ timer ∈ s.scheduled, s.disconnectTimer = some timer

/-- An expired timer's task has not finished. -/
def State.idlePending (s : State) : Prop :=
  0 < s.idleTasks ∨ Waiter.idle ∈ s.connectWaiters ∨ s.connect.any Holder.idles = true

/-- The step makes `_ensure_connected` return. -/
def ensureReturns (config : Config) (s : State) : Event → Bool
  | .run => match s.operation with
    | some op => match op.pc with
      | .attempting => decide (op.attempt < op.call.retry) && s.connectedClient.isSome
      | .connectLocked => s.connectedClient.isSome
      | _ => false
    | none => false
  | .operationResumes .returned => match s.pc with
    | some .establishing => !(config.hasNotificationCallback && !s.notificationsStarted)
    | some (.startingNotify _) => true
    | _ => false
  | _ => false

/-- No timer expires while an attempt has its connection, and `_ensure_connected`
does not return while the task of an expired timer is unfinished. -/
def IdleApart (config : Config) (s : State) (e : Event) : Prop :=
  match e with
  | .timerFires _ => s.pc.any OperationPc.active = false
  | _ => ensureReturns config s e = true → ¬ s.idlePending

/-! ### What the idle logic does to the client -/

/-- The device, and every client whose `disconnect()` an idle task has called. No step
reads `closed`. -/
structure Idling where
  device : State
  closed : List Nat := []

/-- The client whose `disconnect()` an idle task awaits. -/
def State.idleClosing (s : State) : Option Nat :=
  match s.connect with
  | some (.idling (.closing k)) => some k
  | _ => none

namespace Idling

def step (config : Config) (s : Idling) (e : Event) : Option Idling :=
  (Device.step config s.device e).map fun t => ⟨t, s.closed ++ t.idleClosing.toList⟩

/-- The event is the idle timer's, its task's, or the disconnect callback of a client
that an idle task has closed. -/
def ofIdleLogic (s : Idling) : Event → Bool
  | .timerFires _ | .idleStarts => true
  | .enterConnect => s.device.connectWaiters.head? == some .idle
  | .run => s.device.suspended && s.device.connect.any Holder.idles
  | .holderResumes _ => s.device.connect.any Holder.idles
  | .disconnected k => s.closed.contains k
  | _ => false

/-- The idle logic leaves the client of an attempt that has its connection. -/
def NotCleared (s : Idling) (e : Event) (t : Idling) : Prop :=
  s.device.pc.any OperationPc.active = true → s.ofIdleLogic e = true →
    t.device.client = s.device.client

/-- While an attempt has its connection and `_client` is set, no disconnect callback of
a client that an idle task has closed is delivered. -/
def CallbackApart (s : Idling) : Event → Prop
  | .disconnected k => k ∈ s.closed → s.device.pc.any OperationPc.active = true →
      s.device.client = none
  | _ => True

end Idling

theorem HolderRan.client_of_idling {pc : IdlePc} (ran : HolderRan s (.idling pc) t) :
    t.client = s.client := by
  cases ran <;> rfl

theorem Ran.running {op : Operation} (ran : Ran config s op t) : op.pc.running = true := by
  cases ran <;> simp_all [OperationPc.running]

/-- Of the idle logic, only the callback of a client touches `_client`. -/
theorem Idling.notCleared_of_callbackApart {s t : Idling} (apart : s.CallbackApart e)
    (next : Idling.step config s e = some t) : s.NotCleared e t := by
  intro active idle
  obtain ⟨device, moved, rfl⟩ := Option.map_eq_some_iff.mp next
  rcases step_cases moved with ⟨rfl, op, hop, ran⟩ |
    ⟨rfl, suspended, holder, hconnect, ran⟩ | ⟨still, delivered⟩
  · -- a statement of the operation is none of an idle task
    have suspended : s.device.suspended = true := (Bool.and_eq_true_iff.mp idle).1
    have at_pc : s.device.pc = some op.pc := by rw [State.pc, hop, Option.map_some]
    have running := ran.running
    rw [State.running_of_suspended suspended at_pc] at running
    cases running
  · have idles : s.device.connect.any Holder.idles = true := (Bool.and_eq_true_iff.mp idle).2
    rw [hconnect, Option.any_some] at idles
    cases holder with
    | idling pc => exact ran.client_of_idling
    | _ => cases idles
  · rcases deliver_cases delivered with ⟨outcome, op, rfl, hop, resumed⟩ |
      ⟨outcome, holder, rfl, hconnect, resumed⟩ | delivered
    · cases idle
    · exact resumed.client
    · cases delivered with
      | disconnected _ _ =>
        have closed := List.contains_iff_mem.mp idle
        exact (apart closed active).symm
      | idleStarts _ =>
        exact (requestConnect_connection { s.device with idleTasks := s.device.idleTasks - 1 }
          .idle).client
      | @enterConnect waiter _ _ _ => cases waiter <;> rfl
      | timerFires _ => rfl
      | _ => cases idle

/-! ### Attempts and idle tasks -/

/-- While an idle task is unfinished, no attempt has its connection and no timer is
scheduled. -/
structure TimersApart (s : State) : Prop where
  inactive : s.idlePending → s.pc.any OperationPc.active = false
  unscheduled : s.idlePending → s.scheduled = []
  stored : TimerStored s

theorem TimersApart.notInterrupted (h : TimersApart s) : NotInterrupted s := by
  intro active
  by_contra closes
  rw [Bool.not_eq_false] at closes
  have idles : s.connect.any Holder.idles = true := by
    obtain ⟨holder, hconnect, closing⟩ := (Option.any_eq_true _ _).mp closes
    rw [hconnect, Option.any_some]
    unfold Holder.idleCloses at closing
    split at closing
    · rfl
    · cases closing
  rw [h.inactive (.inr (.inr idles))] at active
  cases active

/-- Cancelling the stored timer leaves none. -/
theorem TimerStored.cancelTimer (h : TimerStored s) : (cancelTimer s).scheduled = [] := by
  refine List.filter_eq_nil_iff.mpr fun timer member => ?_
  simp [h.2 timer member]

/-- A scheduled timer that fires was the only one. -/
theorem TimerStored.fires (h : TimerStored s) {timer : Nat} (member : timer ∈ s.scheduled) :
    s.scheduled.filter (· ≠ timer) = [] := by
  refine List.filter_eq_nil_iff.mpr fun other here => ?_
  have same : some other = some timer := (h.2 other here).symm.trans (h.2 timer member)
  simp [Option.some.inj same]

theorem requestConnect_timers (s : State) (waiter : Waiter) :
    (requestConnect s waiter).scheduled = s.scheduled ∧
      (requestConnect s waiter).disconnectTimer = s.disconnectTimer := by
  unfold requestConnect
  split
  · cases waiter <;> exact ⟨rfl, rfl⟩
  · exact ⟨rfl, rfl⟩

theorem idlePending_requestConnect
    (unfinished : (requestConnect s .disconnect).idlePending) : s.idlePending := by
  unfold requestConnect takeConnect at unfinished
  grind [State.idlePending, Holder.idles]

namespace TimersApart

/-- The timers are left alone; no idle task and no attempt begins. -/
theorem onwards (h : TimersApart s) (pending : t.idlePending → s.idlePending)
    (active : t.pc.any OperationPc.active = true →
      s.pc.any OperationPc.active = true ∨ ¬ s.idlePending)
    (scheduled : t.scheduled = s.scheduled) (timer : t.disconnectTimer = s.disconnectTimer) :
    TimersApart t where
  inactive := by
    intro unfinished
    by_contra connected
    rw [Bool.not_eq_false] at connected
    rcases active connected with before | finished
    · rw [h.inactive (pending unfinished)] at before
      cases before
    · exact finished (pending unfinished)
  unscheduled := fun unfinished => scheduled.trans (h.unscheduled (pending unfinished))
  stored := by
    rw [TimerStored, scheduled, timer]
    exact h.stored

/-- The timer is reset while no idle task is unfinished. -/
theorem resets (h : TimersApart s) (finished : ¬ s.idlePending)
    (pending : t.idlePending → s.idlePending)
    (scheduled : t.scheduled = (resetDisconnectTimer s).scheduled)
    (timer : t.disconnectTimer = some s.timers) : TimersApart t where
  inactive := fun unfinished => absurd (pending unfinished) finished
  unscheduled := fun unfinished => absurd (pending unfinished) finished
  stored := by
    have only : t.scheduled = [s.timers] := by
      rw [scheduled]
      show (cancelTimer s).scheduled ++ [s.timers] = [s.timers]
      rw [h.stored.cancelTimer, List.nil_append]
    rw [TimerStored, only, timer]
    simp

/-- While an attempt has its connection, every idle task is finished. -/
theorem finished {op : Operation} (h : TimersApart s) (hop : s.operation = some op)
    (active : op.pc.active = true) : ¬ s.idlePending := by
  intro unfinished
  have inactive := h.inactive unfinished
  rw [State.pc, hop, Option.map_some, Option.any_some, active] at inactive
  cases inactive

theorem ran {op : Operation} (h : TimersApart s) (apart : IdleApart config s .run)
    (hop : s.operation = some op) (ran : Ran config s op t) : TimersApart t := by
  have finished := h.finished hop
  cases ran with
  | alreadyConnected hpc more up =>
    have returns : ensureReturns config s .run = true := by simp [ensureReturns, hop, hpc, more, up]
    exact h.onwards id (fun _ => .inr (apart returns)) rfl rfl
  | connectedMeanwhile hpc up =>
    have returns : ensureReturns config s .run = true := by simp [ensureReturns, hop, hpc, up]
    exact h.onwards (by grind [State.idlePending, State.goto])
      (fun _ => .inr (apart returns)) rfl rfl
  | alreadyReplied hpc _ => exact h.resets (finished (by rw [hpc]; rfl)) id rfl rfl
  | waits hpc => exact h.resets (finished (by rw [hpc]; rfl)) id rfl rfl
  | writes hpc _ => exact h.onwards id (fun _ => .inr (finished (by rw [hpc]; rfl))) rfl rfl
  | _ =>
    refine h.onwards ?_ (by simp [State.pc, complete, OperationPc.active]) rfl rfl
    grind [State.idlePending, State.goto, State.clearSlot, complete, Holder.idles]

theorem resumed {op : Operation} {outcome : Outcome} (h : TimersApart s)
    (apart : IdleApart config s (.operationResumes outcome)) (hop : s.operation = some op)
    (resumed : Resumed config s op outcome t) : TimersApart t := by
  have at_pc : s.pc = some op.pc := by rw [State.pc, hop, Option.map_some]
  have finished := h.finished hop
  have pending : t.idlePending → s.idlePending := by
    cases resumed <;>
      grind [State.idlePending, State.goto, State.clearSlot, State.setLink, State.closeLink,
        abandon, Holder.idles]
  cases resumed with
  | established hpc skips =>
    have returns : ensureReturns config s (.operationResumes .returned) = true := by
      simpa [ensureReturns, at_pc, hpc, imp_iff_not_or] using skips
    exact h.onwards pending (fun _ => .inr (apart returns)) rfl rfl
  | subscribed hpc =>
    have returns : ensureReturns config s (.operationResumes .returned) = true := by
      simp [ensureReturns, at_pc, hpc]
    exact h.onwards pending (fun _ => .inr (apart returns)) rfl rfl
  | wrote hpc => exact h.onwards pending (fun _ => .inr (finished (by rw [hpc]; rfl))) rfl rfl
  | replied hpc _ => exact h.onwards pending (fun _ => .inr (finished (by rw [hpc]; rfl))) rfl rfl
  | timesOut hpc => exact h.onwards pending (fun _ => .inr (finished (by rw [hpc]; rfl))) rfl rfl
  | _ => exact h.onwards pending (by simp [State.pc, abandon, OperationPc.active]) rfl rfl

theorem holderRan {holder : Holder} (h : TimersApart s) (hconnect : s.connect = some holder)
    (ran : HolderRan s holder t) : TimersApart t := by
  have pc := ran.same.pc
  have pending : t.idlePending → s.idlePending := by
    cases ran <;> simp [State.idlePending, hconnect, Holder.idles]
  cases ran with
  | idleReleases =>
    -- the task forgets the stored timer; none is scheduled
    have unfinished : s.idlePending := .inr (.inr (by rw [hconnect]; rfl))
    have none_left := h.unscheduled unfinished
    refine ⟨fun _ => h.inactive unfinished, fun _ => none_left, ?_⟩
    show s.scheduled.length ≤ 1 ∧ ∀ timer ∈ s.scheduled, none = some timer
    simp [none_left]
  | _ => exact h.onwards pending (fun active => .inl (pc ▸ active)) rfl rfl

theorem holderResumed {holder : Holder} (h : TimersApart s) (hconnect : s.connect = some holder)
    (resumed : HolderResumed s holder t) : TimersApart t := by
  have pc := resumed.same.pc
  have pending : t.idlePending → s.idlePending := by
    cases resumed <;> grind [State.idlePending, State.closeLink, State.setLink, Holder.idles]
  cases resumed <;> exact h.onwards pending (fun active => .inl (pc ▸ active)) rfl rfl

theorem delivered (h : TimersApart s) (apart : IdleApart config s e) (control : Control s)
    (delivered : Delivered s e t) : TimersApart t := by
  cases delivered with
  | begins _ _ => exact h.onwards id (by simp [State.pc, OperationPc.active]) rfl rfl
  | enterOperation _ _ => exact h.onwards id (by simp [State.pc, OperationPc.active]) rfl rfl
  | disconnect =>
    have pending : s.idlePending →
        (requestConnect { cancelTimer s with disconnectTimer := none } .disconnect).pc.any
          OperationPc.active = false := by
      rw [(disconnect_same s).pc]
      exact h.inactive
    obtain ⟨scheduled, timer⟩ :=
      requestConnect_timers { cancelTimer s with disconnectTimer := none } .disconnect
    have none_left := scheduled.trans h.stored.cancelTimer
    refine ⟨fun unfinished => ?_, fun _ => none_left, ?_⟩
    · have before : ({ cancelTimer s with disconnectTimer := none } : State).idlePending :=
        idlePending_requestConnect unfinished
      exact pending before
    · rw [TimerStored, none_left]
      simp
  | idleStarts waiting =>
    obtain ⟨scheduled, timer⟩ := requestConnect_timers { s with idleTasks := s.idleTasks - 1 } .idle
    have pc := (idleStarts_same s).pc
    exact h.onwards (fun _ => .inl waiting) (fun active => .inl (pc ▸ active)) scheduled timer
  | timerFires member =>
    have none_left := h.stored.fires member
    refine ⟨fun _ => apart, fun _ => none_left, ?_⟩
    rw [TimerStored, none_left]
    simp
  | cancelConnectWaiter _ _ =>
    refine h.onwards ?_ .inl rfl rfl
    have erased := @List.mem_of_mem_eraseIdx Waiter s.connectWaiters
    grind [State.idlePending]
  | @enterConnect waiter rest free queue =>
    have pending : (takeConnect { s with connectWaiters := rest } waiter).idlePending →
        s.idlePending := by
      cases waiter <;> grind [State.idlePending, takeConnect, Holder.idles]
    cases waiter with
    | operation =>
      have awaiting := control.awaiting queue
      obtain ⟨op, hop, _⟩ := Option.map_eq_some_iff.mp awaiting
      refine h.onwards pending ?_ rfl rfl
      simp [takeConnect, State.pc, hop, OperationPc.active]
    | disconnect => exact h.onwards pending .inl rfl rfl
    | idle => exact h.onwards pending .inl rfl rfl
  | @notification sender data parsed inReplyTo =>
    obtain ⟨_, _, _, recorded⟩ := recordNotification_eq s sender data parsed inReplyTo
    rw [recorded]
    exact h.onwards id .inl rfl rfl
  | _ => exact h.onwards id .inl rfl rfl

end TimersApart

theorem timersApart_keeps : Keeps config Control TimersApart (IdleApart config) where
  ran := fun _ h apart hop ran => h.ran apart hop ran
  holderRan := fun _ h _ _ hconnect ran => h.holderRan hconnect ran
  resumed := fun _ h apart hop resumed => h.resumed apart hop resumed
  holderResumed := fun _ h _ hconnect resumed => h.holderResumed hconnect resumed
  delivered := fun control h apart _ delivered => h.delivered apart control delivered

/-! ### Runs -/

/-- In the runs in which no timer expires while an attempt has its connection,
`_ensure_connected` does not return while the task of an expired timer is unfinished,
and no late callback of a client that an idle task closed is delivered to an attempt,
the idle logic neither disconnects nor clears the client of an attempt, and every
scheduled timer is the stored one. -/
theorem notInterrupted_of_idleApart {device : Option String} {events : List Event}
    (apart : Steps (step config) (fun s e _ => IdleApart config s e) (initial device) events)
    (callbacks : Steps (Idling.step config) (fun s e _ => s.CallbackApart e) ⟨initial device, []⟩
      events) :
    States (step config) (fun s => NotInterrupted s ∧ TimerStored s) (initial device) events ∧
      Steps (Idling.step config) Idling.NotCleared ⟨initial device, []⟩ events := by
  have start : TimersApart (initial device) := by
    refine ⟨fun _ => rfl, fun _ => rfl, ?_⟩
    simp [TimerStored, initial]
  have timersApart := timersApart_keeps.states (control_states config device events) start apart
  have visited : States (Idling.step config) (fun _ => True) ⟨initial device, []⟩ events :=
    states_of_invariant (fun _ _ _ _ _ => trivial) trivial events
  refine ⟨timersApart.mono fun s hs => ⟨hs.2.notInterrupted, hs.2.stored⟩, ?_⟩
  refine Steps.imp (fun s e t _ apart next => ?_) visited callbacks
  exact Idling.notCleared_of_callbackApart apart next

instance (s : State) : Decidable s.idlePending :=
  inferInstanceAs (Decidable (0 < s.idleTasks ∨ Waiter.idle ∈ s.connectWaiters ∨
    s.connect.any Holder.idles = true))

instance (config : Config) (s : State) (e : Event) : Decidable (IdleApart config s e) :=
  match e with
  | .timerFires _ => inferInstanceAs (Decidable (s.pc.any OperationPc.active = false))
  | .sendCommand _ | .cancelCaller _ | .enterOperation | .disconnect | .cancelConnectWaiter _
  | .enterConnect | .idleStarts | .operationResumes _ | .holderResumes _ | .linkLost _
  | .disconnected _ | .notification _ _ _ _ | .registryChanges _ | .run =>
    inferInstanceAs (Decidable (ensureReturns config s _ = true → ¬ s.idlePending))

instance (s : Idling) (e : Event) : Decidable (s.CallbackApart e) :=
  match e with
  | .disconnected k => inferInstanceAs (Decidable (k ∈ s.closed →
      s.device.pc.any OperationPc.active = true → s.device.client = none))
  | .sendCommand _ | .cancelCaller _ | .enterOperation | .disconnect | .cancelConnectWaiter _
  | .enterConnect | .timerFires _ | .idleStarts | .operationResumes _ | .holderResumes _
  | .linkLost _ | .notification _ _ _ _ | .registryChanges _ | .run => isTrue trivial

instance (s : Idling) (e : Event) (t : Idling) : Decidable (s.NotCleared e t) :=
  inferInstanceAs (Decidable (s.device.pc.any OperationPc.active = true →
    s.ofIdleLogic e = true → t.device.client = s.device.client))

instance : DecidablePred NotInterrupted := fun s => inferInstanceAs (Decidable
  (s.pc.any OperationPc.active = true → s.connect.any Holder.idleCloses = false))

instance : DecidablePred TimerStored := fun s => inferInstanceAs (Decidable
  (s.scheduled.length ≤ 1 ∧ ∀ timer ∈ s.scheduled, s.disconnectTimer = some timer))

/-- A command that connects and is answered. -/
def answered : List Event :=
  [.sendCommand { command := 0x03 }, .run, .run, .operationResumes .returned, .run,
    .operationResumes .returned, .run,
    .notification 0 [0x73, 0x06, 0x23, 0x03, 0x01, 0x54] true (some 0),
    .operationResumes .returned, .run]

/-- The timer expires and its task disconnects the client. -/
def idleDisconnect : List Event :=
  [.timerFires 0, .idleStarts, .run, .holderResumes .returned, .run]

theorem notInterrupted_of_idleApart_between_commands :
    States (step ⟨"Marstek", false, true⟩) (fun s => NotInterrupted s ∧ TimerStored s)
      (initial (some "device")) (answered ++ idleDisconnect ++ [.disconnected 0] ++ answered) ∧
    Steps (Idling.step ⟨"Marstek", false, true⟩) Idling.NotCleared ⟨initial (some "device"), []⟩
      (answered ++ idleDisconnect ++ [.disconnected 0] ++ answered) :=
  notInterrupted_of_idleApart (by decide) (by decide +kernel)

/-- The timer of the first command expires while the second one is written; the idle
task finishes when the timer has been reset. -/
def expiryDuringWrite : List Event :=
  answered ++ [.sendCommand { command := 0x04 }, .run, .run, .timerFires 0, .idleStarts, .run,
    .operationResumes .returned, .run, .holderResumes .returned, .run]

/-- The callback of the client that the idle task closed comes while the next command is
written to a new client. -/
def callbackDuringWrite : List Event :=
  answered ++ idleDisconnect ++ [.sendCommand { command := 0x04 }, .run, .run,
    .operationResumes .returned, .run, .disconnected 0]

theorem expiry_during_write_interrupts :
    (¬ ∀ (config : Config) (device : Option String) (events : List Event),
      States (step config) NotInterrupted (initial device) events) ∧
    (¬ ∀ (config : Config) (device : Option String) (events : List Event),
      States (step config) TimerStored (initial device) events) ∧
    ¬ ∀ (config : Config) (device : Option String) (events : List Event),
      Steps (Idling.step config) Idling.NotCleared ⟨initial device, []⟩ events := by
  refine ⟨fun all => ?_, fun all => ?_, fun all => ?_⟩
  · have uninterrupted := all ⟨"Marstek", false, true⟩ (some "device") expiryDuringWrite
    revert uninterrupted
    decide
  · have stored := all ⟨"Marstek", false, true⟩ (some "device") expiryDuringWrite
    revert stored
    decide
  · have kept := all ⟨"Marstek", false, true⟩ (some "device") callbackDuringWrite
    revert kept
    decide

end MarstekBle.Device
