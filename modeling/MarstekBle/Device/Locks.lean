/- module: Device/Locks
   source: custom_components/marstek_ble/marstek_device.py
   digest: Who holds the connection lock, and the invariant rule over steps. -/

import MarstekBle.Device.Transitions
import MarstekBle.Lib.GuardedRun

set_option autoImplicit false
set_option relaxedAutoImplicit false

namespace MarstekBle.Device

open MarstekBle.Data MarstekBle.Lib.GuardedRun

variable {config : Config} {s t : State} {e : Event}

/-! ### What the connection lock's holder leaves alone -/

/-- The part of the state that belongs to the operation is the same. -/
structure SameOperation (s t : State) : Prop where
  operation : t.operation = s.operation
  pendingCommand : t.pendingCommand = s.pendingCommand
  responseEvent : t.responseEvent = s.responseEvent
  responseData : t.responseData = s.responseData
  writes : t.writes = s.writes
  completions : t.completions = s.completions

theorem SameOperation.pc (same : SameOperation s t) : t.pc = s.pc := by
  rw [State.pc, same.operation, State.pc]

theorem HolderRan.same {holder : Holder} (ran : HolderRan s holder t) : SameOperation s t := by
  cases ran <;> exact ⟨rfl, rfl, rfl, rfl, rfl, rfl⟩

theorem HolderResumed.same {holder : Holder} (resumed : HolderResumed s holder t) :
    SameOperation s t := by
  cases resumed <;> exact ⟨rfl, rfl, rfl, rfl, rfl, rfl⟩

theorem HolderResumed.client {holder : Holder} (resumed : HolderResumed s holder t) :
    t.client = s.client := by
  cases resumed <;> rfl

theorem SameOperation.requestConnect (same : SameOperation s t) {waiter : Waiter}
    (other : waiter ≠ .operation) : SameOperation s (requestConnect t waiter) := by
  obtain ⟨operation, pendingCommand, responseEvent, responseData, writes, completions⟩ := same
  unfold Device.requestConnect
  split
  · cases waiter with
    | operation => exact absurd rfl other
    | disconnect => constructor <;> assumption
    | idle => constructor <;> assumption
  · constructor <;> assumption

theorem disconnect_same (s : State) : SameOperation s
    (requestConnect { cancelTimer s with disconnectTimer := none } .disconnect) := by
  have timerless : SameOperation s { cancelTimer s with disconnectTimer := none } :=
    ⟨rfl, rfl, rfl, rfl, rfl, rfl⟩
  exact timerless.requestConnect (by simp)

theorem idleStarts_same (s : State) : SameOperation s
    (requestConnect { s with idleTasks := s.idleTasks - 1 } .idle) := by
  have started : SameOperation s { s with idleTasks := s.idleTasks - 1 } :=
    ⟨rfl, rfl, rfl, rfl, rfl, rfl⟩
  exact started.requestConnect (by simp)

/-- A notification changes the diagnostics and the response slot at most. -/
theorem recordNotification_eq (s : State) (sender : Nat) (data : Bytes) (parsed : Bool)
    (inReplyTo : Option Nat) : ∃ diagnostics responseData responseEvent,
      recordNotification s sender data parsed inReplyTo =
        { s with diagnostics, responseData, responseEvent } := by
  unfold recordNotification
  repeat' split
  all_goals exact ⟨_, _, _, rfl⟩

/-! ### The locks -/

/-- The connection lock belongs to the operation exactly while it is inside the
locked part of `_ensure_connected`, and the operation queues for it at most once. -/
structure Control (s : State) : Prop where
  holds : s.connect = some .operation ↔ s.pc.any OperationPc.locked = true
  queued : s.connectWaiters.count .operation = if s.pc = some .awaitingConnect then 1 else 0

theorem control_initial (device : Option String) : Control (initial device) :=
  ⟨by simp [initial, State.pc], by simp [initial, State.pc]⟩

theorem Control.awaiting (control : Control s) {rest : List Waiter}
    (queue : s.connectWaiters = .operation :: rest) : s.pc = some .awaitingConnect := by
  by_contra other
  have counted := control.queued
  rw [queue, if_neg other] at counted
  simp at counted

theorem control_ran {op : Operation} (control : Control s) (hop : s.operation = some op)
    (ran : Ran config s op t) : Control t := by
  obtain ⟨holds, queued⟩ := control
  simp only [State.pc, hop, Option.map_some, Option.any_some, Option.some.injEq] at holds queued
  cases ran <;> constructor <;>
    grind [State.goto, State.pc, OperationPc.locked, State.clearSlot, complete,
      resetDisconnectTimer, cancelTimer]

theorem control_resumed {op : Operation} {outcome : Outcome} (control : Control s)
    (hop : s.operation = some op) (resumed : Resumed config s op outcome t) : Control t := by
  obtain ⟨holds, queued⟩ := control
  simp only [State.pc, hop, Option.map_some, Option.any_some, Option.some.injEq] at holds queued
  cases resumed
  case cancelledQueueing hpc =>
    simp only [hpc, OperationPc.locked] at holds
    exact ⟨by simpa [abandon, State.pc] using holds,
      by simp [abandon, State.pc, List.count_eq_zero]⟩
  all_goals
    constructor <;>
      grind [State.goto, State.pc, OperationPc.locked, State.clearSlot, State.setLink,
        State.closeLink, abandon]

/-- The holder of the connection lock passes it on, or keeps it. -/
private theorem Control.of_same (control : Control s) (same : SameOperation s t)
    (holder : t.connect = some .operation ↔ s.connect = some .operation)
    (waiters : t.connectWaiters = s.connectWaiters) : Control t := by
  refine ⟨?_, ?_⟩
  · rw [holder, same.pc]
    exact control.holds
  · rw [waiters, same.pc]
    exact control.queued

theorem control_holderRan {holder : Holder} (control : Control s)
    (hconnect : s.connect = some holder) (ran : HolderRan s holder t) : Control t := by
  refine control.of_same ran.same ?_ ?_
  · cases ran <;> simp [hconnect]
  · cases ran <;> rfl

theorem control_holderResumed {holder : Holder} (control : Control s)
    (hconnect : s.connect = some holder) (resumed : HolderResumed s holder t) : Control t := by
  refine control.of_same resumed.same ?_ ?_
  · cases resumed
    case leaves other _ => simp [hconnect, other]
    all_goals simp [hconnect]
  · cases resumed <;> rfl

private theorem control_requestConnect (control : Control s) (waiter : Waiter)
    (other : waiter ≠ .operation) : Control (requestConnect s waiter) := by
  have same : SameOperation s (requestConnect s waiter) :=
    SameOperation.requestConnect ⟨rfl, rfl, rfl, rfl, rfl, rfl⟩ other
  obtain ⟨holds, queued⟩ := control
  rw [← same.pc] at holds queued
  unfold requestConnect takeConnect at *
  constructor <;> grind

theorem control_delivered (control : Control s) (delivered : Delivered s e t) : Control t := by
  cases delivered with
  | begins _ free =>
    obtain ⟨holds, queued⟩ := control
    exact ⟨by simpa [State.pc, free, OperationPc.locked] using holds,
      by simpa [State.pc, free] using queued⟩
  | enterOperation free _ =>
    obtain ⟨holds, queued⟩ := control
    exact ⟨by simpa [State.pc, free, OperationPc.locked] using holds,
      by simpa [State.pc, free] using queued⟩
  | disconnect =>
    have timerless : Control { cancelTimer s with disconnectTimer := none } :=
      control.of_same ⟨rfl, rfl, rfl, rfl, rfl, rfl⟩ Iff.rfl rfl
    exact control_requestConnect timerless .disconnect (by simp)
  | idleStarts _ =>
    have started : Control { s with idleTasks := s.idleTasks - 1 } :=
      control.of_same ⟨rfl, rfl, rfl, rfl, rfl, rfl⟩ Iff.rfl rfl
    exact control_requestConnect started .idle (by simp)
  | @cancelConnectWaiter position waiter queue other =>
    have count : (s.connectWaiters.eraseIdx position).count .operation =
        s.connectWaiters.count .operation := by
      obtain ⟨inside, here⟩ := List.getElem?_eq_some_iff.mp queue
      have parts := List.take_append_drop position s.connectWaiters
      rw [List.drop_eq_getElem_cons inside, here] at parts
      rw [List.eraseIdx_eq_take_drop_succ, List.count_append]
      conv_rhs => rw [← parts, List.count_append, List.count_cons_of_ne other]
    exact ⟨control.holds, count.trans control.queued⟩
  | @enterConnect waiter rest free queue =>
    cases waiter with
    | operation =>
      have awaiting := control.awaiting queue
      have counted := control.queued
      rw [queue, if_pos awaiting, List.count_cons_self] at counted
      obtain ⟨op, hop, _⟩ := Option.map_eq_some_iff.mp awaiting
      exact ⟨by simp [takeConnect, State.pc, hop, OperationPc.locked],
        by simpa [takeConnect, State.pc, hop] using counted⟩
    | disconnect =>
      have counted := control.queued
      rw [queue, List.count_cons_of_ne (by simp)] at counted
      have unlocked : s.pc.any OperationPc.locked ≠ true := by simp [← control.holds, free]
      exact ⟨iff_of_false (by simp [takeConnect]) unlocked, counted⟩
    | idle =>
      have counted := control.queued
      rw [queue, List.count_cons_of_ne (by simp)] at counted
      have unlocked : s.pc.any OperationPc.locked ≠ true := by simp [← control.holds, free]
      exact ⟨iff_of_false (by simp [takeConnect]) unlocked, counted⟩
  | @notification sender data parsed inReplyTo =>
    obtain ⟨_, _, _, recorded⟩ := recordNotification_eq s sender data parsed inReplyTo
    rw [recorded]
    exact ⟨control.holds, control.queued⟩
  | _ => exact control.of_same ⟨rfl, rfl, rfl, rfl, rfl, rfl⟩ Iff.rfl rfl

/-! ### What deliveries do to the connection -/

/-- The client, the notification flag and the links are the same. -/
structure SameConnection (s t : State) : Prop where
  client : t.client = s.client
  notificationsStarted : t.notificationsStarted = s.notificationsStarted
  links : t.links = s.links
  clients : t.clients = s.clients

theorem requestConnect_connection (s : State) (waiter : Waiter) :
    SameConnection s (requestConnect s waiter) := by
  unfold requestConnect takeConnect
  split
  · cases waiter <;> exact ⟨rfl, rfl, rfl, rfl⟩
  · exact ⟨rfl, rfl, rfl, rfl⟩

/-- Of the deliveries, only the loss of a link and its callback concern the connection;
the others may start an operation or give it the connection lock. -/
theorem connection_of_delivered (control : Control s) (delivered : Delivered s e t) :
    (SameConnection s t ∧ (t.pc = s.pc ∨ s.pc = none ∧ t.pc = some .attempting ∨
      s.pc = some .awaitingConnect ∧ t.pc = some .connectLocked)) ∨
    (∃ k, e = .linkLost k ∧ t = s.closeLink k) ∨
    (∃ k, e = .disconnected k ∧ k < s.clients ∧ (s.links k).isConnected = false ∧
      t = onDisconnect (s.setLink k fun link => { link with reported := true })) := by
  cases delivered with
  | begins _ free =>
    exact .inl ⟨⟨rfl, rfl, rfl, rfl⟩, .inr (.inl ⟨by rw [State.pc, free]; rfl, rfl⟩)⟩
  | enterOperation free _ =>
    exact .inl ⟨⟨rfl, rfl, rfl, rfl⟩, .inr (.inl ⟨by rw [State.pc, free]; rfl, rfl⟩)⟩
  | disconnect =>
    obtain ⟨client, flag, links, clients⟩ :=
      requestConnect_connection { cancelTimer s with disconnectTimer := none } .disconnect
    exact .inl ⟨⟨client, flag, links, clients⟩, .inl (disconnect_same s).pc⟩
  | idleStarts _ =>
    obtain ⟨client, flag, links, clients⟩ :=
      requestConnect_connection { s with idleTasks := s.idleTasks - 1 } .idle
    exact .inl ⟨⟨client, flag, links, clients⟩, .inl (idleStarts_same s).pc⟩
  | @enterConnect waiter rest free queue =>
    cases waiter with
    | operation =>
      have awaiting := control.awaiting queue
      obtain ⟨op, hop, _⟩ := Option.map_eq_some_iff.mp awaiting
      exact .inl ⟨⟨rfl, rfl, rfl, rfl⟩,
        .inr (.inr ⟨awaiting, by simp [takeConnect, State.pc, hop]⟩)⟩
    | disconnect => exact .inl ⟨⟨rfl, rfl, rfl, rfl⟩, .inl rfl⟩
    | idle => exact .inl ⟨⟨rfl, rfl, rfl, rfl⟩, .inl rfl⟩
  | linkLost _ => exact .inr (.inl ⟨_, rfl, rfl⟩)
  | disconnected returned lost => exact .inr (.inr ⟨_, rfl, returned, lost, rfl⟩)
  | @notification sender data parsed inReplyTo =>
    obtain ⟨_, _, _, recorded⟩ := recordNotification_eq s sender data parsed inReplyTo
    rw [recorded]
    exact .inl ⟨⟨rfl, rfl, rfl, rfl⟩, .inl rfl⟩
  | _ => exact .inl ⟨⟨rfl, rfl, rfl, rfl⟩, .inl rfl⟩

/-- A delivery leaves the connection lock with its holder, or hands it to a task
that has just entered its body. -/
theorem holder_of_delivered (delivered : Delivered s e t) :
    t.connect = s.connect ∨ t.connect = some .operation ∨
      t.connect = some (.disconnecting .entered) ∨ t.connect = some (.idling .entered) := by
  cases delivered with
  | disconnect =>
    unfold requestConnect
    split
    · exact .inr (.inr (.inl rfl))
    · exact .inl rfl
  | idleStarts _ =>
    unfold requestConnect
    split
    · exact .inr (.inr (.inr rfl))
    · exact .inl rfl
  | @enterConnect waiter _ _ _ => cases waiter <;> simp [takeConnect]
  | @notification sender data parsed inReplyTo =>
    obtain ⟨_, _, _, recorded⟩ := recordNotification_eq s sender data parsed inReplyTo
    rw [recorded]
    exact .inl rfl
  | _ => exact .inl rfl

/-! ### The invariant rule -/

/-- What has to be shown, kind of step by kind of step, for a property `I` to survive
the steps that meet a condition `Q`, when the property `J` is known throughout. -/
structure Keeps (config : Config) (J I : State → Prop) (Q : State → Event → Prop) : Prop where
  ran : ∀ {s op t}, J s → I s → Q s .run → s.operation = some op → Ran config s op t → I t
  holderRan : ∀ {s holder t}, J s → I s → Q s .run → s.suspended = true →
    s.connect = some holder → HolderRan s holder t → I t
  resumed : ∀ {s op outcome t}, J s → I s → Q s (.operationResumes outcome) →
    s.operation = some op → Resumed config s op outcome t → I t
  holderResumed : ∀ {s holder outcome t}, J s → I s → Q s (.holderResumes outcome) →
    s.connect = some holder → HolderResumed s holder t → I t
  delivered : ∀ {s e t}, J s → I s → Q s e → s.suspended = true → Delivered s e t → I t

section Keeps

variable {J I : State → Prop} {Q : State → Event → Prop}

theorem Keeps.step (keeps : Keeps config J I Q) (hJ : J s) (hI : I s) (hQ : Q s e)
    (h : step config s e = some t) : I t := by
  rcases step_cases h with ⟨rfl, op, hop, ran⟩ |
    ⟨rfl, suspended, holder, hconnect, ran⟩ | ⟨still, delivered⟩
  · exact keeps.ran hJ hI hQ hop ran
  · exact keeps.holderRan hJ hI hQ suspended hconnect ran
  · have suspended : s.suspended = true := (Bool.and_eq_true_iff.mp still).1
    rcases deliver_cases delivered with ⟨outcome, op, rfl, hop, resumed⟩ |
      ⟨outcome, holder, rfl, hconnect, resumed⟩ | delivered
    · exact keeps.resumed hJ hI hQ hop resumed
    · exact keeps.holderResumed hJ hI hQ hconnect resumed
    · exact keeps.delivered hJ hI hQ suspended delivered

/-- A property that survives the steps meeting a condition holds in every state
of a run whose steps meet it. -/
theorem Keeps.states (keeps : Keeps config J I Q) {device : Option String}
    {events : List Event} (known : States (Device.step config) J (initial device) events)
    (start : I (initial device))
    (meets : Steps (Device.step config) (fun s e _ => Q s e) (initial device) events) :
    States (Device.step config) (fun s => J s ∧ I s) (initial device) events := by
  have both : Steps (Device.step config) (fun s e _ => J s ∧ Q s e) (initial device) events :=
    meets.imp (fun _ _ _ hJ hQ _ => ⟨hJ, hQ⟩) known
  exact known.and (states_of_steps (fun s e t hI hQ h => keeps.step hQ.1 hI hQ.2 h) start both)

/-- A property that survives every step holds in every state of every run. -/
theorem Keeps.always (keeps : Keeps config J I fun _ _ => True) {device : Option String}
    {events : List Event} (known : States (Device.step config) J (initial device) events)
    (start : I (initial device)) :
    States (Device.step config) (fun s => J s ∧ I s) (initial device) events :=
  keeps.states known start (steps_of_states (fun _ _ _ _ _ _ => trivial) known)

end Keeps

theorem control_keeps : Keeps config (fun _ => True) Control fun _ _ => True where
  ran := fun _ control _ hop ran => control_ran control hop ran
  holderRan := fun _ control _ _ hconnect ran => control_holderRan control hconnect ran
  resumed := fun _ control _ hop resumed => control_resumed control hop resumed
  holderResumed := fun _ control _ hconnect resumed =>
    control_holderResumed control hconnect resumed
  delivered := fun _ control _ _ delivered => control_delivered control delivered

/-- The lock discipline holds in every run. -/
theorem control_states (config : Config) (device : Option String) (events : List Event) :
    States (step config) Control (initial device) events :=
  states_of_invariant (fun _ _ _ control h => control_keeps.step trivial control trivial h)
    (control_initial device) events

end MarstekBle.Device
