/- module: Device/Subscription
   source: custom_components/marstek_ble/marstek_device.py
   digest: Whether the client a command is written to has been subscribed to. -/

import MarstekBle.Device.Locks

set_option autoImplicit false
set_option relaxedAutoImplicit false

namespace MarstekBle.Device

open MarstekBle.Lib.GuardedRun

variable {config : Config} {s t : State} {e : Event}

/-- When `_ensure_connected` has returned, `start_notify` has completed on the client. -/
def Subscribed (s : State) : Prop :=
  s.pc = some .ensured → ∃ k, s.client = some k ∧ (s.links k).started = true

/-- And `stop_notify` has not been called on it, so its replies can be received. -/
def Receiving (s : State) : Prop :=
  s.pc = some .ensured →
    ∃ k, s.client = some k ∧ (s.links k).started = true ∧ (s.links k).stopped = false

/-- The client on which the operation awaits `start_notify`. -/
def State.subscribing (s : State) : Option Nat :=
  s.pc.bind fun
    | .startingNotify k => some k
    | _ => none

/-- No client is established while the flag of an earlier one is set, no task is
cancelled while it awaits `start_notify`, and the client is still held when
`start_notify` returns. -/
def SubscriptionUndisturbed (s : State) (e : Event) : Prop :=
  match e with
  | .operationResumes .returned =>
    (s.pc = some .establishing → s.notificationsStarted = false) ∧
      ∀ k ∈ s.subscribing, s.client = some k
  | .operationResumes .cancelled => s.subscribing = none
  | _ => True

/-- No attempt finds a client connected that `disconnect` has unsubscribed. -/
def NotUnsubscribed (s : State) (e : Event) : Prop :=
  match e with
  | .run => s.pc = some .attempting ∨ s.pc = some .connectLocked →
    ∀ k ∈ s.connectedClient, (s.links k).stopped = false
  | _ => True

theorem State.subscribing_eq {k : Nat} (hpc : s.pc = some (.startingNotify k)) :
    s.subscribing = some k := by
  rw [State.subscribing, hpc, Option.bind_some]

/-! ### The client that is held -/

/-- The client is subscribed to, unless that is under way or has just failed. -/
structure HeldSubscribed (s : State) : Prop where
  held : ∀ k, s.client = some k → (s.links k).started = true ∨
    s.pc = some (.startingNotify k) ∨ ∃ error, s.pc = some (.connectFailed error)
  ensured : Subscribed s

/-- A state without a client, away from `ensured`, needs nothing. -/
theorem heldSubscribed_of_none (client : t.client = none) (hpc : t.pc ≠ some .ensured) :
    HeldSubscribed t :=
  ⟨fun k held => by simp [client] at held, fun ensured => absurd ensured hpc⟩

namespace HeldSubscribed

/-- Outside of the subscription and the handler after it, the client is settled. -/
theorem settled (h : HeldSubscribed s)
    (subscribing : ∀ k, s.pc ≠ some (.startingNotify k))
    (failing : ∀ error, s.pc ≠ some (.connectFailed error)) :
    ∀ k, s.client = some k → (s.links k).started = true := by
  intro k held
  rcases h.held k held with started | starting | ⟨error, failed⟩
  · exact started
  · exact absurd starting (subscribing k)
  · exact absurd failed (failing error)

/-- A settled client stays; `_ensure_connected` returns only while there is one. -/
theorem onwards (settled : ∀ k, s.client = some k → (s.links k).started = true)
    (client : t.client = s.client) (links : ∀ k, (t.links k).started = (s.links k).started)
    (ensured : t.pc = some .ensured → ∃ k, s.client = some k) : HeldSubscribed t := by
  constructor
  · rw [client]
    exact fun k held => .inl ((links k).trans (settled k held))
  · intro hpc
    obtain ⟨k, held⟩ := ensured hpc
    exact ⟨k, client.trans held, (links k).trans (settled k held)⟩

theorem of_same (h : HeldSubscribed s) (client : t.client = s.client)
    (links : ∀ k, (t.links k).started = (s.links k).started) (pc : t.pc = s.pc) :
    HeldSubscribed t := by
  constructor
  · rw [client, pc]
    intro k held
    rw [links]
    exact h.held k held
  · intro hpc
    obtain ⟨k, held, started⟩ := h.ensured (pc.symm.trans hpc)
    exact ⟨k, client.trans held, (links k).trans started⟩

theorem ran {op : Operation} (h : HeldSubscribed s) (hop : s.operation = some op)
    (ran : Ran config s op t) : HeldSubscribed t := by
  have at_pc : s.pc = some op.pc := by rw [State.pc, hop, Option.map_some]
  cases ran with
  | alreadyConnected hpc _ up =>
    have held := (State.connectedClient_eq_some.mp up).1
    have settled := h.settled (by simp [at_pc, hpc]) (by simp [at_pc, hpc])
    exact onwards settled rfl (fun _ => rfl) fun _ => ⟨_, held⟩
  | connectedMeanwhile hpc up =>
    have held := (State.connectedClient_eq_some.mp up).1
    have settled := h.settled (by simp [at_pc, hpc]) (by simp [at_pc, hpc])
    exact onwards settled rfl (fun _ => rfl) fun _ => ⟨_, held⟩
  | cleans _ _ => exact heldSubscribed_of_none rfl (by simp [State.pc])
  | nothingToClean _ _ => exact heldSubscribed_of_none rfl (by simp [State.pc])
  | _ =>
    have settled := h.settled (by simp [*]) (by simp [*])
    exact onwards settled rfl (fun _ => rfl) (by simp [State.pc, complete])

theorem resumed {op : Operation} {outcome : Outcome} (h : HeldSubscribed s)
    (wanted : config.hasNotificationCallback = true)
    (undisturbed : SubscriptionUndisturbed s (.operationResumes outcome))
    (hop : s.operation = some op) (resumed : Resumed config s op outcome t) :
    HeldSubscribed t := by
  have at_pc : s.pc = some op.pc := by rw [State.pc, hop, Option.map_some]
  cases resumed with
  | subscribes hpc _ _ =>
    refine ⟨?_, by simp [Subscribed, State.pc]⟩
    rintro k ⟨⟩
    exact .inr (.inl rfl)
  | established hpc skips =>
    have fresh := undisturbed.1 (by rw [at_pc, hpc])
    exact absurd ⟨wanted, fresh⟩ skips
  | @subscribed k hpc =>
    have held : s.client = some k := undisturbed.2 k (State.subscribing_eq (by rw [at_pc, hpc]))
    have started : ((s.setLink k fun link => { link with started := true }).links k).started =
        true := by simp
    refine ⟨?_, fun _ => ⟨k, held, started⟩⟩
    intro j held'
    obtain rfl : k = j := Option.some.inj (held.symm.trans held')
    exact .inl started
  | establishFails hpc => exact ⟨fun _ _ => .inr (.inr ⟨_, rfl⟩), by simp [Subscribed, State.pc]⟩
  | subscribeFails hpc => exact ⟨fun _ _ => .inr (.inr ⟨_, rfl⟩), by simp [Subscribed, State.pc]⟩
  | dropped _ => exact heldSubscribed_of_none rfl (by simp [State.pc])
  | dropFails _ => exact heldSubscribed_of_none rfl (by simp [State.pc])
  | @cancelledSubscribing k hpc =>
    have subscribing : s.subscribing = some k := State.subscribing_eq (by rw [at_pc, hpc])
    simp [SubscriptionUndisturbed, subscribing] at undisturbed
  | cleaned hpc =>
    have settled := h.settled (by simp [at_pc, hpc]) (by simp [at_pc, hpc])
    exact onwards settled rfl (fun j => (s.closeLink_subscription _ j).1) (by simp [State.pc])
  | _ =>
    have settled := h.settled (by simp [*]) (by simp [*])
    exact onwards settled rfl (fun _ => rfl) (by simp [State.pc, abandon])

theorem holderRan {holder : Holder} (h : HeldSubscribed s) (suspended : s.suspended = true)
    (ran : HolderRan s holder t) : HeldSubscribed t := by
  cases ran with
  | stops up subscribed =>
    refine h.of_same rfl (fun j => ?_) rfl
    simp only [State.setLink]
    split <;> rfl
  | releases =>
    refine heldSubscribed_of_none rfl ?_
    intro ensured
    cases State.running_of_suspended suspended ensured
  | _ => exact h.of_same rfl (fun _ => rfl) rfl

theorem holderResumed {holder : Holder} (h : HeldSubscribed s)
    (resumed : HolderResumed s holder t) : HeldSubscribed t := by
  cases resumed with
  | closed => exact h.of_same rfl (fun j => (s.closeLink_subscription _ j).1) rfl
  | idleClosed => exact h.of_same rfl (fun j => (s.closeLink_subscription _ j).1) rfl
  | _ => exact h.of_same rfl (fun _ => rfl) rfl

theorem delivered (h : HeldSubscribed s) (control : Control s) (suspended : s.suspended = true)
    (delivered : Delivered s e t) : HeldSubscribed t := by
  rcases connection_of_delivered control delivered with ⟨same, pc⟩ | ⟨k, _, rfl⟩ |
      ⟨k, _, _, _, rfl⟩
  · have links : ∀ j, (t.links j).started = (s.links j).started := fun j => by rw [same.links]
    rcases pc with pc | ⟨before, after⟩ | ⟨before, after⟩
    · exact h.of_same same.client links pc
    · have settled := h.settled (by simp [before]) (by simp [before])
      exact onwards settled same.client links (by simp [after])
    · have settled := h.settled (by simp [before]) (by simp [before])
      exact onwards settled same.client links (by simp [after])
  · exact h.of_same rfl (fun j => (s.closeLink_subscription k j).1) rfl
  · -- no attempt is between the return of `_ensure_connected` and its next statement
    refine heldSubscribed_of_none rfl ?_
    intro ensured
    cases State.running_of_suspended suspended ensured

end HeldSubscribed

theorem heldSubscribed_keeps (wanted : config.hasNotificationCallback = true) :
    Keeps config Control HeldSubscribed SubscriptionUndisturbed where
  ran := fun _ h _ hop ran => h.ran hop ran
  holderRan := fun _ h _ suspended _ ran => h.holderRan suspended ran
  resumed := fun _ h undisturbed hop resumed => h.resumed wanted undisturbed hop resumed
  holderResumed := fun _ h _ _ resumed => h.holderResumed resumed
  delivered := fun control h _ suspended delivered => h.delivered control suspended delivered

/-! ### Clients that are being unsubscribed -/

/-- The client the operation subscribes or is about to write to was not unsubscribed. -/
structure Unstopped (s : State) : Prop where
  subscribing : ∀ k, s.pc = some (.startingNotify k) → (s.links k).stopped = false
  ensured : s.pc = some .ensured → ∀ k, s.client = some k → (s.links k).stopped = false

namespace Unstopped

theorem elsewhere (subscribing : ∀ k, t.pc ≠ some (.startingNotify k))
    (ensured : t.pc ≠ some .ensured) : Unstopped t :=
  ⟨fun k hpc => absurd hpc (subscribing k), fun hpc => absurd hpc ensured⟩

theorem of_same (h : Unstopped s) (client : t.client = s.client)
    (links : ∀ k, (t.links k).stopped = (s.links k).stopped) (pc : t.pc = s.pc) :
    Unstopped t := by
  constructor
  · intro k hpc
    rw [links]
    exact h.subscribing k (pc.symm.trans hpc)
  · intro hpc k held
    rw [links]
    exact h.ensured (pc.symm.trans hpc) k (client.symm.trans held)

theorem ran {op : Operation} (allowed : NotUnsubscribed s .run) (hop : s.operation = some op)
    (ran : Ran config s op t) : Unstopped t := by
  have at_pc : s.pc = some op.pc := by rw [State.pc, hop, Option.map_some]
  cases ran with
  | alreadyConnected hpc _ up =>
    refine ⟨by simp [State.pc], fun _ k held => ?_⟩
    obtain rfl := Option.some.inj (held.symm.trans (State.connectedClient_eq_some.mp up).1)
    exact allowed (.inl (by rw [at_pc, hpc])) k up
  | connectedMeanwhile hpc up =>
    refine ⟨by simp [State.pc], fun _ k held => ?_⟩
    obtain rfl := Option.some.inj (held.symm.trans (State.connectedClient_eq_some.mp up).1)
    exact allowed (.inr (by rw [at_pc, hpc])) k up
  | _ => exact elsewhere (by simp [State.pc, complete]) (by simp [State.pc, complete])

theorem resumed {op : Operation} {outcome : Outcome} (h : Unstopped s)
    (undisturbed : SubscriptionUndisturbed s (.operationResumes outcome))
    (hop : s.operation = some op) (resumed : Resumed config s op outcome t) : Unstopped t := by
  have at_pc : s.pc = some op.pc := by rw [State.pc, hop, Option.map_some]
  cases resumed with
  | subscribes _ _ _ =>
    refine ⟨?_, by simp [State.pc]⟩
    rintro k ⟨⟩
    simp
  | established _ _ =>
    refine ⟨by simp [State.pc], ?_⟩
    rintro _ k ⟨⟩
    simp
  | @subscribed k hpc =>
    refine ⟨by simp [State.pc], fun _ j held => ?_⟩
    have held' : s.client = some k := undisturbed.2 k (State.subscribing_eq (by rw [at_pc, hpc]))
    obtain rfl := Option.some.inj (held'.symm.trans held)
    simpa using h.subscribing k (by rw [at_pc, hpc])
  | _ => exact elsewhere (by simp [State.pc, abandon]) (by simp [State.pc, abandon])

theorem holderRan {holder : Holder} (h : Unstopped s) (control : Control s)
    (suspended : s.suspended = true) (hconnect : s.connect = some holder)
    (ran : HolderRan s holder t) : Unstopped t := by
  cases ran with
  | stops _ _ =>
    -- `disconnect` has the lock, so no subscription is under way
    refine elsewhere ?_ ?_
    · intro k hpc
      have locked : s.pc.any OperationPc.locked = true := by
        rw [show s.pc = _ from hpc]
        rfl
      rw [control.holds.mpr locked] at hconnect
      cases hconnect
    · intro ensured
      cases State.running_of_suspended suspended ensured
  | releases =>
    refine ⟨h.subscribing, fun _ k held => ?_⟩
    cases held
  | _ => exact h.of_same rfl (fun _ => rfl) rfl

theorem holderResumed {holder : Holder} (h : Unstopped s)
    (resumed : HolderResumed s holder t) : Unstopped t := by
  cases resumed with
  | closed => exact h.of_same rfl (fun j => (s.closeLink_subscription _ j).2) rfl
  | idleClosed => exact h.of_same rfl (fun j => (s.closeLink_subscription _ j).2) rfl
  | _ => exact h.of_same rfl (fun _ => rfl) rfl

theorem delivered (h : Unstopped s) (control : Control s) (delivered : Delivered s e t) :
    Unstopped t := by
  rcases connection_of_delivered control delivered with ⟨same, pc⟩ | ⟨k, _, rfl⟩ |
      ⟨k, _, _, _, rfl⟩
  · have links : ∀ j, (t.links j).stopped = (s.links j).stopped := fun j => by rw [same.links]
    rcases pc with pc | ⟨_, after⟩ | ⟨_, after⟩
    · exact h.of_same same.client links pc
    · exact elsewhere (by simp [after]) (by simp [after])
    · exact elsewhere (by simp [after]) (by simp [after])
  · exact h.of_same rfl (fun j => (s.closeLink_subscription k j).2) rfl
  · refine ⟨fun j hpc => ?_, fun _ _ held => by cases held⟩
    have unstopped := h.subscribing j hpc
    simp only [onDisconnect, State.setLink]
    split <;> exact unstopped

end Unstopped

theorem unstopped_keeps : Keeps config Control Unstopped
    fun s e => SubscriptionUndisturbed s e ∧ NotUnsubscribed s e where
  ran := fun _ _ allowed hop ran => .ran allowed.2 hop ran
  holderRan := fun control h _ suspended hconnect ran => h.holderRan control suspended hconnect ran
  resumed := fun _ h allowed hop resumed => h.resumed allowed.1 hop resumed
  holderResumed := fun _ h _ _ resumed => h.holderResumed resumed
  delivered := fun control h _ _ delivered => h.delivered control delivered

/-! ### Runs -/

/-- In the runs that do not disturb the subscription, `_ensure_connected` returns
only while a subscribed client is held; where no attempt meets a client that
`disconnect` has unsubscribed either, its replies can be received. -/
theorem subscribed_of_undisturbed {device : Option String} {events : List Event}
    (wanted : config.hasNotificationCallback = true)
    (undisturbed : Steps (step config) (fun s e _ => SubscriptionUndisturbed s e)
      (initial device) events) :
    States (step config) Subscribed (initial device) events ∧
      (Steps (step config) (fun s e _ => NotUnsubscribed s e) (initial device) events →
        States (step config) Receiving (initial device) events) := by
  have start : HeldSubscribed (initial device) := ⟨nofun, nofun⟩
  have control := control_states config device events
  have held := (heldSubscribed_keeps wanted).states control start undisturbed
  refine ⟨held.mono fun s hs => hs.2.ensured, fun notUnsubscribed => ?_⟩
  have unstopped := unstopped_keeps.states control ⟨nofun, nofun⟩
    (undisturbed.and notUnsubscribed)
  refine (held.and unstopped).mono fun s hs ensured => ?_
  obtain ⟨k, client, started⟩ := hs.1.2.ensured ensured
  exact ⟨k, client, started, hs.2.2.ensured ensured k client⟩

instance (s : State) (e : Event) : Decidable (SubscriptionUndisturbed s e) :=
  match e with
  | .operationResumes .returned => inferInstanceAs (Decidable
      ((s.pc = some .establishing → s.notificationsStarted = false) ∧
        ∀ k ∈ s.subscribing, s.client = some k))
  | .operationResumes .cancelled => inferInstanceAs (Decidable (s.subscribing = none))
  | .operationResumes (.raised _) | .sendCommand _ | .cancelCaller _ | .enterOperation
  | .disconnect | .cancelConnectWaiter _ | .enterConnect | .timerFires _ | .idleStarts
  | .holderResumes _ | .linkLost _ | .disconnected _ | .notification _ _ _ _
  | .registryChanges _ | .run => isTrue trivial

instance (s : State) (e : Event) : Decidable (NotUnsubscribed s e) :=
  match e with
  | .run => inferInstanceAs (Decidable (s.pc = some .attempting ∨ s.pc = some .connectLocked →
      ∀ k ∈ s.connectedClient, (s.links k).stopped = false))
  | .operationResumes _ | .sendCommand _ | .cancelCaller _ | .enterOperation | .disconnect
  | .cancelConnectWaiter _ | .enterConnect | .timerFires _ | .idleStarts | .holderResumes _
  | .linkLost _ | .disconnected _ | .notification _ _ _ _ | .registryChanges _ => isTrue trivial

instance : DecidablePred Subscribed := fun s =>
  decidable_of_iff (s.pc = some .ensured → s.client.any (fun k => (s.links k).started) = true) (by
    simp [Subscribed, Option.any_eq_true])

/-- A command is answered; then the link is lost. -/
def answeredAndLost : List Event :=
  [.sendCommand { command := 0x03 }, .run, .run, .operationResumes .returned,
    .operationResumes .returned, .run, .operationResumes .returned, .run,
    .notification 0 [0x73, 0x06, 0x23, 0x03, 0x01, 0x54] true (some 0),
    .operationResumes .returned, .run, .linkLost 0]

/-- The next command connects again. -/
def reconnect : List Event :=
  [.sendCommand { command := 0x04 }, .run, .run, .operationResumes .returned]

/-- The callback comes before the next command: its replies can be received again. -/
theorem subscribed_of_undisturbed_prompt_callback :
    let events := answeredAndLost ++ [.disconnected 0] ++ reconnect ++
      [.operationResumes .returned, .run]
    States (step ⟨"Marstek", true, true⟩) Subscribed (initial (some "device")) events ∧
      States (step ⟨"Marstek", true, true⟩) Receiving (initial (some "device")) events := by
  have both := @subscribed_of_undisturbed ⟨"Marstek", true, true⟩ (some "device")
    (answeredAndLost ++ [.disconnected 0] ++ reconnect ++ [.operationResumes .returned, .run])
    rfl (by decide)
  exact ⟨both.1, both.2 (by decide)⟩

theorem stale_flag_skips_subscription :
    ¬ ∀ (config : Config) (device : Option String) (events : List Event),
      config.hasNotificationCallback = true →
        States (step config) Subscribed (initial device) events := by
  intro all
  have subscribed := all ⟨"Marstek", true, true⟩ (some "device") (answeredAndLost ++ reconnect) rfl
  revert subscribed
  decide +kernel

end MarstekBle.Device
