/- module: Device/Ownership
   source: custom_components/marstek_ble/marstek_device.py
   digest: Whether every connected client is the one the device holds. -/

import MarstekBle.Device.Locks

set_option autoImplicit false
set_option relaxedAutoImplicit false

namespace MarstekBle.Device

open MarstekBle.Lib.GuardedRun

variable {config : Config} {s t : State} {e : Event}

/-- Every client that is connected is held in `_client`. -/
def NoOrphan (s : State) : Prop := ∀ k, (s.links k).isConnected = true → s.client = some k

/-- At most one link is up. -/
theorem NoOrphan.unique (h : NoOrphan s) {j k : Nat} (hj : (s.links j).isConnected = true)
    (hk : (s.links k).isConnected = true) : j = k :=
  Option.some.inj ((h j hj).symm.trans (h k hk))

/-- The disconnect callback of a client leaves what belongs to a newer one alone. -/
def NewerUntouched (s : State) (e : Event) (t : State) : Prop :=
  match e with
  | .disconnected j => ∀ k ∈ s.client, j < k →
    t.client = s.client ∧ t.notificationsStarted = s.notificationsStarted
  | _ => True

/-- In the handler of a failed connection. -/
def OperationPc.handlesFailure : OperationPc → Bool
  | .connectFailed _ => true
  | _ => false

/-- Awaiting the `disconnect()` that follows a failed command. -/
def OperationPc.drops : OperationPc → Bool
  | .dropping _ => true
  | _ => false

/-- A callback arrives while no other client than its own is held, and neither the
handler of a failed connection nor a failed `disconnect()` after a failed command
lets go of a client that is still connected. -/
def ReleasesOwnClient (s : State) (e : Event) : Prop :=
  match e with
  | .disconnected j => ∀ k ∈ s.client, k = j
  | .run => s.pc.any OperationPc.handlesFailure = true → s.connectedClient = none
  | .operationResumes (.raised _) => s.pc.any OperationPc.drops = true → s.connectedClient = none
  | _ => True

/-! ### Which client is held where -/

/-- No client is taken into use and no link comes up. -/
structure Shrinks (s t : State) : Prop where
  client : ∀ k, t.client = some k → s.client = some k
  links : ∀ k, (t.links k).isConnected = true → (s.links k).isConnected = true
  clients : t.clients = s.clients

theorem Shrinks.connectedClient (shrinks : Shrinks s t) (down : s.connectedClient = none) :
    t.connectedClient = none := by
  rw [State.connectedClient_eq_none] at down ⊢
  intro k held
  by_contra up
  rw [Bool.not_eq_false] at up
  have still := down k (shrinks.client k held)
  rw [shrinks.links k up] at still
  cases still

theorem SameConnection.shrinks (same : SameConnection s t) : Shrinks s t :=
  ⟨fun _ held => same.client ▸ held, fun _ up => same.links ▸ up, same.clients⟩

theorem closeLink_shrinks (s : State) (k : Nat) : Shrinks s (s.closeLink k) := by
  refine ⟨fun _ held => held, fun j up => ?_, rfl⟩
  simp only [State.closeLink, State.setLink] at up
  split at up
  · cases up
  · exact up

/-- What the program counters say about the client. -/
structure ClientPlaces (s : State) : Prop where
  newest : ∀ k, s.client = some k → s.clients = k + 1
  establishing : s.pc = some .establishing → s.connectedClient = none
  dropping : ∀ k, s.pc = some (.dropping k) → ∀ j, s.client = some j → j = k
  closing : ∀ k, s.connect = some (.disconnecting (.closing k)) → ∀ j, s.client = some j → j = k
  closed : s.connect = some (.disconnecting .closed) → s.connectedClient = none

namespace ClientPlaces

theorem of_shrinks (h : ClientPlaces s) (shrinks : Shrinks s t)
    (establishing : t.pc = some .establishing →
      s.pc = some .establishing ∨ s.connectedClient = none)
    (dropping : ∀ k, t.pc = some (.dropping k) → s.pc = some (.dropping k) ∨ s.client = some k)
    (closing : ∀ k, t.connect = some (.disconnecting (.closing k)) →
      s.connect = some (.disconnecting (.closing k)) ∨ s.client = some k)
    (closed : t.connect = some (.disconnecting .closed) →
      s.connect = some (.disconnecting .closed) ∨ t.connectedClient = none) :
    ClientPlaces t where
  newest := fun k held => shrinks.clients.trans (h.newest k (shrinks.client k held))
  establishing := fun hpc => shrinks.connectedClient ((establishing hpc).elim h.establishing id)
  dropping := by
    intro k hpc j held
    have before := shrinks.client j held
    rcases dropping k hpc with at_pc | client
    · exact h.dropping k at_pc j before
    · exact Option.some.inj (before.symm.trans client)
  closing := by
    intro k hconnect j held
    have before := shrinks.client j held
    rcases closing k hconnect with at_pc | client
    · exact h.closing k at_pc j before
    · exact Option.some.inj (before.symm.trans client)
  closed := fun hconnect => (closed hconnect).elim
    (fun at_pc => shrinks.connectedClient (h.closed at_pc)) id

end ClientPlaces

theorem Ran.shrinks {op : Operation} (ran : Ran config s op t) : Shrinks s t := by
  cases ran with
  | cleans _ _ => exact ⟨nofun, fun _ up => up, rfl⟩
  | nothingToClean _ _ => exact ⟨nofun, fun _ up => up, rfl⟩
  | _ => exact ⟨fun _ held => held, fun _ up => up, rfl⟩

theorem HolderRan.shrinks {holder : Holder} (ran : HolderRan s holder t) : Shrinks s t := by
  cases ran with
  | stops up subscribed =>
    refine ⟨fun _ held => held, fun j up => ?_, rfl⟩
    simp only [State.setLink] at up
    split at up <;> exact up
  | releases => exact ⟨nofun, fun _ up => up, rfl⟩
  | _ => exact ⟨fun _ held => held, fun _ up => up, rfl⟩

theorem HolderResumed.shrinks {holder : Holder} (resumed : HolderResumed s holder t) :
    Shrinks s t := by
  cases resumed with
  | closed => exact ⟨fun _ held => held, (closeLink_shrinks s _).links, rfl⟩
  | idleClosed => exact ⟨fun _ held => held, (closeLink_shrinks s _).links, rfl⟩
  | _ => exact ⟨fun _ held => held, fun _ up => up, rfl⟩

theorem Delivered.shrinks (control : Control s) (delivered : Delivered s e t) : Shrinks s t := by
  rcases connection_of_delivered control delivered with ⟨same, _⟩ | ⟨k, _, rfl⟩ |
    ⟨k, _, _, _, rfl⟩
  · exact same.shrinks
  · exact closeLink_shrinks s k
  · refine ⟨nofun, fun j up => ?_, rfl⟩
    simp only [onDisconnect, State.setLink] at up
    split at up <;> exact up

/-- Establishing a connection is the one thing that makes a client connected. -/
theorem Resumed.shrinks {op : Operation} {outcome : Outcome}
    (resumed : Resumed config s op outcome t) : Shrinks s t ∨
      (op.pc = .establishing ∧ t.client = some s.clients ∧ t.clients = s.clients + 1 ∧
        ∀ k, (t.links k).isConnected = true → k = s.clients ∨ (s.links k).isConnected = true) := by
  cases resumed with
  | subscribes hpc _ _ =>
    refine .inr ⟨hpc, rfl, rfl, fun k up => ?_⟩
    by_cases new : k = s.clients
    · exact .inl new
    · exact .inr (by simpa [new] using up)
  | established hpc _ =>
    refine .inr ⟨hpc, rfl, rfl, fun k up => ?_⟩
    by_cases new : k = s.clients
    · exact .inl new
    · exact .inr (by simpa [new] using up)
  | subscribed _ =>
    refine .inl ⟨fun _ held => held, fun j up => ?_, rfl⟩
    simp only [State.goto, State.setLink] at up
    split at up <;> exact up
  | cleaned _ => exact .inl ⟨fun _ held => held, (closeLink_shrinks s _).links, rfl⟩
  | dropped _ => exact .inl ⟨nofun, (closeLink_shrinks s _).links, rfl⟩
  | dropFails _ => exact .inl ⟨nofun, fun _ up => up, rfl⟩
  | _ => exact .inl ⟨fun _ held => held, fun _ up => up, rfl⟩

theorem clientPlaces_keeps : Keeps config Control ClientPlaces fun _ _ => True where
  ran := by
    intro s op t _ h _ hop ran
    have at_pc : s.pc = some op.pc := by rw [State.pc, hop, Option.map_some]
    refine h.of_shrinks ran.shrinks ?_ ?_ ?_ ?_ <;>
      cases ran <;>
        simp_all [State.pc, complete, resetDisconnectTimer, cancelTimer]
  holderRan := by
    intro s holder t _ h _ _ hconnect ran
    refine h.of_shrinks ran.shrinks ?_ ?_ ?_ ?_
    · exact fun hpc => .inl (ran.same.pc.symm.trans hpc)
    · exact fun k hpc => .inl (ran.same.pc.symm.trans hpc)
    · cases ran <;> simp_all
    · cases ran with
      | alreadyClosed down => exact fun _ => .inr down
      | _ => simp_all
  resumed := by
    intro s op outcome t control h _ hop resumed
    have at_pc : s.pc = some op.pc := by rw [State.pc, hop, Option.map_some]
    rcases resumed.shrinks with shrinks | ⟨hpc, client, clients, _⟩
    · refine h.of_shrinks shrinks ?_ ?_ ?_ ?_ <;>
        cases resumed <;> simp_all [State.pc, abandon]
    · -- a new client: the operation has the connection lock
      have locked : s.connect = some .operation := control.holds.mpr (by rw [at_pc, hpc]; rfl)
      constructor
      · intro k held
        obtain rfl := Option.some.inj (client.symm.trans held)
        exact clients
      all_goals cases resumed <;> simp_all [State.pc, abandon]
  holderResumed := by
    intro s holder outcome t _ h _ hconnect resumed
    refine h.of_shrinks resumed.shrinks ?_ ?_ ?_ ?_
    · exact fun hpc => .inl (resumed.same.pc.symm.trans hpc)
    · exact fun k hpc => .inl (resumed.same.pc.symm.trans hpc)
    · cases resumed <;> simp_all
    · cases resumed with
      | @closed k =>
        -- the client that was closed is the one that is held, or none is
        refine fun _ => .inr (State.connectedClient_eq_none.mpr fun j held => ?_)
        obtain rfl := h.closing k hconnect j held
        simp
      | _ => simp_all
  delivered := by
    intro s e t control h _ _ delivered
    have pc : t.pc = s.pc ∨ t.pc = some .attempting ∨ t.pc = some .connectLocked := by
      rcases connection_of_delivered control delivered with
        ⟨_, same | begins | locks⟩ | ⟨k, _, rfl⟩ | ⟨k, _, _, _, rfl⟩
      · exact .inl same
      · exact .inr (.inl begins.2)
      · exact .inr (.inr locks.2)
      · exact .inl rfl
      · exact .inl rfl
    have holder := holder_of_delivered delivered
    refine h.of_shrinks (delivered.shrinks control) ?_ ?_ ?_ ?_
    · intro hpc
      simp_all
    · intro k hpc
      simp_all
    · intro k hconnect
      simp_all
    · intro hconnect
      simp_all

/-! ### Letting go of a client -/

namespace NoOrphan

theorem allDown (h : NoOrphan s) (down : s.connectedClient = none) (k : Nat) :
    (s.links k).isConnected = false := by
  by_contra up
  rw [Bool.not_eq_false] at up
  have still := State.connectedClient_eq_none.mp down k (h k up)
  rw [up] at still
  cases still

/-- The client stays, or no link is up. -/
theorem of_shrinks (h : NoOrphan s) (shrinks : Shrinks s t)
    (kept : t.client = s.client ∨ ∀ k, (t.links k).isConnected = false) : NoOrphan t := by
  intro k up
  rcases kept with same | down
  · exact same.trans (h k (shrinks.links k up))
  · rw [down k] at up
    cases up

theorem of_down (h : NoOrphan s) (shrinks : Shrinks s t) (down : s.connectedClient = none) :
    NoOrphan t := by
  refine h.of_shrinks shrinks (.inr fun k => ?_)
  by_contra up
  rw [Bool.not_eq_false] at up
  have still := h.allDown down k
  rw [shrinks.links k up] at still
  cases still

theorem ran {op : Operation} (h : NoOrphan s) (allowed : ReleasesOwnClient s .run)
    (hop : s.operation = some op) (ran : Ran config s op t) : NoOrphan t := by
  have at_pc : s.pc = some op.pc := by rw [State.pc, hop, Option.map_some]
  cases ran with
  | cleans hpc up =>
    have down : s.connectedClient = none := allowed (by rw [at_pc, hpc]; rfl)
    rw [down] at up
    cases up
  | nothingToClean hpc down => exact h.of_down ⟨by simp, fun _ up => up, rfl⟩ down
  | _ => exact h

/-- The client whose `disconnect()` returned is down, and no other one is up. -/
theorem of_closed (h : NoOrphan s) {k : Nat} (own : ∀ j, s.client = some j → j = k)
    (links : t.links = (s.closeLink k).links) : NoOrphan t := by
  intro j up
  rw [links] at up
  have before := (closeLink_shrinks s k).links j up
  obtain rfl := own j (h j before)
  simp at up

theorem resumed {op : Operation} {outcome : Outcome} (h : NoOrphan s) (places : ClientPlaces s)
    (allowed : ReleasesOwnClient s (.operationResumes outcome))
    (hop : s.operation = some op) (resumed : Resumed config s op outcome t) : NoOrphan t := by
  have at_pc : s.pc = some op.pc := by rw [State.pc, hop, Option.map_some]
  rcases resumed.shrinks with shrinks | ⟨hpc, client, _, links⟩
  · cases resumed with
    | @dropped k hpc => exact h.of_closed (places.dropping k (by rw [at_pc, hpc])) rfl
    | dropFails hpc =>
      have down : s.connectedClient = none := allowed (by rw [at_pc, hpc]; rfl)
      exact h.of_down shrinks down
    | subscribes _ _ _ => exact absurd (shrinks.clients) (by simp)
    | established _ _ => exact absurd (shrinks.clients) (by simp)
    | _ => exact h.of_shrinks shrinks (.inl rfl)
  · -- no link was up before the new one
    have down := h.allDown (places.establishing (by rw [at_pc, hpc]))
    intro k up
    rcases links k up with rfl | before
    · exact client
    · rw [down k] at before
      cases before

theorem holderRan {holder : Holder} (h : NoOrphan s) (places : ClientPlaces s)
    (hconnect : s.connect = some holder) (ran : HolderRan s holder t) : NoOrphan t := by
  have shrinks := ran.shrinks
  cases ran with
  | releases => exact h.of_down shrinks (places.closed hconnect)
  | _ => exact h.of_shrinks shrinks (.inl rfl)

theorem delivered (h : NoOrphan s) (control : Control s) (allowed : ReleasesOwnClient s e)
    (delivered : Delivered s e t) : NoOrphan t := by
  have shrinks := delivered.shrinks control
  rcases connection_of_delivered control delivered with ⟨same, _⟩ | ⟨k, _, rfl⟩ |
    ⟨k, rfl, _, lost, rfl⟩
  · exact h.of_shrinks shrinks (.inl same.client)
  · exact h.of_shrinks shrinks (.inl rfl)
  · refine h.of_down shrinks (State.connectedClient_eq_none.mpr fun j held => ?_)
    obtain rfl := allowed j held
    exact lost

end NoOrphan

theorem noOrphan_keeps :
    Keeps config (fun s => Control s ∧ ClientPlaces s) NoOrphan ReleasesOwnClient where
  ran := fun _ h allowed hop ran => h.ran allowed hop ran
  holderRan := fun known h _ _ hconnect ran => h.holderRan known.2 hconnect ran
  resumed := fun known h allowed hop resumed => h.resumed known.2 allowed hop resumed
  holderResumed := fun _ h _ _ resumed => h.of_shrinks resumed.shrinks (.inl resumed.client)
  delivered := fun known h allowed _ delivered => h.delivered known.1 allowed delivered

/-! ### Runs -/

/-- A state in which a connected client was let go of has an orphan. -/
theorem connectedClient_eq_none_of_noOrphan (h : NoOrphan t) (client : t.client = none)
    (links : t.links = s.links) : s.connectedClient = none := by
  refine State.connectedClient_eq_none.mpr fun k _ => ?_
  by_contra up
  rw [Bool.not_eq_false, ← links] at up
  have held := h k up
  rw [client] at held
  cases held

theorem releasesOwnClient_of_noOrphan (h : step config s e = some t) (places : ClientPlaces s)
    (orphanless : NoOrphan t) (untouched : NewerUntouched s e t) : ReleasesOwnClient s e := by
  rcases step_cases h with ⟨rfl, op, hop, ran⟩ | ⟨rfl, suspended, holder, _, _⟩ | ⟨_, delivered⟩
  · intro handles
    have at_pc : s.pc = some op.pc := by rw [State.pc, hop, Option.map_some]
    rw [at_pc, Option.any_some] at handles
    cases ran with
    | cleans _ _ => exact connectedClient_eq_none_of_noOrphan orphanless rfl rfl
    | nothingToClean _ down => exact down
    | _ => simp [OperationPc.handlesFailure, *] at handles
  · intro handles
    obtain ⟨pc, hpc, handles⟩ := (Option.any_eq_true _ _).mp handles
    have waiting := State.running_of_suspended suspended hpc
    cases pc <;> simp [OperationPc.handlesFailure, OperationPc.running] at handles waiting
  · rcases deliver_cases delivered with ⟨outcome, op, rfl, hop, resumed⟩ |
      ⟨outcome, holder, rfl, _, _⟩ | delivered
    · cases outcome with
      | raised error =>
        intro drops
        have at_pc : s.pc = some op.pc := by rw [State.pc, hop, Option.map_some]
        rw [at_pc, Option.any_some] at drops
        cases resumed with
        | dropFails _ => exact connectedClient_eq_none_of_noOrphan orphanless rfl rfl
        | _ => simp [OperationPc.drops, *] at drops
      | returned => trivial
      | cancelled => trivial
    · trivial
    · cases delivered with
      | @disconnected j returned _ =>
        intro k held
        by_contra other
        have newest := places.newest k held
        have kept := (untouched k held (by omega)).1
        rw [Option.mem_def.mp held] at kept
        cases kept
      | _ => trivial

/-- Every connected client is the one that is held, and callbacks leave a newer
client alone, exactly in the runs in which callbacks arrive while no other client
is held and a connected client is not let go of by an error path. -/
theorem no_orphan_iff (config : Config) (device : Option String) (events : List Event) :
    (States (step config) NoOrphan (initial device) events ∧
      Steps (step config) NewerUntouched (initial device) events) ↔
    Steps (step config) (fun s e _ => ReleasesOwnClient s e) (initial device) events := by
  have places : States (step config) (fun s => Control s ∧ ClientPlaces s)
      (initial device) events :=
    clientPlaces_keeps.always (control_states config device events)
      ⟨nofun, nofun, nofun, nofun, nofun⟩
  constructor
  · rintro ⟨orphanless, untouched⟩
    have after : Steps (step config) (fun _ _ t => NoOrphan t) (initial device) events :=
      steps_of_states (fun _ _ _ _ ht _ => ht) orphanless
    refine (after.and untouched).imp (fun s e t hs ht h => ?_) places
    exact releasesOwnClient_of_noOrphan h hs.2 ht.1 ht.2
  · intro allowed
    have orphanless := noOrphan_keeps.states places nofun allowed
    refine ⟨orphanless.mono fun s hs => hs.2, ?_⟩
    refine allowed.imp (fun s e t _ own _ => ?_) places
    cases e with
    | disconnected j =>
      intro k held newer
      have same : k = j := own k held
      omega
    | _ => trivial

/-- The link of the first client is lost; its callback arrives when the second
one has been established. -/
def lateCallback : List Event :=
  [.sendCommand { command := 0x03 }, .run, .run, .operationResumes .returned, .run,
    .operationResumes .returned, .run, .linkLost 0, .operationResumes (.raised ""), .run,
    .run, .run, .operationResumes .returned, .run, .disconnected 0]

theorem late_callback_orphans_client :
    ¬ ∀ (config : Config) (device : Option String) (events : List Event),
      States (step config) NoOrphan (initial device) events ∧
        Steps (step config) NewerUntouched (initial device) events := by
  intro all
  have noOrphan := (all ⟨"Marstek", false, true⟩ (some "device") lateCallback).1
  have orphan : (run (step ⟨"Marstek", false, true⟩) (initial (some "device")) lateCallback).any
      (fun t => (t.links 1).isConnected && t.client.isNone) = true := by decide +kernel
  obtain ⟨t, ends, orphan⟩ := (Option.any_eq_true _ _).mp orphan
  obtain ⟨up, gone⟩ := Bool.and_eq_true_iff.mp orphan
  have held := noOrphan.final ends 1 up
  rw [Option.isNone_iff_eq_none.mp gone] at held
  cases held

end MarstekBle.Device
