/- module: Device/PendingSlot
   source: custom_components/marstek_ble/marstek_device.py
   digest: When the response slot is empty between commands. -/

import MarstekBle.Device.Locks

set_option autoImplicit false
set_option relaxedAutoImplicit false

namespace MarstekBle.Device

open MarstekBle.Data MarstekBle.Protocol MarstekBle.Lib.GuardedRun

variable {config : Config} {s t : State} {e : Event}

/-- `_pending_command` and `_response_event` are both `None`. -/
def SlotEmpty (s : State) : Prop := s.pendingCommand = none ∧ s.responseEvent = none

/-- While the operation lock is not held, the slot is empty. -/
def SlotRestored (s : State) : Prop := s.operation = none → SlotEmpty s

/-- Where an attempt may have filled the slot. -/
def OperationPc.armed : OperationPc → Bool
  | .writing | .written | .waiting | .replied | .timedOut | .failed _ => true
  | _ => false

/-- The slot is filled only inside an attempt. -/
def SlotOwned (s : State) : Prop :=
  SlotEmpty s ∨ ∃ op, s.operation = some op ∧ op.pc.armed = true

/-- The step does not cancel a task that awaits `write_gatt_char`. -/
def WriteNotCancelled (s : State) (e : Event) : Prop :=
  match e with
  | .operationResumes .cancelled => s.pc ≠ some .writing
  | _ => True

/-- A notification that arrives while the operation lock is free completes nothing. -/
def CompletesNothing (s : State) (e : Event) (t : State) : Prop :=
  match e with
  | .notification _ _ _ _ =>
    s.operation = none → t.responseEvent = none ∧ t.responseData = s.responseData
  | _ => True

theorem SlotOwned.of_same (same : SameOperation s t) (h : SlotOwned s) : SlotOwned t := by
  unfold SlotOwned SlotEmpty
  rw [same.pendingCommand, same.responseEvent, same.operation]
  exact h

theorem SlotOwned.restored (h : SlotOwned s) : SlotRestored s := by
  intro free
  rcases h with empty | ⟨op, hop, _⟩
  · exact empty
  · rw [free] at hop
    cases hop

theorem slotOwned_ran {op : Operation} (h : SlotOwned s) (hop : s.operation = some op)
    (ran : Ran config s op t) : SlotOwned t := by
  simp only [SlotOwned, SlotEmpty, hop, Option.some.injEq, exists_eq_left'] at h ⊢
  cases ran with
  | writes hpc held => exact .inr ⟨_, rfl, rfl⟩
  | clientGone hpc gone => exact .inr ⟨_, rfl, rfl⟩
  | _ =>
    simp only [OperationPc.armed] at h
    grind [State.goto, State.clearSlot, complete, resetDisconnectTimer, cancelTimer,
      OperationPc.armed]

theorem slotOwned_resumed {op : Operation} {outcome : Outcome} (h : SlotOwned s)
    (allowed : WriteNotCancelled s (.operationResumes outcome)) (hop : s.operation = some op)
    (resumed : Resumed config s op outcome t) : SlotOwned t := by
  simp only [SlotOwned, SlotEmpty, hop, Option.some.injEq, exists_eq_left'] at h ⊢
  simp only [WriteNotCancelled, State.pc, hop, Option.map_some] at allowed
  cases resumed with
  | cancelledWriting hpc => exact absurd (congrArg some hpc) allowed
  | _ =>
    simp only [OperationPc.armed] at h
    grind [State.goto, State.clearSlot, abandon, State.closeLink, State.setLink,
      OperationPc.armed]

theorem slotOwned_delivered (control : Control s) (h : SlotOwned s)
    (delivered : Delivered s e t) : SlotOwned t := by
  cases delivered with
  | begins _ free => exact .inl (h.restored free)
  | enterOperation free _ => exact .inl (h.restored free)
  | disconnect => exact h.of_same (disconnect_same s)
  | idleStarts _ => exact h.of_same (idleStarts_same s)
  | @enterConnect waiter rest free queue =>
    cases waiter with
    | operation =>
      -- an attempt that still waits for its connection has not filled the slot
      have awaiting := control.awaiting queue
      rcases h with empty | ⟨op, hop, armed⟩
      · exact .inl empty
      · rw [State.pc, hop, Option.map_some, Option.some.injEq] at awaiting
        rw [awaiting] at armed
        cases armed
    | disconnect => exact h.of_same ⟨rfl, rfl, rfl, rfl, rfl, rfl⟩
    | idle => exact h.of_same ⟨rfl, rfl, rfl, rfl, rfl, rfl⟩
  | notification =>
    rcases h with ⟨noCommand, noEvent⟩ | ⟨op, hop, armed⟩
    · refine .inl ?_
      unfold recordNotification
      grind [SlotEmpty]
    · refine .inr ⟨op, ?_, armed⟩
      unfold recordNotification
      grind
  | _ => exact h.of_same ⟨rfl, rfl, rfl, rfl, rfl, rfl⟩

theorem slotOwned_keeps : Keeps config Control SlotOwned WriteNotCancelled where
  ran := fun _ h _ hop ran => slotOwned_ran h hop ran
  holderRan := fun _ h _ _ _ ran => h.of_same ran.same
  resumed := fun _ h allowed hop resumed => slotOwned_resumed h allowed hop resumed
  holderResumed := fun _ h _ _ resumed => h.of_same resumed.same
  delivered := fun control h _ _ delivered => slotOwned_delivered control h delivered

/-- While a write is pending the slot is filled, whatever happened before. -/
def WriteArmed (s : State) : Prop := s.pc = some .writing → s.pendingCommand ≠ none

theorem WriteArmed.of_same (same : SameOperation s t) (h : WriteArmed s) : WriteArmed t := by
  rw [WriteArmed, same.pc, same.pendingCommand]
  exact h

theorem writeArmed_keeps : Keeps config Control WriteArmed fun _ _ => True where
  ran := by
    intro s op t _ _ _ hop ran writing
    cases ran with
    | writes hpc held =>
      intro empty
      simp at empty
    | _ => simp [State.pc, complete] at writing
  holderRan := fun _ h _ _ _ ran => h.of_same ran.same
  resumed := by
    intro s op outcome t _ _ _ hop resumed writing
    cases resumed <;> simp [State.pc, abandon] at writing
  holderResumed := fun _ h _ _ resumed => h.of_same resumed.same
  delivered := by
    intro s e t _ h _ _ delivered
    cases delivered with
    | begins _ _ =>
      intro writing
      simp [State.pc] at writing
    | enterOperation _ _ =>
      intro writing
      simp [State.pc] at writing
    | disconnect => exact h.of_same (disconnect_same s)
    | idleStarts _ => exact h.of_same (idleStarts_same s)
    | @enterConnect waiter rest _ _ =>
      cases waiter with
      | operation =>
        intro writing
        simp [takeConnect, State.pc] at writing
      | disconnect => exact h
      | idle => exact h
    | @notification sender data parsed inReplyTo =>
      obtain ⟨_, _, _, recorded⟩ := recordNotification_eq s sender data parsed inReplyTo
      rw [recorded]
      exact h
    | _ => exact h

/-! ### Runs -/

/-- A write that is cancelled frees the operation lock with the slot filled. -/
theorem writeNotCancelled_of_restored (h : step config s e = some t) (armed : WriteArmed s)
    (restored : SlotRestored t) : WriteNotCancelled s e := by
  unfold WriteNotCancelled
  split
  · intro writing
    obtain ⟨op, hop, hpc⟩ := Option.map_eq_some_iff.mp writing
    obtain ⟨_, delivered⟩ : s.quiet = true ∧ deliver config s (.operationResumes .cancelled) =
        some t := by simpa [step] using h
    have abandoned : t = abandon s := by
      simpa [deliver, hop, resumeOperation, hpc, eq_comm] using delivered
    have empty : SlotEmpty t := restored (by rw [abandoned]; rfl)
    rw [abandoned] at empty
    exact armed writing empty.1
  · trivial

theorem completesNothing_of_restored (h : step config s e = some t) (restored : SlotRestored s) :
    CompletesNothing s e t := by
  unfold CompletesNothing
  split
  · rename_i sender data parsed inReplyTo
    intro free
    obtain ⟨_, noEvent⟩ := restored free
    obtain ⟨_, rfl⟩ : s.quiet = true ∧ recordNotification s sender data parsed inReplyTo = t := by
      simpa [step, deliver] using h
    unfold recordNotification
    grind
  · trivial

/-- Whenever the operation lock is free the slot is empty, and notifications
between commands complete nothing, exactly in the runs that never cancel a task
which awaits `write_gatt_char`. -/
theorem slot_restored_iff (config : Config) (device : Option String) (events : List Event) :
    (States (step config) SlotRestored (initial device) events ∧
      Steps (step config) CompletesNothing (initial device) events) ↔
    Steps (step config) (fun s e _ => WriteNotCancelled s e) (initial device) events := by
  constructor
  · rintro ⟨restored, _⟩
    have armed : States (step config) (fun s => Control s ∧ WriteArmed s) (initial device) events :=
      writeArmed_keeps.always (control_states config device events) nofun
    refine steps_of_states (fun s e t hs ht h => ?_) (armed.and restored)
    exact writeNotCancelled_of_restored h hs.1.2 ht.2
  · intro allowed
    have owned : States (step config) (fun s => Control s ∧ SlotOwned s) (initial device) events :=
      slotOwned_keeps.states (control_states config device events) (.inl ⟨rfl, rfl⟩) allowed
    have restored := owned.mono fun s hs => hs.2.restored
    refine ⟨restored, steps_of_states (fun s e t hs _ h => ?_) restored⟩
    exact completesNothing_of_restored h hs

instance : DecidablePred SlotRestored := fun s =>
  inferInstanceAs
    (Decidable (s.operation = none → s.pendingCommand = none ∧ s.responseEvent = none))

/-- A command is cancelled during its write. -/
def cancelledWrite : List Event :=
  [.sendCommand { command := 0x0D }, .run, .run, .operationResumes .returned, .run,
    .operationResumes .cancelled]

theorem cancelled_write_leaves_slot :
    ¬ ∀ (config : Config) (device : Option String) (events : List Event),
      States (step config) SlotRestored (initial device) events ∧
        Steps (step config) CompletesNothing (initial device) events := by
  intro all
  have restored := (all ⟨"Marstek", false, true⟩ (some "device") cancelledWrite).1
  revert restored
  decide +kernel

end MarstekBle.Device
