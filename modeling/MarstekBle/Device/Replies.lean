/- module: Device/Replies
   source: custom_components/marstek_ble/marstek_device.py, product_coordinator.py
   digest: Which notifications complete a command, and how a call returns. -/

import MarstekBle.Device.Attribution
import MarstekBle.Product.Venus

/-!
The coordinator's handler parses a notification into the product data and then hands
its bytes to `record_notification`, together with the result of the parser. The frames
it was given since the running attempt began are kept beside the device.
-/

set_option autoImplicit false
set_option relaxedAutoImplicit false

namespace MarstekBle.Device

open MarstekBle.Data MarstekBle.Protocol MarstekBle.Product MarstekBle.Lib.GuardedRun

variable {config : Config} {s t : State} {e : Event}

/-! ### How a call returns -/

/-- A step appends no completion, or it is the return of the call that holds the lock. -/
theorem returns_of_step (h : step config s e = some t) : t.completions = s.completions ∨
    ∃ op, s.operation = some op ∧ ((op.pc = .replied ∧ ∃ inReplyTo,
      t = complete s.clearSlot op true inReplyTo) ∨
      (op.pc = .exhausted ∧ t = complete s op false none)) := by
  rcases step_cases h with ⟨rfl, op, hop, ran⟩ | ⟨rfl, _, holder, _, ran⟩ | ⟨_, delivered⟩
  · cases ran with
    | succeeds hpc _ => exact .inr ⟨op, hop, .inl ⟨hpc, _, rfl⟩⟩
    | succeedsUnset hpc _ => exact .inr ⟨op, hop, .inl ⟨hpc, _, rfl⟩⟩
    | fails hpc => exact .inr ⟨op, hop, .inr ⟨hpc, rfl⟩⟩
    | _ => exact .inl rfl
  · exact .inl ran.same.completions
  · rcases deliver_cases delivered with ⟨outcome, op, _, _, resumed⟩ |
      ⟨outcome, holder, _, _, resumed⟩ | delivered
    · cases resumed <;> exact .inl rfl
    · exact .inl resumed.same.completions
    · cases delivered with
      | disconnect => exact .inl (disconnect_same s).completions
      | idleStarts _ => exact .inl (idleStarts_same s).completions
      | @enterConnect waiter rest _ _ => cases waiter <;> exact .inl rfl
      | @notification sender data parsed inReplyTo =>
        obtain ⟨_, _, _, recorded⟩ := recordNotification_eq s sender data parsed inReplyTo
        rw [recorded]
        exact .inl rfl
      | _ => exact .inl rfl

/-! ### The frames an attempt hears -/

/-- The slot holds the command of the attempt, and its response event is set only
after a frame with that command byte. -/
structure Hears (frames : List Bytes) (s : State) : Prop where
  pending : ∀ op ∈ s.operation, op.pc.awaitsReply = true →
    s.pendingCommand = some op.call.command
  answered : ∀ op ∈ s.operation, op.pc.awaitsReply = true → ∀ inReplyTo,
    s.responseEvent = some (.set inReplyTo) → ∃ frame ∈ frames, frame[3]? = some op.call.command
  isSet : ∀ op ∈ s.operation, op.pc = .replied → ∃ inReplyTo,
    s.responseEvent = some (.set inReplyTo)

variable {frames : List Bytes}

theorem Hears.of_same (h : Hears frames s) (same : SameOperation s t) : Hears frames t := by
  constructor
  · rw [same.operation, same.pendingCommand]
    exact h.pending
  · rw [same.operation, same.responseEvent]
    exact h.answered
  · rw [same.operation, same.responseEvent]
    exact h.isSet

/-- No reply is awaited. -/
theorem hears_elsewhere (silent : ∀ op ∈ t.operation, op.pc.awaitsReply = false) :
    Hears frames t := by
  constructor
  · intro op hop awaits
    rw [silent op hop] at awaits
    cases awaits
  · intro op hop awaits
    rw [silent op hop] at awaits
    cases awaits
  · intro op hop hpc
    have quiet := silent op hop
    rw [hpc] at quiet
    cases quiet

/-- The operation keeps its slot. -/
theorem Hears.onwards (h : Hears frames s) {op op' : Operation} (hop : s.operation = some op)
    (hop' : t.operation = some op') (command : op'.call.command = op.call.command)
    (pending : t.pendingCommand = s.pendingCommand) (event : t.responseEvent = s.responseEvent)
    (awaits : op.pc.awaitsReply = true)
    (isSet : op'.pc = .replied → ∃ inReplyTo, s.responseEvent = some (.set inReplyTo)) :
    Hears frames t := by
  constructor
  · rw [hop', pending]
    rintro _ ⟨⟩ _
    rw [command]
    exact h.pending op hop awaits
  · rw [hop', event]
    rintro _ ⟨⟩ _
    rw [command]
    exact h.answered op hop awaits
  · rw [hop', event]
    rintro _ ⟨⟩ hpc
    exact isSet hpc

theorem hears_ran {op : Operation} (h : Hears frames s) (hop : s.operation = some op)
    (ran : Ran config s op t) : Hears frames t := by
  cases ran with
  | writes hpc held => exact ⟨by simp, by simp, by simp⟩
  | alreadyReplied hpc event =>
    exact h.onwards hop rfl rfl rfl rfl (by rw [hpc]; rfl) fun _ => ⟨_, event⟩
  | waits hpc => exact h.onwards hop rfl rfl rfl rfl (by rw [hpc]; rfl) nofun
  | _ => exact hears_elsewhere (by simp [OperationPc.awaitsReply, complete])

theorem hears_resumed {op : Operation} {outcome : Outcome} (h : Hears frames s)
    (hop : s.operation = some op) (resumed : Resumed config s op outcome t) : Hears frames t := by
  cases resumed with
  | wrote hpc => exact h.onwards hop rfl rfl rfl rfl (by rw [hpc]; rfl) nofun
  | replied hpc event =>
    exact h.onwards hop rfl rfl rfl rfl (by rw [hpc]; rfl) fun _ => ⟨_, event⟩
  | _ => exact hears_elsewhere (by simp [OperationPc.awaitsReply, abandon])

/-- A frame is looked at by its fourth byte alone. -/
theorem hears_notification (h : Hears frames s) (sender : Nat) (frame : Bytes) (parsed : Bool)
    (inReplyTo : Option Nat) :
    Hears (frames ++ [frame]) (recordNotification s sender frame parsed inReplyTo) := by
  have more : ∀ command, (∃ f ∈ frames, f[3]? = some command) →
      ∃ f ∈ frames ++ [frame], f[3]? = some command :=
    fun _ ⟨f, member, byte⟩ => ⟨f, List.mem_append_left _ member, byte⟩
  unfold recordNotification
  split
  · rename_i byte event hbyte hevent
    split
    · rename_i pending
      refine ⟨h.pending, ?_, ?_⟩
      · intro op hop awaits _ _
        refine ⟨frame, List.mem_append_right _ List.mem_cons_self, ?_⟩
        rw [hbyte, ← pending]
        exact h.pending op hop awaits
      · intro op _ _
        cases event with
        | set first => exact ⟨first, rfl⟩
        | clear => exact ⟨inReplyTo, rfl⟩
    · exact ⟨h.pending, fun op hop awaits r hset => more _ (h.answered op hop awaits r hset),
        h.isSet⟩
  · exact ⟨h.pending, fun op hop awaits r hset => more _ (h.answered op hop awaits r hset),
      h.isSet⟩

theorem hears_delivered (h : Hears frames s) (delivered : Delivered s e t)
    (other : ∀ sender frame parsed inReplyTo, e ≠ .notification sender frame parsed inReplyTo) :
    Hears frames t := by
  cases delivered with
  | begins _ _ => exact hears_elsewhere (by simp [OperationPc.awaitsReply])
  | enterOperation _ _ => exact hears_elsewhere (by simp [OperationPc.awaitsReply])
  | disconnect => exact h.of_same (disconnect_same s)
  | idleStarts _ => exact h.of_same (idleStarts_same s)
  | @enterConnect waiter rest _ _ =>
    cases waiter with
    | operation => exact hears_elsewhere (by simp [takeConnect, OperationPc.awaitsReply])
    | disconnect => exact h.of_same ⟨rfl, rfl, rfl, rfl, rfl, rfl⟩
    | idle => exact h.of_same ⟨rfl, rfl, rfl, rfl, rfl, rfl⟩
  | notification => exact absurd rfl (other _ _ _ _)
  | _ => exact h.of_same ⟨rfl, rfl, rfl, rfl, rfl, rfl⟩

/-- A new attempt begins with nothing heard; any other step but a notification keeps
what was heard. -/
theorem hears_step (h : Hears frames s) (taken : step config s e = some t)
    (other : ∀ sender frame parsed inReplyTo, e ≠ .notification sender frame parsed inReplyTo) :
    Hears (if s.pc = some .attempting then [] else frames) t := by
  split
  · rename_i attempting
    obtain ⟨op, hop, hpc⟩ := Option.map_eq_some_iff.mp attempting
    rcases step_cases taken with ⟨rfl, op', hop', ran⟩ | ⟨rfl, suspended, _⟩ | ⟨quiet, _⟩
    · obtain rfl : op = op' := Option.some.inj (hop.symm.trans hop')
      cases ran with
      | alreadyConnected => exact hears_elsewhere (by simp [OperationPc.awaitsReply])
      | locks => exact hears_elsewhere (by simp [OperationPc.awaitsReply])
      | queues => exact hears_elsewhere (by simp [OperationPc.awaitsReply])
      | givesUp => exact hears_elsewhere (by simp [OperationPc.awaitsReply])
      | _ => simp_all
    · have running := State.running_of_suspended suspended attempting
      cases running
    · have suspended : s.suspended = true := (Bool.and_eq_true_iff.mp quiet).1
      have running := State.running_of_suspended suspended attempting
      cases running
  · rcases step_cases taken with ⟨rfl, op, hop, ran⟩ | ⟨rfl, _, holder, _, ran⟩ | ⟨_, delivered⟩
    · exact hears_ran h hop ran
    · exact h.of_same ran.same
    · rcases deliver_cases delivered with ⟨outcome, op, _, hop, resumed⟩ |
        ⟨outcome, holder, _, _, resumed⟩ | delivered
      · exact hears_resumed h hop resumed
      · exact h.of_same resumed.same
      · exact hears_delivered h delivered other

/-! ### The device behind the coordinator's handler -/

/-- The device, the coordinator's data, and the frames heard in the running attempt. -/
structure Session where
  device : State
  data : TrackedProductData
  heard : List Bytes

/-- A notification goes through the handler; everything else happens to the device. -/
inductive SessionEvent where
  | notified (sender : Nat) (n : Notification)
  | device (e : Event)

def Event.isNotification : Event → Bool
  | .notification _ _ _ _ => true
  | _ => false

namespace Session

/-- `_handle_notification` and the steps of the device. -/
def step (config : Config) (runtime : ProductRuntime) (s : Session) :
    SessionEvent → Option Session
  | .notified sender n =>
    (Device.step config s.device
      (.notification sender n.frame (runtime.handled s.data n) none)).map fun t =>
        ⟨t, runtime.receive s.data n, s.heard ++ [n.frame]⟩
  | .device e =>
    if e.isNotification then none
    else (Device.step config s.device e).map fun t =>
      ⟨t, s.data, if s.device.pc = some .attempting then [] else s.heard⟩

def initial (runtime : ProductRuntime) (device : Option String) : Session :=
  ⟨Device.initial device, runtime.createData, []⟩

/-- A call that returns `True` heard, in the attempt that completed it, a frame with
its command and this property. -/
def CompletedBy (completing : Byte → Bytes → Prop) (s : Session) (_ : SessionEvent)
    (t : Session) : Prop :=
  ∀ op ∈ s.device.operation,
    ∀ done ∈ t.device.completions.drop s.device.completions.length, done.result = true →
      ∃ frame ∈ s.heard, completing op.call.command frame

/-- A well-formed frame of the command. -/
def WellFormed (command : Byte) (frame : Bytes) : Prop :=
  match openFrame frame with
  | .ok (some opened) => opened.1 = command
  | _ => False

/-- At least four bytes, the fourth of which is the command. -/
def CarriesCommand (command : Byte) (frame : Bytes) : Prop := frame[3]? = some command

/-- While an attempt listens, a notification completes it exactly when it carries the
command, whatever its other bytes are and whatever the parser makes of it. -/
def MatchedByCommand (s : Session) (e : SessionEvent) (t : Session) : Prop :=
  match e with
  | .notified _ n => ∀ op ∈ s.device.operation, op.pc.listening = true →
      s.device.responseEvent = some .clear →
      (t.device.responseEvent = some (.set none) ↔ CarriesCommand op.call.command n.frame)
  | .device _ => True

theorem hears_sessionStep {runtime : ProductRuntime} {s t : Session} {e : SessionEvent}
    (hears : Hears s.heard s.device) (taken : step config runtime s e = some t) :
    Hears t.heard t.device := by
  cases e with
  | notified sender n =>
    obtain ⟨after, moved, rfl⟩ := Option.map_eq_some_iff.mp taken
    obtain ⟨_, rfl⟩ : s.device.quiet = true ∧
        recordNotification s.device sender n.frame (runtime.handled s.data n) none = after := by
      simpa [Device.step, deliver] using moved
    exact hears_notification hears sender n.frame _ none
  | device e =>
    rw [step] at taken
    split at taken
    · cases taken
    · rename_i other
      obtain ⟨after, moved, rfl⟩ := Option.map_eq_some_iff.mp taken
      refine hears_step hears moved ?_
      rintro sender frame parsed inReplyTo rfl
      exact other rfl

/-- A step of the session is a step of the device. -/
theorem device_of_step {runtime : ProductRuntime} {s t : Session} {e : SessionEvent}
    (taken : step config runtime s e = some t) :
    ∃ e', Device.step config s.device e' = some t.device := by
  cases e with
  | notified sender n =>
    obtain ⟨after, moved, rfl⟩ := Option.map_eq_some_iff.mp taken
    exact ⟨_, moved⟩
  | device e =>
    rw [step] at taken
    split at taken
    · cases taken
    · obtain ⟨after, moved, rfl⟩ := Option.map_eq_some_iff.mp taken
      exact ⟨_, moved⟩

theorem completedBy_of_hears {runtime : ProductRuntime} {s t : Session} {e : SessionEvent}
    (hears : Hears s.heard s.device) (taken : step config runtime s e = some t) :
    CompletedBy CarriesCommand s e t := by
  obtain ⟨e', moved⟩ := device_of_step taken
  intro op hop done completed result
  rcases returns_of_step moved with same | ⟨op', hop', returns⟩
  · rw [same, List.drop_length] at completed
    cases completed
  · obtain rfl : op = op' := Option.some.inj (hop.symm.trans hop')
    rcases returns with ⟨hpc, _, _⟩ | ⟨_, rejected⟩
    · obtain ⟨inReplyTo, event⟩ := hears.isSet op hop hpc
      exact hears.answered op hop (by rw [hpc]; rfl) inReplyTo event
    · rw [rejected, complete, List.drop_left, List.mem_singleton] at completed
      rw [completed] at result
      cases result

theorem matchedByCommand_of_hears {runtime : ProductRuntime} {s t : Session} {e : SessionEvent}
    (hears : Hears s.heard s.device) (taken : step config runtime s e = some t) :
    MatchedByCommand s e t := by
  cases e with
  | device e => trivial
  | notified sender n =>
    intro op hop listening clear
    obtain ⟨after, moved, rfl⟩ := Option.map_eq_some_iff.mp taken
    obtain ⟨_, rfl⟩ : s.device.quiet = true ∧
        recordNotification s.device sender n.frame (runtime.handled s.data n) none = after := by
      simpa [Device.step, deliver] using moved
    have awaits : op.pc.awaitsReply = true := by
      cases hpc : op.pc <;> simp_all [OperationPc.listening, OperationPc.awaitsReply]
    have pending := hears.pending op hop awaits
    unfold CarriesCommand recordNotification
    cases n.frame[3]? with
    | none => simp [clear]
    | some byte =>
      by_cases same : op.call.command = byte
      · simp [clear, pending, same]
      · simp [clear, pending, same, Ne.symm same]

/-- In every run behind the handler of any product, a call returns `True` only after a
notification with its command byte, and any such notification completes the attempt
that listens, well-formed or not. -/
theorem completed_by_command_byte (config : Config) (runtime : ProductRuntime)
    (device : Option String) (events : List SessionEvent) :
    Steps (step config runtime) (CompletedBy CarriesCommand) (initial runtime device) events ∧
      Steps (step config runtime) MatchedByCommand (initial runtime device) events := by
  have start : Hears (initial runtime device).heard (initial runtime device).device :=
    hears_elsewhere nofun
  have hears : States (step config runtime) (fun s => Hears s.heard s.device)
      (initial runtime device) events :=
    states_of_invariant (fun s e t hears taken => hears_sessionStep hears taken) start events
  have completed : ∀ s e t, Hears s.heard s.device → Hears t.heard t.device →
      step config runtime s e = some t → CompletedBy CarriesCommand s e t :=
    fun _ _ _ hears _ taken => completedBy_of_hears hears taken
  have matched : ∀ s e t, Hears s.heard s.device → Hears t.heard t.device →
      step config runtime s e = some t → MatchedByCommand s e t :=
    fun _ _ _ hears _ taken => matchedByCommand_of_hears hears taken
  exact ⟨steps_of_states completed hears, steps_of_states matched hears⟩

instance (command : Byte) (frame : Bytes) : Decidable (WellFormed command frame) := by
  unfold WellFormed
  split <;> infer_instance

instance (s : Session) (e : SessionEvent) (t : Session) :
    Decidable (CompletedBy WellFormed s e t) :=
  inferInstanceAs (Decidable (∀ op ∈ s.device.operation,
    ∀ done ∈ t.device.completions.drop s.device.completions.length, done.result = true →
      ∃ frame ∈ s.heard, WellFormed op.call.command frame))

/-- A read of the system data, answered by four bytes that are no frame. -/
def truncatedReply : List SessionEvent :=
  (firstAttempt { command := 0x0D }).map .device ++
    [.notified 0 ⟨[0x00, 0x00, 0x00, 0x0D], 5⟩, .device (.operationResumes .returned),
      .device .run]

theorem truncated_reply_completes :
    ¬ ∀ (config : Config) (runtime : ProductRuntime) (device : Option String)
      (events : List SessionEvent),
      Steps (step config runtime) (CompletedBy WellFormed) (initial runtime device) events := by
  intro all
  have completed := all ⟨"Marstek", true, true⟩ Venus.venusRuntime (some "device") truncatedReply
  revert completed
  decide +kernel

end Session

end MarstekBle.Device
