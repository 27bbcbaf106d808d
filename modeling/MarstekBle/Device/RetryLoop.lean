/- module: Device/RetryLoop
   source: custom_components/marstek_ble/marstek_device.py
   digest: The retry loop of send_command over runs of serialised calls. -/

import MarstekBle.Device.Attempts
import MarstekBle.Device.Attribution
import MarstekBle.Device.PendingSlot

/-!
An onlooker notes beside the device how the attempts of the running call ended. The
device never reads these notes.
-/

set_option autoImplicit false
set_option relaxedAutoImplicit false

namespace MarstekBle.Device

open MarstekBle.Data MarstekBle.Protocol MarstekBle.Lib.GuardedRun

variable {config : Config} {s t : State} {e : Event}

namespace OperationPc

/-- Before the write of the attempt. -/
def unwritten : OperationPc → Bool
  | .awaitingConnect | .connectLocked | .establishing | .startingNotify _ | .connectFailed _
  | .cleaning _ _ | .ensured => true
  | _ => false

def isDropping : OperationPc → Bool
  | .dropping _ => true
  | _ => false

def isSubscribing : OperationPc → Bool
  | .startingNotify _ => true
  | _ => false

/-- The client is being disconnected after an error. -/
def disconnects : OperationPc → Bool
  | .cleaning _ _ | .dropping _ => true
  | _ => false

end OperationPc

/-- The loop takes up another attempt. -/
def State.beginsAttempt (s : State) : Bool :=
  s.operation.any fun op => decide (op.pc = .attempting ∧ op.attempt < op.call.retry)

/-! ### What is noted beside the device -/

/-- The outcomes of the attempts of a call, that of the last attempt until another one
begins, the number of writes before it, and the steps the call has taken. -/
structure Observed where
  device : State
  outcomes : List AttemptOutcome := []
  ended : Option AttemptOutcome := none
  writesBefore : Nat := 0
  steps : Nat := 0

namespace Observed

def after (s : Observed) (e : Event) (t : State) : Observed where
  device := t
  outcomes := (if s.device.operation.isNone then [] else s.outcomes) ++
    s.device.attemptOutcome.toList
  ended := if s.device.beginsAttempt then none else s.device.attemptOutcome.or s.ended
  writesBefore := if s.device.beginsAttempt then s.device.writes.length else s.writesBefore
  steps := if s.device.operation.isNone then 0
    else s.steps + (if e.ofOperation then 1 else 0)

/-- Serialised calls without cancellation, `disconnect()` and idle expiry. -/
def step (config : Config) (s : Observed) (e : Event) : Option Observed :=
  if e.undisturbing then (Device.step config s.device e).map (s.after e) else none

def initial (device : Option String) : Observed := { device := Device.initial device }

end Observed

/-! ### Properties of a run -/

/-- Once the client of an attempt that raised is dropped, nothing of it is left until
another attempt begins. -/
def CleanedUp (s : Observed) : Prop :=
  s.ended.any AttemptOutcome.byException = true →
    s.device.pc.any OperationPc.isDropping = false →
      s.device.client = none ∧ s.device.notificationsStarted = false ∧
        s.device.expectedDisconnect = false ∧ SlotEmpty s.device

/-- The attempt has written its frame at most once. -/
def WrittenOnce (s : Observed) : Prop :=
  (s.device.writes.drop s.writesBefore).length ≤ 1

/-- The call under way has boundedly many steps to take and can take the next one, and
one that waits for a free lock can enter. -/
structure GoesOn (config : Config) (s : Observed) : Prop where
  bounded : ∀ op, s.device.operation = some op → s.steps < 10 * op.call.retry + 2
  enabled : ∀ op, s.device.operation = some op →
    ∃ e, e.ofOperation = true ∧ (s.step config e).isSome = true
  enters : s.device.operation = none → s.device.operationWaiters ≠ [] →
    (s.step config .enterOperation).isSome = true

/-- A step records nothing, or the outcome of the call that returns in it. -/
def Recorded (s : Observed) (_ : Event) (t : Observed) : Prop :=
  Unrecorded s.device t.device ∨ ∃ op result, s.device.operation = some op ∧
    ReturnOf s.device t.device t.outcomes op result

/-- A call raises, and changes nothing, only where its frame cannot be built. -/
def Accepted (s : Observed) (e : Event) (t : Observed) : Prop :=
  match e with
  | .sendCommand call =>
    (∃ error, buildCommand call.command call.payload = .error error ∧ t.device = s.device) ∨
    ∃ frame, buildCommand call.command call.payload = .ok frame ∧
      t.device.callers = s.device.callers ++ [⟨s.device.calls, call, frame⟩]
  | _ => True

/-- `start_notify` does not return after a disconnect callback cleared the client. -/
def KeepsSubscribedClient (s : Observed) (e : Event) (_ : Observed) : Prop :=
  match e with
  | .operationResumes .returned =>
    s.device.pc.any OperationPc.isSubscribing = true → s.device.client ≠ none
  | _ => True

/-! ### Writes -/

/-- The write of the attempt has not been made, or it is the only one. -/
def WritesFrom (before : Nat) (s : State) : Prop :=
  s.writes.length ≤ before + (!s.pc.any OperationPc.unwritten).toNat

theorem writesFrom_ran {before : Nat} {op : Operation} (h : WritesFrom before s)
    (hop : s.operation = some op) (ran : Ran config s op t) :
    WritesFrom (if s.beginsAttempt then s.writes.length else before) t := by
  simp only [WritesFrom, State.pc, State.beginsAttempt, hop, Option.map_some,
    Option.any_some] at h ⊢
  cases ran
  case givesUp hpc spent =>
    have last : ¬ op.attempt < op.call.retry := Nat.not_lt.mpr spent
    simpa [last, hpc, OperationPc.unwritten] using h
  case unavailable hpc _ =>
    simpa [hpc, OperationPc.unwritten] using h.trans (Nat.add_le_add_left (Bool.toNat_le _) _)
  case nothingToClean hpc _ =>
    simpa [hpc, OperationPc.unwritten] using h.trans (Nat.add_le_add_left (Bool.toNat_le _) _)
  case clientGone hpc _ =>
    simpa [hpc, OperationPc.unwritten] using h.trans (Nat.add_le_add_left (Bool.toNat_le _) _)
  all_goals
    simp_all [OperationPc.unwritten, complete, resetDisconnectTimer, cancelTimer]

theorem writesFrom_resumed {before : Nat} {op : Operation} {outcome : Outcome}
    (h : WritesFrom before s) (hop : s.operation = some op) (kept : outcome ≠ .cancelled)
    (resumed : Resumed config s op outcome t) : WritesFrom before t := by
  simp only [WritesFrom, State.pc, hop, Option.map_some, Option.any_some] at h ⊢
  have room := h.trans (Nat.add_le_add_left (Bool.toNat_le _) before)
  cases outcome with
  | cancelled => exact absurd rfl kept
  | _ =>
    cases resumed <;> simp_all [OperationPc.unwritten]

theorem writesFrom_arrived {before : Nat} (h : WritesFrom before s) (arrived : Arrived s e t)
    (writes : t.writes = s.writes) : WritesFrom before t := by
  rcases operation_of_arrived arrived with same | ⟨_, caller, fresh⟩
  · rw [WritesFrom, writes, State.pc, same]
    exact h
  · rw [WritesFrom, writes, State.pc, fresh]
    exact h.trans (Nat.add_le_add_left (Bool.toNat_le _) before)

/-! ### Notes -/

/-- While the operation is at an `await`, no attempt begins or ends. -/
theorem unnoted_of_suspended (suspended : s.suspended = true) :
    s.beginsAttempt = false ∧ s.attemptOutcome = none := by
  unfold State.beginsAttempt State.attemptOutcome State.pc
  cases hop : s.operation with
  | none => exact ⟨rfl, rfl⟩
  | some op =>
    have hpc : s.pc = some op.pc := by rw [State.pc, hop]; rfl
    have awaits := State.running_of_suspended suspended hpc
    cases hpc : op.pc <;> simp_all [OperationPc.running, OperationPc.attemptOutcome]

theorem suspended_of_resumed {op : Operation} {outcome : Outcome} (hop : s.operation = some op)
    (resumed : Resumed config s op outcome t) : s.suspended = true := by
  have awaits : op.pc.running = false := by cases resumed <;> simp only [*] <;> rfl
  simp [State.suspended, State.pc, hop, awaits]

theorem unowned_of_arrived (arrived : Arrived s e t) : e.ofOperation = false := by
  cases arrived <;> rfl

namespace Observed

theorem step_eq {s t : Observed} (h : s.step config e = some t) : e.undisturbing = true ∧
    ∃ d, Device.step config s.device e = some d ∧ t = s.after e d := by
  rw [step, Option.ite_none_right_eq_some] at h
  obtain ⟨undisturbing, taken⟩ := h
  obtain ⟨d, moved, rfl⟩ := Option.map_eq_some_iff.mp taken
  exact ⟨undisturbing, d, moved, rfl⟩

/-- What is known in every state, whatever the links do. -/
structure Sound (s : Observed) : Prop where
  control : Control s.device
  serial : Serial s.device
  slot : SlotOwned s.device
  accounts : Accounts s.device
  writes : WritesFrom s.writesBefore s.device
  tally : ∀ op, s.device.operation = some op → Tally s.outcomes op
  steps : ∀ op, s.device.operation = some op → s.steps + op.stepsLeft ≤ 10 * op.call.retry + 2

theorem sound_initial (device : Option String) : Sound (initial device) where
  control := control_initial device
  serial := serial_initial device
  slot := .inl ⟨rfl, rfl⟩
  accounts := accounts_initial device
  writes := Nat.zero_le _
  tally := nofun
  steps := nofun

/-- The tally and the number of steps follow the operation. -/
theorem tally_after {s : Observed} {d : State} (sound : Sound s)
    (advanced : Advanced config s.device e d) {op' : Operation} (next : d.operation = some op') :
    Tally (s.after e d).outcomes op' ∧
      (s.after e d).steps + op'.stepsLeft ≤ 10 * op'.call.retry + 2 := by
  cases advanced with
  | @ran op _ hop ran _ =>
    have tally := tally_ran (sound.tally op hop) ran next
    have steps := sound.steps op hop
    obtain ⟨same, fewer⟩ := stepsLeft_ran ran next
    simp only [after, State.attemptOutcome, State.pc, hop, same, Event.ofOperation, if_true,
      Option.isNone_some, Bool.false_eq_true, if_false, Option.map_some, Option.bind_some]
    exact ⟨tally, by omega⟩
  | @resumed op outcome _ hop kept resumed =>
    have tally := tally_resumed (sound.tally op hop) resumed next
    have steps := sound.steps op hop
    have unnoted := (unnoted_of_suspended (suspended_of_resumed hop resumed)).2
    obtain ⟨same, fewer⟩ := stepsLeft_resumed resumed next
    simp only [after, unnoted, hop, same, Event.ofOperation, if_true, Option.isNone_some,
      Bool.false_eq_true, if_false, Option.toList_none, List.append_nil]
    exact ⟨tally, by omega⟩
  | arrived suspended arrived =>
    have unnoted := (unnoted_of_suspended suspended).2
    have unowned := unowned_of_arrived arrived
    rcases operation_of_arrived arrived with same | ⟨free, caller, fresh⟩
    · have hop := same.symm.trans next
      simp only [after, unnoted, hop, unowned, Option.isNone_some, Bool.false_eq_true, if_false,
        Option.toList_none, List.append_nil, Nat.add_zero]
      exact ⟨sound.tally op' hop, sound.steps op' hop⟩
    · obtain rfl := Option.some.inj (fresh.symm.trans next)
      simp only [after, unnoted, free, Option.isNone_none, if_true, Option.toList_none,
        List.append_nil]
      exact ⟨tally_start caller, by simp [Operation.stepsLeft]⟩

theorem writes_after {s : Observed} {d : State} (sound : Sound s)
    (advanced : Advanced config s.device e d) : WritesFrom (s.after e d).writesBefore d := by
  cases advanced with
  | ran hop ran _ => exact writesFrom_ran sound.writes hop ran
  | resumed hop kept resumed =>
    have unnoted := (unnoted_of_suspended (suspended_of_resumed hop resumed)).1
    simp only [after, unnoted, Bool.false_eq_true, if_false]
    exact writesFrom_resumed sound.writes hop kept resumed
  | arrived suspended arrived =>
    have unnoted := (unnoted_of_suspended suspended).1
    simp only [after, unnoted, Bool.false_eq_true, if_false]
    have writes : d.writes = s.device.writes := by
      cases arrived with
      | @notification sender data parsed inReplyTo =>
        obtain ⟨_, _, _, recorded⟩ :=
          recordNotification_eq s.device sender data parsed inReplyTo
        rw [recorded]
      | _ => rfl
    exact writesFrom_arrived sound.writes arrived writes

theorem accounts_after {s : Observed} {d : State} (sound : Sound s)
    (advanced : Advanced config s.device e d) : Accounts d := by
  cases advanced with
  | ran hop ran _ => exact accounts_ran sound.accounts (sound.tally _ hop) hop ran
  | resumed hop kept resumed => exact accounts_resumed sound.accounts hop kept resumed
  | arrived _ arrived => exact accounts_arrived sound.accounts arrived

theorem sound_step {s t : Observed} (sound : Sound s) (h : s.step config e = some t) :
    Sound t := by
  obtain ⟨undisturbing, d, moved, rfl⟩ := step_eq h
  have advanced := advanced_of_step sound.control sound.serial undisturbing moved
  have kept : WriteNotCancelled s.device e := by
    cases e with
    | operationResumes outcome =>
      cases outcome with
      | cancelled => cases undisturbing
      | _ => trivial
    | _ => trivial
  exact {
    control := control_keeps.step trivial sound.control trivial moved
    serial := serial_advanced sound.serial advanced
    slot := slotOwned_keeps.step sound.control sound.slot kept moved
    accounts := accounts_after sound advanced
    writes := writes_after sound advanced
    tally := fun op hop => (tally_after sound advanced hop).1
    steps := fun op hop => (tally_after sound advanced hop).2 }

theorem writtenOnce_of_sound {s : Observed} (sound : Sound s) : WrittenOnce s := by
  have room := sound.writes.trans (Nat.add_le_add_left (Bool.toNat_le _) s.writesBefore)
  rw [WrittenOnce, List.length_drop]
  omega

theorem goesOn_of_sound {s : Observed} (sound : Sound s) : GoesOn config s where
  bounded := fun op hop => by
    have steps := sound.steps op hop
    have left := op.stepsLeft_pos
    omega
  enabled := fun op hop => by
    obtain ⟨e, own, undisturbing, enabled⟩ := exists_step sound.control sound.serial hop
    exact ⟨e, own, by rw [step, if_pos undisturbing, Option.isSome_map, enabled]⟩
  enters := fun free waiting => by
    have entered : (Device.step config s.device .enterOperation).isSome = true :=
      enters_of_free sound.serial free waiting
    simpa [step, Event.undisturbing] using entered

theorem recorded_of_sound {s t : Observed} (sound : Sound s) (h : s.step config e = some t) :
    Recorded s e t := by
  obtain ⟨undisturbing, d, moved, rfl⟩ := step_eq h
  cases advanced_of_step sound.control sound.serial undisturbing moved with
  | @ran op _ hop ran _ =>
    rcases recorded_ran (sound.tally op hop) hop ran with unrecorded | ⟨result, returnOf⟩
    · exact .inl unrecorded
    · refine .inr ⟨op, result, hop, ?_⟩
      simpa only [after, State.attemptOutcome, State.pc, hop, Option.isNone_some,
        Bool.false_eq_true, if_false, Option.map_some, Option.bind_some] using returnOf
  | resumed hop kept resumed => exact .inl (unrecorded_resumed hop kept resumed)
  | arrived _ arrived => exact .inl (unrecorded_arrived arrived)

theorem accepted_of_step {s t : Observed} (h : s.step config e = some t) : Accepted s e t := by
  obtain ⟨_, d, moved, rfl⟩ := step_eq h
  cases e with
  | sendCommand call =>
    have delivered := (Option.ite_none_right_eq_some.mp moved).2
    rcases called_of_arrived (arrived_of_sendCommand delivered) with refused |
      ⟨frame, built, callers, _⟩
    · exact .inl refused
    · exact .inr ⟨frame, built, callers⟩
  | _ => trivial

end Observed

/-! ### What an exception leaves behind -/

/-- The flags and the client, seen from the end of the last attempt. -/
structure Tidy (ended : Option AttemptOutcome) (s : State) : Prop where
  subscribed : s.client = none → s.notificationsStarted = false
  expected : s.expectedDisconnect = true → s.pc.any OperationPc.disconnects = true
  running : s.pc.any OperationPc.undecided = true → ended = none
  dropped : ended.any AttemptOutcome.byException = true →
    s.pc.any OperationPc.isDropping = false → s.client = none

variable {ended : Option AttemptOutcome}

theorem tidy_ran {op : Operation} (tidy : Tidy ended s) (hop : s.operation = some op)
    (ran : Ran config s op t) :
    Tidy (if s.beginsAttempt then none else s.attemptOutcome.or ended) t := by
  obtain ⟨subscribed, expected, running, dropped⟩ := tidy
  simp only [State.pc, State.beginsAttempt, State.attemptOutcome, hop, Option.map_some,
    Option.any_some, Option.bind_some] at *
  cases ran <;> constructor <;>
    simp_all [OperationPc.undecided, OperationPc.disconnects, OperationPc.isDropping,
      OperationPc.attemptOutcome, State.pc, complete, resetDisconnectTimer, cancelTimer,
      AttemptOutcome.byException]
  case givesUp.dropped spent =>
    rw [if_neg (Nat.not_lt.mpr spent)]
    exact dropped

/-- Only the return of `start_notify` without a client leaves the flag set without one. -/
theorem tidy_resumed {op : Operation} {outcome : Outcome} (tidy : Tidy ended s)
    (hop : s.operation = some op) (kept : outcome ≠ .cancelled)
    (held : ∀ k, op.pc = .startingNotify k → outcome = .returned → s.client ≠ none)
    (resumed : Resumed config s op outcome t) : Tidy ended t := by
  obtain ⟨subscribed, expected, running, dropped⟩ := tidy
  simp only [State.pc, hop, Option.map_some, Option.any_some] at *
  cases outcome with
  | cancelled => exact absurd rfl kept
  | _ =>
    cases resumed <;> constructor <;>
      simp_all [OperationPc.undecided, OperationPc.disconnects, OperationPc.isDropping,
        State.pc]

/-- A call takes the lock; it has done nothing yet. -/
theorem Tidy.starts (tidy : Tidy ended s) (free : s.operation = none)
    (hpc : t.pc = some .attempting) (client : t.client = s.client)
    (flag : t.notificationsStarted = s.notificationsStarted)
    (expected : t.expectedDisconnect = s.expectedDisconnect) : Tidy ended t := by
  have idle : s.pc = none := by rw [State.pc, free]; rfl
  constructor
  · rw [client, flag]
    exact tidy.subscribed
  · rw [expected]
    intro expects
    have busy := tidy.expected expects
    rw [idle] at busy
    cases busy
  · rw [hpc]
    intro inside
    cases inside
  · rw [client]
    intro raised _
    exact tidy.dropped raised (by rw [idle]; rfl)

theorem tidy_arrived (tidy : Tidy ended s) (arrived : Arrived s e t) : Tidy ended t := by
  cases arrived with
  | @notification sender data parsed inReplyTo =>
    obtain ⟨_, _, _, recorded⟩ := recordNotification_eq s sender data parsed inReplyTo
    rw [recorded]
    exact ⟨tidy.subscribed, tidy.expected, tidy.running, tidy.dropped⟩
  | disconnected => exact ⟨fun _ => rfl, nofun, tidy.running, fun _ _ => rfl⟩
  | begins _ free _ => exact tidy.starts free rfl rfl rfl rfl
  | enters free _ => exact tidy.starts free rfl rfl rfl rfl
  | _ => exact ⟨tidy.subscribed, tidy.expected, tidy.running, tidy.dropped⟩

namespace Observed

theorem ended_after {s : Observed} {d : State} (suspended : s.device.suspended = true) :
    (s.after e d).ended = s.ended := by
  simp only [after, unnoted_of_suspended suspended, Bool.false_eq_true, if_false, Option.none_or]

theorem tidy_step {s t : Observed} (sound : Sound s) (tidy : Tidy s.ended s.device)
    (held : KeepsSubscribedClient s e t) (h : s.step config e = some t) :
    Tidy t.ended t.device := by
  obtain ⟨undisturbing, d, moved, rfl⟩ := step_eq h
  cases advanced_of_step sound.control sound.serial undisturbing moved with
  | ran hop ran _ => exact tidy_ran tidy hop ran
  | resumed hop kept resumed =>
    rw [ended_after (suspended_of_resumed hop resumed)]
    refine tidy_resumed tidy hop kept ?_ resumed
    rintro k hpc rfl
    exact held (by simp [State.pc, hop, hpc, OperationPc.isSubscribing])
  | arrived suspended arrived =>
    rw [ended_after suspended]
    exact tidy_arrived tidy arrived

theorem cleanedUp_of_tidy {s : Observed} (sound : Sound s) (tidy : Tidy s.ended s.device) :
    CleanedUp s := by
  intro raised settled
  have client := tidy.dropped raised settled
  have outside : s.device.pc.any OperationPc.undecided ≠ true := by
    intro inside
    rw [tidy.running inside] at raised
    cases raised
  refine ⟨client, tidy.subscribed client, ?_, ?_⟩
  · by_contra expects
    have busy := tidy.expected (Bool.not_eq_false _ ▸ expects)
    cases hpc : s.device.pc with
    | none => simp [hpc] at busy
    | some pc =>
      cases pc <;> simp_all [OperationPc.disconnects, OperationPc.undecided,
        OperationPc.isDropping]
  · rcases sound.slot with empty | ⟨op, hop, armed⟩
    · exact empty
    · refine absurd ?_ outside
      rw [State.pc, hop]
      cases hpc : op.pc <;> simp_all [OperationPc.armed, OperationPc.undecided]

/-- What every state of such a run satisfies. -/
structure Kept (config : Config) (s : Observed) : Prop where
  accounts : Accounts s.device
  cleaned : CleanedUp s
  once : WrittenOnce s
  goesOn : GoesOn config s

/-- In every run of serialised calls that nothing disturbs and in which `start_notify`
keeps its client, every call goes on to its return, is recorded once with the outcomes
of its attempts, and every attempt that raises is cleaned up. -/
theorem calls_recorded_and_cleaned (config : Config) (device : Option String)
    (events : List Event)
    (held : Steps (step config) KeepsSubscribedClient (initial device) events) :
    States (step config) (Kept config) (initial device) events ∧
      Steps (step config) (fun s e t => Recorded s e t ∧ Accepted s e t)
        (initial device) events := by
  have start : Sound (initial device) ∧ Tidy (initial device).ended (initial device).device :=
    ⟨sound_initial device, fun _ => rfl, nofun, nofun, nofun⟩
  have keep : ∀ s e t, Sound s ∧ Tidy s.ended s.device → KeepsSubscribedClient s e t →
      step config s e = some t → Sound t ∧ Tidy t.ended t.device :=
    fun _ _ _ known held taken =>
      ⟨sound_step known.1 taken, tidy_step known.1 known.2 held taken⟩
  have states := states_of_steps keep start held
  have recorded : ∀ s e t, Sound s ∧ Tidy s.ended s.device → Sound t ∧ Tidy t.ended t.device →
      step config s e = some t → Recorded s e t ∧ Accepted s e t :=
    fun _ _ _ known _ taken => ⟨recorded_of_sound known.1 taken, accepted_of_step taken⟩
  refine ⟨states.mono ?_, steps_of_states recorded states⟩
  rintro s ⟨sound, tidy⟩
  exact ⟨sound.accounts, cleanedUp_of_tidy sound tidy, writtenOnce_of_sound sound,
    goesOn_of_sound sound⟩

instance (s t : Observed) (e : Event) : Decidable (KeepsSubscribedClient s e t) := by
  unfold KeepsSubscribedClient
  split <;> infer_instance

instance (s : Observed) : Decidable (CleanedUp s) := by
  unfold CleanedUp SlotEmpty
  infer_instance

/-- The first attempt does not find the device, the second is replied. -/
def secondAttemptReplied : List Event :=
  [.sendCommand { command := 0x0D }, .run, .run, .operationResumes (.raised "not found"), .run,
    .run, .run, .operationResumes .returned, .run, .run, .operationResumes .returned,
    .operationResumes .returned, .run, .operationResumes .returned, .run] ++ reply 0x0D 0

theorem calls_recorded_and_cleaned_replied :
    States (step ⟨"Marstek", true, true⟩) (Kept ⟨"Marstek", true, true⟩)
        (initial (some "device")) secondAttemptReplied ∧
      Steps (step ⟨"Marstek", true, true⟩) (fun s e t => Recorded s e t ∧ Accepted s e t)
        (initial (some "device")) secondAttemptReplied :=
  calls_recorded_and_cleaned _ _ _ (by decide +kernel)

/-- The link is lost, and its callback delivered, while `start_notify` is awaited. The
write raises, and the next attempt is about to begin. -/
def lostWhileSubscribing : List Event :=
  [.sendCommand { command := 0x0D }, .run, .run, .operationResumes .returned, .linkLost 0,
    .disconnected 0, .operationResumes .returned, .run, .run, .run, .operationResumes .returned]

theorem flag_outlives_client :
    ¬ ∀ (config : Config) (device : Option String) (events : List Event),
      States (step config) (Kept config) (initial device) events ∧
        Steps (step config) (fun s e t => Recorded s e t ∧ Accepted s e t)
          (initial device) events := by
  intro all
  have kept := (all ⟨"Marstek", true, true⟩ (some "device") lostWhileSubscribing).1
  have cleaned := kept.mono fun s known => known.cleaned
  revert cleaned
  decide +kernel

end Observed

end MarstekBle.Device
