/- module: Device/Attribution
   source: custom_components/marstek_ble/marstek_device.py
   digest: Which write the notification that completes a command replies to. -/

import MarstekBle.Device.Locks

set_option autoImplicit false
set_option relaxedAutoImplicit false

namespace MarstekBle.Device

open MarstekBle.Data MarstekBle.Protocol MarstekBle.Lib.GuardedRun

variable {config : Config} {s t : State} {e : Event}

/-- The notification is a reply to a write of the call `id`. -/
def RepliesTo (s : State) (inReplyTo : Option Nat) (id : Nat) : Prop :=
  (inReplyTo.bind fun w => s.writes[w]?).map (fun write => write.call) = some id

/-- Every call that returned `True` was completed by a reply to one of its own writes. -/
def Attributed (s : State) : Prop :=
  ∀ done ∈ s.completions, done.result = true → RepliesTo s done.inReplyTo done.call

/-- A notification replies to a frame written before, with the same command byte. -/
def Solicited (s : State) (e : Event) : Prop :=
  match e with
  | .notification _ data _ inReplyTo =>
    ∃ w ∈ inReplyTo, ∃ write ∈ s.writes[w]?, data[3]? = some write.command
  | _ => True

/-- The writes that the notifications of a run reply to. -/
def replies (events : List Event) : List Nat :=
  events.filterMap fun
    | .notification _ _ _ inReplyTo => inReplyTo
    | _ => none

/-- The attempt has written its frame and waits for the response event. -/
def OperationPc.listening : OperationPc → Bool
  | .writing | .waiting => true
  | _ => false

/-- No notification with the pending command byte that replies to a write of another
call arrives while an attempt with an unset response event listens. -/
def NotOvertaken (s : State) (e : Event) : Prop :=
  match e with
  | .notification _ data _ inReplyTo =>
    ∀ op ∈ s.operation, op.pc.listening = true → s.responseEvent = some .clear →
      data[3]? = s.pendingCommand →
      ∀ w ∈ inReplyTo, ∀ write ∈ s.writes[w]?, write.call = op.id
  | _ => True

/-! ### The response event of the running attempt -/

/-- Where the response event belongs to the attempt. -/
def OperationPc.awaitsReply : OperationPc → Bool
  | .writing | .written | .waiting | .replied => true
  | _ => false

/-- The completions and the response event are all accounted for. -/
structure Attribution (s : State) : Prop where
  completed : Attributed s
  own : ∀ op ∈ s.operation, op.pc.awaitsReply = true → ∀ inReplyTo,
    s.responseEvent = some (.set inReplyTo) → RepliesTo s inReplyTo op.id
  isSet : ∀ op ∈ s.operation, op.pc = .replied → ∃ inReplyTo,
    s.responseEvent = some (.set inReplyTo)

/-- Writes are appended; what a notification replies to never changes. -/
theorem RepliesTo.append {inReplyTo : Option Nat} {id : Nat} (h : RepliesTo s inReplyTo id)
    {more : List Write} (writes : t.writes = s.writes ++ more) : RepliesTo t inReplyTo id := by
  unfold RepliesTo at h ⊢
  obtain ⟨write, found, rfl⟩ := Option.map_eq_some_iff.mp h
  obtain ⟨w, rfl, here⟩ := Option.bind_eq_some_iff.mp found
  have inside : w < s.writes.length := (List.getElem?_eq_some_iff.mp here).1
  simp [writes, List.getElem?_append_left inside, here]

theorem Attributed.append (h : Attributed s) {more : List Write}
    (writes : t.writes = s.writes ++ more) (completions : t.completions = s.completions) :
    Attributed t := by
  intro done member result
  rw [completions] at member
  exact (h done member result).append writes

theorem Attribution.of_same (h : Attribution s) (same : SameOperation s t) : Attribution t := by
  have writes : t.writes = s.writes ++ [] := by rw [same.writes, List.append_nil]
  constructor
  · exact h.completed.append writes same.completions
  · rw [same.operation, same.responseEvent]
    intro op hop awaits inReplyTo event
    exact (h.own op hop awaits inReplyTo event).append writes
  · rw [same.operation, same.responseEvent]
    exact h.isSet

/-- The operation goes on at a statement where no reply is awaited. -/
theorem Attribution.elsewhere (h : Attribution s) (writes : t.writes = s.writes)
    (completions : t.completions = s.completions)
    (silent : ∀ op ∈ t.operation, op.pc.awaitsReply = false) : Attribution t := by
  constructor
  · exact h.completed.append (by rw [writes, List.append_nil]) completions
  · intro op hop awaits
    rw [silent op hop] at awaits
    cases awaits
  · intro op hop hpc
    have quiet := silent op hop
    rw [hpc] at quiet
    cases quiet

/-- The operation keeps the response event and its place before or after the reply. -/
theorem Attribution.onwards (h : Attribution s) {op op' : Operation} (hop : s.operation = some op)
    (hop' : t.operation = some op') (id : op'.id = op.id)
    (writes : t.writes = s.writes) (completions : t.completions = s.completions)
    (event : t.responseEvent = s.responseEvent) (from_reply : op.pc.awaitsReply = true)
    (isSet : op'.pc = .replied → ∃ inReplyTo, s.responseEvent = some (.set inReplyTo)) :
    Attribution t := by
  have appended : t.writes = s.writes ++ [] := by rw [writes, List.append_nil]
  constructor
  · exact h.completed.append appended completions
  · rw [hop', event]
    rintro _ ⟨⟩ _ inReplyTo hset
    rw [id]
    exact (h.own op hop from_reply inReplyTo hset).append appended
  · rw [hop', event]
    rintro _ ⟨⟩ hpc
    exact isSet hpc

/-- A call returns; its result is accounted for. -/
theorem Attribution.completes (h : Attribution s) {op : Operation} {result : Bool}
    {inReplyTo : Option Nat} (writes : t.writes = s.writes)
    (completions : t.completions = s.completions ++ [⟨op.id, result, inReplyTo⟩])
    (free : t.operation = none) (owned : result = true → RepliesTo s inReplyTo op.id) :
    Attribution t := by
  have appended : t.writes = s.writes ++ [] := by rw [writes, List.append_nil]
  constructor
  · intro done member succeeded
    rw [completions] at member
    rcases List.mem_append.mp member with earlier | now
    · exact (h.completed done earlier succeeded).append appended
    · obtain rfl := List.mem_singleton.mp now
      exact (owned succeeded).append appended
  · simp [free]
  · simp [free]

theorem attribution_ran {op : Operation} (h : Attribution s) (hop : s.operation = some op)
    (ran : Ran config s op t) : Attribution t := by
  cases ran with
  | writes hpc held =>
    -- the response event is fresh
    constructor
    · exact h.completed.append rfl rfl
    · simp
    · simp
  | alreadyReplied hpc event =>
    exact h.onwards hop rfl rfl rfl rfl rfl (by rw [hpc]; rfl) fun _ => ⟨_, event⟩
  | waits hpc => exact h.onwards hop rfl rfl rfl rfl rfl (by rw [hpc]; rfl) nofun
  | succeeds hpc event =>
    have own := h.own op hop (by rw [hpc]; rfl) _ event
    exact h.completes rfl rfl rfl fun _ => own
  | succeedsUnset hpc unset =>
    obtain ⟨inReplyTo, event⟩ := h.isSet op hop hpc
    exact absurd event (unset inReplyTo)
  | fails hpc => exact h.completes rfl rfl rfl nofun
  | _ => exact h.elsewhere rfl rfl (by simp [OperationPc.awaitsReply])

theorem attribution_resumed {op : Operation} {outcome : Outcome} (h : Attribution s)
    (hop : s.operation = some op) (resumed : Resumed config s op outcome t) : Attribution t := by
  cases resumed with
  | wrote hpc => exact h.onwards hop rfl rfl rfl rfl rfl (by rw [hpc]; rfl) nofun
  | replied hpc event =>
    exact h.onwards hop rfl rfl rfl rfl rfl (by rw [hpc]; rfl) fun _ => ⟨_, event⟩
  | _ => exact h.elsewhere rfl rfl (by simp [OperationPc.awaitsReply, abandon])

/-- A notification that sets the response event of an attempt replies to its own call. -/
theorem attribution_notification {sender : Nat} {data : Bytes} {parsed : Bool}
    {inReplyTo : Option Nat} (h : Attribution s) (suspended : s.suspended = true)
    (solicited : Solicited s (.notification sender data parsed inReplyTo))
    (current : NotOvertaken s (.notification sender data parsed inReplyTo)) :
    Attribution (recordNotification s sender data parsed inReplyTo) := by
  obtain ⟨w, rfl, write, here, _⟩ := solicited
  unfold recordNotification
  split
  · rename_i byte event hbyte hevent
    split
    · rename_i pending
      refine ⟨h.completed, ?_, ?_⟩
      · intro op hop awaits inReplyTo hset
        cases event with
        | set first =>
          obtain rfl : first = inReplyTo := by simpa using hset
          exact h.own op hop awaits first hevent
        | clear =>
          obtain rfl : some w = inReplyTo := by simpa using hset
          have hpc : s.pc = some op.pc := by rw [State.pc, Option.mem_def.mp hop, Option.map_some]
          have waiting := State.running_of_suspended suspended hpc
          have listening : op.pc.listening = true := by
            cases hpc : op.pc <;>
              simp_all [OperationPc.awaitsReply, OperationPc.running, OperationPc.listening]
          have own : write.call = op.id :=
            current op hop listening hevent (hbyte.trans pending.symm) w rfl write here
          show (s.writes[w]?).map (fun write => write.call) = some op.id
          rw [here, Option.map_some, own]
      · intro op hop hpc
        cases event with
        | set first => exact ⟨first, rfl⟩
        | clear => exact ⟨some w, rfl⟩
    · exact h.of_same ⟨rfl, rfl, rfl, rfl, rfl, rfl⟩
  · exact h.of_same ⟨rfl, rfl, rfl, rfl, rfl, rfl⟩

theorem attribution_keeps :
    Keeps config Control Attribution fun s e => Solicited s e ∧ NotOvertaken s e where
  ran := fun _ h _ hop ran => attribution_ran h hop ran
  holderRan := fun _ h _ _ _ ran => h.of_same ran.same
  resumed := fun _ h _ hop resumed => attribution_resumed h hop resumed
  holderResumed := fun _ h _ _ resumed => h.of_same resumed.same
  delivered := by
    intro s e t control h met suspended delivered
    cases delivered with
    | begins _ free => exact h.elsewhere rfl rfl (by simp [OperationPc.awaitsReply])
    | enterOperation free _ => exact h.elsewhere rfl rfl (by simp [OperationPc.awaitsReply])
    | disconnect => exact h.of_same (disconnect_same s)
    | idleStarts _ => exact h.of_same (idleStarts_same s)
    | @enterConnect waiter rest free queue =>
      cases waiter with
      | operation =>
        refine h.elsewhere rfl rfl ?_
        simp [takeConnect, OperationPc.awaitsReply]
      | disconnect => exact h.of_same ⟨rfl, rfl, rfl, rfl, rfl, rfl⟩
      | idle => exact h.of_same ⟨rfl, rfl, rfl, rfl, rfl, rfl⟩
    | notification => exact attribution_notification h suspended met.1 met.2
    | _ => exact h.of_same ⟨rfl, rfl, rfl, rfl, rfl, rfl⟩

/-! ### Runs -/

/-- When the device sends replies only, and none to an earlier call while an
attempt with the same command byte listens, every call that returns `True` was
completed by a reply to one of its own writes. -/
theorem attributed_of_notOvertaken {device : Option String} {events : List Event}
    (solicited : Steps (step config) (fun s e _ => Solicited s e) (initial device) events)
    (current : Steps (step config) (fun s e _ => NotOvertaken s e) (initial device) events) :
    States (step config) Attributed (initial device) events := by
  have start : Attribution (initial device) :=
    ⟨by simp [Attributed, initial], by simp [initial], by simp [initial]⟩
  have attribution := attribution_keeps.states (control_states config device events) start
    (solicited.and current)
  exact attribution.mono fun s hs => hs.2.completed

/-! ### Two runs -/

instance : DecidablePred Attributed := fun s =>
  inferInstanceAs (Decidable (∀ done ∈ s.completions, done.result = true →
    (done.inReplyTo.bind fun w => s.writes[w]?).map (fun write => write.call) = some done.call))

instance (s : State) (e : Event) : Decidable (Solicited s e) :=
  match e with
  | .notification _ data _ inReplyTo => inferInstanceAs (Decidable
      (∃ w ∈ inReplyTo, ∃ write ∈ s.writes[w]?, data[3]? = some write.command))
  | .sendCommand _ | .cancelCaller _ | .enterOperation | .disconnect | .cancelConnectWaiter _
  | .enterConnect | .timerFires _ | .idleStarts | .operationResumes _ | .holderResumes _
  | .linkLost _ | .disconnected _ | .registryChanges _ | .run => isTrue trivial

instance (s : State) (e : Event) : Decidable (NotOvertaken s e) :=
  match e with
  | .notification _ data _ inReplyTo => inferInstanceAs (Decidable
      (∀ op ∈ s.operation, op.pc.listening = true → s.responseEvent = some .clear →
        data[3]? = s.pendingCommand → ∀ w ∈ inReplyTo, ∀ write ∈ s.writes[w]?,
          write.call = op.id))
  | .sendCommand _ | .cancelCaller _ | .enterOperation | .disconnect | .cancelConnectWaiter _
  | .enterConnect | .timerFires _ | .idleStarts | .operationResumes _ | .holderResumes _
  | .linkLost _ | .disconnected _ | .registryChanges _ | .run => isTrue trivial

/-- The first attempt of a call: it connects, subscribes and writes its frame. -/
def firstAttempt (call : Call) : List Event :=
  [.sendCommand call, .run, .run, .operationResumes .returned, .operationResumes .returned, .run,
    .operationResumes .returned, .run]

/-- An attempt on a connected client: the frame is written once more. -/
def nextAttempt : List Event := [.run, .run, .operationResumes .returned, .run]

/-- The response does not arrive in time. -/
def timeout : List Event := [.operationResumes (.raised ""), .run]

/-- The device replies to the write at an index with a frame of its command byte. -/
def reply (command : Byte) (write : Nat) : List Event :=
  [.notification 0 [0x73, 0x06, 0x23, command, 0x01, command ^^^ 0x57] true (some write),
    .operationResumes .returned, .run]

theorem attributed_of_notOvertaken_prompt :
    States (step ⟨"Marstek", true, true⟩) Attributed (initial (some "device"))
      (firstAttempt { command := 0x0D } ++ reply 0x0D 0) :=
  attributed_of_notOvertaken (by decide +kernel) (by decide +kernel)

/-- A read of the system data times out three times; its first reply arrives while
the charge mode is being written, with the same command byte. -/
def lateReply : List Event :=
  firstAttempt { command := 0x0D } ++ timeout ++ nextAttempt ++ timeout ++ nextAttempt ++
    timeout ++ [.run, .run] ++ [.sendCommand { command := 0x0D, payload := [0x01] }] ++
    nextAttempt ++ reply 0x0D 0

theorem late_reply_completes_write :
    ¬ ∀ (config : Config) (device : Option String) (events : List Event),
      Steps (step config) (fun s e _ => Solicited s e) (initial device) events →
        (replies events).Nodup → States (step config) Attributed (initial device) events := by
  intro all
  have attributed := all ⟨"Marstek", true, true⟩ (some "device") lateReply (by decide +kernel)
    (by decide +kernel)
  revert attributed
  decide +kernel

end MarstekBle.Device
