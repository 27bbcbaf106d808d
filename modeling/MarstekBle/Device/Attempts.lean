/- module: Device/Attempts
   source: custom_components/marstek_ble/marstek_device.py
   digest: The outcomes of the attempts of send_command and what is recorded of them. -/

import MarstekBle.Device.SerialCalls

set_option autoImplicit false
set_option relaxedAutoImplicit false

namespace MarstekBle.Device

open MarstekBle.Data MarstekBle.Protocol

variable {config : Config} {s t : State} {e : Event}

/-! ### Attempts -/

/-- How an attempt ends. -/
inductive AttemptOutcome where
  | replied
  | noReply
  | raised (error : String)
  deriving DecidableEq

namespace AttemptOutcome

/-- What the attempt leaves as `last_error`. -/
def error : AttemptOutcome → Option String
  | .replied => none
  | .noReply => some "no_response"
  | .raised error => some error

def byException : AttemptOutcome → Bool
  | .raised _ => true
  | _ => false

end AttemptOutcome

namespace OperationPc

/-- The end of an attempt. -/
def attemptOutcome : OperationPc → Option AttemptOutcome
  | .replied => some .replied
  | .timedOut => some .noReply
  | .failed error => some (.raised error)
  | _ => none

/-- Inside an attempt. -/
def undecided : OperationPc → Bool
  | .attempting | .dropping _ | .retrying | .backoff | .exhausted => false
  | _ => true

/-- After an exception, before the next attempt. -/
def recovering : OperationPc → Bool
  | .dropping _ | .retrying | .backoff => true
  | _ => false

end OperationPc

/-- How the attempt under way ends, where it is at its end. -/
def State.attemptOutcome (s : State) : Option AttemptOutcome := s.pc.bind OperationPc.attemptOutcome

/-! ### The outcomes of the attempts -/

/-- What the variables of the loop say about the attempts that have ended. -/
structure Tally (outcomes : List AttemptOutcome) (op : Operation) : Prop where
  ended : outcomes.length = op.attempt + op.pc.recovering.toNat
  made : op.attemptsMade = outcomes.length + op.pc.undecided.toNat
  within : op.attemptsMade ≤ op.call.retry
  spent : op.pc = .exhausted → op.call.retry ≤ outcomes.length
  unanswered : .replied ∉ outcomes
  error : op.lastError = outcomes.getLast?.bind AttemptOutcome.error

variable {outcomes : List AttemptOutcome}

theorem tally_start (caller : Caller) : Tally [] { toCaller := caller } :=
  ⟨rfl, rfl, Nat.zero_le _, nofun, by simp, rfl⟩

theorem OperationPc.inside {pc : OperationPc} (undecided : pc.undecided = true) :
    pc.recovering = false ∧ pc ≠ .exhausted := by
  cases pc <;> simp_all [OperationPc.undecided, OperationPc.recovering]

/-- The attempt goes on. -/
theorem Tally.onwards {op : Operation} (tally : Tally outcomes op) {pc : OperationPc}
    (inside : op.pc.undecided = true) (next : pc.undecided = true) :
    Tally outcomes { op with pc } := by
  have ended := tally.ended
  have made := tally.made
  rw [(OperationPc.inside inside).1] at ended
  rw [inside] at made
  exact ⟨by rw [(OperationPc.inside next).1]; exact ended, by rw [next]; exact made,
    tally.within, fun exhausted => absurd exhausted (OperationPc.inside next).2,
    tally.unanswered, tally.error⟩

/-- Another attempt begins. -/
theorem Tally.begins {op : Operation} (tally : Tally outcomes op) {pc : OperationPc}
    (hpc : op.pc = .attempting) (more : op.attempt < op.call.retry)
    (next : pc.undecided = true) :
    Tally outcomes { op with attemptsMade := op.attempt + 1, pc } := by
  have ended := tally.ended
  rw [hpc] at ended
  exact ⟨by rw [(OperationPc.inside next).1]; exact ended, by rw [next, ended]; rfl, more,
    fun exhausted => absurd exhausted (OperationPc.inside next).2, tally.unanswered,
    tally.error⟩

/-- The attempt ends without a reply. -/
theorem Tally.ends {op : Operation} (tally : Tally outcomes op) {pc : OperationPc}
    {attempt : Nat} (outcome : AttemptOutcome) (failed : outcome ≠ .replied)
    (inside : op.pc.undecided = true) (next : pc.undecided = false) (other : pc ≠ .exhausted)
    (counted : attempt + pc.recovering.toNat = op.attempt + 1) :
    Tally (outcomes ++ [outcome]) { op with lastError := outcome.error, attempt, pc } := by
  have ended := tally.ended
  have made := tally.made
  have within := tally.within
  rw [(OperationPc.inside inside).1, Bool.toNat_false] at ended
  rw [inside, Bool.toNat_true] at made
  refine ⟨?_, ?_, within, fun exhausted => absurd exhausted other, ?_, by simp⟩
  · rw [List.length_append, List.length_singleton]
    exact (congrArg (· + 1) ended).trans counted.symm
  · rw [List.length_append, List.length_singleton, next, Bool.toNat_false]
    exact made
  · simp only [List.mem_append, List.mem_singleton, not_or]
    exact ⟨tally.unanswered, failed.symm⟩

/-- Between two attempts. -/
theorem Tally.between {op : Operation} (tally : Tally outcomes op) {pc : OperationPc}
    {attempt : Nat} (outside : op.pc.undecided = false) (next : pc.undecided = false)
    (counted : attempt + pc.recovering.toNat = op.attempt + op.pc.recovering.toNat)
    (spent : pc = .exhausted → op.call.retry ≤ outcomes.length) :
    Tally outcomes { op with attempt, pc } := by
  have made := tally.made
  rw [outside] at made
  exact ⟨tally.ended.trans counted.symm, by rw [next]; exact made, tally.within, spent,
    tally.unanswered, tally.error⟩

/-- A statement that ends no attempt. -/
theorem Tally.noted {op op' : Operation} (tally : Tally outcomes op')
    (going : op.pc.attemptOutcome = none) :
    Tally (outcomes ++ op.pc.attemptOutcome.toList) op' := by
  rw [going, Option.toList_none, List.append_nil]
  exact tally

theorem tally_ran {op op' : Operation} (tally : Tally outcomes op) (ran : Ran config s op t)
    (next : t.operation = some op') :
    Tally (outcomes ++ op.pc.attemptOutcome.toList) op' := by
  cases ran
  case succeeds => cases next
  case succeedsUnset => cases next
  case fails => cases next
  all_goals obtain rfl := Option.some.inj next
  case alreadyConnected hpc more _ =>
    exact (tally.begins hpc more rfl).noted (by rw [hpc]; rfl)
  case locks hpc more _ _ _ => exact (tally.begins hpc more rfl).noted (by rw [hpc]; rfl)
  case queues hpc more _ => exact (tally.begins hpc more rfl).noted (by rw [hpc]; rfl)
  case givesUp hpc spent =>
    have ended := tally.ended
    rw [hpc] at ended
    refine (tally.between (by rw [hpc]; rfl) rfl (by rw [hpc]; rfl) fun _ => ?_).noted
      (by rw [hpc]; rfl)
    exact spent.trans_eq ended.symm
  case timesOut hpc =>
    rw [hpc]
    exact tally.ends .noReply nofun (by rw [hpc]; rfl) rfl nofun rfl
  case drops error hpc _ =>
    rw [hpc]
    exact tally.ends (.raised error) nofun (by rw [hpc]; rfl) rfl nofun rfl
  case nothingToDrop error hpc _ =>
    rw [hpc]
    exact tally.ends (.raised error) nofun (by rw [hpc]; rfl) rfl nofun rfl
  case sleeps hpc =>
    refine Tally.noted ?_ (by rw [hpc]; rfl)
    exact tally.between (by rw [hpc]; rfl) rfl (by rw [hpc]; rfl) nofun
  case retries hpc =>
    refine Tally.noted ?_ (by rw [hpc]; rfl)
    exact tally.between (by rw [hpc]; rfl) rfl (by rw [hpc]; rfl) nofun
  all_goals
    exact (tally.onwards (by simp only [*]; rfl) rfl).noted (by simp only [*]; rfl)

theorem tally_resumed {op op' : Operation} {outcome : Outcome} (tally : Tally outcomes op)
    (resumed : Resumed config s op outcome t) (next : t.operation = some op') :
    Tally outcomes op' := by
  cases outcome with
  | cancelled => cases resumed <;> cases next
  | returned =>
    cases resumed
    all_goals obtain rfl := Option.some.inj next
    case returned.dropped hpc =>
      exact tally.between (by rw [hpc]; rfl) rfl (by rw [hpc]; rfl) nofun
    case returned.slept hpc =>
      exact tally.between (by rw [hpc]; rfl) rfl (by rw [hpc]; rfl) nofun
    all_goals exact tally.onwards (by simp only [*]; rfl) rfl
  | raised error =>
    cases resumed
    all_goals obtain rfl := Option.some.inj next
    case raised.dropFails hpc =>
      exact tally.between (by rw [hpc]; rfl) rfl (by rw [hpc]; rfl) nofun
    all_goals exact tally.onwards (by simp only [*]; rfl) rfl

/-! ### The records -/

/-- The records of commands are the same. -/
structure SameRecords (d d' : Diagnostics) : Prop where
  history : d'.commandHistory = d.commandHistory
  sent : d'.totalCommandsSent = d.totalCommandsSent
  success : d'.totalCommandsSuccess = d.totalCommandsSuccess
  failure : d'.totalCommandsFailure = d.totalCommandsFailure
  lastError : d'.lastCommandError = d.lastCommandError
  stats : ∀ c, (d'.commandStats c).sent = (d.commandStats c).sent ∧
    (d'.commandStats c).success = (d.commandStats c).success ∧
    (d'.commandStats c).failure = (d.commandStats c).failure ∧
    (d'.commandStats c).lastError = (d.commandStats c).lastError

/-- The call that held the operation lock returns. -/
structure ReturnOf (s t : State) (outcomes : List AttemptOutcome) (op : Operation)
    (result : Bool) : Prop where
  completion : ∃ inReplyTo, t.completions = s.completions ++ [⟨op.id, result, inReplyTo⟩]
  released : t.operation = none
  answered : result = true ↔ .replied ∈ outcomes
  first : .replied ∉ outcomes.dropLast
  within : outcomes.length ≤ op.call.retry
  spent : result = false → outcomes.length = op.call.retry
  record : t.diagnostics = s.diagnostics.recordCommandResult op.call.command op.frame
    outcomes.length result (if result then none else outcomes.getLast?.bind AttemptOutcome.error)

/-- The call that holds the operation lock goes on, and nothing is recorded. -/
structure Unrecorded (s t : State) : Prop where
  records : SameRecords s.diagnostics t.diagnostics
  completions : t.completions = s.completions
  goesOn : ∀ op, s.operation = some op →
    ∃ op', t.operation = some op' ∧ op'.toCaller = op.toCaller

theorem SameRecords.refl (d : Diagnostics) : SameRecords d d :=
  ⟨rfl, rfl, rfl, rfl, rfl, fun _ => ⟨rfl, rfl, rfl, rfl⟩⟩

theorem sameRecords_recordNotification (d : Diagnostics) (sender : Nat) (data : Bytes)
    (parsed : Bool) : SameRecords d (d.recordNotification sender data parsed) := by
  refine ⟨rfl, rfl, rfl, rfl, rfl, fun c => ?_⟩
  simp only [Diagnostics.recordNotification]
  split <;> exact ⟨rfl, rfl, rfl, rfl⟩

theorem Unrecorded.onwards {op op' : Operation} (hop : s.operation = some op)
    (next : t.operation = some op') (same : op'.toCaller = op.toCaller)
    (diagnostics : t.diagnostics = s.diagnostics) (completions : t.completions = s.completions) :
    Unrecorded s t := by
  refine ⟨diagnostics ▸ SameRecords.refl _, completions, fun holder held => ?_⟩
  obtain rfl : op = holder := Option.some.inj (hop.symm.trans held)
  exact ⟨op', next, same⟩

theorem Unrecorded.aside (operation : t.operation = s.operation)
    (records : SameRecords s.diagnostics t.diagnostics)
    (completions : t.completions = s.completions) : Unrecorded s t :=
  ⟨records, completions, fun op hop => ⟨op, operation.trans hop, rfl⟩⟩

theorem Unrecorded.starts (free : s.operation = none)
    (diagnostics : t.diagnostics = s.diagnostics) (completions : t.completions = s.completions) :
    Unrecorded s t := by
  refine ⟨diagnostics ▸ SameRecords.refl _, completions, fun op hop => ?_⟩
  rw [free] at hop
  cases hop

/-- The attempt is replied, and the call returns `True`. -/
theorem Tally.replies {op : Operation} (tally : Tally outcomes op) (hpc : op.pc = .replied)
    (inReplyTo : Option Nat) :
    ReturnOf s (complete s.clearSlot op true inReplyTo) (outcomes ++ [.replied]) op true := by
  have counted : op.attemptsMade = (outcomes ++ [AttemptOutcome.replied]).length := by
    rw [tally.made, hpc, List.length_append, List.length_singleton]
    rfl
  refine ⟨⟨inReplyTo, rfl⟩, rfl, ?_, ?_, ?_, nofun, ?_⟩
  · simp
  · rw [List.dropLast_concat]
    exact tally.unanswered
  · rw [← counted]
    exact tally.within
  · rw [← counted]
    rfl

/-- No attempt is left, and the call returns `False`. -/
theorem Tally.gaveUp {op : Operation} (tally : Tally outcomes op) (hpc : op.pc = .exhausted) :
    ReturnOf s (complete s op false none) outcomes op false := by
  have counted : op.attemptsMade = outcomes.length := by
    rw [tally.made, hpc]
    rfl
  have within : outcomes.length ≤ op.call.retry := counted ▸ tally.within
  refine ⟨⟨none, rfl⟩, rfl, ?_, ?_, within, fun _ => ?_, ?_⟩
  · simpa using tally.unanswered
  · exact fun member => tally.unanswered (outcomes.dropLast_subset member)
  · exact within.antisymm (tally.spent hpc)
  · rw [← counted, ← tally.error]
    rfl

theorem recorded_ran {op : Operation} (tally : Tally outcomes op) (hop : s.operation = some op)
    (ran : Ran config s op t) : Unrecorded s t ∨
      ∃ result, ReturnOf s t (outcomes ++ op.pc.attemptOutcome.toList) op result := by
  cases ran with
  | succeeds hpc _ =>
    refine .inr ⟨true, ?_⟩
    rw [hpc]
    exact tally.replies hpc _
  | succeedsUnset hpc _ =>
    refine .inr ⟨true, ?_⟩
    rw [hpc]
    exact tally.replies hpc _
  | fails hpc =>
    refine .inr ⟨false, ?_⟩
    have unended : op.pc.attemptOutcome = none := by rw [hpc]; rfl
    rw [unended, Option.toList_none, List.append_nil]
    exact tally.gaveUp hpc
  | _ => exact .inl (.onwards hop rfl rfl rfl rfl)

theorem unrecorded_resumed {op : Operation} {outcome : Outcome} (hop : s.operation = some op)
    (kept : outcome ≠ .cancelled) (resumed : Resumed config s op outcome t) :
    Unrecorded s t := by
  cases outcome with
  | cancelled => exact absurd rfl kept
  | _ => cases resumed <;> exact .onwards hop rfl rfl rfl rfl

theorem unrecorded_arrived (arrived : Arrived s e t) : Unrecorded s t := by
  cases arrived with
  | begins _ free _ => exact .starts free rfl rfl
  | enters free _ => exact .starts free rfl rfl
  | @notification sender data parsed inReplyTo =>
    refine .aside ?_ ?_ ?_
    · obtain ⟨_, _, _, recorded⟩ := recordNotification_eq s sender data parsed inReplyTo
      rw [recorded]
    · have noted := sameRecords_recordNotification s.diagnostics sender data parsed
      unfold recordNotification
      repeat' split
      all_goals exact noted
    · obtain ⟨_, _, _, recorded⟩ := recordNotification_eq s sender data parsed inReplyTo
      rw [recorded]
  | _ => exact .aside rfl (SameRecords.refl _) rfl

/-! ### The accounts -/

/-- Every call returns once or is still under way, in the order of the calls, and every
return is counted. -/
structure Accounts (s : State) : Prop where
  once : s.completions.map (fun done => done.call) ++ s.callers.map (fun caller => caller.id) =
    List.range s.calls
  returned : s.diagnostics.totalCommandsSent = s.completions.length
  overall : s.diagnostics.totalCommandsSent =
    s.diagnostics.totalCommandsSuccess + s.diagnostics.totalCommandsFailure
  each : ∀ c, (s.diagnostics.commandStats c).sent =
    (s.diagnostics.commandStats c).success + (s.diagnostics.commandStats c).failure

/-- What the totals say is the same where nothing is recorded. -/
theorem Accounts.unrecorded (accounts : Accounts s)
    (records : SameRecords s.diagnostics t.diagnostics)
    (completions : t.completions = s.completions)
    (once : s.completions.map (fun done => done.call) ++ t.callers.map (fun caller => caller.id) =
      List.range t.calls) : Accounts t := by
  constructor
  · rw [completions]
    exact once
  · rw [records.sent, completions]
    exact accounts.returned
  · rw [records.sent, records.success, records.failure]
    exact accounts.overall
  · intro c
    obtain ⟨sent, success, failure, _⟩ := records.stats c
    rw [sent, success, failure]
    exact accounts.each c

theorem Accounts.of_same (accounts : Accounts s)
    (records : SameRecords s.diagnostics t.diagnostics)
    (completions : t.completions = s.completions)
    (callers : t.callers.map (fun caller => caller.id) = s.callers.map (fun caller => caller.id))
    (calls : t.calls = s.calls) : Accounts t := by
  refine accounts.unrecorded records completions ?_
  rw [callers, calls]
  exact accounts.once

theorem Accounts.called (accounts : Accounts s)
    (records : SameRecords s.diagnostics t.diagnostics)
    (completions : t.completions = s.completions) {call : Call} {frame : Bytes}
    (callers : t.callers = s.callers ++ [⟨s.calls, call, frame⟩])
    (calls : t.calls = s.calls + 1) : Accounts t := by
  refine accounts.unrecorded records completions ?_
  rw [callers, calls, List.map_append, ← List.append_assoc, accounts.once, List.range_succ]
  rfl

/-- A call that returns is counted once, as a success or as a failure. -/
theorem Accounts.returns (accounts : Accounts s) {op : Operation} {result : Bool}
    (hop : s.operation = some op) (returnOf : ReturnOf s t outcomes op result)
    (waiters : t.operationWaiters = s.operationWaiters) (calls : t.calls = s.calls) :
    Accounts t := by
  obtain ⟨inReplyTo, completions⟩ := returnOf.completion
  have record := returnOf.record
  constructor
  · have before := accounts.once
    rw [State.callers, hop] at before
    rw [completions, State.callers, returnOf.released, waiters, calls]
    simpa using before
  · rw [record, completions, List.length_append, ← accounts.returned]
    rfl
  · have overall := accounts.overall
    rw [record]
    cases result <;> simp only [Diagnostics.recordCommandResult] <;> simp <;> omega
  · intro c
    have each := accounts.each c
    rw [record]
    simp only [Diagnostics.recordCommandResult, CommandStats.record]
    split
    · cases result <;> simp <;> omega
    · exact each

/-- Accounts are kept by a step that records nothing and begins or ends no call. -/
theorem accounts_ran {op : Operation} (accounts : Accounts s) (tally : Tally outcomes op)
    (hop : s.operation = some op) (ran : Ran config s op t) : Accounts t := by
  have aside : t.operationWaiters = s.operationWaiters ∧ t.calls = s.calls := by
    cases ran <;> exact ⟨rfl, rfl⟩
  rcases recorded_ran tally hop ran with ⟨records, completions, goesOn⟩ | ⟨result, returnOf⟩
  · refine accounts.of_same records completions ?_ aside.2
    obtain ⟨op', next, same⟩ := goesOn op hop
    simp [State.callers, hop, next, same, aside.1]
  · exact accounts.returns hop returnOf aside.1 aside.2

theorem accounts_resumed {op : Operation} {outcome : Outcome} (accounts : Accounts s)
    (hop : s.operation = some op) (kept : outcome ≠ .cancelled)
    (resumed : Resumed config s op outcome t) : Accounts t := by
  have aside : t.operationWaiters = s.operationWaiters ∧ t.calls = s.calls := by
    cases resumed <;> exact ⟨rfl, rfl⟩
  obtain ⟨records, completions, goesOn⟩ := unrecorded_resumed hop kept resumed
  refine accounts.of_same records completions ?_ aside.2
  obtain ⟨op', next, same⟩ := goesOn op hop
  simp [State.callers, hop, next, same, aside.1]

/-- A call is refused, or it is the last of the calls under way. -/
theorem called_of_arrived {call : Call} (arrived : Arrived s (.sendCommand call) t) :
    (∃ error, buildCommand call.command call.payload = .error error ∧ t = s) ∨
    ∃ frame, buildCommand call.command call.payload = .ok frame ∧
      t.callers = s.callers ++ [⟨s.calls, call, frame⟩] ∧ t.calls = s.calls + 1 := by
  cases arrived with
  | refused refused => exact .inl ⟨_, refused, rfl⟩
  | begins built free first =>
    exact .inr ⟨_, built, by simp [State.callers, free, first], rfl⟩
  | queues built => exact .inr ⟨_, built, by simp [State.callers], rfl⟩

theorem accounts_arrived (accounts : Accounts s) (arrived : Arrived s e t) : Accounts t := by
  have unrecorded := unrecorded_arrived arrived
  cases e with
  | sendCommand call =>
    rcases called_of_arrived arrived with ⟨_, _, rfl⟩ | ⟨frame, _, callers, calls⟩
    · exact accounts
    · exact accounts.called unrecorded.records unrecorded.completions callers calls
  | enterOperation =>
    cases arrived with
    | enters free queue =>
      refine accounts.of_same unrecorded.records unrecorded.completions ?_ rfl
      simp [State.callers, free, queue]
  | notification sender data parsed inReplyTo =>
    cases arrived
    obtain ⟨_, _, _, recorded⟩ := recordNotification_eq s sender data parsed inReplyTo
    refine accounts.of_same unrecorded.records unrecorded.completions ?_ ?_
    · rw [recorded]
      rfl
    · rw [recorded]
  | linkLost _ =>
    cases arrived
    exact accounts.of_same unrecorded.records unrecorded.completions rfl rfl
  | disconnected _ =>
    cases arrived
    exact accounts.of_same unrecorded.records unrecorded.completions rfl rfl
  | registryChanges _ =>
    cases arrived
    exact accounts.of_same unrecorded.records unrecorded.completions rfl rfl
  | _ => cases arrived

theorem accounts_initial (device : Option String) : Accounts (initial device) :=
  ⟨rfl, rfl, rfl, fun _ => rfl⟩

end MarstekBle.Device
