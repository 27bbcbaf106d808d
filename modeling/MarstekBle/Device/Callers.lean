/- module: Device/Callers
   source: custom_components/marstek_ble/marstek_device.py
   digest: The calls of send_command under way, their numbers and the frames they write. -/

import MarstekBle.Device.Locks

set_option autoImplicit false
set_option relaxedAutoImplicit false

namespace MarstekBle.Device

open MarstekBle.Data MarstekBle.Protocol

variable {config : Config} {s t : State} {e : Event}

/-- The calls under way: the holder of the operation lock and those that wait for it. -/
def State.callers (s : State) : List Caller :=
  (s.operation.map Operation.toCaller).toList ++ s.operationWaiters

/-- The frames a step writes, each with the number of its call. -/
def framesWritten (s t : State) : List (Nat × Bytes) :=
  match s.operation with
  | some op => (t.writes.drop s.writes.length).map fun write => (write.call, op.frame)
  | none => []

theorem mem_callers {caller : Caller} :
    caller ∈ s.callers ↔
      (∃ op, s.operation = some op ∧ op.toCaller = caller) ∨ caller ∈ s.operationWaiters := by
  simp [State.callers]

/-! ### Calls -/

/-- The calls under way in `t` are under way in `s`, and none was numbered in between. -/
structure NoNewCaller (s t : State) : Prop where
  callers : ∀ caller ∈ t.callers, caller ∈ s.callers
  calls : t.calls = s.calls

theorem NoNewCaller.of_onwards {op op' : Operation} (hop : s.operation = some op)
    (next : t.operation = some op') (same : op'.toCaller = op.toCaller)
    (waiters : t.operationWaiters = s.operationWaiters) (calls : t.calls = s.calls) :
    NoNewCaller s t := by
  refine ⟨fun caller member => ?_, calls⟩
  rw [mem_callers, next, waiters] at member
  rw [mem_callers, hop]
  simpa [same] using member

theorem NoNewCaller.of_finished (finished : t.operation = none)
    (waiters : t.operationWaiters = s.operationWaiters) (calls : t.calls = s.calls) :
    NoNewCaller s t := by
  refine ⟨fun caller member => ?_, calls⟩
  rw [mem_callers, finished, waiters] at member
  rw [mem_callers]
  exact .inr (by simpa using member)

theorem NoNewCaller.of_same (operation : t.operation = s.operation)
    (waiters : t.operationWaiters = s.operationWaiters) (calls : t.calls = s.calls) :
    NoNewCaller s t := by
  refine ⟨fun caller member => ?_, calls⟩
  rwa [State.callers, operation, waiters] at member

theorem noNewCaller_ran {op : Operation} (hop : s.operation = some op)
    (ran : Ran config s op t) : NoNewCaller s t := by
  cases ran
  case succeeds => exact .of_finished rfl rfl rfl
  case succeedsUnset => exact .of_finished rfl rfl rfl
  case fails => exact .of_finished rfl rfl rfl
  all_goals exact .of_onwards hop rfl rfl rfl rfl

theorem noNewCaller_resumed {op : Operation} {outcome : Outcome} (hop : s.operation = some op)
    (resumed : Resumed config s op outcome t) : NoNewCaller s t := by
  cases outcome with
  | cancelled => cases resumed <;> exact .of_finished rfl rfl rfl
  | _ => cases resumed <;> exact .of_onwards hop rfl rfl rfl rfl

theorem requestConnect_waiters (s : State) (waiter : Waiter) :
    (requestConnect s waiter).operationWaiters = s.operationWaiters ∧
      (requestConnect s waiter).calls = s.calls := by
  unfold requestConnect takeConnect
  split
  · cases waiter <;> exact ⟨rfl, rfl⟩
  · exact ⟨rfl, rfl⟩

theorem noNewCaller_holderRan {holder : Holder} (ran : HolderRan s holder t) :
    NoNewCaller s t := by
  cases ran <;> exact .of_same rfl rfl rfl

theorem noNewCaller_holderResumed {holder : Holder} (resumed : HolderResumed s holder t) :
    NoNewCaller s t := by
  cases resumed <;> exact .of_same rfl rfl rfl

/-- A delivery begins no call, or it is a `send_command` whose frame was built. -/
theorem caller_of_delivered (delivered : Delivered s e t) :
    NoNewCaller s t ∨ ∃ call frame, e = .sendCommand call ∧
      buildCommand call.command call.payload = .ok frame ∧ t.calls = s.calls + 1 ∧
      ∀ caller ∈ t.callers, caller ∈ s.callers ∨ caller = ⟨s.calls, call, frame⟩ := by
  cases delivered with
  | @begins call frame built free =>
    refine .inr ⟨call, frame, rfl, built, rfl, fun caller member => ?_⟩
    rcases mem_callers.mp member with ⟨op, hop, own⟩ | waiting
    · obtain rfl := Option.some.inj hop
      exact .inr own.symm
    · exact .inl (mem_callers.mpr (.inr waiting))
  | @queues call frame built =>
    refine .inr ⟨call, frame, rfl, built, rfl, fun caller member => ?_⟩
    rcases mem_callers.mp member with holding | waiting
    · exact .inl (mem_callers.mpr (.inl holding))
    · rcases List.mem_append.mp waiting with before | fresh
      · exact .inl (mem_callers.mpr (.inr before))
      · exact .inr (List.mem_singleton.mp fresh)
  | cancelCaller =>
    refine .inl ⟨fun caller member => ?_, rfl⟩
    rcases mem_callers.mp member with holding | waiting
    · exact mem_callers.mpr (.inl holding)
    · exact mem_callers.mpr (.inr (List.mem_of_mem_eraseIdx waiting))
  | @enterOperation caller rest free queue =>
    refine .inl ⟨fun other member => mem_callers.mpr (.inr ?_), rfl⟩
    rw [queue]
    rcases mem_callers.mp member with ⟨op, hop, own⟩ | waiting
    · obtain rfl := Option.some.inj hop
      exact own ▸ List.mem_cons_self
    · exact List.mem_cons_of_mem caller waiting
  | disconnect =>
    have same := disconnect_same s
    have waiters := requestConnect_waiters { cancelTimer s with disconnectTimer := none }
      .disconnect
    exact .inl (.of_same same.operation waiters.1 waiters.2)
  | idleStarts _ =>
    have same := idleStarts_same s
    have waiters := requestConnect_waiters { s with idleTasks := s.idleTasks - 1 } .idle
    exact .inl (.of_same same.operation waiters.1 waiters.2)
  | @enterConnect waiter rest free queue =>
    cases waiter with
    | operation =>
      rcases Option.eq_none_or_eq_some s.operation with hop | ⟨op, hop⟩
      · exact .inl (.of_same (by simp [takeConnect, hop]) rfl rfl)
      · have next : (takeConnect { s with connectWaiters := rest } .operation).operation =
            some { op with pc := .connectLocked } := by simp [takeConnect, hop]
        exact .inl (.of_onwards hop next rfl rfl rfl)
    | disconnect => exact .inl (.of_same rfl rfl rfl)
    | idle => exact .inl (.of_same rfl rfl rfl)
  | @notification sender data parsed inReplyTo =>
    obtain ⟨_, _, _, recorded⟩ := recordNotification_eq s sender data parsed inReplyTo
    rw [recorded]
    exact .inl (.of_same rfl rfl rfl)
  | refused _ => exact .inl (.of_same rfl rfl rfl)
  | _ => exact .inl (.of_same rfl rfl rfl)

theorem caller_of_step (h : step config s e = some t) :
    NoNewCaller s t ∨ ∃ call frame, e = .sendCommand call ∧
      buildCommand call.command call.payload = .ok frame ∧ t.calls = s.calls + 1 ∧
      ∀ caller ∈ t.callers, caller ∈ s.callers ∨ caller = ⟨s.calls, call, frame⟩ := by
  rcases step_cases h with ⟨_, op, hop, ran⟩ | ⟨_, _, holder, _, ran⟩ | ⟨_, delivered⟩
  · exact .inl (noNewCaller_ran hop ran)
  · exact .inl (noNewCaller_holderRan ran)
  · rcases deliver_cases delivered with ⟨outcome, op, _, hop, resumed⟩ |
      ⟨outcome, holder, _, _, resumed⟩ | delivered
    · exact .inl (noNewCaller_resumed hop resumed)
    · exact .inl (noNewCaller_holderResumed resumed)
    · exact caller_of_delivered delivered

/-! ### Numbers -/

/-- The number of the next call is above those of the calls under way. -/
def Numbered (s : State) : Prop := ∀ caller ∈ s.callers, caller.id < s.calls

theorem numbered_initial (device : Option String) : Numbered (initial device) := by
  intro caller member
  simp [State.callers, initial] at member

theorem numbered_of_step (numbered : Numbered s) (h : step config s e = some t) :
    Numbered t := by
  intro caller member
  rcases caller_of_step h with ⟨callers, calls⟩ | ⟨call, frame, _, _, calls, callers⟩
  · rw [calls]
    exact numbered caller (callers caller member)
  · rcases callers caller member with before | rfl
    · have below := numbered caller before
      omega
    · show s.calls < t.calls
      omega

/-! ### Frames -/

theorem writes_of_ran {op : Operation} (ran : Ran config s op t) :
    t.writes = s.writes ∨ ∃ k, t.writes = s.writes ++ [⟨op.id, op.call.command, k⟩] := by
  cases ran
  case writes k _ _ => exact .inr ⟨k, rfl⟩
  all_goals exact .inl rfl

theorem writes_of_delivered (delivered : Delivered s e t) : t.writes = s.writes := by
  cases delivered with
  | disconnect => exact (disconnect_same s).writes
  | idleStarts _ => exact (idleStarts_same s).writes
  | @enterConnect waiter rest _ _ => cases waiter <;> rfl
  | @notification sender data parsed inReplyTo =>
    obtain ⟨_, _, _, recorded⟩ := recordNotification_eq s sender data parsed inReplyTo
    rw [recorded]
  | refused _ => rfl
  | _ => rfl

/-- A step writes nothing, or the frame of the call that holds the operation lock. -/
theorem writes_of_step (h : step config s e = some t) :
    t.writes = s.writes ∨ ∃ op k, s.operation = some op ∧
      t.writes = s.writes ++ [⟨op.id, op.call.command, k⟩] := by
  rcases step_cases h with ⟨_, op, hop, ran⟩ | ⟨_, _, holder, _, ran⟩ | ⟨_, delivered⟩
  · rcases writes_of_ran ran with unwritten | ⟨k, written⟩
    · exact .inl unwritten
    · exact .inr ⟨op, k, hop, written⟩
  · exact .inl ran.same.writes
  · rcases deliver_cases delivered with ⟨outcome, op, _, hop, resumed⟩ |
      ⟨outcome, holder, _, _, resumed⟩ | delivered
    · exact .inl (by cases resumed <;> rfl)
    · exact .inl resumed.same.writes
    · exact .inl (writes_of_delivered delivered)

theorem mem_framesWritten (h : step config s e = some t) {id : Nat} {frame : Bytes}
    (member : (id, frame) ∈ framesWritten s t) :
    ∃ caller ∈ s.callers, caller.id = id ∧ caller.frame = frame := by
  unfold framesWritten at member
  cases hop : s.operation with
  | none => simp [hop] at member
  | some op =>
    rw [hop] at member
    obtain ⟨write, hwrite, pair⟩ := List.mem_map.mp member
    obtain ⟨rfl, rfl⟩ := Prod.mk.inj pair
    refine ⟨op.toCaller, mem_callers.mpr (.inl ⟨op, hop, rfl⟩), ?_, rfl⟩
    rcases writes_of_step h with unwritten | ⟨op', k, hop', written⟩
    · simp [unwritten] at hwrite
    · obtain rfl := Option.some.inj (hop.symm.trans hop')
      rw [written, List.drop_left] at hwrite
      rw [List.mem_singleton.mp hwrite]

end MarstekBle.Device
