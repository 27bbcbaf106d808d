/- module: Standalone/SoleCaller
   source: standalone_test/marstek_basic_info.py
   digest: A session whose calls come one after another: what replies and moves do to the last. -/

import MarstekBle.Standalone.ReplyMatching

set_option autoImplicit false
set_option relaxedAutoImplicit false

namespace MarstekBle.Standalone

open MarstekBle.Data MarstekBle.Protocol MarstekBle.Lib.GuardedRun

variable {s t : BLEDeviceSession}

/-! ### Replies -/

/-- No call but the given one is queued. -/
def OnlyQueued (s : BLEDeviceSession) (id : Option Nat) : Prop :=
  ∀ command, ∀ i ∈ s.pending command, id = some i

theorem OnlyQueued.queue {id : Nat} (h : OnlyQueued s (some id)) (queues : Queues s)
    (command : Int) : s.pending command = [] ∨ s.pending command = [id] := by
  match queue : s.pending command with
  | [] => exact .inl rfl
  | [i] =>
    have same := Option.some.inj (h command i (by simp [queue]))
    exact .inr (by rw [same])
  | i :: j :: rest =>
    have first := Option.some.inj (h command i (by simp [queue]))
    have second := Option.some.inj (h command j (by simp [queue]))
    have ordered := queues.ordered command
    rw [queue, ← first, ← second] at ordered
    simp at ordered

/-- A queue of a call holds it while its future is open, and no longer. -/
structure Listening (s : BLEDeviceSession) (id : Nat) (call : Call) (first : Option Bytes) :
    Prop where
  issued : s.calls[id]? = some call
  open_ : call.future = .pending → id ∈ s.pending call.command ∧ first = none
  answered : ∀ payload, call.future = .result payload → first = some payload

/-- What the replies so far and one more give the call. -/
def nextHeard (first : Option Bytes) (command : Int) (reply : Reply) : Option Bytes :=
  first.or (if command = reply.1.toNat then some reply.2 else none)

theorem onlyQueued_handleReply {id : Option Nat} (h : OnlyQueued s id) (reply : Reply) :
    OnlyQueued (s.handleReply reply) id := by
  rcases handleReply_cases s reply with ⟨_, same⟩ | ⟨i, queue, queued, _, pending⟩
  · rw [same]
    exact h
  · intro command j member
    rw [pending] at member
    by_cases here : command = reply.1.toNat
    · subst here
      rw [Function.update_self] at member
      exact h _ j (by rw [queued]; exact List.mem_cons_of_mem i member)
    · rw [Function.update_of_ne here] at member
      exact h command j member

/-- A reply with the command of a call that waits becomes its result; any other one
leaves the call as it is. -/
theorem Listening.handleReply {id : Nat} {call : Call} {first : Option Bytes}
    (h : Listening s id call first) (queues : Queues s) (only : OnlyQueued s (some id))
    (reply : Reply) : ∃ call', Listening (s.handleReply reply) id call'
        (nextHeard first call.command reply) ∧
      call'.command = call.command ∧ call'.pc = call.pc := by
  rcases handleReply_cases s reply with ⟨empty, same⟩ | ⟨i, queue, queued, calls, pending⟩
  · rw [same]
    refine ⟨call, ⟨h.issued, fun waits => ?_, fun payload result => ?_⟩, rfl, rfl⟩
    · obtain ⟨inside, none_⟩ := h.open_ waits
      have other : call.command ≠ reply.1.toNat := by
        intro named
        rw [named, empty] at inside
        cases inside
      exact ⟨inside, by rw [nextHeard, none_, if_neg other]; rfl⟩
    · rw [nextHeard, h.answered payload result]
      rfl
  · have head : i = id :=
      (Option.some.inj (only _ i (by rw [queued]; exact List.mem_cons_self))).symm
    subst head
    obtain ⟨known, issued, named, _⟩ :=
      queues.queued reply.1.toNat i (by rw [queued]; exact List.mem_cons_self)
    obtain rfl : call = known := Option.some.inj (h.issued.symm.trans issued)
    have here : (s.handleReply reply).calls[i]? = some (call.receive reply.2) := by
      rw [calls, List.getElem?_modify_eq, issued]
      rfl
    have pcKept : (call.receive reply.2).pc = call.pc := by
      unfold Call.receive
      split <;> rfl
    refine ⟨call.receive reply.2, ⟨here, fun waits => ?_, fun payload result => ?_⟩,
      Call.command_receive, pcKept⟩
    · unfold Call.receive at waits
      split at waits
      · cases waits
      · contradiction
    · unfold Call.receive at result
      split at result
      · rename_i waits
        obtain rfl : reply.2 = payload := FutureState.result.inj result
        rw [nextHeard, (h.open_ waits).2, if_pos named]
        rfl
      · rw [nextHeard, h.answered payload result]
        rfl

/-- All replies of one notification. -/
theorem Listening.handleReplies {id : Nat} (replies : List Reply) :
    ∀ {s : BLEDeviceSession} {call : Call} {first : Option Bytes},
      Listening s id call first → Queues s → OnlyQueued s (some id) →
      ∃ call', Listening (replies.foldl BLEDeviceSession.handleReply s) id call'
          (replies.foldl (fun first reply => nextHeard first call.command reply) first) ∧
        call'.command = call.command ∧ call'.pc = call.pc := by
  induction replies with
  | nil => exact fun h _ _ => ⟨_, h, rfl, rfl⟩
  | cons reply replies ih =>
    intro s call first h queues only
    obtain ⟨next, listening, command, pc⟩ := h.handleReply queues only reply
    obtain ⟨last, later, commandLater, pcLater⟩ :=
      ih listening (queues_handleReply queues reply) (onlyQueued_handleReply only reply)
    refine ⟨last, ?_, commandLater.trans command, pcLater.trans pc⟩
    rw [command] at later
    exact later

theorem onlyQueued_replies {id : Option Nat} (replies : List Reply) (h : OnlyQueued s id) :
    OnlyQueued (replies.foldl BLEDeviceSession.handleReply s) id := by
  induction replies generalizing s with
  | nil => exact h
  | cons reply replies ih => exact ih (onlyQueued_handleReply h reply)

theorem length_handleReplies (replies : List Reply) :
    (replies.foldl BLEDeviceSession.handleReply s).calls.length = s.calls.length := by
  induction replies generalizing s with
  | nil => rfl
  | cons reply replies ih =>
    rw [List.foldl_cons, ih]
    rcases handleReply_cases s reply with ⟨_, same⟩ | ⟨i, queue, _, calls, _⟩
    · rw [same]
    · rw [calls, List.length_modify]

theorem handleReplies_fields (replies : List Reply) (s : BLEDeviceSession) :
    (replies.foldl BLEDeviceSession.handleReply s).txHandle = s.txHandle ∧
      (replies.foldl BLEDeviceSession.handleReply s).closed = s.closed := by
  induction replies generalizing s with
  | nil => exact ⟨rfl, rfl⟩
  | cons reply replies ih =>
    rw [List.foldl_cons, (ih _).1, (ih _).2]
    unfold BLEDeviceSession.handleReply
    split
    · exact ⟨rfl, rfl⟩
    · exact ⟨rfl, rfl⟩

theorem txHandle_handleNotification (s : BLEDeviceSession) (data : Bytes) :
    (s.handleNotification data).txHandle = s.txHandle := by
  rw [handleNotification_eq]
  exact (handleReplies_fields _ _).1

theorem closed_handleNotification (s : BLEDeviceSession) (data : Bytes) :
    (s.handleNotification data).closed = s.closed := by
  rw [handleNotification_eq]
  exact (handleReplies_fields _ _).2

/-- Nobody waits for what comes in between two commands. -/
theorem handleNotification_of_idle (idle : OnlyQueued s none) (data : Bytes) :
    s.handleNotification data = s.fed data := by
  have ignored : ∀ reply : Reply, ∀ s : BLEDeviceSession, OnlyQueued s none →
      s.handleReply reply = s := by
    intro reply s none_
    rcases handleReply_cases s reply with ⟨_, same⟩ | ⟨i, queue, queued, _⟩
    · exact same
    · cases none_ _ i (by rw [queued]; exact List.mem_cons_self)
  have idle' : OnlyQueued (s.fed data) none := idle
  rw [handleNotification_eq]
  generalize completed s data = replies
  induction replies with
  | nil => rfl
  | cons reply replies ih => rw [List.foldl_cons, ignored reply _ idle', ih]

/-! ### The moves of the call -/

/-- How a move ends the call, and what it does to its future. -/
structure CallMoved (call call' : Call) (removes : Bool) : Prop where
  ends : (∃ error, call'.pc = .raised error) ∨ removes = false
  future : call'.future = call.future ∨ call'.future = .cancelled
  built : ∀ error, call'.pc ≠ .raised (.cannotBuild error)

theorem callMoved_awaitFuture (call : Call) :
    CallMoved call call.awaitFuture.1 call.awaitFuture.2 := by
  unfold Call.awaitFuture
  split
  · exact ⟨.inr rfl, .inl rfl, fun _ h => by cases h⟩
  · exact ⟨.inr rfl, .inl rfl, fun _ h => by cases h⟩
  · exact ⟨.inl ⟨_, rfl⟩, .inl rfl, fun _ h => by cases h⟩
  · exact ⟨.inr rfl, .inl rfl, fun _ h => by cases h⟩

theorem callMoved_cancelFuture (call : Call) {pc : CallPc} (stays : ∀ error, pc ≠ .raised error) :
    CallMoved call (call.cancelFuture pc) false := by
  refine ⟨.inr rfl, ?_, fun error => stays _⟩
  simp only [Call.cancelFuture]
  split
  · exact .inr rfl
  · exact .inl rfl

theorem Call.callMoved_of_move {call call' : Call} {move : CallMove} {removes : Bool}
    (h : call.move move = some (call', removes)) : CallMoved call call' removes := by
  cases move with
  | writeReturns =>
    simp only [Call.move] at h
    split at h
    · obtain ⟨rfl, rfl⟩ := Prod.mk.inj (Option.some.inj h)
      exact callMoved_awaitFuture call
    · cases h
  | writeFails =>
    simp only [Call.move] at h
    split at h
    · obtain ⟨rfl, rfl⟩ := Prod.mk.inj (Option.some.inj h)
      exact ⟨.inl ⟨_, rfl⟩, .inl rfl, fun _ h => by cases h⟩
    · cases h
  | expires =>
    simp only [Call.move] at h
    split at h
    · obtain ⟨rfl, rfl⟩ := Prod.mk.inj (Option.some.inj h)
      exact callMoved_cancelFuture call fun _ h => by cases h
    · cases h
  | cancel =>
    simp only [Call.move] at h
    split at h
    · obtain ⟨rfl, rfl⟩ := Prod.mk.inj (Option.some.inj h)
      exact ⟨.inr rfl, .inl rfl, fun _ h => by cases h⟩
    · obtain ⟨rfl, rfl⟩ := Prod.mk.inj (Option.some.inj h)
      exact ⟨.inr rfl, .inl rfl, fun _ h => by cases h⟩
    · obtain ⟨rfl, rfl⟩ := Prod.mk.inj (Option.some.inj h)
      exact callMoved_cancelFuture call fun _ h => by cases h
    · cases h
  | resumes =>
    simp only [Call.move] at h
    split at h
    · split at h
      · cases h
      · obtain ⟨rfl, rfl⟩ := Prod.mk.inj (Option.some.inj h)
        exact callMoved_awaitFuture call
    · obtain ⟨rfl, rfl⟩ := Prod.mk.inj (Option.some.inj h)
      exact ⟨.inl ⟨_, rfl⟩, .inl rfl, fun _ h => by cases h⟩
    · obtain ⟨rfl, rfl⟩ := Prod.mk.inj (Option.some.inj h)
      exact ⟨.inr rfl, .inl rfl, fun _ h => by cases h⟩
    · cases h

theorem moveCall_fields {id : Nat} {move : CallMove} (h : s.moveCall id move = some t) :
    t.closed = s.closed ∧ t.txHandle = s.txHandle ∧ t.calls.length = s.calls.length := by
  simp only [BLEDeviceSession.moveCall, Option.bind_eq_some_iff, Option.map_eq_some_iff] at h
  obtain ⟨call, issued, ⟨call', removes⟩, moves, rfl⟩ := h
  cases removes with
  | true => exact ⟨rfl, rfl, List.length_set⟩
  | false => exact ⟨rfl, rfl, List.length_set⟩

theorem onlyQueued_moveCall {id : Nat} {move : CallMove} {only : Option Nat}
    (h : OnlyQueued s only) (moves : s.moveCall id move = some t) : OnlyQueued t only := by
  obtain ⟨call, call', removes, _, _, _, pending⟩ := moveCall_cases moves
  intro command i member
  rw [pending] at member
  cases removes with
  | false => exact h command i member
  | true =>
    rw [if_pos rfl] at member
    by_cases here : command = call.command
    · subst here
      rw [Function.update_self] at member
      exact h _ i (List.mem_of_mem_erase member)
    · rw [Function.update_of_ne here] at member
      exact h command i member

/-- A move ends the call, or leaves it listening. -/
theorem Listening.moveCall {id : Nat} {call : Call} {first : Option Bytes} {move : CallMove}
    (h : Listening s id call first) (moves : s.moveCall id move = some t) :
    ∃ call', t.calls[id]? = some call' ∧ call'.command = call.command ∧
      (∀ payload, call'.future = .result payload → first = some payload) ∧
      (∀ payload, call'.pc = .returned payload → call'.future = .result payload) ∧
      (∀ error, call'.pc ≠ .raised (.cannotBuild error)) ∧
      ((∃ error, call'.pc = .raised error) ∨ Listening t id call' first) := by
  have fields := moves
  simp only [BLEDeviceSession.moveCall, Option.bind_eq_some_iff, Option.map_eq_some_iff] at fields
  obtain ⟨before, issued, ⟨call', removes⟩, moved, rfl⟩ := fields
  obtain rfl : call = before := Option.some.inj (h.issued.symm.trans issued)
  have spec := Call.moved_of_move moved
  obtain ⟨ends, future, built⟩ := Call.callMoved_of_move moved
  have inside : id < s.calls.length := (List.getElem?_eq_some_iff.mp issued).1
  have here : (s.calls.set id call')[id]? = some call' := List.getElem?_set_self inside
  have answered : ∀ payload, call'.future = .result payload → first = some payload := by
    intro payload result
    rcases future with kept | cancelled
    · exact h.answered payload (kept ▸ result)
    · rw [cancelled] at result
      cases result
  refine ⟨call', ?_, spec.command, answered, spec.returned, built, ?_⟩
  · cases removes <;> exact here
  · rcases ends with raised | kept
    · exact .inl raised
    · subst kept
      refine .inr ⟨here, fun waits => ?_, answered⟩
      rcases future with same | cancelled
      · rw [spec.command]
        exact h.open_ (same ▸ waits)
      · rw [cancelled] at waits
        cases waits

/-- Once the call has ended, unless it was cancelled, nothing is queued. -/
theorem onlyQueued_of_ended {id : Nat} {call : Call} (queues : Queues s)
    (only : OnlyQueued s (some id)) (issued : s.calls[id]? = some call)
    (live : call.live = false) (stale : call.stale = false) : OnlyQueued s none := by
  intro command i member
  obtain rfl := Option.some.inj (only command i member)
  obtain ⟨known, there, _, waits⟩ := queues.queued command id member
  obtain rfl : call = known := Option.some.inj (issued.symm.trans there)
  rw [live, stale] at waits
  simp at waits

end MarstekBle.Standalone
