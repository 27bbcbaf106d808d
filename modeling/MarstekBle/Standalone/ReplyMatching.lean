/- module: Standalone/ReplyMatching
   source: standalone_test/marstek_basic_info.py
   digest: When the replies of a session reach the oldest callers that still wait for them. -/

import MarstekBle.Lib.GuardedRun
import MarstekBle.Standalone.Session

set_option autoImplicit false
set_option relaxedAutoImplicit false

namespace MarstekBle.Standalone

open MarstekBle.Data MarstekBle.Protocol MarstekBle.Lib.GuardedRun

/-- A parsed frame: the command byte and the payload. -/
abbrev Reply := Byte × Bytes

def CallPc.awaits : CallPc → Bool
  | .writing _ | .waiting => true
  | _ => false

/-- The caller waits: it has not failed, timed out, been cancelled or completed. -/
def Call.live (call : Call) : Bool := decide (call.future = .pending) && call.pc.awaits

/-- The frame of the call could not be built, its task was cancelled, or its timeout has fired and
the task has not run yet. -/
def Call.stale (call : Call) : Bool := match call.pc with
  | .raised (.cannotBuild _) | .raised .cancelled | .cancelling | .expired => true
  | _ => false

variable {s t : BLEDeviceSession}

/-- The first call of a command whose caller waits. -/
def oldestWaiting (s : BLEDeviceSession) (command : Int) : Option Nat :=
  s.calls.findIdx? fun call => decide (call.command = command) && call.live

/-- The reply becomes the result of the oldest waiting caller's future, and changes no other
call. -/
def Delivered (s : BLEDeviceSession) (reply : Reply) (t : BLEDeviceSession) : Prop :=
  ∀ id, oldestWaiting s reply.1.toNat = some id →
    t.calls = s.calls.modify id fun call => { call with future := .result reply.2 }

/-- A stale call is at the head of the queue of a command only while no caller waits for it. -/
def Unobstructed (s : BLEDeviceSession) (command : Int) : Prop :=
  ∀ id, (s.pending command).head? = some id → ∀ call, s.calls[id]? = some call →
    call.stale = true → oldestWaiting s command = none

/-- The replies among the frames. -/
def repliesIn (frames : List Bytes) : List Reply :=
  frames.filterMap fun frame => (parseFrame frame).toOption

def replyStep (s : BLEDeviceSession) (reply : Reply) : Option BLEDeviceSession :=
  some (s.handleReply reply)

/-- The session when it begins to handle the frames of a notification. -/
def BLEDeviceSession.fed (s : BLEDeviceSession) (data : Bytes) : BLEDeviceSession :=
  { s with decoder := (FrameBuffer.feed s.decoder data).2 }

/-- The replies a notification completes, in the order of the stream. -/
def completed (s : BLEDeviceSession) (data : Bytes) : List Reply :=
  repliesIn (FrameBuffer.feed s.decoder data).1

/-- A notification hands each of its replies to the oldest waiting caller, one after the other;
`close` fails every waiting caller. -/
def Matched (s : BLEDeviceSession) (e : SessionEvent) (t : BLEDeviceSession) : Prop :=
  match e with
  | .notification data =>
    run replyStep (s.fed data) (completed s data) = some t ∧
      Steps replyStep Delivered (s.fed data) (completed s data)
  | .close => ∀ (id : Nat) (call : Call), s.calls[id]? = some call → call.live = true →
    t.calls[id]? = some { call with future := .exception "Session closed" }
  | _ => True

/-- No reply of a notification finds a stale call ahead of a waiting one, and a session that is
closed already is not closed again while a caller waits. -/
def Clear (s : BLEDeviceSession) (e : SessionEvent) (_ : BLEDeviceSession) : Prop :=
  match e with
  | .notification data =>
    Steps replyStep (fun s reply _ => Unobstructed s reply.1.toNat) (s.fed data) (completed s data)
  | .close => s.closed = true → ∀ call ∈ s.calls, call.live = false
  | _ => True

/-! ### What a move does to a call -/

structure Moved (call call' : Call) (removes : Bool) : Prop where
  command : call'.command = call.command
  answered : ∀ payload, call.future = .result payload → call'.future = .result payload
  live : call'.live = true → call.live = true ∧ removes = false
  queued : call.live = true ∨ call.stale = true → removes = false →
    call'.live = true ∨ call'.stale = true
  returned : ∀ payload, call'.pc = .returned payload → call'.future = .result payload

theorem Call.live_iff {call : Call} :
    call.live = true ↔ call.future = .pending ∧ call.pc.awaits = true := by
  simp [Call.live]

/-- A call that waits is not stale. -/
theorem Call.stale_eq_false {call : Call} (awaits : call.pc.awaits = true) :
    call.stale = false := by
  obtain ⟨command, future, pc⟩ := call
  cases pc with
  | writing _ | waiting => rfl
  | expired | cancelling | returned _ | raised _ => cases awaits

theorem moved_awaitFuture {call : Call} (awaits : call.pc.awaits = true) :
    Moved call call.awaitFuture.1 call.awaitFuture.2 := by
  have settled := Call.stale_eq_false awaits
  obtain ⟨command, future, pc⟩ := call
  cases future with
  | pending =>
    refine ⟨rfl, fun _ result => result, fun _ => ⟨?_, rfl⟩, fun _ _ => .inl rfl, fun _ done => ?_⟩
    · exact Call.live_iff.mpr ⟨rfl, awaits⟩
    · cases done
  | result payload =>
    refine ⟨rfl, fun _ result => result, fun live => ?_, fun queued => ?_, fun _ done => ?_⟩
    · cases (Call.live_iff.mp live).1
    · rcases queued with live | stale
      · cases (Call.live_iff.mp live).1
      · rw [settled] at stale
        cases stale
    · cases done
      rfl
  | exception message =>
    refine ⟨rfl, fun _ result => result, fun live => ?_, fun _ kept => ?_, fun _ done => ?_⟩
    · cases (Call.live_iff.mp live).1
    · cases kept
    · cases done
  | cancelled =>
    refine ⟨rfl, fun _ result => result, fun live => ?_, fun _ _ => .inr rfl, fun _ done => ?_⟩
    · cases (Call.live_iff.mp live).1
    · cases done

/-- What cancels the task leaves the call stale, or already answered. -/
theorem moved_cancelFuture {call : Call} {pc : CallPc} (awaits : pc = .expired ∨ pc = .cancelling) :
    Moved call (call.cancelFuture pc) false := by
  refine ⟨rfl, fun payload result => ?_, fun live => ?_, fun _ _ => .inr ?_, fun _ done => ?_⟩
  · simp [Call.cancelFuture, result]
  · have stopped := (Call.live_iff.mp live).2
    rcases awaits with rfl | rfl <;> cases stopped
  · rcases awaits with rfl | rfl <;> rfl
  · rcases awaits with rfl | rfl <;> cases done

/-- A call that ends with an exception. -/
theorem moved_raised {call : Call} {error : CommandError} {removes : Bool}
    (kept : removes = false → error = .cancelled) :
    Moved call { call with pc := .raised error } removes := by
  refine ⟨rfl, fun _ result => result, fun live => ?_, fun _ stays => .inr ?_, fun _ done => ?_⟩
  · cases (Call.live_iff.mp live).2
  · rw [kept stays]
    rfl
  · cases done

theorem moved_cancelling {call : Call} : Moved call { call with pc := .cancelling } false := by
  refine ⟨rfl, fun _ result => result, fun live => ?_, fun _ _ => .inr rfl, fun _ done => ?_⟩
  · cases (Call.live_iff.mp live).2
  · cases done

theorem Call.moved_of_move {call call' : Call} {move : CallMove} {removes : Bool}
    (h : call.move move = some (call', removes)) : Moved call call' removes := by
  cases move with
  | writeReturns =>
    cases at_ : call.pc <;> simp only [Call.move, at_, Option.some.injEq, reduceCtorEq] at h
    have awaits : call.pc.awaits = true := by rw [at_]; rfl
    have awaited := moved_awaitFuture awaits
    rwa [h] at awaited
  | writeFails =>
    cases at_ : call.pc <;> simp only [Call.move, at_, Option.some.injEq, reduceCtorEq] at h
    cases h
    exact moved_raised (fun kept => by cases kept)
  | expires =>
    cases at_ : call.pc <;> simp only [Call.move, at_, Option.some.injEq, reduceCtorEq] at h
    cases h
    exact moved_cancelFuture (.inl rfl)
  | cancel =>
    cases at_ : call.pc <;> simp only [Call.move, at_, Option.some.injEq, reduceCtorEq] at h <;>
      cases h
    · exact moved_cancelling
    · exact moved_cancelFuture (.inr rfl)
    · exact moved_cancelling
  | resumes =>
    cases at_ : call.pc <;> simp only [Call.move, at_, Option.some.injEq, reduceCtorEq,
      Option.ite_none_left_eq_some] at h
    · have awaits : call.pc.awaits = true := by rw [at_]; rfl
      have awaited := moved_awaitFuture awaits
      rwa [h.2] at awaited
    · cases h
      exact moved_raised (fun kept => by cases kept)
    · cases h
      exact moved_raised (fun _ => rfl)

/-! ### What is queued -/

/-- Every queued future belongs to a call that waits or is stale, every waiting caller is queued,
and a queue is in the order of the calls. -/
structure Queues (s : BLEDeviceSession) : Prop where
  queued : ∀ command, ∀ id ∈ s.pending command, ∃ call, s.calls[id]? = some call ∧
    call.command = command ∧ (call.live = true ∨ call.stale = true)
  live : ∀ (id : Nat) (call : Call), s.calls[id]? = some call → call.live = true →
    id ∈ s.pending call.command
  ordered : ∀ command, (s.pending command).Pairwise (· < ·)

theorem Queues.of_same (h : Queues s) (pending : t.pending = s.pending)
    (calls : t.calls = s.calls) : Queues t := by
  refine ⟨?_, ?_, ?_⟩
  · rw [pending, calls]
    exact h.queued
  · rw [pending, calls]
    exact h.live
  · rw [pending]
    exact h.ordered

theorem queues_start : Queues BLEDeviceSession.start := by
  refine ⟨?_, ?_, fun _ => List.Pairwise.nil⟩
  · intro command id queued
    cases queued
  · intro id call issued
    cases issued

/-- A queue holds only numbers of calls. -/
theorem Queues.lt_length (h : Queues s) {command : Int} {id : Nat}
    (queued : id ∈ s.pending command) : id < s.calls.length := by
  obtain ⟨call, issued, _⟩ := h.queued command id queued
  exact (List.getElem?_eq_some_iff.mp issued).1

/-- A new call that waits or is stale joins the end of its queue. -/
theorem Queues.append (h : Queues s) (call : Call) (enters : call.live = true ∨ call.stale = true) :
    Queues { s.setQueue call.command (s.pending call.command ++ [s.calls.length]) with
      calls := s.calls ++ [call] } := by
  have before : ∀ {id : Nat}, id < s.calls.length → (s.calls ++ [call])[id]? = s.calls[id]? :=
    fun inside => List.getElem?_append_left inside
  have here : (s.calls ++ [call])[s.calls.length]? = some call := by simp
  refine ⟨fun command id queued => ?_, fun id other issued live => ?_, fun command => ?_⟩
  · simp only [BLEDeviceSession.setQueue] at queued ⊢
    by_cases same : command = call.command
    · subst same
      rw [Function.update_self] at queued
      rcases List.mem_append.mp queued with earlier | last
      · rw [before (h.lt_length earlier)]
        exact h.queued _ id earlier
      · obtain rfl := List.mem_singleton.mp last
        exact ⟨call, here, rfl, enters⟩
    · rw [Function.update_of_ne same] at queued
      rw [before (h.lt_length queued)]
      exact h.queued command id queued
  · simp only [BLEDeviceSession.setQueue] at issued ⊢
    by_cases last : id = s.calls.length
    · subst last
      obtain rfl : call = other := Option.some.inj (here.symm.trans issued)
      rw [Function.update_self]
      exact List.mem_append_right _ List.mem_cons_self
    · have inside : id < s.calls.length := by
        have bound := (List.getElem?_eq_some_iff.mp issued).1
        rw [List.length_append, List.length_singleton] at bound
        omega
      rw [before inside] at issued
      have earlier := h.live id other issued live
      by_cases same : other.command = call.command
      · rw [same, Function.update_self]
        rw [same] at earlier
        exact List.mem_append_left _ earlier
      · rwa [Function.update_of_ne same]
  · simp only [BLEDeviceSession.setQueue]
    by_cases same : command = call.command
    · subst same
      rw [Function.update_self, List.pairwise_append]
      refine ⟨h.ordered _, List.pairwise_singleton _ _, fun id earlier last hlast => ?_⟩
      obtain rfl := List.mem_singleton.mp hlast
      exact h.lt_length earlier
    · rw [Function.update_of_ne same]
      exact h.ordered command

theorem queues_sendCommand (h : Queues s) (command : Int) (payload : Bytes) :
    Queues (s.sendCommand command payload) := by
  unfold BLEDeviceSession.sendCommand
  cases s.txHandle with
  | none => exact h
  | some _ =>
    dsimp only
    cases Protocol.Standalone.createCommandFrame command (some payload) with
    | ok frame => exact h.append ⟨command, .pending, .writing frame⟩ (.inl rfl)
    | error error => exact h.append ⟨command, .pending, .raised (.cannotBuild error)⟩ (.inr rfl)

/-- The calls there were keep their numbers. -/
theorem calls_sendCommand (s : BLEDeviceSession) (command : Int) (payload : Bytes) :
    ∃ more, (s.sendCommand command payload).calls = s.calls ++ more := by
  unfold BLEDeviceSession.sendCommand
  cases s.txHandle with
  | none => exact ⟨[], (List.append_nil _).symm⟩
  | some _ =>
    dsimp only
    cases Protocol.Standalone.createCommandFrame command (some payload) with
    | ok frame => exact ⟨_, rfl⟩
    | error error => exact ⟨_, rfl⟩

/-- The numbers in a queue are different. -/
theorem Queues.nodup (h : Queues s) (command : Int) : (s.pending command).Nodup :=
  (h.ordered command).imp fun less => Nat.ne_of_lt less

theorem moveCall_cases {id : Nat} {move : CallMove} (h : s.moveCall id move = some t) :
    ∃ call call' removes, s.calls[id]? = some call ∧ Moved call call' removes ∧
      t.calls = s.calls.set id call' ∧
      t.pending = if removes then
          Function.update s.pending call.command ((s.pending call.command).erase id)
        else s.pending := by
  simp only [BLEDeviceSession.moveCall, Option.bind_eq_some_iff, Option.map_eq_some_iff] at h
  obtain ⟨call, issued, ⟨call', removes⟩, moves, rfl⟩ := h
  refine ⟨call, call', removes, issued, Call.moved_of_move moves, ?_, ?_⟩
  · cases removes <;> rfl
  · cases removes <;> rfl

/-- One call changes, and at most that call leaves its queue. -/
structure Touches (s : BLEDeviceSession) (id : Nat) (call call' : Call) (t : BLEDeviceSession) :
    Prop where
  issued : s.calls[id]? = some call
  here : t.calls[id]? = some call'
  elsewhere : ∀ other, other ≠ id → t.calls[other]? = s.calls[other]?
  command : call'.command = call.command
  kept : ∀ command, (t.pending command).Sublist (s.pending command)
  others : ∀ command, ∀ other ∈ s.pending command, other ≠ id → other ∈ t.pending command

/-- The queues stay in order where the changed call is queued while it waits, and queued only
while it waits or is stale. -/
theorem Queues.touched {id : Nat} {call call' : Call} (h : Queues s)
    (touches : Touches s id call call' t)
    (queued : id ∈ t.pending call.command → call'.live = true ∨ call'.stale = true)
    (live : call'.live = true → id ∈ t.pending call.command) : Queues t := by
  refine ⟨fun command other there => ?_, fun other later there lives => ?_, fun command => ?_⟩
  · have earlier := (touches.kept command).subset there
    obtain ⟨before, known, named, waits⟩ := h.queued command other earlier
    by_cases different : other = id
    · subst different
      obtain rfl : call = before := Option.some.inj (touches.issued.symm.trans known)
      subst named
      exact ⟨call', touches.here, touches.command, queued there⟩
    · exact ⟨before, (touches.elsewhere other different).trans known, named, waits⟩
  · by_cases different : other = id
    · subst different
      obtain rfl : call' = later := Option.some.inj (touches.here.symm.trans there)
      rw [touches.command]
      exact live lives
    · rw [touches.elsewhere other different] at there
      exact touches.others _ other (h.live other later there lives) different
  · exact (h.ordered command).sublist (touches.kept command)

/-- The future of a call leaves its queue, and no other. -/
theorem touches_removes {id : Nat} {call call' : Call} {removes : Bool}
    (issued : s.calls[id]? = some call) (command : call'.command = call.command)
    (calls : t.calls = s.calls.set id call')
    (pending : t.pending = if removes then
        Function.update s.pending call.command ((s.pending call.command).erase id)
      else s.pending) : Touches s id call call' t := by
  have inside : id < s.calls.length := (List.getElem?_eq_some_iff.mp issued).1
  refine ⟨issued, ?_, ?_, command, ?_, ?_⟩
  · rw [calls, List.getElem?_set_self inside]
  · intro other different
    rw [calls, List.getElem?_set_ne (Ne.symm different)]
  · intro at_
    rw [pending]
    cases removes with
    | false => exact List.Sublist.refl _
    | true =>
      by_cases same : at_ = call.command
      · subst same
        rw [if_pos rfl, Function.update_self]
        exact List.erase_sublist
      · rw [if_pos rfl, Function.update_of_ne same]
  · intro at_ other queued different
    rw [pending]
    cases removes with
    | false => exact queued
    | true =>
      by_cases same : at_ = call.command
      · subst same
        rw [if_pos rfl, Function.update_self]
        exact (List.mem_erase_of_ne different).mpr queued
      · rwa [if_pos rfl, Function.update_of_ne same]

theorem queues_moveCall {id : Nat} {move : CallMove} (h : Queues s)
    (moves : s.moveCall id move = some t) : Queues t := by
  obtain ⟨call, call', removes, issued, moved, calls, pending⟩ := moveCall_cases moves
  have touches := touches_removes issued moved.command calls pending
  apply h.touched touches
  · intro queued
    have waits : call.live = true ∨ call.stale = true := by
      obtain ⟨before, known, _, waits⟩ := h.queued _ id ((touches.kept _).subset queued)
      obtain rfl : call = before := Option.some.inj (issued.symm.trans known)
      exact waits
    cases removes with
    | false => exact moved.queued waits rfl
    | true =>
      rw [pending, if_pos rfl, Function.update_self] at queued
      exact absurd queued (h.nodup _).not_mem_erase
  · intro live
    obtain ⟨lived, stays⟩ := moved.live live
    subst stays
    rw [pending]
    exact h.live id call issued lived

theorem Call.live_receive (payload : Bytes) (call : Call) :
    (call.receive payload).live = false := by
  cases lives : (call.receive payload).live with
  | false => rfl
  | true =>
    have open_ := (Call.live_iff.mp lives).1
    unfold Call.receive at open_
    split at open_
    · cases open_
    · contradiction

theorem Call.command_receive {payload : Bytes} {call : Call} :
    (call.receive payload).command = call.command := by
  unfold Call.receive
  split <;> rfl

theorem Call.receive_of_live {call : Call} (payload : Bytes) (live : call.live = true) :
    call.receive payload = { call with future := .result payload } :=
  if_pos (Call.live_iff.mp live).1

/-- What a reply does to the session: nothing, or it takes the head of its queue. -/
theorem handleReply_cases (s : BLEDeviceSession) (reply : Reply) :
    (s.pending reply.1.toNat = [] ∧ s.handleReply reply = s) ∨
    ∃ id queue, s.pending reply.1.toNat = id :: queue ∧
      (s.handleReply reply).calls = s.calls.modify id (Call.receive reply.2) ∧
      (s.handleReply reply).pending = Function.update s.pending reply.1.toNat queue := by
  unfold BLEDeviceSession.handleReply
  cases queued : s.pending reply.1.toNat with
  | nil => exact .inl ⟨rfl, rfl⟩
  | cons id queue => exact .inr ⟨id, queue, rfl, rfl, rfl⟩

theorem queues_handleReply (h : Queues s) (reply : Reply) : Queues (s.handleReply reply) := by
  rcases handleReply_cases s reply with ⟨_, same⟩ | ⟨id, queue, queued, calls, pending⟩
  · rw [same]
    exact h
  have ordered := h.ordered reply.1.toNat
  rw [queued, List.pairwise_cons] at ordered
  obtain ⟨call, issued, named, _⟩ := h.queued reply.1.toNat id (by rw [queued]; simp)
  have touches : Touches s id call (call.receive reply.2) (s.handleReply reply) := by
    refine ⟨issued, ?_, ?_, Call.command_receive, ?_, ?_⟩
    · rw [calls, List.getElem?_modify_eq, issued]
      rfl
    · intro other different
      rw [calls, List.getElem?_modify_ne _ _ (Ne.symm different)]
    · intro command
      rw [pending]
      by_cases same : command = reply.1.toNat
      · rw [same, Function.update_self, queued]
        exact List.sublist_cons_self id queue
      · rw [Function.update_of_ne same]
    · intro command other there different
      rw [pending]
      by_cases same : command = reply.1.toNat
      · rw [same, queued] at there
        rw [same, Function.update_self]
        exact (List.mem_cons.mp there).resolve_left different
      · rwa [Function.update_of_ne same]
  apply h.touched touches
  · intro again
    rw [pending, named, Function.update_self] at again
    exact absurd (ordered.1 id again) (Nat.lt_irrefl id)
  · intro live
    rw [Call.live_receive] at live
    cases live

theorem Queues.getElem?_close (open_ : s.closed = false) (id : Nat) :
    s.close.calls[id]? = (s.calls[id]?).map (s.failQueued id) := by
  simp [BLEDeviceSession.close, open_]

theorem failQueued_of_live (h : Queues s) {id : Nat} {call : Call}
    (issued : s.calls[id]? = some call) (live : call.live = true) :
    s.failQueued id call = { call with future := .exception "Session closed" } :=
  if_pos ⟨h.live id call issued live, (Call.live_iff.mp live).1⟩

theorem queues_close (h : Queues s) : Queues s.close := by
  cases open_ : s.closed with
  | true =>
    have same : s.close = s := if_pos open_
    rw [same]
    exact h
  | false =>
    have emptied : ∀ command, s.close.pending command = [] := by
      intro command
      simp [BLEDeviceSession.close, open_]
    refine ⟨fun command id queued => ?_, fun id call there live => ?_, fun command => ?_⟩
    · rw [emptied] at queued
      cases queued
    · rw [Queues.getElem?_close open_] at there
      obtain ⟨before, issued, failed⟩ := Option.map_eq_some_iff.mp there
      -- a caller that waits after the sweep would have been queued, and failed
      have lived : before.live = true := by
        unfold BLEDeviceSession.failQueued at failed
        split at failed
        · rw [← failed] at live
          cases (Call.live_iff.mp live).1
        · rwa [failed]
      rw [failQueued_of_live h issued lived] at failed
      rw [← failed] at live
      cases (Call.live_iff.mp live).1
    · rw [emptied]
      exact List.Pairwise.nil

/-! ### One reply -/

theorem oldestWaiting_eq_some_iff {command : Int} {id : Nat} :
    oldestWaiting s command = some id ↔
      (∃ call, s.calls[id]? = some call ∧ call.command = command ∧ call.live = true) ∧
      ∀ earlier < id, ∀ call, s.calls[earlier]? = some call → call.command = command →
        call.live = false := by
  unfold oldestWaiting
  rw [List.findIdx?_eq_some_iff_getElem]
  constructor
  · rintro ⟨inside, found, first⟩
    simp only [Bool.and_eq_true, decide_eq_true_eq] at found
    refine ⟨⟨_, List.getElem?_eq_getElem inside, found⟩, fun earlier before call issued named => ?_⟩
    obtain ⟨_, rfl⟩ := List.getElem?_eq_some_iff.mp issued
    have skipped := first earlier before
    simpa [named] using skipped
  · rintro ⟨⟨call, issued, named, live⟩, first⟩
    obtain ⟨inside, rfl⟩ := List.getElem?_eq_some_iff.mp issued
    refine ⟨inside, by simp [named, live], fun earlier before => ?_⟩
    have inside' : earlier < s.calls.length := Nat.lt_trans before inside
    have skipped := first earlier before _ (List.getElem?_eq_getElem inside')
    simpa using skipped

/-- The head of the queue is the oldest waiting caller, if it waits. -/
theorem Queues.oldest_of_head (h : Queues s) {command : Int} {id : Nat} {queue : List Nat}
    {call : Call} (queued : s.pending command = id :: queue) (issued : s.calls[id]? = some call)
    (named : call.command = command) (live : call.live = true) :
    oldestWaiting s command = some id := by
  refine oldestWaiting_eq_some_iff.mpr ⟨⟨call, issued, named, live⟩, ?_⟩
  intro earlier before other known itsCommand
  cases lives : other.live with
  | false => rfl
  | true =>
    have waits := h.live earlier other known lives
    have ordered := h.ordered command
    rw [itsCommand, queued] at waits
    rw [queued, List.pairwise_cons] at ordered
    rcases List.mem_cons.mp waits with rfl | later
    · exact absurd before (Nat.lt_irrefl _)
    · have after := ordered.1 earlier later
      omega

theorem Queues.oldest_of_empty (h : Queues s) {command : Int} (empty : s.pending command = []) :
    oldestWaiting s command = none := by
  cases waiting : oldestWaiting s command with
  | none => rfl
  | some id =>
    obtain ⟨⟨call, issued, named, live⟩, _⟩ := oldestWaiting_eq_some_iff.mp waiting
    have queued := h.live id call issued live
    rw [named, empty] at queued
    cases queued

/-- Where the head of the queue waits, the reply reaches it. -/
theorem delivered_of_live (h : Queues s) {reply : Reply} {id : Nat} {queue : List Nat} {call : Call}
    (queued : s.pending reply.1.toNat = id :: queue) (issued : s.calls[id]? = some call)
    (named : call.command = reply.1.toNat) (live : call.live = true)
    (calls : (s.handleReply reply).calls = s.calls.modify id (Call.receive reply.2)) :
    Delivered s reply (s.handleReply reply) := by
  have oldest := h.oldest_of_head queued issued named live
  intro other waiting
  obtain rfl : id = other := Option.some.inj (oldest.symm.trans waiting)
  rw [calls]
  apply List.ext_getElem?
  intro i
  by_cases same : i = id
  · subst same
    rw [List.getElem?_modify_eq, List.getElem?_modify_eq, issued]
    exact congrArg some (Call.receive_of_live reply.2 live)
  · rw [List.getElem?_modify_ne _ _ (Ne.symm same), List.getElem?_modify_ne _ _ (Ne.symm same)]

/-- Where it does not, no caller that waits gets the reply. -/
theorem not_delivered_of_not_live {reply : Reply} {id oldest : Nat} {call : Call}
    (issued : s.calls[id]? = some call) (ended : call.live = false)
    (calls : (s.handleReply reply).calls = s.calls.modify id (Call.receive reply.2))
    (waiting : oldestWaiting s reply.1.toNat = some oldest) :
    ¬ Delivered s reply (s.handleReply reply) := by
  intro delivered
  obtain ⟨⟨caller, known, _, lives⟩, _⟩ := oldestWaiting_eq_some_iff.mp waiting
  have different : id ≠ oldest := by
    rintro rfl
    obtain rfl : call = caller := Option.some.inj (issued.symm.trans known)
    rw [ended] at lives
    cases lives
  have untouched : (s.handleReply reply).calls[oldest]? = some caller := by
    rw [calls, List.getElem?_modify_ne _ _ different, known]
  rw [delivered oldest waiting, List.getElem?_modify_eq, known] at untouched
  have answered := Option.some.inj untouched
  have open_ := (Call.live_iff.mp lives).1
  rw [← answered] at open_
  cases open_

/-- A reply reaches the oldest waiting caller exactly where no stale call is ahead of it. -/
theorem delivered_iff (h : Queues s) (reply : Reply) :
    Delivered s reply (s.handleReply reply) ↔ Unobstructed s reply.1.toNat := by
  rcases handleReply_cases s reply with ⟨empty, _⟩ | ⟨id, queue, queued, calls, _⟩
  · have nobody := h.oldest_of_empty empty
    refine iff_of_true (fun id waiting => ?_) (fun id first => ?_)
    · rw [nobody] at waiting
      cases waiting
    · rw [empty] at first
      cases first
  have first : (s.pending reply.1.toNat).head? = some id := by rw [queued, List.head?_cons]
  obtain ⟨call, issued, named, waits⟩ := h.queued reply.1.toNat id (by rw [queued]; simp)
  cases live : call.live with
  | true =>
    refine iff_of_true (delivered_of_live h queued issued named live calls) ?_
    intro head isHead other known stale
    obtain rfl : id = head := Option.some.inj (first.symm.trans isHead)
    obtain rfl : call = other := Option.some.inj (issued.symm.trans known)
    rw [Call.stale_eq_false (Call.live_iff.mp live).2] at stale
    cases stale
  | false =>
    have stale : call.stale = true := waits.resolve_left (by rw [live]; exact Bool.noConfusion)
    constructor
    · intro delivered _ _ _ _ _
      cases waiting : oldestWaiting s reply.1.toNat with
      | none => rfl
      | some oldest => exact absurd delivered (not_delivered_of_not_live issued live calls waiting)
    · intro clear oldest waiting
      rw [clear id first call issued stale] at waiting
      cases waiting

/-! ### One step -/

theorem run_replies (s : BLEDeviceSession) (replies : List Reply) :
    run replyStep s replies = some (replies.foldl BLEDeviceSession.handleReply s) := by
  induction replies generalizing s with
  | nil => rfl
  | cons reply replies ih => exact ih (s.handleReply reply)

/-- The loop over the frames hands over the replies among them. -/
theorem handleFrames_eq (frames : List Bytes) (s : BLEDeviceSession) :
    BLEDeviceSession.handleFrames frames s =
      (repliesIn frames).foldl BLEDeviceSession.handleReply s := by
  induction frames generalizing s with
  | nil => rfl
  | cons frame frames ih =>
    by_cases h : IsFrame frame
    · obtain ⟨reply, decoded⟩ := (isFrame_iff_accepted frame).mp h
      have here : repliesIn (frame :: frames) = reply :: repliesIn frames :=
        List.filterMap_cons_some (by rw [decoded]; rfl)
      rw [BLEDeviceSession.handleFrames, decoded, here]
      exact ih (s.handleReply reply)
    · obtain ⟨message, raised⟩ := parseFrame_of_not_isFrame h
      have skipped : repliesIn (frame :: frames) = repliesIn frames :=
        List.filterMap_cons_none (by rw [raised]; rfl)
      rw [BLEDeviceSession.handleFrames, raised, skipped]
      exact ih s

theorem handleNotification_eq (s : BLEDeviceSession) (data : Bytes) :
    s.handleNotification data =
      (completed s data).foldl BLEDeviceSession.handleReply (s.fed data) :=
  handleFrames_eq _ _

theorem queues_replies (h : Queues s) (replies : List Reply) :
    States replyStep Queues s replies := by
  refine states_of_invariant ?_ h replies
  intro s reply t here next
  obtain rfl := Option.some.inj next
  exact queues_handleReply here reply

theorem queues_step {e : SessionEvent} (h : Queues s) (next : sessionStep s e = some t) :
    Queues t := by
  cases e with
  | connects txHandle =>
    obtain rfl := Option.some.inj next
    exact h.of_same rfl rfl
  | sendCommand command payload =>
    obtain rfl := Option.some.inj next
    exact queues_sendCommand h command payload
  | moves id move => exact queues_moveCall h next
  | notification data =>
    obtain rfl := Option.some.inj next
    have fed : Queues (s.fed data) := h.of_same rfl rfl
    rw [handleNotification_eq]
    exact (queues_replies fed _).final (run_replies _ _)
  | close =>
    obtain rfl := Option.some.inj next
    exact queues_close h

/-- The replies of a notification are delivered exactly where each finds its queue clear. -/
theorem delivered_steps_iff (h : Queues s) (replies : List Reply) :
    Steps replyStep Delivered s replies ↔
      Steps replyStep (fun s reply _ => Unobstructed s reply.1.toNat) s replies := by
  have kept := queues_replies h replies
  have same : ∀ s reply t, Queues s → replyStep s reply = some t →
      (Delivered s reply t ↔ Unobstructed s reply.1.toNat) := by
    intro s reply t here next
    obtain rfl := Option.some.inj next
    exact delivered_iff here reply
  constructor
  · exact Steps.imp (fun s reply t here delivered next => (same s reply t here next).mp delivered)
      kept
  · exact Steps.imp (fun s reply t here clear next => (same s reply t here next).mpr clear) kept

theorem matched_close_iff (h : Queues s) : Matched s .close s.close ↔ Clear s .close s.close := by
  cases open_ : s.closed with
  | true =>
    have same : s.close = s := if_pos open_
    constructor
    · intro failed _ call listed
      obtain ⟨id, issued⟩ := List.mem_iff_getElem?.mp listed
      cases live : call.live with
      | false => rfl
      | true =>
        have still := failed id call issued live
        rw [same, issued, Option.some.injEq] at still
        have waits := (Call.live_iff.mp live).1
        rw [still] at waits
        cases waits
    · intro none_ id call issued live
      have finished := none_ open_ call (List.mem_of_getElem? issued)
      rw [live] at finished
      cases finished
  | false =>
    refine iff_of_true (fun id call issued live => ?_) (fun closed => ?_)
    · rw [Queues.getElem?_close open_, issued]
      exact congrArg some (failQueued_of_live h issued live)
    · rw [open_] at closed
      cases closed

theorem matched_iff {e : SessionEvent} (h : Queues s) (next : sessionStep s e = some t) :
    Matched s e t ↔ Clear s e t := by
  cases e with
  | notification data =>
    obtain rfl := Option.some.inj next
    have fed : Queues (s.fed data) := h.of_same rfl rfl
    constructor
    · rintro ⟨_, delivered⟩
      exact (delivered_steps_iff fed _).mp delivered
    · intro clear
      refine ⟨?_, (delivered_steps_iff fed _).mpr clear⟩
      rw [run_replies, handleNotification_eq]
  | close =>
    obtain rfl := Option.some.inj next
    exact matched_close_iff h
  | connects _ | sendCommand _ _ | moves _ _ => exact iff_of_true trivial trivial

/-! ### At most one reply -/

/-- The call whose future a reply completes. -/
def receiver (s : BLEDeviceSession) (reply : Reply) : Option Nat :=
  (s.pending reply.1.toNat).head?.filter fun id =>
    (s.calls[id]?).any fun call => call.future = .pending

/-- The receivers of successive replies. -/
def receivers : BLEDeviceSession → List Reply → List Nat
  | _, [] => []
  | s, reply :: replies => (receiver s reply).toList ++ receivers (s.handleReply reply) replies

/-- The calls that receive a reply in a run, once for every reply. -/
def receipts : BLEDeviceSession → List SessionEvent → List Nat
  | _, [] => []
  | s, e :: es => match sessionStep s e with
    | none => []
    | some t => (match e with
      | .notification data => receivers (s.fed data) (completed s data)
      | _ => []) ++ receipts t es

/-- The future of the call has a reply. -/
def Answered (s : BLEDeviceSession) (id : Nat) : Prop :=
  ∃ call payload, s.calls[id]? = some call ∧ call.future = .result payload

theorem Call.receive_result {call : Call} {payload first : Bytes}
    (answered : call.future = .result first) :
    (call.receive payload).future = .result first := by
  simp [Call.receive, answered]

theorem Answered.handleReply {id : Nat} (h : Answered s id) (reply : Reply) :
    Answered (s.handleReply reply) id := by
  obtain ⟨call, payload, issued, answered⟩ := h
  rcases handleReply_cases s reply with ⟨_, same⟩ | ⟨first, queue, _, calls, _⟩
  · rw [same]
    exact ⟨call, payload, issued, answered⟩
  · by_cases here : first = id
    · subst here
      refine ⟨call.receive reply.2, payload, ?_, Call.receive_result answered⟩
      rw [calls, List.getElem?_modify_eq, issued]
      rfl
    · refine ⟨call, payload, ?_, answered⟩
      rw [calls, List.getElem?_modify_ne _ _ here, issued]

theorem Answered.replies {id : Nat} (h : Answered s id) (replies : List Reply) :
    Answered (replies.foldl BLEDeviceSession.handleReply s) id := by
  induction replies generalizing s with
  | nil => exact h
  | cons reply replies ih => exact ih (h.handleReply reply)

/-- No step takes a reply back. -/
theorem Answered.step {id : Nat} {e : SessionEvent} (h : Answered s id)
    (next : sessionStep s e = some t) : Answered t id := by
  obtain ⟨call, payload, issued, answered⟩ := h
  cases e with
  | connects txHandle =>
    obtain rfl := Option.some.inj next
    exact ⟨call, payload, issued, answered⟩
  | sendCommand command bytes =>
    obtain rfl := Option.some.inj next
    have inside := (List.getElem?_eq_some_iff.mp issued).1
    obtain ⟨more, calls⟩ := calls_sendCommand s command bytes
    exact ⟨call, payload, by rw [calls, List.getElem?_append_left inside, issued], answered⟩
  | moves moving move =>
    obtain ⟨before, after, removes, known, moved, calls, _⟩ := moveCall_cases next
    by_cases here : moving = id
    · subst here
      obtain rfl : call = before := Option.some.inj (issued.symm.trans known)
      have inside := (List.getElem?_eq_some_iff.mp issued).1
      exact ⟨after, payload, by rw [calls, List.getElem?_set_self inside],
        moved.answered payload answered⟩
    · exact ⟨call, payload, by rw [calls, List.getElem?_set_ne here, issued], answered⟩
  | notification data =>
    obtain rfl := Option.some.inj next
    have fed : Answered (s.fed data) id := ⟨call, payload, issued, answered⟩
    rw [handleNotification_eq]
    exact fed.replies _
  | close =>
    obtain rfl := Option.some.inj next
    cases open_ : s.closed with
    | true =>
      have same : s.close = s := if_pos open_
      rw [same]
      exact ⟨call, payload, issued, answered⟩
    | false =>
      have kept : s.failQueued id call = call := by simp [BLEDeviceSession.failQueued, answered]
      refine ⟨call, payload, ?_, answered⟩
      rw [Queues.getElem?_close open_, issued, Option.map_some, kept]

/-- A receiver had no reply before, and has one afterwards. -/
theorem receiver_answered {reply : Reply} {id : Nat} (here : receiver s reply = some id) :
    ¬ Answered s id ∧ Answered (s.handleReply reply) id := by
  obtain ⟨first, waits⟩ := Option.filter_eq_some_iff.mp here
  obtain ⟨call, issued, open_⟩ := (Option.any_eq_true _ _).mp waits
  have pending : call.future = .pending := of_decide_eq_true open_
  constructor
  · rintro ⟨before, payload, known, answered⟩
    obtain rfl : call = before := Option.some.inj (issued.symm.trans known)
    rw [pending] at answered
    cases answered
  · rcases handleReply_cases s reply with ⟨empty, _⟩ | ⟨head, queue, queued, calls, _⟩
    · rw [empty] at first
      cases first
    · rw [queued] at first
      obtain rfl := Option.some.inj first
      refine ⟨call.receive reply.2, reply.2, ?_, by simp [Call.receive, pending]⟩
      rw [calls, List.getElem?_modify_eq, issued]
      rfl

theorem receivers_spec (s : BLEDeviceSession) (replies : List Reply) :
    (receivers s replies).Nodup ∧ ∀ id ∈ receivers s replies, ¬ Answered s id ∧
      Answered (replies.foldl BLEDeviceSession.handleReply s) id := by
  induction replies generalizing s with
  | nil => exact ⟨List.nodup_nil, fun id listed => by cases listed⟩
  | cons reply replies ih =>
    obtain ⟨distinct, later⟩ := ih (s.handleReply reply)
    rw [receivers, List.foldl_cons]
    refine ⟨?_, fun id listed => ?_⟩
    · rw [List.nodup_append]
      refine ⟨?_, distinct, fun a first b rest same => ?_⟩
      · cases receiver s reply <;> simp
      have now := receiver_answered (Option.mem_toList.mp first)
      exact (later b rest).1 (same ▸ now.2)
    · rcases List.mem_append.mp listed with first | rest
      · have now := receiver_answered (Option.mem_toList.mp first)
        exact ⟨now.1, now.2.replies replies⟩
      · have afterwards := later id rest
        exact ⟨fun before => afterwards.1 (before.handleReply reply), afterwards.2⟩

theorem receipts_spec (s : BLEDeviceSession) (events : List SessionEvent) :
    (receipts s events).Nodup ∧ ∀ id ∈ receipts s events, ¬ Answered s id := by
  induction events generalizing s with
  | nil => exact ⟨List.nodup_nil, fun id listed => by cases listed⟩
  | cons e events ih =>
    unfold receipts
    cases next : sessionStep s e with
    | none => exact ⟨List.nodup_nil, fun id listed => by cases listed⟩
    | some t =>
      obtain ⟨distinct, later⟩ := ih t
      have unanswered : ∀ id ∈ receipts t events, ¬ Answered s id :=
        fun id listed before => later id listed (before.step next)
      cases e with
      | notification data =>
        obtain rfl := Option.some.inj next
        obtain ⟨once, here⟩ := receivers_spec (s.fed data) (completed s data)
        refine ⟨?_, fun id listed => ?_⟩
        · rw [List.nodup_append]
          refine ⟨once, distinct, fun a first b rest same => ?_⟩
          have now := (here a first).2
          rw [← handleNotification_eq] at now
          exact later b rest (same ▸ now)
        · rcases List.mem_append.mp listed with first | rest
          · exact (here id first).1
          · exact unanswered id rest
      | connects _ | sendCommand _ _ | moves _ _ | close => exact ⟨distinct, unanswered⟩

/-! ### Whole runs -/

/-- A call that has returned a payload has it from its future. -/
def Returned (s : BLEDeviceSession) : Prop :=
  ∀ (id : Nat) (call : Call), s.calls[id]? = some call → ∀ payload,
    call.pc = .returned payload → call.future = .result payload

theorem returned_handleReply (h : Returned s) (reply : Reply) : Returned (s.handleReply reply) := by
  rcases handleReply_cases s reply with ⟨_, same⟩ | ⟨first, queue, _, calls, _⟩
  · rw [same]
    exact h
  · intro id call issued payload done
    rw [calls] at issued
    by_cases here : first = id
    · subst here
      rw [List.getElem?_modify_eq] at issued
      obtain ⟨before, known, rfl⟩ := Option.map_eq_some_iff.mp issued
      have ended : before.pc = .returned payload := by
        unfold Call.receive at done
        split at done <;> exact done
      exact Call.receive_result (h first before known payload ended)
    · rw [List.getElem?_modify_ne _ _ here] at issued
      exact h id call issued payload done

theorem returned_close (h : Returned s) : Returned s.close := by
  cases open_ : s.closed with
  | true =>
    have same : s.close = s := if_pos open_
    rw [same]
    exact h
  | false =>
    intro id call issued payload done
    rw [Queues.getElem?_close open_] at issued
    obtain ⟨before, known, rfl⟩ := Option.map_eq_some_iff.mp issued
    have ended : before.pc = .returned payload := by
      unfold BLEDeviceSession.failQueued at done
      split at done <;> exact done
    have answered := h id before known payload ended
    simp [BLEDeviceSession.failQueued, answered]

theorem returned_sendCommand (h : Returned s) (command : Int) (bytes : Bytes) :
    Returned (s.sendCommand command bytes) := by
  have joined : ∀ added : Call, (∀ payload, added.pc ≠ .returned payload) →
      ∀ (id : Nat) (call : Call), (s.calls ++ [added])[id]? = some call → ∀ payload,
      call.pc = .returned payload → call.future = .result payload := by
    intro added fresh id call issued payload done
    rcases Nat.lt_or_ge id s.calls.length with inside | beyond
    · rw [List.getElem?_append_left inside] at issued
      exact h id call issued payload done
    · rw [List.getElem?_append_right beyond] at issued
      obtain rfl := List.mem_singleton.mp (List.mem_of_getElem? issued)
      exact absurd done (fresh payload)
  unfold BLEDeviceSession.sendCommand
  cases s.txHandle with
  | none => exact h
  | some _ =>
    dsimp only
    cases Protocol.Standalone.createCommandFrame command (some bytes) with
    | ok frame => exact joined _ (fun payload done => by cases done)
    | error error => exact joined _ (fun payload done => by cases done)

theorem returned_step {e : SessionEvent} (h : Returned s) (next : sessionStep s e = some t) :
    Returned t := by
  cases e with
  | connects txHandle =>
    obtain rfl := Option.some.inj next
    exact h
  | sendCommand command bytes =>
    obtain rfl := Option.some.inj next
    exact returned_sendCommand h command bytes
  | moves moving move =>
    obtain ⟨before, after, removes, known, moved, calls, _⟩ := moveCall_cases next
    have inside := (List.getElem?_eq_some_iff.mp known).1
    intro id call issued payload done
    rw [calls] at issued
    by_cases here : moving = id
    · subst here
      rw [List.getElem?_set_self inside] at issued
      obtain rfl : after = call := Option.some.inj issued
      exact moved.returned payload done
    · rw [List.getElem?_set_ne here] at issued
      exact h id call issued payload done
  | notification data =>
    obtain rfl := Option.some.inj next
    have fed : Returned (s.fed data) := h
    have kept : States replyStep Returned (s.fed data) (completed s data) := by
      refine states_of_invariant ?_ fed _
      intro s reply t here next
      obtain rfl := Option.some.inj next
      exact returned_handleReply here reply
    rw [handleNotification_eq]
    exact kept.final (run_replies _ _)
  | close =>
    obtain rfl := Option.some.inj next
    exact returned_close h

/-- In every run of a session, every reply reaches the oldest caller that waits for it and every
`close` fails all that wait, exactly where no reply finds a stale call ahead of a waiting one and
no closed session is closed again over a waiting caller. No caller is ever handed a second reply,
and a payload that a call returns is the reply its future was handed. -/
theorem replies_matched_iff (events : List SessionEvent) :
    (Steps sessionStep Matched BLEDeviceSession.start events ↔
      Steps sessionStep Clear BLEDeviceSession.start events) ∧
    (receipts BLEDeviceSession.start events).Nodup ∧
    States sessionStep Returned BLEDeviceSession.start events := by
  have kept : States sessionStep Queues BLEDeviceSession.start events :=
    states_of_invariant (fun _ _ _ h next => queues_step h next) queues_start events
  have same : ∀ s e t, Queues s → sessionStep s e = some t → (Matched s e t ↔ Clear s e t) :=
    fun _ _ _ h next => matched_iff h next
  refine ⟨⟨?_, ?_⟩, (receipts_spec _ events).1, ?_⟩
  · exact Steps.imp (fun s e t here matched next => (same s e t here next).mp matched) kept
  · exact Steps.imp (fun s e t here clear next => (same s e t here next).mpr clear) kept
  · refine states_of_invariant (fun _ _ _ h next => returned_step h next) ?_ events
    intro id call issued
    cases issued

/-! ### A reply that is lost -/

/-- A payload that fits into no frame. -/
def tooLong : Bytes := List.replicate 251 0

/-- The frame of the first call cannot be built; the second call waits when the reply comes. -/
def unbuiltFirst : List SessionEvent :=
  [.connects 11, .sendCommand 0x03 tooLong, .sendCommand 0x03 [], .moves 1 .writeReturns,
    .notification (frameOf 0x03 [0x01])]

/-- The session after the first call has failed. -/
def failedFirst : BLEDeviceSession :=
  { ({ BLEDeviceSession.start with txHandle := some 11 }).setQueue 0x03 [0] with
    calls := [⟨0x03, .pending, .raised (.cannotBuild rangeError)⟩] }

theorem step_failedFirst :
    sessionStep { BLEDeviceSession.start with txHandle := some 11 } (.sendCommand 0x03 tooLong) =
      some failedFirst := by
  have refused : Protocol.Standalone.createCommandFrame 0x03 (some tooLong) =
      .error rangeError := by
    rw [createCommandFrame_eq_frameOf, if_neg]
    intro fits
    have size : tooLong.length = 251 := List.length_replicate
    have short : tooLong.length ≤ 250 := fits.2
    omega
  simp only [sessionStep, BLEDeviceSession.sendCommand, refused]
  rfl

/-- The reply goes to the call that has failed. -/
theorem reply_taken_by_unbuilt :
    ¬ ∀ events, Steps sessionStep Matched BLEDeviceSession.start events := by
  intro matched
  have connected := (matched unbuiltFirst _ rfl).2
  have failed := (connected failedFirst step_failedFirst).2
  have notified := (((failed _ rfl).2 _ rfl).2 _ rfl).1
  have delivered := (notified.2 _ rfl).1 1 (by decide)
  exact absurd delivered (by decide)

end MarstekBle.Standalone
