/- module: Standalone/Reports
   source: standalone_test/marstek_basic_info.py
   digest: Which replies the collected results come from, and when the collection stops. -/

import Mathlib.Data.List.Infix
import MarstekBle.Standalone.Collection
import MarstekBle.Standalone.SoleCaller

/-!
The statements are about runs in which the log of the replies is kept: every reply
that is handled while a call is under way is noted with the number of the call.
-/

set_option autoImplicit false
set_option relaxedAutoImplicit false

namespace MarstekBle.Standalone

open MarstekBle.Data MarstekBle.Protocol MarstekBle.Lib.Dictionary MarstekBle.Lib.GuardedRun
open MarstekBle.Lib.AttributeTree

/-! ### The log -/

structure Watched where
  collector : Collector
  heard : List (Nat × Reply) := []

/-- The replies that a step handles, with the number of the call under way. -/
def heardDuring (c : Collector) (e : CollectEvent) : List (Nat × Reply) :=
  match c.pc, e with
  | .sending _ call, .notification data => (completed c.session data).map fun r => (call, r)
  | _, _ => []

variable (strings : StringMethods) (label : String)

def watchStep (w : Watched) (e : CollectEvent) : Option Watched :=
  (collectStep strings label w.collector e).map fun next =>
    ⟨next, w.heard ++ heardDuring w.collector e⟩

def Watched.start (specs : List CommandSpec) : Watched := ⟨Collector.start specs, []⟩

/-- The first reply with the command that came in during the call. -/
def firstHeard (heard : List (Nat × Reply)) (call : Nat) (command : Byte) : Option Bytes :=
  (heard.find? fun e => e.1 == call && e.2.1 == command).map fun e => e.2.2

/-- One turn of the loop that has ended. -/
structure Attempt where
  spec : CommandSpec
  answer : Except String Bytes

namespace Attempt

def entry (attempt : Attempt) : String × Metric :=
  (attempt.spec.key, (Collector.evaluate attempt.spec attempt.answer).1)

def failed (attempt : Attempt) : Bool := (Collector.evaluate attempt.spec attempt.answer).2

end Attempt

/-- The failures since the last success. -/
def trailingFailures (attempts : List Attempt) : Nat :=
  (attempts.reverse.takeWhile Attempt.failed).length

theorem trailingFailures_snoc (attempts : List Attempt) (attempt : Attempt) :
    trailingFailures (attempts ++ [attempt]) =
      if attempt.failed then trailingFailures attempts + 1 else 0 := by
  rw [trailingFailures, List.reverse_append, List.reverse_singleton, List.singleton_append]
  cases failed : attempt.failed with
  | true => rw [List.takeWhile_cons_of_pos failed]; rfl
  | false => rw [List.takeWhile_cons_of_neg (by simp [failed])]; rfl

/-! ### The log of one call -/

theorem firstHeard_append (heard : List (Nat × Reply)) (call : Nat) (command : Byte)
    (replies : List Reply) :
    firstHeard (heard ++ replies.map fun r => (call, r)) call command =
      replies.foldl (fun first reply => nextHeard first command.toNat reply)
        (firstHeard heard call command) := by
  induction replies generalizing heard with
  | nil => rw [List.map_nil, List.append_nil]; rfl
  | cons reply replies ih =>
    have one : firstHeard (heard ++ [(call, reply)]) call command =
        nextHeard (firstHeard heard call command) command.toNat reply := by
      have named : ((command.toNat : Int) = reply.1.toNat) ↔ reply.1 = command := by
        rw [Int.natCast_inj, UInt8.toNat_inj, eq_comm]
      rw [firstHeard, List.find?_append, Option.map_or, nextHeard, firstHeard]
      congr 1
      by_cases same : reply.1 = command
      · rw [if_pos (named.mpr same)]
        simp [same]
      · rw [if_neg fun h => same (named.mp h)]
        simp [same]
    rw [List.foldl_cons, ← one, ← ih, List.append_assoc]
    rfl

/-- What comes in during another call does not count. -/
theorem firstHeard_other {heard more : List (Nat × Reply)} {call : Nat} {command : Byte}
    (others : ∀ e ∈ more, e.1 ≠ call) :
    firstHeard (heard ++ more) call command = firstHeard heard call command := by
  have missing : more.find? (fun e => e.1 == call && e.2.1 == command) = none := by
    rw [List.find?_eq_none]
    intro e member
    simp [others e member]
  rw [firstHeard, List.find?_append, missing, Option.or_none, firstHeard]

/-! ### The task -/

/-- The task is neither in `send_command` nor in `close`. -/
def CollectPc.idle : CollectPc → Bool
  | .connecting | .awaitingState | .gettingServices | .startingNotify | .sleeping => true
  | _ => false

/-- Where the task can read a handle. -/
def CollectPc.ready : CollectPc → Bool
  | .startingNotify | .sleeping => true
  | _ => false

/-- The end a task in `close` is on its way to, or has come to. -/
def CollectPc.outcome : CollectPc → Option CollectOutcome
  | .stoppingNotify outcome | .disconnecting outcome | .finished outcome => some outcome
  | _ => none

theorem CollectPc.outcome_of_idle {pc : CollectPc} (idle : pc.idle = true) :
    pc.outcome = none := by
  cases pc with
  | sending _ _ => rfl
  | stoppingNotify _ | disconnecting _ | finished _ => cases idle
  | connecting | awaitingState | gettingServices | startingNotify | sleeping => rfl

variable (specs : List CommandSpec) (c : Collector) (heard : List (Nat × Reply))
  (attempts : List Attempt)

/-- What the attempts so far left. -/
structure Account : Prop where
  results : c.results = stored (attempts.map Attempt.entry)
  failures : c.consecutiveFailures = trailingFailures attempts
  persists : ∀ earlier, earlier <+: attempts → earlier ≠ attempts →
    trailingFailures earlier < maxConsecutiveFailures
  answered : ∀ i attempt payload, attempts[i]? = some attempt → attempt.answer = .ok payload →
    firstHeard heard i attempt.spec.commandId = some payload

/-- Between two commands. -/
structure Between : Prop where
  order : specs = attempts.map Attempt.spec ++ c.remaining
  count : c.session.calls.length = attempts.length
  below : trailingFailures attempts < maxConsecutiveFailures
  queues : Queues c.session
  idle : OnlyQueued c.session none
  heardBefore : ∀ e ∈ heard, e.1 < attempts.length

/-- In `send_command`. -/
structure Sending (spec : CommandSpec) (call : Nat) : Prop where
  order : specs = attempts.map Attempt.spec ++ spec :: c.remaining
  count : c.session.calls.length = attempts.length + 1
  number : call = attempts.length
  below : trailingFailures attempts < maxConsecutiveFailures
  queues : Queues c.session
  only : OnlyQueued c.session (some call)
  heardBefore : ∀ e ∈ heard, e.1 < attempts.length + 1
  handle : c.session.txHandle.isSome = true
  listening : ∃ issued, Listening c.session call issued
      (firstHeard heard call spec.commandId) ∧ issued.command = spec.commandId.toNat

/-- On the way out of the loop. -/
structure Ended (outcome : CollectOutcome) : Prop where
  order : attempts.map Attempt.spec <+: specs
  complete : outcome = .returned → attempts.map Attempt.spec = specs ∨
    trailingFailures attempts = maxConsecutiveFailures

inductive Stage : Prop where
  | between (idle : c.pc.idle = true)
      (handle : c.pc.ready = true → c.session.txHandle.isSome = true)
      (holds : Between specs c heard attempts)
  | sending (spec : CommandSpec) (call : Nat) (here : c.pc = .sending spec call)
      (holds : Sending specs c heard attempts spec call)
  | ended (outcome : CollectOutcome) (here : c.pc.outcome = some outcome)
      (holds : Ended specs attempts outcome)

/-- Some attempts account for the state. -/
def Accounted : Prop :=
  ∃ attempts, Account c heard attempts ∧ Stage specs c heard attempts

variable {specs c heard attempts}

theorem Account.of_same {d : Collector} (h : Account c heard attempts)
    (results : d.results = c.results)
    (failures : d.consecutiveFailures = c.consecutiveFailures) : Account d heard attempts :=
  ⟨results.trans h.results, failures.trans h.failures, h.persists, h.answered⟩

/-- What comes in later belongs to a later call. -/
theorem Account.hears (h : Account c heard attempts) {more : List (Nat × Reply)}
    (later : ∀ e ∈ more, attempts.length ≤ e.1) : Account c (heard ++ more) attempts := by
  refine ⟨h.results, h.failures, h.persists, fun i attempt payload listed ok => ?_⟩
  have inside : i < attempts.length := (List.getElem?_eq_some_iff.mp listed).1
  rw [firstHeard_other fun e member => by have bound := later e member; omega]
  exact h.answered i attempt payload listed ok

theorem close_account (outcome : CollectOutcome) (account : Account c heard attempts)
    (ended : Ended specs attempts outcome) : Accounted specs (c.close outcome) heard := by
  refine ⟨attempts, ?_, .ended outcome ?_ ended⟩
  · unfold Collector.close
    split
    · exact account.of_same rfl rfl
    · dsimp only
      split <;> exact account.of_same rfl rfl
  · unfold Collector.close
    split
    · rfl
    · dsimp only
      split <;> rfl

/-- Recording an attempt. -/
theorem Account.snoc (account : Account c heard attempts)
    (below : trailingFailures attempts < maxConsecutiveFailures) (attempt : Attempt)
    (answered : ∀ payload, attempt.answer = .ok payload →
      firstHeard heard attempts.length attempt.spec.commandId = some payload) {d : Collector}
    (results : d.results = store c.results attempt.entry.1 attempt.entry.2)
    (failures : d.consecutiveFailures =
      if attempt.failed then c.consecutiveFailures + 1 else 0) :
    Account d heard (attempts ++ [attempt]) := by
  refine ⟨?_, ?_, fun earlier isPrefix other => ?_, fun i other payload listed ok => ?_⟩
  · rw [results, account.results, List.map_append, List.map_singleton, stored_snoc]
  · rw [failures, account.failures, trailingFailures_snoc]
  · rcases List.prefix_concat_iff.mp isPrefix with same | before
    · exact absurd same other
    · by_cases whole : earlier = attempts
      · rw [whole]
        exact below
      · exact account.persists earlier before whole
  · rcases Nat.lt_trichotomy i attempts.length with before | here | after
    · rw [List.getElem?_append_left before] at listed
      exact account.answered i other payload listed ok
    · subst here
      rw [List.getElem?_concat_length] at listed
      obtain rfl := Option.some.inj listed
      exact answered payload ok
    · rw [List.getElem?_eq_none (by simp; omega)] at listed
      cases listed

section Task

variable {spec : CommandSpec} {call : Nat}

theorem afterCommand_account (account : Account c heard attempts)
    (order : specs = attempts.map Attempt.spec ++ spec :: c.remaining)
    (count : c.session.calls.length = attempts.length + 1)
    (below : trailingFailures attempts < maxConsecutiveFailures) (queues : Queues c.session)
    (idle : OnlyQueued c.session none) (handle : c.session.txHandle.isSome = true)
    (heardBefore : ∀ e ∈ heard, e.1 < attempts.length + 1) (answer : Except String Bytes)
    (answered : ∀ payload, answer = .ok payload →
      firstHeard heard attempts.length spec.commandId = some payload) :
    Accounted specs (c.afterCommand spec answer) heard := by
  have order' : specs =
      (attempts ++ [Attempt.mk spec answer]).map Attempt.spec ++ c.remaining := by
    rw [order, List.map_append, List.map_singleton, List.append_assoc]
    rfl
  have streak := trailingFailures_snoc attempts ⟨spec, answer⟩
  unfold Collector.afterCommand
  cases evaluated : Collector.evaluate spec answer with
  | mk entry failed =>
    dsimp only
    have flag : (Attempt.mk spec answer).failed = failed := by
      rw [Attempt.failed, evaluated]
    have written : (Attempt.mk spec answer).entry = (spec.key, entry) := by
      rw [Attempt.entry, evaluated]
    let next : Collector := { c with
      results := store c.results spec.key entry
      consecutiveFailures := if failed then c.consecutiveFailures + 1 else 0 }
    have extended : Account next heard (attempts ++ [⟨spec, answer⟩]) :=
      account.snoc below ⟨spec, answer⟩ answered (by rw [written]) (by rw [flag])
    by_cases stops : next.consecutiveFailures ≥ maxConsecutiveFailures
    · rw [if_pos stops]
      refine close_account .returned extended ⟨⟨_, order'.symm⟩, fun _ => .inr ?_⟩
      rw [extended.failures] at stops
      rw [flag] at streak
      have upper : trailingFailures (attempts ++ [⟨spec, answer⟩]) ≤ maxConsecutiveFailures := by
        rw [streak]
        split <;> omega
      omega
    · rw [if_neg stops]
      rw [extended.failures] at stops
      have account' : Account { next with pc := .sleeping } heard
          (attempts ++ [⟨spec, answer⟩]) := extended.of_same rfl rfl
      refine ⟨attempts ++ [⟨spec, answer⟩], account',
        .between rfl (fun _ => handle) ⟨order', ?_, ?_, queues, idle, ?_⟩⟩
      · rw [List.length_append, List.length_singleton]
        exact count
      · exact Nat.lt_of_not_le stops
      · rw [List.length_append, List.length_singleton]
        exact heardBefore

/-- The task goes on, or stays in its call. -/
theorem settle_account (account : Account c heard attempts)
    (order : specs = attempts.map Attempt.spec ++ spec :: c.remaining)
    (count : c.session.calls.length = attempts.length + 1) (number : call = attempts.length)
    (below : trailingFailures attempts < maxConsecutiveFailures) (queues : Queues c.session)
    (only : OnlyQueued c.session (some call)) (handle : c.session.txHandle.isSome = true)
    (heardBefore : ∀ e ∈ heard, e.1 < attempts.length + 1) {issued : Call}
    (here : c.session.calls[call]? = some issued)
    (command : issued.command = spec.commandId.toNat)
    (answered : ∀ payload, issued.future = .result payload →
      firstHeard heard call spec.commandId = some payload)
    (returned : ∀ payload, issued.pc = .returned payload → issued.future = .result payload)
    (built : ∀ error, issued.pc ≠ .raised (.cannotBuild error))
    (listens : (∃ error, issued.pc = .raised error) ∨
      Listening c.session call issued (firstHeard heard call spec.commandId))
    (message : String) : Accounted specs (c.settle spec call message) heard := by
  subst number
  have stays : Accounted specs { c with pc := .sending spec attempts.length } heard ∨
      ∃ error, issued.pc = .raised error := by
    rcases listens with raised | listening
    · exact .inr raised
    · exact .inl ⟨attempts, account.of_same rfl rfl, .sending spec attempts.length rfl
        ⟨order, count, rfl, below, queues, only, heardBefore, handle,
          ⟨issued, listening, command⟩⟩⟩
  unfold Collector.settle
  rw [here, Option.map_some]
  cases pc : issued.pc with
  | returned payload =>
    have idle : OnlyQueued c.session none := by
      apply onlyQueued_of_ended queues only here
      · simp [Call.live, pc, CallPc.awaits]
      · simp [Call.stale, pc]
    refine afterCommand_account account order count below queues idle handle heardBefore _ ?_
    intro other same
    obtain rfl := Except.ok.inj same
    exact answered _ (returned _ pc)
  | raised error =>
    by_cases cancelled : error = .cancelled
    · subst cancelled
      exact close_account .cancelled account
        ⟨⟨spec :: c.remaining, order.symm⟩, fun returns => by cases returns⟩
    · have idle : OnlyQueued c.session none := by
        apply onlyQueued_of_ended queues only here
        · simp [Call.live, pc, CallPc.awaits]
        · cases error with
          | cannotBuild error => exact absurd pc (built error)
          | cancelled => exact absurd rfl cancelled
          | writeFailed | timedOut | failed _ => simp [Call.stale, pc]
      have recorded := afterCommand_account account order count below queues idle handle
        heardBefore (.error (errorText spec message error)) fun other same => by cases same
      cases error with
      | cancelled => exact absurd rfl cancelled
      | cannotBuild _ | writeFailed | timedOut | failed _ => exact recorded
  | writing _ | waiting | expired | cancelling =>
    rcases stays with here | ⟨error, raised⟩
    · exact here
    · rw [pc] at raised
      cases raised

/-- The next command is issued, or the loop is over. -/
theorem nextCommand_account (account : Account c heard attempts)
    (between : Between specs c heard attempts) (handle : c.session.txHandle.isSome = true) :
    Accounted specs c.nextCommand heard := by
  unfold Collector.nextCommand
  cases remaining : c.remaining with
  | nil =>
    have order : attempts.map Attempt.spec = specs := by
      rw [between.order, remaining, List.append_nil]
    exact close_account .returned account ⟨order ▸ List.prefix_rfl, fun _ => .inl order⟩
  | cons spec rest =>
    obtain ⟨tx, known⟩ := Option.isSome_iff_exists.mp handle
    have fits : Fits spec.commandId.toNat ([] : Bytes) := by
      have bound := UInt8.toNat_lt spec.commandId
      refine ⟨⟨by omega, by omega⟩, Nat.zero_le _⟩
    have frame := createCommandFrame_eq_frameOf spec.commandId.toNat (some [])
    rw [Option.getD_some, if_pos fits] at frame
    have sent : c.session.sendCommand spec.commandId.toNat [] =
        { c.session.setQueue spec.commandId.toNat
            (c.session.pending spec.commandId.toNat ++ [c.session.calls.length]) with
          calls := c.session.calls ++ [⟨spec.commandId.toNat, .pending,
            .writing (frameOf (UInt8.ofNat (spec.commandId.toNat : Int).toNat) [])⟩] } := by
      simp only [BLEDeviceSession.sendCommand, known, frame]
    have empty : ∀ command, c.session.pending command = [] := by
      intro command
      rw [List.eq_nil_iff_forall_not_mem]
      intro i member
      cases between.idle command i member
    have silent : firstHeard heard c.session.calls.length spec.commandId = none := by
      have none_ : firstHeard [] c.session.calls.length spec.commandId = none := rfl
      rw [← none_, ← List.nil_append heard, firstHeard_other]
      intro e member
      have bound := between.heardBefore e member
      rw [between.count]
      omega
    have queued := queues_sendCommand between.queues spec.commandId.toNat []
    have here : (c.session.sendCommand spec.commandId.toNat []).calls[c.session.calls.length]? =
        some ⟨spec.commandId.toNat, .pending,
          .writing (frameOf (UInt8.ofNat (spec.commandId.toNat : Int).toNat) [])⟩ := by
      rw [sent]
      simp
    have inside : c.session.calls.length ∈
        (c.session.sendCommand spec.commandId.toNat []).pending spec.commandId.toNat := by
      rw [sent]
      simp [BLEDeviceSession.setQueue]
    have only : OnlyQueued (c.session.sendCommand spec.commandId.toNat [])
        (some c.session.calls.length) := by
      intro command i member
      rw [sent] at member
      simp only [BLEDeviceSession.setQueue] at member
      by_cases same : command = spec.commandId.toNat
      · subst same
        rw [Function.update_self, empty] at member
        simpa [eq_comm] using member
      · rw [Function.update_of_ne same, empty] at member
        cases member
    simp only [known]
    refine settle_account (c := { c with
        remaining := rest, session := c.session.sendCommand spec.commandId.toNat [] })
      (account.of_same rfl rfl) ?_ ?_ between.count between.below queued only ?_ ?_ here rfl
      ?_ ?_ ?_ (.inr ⟨here, fun _ => ⟨inside, silent⟩, ?_⟩) ""
    · rw [between.order, remaining]
    · rw [sent]
      simp [between.count]
    · rw [sent]
      exact handle
    · intro e member
      have bound := between.heardBefore e member
      omega
    · intro payload result
      cases result
    · intro payload result
      cases result
    · intro error raised
      cases raised
    · intro payload result
      cases result

end Task

/-! ### One step -/

theorem Between.hears (h : Between specs c heard attempts) (data : Bytes) :
    Between specs { c with session := c.session.handleNotification data } heard attempts := by
  have same := handleNotification_of_idle h.idle data
  rw [same]
  exact ⟨h.order, h.count, h.below, h.queues.of_same rfl rfl, h.idle, h.heardBefore⟩

theorem Sending.hears {spec : CommandSpec} {call : Nat}
    (h : Sending specs c heard attempts spec call) (data : Bytes) :
    Sending specs { c with session := c.session.handleNotification data }
      (heard ++ (completed c.session data).map fun r => (call, r)) attempts spec call := by
  obtain ⟨issued, listening, command⟩ := h.listening
  have fed : Listening (c.session.fed data) call issued
      (firstHeard heard call spec.commandId) :=
    ⟨listening.issued, listening.open_, listening.answered⟩
  have queues : Queues (c.session.fed data) := h.queues.of_same rfl rfl
  obtain ⟨last, later, sameCommand, _⟩ :=
    fed.handleReplies (completed c.session data) queues h.only
  refine ⟨h.order, ?_, h.number, h.below, ?_, ?_, ?_, ?_, last, ?_, ?_⟩
  · show (c.session.handleNotification data).calls.length = _
    rw [handleNotification_eq, length_handleReplies]
    exact h.count
  · show Queues (c.session.handleNotification data)
    rw [handleNotification_eq]
    exact (queues_replies queues (completed c.session data)).final (run_replies _ _)
  · show OnlyQueued (c.session.handleNotification data) _
    rw [handleNotification_eq]
    exact onlyQueued_replies _ h.only
  · intro e member
    rcases List.mem_append.mp member with earlier | new
    · exact h.heardBefore e earlier
    · obtain ⟨r, _, rfl⟩ := List.mem_map.mp new
      rw [h.number]
      exact Nat.lt_succ_self _
  · show (c.session.handleNotification data).txHandle.isSome = true
    rw [txHandle_handleNotification]
    exact h.handle
  · show Listening (c.session.handleNotification data) call last _
    rw [handleNotification_eq, firstHeard_append]
    rw [command] at later
    exact later
  · exact sameCommand.trans command

theorem heardDuring_eq_nil (quiet : c.pc.idle = true ∨ c.pc.outcome.isSome = true)
    (e : CollectEvent) : heardDuring c e = [] := by
  unfold heardDuring
  cases pc : c.pc with
  | sending spec call =>
    rw [pc] at quiet
    rcases quiet with idle | out
    · cases idle
    · cases out
  | _ => rfl

theorem heardDuring_of_quiet {e : CollectEvent} (quiet : ∀ data, e ≠ .notification data) :
    heardDuring c e = [] := by
  unfold heardDuring
  split
  · exact absurd rfl (quiet _)
  · rfl

theorem hears_account {data : Bytes} (h : Accounted specs c heard) :
    Accounted specs { c with session := c.session.handleNotification data }
      (heard ++ heardDuring c (.notification data)) := by
  obtain ⟨attempts, account, stage⟩ := h
  cases stage with
  | between idle handle holds =>
    rw [heardDuring_eq_nil (.inl idle), List.append_nil]
    refine ⟨attempts, account.of_same rfl rfl, .between idle (fun ready => ?_) (holds.hears data)⟩
    show (c.session.handleNotification data).txHandle.isSome = true
    rw [txHandle_handleNotification]
    exact handle ready
  | sending spec call here holds =>
    have log : heardDuring c (.notification data) =
        (completed c.session data).map fun r => (call, r) := by
      simp only [heardDuring, here]
    rw [log]
    refine ⟨attempts, (account.hears fun e member => ?_).of_same rfl rfl,
      .sending spec call here (holds.hears data)⟩
    obtain ⟨r, _, rfl⟩ := List.mem_map.mp member
    exact holds.number ▸ Nat.le_refl _
  | ended outcome here holds =>
    rw [heardDuring_eq_nil (.inr (by rw [here]; rfl)), List.append_nil]
    exact ⟨attempts, account.of_same rfl rfl, .ended outcome here holds⟩

/-- A step that only moves the task between two commands. -/
theorem Between.of_same {d : Collector} (h : Between specs c heard attempts)
    (remaining : d.remaining = c.remaining) (calls : d.session.calls = c.session.calls)
    (pending : d.session.pending = c.session.pending) : Between specs d heard attempts := by
  refine ⟨?_, ?_, h.below, h.queues.of_same pending calls, ?_, h.heardBefore⟩
  · rw [remaining]
    exact h.order
  · rw [calls]
    exact h.count
  · intro command i member
    rw [pending] at member
    exact h.idle command i member

theorem Between.ended (h : Between specs c heard attempts) {outcome : CollectOutcome}
    (other : outcome ≠ .returned) : Ended specs attempts outcome :=
  ⟨⟨c.remaining, h.order.symm⟩, fun same => absurd same other⟩

theorem moves_account {spec : CommandSpec} {call : Nat} {move : CallMove} {message : String}
    {session : BLEDeviceSession} (account : Account c heard attempts)
    (sending : Sending specs c heard attempts spec call)
    (moves : c.session.moveCall call move = some session) :
    Accounted specs (Collector.settle { c with session } spec call message) heard := by
  obtain ⟨issued, listening, command⟩ := sending.listening
  obtain ⟨next, here, sameCommand, answered, returned, built, listens⟩ := listening.moveCall moves
  obtain ⟨_, handle, length⟩ := moveCall_fields moves
  refine settle_account (c := { c with session }) (account.of_same rfl rfl) sending.order ?_
    sending.number sending.below (queues_moveCall sending.queues moves)
    (onlyQueued_moveCall sending.only moves) ?_ sending.heardBefore here
    (sameCommand.trans command) answered returned built listens message
  · exact length.trans sending.count
  · show session.txHandle.isSome = true
    rw [handle]
    exact sending.handle

/-- What a step does, by where the task is. -/
theorem collectStep_account {d : Collector} {e : CollectEvent}
    (quiet : ∀ data, e ≠ .notification data) (h : Accounted specs c heard)
    (next : collectStep strings label c e = some d) : Accounted specs d heard := by
  obtain ⟨attempts, account, stage⟩ := h
  have between : ∀ pc, c.pc = pc → pc.idle = true →
      Between specs c heard attempts ∧ (pc.ready = true → c.session.txHandle.isSome = true) := by
    intro pc here idle
    cases stage with
    | between _ handle holds => exact ⟨holds, fun ready => handle (here ▸ ready)⟩
    | sending spec call other _ =>
      rw [← here, other] at idle
      cases idle
    | ended outcome out _ =>
      rw [here, CollectPc.outcome_of_idle idle] at out
      cases out
  have ended : ∀ outcome, c.pc.outcome = some outcome → Ended specs attempts outcome := by
    intro outcome out
    cases stage with
    | between idle _ _ =>
      rw [CollectPc.outcome_of_idle idle] at out
      cases out
    | sending spec call other _ =>
      rw [other] at out
      cases out
    | ended found here holds =>
      obtain rfl : found = outcome := Option.some.inj (here.symm.trans out)
      exact holds
  cases e with
  | connectReturns =>
    simp only [collectStep] at next
    split at next
    · rename_i here
      obtain rfl := Option.some.inj next
      obtain ⟨holds, _⟩ := between _ here rfl
      exact ⟨attempts, account.of_same rfl rfl,
        .between rfl (fun ready => by cases ready) (holds.of_same rfl rfl rfl)⟩
    · cases next
  | stateReported connected errorText =>
    simp only [collectStep] at next
    split at next
    · rename_i here
      obtain ⟨holds, _⟩ := between _ here rfl
      split at next
      · obtain rfl := Option.some.inj next
        exact ⟨attempts, account.of_same rfl rfl,
          .between rfl (fun ready => by cases ready) (holds.of_same rfl rfl rfl)⟩
      · obtain rfl := Option.some.inj next
        exact close_account _ account (holds.ended fun same => by cases same)
    · cases next
  | servicesReturn services =>
    simp only [collectStep] at next
    split at next
    · rename_i here
      obtain ⟨holds, _⟩ := between _ here rfl
      split at next
      · obtain rfl := Option.some.inj next
        exact ⟨attempts, account.of_same rfl rfl,
          .between rfl (fun _ => rfl) (holds.of_same rfl rfl rfl)⟩
      · obtain rfl := Option.some.inj next
        exact close_account _ account (holds.ended fun same => by cases same)
    · cases next
  | notifyStarts =>
    simp only [collectStep] at next
    split at next
    · rename_i here
      obtain rfl := Option.some.inj next
      obtain ⟨holds, handle⟩ := between _ here rfl
      exact nextCommand_account (c := { c with notifying := true }) (account.of_same rfl rfl)
        (holds.of_same rfl rfl rfl) (handle rfl)
    · cases next
  | connectRaises message =>
    simp only [collectStep] at next
    split at next
    · rename_i calls
      obtain rfl := Option.some.inj next
      have idle : c.pc.idle = true := by
        cases pc : c.pc <;> rw [pc] at calls <;> first | rfl | cases calls
      obtain ⟨holds, _⟩ := between _ rfl idle
      exact close_account _ account (holds.ended fun same => by cases same)
    · cases next
  | moves move message =>
    simp only [collectStep] at next
    split at next
    · rename_i spec call here
      obtain ⟨session, moved, rfl⟩ := Option.map_eq_some_iff.mp next
      cases stage with
      | between idle _ _ =>
        rw [here] at idle
        cases idle
      | sending spec' call' other holds =>
        rw [here] at other
        obtain ⟨rfl, rfl⟩ := CollectPc.sending.inj other
        exact moves_account account holds moved
      | ended outcome out _ =>
        rw [here] at out
        cases out
    · cases next
  | wakes =>
    simp only [collectStep] at next
    split at next
    · rename_i here
      obtain rfl := Option.some.inj next
      obtain ⟨holds, handle⟩ := between _ here rfl
      exact nextCommand_account account holds (handle rfl)
    · cases next
  | cancel =>
    have closes : c.pc.idle = true → d = c.close .cancelled → Accounted specs d heard := by
      rintro idle rfl
      obtain ⟨holds, _⟩ := between _ rfl idle
      exact close_account _ account (holds.ended fun same => by cases same)
    have stops : ∀ outcome, c.pc.outcome = some outcome →
        d = { c with pc := .finished .cancelled } → Accounted specs d heard := by
      rintro outcome out rfl
      have order := (ended outcome out).order
      exact ⟨attempts, account.of_same rfl rfl,
        .ended .cancelled rfl ⟨order, fun same => by cases same⟩⟩
    simp only [collectStep] at next
    split at next
    · cases next
    · cases next
    · rename_i outcome here
      exact stops outcome (by rw [here]; rfl) (Option.some.inj next).symm
    · rename_i outcome here
      exact stops outcome (by rw [here]; rfl) (Option.some.inj next).symm
    · refine closes ?_ (Option.some.inj next).symm
      cases pc : c.pc <;> simp_all [CollectPc.idle]
  | notifyStopped =>
    simp only [collectStep] at next
    split at next
    · rename_i outcome here
      obtain rfl := Option.some.inj next
      exact ⟨attempts, account.of_same rfl rfl,
        .ended outcome rfl (ended outcome (by rw [here]; rfl))⟩
    · cases next
  | disconnectEnds =>
    simp only [collectStep] at next
    split at next
    · rename_i outcome here
      obtain rfl := Option.some.inj next
      exact ⟨attempts, account.of_same rfl rfl,
        .ended outcome rfl (ended outcome (by rw [here]; rfl))⟩
    · cases next
  | disconnectRaises message =>
    simp only [collectStep] at next
    split at next
    · rename_i outcome here
      obtain rfl := Option.some.inj next
      have order := (ended outcome (by rw [here]; rfl)).order
      exact ⟨attempts, account.of_same rfl rfl,
        .ended (.raised message) rfl ⟨order, fun same => by cases same⟩⟩
    · cases next
  | notification data => exact absurd rfl (quiet data)

theorem watchStep_account {w v : Watched} {e : CollectEvent}
    (h : Accounted specs w.collector w.heard) (next : watchStep strings label w e = some v) :
    Accounted specs v.collector v.heard := by
  obtain ⟨d, moved, rfl⟩ := Option.map_eq_some_iff.mp next
  by_cases loud : ∃ data, e = .notification data
  · obtain ⟨data, rfl⟩ := loud
    obtain rfl := Option.some.inj moved
    exact hears_account h
  · have quiet : ∀ data, e ≠ .notification data := fun data same => loud ⟨data, same⟩
    rw [heardDuring_of_quiet quiet, List.append_nil]
    exact collectStep_account strings label quiet h moved

theorem start_account (specs : List CommandSpec) :
    Accounted specs (Watched.start specs).collector (Watched.start specs).heard := by
  refine ⟨[], ⟨rfl, rfl, fun earlier before other => ?_, fun i attempt payload listed => ?_⟩,
    .between rfl (fun ready => by cases ready) ⟨rfl, rfl, by decide, queues_start, ?_, ?_⟩⟩
  · exact absurd (List.prefix_nil.mp before) other
  · cases listed
  · intro command i member
    cases member
  · intro e member
    cases member

/-! ### Every run -/

variable (specs)

theorem runs_accounted (events : List CollectEvent) :
    States (watchStep strings label) (fun w => Accounted specs w.collector w.heard)
      (Watched.start specs) events :=
  states_of_invariant (fun _ _ _ h next => watchStep_account strings label h next)
    (start_account specs) events

/-- Every result is what the parser of its command makes of the first reply with the
command's byte that came in during the call for it, or an error. -/
def Attributed (w : Watched) : Prop :=
  ∀ key metric, (key, metric) ∈ w.collector.results →
    ∃ i spec, specs[i]? = some spec ∧ spec.key = key ∧
      ((∃ payload, firstHeard w.heard i spec.commandId = some payload ∧
        spec.parser payload = .ok metric) ∨ ∃ message, metric = errorEntry message)

/-- The results are those of the commands so far, in order; a third failure in a row is
the last one, and without it a collection that returns has read every command. -/
def StopsAtThird (w : Watched) : Prop :=
  ∃ attempts : List Attempt, attempts.map Attempt.spec <+: specs ∧
    w.collector.results = attempts.map Attempt.entry ∧
    (∀ earlier, earlier <+: attempts → earlier ≠ attempts →
      trailingFailures earlier < maxConsecutiveFailures) ∧
    (w.collector.pc.outcome = some .returned → attempts.map Attempt.spec = specs ∨
      trailingFailures attempts = maxConsecutiveFailures)

variable {specs}

theorem Stage.prefix_specs (h : Stage specs c heard attempts) :
    attempts.map Attempt.spec <+: specs := by
  cases h with
  | between _ _ holds => exact ⟨_, holds.order.symm⟩
  | sending _ _ _ holds => exact ⟨_, holds.order.symm⟩
  | ended _ _ holds => exact holds.order

theorem Accounted.attributed {w : Watched} (h : Accounted specs w.collector w.heard) :
    Attributed specs w := by
  obtain ⟨attempts, account, stage⟩ := h
  intro key metric listed
  rw [account.results, mem_stored_iff] at listed
  obtain ⟨attempt, member, same⟩ := List.mem_map.mp (mem_of_latest listed)
  obtain ⟨i, found⟩ := List.mem_iff_getElem?.mp member
  obtain ⟨rfl, rfl⟩ := Prod.mk.inj same
  have place : specs[i]? = some attempt.spec := by
    have inside : i < (attempts.map Attempt.spec).length := by
      rw [List.length_map]
      exact (List.getElem?_eq_some_iff.mp found).1
    obtain ⟨rest, whole⟩ := stage.prefix_specs
    rw [← whole, List.getElem?_append_left inside, List.getElem?_map, found, Option.map_some]
  refine ⟨i, attempt.spec, place, rfl, ?_⟩
  cases answer : attempt.answer with
  | error message => exact .inr ⟨message, by rw [Collector.evaluate]⟩
  | ok payload =>
    cases parsed : attempt.spec.parser payload with
    | ok metric =>
      exact .inl ⟨payload, account.answered i attempt payload found answer,
        by rw [parsed]; simp only [Collector.evaluate, parsed]⟩
    | error error => exact .inr ⟨error.message, by simp only [Collector.evaluate, parsed]⟩

theorem Accounted.stopsAtThird {w : Watched} (once : (specs.map CommandSpec.key).Nodup)
    (h : Accounted specs w.collector w.heard) : StopsAtThird specs w := by
  obtain ⟨attempts, account, stage⟩ := h
  have keys : (attempts.map Attempt.entry).map Prod.fst =
      (attempts.map Attempt.spec).map CommandSpec.key := by
    rw [List.map_map, List.map_map]
    rfl
  have distinct : ((attempts.map Attempt.entry).map Prod.fst).Nodup := by
    rw [keys]
    exact once.sublist (stage.prefix_specs.sublist.map _)
  refine ⟨attempts, stage.prefix_specs, ?_, account.persists, fun out => ?_⟩
  · rw [account.results, stored_of_nodup distinct]
  · cases stage with
    | between idle _ _ =>
      rw [CollectPc.outcome_of_idle idle] at out
      cases out
    | sending spec call here _ =>
      rw [here] at out
      cases out
    | ended outcome here holds =>
      obtain rfl : outcome = .returned := Option.some.inj (here.symm.trans out)
      exact holds.complete rfl

/-- Whatever arrives, and whenever it does: no reply is reported under a command it does
not answer, and none that came before its command was issued. -/
theorem results_attributed (events : List CollectEvent) :
    States (watchStep strings label) (Attributed (safeCommands strings))
      (Watched.start (safeCommands strings)) events :=
  (runs_accounted strings label (safeCommands strings) events).mono fun _ => Accounted.attributed

theorem collection_stops_at_third (events : List CollectEvent) :
    States (watchStep strings label) (StopsAtThird (safeCommands strings))
      (Watched.start (safeCommands strings)) events := by
  have once : ((safeCommands strings).map CommandSpec.key).Nodup := by
    simp [safeCommands]
  refine (runs_accounted strings label (safeCommands strings) events).mono fun _ accounted => ?_
  exact accounted.stopsAtThird once

end MarstekBle.Standalone
