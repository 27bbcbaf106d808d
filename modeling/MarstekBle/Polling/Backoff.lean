/- module: Polling/Backoff
   source: custom_components/marstek_ble/coordinator.py
   digest: The backoff that all coordinators of a process share. -/

import Mathlib.Logic.Function.Basic
import MarstekBle.Lib.GuardedRun
import MarstekBle.Polling.Turns

/-!
Any number of config entries live in one process, each with its coordinators and polls,
and the module's backoff level and deadline are common to all of them. Beside every
poll a log of the outcomes of its own commands is kept, which the code does not have.
-/

set_option autoImplicit false
set_option relaxedAutoImplicit false

namespace MarstekBle.Polling

open MarstekBle.Data MarstekBle.Product MarstekBle.Lib.GuardedRun

variable {s t : State} {e : Event}

/-! ### Logs of single polls -/

/-- The outcome of a command goes into the log of the poll that awaited it. -/
def note (e : Event) (logs : List (List Bool)) : List (List Bool) :=
  match e with
  | .commandEnds position success _ => logs.modify position (· ++ [success])
  | _ => logs

/-- The logs after an event: a queued poll begins an empty one, a poll that is gone
takes its log with it. -/
def record (s : State) (e : Event) (t : State) (logs : List (List Bool)) : List (List Bool) :=
  if s.polls.length < t.polls.length then note e logs ++ [[]]
  else if t.polls.length < s.polls.length then
    e.position.elim (note e logs) (note e logs).eraseIdx
  else note e logs

/-- A command in the log of the poll at a position failed. -/
def ownFailure (logs : List (List Bool)) (position : Nat) : Bool :=
  (logs[position]?.getD []).any (!·)

/-- A poll that was not skipped ends in the event: whether a command of its own
failed, and when it ends. -/
def completion (s : State) (e : Event) (t : State) (logs : List (List Bool)) :
    Option (Bool × ℚ) :=
  match e with
  | .pollStarts position now =>
    if t.polls.length < s.polls.length ∧ backoffActive s now = false then
      some (ownFailure (note e logs) position, now)
    else none
  | .commandEnds position _ now =>
    if t.polls.length < s.polls.length then some (ownFailure (note e logs) position, now)
    else none
  | _ => none

/-- The outcomes a poll's coordinator has recorded, once the poll has had its turn. -/
def State.logOf (s : State) (poll : Poll) : List Bool :=
  if poll.pc.active then (s.book poll.coordinator).map Prod.snd else []

/-- Polls of known coordinators, one of each at a time outside the queue, and the
log of every poll is what its coordinator has recorded. -/
structure Booked (s : State) (logs : List (List Bool)) : Prop where
  known : ∀ poll ∈ s.polls, poll.coordinator < s.coordinators.length
  exclusive : Exclusive s.polls
  own : logs = s.polls.map s.logOf

theorem note_of_other (other : e.position = none) (logs : List (List Bool)) :
    note e logs = logs := by
  cases e with
  | commandEnds position success now => cases other
  | _ => rfl

theorem completion_of_other (other : e.position = none) (logs : List (List Bool)) :
    completion s e t logs = none := by
  cases e with
  | pollStarts position now => cases other
  | commandEnds position success now => cases other
  | _ => rfl

theorem nextInLine_iff {position c : Nat} : nextInLine s position c = true ↔
    ∀ i < position, ∀ other, s.polls[i]? = some other → other.coordinator ≠ c := by
  simp only [nextInLine, List.all_eq_true, List.mem_iff_getElem?, List.getElem?_take,
    decide_eq_true_eq]
  constructor
  · intro all i before other there
    exact all other ⟨i, by simp [before, there]⟩
  · rintro first other ⟨i, there⟩
    split at there
    · exact first i ‹_› other there
    · cases there

/-- Around a poll that is first in its line, every other poll past the queue is of
another coordinator. -/
theorem ne_of_first {position c j : Nat} {pc : PollPc} {other : Poll}
    (exclusive : Exclusive s.polls) (here : s.polls[position]? = some ⟨c, pc⟩)
    (first : nextInLine s position c = true) (there : s.polls[j]? = some other)
    (active : other.pc.active = true) (apart : j ≠ position) : other.coordinator ≠ c := by
  rcases Nat.lt_or_gt_of_ne apart with before | after
  · exact nextInLine_iff.mp first j before other there
  · obtain ⟨inside, rfl⟩ := List.getElem?_eq_some_iff.mp there
    obtain ⟨known, own⟩ := List.getElem?_eq_some_iff.mp here
    have differ := List.pairwise_iff_getElem.mp exclusive position j known inside after active
    rw [own] at differ
    exact differ.symm

/-- A poll past the queue is the first in its line. -/
theorem first_of_active {position c : Nat} {pc : PollPc} (exclusive : Exclusive s.polls)
    (here : s.polls[position]? = some ⟨c, pc⟩) (active : pc.active = true) :
    nextInLine s position c = true := by
  refine nextInLine_iff.mpr fun i before other there => ?_
  obtain ⟨known, rfl⟩ := List.getElem?_eq_some_iff.mp there
  obtain ⟨inside, own⟩ := List.getElem?_eq_some_iff.mp here
  have differ := List.pairwise_iff_getElem.mp exclusive i position known inside before
  rw [own] at differ
  exact differ active

/-- A poll that is first in its line may leave the queue. -/
theorem exclusive_set {position c : Nat} {pc : PollPc} (exclusive : Exclusive s.polls)
    (here : s.polls[position]? = some ⟨c, pc⟩) (first : nextInLine s position c = true)
    (pc' : PollPc) : Exclusive (s.polls.set position ⟨c, pc'⟩) := by
  refine List.pairwise_iff_getElem.mpr fun i j hi hj before active => ?_
  rw [List.length_set] at hi hj
  rw [List.getElem_set] at active ⊢
  rw [List.getElem_set]
  have earlier : s.polls[i]? = some s.polls[i] := List.getElem?_eq_getElem hi
  have later : s.polls[j]? = some s.polls[j] := List.getElem?_eq_getElem hj
  by_cases own : position = j
  · subst own
    rw [if_pos rfl, if_neg (by omega)]
    exact nextInLine_iff.mp first i before _ earlier
  · rw [if_neg own] at active ⊢
    split
    · exact (ne_of_first exclusive here first later active (Ne.symm own)).symm
    · exact List.pairwise_iff_getElem.mp exclusive i j hi hj before active

theorem length_books (s : State) : s.books.length = s.coordinators.length := List.length_map _

/-- Where nothing but the books of one coordinator changed, the polls of the others
keep their logs. -/
theorem logs_prepared {r : State} {position c : Nat} {pc : PollPc}
    (exclusive : Exclusive s.polls) (here : s.polls[position]? = some ⟨c, pc⟩)
    (first : nextInLine s position c = true) (others : ∀ d, d ≠ c → r.book d = s.book d)
    (log : List Bool) :
    (s.polls.map s.logOf).set position log = (s.polls.map r.logOf).set position log := by
  apply List.ext_getElem?
  intro j
  rw [List.getElem?_set, List.getElem?_set, List.length_map, List.length_map]
  split
  · rfl
  · rename_i apart
    rw [List.getElem?_map, List.getElem?_map]
    cases there : s.polls[j]? with
    | none => rfl
    | some other =>
      simp only [Option.map_some, Option.some.injEq, State.logOf]
      split
      · rename_i active
        rw [others _ (ne_of_first exclusive here first there active (Ne.symm apart))]
      · rfl

/-! ### What an event leaves of the logs -/

theorem Booked.log {logs : List (List Bool)} (booked : Booked s logs) {position : Nat} {poll : Poll}
    (here : s.polls[position]? = some poll) : logs[position]? = some (s.logOf poll) := by
  rw [booked.own, List.getElem?_map, here]
  rfl

theorem logOf_congr (books : t.books = s.books) : t.logOf = s.logOf := by
  funext poll
  simp only [State.logOf, State.book, books]

theorem Booked.removed {logs : List (List Bool)} (booked : Booked s logs) (position : Nat) :
    Booked (removePoll s position) (logs.eraseIdx position) := by
  refine ⟨fun poll member => booked.known poll (List.mem_of_mem_eraseIdx member), ?_, ?_⟩
  · exact booked.exclusive.sublist (List.eraseIdx_sublist s.polls position)
  · rw [booked.own]
    exact List.eraseIdx_map s.logOf s.polls position

/-- A turn leaves the log of its poll behind only as long as the poll awaits a command. -/
theorem Turn.booked {r : State} {position c : Nat} {pc : PollPc} {now : ℚ}
    (turn : Turn r position c now t) (exclusive : Exclusive s.polls)
    (known : ∀ poll ∈ s.polls, poll.coordinator < s.coordinators.length)
    (polls : r.polls = s.polls) (more : r.books.length = s.books.length)
    (here : s.polls[position]? = some ⟨c, pc⟩) (first : nextInLine s position c = true)
    {logs : List (List Bool)}
    (own : logs = (s.polls.map r.logOf).set position ((r.book c).map Prod.snd)) :
    t.polls.length ≤ s.polls.length ∧
      Booked t (if t.polls.length < s.polls.length then logs.eraseIdx position else logs) := by
  have inside : position < s.polls.length := (List.getElem?_eq_some_iff.mp here).1
  cases turn with
  | @sends _ pc' awaits polls' _ books _ =>
    rw [polls] at polls'
    have length : t.polls.length = s.polls.length := by rw [polls', List.length_set]
    rw [if_neg (by omega)]
    refine ⟨by omega, fun poll member => ?_, ?_, ?_⟩
    · rw [← length_books, books, more, length_books]
      rcases List.mem_or_eq_of_mem_set (polls' ▸ member) with before | rfl
      · exact known poll before
      · exact known ⟨c, pc⟩ (List.mem_of_getElem? here)
    · rw [polls']
      exact exclusive_set exclusive here first pc'
    · rw [polls', List.map_set, own, logOf_congr books]
      simp only [State.logOf, awaits, if_true]
  | completes polls' _ books _ =>
    rw [polls] at polls'
    have length : t.polls.length + 1 = s.polls.length := by
      rw [polls', List.length_eraseIdx_of_lt inside]
      omega
    rw [if_pos (by omega)]
    refine ⟨by omega, fun poll member => ?_, ?_, ?_⟩
    · rw [← length_books, books, more, length_books]
      exact known poll (List.mem_of_mem_eraseIdx (polls' ▸ member))
    · rw [polls']
      exact exclusive.sublist (List.eraseIdx_sublist s.polls position)
    · rw [polls', own, List.eraseIdx_set_eq, logOf_congr books]
      exact List.eraseIdx_map _ _ position

theorem book_clearBook (s : State) (c d : Nat) :
    (clearBook s c).book d = if d = c then [] else s.book d := by
  have books : (clearBook s c).books = s.books.modify c fun _ => [] :=
    map_modifyCoordinator s c Coordinator.currentPollCommands (fun _ => []) fun _ => rfl
  rw [State.book, books, List.getElem?_modify, State.book]
  split
  · rename_i same
    rw [if_pos same.symm]
    cases s.books[d]? with
    | none => rfl
    | some book => rfl
  · rename_i apart
    rw [if_neg (Ne.symm apart)]
    simp

theorem book_recordCommand {c : Nat} (known : c < s.coordinators.length) (d : Nat)
    (command : PollCommand) (success : Bool) : (recordCommand s c command success).book d =
      if d = c then s.book c ++ [(command, success)] else s.book d := by
  have books : (recordCommand s c command success).books =
      s.books.modify c fun book => book ++ [(command, success)] :=
    map_modifyCoordinator s c Coordinator.currentPollCommands _ fun _ => rfl
  rw [State.book, books, List.getElem?_modify, State.book]
  split
  · rename_i same
    subst same
    have inside : c < s.books.length := (length_books s).symm ▸ known
    simp [List.getElem?_eq_getElem inside]
  · rename_i apart
    rw [if_neg (Ne.symm apart)]
    simp [State.book]

/-- A poll starts with an empty log, and its coordinator with empty books. -/
theorem logs_started {logs : List (List Bool)} (booked : Booked s logs) {position c : Nat}
    (queued : s.polls[position]? = some ⟨c, .queued⟩) (next : nextInLine s position c = true) :
    logs = (s.polls.map (clearBook s c).logOf).set position
      (((clearBook s c).book c).map Prod.snd) := by
  have others : ∀ d, d ≠ c → (clearBook s c).book d = s.book d := fun d apart => by
    rw [book_clearBook, if_neg apart]
  rw [← logs_prepared booked.exclusive queued next others, ← booked.own, book_clearBook,
    if_pos rfl]
  apply List.ext_getElem?
  intro j
  rw [List.getElem?_set]
  split
  · rename_i same
    subst same
    rw [booked.log queued]
    simp [State.logOf, PollPc.active, (List.getElem?_eq_some_iff.mp (booked.log queued)).1]
  · rfl

/-- A poll and its coordinator note the same outcome. -/
theorem logs_noted {logs : List (List Bool)} (booked : Booked s logs) {position c : Nat}
    {pc : PollPc} (awaits : s.polls[position]? = some ⟨c, pc⟩) (active : pc.active = true)
    (command : PollCommand) (success : Bool) :
    logs.modify position (· ++ [success]) =
      (s.polls.map (recordCommand s c command success).logOf).set position
        (((recordCommand s c command success).book c).map Prod.snd) := by
  have known := booked.known _ (List.mem_of_getElem? awaits)
  have others : ∀ d, d ≠ c → (recordCommand s c command success).book d = s.book d :=
    fun d apart => by rw [book_recordCommand known, if_neg apart]
  have first := first_of_active booked.exclusive awaits active
  rw [← logs_prepared booked.exclusive awaits first others, ← booked.own,
    book_recordCommand known, if_pos rfl]
  apply List.ext_getElem?
  intro j
  rw [List.getElem?_modify, List.getElem?_set]
  split
  · rename_i same
    subst same
    rw [booked.log awaits]
    simp [State.logOf, active, (List.getElem?_eq_some_iff.mp (booked.log awaits)).1]
  · simp

/-- The poll that completes in a turn moves the backoff by its own log. -/
theorem Turn.backoff {r : State} {position c : Nat} {now : ℚ} (turn : Turn r position c now t)
    (polls : r.polls = s.polls) (same : r.backoff = s.backoff) (inside : position < s.polls.length)
    {logs : List (List Bool)} (log : logs[position]? = some ((r.book c).map Prod.snd)) :
    t.backoff = if t.polls.length < s.polls.length then
      (handleBackoff s (ownFailure logs position) now).backoff else s.backoff := by
  have failing : ownFailure logs position = r.failing c := by
    simp only [ownFailure, log, State.failing, Option.getD_some, List.any_map]
    rfl
  cases turn with
  | sends _ polls' _ _ backoff =>
    have length : t.polls.length = s.polls.length := by rw [polls', List.length_set, polls]
    rw [if_neg (by omega), backoff, same]
  | completes polls' _ _ backoff =>
    have length : t.polls.length + 1 = s.polls.length := by
      rw [polls', List.length_eraseIdx_of_lt (polls ▸ inside), polls]
      omega
    rw [if_pos (by omega), backoff, failing]
    exact handleBackoff_congr same _ now

theorem Booked.apart {logs : List (List Bool)} (booked : Booked s logs) (same : SameBooks s t) :
    Booked t logs := by
  have grows : s.coordinators.length ≤ t.coordinators.length := by
    rw [← length_books, ← length_books]
    exact same.books.length_le
  refine ⟨fun poll member => ?_, same.polls ▸ booked.exclusive, ?_⟩
  · exact Nat.lt_of_lt_of_le (booked.known poll (same.polls ▸ member)) grows
  · rw [booked.own, same.polls]
    refine List.map_congr_left fun poll member => ?_
    have inside : poll.coordinator < s.books.length := (length_books s).symm ▸
      booked.known poll member
    obtain ⟨added, books⟩ := same.books
    simp only [State.logOf, State.book, ← books, List.getElem?_append_left inside]

theorem Booked.queued {logs : List (List Bool)} (booked : Booked s logs) {c : Nat}
    (known : c < s.coordinators.length) :
    Booked { s with polls := s.polls ++ [⟨c, .queued⟩] } (logs ++ [[]]) := by
  refine ⟨fun poll member => ?_, ?_, ?_⟩
  · rcases List.mem_append.mp member with before | fresh
    · exact booked.known poll before
    · obtain rfl := List.mem_singleton.mp fresh
      exact known
  · refine List.pairwise_append.mpr ⟨booked.exclusive, List.pairwise_singleton _ _, ?_⟩
    intro earlier _ later fresh active
    obtain rfl := List.mem_singleton.mp fresh
    cases active
  · rw [booked.own, List.map_append]
    rfl

theorem length_removePoll {position : Nat} (inside : position < s.polls.length) :
    (removePoll s position).polls.length < s.polls.length := by
  rw [removePoll, List.length_eraseIdx_of_lt inside]
  omega

/-- An event keeps the logs in step with the books. Where a poll completes in it, the
backoff moves by that poll's own log, and otherwise the backoff stays. -/
theorem step_of_effect {logs : List (List Bool)} (booked : Booked s logs)
    (effect : PollEffect s e t) :
    Booked t (record s e t logs) ∧
      t.backoff = (completion s e t logs).elim s.backoff fun done =>
        (handleBackoff s done.1 done.2).backoff := by
  cases effect with
  | apart other same =>
    rw [completion_of_other other]
    refine ⟨?_, same.backoff⟩
    simp only [record, same.polls, Nat.lt_irrefl, if_false, note_of_other other]
    exact booked.apart same
  | queues other known =>
    rw [completion_of_other other]
    refine ⟨?_, rfl⟩
    simp only [record, List.length_append, List.length_singleton, Nat.lt_succ_self, if_true,
      note_of_other other]
    exact booked.queued known
  | skips active inside =>
    have gone : (removePoll s _).polls.length < s.polls.length := length_removePoll inside
    refine ⟨?_, ?_⟩
    · rw [record, if_neg (by omega), if_pos gone]
      exact booked.removed _
    · simp [completion, active]
      rfl
  | @starts position c now inactive queued next t turn =>
    have inside : position < s.polls.length := (List.getElem?_eq_some_iff.mp queued).1
    have started := logs_started booked queued next
    have length : (clearBook s c).books.length = s.books.length := by
      simp [State.books, clearBook, State.modifyCoordinator]
    obtain ⟨shrinks, after⟩ :=
      turn.booked booked.exclusive booked.known rfl length queued next started
    refine ⟨?_, ?_⟩
    · rw [record, if_neg (by omega)]
      exact after
    · have log : logs[position]? = some (((clearBook s c).book c).map Prod.snd) := by
        rw [started]
        simp [inside]
      rw [turn.backoff (s := s) rfl rfl inside log]
      by_cases gone : t.polls.length < s.polls.length
      · simp [completion, inactive, gone, note]
      · simp [completion, gone]
  | @ends position c pc command success now active awaits t turn =>
    have inside : position < s.polls.length := (List.getElem?_eq_some_iff.mp awaits).1
    have first := first_of_active booked.exclusive awaits active
    have noted := logs_noted booked awaits active command success
    have length : (recordCommand s c command success).books.length = s.books.length := by
      simp [State.books, recordCommand, State.modifyCoordinator]
    obtain ⟨shrinks, after⟩ :=
      turn.booked booked.exclusive booked.known rfl length awaits first noted
    refine ⟨?_, ?_⟩
    · rw [record, if_neg (by omega)]
      exact after
    · have log : (logs.modify position (· ++ [success]))[position]? =
          some (((recordCommand s c command success).book c).map Prod.snd) := by
        rw [noted]
        simp [inside]
      rw [turn.backoff (s := s) rfl rfl inside log]
      by_cases gone : t.polls.length < s.polls.length
      · simp [completion, gone, note]
      · simp [completion, gone]
  | cancels inside =>
    have gone : (removePoll s _).polls.length < s.polls.length := length_removePoll inside
    refine ⟨?_, rfl⟩
    rw [record, if_neg (by omega), if_pos gone]
    exact booked.removed _

/-! ### All entries of a process -/

/-- The clock reading at which an event gives a poll its turn. -/
def Event.turnAt : Event → Option ℚ
  | .pollStarts _ now => some now
  | _ => none

/-- The config entries of one process, and the backoff of the module. -/
structure Fleet (ι : Type) where
  entries : ι → State
  level : Nat := 0
  deadline : Option ℚ := none

/-- An entry and the backoff as it is now. -/
def Fleet.view {ι : Type} (f : Fleet ι) (i : ι) : State :=
  { f.entries i with globalBackoffLevel := f.level, globalBackoffUntil := f.deadline }

/-- What is observed beside a fleet: the logs of all polls, the number of failing
completions since the last one that did not fail, and the time of the last completion. -/
structure Account (ι : Type) where
  fleet : Fleet ι
  logs : ι → List (List Bool)
  failures : Nat
  lastCompletion : ℚ

namespace Account

variable {ι : Type}

/-- The poll that completes in an event: whether it counts as failing, and when it ends. -/
def completion (a : Account ι) (event : ι × Event) (b : Account ι) : Option (Bool × ℚ) :=
  Polling.completion (a.fleet.view event.1) event.2 (b.fleet.entries event.1) (a.logs event.1)

/-- The account once an entry of the fleet is in a new state. -/
def after [DecidableEq ι] (a : Account ι) (event : ι × Event) (t : State) : Account ι :=
  let s := a.fleet.view event.1
  let completed := Polling.completion s event.2 t (a.logs event.1)
  { fleet := {
      entries := Function.update a.fleet.entries event.1 t
      level := t.globalBackoffLevel
      deadline := t.globalBackoffUntil }
    logs := Function.update a.logs event.1 (record s event.2 t (a.logs event.1))
    failures := completed.elim a.failures fun done => if done.1 then a.failures + 1 else 0
    lastCompletion := completed.elim a.lastCompletion Prod.snd }

/-- An event of one of the entries; all of them read and write the same backoff. -/
def step [DecidableEq ι] (entry : ι → Entry) (a : Account ι) (event : ι × Event) :
    Option (Account ι) :=
  if event.2.own then
    (Polling.step (entry event.1) (a.fleet.view event.1) event.2).map (a.after event)
  else none

/-- No entry is set up yet, and the backoff is cleared. -/
def initial (options : ι → Options) : Account ι :=
  { fleet := { entries := fun i => Polling.initial (options i) }
    logs := fun _ => []
    failures := 0
    lastCompletion := 0 }

/-- The backoff after a number of failing completions in a row, over all coordinators. -/
structure Escalated (a : Account ι) : Prop where
  level_lt : a.fleet.level < backoffIntervals.length
  deadline_iff : a.fleet.deadline.isSome = true ↔ 0 < a.fleet.level
  level : a.fleet.level = min a.failures (backoffIntervals.length - 1)
  deadline : a.fleet.deadline = if a.failures = 0 then none else
    some (a.lastCompletion + backoffIntervals.getD a.fleet.level 0)

/-- Only a completed poll moves the backoff, only one without a failed command clears
it, and a poll that gets its turn before the deadline sends nothing and changes no
coordinator. -/
structure Restrained (a : Account ι) (event : ι × Event) (b : Account ι) : Prop where
  held : a.completion event b = none →
    b.fleet.level = a.fleet.level ∧ b.fleet.deadline = a.fleet.deadline
  cleared : 0 < a.fleet.level → b.fleet.level = 0 →
    ∃ now, a.completion event b = some (false, now)
  skipped : ∀ now ∈ event.2.turnAt, ∀ deadline ∈ a.fleet.deadline, now < deadline → ∀ i,
      (b.fleet.entries i).sent = (a.fleet.entries i).sent ∧
      (b.fleet.entries i).coordinators = (a.fleet.entries i).coordinators

/-- No poll gets its turn at a negative clock reading while the deadline is 0.0. -/
def AfterEpoch (a : Account ι) (event : ι × Event) (_ : Account ι) : Prop :=
  ∀ now ∈ event.2.turnAt, a.fleet.deadline = some 0 → 0 ≤ now

instance (a : Account ι) (event : ι × Event) (b : Account ι) :
    Decidable (AfterEpoch a event b) :=
  inferInstanceAs (Decidable (∀ now ∈ event.2.turnAt, a.fleet.deadline = some 0 → 0 ≤ now))

/-- The level and the deadline after a number of failing completions in a row. -/
def escalation (failures : Nat) (lastCompletion : ℚ) : Nat × Option ℚ :=
  let level := min failures (backoffIntervals.length - 1)
  (level, if failures = 0 then none else some (lastCompletion + backoffIntervals.getD level 0))

/-- What every account of a run meets. -/
structure Kept (a : Account ι) : Prop where
  booked : ∀ i, Booked (a.fleet.view i) (a.logs i)
  backoff : (a.fleet.level, a.fleet.deadline) = escalation a.failures a.lastCompletion

theorem handleBackoff_escalates {s : State} {failures : Nat} {lastCompletion : ℚ}
    (held : s.backoff = escalation failures lastCompletion) (hadFailure : Bool) (now : ℚ) :
    (handleBackoff s hadFailure now).backoff =
      escalation (if hadFailure then failures + 1 else 0) now := by
  have level : s.globalBackoffLevel = min failures (backoffIntervals.length - 1) :=
    congrArg Prod.fst held
  cases hadFailure with
  | true =>
    have raised : (if s.globalBackoffLevel < backoffIntervals.length - 1
        then s.globalBackoffLevel + 1 else s.globalBackoffLevel) =
          min (failures + 1) (backoffIntervals.length - 1) := by
      rw [level]
      split <;> omega
    simp only [handleBackoff, if_true, State.backoff, raised, escalation]
    rw [if_neg (Nat.succ_ne_zero failures)]
  | false =>
    simp only [handleBackoff, Bool.false_eq_true, if_false]
    split
    · rfl
    · rename_i low
      -- nothing to clear: the level is 0 only without a failing completion
      have none_failed : failures = 0 := by
        have positive : 0 < backoffIntervals.length - 1 := by decide
        have zero : ¬ 0 < s.globalBackoffLevel := fun raised => low (.inl raised)
        omega
      rw [held, none_failed]
      rfl

theorem escalated_of_kept {a : Account ι} (kept : Kept a) : Escalated a := by
  have level : a.fleet.level = min a.failures (backoffIntervals.length - 1) :=
    congrArg Prod.fst kept.backoff
  have deadline : a.fleet.deadline = if a.failures = 0 then none else
      some (a.lastCompletion + backoffIntervals.getD a.fleet.level 0) := by
    rw [level]
    exact congrArg Prod.snd kept.backoff
  have positive : 0 < backoffIntervals.length - 1 := by decide
  refine ⟨by omega, ?_, level, deadline⟩
  rw [deadline]
  split
  · exact iff_of_false nofun (by omega)
  · exact iff_of_true rfl (by omega)

theorem kept_initial (options : ι → Options) : Kept (initial options) := by
  refine ⟨fun i => ⟨nofun, List.Pairwise.nil, rfl⟩, rfl⟩

/-- An entry's polls and books are the same under another backoff. -/
theorem Booked.view {s : State} {logs : List (List Bool)} (booked : Booked s logs) (level : Nat)
    (deadline : Option ℚ) : Booked
      { s with globalBackoffLevel := level, globalBackoffUntil := deadline } logs :=
  ⟨booked.known, booked.exclusive, booked.own⟩

/-- What an event does to the poll list of its entry. -/
theorem effect_of_step [DecidableEq ι] {entry : ι → Entry} {a b : Account ι} {event : ι × Event}
    (kept : Kept a) (taken : step entry a event = some b) : ∃ t, b = a.after event t ∧
      PollEffect (a.fleet.view event.1) event.2 t := by
  rw [step] at taken
  split at taken
  · rename_i own
    obtain ⟨t, moved, rfl⟩ := Option.map_eq_some_iff.mp taken
    exact ⟨t, rfl, pollEffect_of_step (kept.booked event.1).known own moved⟩
  · cases taken

theorem kept_step [DecidableEq ι] {entry : ι → Entry} {a b : Account ι} {event : ι × Event}
    (kept : Kept a) (taken : step entry a event = some b) : Kept b := by
  obtain ⟨t, rfl, effect⟩ := effect_of_step kept taken
  obtain ⟨booked, backoff⟩ := step_of_effect (kept.booked event.1) effect
  refine ⟨fun i => ?_, ?_⟩
  · by_cases own : i = event.1
    · subst own
      simp only [after, Fleet.view, Function.update_self]
      exact Booked.view booked _ _
    · simp only [after, Fleet.view, Function.update_of_ne own]
      exact Booked.view (kept.booked i) _ _
  · refine backoff.trans ?_
    cases completed : Polling.completion (a.fleet.view event.1) event.2 t (a.logs event.1) with
    | none =>
      simp only [after, completed, Option.elim_none]
      exact kept.backoff
    | some done =>
      simp only [after, completed, Option.elim_some]
      have held : (a.fleet.view event.1).backoff = escalation a.failures a.lastCompletion :=
        kept.backoff
      exact handleBackoff_escalates held done.1 done.2

theorem entries_after_self [DecidableEq ι] (a : Account ι) (event : ι × Event) (t : State) :
    (a.after event t).fleet.entries event.1 = t := by
  simp only [after, Function.update_self]

theorem entries_after_of_ne [DecidableEq ι] {a : Account ι} {event : ι × Event} {t : State} {i : ι}
    (apart : i ≠ event.1) : (a.after event t).fleet.entries i = a.fleet.entries i := by
  simp only [after, Function.update_of_ne apart]

/-- Between the start of an event and its end the backoff moves as its completion says. -/
theorem backoff_after [DecidableEq ι] {a : Account ι} {event : ι × Event} {t : State}
    (kept : Kept a) (effect : PollEffect (a.fleet.view event.1) event.2 t) :
    ((a.after event t).fleet.level, (a.after event t).fleet.deadline) =
      ((a.completion event (a.after event t)).elim (a.fleet.level, a.fleet.deadline) fun done =>
        (handleBackoff (a.fleet.view event.1) done.1 done.2).backoff) := by
  have moved := (step_of_effect (kept.booked event.1) effect).2
  rw [completion, entries_after_self]
  exact moved

/-- Before the deadline, unless that is 0.0, a poll that gets its turn is only removed. -/
theorem skipped_of_effect {s t : State} {e : Event} {now deadline : ℚ} (effect : PollEffect s e t)
    (turn : e.turnAt = some now) (set : s.globalBackoffUntil = some deadline)
    (before : now < deadline) (nonzero : deadline ≠ 0) :
    ∃ position, t = removePoll s position := by
  cases e with
  | pollStarts position reading =>
    obtain rfl := Option.some.inj turn
    have active : backoffActive s reading = true := by
      simp [backoffActive, truthy, set, before, nonzero]
    cases effect with
    | apart other => cases other
    | queues other => cases other
    | skips => exact ⟨position, rfl⟩
    | starts inactive => exact absurd active (by simp [inactive])
  | _ => cases turn

theorem restrained_of_kept [DecidableEq ι] {entry : ι → Entry} {a b : Account ι}
    {event : ι × Event} (kept : Kept a) (timely : AfterEpoch a event b)
    (taken : step entry a event = some b) : Restrained a event b := by
  obtain ⟨t, rfl, effect⟩ := effect_of_step kept taken
  have moved := backoff_after kept effect
  refine ⟨fun silent => ?_, fun raised lowered => ?_, ?_⟩
  · rw [silent] at moved
    exact ⟨congrArg Prod.fst moved, congrArg Prod.snd moved⟩
  · cases completed : a.completion event (a.after event t) with
    | none =>
      rw [completed] at moved
      have same : (a.after event t).fleet.level = a.fleet.level := congrArg Prod.fst moved
      omega
    | some done =>
      obtain ⟨hadFailure, now⟩ := done
      cases hadFailure with
      | false => exact ⟨now, rfl⟩
      | true =>
        have held : (a.fleet.view event.1).backoff = escalation a.failures a.lastCompletion :=
          kept.backoff
        rw [completed, Option.elim_some, handleBackoff_escalates held] at moved
        have level : (a.after event t).fleet.level =
            min (a.failures + 1) (backoffIntervals.length - 1) := congrArg Prod.fst moved
        have positive : 0 < backoffIntervals.length - 1 := by decide
        omega
  · intro now turn deadline set before i
    have nonzero : deadline ≠ 0 := by
      rintro rfl
      exact absurd (timely now turn set) (not_le.mpr before)
    obtain ⟨position, removed⟩ := skipped_of_effect effect turn set before nonzero
    by_cases own : i = event.1
    · rw [own, entries_after_self, removed]
      exact ⟨rfl, rfl⟩
    · rw [entries_after_of_ne own]
      exact ⟨rfl, rfl⟩

/-- Over every run of any number of coordinators in which no poll gets its turn at a
negative clock reading while the deadline is 0.0, the backoff is escalated by failing
completions alone, cleared by the others alone, and holds back every poll before its
deadline. -/
theorem backoff_shared [DecidableEq ι] (entry : ι → Entry) (options : ι → Options)
    (events : List (ι × Event))
    (timely : Steps (step entry) AfterEpoch (initial options) events) :
    States (step entry) Escalated (initial options) events ∧
      Steps (step entry) Restrained (initial options) events := by
  have kept : States (step entry) Kept (initial options) events :=
    states_of_invariant (fun a event b kept taken => kept_step kept taken)
      (kept_initial options) events
  refine ⟨kept.mono fun a h => escalated_of_kept h, ?_⟩
  have restrained : ∀ a event b, Kept a → AfterEpoch a event b → step entry a event = some b →
      Restrained a event b := fun _ _ _ kept timely taken => restrained_of_kept kept timely taken
  exact timely.imp restrained kept

/-- One coordinator whose six commands all fail, the last one at the given time; its
next poll gets its turn four seconds later. -/
private def failingPoll (ends : ℚ) : List (Unit × Event) :=
  let first : List Event := [.setup (some none), .advertisementPoll 0, .pollStarts 0 (ends - 5)]
  let second : List Event := [.advertisementPoll 0, .pollStarts 0 (ends + 4)]
  (first ++ List.replicate 6 (Event.commandEnds 0 false ends) ++ second).map fun e => ((), e)

private def jupiterEntry (_ : Unit) : Entry :=
  ⟨[], some Jupiter.jupiterRuntime.profile.productId⟩

/-- At a positive clock reading the second poll is skipped. -/
theorem backoff_shared_jupiter :
    States (step jupiterEntry) Escalated (initial fun _ => {}) (failingPoll 100) ∧
      Steps (step jupiterEntry) Restrained (initial fun _ => {}) (failingPoll 100) :=
  backoff_shared jupiterEntry (fun _ => {}) (failingPoll 100) (by decide +kernel)

/-- A poll that gets its turn before the deadline sends nothing. -/
private def HeldBack (a : Account Unit) (event : Unit × Event) (b : Account Unit) : Prop :=
  ∀ now ∈ event.2.turnAt, ∀ deadline ∈ a.fleet.deadline, now < deadline →
    (b.fleet.entries ()).sent.length = (a.fleet.entries ()).sent.length

private instance (a : Account Unit) (event : Unit × Event) (b : Account Unit) :
    Decidable (HeldBack a event b) :=
  inferInstanceAs (Decidable (∀ now ∈ event.2.turnAt, ∀ deadline ∈ a.fleet.deadline,
    now < deadline → (b.fleet.entries ()).sent.length = (a.fleet.entries ()).sent.length))

/-- A poll that fails at -5 sets the deadline 0.0, and the poll at -1 sends a command. -/
theorem epoch_deadline_ignored :
    ¬ (States (step jupiterEntry) Escalated (initial fun _ => {}) (failingPoll (-5)) ∧
      Steps (step jupiterEntry) Restrained (initial fun _ => {}) (failingPoll (-5))) := by
  rintro ⟨-, restrained⟩
  have weaken : ∀ a event b, True → Restrained a event b →
      step jupiterEntry a event = some b → HeldBack a event b := by
    intro a event b _ restrained _ now turn deadline set before
    rw [(restrained.skipped now turn deadline set before ()).1]
  have always : States (step jupiterEntry) (fun _ => True) (initial fun _ => {})
      (failingPoll (-5)) := states_of_invariant (fun _ _ _ _ _ => trivial) trivial _
  have heldBack := restrained.imp weaken always
  revert heldBack
  decide +kernel

end Account

end MarstekBle.Polling
