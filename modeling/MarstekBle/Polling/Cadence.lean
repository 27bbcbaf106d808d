/- module: Polling/Cadence
   source: custom_components/marstek_ble/coordinator.py
   digest: Which polls of a coordinator send the medium commands, under any interval changes. -/

import MarstekBle.Lib.GuardedRun
import MarstekBle.Polling.ConfigEntry

/-!
One coordinator is polled and rescheduled in any order. The polls wait for its lock in
turn, so only the first of them has left the queue. Lists kept beside the coordinator
say of every executed poll whether the medium commands followed its fast phase; what
the coordinator has sent is what these polls were to send, one after the other.
-/

set_option autoImplicit false
set_option relaxedAutoImplicit false

namespace MarstekBle.Polling

open MarstekBle.Data MarstekBle.Product MarstekBle.Lib.GuardedRun

/-! ### Intervals -/

/-- The bounds of the stored intervals. -/
structure Sanitized (fast medium : Int) : Prop where
  fast_ge : minPollInterval ≤ fast
  fast_le : fast ≤ maxPollInterval
  medium_ge : minMediumPollInterval ≤ medium
  medium_le : medium ≤ maxMediumPollInterval
  ordered : fast ≤ medium

theorem sanitizeFastPollInterval_bounds (requested : Int) :
    minPollInterval ≤ sanitizeFastPollInterval requested ∧
      sanitizeFastPollInterval requested ≤ maxPollInterval := by
  simp only [sanitizeFastPollInterval, minPollInterval, maxPollInterval]
  split_ifs <;> omega

/-- The medium interval is clamped and then raised to the fast one. -/
theorem sanitizeMediumPollInterval_eq {own fast : Int} {bound : Option Int}
    (bounded : bound = some fast ∨ bound = none ∧ own = fast) (positive : minPollInterval ≤ fast)
    (requested : Int) : sanitizeMediumPollInterval own requested bound =
      max fast (min maxMediumPollInterval (max minMediumPollInterval requested)) := by
  have nonzero : fast ≠ 0 := by
    simp only [minPollInterval] at positive
    omega
  have interval : sanitizeMediumPollInterval own requested bound =
      sanitizeMediumPollInterval fast requested none := by
    rcases bounded with rfl | ⟨rfl, rfl⟩
    · simp only [sanitizeMediumPollInterval, nonzero, if_false]
    · rfl
  rw [interval]
  simp only [sanitizeMediumPollInterval, minMediumPollInterval, maxMediumPollInterval]
  split_ifs <;> omega

theorem sanitized_of_requested {own fast : Int} {bound : Option Int}
    (bounded : bound = some fast ∨ bound = none ∧ own = fast)
    (fast_ge : minPollInterval ≤ fast) (fast_le : fast ≤ maxPollInterval) (requested : Int) :
    Sanitized fast (sanitizeMediumPollInterval own requested bound) := by
  rw [sanitizeMediumPollInterval_eq bounded fast_ge]
  simp only [minPollInterval, maxPollInterval] at fast_ge fast_le
  refine ⟨fast_ge, fast_le, ?_, ?_, le_max_left _ _⟩
  · simp only [minMediumPollInterval, maxMediumPollInterval]
    omega
  · simp only [minMediumPollInterval, maxMediumPollInterval]
    omega

/-- The cycle is the least whole number of fast intervals that covers a medium one. -/
theorem cycle_covers {fast medium : Int} (sanitized : Sanitized fast medium) :
    let cycle := max 1 ⌈(medium : ℚ) / (fast : ℚ)⌉
    1 ≤ cycle ∧ (cycle - 1) * fast < medium ∧ medium ≤ cycle * fast := by
  have positive : 0 < fast := by
    have bound := sanitized.fast_ge
    simp only [minPollInterval] at bound
    omega
  have positive' : (0 : ℚ) < fast := by exact_mod_cast positive
  have ordered : (fast : ℚ) ≤ medium := by exact_mod_cast sanitized.ordered
  have one_le : 1 ≤ ⌈(medium : ℚ) / (fast : ℚ)⌉ := by
    rw [Int.one_le_ceil_iff]
    exact div_pos (lt_of_lt_of_le positive' ordered) positive'
  dsimp only
  rw [max_eq_right one_le]
  refine ⟨one_le, ?_, ?_⟩
  · have below := Int.ceil_lt_add_one ((medium : ℚ) / (fast : ℚ))
    rw [← sub_lt_iff_lt_add, lt_div_iff₀ positive'] at below
    exact_mod_cast below
  · have above := Int.le_ceil ((medium : ℚ) / (fast : ℚ))
    rw [div_le_iff₀ positive'] at above
    exact_mod_cast above

/-- Among consecutive numbers, as many as the cycle is long, one is its multiple. -/
theorem multiple_in_window {cycle : Nat} (positive : 0 < cycle) (start : Nat) :
    ∃! i, start ≤ i ∧ i < start + cycle ∧ (i + 1) % cycle = 0 := by
  have remainder := Nat.mod_lt start positive
  have split := Nat.div_add_mod start cycle
  have multiple : cycle * (start / cycle) + cycle = cycle * (start / cycle + 1) := by ring
  refine ⟨cycle * (start / cycle) + cycle - 1, ⟨by omega, by omega, ?_⟩, ?_⟩
  · have succ : cycle * (start / cycle) + cycle - 1 + 1 = cycle * (start / cycle + 1) := by omega
    rw [succ]
    exact Nat.mul_mod_right cycle _
  · rintro i ⟨from_start, inside, divides⟩
    obtain ⟨k, hk⟩ := Nat.dvd_of_mod_eq_zero divides
    have lower : start / cycle < k := by
      by_contra few
      have le := Nat.mul_le_mul_left cycle (Nat.le_of_not_lt few)
      omega
    have upper : k < start / cycle + 2 := by
      by_contra many
      have le := Nat.mul_le_mul_left cycle (Nat.le_of_not_lt many)
      have twice : cycle * (start / cycle + 2) = cycle * (start / cycle) + cycle + cycle := by ring
      omega
    have only : k = start / cycle + 1 := by omega
    rw [only] at hk
    omega

/-! ### One coordinator under polls and interval changes -/

/-- Calls of `set_poll_intervals`, polls that ask for the lock, get it and go on, and
writes of other coordinators to the backoff. -/
inductive CadenceEvent where
  | setPollIntervals (pollInterval : Int) (mediumPollInterval : Option Int)
  | pollQueued
  | pollStarts (now : ℚ)
  | commandEnds (success : Bool) (now : ℚ)
  | backoffElsewhere (level : Nat) (deadline : Option ℚ)

/-- The only coordinator has index 0, and the first poll in line position 0. -/
def cadenceStep (s : State) : CadenceEvent → Option State
  | .setPollIntervals pollInterval mediumPollInterval =>
    some (setPollIntervals s 0 pollInterval mediumPollInterval)
  | .pollQueued => some { s with polls := s.polls ++ [⟨0, .queued⟩] }
  | .pollStarts now => match s.polls with
    | ⟨_, .queued⟩ :: _ => some (runPoll s 0 0 now)
    | _ => none
  | .commandEnds success now => commandEnds s 0 success now
  | .backoffElsewhere level deadline => some { s with
      globalBackoffLevel := level
      globalBackoffUntil := deadline }

def PollPc.isFast : PollPc → Bool
  | .fast _ _ => true
  | _ => false

def PollPc.isMedium : PollPc → Bool
  | .medium _ _ => true
  | _ => false

/-- The commands that follow the awaited one in its phase. -/
def PollPc.rest : PollPc → List PollCommand
  | .queued => []
  | .fast _ rest => rest
  | .medium _ rest => rest

/-- The first poll in line awaits a fast command. -/
def inFastPhase (s : State) : Bool := s.polls.head?.any (·.pc.isFast)

/-- The first poll in line awaits a medium command. -/
def inMediumPhase (s : State) : Bool := s.polls.head?.any (·.pc.isMedium)

/-- What the first poll in line has yet to send in its phase. -/
def unsent (s : State) : List PollCommand :=
  match s.polls.head? with
  | some poll => poll.pc.rest
  | none => []

/-- The number of polls that are executed from the event on. -/
def executed (s : State) : CadenceEvent → Nat
  | .pollStarts now => if backoffActive s now then 0 else 1
  | _ => 0

/-- A poll ends its fast phase in the event: whether the medium commands follow. -/
def fastPhaseEnds (s : State) (e : CadenceEvent) (t : State) : Option Bool :=
  match e with
  | .commandEnds _ _ => match s.polls with
    | ⟨_, .fast _ []⟩ :: _ => some (inMediumPhase t)
    | _ => none
  | _ => none

def storedIntervals (s : State) : Option (Int × Int) :=
  s.coordinators.head?.map fun coordinator =>
    (coordinator.pollInterval, coordinator.mediumPollInterval)

/-- The coordinator, the number of polls executed so far, and of each whose fast phase is
over whether the medium commands followed: of those before the last interval change, and
of those since. -/
structure Cadence where
  state : State
  started : Nat := 0
  earlier : List Bool := []
  mediums : List Bool := []

/-- All that an executed poll sends. -/
def pollCommands (product : ProductRuntime) (medium : Bool) : List PollCommand :=
  product.fastPoll ++ if medium then product.mediumPoll else []

namespace Cadence

/-- The number of polls executed before the last interval change. -/
def before (w : Cadence) : Nat := w.earlier.length

/-- All that the polls executed so far send, up to the phase the last of them is in. -/
def commands (w : Cadence) (product : ProductRuntime) : List PollCommand :=
  (w.earlier ++ w.mediums).flatMap (pollCommands product) ++
    if inFastPhase w.state then product.fastPoll else []

/-- The record once the coordinator is in a new state. -/
def after (w : Cadence) (e : CadenceEvent) (t : State) : Cadence :=
  let started := w.started + executed w.state e
  if storedIntervals t = storedIntervals w.state then
    ⟨t, started, w.earlier, w.mediums ++ (fastPhaseEnds w.state e t).toList⟩
  else ⟨t, started, w.earlier ++ w.mediums, []⟩

def step (w : Cadence) (e : CadenceEvent) : Option Cadence :=
  (cadenceStep w.state e).map (w.after e)

/-- A coordinator constructed with any requested intervals. -/
def initial (product : ProductRuntime) (pollInterval mediumPollInterval : Int) : Cadence :=
  { state := construct {} product pollInterval mediumPollInterval }

/-- A poll is the very first one that was executed. -/
def VeryFirst (w : Cadence) (i : Nat) : Prop := w.before + i = 0

/-- The cadence as one state shows it. Poll `i` is the `i + 1`st since the last change.
What was sent, and what the poll under way has yet to send in its phase, is what the
executed polls send, one after the other. -/
structure Regular (product : ProductRuntime) (w : Cadence) (coordinator : Coordinator) :
    Prop where
  sanitized : Sanitized coordinator.pollInterval coordinator.mediumPollInterval
  cycle_pos : 1 ≤ coordinator.mediumPollCycle
  cycle_lt : (coordinator.mediumPollCycle - 1) * coordinator.pollInterval <
    coordinator.mediumPollInterval
  cycle_ge : coordinator.mediumPollInterval ≤
    coordinator.mediumPollCycle * coordinator.pollInterval
  reapplied : ∀ medium ∈ [none, some coordinator.mediumPollInterval],
    setPollIntervals w.state 0 coordinator.pollInterval medium = w.state
  count : coordinator.fastPollCount = w.mediums.length
  executed : w.started = w.before + w.mediums.length + (inFastPhase w.state).toNat
  sent : w.state.sent ++ (unsent w.state).map (0, ·) = (w.commands product).map (0, ·)
  decided : ∀ i medium, w.mediums[i]? = some medium →
    (medium = true ↔ w.VeryFirst i ∨ ((i + 1 : Nat) : Int) % coordinator.mediumPollCycle = 0)
  window : ∀ start, start + coordinator.mediumPollCycle.toNat ≤ w.mediums.length →
    ∃ i, start ≤ i ∧ i < start + coordinator.mediumPollCycle.toNat ∧ w.mediums[i]? = some true
  window_unique : ∀ start, start + coordinator.mediumPollCycle.toNat ≤ w.mediums.length →
    ¬ w.VeryFirst start → ∃! i, start ≤ i ∧
      i < start + coordinator.mediumPollCycle.toNat ∧ w.mediums[i]? = some true

/-- A poll that the backoff skips sends nothing, and leaves the coordinator and the record
as they were. -/
def SkipsInert (w : Cadence) (e : CadenceEvent) (w' : Cadence) : Prop :=
  match e with
  | .pollStarts now => backoffActive w.state now = true →
      w'.state.coordinators = w.state.coordinators ∧ w'.state.sent = w.state.sent ∧
        w'.started = w.started ∧ w'.earlier = w.earlier ∧ w'.mediums = w.mediums
  | _ => True

/-! ### What the operations do to the only coordinator -/

variable {s : State} {coordinator : Coordinator}

theorem modifyCoordinator_single (single : s.coordinators = [coordinator])
    (f : Coordinator → Coordinator) : (s.modifyCoordinator 0 f).coordinators = [f coordinator] := by
  rw [State.modifyCoordinator, single]
  rfl

theorem completePoll_single (single : s.coordinators = [coordinator]) (now : ℚ) :
    (completePoll s 0 0 now).coordinators = [{ coordinator with initialPollDone := true }] ∧
      (completePoll s 0 0 now).polls = s.polls.tail ∧
      (completePoll s 0 0 now).sent = s.sent := by
  have kept : ∀ (r : State) (hadFailure : Bool),
      (handleBackoff r hadFailure now).coordinators = r.coordinators ∧
        (handleBackoff r hadFailure now).polls = r.polls ∧
        (handleBackoff r hadFailure now).sent = r.sent := by
    intro r hadFailure
    unfold handleBackoff
    split
    · exact ⟨rfl, rfl, rfl⟩
    · split <;> exact ⟨rfl, rfl, rfl⟩
  refine ⟨((kept _ _).1).trans (modifyCoordinator_single single _), ?_, (kept _ _).2.2⟩
  exact (congrArg (List.eraseIdx · 0) (kept _ _).2.1).trans List.eraseIdx_zero

theorem pollMedium_single (single : s.coordinators = [coordinator]) (now : ℚ)
    (command : PollCommand) (rest : List PollCommand) :
    (pollMedium s 0 0 now (command :: rest)).coordinators = [coordinator] ∧
      (pollMedium s 0 0 now (command :: rest)).polls = s.polls.set 0 ⟨0, .medium command rest⟩ ∧
      (pollMedium s 0 0 now (command :: rest)).sent = s.sent ++ [(0, command)] :=
  ⟨single, rfl, rfl⟩

/-- The end of the medium phase. -/
theorem pollMedium_nil (single : s.coordinators = [coordinator]) (now : ℚ) :
    (pollMedium s 0 0 now []).coordinators = [{ coordinator with
      mediumPollCount := coordinator.mediumPollCount + 1, initialPollDone := true }] ∧
      (pollMedium s 0 0 now []).polls = s.polls.tail ∧ (pollMedium s 0 0 now []).sent = s.sent :=
  completePoll_single (modifyCoordinator_single single _) now

/-- The end of the fast phase. -/
theorem pollFast_nil (single : s.coordinators = [coordinator]) (now : ℚ) :
    ∃ r : State, r.coordinators =
        [{ coordinator with fastPollCount := coordinator.fastPollCount + 1 }] ∧
      r.polls = s.polls ∧ r.sent = s.sent ∧ pollFast s 0 0 now [] =
        if !coordinator.initialPollDone ∨
            ((coordinator.fastPollCount + 1 : Nat) : Int) % coordinator.mediumPollCycle = 0 then
          pollMedium r 0 0 now coordinator.product.mediumPoll
        else completePoll r 0 0 now := by
  have counted := modifyCoordinator_single single fun coordinator =>
    { coordinator with fastPollCount := coordinator.fastPollCount + 1 }
  refine ⟨_, counted, rfl, rfl, ?_⟩
  rw [pollFast]
  simp only [counted, List.getElem?_cons_zero]

/-- What `_update_poll_schedule` leaves of the coordinator. -/
def scheduled (coordinator : Coordinator) (timer : Nat) : Coordinator :=
  { coordinator with
    updateInterval := coordinator.pollInterval
    mediumPollCycle :=
      max 1 ⌈(coordinator.mediumPollInterval : ℚ) / (coordinator.pollInterval : ℚ)⌉
    timePollUnsub := some timer }

theorem updatePollSchedule_single (single : s.coordinators = [coordinator]) :
    (updatePollSchedule s 0).coordinators = [scheduled coordinator s.registered] ∧
      (updatePollSchedule s 0).polls = s.polls ∧ (updatePollSchedule s 0).sent = s.sent := by
  unfold updatePollSchedule
  simp only [single, List.getElem?_cons_zero]
  exact ⟨modifyCoordinator_single single _, rfl, rfl⟩

/-- A call of `set_poll_intervals` either asks for what is stored, or stores sanitized
intervals, restarts the count and reschedules. -/
theorem setPollIntervals_single (single : s.coordinators = [coordinator]) (pollInterval : Int)
    (mediumPollInterval : Option Int) :
    let t := setPollIntervals s 0 pollInterval mediumPollInterval
    let fast := sanitizeFastPollInterval pollInterval
    let medium := sanitizeMediumPollInterval coordinator.pollInterval
      (mediumPollInterval.getD coordinator.mediumPollInterval) (some fast)
    if fast = coordinator.pollInterval ∧ medium = coordinator.mediumPollInterval then t = s
    else t.coordinators = [scheduled { coordinator with
        pollInterval := fast
        mediumPollInterval := medium
        fastPollCount := 0
        mediumPollCount := 0 } s.registered] ∧ t.polls = s.polls ∧ t.sent = s.sent := by
  dsimp only
  unfold setPollIntervals
  simp only [single, List.getElem?_cons_zero]
  split
  · rfl
  · exact updatePollSchedule_single (modifyCoordinator_single single _)

theorem runPoll_single (single : s.coordinators = [coordinator]) (now : ℚ)
    {command : PollCommand} {later : List PollCommand}
    (fastPoll : coordinator.product.fastPoll = command :: later) :
    if backoffActive s now then runPoll s 0 0 now = removePoll s 0
    else (runPoll s 0 0 now).coordinators =
        [{ coordinator with currentPollCommands := [], hasServiceInfo := true }] ∧
      (runPoll s 0 0 now).polls = s.polls.set 0 ⟨0, .fast command later⟩ ∧
      (runPoll s 0 0 now).sent = s.sent ++ [(0, command)] := by
  unfold runPoll
  split
  · rfl
  · simp only [single, List.getElem?_cons_zero, fastPoll]
    exact ⟨modifyCoordinator_single single _, rfl, rfl⟩

/-! ### What is sent -/

/-- The executed polls are those that are decided and one that may be in its fast phase,
and what they send is sent, or still unsent in the present phase. -/
structure Sends (product : ProductRuntime) (started : Nat) (decided : List Bool) (s : State) :
    Prop where
  started : started = decided.length + (inFastPhase s).toNat
  sent : s.sent ++ (unsent s).map (0, ·) = (decided.flatMap (pollCommands product) ++
    if inFastPhase s then product.fastPoll else []).map (0, ·)

theorem unsent_of_line {c : Nat} {pc : PollPc} {others : List Poll}
    (line : s.polls = ⟨c, pc⟩ :: others) : unsent s = pc.rest ∧ inFastPhase s = pc.isFast := by
  simp [unsent, inFastPhase, line]

theorem unsent_of_queued {polls : List Poll} (polls_eq : s.polls = polls)
    (queued : ∀ poll ∈ polls, poll.pc = .queued) : unsent s = [] ∧ inFastPhase s = false := by
  cases polls with
  | nil => simp [unsent, inFastPhase, polls_eq]
  | cons first others =>
    obtain ⟨c, pc⟩ := first
    obtain rfl : pc = .queued := queued ⟨c, pc⟩ List.mem_cons_self
    exact unsent_of_line polls_eq

namespace Sends

variable {product : ProductRuntime} {n : Nat} {decided : List Bool} {t : State}

theorem congr (sends : Sends product n decided s) (sent : t.sent = s.sent)
    (rest : unsent t = unsent s) (phase : inFastPhase t = inFastPhase s) :
    Sends product n decided t := by
  refine ⟨?_, ?_⟩
  · rw [phase]
    exact sends.started
  · rw [sent, rest, phase]
    exact sends.sent

/-- A poll is executed: it sends its first command. -/
theorem begins (sends : Sends product n decided s) {command : PollCommand}
    {later : List PollCommand} (fastPoll : product.fastPoll = command :: later)
    (idle : unsent s = [] ∧ inFastPhase s = false) (sent : t.sent = s.sent ++ [(0, command)])
    (phase : unsent t = later ∧ inFastPhase t = true) : Sends product (n + 1) decided t := by
  refine ⟨?_, ?_⟩
  · have before := sends.started
    rw [idle.2] at before
    rw [phase.2, before]
    rfl
  · have before := sends.sent
    rw [idle.1, idle.2, List.map_nil, List.append_nil] at before
    rw [sent, phase.1, phase.2, before, fastPoll]
    simp

/-- The next command of the phase is sent. -/
theorem continues (sends : Sends product n decided s) {next : PollCommand}
    {rest : List PollCommand} (left : unsent s = next :: rest)
    (sent : t.sent = s.sent ++ [(0, next)]) (phase : unsent t = rest)
    (same : inFastPhase t = inFastPhase s) : Sends product n decided t := by
  refine ⟨?_, ?_⟩
  · rw [same]
    exact sends.started
  · rw [sent, phase, same, ← sends.sent, left]
    simp

/-- The fast phase of a poll is over, and the medium commands follow or not. -/
theorem decides (sends : Sends product n decided s) {medium : Bool}
    (ended : unsent s = [] ∧ inFastPhase s = true) (phase : inFastPhase t = false)
    (sent : t.sent ++ (unsent t).map (0, ·) =
      s.sent ++ (if medium then product.mediumPoll else []).map (0, ·)) :
    Sends product n (decided ++ [medium]) t := by
  refine ⟨?_, ?_⟩
  · have before := sends.started
    rw [ended.2] at before
    rw [phase, before, List.length_append]
    rfl
  · have before := sends.sent
    rw [ended.1, ended.2, List.map_nil, List.append_nil] at before
    rw [sent, before, phase]
    simp [pollCommands]

end Sends

/-! ### The invariant -/

/-- What every record of a run meets: only the first poll in line may have left the
queue, and the initial poll is done once a poll was executed, that one's medium phase
apart. -/
structure Kept (product : ProductRuntime) (w : Cadence) (coordinator : Coordinator) : Prop where
  single : w.state.coordinators = [coordinator]
  product_eq : coordinator.product = product
  sanitized : Sanitized coordinator.pollInterval coordinator.mediumPollInterval
  cycle : coordinator.mediumPollCycle =
    max 1 ⌈(coordinator.mediumPollInterval : ℚ) / (coordinator.pollInterval : ℚ)⌉
  own : ∀ poll ∈ w.state.polls, poll.coordinator = 0
  queued : ∀ poll ∈ w.state.polls.tail, poll.pc = .queued
  count : coordinator.fastPollCount = w.mediums.length
  sends : Sends product w.started (w.earlier ++ w.mediums) w.state
  begun : inMediumPhase w.state = true → 0 < w.before + w.mediums.length
  initialDone : inMediumPhase w.state = false →
    (coordinator.initialPollDone = true ↔ 0 < w.before + w.mediums.length)
  decided : ∀ i medium, w.mediums[i]? = some medium →
    (medium = true ↔ w.VeryFirst i ∨ ((i + 1 : Nat) : Int) % coordinator.mediumPollCycle = 0)

theorem inMediumPhase_of_queued {polls : List Poll} (polls_eq : s.polls = polls)
    (queued : ∀ poll ∈ polls, poll.pc = .queued) : inMediumPhase s = false := by
  rw [inMediumPhase, polls_eq]
  cases polls with
  | nil => rfl
  | cons first others =>
    have pc := queued first List.mem_cons_self
    simp [pc, PollPc.isMedium]

/-- The coordinator's intervals, cycle and count are the same. -/
structure SameCadence (k l : Coordinator) : Prop where
  product_eq : l.product = k.product
  fast : l.pollInterval = k.pollInterval
  medium : l.mediumPollInterval = k.mediumPollInterval
  cycle : l.mediumPollCycle = k.mediumPollCycle

variable {product : ProductRuntime} {w : Cadence} {t : State} {later : Coordinator}

theorem storedIntervals_single (single : s.coordinators = [coordinator]) :
    storedIntervals s = some (coordinator.pollInterval, coordinator.mediumPollInterval) := by
  rw [storedIntervals, single]
  rfl

/-- An event in which no poll ends its fast phase. -/
theorem Kept.quiet (kept : Kept product w coordinator) {e : CadenceEvent}
    (single : t.coordinators = [later]) (same : SameCadence coordinator later)
    (count : later.fastPollCount = coordinator.fastPollCount)
    (own : ∀ poll ∈ t.polls, poll.coordinator = 0)
    (queued : ∀ poll ∈ t.polls.tail, poll.pc = .queued)
    (none_ends : fastPhaseEnds w.state e t = none)
    (sends : Sends product (w.started + executed w.state e) (w.earlier ++ w.mediums) t)
    (begun : inMediumPhase t = true → 0 < w.before + w.mediums.length)
    (initialDone : inMediumPhase t = false →
      (later.initialPollDone = true ↔ 0 < w.before + w.mediums.length)) :
    Kept product (w.after e t) later := by
  have stored : storedIntervals t = storedIntervals w.state := by
    rw [storedIntervals_single single, storedIntervals_single kept.single, same.fast, same.medium]
  have after : w.after e t = ⟨t, w.started + executed w.state e, w.earlier, w.mediums⟩ := by
    rw [Cadence.after, if_pos stored, none_ends, Option.toList_none, List.append_nil]
  rw [after]
  exact {
    single
    product_eq := same.product_eq.trans kept.product_eq
    sanitized := by
      rw [same.fast, same.medium]
      exact kept.sanitized
    cycle := by
      rw [same.fast, same.medium, same.cycle]
      exact kept.cycle
    own, queued, sends
    count := count.trans kept.count
    begun, initialDone
    decided := by
      rw [same.cycle]
      exact kept.decided }

/-- An event in which a poll ends its fast phase, and goes on as the cadence says. -/
theorem Kept.counted (kept : Kept product w coordinator) {e : CadenceEvent}
    (single : t.coordinators = [later]) (same : SameCadence coordinator later)
    (count : later.fastPollCount = coordinator.fastPollCount + 1)
    (own : ∀ poll ∈ t.polls, poll.coordinator = 0)
    (queued : ∀ poll ∈ t.polls.tail, poll.pc = .queued)
    (ends : fastPhaseEnds w.state e t = some (inMediumPhase t))
    (sends : Sends product (w.started + executed w.state e)
      (w.earlier ++ w.mediums ++ [inMediumPhase t]) t)
    (follows : inMediumPhase t = true ↔ w.before + w.mediums.length = 0 ∨
      ((w.mediums.length + 1 : Nat) : Int) % coordinator.mediumPollCycle = 0)
    (initialDone : inMediumPhase t = false → later.initialPollDone = true) :
    Kept product (w.after e t) later := by
  have stored : storedIntervals t = storedIntervals w.state := by
    rw [storedIntervals_single single, storedIntervals_single kept.single, same.fast, same.medium]
  have after : w.after e t = ⟨t, w.started + executed w.state e, w.earlier,
      w.mediums ++ [inMediumPhase t]⟩ := by
    rw [Cadence.after, if_pos stored, ends, Option.toList_some]
  rw [after]
  have positive : 0 < w.before + (w.mediums ++ [inMediumPhase t]).length := by
    rw [List.length_append, List.length_singleton]
    omega
  exact {
    single
    product_eq := same.product_eq.trans kept.product_eq
    sanitized := by
      rw [same.fast, same.medium]
      exact kept.sanitized
    cycle := by
      rw [same.fast, same.medium, same.cycle]
      exact kept.cycle
    own, queued
    count := by
      rw [count, kept.count, List.length_append, List.length_singleton]
    sends := List.append_assoc _ _ _ ▸ sends
    begun := fun _ => positive
    initialDone := fun phase => iff_of_true (initialDone phase) positive
    decided := by
      intro i medium here
      rw [same.cycle]
      rcases Nat.lt_trichotomy i w.mediums.length with earlier | rfl | beyond
      · rw [List.getElem?_append_left earlier] at here
        exact kept.decided i medium here
      · rw [List.getElem?_append_right (Nat.le_refl _), Nat.sub_self,
          List.getElem?_cons_zero] at here
        obtain rfl := Option.some.inj here
        exact follows
      · have none_here : (w.mediums ++ [inMediumPhase t])[i]? = none := by
          rw [List.getElem?_eq_none_iff, List.length_append, List.length_singleton]
          omega
        rw [none_here] at here
        cases here }

theorem Kept.positive (kept : Kept product w coordinator) :
    minPollInterval ≤ coordinator.pollInterval ∧ coordinator.pollInterval ≤ maxPollInterval :=
  ⟨kept.sanitized.fast_ge, kept.sanitized.fast_le⟩

theorem Kept.setPollIntervals (kept : Kept product w coordinator) (pollInterval : Int)
    (mediumPollInterval : Option Int) : ∃ later, Kept product
      (w.after (.setPollIntervals pollInterval mediumPollInterval)
        (Polling.setPollIntervals w.state 0 pollInterval mediumPollInterval)) later := by
  have called := setPollIntervals_single kept.single pollInterval mediumPollInterval
  dsimp only at called
  split at called
  · rw [called]
    refine ⟨coordinator, kept.quiet kept.single ⟨rfl, rfl, rfl, rfl⟩ rfl kept.own kept.queued rfl
      kept.sends kept.begun kept.initialDone⟩
  · rename_i differ
    obtain ⟨single, polls, sent⟩ := called
    have changed : storedIntervals (Polling.setPollIntervals w.state 0 pollInterval
        mediumPollInterval) ≠ storedIntervals w.state := by
      rw [storedIntervals_single single, storedIntervals_single kept.single]
      intro same
      have intervals := Prod.ext_iff.mp (Option.some.inj same)
      exact differ intervals
    have phase : inMediumPhase (Polling.setPollIntervals w.state 0 pollInterval
        mediumPollInterval) = inMediumPhase w.state := by
      rw [inMediumPhase, inMediumPhase, polls]
    have bounds := sanitizeFastPollInterval_bounds pollInterval
    have counted : (w.earlier ++ w.mediums).length = w.before + w.mediums.length :=
      List.length_append
    rw [Cadence.after, if_neg changed]
    exact ⟨_, {
      single
      product_eq := kept.product_eq
      sanitized := sanitized_of_requested (.inl rfl) bounds.1 bounds.2 _
      cycle := rfl
      own := polls ▸ kept.own
      queued := polls ▸ kept.queued
      count := rfl
      sends := by
        rw [List.append_nil]
        refine kept.sends.congr sent ?_ ?_
        · rw [unsent, unsent, polls]
        · rw [inFastPhase, inFastPhase, polls]
      begun := by
        intro h
        show 0 < (w.earlier ++ w.mediums).length
        rw [counted]
        exact kept.begun (phase ▸ h)
      initialDone := by
        intro h
        show _ ↔ 0 < (w.earlier ++ w.mediums).length
        rw [counted]
        exact kept.initialDone (phase ▸ h)
      decided := nofun }⟩

theorem Kept.pollQueued (kept : Kept product w coordinator) :
    Kept product (w.after .pollQueued
      { w.state with polls := w.state.polls ++ [⟨0, .queued⟩] }) coordinator := by
  have own : ∀ poll ∈ w.state.polls ++ [⟨0, .queued⟩], poll.coordinator = 0 := by
    intro poll member
    rcases List.mem_append.mp member with before | fresh
    · exact kept.own poll before
    · obtain rfl := List.mem_singleton.mp fresh
      rfl
  cases line : w.state.polls with
  | nil =>
    have silent : inMediumPhase w.state = false := inMediumPhase_of_queued line nofun
    obtain ⟨rest, phase⟩ := unsent_of_queued line nofun
    refine kept.quiet kept.single ⟨rfl, rfl, rfl, rfl⟩ rfl (line ▸ own) ?_ rfl ?_ nofun ?_
    · exact nofun
    · exact kept.sends.congr rfl rest.symm phase.symm
    · exact fun _ => kept.initialDone silent
  | cons first others =>
    have phase : inMediumPhase { w.state with polls := first :: others ++ [⟨0, .queued⟩] } =
        inMediumPhase w.state := by
      rw [inMediumPhase, inMediumPhase, line]
      rfl
    refine kept.quiet kept.single ⟨rfl, rfl, rfl, rfl⟩ rfl (line ▸ own) ?_ rfl ?_
      (fun h => kept.begun (phase ▸ h)) (fun h => kept.initialDone (phase ▸ h))
    · intro poll member
      rcases List.mem_append.mp member with before | fresh
      · exact kept.queued poll (line ▸ before)
      · obtain rfl := List.mem_singleton.mp fresh
        rfl
    · refine kept.sends.congr rfl ?_ ?_
      · rw [unsent, unsent, line]
        rfl
      · rw [inFastPhase, inFastPhase, line]
        rfl

/-- The first poll in line gets its turn. -/
theorem Kept.pollStarts (kept : Kept product w coordinator) (now : ℚ) {c : Nat}
    {others : List Poll} (line : w.state.polls = ⟨c, .queued⟩ :: others)
    {command : PollCommand} {rest : List PollCommand}
    (fastPoll : product.fastPoll = command :: rest) :
    ∃ later, Kept product (w.after (.pollStarts now) (runPoll w.state 0 0 now)) later := by
  have others_own : ∀ poll ∈ others, poll.coordinator = 0 := fun poll member =>
    kept.own poll (line ▸ List.mem_cons_of_mem _ member)
  have others_queued : ∀ poll ∈ others, poll.pc = .queued := fun poll member =>
    kept.queued poll (line ▸ member)
  have silent : inMediumPhase w.state = false := by
    rw [inMediumPhase, line]
    rfl
  have idle := unsent_of_line line
  have started := runPoll_single kept.single now (kept.product_eq ▸ fastPoll)
  split at started
  · rename_i active
    refine ⟨coordinator, ?_⟩
    rw [started]
    have polls : (removePoll w.state 0).polls = others := by
      rw [removePoll, line]
      rfl
    have skipped : executed w.state (.pollStarts now) = 0 := if_pos active
    obtain ⟨rest', phase'⟩ := unsent_of_queued polls others_queued
    refine kept.quiet kept.single ⟨rfl, rfl, rfl, rfl⟩ rfl (polls ▸ others_own) ?_ rfl ?_ ?_ ?_
    · rw [polls]
      exact fun poll member => others_queued poll (List.mem_of_mem_tail member)
    · rw [skipped]
      exact kept.sends.congr rfl (rest'.trans idle.1.symm) (phase'.trans idle.2.symm)
    · rw [inMediumPhase_of_queued polls others_queued]
      exact nofun
    · exact fun _ => kept.initialDone silent
  · rename_i inactive
    obtain ⟨single, polls, sent⟩ := started
    rw [line, List.set_cons_zero] at polls
    have executes : executed w.state (.pollStarts now) = 1 := if_neg inactive
    have sending : inMediumPhase (runPoll w.state 0 0 now) = false := by
      rw [inMediumPhase, polls]
      rfl
    refine ⟨_, kept.quiet single ⟨rfl, rfl, rfl, rfl⟩ rfl ?_ (polls ▸ others_queued) rfl ?_ ?_ ?_⟩
    · rw [polls]
      exact List.forall_mem_cons.mpr ⟨rfl, others_own⟩
    · rw [executes]
      exact kept.sends.begins fastPoll idle sent (unsent_of_line polls)
    · rw [sending]
      exact nofun
    · exact fun _ => kept.initialDone silent

/-- A fast command of the first poll in line ends, and another one follows. -/
theorem Kept.fastContinues (kept : Kept product w coordinator) (success : Bool) (now : ℚ)
    {command next : PollCommand} {rest : List PollCommand} {others : List Poll}
    (line : w.state.polls = ⟨0, .fast command (next :: rest)⟩ :: others)
    (recorded : s.coordinators = [later]) (same : SameCadence coordinator later)
    (count : later.fastPollCount = coordinator.fastPollCount)
    (done : later.initialPollDone = coordinator.initialPollDone) (polls : s.polls = w.state.polls)
    (sent : s.sent = w.state.sent) : Kept product
      (w.after (.commandEnds success now) (pollFast s 0 0 now (next :: rest))) later := by
  have polls' : (pollFast s 0 0 now (next :: rest)).polls = ⟨0, .fast next rest⟩ :: others := by
    rw [pollFast, sendPollCommand, polls, line]
    rfl
  have silent : inMediumPhase w.state = false := by
    rw [inMediumPhase, line]
    rfl
  have sending : inMediumPhase (pollFast s 0 0 now (next :: rest)) = false := by
    rw [inMediumPhase, polls']
    rfl
  have sent' : (pollFast s 0 0 now (next :: rest)).sent = w.state.sent ++ [(0, next)] := by
    rw [pollFast, sendPollCommand, sent]
  obtain ⟨left, phase⟩ := unsent_of_line line
  obtain ⟨left', phase'⟩ := unsent_of_line polls'
  refine kept.quiet recorded same count ?_ ?_ ?_ ?_ ?_ ?_
  · rw [polls']
    exact List.forall_mem_cons.mpr ⟨rfl, fun poll member =>
      kept.own poll (line ▸ List.mem_cons_of_mem _ member)⟩
  · rw [polls']
    exact fun poll member => kept.queued poll (line ▸ member)
  · rw [fastPhaseEnds, line]
  · exact kept.sends.continues left sent' left' (phase'.trans phase.symm)
  · rw [sending]
    exact nofun
  · rw [done]
    exact fun _ => kept.initialDone silent

/-- The last fast command of the first poll in line ends. -/
theorem Kept.fastEnds (kept : Kept product w coordinator) (success : Bool) (now : ℚ)
    {command : PollCommand} {others : List Poll}
    (line : w.state.polls = ⟨0, .fast command []⟩ :: others)
    (recorded : s.coordinators = [later]) (same : SameCadence coordinator later)
    (count : later.fastPollCount = coordinator.fastPollCount)
    (done : later.initialPollDone = coordinator.initialPollDone) (polls : s.polls = w.state.polls)
    (sent : s.sent = w.state.sent) {first : PollCommand} {rest : List PollCommand}
    (mediumPoll : product.mediumPoll = first :: rest) :
    ∃ final, Kept product (w.after (.commandEnds success now) (pollFast s 0 0 now [])) final := by
  have others_own : ∀ poll ∈ others, poll.coordinator = 0 := fun poll member =>
    kept.own poll (line ▸ List.mem_cons_of_mem _ member)
  have others_queued : ∀ poll ∈ others, poll.pc = .queued := fun poll member =>
    kept.queued poll (line ▸ member)
  have silent : inMediumPhase w.state = false := by
    rw [inMediumPhase, line]
    rfl
  have ends : ∀ t, fastPhaseEnds w.state (.commandEnds success now) t = some (inMediumPhase t) := by
    intro t
    rw [fastPhaseEnds, line]
  have due : ((!later.initialPollDone) = true ∨
      ((later.fastPollCount + 1 : Nat) : Int) % later.mediumPollCycle = 0) ↔
        (w.before + w.mediums.length = 0 ∨
          ((w.mediums.length + 1 : Nat) : Int) % coordinator.mediumPollCycle = 0) := by
    have fresh : (!later.initialPollDone) = true ↔ w.before + w.mediums.length = 0 := by
      rw [done, Bool.not_eq_true', ← Bool.not_eq_true, kept.initialDone silent]
      omega
    rw [same.cycle, count, kept.count, fresh]
  have recounted : later.fastPollCount + 1 = coordinator.fastPollCount + 1 := by rw [count]
  have ended := unsent_of_line line
  obtain ⟨r, counted, kept_polls, kept_sent, turn⟩ := pollFast_nil recorded now
  have sent_r : r.sent = w.state.sent := kept_sent.trans sent
  have line_r : r.polls = ⟨0, .fast command []⟩ :: others := kept_polls.trans (polls.trans line)
  rw [turn]
  split
  · rename_i follows
    rw [same.product_eq, kept.product_eq, mediumPoll]
    obtain ⟨single, line', sent'⟩ := pollMedium_single counted now first rest
    have polls' : (pollMedium r 0 0 now (first :: rest)).polls =
        ⟨0, .medium first rest⟩ :: others := by
      rw [line', line_r, List.set_cons_zero]
    obtain ⟨left, fast⟩ := unsent_of_line polls'
    have phase : inMediumPhase (pollMedium r 0 0 now (first :: rest)) = true := by
      rw [inMediumPhase, polls']
      rfl
    refine ⟨_, kept.counted single ⟨same.product_eq, same.fast, same.medium, same.cycle⟩ recounted
      ?_ (polls' ▸ others_queued) (ends _) ?_ (iff_of_true phase (due.mp follows)) ?_⟩
    · rw [polls']
      exact List.forall_mem_cons.mpr ⟨rfl, others_own⟩
    · refine kept.sends.decides ended fast ?_
      rw [sent', sent_r, left, phase, if_pos rfl, mediumPoll]
      simp [PollPc.rest]
    · rw [phase]
      exact nofun
  · rename_i omitted
    obtain ⟨single, line', sent'⟩ := completePoll_single counted now
    have polls' : (completePoll r 0 0 now).polls = others := by
      rw [line', line_r, List.tail_cons]
    have phase := inMediumPhase_of_queued polls' others_queued
    obtain ⟨left, fast⟩ := unsent_of_queued polls' others_queued
    refine ⟨_, kept.counted single ⟨same.product_eq, same.fast, same.medium, same.cycle⟩ recounted
      (polls' ▸ others_own) ?_ (ends _) ?_ ?_ fun _ => rfl⟩
    · rw [polls']
      exact fun poll member => others_queued poll (List.mem_of_mem_tail member)
    · refine kept.sends.decides ended fast ?_
      rw [sent', sent_r, left, phase, if_neg Bool.false_ne_true]
    · rw [phase]
      exact iff_of_false Bool.false_ne_true (mt due.mpr omitted)

/-- A medium command of the first poll in line ends. -/
theorem Kept.mediumEnds (kept : Kept product w coordinator) (success : Bool) (now : ℚ)
    {command : PollCommand} {rest : List PollCommand} {others : List Poll}
    (line : w.state.polls = ⟨0, .medium command rest⟩ :: others)
    (recorded : s.coordinators = [later]) (same : SameCadence coordinator later)
    (count : later.fastPollCount = coordinator.fastPollCount) (polls : s.polls = w.state.polls)
    (sent : s.sent = w.state.sent) : ∃ final, Kept product
      (w.after (.commandEnds success now) (pollMedium s 0 0 now rest)) final := by
  have others_own : ∀ poll ∈ others, poll.coordinator = 0 := fun poll member =>
    kept.own poll (line ▸ List.mem_cons_of_mem _ member)
  have others_queued : ∀ poll ∈ others, poll.pc = .queued := fun poll member =>
    kept.queued poll (line ▸ member)
  have positive : 0 < w.before + w.mediums.length := kept.begun (by rw [inMediumPhase, line]; rfl)
  obtain ⟨left, fast⟩ := unsent_of_line line
  have silent : ∀ t, fastPhaseEnds w.state (.commandEnds success now) t = none := by
    intro t
    rw [fastPhaseEnds, line]
  cases rest with
  | cons next rest =>
    obtain ⟨single, line', sent'⟩ := pollMedium_single recorded now next rest
    have polls' : (pollMedium s 0 0 now (next :: rest)).polls =
        ⟨0, .medium next rest⟩ :: others := by
      rw [line', polls, line, List.set_cons_zero]
    obtain ⟨left', fast'⟩ := unsent_of_line polls'
    have phase : inMediumPhase (pollMedium s 0 0 now (next :: rest)) = true := by
      rw [inMediumPhase, polls']
      rfl
    refine ⟨_, kept.quiet single same count ?_ (polls' ▸ others_queued) (silent _) ?_
      (fun _ => positive) ?_⟩
    · rw [polls']
      exact List.forall_mem_cons.mpr ⟨rfl, others_own⟩
    · exact kept.sends.continues left (sent ▸ sent') left' (fast'.trans fast.symm)
    · rw [phase]
      exact nofun
  | nil =>
    obtain ⟨single, line', sent'⟩ := pollMedium_nil recorded now
    have polls' : (pollMedium s 0 0 now []).polls = others := by
      rw [line', polls, line, List.tail_cons]
    obtain ⟨left', fast'⟩ := unsent_of_queued polls' others_queued
    refine ⟨_, kept.quiet single ⟨same.product_eq, same.fast, same.medium, same.cycle⟩ count
      (polls' ▸ others_own) ?_ (silent _) ?_ (fun _ => positive) fun _ => iff_of_true rfl positive⟩
    · rw [polls']
      exact fun poll member => others_queued poll (List.mem_of_mem_tail member)
    · exact kept.sends.congr (sent'.trans sent) (left'.trans left.symm) (fast'.trans fast.symm)

/-- Every registered product has fast and medium commands. -/
theorem schedules_of_registered (registered : product ∈ runtimeProducts) :
    (∃ command rest, product.fastPoll = command :: rest) ∧
      ∃ command rest, product.mediumPoll = command :: rest := by
  simp only [runtimeProducts, List.mem_cons, List.not_mem_nil, or_false] at registered
  rcases registered with rfl | rfl
  · exact ⟨⟨_, _, rfl⟩, _, _, rfl⟩
  · exact ⟨⟨_, _, rfl⟩, _, _, rfl⟩

theorem Kept.commandEnds (registered : product ∈ runtimeProducts)
    (kept : Kept product w coordinator) (success : Bool) (now : ℚ)
    (taken : commandEnds w.state 0 success now = some t) :
    ∃ final, Kept product (w.after (.commandEnds success now) t) final := by
  obtain ⟨-, first, medium, mediumPoll⟩ := schedules_of_registered registered
  cases line : w.state.polls with
  | nil => simp [Polling.commandEnds, line] at taken
  | cons poll others =>
    obtain ⟨c, pc⟩ := poll
    obtain rfl : c = 0 := kept.own ⟨c, pc⟩ (line ▸ List.mem_cons_self)
    simp only [Polling.commandEnds, line, List.getElem?_cons_zero] at taken
    cases pc with
    | queued => cases taken
    | fast command rest =>
      obtain rfl := Option.some.inj taken
      have recorded := modifyCoordinator_single kept.single fun coordinator => { coordinator with
        currentPollCommands := coordinator.currentPollCommands ++ [(command, success)] }
      cases rest with
      | cons next rest =>
        exact ⟨_, kept.fastContinues success now line recorded ⟨rfl, rfl, rfl, rfl⟩ rfl rfl rfl rfl⟩
      | nil =>
        exact kept.fastEnds success now line recorded ⟨rfl, rfl, rfl, rfl⟩ rfl rfl rfl rfl
          mediumPoll
    | medium command rest =>
      obtain rfl := Option.some.inj taken
      have recorded := modifyCoordinator_single kept.single fun coordinator => { coordinator with
        currentPollCommands := coordinator.currentPollCommands ++ [(command, success)] }
      exact kept.mediumEnds success now line recorded ⟨rfl, rfl, rfl, rfl⟩ rfl rfl rfl

theorem kept_step (registered : product ∈ runtimeProducts) {w' : Cadence} {e : CadenceEvent}
    (kept : ∃ coordinator, Kept product w coordinator) (taken : step w e = some w') :
    ∃ coordinator, Kept product w' coordinator := by
  obtain ⟨coordinator, kept⟩ := kept
  obtain ⟨⟨command, rest, fastPoll⟩, -⟩ := schedules_of_registered registered
  obtain ⟨t, moved, rfl⟩ := Option.map_eq_some_iff.mp taken
  cases e with
  | setPollIntervals pollInterval mediumPollInterval =>
    obtain rfl := Option.some.inj moved
    exact kept.setPollIntervals pollInterval mediumPollInterval
  | pollQueued =>
    obtain rfl := Option.some.inj moved
    exact ⟨coordinator, kept.pollQueued⟩
  | pollStarts now =>
    rw [cadenceStep] at moved
    split at moved
    · rename_i c others line
      obtain rfl := Option.some.inj moved
      exact kept.pollStarts now line fastPoll
    · cases moved
  | commandEnds success now => exact kept.commandEnds registered success now moved
  | backoffElsewhere level deadline =>
    obtain rfl := Option.some.inj moved
    exact ⟨coordinator, kept.quiet kept.single ⟨rfl, rfl, rfl, rfl⟩ rfl kept.own kept.queued rfl
      (kept.sends.congr rfl rfl rfl) kept.begun kept.initialDone⟩

theorem kept_initial (product : ProductRuntime) (pollInterval mediumPollInterval : Int) :
    ∃ coordinator, Kept product (initial product pollInterval mediumPollInterval) coordinator := by
  have bounds := sanitizeFastPollInterval_bounds pollInterval
  refine ⟨_, {
    single := rfl
    product_eq := rfl
    sanitized := sanitized_of_requested (.inr ⟨rfl, rfl⟩) bounds.1 bounds.2 mediumPollInterval
    cycle := rfl
    own := nofun
    queued := nofun
    count := rfl
    sends := ⟨rfl, rfl⟩
    begun := nofun
    initialDone := fun _ => iff_of_false Bool.false_ne_true (Nat.lt_irrefl 0)
    decided := nofun }⟩

/-- What is stored is sanitized already. -/
theorem Kept.reapplied (kept : Kept product w coordinator) {medium : Option Int}
    (asked : medium.getD coordinator.mediumPollInterval = coordinator.mediumPollInterval) :
    Polling.setPollIntervals w.state 0 coordinator.pollInterval medium = w.state := by
  have called := setPollIntervals_single kept.single coordinator.pollInterval medium
  have sanitized := kept.sanitized
  have fast : sanitizeFastPollInterval coordinator.pollInterval = coordinator.pollInterval := by
    rw [sanitizeFastPollInterval, if_neg (not_lt.mpr sanitized.fast_ge),
      if_neg (not_lt.mpr sanitized.fast_le)]
  dsimp only at called
  rw [fast, asked, sanitizeMediumPollInterval_eq (.inl rfl) sanitized.fast_ge,
    max_eq_right sanitized.medium_ge, min_eq_right sanitized.medium_le,
    max_eq_right sanitized.ordered, if_pos ⟨rfl, rfl⟩] at called
  exact called

theorem regular_of_kept (kept : Kept product w coordinator) : Regular product w coordinator := by
  have covers := cycle_covers kept.sanitized
  rw [← kept.cycle] at covers
  obtain ⟨n, cycle⟩ := Int.eq_ofNat_of_zero_le (Int.le_trans Int.one_nonneg covers.1)
  have positive : 0 < n := by
    have pos := covers.1
    omega
  have medium_iff : ∀ i, i < w.mediums.length →
      (w.mediums[i]? = some true ↔ w.VeryFirst i ∨ (i + 1) % n = 0) := by
    intro i inside
    have here : w.mediums[i]? = some w.mediums[i] := List.getElem?_eq_getElem inside
    have due := kept.decided i _ here
    rw [cycle, ← Int.natCast_mod, Int.natCast_eq_zero] at due
    rw [here, Option.some.injEq, due]
  exact {
    sanitized := kept.sanitized
    cycle_pos := covers.1
    cycle_lt := covers.2.1
    cycle_ge := covers.2.2
    reapplied := by
      intro medium asked
      rw [List.mem_pair] at asked
      rcases asked with rfl | rfl
      · exact kept.reapplied rfl
      · exact kept.reapplied rfl
    count := kept.count
    executed := by
      rw [kept.sends.started, List.length_append]
      rfl
    sent := kept.sends.sent
    decided := kept.decided
    window := by
      intro start fits
      rw [cycle, Int.toNat_natCast] at fits ⊢
      obtain ⟨i, ⟨from_start, inside, multiple⟩, -⟩ := multiple_in_window positive start
      exact ⟨i, from_start, inside, (medium_iff i (by omega)).mpr (.inr multiple)⟩
    window_unique := by
      intro start fits later
      rw [cycle, Int.toNat_natCast] at fits ⊢
      obtain ⟨i, ⟨from_start, inside, multiple⟩, only⟩ := multiple_in_window positive start
      refine ⟨i, ⟨from_start, inside, (medium_iff i (by omega)).mpr (.inr multiple)⟩, ?_⟩
      rintro j ⟨j_from, j_inside, sends⟩
      rcases (medium_iff j (by omega)).mp sends with first | multiple_j
      · -- a window that begins after the very first poll does not contain it
        have start_first : w.VeryFirst start := by
          simp only [VeryFirst] at first ⊢
          omega
        exact absurd start_first later
      · exact only j ⟨j_from, j_inside, multiple_j⟩ }

theorem skipsInert_of_step {w' : Cadence} {e : CadenceEvent} (taken : step w e = some w') :
    SkipsInert w e w' := by
  obtain ⟨t, moved, rfl⟩ := Option.map_eq_some_iff.mp taken
  cases e with
  | pollStarts now =>
    intro active
    rw [cadenceStep] at moved
    split at moved
    · obtain rfl := Option.some.inj moved
      have skipped : runPoll w.state 0 0 now = removePoll w.state 0 := by
        rw [runPoll, if_pos active]
      have record : w.after (.pollStarts now) (removePoll w.state 0) =
          ⟨removePoll w.state 0, w.started, w.earlier, w.mediums⟩ := by
        have stored : storedIntervals (removePoll w.state 0) = storedIntervals w.state := rfl
        have silent : fastPhaseEnds w.state (.pollStarts now) (removePoll w.state 0) = none := rfl
        have uncounted : executed w.state (.pollStarts now) = 0 := if_pos active
        rw [Cadence.after, if_pos stored, silent, uncounted, Option.toList_none, List.append_nil]
        rfl
      rw [skipped, record]
      exact ⟨rfl, rfl, rfl, rfl, rfl⟩
    · cases moved
  | _ => trivial

/-- Under any interval changes, polls and skips the stored intervals stay sanitized and
the cycle fits them. The executed polls send their fast commands, and the medium commands
after them exactly at the cycle's multiples and in the very first poll. A skipped poll
sends nothing and counts for nothing. -/
theorem medium_polls_follow_cycle (registered : product ∈ runtimeProducts)
    (pollInterval mediumPollInterval : Int) (events : List CadenceEvent) :
    States step (fun w => ∃ coordinator, w.state.coordinators = [coordinator] ∧
        Regular product w coordinator) (initial product pollInterval mediumPollInterval) events ∧
      Steps step SkipsInert (initial product pollInterval mediumPollInterval) events := by
  have kept : States step (fun w => ∃ coordinator, Kept product w coordinator)
      (initial product pollInterval mediumPollInterval) events :=
    states_of_invariant (fun w e w' kept taken => kept_step registered kept taken)
      (kept_initial product pollInterval mediumPollInterval) events
  constructor
  · exact kept.mono fun w ⟨coordinator, h⟩ => ⟨coordinator, h.single, regular_of_kept h⟩
  · have inert : ∀ w e w', (∃ coordinator, Kept product w coordinator) →
        (∃ coordinator, Kept product w' coordinator) → step w e = some w' → SkipsInert w e w' :=
      fun _ _ _ _ _ taken => skipsInert_of_step taken
    exact steps_of_states inert kept

/-- A Venus coordinator that is executing its first poll when its intervals are changed. -/
theorem medium_polls_follow_cycle_venus :
    let events := [.pollQueued, .pollStarts 0, .commandEnds true 1, .commandEnds true 2,
      .commandEnds true 3, .setPollIntervals 30 (some 45), .commandEnds true 4, .pollQueued]
    States step (fun w => ∃ coordinator, w.state.coordinators = [coordinator] ∧
        Regular Venus.venusRuntime w coordinator) (initial Venus.venusRuntime 0 500) events ∧
      Steps step SkipsInert (initial Venus.venusRuntime 0 500) events :=
  medium_polls_follow_cycle (List.mem_cons_self : Venus.venusRuntime ∈ runtimeProducts) 0 500 _

end Cadence

end MarstekBle.Polling
