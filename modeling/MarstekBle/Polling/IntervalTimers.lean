/- module: Polling/IntervalTimers
   source: custom_components/marstek_ble/coordinator.py, custom_components/marstek_ble/__init__.py
   digest: Which interval timers of a config entry are live. -/

import Mathlib.Data.List.Nodup
import MarstekBle.Lib.GuardedRun
import MarstekBle.Polling.Transitions

set_option autoImplicit false
set_option relaxedAutoImplicit false

namespace MarstekBle.Polling

open MarstekBle.Data MarstekBle.Product MarstekBle.Lib.GuardedRun

variable {entry : Entry} {s t : State} {e : Event}

/-- At most one timer is live, and none of a coordinator that is done with. -/
structure TimersCurrent (s : State) : Prop where
  single : s.intervals.length ≤ 1
  current : ∀ interval ∈ s.intervals, s.retired ≤ interval.coordinator

/-- A tick starts no poll on behalf of a coordinator that is done with. -/
def TickCurrent (s : State) (e : Event) (t : State) : Prop :=
  match e with
  | .tick _ _ => ∀ poll ∈ t.polls, poll ∈ s.polls ∨ s.retired ≤ poll.coordinator
  | _ => True

/-- The event calls `async_setup_entry`, makes it time out, or makes
`async_unload_entry` return `True`. -/
def Event.concludes : Event → Bool
  | .setup _ => true
  | .readyWaitEnds inTime => !inTime
  | .platformsUnloaded success => success
  | _ => false

/-- Such an event comes before the first coordinator is constructed. -/
def BeforeFirst (s : State) (e : Event) : Prop := e.concludes = true → s.coordinators = []

/-! ### Handles on timers -/

/-- The timers, the handles on them and the count of retired coordinators are the same. -/
structure SameTimers (s t : State) : Prop where
  intervals : t.intervals = s.intervals
  registered : t.registered = s.registered
  handles : t.handles = s.handles
  retired : t.retired = s.retired

theorem SameTimers.trans {r : State} (first : SameTimers s r) (second : SameTimers r t) :
    SameTimers s t :=
  ⟨second.intervals.trans first.intervals, second.registered.trans first.registered,
    second.handles.trans first.handles, second.retired.trans first.retired⟩

/-- The timer of one coordinator is replaced by a new one. -/
structure Rescheduled (s : State) (c : Nat) (t : State) : Prop where
  known : c < s.handles.length
  handles : t.handles = s.handles.set c (some s.registered)
  intervals : ∃ seconds, t.intervals =
    s.intervals.filter (fun interval => s.handles[c]? ≠ some (some interval.id)) ++
      [⟨s.registered, c, seconds⟩]
  registered : t.registered = s.registered + 1
  retired : t.retired = s.retired

theorem Quiet.sameTimers (quiet : Quiet s t) : SameTimers s t :=
  ⟨quiet.intervals, quiet.registered, quiet.handles, quiet.retired⟩

theorem updatePollSchedule_rescheduled {c : Nat} (known : c < s.coordinators.length) :
    Rescheduled s c (updatePollSchedule s c) := by
  obtain ⟨coordinator, here⟩ : ∃ coordinator, s.coordinators[c]? = some coordinator :=
    ⟨_, List.getElem?_eq_getElem known⟩
  have handle : s.handles[c]? = some coordinator.timePollUnsub := by
    simp [State.handles, here]
  unfold updatePollSchedule
  rw [here]
  refine ⟨by simpa [State.handles] using known, ?_, ⟨coordinator.pollInterval, ?_⟩, rfl, rfl⟩
  · refine (map_modifyCoordinator s c Coordinator.timePollUnsub (fun _ => some s.registered)
      fun _ => rfl).trans ?_
    exact (List.set_eq_modify _ c s.handles).symm
  · rw [handle]
    cases remembered : coordinator.timePollUnsub with
    | none => simp [remembered]
    | some id => simp [remembered, eq_comm]

/-- A poll leaves the timers alone. -/
theorem PollMoves.sameTimers {position c : Nat} {commands : List PollCommand}
    (moves : PollMoves s position c commands t) : SameTimers s t := by
  cases moves with
  | stays quiet => exact quiet.sameTimers
  | ends quiet => exact quiet.sameTimers.trans ⟨rfl, rfl, rfl, rfl⟩
  | sends quiet => exact quiet.sameTimers.trans ⟨rfl, rfl, rfl, rfl⟩

/-! ### What a step does to the timers -/

/-- A step leaves the timers alone, replaces one, retires every coordinator or
constructs one, with a timer of its own. -/
inductive Effect (s : State) : Bool → State → Prop where
  | keeps {t : State} (same : SameTimers s t) : Effect s false t
  | reschedules {r t : State} (same : SameTimers s r) {c : Nat} (h : Rescheduled r c t) :
    Effect s false t
  | retires {t : State} (same : SameTimers (retire s) t) : Effect s true t
  | constructs {t : State} (handles : t.handles = s.handles ++ [some s.registered])
    {seconds : Int} (intervals : t.intervals =
      s.intervals ++ [⟨s.registered, s.handles.length, seconds⟩])
    (registered : t.registered = s.registered + 1) (retired : t.retired = s.retired) :
    Effect s true t

/-- What happens before the effect leaves the timers alone. -/
theorem Effect.of_same {r : State} (same : SameTimers s r) (effect : Effect r false t) :
    Effect s false t := by
  cases effect with
  | keeps after => exact .keeps (same.trans after)
  | reschedules after h => exact .reschedules (same.trans after) h

theorem SameTimers.retire (same : SameTimers s t) : SameTimers (retire s) (retire t) := by
  refine ⟨same.intervals, same.registered, same.handles, ?_⟩
  have sizes := congrArg List.length same.handles
  simpa [State.handles, Polling.retire] using sizes

theorem setPollIntervals_effect (s : State) (c : Nat) (pollInterval : Int)
    (mediumPollInterval : Option Int) :
    Effect s false (setPollIntervals s c pollInterval mediumPollInterval) := by
  unfold setPollIntervals
  split
  · exact .keeps ⟨rfl, rfl, rfl, rfl⟩
  · rename_i coordinator here
    dsimp only
    split
    · exact .keeps ⟨rfl, rfl, rfl, rfl⟩
    · refine .reschedules (Quiet.sameTimers ?_) (updatePollSchedule_rescheduled ?_)
      · exact modifyCoordinator_quiet s c (fun _ => rfl) fun _ => rfl
      · have known := (List.getElem?_eq_some_iff.mp here).1
        simpa [State.modifyCoordinator] using known

theorem handleEntryUpdate_effect (s : State) :
    Effect s false (handleEntryUpdate { s with pendingUpdates := s.pendingUpdates - 1 }) := by
  unfold handleEntryUpdate
  split
  · exact .keeps ⟨rfl, rfl, rfl, rfl⟩
  · refine Effect.of_same ?_ (setPollIntervals_effect _ _ _ _)
    exact ⟨rfl, rfl, rfl, rfl⟩

/-- A coordinator is constructed with a timer of its own. -/
theorem construct_constructs (s : State) (product : ProductRuntime)
    (pollInterval mediumPollInterval : Int) :
    let constructed := construct s product pollInterval mediumPollInterval
    constructed.handles = s.handles ++ [some s.registered] ∧
      ∃ seconds, constructed.intervals =
          s.intervals ++ [⟨s.registered, s.handles.length, seconds⟩] ∧
        constructed.registered = s.registered + 1 ∧ constructed.retired = s.retired := by
  intro constructed
  obtain ⟨coordinator, fresh, scheduled⟩ : ∃ coordinator : Coordinator,
      coordinator.timePollUnsub = none ∧ constructed =
        updatePollSchedule { s with coordinators := s.coordinators ++ [coordinator] }
          s.coordinators.length := ⟨_, rfl, rfl⟩
  obtain ⟨_, handles, ⟨seconds, intervals⟩, registered, retired⟩ :
      Rescheduled { s with coordinators := s.coordinators ++ [coordinator] }
        s.coordinators.length constructed := by
    rw [scheduled]
    exact updatePollSchedule_rescheduled (by simp)
  have before : ({ s with coordinators := s.coordinators ++ [coordinator] } : State).handles =
      s.handles ++ [none] := by simp [State.handles, fresh]
  have size : s.coordinators.length = s.handles.length := by simp [State.handles]
  rw [before, size] at handles intervals
  refine ⟨?_, seconds, ?_, registered, retired⟩
  · rw [handles]
    simp
  · rw [intervals]
    simp

theorem raiseNotReady_effect (s : State) : Effect s true (raiseNotReady s) := by
  have same : SameTimers s { processOnUnload s with phase := .setupRetry } :=
    (processOnUnload_quiet s).sameTimers.trans ⟨rfl, rfl, rfl, rfl⟩
  exact .retires same.retire

theorem returnUnloaded_effect (s : State) : Effect s true (returnUnloaded s) := by
  have cleared : SameTimers s { s with domainData := none } := ⟨rfl, rfl, rfl, rfl⟩
  have same : SameTimers s { processOnUnload { s with domainData := none } with
      phase := .notLoaded, platforms := [] } :=
    cleared.trans ((processOnUnload_quiet _).sameTimers.trans ⟨rfl, rfl, rfl, rfl⟩)
  exact .retires same.retire

theorem beginSetup_effect (entry : Entry) (s : State) (bleDevice : Option (Option Text)) :
    Effect s true (beginSetup entry s bleDevice) := by
  unfold beginSetup
  split
  · exact raiseNotReady_effect s
  · split
    · exact raiseNotReady_effect s
    · rename_i product _
      dsimp only
      generalize s.options.pollInterval.getD defaultPollInterval = fast
      generalize s.options.mediumPollInterval.getD defaultMediumPollInterval = medium
      have started := started_quiet (construct s product fast medium) s.coordinators.length
      obtain ⟨handles, seconds, intervals, registered, retired⟩ :=
        construct_constructs s product fast medium
      exact .constructs (started.handles.trans handles) (started.intervals.trans intervals)
        (started.registered.trans registered) (started.retired.trans retired)

theorem effect_of_step (h : step entry s e = some t) : Effect s e.concludes t := by
  cases step_eq_some_iff.mp h with
  | setup _ bleDevice => exact beginSetup_effect entry s bleDevice
  | readyTimeout => exact raiseNotReady_effect s
  | unloaded => exact returnUnloaded_effect s
  | forwardFails => exact .keeps (failSetup_quiet s).sameTimers
  | setupCancelled => exact .keeps (failSetup_quiet s).sameTimers
  | unload => exact .keeps (beginUnload_quiet s).sameTimers
  | updateRuns => exact handleEntryUpdate_effect s
  | advertisement => exact .keeps (advertised_quiet s _).sameTimers
  | tick =>
    refine .keeps ?_
    rcases timePoll_cases s _ _ with none | queued
    · rw [none]
      exact (Quiet.refl s).sameTimers
    · rw [queued]
      exact ⟨rfl, rfl, rfl, rfl⟩
  | pollStarts _ _ now => exact .keeps (runPoll_moves s _ _ now).sameTimers
  | fastEnds =>
    refine .keeps ?_
    exact (recordCommand_quiet s _ _ _).sameTimers.trans (pollFast_moves _ _ _ _ _).sameTimers
  | mediumEnds =>
    refine .keeps ?_
    exact (recordCommand_quiet s _ _ _).sameTimers.trans (pollMedium_moves _ _ _ _ _).sameTimers
  | _ => exact .keeps ⟨rfl, rfl, rfl, rfl⟩

/-! ### Every coordinator has one live timer -/

/-- The live timers are those that the coordinators remember, one each. -/
structure Tracked (s : State) : Prop where
  owned : ∀ interval ∈ s.intervals, s.handles[interval.coordinator]? = some (some interval.id)
  live : ∀ c handle, s.handles[c]? = some handle →
    ∃ interval ∈ s.intervals, interval.coordinator = c ∧ handle = some interval.id
  distinct : (s.intervals.map Interval.id).Nodup
  fresh : ∀ interval ∈ s.intervals, interval.id < s.registered

namespace Tracked

theorem of_same (h : Tracked s) (same : SameTimers s t) : Tracked t := by
  obtain ⟨owned, live, distinct, fresh⟩ := h
  obtain ⟨intervals, registered, handles, _⟩ := same
  refine ⟨?_, ?_, ?_, ?_⟩
  · rwa [intervals, handles]
  · rwa [intervals, handles]
  · rwa [intervals]
  · rwa [intervals, registered]

/-- Two live timers with one id are the same. -/
theorem eq_of_id (h : Tracked s) {first second : Interval} (hfirst : first ∈ s.intervals)
    (hsecond : second ∈ s.intervals) (id : first.id = second.id) : first = second :=
  List.inj_on_of_nodup_map h.distinct hfirst hsecond id

/-- A coordinator gets a new timer, and the timers of the others are kept. -/
theorem registers (h : Tracked s) {c : Nat} {seconds : Int} {kept : List Interval}
    (sublist : kept.Sublist s.intervals)
    (kept_iff : ∀ interval ∈ s.intervals, interval ∈ kept ↔ interval.coordinator ≠ c)
    (own : t.handles[c]? = some (some s.registered))
    (others : ∀ i, i ≠ c → t.handles[i]? = s.handles[i]?)
    (intervals : t.intervals = kept ++ [⟨s.registered, c, seconds⟩])
    (registered : t.registered = s.registered + 1) : Tracked t := by
  refine ⟨?_, ?_, ?_, ?_⟩
  · intro interval member
    rw [intervals] at member
    rcases List.mem_append.mp member with old | new
    · have here := sublist.subset old
      rw [others _ ((kept_iff interval here).mp old)]
      exact h.owned interval here
    · obtain rfl := List.mem_singleton.mp new
      exact own
  · intro i handle hi
    rw [intervals]
    by_cases same : i = c
    · subst same
      rw [own] at hi
      exact ⟨⟨s.registered, i, seconds⟩, by simp, rfl, (Option.some.inj hi).symm⟩
    · rw [others i same] at hi
      obtain ⟨interval, here, owner, remembered⟩ := h.live i handle hi
      have stays := (kept_iff interval here).mpr (owner ▸ same)
      exact ⟨interval, List.mem_append_left _ stays, owner, remembered⟩
  · rw [intervals, List.map_append]
    refine List.Nodup.append (h.distinct.sublist (sublist.map _)) (by simp) ?_
    intro id old new
    obtain ⟨interval, member, rfl⟩ := List.mem_map.mp old
    have before := h.fresh interval (sublist.subset member)
    simp at new
    omega
  · intro interval member
    rw [intervals] at member
    rw [registered]
    rcases List.mem_append.mp member with old | new
    · have before := h.fresh interval (sublist.subset old)
      omega
    · obtain rfl := List.mem_singleton.mp new
      exact Nat.lt_succ_self _

theorem rescheduled (h : Tracked s) {c : Nat} (rescheduled : Rescheduled s c t) : Tracked t := by
  obtain ⟨known, handles, ⟨seconds, intervals⟩, registered, _⟩ := rescheduled
  refine h.registers List.filter_sublist ?_ ?_ ?_ intervals registered
  · intro interval here
    simp only [List.mem_filter, here, true_and, decide_eq_true_eq]
    constructor
    · rintro other rfl
      exact other (h.owned interval here)
    · -- the cancelled timer belongs to the coordinator that remembered it
      intro other cancelled
      obtain ⟨remembered, there, owner, id⟩ := h.live c _ cancelled
      have equal := h.eq_of_id here there (Option.some.inj id)
      exact other (equal ▸ owner)
  · rw [handles, List.getElem?_set_self known]
  · intro i other
    rw [handles, List.getElem?_set_ne other.symm]

theorem constructs (h : Tracked s) (handles : t.handles = s.handles ++ [some s.registered])
    {seconds : Int}
    (intervals : t.intervals = s.intervals ++ [⟨s.registered, s.handles.length, seconds⟩])
    (registered : t.registered = s.registered + 1) : Tracked t := by
  refine h.registers (List.Sublist.refl _) ?_ ?_ ?_ intervals registered
  · intro interval here
    have inside := (List.getElem?_eq_some_iff.mp (h.owned interval here)).1
    exact iff_of_true here inside.ne
  · rw [handles, List.getElem?_concat_length]
  · intro i other
    rw [handles, List.getElem?_append]
    split
    · rfl
    · have beyond : s.handles.length < i := by omega
      rw [List.getElem?_eq_none (by simp; omega), List.getElem?_eq_none beyond.le]

theorem of_effect (h : Tracked s) {concluded : Bool} (effect : Effect s concluded t) :
    Tracked t := by
  cases effect with
  | keeps same => exact h.of_same same
  | reschedules same rescheduled => exact (h.of_same same).rescheduled rescheduled
  | retires same =>
    have retired : Tracked (retire s) := ⟨h.owned, h.live, h.distinct, h.fresh⟩
    exact retired.of_same same
  | constructs handles intervals registered _ => exact h.constructs handles intervals registered

end Tracked

/-! ### Runs -/

/-- At most one coordinator was constructed, and it is not done with. -/
structure OneCoordinator (s : State) : Prop where
  single : s.handles.length ≤ 1
  current : s.retired = 0

theorem OneCoordinator.timersCurrent (h : OneCoordinator s) (tracked : Tracked s) :
    TimersCurrent s := by
  constructor
  · -- any two timers belong to the one coordinator
    have same : ∀ first ∈ s.intervals, ∀ second ∈ s.intervals, first = second := by
      intro first hfirst second hsecond
      have owned := tracked.owned first hfirst
      have owned' := tracked.owned second hsecond
      have inside := (List.getElem?_eq_some_iff.mp owned).1
      have inside' := (List.getElem?_eq_some_iff.mp owned').1
      have single := h.single
      have coordinator : first.coordinator = second.coordinator := by omega
      rw [coordinator, owned'] at owned
      simp only [Option.some.injEq] at owned
      exact tracked.eq_of_id hfirst hsecond owned.symm
    have distinct := tracked.distinct
    match timers : s.intervals with
    | [] => exact Nat.zero_le 1
    | [_] => exact Nat.le_refl 1
    | first :: second :: _ =>
      have equal := same first (by simp [timers]) second (by simp [timers])
      rw [timers, equal] at distinct
      simp at distinct
  · intro interval _
    rw [h.current]
    exact Nat.zero_le _

/-- Two coordinators have two live timers. -/
theorem two_timers (tracked : Tracked s) (h : 2 ≤ s.handles.length) : 2 ≤ s.intervals.length := by
  obtain ⟨first, hfirst, owner, _⟩ :=
    tracked.live 0 _ (List.getElem?_eq_getElem (show 0 < s.handles.length by omega))
  obtain ⟨second, hsecond, owner', _⟩ :=
    tracked.live 1 _ (List.getElem?_eq_getElem (show 1 < s.handles.length by omega))
  match timers : s.intervals with
  | [] => simp [timers] at hfirst
  | [only] =>
    rw [timers, List.mem_singleton] at hfirst hsecond
    rw [hfirst] at owner
    rw [hsecond] at owner'
    omega
  | _ :: _ :: rest => simp

theorem beforeFirst_of_timersCurrent {concluded : Bool} (effect : Effect s concluded t)
    (tracked : Tracked s) (after : TimersCurrent t) (concludes : concluded = true) :
    s.handles = [] := by
  by_contra constructed
  have inside : 0 < s.handles.length := List.length_pos_iff.mpr constructed
  have trackedAfter := tracked.of_effect effect
  cases effect with
  | keeps _ => cases concludes
  | reschedules _ _ => cases concludes
  | retires same =>
    -- the timer of the first coordinator is still live
    obtain ⟨interval, live, owner, _⟩ := tracked.live 0 _ (List.getElem?_eq_getElem inside)
    have current := after.current interval (same.intervals ▸ live)
    rw [same.retired, owner] at current
    have retired : (retire s).retired = s.handles.length := by simp [retire, State.handles]
    omega
  | constructs handles _ _ _ =>
    have two := two_timers trackedAfter (by rw [handles, List.length_append]; simp; omega)
    have single := after.single
    omega

theorem oneCoordinator_of_beforeFirst {concluded : Bool} (effect : Effect s concluded t)
    (h : OneCoordinator s) (first : concluded = true → s.handles = []) : OneCoordinator t := by
  cases effect with
  | keeps same => exact ⟨same.handles ▸ h.single, same.retired.trans h.current⟩
  | reschedules same rescheduled =>
    constructor
    · rw [rescheduled.handles, List.length_set, same.handles]
      exact h.single
    · rw [rescheduled.retired, same.retired]
      exact h.current
  | retires same =>
    have none_yet := first rfl
    constructor
    · rw [same.handles]
      exact h.single
    · have retired : (retire s).retired = s.handles.length := by simp [retire, State.handles]
      rw [same.retired, retired, none_yet, List.length_nil]
  | constructs handles _ _ retired =>
    rw [first rfl] at handles
    exact ⟨by simp [handles], retired.trans h.current⟩

theorem tickCurrent_of_timersCurrent (h : step entry s e = some t) (current : TimersCurrent s) :
    TickCurrent s e t := by
  cases step_eq_some_iff.mp h with
  | tick live connectable =>
    have owner := current.current _ (List.mem_of_find?_eq_some live)
    intro poll member
    rcases timePoll_cases s _ connectable with none | queued
    · exact .inl (none ▸ member)
    · rw [queued] at member
      rcases List.mem_append.mp member with old | new
      · exact .inl old
      · obtain rfl := List.mem_singleton.mp new
        exact .inr owner
  | _ => trivial

/-- No timer outlives its setup, and no tick polls for one that is over, exactly in
the runs in which, once the entry has a coordinator, `async_setup_entry` is not called
again and does not time out, and `async_unload_entry` does not return `True`. -/
theorem timers_current_iff (entry : Entry) (options : Options) (events : List Event) :
    (States (step entry) TimersCurrent (initial options) events ∧
      Steps (step entry) TickCurrent (initial options) events) ↔
    Steps (step entry) (fun s e _ => BeforeFirst s e) (initial options) events := by
  have handles_nil : ∀ s : State, s.handles = [] ↔ s.coordinators = [] := by
    intro s
    exact List.map_eq_nil_iff
  have start : Tracked (initial options) := ⟨nofun, nofun, List.nodup_nil, nofun⟩
  have tracked : States (step entry) Tracked (initial options) events :=
    states_of_invariant (fun s e t h ht => h.of_effect (effect_of_step ht)) start events
  constructor
  · rintro ⟨current, _⟩
    refine steps_of_states (fun s e t hs ht h concludes => ?_) (tracked.and current)
    exact (handles_nil s).mp
      (beforeFirst_of_timersCurrent (effect_of_step h) hs.1 ht.2 concludes)
  · intro first
    have one : States (step entry) OneCoordinator (initial options) events := by
      refine states_of_steps (fun s e t h before ht => ?_) ⟨by simp [initial, State.handles], rfl⟩
        first
      exact oneCoordinator_of_beforeFirst (effect_of_step ht) h
        fun concludes => (handles_nil s).mpr (before concludes)
    have current := (tracked.and one).mono fun s hs => hs.2.timersCurrent hs.1
    refine ⟨current, steps_of_states (fun s e t hs _ h => ?_) current⟩
    exact tickCurrent_of_timersCurrent h hs

instance : DecidablePred TimersCurrent := fun s =>
  decidable_of_iff (s.intervals.length ≤ 1 ∧
      ∀ interval ∈ s.intervals, s.retired ≤ interval.coordinator)
    ⟨fun h => ⟨h.1, h.2⟩, fun h => ⟨h.single, h.current⟩⟩

/-- The entry of a Venus device. -/
def venusEntry : Entry := ⟨"MST_ACCP_1234".toList, some "venus"⟩

/-- The entry is set up, unloaded, and set up again. -/
def reloaded : List Event :=
  [.setup (some none), .advertisement 0, .readyWaitEnds true, .platformsForwarded true, .unload,
    .disconnectEnds, .platformsUnloaded true, .tick 0 true, .pollStarts 0 0, .setup (some none)]

theorem timer_outlives_unload :
    ¬ ∀ (entry : Entry) (options : Options) (events : List Event),
      States (step entry) TimersCurrent (initial options) events ∧
        Steps (step entry) TickCurrent (initial options) events := by
  intro all
  have current := (all venusEntry {} reloaded).1
  revert current
  decide +kernel

end MarstekBle.Polling
