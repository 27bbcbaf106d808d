/- module: Polling/Transitions
   source: custom_components/marstek_ble/__init__.py, coordinator.py, product_coordinator.py
   digest: What a step of a config entry can do, guards included, and how a poll ends its turn. -/

import MarstekBle.Polling.ConfigEntry

/-!
Invariants of a config entry are proved by cases on its transitions. A poll that gets
its turn changes nothing but its coordinator's bookkeeping and the backoff, and then
either ends or sends one command.
-/

set_option autoImplicit false
set_option relaxedAutoImplicit false

namespace MarstekBle.Polling

open MarstekBle.Data MarstekBle.Product

variable {entry : Entry} {s t : State} {e : Event}

/-! ### Transitions -/

/-- The coordinator of a poll notes how a command of it went. -/
def recordCommand (s : State) (c : Nat) (command : PollCommand) (success : Bool) : State :=
  s.modifyCoordinator c fun coordinator => { coordinator with
    currentPollCommands := coordinator.currentPollCommands ++ [(command, success)] }

/-- The transitions of a config entry. -/
inductive Transition (entry : Entry) (s : State) : Event → State → Prop where
  | setup (settled : s.phase.settled = true) (bleDevice : Option (Option Text)) :
    Transition entry s (.setup bleDevice) (beginSetup entry s bleDevice)
  | readyTimeout {c : Nat} (waiting : s.phase = .waitingReady c) :
    Transition entry s (.readyWaitEnds false) (raiseNotReady s)
  | ready {c : Nat} (waiting : s.phase = .waitingReady c) {coordinator : Coordinator}
    (here : s.coordinators[c]? = some coordinator) (advertised : coordinator.readyEvent = true) :
    Transition entry s (.readyWaitEnds true) (forwardPlatforms s c)
  | loaded {c : Nat} (forwarding : s.phase = .forwarding c) :
    Transition entry s (.platformsForwarded true) { s with phase := .loaded }
  | forwardFails {c : Nat} (forwarding : s.phase = .forwarding c) :
    Transition entry s (.platformsForwarded false) (failSetup s)
  | setupCancelled {c : Nat} (underWay : s.phase = .waitingReady c ∨ s.phase = .forwarding c) :
    Transition entry s .setupCancelled (failSetup s)
  | unload (idle : s.phase.settled = true ∨ s.phase = .loaded ∨ s.phase = .failedUnload) :
    Transition entry s .unload (beginUnload s)
  | disconnected (disconnecting : s.phase = .disconnecting) :
    Transition entry s .disconnectEnds { s with phase := .unloadingPlatforms }
  | unloaded (unloading : s.phase = .unloadingPlatforms) :
    Transition entry s (.platformsUnloaded true) (returnUnloaded s)
  | platformsStay (unloading : s.phase = .unloadingPlatforms) :
    Transition entry s (.platformsUnloaded false) { s with phase := .failedUnload }
  | unloadFails (underWay : s.phase = .disconnecting ∨ s.phase = .unloadingPlatforms) :
    Transition entry s .unloadFails { s with phase := .failedUnload }
  | optionsChange (options : Options) :
    Transition entry s (.optionsChange options) { s with
      options
      pendingUpdates := if s.updateListener then s.pendingUpdates + 1 else s.pendingUpdates }
  | updateRuns (pending : 0 < s.pendingUpdates) :
    Transition entry s .updateRuns
      (handleEntryUpdate { s with pendingUpdates := s.pendingUpdates - 1 })
  | runtimeDataCleared (notLoaded : s.phase = .notLoaded) :
    Transition entry s .runtimeDataCleared { s with runtimeData := none }
  | advertisement {c : Nat} {coordinator : Coordinator}
    (here : s.coordinators[c]? = some coordinator) (started : coordinator.started = true) :
    Transition entry s (.advertisement c)
      (s.modifyCoordinator c fun coordinator => { coordinator with readyEvent := true })
  | advertisementPoll {c : Nat} {coordinator : Coordinator}
    (here : s.coordinators[c]? = some coordinator) (started : coordinator.started = true) :
    Transition entry s (.advertisementPoll c) { s with polls := s.polls ++ [⟨c, .queued⟩] }
  | tick {timer : Nat} {interval : Interval}
    (live : s.intervals.find? (·.id = timer) = some interval) (connectable : Bool) :
    Transition entry s (.tick timer connectable) (timePoll s interval.coordinator connectable)
  | pollStarts {position c : Nat} (queued : s.polls[position]? = some ⟨c, .queued⟩)
    (next : nextInLine s position c = true) (now : ℚ) :
    Transition entry s (.pollStarts position now) (runPoll s position c now)
  | fastEnds {position c : Nat} {command : PollCommand} {rest : List PollCommand}
    (awaits : s.polls[position]? = some ⟨c, .fast command rest⟩) (success : Bool) (now : ℚ) :
    Transition entry s (.commandEnds position success now)
      (pollFast (recordCommand s c command success) position c now rest)
  | mediumEnds {position c : Nat} {command : PollCommand} {rest : List PollCommand}
    (awaits : s.polls[position]? = some ⟨c, .medium command rest⟩) (success : Bool) (now : ℚ) :
    Transition entry s (.commandEnds position success now)
      (pollMedium (recordCommand s c command success) position c now rest)
  | pollCancelled {position : Nat} (inside : position < s.polls.length) :
    Transition entry s (.pollCancelled position) (removePoll s position)
  | backoffElsewhere (level : Nat) (deadline : Option ℚ) :
    Transition entry s (.backoffElsewhere level deadline) { s with
      globalBackoffLevel := level
      globalBackoffUntil := deadline }

private theorem transition_of_step (h : step entry s e = some t) : Transition entry s e t := by
  cases e with
  | setup bleDevice =>
    simp only [step, Option.ite_none_right_eq_some, Option.some.injEq] at h
    obtain ⟨settled, rfl⟩ := h
    exact .setup settled bleDevice
  | readyWaitEnds inTime =>
    simp only [step] at h
    split at h
    · rename_i c waiting
      cases inTime with
      | false =>
        obtain rfl := Option.some.inj h
        exact .readyTimeout waiting
      | true =>
        simp only [if_true, Option.ite_none_right_eq_some, Option.some.injEq] at h
        obtain ⟨ready, rfl⟩ := h
        obtain ⟨coordinator, here, advertised⟩ := (Option.any_eq_true _ _).mp ready
        exact .ready waiting here advertised
    · cases h
  | platformsForwarded success =>
    simp only [step] at h
    split at h
    · rename_i c forwarding
      obtain rfl := Option.some.inj h
      cases success with
      | true => exact .loaded forwarding
      | false => exact .forwardFails forwarding
    · cases h
  | setupCancelled =>
    simp only [step] at h
    split at h
    · rename_i c waiting
      obtain rfl := Option.some.inj h
      exact .setupCancelled (.inl waiting)
    · rename_i c forwarding
      obtain rfl := Option.some.inj h
      exact .setupCancelled (.inr forwarding)
    · cases h
  | unload =>
    simp only [step, Option.ite_none_right_eq_some, Option.some.injEq] at h
    obtain ⟨idle, rfl⟩ := h
    exact .unload idle
  | disconnectEnds =>
    simp only [step, Option.ite_none_right_eq_some, Option.some.injEq] at h
    obtain ⟨disconnecting, rfl⟩ := h
    exact .disconnected disconnecting
  | platformsUnloaded success =>
    simp only [step, Option.ite_none_right_eq_some, Option.some.injEq] at h
    obtain ⟨unloading, rfl⟩ := h
    cases success with
    | true => exact .unloaded unloading
    | false => exact .platformsStay unloading
  | unloadFails =>
    simp only [step, Option.ite_none_right_eq_some, Option.some.injEq] at h
    obtain ⟨underWay, rfl⟩ := h
    exact .unloadFails underWay
  | optionsChange options =>
    obtain rfl := Option.some.inj h
    exact .optionsChange options
  | updateRuns =>
    simp only [step, Option.ite_none_right_eq_some, Option.some.injEq] at h
    obtain ⟨pending, rfl⟩ := h
    exact .updateRuns pending
  | runtimeDataCleared =>
    simp only [step, Option.ite_none_right_eq_some, Option.some.injEq] at h
    obtain ⟨notLoaded, rfl⟩ := h
    exact .runtimeDataCleared notLoaded
  | advertisement c =>
    simp only [step, Option.ite_none_right_eq_some, Option.some.injEq] at h
    obtain ⟨known, rfl⟩ := h
    obtain ⟨coordinator, here, started⟩ := (Option.any_eq_true _ _).mp known
    exact .advertisement here started
  | advertisementPoll c =>
    simp only [step, Option.ite_none_right_eq_some, Option.some.injEq] at h
    obtain ⟨known, rfl⟩ := h
    obtain ⟨coordinator, here, started⟩ := (Option.any_eq_true _ _).mp known
    exact .advertisementPoll here started
  | tick timer connectable =>
    simp only [step] at h
    split at h
    · rename_i interval live
      obtain rfl := Option.some.inj h
      exact .tick live connectable
    · cases h
  | pollStarts position now =>
    simp only [step] at h
    split at h
    · rename_i c queued
      simp only [Option.ite_none_right_eq_some, Option.some.injEq] at h
      obtain ⟨next, rfl⟩ := h
      exact .pollStarts queued next now
    · cases h
  | commandEnds position success now =>
    simp only [step, commandEnds] at h
    split at h
    · rename_i c command rest awaits
      obtain rfl := Option.some.inj h
      exact .fastEnds awaits success now
    · rename_i c command rest awaits
      obtain rfl := Option.some.inj h
      exact .mediumEnds awaits success now
    · cases h
  | pollCancelled position =>
    simp only [step, Option.ite_none_right_eq_some, Option.some.injEq] at h
    obtain ⟨inside, rfl⟩ := h
    exact .pollCancelled inside
  | backoffElsewhere level deadline =>
    obtain rfl := Option.some.inj h
    exact .backoffElsewhere level deadline

private theorem step_of_transition (h : Transition entry s e t) : step entry s e = some t := by
  cases h with
  | setupCancelled underWay => rcases underWay with waiting | forwarding <;> simp [step, *]
  | _ => simp [step, commandEnds, recordCommand, *]

/-- The transitions are exactly the steps. -/
theorem step_eq_some_iff : step entry s e = some t ↔ Transition entry s e t :=
  ⟨transition_of_step, step_of_transition⟩

/-! ### Bookkeeping -/

/-- The products of the coordinators constructed so far. -/
def State.products (s : State) : List ProductRuntime := s.coordinators.map Coordinator.product

/-- What the coordinators remember of their timers. -/
def State.handles (s : State) : List (Option Nat) := s.coordinators.map Coordinator.timePollUnsub

theorem State.products_of_getElem? {c : Nat} {coordinator : Coordinator}
    (here : s.coordinators[c]? = some coordinator) :
    s.products[c]? = some coordinator.product := by
  simp [State.products, here]

/-- Whatever else is modified, one field of the coordinators is modified like this. -/
theorem map_modifyCoordinator {α : Type} (s : State) (c : Nat) {f : Coordinator → Coordinator}
    (field : Coordinator → α) (g : α → α)
    (h : ∀ coordinator, field (f coordinator) = g (field coordinator)) :
    (s.modifyCoordinator c f).coordinators.map field = (s.coordinators.map field).modify c g := by
  apply List.ext_getElem?
  intro i
  simp only [State.modifyCoordinator, List.getElem?_map, List.getElem?_modify]
  by_cases same : c = i
  · cases s.coordinators[i]? <;> simp [same, h]
  · simp [same]

theorem products_modifyCoordinator (s : State) (c : Nat) {f : Coordinator → Coordinator}
    (keeps : ∀ coordinator, (f coordinator).product = coordinator.product) :
    (s.modifyCoordinator c f).products = s.products := by
  refine (map_modifyCoordinator s c Coordinator.product id keeps).trans ?_
  simp [State.products]

/-- Products, timers, platforms and polls are the same. -/
structure Quiet (s t : State) : Prop where
  products : t.products = s.products
  handles : t.handles = s.handles
  intervals : t.intervals = s.intervals
  registered : t.registered = s.registered
  retired : t.retired = s.retired
  platforms : t.platforms = s.platforms
  polls : t.polls = s.polls
  sent : t.sent = s.sent

namespace Quiet

theorem refl (s : State) : Quiet s s := ⟨rfl, rfl, rfl, rfl, rfl, rfl, rfl, rfl⟩

theorem trans {r : State} (first : Quiet s r) (second : Quiet r t) : Quiet s t :=
  ⟨second.products.trans first.products, second.handles.trans first.handles,
    second.intervals.trans first.intervals, second.registered.trans first.registered,
    second.retired.trans first.retired, second.platforms.trans first.platforms,
    second.polls.trans first.polls, second.sent.trans first.sent⟩

end Quiet

theorem modifyCoordinator_quiet (s : State) (c : Nat) {f : Coordinator → Coordinator}
    (product : ∀ coordinator, (f coordinator).product = coordinator.product)
    (handle : ∀ coordinator, (f coordinator).timePollUnsub = coordinator.timePollUnsub) :
    Quiet s (s.modifyCoordinator c f) := by
  refine ⟨products_modifyCoordinator s c product, ?_, rfl, rfl, rfl, rfl, rfl, rfl⟩
  refine (map_modifyCoordinator s c Coordinator.timePollUnsub id handle).trans ?_
  simp [State.handles]

theorem recordCommand_quiet (s : State) (c : Nat) (command : PollCommand) (success : Bool) :
    Quiet s (recordCommand s c command success) :=
  modifyCoordinator_quiet s c (fun _ => rfl) fun _ => rfl

theorem started_quiet (s : State) (c : Nat) :
    Quiet s (s.modifyCoordinator c fun coordinator => { coordinator with started := true }) :=
  modifyCoordinator_quiet s c (fun _ => rfl) fun _ => rfl

theorem advertised_quiet (s : State) (c : Nat) :
    Quiet s (s.modifyCoordinator c fun coordinator => { coordinator with readyEvent := true }) :=
  modifyCoordinator_quiet s c (fun _ => rfl) fun _ => rfl

theorem handleBackoff_quiet (s : State) (hadFailure : Bool) (now : ℚ) :
    Quiet s (handleBackoff s hadFailure now) := by
  unfold handleBackoff
  split
  · exact ⟨rfl, rfl, rfl, rfl, rfl, rfl, rfl, rfl⟩
  · split <;> exact ⟨rfl, rfl, rfl, rfl, rfl, rfl, rfl, rfl⟩

/-- None of the callbacks that are registered cancels a timer or ends a poll. -/
theorem processOnUnload_quiet (s : State) : Quiet s (processOnUnload s) := by
  have folded : ∀ (callbacks : List UnloadCallback) (r : State),
      Quiet r (callbacks.foldl runUnloadCallback r) := by
    intro callbacks
    induction callbacks with
    | nil => exact fun r => .refl r
    | cons callback rest ih =>
      intro r
      have first : Quiet r (runUnloadCallback r callback) := by
        cases callback with
        | stopCoordinator c => exact modifyCoordinator_quiet r c (fun _ => rfl) fun _ => rfl
        | removeUpdateListener => exact ⟨rfl, rfl, rfl, rfl, rfl, rfl, rfl, rfl⟩
      exact first.trans (ih _)
  exact (folded s.unloadCallbacks s).trans ⟨rfl, rfl, rfl, rfl, rfl, rfl, rfl, rfl⟩

theorem failSetup_quiet (s : State) : Quiet s (failSetup s) :=
  (processOnUnload_quiet s).trans ⟨rfl, rfl, rfl, rfl, rfl, rfl, rfl, rfl⟩

theorem beginUnload_quiet (s : State) : Quiet s (beginUnload s) := by
  unfold beginUnload
  split <;> exact ⟨rfl, rfl, rfl, rfl, rfl, rfl, rfl, rfl⟩

/-! ### Polls -/

/-- The command is one a coordinator's product schedules. -/
def State.Planned (s : State) (c : Nat) (command : PollCommand) : Prop :=
  ∃ product, s.products[c]? = some product ∧ command ∈ product.fastPoll ++ product.mediumPoll

/-- The command a poll awaits and those that follow it in the same schedule. -/
def PollPc.commands : PollPc → List PollCommand
  | .queued => []
  | .fast command rest => command :: rest
  | .medium command rest => command :: rest

/-- What becomes of a poll that goes on with some commands: its coordinator is unknown,
it ends, or it sends one of them or of those its coordinator's product schedules. -/
inductive PollMoves (s : State) (position c : Nat) (commands : List PollCommand) :
    State → Prop where
  | stays {t : State} (quiet : Quiet s t) : PollMoves s position c commands t
  | ends {r : State} (quiet : Quiet s r) : PollMoves s position c commands (removePoll r position)
  | sends {r : State} (quiet : Quiet s r) {command : PollCommand} {pc : PollPc}
    (first : command ∈ pc.commands)
    (scheduled : ∀ later ∈ pc.commands, later ∈ commands ∨ s.Planned c later) :
    PollMoves s position c commands (sendPollCommand r position c command pc)

/-- What happens before is bookkeeping, and the commands are still to be sent or planned. -/
theorem PollMoves.of_quiet {position c : Nat} {r : State} {commands after : List PollCommand}
    (quiet : Quiet s r) (planned : ∀ command ∈ after, command ∈ commands ∨ s.Planned c command)
    (moves : PollMoves r position c after t) : PollMoves s position c commands t := by
  cases moves with
  | stays later => exact .stays (quiet.trans later)
  | ends later => exact .ends (quiet.trans later)
  | sends later first scheduled =>
    refine .sends (quiet.trans later) first fun command hcommand => ?_
    rcases scheduled command hcommand with given | own
    · exact planned command given
    · rw [State.Planned, quiet.products] at own
      exact .inr own

theorem completePoll_moves (s : State) (position c : Nat) (now : ℚ)
    (commands : List PollCommand) :
    PollMoves s position c commands (completePoll s position c now) := by
  have done : Quiet s (s.modifyCoordinator c fun coordinator =>
      { coordinator with initialPollDone := true }) :=
    modifyCoordinator_quiet s c (fun _ => rfl) fun _ => rfl
  exact .ends (done.trans (handleBackoff_quiet _ _ now))

theorem pollMedium_moves (s : State) (position c : Nat) (now : ℚ)
    (commands : List PollCommand) :
    PollMoves s position c commands (pollMedium s position c now commands) := by
  cases commands with
  | cons command rest =>
    exact .sends (.refl s) List.mem_cons_self fun later member => .inl member
  | nil =>
    refine .of_quiet ?_ (fun command none => .inl none) (completePoll_moves _ position c now [])
    exact modifyCoordinator_quiet s c (fun _ => rfl) fun _ => rfl

theorem pollFast_moves (s : State) (position c : Nat) (now : ℚ) (commands : List PollCommand) :
    PollMoves s position c commands (pollFast s position c now commands) := by
  cases commands with
  | cons command rest =>
    exact .sends (.refl s) List.mem_cons_self fun later member => .inl member
  | nil =>
    have counted : Quiet s (s.modifyCoordinator c fun coordinator =>
        { coordinator with fastPollCount := coordinator.fastPollCount + 1 }) :=
      modifyCoordinator_quiet s c (fun _ => rfl) fun _ => rfl
    unfold pollFast
    dsimp only
    split
    · exact .stays counted
    · rename_i coordinator here
      split
      · refine .of_quiet counted ?_ (pollMedium_moves _ position c now _)
        intro command scheduled
        refine .inr ⟨coordinator.product, ?_, List.mem_append_right _ scheduled⟩
        rw [← counted.products]
        exact State.products_of_getElem? here
      · exact .of_quiet counted (fun command none => .inl none)
          (completePoll_moves _ position c now [])

theorem runPoll_moves (s : State) (position c : Nat) (now : ℚ) :
    PollMoves s position c [] (runPoll s position c now) := by
  unfold runPoll
  split
  · exact .ends (.refl s)
  · split
    · exact .stays (.refl s)
    · rename_i coordinator here
      refine .of_quiet ?_ ?_ (pollFast_moves _ position c now _)
      · exact modifyCoordinator_quiet s c (fun _ => rfl) fun _ => rfl
      · intro command scheduled
        exact .inr ⟨coordinator.product, State.products_of_getElem? here,
          List.mem_append_left _ scheduled⟩

/-- A tick appends a poll to the queue, if the device can be reached. -/
theorem timePoll_cases (s : State) (c : Nat) (connectable : Bool) :
    timePoll s c connectable = s ∨
      timePoll s c connectable = { s with polls := s.polls ++ [⟨c, .queued⟩] } := by
  unfold timePoll
  split
  · exact .inl rfl
  · split
    · exact .inr rfl
    · exact .inl rfl

end MarstekBle.Polling
