/- module: Polling/Schedule
   source: custom_components/marstek_ble/__init__.py, coordinator.py, product_coordinator.py
   digest: What a step of a config entry does to its products, its polls and what they send. -/

import MarstekBle.Polling.Transitions

/-!
A poll carries the commands it has yet to send. They come from the two schedules
of its coordinator's product, and a coordinator never changes its product.
-/

set_option autoImplicit false
set_option relaxedAutoImplicit false

namespace MarstekBle.Polling

open MarstekBle.Data MarstekBle.Product

variable {entry : Entry} {s t : State} {e : Event}

/-- Every poll under way has planned commands only. -/
def Plans (s : State) : Prop :=
  ∀ poll ∈ s.polls, ∀ command ∈ poll.pc.commands, s.Planned poll.coordinator command

/-- Where coordinators are only added, those there are keep their products. -/
theorem State.product_of_prefix (more : s.products <+: t.products) {c : Nat}
    {product : ProductRuntime} (known : s.products[c]? = some product) :
    t.products[c]? = some product := by
  obtain ⟨added, products⟩ := more
  have inside : c < s.products.length := (List.getElem?_eq_some_iff.mp known).1
  rw [← products, List.getElem?_append_left inside]
  exact known

theorem State.prefix_of_products (same : t.products = s.products) :
    s.products <+: t.products := ⟨[], by rw [List.append_nil, same]⟩

theorem State.Planned.mono {c : Nat} {command : PollCommand} (planned : s.Planned c command)
    (more : s.products <+: t.products) : t.Planned c command := by
  obtain ⟨product, known, scheduled⟩ := planned
  exact ⟨product, State.product_of_prefix more known, scheduled⟩

/-! ### Steps that leave the schedules alone -/

/-- Products, platforms, polls and sent commands are the same. -/
structure SameSchedule (s t : State) : Prop where
  products : t.products = s.products
  platforms : t.platforms = s.platforms
  polls : t.polls = s.polls
  sent : t.sent = s.sent

theorem SameSchedule.trans {r : State} (first : SameSchedule s r) (second : SameSchedule r t) :
    SameSchedule s t :=
  ⟨second.products.trans first.products, second.platforms.trans first.platforms,
    second.polls.trans first.polls, second.sent.trans first.sent⟩

theorem Quiet.sameSchedule (quiet : Quiet s t) : SameSchedule s t :=
  ⟨quiet.products, quiet.platforms, quiet.polls, quiet.sent⟩

theorem updatePollSchedule_sameSchedule (s : State) (c : Nat) :
    SameSchedule s (updatePollSchedule s c) := by
  unfold updatePollSchedule
  split
  · exact ⟨rfl, rfl, rfl, rfl⟩
  · refine ⟨?_, rfl, rfl, rfl⟩
    exact products_modifyCoordinator s c fun _ => rfl

theorem setPollIntervals_sameSchedule (s : State) (c : Nat) (pollInterval : Int)
    (mediumPollInterval : Option Int) :
    SameSchedule s (setPollIntervals s c pollInterval mediumPollInterval) := by
  unfold setPollIntervals
  split
  · exact ⟨rfl, rfl, rfl, rfl⟩
  · dsimp only
    split
    · exact ⟨rfl, rfl, rfl, rfl⟩
    · refine SameSchedule.trans (Quiet.sameSchedule ?_) (updatePollSchedule_sameSchedule _ c)
      exact modifyCoordinator_quiet s c (fun _ => rfl) fun _ => rfl

theorem handleEntryUpdate_sameSchedule (s : State) : SameSchedule s (handleEntryUpdate s) := by
  unfold handleEntryUpdate
  split
  · exact ⟨rfl, rfl, rfl, rfl⟩
  · exact setPollIntervals_sameSchedule s _ _ _

theorem raiseNotReady_sameSchedule (s : State) : SameSchedule s (raiseNotReady s) :=
  (processOnUnload_quiet s).sameSchedule.trans ⟨rfl, rfl, rfl, rfl⟩

/-! ### What a poll does -/

/-- The polls go on with planned commands, and at most one planned command is sent. -/
structure Polled (s t : State) : Prop where
  products : t.products = s.products
  platforms : t.platforms = s.platforms
  polls : ∀ poll ∈ t.polls, poll ∈ s.polls ∨
    ∀ command ∈ poll.pc.commands, s.Planned poll.coordinator command
  sent : t.sent = s.sent ∨ ∃ c command, t.sent = s.sent ++ [(c, command)] ∧ s.Planned c command

theorem SameSchedule.polled (same : SameSchedule s t) : Polled s t :=
  ⟨same.products, same.platforms, fun _ member => .inl (same.polls ▸ member), .inl same.sent⟩

/-- What happens before leaves the schedules alone. -/
theorem Polled.of_same {r : State} (same : SameSchedule s r) (polled : Polled r t) :
    Polled s t := by
  have planned : ∀ c command, r.Planned c command → s.Planned c command := by
    intro c command h
    rwa [State.Planned, same.products] at h
  refine ⟨polled.products.trans same.products, polled.platforms.trans same.platforms, ?_, ?_⟩
  · intro poll member
    rcases polled.polls poll member with before | commands
    · exact .inl (same.polls ▸ before)
    · exact .inr fun command hcommand => planned _ _ (commands command hcommand)
  · rcases polled.sent with unsent | ⟨c, command, appended, h⟩
    · exact .inl (unsent.trans same.sent)
    · exact .inr ⟨c, command, by rw [appended, same.sent], planned c command h⟩

/-- A poll that is appended in the queue has sent nothing yet. -/
theorem polled_of_queues {c : Nat} (s : State) :
    Polled s { s with polls := s.polls ++ [⟨c, .queued⟩] } := by
  refine ⟨rfl, rfl, ?_, .inl rfl⟩
  intro poll member
  rcases List.mem_append.mp member with before | fresh
  · exact .inl before
  · obtain rfl := List.mem_singleton.mp fresh
    exact .inr fun command hcommand => absurd hcommand List.not_mem_nil

theorem removePoll_polled (s : State) (position : Nat) : Polled s (removePoll s position) :=
  ⟨rfl, rfl, fun _ member => .inl (List.mem_of_mem_eraseIdx member), .inl rfl⟩

theorem sendPollCommand_polled {position c : Nat} {command : PollCommand} {pc : PollPc}
    (planned : ∀ later ∈ pc.commands, s.Planned c later) (first : command ∈ pc.commands) :
    Polled s (sendPollCommand s position c command pc) := by
  refine ⟨rfl, rfl, ?_, .inr ⟨c, command, rfl, planned command first⟩⟩
  intro poll member
  rcases List.mem_or_eq_of_mem_set member with before | rfl
  · exact .inl before
  · exact .inr planned

/-- A poll that goes on with planned commands sends planned commands. -/
theorem PollMoves.polled {position c : Nat} {commands : List PollCommand}
    (moves : PollMoves s position c commands t)
    (planned : ∀ command ∈ commands, s.Planned c command) : Polled s t := by
  cases moves with
  | stays quiet => exact quiet.sameSchedule.polled
  | ends quiet => exact .of_same quiet.sameSchedule (removePoll_polled _ position)
  | sends quiet first scheduled =>
    refine .of_same quiet.sameSchedule (sendPollCommand_polled (fun later hlater => ?_) first)
    rw [State.Planned, quiet.products]
    exact (scheduled later hlater).elim (planned later) id

/-- A poll whose command has ended goes on with what it was to send next. -/
theorem recordedMoves_polled (plans : Plans s) {position c : Nat} {pc : PollPc}
    {command : PollCommand} {rest : List PollCommand} (success : Bool)
    (awaits : s.polls[position]? = some ⟨c, pc⟩) (commands : pc.commands = command :: rest)
    (moves : PollMoves (recordCommand s c command success) position c rest t) : Polled s t := by
  have recorded := (recordCommand_quiet s c command success).sameSchedule
  refine .of_same recorded (moves.polled fun next hnext => ?_)
  rw [State.Planned, recorded.products]
  refine plans _ (List.mem_of_getElem? awaits) next ?_
  rw [commands]
  exact List.mem_cons_of_mem command hnext

/-! ### What a setup does -/

/-- The entry after a setup that selected a product, at its wait for the first advertisement. -/
def setUpWith (s : State) (product : ProductRuntime) : State :=
  let c := s.coordinators.length
  let constructed := construct s product
    (s.options.pollInterval.getD defaultPollInterval)
    (s.options.mediumPollInterval.getD defaultMediumPollInterval)
  let started := constructed.modifyCoordinator c fun coordinator =>
    { coordinator with started := true }
  { started with
    phase := .waitingReady c
    runtimeData := some c
    unloadCallbacks := s.unloadCallbacks ++ [.stopCoordinator c, .removeUpdateListener]
    updateListener := true }

theorem beginSetup_of_selected {bleName : Option Text} {product : ProductRuntime}
    (selected : selectProduct entry bleName = some product) :
    beginSetup entry s (some bleName) = setUpWith s product := by
  simp only [beginSetup, selected, setUpWith]

/-- A setup that selected a product adds a coordinator for it. -/
theorem setUpWith_sameSchedule (s : State) (product : ProductRuntime) :
    ∃ coordinator : Coordinator, coordinator.product = product ∧
      SameSchedule { s with coordinators := s.coordinators ++ [coordinator] }
        (setUpWith s product) := by
  unfold setUpWith
  dsimp only
  generalize s.options.pollInterval.getD defaultPollInterval = fast
  generalize s.options.mediumPollInterval.getD defaultMediumPollInterval = medium
  obtain ⟨coordinator, scheduled, own⟩ : ∃ coordinator : Coordinator,
      construct s product fast medium = updatePollSchedule
        { s with coordinators := s.coordinators ++ [coordinator] } s.coordinators.length ∧
      coordinator.product = product := ⟨_, rfl, rfl⟩
  have started :=
    (started_quiet (construct s product fast medium) s.coordinators.length).sameSchedule
  rw [scheduled] at started ⊢
  refine ⟨coordinator, own, ?_⟩
  exact (updatePollSchedule_sameSchedule _ _).trans (started.trans ⟨rfl, rfl, rfl, rfl⟩)

/-! ### What a step does -/

/-- A step of the entry polls, constructs a coordinator for the product the setup selected,
forwards the platforms of a coordinator's product, or unloads the platforms. -/
inductive ScheduleEffect (entry : Entry) (s : State) : Event → State → Prop where
  | polls {e : Event} {t : State} (polled : Polled s t) : ScheduleEffect entry s e t
  | constructs {bleName : Option Text} {product : ProductRuntime}
    (selected : selectProduct entry bleName = some product) {coordinator : Coordinator}
    (own : coordinator.product = product) {t : State}
    (same : SameSchedule { s with coordinators := s.coordinators ++ [coordinator] } t) :
    ScheduleEffect entry s (.setup (some bleName)) t
  | forwards {e : Event} {c : Nat} {product : ProductRuntime}
    (known : s.products[c]? = some product) {t : State}
    (same : SameSchedule { s with platforms := platformsForProduct product.profile.productId } t) :
    ScheduleEffect entry s e t
  | unloads {e : Event} {t : State} (same : SameSchedule { s with platforms := [] } t) :
    ScheduleEffect entry s e t

theorem ScheduleEffect.of_same {e : Event} (same : SameSchedule s t) :
    ScheduleEffect entry s e t := .polls same.polled

theorem beginSetup_effectOnSchedule (entry : Entry) (s : State)
    (bleDevice : Option (Option Text)) :
    ScheduleEffect entry s (.setup bleDevice) (beginSetup entry s bleDevice) := by
  cases bleDevice with
  | none => exact .of_same (raiseNotReady_sameSchedule s)
  | some bleName =>
    cases selected : selectProduct entry bleName with
    | none =>
      simp only [beginSetup, selected]
      exact .of_same (raiseNotReady_sameSchedule s)
    | some product =>
      obtain ⟨coordinator, own, same⟩ := setUpWith_sameSchedule s product
      rw [beginSetup_of_selected selected]
      exact .constructs selected own same

theorem forwardPlatforms_effectOnSchedule {c : Nat} {e : Event} {coordinator : Coordinator}
    (here : s.coordinators[c]? = some coordinator) :
    ScheduleEffect entry s e (forwardPlatforms s c) := by
  refine .forwards (State.products_of_getElem? here) ⟨rfl, ?_, rfl, rfl⟩
  simp [forwardPlatforms, here]

theorem scheduleEffect_of_step (plans : Plans s) (h : step entry s e = some t) :
    ScheduleEffect entry s e t := by
  cases step_eq_some_iff.mp h with
  | setup _ bleDevice => exact beginSetup_effectOnSchedule entry s bleDevice
  | readyTimeout => exact .of_same (raiseNotReady_sameSchedule s)
  | ready _ here => exact forwardPlatforms_effectOnSchedule here
  | forwardFails => exact .of_same (failSetup_quiet s).sameSchedule
  | setupCancelled => exact .of_same (failSetup_quiet s).sameSchedule
  | unload => exact .of_same (beginUnload_quiet s).sameSchedule
  | unloaded =>
    have quiet := processOnUnload_quiet { s with domainData := none }
    exact .unloads ⟨quiet.products, rfl, quiet.polls, quiet.sent⟩
  | updateRuns =>
    have taken : SameSchedule s { s with pendingUpdates := s.pendingUpdates - 1 } :=
      ⟨rfl, rfl, rfl, rfl⟩
    exact .of_same (taken.trans (handleEntryUpdate_sameSchedule _))
  | advertisement => exact .of_same (advertised_quiet s _).sameSchedule
  | advertisementPoll => exact .polls (polled_of_queues s)
  | tick live connectable =>
    refine .polls ?_
    rcases timePoll_cases s _ connectable with none | queued
    · rw [none]
      exact (Quiet.refl s).sameSchedule.polled
    · rw [queued]
      exact polled_of_queues s
  | pollStarts _ _ now =>
    exact .polls ((runPoll_moves s _ _ now).polled fun _ none => absurd none List.not_mem_nil)
  | fastEnds awaits success now =>
    exact .polls (recordedMoves_polled plans success awaits rfl (pollFast_moves _ _ _ now _))
  | mediumEnds awaits success now =>
    exact .polls (recordedMoves_polled plans success awaits rfl (pollMedium_moves _ _ _ now _))
  | pollCancelled => exact .polls (removePoll_polled s _)
  | _ => exact .of_same ⟨rfl, rfl, rfl, rfl⟩

namespace ScheduleEffect

theorem products (effect : ScheduleEffect entry s e t) : s.products <+: t.products := by
  cases effect with
  | polls polled => exact State.prefix_of_products polled.products
  | constructs _ _ same =>
    rw [same.products]
    simp [State.products]
  | forwards _ same => exact State.prefix_of_products same.products
  | unloads same => exact State.prefix_of_products same.products

/-- A step sends at most one command, and a planned one. -/
theorem sent (effect : ScheduleEffect entry s e t) :
    t.sent = s.sent ∨ ∃ c command, t.sent = s.sent ++ [(c, command)] ∧ s.Planned c command := by
  cases effect with
  | polls polled => exact polled.sent
  | constructs _ _ same => exact .inl same.sent
  | forwards _ same => exact .inl same.sent
  | unloads same => exact .inl same.sent

theorem plans (effect : ScheduleEffect entry s e t) (plans : Plans s) : Plans t := by
  have kept : ∀ poll ∈ s.polls, ∀ command ∈ poll.pc.commands,
      t.Planned poll.coordinator command :=
    fun poll member command hcommand => (plans poll member command hcommand).mono effect.products
  cases effect with
  | polls polled =>
    intro poll member command hcommand
    rcases polled.polls poll member with before | planned
    · exact kept poll before command hcommand
    · exact (planned command hcommand).mono (State.prefix_of_products polled.products)
  | constructs _ _ same => exact fun poll member => kept poll (same.polls ▸ member)
  | forwards _ same => exact fun poll member => kept poll (same.polls ▸ member)
  | unloads same => exact fun poll member => kept poll (same.polls ▸ member)

end ScheduleEffect

end MarstekBle.Polling
