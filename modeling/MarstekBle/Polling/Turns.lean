/- module: Polling/Turns
   source: custom_components/marstek_ble/coordinator.py, product_coordinator.py
   digest: What a step does to the polls, the commands they recorded and the backoff. -/

import MarstekBle.Polling.Transitions

/-!
A coordinator keeps one list of recorded commands for whichever poll holds its lock.
An event either leaves the polls, these lists and the backoff alone, or queues a
poll, or gives a poll its turn, or takes a poll away.
-/

set_option autoImplicit false
set_option relaxedAutoImplicit false

namespace MarstekBle.Polling

open MarstekBle.Data MarstekBle.Product

variable {entry : Entry} {s t : State} {e : Event}

/-- The recorded commands of each coordinator. -/
def State.books (s : State) : List (List (PollCommand × Bool)) :=
  s.coordinators.map Coordinator.currentPollCommands

/-- The recorded commands of one coordinator. -/
def State.book (s : State) (c : Nat) : List (PollCommand × Bool) := (s.books[c]?).getD []

/-- The level and the deadline of the module's backoff. -/
def State.backoff (s : State) : Nat × Option ℚ := (s.globalBackoffLevel, s.globalBackoffUntil)

/-- A poll that has left the queue holds its coordinator's lock. -/
def PollPc.active : PollPc → Bool
  | .queued => false
  | _ => true

/-- Of two polls of one coordinator the later is still in the queue. -/
def Exclusive (polls : List Poll) : Prop :=
  polls.Pairwise fun earlier later =>
    later.pc.active = true → earlier.coordinator ≠ later.coordinator

/-! ### Steps beside the polls -/

/-- Coordinators may be added; polls, recorded commands and backoff are the same. -/
structure SameBooks (s t : State) : Prop where
  books : s.books <+: t.books
  polls : t.polls = s.polls
  sent : t.sent = s.sent
  backoff : t.backoff = s.backoff

namespace SameBooks

theorem of_books (books : t.books = s.books) (polls : t.polls = s.polls)
    (sent : t.sent = s.sent) (backoff : t.backoff = s.backoff) : SameBooks s t :=
  ⟨books ▸ List.prefix_rfl, polls, sent, backoff⟩

theorem refl (s : State) : SameBooks s s := .of_books rfl rfl rfl rfl

theorem trans {r : State} (first : SameBooks s r) (second : SameBooks r t) : SameBooks s t :=
  ⟨first.books.trans second.books, second.polls.trans first.polls,
    second.sent.trans first.sent, second.backoff.trans first.backoff⟩

end SameBooks

theorem books_modifyCoordinator (s : State) (c : Nat) {f : Coordinator → Coordinator}
    (keeps : ∀ coordinator, (f coordinator).currentPollCommands =
      coordinator.currentPollCommands) : (s.modifyCoordinator c f).books = s.books := by
  refine (map_modifyCoordinator s c Coordinator.currentPollCommands id keeps).trans ?_
  simp [State.books]

theorem modifyCoordinator_sameBooks (s : State) (c : Nat) {f : Coordinator → Coordinator}
    (keeps : ∀ coordinator, (f coordinator).currentPollCommands =
      coordinator.currentPollCommands) : SameBooks s (s.modifyCoordinator c f) :=
  .of_books (books_modifyCoordinator s c keeps) rfl rfl rfl

theorem updatePollSchedule_sameBooks (s : State) (c : Nat) :
    SameBooks s (updatePollSchedule s c) := by
  unfold updatePollSchedule
  split
  · exact .refl s
  · refine .of_books ?_ rfl rfl rfl
    exact books_modifyCoordinator s c fun _ => rfl

theorem setPollIntervals_sameBooks (s : State) (c : Nat) (pollInterval : Int)
    (mediumPollInterval : Option Int) :
    SameBooks s (setPollIntervals s c pollInterval mediumPollInterval) := by
  unfold setPollIntervals
  split
  · exact .refl s
  · dsimp only
    split
    · exact .refl s
    · refine SameBooks.trans ?_ (updatePollSchedule_sameBooks _ c)
      exact modifyCoordinator_sameBooks s c fun _ => rfl

theorem construct_sameBooks (s : State) (product : ProductRuntime) (fast medium : Int) :
    SameBooks s (construct s product fast medium) := by
  have added : ∀ coordinator : Coordinator,
      SameBooks s { s with coordinators := s.coordinators ++ [coordinator] } := by
    intro coordinator
    refine ⟨?_, rfl, rfl, rfl⟩
    simp [State.books]
  exact (added _).trans (updatePollSchedule_sameBooks _ _)

theorem processOnUnload_sameBooks (s : State) : SameBooks s (processOnUnload s) := by
  have folded : ∀ (callbacks : List UnloadCallback) (r : State),
      SameBooks r (callbacks.foldl runUnloadCallback r) := by
    intro callbacks
    induction callbacks with
    | nil => exact fun r => .refl r
    | cons callback rest ih =>
      intro r
      have first : SameBooks r (runUnloadCallback r callback) := by
        cases callback with
        | stopCoordinator c => exact modifyCoordinator_sameBooks r c fun _ => rfl
        | removeUpdateListener => exact ⟨List.prefix_rfl, rfl, rfl, rfl⟩
      exact first.trans (ih _)
  have all := folded s.unloadCallbacks s
  exact ⟨all.books, all.polls, all.sent, all.backoff⟩

theorem raiseNotReady_sameBooks (s : State) : SameBooks s (raiseNotReady s) := by
  have all := processOnUnload_sameBooks s
  exact ⟨all.books, all.polls, all.sent, all.backoff⟩

theorem failSetup_sameBooks (s : State) : SameBooks s (failSetup s) := by
  have all := processOnUnload_sameBooks s
  exact ⟨all.books, all.polls, all.sent, all.backoff⟩

theorem returnUnloaded_sameBooks (s : State) : SameBooks s (returnUnloaded s) := by
  have all := processOnUnload_sameBooks { s with domainData := none }
  exact ⟨all.books, all.polls, all.sent, all.backoff⟩

theorem beginSetup_sameBooks (entry : Entry) (s : State) (bleDevice : Option (Option Text)) :
    SameBooks s (beginSetup entry s bleDevice) := by
  unfold beginSetup
  split
  · exact raiseNotReady_sameBooks s
  · split
    · exact raiseNotReady_sameBooks s
    · rename_i product _
      dsimp only
      have constructed := construct_sameBooks s product
        (s.options.pollInterval.getD defaultPollInterval)
        (s.options.mediumPollInterval.getD defaultMediumPollInterval)
      refine constructed.trans (SameBooks.of_books ?_ rfl rfl rfl)
      exact books_modifyCoordinator _ s.coordinators.length fun _ => rfl

theorem beginUnload_sameBooks (s : State) : SameBooks s (beginUnload s) := by
  unfold beginUnload
  split <;> exact ⟨List.prefix_rfl, rfl, rfl, rfl⟩

theorem handleEntryUpdate_sameBooks (s : State) : SameBooks s (handleEntryUpdate s) := by
  unfold handleEntryUpdate
  split
  · exact .refl s
  · exact setPollIntervals_sameBooks s _ _ _

/-! ### Turns -/

/-- A command recorded by the coordinator has failed. -/
def State.failing (s : State) (c : Nat) : Bool := (s.book c).any (!·.2)

/-- A poll whose turn it is sends a command and awaits it, or completes and tells the
backoff whether one of its coordinator's recorded commands failed. -/
inductive Turn (s : State) (position c : Nat) (now : ℚ) (t : State) : Prop where
  | sends {command : PollCommand} {pc : PollPc} (awaits : pc.active = true)
    (polls : t.polls = s.polls.set position ⟨c, pc⟩) (sent : t.sent = s.sent ++ [(c, command)])
    (books : t.books = s.books) (backoff : t.backoff = s.backoff)
  | completes (polls : t.polls = s.polls.eraseIdx position) (sent : t.sent = s.sent)
    (books : t.books = s.books)
    (backoff : t.backoff = (handleBackoff s (s.failing c) now).backoff)

theorem handleBackoff_congr {r : State} (same : r.backoff = s.backoff) (hadFailure : Bool)
    (now : ℚ) : (handleBackoff r hadFailure now).backoff =
      (handleBackoff s hadFailure now).backoff := by
  have level : r.globalBackoffLevel = s.globalBackoffLevel := congrArg Prod.fst same
  have deadline : r.globalBackoffUntil = s.globalBackoffUntil := congrArg Prod.snd same
  simp only [handleBackoff, State.backoff, level, deadline]
  split
  · rfl
  · split
    · rfl
    · exact Prod.ext level deadline

theorem handleBackoff_books (s : State) (hadFailure : Bool) (now : ℚ) :
    (handleBackoff s hadFailure now).books = s.books := by
  unfold handleBackoff
  split
  · rfl
  · split <;> rfl

/-- Bookkeeping that is not recorded may come before a turn. -/
theorem Turn.of_same {r : State} {position c : Nat} {now : ℚ} (turn : Turn r position c now t)
    (books : r.books = s.books) (polls : r.polls = s.polls) (sent : r.sent = s.sent)
    (backoff : r.backoff = s.backoff) : Turn s position c now t := by
  cases turn with
  | sends awaits polls' sent' books' backoff' =>
    exact .sends awaits (polls ▸ polls') (sent ▸ sent') (books'.trans books)
      (backoff'.trans backoff)
  | completes polls' sent' books' backoff' =>
    refine .completes (polls ▸ polls') (sent'.trans sent) (books'.trans books) ?_
    have failing : r.failing c = s.failing c := by
      simp only [State.failing, State.book, books]
    rw [backoff', failing]
    exact handleBackoff_congr backoff _ now

theorem completePoll_turn (s : State) (position c : Nat) (now : ℚ) :
    Turn s position c now (completePoll s position c now) := by
  have done : (s.modifyCoordinator c fun coordinator =>
      { coordinator with initialPollDone := true }).books = s.books :=
    books_modifyCoordinator s c fun _ => rfl
  have completes : ∀ hadFailure, s.failing c = hadFailure →
      Turn s position c now (removePoll (handleBackoff (s.modifyCoordinator c fun coordinator =>
        { coordinator with initialPollDone := true }) hadFailure now) position) := by
    rintro hadFailure rfl
    have quiet := handleBackoff_quiet (s.modifyCoordinator c fun coordinator =>
      { coordinator with initialPollDone := true }) (s.failing c) now
    refine .completes ?_ quiet.sent ((handleBackoff_books _ _ now).trans done) ?_
    · exact congrArg (List.eraseIdx · position) quiet.polls
    · have same : (s.modifyCoordinator c fun coordinator =>
          { coordinator with initialPollDone := true }).backoff = s.backoff := rfl
      exact handleBackoff_congr same _ now
  unfold completePoll
  cases here : s.coordinators[c]? with
  | none => exact completes false (by simp [State.failing, State.book, State.books, here])
  | some coordinator => exact completes _ (by simp [State.failing, State.book, State.books, here])

theorem pollMedium_turn (s : State) (position c : Nat) (now : ℚ) (commands : List PollCommand) :
    Turn s position c now (pollMedium s position c now commands) := by
  cases commands with
  | cons command rest => exact .sends (by rfl) rfl rfl rfl rfl
  | nil =>
    rw [pollMedium]
    refine .of_same (completePoll_turn _ position c now) ?_ rfl rfl rfl
    exact books_modifyCoordinator s c fun _ => rfl

theorem pollFast_turn {c : Nat} (known : c < s.coordinators.length) (position : Nat) (now : ℚ)
    (commands : List PollCommand) :
    Turn s position c now (pollFast s position c now commands) := by
  cases commands with
  | cons command rest => exact .sends (by rfl) rfl rfl rfl rfl
  | nil =>
    have counted : (s.modifyCoordinator c fun coordinator =>
        { coordinator with fastPollCount := coordinator.fastPollCount + 1 }).books = s.books :=
      books_modifyCoordinator s c fun _ => rfl
    unfold pollFast
    dsimp only
    split
    · rename_i unknown
      simp [State.modifyCoordinator] at unknown
      omega
    · split
      · exact .of_same (pollMedium_turn _ position c now _) counted rfl rfl rfl
      · exact .of_same (completePoll_turn _ position c now) counted rfl rfl rfl

/-! ### What a step does -/

/-- The coordinator forgets the commands of its last poll. -/
def clearBook (s : State) (c : Nat) : State :=
  s.modifyCoordinator c fun coordinator => { coordinator with currentPollCommands := [] }

/-- The poll an event is about. -/
def Event.position : Event → Option Nat
  | .pollStarts position _ => some position
  | .commandEnds position _ _ => some position
  | .pollCancelled position => some position
  | _ => none

/-- The effects of an event on the polls of an entry. -/
inductive PollEffect (s : State) : Event → State → Prop where
  | apart {e : Event} {t : State} (other : e.position = none) (same : SameBooks s t) :
    PollEffect s e t
  | queues {e : Event} (other : e.position = none) {c : Nat} (known : c < s.coordinators.length) :
    PollEffect s e { s with polls := s.polls ++ [⟨c, .queued⟩] }
  | skips {position : Nat} {now : ℚ} (active : backoffActive s now = true)
    (inside : position < s.polls.length) :
    PollEffect s (.pollStarts position now) (removePoll s position)
  | starts {position c : Nat} {now : ℚ} (inactive : backoffActive s now = false)
    (queued : s.polls[position]? = some ⟨c, .queued⟩) (next : nextInLine s position c = true)
    {t : State} (turn : Turn (clearBook s c) position c now t) :
    PollEffect s (.pollStarts position now) t
  | ends {position c : Nat} {pc : PollPc} {command : PollCommand} {success : Bool} {now : ℚ}
    (active : pc.active = true) (awaits : s.polls[position]? = some ⟨c, pc⟩) {t : State}
    (turn : Turn (recordCommand s c command success) position c now t) :
    PollEffect s (.commandEnds position success now) t
  | cancels {position : Nat} (inside : position < s.polls.length) :
    PollEffect s (.pollCancelled position) (removePoll s position)

/-- The backoff is not written by another entry in this event. -/
def Event.own : Event → Bool
  | .backoffElsewhere _ _ => false
  | _ => true

theorem runPoll_effect {position c : Nat} {now : ℚ} (known : c < s.coordinators.length)
    (queued : s.polls[position]? = some ⟨c, .queued⟩) (next : nextInLine s position c = true) :
    PollEffect s (.pollStarts position now) (runPoll s position c now) := by
  have inside : position < s.polls.length := (List.getElem?_eq_some_iff.mp queued).1
  unfold runPoll
  split
  · rename_i active
    exact .skips active inside
  · rename_i inactive
    split
    · rename_i unknown
      rw [List.getElem?_eq_none_iff] at unknown
      omega
    · rename_i coordinator _
      refine .starts (eq_false_of_ne_true inactive) queued next ?_
      dsimp only
      refine .of_same (pollFast_turn ?_ position now coordinator.product.fastPoll) ?_ rfl rfl rfl
      · simpa [State.modifyCoordinator] using known
      · refine (map_modifyCoordinator s c Coordinator.currentPollCommands (fun _ => [])
          fun _ => rfl).trans ?_
        exact (map_modifyCoordinator s c Coordinator.currentPollCommands (fun _ => [])
          fun _ => rfl).symm

theorem pollEffect_of_step (known : ∀ poll ∈ s.polls, poll.coordinator < s.coordinators.length)
    (own : e.own = true) (h : step entry s e = some t) : PollEffect s e t := by
  cases step_eq_some_iff.mp h with
  | setup _ bleDevice => exact .apart rfl (beginSetup_sameBooks entry s bleDevice)
  | readyTimeout _ => exact .apart rfl (raiseNotReady_sameBooks s)
  | forwardFails _ => exact .apart rfl (failSetup_sameBooks s)
  | setupCancelled _ => exact .apart rfl (failSetup_sameBooks s)
  | unload _ => exact .apart rfl (beginUnload_sameBooks s)
  | unloaded _ => exact .apart rfl (returnUnloaded_sameBooks s)
  | updateRuns _ =>
    have updated := handleEntryUpdate_sameBooks { s with pendingUpdates := s.pendingUpdates - 1 }
    exact .apart rfl ⟨updated.books, updated.polls, updated.sent, updated.backoff⟩
  | advertisement _ _ => exact .apart rfl (modifyCoordinator_sameBooks s _ fun _ => rfl)
  | advertisementPoll here _ =>
    exact .queues rfl (List.getElem?_eq_some_iff.mp here).1
  | tick live connectable =>
    unfold timePoll
    split
    · exact .apart rfl (.refl s)
    · rename_i here
      split
      · exact .queues rfl (List.getElem?_eq_some_iff.mp here).1
      · exact .apart rfl (.refl s)
  | pollStarts queued next now =>
    exact runPoll_effect (known _ (List.mem_of_getElem? queued)) queued next
  | fastEnds awaits success now =>
    have inside := known _ (List.mem_of_getElem? awaits)
    refine .ends rfl awaits (pollFast_turn ?_ _ now _)
    simpa [recordCommand, State.modifyCoordinator] using inside
  | mediumEnds awaits success now => exact .ends rfl awaits (pollMedium_turn _ _ _ now _)
  | pollCancelled inside => exact .cancels inside
  | backoffElsewhere level deadline => cases own
  | _ => exact .apart rfl (.of_books rfl rfl rfl rfl)

end MarstekBle.Polling
