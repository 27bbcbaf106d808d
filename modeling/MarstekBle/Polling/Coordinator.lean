/- module: Polling/Coordinator
   source: custom_components/marstek_ble/coordinator.py, product_coordinator.py
   digest: Coordinators: their intervals, their interval timers and their polls. -/

import Mathlib.Data.Rat.Floor
import MarstekBle.Product.Registry

/-!
The state holds everything one config entry leaves in Home Assistant: every
coordinator that was constructed for it, the interval timers that are live and
the polls that are under way. A coordinator is known by its index.
-/

set_option autoImplicit false
set_option relaxedAutoImplicit false

namespace MarstekBle.Polling

open MarstekBle.Data MarstekBle.Product

def defaultPollInterval : Int := 1
def defaultMediumPollInterval : Int := 60
def minPollInterval : Int := 1
def maxPollInterval : Int := 60
def minMediumPollInterval : Int := 5
def maxMediumPollInterval : Int := 300
def backoffIntervals : List Nat := [1, 5, 15, 30, 60]

/-- What a `ProductDataUpdateCoordinator` remembers from one step to the next. -/
structure Coordinator where
  product : ProductRuntime
  pollInterval : Int
  mediumPollInterval : Int
  mediumPollCycle : Int := 1
  updateInterval : Int := 0
  fastPollCount : Nat := 0
  mediumPollCount : Nat := 0
  initialPollDone : Bool := false
  readyEvent : Bool := false
  started : Bool := false
  hasServiceInfo : Bool := false
  currentPollCommands : List (PollCommand × Bool) := []
  timePollUnsub : Option Nat := none

/-- A timer of `async_track_time_interval` that has not been cancelled. -/
structure Interval where
  id : Nat
  coordinator : Nat
  seconds : Int

/-- Where a poll is: before the poll lock, or awaiting the first of some commands. -/
inductive PollPc where
  | queued
  | fast (command : PollCommand) (rest : List PollCommand)
  | medium (command : PollCommand) (rest : List PollCommand)

structure Poll where
  coordinator : Nat
  pc : PollPc

/-- The options of the config entry. -/
structure Options where
  pollInterval : Option Int := none
  mediumPollInterval : Option Int := none

/-- How far the setup or the unload of the entry is. -/
inductive Phase where
  | notLoaded
  | setupRetry
  | setupError
  | waitingReady (coordinator : Nat)
  | forwarding (coordinator : Nat)
  | loaded
  | disconnecting
  | unloadingPlatforms
  | failedUnload
  deriving DecidableEq

/-- A callback that was handed to `entry.async_on_unload`. -/
inductive UnloadCallback where
  | stopCoordinator (coordinator : Nat)
  | removeUpdateListener

inductive Platform where
  | sensor
  | binarySensor
  | button
  | switch
  | select
  deriving DecidableEq

/-- The entry's part of `hass.data`. -/
structure DomainData where
  coordinator : Nat
  productId : String

/-- `retired` counts the coordinators constructed before the entry was last
unloaded or its setup last raised `ConfigEntryNotReady`. -/
structure State where
  phase : Phase := .notLoaded
  options : Options := {}
  runtimeData : Option Nat := none
  domainData : Option DomainData := none
  unloadCallbacks : List UnloadCallback := []
  updateListener : Bool := false
  pendingUpdates : Nat := 0
  platforms : List Platform := []
  coordinators : List Coordinator := []
  intervals : List Interval := []
  registered : Nat := 0
  polls : List Poll := []
  sent : List (Nat × PollCommand) := []
  globalBackoffLevel : Nat := 0
  globalBackoffUntil : Option ℚ := none
  retired : Nat := 0

def State.modifyCoordinator (s : State) (c : Nat) (f : Coordinator → Coordinator) : State :=
  { s with coordinators := s.coordinators.modify c f }

/-! ### The polling schedule -/

def sanitizeFastPollInterval (pollInterval : Int) : Int :=
  if pollInterval < minPollInterval then minPollInterval
  else if maxPollInterval < pollInterval then maxPollInterval
  else pollInterval

/-- `fast_poll_interval or self._poll_interval` is the interval that bounds it. -/
def sanitizeMediumPollInterval (ownPollInterval mediumPollInterval : Int)
    (fastPollInterval : Option Int) : Int :=
  let fastInterval := match fastPollInterval with
    | some fast => if fast = 0 then ownPollInterval else fast
    | none => ownPollInterval
  let medium := if mediumPollInterval < minMediumPollInterval then minMediumPollInterval
    else mediumPollInterval
  let medium := if maxMediumPollInterval < medium then maxMediumPollInterval else medium
  if medium < fastInterval then fastInterval else medium

/-- Cancel the timer of a coordinator, if it has one, and start a new one. -/
def updatePollSchedule (s : State) (c : Nat) : State :=
  match s.coordinators[c]? with
  | none => s
  | some coordinator =>
    let kept := match coordinator.timePollUnsub with
      | some id => s.intervals.filter (·.id ≠ id)
      | none => s.intervals
    { s.modifyCoordinator c fun coordinator => { coordinator with
        updateInterval := coordinator.pollInterval
        mediumPollCycle :=
          max 1 ⌈(coordinator.mediumPollInterval : ℚ) / (coordinator.pollInterval : ℚ)⌉
        timePollUnsub := some s.registered } with
      intervals := kept ++ [⟨s.registered, c, coordinator.pollInterval⟩]
      registered := s.registered + 1 }

/-- `ProductDataUpdateCoordinator(...)`. -/
def construct (s : State) (product : ProductRuntime) (pollInterval mediumPollInterval : Int) :
    State :=
  let fast := sanitizeFastPollInterval pollInterval
  let coordinator : Coordinator := {
    product
    pollInterval := fast
    mediumPollInterval := sanitizeMediumPollInterval fast mediumPollInterval none }
  updatePollSchedule { s with coordinators := s.coordinators ++ [coordinator] }
    s.coordinators.length

def setPollIntervals (s : State) (c : Nat) (pollInterval : Int)
    (mediumPollInterval : Option Int) : State :=
  match s.coordinators[c]? with
  | none => s
  | some coordinator =>
    let fast := sanitizeFastPollInterval pollInterval
    let medium := sanitizeMediumPollInterval coordinator.pollInterval
      (mediumPollInterval.getD coordinator.mediumPollInterval) (some fast)
    if fast = coordinator.pollInterval ∧ medium = coordinator.mediumPollInterval then s
    else updatePollSchedule (s.modifyCoordinator c fun coordinator => { coordinator with
      pollInterval := fast
      mediumPollInterval := medium
      fastPollCount := 0
      mediumPollCount := 0 }) c

/-! ### Polls -/

/-- `bool(_GLOBAL_BACKOFF_UNTIL)`: a deadline of exactly 0.0 counts as none. -/
def truthy (deadline : Option ℚ) : Bool := deadline.any (· ≠ 0)

/-- `_GLOBAL_BACKOFF_UNTIL and now < _GLOBAL_BACKOFF_UNTIL`. -/
def backoffActive (s : State) (now : ℚ) : Bool :=
  truthy s.globalBackoffUntil && s.globalBackoffUntil.any (now < ·)

/-- `_handle_backoff` at the clock reading `now`. -/
def handleBackoff (s : State) (hadFailure : Bool) (now : ℚ) : State :=
  if hadFailure then
    let level := if s.globalBackoffLevel < backoffIntervals.length - 1
      then s.globalBackoffLevel + 1 else s.globalBackoffLevel
    { s with
      globalBackoffLevel := level
      globalBackoffUntil := some (now + backoffIntervals.getD level 0) }
  else if 0 < s.globalBackoffLevel ∨ truthy s.globalBackoffUntil then
    { s with globalBackoffLevel := 0, globalBackoffUntil := none }
  else s

/-- The poll at a position ends and releases the poll lock. -/
def removePoll (s : State) (position : Nat) : State :=
  { s with polls := s.polls.eraseIdx position }

/-- The poll starts to send a command. -/
def sendPollCommand (s : State) (position c : Nat) (command : PollCommand) (pc : PollPc) : State :=
  { s with
    polls := s.polls.set position ⟨c, pc⟩
    sent := s.sent ++ [(c, command)] }

/-- The end of `_async_run_poll`. -/
def completePoll (s : State) (position c : Nat) (now : ℚ) : State :=
  let hadFailure := match s.coordinators[c]? with
    | some coordinator => coordinator.currentPollCommands.any (!·.2)
    | none => false
  let done := s.modifyCoordinator c fun coordinator => { coordinator with initialPollDone := true }
  removePoll (handleBackoff done hadFailure now) position

/-- `_poll_medium`, from a command on. -/
def pollMedium (s : State) (position c : Nat) (now : ℚ) : List PollCommand → State
  | command :: rest => sendPollCommand s position c command (.medium command rest)
  | [] => completePoll (s.modifyCoordinator c fun coordinator =>
      { coordinator with mediumPollCount := coordinator.mediumPollCount + 1 }) position c now

/-- `_poll_fast`, from a command on, and what follows it. -/
def pollFast (s : State) (position c : Nat) (now : ℚ) : List PollCommand → State
  | command :: rest => sendPollCommand s position c command (.fast command rest)
  | [] =>
    let s := s.modifyCoordinator c fun coordinator =>
      { coordinator with fastPollCount := coordinator.fastPollCount + 1 }
    match s.coordinators[c]? with
    | none => s
    | some coordinator =>
      if !coordinator.initialPollDone ∨
          (coordinator.fastPollCount : Int) % coordinator.mediumPollCycle = 0 then
        pollMedium s position c now coordinator.product.mediumPoll
      else completePoll s position c now

/-- `_async_run_poll`, up to its first command. -/
def runPoll (s : State) (position c : Nat) (now : ℚ) : State :=
  if backoffActive s now then removePoll s position
  else match s.coordinators[c]? with
    | none => s
    | some coordinator =>
      let started := s.modifyCoordinator c fun coordinator =>
        { coordinator with currentPollCommands := [], hasServiceInfo := true }
      pollFast started position c now coordinator.product.fastPoll

/-- The command a poll awaits has succeeded or failed. -/
def commandEnds (s : State) (position : Nat) (success : Bool) (now : ℚ) : Option State :=
  let record (c : Nat) (command : PollCommand) := s.modifyCoordinator c fun coordinator =>
    { coordinator with
      currentPollCommands := coordinator.currentPollCommands ++ [(command, success)] }
  match s.polls[position]? with
  | some ⟨c, .fast command rest⟩ => some (pollFast (record c command) position c now rest)
  | some ⟨c, .medium command rest⟩ => some (pollMedium (record c command) position c now rest)
  | _ => none

/-- `_async_time_poll`, up to the poll lock. -/
def timePoll (s : State) (c : Nat) (connectable : Bool) : State :=
  match s.coordinators[c]? with
  | none => s
  | some coordinator =>
    if coordinator.hasServiceInfo ∨ connectable then
      { s with polls := s.polls ++ [⟨c, .queued⟩] }
    else s

end MarstekBle.Polling
