/- module: Standalone/Release
   source: standalone_test/marstek_basic_info.py
   digest: What the collection holds at the proxy, and when all of it is given back. -/

import MarstekBle.Standalone.Reports

set_option autoImplicit false
set_option relaxedAutoImplicit false

namespace MarstekBle.Standalone

open MarstekBle.Data MarstekBle.Protocol MarstekBle.Lib.GuardedRun

/-- No caller waits. -/
def NoneLive (s : BLEDeviceSession) : Prop := ∀ call ∈ s.calls, call.live = false

/-- A collection that is over left nothing at the proxy: it disconnected once, holds no
subscription, and no call waits. -/
def Released (c : Collector) : Prop :=
  ∀ outcome, c.pc = .finished outcome →
    c.disconnects = 1 ∧ c.notifying = false ∧ c.stateSubscribed = false ∧ NoneLive c.session

/-- The body of `close` runs to its end, or nothing is left to do in it: it is not cancelled
before it disconnects, and what ends its disconnect finds no subscription to cancel. -/
def RunsToEnd (c : Collector) (e : CollectEvent) (_ : Collector) : Prop :=
  match c.pc, e with
  | .stoppingNotify _, .cancel => False
  | .disconnecting _, .cancel | .disconnecting _, .disconnectRaises _ => c.stateSubscribed = false
  | _, _ => True

/-- The part of `close` before its first `await` comes before everything else in it. -/
structure Held (c : Collector) : Prop where
  queues : Queues c.session
  opened : c.pc.outcome = none → c.session.closed = false ∧ c.disconnects = 0
  stopping : ∀ outcome, c.pc = .stoppingNotify outcome → c.notifying = true ∧ c.disconnects = 0
  leaving : ∀ outcome, c.pc = .disconnecting outcome → c.notifying = false ∧ c.disconnects = 1
  left : c.disconnects ≤ 1
  quiet : c.pc.outcome.isSome = true → OnlyQueued c.session none ∧ NoneLive c.session

/-! ### Closing -/

section Closing

variable {s : BLEDeviceSession}

theorem close_empties (opened : s.closed = false) : OnlyQueued s.close none := by
  intro command i member
  simp [BLEDeviceSession.close, opened] at member

theorem close_noneLive (queues : Queues s) (opened : s.closed = false) : NoneLive s.close := by
  intro call member
  obtain ⟨id, there⟩ := List.mem_iff_getElem?.mp member
  cases live : call.live with
  | false => rfl
  | true =>
    have queued := (queues_close queues).live id call there live
    cases close_empties opened _ id queued

theorem noneLive_handleNotification (idle : OnlyQueued s none) (h : NoneLive s) (data : Bytes) :
    NoneLive (s.handleNotification data) := by
  rw [handleNotification_of_idle idle]
  exact h

end Closing

variable {c d : Collector}

/-- `close` begins: it is not over yet. -/
theorem held_close (queues : Queues c.session) (opened : c.session.closed = false)
    (fresh : c.disconnects = 0) (outcome : CollectOutcome) :
    Held (c.close outcome) ∧ ∀ o, (c.close outcome).pc ≠ .finished o := by
  have sweep := queues_close queues
  have silent := close_noneLive queues opened
  have empty := close_empties opened
  have still : ¬ (c.session.closed = true) := by
    rw [opened]
    exact Bool.false_ne_true
  unfold Collector.close
  rw [if_neg still]
  dsimp only
  split
  · rename_i notifying
    refine ⟨⟨sweep, fun out => ?_, fun _ _ => ⟨notifying, fresh⟩, fun o here => ?_, ?_, fun _ =>
      ⟨empty, silent⟩⟩, fun o here => ?_⟩
    · cases out
    · cases here
    · show c.disconnects ≤ 1
      omega
    · cases here
  · rename_i quiet
    refine ⟨⟨sweep, fun out => ?_, fun o here => ?_, fun _ _ => ⟨?_, ?_⟩, ?_, fun _ =>
      ⟨empty, silent⟩⟩, fun o here => ?_⟩
    · cases out
    · cases here
    · exact Bool.eq_false_iff.mpr quiet
    · show c.disconnects + 1 = 1
      omega
    · show c.disconnects + 1 ≤ 1
      omega
    · cases here

/-- The task goes on without closing. -/
theorem held_opened (queues : Queues c.session) (opened : c.session.closed = false)
    (fresh : c.disconnects = 0) (going : c.pc.outcome = none) :
    Held c ∧ ∀ o, c.pc ≠ .finished o := by
  refine ⟨⟨queues, fun _ => ⟨opened, fresh⟩, fun o here => ?_, fun o here => ?_, by omega,
    fun out => ?_⟩, fun o here => ?_⟩
  · rw [here] at going
    cases going
  · rw [here] at going
    cases going
  · rw [going] at out
    cases out
  · rw [here] at going
    cases going

theorem held_afterCommand (queues : Queues c.session) (opened : c.session.closed = false)
    (fresh : c.disconnects = 0) (spec : CommandSpec) (answer : Except String Bytes) :
    Held (c.afterCommand spec answer) ∧ ∀ o, (c.afterCommand spec answer).pc ≠ .finished o := by
  unfold Collector.afterCommand
  cases Collector.evaluate spec answer with
  | mk entry failed =>
    dsimp only
    generalize (if failed then c.consecutiveFailures + 1 else 0) = failures
    let next : Collector := { c with
      results := MarstekBle.Lib.Dictionary.store c.results spec.key entry
      consecutiveFailures := failures }
    split
    · exact held_close (c := next) queues opened fresh .returned
    · exact held_opened (c := { next with pc := .sleeping }) queues opened fresh rfl

theorem held_settle (queues : Queues c.session) (opened : c.session.closed = false)
    (fresh : c.disconnects = 0) (spec : CommandSpec) (call : Nat) (message : String) :
    Held (c.settle spec call message) ∧ ∀ o, (c.settle spec call message).pc ≠ .finished o := by
  unfold Collector.settle
  split
  · exact held_afterCommand queues opened fresh spec _
  · exact held_close queues opened fresh .cancelled
  · exact held_afterCommand queues opened fresh spec _
  · exact held_opened queues opened fresh rfl

theorem held_nextCommand (queues : Queues c.session) (opened : c.session.closed = false)
    (fresh : c.disconnects = 0) :
    Held c.nextCommand ∧ ∀ o, c.nextCommand.pc ≠ .finished o := by
  unfold Collector.nextCommand
  cases c.remaining with
  | nil => exact held_close queues opened fresh .returned
  | cons spec rest =>
    dsimp only
    split
    · exact held_afterCommand (c := { c with remaining := rest }) queues opened fresh spec _
    · have sent := queues_sendCommand queues spec.commandId.toNat []
      have same : (c.session.sendCommand spec.commandId.toNat []).closed = false := by
        unfold BLEDeviceSession.sendCommand
        split
        · exact opened
        · dsimp only
          split <;> exact opened
      exact held_settle (c := { c with
        remaining := rest, session := c.session.sendCommand spec.commandId.toNat [] })
        sent same fresh spec _ ""

/-! ### One step -/

/-- How the task comes to its end, or stays there. -/
inductive Finishes (c : Collector) (e : CollectEvent) (d : Collector) : Prop where
  | going (still : ∀ o, d.pc ≠ .finished o)
  | stays (outcome : CollectOutcome) (here : c.pc = .finished outcome) (pc : d.pc = c.pc)
      (disconnects : d.disconnects = c.disconnects) (notifying : d.notifying = c.notifying)
      (subscribed : d.stateSubscribed = c.stateSubscribed) (event : ∃ data, e = .notification data)
  | interrupted (outcome : CollectOutcome) (here : c.pc = .stoppingNotify outcome)
      (event : e = .cancel) (disconnects : d.disconnects = 0)
  | disconnected (outcome : CollectOutcome) (here : c.pc = .disconnecting outcome)
      (event : e = .disconnectEnds) (disconnects : d.disconnects = 1)
      (notifying : d.notifying = false) (subscribed : d.stateSubscribed = false)
  | left (outcome : CollectOutcome) (here : c.pc = .disconnecting outcome)
      (event : e = .cancel ∨ ∃ message, e = .disconnectRaises message)
      (disconnects : d.disconnects = 1) (notifying : d.notifying = false)
      (subscribed : d.stateSubscribed = c.stateSubscribed)

variable (strings : StringMethods) (label : String)

theorem collectStep_held {e : CollectEvent} (h : Held c)
    (next : collectStep strings label c e = some d) : Held d ∧ Finishes c e d := by
  have going : ∀ {d : Collector}, (Held d ∧ ∀ o, d.pc ≠ .finished o) → Held d ∧ Finishes c e d :=
    fun held => ⟨held.1, .going held.2⟩
  have open_ : ∀ {pc : CollectPc}, c.pc = pc → pc.outcome = none →
      c.session.closed = false ∧ c.disconnects = 0 :=
    fun here none_ => h.opened (here ▸ none_)
  -- the task after `close` keeps the session as it is
  have ended : ∀ {d : Collector} {outcome : CollectOutcome}, c.pc.outcome.isSome = true →
      d.session = c.session → d.disconnects ≤ 1 → d.pc = .finished outcome → Held d := by
    intro d outcome out session left pc
    obtain ⟨idle, silent⟩ := h.quiet out
    refine ⟨session ▸ h.queues, fun none_ => ?_, fun o here => ?_, fun o here => ?_, left,
      fun _ => ⟨session ▸ idle, session ▸ silent⟩⟩
    · rw [pc] at none_
      cases none_
    · rw [pc] at here
      cases here
    · rw [pc] at here
      cases here
  cases e with
  | connectReturns =>
    simp only [collectStep] at next
    split at next
    · rename_i here
      obtain rfl := Option.some.inj next
      obtain ⟨opened, fresh⟩ := open_ here rfl
      exact going (held_opened h.queues opened fresh rfl)
    · cases next
  | stateReported connected errorText =>
    simp only [collectStep] at next
    split at next
    · rename_i here
      obtain ⟨opened, fresh⟩ := open_ here rfl
      split at next
      · obtain rfl := Option.some.inj next
        exact going (held_opened h.queues opened fresh rfl)
      · obtain rfl := Option.some.inj next
        exact going (held_close h.queues opened fresh _)
    · cases next
  | servicesReturn services =>
    simp only [collectStep] at next
    split at next
    · rename_i here
      obtain ⟨opened, fresh⟩ := open_ here rfl
      split at next
      · obtain rfl := Option.some.inj next
        exact going (held_opened (h.queues.of_same rfl rfl) opened fresh rfl)
      · obtain rfl := Option.some.inj next
        exact going (held_close h.queues opened fresh _)
    · cases next
  | notifyStarts =>
    simp only [collectStep] at next
    split at next
    · rename_i here
      obtain rfl := Option.some.inj next
      obtain ⟨opened, fresh⟩ := open_ here rfl
      exact going (held_nextCommand (c := { c with notifying := true }) h.queues opened fresh)
    · cases next
  | connectRaises message =>
    simp only [collectStep] at next
    split at next
    · rename_i calls
      obtain rfl := Option.some.inj next
      have none_ : c.pc.outcome = none := by
        cases pc : c.pc <;> rw [pc] at calls <;> first | rfl | cases calls
      obtain ⟨opened, fresh⟩ := h.opened none_
      exact going (held_close h.queues opened fresh _)
    · cases next
  | moves move message =>
    simp only [collectStep] at next
    split at next
    · rename_i spec call here
      obtain ⟨session, moved, rfl⟩ := Option.map_eq_some_iff.mp next
      obtain ⟨opened, fresh⟩ := open_ here rfl
      obtain ⟨closed, _, _⟩ := moveCall_fields moved
      exact going (held_settle (c := { c with session }) (queues_moveCall h.queues moved)
        (closed.trans opened) fresh spec call message)
    · cases next
  | wakes =>
    simp only [collectStep] at next
    split at next
    · rename_i here
      obtain rfl := Option.some.inj next
      obtain ⟨opened, fresh⟩ := open_ here rfl
      exact going (held_nextCommand h.queues opened fresh)
    · cases next
  | cancel =>
    simp only [collectStep] at next
    split at next
    · cases next
    · cases next
    · rename_i outcome here
      obtain rfl := Option.some.inj next
      obtain ⟨_, fresh⟩ := h.stopping outcome here
      exact ⟨ended (by rw [here]; rfl) rfl h.left rfl, .interrupted outcome here rfl fresh⟩
    · rename_i outcome here
      obtain rfl := Option.some.inj next
      obtain ⟨quiet, once⟩ := h.leaving outcome here
      exact ⟨ended (by rw [here]; rfl) rfl h.left rfl, .left outcome here (.inl rfl) once quiet rfl⟩
    · rename_i sending finished stopping disconnecting
      obtain rfl := Option.some.inj next
      have none_ : c.pc.outcome = none := by
        cases pc : c.pc with
        | stoppingNotify outcome => exact absurd pc (stopping outcome)
        | disconnecting outcome => exact absurd pc (disconnecting outcome)
        | finished outcome => exact absurd pc (finished outcome)
        | connecting | awaitingState | gettingServices | startingNotify | sleeping => rfl
        | sending _ _ => rfl
      obtain ⟨opened, fresh⟩ := h.opened none_
      exact going (held_close h.queues opened fresh _)
  | notifyStopped =>
    simp only [collectStep] at next
    split at next
    · rename_i outcome here
      obtain rfl := Option.some.inj next
      obtain ⟨_, fresh⟩ := h.stopping outcome here
      obtain ⟨idle, silent⟩ := h.quiet (by rw [here]; rfl)
      refine going ⟨⟨h.queues, fun none_ => ?_, fun o here => ?_, fun _ _ => ⟨rfl, ?_⟩, ?_, fun _ =>
        ⟨idle, silent⟩⟩, fun o here => ?_⟩
      · cases none_
      · cases here
      · show c.disconnects + 1 = 1
        omega
      · show c.disconnects + 1 ≤ 1
        omega
      · cases here
    · cases next
  | disconnectEnds =>
    simp only [collectStep] at next
    split at next
    · rename_i outcome here
      obtain rfl := Option.some.inj next
      obtain ⟨quiet, once⟩ := h.leaving outcome here
      exact ⟨ended (by rw [here]; rfl) rfl h.left rfl,
        .disconnected outcome here rfl once quiet rfl⟩
    · cases next
  | disconnectRaises message =>
    simp only [collectStep] at next
    split at next
    · rename_i outcome here
      obtain rfl := Option.some.inj next
      obtain ⟨quiet, once⟩ := h.leaving outcome here
      exact ⟨ended (by rw [here]; rfl) rfl h.left rfl,
        .left outcome here (.inr ⟨message, rfl⟩) once quiet rfl⟩
    · cases next
  | notification data =>
    obtain rfl := Option.some.inj next
    have queues : Queues (c.session.handleNotification data) := by
      have fed : Queues (c.session.fed data) := h.queues.of_same rfl rfl
      rw [handleNotification_eq]
      exact (queues_replies fed (completed c.session data)).final (run_replies _ _)
    have held : Held { c with session := c.session.handleNotification data } := by
      refine ⟨queues, fun none_ => ?_, h.stopping, h.leaving, h.left, fun out => ?_⟩
      · exact ⟨(closed_handleNotification c.session data).trans (h.opened none_).1,
          (h.opened none_).2⟩
      · obtain ⟨idle, silent⟩ := h.quiet out
        refine ⟨?_, noneLive_handleNotification idle silent data⟩
        show OnlyQueued (c.session.handleNotification data) none
        rw [handleNotification_of_idle idle]
        exact idle
    refine ⟨held, ?_⟩
    by_cases ended : ∃ outcome, c.pc = .finished outcome
    · obtain ⟨outcome, here⟩ := ended
      exact .stays outcome here rfl rfl rfl rfl ⟨data, rfl⟩
    · exact .going fun o here => ended ⟨o, here⟩

theorem start_held (specs : List CommandSpec) : Held (Collector.start specs) where
  queues := queues_start
  opened := fun _ => ⟨rfl, rfl⟩
  stopping := fun _ here => by cases here
  leaving := fun _ here => by cases here
  left := Nat.zero_le _
  quiet := fun out => by cases out

/-! ### Every run -/

theorem released_of_runsToEnd {e : CollectEvent} (h : Held c) (released : Released c)
    (runs : RunsToEnd c e d) (next : collectStep strings label c e = some d) : Released d := by
  obtain ⟨held, finishes⟩ := collectStep_held strings label h next
  intro o here
  have silent : NoneLive d.session := (held.quiet (by rw [here]; rfl)).2
  cases finishes with
  | going still => exact absurd here (still o)
  | stays outcome before pc disconnects notifying subscribed event =>
    obtain ⟨once, quiet, none_, _⟩ := released outcome before
    exact ⟨disconnects.trans once, notifying.trans quiet, subscribed.trans none_, silent⟩
  | interrupted outcome before event _ =>
    subst event
    simp only [RunsToEnd, before] at runs
  | disconnected outcome before event once quiet none_ => exact ⟨once, quiet, none_, silent⟩
  | left outcome before event once quiet kept =>
    have none_ : c.stateSubscribed = false := by
      rcases event with rfl | ⟨message, rfl⟩
      · simpa only [RunsToEnd, before] using runs
      · simpa only [RunsToEnd, before] using runs
    exact ⟨once, quiet, kept.trans none_, silent⟩

theorem runsToEnd_of_released {e : CollectEvent} (h : Held c) (released : Released d)
    (next : collectStep strings label c e = some d) : RunsToEnd c e d := by
  have finishes := (collectStep_held strings label h next).2
  unfold RunsToEnd
  split
  · rename_i outcome before
    -- the body of `close` ends before it disconnects
    simp only [collectStep, before] at next
    obtain rfl := Option.some.inj next
    have once := (released .cancelled rfl).1
    have fresh := (h.stopping outcome before).2
    rw [show ({ c with pc := .finished .cancelled } : Collector).disconnects = c.disconnects
      from rfl] at once
    omega
  · rename_i outcome before
    simp only [collectStep, before] at next
    obtain rfl := Option.some.inj next
    exact (released .cancelled rfl).2.2.1
  · rename_i outcome message before
    simp only [collectStep, before] at next
    obtain rfl := Option.some.inj next
    exact (released (.raised message) rfl).2.2.1
  · trivial

/-- In every run the proxy is disconnected at most once; and every collection that ends has
given back what it held exactly when the body of `close` always runs to its end. -/
theorem collection_released_iff (specs : List CommandSpec) (events : List CollectEvent) :
    States (collectStep strings label) (fun c => c.disconnects ≤ 1) (Collector.start specs) events ∧
      (States (collectStep strings label) Released (Collector.start specs) events ↔
        Steps (collectStep strings label) RunsToEnd (Collector.start specs) events) := by
  have keep : ∀ c e d, Held c → collectStep strings label c e = some d → Held d :=
    fun c e d h next => (collectStep_held strings label h next).1
  constructor
  · exact (states_of_invariant keep (start_held specs) events).mono fun _ h => h.left
  · refine states_iff_steps keep ?_ ?_ (start_held specs) (fun o here => by cases here) events
    · exact fun c e d h released runs next =>
        released_of_runsToEnd strings label h released runs next
    · exact fun c e d h _ released next => runsToEnd_of_released strings label h released next

end MarstekBle.Standalone
