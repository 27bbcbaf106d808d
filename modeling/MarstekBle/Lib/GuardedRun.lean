/- module: Lib/GuardedRun
   digest: Runs of partial step functions; invariants along runs whose steps meet a condition. -/

import Mathlib.Data.Option.Basic

/-!
A system is a partial step function: an event that is not enabled in a state
has no successor. `States P` says that every state a run visits satisfies `P`,
`Steps Q` that every transition it takes satisfies `Q`. A run stops at the
first event that is not enabled.
-/

set_option autoImplicit false
set_option relaxedAutoImplicit false

namespace MarstekBle.Lib.GuardedRun

universe u v

variable {S : Type u} {E : Type v} (step : S → E → Option S)

/-- The final state of a run all of whose events are enabled. -/
def run : S → List E → Option S
  | s, [] => some s
  | s, e :: es => (step s e).bind (fun t => run t es)

/-- Every state the run visits satisfies `P`. -/
def States (P : S → Prop) : S → List E → Prop
  | s, [] => P s
  | s, e :: es => P s ∧ ∀ t, step s e = some t → States P t es

/-- Every transition the run takes satisfies `Q`. -/
def Steps (Q : S → E → S → Prop) : S → List E → Prop
  | _, [] => True
  | s, e :: es => ∀ t, step s e = some t → Q s e t ∧ Steps Q t es

variable {step}

theorem run_snoc (s : S) (es : List E) (e : E) :
    run step s (es ++ [e]) = (run step s es).bind fun t => step t e := by
  induction es generalizing s with
  | nil => exact Option.bind_fun_some (step s e)
  | cons first es ih =>
    rw [List.cons_append, run, run, Option.bind_assoc]
    congr 1
    exact funext fun t => ih t

theorem States.head {P : S → Prop} {s : S} {es : List E} (h : States step P s es) : P s := by
  cases es with
  | nil => exact h
  | cons e es => exact h.1

theorem States.mono {P R : S → Prop} (hPR : ∀ s, P s → R s) {s : S} {es : List E}
    (h : States step P s es) : States step R s es := by
  induction es generalizing s with
  | nil => exact hPR s h
  | cons e es ih => exact ⟨hPR s h.1, fun t ht => ih (h.2 t ht)⟩

theorem States.and {P R : S → Prop} {s : S} {es : List E}
    (hP : States step P s es) (hR : States step R s es) :
    States step (fun s => P s ∧ R s) s es := by
  induction es generalizing s with
  | nil => exact ⟨hP, hR⟩
  | cons e es ih => exact ⟨⟨hP.1, hR.1⟩, fun t ht => ih (hP.2 t ht) (hR.2 t ht)⟩

/-- A system that only sees more of the states and enables the same events. -/
theorem States.of_view {T : Type*} {wide : T → E → Option T} (view : T → S)
    (follows : ∀ w e s, step (view w) e = some s → ∃ v, wide w e = some v ∧ view v = s)
    {P : S → Prop} {w : T} {es : List E} (h : States wide (fun w => P (view w)) w es) :
    States step P (view w) es := by
  induction es generalizing w with
  | nil => exact h
  | cons e es ih =>
    refine ⟨h.1, fun s next => ?_⟩
    obtain ⟨v, taken, rfl⟩ := follows w e s next
    exact ih (h.2 v taken)

/-- A system that sees more of the states, takes the same steps and visits the same ones. -/
theorem States.view_iff {T : Type*} {wide : T → E → Option T} (view : T → S)
    (same : ∀ w e, (wide w e).map view = step (view w) e) {P : S → Prop} {w : T} {es : List E} :
    States wide (fun w => P (view w)) w es ↔ States step P (view w) es := by
  constructor
  · refine States.of_view view fun w e s next => ?_
    rw [← same] at next
    exact Option.map_eq_some_iff.mp next
  · intro h
    induction es generalizing w with
    | nil => exact h
    | cons e es ih =>
      refine ⟨h.1, fun v taken => ih (h.2 (view v) ?_)⟩
      rw [← same, taken, Option.map_some]

/-- The state a complete run ends in is one of the states it visits. -/
theorem States.final {P : S → Prop} {s t : S} {es : List E} (h : States step P s es)
    (hrun : run step s es = some t) : P t := by
  induction es generalizing s with
  | nil =>
    obtain rfl := Option.some.inj hrun
    exact h
  | cons e es ih =>
    obtain ⟨r, hr, hrest⟩ := Option.bind_eq_some_iff.mp hrun
    exact ih (h.2 r hr) hrest

/-- Invariant rule: what holds at the start and survives every transition that
meets the condition holds in every state of a run that meets it. -/
theorem states_of_steps {I : S → Prop} {Q : S → E → S → Prop}
    (keep : ∀ s e t, I s → Q s e t → step s e = some t → I t) {s : S} {es : List E}
    (start : I s) (h : Steps step Q s es) : States step I s es := by
  induction es generalizing s with
  | nil => exact start
  | cons e es ih =>
    exact ⟨start, fun t ht => ih (keep s e t start (h t ht).1 ht) (h t ht).2⟩

/-- An invariant of every transition, without a condition. -/
theorem states_of_invariant {I : S → Prop}
    (keep : ∀ s e t, I s → step s e = some t → I t) {s : S} (start : I s) (es : List E) :
    States step I s es := by
  induction es generalizing s with
  | nil => exact start
  | cons e es ih => exact ⟨start, fun t ht => ih (keep s e t start ht)⟩

/-- Invariant rule for what depends on the events so far. -/
theorem run_follows {I : List E → S → Prop}
    (keep : ∀ past s e t, I past s → step s e = some t → I (past ++ [e]) t) {s t : S}
    {es : List E} (start : I [] s) (h : run step s es = some t) : I es t := by
  have after : ∀ (es : List E) past s, I past s → run step s es = some t → I (past ++ es) t := by
    intro es
    induction es with
    | nil =>
      intro past s here reached
      obtain rfl := Option.some.inj reached
      rwa [List.append_nil]
    | cons e es ih =>
      intro past s here reached
      obtain ⟨r, next, rest⟩ := Option.bind_eq_some_iff.mp reached
      have extended := ih (past ++ [e]) r (keep past s e r here next) rest
      rwa [List.append_assoc] at extended
  exact after es [] s start h

/-- What the states of a run say about each of its transitions. -/
theorem steps_of_states {I : S → Prop} {Q : S → E → S → Prop}
    (read : ∀ s e t, I s → I t → step s e = some t → Q s e t) {s : S} {es : List E}
    (h : States step I s es) : Steps step Q s es := by
  induction es generalizing s with
  | nil => trivial
  | cons e es ih =>
    exact fun t ht => ⟨read s e t h.1 (h.2 t ht).head ht, ih (h.2 t ht)⟩

/-- A condition that every event of the run meets, wherever it is taken. -/
theorem steps_of_forall_mem {Q : S → E → S → Prop} {es : List E}
    (h : ∀ e ∈ es, ∀ s t, Q s e t) {s : S} : Steps step Q s es := by
  induction es generalizing s with
  | nil => trivial
  | cons e es ih =>
    intro t _
    refine ⟨h e List.mem_cons_self s t, ih fun e he => ?_⟩
    exact h e (List.mem_cons_of_mem _ he)

theorem Steps.imp {I : S → Prop} {Q R : S → E → S → Prop}
    (weaken : ∀ s e t, I s → Q s e t → step s e = some t → R s e t) {s : S} {es : List E}
    (hI : States step I s es) (h : Steps step Q s es) : Steps step R s es := by
  induction es generalizing s with
  | nil => trivial
  | cons e es ih =>
    exact fun t ht => ⟨weaken s e t hI.1 (h t ht).1 ht, ih (hI.2 t ht) (h t ht).2⟩

theorem Steps.and {Q R : S → E → S → Prop} {s : S} {es : List E}
    (hQ : Steps step Q s es) (hR : Steps step R s es) :
    Steps step (fun s e t => Q s e t ∧ R s e t) s es := by
  induction es generalizing s with
  | nil => trivial
  | cons e es ih =>
    exact fun t ht => ⟨⟨(hQ t ht).1, (hR t ht).1⟩, ih (hQ t ht).2 (hR t ht).2⟩

/-- Where every transition that breaks the condition leaves the safe states at
once, the runs that stay safe are exactly those that meet the condition. The
auxiliary invariant `J` is the one under which this holds. -/
theorem states_iff_steps {I J : S → Prop} {Q : S → E → S → Prop}
    (keepJ : ∀ s e t, J s → step s e = some t → J t)
    (keep : ∀ s e t, J s → I s → Q s e t → step s e = some t → I t)
    (breaks : ∀ s e t, J s → I s → I t → step s e = some t → Q s e t)
    {s : S} (startJ : J s) (start : I s) (es : List E) :
    States step I s es ↔ Steps step Q s es := by
  constructor
  · intro h
    have both := (states_of_invariant keepJ startJ es).and h
    exact steps_of_states (fun s e t hs ht => breaks s e t hs.1 hs.2 ht.2) both
  · intro h
    have both : States step (fun s => J s ∧ I s) s es :=
      states_of_steps (I := fun s => J s ∧ I s) (fun s e t hs hQ ht =>
        ⟨keepJ s e t hs.1 ht, keep s e t hs.1 hs.2 hQ ht⟩) ⟨startJ, start⟩ h
    exact both.mono fun _ hs => hs.2

/-! ### Checking one run -/

instance decidableStates {P : S → Prop} [DecidablePred P] :
    ∀ s es, Decidable (States step P s es)
  | s, [] => inferInstanceAs (Decidable (P s))
  | s, e :: es => match h : step s e with
    | none => decidable_of_iff (P s) ⟨fun hs => ⟨hs, fun t ht => by simp [h] at ht⟩, fun hs => hs.1⟩
    | some t =>
      have : Decidable (States step P t es) := decidableStates t es
      decidable_of_iff (P s ∧ States step P t es)
        ⟨fun hs => ⟨hs.1, fun r hr => by
          obtain rfl : t = r := Option.some.inj (h.symm.trans hr)
          exact hs.2⟩, fun hs => ⟨hs.1, hs.2 t h⟩⟩

instance decidableSteps {Q : S → E → S → Prop} [∀ s e t, Decidable (Q s e t)] :
    ∀ s es, Decidable (Steps step Q s es)
  | _, [] => isTrue trivial
  | s, e :: es => match h : step s e with
    | none => isTrue fun t ht => by simp [h] at ht
    | some t =>
      have : Decidable (Steps step Q t es) := decidableSteps t es
      decidable_of_iff (Q s e t ∧ Steps step Q t es)
        ⟨fun hs r hr => by
          obtain rfl : t = r := Option.some.inj (h.symm.trans hr)
          exact hs, fun hs => hs t h⟩

end MarstekBle.Lib.GuardedRun
