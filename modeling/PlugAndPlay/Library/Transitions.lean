import Mathlib.Data.List.Basic

/-!
# Runs of a guarded step function

A system is a step function that is undefined where an event is not enabled. `Reachable` collects
the states of all runs whose steps meet a condition on the state before the step; the condition
`fun _ _ ↦ True` leaves all runs. An invariant of single steps is an invariant of runs, and a
concrete run that evaluates is a proof that its end is reachable.
-/

namespace PlugAndPlay.Library

variable {σ ε : Type*} (step : σ → ε → Option σ) (initial : σ → Prop) (allowed : σ → ε → Prop)

/-- The states of runs from an initial state in which every step is allowed where it is taken. -/
inductive Reachable : σ → Prop
  | start {s : σ} : initial s → Reachable s
  | next {s s' : σ} {e : ε} : Reachable s → allowed s e → step s e = some s' → Reachable s'

variable {step initial allowed}

/-- What holds initially and is preserved by every allowed step holds in every reachable state. -/
theorem Reachable.invariant {P : σ → Prop} (hinitial : ∀ s, initial s → P s)
    (hstep : ∀ s e s', P s → allowed s e → step s e = some s' → P s') {s : σ}
    (h : Reachable step initial allowed s) : P s := by
  induction h with
  | start hs => exact hinitial _ hs
  | next _ hallowed hse ih => exact hstep _ _ _ ih hallowed hse

theorem Reachable.mono {s : σ} (h : Reachable step initial allowed s) (wider : σ → ε → Prop)
    (hwider : ∀ s e, allowed s e → wider s e) : Reachable step initial wider s := by
  induction h with
  | start hs => exact .start hs
  | next _ hallowed hse ih => exact .next ih (hwider _ _ hallowed) hse

/-- One run: the events one after another, undefined as soon as one is not enabled or not allowed. -/
def runAllowed (step : σ → ε → Option σ) (allowed : σ → ε → Prop) [∀ s e, Decidable (allowed s e)]
    (s : σ) : List ε → Option σ
  | [] => some s
  | e :: events =>
    if allowed s e then (step s e).bind fun s' ↦ runAllowed step allowed s' events else none

/-- The end of a run from a reachable state is reachable. -/
theorem Reachable.of_runAllowed [∀ s e, Decidable (allowed s e)] {events : List ε} {s s' : σ}
    (h : Reachable step initial allowed s) (hrun : runAllowed step allowed s events = some s') :
    Reachable step initial allowed s' := by
  induction events generalizing s with
  | nil =>
    obtain rfl := Option.some.inj hrun
    exact h
  | cons e events ih =>
    unfold runAllowed at hrun
    split at hrun
    · rename_i hallowed
      obtain ⟨next, hse, hrest⟩ := Option.bind_eq_some_iff.mp hrun
      exact ih (.next h hallowed hse) hrest
    · cases hrun

/-- A run that evaluates to a state with some property reaches such a state. -/
theorem Reachable.exists_of_runAllowed [∀ s e, Decidable (allowed s e)] {s : σ}
    (h : Reachable step initial allowed s) (events : List ε) (P : σ → Prop) [DecidablePred P]
    (hrun : (runAllowed step allowed s events).any fun s' ↦ P s') :
    ∃ s', Reachable step initial allowed s' ∧ P s' := by
  obtain ⟨s', hs', hP⟩ := (Option.any_eq_true _ _).mp hrun
  exact ⟨s', h.of_runAllowed hs', by simpa using hP⟩

end PlugAndPlay.Library
