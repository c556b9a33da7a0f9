import Mathlib.Data.List.Basic

/-!
# Histories of a step function

A specification as a step function that is undefined for what must not happen: a history follows it if every event
is allowed where it comes. What a history takes in and gives out in order is a queue, and a step that moves
elements between the two ends of it makes the whole history one.
-/

namespace PlugAndPlay.Library.Traces

variable {σ ε α : Type*} (step : σ → ε → Option σ)

/-- The state after a history, if all of it is allowed. -/
def follow : σ → List ε → Option σ
  | s, [] => some s
  | s, e :: rest => (step s e).bind fun s' ↦ follow s' rest

variable {step} {s s' : σ} {history later : List ε} {e : ε}

theorem follow_append (s : σ) (history later : List ε) :
    follow step s (history ++ later) = (follow step s history).bind fun s' ↦ follow step s' later := by
  induction history generalizing s with
  | nil => rfl
  | cons e rest ih =>
    calc follow step s (e :: (rest ++ later))
        = (step s e).bind fun s' ↦ follow step s' (rest ++ later) := rfl
      _ = (step s e).bind fun s' ↦ (follow step s' rest).bind fun s'' ↦ follow step s'' later := by
        simp only [ih]
      _ = ((step s e).bind fun s' ↦ follow step s' rest).bind fun s'' ↦ follow step s'' later :=
        (Option.bind_assoc _ _ _).symm

/-- One more event. -/
theorem follow_concat (h : follow step s history = some s') (e : ε) :
    follow step s (history ++ [e]) = step s' e := by
  rw [follow_append, h]
  apply Option.bind_fun_some

/-- What comes first follows as well. -/
theorem follow_prefix (h : follow step s (history ++ later) = some s') :
    ∃ middle, follow step s history = some middle ∧ follow step middle later = some s' := by
  rw [follow_append] at h
  exact Option.bind_eq_some_iff.mp h

theorem follow_cons (h : follow step s (e :: later) = some s') :
    ∃ middle, step s e = some middle ∧ follow step middle later = some s' :=
  Option.bind_eq_some_iff.mp h

/-- An event, with the states around it. -/
theorem follow_middle (h : follow step s (history ++ e :: later) = some s') :
    ∃ before after, follow step s history = some before ∧ step before e = some after ∧
      follow step after later = some s' := by
  obtain ⟨before, hbefore, hrest⟩ := follow_prefix h
  obtain ⟨after, hafter, hlater⟩ := follow_cons hrest
  exact ⟨before, after, hbefore, hafter, hlater⟩

/-- What every event of a history keeps holds after it. -/
theorem follow_invariant {P : σ → Prop} (hstep : ∀ s e s', e ∈ history → P s → step s e = some s' → P s')
    (h : follow step s history = some s') (hs : P s) : P s' := by
  induction history generalizing s with
  | nil =>
    obtain rfl := Option.some.inj h
    exact hs
  | cons e rest ih =>
    obtain ⟨middle, hmiddle, hrest⟩ := follow_cons h
    have hkeep : ∀ s e s', e ∈ rest → P s → step s e = some s' → P s' :=
      fun s e s' he ↦ hstep s e s' (List.mem_cons_of_mem _ he)
    exact ih hkeep hrest (hstep _ _ _ List.mem_cons_self hs hmiddle)

/-- Events that open and events that close balance, up to what is open. -/
theorem follow_balance {isOpen : σ → ℕ} {opens closes : ε → Bool}
    (hstep : ∀ s e s', step s e = some s' →
      isOpen s + (if opens e then 1 else 0) = (if closes e then 1 else 0) + isOpen s')
    (h : follow step s history = some s') :
    isOpen s + history.countP opens = history.countP closes + isOpen s' := by
  induction history generalizing s with
  | nil =>
    obtain rfl := Option.some.inj h
    exact Nat.add_comm _ _
  | cons e rest ih =>
    obtain ⟨middle, hmiddle, hrest⟩ := follow_cons h
    have hfirst := hstep _ _ _ hmiddle
    have hlater := ih hrest
    rw [List.countP_cons, List.countP_cons]
    omega

/-- What went in comes out in order, each element once, up to what still waits. -/
theorem follow_queue {waiting : σ → List α} {taken given : ε → List α}
    (hstep : ∀ s e s', step s e = some s' → waiting s ++ taken e = given e ++ waiting s')
    (h : follow step s history = some s') :
    waiting s ++ history.flatMap taken = history.flatMap given ++ waiting s' := by
  induction history generalizing s with
  | nil =>
    obtain rfl := Option.some.inj h
    exact List.append_nil _
  | cons e rest ih =>
    obtain ⟨middle, hmiddle, hrest⟩ := follow_cons h
    calc waiting s ++ (taken e ++ rest.flatMap taken)
        = (waiting s ++ taken e) ++ rest.flatMap taken := (List.append_assoc _ _ _).symm
      _ = given e ++ (waiting middle ++ rest.flatMap taken) := by
        rw [hstep _ _ _ hmiddle, List.append_assoc]
      _ = given e ++ (rest.flatMap given ++ waiting s') := by rw [ih hrest]
      _ = (given e ++ rest.flatMap given) ++ waiting s' := (List.append_assoc _ _ _).symm

end PlugAndPlay.Library.Traces
