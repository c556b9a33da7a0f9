import Mathlib.Data.List.Basic
import Mathlib.Logic.Function.Basic

/-!
# Logs of named locks

The grants and the releases of any number of locks, oldest first. A log in which every grant finds its
lock free and every release is the holder's excludes: between two grants of a lock, the first owner
releases it.
-/

namespace PlugAndPlay.Library

inductive LockEvent (ω κ : Type*)
  | acquire (owner : ω) (lock : κ)
  | release (owner : ω) (lock : κ)
deriving DecidableEq

namespace LockLog

variable {ω κ : Type*} [DecidableEq κ]

/-- The holders of all locks after an event. -/
def after (holders : κ → Option ω) : LockEvent ω κ → κ → Option ω
  | .acquire owner lock => Function.update holders lock (some owner)
  | .release _ lock => Function.update holders lock none

def holder (log : List (LockEvent ω κ)) : κ → Option ω :=
  log.foldl after fun _ ↦ none

/-- Between two grants of one lock stands a release by the owner of the first. -/
def Exclusive (log : List (LockEvent ω κ)) : Prop :=
  ∀ before between rest first second lock,
    log = before ++ .acquire first lock :: (between ++ .acquire second lock :: rest) →
      .release first lock ∈ between

/-- Every grant finds the lock free, and every release is the holder's. -/
inductive Alternates : List (LockEvent ω κ) → Prop
  | nil : Alternates []
  | acquire {log : List (LockEvent ω κ)} {owner : ω} {lock : κ} :
    Alternates log → holder log lock = none → Alternates (log ++ [.acquire owner lock])
  | release {log : List (LockEvent ω κ)} {owner : ω} {lock : κ} :
    Alternates log → holder log lock = some owner → Alternates (log ++ [.release owner lock])

theorem holder_concat (log : List (LockEvent ω κ)) (event : LockEvent ω κ) :
    holder (log ++ [event]) = after (holder log) event :=
  List.foldl_concat ..

theorem holder_acquire (log : List (LockEvent ω κ)) (owner : ω) (lock other : κ) :
    holder (log ++ [.acquire owner lock]) other = if other = lock then some owner else holder log other := by
  rw [holder_concat]
  exact Function.update_apply ..

theorem holder_release (log : List (LockEvent ω κ)) (owner : ω) (lock other : κ) :
    holder (log ++ [.release owner lock]) other = if other = lock then none else holder log other := by
  rw [holder_concat]
  exact Function.update_apply ..

/-- An element of a log is the last one or stands before it. -/
theorem split_concat {α : Type*} {log before rest : List α} {event last : α}
    (h : log ++ [last] = before ++ event :: rest) :
    log = before ∧ last = event ∧ rest = [] ∨
      ∃ init, rest = init ++ [last] ∧ log = before ++ event :: init := by
  rcases List.eq_nil_or_concat rest with rfl | ⟨init, other, rfl⟩
  · obtain ⟨hlog, hlast⟩ := List.append_inj' h rfl
    exact .inl ⟨hlog, List.head_eq_of_cons_eq hlast, rfl⟩
  · rw [List.concat_eq_append, ← List.cons_append, ← List.append_assoc] at h
    obtain ⟨hlog, hlast⟩ := List.append_inj' h rfl
    obtain rfl := List.head_eq_of_cons_eq hlast
    exact .inr ⟨init, List.concat_eq_append, hlog⟩

/-- Who was granted a lock holds it until the release. -/
theorem Alternates.holder_of_not_released {log : List (LockEvent ω κ)} (h : Alternates log)
    {before rest : List (LockEvent ω κ)} {owner : ω} {lock : κ}
    (hlog : log = before ++ .acquire owner lock :: rest) (hrest : .release owner lock ∉ rest) :
    holder log lock = some owner := by
  induction h generalizing rest with
  | nil => cases before <;> cases hlog
  | @acquire log other key h hfree ih =>
    rcases split_concat hlog with ⟨_, hlast, _⟩ | ⟨init, rfl, hinit⟩
    · cases hlast
      rw [holder_acquire, if_pos rfl]
    · have hholds := ih hinit fun hmem ↦ hrest (List.mem_append_left _ hmem)
      have hkey : lock ≠ key := by
        rintro rfl
        rw [hfree] at hholds
        cases hholds
      rw [holder_acquire, if_neg hkey, hholds]
  | @release log other key h hheld ih =>
    rcases split_concat hlog with ⟨_, hlast, _⟩ | ⟨init, rfl, hinit⟩
    · cases hlast
    · have hholds := ih hinit fun hmem ↦ hrest (List.mem_append_left _ hmem)
      have hkey : lock ≠ key := by
        rintro rfl
        obtain rfl := Option.some.inj (hheld.symm.trans hholds)
        exact hrest (List.mem_append_right _ (List.mem_singleton_self _))
      rw [holder_release, if_neg hkey, hholds]

/-- The log before a grant alternates, and its lock is free there. -/
theorem Alternates.before_acquire {log : List (LockEvent ω κ)} (h : Alternates log)
    {before rest : List (LockEvent ω κ)} {owner : ω} {lock : κ}
    (hlog : log = before ++ .acquire owner lock :: rest) :
    Alternates before ∧ holder before lock = none := by
  induction h generalizing rest with
  | nil => cases before <;> cases hlog
  | acquire h hfree ih =>
    rcases split_concat hlog with ⟨rfl, hlast, _⟩ | ⟨init, _, hinit⟩
    · cases hlast
      exact ⟨h, hfree⟩
    · exact ih hinit
  | release h hheld ih =>
    rcases split_concat hlog with ⟨_, hlast, _⟩ | ⟨init, _, hinit⟩
    · cases hlast
    · exact ih hinit

theorem Alternates.exclusive {log : List (LockEvent ω κ)} (h : Alternates log) : Exclusive log := by
  intro before between rest first second lock hlog
  by_contra hreleased
  rw [← List.cons_append, ← List.append_assoc] at hlog
  obtain ⟨hbefore, hfree⟩ := h.before_acquire hlog
  have hheld := hbefore.holder_of_not_released rfl hreleased
  rw [hfree] at hheld
  cases hheld

end LockLog

end PlugAndPlay.Library
