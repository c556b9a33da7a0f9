import Mathlib.Data.List.Basic

/-!
# Threads that may stop for ever

A thread works on a shared state and either goes through with a value or stops where it is, at a
lock that nobody will release. What it did before it stopped stays done, so a judgment about a thread
has a postcondition for each of the two ends.
-/

namespace PlugAndPlay.Library

/-- A thread over the states `σ`: an error means that it stopped in the state it left. -/
abbrev Blocking (σ α : Type) := EStateM Unit σ α

namespace Blocking

variable {σ α β : Type} {P : σ → Prop} {E : σ → Prop}

/-! ## Runs -/

theorem bind_ok {x : Blocking σ α} {s s' : σ} {a : α} (h : x s = .ok a s') (f : α → Blocking σ β) :
    (x >>= f) s = f a s' := by
  show EStateM.bind x f s = _
  unfold EStateM.bind
  rw [h]

theorem bind_error {x : Blocking σ α} {s s' : σ} (h : x s = .error () s') (f : α → Blocking σ β) :
    (x >>= f) s = .error () s' := by
  show EStateM.bind x f s = _
  unfold EStateM.bind
  rw [h]

/-- A sequence goes through when both parts do. -/
theorem bind_eq_ok {x : Blocking σ α} {f : α → Blocking σ β} {s s'' : σ} {b : β} :
    (x >>= f) s = .ok b s'' ↔ ∃ a s', x s = .ok a s' ∧ f a s' = .ok b s'' := by
  constructor
  · intro h
    cases hx : x s with
    | ok a s' => exact ⟨a, s', rfl, by rw [← h, bind_ok hx]⟩
    | error e s' =>
      rw [bind_error hx] at h
      cases h
  · rintro ⟨a, s', hx, hf⟩
    rw [bind_ok hx, hf]

/-- The thread goes through. -/
def returns (x : Blocking σ α) (s : σ) : Bool :=
  match x s with
  | .ok _ _ => true
  | .error _ _ => false

theorem returns_of_ok {x : Blocking σ α} {s s' : σ} {a : α} (h : x s = .ok a s') :
    x.returns s = true := by
  unfold returns
  rw [h]

/-- The state the thread leaves behind, however it ends. -/
def final (x : Blocking σ α) (s : σ) : σ :=
  match x s with
  | .ok _ s' => s'
  | .error _ s' => s'

/-! ## Judgments -/

/-- From every state of `P`, the thread goes through as in `Q` or stops as in `E`. -/
def Triple (P : σ → Prop) (x : Blocking σ α) (Q : α → σ → Prop) (E : σ → Prop) : Prop :=
  ∀ s, P s → match x s with
    | .ok a s' => Q a s'
    | .error _ s' => E s'

theorem Triple.ok {x : Blocking σ α} {Q : α → σ → Prop} (h : Triple P x Q E) {s s' : σ} {a : α}
    (hs : P s) (hx : x s = .ok a s') : Q a s' := by
  have hpost := h s hs
  rw [hx] at hpost
  exact hpost

/-- A state predicate that holds at both ends holds of what is left behind. -/
theorem Triple.final {x : Blocking σ α} {I : σ → Prop} (h : Triple P x (fun _ ↦ I) I) {s : σ}
    (hs : P s) : I (x.final s) := by
  have hpost := h s hs
  unfold Blocking.final
  cases hx : x s with
  | ok a s' =>
    rw [hx] at hpost
    exact hpost
  | error e s' =>
    rw [hx] at hpost
    exact hpost

theorem Triple.conseq {x : Blocking σ α} {P' : σ → Prop} {Q Q' : α → σ → Prop} {E' : σ → Prop}
    (h : Triple P x Q E) (hP : ∀ s, P' s → P s) (hQ : ∀ a s, Q a s → Q' a s)
    (hE : ∀ s, E s → E' s) : Triple P' x Q' E' := by
  intro s hs
  have hpost := h s (hP s hs)
  cases hx : x s with
  | ok a s' =>
    rw [hx] at hpost
    exact hQ a s' hpost
  | error e s' =>
    rw [hx] at hpost
    exact hE s' hpost

theorem Triple.of_pure {Q : α → σ → Prop} (a : α) (h : ∀ s, P s → Q a s) :
    Triple P (pure a) Q E :=
  fun s hs ↦ h s hs

theorem Triple.bind {x : Blocking σ α} {f : α → Blocking σ β} {R : α → σ → Prop}
    {Q : β → σ → Prop} (hx : Triple P x R E) (hf : ∀ a, Triple (R a) (f a) Q E) :
    Triple P (x >>= f) Q E := by
  intro s hs
  have hmid := hx s hs
  show match EStateM.bind x f s with
    | .ok a s' => Q a s'
    | .error _ s' => E s'
  unfold EStateM.bind
  cases hxs : x s with
  | ok a s' =>
    rw [hxs] at hmid
    exact hf a s' hmid
  | error e s' =>
    rw [hxs] at hmid
    exact hmid

/-- A thread that looks at the state goes on from that state. -/
theorem Triple.get_bind {f : σ → Blocking σ β} {Q : β → σ → Prop}
    (h : ∀ s, P s → Triple (· = s) (f s) Q E) : Triple P (get >>= f) Q E :=
  fun s hs ↦ h s hs s rfl

theorem Triple.of_modify {Q : PUnit → σ → Prop} {f : σ → σ} (h : ∀ s, P s → Q ⟨⟩ (f s)) :
    Triple P (modify f : Blocking σ PUnit) Q E :=
  fun s hs ↦ h s hs

/-- Each turn of a loop keeps an invariant that says which turns are done. -/
theorem Triple.of_forM {list : List α} {body : α → Blocking σ PUnit} (I : List α → σ → Prop)
    (hbody : ∀ (before : List α) (a : α) (after : List α), list = before ++ a :: after →
      Triple (I before) (body a) (fun _ ↦ I (before ++ [a])) E) :
    Triple (I []) (forM list body) (fun _ ↦ I list) E := by
  suffices h : ∀ (after before : List α), list = before ++ after →
      Triple (I before) (forM after body) (fun _ ↦ I list) E from h list [] rfl
  intro after
  induction after with
  | nil =>
    intro before hlist
    rw [hlist, List.append_nil]
    exact .of_pure _ fun _ hs ↦ hs
  | cons a after ih =>
    intro before hlist
    apply Triple.bind (hbody before a after hlist)
    intro _
    apply ih
    rw [hlist, List.append_assoc]
    rfl

/-! ## Invariants -/

/-- The thread keeps the predicate, however it ends. -/
def Keeps (I : σ → Prop) (x : Blocking σ α) : Prop := Triple I x (fun _ ↦ I) I

section Keeps

variable {I : σ → Prop}

theorem Keeps.final {x : Blocking σ α} (h : Keeps I x) {s : σ} (hs : I s) : I (x.final s) :=
  Triple.final h hs

theorem Keeps.bind {x : Blocking σ α} {f : α → Blocking σ β} (hx : Keeps I x) (hf : ∀ a, Keeps I (f a)) :
    Keeps I (x >>= f) :=
  Triple.bind hx hf

theorem keeps_pure (a : α) : Keeps I (pure a : Blocking σ α) := Triple.of_pure a fun _ hs ↦ hs

theorem keeps_modify {f : σ → σ} (h : ∀ s, I s → I (f s)) : Keeps I (modify f : Blocking σ PUnit) :=
  Triple.of_modify h

theorem keeps_get_bind {f : σ → Blocking σ β} (h : ∀ s, Keeps I (f s)) : Keeps I (get >>= f) := by
  apply Triple.get_bind
  intro s hs
  apply Triple.conseq (h s) _ (fun _ _ ↦ id) fun _ ↦ id
  intro s' hs'
  rw [hs']
  exact hs

theorem keeps_forM {list : List α} {body : α → Blocking σ PUnit} (h : ∀ a, Keeps I (body a)) :
    Keeps I (forM list body) := by
  apply Triple.of_forM fun _ ↦ I
  intro _ a _ _
  exact h a

end Keeps

end Blocking

end PlugAndPlay.Library
