import Mathlib.Logic.Function.Basic
import Mathlib.Order.Bounds.Basic

/-!
# Values inherited along a wait-for relation

Each member of a system has a base value and a current one, and inherits the current values of those
that wait for it. The current values are exact when each is the least of what its owner has or
inherits; waiting in a circle is allowed. When somebody starts to wait, values are lowered one after
another along the chain of those it waits for, and stay exact everywhere but at the end of the chain.
-/

namespace PlugAndPlay.Library.Inheritance

variable {α β : Type*} [LinearOrder β] {base : α → β} {waits waits' : α → α → Prop}
  {members : α → Prop} {dyn dyn' : α → β} {q b : α}

/-- The current value of `q` is the least of its own and those of the members that wait for it. -/
def Exact (base : α → β) (waits : α → α → Prop) (dyn : α → β) (q : α) : Prop :=
  IsLeast (insert (base q) {d | ∃ w, waits w q ∧ dyn w = d}) (dyn q)

theorem exact_iff : Exact base waits dyn q ↔
    (dyn q = base q ∨ ∃ w, waits w q ∧ dyn w = dyn q) ∧ dyn q ≤ base q ∧
      ∀ w, waits w q → dyn q ≤ dyn w := by
  unfold Exact IsLeast lowerBounds
  simp only [Set.mem_insert_iff, Set.mem_ofPred_eq, forall_eq_or_imp]
  refine and_congr Iff.rfl (and_congr Iff.rfl ⟨fun h w hw ↦ h _ ⟨w, hw, rfl⟩, ?_⟩)
  rintro h _ ⟨w, hw, rfl⟩
  exact h w hw

/-- Exactness of one member looks only at those that wait for it. -/
theorem Exact.congr (h : Exact base waits dyn q) (hq : dyn' q = dyn q)
    (hwaits : ∀ w, waits' w q ↔ waits w q) (hdyn : ∀ w, waits w q → dyn' w = dyn w) :
    Exact base waits' dyn' q := by
  obtain ⟨hattained, hbase, hlower⟩ := exact_iff.mp h
  refine exact_iff.mpr ⟨?_, hq ▸ hbase, fun w hw ↦ ?_⟩
  · rcases hattained with hown | ⟨w, hw, hwq⟩
    · exact .inl (hq.trans hown)
    · exact .inr ⟨w, (hwaits w).mpr hw, by rw [hdyn w hw, hq, hwq]⟩
  · rw [hq, hdyn w ((hwaits w).mp hw)]
    exact hlower w ((hwaits w).mp hw)

/-- Nobody that waits keeps its own value exact. -/
theorem exact_of_no_waiter (hq : dyn q = base q) (h : ∀ w, ¬ waits w q) : Exact base waits dyn q :=
  exact_iff.mpr ⟨.inl hq, hq.le, fun w hw ↦ absurd hw (h w)⟩

/-- All members are exact, but whoever `b` waits for may still have to inherit the value of `b`. -/
def Pending (base : α → β) (waits : α → α → Prop) (members : α → Prop) (dyn : α → β) (b : α) : Prop :=
  ∀ q, members q → dyn q ≤ base q ∧ (∀ w, waits w q → w ≠ b → dyn q ≤ dyn w) ∧
    (dyn q = base q ∨ (∃ w, waits w q ∧ dyn w = dyn q) ∨ (waits b q ∧ dyn b < dyn q))

/-- A member that starts to wait for `o` leaves its value to be inherited. -/
theorem pending_of_exact {o : α} (h : ∀ q, members q → Exact base waits dyn q)
    (hwaits : ∀ w q, waits' w q ↔ waits w q ∨ (w = b ∧ q = o)) :
    Pending base waits' members dyn b := by
  intro q hq
  obtain ⟨hattained, hbase, hlower⟩ := exact_iff.mp (h q hq)
  refine ⟨hbase, fun w hw hwb ↦ ?_, ?_⟩
  · rcases (hwaits w q).mp hw with hold | ⟨hb, _⟩
    · exact hlower w hold
    · exact absurd hb hwb
  · rcases hattained with hown | ⟨w, hw, hwq⟩
    · exact .inl hown
    · exact .inr (.inl ⟨w, (hwaits w q).mpr (.inl hw), hwq⟩)

/-- Nothing is left to inherit. -/
theorem Pending.exact (h : Pending base waits members dyn b)
    (hb : ∀ q, members q → waits b q → dyn q ≤ dyn b) (hq : members q) :
    Exact base waits dyn q := by
  obtain ⟨hbase, hlower, hattained⟩ := h q hq
  refine exact_iff.mpr ⟨?_, hbase, fun w hw ↦ ?_⟩
  · rcases hattained with hown | hinherited | ⟨hbq, hlt⟩
    · exact .inl hown
    · exact .inr hinherited
    · exact absurd (hb q hq hbq) (not_le.mpr hlt)
  · by_cases hwb : w = b
    · subst hwb
      exact hb q hq hw
    · exact hlower w hw hwb

/-- The member `o` that `b` waits for inherits, and now the value of `o` is the one that is left. -/
theorem Pending.lower [DecidableEq α] {o : α} (h : Pending base waits members dyn b) (hbo : waits b o)
    (honly : ∀ q, waits b q → q = o) (hlt : dyn b < dyn o) :
    Pending base waits members (Function.update dyn o (dyn b)) o := by
  have hne : b ≠ o := by
    rintro rfl
    exact lt_irrefl _ hlt
  intro q hq
  obtain ⟨hbase, hlower, hattained⟩ := h q hq
  by_cases hqo : q = o
  · subst hqo
    rw [Function.update_self]
    refine ⟨hlt.le.trans hbase, fun w hw hwq ↦ ?_, .inr (.inl ⟨b, hbo, ?_⟩)⟩
    · rw [Function.update_of_ne hwq]
      by_cases hwb : w = b
      · rw [hwb]
      · exact hlt.le.trans (hlower w hw hwb)
    · rw [Function.update_of_ne hne]
  · have hbq : ¬ waits b q := fun hwait ↦ hqo (honly q hwait)
    rw [Function.update_of_ne hqo]
    refine ⟨hbase, fun w hw hwo ↦ ?_, ?_⟩
    · rw [Function.update_of_ne hwo]
      apply hlower w hw
      rintro rfl
      exact hbq hw
    · rcases hattained with hown | ⟨w, hw, hwq⟩ | ⟨hwait, _⟩
      · exact .inl hown
      · by_cases hwo : w = o
        · subst hwo
          refine .inr (.inr ⟨hw, ?_⟩)
          rw [Function.update_self, ← hwq]
          exact hlt
        · exact .inr (.inl ⟨w, hw, by rw [Function.update_of_ne hwo, hwq]⟩)
      · exact absurd hwait hbq

/-- Lowering a value to `x` leaves fewer values above `x`: the chain comes to an end. -/
theorem countP_update_lt [DecidableEq α] {list : List α} {a : α} {x : β} (ha : a ∈ list)
    (hlt : x < dyn a) :
    list.countP (fun q ↦ x < Function.update dyn a x q) < list.countP fun q ↦ x < dyn q := by
  have hle : ∀ part : List α,
      part.countP (fun q ↦ x < Function.update dyn a x q) ≤ part.countP fun q ↦ x < dyn q := by
    intro part
    apply List.countP_mono_left
    intro q _ hq
    by_cases hqa : q = a
    · rw [hqa]
      exact decide_eq_true hlt
    · rwa [Function.update_of_ne hqa] at hq
  obtain ⟨before, after, rfl⟩ := List.append_of_mem ha
  have hyes : (after.countP fun q ↦ x < dyn q) + 1 = (a :: after).countP fun q ↦ x < dyn q :=
    (List.countP_cons_of_pos (p := fun q ↦ x < dyn q) (decide_eq_true hlt)).symm
  rw [List.countP_append, List.countP_append, List.countP_cons_of_neg (by simp), ← hyes]
  have hbefore := hle before
  have hafter := hle after
  omega

/-- The least of a start value and the values of a list, as a loop computes it. -/
theorem isLeast_foldl (f : α → β) (list : List α) (start : β) :
    IsLeast (insert start {d | ∃ w ∈ list, f w = d})
      (list.foldl (fun least w ↦ if f w < least then f w else least) start) := by
  induction list generalizing start with
  | nil =>
    refine ⟨Set.mem_insert _ _, ?_⟩
    rintro d (rfl | ⟨w, hw, _⟩)
    · exact le_refl _
    · cases hw
  | cons a list ih =>
    rw [List.foldl_cons]
    obtain ⟨hmem, hlower⟩ := ih (if f a < start then f a else start)
    have hstart : (if f a < start then f a else start) ≤ start ∧
        (if f a < start then f a else start) ≤ f a := by
      split
      · rename_i hlt
        exact ⟨hlt.le, le_refl _⟩
      · rename_i hle
        exact ⟨le_refl _, not_lt.mp hle⟩
    constructor
    · rcases hmem with hmem | ⟨w, hw, hwd⟩
      · rw [hmem]
        split
        · exact .inr ⟨a, List.mem_cons_self, rfl⟩
        · exact .inl rfl
      · exact .inr ⟨w, List.mem_cons_of_mem a hw, hwd⟩
    · rintro d (rfl | ⟨w, hw, rfl⟩)
      · exact (hlower (Set.mem_insert _ _)).trans hstart.1
      · rcases List.mem_cons.mp hw with rfl | hw
        · exact (hlower (Set.mem_insert _ _)).trans hstart.2
        · exact hlower (.inr ⟨w, hw, rfl⟩)

end PlugAndPlay.Library.Inheritance
