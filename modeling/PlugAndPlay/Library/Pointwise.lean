import Mathlib.Data.List.Forall2

/-!
# Lists related place by place

How a relation between the elements of two lists, `List.Forall₂`, carries over to positions and
searches, and how two such relations compose.
-/

namespace PlugAndPlay.Library.Pointwise

variable {α β γ : Type*} {R : α → β → Prop} {S : β → γ → Prop} {T : α → γ → Prop}
  {list : List α} {other : List β} {third : List γ}

/-- Two lists of one length are related when their elements are. -/
theorem forall₂_of_getElem? (hlength : list.length = other.length)
    (h : ∀ (index : ℕ) (a : α) (b : β), list[index]? = some a → other[index]? = some b → R a b) :
    List.Forall₂ R list other := by
  apply List.forall₂_iff_get.mpr
  refine ⟨hlength, fun index hindex hother ↦ ?_⟩
  exact h index _ _ (List.getElem?_eq_getElem hindex) (List.getElem?_eq_getElem hother)

/-- Searches that agree on related elements find related elements, or nothing in both lists. -/
theorem rel_find?_of_forall₂ {f : α → Bool} {g : β → Bool} (h : List.Forall₂ R list other)
    (hfg : ∀ a b, R a b → f a = g b) : Option.Rel R (list.find? f) (other.find? g) := by
  induction h with
  | nil => exact .none
  | cons hab _ ih =>
    rw [List.find?_cons, List.find?_cons, ← hfg _ _ hab]
    split
    · exact .some hab
    · exact ih

theorem find?_of_forall₂ {f : α → Bool} {g : β → Bool} (h : List.Forall₂ R list other)
    (hfg : ∀ a b, R a b → f a = g b) {a : α} (hfind : list.find? f = some a) :
    ∃ b, other.find? g = some b ∧ R a b := by
  have hrel := rel_find?_of_forall₂ h hfg
  rw [hfind] at hrel
  generalize other.find? g = found at hrel
  cases hrel with
  | some hab => exact ⟨_, rfl, hab⟩

theorem isSome_iff_of_rel {a : Option α} {b : Option β} (h : Option.Rel R a b) : a.isSome ↔ b.isSome := by
  cases h with
  | none => exact Iff.rfl
  | some _ => exact iff_of_true rfl rfl

theorem forall₂_trans (h : List.Forall₂ R list other) (h' : List.Forall₂ S other third)
    (hcomp : ∀ a b c, R a b → S b c → T a c) : List.Forall₂ T list third := by
  induction h generalizing third with
  | nil =>
    cases h'
    exact .nil
  | cons hab _ ih =>
    cases h' with
    | cons hbc hrest => exact .cons (hcomp _ _ _ hab hbc) (ih hrest)

/-- Related elements may be taken to be elements of the second list. -/
theorem forall₂_mem_right (h : List.Forall₂ R list other) :
    List.Forall₂ (fun a b ↦ R a b ∧ b ∈ other) list other := by
  induction h with
  | nil => exact .nil
  | cons hab _ ih =>
    refine .cons ⟨hab, List.mem_cons_self⟩ (ih.imp fun _ _ hrest ↦ ?_)
    exact ⟨hrest.1, List.mem_cons_of_mem _ hrest.2⟩

theorem exists_of_mem_right (h : List.Forall₂ R list other) {b : β} (hb : b ∈ other) :
    ∃ a ∈ list, R a b := by
  induction h with
  | nil => cases hb
  | cons hab _ ih =>
    rcases List.mem_cons.mp hb with rfl | hb
    · exact ⟨_, List.mem_cons_self, hab⟩
    · obtain ⟨a, ha, hRab⟩ := ih hb
      exact ⟨a, List.mem_cons_of_mem _ ha, hRab⟩

theorem forall₂_eraseP {f : α → Bool} {g : β → Bool} (h : List.Forall₂ R list other)
    (hfg : ∀ a b, R a b → f a = g b) : List.Forall₂ R (list.eraseP f) (other.eraseP g) := by
  induction h with
  | nil => exact .nil
  | @cons a b _ _ hab hrest ih =>
    rw [List.eraseP_cons, List.eraseP_cons, ← hfg a b hab]
    cases f a with
    | true => exact hrest
    | false => exact .cons hab ih

/-- A split of the first list is one of the second. -/
theorem forall₂_split {before after : List α} (h : List.Forall₂ R (before ++ after) other) :
    ∃ first second, List.Forall₂ R before first ∧ List.Forall₂ R after second ∧ other = first ++ second := by
  refine ⟨other.take before.length, other.drop before.length, ?_, ?_, (List.take_append_drop _ _).symm⟩
  · exact (List.forall₂_take_append _ _ _ h.flip).flip
  · exact (List.forall₂_drop_append _ _ _ h.flip).flip

end PlugAndPlay.Library.Pointwise
