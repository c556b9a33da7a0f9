import PlugAndPlay.Library.ByteRange
import PlugAndPlay.Library.Packing

/-!
# Ranges laid out one behind another

Sizes in order, each range beginning where the one before ends. The ranges fill the stretch from the base to
the base and all sizes, every address of it once.
-/

namespace PlugAndPlay.Library.ByteRange

variable {ranges : List ByteRange} {address base top : ℕ} {sizes : List ℕ}

/-- Ranges of these sizes, one behind another, from `base` on. -/
def layout : ℕ → List ℕ → List ByteRange
  | _, [] => []
  | base, size :: sizes => ⟨base, size⟩ :: layout (base + size) sizes

theorem hits_layout (base : ℕ) (sizes : List ℕ) (address : ℕ) :
    hits (layout base sizes) address = if base ≤ address ∧ address < base + sizes.sum then 1 else 0 := by
  induction sizes generalizing base with
  | nil =>
    rw [List.sum_nil, if_neg (by omega)]
    rfl
  | cons size sizes ih =>
    rw [layout, hits_cons, ih, List.sum_cons]
    split_ifs <;> simp only [Contains] at * <;> omega

theorem within_layout (base : ℕ) (sizes : List ℕ) : Within (layout base sizes) (base + sizes.sum) := by
  induction sizes generalizing base with
  | nil => exact within_nil
  | cons size sizes ih =>
    have hrest : Within (layout (base + size) sizes) (base + size + sizes.sum) := ih (base + size)
    rw [layout, List.sum_cons, within_cons, ← Nat.add_assoc]
    exact ⟨Nat.le_add_right _ _, hrest⟩

theorem partition_layout (sizes : List ℕ) : Partition (layout 0 sizes) sizes.sum where
  cover address := by
    rw [hits_layout, Nat.zero_add]
    simp
  within := by
    have hwithin := within_layout 0 sizes
    rwa [Nat.zero_add] at hwithin

/-- Two ranges share no address. -/
def Apart (range other : ByteRange) : Prop := ∀ address, range.Contains address → ¬ other.Contains address

theorem Packed.pairwise (h : Packed ranges top) : ranges.Pairwise Apart := by
  induction ranges with
  | nil => exact List.Pairwise.nil
  | cons range ranges ih =>
    have hrest : Packed ranges top := by
      apply Packed.mk ?_ (within_cons.mp h.within).2
      intro address
      have hone := h.disjoint address
      rw [hits_cons] at hone
      omega
    exact List.pairwise_cons.mpr ⟨fun other hother address hc ↦ h.apart hother hc, ih hrest⟩

/-- In a list without overlaps an address is in one place at most. -/
theorem index_unique (h : ranges.Pairwise Apart) {i j : ℕ} {range other : ByteRange} (hi : ranges[i]? = some range)
    (hj : ranges[j]? = some other) (hc : range.Contains address) (hco : other.Contains address) : i = j := by
  obtain ⟨hilt, rfl⟩ := List.getElem?_eq_some_iff.mp hi
  obtain ⟨hjlt, rfl⟩ := List.getElem?_eq_some_iff.mp hj
  have happart := List.pairwise_iff_getElem.mp h
  rcases Nat.lt_trichotomy i j with hlt | heq | hgt
  · exact absurd hco (happart i j hilt hjlt hlt address hc)
  · exact heq
  · exact absurd hc (happart j i hjlt hilt hgt address hco)

end PlugAndPlay.Library.ByteRange
