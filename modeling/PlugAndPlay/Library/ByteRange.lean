import Mathlib.Data.List.Basic
import Mathlib.Data.List.Count
import Mathlib.Data.List.Perm.Basic
import Mathlib.Tactic.Linarith

/-!
# Ranges of addresses and how often they cover an address

A list of ranges is judged by one function, `hits`, which counts the ranges that contain an
address. Disjointness is a bound of one on that count and a partition of `[0, top)` is the
equation "one below `top`, zero above", so splitting, merging and moving ranges become
equations between sums. Empty ranges cover nothing, which is why the ends of the ranges are
bounded separately.
-/

namespace PlugAndPlay.Library

/-- The addresses from `start` on, `size` of them. -/
structure ByteRange where
  start : ℕ
  size : ℕ
deriving Repr, DecidableEq

namespace ByteRange

def Contains (range : ByteRange) (address : ℕ) : Prop :=
  range.start ≤ address ∧ address < range.start + range.size

instance (range : ByteRange) (address : ℕ) : Decidable (range.Contains address) :=
  inferInstanceAs (Decidable (_ ∧ _))

/-- The number of ranges of the list that contain the address. -/
def hits (ranges : List ByteRange) (address : ℕ) : ℕ :=
  ranges.countP fun range ↦ range.Contains address

/-- No range of the list ends past `top`, not even an empty one. -/
def Within (ranges : List ByteRange) (top : ℕ) : Prop :=
  ∀ range ∈ ranges, range.start + range.size ≤ top

variable {ranges others : List ByteRange} {range : ByteRange} {address top : ℕ}

@[simp] theorem hits_nil : hits [] address = 0 := rfl

theorem hits_cons :
    hits (range :: ranges) address =
      (if range.Contains address then 1 else 0) + hits ranges address := by
  simp [hits, List.countP_cons, Nat.add_comm]

@[simp] theorem hits_append :
    hits (ranges ++ others) address = hits ranges address + hits others address := by
  simp [hits]

theorem hits_perm (h : ranges.Perm others) (address : ℕ) :
    hits ranges address = hits others address :=
  h.countP_eq _

theorem hits_pos_iff : 0 < hits ranges address ↔ ∃ range ∈ ranges, range.Contains address := by
  simp [hits, List.countP_pos_iff]

theorem hits_eq_zero_iff : hits ranges address = 0 ↔ ∀ range ∈ ranges, ¬ range.Contains address := by
  simp [hits, List.countP_eq_zero]

/-- A range that is cut in two covers what its two parts cover. -/
theorem hits_split {start first size : ℕ} (h : first ≤ size) :
    hits [⟨start, size⟩] address =
      hits [⟨start, first⟩] address + hits [⟨start + first, size - first⟩] address := by
  simp only [hits_cons, hits_nil]
  split_ifs <;> simp only [Contains] at * <;> omega

@[simp] theorem hits_empty_range {start : ℕ} : hits [⟨start, 0⟩] address = 0 := by
  rw [hits_eq_zero_iff]
  intro range hr
  rw [List.mem_singleton.mp hr]
  simp only [Contains]
  omega

@[simp] theorem within_nil : Within [] top := by
  simp [Within]

@[simp] theorem within_cons :
    Within (range :: ranges) top ↔ range.start + range.size ≤ top ∧ Within ranges top := by
  simp [Within]

@[simp] theorem within_append :
    Within (ranges ++ others) top ↔ Within ranges top ∧ Within others top := by
  simp only [Within, List.mem_append]
  constructor
  · intro h
    exact ⟨fun r hr ↦ h r (Or.inl hr), fun r hr ↦ h r (Or.inr hr)⟩
  · rintro ⟨hleft, hright⟩ r (hr | hr)
    · exact hleft r hr
    · exact hright r hr

theorem Within.perm (h : ranges.Perm others) (hw : Within ranges top) : Within others top :=
  fun range hr ↦ hw range (h.mem_iff.mpr hr)

theorem Within.mono {bound : ℕ} (hw : Within ranges top) (h : top ≤ bound) : Within ranges bound :=
  fun range hr ↦ (hw range hr).trans h

theorem Within.hits_eq_zero (hw : Within ranges top) (h : top ≤ address) :
    hits ranges address = 0 := by
  rw [hits_eq_zero_iff]
  intro range hr hc
  have := hw range hr
  unfold Contains at hc
  omega

/-- The ranges do not overlap and none ends past `top`. -/
structure Packed (ranges : List ByteRange) (top : ℕ) : Prop where
  disjoint : ∀ address, hits ranges address ≤ 1
  within : Within ranges top

/-- The ranges cover `[0, top)`, every address exactly once, and nothing else. -/
structure Partition (ranges : List ByteRange) (top : ℕ) : Prop where
  cover : ∀ address, hits ranges address = if address < top then 1 else 0
  within : Within ranges top

theorem Partition.packed (h : Partition ranges top) : Packed ranges top where
  disjoint address := by
    rw [h.cover address]
    split <;> omega
  within := h.within

/-- A list that covers the same addresses within the same bound is a partition as well. -/
theorem Partition.congr (h : Partition ranges top)
    (hhits : ∀ address, hits others address = hits ranges address)
    (hwithin : Within others top) : Partition others top where
  cover address := by
    rw [hhits]
    exact h.cover address
  within := hwithin

/-- A partition is extended by the range that starts at its top. -/
theorem Partition.snoc (h : Partition ranges top) (size : ℕ) :
    Partition (ranges ++ [⟨top, size⟩]) (top + size) where
  cover address := by
    have hc := h.cover address
    simp only [hits_append, hc, hits_cons, hits_nil]
    split_ifs <;> simp only [Contains] at * <;> omega
  within := by
    simp only [within_append, within_cons, within_nil, and_true]
    exact ⟨h.within.mono (by omega), le_rfl⟩

/-- A list that covers the same addresses within the same bound has no overlaps either. -/
theorem Packed.congr (h : Packed ranges top)
    (hhits : ∀ address, hits others address = hits ranges address)
    (hwithin : Within others top) : Packed others top where
  disjoint address := by
    rw [hhits]
    exact h.disjoint address
  within := hwithin

/-- A range that starts where a list without overlaps ends overlaps none of it. -/
theorem Packed.snoc (h : Packed ranges top) (size : ℕ) :
    Packed (ranges ++ [⟨top, size⟩]) (top + size) where
  disjoint address := by
    have hone := h.disjoint address
    have hpast : top ≤ address → hits ranges address = 0 := h.within.hits_eq_zero
    simp only [hits_append, hits_cons, hits_nil]
    split_ifs <;> simp only [Contains] at * <;> omega
  within := by
    simp only [within_append, within_cons, within_nil, and_true]
    exact ⟨h.within.mono (by omega), le_rfl⟩

/-- Two different places of a list without overlaps hold ranges without a common address. -/
theorem Packed.apart (h : Packed (range :: ranges) top) {other : ByteRange} (hm : other ∈ ranges)
    (hc : range.Contains address) : ¬ other.Contains address := by
  intro ho
  have hone := h.disjoint address
  have hpos : 0 < hits ranges address := hits_pos_iff.mpr ⟨other, hm, ho⟩
  rw [hits_cons, if_pos hc] at hone
  omega

end ByteRange

end PlugAndPlay.Library
