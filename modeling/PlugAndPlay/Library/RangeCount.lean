import Mathlib.Algebra.BigOperators.Ring.Finset
import Mathlib.Order.Interval.Finset.Nat
import PlugAndPlay.Library.FreeRuns
import PlugAndPlay.Library.Packing

/-!
# How many addresses a list of ranges covers

Counted address by address, ranges without overlaps cover as many addresses as their sizes add up to. A
partition is therefore also an equation between sizes.
-/

namespace PlugAndPlay.Library.ByteRange

variable {ranges others : List ByteRange} {range : ByteRange} {top : ℕ}

/-- The number of addresses below `top` that lie in some range. -/
def covered (ranges : List ByteRange) (top : ℕ) : ℕ :=
  ((Finset.range top).filter fun address ↦ 0 < hits ranges address).card

theorem sum_contains (h : range.start + range.size ≤ top) :
    ∑ address ∈ Finset.range top, (if range.Contains address then 1 else 0) = range.size := by
  have hrange : (Finset.range top).filter range.Contains = Finset.Ico range.start (range.start + range.size) := by
    ext address
    simp only [Finset.mem_filter, Finset.mem_range, Finset.mem_Ico, Contains]
    omega
  calc
    ∑ address ∈ Finset.range top, (if range.Contains address then 1 else 0)
    _ = ((Finset.range top).filter range.Contains).card := (Finset.card_filter _ _).symm
    _ = range.start + range.size - range.start := by rw [hrange, Nat.card_Ico]
    _ = range.size := Nat.add_sub_cancel_left ..

/-- Counting how often each address is covered adds up the sizes. -/
theorem sum_hits (h : Within ranges top) :
    ∑ address ∈ Finset.range top, hits ranges address = Packing.totalSize ranges := by
  induction ranges with
  | nil => simp
  | cons range ranges ih =>
    obtain ⟨hrange, hranges⟩ := within_cons.mp h
    simp only [hits_cons, Finset.sum_add_distrib, sum_contains hrange, ih hranges, Packing.totalSize_cons]

theorem Packed.covered_eq (h : Packed ranges top) : covered ranges top = Packing.totalSize ranges := by
  have huna : ∀ address, hits ranges address = if 0 < hits ranges address then 1 else 0 := by
    intro address
    have hle := h.disjoint address
    split <;> omega
  calc
    covered ranges top
    _ = ∑ address ∈ Finset.range top, (if 0 < hits ranges address then 1 else 0) := Finset.card_filter _ _
    _ = ∑ address ∈ Finset.range top, hits ranges address :=
      Finset.sum_congr rfl fun address _ ↦ (huna address).symm
    _ = Packing.totalSize ranges := sum_hits h.within

/-- The sizes of a partition add up to the whole. -/
theorem Partition.totalSize_eq (h : Partition ranges top) : Packing.totalSize ranges = top := by
  calc
    Packing.totalSize ranges
    _ = ∑ address ∈ Finset.range top, hits ranges address := (sum_hits h.within).symm
    _ = ∑ _address ∈ Finset.range top, 1 :=
      Finset.sum_congr rfl fun address haddress ↦ by rw [h.cover, if_pos (Finset.mem_range.mp haddress)]
    _ = top := by simp

theorem totalSize_append : Packing.totalSize (ranges ++ others) =
    Packing.totalSize ranges + Packing.totalSize others := by
  simp [Packing.totalSize]

/-- A list of separated ranges that covers everything has everything in one range. -/
theorem Partition.mem_of_separated (h : Partition ranges top) (hseparated : Separated ranges) (htop : 0 < top) :
    ⟨0, top⟩ ∈ ranges := by
  have hdisjoint : ∀ address, hits ranges address ≤ 1 := by
    intro address
    rw [h.cover]
    split <;> omega
  apply MaximalRun.mem hdisjoint hseparated
  exact
    { pos := htop
      run := fun address _ hlt ↦ by
        rw [h.cover, if_pos (by omega)]
        exact Nat.one_pos
      after := by
        rw [h.cover, if_neg (by omega)]
      before := fun address haddress ↦ by omega }

end PlugAndPlay.Library.ByteRange
