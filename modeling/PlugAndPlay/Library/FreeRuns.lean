import PlugAndPlay.Library.ByteRange

/-!
# Maximal runs of covered addresses

Ranges that do not overlap and of which none ends where another begins are exactly the maximal runs of the
addresses they cover. Empty ranges may lie anywhere.
-/

namespace PlugAndPlay.Library.ByteRange

/-- No nonempty range of the list ends where a nonempty one begins. -/
def Separated (ranges : List ByteRange) : Prop :=
  ∀ range ∈ ranges, ∀ other ∈ ranges, 0 < range.size → 0 < other.size →
    range.start + range.size ≠ other.start

/-- All addresses from `start` on, `size` of them, are covered. -/
def Run (ranges : List ByteRange) (start size : ℕ) : Prop :=
  ∀ address, start ≤ address → address < start + size → 0 < hits ranges address

/-- A run that cannot be extended to either side. -/
structure MaximalRun (ranges : List ByteRange) (start size : ℕ) : Prop where
  pos : 0 < size
  run : Run ranges start size
  after : hits ranges (start + size) = 0
  before : ∀ address, address + 1 = start → hits ranges address = 0

variable {ranges others : List ByteRange} {range other : ByteRange} {address start size : ℕ}

theorem Contains.size_pos (h : range.Contains address) : 0 < range.size := by
  unfold Contains at h
  omega

section Disjoint

variable (hdisjoint : ∀ address, hits ranges address ≤ 1)
include hdisjoint

/-- Without overlaps an address decides its range. -/
theorem eq_of_contains (hr : range ∈ ranges) (ho : other ∈ ranges) (hrc : range.Contains address)
    (hoc : other.Contains address) : range = other := by
  by_contra hne
  have hperm : ranges.Perm (range :: ranges.erase range) := List.perm_cons_erase hr
  have hmem : other ∈ ranges.erase range := (List.mem_erase_of_ne (Ne.symm hne)).mpr ho
  have hpos : 0 < hits (ranges.erase range) address := hits_pos_iff.mpr ⟨other, hmem, hoc⟩
  have hone := hdisjoint address
  rw [hits_perm hperm, hits_cons, if_pos hrc] at hone
  omega

variable (hseparated : Separated ranges)
include hseparated

/-- The address after a nonempty range is not covered. -/
theorem hits_after (hr : range ∈ ranges) (hpos : 0 < range.size) :
    hits ranges (range.start + range.size) = 0 := by
  rw [hits_eq_zero_iff]
  intro other ho hc
  rcases Nat.lt_or_eq_of_le hc.1 with hlt | heq
  · -- the other range also contains the last address of this one
    have hlast : range.Contains (range.start + range.size - 1) := ⟨by omega, by omega⟩
    have hsame : range = other := by
      apply eq_of_contains hdisjoint hr ho hlast
      exact ⟨by omega, by have := hc.2; omega⟩
    have := hc.2
    rw [← hsame] at this
    omega
  · exact hseparated range hr other ho hpos hc.size_pos heq.symm

theorem hits_before (hr : range ∈ ranges) (hpos : 0 < range.size) (h : address + 1 = range.start) :
    hits ranges address = 0 := by
  rw [hits_eq_zero_iff]
  intro other ho hc
  rcases Nat.lt_or_eq_of_le (show range.start ≤ other.start + other.size by have := hc.2; omega) with
    hlt | heq
  · have hfirst : range.Contains range.start := ⟨le_rfl, by omega⟩
    have hsame : range = other := by
      apply eq_of_contains hdisjoint hr ho hfirst
      exact ⟨by have := hc.1; omega, hlt⟩
    have := hc.1
    rw [← hsame] at this
    omega
  · exact hseparated other ho range hr hc.size_pos hpos heq.symm

/-- A nonempty range is a maximal run. -/
theorem maximalRun_of_mem (hr : range ∈ ranges) (hpos : 0 < range.size) :
    MaximalRun ranges range.start range.size where
  pos := hpos
  run _ hle hlt := hits_pos_iff.mpr ⟨range, hr, hle, hlt⟩
  after := hits_after hdisjoint hseparated hr hpos
  before _ h := hits_before hdisjoint hseparated hr hpos h

/-- A run lies in one range. -/
theorem Run.mem_range (hsize : 0 < size) (hrun : Run ranges start size) :
    ∃ range ∈ ranges, range.start ≤ start ∧ start + size ≤ range.start + range.size := by
  induction size with
  | zero => omega
  | succ size ih =>
    have hlast := hits_pos_iff.mp (hrun (start + size) (by omega) (by omega))
    rcases Nat.eq_zero_or_pos size with hcero | hpos
    · obtain ⟨range, hr, hc⟩ := hlast
      refine ⟨range, hr, by have := hc.1; omega, by have := hc.2; omega⟩
    · obtain ⟨range, hr, hle, hfin⟩ := ih hpos fun address h h' ↦ hrun address h (by omega)
      rcases Nat.lt_or_eq_of_le hfin with hlt | heq
      · exact ⟨range, hr, hle, by omega⟩
      · -- the range ends inside the run, where nothing is covered
        have hnone := hits_after hdisjoint hseparated hr (by omega)
        rw [← heq] at hnone
        have := hits_pos_iff.mpr hlast
        omega

/-- The maximal runs are the nonempty ranges. -/
theorem MaximalRun.mem (h : MaximalRun ranges start size) : ⟨start, size⟩ ∈ ranges := by
  obtain ⟨range, hr, hle, hfin⟩ := h.run.mem_range hdisjoint hseparated h.pos
  have hsize := h.pos
  have hstart : range.start = start := by
    by_contra hne
    have hnone := h.before (start - 1) (by omega)
    have hsome : 0 < hits ranges (start - 1) := hits_pos_iff.mpr ⟨range, hr, by omega, by omega⟩
    omega
  have hend : range.start + range.size = start + size := by
    by_contra hne
    have hnone := h.after
    have hsome : 0 < hits ranges (start + size) := hits_pos_iff.mpr ⟨range, hr, by omega, by omega⟩
    omega
  have hrange : (⟨start, size⟩ : ByteRange) = range := by
    cases range
    simp only [mk.injEq] at hstart hend ⊢
    omega
  rw [hrange]
  exact hr

end Disjoint

end PlugAndPlay.Library.ByteRange
