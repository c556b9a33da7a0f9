import PlugAndPlay.Library.ByteMemory
import PlugAndPlay.Library.ByteRange
import Mathlib.Algebra.BigOperators.Group.List.Basic

/-!
# Sliding ranges down to the start of memory

Ranges taken in address order are moved one after another to a cursor that starts at the bottom
and advances by the size of each. Every move is a read followed by a write, so it may overlap
itself, but it never reaches a range that has still to be moved: disjoint ranges in address order
leave the cursor at or below each of them. Empty ranges may lie anywhere.
-/

namespace PlugAndPlay.Library.Packing

open ByteRange

variable {α : Type*} {memory : ℕ → α} {range : ByteRange} {ranges : List ByteRange} {cursor top : ℕ}

/-- Of two nonempty ranges the earlier in the list ends before the later begins. -/
def Ascending (ranges : List ByteRange) : Prop :=
  ranges.Pairwise fun first second ↦
    first.size = 0 ∨ second.size = 0 ∨ first.start + first.size ≤ second.start

/-- No nonempty range begins below the cursor. -/
def Above (cursor : ℕ) (ranges : List ByteRange) : Prop :=
  ∀ range ∈ ranges, range.size = 0 ∨ cursor ≤ range.start

def totalSize (ranges : List ByteRange) : ℕ := (ranges.map ByteRange.size).sum

/-- The memory after the ranges were moved to the cursor one after another. -/
def pack (memory : ℕ → α) : ℕ → List ByteRange → ℕ → α
  | _, [] => memory
  | cursor, range :: ranges =>
    pack (ByteMemory.overlay memory cursor (ByteMemory.slice memory range.start range.size))
      (cursor + range.size) ranges

@[simp] theorem totalSize_nil : totalSize [] = 0 := rfl

@[simp] theorem totalSize_cons :
    totalSize (range :: ranges) = range.size + totalSize ranges := by
  simp [totalSize]

theorem above_zero (ranges : List ByteRange) : Above 0 ranges :=
  fun _ _ ↦ Or.inr (Nat.zero_le _)

/-- Sorted by their starts and without overlaps, ranges are in address order. -/
theorem ascending_of_sorted
    (hsorted : ranges.Pairwise fun first second ↦ first.start ≤ second.start)
    (hdisjoint : ∀ address, hits ranges address ≤ 1) : Ascending ranges := by
  induction ranges with
  | nil => exact List.Pairwise.nil
  | cons first rest ih =>
    obtain ⟨hfirst, hrest⟩ := List.pairwise_cons.mp hsorted
    have hrestDisjoint : ∀ address, hits rest address ≤ 1 := by
      intro address
      have := hdisjoint address
      rw [hits_cons] at this
      omega
    refine List.pairwise_cons.mpr ⟨fun second hsecond ↦ ?_, ih hrest hrestDisjoint⟩
    by_contra hnot
    simp only [not_or] at hnot
    obtain ⟨hne, hne', hoverlap⟩ := hnot
    have hle := hfirst second hsecond
    -- both ranges contain the start of the second
    have hcontains : first.Contains second.start := ⟨hle, by omega⟩
    have hpos : 0 < hits rest second.start :=
      hits_pos_iff.mpr ⟨second, hsecond, le_rfl, by omega⟩
    have hone := hdisjoint second.start
    rw [hits_cons, if_pos hcontains] at hone
    omega

theorem Above.step (hascending : Ascending (range :: ranges)) (habove : Above cursor (range :: ranges)) :
    Above (cursor + range.size) ranges := by
  intro other hother
  have hpair := (List.pairwise_cons.mp hascending).1 other hother
  have hfirst := habove range List.mem_cons_self
  have hsecond := habove other (List.mem_cons_of_mem _ hother)
  omega

/-- The cursor never passes the bound of the ranges. -/
theorem totalSize_le (hascending : Ascending ranges) (habove : Above cursor ranges)
    (hwithin : Within ranges top) (hcursor : cursor ≤ top) : cursor + totalSize ranges ≤ top := by
  induction ranges generalizing cursor with
  | nil => simpa using hcursor
  | cons range rest ih =>
    rw [totalSize_cons, ← Nat.add_assoc]
    have hrange := habove range List.mem_cons_self
    obtain ⟨hend, hrest⟩ := within_cons.mp hwithin
    exact ih hascending.of_cons (habove.step hascending) hrest (by omega)

/-- Nothing below the cursor changes. -/
theorem pack_below {address : ℕ} (h : address < cursor) :
    pack memory cursor ranges address = memory address := by
  induction ranges generalizing cursor memory with
  | nil => rfl
  | cons range rest ih =>
    rw [pack, ih (by omega), ByteMemory.overlay_outside (Or.inl h)]

/-- A range that already lies at the cursor stays as it is. -/
theorem overlay_slice_self (memory : ℕ → α) (start size : ℕ) :
    ByteMemory.overlay memory start (ByteMemory.slice memory start size) = memory := by
  funext address
  have hlength : (ByteMemory.slice memory start size).length = size := ByteMemory.length_slice
  by_cases h : start ≤ address ∧ address < start + size
  · apply Option.some.inj
    rw [ByteMemory.overlay_inside h.1 (by omega), ByteMemory.getElem?_slice, if_pos (by omega)]
    congr 2
    omega
  · exact ByteMemory.overlay_outside (by omega)

/-- Every range arrives: its new place, right after the ranges before it, holds what its old place
held before anything was moved. -/
theorem slice_pack {before after : List ByteRange} (hascending : Ascending (before ++ range :: after))
    (habove : Above cursor (before ++ range :: after)) :
    ByteMemory.slice (pack memory cursor (before ++ range :: after)) (cursor + totalSize before)
        range.size =
      ByteMemory.slice memory range.start range.size := by
  induction before generalizing cursor memory with
  | nil =>
    set cells := ByteMemory.slice memory range.start range.size
    have hlength : cells.length = range.size := ByteMemory.length_slice
    calc ByteMemory.slice (pack memory cursor (range :: after)) cursor range.size
        = ByteMemory.slice (ByteMemory.overlay memory cursor cells) cursor range.size :=
          ByteMemory.slice_congr fun _ _ hlt ↦ pack_below hlt
      _ = cells := by
          rw [← hlength]
          exact ByteMemory.slice_overlay_same
  | cons first rest ih =>
    have hpair := (List.pairwise_cons.mp hascending).1 range (by simp)
    have hfirst := habove first List.mem_cons_self
    rw [List.cons_append, pack, totalSize_cons, ← Nat.add_assoc,
      ih hascending.of_cons (habove.step hascending)]
    rcases Nat.eq_zero_or_pos range.size with hzero | hpos
    · rw [hzero]
      rfl
    · by_cases hempty : first.size = 0
      · rw [hempty, ByteMemory.slice_zero, ByteMemory.overlay_nil]
      · refine ByteMemory.slice_overlay_disjoint (Or.inr ?_)
        rw [ByteMemory.length_slice]
        omega

end PlugAndPlay.Library.Packing
