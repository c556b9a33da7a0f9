import Mathlib.Data.List.Range
import Mathlib.Data.Nat.Notation
import Mathlib.Tactic.Linarith

/-!
# Flat memories

A memory is a function from addresses to cells. `slice` reads consecutive cells into a list and
`overlay` writes a list over consecutive cells; the lemmas say how the two cut into parts and
what a write leaves alone, which is all that reasoning about buffers needs.
-/

namespace PlugAndPlay.Library.ByteMemory

variable {α : Type*} {memory other : ℕ → α} {start count : ℕ} {cells more : List α}

/-- The `count` cells from `start` on. -/
def slice (memory : ℕ → α) (start count : ℕ) : List α :=
  (List.range count).map fun offset ↦ memory (start + offset)

/-- The memory after the cells of the list were written from `start` on. -/
def overlay (memory : ℕ → α) (start : ℕ) (cells : List α) : ℕ → α := fun address ↦
  if start ≤ address then cells[address - start]?.getD (memory address) else memory address

@[simp] theorem length_slice : (slice memory start count).length = count := by
  simp [slice]

@[simp] theorem slice_zero : slice memory start 0 = [] := rfl

theorem getElem?_slice (offset : ℕ) :
    (slice memory start count)[offset]? =
      if offset < count then some (memory (start + offset)) else none := by
  simp only [slice, List.getElem?_map]
  split
  · rw [List.getElem?_range ‹_›]
    rfl
  · rw [List.getElem?_eq_none (by rw [List.length_range]; omega)]
    rfl

theorem slice_add (first second : ℕ) :
    slice memory start (first + second) =
      slice memory start first ++ slice memory (start + first) second := by
  simp only [slice, List.range_add, List.map_append, List.map_map]
  congr 1
  apply List.map_congr_left
  intro offset _
  simp [Nat.add_assoc]

theorem slice_congr (h : ∀ address, start ≤ address → address < start + count →
    memory address = other address) : slice memory start count = slice other start count := by
  apply List.map_congr_left
  intro offset hoffset
  rw [List.mem_range] at hoffset
  exact h _ (by omega) (by omega)

/-- Two equal slices agree cell by cell. -/
theorem eq_of_slice_eq {base : ℕ} (h : slice memory start count = slice other base count)
    {offset : ℕ} (hoffset : offset < count) : memory (start + offset) = other (base + offset) := by
  have hget : (slice memory start count)[offset]? = (slice other base count)[offset]? := by
    rw [h]
  rw [getElem?_slice, getElem?_slice, if_pos hoffset, if_pos hoffset] at hget
  exact Option.some.inj hget

/-- Inside the cells the write decides, outside the old memory does. -/
theorem overlay_inside {address : ℕ} (hle : start ≤ address)
    (hlt : address < start + cells.length) :
    some (overlay memory start cells address) = cells[address - start]? := by
  have hindex : address - start < cells.length := by omega
  simp [overlay, hle, List.getElem?_eq_getElem hindex]

/-- A write changes nothing outside the cells it names. -/
theorem overlay_outside {address : ℕ} (h : address < start ∨ start + cells.length ≤ address) :
    overlay memory start cells address = memory address := by
  unfold overlay
  split
  · rw [List.getElem?_eq_none (by omega)]
    rfl
  · rfl

@[simp] theorem overlay_nil : overlay memory start [] = memory := by
  funext address
  exact overlay_outside (by simp only [List.length_nil]; omega)

theorem overlay_append :
    overlay memory start (cells ++ more) =
      overlay (overlay memory start cells) (start + cells.length) more := by
  funext address
  have hlength : (cells ++ more).length = cells.length + more.length := List.length_append
  by_cases hfirst : address < start + cells.length
  · rw [overlay_outside (Or.inl hfirst)]
    by_cases hle : start ≤ address
    · apply Option.some.inj
      rw [overlay_inside hle (by omega), overlay_inside hle hfirst,
        List.getElem?_append_left (by omega)]
    · rw [overlay_outside (by omega), overlay_outside (by omega)]
  · by_cases hsecond : address < start + cells.length + more.length
    · apply Option.some.inj
      rw [overlay_inside (by omega) (by omega), overlay_inside (by omega) hsecond,
        List.getElem?_append_right (by omega)]
      congr 1
      omega
    · rw [overlay_outside (by omega), overlay_outside (by omega), overlay_outside (by omega)]

@[simp] theorem slice_overlay_same : slice (overlay memory start cells) start cells.length = cells := by
  apply List.ext_getElem?
  intro offset
  rw [getElem?_slice]
  split
  · rw [overlay_inside (by omega) (by omega)]
    congr 1
    omega
  · rw [List.getElem?_eq_none (by omega)]

/-- What was copied from one memory to another reads the same in both. -/
theorem slice_overlay_slice {base : ℕ} :
    slice (overlay memory start (slice other base count)) start count = slice other base count := by
  have hsame : slice (overlay memory start (slice other base count)) start
      (slice other base count).length = slice other base count := slice_overlay_same
  rwa [length_slice] at hsame

theorem take_slice {first : ℕ} (h : first ≤ count) :
    (slice memory start count).take first = slice memory start first := by
  have hcount : count = first + (count - first) := by omega
  rw [hcount, slice_add]
  exact List.take_left' length_slice

/-- Reading the first cells of a write. -/
theorem slice_overlay_append :
    slice (overlay memory start (cells ++ more)) start cells.length = cells := by
  apply List.ext_getElem?
  intro offset
  have hlength : (cells ++ more).length = cells.length + more.length := List.length_append
  rw [getElem?_slice]
  split
  · rw [overlay_inside (by omega) (by omega), Nat.add_sub_cancel_left,
      List.getElem?_append_left (by omega)]
  · rw [List.getElem?_eq_none (by omega)]

/-- Reading cells that a write does not touch. -/
theorem slice_overlay_disjoint {base : ℕ} (h : base + count ≤ start ∨ start + cells.length ≤ base) :
    slice (overlay memory start cells) base count = slice memory base count :=
  slice_congr fun _ _ _ ↦ overlay_outside (by omega)

theorem drop_slice {first : ℕ} (h : first ≤ count) :
    (slice memory start count).drop first = slice memory (start + first) (count - first) := by
  have hcount : count = first + (count - first) := by omega
  conv_lhs => rw [hcount, slice_add]
  exact List.drop_left' length_slice

/-- A write inside a slice replaces its own cells and keeps those before and after. -/
theorem slice_overlay_inside {offset : ℕ} (h : offset + cells.length ≤ count) :
    slice (overlay memory (start + offset) cells) start count =
      (slice memory start count).take offset ++ cells ++
        (slice memory start count).drop (offset + cells.length) := by
  have hcount : count = offset + (cells.length + (count - (offset + cells.length))) := by omega
  rw [take_slice (by omega), drop_slice h, List.append_assoc]
  conv_lhs => rw [hcount, slice_add, slice_add]
  rw [slice_overlay_disjoint (by omega), slice_overlay_same, slice_overlay_disjoint (by omega),
    Nat.add_assoc]

/-! ## The last write -/

/-- What a write from `start` on puts at an address, if it reaches it. -/
def written (start : ℕ) (cells : List α) (address : ℕ) : Option α :=
  if start ≤ address then cells[address - start]? else none

/-- What the latest of the writes that reach an address put there; the writes are listed from the latest on. -/
def lastWritten (writes : List (ℕ × List α)) (address : ℕ) : Option α :=
  writes.findSome? fun write ↦ written write.1 write.2 address

theorem overlay_eq_written (address : ℕ) :
    overlay memory start cells address = (written start cells address).getD (memory address) := by
  unfold overlay written
  split <;> rfl

/-- A memory that holds the last writes still does after one more. -/
theorem overlay_eq_lastWritten {writes : List (ℕ × List α)} {address : ℕ} {zero : α}
    (h : memory address = (lastWritten writes address).getD zero) :
    overlay memory start cells address = (lastWritten ((start, cells) :: writes) address).getD zero := by
  have hlatest : lastWritten ((start, cells) :: writes) address =
      (written start cells address).or (lastWritten writes address) := by
    simp only [lastWritten, List.findSome?_cons]
    cases written start cells address <;> rfl
  rw [overlay_eq_written, h, hlatest]
  cases written start cells address with
  | none => rfl
  | some cell => rfl

/-! ## Agreement on a region -/

/-- The two memories hold the same cells at the addresses of the region. -/
def AgreeOn (region : ℕ → Prop) (memory other : ℕ → α) : Prop :=
  ∀ address, region address → memory address = other address

section AgreeOn

variable {region : ℕ → Prop} {third : ℕ → α}

theorem AgreeOn.refl (region : ℕ → Prop) (memory : ℕ → α) : AgreeOn region memory memory :=
  fun _ _ ↦ rfl

theorem AgreeOn.symm (h : AgreeOn region memory other) : AgreeOn region other memory :=
  fun address hregion ↦ (h address hregion).symm

theorem AgreeOn.trans (h : AgreeOn region memory other) (h' : AgreeOn region other third) :
    AgreeOn region memory third :=
  fun address hregion ↦ (h address hregion).trans (h' address hregion)

/-- Memories that agree read the same inside the region. -/
theorem AgreeOn.slice (h : AgreeOn region memory other)
    (hinside : ∀ address, start ≤ address → address < start + count → region address) :
    slice memory start count = ByteMemory.slice other start count :=
  slice_congr fun address hle hlt ↦ h address (hinside address hle hlt)

/-- The same write keeps memories in agreement, wherever it goes. -/
theorem AgreeOn.overlay (h : AgreeOn region memory other) :
    AgreeOn region (overlay memory start cells) (ByteMemory.overlay other start cells) := by
  intro address hregion
  simp only [ByteMemory.overlay, h address hregion]

end AgreeOn

end PlugAndPlay.Library.ByteMemory
