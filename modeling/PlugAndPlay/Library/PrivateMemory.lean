import PlugAndPlay.Library.ByteMemory
import PlugAndPlay.Library.Pointwise

/-!
# Private memories

Every owner has regions of its own, found by their names, and what is done for one owner concerns no other.
A cell that nobody has written since its region was made is not known. A physical memory implements a region
where it holds every cell that is known; then a load of the region returns what was stored.
-/

namespace PlugAndPlay.Library.PrivateMemory

open ByteMemory

variable {Owner Name Cell : Type*}

/-- A region; the cells that are not known are `none`. -/
structure Region (Name Cell : Type*) where
  name : Name
  size : ℕ
  cells : ℕ → Option Cell

abbrev Memories (Owner Name Cell : Type*) := Owner → List (Region Name Cell)

/-- What can be done for an owner. -/
inductive Op (Owner Name Cell : Type*)
  | make (owner : Owner) (name : Name) (size : ℕ)
  | discard (owner : Owner) (name : Name)
  | clear (owner : Owner)
  | store (owner : Owner) (name : Name) (offset : ℕ) (data : List Cell)
deriving DecidableEq

def Op.owner : Op Owner Name Cell → Owner
  | .make owner _ _ | .discard owner _ | .clear owner | .store owner _ _ _ => owner

section Regions

variable [DecidableEq Name] {regions before after : List (Region Name Cell)} {name : Name} {offset count : ℕ}
  {data : List Cell}

/-- The first region with a name. -/
def find (regions : List (Region Name Cell)) (name : Name) : Option (Region Name Cell) :=
  regions.find? fun region ↦ region.name = name

def Region.store (region : Region Name Cell) (offset : ℕ) (data : List Cell) : Region Name Cell :=
  { region with cells := overlay region.cells offset (data.map some) }

/-- A store into the first region with a name. -/
def storeIn (name : Name) (offset : ℕ) (data : List Cell) : List (Region Name Cell) → List (Region Name Cell)
  | [] => []
  | region :: rest =>
    if region.name = name then region.store offset data :: rest else region :: storeIn name offset data rest

def Op.onRegions (op : Op Owner Name Cell) (regions : List (Region Name Cell)) : List (Region Name Cell) :=
  match op with
  | .make _ name size => regions ++ [⟨name, size, fun _ ↦ none⟩]
  | .discard _ name => regions.eraseP fun region ↦ region.name = name
  | .clear _ => []
  | .store _ name offset data => storeIn name offset data regions

theorem storeIn_append (hbefore : ∀ region ∈ before, region.name ≠ name) (region : Region Name Cell)
    (hname : region.name = name) :
    storeIn name offset data (before ++ region :: after) = before ++ region.store offset data :: after := by
  induction before with
  | nil => exact if_pos hname
  | cons other rest ih =>
    obtain ⟨hother, hrest⟩ := List.forall_mem_cons.mp hbefore
    calc storeIn name offset data (other :: (rest ++ region :: after))
        = other :: storeIn name offset data (rest ++ region :: after) := if_neg hother
      _ = other :: (rest ++ region.store offset data :: after) := congrArg _ (ih hrest)

/-- The region that a store changes is still found, and so is every other one. -/
theorem find_storeIn (regions : List (Region Name Cell)) (stored : Name) :
    find (storeIn stored offset data regions) name =
      (find regions name).map fun region ↦ if name = stored then region.store offset data else region := by
  induction regions with
  | nil => rfl
  | cons region rest ih =>
    unfold storeIn
    by_cases hstored : region.name = stored
    · rw [if_pos hstored]
      by_cases hname : region.name = name
      · have hsame : name = stored := hname.symm.trans hstored
        simp [find, Region.store, hname, hsame]
      · have hother : name ≠ stored := by
          intro hsame
          exact hname (hstored.trans hsame.symm)
        simp [find, Region.store, hname, hother]
    · rw [if_neg hstored]
      by_cases hname : region.name = name
      · have hother : name ≠ stored := by
          intro hsame
          exact hstored (hname.trans hsame)
        simp [find, hname, hother]
      · simp only [find] at ih
        simp [find, hname, ih]

theorem find_eraseP (regions : List (Region Name Cell)) {discarded : Name} (hother : name ≠ discarded) :
    find (regions.eraseP fun region ↦ region.name = discarded) name = find regions name := by
  induction regions with
  | nil => rfl
  | cons region rest ih =>
    simp only [find] at ih
    by_cases hdiscarded : region.name = discarded
    · have hname : ¬ discarded = name := Ne.symm hother
      simp [find, hdiscarded, hname]
    · simp only [find, List.eraseP_cons, hdiscarded, List.find?_cons, decide_false, cond_false, ih]

end Regions

section Memories

variable [DecidableEq Owner] [DecidableEq Name] {memories : Memories Owner Name Cell} {owner : Owner} {name : Name}
  {offset count : ℕ} {cells : List (Option Cell)} {data : List Cell}

def Op.apply (op : Op Owner Name Cell) (memories : Memories Owner Name Cell) : Memories Owner Name Cell :=
  Function.update memories op.owner (op.onRegions (memories op.owner))

/-- What is known of a range of a region; nothing is loaded past its end. -/
def load (memories : Memories Owner Name Cell) (owner : Owner) (name : Name) (offset count : ℕ) :
    Option (List (Option Cell)) :=
  (find (memories owner) name).bind fun region ↦
    if offset + count ≤ region.size then some (slice region.cells offset count) else none

theorem Op.apply_owner (op : Op Owner Name Cell) (memories : Memories Owner Name Cell) :
    op.apply memories op.owner = op.onRegions (memories op.owner) :=
  Function.update_self _ _ _

/-- What is done for one owner concerns no other. -/
theorem Op.apply_other {op : Op Owner Name Cell} (hother : owner ≠ op.owner) :
    op.apply memories owner = memories owner :=
  Function.update_of_ne hother _ _

/-- The operation leaves the range of the region as it is. -/
def Op.Spares (owner : Owner) (name : Name) (offset count : ℕ) : Op Owner Name Cell → Prop
  | .make _ _ _ => True
  | .discard other region => other = owner → region ≠ name
  | .clear other => other ≠ owner
  | .store other region start data => other = owner → region = name →
      start + data.length ≤ offset ∨ offset + count ≤ start

instance (owner : Owner) (name : Name) (offset count : ℕ) :
    (op : Op Owner Name Cell) → Decidable (op.Spares owner name offset count)
  | .make _ _ _ => inferInstanceAs (Decidable True)
  | .discard _ _ => inferInstanceAs (Decidable (_ = _ → _ ≠ _))
  | .clear _ => inferInstanceAs (Decidable (_ ≠ _))
  | .store _ _ _ _ => inferInstanceAs (Decidable (_ = _ → _ = _ → _ ∨ _))

/-- What is known of a range stays known while the operations spare it. -/
theorem Op.Spares.load_apply {op : Op Owner Name Cell} (hop : op.Spares owner name offset count)
    (hload : load memories owner name offset count = some cells) :
    load (op.apply memories) owner name offset count = some cells := by
  by_cases howner : owner = op.owner
  swap
  · unfold load
    rw [Op.apply_other howner]
    exact hload
  obtain ⟨region, hregion, hcells⟩ := Option.bind_eq_some_iff.mp hload
  have hfound : ∀ found : Region Name Cell, find (op.apply memories owner) name = some found →
      found.size = region.size → slice found.cells offset count = slice region.cells offset count →
      load (op.apply memories) owner name offset count = some cells := by
    intro found hfind hsize hslice
    unfold load
    rw [hfind, Option.bind_some, hsize, hslice]
    exact hcells
  rw [howner, op.apply_owner, ← howner] at hfound
  cases op with
  | make other made size =>
    refine hfound region ?_ rfl rfl
    simp only [onRegions, find, List.find?_append] at hregion ⊢
    rw [hregion, Option.some_or]
  | discard other discarded =>
    refine hfound region ?_ rfl rfl
    rw [onRegions, find_eraseP _ (hop howner.symm).symm]
    exact hregion
  | clear other => exact absurd howner.symm hop
  | store other stored start data =>
    by_cases hname : name = stored
    · apply hfound (region.store start data)
      · rw [onRegions, find_storeIn, hregion, Option.map_some, if_pos hname]
      · rfl
      · apply slice_overlay_disjoint
        rw [List.length_map]
        exact (hop howner.symm hname.symm).symm
    · refine hfound region ?_ rfl rfl
      rw [onRegions, find_storeIn, hregion, Option.map_some, if_neg hname]

/-- What was stored is known. -/
theorem load_store (hload : load memories owner name offset data.length = some cells) :
    load ((Op.store owner name offset data).apply memories) owner name offset data.length =
      some (data.map some) := by
  obtain ⟨region, hregion, hcells⟩ := Option.bind_eq_some_iff.mp hload
  have hfits : offset + data.length ≤ region.size := by
    by_contra hlong
    rw [if_neg hlong] at hcells
    cases hcells
  have howner := (Op.store owner name offset data).apply_owner memories
  simp only [Op.owner, Op.onRegions] at howner
  have hsame : slice (region.store offset data).cells offset data.length = data.map some := by
    have hslice : slice (overlay region.cells offset (data.map some)) offset (data.map some).length = data.map some :=
      slice_overlay_same
    rw [List.length_map] at hslice
    exact hslice
  unfold load
  rw [howner, find_storeIn, hregion, Option.map_some, if_pos rfl, Option.bind_some, hsame]
  exact if_pos hfits

end Memories

/-! ## Implementation -/

section Holds

variable {memory other : ℕ → Cell} {base start : ℕ} {region : Region Name Cell} {offset count : ℕ}
  {data : List Cell}

/-- The memory holds the known cells of the region from `base` on. -/
def Holds (memory : ℕ → Cell) (base : ℕ) (region : Region Name Cell) : Prop :=
  ∀ offset < region.size, ∀ cell ∈ region.cells offset, memory (base + offset) = cell

/-- The data is what is known of it. -/
def Agrees (cells : List (Option Cell)) (data : List Cell) : Prop :=
  List.Forall₂ (fun known cell ↦ ∀ value ∈ known, cell = value) cells data

theorem Agrees.eq {loaded : List Cell} (h : Agrees (data.map some) loaded) : loaded = data := by
  unfold Agrees at h
  induction data generalizing loaded with
  | nil =>
    cases h
    rfl
  | cons cell rest ih =>
    obtain ⟨value, values, hvalue, hvalues, rfl⟩ := List.forall₂_cons_left_iff.mp h
    rw [hvalue cell rfl, ih hvalues]

/-- The region is held wherever the same cells are. -/
theorem Holds.of_same (h : Holds memory base region)
    (hsame : ∀ offset < region.size, other (start + offset) = memory (base + offset)) :
    Holds other start region := by
  intro offset hoffset cell hcell
  rw [hsame offset hoffset]
  exact h offset hoffset cell hcell

theorem Holds.of_slice (h : Holds memory base region)
    (hslice : slice other start region.size = slice memory base region.size) : Holds other start region :=
  h.of_same fun _ hoffset ↦ eq_of_slice_eq hslice hoffset

/-- A region without cells is held everywhere. -/
theorem holds_of_empty (hempty : region.size = 0) : Holds memory base region := by
  intro offset hoffset
  rw [hempty] at hoffset
  exact absurd hoffset (Nat.not_lt_zero offset)

/-- Nothing is known of a new region. -/
theorem holds_new (name : Name) (size : ℕ) : Holds memory base ⟨name, size, fun _ ↦ none⟩ := by
  intro offset _ cell hcell
  cases hcell

/-- The same store in the memory and in the region. -/
theorem Holds.store (h : Holds memory base region) :
    Holds (overlay memory (base + offset) data) base (region.store offset data) := by
  intro index hindex cell hcell
  have hmap : (data.map some)[index - offset]? = (data[index - offset]?).map some := List.getElem?_map
  have hsub : base + index - (base + offset) = index - offset := Nat.add_sub_add_left base index offset
  simp only [Region.store, overlay_eq_written, written, hmap] at hcell
  rw [overlay_eq_written, written, hsub]
  by_cases hle : offset ≤ index
  · rw [if_pos (Nat.add_le_add_left hle base)]
    rw [if_pos hle] at hcell
    cases hdata : data[index - offset]? with
    | none =>
      rw [hdata] at hcell
      exact h index hindex cell hcell
    | some value =>
      rw [hdata] at hcell
      exact Option.some.inj hcell
  · rw [if_neg (fun hbase ↦ hle (Nat.le_of_add_le_add_left hbase))]
    rw [if_neg hle] at hcell
    exact h index hindex cell hcell

/-- A load of a held region returns what is known. -/
theorem Holds.agrees (h : Holds memory base region) (hfits : offset + count ≤ region.size) :
    Agrees (slice region.cells offset count) (slice memory (base + offset) count) := by
  apply Pointwise.forall₂_of_getElem?
  · rw [length_slice, length_slice]
  · intro index known cell hknown hcell value hvalue
    rw [getElem?_slice] at hknown hcell
    split at hknown
    · rename_i hindex
      rw [if_pos hindex] at hcell
      rw [← Option.some.inj hcell, Nat.add_assoc]
      apply h (offset + index) (by omega)
      rw [Option.some.inj hknown]
      exact hvalue
    · cases hknown

end Holds

end PlugAndPlay.Library.PrivateMemory
