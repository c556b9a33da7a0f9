import Mathlib.Data.List.Basic

/-!
# Changing one element of a list

What `List.modify` leaves alone: a view of the elements that the change does not touch, and the
elements before and after the changed one; and what a search finds once an element is taken out.
-/

namespace PlugAndPlay.Library.ListModify

variable {α β : Type*} {list : List α} {index : ℕ}

/-- A view of the elements that the change does not affect is the same for the whole list. -/
theorem map_modify_of_forall (list : List α) (index : ℕ) (change : α → α) (view : α → β)
    (h : ∀ a, view (change a) = view a) : (list.modify index change).map view = list.map view := by
  apply List.ext_getElem?
  intro k
  simp only [List.getElem?_map, List.getElem?_modify]
  cases list[k]? with
  | none => rfl
  | some a =>
    by_cases hk : index = k
    · simp [hk, h]
    · simp [hk]

/-- Only what a change does to the element at the position matters. -/
theorem modify_congr {f g : α → α} (h : ∀ a, list[index]? = some a → f a = g a) :
    list.modify index f = list.modify index g := by
  apply List.ext_getElem?
  intro k
  simp only [List.getElem?_modify]
  by_cases hk : index = k
  · subst hk
    cases ha : list[index]? with
    | none => rfl
    | some a => simp [h a ha]
  · simp [hk]

/-- Changing an element is replacing it by the changed one. -/
theorem modify_eq_set {f : α → α} {a : α} (h : list[index]? = some a) :
    list.modify index f = list.set index (f a) := by
  obtain ⟨hlt, rfl⟩ := List.getElem?_eq_some_iff.mp h
  apply List.ext_getElem?
  intro k
  rw [List.getElem?_modify, List.getElem?_set]
  by_cases hk : index = k
  · subst hk
    simp [hlt]
  · simp [hk]

/-- An element after a change is an element before, changed or not. -/
theorem exists_of_getElem?_modify {change : α → α} {b : α} {i : ℕ}
    (h : (list.modify index change)[i]? = some b) :
    ∃ a, list[i]? = some a ∧ b = if index = i then change a else a := by
  rw [List.getElem?_modify] at h
  obtain ⟨a, ha, hb⟩ := Option.map_eq_some_iff.mp h
  refine ⟨a, ha, hb.symm.trans ?_⟩
  split <;> rfl

theorem getElem?_set_cases {a b : α} {i : ℕ} (h : (list.set index a)[i]? = some b) :
    index = i ∧ b = a ∨ index ≠ i ∧ list[i]? = some b := by
  rw [List.getElem?_set] at h
  split at h
  · split at h
    · exact .inl ⟨‹_›, (Option.some.inj h).symm⟩
    · cases h
  · exact .inr ⟨‹_›, h⟩

theorem getElem?_concat_cases {a b : α} {i : ℕ} (h : (list ++ [a])[i]? = some b) :
    list[i]? = some b ∨ i = list.length ∧ b = a := by
  rw [List.getElem?_append] at h
  split at h
  · exact .inl h
  · obtain ⟨hi, hb⟩ := List.getElem?_eq_some_iff.mp h
    rw [List.length_singleton] at hi
    refine .inr ⟨by omega, ?_⟩
    rw [← hb]
    simp

/-- The list around an element, whatever the element is changed to. -/
theorem modify_split {a : α} (h : list[index]? = some a) :
    ∃ before after, list = before ++ a :: after ∧
      ∀ change, list.modify index change = before ++ change a :: after := by
  obtain ⟨hlt, ha⟩ := List.getElem?_eq_some_iff.mp h
  refine ⟨list.take index, list.drop (index + 1), ?_, fun change ↦ ?_⟩
  · rw [← ha, ← List.drop_eq_getElem_cons hlt, List.take_append_drop]
  · rw [List.modify_eq_take_cons_drop hlt, ha]

/-- A search that the change does not affect finds the same position. -/
theorem findIdx?_modify (list : List α) (index : ℕ) (change : α → α) (test : α → Bool)
    (h : ∀ a, test (change a) = test a) :
    (list.modify index change).findIdx? test = list.findIdx? test := by
  have hmap : ∀ other : List α, other.findIdx? test = (other.map test).findIdx? id := by
    intro other
    rw [List.findIdx?_map]
    rfl
  rw [hmap, hmap, map_modify_of_forall list index change test h]

/-- What some element had, some element has after the change. -/
theorem exists_mem_modify {P Q : α → Prop} (h : ∃ a ∈ list, P a) (index : ℕ) (change : α → α)
    (hchange : ∀ a, list[index]? = some a → P a → Q (change a)) (hkeep : ∀ a, P a → Q a) :
    ∃ a ∈ list.modify index change, Q a := by
  obtain ⟨a, ha, hP⟩ := h
  obtain ⟨i, hi⟩ := List.getElem?_of_mem ha
  by_cases hindex : index = i
  · subst hindex
    refine ⟨change a, List.mem_of_getElem? (i := index) ?_, hchange a hi hP⟩
    simp [hi]
  · refine ⟨a, List.mem_of_getElem? (i := i) ?_, hkeep a hP⟩
    simp [hindex, hi]

/-- What holds of all elements and of the changed one holds of all afterwards. -/
theorem forall_mem_modify {P Q : α → Prop} (h : ∀ a ∈ list, P a) (index : ℕ) (change : α → α)
    (hchange : ∀ a, list[index]? = some a → P a → Q (change a)) (hkeep : ∀ a, P a → Q a) :
    ∀ a ∈ list.modify index change, Q a := by
  intro b hb
  obtain ⟨i, hi⟩ := List.getElem?_of_mem hb
  rw [List.getElem?_modify] at hi
  obtain ⟨a, ha, rfl⟩ := Option.map_eq_some_iff.mp hi
  have hP := h a (List.mem_of_getElem? ha)
  by_cases hindex : index = i
  · subst hindex
    rw [if_pos rfl]
    exact hchange a ha hP
  · rw [if_neg hindex]
    exact hkeep a hP

/-- What the elements hold changes by what the changed element holds. -/
theorem count_flatMap_modify [DecidableEq β] {a : α} (h : list[index]? = some a) (view : α → List β)
    (change : α → α) (b : β) :
    ((list.modify index change).flatMap view).count b + (view a).count b =
      (list.flatMap view).count b + (view (change a)).count b := by
  obtain ⟨before, after, hlist, hmodify⟩ := modify_split h
  rw [hmodify, hlist]
  simp only [List.flatMap_append, List.flatMap_cons, List.count_append]
  omega

/-- Where the changed element holds at most `n` more than before, so does the list. -/
theorem count_flatMap_modify_le [DecidableEq β] (list : List α) (index : ℕ) (view : α → List β)
    (change : α → α) (b : β) (n : ℕ) (h : ∀ a, (view (change a)).count b ≤ (view a).count b + n) :
    ((list.modify index change).flatMap view).count b ≤ (list.flatMap view).count b + n := by
  cases ha : list[index]? with
  | none =>
    rw [List.modify_eq_self (List.getElem?_eq_none_iff.mp ha)]
    exact Nat.le_add_right _ n
  | some a =>
    have hcount := count_flatMap_modify ha view change b
    have hle := h a
    omega

/-- The lists joined change by what the changed list holds. -/
theorem flatten_modify_perm {lists : List (List α)} {a : List α} (h : lists[index]? = some a)
    (change : List α → List α) :
    ((lists.modify index change).flatten ++ a).Perm (lists.flatten ++ change a) := by
  obtain ⟨before, after, hlists, hmodify⟩ := modify_split h
  rw [hmodify, hlists]
  simp only [List.flatten_append, List.flatten_cons, List.append_assoc]
  apply List.Perm.append_left
  calc
    List.Perm (change a ++ (after.flatten ++ a)) ((after.flatten ++ a) ++ change a) := List.perm_append_comm
    List.Perm _ ((a ++ after.flatten) ++ change a) := List.perm_append_comm.append_right _
    _ = a ++ (after.flatten ++ change a) := List.append_assoc ..

/-- A view of all elements when one of them changes and the view of the others does not. -/
theorem map_modify_eq_set {view view' : α → β} {a : α} (h : list[index]? = some a) (change : α → α)
    (hothers : ∀ (other : ℕ) b, list[other]? = some b → other ≠ index → view' b = view b) :
    (list.modify index change).map view' = (list.map view).set index (view' (change a)) := by
  apply List.ext_getElem?
  intro other
  by_cases hother : other = index
  · subst hother
    obtain ⟨hlt, rfl⟩ := List.getElem?_eq_some_iff.mp h
    simp [hlt]
  · rw [List.getElem?_map, List.getElem?_modify, List.getElem?_set_ne (Ne.symm hother), List.getElem?_map]
    cases hb : list[other]? with
    | none => rfl
    | some b => simp [Ne.symm hother, hothers other b hb hother]

theorem modify_concat (list : List α) (a : α) (change : α → α) :
    (list ++ [a]).modify list.length change = list ++ [change a] := by
  induction list with
  | nil => rfl
  | cons first rest ih => simp [ih]

/-- Searches after the first element with a property is taken out. -/
theorem find?_eraseP_of_disjoint {p q : α → Bool} (h : ∀ a, q a → ¬ p a) (list : List α) :
    (list.eraseP p).find? q = list.find? q := by
  induction list with
  | nil => rfl
  | cons first rest ih =>
    rw [List.eraseP_cons]
    cases hp : p first with
    | true =>
      have hq : ¬ q first := fun hq ↦ h first hq hp
      rw [List.find?_cons_of_neg hq]
      rfl
    | false =>
      rw [cond_false, List.find?_cons, List.find?_cons, ih]

theorem find?_eraseP (p : α → Bool) (list : List α) : (list.eraseP p).find? p = (list.filter p)[1]? := by
  induction list with
  | nil => rfl
  | cons first rest ih =>
    rw [List.eraseP_cons]
    cases hp : p first with
    | true =>
      rw [List.filter_cons_of_pos hp, List.getElem?_cons_succ, ← List.head?_eq_getElem?, List.head?_filter]
      rfl
    | false =>
      have hno : ¬ p first := by simp [hp]
      rw [cond_false, List.find?_cons_of_neg hno, List.filter_cons_of_neg hno, ih]

/-- Where at most one element has a property, there is one position of such an element. -/
theorem eq_of_length_filter_le_one {p : α → Bool} (h : (list.filter p).length ≤ 1) {i j : ℕ} {a b : α}
    (hi : list[i]? = some a) (hj : list[j]? = some b) (ha : p a) (hb : p b) : i = j := by
  induction list generalizing i j with
  | nil => cases hi
  | cons first rest ih =>
    rw [List.filter_cons] at h
    have hrest : ∀ {k : ℕ} {c : α}, rest[k]? = some c → p c → 1 ≤ (rest.filter p).length := fun hk hc ↦
      List.length_pos_of_mem (List.mem_filter.mpr ⟨List.mem_of_getElem? hk, hc⟩)
    cases i with
    | zero =>
      cases j with
      | zero => rfl
      | succ j =>
        obtain rfl := Option.some.inj hi
        have hlarge := hrest hj hb
        rw [if_pos ha, List.length_cons] at h
        omega
    | succ i =>
      cases j with
      | zero =>
        obtain rfl := Option.some.inj hj
        have hlarge := hrest hi ha
        rw [if_pos hb, List.length_cons] at h
        omega
      | succ j =>
        apply congrArg Nat.succ
        refine ih ?_ hi hj
        split at h
        · exact Nat.le_of_succ_le h
        · exact h

/-- A change in the front part of a list. -/
theorem modify_append_left (h : index < list.length) (others : List α) (change : α → α) :
    (list ++ others).modify index change = list.modify index change ++ others := by
  induction list generalizing index with
  | nil => cases h
  | cons first rest ih =>
    cases index with
    | zero => rfl
    | succ index =>
      rw [List.cons_append, List.modify_succ_cons, List.modify_succ_cons,
        ih (Nat.lt_of_succ_lt_succ h), List.cons_append]

end PlugAndPlay.Library.ListModify
