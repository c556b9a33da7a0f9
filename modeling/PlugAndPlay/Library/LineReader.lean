import Mathlib.Data.List.Basic
import Mathlib.Data.List.TakeWhile
import Mathlib.Data.Nat.Notation

/-!
# Lines through a buffer

`fgets` takes a line from the front of a text, newline included, as far as the buffer holds it; what does not
fit is what the next call finds. Reading a text to its end gives the lines, the long ones cut in pieces.
-/

namespace PlugAndPlay.Library.LineReader

variable {α β : Type*} [DecidableEq α] (newline : α)

/-- The lines of a text without their newlines; the last one may lack it. -/
def lines : List α → List (List α)
  | [] => []
  | c :: text =>
    if c = newline then [] :: lines text
    else
      match lines text with
      | [] => [[c]]
      | line :: others => (c :: line) :: others

/-- At most `count` symbols, none behind a newline, and what is left. -/
def readUpTo : ℕ → List α → List α × List α
  | 0, text => ([], text)
  | _ + 1, [] => ([], [])
  | count + 1, c :: text =>
    if c = newline then ([c], text)
    else
      let (chunk, rest) := readUpTo count text
      (c :: chunk, rest)

/-- `fgets` with a buffer of `size` symbols, one of them for the end mark; nothing at the end of the text. -/
def fgets (size : ℕ) (text : List α) : Option (List α × List α) :=
  if text = [] then none else some (readUpTo newline (size - 1) text)

variable {newline} {line text rest : List α} {count : ℕ}

omit [DecidableEq α] in
/-- What stands behind a symbol that stops `takeWhile` does not count. -/
theorem takeWhile_append_of_mem {p : α → Bool} {stop : α} (hmem : stop ∈ line) (hstop : p stop = false)
    (rest : List α) : (line ++ rest).takeWhile p = line.takeWhile p := by
  rw [List.takeWhile_append, if_neg]
  intro hlength
  have hwhole : line.takeWhile p = line := (List.takeWhile_prefix p).eq_of_length hlength
  have hpass : p stop = true := List.takeWhile_eq_self_iff.mp hwhole stop hmem
  rw [hstop] at hpass
  cases hpass

/-! ## One line -/

theorem lines_line (h : newline ∉ line) (rest : List α) :
    lines newline (line ++ newline :: rest) = line :: lines newline rest := by
  induction line with
  | nil => exact if_pos rfl
  | cons c line ih =>
    have hc : c ≠ newline := fun heq ↦ h (heq ▸ List.mem_cons_self)
    have hline : newline ∉ line := fun hmem ↦ h (List.mem_cons_of_mem _ hmem)
    rw [List.cons_append, lines, if_neg hc, ih hline]

theorem lines_last (h : newline ∉ line) (hne : line ≠ []) : lines newline line = [line] := by
  induction line with
  | nil => exact absurd rfl hne
  | cons c line ih =>
    have hc : c ≠ newline := fun heq ↦ h (heq ▸ List.mem_cons_self)
    have hline : newline ∉ line := fun hmem ↦ h (List.mem_cons_of_mem _ hmem)
    rw [lines, if_neg hc]
    by_cases hnil : line = []
    · rw [hnil]
      rfl
    · rw [ih hline hnil]

/-- What is in a line is in its text and is no newline. -/
theorem mem_of_mem_lines (h : line ∈ lines newline text) {c : α} (hc : c ∈ line) : c ∈ text ∧ c ≠ newline := by
  induction text generalizing line with
  | nil => cases h
  | cons first text ih =>
    rw [lines] at h
    split at h
    next =>
      rcases List.mem_cons.mp h with rfl | h
      · cases hc
      · exact (ih h hc).imp_left (List.mem_cons_of_mem _)
    next hfirst =>
      split at h
      next =>
        obtain rfl := List.mem_singleton.mp h
        obtain rfl := List.mem_singleton.mp hc
        exact ⟨List.mem_cons_self, hfirst⟩
      next line' others hlines =>
        rw [hlines] at ih
        rcases List.mem_cons.mp h with rfl | h
        · rcases List.mem_cons.mp hc with rfl | hc
          · exact ⟨List.mem_cons_self, hfirst⟩
          · exact (ih List.mem_cons_self hc).imp_left (List.mem_cons_of_mem _)
        · exact (ih (List.mem_cons_of_mem _ h) hc).imp_left (List.mem_cons_of_mem _)

/-- A text begins with a line that has its newline, or is a line without. -/
theorem exists_line (newline : α) (text : List α) :
    (∃ line rest, newline ∉ line ∧ text = line ++ newline :: rest) ∨ newline ∉ text := by
  by_cases h : newline ∈ text
  · obtain ⟨line, rest, htext, hline⟩ := List.eq_append_cons_of_mem h
    exact .inl ⟨line, rest, hline, htext⟩
  · exact .inr h

theorem readUpTo_line (h : newline ∉ line) (hlt : line.length < count) (rest : List α) :
    readUpTo newline count (line ++ newline :: rest) = (line ++ [newline], rest) := by
  induction line generalizing count with
  | nil =>
    obtain ⟨count, rfl⟩ := Nat.exists_eq_succ_of_ne_zero (Nat.ne_of_gt hlt)
    exact if_pos rfl
  | cons c line ih =>
    have hc : c ≠ newline := fun heq ↦ h (heq ▸ List.mem_cons_self)
    have hline : newline ∉ line := fun hmem ↦ h (List.mem_cons_of_mem _ hmem)
    cases count with
    | zero => exact absurd hlt (Nat.not_lt_zero _)
    | succ count =>
      have hrest := ih hline (Nat.lt_of_succ_lt_succ hlt)
      rw [List.cons_append, readUpTo, if_neg hc, hrest]
      rfl

theorem readUpTo_part (h : newline ∉ line) (hle : count ≤ line.length) (rest : List α) :
    readUpTo newline count (line ++ rest) = (line.take count, line.drop count ++ rest) := by
  induction line generalizing count with
  | nil =>
    obtain rfl := Nat.le_zero.mp hle
    rfl
  | cons c line ih =>
    cases count with
    | zero => rfl
    | succ count =>
      have hc : c ≠ newline := fun heq ↦ h (heq ▸ List.mem_cons_self)
      have hline : newline ∉ line := fun hmem ↦ h (List.mem_cons_of_mem _ hmem)
      have hrest := ih hline (Nat.le_of_succ_le_succ hle)
      rw [List.cons_append, readUpTo, if_neg hc, hrest]
      rfl

theorem readUpTo_last (h : newline ∉ line) (hle : line.length ≤ count) :
    readUpTo newline count line = (line, []) := by
  induction line generalizing count with
  | nil => cases count <;> rfl
  | cons c line ih =>
    cases count with
    | zero => exact absurd hle (Nat.not_succ_le_zero _)
    | succ count =>
      have hc : c ≠ newline := fun heq ↦ h (heq ▸ List.mem_cons_self)
      have hline : newline ∉ line := fun hmem ↦ h (List.mem_cons_of_mem _ hmem)
      have hrest := ih hline (Nat.le_of_succ_le_succ hle)
      rw [readUpTo, if_neg hc, hrest]

theorem lines_eq_nil_iff : lines newline text = [] ↔ text = [] := by
  constructor
  · intro h
    rcases exists_line newline text with ⟨line, rest, hline, rfl⟩ | hlast
    · rw [lines_line hline] at h
      cases h
    · by_contra hne
      rw [lines_last hlast hne] at h
      cases h
  · rintro rfl
    rfl

/-- A first line that fits in the buffer, with its newline if it has one, is read whole, and the other lines are
left. -/
theorem fgets_whole {size : ℕ} {others : List (List α)} (hlines : lines newline text = line :: others)
    (hfits : line.length + 1 < size ∨ newline ∉ text ∧ text.length < size) :
    ∃ chunk rest, fgets newline size text = some (chunk, rest) ∧ lines newline rest = others ∧
      newline ∉ line ∧ (chunk = line ++ [newline] ∨ chunk = line) := by
  rcases exists_line newline text with ⟨first, rest, hfirst, rfl⟩ | hlast
  · rw [lines_line hfirst] at hlines
    obtain ⟨rfl, rfl⟩ := List.cons.inj hlines
    have hshort : first.length + 1 < size := hfits.resolve_right fun h ↦ h.1 (by simp)
    refine ⟨first ++ [newline], rest, ?_, rfl, hfirst, .inl rfl⟩
    rw [fgets, if_neg (by simp), readUpTo_line hfirst (by omega)]
  · have hne : text ≠ [] := by
      rintro rfl
      cases hlines
    rw [lines_last hlast hne] at hlines
    obtain ⟨rfl, rfl⟩ := List.cons.inj hlines
    refine ⟨text, [], ?_, rfl, hlast, .inr rfl⟩
    rw [fgets, if_neg hne, readUpTo_last hlast (by omega)]

/-! ## A whole text -/

/-- A line in pieces of `count` symbols; only the last one may be shorter. -/
def pieces (count : ℕ) (line : List α) : List (List α) :=
  if 0 < count ∧ count < line.length then line.take count :: pieces count (line.drop count) else [line]
termination_by line.length
decreasing_by
  rw [List.length_drop]
  omega

omit [DecidableEq α] in
theorem pieces_of_le (h : line.length ≤ count) : pieces count line = [line] := by
  rw [pieces, if_neg (by omega)]

omit [DecidableEq α] in
theorem pieces_of_lt (hpos : 0 < count) (h : count < line.length) :
    pieces count line = line.take count :: pieces count (line.drop count) := by
  rw [pieces, if_pos ⟨hpos, h⟩]

omit [DecidableEq α] in
theorem flatten_pieces (count : ℕ) (line : List α) : (pieces count line).flatten = line := by
  induction line using pieces.induct count with
  | case1 line h ih => rw [pieces_of_lt h.1 h.2, List.flatten_cons, ih, List.take_append_drop]
  | case2 line h => rw [pieces, if_neg h, List.flatten_singleton]

omit [DecidableEq α] in
theorem ne_nil_of_mem_pieces (hne : line ≠ []) {piece : List α} (h : piece ∈ pieces count line) :
    piece ≠ [] := by
  induction line using pieces.induct count with
  | case1 line hlong ih =>
    rw [pieces_of_lt hlong.1 hlong.2, List.mem_cons] at h
    have hdrop : line.drop count ≠ [] := by
      rw [Ne, List.drop_eq_nil_iff]
      omega
    rcases h with rfl | h
    · intro htake
      rcases List.take_eq_nil_iff.mp htake with hzero | hnil
      · omega
      · exact hne hnil
    · exact ih hdrop h
  | case2 line hshort =>
    rw [pieces, if_neg hshort, List.mem_singleton] at h
    exact h ▸ hne

/-- What one call of `fgets` after the other reads, each with the number of its line. -/
def readAll (newline : α) (size : ℕ) : ℕ → ℕ → List α → List (ℕ × List α)
  | 0, _, _ => []
  | fuel + 1, number, text =>
    match fgets newline size text with
    | none => []
    | some (chunk, rest) =>
      (number, chunk) :: readAll newline size fuel (if newline ∈ chunk then number + 1 else number) rest

/-- What `f` makes of each line, each result with the number of its line. -/
def tagged {γ : Type*} (f : List α → List γ) : ℕ → List (List α) → List (ℕ × γ)
  | _, [] => []
  | number, line :: others => (f line).map (number, ·) ++ tagged f (number + 1) others

section Tagged

variable {γ : Type*} {f g : List α → List γ} {number : ℕ} {others : List (List α)}

omit [DecidableEq α]

theorem le_of_mem_tagged {entry : ℕ × γ} (h : entry ∈ tagged f number others) : number ≤ entry.1 := by
  induction others generalizing number with
  | nil => cases h
  | cons line others ih =>
    rw [tagged, List.mem_append, List.mem_map] at h
    rcases h with ⟨result, -, rfl⟩ | h
    · exact Nat.le_refl _
    · exact Nat.le_of_succ_le (ih h)

/-- The results of the first line can be told from those of the others. -/
theorem filter_tagged (f : List α → List γ) (number : ℕ) (line : List α) (others : List (List α)) :
    (tagged f number (line :: others)).filter (fun entry ↦ entry.1 = number) = (f line).map (number, ·) := by
  have hfirst : ((f line).map (number, ·)).filter (fun entry ↦ entry.1 = number) = (f line).map (number, ·) := by
    apply List.filter_eq_self.mpr
    simp
  have hothers : (tagged f (number + 1) others).filter (fun entry ↦ entry.1 = number) = [] := by
    apply List.filter_eq_nil_iff.mpr
    intro entry hentry
    have hle := le_of_mem_tagged hentry
    simp only [decide_eq_true_eq]
    omega
  rw [tagged, List.filter_append, hfirst, hothers, List.append_nil]

theorem tagged_eq_iff : tagged f number others = tagged g number others ↔ ∀ line ∈ others, f line = g line := by
  induction others generalizing number with
  | nil => simp [tagged]
  | cons line others ih =>
    rw [List.forall_mem_cons]
    constructor
    · intro h
      have hmap : (f line).map (number, ·) = (g line).map (number, ·) := by
        rw [← filter_tagged f number line others, h, filter_tagged]
      have hline : f line = g line := by
        apply List.map_injective_iff.mpr _ hmap
        exact fun _ _ heq ↦ (Prod.mk.inj heq).2
      rw [tagged, tagged, hline] at h
      exact ⟨hline, ih.mp (List.append_cancel_left h)⟩
    · rintro ⟨hline, hothers⟩
      rw [tagged, tagged, hline, ih.mpr hothers]

end Tagged

section ReadAll

variable {γ : Type*} {f : List α → List γ} {size : ℕ}
  (hnil : f [] = []) (hnewline : ∀ chunk, newline ∉ chunk → f (chunk ++ [newline]) = f chunk)
include hnil

omit [DecidableEq α] in
/-- The first piece is cut off also where nothing is left behind it. -/
theorem pieces_flatMap (hpos : 0 < count) (hle : count ≤ line.length) :
    (pieces count line).flatMap f = f (line.take count) ++ (pieces count (line.drop count)).flatMap f := by
  rcases Nat.lt_or_eq_of_le hle with hlt | rfl
  · rw [pieces_of_lt hpos hlt, List.flatMap_cons]
  · simp [pieces_of_le, hnil]

include hnewline

/-- Reading a text to its end finds the pieces of its lines. -/
theorem readAll_flatMap (hsize : 2 ≤ size) {fuel number : ℕ} (hfuel : text.length ≤ fuel) :
    (readAll newline size fuel number text).flatMap (fun entry ↦ (f entry.2).map (entry.1, ·)) =
      tagged (fun line ↦ (pieces (size - 1) line).flatMap f) number (lines newline text) := by
  induction fuel generalizing number text with
  | zero =>
    obtain rfl := List.eq_nil_of_length_eq_zero (Nat.le_zero.mp hfuel)
    rfl
  | succ fuel ih =>
    rcases exists_line newline text with ⟨line, rest, hline, rfl⟩ | hlast
    · have hne : line ++ newline :: rest ≠ [] := by simp
      rw [List.length_append, List.length_cons] at hfuel
      rw [lines_line hline, tagged, readAll, fgets, if_neg hne]
      by_cases hfits : line.length < size - 1
      · have hrest := @ih rest (number + 1) (by omega)
        simp [readUpTo_line hline hfits, hrest, pieces_of_le hfits.le, hnewline line hline]
      · have hchunk : newline ∉ line.take (size - 1) := fun h ↦ hline (List.mem_of_mem_take h)
        have hdrop : newline ∉ line.drop (size - 1) := fun h ↦ hline (List.mem_of_mem_drop h)
        have hrest := @ih (line.drop (size - 1) ++ newline :: rest) number
          (by rw [List.length_append, List.length_drop, List.length_cons]; omega)
        rw [lines_line hdrop, tagged] at hrest
        rw [pieces_flatMap hnil (by omega) (Nat.le_of_not_lt hfits), List.map_append, List.append_assoc, ← hrest]
        simp [readUpTo_part hline (Nat.le_of_not_lt hfits), hchunk]
    · by_cases hne : text = []
      · rw [hne]
        rfl
      · have hpos : 0 < text.length := List.length_pos_iff.mpr hne
        rw [lines_last hlast hne, tagged, tagged, List.append_nil, readAll, fgets, if_neg hne]
        by_cases hfits : text.length ≤ size - 1
        · have hrest : readAll newline size fuel number ([] : List α) = [] := by cases fuel <;> rfl
          simp [readUpTo_last hlast hfits, pieces_of_le hfits, hlast, hrest]
        · have hlong : size - 1 ≤ text.length := Nat.le_of_not_le hfits
          have hchunk : newline ∉ text.take (size - 1) := fun h ↦ hlast (List.mem_of_mem_take h)
          have hdrop : newline ∉ text.drop (size - 1) := fun h ↦ hlast (List.mem_of_mem_drop h)
          have hdropne : text.drop (size - 1) ≠ [] := by
            rw [Ne, List.drop_eq_nil_iff]
            omega
          have hrest := @ih (text.drop (size - 1)) number
            (by rw [List.length_drop]; omega)
          rw [lines_last hdrop hdropne, tagged, tagged, List.append_nil] at hrest
          have hpart := readUpTo_part hlast hlong []
          rw [List.append_nil, List.append_nil] at hpart
          rw [pieces_flatMap hnil (by omega) hlong, List.map_append, ← hrest]
          simp [hpart, hchunk]

end ReadAll

end PlugAndPlay.Library.LineReader
