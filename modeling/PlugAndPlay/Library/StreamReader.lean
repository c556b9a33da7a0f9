import Mathlib.Data.List.Basic
import Mathlib.Tactic.Linarith

/-!
# Readers of a stream

A reader takes what it needs from the front of a stream, or fails. `Reads r w a` says that it takes exactly
the word `w` and returns `a`, whatever follows; readers compose as the words they take are appended. The last
section has numbers of a fixed number of bytes, least significant byte first.
-/

namespace PlugAndPlay.Library

variable {σ ρ ε α β γ : Type}

/-- What a reader finds ahead of it is its state. -/
abbrev StreamReader (σ ε α : Type) := StateT (List σ) (Except ε) α

namespace StreamReader

/-- The next `count` symbols. -/
def next (fault : ε) (count : ℕ) : StreamReader σ ε (List σ) := fun ahead ↦
  if count ≤ ahead.length then .ok (ahead.take count, ahead.drop count) else .error fault

/-- The readers one after another. -/
def inOrder : List (StreamReader σ ε α) → StreamReader σ ε (List α)
  | [] => pure []
  | reader :: readers => do
    let first ← reader
    let others ← inOrder readers
    pure (first :: others)

/-- The reader takes the word and nothing else, and returns the value. -/
def Reads (reader : StreamReader σ ε α) (word : List σ) (value : α) : Prop :=
  ∀ rest, reader (word ++ rest) = .ok (value, rest)

theorem Reads.whole {reader : StreamReader σ ε α} {word : List σ} {value : α}
    (h : Reads reader word value) : reader word = .ok (value, []) := by
  have hrun := h []
  rwa [List.append_nil] at hrun

/-- One reader after another, by what the first one leaves. The state may hold more than a stream. -/
theorem bind_of_run {reader : StateT ρ (Except ε) α} {ahead rest : ρ} {value : α}
    (h : reader ahead = .ok (value, rest)) (next : α → StateT ρ (Except ε) β) :
    (reader >>= next) ahead = next value rest := by
  have hstep : (reader >>= next) ahead = (reader ahead).bind fun pair ↦ next pair.1 pair.2 := rfl
  rw [hstep, h]
  rfl

theorem reads_pure (value : α) : Reads (pure value : StreamReader σ ε α) [] value :=
  fun _ ↦ rfl

theorem Reads.bind {reader : StreamReader σ ε α} {word other : List σ} {value : α} {result : β}
    {next : α → StreamReader σ ε β} (h : Reads reader word value)
    (hnext : Reads (next value) other result) : Reads (reader >>= next) (word ++ other) result := by
  intro rest
  rw [List.append_assoc, bind_of_run (h (other ++ rest))]
  exact hnext rest

/-- The last step of a reader, that takes nothing more. -/
theorem Reads.finish {reader : StreamReader σ ε α} {word : List σ} {value : α} {result : β}
    {next : α → StreamReader σ ε β} (h : Reads reader word value) (hnext : next value = pure result) :
    Reads (reader >>= next) word result := by
  have hlast : Reads (next value) [] result := by
    rw [hnext]
    exact reads_pure result
  have hbind := h.bind hlast
  rwa [List.append_nil] at hbind

theorem Reads.last {reader : StreamReader σ ε α} {word : List σ} {value : α} {result : α → β}
    (h : Reads reader word value) :
    Reads (reader >>= fun found ↦ pure (result found)) word (result value) :=
  h.finish rfl

theorem reads_next (fault : ε) (word : List σ) : Reads (next fault word.length) word word := by
  intro rest
  simp [next]

/-- Readers in order take their words in order. -/
theorem reads_inOrder {reader : γ → StreamReader σ ε α} {word : γ → List σ} {value : γ → α}
    (items : List γ) (h : ∀ item ∈ items, Reads (reader item) (word item) (value item)) :
    Reads (inOrder (items.map reader)) (items.flatMap word) (items.map value) := by
  induction items with
  | nil => exact reads_pure []
  | cons item items ih =>
    have hitem := h item List.mem_cons_self
    have hitems := ih fun other hother ↦ h other (List.mem_cons_of_mem _ hother)
    rw [List.flatMap_cons]
    exact hitem.bind hitems.last

/-- As many readings of one kind as there are items. -/
theorem reads_replicate {reader : StreamReader σ ε α} {word : α → List σ} (items : List α)
    (h : ∀ item ∈ items, Reads reader (word item) item) :
    Reads (inOrder (List.replicate items.length reader)) (items.flatMap word) items := by
  have hreads := reads_inOrder items h
  rwa [List.map_const', List.map_id'] at hreads

/-! ## What is taken of any stream -/

/-- Wherever the reader succeeds it has taken at least `count` symbols. -/
def Takes (reader : StreamReader σ ε α) (count : ℕ) : Prop :=
  ∀ ahead value rest, reader ahead = .ok (value, rest) → rest.length + count ≤ ahead.length

theorem takes_pure (value : α) : Takes (pure value : StreamReader σ ε α) 0 := by
  intro ahead found rest h
  cases h
  exact Nat.le_refl _

theorem takes_throw (fault : ε) (count : ℕ) : Takes (throw fault : StreamReader σ ε α) count := by
  intro ahead value rest h
  cases h

theorem takes_get : Takes (get : StreamReader σ ε (List σ)) 0 := by
  intro ahead value rest h
  cases h
  exact Nat.le_refl _

theorem bind_of_fault {reader : StateT ρ (Except ε) α} {ahead : ρ} {fault : ε} (h : reader ahead = .error fault)
    (next : α → StateT ρ (Except ε) β) : (reader >>= next) ahead = .error fault := by
  have hstep : (reader >>= next) ahead = (reader ahead).bind fun pair ↦ next pair.1 pair.2 := rfl
  rw [hstep, h]
  rfl

theorem bind_eq_ok {reader : StateT ρ (Except ε) α} {next : α → StateT ρ (Except ε) β} {ahead rest : ρ}
    {result : β} (h : (reader >>= next) ahead = .ok (result, rest)) :
    ∃ value middle, reader ahead = .ok (value, middle) ∧ next value middle = .ok (result, rest) := by
  cases hfirst : reader ahead with
  | error fault =>
    rw [bind_of_fault hfirst] at h
    cases h
  | ok pair =>
    rw [bind_of_run hfirst] at h
    exact ⟨pair.1, pair.2, rfl, h⟩

theorem Takes.bind {reader : StreamReader σ ε α} {count more : ℕ} {next : α → StreamReader σ ε β}
    (h : Takes reader count) (hnext : ∀ value, Takes (next value) more) :
    Takes (reader >>= next) (count + more) := by
  intro ahead result rest hrun
  obtain ⟨value, middle, hfirst, hrest⟩ := bind_eq_ok hrun
  have hcount := h ahead value middle hfirst
  have hmore := hnext value middle result rest hrest
  omega

/-- A reader that takes something and then goes on. -/
theorem Takes.andThen {reader : StreamReader σ ε α} {count : ℕ} {next : α → StreamReader σ ε β}
    (h : Takes reader count) (hnext : ∀ value, Takes (next value) 0) : Takes (reader >>= next) count :=
  h.bind hnext

theorem Takes.weaken {reader : StreamReader σ ε α} {count : ℕ} (h : Takes reader count) : Takes reader 0 := by
  intro ahead value rest hrun
  have hcount := h ahead value rest hrun
  omega

theorem takes_next (fault : ε) (count : ℕ) : Takes (next fault count : StreamReader σ ε (List σ)) count := by
  intro ahead value rest h
  unfold next at h
  split at h
  · cases h
    rw [List.length_drop]
    omega
  · cases h

/-! ## Numbers -/

/-- The number in `width` bytes, least significant byte first. -/
def littleEndian : ℕ → ℕ → List UInt8
  | 0, _ => []
  | width + 1, number => UInt8.ofNat number :: littleEndian width (number / 256)

def ofLittleEndian : List UInt8 → ℕ
  | [] => 0
  | byte :: bytes => byte.toNat + 256 * ofLittleEndian bytes

@[simp] theorem length_littleEndian (width number : ℕ) :
    (littleEndian width number).length = width := by
  induction width generalizing number with
  | zero => rfl
  | succ width ih => simp [littleEndian, ih]

theorem ofLittleEndian_lt (bytes : List UInt8) : ofLittleEndian bytes < 256 ^ bytes.length := by
  induction bytes with
  | nil => exact Nat.one_pos
  | cons byte bytes ih =>
    have hbyte := byte.toNat_lt
    calc ofLittleEndian (byte :: bytes) = byte.toNat + 256 * ofLittleEndian bytes := rfl
      _ < 256 * (ofLittleEndian bytes + 1) := by omega
      _ ≤ 256 * 256 ^ bytes.length := Nat.mul_le_mul_left 256 ih
      _ = 256 ^ (byte :: bytes).length := Nat.pow_succ'.symm

theorem ofLittleEndian_littleEndian {width number : ℕ} (h : number < 256 ^ width) :
    ofLittleEndian (littleEndian width number) = number := by
  induction width generalizing number with
  | zero =>
    rw [Nat.pow_zero] at h
    exact (Nat.lt_one_iff.mp h).symm
  | succ width ih =>
    have hquotient : number / 256 < 256 ^ width := by
      apply Nat.div_lt_of_lt_mul
      rwa [Nat.pow_succ, Nat.mul_comm] at h
    calc ofLittleEndian (littleEndian (width + 1) number)
        = (UInt8.ofNat number).toNat + 256 * ofLittleEndian (littleEndian width (number / 256)) := rfl
      _ = number % 256 + 256 * (number / 256) := by rw [ih hquotient, UInt8.toNat_ofNat']
      _ = number := Nat.mod_add_div number 256

/-- A number of `width` bytes. -/
def number (fault : ε) (width : ℕ) : StreamReader UInt8 ε ℕ := do
  let bytes ← next fault width
  pure (ofLittleEndian bytes)

theorem takes_number (fault : ε) (width : ℕ) : Takes (number fault width) width :=
  (takes_next fault width).andThen fun bytes ↦ takes_pure (ofLittleEndian bytes)

theorem reads_number (fault : ε) {width value : ℕ} (h : value < 256 ^ width) :
    Reads (number fault width) (littleEndian width value) value := by
  have hbytes := reads_next fault (littleEndian width value)
  rw [length_littleEndian] at hbytes
  have hvalue : Reads (number fault width) (littleEndian width value)
      (ofLittleEndian (littleEndian width value)) := hbytes.last
  rwa [ofLittleEndian_littleEndian h] at hvalue

end StreamReader

end PlugAndPlay.Library
