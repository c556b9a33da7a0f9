import PlugAndPlay.Library.ByteRange
import PlugAndPlay.Memoria.Tipos
import Mathlib.Data.List.Perm.Subperm

/-!
# The free list

`memory_bloques.c`: the list of free blocks, from which segments are cut and to which they are
returned. The first half of the module is the code, the second what it does to the ranges of
addresses: `bloquesAsignar` moves a range out of the list, `bloquesLiberar` moves one in, and
merging contiguous blocks moves nothing.
-/

open PlugAndPlay.Library

namespace PlugAndPlay.Memoria

/-! ## The code -/

/-- The scan of `bloques_asignar`: index and size of the best block so far. -/
def mejorBloque (worstFit : Bool) (tamanio : UInt32) :
    List BloqueLibre → ℕ → Option (ℕ × UInt32) → Option (ℕ × UInt32)
  | [], _, mejor => mejor
  | b :: bloques, i, mejor =>
    mejorBloque worstFit tamanio bloques (i + 1) <|
      if b.tamanio < tamanio then mejor
      else match mejor with
        | none => some (i, b.tamanio)
        | some (_, mejorTam) =>
          if !worstFit && b.tamanio < mejorTam then some (i, b.tamanio)
          else if worstFit && b.tamanio > mejorTam then some (i, b.tamanio)
          else mejor

/-- `bloques_asignar`: the base handed out (`sinBase` when no block is large enough) and the
remaining list. -/
def bloquesAsignar (worstFit : Bool) (bloques : List BloqueLibre) (tamanio : UInt32) :
    UInt32 × List BloqueLibre :=
  match mejorBloque worstFit tamanio bloques 0 none with
  | none => (sinBase, bloques)
  | some (i, _) =>
    match bloques[i]? with
    | none => (sinBase, bloques)
    | some elegido =>
      if elegido.tamanio = tamanio then (elegido.base, bloques.eraseIdx i)
      else (elegido.base,
        bloques.set i ⟨elegido.base + tamanio, elegido.tamanio - tamanio⟩)

/-- `a` ends where `b` begins, in the 32-bit arithmetic of the source. -/
def BloqueLibre.Contiguo (a b : BloqueLibre) : Prop := a.base + a.tamanio = b.base

instance (a b : BloqueLibre) : Decidable (a.Contiguo b) := inferInstanceAs (Decidable (_ = _))

/-- The two nested loops of `bloques_liberar`: the first pair of different positions that hold
contiguous blocks. -/
def primerContiguo (bloques : List BloqueLibre) : Option (ℕ × ℕ) :=
  (List.range bloques.length).findSome? fun i ↦
    (List.range bloques.length).findSome? fun j ↦
      match bloques[i]?, bloques[j]? with
      | some a, some b => if i ≠ j ∧ a.Contiguo b then some (i, j) else none
      | _, _ => none

/-- One merge: block `i` absorbs block `j`, which leaves the list. -/
def fusionarEn (bloques : List BloqueLibre) (i j : ℕ) : List BloqueLibre :=
  match bloques[i]?, bloques[j]? with
  | some a, some b => (bloques.set i ⟨a.base, a.tamanio + b.tamanio⟩).eraseIdx j
  | _, _ => bloques

/-- The `while (mergeado)` loop; `pasadas` bounds the number of passes. -/
def fusionarPasadas : ℕ → List BloqueLibre → List BloqueLibre
  | 0, bloques => bloques
  | pasadas + 1, bloques =>
    match primerContiguo bloques with
    | none => bloques
    | some (i, j) => fusionarPasadas pasadas (fusionarEn bloques i j)

/-- The loop as it runs: every merge shortens the list, so its length bounds the passes
(`primerContiguo_fusionar`). -/
def fusionar (bloques : List BloqueLibre) : List BloqueLibre :=
  fusionarPasadas bloques.length bloques

/-- `bloques_liberar`. -/
def bloquesLiberar (bloques : List BloqueLibre) (base tamanio : UInt32) : List BloqueLibre :=
  fusionar (bloques ++ [⟨base, tamanio⟩])

/-- `bloques_agregar`: the same path as `bloques_liberar`. -/
def bloquesAgregar (bloques : List BloqueLibre) (base tamanio : UInt32) : List BloqueLibre :=
  bloquesLiberar bloques base tamanio

/-- `bloques_calcular_espacio_libre`, a 32-bit sum. -/
def bloquesCalcularEspacioLibre (bloques : List BloqueLibre) : UInt32 :=
  bloques.foldl (fun total b ↦ total + b.tamanio) 0

/-- `bloques_reset_a_unico`. -/
def bloquesResetAUnico (base tamanio : UInt32) : List BloqueLibre :=
  if tamanio > 0 then [⟨base, tamanio⟩] else []

/-! ## The passes of the merge loop -/

theorem primerContiguo_eq_some {bloques : List BloqueLibre} {i j : ℕ}
    (h : primerContiguo bloques = some (i, j)) :
    ∃ a b, i ≠ j ∧ bloques[i]? = some a ∧ bloques[j]? = some b ∧ a.Contiguo b := by
  unfold primerContiguo at h
  obtain ⟨i', _, hi⟩ := List.exists_of_findSome?_eq_some h
  obtain ⟨j', _, hj⟩ := List.exists_of_findSome?_eq_some hi
  split at hj
  · rename_i a b ha hb
    split at hj
    · rename_i hc
      obtain ⟨rfl, rfl⟩ := Prod.mk.inj (Option.some.inj hj)
      exact ⟨a, b, hc.1, ha, hb, hc.2⟩
    · cases hj
  · cases hj

/-- What one merge does, up to the order of the list: two contiguous blocks become one. -/
theorem fusionarEn_perm {bloques : List BloqueLibre} {i j : ℕ} {a b : BloqueLibre} (hij : i ≠ j)
    (hi : bloques[i]? = some a) (hj : bloques[j]? = some b) :
    ∃ resto, bloques.Perm (a :: b :: resto) ∧
      (fusionarEn bloques i j).Perm (⟨a.base, a.tamanio + b.tamanio⟩ :: resto) := by
  obtain ⟨hilt, ha⟩ := List.getElem?_eq_some_iff.mp hi
  obtain ⟨hjlt, hb⟩ := List.getElem?_eq_some_iff.mp hj
  set fusion : BloqueLibre := ⟨a.base, a.tamanio + b.tamanio⟩
  have hresto : bloques.Perm (a :: bloques.eraseIdx i) := by
    rw [← ha]
    exact (List.getElem_cons_eraseIdx_perm hilt).symm
  have hmem : b ∈ bloques.eraseIdx i :=
    List.mem_eraseIdx_iff_getElem?.mpr ⟨j, hij.symm, hj⟩
  have hotro : (bloques.eraseIdx i).Perm (b :: (bloques.eraseIdx i).erase b) :=
    List.perm_cons_erase hmem
  have hset : (bloques.set i fusion).Perm (fusion :: bloques.eraseIdx i) :=
    List.set_perm_cons_eraseIdx hilt _
  have hquita : (bloques.set i fusion).Perm (b :: (bloques.set i fusion).eraseIdx j) := by
    have hlen : j < (bloques.set i fusion).length := by simpa using hjlt
    have hget : (bloques.set i fusion)[j] = b := by
      rw [List.getElem_set_ne hij]
      exact hb
    have := (List.getElem_cons_eraseIdx_perm hlen).symm
    rwa [hget] at this
  refine ⟨(bloques.eraseIdx i).erase b, hresto.trans (hotro.cons a), ?_⟩
  have hfus : fusionarEn bloques i j = (bloques.set i fusion).eraseIdx j := by
    simp only [fusionarEn, hi, hj, fusion]
  rw [hfus]
  have hcorrido : (b :: (bloques.set i fusion).eraseIdx j).Perm
      (b :: fusion :: (bloques.eraseIdx i).erase b) :=
    hquita.symm.trans ((hset.trans (hotro.cons fusion)).trans (List.Perm.swap _ _ _))
  exact hcorrido.cons_inv

theorem length_fusionarEn {bloques : List BloqueLibre} {i j : ℕ}
    (h : primerContiguo bloques = some (i, j)) :
    (fusionarEn bloques i j).length + 1 = bloques.length := by
  obtain ⟨a, b, hij, ha, hb, _⟩ := primerContiguo_eq_some h
  obtain ⟨resto, hantes, hdespues⟩ := fusionarEn_perm hij ha hb
  rw [hantes.length_eq, hdespues.length_eq]
  simp

/-- What every merge preserves, the whole loop preserves. -/
theorem fusionarPasadas_induction {P : List BloqueLibre → Prop}
    (hpaso : ∀ bloques i j, primerContiguo bloques = some (i, j) → P bloques →
      P (fusionarEn bloques i j)) (pasadas : ℕ) {bloques : List BloqueLibre} (h : P bloques) :
    P (fusionarPasadas pasadas bloques) := by
  induction pasadas generalizing bloques with
  | zero => exact h
  | succ pasadas ih =>
    unfold fusionarPasadas
    split
    · exact h
    · rename_i i j hij
      exact ih (hpaso bloques i j hij h)

theorem fusionar_induction {P : List BloqueLibre → Prop}
    (hpaso : ∀ bloques i j, primerContiguo bloques = some (i, j) → P bloques →
      P (fusionarEn bloques i j)) {bloques : List BloqueLibre} (h : P bloques) :
    P (fusionar bloques) :=
  fusionarPasadas_induction hpaso bloques.length h

theorem primerContiguo_fusionarPasadas (pasadas : ℕ) {bloques : List BloqueLibre}
    (h : bloques.length ≤ pasadas) : primerContiguo (fusionarPasadas pasadas bloques) = none := by
  induction pasadas generalizing bloques with
  | zero =>
    have hnil : bloques = [] := List.eq_nil_of_length_eq_zero (by omega)
    subst hnil
    rfl
  | succ pasadas ih =>
    unfold fusionarPasadas
    split
    · assumption
    · rename_i i j hij
      have := length_fusionarEn hij
      exact ih (by omega)

/-- The bound on the passes is never what ends the loop: no contiguous pair is left. -/
theorem primerContiguo_fusionar (bloques : List BloqueLibre) :
    primerContiguo (fusionar bloques) = none :=
  primerContiguo_fusionarPasadas _ le_rfl

/-! ## The ranges of the free list -/

def BloqueLibre.rango (b : BloqueLibre) : ByteRange := ⟨b.base.toNat, b.tamanio.toNat⟩

/-- The ranges of addresses the free list holds. -/
def rangosLibres (bloques : List BloqueLibre) : List ByteRange := bloques.map BloqueLibre.rango

@[simp] theorem rangosLibres_nil : rangosLibres [] = [] := rfl

@[simp] theorem rangosLibres_cons (b : BloqueLibre) (bloques : List BloqueLibre) :
    rangosLibres (b :: bloques) = b.rango :: rangosLibres bloques := rfl

@[simp] theorem rangosLibres_append (bloques otros : List BloqueLibre) :
    rangosLibres (bloques ++ otros) = rangosLibres bloques ++ rangosLibres otros := by
  simp [rangosLibres]

section Rangos

open ByteRange

variable {bloques : List BloqueLibre} {top : ℕ}

/-- Within 32 bits a contiguous pair is one range cut in two. -/
theorem BloqueLibre.Contiguo.hits {a b : BloqueLibre} (h : a.Contiguo b) (htop : top < 2 ^ 32)
    (ha : a.base.toNat + a.tamanio.toNat ≤ top) (hb : b.base.toNat + b.tamanio.toNat ≤ top) :
    a.base.toNat + (a.tamanio + b.tamanio).toNat = b.base.toNat + b.tamanio.toNat ∧
      ∀ address, ByteRange.hits [⟨a.base.toNat, (a.tamanio + b.tamanio).toNat⟩] address =
        ByteRange.hits [a.rango] address + ByteRange.hits [b.rango] address := by
  have hbase : b.base.toNat = a.base.toNat + a.tamanio.toNat := by
    rw [← h, toNat_add_of_lt (by omega)]
  have htam : (a.tamanio + b.tamanio).toNat = a.tamanio.toNat + b.tamanio.toNat :=
    toNat_add_of_lt (by omega)
  refine ⟨by omega, fun address ↦ ?_⟩
  rw [htam, hits_split (Nat.le_add_right a.tamanio.toNat b.tamanio.toNat)]
  simp only [BloqueLibre.rango, hbase, Nat.add_sub_cancel_left]

theorem fusionarEn_rangos {i j : ℕ} (htop : top < 2 ^ 32)
    (h : primerContiguo bloques = some (i, j)) (hw : Within (rangosLibres bloques) top) :
    Within (rangosLibres (fusionarEn bloques i j)) top ∧
      ∀ address, hits (rangosLibres (fusionarEn bloques i j)) address =
        hits (rangosLibres bloques) address := by
  obtain ⟨a, b, hij, ha, hb, hc⟩ := primerContiguo_eq_some h
  obtain ⟨resto, hantes, hdespues⟩ := fusionarEn_perm hij ha hb
  have hpantes : (rangosLibres bloques).Perm (a.rango :: b.rango :: rangosLibres resto) :=
    hantes.map _
  have hpdespues := hdespues.map BloqueLibre.rango
  have hwantes := hw.perm hpantes
  simp only [within_cons] at hwantes
  obtain ⟨hwa, hwb, hwresto⟩ := hwantes
  obtain ⟨hfin, hhits⟩ := hc.hits htop hwa hwb
  constructor
  · refine Within.perm hpdespues.symm ?_
    simp only [List.map_cons, within_cons]
    exact ⟨hfin.le.trans hwb, hwresto⟩
  · intro address
    rw [hits_perm hpantes, rangosLibres, hits_perm hpdespues]
    have := hhits address
    simp only [hits_cons, hits_nil, List.map_cons, BloqueLibre.rango, rangosLibres] at this ⊢
    omega

theorem fusionar_rangos (htop : top < 2 ^ 32) (hw : Within (rangosLibres bloques) top) :
    Within (rangosLibres (fusionar bloques)) top ∧
      ∀ address, hits (rangosLibres (fusionar bloques)) address =
        hits (rangosLibres bloques) address := by
  refine fusionar_induction (P := fun l ↦ Within (rangosLibres l) top ∧
    ∀ address, hits (rangosLibres l) address = hits (rangosLibres bloques) address)
    (fun l i j hij hl ↦ ?_) ⟨hw, fun _ ↦ rfl⟩
  obtain ⟨hwl, hhits⟩ := fusionarEn_rangos htop hij hl.1
  exact ⟨hwl, fun address ↦ (hhits address).trans (hl.2 address)⟩

/-- `bloques_liberar` adds exactly the range it is given. -/
theorem bloquesLiberar_rangos (base tamanio : UInt32) (htop : top < 2 ^ 32)
    (hw : Within (rangosLibres bloques) top) (hr : base.toNat + tamanio.toNat ≤ top) :
    Within (rangosLibres (bloquesLiberar bloques base tamanio)) top ∧
      ∀ address, hits (rangosLibres (bloquesLiberar bloques base tamanio)) address =
        hits (rangosLibres bloques) address + hits [⟨base.toNat, tamanio.toNat⟩] address := by
  have hnuevo : Within (rangosLibres (bloques ++ [⟨base, tamanio⟩])) top := by
    simp only [rangosLibres_append, rangosLibres_cons, rangosLibres_nil, within_append,
      within_cons, within_nil, and_true]
    exact ⟨hw, hr⟩
  obtain ⟨hwf, hhits⟩ := fusionar_rangos htop hnuevo
  refine ⟨hwf, fun address ↦ ?_⟩
  rw [bloquesLiberar, hhits address]
  simp only [rangosLibres_append, rangosLibres_cons, rangosLibres_nil, hits_append,
    BloqueLibre.rango]

theorem mejorBloque_eq_some {worstFit : Bool} {tamanio mejorTam : UInt32} {k i : ℕ}
    {mejor : Option (ℕ × UInt32)} (h : mejorBloque worstFit tamanio bloques k mejor = some (i, mejorTam)) :
    mejor = some (i, mejorTam) ∨
      ∃ d b, i = k + d ∧ bloques[d]? = some b ∧ tamanio ≤ b.tamanio := by
  induction bloques generalizing k mejor with
  | nil => exact Or.inl h
  | cons b bloques ih =>
    unfold mejorBloque at h
    rcases ih h with hmejor | ⟨d, b', hi, hd, hle⟩
    · by_cases hlt : b.tamanio < tamanio
      · rw [if_pos hlt] at hmejor
        exact Or.inl hmejor
      · rw [if_neg hlt] at hmejor
        have hle : tamanio ≤ b.tamanio := UInt32.not_lt.mp hlt
        have hnuevo : some (k, b.tamanio) = some (i, mejorTam) → ∃ d b', i = k + d ∧
            (b :: bloques)[d]? = some b' ∧ tamanio ≤ b'.tamanio := by
          intro heq
          exact ⟨0, b, ((Prod.mk.inj (Option.some.inj heq)).1).symm, rfl, hle⟩
        split at hmejor
        · exact Or.inr (hnuevo hmejor)
        · split at hmejor
          · exact Or.inr (hnuevo hmejor)
          · split at hmejor
            · exact Or.inr (hnuevo hmejor)
            · exact Or.inl hmejor
    · exact Or.inr ⟨d + 1, b', by omega, by simpa using hd, hle⟩

theorem mejorBloque_eq_none {worstFit : Bool} {tamanio : UInt32} {k : ℕ}
    {mejor : Option (ℕ × UInt32)} (h : mejorBloque worstFit tamanio bloques k mejor = none) :
    mejor = none ∧ ∀ b ∈ bloques, b.tamanio < tamanio := by
  induction bloques generalizing k mejor with
  | nil => exact ⟨h, by simp⟩
  | cons b bloques ih =>
    unfold mejorBloque at h
    obtain ⟨hmejor, hresto⟩ := ih h
    by_cases hlt : b.tamanio < tamanio
    · rw [if_pos hlt] at hmejor
      exact ⟨hmejor, List.forall_mem_cons.mpr ⟨hlt, hresto⟩⟩
    · rw [if_neg hlt] at hmejor
      split at hmejor
      · cases hmejor
      · split at hmejor
        · cases hmejor
        · split at hmejor <;> cases hmejor

/-- What `bloques_asignar` can do: refuse when every block is too small, or cut the request from
the front of one block. -/
theorem bloquesAsignar_cases (worstFit : Bool) (bloques : List BloqueLibre) (tamanio : UInt32) :
    (bloquesAsignar worstFit bloques tamanio = (sinBase, bloques) ∧
        ∀ b ∈ bloques, b.tamanio < tamanio) ∨
      ∃ antes b despues, bloques = antes ++ b :: despues ∧ tamanio ≤ b.tamanio ∧
        bloquesAsignar worstFit bloques tamanio = (b.base,
          if b.tamanio = tamanio then antes ++ despues
          else antes ++ ⟨b.base + tamanio, b.tamanio - tamanio⟩ :: despues) := by
  unfold bloquesAsignar
  split
  · rename_i hnone
    exact Or.inl ⟨rfl, (mejorBloque_eq_none hnone).2⟩
  · rename_i i mejorTam hsome
    right
    rcases mejorBloque_eq_some hsome with hcero | ⟨d, b, hi, hd, hle⟩
    · cases hcero
    · obtain rfl : i = d := by omega
      obtain ⟨hlt, hb⟩ := List.getElem?_eq_some_iff.mp hd
      refine ⟨bloques.take i, b, bloques.drop (i + 1), ?_, hle, ?_⟩
      · rw [← hb, ← List.drop_eq_getElem_cons hlt, List.take_append_drop]
      · simp only [hd]
        split
        · rw [List.eraseIdx_eq_take_drop_succ]
        · rw [List.set_eq_take_append_cons_drop, if_pos hlt]

/-- `bloques_asignar` takes exactly the range it hands out from the list. -/
theorem bloquesAsignar_rangos (worstFit : Bool) (tamanio : UInt32)
    (htop : top < 2 ^ 32) (hw : Within (rangosLibres bloques) top) :
    (bloquesAsignar worstFit bloques tamanio = (sinBase, bloques) ∧
        ∀ b ∈ bloques, b.tamanio < tamanio) ∨
      ∃ base resto, bloquesAsignar worstFit bloques tamanio = (base, resto) ∧
        base.toNat + tamanio.toNat ≤ top ∧ Within (rangosLibres resto) top ∧
        ∀ address, hits (rangosLibres bloques) address =
          hits [⟨base.toNat, tamanio.toNat⟩] address + hits (rangosLibres resto) address := by
  rcases bloquesAsignar_cases worstFit bloques tamanio with hno | ⟨antes, b, despues, rfl, hle, heq⟩
  · exact Or.inl hno
  · right
    refine ⟨b.base, _, heq, ?_⟩
    rw [UInt32.le_iff_toNat_le] at hle
    simp only [rangosLibres_append, rangosLibres_cons, within_append, within_cons] at hw
    obtain ⟨hwa, hwb, hwd⟩ := hw
    simp only [BloqueLibre.rango] at hwb
    split
    · rename_i htam
      subst htam
      refine ⟨hwb, ?_, fun address ↦ ?_⟩
      · simpa only [rangosLibres_append, within_append] using ⟨hwa, hwd⟩
      · simp only [rangosLibres_append, rangosLibres_cons, hits_append, hits_cons, hits_nil,
          BloqueLibre.rango]
        omega
    · have hbase : (b.base + tamanio).toNat = b.base.toNat + tamanio.toNat :=
        toNat_add_of_lt (by omega)
      have htam : (b.tamanio - tamanio).toNat = b.tamanio.toNat - tamanio.toNat :=
        toNat_sub_of_le hle
      refine ⟨by omega, ?_, fun address ↦ ?_⟩
      · simp only [rangosLibres_append, rangosLibres_cons, within_append, within_cons,
          BloqueLibre.rango, hbase, htam]
        exact ⟨hwa, by omega, hwd⟩
      · have hcorte : hits [⟨b.base.toNat, b.tamanio.toNat⟩] address =
            hits [⟨b.base.toNat, tamanio.toNat⟩] address +
              hits [⟨b.base.toNat + tamanio.toNat, b.tamanio.toNat - tamanio.toNat⟩] address :=
          hits_split hle
        simp only [rangosLibres_append, rangosLibres_cons, hits_append, hits_cons, hits_nil,
          BloqueLibre.rango, hbase, htam] at hcorte ⊢
        omega

@[simp] theorem rangosLibres_bloquesResetAUnico (base tamanio : UInt32) (address : ℕ) :
    hits (rangosLibres (bloquesResetAUnico base tamanio)) address =
      hits [⟨base.toNat, tamanio.toNat⟩] address := by
  unfold bloquesResetAUnico
  split
  · rfl
  · rename_i h
    have hcero : tamanio.toNat = 0 := by
      simpa [UInt32.lt_iff_toNat_lt] using h
    rw [hcero, hits_empty_range]
    rfl

theorem within_bloquesResetAUnico {base tamanio : UInt32} (h : base.toNat + tamanio.toNat ≤ top) :
    Within (rangosLibres (bloquesResetAUnico base tamanio)) top := by
  unfold bloquesResetAUnico
  split
  · simpa [BloqueLibre.rango] using h
  · simp

end Rangos

end PlugAndPlay.Memoria
