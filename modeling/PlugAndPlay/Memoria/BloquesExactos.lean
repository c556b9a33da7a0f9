import PlugAndPlay.Library.FreeRuns
import PlugAndPlay.Library.Transitions
import PlugAndPlay.Memoria.BloquesLibres

/-!
# The free list over whole histories

Sticks add bytes, requests take ranges and give them back. No contiguous free bytes are ever left in two
blocks, so a request fails only where no run is long enough, and BEST and WORST choose among whole runs.
Ranges of no bytes may leave empty blocks anywhere, which cover nothing.
-/

open PlugAndPlay.Library ByteRange

namespace PlugAndPlay.Memoria

/-! ## The block that is chosen -/

/-- The block of the scan: it is large enough, and none that is large enough is better. -/
structure Elegido (worstFit : Bool) (tamanio : UInt32) (bloques : List BloqueLibre) (mejorTam : UInt32) :
    Prop where
  cabe : tamanio ≤ mejorTam
  mejor : ∀ b ∈ bloques, tamanio ≤ b.tamanio →
    if worstFit then b.tamanio ≤ mejorTam else mejorTam ≤ b.tamanio

theorem Elegido.cons {worstFit : Bool} {tamanio mejorTam nuevoTam : UInt32} {bloques : List BloqueLibre}
    (h : Elegido worstFit tamanio bloques mejorTam) (hcabe : tamanio ≤ nuevoTam)
    (hmejora : if worstFit then mejorTam ≤ nuevoTam else nuevoTam ≤ mejorTam) {b : BloqueLibre}
    (hb : tamanio ≤ b.tamanio → if worstFit then b.tamanio ≤ nuevoTam else nuevoTam ≤ b.tamanio) :
    Elegido worstFit tamanio (bloques ++ [b]) nuevoTam := by
  refine ⟨hcabe, fun c hc hle ↦ ?_⟩
  rcases List.mem_append.mp hc with hc | hc
  · have hmejor := h.mejor c hc hle
    cases worstFit with
    | true => exact UInt32.le_trans hmejor hmejora
    | false => exact UInt32.le_trans hmejora hmejor
  · rw [List.mem_singleton.mp hc] at hle ⊢
    exact hb hle

/-- The scan over the rest of the list, after `vistos`. -/
theorem mejorBloque_elegido {worstFit : Bool} {tamanio : UInt32} {vistos bloques : List BloqueLibre}
    {mejor : Option (ℕ × UInt32)} {i : ℕ} {mejorTam : UInt32}
    (hantes : match mejor with
      | none => ∀ b ∈ vistos, b.tamanio < tamanio
      | some (k, tam) => (∃ b, (vistos ++ bloques)[k]? = some b ∧ b.tamanio = tam) ∧
          Elegido worstFit tamanio vistos tam)
    (h : mejorBloque worstFit tamanio bloques vistos.length mejor = some (i, mejorTam)) :
    (∃ b, (vistos ++ bloques)[i]? = some b ∧ b.tamanio = mejorTam) ∧
      Elegido worstFit tamanio (vistos ++ bloques) mejorTam := by
  induction bloques generalizing vistos mejor with
  | nil =>
    rw [mejorBloque] at h
    subst h
    rw [List.append_nil] at hantes ⊢
    exact hantes
  | cons b bloques ih =>
    unfold mejorBloque at h
    have hlista : vistos ++ b :: bloques = (vistos ++ [b]) ++ bloques := by simp
    have hlargo : vistos.length + 1 = (vistos ++ [b]).length := by simp
    have haqui : (vistos ++ b :: bloques)[vistos.length]? = some b := by simp
    rw [hlargo] at h
    rw [hlista]
    apply ih ?_ h
    rw [← hlista]
    by_cases hlt : b.tamanio < tamanio
    · rw [if_pos hlt]
      have hno : ¬ tamanio ≤ b.tamanio := UInt32.not_le.mpr hlt
      cases mejor with
      | none =>
        intro c hc
        rcases List.mem_append.mp hc with hc | hc
        · exact hantes c hc
        · rw [List.mem_singleton.mp hc]
          exact hlt
      | some par =>
        obtain ⟨hesta, helegido⟩ := hantes
        refine ⟨hesta, helegido.cons helegido.cabe ?_ fun hle ↦ absurd hle hno⟩
        cases worstFit <;> exact UInt32.le_refl _
    · rw [if_neg hlt]
      have hle : tamanio ≤ b.tamanio := UInt32.not_lt.mp hlt
      have hpropio : if worstFit = true then b.tamanio ≤ b.tamanio else b.tamanio ≤ b.tamanio := by
        cases worstFit <;> exact UInt32.le_refl _
      cases mejor with
      | none =>
        refine ⟨⟨b, haqui, rfl⟩, hle, fun c hc hcle ↦ ?_⟩
        rcases List.mem_append.mp hc with hc | hc
        · exact absurd hcle (UInt32.not_le.mpr (hantes c hc))
        · rw [List.mem_singleton.mp hc]
          exact hpropio
      | some par =>
        obtain ⟨k, tam⟩ := par
        obtain ⟨hesta, helegido⟩ := hantes
        cases worstFit with
        | false =>
          by_cases hmenor : b.tamanio < tam
          · simp only [Bool.not_false, Bool.true_and, decide_eq_true_eq, if_pos hmenor]
            exact ⟨⟨b, haqui, rfl⟩, helegido.cons hle (UInt32.le_of_lt hmenor) fun _ ↦ hpropio⟩
          · simp only [Bool.not_false, Bool.true_and, decide_eq_true_eq, if_neg hmenor,
              Bool.false_and, Bool.false_eq_true, if_false]
            exact ⟨hesta, helegido.cons helegido.cabe (UInt32.le_refl _) fun _ ↦
              UInt32.not_lt.mp hmenor⟩
        | true =>
          by_cases hmayor : b.tamanio > tam
          · simp only [Bool.not_true, Bool.false_and, Bool.false_eq_true, if_false, Bool.true_and,
              decide_eq_true_eq, if_pos hmayor]
            exact ⟨⟨b, haqui, rfl⟩, helegido.cons hle (UInt32.le_of_lt hmayor) fun _ ↦ hpropio⟩
          · simp only [Bool.not_true, Bool.false_and, Bool.false_eq_true, if_false, Bool.true_and,
              decide_eq_true_eq, if_neg hmayor]
            exact ⟨hesta, helegido.cons helegido.cabe (UInt32.le_refl _) fun _ ↦
              UInt32.not_lt.mp hmayor⟩

/-- The base that is handed out is the one of the chosen block. -/
theorem bloquesAsignar_elegido (worstFit : Bool) (bloques : List BloqueLibre) (tamanio : UInt32) :
    ((bloquesAsignar worstFit bloques tamanio).1 = sinBase ∧ ∀ b ∈ bloques, b.tamanio < tamanio) ∨
      ∃ b ∈ bloques, (bloquesAsignar worstFit bloques tamanio).1 = b.base ∧
        Elegido worstFit tamanio bloques b.tamanio := by
  cases hmejor : mejorBloque worstFit tamanio bloques 0 none with
  | none =>
    left
    simp only [bloquesAsignar, hmejor, true_and]
    exact (mejorBloque_eq_none hmejor).2
  | some par =>
    right
    obtain ⟨i, mejorTam⟩ := par
    obtain ⟨⟨b, hb, htam⟩, helegido⟩ :=
      @mejorBloque_elegido worstFit tamanio [] bloques none i mejorTam nofun hmejor
    rw [List.nil_append] at hb helegido
    refine ⟨b, List.mem_of_getElem? hb, ?_, by rw [htam]; exact helegido⟩
    simp only [bloquesAsignar, hmejor, hb]
    split <;> rfl

/-! ## Contiguous blocks -/

theorem primerContiguo_eq_none {bloques : List BloqueLibre} (h : primerContiguo bloques = none)
    {i j : ℕ} {a b : BloqueLibre} (hij : i ≠ j) (hi : bloques[i]? = some a) (hj : bloques[j]? = some b) :
    ¬ a.Contiguo b := by
  intro hc
  have hilt := (List.getElem?_eq_some_iff.mp hi).1
  have hjlt := (List.getElem?_eq_some_iff.mp hj).1
  have hfila := List.findSome?_eq_none_iff.mp h i (List.mem_range.mpr hilt)
  have hpar := List.findSome?_eq_none_iff.mp hfila j (List.mem_range.mpr hjlt)
  simp only [hi, hj, if_pos (And.intro hij hc)] at hpar
  cases hpar

/-- Where the merge loop has nothing left to do, no nonempty block ends where another begins. -/
theorem separated_of_primerContiguo {bloques : List BloqueLibre} {top : ℕ} (htop : top < 2 ^ 32)
    (hw : Within (rangosLibres bloques) top) (h : primerContiguo bloques = none) :
    Separated (rangosLibres bloques) := by
  intro range hr other ho hpos _ heq
  obtain ⟨a, ha, rfl⟩ := List.mem_map.mp hr
  obtain ⟨b, hb, rfl⟩ := List.mem_map.mp ho
  obtain ⟨i, hi⟩ := List.mem_iff_getElem?.mp ha
  obtain ⟨j, hj⟩ := List.mem_iff_getElem?.mp hb
  have hfin := hw _ hr
  simp only [BloqueLibre.rango] at hpos heq hfin
  by_cases hij : i = j
  · rw [hij] at hi
    obtain rfl := Option.some.inj (hi.symm.trans hj)
    omega
  · refine primerContiguo_eq_none h hij hi hj ?_
    unfold BloqueLibre.Contiguo
    rw [← UInt32.toNat_inj, toNat_add_of_lt (by omega)]
    exact heq

/-- Cutting a request from the front of a block joins nothing. -/
theorem Separated.bloquesAsignar {bloques : List BloqueLibre} {top : ℕ} (htop : top < 2 ^ 32)
    (hw : Within (rangosLibres bloques) top)
    (hdisjoint : ∀ address, hits (rangosLibres bloques) address ≤ 1)
    (h : Separated (rangosLibres bloques)) (worstFit : Bool) (tamanio : UInt32) :
    Separated (rangosLibres (bloquesAsignar worstFit bloques tamanio).2) := by
  rcases bloquesAsignar_cases worstFit bloques tamanio with
    ⟨heq, _⟩ | ⟨antes, b, despues, hlista, hle, heq⟩
  · rw [heq]
    exact h
  · rw [heq]
    have hviejos : ∀ range ∈ rangosLibres (antes ++ despues), range ∈ rangosLibres bloques := by
      intro range hr
      rw [hlista]
      simp only [rangosLibres_append, rangosLibres_cons, List.mem_append, List.mem_cons] at hr ⊢
      tauto
    have hb : b.rango ∈ rangosLibres bloques := by
      rw [hlista]
      simp
    split
    · exact fun range hr other ho ↦ h range (hviejos range hr) other (hviejos other ho)
    · have hfin := hw _ hb
      rw [UInt32.le_iff_toNat_le] at hle
      simp only [BloqueLibre.rango] at hfin
      have hbase : (b.base + tamanio).toNat = b.base.toNat + tamanio.toNat :=
        toNat_add_of_lt (by omega)
      have htam : (b.tamanio - tamanio).toNat = b.tamanio.toNat - tamanio.toNat :=
        toNat_sub_of_le hle
      have hpack : Packed (b.rango :: rangosLibres (antes ++ despues)) top := by
        have hperm : (rangosLibres bloques).Perm (b.rango :: rangosLibres (antes ++ despues)) := by
          rw [hlista]
          simp only [rangosLibres_append, rangosLibres_cons]
          exact List.perm_middle
        refine ⟨fun address ↦ ?_, hw.perm hperm⟩
        rw [← hits_perm hperm]
        exact hdisjoint address
      have hnuevos : ∀ range ∈ rangosLibres (antes ++ ⟨b.base + tamanio, b.tamanio - tamanio⟩ ::
          despues), range = ⟨b.base.toNat + tamanio.toNat, b.tamanio.toNat - tamanio.toNat⟩ ∨
            range ∈ rangosLibres (antes ++ despues) := by
        intro range hr
        simp only [rangosLibres_append, rangosLibres_cons, List.mem_append, List.mem_cons,
          BloqueLibre.rango, hbase, htam] at hr ⊢
        tauto
      intro range hr other ho hpos hpos' hjunto
      rcases hnuevos range hr with rfl | hr
      · rcases hnuevos other ho with rfl | ho
        · simp only at hpos hjunto
          omega
        · -- the end of the block has not moved
          simp only at hpos hjunto
          refine h b.rango hb other (hviejos other ho) ?_ hpos' ?_
          · simp only [BloqueLibre.rango]
            omega
          · simp only [BloqueLibre.rango]
            omega
      · rcases hnuevos other ho with rfl | ho
        · simp only at hpos' hjunto
          rcases Nat.eq_zero_or_pos tamanio.toNat with hcero | htamanio
          · refine h range (hviejos range hr) b.rango hb hpos ?_ ?_
            · simp only [BloqueLibre.rango]
              omega
            · simp only [BloqueLibre.rango]
              omega
          · -- a block that ended inside this one would overlap it
            have hc : b.rango.Contains (b.base.toNat + tamanio.toNat - 1) := by
              simp only [BloqueLibre.rango, Contains]
              omega
            exact hpack.apart hr hc ⟨by omega, by omega⟩
        · exact h range (hviejos range hr) other (hviejos other ho) hpos hpos' hjunto

/-! ## Histories of the free list -/

/-- The free list, the ranges handed out and not returned, and the bytes that sticks have added. -/
structure Reparto where
  bloques : List BloqueLibre
  entregados : List BloqueLibre
  total : ℕ
deriving Repr, DecidableEq

inductive EventoBloques
  | agregar (tamanio : UInt32)
  | asignar (worstFit : Bool) (tamanio : UInt32)
  | liberar (indice : ℕ)
deriving Repr, DecidableEq

/-- A stick begins where the bytes added before it end; only a range that was handed out comes back. -/
def Reparto.paso (s : Reparto) : EventoBloques → Option Reparto
  | .agregar tamanio =>
    if s.total + tamanio.toNat < 2 ^ 32 then
      some { s with
        bloques := bloquesAgregar s.bloques (UInt32.ofNat s.total) tamanio
        total := s.total + tamanio.toNat }
    else none
  | .asignar worstFit tamanio =>
    let resultado := bloquesAsignar worstFit s.bloques tamanio
    some { s with
      bloques := resultado.2
      entregados := if resultado.1 = sinBase then s.entregados else ⟨resultado.1, tamanio⟩ :: s.entregados }
  | .liberar indice =>
    match s.entregados[indice]? with
    | none => none
    | some rango =>
      some { s with
        bloques := bloquesLiberar s.bloques rango.base rango.tamanio
        entregados := s.entregados.eraseIdx indice }

/-- `bloques_init`. -/
def Reparto.Inicial (s : Reparto) : Prop := s = ⟨[], [], 0⟩

structure Reparto.Invariante (s : Reparto) : Prop where
  total_lt : s.total < 2 ^ 32
  particion : Partition (rangosLibres s.bloques ++ rangosLibres s.entregados) s.total
  separados : Separated (rangosLibres s.bloques)

namespace Reparto.Invariante

variable {s : Reparto} (h : s.Invariante)
include h

theorem within_bloques : Within (rangosLibres s.bloques) s.total :=
  (within_append.mp h.particion.within).1

theorem hits_bloques_le (address : ℕ) : hits (rangosLibres s.bloques) address ≤ 1 := by
  have hone := h.particion.packed.disjoint address
  rw [hits_append] at hone
  omega

/-- A range comes back: the free list grows by it and the merge loop leaves no contiguous pair. -/
theorem liberar {base tamanio : UInt32} {entregados : List BloqueLibre} {total : ℕ}
    (htotal : total < 2 ^ 32) (hmas : s.total ≤ total) (hr : base.toNat + tamanio.toNat ≤ total)
    (hentregados : Within (rangosLibres entregados) total)
    (hcover : ∀ address, hits (rangosLibres s.bloques) address +
      hits [⟨base.toNat, tamanio.toNat⟩] address + hits (rangosLibres entregados) address =
        if address < total then 1 else 0) :
    Reparto.Invariante ⟨bloquesLiberar s.bloques base tamanio, entregados, total⟩ := by
  obtain ⟨hw, hhits⟩ := bloquesLiberar_rangos base tamanio htotal (h.within_bloques.mono hmas) hr
  refine ⟨htotal, ⟨fun address ↦ ?_, within_append.mpr ⟨hw, hentregados⟩⟩, ?_⟩
  · rw [hits_append, hhits]
    exact hcover address
  · exact separated_of_primerContiguo htotal hw (primerContiguo_fusionar _)

theorem paso {s' : Reparto} {e : EventoBloques} (hpaso : s.paso e = some s') : s'.Invariante := by
  cases e with
  | agregar tamanio =>
    simp only [Reparto.paso] at hpaso
    split at hpaso
    · rename_i htotal
      obtain rfl := Option.some.inj hpaso
      have hbase : (UInt32.ofNat s.total).toNat = s.total := by
        rw [UInt32.toNat_ofNat']
        exact Nat.mod_eq_of_lt h.total_lt
      have hentregados : Within (rangosLibres s.entregados) (s.total + tamanio.toNat) :=
        (within_append.mp h.particion.within).2.mono (by omega)
      refine h.liberar htotal (by omega) (by rw [hbase]) hentregados fun address ↦ ?_
      have hcover := (h.particion.snoc tamanio.toNat).cover address
      rw [hits_append, hits_append, ← hbase] at hcover
      rw [hbase] at hcover ⊢
      omega
    · cases hpaso
  | asignar worstFit tamanio =>
    obtain rfl := Option.some.inj hpaso
    have hsep := Separated.bloquesAsignar h.total_lt h.within_bloques h.hits_bloques_le h.separados
      worstFit tamanio
    rcases bloquesAsignar_rangos worstFit tamanio h.total_lt h.within_bloques with
      ⟨heq, _⟩ | ⟨base, resto, heq, hfin, hw, hhits⟩
    · simp only [heq, if_true]
      exact h
    · rw [heq] at hsep
      simp only [heq]
      have hentregados := (within_append.mp h.particion.within).2
      have hcover : ∀ address, hits (rangosLibres resto) address +
          hits [⟨base.toNat, tamanio.toNat⟩] address + hits (rangosLibres s.entregados) address =
            if address < s.total then 1 else 0 := by
        intro address
        have hantes := h.particion.cover address
        rw [hits_append, hhits] at hantes
        omega
      by_cases hbase : base = sinBase
      · -- the range that is reported as none has no bytes
        have hcero : tamanio.toNat = 0 := by
          have htotal := h.total_lt
          rw [hbase, toNat_sinBase] at hfin
          omega
        rw [if_pos hbase]
        refine ⟨h.total_lt, ⟨fun address ↦ ?_, within_append.mpr ⟨hw, hentregados⟩⟩, hsep⟩
        have hlibre := hcover address
        rw [hcero, hits_empty_range] at hlibre
        rw [hits_append]
        exact hlibre
      · rw [if_neg hbase]
        refine ⟨h.total_lt, ⟨fun address ↦ ?_, ?_⟩, hsep⟩
        · have hlibre := hcover address
          simp only [rangosLibres_cons, hits_append, hits_cons, hits_nil, BloqueLibre.rango]
            at hlibre ⊢
          omega
        · simp only [rangosLibres_cons, within_append, within_cons, BloqueLibre.rango]
          exact ⟨hw, hfin, hentregados⟩
  | liberar indice =>
    simp only [Reparto.paso] at hpaso
    split at hpaso
    · cases hpaso
    · rename_i rango hrango
      obtain rfl := Option.some.inj hpaso
      obtain ⟨hlt, hget⟩ := List.getElem?_eq_some_iff.mp hrango
      have hperm : (rangosLibres s.entregados).Perm
          (rango.rango :: rangosLibres (s.entregados.eraseIdx indice)) := by
        have hlista := (List.getElem_cons_eraseIdx_perm hlt).symm.map BloqueLibre.rango
        rwa [hget] at hlista
      have hwithin := (within_append.mp h.particion.within).2.perm hperm
      obtain ⟨hfin, hresto⟩ := within_cons.mp hwithin
      refine h.liberar h.total_lt le_rfl hfin hresto fun address ↦ ?_
      have hcover := h.particion.cover address
      have hsolo : hits [⟨rango.base.toNat, rango.tamanio.toNat⟩] address =
          hits [rango.rango] address := rfl
      rw [hits_append, hits_perm hperm, hits_cons] at hcover
      rw [hsolo, hits_cons, hits_nil]
      omega

end Reparto.Invariante

theorem Reparto.invariante_de_corrida {s : Reparto}
    (h : Reachable Reparto.paso Reparto.Inicial (fun _ _ ↦ True) s) : s.Invariante := by
  refine h.invariant ?_ fun s e s' hs _ hpaso ↦ hs.paso hpaso
  rintro s rfl
  exact ⟨by decide, ⟨fun address ↦ by simp, by simp⟩, nofun⟩

/-! ## What a request gets -/

/-- The merge loop that starts with this list comes to its end. -/
inductive FusionTermina : List BloqueLibre → Prop
  | fin {bloques : List BloqueLibre} (h : primerContiguo bloques = none) : FusionTermina bloques
  | sigue {bloques : List BloqueLibre} {i j : ℕ} (h : primerContiguo bloques = some (i, j))
      (hresto : FusionTermina (fusionarEn bloques i j)) : FusionTermina bloques

theorem fusionTermina_of_length (pasadas : ℕ) {bloques : List BloqueLibre}
    (h : bloques.length = pasadas) : FusionTermina bloques := by
  induction pasadas generalizing bloques with
  | zero =>
    rw [List.length_eq_zero_iff.mp h]
    exact .fin rfl
  | succ pasadas ih =>
    cases hpar : primerContiguo bloques with
    | none => exact .fin hpar
    | some par =>
      obtain ⟨i, j⟩ := par
      have hlargo := length_fusionarEn hpar
      exact .sigue hpar (ih (by omega))

/-- What the allocator promises: it keeps every byte once, it refuses a request of `t ≥ 1` bytes exactly
when no run of `t` free bytes exists, and takes the front of the best maximal run otherwise. -/
structure Reparto.Exacto (s : Reparto) : Prop where
  particion : Partition (rangosLibres s.bloques ++ rangosLibres s.entregados) s.total
  libres : ∀ address, 0 < hits (rangosLibres s.bloques) address ↔
    address < s.total ∧ hits (rangosLibres s.entregados) address = 0
  rechaza : ∀ worstFit tamanio, 0 < tamanio.toNat →
    ((bloquesAsignar worstFit s.bloques tamanio).1 = sinBase ↔
      ¬ ∃ start, Run (rangosLibres s.bloques) start tamanio.toNat)
  elige : ∀ worstFit tamanio, 0 < tamanio.toNat →
    (bloquesAsignar worstFit s.bloques tamanio).1 ≠ sinBase →
      ∃ size, MaximalRun (rangosLibres s.bloques)
          (bloquesAsignar worstFit s.bloques tamanio).1.toNat size ∧ tamanio.toNat ≤ size ∧
        ∀ otherStart otherSize, MaximalRun (rangosLibres s.bloques) otherStart otherSize →
          tamanio.toNat ≤ otherSize → if worstFit then otherSize ≤ size else size ≤ otherSize

theorem Reparto.Invariante.exacto {s : Reparto} (h : s.Invariante) : s.Exacto where
  particion := h.particion
  libres := by
    intro address
    have hcover := h.particion.cover address
    rw [hits_append] at hcover
    split at hcover <;> omega
  rechaza := by
    intro worstFit tamanio hpos
    rcases bloquesAsignar_elegido worstFit s.bloques tamanio with
      ⟨hbase, hchicos⟩ | ⟨b, hb, hbase, helegido⟩
    · refine iff_of_true hbase fun ⟨start, hrun⟩ ↦ ?_
      obtain ⟨range, hr, hle, hfin⟩ := hrun.mem_range h.hits_bloques_le h.separados hpos
      obtain ⟨c, hc, rfl⟩ := List.mem_map.mp hr
      have hlt := UInt32.lt_iff_toNat_lt.mp (hchicos c hc)
      simp only [BloqueLibre.rango] at hle hfin
      omega
    · have hle := UInt32.le_iff_toNat_le.mp helegido.cabe
      have hfin := h.within_bloques _ (List.mem_map_of_mem hb)
      simp only [BloqueLibre.rango] at hfin
      refine iff_of_false (fun hsin ↦ ?_) (not_not.mpr ⟨b.base.toNat, fun address hdesde hhasta ↦ ?_⟩)
      · have htotal := h.total_lt
        rw [hbase] at hsin
        rw [hsin, toNat_sinBase] at hfin
        omega
      · exact hits_pos_iff.mpr ⟨b.rango, List.mem_map_of_mem hb, hdesde,
          by simp only [BloqueLibre.rango]; omega⟩
  elige := by
    intro worstFit tamanio hpos hexito
    rcases bloquesAsignar_elegido worstFit s.bloques tamanio with
      ⟨hbase, _⟩ | ⟨b, hb, hbase, helegido⟩
    · exact absurd hbase hexito
    · have hle := UInt32.le_iff_toNat_le.mp helegido.cabe
      have hrango : b.rango ∈ rangosLibres s.bloques := List.mem_map_of_mem hb
      have hrun := maximalRun_of_mem h.hits_bloques_le h.separados hrango
        (by simp only [BloqueLibre.rango]; omega)
      rw [hbase]
      refine ⟨b.tamanio.toNat, hrun, hle, fun otherStart otherSize hother hcabe ↦ ?_⟩
      obtain ⟨c, hc, hrango⟩ := List.mem_map.mp (hother.mem h.hits_bloques_le h.separados)
      have hsize : c.tamanio.toNat = otherSize := congrArg ByteRange.size hrango
      have hmejor := helegido.mejor c hc (UInt32.le_iff_toNat_le.mpr (by omega))
      cases worstFit with
      | true =>
        have := UInt32.le_iff_toNat_le.mp hmejor
        simp only [if_true]
        omega
      | false =>
        have := UInt32.le_iff_toNat_le.mp hmejor
        simp only [Bool.false_eq_true, if_false]
        omega

/-- Over every history the allocator is exact, and its merge loop ends for every list. -/
theorem reparto_exacto {s : Reparto}
    (h : Reachable Reparto.paso Reparto.Inicial (fun _ _ ↦ True) s) :
    s.Exacto ∧ ∀ bloques, FusionTermina bloques ∧ primerContiguo (fusionar bloques) = none :=
  ⟨(Reparto.invariante_de_corrida h).exacto, fun bloques ↦
    ⟨fusionTermina_of_length bloques.length rfl, primerContiguo_fusionar bloques⟩⟩

/-- Two sticks, three requests of which one takes no bytes, and two returns that leave an empty block inside
the only run. -/
def eventosBloques : List EventoBloques :=
  [.agregar 6, .agregar 4, .asignar false 2, .asignar true 0, .liberar 1, .liberar 0, .asignar true 3]

theorem reparto_exacto_bloque_vacio : ∃ s : Reparto, s = ⟨[⟨3, 7⟩, ⟨2, 0⟩], [⟨0, 3⟩], 10⟩ ∧ s.Exacto ∧
    ∀ bloques, FusionTermina bloques ∧ primerContiguo (fusionar bloques) = none := by
  have hinicial : Reachable Reparto.paso Reparto.Inicial (fun _ _ ↦ True) ⟨[], [], 0⟩ := .start rfl
  obtain ⟨s, hs, heq⟩ := hinicial.exists_of_runAllowed eventosBloques
    (fun s ↦ s = ⟨[⟨3, 7⟩, ⟨2, 0⟩], [⟨0, 3⟩], 10⟩) (by decide)
  exact ⟨s, heq, reparto_exacto hs⟩

end PlugAndPlay.Memoria
