import PlugAndPlay.Memoria.Compactacion
import Mathlib.Data.List.Sort

/-!
# What compaction preserves

The effect of `compactar_memoria` as a whole, on a state whose resident segments neither overlap
nor leave RAM: their bytes are kept, they fill the start of RAM in their old order, swapped segments
are not touched, and the free list is what is left.
-/

open PlugAndPlay.Library

namespace PlugAndPlay.Memoria

/-- Insertion sort is one `qsort`. -/
def Qsort.insercion : Qsort where
  ordenar lista := lista.insertionSort fun a b ↦ a.seg.base ≤ b.seg.base
  perm lista := List.perm_insertionSort _ lista
  ordenada lista := by
    have : Std.Total fun a b : SegEntrada ↦ a.seg.base ≤ b.seg.base :=
      ⟨fun a b ↦ UInt32.le_total a.seg.base b.seg.base⟩
    have : IsTrans SegEntrada fun a b ↦ a.seg.base ≤ b.seg.base :=
      ⟨fun a b c ↦ UInt32.le_trans⟩
    exact List.pairwise_insertionSort _ lista

/-- The bytes the resident segments take together. -/
def bytesResidentes (procesos : List Proceso) : ℕ := Packing.totalSize (rangosResidentes procesos)

theorem bytesResidentes_eq_rangosEntradas (qsort : Qsort) (procesos : List Proceso) :
    Packing.totalSize (rangosEntradas (qsort.ordenar (entradas procesos))) =
      bytesResidentes procesos := by
  rw [bytesResidentes, ← rangosEntradas_entradas]
  exact (((qsort.perm _).map fun e ↦ e.seg.rango).map ByteRange.size).sum_eq

/-- What one compaction does to the tables and the free list, whatever became of the copies. -/
structure Compactada (m m' : KernelMemory) : Prop where
  mismaTabla : MismaTabla m'.ram.tabla m.ram.tabla
  tablas : m'.procesos.map Proceso.sinBases = m.procesos.map Proceso.sinBases
  movido : ∀ proc idx seg, segmentoEn m.procesos proc idx = some seg → seg.Residente →
    ∃ base : UInt32, segmentoEn m'.procesos proc idx = some { seg with base := base } ∧
      base.toNat + seg.limite.toNat ≤ bytesResidentes m.procesos
  orden : ∀ proc idx seg proc' idx' seg', segmentoEn m.procesos proc idx = some seg →
    segmentoEn m.procesos proc' idx' = some seg' → seg.Residente → seg'.Residente →
    seg.base < seg'.base → ∃ base base' : UInt32,
      segmentoEn m'.procesos proc idx = some { seg with base := base } ∧
      segmentoEn m'.procesos proc' idx' = some { seg' with base := base' } ∧
      base.toNat + seg.limite.toNat ≤ base'.toNat
  suspendido : ∀ proc idx seg, segmentoEn m.procesos proc idx = some seg → ¬ seg.Residente →
    segmentoEn m'.procesos proc idx = some seg
  ocupa : ∀ address, ByteRange.hits (rangosResidentes m'.procesos) address =
    if address < bytesResidentes m.procesos then 1 else 0
  libres : (∃ p ∈ m.procesos, p.segmentos ≠ []) → m'.bloquesLibres =
    bloquesResetAUnico (UInt32.ofNat (bytesResidentes m.procesos))
      (UInt32.ofNat (m.ram.total - bytesResidentes m.procesos))
  sinSegmentos : ¬ (∃ p ∈ m.procesos, p.segmentos ≠ []) → m' = m
  config : m'.config = m.config
  swap : m'.swap = m.swap

section

variable {qsort : Qsort} {m : KernelMemory}

theorem segmentoEn_of_entradas_nil (h : entradas m.procesos = []) {proc idx : ℕ} {seg : Segmento}
    (hget : segmentoEn m.procesos proc idx = some seg) : ¬ seg.Residente := by
  intro hres
  have : (⟨proc, idx, seg⟩ : SegEntrada) ∈ entradas m.procesos := mem_entradas.mpr ⟨hget, hres⟩
  rw [h] at this
  cases this

/-- With no resident segment there is nothing to move. -/
theorem compactada_of_entradas_nil (libres : List BloqueLibre) (h : entradas m.procesos = [])
    (hlibres : (∃ p ∈ m.procesos, p.segmentos ≠ []) →
      libres = bloquesResetAUnico 0 (conexionesTamanioTotalRam m.ram.tabla))
    (hsin : ¬ (∃ p ∈ m.procesos, p.segmentos ≠ []) → libres = m.bloquesLibres) :
    Compactada m { m with bloquesLibres := libres } := by
  have hrangos : rangosResidentes m.procesos = [] := by
    rw [← rangosEntradas_entradas, h]
    rfl
  have hbytes : bytesResidentes m.procesos = 0 := by
    rw [bytesResidentes, hrangos]
    rfl
  exact
    { mismaTabla := MismaTabla.refl _
      tablas := rfl
      movido := fun _ _ _ hget hres ↦ absurd hres (segmentoEn_of_entradas_nil h hget)
      orden := fun _ _ _ _ _ _ hget _ hres _ _ ↦ absurd hres (segmentoEn_of_entradas_nil h hget)
      suspendido := fun _ _ _ hget _ ↦ hget
      ocupa := fun address ↦ by simp [hrangos, hbytes]
      libres := fun hex ↦ by
        show libres = _
        rw [hlibres hex, hbytes, Nat.sub_zero, Ram.total, UInt32.ofNat_toNat]
        rfl
      sinSegmentos := fun hno ↦ by rw [hsin hno]
      config := rfl
      swap := rfl }

theorem rangosEntradas_append (antes despues : List SegEntrada) (e : SegEntrada) :
    rangosEntradas (antes ++ e :: despues) =
      rangosEntradas antes ++ e.seg.rango :: rangosEntradas despues := by
  simp [rangosEntradas]

theorem totalSize_append (antes despues : List SegEntrada) (e : SegEntrada) :
    Packing.totalSize (rangosEntradas (antes ++ e :: despues)) =
      Packing.totalSize (rangosEntradas antes) + e.seg.limite.toNat +
        Packing.totalSize (rangosEntradas despues) := by
  simp [rangosEntradas_append, Packing.totalSize, Segmento.rango, Nat.add_assoc]

/-- The ranges of the sorted entries are those of the resident segments. -/
theorem rangosEntradas_ordenar_perm (qsort : Qsort) (procesos : List Proceso) :
    (rangosEntradas (qsort.ordenar (entradas procesos))).Perm (rangosResidentes procesos) := by
  rw [← rangosEntradas_entradas]
  exact (qsort.perm _).map _

/-- The sorted entries meet what the loop needs of its list. -/
theorem ordenadas_ordenar (qsort : Qsort) {top : ℕ} (htop : top < 2 ^ 32)
    (hjuntos : ByteRange.Packed (rangosResidentes m.procesos) top) :
    Ordenadas m (qsort.ordenar (entradas m.procesos)) (0 : UInt32).toNat top where
  segs e he := (mem_entradas.mp ((qsort.perm _).mem_iff.mp he)).1
  posiciones := by
    refine ((qsort.perm _).pairwise_iff ?_).mpr (entradas_posiciones m.procesos)
    exact fun {a b} hne hsame ↦ hne ⟨hsame.1.symm, hsame.2.symm⟩
  ascending := by
    refine Packing.ascending_of_sorted ?_ fun address ↦ ?_
    · refine List.pairwise_map.mpr ((qsort.ordenada _).imp fun {a b} hle ↦ ?_)
      exact UInt32.le_iff_toNat_le.mp hle
    · rw [ByteRange.hits_perm (rangosEntradas_ordenar_perm qsort m.procesos)]
      exact hjuntos.disjoint address
  above := Packing.above_zero _
  within := hjuntos.within.perm (rangosEntradas_ordenar_perm qsort m.procesos).symm
  cursor_le := Nat.zero_le _
  top_lt := htop

/-- Resident segments without overlaps take no more than what they lie in. -/
theorem bytesResidentes_le {procesos : List Proceso} {top : ℕ} (htop : top < 2 ^ 32)
    (hjuntos : ByteRange.Packed (rangosResidentes procesos) top) :
    bytesResidentes procesos ≤ top := by
  have ho := ordenadas_ordenar (m := ⟨⟨0, none⟩, procesos, [], ⟨[], [], 0⟩, ⟨0, 0, 0, 0, 0, fun _ ↦ 0, []⟩⟩)
    .insercion htop hjuntos
  have hle := Packing.totalSize_le ho.ascending ho.above ho.within ho.cursor_le
  rw [bytesResidentes_eq_rangosEntradas] at hle
  simpa using hle

/-- The entry of a resident segment, with the entries before and after it in the sorted list. -/
theorem mem_ordenar_split (qsort : Qsort) {proc idx : ℕ} {seg : Segmento}
    (hget : segmentoEn m.procesos proc idx = some seg) (hres : seg.Residente) :
    ∃ antes despues, qsort.ordenar (entradas m.procesos) = antes ++ ⟨proc, idx, seg⟩ :: despues :=
  List.append_of_mem ((qsort.perm _).mem_iff.mpr (mem_entradas.mpr ⟨hget, hres⟩))

theorem sinSegmentos_of_total {procesos : List Proceso}
    (htotal : (procesos.map fun p ↦ p.segmentos.length).sum = 0) : ∀ p ∈ procesos, p.segmentos = [] := by
  intro p hp
  have hlargo := List.sum_eq_zero_iff_forall_eq_nat.mp htotal _ (List.mem_map_of_mem hp)
  exact List.eq_nil_of_length_eq_zero hlargo

theorem entradas_of_total {procesos : List Proceso}
    (htotal : (procesos.map fun p ↦ p.segmentos.length).sum = 0) : entradas procesos = [] := by
  rw [List.eq_nil_iff_forall_not_mem]
  intro e he
  obtain ⟨p, hp, hs⟩ := Option.bind_eq_some_iff.mp (mem_entradas.mp he).1
  rw [sinSegmentos_of_total htotal p (List.mem_of_getElem? hp)] at hs
  cases hs

theorem compactarMemoria_of_entradas (h : entradas m.procesos ≠ []) :
    compactarMemoria qsort m =
      { (compactarEntradas (qsort.ordenar (entradas m.procesos)) 0 m).2 with
        bloquesLibres := libresTrasCompactar
          (compactarEntradas (qsort.ordenar (entradas m.procesos)) 0 m).2.ram.tabla
          (compactarEntradas (qsort.ordenar (entradas m.procesos)) 0 m).1 } := by
  unfold compactarMemoria
  rw [if_neg fun htotal ↦ h (entradas_of_total htotal), if_neg h]

theorem ordenar_of_nil (h : entradas m.procesos = []) : qsort.ordenar (entradas m.procesos) = [] := by
  rw [h]
  exact (qsort.perm []).eq_nil

/-- The three ways through `compactar_memoria`. -/
theorem compactarMemoria_cases (qsort : Qsort) (m : KernelMemory) :
    (¬ (∃ p ∈ m.procesos, p.segmentos ≠ []) ∧ entradas m.procesos = [] ∧ compactarMemoria qsort m = m) ∨
    ((∃ p ∈ m.procesos, p.segmentos ≠ []) ∧ entradas m.procesos = [] ∧
      compactarMemoria qsort m =
        { m with bloquesLibres := bloquesResetAUnico 0 (conexionesTamanioTotalRam m.ram.tabla) }) ∨
    ((∃ p ∈ m.procesos, p.segmentos ≠ []) ∧ ∃ fin m₁,
      compactarEntradas (qsort.ordenar (entradas m.procesos)) 0 m = (fin, m₁) ∧
      compactarMemoria qsort m =
        { m₁ with bloquesLibres := libresTrasCompactar m₁.ram.tabla fin }) := by
  unfold compactarMemoria
  by_cases htotal : (m.procesos.map fun p ↦ p.segmentos.length).sum = 0
  · exact Or.inl ⟨fun ⟨p, hp, hne⟩ ↦ hne (sinSegmentos_of_total htotal p hp),
      entradas_of_total htotal, if_pos htotal⟩
  · right
    have hex : ∃ p ∈ m.procesos, p.segmentos ≠ [] := by
      by_contra hno
      refine htotal (List.sum_eq_zero_iff_forall_eq_nat.mpr fun n hn ↦ ?_)
      obtain ⟨p, hp, rfl⟩ := List.mem_map.mp hn
      have : p.segmentos = [] := not_not.mp fun hne ↦ hno ⟨p, hp, hne⟩
      rw [this]
      rfl
    rw [if_neg htotal]
    by_cases hentradas : entradas m.procesos = []
    · exact Or.inl ⟨hex, hentradas, by rw [if_pos hentradas]⟩
    · refine Or.inr ⟨hex, _, _, rfl, ?_⟩
      simp only [if_neg hentradas]

section Compactadas

variable {fin : UInt32} {m₁ : KernelMemory} (hc : Compactadas m (qsort.ordenar (entradas m.procesos)) 0 fin m₁)
include hc

theorem Compactadas.toNat_fin : fin.toNat = bytesResidentes m.procesos := by
  have hfin := hc.fin_eq
  rw [bytesResidentes_eq_rangosEntradas qsort m.procesos] at hfin
  simpa using hfin

/-- A segment that lay lower lies lower. -/
theorem Compactadas.orden {proc idx proc' idx' : ℕ} {seg seg' : Segmento}
    (hget : segmentoEn m.procesos proc idx = some seg) (hget' : segmentoEn m.procesos proc' idx' = some seg')
    (hres : seg.Residente) (hres' : seg'.Residente) (hlt : seg.base < seg'.base) : ∃ base base' : UInt32,
      segmentoEn m₁.procesos proc idx = some { seg with base := base } ∧
      segmentoEn m₁.procesos proc' idx' = some { seg' with base := base' } ∧
      base.toNat + seg.limite.toNat ≤ base'.toNat := by
  obtain ⟨antes, despues, heq⟩ := mem_ordenar_split qsort hget hres
  have hmem : (⟨proc', idx', seg'⟩ : SegEntrada) ∈ qsort.ordenar (entradas m.procesos) :=
    (qsort.perm (entradas m.procesos)).mem_iff.mpr (mem_entradas.mpr ⟨hget', hres'⟩)
  have hordenada := qsort.ordenada (entradas m.procesos)
  rw [heq] at hordenada
  rw [heq, List.mem_append, List.mem_cons] at hmem
  obtain ⟨base, hbase, hnuevo⟩ := hc.lugar _ _ _ heq
  rcases hmem with hantes | hmismo | hdespues
  · -- an entry before the first one does not have the larger base
    have hle := (List.pairwise_append.mp hordenada).2.2 _ hantes _ List.mem_cons_self
    exact absurd hlt (UInt32.not_lt.mpr hle)
  · obtain ⟨_, _, rfl⟩ := SegEntrada.mk.inj hmismo
    exact absurd hlt (UInt32.lt_irrefl _)
  · obtain ⟨medio, cola, hcola⟩ := List.append_of_mem hdespues
    have heq' : qsort.ordenar (entradas m.procesos) =
        (antes ++ ⟨proc, idx, seg⟩ :: medio) ++ ⟨proc', idx', seg'⟩ :: cola := by
      rw [heq, hcola]
      simp
    obtain ⟨base', hbase', hnuevo'⟩ := hc.lugar _ _ _ heq'
    refine ⟨base, base', hnuevo, hnuevo', ?_⟩
    rw [hbase, hbase', totalSize_append]
    simp only
    omega

/-- The one free block is what the segments leave. -/
theorem Compactadas.libresTrasCompactar_eq : libresTrasCompactar m₁.ram.tabla fin =
    bloquesResetAUnico (UInt32.ofNat (bytesResidentes m.procesos))
      (UInt32.ofNat (m.ram.total - bytesResidentes m.procesos)) := by
  have hfin := hc.toNat_fin
  have htotalRam : conexionesTamanioTotalRam m₁.ram.tabla = conexionesTamanioTotalRam m.ram.tabla :=
    hc.mismaTabla.sumaTamanios 0
  have hcursor : fin = UInt32.ofNat (bytesResidentes m.procesos) := by
    rw [← hfin, UInt32.ofNat_toNat]
  have hram := m.ram.total_lt
  have hdef : m.ram.total = (conexionesTamanioTotalRam m.ram.tabla).toNat := rfl
  rw [libresTrasCompactar, htotalRam, ← hcursor]
  congr 1
  apply UInt32.toNat_inj.mp
  rw [UInt32.toNat_ofNat_of_lt' (by show _ < 2 ^ 32; omega)]
  split
  · rename_i hgt
    rw [toNat_sub_of_le (UInt32.lt_iff_toNat_lt.mp hgt).le, hfin]
    rfl
  · rename_i hle
    have hle : (conexionesTamanioTotalRam m.ram.tabla).toNat ≤ fin.toNat :=
      UInt32.le_iff_toNat_le.mp (UInt32.not_lt.mp hle)
    simp only [UInt32.toNat_zero]
    omega

end Compactadas

/-- The effect on the tables and the free list when the loop runs. -/
theorem compactada_of_compactadas {fin : UInt32} {m₁ : KernelMemory}
    (hc : Compactadas m (qsort.ordenar (entradas m.procesos)) 0 fin m₁)
    (hex : ∃ p ∈ m.procesos, p.segmentos ≠ []) :
    Compactada m { m₁ with bloquesLibres := libresTrasCompactar m₁.ram.tabla fin } := by
  have hbytes := bytesResidentes_eq_rangosEntradas qsort m.procesos
  exact
    { mismaTabla := hc.mismaTabla
      tablas := hc.tablas
      movido := by
        intro proc idx seg hget hres
        obtain ⟨antes, despues, heq⟩ := mem_ordenar_split qsort hget hres
        obtain ⟨base, hbase, hnuevo⟩ := hc.lugar _ _ _ heq
        refine ⟨base, hnuevo, ?_⟩
        rw [← hbytes, heq, totalSize_append, hbase]
        simp
      orden := fun _ _ _ _ _ _ hget hget' hres hres' hlt ↦ hc.orden hget hget' hres hres' hlt
      suspendido := by
        intro proc idx seg hget hno
        rw [← hget]
        refine hc.otros proc idx fun e he hsame ↦ ?_
        obtain ⟨hgetE, hresE⟩ := mem_entradas.mp ((qsort.perm (entradas m.procesos)).mem_iff.mp he)
        rw [hsame.1, hsame.2, hget] at hgetE
        obtain rfl := Option.some.inj hgetE
        exact hno hresE
      ocupa := by
        intro address
        have hhits := hc.hits address
        rw [ByteRange.hits_perm (rangosEntradas_ordenar_perm qsort m.procesos), hbytes] at hhits
        have hcero : ByteRange.hits [⟨(0 : UInt32).toNat, bytesResidentes m.procesos⟩] address =
            if address < bytesResidentes m.procesos then 1 else 0 := by
          simp [ByteRange.hits_cons, ByteRange.Contains]
        show ByteRange.hits (rangosResidentes m₁.procesos) address = _
        omega
      libres := fun _ ↦ hc.libresTrasCompactar_eq
      sinSegmentos := fun hno ↦ absurd hex hno
      config := hc.config
      swap := hc.swap }

/-- Compaction of resident segments that do not overlap, whatever sticks are reachable. -/
theorem compactarMemoria_compactada (qsort : Qsort) {top : ℕ} (htop : top < 2 ^ 32)
    (hjuntos : ByteRange.Packed (rangosResidentes m.procesos) top) :
    Compactada m (compactarMemoria qsort m) := by
  rcases compactarMemoria_cases qsort m with ⟨hno, hentradas, heq⟩ | ⟨hex, hentradas, heq⟩ |
    ⟨hex, fin, m₁, hloop, heq⟩
  · rw [heq]
    exact compactada_of_entradas_nil m.bloquesLibres hentradas (fun hex ↦ absurd hex hno) fun _ ↦ rfl
  · rw [heq]
    exact compactada_of_entradas_nil _ hentradas (fun _ ↦ rfl) fun hno ↦ absurd hex hno
  · have ho := ordenadas_ordenar (m := m) qsort htop hjuntos
    have hc := compactarEntradas_compactadas _ 0 ho
    rw [hloop] at hc
    rw [heq]
    exact compactada_of_compactadas hc hex

/-- Without failures, every resident segment takes its bytes along. -/
theorem compactarMemoria_bytes (qsort : Qsort) (hsana : m.ram.Sana)
    (hjuntos : ByteRange.Packed (rangosResidentes m.procesos) m.ram.total) :
    (compactarMemoria qsort m).ram.Sana ∧
      ∀ proc idx seg, segmentoEn m.procesos proc idx = some seg → seg.Residente →
        ∃ base : UInt32,
          segmentoEn (compactarMemoria qsort m).procesos proc idx = some { seg with base := base } ∧
          base.toNat + seg.limite.toNat ≤ bytesResidentes m.procesos ∧
          ByteMemory.slice (plano (compactarMemoria qsort m).ram.tabla) base.toNat seg.limite.toNat =
            ByteMemory.slice (plano m.ram.tabla) seg.base.toNat seg.limite.toNat := by
  rcases compactarMemoria_cases qsort m with ⟨_, hentradas, heq⟩ | ⟨_, hentradas, heq⟩ |
    ⟨_, fin, m₁, hloop, heq⟩
  · rw [heq]
    exact ⟨hsana, fun _ _ _ hget hres ↦ absurd hres (segmentoEn_of_entradas_nil hentradas hget)⟩
  · rw [heq]
    exact ⟨hsana, fun _ _ _ hget hres ↦ absurd hres (segmentoEn_of_entradas_nil hentradas hget)⟩
  · have ho := ordenadas_ordenar (m := m) qsort m.ram.total_lt hjuntos
    have hc := compactarEntradas_compactadas _ 0 ho
    have he := compactarEntradas_escrita _ 0 hsana ho
    rw [hloop] at hc he
    rw [heq]
    refine ⟨he.sana hsana, fun proc idx seg hget hres ↦ ?_⟩
    obtain ⟨antes, despues, hlista⟩ := mem_ordenar_split qsort hget hres
    obtain ⟨base, hbase, hnuevo⟩ := hc.lugar _ _ _ hlista
    have hbytes := bytesResidentes_eq_rangosEntradas qsort m.procesos
    have hascending := ho.ascending
    rw [hlista, rangosEntradas_append] at hascending
    refine ⟨base, hnuevo, ?_, ?_⟩
    · rw [← hbytes, hlista, totalSize_append, hbase]
      simp
    · rw [funext he.plano, hbase, hlista, rangosEntradas_append]
      exact Packing.slice_pack hascending (Packing.above_zero _)

end

/-- The free list as the block that is left. -/
theorem Compactada.libres_eq {m m' : KernelMemory} (h : Compactada m m')
    (hex : ∃ p ∈ m.procesos, p.segmentos ≠ []) : m'.bloquesLibres =
      if bytesResidentes m.procesos < m.ram.total then
        [⟨UInt32.ofNat (bytesResidentes m.procesos), UInt32.ofNat (m.ram.total - bytesResidentes m.procesos)⟩]
      else [] := by
  have hram := m.ram.total_lt
  have hresto : (UInt32.ofNat (m.ram.total - bytesResidentes m.procesos)).toNat =
      m.ram.total - bytesResidentes m.procesos :=
    UInt32.toNat_ofNat_of_lt' (by show _ < 2 ^ 32; omega)
  rw [h.libres hex, bloquesResetAUnico]
  refine if_congr ?_ rfl rfl
  rw [gt_iff_lt, UInt32.lt_iff_toNat_lt, hresto, UInt32.toNat_zero]
  exact Nat.sub_pos_iff_lt

theorem Compactada.total {m m' : KernelMemory} (h : Compactada m m') : m'.ram.total = m.ram.total := by
  simp only [Ram.total, conexionesTamanioTotalRam_eq]
  rw [h.mismaTabla.sumaTamanios]

end PlugAndPlay.Memoria
