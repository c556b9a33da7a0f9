import PlugAndPlay.Library.Pointwise
import PlugAndPlay.Library.Transitions
import PlugAndPlay.Memoria.CompactacionPreserva
import PlugAndPlay.Memoria.Operaciones
import PlugAndPlay.Memoria.SchedulerRangos

/-!
# Physical memory is partitioned

The invariant of all runs in which operations are handled one after the other: the free blocks and
the resident segments lie inside `[0, sum of the stick sizes)` without overlaps, and unless a
resumption leaked memory they cover it. It is carried by what each process's table looks like: all
in RAM, or, once the process was suspended, in the swap file, except for what a suspension that ran
out of blocks left behind.
-/

open PlugAndPlay.Library ByteRange

namespace PlugAndPlay.Memoria

/-! ## The invariant -/

/-- Where the segments of each process are. Whether a suspended process may have segments in RAM
(`aMedias`) depends on the runs considered. A process with the pid of an earlier one is never found,
so it has no segments. -/
structure TablasEn (aMedias : Prop) (procesos : List Proceso) (suspendidos : List ℤ) (top : ℕ) :
    Prop where
  activo : ∀ p ∈ procesos, p.pid ∉ suspendidos →
    ∀ seg ∈ p.segmentos, seg.base.toNat + seg.limite.toNat ≤ top
  suspendido : ∀ p ∈ procesos, p.pid ∈ suspendidos →
    ∀ seg ∈ p.segmentos, seg.Residente → aMedias ∧ seg.base.toNat + seg.limite.toNat ≤ top
  sombra : procesos.Pairwise fun p q ↦ p.pid = q.pid → q.segmentos = []

/-- No address of RAM is in two places, and none is lost in runs without leaks (`¬ fugas`). The
ranges `apartados` belong to sticks that are in the table and not yet in the free list. -/
structure Repartida (fugas aMedias : Prop) (apartados : List ByteRange) (m : KernelMemory)
    (suspendidos : List ℤ) : Prop where
  bases : BasesAcumuladas 0 m.ram.tabla
  suma : sumaSticks m.ram.tabla < 2 ^ 32
  juntos : Packed (apartados ++ m.ocupacion) (sumaSticks m.ram.tabla)
  cubre : ¬ fugas → Partition (apartados ++ m.ocupacion) (sumaSticks m.ram.tabla)
  tablas : TablasEn aMedias m.procesos suspendidos (sumaSticks m.ram.tabla)

section

variable {fugas aMedias : Prop} {m : KernelMemory} {suspendidos : List ℤ} {pid : ℤ} {p : Proceso}
  {top : ℕ}

theorem TablasEn.mono {procesos : List Proceso} {mayor : ℕ}
    (h : TablasEn aMedias procesos suspendidos top) (hle : top ≤ mayor) :
    TablasEn aMedias procesos suspendidos mayor where
  activo p hp hno seg hseg := (h.activo p hp hno seg hseg).trans hle
  suspendido p hp hsusp seg hseg hres :=
    ⟨(h.suspendido p hp hsusp seg hseg hres).1, (h.suspendido p hp hsusp seg hseg hres).2.trans hle⟩
  sombra := h.sombra

theorem TablasEn.within {procesos : List Proceso} (h : TablasEn aMedias procesos suspendidos top) :
    Within (rangosResidentes procesos) top := by
  rw [within_rangosResidentes]
  intro q hq
  refine within_rangosSegmentos fun seg hseg hres ↦ ?_
  by_cases hsusp : q.pid ∈ suspendidos
  · exact (h.suspendido q hq hsusp seg hseg hres).2
  · exact h.activo q hq hsusp seg hseg

/-- The processes other than the one found stay as the invariant wants them, whatever becomes of
that one. -/
theorem TablasEn.resto {antes despues : List Proceso} {suspendidos' : List ℤ}
    (h : TablasEn aMedias (antes ++ p :: despues) suspendidos top)
    (hantes : ∀ q ∈ antes, q.pid ≠ p.pid)
    (hotros : ∀ q, q ≠ p.pid → (q ∈ suspendidos' ↔ q ∈ suspendidos)) :
    TablasEn aMedias (antes ++ despues) suspendidos' top := by
  have hpp := (List.pairwise_cons.mp (List.pairwise_append.mp h.sombra).2.1).1
  have hresto : ∀ q ∈ antes ++ despues,
      q ∈ antes ++ p :: despues ∧ (q.pid = p.pid → q.segmentos = []) := by
    intro q hq
    rcases List.mem_append.mp hq with hq | hq
    · exact ⟨by simp [hq], fun hqpid ↦ absurd hqpid (hantes q hq)⟩
    · exact ⟨by simp [hq], fun hqpid ↦ hpp q hq hqpid.symm⟩
  refine ⟨fun q hq hno seg hseg ↦ ?_, fun q hq hsusp seg hseg ↦ ?_, ?_⟩
  · obtain ⟨hqp, hvacio⟩ := hresto q hq
    by_cases hqpid : q.pid = p.pid
    · rw [hvacio hqpid] at hseg
      cases hseg
    · exact h.activo q hqp (fun hs ↦ hno ((hotros _ hqpid).mpr hs)) seg hseg
  · obtain ⟨hqp, hvacio⟩ := hresto q hq
    by_cases hqpid : q.pid = p.pid
    · rw [hvacio hqpid] at hseg
      cases hseg
    · exact h.suspendido q hqp ((hotros _ hqpid).mp hsusp) seg hseg
  · exact h.sombra.sublist ((List.Sublist.refl antes).append (List.sublist_cons_self _ _))

/-- Changing the table of the process that is found keeps the invariant, if the new table fits what
the process is from now on. All handlers that change a table go through this. -/
theorem TablasEn.modificar {procesos : List Proceso} {suspendidos' : List ℤ} {f : Proceso → Proceso}
    (h : TablasEn aMedias procesos suspendidos top) (hp : procesosBuscar procesos pid = some p)
    (hf : (f p).pid = p.pid) (hotros : ∀ q, q ≠ pid → (q ∈ suspendidos' ↔ q ∈ suspendidos))
    (hactivo : pid ∉ suspendidos' →
      ∀ seg ∈ (f p).segmentos, seg.base.toNat + seg.limite.toNat ≤ top)
    (hsuspendido : pid ∈ suspendidos' → ∀ seg ∈ (f p).segmentos, seg.Residente →
      aMedias ∧ seg.base.toNat + seg.limite.toNat ≤ top) :
    TablasEn aMedias (procesosModificar pid f procesos) suspendidos' top := by
  obtain ⟨antes, despues, rfl, rfl, hantes, hmod, _⟩ := procesosBuscar_split hp
  have hresto := h.resto hantes hotros
  obtain ⟨hpantes, hpcola, hpcruce⟩ := List.pairwise_append.mp h.sombra
  obtain ⟨hpp, hpdespues⟩ := List.pairwise_cons.mp hpcola
  have hmem : ∀ q ∈ antes ++ f p :: despues, q = f p ∨ q ∈ antes ++ despues := by
    intro q hq
    simp only [List.mem_append, List.mem_cons] at hq ⊢
    tauto
  rw [hmod]
  refine ⟨fun q hq hno seg hseg ↦ ?_, fun q hq hsusp seg hseg ↦ ?_, ?_⟩
  · rcases hmem q hq with rfl | hq
    · rw [hf] at hno
      exact hactivo hno seg hseg
    · exact hresto.activo q hq hno seg hseg
  · rcases hmem q hq with rfl | hq
    · rw [hf] at hsusp
      exact hsuspendido hsusp seg hseg
    · exact hresto.suspendido q hq hsusp seg hseg
  · refine List.pairwise_append.mpr ⟨hpantes, List.pairwise_cons.mpr ⟨?_, hpdespues⟩, ?_⟩
    · rw [hf]
      exact hpp
    · intro a ha b hb hab
      rcases List.mem_cons.mp hb with rfl | hb
      · rw [hf] at hab
        exact absurd hab (hantes a ha)
      · exact hpcruce a ha b (List.mem_cons_of_mem _ hb) hab

theorem TablasEn.quitar {procesos : List Proceso} {suspendidos' : List ℤ}
    (h : TablasEn aMedias procesos suspendidos top) (hp : procesosBuscar procesos pid = some p)
    (hotros : ∀ q, q ≠ pid → (q ∈ suspendidos' ↔ q ∈ suspendidos)) :
    TablasEn aMedias (procesosQuitar pid procesos) suspendidos' top := by
  obtain ⟨antes, despues, rfl, rfl, hantes, _, hquitar⟩ := procesosBuscar_split hp
  rw [hquitar]
  exact h.resto hantes hotros

/-- A new process starts with an empty table. -/
theorem TablasEn.crear {procesos : List Proceso} (h : TablasEn aMedias procesos suspendidos top)
    {nuevo : Proceso} (hnuevo : nuevo.segmentos = []) :
    TablasEn aMedias (procesos ++ [nuevo]) suspendidos top := by
  refine ⟨fun q hq hno seg hseg ↦ ?_, fun q hq hsusp seg hseg ↦ ?_, ?_⟩
  · rcases List.mem_append.mp hq with hq | hq
    · exact h.activo q hq hno seg hseg
    · rw [List.mem_singleton.mp hq, hnuevo] at hseg
      cases hseg
  · rcases List.mem_append.mp hq with hq | hq
    · exact h.suspendido q hq hsusp seg hseg
    · rw [List.mem_singleton.mp hq, hnuevo] at hseg
      cases hseg
  · refine List.pairwise_append.mpr ⟨h.sombra, List.pairwise_singleton _ _, fun a _ b hb _ ↦ ?_⟩
    rw [List.mem_singleton.mp hb]
    exact hnuevo

/-! ## Compaction -/

/-- A segment after compaction: moved when it was in RAM, untouched otherwise. -/
def Reubicado (top : ℕ) (seg seg' : Segmento) : Prop :=
  ¬ seg.Residente ∧ seg' = seg ∨
    seg.Residente ∧ ∃ base : UInt32, seg' = { seg with base := base } ∧
      base.toNat + seg.limite.toNat ≤ top

/-- What relates the segments of each place before and after a compaction relates the tables. -/
theorem Compactada.forall₂ {m' : KernelMemory} (hc : Compactada m m') {R : Segmento → Segmento → Prop}
    (hR : ∀ proc idx seg seg', segmentoEn m.procesos proc idx = some seg →
      segmentoEn m'.procesos proc idx = some seg' → R seg seg') :
    List.Forall₂ (fun p p' ↦ p'.pid = p.pid ∧ List.Forall₂ R p.segmentos p'.segmentos)
      m.procesos m'.procesos := by
  have hlargo := congrArg List.length hc.tablas
  simp only [List.length_map] at hlargo
  apply Pointwise.forall₂_of_getElem? hlargo.symm
  intro i p p' hp hp'
  have hsin : p'.sinBases = p.sinBases := by
    have hi := congrArg (fun l ↦ l[i]?) hc.tablas
    simpa only [List.getElem?_map, hp, hp', Option.map_some, Option.some.injEq] using hi
  refine ⟨by simpa using congrArg Proceso.pid hsin, ?_⟩
  have hlargo := congrArg (fun q ↦ q.segmentos.length) hsin
  simp only [Proceso.sinBases, List.length_map] at hlargo
  apply Pointwise.forall₂_of_getElem? hlargo.symm
  intro j seg seg' hseg hseg'
  apply hR i j
  · simp only [segmentoEn, hp, Option.bind_some, hseg]
  · simp only [segmentoEn, hp', Option.bind_some, hseg']

/-- The tables after compaction, process by process and segment by segment. -/
theorem Compactada.reubicados {m' : KernelMemory} (hc : Compactada m m') :
    List.Forall₂ (fun p p' ↦ p'.pid = p.pid ∧
      List.Forall₂ (Reubicado (bytesResidentes m.procesos)) p.segmentos p'.segmentos)
      m.procesos m'.procesos := by
  apply hc.forall₂
  intro i j seg seg' hget hget'
  by_cases hres : seg.Residente
  · obtain ⟨base, hnuevo, hfin⟩ := hc.movido i j seg hget hres
    exact Or.inr ⟨hres, base, Option.some.inj (hget'.symm.trans hnuevo), hfin⟩
  · exact Or.inl ⟨hres, Option.some.inj (hget'.symm.trans (hc.suspendido i j seg hget hres))⟩

/-- Compaction finds every process where it was. -/
theorem Compactada.encontrado {m' : KernelMemory} (hc : Compactada m m')
    (hp : procesosBuscar m.procesos pid = some p) :
    ∃ p', procesosBuscar m'.procesos pid = some p' ∧
      List.Forall₂ (Reubicado (bytesResidentes m.procesos)) p.segmentos p'.segmentos := by
  obtain ⟨p', hp', _, hsegs⟩ := Pointwise.find?_of_forall₂ (g := fun q ↦ q.pid = pid)
    hc.reubicados (fun q q' hq ↦ by rw [hq.1]) hp
  exact ⟨p', hp', hsegs⟩

theorem Compactada.tablasEn {m' : KernelMemory} (hc : Compactada m m')
    (h : TablasEn aMedias m.procesos suspendidos top) (hcabe : bytesResidentes m.procesos ≤ top) :
    TablasEn aMedias m'.procesos suspendidos top := by
  refine ⟨fun p' hp' hno seg' hseg' ↦ ?_, fun p' hp' hsusp seg' hseg' hres' ↦ ?_, ?_⟩
  · obtain ⟨p, hp, hpid, hsegs⟩ := Pointwise.exists_of_mem_right hc.reubicados hp'
    obtain ⟨seg, hseg, hcaso⟩ := Pointwise.exists_of_mem_right hsegs hseg'
    rw [hpid] at hno
    rcases hcaso with ⟨_, rfl⟩ | ⟨_, base, rfl, hfin⟩
    · exact h.activo p hp hno seg' hseg
    · exact hfin.trans hcabe
  · obtain ⟨p, hp, hpid, hsegs⟩ := Pointwise.exists_of_mem_right hc.reubicados hp'
    obtain ⟨seg, hseg, hcaso⟩ := Pointwise.exists_of_mem_right hsegs hseg'
    rw [hpid] at hsusp
    rcases hcaso with ⟨hno, rfl⟩ | ⟨hres, base, rfl, hfin⟩
    · exact absurd hres' hno
    · exact ⟨(h.suspendido p hp hsusp seg hseg hres).1, hfin.trans hcabe⟩
  · have hvista : ∀ l : List Proceso, (l.Pairwise fun p q ↦ p.pid = q.pid → q.segmentos = []) ↔
        (l.map Proceso.sinBases).Pairwise fun p q ↦ p.pid = q.pid → q.segmentos = [] := by
      intro l
      simp [List.pairwise_map, Proceso.sinBases]
    rw [hvista, hc.tablas, ← hvista]
    exact h.sombra

/-- Compaction leaves a partition, even where memory had been lost, if there is a segment. -/
theorem Compactada.particion {m' : KernelMemory} (hc : Compactada m m')
    (hex : ∃ p ∈ m.procesos, p.segmentos ≠ []) (hcabe : bytesResidentes m.procesos ≤ m.ram.total) :
    Partition m'.ocupacion m.ram.total := by
  have hram := m.ram.total_lt
  have hbytes : (UInt32.ofNat (bytesResidentes m.procesos)).toNat = bytesResidentes m.procesos :=
    UInt32.toNat_ofNat_of_lt' (by show _ < 2 ^ 32; omega)
  have hresto : (UInt32.ofNat (m.ram.total - bytesResidentes m.procesos)).toNat =
      m.ram.total - bytesResidentes m.procesos :=
    UInt32.toNat_ofNat_of_lt' (by show _ < 2 ^ 32; omega)
  refine ⟨fun address ↦ ?_, ?_⟩
  · rw [KernelMemory.hits_ocupacion, hc.libres hex, rangosLibres_bloquesResetAUnico, hc.ocupa,
      hbytes, hresto]
    simp only [hits_cons, hits_nil]
    split_ifs <;> simp only [Contains] at * <;> omega
  · refine (KernelMemory.within_ocupacion _ _).mpr ⟨?_, ?_⟩
    · rw [hc.libres hex]
      exact within_bloquesResetAUnico (by omega)
    · rw [within_rangosResidentes]
      intro p' hp'
      obtain ⟨p, _, _, hsegs⟩ := Pointwise.exists_of_mem_right hc.reubicados hp'
      refine within_rangosSegmentos fun seg' hseg' hres' ↦ ?_
      obtain ⟨seg, _, hcaso⟩ := Pointwise.exists_of_mem_right hsegs hseg'
      rcases hcaso with ⟨hno, rfl⟩ | ⟨_, base, rfl, hfin⟩
      · exact absurd hres' hno
      · exact hfin.trans hcabe

end

end PlugAndPlay.Memoria
