import PlugAndPlay.Library.ByteRange
import PlugAndPlay.Memoria.Tipos

/-!
# Processes and their segment tables

`memory_procesos.c`: the list of processes, the wholesale replacement of a context by a CPU's copy,
and the translation of logical addresses. Every operation works on the first process with the pid
it is given. The second half counts, for every address, the resident segments that contain it.
-/

open PlugAndPlay.Library

namespace PlugAndPlay.Memoria

/-! ## The code -/

/-- The context a CPU holds and sends back, `t_contexto`. -/
structure Contexto where
  pid : ℤ
  registros : Registros
  tablaSegmentos : List Segmento
deriving Repr, DecidableEq

/-- `procesos_buscar`: the first process with the pid. -/
def procesosBuscar (procesos : List Proceso) (pid : ℤ) : Option Proceso :=
  procesos.find? fun p ↦ p.pid = pid

/-- A change of the process that `procesos_buscar` finds, made through its pointer. -/
def procesosModificar (pid : ℤ) (f : Proceso → Proceso) : List Proceso → List Proceso
  | [] => []
  | p :: resto => if p.pid = pid then f p :: resto else p :: procesosModificar pid f resto

/-- `procesos_quitar_en` at the first process with the pid. -/
def procesosQuitar (pid : ℤ) : List Proceso → List Proceso
  | [] => []
  | p :: resto => if p.pid = pid then resto else p :: procesosQuitar pid resto

/-- `actualizar_proceso_desde_contexto`: registers and the whole segment table. -/
def actualizarProcesoDesdeContexto (proc : Proceso) (ctx : Contexto) : Proceso :=
  { proc with registros := ctx.registros, segmentos := ctx.tablaSegmentos }

/-- `traducir_dir_logica`: the physical address it returns, or nothing when it answers the
requester with a segmentation fault itself and returns `sinBase`. -/
def traducirDirLogica (config : ConfigMemory) (proc : Proceso) (dirLogica tamanio : UInt32) :
    Option UInt32 :=
  let numSeg := dirLogica / config.segmentMaxSize.toUInt32
  let desplazamiento := dirLogica % config.segmentMaxSize.toUInt32
  match proc.segmentos.find? fun s ↦ s.id = numSeg with
  | none => none
  | some seg =>
    if desplazamiento + tamanio > seg.limite then none
    else if seg.base = sinBase then none
    else some (seg.base + desplazamiento)

/-! ## The process an operation works on -/

/-- Where the process with a pid stands, and what changing or removing it does to the list. -/
theorem procesosBuscar_split {procesos : List Proceso} {pid : ℤ} {p : Proceso}
    (h : procesosBuscar procesos pid = some p) :
    ∃ antes despues, procesos = antes ++ p :: despues ∧ p.pid = pid ∧
      (∀ q ∈ antes, q.pid ≠ pid) ∧
      (∀ f, procesosModificar pid f procesos = antes ++ f p :: despues) ∧
      procesosQuitar pid procesos = antes ++ despues := by
  induction procesos with
  | nil => cases h
  | cons q resto ih =>
    by_cases hq : q.pid = pid
    · have hpq : q = p := by simpa [procesosBuscar, hq] using h
      subst hpq
      exact ⟨[], resto, rfl, hq, by simp, by simp [procesosModificar, hq], by simp [procesosQuitar, hq]⟩
    · have hresto : procesosBuscar resto pid = some p := by
        simpa [procesosBuscar, List.find?_cons, hq] using h
      obtain ⟨antes, despues, heq, hpid, hantes, hmod, hquitar⟩ := ih hresto
      refine ⟨q :: antes, despues, by rw [heq]; rfl, hpid, ?_, fun f ↦ ?_, ?_⟩
      · exact List.forall_mem_cons.mpr ⟨hq, hantes⟩
      · simp [procesosModificar, hq, hmod f]
      · simp [procesosQuitar, hq, hquitar]

theorem procesosBuscar_pid {procesos : List Proceso} {pid : ℤ} {p : Proceso}
    (h : procesosBuscar procesos pid = some p) : p.pid = pid := by
  simpa using List.find?_some h

theorem procesosBuscar_mem {procesos : List Proceso} {pid : ℤ} {p : Proceso}
    (h : procesosBuscar procesos pid = some p) : p ∈ procesos :=
  List.mem_of_find?_eq_some h

/-- The table of the process that `procesos_buscar` finds; no process has none. -/
def tablaDe (procesos : List Proceso) (pid : ℤ) : Option (List Segmento) :=
  (procesosBuscar procesos pid).map Proceso.segmentos

theorem procesosBuscar_modificar {procesos : List Proceso} {pid otro : ℤ} {f : Proceso → Proceso}
    (hf : ∀ p, (f p).pid = p.pid) :
    procesosBuscar (procesosModificar pid f procesos) otro =
      if otro = pid then (procesosBuscar procesos otro).map f else procesosBuscar procesos otro := by
  induction procesos with
  | nil => simp [procesosBuscar, procesosModificar]
  | cons q resto ih =>
    unfold procesosBuscar at ih ⊢
    by_cases hq : q.pid = pid <;> by_cases hotro : otro = pid
    · subst hotro
      simp [procesosModificar, hf, hq]
    · have hne : ¬ q.pid = otro := fun h ↦ hotro (h.symm.trans hq)
      simp [procesosModificar, hf, hq, hotro, Ne.symm hotro]
    · subst hotro
      simpa [procesosModificar, List.find?_cons, hq] using ih
    · rw [if_neg hotro] at ih ⊢
      simp only [procesosModificar, hq, if_false, List.find?_cons, ih]

theorem procesosBuscar_otro {procesos : List Proceso} {pid otro : ℤ} {p : Proceso}
    {f : Proceso → Proceso} (hp : procesosBuscar procesos pid = some p) (hotro : pid ≠ otro)
    (hf : ∀ q, (f q).pid = q.pid) : procesosBuscar (procesosModificar otro f procesos) pid = some p := by
  rw [procesosBuscar_modificar hf, if_neg hotro]
  exact hp

theorem procesosBuscar_mismo {procesos : List Proceso} {pid : ℤ} {p : Proceso}
    {f : Proceso → Proceso} (hp : procesosBuscar procesos pid = some p)
    (hf : ∀ q, (f q).pid = q.pid) :
    procesosBuscar (procesosModificar pid f procesos) pid = some (f p) := by
  rw [procesosBuscar_modificar hf, if_pos rfl, hp]
  rfl

theorem procesosBuscar_quitar {procesos : List Proceso} {pid otro : ℤ} (hotro : pid ≠ otro) :
    procesosBuscar (procesosQuitar otro procesos) pid = procesosBuscar procesos pid := by
  induction procesos with
  | nil => rfl
  | cons q resto ih =>
    unfold procesosBuscar at ih ⊢
    by_cases hq : q.pid = otro
    · simp [procesosQuitar, hq, Ne.symm hotro]
    · simp only [procesosQuitar, hq, if_false, List.find?_cons, ih]

theorem tablaDe_eq_some {procesos : List Proceso} {pid : ℤ} {segmentos : List Segmento} :
    tablaDe procesos pid = some segmentos ↔
      ∃ p, procesosBuscar procesos pid = some p ∧ p.segmentos = segmentos :=
  Option.map_eq_some_iff

theorem tablaDe_otro {procesos : List Proceso} {pid otro : ℤ} {f : Proceso → Proceso}
    (hotro : pid ≠ otro) (hf : ∀ q, (f q).pid = q.pid) :
    tablaDe (procesosModificar otro f procesos) pid = tablaDe procesos pid := by
  rw [tablaDe, procesosBuscar_modificar hf, if_neg hotro, tablaDe]

theorem tablaDe_quitar {procesos : List Proceso} {pid otro : ℤ} (hotro : pid ≠ otro) :
    tablaDe (procesosQuitar otro procesos) pid = tablaDe procesos pid := by
  rw [tablaDe, procesosBuscar_quitar hotro, tablaDe]

/-! ## The ranges of resident segments -/

def Segmento.rango (seg : Segmento) : ByteRange := ⟨seg.base.toNat, seg.limite.toNat⟩

/-- The ranges the resident ones among the segments occupy. -/
def rangosSegmentos (segmentos : List Segmento) : List ByteRange :=
  (segmentos.filter fun s ↦ s.Residente).map Segmento.rango

/-- The ranges all resident segments of all processes occupy. -/
def rangosResidentes (procesos : List Proceso) : List ByteRange :=
  procesos.flatMap fun p ↦ rangosSegmentos p.segmentos

@[simp] theorem rangosSegmentos_nil : rangosSegmentos [] = [] := rfl

theorem rangosSegmentos_cons (seg : Segmento) (segmentos : List Segmento) :
    rangosSegmentos (seg :: segmentos) =
      (if seg.Residente then [seg.rango] else []) ++ rangosSegmentos segmentos := by
  by_cases h : seg.Residente <;> simp [rangosSegmentos, h]

@[simp] theorem rangosSegmentos_append (segmentos otros : List Segmento) :
    rangosSegmentos (segmentos ++ otros) = rangosSegmentos segmentos ++ rangosSegmentos otros := by
  simp [rangosSegmentos]

@[simp] theorem rangosResidentes_nil : rangosResidentes [] = [] := rfl

@[simp] theorem rangosResidentes_cons (p : Proceso) (procesos : List Proceso) :
    rangosResidentes (p :: procesos) = rangosSegmentos p.segmentos ++ rangosResidentes procesos := by
  simp [rangosResidentes]

@[simp] theorem rangosResidentes_append (procesos otros : List Proceso) :
    rangosResidentes (procesos ++ otros) = rangosResidentes procesos ++ rangosResidentes otros := by
  simp [rangosResidentes]

theorem mem_rangosResidentes {procesos : List Proceso} {p : Proceso} {seg : Segmento}
    (hp : p ∈ procesos) (hseg : seg ∈ p.segmentos) (hres : seg.Residente) :
    seg.rango ∈ rangosResidentes procesos := by
  simp only [rangosResidentes, rangosSegmentos, List.mem_flatMap, List.mem_map, List.mem_filter,
    decide_eq_true_eq]
  exact ⟨p, hp, seg, ⟨hseg, hres⟩, rfl⟩

open ByteRange

/-- A segment that ends within 32 bits counts as its range whether or not its base is `sinBase`:
there it is empty. -/
theorem hits_rangosSegmentos_cons {seg : Segmento} {segmentos : List Segmento} {top : ℕ}
    (htop : top < 2 ^ 32) (hseg : seg.base.toNat + seg.limite.toNat ≤ top) (address : ℕ) :
    hits (rangosSegmentos (seg :: segmentos)) address =
      hits [seg.rango] address + hits (rangosSegmentos segmentos) address := by
  rw [rangosSegmentos_cons, hits_append]
  split
  · rfl
  · rename_i hres
    have hbase : seg.base = sinBase := not_not.mp hres
    have hlimite : seg.limite.toNat = 0 := by
      rw [hbase, toNat_sinBase] at hseg
      omega
    simp only [Segmento.rango, hlimite, hits_empty_range, hits_nil]

/-- Resident segments without bytes cover nothing. -/
theorem hits_rangosSegmentos_eq_zero {segmentos : List Segmento}
    (h : ∀ seg ∈ segmentos, seg.Residente → seg.limite = 0) (address : ℕ) :
    hits (rangosSegmentos segmentos) address = 0 := by
  rw [hits_eq_zero_iff]
  intro range hr
  obtain ⟨seg, hseg, rfl⟩ := List.mem_map.mp hr
  obtain ⟨hmem, hres⟩ := List.mem_filter.mp hseg
  have hlimite : seg.limite = 0 := h seg hmem (by simpa using hres)
  simp only [Contains, Segmento.rango, hlimite, UInt32.toNat_zero]
  omega

/-- Conversely, a resident segment with bytes covers its base. -/
theorem limite_eq_zero_of_hits {segmentos : List Segmento} {seg : Segmento}
    (h : hits (rangosSegmentos segmentos) seg.base.toNat = 0) (hseg : seg ∈ segmentos)
    (hres : seg.Residente) : seg.limite = 0 := by
  rw [hits_eq_zero_iff] at h
  have hrango : seg.rango ∈ rangosSegmentos segmentos :=
    List.mem_map_of_mem (List.mem_filter.mpr ⟨hseg, by simpa using hres⟩)
  have hno := h seg.rango hrango
  simp only [Contains, Segmento.rango, le_refl, true_and, not_lt] at hno
  apply UInt32.toNat_inj.mp
  rw [UInt32.toNat_zero]
  omega

theorem rangosSegmentos_perm {segmentos otros : List Segmento} (h : segmentos.Perm otros) :
    (rangosSegmentos segmentos).Perm (rangosSegmentos otros) :=
  (h.filter _).map _

theorem within_rangosSegmentos {segmentos : List Segmento} {top : ℕ}
    (h : ∀ seg ∈ segmentos, seg.Residente → seg.base.toNat + seg.limite.toNat ≤ top) :
    Within (rangosSegmentos segmentos) top := by
  intro range hr
  obtain ⟨seg, hseg, rfl⟩ := List.mem_map.mp hr
  obtain ⟨hmem, hres⟩ := List.mem_filter.mp hseg
  exact h seg hmem (by simpa using hres)

theorem within_rangosResidentes {procesos : List Proceso} {top : ℕ} :
    Within (rangosResidentes procesos) top ↔
      ∀ p ∈ procesos, Within (rangosSegmentos p.segmentos) top := by
  simp only [Within, rangosResidentes, List.mem_flatMap]
  constructor
  · intro h p hp range hr
    exact h range ⟨p, hp, hr⟩
  · rintro h range ⟨p, hp, hr⟩
    exact h p hp range hr

section Cambios

variable {procesos : List Proceso} {pid : ℤ} {p : Proceso} (h : procesosBuscar procesos pid = some p)
include h

/-- Changing one process exchanges the ranges of its old table for those of its new one. -/
theorem hits_procesosModificar (f : Proceso → Proceso) (address : ℕ) :
    hits (rangosResidentes (procesosModificar pid f procesos)) address +
        hits (rangosSegmentos p.segmentos) address =
      hits (rangosResidentes procesos) address + hits (rangosSegmentos (f p).segmentos) address := by
  obtain ⟨antes, despues, heq, _, _, hmod, _⟩ := procesosBuscar_split h
  rw [hmod, heq]
  simp only [rangosResidentes_append, rangosResidentes_cons, hits_append]
  omega

theorem hits_procesosQuitar (address : ℕ) :
    hits (rangosResidentes (procesosQuitar pid procesos)) address +
        hits (rangosSegmentos p.segmentos) address =
      hits (rangosResidentes procesos) address := by
  obtain ⟨antes, despues, heq, _, _, _, hquitar⟩ := procesosBuscar_split h
  rw [hquitar, heq]
  simp only [rangosResidentes_append, rangosResidentes_cons, hits_append]
  omega

end Cambios

end PlugAndPlay.Memoria
