import PlugAndPlay.Library.Transitions
import PlugAndPlay.Memoria.CompactacionPreserva
import PlugAndPlay.Memoria.Cpu
import PlugAndPlay.Memoria.HiloScheduler

/-!
# Contexts that CPUs hold

A CPU works on a copy of the context of its process and sends the whole copy back. The segment table
in it is the one of the moment it was asked for, so a write-back undoes what the scheduler thread
did to the table in between. It is harmless exactly as long as nothing was done in between.
-/

open PlugAndPlay.Library

namespace PlugAndPlay.Memoria

/-- The scheduler thread, the contexts that CPUs hold, and the segment table that the scheduler
thread last gave each process: it says where the bytes were last placed. -/
structure HilosCpu where
  scheduler : HiloScheduler
  copias : List Contexto
  colocados : ℤ → Option (List Segmento)

/-- The sections of the scheduler thread and of the threads that serve the CPUs. A CPU leaves its
process with a write-back of the copy, in which it changed only registers, or without one when it
could not fetch an instruction. -/
inductive EventoCpu
  | scheduler (seccion : Seccion)
  | obtenerContexto (pid : ℤ)
  | actualizarContexto (copia : ℕ) (registros : Registros)
  | soltarContexto (copia : ℕ)
deriving Repr, DecidableEq

/-- The tables as the scheduler thread leaves them. A table it did not change counts as placed when
it was last changed. -/
def colocar (colocados : ℤ → Option (List Segmento)) (antes despues : KernelMemory) (pid : ℤ) :
    Option (List Segmento) :=
  if tablaDe despues.procesos pid = tablaDe antes.procesos pid then colocados pid
  else tablaDe despues.procesos pid

def HilosCpu.paso (qsort : Qsort) (s : HilosCpu) : EventoCpu → Option HilosCpu
  | .scheduler seccion =>
    (s.scheduler.paso qsort seccion).map fun h ↦
      { s with scheduler := h, colocados := colocar s.colocados s.scheduler.memoria h.memoria }
  | .obtenerContexto pid =>
    (manejarObtenerContextoCpu s.scheduler.memoria pid).map fun ctx ↦
      { s with copias := s.copias ++ [ctx] }
  | .actualizarContexto copia registros =>
    s.copias[copia]?.map fun ctx ↦
      { s with
        scheduler := { s.scheduler with
          memoria := manejarActualizarContextoCpu s.scheduler.memoria
            { ctx with registros := registros } }
        copias := s.copias.eraseIdx copia }
  | .soltarContexto copia => s.copias[copia]?.map fun _ ↦ { s with copias := s.copias.eraseIdx copia }

/-- Any memory, before the first CPU asks for a context. -/
def HilosCpu.Inicial (s : HilosCpu) : Prop :=
  s.scheduler.fase = .libre ∧ s.copias = [] ∧ s.colocados = tablaDe s.scheduler.memoria.procesos

/-- The recorded base of each resident segment is the one it was last placed at. -/
def HilosCpu.BasesVigentes (s : HilosCpu) : Prop :=
  ∀ (pid : ℤ) (segmentos : List Segmento) (idx : ℕ) (seg : Segmento),
    tablaDe s.scheduler.memoria.procesos pid = some segmentos → segmentos[idx]? = some seg →
      seg.Residente → ∃ colocada, s.colocados pid = some colocada ∧
        (colocada[idx]?.map Segmento.base) = some seg.base

/-- No CPU holds a context whose segment table the step may change. -/
def HilosCpu.SinCopias (s : HilosCpu) : EventoCpu → Prop
  | .scheduler seccion =>
    ∀ ctx ∈ s.copias, seccion.Respeta s.scheduler.fase ctx.pid ctx.tablaSegmentos
  | _ => True

instance (s : HilosCpu) : (e : EventoCpu) → Decidable (s.SinCopias e)
  | .scheduler _ => inferInstanceAs (Decidable (∀ _ ∈ _, _))
  | .obtenerContexto _ | .actualizarContexto _ _ | .soltarContexto _ =>
    inferInstanceAs (Decidable True)

/-- Tables and copies agree. -/
structure HilosCpu.Coherente (s : HilosCpu) : Prop where
  tablas : ∀ pid, tablaDe s.scheduler.memoria.procesos pid = s.colocados pid
  copias : ∀ ctx ∈ s.copias, tablaDe s.scheduler.memoria.procesos ctx.pid = some ctx.tablaSegmentos

theorem HilosCpu.Coherente.basesVigentes {s : HilosCpu} (h : s.Coherente) : s.BasesVigentes := by
  intro pid segmentos idx seg htabla hseg _
  refine ⟨segmentos, ?_, by rw [hseg]; rfl⟩
  rw [← h.tablas pid]
  exact htabla

/-- Writing a copy back that is still what is recorded changes no table. -/
theorem tablaDe_actualizarContexto {m : KernelMemory} {ctx : Contexto} (registros : Registros)
    (h : tablaDe m.procesos ctx.pid = some ctx.tablaSegmentos) (pid : ℤ) :
    tablaDe (manejarActualizarContextoCpu m { ctx with registros := registros }).procesos pid =
      tablaDe m.procesos pid := by
  by_cases hpid : pid = ctx.pid
  · obtain ⟨p, hp, _⟩ := tablaDe_eq_some.mp h
    rw [hpid, h]
    exact tablaDe_eq_some.mpr ⟨_, procesosBuscar_mismo hp fun _ ↦ rfl, rfl⟩
  · exact tablaDe_otro hpid fun _ ↦ rfl

theorem HilosCpu.Coherente.paso {qsort : Qsort} {s s' : HilosCpu} {e : EventoCpu} (h : s.Coherente)
    (hsin : s.SinCopias e) (hpaso : s.paso qsort e = some s') : s'.Coherente := by
  cases e with
  | scheduler seccion =>
    obtain ⟨t, ht, rfl⟩ := Option.map_eq_some_iff.mp hpaso
    refine ⟨fun pid ↦ ?_, fun ctx hctx ↦ ?_⟩
    · show _ = colocar s.colocados s.scheduler.memoria t.memoria pid
      unfold colocar
      split
      · rename_i higual
        rw [higual, h.tablas pid]
      · rfl
    · exact (HiloScheduler.paso_cases ht).tabla (h.copias ctx hctx) (hsin ctx hctx)
  | obtenerContexto pid =>
    obtain ⟨ctx, hctx, rfl⟩ := Option.map_eq_some_iff.mp hpaso
    obtain ⟨p, hp, rfl⟩ := Option.map_eq_some_iff.mp hctx
    refine ⟨h.tablas, fun otro hotro ↦ ?_⟩
    rcases List.mem_append.mp hotro with hotro | hotro
    · exact h.copias otro hotro
    · rw [List.mem_singleton.mp hotro]
      exact tablaDe_eq_some.mpr ⟨p, hp, rfl⟩
  | actualizarContexto copia registros =>
    obtain ⟨ctx, hctx, rfl⟩ := Option.map_eq_some_iff.mp hpaso
    have hmisma := tablaDe_actualizarContexto registros (h.copias ctx (List.mem_of_getElem? hctx))
    refine ⟨fun pid ↦ ?_, fun otro hotro ↦ ?_⟩
    · exact (hmisma pid).trans (h.tablas pid)
    · exact (hmisma otro.pid).trans (h.copias otro (List.mem_of_mem_eraseIdx hotro))
  | soltarContexto copia =>
    obtain ⟨ctx, hctx, rfl⟩ := Option.map_eq_some_iff.mp hpaso
    exact ⟨h.tablas, fun otro hotro ↦ h.copias otro (List.mem_of_mem_eraseIdx hotro)⟩

/-- In every run in which the scheduler thread changes the table of a process only while no CPU
holds a copy of it, each recorded base is the one the segment was last placed at: no write-back
brings an older one back. -/
theorem bases_vigentes (qsort : Qsort) (s : HilosCpu)
    (h : Reachable (HilosCpu.paso qsort) HilosCpu.Inicial HilosCpu.SinCopias s) :
    s.BasesVigentes := by
  have hcoherente : s.Coherente := by
    apply h.invariant (P := HilosCpu.Coherente)
    · rintro t ⟨_, hcopias, hcolocados⟩
      refine ⟨fun pid ↦ by rw [hcolocados], ?_⟩
      rw [hcopias]
      exact List.forall_mem_nil _
    · intro t e t' ht hsin hpaso
      exact ht.paso hsin hpaso
  exact hcoherente.basesVigentes

/-- Two processes of which the second has one segment behind a hole of three bytes, and three more
bytes are free at the end. -/
def memoriaConHueco : KernelMemory where
  config := ⟨16, none⟩
  procesos := [⟨1, .cero, [], []⟩, ⟨2, .cero, [⟨0, 3, 2, 0⟩], []⟩]
  bloquesLibres := [⟨0, 3⟩, ⟨5, 3⟩]
  ram := ⟨[⟨4, 8, "", "", 0, 5, fun _ ↦ 0⟩], [], 0⟩
  swap := .desconectado

def hilosConHueco : HilosCpu where
  scheduler := ⟨memoriaConHueco, .libre⟩
  copias := []
  colocados := tablaDe memoriaConHueco.procesos

theorem hilosConHueco_inicial : hilosConHueco.Inicial := ⟨rfl, rfl, rfl⟩

theorem bases_vigentes_conHueco :
    ∃ s : HilosCpu, tablaDe s.scheduler.memoria.procesos 2 = some [⟨0, 0, 2, 0⟩] ∧
      s.BasesVigentes := by
  have hinicio : Reachable (HilosCpu.paso .insercion) HilosCpu.Inicial HilosCpu.SinCopias
      hilosConHueco := .start hilosConHueco_inicial
  -- the CPU returns the process before the compaction and gets it again behind it
  obtain ⟨s, hs, htabla⟩ := hinicio.exists_of_runAllowed
    [.obtenerContexto 2, .actualizarContexto 0 .cero, .scheduler (.solicitarSegmento 1 0 5),
      .scheduler .compactar, .scheduler .reasignar, .obtenerContexto 2,
      .actualizarContexto 0 { Registros.cero with pc := 1 }]
    (fun s ↦ tablaDe s.scheduler.memoria.procesos 2 = some [⟨0, 0, 2, 0⟩]) (by decide)
  exact ⟨s, htabla, bases_vigentes .insercion s hs⟩

/-- A context that a CPU holds while memory is compacted: its write-back puts the old base back, in
the middle of the segment another process was given meanwhile. -/
theorem actualizarContexto_base_vieja :
    ¬ ∀ (qsort : Qsort) (s : HilosCpu),
      Reachable (HilosCpu.paso qsort) HilosCpu.Inicial (fun _ _ ↦ True) s → s.BasesVigentes := by
  intro hclaim
  have hinicio : Reachable (HilosCpu.paso .insercion) HilosCpu.Inicial (fun _ _ ↦ True)
      hilosConHueco := .start hilosConHueco_inicial
  obtain ⟨s, hs, htabla, hotra, hcolocada⟩ := hinicio.exists_of_runAllowed
    [.obtenerContexto 2, .scheduler (.solicitarSegmento 1 0 5), .scheduler .compactar,
      .scheduler .reasignar, .actualizarContexto 0 .cero]
    (fun s ↦ tablaDe s.scheduler.memoria.procesos 2 = some [⟨0, 3, 2, 0⟩] ∧
      tablaDe s.scheduler.memoria.procesos 1 = some [⟨0, 2, 5, 0⟩] ∧
      s.colocados 2 = some [⟨0, 0, 2, 0⟩]) (by decide)
  obtain ⟨colocada, hcolocada', hbase⟩ := hclaim .insercion s hs 2 _ 0 _ htabla rfl (by decide)
  obtain rfl := Option.some.inj (hcolocada.symm.trans hcolocada')
  exact absurd hbase (by decide)

end PlugAndPlay.Memoria
