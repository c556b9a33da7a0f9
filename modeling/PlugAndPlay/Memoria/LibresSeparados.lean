import PlugAndPlay.Library.RangeCount
import PlugAndPlay.Memoria.BloquesExactos
import PlugAndPlay.Memoria.ParticionOperaciones

/-!
# No contiguous free blocks in any state of a run

Every return of a range ends with the merge loop, every request takes the front of a block, and compaction
leaves one block. So no free block ends where another begins, and the free bytes of a run without gaps lie
in one block.
-/

open PlugAndPlay.Library ByteRange

namespace PlugAndPlay.Memoria

/-! ## Handlers that only give ranges back -/

/-- The free list was left alone, or a merge loop was the last to touch it. -/
def Mezclados (antes despues : List BloqueLibre) : Prop :=
  despues = antes ∨ primerContiguo despues = none

theorem Mezclados.refl (bloques : List BloqueLibre) : Mezclados bloques bloques := .inl rfl

theorem Mezclados.trans {antes medio despues : List BloqueLibre} (h : Mezclados antes medio)
    (h' : Mezclados medio despues) : Mezclados antes despues := by
  rcases h' with rfl | hfin
  · exact h
  · exact .inr hfin

theorem Mezclados.liberar (bloques : List BloqueLibre) (base tamanio : UInt32) :
    Mezclados bloques (bloquesLiberar bloques base tamanio) :=
  .inr (primerContiguo_fusionar _)

theorem Mezclados.liberarTodos {α : Type} (lista : List α) (base tamanio : α → UInt32) (libres : List BloqueLibre) :
    Mezclados libres (lista.foldl (fun libres a ↦ bloquesLiberar libres (base a) (tamanio a)) libres) := by
  induction lista generalizing libres with
  | nil => exact .refl libres
  | cons a lista ih => exact (Mezclados.liberar libres (base a) (tamanio a)).trans (ih _)

theorem Mezclados.liberarSegmentos (segmentos : List Segmento) (libres : List BloqueLibre) :
    Mezclados libres (liberarSegmentos segmentos libres) := by
  induction segmentos generalizing libres with
  | nil => exact .refl libres
  | cons seg resto ih =>
    by_cases hres : seg.Residente
    · have hpaso : Memoria.liberarSegmentos (seg :: resto) libres =
          Memoria.liberarSegmentos resto (bloquesLiberar libres seg.base seg.limite) := by
        simp only [Memoria.liberarSegmentos, List.foldl_cons, if_pos hres]
      rw [hpaso]
      exact (Mezclados.liberar libres seg.base seg.limite).trans (ih _)
    · have hpaso : Memoria.liberarSegmentos (seg :: resto) libres =
          Memoria.liberarSegmentos resto libres := by
        simp only [Memoria.liberarSegmentos, List.foldl_cons, if_neg hres]
      rw [hpaso]
      exact ih libres

theorem Mezclados.suspenderSegmentos {segmentos segmentos' : List Segmento} {m m' : KernelMemory}
    {fin : FinSuspension} (h : suspenderSegmentos segmentos m = (fin, segmentos', m')) :
    Mezclados m.bloquesLibres m'.bloquesLibres := by
  induction segmentos generalizing m fin segmentos' m' with
  | nil =>
    cases h
    exact .refl m.bloquesLibres
  | cons seg resto ih =>
    rcases suspenderSegmentos_cons_cases h with ⟨_, _, rfl⟩ | ⟨inicio, swap, _, _, hcaso⟩
    · exact .refl m'.bloquesLibres
    · have hdisp : ∀ seg m, SoloDispositivos m (volcarSegmentoASwap seg m).2 := fun seg m ↦
        volcarBloques_soloDispositivos seg _ 0 m
      have hvolcado := (hdisp { seg with swapBloqueInicio := inicio } { m with swap := swap }).libres
      rcases hcaso with ⟨_, _, hvolcar⟩ | ⟨m₁, resto', hvolcar, hresto, _⟩
      · rw [hvolcar] at hvolcado
        exact .inl hvolcado
      · rw [hvolcar] at hvolcado
        have hlibre := Mezclados.liberar m₁.bloquesLibres seg.base seg.limite
        have hcola := hlibre.trans (ih hresto)
        rw [hvolcado] at hcola
        exact hcola

theorem Mezclados.suspender (m : KernelMemory) (pid : ℤ) :
    Mezclados m.bloquesLibres (manejarSuspenderProceso m pid).2.bloquesLibres := by
  rw [manejarSuspenderProceso_snd]
  unfold suspenderProceso
  split
  · exact .refl m.bloquesLibres
  rename_i proc _
  split
  · exact .refl m.bloquesLibres
  · obtain ⟨fin, segmentos, m', hloop⟩ : ∃ fin segmentos m',
        Memoria.suspenderSegmentos proc.segmentos m = (fin, segmentos, m') := ⟨_, _, _, rfl⟩
    have hmezcla := Mezclados.suspenderSegmentos hloop
    rw [hloop]
    exact hmezcla

theorem Mezclados.registrar (m : KernelMemory) (stick : StickNuevo) (outSock : ℤ) :
    Mezclados m.bloquesLibres (registrarMemoryStick m stick outSock).bloquesLibres := by
  unfold registrarMemoryStick
  split
  · exact .refl m.bloquesLibres
  · rename_i idx base m' hinsertar
    have hlibres : m'.bloquesLibres = m.bloquesLibres := by
      unfold registrarInsertar at hinsertar
      split at hinsertar
      · cases hinsertar
      · cases hinsertar
        rfl
    have houtbound : ∀ m : KernelMemory, (registrarOutbound m idx outSock).bloquesLibres = m.bloquesLibres := by
      intro m
      unfold registrarOutbound
      split <;> rfl
    rw [houtbound, ← hlibres]
    exact .liberar m'.bloquesLibres base stick.tamanio

theorem Mezclados.eliminar (m : KernelMemory) (pid : ℤ) (id : UInt32) :
    Mezclados m.bloquesLibres (manejarEliminarSegmento m pid id).2.bloquesLibres := by
  unfold manejarEliminarSegmento
  split
  · exact .refl m.bloquesLibres
  split
  · exact .refl m.bloquesLibres
  · rename_i seg _
    exact .liberar m.bloquesLibres seg.base seg.limite

theorem Mezclados.finalizar (m : KernelMemory) (pid : ℤ) :
    Mezclados m.bloquesLibres (manejarFinalizarProceso m pid).2.bloquesLibres := by
  unfold manejarFinalizarProceso
  split
  · exact .refl m.bloquesLibres
  · rename_i proc _
    exact .liberarSegmentos proc.segmentos m.bloquesLibres

theorem Mezclados.separados {antes despues : List BloqueLibre} {top : ℕ} (h : Mezclados antes despues)
    (hantes : Separated (rangosLibres antes)) (htop : top < 2 ^ 32)
    (hw : Within (rangosLibres despues) top) : Separated (rangosLibres despues) := by
  rcases h with rfl | hfin
  · exact hantes
  · exact separated_of_primerContiguo htop hw hfin

/-! ## Handlers that take ranges -/

section

variable {fugas aMedias : Prop} {m : KernelMemory} {suspendidos : List ℤ} {top : ℕ}

theorem Repartida.hits_libres_le {apartados : List ByteRange} (h : Repartida fugas aMedias apartados m suspendidos)
    (address : ℕ) : hits (rangosLibres m.bloquesLibres) address ≤ 1 := by
  have huna := h.ocupacion.disjoint address
  rw [KernelMemory.hits_ocupacion] at huna
  omega

theorem Repartida.packed_libres {apartados : List ByteRange}
    (h : Repartida fugas aMedias apartados m suspendidos) :
    Packed (rangosLibres m.bloquesLibres) (sumaSticks m.ram.tabla) :=
  ⟨h.hits_libres_le, h.within_libres⟩

/-- Reservations take the front of one block after another. -/
theorem Separated.reservarSegmentos {libres : List BloqueLibre} (htop : top < 2 ^ 32)
    (hlibres : Packed (rangosLibres libres) top) (hsep : Separated (rangosLibres libres)) (worstFit : Bool)
    (segmentos : List Segmento) :
    Separated (rangosLibres (reservarSegmentos worstFit segmentos libres).2.2) := by
  induction segmentos generalizing libres with
  | nil => exact hsep
  | cons seg cola ih =>
    have hsep₁ := Separated.bloquesAsignar htop hlibres.within hlibres.disjoint hsep worstFit seg.limite
    obtain ⟨base, libres₁, hasignar⟩ : ∃ base libres₁,
        Memoria.bloquesAsignar worstFit libres seg.limite = (base, libres₁) := ⟨_, _, rfl⟩
    have hreparto := bloquesAsignar_reparto htop hlibres.within hasignar
    rw [hasignar] at hsep₁
    have hlibres₁ : Packed (rangosLibres libres₁) top := by
      apply Packed.mk ?_ hreparto.1
      intro address
      have huna := hlibres.disjoint address
      rcases hreparto.2 with ⟨_, hhits⟩ | ⟨_, _, hhits⟩
      · rw [hhits]
        exact huna
      · rw [hhits] at huna
        omega
    simp only [Memoria.reservarSegmentos, hasignar]
    split
    · exact hsep₁
    · exact ih hlibres₁ hsep₁

theorem separados_desSuspender {apartados : List ByteRange} {pid : ℤ}
    (h : Repartida fugas aMedias apartados m suspendidos)
    (hsep : Separated (rangosLibres m.bloquesLibres)) :
    Separated (rangosLibres (desSuspenderProceso m pid).2.bloquesLibres) := by
  unfold desSuspenderProceso
  split
  · exact hsep
  rename_i p _
  split
  · exact hsep
  obtain ⟨todo, reservas, libres, hreservar⟩ : ∃ todo reservas libres, reservarSegmentos m.config.worstFit
      p.segmentos m.bloquesLibres = (todo, reservas, libres) := ⟨_, _, _, rfl⟩
  have hreservado : Separated (rangosLibres libres) := by
    have hsep₁ := Separated.reservarSegmentos h.suma h.packed_libres hsep m.config.worstFit p.segmentos
    rw [hreservar] at hsep₁
    exact hsep₁
  have hrangos := reservarSegmentos_rangos h.suma h.within_libres hreservar
  cases todo with
  | true =>
    simp only [reservarSegmentosConRollback, hreservar]
    have hdisp := transferirSwapARam_soloDispositivos reservas
      (ponerSegmentos { m with bloquesLibres := libres } pid reservas)
    split
    · rename_i htransferir
      rw [htransferir] at hdisp
      rw [hdisp.libres]
      exact hreservado
    · rename_i htransferir
      rw [htransferir] at hdisp
      rw [hdisp.libres]
      exact hreservado
  | false =>
    simp only [reservarSegmentosConRollback, hreservar]
    apply (Mezclados.liberarTodos reservas Segmento.base Segmento.limite libres).separados hreservado h.suma
    exact (rollback_rangos h.suma hrangos.1 hrangos.2.1).1

theorem separados_bloquesResetAUnico (base tamanio : UInt32) :
    Separated (rangosLibres (bloquesResetAUnico base tamanio)) := by
  unfold bloquesResetAUnico
  split
  · intro range hr other ho hpos _ heq
    rw [rangosLibres_cons, rangosLibres_nil, List.mem_singleton] at hr ho
    subst hr ho
    omega
  · exact fun range hr ↦ absurd hr List.not_mem_nil

theorem Compactada.separados {m' : KernelMemory} (hc : Compactada m m')
    (hsep : Separated (rangosLibres m.bloquesLibres)) : Separated (rangosLibres m'.bloquesLibres) := by
  by_cases hex : ∃ p ∈ m.procesos, p.segmentos ≠ []
  · rw [hc.libres hex]
    exact separados_bloquesResetAUnico _ _
  · rw [hc.sinSegmentos hex]
    exact hsep

theorem Repartida.separados_asignar {apartados : List ByteRange}
    (h : Repartida fugas aMedias apartados m suspendidos) (hsep : Separated (rangosLibres m.bloquesLibres))
    {tamanio base : UInt32} {libres : List BloqueLibre}
    (hasignar : bloquesAsignar m.config.worstFit m.bloquesLibres tamanio = (base, libres)) :
    Separated (rangosLibres libres) := by
  have hsep₁ := Separated.bloquesAsignar h.suma h.within_libres h.hits_libres_le hsep m.config.worstFit tamanio
  rw [hasignar] at hsep₁
  exact hsep₁

theorem separados_solicitar {pid : ℤ} (h : Repartida fugas aMedias [] m suspendidos)
    (hsep : Separated (rangosLibres m.bloquesLibres)) (qsort : Qsort) (id tamanio : UInt32) :
    Separated (rangosLibres (manejarSolicitarSegmento qsort m pid id tamanio).2.bloquesLibres) := by
  obtain ⟨base, libres, hasignar⟩ : ∃ base libres,
      bloquesAsignar m.config.worstFit m.bloquesLibres tamanio = (base, libres) := ⟨_, _, rfl⟩
  have hlibres := h.separados_asignar hsep hasignar
  unfold manejarSolicitarSegmento
  split
  · rename_i respuesta m' hsolicitar
    unfold solicitarSinCompactar at hsolicitar
    split at hsolicitar
    · cases hsolicitar
      exact hsep
    split at hsolicitar
    · cases hsolicitar
      exact hsep
    simp only [hasignar] at hsolicitar
    split at hsolicitar
    · split at hsolicitar
      · cases hsolicitar
        exact hlibres
      · cases hsolicitar
    · cases hsolicitar
      exact hlibres
  · rename_i m₁ hsolicitar
    have h₁ := h.demorado hsolicitar
    obtain ⟨_, libres₁, _, hasignar₁, rfl⟩ := solicitarSinCompactar_none hsolicitar
    have hcompacta := (h₁.compactada qsort).separados (h.separados_asignar hsep hasignar₁)
    have h₂ := h₁.compactar (fun _ _ ↦ rfl) qsort
    obtain ⟨base₂, libres₂, hasignar₂⟩ : ∃ base libres, bloquesAsignar
        (compactarMemoria qsort { m with bloquesLibres := libres₁ }).config.worstFit
        (compactarMemoria qsort { m with bloquesLibres := libres₁ }).bloquesLibres tamanio = (base, libres) :=
      ⟨_, _, rfl⟩
    have hlibres₂ := h₂.separados_asignar hcompacta hasignar₂
    simp only [reasignar, hasignar₂]
    split
    · exact hlibres₂
    split <;> exact hlibres₂

end

/-! ## Runs -/

theorem Corrida.separados_paso {fugas aMedias : Prop} {qsort : Qsort} {c c' : Corrida} {op : Operacion}
    (h : Repartida fugas aMedias [] c.memoria c.suspendidos)
    (hsep : Separated (rangosLibres c.memoria.bloquesLibres))
    (h' : Repartida fugas aMedias [] c'.memoria c'.suspendidos) (hpaso : c.paso qsort op = some c') :
    Separated (rangosLibres c'.memoria.bloquesLibres) := by
  have hmezcla : ∀ libres, Mezclados c.memoria.bloquesLibres libres → c'.memoria.bloquesLibres = libres →
      Separated (rangosLibres c'.memoria.bloquesLibres) := by
    rintro libres hlibres rfl
    exact hlibres.separados hsep h'.suma h'.within_libres
  obtain ⟨_, rfl⟩ := Corrida.paso_eq_some hpaso
  cases op with
  | registrarMemoryStick stick outSock => exact hmezcla _ (.registrar c.memoria stick outSock) rfl
  | registrarSwap nuevo => exact hsep
  | crearProceso pid instrucciones => exact hsep
  | solicitarSegmento pid id tamanio => exact separados_solicitar h hsep qsort id tamanio
  | eliminarSegmento pid id => exact hmezcla _ (.eliminar c.memoria pid id) rfl
  | finalizarProceso pid => exact hmezcla _ (.finalizar c.memoria pid) rfl
  | suspenderProceso pid => exact hmezcla _ (.suspender c.memoria pid) rfl
  | desSuspenderProceso pid =>
    show Separated (rangosLibres (manejarDesSuspenderProceso c.memoria pid).2.bloquesLibres)
    rw [manejarDesSuspenderProceso_snd]
    exact separados_desSuspender h hsep
  | obtenerEspacioLibre => exact hsep
  | lecturaMemoria pid dir tamanio =>
    apply hmezcla _ (.refl _)
    exact (manejarLecturaMemoria_soloDispositivos c.memoria pid dir tamanio).libres
  | escrituraMemoria pid dir tamanio datos =>
    apply hmezcla _ (.refl _)
    exact (manejarEscrituraMemoria_soloDispositivos c.memoria pid dir tamanio datos).libres

/-- A partition whose free blocks are not contiguous. -/
structure Corrida.Ordenada (c : Corrida) : Prop where
  repartida : Repartida False False [] c.memoria c.suspendidos
  separados : Separated (rangosLibres c.memoria.bloquesLibres)

theorem Corrida.Ordenada.paso {qsort : Qsort} {c c' : Corrida} {op : Operacion} (h : c.Ordenada)
    (hmedias : c.SinMedias op) (hpaso : c.paso qsort op = some c') : c'.Ordenada := by
  have h' := h.repartida.pasoSinMedias hmedias hpaso
  exact ⟨h', Corrida.separados_paso h.repartida h.separados h' hpaso⟩

theorem Corrida.ordenada_of_reachable {qsort : Qsort} {c : Corrida}
    (h : Reachable (Corrida.paso qsort) Corrida.Inicial Corrida.SinMedias c) : c.Ordenada := by
  apply h.invariant (P := Corrida.Ordenada)
  · intro c hc
    have hvacia : Separated (rangosLibres c.memoria.bloquesLibres) := by
      rw [hc.2.1]
      exact fun range hr ↦ absurd hr List.not_mem_nil
    exact ⟨Repartida.inicial hc.1 hc.2.1 hc.2.2.1, hvacia⟩
  · exact fun _ _ _ hc hmedias hpaso ↦ hc.paso hmedias hpaso

end PlugAndPlay.Memoria
