import PlugAndPlay.Memoria.Operaciones
import PlugAndPlay.Memoria.RegistroSticks
import PlugAndPlay.Memoria.SchedulerRangos

/-!
# The list of processes of Kernel Memory

Processes enter the list with `CREAR_PROCESO` and leave it with `FINALIZAR_PROCESO`. Every other operation
may change what is known of a process, and leaves the list of pids as it is.
-/

namespace PlugAndPlay.Memoria

/-- The registered pids, in order. -/
def KernelMemory.pids (m : KernelMemory) : List ℤ := m.procesos.map Proceso.pid

/-- The operations that register a process or take it off. -/
def Operacion.Registra : Operacion → Prop
  | .crearProceso _ _ | .finalizarProceso _ => True
  | _ => False

instance : DecidablePred Operacion.Registra := fun op ↦ by
  unfold Operacion.Registra
  split <;> infer_instance

variable {m m' : KernelMemory}

theorem pids_congr (h : m'.procesos = m.procesos) : m'.pids = m.pids := by
  unfold KernelMemory.pids
  rw [h]

theorem map_pid_procesosModificar (pid : ℤ) {f : Proceso → Proceso} (hf : ∀ p, (f p).pid = p.pid)
    (procesos : List Proceso) :
    (procesosModificar pid f procesos).map Proceso.pid = procesos.map Proceso.pid := by
  induction procesos with
  | nil => rfl
  | cons p resto ih =>
    unfold procesosModificar
    split
    · rw [List.map_cons, hf, List.map_cons]
    · rw [List.map_cons, ih, List.map_cons]

theorem map_pid_procesosQuitar (pid : ℤ) (procesos : List Proceso) :
    (procesosQuitar pid procesos).map Proceso.pid = (procesos.map Proceso.pid).erase pid := by
  induction procesos with
  | nil => rfl
  | cons p resto ih =>
    unfold procesosQuitar
    rw [List.map_cons, List.erase_cons]
    by_cases hpid : p.pid = pid
    · rw [if_pos hpid, if_pos (beq_iff_eq.mpr hpid)]
    · rw [if_neg hpid, if_neg (mt beq_iff_eq.mp hpid), List.map_cons, ih]

theorem pids_ponerSegmentos (m : KernelMemory) (pid : ℤ) (segmentos : List Segmento) :
    (ponerSegmentos m pid segmentos).pids = m.pids :=
  map_pid_procesosModificar (f := fun p ↦ { p with segmentos := segmentos }) pid (fun _ ↦ rfl) m.procesos

theorem pids_agregarSegmento (m : KernelMemory) (pid : ℤ) (id base tamanio : UInt32) :
    (agregarSegmento m pid id base tamanio).pids = m.pids :=
  map_pid_procesosModificar (f := fun p ↦ { p with segmentos := p.segmentos ++ [⟨id, base, tamanio, 0⟩] })
    pid (fun _ ↦ rfl) m.procesos

/-! ## Segments -/

theorem pids_moverSegmento (m : KernelMemory) (e : SegEntrada) (cursor : UInt32) :
    (moverSegmento m e cursor).pids = m.pids := by
  unfold moverSegmento
  split
  · rfl
  · exact PlugAndPlay.Library.ListModify.map_modify_of_forall m.procesos e.proc _ _ fun _ ↦ rfl

theorem pids_compactarEntradas (lista : List SegEntrada) (cursor : UInt32) (m : KernelMemory) :
    (compactarEntradas lista cursor m).2.pids = m.pids := by
  induction lista generalizing cursor m with
  | nil => rfl
  | cons e resto ih =>
    unfold compactarEntradas
    rw [ih, pids_moverSegmento]

theorem pids_compactarMemoria (qsort : Qsort) (m : KernelMemory) :
    (compactarMemoria qsort m).pids = m.pids := by
  unfold compactarMemoria
  simp only
  split
  · rfl
  · split
    · rfl
    · exact pids_compactarEntradas _ _ m

theorem pids_solicitarSinCompactar (m : KernelMemory) (pid : ℤ) (id tamanio : UInt32) :
    (solicitarSinCompactar m pid id tamanio).2.pids = m.pids := by
  unfold solicitarSinCompactar
  split
  · rfl
  split
  · rfl
  simp only
  split
  · split
    · rfl
    · rfl
  · exact pids_agregarSegmento _ pid id _ tamanio

theorem pids_reasignar (m : KernelMemory) (pid : ℤ) (id tamanio : UInt32) :
    (reasignar m pid id tamanio).2.pids = m.pids := by
  unfold reasignar
  simp only
  split
  · rfl
  split
  · rfl
  · exact pids_agregarSegmento _ pid id _ tamanio

theorem pids_manejarSolicitarSegmento (qsort : Qsort) (m : KernelMemory) (pid : ℤ) (id tamanio : UInt32) :
    (manejarSolicitarSegmento qsort m pid id tamanio).2.pids = m.pids := by
  have hsolicitar := pids_solicitarSinCompactar m pid id tamanio
  unfold manejarSolicitarSegmento
  split
  · rename_i h
    rw [h] at hsolicitar
    exact hsolicitar
  · rename_i h
    rw [h] at hsolicitar
    simp only
    rw [pids_reasignar, pids_compactarMemoria]
    exact hsolicitar

theorem pids_manejarEliminarSegmento (m : KernelMemory) (pid : ℤ) (id : UInt32) :
    (manejarEliminarSegmento m pid id).2.pids = m.pids := by
  unfold manejarEliminarSegmento
  split
  · rfl
  split
  · rfl
  · exact pids_ponerSegmentos _ pid _

/-! ## Suspension and resumption -/

theorem procesos_suspenderSegmentos {segmentos segmentos' : List Segmento} {fin : FinSuspension}
    (h : suspenderSegmentos segmentos m = (fin, segmentos', m')) : m'.procesos = m.procesos := by
  induction segmentos generalizing m fin segmentos' m' with
  | nil =>
    cases h
    rfl
  | cons seg resto ih =>
    rcases suspenderSegmentos_cons_cases h with ⟨_, _, rfl⟩ | ⟨inicio, swap, _, _, hcaso⟩
    · rfl
    have hdisp := volcarBloques_soloDispositivos { seg with swapBloqueInicio := inicio }
      (cantidadBloques seg.limite swap.blockSize).toNat 0 { m with swap := swap }
    rcases hcaso with ⟨_, _, hvolcar⟩ | ⟨m₁, resto', hvolcar, hrec, _⟩
    · rw [show volcarBloques _ _ _ _ = _ from hvolcar] at hdisp
      exact hdisp.procesos
    · rw [show volcarBloques _ _ _ _ = _ from hvolcar] at hdisp
      exact (ih hrec).trans hdisp.procesos

theorem pids_suspenderProceso (m : KernelMemory) (pid : ℤ) : (suspenderProceso m pid).2.pids = m.pids := by
  unfold suspenderProceso
  split
  · rfl
  split
  · rfl
  rename_i proc _ _
  cases h : suspenderSegmentos proc.segmentos m with
  | mk fin resto =>
    simp only
    rw [pids_ponerSegmentos]
    exact pids_congr (procesos_suspenderSegmentos h)

theorem pids_manejarSuspenderProceso (m : KernelMemory) (pid : ℤ) :
    (manejarSuspenderProceso m pid).2.pids = m.pids := by
  have hsuspender := pids_suspenderProceso m pid
  unfold manejarSuspenderProceso
  split
  · rename_i h
    rw [h] at hsuspender
    exact hsuspender
  · rename_i h
    rw [h] at hsuspender
    exact hsuspender

theorem pids_desSuspenderProceso (m : KernelMemory) (pid : ℤ) :
    (desSuspenderProceso m pid).2.pids = m.pids := by
  unfold desSuspenderProceso
  split
  · rfl
  split
  · rfl
  split
  · rfl
  rename_i segmentos libres _
  have hdisp := transferirSwapARam_soloDispositivos segmentos
    (ponerSegmentos { m with bloquesLibres := libres } pid segmentos)
  split
  · rename_i h
    rw [h] at hdisp
    exact (pids_congr hdisp.procesos).trans (pids_ponerSegmentos _ pid segmentos)
  · rename_i h
    rw [h] at hdisp
    exact (pids_congr hdisp.procesos).trans (pids_ponerSegmentos _ pid segmentos)

theorem pids_manejarDesSuspenderProceso (m : KernelMemory) (pid : ℤ) :
    (manejarDesSuspenderProceso m pid).2.pids = m.pids := by
  have hreanudar := pids_desSuspenderProceso m pid
  unfold manejarDesSuspenderProceso
  split
  · rename_i h
    rw [h] at hreanudar
    exact hreanudar
  · rename_i h
    rw [h] at hreanudar
    exact hreanudar
  · rename_i h
    rw [h] at hreanudar
    exact hreanudar

/-! ## Operations -/

theorem pids_registrarMemoryStick (m : KernelMemory) (stick : StickNuevo) (outSock : ℤ) :
    (registrarMemoryStick m stick outSock).pids = m.pids := by
  unfold registrarMemoryStick
  split
  · rfl
  · rename_i h
    have hinsertar := pids_congr (procesos_registrarInsertar h)
    apply Eq.trans _ hinsertar
    apply pids_congr
    unfold registrarOutbound registrarBloque
    split
    · rfl
    · rfl

theorem pids_manejarLecturaMemoria (m : KernelMemory) (pid : ℤ) (dir tamanio : UInt32) :
    (manejarLecturaMemoria m pid dir tamanio).2.pids = m.pids := by
  unfold manejarLecturaMemoria
  split
  · rfl
  split
  · rfl
  split
  · rfl
  split
  · rfl
  · rfl

theorem pids_manejarEscrituraMemoria (m : KernelMemory) (pid : ℤ) (dir tamanio : UInt32)
    (datos : List UInt8) : (manejarEscrituraMemoria m pid dir tamanio datos).2.pids = m.pids := by
  unfold manejarEscrituraMemoria
  split
  · rfl
  split
  · rfl
  split
  · rfl
  · rfl

theorem pids_atender (qsort : Qsort) (m : KernelMemory) {op : Operacion} (h : ¬ op.Registra) :
    (atender qsort m op).2.pids = m.pids := by
  cases op with
  | registrarMemoryStick stick outSock => exact pids_registrarMemoryStick m stick outSock
  | registrarSwap nuevo => rfl
  | crearProceso pid instrucciones => exact absurd trivial h
  | solicitarSegmento pid id tamanio => exact pids_manejarSolicitarSegmento qsort m pid id tamanio
  | eliminarSegmento pid id => exact pids_manejarEliminarSegmento m pid id
  | finalizarProceso pid => exact absurd trivial h
  | suspenderProceso pid => exact pids_manejarSuspenderProceso m pid
  | desSuspenderProceso pid => exact pids_manejarDesSuspenderProceso m pid
  | obtenerEspacioLibre => rfl
  | lecturaMemoria pid dir tamanio => exact pids_manejarLecturaMemoria m pid dir tamanio
  | escrituraMemoria pid dir tamanio datos => exact pids_manejarEscrituraMemoria m pid dir tamanio datos

theorem pids_crearProceso (qsort : Qsort) (m : KernelMemory) (pid : ℤ) (instrucciones : List String) :
    (atender qsort m (.crearProceso pid instrucciones)).2.pids = m.pids ++ [pid] :=
  List.map_append

theorem pids_manejarFinalizarProceso (m : KernelMemory) (pid : ℤ) :
    (manejarFinalizarProceso m pid).2.pids = m.pids.erase pid := by
  unfold manejarFinalizarProceso
  cases hbuscar : procesosBuscar m.procesos pid with
  | none =>
    have hno : pid ∉ m.pids := by
      intro hmem
      obtain ⟨p, hp, hpid⟩ := List.mem_map.mp hmem
      have hotro := List.find?_eq_none.mp hbuscar p hp
      exact hotro (decide_eq_true hpid)
    exact (List.erase_of_not_mem hno).symm
  | some proc => exact map_pid_procesosQuitar pid m.procesos

theorem pids_finalizarProceso (qsort : Qsort) (m : KernelMemory) (pid : ℤ) :
    (atender qsort m (.finalizarProceso pid)).2.pids = m.pids.erase pid :=
  pids_manejarFinalizarProceso m pid

end PlugAndPlay.Memoria
