import PlugAndPlay.Memoria.ListaProcesos

/-!
# What operations leave of the processes

Kernel Memory changes segment tables only: whatever else is known of the processes, in the order of the list,
stays as it is under every operation but `CREAR_PROCESO` and `FINALIZAR_PROCESO`.
-/

open PlugAndPlay.Library

namespace PlugAndPlay.Memoria

/-- A process without its table. -/
def Proceso.sinTabla (p : Proceso) : Proceso := { p with segmentos := [] }

/-- What is known of the processes, apart from their tables. -/
def KernelMemory.sinTablas (m : KernelMemory) : List Proceso := m.procesos.map Proceso.sinTabla

variable {m m' : KernelMemory} {pid : ℤ}

theorem sinTablas_congr (h : m'.procesos = m.procesos) : m'.sinTablas = m.sinTablas :=
  congrArg (List.map Proceso.sinTabla) h

theorem map_sinTabla_procesosModificar (pid : ℤ) {f : Proceso → Proceso} (hf : ∀ p, (f p).sinTabla = p.sinTabla)
    (procesos : List Proceso) :
    (procesosModificar pid f procesos).map Proceso.sinTabla = procesos.map Proceso.sinTabla := by
  induction procesos with
  | nil => rfl
  | cons p resto ih =>
    unfold procesosModificar
    split
    · rw [List.map_cons, hf, List.map_cons]
    · rw [List.map_cons, ih, List.map_cons]

theorem sinTablas_ponerSegmentos (m : KernelMemory) (pid : ℤ) (segmentos : List Segmento) :
    (ponerSegmentos m pid segmentos).sinTablas = m.sinTablas :=
  map_sinTabla_procesosModificar (f := fun p ↦ { p with segmentos := segmentos }) pid (fun _ ↦ rfl) m.procesos

theorem sinTablas_agregarSegmento (m : KernelMemory) (pid : ℤ) (id base tamanio : UInt32) :
    (agregarSegmento m pid id base tamanio).sinTablas = m.sinTablas :=
  map_sinTabla_procesosModificar (f := fun p ↦ { p with segmentos := p.segmentos ++ [⟨id, base, tamanio, 0⟩] })
    pid (fun _ ↦ rfl) m.procesos

/-! ## Segments -/

theorem sinTablas_moverSegmento (m : KernelMemory) (e : SegEntrada) (cursor : UInt32) :
    (moverSegmento m e cursor).sinTablas = m.sinTablas := by
  unfold moverSegmento
  split
  · rfl
  · exact ListModify.map_modify_of_forall m.procesos e.proc _ _ fun _ ↦ rfl

theorem sinTablas_compactarEntradas (lista : List SegEntrada) (cursor : UInt32) (m : KernelMemory) :
    (compactarEntradas lista cursor m).2.sinTablas = m.sinTablas := by
  induction lista generalizing cursor m with
  | nil => rfl
  | cons e resto ih =>
    unfold compactarEntradas
    rw [ih, sinTablas_moverSegmento]

theorem sinTablas_compactarMemoria (qsort : Qsort) (m : KernelMemory) :
    (compactarMemoria qsort m).sinTablas = m.sinTablas := by
  unfold compactarMemoria
  simp only
  split
  · rfl
  · split
    · rfl
    · exact sinTablas_compactarEntradas _ _ m

theorem sinTablas_solicitarSinCompactar (m : KernelMemory) (pid : ℤ) (id tamanio : UInt32) :
    (solicitarSinCompactar m pid id tamanio).2.sinTablas = m.sinTablas := by
  unfold solicitarSinCompactar
  split
  · rfl
  split
  · rfl
  simp only
  split
  · split
    · rfl
    · rfl
  · exact sinTablas_agregarSegmento _ pid id _ tamanio

theorem sinTablas_reasignar (m : KernelMemory) (pid : ℤ) (id tamanio : UInt32) :
    (reasignar m pid id tamanio).2.sinTablas = m.sinTablas := by
  unfold reasignar
  simp only
  split
  · rfl
  split
  · rfl
  · exact sinTablas_agregarSegmento _ pid id _ tamanio

theorem sinTablas_manejarSolicitarSegmento (qsort : Qsort) (m : KernelMemory) (pid : ℤ) (id tamanio : UInt32) :
    (manejarSolicitarSegmento qsort m pid id tamanio).2.sinTablas = m.sinTablas := by
  have hsolicitar := sinTablas_solicitarSinCompactar m pid id tamanio
  unfold manejarSolicitarSegmento
  split
  · rename_i h
    rw [h] at hsolicitar
    exact hsolicitar
  · rename_i h
    rw [h] at hsolicitar
    simp only
    rw [sinTablas_reasignar, sinTablas_compactarMemoria]
    exact hsolicitar

theorem sinTablas_manejarEliminarSegmento (m : KernelMemory) (pid : ℤ) (id : UInt32) :
    (manejarEliminarSegmento m pid id).2.sinTablas = m.sinTablas := by
  unfold manejarEliminarSegmento
  split
  · rfl
  split
  · rfl
  · exact sinTablas_ponerSegmentos _ pid _

/-! ## Suspension and resumption -/

theorem sinTablas_suspenderProceso (m : KernelMemory) (pid : ℤ) :
    (suspenderProceso m pid).2.sinTablas = m.sinTablas := by
  unfold suspenderProceso
  split
  · rfl
  split
  · rfl
  rename_i proc _ _
  cases h : suspenderSegmentos proc.segmentos m with
  | mk fin resto =>
    simp only
    rw [sinTablas_ponerSegmentos]
    exact sinTablas_congr (procesos_suspenderSegmentos h)

theorem sinTablas_desSuspenderProceso (m : KernelMemory) (pid : ℤ) :
    (desSuspenderProceso m pid).2.sinTablas = m.sinTablas := by
  unfold desSuspenderProceso
  split
  · rfl
  split
  · rfl
  split
  · rfl
  rename_i segmentos libres _
  have hdisp := transferirSwapARam_soloDispositivos segmentos
    (ponerSegmentos { m with bloquesLibres := libres } pid segmentos)
  have hponer := sinTablas_ponerSegmentos { m with bloquesLibres := libres } pid segmentos
  split
  · rename_i h
    rw [h] at hdisp
    exact (sinTablas_congr hdisp.procesos).trans hponer
  · rename_i h
    rw [h] at hdisp
    exact (sinTablas_congr hdisp.procesos).trans hponer

/-! ## Operations -/

theorem sinTablas_registrarMemoryStick (m : KernelMemory) (stick : StickNuevo) (outSock : ℤ) :
    (registrarMemoryStick m stick outSock).sinTablas = m.sinTablas := by
  unfold registrarMemoryStick
  split
  · rfl
  · rename_i h
    apply Eq.trans _ (sinTablas_congr (procesos_registrarInsertar h))
    apply sinTablas_congr
    unfold registrarOutbound registrarBloque
    split
    · rfl
    · rfl

theorem sinTablas_atender (qsort : Qsort) (m : KernelMemory) {op : Operacion} (h : ¬ op.Registra) :
    (atender qsort m op).2.sinTablas = m.sinTablas := by
  cases op with
  | registrarMemoryStick stick outSock => exact sinTablas_registrarMemoryStick m stick outSock
  | registrarSwap nuevo => rfl
  | crearProceso pid instrucciones => exact absurd trivial h
  | solicitarSegmento pid id tamanio => exact sinTablas_manejarSolicitarSegmento qsort m pid id tamanio
  | eliminarSegmento pid id => exact sinTablas_manejarEliminarSegmento m pid id
  | finalizarProceso pid => exact absurd trivial h
  | suspenderProceso pid =>
    simp only [atender, manejarSuspenderProceso_snd]
    exact sinTablas_suspenderProceso m pid
  | desSuspenderProceso pid =>
    simp only [atender, manejarDesSuspenderProceso_snd]
    exact sinTablas_desSuspenderProceso m pid
  | obtenerEspacioLibre => rfl
  | lecturaMemoria pid dir tamanio =>
    show (manejarLecturaMemoria m pid dir tamanio).2.sinTablas = m.sinTablas
    unfold manejarLecturaMemoria
    repeat' split
    all_goals rfl
  | escrituraMemoria pid dir tamanio datos =>
    show (manejarEscrituraMemoria m pid dir tamanio datos).2.sinTablas = m.sinTablas
    unfold manejarEscrituraMemoria
    repeat' split
    all_goals rfl

/-! ## The process with a pid -/

/-- Where the processes agree but for their tables, the search finds the same process but for its table. -/
theorem procesosBuscar_sinTabla (h : m'.sinTablas = m.sinTablas) (pid : ℤ) :
    (procesosBuscar m'.procesos pid).map Proceso.sinTabla =
      (procesosBuscar m.procesos pid).map Proceso.sinTabla := by
  have hbuscar : ∀ procesos : List Proceso, (procesosBuscar procesos pid).map Proceso.sinTabla =
      (procesos.map Proceso.sinTabla).find? fun p ↦ p.pid = pid := by
    intro procesos
    rw [List.find?_map]
    rfl
  calc (procesosBuscar m'.procesos pid).map Proceso.sinTabla
      = m'.sinTablas.find? fun p ↦ p.pid = pid := hbuscar m'.procesos
    _ = m.sinTablas.find? fun p ↦ p.pid = pid := by rw [h]
    _ = (procesosBuscar m.procesos pid).map Proceso.sinTabla := (hbuscar m.procesos).symm

theorem procesosBuscar_of_not_mem (h : pid ∉ m.pids) : procesosBuscar m.procesos pid = none := by
  apply List.find?_eq_none.mpr
  intro p hp hpid
  exact h (List.mem_map.mpr ⟨p, hp, of_decide_eq_true hpid⟩)

theorem not_mem_pids (h : procesosBuscar m.procesos pid = none) : pid ∉ m.pids := by
  intro hmem
  obtain ⟨p, hp, hpid⟩ := List.mem_map.mp hmem
  exact List.find?_eq_none.mp h p hp (decide_eq_true hpid)

/-- No process is registered twice, as long as none is registered again. -/
theorem nodup_pids_atender (qsort : Qsort) (h : m.pids.Nodup) {op : Operacion}
    (hnuevo : ∀ pid instrucciones, op = .crearProceso pid instrucciones → procesosBuscar m.procesos pid = none) :
    (atender qsort m op).2.pids.Nodup := by
  by_cases hregistra : op.Registra
  · cases op with
    | crearProceso pid instrucciones =>
      rw [pids_crearProceso]
      have hno := not_mem_pids (hnuevo pid instrucciones rfl)
      exact h.append (List.nodup_singleton pid) (List.disjoint_singleton.mpr hno)
    | finalizarProceso pid =>
      rw [pids_finalizarProceso]
      exact h.erase pid
    | _ => cases hregistra
  · rw [pids_atender qsort m hregistra]
    exact h

/-- A process found after an operation was there before with the same registers and script, or was created. -/
theorem encontrado_antes (qsort : Qsort) (h : m.pids.Nodup) {op : Operacion}
    (hnuevo : ∀ pid instrucciones, op = .crearProceso pid instrucciones → procesosBuscar m.procesos pid = none)
    {p' : Proceso} (hp' : procesosBuscar (atender qsort m op).2.procesos pid = some p') :
    (∃ instrucciones, op = .crearProceso pid instrucciones ∧ p' = ⟨pid, .cero, [], instrucciones⟩) ∨
      (∀ instrucciones, op ≠ .crearProceso pid instrucciones) ∧
        ∃ p, procesosBuscar m.procesos pid = some p ∧ p'.sinTabla = p.sinTabla := by
  by_cases hregistra : op.Registra
  · cases op with
    | crearProceso otro instrucciones =>
      have happend : procesosBuscar m.procesos pid =
          some p' ∨ procesosBuscar m.procesos pid = none ∧
            procesosBuscar [⟨otro, .cero, [], instrucciones⟩] pid = some p' :=
        Option.or_eq_some_iff.mp (List.find?_append.symm.trans hp')
      rcases happend with hp | ⟨-, hultimo⟩
      · refine Or.inr ⟨?_, p', hp, rfl⟩
        rintro otras heq
        obtain ⟨rfl, rfl⟩ := Operacion.crearProceso.inj heq
        cases hp.symm.trans (hnuevo _ _ rfl)
      · obtain rfl := List.mem_singleton.mp (List.mem_of_find?_eq_some hultimo)
        obtain rfl : otro = pid := procesosBuscar_pid hultimo
        exact Or.inl ⟨instrucciones, rfl, rfl⟩
    | finalizarProceso otro =>
      refine Or.inr ⟨fun _ ↦ Operacion.noConfusion, p', ?_, rfl⟩
      have hotro : pid ≠ otro := by
        rintro rfl
        have hno : pid ∉ (atender qsort m (.finalizarProceso pid)).2.pids := by
          rw [pids_finalizarProceso]
          exact h.not_mem_erase
        cases (procesosBuscar_of_not_mem hno).symm.trans hp'
      have hquitar : procesosBuscar (atender qsort m (.finalizarProceso otro)).2.procesos pid =
          procesosBuscar m.procesos pid := by
        show procesosBuscar (manejarFinalizarProceso m otro).2.procesos pid = _
        unfold manejarFinalizarProceso
        split
        · rfl
        · exact procesosBuscar_quitar hotro
      exact hquitar.symm.trans hp'
    | _ => cases hregistra
  · refine Or.inr ⟨?_, ?_⟩
    · rintro instrucciones rfl
      exact hregistra trivial
    have hmisma := procesosBuscar_sinTabla (sinTablas_atender qsort m hregistra) pid
    rw [hp', Option.map_some] at hmisma
    obtain ⟨p, hp, heq⟩ := Option.map_eq_some_iff.mp hmisma.symm
    exact ⟨p, hp, heq.symm⟩

end PlugAndPlay.Memoria
