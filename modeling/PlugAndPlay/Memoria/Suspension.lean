import PlugAndPlay.Memoria.ParticionOperaciones
import PlugAndPlay.Memoria.SwapArchivo

/-!
# Suspension and resumption

What a process finds in its segments after it was suspended and resumed. While it is suspended,
operations of other processes leave its table alone, except that compaction moves what a failed
suspension left in RAM, and they write to the swap file only behind its blocks. So its resumption
reads back what its suspension wrote.
-/

open PlugAndPlay.Library

namespace PlugAndPlay.Memoria

/-! ## Operations of other processes -/

/-- The process an operation is about. -/
def Operacion.pid : Operacion → Option ℤ
  | .registrarMemoryStick _ _ | .registrarSwap _ | .obtenerEspacioLibre => none
  | .crearProceso pid _ | .solicitarSegmento pid _ _ | .eliminarSegmento pid _
  | .finalizarProceso pid | .suspenderProceso pid | .desSuspenderProceso pid
  | .lecturaMemoria pid _ _ | .escrituraMemoria pid _ _ _ => some pid

/-- What an operation of another process leaves of the process `p`: the same table, or the table
compaction makes of it. -/
structure Ajena (p : Proceso) (m m' : KernelMemory) : Prop where
  config : m'.config = m.config
  tabla : ∃ p', procesosBuscar m'.procesos p.pid = some p' ∧
    (p' = p ∨ ∃ top < 2 ^ 32, List.Forall₂ (Reubicado top) p.segmentos p'.segmentos)

section

variable {fugas aMedias : Prop} {m m' : KernelMemory} {suspendidos : List ℤ} {otro : ℤ}
  {p : Proceso}

/-- An operation that does not change the process itself. -/
theorem Ajena.mismo (hp : procesosBuscar m'.procesos p.pid = some p)
    (hconfig : m'.config = m.config) : Ajena p m m' :=
  ⟨hconfig, p, hp, Or.inl rfl⟩

theorem ajena_registrar (hp : procesosBuscar m.procesos p.pid = some p) (stick : StickNuevo)
    (outSock : ℤ) : Ajena p m (registrarMemoryStick m stick outSock) := by
  unfold registrarMemoryStick registrarInsertar
  split
  · exact .mismo hp rfl
  · rename_i heq
    split at heq
    · cases heq
    · obtain ⟨rfl, rfl, rfl⟩ : _ ∧ _ ∧ _ := by simpa using heq
      unfold registrarOutbound registrarBloque
      split <;> exact .mismo hp rfl

theorem ajena_agregar (hp : procesosBuscar m.procesos p.pid = some p) (hotro : p.pid ≠ otro)
    (libres : List BloqueLibre) (id base tamanio : UInt32) :
    Ajena p m (agregarSegmento { m with bloquesLibres := libres } otro id base tamanio) :=
  .mismo (procesosBuscar_otro hp hotro fun _ ↦ rfl) rfl

theorem ajena_poner (hp : procesosBuscar m.procesos p.pid = some p) (hotro : p.pid ≠ otro)
    (libres : List BloqueLibre) (segmentos : List Segmento) :
    Ajena p m (ponerSegmentos { m with bloquesLibres := libres } otro segmentos) :=
  .mismo (procesosBuscar_otro hp hotro fun _ ↦ rfl) rfl

/-- The second attempt of a request, right after compaction. -/
theorem ajena_reasignar (hm : Ajena p m m') (hotro : p.pid ≠ otro) (id tamanio : UInt32) :
    Ajena p m (reasignar m' otro id tamanio).2 := by
  obtain ⟨hconfig, p', hp', hcaso⟩ := hm
  have hpid : p'.pid = p.pid := procesosBuscar_pid hp'
  unfold reasignar
  simp only
  split
  · exact ⟨hconfig, p', hp', hcaso⟩
  split
  · exact ⟨hconfig, p', hp', hcaso⟩
  · rw [← hpid] at hp' hotro
    refine ⟨hconfig, p', ?_, hcaso⟩
    rw [← hpid]
    exact procesosBuscar_otro hp' hotro fun _ ↦ rfl

theorem Compactada.ajena (hc : Compactada m m') (hp : procesosBuscar m.procesos p.pid = some p)
    (htope : bytesResidentes m.procesos < 2 ^ 32) : Ajena p m m' := by
  obtain ⟨p', hp', hsegs⟩ := hc.encontrado hp
  exact ⟨hc.config, p', hp', Or.inr ⟨_, htope, hsegs⟩⟩

theorem ajena_solicitarSinCompactar (hp : procesosBuscar m.procesos p.pid = some p)
    (hotro : p.pid ≠ otro) {id tamanio : UInt32} {respuesta : Option (List Mensaje)}
    (h : solicitarSinCompactar m otro id tamanio = (respuesta, m')) : Ajena p m m' := by
  obtain rfl : (solicitarSinCompactar m otro id tamanio).2 = m' := congrArg Prod.snd h
  unfold solicitarSinCompactar
  split
  · exact .mismo hp rfl
  split
  · exact .mismo hp rfl
  simp only
  split
  · split <;> exact .mismo hp rfl
  · exact ajena_agregar hp hotro _ id _ tamanio

theorem Repartida.ajena_solicitar (h : Repartida fugas aMedias [] m suspendidos)
    (hp : procesosBuscar m.procesos p.pid = some p) (hotro : p.pid ≠ otro) (qsort : Qsort)
    (id tamanio : UInt32) : Ajena p m (manejarSolicitarSegmento qsort m otro id tamanio).2 := by
  unfold manejarSolicitarSegmento
  split
  · exact ajena_solicitarSinCompactar hp hotro ‹_›
  · rename_i m₁ hsolicitar
    have h₁ := h.demorado hsolicitar
    have htope := (bytesResidentes_le h₁.suma h₁.residentes).trans_lt h₁.suma
    obtain ⟨_, libres, _, _, rfl⟩ := solicitarSinCompactar_none hsolicitar
    obtain ⟨hconfig, htabla⟩ := (h₁.compactada qsort).ajena hp htope
    have hcompacta : Ajena p m (compactarMemoria qsort { m with bloquesLibres := libres }) :=
      ⟨hconfig, htabla⟩
    exact ajena_reasignar hcompacta hotro id tamanio

theorem ajena_eliminar (hp : procesosBuscar m.procesos p.pid = some p) (hotro : p.pid ≠ otro)
    (id : UInt32) : Ajena p m (manejarEliminarSegmento m otro id).2 := by
  unfold manejarEliminarSegmento
  split
  · exact .mismo hp rfl
  split
  · exact .mismo hp rfl
  · exact ajena_poner hp hotro _ _

theorem ajena_finalizar (hp : procesosBuscar m.procesos p.pid = some p) (hotro : p.pid ≠ otro) :
    Ajena p m (manejarFinalizarProceso m otro).2 := by
  unfold manejarFinalizarProceso
  split
  · exact .mismo hp rfl
  · exact .mismo ((procesosBuscar_quitar hotro).trans hp) rfl

theorem Repartida.ajena_suspender (h : Repartida fugas aMedias [] m suspendidos)
    (hp : procesosBuscar m.procesos p.pid = some p) (hotro : p.pid ≠ otro)
    {fin : FinSuspension} (hfin : suspenderProceso m otro = (fin, m'))
    (hpide : fin = .sinProceso ∨ otro ∉ suspendidos ∧ fin ≠ .fallo) : Ajena p m m' := by
  unfold suspenderProceso at hfin
  split at hfin
  · obtain ⟨_, rfl⟩ := Prod.mk.inj hfin
    exact .mismo hp rfl
  rename_i q hq
  split at hfin
  · obtain ⟨_, rfl⟩ := Prod.mk.inj hfin
    exact .mismo hp rfl
  · obtain ⟨fin', segmentos, m₁, hloop⟩ : ∃ fin segmentos m',
        suspenderSegmentos q.segmentos m = (fin, segmentos, m') := ⟨_, _, _, rfl⟩
    rw [hloop] at hfin
    obtain ⟨rfl, rfl⟩ := Prod.mk.inj hfin
    obtain ⟨hno, hfallo⟩ := hpide.resolve_left (suspenderSegmentos_fin hloop).1
    have hs := suspenderSegmentos_suspendidos h.suma h.within_libres (h.segmentos_le hq hno) hloop
    have hp₁ : procesosBuscar m₁.procesos p.pid = some p := by
      rw [hs.procesos]
      exact hp
    exact .mismo (procesosBuscar_otro hp₁ hotro fun _ ↦ rfl) hs.config

theorem Repartida.ajena_desSuspender (h : Repartida fugas aMedias [] m suspendidos)
    (hp : procesosBuscar m.procesos p.pid = some p) (hotro : p.pid ≠ otro)
    {fin : FinReanudacion} (hfin : desSuspenderProceso m otro = (fin, m')) (hfallo : fin ≠ .fallo) :
    Ajena p m m' := by
  rcases desSuspenderProceso_cases h hfin hfallo with
    ⟨_, hprocesos, _, _, hconfig, _⟩ | ⟨q, segmentos, libres, _, _, _, _, htransferir, _⟩
  · refine .mismo ?_ hconfig
    rw [hprocesos]
    exact hp
  · have hdisp := transferirSwapARam_soloDispositivos segmentos
      (ponerSegmentos { m with bloquesLibres := libres } otro segmentos)
    rw [htransferir] at hdisp
    refine .mismo ?_ hdisp.config
    rw [hdisp.procesos]
    exact procesosBuscar_otro hp hotro fun _ ↦ rfl

/-- No operation of another process gets at the process. -/
theorem Repartida.ajena {qsort : Qsort} {c c' : Corrida} {op : Operacion}
    (h : Repartida fugas aMedias [] c.memoria c.suspendidos)
    (hp : procesosBuscar c.memoria.procesos p.pid = some p) (hop : op.pid ≠ some p.pid)
    (hpaso : c.paso qsort op = some c') : Ajena p c.memoria c'.memoria := by
  unfold Corrida.paso at hpaso
  split at hpaso
  case isFalse => cases hpaso
  rename_i hpide
  obtain rfl := Option.some.inj hpaso
  have hotro : ∀ otro, op.pid = some otro → p.pid ≠ otro := by
    rintro otro hop' rfl
    exact hop hop'
  cases op with
  | registrarMemoryStick stick outSock => exact ajena_registrar hp stick outSock
  | registrarSwap nuevo => exact .mismo hp rfl
  | crearProceso otro instrucciones =>
    refine .mismo ?_ rfl
    unfold procesosBuscar at hp ⊢
    simp only [atender, manejarCrearProceso, List.find?_append, hp, Option.some_or]
  | solicitarSegmento otro id tamanio => exact h.ajena_solicitar hp (hotro otro rfl) qsort id tamanio
  | eliminarSegmento otro id => exact ajena_eliminar hp (hotro otro rfl) id
  | finalizarProceso otro => exact ajena_finalizar hp (hotro otro rfl)
  | suspenderProceso otro =>
    simp only [atender, manejarSuspenderProceso_snd]
    exact h.ajena_suspender hp (hotro otro rfl) Prod.mk.eta.symm hpide
  | desSuspenderProceso otro =>
    simp only [atender, manejarDesSuspenderProceso_snd]
    refine h.ajena_desSuspender hp (hotro otro rfl) Prod.mk.eta.symm ?_
    rcases hpide with hfin | ⟨_, hfin⟩
    · rw [hfin]
      rintro ⟨⟩
    · exact hfin
  | obtenerEspacioLibre => exact .mismo hp rfl
  | lecturaMemoria otro dir tamanio =>
    have hdisp := manejarLecturaMemoria_soloDispositivos c.memoria otro dir tamanio
    refine .mismo ?_ hdisp.config
    simp only [atender, hdisp.procesos]
    exact hp
  | escrituraMemoria otro dir tamanio datos =>
    have hdisp := manejarEscrituraMemoria_soloDispositivos c.memoria otro dir tamanio datos
    refine .mismo ?_ hdisp.config
    simp only [atender, hdisp.procesos]
    exact hp

end

/-! ## The swap file -/

section

variable {fugas aMedias : Prop} {m m' : KernelMemory} {suspendidos : List ℤ}

theorem swap_registrarMemoryStick (m : KernelMemory) (stick : StickNuevo) (outSock : ℤ) :
    (registrarMemoryStick m stick outSock).swap = m.swap := by
  unfold registrarMemoryStick registrarInsertar
  split
  · rfl
  · rename_i heq
    split at heq
    · cases heq
    · obtain ⟨rfl, rfl, rfl⟩ : _ ∧ _ ∧ _ := by simpa using heq
      unfold registrarOutbound registrarBloque
      split <;> rfl

theorem swap_reasignar (m : KernelMemory) (pid : ℤ) (id tamanio : UInt32) :
    (reasignar m pid id tamanio).2.swap = m.swap := by
  unfold reasignar
  simp only
  split
  · rfl
  split <;> rfl

theorem swap_solicitarSinCompactar {pid : ℤ} {id tamanio : UInt32}
    {respuesta : Option (List Mensaje)}
    (h : solicitarSinCompactar m pid id tamanio = (respuesta, m')) : m'.swap = m.swap := by
  obtain rfl : (solicitarSinCompactar m pid id tamanio).2 = m' := congrArg Prod.snd h
  unfold solicitarSinCompactar
  split
  · rfl
  split
  · rfl
  simp only
  split
  · split <;> rfl
  · rfl

theorem Repartida.swap_solicitar (h : Repartida fugas aMedias [] m suspendidos) (qsort : Qsort)
    (pid : ℤ) (id tamanio : UInt32) :
    (manejarSolicitarSegmento qsort m pid id tamanio).2.swap = m.swap := by
  unfold manejarSolicitarSegmento
  split
  · exact swap_solicitarSinCompactar ‹_›
  · rename_i m₁ hsolicitar
    calc _ = (compactarMemoria qsort m₁).swap := swap_reasignar _ _ _ _
      _ = m₁.swap := ((h.demorado hsolicitar).compactada qsort).swap
      _ = m.swap := swap_solicitarSinCompactar hsolicitar

theorem swap_manejarEliminarSegmento (m : KernelMemory) (pid : ℤ) (id : UInt32) :
    (manejarEliminarSegmento m pid id).2.swap = m.swap := by
  unfold manejarEliminarSegmento
  split
  · rfl
  split <;> rfl

theorem swap_manejarFinalizarProceso (m : KernelMemory) (pid : ℤ) :
    (manejarFinalizarProceso m pid).2.swap = m.swap := by
  unfold manejarFinalizarProceso
  split <;> rfl

theorem suspenderProceso_crece {pid : ℤ} {fin : FinSuspension}
    (hfin : suspenderProceso m pid = (fin, m')) (hfallo : fin ≠ .fallo) :
    SwapCrece m.swap m'.swap := by
  unfold suspenderProceso at hfin
  split at hfin
  · obtain ⟨_, rfl⟩ := Prod.mk.inj hfin
    exact SwapCrece.refl _
  rename_i q hq
  split at hfin
  · obtain ⟨_, rfl⟩ := Prod.mk.inj hfin
    exact SwapCrece.refl _
  · obtain ⟨fin', segmentos, m₁, hloop⟩ : ∃ fin segmentos m',
        suspenderSegmentos q.segmentos m = (fin, segmentos, m') := ⟨_, _, _, rfl⟩
    rw [hloop] at hfin
    obtain ⟨rfl, rfl⟩ := Prod.mk.inj hfin
    have hcrece : SwapCrece m.swap m₁.swap := suspenderSegmentos_crece hloop hfallo
    exact hcrece

theorem Repartida.desSuspenderProceso_crece (h : Repartida fugas aMedias [] m suspendidos) {pid : ℤ}
    {fin : FinReanudacion} (hfin : desSuspenderProceso m pid = (fin, m')) (hfallo : fin ≠ .fallo) :
    SwapCrece m.swap m'.swap := by
  rcases desSuspenderProceso_cases h hfin hfallo with
    ⟨_, _, _, hswap, _⟩ | ⟨_, segmentos, libres, _, _, _, _, htransferir, _⟩
  · rw [hswap]
    exact SwapCrece.refl _
  · have hdisp := transferirSwapARam_soloDispositivos segmentos
      (ponerSegmentos { m with bloquesLibres := libres } pid segmentos)
    have harchivo := transferirSwapARam_archivo segmentos
      (ponerSegmentos { m with bloquesLibres := libres } pid segmentos)
    rw [htransferir] at hdisp harchivo
    refine ⟨?_, ?_, ?_, fun offset _ ↦ ?_⟩
    · exact (Swap.fijo_socket hdisp.swap).trans rfl
    · exact (Swap.fijo_blockSize hdisp.swap).trans rfl
    · exact (congrArg UInt32.toNat ((Swap.fijo_nextBlock hdisp.swap).trans rfl)).ge
    · exact congrFun harchivo offset

theorem swap_manejarLecturaMemoria (m : KernelMemory) (pid : ℤ) (dir tamanio : UInt32) :
    (manejarLecturaMemoria m pid dir tamanio).2.swap = m.swap := by
  unfold manejarLecturaMemoria
  split
  · rfl
  split
  · rfl
  split
  · rfl
  split <;> rfl

theorem swap_manejarEscrituraMemoria (m : KernelMemory) (pid : ℤ) (dir tamanio : UInt32)
    (datos : List UInt8) : (manejarEscrituraMemoria m pid dir tamanio datos).2.swap = m.swap := by
  unfold manejarEscrituraMemoria
  split
  · rfl
  split
  · rfl
  split <;> rfl

/-- A swap process connects, or what is in the file below the counter stays there. -/
theorem Repartida.paso_swap {qsort : Qsort} {c c' : Corrida} {op : Operacion}
    (h : Repartida fugas aMedias [] c.memoria c.suspendidos) (hpaso : c.paso qsort op = some c') :
    SwapCrece c.memoria.swap c'.memoria.swap ∨
      c.memoria.swap.socket < 0 ∧ ∃ nuevo, c'.memoria.swap = registrarSwap nuevo := by
  obtain ⟨hpide, rfl⟩ := Corrida.paso_eq_some hpaso
  have higual : ∀ {swap : Swap}, swap = c.memoria.swap → SwapCrece c.memoria.swap swap ∨
      c.memoria.swap.socket < 0 ∧ ∃ nuevo, swap = registrarSwap nuevo := by
    rintro swap rfl
    exact Or.inl (SwapCrece.refl _)
  cases op with
  | registrarMemoryStick stick outSock => exact higual (swap_registrarMemoryStick _ _ _)
  | registrarSwap nuevo => exact Or.inr ⟨hpide, nuevo, rfl⟩
  | crearProceso pid instrucciones => exact higual rfl
  | solicitarSegmento pid id tamanio => exact higual (h.swap_solicitar qsort pid id tamanio)
  | eliminarSegmento pid id => exact higual (swap_manejarEliminarSegmento _ _ _)
  | finalizarProceso pid => exact higual (swap_manejarFinalizarProceso _ _)
  | suspenderProceso pid =>
    left
    simp only [atender, manejarSuspenderProceso_snd]
    refine suspenderProceso_crece Prod.mk.eta.symm ?_
    rcases hpide with hfin | ⟨_, hfin⟩
    · rw [hfin]
      rintro ⟨⟩
    · exact hfin
  | desSuspenderProceso pid =>
    left
    simp only [atender, manejarDesSuspenderProceso_snd]
    refine h.desSuspenderProceso_crece Prod.mk.eta.symm ?_
    rcases hpide with hfin | ⟨_, hfin⟩
    · rw [hfin]
      rintro ⟨⟩
    · exact hfin
  | obtenerEspacioLibre => exact higual rfl
  | lecturaMemoria pid dir tamanio => exact higual (swap_manejarLecturaMemoria _ _ _ _)
  | escrituraMemoria pid dir tamanio datos => exact higual (swap_manejarEscrituraMemoria _ _ _ _ _)

/-- A swap that is connected has blocks of a positive size. -/
def Swap.Configurado (swap : Swap) : Prop := 0 ≤ swap.socket → 0 < swap.blockSize.toNat

theorem Swap.configurado_desconectado : Swap.desconectado.Configurado := fun h ↦ absurd h (by decide)

theorem Repartida.configurado {qsort : Qsort} {c c' : Corrida} {op : Operacion}
    (h : Repartida fugas aMedias [] c.memoria c.suspendidos) (hpaso : c.paso qsort op = some c')
    (hswap : c.memoria.swap.Configurado) : c'.memoria.swap.Configurado := by
  rcases h.paso_swap hpaso with hcrece | ⟨_, nuevo, hnuevo⟩
  · unfold Swap.Configurado
    rw [hcrece.socket, hcrece.blockSize]
    exact hswap
  · rw [hnuevo]
    exact fun _ ↦ UInt32.lt_iff_toNat_lt.mp nuevo.configurado.1

end

end PlugAndPlay.Memoria
