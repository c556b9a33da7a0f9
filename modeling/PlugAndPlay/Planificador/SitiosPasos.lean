import PlugAndPlay.Planificador.Detenidos
import PlugAndPlay.Planificador.Sitios

/-!
# The steps keep every process in the place of its state

The handlers from their first change to their last, and the steps of the scheduler but for the dispatch.
A handler that stops leaves the table of mutexes locked.
-/

open PlugAndPlay.Library

namespace PlugAndPlay.Planificador

/-- A release that goes through has met no mutex of the process with a waiter. -/
theorem sinDisputa_de_liberar {k k' : KernelScheduler} {pid : Pid} (hlibre : k.mutexListaMutexes = false)
    (hok : liberarMutexesDeProceso pid k = .ok () k') : k.SinDisputa pid := by
  unfold liberarMutexesDeProceso at hok
  rw [Blocking.bind_ok (lockListaMutexes_libre hlibre), Blocking.bind_ok (x := get) rfl] at hok
  obtain ⟨_, k₁, hrecorrer, _⟩ := Blocking.bind_eq_ok.mp hok
  obtain ⟨hlibres, _⟩ := (recorrer_ok_iff pid rfl _ (Nat.le_refl _)).mp hrecorrer
  intro m hm
  obtain ⟨i, hi, rfl⟩ := List.getElem_of_mem hm
  exact hlibres i _ hi (List.getElem?_eq_getElem hi)

/-- A release that does not go through stops with the table locked. -/
theorem detenido_de_liberar {k k' : KernelScheduler} {pid : Pid} (hlibre : k.mutexListaMutexes = false)
    (herror : liberarMutexesDeProceso pid k = .error () k') : k'.Detenido := by
  unfold liberarMutexesDeProceso at herror
  rw [Blocking.bind_ok (lockListaMutexes_libre hlibre), Blocking.bind_ok (x := get) rfl] at herror
  have hturnos : SigueTomada (forM (List.range k.listaMutexes.length) (liberarMutexEn pid)) := by
    apply Blocking.Triple.of_forM fun _ ↦ KernelScheduler.Detenido
    intro _ i _ _
    exact sigue_liberarMutexEn pid i
  have hdetenido := hturnos { k with mutexListaMutexes := true } rfl
  cases hrun : forM (List.range k.listaMutexes.length) (liberarMutexEn pid)
      { k with mutexListaMutexes := true } with
  | ok a k₁ =>
    rw [Blocking.bind_ok hrun] at herror
    cases herror
  | error e k₁ =>
    rw [hrun] at hdetenido
    rw [Blocking.bind_error hrun] at herror
    cases herror
    exact hdetenido

namespace KernelScheduler

variable {k k' : KernelScheduler} {pid : Pid} {mano : List Pid} {d : Option DespachoPendiente}

/-! ## Ends of processes -/

/-- The release of the mutexes of a process that has come to its end. -/
theorem Ubicado.liberarMutexes (h : k.Ubicado d mano) (pid : Pid) (hlibre : k.mutexListaMutexes = false)
    (hfin : (k.pcbs pid).estado = .exitState) :
    match liberarMutexesDeProceso pid k with
    | .ok _ k' => k'.Ubicado d mano ∧ k'.mutexListaMutexes = false ∧ k'.cpus = k.cpus
    | .error _ k' => k'.Detenido := by
  cases hrun : liberarMutexesDeProceso pid k with
  | error e k' => exact detenido_de_liberar hlibre hrun
  | ok a k' =>
    have hsin := sinDisputa_de_liberar hlibre hrun
    rw [liberarMutexesDeProceso_sinDisputa hlibre hsin] at hrun
    cases hrun
    refine ⟨h.liberados fun hespera ↦ ?_, hlibre, rfl⟩
    rcases (h.estado_en_block hespera).2.2.2 with hestado | hestado
    · rw [hfin] at hestado
      cases hestado
    · rw [hfin] at hestado
      cases hestado

/-- The process in hand comes to its end, or the handler stops. -/
theorem Ubicado.finalizarProceso (h : k.Ubicado d (pid :: mano)) (hlibre : k.mutexListaMutexes = false) :
    match Planificador.finalizarProceso pid k with
    | .ok _ k' => k'.Ubicado d mano ∧ k'.cpus = k.cpus
    | .error _ k' => k'.Detenido := by
  have hfin := h.retirar (fun p ↦ { p with estado := .exitState }) rfl rfl rfl
  have hliberar := hfin.liberarMutexes pid hlibre (estado_cambiarEstado k pid .exitState)
  unfold Planificador.finalizarProceso
  rw [Blocking.bind_ok (x := modify _) rfl]
  cases hrun : liberarMutexesDeProceso pid (k.cambiarEstado pid .exitState) with
  | error e k' =>
    change match liberarMutexesDeProceso pid (k.cambiarEstado pid .exitState) with
      | .ok _ k' => _
      | .error _ k' => _ at hliberar
    rw [hrun] at hliberar
    rw [Blocking.bind_error hrun]
    exact hliberar
  | ok a k' =>
    change match liberarMutexesDeProceso pid (k.cambiarEstado pid .exitState) with
      | .ok _ k' => _
      | .error _ k' => _ at hliberar
    rw [hrun] at hliberar
    rw [Blocking.bind_ok hrun]
    exact ⟨hliberar.1.sinReloj (Eq.refl _), hliberar.2.2⟩

theorem Ubicado.finalizarPcb (h : k.Ubicado d (pid :: mano)) (hlibre : k.mutexListaMutexes = false) :
    ((finalizarPcbPorSegFault pid).final k).Detenido ∨
      ((finalizarPcbPorSegFault pid).final k).Ubicado d mano := by
  have hfin := h.retirar (fun p ↦ { p with estado := .exitState }) rfl rfl rfl
  have hfuera : ((k.cambiarEstado pid .exitState).removerDeListaSuspendidos pid).Ubicado d mano :=
    hfin.congr rfl rfl rfl (fun s _ ↦ by cases s <;> rfl) hfin.slots
  have hliberar := hfuera.liberarMutexes pid hlibre (estado_cambiarEstado k pid .exitState)
  unfold finalizarPcbPorSegFault Blocking.final
  rw [Blocking.bind_ok (x := modify _) rfl, Blocking.bind_ok (x := modify _) rfl]
  cases hrun : liberarMutexesDeProceso pid
      ((k.cambiarEstado pid .exitState).removerDeListaSuspendidos pid) with
  | error e k' =>
    rw [hrun] at hliberar
    rw [Blocking.bind_error hrun]
    exact .inl hliberar
  | ok a k' =>
    rw [hrun] at hliberar
    rw [Blocking.bind_ok hrun]
    have hlimpio := hliberar.1.modificarPcb pid (fun p ↦ { p with stdinPendiente := none }) rfl rfl
      (hliberar.1.dinamicas pid)
    exact .inr (hlimpio.sinReloj (Eq.refl _))

theorem Ubicado.finalizado (h : k.Ubicado d (pid :: mano)) (hlibre : k.mutexListaMutexes = false) :
    ((Planificador.finalizarProceso pid).final k).Detenido ∨
      ((Planificador.finalizarProceso pid).final k).Ubicado d mano := by
  have hfin := h.finalizarProceso hlibre
  unfold Blocking.final
  cases hrun : Planificador.finalizarProceso pid k with
  | ok a k' =>
    rw [hrun] at hfin
    exact .inr hfin.1
  | error e k' =>
    rw [hrun] at hfin
    exact .inl hfin

theorem Ubicado.finalizarYLiberar (h : k.Ubicado d (pid :: mano)) (hlibre : k.mutexListaMutexes = false)
    {cpuId : ℕ} (hreservada : k.Reservada cpuId) :
    ((finalizarYLiberarCpu pid cpuId).final k).Detenido ∨
      ((finalizarYLiberarCpu pid cpuId).final k).Ubicado d mano := by
  have hfin := h.finalizarProceso hlibre
  unfold finalizarYLiberarCpu Blocking.final
  cases hrun : Planificador.finalizarProceso pid k with
  | ok a k' =>
    rw [hrun] at hfin
    rw [Blocking.bind_ok hrun]
    apply Or.inr
    apply hfin.1.liberarReservada
    intro c hc
    rw [hfin.2] at hc
    exact (hreservada c hc).2
  | error e k' =>
    rw [hrun] at hfin
    rw [Blocking.bind_error hrun]
    exact .inl hfin

/-! ## Syscalls -/

theorem Ubicado.pasoMutex (h : k.Ubicado d [pid]) (hpaso : PasoMutex k pid k') : k'.Ubicado d [] := by
  cases hpaso with
  | nada => exact h.encolar
  | crear nombre => exact (h.conMutexNuevo nombre).encolar
  | @tomar i m hm hlibre => exact (h.cambiarPoseedor i (some pid)).encolar
  | tomarNuevo nombre => exact ((h.conMutexNuevo nombre).cambiarPoseedor _ (some pid)).encolar
  | esperar hm hposee =>
    apply Ubicado.notificarEspera
    apply (h.esperarMutex hm).propagar
    intro hniveles
    exact h.dinamicas pid (h.nivelValido List.mem_cons_self hniveles)
  | @soltar i m k₁ k₂ hm _ hcola hk₁ hk₂ =>
    have hsuelto : k₁.Ubicado d [pid] := hk₁ ▸ h.cambiarPoseedor i none
    have hsigue := hsuelto.existen pid List.mem_cons_self
    rw [hk₂]
    exact (hsuelto.recalcular hsigue.1 hsigue.2).encolar
  | @pasar i m siguiente resto k₁ k₂ k₃ hm _ hcola hk₁ hk₂ hk₃ =>
    obtain ⟨hpasado, hexiste, hready⟩ := h.asignarASiguiente hm hcola
    rw [← hk₁] at hpasado hexiste hready
    have hno : (k₁.pcbs siguiente).estado ≠ .new := by
      rw [hready]
      nofun
    have hdespues : k₂.Ubicado d [pid] := hk₂ ▸ hpasado.recalcular hexiste hno
    have hsigue := hdespues.existen pid List.mem_cons_self
    rw [hk₃]
    exact (hdespues.recalcular hsigue.1 hsigue.2).encolar

theorem Ubicado.syscallMutex (h : k.Ubicado d [pid]) (hlibre : k.mutexListaMutexes = false)
    (s : SyscallMutex) : ((manejarSyscallMutex pid s).final k).Ubicado d [] := by
  obtain ⟨k', hrun, hpaso⟩ := manejarSyscallMutex_libre hlibre pid s
  unfold Blocking.final
  rw [hrun]
  exact h.pasoMutex hpaso

theorem Ubicado.syscallIo (h : k.Ubicado d [pid]) (hlibre : k.mutexListaMutexes = false)
    (hestado : (k.pcbs pid).estado = .exec) (pedido : Syscall) {cpuId : ℕ} {respuesta : RespuestaMemoria}
    {caida : Bool} (hsigue : ∀ i ∈ pedido.interfaz k.tablaIos respuesta, k.InterfazSigue caida i)
    (hreservada : (Motivo.syscall pedido).EsSyscallMemoria → k.Reservada cpuId) :
    ((manejarSyscallIo pid pedido cpuId respuesta caida).final k).Detenido ∨
      ((manejarSyscallIo pid pedido cpuId respuesta caida).final k).Ubicado d [] := by
  cases pedido with
  | sleep tiempo =>
    cases tiempo with
    | none => exact .inr h.encolar
    | some tiempo => exact .inr (h.pedirIo activa_de_buscarPorTipo hsigue)
  | ioSleep params =>
    cases params with
    | none => exact .inr h.encolar
    | some params => exact .inr (h.pedirIo activa_de_buscarInterfazIo hsigue)
  | stdin params =>
    cases params with
    | none => exact .inr h.encolar
    | some params => exact .inr (h.pedirIo activa_de_buscarPorTipo hsigue)
  | stdout params =>
    cases params with
    | none => exact .inr h.encolar
    | some params =>
      rw [final_stdout]
      unfold Syscall.interfaz at hsigue
      cases hbuscar : buscarInterfazIoPorTipo k.tablaIos .stdout with
      | none => exact .inr h.encolar
      | some i =>
        cases respuesta with
        | sinRespuesta => exact .inr h.encolar
        | segmentationFault => exact h.finalizarPcb hlibre
        | ok =>
          rw [hbuscar] at hsigue
          exact .inr (h.pedirIo (hbuscar ▸ activa_de_buscarPorTipo) hsigue)
  | memAlloc params =>
    cases params with
    | none => exact h.finalizarYLiberar hlibre (hreservada trivial)
    | some params =>
      cases respuesta with
      | ok => exact .inr (h.devolverOReplanificar hestado (hreservada trivial))
      | segmentationFault => exact h.finalizarYLiberar hlibre (hreservada trivial)
      | sinRespuesta => exact h.finalizarYLiberar hlibre (hreservada trivial)
  | memFree idSegmento =>
    cases idSegmento with
    | none => exact h.finalizarYLiberar hlibre (hreservada trivial)
    | some idSegmento => exact .inr (h.devolverOReplanificar hestado (hreservada trivial))
  | mutexCreate nombre => exact .inr (h.syscallMutex hlibre (.create nombre))
  | mutexLock nombre => exact .inr (h.syscallMutex hlibre (.lock nombre))
  | mutexUnlock nombre => exact .inr (h.syscallMutex hlibre (.unlock nombre))
  | initProc params =>
    cases params with
    | none => exact .inr h.encolar
    | some params => exact .inr (h.crearProceso params.1 params.2).encolar
  | desconocida => exact .inr h.encolar

theorem Ubicado.atenderDevuelto (h : k.Ubicado d [pid]) (hlibre : k.mutexListaMutexes = false)
    (hestado : (k.pcbs pid).estado = .exec) (motivo : Motivo) {cpuId : ℕ} {respuesta : RespuestaMemoria}
    {caida : Bool} (hsigue : ∀ i ∈ motivo.interfaz k.tablaIos respuesta, k.InterfazSigue caida i)
    (hreservada : motivo.EsSyscallMemoria → k.Reservada cpuId) :
    ((Planificador.atenderDevuelto pid motivo cpuId respuesta caida).final k).Detenido ∨
      ((Planificador.atenderDevuelto pid motivo cpuId respuesta caida).final k).Ubicado d [] := by
  cases motivo with
  | quantum => exact .inr h.encolar
  | syscall pedido => exact h.syscallIo hlibre hestado pedido hsigue hreservada
  | exit => exact h.finalizado hlibre
  | error => exact h.finalizado hlibre
  | segfault => exact h.finalizado hlibre
  | desalojo => exact .inr h.encolarDesalojado
  | desalojoCola => exact .inr h.encolarDesalojado
  | desconocido => exact .inr h.encolar

/-! ## Returns -/

/-- `MEM_ALLOC` and `MEM_FREE` that go through: the process goes back to the CPU that has returned it. -/
def Vuelve (motivo : Motivo) (respuesta : RespuestaMemoria) : Prop :=
  match motivo with
  | .syscall (.memAlloc (some _)) => respuesta = .ok
  | .syscall (.memFree (some _)) => True
  | _ => False

instance (motivo : Motivo) (respuesta : RespuestaMemoria) : Decidable (Vuelve motivo respuesta) := by
  unfold Vuelve
  split <;> infer_instance

/-- What a return must not meet: the process that the planner has sent and not marked yet, unless it goes
straight back, and an interface that goes away before the request is queued. -/
def DevolucionATiempo (k : KernelScheduler) (d : Option DespachoPendiente) (r : Receptor) (motivo : Motivo)
    (respuesta : RespuestaMemoria) (caida : Bool) : Prop :=
  ∀ pid ∈ (buscarCpu k.cpus r.cpuId).bind TCpu.procesoActual,
    (enviado d = some pid →
      Vuelve motivo respuesta ∧ ((buscarCpu k.cpus r.cpuId).bind TCpu.socket).isSome) ∧
    ∀ i ∈ motivo.interfaz k.tablaIos respuesta, k.InterfazSigue caida i

instance (k : KernelScheduler) (d : Option DespachoPendiente) (r : Receptor) (motivo : Motivo)
    (respuesta : RespuestaMemoria) (caida : Bool) :
    Decidable (k.DevolucionATiempo d r motivo respuesta caida) :=
  inferInstanceAs (Decidable (∀ pid ∈ (buscarCpu k.cpus r.cpuId).bind TCpu.procesoActual, _ ∧ _))

theorem Ubicado.estado_en_cpu (h : k.Ubicado d mano) (hpid : pid ∈ k.en .cpu) (hd : enviado d ≠ some pid) :
    (k.pcbs pid).estado = .exec := by
  obtain ⟨_, _, hsitio⟩ := h.existe_en hpid
  unfold sitioDe at hsitio
  rw [if_neg hd] at hsitio
  cases hestado : (k.pcbs pid).estado with
  | exec => rfl
  | new | ready | block | suspReady | suspBlock | exitState =>
    rw [hestado] at hsitio
    cases hsitio

theorem mem_en_cpu {c : TCpu} (hc : c ∈ k.cpus) (hpid : c.procesoActual = some pid) : pid ∈ k.en .cpu := by
  apply List.mem_flatMap.mpr
  refine ⟨c, hc, ?_⟩
  rw [enCpu, hpid]
  exact List.mem_cons_self

/-- The process that the planner has sent comes back to its CPU before it is marked. -/
theorem Ubicado.recibirYVolver (h : k.Ubicado d []) {cpuId : ℕ} {motivo : Motivo}
    {respuesta : RespuestaMemoria} (caida : Bool) (hvuelve : Vuelve motivo respuesta)
    (hsocket : ((buscarCpu k.cpus cpuId).bind TCpu.socket).isSome)
    (hactual : (buscarCpu k.cpus cpuId).bind TCpu.procesoActual = some pid) :
    (k.recibirDevolverProceso cpuId motivo respuesta caida).Ubicado d [] := by
  obtain ⟨c, hc, hpid⟩ := Option.bind_eq_some_iff.mp hactual
  obtain ⟨socket, hsocket⟩ := Option.isSome_iff_exists.mp hsocket
  rw [hc, Option.bind_some] at hsocket
  have hvuelta := h.vuelta hc hpid hsocket
  unfold Vuelve at hvuelve
  unfold KernelScheduler.recibirDevolverProceso
  split at hvuelve
  · subst hvuelve
    simp only [if_pos (show Motivo.EsSyscallMemoria (.syscall (.memAlloc (some _))) from trivial),
      KernelScheduler.retirarProcesoReservando, retirarProcesoDeCpuReservando, hactual]
    exact hvuelta
  · simp only [if_pos (show Motivo.EsSyscallMemoria (.syscall (.memFree (some _))) from trivial),
      KernelScheduler.retirarProcesoReservando, retirarProcesoDeCpuReservando, hactual]
    exact hvuelta
  · cases hvuelve

/-- Any other process. -/
theorem Ubicado.recibirYAtender (h : k.Ubicado d []) (hlibre : k.mutexListaMutexes = false) {cpuId : ℕ}
    {motivo : Motivo} {respuesta : RespuestaMemoria} {caida : Bool}
    (hd : ∀ pid ∈ enviado d, (buscarCpu k.cpus cpuId).bind TCpu.procesoActual ≠ some pid)
    (hsigue : ∀ pid ∈ (buscarCpu k.cpus cpuId).bind TCpu.procesoActual,
      ∀ i ∈ motivo.interfaz k.tablaIos respuesta, k.InterfazSigue caida i) :
    (k.recibirDevolverProceso cpuId motivo respuesta caida).Detenido ∨
      (k.recibirDevolverProceso cpuId motivo respuesta caida).Ubicado d [] := by
  have hexec : ∀ pid, (buscarCpu k.cpus cpuId).bind TCpu.procesoActual = some pid →
      (k.pcbs pid).estado = .exec := by
    intro pid hactual
    obtain ⟨c, hc, hpid⟩ := Option.bind_eq_some_iff.mp hactual
    exact h.estado_en_cpu (mem_en_cpu (buscarCpu_mem hc) hpid) fun hmem ↦ hd pid hmem hactual
  unfold KernelScheduler.recibirDevolverProceso
  by_cases hmemoria : motivo.EsSyscallMemoria
  · simp only [if_pos hmemoria, KernelScheduler.retirarProcesoReservando, retirarProcesoDeCpuReservando]
    have hretirado := h.vaciarSlot cpuId (fun c ↦
      { c with procesoActual := none, timerActivo := false }) (fun _ ↦ rfl) hd fun _ ↦ ⟨rfl, rfl⟩
    have hmismo := buscarCpu_modificarCpu_mismo
      (f := fun c ↦ { c with procesoActual := none, timerActivo := false }) k.cpus cpuId fun _ ↦ rfl
    cases hactual : (buscarCpu k.cpus cpuId).bind TCpu.procesoActual with
    | none =>
      rw [hactual] at hretirado
      apply Or.inr
      apply hretirado.liberarReservada
      intro c hc
      obtain ⟨c', _, rfl⟩ := Option.map_eq_some_iff.mp (hmismo.symm.trans hc)
      rfl
    | some pid =>
      rw [hactual] at hretirado
      apply hretirado.atenderDevuelto hlibre (hexec pid hactual) motivo (hsigue pid hactual)
      intro _ c hc
      obtain ⟨c', hc', rfl⟩ := Option.map_eq_some_iff.mp (hmismo.symm.trans hc)
      rw [hc', Option.bind_some] at hactual
      refine ⟨(h.slots.ciertos c' (buscarCpu_mem hc')).1 ?_, rfl⟩
      rw [hactual]
      rfl
  · simp only [if_neg hmemoria, KernelScheduler.retirarProceso, retirarProcesoDeCpu]
    have hretirado := h.vaciarSlot cpuId (fun c ↦
      { c with procesoActual := none, timerActivo := false, disponible := true }) (fun _ ↦ rfl) hd
        fun _ ↦ ⟨rfl, rfl⟩
    have hposteado : { k with
        cpus := Planificador.modificarCpu k.cpus cpuId fun c ↦
          { c with procesoActual := none, timerActivo := false, disponible := true }
        semCpuDisponible := k.semCpuDisponible + 1 }.Ubicado d
          ((buscarCpu k.cpus cpuId).bind TCpu.procesoActual).toList :=
      hretirado.sinReloj (Eq.refl _)
    cases hactual : (buscarCpu k.cpus cpuId).bind TCpu.procesoActual with
    | none =>
      rw [hactual] at hposteado
      exact .inr hposteado
    | some pid =>
      rw [hactual] at hposteado
      apply hposteado.atenderDevuelto hlibre (hexec pid hactual) motivo (hsigue pid hactual)
      exact fun hsi ↦ absurd hsi hmemoria

theorem Ubicado.recibirDevolverProceso (h : k.Ubicado d []) (hlibre : k.mutexListaMutexes = false)
    {r : Receptor} {motivo : Motivo} {respuesta : RespuestaMemoria} {caida : Bool}
    (hsana : k.DevolucionATiempo d r motivo respuesta caida) :
    (k.recibirDevolverProceso r.cpuId motivo respuesta caida).Detenido ∨
      (k.recibirDevolverProceso r.cpuId motivo respuesta caida).Ubicado d [] := by
  by_cases hd : ∀ pid ∈ enviado d, (buscarCpu k.cpus r.cpuId).bind TCpu.procesoActual ≠ some pid
  · apply h.recibirYAtender hlibre hd
    intro pid hactual
    exact (hsana pid hactual).2
  · push Not at hd
    obtain ⟨pid, hpid, hactual⟩ := hd
    have hvuelve := (hsana pid hactual).1 hpid
    exact .inr (h.recibirYVolver caida hvuelve.1 hvuelve.2 hactual)

/-! ## The other steps -/

/-- A process leaves NEW: it is in hand, or freed when its priority has no queue. -/
theorem Ubicado.admitir (h : k.Ubicado d []) {resto : List Pid} (hcola : k.colaProcesosNew = pid :: resto)
    (semNew : ℕ) :
    if 0 < k.cantidadNivelesPrioridad → k.NivelValido (k.pcbs pid).prioridad then
      ({ k with semNew := semNew, colaProcesosNew := resto }.cambiarEstado pid .ready).Ubicado d [pid]
    else ({ k with semNew := semNew, colaProcesosNew := resto }.cambiarEstado pid .ready).Ubicado d [] := by
  have hpid : pid ∈ k.en .new := by
    show pid ∈ k.colaProcesosNew
    rw [hcola]
    exact List.mem_cons_self
  have hantes := h.donde_en hpid
  obtain ⟨hexiste, _, hsitio⟩ := h.existe_en hpid
  have hd : enviado d ≠ some pid := by
    intro hd
    unfold sitioDe at hsitio
    rw [if_pos hd] at hsitio
    cases hsitio
  generalize hk' : { k with semNew := semNew, colaProcesosNew := resto }.cambiarEstado pid .ready = k'
  have hpcbs : ∀ q, q ≠ pid → k'.pcbs q = k.pcbs q := by
    intro q hq
    rw [← hk']
    exact Function.update_of_ne hq _ _
  have hsuyo : k'.pcbs pid = { k.pcbs pid with estado := .ready } := by
    rw [← hk']
    exact Function.update_self _ _ _
  have hcontador : k'.contadorPids = k.contadorPids := by rw [← hk']; rfl
  have hniveles : k'.cantidadNivelesPrioridad = k.cantidadNivelesPrioridad := by rw [← hk']; rfl
  have hslots : SlotsCiertos d k'.cpus := by rw [← hk']; exact h.slots
  have hcuenta : ∀ t q, (k'.en t).count q + (if Sitio.new = t then [pid].count q else 0) =
      (k.en t).count q := by
    intro t q
    rw [← hk']
    cases t with
    | new =>
      rw [if_pos rfl]
      show resto.count q + _ = k.colaProcesosNew.count q
      rw [hcola, count_mano pid resto]
    | ready => rfl
    | cpu => rfl
    | block => rfl
  have hexiste' : k'.Existe pid ↔ (0 < k.cantidadNivelesPrioridad → k.NivelValido (k.pcbs pid).prioridad) := by
    unfold Existe Vigente NivelValido
    rw [hcontador, hniveles, hsuyo]
    exact ⟨fun hvivo ↦ hvivo.2 nofun, fun hvalida ↦ ⟨⟨hexiste.1.1, nofun⟩, fun _ ↦ hvalida⟩⟩
  have hdinamica : k'.NivelValido (k'.pcbs pid).prioridad →
      k'.NivelValido (k'.pcbs pid).prioridadDinamica := by
    unfold NivelValido
    rw [hniveles, hsuyo]
    exact h.dinamicas pid
  have hsuspendido : (k'.pcbs pid).estado = .suspReady → k'.Existe pid := by
    rw [hsuyo]
    nofun
  split
  · rename_i hvalida
    refine h.mover pid hcontador hniveles hpcbs (fun q hq ↦ ?_) (fun _ _ ↦ Iff.rfl) (fun t q ↦ ?_)
      (List.pairwise_singleton _ pid) (fun _ ↦ ⟨hexiste'.mpr hvalida, ?_⟩) (fun hno ↦ absurd hno hd)
      hsuspendido hdinamica hslots
    · rw [List.mem_singleton]
      exact ⟨fun hmem ↦ absurd hmem hq, nofun⟩
    · rw [donde_mano List.mem_cons_self, hantes, ← hcuenta t q]
      simp
    · rw [hsuyo]
      nofun
  · rename_i hinvalida
    refine h.mover pid hcontador hniveles hpcbs (fun _ _ ↦ Iff.rfl) (fun _ _ ↦ Iff.rfl) (fun t q ↦ ?_)
      List.nodup_nil nofun (fun hno ↦ absurd hno hd) hsuspendido hdinamica hslots
    have hfuera : k'.donde d [] pid = none := by
      unfold donde
      exact if_neg fun hsi ↦ hinvalida (hexiste'.mp hsi.1)
    rw [hfuera, hantes, ← hcuenta t q]
    simp

theorem Ubicado.planificarLargoPlazo (h : k.Ubicado d []) (hpaso : k.planificarLargoPlazo = some k') :
    k'.Ubicado d [] := by
  unfold KernelScheduler.planificarLargoPlazo at hpaso
  split at hpaso
  · cases hpaso
  simp only at hpaso
  split at hpaso
  · cases hpaso
    exact h.sinReloj (Eq.refl _)
  rename_i pid resto hcola
  have hcola : k.colaProcesosNew = pid :: resto := hcola
  have hadmitido := h.admitir hcola (k.semNew - 1)
  have hestado := estado_cambiarEstado
    { k with semNew := k.semNew - 1, colaProcesosNew := resto } pid .ready
  have hprioridad : ((KernelScheduler.cambiarEstado
      { k with semNew := k.semNew - 1, colaProcesosNew := resto } pid .ready).pcbs pid).prioridad =
      (k.pcbs pid).prioridad := by
    unfold KernelScheduler.cambiarEstado
    rw [pcbs_modificarPcb_mismo]
  split at hpaso
  · rename_i hniveles
    cases hpaso
    unfold encolarEnReadyPorPrioridad
    by_cases hvalida : k.NivelValido (k.pcbs pid).prioridad
    · rw [if_pos fun _ ↦ hvalida] at hadmitido
      have hvalida' : (KernelScheduler.cambiarEstado
          { k with semNew := k.semNew - 1, colaProcesosNew := resto } pid .ready).NivelValido
            ((KernelScheduler.cambiarEstado
          { k with semNew := k.semNew - 1, colaProcesosNew := resto } pid .ready).pcbs pid).prioridad := by
        rw [hprioridad]
        exact hvalida
      rw [if_pos hvalida']
      have hready := hadmitido.cambiarEstado List.mem_cons_self .ready (by decide)
      have hcola := hready.enCola hvalida' (estado_cambiarEstado _ pid .ready) (· ++ [pid])
        fun _ _ ↦ List.count_append
      apply Ubicado.verificar
      exact hcola.sinReloj (Eq.refl _)
    · have hinvalida : ¬ (0 < k.cantidadNivelesPrioridad → k.NivelValido (k.pcbs pid).prioridad) :=
        fun hsi ↦ hvalida (hsi hniveles)
      rw [if_neg hinvalida] at hadmitido
      have hinvalida' : ¬ (KernelScheduler.cambiarEstado
          { k with semNew := k.semNew - 1, colaProcesosNew := resto } pid .ready).NivelValido
            ((KernelScheduler.cambiarEstado
          { k with semNew := k.semNew - 1, colaProcesosNew := resto } pid .ready).pcbs pid).prioridad := by
        rw [hprioridad]
        exact hvalida
      rw [if_neg hinvalida']
      exact hadmitido
  · rename_i hniveles
    cases hpaso
    have hsinNiveles : 0 < k.cantidadNivelesPrioridad → k.NivelValido (k.pcbs pid).prioridad :=
      fun hsi ↦ absurd hsi hniveles
    rw [if_pos hsinNiveles] at hadmitido
    exact hadmitido.enReady hestado (fun q ↦ List.count_append) _

/-- A turn of the short-term planner that does not dispatch. -/
theorem Ubicado.planificarCortoPlazo (h : k.Ubicado d []) (hfase : k.fasePcp ≠ .despachar) {ahora : ℤ}
    (hpaso : k.planificarCortoPlazo ahora = some k') : k'.Ubicado d [] := by
  unfold KernelScheduler.planificarCortoPlazo at hpaso
  split at hpaso
  · split at hpaso
    · cases hpaso
    split at hpaso
    · cases hpaso
      exact h
    split at hpaso
    · cases hpaso
      exact h.sinReloj (Eq.refl _)
    · cases hpaso
      exact h.sinReloj (Eq.refl _)
  · rename_i hdespachar
    exact absurd hdespachar hfase
  · split at hpaso
    · cases hpaso
    · cases hpaso
      exact h.sinReloj (Eq.refl _)
  · split at hpaso
    · cases hpaso
      exact h.sinReloj (Eq.refl _)
    split at hpaso
    · cases hpaso
    · cases hpaso
      exact h.sinReloj (Eq.refl _)

/-- A process in BLOCK is suspended where it is. -/
theorem Ubicado.suspender (h : k.Ubicado d mano) (hpid : pid ∈ k.colaProcesosBlock) :
    (k.modificarPcb pid fun p ↦ { p with estado := .suspBlock, suspendidoEnSwap := false }).Ubicado d mano := by
  obtain ⟨hexiste, hfuera, hd, hestado⟩ := h.estado_en_block (List.mem_append_left _ hpid)
  have hviejo : (k.pcbs pid).estado ≠ .new := by
    rcases hestado with hestado | hestado
    · rw [hestado]
      nofun
    · rw [hestado]
      nofun
  have hexiste' : (k.modificarPcb pid fun p ↦
      { p with estado := .suspBlock, suspendidoEnSwap := false }).Existe pid := by
    unfold Existe Vigente
    rw [pcbs_modificarPcb_mismo]
    exact ⟨⟨hexiste.1.1, nofun⟩, fun _ ↦ hexiste.2 hviejo⟩
  have hdonde : (k.modificarPcb pid fun p ↦
      { p with estado := .suspBlock, suspendidoEnSwap := false }).donde d mano pid = k.donde d mano pid := by
    rw [donde_fuera hexiste' hfuera, donde_fuera hexiste hfuera]
    unfold sitioDe
    rw [if_neg hd, if_neg hd, pcbs_modificarPcb_mismo]
    rcases hestado with hestado | hestado
    · rw [hestado]
      rfl
    · rw [hestado]
  refine h.mover pid rfl rfl (fun q hq ↦ ?_) (fun _ _ ↦ Iff.rfl) (fun _ _ ↦ Iff.rfl) (fun s q ↦ ?_)
    h.distintos (fun hno ↦ absurd hno hfuera) (fun hno ↦ absurd hno hd) (fun _ ↦ hexiste') ?_ h.slots
  · rw [pcbs_modificarPcb, if_neg hq]
  · rw [hdonde]
    rfl
  · rw [pcbs_modificarPcb_mismo]
    exact h.dinamicas pid

theorem Ubicado.vencerSuspension (h : k.Ubicado d mano) {i : ℕ} (hpaso : k.vencerSuspension i = some k') :
    k'.Ubicado d mano := by
  unfold KernelScheduler.vencerSuspension at hpaso
  split at hpaso
  · cases hpaso
  split at hpaso
  · cases hpaso
  split at hpaso
  · rename_i hblock
    cases hpaso
    have hsusp := h.suspender hblock.1
    exact hsusp.congr rfl rfl rfl (fun s _ ↦ by cases s <;> rfl) hsusp.slots
  · cases hpaso
    exact h.sinReloj (Eq.refl _)

theorem Ubicado.terminarSuspension (h : k.Ubicado d mano) {i : ℕ}
    (hpaso : k.terminarSuspension i = some k') : k'.Ubicado d mano := by
  unfold KernelScheduler.terminarSuspension at hpaso
  split at hpaso
  · cases hpaso
  split at hpaso
  · cases hpaso
  rename_i t _ _
  cases hpaso
  split
  · have hvolcado := h.modificarPcb t.pid (fun p ↦ { p with suspendidoEnSwap := true }) rfl rfl
      (h.dinamicas t.pid)
    exact hvolcado.sinReloj (Eq.refl _)
  · exact h.sinReloj (Eq.refl _)

theorem Ubicado.desSuspender (h : k.Ubicado d []) (hlibre : k.mutexListaMutexes = false)
    {respuesta escritura : RespuestaMemoria} (hpaso : k.desSuspender pid respuesta escritura = some k') :
    k'.Detenido ∨ k'.Ubicado d [] := by
  unfold KernelScheduler.desSuspender at hpaso
  split at hpaso
  swap
  · cases hpaso
  rename_i hsusp
  split at hpaso
  · cases hpaso
    exact .inr h
  have hmano : (k.removerDeListaSuspendidos pid).Ubicado d [pid] := by
    have hen := h.deSuspReady hsusp.2 List.not_mem_nil
    exact hen.congr rfl rfl rfl (fun s _ ↦ by cases s <;> rfl) hen.slots
  have hescrito := hmano.modificarPcb pid (fun p ↦ { p with stdinPendiente := none }) rfl rfl
    (hmano.dinamicas pid)
  simp only at hpaso
  split at hpaso
  · cases hpaso
    exact .inr hmano.encolar
  split at hpaso
  · cases hpaso
    exact .inr hescrito.encolar
  · cases hpaso
    exact hescrito.finalizarPcb hlibre

theorem Ubicado.concluirIo {req : IoRequest} (h : k.Ubicado d [req.proceso])
    (hlibre : k.mutexListaMutexes = false) (datos : List UInt8) (escritura : RespuestaMemoria) :
    ((Planificador.concluirIo req datos escritura).final k).Detenido ∨
      ((Planificador.concluirIo req datos escritura).final k).Ubicado d [] := by
  unfold Planificador.concluirIo
  cases req.tipo with
  | sleep => exact .inr h.desbloquear
  | stdout => exact .inr h.desbloquear
  | stdin =>
    simp only
    unfold Blocking.final
    rw [Blocking.bind_ok (x := get) rfl]
    by_cases hsusp : (k.pcbs req.proceso).estado = .suspBlock
    · rw [if_pos hsusp]
      exact .inr (h.diferirStdin _)
    rw [if_neg hsusp]
    by_cases hok : escritura = .ok
    · rw [if_pos hok]
      exact .inr h.encolar
    · rw [if_neg hok]
      exact h.finalizarPcb hlibre

theorem Ubicado.terminarIo (h : k.Ubicado d []) (hlibre : k.mutexListaMutexes = false) {i : ℕ} {fin : FinIo}
    {escritura : RespuestaMemoria} (hpaso : k.terminarIo i fin escritura = some k') :
    k'.Detenido ∨ k'.Ubicado d [] := by
  unfold KernelScheduler.terminarIo at hpaso
  split at hpaso
  · cases hpaso
  split at hpaso
  · cases hpaso
    exact .inr (h.modificarIo i _)
  split at hpaso
  · cases hpaso
    exact .inr (h.modificarIo i _)
  · cases hpaso
  · rename_i hextraer
    cases hpaso
    apply Ubicado.concluirIo ((h.modificarIo i _).extraer hextraer)
    unfold extraerDeBlock at hextraer
    split at hextraer
    swap
    · cases hextraer
    split at hextraer <;> cases hextraer
    exact hlibre

/-- What a step must not meet while the planner has sent a process and not marked it yet. -/
def ATiempo (k : KernelScheduler) (d : Option DespachoPendiente) : Evento → Prop
  | .devolverProceso r motivo respuesta caida => k.DevolucionATiempo d r motivo respuesta caida
  | _ => True

instance (k : KernelScheduler) (d : Option DespachoPendiente) : (e : Evento) → Decidable (k.ATiempo d e)
  | .devolverProceso r motivo respuesta caida =>
    inferInstanceAs (Decidable (k.DevolucionATiempo d r motivo respuesta caida))
  | .crearProceso _ _ | .planificarLargoPlazo | .planificarCortoPlazo _ | .conectarCpu _ _ | .desconectarCpu _
  | .vencerQuantum _ | .conectarIo _ | .tomarIo _ | .terminarIo _ _ _ | .vencerSuspension _
  | .terminarSuspension _ | .desSuspender _ _ _ | .iniciarCompactacion | .finalizarCompactacion =>
    inferInstanceAs (Decidable True)

/-- A step that is not a dispatch. -/
theorem Ubicado.paso (h : k.Ubicado d []) (hlibre : k.mutexListaMutexes = false) {e : Evento}
    (hfase : ∀ ahora, e = .planificarCortoPlazo ahora → k.fasePcp ≠ .despachar) (hsana : k.ATiempo d e)
    (hpaso : Planificador.paso k e = some k') : k'.Detenido ∨ k'.Ubicado d [] := by
  cases e with
  | crearProceso path prioridad =>
    cases hpaso
    exact .inr (h.crearProceso path prioridad)
  | planificarLargoPlazo => exact .inr (h.planificarLargoPlazo hpaso)
  | planificarCortoPlazo ahora => exact .inr (h.planificarCortoPlazo (hfase ahora rfl) hpaso)
  | devolverProceso r motivo respuesta caida =>
    simp only [Planificador.paso] at hpaso
    split at hpaso <;> cases hpaso
    exact h.recibirDevolverProceso hlibre hsana
  | conectarCpu socket cpuId =>
    simp only [Planificador.paso] at hpaso
    split at hpaso <;> cases hpaso
    exact .inr (h.conectarCpu socket cpuId)
  | desconectarCpu r =>
    simp only [Planificador.paso] at hpaso
    split at hpaso <;> cases hpaso
    exact .inr (h.desconectarCpu r)
  | vencerQuantum t =>
    simp only [Planificador.paso] at hpaso
    split at hpaso <;> cases hpaso
    exact .inr (h.vencerTimerQuantum t)
  | conectarIo nombre =>
    cases hpaso
    unfold registrarInterfazIo
    split
    · exact .inr (h.congr rfl rfl rfl (fun s _ ↦ by cases s <;> rfl) h.slots)
    · exact .inr h
  | tomarIo i =>
    simp only [Planificador.paso, KernelScheduler.tomarIo] at hpaso
    split at hpaso
    · cases hpaso
    split at hpaso <;> cases hpaso
    exact .inr (h.modificarIo i _)
  | terminarIo i fin escritura => exact h.terminarIo hlibre hpaso
  | vencerSuspension i => exact .inr (h.vencerSuspension hpaso)
  | terminarSuspension i => exact .inr (h.terminarSuspension hpaso)
  | desSuspender pid respuesta escritura => exact h.desSuspender hlibre hpaso
  | iniciarCompactacion =>
    cases hpaso
    exact .inr (h.sinReloj (Eq.refl _))
  | finalizarCompactacion =>
    cases hpaso
    exact .inr (h.sinReloj (Eq.refl _))

end KernelScheduler

end PlugAndPlay.Planificador
