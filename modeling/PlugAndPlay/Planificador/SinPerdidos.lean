import PlugAndPlay.Planificador.ProgresoIo

/-!
# No process is lost

The handlers and steps that keep all processes able to make progress, and the runs made of them. The
others lose one: an interface or a CPU that goes away with a process, a process whose priority has no
queue, and a release of mutexes that stops at a lock.
-/

open PlugAndPlay.Library

namespace PlugAndPlay.Planificador

/-! ## Which process ends and which interface is asked -/

/-- The syscall ends the process. -/
def Syscall.termina (tabla : List InterfazIo) (respuesta : RespuestaMemoria) : Syscall → Bool
  | .stdout (some _) =>
    (buscarInterfazIoPorTipo tabla .stdout).isSome && respuesta = .segmentationFault
  | .memAlloc (some _) => respuesta ≠ .ok
  | .memAlloc none | .memFree none => true
  | _ => false

/-- The interface that the syscall gets to ask. -/
def Syscall.interfaz (tabla : List InterfazIo) (respuesta : RespuestaMemoria) : Syscall → Option ℕ
  | .sleep (some _) => buscarInterfazIoPorTipo tabla .sleep
  | .ioSleep (some (nombre, _)) => buscarInterfazIo tabla nombre
  | .stdin (some _) => buscarInterfazIoPorTipo tabla .stdin
  | .stdout (some _) => if respuesta = .ok then buscarInterfazIoPorTipo tabla .stdout else none
  | _ => none

def Motivo.termina (tabla : List InterfazIo) (respuesta : RespuestaMemoria) : Motivo → Bool
  | .exit | .error | .segfault => true
  | .syscall pedido => pedido.termina tabla respuesta
  | _ => false

def Motivo.interfaz (tabla : List InterfazIo) (respuesta : RespuestaMemoria) : Motivo → Option ℕ
  | .syscall pedido => pedido.interfaz tabla respuesta
  | _ => none

namespace KernelScheduler

variable {k k' : KernelScheduler} {pid : Pid} {mano : List Pid}

/-- Nobody waits for a mutex of the process. -/
def SinDisputa (k : KernelScheduler) (pid : Pid) : Prop := ∀ m ∈ k.listaMutexes, m.SinDisputa pid

instance (m : MutexSistema) (pid : Pid) : Decidable (m.SinDisputa pid) :=
  inferInstanceAs (Decidable (_ → _))

instance (k : KernelScheduler) : DecidablePred k.SinDisputa := fun _ ↦
  inferInstanceAs (Decidable (∀ m ∈ k.listaMutexes, _))

/-- The connection of the interface does not end while it serves a request. -/
def InterfazSigue (k : KernelScheduler) (caida : Bool) (i : ℕ) : Prop :=
  ¬ (caida ∧ (k.tablaIos[i]?.bind InterfazIo.atendido).isSome)

instance (k : KernelScheduler) (caida : Bool) : DecidablePred (k.InterfazSigue caida) := fun _ ↦
  inferInstanceAs (Decidable (¬ _))

theorem Cuidado.vivo (h : k.Cuidado mano) (hpid : pid ∈ mano) : (k.pcbs pid).estado ≠ .exitState := by
  intro hexit
  have huno := h.unLugar pid
  have hmano := List.count_pos_iff.mpr hpid
  have hno : ¬ k.Vigente pid := fun hvig ↦ hvig.2 hexit
  rw [if_neg hno] at huno
  omega

/-! ## Ends of processes -/

theorem finalizarProceso_sinDisputa (hlibre : k.mutexListaMutexes = false) (h : k.SinDisputa pid) :
    finalizarProceso pid k = .ok () ({ k.cambiarEstado pid .exitState with
      listaMutexes := k.listaMutexes.map (MutexSistema.liberado pid) }.eliminarPcb pid) := by
  have hliberar := liberarMutexesDeProceso_sinDisputa (k := k.cambiarEstado pid .exitState) hlibre h
  unfold finalizarProceso
  rw [Blocking.bind_ok (x := modify _) rfl, Blocking.bind_ok hliberar]
  rfl

theorem finalizarPcb_sinDisputa (hlibre : k.mutexListaMutexes = false) (h : k.SinDisputa pid) :
    finalizarPcbPorSegFault pid k = .ok () (({ k.cambiarEstado pid .exitState with
      listaMutexes := k.listaMutexes.map (MutexSistema.liberado pid)
      listaSuspendidos := k.listaSuspendidos.erase pid }.modificarPcb pid fun p ↦
        { p with stdinPendiente := none }).eliminarPcb pid) := by
  have hliberar := liberarMutexesDeProceso_sinDisputa
    (k := (k.cambiarEstado pid .exitState).removerDeListaSuspendidos pid) hlibre h
  unfold finalizarPcbPorSegFault
  rw [Blocking.bind_ok (x := modify _) rfl, Blocking.bind_ok (x := modify _) rfl,
    Blocking.bind_ok hliberar]
  rfl

theorem Cuidado.finalizarProceso (h : k.Cuidado [pid]) (hsin : k.SinDisputa pid) :
    ∃ k', Planificador.finalizarProceso pid k = .ok () k' ∧ k'.Cuidado [] ∧ k'.cpus = k.cpus := by
  refine ⟨_, finalizarProceso_sinDisputa h.libre hsin, ?_, rfl⟩
  exact (h.finalizado hsin fun _ _ ↦ id).salvoReloj (Eq.refl _)

theorem Cuidado.finalizarPcb (h : k.Cuidado [pid]) (hsin : k.SinDisputa pid) :
    ((finalizarPcbPorSegFault pid).final k).Cuidado [] := by
  have hfin := h.finalizado hsin fun q hq ↦ (List.mem_erase_of_ne hq).mpr
  have hlimpio := hfin.modificarPcb pid (fun p ↦ { p with stdinPendiente := none }) (.inl rfl) rfl
    fun hvalidas hniveles ↦ (hvalidas hniveles).2
  unfold Blocking.final
  rw [finalizarPcb_sinDisputa h.libre hsin]
  exact hlimpio.salvoReloj (Eq.refl _)

/-! ## Syscalls -/

theorem Cuidado.pasoMutex (h : k.Cuidado [pid]) (hpaso : PasoMutex k pid k') : k'.Cuidado [] := by
  cases hpaso with
  | nada => exact h.encolar
  | crear nombre => exact (h.conMutexNuevo nombre).encolar
  | tomar hm hlibre =>
    refine (h.cambiarPoseedor hm (fun q hq ↦ ?_) (.inl hlibre)).encolar
    exact List.mem_singleton.mpr (Option.some.inj hq).symm
  | tomarNuevo nombre =>
    refine ((h.conMutexNuevo nombre).cambiarPoseedor List.getElem?_concat_length (fun q hq ↦ ?_)
      (.inl rfl)).encolar
    exact List.mem_singleton.mpr (Option.some.inj hq).symm
  | esperar hm hposee =>
    refine ((h.esperarMutex hm hposee).propagar _ pid fun hniveles ↦ ?_).notificarEspera pid
    exact (h.validos pid (.inl (h.iniciado List.mem_cons_self)) hniveles).2
  | @soltar i m k₁ k₂ hm _ hcola hk₁ hk₂ =>
    have hsuelto : (k.modificarMutex i fun m ↦ { m with asignadoAPid := none }).Cuidado [pid] :=
      h.cambiarPoseedor hm (fun q hq ↦ by cases hq) (.inr hcola)
    rw [hk₂, hk₁]
    exact (hsuelto.recalcular (hsuelto.iniciado List.mem_cons_self)).encolar
  | @pasar i m siguiente resto k₁ k₂ k₃ hm _ hcola hk₁ hk₂ hk₃ =>
    have hpasado : k₁.Cuidado [pid] := hk₁ ▸ h.asignarASiguiente hm hcola
    have hready : (k₁.pcbs siguiente).estado ≠ .new := by
      unfold KernelScheduler.asignarASiguiente at hk₁
      rw [hk₁, (salvoReady_encolar _ siguiente).pcbs]
      unfold KernelScheduler.cambiarEstado
      rw [pcbs_modificarPcb_mismo]
      nofun
    have hdespues : k₂.Cuidado [pid] := hk₂ ▸ hpasado.recalcular hready
    rw [hk₃]
    exact (hdespues.recalcular (hdespues.iniciado List.mem_cons_self)).encolar

theorem Cuidado.syscallMutex (h : k.Cuidado [pid]) (s : SyscallMutex) :
    ((manejarSyscallMutex pid s).final k).Cuidado [] := by
  obtain ⟨k', hrun, hpaso⟩ := manejarSyscallMutex_libre h.libre pid s
  unfold Blocking.final
  rw [hrun]
  exact h.pasoMutex hpaso

theorem Cuidado.pedirIo {req : IoRequest} (h : k.Cuidado (req.proceso :: mano)) {interfaz : Option ℕ}
    {caida : Bool} (hactiva : ∀ i ∈ interfaz, ∃ io, k.tablaIos[i]? = some io ∧ io.activa)
    (hsigue : ∀ i ∈ interfaz, k.InterfazSigue caida i) :
    (k.pedirIo interfaz req caida).Cuidado mano := by
  unfold KernelScheduler.pedirIo
  cases interfaz with
  | none => exact h.encolar
  | some i =>
    obtain ⟨io, hio, hactiva⟩ := hactiva i rfl
    simp only
    rw [if_neg (hsigue i rfl)]
    exact h.encolarIoRequest hio hactiva

theorem activa_de_buscarInterfazIo {tabla : List InterfazIo} {nombre : String} :
    ∀ i ∈ buscarInterfazIo tabla nombre, ∃ io, tabla[i]? = some io ∧ io.activa := by
  intro i hi
  obtain ⟨hlt, hio, _⟩ := List.findIdx?_eq_some_iff_getElem.mp hi
  exact ⟨_, List.getElem?_eq_getElem hlt, (of_decide_eq_true hio).1⟩

theorem activa_de_buscarPorTipo {tabla : List InterfazIo} {tipo : IoType} :
    ∀ i ∈ buscarInterfazIoPorTipo tabla tipo, ∃ io, tabla[i]? = some io ∧ io.activa := by
  intro i hi
  obtain ⟨hlt, hio, _⟩ := List.findIdx?_eq_some_iff_getElem.mp hi
  exact ⟨_, List.getElem?_eq_getElem hlt, (of_decide_eq_true hio).1⟩

/-- The slot of the connection is held for the process that its CPU returned. -/
def Reservada (k : KernelScheduler) (cpuId : ℕ) : Prop :=
  ∀ c, buscarCpu k.cpus cpuId = some c → c.disponible = false ∧ c.procesoActual = none

theorem Cuidado.finalizarYLiberar (h : k.Cuidado [pid]) (hsin : k.SinDisputa pid) {cpuId : ℕ}
    (hreservada : k.Reservada cpuId) : ((finalizarYLiberarCpu pid cpuId).final k).Cuidado [] := by
  obtain ⟨k', hrun, hk', hcpus⟩ := h.finalizarProceso hsin
  unfold Blocking.final finalizarYLiberarCpu
  rw [Blocking.bind_ok hrun]
  apply hk'.liberarReservada
  intro c hc
  rw [hcpus] at hc
  exact (hreservada c hc).2

theorem final_stdout (params : ℤ × ℤ) (cpuId : ℕ) (respuesta : RespuestaMemoria) (caida : Bool) :
    (manejarSyscallIo pid (.stdout (some params)) cpuId respuesta caida).final k =
      match buscarInterfazIoPorTipo k.tablaIos .stdout, respuesta with
      | none, _ | some _, .sinRespuesta => k.encolarEnReadyYNotificar pid
      | some _, .segmentationFault => (finalizarPcbPorSegFault pid).final k
      | some i, .ok => k.pedirIo (some i) ⟨pid, .stdout, params.1, params.2⟩ caida := by
  unfold manejarSyscallIo Blocking.final
  simp only
  rw [Blocking.bind_ok (x := get) rfl]
  cases buscarInterfazIoPorTipo k.tablaIos .stdout with
  | none => rfl
  | some i => cases respuesta <;> rfl

theorem Cuidado.syscallIo (h : k.Cuidado [pid]) (pedido : Syscall) {cpuId : ℕ}
    {respuesta : RespuestaMemoria} {caida : Bool}
    (hsin : pedido.termina k.tablaIos respuesta → k.SinDisputa pid)
    (hsigue : ∀ i ∈ pedido.interfaz k.tablaIos respuesta, k.InterfazSigue caida i)
    (hreservada : (Motivo.syscall pedido).EsSyscallMemoria → k.Reservada cpuId) :
    ((manejarSyscallIo pid pedido cpuId respuesta caida).final k).Cuidado [] := by
  cases pedido with
  | sleep tiempo =>
    cases tiempo with
    | none => exact h.encolar
    | some tiempo => exact h.pedirIo activa_de_buscarPorTipo hsigue
  | ioSleep params =>
    cases params with
    | none => exact h.encolar
    | some params => exact h.pedirIo activa_de_buscarInterfazIo hsigue
  | stdin params =>
    cases params with
    | none => exact h.encolar
    | some params => exact h.pedirIo activa_de_buscarPorTipo hsigue
  | stdout params =>
    cases params with
    | none => exact h.encolar
    | some params =>
      rw [final_stdout]
      unfold Syscall.termina Syscall.interfaz at *
      cases hbuscar : buscarInterfazIoPorTipo k.tablaIos .stdout with
      | none => exact h.encolar
      | some i =>
        cases respuesta with
        | sinRespuesta => exact h.encolar
        | segmentationFault => exact h.finalizarPcb (hsin (by simp [hbuscar]))
        | ok =>
          rw [hbuscar] at hsigue
          exact h.pedirIo (hbuscar ▸ activa_de_buscarPorTipo) hsigue
  | memAlloc params =>
    cases params with
    | none => exact h.finalizarYLiberar (hsin rfl) (hreservada trivial)
    | some params =>
      cases respuesta with
      | ok => exact h.devolverOReplanificar (h.vivo List.mem_cons_self) (hreservada trivial)
      | segmentationFault => exact h.finalizarYLiberar (hsin rfl) (hreservada trivial)
      | sinRespuesta => exact h.finalizarYLiberar (hsin rfl) (hreservada trivial)
  | memFree idSegmento =>
    cases idSegmento with
    | none => exact h.finalizarYLiberar (hsin rfl) (hreservada trivial)
    | some idSegmento => exact h.devolverOReplanificar (h.vivo List.mem_cons_self) (hreservada trivial)
  | mutexCreate nombre => exact h.syscallMutex (.create nombre)
  | mutexLock nombre => exact h.syscallMutex (.lock nombre)
  | mutexUnlock nombre => exact h.syscallMutex (.unlock nombre)
  | initProc params =>
    cases params with
    | none => exact h.encolar
    | some params => exact (h.crearProceso params.1 params.2).encolar
  | desconocida => exact h.encolar

theorem Cuidado.atenderDevuelto (h : k.Cuidado [pid]) (motivo : Motivo) {cpuId : ℕ}
    {respuesta : RespuestaMemoria} {caida : Bool}
    (hsin : motivo.termina k.tablaIos respuesta → k.SinDisputa pid)
    (hsigue : ∀ i ∈ motivo.interfaz k.tablaIos respuesta, k.InterfazSigue caida i)
    (hreservada : motivo.EsSyscallMemoria → k.Reservada cpuId) :
    ((Planificador.atenderDevuelto pid motivo cpuId respuesta caida).final k).Cuidado [] := by
  have hfin : motivo.termina k.tablaIos respuesta →
      ((Planificador.finalizarProceso pid).final k).Cuidado [] := by
    intro htermina
    obtain ⟨k', hrun, hk', _⟩ := h.finalizarProceso (hsin htermina)
    unfold Blocking.final
    rw [hrun]
    exact hk'
  cases motivo with
  | quantum => exact h.encolar
  | syscall pedido => exact h.syscallIo pedido hsin hsigue hreservada
  | exit => exact hfin rfl
  | error => exact hfin rfl
  | segfault => exact hfin rfl
  | desalojo => exact h.encolarDesalojado
  | desalojoCola => exact h.encolarDesalojado
  | desconocido => exact h.encolar

/-! ## Steps -/

/-- What a return needs of the process that runs on the CPU. -/
def DevolucionSana (k : KernelScheduler) (r : Receptor) (motivo : Motivo) (respuesta : RespuestaMemoria)
    (caida : Bool) : Prop :=
  ∀ pid ∈ (buscarCpu k.cpus r.cpuId).bind TCpu.procesoActual,
    (motivo.termina k.tablaIos respuesta → k.SinDisputa pid) ∧
      ∀ i ∈ motivo.interfaz k.tablaIos respuesta, k.InterfazSigue caida i

theorem Cuidado.recibirDevolverProceso (h : k.Cuidado []) {r : Receptor} {motivo : Motivo}
    {respuesta : RespuestaMemoria} {caida : Bool} (hsana : k.DevolucionSana r motivo respuesta caida) :
    (k.recibirDevolverProceso r.cpuId motivo respuesta caida).Cuidado [] := by
  have hretirar : ∀ (f : TCpu → TCpu) (semCpuDisponible : ℕ), (∀ c, (f c).cpuId = c.cpuId) →
      (∀ c, (f c).socket = c.socket) → (∀ c, (f c).procesoActual = none) →
      { k with
        cpus := Planificador.modificarCpu k.cpus r.cpuId f
        semCpuDisponible := semCpuDisponible }.Cuidado
        ((buscarCpu k.cpus r.cpuId).bind TCpu.procesoActual).toList := by
    intro f semCpuDisponible hid hsocket hvacio
    exact (h.vaciarSlot r.cpuId f hid hsocket hvacio).salvoReloj (Eq.refl _)
  unfold KernelScheduler.recibirDevolverProceso
  by_cases hmemoria : motivo.EsSyscallMemoria
  · simp only [if_pos hmemoria, KernelScheduler.retirarProcesoReservando, retirarProcesoDeCpuReservando]
    have hretirado := hretirar (fun c ↦ { c with procesoActual := none, timerActivo := false })
      k.semCpuDisponible (fun _ ↦ Eq.refl _) (fun _ ↦ Eq.refl _) fun _ ↦ Eq.refl _
    have hmismo := buscarCpu_modificarCpu_mismo
      (f := fun c ↦ { c with procesoActual := none, timerActivo := false }) k.cpus r.cpuId
      fun _ ↦ Eq.refl _
    cases hactual : (buscarCpu k.cpus r.cpuId).bind TCpu.procesoActual with
    | none =>
      rw [hactual] at hretirado
      refine hretirado.liberarReservada fun c hc ↦ ?_
      obtain ⟨c', _, rfl⟩ := Option.map_eq_some_iff.mp (hmismo.symm.trans hc)
      rfl
    | some pid =>
      rw [hactual] at hretirado
      refine hretirado.atenderDevuelto motivo (hsana pid hactual).1 (hsana pid hactual).2 fun _ c hc ↦ ?_
      obtain ⟨c', hc', rfl⟩ := Option.map_eq_some_iff.mp (hmismo.symm.trans hc)
      rw [hc', Option.bind_some] at hactual
      refine ⟨?_, rfl⟩
      by_contra hdisponible
      have hlibre := h.cpusLibres c' (buscarCpu_mem hc') (Bool.not_eq_false _ ▸ hdisponible)
      rw [hlibre] at hactual
      cases hactual
  · simp only [if_neg hmemoria, KernelScheduler.retirarProceso, retirarProcesoDeCpu]
    have hretirado := hretirar
      (fun c ↦ { c with procesoActual := none, timerActivo := false, disponible := true })
      (k.semCpuDisponible + 1) (fun _ ↦ Eq.refl _) (fun _ ↦ Eq.refl _) fun _ ↦ Eq.refl _
    cases hactual : (buscarCpu k.cpus r.cpuId).bind TCpu.procesoActual with
    | none =>
      rw [hactual] at hretirado
      exact hretirado
    | some pid =>
      rw [hactual] at hretirado
      exact hretirado.atenderDevuelto motivo (hsana pid hactual).1 (hsana pid hactual).2
        fun hsi ↦ absurd hsi hmemoria

theorem Cuidado.planificarLargoPlazo (h : k.Cuidado [])
    (hvalida : 0 < k.cantidadNivelesPrioridad → ∀ pid ∈ k.colaProcesosNew.head?,
      k.NivelValido (k.pcbs pid).prioridad)
    (hpaso : k.planificarLargoPlazo = some k') : k'.Cuidado [] := by
  unfold KernelScheduler.planificarLargoPlazo at hpaso
  split at hpaso
  · cases hpaso
  simp only at hpaso
  split at hpaso
  · cases hpaso
    exact h.salvoReloj (Eq.refl _)
  rename_i pid resto hcola
  have hcola : k.colaProcesosNew = pid :: resto := hcola
  have hvalida' : 0 < k.cantidadNivelesPrioridad → k.NivelValido (k.pcbs pid).prioridad :=
    fun hniveles ↦ hvalida hniveles pid (by rw [hcola]; rfl)
  have hready := h.admitir hcola hvalida' (k.semNew - 1)
  split at hpaso
  · rename_i hniveles
    cases hpaso
    unfold encolarEnReadyPorPrioridad
    have hvalido := (hready.validos pid (.inl (hready.iniciado List.mem_cons_self)) hniveles).1
    rw [if_pos hvalido]
    exact (hready.aReady.alFinal hvalido (ready_cambiarEstado _ pid)).verificar pid
  · cases hpaso
    exact hready.meter (ready_cambiarEstado _ pid) (fun q ↦ List.count_append) _

theorem Cuidado.proximo (h : k.Cuidado mano) :
    TomadoConCuidado k mano k.obtenerProximoProcesoReady := by
  unfold obtenerProximoProcesoReady
  split
  · split
    · exact ⟨h, Eq.refl _⟩
    · exact h.desencolar
  · exact h.popReady

theorem Cuidado.reencolarPorFallo (h : k.Cuidado (pid :: mano))
    (hvalida : k.config.algoritmoGlobal = .cmn → k.NivelValido (k.pcbs pid).prioridad) :
    (k.reencolarPorFalloDeEnvio pid).Cuidado mano := by
  have hvivo := h.vivo List.mem_cons_self
  unfold reencolarPorFalloDeEnvio
  split
  · rename_i hcmn
    exact h.inicio (hvalida hcmn) hvivo
  split
  · exact h.meter hvivo (fun q ↦ List.count_append) k.semReady
  · exact h.meter hvivo (count_mano pid _) k.semReady

/-- CMN takes processes out of queues by priority only. -/
theorem niveles_proximo (k : KernelScheduler) : k.config.algoritmoGlobal = .cmn →
    k.obtenerProximoProcesoReady.1.isSome →
    0 < k.obtenerProximoProcesoReady.2.cantidadNivelesPrioridad := by
  intro hcmn hproceso
  unfold obtenerProximoProcesoReady at hproceso ⊢
  rw [if_pos hcmn] at hproceso ⊢
  by_cases hcero : k.cantidadNivelesPrioridad = 0
  · rw [if_pos hcero] at hproceso
    cases hproceso
  rw [if_neg hcero]
  have hpos := Nat.pos_of_ne_zero hcero
  unfold desencolarProcesoReady
  split
  · exact hpos
  · show 0 < (k.colasReadyPorPrioridad.modify _ List.tail).length
    rw [List.length_modify]
    exact hpos

/-- The CPU that the planner picks for the process it has taken, if it takes one. -/
def cpuElegida (k : KernelScheduler) : Option TCpu :=
  if k.fasePcp = .despachar ∧ k.obtenerProximoProcesoReady.1.isSome then
    k.cpus.find? fun c ↦ c.Libre
  else none

theorem find_de_elegirCpu {cpus cpus' : List TCpu} {cpu : TCpu}
    (helegir : Planificador.elegirCpu cpus pid = (some cpu, cpus')) :
    cpus.find? (fun c ↦ c.Libre) = some cpu := by
  unfold Planificador.elegirCpu at helegir
  split at helegir
  · cases helegir
  rename_i i hi
  obtain ⟨hcpu, _⟩ := Prod.mk.inj helegir
  obtain ⟨hlt, hlibre, hantes⟩ := List.findIdx?_eq_some_iff_getElem.mp hi
  rw [List.getElem?_eq_getElem hlt] at hcpu
  refine List.find?_eq_some_iff_getElem.mpr ⟨?_, i, hlt, Option.some.inj hcpu, fun j hj ↦ ?_⟩
  · rw [← Option.some.inj hcpu]
    exact hlibre
  · simpa using hantes j hj

/-- The process in hand runs on the free CPU that was picked. -/
theorem Cuidado.ejecutar (h : k.Cuidado [pid]) {cpu : TCpu} {cpus : List TCpu}
    (helegir : Planificador.elegirCpu k.cpus pid = (some cpu, cpus)) (habierto : k.SocketAbierto cpu)
    (ahora : ℤ) (quantum : UInt32) (rr : Bool) (fase : FasePcp) :
    ({ k with cpus := cpus, fasePcp := fase }.ponerEnExec pid cpu ahora quantum rr).Cuidado [] := by
  have hexec := h.modificarPcb pid (fun p ↦
    { p with estado := .exec, tiempoInicioEjecucion := ahora, quantumRestante := quantum })
    (.inr ⟨List.mem_cons_self, .inr (.inl rfl)⟩) rfl fun hvalidas hniveles ↦ (hvalidas hniveles).2
  have helegido := hexec.elegirCpu (hexec.vivo List.mem_cons_self) helegir habierto
  unfold KernelScheduler.ponerEnExec
  simp only
  cases cpu.socket with
  | none =>
    split
    · exact Cuidado.arrancarQuantum (helegido.salvoReloj (Eq.refl _)) _ _
    · exact helegido.salvoReloj (Eq.refl _)
  | some socket =>
    split
    · exact Cuidado.arrancarQuantum (helegido.salvoReloj (Eq.refl _)) _ _
    · exact helegido.salvoReloj (Eq.refl _)

theorem Cuidado.despachar (h : k.Cuidado []) (hfase : k.fasePcp = .despachar)
    (habierta : ∀ c ∈ k.cpuElegida, k.SocketAbierto c) (ahora : ℤ) : (k.despachar ahora).Cuidado [] := by
  have hproximo := h.proximo
  have hniveles := k.niveles_proximo
  unfold KernelScheduler.despachar
  unfold cpuElegida at habierta
  generalize k.obtenerProximoProcesoReady = r at hproximo habierta hniveles
  obtain ⟨proceso, k₁⟩ := r
  obtain ⟨htomado, hsalvo⟩ := hproximo
  cases proceso with
  | none => exact htomado.salvoReloj (Eq.refl _)
  | some pid =>
    have hmano : k₁.Cuidado [pid] := htomado
    have hvalido : k₁.config.algoritmoGlobal = .cmn → k₁.NivelValido (k₁.pcbs pid).prioridad := by
      intro hcmn
      have hpos := hniveles (SalvoReady.config hsalvo ▸ hcmn) rfl
      exact (hmano.validos pid (.inl (hmano.iniciado List.mem_cons_self)) hpos).1
    simp only
    split
    · rename_i hno
      exact absurd (hvalido hno.1) hno.2
    split
    · exact (hmano.reencolarPorFallo hvalido).salvoReloj (Eq.refl _)
    · rename_i cpu cpus helegir
      have hcpus : k₁.cpus = k.cpus := SalvoReady.cpus hsalvo
      have hreceptores : k₁.receptores = k.receptores := SalvoReady.receptores hsalvo
      refine hmano.ejecutar helegir ?_ ahora _ _ _
      unfold SocketAbierto
      rw [hreceptores]
      rw [hcpus] at helegir
      refine habierta cpu ?_
      rw [if_pos ⟨hfase, rfl⟩]
      exact find_de_elegirCpu helegir

theorem Cuidado.planificarCortoPlazo (h : k.Cuidado []) (habierta : ∀ c ∈ k.cpuElegida, k.SocketAbierto c)
    {ahora : ℤ} (hpaso : k.planificarCortoPlazo ahora = some k') : k'.Cuidado [] := by
  unfold KernelScheduler.planificarCortoPlazo at hpaso
  split at hpaso
  · split at hpaso
    · cases hpaso
    split at hpaso
    · cases hpaso
      exact h
    split at hpaso
    · cases hpaso
      exact h.salvoReloj (Eq.refl _)
    · cases hpaso
      exact h.salvoReloj (Eq.refl _)
  · rename_i hfase
    cases hpaso
    exact h.despachar hfase habierta ahora
  · split at hpaso
    · cases hpaso
    · cases hpaso
      exact h.salvoReloj (Eq.refl _)
  · split at hpaso
    · cases hpaso
      exact h.salvoReloj (Eq.refl _)
    split at hpaso
    · cases hpaso
    · cases hpaso
      exact h.salvoReloj (Eq.refl _)

theorem finalizarPcb_cambiarEstado (k : KernelScheduler) (pid : Pid) (estado : Estado) :
    (finalizarPcbPorSegFault pid).final (k.cambiarEstado pid estado) =
      (finalizarPcbPorSegFault pid).final k := by
  have hdos : (k.cambiarEstado pid estado).cambiarEstado pid .exitState =
      k.cambiarEstado pid .exitState := by
    unfold KernelScheduler.cambiarEstado KernelScheduler.modificarPcb
    simp
  have hprimero : ∀ k₁ : KernelScheduler, (finalizarPcbPorSegFault pid).final k₁ =
      (do
        modify fun k ↦ k.removerDeListaSuspendidos pid
        liberarMutexesDeProceso pid
        modify fun k ↦ k.modificarPcb pid fun p ↦ { p with stdinPendiente := none }
        modify fun k ↦ k.eliminarPcb pid : Hilo Unit).final (k₁.cambiarEstado pid .exitState) :=
    fun _ ↦ rfl
  rw [hprimero, hprimero, hdos]

theorem Cuidado.desSuspender (h : k.Cuidado []) {respuesta escritura : RespuestaMemoria}
    (hsin : respuesta = .ok → (k.pcbs pid).stdinPendiente.isSome → escritura ≠ .ok → k.SinDisputa pid)
    (hpaso : k.desSuspender pid respuesta escritura = some k') : k'.Cuidado [] := by
  unfold KernelScheduler.desSuspender at hpaso
  split at hpaso
  swap
  · cases hpaso
  rename_i hsusp
  split at hpaso
  · cases hpaso
    exact h
  rename_i hok
  have hready := h.deSuspReady hsusp.2
  simp only at hpaso
  split at hpaso
  · cases hpaso
    rw [← encolar_cambiarEstado]
    exact hready.encolar
  rename_i hpendiente
  have hescrito := hready.modificarPcb pid (fun p ↦ { p with stdinPendiente := none }) (.inl rfl) rfl
    fun hvalidas hniveles ↦ (hvalidas hniveles).2
  have hconmuta : ((k.removerDeListaSuspendidos pid).cambiarEstado pid .ready).modificarPcb pid
        (fun p ↦ { p with stdinPendiente := none }) =
      ((k.removerDeListaSuspendidos pid).modificarPcb pid fun p ↦
        { p with stdinPendiente := none }).cambiarEstado pid .ready := by
    unfold KernelScheduler.cambiarEstado KernelScheduler.modificarPcb
    simp
  rw [hconmuta] at hescrito
  split at hpaso
  · cases hpaso
    rw [← encolar_cambiarEstado]
    exact hescrito.encolar
  · rename_i hrechazada
    cases hpaso
    rw [← finalizarPcb_cambiarEstado _ pid .ready]
    apply hescrito.finalizarPcb
    have hhay : ¬ (k.pcbs pid).stdinPendiente.isNone := hpendiente
    exact hsin (not_not.mp hok) (by simpa [Option.isSome_iff_ne_none] using hhay) hrechazada

/-- The write of a STDIN that ended while its process was in RAM is refused. -/
def EscrituraRechazada (k : KernelScheduler) (req : IoRequest) (escritura : RespuestaMemoria) : Prop :=
  req.tipo = .stdin ∧ (k.pcbs req.proceso).estado ≠ .suspBlock ∧ escritura ≠ .ok

instance (k : KernelScheduler) (req : IoRequest) (escritura : RespuestaMemoria) :
    Decidable (k.EscrituraRechazada req escritura) := inferInstanceAs (Decidable (_ ∧ _))

theorem Cuidado.concluirIo {req : IoRequest} (h : k.Cuidado [req.proceso]) (datos : List UInt8)
    {escritura : RespuestaMemoria} (hsin : k.EscrituraRechazada req escritura → k.SinDisputa req.proceso) :
    ((Planificador.concluirIo req datos escritura).final k).Cuidado [] := by
  unfold Planificador.concluirIo
  cases htipo : req.tipo with
  | sleep => exact h.desbloquear
  | stdout => exact h.desbloquear
  | stdin =>
    simp only
    unfold Blocking.final
    rw [Blocking.bind_ok (x := get) rfl]
    by_cases hsusp : (k.pcbs req.proceso).estado = .suspBlock
    · rw [if_pos hsusp]
      exact h.diferirStdin hsusp _
    rw [if_neg hsusp]
    by_cases hok : escritura = .ok
    · rw [if_pos hok]
      exact h.encolar
    · rw [if_neg hok]
      exact h.finalizarPcb (hsin ⟨htipo, hsusp, hok⟩)

theorem Cuidado.terminarIo (h : k.Cuidado []) {i : ℕ} {fin : FinIo} {escritura : RespuestaMemoria}
    (hfin : fin ≠ .error)
    (hsin : ∀ req ∈ k.tablaIos[i]?.bind InterfazIo.atendido,
      k.EscrituraRechazada req escritura → k.SinDisputa req.proceso)
    (hpaso : k.terminarIo i fin escritura = some k') : k'.Cuidado [] := by
  unfold KernelScheduler.terminarIo at hpaso
  split at hpaso
  · cases hpaso
  rename_i req hatendido
  obtain ⟨io, hio, hreq⟩ := Option.bind_eq_some_iff.mp hatendido
  split at hpaso
  · exact absurd rfl hfin
  split at hpaso
  · rename_i hextraer
    cases hpaso
    exact h.noEsta hio hreq hextraer
  · cases hpaso
  · rename_i hextraer
    cases hpaso
    refine (h.extraer hio hreq hextraer).concluirIo _ fun hrechazada ↦ ?_
    have hlibre := hsin req hatendido
    unfold extraerDeBlock at hextraer
    split at hextraer
    swap
    · cases hextraer
    split at hextraer <;> cases hextraer
    exact hlibre hrechazada

end KernelScheduler

/-! ## Runs -/

open KernelScheduler

/-- No step loses the process it works for: the priority of a process that is admitted has a queue; the
CPU that is picked is connected; a process that ends has no mutex with a waiter; an interface that is
asked, or that serves a request, does not go away; and neither does a CPU that runs a process. -/
def SinAbandono (k : KernelScheduler) : Evento → Prop
  | .planificarLargoPlazo => 0 < k.cantidadNivelesPrioridad → ∀ pid ∈ k.colaProcesosNew.head?,
      k.NivelValido (k.pcbs pid).prioridad
  | .planificarCortoPlazo _ => ∀ c ∈ k.cpuElegida, k.SocketAbierto c
  | .devolverProceso r motivo respuesta caida => k.DevolucionSana r motivo respuesta caida
  | .desconectarCpu r => ∀ c ∈ k.cpus, c.socket = some r.socket ∨ buscarCpu k.cpus r.cpuId = some c →
      c.procesoActual = none
  | .terminarIo i fin escritura => fin ≠ .error ∧ ∀ req ∈ k.tablaIos[i]?.bind InterfazIo.atendido,
      k.EscrituraRechazada req escritura → k.SinDisputa req.proceso
  | .desSuspender pid respuesta escritura =>
    respuesta = .ok → (k.pcbs pid).stdinPendiente.isSome → escritura ≠ .ok → k.SinDisputa pid
  | _ => True

instance (k : KernelScheduler) (r : Receptor) (motivo : Motivo) (respuesta : RespuestaMemoria)
    (caida : Bool) : Decidable (k.DevolucionSana r motivo respuesta caida) :=
  inferInstanceAs (Decidable (∀ pid ∈ (buscarCpu k.cpus r.cpuId).bind TCpu.procesoActual,
    (motivo.termina k.tablaIos respuesta → k.SinDisputa pid) ∧
      ∀ i ∈ motivo.interfaz k.tablaIos respuesta, k.InterfazSigue caida i))

instance (k : KernelScheduler) : (e : Evento) → Decidable (SinAbandono k e)
  | .planificarLargoPlazo => inferInstanceAs (Decidable (_ → ∀ pid ∈ k.colaProcesosNew.head?, _))
  | .planificarCortoPlazo _ => inferInstanceAs (Decidable (∀ c ∈ k.cpuElegida, _))
  | .devolverProceso r motivo respuesta caida =>
    inferInstanceAs (Decidable (k.DevolucionSana r motivo respuesta caida))
  | .desconectarCpu _ => inferInstanceAs (Decidable (∀ c ∈ k.cpus, _ → _))
  | .terminarIo i fin escritura =>
    inferInstanceAs (Decidable (fin ≠ .error ∧ ∀ req ∈ k.tablaIos[i]?.bind InterfazIo.atendido,
      k.EscrituraRechazada req escritura → k.SinDisputa req.proceso))
  | .desSuspender _ _ _ => inferInstanceAs (Decidable (_ → _ → _ → _))
  | .crearProceso _ _ | .conectarCpu _ _ | .vencerQuantum _ | .conectarIo _ | .tomarIo _
  | .vencerSuspension _ | .terminarSuspension _ | .iniciarCompactacion | .finalizarCompactacion =>
    inferInstanceAs (Decidable True)

namespace KernelScheduler

variable {k k' : KernelScheduler}

theorem Cuidado.paso (h : k.Cuidado []) {e : Evento} (hsana : SinAbandono k e)
    (hpaso : Planificador.paso k e = some k') : k'.Cuidado [] := by
  cases e with
  | crearProceso path prioridad =>
    cases hpaso
    exact h.crearProceso path prioridad
  | planificarLargoPlazo => exact h.planificarLargoPlazo hsana hpaso
  | planificarCortoPlazo ahora => exact h.planificarCortoPlazo hsana hpaso
  | devolverProceso r motivo respuesta caida =>
    simp only [Planificador.paso] at hpaso
    split at hpaso <;> cases hpaso
    exact h.recibirDevolverProceso hsana
  | conectarCpu socket cpuId =>
    simp only [Planificador.paso] at hpaso
    split at hpaso <;> cases hpaso
    exact h.conectarCpu socket cpuId
  | desconectarCpu r =>
    simp only [Planificador.paso] at hpaso
    split at hpaso <;> cases hpaso
    exact h.desconectarCpu hsana
  | vencerQuantum t =>
    simp only [Planificador.paso] at hpaso
    split at hpaso <;> cases hpaso
    exact h.vencerTimerQuantum t
  | conectarIo nombre =>
    cases hpaso
    exact h.registrarInterfazIo nombre
  | tomarIo i => exact h.tomarIo hpaso
  | terminarIo i fin escritura => exact h.terminarIo hsana.1 hsana.2 hpaso
  | vencerSuspension i => exact h.vencerSuspension hpaso
  | terminarSuspension i => exact h.terminarSuspension hpaso
  | desSuspender pid respuesta escritura => exact h.desSuspender hsana hpaso
  | iniciarCompactacion =>
    cases hpaso
    exact h.salvoReloj (Eq.refl _)
  | finalizarCompactacion =>
    cases hpaso
    exact h.salvoReloj (Eq.refl _)

theorem cuidado_inicial (config : ConfigScheduler) : (inicial config).Cuidado [] := by
  refine ⟨rfl, enUnLugar_de_alcanzable (.start ⟨config, rfl⟩), fun q hq ↦ ?_, fun q _ ↦ ?_,
    nofun, fun q hq ↦ ?_, nofun, nofun, fun q _ hvig ↦ absurd hvig.1 (Nat.not_lt_zero q)⟩
  · cases hq
  · intro hniveles
    have hcero : (inicial config).NivelValido 0 := ⟨Int.le_refl 0, Int.natCast_pos.mpr hniveles⟩
    exact ⟨hcero, hcero⟩
  · rcases hq with hq | hq <;> cases hq

end KernelScheduler

variable {k : KernelScheduler}

theorem cuidado_de_alcanzable (hk : Reachable paso Arranque SinAbandono k) : k.Cuidado [] := by
  apply hk.invariant (P := fun k ↦ k.Cuidado [])
  · rintro _ ⟨config, rfl⟩
    exact cuidado_inicial config
  · intro k e k' h hsana hpaso
    exact h.paso hsana hpaso

/-- In every state of a run whose steps abandon nobody, each process that has not come to its end can
make progress. -/
theorem sinPerdidos_sinAbandono (hk : Reachable paso Arranque SinAbandono k) : k.SinPerdidos :=
  fun pid hvig ↦ (cuidado_de_alcanzable hk).progresan pid List.not_mem_nil hvig

/-- A process that sleeps and one that waits for a mutex. -/
theorem sinPerdidos_sinAbandono_esperas : ∃ k : KernelScheduler,
    (k.pcbs 0).estado = .block ∧ (k.pcbs 1).estado = .block ∧ k.SinPerdidos := by
  have hinicial : Reachable paso Arranque SinAbandono
      (.inicial ⟨.cmn, 2, [.fifo, .rr], false, 100, 500⟩) := .start ⟨_, rfl⟩
  obtain ⟨k, hk, hestados⟩ := hinicial.exists_of_runAllowed
    [.conectarCpu 5 1, .conectarIo "SLEEP", .crearProceso "a" 0, .crearProceso "b" 1,
      .planificarLargoPlazo, .planificarLargoPlazo,
      .planificarCortoPlazo 7, .planificarCortoPlazo 7,
      .devolverProceso ⟨5, 1⟩ (.syscall (.mutexLock (some "m"))) .ok false,
      .planificarCortoPlazo 8, .planificarCortoPlazo 8,
      .devolverProceso ⟨5, 1⟩ (.syscall (.sleep (some 3))) .ok false,
      .planificarCortoPlazo 9, .planificarCortoPlazo 9,
      .devolverProceso ⟨5, 1⟩ (.syscall (.mutexLock (some "m"))) .ok false]
    (fun k ↦ (k.pcbs 0).estado = .block ∧ (k.pcbs 1).estado = .block) (by decide)
  exact ⟨k, hestados.1, hestados.2, sinPerdidos_sinAbandono hk⟩

/-- The interface goes away while it serves a process, which stays in BLOCK for good. -/
theorem perdido_por_interfaz : ∃ k : KernelScheduler,
    Reachable paso Arranque (fun _ _ ↦ True) k ∧ ¬ k.SinPerdidos := by
  have hinicial : Reachable paso Arranque (fun _ _ ↦ True)
      (.inicial ⟨.fifo, 0, [], false, 0, 0⟩) := .start ⟨_, rfl⟩
  obtain ⟨k, hk, hvigente, hno⟩ := hinicial.exists_of_runAllowed
    [.conectarCpu 5 1, .conectarIo "SLEEP", .crearProceso "a" 0, .planificarLargoPlazo,
      .planificarCortoPlazo 7, .planificarCortoPlazo 7,
      .devolverProceso ⟨5, 1⟩ (.syscall (.sleep (some 3))) .ok false,
      .tomarIo 0, .terminarIo 0 .error .ok]
    (fun k ↦ k.Vigente 0 ∧ ¬ k.PuedeProgresar 0) (by decide)
  exact ⟨k, hk, fun h ↦ hno (h 0 hvigente)⟩

end PlugAndPlay.Planificador
