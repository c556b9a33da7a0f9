import PlugAndPlay.Library.Transitions
import PlugAndPlay.Planificador.Lugares

/-!
# No process is in two places

The handlers as threads that have processes in hand, then the steps, and from them whole runs.
-/

open PlugAndPlay.Library

namespace PlugAndPlay.Planificador

open KernelScheduler

/-! ## Handlers that may stop -/

/-- The thread starts with some processes in hand and ends with others; where it stops, none of them is
in two places either. -/
def Conserva {α : Type} (mano : List Pid) (hilo : Hilo α) (mano' : List Pid) : Prop :=
  Blocking.Triple (EnUnLugar · mano) hilo (fun _ k ↦ k.EnUnLugar mano') (EnUnLugar · [])

variable {pid : Pid} {mano mano' mano'' : List Pid} {α β : Type}

theorem Conserva.bind {x : Hilo α} {f : α → Hilo β} (hx : Conserva mano x mano')
    (hf : ∀ a, Conserva mano' (f a) mano'') : Conserva mano (x >>= f) mano'' :=
  Blocking.Triple.bind hx hf

theorem conserva_pure (a : α) : Conserva mano (pure a) mano := Blocking.Triple.of_pure a fun _ h ↦ h

theorem conserva_cambio {f : KernelScheduler → KernelScheduler}
    (h : ∀ k, k.EnUnLugar mano → (f k).EnUnLugar mano) : Conserva mano (modify f) mano :=
  Blocking.Triple.of_modify h

theorem conserva_modify {f : KernelScheduler → KernelScheduler}
    (h : ∀ k, k.EnUnLugar mano → (f k).EnUnLugar mano') : Conserva mano (modify f) mano' :=
  Blocking.Triple.of_modify h

/-- What a thread does from one state on. -/
theorem Conserva.en {x : Hilo α} (h : Conserva mano x mano') {k : KernelScheduler}
    (hk : k.EnUnLugar mano) :
    Blocking.Triple (· = k) x (fun _ k ↦ k.EnUnLugar mano') (EnUnLugar · []) :=
  Blocking.Triple.conseq h (fun _ hs ↦ hs ▸ hk) (fun _ _ ↦ id) fun _ ↦ id

theorem conserva_get_bind {f : KernelScheduler → Hilo β}
    (h : ∀ k, k.EnUnLugar mano →
      Blocking.Triple (· = k) (f k) (fun _ k ↦ k.EnUnLugar mano') (EnUnLugar · [])) :
    Conserva mano (get >>= f) mano' :=
  Blocking.Triple.get_bind h

theorem conserva_forM {body : ℕ → Hilo PUnit} (list : List ℕ)
    (h : ∀ i, Conserva mano (body i) mano) : Conserva mano (forM list body) mano :=
  Blocking.Triple.of_forM (fun _ ↦ (EnUnLugar · mano)) fun _ i _ _ ↦ h i

theorem KernelScheduler.EnUnLugar.vaciar {k : KernelScheduler} (h : k.EnUnLugar mano) :
    k.EnUnLugar [] := by
  induction mano with
  | nil => exact h
  | cons pid mano ih => exact ih h.soltar

theorem conserva_lock : Conserva mano lockListaMutexes mano := by
  intro k hk
  cases hlock : k.mutexListaMutexes with
  | false =>
    rw [lockListaMutexes_libre hlock]
    exact hk
  | true =>
    rw [lockListaMutexes_tomada hlock]
    exact hk.vaciar

theorem conserva_unlock : Conserva mano unlockListaMutexes mano := conserva_modify fun _ hk ↦ hk

theorem conserva_buscarMutex (nombre : String) :
    Conserva mano (buscarMutexPorNombre nombre) mano := by
  apply conserva_lock.bind
  intro _
  apply conserva_get_bind
  intro k hk
  exact (conserva_unlock.bind fun _ ↦ conserva_pure _).en hk

theorem conserva_registrarMutex (nombre : String) :
    Conserva mano (registrarMutex ⟨nombre, none, []⟩) mano := by
  apply conserva_lock.bind
  intro _
  apply conserva_get_bind
  intro k hk
  refine Conserva.en ((conserva_cambio fun k hk ↦ ?_).bind fun _ ↦
    conserva_unlock.bind fun _ ↦ conserva_pure _) hk
  refine hk.of_lugares rfl rfl fun q ↦ ?_
  simp [lugares, List.count_append]

theorem conserva_recalcular (pid : Pid) : Conserva mano (recalcularPrioridadDinamica pid) mano := by
  apply conserva_lock.bind
  intro _
  apply conserva_get_bind
  intro k hk
  refine Conserva.en (conserva_unlock.bind fun _ ↦ ?_) hk
  exact conserva_modify fun k₁ hk₁ ↦ hk₁.asignarPrioridadDinamica pid _

theorem conserva_liberarMutexEn (pid : Pid) (i : ℕ) :
    Conserva mano (liberarMutexEn pid i) mano := by
  apply conserva_get_bind
  intro k hk
  cases hm : k.listaMutexes[i]? with
  | none => exact (conserva_pure ()).en hk
  | some m =>
    simp only
    split
    · cases hcola : m.colaBloqueados with
      | nil =>
        simp only
        refine Conserva.en (conserva_modify fun k hk ↦ ?_) hk
        exact hk.modificarMutex i _ fun _ _ ↦ Nat.le_refl _
      | cons siguiente resto =>
        simp only
        refine Blocking.Triple.bind ?_ fun _ ↦
          (conserva_recalcular siguiente : Conserva mano _ mano)
        exact Blocking.Triple.of_modify fun k' hk' ↦ hk' ▸ hk.asignarASiguiente hm hcola
    · refine Conserva.en (conserva_modify fun k hk ↦ hk.modificarMutex i _ fun m q ↦ ?_) hk
      exact List.filter_sublist.count_le q

theorem conserva_liberarMutexes (pid : Pid) :
    Conserva mano (liberarMutexesDeProceso pid) mano := by
  apply conserva_lock.bind
  intro _
  apply conserva_get_bind
  intro k hk
  exact Conserva.en ((conserva_forM _ fun i ↦ conserva_liberarMutexEn pid i).bind fun _ ↦
    conserva_unlock) hk

theorem conserva_finalizarProceso (pid : Pid) : Conserva [pid] (finalizarProceso pid) [] :=
  (conserva_modify fun _ hk ↦ hk.finalizar).bind fun _ ↦
    (conserva_liberarMutexes pid).bind fun _ ↦ conserva_modify fun _ hk ↦ hk

theorem conserva_finalizarPcb (pid : Pid) :
    Blocking.Triple (fun k ↦ (k.cambiarEstado pid .exitState).EnUnLugar [])
      (finalizarPcbPorSegFault pid) (fun _ k ↦ k.EnUnLugar []) (EnUnLugar · []) := by
  apply Blocking.Triple.bind (R := fun _ k ↦ k.EnUnLugar [])
  · exact Blocking.Triple.of_modify fun k hk ↦ hk
  intro _
  refine (conserva_cambio fun k hk ↦ ?_).bind fun _ ↦
    (conserva_liberarMutexes pid).bind fun _ ↦ (conserva_cambio fun k hk ↦ ?_).bind fun _ ↦
      conserva_cambio fun k hk ↦ ?_
  · exact hk
  · exact hk.modificarPcb _ _ (.inl rfl)
  · exact hk

/-- The process was in hand. -/
theorem conserva_finalizarPcb_mano (pid : Pid) :
    Conserva [pid] (finalizarPcbPorSegFault pid) [] :=
  (conserva_finalizarPcb pid).conseq (fun _ hk ↦ hk.finalizar) (fun _ _ ↦ id) fun _ ↦ id

/-! ## Syscalls -/

theorem conserva_mutexCreate (nombre : Option String) :
    Conserva mano (manejarSyscallMutexCreate nombre) mano := by
  cases nombre with
  | none => exact conserva_pure ()
  | some nombre =>
    apply (conserva_buscarMutex nombre).bind
    intro r
    cases r with
    | none => exact (conserva_registrarMutex nombre).bind fun _ ↦ conserva_pure ()
    | some i => exact conserva_pure ()

theorem conserva_buscarOCrear (nombre : String) : Conserva mano (buscarOCrearMutex nombre) mano := by
  apply (conserva_buscarMutex nombre).bind
  intro r
  cases r with
  | none => exact conserva_registrarMutex nombre
  | some i => exact conserva_pure i

/-- A process that blocks is in the queue of the mutex. -/
theorem conserva_mutexLock (pid : Pid) (nombre : Option String) :
    Blocking.Triple (EnUnLugar · [pid]) (manejarSyscallMutexLock pid nombre)
      (fun seBloqueo k ↦ k.EnUnLugar (if seBloqueo then [] else [pid])) (EnUnLugar · []) := by
  cases nombre with
  | none => exact Blocking.Triple.of_pure false fun _ h ↦ h
  | some nombre =>
    refine Blocking.Triple.bind (conserva_buscarOCrear nombre) fun i ↦ ?_
    refine Blocking.Triple.get_bind fun k hk ↦ ?_
    split
    · refine Blocking.Triple.bind ?_ fun _ ↦ Blocking.Triple.of_pure false fun _ h ↦ h
      refine Blocking.Triple.of_modify fun k' hk' ↦ hk' ▸ ?_
      exact hk.modificarMutex i _ fun _ _ ↦ Nat.le_refl _
    · apply Blocking.Triple.bind (R := fun _ k ↦ k.EnUnLugar [])
      · exact Blocking.Triple.of_modify fun k' hk' ↦ hk' ▸ hk.esperarMutex i
      intro _
      apply Blocking.Triple.bind (R := fun _ k ↦ k.EnUnLugar [])
      · exact conserva_modify fun k hk ↦ hk.propagarHerencia _ pid _
      intro _
      apply Blocking.Triple.bind (R := fun _ k ↦ k.EnUnLugar [])
      · exact conserva_modify fun k hk ↦ hk.notificarEspera pid
      intro _
      exact conserva_pure true

theorem conserva_mutexUnlock (pid : Pid) (nombre : Option String) :
    Conserva mano (manejarSyscallMutexUnlock pid nombre) mano := by
  cases nombre with
  | none => exact conserva_pure ()
  | some nombre =>
    apply (conserva_buscarMutex nombre).bind
    intro r
    cases r with
    | none => exact conserva_pure ()
    | some i =>
      apply conserva_get_bind
      intro k hk
      cases hm : k.listaMutexes[i]? with
      | none => exact (conserva_pure ()).en hk
      | some m =>
        simp only
        split
        · cases hcola : m.colaBloqueados with
          | nil =>
            simp only
            refine Conserva.en ((conserva_cambio fun k hk ↦ ?_).bind fun _ ↦
              conserva_recalcular pid) hk
            exact hk.modificarMutex i _ fun _ _ ↦ Nat.le_refl _
          | cons siguiente resto =>
            simp only
            refine Blocking.Triple.bind ?_ fun _ ↦
              ((conserva_recalcular siguiente).bind fun _ ↦ conserva_recalcular pid :
                Conserva mano _ mano)
            exact Blocking.Triple.of_modify fun k' hk' ↦ hk' ▸ hk.asignarASiguiente hm hcola
        · exact (conserva_pure ()).en hk

theorem conserva_encolar (pid : Pid) :
    Conserva (pid :: mano) (modify fun k ↦ k.encolarEnReadyYNotificar pid) mano :=
  conserva_modify fun _ hk ↦ hk.encolar

theorem conserva_syscallMutex (pid : Pid) (s : SyscallMutex) :
    Conserva [pid] (manejarSyscallMutex pid s) [] := by
  cases s with
  | create nombre => exact (conserva_mutexCreate nombre).bind fun _ ↦ conserva_encolar pid
  | lock nombre =>
    refine Blocking.Triple.bind (conserva_mutexLock pid nombre) fun seBloqueo ↦ ?_
    cases seBloqueo with
    | false => exact conserva_encolar pid
    | true => exact conserva_pure _
  | unlock nombre => exact (conserva_mutexUnlock pid nombre).bind fun _ ↦ conserva_encolar pid

theorem conserva_finalizarYLiberar (pid : Pid) (cpuOrigen : ℕ) :
    Conserva [pid] (finalizarYLiberarCpu pid cpuOrigen) [] :=
  (conserva_finalizarProceso pid).bind fun _ ↦ conserva_modify fun _ hk ↦ hk.liberarReservada cpuOrigen

theorem conserva_pedirIo (f : KernelScheduler → Option ℕ) (tipo : IoType) (dir tamanio : ℤ)
    (caida : Bool) :
    Conserva (pid :: mano) (modify fun k ↦ k.pedirIo (f k) ⟨pid, tipo, dir, tamanio⟩ caida) mano :=
  conserva_modify fun _ hk ↦ EnUnLugar.pedirIo hk _ caida

theorem conserva_syscallIo (pid : Pid) (pedido : Syscall) (cpuOrigen : ℕ)
    (respuesta : RespuestaMemoria) (caida : Bool) :
    Conserva [pid] (manejarSyscallIo pid pedido cpuOrigen respuesta caida) [] := by
  unfold manejarSyscallIo
  split
  · exact conserva_encolar pid
  · exact conserva_encolar pid
  · exact conserva_encolar pid
  · exact conserva_encolar pid
  · exact conserva_pedirIo _ _ _ _ caida
  · exact conserva_pedirIo _ _ _ _ caida
  · exact conserva_pedirIo _ _ _ _ caida
  · apply conserva_get_bind
    intro k hk
    simp only
    split
    · exact (conserva_encolar pid).en hk
    · exact (conserva_encolar pid).en hk
    · exact (conserva_finalizarPcb_mano pid).en hk
    · exact Conserva.en (conserva_pedirIo _ _ _ _ caida) hk
  · exact conserva_finalizarYLiberar pid cpuOrigen
  · split
    · exact conserva_finalizarYLiberar pid cpuOrigen
    · exact conserva_finalizarYLiberar pid cpuOrigen
    · exact conserva_modify fun k hk ↦ hk.devolverOReplanificar cpuOrigen
  · exact conserva_finalizarYLiberar pid cpuOrigen
  · exact conserva_modify fun k hk ↦ hk.devolverOReplanificar cpuOrigen
  · exact conserva_syscallMutex pid _
  · exact conserva_syscallMutex pid _
  · exact conserva_syscallMutex pid _
  · exact conserva_encolar pid
  · exact conserva_encolar pid
  · exact conserva_modify fun k hk ↦ (hk.crearProceso _ _).encolar

theorem conserva_atenderDevuelto (pid : Pid) (motivo : Motivo) (cpuId : ℕ)
    (respuesta : RespuestaMemoria) (caida : Bool) :
    Conserva [pid] (atenderDevuelto pid motivo cpuId respuesta caida) [] := by
  unfold atenderDevuelto
  split
  · exact conserva_finalizarProceso pid
  · exact conserva_finalizarProceso pid
  · exact conserva_finalizarProceso pid
  · exact conserva_encolar pid
  · exact conserva_encolar pid
  · exact conserva_syscallIo pid _ cpuId respuesta caida
  · exact conserva_modify fun k hk ↦ hk.encolarDesalojado
  · exact conserva_modify fun k hk ↦ hk.encolarDesalojado

theorem conserva_concluirIo (req : IoRequest) (datos : List UInt8) (escritura : RespuestaMemoria) :
    Conserva [req.proceso] (concluirIo req datos escritura) [] := by
  unfold concluirIo
  split
  · exact conserva_modify fun k hk ↦ hk.desbloquear
  · exact conserva_modify fun k hk ↦ hk.desbloquear
  · apply conserva_get_bind
    intro k hk
    split
    · exact Conserva.en (conserva_modify fun k hk ↦ (hk.aSuspReady _ rfl).notificarReevaluar) hk
    split
    · exact (conserva_encolar req.proceso).en hk
    · exact (conserva_finalizarPcb_mano req.proceso).en hk

/-! ## Steps -/

namespace KernelScheduler

variable {k k' : KernelScheduler}

theorem EnUnLugar.recibirDevolverProceso (h : k.EnUnLugar []) (cpuId : ℕ) (motivo : Motivo)
    (respuesta : RespuestaMemoria) (caida : Bool) :
    (k.recibirDevolverProceso cpuId motivo respuesta caida).EnUnLugar [] := by
  unfold KernelScheduler.recibirDevolverProceso
  generalize hr : (if motivo.EsSyscallMemoria then k.retirarProcesoReservando cpuId
    else k.retirarProceso cpuId) = r
  have hretirado : r.2.EnUnLugar (r.1.toList ++ []) := by
    rw [← hr]
    split
    · exact h.retirarProcesoReservando cpuId
    · exact h.retirarProceso cpuId
  obtain ⟨proceso, k₁⟩ := r
  cases proceso with
  | none =>
    simp only
    split
    · exact EnUnLugar.liberarReservada hretirado cpuId
    · exact hretirado
  | some pid => exact (conserva_atenderDevuelto pid motivo cpuId respuesta caida).final hretirado

theorem EnUnLugar.planificarLargoPlazo (h : k.EnUnLugar []) (hpaso : k.planificarLargoPlazo = some k') :
    k'.EnUnLugar [] := by
  unfold KernelScheduler.planificarLargoPlazo at hpaso
  split at hpaso
  · cases hpaso
  simp only at hpaso
  split at hpaso
  · cases hpaso
    exact h
  rename_i pid resto hcola
  have hcola : k.colaProcesosNew = pid :: resto := hcola
  have hsacado : { { k with semNew := k.semNew - 1 } with colaProcesosNew := resto }.EnUnLugar [pid] := by
    refine h.of_lugares rfl rfl fun q ↦ ?_
    simp only [lugares, hcola, List.count_append, count_mano pid resto, List.count_nil]
    omega
  have hready := hsacado.cambiarAReady pid
  split at hpaso
  · cases hpaso
    exact hready.encolarPorPrioridad
  · cases hpaso
    exact hready.meter (fun q ↦ List.count_append) _

theorem EnUnLugar.proximo (h : k.EnUnLugar mano) : Tomado k mano k.obtenerProximoProcesoReady := by
  unfold obtenerProximoProcesoReady
  split
  · split
    · exact ⟨h, rfl⟩
    · exact h.desencolar
  · exact h.popReady

theorem EnUnLugar.reencolarPorFallo (h : k.EnUnLugar (pid :: mano)) :
    (k.reencolarPorFalloDeEnvio pid).EnUnLugar mano := by
  unfold reencolarPorFalloDeEnvio
  split
  · exact h.inicio _
  split
  · exact h.meter (fun q ↦ List.count_append) k.semReady
  · exact h.meter (count_mano pid _) k.semReady

theorem EnUnLugar.ponerEnExec (h : k.EnUnLugar mano) (pid : Pid) (cpu : TCpu) (ahora : ℤ)
    (quantum : UInt32) (rr : Bool) : (k.ponerEnExec pid cpu ahora quantum rr).EnUnLugar mano := by
  have henviado : (cpu.socket.elim k fun socket ↦ k.enviarPid socket pid).EnUnLugar mano := by
    cases cpu.socket with
    | none => exact h
    | some socket => exact h.enviarPid socket pid
  have hexec := henviado.modificarPcb pid (fun p ↦
    { p with estado := .exec, tiempoInicioEjecucion := ahora, quantumRestante := quantum })
    (.inr ⟨nofun, nofun⟩)
  unfold KernelScheduler.ponerEnExec
  simp only
  split
  · exact hexec.arrancarQuantum _ _
  · exact hexec

/-- The process in hand goes to a free CPU. -/
theorem EnUnLugar.elegirCpu (h : k.EnUnLugar (pid :: mano)) {cpu : Option TCpu} {cpus : List TCpu}
    (helegir : Planificador.elegirCpu k.cpus pid = (cpu, cpus)) (hcpu : cpu ≠ none) :
    { k with cpus := cpus }.EnUnLugar mano := by
  unfold Planificador.elegirCpu at helegir
  split at helegir
  · cases helegir
    exact absurd rfl hcpu
  rename_i i _
  obtain ⟨_, rfl⟩ := Prod.mk.inj helegir
  refine h.conCpus fun q ↦ ?_
  have hcount := ListModify.count_flatMap_modify_le k.cpus i enCpu (fun c ↦
    { c with disponible := false, procesoActual := some pid }) q ([pid].count q)
    fun c ↦ Nat.le_add_left _ _
  rw [count_mano]
  omega

theorem EnUnLugar.despachar (h : k.EnUnLugar []) (ahora : ℤ) : (k.despachar ahora).EnUnLugar [] := by
  have htomado := h.proximo.1
  unfold KernelScheduler.despachar
  generalize k.obtenerProximoProcesoReady = r at htomado
  obtain ⟨proceso, k₁⟩ := r
  cases proceso with
  | none => exact htomado
  | some pid =>
    simp only
    split
    · exact EnUnLugar.soltar htomado
    split
    · exact EnUnLugar.reencolarPorFallo htomado
    · rename_i helegir
      apply EnUnLugar.ponerEnExec
      exact EnUnLugar.elegirCpu htomado helegir (Option.some_ne_none _)

theorem EnUnLugar.planificarCortoPlazo (h : k.EnUnLugar []) {ahora : ℤ}
    (hpaso : k.planificarCortoPlazo ahora = some k') : k'.EnUnLugar [] := by
  unfold KernelScheduler.planificarCortoPlazo at hpaso
  split at hpaso
  · split at hpaso
    · cases hpaso
    split at hpaso
    · cases hpaso
      exact h
    split at hpaso
    · cases hpaso
      exact h
    · cases hpaso
      exact h
  · cases hpaso
    exact h.despachar ahora
  · split at hpaso
    · cases hpaso
    · cases hpaso
      exact h
  · split at hpaso
    · cases hpaso
      exact h
    split at hpaso
    · cases hpaso
    · cases hpaso
      exact h

theorem EnUnLugar.vencerSuspension (h : k.EnUnLugar mano) {i : ℕ}
    (hpaso : k.vencerSuspension i = some k') : k'.EnUnLugar mano := by
  unfold KernelScheduler.vencerSuspension at hpaso
  split at hpaso
  · cases hpaso
  split at hpaso
  · cases hpaso
  rename_i t _ _
  split at hpaso
  · cases hpaso
    have hsuspBlock := h.modificarPcb t.pid (fun p ↦
      { p with estado := .suspBlock, suspendidoEnSwap := false }) (.inr ⟨nofun, nofun⟩)
    exact hsuspBlock
  · cases hpaso
    exact h

theorem EnUnLugar.terminarSuspension (h : k.EnUnLugar mano) {i : ℕ}
    (hpaso : k.terminarSuspension i = some k') : k'.EnUnLugar mano := by
  unfold KernelScheduler.terminarSuspension at hpaso
  split at hpaso
  · cases hpaso
  split at hpaso
  · cases hpaso
  · rename_i t _ _
    cases hpaso
    apply EnUnLugar.notificarReevaluar
    have hvolcado := h.modificarPcb t.pid (fun p ↦ { p with suspendidoEnSwap := true }) (.inl rfl)
    split
    · exact hvolcado
    · exact h

theorem encolar_cambiarEstado (k : KernelScheduler) (pid : Pid) :
    (k.cambiarEstado pid .ready).encolarEnReadyYNotificar pid = k.encolarEnReadyYNotificar pid := by
  have hdos : (k.cambiarEstado pid .ready).cambiarEstado pid .ready = k.cambiarEstado pid .ready := by
    unfold KernelScheduler.cambiarEstado KernelScheduler.modificarPcb
    simp
  unfold encolarEnReadyYNotificar
  rw [hdos]

theorem EnUnLugar.desSuspender (h : k.EnUnLugar []) {respuesta escritura : RespuestaMemoria}
    (hpaso : k.desSuspender pid respuesta escritura = some k') : k'.EnUnLugar [] := by
  unfold KernelScheduler.desSuspender at hpaso
  split at hpaso
  swap
  · cases hpaso
  rename_i hsusp
  split at hpaso
  · cases hpaso
    exact h
  have hencolar : ∀ k₁ : KernelScheduler, k₁.EnUnLugar [] → (k₁.pcbs pid).estado = .suspReady →
      (k₁.encolarEnReadyYNotificar pid).EnUnLugar [] := by
    intro k₁ hk₁ hestado
    rw [← encolar_cambiarEstado]
    exact (hk₁.deSuspReady hestado).encolar
  have hsacado : (k.removerDeListaSuspendidos pid).EnUnLugar [] := h
  simp only at hpaso
  split at hpaso
  · cases hpaso
    exact hencolar _ hsacado hsusp.2
  have hescrito := hsacado.modificarPcb pid (fun p ↦ { p with stdinPendiente := none }) (.inl rfl)
  split at hpaso
  · cases hpaso
    refine hencolar _ hescrito ?_
    rw [pcbs_modificarPcb_mismo]
    exact hsusp.2
  · cases hpaso
    refine (conserva_finalizarPcb pid).final (hescrito.finalizarSuspReady ?_)
    rw [pcbs_modificarPcb_mismo]
    exact hsusp.2

theorem EnUnLugar.tomarIo (h : k.EnUnLugar mano) {i : ℕ} (hpaso : k.tomarIo i = some k') :
    k'.EnUnLugar mano := by
  unfold KernelScheduler.tomarIo at hpaso
  split at hpaso
  · cases hpaso
  split at hpaso
  · cases hpaso
    exact h
  · cases hpaso

theorem EnUnLugar.extraer (h : k.EnUnLugar mano) (hextraer : k.extraerDeBlock pid = .extraido k') :
    k'.EnUnLugar (pid :: mano) := by
  unfold extraerDeBlock at hextraer
  split at hextraer
  swap
  · cases hextraer
  rename_i hmem
  split at hextraer
  · cases hextraer
  cases hextraer
  refine h.of_lugares rfl rfl fun q ↦ ?_
  have hperm := (List.perm_cons_erase hmem).count_eq q
  rw [count_mano] at hperm ⊢
  simp only [lugares, List.count_append]
  omega

theorem EnUnLugar.terminarIo (h : k.EnUnLugar []) {i : ℕ} {fin : FinIo} {escritura : RespuestaMemoria}
    (hpaso : k.terminarIo i fin escritura = some k') : k'.EnUnLugar [] := by
  unfold KernelScheduler.terminarIo at hpaso
  split at hpaso
  · cases hpaso
  rename_i req _
  split at hpaso
  · cases hpaso
    exact h
  split at hpaso
  · cases hpaso
    exact h
  · cases hpaso
  · rename_i hextraer
    cases hpaso
    exact (conserva_concluirIo req _ escritura).final (EnUnLugar.extraer (h.modificarIo i _) hextraer)

theorem EnUnLugar.agregarCpu (h : k.EnUnLugar mano) (socket : Socket) (cpuId : ℕ) :
    { k with cpus := Planificador.agregarCpu k.cpus socket cpuId }.EnUnLugar mano := by
  refine h.conCpus fun q ↦ Nat.add_le_add_right ?_ _
  unfold Planificador.agregarCpu
  split
  · simp [enCpu]
  · exact Nat.le_refl _

theorem EnUnLugar.conectarCpu (h : k.EnUnLugar mano) (socket : Socket) (cpuId : ℕ) :
    (k.conectarCpu socket cpuId).EnUnLugar mano := by
  have hcpus := h.agregarCpu socket cpuId
  unfold KernelScheduler.conectarCpu
  simp only
  split
  · exact hcpus
  · exact hcpus

theorem EnUnLugar.vencido (h : k.EnUnLugar mano) (t : TimerQuantum) :
    { k with cpus := (vencerQuantum k.cpus t.cpuId t.pid).2 }.EnUnLugar mano := by
  refine h.conCpus fun q ↦ Nat.add_le_add_right ?_ _
  unfold vencerQuantum
  split
  · exact Nat.le_refl _
  · exact ListModify.count_flatMap_modify_le k.cpus _ enCpu _ q 0 fun c ↦ Nat.le_refl _

theorem EnUnLugar.vencerTimerQuantum (h : k.EnUnLugar mano) (t : TimerQuantum) :
    (k.vencerTimerQuantum t).EnUnLugar mano := by
  have hcpus := h.vencido t
  unfold KernelScheduler.vencerTimerQuantum
  simp only
  cases (vencerQuantum k.cpus t.cpuId t.pid).1.bind TCpu.socket with
  | none => exact hcpus
  | some socket => exact hcpus

/-- No step puts a process in a second place. -/
theorem EnUnLugar.paso (h : k.EnUnLugar []) {e : Evento} (hpaso : paso k e = some k') :
    k'.EnUnLugar [] := by
  cases e with
  | crearProceso path prioridad =>
    cases hpaso
    exact h.crearProceso path prioridad
  | planificarLargoPlazo => exact h.planificarLargoPlazo hpaso
  | planificarCortoPlazo ahora => exact h.planificarCortoPlazo hpaso
  | devolverProceso r motivo respuesta caida =>
    simp only [Planificador.paso] at hpaso
    split at hpaso <;> cases hpaso
    exact h.recibirDevolverProceso _ _ _ _
  | conectarCpu socket cpuId =>
    simp only [Planificador.paso] at hpaso
    split at hpaso <;> cases hpaso
    exact h.conectarCpu socket cpuId
  | desconectarCpu r =>
    simp only [Planificador.paso] at hpaso
    split at hpaso <;> cases hpaso
    exact h.modificarCpu r.cpuId _ fun _ ↦ rfl
  | vencerQuantum t =>
    simp only [Planificador.paso] at hpaso
    split at hpaso <;> cases hpaso
    exact h.vencerTimerQuantum t
  | conectarIo nombre =>
    cases hpaso
    unfold registrarInterfazIo
    split
    · exact h
    · exact h
  | tomarIo i => exact h.tomarIo hpaso
  | terminarIo i fin escritura => exact h.terminarIo hpaso
  | vencerSuspension i => exact h.vencerSuspension hpaso
  | terminarSuspension i => exact h.terminarSuspension hpaso
  | desSuspender pid respuesta escritura => exact h.desSuspender hpaso
  | iniciarCompactacion =>
    cases hpaso
    exact h
  | finalizarCompactacion =>
    cases hpaso
    exact h

end KernelScheduler

variable {k : KernelScheduler}

theorem enUnLugar_de_alcanzable (hk : Reachable paso Arranque (fun _ _ ↦ True) k) :
    k.EnUnLugar [] := by
  apply hk.invariant (P := fun k ↦ k.EnUnLugar [])
  · rintro _ ⟨config, rfl⟩ pid
    have hvig : ¬ (KernelScheduler.inicial config).Vigente pid := fun h ↦ Nat.not_lt_zero _ h.1
    rw [if_neg hvig]
    simp [apariciones, enSuspReady, lugares, KernelScheduler.inicial, Pcb.libre]
    split <;> simp
  · intro k e k' h _ hpaso
    exact h.paso hpaso

/-- Two slots with the process are one slot. -/
theorem KernelScheduler.EnUnLugar.unaCpu (h : k.EnUnLugar []) {i j : ℕ} {c c' : TCpu}
    (hi : k.cpus[i]? = some c) (hj : k.cpus[j]? = some c') (hc : c.procesoActual = some pid)
    (hc' : c'.procesoActual = some pid) : i = j := by
  by_contra hij
  have huno : (k.cpus.flatMap enCpu).count pid ≤ 1 := by
    have hpid := h pid
    simp only [apariciones, lugares, List.count_append] at hpid
    split at hpid <;> omega
  let sinProceso : TCpu → TCpu := fun c ↦ { c with procesoActual := none }
  have hcount := ListModify.count_flatMap_modify hi enCpu sinProceso pid
  have hsigue : pid ∈ (k.cpus.modify i sinProceso).flatMap enCpu := by
    refine List.mem_flatMap.mpr ⟨c', List.mem_of_getElem? (i := j) ?_, by rw [enCpu, hc']; simp⟩
    rw [List.getElem?_modify, hj]
    simp [hij]
  have hpos := List.count_pos_iff.mpr hsigue
  simp only [enCpu, hc, Option.toList_some, List.count_singleton_self, sinProceso, Option.toList_none,
    List.count_nil] at hcount hpos huno
  omega

/-- In every state of every run each process occurs at most once over all places; in particular no
process executes on two CPUs. -/
theorem procesos_enUnSoloLugar (hk : Reachable paso Arranque (fun _ _ ↦ True) k) (pid : Pid) :
    k.apariciones pid ≤ 1 ∧
      ∀ (i j : ℕ) (c c' : TCpu), k.cpus[i]? = some c → k.cpus[j]? = some c' →
        c.procesoActual = some pid → c'.procesoActual = some pid → i = j := by
  have h := enUnLugar_de_alcanzable hk
  refine ⟨?_, fun i j c c' hi hj hc hc' ↦ h.unaCpu hi hj hc hc'⟩
  have hpid := h pid
  rw [List.count_nil, Nat.add_zero] at hpid
  split at hpid
  · exact hpid
  · exact Nat.le_succ_of_le hpid

/-- Two CPUs with a process each. -/
theorem procesos_enUnSoloLugar_dosCpus : ∃ k : KernelScheduler,
    k.cpus.map TCpu.procesoActual = [some 0, some 1] ∧ k.apariciones 0 ≤ 1 := by
  have hinicial : Reachable paso Arranque (fun _ _ ↦ True)
      (.inicial ⟨.rr, 0, [], false, 100, 500⟩) := .start ⟨_, rfl⟩
  obtain ⟨k, hk, hcpus⟩ := hinicial.exists_of_runAllowed
    [.conectarCpu 5 1, .conectarCpu 6 2, .crearProceso "a" 0, .crearProceso "b" 0,
      .planificarLargoPlazo, .planificarLargoPlazo, .planificarCortoPlazo 7, .planificarCortoPlazo 7,
      .planificarCortoPlazo 8, .planificarCortoPlazo 8]
    (fun k ↦ k.cpus.map TCpu.procesoActual = [some 0, some 1]) (by decide)
  exact ⟨k, hcpus, (procesos_enUnSoloLugar hk 0).1⟩

end PlugAndPlay.Planificador
