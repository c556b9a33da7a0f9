import PlugAndPlay.Planificador.Sistema

/-!
# Invariants of the handlers

Most handlers work on processes, mutexes and interfaces and put processes in READY. A predicate that does not
look at the former and survives the latter is kept by all of them, whether they end or stop at the list of
mutexes.
-/

open PlugAndPlay.Library

namespace PlugAndPlay.Planificador

namespace KernelScheduler

/-- Only processes, mutexes, interfaces, BLOCK and suspension differ. -/
abbrev SalvoProcesos (k k' : KernelScheduler) : Prop :=
  k' = { k with
    pcbs := k'.pcbs
    contadorPids := k'.contadorPids
    todosLosProcesos := k'.todosLosProcesos
    colaProcesosNew := k'.colaProcesosNew
    listaMutexes := k'.listaMutexes
    mutexListaMutexes := k'.mutexListaMutexes
    tablaIos := k'.tablaIos
    colaProcesosBlock := k'.colaProcesosBlock
    listaSuspendidos := k'.listaSuspendidos
    timersSuspension := k'.timersSuspension
    semNew := k'.semNew
    semReevaluarSuspendidos := k'.semReevaluarSuspendidos }

/-- The predicate does not look at these and survives what the handlers do to READY. -/
structure Mantenido (I : KernelScheduler → Prop) : Prop where
  procesos : ∀ {k k' : KernelScheduler}, I k → SalvoProcesos k k' → I k'
  encolar : ∀ {k : KernelScheduler} (pid : Pid), I k → I (k.encolarEnReadyYNotificar pid)
  desalojado : ∀ {k : KernelScheduler} (pid : Pid), I k → I (k.encolarDesalojado pid)
  reubicar : ∀ {k : KernelScheduler} (pid : Pid) (anterior nueva : ℤ), I k →
    I (k.reubicarProcesoEnReady pid anterior nueva)

namespace Mantenido

variable {I : KernelScheduler → Prop} {k k' : KernelScheduler} (h : Mantenido I)
include h

theorem modificarPcb (hk : I k) (pid : Pid) (f : Pcb → Pcb) : I (k.modificarPcb pid f) := h.procesos hk rfl

theorem modificarMutex (hk : I k) (i : ℕ) (f : MutexSistema → MutexSistema) : I (k.modificarMutex i f) :=
  h.procesos hk rfl

theorem asignarPrioridad (hk : I k) (pid : Pid) (prioridad : ℤ) : I (k.asignarPrioridadDinamica pid prioridad) := by
  unfold asignarPrioridadDinamica
  split
  · exact h.reubicar _ _ _ (h.modificarPcb hk pid _)
  · exact hk

theorem asignarASiguiente (hk : I k) (i : ℕ) (siguiente : Pid) : I (k.asignarASiguiente i siguiente) :=
  h.encolar siguiente (h.modificarPcb (h.modificarMutex hk i _) siguiente _)

theorem propagar (fuel : ℕ) (hk : I k) (bloqueado : Pid) (aHeredar : ℤ) :
    I (propagarHerencia fuel k bloqueado aHeredar) := by
  induction fuel generalizing k bloqueado with
  | zero => exact hk
  | succ fuel ih =>
    unfold propagarHerencia
    split
    · exact hk
    split
    · exact hk
    split
    · rename_i poseedor _ _
      have hcambio : I ((k.cambiarPrioridadDinamica poseedor aHeredar).reubicarProcesoEnReady poseedor
          (k.pcbs poseedor).prioridadDinamica aHeredar) := h.reubicar _ _ _ (h.modificarPcb hk poseedor _)
      simp only
      split
      · exact ih hcambio poseedor
      · exact hcambio
    · exact hk

theorem notificarProcesoEnBlock (hk : I k) (pid : Pid) (epoch : UInt32) : I (k.notificarProcesoEnBlock pid epoch) := by
  unfold KernelScheduler.notificarProcesoEnBlock
  split
  · exact hk
  · exact h.procesos hk rfl

theorem encolarIoRequest (hk : I k) (i : ℕ) (req : IoRequest) : I (k.encolarIoRequest i req) := by
  unfold KernelScheduler.encolarIoRequest
  split
  · exact hk
  split
  · have hblock : I (k.entrarEnBlock req.proceso) := by
      apply h.notificarProcesoEnBlock
      exact h.procesos hk rfl
    exact h.procesos hblock rfl
  · exact hk

theorem pedirIo (hk : I k) (interfaz : Option ℕ) (req : IoRequest) (caida : Bool) : I (k.pedirIo interfaz req caida) := by
  unfold KernelScheduler.pedirIo
  cases interfaz with
  | none => exact h.encolar _ hk
  | some i =>
    have hworker : I (k.terminarWorker i) := h.procesos hk rfl
    simp only
    split
    · exact h.encolarIoRequest hworker i req
    · exact h.encolarIoRequest hk i req

theorem crearProceso (hk : I k) (path : String) (prioridad : ℤ) : I (k.crearProceso path prioridad) := by
  unfold KernelScheduler.crearProceso
  split
  · exact hk
  · exact h.procesos hk rfl

theorem registrarInterfazIo (hk : I k) (nombre : String) : I (k.registrarInterfazIo nombre) := by
  unfold KernelScheduler.registrarInterfazIo
  split
  · exact h.procesos hk rfl
  · exact hk

/-! ## Threads -/

theorem lock : Blocking.Keeps I lockListaMutexes := by
  intro k hk
  cases htomada : k.mutexListaMutexes with
  | true =>
    rw [lockListaMutexes_tomada htomada]
    exact hk
  | false =>
    rw [lockListaMutexes_libre htomada]
    exact h.procesos hk rfl

theorem unlock : Blocking.Keeps I unlockListaMutexes := Blocking.keeps_modify fun _ hk ↦ h.procesos hk rfl

theorem buscarMutex (nombre : String) : Blocking.Keeps I (buscarMutexPorNombre nombre) := by
  apply h.lock.bind
  intro _
  apply Blocking.keeps_get_bind
  intro k
  exact h.unlock.bind fun _ ↦ Blocking.keeps_pure _

theorem registrarMutex (m : MutexSistema) : Blocking.Keeps I (registrarMutex m) := by
  apply h.lock.bind
  intro _
  apply Blocking.keeps_get_bind
  intro k
  apply Blocking.Keeps.bind (Blocking.keeps_modify fun _ hk ↦ h.procesos hk rfl)
  intro _
  exact h.unlock.bind fun _ ↦ Blocking.keeps_pure _

theorem recalcular (pid : Pid) : Blocking.Keeps I (recalcularPrioridadDinamica pid) := by
  apply h.lock.bind
  intro _
  apply Blocking.keeps_get_bind
  intro k
  apply h.unlock.bind
  intro _
  exact Blocking.keeps_modify fun _ hk ↦ h.asignarPrioridad hk _ _

theorem liberarMutexEn (pid : Pid) (i : ℕ) : Blocking.Keeps I (liberarMutexEn pid i) := by
  apply Blocking.keeps_get_bind
  intro k
  cases k.listaMutexes[i]? with
  | none => exact Blocking.keeps_pure ()
  | some m =>
    simp only
    split
    · split
      · exact Blocking.keeps_modify fun _ hk ↦ h.modificarMutex hk i _
      · rename_i siguiente _ _
        apply Blocking.Keeps.bind (Blocking.keeps_modify fun _ hk ↦ h.asignarASiguiente hk i siguiente)
        exact fun _ ↦ h.recalcular siguiente
    · exact Blocking.keeps_modify fun _ hk ↦ h.modificarMutex hk i _

theorem liberarMutexes (pid : Pid) : Blocking.Keeps I (liberarMutexesDeProceso pid) := by
  apply h.lock.bind
  intro _
  apply Blocking.keeps_get_bind
  intro k
  apply (Blocking.keeps_forM (h.liberarMutexEn pid)).bind
  exact fun _ ↦ h.unlock

theorem finalizarProceso (pid : Pid) : Blocking.Keeps I (finalizarProceso pid) := by
  apply Blocking.Keeps.bind (Blocking.keeps_modify fun _ hk ↦ h.modificarPcb hk pid _)
  intro _
  apply (h.liberarMutexes pid).bind
  exact fun _ ↦ Blocking.keeps_modify fun _ hk ↦ h.procesos hk rfl

theorem finalizarPcb (pid : Pid) : Blocking.Keeps I (finalizarPcbPorSegFault pid) := by
  apply Blocking.Keeps.bind (Blocking.keeps_modify fun _ hk ↦ h.modificarPcb hk pid _)
  intro _
  apply Blocking.Keeps.bind (Blocking.keeps_modify fun _ hk ↦ h.procesos hk rfl)
  intro _
  apply (h.liberarMutexes pid).bind
  intro _
  apply Blocking.Keeps.bind (Blocking.keeps_modify fun _ hk ↦ h.modificarPcb hk pid _)
  exact fun _ ↦ Blocking.keeps_modify fun _ hk ↦ h.procesos hk rfl

theorem hilo_encolar (pid : Pid) : Blocking.Keeps I (modify fun k ↦ k.encolarEnReadyYNotificar pid) :=
  Blocking.keeps_modify fun _ hk ↦ h.encolar pid hk

theorem mutexCreate (nombre : Option String) : Blocking.Keeps I (manejarSyscallMutexCreate nombre) := by
  cases nombre with
  | none => exact Blocking.keeps_pure ()
  | some nombre =>
    apply (h.buscarMutex nombre).bind
    intro hallado
    cases hallado with
    | none => exact (h.registrarMutex _).bind fun _ ↦ Blocking.keeps_pure _
    | some _ => exact Blocking.keeps_pure ()

theorem mutexLock (pid : Pid) (nombre : Option String) : Blocking.Keeps I (manejarSyscallMutexLock pid nombre) := by
  cases nombre with
  | none => exact Blocking.keeps_pure false
  | some nombre =>
    have hmutex : Blocking.Keeps I (buscarOCrearMutex nombre) := by
      apply (h.buscarMutex nombre).bind
      intro hallado
      cases hallado with
      | none => exact h.registrarMutex _
      | some i => exact Blocking.keeps_pure i
    apply hmutex.bind
    intro i
    apply Blocking.keeps_get_bind
    intro k
    split
    · apply Blocking.Keeps.bind (Blocking.keeps_modify fun _ hk ↦ h.modificarMutex hk i _)
      exact fun _ ↦ Blocking.keeps_pure false
    · apply Blocking.Keeps.bind (Blocking.keeps_modify fun _ hk ↦ h.modificarMutex (h.modificarPcb hk pid _) i _)
      intro _
      apply Blocking.Keeps.bind (Blocking.keeps_modify fun _ hk ↦ h.propagar _ hk pid _)
      intro _
      apply Blocking.Keeps.bind
        (Blocking.keeps_modify fun _ hk ↦ h.notificarProcesoEnBlock (h.modificarPcb hk pid _) pid _)
      exact fun _ ↦ Blocking.keeps_pure true

theorem mutexUnlock (pid : Pid) (nombre : Option String) :
    Blocking.Keeps I (manejarSyscallMutexUnlock pid nombre) := by
  cases nombre with
  | none => exact Blocking.keeps_pure ()
  | some nombre =>
    apply (h.buscarMutex nombre).bind
    intro hallado
    cases hallado with
    | none => exact Blocking.keeps_pure ()
    | some i =>
      apply Blocking.keeps_get_bind
      intro k
      cases k.listaMutexes[i]? with
      | none => exact Blocking.keeps_pure ()
      | some m =>
        simp only
        split
        · split
          · apply Blocking.Keeps.bind (Blocking.keeps_modify fun _ hk ↦ h.modificarMutex hk i _)
            exact fun _ ↦ h.recalcular pid
          · rename_i siguiente _ _
            apply Blocking.Keeps.bind (Blocking.keeps_modify fun _ hk ↦ h.asignarASiguiente hk i siguiente)
            intro _
            exact (h.recalcular siguiente).bind fun _ ↦ h.recalcular pid
        · exact Blocking.keeps_pure ()

theorem syscallMutex (pid : Pid) (s : SyscallMutex) : Blocking.Keeps I (manejarSyscallMutex pid s) := by
  cases s with
  | create nombre => exact (h.mutexCreate nombre).bind fun _ ↦ h.hilo_encolar pid
  | lock nombre =>
    apply (h.mutexLock pid nombre).bind
    intro seBloqueo
    cases seBloqueo with
    | false => exact h.hilo_encolar pid
    | true => exact Blocking.keeps_pure _
  | unlock nombre => exact (h.mutexUnlock pid nombre).bind fun _ ↦ h.hilo_encolar pid

theorem hilo_pedirIo (interfaz : KernelScheduler → Option ℕ) (req : IoRequest) (caida : Bool) :
    Blocking.Keeps I (modify fun k ↦ k.pedirIo (interfaz k) req caida) :=
  Blocking.keeps_modify fun _ hk ↦ h.pedirIo hk _ req caida

/-- The syscalls that leave the CPU to others. -/
theorem syscallIo (pid : Pid) {pedido : Syscall} (hpedido : ¬ (Motivo.syscall pedido).EsSyscallMemoria)
    (cpuId : ℕ) (respuesta : RespuestaMemoria) (caida : Bool) :
    Blocking.Keeps I (manejarSyscallIo pid pedido cpuId respuesta caida) := by
  unfold manejarSyscallIo
  split
  · exact h.hilo_encolar pid
  · exact h.hilo_encolar pid
  · exact h.hilo_encolar pid
  · exact h.hilo_encolar pid
  · exact h.hilo_pedirIo _ _ caida
  · exact h.hilo_pedirIo _ _ caida
  · exact h.hilo_pedirIo _ _ caida
  · apply Blocking.keeps_get_bind
    intro k
    simp only
    split
    · exact h.hilo_encolar pid
    · exact h.hilo_encolar pid
    · exact h.finalizarPcb pid
    · exact h.hilo_pedirIo _ _ caida
  · exact absurd trivial hpedido
  · exact absurd trivial hpedido
  · exact absurd trivial hpedido
  · exact absurd trivial hpedido
  · exact h.syscallMutex pid _
  · exact h.syscallMutex pid _
  · exact h.syscallMutex pid _
  · exact h.hilo_encolar pid
  · exact h.hilo_encolar pid
  · exact Blocking.keeps_modify fun _ hk ↦ h.encolar pid (h.crearProceso hk _ _)

/-- A returned process, except after a memory syscall. -/
theorem atenderDevuelto (pid : Pid) {motivo : Motivo} (hmotivo : ¬ motivo.EsSyscallMemoria) (cpuId : ℕ)
    (respuesta : RespuestaMemoria) (caida : Bool) :
    Blocking.Keeps I (atenderDevuelto pid motivo cpuId respuesta caida) := by
  cases motivo with
  | exit => exact h.finalizarProceso pid
  | error => exact h.finalizarProceso pid
  | segfault => exact h.finalizarProceso pid
  | quantum => exact h.hilo_encolar pid
  | desconocido => exact h.hilo_encolar pid
  | syscall pedido => exact h.syscallIo pid hmotivo cpuId respuesta caida
  | desalojo => exact Blocking.keeps_modify fun _ hk ↦ h.desalojado pid hk
  | desalojoCola => exact Blocking.keeps_modify fun _ hk ↦ h.desalojado pid hk

theorem concluirIo (req : IoRequest) (datos : List UInt8) (escritura : RespuestaMemoria) :
    Blocking.Keeps I (concluirIo req datos escritura) := by
  have hdesbloquear : Blocking.Keeps I (modify fun k ↦ k.desbloquear req.proceso) := by
    apply Blocking.keeps_modify
    intro k hk
    unfold KernelScheduler.desbloquear
    split
    · exact h.procesos hk rfl
    · exact h.encolar _ hk
  unfold Planificador.concluirIo
  split
  · exact hdesbloquear
  · exact hdesbloquear
  · apply Blocking.keeps_get_bind
    intro k
    split
    · exact Blocking.keeps_modify fun _ hk ↦ h.procesos hk rfl
    split
    · exact h.hilo_encolar _
    · exact h.finalizarPcb _

/-! ## Steps -/

theorem terminarIo (hk : I k) {i : ℕ} {fin : FinIo} {escritura : RespuestaMemoria}
    (hpaso : k.terminarIo i fin escritura = some k') : I k' := by
  unfold KernelScheduler.terminarIo at hpaso
  split at hpaso
  · cases hpaso
  split at hpaso
  · obtain rfl := Option.some.inj hpaso
    exact h.procesos hk rfl
  · unfold extraerDeBlock at hpaso
    split at hpaso
    · obtain rfl := Option.some.inj hpaso
      exact h.procesos hk rfl
    · cases hpaso
    · rename_i k₁ hextrae
      obtain rfl := Option.some.inj hpaso
      apply (h.concluirIo _ _ escritura).final
      split at hextrae
      · split at hextrae
        · cases hextrae
        · cases hextrae
          exact h.procesos hk rfl
      · cases hextrae

theorem desSuspender (hk : I k) {pid : Pid} {respuesta escritura : RespuestaMemoria}
    (hpaso : k.desSuspender pid respuesta escritura = some k') : I k' := by
  have hsacado : I (k.removerDeListaSuspendidos pid) := h.procesos hk rfl
  unfold KernelScheduler.desSuspender at hpaso
  split at hpaso
  · split at hpaso
    · cases hpaso
      exact hk
    simp only at hpaso
    split at hpaso
    · cases hpaso
      exact h.encolar pid hsacado
    split at hpaso
    · cases hpaso
      exact h.encolar pid (h.modificarPcb hsacado pid _)
    · cases hpaso
      exact (h.finalizarPcb pid).final (h.modificarPcb hsacado pid _)
  · cases hpaso

theorem vencerSuspension (hk : I k) {i : ℕ} (hpaso : k.vencerSuspension i = some k') : I k' := by
  unfold KernelScheduler.vencerSuspension at hpaso
  split at hpaso
  · cases hpaso
  split at hpaso
  · cases hpaso
  split at hpaso
  · cases hpaso
    exact h.procesos hk rfl
  · cases hpaso
    exact h.procesos hk rfl

theorem terminarSuspension (hk : I k) {i : ℕ} (hpaso : k.terminarSuspension i = some k') : I k' := by
  unfold KernelScheduler.terminarSuspension at hpaso
  split at hpaso
  · cases hpaso
  split at hpaso
  · cases hpaso
  · cases hpaso
    split
    · exact h.procesos hk rfl
    · exact h.procesos hk rfl

theorem tomarIo (hk : I k) {i : ℕ} (hpaso : k.tomarIo i = some k') : I k' := by
  unfold KernelScheduler.tomarIo at hpaso
  split at hpaso
  · cases hpaso
  split at hpaso
  · cases hpaso
    exact h.procesos hk rfl
  · cases hpaso

end Mantenido

end KernelScheduler

end PlugAndPlay.Planificador
