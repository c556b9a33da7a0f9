import PlugAndPlay.Planificador.SinPerdidos

/-!
# Handlers that have stopped

A handler that finds `mutex_lista_mutexes` taken by itself never goes on. From then on the table stays
locked: every other handler that wants it stops as well, and those that do not want it leave it alone.
-/

open PlugAndPlay.Library

namespace PlugAndPlay.Planificador

open KernelScheduler

/-- The table of mutexes is locked between two steps: some handler has stopped. -/
def KernelScheduler.Detenido (k : KernelScheduler) : Prop := k.mutexListaMutexes = true

instance : DecidablePred KernelScheduler.Detenido := fun k ↦
  inferInstanceAs (Decidable (k.mutexListaMutexes = true))

/-- The thread leaves a locked table locked. -/
def SigueTomada {α : Type} (hilo : Hilo α) : Prop :=
  Blocking.Triple Detenido hilo (fun _ ↦ Detenido) Detenido

/-- The thread stops where the table is locked. -/
def SeDetiene {α : Type} (hilo : Hilo α) : Prop :=
  Blocking.Triple Detenido hilo (fun _ _ ↦ False) Detenido

variable {α β : Type} {pid : Pid} {k k' : KernelScheduler}

theorem SeDetiene.sigue {x : Hilo α} (h : SeDetiene x) : SigueTomada x :=
  Blocking.Triple.conseq h (fun _ ↦ id) (fun _ _ ↦ False.elim) fun _ ↦ id

theorem SeDetiene.bind {x : Hilo α} (h : SeDetiene x) (f : α → Hilo β) : SeDetiene (x >>= f) := by
  apply Blocking.Triple.bind h
  intro _ _ hno
  exact hno.elim

theorem SigueTomada.bind {x : Hilo α} {f : α → Hilo β} (hx : SigueTomada x)
    (hf : ∀ a, SigueTomada (f a)) : SigueTomada (x >>= f) :=
  Blocking.Triple.bind hx hf

theorem sigue_pure (a : α) : SigueTomada (pure a) := Blocking.Triple.of_pure a fun _ h ↦ h

theorem sigue_modify {f : KernelScheduler → KernelScheduler}
    (h : ∀ k, (f k).mutexListaMutexes = k.mutexListaMutexes) : SigueTomada (modify f) := by
  apply Blocking.Triple.of_modify
  intro k hk
  exact (h k).trans hk

theorem sigue_get_bind {f : KernelScheduler → Hilo β} (h : ∀ k, SigueTomada (f k)) :
    SigueTomada (get >>= f) := by
  apply Blocking.Triple.get_bind
  intro k hk
  apply Blocking.Triple.conseq (h k) _ (fun _ _ ↦ id) fun _ ↦ id
  intro k' hk'
  rw [hk']
  exact hk

theorem seDetiene_lock : SeDetiene lockListaMutexes := by
  intro k hk
  rw [lockListaMutexes_tomada hk]
  exact hk

/-! ## Threads -/

theorem seDetiene_buscarMutex (nombre : String) : SeDetiene (buscarMutexPorNombre nombre) :=
  seDetiene_lock.bind _

theorem seDetiene_recalcular (pid : Pid) : SeDetiene (recalcularPrioridadDinamica pid) :=
  seDetiene_lock.bind _

theorem seDetiene_liberarMutexes (pid : Pid) : SeDetiene (liberarMutexesDeProceso pid) :=
  seDetiene_lock.bind _

theorem sigue_liberarMutexEn (pid : Pid) (i : ℕ) : SigueTomada (liberarMutexEn pid i) := by
  apply sigue_get_bind
  intro k
  cases k.listaMutexes[i]? with
  | none => exact sigue_pure ()
  | some m =>
    simp only
    split
    · split
      · exact sigue_modify fun _ ↦ rfl
      · apply SigueTomada.bind
        · exact sigue_modify fun k ↦ mutexListaMutexes_asignarASiguiente k i _
        · exact fun _ ↦ (seDetiene_recalcular _).sigue
    · exact sigue_modify fun _ ↦ rfl

theorem sigue_finalizarProceso (pid : Pid) : SigueTomada (finalizarProceso pid) := by
  apply SigueTomada.bind
  · exact sigue_modify fun _ ↦ rfl
  · exact fun _ ↦ ((seDetiene_liberarMutexes pid).bind _).sigue

theorem sigue_finalizarPcb (pid : Pid) : SigueTomada (finalizarPcbPorSegFault pid) := by
  apply SigueTomada.bind
  · exact sigue_modify fun _ ↦ rfl
  intro _
  apply SigueTomada.bind
  · exact sigue_modify fun _ ↦ rfl
  · exact fun _ ↦ ((seDetiene_liberarMutexes pid).bind _).sigue

theorem sigue_encolar (pid : Pid) : SigueTomada (modify fun k ↦ k.encolarEnReadyYNotificar pid) :=
  sigue_modify fun k ↦ (salvoReady_encolar k pid).mutexListaMutexes

theorem sigue_syscallMutex (pid : Pid) (s : SyscallMutex) : SigueTomada (manejarSyscallMutex pid s) := by
  cases s with
  | create nombre =>
    cases nombre with
    | none => exact (sigue_pure ()).bind fun _ ↦ sigue_encolar pid
    | some nombre => exact (((seDetiene_buscarMutex nombre).bind _).bind _).sigue
  | lock nombre =>
    cases nombre with
    | none =>
      apply (sigue_pure false).bind
      intro seBloqueo
      cases seBloqueo with
      | false => exact sigue_encolar pid
      | true => exact sigue_pure _
    | some nombre => exact ((((seDetiene_buscarMutex nombre).bind _).bind _).bind _).sigue
  | unlock nombre =>
    cases nombre with
    | none => exact (sigue_pure ()).bind fun _ ↦ sigue_encolar pid
    | some nombre => exact (((seDetiene_buscarMutex nombre).bind _).bind _).sigue

theorem lista_notificarProcesoEnBlock (k : KernelScheduler) (pid : Pid) (epoch : UInt32) :
    (k.notificarProcesoEnBlock pid epoch).mutexListaMutexes = k.mutexListaMutexes := by
  unfold KernelScheduler.notificarProcesoEnBlock
  split
  · rfl
  · rfl

theorem lista_encolarIoRequest (k : KernelScheduler) (i : ℕ) (req : IoRequest) :
    (k.encolarIoRequest i req).mutexListaMutexes = k.mutexListaMutexes := by
  unfold KernelScheduler.encolarIoRequest
  split
  · rfl
  split
  · exact lista_notificarProcesoEnBlock _ _ _
  · rfl

theorem lista_pedirIo (k : KernelScheduler) (interfaz : Option ℕ) (req : IoRequest) (caida : Bool) :
    (k.pedirIo interfaz req caida).mutexListaMutexes = k.mutexListaMutexes := by
  unfold KernelScheduler.pedirIo
  cases interfaz with
  | none => exact (salvoReady_encolar k req.proceso).mutexListaMutexes
  | some i =>
    simp only
    split
    · exact lista_encolarIoRequest _ _ _
    · exact lista_encolarIoRequest _ _ _

theorem sigue_finalizarYLiberar (pid : Pid) (cpuOrigen : ℕ) :
    SigueTomada (finalizarYLiberarCpu pid cpuOrigen) :=
  (sigue_finalizarProceso pid).bind fun _ ↦ sigue_modify fun _ ↦ rfl

theorem lista_devolverOReplanificar (k : KernelScheduler) (cpuId : ℕ) (pid : Pid) :
    (k.devolverOReplanificar cpuId pid).mutexListaMutexes = k.mutexListaMutexes := by
  unfold KernelScheduler.devolverOReplanificar
  split
  · exact (salvoReady_encolar k pid).mutexListaMutexes
  · simp only
    split
    · rfl
    · rfl

theorem lista_crearProceso (k : KernelScheduler) (path : String) (prioridad : ℤ) :
    (k.crearProceso path prioridad).mutexListaMutexes = k.mutexListaMutexes := by
  unfold KernelScheduler.crearProceso
  split
  · rfl
  · rfl

theorem sigue_syscallIo (pid : Pid) (pedido : Syscall) (cpuOrigen : ℕ) (respuesta : RespuestaMemoria)
    (caida : Bool) : SigueTomada (manejarSyscallIo pid pedido cpuOrigen respuesta caida) := by
  unfold manejarSyscallIo
  split
  · exact sigue_encolar pid
  · exact sigue_encolar pid
  · exact sigue_encolar pid
  · exact sigue_encolar pid
  · exact sigue_modify fun k ↦ lista_pedirIo k _ _ caida
  · exact sigue_modify fun k ↦ lista_pedirIo k _ _ caida
  · exact sigue_modify fun k ↦ lista_pedirIo k _ _ caida
  · apply sigue_get_bind
    intro k
    simp only
    split
    · exact sigue_encolar pid
    · exact sigue_encolar pid
    · exact sigue_finalizarPcb pid
    · exact sigue_modify fun k ↦ lista_pedirIo k _ _ caida
  · exact sigue_finalizarYLiberar pid cpuOrigen
  · split
    · exact sigue_finalizarYLiberar pid cpuOrigen
    · exact sigue_finalizarYLiberar pid cpuOrigen
    · exact sigue_modify fun k ↦ lista_devolverOReplanificar k cpuOrigen pid
  · exact sigue_finalizarYLiberar pid cpuOrigen
  · exact sigue_modify fun k ↦ lista_devolverOReplanificar k cpuOrigen pid
  · exact sigue_syscallMutex pid _
  · exact sigue_syscallMutex pid _
  · exact sigue_syscallMutex pid _
  · exact sigue_encolar pid
  · exact sigue_encolar pid
  · apply sigue_modify
    intro k
    rw [(salvoReady_encolar _ pid).mutexListaMutexes]
    exact lista_crearProceso k _ _

theorem sigue_atenderDevuelto (pid : Pid) (motivo : Motivo) (cpuId : ℕ) (respuesta : RespuestaMemoria)
    (caida : Bool) : SigueTomada (atenderDevuelto pid motivo cpuId respuesta caida) := by
  cases motivo with
  | quantum => exact sigue_encolar pid
  | syscall pedido => exact sigue_syscallIo pid pedido cpuId respuesta caida
  | exit => exact sigue_finalizarProceso pid
  | error => exact sigue_finalizarProceso pid
  | segfault => exact sigue_finalizarProceso pid
  | desalojo => exact sigue_modify fun k ↦ (salvoReady_encolarDesalojado k pid).mutexListaMutexes
  | desalojoCola => exact sigue_modify fun k ↦ (salvoReady_encolarDesalojado k pid).mutexListaMutexes
  | desconocido => exact sigue_encolar pid

theorem lista_desbloquear (k : KernelScheduler) (pid : Pid) :
    (k.desbloquear pid).mutexListaMutexes = k.mutexListaMutexes := by
  unfold KernelScheduler.desbloquear
  split
  · rfl
  · exact (salvoReady_encolar k pid).mutexListaMutexes

theorem sigue_concluirIo (req : IoRequest) (datos : List UInt8) (escritura : RespuestaMemoria) :
    SigueTomada (concluirIo req datos escritura) := by
  unfold concluirIo
  split
  · exact sigue_modify fun k ↦ lista_desbloquear k req.proceso
  · exact sigue_modify fun k ↦ lista_desbloquear k req.proceso
  · apply sigue_get_bind
    intro k
    split
    · exact sigue_modify fun _ ↦ rfl
    split
    · exact sigue_encolar req.proceso
    · exact sigue_finalizarPcb req.proceso

/-! ## Steps -/

namespace KernelScheduler

theorem Detenido.recibirDevolverProceso (h : k.Detenido) (cpuId : ℕ) (motivo : Motivo)
    (respuesta : RespuestaMemoria) (caida : Bool) :
    (k.recibirDevolverProceso cpuId motivo respuesta caida).Detenido := by
  unfold KernelScheduler.recibirDevolverProceso
  generalize hr : (if motivo.EsSyscallMemoria then k.retirarProcesoReservando cpuId
    else k.retirarProceso cpuId) = r
  have hretirado : r.2.Detenido := by
    rw [← hr]
    split
    · exact h
    · exact h
  obtain ⟨proceso, k₁⟩ := r
  cases proceso with
  | none =>
    simp only
    split
    · exact hretirado
    · exact hretirado
  | some pid => exact (sigue_atenderDevuelto pid motivo cpuId respuesta caida).final hretirado

theorem Detenido.encolarPorPrioridad (h : k.Detenido) (pid : Pid) :
    (k.encolarEnReadyPorPrioridad pid).Detenido := by
  unfold encolarEnReadyPorPrioridad
  split
  · exact (salvoReady_verificar _ pid).mutexListaMutexes.trans h
  · exact h

theorem Detenido.planificarLargoPlazo (h : k.Detenido) (hpaso : k.planificarLargoPlazo = some k') :
    k'.Detenido := by
  unfold KernelScheduler.planificarLargoPlazo at hpaso
  split at hpaso
  · cases hpaso
  simp only at hpaso
  split at hpaso
  · cases hpaso
    exact h
  split at hpaso
  · cases hpaso
    apply Detenido.encolarPorPrioridad
    exact h
  · cases hpaso
    exact h

theorem lista_proximo (k : KernelScheduler) :
    k.obtenerProximoProcesoReady.2.mutexListaMutexes = k.mutexListaMutexes := by
  unfold obtenerProximoProcesoReady
  split
  · split
    · rfl
    · unfold desencolarProcesoReady
      split
      · rfl
      · rfl
  · unfold popReady
    split
    · rfl
    · rfl

theorem lista_reencolarPorFallo (k : KernelScheduler) (pid : Pid) :
    (k.reencolarPorFalloDeEnvio pid).mutexListaMutexes = k.mutexListaMutexes := by
  unfold reencolarPorFalloDeEnvio
  split
  · exact (salvoReady_inicio k pid _).mutexListaMutexes
  split
  · rfl
  · rfl

theorem lista_ponerEnExec (k : KernelScheduler) (pid : Pid) (cpu : TCpu) (ahora : ℤ) (quantum : UInt32)
    (rr : Bool) : (k.ponerEnExec pid cpu ahora quantum rr).mutexListaMutexes = k.mutexListaMutexes := by
  unfold KernelScheduler.ponerEnExec
  simp only
  cases cpu.socket with
  | none =>
    split
    · rfl
    · rfl
  | some socket =>
    split
    · rfl
    · rfl

theorem Detenido.despachar (h : k.Detenido) (ahora : ℤ) : (k.despachar ahora).Detenido := by
  have hproximo := (lista_proximo k).trans h
  unfold KernelScheduler.despachar
  generalize k.obtenerProximoProcesoReady = r at hproximo
  obtain ⟨proceso, k₁⟩ := r
  cases proceso with
  | none => exact hproximo
  | some pid =>
    simp only
    split
    · exact hproximo
    split
    · exact (lista_reencolarPorFallo k₁ pid).trans hproximo
    · exact (lista_ponerEnExec _ _ _ _ _ _).trans hproximo

theorem Detenido.planificarCortoPlazo (h : k.Detenido) {ahora : ℤ}
    (hpaso : k.planificarCortoPlazo ahora = some k') : k'.Detenido := by
  unfold KernelScheduler.planificarCortoPlazo at hpaso
  split at hpaso
  · split at hpaso
    · cases hpaso
    split at hpaso
    · cases hpaso
      exact h
    split at hpaso
    · cases hpaso
      exact h
    · cases hpaso
      exact h
  · cases hpaso
    exact h.despachar ahora
  · split at hpaso
    · cases hpaso
    · cases hpaso
      exact h
  · split at hpaso
    · cases hpaso
      exact h
    split at hpaso
    · cases hpaso
    · cases hpaso
      exact h

theorem Detenido.terminarIo (h : k.Detenido) {i : ℕ} {fin : FinIo} {escritura : RespuestaMemoria}
    (hpaso : k.terminarIo i fin escritura = some k') : k'.Detenido := by
  unfold KernelScheduler.terminarIo at hpaso
  split at hpaso
  · cases hpaso
  split at hpaso
  · cases hpaso
    exact h
  split at hpaso
  · cases hpaso
    exact h
  · cases hpaso
  · rename_i hextraer
    cases hpaso
    apply (sigue_concluirIo _ _ escritura).final
    unfold extraerDeBlock at hextraer
    split at hextraer
    swap
    · cases hextraer
    split at hextraer <;> cases hextraer
    exact h

theorem Detenido.desSuspender (h : k.Detenido) {respuesta escritura : RespuestaMemoria}
    (hpaso : k.desSuspender pid respuesta escritura = some k') : k'.Detenido := by
  unfold KernelScheduler.desSuspender at hpaso
  split at hpaso
  swap
  · cases hpaso
  split at hpaso
  · cases hpaso
    exact h
  simp only at hpaso
  split at hpaso
  · cases hpaso
    exact (salvoReady_encolar _ pid).mutexListaMutexes.trans h
  split at hpaso
  · cases hpaso
    exact (salvoReady_encolar _ pid).mutexListaMutexes.trans h
  · cases hpaso
    apply (sigue_finalizarPcb pid).final
    exact h

/-- A locked table stays locked. -/
theorem Detenido.paso (h : k.Detenido) {e : Evento} (hpaso : paso k e = some k') : k'.Detenido := by
  cases e with
  | crearProceso path prioridad =>
    cases hpaso
    exact (lista_crearProceso k path prioridad).trans h
  | planificarLargoPlazo => exact h.planificarLargoPlazo hpaso
  | planificarCortoPlazo ahora => exact h.planificarCortoPlazo hpaso
  | devolverProceso r motivo respuesta caida =>
    simp only [Planificador.paso] at hpaso
    split at hpaso <;> cases hpaso
    exact h.recibirDevolverProceso _ _ _ _
  | conectarCpu socket cpuId =>
    simp only [Planificador.paso] at hpaso
    split at hpaso <;> cases hpaso
    unfold KernelScheduler.conectarCpu
    simp only
    split
    · exact h
    · exact h
  | desconectarCpu r =>
    simp only [Planificador.paso] at hpaso
    split at hpaso <;> cases hpaso
    exact h
  | vencerQuantum t =>
    simp only [Planificador.paso] at hpaso
    split at hpaso <;> cases hpaso
    unfold KernelScheduler.vencerTimerQuantum
    simp only
    cases (Planificador.vencerQuantum k.cpus t.cpuId t.pid).1.bind TCpu.socket with
    | none => exact h
    | some socket => exact h
  | conectarIo nombre =>
    cases hpaso
    unfold registrarInterfazIo
    split
    · exact h
    · exact h
  | tomarIo i =>
    simp only [Planificador.paso, KernelScheduler.tomarIo] at hpaso
    split at hpaso
    · cases hpaso
    split at hpaso <;> cases hpaso
    exact h
  | terminarIo i fin escritura => exact h.terminarIo hpaso
  | vencerSuspension i =>
    simp only [Planificador.paso, KernelScheduler.vencerSuspension] at hpaso
    split at hpaso
    · cases hpaso
    split at hpaso
    · cases hpaso
    split at hpaso
    · cases hpaso
      exact h
    · cases hpaso
      exact h
  | terminarSuspension i =>
    simp only [Planificador.paso, KernelScheduler.terminarSuspension] at hpaso
    split at hpaso
    · cases hpaso
    split at hpaso
    · cases hpaso
    · cases hpaso
      split
      · exact h
      · exact h
  | desSuspender pid respuesta escritura => exact h.desSuspender hpaso
  | iniciarCompactacion =>
    cases hpaso
    exact h
  | finalizarCompactacion =>
    cases hpaso
    exact h

end KernelScheduler

end PlugAndPlay.Planificador
