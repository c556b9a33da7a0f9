import PlugAndPlay.Planificador.HilosConservan

/-!
# CMN without queue levels

With `CANTIDAD_COLAS` of zero or less, the processes of CMN go to the single READY queue, but
`obtener_proximo_proceso_ready` takes nothing from it. The planner consumes a wake-up for each of them and
leaves them where they are.
-/

open PlugAndPlay.Library

namespace PlugAndPlay.Planificador

/-- CMN is asked for, with no usable level; `load_config_scheduler` bounds `cantidad_colas` only from above. -/
def ConfigScheduler.SinNiveles (config : ConfigScheduler) : Prop :=
  config.planificationAlgorithm = .cmn ∧ config.cantidadColas ≤ 0

namespace KernelScheduler

variable {k k' : KernelScheduler} {pid : Pid}

/-- A turn of the planner takes no process, or the one that has waited longest. -/
def TomaElPrimero (k : KernelScheduler) : Prop :=
  ∀ ahora k', k.planificarCortoPlazo ahora = some k' →
    k'.colaProcesosReady = k.colaProcesosReady ∨ ∃ pid, k.colaProcesosReady = pid :: k'.colaProcesosReady

/-- The planner waits although a CPU is free, and there are fewer wake-ups left than processes in the queue. -/
def Varado (k : KernelScheduler) : Prop :=
  k.fasePcp ≠ .despachar ∧ hayCpuLibre k.cpus ∧ k.semReady < k.colaProcesosReady.length

instance (k : KernelScheduler) : Decidable k.Varado := inferInstanceAs (Decidable (_ ∧ _ ∧ _))

/-- FIFO over the single queue. -/
structure DegradaAFifo (k : KernelScheduler) : Prop where
  orden : k.TomaElPrimero
  sinVarar : ¬ k.Varado

/-- The planner does not dispatch after it took the wake-up of a process that is in the queue. -/
def ConservaAviso (k : KernelScheduler) : Evento → Prop
  | .planificarCortoPlazo _ => k.fasePcp = .despachar → k.colaProcesosReady.length ≤ k.semReady
  | _ => True

instance (k : KernelScheduler) : (e : Evento) → Decidable (k.ConservaAviso e)
  | .planificarCortoPlazo _ => inferInstanceAs (Decidable (_ → _))
  | .crearProceso .. | .planificarLargoPlazo | .devolverProceso .. | .conectarCpu .. | .desconectarCpu ..
  | .vencerQuantum .. | .conectarIo .. | .tomarIo .. | .terminarIo .. | .vencerSuspension ..
  | .terminarSuspension .. | .desSuspender .. | .iniciarCompactacion | .finalizarCompactacion => .isTrue trivial

/-- The scheduler after its initialization with such a configuration. -/
def ArranqueSinNiveles (k : KernelScheduler) : Prop := ∃ config, config.SinNiveles ∧ k = .inicial config

/-- The invariant: a wake-up for each process in the queue, one of which the planner may have in hand. -/
structure Cubierta (k : KernelScheduler) : Prop where
  cmn : k.config.planificationAlgorithm = .cmn
  sinNiveles : k.colasReadyPorPrioridad = []
  avisos : k.colaProcesosReady.length ≤ k.semReady + if k.fasePcp = .despachar then 1 else 0

/-! ## READY queues -/

theorem Cubierta.cantidad (h : k.Cubierta) : k.cantidadNivelesPrioridad = 0 := by
  rw [cantidadNivelesPrioridad, h.sinNiveles]
  rfl

theorem Cubierta.modificarPcb (h : k.Cubierta) (pid : Pid) (f : Pcb → Pcb) : (k.modificarPcb pid f).Cubierta :=
  ⟨h.cmn, h.sinNiveles, h.avisos⟩

theorem Cubierta.conAviso (h : k.Cubierta) : { k with semReady := k.semReady + 1 }.Cubierta := by
  refine ⟨h.cmn, h.sinNiveles, ?_⟩
  have havisos := h.avisos
  simp only
  omega

/-- A process comes to the queue with its wake-up. -/
theorem Cubierta.conProceso (h : k.Cubierta) {cola : List Pid}
    (hcola : cola.length = k.colaProcesosReady.length + 1) :
    { k with colaProcesosReady := cola, semReady := k.semReady + 1 }.Cubierta := by
  refine ⟨h.cmn, h.sinNiveles, ?_⟩
  have havisos := h.avisos
  simp only [hcola]
  omega

theorem Cubierta.encolar (h : k.Cubierta) (pid : Pid) : (k.encolarEnReadyYNotificar pid).Cubierta := by
  have hready : (k.cambiarEstado pid .ready).Cubierta := h.modificarPcb pid _
  unfold encolarEnReadyYNotificar
  simp only
  rw [if_neg (by rw [hready.cantidad]; exact Nat.lt_irrefl 0)]
  exact hready.conProceso List.length_append

theorem Cubierta.encolarDesalojado (h : k.Cubierta) (pid : Pid) : (k.encolarDesalojado pid).Cubierta := by
  have hready : (k.cambiarEstado pid .ready).Cubierta := h.modificarPcb pid _
  unfold KernelScheduler.encolarDesalojado
  simp only
  rw [if_neg (by rw [hready.cantidad]; exact Nat.lt_irrefl 0)]
  exact hready.conProceso rfl

theorem Cubierta.reubicar (h : k.Cubierta) (pid : Pid) (anterior nueva : ℤ) :
    (k.reubicarProcesoEnReady pid anterior nueva).Cubierta := by
  unfold reubicarProcesoEnReady
  rw [if_pos (.inr (.inl h.cantidad))]
  exact h

theorem mantenido_cubierta : Mantenido Cubierta where
  procesos h hsalvo := by
    rw [hsalvo]
    exact ⟨h.cmn, h.sinNiveles, h.avisos⟩
  encolar pid h := h.encolar pid
  desalojado pid h := h.encolarDesalojado pid
  reubicar pid anterior nueva h := h.reubicar pid anterior nueva

theorem Cubierta.devolverOReplanificar (h : k.Cubierta) (cpuId : ℕ) (pid : Pid) :
    (k.devolverOReplanificar cpuId pid).Cubierta := by
  unfold KernelScheduler.devolverOReplanificar
  split
  · exact h.encolar _
  · rename_i socket cpus _
    have henviado : ({ k with cpus := cpus }.enviarPid socket pid).Cubierta := ⟨h.cmn, h.sinNiveles, h.avisos⟩
    simp only
    split
    · exact ⟨henviado.cmn, henviado.sinNiveles, henviado.avisos⟩
    · exact henviado

end KernelScheduler

open KernelScheduler

/-! ## Returned processes -/

variable {k k' : KernelScheduler} {pid : Pid}

theorem cubierta_finalizarYLiberar (pid : Pid) (cpuId : ℕ) :
    Blocking.Keeps Cubierta (finalizarYLiberarCpu pid cpuId) := by
  apply (mantenido_cubierta.finalizarProceso pid).bind
  exact fun _ ↦ Blocking.keeps_modify fun _ hk ↦ ⟨hk.cmn, hk.sinNiveles, hk.avisos⟩

theorem cubierta_devolver (cpuId : ℕ) (pid : Pid) :
    Blocking.Keeps Cubierta (modify fun k ↦ k.devolverOReplanificar cpuId pid) :=
  Blocking.keeps_modify fun _ hk ↦ hk.devolverOReplanificar cpuId pid

theorem cubierta_atenderDevuelto (pid : Pid) (motivo : Motivo) (cpuId : ℕ) (respuesta : RespuestaMemoria)
    (caida : Bool) : Blocking.Keeps Cubierta (atenderDevuelto pid motivo cpuId respuesta caida) := by
  by_cases hmemoria : motivo.EsSyscallMemoria
  · unfold Motivo.EsSyscallMemoria at hmemoria
    split at hmemoria
    next params =>
      cases params with
      | none => exact cubierta_finalizarYLiberar pid cpuId
      | some pedido =>
        cases respuesta with
        | ok => exact cubierta_devolver cpuId pid
        | segmentationFault => exact cubierta_finalizarYLiberar pid cpuId
        | sinRespuesta => exact cubierta_finalizarYLiberar pid cpuId
    next params =>
      cases params with
      | none => exact cubierta_finalizarYLiberar pid cpuId
      | some id => exact cubierta_devolver cpuId pid
    next => exact absurd hmemoria id
  · exact mantenido_cubierta.atenderDevuelto pid hmemoria cpuId respuesta caida

theorem KernelScheduler.Cubierta.recibirDevolverProceso (h : k.Cubierta) (cpuId : ℕ) (motivo : Motivo)
    (respuesta : RespuestaMemoria) (caida : Bool) :
    (k.recibirDevolverProceso cpuId motivo respuesta caida).Cubierta := by
  unfold KernelScheduler.recibirDevolverProceso
  have hretirado : (if motivo.EsSyscallMemoria then k.retirarProcesoReservando cpuId
      else k.retirarProceso cpuId).2.Cubierta := by
    split
    · exact ⟨h.cmn, h.sinNiveles, h.avisos⟩
    · exact ⟨h.cmn, h.sinNiveles, h.avisos⟩
  generalize (if motivo.EsSyscallMemoria then k.retirarProcesoReservando cpuId
    else k.retirarProceso cpuId) = retirado at hretirado
  obtain ⟨proceso, k₁⟩ := retirado
  cases proceso with
  | none =>
    simp only
    split
    · exact ⟨hretirado.cmn, hretirado.sinNiveles, hretirado.avisos⟩
    · exact hretirado
  | some pid => exact (cubierta_atenderDevuelto pid motivo cpuId respuesta caida).final hretirado

/-! ## Steps -/

namespace KernelScheduler

/-- The dispatch finds no process and goes back to its wait. -/
theorem Cubierta.despachar (h : k.Cubierta) (ahora : ℤ) : k.despachar ahora = { k with fasePcp := .esperarReady } := by
  have hglobal : k.config.algoritmoGlobal = .cmn := by
    rw [ConfigScheduler.algoritmoGlobal, h.cmn]
    rfl
  have hnada : k.obtenerProximoProcesoReady = (none, k) := by
    rw [obtenerProximoProcesoReady, if_pos hglobal, if_pos h.cantidad]
  unfold KernelScheduler.despachar
  rw [hnada]

theorem Cubierta.cola_planificar (h : k.Cubierta) {ahora : ℤ} (hpaso : k.planificarCortoPlazo ahora = some k') :
    k'.colaProcesosReady = k.colaProcesosReady := by
  unfold KernelScheduler.planificarCortoPlazo at hpaso
  rw [h.despachar ahora] at hpaso
  split at hpaso
  · repeat' split at hpaso
    all_goals cases hpaso
    all_goals rfl
  · cases hpaso
    rfl
  · split at hpaso
    all_goals cases hpaso
    rfl
  · repeat' split at hpaso
    all_goals cases hpaso
    all_goals rfl

/-- A turn of the planner keeps the invariant, unless it wastes the wake-up of a process in the queue. -/
theorem Cubierta.planificarCortoPlazo (h : k.Cubierta) {ahora : ℤ}
    (haviso : k.ConservaAviso (.planificarCortoPlazo ahora)) (hpaso : k.planificarCortoPlazo ahora = some k') :
    k'.Cubierta := by
  have havisos := h.avisos
  unfold KernelScheduler.planificarCortoPlazo at hpaso
  rw [h.despachar ahora] at hpaso
  split at hpaso
  next hfase =>
    rw [hfase, if_neg nofun] at havisos
    split at hpaso
    · cases hpaso
    rename_i hsem
    split at hpaso
    · cases hpaso
      exact h
    split at hpaso
    · cases hpaso
      exact ⟨h.cmn, h.sinNiveles, havisos⟩
    · cases hpaso
      refine ⟨h.cmn, h.sinNiveles, ?_⟩
      simp only [if_true]
      omega
  next hfase =>
    cases hpaso
    exact ⟨h.cmn, h.sinNiveles, haviso hfase⟩
  next hfase =>
    rw [hfase, if_neg nofun] at havisos
    split at hpaso
    · cases hpaso
    · cases hpaso
      exact ⟨h.cmn, h.sinNiveles, havisos⟩
  next hfase =>
    rw [hfase, if_neg nofun] at havisos
    split at hpaso
    · cases hpaso
      exact ⟨h.cmn, h.sinNiveles, havisos⟩
    split at hpaso
    · cases hpaso
    · cases hpaso
      refine ⟨h.cmn, h.sinNiveles, ?_⟩
      rw [hfase]
      exact havisos

theorem Cubierta.planificarLargoPlazo (h : k.Cubierta) (hpaso : k.planificarLargoPlazo = some k') : k'.Cubierta := by
  unfold KernelScheduler.planificarLargoPlazo at hpaso
  split at hpaso
  · cases hpaso
  simp only at hpaso
  split at hpaso
  · cases hpaso
    exact ⟨h.cmn, h.sinNiveles, h.avisos⟩
  · rename_i pid resto _
    have hready : ({ k with semNew := k.semNew - 1, colaProcesosNew := resto }.cambiarEstado pid .ready).Cubierta :=
      ⟨h.cmn, h.sinNiveles, h.avisos⟩
    rw [if_neg (by rw [hready.cantidad]; exact Nat.lt_irrefl 0)] at hpaso
    cases hpaso
    exact hready.conProceso List.length_append

theorem Cubierta.conectarCpu (h : k.Cubierta) (socket : Socket) (cpuId : ℕ) : (k.conectarCpu socket cpuId).Cubierta := by
  have haviso := h.conAviso
  unfold KernelScheduler.conectarCpu
  simp only
  split
  · exact ⟨haviso.cmn, haviso.sinNiveles, haviso.avisos⟩
  · exact ⟨h.cmn, h.sinNiveles, h.avisos⟩

theorem Cubierta.vencerTimerQuantum (h : k.Cubierta) (t : TimerQuantum) : (k.vencerTimerQuantum t).Cubierta := by
  unfold KernelScheduler.vencerTimerQuantum
  generalize Planificador.vencerQuantum k.cpus t.cpuId t.pid = vencida
  obtain ⟨cpu, cpus⟩ := vencida
  simp only
  cases cpu.bind TCpu.socket with
  | none => exact ⟨h.cmn, h.sinNiveles, h.avisos⟩
  | some socket => exact ⟨h.cmn, h.sinNiveles, h.avisos⟩

theorem Cubierta.paso (h : k.Cubierta) {e : Evento} (haviso : k.ConservaAviso e) (hpaso : paso k e = some k') :
    k'.Cubierta := by
  cases e with
  | crearProceso path prioridad =>
    cases hpaso
    exact mantenido_cubierta.crearProceso h path prioridad
  | planificarLargoPlazo => exact h.planificarLargoPlazo hpaso
  | planificarCortoPlazo ahora => exact h.planificarCortoPlazo haviso hpaso
  | devolverProceso r motivo respuesta caida =>
    obtain ⟨-, hk'⟩ := Option.ite_none_right_eq_some.mp hpaso
    obtain rfl := Option.some.inj hk'
    exact h.recibirDevolverProceso r.cpuId motivo respuesta caida
  | conectarCpu socket cpuId =>
    obtain ⟨-, hk'⟩ := Option.ite_none_right_eq_some.mp hpaso
    obtain rfl := Option.some.inj hk'
    exact h.conectarCpu socket cpuId
  | desconectarCpu r =>
    obtain ⟨-, hk'⟩ := Option.ite_none_right_eq_some.mp hpaso
    obtain rfl := Option.some.inj hk'
    exact ⟨h.cmn, h.sinNiveles, h.avisos⟩
  | vencerQuantum t =>
    obtain ⟨-, hk'⟩ := Option.ite_none_right_eq_some.mp hpaso
    obtain rfl := Option.some.inj hk'
    exact h.vencerTimerQuantum t
  | conectarIo nombre =>
    cases hpaso
    exact mantenido_cubierta.registrarInterfazIo h nombre
  | tomarIo i => exact mantenido_cubierta.tomarIo h hpaso
  | terminarIo i fin escritura => exact mantenido_cubierta.terminarIo h hpaso
  | vencerSuspension i => exact mantenido_cubierta.vencerSuspension h hpaso
  | terminarSuspension i => exact mantenido_cubierta.terminarSuspension h hpaso
  | desSuspender pid respuesta escritura => exact mantenido_cubierta.desSuspender h hpaso
  | iniciarCompactacion =>
    cases hpaso
    exact ⟨h.cmn, h.sinNiveles, h.avisos⟩
  | finalizarCompactacion =>
    cases hpaso
    have haviso := h.conAviso
    exact ⟨haviso.cmn, haviso.sinNiveles, haviso.avisos⟩

theorem cubierta_inicial {config : ConfigScheduler} (h : config.SinNiveles) : (inicial config).Cubierta := by
  refine ⟨h.1, ?_, Nat.zero_le _⟩
  have hcero : (min config.cantidadColas maxPriorityLevels).toNat = 0 := by
    have hniveles := h.2
    omega
  simp only [inicial, if_pos h.1, hcero]
  rfl

theorem Cubierta.degrada (h : k.Cubierta) : k.DegradaAFifo := by
  constructor
  · intro ahora k' hpaso
    exact .inl (h.cola_planificar hpaso)
  · rintro ⟨hfase, -, hfaltan⟩
    have havisos := h.avisos
    rw [if_neg hfase] at havisos
    omega

/-- Where the planner wastes a wake-up while a CPU is free, the process stays in the queue. -/
theorem Cubierta.varado (h : k.Cubierta) {e : Evento} (haviso : ¬ k.ConservaAviso e) (hlibre : hayCpuLibre k.cpus)
    (hpaso : Planificador.paso k e = some k') : k'.Varado := by
  cases e with
  | planificarCortoPlazo ahora =>
    obtain ⟨hfase, hfaltan⟩ := Classical.not_imp.mp haviso
    change k.planificarCortoPlazo ahora = some k' at hpaso
    unfold KernelScheduler.planificarCortoPlazo at hpaso
    rw [hfase, h.despachar ahora] at hpaso
    cases hpaso
    exact ⟨nofun, hlibre, Nat.lt_of_not_le hfaltan⟩
  | _ => exact absurd trivial haviso

end KernelScheduler

/-- CMN without levels behaves like FIFO as long as the planner does not dispatch after it took the wake-up of
a process in the queue; the first such dispatch with a free CPU leaves a process behind. -/
theorem cmnSinNiveles_fifo {k : KernelScheduler} (h : Reachable paso ArranqueSinNiveles ConservaAviso k) :
    k.DegradaAFifo ∧ ∀ e k', paso k e = some k' → ¬ k.ConservaAviso e → hayCpuLibre k.cpus → ¬ k'.DegradaAFifo := by
  have hcubierta : k.Cubierta := by
    apply h.invariant (P := Cubierta)
    · rintro _ ⟨config, hconfig, rfl⟩
      exact cubierta_inicial hconfig
    · exact fun _ _ _ hk haviso hpaso ↦ hk.paso haviso hpaso
  exact ⟨hcubierta.degrada, fun e k' hpaso haviso hlibre hfifo ↦
    hfifo.sinVarar (hcubierta.varado haviso hlibre hpaso)⟩

/-- CMN with `CANTIDAD_COLAS=0`. -/
def configCmnCero : ConfigScheduler := ⟨.cmn, 0, [], false, 2000, 0⟩

/-- The CPU connects when the process is in READY, so there are two wake-ups: the planner consumes one, comes to
dispatch and waits again, with the other one left. -/
theorem cmnSinNiveles_fifo_enEspera : ∃ k, Reachable paso ArranqueSinNiveles ConservaAviso k ∧
    k.colaProcesosReady = [0] ∧ k.semReady = 1 ∧ (k.DegradaAFifo ∧ ∀ e k', paso k e = some k' →
      ¬ k.ConservaAviso e → hayCpuLibre k.cpus → ¬ k'.DegradaAFifo) := by
  have hinicio : Reachable paso ArranqueSinNiveles ConservaAviso (.inicial configCmnCero) :=
    .start ⟨_, ⟨rfl, Int.le_refl 0⟩, rfl⟩
  obtain ⟨k, hk, hcola, havisos⟩ := hinicio.exists_of_runAllowed
    [.crearProceso "init" 0, .planificarLargoPlazo, .conectarCpu 4 1, .planificarCortoPlazo 0,
      .planificarCortoPlazo 0]
    (fun k ↦ k.colaProcesosReady = [0] ∧ k.semReady = 1) (by decide)
  exact ⟨k, hk, hcola, havisos, cmnSinNiveles_fifo hk⟩

/-- One process and one CPU: the planner consumes the wake-up and the process stays in the queue. -/
theorem cmnSinNiveles_varado : ∃ k, Reachable paso ArranqueSinNiveles (fun _ _ ↦ True) k ∧
    k.colaProcesosReady = [0] ∧ k.Varado ∧ ¬ k.DegradaAFifo := by
  have hinicio : Reachable paso ArranqueSinNiveles (fun _ _ ↦ True) (.inicial configCmnCero) :=
    .start ⟨_, ⟨rfl, Int.le_refl 0⟩, rfl⟩
  obtain ⟨k, hk, hcola, hvarado⟩ := hinicio.exists_of_runAllowed
    [.conectarCpu 4 1, .crearProceso "init" 0, .planificarLargoPlazo, .planificarCortoPlazo 0,
      .planificarCortoPlazo 0]
    (fun k ↦ k.colaProcesosReady = [0] ∧ k.Varado) (by decide)
  exact ⟨k, hk, hcola, hvarado, fun hfifo ↦ hfifo.sinVarar hvarado⟩

end PlugAndPlay.Planificador
