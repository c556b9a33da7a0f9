import PlugAndPlay.Planificador.Receptor

/-!
# The three planners

The loops of the long-term and short-term planners as turns between two waits, the suspension timers and
resumptions of the medium-term planner, and the two ends of a compaction.
-/

open PlugAndPlay.Library

namespace PlugAndPlay.Planificador

def ConfigScheduler.obtenerAlgoritmoPorPrioridad (c : ConfigScheduler) (prioridad : ℤ) : Algoritmo :=
  if prioridad < 0 ∨ c.cantidadColas ≤ prioridad then .desconocido
  else
    match c.algoritmosColas[prioridad.toNat]? with
    | some .fifo => .fifo
    | some .rr => .rr
    | _ => .desconocido

/-- The algorithm of the short-term planner, FIFO by default. -/
def ConfigScheduler.algoritmoGlobal (c : ConfigScheduler) : Algoritmo :=
  if c.planificationAlgorithm = .desconocido then .fifo else c.planificationAlgorithm

def ConfigScheduler.quantumParaAlgoritmo (c : ConfigScheduler) (prioridad : ℤ) : UInt32 :=
  if c.algoritmoGlobal = .rr then c.rrQuantum
  else if c.algoritmoGlobal = .cmn ∧ c.obtenerAlgoritmoPorPrioridad prioridad = .rr then c.rrQuantum
  else 0

def ConfigScheduler.algoritmoDebeUsarFifo (c : ConfigScheduler) (prioridad : ℤ) : Bool :=
  c.algoritmoGlobal = .fifo ∨
    (c.algoritmoGlobal = .cmn ∧ c.obtenerAlgoritmoPorPrioridad prioridad = .fifo)

/-- The quantum of a dispatch, and whether its timer starts. -/
def ConfigScheduler.quantumDeDespacho (c : ConfigScheduler) (prioridad : ℤ) : UInt32 × Bool :=
  let quantum := c.quantumParaAlgoritmo prioridad
  let fifo := c.algoritmoDebeUsarFifo prioridad
  let rr := !fifo && 0 < quantum
  if c.algoritmoGlobal = .rr ∧ !fifo ∧ !rr then (c.rrQuantum, true) else (quantum, rr)

namespace KernelScheduler

variable (k : KernelScheduler)

/-! ## Long term -/

/-- A turn of `planificadorLargoPlazo`. -/
def planificarLargoPlazo : Option KernelScheduler :=
  if k.semNew = 0 then none
  else
    let k₁ := { k with semNew := k.semNew - 1 }
    match k₁.colaProcesosNew with
    | [] => some k₁
    | pid :: resto =>
      let k₂ := { k₁ with colaProcesosNew := resto }.cambiarEstado pid .ready
      if 0 < k₂.cantidadNivelesPrioridad then some (k₂.encolarEnReadyPorPrioridad pid)
      else
        some { k₂ with
          colaProcesosReady := k₂.colaProcesosReady ++ [pid]
          semReady := k₂.semReady + 1 }

/-! ## Short term -/

def obtenerProximoProcesoReady : Option Pid × KernelScheduler :=
  if k.config.algoritmoGlobal = .cmn then
    if k.cantidadNivelesPrioridad = 0 then (none, k) else k.desencolarProcesoReady
  else k.popReady

def reencolarPorFalloDeEnvio (pid : Pid) : KernelScheduler :=
  if k.config.algoritmoGlobal = .cmn then k.reencolarProcesoReadyInicio pid (k.pcbs pid).prioridad
  else if k.config.algoritmoGlobal = .rr then
    { k with colaProcesosReady := k.colaProcesosReady ++ [pid] }
  else { k with colaProcesosReady := pid :: k.colaProcesosReady }

/-- The process runs on the CPU that `enviar_proceso_a_cpu` picked. -/
def ponerEnExec (pid : Pid) (cpu : TCpu) (ahora : ℤ) (quantum : UInt32) (rr : Bool) :
    KernelScheduler :=
  let k₁ := (cpu.socket.elim k fun socket ↦ k.enviarPid socket pid).modificarPcb pid fun p ↦
    { p with estado := .exec, tiempoInicioEjecucion := ahora, quantumRestante := quantum }
  if rr then k₁.arrancarQuantum cpu.cpuId pid else k₁

/-- The rest of a turn of `planificadorCortoPlazo` that has found a free CPU. -/
def despachar (ahora : ℤ) : KernelScheduler :=
  match k.obtenerProximoProcesoReady with
  | (none, k₁) => { k₁ with fasePcp := .esperarReady }
  | (some pid, k₁) =>
    let prioridad := (k₁.pcbs pid).prioridad
    if k₁.config.algoritmoGlobal = .cmn ∧ ¬ k₁.NivelValido prioridad then
      { k₁ with fasePcp := .esperarReady }
    else
      match elegirCpu k₁.cpus pid with
      | (none, _) =>
        let k₂ := k₁.reencolarPorFalloDeEnvio pid
        { k₂ with semReady := k₂.semReady + 1, fasePcp := .reintentar }
      | (some cpu, cpus) =>
        let (quantum, rr) := k₁.config.quantumDeDespacho prioridad
        { k₁ with cpus := cpus, fasePcp := .esperarReady }.ponerEnExec pid cpu ahora quantum rr

/-- `planificadorCortoPlazo` up to its next wait, or up to the dispatch it decides on. A turn that meets a
compaction or no free CPU gives `sem_ready` back. -/
def planificarCortoPlazo (ahora : ℤ) : Option KernelScheduler :=
  match k.fasePcp with
  | .esperarReady =>
    if k.semReady = 0 then none
    else if k.compactacionEnProgreso then some k
    else if ¬ hayCpuLibre k.cpus then some { k with fasePcp := .esperarCpu }
    else some { k with semReady := k.semReady - 1, fasePcp := .despachar }
  | .despachar => some (k.despachar ahora)
  | .esperarCpu =>
    if k.semCpuDisponible = 0 then none
    else some { k with semCpuDisponible := k.semCpuDisponible - 1, fasePcp := .esperarReady }
  | .reintentar =>
    if hayCpuLibre k.cpus then some { k with fasePcp := .esperarReady }
    else if k.semCpuDisponible = 0 then none
    else some { k with semCpuDisponible := k.semCpuDisponible - 1 }

/-! ## Medium term -/

/-- `suspension_timer_thread` after its sleep, up to the request to Kernel Memory. -/
def vencerSuspension (i : ℕ) : Option KernelScheduler :=
  match k.timersSuspension[i]? with
  | none => none
  | some t =>
    if t.volcando then none
    else if t.pid ∈ k.colaProcesosBlock ∧ (k.pcbs t.pid).estado = .block ∧
        (k.pcbs t.pid).blockEpoch = t.epoch then
      let k₁ := k.modificarPcb t.pid fun p ↦
        { p with estado := .suspBlock, suspendidoEnSwap := false }
      some { k₁ with
        listaSuspendidos := k₁.listaSuspendidos ++ [t.pid]
        timersSuspension := k₁.timersSuspension.modify i fun t ↦ { t with volcando := true } }
    else some { k with timersSuspension := k.timersSuspension.eraseIdx i }

/-- The same thread after the answer. -/
def terminarSuspension (i : ℕ) : Option KernelScheduler :=
  match k.timersSuspension[i]? with
  | none => none
  | some t =>
    if ¬ t.volcando then none
    else
      let k₁ := { k with timersSuspension := k.timersSuspension.eraseIdx i }
      let k₂ := if t.pid ∈ k.colaProcesosBlock then
        k₁.modificarPcb t.pid fun p ↦ { p with suspendidoEnSwap := true } else k₁
      some k₂.notificarReevaluarSuspendidos

/-- A turn of the loop of `intentar_des_suspender_susp_ready` for a process in SUSP_READY, with the
answers of Kernel Memory to `DES_SUSPENDER_PROCESO` and to the write of a STDIN that was put off. -/
def desSuspender (pid : Pid) (respuesta escritura : RespuestaMemoria) : Option KernelScheduler :=
  if pid ∈ k.listaSuspendidos ∧ (k.pcbs pid).estado = .suspReady then
    if respuesta ≠ .ok then some k
    else
      let k₁ := k.removerDeListaSuspendidos pid
      if (k₁.pcbs pid).stdinPendiente.isNone then some (k₁.encolarEnReadyYNotificar pid)
      else
        let k₂ := k₁.modificarPcb pid fun p ↦ { p with stdinPendiente := none }
        if escritura = .ok then some (k₂.encolarEnReadyYNotificar pid)
        else some ((finalizarPcbPorSegFault pid).final k₂)
  else none

/-! ## Compaction -/

/-- An interrupt for every CPU that executes. -/
def desalojarTodosProcesos : KernelScheduler :=
  { k with enviados := k.enviados ++ (k.cpus.filterMap TCpu.ejecutando).map fun (socket, pid) ↦
      .interrupcion socket pid .desalojo }

def manejarCompactacionInicio : KernelScheduler :=
  { k with compactacionEnProgreso := true }.desalojarTodosProcesos

def manejarCompactacionFin : KernelScheduler :=
  { k with compactacionEnProgreso := false, semReady := k.semReady + 1 }.notificarReevaluarSuspendidos

end KernelScheduler

end PlugAndPlay.Planificador
