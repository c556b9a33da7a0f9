import PlugAndPlay.Library.Transitions
import PlugAndPlay.Planificador.Planificadores

/-!
# Runs of the scheduler

Everything that can happen to the scheduler as one step function. A step is a whole handler: the
answers of Kernel Memory that it waits for are part of its event.
-/

open PlugAndPlay.Library

namespace PlugAndPlay.Planificador

namespace KernelScheduler

variable (k : KernelScheduler)

/-! ## Connections and quantum timers -/

/-- The CPU part of `scheduler_handshake_handler`. -/
def conectarCpu (socket : Socket) (cpuId : ℕ) : KernelScheduler :=
  let k₁ := { k with
    cpus := agregarCpu k.cpus socket cpuId
    semCpuDisponible := k.semCpuDisponible + 1
    receptores := k.receptores ++ [⟨socket, cpuId⟩] }
  if k₁.colaProcesosReady ≠ [] then { k₁ with semReady := k₁.semReady + 1 } else k₁

/-- The end of a `scheduler_cpu_receptor_thread`. -/
def desconectarCpu (r : Receptor) : KernelScheduler :=
  { k with
    cpus := marcarCpuDesconectada k.cpus r.cpuId
    receptores := k.receptores.erase r }

/-- `quantum_timer_thread` after its sleep. Over the socket of a CPU that is gone nothing is sent. -/
def vencerTimerQuantum (t : TimerQuantum) : KernelScheduler :=
  let (cpu, cpus) := Planificador.vencerQuantum k.cpus t.cpuId t.pid
  let k₁ := { k with cpus := cpus, timersQuantum := k.timersQuantum.erase t }
  (cpu.bind TCpu.socket).elim k₁ fun socket ↦ k₁.enviarInterrupcion socket t.pid .quantum

end KernelScheduler

/-- What can happen, with what comes from outside. -/
inductive Evento
  | crearProceso (path : String) (prioridad : ℤ)
  | planificarLargoPlazo
  | planificarCortoPlazo (ahora : ℤ)
  | devolverProceso (r : Receptor) (motivo : Motivo) (respuesta : RespuestaMemoria) (caida : Bool)
  | conectarCpu (socket : Socket) (cpuId : ℕ)
  | desconectarCpu (r : Receptor)
  | vencerQuantum (t : TimerQuantum)
  | conectarIo (nombre : String)
  | tomarIo (i : ℕ)
  | terminarIo (i : ℕ) (fin : FinIo) (escritura : RespuestaMemoria)
  | vencerSuspension (i : ℕ)
  | terminarSuspension (i : ℕ)
  | desSuspender (pid : Pid) (respuesta escritura : RespuestaMemoria)
  | iniciarCompactacion
  | finalizarCompactacion
deriving Repr, DecidableEq

open KernelScheduler in
/-- One step. A descriptor that is open is not given to a new connection. -/
def paso (k : KernelScheduler) : Evento → Option KernelScheduler
  | .crearProceso path prioridad => some (k.crearProceso path prioridad)
  | .planificarLargoPlazo => k.planificarLargoPlazo
  | .planificarCortoPlazo ahora => k.planificarCortoPlazo ahora
  | .devolverProceso r motivo respuesta caida =>
    if r ∈ k.receptores then some (k.recibirDevolverProceso r.cpuId motivo respuesta caida) else none
  | .conectarCpu socket cpuId =>
    if 0 < cpuId ∧ ∀ r ∈ k.receptores, r.socket ≠ socket then some (k.conectarCpu socket cpuId)
    else none
  | .desconectarCpu r => if r ∈ k.receptores then some (k.desconectarCpu r) else none
  | .vencerQuantum t => if t ∈ k.timersQuantum then some (k.vencerTimerQuantum t) else none
  | .conectarIo nombre => some (k.registrarInterfazIo nombre)
  | .tomarIo i => k.tomarIo i
  | .terminarIo i fin escritura => k.terminarIo i fin escritura
  | .vencerSuspension i => k.vencerSuspension i
  | .terminarSuspension i => k.terminarSuspension i
  | .desSuspender pid respuesta escritura => k.desSuspender pid respuesta escritura
  | .iniciarCompactacion => some k.manejarCompactacionInicio
  | .finalizarCompactacion => some k.manejarCompactacionFin

/-- The states before the first process, whatever the configuration. -/
def Arranque (k : KernelScheduler) : Prop := ∃ config, k = .inicial config

end PlugAndPlay.Planificador
