import Mathlib.Data.Int.Notation
import Mathlib.Data.List.Basic
import Mathlib.Logic.Function.Basic
import PlugAndPlay.Library.Blocking

/-!
# State of the Kernel Scheduler

The globals of the Kernel Scheduler as one record. `generar_pid` gives every PCB a number of its
own, so a PID also stands for the `t_pcb*` in a queue, and the PCBs themselves are a function of it.
System mutexes and interfaces are never removed from their lists, so a position stands for the pointer.
-/

open PlugAndPlay.Library

namespace PlugAndPlay.Planificador

abbrev Pid := ℕ

/-- A file descriptor of the scheduler, `-1` being `none` where the source allows it. -/
abbrev Socket := ℕ

/-! ## Processes and mutexes -/

inductive Estado
  | new | ready | exec | block | suspReady | suspBlock | exitState
deriving Repr, DecidableEq

/-- A read of STDIN that waits in the PCB for the process to be back in RAM. -/
structure StdinPendiente where
  dir : UInt32
  datos : List UInt8
deriving Repr, DecidableEq

structure Pcb where
  prioridad : ℤ
  estado : Estado
  quantumRestante : UInt32
  tiempoInicioEjecucion : ℤ
  prioridadDinamica : ℤ
  mutexEsperando : Option ℕ
  suspendidoEnSwap : Bool
  blockEpoch : UInt32
  stdinPendiente : Option StdinPendiente
deriving Repr, DecidableEq

/-- `asignado_a_pid` is `-1` for a free mutex. -/
structure MutexSistema where
  nombre : String
  asignadoAPid : Option Pid
  colaBloqueados : List Pid
deriving Repr, DecidableEq

/-! ## CPUs -/

structure TCpu where
  socket : Option Socket
  cpuId : ℕ
  disponible : Bool
  procesoActual : Option Pid
  timerActivo : Bool
  timerPid : Pid
deriving Repr, DecidableEq

/-- A `scheduler_cpu_receptor_thread`, with the arguments it was started with. -/
structure Receptor where
  socket : Socket
  cpuId : ℕ
deriving Repr, DecidableEq

inductive IoType
  | sleep | stdin | stdout
deriving Repr, DecidableEq

/-- A syscall as `manejar_syscall_io` reads it from the name and the parameters of the message; a call
with fewer parameters than the syscall needs has `none` for them. -/
inductive Syscall
  | sleep (tiempoMs : Option ℤ)
  | ioSleep (params : Option (String × ℤ))
  | stdin (params : Option (ℤ × ℤ))
  | stdout (params : Option (ℤ × ℤ))
  | memAlloc (params : Option (UInt32 × UInt32))
  | memFree (idSegmento : Option UInt32)
  | mutexCreate (nombre : Option String)
  | mutexLock (nombre : Option String)
  | mutexUnlock (nombre : Option String)
  | initProc (params : Option (String × ℤ))
  | desconocida
deriving Repr, DecidableEq

inductive Motivo
  | quantum | syscall (pedido : Syscall) | exit | error | segfault | desalojo | desalojoCola
  | desconocido
deriving Repr, DecidableEq

/-- What the scheduler sends to CPUs. -/
inductive Envio
  | ejecutarProceso (socket : Socket) (pid : Pid)
  | interrupcion (socket : Socket) (pid : Pid) (motivo : Motivo)
deriving Repr, DecidableEq

/-! ## Interfaces and suspension -/

structure IoRequest where
  proceso : Pid
  tipo : IoType
  dir : ℤ
  tamanio : ℤ
deriving Repr, DecidableEq

/-- `atendido` is the request its worker took from the queue and waits for. -/
structure InterfazIo where
  nombre : String
  tipo : IoType
  cola : List IoRequest
  semCola : ℕ
  activa : Bool
  atendido : Option IoRequest
deriving Repr, DecidableEq

/-- A `suspension_timer_thread`: asleep, or waiting for the answer to `SUSPENDER_PROCESO`. -/
structure TimerSuspension where
  pid : Pid
  epoch : UInt32
  volcando : Bool
deriving Repr, DecidableEq

/-- A `quantum_timer_thread` that sleeps. -/
structure TimerQuantum where
  cpuId : ℕ
  pid : Pid
deriving Repr, DecidableEq

/-- How Kernel Memory answers a request. -/
inductive RespuestaMemoria
  | ok | segmentationFault | sinRespuesta
deriving Repr, DecidableEq

/-! ## The whole scheduler -/

inductive Algoritmo
  | fifo | rr | cmn | desconocido
deriving Repr, DecidableEq

structure ConfigScheduler where
  planificationAlgorithm : Algoritmo
  cantidadColas : ℤ
  algoritmosColas : List Algoritmo
  queuePreemption : Bool
  rrQuantum : UInt32
  suspensionTimeout : ℤ
deriving Repr, DecidableEq

/-- Where `planificadorCortoPlazo` is: before `sem_wait(&sem_ready)`, before the dispatch it has
decided on, in `sem_wait(&sem_cpu_disponible)` without a free CPU, or in the loop after a failed
dispatch. -/
inductive FasePcp
  | esperarReady | despachar | esperarCpu | reintentar
deriving Repr, DecidableEq

/-- `colasReadyPorPrioridad` has the `cantidad_niveles_prioridad` queues that are not `NULL`. -/
structure KernelScheduler where
  config : ConfigScheduler
  pcbs : Pid → Pcb
  contadorPids : Pid
  todosLosProcesos : List Pid
  colaProcesosNew : List Pid
  colaProcesosReady : List Pid
  colasReadyPorPrioridad : List (List Pid)
  listaMutexes : List MutexSistema
  mutexListaMutexes : Bool
  cpus : List TCpu
  receptores : List Receptor
  tablaIos : List InterfazIo
  colaProcesosBlock : List Pid
  listaSuspendidos : List Pid
  timersSuspension : List TimerSuspension
  timersQuantum : List TimerQuantum
  semNew : ℕ
  semReady : ℕ
  semCpuDisponible : ℕ
  semReevaluarSuspendidos : ℕ
  compactacionEnProgreso : Bool
  fasePcp : FasePcp
  enviados : List Envio

/-- A PCB that no process uses. -/
def Pcb.libre : Pcb := ⟨0, .exitState, 0, 0, 0, none, false, 0, none⟩

def maxPriorityLevels : ℤ := 10

/-- The globals after the initialization in `main`, before the first process. -/
def KernelScheduler.inicial (config : ConfigScheduler) : KernelScheduler where
  config := config
  pcbs _ := .libre
  contadorPids := 0
  todosLosProcesos := []
  colaProcesosNew := []
  colaProcesosReady := []
  colasReadyPorPrioridad :=
    if config.planificationAlgorithm = .cmn then
      List.replicate (min config.cantidadColas maxPriorityLevels).toNat []
    else []
  listaMutexes := []
  mutexListaMutexes := false
  cpus := []
  receptores := []
  tablaIos := []
  colaProcesosBlock := []
  listaSuspendidos := []
  timersSuspension := []
  timersQuantum := []
  semNew := 0
  semReady := 0
  semCpuDisponible := 0
  semReevaluarSuspendidos := 0
  compactacionEnProgreso := false
  fasePcp := .esperarReady
  enviados := []

/-- A thread of the scheduler. -/
abbrev Hilo := Blocking KernelScheduler

namespace KernelScheduler

variable (k : KernelScheduler)

def cantidadNivelesPrioridad : ℕ := k.colasReadyPorPrioridad.length

def modificarPcb (pid : Pid) (f : Pcb → Pcb) : KernelScheduler :=
  { k with pcbs := Function.update k.pcbs pid (f (k.pcbs pid)) }

def cambiarEstado (pid : Pid) (estado : Estado) : KernelScheduler :=
  k.modificarPcb pid fun p ↦ { p with estado := estado }

theorem pcbs_modificarPcb (pid : Pid) (f : Pcb → Pcb) (otro : Pid) :
    (k.modificarPcb pid f).pcbs otro = if otro = pid then f (k.pcbs pid) else k.pcbs otro := by
  show Function.update k.pcbs pid (f (k.pcbs pid)) otro = _
  rw [Function.update_apply]

@[simp] theorem pcbs_modificarPcb_mismo (pid : Pid) (f : Pcb → Pcb) :
    (k.modificarPcb pid f).pcbs pid = f (k.pcbs pid) := by
  rw [pcbs_modificarPcb, if_pos rfl]

end KernelScheduler

end PlugAndPlay.Planificador
