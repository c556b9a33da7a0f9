import PlugAndPlay.Planificador.ColaIo

/-!
# What the scheduler does with a returned process

`scheduler_cpu_receptor_thread` from `DEVOLVER_PROCESO` to the end of the syscall. The answers of Kernel
Memory come from outside.
-/

open PlugAndPlay.Library

namespace PlugAndPlay.Planificador

namespace KernelScheduler

variable (k : KernelScheduler)

/-- Without a path there is no process. The answer to `CREAR_PROCESO` plays no role. -/
def crearProceso (path : String) (prioridad : ℤ) : KernelScheduler :=
  if path = "" then k
  else
    let pid := k.contadorPids
    { k with
      pcbs := Function.update k.pcbs pid ⟨prioridad, .new, 0, 0, prioridad, none, false, 0, none⟩
      contadorPids := pid + 1
      todosLosProcesos := k.todosLosProcesos ++ [pid]
      colaProcesosNew := k.colaProcesosNew ++ [pid]
      semNew := k.semNew + 1 }

def retirarProceso (cpuId : ℕ) : Option Pid × KernelScheduler :=
  let (proceso, cpus) := retirarProcesoDeCpu k.cpus cpuId
  (proceso, { k with cpus := cpus, semCpuDisponible := k.semCpuDisponible + 1 })

def retirarProcesoReservando (cpuId : ℕ) : Option Pid × KernelScheduler :=
  let (proceso, cpus) := retirarProcesoDeCpuReservando k.cpus cpuId
  (proceso, { k with cpus := cpus })

def liberarReservada (cpuId : ℕ) : KernelScheduler :=
  { k with
    cpus := liberarCpuReservada k.cpus cpuId
    semCpuDisponible := k.semCpuDisponible + 1 }

def enviarPid (socket : Socket) (pid : Pid) : KernelScheduler :=
  { k with enviados := k.enviados ++ [.ejecutarProceso socket pid] }

def arrancarQuantum (cpuId : ℕ) (pid : Pid) : KernelScheduler :=
  { k with
    cpus := iniciarQuantumTimer k.cpus cpuId pid
    timersQuantum := k.timersQuantum ++ [⟨cpuId, pid⟩] }

/-- After `MEM_ALLOC` and `MEM_FREE`: back to the CPU with a fresh quantum, or to READY when the CPU is
gone. -/
def devolverOReplanificar (cpuId : ℕ) (pid : Pid) : KernelScheduler :=
  match devolverProcesoAMismaCpu k.cpus cpuId pid with
  | (none, _) => k.encolarEnReadyYNotificar pid
  | (some socket, cpus) =>
    let k₁ := { k with cpus := cpus }.enviarPid socket pid
    if 0 < (k₁.pcbs pid).quantumRestante then k₁.arrancarQuantum cpuId pid else k₁

/-- The process asks for an IO of an interface that was found active. When `caida`, the worker of the
interface meets the end of its connection before the request is queued. -/
def pedirIo (interfaz : Option ℕ) (req : IoRequest) (caida : Bool) : KernelScheduler :=
  match interfaz with
  | none => k.encolarEnReadyYNotificar req.proceso
  | some i =>
    if caida ∧ (k.tablaIos[i]?.bind InterfazIo.atendido).isSome then
      (k.terminarWorker i).encolarIoRequest i req
    else k.encolarIoRequest i req

end KernelScheduler

/-- The end of a process whose memory syscall failed. -/
def finalizarYLiberarCpu (pid : Pid) (cpuOrigen : ℕ) : Hilo Unit := do
  finalizarProceso pid
  modify fun k ↦ k.liberarReservada cpuOrigen

def manejarSyscallIo (pid : Pid) (pedido : Syscall) (cpuOrigen : ℕ) (respuesta : RespuestaMemoria)
    (caida : Bool) : Hilo Unit :=
  match pedido with
  | .sleep none | .ioSleep none | .stdin none | .stdout none =>
    modify fun k ↦ k.encolarEnReadyYNotificar pid
  | .sleep (some _) =>
    modify fun k ↦ k.pedirIo (buscarInterfazIoPorTipo k.tablaIos .sleep) ⟨pid, .sleep, 0, 0⟩ caida
  | .ioSleep (some (nombre, _)) =>
    modify fun k ↦ k.pedirIo (buscarInterfazIo k.tablaIos nombre) ⟨pid, .sleep, 0, 0⟩ caida
  | .stdin (some (dir, tamanio)) =>
    modify fun k ↦
      k.pedirIo (buscarInterfazIoPorTipo k.tablaIos .stdin) ⟨pid, .stdin, dir, tamanio⟩ caida
  | .stdout (some (dir, tamanio)) => do
    let interfaz := buscarInterfazIoPorTipo (← get).tablaIos .stdout
    match interfaz, respuesta with
    | none, _ | some _, .sinRespuesta => modify fun k ↦ k.encolarEnReadyYNotificar pid
    | some _, .segmentationFault => finalizarPcbPorSegFault pid
    | some _, .ok => modify fun k ↦ k.pedirIo interfaz ⟨pid, .stdout, dir, tamanio⟩ caida
  | .memAlloc none => finalizarYLiberarCpu pid cpuOrigen
  | .memAlloc (some _) =>
    match respuesta with
    | .sinRespuesta | .segmentationFault => finalizarYLiberarCpu pid cpuOrigen
    | .ok => modify fun k ↦ k.devolverOReplanificar cpuOrigen pid
  | .memFree none => finalizarYLiberarCpu pid cpuOrigen
  | .memFree (some _) => modify fun k ↦ k.devolverOReplanificar cpuOrigen pid
  | .mutexCreate nombre => manejarSyscallMutex pid (.create nombre)
  | .mutexLock nombre => manejarSyscallMutex pid (.lock nombre)
  | .mutexUnlock nombre => manejarSyscallMutex pid (.unlock nombre)
  | .initProc none | .desconocida => modify fun k ↦ k.encolarEnReadyYNotificar pid
  | .initProc (some (path, prioridad)) =>
    modify fun k ↦ (k.crearProceso path prioridad).encolarEnReadyYNotificar pid

def Motivo.EsSyscallMemoria : Motivo → Prop
  | .syscall (.memAlloc _) | .syscall (.memFree _) => True
  | _ => False

instance : DecidablePred Motivo.EsSyscallMemoria := fun m ↦ by
  unfold Motivo.EsSyscallMemoria
  split <;> infer_instance

/-- The process is off its CPU. -/
def atenderDevuelto (pid : Pid) (motivo : Motivo) (cpuId : ℕ) (respuesta : RespuestaMemoria)
    (caida : Bool) : Hilo Unit :=
  match motivo with
  | .exit | .error | .segfault => finalizarProceso pid
  | .quantum | .desconocido => modify fun k ↦ k.encolarEnReadyYNotificar pid
  | .syscall pedido => manejarSyscallIo pid pedido cpuId respuesta caida
  | .desalojo | .desalojoCola => modify fun k ↦ k.encolarDesalojado pid

/-- `DEVOLVER_PROCESO` on the connection of a CPU. The PID in the message only shows up in a warning. -/
def KernelScheduler.recibirDevolverProceso (k : KernelScheduler) (cpuId : ℕ) (motivo : Motivo)
    (respuesta : RespuestaMemoria) (caida : Bool) : KernelScheduler :=
  let (proceso, k₁) :=
    if motivo.EsSyscallMemoria then k.retirarProcesoReservando cpuId else k.retirarProceso cpuId
  match proceso with
  | none => if motivo.EsSyscallMemoria then k₁.liberarReservada cpuId else k₁
  | some pid => (atenderDevuelto pid motivo cpuId respuesta caida).final k₁

end PlugAndPlay.Planificador
