import PlugAndPlay.Planificador.SyscallsMutex

/-!
# Interfaces of IO and the BLOCK queue

The queues of the connected interfaces, their workers, and `cola_procesos_block`, where a process stays
from the request to the end of its IO.
-/

open PlugAndPlay.Library

namespace PlugAndPlay.Planificador

def maxIos : ℕ := 1000

/-- `strncasecmp` with the names of the three types; anything else is a `SLEEP`. -/
def inferirTipoIo (nombre : String) : IoType :=
  let letras := nombre.toList.map Char.toUpper
  if letras.take 5 = "SLEEP".toList then .sleep
  else if letras.take 5 = "STDIN".toList then .stdin
  else if letras.take 6 = "STDOUT".toList then .stdout
  else .sleep

def buscarInterfazIo (tabla : List InterfazIo) (nombre : String) : Option ℕ :=
  tabla.findIdx? fun io ↦
    io.activa ∧ io.nombre.toList.map Char.toUpper = nombre.toList.map Char.toUpper

def buscarInterfazIoPorTipo (tabla : List InterfazIo) (tipo : IoType) : Option ℕ :=
  tabla.findIdx? fun io ↦ io.activa ∧ io.tipo = tipo

namespace KernelScheduler

variable (k : KernelScheduler)

def registrarInterfazIo (nombre : String) : KernelScheduler :=
  if k.tablaIos.length < maxIos then
    { k with tablaIos := k.tablaIos ++ [⟨nombre, inferirTipoIo nombre, [], 0, true, none⟩] }
  else k

def modificarIo (i : ℕ) (f : InterfazIo → InterfazIo) : KernelScheduler :=
  { k with tablaIos := k.tablaIos.modify i f }

/-- The worker gives up: its interface is not active any more, its request is freed. -/
def terminarWorker (i : ℕ) : KernelScheduler :=
  k.modificarIo i fun io ↦ { io with activa := false, atendido := none }

/-- The process enters BLOCK with a new episode number, which its timer gets. -/
def entrarEnBlock (pid : Pid) : KernelScheduler :=
  let k₁ := k.modificarPcb pid fun p ↦ { p with estado := .block, blockEpoch := p.blockEpoch + 1 }
  let k₂ := { k₁ with colaProcesosBlock := k₁.colaProcesosBlock ++ [pid] }
  k₂.notificarProcesoEnBlock pid (k₂.pcbs pid).blockEpoch

/-- A request for an interface that is not active is refused. No caller looks at that, so the process
is in no queue. -/
def encolarIoRequest (i : ℕ) (req : IoRequest) : KernelScheduler :=
  match k.tablaIos[i]? with
  | none => k
  | some io =>
    if io.activa then
      (k.entrarEnBlock req.proceso).modificarIo i fun io ↦
        { io with cola := io.cola ++ [req], semCola := io.semCola + 1 }
    else k

/-- What `extraer_de_block` finds: no such process, one whose dump to SWAP is on its way, so that it
waits, or the process, which it takes out. -/
inductive Extraccion
  | noEsta | enVuelo | extraido (k' : KernelScheduler)

def extraerDeBlock (pid : Pid) : Extraccion :=
  if pid ∈ k.colaProcesosBlock then
    if (k.pcbs pid).estado = .suspBlock ∧ ¬ (k.pcbs pid).suspendidoEnSwap then .enVuelo
    else .extraido { k with colaProcesosBlock := k.colaProcesosBlock.erase pid }
  else .noEsta

def notificarReevaluarSuspendidos : KernelScheduler :=
  { k with semReevaluarSuspendidos := k.semReevaluarSuspendidos + 1 }

def eliminarPcb (pid : Pid) : KernelScheduler :=
  { k with todosLosProcesos := k.todosLosProcesos.erase pid }

def removerDeListaSuspendidos (pid : Pid) : KernelScheduler :=
  { k with listaSuspendidos := k.listaSuspendidos.erase pid }

/-- The end of an IO for a process that leaves BLOCK: SUSP_READY if it was suspended. -/
def desbloquear (pid : Pid) : KernelScheduler :=
  if (k.pcbs pid).estado = .suspBlock then
    (k.cambiarEstado pid .suspReady).notificarReevaluarSuspendidos
  else k.encolarEnReadyYNotificar pid

/-- The same for STDIN of a suspended process: what was read waits in the PCB. -/
def diferirStdin (pid : Pid) (pendiente : StdinPendiente) : KernelScheduler :=
  (k.modificarPcb pid fun p ↦ { p with
    stdinPendiente := some pendiente, estado := .suspReady }).notificarReevaluarSuspendidos

end KernelScheduler

/-- The common end of EXIT, ERROR and SEGFAULT. The answer to `FINALIZAR_PROCESO` plays no role. -/
def finalizarProceso (pid : Pid) : Hilo Unit := do
  modify fun k ↦ k.cambiarEstado pid .exitState
  liberarMutexesDeProceso pid
  modify fun k ↦ k.eliminarPcb pid

def finalizarPcbPorSegFault (pid : Pid) : Hilo Unit := do
  modify fun k ↦ k.cambiarEstado pid .exitState
  modify fun k ↦ k.removerDeListaSuspendidos pid
  liberarMutexesDeProceso pid
  modify fun k ↦ k.modificarPcb pid fun p ↦ { p with stdinPendiente := none }
  modify fun k ↦ k.eliminarPcb pid

/-- How the interface answers: an error or the end of its connection, or the end of the IO, with the
bytes that STDIN read. -/
inductive FinIo
  | error
  | finalizada (datos : List UInt8)
deriving Repr, DecidableEq

/-- The turn of `io_worker_thread` that takes the next request. -/
def KernelScheduler.tomarIo (k : KernelScheduler) (i : ℕ) : Option KernelScheduler :=
  match k.tablaIos[i]? with
  | none => none
  | some io =>
    if io.activa ∧ io.atendido = none ∧ 0 < io.semCola then
      some (k.modificarIo i fun io ↦
        { io with semCola := io.semCola - 1, cola := io.cola.tail, atendido := io.cola.head? })
    else none

/-- The process of a request whose IO has ended has left BLOCK; `escritura` is the answer to
`ESCRITURA_MEMORIA`. -/
def concluirIo (req : IoRequest) (datos : List UInt8) (escritura : RespuestaMemoria) : Hilo Unit := do
  match req.tipo with
  | .sleep | .stdout => modify fun k ↦ k.desbloquear req.proceso
  | .stdin =>
    if ((← get).pcbs req.proceso).estado = .suspBlock then
      modify fun k ↦ k.diferirStdin req.proceso ⟨UInt32.ofInt req.dir, datos⟩
    else if escritura = .ok then
      modify fun k ↦ k.encolarEnReadyYNotificar req.proceso
    else finalizarPcbPorSegFault req.proceso

/-- The turn of `io_worker_thread` after the answer of the interface. A worker that finds the dump of
its process on the way does not go on. -/
def KernelScheduler.terminarIo (k : KernelScheduler) (i : ℕ) (fin : FinIo)
    (escritura : RespuestaMemoria) : Option KernelScheduler :=
  match k.tablaIos[i]?.bind InterfazIo.atendido with
  | none => none
  | some req =>
    match fin with
    | .error => some (k.terminarWorker i)
    | .finalizada datos =>
      match (k.modificarIo i fun io ↦ { io with atendido := none }).extraerDeBlock req.proceso with
      | .noEsta => some (k.modificarIo i fun io ↦ { io with atendido := none })
      | .enVuelo => none
      | .extraido k' => some ((concluirIo req datos escritura).final k')

end PlugAndPlay.Planificador
