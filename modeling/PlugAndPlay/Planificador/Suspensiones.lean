import PlugAndPlay.Library.Transitions
import PlugAndPlay.Planificador.Tipos

/-!
# Suspensions, section by section

The threads of the medium term among themselves: the handlers that put a process in BLOCK, the workers of the
interfaces, `suspension_timer_thread` and `planificadorMedianoPlazo`. Each thread is cut wherever it lets go of a
lock, and between a request to Kernel Memory and its answer. What the rest of the scheduler does with a process that
none of them has is one step. `mutex_memory_socket` would only leave out some of the interleavings.
-/

open PlugAndPlay.Library

namespace PlugAndPlay.Planificador

/-! ## Threads -/

/-- Where a `suspension_timer_thread` is: asleep; with a process that it has put in SUSP_BLOCK; after
`agregar_a_lista_suspendidos`; waiting for the answer to `SUSPENDER_PROCESO`; before it sets `suspendido_en_swap`;
before `notificar_reevaluar_suspendidos`. -/
inductive FaseTimer
  | dormido | marcado | listado | pidiendo | respondido | porAvisar | terminado
deriving Repr, DecidableEq

/-- A `suspension_timer_thread` with its arguments. The model counts the times that `block_epoch` goes up; `entrada`
is the one the timer was started for, and `porIo` says whether that was an IO. -/
structure HiloSuspension where
  pid : Pid
  epoch : UInt32
  entrada : ℕ
  porIo : Bool
  fase : FaseTimer
deriving Repr, DecidableEq

/-- Where the thread is that has the process: in `encolar_io_request` before `mutex_block`, before the timer and
before the queue of the interface; in `io_worker_thread` until the interface answers, in `extraer_de_block`, behind
it, before a suspended process becomes SUSP_READY, and before, in and after a write of STDIN. -/
inductive FaseProceso
  | planificado
  | pedir (req : IoRequest)
  | bloqueado (req : IoRequest) (epoch : UInt32) (entrada : ℕ)
  | encolar (req : IoRequest)
  | enInterfaz (req : IoRequest)
  | terminada (req : IoRequest) (datos : List UInt8)
  | extraida (req : IoRequest) (datos : List UInt8)
  | diferida
  | suspReady
  | escribir (pendiente : StdinPendiente)
  | escribiendo (pendiente : StdinPendiente)
  | aReady
  | rechazada
  | perdida
  | fuera
deriving Repr, DecidableEq

/-- A `manejar_syscall_mutex_lock` that has queued its process and still has to count the episode and to start the
timer. Meanwhile another thread may give the mutex to the process. -/
structure HiloMutex where
  pid : Pid
  contada : Bool
deriving Repr, DecidableEq

/-- Where `intentar_des_suspender_susp_ready` is, with the candidates it has not come to. -/
inductive FasePlanificador
  | espera
  | recorre (candidatos : List Pid)
  | pidiendo (pid : Pid) (resto : List Pid)
  | aceptado (pid : Pid) (resto : List Pid)
  | removido (pid : Pid) (resto : List Pid)
  | escribiendo (pid : Pid) (resto : List Pid)
  | aReady (pid : Pid) (resto : List Pid)
  | rechazada (pid : Pid) (resto : List Pid)
deriving Repr, DecidableEq

/-- What happens to a process in the order in which it happens: it enters BLOCK, its IO ends, requests for it go to
Kernel Memory and come back answered, it goes to READY, it ends. -/
inductive Paso
  | entra (req : IoRequest)
  | finIo (req : IoRequest) (datos : List UInt8)
  | suspender
  | suspendido
  | desSuspender
  | desSuspendido
  | noDesSuspendido
  | escritura (pendiente : StdinPendiente)
  | escrita
  | noEscrita
  | aReady
  | finalizado
deriving Repr, DecidableEq

/-! ## State -/

/-- The globals these threads share. `avisos` are the workers that have not posted yet; `entradas` and `historia`
are kept by the model only. -/
structure Suspensiones where
  suspensionTimeout : ℤ
  pcbs : Pid → Pcb
  fases : Pid → FaseProceso
  colaProcesosBlock : List Pid
  listaSuspendidos : List Pid
  timers : List HiloSuspension
  esperas : List HiloMutex
  avisos : ℕ
  semReevaluarSuspendidos : ℕ
  pmp : FasePlanificador
  entradas : Pid → ℕ
  historia : Pid → List Paso

namespace Suspensiones

variable (s : Suspensiones)

def modificarPcb (pid : Pid) (f : Pcb → Pcb) : Suspensiones :=
  { s with pcbs := Function.update s.pcbs pid (f (s.pcbs pid)) }

def cambiarEstado (pid : Pid) (estado : Estado) : Suspensiones :=
  s.modificarPcb pid fun p ↦ { p with estado := estado }

def conFase (pid : Pid) (fase : FaseProceso) : Suspensiones :=
  { s with fases := Function.update s.fases pid fase }

def anotar (pid : Pid) (paso : Paso) : Suspensiones :=
  { s with historia := Function.update s.historia pid (s.historia pid ++ [paso]) }

def conPmp (fase : FasePlanificador) : Suspensiones := { s with pmp := fase }

/-- `proceso->block_epoch++`. -/
def contarEntrada (pid : Pid) : Suspensiones :=
  { s.modificarPcb pid fun p ↦ { p with blockEpoch := p.blockEpoch + 1 } with
    entradas := Function.update s.entradas pid (s.entradas pid + 1) }

def notificarProcesoEnBlock (pid : Pid) (epoch : UInt32) (entrada : ℕ) (porIo : Bool) : Suspensiones :=
  if s.suspensionTimeout ≤ 0 then s
  else { s with timers := s.timers ++ [⟨pid, epoch, entrada, porIo, .dormido⟩] }

def notificarReevaluarSuspendidos : Suspensiones :=
  { s with semReevaluarSuspendidos := s.semReevaluarSuspendidos + 1 }

def removerDeListaSuspendidos (pid : Pid) : Suspensiones :=
  { s with listaSuspendidos := s.listaSuspendidos.erase pid }

/-! ## The thread that has a process -/

/-- What STDIN read, with where it goes. -/
def pendienteDe (req : IoRequest) (datos : List UInt8) : StdinPendiente := ⟨UInt32.ofInt req.dir, datos⟩

/-- One turn of the loop of `extraer_de_block`; nothing changes while the dump is on its way. -/
def extraerDeBlock (pid : Pid) (req : IoRequest) (datos : List UInt8) : Suspensiones :=
  if pid ∉ s.colaProcesosBlock then s.conFase pid .perdida
  else if (s.pcbs pid).estado = .suspBlock ∧ ¬ (s.pcbs pid).suspendidoEnSwap then s
  else { s with colaProcesosBlock := s.colaProcesosBlock.erase pid }.conFase pid (.extraida req datos)

/-- To SUSP_READY; the worker still has to notify. -/
def aSuspReady (pid : Pid) : Suspensiones :=
  { (s.cambiarEstado pid .suspReady).conFase pid .suspReady with avisos := s.avisos + 1 }

/-- The worker with the process out of BLOCK. -/
def concluirIo (pid : Pid) (req : IoRequest) (datos : List UInt8) : Suspensiones :=
  if (s.pcbs pid).estado = .suspBlock then
    if req.tipo = .stdin then
      (s.modificarPcb pid fun p ↦ { p with stdinPendiente := some (pendienteDe req datos) }).conFase pid .diferida
    else s.aSuspReady pid
  else if req.tipo = .stdin then s.conFase pid (.escribir (pendienteDe req datos))
  else s.conFase pid .aReady

/-- `encolar_en_ready_y_notificar`. -/
def encolarEnReady (pid : Pid) : Suspensiones :=
  ((s.cambiarEstado pid .ready).conFase pid .planificado).anotar pid .aReady

/-- `finalizar_pcb_por_seg_fault`. -/
def finalizarPcbPorSegFault (pid : Pid) : Suspensiones :=
  (((s.modificarPcb pid fun p ↦ { p with estado := .exitState, stdinPendiente := none }).removerDeListaSuspendidos
    pid).conFase pid .fuera).anotar pid .finalizado

/-- The next section of the thread that has the process, with what it reads if it waits for something: the bytes of
the interface, or the answer of Kernel Memory. -/
def avanzarHilo (pid : Pid) (datos : List UInt8) (aceptada : Bool) : Option Suspensiones :=
  match s.fases pid with
  | .planificado | .suspReady | .perdida | .fuera => none
  | .pedir req =>
    let s₁ := s.contarEntrada pid
    let fase := .bloqueado req (s₁.pcbs pid).blockEpoch (s₁.entradas pid)
    some (({ s₁ with colaProcesosBlock := s₁.colaProcesosBlock ++ [pid] }.conFase pid fase).anotar pid (.entra req))
  | .bloqueado req epoch entrada => some ((s.notificarProcesoEnBlock pid epoch entrada true).conFase pid (.encolar req))
  | .encolar req => some (s.conFase pid (.enInterfaz req))
  | .enInterfaz req => some ((s.conFase pid (.terminada req datos)).anotar pid (.finIo req datos))
  | .terminada req datos => some (s.extraerDeBlock pid req datos)
  | .extraida req datos => some (s.concluirIo pid req datos)
  | .diferida => some (s.aSuspReady pid)
  | .escribir pendiente => some ((s.conFase pid (.escribiendo pendiente)).anotar pid (.escritura pendiente))
  | .escribiendo _ =>
    if aceptada then some ((s.conFase pid .aReady).anotar pid .escrita)
    else some ((s.conFase pid .rechazada).anotar pid .noEscrita)
  | .aReady => some (s.encolarEnReady pid)
  | .rechazada => some (s.finalizarPcbPorSegFault pid)

/-! ## `suspension_timer_thread` -/

def conTimer (i : ℕ) (fase : FaseTimer) : Suspensiones :=
  { s with timers := s.timers.modify i fun t ↦ { t with fase := fase } }

/-- The process is in BLOCK, in the episode of the timer. -/
def Vence (t : HiloSuspension) : Prop :=
  t.pid ∈ s.colaProcesosBlock ∧ (s.pcbs t.pid).estado = .block ∧ (s.pcbs t.pid).blockEpoch = t.epoch

instance (t : HiloSuspension) : Decidable (s.Vence t) := inferInstanceAs (Decidable (_ ∧ _ ∧ _))

def avanzarTimer (i : ℕ) : Option Suspensiones :=
  match s.timers[i]? with
  | none => none
  | some t =>
    match t.fase with
    | .dormido =>
      if s.Vence t then
        some ((s.modificarPcb t.pid fun p ↦ { p with estado := .suspBlock, suspendidoEnSwap := false }).conTimer i
          .marcado)
      else some (s.conTimer i .terminado)
    | .marcado => some ({ s with listaSuspendidos := s.listaSuspendidos ++ [t.pid] }.conTimer i .listado)
    | .listado => some ((s.conTimer i .pidiendo).anotar t.pid .suspender)
    | .pidiendo => some ((s.conTimer i .respondido).anotar t.pid .suspendido)
    | .respondido =>
      if t.pid ∈ s.colaProcesosBlock then
        some ((s.modificarPcb t.pid fun p ↦ { p with suspendidoEnSwap := true }).conTimer i .porAvisar)
      else some (s.conTimer i .porAvisar)
    | .porAvisar => some (s.notificarReevaluarSuspendidos.conTimer i .terminado)
    | .terminado => none

/-! ## `planificadorMedianoPlazo` -/

/-- The processes of the list that are in SUSP_READY, in the order of `list_sort`, which is any as far as these
threads go. -/
def EsFoto (candidatos : List Pid) : Prop :=
  candidatos.Perm (s.listaSuspendidos.filter fun pid ↦ (s.pcbs pid).estado = .suspReady)

instance (candidatos : List Pid) : Decidable (s.EsFoto candidatos) := inferInstanceAs (Decidable (List.Perm _ _))

/-- The next section of the planner: past `sem_wait` with a snapshot of the candidates, one candidate after the
other, and back. `sem_wait` and the snapshot are one section: meanwhile the other threads can only post the
semaphore, and nothing that they do depends on its value. -/
def avanzarPmp (candidatos : List Pid) (aceptada : Bool) : Option Suspensiones :=
  match s.pmp with
  | .espera =>
    if 0 < s.semReevaluarSuspendidos ∧ s.EsFoto candidatos then
      some { s with semReevaluarSuspendidos := s.semReevaluarSuspendidos - 1, pmp := .recorre candidatos }
    else none
  | .recorre [] => some (s.conPmp .espera)
  | .recorre (pid :: resto) => some ((s.conPmp (.pidiendo pid resto)).anotar pid .desSuspender)
  | .pidiendo pid resto =>
    if aceptada then some ((s.conPmp (.aceptado pid resto)).anotar pid .desSuspendido)
    else some ((s.conPmp (.recorre resto)).anotar pid .noDesSuspendido)
  | .aceptado pid resto => some ((s.removerDeListaSuspendidos pid).conPmp (.removido pid resto))
  | .removido pid resto =>
    match (s.pcbs pid).stdinPendiente with
    | none => some (s.conPmp (.aReady pid resto))
    | some pendiente => some ((s.conPmp (.escribiendo pid resto)).anotar pid (.escritura pendiente))
  | .escribiendo pid resto =>
    let s₁ := s.modificarPcb pid fun p ↦ { p with stdinPendiente := none }
    if aceptada then some ((s₁.conPmp (.aReady pid resto)).anotar pid .escrita)
    else some ((s₁.conPmp (.rechazada pid resto)).anotar pid .noEscrita)
  | .aReady pid resto => some ((s.encolarEnReady pid).conPmp (.recorre resto))
  | .rechazada pid resto => some ((s.finalizarPcbPorSegFault pid).conPmp (.recorre resto))

/-! ## Runs -/

/-- The end of `manejar_syscall_mutex_lock`. -/
def avanzarEspera (i : ℕ) : Option Suspensiones :=
  match s.esperas[i]? with
  | none => none
  | some espera =>
    if espera.contada then
      some ({ s with esperas := s.esperas.eraseIdx i }.notificarProcesoEnBlock espera.pid
        (s.pcbs espera.pid).blockEpoch (s.entradas espera.pid) false)
    else some { s.contarEntrada espera.pid with
      esperas := s.esperas.modify i fun espera ↦ { espera with contada := true } }

end Suspensiones

/-- What can happen: the rest of the scheduler changes the state of a process that it has, or the process ends; a
process waits for a mutex, or asks for an IO; one of the threads goes on; a worker notifies the planner, or some
other event does. -/
inductive SucesoSuspension
  | planificar (pid : Pid) (estado : Estado)
  | terminar (pid : Pid)
  | esperarMutex (pid : Pid)
  | pedirIo (req : IoRequest)
  | espera (i : ℕ)
  | hilo (pid : Pid) (datos : List UInt8) (aceptada : Bool)
  | timer (i : ℕ)
  | pmp (candidatos : List Pid) (aceptada : Bool)
  | avisar
  | notificar
deriving Repr, DecidableEq

namespace Suspensiones

/-- One step. Nothing but these threads puts a process in SUSP_BLOCK or SUSP_READY. -/
def paso (s : Suspensiones) : SucesoSuspension → Option Suspensiones
  | .planificar pid estado =>
    if s.fases pid = .planificado ∧ estado ≠ .suspBlock ∧ estado ≠ .suspReady then some (s.cambiarEstado pid estado)
    else none
  | .terminar pid =>
    if s.fases pid = .planificado then
      some (((s.cambiarEstado pid .exitState).conFase pid .fuera).anotar pid .finalizado)
    else none
  | .esperarMutex pid =>
    if s.fases pid = .planificado then
      some { s.cambiarEstado pid .block with esperas := s.esperas ++ [⟨pid, false⟩] }
    else none
  | .pedirIo req =>
    if s.fases req.proceso = .planificado then
      some ((s.cambiarEstado req.proceso .block).conFase req.proceso (.pedir req))
    else none
  | .espera i => s.avanzarEspera i
  | .hilo pid datos aceptada => s.avanzarHilo pid datos aceptada
  | .timer i => s.avanzarTimer i
  | .pmp candidatos aceptada => s.avanzarPmp candidatos aceptada
  | .avisar => if 0 < s.avisos then some { s.notificarReevaluarSuspendidos with avisos := s.avisos - 1 } else none
  | .notificar => some s.notificarReevaluarSuspendidos

/-- Before the first IO: the planner waits, and no process was ever suspended. -/
structure Inicial (s : Suspensiones) : Prop where
  estados : ∀ pid, (s.pcbs pid).estado ≠ .suspBlock ∧ (s.pcbs pid).estado ≠ .suspReady
  pendientes : ∀ pid, (s.pcbs pid).stdinPendiente = none
  epocas : ∀ pid, (s.pcbs pid).blockEpoch = 0
  fases : ∀ pid, s.fases pid = .planificado
  colas : s.colaProcesosBlock = [] ∧ s.listaSuspendidos = []
  hilos : s.timers = [] ∧ s.esperas = [] ∧ s.pmp = .espera
  avisos : s.avisos = 0
  entradas : ∀ pid, s.entradas pid = 0
  historia : ∀ pid, s.historia pid = []

end Suspensiones

end PlugAndPlay.Planificador
