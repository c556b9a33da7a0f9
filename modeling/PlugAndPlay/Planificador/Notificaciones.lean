import Mathlib.Data.List.Sort
import PlugAndPlay.Library.Transitions
import PlugAndPlay.Memoria.CompactacionPreserva
import PlugAndPlay.Memoria.Operaciones
import PlugAndPlay.Planificador.Tipos

/-!
# Notifications on the memory socket

The socket between the Kernel Scheduler and Kernel Memory with everything that reads it and writes to it:
the threads of the scheduler that make requests one after the other under `mutex_memory_socket`, the
medium-term planner with its list of suspended processes, the thread of Kernel Memory that serves the
requests, and the threads of Kernel Memory that push notifications. A notification is read by whoever waits
for an answer next. A request that will never be answered ends by its timeout; no other timeout expires.
-/

open PlugAndPlay.Library PlugAndPlay.Memoria

namespace PlugAndPlay.Planificador

/-! ## Messages -/

inductive Pedido
  | crearProceso (pid : Pid) (instrucciones : List String)
  | solicitarSegmento (pid : Pid) (id tamanio : UInt32)
  | eliminarSegmento (pid : Pid) (id : UInt32)
  | finalizarProceso (pid : Pid)
  | lecturaMemoria (pid : Pid) (dir tamanio : UInt32)
  | escrituraMemoria (pid : Pid) (dir : UInt32) (datos : List UInt8)
  | suspenderProceso (pid : Pid)
  | desSuspenderProceso (pid : Pid)
deriving Repr, DecidableEq

/-- The requests of suspension timers and of the planner, which no other thread makes. -/
def Pedido.deSuspension : Pedido → Bool
  | .suspenderProceso _ | .desSuspenderProceso _ => true
  | _ => false

/-- The request as Kernel Memory handles it. -/
def Pedido.operacion : Pedido → Operacion
  | .crearProceso pid instrucciones => .crearProceso pid instrucciones
  | .solicitarSegmento pid id tamanio => .solicitarSegmento pid id tamanio
  | .eliminarSegmento pid id => .eliminarSegmento pid id
  | .finalizarProceso pid => .finalizarProceso pid
  | .lecturaMemoria pid dir tamanio => .lecturaMemoria pid dir tamanio
  | .escrituraMemoria pid dir datos => .escrituraMemoria pid dir (UInt32.ofNat datos.length) datos
  | .suspenderProceso pid => .suspenderProceso pid
  | .desSuspenderProceso pid => .desSuspenderProceso pid

/-- What the scheduler sends: requests, and the acknowledgement of `INICIAR_COMPACTACION`. -/
inductive AMemoria
  | pedido (p : Pedido)
  | okCompactacion
deriving Repr, DecidableEq

/-- What Kernel Memory sends. -/
inductive Trama
  | mensaje (m : Mensaje)
  | nuevaMemoriaDisponible (tamanio baseFisica : UInt32)
  | memoriaCorruptaBsod
deriving Repr, DecidableEq

/-- `despachar_si_es_notificacion`. -/
def Trama.esNotificacion : Trama → Bool
  | .memoriaCorruptaBsod | .nuevaMemoriaDisponible _ _ | .mensaje (.ok .memoriaLiberada)
  | .mensaje (.ok .iniciarCompactacion) | .mensaje (.ok .finalizarCompactacion) => true
  | .mensaje _ => false

/-- The notifications after which the scheduler looks at the suspended processes again. -/
def Trama.reevalua : Trama → Bool
  | .nuevaMemoriaDisponible _ _ | .mensaje (.ok .memoriaLiberada) => true
  | _ => false

/-- The notifications that Kernel Memory does not wait for. -/
def Trama.esAviso (t : Trama) : Bool := t.reevalua || t = .memoriaCorruptaBsod

/-! ## The state -/

/-- An entry of `lista_suspendidos`, with what its PCB adds. `liberado` tells whether memory was freed after
the last refused attempt to resume the process, or since it is in the list. -/
structure Suspendido where
  pid : Pid
  suspReady : Bool
  enSwap : Bool
  prioridadDinamica : ℤ
  tiempoSuspension : ℤ
  stdinPendiente : Option StdinPendiente
  liberado : Bool
deriving Repr, DecidableEq

/-- Where `planificadorMedianoPlazo` is: past its semaphore; with a request of its own and candidates still
ahead (with nothing ahead it waits for the semaphore); or before the answer to a request. -/
inductive FasePmp
  | despierto
  | recorrer (propio : Option Pedido) (candidatos : List Pid)
  | esperar (p : Pedido) (candidatos : List Pid)
deriving Repr, DecidableEq

/-- The planner holds the mutex of the socket. -/
def FasePmp.espera : FasePmp → Bool
  | .esperar _ _ => true
  | _ => false

/-- Where the thread of Kernel Memory is: before its next request; in a compaction, before the
acknowledgement and after it; or between an answer and `notificar_memoria_liberada`. -/
inductive FaseMemoria
  | libre
  | compactar (pid : Pid) (id tamanio : UInt32)
  | reasignar (pid : Pid) (id tamanio : UInt32)
  | notificar
deriving Repr, DecidableEq

/-- `activos` counts the threads of the scheduler that run outside of a request and the CPUs that execute a
process; `hilos` are the requests that threads are about to make, `espera` is the request whose answer one
of them waits for, and `sticksPorAvisar` are the sticks whose registration has not notified the scheduler. -/
structure CanalMemoria where
  memoria : KernelMemory
  fase : FaseMemoria
  sticksPorAvisar : List (UInt32 × UInt32)
  aMemoria : List AMemoria
  aScheduler : List Trama
  espera : Option Pedido
  hilos : List Pedido
  activos : ℕ
  suspendidos : List Suspendido
  semReevaluar : ℕ
  pmp : FasePmp
  detenido : Bool

inductive EventoCanal
  | activar
  | desactivar
  | disponer (p : Pedido)
  | suspender (pid : Pid) (prioridadDinamica tiempoSuspension : ℤ)
  | terminarIo (pid : Pid) (stdin : Option StdinPendiente)
  | pedir (i : ℕ)
  | pedirPmp
  | leer
  | agotar
  | despertar
  | evaluar
  | servir
  | compactar
  | reasignar
  | notificar
  | conectarStick (stick : StickNuevo) (outSock : ℤ)
  | avisarStick (i : ℕ)
  | corromper

namespace CanalMemoria

variable (r : CanalMemoria)

/-! ## Threads of the scheduler -/

/-- The mutex of the socket is free. -/
def SocketLibre : Prop := r.espera = none ∧ r.pmp.espera = false

instance : Decidable r.SocketLibre := inferInstanceAs (Decidable (_ ∧ _))

def modificarSuspendido (pid : Pid) (f : Suspendido → Suspendido) : CanalMemoria :=
  { r with suspendidos := r.suspendidos.map fun s ↦ if s.pid = pid then f s else s }

def notificarReevaluar : CanalMemoria := { r with semReevaluar := r.semReevaluar + 1 }

/-- `suspension_timer_thread` after the answer to `SUSPENDER_PROCESO`. -/
def terminarSuspension (pid : Pid) : CanalMemoria :=
  (r.modificarSuspendido pid fun s ↦ { s with enSwap := true }).notificarReevaluar

/-- What a thread does after the answer; the answer itself matters to the planner only. -/
def concluirHilo (p : Pedido) : CanalMemoria :=
  let r₁ := { r with espera := none, activos := r.activos + 1 }
  match p with
  | .suspenderProceso pid => r₁.terminarSuspension pid
  | _ => r₁

/-- `intentar_des_suspender_susp_ready` after an answer, `none` for no answer. -/
def concluirPmp (p : Pedido) (candidatos : List Pid) (ack : Option Trama) : CanalMemoria :=
  match p with
  | .desSuspenderProceso pid =>
    if ack = some (.mensaje (.ok .desSuspenderProceso)) then
      let entrada := r.suspendidos.find? fun s ↦ s.pid = pid
      let stdin := entrada.bind Suspendido.stdinPendiente
      { r with
        suspendidos := r.suspendidos.eraseP fun s ↦ s.pid = pid
        pmp := .recorrer (stdin.map fun s ↦ .escrituraMemoria pid s.dir s.datos) candidatos }
    else { r with pmp := .recorrer none candidatos }
  | .escrituraMemoria pid _ _ =>
    if ack = some (.mensaje (.ok .escrituraMemoria)) then { r with pmp := .recorrer none candidatos }
    else { r with pmp := .recorrer (some (.finalizarProceso pid)) candidatos }
  | _ => { r with pmp := .recorrer none candidatos }

/-- The thread that waits has its answer. -/
def concluir (ack : Option Trama) : CanalMemoria :=
  match r.espera, r.pmp with
  | some p, _ => r.concluirHilo p
  | none, .esperar p candidatos => r.concluirPmp p candidatos ack
  | none, _ => r

/-- The handler of a notification. -/
def manejar (t : Trama) : CanalMemoria :=
  match t with
  | .memoriaCorruptaBsod => { r with detenido := true }
  | .mensaje (.ok .iniciarCompactacion) => { r with aMemoria := r.aMemoria ++ [.okCompactacion] }
  | _ => r.notificarReevaluar

/-- `comparar_suspendidos`. -/
def antes (a b : Suspendido) : Prop :=
  a.prioridadDinamica < b.prioridadDinamica ∨
    a.prioridadDinamica = b.prioridadDinamica ∧ a.tiempoSuspension ≤ b.tiempoSuspension

instance (a b : Suspendido) : Decidable (antes a b) := inferInstanceAs (Decidable (_ ∨ _))

/-- The snapshot of `intentar_des_suspender_susp_ready`. -/
def candidatos : List Pid :=
  ((r.suspendidos.filter Suspendido.suspReady).insertionSort antes).map Suspendido.pid

/-! ## Threads of Kernel Memory -/

/-- Memory was freed. -/
def liberar : CanalMemoria :=
  { r with suspendidos := r.suspendidos.map fun s ↦ { s with liberado := true } }

/-- The frames of a transfer that met a stick without connection. -/
def avisosBsod (antes despues : KernelMemory) : List Trama :=
  List.replicate (despues.ram.avisosBsod - antes.ram.avisosBsod) .memoriaCorruptaBsod

/-- A request has changed the memory; of its messages `notificar_memoria_liberada` is still ahead. -/
def responder (m : KernelMemory) (mensajes : List Mensaje) : CanalMemoria :=
  let respuestas := mensajes.filter (· ≠ .ok .memoriaLiberada)
  { r with
    memoria := m
    aScheduler := r.aScheduler ++ avisosBsod r.memoria m ++ respuestas.map .mensaje
    fase := if .ok .memoriaLiberada ∈ mensajes then .notificar else .libre }

/-- `SOLICITAR_SEGMENTO` up to its answer, or up to the acknowledgement it waits for. -/
def solicitar (pid : Pid) (id tamanio : UInt32) : CanalMemoria :=
  match solicitarSinCompactar r.memoria pid id tamanio with
  | (some respuesta, m) => r.responder m respuesta
  | (none, m) =>
    { r with
      memoria := m
      aScheduler := r.aScheduler ++ [.mensaje (.ok .iniciarCompactacion)]
      fase := .compactar pid id tamanio }

/-- A request of `memory_receptor_scheduler_thread`. What is freed is noted in the list. -/
def atenderPedido (qsort : Qsort) (p : Pedido) : CanalMemoria :=
  match p with
  | .solicitarSegmento pid id tamanio => r.solicitar pid id tamanio
  | p =>
    let (mensajes, m) := atender qsort r.memoria p.operacion
    let r₁ := r.responder m mensajes
    match p with
    | .suspenderProceso _ => r₁.liberar
    | .desSuspenderProceso pid =>
      if .ok .desSuspenderProceso ∈ mensajes then r₁
      else r₁.modificarSuspendido pid fun s ↦ { s with liberado := false }
    | _ => if .ok .memoriaLiberada ∈ mensajes then r₁.liberar else r₁

/-- `registrar_memory_stick` up to the notification of the scheduler. -/
def conectarStick (stick : StickNuevo) (outSock : ℤ) : CanalMemoria :=
  match registrarInsertar r.memoria stick with
  | none => r
  | some (_, baseFisica, _) =>
    { r with
      memoria := registrarMemoryStick r.memoria stick outSock
      sticksPorAvisar := r.sticksPorAvisar ++ [(stick.tamanio, baseFisica)] }.liberar

/-! ## Steps -/

/-- A thread of the scheduler, with the mutex of the socket, sends a request. -/
def enviar (p : Pedido) : CanalMemoria := { r with aMemoria := r.aMemoria ++ [.pedido p] }

def empujar (t : Trama) : CanalMemoria := { r with aScheduler := r.aScheduler ++ [t] }

/-- One step. A process is suspended once until it is resumed, and its IO ends after its dump. -/
def paso (qsort : Qsort) (r : CanalMemoria) (e : EventoCanal) : Option CanalMemoria :=
  if r.detenido then none
  else
    match e with
    | .activar => some { r with activos := r.activos + 1 }
    | .desactivar => if 0 < r.activos then some { r with activos := r.activos - 1 } else none
    | .disponer p =>
      if 0 < r.activos ∧ p.deSuspension = false then
        some { r with activos := r.activos - 1, hilos := r.hilos ++ [p] }
      else none
    | .suspender pid prioridadDinamica tiempoSuspension =>
      if 0 < r.activos ∧ ∀ s ∈ r.suspendidos, s.pid ≠ pid then
        some { r with
          activos := r.activos - 1
          suspendidos := r.suspendidos ++
            [⟨pid, false, false, prioridadDinamica, tiempoSuspension, none, true⟩]
          hilos := r.hilos ++ [.suspenderProceso pid] }
      else none
    | .terminarIo pid stdin =>
      if 0 < r.activos ∧ ∃ s ∈ r.suspendidos, s.pid = pid ∧ s.suspReady = false ∧ s.enSwap then
        some (r.modificarSuspendido pid fun s ↦
          { s with suspReady := true, stdinPendiente := stdin }).notificarReevaluar
      else none
    | .pedir i =>
      match r.hilos[i]? with
      | none => none
      | some p =>
        if r.SocketLibre then some ({ r with espera := some p, hilos := r.hilos.eraseIdx i }.enviar p)
        else none
    | .pedirPmp =>
      if r.SocketLibre then
        match r.pmp with
        | .recorrer (some p) candidatos => some ({ r with pmp := .esperar p candidatos }.enviar p)
        | .recorrer none (pid :: candidatos) =>
          some ({ r with pmp := .esperar (.desSuspenderProceso pid) candidatos }.enviar
            (.desSuspenderProceso pid))
        | _ => none
      else none
    | .leer =>
      match r.aScheduler with
      | [] => none
      | t :: resto =>
        if r.SocketLibre then none
        else
          let r₁ := { r with aScheduler := resto }
          some (if t.esNotificacion then r₁.manejar t else r₁.concluir (some t))
    | .agotar =>
      if ¬ r.SocketLibre ∧ r.aScheduler = [] ∧ r.aMemoria = [] ∧
          (r.fase = .libre ∨ r.fase = .notificar) then some (r.concluir none)
      else none
    | .despertar =>
      if 0 < r.semReevaluar ∧ r.pmp = .recorrer none [] then
        some { r with semReevaluar := r.semReevaluar - 1, pmp := .despierto }
      else none
    | .evaluar =>
      if r.pmp = .despierto then some { r with pmp := .recorrer none r.candidatos } else none
    | .servir =>
      match r.fase, r.aMemoria with
      | .libre, .pedido p :: resto => some ({ r with aMemoria := resto }.atenderPedido qsort p)
      | _, _ => none
    | .compactar =>
      match r.fase, r.aMemoria with
      | .compactar pid id tamanio, .okCompactacion :: resto =>
        let m := compactarMemoria qsort r.memoria
        some { r with
          memoria := m
          aMemoria := resto
          aScheduler := r.aScheduler ++ avisosBsod r.memoria m ++
            [.mensaje (.ok .finalizarCompactacion)]
          fase := .reasignar pid id tamanio }
      | _, _ => none
    | .reasignar =>
      match r.fase with
      | .reasignar pid id tamanio =>
        let (mensajes, m) := Memoria.reasignar r.memoria pid id tamanio
        some (r.responder m mensajes)
      | _ => none
    | .notificar =>
      if r.fase = .notificar then
        some ({ r with fase := .libre }.empujar (.mensaje (.ok .memoriaLiberada)))
      else none
    | .conectarStick stick outSock => some (r.conectarStick stick outSock)
    | .avisarStick i =>
      match r.sticksPorAvisar[i]? with
      | none => none
      | some (tamanio, baseFisica) =>
        some ({ r with sticksPorAvisar := r.sticksPorAvisar.eraseIdx i }.empujar
          (.nuevaMemoriaDisponible tamanio baseFisica))
    | .corromper => some (r.empujar .memoriaCorruptaBsod)

/-- Any memory, and nothing under way. -/
def Arranque : Prop :=
  r.fase = .libre ∧ r.sticksPorAvisar = [] ∧ r.aMemoria = [] ∧ r.aScheduler = [] ∧ r.espera = none ∧
    r.hilos = [] ∧ r.suspendidos = [] ∧ r.pmp = .recorrer none []

/-! ## What is expected of a quiescent state -/

/-- No thread of the scheduler can run, no CPU executes, and Kernel Memory has nothing to do. -/
def EnReposo : Prop :=
  r.detenido = false ∧ r.activos = 0 ∧ r.hilos = [] ∧ r.SocketLibre ∧ r.pmp = .recorrer none [] ∧
    r.semReevaluar = 0 ∧ r.aMemoria = [] ∧ r.fase = .libre ∧ r.sticksPorAvisar = []

instance : Decidable r.EnReposo := inferInstanceAs (Decidable (_ ∧ _))

/-- The process could be resumed with memory that was freed after its last refused attempt. -/
def Olvidado (s : Suspendido) : Prop :=
  s.suspReady ∧ s.liberado ∧ (desSuspenderProceso r.memoria s.pid).1 = .completa

instance (s : Suspendido) : Decidable (r.Olvidado s) := inferInstanceAs (Decidable (_ ∧ _))

/-- In a quiescent state there is no unread notification, and no process was forgotten. -/
def AvisosAtendidos : Prop :=
  r.EnReposo → (∀ t ∈ r.aScheduler, t.esAviso = false) ∧ ∀ s ∈ r.suspendidos, ¬ r.Olvidado s

instance : Decidable r.AvisosAtendidos := inferInstanceAs (Decidable (_ → _))

/-- The answers in the socket that are not read. -/
def respuestas (tramas : List Trama) : ℕ := tramas.countP fun t ↦ !t.esNotificacion

/-- The processes of the pass of the planner that goes on. -/
def enPasada : List Pid :=
  match r.pmp with
  | .despierto => []
  | .recorrer _ candidatos => candidatos
  | .esperar (.desSuspenderProceso pid) candidatos => pid :: candidatos
  | .esperar _ candidatos => candidatos

/-- The requests of the pass that goes on, at least. -/
def pedidosPmp : ℕ :=
  match r.pmp with
  | .despierto => 0
  | .recorrer propio candidatos => propio.toList.length + candidatos.length
  | .esperar _ candidatos => candidatos.length + 1

/-- The processes that the pass ahead, if there is one, will find besides. -/
def pedidosProximos : ℕ :=
  if 0 < r.semReevaluar ∨ r.pmp = .despierto then
    r.suspendidos.countP fun s ↦ s.suspReady ∧ s.pid ∉ r.enPasada
  else 0

/-- The answers that threads of the scheduler wait for or will ask for. -/
def lectores : ℕ := r.espera.toList.length + r.hilos.length + r.pedidosPmp + r.pedidosProximos

/-- Somebody will read past the answers that are in the socket. -/
def ConLector : Prop := respuestas r.aScheduler < r.lectores

instance : Decidable r.ConLector := inferInstanceAs (Decidable (_ < _))

/-- A notification is pushed while somebody will read it. -/
def AvisaConLector (r : CanalMemoria) : EventoCanal → Prop
  | .notificar | .avisarStick _ | .corromper => r.ConLector
  | _ => True

instance (r : CanalMemoria) (e : EventoCanal) : Decidable (r.AvisaConLector e) := by
  unfold AvisaConLector
  cases e <;> infer_instance

/-- What the steps do, one case for each way through a step. -/
inductive PasoCanal (qsort : Qsort) (r : CanalMemoria) : EventoCanal → CanalMemoria → Prop
  | activar : PasoCanal qsort r .activar { r with activos := r.activos + 1 }
  | desactivar : PasoCanal qsort r .desactivar { r with activos := r.activos - 1 }
  | disponer {p : Pedido} : p.deSuspension = false → PasoCanal qsort r (.disponer p)
      { r with activos := r.activos - 1, hilos := r.hilos ++ [p] }
  | suspender {pid : Pid} {prioridadDinamica tiempo : ℤ} : (∀ s ∈ r.suspendidos, s.pid ≠ pid) →
      PasoCanal qsort r (.suspender pid prioridadDinamica tiempo)
        { r with
          activos := r.activos - 1
          suspendidos := r.suspendidos ++ [⟨pid, false, false, prioridadDinamica, tiempo, none, true⟩]
          hilos := r.hilos ++ [.suspenderProceso pid] }
  | terminarIo {pid : Pid} {stdin : Option StdinPendiente} : PasoCanal qsort r (.terminarIo pid stdin)
      (r.modificarSuspendido pid fun s ↦
        { s with suspReady := true, stdinPendiente := stdin }).notificarReevaluar
  | pedir {i : ℕ} {p : Pedido} : r.hilos[i]? = some p → r.SocketLibre → PasoCanal qsort r (.pedir i)
      ({ r with espera := some p, hilos := r.hilos.eraseIdx i }.enviar p)
  | pedirPropio {p : Pedido} {candidatos : List Pid} : r.SocketLibre →
      r.pmp = .recorrer (some p) candidatos → PasoCanal qsort r .pedirPmp
      ({ r with pmp := .esperar p candidatos }.enviar p)
  | pedirCandidato {pid : Pid} {candidatos : List Pid} : r.SocketLibre →
      r.pmp = .recorrer none (pid :: candidatos) → PasoCanal qsort r .pedirPmp
      ({ r with pmp := .esperar (.desSuspenderProceso pid) candidatos }.enviar
        (.desSuspenderProceso pid))
  | notificacion {t : Trama} {resto : List Trama} : r.aScheduler = t :: resto →
      t.esNotificacion = true → PasoCanal qsort r .leer ({ r with aScheduler := resto }.manejar t)
  | respuesta {t : Trama} {resto : List Trama} : r.aScheduler = t :: resto →
      t.esNotificacion = false → PasoCanal qsort r .leer
      ({ r with aScheduler := resto }.concluir (some t))
  | agotar : r.aScheduler = [] → r.aMemoria = [] → (r.fase = .libre ∨ r.fase = .notificar) →
      PasoCanal qsort r .agotar (r.concluir none)
  | despertar : 0 < r.semReevaluar → r.pmp = .recorrer none [] → PasoCanal qsort r .despertar
      { r with semReevaluar := r.semReevaluar - 1, pmp := .despierto }
  | evaluar : r.pmp = .despierto → PasoCanal qsort r .evaluar
      { r with pmp := .recorrer none r.candidatos }
  | servir {p : Pedido} {resto : List AMemoria} : r.fase = .libre → r.aMemoria = .pedido p :: resto →
      PasoCanal qsort r .servir ({ r with aMemoria := resto }.atenderPedido qsort p)
  | compactar {pid : Pid} {id tamanio : UInt32} {resto : List AMemoria} :
      r.fase = .compactar pid id tamanio → r.aMemoria = .okCompactacion :: resto →
      PasoCanal qsort r .compactar { r with
        memoria := compactarMemoria qsort r.memoria
        aMemoria := resto
        aScheduler := r.aScheduler ++ avisosBsod r.memoria (compactarMemoria qsort r.memoria) ++
          [.mensaje (.ok .finalizarCompactacion)]
        fase := .reasignar pid id tamanio }
  | reasignar {pid : Pid} {id tamanio : UInt32} : r.fase = .reasignar pid id tamanio →
      PasoCanal qsort r .reasignar (r.responder (Memoria.reasignar r.memoria pid id tamanio).2
        (Memoria.reasignar r.memoria pid id tamanio).1)
  | notificar : r.fase = .notificar → PasoCanal qsort r .notificar
      ({ r with fase := .libre }.empujar (.mensaje (.ok .memoriaLiberada)))
  | conectarStick {stick : StickNuevo} {outSock : ℤ} :
      PasoCanal qsort r (.conectarStick stick outSock) (r.conectarStick stick outSock)
  | avisarStick {i : ℕ} {tamanio baseFisica : UInt32} :
      r.sticksPorAvisar[i]? = some (tamanio, baseFisica) → PasoCanal qsort r (.avisarStick i)
      ({ r with sticksPorAvisar := r.sticksPorAvisar.eraseIdx i }.empujar
        (.nuevaMemoriaDisponible tamanio baseFisica))
  | corromper : PasoCanal qsort r .corromper (r.empujar .memoriaCorruptaBsod)

variable {qsort : Qsort} {r r' : CanalMemoria} {e : EventoCanal}

theorem paso_cases (hpaso : paso qsort r e = some r') : PasoCanal qsort r e r' := by
  unfold paso at hpaso
  split at hpaso
  · cases hpaso
  cases e with
  | activar =>
    cases hpaso
    exact .activar
  | desactivar =>
    simp only [Option.ite_none_right_eq_some, Option.some.injEq] at hpaso
    obtain ⟨_, rfl⟩ := hpaso
    exact .desactivar
  | disponer p =>
    simp only [Option.ite_none_right_eq_some, Option.some.injEq] at hpaso
    obtain ⟨⟨_, hp⟩, rfl⟩ := hpaso
    exact .disponer hp
  | suspender pid prioridadDinamica tiempo =>
    simp only [Option.ite_none_right_eq_some, Option.some.injEq] at hpaso
    obtain ⟨⟨_, hpid⟩, rfl⟩ := hpaso
    exact .suspender hpid
  | terminarIo pid stdin =>
    simp only [Option.ite_none_right_eq_some, Option.some.injEq] at hpaso
    obtain ⟨_, rfl⟩ := hpaso
    exact .terminarIo
  | pedir i =>
    simp only at hpaso
    split at hpaso
    · cases hpaso
    rename_i p hp
    simp only [Option.ite_none_right_eq_some, Option.some.injEq] at hpaso
    obtain ⟨hlibre, rfl⟩ := hpaso
    exact .pedir hp hlibre
  | pedirPmp =>
    simp only [Option.ite_none_right_eq_some] at hpaso
    obtain ⟨hlibre, hpaso⟩ := hpaso
    split at hpaso
    · cases hpaso
      exact .pedirPropio hlibre ‹_›
    · cases hpaso
      exact .pedirCandidato hlibre ‹_›
    · cases hpaso
  | leer =>
    simp only at hpaso
    split at hpaso
    · cases hpaso
    rename_i t resto htramas
    simp only [Option.ite_none_left_eq_some, Option.some.injEq] at hpaso
    obtain ⟨_, rfl⟩ := hpaso
    split
    · exact .notificacion htramas ‹_›
    · exact .respuesta htramas (eq_false_of_ne_true ‹_›)
  | agotar =>
    simp only [Option.ite_none_right_eq_some, Option.some.injEq] at hpaso
    obtain ⟨⟨_, htramas, hpedidos, hfase⟩, rfl⟩ := hpaso
    exact .agotar htramas hpedidos hfase
  | despertar =>
    simp only [Option.ite_none_right_eq_some, Option.some.injEq] at hpaso
    obtain ⟨⟨hsem, hpmp⟩, rfl⟩ := hpaso
    exact .despertar hsem hpmp
  | evaluar =>
    simp only [Option.ite_none_right_eq_some, Option.some.injEq] at hpaso
    obtain ⟨hpmp, rfl⟩ := hpaso
    exact .evaluar hpmp
  | servir =>
    simp only at hpaso
    split at hpaso
    · cases hpaso
      exact .servir ‹_› ‹_›
    · cases hpaso
  | compactar =>
    simp only at hpaso
    split at hpaso
    · cases hpaso
      exact .compactar ‹_› ‹_›
    · cases hpaso
  | reasignar =>
    simp only at hpaso
    split at hpaso
    · cases hpaso
      exact .reasignar ‹_›
    · cases hpaso
  | notificar =>
    simp only [Option.ite_none_right_eq_some, Option.some.injEq] at hpaso
    obtain ⟨hfase, rfl⟩ := hpaso
    exact .notificar hfase
  | conectarStick stick outSock =>
    cases hpaso
    exact .conectarStick
  | avisarStick i =>
    simp only at hpaso
    split at hpaso
    · cases hpaso
    · cases hpaso
      exact .avisarStick ‹_›
  | corromper =>
    cases hpaso
    exact .corromper

end CanalMemoria

end PlugAndPlay.Planificador
