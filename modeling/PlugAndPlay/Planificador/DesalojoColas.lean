import PlugAndPlay.Library.Preemption
import PlugAndPlay.Planificador.Despertares

/-!
# Preemption between the queues of CMN

What arrivals to READY, the short-term planner, the connections with the CPUs and their receptor threads do
with `QUEUE_PREEMPTION`. The push of an enqueue and its `verificar_y_desalojar_por_prioridad` are two steps,
and so are the two halves of a dispatch and of the handling of a `DEVOLVER_PROCESO`. Here `enviados` holds
the messages that have not arrived. They may overtake each other, which only adds orders.
-/

open PlugAndPlay.Library

namespace PlugAndPlay.Planificador

open KernelScheduler

/-- A CPU as its connection sees it: without a process, before `pid_en_ejecucion = pid`, at its instructions
with or without an interrupt to attend, or with a `DEVOLVER_PROCESO` that was not read yet. -/
inductive FaseEnlace
  | libre
  | cargando (pid : Pid)
  | ejecutando (pid : Pid) (pendiente : Bool)
  | devuelto (pid : Pid) (motivo : Motivo)
deriving Repr, DecidableEq

/-- Where a process goes that is off its CPU: to the front of READY, to its end, out of reach of the planner,
or to Kernel Memory while its slot stays reserved. -/
inductive Destino
  | frente
  | final
  | fuera
  | memoria (cpuId : ℕ)
deriving Repr, DecidableEq

/-- `elegido` is the process that the planner took out of READY and has not sent, `porVerificar` are the
processes that were pushed without their check, and `enMano` those that a receptor thread handles. -/
structure DesalojoColas where
  k : KernelScheduler
  enlaces : Socket → FaseEnlace
  elegido : Option Pid
  porVerificar : List Pid
  enMano : List (Pid × Destino)

/-- `sigue` tells whether a syscall leaves the process in READY, and `vuelve` whether the one of memory
gives it back to its CPU. -/
inductive EventoCola
  | arribar (pid : Pid)
  | verificar (pid : Pid)
  | sacar
  | despachar (ahora : ℤ)
  | entregar (m : Envio)
  | asignar (socket : Socket)
  | devolver (socket : Socket) (motivo : Motivo)
  | retirar (cpuId : ℕ) (sigue : Bool)
  | atender (pid : Pid) (destino : Destino) (vuelve : Bool)
deriving Repr, DecidableEq

def Motivo.destino (cpuId : ℕ) (sigue : Bool) : Motivo → Destino
  | .desalojo | .desalojoCola => .frente
  | .quantum | .desconocido => .final
  | .exit | .error | .segfault => .fuera
  | .syscall (.memAlloc _) | .syscall (.memFree _) => .memoria cpuId
  | .syscall _ => if sigue then .final else .fuera

namespace DesalojoColas

variable (s : DesalojoColas)

def conEnlace (socket : Socket) (fase : FaseEnlace) : DesalojoColas :=
  { s with enlaces := Function.update s.enlaces socket fase }

/-- The push of an enqueue to the end of READY; its check is still to come. -/
def arribar (pid : Pid) : DesalojoColas :=
  match s.k.meterEnReady pid false with
  | none => s
  | some k => { s with k := k, porVerificar := s.porVerificar ++ [pid] }

/-- The planner finds a free CPU and a process. -/
def sacar : Option DesalojoColas :=
  if s.elegido.isNone ∧ hayCpuLibre s.k.cpus then
    match s.k.obtenerProximoProcesoReady with
    | (none, _) => none
    | (some pid, k) => some { s with k := k, elegido := some pid }
  else none

/-- `enviar_proceso_a_cpu` and what follows it. -/
def despachar (ahora : ℤ) : Option DesalojoColas :=
  s.elegido.map fun pid ↦
    match elegirCpu s.k.cpus pid with
    | (none, _) => { s with k := (s.k.devolverAReady pid).1, elegido := none }
    | (some cpu, cpus) =>
      let (quantum, rr) := s.k.config.quantumDeDespacho (s.k.pcbs pid).prioridad
      { s with k := { s.k with cpus := cpus }.ponerEnExec pid cpu ahora quantum rr, elegido := none }

/-- A message arrives. The CPU keeps an interrupt of the process that it executes and drops any other. -/
def entregar (m : Envio) : Option DesalojoColas :=
  let s₁ := { s with k := { s.k with enviados := s.k.enviados.erase m } }
  match m with
  | .ejecutarProceso socket pid =>
    if s.enlaces socket = .libre then some (s₁.conEnlace socket (.cargando pid)) else none
  | .interrupcion socket pid _ =>
    match s.enlaces socket with
    | .ejecutando actual _ => if actual = pid then some (s₁.conEnlace socket (.ejecutando pid true)) else some s₁
    | _ => some s₁

/-- `DEVOLVER_PROCESO`. A CPU returns a process as evicted only for an interrupt. -/
def devolver (socket : Socket) (motivo : Motivo) : Option DesalojoColas :=
  match s.enlaces socket with
  | .ejecutando pid pendiente =>
    if motivo = .desalojo ∨ motivo = .desalojoCola → pendiente then
      some (s.conEnlace socket (.devuelto pid motivo))
    else none
  | _ => none

/-- The receptor thread reads the message and takes the process off its slot. -/
def retirar (cpuId : ℕ) (sigue : Bool) : Option DesalojoColas :=
  match (buscarCpu s.k.cpus cpuId).bind TCpu.socket with
  | none => none
  | some socket =>
    match s.enlaces socket with
    | .devuelto _ motivo =>
      let (proceso, k) :=
        if motivo.EsSyscallMemoria then s.k.retirarProcesoReservando cpuId else s.k.retirarProceso cpuId
      let s₁ := s.conEnlace socket .libre
      match proceso with
      | none => some { s₁ with k := if motivo.EsSyscallMemoria then k.liberarReservada cpuId else k }
      | some pid => some { s₁ with k := k, enMano := s.enMano ++ [(pid, motivo.destino cpuId sigue)] }
    | _ => none

/-- The rest of the handler. -/
def atender (pid : Pid) (destino : Destino) (vuelve : Bool) : DesalojoColas :=
  let s₁ := { s with enMano := s.enMano.erase (pid, destino) }
  match destino with
  | .frente => { s₁ with k := (s.k.meterEnReady pid true).getD s.k }
  | .final => s₁.arribar pid
  | .fuera => s₁
  | .memoria cpuId =>
    if vuelve then
      match devolverProcesoAMismaCpu s.k.cpus cpuId pid with
      | (none, _) => s₁.arribar pid
      | (some socket, cpus) => { s₁ with k := { s.k with cpus := cpus }.enviarPid socket pid }
    else { s₁ with k := s.k.liberarReservada cpuId }

def paso : EventoCola → Option DesalojoColas
  | .arribar pid => some (s.arribar pid)
  | .verificar pid =>
    if pid ∈ s.porVerificar then
      some { s with
        k := s.k.verificarYDesalojarPorPrioridad pid
        porVerificar := s.porVerificar.erase pid }
    else none
  | .sacar => s.sacar
  | .despachar ahora => s.despachar ahora
  | .entregar m => if m ∈ s.k.enviados then s.entregar m else none
  | .asignar socket =>
    match s.enlaces socket with
    | .cargando pid => some (s.conEnlace socket (.ejecutando pid false))
    | _ => none
  | .devolver socket motivo => s.devolver socket motivo
  | .retirar cpuId sigue => s.retirar cpuId sigue
  | .atender pid destino vuelve =>
    if (pid, destino) ∈ s.enMano then some (s.atender pid destino vuelve) else none

/-- CMN with `QUEUE_PREEMPTION=TRUE`, any CPUs with ids and connections of their own, all free, and processes
whose priorities have a queue. -/
structure Arranque (s : DesalojoColas) : Prop where
  config : ∃ config : ConfigScheduler, ∃ pcbs cpus, config.planificationAlgorithm = .cmn ∧ 0 < config.cantidadColas ∧
    config.queuePreemption = true ∧ s.k = { KernelScheduler.inicial config with pcbs := pcbs, cpus := cpus }
  prioridades : ∀ pid, s.k.NivelValido (s.k.pcbs pid).prioridad
  ids : IdsDistintos s.k.cpus
  conexiones : (s.k.cpus.map TCpu.socket).Nodup
  libres : ∀ c ∈ s.k.cpus, c.Libre ∧ c.procesoActual = none
  enlaces : ∀ socket, s.enlaces socket = .libre
  elegido : s.elegido = none
  porVerificar : s.porVerificar = []
  enMano : s.enMano = []

/-! ## Quiescent states -/

end DesalojoColas

/-- The CPU is at its instructions or without a process, and has no interrupt to attend. -/
def FaseEnlace.Tranquila : FaseEnlace → Prop
  | .libre | .ejecutando _ false => True
  | _ => False

instance : DecidablePred FaseEnlace.Tranquila := fun f ↦ by
  unfold FaseEnlace.Tranquila
  split <;> infer_instance

def FaseEnlace.ejecutado : FaseEnlace → Option Pid
  | .ejecutando pid _ => some pid
  | _ => none

/-- The CPU will not go on with the process. -/
def FaseEnlace.Saliendo (pid : Pid) : FaseEnlace → Prop
  | .ejecutando actual pendiente => actual = pid ∧ pendiente = true
  | .devuelto .. => True
  | _ => False

instance (pid : Pid) : DecidablePred (FaseEnlace.Saliendo pid) := fun f ↦ by
  unfold FaseEnlace.Saliendo
  split <;> infer_instance

def Envio.Interrumpe (socket : Socket) (pid : Pid) : Envio → Prop
  | .interrupcion otro q _ => otro = socket ∧ q = pid
  | _ => False

instance (socket : Socket) (pid : Pid) : DecidablePred (Envio.Interrumpe socket pid) := fun m ↦ by
  unfold Envio.Interrumpe
  split <;> infer_instance

namespace DesalojoColas

variable (s : DesalojoColas)

def prioridad (pid : Pid) : ℤ := (s.k.pcbs pid).prioridad

/-- No message is on its way, no thread is in the middle of a handler, the planner has no process and no CPU
for one, and no CPU has an interrupt to attend. -/
def Quieta : Prop :=
  s.k.enviados = [] ∧ s.enMano = [] ∧ s.porVerificar = [] ∧ s.elegido = none ∧
    (hayCpuLibre s.k.cpus → s.k.enReady = []) ∧ ∀ c ∈ s.k.cpus, ∀ socket ∈ c.socket, (s.enlaces socket).Tranquila

instance : Decidable s.Quieta := inferInstanceAs (Decidable (_ ∧ _ ∧ _ ∧ _ ∧ _ ∧ _))

/-- No process in READY is more prioritary than one that a CPU executes. -/
def Cumplido : Prop :=
  ∀ pid ∈ s.k.enReady, ∀ c ∈ s.k.cpus, ∀ socket ∈ c.socket, ∀ actual ∈ (s.enlaces socket).ejecutado,
    ¬ s.prioridad pid < s.prioridad actual

instance : Decidable s.Cumplido :=
  inferInstanceAs (Decidable (∀ pid ∈ s.k.enReady, ∀ c ∈ s.k.cpus, ∀ socket ∈ c.socket,
    ∀ actual ∈ (s.enlaces socket).ejecutado, _))

/-- The CPU of the connection is about to be without the process: an interrupt for it is on its way or
pending, or the process is on its way back. -/
def Dejando (socket : Socket) (pid : Pid) : Prop :=
  (∃ m ∈ s.k.enviados, m.Interrumpe socket pid) ∨ (s.enlaces socket).Saliendo pid

instance (socket : Socket) (pid : Pid) : Decidable (s.Dejando socket pid) :=
  inferInstanceAs (Decidable ((∃ m ∈ s.k.enviados, _) ∨ _))

/-- The victim of each check is not about to leave its CPU already; no check finds the planner with a less
prioritary process in hand; the planner takes no process past a more prioritary one that was evicted and is
not in READY yet; no interrupt arrives before the CPU executes the process; and a memory syscall gives the
process back past no more prioritary one. -/
def EnOrden : EventoCola → Prop
  | .verificar pid => (∀ p ∈ s.elegido, s.prioridad p ≤ s.prioridad pid) ∧
      ∀ v ∈ cpuVictima s.k.pcbs s.k.cpus, s.prioridad pid < s.prioridad v.2 → ¬ s.Dejando v.1 v.2
  | .sacar => ∀ p ∈ s.k.obtenerProximoProcesoReady.1, ∀ d ∈ s.enMano, d.2 = .frente →
      s.prioridad p ≤ s.prioridad d.1
  | .entregar (.interrupcion socket pid _) =>
    s.enlaces socket ≠ .cargando pid ∧ .ejecutarProceso socket pid ∉ s.k.enviados
  | .atender pid (.memoria _) true => (∀ q ∈ s.k.enReady, s.prioridad pid ≤ s.prioridad q) ∧
      ∀ d ∈ s.enMano, d.2 = .frente → s.prioridad pid ≤ s.prioridad d.1
  | _ => True

instance : (e : EventoCola) → Decidable (s.EnOrden e)
  | .verificar _ => inferInstanceAs (Decidable ((∀ p ∈ s.elegido, _) ∧
      ∀ v ∈ cpuVictima s.k.pcbs s.k.cpus, _ → _))
  | .sacar => inferInstanceAs (Decidable (∀ p ∈ s.k.obtenerProximoProcesoReady.1, ∀ d ∈ s.enMano, _ → _))
  | .entregar (.interrupcion ..) => inferInstanceAs (Decidable (_ ∧ _))
  | .atender _ (.memoria _) true => inferInstanceAs (Decidable ((∀ q ∈ s.k.enReady, _) ∧ ∀ d ∈ s.enMano, _ → _))
  | .arribar _ | .despachar _ | .entregar (.ejecutarProceso ..) | .asignar _ | .devolver .. | .retirar .. =>
    .isTrue trivial
  | .atender _ (.memoria _) false | .atender _ .frente _ | .atender _ .final _ | .atender _ .fuera _ =>
    .isTrue trivial

end DesalojoColas

end PlugAndPlay.Planificador
