import Mathlib.Logic.Function.Basic
import PlugAndPlay.Library.ListModify
import PlugAndPlay.Library.Traces
import PlugAndPlay.Planificador.Suspensiones

/-!
# One process among the suspensions

What may happen to a process is a protocol: where its memory is, how far its IO has come, and whether the present
BLOCK has been suspended already. A state of the scheduler is a view for each process, a step of a thread changes the
view of one of them, and the situations that a process can be in are the states of the protocol together with where
the threads stand.
-/

open PlugAndPlay.Library

namespace PlugAndPlay.Planificador

/-! ## Protocol -/

/-- Where the segments are, as far as the scheduler has asked. -/
inductive LugarMemoria
  | enRam | volcando | enSwap | restaurando
deriving Repr, DecidableEq

/-- How far an IO is; over, it may leave something to be written. -/
inductive FaseIo
  | activo
  | pendiente (req : IoRequest)
  | terminada (porEscribir : Option StdinPendiente)
  | escribiendo
  | rechazada
  | finalizado
deriving Repr, DecidableEq

structure Protocolo where
  io : FaseIo
  lugar : LugarMemoria
  suspendido : Bool
deriving Repr, DecidableEq

/-- What an IO leaves to be written. -/
def porEscribir (req : IoRequest) (datos : List UInt8) : Option StdinPendiente :=
  if req.tipo = .stdin then some (Suspensiones.pendienteDe req datos) else none

namespace Protocolo

def inicio : Protocolo := ⟨.activo, .enRam, false⟩

/-- What may come next. A process is suspended at most once in a BLOCK, and only in RAM; it is asked back only from
the swap with its IO over; it is written and goes to READY only in RAM; a write that is refused ends it. -/
def avanza : Protocolo → Paso → Option Protocolo
  | ⟨.activo, .enRam, _⟩, .entra req => some ⟨.pendiente req, .enRam, false⟩
  | ⟨.pendiente req, lugar, suspendido⟩, .finIo req' datos =>
    if req = req' then some ⟨.terminada (porEscribir req datos), lugar, suspendido⟩ else none
  | ⟨.pendiente req, .enRam, false⟩, .suspender => some ⟨.pendiente req, .volcando, true⟩
  | ⟨.terminada resto, .enRam, false⟩, .suspender => some ⟨.terminada resto, .volcando, true⟩
  | ⟨io, .volcando, suspendido⟩, .suspendido => some ⟨io, .enSwap, suspendido⟩
  | ⟨.terminada resto, .enSwap, suspendido⟩, .desSuspender => some ⟨.terminada resto, .restaurando, suspendido⟩
  | ⟨io, .restaurando, suspendido⟩, .desSuspendido => some ⟨io, .enRam, suspendido⟩
  | ⟨io, .restaurando, suspendido⟩, .noDesSuspendido => some ⟨io, .enSwap, suspendido⟩
  | ⟨.terminada (some pendiente), .enRam, suspendido⟩, .escritura pendiente' =>
    if pendiente = pendiente' then some ⟨.escribiendo, .enRam, suspendido⟩ else none
  | ⟨.escribiendo, .enRam, suspendido⟩, .escrita => some ⟨.terminada none, .enRam, suspendido⟩
  | ⟨.escribiendo, .enRam, suspendido⟩, .noEscrita => some ⟨.rechazada, .enRam, suspendido⟩
  | ⟨.terminada none, .enRam, _⟩, .aReady => some inicio
  | ⟨.activo, .enRam, suspendido⟩, .finalizado => some ⟨.finalizado, .enRam, suspendido⟩
  | ⟨.rechazada, .enRam, suspendido⟩, .finalizado => some ⟨.finalizado, .enRam, suspendido⟩
  | _, _ => none

end Protocolo

/-! ## View of a process -/

/-- Where the planner is with a process. -/
inductive EtapaPmp
  | nada | pidiendo | aceptado | removido | escribiendo | aReady | rechazada
deriving Repr, DecidableEq

/-- The process the planner is at. -/
def FasePlanificador.enMano : FasePlanificador → Option (Pid × EtapaPmp)
  | .espera | .recorre _ => none
  | .pidiendo pid _ => some (pid, .pidiendo)
  | .aceptado pid _ => some (pid, .aceptado)
  | .removido pid _ => some (pid, .removido)
  | .escribiendo pid _ => some (pid, .escribiendo)
  | .aReady pid _ => some (pid, .aReady)
  | .rechazada pid _ => some (pid, .rechazada)

def FasePlanificador.etapa (fase : FasePlanificador) (pid : Pid) : EtapaPmp :=
  match fase.enMano with
  | none => .nada
  | some (actual, etapa) => if pid = actual then etapa else .nada

/-- The processes of the snapshot that the planner has not come to. -/
def FasePlanificador.candidatos : FasePlanificador → List Pid
  | .espera => []
  | .recorre resto => resto
  | .pidiendo _ resto | .aceptado _ resto | .removido _ resto | .escribiendo _ resto | .aReady _ resto
  | .rechazada _ resto => resto

/-- A thread between putting its process in SUSP_BLOCK and setting `suspendido_en_swap`. -/
def FaseTimer.enVuelo : FaseTimer → Bool
  | .marcado | .listado | .pidiendo | .respondido => true
  | .dormido | .porAvisar | .terminado => false

/-- What a timer contributes to the view of its process. -/
def FaseTimer.volcado (fase : FaseTimer) : List FaseTimer := if fase.enVuelo then [fase] else []

/-- The timers in the middle of a dump of the process. -/
def volcadosDe (pid : Pid) (timers : List HiloSuspension) : List FaseTimer :=
  (timers.filter fun t ↦ t.pid = pid && t.fase.enVuelo).map HiloSuspension.fase

/-- A process with the counts of it in the queues and the threads that are at it. -/
structure Vista where
  pcb : Pcb
  fase : FaseProceso
  enBlock : ℕ
  enLista : ℕ
  volcados : List FaseTimer
  etapa : EtapaPmp
  candidato : ℕ
  historia : List Paso
deriving Repr, DecidableEq

namespace Suspensiones

variable (s : Suspensiones)

def vista (pid : Pid) : Vista where
  pcb := s.pcbs pid
  fase := s.fases pid
  enBlock := s.colaProcesosBlock.count pid
  enLista := s.listaSuspendidos.count pid
  volcados := volcadosDe pid s.timers
  etapa := s.pmp.etapa pid
  candidato := s.pmp.candidatos.count pid
  historia := s.historia pid

/-! ## What a section does to the views -/

variable {s} {pid : Pid}

theorem vista_ext {s' : Suspensiones} {v : Vista} (hself : s'.vista pid = v)
    (hothers : ∀ other, other ≠ pid → s'.vista other = s.vista other) :
    s'.vista = Function.update s.vista pid v := by
  funext other
  by_cases hother : other = pid
  · rw [hother, Function.update_self, hself]
  · rw [Function.update_of_ne hother, hothers other hother]

theorem vista_modificarPcb (f : Pcb → Pcb) :
    (s.modificarPcb pid f).vista = Function.update s.vista pid { s.vista pid with pcb := f (s.vista pid).pcb } := by
  apply vista_ext
  · simp [vista, modificarPcb]
  · intro other hother
    simp [vista, modificarPcb, hother]

theorem vista_cambiarEstado (estado : Estado) :
    (s.cambiarEstado pid estado).vista =
      Function.update s.vista pid { s.vista pid with pcb := { (s.vista pid).pcb with estado := estado } } :=
  vista_modificarPcb _

theorem vista_conFase (fase : FaseProceso) :
    (s.conFase pid fase).vista = Function.update s.vista pid { s.vista pid with fase := fase } := by
  apply vista_ext
  · simp [vista, conFase]
  · intro other hother
    simp [vista, conFase, hother]

theorem vista_anotar (paso : Paso) :
    (s.anotar pid paso).vista =
      Function.update s.vista pid { s.vista pid with historia := (s.vista pid).historia ++ [paso] } := by
  apply vista_ext
  · simp [vista, anotar]
  · intro other hother
    simp [vista, anotar, hother]

theorem vista_contarEntrada :
    (s.contarEntrada pid).vista =
      Function.update s.vista pid
        { s.vista pid with pcb := { (s.vista pid).pcb with blockEpoch := (s.vista pid).pcb.blockEpoch + 1 } } :=
  vista_modificarPcb fun p ↦ { p with blockEpoch := p.blockEpoch + 1 }

/-- To the end of `cola_procesos_block`. -/
theorem vista_encolarBlock :
    { s with colaProcesosBlock := s.colaProcesosBlock ++ [pid] }.vista =
      Function.update s.vista pid { s.vista pid with enBlock := (s.vista pid).enBlock + 1 } := by
  apply vista_ext
  · simp [vista]
  · intro other hother
    simp [vista, List.count_append, Ne.symm hother]

theorem vista_sacarDeBlock :
    { s with colaProcesosBlock := s.colaProcesosBlock.erase pid }.vista =
      Function.update s.vista pid { s.vista pid with enBlock := (s.vista pid).enBlock - 1 } := by
  apply vista_ext
  · simp [vista]
  · intro other hother
    simp [vista, List.count_erase_of_ne hother]

/-- `agregar_a_lista_suspendidos`. -/
theorem vista_agregarALista :
    { s with listaSuspendidos := s.listaSuspendidos ++ [pid] }.vista =
      Function.update s.vista pid { s.vista pid with enLista := (s.vista pid).enLista + 1 } := by
  apply vista_ext
  · simp [vista]
  · intro other hother
    simp [vista, List.count_append, Ne.symm hother]

theorem vista_removerDeListaSuspendidos :
    (s.removerDeListaSuspendidos pid).vista =
      Function.update s.vista pid { s.vista pid with enLista := (s.vista pid).enLista - 1 } := by
  apply vista_ext
  · simp [vista, removerDeListaSuspendidos]
  · intro other hother
    simp [vista, removerDeListaSuspendidos, List.count_erase_of_ne hother]

/-- A timer that sleeps is not at its process yet. -/
theorem vista_notificarProcesoEnBlock (epoch : UInt32) (entrada : ℕ) (porIo : Bool) :
    (s.notificarProcesoEnBlock pid epoch entrada porIo).vista = s.vista := by
  unfold notificarProcesoEnBlock
  split
  · rfl
  · funext other
    simp [vista, volcadosDe, List.filter_append, FaseTimer.enVuelo]

/-! ## A step of a timer -/

theorem volcadosDe_cons (t : HiloSuspension) (timers : List HiloSuspension) :
    volcadosDe pid (t :: timers) = (if t.pid = pid then t.fase.volcado else []) ++ volcadosDe pid timers := by
  unfold volcadosDe FaseTimer.volcado
  by_cases hpid : t.pid = pid
  · cases hfase : t.fase.enVuelo <;> simp [hpid, hfase]
  · simp [hpid]

theorem volcadosDe_append (antes despues : List HiloSuspension) :
    volcadosDe pid (antes ++ despues) = volcadosDe pid antes ++ volcadosDe pid despues := by
  simp [volcadosDe]

variable {i : ℕ} {t : HiloSuspension}

/-- The only timer at its process goes on. -/
theorem vista_conTimer (ht : s.timers[i]? = some t) (h : (s.vista t.pid).volcados = t.fase.volcado) (fase : FaseTimer) :
    (s.conTimer i fase).vista = Function.update s.vista t.pid { s.vista t.pid with volcados := fase.volcado } := by
  obtain ⟨antes, despues, htimers, hmodify⟩ := ListModify.modify_split ht
  have hdespues : (s.conTimer i fase).timers = antes ++ { t with fase := fase } :: despues := hmodify _
  have hvista : ∀ other, (s.conTimer i fase).vista other =
      { s.vista other with volcados := volcadosDe other (s.conTimer i fase).timers } := fun _ ↦ rfl
  have hsolo : volcadosDe t.pid antes = [] ∧ volcadosDe t.pid despues = [] := by
    have hlargo : (volcadosDe t.pid s.timers).length = t.fase.volcado.length := congrArg List.length h
    rw [htimers, volcadosDe_append, volcadosDe_cons, if_pos rfl] at hlargo
    simp only [List.length_append] at hlargo
    constructor <;> apply List.eq_nil_of_length_eq_zero <;> omega
  apply vista_ext
  · rw [hvista, hdespues, volcadosDe_append, volcadosDe_cons, if_pos rfl, hsolo.1, hsolo.2, List.nil_append,
      List.append_nil]
  · intro other hother
    rw [hvista, hdespues, volcadosDe_append, volcadosDe_cons, if_neg (Ne.symm hother)]
    have hantes : (s.vista other).volcados = volcadosDe other antes ++ ([] ++ volcadosDe other despues) := by
      show volcadosDe other s.timers = _
      rw [htimers, volcadosDe_append, volcadosDe_cons, if_neg (Ne.symm hother)]
    rw [← hantes]

/-- A timer that is not at its process and does not come to it. -/
theorem vista_conTimer_of_volcado_eq (ht : s.timers[i]? = some t) {fase : FaseTimer}
    (h : t.fase.volcado = fase.volcado) : (s.conTimer i fase).vista = s.vista := by
  obtain ⟨antes, despues, htimers, hmodify⟩ := ListModify.modify_split ht
  have hdespues : (s.conTimer i fase).timers = antes ++ { t with fase := fase } :: despues := hmodify _
  funext other
  have hvolcados : volcadosDe other (s.conTimer i fase).timers = volcadosDe other s.timers := by
    rw [hdespues, htimers, volcadosDe_append, volcadosDe_append, volcadosDe_cons, volcadosDe_cons, h]
  calc (s.conTimer i fase).vista other
      = { s.vista other with volcados := volcadosDe other (s.conTimer i fase).timers } := rfl
    _ = s.vista other := by rw [hvolcados]; rfl

theorem mem_volcados (ht : s.timers[i]? = some t) (h : t.fase.enVuelo) : t.fase ∈ (s.vista t.pid).volcados := by
  apply List.mem_map_of_mem
  apply List.mem_filter.mpr
  exact ⟨List.mem_of_getElem? ht, by simp [h]⟩

/-! ## A step of the planner -/

theorem etapa_of_enMano {fase : FasePlanificador} {etapa : EtapaPmp} (h : fase.enMano = some (pid, etapa)) (other : Pid) :
    fase.etapa other = if other = pid then etapa else .nada := by
  unfold FasePlanificador.etapa
  rw [h]

/-- The planner goes on with the process it is at. -/
theorem vista_conPmp (fase : FasePlanificador) {antes etapa : EtapaPmp} (hpmp : s.pmp.enMano = some (pid, antes))
    (hfase : fase.enMano = some (pid, etapa)) (hresto : fase.candidatos = s.pmp.candidatos) :
    (s.conPmp fase).vista = Function.update s.vista pid { s.vista pid with etapa := etapa } := by
  apply vista_ext
  · simp only [vista, conPmp, hresto, etapa_of_enMano hfase, if_true]
  · intro other hother
    simp only [vista, conPmp, hresto, etapa_of_enMano hfase, etapa_of_enMano hpmp, if_neg hother]

/-- The planner is through with a process. -/
theorem vista_conPmp_recorre {antes : EtapaPmp} (hpmp : s.pmp.enMano = some (pid, antes)) :
    (s.conPmp (.recorre s.pmp.candidatos)).vista =
      Function.update s.vista pid { s.vista pid with etapa := .nada } := by
  apply vista_ext
  · rfl
  · intro other hother
    simp only [vista, conPmp, etapa_of_enMano hpmp, if_neg hother]
    rfl

/-- The planner comes to the next process of its snapshot. -/
theorem vista_conPmp_pidiendo {resto : List Pid} (hpmp : s.pmp = .recorre (pid :: resto)) :
    (s.conPmp (.pidiendo pid resto)).vista = Function.update s.vista pid
      { s.vista pid with etapa := .pidiendo, candidato := (s.vista pid).candidato - 1 } := by
  have hfase : (FasePlanificador.pidiendo pid resto).enMano = some (pid, .pidiendo) := rfl
  apply vista_ext
  · simp [vista, conPmp, hpmp, etapa_of_enMano hfase, FasePlanificador.candidatos]
  · intro other hother
    simp [vista, conPmp, hpmp, hother, FasePlanificador.candidatos, FasePlanificador.etapa, FasePlanificador.enMano, Ne.symm hother]

end Suspensiones

/-! ## Situations -/

/-- A dump and the list of the suspended, for a process in `cola_procesos_block`, with what the protocol has of it. -/
inductive Volcado : Estado → Bool → ℕ → List FaseTimer → LugarMemoria → Bool → Prop
  | sin {enSwap : Bool} : Volcado .block enSwap 0 [] .enRam false
  | marcado : Volcado .suspBlock false 0 [.marcado] .enRam false
  | listado : Volcado .suspBlock false 1 [.listado] .enRam false
  | pidiendo : Volcado .suspBlock false 1 [.pidiendo] .volcando true
  | respondido : Volcado .suspBlock false 1 [.respondido] .enSwap true
  | hecho : Volcado .suspBlock true 1 [] .enSwap true

/-- The planner with a process that is in SUSP_READY. -/
inductive EnPmp : Option StdinPendiente → ℕ → EtapaPmp → ℕ → FaseIo → LugarMemoria → Prop
  | espera {resto : Option StdinPendiente} {candidato : ℕ} :
      candidato ≤ 1 → EnPmp resto 1 .nada candidato (.terminada resto) .enSwap
  | pidiendo {resto : Option StdinPendiente} : EnPmp resto 1 .pidiendo 0 (.terminada resto) .restaurando
  | aceptado {resto : Option StdinPendiente} : EnPmp resto 1 .aceptado 0 (.terminada resto) .enRam
  | removido {resto : Option StdinPendiente} : EnPmp resto 0 .removido 0 (.terminada resto) .enRam
  | escribiendo {pendiente : StdinPendiente} : EnPmp (some pendiente) 0 .escribiendo 0 .escribiendo .enRam
  | aReady : EnPmp none 0 .aReady 0 (.terminada none) .enRam
  | rechazada : EnPmp none 0 .rechazada 0 .rechazada .enRam

/-- A process in `cola_procesos_block`: where the thread is that has it, and its IO. -/
inductive EnBlock : FaseProceso → FaseIo → Prop
  | bloqueado (req : IoRequest) (epoch : UInt32) (entrada : ℕ) :
      EnBlock (.bloqueado req epoch entrada) (.pendiente req)
  | encolar (req : IoRequest) : EnBlock (.encolar req) (.pendiente req)
  | enInterfaz (req : IoRequest) : EnBlock (.enInterfaz req) (.pendiente req)
  | terminada (req : IoRequest) (datos : List UInt8) :
      EnBlock (.terminada req datos) (.terminada (porEscribir req datos))

/-- A process in BLOCK that is out of the queue, with its IO over and never suspended since. -/
inductive EnRam : FaseProceso → FaseIo → Prop
  | extraida (req : IoRequest) (datos : List UInt8) :
      EnRam (.extraida req datos) (.terminada (porEscribir req datos))
  | escribir (pendiente : StdinPendiente) : EnRam (.escribir pendiente) (.terminada (some pendiente))
  | escribiendo (pendiente : StdinPendiente) : EnRam (.escribiendo pendiente) .escribiendo
  | aReady : EnRam .aReady (.terminada none)
  | rechazada : EnRam .rechazada .rechazada

/-- Where a process can be, with the state of the protocol there. -/
inductive Situacion : Vista → Protocolo → Prop
  | planificado {p : Pcb} {historia : List Paso} : p.estado ≠ .suspBlock → p.estado ≠ .suspReady →
      p.stdinPendiente = none → Situacion ⟨p, .planificado, 0, 0, [], .nada, 0, historia⟩ .inicio
  | pedir {p : Pcb} {historia : List Paso} {req : IoRequest} : p.estado = .block → p.stdinPendiente = none →
      Situacion ⟨p, .pedir req, 0, 0, [], .nada, 0, historia⟩ .inicio
  | enBlock {p : Pcb} {historia : List Paso} {fase : FaseProceso} {enLista : ℕ} {volcados : List FaseTimer}
      {io : FaseIo} {lugar : LugarMemoria} {suspendido : Bool} : EnBlock fase io →
      Volcado p.estado p.suspendidoEnSwap enLista volcados lugar suspendido → p.stdinPendiente = none →
      Situacion ⟨p, fase, 1, enLista, volcados, .nada, 0, historia⟩ ⟨io, lugar, suspendido⟩
  | enRam {p : Pcb} {historia : List Paso} {fase : FaseProceso} {io : FaseIo} : EnRam fase io →
      p.estado = .block → p.stdinPendiente = none →
      Situacion ⟨p, fase, 0, 0, [], .nada, 0, historia⟩ ⟨io, .enRam, false⟩
  | extraida {p : Pcb} {historia : List Paso} {req : IoRequest} {datos : List UInt8} : p.estado = .suspBlock →
      p.stdinPendiente = none →
      Situacion ⟨p, .extraida req datos, 0, 1, [], .nada, 0, historia⟩
        ⟨.terminada (porEscribir req datos), .enSwap, true⟩
  | diferida {p : Pcb} {historia : List Paso} {pendiente : StdinPendiente} : p.estado = .suspBlock →
      p.stdinPendiente = some pendiente →
      Situacion ⟨p, .diferida, 0, 1, [], .nada, 0, historia⟩ ⟨.terminada (some pendiente), .enSwap, true⟩
  | suspReady {p : Pcb} {historia : List Paso} {enLista candidato : ℕ} {etapa : EtapaPmp} {io : FaseIo}
      {lugar : LugarMemoria} : p.estado = .suspReady → EnPmp p.stdinPendiente enLista etapa candidato io lugar →
      Situacion ⟨p, .suspReady, 0, enLista, [], etapa, candidato, historia⟩ ⟨io, lugar, true⟩
  | fuera {p : Pcb} {historia : List Paso} {suspendido : Bool} : p.estado = .exitState → p.stdinPendiente = none →
      Situacion ⟨p, .fuera, 0, 0, [], .nada, 0, historia⟩ ⟨.finalizado, .enRam, suspendido⟩

/-- The history is one of the protocol, and the process is where the protocol is. -/
def Vista.Bien (v : Vista) : Prop :=
  ∃ a, Traces.follow Protocolo.avanza .inicio v.historia = some a ∧ Situacion v a

/-! ## A dump, phase by phase -/

section Volcado

variable {estado : Estado} {enSwap : Bool} {enLista : ℕ} {volcados : List FaseTimer} {lugar : LugarMemoria}
  {suspendido : Bool}

/-- No two timers are at one process. -/
theorem Volcado.solo (h : Volcado estado enSwap enLista volcados lugar suspendido) {fase : FaseTimer}
    (hfase : fase ∈ volcados) : volcados = fase.volcado := by
  cases h with
  | sin | hecho => cases hfase
  | marcado | listado | pidiendo | respondido =>
    obtain rfl := List.mem_singleton.mp hfase
    rfl

/-- No timer is at a process in BLOCK. -/
theorem Volcado.nadie (h : Volcado .block enSwap enLista volcados lugar suspendido) : volcados = [] := by
  cases h
  rfl

theorem Volcado.sinMarcar (h : Volcado estado enSwap enLista volcados lugar suspendido)
    (hestado : estado ≠ .suspBlock) : lugar = .enRam ∧ enLista = 0 := by
  cases h with
  | sin => exact ⟨rfl, rfl⟩
  | marcado | listado | pidiendo | respondido | hecho => exact absurd rfl hestado

/-- A timer at a process has it in SUSP_BLOCK with `suspendido_en_swap` unset. -/
theorem Volcado.marcado_of_mem (h : Volcado estado enSwap enLista volcados lugar suspendido) {fase : FaseTimer}
    (hfase : fase ∈ volcados) : estado = .suspBlock ∧ enSwap = false := by
  cases h with
  | sin | hecho => cases hfase
  | marcado | listado | pidiendo | respondido => exact ⟨rfl, rfl⟩

/-- Where `suspendido_en_swap` is unset in SUSP_BLOCK a timer will set it. -/
theorem Volcado.exists_timer (h : Volcado .suspBlock false enLista volcados lugar suspendido) :
    ∃ fase, fase ∈ volcados := by
  cases h <;> exact ⟨_, List.mem_singleton.mpr rfl⟩

theorem Volcado.not_suspReady (h : Volcado estado enSwap enLista volcados lugar suspendido) : estado ≠ .suspReady := by
  cases h <;> exact Estado.noConfusion

theorem Volcado.marcar (h : Volcado .block enSwap enLista volcados lugar suspendido) :
    Volcado .suspBlock false enLista FaseTimer.marcado.volcado lugar suspendido := by
  cases h
  exact .marcado

theorem Volcado.listar (h : Volcado estado enSwap enLista [.marcado] lugar suspendido) :
    Volcado estado enSwap (enLista + 1) FaseTimer.listado.volcado lugar suspendido := by
  cases h
  exact .listado

/-- The request goes out for a process in RAM that was not suspended before. -/
theorem Volcado.pedir (h : Volcado estado enSwap enLista [.listado] lugar suspendido) :
    lugar = .enRam ∧ suspendido = false ∧
      Volcado estado enSwap enLista FaseTimer.pidiendo.volcado .volcando true := by
  cases h
  exact ⟨rfl, rfl, .pidiendo⟩

theorem Volcado.responder (h : Volcado estado enSwap enLista [.pidiendo] lugar suspendido) :
    lugar = .volcando ∧ Volcado estado enSwap enLista FaseTimer.respondido.volcado .enSwap suspendido := by
  cases h
  exact ⟨rfl, .respondido⟩

theorem Volcado.soltar (h : Volcado estado enSwap enLista [.respondido] lugar suspendido) :
    Volcado estado true enLista FaseTimer.porAvisar.volcado lugar suspendido := by
  cases h
  exact .hecho

end Volcado

theorem EnBlock.suspender {fase : FaseProceso} {io : FaseIo} (h : EnBlock fase io) :
    Protocolo.avanza ⟨io, .enRam, false⟩ .suspender = some ⟨io, .volcando, true⟩ := by
  cases h <;> rfl

theorem EnBlock.suspendido {fase : FaseProceso} {io : FaseIo} (h : EnBlock fase io) (suspendido : Bool) :
    Protocolo.avanza ⟨io, .volcando, suspendido⟩ .suspendido = some ⟨io, .enSwap, suspendido⟩ := by
  cases h <;> rfl

/-- A process of `cola_procesos_block`. -/
structure Vista.EnCola (v : Vista) (io : FaseIo) (lugar : LugarMemoria) (suspendido : Bool) : Prop where
  sigue : Traces.follow Protocolo.avanza .inicio v.historia = some ⟨io, lugar, suspendido⟩
  hilo : EnBlock v.fase io
  volcado : Volcado v.pcb.estado v.pcb.suspendidoEnSwap v.enLista v.volcados lugar suspendido
  pendiente : v.pcb.stdinPendiente = none
  cuenta : v.enBlock = 1
  pmp : v.etapa = .nada ∧ v.candidato = 0

namespace Vista

variable {v : Vista}

theorem EnCola.bien {io : FaseIo} {lugar : LugarMemoria} {suspendido : Bool} (h : v.EnCola io lugar suspendido) :
    v.Bien := by
  obtain ⟨p, fase, enBlock, enLista, volcados, etapa, candidato, historia⟩ := v
  obtain ⟨hsigue, hhilo, hvolcado, hpendiente, hcuenta, hetapa, hcandidato⟩ := h
  cases hcuenta
  cases hetapa
  cases hcandidato
  exact ⟨_, hsigue, .enBlock hhilo hvolcado hpendiente⟩

theorem Bien.enCola (h : v.Bien) (hcuenta : 1 ≤ v.enBlock) : ∃ io lugar suspendido, v.EnCola io lugar suspendido := by
  obtain ⟨a, ha, hsituacion⟩ := h
  cases hsituacion with
  | enBlock hen hvolcado hpendiente => exact ⟨_, _, _, ha, hen, hvolcado, hpendiente, rfl, rfl, rfl⟩
  | planificado | pedir | enRam | extraida | diferida | suspReady | fuera => exact absurd hcuenta (Nat.not_succ_le_zero 0)

/-- The process of a dump is in the queue. -/
theorem Bien.enCola_of_volcado (h : v.Bien) {fase : FaseTimer} (hfase : fase ∈ v.volcados) :
    ∃ io lugar suspendido, v.EnCola io lugar suspendido := by
  obtain ⟨a, ha, hsituacion⟩ := h
  cases hsituacion with
  | enBlock hen hvolcado hpendiente => exact ⟨_, _, _, ha, hen, hvolcado, hpendiente, rfl, rfl, rfl⟩
  | planificado | pedir | enRam | extraida | diferida | suspReady | fuera => exact absurd hfase List.not_mem_nil

end Vista

/-! ## The planner, phase by phase -/

section EnPmp

variable {resto : Option StdinPendiente} {enLista candidato : ℕ} {io : FaseIo} {lugar : LugarMemoria}

/-- Only a process in the swap with its IO over is asked back. -/
theorem EnPmp.pedir (h : EnPmp resto enLista .nada candidato io lugar) (hcandidato : 1 ≤ candidato) :
    Protocolo.avanza ⟨io, lugar, true⟩ .desSuspender = some ⟨io, .restaurando, true⟩ ∧
      EnPmp resto enLista .pidiendo (candidato - 1) io .restaurando := by
  cases h with
  | espera hle =>
    obtain rfl : candidato = 1 := Nat.le_antisymm hle hcandidato
    exact ⟨rfl, .pidiendo⟩

theorem EnPmp.enLista_eq (h : EnPmp resto enLista .nada candidato io lugar) : enLista = 1 := by
  cases h
  rfl

theorem EnPmp.aceptar (h : EnPmp resto enLista .pidiendo candidato io lugar) :
    Protocolo.avanza ⟨io, lugar, true⟩ .desSuspendido = some ⟨io, .enRam, true⟩ ∧
      EnPmp resto enLista .aceptado candidato io .enRam := by
  cases h
  exact ⟨rfl, .aceptado⟩

theorem EnPmp.rechazar (h : EnPmp resto enLista .pidiendo candidato io lugar) :
    Protocolo.avanza ⟨io, lugar, true⟩ .noDesSuspendido = some ⟨io, .enSwap, true⟩ ∧
      EnPmp resto enLista .nada candidato io .enSwap := by
  cases h
  exact ⟨rfl, .espera (Nat.zero_le 1)⟩

theorem EnPmp.remover (h : EnPmp resto enLista .aceptado candidato io lugar) :
    EnPmp resto (enLista - 1) .removido candidato io lugar := by
  cases h
  exact .removido

theorem EnPmp.sinEscribir (h : EnPmp none enLista .removido candidato io lugar) :
    EnPmp none enLista .aReady candidato io lugar := by
  cases h
  exact .aReady

/-- What STDIN left is written in RAM. -/
theorem EnPmp.escribir {pendiente : StdinPendiente} (h : EnPmp (some pendiente) enLista .removido candidato io lugar) :
    Protocolo.avanza ⟨io, lugar, true⟩ (.escritura pendiente) = some ⟨.escribiendo, lugar, true⟩ ∧
      EnPmp (some pendiente) enLista .escribiendo candidato .escribiendo lugar := by
  cases h
  exact ⟨by simp [Protocolo.avanza], .escribiendo⟩

theorem EnPmp.escrita (h : EnPmp resto enLista .escribiendo candidato io lugar) :
    Protocolo.avanza ⟨io, lugar, true⟩ .escrita = some ⟨.terminada none, lugar, true⟩ ∧
      EnPmp none enLista .aReady candidato (.terminada none) lugar := by
  cases h
  exact ⟨rfl, .aReady⟩

theorem EnPmp.noEscrita (h : EnPmp resto enLista .escribiendo candidato io lugar) :
    Protocolo.avanza ⟨io, lugar, true⟩ .noEscrita = some ⟨.rechazada, lugar, true⟩ ∧
      EnPmp none enLista .rechazada candidato .rechazada lugar := by
  cases h
  exact ⟨rfl, .rechazada⟩

end EnPmp

/-- A process in SUSP_READY. -/
structure Vista.EnSuspReady (v : Vista) (io : FaseIo) (lugar : LugarMemoria) : Prop where
  sigue : Traces.follow Protocolo.avanza .inicio v.historia = some ⟨io, lugar, true⟩
  estado : v.pcb.estado = .suspReady
  hilo : v.fase = .suspReady
  pmp : EnPmp v.pcb.stdinPendiente v.enLista v.etapa v.candidato io lugar
  cuenta : v.enBlock = 0
  volcados : v.volcados = []

namespace Vista

variable {v : Vista} {io : FaseIo} {lugar : LugarMemoria}

theorem EnSuspReady.bien (h : v.EnSuspReady io lugar) : v.Bien := by
  obtain ⟨p, fase, enBlock, enLista, volcados, etapa, candidato, historia⟩ := v
  obtain ⟨hsigue, hestado, hhilo, hpmp, hcuenta, hvolcados⟩ := h
  cases hhilo
  cases hcuenta
  cases hvolcados
  exact ⟨_, hsigue, .suspReady hestado hpmp⟩

/-- The planner is only at processes in SUSP_READY. -/
theorem Bien.enSuspReady (h : v.Bien) (hpmp : v.etapa ≠ .nada ∨ 1 ≤ v.candidato) :
    ∃ io lugar, v.EnSuspReady io lugar := by
  obtain ⟨a, ha, hsituacion⟩ := h
  cases hsituacion with
  | suspReady hestado hen => exact ⟨_, _, ha, hestado, rfl, hen, rfl, rfl⟩
  | planificado | pedir | enBlock | enRam | extraida | diferida | fuera => simp at hpmp

theorem Bien.not_perdida (h : v.Bien) : v.fase ≠ .perdida := by
  obtain ⟨a, ha, hsituacion⟩ := h
  cases hsituacion with
  | enBlock hen | enRam hen => cases hen <;> exact FaseProceso.noConfusion
  | planificado | pedir | extraida | diferida | suspReady | fuera => exact FaseProceso.noConfusion

theorem Bien.enSuspReady_of_estado (h : v.Bien) (hestado : v.pcb.estado = .suspReady) :
    ∃ io lugar, v.EnSuspReady io lugar := by
  obtain ⟨a, ha, hsituacion⟩ := h
  cases hsituacion with
  | suspReady hestado hen => exact ⟨_, _, ha, hestado, rfl, hen, rfl, rfl⟩
  | planificado _ hno => exact absurd hestado hno
  | enBlock _ hvolcado => exact absurd hestado hvolcado.not_suspReady
  | pedir h | enRam _ h | extraida h | diferida h | fuera h => cases h.symm.trans hestado

/-- Back in RAM with nothing to be written. -/
theorem EnSuspReady.aReady (h : v.EnSuspReady io lugar) (hetapa : v.etapa = .aReady) :
    ({ v with
        pcb := { v.pcb with estado := .ready }
        fase := .planificado
        etapa := .nada
        historia := v.historia ++ [.aReady] } : Vista).Bien := by
  obtain ⟨p, fase, enBlock, enLista, volcados, etapa, candidato, historia⟩ := v
  obtain ⟨hsigue, hestado, hhilo, hpmp, hcuenta, hvolcados⟩ := h
  cases hetapa
  cases hcuenta
  cases hvolcados
  dsimp only at hpmp hsigue
  generalize hresto : p.stdinPendiente = resto at hpmp
  cases hpmp
  refine ⟨.inicio, (Traces.follow_concat hsigue _).trans rfl, ?_⟩
  exact .planificado Estado.noConfusion Estado.noConfusion hresto

/-- Back in RAM, with a write that was refused. -/
theorem EnSuspReady.rechazada (h : v.EnSuspReady io lugar) (hetapa : v.etapa = .rechazada) :
    ({ v with
        pcb := { v.pcb with estado := .exitState, stdinPendiente := none }
        fase := .fuera
        enLista := v.enLista - 1
        etapa := .nada
        historia := v.historia ++ [.finalizado] } : Vista).Bien := by
  obtain ⟨p, fase, enBlock, enLista, volcados, etapa, candidato, historia⟩ := v
  obtain ⟨hsigue, hestado, hhilo, hpmp, hcuenta, hvolcados⟩ := h
  cases hetapa
  cases hcuenta
  cases hvolcados
  dsimp only at hpmp hsigue
  generalize hresto : p.stdinPendiente = resto at hpmp
  cases hpmp
  exact ⟨_, (Traces.follow_concat hsigue _).trans rfl, .fuera rfl rfl⟩

/-- A process that the rest of the scheduler has. -/
structure EnPlanificacion (v : Vista) : Prop where
  sigue : Traces.follow Protocolo.avanza .inicio v.historia = some .inicio
  estado : v.pcb.estado ≠ .suspBlock ∧ v.pcb.estado ≠ .suspReady
  pendiente : v.pcb.stdinPendiente = none
  hilo : v.fase = .planificado
  colas : v.enBlock = 0 ∧ v.enLista = 0 ∧ v.volcados = []
  pmp : v.etapa = .nada ∧ v.candidato = 0

theorem Bien.enPlanificacion (h : v.Bien) (hfase : v.fase = .planificado) : v.EnPlanificacion := by
  obtain ⟨a, ha, hsituacion⟩ := h
  cases hsituacion with
  | planificado hblock hready hpendiente => exact ⟨ha, ⟨hblock, hready⟩, hpendiente, rfl, ⟨rfl, rfl, rfl⟩, rfl, rfl⟩
  | enBlock hen | enRam hen => cases hen <;> cases hfase
  | pedir | extraida | diferida | suspReady | fuera => cases hfase

theorem EnPlanificacion.bien (h : v.EnPlanificacion) : v.Bien := by
  obtain ⟨p, fase, enBlock, enLista, volcados, etapa, candidato, historia⟩ := v
  obtain ⟨hsigue, ⟨hblock, hready⟩, hpendiente, hhilo, ⟨henBlock, henLista, hvolcados⟩, hetapa, hcandidato⟩ := h
  cases hhilo
  cases henBlock
  cases henLista
  cases hvolcados
  cases hetapa
  cases hcandidato
  exact ⟨_, hsigue, .planificado hblock hready hpendiente⟩

theorem EnPlanificacion.pedir (h : v.EnPlanificacion) (req : IoRequest) :
    ({ v with pcb := { v.pcb with estado := .block }, fase := .pedir req } : Vista).Bien := by
  obtain ⟨p, fase, enBlock, enLista, volcados, etapa, candidato, historia⟩ := v
  obtain ⟨hsigue, hestado, hpendiente, hhilo, ⟨henBlock, henLista, hvolcados⟩, hetapa, hcandidato⟩ := h
  cases henBlock
  cases henLista
  cases hvolcados
  cases hetapa
  cases hcandidato
  exact ⟨_, hsigue, .pedir rfl hpendiente⟩

theorem EnPlanificacion.terminar (h : v.EnPlanificacion) :
    ({ v with
        pcb := { v.pcb with estado := .exitState }
        fase := .fuera
        historia := v.historia ++ [.finalizado] } : Vista).Bien := by
  obtain ⟨p, fase, enBlock, enLista, volcados, etapa, candidato, historia⟩ := v
  obtain ⟨hsigue, hestado, hpendiente, hhilo, ⟨henBlock, henLista, hvolcados⟩, hetapa, hcandidato⟩ := h
  cases henBlock
  cases henLista
  cases hvolcados
  cases hetapa
  cases hcandidato
  exact ⟨_, (Traces.follow_concat hsigue _).trans rfl, .fuera rfl hpendiente⟩

/-- The epoch of a process is no part of its situation. -/
theorem Bien.contar (h : v.Bien) (blockEpoch : UInt32) :
    ({ v with pcb := { v.pcb with blockEpoch := blockEpoch } } : Vista).Bien := by
  obtain ⟨a, ha, hsituacion⟩ := h
  refine ⟨a, ha, ?_⟩
  cases hsituacion with
  | planificado hblock hready hpendiente => exact .planificado hblock hready hpendiente
  | pedir hestado hpendiente => exact .pedir hestado hpendiente
  | enBlock hen hvolcado hpendiente => exact .enBlock hen hvolcado hpendiente
  | enRam hen hestado hpendiente => exact .enRam hen hestado hpendiente
  | extraida hestado hpendiente => exact .extraida hestado hpendiente
  | diferida hestado hpendiente => exact .diferida hestado hpendiente
  | suspReady hestado hpmp => exact .suspReady hestado hpmp
  | fuera hestado hpendiente => exact .fuera hestado hpendiente

/-- A snapshot of the list while the planner is at none of them. -/
theorem Bien.foto (h : v.Bien) (hetapa : v.etapa = .nada) {candidato : ℕ}
    (hcandidato : candidato = if v.pcb.estado = .suspReady then v.enLista else 0) :
    ({ v with candidato := candidato } : Vista).Bien := by
  by_cases hestado : v.pcb.estado = .suspReady
  · obtain ⟨io, lugar, hen⟩ := h.enSuspReady_of_estado hestado
    have hpmp := hen.pmp
    rw [if_pos hestado] at hcandidato
    rw [hetapa] at hpmp
    have hfoto : ({ v with candidato := candidato } : Vista).EnSuspReady io lugar → Vista.Bien _ := EnSuspReady.bien
    refine hfoto { hen with pmp := ?_ }
    show EnPmp v.pcb.stdinPendiente v.enLista v.etapa candidato io lugar
    rw [hetapa, hcandidato]
    generalize v.enLista = enLista at hpmp ⊢
    generalize v.pcb.stdinPendiente = resto at hpmp ⊢
    cases hpmp
    exact .espera (Nat.le_refl 1)
  · rw [if_neg hestado] at hcandidato
    have hcero : v.candidato = 0 := by
      by_contra hno
      obtain ⟨io, lugar, hen⟩ := h.enSuspReady (.inr (Nat.one_le_iff_ne_zero.mpr hno))
      exact hestado hen.estado
    rw [hcandidato, ← hcero]
    exact h

end Vista

end PlugAndPlay.Planificador
