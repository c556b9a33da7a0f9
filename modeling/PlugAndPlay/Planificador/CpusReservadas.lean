import Mathlib.Data.List.Nodup
import PlugAndPlay.Planificador.HilosConservan
import PlugAndPlay.Planificador.LiberarMutexes

/-!
# Reserved CPUs

`MEM_ALLOC` and `MEM_FREE` keep the slot of their CPU while Kernel Memory answers: no process and not
available. The handler of such a syscall is two steps here, the section that takes the process off the slot and
the rest up to its end, with anything that other threads do in between. The receiver of a CPU reads nothing
while its handler runs. A handler that ends its process releases its mutexes first, and where somebody waits for
one of them it stops there for ever, with the slot reserved.
-/

open PlugAndPlay.Library

namespace PlugAndPlay.Planificador

open KernelScheduler

/-- The third state of a slot: nobody is on it and nobody may be sent to it. -/
def TCpu.Reservada (c : TCpu) : Prop := c.socket.isSome ∧ c.disponible = false ∧ c.procesoActual = none

/-! ## Runs -/

/-- The handler of a memory syscall after its first section; `detenido` when it stopped at the list of
mutexes. -/
structure Manejo where
  receptor : Receptor
  pedido : Syscall
  proceso : Option Pid
  detenido : Bool
deriving Repr, DecidableEq

structure Reservas where
  k : KernelScheduler
  enCurso : List Manejo

inductive EventoReserva
  | otro (e : Evento)
  | recibir (r : Receptor) (pedido : Syscall)
  | terminar (m : Manejo) (respuesta : RespuestaMemoria)
deriving Repr, DecidableEq

/-- The receiver that a step belongs to. -/
def Evento.receptor? : Evento → Option Receptor
  | .devolverProceso r .. | .desconectarCpu r => some r
  | _ => none

/-- Memory syscalls are not one step here. -/
def Evento.EsSyscallMemoria : Evento → Prop
  | .devolverProceso _ motivo _ _ => motivo.EsSyscallMemoria
  | _ => False

instance : DecidablePred Evento.EsSyscallMemoria := fun e ↦ by
  unfold Evento.EsSyscallMemoria
  split <;> infer_instance

/-- A memory syscall that ends its process: it lacks parameters, or `MEM_ALLOC` is refused or not answered. -/
def Syscall.Finaliza (respuesta : RespuestaMemoria) : Syscall → Prop
  | .memAlloc none | .memFree none => True
  | .memAlloc (some _) => respuesta ≠ .ok
  | _ => False

namespace Reservas

variable (s : Reservas)

/-- The thread of the receiver is in a handler. -/
def Ocupado (r : Receptor) : Prop := ∃ m ∈ s.enCurso, m.receptor = r

instance (r : Receptor) : Decidable (s.Ocupado r) := inferInstanceAs (Decidable (∃ m ∈ s.enCurso, _))

/-- `DEVOLVER_PROCESO` with a memory syscall, up to `retirar_proceso_de_cpu_reservando`. -/
def recibir (r : Receptor) (pedido : Syscall) : Reservas :=
  let (proceso, k) := s.k.retirarProcesoReservando r.cpuId
  ⟨k, s.enCurso ++ [⟨r, pedido, proceso, false⟩]⟩

/-- The rest of the handler. -/
def terminar (m : Manejo) (respuesta : RespuestaMemoria) : Reservas :=
  match m.proceso with
  | none => ⟨s.k.liberarReservada m.receptor.cpuId, s.enCurso.erase m⟩
  | some pid =>
    match manejarSyscallIo pid m.pedido m.receptor.cpuId respuesta false s.k with
    | .ok _ k => ⟨k, s.enCurso.erase m⟩
    | .error _ k => ⟨k, s.enCurso.erase m ++ [{ m with detenido := true }]⟩

def paso : EventoReserva → Option Reservas
  | .otro e =>
    if ¬ e.EsSyscallMemoria ∧ ∀ r ∈ e.receptor?, ¬ s.Ocupado r then
      (Planificador.paso s.k e).map fun k ↦ { s with k := k }
    else none
  | .recibir r pedido =>
    if r ∈ s.k.receptores ∧ ¬ s.Ocupado r ∧ (Motivo.syscall pedido).EsSyscallMemoria then
      some (s.recibir r pedido)
    else none
  | .terminar m respuesta =>
    if m ∈ s.enCurso ∧ m.detenido = false then some (s.terminar m respuesta) else none

/-- The first process has not been created. -/
def Arranque (s : Reservas) : Prop := Planificador.Arranque s.k ∧ s.enCurso = []

/-- A CPU connects with an id of its own. -/
def IdNuevo (s : Reservas) : EventoReserva → Prop
  | .otro (.conectarCpu _ cpuId) => (∀ c ∈ s.k.cpus, c.cpuId ≠ cpuId) ∧ ∀ r ∈ s.k.receptores, r.cpuId ≠ cpuId
  | _ => True

/-- A handler that ends its process finds the list of mutexes free, and nobody waits for a mutex that the process
holds. -/
def SinEspera (s : Reservas) : EventoReserva → Prop
  | .terminar m respuesta => ∀ pid ∈ m.proceso, m.pedido.Finaliza respuesta →
      s.k.mutexListaMutexes = false ∧ ∀ x ∈ s.k.listaMutexes, x.asignadoAPid = some pid → x.colaBloqueados = []
  | _ => True

/-- Both steps of a handler with nothing in between are the handler of the whole scheduler. -/
theorem k_terminar_recibir (r : Receptor) {pedido : Syscall} (hpedido : (Motivo.syscall pedido).EsSyscallMemoria)
    (respuesta : RespuestaMemoria) :
    ((s.recibir r pedido).terminar ⟨r, pedido, (s.k.retirarProcesoReservando r.cpuId).1, false⟩ respuesta).k =
      s.k.recibirDevolverProceso r.cpuId (.syscall pedido) respuesta false := by
  unfold recibirDevolverProceso
  rw [if_pos hpedido]
  generalize hretirado : s.k.retirarProcesoReservando r.cpuId = retirado
  obtain ⟨proceso, k⟩ := retirado
  cases proceso with
  | none =>
    simp only [if_pos hpedido, terminar, recibir, hretirado]
  | some pid =>
    simp only [terminar, recibir, hretirado, atenderDevuelto, Blocking.final]
    cases manejarSyscallIo pid pedido r.cpuId respuesta false k <;> rfl

/-! ## What a handler leaves -/

/-- The process is on the slot of the connection again, and `EJECUTAR_PROCESO` was sent for it. -/
def Devuelto (s s' : Reservas) (m : Manejo) : Prop :=
  ∃ pid c, m.proceso = some pid ∧ c ∈ s'.k.cpus ∧ c.cpuId = m.receptor.cpuId ∧
    c.socket = some m.receptor.socket ∧ c.procesoActual = some pid ∧
    s'.k.enviados = s.k.enviados ++ [.ejecutarProceso m.receptor.socket pid] ∧
    s'.k.semCpuDisponible = s.k.semCpuDisponible

/-- The slot is available again, with one post. -/
def Liberado (s s' : Reservas) (m : Manejo) : Prop :=
  (∀ c ∈ s'.k.cpus, c.cpuId = m.receptor.cpuId → c.disponible = true) ∧
    s'.k.semCpuDisponible = s.k.semCpuDisponible + 1

/-- The CPU is gone and its process waits in READY. -/
def Reencolado (s s' : Reservas) (m : Manejo) : Prop :=
  (∀ c ∈ s.k.cpus, c.cpuId = m.receptor.cpuId → c.socket = none) ∧
    ∃ pid, m.proceso = some pid ∧ s'.k = s.k.encolarEnReadyYNotificar pid

/-- A slot is reserved only while the handler of its own connection runs, which neither posts nor sends when it
takes the process, and gives the CPU back when it ends. -/
structure DevuelveReservas (s : Reservas) : Prop where
  reservadas : ∀ c ∈ s.k.cpus, c.Reservada → ∃ m ∈ s.enCurso, m.detenido = false ∧
    m.receptor.cpuId = c.cpuId ∧ c.socket = some m.receptor.socket
  alRecibir : ∀ r pedido s', s.paso (.recibir r pedido) = some s' →
    s'.k.semCpuDisponible = s.k.semCpuDisponible ∧ s'.k.enviados = s.k.enviados
  alTerminar : ∀ m respuesta s', s.paso (.terminar m respuesta) = some s' → ¬ s'.Ocupado m.receptor →
    Devuelto s s' m ∨ Liberado s s' m ∨ Reencolado s s' m

end Reservas

/-! ## The table under a step -/

/-- The same slots over the same connections, none of them reserved that was not. -/
structure SinReservar (cpus cpus' : List TCpu) : Prop where
  largo : cpus'.length = cpus.length
  ranura : ∀ (i : ℕ) c', cpus'[i]? = some c' → ∃ c, cpus[i]? = some c ∧ c'.cpuId = c.cpuId ∧
    c'.socket = c.socket ∧ (c'.Reservada → c.Reservada)

section SinReservar

variable {cpus cpus' cpus'' : List TCpu} {f : TCpu → TCpu}

theorem SinReservar.refl (cpus : List TCpu) : SinReservar cpus cpus :=
  ⟨rfl, fun _ c hc ↦ ⟨c, hc, rfl, rfl, id⟩⟩

theorem SinReservar.trans (h : SinReservar cpus cpus') (h' : SinReservar cpus' cpus'') : SinReservar cpus cpus'' := by
  refine ⟨h'.largo.trans h.largo, fun i c'' hc'' ↦ ?_⟩
  obtain ⟨c', hc', hid', hsocket', hreservada'⟩ := h'.ranura i c'' hc''
  obtain ⟨c, hc, hid, hsocket, hreservada⟩ := h.ranura i c' hc'
  exact ⟨c, hc, hid'.trans hid, hsocket'.trans hsocket, hreservada ∘ hreservada'⟩

theorem sinReservar_modify (cpus : List TCpu) (i : ℕ) (hf : ∀ c, (f c).cpuId = c.cpuId ∧ (f c).socket = c.socket ∧
    ((f c).Reservada → c.Reservada)) : SinReservar cpus (cpus.modify i f) := by
  refine ⟨List.length_modify .., fun j c' hc' ↦ ?_⟩
  obtain ⟨c, hc, rfl⟩ := ListModify.exists_of_getElem?_modify hc'
  refine ⟨c, hc, ?_⟩
  split
  · exact hf c
  · exact ⟨rfl, rfl, id⟩

theorem sinReservar_modificarCpu (cpus : List TCpu) (cpuId : ℕ) (hf : ∀ c, (f c).cpuId = c.cpuId ∧
    (f c).socket = c.socket ∧ ((f c).Reservada → c.Reservada)) : SinReservar cpus (modificarCpu cpus cpuId f) := by
  unfold modificarCpu
  split
  · exact .refl cpus
  · exact sinReservar_modify cpus _ hf

theorem SinReservar.idsDistintos (h : SinReservar cpus cpus') (hids : IdsDistintos cpus) : IdsDistintos cpus' := by
  intro i j c c' hc hc' higual
  obtain ⟨d, hd, hid, -⟩ := h.ranura i c hc
  obtain ⟨d', hd', hid', -⟩ := h.ranura j c' hc'
  exact hids i j d d' hd hd' (hid.symm.trans (higual.trans hid'))

theorem SinReservar.mem (h : SinReservar cpus cpus') {c' : TCpu} (hc' : c' ∈ cpus') :
    ∃ c ∈ cpus, c'.cpuId = c.cpuId ∧ c'.socket = c.socket ∧ (c'.Reservada → c.Reservada) := by
  obtain ⟨i, hi⟩ := List.getElem?_of_mem hc'
  obtain ⟨c, hc, hresto⟩ := h.ranura i c' hi
  exact ⟨c, List.mem_of_getElem? hc, hresto⟩

theorem sinReservar_elegirCpu (cpus : List TCpu) (pid : Pid) : SinReservar cpus (elegirCpu cpus pid).2 := by
  unfold elegirCpu
  split
  · exact .refl cpus
  · exact sinReservar_modify cpus _ fun c ↦ ⟨rfl, rfl, fun h ↦ nomatch h.2.2⟩

theorem sinReservar_timer (cpus : List TCpu) (cpuId : ℕ) (activo : Bool) (pid : TCpu → Pid) :
    SinReservar cpus (modificarCpu cpus cpuId fun c ↦ { c with timerActivo := activo, timerPid := pid c }) :=
  sinReservar_modificarCpu cpus cpuId fun _ ↦ ⟨rfl, rfl, id⟩

theorem sinReservar_vencerQuantum (cpus : List TCpu) (cpuId : ℕ) (pid : Pid) :
    SinReservar cpus (vencerQuantum cpus cpuId pid).2 := by
  unfold vencerQuantum
  split
  · exact .refl cpus
  · exact sinReservar_modify cpus _ fun _ ↦ ⟨rfl, rfl, id⟩

theorem sinReservar_retirar (cpus : List TCpu) (cpuId : ℕ) : SinReservar cpus (retirarProcesoDeCpu cpus cpuId).2 :=
  sinReservar_modificarCpu cpus cpuId fun _ ↦ ⟨rfl, rfl, fun h ↦ nomatch h.2.1⟩

theorem sinReservar_liberar (cpus : List TCpu) (cpuId : ℕ) : SinReservar cpus (liberarCpuReservada cpus cpuId) :=
  sinReservar_modificarCpu cpus cpuId fun _ ↦ ⟨rfl, rfl, fun h ↦ nomatch h.2.1⟩

end SinReservar

namespace KernelScheduler

variable {k k' : KernelScheduler}

/-- The part of the state that the handlers leave to the sections on the table. -/
def conexiones (k : KernelScheduler) : List TCpu × List Receptor × ℕ := (k.cpus, k.receptores, k.semCpuDisponible)

theorem SalvoReady.conexiones (h : SalvoReady k k') : k'.conexiones = k.conexiones :=
  (congrArg KernelScheduler.conexiones h :)

theorem mantenido_conexiones (parte : List TCpu × List Receptor × ℕ) : Mantenido fun k ↦ k.conexiones = parte where
  procesos hk hsalvo := by
    rw [hsalvo]
    exact hk
  encolar pid hk := (salvoReady_encolar _ pid).conexiones.trans hk
  desalojado pid hk := (salvoReady_encolarDesalojado _ pid).conexiones.trans hk
  reubicar pid anterior nueva hk := (salvoReady_reubicar _ pid anterior nueva).conexiones.trans hk

/-- A step of `e` keeps the slots, their connections and the receivers. -/
def MantieneTabla (k k' : KernelScheduler) : Prop := SinReservar k.cpus k'.cpus ∧ k'.receptores = k.receptores

theorem mantieneTabla_of_conexiones (h : k'.conexiones = k.conexiones) : MantieneTabla k k' := by
  have hcpus : k'.cpus = k.cpus := congrArg Prod.fst h
  have hreceptores : k'.receptores = k.receptores := congrArg (fun parte ↦ parte.2.1) h
  refine ⟨?_, hreceptores⟩
  rw [hcpus]
  exact .refl k.cpus

theorem MantieneTabla.trans {k'' : KernelScheduler} (h : MantieneTabla k k') (h' : MantieneTabla k' k'') :
    MantieneTabla k k'' :=
  ⟨h.1.trans h'.1, h'.2.trans h.2⟩

theorem mantieneTabla_recibirDevolverProceso (k : KernelScheduler) (cpuId : ℕ) {motivo : Motivo}
    (hmotivo : ¬ motivo.EsSyscallMemoria) (respuesta : RespuestaMemoria) (caida : Bool) :
    MantieneTabla k (k.recibirDevolverProceso cpuId motivo respuesta caida) := by
  unfold recibirDevolverProceso
  rw [if_neg hmotivo]
  have hretirado : MantieneTabla k (k.retirarProceso cpuId).2 := ⟨sinReservar_retirar k.cpus cpuId, rfl⟩
  generalize k.retirarProceso cpuId = retirado at hretirado
  obtain ⟨proceso, k₁⟩ := retirado
  cases proceso with
  | none =>
    simp only [if_neg hmotivo]
    exact hretirado
  | some pid =>
    apply hretirado.trans
    apply mantieneTabla_of_conexiones
    exact ((mantenido_conexiones k₁.conexiones).atenderDevuelto pid hmotivo cpuId respuesta caida).final rfl

theorem conexiones_planificarLargoPlazo (h : k.planificarLargoPlazo = some k') : k'.conexiones = k.conexiones := by
  unfold KernelScheduler.planificarLargoPlazo at h
  split at h
  · cases h
  simp only at h
  split at h
  · cases h
    rfl
  split at h
  · cases h
    unfold encolarEnReadyPorPrioridad
    split
    · exact (salvoReady_verificar _ _).conexiones
    · rfl
  · cases h
    rfl

theorem conexiones_obtenerProximo (k : KernelScheduler) :
    k.obtenerProximoProcesoReady.2.conexiones = k.conexiones := by
  unfold obtenerProximoProcesoReady desencolarProcesoReady popReady
  repeat' split
  all_goals rfl

theorem conexiones_reencolarPorFallo (k : KernelScheduler) (pid : Pid) :
    (k.reencolarPorFalloDeEnvio pid).conexiones = k.conexiones := by
  unfold reencolarPorFalloDeEnvio
  split
  · exact (salvoReady_inicio k pid _).conexiones
  · split <;> rfl

/-- A dispatch takes a slot that is available. -/
theorem mantieneTabla_despachar (k : KernelScheduler) (ahora : ℤ) : MantieneTabla k (k.despachar ahora) := by
  have hproximo := conexiones_obtenerProximo k
  unfold KernelScheduler.despachar
  generalize k.obtenerProximoProcesoReady = proximo at hproximo
  obtain ⟨proceso, k₁⟩ := proximo
  have hprimero : MantieneTabla k k₁ := mantieneTabla_of_conexiones hproximo
  cases proceso with
  | none => exact hprimero
  | some pid =>
    simp only
    split
    · exact hprimero
    have helegir := sinReservar_elegirCpu k₁.cpus pid
    split
    · apply hprimero.trans
      apply mantieneTabla_of_conexiones
      exact conexiones_reencolarPorFallo k₁ pid
    · rename_i cpu cpus heq
      rw [heq] at helegir
      apply hprimero.trans
      unfold ponerEnExec
      cases cpu.socket with
      | none =>
        simp only [Option.elim]
        split
        · exact ⟨helegir.trans (sinReservar_timer cpus _ true fun _ ↦ pid), rfl⟩
        · exact ⟨helegir, rfl⟩
      | some socket =>
        simp only [Option.elim]
        split
        · exact ⟨helegir.trans (sinReservar_timer cpus _ true fun _ ↦ pid), rfl⟩
        · exact ⟨helegir, rfl⟩

theorem mantieneTabla_planificarCortoPlazo {ahora : ℤ} (h : k.planificarCortoPlazo ahora = some k') :
    MantieneTabla k k' := by
  unfold KernelScheduler.planificarCortoPlazo at h
  split at h
  · repeat' split at h
    all_goals cases h
    all_goals exact ⟨.refl k.cpus, rfl⟩
  · cases h
    exact mantieneTabla_despachar k ahora
  · split at h
    all_goals cases h
    exact ⟨.refl k.cpus, rfl⟩
  · repeat' split at h
    all_goals cases h
    all_goals exact ⟨.refl k.cpus, rfl⟩

theorem mantieneTabla_vencerTimerQuantum (k : KernelScheduler) (t : TimerQuantum) :
    MantieneTabla k (k.vencerTimerQuantum t) := by
  have hvencer := sinReservar_vencerQuantum k.cpus t.cpuId t.pid
  unfold KernelScheduler.vencerTimerQuantum
  generalize Planificador.vencerQuantum k.cpus t.cpuId t.pid = vencida at hvencer
  obtain ⟨cpu, cpus⟩ := vencida
  simp only
  cases cpu.bind TCpu.socket with
  | none => exact ⟨hvencer, rfl⟩
  | some socket => exact ⟨hvencer, rfl⟩

/-- Only connections, disconnections and memory syscalls do something else to the table. -/
theorem mantieneTabla_paso {e : Evento} (hmemoria : ¬ e.EsSyscallMemoria)
    (hconectar : ∀ socket cpuId, e ≠ .conectarCpu socket cpuId) (hdesconectar : ∀ r, e ≠ .desconectarCpu r)
    (h : Planificador.paso k e = some k') : MantieneTabla k k' := by
  have hparte := mantenido_conexiones k.conexiones
  cases e with
  | crearProceso path prioridad =>
    cases h
    exact mantieneTabla_of_conexiones (hparte.crearProceso rfl path prioridad)
  | planificarLargoPlazo => exact mantieneTabla_of_conexiones (conexiones_planificarLargoPlazo h)
  | planificarCortoPlazo ahora => exact mantieneTabla_planificarCortoPlazo h
  | devolverProceso r motivo respuesta caida =>
    obtain ⟨-, hk'⟩ := Option.ite_none_right_eq_some.mp h
    obtain rfl := Option.some.inj hk'
    exact mantieneTabla_recibirDevolverProceso k r.cpuId hmemoria respuesta caida
  | conectarCpu socket cpuId => exact absurd rfl (hconectar socket cpuId)
  | desconectarCpu r => exact absurd rfl (hdesconectar r)
  | vencerQuantum t =>
    obtain ⟨-, hk'⟩ := Option.ite_none_right_eq_some.mp h
    obtain rfl := Option.some.inj hk'
    exact mantieneTabla_vencerTimerQuantum k t
  | conectarIo nombre =>
    cases h
    exact mantieneTabla_of_conexiones (hparte.registrarInterfazIo rfl nombre)
  | tomarIo i => exact mantieneTabla_of_conexiones (hparte.tomarIo rfl h)
  | terminarIo i fin escritura => exact mantieneTabla_of_conexiones (hparte.terminarIo rfl h)
  | vencerSuspension i => exact mantieneTabla_of_conexiones (hparte.vencerSuspension rfl h)
  | terminarSuspension i => exact mantieneTabla_of_conexiones (hparte.terminarSuspension rfl h)
  | desSuspender pid respuesta escritura => exact mantieneTabla_of_conexiones (hparte.desSuspender rfl h)
  | iniciarCompactacion =>
    cases h
    exact ⟨.refl k.cpus, rfl⟩
  | finalizarCompactacion =>
    cases h
    exact ⟨.refl k.cpus, rfl⟩

end KernelScheduler

/-! ## The end of a handler -/

/-- A memory syscall ends its process and gives its CPU free, or gives it the process back. -/
theorem manejarSyscallIo_memoria (pid : Pid) {pedido : Syscall} (h : (Motivo.syscall pedido).EsSyscallMemoria)
    (cpuId : ℕ) (respuesta : RespuestaMemoria) (caida : Bool) :
    pedido.Finaliza respuesta ∧
        manejarSyscallIo pid pedido cpuId respuesta caida = finalizarYLiberarCpu pid cpuId ∨
      manejarSyscallIo pid pedido cpuId respuesta caida = modify fun k ↦ k.devolverOReplanificar cpuId pid := by
  cases pedido with
  | memAlloc params =>
    cases params with
    | none => exact .inl ⟨trivial, rfl⟩
    | some pedido =>
      cases respuesta with
      | ok => exact .inr rfl
      | segmentationFault => exact .inl ⟨nofun, rfl⟩
      | sinRespuesta => exact .inl ⟨nofun, rfl⟩
  | memFree params =>
    cases params with
    | none => exact .inl ⟨trivial, rfl⟩
    | some id => exact .inr rfl
  | _ => exact absurd h id

/-- The release of a process that nobody waits for comes to its end. -/
theorem finalizarYLiberarCpu_ok {k : KernelScheduler} (pid : Pid) (cpuId : ℕ)
    (hlibre : k.mutexListaMutexes = false)
    (h : ∀ x ∈ k.listaMutexes, x.asignadoAPid = some pid → x.colaBloqueados = []) :
    ∃ k', finalizarYLiberarCpu pid cpuId k = .ok () k' := by
  have hliberar := liberarMutexesDeProceso_sinDisputa (k := k.cambiarEstado pid .exitState) hlibre h
  obtain ⟨k', hfinalizar⟩ : ∃ k', finalizarProceso pid k = .ok () k' := by
    unfold finalizarProceso
    rw [Blocking.bind_ok (x := modify _) rfl, Blocking.bind_ok hliberar]
    exact ⟨_, rfl⟩
  unfold finalizarYLiberarCpu
  rw [Blocking.bind_ok hfinalizar]
  exact ⟨_, rfl⟩

/-- The release touches the table only at its end. -/
theorem finalizarYLiberarCpu_conexiones (pid : Pid) (cpuId : ℕ) (parte : List TCpu × List Receptor × ℕ) :
    Blocking.Triple (fun k : KernelScheduler ↦ k.conexiones = parte) (finalizarYLiberarCpu pid cpuId)
      (fun _ k ↦ k.conexiones = (liberarCpuReservada parte.1 cpuId, parte.2.1, parte.2.2 + 1))
      fun k ↦ k.conexiones = parte := by
  apply Blocking.Triple.bind ((mantenido_conexiones parte).finalizarProceso pid)
  intro _
  apply Blocking.Triple.of_modify
  intro k hk
  rw [← hk]
  rfl

namespace Reservas

variable {s : Reservas}

/-- The invariant: slots and receivers go together by their ids, and a reserved slot has its handler. -/
structure Ordenada (s : Reservas) : Prop where
  ids : IdsDistintos s.k.cpus
  hilos : (s.k.receptores.map Receptor.cpuId).Nodup
  propia : ∀ r ∈ s.k.receptores, ∀ c ∈ s.k.cpus, c.cpuId = r.cpuId → c.socket = some r.socket
  vivos : ∀ m ∈ s.enCurso, m.receptor ∈ s.k.receptores ∧ (Motivo.syscall m.pedido).EsSyscallMemoria
  reservadas : ∀ c ∈ s.k.cpus, c.Reservada → ∃ m ∈ s.enCurso, m.receptor.cpuId = c.cpuId ∧
    c.socket = some m.receptor.socket

/-- A step that reserves nothing keeps the invariant. -/
theorem Ordenada.mantieneTabla (h : s.Ordenada) {k : KernelScheduler} (hk : MantieneTabla s.k k) :
    Ordenada { s with k := k } := by
  obtain ⟨htabla, hreceptores⟩ := hk
  refine ⟨htabla.idsDistintos h.ids, ?_, ?_, ?_, ?_⟩
  · simp only [hreceptores]
    exact h.hilos
  · intro r hr c' hc' hid
    simp only [hreceptores] at hr
    obtain ⟨c, hc, hmismo, hsocket, -⟩ := htabla.mem hc'
    exact hsocket.trans (h.propia r hr c hc (hmismo.symm.trans hid))
  · simp only [hreceptores]
    exact h.vivos
  · intro c' hc' hreservada
    obtain ⟨c, hc, hmismo, hsocket, hantes⟩ := htabla.mem hc'
    obtain ⟨m, hm, hid, hconexion⟩ := h.reservadas c hc (hantes hreservada)
    exact ⟨m, hm, hid.trans hmismo.symm, hsocket.trans hconexion⟩

/-- Slots after a section on one of them. -/
theorem mem_modificarCpu {cpus : List TCpu} {cpuId : ℕ} {f : TCpu → TCpu} {c' : TCpu} (hids : IdsDistintos cpus)
    (h : c' ∈ modificarCpu cpus cpuId f) :
    ∃ c ∈ cpus, (c.cpuId = cpuId ∧ c' = f c) ∨ (c.cpuId ≠ cpuId ∧ c' = c) := by
  obtain ⟨j, hj⟩ := List.getElem?_of_mem h
  obtain ⟨hno, hmodificar⟩ | ⟨i, c, hc, hbuscar, hmodificar⟩ := modificarCpu_cases cpus cpuId
  · rw [hmodificar] at hj
    refine ⟨c', List.mem_of_getElem? hj, .inr ⟨fun hid ↦ ?_, rfl⟩⟩
    have hhallada := (hids.buscar hj).1
    rw [hid, hno] at hhallada
    cases hhallada
  · rw [hmodificar] at hj
    obtain ⟨d, hd, rfl⟩ := ListModify.exists_of_getElem?_modify hj
    refine ⟨d, List.mem_of_getElem? hd, ?_⟩
    have hid := cpuId_of_buscarCpu hbuscar
    by_cases hij : i = j
    · subst hij
      obtain rfl := Option.some.inj (hc.symm.trans hd)
      exact .inl ⟨hid, if_pos rfl⟩
    · refine .inr ⟨fun hmismo ↦ hij ?_, if_neg hij⟩
      exact hids i j c d hc hd (hid.trans hmismo.symm)

theorem Ordenada.conectarCpu (h : s.Ordenada) {socket : Socket} {cpuId : ℕ}
    (hnuevo : s.IdNuevo (.otro (.conectarCpu socket cpuId))) :
    Ordenada { s with k := s.k.conectarCpu socket cpuId } := by
  have hcpus : (s.k.conectarCpu socket cpuId).cpus = agregarCpu s.k.cpus socket cpuId := by
    unfold KernelScheduler.conectarCpu
    simp only
    split <;> rfl
  have hreceptores : (s.k.conectarCpu socket cpuId).receptores = s.k.receptores ++ [⟨socket, cpuId⟩] := by
    unfold KernelScheduler.conectarCpu
    simp only
    split <;> rfl
  have hranuras : ∀ c ∈ agregarCpu s.k.cpus socket cpuId,
      c ∈ s.k.cpus ∨ c = ⟨some socket, cpuId, true, none, false, 0⟩ := by
    unfold agregarCpu
    split
    · intro c hc
      exact (List.mem_append.mp hc).imp id List.mem_singleton.mp
    · exact fun c hc ↦ .inl hc
  obtain ⟨hslots, hhilos⟩ := hnuevo
  refine ⟨?_, ?_, ?_, ?_, ?_⟩
  · simp only [hcpus]
    unfold agregarCpu
    split
    · intro i j c c' hc hc' higual
      obtain hi | ⟨hi, rfl⟩ := ListModify.getElem?_concat_cases hc
      · obtain hj | ⟨-, rfl⟩ := ListModify.getElem?_concat_cases hc'
        · exact h.ids i j c c' hi hj higual
        · exact absurd higual (hslots c (List.mem_of_getElem? hi))
      · obtain hj | ⟨hj, -⟩ := ListModify.getElem?_concat_cases hc'
        · exact absurd higual.symm (hslots c' (List.mem_of_getElem? hj))
        · exact hi.trans hj.symm
    · exact h.ids
  · simp only [hreceptores, List.map_append, List.map_cons, List.map_nil]
    rw [List.nodup_append]
    refine ⟨h.hilos, by simp, ?_⟩
    intro a ha b hb hab
    obtain ⟨r, hr, rfl⟩ := List.mem_map.mp ha
    exact hhilos r hr (hab.trans (List.mem_singleton.mp hb))
  · intro r hr c hc hid
    simp only [hreceptores, List.mem_append, List.mem_singleton] at hr
    simp only [hcpus] at hc
    cases hranuras c hc with
    | inl hviejo =>
      cases hr with
      | inl hr => exact h.propia r hr c hviejo hid
      | inr hr =>
        rw [hr] at hid
        exact absurd hid (hslots c hviejo)
    | inr hnueva =>
      rw [hnueva] at hid ⊢
      cases hr with
      | inl hr => exact absurd hid.symm (hhilos r hr)
      | inr hr => rw [hr]
  · intro m hm
    obtain ⟨hreceptor, hpedido⟩ := h.vivos m hm
    refine ⟨?_, hpedido⟩
    simp only [hreceptores]
    exact List.mem_append_left _ hreceptor
  · intro c hc hreservada
    simp only [hcpus] at hc
    cases hranuras c hc with
    | inl hviejo => exact h.reservadas c hviejo hreservada
    | inr hnueva =>
      rw [hnueva] at hreservada
      exact nomatch hreservada.2.1

/-- A receiver that finds the end of its connection is in no handler. -/
theorem Ordenada.desconectarCpu (h : s.Ordenada) {r : Receptor} (hr : r ∈ s.k.receptores) (hlibre : ¬ s.Ocupado r) :
    Ordenada { s with k := s.k.desconectarCpu r } := by
  have hnodup : s.k.receptores.Nodup := List.Nodup.of_map _ h.hilos
  have hotros : ∀ r' ∈ s.k.receptores.erase r, r' ∈ s.k.receptores ∧ r'.cpuId ≠ r.cpuId := by
    intro r' hr'
    obtain ⟨hdistinto, hmem⟩ := hnodup.mem_erase_iff.mp hr'
    exact ⟨hmem, fun hid ↦ hdistinto (List.inj_on_of_nodup_map h.hilos hmem hr hid)⟩
  refine ⟨h.ids.modificarCpu r.cpuId fun _ ↦ rfl, ?_, ?_, ?_, ?_⟩
  · exact h.hilos.sublist ((List.erase_sublist).map _)
  · intro r' hr' c' hc' hid
    obtain ⟨hviejo, hdistinto⟩ := hotros r' hr'
    obtain ⟨c, hc, ⟨hpropia, rfl⟩ | ⟨-, rfl⟩⟩ := mem_modificarCpu h.ids hc'
    · exact absurd (hid.symm.trans hpropia) hdistinto
    · exact h.propia r' hviejo c' hc hid
  · intro m hm
    obtain ⟨hreceptor, hpedido⟩ := h.vivos m hm
    exact ⟨(hnodup.mem_erase_iff).mpr ⟨fun heq ↦ hlibre ⟨m, hm, heq⟩, hreceptor⟩, hpedido⟩
  · intro c' hc' hreservada
    obtain ⟨c, hc, ⟨-, rfl⟩ | ⟨-, rfl⟩⟩ := mem_modificarCpu h.ids hc'
    · exact nomatch hreservada.1
    · exact h.reservadas c' hc hreservada

/-- The slot that is reserved belongs to the handler that begins. -/
theorem Ordenada.recibir (h : s.Ordenada) {r : Receptor} {pedido : Syscall} (hr : r ∈ s.k.receptores)
    (hpedido : (Motivo.syscall pedido).EsSyscallMemoria) : (s.recibir r pedido).Ordenada := by
  refine ⟨h.ids.modificarCpu r.cpuId fun _ ↦ rfl, h.hilos, ?_, ?_, ?_⟩
  · intro r' hr' c' hc' hid
    obtain ⟨c, hc, ⟨-, rfl⟩ | ⟨-, rfl⟩⟩ := mem_modificarCpu h.ids hc'
    · exact h.propia r' hr' c hc hid
    · exact h.propia r' hr' c' hc hid
  · intro m hm
    cases List.mem_append.mp hm with
    | inl hviejo => exact h.vivos m hviejo
    | inr hnuevo =>
      rw [List.mem_singleton.mp hnuevo]
      exact ⟨hr, hpedido⟩
  · intro c' hc' hreservada
    obtain ⟨c, hc, ⟨hid, rfl⟩ | ⟨-, rfl⟩⟩ := mem_modificarCpu h.ids hc'
    · refine ⟨_, List.mem_append_right _ (List.mem_singleton.mpr rfl), hid.symm, ?_⟩
      exact h.propia r hr c hc hid
    · obtain ⟨m, hm, hpropio⟩ := h.reservadas c' hc hreservada
      exact ⟨m, List.mem_append_left _ hm, hpropio⟩

/-- A handler may go when its slot is not reserved any more. -/
theorem Ordenada.quitar (h : s.Ordenada) {m : Manejo}
    (hlibre : ∀ c ∈ s.k.cpus, c.cpuId = m.receptor.cpuId → ¬ c.Reservada) :
    Ordenada { s with enCurso := s.enCurso.erase m } := by
  refine ⟨h.ids, h.hilos, h.propia, fun otro hotro ↦ h.vivos otro (List.mem_of_mem_erase hotro), ?_⟩
  intro c hc hreservada
  obtain ⟨otro, hotro, hid, hconexion⟩ := h.reservadas c hc hreservada
  refine ⟨otro, (List.mem_erase_of_ne ?_).mpr hotro, hid, hconexion⟩
  rintro rfl
  exact hlibre c hc hid.symm hreservada

/-- A handler that stops keeps its slot. -/
theorem Ordenada.detener (h : s.Ordenada) {m : Manejo} (hm : m ∈ s.enCurso) :
    Ordenada { s with enCurso := s.enCurso.erase m ++ [{ m with detenido := true }] } := by
  refine ⟨h.ids, h.hilos, h.propia, ?_, ?_⟩
  · intro otro hotro
    cases List.mem_append.mp hotro with
    | inl hviejo => exact h.vivos otro (List.mem_of_mem_erase hviejo)
    | inr hnuevo =>
      rw [List.mem_singleton.mp hnuevo]
      exact h.vivos m hm
  · intro c hc hreservada
    obtain ⟨otro, hotro, hid, hconexion⟩ := h.reservadas c hc hreservada
    by_cases hmismo : otro = m
    · rw [hmismo] at hid hconexion
      exact ⟨_, List.mem_append_right _ (List.mem_singleton.mpr rfl), hid, hconexion⟩
    · exact ⟨otro, List.mem_append_left _ ((List.mem_erase_of_ne hmismo).mpr hotro), hid, hconexion⟩

theorem liberado_of_conexiones (h : s.Ordenada) {k : KernelScheduler} {m : Manejo} {enCurso : List Manejo}
    (hk : k.conexiones = (liberarCpuReservada s.k.cpus m.receptor.cpuId, s.k.receptores,
      s.k.semCpuDisponible + 1)) : Liberado s ⟨k, enCurso⟩ m := by
  have hcpus : k.cpus = liberarCpuReservada s.k.cpus m.receptor.cpuId := congrArg Prod.fst hk
  refine ⟨?_, congrArg (fun parte ↦ parte.2.2) hk⟩
  intro c' hc' hid
  simp only [hcpus] at hc'
  obtain ⟨c, hc, ⟨-, rfl⟩ | ⟨hotro, rfl⟩⟩ := mem_modificarCpu h.ids hc'
  · rfl
  · exact absurd hid hotro

/-- Over a connection that is open the process goes back to its slot; otherwise to READY. -/
theorem devolverOReplanificar_cases {k : KernelScheduler} (hids : IdsDistintos k.cpus) (cpuId : ℕ) (pid : Pid) :
    ((∀ c ∈ k.cpus, c.cpuId = cpuId → c.socket = none) ∧
      k.devolverOReplanificar cpuId pid = k.encolarEnReadyYNotificar pid) ∨
    ∃ socket k', k.devolverOReplanificar cpuId pid = k' ∧ (∃ c ∈ k'.cpus, c.cpuId = cpuId ∧ c.socket = some socket) ∧
      (∀ c ∈ k'.cpus, c.cpuId = cpuId → c.procesoActual = some pid) ∧ MantieneTabla k k' ∧
      k'.enviados = k.enviados ++ [.ejecutarProceso socket pid] ∧ k'.semCpuDisponible = k.semCpuDisponible := by
  unfold devolverOReplanificar devolverProcesoAMismaCpu
  cases hsocket : (buscarCpu k.cpus cpuId).bind TCpu.socket with
  | none =>
    refine .inl ⟨fun c hc hid ↦ ?_, rfl⟩
    obtain ⟨i, hi⟩ := List.getElem?_of_mem hc
    rw [← hid, (hids.buscar hi).1] at hsocket
    exact hsocket
  | some socket =>
    right
    obtain ⟨c, hbuscar, hconexion⟩ := Option.bind_eq_some_iff.mp hsocket
    have hpuesta : ∀ c' ∈ modificarCpu k.cpus cpuId (fun c ↦ { c with procesoActual := some pid }),
        c'.cpuId = cpuId → c'.procesoActual = some pid := by
      intro c' hc' hid
      obtain ⟨d, -, ⟨-, rfl⟩ | ⟨hotro, rfl⟩⟩ := mem_modificarCpu hids hc'
      · rfl
      · exact absurd hid hotro
    have hranura : buscarCpu (modificarCpu k.cpus cpuId fun c ↦ { c with procesoActual := some pid }) cpuId =
        some { c with procesoActual := some pid } := by
      rw [buscarCpu_modificarCpu_mismo (f := fun c ↦ { c with procesoActual := some pid }) k.cpus cpuId
        fun _ ↦ rfl, hbuscar]
      rfl
    have hids' : IdsDistintos (modificarCpu k.cpus cpuId fun c ↦ { c with procesoActual := some pid }) :=
      hids.modificarCpu cpuId fun _ ↦ rfl
    have htabla : SinReservar k.cpus (modificarCpu k.cpus cpuId fun c ↦ { c with procesoActual := some pid }) :=
      sinReservar_modificarCpu k.cpus cpuId fun _ ↦ ⟨rfl, rfl, fun h ↦ nomatch h.2.2⟩
    generalize modificarCpu k.cpus cpuId (fun c ↦ { c with procesoActual := some pid }) = puesta at *
    refine ⟨socket, _, rfl, ?_⟩
    simp only
    split
    · refine ⟨?_, ?_, ⟨htabla.trans (sinReservar_timer _ cpuId true fun _ ↦ pid), rfl⟩, rfl, rfl⟩
      · have hconTimer := buscarCpu_modificarCpu_mismo
          (f := fun c ↦ { c with timerActivo := true, timerPid := pid }) puesta cpuId fun _ ↦ rfl
        rw [hranura] at hconTimer
        exact ⟨_, buscarCpu_mem hconTimer, cpuId_of_buscarCpu hconTimer, hconexion⟩
      · intro c' hc' hid
        obtain ⟨d, hd, ⟨hpropia, rfl⟩ | ⟨-, rfl⟩⟩ := mem_modificarCpu hids' hc'
        · exact hpuesta d hd hpropia
        · exact hpuesta c' hd hid
    · exact ⟨⟨_, buscarCpu_mem hranura, cpuId_of_buscarCpu hranura, hconexion⟩, hpuesta, ⟨htabla, rfl⟩, rfl, rfl⟩

/-- The handler of the syscall stops at the list of mutexes. -/
def SeDetiene (s : Reservas) (m : Manejo) (respuesta : RespuestaMemoria) : Prop :=
  m.pedido.Finaliza respuesta ∧ ∃ pid k, m.proceso = some pid ∧
    finalizarYLiberarCpu pid m.receptor.cpuId s.k = .error () k

/-- The end of a handler keeps the invariant and gives the CPU back, unless the handler stops. -/
theorem Ordenada.terminar (h : s.Ordenada) {m : Manejo} (hm : m ∈ s.enCurso) (respuesta : RespuestaMemoria) :
    (s.terminar m respuesta).Ordenada ∧
      (s.SeDetiene m respuesta ∧ (s.terminar m respuesta).Ocupado m.receptor ∨
        (s.terminar m respuesta).enCurso = s.enCurso.erase m ∧
          (Devuelto s (s.terminar m respuesta) m ∨ Liberado s (s.terminar m respuesta) m ∨
            Reencolado s (s.terminar m respuesta) m)) := by
  have hliberar : ∀ k : KernelScheduler, k.conexiones = (liberarCpuReservada s.k.cpus m.receptor.cpuId,
      s.k.receptores, s.k.semCpuDisponible + 1) →
      Ordenada ⟨k, s.enCurso.erase m⟩ ∧ Liberado s ⟨k, s.enCurso.erase m⟩ m := by
    intro k hk
    have hliberado : Liberado s ⟨k, s.enCurso.erase m⟩ m := liberado_of_conexiones h hk
    have htabla : MantieneTabla s.k k := by
      refine ⟨?_, congrArg (fun parte ↦ parte.2.1) hk⟩
      rw [show k.cpus = _ from congrArg Prod.fst hk]
      exact sinReservar_liberar s.k.cpus m.receptor.cpuId
    refine ⟨(h.mantieneTabla htabla).quitar fun c hc hid hreservada ↦ ?_, hliberado⟩
    have hdisponible := hliberado.1 c hc hid
    rw [hreservada.2.1] at hdisponible
    cases hdisponible
  unfold Reservas.terminar
  cases hproceso : m.proceso with
  | none =>
    obtain ⟨horden, hliberado⟩ := hliberar (s.k.liberarReservada m.receptor.cpuId) rfl
    exact ⟨horden, .inr ⟨rfl, .inr (.inl hliberado)⟩⟩
  | some pid =>
    obtain ⟨hfinaliza, hfin⟩ | hfin := manejarSyscallIo_memoria pid (h.vivos m hm).2 m.receptor.cpuId respuesta false
    · have hfinal := finalizarYLiberarCpu_conexiones pid m.receptor.cpuId s.k.conexiones s.k rfl
      simp only [hfin]
      cases hrun : finalizarYLiberarCpu pid m.receptor.cpuId s.k with
      | ok a k =>
        rw [hrun] at hfinal
        obtain ⟨horden, hliberado⟩ := hliberar k hfinal
        exact ⟨horden, .inr ⟨rfl, .inr (.inl hliberado)⟩⟩
      | error e k =>
        -- the thread stopped before the release
        rw [hrun] at hfinal
        have horden := (h.mantieneTabla (mantieneTabla_of_conexiones hfinal)).detener hm
        rw [show ({ m with detenido := true } : Manejo) = ⟨m.receptor, m.pedido, some pid, true⟩ by
          rw [← hproceso]] at horden
        exact ⟨horden, .inl ⟨⟨hfinaliza, pid, k, hproceso, hrun⟩, _,
          List.mem_append_right _ (List.mem_singleton.mpr rfl), rfl⟩⟩
    · have hrun : manejarSyscallIo pid m.pedido m.receptor.cpuId respuesta false s.k =
          .ok () (s.k.devolverOReplanificar m.receptor.cpuId pid) := by
        rw [hfin]
        rfl
      simp only [hrun]
      obtain ⟨hcaida, heq⟩ | ⟨socket, k', heq, hranura, hpuesta, htabla, henviado, hsem⟩ :=
        devolverOReplanificar_cases h.ids m.receptor.cpuId pid
      · rw [heq]
        have hparte : (s.k.encolarEnReadyYNotificar pid).conexiones = s.k.conexiones :=
          (mantenido_conexiones s.k.conexiones).encolar pid rfl
        have horden := h.mantieneTabla (mantieneTabla_of_conexiones hparte)
        have hcpus : (s.k.encolarEnReadyYNotificar pid).cpus = s.k.cpus := congrArg Prod.fst hparte
        refine ⟨horden.quitar fun c hc hid hreservada ↦ ?_,
          .inr ⟨trivial, .inr (.inr ⟨hcaida, pid, hproceso, rfl⟩)⟩⟩
        simp only [hcpus] at hc
        rw [TCpu.Reservada, hcaida c hc hid] at hreservada
        exact nomatch hreservada.1
      · rw [heq]
        have horden := h.mantieneTabla htabla
        obtain ⟨c, hc, hid, hconexion⟩ := hranura
        have hpropia := horden.propia m.receptor (horden.vivos m hm).1 c hc hid
        obtain rfl := Option.some.inj (hconexion.symm.trans hpropia)
        refine ⟨horden.quitar fun c hc hid hreservada ↦ ?_,
          .inr ⟨trivial, .inl ⟨pid, c, hproceso, hc, hid, hconexion, hpuesta c hc hid, henviado, hsem⟩⟩⟩
        rw [TCpu.Reservada, hpuesta c hc hid] at hreservada
        exact nomatch hreservada.2.2

theorem ordenada_arranque (h : s.Arranque) : s.Ordenada := by
  obtain ⟨⟨config, hk⟩, hvacio⟩ := h
  refine ⟨?_, ?_, ?_, ?_, ?_⟩
  · rw [hk]
    exact fun i j c c' hc ↦ nomatch hc
  · rw [hk]
    exact List.nodup_nil
  · rw [hk]
    exact fun r hr ↦ nomatch hr
  · rw [hvacio]
    exact fun m hm ↦ nomatch hm
  · rw [hk]
    exact fun c hc ↦ nomatch hc

theorem Ordenada.paso (h : s.Ordenada) {e : EventoReserva} {s' : Reservas} (hnuevo : s.IdNuevo e)
    (hpaso : s.paso e = some s') : s'.Ordenada := by
  cases e with
  | otro e =>
    obtain ⟨⟨hmemoria, hlibre⟩, hmapa⟩ := Option.ite_none_right_eq_some.mp hpaso
    obtain ⟨k, hk, rfl⟩ := Option.map_eq_some_iff.mp hmapa
    cases e with
    | conectarCpu socket cpuId =>
      obtain ⟨-, hk'⟩ := Option.ite_none_right_eq_some.mp hk
      obtain rfl := Option.some.inj hk'
      exact h.conectarCpu hnuevo
    | desconectarCpu r =>
      obtain ⟨hr, hk'⟩ := Option.ite_none_right_eq_some.mp hk
      obtain rfl := Option.some.inj hk'
      exact h.desconectarCpu hr (hlibre r rfl)
    | _ => exact h.mantieneTabla (mantieneTabla_paso hmemoria nofun nofun hk)
  | recibir r pedido =>
    obtain ⟨⟨hr, -, hpedido⟩, hs'⟩ := Option.ite_none_right_eq_some.mp hpaso
    obtain rfl := Option.some.inj hs'
    exact h.recibir hr hpedido
  | terminar m respuesta =>
    obtain ⟨⟨hm, -⟩, hs'⟩ := Option.ite_none_right_eq_some.mp hpaso
    obtain rfl := Option.some.inj hs'
    exact (h.terminar hm respuesta).1

/-- With nobody waiting for a mutex of the process the handler does not stop. -/
theorem SinEspera.sigue {m : Manejo} {respuesta : RespuestaMemoria} (h : s.SinEspera (.terminar m respuesta)) :
    ¬ s.SeDetiene m respuesta := by
  rintro ⟨hfinaliza, pid, k, hproceso, herror⟩
  obtain ⟨hlibre, hnadie⟩ := h pid hproceso hfinaliza
  obtain ⟨k', hok⟩ := finalizarYLiberarCpu_ok pid m.receptor.cpuId hlibre hnadie
  rw [hok] at herror
  cases herror

/-- All handlers run. -/
def EnMarcha (s : Reservas) : Prop := ∀ m ∈ s.enCurso, m.detenido = false

/-- A handler that begins runs, and one that ends leaves the others as they are. -/
theorem enMarcha_paso (h : s.Ordenada) (hmarcha : s.EnMarcha) {e : EventoReserva} {s' : Reservas}
    (hespera : s.SinEspera e) (hpaso : s.paso e = some s') : s'.EnMarcha := by
  cases e with
  | otro e =>
    obtain ⟨-, hmapa⟩ := Option.ite_none_right_eq_some.mp hpaso
    obtain ⟨k, -, rfl⟩ := Option.map_eq_some_iff.mp hmapa
    exact hmarcha
  | recibir r pedido =>
    obtain ⟨-, hs'⟩ := Option.ite_none_right_eq_some.mp hpaso
    obtain rfl := Option.some.inj hs'
    intro m hm
    cases List.mem_append.mp hm with
    | inl hviejo => exact hmarcha m hviejo
    | inr hnuevo => rw [List.mem_singleton.mp hnuevo]
  | terminar m respuesta =>
    obtain ⟨⟨hm, -⟩, hs'⟩ := Option.ite_none_right_eq_some.mp hpaso
    obtain rfl := Option.some.inj hs'
    intro otro hotro
    cases (h.terminar hm respuesta).2 with
    | inl hdetiene => exact absurd hdetiene.1 hespera.sigue
    | inr hfin =>
      rw [hfin.1] at hotro
      exact hmarcha otro (List.mem_of_mem_erase hotro)

theorem Ordenada.devuelve (h : s.Ordenada) (hmarcha : s.EnMarcha) : s.DevuelveReservas := by
  refine ⟨?_, ?_, ?_⟩
  · intro c hc hreservada
    obtain ⟨m, hm, hpropio⟩ := h.reservadas c hc hreservada
    exact ⟨m, hm, hmarcha m hm, hpropio⟩
  · intro r pedido s' hpaso
    obtain ⟨-, hs'⟩ := Option.ite_none_right_eq_some.mp hpaso
    obtain rfl := Option.some.inj hs'
    exact ⟨rfl, rfl⟩
  · intro m respuesta s' hpaso hfin
    obtain ⟨⟨hm, -⟩, hs'⟩ := Option.ite_none_right_eq_some.mp hpaso
    obtain rfl := Option.some.inj hs'
    cases (h.terminar hm respuesta).2 with
    | inl hdetiene => exact absurd hdetiene.2 hfin
    | inr hdevuelve => exact hdevuelve.2

/-- With CPUs of different ids and handlers that meet no waiter, every CPU that a memory syscall reserves is given
back. -/
theorem devuelveReservas_of_alcanzable (h : Reachable paso Arranque (fun s e ↦ s.IdNuevo e ∧ s.SinEspera e) s) :
    s.DevuelveReservas := by
  obtain ⟨horden, hmarcha⟩ : s.Ordenada ∧ s.EnMarcha := by
    apply h.invariant (P := fun s ↦ s.Ordenada ∧ s.EnMarcha)
    · intro s hs
      refine ⟨ordenada_arranque hs, fun m hm ↦ ?_⟩
      rw [hs.2] at hm
      cases hm
    · rintro s e s' ⟨horden, hmarcha⟩ ⟨hnuevo, hespera⟩ hpaso
      exact ⟨horden.paso hnuevo hpaso, enMarcha_paso horden hmarcha hespera hpaso⟩
  exact horden.devuelve hmarcha

instance (s : Reservas) : (e : EventoReserva) → Decidable (s.IdNuevo e)
  | .otro (.conectarCpu ..) => inferInstanceAs (Decidable (_ ∧ _))
  | .otro (.crearProceso ..) | .otro .planificarLargoPlazo | .otro (.planificarCortoPlazo _)
  | .otro (.devolverProceso ..) | .otro (.desconectarCpu _) | .otro (.vencerQuantum _) | .otro (.conectarIo _)
  | .otro (.tomarIo _) | .otro (.terminarIo ..) | .otro (.vencerSuspension _) | .otro (.terminarSuspension _)
  | .otro (.desSuspender ..) | .otro .iniciarCompactacion | .otro .finalizarCompactacion
  | .recibir .. | .terminar .. => .isTrue trivial

instance (respuesta : RespuestaMemoria) : DecidablePred (Syscall.Finaliza respuesta)
  | .memAlloc none | .memFree none => .isTrue trivial
  | .memAlloc (some _) => inferInstanceAs (Decidable (_ ≠ _))
  | .memFree (some _) | .sleep _ | .ioSleep _ | .stdin _ | .stdout _ | .mutexCreate _ | .mutexLock _
  | .mutexUnlock _ | .initProc _ | .desconocida => .isFalse id

instance (s : Reservas) : (e : EventoReserva) → Decidable (s.SinEspera e)
  | .terminar m _ => inferInstanceAs (Decidable (∀ pid ∈ m.proceso, _ → _ ∧ ∀ x ∈ _, _))
  | .otro _ | .recibir .. => .isTrue trivial

instance (c : TCpu) : Decidable c.Reservada := inferInstanceAs (Decidable (_ ∧ _))

def reservasInicial : Reservas := ⟨.inicial ⟨.fifo, 0, [], false, 2000, 0⟩, []⟩

theorem reservasInicial_arranque : reservasInicial.Arranque := ⟨⟨_, rfl⟩, rfl⟩

/-- A process whose `MEM_ALLOC` is refused ends, and the next one on its CPU deletes a segment. -/
theorem devuelveReservas_trasRechazo :
    ∃ s, Reachable paso Arranque (fun s e ↦ s.IdNuevo e ∧ s.SinEspera e) s ∧
      (∃ c ∈ s.k.cpus, c.Reservada) ∧ s.DevuelveReservas := by
  have hinicio : Reachable paso Arranque (fun s e ↦ s.IdNuevo e ∧ s.SinEspera e) reservasInicial :=
    .start reservasInicial_arranque
  obtain ⟨s, hs, hreservada⟩ := hinicio.exists_of_runAllowed
    [.otro (.crearProceso "a" 0), .otro .planificarLargoPlazo, .otro (.crearProceso "b" 0),
      .otro .planificarLargoPlazo, .otro (.conectarCpu 4 1),
      .otro (.planificarCortoPlazo 0), .otro (.planificarCortoPlazo 0),
      .recibir ⟨4, 1⟩ (.memAlloc (some (0, 8))),
      .terminar ⟨⟨4, 1⟩, .memAlloc (some (0, 8)), some 0, false⟩ .segmentationFault,
      .otro (.planificarCortoPlazo 0), .otro (.planificarCortoPlazo 0), .recibir ⟨4, 1⟩ (.memFree (some 0))]
    (fun s ↦ ∃ c ∈ s.k.cpus, c.Reservada) (by decide +kernel)
  exact ⟨s, hs, hreservada, devuelveReservas_of_alcanzable hs⟩

/-- Process 1 waits for a mutex of process 0, whose `MEM_ALLOC` is refused: its handler stops, and the CPU stays
reserved. -/
theorem reserva_sin_devolver : ∃ s, Reachable paso Arranque IdNuevo s ∧ ¬ s.DevuelveReservas := by
  have hinicio : Reachable paso Arranque IdNuevo reservasInicial := .start reservasInicial_arranque
  obtain ⟨s, hs, ⟨c, hc, hreservada⟩, hdetenidos⟩ := hinicio.exists_of_runAllowed
    [.otro (.crearProceso "a" 0), .otro .planificarLargoPlazo, .otro (.crearProceso "b" 0),
      .otro .planificarLargoPlazo, .otro (.conectarCpu 4 1),
      .otro (.planificarCortoPlazo 0), .otro (.planificarCortoPlazo 0),
      .otro (.devolverProceso ⟨4, 1⟩ (.syscall (.mutexLock (some "A"))) .ok false),
      .otro (.planificarCortoPlazo 0), .otro (.planificarCortoPlazo 0),
      .otro (.devolverProceso ⟨4, 1⟩ (.syscall (.mutexLock (some "A"))) .ok false),
      .otro (.planificarCortoPlazo 0), .otro (.planificarCortoPlazo 0),
      .recibir ⟨4, 1⟩ (.memAlloc (some (0, 8))),
      .terminar ⟨⟨4, 1⟩, .memAlloc (some (0, 8)), some 0, false⟩ .segmentationFault]
    (fun s ↦ (∃ c ∈ s.k.cpus, c.Reservada) ∧ ∀ m ∈ s.enCurso, m.detenido = true) (by decide +kernel)
  refine ⟨s, hs, fun h ↦ ?_⟩
  obtain ⟨m, hm, hmarcha, -⟩ := h.reservadas c hc hreservada
  rw [hdetenidos m hm] at hmarcha
  cases hmarcha

end Reservas

end PlugAndPlay.Planificador
