import PlugAndPlay.Memoria.ListaProcesos
import PlugAndPlay.Planificador.Marcos
import PlugAndPlay.Planificador.UnSoloLugar

/-!
# The registries of processes

`todos_los_procesos`, the PCBs that have not been freed and the list of processes of Kernel Memory, over
the runs of scheduler and Kernel Memory together. A step of the scheduler says what it asks of Kernel
Memory and which PCB it frees.
-/

open PlugAndPlay.Library PlugAndPlay.Memoria

namespace PlugAndPlay.Planificador

namespace KernelScheduler

variable (k : KernelScheduler)

/-- The process in the slot of a connection. -/
def procesoDe (r : Receptor) : Option Pid := (buscarCpu k.cpus r.cpuId).bind TCpu.procesoActual

/-- Whether the step creates a process. -/
def crea : Evento → Bool
  | .crearProceso path _ => path ≠ ""
  | .devolverProceso r motivo _ _ =>
    (k.procesoDe r).isSome && motivo.crea.any fun (path, _) ↦ path ≠ ""
  | _ => false

/-- The process that the step brings to its end. -/
def termina : Evento → Option Pid
  | .devolverProceso r motivo respuesta _ =>
    if motivo.termina k.tablaIos respuesta then k.procesoDe r else none
  | .terminarIo i (.finalizada _) escritura =>
    match k.tablaIos[i]?.bind InterfazIo.atendido with
    | none => none
    | some req =>
      if req.tipo = .stdin ∧ req.proceso ∈ k.colaProcesosBlock ∧
          (k.pcbs req.proceso).estado ≠ .suspBlock ∧ escritura ≠ .ok then some req.proceso
      else none
  | .desSuspender pid respuesta escritura =>
    if pid ∈ k.listaSuspendidos ∧ (k.pcbs pid).estado = .suspReady ∧ respuesta = .ok ∧
        (k.pcbs pid).stdinPendiente.isSome ∧ escritura ≠ .ok then some pid
    else none
  | _ => none

/-- The same, where the release of its mutexes goes through: `notificar_fin_a_memoria`, `eliminar_pcb` and
`free` follow. -/
def finaliza (e : Evento) : Option Pid := (k.termina e).filter fun pid ↦ k.Liberable pid

/-- The process that `encolar_en_ready_por_prioridad` frees because its priority has no queue. -/
def descarta : Evento → Option Pid
  | .planificarLargoPlazo =>
    k.colaProcesosNew.head?.filter fun pid ↦
      0 < k.cantidadNivelesPrioridad ∧ ¬ k.NivelValido (k.pcbs pid).prioridad
  | _ => none

/-- The request to Kernel Memory about its list of processes; `instrucciones` is the program that it reads. -/
def pedidoDeRegistro (e : Evento) (instrucciones : List String) : Option Operacion :=
  if k.crea e then some (.crearProceso k.contadorPids instrucciones)
  else (k.finaliza e).map fun pid ↦ .finalizarProceso pid

end KernelScheduler

open KernelScheduler

/-- Both processes, and the PCBs that have been freed. -/
structure Registros where
  sistema : KernelScheduler
  memoria : KernelMemory
  liberados : List Pid

/-- A step of the scheduler, with the request it makes, or another operation of Kernel Memory. -/
inductive EventoRegistros
  | scheduler (e : Evento) (instrucciones : List String)
  | memoria (op : Operacion)

variable (qsort : Qsort)

/-- After a step that leads the scheduler to `k`. -/
def Registros.tras (r : Registros) (e : Evento) (instrucciones : List String) (k : KernelScheduler) :
    Registros where
  sistema := k
  memoria := match r.sistema.pedidoDeRegistro e instrucciones with
    | none => r.memoria
    | some op => (atender qsort r.memoria op).2
  liberados := r.liberados ++ (r.sistema.finaliza e).toList ++ (r.sistema.descarta e).toList

def pasoRegistros (r : Registros) : EventoRegistros → Option Registros
  | .scheduler e instrucciones => (paso r.sistema e).map (r.tras qsort e instrucciones)
  | .memoria op =>
    if op.Registra then none else some { r with memoria := (atender qsort r.memoria op).2 }

def ArranqueRegistros (r : Registros) : Prop :=
  Arranque r.sistema ∧ r.memoria.procesos = [] ∧ r.liberados = []

/-- Every process that is admitted has a queue for its priority. -/
def SinDescarte (r : Registros) : EventoRegistros → Prop
  | .scheduler e _ => r.sistema.descarta e = none
  | .memoria _ => True

instance (r : Registros) (e : EventoRegistros) : Decidable (SinDescarte r e) := by
  unfold SinDescarte
  split <;> infer_instance

/-- The registered PCBs are those created and not freed, Kernel Memory has the same processes, and no freed
PCB is anywhere: in a queue, on a CPU, in a mutex queue, suspended, registered or in a request of IO. -/
def RegistrosConsistentes (r : Registros) : Prop :=
  (∀ pid, pid ∈ r.sistema.todosLosProcesos ↔ pid < r.sistema.contadorPids ∧ pid ∉ r.liberados) ∧
  (∀ pid : ℤ, pid ∈ r.memoria.pids ↔ ∃ p ∈ r.sistema.todosLosProcesos, pid = p) ∧
  ∀ pid ∈ r.liberados, pid ∉ r.sistema.lugares ∧ pid ∉ r.sistema.listaSuspendidos ∧
    pid ∉ r.sistema.todosLosProcesos ∧ pid ∉ pedidosIo r.sistema.tablaIos

/-! ## The invariant -/

/-- A process in the list of the suspended waits in BLOCK or for its resumption. -/
def EsperaSuspendido (k : KernelScheduler) (pid : Pid) : Prop :=
  (k.pcbs pid).estado = .suspBlock ∧ pid ∈ k.colaProcesosBlock ∨ (k.pcbs pid).estado = .suspReady

structure Registrados (r : Registros) : Prop where
  registrados : ∀ pid, pid ∈ r.sistema.todosLosProcesos ↔
    pid < r.sistema.contadorPids ∧ pid ∉ r.liberados
  distintos : r.sistema.todosLosProcesos.Nodup
  memoria : r.memoria.pids = r.sistema.todosLosProcesos.map Int.ofNat
  terminados : ∀ pid ∈ r.liberados, pid < r.sistema.contadorPids ∧ (r.sistema.pcbs pid).estado = .exitState
  unaVez : r.sistema.listaSuspendidos.Nodup
  suspendidos : ∀ pid ∈ r.sistema.listaSuspendidos, EsperaSuspendido r.sistema pid
  pedidos : ∀ pid, (pedidosIo r.sistema.tablaIos).count pid ≤
    if pid ∈ r.sistema.colaProcesosBlock then 1 else 0

variable {r : Registros} {k k' : KernelScheduler} {pid q : Pid} {mano mano' : List Pid}

/-! ## Places -/

theorem apariciones_pos (h : pid ∈ k.lugares) : 0 < k.apariciones pid := by
  have hpos := List.count_pos_iff.mpr h
  unfold apariciones
  omega

/-- A process that has come to its end is nowhere. -/
theorem KernelScheduler.EnUnLugar.terminado (h : k.EnUnLugar mano) (hexit : (k.pcbs pid).estado = .exitState) :
    pid ∉ k.lugares ∧ pid ∉ mano := by
  have hpid := h pid
  rw [if_neg fun hvig ↦ hvig.2 hexit] at hpid
  constructor
  · intro hmem
    have hpos := apariciones_pos hmem
    omega
  · intro hmem
    have hpos := List.count_pos_iff.mpr hmem
    omega

theorem KernelScheduler.EnUnLugar.vigente (h : k.EnUnLugar mano) (hmem : pid ∈ k.lugares ∨ pid ∈ mano) :
    k.Vigente pid := by
  by_contra hno
  have hpid := h pid
  rw [if_neg hno] at hpid
  rcases hmem with hmem | hmem
  · have hpos := apariciones_pos hmem
    omega
  · have hpos := List.count_pos_iff.mpr hmem
    omega

theorem mem_lugares_mutex (h : k.EnColaDeMutex pid) : pid ∈ k.lugares := by
  obtain ⟨m, hm, hcola⟩ := h
  unfold lugares
  exact List.mem_append_right _ (List.mem_flatMap.mpr ⟨m, hm, hcola⟩)

/-- A process in BLOCK is neither in hand nor in the queue of a mutex. -/
theorem KernelScheduler.EnUnLugar.soloEnBlock (h : k.EnUnLugar mano) (hblock : pid ∈ k.colaProcesosBlock) :
    pid ∉ mano ∧ ¬ k.EnColaDeMutex pid := by
  have hpid := h pid
  have hpos := List.count_pos_iff.mpr hblock
  have hle : (if k.Vigente pid then 1 else 0) ≤ 1 := by
    split
    · exact Nat.le_refl 1
    · exact Nat.zero_le 1
  unfold apariciones lugares at hpid
  simp only [List.count_append] at hpid
  constructor
  · intro hmem
    have hmano := List.count_pos_iff.mpr hmem
    omega
  · rintro ⟨m, hm, hcola⟩
    have hmutex := List.count_pos_iff.mpr (List.mem_flatMap.mpr ⟨m, hm, hcola⟩)
    omega

/-- A process in SUSP_READY is in no place at all. -/
theorem KernelScheduler.EnUnLugar.soloEnSuspReady (h : k.EnUnLugar mano)
    (hestado : (k.pcbs pid).estado = .suspReady) : pid ∉ mano ∧ pid ∉ k.lugares := by
  have hpid := h pid
  have hle : (if k.Vigente pid then 1 else 0) ≤ 1 := by
    split
    · exact Nat.le_refl 1
    · exact Nat.zero_le 1
  unfold apariciones enSuspReady at hpid
  rw [if_pos hestado] at hpid
  constructor
  · intro hmem
    have hmano := List.count_pos_iff.mpr hmem
    omega
  · intro hmem
    have hlugar := List.count_pos_iff.mpr hmem
    omega

/-- A suspended process is neither in hand nor in the queue of a mutex. -/
theorem EsperaSuspendido.ajeno (h : EsperaSuspendido k pid) (hun : k.EnUnLugar mano) :
    pid ∉ mano ∧ ¬ k.EnColaDeMutex pid := by
  rcases h with ⟨_, hblock⟩ | hestado
  · exact hun.soloEnBlock hblock
  · have hfuera := hun.soloEnSuspReady hestado
    exact ⟨hfuera.1, fun hcola ↦ hfuera.2 (mem_lugares_mutex hcola)⟩

/-- What is in hand is not suspended, not in BLOCK, and has no request of IO. -/
theorem Registrados.enMano (h : Registrados r) (hun : r.sistema.EnUnLugar mano) (hpid : pid ∈ mano) :
    r.sistema.Vigente pid ∧ pid ∉ r.sistema.listaSuspendidos ∧
      (pedidosIo r.sistema.tablaIos).count pid = 0 := by
  refine ⟨hun.vigente (.inr hpid), fun hlista ↦ ((h.suspendidos pid hlista).ajeno hun).1 hpid, ?_⟩
  have hpedidos := h.pedidos pid
  rw [if_neg fun hblock ↦ (hun.soloEnBlock hblock).1 hpid] at hpedidos
  exact Nat.le_zero.mp hpedidos

/-! ## Changes -/

/-- What a handler does keeps the registries, if the processes in hand are still accounted for. -/
theorem Registrados.conMarco' (h : Registrados r) (hun : r.sistema.EnUnLugar mano)
    (hmarco : Marco mano' r.sistema k') (hvivos : ∀ q ∈ mano', r.sistema.Vigente q)
    (hlista : ∀ q ∈ mano', q ∈ r.sistema.listaSuspendidos → EsperaSuspendido k' q)
    (hpedidos : ∀ q ∈ mano', (pedidosIo r.sistema.tablaIos).count q = 0) :
    Registrados { r with sistema := k' } where
  registrados pid := by
    show pid ∈ k'.todosLosProcesos ↔ pid < k'.contadorPids ∧ _
    rw [hmarco.todos, hmarco.contador]
    exact h.registrados pid
  distintos := by
    show k'.todosLosProcesos.Nodup
    rw [hmarco.todos]
    exact h.distintos
  memoria := by
    show _ = k'.todosLosProcesos.map Int.ofNat
    rw [hmarco.todos]
    exact h.memoria
  terminados pid hpid := by
    obtain ⟨hcota, hexit⟩ := h.terminados pid hpid
    have hfuera := hun.terminado hexit
    have hmano : pid ∉ mano' := fun hmem ↦ (hvivos pid hmem).2 hexit
    have hestado := hmarco.estados pid hmano fun hcola ↦ hfuera.1 (mem_lugares_mutex hcola)
    exact ⟨hmarco.contador ▸ hcota, hestado.trans hexit⟩
  unaVez := by
    show k'.listaSuspendidos.Nodup
    rw [hmarco.suspendidos]
    exact h.unaVez
  suspendidos pid hpid := by
    change pid ∈ k'.listaSuspendidos at hpid
    rw [hmarco.suspendidos] at hpid
    show EsperaSuspendido k' pid
    by_cases hmano : pid ∈ mano'
    · exact hlista pid hmano hpid
    have hsusp := h.suspendidos pid hpid
    have hestado := hmarco.estados pid hmano (hsusp.ajeno hun).2
    unfold EsperaSuspendido
    rw [hestado]
    exact hsusp.imp (fun hblock ↦ ⟨hblock.1, hmarco.block pid hmano hblock.2⟩) id
  pedidos pid := by
    show (pedidosIo k'.tablaIos).count pid ≤ if pid ∈ k'.colaProcesosBlock then 1 else 0
    rw [hmarco.ios]
    by_cases hmano : pid ∈ mano'
    · rw [hpedidos pid hmano]
      exact Nat.zero_le _
    have hpid := h.pedidos pid
    by_cases hblock : pid ∈ r.sistema.colaProcesosBlock
    · rw [if_pos hblock] at hpid
      rw [if_pos (hmarco.block pid hmano hblock)]
      exact hpid
    · rw [if_neg hblock] at hpid
      omega

theorem Registrados.conMarco (h : Registrados r) (hun : r.sistema.EnUnLugar mano)
    (hmarco : Marco mano r.sistema k') : Registrados { r with sistema := k' } :=
  h.conMarco' hun hmarco (fun _ hq ↦ (h.enMano hun hq).1)
    (fun _ hq hlista ↦ absurd hlista (h.enMano hun hq).2.1) fun _ hq ↦ (h.enMano hun hq).2.2

/-- The requests of IO change; each process that has one is in BLOCK. -/
theorem Registrados.conIos (h : Registrados r) {tabla : List InterfazIo}
    (htabla : ∀ pid, (pedidosIo tabla).count pid ≤
      if pid ∈ r.sistema.colaProcesosBlock then 1 else 0) :
    Registrados { r with sistema := { r.sistema with tablaIos := tabla } } :=
  ⟨h.registrados, h.distintos, h.memoria, h.terminados, h.unaVez, h.suspendidos, htabla⟩

theorem Registrados.conMenosIos (h : Registrados r) {tabla : List InterfazIo}
    (htabla : ∀ pid, (pedidosIo tabla).count pid ≤ (pedidosIo r.sistema.tablaIos).count pid) :
    Registrados { r with sistema := { r.sistema with tablaIos := tabla } } :=
  h.conIos fun pid ↦ (htabla pid).trans (h.pedidos pid)

theorem Registrados.atendido (h : Registrados r) (hun : r.sistema.EnUnLugar [pid])
    (hatendido : Atendido r.sistema pid k') : Registrados { r with sistema := k' } := by
  obtain ⟨k₁, tabla, hmarco, rfl, hpedidos⟩ := hatendido
  have hk₁ := h.conMarco hun hmarco
  apply hk₁.conIos
  intro q
  have hantes := hk₁.pedidos q
  change (pedidosIo k₁.tablaIos).count q ≤ if q ∈ k₁.colaProcesosBlock then 1 else 0 at hantes
  rw [hmarco.ios] at hantes
  rcases hpedidos q with hq | ⟨hq, hblock, hcuenta⟩
  · exact hq.trans hantes
  · have hcero := (h.enMano hun List.mem_cons_self).2.2
    rw [hq] at hcuenta ⊢
    rw [if_pos hblock]
    omega

theorem Registrados.remover (h : Registrados r) (pid : Pid) :
    Registrados { r with sistema := r.sistema.removerDeListaSuspendidos pid } where
  registrados := h.registrados
  distintos := h.distintos
  memoria := h.memoria
  terminados := h.terminados
  unaVez := h.unaVez.erase pid
  suspendidos q hq := h.suspendidos q (List.mem_of_mem_erase hq)
  pedidos := h.pedidos

theorem Registrados.noSuspendido (h : Registrados r) (pid : Pid) :
    pid ∉ (r.sistema.removerDeListaSuspendidos pid).listaSuspendidos :=
  h.unaVez.not_mem_erase

/-- The PCB of a process in its last state is freed, and Kernel Memory forgets it. -/
theorem Registrados.liberar (h : Registrados r) (hcota : pid < r.sistema.contadorPids)
    (hexit : (r.sistema.pcbs pid).estado = .exitState) :
    Registrados ⟨r.sistema.eliminarPcb pid, (atender qsort r.memoria (.finalizarProceso pid)).2,
      r.liberados ++ [pid]⟩ where
  registrados q := by
    show q ∈ r.sistema.todosLosProcesos.erase pid ↔ q < r.sistema.contadorPids ∧ q ∉ r.liberados ++ [pid]
    rw [h.distintos.mem_erase_iff, h.registrados q, List.mem_append, List.mem_singleton]
    tauto
  distintos := h.distintos.erase pid
  memoria := by
    show _ = (r.sistema.todosLosProcesos.erase pid).map Int.ofNat
    rw [pids_finalizarProceso, h.memoria, List.map_erase fun _ _ ↦ Int.ofNat.inj]
    rfl
  terminados q hq := by
    rcases List.mem_append.mp hq with hq | hq
    · exact h.terminados q hq
    · rw [List.mem_singleton.mp hq]
      exact ⟨hcota, hexit⟩
  unaVez := h.unaVez
  suspendidos := h.suspendidos
  pedidos := h.pedidos

theorem Registrados.terminado (h : Registrados r) (hun : r.sistema.EnUnLugar mano)
    (hvivo : r.sistema.Vigente pid) (hlista : pid ∉ r.sistema.listaSuspendidos)
    (hpedidos : (pedidosIo r.sistema.tablaIos).count pid = 0) (hterminado : Terminado r.sistema pid k') :
    Registrados ⟨k', (atender qsort r.memoria (.finalizarProceso pid)).2, r.liberados ++ [pid]⟩ := by
  obtain ⟨hmarco, hexit⟩ := hterminado
  have hantes : Marco [pid] r.sistema { k' with todosLosProcesos := r.sistema.todosLosProcesos } :=
    ⟨hmarco.contador, rfl, hmarco.suspendidos, hmarco.ios, hmarco.colas, hmarco.estados, hmarco.block⟩
  have hregistrados : Registrados { r with
      sistema := { k' with todosLosProcesos := r.sistema.todosLosProcesos } } := by
    apply h.conMarco' hun hantes
    · intro q hq
      rw [List.mem_singleton.mp hq]
      exact hvivo
    · intro q hq hsusp
      rw [List.mem_singleton.mp hq] at hsusp
      exact absurd hsusp hlista
    · intro q hq
      rw [List.mem_singleton.mp hq]
      exact hpedidos
  have hcota : pid < k'.contadorPids := by
    rw [hmarco.contador]
    exact hvivo.1
  have hliberado := hregistrados.liberar qsort hcota hexit
  have hk' : { k' with todosLosProcesos := r.sistema.todosLosProcesos }.eliminarPcb pid = k' := by
    unfold KernelScheduler.eliminarPcb
    have htodos : r.sistema.todosLosProcesos.erase pid = k'.todosLosProcesos := hmarco.todos.symm
    simp only [htodos]
  rw [hk'] at hliberado
  exact hliberado

/-- A new process is registered on both sides. -/
theorem Registrados.crear (h : Registrados r) (hun : r.sistema.EnUnLugar mano) {path : String}
    (hpath : path ≠ "") (prioridad : ℤ) (instrucciones : List String) :
    Registrados ⟨r.sistema.crearProceso path prioridad,
      (atender qsort r.memoria (.crearProceso r.sistema.contadorPids instrucciones)).2, r.liberados⟩ := by
  have hviejo : ∀ q, q < r.sistema.contadorPids →
      ((r.sistema.crearProceso path prioridad).pcbs q).estado = (r.sistema.pcbs q).estado := by
    intro q hq
    unfold KernelScheduler.crearProceso
    rw [if_neg hpath]
    simp only [Function.update_of_ne (Nat.ne_of_lt hq)]
  have hsuspVigente : ∀ q ∈ r.sistema.listaSuspendidos, q < r.sistema.contadorPids := by
    intro q hq
    rcases h.suspendidos q hq with ⟨_, hblock⟩ | hestado
    · have hlugar : q ∈ r.sistema.lugares :=
        List.mem_append_left _ (List.mem_append_right _ hblock)
      exact (hun.vigente (.inl hlugar)).1
    · by_contra hno
      have hq := hun q
      rw [if_neg fun hvig ↦ hno hvig.1] at hq
      unfold apariciones enSuspReady at hq
      rw [if_pos hestado] at hq
      omega
  have hcontador : (r.sistema.crearProceso path prioridad).contadorPids = r.sistema.contadorPids + 1 := by
    unfold KernelScheduler.crearProceso
    rw [if_neg hpath]
  have htodos : (r.sistema.crearProceso path prioridad).todosLosProcesos =
      r.sistema.todosLosProcesos ++ [r.sistema.contadorPids] := by
    unfold KernelScheduler.crearProceso
    rw [if_neg hpath]
  have hresto : (r.sistema.crearProceso path prioridad).listaSuspendidos = r.sistema.listaSuspendidos ∧
      (r.sistema.crearProceso path prioridad).tablaIos = r.sistema.tablaIos ∧
      (r.sistema.crearProceso path prioridad).colaProcesosBlock = r.sistema.colaProcesosBlock := by
    unfold KernelScheduler.crearProceso
    rw [if_neg hpath]
    exact ⟨rfl, rfl, rfl⟩
  refine ⟨fun q ↦ ?_, ?_, ?_, fun q hq ↦ ?_, ?_, fun q hq ↦ ?_, fun q ↦ ?_⟩
  · show q ∈ (r.sistema.crearProceso path prioridad).todosLosProcesos ↔
      q < (r.sistema.crearProceso path prioridad).contadorPids ∧ q ∉ r.liberados
    rw [htodos, hcontador, List.mem_append, List.mem_singleton, h.registrados q, Nat.lt_succ_iff_lt_or_eq]
    constructor
    · rintro (⟨hcota, hno⟩ | rfl)
      · exact ⟨.inl hcota, hno⟩
      · exact ⟨.inr rfl, fun hliberado ↦ Nat.lt_irrefl _ (h.terminados _ hliberado).1⟩
    · rintro ⟨hcota | rfl, hno⟩
      · exact .inl ⟨hcota, hno⟩
      · exact .inr rfl
  · show (r.sistema.crearProceso path prioridad).todosLosProcesos.Nodup
    rw [htodos, List.nodup_append]
    refine ⟨h.distintos, List.nodup_singleton _, ?_⟩
    rintro q hq q' hq' rfl
    rw [List.mem_singleton.mp hq'] at hq
    exact Nat.lt_irrefl _ ((h.registrados _).mp hq).1
  · show _ = (r.sistema.crearProceso path prioridad).todosLosProcesos.map Int.ofNat
    rw [pids_crearProceso, h.memoria, htodos, List.map_append]
    rfl
  · obtain ⟨hcota, hexit⟩ := h.terminados q hq
    refine ⟨?_, (hviejo q hcota).trans hexit⟩
    rw [hcontador]
    exact Nat.lt_succ_of_lt hcota
  · show (r.sistema.crearProceso path prioridad).listaSuspendidos.Nodup
    rw [hresto.1]
    exact h.unaVez
  · change q ∈ (r.sistema.crearProceso path prioridad).listaSuspendidos at hq
    rw [hresto.1] at hq
    show EsperaSuspendido (r.sistema.crearProceso path prioridad) q
    unfold EsperaSuspendido
    rw [hviejo q (hsuspVigente q hq), hresto.2.2]
    exact h.suspendidos q hq
  · show (pedidosIo (r.sistema.crearProceso path prioridad).tablaIos).count q ≤
      if q ∈ (r.sistema.crearProceso path prioridad).colaProcesosBlock then 1 else 0
    rw [hresto.2.1, hresto.2.2]
    exact h.pedidos q

end PlugAndPlay.Planificador
