import PlugAndPlay.Planificador.HerenciaExacta
import PlugAndPlay.Planificador.Sitios

/-!
# What a handler leaves alone

A handler has one process in hand. A process that is not in hand and waits for no mutex keeps its state
and its place in BLOCK, whether the handler comes to its end or stops at a lock.
-/

open PlugAndPlay.Library

namespace PlugAndPlay.Planificador

/-- The program and the priority of the process that the return creates. -/
def Motivo.crea : Motivo → Option (String × ℤ)
  | .syscall (.initProc params) => params
  | _ => none

namespace KernelScheduler

variable {k k' k'' : KernelScheduler} {pid q : Pid} {mano : List Pid}

def EnColaDeMutex (k : KernelScheduler) (pid : Pid) : Prop := ∃ m ∈ k.listaMutexes, pid ∈ m.colaBloqueados

/-- The processes in hand and those that wait for a mutex may change; the others stay as they are. -/
structure Marco (mano : List Pid) (k k' : KernelScheduler) : Prop where
  contador : k'.contadorPids = k.contadorPids
  todos : k'.todosLosProcesos = k.todosLosProcesos
  suspendidos : k'.listaSuspendidos = k.listaSuspendidos
  ios : k'.tablaIos = k.tablaIos
  colas : ∀ q, q ∉ mano → ¬ k.EnColaDeMutex q → ¬ k'.EnColaDeMutex q
  estados : ∀ q, q ∉ mano → ¬ k.EnColaDeMutex q → (k'.pcbs q).estado = (k.pcbs q).estado
  block : ∀ q, q ∉ mano → q ∈ k.colaProcesosBlock → q ∈ k'.colaProcesosBlock

theorem Marco.refl (k : KernelScheduler) : Marco mano k k :=
  ⟨rfl, rfl, rfl, rfl, fun _ _ ↦ id, fun _ _ _ ↦ rfl, fun _ _ ↦ id⟩

theorem Marco.trans (h : Marco mano k k') (h' : Marco mano k' k'') : Marco mano k k'' where
  contador := h'.contador.trans h.contador
  todos := h'.todos.trans h.todos
  suspendidos := h'.suspendidos.trans h.suspendidos
  ios := h'.ios.trans h.ios
  colas q hmano hcola := h'.colas q hmano (h.colas q hmano hcola)
  estados q hmano hcola := (h'.estados q hmano (h.colas q hmano hcola)).trans (h.estados q hmano hcola)
  block q hmano hblock := h'.block q hmano (h.block q hmano hblock)

theorem Marco.mono (h : Marco [] k k') (mano : List Pid) : Marco mano k k' where
  contador := h.contador
  todos := h.todos
  suspendidos := h.suspendidos
  ios := h.ios
  colas q _ := h.colas q List.not_mem_nil
  estados q _ := h.estados q List.not_mem_nil
  block q _ := h.block q List.not_mem_nil

/-- A change of the PCBs in hand and of what the frame does not speak of. -/
theorem Marco.of_pcbs (hcontador : k'.contadorPids = k.contadorPids)
    (htodos : k'.todosLosProcesos = k.todosLosProcesos)
    (hsuspendidos : k'.listaSuspendidos = k.listaSuspendidos) (hios : k'.tablaIos = k.tablaIos)
    (hmutexes : k'.listaMutexes = k.listaMutexes) (hblock : k'.colaProcesosBlock = k.colaProcesosBlock)
    (hpcbs : ∀ q, q ∉ mano → (k'.pcbs q).estado = (k.pcbs q).estado) : Marco mano k k' := by
  refine ⟨hcontador, htodos, hsuspendidos, hios, fun q _ ↦ ?_, fun q hmano _ ↦ hpcbs q hmano, fun q _ ↦ ?_⟩
  · unfold EnColaDeMutex
    rw [hmutexes]
    exact id
  · rw [hblock]
    exact id

theorem estado_modificarPcb_otro (f : Pcb → Pcb) (hq : q ∉ [pid]) :
    ((k.modificarPcb pid f).pcbs q).estado = (k.pcbs q).estado := by
  rw [pcbs_modificarPcb, if_neg fun hpid ↦ hq (List.mem_singleton.mpr hpid)]

theorem marco_modificarPcb (k : KernelScheduler) (pid : Pid) (f : Pcb → Pcb) :
    Marco [pid] k (k.modificarPcb pid f) :=
  .of_pcbs rfl rfl rfl rfl rfl rfl fun _ ↦ estado_modificarPcb_otro f

theorem marco_cambiarEstado (k : KernelScheduler) (pid : Pid) (estado : Estado) :
    Marco [pid] k (k.cambiarEstado pid estado) :=
  marco_modificarPcb k pid _

/-! ## READY queues and priorities -/

theorem marco_de_salvoReady (h : SalvoReady k k') : Marco mano k k' := by
  have hpcbs : ∀ q, q ∉ mano → (k'.pcbs q).estado = (k.pcbs q).estado := by
    intro q _
    rw [h.pcbs]
  rw [h] at hpcbs ⊢
  exact .of_pcbs rfl rfl rfl rfl rfl rfl hpcbs

theorem marco_encolar (k : KernelScheduler) (pid : Pid) : Marco [pid] k (k.encolarEnReadyYNotificar pid) :=
  (marco_cambiarEstado k pid .ready).trans <| marco_de_salvoReady (salvoReady_encolar k pid)

theorem marco_encolarDesalojado (k : KernelScheduler) (pid : Pid) : Marco [pid] k (k.encolarDesalojado pid) :=
  (marco_cambiarEstado k pid .ready).trans <|
    marco_de_salvoReady (salvoReady_encolarDesalojado k pid)

theorem marco_de_salvoDinamicas (h : SalvoDinamicas k k') : Marco mano k k' := by
  have hpcbs : ∀ q, q ∉ mano → (k'.pcbs q).estado = (k.pcbs q).estado := fun q _ ↦ h.estado q
  rw [h.resto] at hpcbs ⊢
  exact .of_pcbs rfl rfl rfl rfl rfl rfl hpcbs

theorem salvoDinamicas_propagar (fuel : ℕ) (k : KernelScheduler) (bloqueado : Pid) (aHeredar : ℤ) :
    SalvoDinamicas k (propagarHerencia fuel k bloqueado aHeredar) := by
  induction fuel generalizing k bloqueado with
  | zero => exact .rfl
  | succ fuel ih =>
    unfold propagarHerencia
    split
    · exact .rfl
    split
    · exact .rfl
    split
    · rename_i poseedor _ _
      have hcambio := (salvoDinamicas_cambiar k poseedor aHeredar).trans
        (salvoReady_reubicar _ poseedor (k.pcbs poseedor).prioridadDinamica aHeredar).salvoDinamicas
      simp only
      split
      · exact hcambio.trans (ih _ poseedor)
      · exact hcambio
    · exact .rfl

/-! ## Mutexes -/

/-- The queues of the mutexes only lose processes, or gain those in hand. -/
theorem Marco.of_mutexes {mutexes : List MutexSistema} (tomada : Bool)
    (h : ∀ m' ∈ mutexes, ∀ q, q ∉ mano → q ∈ m'.colaBloqueados → k.EnColaDeMutex q) :
    Marco mano k { k with listaMutexes := mutexes, mutexListaMutexes := tomada } := by
  refine ⟨rfl, rfl, rfl, rfl, fun q hmano hcola ↦ ?_, fun _ _ _ ↦ rfl, fun _ _ ↦ id⟩
  rintro ⟨m', hm', hespera⟩
  exact hcola (h m' hm' q hmano hespera)

theorem marco_modificarMutex (k : KernelScheduler) (i : ℕ) {f : MutexSistema → MutexSistema}
    (hf : ∀ m, k.listaMutexes[i]? = some m → ∀ q, q ∉ mano → q ∈ (f m).colaBloqueados →
      q ∈ m.colaBloqueados) : Marco mano k (k.modificarMutex i f) := by
  apply Marco.of_mutexes k.mutexListaMutexes
  intro m' hm' q hmano hespera
  obtain ⟨j, hj⟩ := List.mem_iff_getElem?.mp hm'
  rw [List.getElem?_modify] at hj
  obtain ⟨m, hm, rfl⟩ := Option.map_eq_some_iff.mp hj
  refine ⟨m, List.mem_of_getElem? hm, ?_⟩
  split at hespera
  · rename_i hij
    exact hf m (hij ▸ hm) q hmano hespera
  · exact hespera

theorem marco_cambiarPoseedor (k : KernelScheduler) (i : ℕ) (poseedor : Option Pid) :
    Marco mano k (k.modificarMutex i fun m ↦ { m with asignadoAPid := poseedor }) :=
  marco_modificarMutex k i fun _ _ _ _ ↦ id

theorem marco_conMutexNuevo (k : KernelScheduler) (nombre : String) :
    Marco mano k (k.conMutexNuevo nombre) := by
  apply Marco.of_mutexes k.mutexListaMutexes
  intro m' hm' q _ hespera
  rcases List.mem_append.mp hm' with hm' | hm'
  · exact ⟨m', hm', hespera⟩
  · rw [List.mem_singleton.mp hm'] at hespera
    cases hespera

/-- The process that gets the mutex has waited for it. -/
theorem marco_asignarASiguiente {i : ℕ} {m : MutexSistema} {siguiente : Pid} {resto : List Pid}
    (hm : k.listaMutexes[i]? = some m) (hcola : m.colaBloqueados = siguiente :: resto) :
    Marco mano k (k.asignarASiguiente i siguiente) := by
  have hespera : k.EnColaDeMutex siguiente := by
    refine ⟨m, List.mem_of_getElem? hm, ?_⟩
    rw [hcola]
    exact List.mem_cons_self
  have hpasado : Marco mano k (k.modificarMutex i fun m ↦
      { m with asignadoAPid := some siguiente, colaBloqueados := m.colaBloqueados.tail }) :=
    marco_modificarMutex k i fun _ _ _ _ ↦ List.mem_of_mem_tail
  have hready := marco_modificarPcb (k.modificarMutex i fun m ↦
    { m with asignadoAPid := some siguiente, colaBloqueados := m.colaBloqueados.tail }) siguiente
    fun p ↦ { p with mutexEsperando := none, estado := .ready }
  have hsuyo : Marco [siguiente] k (k.asignarASiguiente i siguiente) := by
    apply Marco.trans _ (marco_encolar _ siguiente)
    exact (marco_modificarMutex k i fun _ _ _ _ ↦ List.mem_of_mem_tail).trans hready
  have hajeno : ∀ q, ¬ k.EnColaDeMutex q → q ∉ [siguiente] := by
    intro q hq hmem
    rw [List.mem_singleton.mp hmem] at hq
    exact hq hespera
  refine ⟨hsuyo.contador, hsuyo.todos, hsuyo.suspendidos, hsuyo.ios,
    fun q _ hcola ↦ hsuyo.colas q (hajeno q hcola) hcola,
    fun q _ hcola ↦ hsuyo.estados q (hajeno q hcola) hcola, fun q _ hblock ↦ ?_⟩
  have hsalvo := salvoReady_encolar ((k.modificarMutex i fun m ↦
    { m with asignadoAPid := some siguiente, colaBloqueados := m.colaBloqueados.tail }).modificarPcb
      siguiente fun p ↦ { p with mutexEsperando := none, estado := .ready }) siguiente
  have hmismo : (k.asignarASiguiente i siguiente).colaProcesosBlock = k.colaProcesosBlock :=
    (congrArg KernelScheduler.colaProcesosBlock hsalvo :)
  rw [hmismo]
  exact hblock

/-- The release of the mutexes of the process goes through. -/
def Liberable (k : KernelScheduler) (pid : Pid) : Prop := k.mutexListaMutexes = false ∧ k.SinDisputa pid

instance (k : KernelScheduler) : DecidablePred k.Liberable := fun _ ↦ inferInstanceAs (Decidable (_ ∧ _))

theorem marco_liberados (mano : List Pid) (k : KernelScheduler) (f : MutexSistema → MutexSistema)
    (hf : ∀ m q, q ∈ (f m).colaBloqueados → q ∈ m.colaBloqueados) (n : ℕ) (tomada : Bool) :
    Marco mano k { k with
      listaMutexes := k.listaMutexes.mapIdx fun i m ↦ if i < n then f m else m
      mutexListaMutexes := tomada } := by
  apply Marco.of_mutexes tomada
  intro m' hm' q _ hespera
  obtain ⟨i, hi, rfl⟩ := List.mem_mapIdx.mp hm'
  refine ⟨_, List.getElem_mem hi, ?_⟩
  split at hespera
  · exact hf _ q hespera
  · exact hespera

theorem mem_cola_liberado (m : MutexSistema) (h : q ∈ (m.liberado pid).colaBloqueados) :
    q ∈ m.colaBloqueados := by
  unfold MutexSistema.liberado at h
  split at h
  · exact h
  · exact List.mem_of_mem_filter h

theorem liberarMutexes_ok (mano : List Pid) (h : k.Liberable pid) :
    ∃ k', liberarMutexesDeProceso pid k = .ok () k' ∧ Marco mano k k' ∧ k'.pcbs = k.pcbs := by
  refine ⟨_, liberarMutexesDeProceso_sinDisputa h.1 h.2, ?_, rfl⟩
  apply Marco.of_mutexes k.mutexListaMutexes
  intro m' hm' q _ hespera
  obtain ⟨m, hm, rfl⟩ := List.mem_map.mp hm'
  exact ⟨m, hm, mem_cola_liberado m hespera⟩

theorem liberarMutexes_error (mano : List Pid) (h : ¬ k.Liberable pid) :
    ∃ k', liberarMutexesDeProceso pid k = .error () k' ∧ Marco mano k k' := by
  by_cases hlibre : k.mutexListaMutexes = false
  swap
  · exact ⟨k, liberarMutexesDeProceso_tomada (Bool.eq_true_of_not_eq_false hlibre), .refl k⟩
  have hdisputa : ∃ m ∈ k.listaMutexes, ¬ m.SinDisputa pid := by
    have hno : ¬ k.SinDisputa pid := fun hsin ↦ h ⟨hlibre, hsin⟩
    unfold KernelScheduler.SinDisputa at hno
    push Not at hno
    exact hno
  obtain ⟨i, hi⟩ : ∃ i, k.listaMutexes.findIdx? (fun m ↦ ¬ m.SinDisputa pid) = some i := by
    apply Option.isSome_iff_exists.mp
    rw [List.findIdx?_isSome, List.any_eq_true]
    obtain ⟨m, hm, hno⟩ := hdisputa
    exact ⟨m, hm, decide_eq_true hno⟩
  obtain ⟨hlt, hprimero, hantes⟩ := List.findIdx?_eq_some_iff_getElem.mp hi
  have hm := List.getElem?_eq_getElem hlt
  generalize k.listaMutexes[i] = m at hm hprimero
  obtain ⟨hposee, hcola⟩ := Classical.not_imp.mp (of_decide_eq_true hprimero)
  obtain ⟨siguiente, resto, hcola⟩ := List.exists_cons_of_ne_nil hcola
  refine ⟨_, liberarMutexesDeProceso_disputada hlibre hm hposee hcola ?_, ?_⟩
  · intro j m' hj hm'
    have hno := hantes j hj
    obtain ⟨_, rfl⟩ := List.getElem?_eq_some_iff.mp hm'
    simpa using hno
  · have hrecorrido := marco_liberados mano k (MutexSistema.liberado pid)
      (fun m _ ↦ mem_cola_liberado m) i true
    apply hrecorrido.trans
    have hm' : (liberadosHasta pid i k.listaMutexes)[i]? = some m := by
      simp [liberadosHasta, hm]
    exact marco_asignarASiguiente hm' hcola

/-! ## Ends of processes -/

theorem Marco.eliminarPcb (h : Marco mano k k') (pid : Pid) :
    Marco mano (k.eliminarPcb pid) (k'.eliminarPcb pid) := by
  refine ⟨h.contador, ?_, h.suspendidos, h.ios, h.colas, h.estados, h.block⟩
  unfold KernelScheduler.eliminarPcb
  rw [h.todos]

/-- The process has come to its end: it is not registered any more. -/
def Terminado (k : KernelScheduler) (pid : Pid) (k' : KernelScheduler) : Prop :=
  Marco [pid] (k.eliminarPcb pid) k' ∧ (k'.pcbs pid).estado = .exitState

theorem Terminado.luego (h : Terminado k pid k') (h' : Marco [] k' k'')
    (hpcbs : k''.pcbs = k'.pcbs) : Terminado k pid k'' := by
  refine ⟨h.1.trans (h'.mono [pid]), ?_⟩
  rw [hpcbs]
  exact h.2

/-- The two ends of the release after the process has got its last state. -/
theorem liberarYEliminar (hmarco : Marco [pid] k k') (hexit : (k'.pcbs pid).estado = .exitState)
    (htomada : k'.mutexListaMutexes = k.mutexListaMutexes) (hlista : k'.listaMutexes = k.listaMutexes)
    {resto : Unit → Hilo Unit} (f : KernelScheduler → KernelScheduler)
    (hresto : ∀ k, resto () k = .ok () ((f k).eliminarPcb pid)) (hf : ∀ k, Marco [pid] k (f k))
    (hestado : ∀ k, ((f k).pcbs pid).estado = (k.pcbs pid).estado) :
    if k.Liberable pid then Terminado k pid ((liberarMutexesDeProceso pid >>= resto).final k')
    else Marco [pid] k ((liberarMutexesDeProceso pid >>= resto).final k') := by
  have hliberable : k'.Liberable pid ↔ k.Liberable pid := by
    unfold Liberable KernelScheduler.SinDisputa
    rw [htomada, hlista]
  unfold Blocking.final
  by_cases hsi : k.Liberable pid
  · rw [if_pos hsi]
    obtain ⟨k₁, hrun, hm, hpcbs⟩ := liberarMutexes_ok [pid] (hliberable.mpr hsi)
    rw [Blocking.bind_ok hrun, hresto]
    refine ⟨((hmarco.trans hm).trans (hf k₁)).eliminarPcb pid, ?_⟩
    show ((f k₁).pcbs pid).estado = _
    rw [hestado, hpcbs]
    exact hexit
  · rw [if_neg hsi]
    obtain ⟨k₁, hrun, hm⟩ := liberarMutexes_error [pid] (mt hliberable.mp hsi)
    rw [Blocking.bind_error hrun]
    exact hmarco.trans hm

theorem finalizarProceso_final (k : KernelScheduler) (pid : Pid) :
    if k.Liberable pid then Terminado k pid ((finalizarProceso pid).final k)
    else Marco [pid] k ((finalizarProceso pid).final k) :=
  liberarYEliminar (marco_cambiarEstado k pid .exitState) (estado_cambiarEstado k pid .exitState) rfl rfl
    id (fun _ ↦ rfl) .refl fun _ ↦ rfl

/-- The same for a process that may be in the list of the suspended. -/
theorem finalizarPcb_final (k : KernelScheduler) (pid : Pid) :
    if k.Liberable pid then
      Terminado (k.removerDeListaSuspendidos pid) pid ((finalizarPcbPorSegFault pid).final k)
    else Marco [pid] (k.removerDeListaSuspendidos pid) ((finalizarPcbPorSegFault pid).final k) :=
  liberarYEliminar (k := k.removerDeListaSuspendidos pid)
    (marco_cambiarEstado (k.removerDeListaSuspendidos pid) pid .exitState)
    (estado_cambiarEstado (k.removerDeListaSuspendidos pid) pid .exitState) rfl rfl
    (fun k ↦ k.modificarPcb pid fun p ↦ { p with stdinPendiente := none }) (fun _ ↦ rfl)
    (fun k ↦ marco_modificarPcb k pid _) fun k ↦ by rw [pcbs_modificarPcb_mismo]

/-- The slot reserved for a memory syscall goes free when the process has come to its end. -/
theorem finalizarYLiberar_final (k : KernelScheduler) (pid : Pid) (cpuId : ℕ) :
    if k.Liberable pid then Terminado k pid ((finalizarYLiberarCpu pid cpuId).final k)
    else Marco [pid] k ((finalizarYLiberarCpu pid cpuId).final k) := by
  have hfin := finalizarProceso_final k pid
  have hlibre : ∀ k : KernelScheduler, Marco [] k (k.liberarReservada cpuId) := fun _ ↦
    .of_pcbs rfl rfl rfl rfl rfl rfl fun _ _ ↦ rfl
  unfold finalizarYLiberarCpu
  unfold Blocking.final at hfin ⊢
  cases hrun : finalizarProceso pid k with
  | ok a k' =>
    rw [hrun] at hfin
    rw [Blocking.bind_ok hrun]
    split at hfin
    · rename_i hsi
      rw [if_pos hsi]
      exact hfin.luego (hlibre k') rfl
    · rename_i hno
      rw [if_neg hno]
      exact hfin.trans ((hlibre k').mono [pid])
  | error e k' =>
    rw [hrun] at hfin
    rw [Blocking.bind_error hrun]
    exact hfin

/-! ## Mutex syscalls -/

theorem marco_asignarPrioridad (k : KernelScheduler) (pid : Pid) (prioridad : ℤ) :
    Marco mano k (k.asignarPrioridadDinamica pid prioridad) :=
  marco_de_salvoDinamicas (salvoDinamicas_asignar k pid prioridad)

theorem marco_notificarProcesoEnBlock (k : KernelScheduler) (pid : Pid) (epoch : UInt32) :
    Marco mano k (k.notificarProcesoEnBlock pid epoch) := by
  unfold KernelScheduler.notificarProcesoEnBlock
  split
  · exact .refl k
  · exact .of_pcbs rfl rfl rfl rfl rfl rfl fun _ _ ↦ rfl

theorem marco_notificarEspera (k : KernelScheduler) (pid : Pid) : Marco [pid] k (k.notificarEspera pid) := by
  unfold KernelScheduler.notificarEspera
  have hepoch := marco_modificarPcb k pid fun p ↦ { p with blockEpoch := p.blockEpoch + 1 }
  exact hepoch.trans (marco_notificarProcesoEnBlock _ _ _)

theorem marco_esperarMutex (k : KernelScheduler) (pid : Pid) (i : ℕ) : Marco [pid] k (k.esperarMutex pid i) := by
  apply (marco_modificarPcb k pid fun p ↦ { p with estado := .block, mutexEsperando := some i }).trans
  apply marco_modificarMutex
  intro m _ q hmano hespera
  exact (List.mem_append.mp hespera).resolve_right hmano

theorem marco_pasoMutex (h : PasoMutex k pid k') : Marco [pid] k k' := by
  cases h with
  | nada => exact marco_encolar k pid
  | crear nombre => exact (marco_conMutexNuevo k nombre).trans (marco_encolar _ pid)
  | tomar _ _ => exact (marco_cambiarPoseedor k _ _).trans (marco_encolar _ pid)
  | tomarNuevo nombre =>
    apply Marco.trans _ (marco_encolar _ pid)
    exact (marco_conMutexNuevo k nombre).trans (marco_cambiarPoseedor _ _ _)
  | esperar _ _ =>
    apply Marco.trans _ (marco_notificarEspera _ pid)
    exact (marco_esperarMutex k pid _).trans (marco_de_salvoDinamicas (salvoDinamicas_propagar _ _ _ _))
  | soltar _ _ _ hk₁ hk₂ =>
    apply Marco.trans _ (marco_encolar _ pid)
    rw [hk₂]
    apply Marco.trans _ (marco_asignarPrioridad _ _ _)
    rw [hk₁]
    exact marco_cambiarPoseedor k _ none
  | pasar hm _ hcola hk₁ hk₂ hk₃ =>
    apply Marco.trans _ (marco_encolar _ pid)
    rw [hk₃]
    apply Marco.trans _ (marco_asignarPrioridad _ _ _)
    rw [hk₂]
    apply Marco.trans _ (marco_asignarPrioridad _ _ _)
    rw [hk₁]
    exact marco_asignarASiguiente hm hcola

theorem final_parado {α β : Type} {x : Hilo α} (h : x k = .error () k) (f : α → Hilo β) :
    (x >>= f).final k = k := by
  unfold Blocking.final
  rw [Blocking.bind_error h]

/-- With the table locked, the handler stops at once or goes to READY without looking at it. -/
theorem marco_syscallMutex (k : KernelScheduler) (pid : Pid) (s : SyscallMutex) :
    Marco [pid] k ((manejarSyscallMutex pid s).final k) := by
  by_cases hlibre : k.mutexListaMutexes = false
  · obtain ⟨k', hrun, hpaso⟩ := manejarSyscallMutex_libre hlibre pid s
    unfold Blocking.final
    rw [hrun]
    exact marco_pasoMutex hpaso
  · have hlock := lockListaMutexes_tomada (Bool.eq_true_of_not_eq_false hlibre)
    have hbuscar : ∀ nombre, buscarMutexPorNombre nombre k = .error () k := fun nombre ↦
      Blocking.bind_error hlock _
    cases s with
    | create nombre =>
      cases nombre with
      | none => exact marco_encolar k pid
      | some nombre =>
        have hrun : manejarSyscallMutexCreate (some nombre) k = .error () k :=
          Blocking.bind_error (hbuscar nombre) _
        have hparado : (manejarSyscallMutex pid (.create (some nombre))).final k = k := final_parado hrun _
        rw [hparado]
        exact .refl k
    | lock nombre =>
      cases nombre with
      | none => exact marco_encolar k pid
      | some nombre =>
        have hbuscarOCrear : buscarOCrearMutex nombre k = .error () k :=
          Blocking.bind_error (hbuscar nombre) _
        have hrun : manejarSyscallMutexLock pid (some nombre) k = .error () k :=
          Blocking.bind_error hbuscarOCrear _
        have hparado : (manejarSyscallMutex pid (.lock (some nombre))).final k = k := final_parado hrun _
        rw [hparado]
        exact .refl k
    | unlock nombre =>
      cases nombre with
      | none => exact marco_encolar k pid
      | some nombre =>
        have hrun : manejarSyscallMutexUnlock pid (some nombre) k = .error () k :=
          Blocking.bind_error (hbuscar nombre) _
        have hparado : (manejarSyscallMutex pid (.unlock (some nombre))).final k = k := final_parado hrun _
        rw [hparado]
        exact .refl k

/-! ## Requests of IO -/

/-- The processes of the requests of IO, waiting or in service. -/
def pedidosIo (tabla : List InterfazIo) : List Pid :=
  tabla.flatMap fun io ↦ (io.cola ++ io.atendido.toList).map IoRequest.proceso

/-- The handler goes on with the process. The only new request of IO may be one of its own, and then it is
in BLOCK. -/
def Atendido (k : KernelScheduler) (pid : Pid) (k' : KernelScheduler) : Prop :=
  ∃ k₁ tabla, Marco [pid] k k₁ ∧ k' = { k₁ with tablaIos := tabla } ∧
    ∀ q, (pedidosIo tabla).count q ≤ (pedidosIo k.tablaIos).count q ∨
      q = pid ∧ pid ∈ k₁.colaProcesosBlock ∧
        (pedidosIo tabla).count q ≤ (pedidosIo k.tablaIos).count q + 1

theorem Marco.atendido (h : Marco [pid] k k') : Atendido k pid k' := by
  refine ⟨k', k'.tablaIos, h, rfl, fun q ↦ .inl ?_⟩
  rw [h.ios]

theorem count_pedidosIo_modify {tabla : List InterfazIo} {i : ℕ} {io : InterfazIo}
    (hio : tabla[i]? = some io) (f : InterfazIo → InterfazIo) (q : Pid) :
    (pedidosIo (tabla.modify i f)).count q + ((io.cola ++ io.atendido.toList).map IoRequest.proceso).count q =
      (pedidosIo tabla).count q +
        (((f io).cola ++ (f io).atendido.toList).map IoRequest.proceso).count q :=
  ListModify.count_flatMap_modify hio _ f q

theorem pedidosIo_modify_le (tabla : List InterfazIo) (i : ℕ) {f : InterfazIo → InterfazIo}
    (hf : ∀ io q, (((f io).cola ++ (f io).atendido.toList).map IoRequest.proceso).count q ≤
      ((io.cola ++ io.atendido.toList).map IoRequest.proceso).count q) (q : Pid) :
    (pedidosIo (tabla.modify i f)).count q ≤ (pedidosIo tabla).count q := by
  cases hio : tabla[i]? with
  | none =>
    rw [List.modify_eq_self (List.getElem?_eq_none_iff.mp hio)]
  | some io =>
    have hcuenta := count_pedidosIo_modify hio f q
    have hle := hf io q
    omega

theorem marco_entrarEnBlock (k : KernelScheduler) (pid : Pid) : Marco [pid] k (k.entrarEnBlock pid) := by
  have hpcb := marco_modificarPcb k pid fun p ↦ { p with estado := .block, blockEpoch := p.blockEpoch + 1 }
  unfold KernelScheduler.entrarEnBlock
  apply Marco.trans _ (marco_notificarProcesoEnBlock _ _ _)
  exact ⟨hpcb.contador, hpcb.todos, hpcb.suspendidos, hpcb.ios, hpcb.colas, hpcb.estados,
    fun q hmano hblock ↦ List.mem_append_left _ (hpcb.block q hmano hblock)⟩

theorem mem_block_entrarEnBlock (k : KernelScheduler) (pid : Pid) :
    pid ∈ (k.entrarEnBlock pid).colaProcesosBlock := by
  unfold KernelScheduler.entrarEnBlock KernelScheduler.notificarProcesoEnBlock
  simp only
  split
  · exact List.mem_append_right _ List.mem_cons_self
  · exact List.mem_append_right _ List.mem_cons_self

theorem atendido_encolarIoRequest (k : KernelScheduler) (i : ℕ) (req : IoRequest) :
    Atendido k req.proceso (k.encolarIoRequest i req) := by
  unfold KernelScheduler.encolarIoRequest
  split
  · exact Marco.atendido (.refl k)
  rename_i io hio
  split
  swap
  · exact Marco.atendido (.refl k)
  have hmarco := marco_entrarEnBlock k req.proceso
  refine ⟨_, _, hmarco, rfl, fun q ↦ ?_⟩
  have hio' : (k.entrarEnBlock req.proceso).tablaIos[i]? = some io := by
    rw [hmarco.ios]
    exact hio
  have hcuenta := count_pedidosIo_modify hio' (fun io ↦
    { io with cola := io.cola ++ [req], semCola := io.semCola + 1 }) q
  rw [hmarco.ios] at hcuenta ⊢
  simp only [List.map_append, List.count_append, List.map_cons, List.map_nil] at hcuenta
  by_cases hq : q = req.proceso
  · rw [hq, List.count_singleton_self] at hcuenta
    refine .inr ⟨hq, mem_block_entrarEnBlock k req.proceso, ?_⟩
    rw [hq]
    omega
  · have hotro : [req.proceso].count q = 0 :=
      List.count_eq_zero.mpr fun hmem ↦ hq (List.mem_singleton.mp hmem)
    apply Or.inl
    omega

theorem atendido_pedirIo (k : KernelScheduler) (interfaz : Option ℕ) (req : IoRequest) (caida : Bool) :
    Atendido k req.proceso (k.pedirIo interfaz req caida) := by
  unfold KernelScheduler.pedirIo
  cases interfaz with
  | none => exact (marco_encolar k req.proceso).atendido
  | some i =>
    simp only
    split
    · obtain ⟨k₁, tabla, hmarco, hk', hpedidos⟩ := atendido_encolarIoRequest (k.terminarWorker i) i req
      have hmarco' : Marco [req.proceso] k { k₁ with tablaIos := k.tablaIos } :=
        ⟨hmarco.contador, hmarco.todos, hmarco.suspendidos, rfl, hmarco.colas, hmarco.estados, hmarco.block⟩
      refine ⟨_, tabla, hmarco', hk', fun q ↦ ?_⟩
      have hle := pedidosIo_modify_le k.tablaIos i (f := fun io ↦
        { io with activa := false, atendido := none }) (fun io q ↦ by simp) q
      rcases hpedidos q with hq | ⟨hq, hblock, hcuenta⟩
      · exact .inl (hq.trans hle)
      · exact .inr ⟨hq, hblock, hcuenta.trans (Nat.succ_le_succ hle)⟩
    · exact atendido_encolarIoRequest k i req

/-! ## Returned processes -/

theorem marco_devolverOReplanificar (k : KernelScheduler) (cpuId : ℕ) (pid : Pid) :
    Marco [pid] k (k.devolverOReplanificar cpuId pid) := by
  unfold KernelScheduler.devolverOReplanificar
  split
  · exact marco_encolar k pid
  · simp only
    split
    · exact .of_pcbs rfl rfl rfl rfl rfl rfl fun _ _ ↦ rfl
    · exact .of_pcbs rfl rfl rfl rfl rfl rfl fun _ _ ↦ rfl

/-- What becomes of a process that has come back from its CPU. -/
def Desenlace (k : KernelScheduler) (pid : Pid) (termina : Bool) (crea : Option (String × ℤ))
    (k' : KernelScheduler) : Prop :=
  if termina then
    if k.Liberable pid then Terminado k pid k' else Marco [pid] k k'
  else
    match crea with
    | some (path, prioridad) => Marco [pid] (k.crearProceso path prioridad) k'
    | none => Atendido k pid k'

theorem remover_ajeno (h : pid ∉ k.listaSuspendidos) : k.removerDeListaSuspendidos pid = k := by
  unfold KernelScheduler.removerDeListaSuspendidos
  rw [List.erase_of_not_mem h]

theorem desenlace_finalizarPcb (h : pid ∉ k.listaSuspendidos) :
    if k.Liberable pid then Terminado k pid ((finalizarPcbPorSegFault pid).final k)
    else Marco [pid] k ((finalizarPcbPorSegFault pid).final k) := by
  have hfin := finalizarPcb_final k pid
  rw [remover_ajeno h] at hfin
  exact hfin

theorem desenlace_syscallIo (h : pid ∉ k.listaSuspendidos) (pedido : Syscall) (cpuId : ℕ)
    (respuesta : RespuestaMemoria) (caida : Bool) :
    Desenlace k pid (pedido.termina k.tablaIos respuesta) (Motivo.syscall pedido).crea
      ((manejarSyscallIo pid pedido cpuId respuesta caida).final k) := by
  cases pedido with
  | sleep tiempo =>
    cases tiempo with
    | none => exact (marco_encolar k pid).atendido
    | some tiempo => exact atendido_pedirIo k _ ⟨pid, .sleep, 0, 0⟩ caida
  | ioSleep params =>
    cases params with
    | none => exact (marco_encolar k pid).atendido
    | some params => exact atendido_pedirIo k _ ⟨pid, .sleep, 0, 0⟩ caida
  | stdin params =>
    cases params with
    | none => exact (marco_encolar k pid).atendido
    | some params => exact atendido_pedirIo k _ ⟨pid, .stdin, params.1, params.2⟩ caida
  | stdout params =>
    cases params with
    | none => exact (marco_encolar k pid).atendido
    | some params =>
      rw [final_stdout]
      unfold Syscall.termina
      cases hbuscar : buscarInterfazIoPorTipo k.tablaIos .stdout with
      | none => exact (marco_encolar k pid).atendido
      | some i =>
        cases respuesta with
        | sinRespuesta => exact (marco_encolar k pid).atendido
        | segmentationFault => exact desenlace_finalizarPcb h
        | ok => exact atendido_pedirIo k _ ⟨pid, .stdout, params.1, params.2⟩ caida
  | memAlloc params =>
    cases params with
    | none => exact finalizarYLiberar_final k pid cpuId
    | some params =>
      cases respuesta with
      | ok => exact (marco_devolverOReplanificar k cpuId pid).atendido
      | segmentationFault => exact finalizarYLiberar_final k pid cpuId
      | sinRespuesta => exact finalizarYLiberar_final k pid cpuId
  | memFree idSegmento =>
    cases idSegmento with
    | none => exact finalizarYLiberar_final k pid cpuId
    | some idSegmento => exact (marco_devolverOReplanificar k cpuId pid).atendido
  | mutexCreate nombre => exact (marco_syscallMutex k pid (.create nombre)).atendido
  | mutexLock nombre => exact (marco_syscallMutex k pid (.lock nombre)).atendido
  | mutexUnlock nombre => exact (marco_syscallMutex k pid (.unlock nombre)).atendido
  | initProc params =>
    cases params with
    | none => exact (marco_encolar k pid).atendido
    | some params => exact marco_encolar _ pid
  | desconocida => exact (marco_encolar k pid).atendido

theorem desenlace_atenderDevuelto (h : pid ∉ k.listaSuspendidos) (motivo : Motivo) (cpuId : ℕ)
    (respuesta : RespuestaMemoria) (caida : Bool) :
    Desenlace k pid (motivo.termina k.tablaIos respuesta) motivo.crea
      ((Planificador.atenderDevuelto pid motivo cpuId respuesta caida).final k) := by
  cases motivo with
  | quantum => exact (marco_encolar k pid).atendido
  | syscall pedido => exact desenlace_syscallIo h pedido cpuId respuesta caida
  | exit => exact finalizarProceso_final k pid
  | error => exact finalizarProceso_final k pid
  | segfault => exact finalizarProceso_final k pid
  | desalojo => exact (marco_encolarDesalojado k pid).atendido
  | desalojoCola => exact (marco_encolarDesalojado k pid).atendido
  | desconocido => exact (marco_encolar k pid).atendido

end KernelScheduler

end PlugAndPlay.Planificador
