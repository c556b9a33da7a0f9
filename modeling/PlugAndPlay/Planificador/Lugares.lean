import PlugAndPlay.Library.ListModify
import PlugAndPlay.Planificador.Sistema

/-!
# The places of a process

The places of a process are the queues, the CPUs and SUSP_READY. A handler takes a process from its
place, has it in hand, and puts it in one place or none; only `crear_proceso` brings in a new one.
-/

open PlugAndPlay.Library

namespace PlugAndPlay.Planificador

namespace KernelScheduler

variable {k k' : KernelScheduler} {pid : Pid} {mano mano' : List Pid}

/-- The process on a CPU, if any. -/
abbrev enCpu (c : TCpu) : List Pid := c.procesoActual.toList

/-- The processes of all queues and CPUs, as often as they occur. -/
def lugares (k : KernelScheduler) : List Pid :=
  k.colaProcesosNew ++ k.colaProcesosReady ++ k.colasReadyPorPrioridad.flatten ++
    k.cpus.flatMap enCpu ++ k.colaProcesosBlock ++
    k.listaMutexes.flatMap MutexSistema.colaBloqueados

def enSuspReady (k : KernelScheduler) (pid : Pid) : ℕ :=
  if (k.pcbs pid).estado = .suspReady then 1 else 0

/-- How often a process occurs over the NEW queue, the READY queues, the CPUs, the BLOCK queue, the
queues of the mutexes and the processes in SUSP_READY. -/
def apariciones (k : KernelScheduler) (pid : Pid) : ℕ := k.lugares.count pid + k.enSuspReady pid

/-- The process was created and has not come to its end. -/
def Vigente (k : KernelScheduler) (pid : Pid) : Prop :=
  pid < k.contadorPids ∧ (k.pcbs pid).estado ≠ .exitState

instance (k : KernelScheduler) : DecidablePred k.Vigente := fun _ ↦ inferInstanceAs (Decidable (_ ∧ _))

/-- A process occurs at most once, also counting the processes in hand, and neither before its creation
nor after its end. -/
def EnUnLugar (k : KernelScheduler) (mano : List Pid) : Prop :=
  ∀ pid, k.apariciones pid + mano.count pid ≤ if k.Vigente pid then 1 else 0

theorem count_mano (pid : Pid) (mano : List Pid) (q : Pid) :
    (pid :: mano).count q = mano.count q + [pid].count q := by
  rw [List.count_cons, List.count_singleton]

theorem EnUnLugar.of_le (h : k.EnUnLugar mano) (hvigente : ∀ pid, k.Vigente pid → k'.Vigente pid)
    (hle : ∀ pid, k'.apariciones pid + mano'.count pid ≤ k.apariciones pid + mano.count pid) :
    k'.EnUnLugar mano' := by
  intro pid
  have hpid := Nat.le_trans (hle pid) (h pid)
  split at hpid
  · rename_i hvig
    rwa [if_pos (hvigente pid hvig)]
  · omega

/-- A process in hand may be let go. -/
theorem EnUnLugar.soltar (h : k.EnUnLugar (pid :: mano)) : k.EnUnLugar mano := by
  refine h.of_le (fun _ ↦ id) fun q ↦ ?_
  rw [count_mano]
  omega

/-! ## Changes of a PCB -/

theorem lugares_modificarPcb (f : Pcb → Pcb) : (k.modificarPcb pid f).lugares = k.lugares := rfl

theorem vigente_modificarPcb {f : Pcb → Pcb}
    (hf : (f (k.pcbs pid)).estado = .exitState → (k.pcbs pid).estado = .exitState) {q : Pid}
    (hq : k.Vigente q) : (k.modificarPcb pid f).Vigente q := by
  refine ⟨hq.1, ?_⟩
  rw [pcbs_modificarPcb]
  split
  · rename_i hpid
    subst hpid
    exact mt hf hq.2
  · exact hq.2

/-- A change that puts the process neither in SUSP_READY nor in EXIT. -/
theorem EnUnLugar.modificarPcb (h : k.EnUnLugar mano) (pid : Pid) (f : Pcb → Pcb)
    (hf : (f (k.pcbs pid)).estado = (k.pcbs pid).estado ∨
      (f (k.pcbs pid)).estado ≠ .suspReady ∧ (f (k.pcbs pid)).estado ≠ .exitState) :
    (k.modificarPcb pid f).EnUnLugar mano := by
  refine h.of_le (fun q ↦ vigente_modificarPcb fun hexit ↦ ?_) fun q ↦ Nat.add_le_add_right ?_ _
  · rcases hf with higual | ⟨_, hno⟩
    · rw [← higual, hexit]
    · exact absurd hexit hno
  · unfold apariciones enSuspReady
    rw [lugares_modificarPcb, pcbs_modificarPcb]
    by_cases hq : q = pid
    · subst hq
      rw [if_pos rfl]
      rcases hf with higual | ⟨hno, _⟩
      · exact Nat.le_of_eq (by rw [higual])
      · rw [if_neg hno]
        omega
    · exact Nat.le_of_eq (by rw [if_neg hq])

/-- A process that is in no place comes to its end. -/
theorem EnUnLugar.terminar (h : k.EnUnLugar mano) (hlugares : k.lugares.count pid = 0)
    (hpid : mano'.count pid = 0) (hle : ∀ q, mano'.count q ≤ mano.count q) :
    (k.cambiarEstado pid .exitState).EnUnLugar mano' := by
  intro q
  have hq := h q
  have hleq := hle q
  by_cases hotro : q = pid
  · subst hotro
    have hsusp : (k.cambiarEstado q .exitState).enSuspReady q = 0 := by
      unfold enSuspReady cambiarEstado
      rw [pcbs_modificarPcb_mismo]
      rfl
    have hlugares' : (k.cambiarEstado q .exitState).lugares.count q = 0 := hlugares
    unfold apariciones
    rw [hlugares', hsusp, hpid]
    exact Nat.zero_le _
  · have hpcb : (k.cambiarEstado pid .exitState).pcbs q = k.pcbs q := by
      unfold cambiarEstado
      rw [pcbs_modificarPcb, if_neg hotro]
    have hvigente : (k.cambiarEstado pid .exitState).Vigente q ↔ k.Vigente q := by
      unfold Vigente
      rw [hpcb]
      exact Iff.rfl
    have hapariciones : (k.cambiarEstado pid .exitState).apariciones q = k.apariciones q := by
      unfold apariciones enSuspReady
      rw [hpcb]
      rfl
    rw [hapariciones, if_congr hvigente rfl rfl]
    omega

/-- A process in hand comes to its end. -/
theorem EnUnLugar.finalizar (h : k.EnUnLugar (pid :: mano)) :
    (k.cambiarEstado pid .exitState).EnUnLugar mano := by
  have hpid := h pid
  rw [count_mano, List.count_singleton_self] at hpid
  unfold apariciones at hpid
  refine h.terminar ?_ ?_ fun q ↦ ?_
  · split at hpid <;> omega
  · split at hpid <;> omega
  · rw [count_mano]
    omega

/-- A process in SUSP_READY comes to its end. -/
theorem EnUnLugar.finalizarSuspReady (h : k.EnUnLugar mano)
    (hestado : (k.pcbs pid).estado = .suspReady) :
    (k.cambiarEstado pid .exitState).EnUnLugar mano := by
  have hpid := h pid
  unfold apariciones enSuspReady at hpid
  rw [if_pos hestado] at hpid
  refine h.terminar ?_ ?_ fun q ↦ Nat.le_refl _
  · split at hpid <;> omega
  · split at hpid <;> omega

/-- A process leaves SUSP_READY into the hand. -/
theorem EnUnLugar.deSuspReady (h : k.EnUnLugar mano) (hestado : (k.pcbs pid).estado = .suspReady) :
    (k.cambiarEstado pid .ready).EnUnLugar (pid :: mano) := by
  refine h.of_le (fun q hq ↦ vigente_modificarPcb (fun hexit ↦ ?_) hq) fun q ↦ ?_
  · cases hexit
  unfold apariciones enSuspReady cambiarEstado
  rw [lugares_modificarPcb, pcbs_modificarPcb, List.count_cons]
  by_cases hq : q = pid
  · subst hq
    simp [hestado]
    omega
  · simp [hq, Ne.symm hq]

/-- A process in hand goes to SUSP_READY. -/
theorem EnUnLugar.aSuspReady (h : k.EnUnLugar (pid :: mano)) (f : Pcb → Pcb)
    (hf : (f (k.pcbs pid)).estado = .suspReady) : (k.modificarPcb pid f).EnUnLugar mano := by
  refine h.of_le (fun q ↦ vigente_modificarPcb fun hexit ↦ ?_) fun q ↦ ?_
  · rw [hf] at hexit
    cases hexit
  unfold apariciones enSuspReady
  rw [lugares_modificarPcb, pcbs_modificarPcb, List.count_cons]
  by_cases hq : q = pid
  · subst hq
    simp only [if_true, beq_self_eq_true]
    split <;> omega
  · simp [hq, Ne.symm hq]

/-! ## READY queues -/

theorem EnUnLugar.of_lugares (h : k.EnUnLugar mano) (hcontador : k'.contadorPids = k.contadorPids)
    (hpcbs : k'.pcbs = k.pcbs)
    (hle : ∀ pid, k'.lugares.count pid + mano'.count pid ≤ k.lugares.count pid + mano.count pid) :
    k'.EnUnLugar mano' := by
  refine h.of_le (fun q hq ↦ ?_) fun q ↦ ?_
  · unfold Vigente at hq ⊢
    rwa [hcontador, hpcbs]
  · have hq := hle q
    unfold apariciones enSuspReady
    rw [hpcbs]
    omega

/-- A process in hand goes into a queue of the multilevel table. -/
theorem EnUnLugar.modificarCola (h : k.EnUnLugar (pid :: mano)) (prioridad : ℤ)
    (f : List Pid → List Pid) (hf : ∀ cola q, (f cola).count q ≤ cola.count q + [pid].count q) :
    (k.modificarCola prioridad f).EnUnLugar mano := by
  refine h.of_lugares rfl rfl fun q ↦ ?_
  have hcola := ListModify.count_flatMap_modify_le k.colasReadyPorPrioridad prioridad.toNat id f q
    ([pid].count q) fun cola ↦ hf cola q
  rw [List.flatMap_id, List.flatMap_id] at hcola
  rw [count_mano]
  simp only [lugares, KernelScheduler.modificarCola, List.count_append]
  omega

theorem EnUnLugar.verificar (h : k.EnUnLugar mano) (nuevo : Pid) :
    (k.verificarYDesalojarPorPrioridad nuevo).EnUnLugar mano := by
  unfold verificarYDesalojarPorPrioridad
  split
  · exact h
  split
  · exact h
  split
  · exact h
  · exact h

theorem EnUnLugar.final (h : k.EnUnLugar (pid :: mano)) (prioridad : ℤ) :
    (k.reencolarProcesoReadyFinal pid prioridad).EnUnLugar mano := by
  unfold reencolarProcesoReadyFinal
  split
  · apply EnUnLugar.verificar
    exact h.modificarCola prioridad _ fun cola q ↦ Nat.le_of_eq List.count_append
  · exact h.soltar

theorem EnUnLugar.inicio (h : k.EnUnLugar (pid :: mano)) (prioridad : ℤ) :
    (k.reencolarProcesoReadyInicio pid prioridad).EnUnLugar mano := by
  unfold reencolarProcesoReadyInicio
  split
  · exact h.modificarCola prioridad _ fun cola q ↦ Nat.le_of_eq (count_mano pid cola q)
  · exact h.soltar

/-- A process in hand goes into the single queue. -/
theorem EnUnLugar.meter (h : k.EnUnLugar (pid :: mano)) {cola : List Pid}
    (hcola : ∀ q, cola.count q = k.colaProcesosReady.count q + [pid].count q) (semReady : ℕ) :
    { k with colaProcesosReady := cola, semReady := semReady }.EnUnLugar mano := by
  refine h.of_lugares rfl rfl fun q ↦ ?_
  rw [count_mano]
  simp only [lugares, List.count_append, hcola]
  omega

theorem EnUnLugar.cambiarEstado (h : k.EnUnLugar mano) {estado : Estado}
    (hestado : estado ≠ .suspReady ∧ estado ≠ .exitState) :
    (k.cambiarEstado pid estado).EnUnLugar mano :=
  h.modificarPcb _ _ (.inr hestado)

theorem EnUnLugar.cambiarAReady (h : k.EnUnLugar mano) (pid : Pid) :
    (k.cambiarEstado pid .ready).EnUnLugar mano :=
  h.cambiarEstado (by decide)

theorem EnUnLugar.encolar (h : k.EnUnLugar (pid :: mano)) :
    (k.encolarEnReadyYNotificar pid).EnUnLugar mano := by
  have hready := h.cambiarAReady pid
  unfold encolarEnReadyYNotificar
  simp only
  split
  · exact hready.final _
  · exact hready.meter (fun q ↦ List.count_append) _

theorem EnUnLugar.encolarDesalojado (h : k.EnUnLugar (pid :: mano)) :
    (k.encolarDesalojado pid).EnUnLugar mano := by
  have hready := h.cambiarAReady pid
  unfold KernelScheduler.encolarDesalojado
  simp only
  split
  · exact hready.inicio _
  · exact hready.meter (count_mano pid _) _

theorem EnUnLugar.encolarPorPrioridad (h : k.EnUnLugar (pid :: mano)) :
    (k.encolarEnReadyPorPrioridad pid).EnUnLugar mano := by
  unfold encolarEnReadyPorPrioridad
  split
  · apply EnUnLugar.verificar
    refine (h.cambiarAReady pid).modificarCola _ _ fun cola q ↦ ?_
    exact Nat.le_of_eq List.count_append
  · exact h.soltar

/-- What `popReady` and `desencolarProcesoReady` take out is in hand. -/
def Tomado (k : KernelScheduler) (mano : List Pid) (r : Option Pid × KernelScheduler) : Prop :=
  r.2.EnUnLugar (r.1.toList ++ mano) ∧ r.2.pcbs = k.pcbs

theorem EnUnLugar.popReady (h : k.EnUnLugar mano) : Tomado k mano k.popReady := by
  unfold KernelScheduler.popReady
  cases hcola : k.colaProcesosReady with
  | nil => exact ⟨h, rfl⟩
  | cons pid resto =>
    refine ⟨h.of_lugares rfl rfl fun q ↦ ?_, rfl⟩
    show _ + (pid :: mano).count q ≤ _
    rw [count_mano]
    simp only [lugares, hcola, List.count_append, count_mano pid resto]
    omega

theorem EnUnLugar.desencolar (h : k.EnUnLugar mano) : Tomado k mano k.desencolarProcesoReady := by
  unfold desencolarProcesoReady
  cases hp : k.colasReadyPorPrioridad.findIdx? (· ≠ []) with
  | none => exact ⟨h, rfl⟩
  | some p =>
    obtain ⟨hlt, hcola, _⟩ := List.findIdx?_eq_some_iff_getElem.mp hp
    obtain ⟨pid, resto, hcola⟩ := List.exists_cons_of_ne_nil (of_decide_eq_true hcola)
    have hp? : k.colasReadyPorPrioridad[p]? = some (pid :: resto) := by
      rw [List.getElem?_eq_getElem hlt, hcola]
    simp only [hp?, Option.bind_some, List.head?_cons]
    refine ⟨h.of_lugares rfl rfl fun q ↦ ?_, rfl⟩
    have hcount := ListModify.count_flatMap_modify hp? id List.tail q
    rw [List.flatMap_id, List.flatMap_id] at hcount
    simp only [id_eq, List.tail_cons, count_mano pid resto] at hcount
    show _ + (pid :: mano).count q ≤ _
    rw [count_mano]
    simp only [lugares, List.count_append]
    omega

/-! ## Inheritance and mutexes -/

theorem EnUnLugar.reubicar (h : k.EnUnLugar mano) (pid : Pid) (anterior nueva : ℤ) :
    (k.reubicarProcesoEnReady pid anterior nueva).EnUnLugar mano := by
  unfold reubicarProcesoEnReady
  split
  · exact h
  cases hcola : k.colaDe anterior with
  | none => exact h
  | some cola =>
    simp only
    split
    · rename_i hmem
      have hsacado : (k.modificarCola anterior (·.erase pid)).EnUnLugar (pid :: mano) := by
        refine h.of_lugares rfl rfl fun q ↦ ?_
        have hi : k.colasReadyPorPrioridad[anterior.toNat]? = some cola := by
          unfold colaDe at hcola
          split at hcola
          · exact hcola
          · cases hcola
        have hcount := ListModify.count_flatMap_modify hi id (·.erase pid) q
        have hperm := (List.perm_cons_erase hmem).count_eq q
        rw [count_mano] at hperm
        rw [List.flatMap_id, List.flatMap_id] at hcount
        rw [count_mano]
        simp only [id_eq] at hcount
        simp only [lugares, KernelScheduler.modificarCola, List.count_append]
        omega
      split
      · exact hsacado.soltar
      · exact hsacado.modificarCola nueva _ fun cola q ↦ Nat.le_of_eq List.count_append
    · exact h

theorem EnUnLugar.cambiarPrioridadDinamica (h : k.EnUnLugar mano) (pid : Pid) (prioridad : ℤ) :
    (k.cambiarPrioridadDinamica pid prioridad).EnUnLugar mano :=
  h.modificarPcb _ _ (.inl rfl)

theorem EnUnLugar.asignarPrioridadDinamica (h : k.EnUnLugar mano) (pid : Pid) (prioridad : ℤ) :
    (k.asignarPrioridadDinamica pid prioridad).EnUnLugar mano := by
  unfold KernelScheduler.asignarPrioridadDinamica
  split
  · exact (h.cambiarPrioridadDinamica pid prioridad).reubicar _ _ _
  · exact h

theorem EnUnLugar.propagarHerencia (fuel : ℕ) (h : k.EnUnLugar mano) (bloqueado : Pid)
    (aHeredar : ℤ) : (propagarHerencia fuel k bloqueado aHeredar).EnUnLugar mano := by
  induction fuel generalizing k bloqueado with
  | zero => exact h
  | succ fuel ih =>
    unfold KernelScheduler.propagarHerencia
    split
    · exact h
    split
    · exact h
    rename_i poseedor _
    have hturno := (h.cambiarPrioridadDinamica poseedor aHeredar).reubicar poseedor
      (k.pcbs poseedor).prioridadDinamica aHeredar
    split
    · simp only
      split
      · exact ih hturno poseedor
      · exact hturno
    · exact h

/-- A change of a mutex whose queue gets at most a process in hand. -/
theorem EnUnLugar.modificarMutex (h : k.EnUnLugar mano) (i : ℕ) (f : MutexSistema → MutexSistema)
    (hf : ∀ m q, (f m).colaBloqueados.count q ≤ m.colaBloqueados.count q) :
    (k.modificarMutex i f).EnUnLugar mano := by
  refine h.of_lugares rfl rfl fun q ↦ ?_
  have hcount := ListModify.count_flatMap_modify_le k.listaMutexes i MutexSistema.colaBloqueados f q
    0 fun m ↦ hf m q
  simp only [lugares, KernelScheduler.modificarMutex, List.count_append]
  omega

theorem EnUnLugar.esperarMutex (h : k.EnUnLugar (pid :: mano)) (i : ℕ) :
    (k.esperarMutex pid i).EnUnLugar mano := by
  have hblock : (k.modificarPcb pid fun p ↦
      { p with estado := .block, mutexEsperando := some i }).EnUnLugar (pid :: mano) :=
    h.modificarPcb _ _ (.inr ⟨nofun, nofun⟩)
  refine hblock.of_lugares rfl rfl fun q ↦ ?_
  have hcount := ListModify.count_flatMap_modify_le k.listaMutexes i MutexSistema.colaBloqueados
    (fun m ↦ { m with colaBloqueados := m.colaBloqueados ++ [pid] }) q ([pid].count q)
    fun m ↦ Nat.le_of_eq List.count_append
  rw [count_mano]
  simp only [lugares, KernelScheduler.esperarMutex, KernelScheduler.modificarMutex,
    KernelScheduler.modificarPcb, List.count_append]
  omega

theorem EnUnLugar.notificarProcesoEnBlock (h : k.EnUnLugar mano) (pid : Pid) (epoch : UInt32) :
    (k.notificarProcesoEnBlock pid epoch).EnUnLugar mano := by
  unfold KernelScheduler.notificarProcesoEnBlock
  split
  · exact h
  · exact h

theorem EnUnLugar.notificarEspera (h : k.EnUnLugar mano) (pid : Pid) :
    (k.notificarEspera pid).EnUnLugar mano :=
  (h.modificarPcb _ _ (.inl rfl)).notificarProcesoEnBlock pid _

/-- The first process of the queue of a mutex is taken out into the hand. -/
theorem EnUnLugar.sacarDeMutex (h : k.EnUnLugar mano) {i : ℕ} {m : MutexSistema}
    {siguiente : Pid} {resto : List Pid} (hm : k.listaMutexes[i]? = some m)
    (hcola : m.colaBloqueados = siguiente :: resto) :
    (k.modificarMutex i fun m ↦ { m with
      asignadoAPid := some siguiente
      colaBloqueados := m.colaBloqueados.tail }).EnUnLugar (siguiente :: mano) := by
  refine h.of_lugares rfl rfl fun q ↦ ?_
  have hcount := ListModify.count_flatMap_modify hm MutexSistema.colaBloqueados
    (fun m ↦ { m with
      asignadoAPid := some siguiente
      colaBloqueados := m.colaBloqueados.tail }) q
  simp only [hcola, List.tail_cons, count_mano siguiente resto] at hcount
  rw [count_mano]
  simp only [lugares, KernelScheduler.modificarMutex, List.count_append]
  omega

theorem EnUnLugar.asignarASiguiente (h : k.EnUnLugar mano) {i : ℕ} {m : MutexSistema}
    {siguiente : Pid} {resto : List Pid} (hm : k.listaMutexes[i]? = some m)
    (hcola : m.colaBloqueados = siguiente :: resto) :
    (k.asignarASiguiente i siguiente).EnUnLugar mano := by
  apply EnUnLugar.encolar
  exact (h.sacarDeMutex hm hcola).modificarPcb _ _ (.inr ⟨nofun, nofun⟩)

/-! ## IO and BLOCK -/

theorem EnUnLugar.modificarIo (h : k.EnUnLugar mano) (i : ℕ) (f : InterfazIo → InterfazIo) :
    (k.modificarIo i f).EnUnLugar mano := h

theorem EnUnLugar.entrarEnBlock (h : k.EnUnLugar (pid :: mano)) :
    (k.entrarEnBlock pid).EnUnLugar mano := by
  apply EnUnLugar.notificarProcesoEnBlock
  have hblock : (k.modificarPcb pid fun p ↦
      { p with estado := .block, blockEpoch := p.blockEpoch + 1 }).EnUnLugar (pid :: mano) :=
    h.modificarPcb _ _ (.inr ⟨nofun, nofun⟩)
  refine hblock.of_lugares rfl rfl fun q ↦ ?_
  rw [count_mano]
  simp only [lugares, List.count_append]
  omega

theorem EnUnLugar.encolarIoRequest {req : IoRequest} (h : k.EnUnLugar (req.proceso :: mano)) (i : ℕ) :
    (k.encolarIoRequest i req).EnUnLugar mano := by
  unfold KernelScheduler.encolarIoRequest
  split
  · exact h.soltar
  split
  · exact h.entrarEnBlock.modificarIo i _
  · exact h.soltar

theorem EnUnLugar.pedirIo {req : IoRequest} (h : k.EnUnLugar (req.proceso :: mano))
    (interfaz : Option ℕ) (caida : Bool) : (k.pedirIo interfaz req caida).EnUnLugar mano := by
  unfold KernelScheduler.pedirIo
  cases interfaz with
  | none => exact h.encolar
  | some i =>
    simp only
    split
    · exact (h.modificarIo i _).encolarIoRequest i
    · exact h.encolarIoRequest i

/-- The new process is in NEW and nowhere else. -/
theorem EnUnLugar.crearProceso (h : k.EnUnLugar mano) (path : String) (prioridad : ℤ) :
    (k.crearProceso path prioridad).EnUnLugar mano := by
  unfold KernelScheduler.crearProceso
  split
  · exact h
  intro q
  have hq := h q
  have hlugares : ∀ (pcbs : Pid → Pcb) (contador : Pid) (todos : List Pid) (semNew : ℕ),
      { k with
        pcbs := pcbs
        contadorPids := contador
        todosLosProcesos := todos
        colaProcesosNew := k.colaProcesosNew ++ [k.contadorPids]
        semNew := semNew }.lugares.count q = k.lugares.count q + [k.contadorPids].count q := by
    intro _ _ _ _
    simp only [lugares, List.count_append]
    omega
  unfold apariciones enSuspReady at hq ⊢
  simp only [hlugares, Vigente, List.count_singleton, beq_iff_eq, Function.update_apply]
  by_cases hpid : q = k.contadorPids
  · subst hpid
    have hno : ¬ k.Vigente k.contadorPids := fun hvig ↦ Nat.lt_irrefl _ hvig.1
    rw [if_neg hno] at hq
    simp
    omega
  · simp only [if_neg (Ne.symm hpid), if_neg hpid, Nat.add_zero]
    by_cases hvig : k.Vigente q
    · have hsigue : q < k.contadorPids + 1 ∧ (k.pcbs q).estado ≠ .exitState :=
        ⟨Nat.lt_succ_of_lt hvig.1, hvig.2⟩
      rw [if_pos hvig] at hq
      rwa [if_pos hsigue]
    · rw [if_neg hvig] at hq
      omega

/-! ## CPUs -/

theorem EnUnLugar.conCpus (h : k.EnUnLugar mano) {cpus : List TCpu}
    (hcpus : ∀ q, (cpus.flatMap enCpu).count q + mano'.count q ≤
      (k.cpus.flatMap enCpu).count q + mano.count q) :
    { k with cpus := cpus }.EnUnLugar mano' := by
  refine h.of_lugares rfl rfl fun q ↦ ?_
  have hq := hcpus q
  simp only [lugares, List.count_append]
  omega

theorem count_modificarCpu_le (cpus : List TCpu) (cpuId : ℕ) (f : TCpu → TCpu) (q : Pid) (n : ℕ)
    (hf : ∀ c, (enCpu (f c)).count q ≤ (enCpu c).count q + n) :
    ((modificarCpu cpus cpuId f).flatMap enCpu).count q ≤ (cpus.flatMap enCpu).count q + n := by
  unfold modificarCpu
  split
  · exact Nat.le_add_right _ n
  · exact ListModify.count_flatMap_modify_le cpus _ enCpu f q n hf

/-- What is taken from a slot that is emptied was on the CPUs. -/
theorem count_vaciar (cpus : List TCpu) (cpuId : ℕ) (f : TCpu → TCpu)
    (hf : ∀ c, (f c).procesoActual = none) (q : Pid) :
    ((modificarCpu cpus cpuId f).flatMap enCpu).count q +
        ((buscarCpu cpus cpuId).bind TCpu.procesoActual).toList.count q =
      (cpus.flatMap enCpu).count q := by
  unfold modificarCpu buscarCpu
  cases hi : posicionCpu cpus cpuId with
  | none => rfl
  | some i =>
    obtain ⟨hlt, _⟩ := List.findIdx?_eq_some_iff_getElem.mp hi
    have hcount := ListModify.count_flatMap_modify (List.getElem?_eq_getElem hlt) enCpu f q
    simp only [enCpu, hf, Option.toList_none, List.count_nil] at hcount
    simp only [Option.bind_some, List.getElem?_eq_getElem hlt]
    exact hcount

theorem EnUnLugar.retirarProceso (h : k.EnUnLugar mano) (cpuId : ℕ) :
    (k.retirarProceso cpuId).2.EnUnLugar ((k.retirarProceso cpuId).1.toList ++ mano) := by
  refine h.conCpus fun q ↦ ?_
  have hcount := count_vaciar k.cpus cpuId (fun c ↦
    { c with procesoActual := none, timerActivo := false, disponible := true }) (fun _ ↦ rfl) q
  rw [List.count_append]
  simp only [KernelScheduler.retirarProceso, retirarProcesoDeCpu]
  omega

theorem EnUnLugar.retirarProcesoReservando (h : k.EnUnLugar mano) (cpuId : ℕ) :
    (k.retirarProcesoReservando cpuId).2.EnUnLugar
      ((k.retirarProcesoReservando cpuId).1.toList ++ mano) := by
  refine h.conCpus fun q ↦ ?_
  have hcount := count_vaciar k.cpus cpuId (fun c ↦
    { c with procesoActual := none, timerActivo := false }) (fun _ ↦ rfl) q
  rw [List.count_append]
  simp only [KernelScheduler.retirarProcesoReservando, retirarProcesoDeCpuReservando]
  omega

/-- A change of one slot that leaves its process alone. -/
theorem EnUnLugar.modificarCpu (h : k.EnUnLugar mano) (cpuId : ℕ) (f : TCpu → TCpu)
    (hf : ∀ c, (f c).procesoActual = c.procesoActual) :
    { k with cpus := modificarCpu k.cpus cpuId f }.EnUnLugar mano := by
  refine h.conCpus fun q ↦ Nat.add_le_add_right ?_ _
  exact count_modificarCpu_le k.cpus cpuId f q 0 fun c ↦ by rw [enCpu, hf]; exact Nat.le_refl _

theorem EnUnLugar.liberarReservada (h : k.EnUnLugar mano) (cpuId : ℕ) :
    (k.liberarReservada cpuId).EnUnLugar mano :=
  h.modificarCpu cpuId _ fun _ ↦ rfl

theorem EnUnLugar.arrancarQuantum (h : k.EnUnLugar mano) (cpuId : ℕ) (pid : Pid) :
    (k.arrancarQuantum cpuId pid).EnUnLugar mano :=
  h.modificarCpu cpuId _ fun _ ↦ rfl

theorem EnUnLugar.enviarPid (h : k.EnUnLugar mano) (socket : Socket) (pid : Pid) :
    (k.enviarPid socket pid).EnUnLugar mano := h

theorem EnUnLugar.devolverAMisma (h : k.EnUnLugar (pid :: mano)) (cpuId : ℕ) :
    { k with cpus := Planificador.modificarCpu k.cpus cpuId fun c ↦
      { c with procesoActual := some pid } }.EnUnLugar mano := by
  refine h.conCpus fun q ↦ ?_
  have hcount := count_modificarCpu_le k.cpus cpuId (fun c ↦ { c with procesoActual := some pid }) q
    ([pid].count q) fun c ↦ Nat.le_add_left _ _
  rw [count_mano]
  omega

theorem EnUnLugar.devolverOReplanificar (h : k.EnUnLugar (pid :: mano)) (cpuId : ℕ) :
    (k.devolverOReplanificar cpuId pid).EnUnLugar mano := by
  unfold KernelScheduler.devolverOReplanificar devolverProcesoAMismaCpu
  cases (buscarCpu k.cpus cpuId).bind TCpu.socket with
  | none => exact h.encolar
  | some socket =>
    have henviado := (h.devolverAMisma cpuId).enviarPid socket pid
    simp only
    split
    · exact henviado.arrancarQuantum cpuId pid
    · exact henviado

theorem EnUnLugar.notificarReevaluar (h : k.EnUnLugar mano) :
    k.notificarReevaluarSuspendidos.EnUnLugar mano := h

theorem EnUnLugar.desbloquear (h : k.EnUnLugar (pid :: mano)) :
    (k.desbloquear pid).EnUnLugar mano := by
  unfold KernelScheduler.desbloquear
  split
  · exact (h.aSuspReady _ rfl).notificarReevaluar
  · exact h.encolar

end KernelScheduler

end PlugAndPlay.Planificador
