import PlugAndPlay.Planificador.NivelesReady
import PlugAndPlay.Planificador.SinPerdidos

/-!
# Handlers and the inherited priority

Which process each handler queues, and that a handler keeps READY in the order of the inherited
priority where the processes it queues inherit nothing.
-/

open PlugAndPlay.Library

namespace PlugAndPlay.Planificador

/-! ## Where a process goes -/

/-- What a handler does with the process it has in hand: it queues it, ends it, queues it after it has
released the mutex at a position, or something else. -/
inductive Salida
  | aReady
  | termina
  | suelta (i : ℕ)
  | otra
deriving Repr, DecidableEq

namespace KernelScheduler

variable {k k' : KernelScheduler} {pid q : Pid} {mano : List Pid}

def salidaPedido (interfaz : Option ℕ) : Salida := if interfaz.isNone then .aReady else .otra

/-- The end of `MUTEX_LOCK` and `MUTEX_UNLOCK` of a mutex that has a name. -/
def salidaMutex (k : KernelScheduler) (nombre : String) (siHay : ℕ → MutexSistema → Salida) : Salida :=
  if k.mutexListaMutexes then .otra
  else
    match k.listaMutexes.findIdx? fun m ↦ m.nombre = nombre with
    | none => .aReady
    | some i => (k.listaMutexes[i]?.map (siHay i)).getD .aReady

/-- `conectada` tells whether the CPU is still there to get the process back. -/
def salidaSyscall (k : KernelScheduler) (pid : Pid) (conectada : Bool) (respuesta : RespuestaMemoria) :
    Syscall → Salida
  | .sleep none | .ioSleep none | .stdin none | .stdout none | .initProc _ | .desconocida => .aReady
  | .sleep (some _) => salidaPedido (buscarInterfazIoPorTipo k.tablaIos .sleep)
  | .ioSleep (some (nombre, _)) => salidaPedido (buscarInterfazIo k.tablaIos nombre)
  | .stdin (some _) => salidaPedido (buscarInterfazIoPorTipo k.tablaIos .stdin)
  | .stdout (some _) =>
    match buscarInterfazIoPorTipo k.tablaIos .stdout, respuesta with
    | none, _ | some _, .sinRespuesta => .aReady
    | some _, .segmentationFault => .termina
    | some _, .ok => .otra
  | .memAlloc (some _) =>
    if respuesta ≠ .ok then .termina else if conectada then .otra else .aReady
  | .memFree (some _) => if conectada then .otra else .aReady
  | .memAlloc none | .memFree none => .termina
  | .mutexCreate none | .mutexLock none | .mutexUnlock none => .aReady
  | .mutexCreate (some _) => if k.mutexListaMutexes then .otra else .aReady
  | .mutexLock (some nombre) => k.salidaMutex nombre fun _ m ↦
      if m.asignadoAPid.isNone then .aReady else .otra
  | .mutexUnlock (some nombre) => k.salidaMutex nombre fun i m ↦
      if m.asignadoAPid = some pid then .suelta i else .aReady

def salidaMotivo (k : KernelScheduler) (pid : Pid) (conectada : Bool) (respuesta : RespuestaMemoria) :
    Motivo → Salida
  | .exit | .error | .segfault => .termina
  | .quantum | .desconocido | .desalojo | .desalojoCola => .aReady
  | .syscall pedido => k.salidaSyscall pid conectada respuesta pedido

def salidaIo (k : KernelScheduler) (req : IoRequest) (escritura : RespuestaMemoria) : Salida :=
  if (k.pcbs req.proceso).estado = .suspBlock then .otra
  else if req.tipo = .stdin ∧ escritura ≠ .ok then .termina
  else .aReady

/-! ## When it is queued right -/

/-- The first mutex of the process with a waiter, which the release hands over. -/
def primerDisputado (k : KernelScheduler) (pid : Pid) : Option MutexSistema :=
  k.listaMutexes.find? fun m ↦ ¬ m.SinDisputa pid

/-- A process that ends hands its first mutex over to a process that inherits nothing, if to any. -/
def EntregaJusta (k : KernelScheduler) (pid : Pid) : Prop :=
  k.mutexListaMutexes = false → ∀ m ∈ k.primerDisputado pid, ∀ q ∈ m.colaBloqueados.head?,
    k.SinHerencia q

/-- Nobody with a better priority waits for a mutex of the process other than the given one. -/
def NadieHereda (k : KernelScheduler) (i : ℕ) (pid : Pid) : Prop :=
  ∀ j, j < k.listaMutexes.length → j ≠ i → ∀ m ∈ k.listaMutexes[j]?, m.asignadoAPid = some pid →
    ∀ w ∈ m.colaBloqueados, (k.pcbs pid).prioridad ≤ (k.pcbs w).prioridadDinamica

/-- The processes that the handler queues inherit nothing when it does. -/
def SalidaJusta (k : KernelScheduler) (pid : Pid) : Salida → Prop
  | .aReady => k.SinHerencia pid
  | .termina => k.EntregaJusta pid
  | .suelta i => (∀ m ∈ k.listaMutexes[i]?, ∀ q ∈ m.colaBloqueados.head?, k.SinHerencia q) ∧
      k.NadieHereda i pid
  | .otra => True

instance (k : KernelScheduler) (pid : Pid) : Decidable (k.EntregaJusta pid) :=
  inferInstanceAs (Decidable (_ → ∀ m ∈ k.primerDisputado pid, ∀ q ∈ m.colaBloqueados.head?, _))

instance (k : KernelScheduler) (i : ℕ) (pid : Pid) : Decidable (k.NadieHereda i pid) :=
  inferInstanceAs (Decidable (∀ j, j < k.listaMutexes.length → j ≠ i → ∀ m ∈ k.listaMutexes[j]?,
    m.asignadoAPid = some pid → ∀ w ∈ m.colaBloqueados, _))

instance (k : KernelScheduler) (pid : Pid) (s : Salida) : Decidable (k.SalidaJusta pid s) := by
  unfold SalidaJusta
  split <;> infer_instance

/-! ## Ends of processes -/

/-- The mutexes are as before or released. -/
theorem PorNivel.liberado (h : k.PorNivel mano) (pid : Pid) {lista : List MutexSistema}
    (hlista : ∀ m ∈ lista, ∃ m' ∈ k.listaMutexes, m = m' ∨ m = m'.liberado pid) (tomada : Bool)
    (hun : { k with listaMutexes := lista, mutexListaMutexes := tomada }.EnUnLugar mano) :
    { k with listaMutexes := lista, mutexListaMutexes := tomada }.PorNivel mano := by
  refine h.of_igual hun rfl rfl rfl rfl (fun m hm q hposee ↦ ?_) fun q hq hno ↦ absurd hq hno
  obtain ⟨m', hm', hcambio⟩ := hlista m hm
  refine h.poseedores m' hm' q ?_
  rcases hcambio with rfl | rfl
  · exact hposee
  · unfold MutexSistema.liberado at hposee
    split at hposee
    · cases hposee
    · exact hposee

theorem mem_liberadosHasta {n : ℕ} {mutexes : List MutexSistema} :
    ∀ m ∈ liberadosHasta pid n mutexes, ∃ m' ∈ mutexes, m = m' ∨ m = m'.liberado pid := by
  intro m hm
  unfold liberadosHasta at hm
  obtain ⟨i, hi, rfl⟩ := List.mem_mapIdx.mp hm
  refine ⟨mutexes[i], List.getElem_mem hi, ?_⟩
  split
  · exact .inr rfl
  · exact .inl rfl

theorem porNivel_liberarMutexes (pid : Pid) :
    Blocking.Triple (fun k ↦ k.PorNivel [] ∧ k.EntregaJusta pid) (liberarMutexesDeProceso pid)
      (fun _ k ↦ k.PorNivel []) (PorNivel · []) := by
  rintro k ⟨h, hjusta⟩
  cases hlibre : k.mutexListaMutexes with
  | true =>
    rw [liberarMutexesDeProceso_tomada hlibre]
    exact h
  | false =>
    cases hprimero : k.primerDisputado pid with
    | none =>
      have hsin : ∀ m ∈ k.listaMutexes, m.SinDisputa pid := by
        intro m hm
        have hno := List.find?_eq_none.mp hprimero m hm
        simpa using hno
      have hliberar := liberarMutexesDeProceso_sinDisputa hlibre hsin
      rw [hliberar]
      refine h.liberado pid (fun m hm ↦ ?_) k.mutexListaMutexes
        ((conserva_liberarMutexes pid).ok h.unLugar hliberar)
      obtain ⟨m', hm', rfl⟩ := List.mem_map.mp hm
      exact ⟨m', hm', .inr rfl⟩
    | some m =>
      have hjusto := hjusta hlibre m hprimero
      obtain ⟨hdisputa, i, hlt, hm, hantes⟩ := List.find?_eq_some_iff_getElem.mp hprimero
      obtain ⟨hpid, hcola⟩ := Classical.not_imp.mp (of_decide_eq_true hdisputa)
      obtain ⟨siguiente, resto, hcola⟩ := List.exists_cons_of_ne_nil hcola
      have hm? : k.listaMutexes[i]? = some m := by rw [List.getElem?_eq_getElem hlt, hm]
      have hantes' : ∀ j m, j < i → k.listaMutexes[j]? = some m → m.SinDisputa pid := by
        intro j m' hj hm'
        obtain ⟨_, rfl⟩ := List.getElem?_eq_some_iff.mp hm'
        simpa using hantes j hj
      rw [liberarMutexesDeProceso_disputada hlibre hm? hpid hcola hantes']
      have hrecorrido := (recorrer_ok_iff (k := { k with mutexListaMutexes := true }) pid rfl i
        (Nat.le_of_lt hlt)).mpr ⟨hantes', rfl⟩
      have hliberado : { k with
          listaMutexes := liberadosHasta pid i k.listaMutexes
          mutexListaMutexes := true }.PorNivel [] := by
        have hconserva : Conserva [] (forM (List.range i) (liberarMutexEn pid)) [] :=
          conserva_forM _ fun j ↦ conserva_liberarMutexEn pid j
        have htomada : { k with mutexListaMutexes := true }.EnUnLugar [] := h.unLugar
        exact h.liberado pid mem_liberadosHasta true (Blocking.Triple.ok hconserva htomada hrecorrido)
      refine hliberado.asignarASiguiente ?_ hcola (hjusto siguiente ?_)
      · simp [liberadosHasta, hm?]
      · rw [hcola]
        rfl

theorem EntregaJusta.cambiarEstado (h : k.EntregaJusta pid) (estado : Estado) :
    (k.cambiarEstado pid estado).EntregaJusta pid :=
  fun hlibre m hm q hq ↦ (h hlibre m hm q hq).cambiarEstado

/-- The process may be at its end already. -/
theorem porNivel_finalizarProceso (pid : Pid) :
    Blocking.Triple (fun k ↦ (k.cambiarEstado pid .exitState).PorNivel [] ∧ k.EntregaJusta pid)
      (finalizarProceso pid) (fun _ k ↦ k.PorNivel []) (PorNivel · []) := by
  apply Blocking.Triple.bind (R := fun _ k ↦ k.PorNivel [] ∧ k.EntregaJusta pid)
  · exact Blocking.Triple.of_modify fun k hk ↦ ⟨hk.1, hk.2.cambiarEstado _⟩
  intro _
  apply Blocking.Triple.bind (porNivel_liberarMutexes pid)
  intro _
  exact Blocking.Triple.of_modify fun k hk ↦
    hk.of_igual hk.unLugar rfl rfl rfl rfl hk.poseedores fun q hq hno ↦ absurd hq hno

theorem porNivel_finalizarPcb (pid : Pid) :
    Blocking.Triple (fun k ↦ (k.cambiarEstado pid .exitState).PorNivel [] ∧ k.EntregaJusta pid)
      (finalizarPcbPorSegFault pid) (fun _ k ↦ k.PorNivel []) (PorNivel · []) := by
  have hotros : ∀ {k k' : KernelScheduler}, k.PorNivel [] → k'.EnUnLugar [] → k'.pcbs = k.pcbs →
      k'.colasReadyPorPrioridad = k.colasReadyPorPrioridad → k'.contadorPids = k.contadorPids →
      k'.colaProcesosNew = k.colaProcesosNew → k'.listaMutexes = k.listaMutexes → k'.PorNivel [] := by
    intro k k' hk hun hpcbs hcolas hcontador hnuevos hlista
    exact hk.of_igual hun hpcbs hcolas hcontador hnuevos (hlista ▸ hk.poseedores)
      fun q hq hno ↦ absurd hq hno
  apply Blocking.Triple.bind (R := fun _ k ↦ k.PorNivel [] ∧ k.EntregaJusta pid)
  · exact Blocking.Triple.of_modify fun k hk ↦ ⟨hk.1, hk.2.cambiarEstado _⟩
  intro _
  apply Blocking.Triple.bind (R := fun _ k ↦ k.PorNivel [] ∧ k.EntregaJusta pid)
  · exact Blocking.Triple.of_modify fun k hk ↦
      ⟨hotros hk.1 hk.1.unLugar rfl rfl rfl rfl rfl, hk.2⟩
  intro _
  apply Blocking.Triple.bind (porNivel_liberarMutexes pid)
  intro _
  apply Blocking.Triple.bind (R := fun _ k ↦ k.PorNivel [])
  · exact Blocking.Triple.of_modify fun k hk ↦
      hk.mismaPrioridad pid (fun p ↦ { p with stdinPendiente := none }) rfl rfl rfl
  intro _
  exact Blocking.Triple.of_modify fun k hk ↦ hotros hk hk.unLugar rfl rfl rfl rfl rfl

/-- A process in hand comes to its end. -/
theorem PorNivel.finalizar (h : k.PorNivel [pid]) : (k.cambiarEstado pid .exitState).PorNivel [] := by
  refine h.conPcb _ h.unLugar.finalizar (fun hno ↦ absurd rfl hno) (h.iniciado List.mem_cons_self) nofun
    rfl rfl (fun i cola ↦ h.fuera List.mem_cons_self) nofun fun q hq _ hmem ↦ ?_
  exact hq (List.mem_singleton.mp hmem)

/-! ## Mutex syscalls -/

/-- The process is let go; it is not in READY. -/
theorem PorNivel.soltar (h : k.PorNivel (pid :: mano)) (hno : (k.pcbs pid).estado ≠ .ready) :
    k.PorNivel mano := by
  refine h.of_igual h.unLugar.soltar rfl rfl rfl rfl h.poseedores fun q hq hfuera ↦ ?_
  rwa [(List.mem_cons.mp hq).resolve_right hfuera]

/-- With the list of mutexes locked, a mutex syscall that names a mutex stops at once. -/
theorem final_mutex_tomada (htomada : k.mutexListaMutexes = true) (nombre : String) (s : SyscallMutex)
    (hs : s = .create (some nombre) ∨ s = .lock (some nombre) ∨ s = .unlock (some nombre)) :
    (manejarSyscallMutex pid s).final k = k := by
  have hbuscar : buscarMutexPorNombre nombre k = .error () k :=
    Blocking.bind_error (lockListaMutexes_tomada htomada) _
  have hrun : manejarSyscallMutex pid s k = .error () k := by
    rcases hs with rfl | rfl | rfl
    · exact Blocking.bind_error (Blocking.bind_error hbuscar _) _
    · exact Blocking.bind_error (Blocking.bind_error (Blocking.bind_error hbuscar _) _) _
    · exact Blocking.bind_error (Blocking.bind_error hbuscar _) _
  unfold Blocking.final
  rw [hrun]

theorem PorNivel.mutexCreate (h : k.PorNivel [pid]) (hno : (k.pcbs pid).estado ≠ .ready)
    (nombre : Option String)
    (hjusta : k.SalidaJusta pid (k.salidaSyscall pid true .ok (.mutexCreate nombre))) :
    ((manejarSyscallMutex pid (.create nombre)).final k).PorNivel [] := by
  cases nombre with
  | none => exact h.encolar hjusta
  | some nombre =>
    unfold salidaSyscall at hjusta
    cases hlibre : k.mutexListaMutexes with
    | true =>
      rw [final_mutex_tomada hlibre nombre _ (.inl rfl)]
      exact h.soltar hno
    | false =>
      simp only [hlibre, Bool.false_eq_true, if_false] at hjusta
      unfold Blocking.final
      rcases manejarSyscallMutexCreate_libre hlibre (some nombre) with hrun | ⟨nuevo, hrun⟩
      · rw [manejarSyscallMutex, Blocking.bind_ok hrun]
        exact h.encolar hjusta
      · rw [manejarSyscallMutex, Blocking.bind_ok hrun]
        exact (h.conMutexNuevo nuevo).encolar hjusta

/-- The run of `MUTEX_LOCK` with the list of mutexes free. -/
theorem final_mutexLock (hlibre : k.mutexListaMutexes = false) (nombre : String) :
    (manejarSyscallMutex pid (.lock (some nombre))).final k =
      match k.listaMutexes.findIdx? fun m ↦ m.nombre = nombre with
      | none => ((k.conMutexNuevo nombre).modificarMutex k.listaMutexes.length fun m ↦
          { m with asignadoAPid := some pid }).encolarEnReadyYNotificar pid
      | some i =>
        if (k.listaMutexes[i]?.bind MutexSistema.asignadoAPid).isNone then
          (k.modificarMutex i fun m ↦ { m with asignadoAPid := some pid }).encolarEnReadyYNotificar pid
        else ((k.esperarMutex pid i).propagarHerenciaPrioridad pid
          (k.pcbs pid).prioridadDinamica).notificarEspera pid := by
  have hbuscar := buscarMutexPorNombre_libre hlibre nombre
  unfold Blocking.final
  rw [manejarSyscallMutex]
  cases hi : k.listaMutexes.findIdx? fun m ↦ m.nombre = nombre with
  | none =>
    rw [hi] at hbuscar
    have hcrear : buscarOCrearMutex nombre k = .ok k.listaMutexes.length (k.conMutexNuevo nombre) := by
      unfold buscarOCrearMutex
      rw [Blocking.bind_ok hbuscar]
      exact registrarMutex_libre hlibre _
    have hnuevo : (k.conMutexNuevo nombre).listaMutexes[k.listaMutexes.length]? =
        some ⟨nombre, none, []⟩ := List.getElem?_concat_length
    have hlock : manejarSyscallMutexLock pid (some nombre) k = .ok false
        ((k.conMutexNuevo nombre).modificarMutex k.listaMutexes.length fun m ↦
          { m with asignadoAPid := some pid }) := by
      unfold manejarSyscallMutexLock
      simp only
      rw [Blocking.bind_ok hcrear, Blocking.bind_ok (x := get) rfl]
      simp only [hnuevo, Option.bind_some, Option.isNone_none, if_true]
      rfl
    rw [Blocking.bind_ok hlock]
    rfl
  | some i =>
    rw [hi] at hbuscar
    have hencontrado : buscarOCrearMutex nombre k = .ok i k := by
      unfold buscarOCrearMutex
      rw [Blocking.bind_ok hbuscar]
      rfl
    by_cases hlibre : (k.listaMutexes[i]?.bind MutexSistema.asignadoAPid).isNone
    · have hlock : manejarSyscallMutexLock pid (some nombre) k = .ok false
          (k.modificarMutex i fun m ↦ { m with asignadoAPid := some pid }) := by
        unfold manejarSyscallMutexLock
        simp only
        rw [Blocking.bind_ok hencontrado, Blocking.bind_ok (x := get) rfl, if_pos hlibre]
        rfl
      rw [Blocking.bind_ok hlock]
      simp only [if_pos hlibre]
      rfl
    · have hlock : manejarSyscallMutexLock pid (some nombre) k = .ok true
          (((k.esperarMutex pid i).propagarHerenciaPrioridad pid
            (k.pcbs pid).prioridadDinamica).notificarEspera pid) := by
        unfold manejarSyscallMutexLock
        simp only
        rw [Blocking.bind_ok hencontrado, Blocking.bind_ok (x := get) rfl, if_neg hlibre]
        rw [← prioridadDinamica_esperarMutex k pid i]
        rfl
      rw [Blocking.bind_ok hlock]
      simp only [if_neg hlibre]
      rfl

theorem PorNivel.mutexLock (h : k.PorNivel [pid]) (hno : (k.pcbs pid).estado ≠ .ready)
    (nombre : Option String)
    (hjusta : k.SalidaJusta pid (k.salidaSyscall pid true .ok (.mutexLock nombre))) :
    ((manejarSyscallMutex pid (.lock nombre)).final k).PorNivel [] := by
  have hiniciado := h.iniciado List.mem_cons_self
  have hposeedor : ∀ q ∈ some pid, k.Admitido q := by
    intro q hq
    rw [← Option.some.inj hq]
    exact ⟨(h.vigente List.mem_cons_self).1, hiniciado⟩
  cases nombre with
  | none => exact h.encolar hjusta
  | some nombre =>
    unfold salidaSyscall salidaMutex at hjusta
    cases hlibre : k.mutexListaMutexes with
    | true =>
      rw [final_mutex_tomada hlibre nombre _ (.inr (.inl rfl))]
      exact h.soltar hno
    | false =>
      simp only [hlibre, Bool.false_eq_true, if_false] at hjusta
      rw [final_mutexLock hlibre]
      cases hi : k.listaMutexes.findIdx? fun m ↦ m.nombre = nombre with
      | none =>
        simp only [hi] at hjusta ⊢
        exact ((h.conMutexNuevo nombre).cambiarPoseedor _ hposeedor).encolar hjusta
      | some i =>
        simp only [hi] at hjusta ⊢
        obtain ⟨hlt, _⟩ := List.findIdx?_eq_some_iff_getElem.mp hi
        simp only [List.getElem?_eq_getElem hlt, Option.bind_some, Option.map_some,
          Option.getD_some] at hjusta ⊢
        split
        · rename_i hnadie
          rw [if_pos hnadie] at hjusta
          exact (h.cambiarPoseedor i hposeedor).encolar hjusta
        · exact ((h.esperarMutex i).propagar _ pid (h.valido List.mem_cons_self).2).notificarEspera pid

/-- The run of `MUTEX_UNLOCK` with the list of mutexes free. -/
theorem final_mutexUnlock (hlibre : k.mutexListaMutexes = false) {nombre : String} {i : ℕ}
    {m : MutexSistema} (hi : k.listaMutexes.findIdx? (fun m ↦ m.nombre = nombre) = some i)
    (hm : k.listaMutexes[i]? = some m) :
    (manejarSyscallMutex pid (.unlock (some nombre))).final k =
      if m.asignadoAPid = some pid then
        match m.colaBloqueados with
        | [] =>
          let k₁ := k.modificarMutex i fun m ↦ { m with asignadoAPid := none }
          (k₁.asignarPrioridadDinamica pid (k₁.maxPrioridad pid)).encolarEnReadyYNotificar pid
        | siguiente :: _ =>
          let k₁ := k.asignarASiguiente i siguiente
          let k₂ := k₁.asignarPrioridadDinamica siguiente (k₁.maxPrioridad siguiente)
          (k₂.asignarPrioridadDinamica pid (k₂.maxPrioridad pid)).encolarEnReadyYNotificar pid
      else k.encolarEnReadyYNotificar pid := by
  have hbuscar := buscarMutexPorNombre_libre hlibre nombre
  rw [hi] at hbuscar
  unfold Blocking.final
  rw [manejarSyscallMutex]
  by_cases hpid : m.asignadoAPid = some pid
  · rw [if_pos hpid]
    cases hcola : m.colaBloqueados with
    | nil =>
      have hlibre₁ : (k.modificarMutex i fun m ↦ { m with
          asignadoAPid := none }).mutexListaMutexes = false := hlibre
      have hunlock : manejarSyscallMutexUnlock pid (some nombre) k = .ok ()
          ((k.modificarMutex i fun m ↦ { m with asignadoAPid := none }).asignarPrioridadDinamica pid
            ((k.modificarMutex i fun m ↦ { m with asignadoAPid := none }).maxPrioridad pid)) := by
        unfold manejarSyscallMutexUnlock
        simp only
        rw [Blocking.bind_ok hbuscar]
        simp only
        rw [Blocking.bind_ok (x := get) rfl]
        simp only [hm, if_pos hpid, hcola]
        rw [Blocking.bind_ok (x := modify _) rfl]
        exact recalcularPrioridadDinamica_libre hlibre₁ pid
      rw [Blocking.bind_ok hunlock]
      rfl
    | cons siguiente resto =>
      have hlibre₁ : (k.asignarASiguiente i siguiente).mutexListaMutexes = false := by
        rw [mutexListaMutexes_asignarASiguiente, hlibre]
      have hunlock : manejarSyscallMutexUnlock pid (some nombre) k = .ok ()
          (let k₁ := k.asignarASiguiente i siguiente
          let k₂ := k₁.asignarPrioridadDinamica siguiente (k₁.maxPrioridad siguiente)
          k₂.asignarPrioridadDinamica pid (k₂.maxPrioridad pid)) := by
        unfold manejarSyscallMutexUnlock
        simp only
        rw [Blocking.bind_ok hbuscar]
        simp only
        rw [Blocking.bind_ok (x := get) rfl]
        simp only [hm, if_pos hpid, hcola]
        rw [Blocking.bind_ok (x := modify _) rfl,
          Blocking.bind_ok (recalcularPrioridadDinamica_libre hlibre₁ siguiente)]
        apply recalcularPrioridadDinamica_libre
        rw [mutexListaMutexes_asignarPrioridadDinamica, hlibre₁]
      rw [Blocking.bind_ok hunlock]
      rfl
  · have hunlock : manejarSyscallMutexUnlock pid (some nombre) k = .ok () k := by
      unfold manejarSyscallMutexUnlock
      simp only
      rw [Blocking.bind_ok hbuscar]
      simp only
      rw [Blocking.bind_ok (x := get) rfl]
      simp only [hm, if_neg hpid]
      rfl
    rw [if_neg hpid, Blocking.bind_ok hunlock]
    rfl

/-- Where nobody with a better priority waits for it, a process gets its own priority. -/
theorem sinHerencia_recalcular (h : ∀ w, k.EsperaA w pid → k.prioridades pid ≤ k.dinamicas w) :
    (k.asignarPrioridadDinamica pid (k.maxPrioridad pid)).SinHerencia pid := by
  have hmax : k.maxPrioridad pid = k.prioridades pid := by
    refine (prioridad_maxPrioridad k pid).unique ⟨Set.mem_insert _ _, fun d hd ↦ ?_⟩
    rcases hd with rfl | ⟨w, hw, rfl⟩
    · exact Int.le_refl _
    · exact h w hw
  have hdinamica := congrFun (dinamicas_asignar k pid (k.maxPrioridad pid)) pid
  have hprioridad := congrFun (salvoDinamicas_asignar k pid (k.maxPrioridad pid)).prioridades pid
  rw [Function.update_self, hmax] at hdinamica
  rw [hmax] at hprioridad
  unfold SinHerencia
  rw [hmax]
  exact hdinamica.trans hprioridad.symm

/-- A process in hand waits for no mutex. -/
theorem PorNivel.noEspera (h : k.PorNivel mano) (hpid : pid ∈ mano) {m : MutexSistema}
    (hm : m ∈ k.listaMutexes) : pid ∉ m.colaBloqueados := by
  intro hcola
  have huno := h.unLugar pid
  have hespera : pid ∈ k.listaMutexes.flatMap MutexSistema.colaBloqueados :=
    List.mem_flatMap.mpr ⟨m, hm, hcola⟩
  have hcuenta := List.count_pos_iff.mpr hespera
  have hmano := List.count_pos_iff.mpr hpid
  simp only [apariciones, lugares, List.count_append] at huno
  split at huno <;> omega

/-- `MUTEX_UNLOCK` of a mutex for which nobody waits. -/
theorem PorNivel.soltarMutex (h : k.PorNivel [pid]) {i : ℕ} {m : MutexSistema}
    (hm : k.listaMutexes[i]? = some m)
    (hfuera : ∀ w, k.EsperaFuera i w pid → k.prioridades pid ≤ k.dinamicas w) :
    let k₁ := k.modificarMutex i fun m ↦ { m with asignadoAPid := none }
    ((k₁.asignarPrioridadDinamica pid (k₁.maxPrioridad pid)).encolarEnReadyYNotificar pid).PorNivel [] := by
  intro k₁
  have hlista : k₁.listaMutexes = k.listaMutexes.set i { m with asignadoAPid := none } :=
    ListModify.modify_eq_set hm
  have hsuelto : k₁.PorNivel [pid] := h.cambiarPoseedor i fun q hq ↦ by cases hq
  have hrecalculado := hsuelto.recalcular (hsuelto.vigente List.mem_cons_self)
    (hsuelto.iniciado List.mem_cons_self)
  refine hrecalculado.encolar (sinHerencia_recalcular fun w hw ↦ hfuera w ?_)
  rw [esperaA_iff_fuera (getElem?_set_mismo hm hlista), esperaFuera_set hlista] at hw
  exact hw.resolve_right fun hno ↦ by cases hno.1

/-- `MUTEX_UNLOCK` of a mutex with a waiter that inherits nothing. -/
theorem PorNivel.pasarMutex (h : k.PorNivel [pid]) {i : ℕ} {m : MutexSistema} {siguiente : Pid}
    {resto : List Pid} (hm : k.listaMutexes[i]? = some m)
    (hcola : m.colaBloqueados = siguiente :: resto) (hsin : k.SinHerencia siguiente)
    (hfuera : ∀ w, k.EsperaFuera i w pid → k.prioridades pid ≤ k.dinamicas w) :
    let k₁ := k.asignarASiguiente i siguiente
    let k₂ := k₁.asignarPrioridadDinamica siguiente (k₁.maxPrioridad siguiente)
    ((k₂.asignarPrioridadDinamica pid (k₂.maxPrioridad pid)).encolarEnReadyYNotificar pid).PorNivel [] := by
  intro k₁ k₂
  have hprimero : siguiente ∈ m.colaBloqueados := by
    rw [hcola]
    exact List.mem_cons_self
  have hotro : siguiente ≠ pid := by
    rintro rfl
    exact h.noEspera List.mem_cons_self (List.mem_of_getElem? hm) hprimero
  have hvigente := (h.bloqueado (List.mem_of_getElem? hm) hprimero).2
  have hk₁ : k₁.PorNivel [pid] := h.asignarASiguiente hm hcola hsin
  have hsalvo := salvoReady_encolar (((k.modificarMutex i fun m ↦ { m with
    asignadoAPid := some siguiente, colaBloqueados := m.colaBloqueados.tail }).modificarPcb siguiente
      fun p ↦ { p with mutexEsperando := none, estado := .ready })) siguiente
  have hpcbs : ∀ q, k₁.pcbs q = if q = siguiente then
      { k.pcbs siguiente with mutexEsperando := none, estado := .ready } else k.pcbs q := by
    intro q
    show (KernelScheduler.encolarEnReadyYNotificar _ siguiente).pcbs q = _
    rw [hsalvo.pcbs]
    unfold KernelScheduler.cambiarEstado
    rw [pcbs_modificarPcb, pcbs_modificarPcb_mismo]
    split
    · rfl
    · rename_i hq
      rw [pcbs_modificarPcb, if_neg hq]
      rfl
  have hready : (k₁.pcbs siguiente).estado = .ready := by rw [hpcbs, if_pos rfl]
  have hlista : k₁.listaMutexes = k.listaMutexes.set i
      { m with asignadoAPid := some siguiente, colaBloqueados := m.colaBloqueados.tail } :=
    hsalvo.listaMutexes.trans (ListModify.modify_eq_set hm)
  have hk₂ : k₂.PorNivel [pid] := by
    apply hk₁.recalcular
    · refine ⟨?_, by rw [hready]; nofun⟩
      have hcontador : k₁.contadorPids = k.contadorPids := (congrArg KernelScheduler.contadorPids hsalvo :)
      rw [hcontador]
      exact hvigente.1
    · rw [hready]
      nofun
  have hasignar := salvoDinamicas_asignar k₁ siguiente (k₁.maxPrioridad siguiente)
  have hrecalculado := hk₂.recalcular (hk₂.vigente List.mem_cons_self) (hk₂.iniciado List.mem_cons_self)
  refine hrecalculado.encolar (sinHerencia_recalcular fun w hw ↦ ?_)
  have hesperaA : k₁.EsperaA w pid := hasignar.esperaA ▸ hw
  rw [esperaA_iff_fuera (getElem?_set_mismo hm hlista)] at hesperaA
  have hw' := hesperaA.resolve_right fun hno ↦ hotro (Option.some.inj hno.1)
  have hwsig : w ≠ siguiente := by
    rintro rfl
    obtain ⟨j, m', _, hm', _, hmem⟩ := hw'
    have hespera : w ∈ k₁.listaMutexes.flatMap MutexSistema.colaBloqueados :=
      List.mem_flatMap.mpr ⟨m', List.mem_of_getElem? hm', hmem⟩
    have hcuenta := List.count_pos_iff.mpr hespera
    refine hk₁.noReady ?_ ?_ hready
    · exact fun hmem ↦ hotro (List.mem_singleton.mp hmem)
    · omega
  have hle := hfuera w ((esperaFuera_set hlista w pid).mp hw')
  have hprioridad : k₂.prioridades pid = k.prioridades pid := by
    rw [hasignar.prioridades]
    unfold prioridades
    rw [hpcbs, if_neg hotro.symm]
  have hdinamica : k₂.dinamicas w = k.dinamicas w := by
    rw [dinamicas_asignar, Function.update_of_ne hwsig]
    unfold dinamicas
    rw [hpcbs, if_neg hwsig]
  rw [hprioridad, hdinamica]
  exact hle

theorem PorNivel.mutexUnlock (h : k.PorNivel [pid]) (hno : (k.pcbs pid).estado ≠ .ready)
    (nombre : Option String)
    (hjusta : k.SalidaJusta pid (k.salidaSyscall pid true .ok (.mutexUnlock nombre))) :
    ((manejarSyscallMutex pid (.unlock nombre)).final k).PorNivel [] := by
  cases nombre with
  | none => exact h.encolar hjusta
  | some nombre =>
    unfold salidaSyscall salidaMutex at hjusta
    cases hlibre : k.mutexListaMutexes with
    | true =>
      rw [final_mutex_tomada hlibre nombre _ (.inr (.inr rfl))]
      exact h.soltar hno
    | false =>
      simp only [hlibre, Bool.false_eq_true, if_false] at hjusta
      cases hi : k.listaMutexes.findIdx? fun m ↦ m.nombre = nombre with
      | none =>
        have hrun : manejarSyscallMutexUnlock pid (some nombre) k = .ok () k := by
          have hbuscar := buscarMutexPorNombre_libre hlibre nombre
          rw [hi] at hbuscar
          unfold manejarSyscallMutexUnlock
          simp only
          rw [Blocking.bind_ok hbuscar]
          rfl
        simp only [hi] at hjusta
        unfold Blocking.final
        rw [manejarSyscallMutex, Blocking.bind_ok hrun]
        exact h.encolar hjusta
      | some i =>
        obtain ⟨hlt, _⟩ := List.findIdx?_eq_some_iff_getElem.mp hi
        have hm := List.getElem?_eq_getElem hlt
        generalize k.listaMutexes[i] = m at hm
        rw [final_mutexUnlock hlibre hi hm]
        simp only [hi, hm, Option.map_some, Option.getD_some] at hjusta
        by_cases hpid : m.asignadoAPid = some pid
        swap
        · rw [if_neg hpid] at hjusta ⊢
          exact h.encolar hjusta
        rw [if_pos hpid] at hjusta ⊢
        obtain ⟨hsiguiente, hnadie⟩ := hjusta
        have hfuera : ∀ w, k.EsperaFuera i w pid → k.prioridades pid ≤ k.dinamicas w := by
          rintro w ⟨j, m', hj, hm', hposee, hw⟩
          exact hnadie j (List.getElem?_eq_some_iff.mp hm').1 hj m' hm' hposee w hw
        cases hcola : m.colaBloqueados with
        | nil => exact h.soltarMutex hm hfuera
        | cons siguiente resto =>
          refine h.pasarMutex hm hcola (hsiguiente m hm siguiente ?_) hfuera
          rw [hcola]
          rfl

/-! ## Syscalls of IO and memory -/

theorem PorNivel.pedirIo {req : IoRequest} (h : k.PorNivel (req.proceso :: mano))
    (hno : (k.pcbs req.proceso).estado ≠ .ready) {interfaz : Option ℕ} (caida : Bool)
    (hjusta : k.SalidaJusta req.proceso (salidaPedido interfaz)) :
    (k.pedirIo interfaz req caida).PorNivel mano := by
  have hencolar : ∀ {k : KernelScheduler} (i : ℕ), k.PorNivel (req.proceso :: mano) →
      (k.pcbs req.proceso).estado ≠ .ready → (k.encolarIoRequest i req).PorNivel mano := by
    intro k i h hno
    have hun := h.unLugar.encolarIoRequest i
    have hblock := h.enMano List.mem_cons_self (fun p ↦
      { p with estado := .block, blockEpoch := p.blockEpoch + 1 }) (.inr (.inr (.inr rfl))) rfl rfl
    have hfuera : ∀ q ∈ req.proceso :: mano, q ∉ mano →
        ((k.modificarPcb req.proceso fun p ↦
          { p with estado := .block, blockEpoch := p.blockEpoch + 1 }).pcbs q).estado ≠ .ready := by
      intro q hq hfuera
      rw [(List.mem_cons.mp hq).resolve_right hfuera, pcbs_modificarPcb_mismo]
      nofun
    unfold KernelScheduler.encolarIoRequest at hun ⊢
    split
    · exact h.soltar hno
    rename_i io hio
    simp only [hio] at hun
    split
    · rename_i hactiva
      rw [if_pos hactiva] at hun
      unfold entrarEnBlock notificarProcesoEnBlock at hun ⊢
      simp only at hun ⊢
      split
      · rename_i htimer
        rw [if_pos htimer] at hun
        exact hblock.of_igual hun rfl rfl rfl rfl hblock.poseedores hfuera
      · rename_i htimer
        rw [if_neg htimer] at hun
        exact hblock.of_igual hun rfl rfl rfl rfl hblock.poseedores hfuera
    · exact h.soltar hno
  unfold KernelScheduler.pedirIo
  cases interfaz with
  | none => exact h.encolar hjusta
  | some i =>
    simp only
    split
    · refine hencolar i ?_ hno
      exact h.of_igual h.unLugar rfl rfl rfl rfl h.poseedores fun q hq hfuera ↦ absurd hq hfuera
    · exact hencolar i h hno

theorem PorNivel.liberarReservada (h : k.PorNivel mano) (cpuId : ℕ) :
    (k.liberarReservada cpuId).PorNivel mano :=
  h.of_igual (h.unLugar.liberarReservada cpuId) rfl rfl rfl rfl h.poseedores
    fun _ hq hfuera ↦ absurd hq hfuera

theorem PorNivel.finalizarYLiberar (h : k.PorNivel [pid]) (hjusta : k.EntregaJusta pid) (cpuId : ℕ) :
    ((finalizarYLiberarCpu pid cpuId).final k).PorNivel [] := by
  have hfin : Blocking.Triple (fun k ↦ (k.cambiarEstado pid .exitState).PorNivel [] ∧ k.EntregaJusta pid)
      (finalizarYLiberarCpu pid cpuId) (fun _ k ↦ k.PorNivel []) (PorNivel · []) := by
    apply Blocking.Triple.bind (porNivel_finalizarProceso pid)
    intro _
    exact Blocking.Triple.of_modify fun k hk ↦ hk.liberarReservada cpuId
  exact hfin.final ⟨h.finalizar, hjusta⟩

theorem PorNivel.devolverOReplanificar (h : k.PorNivel [pid]) (hno : (k.pcbs pid).estado ≠ .ready)
    (cpuId : ℕ) (hjusta : ((buscarCpu k.cpus cpuId).bind TCpu.socket).isSome = false → k.SinHerencia pid) :
    (k.devolverOReplanificar cpuId pid).PorNivel [] := by
  have hun := h.unLugar.devolverOReplanificar cpuId
  unfold KernelScheduler.devolverOReplanificar devolverProcesoAMismaCpu at hun ⊢
  cases hsocket : (buscarCpu k.cpus cpuId).bind TCpu.socket with
  | none => exact h.encolar (hjusta (by rw [hsocket]; rfl))
  | some socket =>
    have hfuera : ∀ q ∈ [pid], q ∉ ([] : List Pid) → (k.pcbs q).estado ≠ .ready := by
      intro otro hq _
      rwa [List.mem_singleton.mp hq]
    simp only [hsocket] at hun ⊢
    split
    · rename_i hquantum
      rw [if_pos hquantum] at hun
      exact h.of_igual hun rfl rfl rfl rfl h.poseedores hfuera
    · rename_i hquantum
      rw [if_neg hquantum] at hun
      exact h.of_igual hun rfl rfl rfl rfl h.poseedores hfuera

theorem PorNivel.crearProceso (h : k.PorNivel mano) (path : String) (prioridad : ℤ) :
    (k.crearProceso path prioridad).PorNivel mano := by
  have hun := h.unLugar.crearProceso path prioridad
  unfold KernelScheduler.crearProceso at hun ⊢
  split
  · exact h
  rename_i hpath
  rw [if_neg hpath] at hun
  have hmismo : ∀ p : Pcb, Function.update k.pcbs k.contadorPids p k.contadorPids = p := fun p ↦
    Function.update_self _ _ _
  have hotro : ∀ (p : Pcb) (q : Pid), q ≠ k.contadorPids →
      Function.update k.pcbs k.contadorPids p q = k.pcbs q := fun p q hq ↦ Function.update_of_ne hq _ _
  refine ⟨hun, fun q ↦ ?_, fun q hq ↦ ?_, fun q hvig hq ↦ ?_, fun m hm q hposee ↦ ?_,
    fun q hq hestado ↦ ?_, fun i cola q hcola hq ↦ ?_⟩
  · rw [List.mem_append, List.mem_singleton]
    by_cases hnuevo : q = k.contadorPids
    · simp only [hnuevo, hmismo]
      exact iff_of_true trivial (.inr trivial)
    · simp only [hotro _ q hnuevo]
      rw [or_iff_left hnuevo]
      exact h.nuevos q
  · unfold SinHerencia
    by_cases hnuevo : q = k.contadorPids
    · simp only [hnuevo, hmismo]
    · simp only [hotro _ q hnuevo]
      exact h.propias q ((List.mem_append.mp hq).resolve_right fun hq ↦ hnuevo (List.mem_singleton.mp hq))
  · unfold Vigente at hvig
    by_cases hnuevo : q = k.contadorPids
    · simp only [hnuevo, hmismo] at hq
      exact absurd rfl hq
    · simp only [hotro _ q hnuevo] at hvig hq ⊢
      exact h.validos q ⟨Nat.lt_of_le_of_ne (Nat.le_of_lt_succ hvig.1) hnuevo, hvig.2⟩ hq
  · have hposeedor := h.poseedores m hm q hposee
    refine ⟨Nat.lt_succ_of_lt hposeedor.1, ?_⟩
    simp only [hotro _ q (Nat.ne_of_lt hposeedor.1)]
    exact hposeedor.2
  · unfold EnSuCola
    by_cases hnuevo : q = k.contadorPids
    · simp only [hnuevo, hmismo] at hestado
      cases hestado
    · simp only [hotro _ q hnuevo] at hestado ⊢
      exact h.enCola q hq hestado
  · have hnuevo : q ≠ k.contadorPids := by
      intro hnuevo
      have huno := h.unLugar q
      have hcola' : k.colasReadyPorPrioridad[i]? = some cola := hcola
      have hcuenta := List.count_pos_iff.mpr
        (List.mem_flatten.mpr ⟨cola, List.mem_of_getElem? hcola', hq⟩)
      have hno : ¬ k.Vigente q := fun hvig ↦ Nat.ne_of_lt hvig.1 hnuevo
      rw [if_neg hno] at huno
      simp only [apariciones, lugares, List.count_append] at huno
      omega
    simp only [hotro _ q hnuevo]
    exact h.miembros i cola q hcola hq

theorem SinHerencia.crearProceso (h : k.SinHerencia pid) (hpid : pid < k.contadorPids) (path : String)
    (prioridad : ℤ) : (k.crearProceso path prioridad).SinHerencia pid := by
  unfold SinHerencia KernelScheduler.crearProceso
  split
  · exact h
  · simp only [Function.update_of_ne (Nat.ne_of_lt hpid)]
    exact h

theorem PorNivel.syscallIo (h : k.PorNivel [pid]) (hno : (k.pcbs pid).estado ≠ .ready) {cpuId : ℕ}
    {conectada : Bool} (hcpu : ((buscarCpu k.cpus cpuId).bind TCpu.socket).isSome = conectada)
    (pedido : Syscall) {respuesta : RespuestaMemoria} (caida : Bool)
    (hjusta : k.SalidaJusta pid (k.salidaSyscall pid conectada respuesta pedido)) :
    ((manejarSyscallIo pid pedido cpuId respuesta caida).final k).PorNivel [] := by
  have hdevolver : k.SalidaJusta pid (if conectada then .otra else .aReady) →
      (k.devolverOReplanificar cpuId pid).PorNivel [] := by
    intro hjusta
    refine h.devolverOReplanificar hno cpuId fun hgone ↦ ?_
    rw [← hcpu, hgone] at hjusta
    exact hjusta
  cases pedido with
  | sleep tiempo =>
    cases tiempo with
    | none => exact h.encolar hjusta
    | some tiempo => exact h.pedirIo hno caida hjusta
  | ioSleep params =>
    cases params with
    | none => exact h.encolar hjusta
    | some params => exact h.pedirIo hno caida hjusta
  | stdin params =>
    cases params with
    | none => exact h.encolar hjusta
    | some params => exact h.pedirIo hno caida hjusta
  | stdout params =>
    cases params with
    | none => exact h.encolar hjusta
    | some params =>
      rw [final_stdout]
      unfold salidaSyscall at hjusta
      cases hbuscar : buscarInterfazIoPorTipo k.tablaIos .stdout with
      | none =>
        simp only [hbuscar] at hjusta
        exact h.encolar hjusta
      | some i =>
        simp only [hbuscar] at hjusta
        cases respuesta with
        | sinRespuesta => exact h.encolar hjusta
        | segmentationFault => exact (porNivel_finalizarPcb pid).final ⟨h.finalizar, hjusta⟩
        | ok => exact h.pedirIo hno caida trivial
  | memAlloc params =>
    cases params with
    | none => exact h.finalizarYLiberar hjusta cpuId
    | some params =>
      cases respuesta with
      | ok => exact hdevolver hjusta
      | segmentationFault => exact h.finalizarYLiberar hjusta cpuId
      | sinRespuesta => exact h.finalizarYLiberar hjusta cpuId
  | memFree idSegmento =>
    cases idSegmento with
    | none => exact h.finalizarYLiberar hjusta cpuId
    | some idSegmento => exact hdevolver hjusta
  | mutexCreate nombre =>
    apply h.mutexCreate hno nombre
    cases nombre <;> exact hjusta
  | mutexLock nombre =>
    apply h.mutexLock hno nombre
    cases nombre <;> exact hjusta
  | mutexUnlock nombre =>
    apply h.mutexUnlock hno nombre
    cases nombre <;> exact hjusta
  | initProc params =>
    cases params with
    | none => exact h.encolar hjusta
    | some params =>
      refine (h.crearProceso params.1 params.2).encolar ?_
      exact SinHerencia.crearProceso hjusta (h.vigente List.mem_cons_self).1 _ _
  | desconocida => exact h.encolar hjusta

theorem PorNivel.atenderDevuelto (h : k.PorNivel [pid]) (hno : (k.pcbs pid).estado ≠ .ready)
    {cpuId : ℕ} {conectada : Bool}
    (hcpu : ((buscarCpu k.cpus cpuId).bind TCpu.socket).isSome = conectada)
    (motivo : Motivo) {respuesta : RespuestaMemoria} (caida : Bool)
    (hjusta : k.SalidaJusta pid (k.salidaMotivo pid conectada respuesta motivo)) :
    ((Planificador.atenderDevuelto pid motivo cpuId respuesta caida).final k).PorNivel [] := by
  cases motivo with
  | quantum => exact h.encolar hjusta
  | syscall pedido => exact h.syscallIo hno hcpu pedido caida hjusta
  | exit => exact (porNivel_finalizarProceso pid).final ⟨h.finalizar, hjusta⟩
  | error => exact (porNivel_finalizarProceso pid).final ⟨h.finalizar, hjusta⟩
  | segfault => exact (porNivel_finalizarProceso pid).final ⟨h.finalizar, hjusta⟩
  | desalojo => exact h.encolarDesalojado hjusta
  | desalojoCola => exact h.encolarDesalojado hjusta
  | desconocido => exact h.encolar hjusta

end KernelScheduler

end PlugAndPlay.Planificador
