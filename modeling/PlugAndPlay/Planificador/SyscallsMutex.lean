import PlugAndPlay.Planificador.Herencia

/-!
# Mutex syscalls

`MUTEX_CREATE`, `MUTEX_LOCK` and `MUTEX_UNLOCK` of the process that a CPU just returned.
-/

open PlugAndPlay.Library

namespace PlugAndPlay.Planificador

open KernelScheduler

/-- No timer starts without a suspension timeout. -/
def KernelScheduler.notificarProcesoEnBlock (k : KernelScheduler) (pid : Pid) (epoch : UInt32) :
    KernelScheduler :=
  if k.config.suspensionTimeout ≤ 0 then k
  else { k with timersSuspension := k.timersSuspension ++ [⟨pid, epoch, false⟩] }

def manejarSyscallMutexCreate (nombre : Option String) : Hilo Unit := do
  match nombre with
  | none => return
  | some nombre =>
    match ← buscarMutexPorNombre nombre with
    | none => discard (registrarMutex ⟨nombre, none, []⟩)
    | some _ => return

/-- The mutex with the name, which is created when there is none. -/
def buscarOCrearMutex (nombre : String) : Hilo ℕ := do
  match ← buscarMutexPorNombre nombre with
  | none => registrarMutex ⟨nombre, none, []⟩
  | some i => return i

/-- The process joins the queue of a mutex that is held. -/
def KernelScheduler.esperarMutex (k : KernelScheduler) (pid : Pid) (i : ℕ) : KernelScheduler :=
  let k₁ := k.modificarPcb pid fun p ↦ { p with estado := .block, mutexEsperando := some i }
  k₁.modificarMutex i fun m ↦ { m with colaBloqueados := m.colaBloqueados ++ [pid] }

/-- The timer of the wait finds nothing in `cola_procesos_block`: a process that waits for a mutex is
not suspended. -/
def KernelScheduler.notificarEspera (k : KernelScheduler) (pid : Pid) : KernelScheduler :=
  let k₁ := k.modificarPcb pid fun p ↦ { p with blockEpoch := p.blockEpoch + 1 }
  k₁.notificarProcesoEnBlock pid (k₁.pcbs pid).blockEpoch

/-- Whether the process blocked. -/
def manejarSyscallMutexLock (pid : Pid) (nombre : Option String) : Hilo Bool := do
  match nombre with
  | none => return false
  | some nombre =>
    let i ← buscarOCrearMutex nombre
    let k ← get
    if (k.listaMutexes[i]?.bind MutexSistema.asignadoAPid).isNone then
      modify fun k ↦ k.modificarMutex i fun m ↦ { m with asignadoAPid := some pid }
      return false
    else
      modify fun k ↦ k.esperarMutex pid i
      modify fun k ↦ k.propagarHerenciaPrioridad pid (k.pcbs pid).prioridadDinamica
      modify fun k ↦ k.notificarEspera pid
      return true

def manejarSyscallMutexUnlock (pid : Pid) (nombre : Option String) : Hilo Unit := do
  match nombre with
  | none => return
  | some nombre =>
    match ← buscarMutexPorNombre nombre with
    | none => return
    | some i =>
      let k ← get
      match k.listaMutexes[i]? with
      | none => return
      | some m =>
        if m.asignadoAPid = some pid then
          match m.colaBloqueados with
          | [] => modify fun k ↦ k.modificarMutex i fun m ↦ { m with asignadoAPid := none }
          | siguiente :: _ =>
            modify fun k ↦ k.asignarASiguiente i siguiente
            recalcularPrioridadDinamica siguiente
          recalcularPrioridadDinamica pid

inductive SyscallMutex
  | create (nombre : Option String)
  | lock (nombre : Option String)
  | unlock (nombre : Option String)
deriving Repr, DecidableEq

/-- The branches of `manejar_syscall_io` for mutexes. -/
def manejarSyscallMutex (pid : Pid) : SyscallMutex → Hilo Unit
  | .create nombre => do
    manejarSyscallMutexCreate nombre
    modify fun k ↦ k.encolarEnReadyYNotificar pid
  | .lock nombre => do
    let seBloqueo ← manejarSyscallMutexLock pid nombre
    unless seBloqueo do modify fun k ↦ k.encolarEnReadyYNotificar pid
  | .unlock nombre => do
    manejarSyscallMutexUnlock pid nombre
    modify fun k ↦ k.encolarEnReadyYNotificar pid

/-! ## What a mutex syscall does -/

def KernelScheduler.conMutexNuevo (k : KernelScheduler) (nombre : String) : KernelScheduler :=
  { k with listaMutexes := k.listaMutexes ++ [⟨nombre, none, []⟩] }

/-- The ways through a mutex syscall of `pid`, with the state at the end. -/
inductive PasoMutex (k : KernelScheduler) (pid : Pid) : KernelScheduler → Prop
  | nada : PasoMutex k pid (k.encolarEnReadyYNotificar pid)
  | crear (nombre : String) :
    PasoMutex k pid ((k.conMutexNuevo nombre).encolarEnReadyYNotificar pid)
  | tomar {i : ℕ} {m : MutexSistema} :
    k.listaMutexes[i]? = some m → m.asignadoAPid = none →
    PasoMutex k pid ((k.modificarMutex i fun m ↦
      { m with asignadoAPid := some pid }).encolarEnReadyYNotificar pid)
  | tomarNuevo (nombre : String) :
    PasoMutex k pid (((k.conMutexNuevo nombre).modificarMutex k.listaMutexes.length fun m ↦
      { m with asignadoAPid := some pid }).encolarEnReadyYNotificar pid)
  | esperar {i : ℕ} {m : MutexSistema} {poseedor : Pid} :
    k.listaMutexes[i]? = some m → m.asignadoAPid = some poseedor →
    PasoMutex k pid (((k.esperarMutex pid i).propagarHerenciaPrioridad pid
      (k.pcbs pid).prioridadDinamica).notificarEspera pid)
  | soltar {i : ℕ} {m : MutexSistema} {k₁ k₂ : KernelScheduler} :
    k.listaMutexes[i]? = some m → m.asignadoAPid = some pid → m.colaBloqueados = [] →
    k₁ = k.modificarMutex i (fun m ↦ { m with asignadoAPid := none }) →
    k₂ = k₁.asignarPrioridadDinamica pid (k₁.maxPrioridad pid) →
    PasoMutex k pid (k₂.encolarEnReadyYNotificar pid)
  | pasar {i : ℕ} {m : MutexSistema} {siguiente : Pid} {resto : List Pid}
      {k₁ k₂ k₃ : KernelScheduler} :
    k.listaMutexes[i]? = some m → m.asignadoAPid = some pid → m.colaBloqueados = siguiente :: resto →
    k₁ = k.asignarASiguiente i siguiente →
    k₂ = k₁.asignarPrioridadDinamica siguiente (k₁.maxPrioridad siguiente) →
    k₃ = k₂.asignarPrioridadDinamica pid (k₂.maxPrioridad pid) →
    PasoMutex k pid (k₃.encolarEnReadyYNotificar pid)

section

variable {k : KernelScheduler}

theorem manejarSyscallMutexCreate_libre (h : k.mutexListaMutexes = false) (nombre : Option String) :
    manejarSyscallMutexCreate nombre k = .ok () k ∨
      ∃ nuevo, manejarSyscallMutexCreate nombre k = .ok () (k.conMutexNuevo nuevo) := by
  cases nombre with
  | none => exact .inl rfl
  | some nombre =>
    unfold manejarSyscallMutexCreate
    simp only
    rw [Blocking.bind_ok (buscarMutexPorNombre_libre h nombre)]
    cases k.listaMutexes.findIdx? fun m ↦ m.nombre = nombre with
    | none =>
      refine .inr ⟨nombre, ?_⟩
      show (Functor.mapConst () (registrarMutex _)) k = _
      exact Blocking.bind_ok (registrarMutex_libre h ⟨nombre, none, []⟩) _
    | some i => exact .inl rfl

theorem buscarOCrearMutex_libre (h : k.mutexListaMutexes = false) (nombre : String) :
    (∃ i m, buscarOCrearMutex nombre k = .ok i k ∧ k.listaMutexes[i]? = some m) ∨
      buscarOCrearMutex nombre k = .ok k.listaMutexes.length (k.conMutexNuevo nombre) := by
  unfold buscarOCrearMutex
  rw [Blocking.bind_ok (buscarMutexPorNombre_libre h nombre)]
  cases hbuscar : k.listaMutexes.findIdx? fun m ↦ m.nombre = nombre with
  | none => exact .inr (registrarMutex_libre h ⟨nombre, none, []⟩)
  | some i =>
    obtain ⟨hi, _⟩ := List.findIdx?_eq_some_iff_getElem.mp hbuscar
    exact .inl ⟨i, _, rfl, List.getElem?_eq_getElem hi⟩

theorem prioridadDinamica_esperarMutex (k : KernelScheduler) (pid : Pid) (i : ℕ) :
    ((k.esperarMutex pid i).pcbs pid).prioridadDinamica = (k.pcbs pid).prioridadDinamica := by
  unfold esperarMutex
  show ((k.modificarPcb pid fun p ↦
    { p with estado := .block, mutexEsperando := some i }).pcbs pid).prioridadDinamica = _
  rw [pcbs_modificarPcb_mismo]

theorem manejarSyscallMutexLock_libre (h : k.mutexListaMutexes = false) (pid : Pid)
    (nombre : Option String) :
    (∃ k₁, manejarSyscallMutexLock pid nombre k = .ok false k₁ ∧
      PasoMutex k pid (k₁.encolarEnReadyYNotificar pid)) ∨
    ∃ k₁, manejarSyscallMutexLock pid nombre k = .ok true k₁ ∧ PasoMutex k pid k₁ := by
  cases nombre with
  | none => exact .inl ⟨k, rfl, .nada⟩
  | some nombre =>
    unfold manejarSyscallMutexLock
    simp only
    rcases buscarOCrearMutex_libre h nombre with ⟨i, m, hbuscar, hm⟩ | hbuscar
    · rw [Blocking.bind_ok hbuscar, Blocking.bind_ok (x := get) rfl]
      cases hposee : m.asignadoAPid with
      | none =>
        simp only [hm, Option.bind_some, hposee, Option.isNone_none, if_true]
        exact .inl ⟨_, rfl, .tomar hm hposee⟩
      | some poseedor =>
        simp only [hm, Option.bind_some, hposee, Option.isNone_some, Bool.false_eq_true, if_false]
        refine .inr ⟨_, rfl, ?_⟩
        beta_reduce
        rw [prioridadDinamica_esperarMutex]
        exact .esperar hm hposee
    · rw [Blocking.bind_ok hbuscar, Blocking.bind_ok (x := get) rfl]
      have hnuevo : (k.conMutexNuevo nombre).listaMutexes[k.listaMutexes.length]? =
          some ⟨nombre, none, []⟩ := List.getElem?_concat_length
      simp only [hnuevo, Option.bind_some, Option.isNone_none, if_true]
      exact .inl ⟨_, rfl, .tomarNuevo nombre⟩

theorem manejarSyscallMutexUnlock_libre (h : k.mutexListaMutexes = false) (pid : Pid)
    (nombre : Option String) :
    ∃ k₁, manejarSyscallMutexUnlock pid nombre k = .ok () k₁ ∧
      PasoMutex k pid (k₁.encolarEnReadyYNotificar pid) := by
  cases nombre with
  | none => exact ⟨k, rfl, .nada⟩
  | some nombre =>
    unfold manejarSyscallMutexUnlock
    simp only
    rw [Blocking.bind_ok (buscarMutexPorNombre_libre h nombre)]
    cases hbuscar : k.listaMutexes.findIdx? fun m ↦ m.nombre = nombre with
    | none => exact ⟨k, rfl, .nada⟩
    | some i =>
      obtain ⟨hi, _⟩ := List.findIdx?_eq_some_iff_getElem.mp hbuscar
      have hm := List.getElem?_eq_getElem hi
      generalize k.listaMutexes[i] = m at hm
      simp only
      rw [Blocking.bind_ok (x := get) rfl]
      by_cases hpid : m.asignadoAPid = some pid
      · cases hcola : m.colaBloqueados with
        | nil =>
          simp only [hm, if_pos hpid, hcola]
          refine ⟨_, ?_, .soltar hm hpid hcola rfl rfl⟩
          rw [Blocking.bind_ok (x := modify _) rfl]
          apply recalcularPrioridadDinamica_libre
          exact h
        | cons siguiente resto =>
          simp only [hm, if_pos hpid, hcola]
          have h₁ : (k.asignarASiguiente i siguiente).mutexListaMutexes = false := by
            rw [mutexListaMutexes_asignarASiguiente, h]
          refine ⟨_, ?_, .pasar hm hpid hcola rfl rfl rfl⟩
          rw [Blocking.bind_ok (x := modify _) rfl,
            Blocking.bind_ok (recalcularPrioridadDinamica_libre h₁ siguiente)]
          apply recalcularPrioridadDinamica_libre
          rw [mutexListaMutexes_asignarPrioridadDinamica, h₁]
      · simp only [hm, if_neg hpid]
        exact ⟨k, rfl, .nada⟩

/-- With the list of mutexes free, a mutex syscall goes through in one of these ways. -/
theorem manejarSyscallMutex_libre (h : k.mutexListaMutexes = false) (pid : Pid) (s : SyscallMutex) :
    ∃ k', manejarSyscallMutex pid s k = .ok () k' ∧ PasoMutex k pid k' := by
  cases s with
  | create nombre =>
    rcases manejarSyscallMutexCreate_libre h nombre with hcreate | ⟨nuevo, hcreate⟩
    · exact ⟨_, Blocking.bind_ok hcreate _, .nada⟩
    · exact ⟨_, Blocking.bind_ok hcreate _, .crear nuevo⟩
  | lock nombre =>
    rcases manejarSyscallMutexLock_libre h pid nombre with ⟨k₁, hlock, hpaso⟩ | ⟨k₁, hlock, hpaso⟩
    · exact ⟨_, Blocking.bind_ok hlock _, hpaso⟩
    · exact ⟨_, Blocking.bind_ok hlock _, hpaso⟩
  | unlock nombre =>
    obtain ⟨k₁, hunlock, hpaso⟩ := manejarSyscallMutexUnlock_libre h pid nombre
    exact ⟨_, Blocking.bind_ok hunlock _, hpaso⟩

end

end PlugAndPlay.Planificador
