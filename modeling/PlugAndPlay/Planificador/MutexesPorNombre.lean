import Mathlib.Data.List.Nodup
import PlugAndPlay.Library.LockLog
import PlugAndPlay.Planificador.Marcos

/-!
# Mutexes by name

The mutex syscalls of processes on different CPUs. Each handler runs in sections, and others run between
them: the lookup of the name, the registration of a new mutex, and the rest. `MUTEX_CREATE` and
`MUTEX_LOCK` register a mutex when the lookup found none, so the name can be registered in between.
-/

open PlugAndPlay.Library

namespace PlugAndPlay.Planificador

open KernelScheduler

/-! ## Sections of the handlers -/

/-- `MUTEX_LOCK` from where it has its mutex. -/
def seguirLock (pid : Pid) (i : ℕ) : Hilo Bool := do
  let k ← get
  if (k.listaMutexes[i]?.bind MutexSistema.asignadoAPid).isNone then
    modify fun k ↦ k.modificarMutex i fun m ↦ { m with asignadoAPid := some pid }
    return false
  else
    modify fun k ↦ k.esperarMutex pid i
    modify fun k ↦ k.propagarHerenciaPrioridad pid (k.pcbs pid).prioridadDinamica
    modify fun k ↦ k.notificarEspera pid
    return true

/-- `MUTEX_UNLOCK` from where it has its mutex. -/
def seguirUnlock (pid : Pid) (i : ℕ) : Hilo Unit := do
  let k ← get
  match k.listaMutexes[i]? with
  | none => return
  | some m =>
    if m.asignadoAPid = some pid then
      match m.colaBloqueados with
      | [] => modify fun k ↦ k.modificarMutex i fun m ↦ { m with asignadoAPid := none }
      | siguiente :: _ =>
        modify fun k ↦ k.asignarASiguiente i siguiente
        recalcularPrioridadDinamica siguiente
      recalcularPrioridadDinamica pid

theorem manejarSyscallMutexLock_secciones (pid : Pid) (nombre : String) :
    manejarSyscallMutexLock pid (some nombre) = buscarOCrearMutex nombre >>= seguirLock pid :=
  rfl

theorem manejarSyscallMutexUnlock_secciones (pid : Pid) (nombre : String) :
    manejarSyscallMutexUnlock pid (some nombre) =
      buscarMutexPorNombre nombre >>= fun encontrado ↦
        match encontrado with
        | none => pure ()
        | some i => seguirUnlock pid i :=
  rfl

/-- What `MUTEX_LOCK` logs: the mutex is taken when it was free. -/
def KernelScheduler.logLock (k : KernelScheduler) (pid : Pid) (nombre : String) (i : ℕ) :
    List (LockEvent Pid String) :=
  if (k.listaMutexes[i]?.bind MutexSistema.asignadoAPid).isNone then [.acquire pid nombre] else []

/-- What `MUTEX_UNLOCK` logs: the holder releases the mutex, and the first process of the queue takes it. -/
def KernelScheduler.logUnlock (k : KernelScheduler) (pid : Pid) (nombre : String) (i : ℕ) :
    List (LockEvent Pid String) :=
  match k.listaMutexes[i]? with
  | none => []
  | some m =>
    if m.asignadoAPid = some pid then
      match m.colaBloqueados with
      | [] => [.release pid nombre]
      | siguiente :: _ => [.release pid nombre, .acquire siguiente nombre]
    else []

/-! ## Processes that take turns -/

/-- Where the handler of a process is: outside, about to register the mutex that it did not find, or about
to go on with the mutex at a position of the list. -/
inductive FaseMutex
  | fuera
  | porCrear (nombre : String)
  | porCrearYTomar (nombre : String)
  | enLock (nombre : String) (i : ℕ)
  | enUnlock (nombre : String) (i : ℕ)
deriving Repr, DecidableEq

/-- The name that the handler is about to register. -/
def FaseMutex.aRegistrar : FaseMutex → Option String
  | .porCrear nombre | .porCrearYTomar nombre => some nombre
  | _ => none

def FaseMutex.encontrado : FaseMutex → Option (String × ℕ)
  | .enLock nombre i | .enUnlock nombre i => some (nombre, i)
  | _ => none

def SyscallMutex.nombre : SyscallMutex → Option String
  | .create nombre | .lock nombre | .unlock nombre => nombre

/-- The name of a syscall that registers a missing mutex. -/
def SyscallMutex.nombreACrear : SyscallMutex → Option String
  | .create nombre | .lock nombre => nombre
  | .unlock _ => none

/-- Where the lookup leaves the handler. -/
def SyscallMutex.trasBuscar (nombre : String) (encontrado : Option ℕ) : SyscallMutex → FaseMutex
  | .create _ =>
    match encontrado with
    | none => .porCrear nombre
    | some _ => .fuera
  | .lock _ =>
    match encontrado with
    | none => .porCrearYTomar nombre
    | some i => .enLock nombre i
  | .unlock _ =>
    match encontrado with
    | none => .fuera
    | some i => .enUnlock nombre i

/-- The scheduler, the handlers, and the log of who took and who released a mutex. -/
structure TurnosMutex where
  kernel : KernelScheduler
  fases : Pid → FaseMutex
  registro : List (LockEvent Pid String)

inductive TurnoMutex
  | empezar (pid : Pid) (syscall : SyscallMutex)
  | seguir (pid : Pid)
deriving Repr, DecidableEq

/-- What comes after a section that did not block. -/
def trasSeccion {α β : Type} (seccion : Hilo α) (k : KernelScheduler) (f : α → KernelScheduler → β) : Option β :=
  match seccion k with
  | .ok a k' => some (f a k')
  | .error _ _ => none

namespace TurnosMutex

/-- A registered process that runs makes a syscall: its name is looked up. Without a name nothing happens. -/
def empezar (s : TurnosMutex) (pid : Pid) (syscall : SyscallMutex) : Option TurnosMutex :=
  if s.fases pid = .fuera ∧ pid ∈ s.kernel.todosLosProcesos ∧ (s.kernel.pcbs pid).estado ≠ .block then
    match syscall.nombre with
    | none => some s
    | some nombre => trasSeccion (buscarMutexPorNombre nombre) s.kernel fun encontrado k ↦
      ⟨k, Function.update s.fases pid (syscall.trasBuscar nombre encontrado), s.registro⟩
  else none

/-- The next section of the handler of a process. -/
def seguir (s : TurnosMutex) (pid : Pid) : Option TurnosMutex :=
  match s.fases pid with
  | .fuera => none
  | .porCrear nombre => trasSeccion (registrarMutex ⟨nombre, none, []⟩) s.kernel fun _ k ↦
    ⟨k, Function.update s.fases pid .fuera, s.registro⟩
  | .porCrearYTomar nombre => trasSeccion (registrarMutex ⟨nombre, none, []⟩) s.kernel fun i k ↦
    ⟨k, Function.update s.fases pid (.enLock nombre i), s.registro⟩
  | .enLock nombre i => trasSeccion (seguirLock pid i) s.kernel fun _ k ↦
    ⟨k, Function.update s.fases pid .fuera, s.registro ++ s.kernel.logLock pid nombre i⟩
  | .enUnlock nombre i => trasSeccion (seguirUnlock pid i) s.kernel fun _ k ↦
    ⟨k, Function.update s.fases pid .fuera, s.registro ++ s.kernel.logUnlock pid nombre i⟩

def paso (s : TurnosMutex) : TurnoMutex → Option TurnosMutex
  | .empezar pid syscall => s.empezar pid syscall
  | .seguir pid => s.seguir pid

/-- Any processes, before the first mutex. -/
def Inicial (s : TurnosMutex) : Prop :=
  s.kernel.listaMutexes = [] ∧ s.kernel.mutexListaMutexes = false ∧ s.fases = (fun _ ↦ .fuera) ∧
    s.registro = []

def nombres (s : TurnosMutex) : List String :=
  s.kernel.listaMutexes.map MutexSistema.nombre

/-- No syscall that would register a name looks it up while another handler is about to register it. -/
def SinCarrera (s : TurnosMutex) : TurnoMutex → Prop
  | .empezar _ syscall => ∀ nombre otro, syscall.nombreACrear = some nombre →
      (s.fases otro).aRegistrar ≠ some nombre
  | .seguir _ => True

/-- One mutex for a name, and no second owner before the first releases it. -/
def Excluyen (s : TurnosMutex) : Prop :=
  s.nombres.Nodup ∧ LockLog.Exclusive s.registro

end TurnosMutex

/-! ## What the sections do -/

section

variable {k : KernelScheduler} {pid : Pid} {i : ℕ} {m : MutexSistema}

theorem trasSeccion_ok {α β : Type} {seccion : Hilo α} {a : α} {k' : KernelScheduler}
    (h : seccion k = .ok a k') (f : α → KernelScheduler → β) :
    trasSeccion seccion k f = some (f a k') := by
  unfold trasSeccion
  rw [h]

theorem KernelScheduler.SalvoDinamicas.mutexListaMutexes {k' : KernelScheduler} (h : SalvoDinamicas k k') :
    k'.mutexListaMutexes = k.mutexListaMutexes :=
  (congrArg KernelScheduler.mutexListaMutexes h.resto :)

theorem mutexListaMutexes_notificarEspera (k : KernelScheduler) (pid : Pid) :
    (k.notificarEspera pid).mutexListaMutexes = k.mutexListaMutexes := by
  unfold KernelScheduler.notificarEspera notificarProcesoEnBlock
  simp only
  split <;> rfl

theorem listaMutexes_asignarASiguiente (k : KernelScheduler) (i : ℕ) (siguiente : Pid) :
    (k.asignarASiguiente i siguiente).listaMutexes = k.listaMutexes.modify i fun m ↦
      { m with asignadoAPid := some siguiente, colaBloqueados := m.colaBloqueados.tail } :=
  (salvoReady_encolar _ siguiente).listaMutexes

/-- Only one mutex differs, by the change `f`. -/
structure CambiaMutex (k k' : KernelScheduler) (i : ℕ) (f : MutexSistema → MutexSistema) : Prop where
  lista : k'.listaMutexes = k.listaMutexes.modify i f
  lock : k'.mutexListaMutexes = k.mutexListaMutexes

theorem CambiaMutex.salvoDinamicas {f : MutexSistema → MutexSistema} {k₁ k₂ : KernelScheduler}
    (h : CambiaMutex k k₁ i f) (h' : SalvoDinamicas k₁ k₂) : CambiaMutex k k₂ i f :=
  ⟨h'.listaMutexes.trans h.lista, h'.mutexListaMutexes.trans h.lock⟩

theorem cambiaMutex_modificar (k : KernelScheduler) (i : ℕ) (f : MutexSistema → MutexSistema) :
    CambiaMutex k (k.modificarMutex i f) i f :=
  ⟨rfl, rfl⟩

theorem cambiaMutex_asignarASiguiente (k : KernelScheduler) (i : ℕ) (siguiente : Pid) :
    CambiaMutex k (k.asignarASiguiente i siguiente) i fun m ↦
      { m with asignadoAPid := some siguiente, colaBloqueados := m.colaBloqueados.tail } :=
  ⟨listaMutexes_asignarASiguiente k i siguiente, mutexListaMutexes_asignarASiguiente k i siguiente⟩

theorem seguirLock_libre (pid : Pid) (hm : k.listaMutexes[i]? = some m) (hlibre : m.asignadoAPid = none) :
    ∃ k', seguirLock pid i k = .ok false k' ∧
      CambiaMutex k k' i fun m ↦ { m with asignadoAPid := some pid } := by
  unfold seguirLock
  rw [Blocking.bind_ok (x := get) rfl]
  simp only [hm, Option.bind_some, hlibre, Option.isNone_none, if_true]
  exact ⟨_, rfl, cambiaMutex_modificar k i _⟩

theorem seguirLock_tomado (pid : Pid) {poseedor : Pid} (hm : k.listaMutexes[i]? = some m)
    (hposee : m.asignadoAPid = some poseedor) :
    ∃ k', seguirLock pid i k = .ok true k' ∧
      CambiaMutex k k' i fun m ↦ { m with colaBloqueados := m.colaBloqueados ++ [pid] } := by
  unfold seguirLock
  rw [Blocking.bind_ok (x := get) rfl]
  simp only [hm, Option.bind_some, hposee, Option.isNone_some, Bool.false_eq_true, if_false]
  have hespera : CambiaMutex k (k.esperarMutex pid i) i fun m ↦
      { m with colaBloqueados := m.colaBloqueados ++ [pid] } := ⟨rfl, rfl⟩
  have hpropaga : SalvoDinamicas (k.esperarMutex pid i) ((k.esperarMutex pid i).propagarHerenciaPrioridad pid
      ((k.esperarMutex pid i).pcbs pid).prioridadDinamica) := salvoDinamicas_propagar _ _ _ _
  have hhereda := hespera.salvoDinamicas hpropaga
  exact ⟨_, rfl, (listaMutexes_notificarEspera _ pid).trans hhereda.lista,
    (mutexListaMutexes_notificarEspera _ pid).trans hhereda.lock⟩

theorem seguirUnlock_ajeno (hm : k.listaMutexes[i]? = some m) (hposee : m.asignadoAPid ≠ some pid) :
    seguirUnlock pid i k = .ok () k := by
  unfold seguirUnlock
  rw [Blocking.bind_ok (x := get) rfl]
  simp only [hm, if_neg hposee]
  rfl

theorem seguirUnlock_libera (hk : k.mutexListaMutexes = false) (hm : k.listaMutexes[i]? = some m)
    (hposee : m.asignadoAPid = some pid) (hcola : m.colaBloqueados = []) :
    ∃ k', seguirUnlock pid i k = .ok () k' ∧
      CambiaMutex k k' i fun m ↦ { m with asignadoAPid := none } := by
  unfold seguirUnlock
  rw [Blocking.bind_ok (x := get) rfl]
  simp only [hm, if_pos hposee, hcola]
  rw [Blocking.bind_ok (x := modify _) rfl]
  have hcambia := cambiaMutex_modificar k i fun m ↦ { m with asignadoAPid := none }
  exact ⟨_, recalcularPrioridadDinamica_libre (hcambia.lock.trans hk) pid,
    hcambia.salvoDinamicas (salvoDinamicas_asignar _ _ _)⟩

theorem seguirUnlock_pasa (hk : k.mutexListaMutexes = false) (hm : k.listaMutexes[i]? = some m)
    (hposee : m.asignadoAPid = some pid) {siguiente : Pid} {resto : List Pid}
    (hcola : m.colaBloqueados = siguiente :: resto) :
    ∃ k', seguirUnlock pid i k = .ok () k' ∧ CambiaMutex k k' i fun m ↦
      { m with asignadoAPid := some siguiente, colaBloqueados := m.colaBloqueados.tail } := by
  unfold seguirUnlock
  rw [Blocking.bind_ok (x := get) rfl]
  simp only [hm, if_pos hposee, hcola]
  have hcambia := cambiaMutex_asignarASiguiente k i siguiente
  have hrecalcula := hcambia.salvoDinamicas (salvoDinamicas_asignar _ siguiente
    ((k.asignarASiguiente i siguiente).maxPrioridad siguiente))
  rw [Blocking.bind_ok (x := modify _) rfl,
    Blocking.bind_ok (recalcularPrioridadDinamica_libre (hcambia.lock.trans hk) siguiente)]
  exact ⟨_, recalcularPrioridadDinamica_libre (hrecalcula.lock.trans hk) pid,
    hrecalcula.salvoDinamicas (salvoDinamicas_asignar _ _ _)⟩

end

/-! ## The invariant -/

namespace TurnosMutex

/-- Names are registered once, at most one handler is about to register a name, and the log agrees with the
mutexes about their holders. -/
structure Coherente (s : TurnosMutex) : Prop where
  lock : s.kernel.mutexListaMutexes = false
  nombres_nodup : s.nombres.Nodup
  ausente : ∀ pid nombre, (s.fases pid).aRegistrar = some nombre → nombre ∉ s.nombres
  unico : ∀ p q nombre, (s.fases p).aRegistrar = some nombre → (s.fases q).aRegistrar = some nombre → p = q
  encontrado : ∀ pid nombre i, (s.fases pid).encontrado = some (nombre, i) → s.nombres[i]? = some nombre
  alterna : LockLog.Alternates s.registro
  poseedor : ∀ (i : ℕ) (m : MutexSistema), s.kernel.listaMutexes[i]? = some m →
    LockLog.holder s.registro m.nombre = m.asignadoAPid
  sinRegistrar : ∀ nombre, nombre ∉ s.nombres → LockLog.holder s.registro nombre = none

variable {s : TurnosMutex} {pid : Pid} {nombre : String} {i : ℕ} {m : MutexSistema}

theorem Coherente.excluyen (h : s.Coherente) : s.Excluyen :=
  ⟨h.nombres_nodup, h.alterna.exclusive⟩

theorem coherente_inicial (h : s.Inicial) : s.Coherente := by
  obtain ⟨hlista, hlock, hfases, hregistro⟩ := h
  have hnombres : s.nombres = [] := by rw [nombres, hlista, List.map_nil]
  exact
    { lock := hlock
      nombres_nodup := by
        rw [hnombres]
        exact List.nodup_nil
      ausente := fun pid nombre _ ↦ by
        rw [hnombres]
        exact List.not_mem_nil
      unico := fun p q nombre hp ↦ by
        rw [hfases] at hp
        cases hp
      encontrado := fun pid nombre i hpid ↦ by
        rw [hfases] at hpid
        cases hpid
      alterna := by
        rw [hregistro]
        exact .nil
      poseedor := fun i m hm ↦ by
        rw [hlista] at hm
        cases hm
      sinRegistrar := fun nombre _ ↦ by
        rw [hregistro]
        rfl }

theorem Coherente.cambiarFase (h : s.Coherente) (fase : FaseMutex)
    (hregistrar : ∀ nombre, fase.aRegistrar = some nombre → nombre ∉ s.nombres ∧
      ∀ otro, (s.fases otro).aRegistrar ≠ some nombre)
    (hencontrado : ∀ nombre i, fase.encontrado = some (nombre, i) → s.nombres[i]? = some nombre) :
    Coherente ⟨s.kernel, Function.update s.fases pid fase, s.registro⟩ where
  lock := h.lock
  nombres_nodup := h.nombres_nodup
  ausente otro nombre hotro := by
    dsimp only at hotro
    rw [Function.update_apply] at hotro
    split at hotro
    · exact (hregistrar nombre hotro).1
    · exact h.ausente otro nombre hotro
  unico p q nombre hp hq := by
    dsimp only at hp hq
    rw [Function.update_apply] at hp hq
    split at hp
    · split at hq
      · rename_i hp' hq'
        exact hp'.trans hq'.symm
      · exact absurd hq ((hregistrar nombre hp).2 q)
    · split at hq
      · exact absurd hp ((hregistrar nombre hq).2 p)
      · exact h.unico p q nombre hp hq
  encontrado otro nombre i hotro := by
    dsimp only at hotro
    rw [Function.update_apply] at hotro
    split at hotro
    · exact hencontrado nombre i hotro
    · exact h.encontrado otro nombre i hotro
  alterna := h.alterna
  poseedor := h.poseedor
  sinRegistrar := h.sinRegistrar

theorem Coherente.terminar (h : s.Coherente) (pid : Pid) :
    Coherente ⟨s.kernel, Function.update s.fases pid .fuera, s.registro⟩ :=
  h.cambiarFase .fuera nofun nofun

/-! ### Lookups -/

theorem Coherente.buscar (h : s.Coherente) {syscall : SyscallMutex} (hnombre : syscall.nombre = some nombre)
    (hsin : ∀ otro, syscall.nombreACrear = some nombre → (s.fases otro).aRegistrar ≠ some nombre) :
    Coherente ⟨s.kernel, Function.update s.fases pid (syscall.trasBuscar nombre
      (s.kernel.listaMutexes.findIdx? fun m ↦ m.nombre = nombre)), s.registro⟩ := by
  have hausente : (s.kernel.listaMutexes.findIdx? fun m ↦ m.nombre = nombre) = none → nombre ∉ s.nombres := by
    intro hnone hmem
    obtain ⟨m, hm, rfl⟩ := List.mem_map.mp hmem
    simpa using List.findIdx?_eq_none_iff.mp hnone m hm
  have hesta : ∀ i, (s.kernel.listaMutexes.findIdx? fun m ↦ m.nombre = nombre) = some i →
      s.nombres[i]? = some nombre := by
    intro i hi
    obtain ⟨hlt, hget, _⟩ := List.findIdx?_eq_some_iff_getElem.mp hi
    rw [nombres, List.getElem?_map, List.getElem?_eq_getElem hlt, Option.map_some]
    exact congrArg some (of_decide_eq_true hget)
  cases hbusca : s.kernel.listaMutexes.findIdx? fun m ↦ m.nombre = nombre with
  | none =>
    have hregistrar : ∀ otro, some nombre = some otro → syscall.nombreACrear = some nombre →
        otro ∉ s.nombres ∧ ∀ pid, (s.fases pid).aRegistrar ≠ some otro := by
      intro otro hotro hcrea
      obtain rfl := Option.some.inj hotro
      exact ⟨hausente hbusca, fun pid ↦ hsin pid hcrea⟩
    cases syscall with
    | create _ => exact h.cambiarFase _ (fun otro hotro ↦ hregistrar otro hotro hnombre) nofun
    | lock _ => exact h.cambiarFase _ (fun otro hotro ↦ hregistrar otro hotro hnombre) nofun
    | unlock _ => exact h.terminar pid
  | some i =>
    have hencontrado : ∀ otro j, some (nombre, i) = some (otro, j) → s.nombres[j]? = some otro := by
      intro otro j hotro
      cases hotro
      exact hesta i hbusca
    cases syscall with
    | create _ => exact h.terminar pid
    | lock _ => exact h.cambiarFase _ nofun hencontrado
    | unlock _ => exact h.cambiarFase _ nofun hencontrado

theorem Coherente.empezar (h : s.Coherente) {syscall : SyscallMutex} {s' : TurnosMutex}
    (hsin : s.SinCarrera (.empezar pid syscall)) (hpaso : s.empezar pid syscall = some s') : s'.Coherente := by
  unfold TurnosMutex.empezar at hpaso
  split at hpaso
  · cases hnombre : syscall.nombre with
    | none =>
      rw [hnombre] at hpaso
      obtain rfl := Option.some.inj hpaso
      exact h
    | some nombre =>
      simp only [hnombre, trasSeccion_ok (buscarMutexPorNombre_libre h.lock nombre)] at hpaso
      obtain rfl := Option.some.inj hpaso
      exact h.buscar hnombre fun otro ↦ hsin nombre otro
  · cases hpaso

/-! ### Registrations -/

theorem nombres_conMutexNuevo (s : TurnosMutex) (nombre : String) (fases : Pid → FaseMutex) :
    nombres ⟨s.kernel.conMutexNuevo nombre, fases, s.registro⟩ = s.nombres ++ [nombre] :=
  List.map_append

theorem Coherente.registrar (h : s.Coherente) (hfase : (s.fases pid).aRegistrar = some nombre) :
    Coherente ⟨s.kernel.conMutexNuevo nombre, Function.update s.fases pid .fuera, s.registro⟩ := by
  have hausente := h.ausente pid nombre hfase
  have hnombres := nombres_conMutexNuevo s nombre (Function.update s.fases pid .fuera)
  have hotros : ∀ otro otroNombre, (Function.update s.fases pid .fuera otro).aRegistrar = some otroNombre →
      (s.fases otro).aRegistrar = some otroNombre ∧ otro ≠ pid := by
    intro otro otroNombre hotro
    rw [Function.update_apply] at hotro
    split at hotro
    · cases hotro
    · exact ⟨hotro, ‹_›⟩
  exact
    { lock := h.lock
      nombres_nodup := by
        rw [hnombres, ← List.concat_eq_append]
        exact (List.nodup_concat _ _).mpr ⟨hausente, h.nombres_nodup⟩
      ausente := fun otro otroNombre hotro ↦ by
        obtain ⟨hotro, hdistinto⟩ := hotros otro otroNombre hotro
        rw [hnombres, List.mem_append, List.mem_singleton]
        rintro (hmem | hnombre)
        · exact h.ausente otro otroNombre hotro hmem
        · rw [hnombre] at hotro
          exact hdistinto (h.unico otro pid nombre hotro hfase)
      unico := fun p q otroNombre hp hq ↦
        h.unico p q otroNombre (hotros p otroNombre hp).1 (hotros q otroNombre hq).1
      encontrado := fun otro otroNombre i hotro ↦ by
        dsimp only at hotro
        rw [Function.update_apply] at hotro
        split at hotro
        · cases hotro
        · have hantes := h.encontrado otro otroNombre i hotro
          rw [hnombres, List.getElem?_append_left (List.getElem?_eq_some_iff.mp hantes).1]
          exact hantes
      alterna := h.alterna
      poseedor := fun i m hm ↦ by
        rcases ListModify.getElem?_concat_cases hm with hm | ⟨_, rfl⟩
        · exact h.poseedor i m hm
        · exact h.sinRegistrar nombre hausente
      sinRegistrar := fun otro hotro ↦ by
        rw [hnombres, List.mem_append, not_or] at hotro
        exact h.sinRegistrar otro hotro.1 }

theorem Coherente.registrarYTomar (h : s.Coherente) (hfase : (s.fases pid).aRegistrar = some nombre) :
    Coherente ⟨s.kernel.conMutexNuevo nombre, Function.update s.fases pid
      (.enLock nombre s.kernel.listaMutexes.length), s.registro⟩ := by
  have hregistra := h.registrar hfase
  rw [← Function.update_idem .fuera (.enLock nombre s.kernel.listaMutexes.length) s.fases]
  apply hregistra.cambiarFase
  · nofun
  · intro otro i hotro
    cases hotro
    rw [nombres_conMutexNuevo, ← List.length_map MutexSistema.nombre]
    exact List.getElem?_concat_length

/-! ### Takes and releases -/

/-- One mutex changes, and the log says who holds it afterwards. -/
theorem Coherente.cambiarMutex (h : s.Coherente) (hm : s.kernel.listaMutexes[i]? = some m) {k' : KernelScheduler}
    {f : MutexSistema → MutexSistema} (hcambia : CambiaMutex s.kernel k' i f)
    (hnombre : ∀ m, (f m).nombre = m.nombre) {registro : List (LockEvent Pid String)}
    (halterna : LockLog.Alternates registro)
    (hposee : ∀ otro, LockLog.holder registro otro =
      if otro = m.nombre then (f m).asignadoAPid else LockLog.holder s.registro otro) :
    Coherente ⟨k', s.fases, registro⟩ := by
  have hnombres : nombres ⟨k', s.fases, registro⟩ = s.nombres := by
    unfold nombres
    rw [hcambia.lista]
    exact ListModify.map_modify_of_forall _ _ _ _ hnombre
  have hesta : s.nombres[i]? = some m.nombre := by
    rw [nombres, List.getElem?_map, hm]
    rfl
  exact
    { lock := hcambia.lock.trans h.lock
      nombres_nodup := by
        rw [hnombres]
        exact h.nombres_nodup
      ausente := by
        rw [hnombres]
        exact h.ausente
      unico := h.unico
      encontrado := by
        rw [hnombres]
        exact h.encontrado
      alterna := halterna
      poseedor := fun j m' hm' ↦ by
        rw [hcambia.lista] at hm'
        obtain ⟨antes, hantes, rfl⟩ := ListModify.exists_of_getElem?_modify hm'
        rw [hposee]
        by_cases hj : i = j
        · subst hj
          obtain rfl := Option.some.inj (hm.symm.trans hantes)
          rw [if_pos rfl, if_pos (hnombre m)]
        · have hotro : antes.nombre ≠ m.nombre := by
            intro hmismo
            have hesta' : s.nombres[j]? = some antes.nombre := by
              rw [nombres, List.getElem?_map, hantes]
              rfl
            rw [hmismo, ← hesta] at hesta'
            exact hj ((List.getElem?_inj (List.getElem?_eq_some_iff.mp hesta).1 h.nombres_nodup).mp hesta'.symm)
          rw [if_neg hj, if_neg hotro]
          exact h.poseedor j antes hantes
      sinRegistrar := fun otro hotro ↦ by
        rw [hnombres] at hotro
        rw [hposee, if_neg]
        · exact h.sinRegistrar otro hotro
        · rintro rfl
          exact hotro (List.mem_of_getElem? hesta) }

/-- The mutex that the lookup of a handler found is still there. -/
theorem Coherente.exists_encontrado (h : s.Coherente) (hfase : (s.fases pid).encontrado = some (nombre, i)) :
    ∃ m, s.kernel.listaMutexes[i]? = some m ∧ m.nombre = nombre := by
  have hesta := h.encontrado pid nombre i hfase
  rw [nombres, List.getElem?_map] at hesta
  exact Option.map_eq_some_iff.mp hesta

theorem Coherente.seguirLock (h : s.Coherente) (hfase : s.fases pid = .enLock nombre i) :
    ∃ tomo k', seguirLock pid i s.kernel = .ok tomo k' ∧
      Coherente ⟨k', s.fases, s.registro ++ s.kernel.logLock pid nombre i⟩ := by
  obtain ⟨m, hm, rfl⟩ := h.exists_encontrado (i := i) (by rw [hfase]; rfl)
  have hholder := h.poseedor i m hm
  cases hposee : m.asignadoAPid with
  | none =>
    obtain ⟨k', hseguir, hcambia⟩ := seguirLock_libre pid hm hposee
    have hlog : s.kernel.logLock pid m.nombre i = [.acquire pid m.nombre] := by
      unfold KernelScheduler.logLock
      rw [hm, Option.bind_some, hposee]
      rfl
    rw [hposee] at hholder
    refine ⟨_, k', hseguir, ?_⟩
    rw [hlog]
    apply h.cambiarMutex hm hcambia (fun _ ↦ rfl) (h.alterna.acquire hholder)
    exact LockLog.holder_acquire s.registro pid m.nombre
  | some poseedor =>
    obtain ⟨k', hseguir, hcambia⟩ := seguirLock_tomado pid hm hposee
    have hlog : s.kernel.logLock pid m.nombre i = [] := by
      unfold KernelScheduler.logLock
      rw [hm, Option.bind_some, hposee]
      rfl
    refine ⟨_, k', hseguir, ?_⟩
    rw [hlog, List.append_nil]
    apply h.cambiarMutex hm hcambia (fun _ ↦ rfl) h.alterna
    intro otro
    split
    · rename_i hotro
      rw [hotro, hholder]
    · rfl

theorem Coherente.seguirUnlock (h : s.Coherente) (hfase : s.fases pid = .enUnlock nombre i) :
    ∃ k', seguirUnlock pid i s.kernel = .ok () k' ∧
      Coherente ⟨k', s.fases, s.registro ++ s.kernel.logUnlock pid nombre i⟩ := by
  obtain ⟨m, hm, rfl⟩ := h.exists_encontrado (i := i) (by rw [hfase]; rfl)
  have hholder := h.poseedor i m hm
  by_cases hposee : m.asignadoAPid = some pid
  · rw [hposee] at hholder
    cases hcola : m.colaBloqueados with
    | nil =>
      obtain ⟨k', hseguir, hcambia⟩ := seguirUnlock_libera h.lock hm hposee hcola
      have hlog : s.kernel.logUnlock pid m.nombre i = [.release pid m.nombre] := by
        unfold KernelScheduler.logUnlock
        simp only [hm, if_pos hposee, hcola]
      refine ⟨k', hseguir, ?_⟩
      rw [hlog]
      apply h.cambiarMutex hm hcambia (fun _ ↦ rfl) (h.alterna.release hholder)
      exact LockLog.holder_release s.registro pid m.nombre
    | cons siguiente resto =>
      obtain ⟨k', hseguir, hcambia⟩ := seguirUnlock_pasa h.lock hm hposee hcola
      have hlog : s.registro ++ s.kernel.logUnlock pid m.nombre i =
          (s.registro ++ [.release pid m.nombre]) ++ [.acquire siguiente m.nombre] := by
        unfold KernelScheduler.logUnlock
        simp only [hm, if_pos hposee, hcola, List.append_assoc, List.cons_append, List.nil_append]
      have hlibre : LockLog.holder (s.registro ++ [.release pid m.nombre]) m.nombre = none := by
        rw [LockLog.holder_release, if_pos rfl]
      refine ⟨k', hseguir, ?_⟩
      rw [hlog]
      apply h.cambiarMutex hm hcambia (fun _ ↦ rfl) ((h.alterna.release hholder).acquire hlibre)
      intro otro
      rw [LockLog.holder_acquire, LockLog.holder_release]
      split
      · rfl
      · rfl
  · have hlog : s.kernel.logUnlock pid m.nombre i = [] := by
      unfold KernelScheduler.logUnlock
      simp only [hm, if_neg hposee]
    refine ⟨_, seguirUnlock_ajeno hm hposee, ?_⟩
    rw [hlog, List.append_nil]
    exact h

theorem Coherente.seguir (h : s.Coherente) {s' : TurnosMutex} (hpaso : s.seguir pid = some s') :
    s'.Coherente := by
  unfold TurnosMutex.seguir at hpaso
  split at hpaso
  · cases hpaso
  · rename_i nombre hfase
    rw [trasSeccion_ok (registrarMutex_libre h.lock _)] at hpaso
    obtain rfl := Option.some.inj hpaso
    apply h.registrar
    rw [hfase]
    rfl
  · rename_i nombre hfase
    rw [trasSeccion_ok (registrarMutex_libre h.lock _)] at hpaso
    obtain rfl := Option.some.inj hpaso
    apply h.registrarYTomar
    rw [hfase]
    rfl
  · rename_i nombre i hfase
    obtain ⟨tomo, k', hseguir, hcoherente⟩ := h.seguirLock hfase
    rw [trasSeccion_ok hseguir] at hpaso
    obtain rfl := Option.some.inj hpaso
    exact hcoherente.terminar pid
  · rename_i nombre i hfase
    obtain ⟨k', hseguir, hcoherente⟩ := h.seguirUnlock hfase
    rw [trasSeccion_ok hseguir] at hpaso
    obtain rfl := Option.some.inj hpaso
    exact hcoherente.terminar pid

theorem Coherente.paso (h : s.Coherente) {turno : TurnoMutex} {s' : TurnosMutex} (hsin : s.SinCarrera turno)
    (hpaso : s.paso turno = some s') : s'.Coherente := by
  cases turno with
  | empezar pid syscall => exact h.empezar hsin hpaso
  | seguir pid => exact h.seguir hpaso

/-! ## Runs -/

/-- As long as no syscall looks up a name that another handler is about to register, a name has one mutex
and the mutex one owner at a time. -/
theorem mutexes_excluyen {s : TurnosMutex} (h : Reachable paso Inicial SinCarrera s) : s.Excluyen := by
  have hcoherente : s.Coherente := by
    apply h.invariant
    · exact fun _ ↦ coherente_inicial
    · exact fun _ _ _ hs hsin hpaso ↦ hs.paso hsin hpaso
  exact hcoherente.excluyen

/-- Two processes on their CPUs. -/
def dosProcesos : TurnosMutex where
  kernel :=
    { KernelScheduler.inicial ⟨.fifo, 1, [], false, 0, 0⟩ with
      pcbs := fun _ ↦ ⟨0, .exec, 0, 0, 0, none, false, 0, none⟩
      contadorPids := 2
      todosLosProcesos := [0, 1] }
  fases _ := .fuera
  registro := []

theorem dosProcesos_inicial : dosProcesos.Inicial :=
  ⟨rfl, rfl, rfl, rfl⟩

/-- Process 1 looks up the mutex that process 0 has just registered. -/
theorem mutexes_excluyen_dosProcesos : ∃ s : TurnosMutex, s.nombres = ["A"] ∧
    s.registro = [.acquire 0 "A", .release 0 "A", .acquire 1 "A"] ∧ s.Excluyen := by
  have h₀ : Reachable paso Inicial SinCarrera dosProcesos := .start dosProcesos_inicial
  have h₁ := h₀.next (e := TurnoMutex.empezar 0 (.lock (some "A"))) (fun _ _ _ ↦ nofun) rfl
  have h₂ := h₁.next (e := TurnoMutex.seguir 0) trivial rfl
  have h₃ := h₂.next (e := TurnoMutex.empezar 1 (.lock (some "A"))) (fun _ otro _ ↦ by
    rcases otro with _ | _ <;> nofun) rfl
  have h₄ := h₃.next (e := TurnoMutex.seguir 0) trivial rfl
  have h₅ := h₄.next (e := TurnoMutex.seguir 1) trivial rfl
  have h₆ := h₅.next (e := TurnoMutex.empezar 0 (.unlock (some "A"))) (fun _ _ ↦ nofun) rfl
  have h₇ := h₆.next (e := TurnoMutex.seguir 0) trivial rfl
  exact ⟨_, by decide, by decide, mutexes_excluyen h₇⟩

/-! ## The race -/

/-- A handler that is about to register a name adds it to the names, whatever was registered since. -/
theorem registra (hlock : s.kernel.mutexListaMutexes = false) (hfase : (s.fases pid).aRegistrar = some nombre) :
    ∃ fase, s.paso (.seguir pid) =
      some ⟨s.kernel.conMutexNuevo nombre, Function.update s.fases pid fase, s.registro⟩ := by
  cases hpid : s.fases pid with
  | porCrear otro =>
    rw [hpid] at hfase
    obtain rfl := Option.some.inj hfase
    refine ⟨.fuera, ?_⟩
    show s.seguir pid = _
    unfold TurnosMutex.seguir
    simp only [hpid]
    exact trasSeccion_ok (registrarMutex_libre hlock _) _
  | porCrearYTomar otro =>
    rw [hpid] at hfase
    obtain rfl := Option.some.inj hfase
    refine ⟨.enLock otro s.kernel.listaMutexes.length, ?_⟩
    show s.seguir pid = _
    unfold TurnosMutex.seguir
    simp only [hpid]
    exact trasSeccion_ok (registrarMutex_libre hlock _) _
  | _ =>
    rw [hpid] at hfase
    cases hfase

/-- Once two handlers are about to register the same name, they do. -/
theorem registran_dos (hlock : s.kernel.mutexListaMutexes = false) {p q : Pid} (hpq : p ≠ q)
    (hp : (s.fases p).aRegistrar = some nombre) (hq : (s.fases q).aRegistrar = some nombre) :
    ∃ s₁ s₂, s.paso (.seguir p) = some s₁ ∧ s₁.paso (.seguir q) = some s₂ ∧ ¬ s₂.Excluyen := by
  obtain ⟨fase, hprimero⟩ := registra hlock hp
  have hq' : (Function.update s.fases p fase q).aRegistrar = some nombre := by
    rw [Function.update_of_ne hpq.symm]
    exact hq
  obtain ⟨_, hsegundo⟩ := registra (s := ⟨s.kernel.conMutexNuevo nombre, Function.update s.fases p fase,
    s.registro⟩) hlock hq'
  refine ⟨_, _, hprimero, hsegundo, fun hexcluyen ↦ ?_⟩
  have hnodup := hexcluyen.1
  rw [nombres_conMutexNuevo, nombres_conMutexNuevo, ← List.concat_eq_append] at hnodup
  exact ((List.nodup_concat _ _).mp hnodup).1 (List.mem_append_right _ (List.mem_singleton_self _))

/-- Two processes lock the same name before the other registers it: both take their own mutex. -/
theorem mutexes_no_excluyen : ∃ s, Reachable paso Inicial (fun _ _ ↦ True) s ∧ s.nombres = ["A", "A"] ∧
    s.registro = [.acquire 0 "A", .acquire 1 "A"] ∧ ¬ s.Excluyen := by
  have hinicio : Reachable paso Inicial (fun _ _ ↦ True) dosProcesos := .start dosProcesos_inicial
  obtain ⟨s, hs, hnombres, hregistro⟩ := hinicio.exists_of_runAllowed
    [.empezar 0 (.lock (some "A")), .empezar 1 (.lock (some "A")), .seguir 0, .seguir 1, .seguir 0, .seguir 1]
    (fun s ↦ s.nombres = ["A", "A"] ∧ s.registro = [.acquire 0 "A", .acquire 1 "A"]) (by decide)
  refine ⟨s, hs, hnombres, hregistro, fun hexcluyen ↦ ?_⟩
  have hnodup := hexcluyen.1
  rw [hnombres] at hnodup
  exact absurd hnodup (by decide)

end TurnosMutex

end PlugAndPlay.Planificador
