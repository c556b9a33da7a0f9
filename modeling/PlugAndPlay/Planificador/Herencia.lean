import PlugAndPlay.Planificador.ColasReady

/-!
# System mutexes and priority inheritance

The functions that lock `mutex_lista_mutexes` are threads: a thread that finds the lock taken, by
another thread that stopped or by itself, does not go on.
-/

namespace PlugAndPlay.Planificador

namespace KernelScheduler

variable (k : KernelScheduler)

/-- The processes queued on mutexes that the process holds, table order. -/
def esperanA (pid : Pid) : List Pid :=
  (k.listaMutexes.filter fun m ↦ m.asignadoAPid = some pid).flatMap MutexSistema.colaBloqueados

/-- The result of the loop of `recalcular_prioridad_dinamica`. -/
def maxPrioridad (pid : Pid) : ℤ :=
  (k.esperanA pid).foldl
    (fun max bloqueado ↦
      if (k.pcbs bloqueado).prioridadDinamica < max then (k.pcbs bloqueado).prioridadDinamica else max)
    (k.pcbs pid).prioridad

def modificarMutex (i : ℕ) (f : MutexSistema → MutexSistema) : KernelScheduler :=
  { k with listaMutexes := k.listaMutexes.modify i f }

def cambiarPrioridadDinamica (pid : Pid) (prioridad : ℤ) : KernelScheduler :=
  k.modificarPcb pid fun p ↦ { p with prioridadDinamica := prioridad }

def reubicarProcesoEnReady (pid : Pid) (prioridadAnterior prioridadNueva : ℤ) : KernelScheduler :=
  if (k.pcbs pid).estado ≠ .ready ∨ k.cantidadNivelesPrioridad = 0 ∨
      prioridadAnterior = prioridadNueva then k
  else
    match k.colaDe prioridadAnterior with
    | none => k
    | some cola =>
      if pid ∈ cola then
        let k₁ := k.modificarCola prioridadAnterior (·.erase pid)
        match k₁.colaDe prioridadNueva with
        | none => k₁
        | some _ => k₁.modificarCola prioridadNueva (· ++ [pid])
      else k

/-- The recursion goes from a blocked process to the holder of the mutex it waits for, at most `fuel`
times. -/
def propagarHerencia (fuel : ℕ) (k : KernelScheduler) (bloqueado : Pid) (aHeredar : ℤ) :
    KernelScheduler :=
  match fuel with
  | 0 => k
  | fuel + 1 =>
    match (k.pcbs bloqueado).mutexEsperando.bind fun i ↦ k.listaMutexes[i]? with
    | none => k
    | some m =>
      match m.asignadoAPid with
      | none => k
      | some poseedor =>
        if poseedor ∈ k.todosLosProcesos ∧ aHeredar < (k.pcbs poseedor).prioridadDinamica then
          let k₁ := k.cambiarPrioridadDinamica poseedor aHeredar
          let k₂ := k₁.reubicarProcesoEnReady poseedor (k.pcbs poseedor).prioridadDinamica aHeredar
          if (k₂.pcbs poseedor).mutexEsperando.isSome then propagarHerencia fuel k₂ poseedor aHeredar
          else k₂
        else k

/-- Each turn lowers the priority of another registered process, so there are at most as many turns as
processes. -/
def propagarHerenciaPrioridad (bloqueado : Pid) (aHeredar : ℤ) : KernelScheduler :=
  propagarHerencia k.todosLosProcesos.length k bloqueado aHeredar

/-- What `recalcular_prioridad_dinamica` does with the priority it computed. -/
def asignarPrioridadDinamica (pid : Pid) (prioridad : ℤ) : KernelScheduler :=
  if prioridad ≠ (k.pcbs pid).prioridadDinamica then
    (k.cambiarPrioridadDinamica pid prioridad).reubicarProcesoEnReady pid
      (k.pcbs pid).prioridadDinamica prioridad
  else k

variable {k}

theorem salvoReady_reubicar (k : KernelScheduler) (pid : Pid) (anterior nueva : ℤ) :
    SalvoReady k (k.reubicarProcesoEnReady pid anterior nueva) := by
  unfold reubicarProcesoEnReady
  split
  · exact .rfl
  split
  · exact .rfl
  split
  · simp only
    split <;> exact Eq.refl _
  · exact .rfl

end KernelScheduler

open KernelScheduler PlugAndPlay.Library

def lockListaMutexes : Hilo Unit := fun k ↦
  if k.mutexListaMutexes then .error () k else .ok () { k with mutexListaMutexes := true }

def unlockListaMutexes : Hilo Unit := modify fun k ↦ { k with mutexListaMutexes := false }

def buscarMutexPorNombre (nombre : String) : Hilo (Option ℕ) := do
  lockListaMutexes
  let k ← get
  unlockListaMutexes
  return k.listaMutexes.findIdx? fun m ↦ m.nombre = nombre

/-- The position of the mutex in the list. -/
def registrarMutex (m : MutexSistema) : Hilo ℕ := do
  lockListaMutexes
  let k ← get
  modify fun k ↦ { k with listaMutexes := k.listaMutexes ++ [m] }
  unlockListaMutexes
  return k.listaMutexes.length

def recalcularPrioridadDinamica (pid : Pid) : Hilo Unit := do
  lockListaMutexes
  let k ← get
  unlockListaMutexes
  modify fun k₁ ↦ k₁.asignarPrioridadDinamica pid (k.maxPrioridad pid)

/-! ## Runs with the list of mutexes free -/

variable {k : KernelScheduler}

theorem lockListaMutexes_libre (h : k.mutexListaMutexes = false) :
    lockListaMutexes k = .ok () { k with mutexListaMutexes := true } := by
  unfold lockListaMutexes
  rw [if_neg (by rw [h]; exact Bool.false_ne_true)]

theorem lockListaMutexes_tomada (h : k.mutexListaMutexes = true) :
    lockListaMutexes k = .error () k := by
  unfold lockListaMutexes
  rw [if_pos h]

theorem conMutexListaMutexes (h : k.mutexListaMutexes = false) :
    { k with mutexListaMutexes := false } = k := by
  rw [← h]

theorem buscarMutexPorNombre_libre (h : k.mutexListaMutexes = false) (nombre : String) :
    buscarMutexPorNombre nombre k =
      .ok (k.listaMutexes.findIdx? fun m ↦ m.nombre = nombre) k := by
  unfold buscarMutexPorNombre
  rw [Blocking.bind_ok (lockListaMutexes_libre h)]
  exact congrArg (EStateM.Result.ok _) (conMutexListaMutexes h)

theorem registrarMutex_libre (h : k.mutexListaMutexes = false) (m : MutexSistema) :
    registrarMutex m k =
      .ok k.listaMutexes.length { k with listaMutexes := k.listaMutexes ++ [m] } := by
  unfold registrarMutex
  rw [Blocking.bind_ok (lockListaMutexes_libre h)]
  exact congrArg (EStateM.Result.ok _) (conMutexListaMutexes (k := { k with
    listaMutexes := k.listaMutexes ++ [m] }) h)

theorem recalcularPrioridadDinamica_libre (h : k.mutexListaMutexes = false) (pid : Pid) :
    recalcularPrioridadDinamica pid k =
      .ok () (k.asignarPrioridadDinamica pid (k.maxPrioridad pid)) := by
  unfold recalcularPrioridadDinamica
  rw [Blocking.bind_ok (lockListaMutexes_libre h)]
  show EStateM.Result.ok () ({ k with mutexListaMutexes := false }.asignarPrioridadDinamica pid
    (k.maxPrioridad pid)) = _
  rw [conMutexListaMutexes h]

theorem recalcularPrioridadDinamica_tomada (h : k.mutexListaMutexes = true) (pid : Pid) :
    recalcularPrioridadDinamica pid k = .error () k :=
  Blocking.bind_error (lockListaMutexes_tomada h) _

/-! ## Release -/

/-- A mutex passes from its holder to the first process of its queue. -/
def KernelScheduler.asignarASiguiente (k : KernelScheduler) (i : ℕ) (siguiente : Pid) :
    KernelScheduler :=
  let k₁ := k.modificarMutex i fun m ↦
    { m with asignadoAPid := some siguiente, colaBloqueados := m.colaBloqueados.tail }
  let k₂ := k₁.modificarPcb siguiente fun p ↦ { p with mutexEsperando := none, estado := .ready }
  k₂.encolarEnReadyYNotificar siguiente

theorem mutexListaMutexes_asignarASiguiente (k : KernelScheduler) (i : ℕ) (siguiente : Pid) :
    (k.asignarASiguiente i siguiente).mutexListaMutexes = k.mutexListaMutexes :=
  (salvoReady_encolar _ siguiente).mutexListaMutexes

theorem mutexListaMutexes_asignarPrioridadDinamica (k : KernelScheduler) (pid : Pid) (prioridad : ℤ) :
    (k.asignarPrioridadDinamica pid prioridad).mutexListaMutexes = k.mutexListaMutexes := by
  unfold asignarPrioridadDinamica
  split
  · exact (salvoReady_reubicar _ _ _ _).mutexListaMutexes
  · rfl

/-- One turn of the loop of `liberar_mutexes_de_proceso`. -/
def liberarMutexEn (pid : Pid) (i : ℕ) : Hilo Unit := do
  match (← get).listaMutexes[i]? with
  | none => return
  | some m =>
    if m.asignadoAPid = some pid then
      match m.colaBloqueados with
      | [] => modify fun k ↦ k.modificarMutex i fun m ↦ { m with asignadoAPid := none }
      | siguiente :: _ =>
        modify fun k ↦ k.asignarASiguiente i siguiente
        recalcularPrioridadDinamica siguiente
    else
      modify fun k ↦ k.modificarMutex i fun m ↦
        { m with colaBloqueados := m.colaBloqueados.filter (· ≠ pid) }

def liberarMutexesDeProceso (pid : Pid) : Hilo Unit := do
  lockListaMutexes
  let k ← get
  forM (List.range k.listaMutexes.length) (liberarMutexEn pid)
  unlockListaMutexes

end PlugAndPlay.Planificador
