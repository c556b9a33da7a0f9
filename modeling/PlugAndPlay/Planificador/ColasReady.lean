import PlugAndPlay.Planificador.Cpus

/-!
# READY queues

The single queue of FIFO and RR and the queues by priority of CMN, with the eviction between queues
that an arrival may trigger. All enqueue paths of the source index the queues by `prioridad`; only
`reubicar_proceso_en_ready` goes by `prioridad_dinamica`.
-/

namespace PlugAndPlay.Planificador.KernelScheduler

variable (k : KernelScheduler)

def NivelValido (prioridad : ℤ) : Prop := 0 ≤ prioridad ∧ prioridad < k.cantidadNivelesPrioridad

instance (prioridad : ℤ) : Decidable (k.NivelValido prioridad) :=
  inferInstanceAs (Decidable (_ ∧ _))

/-- The queue of a priority, `none` where the table has `NULL`. -/
def colaDe (prioridad : ℤ) : Option (List Pid) :=
  if 0 ≤ prioridad then k.colasReadyPorPrioridad[prioridad.toNat]? else none

def modificarCola (prioridad : ℤ) (f : List Pid → List Pid) : KernelScheduler :=
  { k with colasReadyPorPrioridad := k.colasReadyPorPrioridad.modify prioridad.toNat f }

def enviarInterrupcion (socket : Socket) (pid : Pid) (motivo : Motivo) : KernelScheduler :=
  { k with enviados := k.enviados ++ [.interrupcion socket pid motivo] }

def verificarYDesalojarPorPrioridad (nuevo : Pid) : KernelScheduler :=
  if ¬ k.config.queuePreemption ∨ k.compactacionEnProgreso then k
  else
    match cpuVictima k.pcbs k.cpus with
    | none => k
    | some (socket, pid) =>
      if (k.pcbs nuevo).prioridad < (k.pcbs pid).prioridad then
        k.enviarInterrupcion socket pid .desalojoCola
      else k

/-- A process whose priority has no queue is freed. It stays in `todos_los_procesos`. -/
def encolarEnReadyPorPrioridad (pid : Pid) : KernelScheduler :=
  if k.NivelValido (k.pcbs pid).prioridad then
    let k₁ := k.cambiarEstado pid .ready
    let k₂ := k₁.modificarCola (k.pcbs pid).prioridad (· ++ [pid])
    { k₂ with semReady := k₂.semReady + 1 }.verificarYDesalojarPorPrioridad pid
  else k

def reencolarProcesoReadyFinal (pid : Pid) (prioridad : ℤ) : KernelScheduler :=
  if k.NivelValido prioridad then
    let k₁ := k.modificarCola prioridad (· ++ [pid])
    { k₁ with semReady := k₁.semReady + 1 }.verificarYDesalojarPorPrioridad pid
  else k

def reencolarProcesoReadyInicio (pid : Pid) (prioridad : ℤ) : KernelScheduler :=
  if k.NivelValido prioridad then
    let k₁ := k.modificarCola prioridad (pid :: ·)
    { k₁ with semReady := k₁.semReady + 1 }
  else k

def encolarEnReadyYNotificar (pid : Pid) : KernelScheduler :=
  let k₁ := k.cambiarEstado pid .ready
  if 0 < k₁.cantidadNivelesPrioridad then
    k₁.reencolarProcesoReadyFinal pid (k₁.pcbs pid).prioridad
  else
    { k₁ with
      colaProcesosReady := k₁.colaProcesosReady ++ [pid]
      semReady := k₁.semReady + 1 }

/-- The way back of an evicted process, to the front. -/
def encolarDesalojado (pid : Pid) : KernelScheduler :=
  let k₁ := k.cambiarEstado pid .ready
  if 0 < k₁.cantidadNivelesPrioridad then
    k₁.reencolarProcesoReadyInicio pid (k₁.pcbs pid).prioridad
  else
    { k₁ with
      colaProcesosReady := pid :: k₁.colaProcesosReady
      semReady := k₁.semReady + 1 }

def popReady : Option Pid × KernelScheduler :=
  match k.colaProcesosReady with
  | [] => (none, k)
  | pid :: resto => (some pid, { k with colaProcesosReady := resto })

/-- The head of the first queue that has one. -/
def desencolarProcesoReady : Option Pid × KernelScheduler :=
  match k.colasReadyPorPrioridad.findIdx? (· ≠ []) with
  | none => (none, k)
  | some p =>
    ((k.colasReadyPorPrioridad[p]?).bind List.head?,
      { k with colasReadyPorPrioridad := k.colasReadyPorPrioridad.modify p List.tail })

/-! ## What enqueueing leaves alone -/

/-- Only the READY queues, their semaphore and the messages to CPUs differ. -/
abbrev SalvoReady (k k' : KernelScheduler) : Prop :=
  k' = { k with
    colaProcesosReady := k'.colaProcesosReady
    colasReadyPorPrioridad := k'.colasReadyPorPrioridad
    semReady := k'.semReady
    enviados := k'.enviados }

variable {k} {k' k'' : KernelScheduler}

theorem SalvoReady.rfl : SalvoReady k k := Eq.refl k

theorem SalvoReady.trans (h : SalvoReady k k') (h' : SalvoReady k' k'') : SalvoReady k k'' := by
  unfold SalvoReady at h h' ⊢
  rw [h', h]

theorem SalvoReady.pcbs (h : SalvoReady k k') : k'.pcbs = k.pcbs := (congrArg KernelScheduler.pcbs h :)

theorem SalvoReady.listaMutexes (h : SalvoReady k k') : k'.listaMutexes = k.listaMutexes :=
  (congrArg KernelScheduler.listaMutexes h :)

theorem SalvoReady.mutexListaMutexes (h : SalvoReady k k') :
    k'.mutexListaMutexes = k.mutexListaMutexes :=
  (congrArg KernelScheduler.mutexListaMutexes h :)

theorem SalvoReady.config (h : SalvoReady k k') : k'.config = k.config :=
  (congrArg KernelScheduler.config h :)

theorem SalvoReady.cpus (h : SalvoReady k k') : k'.cpus = k.cpus := (congrArg KernelScheduler.cpus h :)

theorem SalvoReady.receptores (h : SalvoReady k k') : k'.receptores = k.receptores :=
  (congrArg KernelScheduler.receptores h :)

theorem SalvoReady.todosLosProcesos (h : SalvoReady k k') :
    k'.todosLosProcesos = k.todosLosProcesos :=
  (congrArg KernelScheduler.todosLosProcesos h :)

theorem salvoReady_verificar (k : KernelScheduler) (nuevo : Pid) :
    SalvoReady k (k.verificarYDesalojarPorPrioridad nuevo) := by
  unfold verificarYDesalojarPorPrioridad
  split
  · exact .rfl
  split
  · exact .rfl
  split
  · exact Eq.refl _
  · exact .rfl

theorem salvoReady_final (k : KernelScheduler) (pid : Pid) (prioridad : ℤ) :
    SalvoReady k (k.reencolarProcesoReadyFinal pid prioridad) := by
  unfold reencolarProcesoReadyFinal
  split
  · have hpush : SalvoReady k { k.modificarCola prioridad (· ++ [pid]) with
        semReady := k.semReady + 1 } := Eq.refl _
    exact hpush.trans (salvoReady_verificar _ pid)
  · exact .rfl

theorem salvoReady_inicio (k : KernelScheduler) (pid : Pid) (prioridad : ℤ) :
    SalvoReady k (k.reencolarProcesoReadyInicio pid prioridad) := by
  unfold reencolarProcesoReadyInicio
  split <;> exact Eq.refl _

theorem salvoReady_encolar (k : KernelScheduler) (pid : Pid) :
    SalvoReady (k.cambiarEstado pid .ready) (k.encolarEnReadyYNotificar pid) := by
  unfold encolarEnReadyYNotificar
  simp only
  split
  · exact salvoReady_final _ _ _
  · exact Eq.refl _

theorem salvoReady_encolarDesalojado (k : KernelScheduler) (pid : Pid) :
    SalvoReady (k.cambiarEstado pid .ready) (k.encolarDesalojado pid) := by
  unfold encolarDesalojado
  simp only
  split
  · exact salvoReady_inicio _ _ _
  · exact Eq.refl _

end PlugAndPlay.Planificador.KernelScheduler
