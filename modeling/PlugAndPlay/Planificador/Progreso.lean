import PlugAndPlay.Planificador.HerenciaExacta
import PlugAndPlay.Planificador.LiberarMutexes
import PlugAndPlay.Planificador.UnSoloLugar

/-!
# Processes that can still make progress

Where a process that has not come to its end waits for something that can happen, and the invariant
that carries this through the handlers: all processes that are not in hand can make progress.
-/

open PlugAndPlay.Library

namespace PlugAndPlay.Planificador

/-- The processes whose requests the interface serves or has queued. -/
def InterfazIo.pendientes (io : InterfazIo) : List Pid :=
  (io.atendido.toList ++ io.cola).map IoRequest.proceso

/-- The states in which a handler leaves a process that it had in hand. -/
def Estado.Corriente (e : Estado) : Prop := e = .ready ∨ e = .exec ∨ e = .block

theorem Estado.Corriente.sanos {e : Estado} (h : e.Corriente) :
    e ≠ .new ∧ e ≠ .exitState ∧ e ≠ .suspBlock ∧ e ≠ .suspReady := by
  rcases h with rfl | rfl | rfl <;> decide

namespace KernelScheduler

variable {k k' : KernelScheduler} {pid q : Pid} {mano mano' : List Pid}

/-- The connection behind the slot is open. -/
def SocketAbierto (k : KernelScheduler) (c : TCpu) : Prop :=
  ∃ r ∈ k.receptores, c.socket = some r.socket

instance (k : KernelScheduler) : DecidablePred k.SocketAbierto := fun c ↦
  inferInstanceAs (Decidable (∃ r ∈ k.receptores, c.socket = some r.socket))

/-- The process is queued, runs, is served or will be resumed. -/
inductive PuedeProgresar (k : KernelScheduler) (pid : Pid) : Prop
  | enNew : pid ∈ k.colaProcesosNew → PuedeProgresar k pid
  | enReady : pid ∈ k.colaProcesosReady → PuedeProgresar k pid
  | enCola : (∃ cola ∈ k.colasReadyPorPrioridad, pid ∈ cola) → PuedeProgresar k pid
  | enCpu : (∃ c ∈ k.cpus, c.procesoActual = some pid ∧ k.SocketAbierto c) → PuedeProgresar k pid
  | enBlock : pid ∈ k.colaProcesosBlock → (∃ io ∈ k.tablaIos, io.activa ∧ pid ∈ io.pendientes) →
    PuedeProgresar k pid
  | enMutex : (∃ m ∈ k.listaMutexes, pid ∈ m.colaBloqueados ∧
      ∃ poseedor ∈ m.asignadoAPid, (k.pcbs poseedor).estado ≠ .exitState) → PuedeProgresar k pid
  | enSuspReady : (k.pcbs pid).estado = .suspReady → pid ∈ k.listaSuspendidos → PuedeProgresar k pid

theorem puedeProgresar_iff : k.PuedeProgresar pid ↔
    pid ∈ k.colaProcesosNew ∨ pid ∈ k.colaProcesosReady ∨
      (∃ cola ∈ k.colasReadyPorPrioridad, pid ∈ cola) ∨
      (∃ c ∈ k.cpus, c.procesoActual = some pid ∧ k.SocketAbierto c) ∨
      (pid ∈ k.colaProcesosBlock ∧ ∃ io ∈ k.tablaIos, io.activa ∧ pid ∈ io.pendientes) ∨
      (∃ m ∈ k.listaMutexes, pid ∈ m.colaBloqueados ∧
        ∃ poseedor ∈ m.asignadoAPid, (k.pcbs poseedor).estado ≠ .exitState) ∨
      ((k.pcbs pid).estado = .suspReady ∧ pid ∈ k.listaSuspendidos) := by
  constructor
  · intro h
    cases h with
    | enNew h => exact .inl h
    | enReady h => exact .inr (.inl h)
    | enCola h => exact .inr (.inr (.inl h))
    | enCpu h => exact .inr (.inr (.inr (.inl h)))
    | enBlock h h' => exact .inr (.inr (.inr (.inr (.inl ⟨h, h'⟩))))
    | enMutex h => exact .inr (.inr (.inr (.inr (.inr (.inl h)))))
    | enSuspReady h h' => exact .inr (.inr (.inr (.inr (.inr (.inr ⟨h, h'⟩)))))
  · intro h
    rcases h with h | h | h | h | h | h | h
    · exact .enNew h
    · exact .enReady h
    · exact .enCola h
    · exact .enCpu h
    · exact .enBlock h.1 h.2
    · exact .enMutex h
    · exact .enSuspReady h.1 h.2

instance (k : KernelScheduler) : DecidablePred k.PuedeProgresar := fun _ ↦
  decidable_of_iff _ puedeProgresar_iff.symm

/-- Each created process that has not come to its end can make progress. -/
def SinPerdidos (k : KernelScheduler) : Prop := ∀ pid, k.Vigente pid → k.PuedeProgresar pid

/-- The priorities of the process have queues, if there are queues by priority. -/
def PrioridadesValidas (k : KernelScheduler) (pid : Pid) : Prop :=
  0 < k.cantidadNivelesPrioridad →
    k.NivelValido (k.pcbs pid).prioridad ∧ k.NivelValido (k.pcbs pid).prioridadDinamica

/-- The invariant, with some processes in hand. -/
structure Cuidado (k : KernelScheduler) (mano : List Pid) : Prop where
  libre : k.mutexListaMutexes = false
  unLugar : k.EnUnLugar mano
  nuevos : ∀ q, (k.pcbs q).estado = .new → q ∈ k.colaProcesosNew
  validos : ∀ q, (k.pcbs q).estado ≠ .new ∨ k.NivelValido (k.pcbs q).prioridad → k.PrioridadesValidas q
  poseedores : ∀ m ∈ k.listaMutexes, ∀ q ∈ m.asignadoAPid, q ∉ mano → (k.pcbs q).estado ≠ .exitState
  suspendidos : ∀ q, (k.pcbs q).estado = .suspBlock ∨ (k.pcbs q).estado = .suspReady →
    q ∈ k.listaSuspendidos
  cpusLibres : ∀ c ∈ k.cpus, c.disponible → c.procesoActual = none
  primeras : ∀ cpuId c socket, buscarCpu k.cpus cpuId = some c → c.socket = some socket →
    ⟨socket, cpuId⟩ ∈ k.receptores
  progresan : ∀ q, q ∉ mano → k.Vigente q → k.PuedeProgresar q

/-- Semaphores, timers, messages and the phase of the planner play no role. -/
abbrev SalvoReloj (k k' : KernelScheduler) : Prop :=
  k' = { k with
    todosLosProcesos := k'.todosLosProcesos
    timersSuspension := k'.timersSuspension
    timersQuantum := k'.timersQuantum
    semNew := k'.semNew
    semReady := k'.semReady
    semCpuDisponible := k'.semCpuDisponible
    semReevaluarSuspendidos := k'.semReevaluarSuspendidos
    compactacionEnProgreso := k'.compactacionEnProgreso
    fasePcp := k'.fasePcp
    enviados := k'.enviados }

theorem PuedeProgresar.salvoReloj (h : k.PuedeProgresar q) (hk' : SalvoReloj k k') :
    k'.PuedeProgresar q := by
  rw [hk']
  cases h with
  | enNew h => exact .enNew h
  | enReady h => exact .enReady h
  | enCola h => exact .enCola h
  | enCpu h => exact .enCpu h
  | enBlock h h' => exact .enBlock h h'
  | enMutex h => exact .enMutex h
  | enSuspReady h h' => exact .enSuspReady h h'

theorem Cuidado.salvoReloj (h : k.Cuidado mano) (hk' : SalvoReloj k k') : k'.Cuidado mano := by
  have hprogresan : ∀ q, q ∉ mano → k'.Vigente q → k'.PuedeProgresar q := by
    intro q hq hvig
    refine (h.progresan q hq ?_).salvoReloj hk'
    rw [hk'] at hvig
    exact hvig
  rw [hk'] at hprogresan ⊢
  exact ⟨h.libre, h.unLugar, h.nuevos, h.validos, h.poseedores, h.suspendidos, h.cpusLibres,
    h.primeras, hprogresan⟩

/-- A process in hand is not new. -/
theorem Cuidado.iniciado (h : k.Cuidado mano) (hpid : pid ∈ mano) : (k.pcbs pid).estado ≠ .new := by
  intro hnew
  have huno := h.unLugar pid
  have hcola := List.count_pos_iff.mpr (h.nuevos pid hnew)
  have hmano := List.count_pos_iff.mpr hpid
  simp only [apariciones, lugares, List.count_append] at huno
  split at huno <;> omega

/-- Neither is a process that waits for a mutex; it has not come to its end either. -/
theorem Cuidado.bloqueado (h : k.Cuidado mano) {m : MutexSistema} (hm : m ∈ k.listaMutexes)
    (hpid : pid ∈ m.colaBloqueados) : (k.pcbs pid).estado ≠ .new ∧ k.Vigente pid := by
  have huno := h.unLugar pid
  have hespera : pid ∈ k.listaMutexes.flatMap MutexSistema.colaBloqueados :=
    List.mem_flatMap.mpr ⟨m, hm, hpid⟩
  have hcola := List.count_pos_iff.mpr hespera
  simp only [apariciones, lugares, List.count_append] at huno
  constructor
  · intro hnew
    have hnuevo := List.count_pos_iff.mpr (h.nuevos pid hnew)
    split at huno <;> omega
  · by_contra hno
    rw [if_neg hno] at huno
    omega

/-! ## Changes of a PCB -/

theorem PuedeProgresar.conPcb (h : k.PuedeProgresar q) (f : Pcb → Pcb) {suspendidos : List Pid}
    (hvivo : (f (k.pcbs pid)).estado = .exitState → (k.pcbs pid).estado = .exitState)
    (hsusp : q = pid → (k.pcbs pid).estado = .suspReady → (f (k.pcbs pid)).estado = .suspReady)
    (hsuspendidos : q ∈ k.listaSuspendidos → q ∈ suspendidos) :
    { k.modificarPcb pid f with listaSuspendidos := suspendidos }.PuedeProgresar q := by
  cases h with
  | enNew h => exact .enNew h
  | enReady h => exact .enReady h
  | enCola h => exact .enCola h
  | enCpu h => exact .enCpu h
  | enBlock h h' => exact .enBlock h h'
  | enMutex h =>
    obtain ⟨m, hm, hq, poseedor, hposee, hestado⟩ := h
    refine .enMutex ⟨m, hm, hq, poseedor, hposee, fun hexit ↦ hestado ?_⟩
    change ((k.modificarPcb pid f).pcbs poseedor).estado = _ at hexit
    rw [pcbs_modificarPcb] at hexit
    split at hexit
    · rename_i hpid
      rw [hpid]
      exact hvivo hexit
    · exact hexit
  | enSuspReady h h' =>
    refine .enSuspReady ?_ (hsuspendidos h')
    show ((k.modificarPcb pid f).pcbs q).estado = _
    rw [pcbs_modificarPcb]
    split
    · rename_i hpid
      exact hsusp hpid (hpid ▸ h)
    · exact h

/-- The priorities of a process that keeps `prioridad` stay valid. -/
theorem Cuidado.validos_modificarPcb (h : k.Cuidado mano) {f : Pcb → Pcb}
    (hnuevo : (f (k.pcbs pid)).estado ≠ .new → (k.pcbs pid).estado ≠ .new)
    (hprioridad : (f (k.pcbs pid)).prioridad = (k.pcbs pid).prioridad)
    (hdinamica : k.PrioridadesValidas pid → 0 < k.cantidadNivelesPrioridad →
      k.NivelValido (f (k.pcbs pid)).prioridadDinamica)
    (hq : ((k.modificarPcb pid f).pcbs q).estado ≠ .new ∨
      k.NivelValido ((k.modificarPcb pid f).pcbs q).prioridad) :
    (k.modificarPcb pid f).PrioridadesValidas q := by
  by_cases hpid : q = pid
  · subst hpid
    rw [pcbs_modificarPcb_mismo, hprioridad] at hq
    have hvalidas := h.validos q (hq.imp hnuevo id)
    intro hniveles
    rw [pcbs_modificarPcb_mismo, hprioridad]
    exact ⟨(hvalidas hniveles).1, hdinamica hvalidas hniveles⟩
  · unfold PrioridadesValidas
    rw [pcbs_modificarPcb, if_neg hpid] at hq ⊢
    exact h.validos q hq

theorem Cuidado.modificarPcb (h : k.Cuidado mano) (pid : Pid) (f : Pcb → Pcb)
    (hestado : (f (k.pcbs pid)).estado = (k.pcbs pid).estado ∨
      pid ∈ mano ∧ (f (k.pcbs pid)).estado.Corriente)
    (hprioridad : (f (k.pcbs pid)).prioridad = (k.pcbs pid).prioridad)
    (hdinamica : k.PrioridadesValidas pid → 0 < k.cantidadNivelesPrioridad →
      k.NivelValido (f (k.pcbs pid)).prioridadDinamica) : (k.modificarPcb pid f).Cuidado mano := by
  have hpcb : ∀ q, q ≠ pid → (k.modificarPcb pid f).pcbs q = k.pcbs q := by
    intro q hq
    rw [pcbs_modificarPcb, if_neg hq]
  have hmismo : (k.modificarPcb pid f).pcbs pid = f (k.pcbs pid) := k.pcbs_modificarPcb_mismo pid f
  refine ⟨h.libre, ?_, fun q hq ↦ ?_, fun q ↦ ?_, fun m hm q hposee hq ↦ ?_, fun q hq ↦ ?_,
    h.cpusLibres, h.primeras, fun q hq hvig ↦ ?_⟩
  · apply h.unLugar.modificarPcb
    rcases hestado with higual | ⟨_, hcorriente⟩
    · exact .inl higual
    · exact .inr ⟨hcorriente.sanos.2.2.2, hcorriente.sanos.2.1⟩
  · by_cases hpid : q = pid
    · subst hpid
      rw [hmismo] at hq
      rcases hestado with higual | ⟨_, hcorriente⟩
      · exact h.nuevos q (higual ▸ hq)
      · exact absurd hq hcorriente.sanos.1
    · rw [hpcb q hpid] at hq
      exact h.nuevos q hq
  · apply h.validos_modificarPcb ?_ hprioridad hdinamica
    rcases hestado with higual | ⟨hmem, _⟩
    · rw [higual]
      exact id
    · exact fun _ ↦ h.iniciado hmem
  · by_cases hpid : q = pid
    · subst hpid
      rw [hmismo]
      rcases hestado with higual | ⟨_, hcorriente⟩
      · rw [higual]
        exact h.poseedores m hm q hposee hq
      · exact hcorriente.sanos.2.1
    · rw [hpcb q hpid]
      exact h.poseedores m hm q hposee hq
  · by_cases hpid : q = pid
    · subst hpid
      rw [hmismo] at hq
      rcases hestado with higual | ⟨_, hcorriente⟩
      · exact h.suspendidos q (higual ▸ hq)
      · exact absurd hq (not_or.mpr hcorriente.sanos.2.2)
    · rw [hpcb q hpid] at hq
      exact h.suspendidos q hq
  · have hvigente : k.Vigente q := by
      refine ⟨hvig.1, ?_⟩
      by_cases hpid : q = pid
      · subst hpid
        rcases hestado with higual | ⟨hmem, _⟩
        · have hno := hvig.2
          rwa [hmismo, higual] at hno
        · exact absurd hmem hq
      · have hno := hvig.2
        rwa [hpcb q hpid] at hno
    apply (h.progresan q hq hvigente).conPcb f ?_ ?_ id
    · rcases hestado with higual | ⟨_, hcorriente⟩
      · rw [higual]
        exact id
      · exact fun hexit ↦ absurd hexit hcorriente.sanos.2.1
    · intro hpid hsusp
      rcases hestado with higual | ⟨hmem, _⟩
      · rw [higual, hsusp]
      · exact absurd (hpid ▸ hmem) hq

/-- A process that is not new and does not come to its end goes to another state. -/
theorem Cuidado.conEstado (h : k.Cuidado mano) (f : Pcb → Pcb) {suspendidos : List Pid}
    (hun : { k.modificarPcb pid f with listaSuspendidos := suspendidos }.EnUnLugar mano')
    (hantes : (k.pcbs pid).estado ≠ .new)
    (hestado : (f (k.pcbs pid)).estado ≠ .new ∧ (f (k.pcbs pid)).estado ≠ .exitState)
    (hprioridad : (f (k.pcbs pid)).prioridad = (k.pcbs pid).prioridad)
    (hdinamica : (f (k.pcbs pid)).prioridadDinamica = (k.pcbs pid).prioridadDinamica)
    (hpid : (f (k.pcbs pid)).estado = .suspBlock ∨ (f (k.pcbs pid)).estado = .suspReady →
      pid ∈ suspendidos)
    (hsuspendidos : ∀ q, q ≠ pid → q ∈ k.listaSuspendidos → q ∈ suspendidos)
    (hmano : ∀ q, q ≠ pid → (q ∈ mano ↔ q ∈ mano'))
    (hprogresa : pid ∉ mano' →
      { k.modificarPcb pid f with listaSuspendidos := suspendidos }.PuedeProgresar pid) :
    { k.modificarPcb pid f with listaSuspendidos := suspendidos }.Cuidado mano' := by
  have hpcb : ∀ q, q ≠ pid → (k.modificarPcb pid f).pcbs q = k.pcbs q := by
    intro q hq
    rw [pcbs_modificarPcb, if_neg hq]
  have hmismo : (k.modificarPcb pid f).pcbs pid = f (k.pcbs pid) := k.pcbs_modificarPcb_mismo pid f
  refine ⟨h.libre, hun, fun q hq ↦ ?_, fun q ↦ ?_, fun m hm q hposee hq ↦ ?_, fun q hq ↦ ?_,
    h.cpusLibres, h.primeras, fun q hq hvig ↦ ?_⟩
  · by_cases hq' : q = pid
    · rw [hq', hmismo] at hq
      exact absurd hq hestado.1
    · rw [hpcb q hq'] at hq
      exact h.nuevos q hq
  · exact h.validos_modificarPcb (fun _ ↦ hantes) hprioridad fun hvalidas hniveles ↦
      hdinamica ▸ (hvalidas hniveles).2
  · by_cases hq' : q = pid
    · rw [hq', hmismo]
      exact hestado.2
    · rw [hpcb q hq']
      exact h.poseedores m hm q hposee ((hmano q hq').not.mpr hq)
  · by_cases hq' : q = pid
    · rw [hq', hmismo] at hq
      exact hq' ▸ hpid hq
    · rw [hpcb q hq'] at hq
      exact hsuspendidos q hq' (h.suspendidos q hq)
  · by_cases hq' : q = pid
    · subst hq'
      exact hprogresa hq
    · have hvigente : k.Vigente q := by
        refine ⟨hvig.1, ?_⟩
        have hno := hvig.2
        rwa [hpcb q hq'] at hno
      apply (h.progresan q ((hmano q hq').not.mpr hq) hvigente).conPcb f
      · exact fun hexit ↦ absurd hexit hestado.2
      · exact fun hno ↦ absurd hno hq'
      · exact hsuspendidos q hq'

/-! ## READY queues -/

/-- A change of the READY queues. The processes that leave the hand are in one of them, and those that
stay out of the hand stay in theirs. -/
theorem Cuidado.conReady (h : k.Cuidado mano) (hk' : SalvoReady k k')
    (hniveles : k'.cantidadNivelesPrioridad = k.cantidadNivelesPrioridad) (hun : k'.EnUnLugar mano')
    (hpuestos : ∀ q ∈ mano, q ∉ mano' → (k.pcbs q).estado ≠ .exitState ∧ k'.PuedeProgresar q)
    (hready : ∀ q, q ∉ mano' → q ∈ k.colaProcesosReady → q ∈ k'.colaProcesosReady)
    (hcolas : ∀ q, q ∉ mano' → (∃ cola ∈ k.colasReadyPorPrioridad, q ∈ cola) →
      ∃ cola ∈ k'.colasReadyPorPrioridad, q ∈ cola) : k'.Cuidado mano' := by
  have hprogresan : ∀ q, q ∉ mano' → k'.Vigente q → k'.PuedeProgresar q := by
    intro q hq hvig
    by_cases hmano : q ∈ mano
    · exact (hpuestos q hmano hq).2
    have hvigente : k.Vigente q := by
      rw [hk'] at hvig
      exact hvig
    cases h.progresan q hmano hvigente with
    | enReady h => exact .enReady (hready q hq h)
    | enCola h => exact .enCola (hcolas q hq h)
    | enNew h => exact .enNew (by rw [hk']; exact h)
    | enCpu h => exact .enCpu (by rw [hk']; exact h)
    | enBlock h h' => exact .enBlock (by rw [hk']; exact h) (by rw [hk']; exact h')
    | enMutex h => exact .enMutex (by rw [hk']; exact h)
    | enSuspReady h h' => exact .enSuspReady (by rw [hk']; exact h) (by rw [hk']; exact h')
  have hvalidos : ∀ q, (k'.pcbs q).estado ≠ .new ∨ k'.NivelValido (k'.pcbs q).prioridad →
      k'.PrioridadesValidas q := by
    unfold PrioridadesValidas NivelValido
    rw [hniveles, hk'.pcbs]
    exact h.validos
  rw [hk'] at hprogresan hvalidos hun ⊢
  refine ⟨h.libre, hun, h.nuevos, hvalidos, fun m hm q hposee hq ↦ ?_, h.suspendidos, h.cpusLibres,
    h.primeras, hprogresan⟩
  by_cases hmano : q ∈ mano
  · exact (hpuestos q hmano hq).1
  · exact h.poseedores m hm q hposee hmano

theorem cantidadNivelesPrioridad_modificarCola (k : KernelScheduler) (prioridad : ℤ)
    (f : List Pid → List Pid) :
    (k.modificarCola prioridad f).cantidadNivelesPrioridad = k.cantidadNivelesPrioridad :=
  List.length_modify f k.colasReadyPorPrioridad prioridad.toNat

theorem nivelValido_modificarCola {prioridad nivel : ℤ} (h : k.NivelValido nivel)
    (f : List Pid → List Pid) : (k.modificarCola prioridad f).NivelValido nivel := by
  unfold NivelValido
  rw [cantidadNivelesPrioridad_modificarCola]
  exact h

theorem NivelValido.lt {prioridad : ℤ} (h : k.NivelValido prioridad) :
    prioridad.toNat < k.colasReadyPorPrioridad.length := by
  obtain ⟨hpos, hcota⟩ := h
  unfold cantidadNivelesPrioridad at hcota
  omega

/-- What a change puts into a queue that exists is in a queue. -/
theorem mem_modificarCola {prioridad : ℤ} (hvalida : k.NivelValido prioridad) {f : List Pid → List Pid}
    (hmem : ∀ cola, pid ∈ f cola) :
    ∃ cola ∈ (k.modificarCola prioridad f).colasReadyPorPrioridad, pid ∈ cola := by
  have hlt := hvalida.lt
  refine ⟨f k.colasReadyPorPrioridad[prioridad.toNat], ?_, hmem _⟩
  refine List.mem_of_getElem? (i := prioridad.toNat) ?_
  show (k.colasReadyPorPrioridad.modify prioridad.toNat f)[prioridad.toNat]? = _
  simp [List.getElem?_eq_getElem hlt]

/-- A process in hand goes to its queue, which exists. -/
theorem Cuidado.modificarCola (h : k.Cuidado (pid :: mano)) {prioridad : ℤ}
    (hvalida : k.NivelValido prioridad) (hestado : (k.pcbs pid).estado ≠ .exitState)
    (f : List Pid → List Pid) (hf : ∀ cola q, (f cola).count q ≤ cola.count q + [pid].count q)
    (hmem : ∀ cola, pid ∈ f cola) (hsigue : ∀ cola q, q ∈ cola → q ∈ f cola) :
    (k.modificarCola prioridad f).Cuidado mano := by
  refine h.conReady (Eq.refl _) (cantidadNivelesPrioridad_modificarCola k prioridad f)
    (h.unLugar.modificarCola prioridad f hf) (fun q hq hfuera ↦ ?_) (fun _ _ ↦ id) fun q _ hcola ↦ ?_
  · obtain rfl := (List.mem_cons.mp hq).resolve_right hfuera
    exact ⟨hestado, .enCola (mem_modificarCola hvalida hmem)⟩
  · exact ListModify.exists_mem_modify hcola _ _ (fun cola _ ↦ hsigue cola q) fun _ ↦ id

theorem Cuidado.verificar (h : k.Cuidado mano) (nuevo : Pid) :
    (k.verificarYDesalojarPorPrioridad nuevo).Cuidado mano := by
  apply h.salvoReloj
  unfold verificarYDesalojarPorPrioridad
  split
  · exact Eq.refl _
  split
  · exact Eq.refl _
  split
  · exact Eq.refl _
  · exact Eq.refl _

theorem Cuidado.alFinal (h : k.Cuidado (pid :: mano)) {prioridad : ℤ}
    (hvalida : k.NivelValido prioridad) (hestado : (k.pcbs pid).estado ≠ .exitState) :
    { k.modificarCola prioridad (· ++ [pid]) with semReady := k.semReady + 1 }.Cuidado mano := by
  have hcola := h.modificarCola hvalida hestado (· ++ [pid]) (fun cola q ↦ Nat.le_of_eq List.count_append)
    (fun cola ↦ List.mem_append_right _ List.mem_cons_self) fun cola q ↦ List.mem_append_left _
  exact hcola.salvoReloj (Eq.refl _)

theorem Cuidado.final (h : k.Cuidado (pid :: mano)) {prioridad : ℤ}
    (hvalida : k.NivelValido prioridad) (hestado : (k.pcbs pid).estado ≠ .exitState) :
    (k.reencolarProcesoReadyFinal pid prioridad).Cuidado mano := by
  unfold reencolarProcesoReadyFinal
  rw [if_pos hvalida]
  exact (h.alFinal hvalida hestado).verificar pid

theorem Cuidado.inicio (h : k.Cuidado (pid :: mano)) {prioridad : ℤ}
    (hvalida : k.NivelValido prioridad) (hestado : (k.pcbs pid).estado ≠ .exitState) :
    (k.reencolarProcesoReadyInicio pid prioridad).Cuidado mano := by
  have hcola := h.modificarCola hvalida hestado (pid :: ·) (fun cola q ↦ Nat.le_of_eq (count_mano pid cola q))
    (fun cola ↦ List.mem_cons_self) fun cola q ↦ List.mem_cons_of_mem _
  unfold reencolarProcesoReadyInicio
  rw [if_pos hvalida]
  exact hcola.salvoReloj (Eq.refl _)

/-- A process in hand goes to the single queue. -/
theorem Cuidado.meter (h : k.Cuidado (pid :: mano)) (hestado : (k.pcbs pid).estado ≠ .exitState)
    {cola : List Pid} (hcola : ∀ q, cola.count q = k.colaProcesosReady.count q + [pid].count q)
    (semReady : ℕ) : { k with colaProcesosReady := cola, semReady := semReady }.Cuidado mano := by
  have hmem : ∀ q, q ∈ cola ↔ q ∈ k.colaProcesosReady ∨ q ∈ [pid] := by
    intro q
    rw [← List.count_pos_iff, hcola, ← List.count_pos_iff, ← List.count_pos_iff]
    omega
  refine h.conReady (Eq.refl _) rfl (h.unLugar.meter hcola semReady) (fun q hq hfuera ↦ ?_)
    (fun q _ hq ↦ (hmem q).mpr (.inl hq)) fun _ _ ↦ id
  obtain rfl := (List.mem_cons.mp hq).resolve_right hfuera
  exact ⟨hestado, .enReady ((hmem q).mpr (.inr List.mem_cons_self))⟩

theorem Cuidado.aReady (h : k.Cuidado (pid :: mano)) :
    (k.cambiarEstado pid .ready).Cuidado (pid :: mano) :=
  h.modificarPcb pid _ (.inr ⟨List.mem_cons_self, .inl rfl⟩) rfl fun hvalidas hniveles ↦
    (hvalidas hniveles).2

theorem ready_cambiarEstado (k : KernelScheduler) (pid : Pid) :
    ((k.cambiarEstado pid .ready).pcbs pid).estado ≠ .exitState := by
  unfold KernelScheduler.cambiarEstado
  rw [pcbs_modificarPcb_mismo]
  nofun

theorem Cuidado.encolar (h : k.Cuidado (pid :: mano)) :
    (k.encolarEnReadyYNotificar pid).Cuidado mano := by
  have hready := h.aReady
  unfold encolarEnReadyYNotificar
  simp only
  split
  · rename_i hniveles
    exact hready.final (hready.validos pid (.inl (hready.iniciado List.mem_cons_self)) hniveles).1
      (ready_cambiarEstado k pid)
  · exact hready.meter (ready_cambiarEstado k pid) (fun q ↦ List.count_append) _

theorem Cuidado.encolarDesalojado (h : k.Cuidado (pid :: mano)) :
    (k.encolarDesalojado pid).Cuidado mano := by
  have hready := h.aReady
  unfold KernelScheduler.encolarDesalojado
  simp only
  split
  · rename_i hniveles
    exact hready.inicio (hready.validos pid (.inl (hready.iniciado List.mem_cons_self)) hniveles).1
      (ready_cambiarEstado k pid)
  · exact hready.meter (ready_cambiarEstado k pid) (count_mano pid _) _

/-- What the planner takes out of READY is in hand. -/
def TomadoConCuidado (k : KernelScheduler) (mano : List Pid) (r : Option Pid × KernelScheduler) : Prop :=
  r.2.Cuidado (r.1.toList ++ mano) ∧ SalvoReady k r.2

theorem Cuidado.popReady (h : k.Cuidado mano) : TomadoConCuidado k mano k.popReady := by
  have htomado := h.unLugar.popReady.1
  unfold KernelScheduler.popReady at htomado ⊢
  cases hcola : k.colaProcesosReady with
  | nil => exact ⟨h, Eq.refl _⟩
  | cons pid resto =>
    rw [hcola] at htomado
    refine ⟨h.conReady (Eq.refl _) rfl htomado (fun q hq hfuera ↦ ?_) (fun q hq hmem ↦ ?_)
      fun _ _ ↦ id, Eq.refl _⟩
    · exact absurd (List.mem_cons_of_mem pid hq) hfuera
    · rw [hcola] at hmem
      rcases List.mem_cons.mp hmem with rfl | hresto
      · exact absurd List.mem_cons_self hq
      · exact hresto

theorem Cuidado.desencolar (h : k.Cuidado mano) : TomadoConCuidado k mano k.desencolarProcesoReady := by
  have htomado := h.unLugar.desencolar.1
  unfold desencolarProcesoReady at htomado ⊢
  cases hp : k.colasReadyPorPrioridad.findIdx? (· ≠ []) with
  | none => exact ⟨h, Eq.refl _⟩
  | some p =>
    obtain ⟨hlt, hcola, _⟩ := List.findIdx?_eq_some_iff_getElem.mp hp
    obtain ⟨pid, resto, hcola⟩ := List.exists_cons_of_ne_nil (of_decide_eq_true hcola)
    have hp? : k.colasReadyPorPrioridad[p]? = some (pid :: resto) := by
      rw [List.getElem?_eq_getElem hlt, hcola]
    simp only [hp, hp?, Option.bind_some, List.head?_cons] at htomado ⊢
    refine ⟨h.conReady (Eq.refl _) (List.length_modify _ _ _) htomado (fun q hq hfuera ↦ ?_)
      (fun _ _ ↦ id) fun q hq hmem ↦ ?_, Eq.refl _⟩
    · exact absurd (List.mem_cons_of_mem pid hq) hfuera
    · refine ListModify.exists_mem_modify hmem _ _ (fun cola hcola hqcola ↦ ?_) fun _ ↦ id
      obtain rfl := Option.some.inj (hp?.symm.trans hcola)
      rcases List.mem_cons.mp hqcola with rfl | hresto
      · exact absurd List.mem_cons_self hq
      · exact hresto

/-! ## Inheritance -/

theorem Cuidado.reubicar (h : k.Cuidado mano) (pid : Pid) (anterior : ℤ) {nueva : ℤ}
    (hnueva : 0 < k.cantidadNivelesPrioridad → k.NivelValido nueva) :
    (k.reubicarProcesoEnReady pid anterior nueva).Cuidado mano := by
  have hun := h.unLugar.reubicar pid anterior nueva
  unfold reubicarProcesoEnReady at hun ⊢
  split at hun
  · rename_i hno
    rw [if_pos hno]
    exact h
  rename_i hsi
  rw [if_neg hsi]
  have hvalida := hnueva (Nat.pos_of_ne_zero (not_or.mp (not_or.mp hsi).2).1)
  cases hcola : k.colaDe anterior with
  | none => exact h
  | some cola =>
    simp only [hcola] at hun ⊢
    split at hun
    swap
    · rename_i hmem
      rw [if_neg hmem]
      exact h
    rename_i hmem
    rw [if_pos hmem]
    have hvalida' : (k.modificarCola anterior (·.erase pid)).NivelValido nueva :=
      nivelValido_modificarCola hvalida _
    have hdestino : (k.modificarCola anterior (·.erase pid)).colaDe nueva =
        some ((k.modificarCola anterior (·.erase pid)).colasReadyPorPrioridad.get
          ⟨nueva.toNat, hvalida'.lt⟩) := by
      unfold colaDe
      rw [if_pos hvalida.1, List.getElem?_eq_getElem hvalida'.lt]
      rfl
    simp only [hdestino] at hun ⊢
    refine h.conReady (Eq.refl _) ?_ hun (fun q hq hfuera ↦ absurd hq hfuera) (fun _ _ ↦ id)
      fun q _ hq ↦ ?_
    · rw [cantidadNivelesPrioridad_modificarCola, cantidadNivelesPrioridad_modificarCola]
    by_cases hpid : q = pid
    · subst hpid
      exact mem_modificarCola hvalida' fun cola ↦ List.mem_append_right _ List.mem_cons_self
    · have hquita : ∃ cola ∈ (k.modificarCola anterior (·.erase pid)).colasReadyPorPrioridad, q ∈ cola :=
        ListModify.exists_mem_modify hq _ _
          (fun cola _ hqcola ↦ (List.mem_erase_of_ne hpid).mpr hqcola) fun _ ↦ id
      exact ListModify.exists_mem_modify hquita _ _ (fun cola _ ↦ List.mem_append_left _) fun _ ↦ id

theorem Cuidado.cambiarDinamica (h : k.Cuidado mano) (pid : Pid) {prioridad : ℤ}
    (hvalida : 0 < k.cantidadNivelesPrioridad → k.NivelValido prioridad) :
    (k.cambiarPrioridadDinamica pid prioridad).Cuidado mano :=
  h.modificarPcb pid _ (.inl rfl) rfl fun _ ↦ hvalida

theorem Cuidado.asignarDinamica (h : k.Cuidado mano) (pid : Pid) {prioridad : ℤ}
    (hvalida : 0 < k.cantidadNivelesPrioridad → k.NivelValido prioridad) :
    (k.asignarPrioridadDinamica pid prioridad).Cuidado mano := by
  unfold KernelScheduler.asignarPrioridadDinamica
  split
  · exact (h.cambiarDinamica pid hvalida).reubicar pid _ hvalida
  · exact h

/-- The recalculated priority is that of the process or of one that waits for it. -/
theorem Cuidado.recalcular (h : k.Cuidado mano) (hpid : (k.pcbs pid).estado ≠ .new) :
    (k.asignarPrioridadDinamica pid (k.maxPrioridad pid)).Cuidado mano := by
  refine h.asignarDinamica pid fun hniveles ↦ ?_
  rcases Set.mem_insert_iff.mp (prioridad_maxPrioridad k pid).1 with hpropia | ⟨w, hw, hdinamica⟩
  · rw [hpropia]
    exact (h.validos pid (.inl hpid) hniveles).1
  · rw [← hdinamica]
    obtain ⟨m, hm, _, hcola⟩ := hw
    exact (h.validos w (.inl (h.bloqueado hm hcola).1) hniveles).2

theorem cantidadNiveles_reubicar (k : KernelScheduler) (pid : Pid) (anterior nueva : ℤ) :
    (k.reubicarProcesoEnReady pid anterior nueva).cantidadNivelesPrioridad =
      k.cantidadNivelesPrioridad := by
  unfold reubicarProcesoEnReady
  split
  · rfl
  split
  · rfl
  split
  · simp only
    split
    · rw [cantidadNivelesPrioridad_modificarCola]
    · rw [cantidadNivelesPrioridad_modificarCola, cantidadNivelesPrioridad_modificarCola]
  · rfl

theorem Cuidado.propagar (fuel : ℕ) (h : k.Cuidado mano) (bloqueado : Pid) {aHeredar : ℤ}
    (hvalida : 0 < k.cantidadNivelesPrioridad → k.NivelValido aHeredar) :
    (propagarHerencia fuel k bloqueado aHeredar).Cuidado mano := by
  induction fuel generalizing k bloqueado with
  | zero => exact h
  | succ fuel ih =>
    unfold propagarHerencia
    split
    · exact h
    split
    · exact h
    rename_i poseedor _
    have hturno := (h.cambiarDinamica poseedor hvalida).reubicar poseedor
      (k.pcbs poseedor).prioridadDinamica hvalida
    split
    · simp only
      split
      · refine ih hturno poseedor ?_
        unfold NivelValido
        rw [cantidadNiveles_reubicar]
        exact hvalida
      · exact hturno
    · exact h

/-! ## Mutexes -/

/-- What a process that waits for a mutex waits for. -/
def EsperaMutex (k : KernelScheduler) (lista : List MutexSistema) (q : Pid) : Prop :=
  ∃ m ∈ lista, q ∈ m.colaBloqueados ∧ ∃ poseedor ∈ m.asignadoAPid,
    (k.pcbs poseedor).estado ≠ .exitState

theorem Cuidado.conMutexes (h : k.Cuidado mano) {lista : List MutexSistema}
    (hun : { k with listaMutexes := lista }.EnUnLugar mano')
    (hposeedores : ∀ m ∈ lista, ∀ q ∈ m.asignadoAPid, q ∉ mano' → (k.pcbs q).estado ≠ .exitState)
    (hsiguen : ∀ q, q ∉ mano' → q ∈ mano ∨ k.EsperaMutex k.listaMutexes q → k.EsperaMutex lista q) :
    { k with listaMutexes := lista }.Cuidado mano' := by
  refine ⟨h.libre, hun, h.nuevos, h.validos, hposeedores, h.suspendidos, h.cpusLibres, h.primeras,
    fun q hq hvig ↦ ?_⟩
  by_cases hmano : q ∈ mano
  · exact .enMutex (hsiguen q hq (.inl hmano))
  · cases h.progresan q hmano hvig with
    | enNew h => exact .enNew h
    | enReady h => exact .enReady h
    | enCola h => exact .enCola h
    | enCpu h => exact .enCpu h
    | enBlock h h' => exact .enBlock h h'
    | enMutex h => exact .enMutex (hsiguen q hq (.inr h))
    | enSuspReady h h' => exact .enSuspReady h h'

theorem Cuidado.conMutexNuevo (h : k.Cuidado mano) (nombre : String) :
    (k.conMutexNuevo nombre).Cuidado mano := by
  refine h.conMutexes ?_ (fun m hm q hposee hq ↦ ?_) fun q hq hespera ↦ ?_
  · refine h.unLugar.of_lugares rfl rfl fun q ↦ ?_
    simp [lugares, List.count_append]
  · rcases List.mem_append.mp hm with hm | hm
    · exact h.poseedores m hm q hposee hq
    · obtain rfl := List.mem_singleton.mp hm
      cases hposee
  · obtain ⟨m, hm, hcola⟩ := hespera.resolve_left hq
    exact ⟨m, List.mem_append_left _ hm, hcola⟩

/-- A change of the holder of a mutex for which nobody waits, or that nobody held. -/
theorem Cuidado.cambiarPoseedor (h : k.Cuidado mano) {i : ℕ} {m : MutexSistema}
    (hm : k.listaMutexes[i]? = some m) {poseedor : Option Pid} (hposeedor : ∀ q ∈ poseedor, q ∈ mano)
    (hnadie : m.asignadoAPid = none ∨ m.colaBloqueados = []) :
    (k.modificarMutex i fun m ↦ { m with asignadoAPid := poseedor }).Cuidado mano := by
  refine h.conMutexes ?_ ?_ fun q hq hespera ↦ ?_
  · exact h.unLugar.modificarMutex i _ fun _ _ ↦ Nat.le_refl _
  · refine ListModify.forall_mem_modify h.poseedores i _ (fun m' _ _ q hq hfuera ↦ ?_) fun _ ↦ id
    exact absurd (hposeedor q hq) hfuera
  · refine ListModify.exists_mem_modify (hespera.resolve_left hq) i _ (fun m' hm' hq' ↦ ?_) fun _ ↦ id
    obtain rfl := Option.some.inj (hm.symm.trans hm')
    obtain ⟨hcola, q', hq', _⟩ := hq'
    rcases hnadie with hlibre | hvacia
    · rw [hlibre] at hq'
      cases hq'
    · rw [hvacia] at hcola
      cases hcola

theorem Cuidado.notificarEspera (h : k.Cuidado mano) (pid : Pid) :
    (k.notificarEspera pid).Cuidado mano := by
  have hepoch := h.modificarPcb pid (fun p ↦ { p with blockEpoch := p.blockEpoch + 1 }) (.inl rfl) rfl
    fun hvalidas hniveles ↦ (hvalidas hniveles).2
  apply hepoch.salvoReloj
  unfold KernelScheduler.notificarEspera notificarProcesoEnBlock
  simp only
  split <;> exact Eq.refl _

/-- A process joins the queue of a mutex that somebody holds, perhaps itself. -/
theorem Cuidado.esperarMutex (h : k.Cuidado [pid]) {i : ℕ} {m : MutexSistema} {poseedor : Pid}
    (hm : k.listaMutexes[i]? = some m) (hposee : m.asignadoAPid = some poseedor) :
    (k.esperarMutex pid i).Cuidado [] := by
  have hun := h.unLugar.esperarMutex i
  have hblock := h.modificarPcb pid (fun p ↦ { p with estado := .block, mutexEsperando := some i })
    (.inr ⟨List.mem_cons_self, .inr (.inr rfl)⟩) rfl fun hvalidas hniveles ↦ (hvalidas hniveles).2
  have hvivos : ∀ m ∈ k.listaMutexes, ∀ q ∈ m.asignadoAPid,
      ((k.modificarPcb pid fun p ↦ { p with
        estado := .block, mutexEsperando := some i }).pcbs q).estado ≠ .exitState := by
    intro m hm q hq
    by_cases hpid : q = pid
    · rw [hpid, pcbs_modificarPcb_mismo]
      nofun
    · exact hblock.poseedores m hm q hq fun hmem ↦ hpid (List.mem_singleton.mp hmem)
  unfold KernelScheduler.esperarMutex at hun ⊢
  refine hblock.conMutexes hun ?_ fun q _ hespera ↦ ?_
  · exact ListModify.forall_mem_modify (fun m hm q hq _ ↦ hvivos m hm q hq) i _ (fun _ _ ↦ id) fun _ ↦ id
  · rcases hespera with hpid | hespera
    · obtain rfl := List.mem_singleton.mp hpid
      refine ⟨{ m with colaBloqueados := m.colaBloqueados ++ [q] }, ?_,
        List.mem_append_right _ List.mem_cons_self, poseedor, hposee,
        hvivos m (List.mem_of_getElem? hm) poseedor hposee⟩
      refine List.mem_of_getElem? (i := i) ?_
      show (k.listaMutexes.modify i _)[i]? = _
      simp [hm]
    · refine ListModify.exists_mem_modify hespera i _ (fun m' _ hq ↦ ?_) fun _ ↦ id
      exact ⟨List.mem_append_left _ hq.1, hq.2⟩

/-- A mutex passes to the first process of its queue, which goes to READY. -/
theorem Cuidado.asignarASiguiente (h : k.Cuidado mano) {i : ℕ} {m : MutexSistema} {siguiente : Pid}
    {resto : List Pid} (hm : k.listaMutexes[i]? = some m)
    (hcola : m.colaBloqueados = siguiente :: resto) : (k.asignarASiguiente i siguiente).Cuidado mano := by
  have hprimero : siguiente ∈ m.colaBloqueados := by
    rw [hcola]
    exact List.mem_cons_self
  have hvivo := (h.bloqueado (List.mem_of_getElem? hm) hprimero).2.2
  have hpasado : (k.modificarMutex i fun m ↦ { m with
      asignadoAPid := some siguiente
      colaBloqueados := m.colaBloqueados.tail }).Cuidado (siguiente :: mano) := by
    refine h.conMutexes (h.unLugar.sacarDeMutex hm hcola) ?_ fun q hq hespera ↦ ?_
    · refine ListModify.forall_mem_modify h.poseedores i _ (fun _ _ _ q hq hfuera ↦ ?_)
        fun m' hm' q hq hfuera ↦ hm' q hq (List.not_mem_of_not_mem_cons hfuera)
      obtain rfl := Option.some.inj hq
      exact absurd List.mem_cons_self hfuera
    · refine ListModify.exists_mem_modify (hespera.resolve_left (List.not_mem_of_not_mem_cons hq)) i _
        (fun m' hm' hq' ↦ ?_) fun _ ↦ id
      obtain rfl := Option.some.inj (hm.symm.trans hm')
      have hresto := hq'.1
      rw [hcola] at hresto
      refine ⟨?_, siguiente, rfl, hvivo⟩
      show q ∈ m.colaBloqueados.tail
      rw [hcola]
      exact (List.mem_cons.mp hresto).resolve_left fun hpid ↦ hq (hpid ▸ List.mem_cons_self)
  apply Cuidado.encolar
  exact hpasado.modificarPcb siguiente _ (.inr ⟨List.mem_cons_self, .inl rfl⟩) rfl
    fun hvalidas hniveles ↦ (hvalidas hniveles).2

/-- A process in hand comes to its end; nobody waited for its mutexes. -/
theorem Cuidado.finalizado (h : k.Cuidado [pid]) (hsin : ∀ m ∈ k.listaMutexes, m.SinDisputa pid)
    {suspendidos : List Pid} (hsuspendidos : ∀ q, q ≠ pid → q ∈ k.listaSuspendidos → q ∈ suspendidos) :
    { k.cambiarEstado pid .exitState with
      listaMutexes := k.listaMutexes.map (MutexSistema.liberado pid)
      listaSuspendidos := suspendidos }.Cuidado [] := by
  have hpcb : ∀ q, q ≠ pid → (k.cambiarEstado pid .exitState).pcbs q = k.pcbs q := by
    intro q hq
    unfold KernelScheduler.cambiarEstado
    rw [pcbs_modificarPcb, if_neg hq]
  have hfin : ((k.cambiarEstado pid .exitState).pcbs pid).estado = .exitState := by
    unfold KernelScheduler.cambiarEstado
    rw [pcbs_modificarPcb_mismo]
  have hun : { k.cambiarEstado pid .exitState with
      listaMutexes := k.listaMutexes.map (MutexSistema.liberado pid) }.EnUnLugar [] :=
    (conserva_liberarMutexes pid).ok h.unLugar.finalizar (liberarMutexesDeProceso_sinDisputa h.libre hsin)
  refine ⟨h.libre, hun, fun q hq ↦ ?_, fun q hq ↦ ?_, fun m hm q hposee _ ↦ ?_, fun q hq ↦ ?_,
    h.cpusLibres, h.primeras, fun q _ hvig ↦ ?_⟩
  · by_cases hpid : q = pid
    · rw [hpid, hfin] at hq
      cases hq
    · rw [hpcb q hpid] at hq
      exact h.nuevos q hq
  · unfold PrioridadesValidas
    by_cases hpid : q = pid
    · subst hpid
      have hvalidas := h.validos q (.inl (h.iniciado List.mem_cons_self))
      unfold KernelScheduler.cambiarEstado
      rw [pcbs_modificarPcb_mismo]
      exact hvalidas
    · rw [hpcb q hpid] at hq ⊢
      exact h.validos q hq
  · obtain ⟨m', hm', rfl⟩ := List.mem_map.mp hm
    unfold MutexSistema.liberado at hposee
    split at hposee
    · cases hposee
    · rename_i hotro
      have hpid : q ≠ pid := by
        rintro rfl
        exact hotro hposee
      rw [hpcb q hpid]
      exact h.poseedores m' hm' q hposee fun hmem ↦ hpid (List.mem_singleton.mp hmem)
  · by_cases hpid : q = pid
    · rw [hpid, hfin] at hq
      rcases hq with hq | hq <;> cases hq
    · rw [hpcb q hpid] at hq
      exact hsuspendidos q hpid (h.suspendidos q hq)
  · have hpid : q ≠ pid := by
      rintro rfl
      exact hvig.2 hfin
    have hvigente : k.Vigente q := by
      refine ⟨hvig.1, ?_⟩
      have hno := hvig.2
      rwa [hpcb q hpid] at hno
    cases h.progresan q (fun hmem ↦ hpid (List.mem_singleton.mp hmem)) hvigente with
    | enNew h => exact .enNew h
    | enReady h => exact .enReady h
    | enCola h => exact .enCola h
    | enCpu h => exact .enCpu h
    | enBlock h h' => exact .enBlock h h'
    | enMutex hespera =>
      obtain ⟨m, hm, hcola, poseedor, hposee, hvivo⟩ := hespera
      have hajeno : poseedor ≠ pid := by
        rintro rfl
        rw [hsin m hm hposee] at hcola
        cases hcola
      have hotro : m.asignadoAPid ≠ some pid := by
        rw [hposee]
        exact fun higual ↦ hajeno (Option.some.inj higual)
      refine .enMutex ⟨m.liberado pid, List.mem_map_of_mem hm, ?_, poseedor, ?_, ?_⟩
      · rw [MutexSistema.liberado, if_neg hotro]
        exact List.mem_filter.mpr ⟨hcola, by simpa using hpid⟩
      · rw [MutexSistema.liberado, if_neg hotro]
        exact hposee
      · rw [hpcb poseedor hajeno]
        exact hvivo
    | enSuspReady hq h' =>
      refine .enSuspReady ?_ (hsuspendidos q hpid h')
      rw [hpcb q hpid]
      exact hq

/-! ## CPUs -/

/-- A change of the slots and the connections. -/
theorem Cuidado.conCpus (h : k.Cuidado mano) {cpus : List TCpu} {receptores : List Receptor}
    (hun : { k with cpus := cpus, receptores := receptores }.EnUnLugar mano')
    (hlibres : ∀ c ∈ cpus, c.disponible → c.procesoActual = none)
    (hprimeras : ∀ cpuId c socket, buscarCpu cpus cpuId = some c → c.socket = some socket →
      ⟨socket, cpuId⟩ ∈ receptores)
    (hvivos : ∀ q ∈ mano, q ∉ mano' → (k.pcbs q).estado ≠ .exitState)
    (hsiguen : ∀ q, q ∉ mano' →
      q ∈ mano ∨ (∃ c ∈ k.cpus, c.procesoActual = some q ∧ k.SocketAbierto c) →
      ∃ c ∈ cpus, c.procesoActual = some q ∧ ∃ r ∈ receptores, c.socket = some r.socket) :
    { k with cpus := cpus, receptores := receptores }.Cuidado mano' := by
  refine ⟨h.libre, hun, h.nuevos, h.validos, fun m hm q hposee hq ↦ ?_, h.suspendidos, hlibres,
    hprimeras, fun q hq hvig ↦ ?_⟩
  · by_cases hmano : q ∈ mano
    · exact hvivos q hmano hq
    · exact h.poseedores m hm q hposee hmano
  by_cases hmano : q ∈ mano
  · exact .enCpu (hsiguen q hq (.inl hmano))
  · cases h.progresan q hmano hvig with
    | enNew h => exact .enNew h
    | enReady h => exact .enReady h
    | enCola h => exact .enCola h
    | enCpu h => exact .enCpu (hsiguen q hq (.inr h))
    | enBlock h h' => exact .enBlock h h'
    | enMutex h => exact .enMutex h
    | enSuspReady h h' => exact .enSuspReady h h'

/-- A change of one slot that keeps its id and its socket. -/
theorem Cuidado.modificarSlot (h : k.Cuidado mano) (i : ℕ) (f : TCpu → TCpu)
    (hun : { k with cpus := k.cpus.modify i f }.EnUnLugar mano')
    (hid : ∀ c, (f c).cpuId = c.cpuId) (hsocket : ∀ c, (f c).socket = c.socket)
    (hlibre : ∀ c, k.cpus[i]? = some c → (f c).disponible → (f c).procesoActual = none)
    (hvivos : ∀ q ∈ mano, q ∉ mano' → (k.pcbs q).estado ≠ .exitState)
    (hsigue : ∀ c q, k.cpus[i]? = some c → q ∉ mano' → c.procesoActual = some q →
      (f c).procesoActual = some q)
    (hpuesto : ∀ q ∈ mano, q ∉ mano' →
      ∃ c, k.cpus[i]? = some c ∧ (f c).procesoActual = some q ∧ k.SocketAbierto c) :
    { k with cpus := k.cpus.modify i f }.Cuidado mano' := by
  refine h.conCpus hun ?_ (fun cpuId c socket hc hs ↦ ?_) hvivos fun q hq hantes ↦ ?_
  · exact ListModify.forall_mem_modify h.cpusLibres i f (fun c hc _ ↦ hlibre c hc) fun _ ↦ id
  · obtain ⟨c', hc', hcambio⟩ := buscarCpu_modify hid hc
    refine h.primeras cpuId c' socket hc' ?_
    rcases hcambio with rfl | rfl
    · exact hs
    · rw [← hsocket, hs]
  · rcases hantes with hmano | hcpu
    · obtain ⟨c, hc, hactual, r, hr, habierto⟩ := hpuesto q hmano hq
      refine ⟨f c, List.mem_of_getElem? (i := i) ?_, hactual, r, hr, ?_⟩
      · simp [hc]
      · rw [hsocket, habierto]
    · refine ListModify.exists_mem_modify hcpu i f (fun c hc hq' ↦ ?_) fun _ ↦ id
      refine ⟨hsigue c q hc hq hq'.1, ?_⟩
      rw [hsocket]
      exact hq'.2

/-- What is taken from the slot of a connection is in hand. -/
theorem Cuidado.vaciarSlot (h : k.Cuidado []) (cpuId : ℕ) (f : TCpu → TCpu)
    (hid : ∀ c, (f c).cpuId = c.cpuId) (hsocket : ∀ c, (f c).socket = c.socket)
    (hvacio : ∀ c, (f c).procesoActual = none) :
    { k with cpus := modificarCpu k.cpus cpuId f }.Cuidado
      ((buscarCpu k.cpus cpuId).bind TCpu.procesoActual).toList := by
  have hun : { k with cpus := modificarCpu k.cpus cpuId f }.EnUnLugar
      ((buscarCpu k.cpus cpuId).bind TCpu.procesoActual).toList :=
    h.unLugar.conCpus fun q ↦ Nat.le_of_eq (count_vaciar k.cpus cpuId f hvacio q)
  rcases modificarCpu_cases k.cpus cpuId with ⟨hno, hmodificar⟩ | ⟨i, c, hi, hc, hmodificar⟩
  · rw [hmodificar, hno]
    exact h
  · rw [hmodificar] at hun ⊢
    refine h.modificarSlot i f hun hid hsocket (fun c _ _ ↦ hvacio c)
      (fun q hq _ ↦ absurd hq List.not_mem_nil) (fun c' q hc' hq hactual ↦ ?_)
      fun q hq _ ↦ absurd hq List.not_mem_nil
    obtain rfl := Option.some.inj (hi.symm.trans hc')
    rw [hc, Option.bind_some, hactual] at hq
    exact absurd List.mem_cons_self hq

/-- A change of the slot of a connection that leaves its process alone. -/
theorem Cuidado.modificarCpu (h : k.Cuidado mano) (cpuId : ℕ) (f : TCpu → TCpu)
    (hid : ∀ c, (f c).cpuId = c.cpuId) (hsocket : ∀ c, (f c).socket = c.socket)
    (hactual : ∀ c, (f c).procesoActual = c.procesoActual)
    (hlibre : ∀ c, buscarCpu k.cpus cpuId = some c → (f c).disponible → c.procesoActual = none) :
    { k with cpus := Planificador.modificarCpu k.cpus cpuId f }.Cuidado mano := by
  have hun := h.unLugar.modificarCpu cpuId f hactual
  rcases modificarCpu_cases k.cpus cpuId with ⟨_, hmodificar⟩ | ⟨i, c, hi, hc, hmodificar⟩
  · rw [hmodificar]
    exact h
  · rw [hmodificar] at hun ⊢
    refine h.modificarSlot i f hun hid hsocket (fun c' hc' hdisponible ↦ ?_)
      (fun q hq hno ↦ absurd hq hno) (fun c' q _ _ hq ↦ (hactual c').trans hq)
      fun q hq hno ↦ absurd hq hno
    obtain rfl := Option.some.inj (hi.symm.trans hc')
    exact (hactual c).trans (hlibre c hc hdisponible)

theorem Cuidado.liberarReservada (h : k.Cuidado mano) {cpuId : ℕ}
    (hvacia : ∀ c, buscarCpu k.cpus cpuId = some c → c.procesoActual = none) :
    (k.liberarReservada cpuId).Cuidado mano := by
  have hcpu := h.modificarCpu cpuId (fun c ↦ { c with disponible := true }) (fun _ ↦ Eq.refl _)
    (fun _ ↦ Eq.refl _) (fun _ ↦ Eq.refl _) fun c hc _ ↦ hvacia c hc
  exact hcpu.salvoReloj (Eq.refl _)

theorem Cuidado.arrancarQuantum (h : k.Cuidado mano) (cpuId : ℕ) (pid : Pid) :
    (k.arrancarQuantum cpuId pid).Cuidado mano := by
  have hcpu := h.modificarCpu cpuId (fun c ↦ { c with timerActivo := true, timerPid := pid })
    (fun _ ↦ Eq.refl _) (fun _ ↦ Eq.refl _) (fun _ ↦ Eq.refl _)
    fun c hc ↦ h.cpusLibres c (buscarCpu_mem hc)
  exact hcpu.salvoReloj (Eq.refl _)

/-- A process whose syscall has left its slot reserved goes back there, or to READY when the CPU is
gone. -/
theorem Cuidado.devolverOReplanificar (h : k.Cuidado [pid]) {cpuId : ℕ}
    (hvivo : (k.pcbs pid).estado ≠ .exitState)
    (hreservada : ∀ c, buscarCpu k.cpus cpuId = some c → c.disponible = false ∧ c.procesoActual = none) :
    (k.devolverOReplanificar cpuId pid).Cuidado [] := by
  have hun := h.unLugar.devolverAMisma cpuId
  unfold KernelScheduler.devolverOReplanificar devolverProcesoAMismaCpu
  cases hsocket : (buscarCpu k.cpus cpuId).bind TCpu.socket with
  | none => exact h.encolar
  | some socket =>
    obtain ⟨c, hc, hs⟩ := Option.bind_eq_some_iff.mp hsocket
    have hcpu : { k with cpus := Planificador.modificarCpu k.cpus cpuId fun c ↦
        { c with procesoActual := some pid } }.Cuidado [] := by
      rcases modificarCpu_cases k.cpus cpuId with ⟨hno, _⟩ | ⟨i, c', hi, hc', hmodificar⟩
      · rw [hno] at hc
        cases hc
      obtain rfl := Option.some.inj (hc.symm.trans hc')
      rw [hmodificar] at hun ⊢
      refine h.modificarSlot i (fun c ↦ { c with procesoActual := some pid }) hun (fun _ ↦ Eq.refl _)
        (fun _ ↦ Eq.refl _) (fun c' hc' hdisponible ↦ ?_) (fun q hq _ ↦ ?_) (fun c' q hc' _ hq ↦ ?_)
        fun q hq _ ↦ ?_
      · obtain rfl := Option.some.inj (hi.symm.trans hc')
        rw [(hreservada c hc).1] at hdisponible
        cases hdisponible
      · rwa [List.mem_singleton.mp hq]
      · obtain rfl := Option.some.inj (hi.symm.trans hc')
        rw [(hreservada c hc).2] at hq
        cases hq
      · obtain rfl := List.mem_singleton.mp hq
        exact ⟨c, hi, Eq.refl _, ⟨socket, cpuId⟩, h.primeras cpuId c socket hc hs, hs⟩
    have henviado : ({ k with cpus := Planificador.modificarCpu k.cpus cpuId fun c ↦
        { c with procesoActual := some pid } }.enviarPid socket pid).Cuidado [] :=
      hcpu.salvoReloj (Eq.refl _)
    simp only
    split
    · exact henviado.arrancarQuantum cpuId pid
    · exact henviado

/-- A process in hand goes to the free CPU that was picked, which is connected. -/
theorem Cuidado.elegirCpu (h : k.Cuidado (pid :: mano)) (hvivo : (k.pcbs pid).estado ≠ .exitState)
    {cpu : TCpu} {cpus : List TCpu} (helegir : Planificador.elegirCpu k.cpus pid = (some cpu, cpus))
    (habierto : k.SocketAbierto cpu) : { k with cpus := cpus }.Cuidado mano := by
  have hun := h.unLugar.elegirCpu helegir (Option.some_ne_none cpu)
  unfold Planificador.elegirCpu at helegir
  split at helegir
  · cases helegir
  rename_i i hi
  obtain ⟨hcpu, rfl⟩ := Prod.mk.inj helegir
  obtain ⟨hlt, hlibre, _⟩ := List.findIdx?_eq_some_iff_getElem.mp hi
  have hvacia : ∀ c, k.cpus[i]? = some c → c.procesoActual = none := by
    intro c hc
    obtain rfl := Option.some.inj ((List.getElem?_eq_getElem hlt).symm.trans hc)
    exact h.cpusLibres _ (List.getElem_mem hlt) (of_decide_eq_true hlibre).1
  refine h.modificarSlot i (fun c ↦ { c with disponible := false, procesoActual := some pid }) hun
    (fun _ ↦ Eq.refl _) (fun _ ↦ Eq.refl _) (fun c _ hdisponible ↦ ?_) (fun q hq hfuera ↦ ?_)
    (fun c q hc _ hq ↦ ?_) fun q hq hfuera ↦ ?_
  · cases hdisponible
  · rwa [(List.mem_cons.mp hq).resolve_right hfuera]
  · rw [hvacia c hc] at hq
    cases hq
  · obtain rfl := (List.mem_cons.mp hq).resolve_right hfuera
    exact ⟨cpu, hcpu, Eq.refl _, habierto⟩

theorem Cuidado.conectarCpu (h : k.Cuidado []) (socket : Socket) (cpuId : ℕ) :
    (k.conectarCpu socket cpuId).Cuidado [] := by
  have hcpus : { k with
      cpus := agregarCpu k.cpus socket cpuId
      receptores := k.receptores ++ [(⟨socket, cpuId⟩ : Receptor)] }.Cuidado [] := by
    have hsube : ∀ c ∈ agregarCpu k.cpus socket cpuId, c ∈ k.cpus ∨
        c = (⟨some socket, cpuId, true, none, false, 0⟩ : TCpu) := by
      intro c hc
      unfold agregarCpu at hc
      split at hc
      · exact (List.mem_append.mp hc).imp id List.mem_singleton.mp
      · exact .inl hc
    have hqueda : ∀ c ∈ k.cpus, c ∈ agregarCpu k.cpus socket cpuId := by
      intro c hc
      unfold agregarCpu
      split
      · exact List.mem_append_left _ hc
      · exact hc
    refine h.conCpus ?_ (fun c hc hdisponible ↦ ?_) (fun id c s hc hs ↦ ?_)
      (fun q hq ↦ absurd hq List.not_mem_nil) fun q _ hantes ↦ ?_
    · exact h.unLugar.agregarCpu socket cpuId
    · rcases hsube c hc with hc | rfl
      · exact h.cpusLibres c hc hdisponible
      · rfl
    · rcases buscarCpu_agregarCpu hc with hc | ⟨rfl, rfl⟩
      · exact List.mem_append_left _ (h.primeras id c s hc hs)
      · obtain rfl := Option.some.inj hs
        exact List.mem_append_right _ List.mem_cons_self
    · obtain ⟨c, hc, hactual, r, hr, habierto⟩ := hantes.resolve_left List.not_mem_nil
      exact ⟨c, hqueda c hc, hactual, r, List.mem_append_left _ hr, habierto⟩
  unfold KernelScheduler.conectarCpu
  simp only
  split <;> exact hcpus.salvoReloj (Eq.refl _)

/-- No process runs behind the connection that closes. -/
theorem Cuidado.desconectarCpu (h : k.Cuidado []) {r : Receptor}
    (hnadie : ∀ c ∈ k.cpus, c.socket = some r.socket ∨ buscarCpu k.cpus r.cpuId = some c →
      c.procesoActual = none) : (k.desconectarCpu r).Cuidado [] := by
  have hun : (k.desconectarCpu r).EnUnLugar [] := h.unLugar.modificarCpu r.cpuId _ fun _ ↦ Eq.refl _
  refine h.conCpus hun (fun c hc hdisponible ↦ ?_) (fun id c s hc hs ↦ ?_)
    (fun q hq ↦ absurd hq List.not_mem_nil) fun q _ hantes ↦ ?_
  · unfold marcarCpuDesconectada at hc
    rcases modificarCpu_cases k.cpus r.cpuId with ⟨_, hmodificar⟩ | ⟨i, _, _, _, hmodificar⟩
    · rw [hmodificar] at hc
      exact h.cpusLibres c hc hdisponible
    · rw [hmodificar] at hc
      exact ListModify.forall_mem_modify h.cpusLibres i _ (fun _ _ ↦ id) (fun _ ↦ id) c hc hdisponible
  · unfold marcarCpuDesconectada at hc
    by_cases hid : id = r.cpuId
    · subst hid
      have hmismo := buscarCpu_modificarCpu_mismo (f := fun c ↦ { c with socket := none }) k.cpus
        r.cpuId fun _ ↦ Eq.refl _
      obtain ⟨c', _, rfl⟩ := Option.map_eq_some_iff.mp (hmismo.symm.trans hc)
      cases hs
    · have hotro := buscarCpu_modificarCpu_otro (f := fun c ↦ { c with socket := none }) k.cpus hid
        fun _ ↦ Eq.refl _
      replace hc := hotro.symm.trans hc
      refine (List.mem_erase_of_ne ?_).mpr (h.primeras id c s hc hs)
      rintro rfl
      exact hid (Eq.refl _)
  · obtain ⟨c, hc, hactual, r', hr', habierto⟩ := hantes.resolve_left List.not_mem_nil
    have hocupada : ¬ (c.socket = some r.socket ∨ buscarCpu k.cpus r.cpuId = some c) := by
      intro hcerrada
      rw [hnadie c hc hcerrada] at hactual
      cases hactual
    obtain ⟨hsocket, hprimera⟩ := not_or.mp hocupada
    refine ⟨c, ?_, hactual, r', (List.mem_erase_of_ne ?_).mpr hr', habierto⟩
    · unfold marcarCpuDesconectada
      rcases modificarCpu_cases k.cpus r.cpuId with ⟨_, hmodificar⟩ | ⟨i, c', hi, hc', hmodificar⟩
      · rw [hmodificar]
        exact hc
      · rw [hmodificar]
        obtain ⟨j, hj⟩ := List.getElem?_of_mem hc
        refine List.mem_of_getElem? (i := j) ?_
        have hij : i ≠ j := by
          rintro rfl
          obtain rfl := Option.some.inj (hi.symm.trans hj)
          exact hprimera hc'
        simp [hij, hj]
    · rintro rfl
      exact hsocket habierto

theorem Cuidado.vencerTimerQuantum (h : k.Cuidado mano) (t : TimerQuantum) :
    (k.vencerTimerQuantum t).Cuidado mano := by
  have hcpus : { k with cpus := (vencerQuantum k.cpus t.cpuId t.pid).2 }.Cuidado mano := by
    have hun := h.unLugar.vencido t
    unfold vencerQuantum at hun ⊢
    split at hun
    · exact h
    · rename_i i _
      refine h.modificarSlot i _ hun (fun _ ↦ Eq.refl _) (fun _ ↦ Eq.refl _)
        (fun c hc ↦ h.cpusLibres c (List.mem_of_getElem? hc)) (fun q hq hno ↦ absurd hq hno)
        (fun _ _ _ _ ↦ id) fun q hq hno ↦ absurd hq hno
  unfold KernelScheduler.vencerTimerQuantum
  simp only
  cases (vencerQuantum k.cpus t.cpuId t.pid).1.bind TCpu.socket with
  | none => exact hcpus.salvoReloj (Eq.refl _)
  | some socket => exact hcpus.salvoReloj (Eq.refl _)

end KernelScheduler

end PlugAndPlay.Planificador
