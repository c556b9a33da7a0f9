import PlugAndPlay.Planificador.SinPerdidos

/-!
# Where the state of a process says that it is

The state of a PCB names the queues or the slots where the process has to be. Every change that a handler
makes keeps each process exactly once there, apart from the processes in hand and the one that the
short-term planner has sent to a CPU without marking it yet.
-/

open PlugAndPlay.Library

namespace PlugAndPlay.Planificador

/-- The NEW queue, the READY queues, the CPUs, and BLOCK with the queues of the mutexes. -/
inductive Sitio
  | new | ready | cpu | block
deriving Repr, DecidableEq

def Estado.sitio : Estado → Option Sitio
  | .new => some .new
  | .ready => some .ready
  | .exec => some .cpu
  | .block | .suspBlock => some .block
  | .suspReady | .exitState => none

/-- What the planner still has to do for the process that it has sent: `rr` says that a timer starts. -/
structure DespachoPendiente where
  pid : Pid
  cpuId : ℕ
  quantum : UInt32
  rr : Bool
deriving Repr, DecidableEq

def enviado (d : Option DespachoPendiente) : Option Pid := d.map DespachoPendiente.pid

namespace KernelScheduler

variable {k k' : KernelScheduler} {pid q : Pid} {mano mano' : List Pid} {d d' : Option DespachoPendiente} {s : Sitio}

def en (k : KernelScheduler) : Sitio → List Pid
  | .new => k.colaProcesosNew
  | .ready => k.colaProcesosReady ++ k.colasReadyPorPrioridad.flatten
  | .cpu => k.cpus.flatMap enCpu
  | .block => k.colaProcesosBlock ++ k.listaMutexes.flatMap MutexSistema.colaBloqueados

/-- The PCB of the process has not been freed. One that leaves NEW with a priority that has no queue is
freed at once. -/
def Existe (k : KernelScheduler) (pid : Pid) : Prop :=
  k.Vigente pid ∧ ((k.pcbs pid).estado ≠ .new → 0 < k.cantidadNivelesPrioridad →
    k.NivelValido (k.pcbs pid).prioridad)

instance (k : KernelScheduler) : DecidablePred k.Existe := fun _ ↦ inferInstanceAs (Decidable (_ ∧ _))

/-- The place that goes with the state; the process that the planner has sent is on a CPU. -/
def sitioDe (k : KernelScheduler) (d : Option DespachoPendiente) (pid : Pid) : Option Sitio :=
  if enviado d = some pid then some .cpu else (k.pcbs pid).estado.sitio

def donde (k : KernelScheduler) (d : Option DespachoPendiente) (mano : List Pid) (pid : Pid) : Option Sitio :=
  if k.Existe pid ∧ pid ∉ mano then k.sitioDe d pid else none

/-- A slot with a process is taken, and its timer is armed for that process only. -/
def SlotCierto (c : TCpu) : Prop :=
  (c.procesoActual.isSome → c.disponible = false) ∧ (c.timerActivo → c.procesoActual = some c.timerPid)

/-- The slots, with the one for which the planner is about to arm a timer. -/
structure SlotsCiertos (d : Option DespachoPendiente) (cpus : List TCpu) : Prop where
  ciertos : ∀ c ∈ cpus, SlotCierto c
  suyo : ∀ p ∈ d, p.rr → (buscarCpu cpus p.cpuId).bind TCpu.procesoActual = some p.pid

/-- The invariant, with some processes in hand and the one that the planner has sent. -/
structure Ubicado (k : KernelScheduler) (d : Option DespachoPendiente) (mano : List Pid) : Prop where
  sitios : ∀ s q, (k.en s).count q = if k.donde d mano q = some s then 1 else 0
  distintos : mano.Nodup
  existen : ∀ q ∈ mano, k.Existe q ∧ (k.pcbs q).estado ≠ .new
  despacho : ∀ q ∈ enviado d, q ∉ mano ∧ k.Existe q ∧ (k.pcbs q).estado = .ready
  suspendidos : ∀ q, (k.pcbs q).estado = .suspReady → k.Existe q
  dinamicas : ∀ q, k.NivelValido (k.pcbs q).prioridad → k.NivelValido (k.pcbs q).prioridadDinamica
  slots : SlotsCiertos d k.cpus

/-! ## Places -/

theorem existe_congr (hcontador : k'.contadorPids = k.contadorPids)
    (hniveles : k'.cantidadNivelesPrioridad = k.cantidadNivelesPrioridad) (hpcb : k'.pcbs q = k.pcbs q) :
    k'.Existe q ↔ k.Existe q := by
  unfold Existe Vigente NivelValido
  rw [hcontador, hniveles, hpcb]

theorem donde_congr (hcontador : k'.contadorPids = k.contadorPids)
    (hniveles : k'.cantidadNivelesPrioridad = k.cantidadNivelesPrioridad) (hpcb : k'.pcbs q = k.pcbs q)
    (hd : enviado d' = some q ↔ enviado d = some q) (hmano : q ∈ mano' ↔ q ∈ mano) :
    k'.donde d' mano' q = k.donde d mano q := by
  have hexiste := existe_congr hcontador hniveles hpcb
  have hsitio : k'.sitioDe d' q = k.sitioDe d q := by
    unfold sitioDe
    rw [hpcb, if_congr hd rfl rfl]
  unfold donde
  rw [hsitio, if_congr (and_congr hexiste hmano.not) rfl rfl]

theorem donde_mano (h : pid ∈ mano) : k.donde d mano pid = none := by
  unfold donde
  apply if_neg
  intro hno
  exact hno.2 h

theorem donde_fuera (hexiste : k.Existe pid) (hfuera : pid ∉ mano) :
    k.donde d mano pid = k.sitioDe d pid := by
  unfold donde
  rw [if_pos ⟨hexiste, hfuera⟩]

theorem Ubicado.sinDespacho (h : k.Ubicado d mano) (hpid : pid ∈ mano) : enviado d ≠ some pid := by
  intro hd
  exact (h.despacho pid hd).1 hpid

/-- What is in a place belongs there. -/
theorem Ubicado.donde_en (h : k.Ubicado d mano) (hpid : pid ∈ k.en s) : k.donde d mano pid = some s := by
  by_contra hno
  have hcuenta := h.sitios s pid
  rw [if_neg hno, List.count_eq_zero] at hcuenta
  exact hcuenta hpid

theorem Ubicado.existe_en (h : k.Ubicado d mano) (hpid : pid ∈ k.en s) :
    k.Existe pid ∧ pid ∉ mano ∧ k.sitioDe d pid = some s := by
  have hdonde := h.donde_en hpid
  unfold donde at hdonde
  split at hdonde
  · rename_i hexiste
    exact ⟨hexiste.1, hexiste.2, hdonde⟩
  · cases hdonde

/-- One process changes, in its PCB, its place or the hand. -/
theorem Ubicado.mover (h : k.Ubicado d mano) (pid : Pid) (hcontador : k'.contadorPids = k.contadorPids)
    (hniveles : k'.cantidadNivelesPrioridad = k.cantidadNivelesPrioridad)
    (hpcbs : ∀ q, q ≠ pid → k'.pcbs q = k.pcbs q) (hmano : ∀ q, q ≠ pid → (q ∈ mano' ↔ q ∈ mano))
    (hd : ∀ q, q ≠ pid → (enviado d' = some q ↔ enviado d = some q))
    (hcuenta : ∀ s q, (k'.en s).count q + (if k.donde d mano pid = some s then [pid].count q else 0) =
      (k.en s).count q + if k'.donde d' mano' pid = some s then [pid].count q else 0)
    (hdistintos : mano'.Nodup) (hexiste : pid ∈ mano' → k'.Existe pid ∧ (k'.pcbs pid).estado ≠ .new)
    (hdespacho : enviado d' = some pid → pid ∉ mano' ∧ k'.Existe pid ∧ (k'.pcbs pid).estado = .ready)
    (hsuspendido : (k'.pcbs pid).estado = .suspReady → k'.Existe pid)
    (hdinamica : k'.NivelValido (k'.pcbs pid).prioridad → k'.NivelValido (k'.pcbs pid).prioridadDinamica)
    (hslots : SlotsCiertos d' k'.cpus) : k'.Ubicado d' mano' := by
  constructor
  · intro s q
    have hantes := h.sitios s q
    have hq := hcuenta s q
    by_cases hpid : q = pid
    · subst hpid
      rw [List.count_singleton_self] at hq
      omega
    · have hotro : [pid].count q = 0 := List.count_eq_zero.mpr fun hmem ↦ hpid (List.mem_singleton.mp hmem)
      rw [hotro, ite_self, ite_self] at hq
      rw [donde_congr hcontador hniveles (hpcbs q hpid) (hd q hpid) (hmano q hpid)]
      omega
  · exact hdistintos
  · intro q hq
    by_cases hpid : q = pid
    · rw [hpid] at hq ⊢
      exact hexiste hq
    · rw [existe_congr hcontador hniveles (hpcbs q hpid), hpcbs q hpid]
      exact h.existen q ((hmano q hpid).mp hq)
  · intro q hq
    by_cases hpid : q = pid
    · rw [hpid] at hq ⊢
      exact hdespacho hq
    · rw [existe_congr hcontador hniveles (hpcbs q hpid), hpcbs q hpid, hmano q hpid]
      exact h.despacho q ((hd q hpid).mp hq)
  · intro q hq
    by_cases hpid : q = pid
    · rw [hpid] at hq ⊢
      exact hsuspendido hq
    · rw [hpcbs q hpid] at hq
      rw [existe_congr hcontador hniveles (hpcbs q hpid)]
      exact h.suspendidos q hq
  · intro q hq
    by_cases hpid : q = pid
    · rw [hpid] at hq ⊢
      exact hdinamica hq
    · rw [hpcbs q hpid] at hq ⊢
      unfold NivelValido at hq ⊢
      rw [hniveles] at hq ⊢
      exact h.dinamicas q hq
  · exact hslots

/-- The fields that the invariant does not read may change. -/
theorem Ubicado.congr (h : k.Ubicado d mano) (hpcbs : k'.pcbs = k.pcbs)
    (hcontador : k'.contadorPids = k.contadorPids)
    (hniveles : k'.cantidadNivelesPrioridad = k.cantidadNivelesPrioridad)
    (hcuenta : ∀ s q, (k'.en s).count q = (k.en s).count q) (hslots : SlotsCiertos d k'.cpus) :
    k'.Ubicado d mano := by
  have hdonde : ∀ q, k'.donde d mano q = k.donde d mano q := fun q ↦
    donde_congr hcontador hniveles (congrFun hpcbs q) Iff.rfl Iff.rfl
  have hexiste : ∀ q, k'.Existe q ↔ k.Existe q := fun q ↦ existe_congr hcontador hniveles (congrFun hpcbs q)
  constructor
  · intro s q
    rw [hcuenta, hdonde]
    exact h.sitios s q
  · exact h.distintos
  · intro q hq
    rw [hexiste, hpcbs]
    exact h.existen q hq
  · intro q hq
    rw [hexiste, hpcbs]
    exact h.despacho q hq
  · intro q hq
    rw [hexiste]
    rw [hpcbs] at hq
    exact h.suspendidos q hq
  · unfold NivelValido
    rw [hniveles, hpcbs]
    exact h.dinamicas
  · exact hslots

/-- A process in hand goes to the place of its state. -/
theorem Ubicado.poner (h : k.Ubicado d (pid :: mano)) (hs : (k.pcbs pid).estado.sitio = some s)
    (hpcbs : k'.pcbs = k.pcbs) (hcontador : k'.contadorPids = k.contadorPids)
    (hniveles : k'.cantidadNivelesPrioridad = k.cantidadNivelesPrioridad)
    (hcuenta : ∀ t q, (k'.en t).count q = (k.en t).count q + if s = t then [pid].count q else 0)
    (hslots : SlotsCiertos d k'.cpus) : k'.Ubicado d mano := by
  have hfuera : pid ∉ mano := (List.nodup_cons.mp h.distintos).1
  have hexiste : k'.Existe pid := by
    rw [existe_congr hcontador hniveles (congrFun hpcbs pid)]
    exact (h.existen pid List.mem_cons_self).1
  have hd : enviado d ≠ some pid := h.sinDespacho List.mem_cons_self
  have hdestino : k'.donde d mano pid = some s := by
    rw [donde_fuera hexiste hfuera, sitioDe, if_neg hd, hpcbs, hs]
  refine h.mover pid hcontador hniveles (fun q _ ↦ congrFun hpcbs q) ?_ (fun q _ ↦ Iff.rfl) ?_
    (List.nodup_cons.mp h.distintos).2 (fun hno ↦ absurd hno hfuera) (fun hno ↦ absurd hno hd)
    (fun _ ↦ hexiste) ?_ hslots
  · intro q hq
    rw [List.mem_cons]
    exact ⟨.inr, fun hmem ↦ hmem.resolve_left hq⟩
  · intro t q
    rw [donde_mano List.mem_cons_self, hdestino, hcuenta t q]
    simp
  · unfold NivelValido
    rw [hniveles, hpcbs]
    exact h.dinamicas pid

/-- A process leaves its place into the hand. -/
theorem Ubicado.sacar (h : k.Ubicado d mano) (hpid : pid ∈ k.en s) (hnew : s ≠ .new) (hd : enviado d ≠ some pid)
    (hpcbs : k'.pcbs = k.pcbs) (hcontador : k'.contadorPids = k.contadorPids)
    (hniveles : k'.cantidadNivelesPrioridad = k.cantidadNivelesPrioridad)
    (hcuenta : ∀ t q, (k'.en t).count q + (if s = t then [pid].count q else 0) = (k.en t).count q)
    (hslots : SlotsCiertos d k'.cpus) : k'.Ubicado d (pid :: mano) := by
  have hantes := h.donde_en hpid
  obtain ⟨hexiste, hfuera, hsitio⟩ := h.existe_en hpid
  rw [sitioDe, if_neg hd] at hsitio
  have hexiste' := (existe_congr hcontador hniveles (congrFun hpcbs pid)).mpr hexiste
  refine h.mover pid hcontador hniveles (fun q _ ↦ congrFun hpcbs q) ?_ (fun q _ ↦ Iff.rfl) ?_
    (List.nodup_cons.mpr ⟨hfuera, h.distintos⟩) ?_ (fun hno ↦ absurd hno hd) (fun _ ↦ hexiste') ?_ hslots
  · intro q hq
    rw [List.mem_cons]
    exact ⟨fun hmem ↦ hmem.resolve_left hq, .inr⟩
  · intro t q
    rw [donde_mano List.mem_cons_self, hantes, ← hcuenta t q]
    simp
  · intro _
    rw [hpcbs]
    refine ⟨hexiste', fun hestado ↦ hnew ?_⟩
    rw [hestado] at hsitio
    exact (Option.some.inj hsitio).symm
  · unfold NivelValido
    rw [hniveles, hpcbs]
    exact h.dinamicas pid

/-! ## Changes of a PCB -/

/-- A change that keeps the state and `prioridad`. -/
theorem Ubicado.modificarPcb (h : k.Ubicado d mano) (pid : Pid) (f : Pcb → Pcb)
    (hestado : (f (k.pcbs pid)).estado = (k.pcbs pid).estado)
    (hprioridad : (f (k.pcbs pid)).prioridad = (k.pcbs pid).prioridad)
    (hdinamica : k.NivelValido (k.pcbs pid).prioridad → k.NivelValido (f (k.pcbs pid)).prioridadDinamica) :
    (k.modificarPcb pid f).Ubicado d mano := by
  have hexiste : (k.modificarPcb pid f).Existe pid ↔ k.Existe pid := by
    unfold Existe Vigente
    rw [pcbs_modificarPcb_mismo, hestado, hprioridad]
    exact Iff.rfl
  have hdonde : (k.modificarPcb pid f).donde d mano pid = k.donde d mano pid := by
    unfold donde sitioDe
    rw [pcbs_modificarPcb_mismo, hestado, if_congr (and_congr_left' hexiste) rfl rfl]
  refine h.mover pid rfl rfl ?_ (fun _ _ ↦ Iff.rfl) (fun _ _ ↦ Iff.rfl) ?_ h.distintos ?_ ?_ ?_ ?_ h.slots
  · intro q hq
    rw [pcbs_modificarPcb, if_neg hq]
  · intro s q
    rw [hdonde]
    rfl
  · intro hmem
    rw [hexiste, pcbs_modificarPcb_mismo, hestado]
    exact h.existen pid hmem
  · intro hmem
    rw [hexiste, pcbs_modificarPcb_mismo, hestado]
    exact h.despacho pid hmem
  · rw [hexiste, pcbs_modificarPcb_mismo, hestado]
    exact h.suspendidos pid
  · rw [pcbs_modificarPcb_mismo, hprioridad]
    exact hdinamica

/-- A process in hand goes to a state that is neither its first nor its last. -/
theorem Ubicado.conEstado (h : k.Ubicado d mano) (hpid : pid ∈ mano) (f : Pcb → Pcb)
    (hestado : (f (k.pcbs pid)).estado ≠ .new ∧ (f (k.pcbs pid)).estado ≠ .exitState)
    (hprioridad : (f (k.pcbs pid)).prioridad = (k.pcbs pid).prioridad)
    (hdinamica : (f (k.pcbs pid)).prioridadDinamica = (k.pcbs pid).prioridadDinamica) :
    (k.modificarPcb pid f).Ubicado d mano := by
  have hexiste : (k.modificarPcb pid f).Existe pid := by
    obtain ⟨⟨hvigente, hvalida⟩, hantes⟩ := h.existen pid hpid
    unfold Existe Vigente
    rw [pcbs_modificarPcb_mismo, hprioridad]
    exact ⟨⟨hvigente.1, hestado.2⟩, fun _ ↦ hvalida hantes⟩
  refine h.mover pid rfl rfl ?_ (fun _ _ ↦ Iff.rfl) (fun _ _ ↦ Iff.rfl) ?_ h.distintos ?_ ?_
    (fun _ ↦ hexiste) ?_ h.slots
  · intro q hq
    rw [pcbs_modificarPcb, if_neg hq]
  · intro s q
    rw [donde_mano hpid, donde_mano hpid]
    rfl
  · intro _
    rw [pcbs_modificarPcb_mismo]
    exact ⟨hexiste, hestado.1⟩
  · intro hd
    exact absurd hd (h.sinDespacho hpid)
  · rw [pcbs_modificarPcb_mismo, hprioridad, hdinamica]
    exact h.dinamicas pid

theorem Ubicado.cambiarEstado (h : k.Ubicado d mano) (hpid : pid ∈ mano) (estado : Estado)
    (hestado : estado ≠ .new ∧ estado ≠ .exitState) : (k.cambiarEstado pid estado).Ubicado d mano :=
  h.conEstado hpid _ hestado rfl rfl

/-- A process in hand goes to a state without a place: it is suspended or ends. -/
theorem Ubicado.retirar (h : k.Ubicado d (pid :: mano)) (f : Pcb → Pcb)
    (hsitio : (f (k.pcbs pid)).estado.sitio = none)
    (hprioridad : (f (k.pcbs pid)).prioridad = (k.pcbs pid).prioridad)
    (hdinamica : (f (k.pcbs pid)).prioridadDinamica = (k.pcbs pid).prioridadDinamica) :
    (k.modificarPcb pid f).Ubicado d mano := by
  have hfuera : pid ∉ mano := (List.nodup_cons.mp h.distintos).1
  have hd : enviado d ≠ some pid := h.sinDespacho List.mem_cons_self
  have hdonde : (k.modificarPcb pid f).donde d mano pid = none := by
    unfold donde sitioDe
    rw [if_neg hd, pcbs_modificarPcb_mismo, hsitio, ite_self]
  refine h.mover pid rfl rfl ?_ ?_ (fun _ _ ↦ Iff.rfl) ?_ (List.nodup_cons.mp h.distintos).2
    (fun hno ↦ absurd hno hfuera) (fun hno ↦ absurd hno hd) ?_ ?_ h.slots
  · intro q hq
    rw [pcbs_modificarPcb, if_neg hq]
  · intro q hq
    rw [List.mem_cons]
    exact ⟨.inr, fun hmem ↦ hmem.resolve_left hq⟩
  · intro s q
    rw [donde_mano List.mem_cons_self, hdonde]
    rfl
  · intro hsusp
    obtain ⟨⟨hvigente, hvalida⟩, hantes⟩ := h.existen pid List.mem_cons_self
    unfold Existe Vigente
    rw [hsusp, pcbs_modificarPcb_mismo, hprioridad]
    exact ⟨⟨hvigente.1, nofun⟩, fun _ ↦ hvalida hantes⟩
  · rw [pcbs_modificarPcb_mismo, hprioridad, hdinamica]
    exact h.dinamicas pid

/-- A process in SUSP_READY comes back into the hand. -/
theorem Ubicado.deSuspReady (h : k.Ubicado d mano) (hestado : (k.pcbs pid).estado = .suspReady)
    (hfuera : pid ∉ mano) : k.Ubicado d (pid :: mano) := by
  have hpid := h.suspendidos pid hestado
  have hd : enviado d ≠ some pid := by
    intro hd
    have hready := (h.despacho pid hd).2.2
    rw [hestado] at hready
    cases hready
  have hdonde : k.donde d mano pid = none := by
    rw [donde_fuera hpid hfuera, sitioDe, if_neg hd, hestado]
    rfl
  refine h.mover pid rfl rfl (fun _ _ ↦ rfl) ?_ (fun _ _ ↦ Iff.rfl) ?_
    (List.nodup_cons.mpr ⟨hfuera, h.distintos⟩) ?_ (fun hno ↦ absurd hno hd) (h.suspendidos pid)
    (h.dinamicas pid) h.slots
  · intro q hq
    rw [List.mem_cons]
    exact ⟨fun hmem ↦ hmem.resolve_left hq, .inr⟩
  · intro s q
    rw [donde_mano List.mem_cons_self, hdonde]
  · intro _
    rw [hestado]
    exact ⟨hpid, nofun⟩

/-! ## READY queues -/

theorem count_ready_modificarCola {prioridad : ℤ} {cola : List Pid}
    (hcola : k.colasReadyPorPrioridad[prioridad.toNat]? = some cola) (f : List Pid → List Pid) (q : Pid) :
    ((k.modificarCola prioridad f).en .ready).count q + cola.count q =
      (k.en .ready).count q + (f cola).count q := by
  have hcount := ListModify.count_flatMap_modify hcola id f q
  rw [List.flatMap_id, List.flatMap_id] at hcount
  simp only [en, modificarCola, List.count_append, id_eq] at hcount ⊢
  omega

/-- A process in hand that is READY goes into the queue of a level. -/
theorem Ubicado.enCola (h : k.Ubicado d (pid :: mano)) {prioridad : ℤ} (hvalida : k.NivelValido prioridad)
    (hestado : (k.pcbs pid).estado = .ready) (f : List Pid → List Pid)
    (hf : ∀ cola q, (f cola).count q = cola.count q + [pid].count q) :
    (k.modificarCola prioridad f).Ubicado d mano := by
  have hcola := List.getElem?_eq_getElem hvalida.lt
  have hsitio : (k.pcbs pid).estado.sitio = some .ready := by
    rw [hestado]
    rfl
  refine h.poner hsitio rfl rfl (cantidadNivelesPrioridad_modificarCola k prioridad f) ?_ h.slots
  intro t q
  cases t with
  | ready =>
    have hcount := count_ready_modificarCola hcola f q
    rw [hf] at hcount
    rw [if_pos rfl]
    omega
  | new => rfl
  | cpu => rfl
  | block => rfl

/-- A process in hand that is READY goes into the single queue. -/
theorem Ubicado.enReady (h : k.Ubicado d (pid :: mano)) (hestado : (k.pcbs pid).estado = .ready)
    {cola : List Pid} (hcola : ∀ q, cola.count q = k.colaProcesosReady.count q + [pid].count q)
    (semReady : ℕ) : { k with colaProcesosReady := cola, semReady := semReady }.Ubicado d mano := by
  have hsitio : (k.pcbs pid).estado.sitio = some .ready := by
    rw [hestado]
    rfl
  refine h.poner hsitio rfl rfl rfl ?_ h.slots
  intro t q
  cases t with
  | ready =>
    simp only [en, List.count_append, hcola, if_true]
    omega
  | new => rfl
  | cpu => rfl
  | block => rfl

theorem Ubicado.verificar (h : k.Ubicado d mano) (nuevo : Pid) :
    (k.verificarYDesalojarPorPrioridad nuevo).Ubicado d mano := by
  unfold verificarYDesalojarPorPrioridad
  split
  · exact h
  split
  · exact h
  split
  · exact h.congr rfl rfl rfl (fun s _ ↦ by cases s <;> rfl) h.slots
  · exact h

theorem Ubicado.sinReloj (h : k.Ubicado d mano) (hk' : SalvoReloj k k') : k'.Ubicado d mano := by
  rw [hk']
  exact h.congr rfl rfl rfl (fun s _ ↦ by cases s <;> rfl) h.slots

theorem Ubicado.alFinal (h : k.Ubicado d (pid :: mano)) {prioridad : ℤ} (hvalida : k.NivelValido prioridad)
    (hestado : (k.pcbs pid).estado = .ready) :
    (k.reencolarProcesoReadyFinal pid prioridad).Ubicado d mano := by
  have hcola := h.enCola hvalida hestado (· ++ [pid]) fun _ _ ↦ List.count_append
  unfold reencolarProcesoReadyFinal
  rw [if_pos hvalida]
  apply Ubicado.verificar
  exact hcola.sinReloj (Eq.refl _)

theorem Ubicado.alInicio (h : k.Ubicado d (pid :: mano)) {prioridad : ℤ} (hvalida : k.NivelValido prioridad)
    (hestado : (k.pcbs pid).estado = .ready) :
    (k.reencolarProcesoReadyInicio pid prioridad).Ubicado d mano := by
  have hcola := h.enCola hvalida hestado (pid :: ·) (count_mano pid)
  unfold reencolarProcesoReadyInicio
  rw [if_pos hvalida]
  exact hcola.sinReloj (Eq.refl _)

theorem Ubicado.nivelValido (h : k.Ubicado d mano) (hpid : pid ∈ mano)
    (hniveles : 0 < k.cantidadNivelesPrioridad) : k.NivelValido (k.pcbs pid).prioridad :=
  (h.existen pid hpid).1.2 (h.existen pid hpid).2 hniveles

theorem estado_cambiarEstado (k : KernelScheduler) (pid : Pid) (estado : Estado) :
    ((k.cambiarEstado pid estado).pcbs pid).estado = estado := by
  unfold KernelScheduler.cambiarEstado
  rw [pcbs_modificarPcb_mismo]

theorem Ubicado.encolar (h : k.Ubicado d (pid :: mano)) :
    (k.encolarEnReadyYNotificar pid).Ubicado d mano := by
  have hready := h.cambiarEstado List.mem_cons_self .ready (by decide)
  have hestado := estado_cambiarEstado k pid .ready
  unfold encolarEnReadyYNotificar
  simp only
  split
  · rename_i hniveles
    exact hready.alFinal (hready.nivelValido List.mem_cons_self hniveles) hestado
  · exact hready.enReady hestado (fun q ↦ List.count_append) _

theorem Ubicado.encolarDesalojado (h : k.Ubicado d (pid :: mano)) :
    (k.encolarDesalojado pid).Ubicado d mano := by
  have hready := h.cambiarEstado List.mem_cons_self .ready (by decide)
  have hestado := estado_cambiarEstado k pid .ready
  unfold KernelScheduler.encolarDesalojado
  simp only
  split
  · rename_i hniveles
    exact hready.alInicio (hready.nivelValido List.mem_cons_self hniveles) hestado
  · exact hready.enReady hestado (count_mano pid _) _

theorem niveles_verificar (k : KernelScheduler) (nuevo : Pid) :
    (k.verificarYDesalojarPorPrioridad nuevo).cantidadNivelesPrioridad = k.cantidadNivelesPrioridad := by
  unfold verificarYDesalojarPorPrioridad
  split
  · rfl
  split
  · rfl
  split
  · rfl
  · rfl

theorem niveles_encolar (k : KernelScheduler) (pid : Pid) :
    (k.encolarEnReadyYNotificar pid).cantidadNivelesPrioridad = k.cantidadNivelesPrioridad := by
  unfold encolarEnReadyYNotificar
  simp only
  split
  · unfold reencolarProcesoReadyFinal
    split
    · rw [niveles_verificar]
      exact cantidadNivelesPrioridad_modificarCola _ _ _
    · rfl
  · rfl

/-- The process that goes to READY exists there. -/
theorem Ubicado.existe_encolar (h : k.Ubicado d (pid :: mano)) :
    (k.encolarEnReadyYNotificar pid).Existe pid ∧
      ((k.encolarEnReadyYNotificar pid).pcbs pid).estado = .ready := by
  have hready := h.cambiarEstado List.mem_cons_self .ready (by decide)
  have hsalvo := salvoReady_encolar k pid
  have hcontador : (k.encolarEnReadyYNotificar pid).contadorPids =
      (k.cambiarEstado pid .ready).contadorPids := by
    rw [hsalvo]
  rw [existe_congr hcontador (niveles_encolar k pid) (congrFun hsalvo.pcbs pid), hsalvo.pcbs]
  exact ⟨(hready.existen pid List.mem_cons_self).1, estado_cambiarEstado k pid .ready⟩

/-- What the planner takes out of READY is in hand and still READY. -/
def TomadoDeReady (k : KernelScheduler) (r : Option Pid × KernelScheduler) : Prop :=
  r.2.Ubicado none r.1.toList ∧ SalvoReady k r.2 ∧
    ∀ pid ∈ r.1, (k.pcbs pid).estado = .ready

theorem Ubicado.estado_en_ready (h : k.Ubicado none mano) (hpid : pid ∈ k.en .ready) :
    (k.pcbs pid).estado = .ready := by
  obtain ⟨_, _, hsitio⟩ := h.existe_en hpid
  unfold sitioDe at hsitio
  rw [if_neg nofun] at hsitio
  cases hestado : (k.pcbs pid).estado with
  | ready => rfl
  | new | exec | block | suspReady | suspBlock | exitState =>
    rw [hestado] at hsitio
    cases hsitio

theorem Ubicado.popReady (h : k.Ubicado none []) : TomadoDeReady k k.popReady := by
  unfold KernelScheduler.popReady
  cases hcola : k.colaProcesosReady with
  | nil => exact ⟨h, Eq.refl _, nofun⟩
  | cons pid resto =>
    have hpid : pid ∈ k.en .ready := by
      unfold en
      rw [hcola]
      exact List.mem_append_left _ List.mem_cons_self
    refine ⟨h.sacar hpid nofun nofun rfl rfl rfl (fun t q ↦ ?_) h.slots, Eq.refl _, fun q hq ↦ ?_⟩
    · cases t with
      | ready =>
        simp only [en, hcola, List.count_append, count_mano pid resto, if_true]
        omega
      | new => rfl
      | cpu => rfl
      | block => rfl
    · obtain rfl := Option.some.inj hq
      exact h.estado_en_ready hpid

theorem Ubicado.desencolar (h : k.Ubicado none []) : TomadoDeReady k k.desencolarProcesoReady := by
  unfold desencolarProcesoReady
  cases hp : k.colasReadyPorPrioridad.findIdx? (· ≠ []) with
  | none => exact ⟨h, Eq.refl _, nofun⟩
  | some p =>
    obtain ⟨hlt, hcola, _⟩ := List.findIdx?_eq_some_iff_getElem.mp hp
    obtain ⟨pid, resto, hcola⟩ := List.exists_cons_of_ne_nil (of_decide_eq_true hcola)
    have hp? : k.colasReadyPorPrioridad[p]? = some (pid :: resto) := by
      rw [List.getElem?_eq_getElem hlt, hcola]
    have hpid : pid ∈ k.en .ready := by
      apply List.mem_append_right
      apply List.mem_flatten.mpr
      exact ⟨_, List.mem_of_getElem? hp?, List.mem_cons_self⟩
    simp only [hp?, Option.bind_some, List.head?_cons]
    refine ⟨h.sacar hpid nofun nofun rfl rfl (List.length_modify _ _ _) (fun t q ↦ ?_) h.slots, Eq.refl _,
      fun q hq ↦ ?_⟩
    · cases t with
      | ready =>
        have hcount := ListModify.count_flatMap_modify hp? id List.tail q
        rw [List.flatMap_id, List.flatMap_id] at hcount
        simp only [id_eq, List.tail_cons, count_mano pid resto] at hcount
        simp only [en, List.count_append, if_true]
        omega
      | new => rfl
      | cpu => rfl
      | block => rfl
    · obtain rfl := Option.some.inj hq
      exact h.estado_en_ready hpid

/-! ## Inheritance -/

theorem count_erase_concat {cola : List Pid} (hmem : pid ∈ cola) (q : Pid) :
    (cola.erase pid).count q + [pid].count q = cola.count q := by
  have hperm := (List.perm_cons_erase hmem).count_eq q
  rw [count_mano] at hperm
  exact hperm.symm

theorem Ubicado.reubicar (h : k.Ubicado d mano) (pid : Pid) (anterior : ℤ) {nueva : ℤ}
    (hnueva : 0 < k.cantidadNivelesPrioridad → k.NivelValido nueva) :
    (k.reubicarProcesoEnReady pid anterior nueva).Ubicado d mano := by
  unfold reubicarProcesoEnReady
  split
  · exact h
  rename_i hsi
  have hvalida := hnueva (Nat.pos_of_ne_zero (not_or.mp (not_or.mp hsi).2).1)
  cases hcola : k.colaDe anterior with
  | none => exact h
  | some cola =>
    simp only
    split
    swap
    · exact h
    rename_i hmem
    have hvalida' : (k.modificarCola anterior (·.erase pid)).NivelValido nueva :=
      nivelValido_modificarCola hvalida _
    have hanterior : k.colasReadyPorPrioridad[anterior.toNat]? = some cola := by
      unfold colaDe at hcola
      split at hcola
      · exact hcola
      · cases hcola
    have hdestino := List.getElem?_eq_getElem hvalida'.lt
    have hexiste : ((k.modificarCola anterior (·.erase pid)).colaDe nueva).isSome := by
      unfold colaDe
      rw [if_pos hvalida.1, hdestino]
      rfl
    obtain ⟨destino, hdestino'⟩ := Option.isSome_iff_exists.mp hexiste
    simp only [hdestino']
    refine h.congr rfl rfl ?_ (fun s q ↦ ?_) h.slots
    · rw [cantidadNivelesPrioridad_modificarCola, cantidadNivelesPrioridad_modificarCola]
    · cases s with
      | ready =>
        have hquita := count_ready_modificarCola hanterior (·.erase pid) q
        have hpone := count_ready_modificarCola hdestino (· ++ [pid]) q
        have hsaca := count_erase_concat hmem q
        rw [List.count_append] at hpone
        omega
      | new => rfl
      | cpu => rfl
      | block => rfl

theorem Ubicado.cambiarDinamica (h : k.Ubicado d mano) (pid : Pid) {prioridad : ℤ}
    (hvalida : 0 < k.cantidadNivelesPrioridad → k.NivelValido prioridad) :
    (k.cambiarPrioridadDinamica pid prioridad).Ubicado d mano := by
  apply h.modificarPcb pid _ rfl rfl
  intro hnivel
  apply hvalida
  have hcota := hnivel.lt
  exact Nat.lt_of_le_of_lt (Nat.zero_le _) hcota

theorem Ubicado.asignarDinamica (h : k.Ubicado d mano) (pid : Pid) {prioridad : ℤ}
    (hvalida : 0 < k.cantidadNivelesPrioridad → k.NivelValido prioridad) :
    (k.asignarPrioridadDinamica pid prioridad).Ubicado d mano := by
  unfold KernelScheduler.asignarPrioridadDinamica
  split
  · exact (h.cambiarDinamica pid hvalida).reubicar pid _ hvalida
  · exact h

/-- Waiting for a mutex is a place of BLOCK. -/
theorem mem_en_block {m : MutexSistema} (hm : m ∈ k.listaMutexes) (hpid : pid ∈ m.colaBloqueados) :
    pid ∈ k.en .block := by
  apply List.mem_append_right
  exact List.mem_flatMap.mpr ⟨m, hm, hpid⟩

theorem Ubicado.estado_en_block (h : k.Ubicado d mano) (hpid : pid ∈ k.en .block) :
    k.Existe pid ∧ pid ∉ mano ∧ enviado d ≠ some pid ∧
      ((k.pcbs pid).estado = .block ∨ (k.pcbs pid).estado = .suspBlock) := by
  obtain ⟨hexiste, hfuera, hsitio⟩ := h.existe_en hpid
  unfold sitioDe at hsitio
  split at hsitio
  · cases hsitio
  rename_i hd
  refine ⟨hexiste, hfuera, hd, ?_⟩
  cases hestado : (k.pcbs pid).estado with
  | block => exact .inl rfl
  | suspBlock => exact .inr rfl
  | new | ready | exec | suspReady | exitState =>
    rw [hestado] at hsitio
    cases hsitio

/-- The recalculated priority is that of the process or of one that waits for it. -/
theorem Ubicado.recalcular (h : k.Ubicado d mano) (hexiste : k.Existe pid)
    (hpid : (k.pcbs pid).estado ≠ .new) :
    (k.asignarPrioridadDinamica pid (k.maxPrioridad pid)).Ubicado d mano := by
  apply h.asignarDinamica
  intro hniveles
  rcases Set.mem_insert_iff.mp (prioridad_maxPrioridad k pid).1 with hpropia | ⟨w, hw, hdinamica⟩
  · rw [hpropia]
    exact hexiste.2 hpid hniveles
  · rw [← hdinamica]
    obtain ⟨m, hm, _, hcola⟩ := hw
    obtain ⟨hespera, _, _, hestado⟩ := h.estado_en_block (mem_en_block hm hcola)
    apply h.dinamicas
    apply hespera.2 _ hniveles
    rcases hestado with hestado | hestado
    · rw [hestado]
      nofun
    · rw [hestado]
      nofun

theorem Ubicado.propagar (fuel : ℕ) (h : k.Ubicado d mano) (bloqueado : Pid) {aHeredar : ℤ}
    (hvalida : 0 < k.cantidadNivelesPrioridad → k.NivelValido aHeredar) :
    (propagarHerencia fuel k bloqueado aHeredar).Ubicado d mano := by
  induction fuel generalizing k bloqueado with
  | zero => exact h
  | succ fuel ih =>
    unfold propagarHerencia
    split
    · exact h
    split
    · exact h
    rename_i poseedor _
    have hturno := (h.cambiarDinamica poseedor hvalida).reubicar poseedor
      (k.pcbs poseedor).prioridadDinamica hvalida
    split
    · simp only
      split
      · apply ih hturno poseedor
        unfold NivelValido
        rw [cantidadNiveles_reubicar]
        exact hvalida
      · exact hturno
    · exact h

/-! ## Mutexes -/

/-- A change of the table that leaves the processes in the queues alone. -/
theorem Ubicado.conMutexes (h : k.Ubicado d mano) {lista : List MutexSistema}
    (hlista : ∀ q, (lista.flatMap MutexSistema.colaBloqueados).count q =
      (k.listaMutexes.flatMap MutexSistema.colaBloqueados).count q) :
    { k with listaMutexes := lista }.Ubicado d mano := by
  refine h.congr rfl rfl rfl (fun s q ↦ ?_) h.slots
  cases s with
  | block =>
    simp only [en, List.count_append]
    rw [hlista]
  | new => rfl
  | ready => rfl
  | cpu => rfl

theorem Ubicado.conMutexNuevo (h : k.Ubicado d mano) (nombre : String) :
    (k.conMutexNuevo nombre).Ubicado d mano := by
  apply h.conMutexes
  intro q
  simp

theorem Ubicado.cambiarPoseedor (h : k.Ubicado d mano) (i : ℕ) (poseedor : Option Pid) :
    (k.modificarMutex i fun m ↦ { m with asignadoAPid := poseedor }).Ubicado d mano := by
  apply h.conMutexes
  intro q
  cases hm : k.listaMutexes[i]? with
  | none => rw [List.modify_eq_self (List.getElem?_eq_none_iff.mp hm)]
  | some m =>
    have hcount := ListModify.count_flatMap_modify hm MutexSistema.colaBloqueados
      (fun m ↦ { m with asignadoAPid := poseedor }) q
    exact Nat.add_right_cancel hcount

theorem Ubicado.notificarProcesoEnBlock (h : k.Ubicado d mano) (pid : Pid) (epoch : UInt32) :
    (k.notificarProcesoEnBlock pid epoch).Ubicado d mano := by
  unfold KernelScheduler.notificarProcesoEnBlock
  split
  · exact h
  · exact h.sinReloj (Eq.refl _)

theorem Ubicado.notificarEspera (h : k.Ubicado d mano) (pid : Pid) :
    (k.notificarEspera pid).Ubicado d mano :=
  (h.modificarPcb pid (fun p ↦ { p with blockEpoch := p.blockEpoch + 1 }) rfl rfl
    (h.dinamicas pid)).notificarProcesoEnBlock pid _

/-- A process in hand joins the queue of a mutex. -/
theorem Ubicado.esperarMutex (h : k.Ubicado d (pid :: mano)) {i : ℕ} {m : MutexSistema}
    (hm : k.listaMutexes[i]? = some m) : (k.esperarMutex pid i).Ubicado d mano := by
  have hblock := h.conEstado List.mem_cons_self
    (fun p ↦ { p with estado := .block, mutexEsperando := some i }) ⟨nofun, nofun⟩ rfl rfl
  refine hblock.poner (s := .block) ?_ rfl rfl rfl (fun t q ↦ ?_) h.slots
  · rw [pcbs_modificarPcb_mismo]
    rfl
  · cases t with
    | block =>
      have hcount := ListModify.count_flatMap_modify hm MutexSistema.colaBloqueados
        (fun m ↦ { m with colaBloqueados := m.colaBloqueados ++ [pid] }) q
      simp only [List.count_append] at hcount
      simp only [en, KernelScheduler.esperarMutex, KernelScheduler.modificarMutex,
        KernelScheduler.modificarPcb, List.count_append, if_true]
      omega
    | new => rfl
    | ready => rfl
    | cpu => rfl

/-- A mutex passes to the first process of its queue, which goes to READY. -/
theorem Ubicado.asignarASiguiente (h : k.Ubicado d mano) {i : ℕ} {m : MutexSistema} {siguiente : Pid}
    {resto : List Pid} (hm : k.listaMutexes[i]? = some m) (hcola : m.colaBloqueados = siguiente :: resto) :
    (k.asignarASiguiente i siguiente).Ubicado d mano ∧ (k.asignarASiguiente i siguiente).Existe siguiente ∧
      ((k.asignarASiguiente i siguiente).pcbs siguiente).estado = .ready := by
  have hespera : siguiente ∈ k.en .block := by
    apply mem_en_block (List.mem_of_getElem? hm)
    rw [hcola]
    exact List.mem_cons_self
  have hd := (h.estado_en_block hespera).2.2.1
  have hsacado : (k.modificarMutex i fun m ↦ { m with
      asignadoAPid := some siguiente
      colaBloqueados := m.colaBloqueados.tail }).Ubicado d (siguiente :: mano) := by
    refine h.sacar hespera (by rintro ⟨⟩) hd rfl rfl rfl (fun t q ↦ ?_) h.slots
    cases t with
    | block =>
      have hcount := ListModify.count_flatMap_modify hm MutexSistema.colaBloqueados
        (fun m ↦ { m with
          asignadoAPid := some siguiente
          colaBloqueados := m.colaBloqueados.tail }) q
      simp only [hcola, List.tail_cons, count_mano siguiente resto] at hcount
      simp only [en, KernelScheduler.modificarMutex, List.count_append, if_true]
      omega
    | new => rfl
    | ready => rfl
    | cpu => rfl
  have hready := hsacado.conEstado List.mem_cons_self
    (fun p ↦ { p with mutexEsperando := none, estado := .ready }) ⟨by rintro ⟨⟩, by rintro ⟨⟩⟩ rfl rfl
  exact ⟨hready.encolar, hready.existe_encolar⟩

/-- The release of the mutexes of a process that is in no place. -/
theorem Ubicado.liberados (h : k.Ubicado d mano) (hpid : pid ∉ k.en .block) :
    { k with listaMutexes := k.listaMutexes.map (MutexSistema.liberado pid) }.Ubicado d mano := by
  apply h.conMutexes
  intro q
  have hcolas : ∀ m ∈ k.listaMutexes, (m.liberado pid).colaBloqueados = m.colaBloqueados := by
    intro m hm
    unfold MutexSistema.liberado
    split
    · rfl
    · apply List.filter_eq_self.mpr
      intro w hw
      have hotro : w ≠ pid := fun higual ↦ hpid (mem_en_block hm (higual ▸ hw))
      exact decide_eq_true hotro
  rw [List.flatMap_map]
  congr 1
  apply List.flatMap_congr
  exact hcolas

/-! ## IO and BLOCK -/

theorem Ubicado.modificarIo (h : k.Ubicado d mano) (i : ℕ) (f : InterfazIo → InterfazIo) :
    (k.modificarIo i f).Ubicado d mano :=
  h.congr rfl rfl rfl (fun s _ ↦ by cases s <;> rfl) h.slots

theorem Ubicado.entrarEnBlock (h : k.Ubicado d (pid :: mano)) : (k.entrarEnBlock pid).Ubicado d mano := by
  have hblock := h.conEstado List.mem_cons_self
    (fun p ↦ { p with estado := .block, blockEpoch := p.blockEpoch + 1 }) ⟨nofun, nofun⟩ rfl rfl
  apply Ubicado.notificarProcesoEnBlock
  refine hblock.poner (s := .block) ?_ rfl rfl rfl (fun t q ↦ ?_) h.slots
  · rw [pcbs_modificarPcb_mismo]
    rfl
  · cases t with
    | block =>
      simp only [en, KernelScheduler.modificarPcb, List.count_append, if_true]
      omega
    | new => rfl
    | ready => rfl
    | cpu => rfl

theorem Ubicado.pedirIo {req : IoRequest} (h : k.Ubicado d (req.proceso :: mano)) {interfaz : Option ℕ}
    {caida : Bool} (hactiva : ∀ i ∈ interfaz, ∃ io, k.tablaIos[i]? = some io ∧ io.activa)
    (hsigue : ∀ i ∈ interfaz, k.InterfazSigue caida i) : (k.pedirIo interfaz req caida).Ubicado d mano := by
  unfold KernelScheduler.pedirIo
  cases interfaz with
  | none => exact h.encolar
  | some i =>
    obtain ⟨io, hio, hactiva⟩ := hactiva i rfl
    simp only
    rw [if_neg (hsigue i rfl)]
    unfold KernelScheduler.encolarIoRequest
    rw [hio]
    simp only
    rw [if_pos hactiva]
    exact h.entrarEnBlock.modificarIo i _

theorem Ubicado.desbloquear (h : k.Ubicado d (pid :: mano)) : (k.desbloquear pid).Ubicado d mano := by
  unfold KernelScheduler.desbloquear
  split
  · have hsusp := h.retirar (fun p ↦ { p with estado := .suspReady }) rfl rfl rfl
    exact hsusp.sinReloj (Eq.refl _)
  · exact h.encolar

theorem Ubicado.diferirStdin (h : k.Ubicado d (pid :: mano)) (pendiente : StdinPendiente) :
    (k.diferirStdin pid pendiente).Ubicado d mano := by
  have hsusp := h.retirar (fun p ↦ { p with
    stdinPendiente := some pendiente, estado := .suspReady }) rfl rfl rfl
  exact hsusp.sinReloj (Eq.refl _)

theorem Ubicado.extraer (h : k.Ubicado d mano) (hextraer : k.extraerDeBlock pid = .extraido k') :
    k'.Ubicado d (pid :: mano) := by
  unfold extraerDeBlock at hextraer
  split at hextraer
  swap
  · cases hextraer
  rename_i hmem
  split at hextraer
  · cases hextraer
  cases hextraer
  have hpid : pid ∈ k.en .block := List.mem_append_left _ hmem
  refine h.sacar hpid nofun (h.estado_en_block hpid).2.2.1 rfl rfl rfl (fun t q ↦ ?_) h.slots
  cases t with
  | block =>
    have hsaca := count_erase_concat hmem q
    simp only [en, List.count_append, if_true]
    omega
  | new => rfl
  | ready => rfl
  | cpu => rfl

/-- The new process is in NEW. -/
theorem Ubicado.crearProceso (h : k.Ubicado d mano) (path : String) (prioridad : ℤ) :
    (k.crearProceso path prioridad).Ubicado d mano := by
  unfold KernelScheduler.crearProceso
  split
  · exact h
  have hno : ¬ k.Existe k.contadorPids := fun hexiste ↦ Nat.lt_irrefl _ hexiste.1.1
  have hmano : k.contadorPids ∉ mano := fun hmem ↦ hno (h.existen _ hmem).1
  have hd : enviado d ≠ some k.contadorPids := fun hmem ↦ hno (h.despacho _ hmem).2.1
  generalize hnuevo : { k with
      pcbs := Function.update k.pcbs k.contadorPids ⟨prioridad, .new, 0, 0, prioridad, none, false, 0, none⟩
      contadorPids := k.contadorPids + 1
      todosLosProcesos := k.todosLosProcesos ++ [k.contadorPids]
      colaProcesosNew := k.colaProcesosNew ++ [k.contadorPids]
      semNew := k.semNew + 1 } = k'
  have hcontador : k'.contadorPids = k.contadorPids + 1 := by rw [← hnuevo]
  have hniveles : k'.cantidadNivelesPrioridad = k.cantidadNivelesPrioridad := by rw [← hnuevo]; rfl
  have hotros : ∀ q, q ≠ k.contadorPids → k'.pcbs q = k.pcbs q := by
    intro q hq
    rw [← hnuevo]
    exact Function.update_of_ne hq _ _
  have hsuyo : k'.pcbs k.contadorPids = ⟨prioridad, .new, 0, 0, prioridad, none, false, 0, none⟩ := by
    rw [← hnuevo]
    exact Function.update_self _ _ _
  have hexiste : ∀ q, q ≠ k.contadorPids → (k'.Existe q ↔ k.Existe q) := by
    intro q hq
    unfold Existe Vigente NivelValido
    rw [hcontador, hniveles, hotros q hq]
    have hmenor : q < k.contadorPids + 1 ↔ q < k.contadorPids :=
      ⟨fun hlt ↦ Nat.lt_of_le_of_ne (Nat.le_of_lt_succ hlt) hq, Nat.lt_succ_of_lt⟩
    rw [hmenor]
  have hdonde : ∀ q, q ≠ k.contadorPids → k'.donde d mano q = k.donde d mano q := by
    intro q hq
    unfold donde sitioDe
    rw [if_congr (and_congr_left' (hexiste q hq)) rfl rfl, hotros q hq]
  have hestrena : k'.donde d mano k.contadorPids = some .new := by
    have hvivo : k'.Existe k.contadorPids := by
      unfold Existe Vigente
      rw [hcontador, hsuyo]
      exact ⟨⟨Nat.lt_succ_self _, nofun⟩, fun hestado ↦ absurd rfl hestado⟩
    rw [donde_fuera hvivo hmano, sitioDe, if_neg hd, hsuyo]
    rfl
  have hantes : k.donde d mano k.contadorPids = none := by
    unfold donde
    exact if_neg fun hsi ↦ hno hsi.1
  have hcuenta : ∀ s q, (k'.en s).count q =
      (k.en s).count q + if s = .new then [k.contadorPids].count q else 0 := by
    intro s q
    rw [← hnuevo]
    cases s with
    | new => exact List.count_append
    | ready => rfl
    | cpu => rfl
    | block => rfl
  constructor
  · intro s q
    rw [hcuenta, h.sitios]
    by_cases hq : q = k.contadorPids
    · subst hq
      rw [hantes, hestrena, List.count_singleton_self]
      simp [eq_comm]
    · have hcero : [k.contadorPids].count q = 0 :=
        List.count_eq_zero.mpr fun hmem ↦ hq (List.mem_singleton.mp hmem)
      rw [hdonde q hq, hcero, ite_self, Nat.add_zero]
  · exact h.distintos
  · intro q hq
    have hpid : q ≠ k.contadorPids := fun higual ↦ hmano (higual ▸ hq)
    rw [hexiste q hpid, hotros q hpid]
    exact h.existen q hq
  · intro q hq
    have hpid : q ≠ k.contadorPids := fun higual ↦ hd (higual ▸ hq)
    rw [hexiste q hpid, hotros q hpid]
    exact h.despacho q hq
  · intro q hq
    by_cases hpid : q = k.contadorPids
    · rw [hpid, hsuyo] at hq
      cases hq
    · rw [hotros q hpid] at hq
      exact (hexiste q hpid).mpr (h.suspendidos q hq)
  · intro q hq
    by_cases hpid : q = k.contadorPids
    · rw [hpid, hsuyo] at hq ⊢
      exact hq
    · unfold NivelValido at hq ⊢
      rw [hniveles, hotros q hpid] at hq ⊢
      exact h.dinamicas q hq
  · rw [← hnuevo]
    exact h.slots

/-! ## CPUs -/

theorem forall_modificarCpu {P Q : TCpu → Prop} {cpus : List TCpu} (h : ∀ c ∈ cpus, P c) (cpuId : ℕ)
    (f : TCpu → TCpu) (hf : ∀ c, buscarCpu cpus cpuId = some c → P c → Q (f c)) (hQ : ∀ c, P c → Q c) :
    ∀ c ∈ modificarCpu cpus cpuId f, Q c := by
  rcases modificarCpu_cases cpus cpuId with ⟨_, hmodificar⟩ | ⟨i, c, hi, hc, hmodificar⟩
  · rw [hmodificar]
    intro c hc
    exact hQ c (h c hc)
  · rw [hmodificar]
    apply ListModify.forall_mem_modify h i f _ hQ
    intro c' hc'
    obtain rfl := Option.some.inj (hi.symm.trans hc')
    exact hf c hc

/-- The process of the slot that a lookup finds. -/
theorem actual_modify {cpus : List TCpu} (i : ℕ) {f : TCpu → TCpu} (hid : ∀ c, (f c).cpuId = c.cpuId)
    (hactual : ∀ c, (f c).procesoActual = c.procesoActual) (cpuId : ℕ) :
    (buscarCpu (cpus.modify i f) cpuId).bind TCpu.procesoActual =
      (buscarCpu cpus cpuId).bind TCpu.procesoActual := by
  unfold buscarCpu
  rw [posicionCpu_modify cpus i hid]
  cases posicionCpu cpus cpuId with
  | none => rfl
  | some j =>
    rw [Option.bind_some, Option.bind_some, List.getElem?_modify]
    cases cpus[j]? with
    | none => rfl
    | some c =>
      by_cases hij : i = j
      · simp [hij, hactual]
      · simp [hij]

theorem actual_modificarCpu {cpus : List TCpu} (cpuId : ℕ) {f : TCpu → TCpu}
    (hid : ∀ c, (f c).cpuId = c.cpuId)
    (hactual : ∀ c, buscarCpu cpus cpuId = some c → (f c).procesoActual = c.procesoActual) (otro : ℕ) :
    (buscarCpu (modificarCpu cpus cpuId f) otro).bind TCpu.procesoActual =
      (buscarCpu cpus otro).bind TCpu.procesoActual := by
  by_cases hotro : otro = cpuId
  · rw [hotro, buscarCpu_modificarCpu_mismo cpus cpuId hid]
    cases hc : buscarCpu cpus cpuId with
    | none => rfl
    | some c => exact hactual c hc
  · rw [buscarCpu_modificarCpu_otro cpus hotro hid]

theorem actual_agregarCpu {cpus : List TCpu} (socket : Socket) (nuevo : ℕ) {cpuId : ℕ}
    (h : (buscarCpu cpus cpuId).bind TCpu.procesoActual = some pid) :
    (buscarCpu (agregarCpu cpus socket nuevo) cpuId).bind TCpu.procesoActual = some pid := by
  unfold agregarCpu
  split
  · unfold buscarCpu posicionCpu at h ⊢
    rw [List.findIdx?_append]
    cases hi : cpus.findIdx? fun c ↦ c.cpuId = cpuId with
    | none =>
      rw [hi] at h
      cases h
    | some i =>
      obtain ⟨hlt, _⟩ := List.findIdx?_eq_some_iff_getElem.mp hi
      rw [hi] at h
      rw [Option.some_or, Option.bind_some, List.getElem?_append_left hlt]
      exact h
  · exact h

theorem SlotsCiertos.conActuales {cpus cpus' : List TCpu} (h : SlotsCiertos d cpus)
    (hciertos : ∀ c ∈ cpus', SlotCierto c)
    (hactual : ∀ p ∈ d, (buscarCpu cpus p.cpuId).bind TCpu.procesoActual = some p.pid →
      (buscarCpu cpus' p.cpuId).bind TCpu.procesoActual = some p.pid) : SlotsCiertos d cpus' :=
  ⟨hciertos, fun p hp hrr ↦ hactual p hp (h.suyo p hp hrr)⟩

/-- A change of the slots that leaves the processes where they are. -/
theorem Ubicado.conCpus (h : k.Ubicado d mano) {cpus : List TCpu}
    (hcpus : ∀ q, (cpus.flatMap enCpu).count q = (k.cpus.flatMap enCpu).count q)
    (hslots : SlotsCiertos d cpus) : { k with cpus := cpus }.Ubicado d mano := by
  refine h.congr rfl rfl rfl (fun s q ↦ ?_) hslots
  cases s with
  | cpu => exact hcpus q
  | new => rfl
  | ready => rfl
  | block => rfl

/-- A change of one slot that leaves its process alone. -/
theorem Ubicado.modificarCpu (h : k.Ubicado d mano) (cpuId : ℕ) (f : TCpu → TCpu)
    (hid : ∀ c, (f c).cpuId = c.cpuId)
    (hactual : ∀ c, buscarCpu k.cpus cpuId = some c → (f c).procesoActual = c.procesoActual)
    (hf : ∀ c, buscarCpu k.cpus cpuId = some c → SlotCierto c → SlotCierto (f c)) :
    { k with cpus := Planificador.modificarCpu k.cpus cpuId f }.Ubicado d mano := by
  apply h.conCpus
  · intro q
    rcases modificarCpu_cases k.cpus cpuId with ⟨_, hmodificar⟩ | ⟨i, c, hi, hc, hmodificar⟩
    · rw [hmodificar]
    · have hcount := ListModify.count_flatMap_modify hi enCpu f q
      rw [enCpu, enCpu, hactual c hc] at hcount
      rw [hmodificar]
      exact Nat.add_right_cancel hcount
  · apply h.slots.conActuales (forall_modificarCpu h.slots.ciertos cpuId f hf fun _ ↦ id)
    intro p _ hsuyo
    rw [actual_modificarCpu cpuId hid hactual]
    exact hsuyo

/-- The process of the slot, if any, is in hand afterwards. It is not the one that the planner has
sent and not marked yet. -/
theorem Ubicado.vaciarSlot (h : k.Ubicado d []) (cpuId : ℕ) (f : TCpu → TCpu)
    (hid : ∀ c, (f c).cpuId = c.cpuId)
    (hd : ∀ pid ∈ enviado d, (buscarCpu k.cpus cpuId).bind TCpu.procesoActual ≠ some pid)
    (hvacio : ∀ c, (f c).procesoActual = none ∧ (f c).timerActivo = false) :
    { k with cpus := Planificador.modificarCpu k.cpus cpuId f }.Ubicado d
      ((buscarCpu k.cpus cpuId).bind TCpu.procesoActual).toList := by
  have hciertos : ∀ c ∈ Planificador.modificarCpu k.cpus cpuId f, SlotCierto c := by
    apply forall_modificarCpu h.slots.ciertos cpuId f _ fun _ ↦ id
    intro c _ _
    unfold SlotCierto
    rw [(hvacio c).1, (hvacio c).2]
    exact ⟨nofun, nofun⟩
  have hslots : SlotsCiertos d (Planificador.modificarCpu k.cpus cpuId f) := by
    apply h.slots.conActuales hciertos
    intro p hp hsuyo
    have hotro : p.cpuId ≠ cpuId := by
      intro hmisma
      rw [hmisma] at hsuyo
      exact hd p.pid (Option.mem_map_of_mem _ hp) hsuyo
    rw [buscarCpu_modificarCpu_otro _ hotro hid]
    exact hsuyo
  have hcuenta := count_vaciar k.cpus cpuId f fun c ↦ (hvacio c).1
  cases hactual : (buscarCpu k.cpus cpuId).bind TCpu.procesoActual with
  | none =>
    rw [hactual] at hcuenta
    exact h.conCpus hcuenta hslots
  | some pid =>
    rw [hactual] at hcuenta
    have hpid : pid ∈ k.en .cpu := by
      apply List.count_pos_iff.mp
      show 0 < (k.cpus.flatMap enCpu).count pid
      rw [← hcuenta pid, Option.toList_some, List.count_singleton_self]
      exact Nat.succ_pos _
    refine h.sacar hpid nofun (fun hmem ↦ hd pid hmem hactual) rfl rfl rfl (fun t q ↦ ?_) hslots
    cases t with
    | cpu => exact hcuenta q
    | new => rfl
    | ready => rfl
    | block => rfl

theorem Ubicado.liberarReservada (h : k.Ubicado d mano) {cpuId : ℕ}
    (hvacia : ∀ c, buscarCpu k.cpus cpuId = some c → c.procesoActual = none) :
    (k.liberarReservada cpuId).Ubicado d mano := by
  have hlibre : { k with cpus := liberarCpuReservada k.cpus cpuId }.Ubicado d mano := by
    refine h.modificarCpu cpuId _ (fun _ ↦ rfl) (fun _ _ ↦ rfl) fun c hc hcierto ↦ ?_
    refine ⟨fun hocupada ↦ ?_, hcierto.2⟩
    rw [hvacia c hc] at hocupada
    cases hocupada
  exact hlibre.sinReloj (Eq.refl _)

/-- A timer starts for the process of the slot. -/
theorem Ubicado.arrancarQuantum (h : k.Ubicado d mano) {cpuId : ℕ}
    (hactual : ∀ c, buscarCpu k.cpus cpuId = some c → c.procesoActual = some pid) :
    (k.arrancarQuantum cpuId pid).Ubicado d mano := by
  have harmada : { k with cpus := iniciarQuantumTimer k.cpus cpuId pid }.Ubicado d mano := by
    refine h.modificarCpu cpuId _ (fun _ ↦ rfl) (fun _ _ ↦ rfl) fun c hc hcierto ↦ ?_
    exact ⟨hcierto.1, fun _ ↦ hactual c hc⟩
  exact harmada.sinReloj (Eq.refl _)

/-- A process in hand in state EXEC goes to the slot that its syscall has left reserved. -/
theorem Ubicado.devolverAMisma (h : k.Ubicado d (pid :: mano)) (hestado : (k.pcbs pid).estado = .exec)
    {cpuId : ℕ} (hreservada : k.Reservada cpuId) {c : TCpu} (hc : buscarCpu k.cpus cpuId = some c) :
    { k with cpus := Planificador.modificarCpu k.cpus cpuId fun c ↦
      { c with procesoActual := some pid } }.Ubicado d mano := by
  have hciertos : ∀ c ∈ Planificador.modificarCpu k.cpus cpuId (fun c ↦
      { c with procesoActual := some pid }), SlotCierto c := by
    apply forall_modificarCpu h.slots.ciertos cpuId _ _ fun _ ↦ id
    intro c hc hcierto
    obtain ⟨hocupada, hvacia⟩ := hreservada c hc
    refine ⟨fun _ ↦ hocupada, fun hactivo ↦ ?_⟩
    have hno := hcierto.2 hactivo
    rw [hvacia] at hno
    cases hno
  have hslots : SlotsCiertos d (Planificador.modificarCpu k.cpus cpuId fun c ↦
      { c with procesoActual := some pid }) := by
    apply h.slots.conActuales hciertos
    intro p hp hsuyo
    have hotro : p.cpuId ≠ cpuId := by
      intro hmisma
      rw [hmisma, hc, Option.bind_some, (hreservada c hc).2] at hsuyo
      cases hsuyo
    rw [buscarCpu_modificarCpu_otro (f := fun c ↦ { c with procesoActual := some pid }) _ hotro fun _ ↦ rfl]
    exact hsuyo
  rcases modificarCpu_cases k.cpus cpuId with ⟨hno, _⟩ | ⟨i, c', hi, hc', hmodificar⟩
  · rw [hno] at hc
    cases hc
  obtain rfl := Option.some.inj (hc.symm.trans hc')
  refine h.poner (s := .cpu) (by rw [hestado]; rfl) rfl rfl rfl (fun t q ↦ ?_) hslots
  cases t with
  | cpu =>
    have hcount := ListModify.count_flatMap_modify hi enCpu
      (fun c ↦ { c with procesoActual := some pid }) q
    rw [enCpu, enCpu, (hreservada c hc).2] at hcount
    simp only [en, hmodificar, if_true]
    exact hcount
  | new => rfl
  | ready => rfl
  | block => rfl

theorem Ubicado.devolverOReplanificar (h : k.Ubicado d (pid :: mano))
    (hestado : (k.pcbs pid).estado = .exec) {cpuId : ℕ} (hreservada : k.Reservada cpuId) :
    (k.devolverOReplanificar cpuId pid).Ubicado d mano := by
  unfold KernelScheduler.devolverOReplanificar devolverProcesoAMismaCpu
  cases hsocket : (buscarCpu k.cpus cpuId).bind TCpu.socket with
  | none => exact h.encolar
  | some socket =>
    obtain ⟨c, hc, _⟩ := Option.bind_eq_some_iff.mp hsocket
    have hvuelto := h.devolverAMisma hestado hreservada hc
    have henviado : ({ k with cpus := Planificador.modificarCpu k.cpus cpuId fun c ↦
        { c with procesoActual := some pid } }.enviarPid socket pid).Ubicado d mano :=
      hvuelto.sinReloj (Eq.refl _)
    simp only
    split
    · apply henviado.arrancarQuantum
      intro c' hc'
      have hmismo := buscarCpu_modificarCpu_mismo (f := fun c ↦ { c with procesoActual := some pid })
        k.cpus cpuId fun _ ↦ rfl
      obtain ⟨_, _, rfl⟩ := Option.map_eq_some_iff.mp (hmismo.symm.trans hc')
      rfl
    · exact henviado

/-- The same for a process that has never left its place: its CPU takes it back before the planner has
marked it. -/
theorem Ubicado.vuelta (h : k.Ubicado d mano) {cpuId : ℕ} {c : TCpu} (hc : buscarCpu k.cpus cpuId = some c)
    (hactual : c.procesoActual = some pid) {socket : Socket} (hsocket : c.socket = some socket) :
    ({ k with cpus := Planificador.modificarCpu k.cpus cpuId fun c ↦
      { c with procesoActual := none, timerActivo := false } }.devolverOReplanificar cpuId pid).Ubicado d mano := by
  have hvacio := buscarCpu_modificarCpu_mismo
    (f := fun c ↦ { c with procesoActual := none, timerActivo := false }) k.cpus cpuId fun _ ↦ rfl
  have hdoble : Planificador.modificarCpu (Planificador.modificarCpu k.cpus cpuId fun c ↦
      { c with procesoActual := none, timerActivo := false }) cpuId (fun c ↦
        { c with procesoActual := some pid }) =
      Planificador.modificarCpu k.cpus cpuId fun c ↦
        { c with procesoActual := some pid, timerActivo := false } :=
    modificarCpu_modificarCpu k.cpus cpuId _ fun _ ↦ rfl
  have hvuelto : { k with cpus := Planificador.modificarCpu k.cpus cpuId fun c ↦
      { c with procesoActual := some pid, timerActivo := false } }.Ubicado d mano := by
    refine h.modificarCpu cpuId _ (fun _ ↦ rfl) (fun c' hc' ↦ ?_) fun c' hc' hcierto ↦ ?_
    · obtain rfl := Option.some.inj (hc.symm.trans hc')
      exact hactual.symm
    · obtain rfl := Option.some.inj (hc.symm.trans hc')
      refine ⟨fun _ ↦ hcierto.1 ?_, nofun⟩
      rw [hactual]
      rfl
  have hsuyo : ∀ c', buscarCpu (Planificador.modificarCpu k.cpus cpuId fun c ↦
      { c with procesoActual := some pid, timerActivo := false }) cpuId = some c' →
      c'.procesoActual = some pid := by
    intro c' hc'
    have hmismo := buscarCpu_modificarCpu_mismo
      (f := fun c ↦ { c with procesoActual := some pid, timerActivo := false }) k.cpus cpuId fun _ ↦ rfl
    obtain ⟨_, _, rfl⟩ := Option.map_eq_some_iff.mp (hmismo.symm.trans hc')
    rfl
  unfold KernelScheduler.devolverOReplanificar devolverProcesoAMismaCpu
  simp only [hvacio, hc, Option.map_some, Option.bind_some, hsocket, hdoble]
  generalize Planificador.modificarCpu k.cpus cpuId _ = cpus at hvuelto hsuyo
  have henviado : ({ k with cpus := cpus }.enviarPid socket pid).Ubicado d mano := hvuelto.sinReloj (Eq.refl _)
  split
  · exact henviado.arrancarQuantum hsuyo
  · exact henviado

theorem Ubicado.agregarCpu (h : k.Ubicado d mano) (socket : Socket) (cpuId : ℕ) :
    { k with cpus := Planificador.agregarCpu k.cpus socket cpuId }.Ubicado d mano := by
  apply h.conCpus
  · intro q
    unfold Planificador.agregarCpu
    split
    · simp [enCpu]
    · rfl
  · apply h.slots.conActuales _ fun _ _ ↦ actual_agregarCpu socket cpuId
    intro c hc
    unfold Planificador.agregarCpu at hc
    split at hc
    · rcases List.mem_append.mp hc with hc | hc
      · exact h.slots.ciertos c hc
      · rw [List.mem_singleton.mp hc]
        exact ⟨nofun, nofun⟩
    · exact h.slots.ciertos c hc

theorem Ubicado.conectarCpu (h : k.Ubicado d mano) (socket : Socket) (cpuId : ℕ) :
    (k.conectarCpu socket cpuId).Ubicado d mano := by
  have hcpus := h.agregarCpu socket cpuId
  have hreceptores : ∀ receptores, { k with
      cpus := Planificador.agregarCpu k.cpus socket cpuId
      receptores := receptores }.Ubicado d mano := fun _ ↦
    hcpus.congr rfl rfl rfl (fun s _ ↦ by cases s <;> rfl) hcpus.slots
  unfold KernelScheduler.conectarCpu
  simp only
  split
  · exact (hreceptores _).sinReloj (Eq.refl _)
  · exact (hreceptores _).sinReloj (Eq.refl _)

theorem Ubicado.desconectarCpu (h : k.Ubicado d mano) (r : Receptor) : (k.desconectarCpu r).Ubicado d mano := by
  have hcpus : { k with cpus := marcarCpuDesconectada k.cpus r.cpuId }.Ubicado d mano :=
    h.modificarCpu r.cpuId _ (fun _ ↦ rfl) (fun _ _ ↦ rfl) fun _ _ ↦ id
  exact hcpus.congr rfl rfl rfl (fun s _ ↦ by cases s <;> rfl) hcpus.slots

theorem Ubicado.vencerTimerQuantum (h : k.Ubicado d mano) (t : TimerQuantum) :
    (k.vencerTimerQuantum t).Ubicado d mano := by
  have hcpus : { k with cpus := (vencerQuantum k.cpus t.cpuId t.pid).2 }.Ubicado d mano := by
    unfold vencerQuantum
    split
    · exact h
    · rename_i i _
      apply h.conCpus
      · intro q
        cases hi : k.cpus[i]? with
        | none => rw [List.modify_eq_self (List.getElem?_eq_none_iff.mp hi)]
        | some c =>
          have hcount := ListModify.count_flatMap_modify hi enCpu
            (fun c ↦ { c with timerActivo := false }) q
          exact Nat.add_right_cancel hcount
      · apply h.slots.conActuales
        · apply ListModify.forall_mem_modify h.slots.ciertos i _ _ fun _ ↦ id
          intro c _ hcierto
          exact ⟨hcierto.1, nofun⟩
        · intro p _ hsuyo
          exact (actual_modify (f := fun c ↦ { c with timerActivo := false }) i (fun _ ↦ rfl)
            (fun _ ↦ rfl) p.cpuId).trans hsuyo
  unfold KernelScheduler.vencerTimerQuantum
  simp only
  cases (vencerQuantum k.cpus t.cpuId t.pid).1.bind TCpu.socket with
  | none => exact hcpus.sinReloj (Eq.refl _)
  | some socket => exact hcpus.sinReloj (Eq.refl _)

end KernelScheduler

end PlugAndPlay.Planificador
