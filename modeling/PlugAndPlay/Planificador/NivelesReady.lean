import PlugAndPlay.Planificador.Progreso

/-!
# READY queues that follow the inherited priority

The invariant that each process in READY is in the queue of its dynamic priority. The enqueue paths go
by `prioridad`, so they keep it only for a process that inherits nothing at that moment.
-/

open PlugAndPlay.Library

namespace PlugAndPlay.Planificador.KernelScheduler

variable {k k' : KernelScheduler} {pid q : Pid} {mano mano' : List Pid}

/-- The process has no better priority than its own. -/
def SinHerencia (k : KernelScheduler) (pid : Pid) : Prop :=
  (k.pcbs pid).prioridadDinamica = (k.pcbs pid).prioridad

instance (k : KernelScheduler) : DecidablePred k.SinHerencia := fun _ ↦
  inferInstanceAs (Decidable (_ = _))

def EnSuCola (k : KernelScheduler) (pid : Pid) : Prop :=
  ∃ cola, k.colaDe (k.pcbs pid).prioridadDinamica = some cola ∧ pid ∈ cola

/-- The process was created and admitted. -/
def Admitido (k : KernelScheduler) (pid : Pid) : Prop :=
  pid < k.contadorPids ∧ (k.pcbs pid).estado ≠ .new

/-- The invariant, with some processes in hand; a process in hand may be in READY. -/
structure PorNivel (k : KernelScheduler) (mano : List Pid) : Prop where
  unLugar : k.EnUnLugar mano
  nuevos : ∀ q, (k.pcbs q).estado = .new ↔ q ∈ k.colaProcesosNew
  propias : ∀ q ∈ k.colaProcesosNew, k.SinHerencia q
  validos : ∀ q, k.Vigente q → (k.pcbs q).estado ≠ .new →
    k.NivelValido (k.pcbs q).prioridad ∧ k.NivelValido (k.pcbs q).prioridadDinamica
  poseedores : ∀ m ∈ k.listaMutexes, ∀ q ∈ m.asignadoAPid, k.Admitido q
  enCola : ∀ q, q ∉ mano → (k.pcbs q).estado = .ready → k.EnSuCola q
  miembros : ∀ (i : ℕ) (cola : List Pid) (q : Pid), k.colasReadyPorPrioridad[i]? = some cola →
    q ∈ cola → (k.pcbs q).estado = .ready ∧ (k.pcbs q).prioridadDinamica = i

theorem colaDe_natCast (k : KernelScheduler) (i : ℕ) :
    k.colaDe (i : ℤ) = k.colasReadyPorPrioridad[i]? := by
  unfold colaDe
  rw [if_pos (Int.natCast_nonneg i), Int.toNat_natCast]

theorem colaDe_eq_some {prioridad : ℤ} {cola : List Pid} :
    k.colaDe prioridad = some cola ↔
      0 ≤ prioridad ∧ k.colasReadyPorPrioridad[prioridad.toNat]? = some cola := by
  unfold colaDe
  split
  · rename_i hpos
    exact (and_iff_right hpos).symm
  · rename_i hneg
    exact iff_of_false nofun fun h ↦ hneg h.1

theorem PorNivel.vigente (h : k.PorNivel mano) (hpid : pid ∈ mano) : k.Vigente pid := by
  by_contra hno
  have huno := h.unLugar pid
  have hmano := List.count_pos_iff.mpr hpid
  rw [if_neg hno] at huno
  omega

theorem PorNivel.iniciado (h : k.PorNivel mano) (hpid : pid ∈ mano) : (k.pcbs pid).estado ≠ .new := by
  intro hnew
  have huno := h.unLugar pid
  have hcola := List.count_pos_iff.mpr ((h.nuevos pid).mp hnew)
  have hmano := List.count_pos_iff.mpr hpid
  simp only [apariciones, lugares, List.count_append] at huno
  split at huno <;> omega

theorem PorNivel.valido (h : k.PorNivel mano) (hpid : pid ∈ mano) :
    k.NivelValido (k.pcbs pid).prioridad ∧ k.NivelValido (k.pcbs pid).prioridadDinamica :=
  h.validos pid (h.vigente hpid) (h.iniciado hpid)

/-- A process that is somewhere else is in no READY queue. -/
theorem EnUnLugar.fuera_de_colas (h : k.EnUnLugar mano)
    (hpid : 0 < mano.count pid + k.colaProcesosNew.count pid + k.colaProcesosReady.count pid +
      (k.cpus.flatMap enCpu).count pid + k.colaProcesosBlock.count pid +
      (k.listaMutexes.flatMap MutexSistema.colaBloqueados).count pid + k.enSuspReady pid)
    {i : ℕ} {cola : List Pid} (hcola : k.colasReadyPorPrioridad[i]? = some cola) : pid ∉ cola := by
  intro hmem
  have huno := h pid
  have hcuenta := List.count_pos_iff.mpr
    (List.mem_flatten.mpr ⟨cola, List.mem_of_getElem? hcola, hmem⟩)
  simp only [apariciones, lugares, List.count_append] at huno
  split at huno <;> omega

theorem PorNivel.fuera (h : k.PorNivel mano) (hpid : pid ∈ mano) {i : ℕ} {cola : List Pid}
    (hcola : k.colasReadyPorPrioridad[i]? = some cola) : pid ∉ cola := by
  refine h.unLugar.fuera_de_colas ?_ hcola
  have hmano := List.count_pos_iff.mpr hpid
  omega

/-- A process that is somewhere else, and not in hand, is not in READY. -/
theorem PorNivel.noReady (h : k.PorNivel mano) (hno : pid ∉ mano)
    (hpid : 0 < k.colaProcesosReady.count pid + (k.cpus.flatMap enCpu).count pid +
      k.colaProcesosBlock.count pid + (k.listaMutexes.flatMap MutexSistema.colaBloqueados).count pid) :
    (k.pcbs pid).estado ≠ .ready := by
  intro hready
  obtain ⟨cola, hcola, hmem⟩ := h.enCola pid hno hready
  refine h.unLugar.fuera_de_colas ?_ (colaDe_eq_some.mp hcola).2 hmem
  omega

/-! ## Changes that leave the queues alone -/

/-- Only other places change. What leaves the hand is not in READY. -/
theorem PorNivel.of_igual (h : k.PorNivel mano) (hun : k'.EnUnLugar mano') (hpcbs : k'.pcbs = k.pcbs)
    (hcolas : k'.colasReadyPorPrioridad = k.colasReadyPorPrioridad)
    (hcontador : k'.contadorPids = k.contadorPids)
    (hnuevos : k'.colaProcesosNew = k.colaProcesosNew)
    (hposeedores : ∀ m ∈ k'.listaMutexes, ∀ q ∈ m.asignadoAPid, k.Admitido q)
    (hmano : ∀ q ∈ mano, q ∉ mano' → (k.pcbs q).estado ≠ .ready) : k'.PorNivel mano' := by
  refine ⟨hun, ?_, ?_, ?_, ?_, ?_, ?_⟩
  · rw [hpcbs, hnuevos]
    exact h.nuevos
  · unfold SinHerencia
    rw [hpcbs, hnuevos]
    exact h.propias
  · unfold Vigente NivelValido cantidadNivelesPrioridad
    rw [hpcbs, hcontador, hcolas]
    exact h.validos
  · unfold Admitido
    rw [hpcbs, hcontador]
    exact hposeedores
  · unfold EnSuCola colaDe
    rw [hpcbs, hcolas]
    intro q hq hready
    exact h.enCola q (fun hmem ↦ hmano q hmem hq hready) hready
  · rw [hpcbs, hcolas]
    exact h.miembros

/-- A process goes to another state; it is in no READY queue. -/
theorem PorNivel.conPcb (h : k.PorNivel mano) (f : Pcb → Pcb)
    (hun : (k.modificarPcb pid f).EnUnLugar mano')
    (hvalido : (f (k.pcbs pid)).estado ≠ .exitState → k.Vigente pid)
    (hantes : (k.pcbs pid).estado ≠ .new) (hestado : (f (k.pcbs pid)).estado ≠ .new)
    (hprioridad : (f (k.pcbs pid)).prioridad = (k.pcbs pid).prioridad)
    (hdinamica : (f (k.pcbs pid)).prioridadDinamica = (k.pcbs pid).prioridadDinamica)
    (hfuera : ∀ (i : ℕ) (cola : List Pid), k.colasReadyPorPrioridad[i]? = some cola → pid ∉ cola)
    (hready : pid ∉ mano' → (f (k.pcbs pid)).estado ≠ .ready)
    (hmano : ∀ q, q ≠ pid → q ∉ mano' → q ∉ mano) : (k.modificarPcb pid f).PorNivel mano' := by
  have hpcb : ∀ q, q ≠ pid → (k.modificarPcb pid f).pcbs q = k.pcbs q := by
    intro q hq
    rw [pcbs_modificarPcb, if_neg hq]
  have hmismo : (k.modificarPcb pid f).pcbs pid = f (k.pcbs pid) := k.pcbs_modificarPcb_mismo pid f
  refine ⟨hun, fun q ↦ ?_, fun q hq ↦ ?_, fun q hvig hq ↦ ?_, fun m hm q hposee ↦ ?_,
    fun q hq hestado' ↦ ?_, fun i cola q hcola hmem ↦ ?_⟩
  · by_cases hpid : q = pid
    · rw [hpid, hmismo]
      exact iff_of_false hestado fun hmem ↦ hantes ((h.nuevos pid).mpr hmem)
    · rw [hpcb q hpid]
      exact h.nuevos q
  · have hpid : q ≠ pid := by
      rintro rfl
      exact hantes ((h.nuevos q).mpr hq)
    unfold SinHerencia
    rw [hpcb q hpid]
    exact h.propias q hq
  · by_cases hpid : q = pid
    · subst hpid
      have hvivo := hvig.2
      rw [hmismo] at hvivo ⊢
      rw [hprioridad, hdinamica]
      exact h.validos q (hvalido hvivo) hantes
    · unfold Vigente at hvig
      rw [hpcb q hpid] at hvig hq ⊢
      exact h.validos q hvig hq
  · have hposeedor := h.poseedores m hm q hposee
    refine ⟨hposeedor.1, ?_⟩
    by_cases hpid : q = pid
    · rw [hpid, hmismo]
      exact hestado
    · rw [hpcb q hpid]
      exact hposeedor.2
  · unfold EnSuCola
    by_cases hpid : q = pid
    · rw [hpid, hmismo] at hestado'
      exact absurd hestado' (hready (hpid ▸ hq))
    · rw [hpcb q hpid] at hestado' ⊢
      exact h.enCola q (hmano q hpid hq) hestado'
  · have hpid : q ≠ pid := by
      rintro rfl
      exact hfuera i cola hcola hmem
    rw [hpcb q hpid]
    exact h.miembros i cola q hcola hmem

/-- A process in hand goes to a state other than NEW and stays in hand. -/
theorem PorNivel.enMano (h : k.PorNivel mano) (hpid : pid ∈ mano) (f : Pcb → Pcb)
    (hestado : (f (k.pcbs pid)).estado = (k.pcbs pid).estado ∨ (f (k.pcbs pid)).estado.Corriente)
    (hprioridad : (f (k.pcbs pid)).prioridad = (k.pcbs pid).prioridad)
    (hdinamica : (f (k.pcbs pid)).prioridadDinamica = (k.pcbs pid).prioridadDinamica) :
    (k.modificarPcb pid f).PorNivel mano := by
  have hantes := h.iniciado hpid
  refine h.conPcb f ?_ (fun _ ↦ h.vigente hpid) hantes ?_ hprioridad hdinamica
    (fun i cola ↦ h.fuera hpid) (fun hno ↦ absurd hpid hno) fun _ _ ↦ id
  · apply h.unLugar.modificarPcb
    rcases hestado with higual | hcorriente
    · exact .inl higual
    · exact .inr ⟨hcorriente.sanos.2.2.2, hcorriente.sanos.2.1⟩
  · rcases hestado with higual | hcorriente
    · rwa [higual]
    · exact hcorriente.sanos.1

/-! ## Entering and leaving a queue -/

theorem getElem?_modificarCola (k : KernelScheduler) {prioridad : ℤ} (hpos : 0 ≤ prioridad)
    (f : List Pid → List Pid) (i : ℕ) :
    (k.modificarCola prioridad f).colasReadyPorPrioridad[i]? =
      if (i : ℤ) = prioridad then (k.colasReadyPorPrioridad[i]?).map f
      else k.colasReadyPorPrioridad[i]? := by
  show (k.colasReadyPorPrioridad.modify prioridad.toNat f)[i]? = _
  rw [List.getElem?_modify]
  by_cases hi : (i : ℤ) = prioridad
  · have hi' : prioridad.toNat = i := by omega
    rw [if_pos hi, hi']
    simp
  · have hi' : prioridad.toNat ≠ i := by omega
    rw [if_neg hi]
    simp [hi']

theorem enSuCola_iff : k.EnSuCola q ↔ ∃ (i : ℕ) (cola : List Pid),
    k.colasReadyPorPrioridad[i]? = some cola ∧ q ∈ cola ∧ (k.pcbs q).prioridadDinamica = i := by
  constructor
  · rintro ⟨cola, hcola, hmem⟩
    obtain ⟨hpos, hcola⟩ := colaDe_eq_some.mp hcola
    exact ⟨_, cola, hcola, hmem, (Int.toNat_of_nonneg hpos).symm⟩
  · rintro ⟨i, cola, hcola, hmem, hdinamica⟩
    refine ⟨cola, ?_, hmem⟩
    rw [hdinamica, colaDe_natCast, hcola]

/-- A process in hand, in READY, enters the queue of its dynamic priority. -/
theorem PorNivel.modificarCola (h : k.PorNivel (pid :: mano)) (hready : (k.pcbs pid).estado = .ready)
    {prioridad : ℤ} (hvalida : k.NivelValido prioridad)
    (hdinamica : (k.pcbs pid).prioridadDinamica = prioridad) (f : List Pid → List Pid)
    (hf : ∀ cola q, (f cola).count q ≤ cola.count q + [pid].count q)
    (hmem : ∀ cola q, q ∈ f cola ↔ q = pid ∨ q ∈ cola) :
    (k.modificarCola prioridad f).PorNivel mano := by
  have hniveles := cantidadNivelesPrioridad_modificarCola k prioridad f
  refine ⟨h.unLugar.modificarCola prioridad f hf, h.nuevos, h.propias, ?_, h.poseedores,
    fun q hq hestado ↦ ?_, fun i cola q hcola hq ↦ ?_⟩
  · unfold NivelValido
    rw [hniveles]
    exact h.validos
  · rw [enSuCola_iff]
    by_cases hpid : q = pid
    · subst hpid
      obtain ⟨cola, hcola⟩ : ∃ cola, k.colasReadyPorPrioridad[prioridad.toNat]? = some cola :=
        ⟨_, List.getElem?_eq_getElem hvalida.lt⟩
      refine ⟨prioridad.toNat, f cola, ?_, (hmem cola q).mpr (.inl rfl), ?_⟩
      · rw [getElem?_modificarCola k hvalida.1, if_pos (Int.toNat_of_nonneg hvalida.1), hcola]
        rfl
      · rw [Int.toNat_of_nonneg hvalida.1]
        exact hdinamica
    · have hfuera : q ∉ pid :: mano := fun hno ↦ (List.mem_cons.mp hno).elim hpid hq
      obtain ⟨i, cola, hcola, hcola', hi⟩ := enSuCola_iff.mp (h.enCola q hfuera hestado)
      by_cases hnivel : (i : ℤ) = prioridad
      · refine ⟨i, f cola, ?_, (hmem cola q).mpr (.inr hcola'), hi⟩
        rw [getElem?_modificarCola k hvalida.1, if_pos hnivel, hcola]
        rfl
      · refine ⟨i, cola, ?_, hcola', hi⟩
        rw [getElem?_modificarCola k hvalida.1, if_neg hnivel, hcola]
  · rw [getElem?_modificarCola k hvalida.1] at hcola
    split at hcola
    · rename_i hnivel
      obtain ⟨cola', hcola', rfl⟩ := Option.map_eq_some_iff.mp hcola
      rcases (hmem cola' q).mp hq with rfl | hq
      · exact ⟨hready, hdinamica.trans hnivel.symm⟩
      · exact h.miembros i cola' q hcola' hq
    · exact h.miembros i cola q hcola hq

theorem PorNivel.verificar (h : k.PorNivel mano) (nuevo : Pid) :
    (k.verificarYDesalojarPorPrioridad nuevo).PorNivel mano := by
  have hsalvo : ∃ enviados, k.verificarYDesalojarPorPrioridad nuevo = { k with enviados := enviados } := by
    unfold verificarYDesalojarPorPrioridad
    split
    · exact ⟨_, rfl⟩
    split
    · exact ⟨_, rfl⟩
    split
    · exact ⟨_, rfl⟩
    · exact ⟨_, rfl⟩
  obtain ⟨enviados, hsalvo⟩ := hsalvo
  rw [hsalvo]
  exact h.of_igual h.unLugar rfl rfl rfl rfl h.poseedores fun q hq hno ↦ absurd hq hno

theorem NivelValido.hayNiveles {prioridad : ℤ} (h : k.NivelValido prioridad) :
    0 < k.cantidadNivelesPrioridad :=
  Nat.zero_lt_of_lt h.lt

theorem PorNivel.aReady (h : k.PorNivel (pid :: mano)) :
    (k.cambiarEstado pid .ready).PorNivel (pid :: mano) :=
  h.enMano List.mem_cons_self _ (.inr (.inl rfl)) rfl rfl

theorem ready_de_cambiarEstado (k : KernelScheduler) (pid : Pid) :
    ((k.cambiarEstado pid .ready).pcbs pid).estado = .ready := by
  unfold KernelScheduler.cambiarEstado
  rw [pcbs_modificarPcb_mismo]

theorem SinHerencia.cambiarEstado {estado : Estado} (h : k.SinHerencia q) :
    (k.cambiarEstado pid estado).SinHerencia q := by
  unfold SinHerencia KernelScheduler.cambiarEstado
  rw [pcbs_modificarPcb]
  split
  · rename_i hpid
    subst hpid
    exact h
  · exact h

theorem PorNivel.alFinal (h : k.PorNivel (pid :: mano)) (hready : (k.pcbs pid).estado = .ready)
    (hsin : k.SinHerencia pid) :
    (k.reencolarProcesoReadyFinal pid (k.pcbs pid).prioridad).PorNivel mano := by
  have hvalida := (h.valido List.mem_cons_self).1
  have hcola := h.modificarCola hready hvalida hsin (· ++ [pid]) (fun cola q ↦ Nat.le_of_eq List.count_append)
    fun cola q ↦ by rw [List.mem_append, List.mem_singleton, or_comm]
  unfold reencolarProcesoReadyFinal
  rw [if_pos hvalida]
  apply PorNivel.verificar
  exact hcola.of_igual hcola.unLugar rfl rfl rfl rfl hcola.poseedores fun q hq hno ↦ absurd hq hno

theorem PorNivel.alInicio (h : k.PorNivel (pid :: mano)) (hready : (k.pcbs pid).estado = .ready)
    (hsin : k.SinHerencia pid) :
    (k.reencolarProcesoReadyInicio pid (k.pcbs pid).prioridad).PorNivel mano := by
  have hvalida := (h.valido List.mem_cons_self).1
  have hcola := h.modificarCola hready hvalida hsin (pid :: ·) (fun cola q ↦ Nat.le_of_eq (count_mano pid cola q))
    fun cola q ↦ List.mem_cons
  unfold reencolarProcesoReadyInicio
  rw [if_pos hvalida]
  exact hcola.of_igual hcola.unLugar rfl rfl rfl rfl hcola.poseedores fun q hq hno ↦ absurd hq hno

/-- Where a process that inherits nothing is queued by its own priority, it is queued right. -/
theorem PorNivel.encolar (h : k.PorNivel (pid :: mano)) (hsin : k.SinHerencia pid) :
    (k.encolarEnReadyYNotificar pid).PorNivel mano := by
  have hready := h.aReady
  have hniveles := (hready.valido List.mem_cons_self).1.hayNiveles
  unfold encolarEnReadyYNotificar
  simp only
  rw [if_pos hniveles]
  exact hready.alFinal (ready_de_cambiarEstado k pid) hsin.cambiarEstado

theorem PorNivel.encolarDesalojado (h : k.PorNivel (pid :: mano)) (hsin : k.SinHerencia pid) :
    (k.encolarDesalojado pid).PorNivel mano := by
  have hready := h.aReady
  have hniveles := (hready.valido List.mem_cons_self).1.hayNiveles
  unfold KernelScheduler.encolarDesalojado
  simp only
  rw [if_pos hniveles]
  exact hready.alInicio (ready_de_cambiarEstado k pid) hsin.cambiarEstado

/-- A process leaves its queue for the hand. -/
theorem PorNivel.sacar (h : k.PorNivel mano) {i : ℕ} {cola : List Pid}
    (hcola : k.colasReadyPorPrioridad[i]? = some cola) (f : List Pid → List Pid)
    (hun : { k with colasReadyPorPrioridad := k.colasReadyPorPrioridad.modify i f }.EnUnLugar
      (pid :: mano))
    (hsigue : ∀ q ∈ cola, q ≠ pid → q ∈ f cola) (hsub : ∀ q ∈ f cola, q ∈ cola) :
    { k with colasReadyPorPrioridad := k.colasReadyPorPrioridad.modify i f }.PorNivel (pid :: mano) := by
  refine ⟨hun, h.nuevos, h.propias, ?_, h.poseedores, fun q hq hestado ↦ ?_,
    fun j cola' q hcola' hq ↦ ?_⟩
  · unfold NivelValido cantidadNivelesPrioridad
    rw [List.length_modify]
    exact h.validos
  · obtain ⟨hpid, hq⟩ := not_or.mp (mt List.mem_cons.mpr hq)
    obtain ⟨j, cola', hcola', hmem, hj⟩ := enSuCola_iff.mp (h.enCola q hq hestado)
    rw [enSuCola_iff]
    simp only [List.getElem?_modify]
    by_cases hij : i = j
    · subst hij
      obtain rfl := Option.some.inj (hcola.symm.trans hcola')
      exact ⟨i, f cola, by simp [hcola], hsigue q hmem hpid, hj⟩
    · exact ⟨j, cola', by simp [hij, hcola'], hmem, hj⟩
  · simp only [List.getElem?_modify] at hcola'
    obtain ⟨cola'', hcola'', rfl⟩ := Option.map_eq_some_iff.mp hcola'
    by_cases hij : i = j
    · subst hij
      obtain rfl := Option.some.inj (hcola.symm.trans hcola'')
      rw [if_pos rfl] at hq
      exact h.miembros i cola q hcola (hsub q hq)
    · rw [if_neg hij] at hq
      exact h.miembros j cola'' q hcola'' hq

/-- What the planner takes out of the queues is in hand. -/
theorem PorNivel.desencolar (h : k.PorNivel mano) :
    k.desencolarProcesoReady.2.PorNivel (k.desencolarProcesoReady.1.toList ++ mano) := by
  have htomado := h.unLugar.desencolar.1
  unfold desencolarProcesoReady at htomado ⊢
  cases hp : k.colasReadyPorPrioridad.findIdx? (· ≠ []) with
  | none => exact h
  | some p =>
    obtain ⟨hlt, hcola, _⟩ := List.findIdx?_eq_some_iff_getElem.mp hp
    obtain ⟨pid, resto, hcola⟩ := List.exists_cons_of_ne_nil (of_decide_eq_true hcola)
    have hp? : k.colasReadyPorPrioridad[p]? = some (pid :: resto) := by
      rw [List.getElem?_eq_getElem hlt, hcola]
    simp only [hp, hp?, Option.bind_some, List.head?_cons] at htomado ⊢
    refine h.sacar hp? List.tail htomado (fun q hq hpid ↦ ?_) fun q hq ↦ List.mem_cons_of_mem _ hq
    exact (List.mem_cons.mp hq).resolve_left hpid

theorem PorNivel.desencolado (h : k.PorNivel mano) (hpop : k.desencolarProcesoReady = (some pid, k')) :
    k'.PorNivel (pid :: mano) ∧ SalvoReady k k' ∧ (k.pcbs pid).estado = .ready := by
  have htomado := h.desencolar
  rw [hpop] at htomado
  refine ⟨htomado, ?_⟩
  unfold desencolarProcesoReady at hpop
  split at hpop
  · cases hpop
  obtain ⟨hpid, rfl⟩ := Prod.mk.inj hpop
  obtain ⟨cola, hcola, hprimero⟩ := Option.bind_eq_some_iff.mp hpid
  exact ⟨Eq.refl _, (h.miembros _ cola pid hcola (List.mem_of_head? hprimero)).1⟩

/-- It has the best dynamic priority of all processes in READY. -/
theorem PorNivel.desencolar_mejor (h : k.PorNivel []) (hpid : k.desencolarProcesoReady.1 = some pid)
    (hq : (k.pcbs q).estado = .ready) :
    (k.pcbs pid).prioridadDinamica ≤ (k.pcbs q).prioridadDinamica := by
  unfold desencolarProcesoReady at hpid
  cases hp : k.colasReadyPorPrioridad.findIdx? (· ≠ []) with
  | none =>
    rw [hp] at hpid
    cases hpid
  | some p =>
    simp only [hp] at hpid
    obtain ⟨cola, hcola, hprimero⟩ := Option.bind_eq_some_iff.mp hpid
    obtain ⟨i, cola', hcola', hmem, hi⟩ := enSuCola_iff.mp (h.enCola q List.not_mem_nil hq)
    rw [(h.miembros p cola pid hcola (List.mem_of_head? hprimero)).2, hi, Int.ofNat_le]
    by_contra hlt
    obtain ⟨_, _, hantes⟩ := List.findIdx?_eq_some_iff_getElem.mp hp
    have hvacia := hantes i (Nat.lt_of_not_le hlt)
    obtain ⟨_, hcola''⟩ := List.getElem?_eq_some_iff.mp hcola'
    rw [hcola''] at hvacia
    simp only [ne_eq, decide_not, Bool.not_eq_true', decide_eq_false_iff_not, not_not] at hvacia
    rw [hvacia] at hmem
    cases hmem

/-! ## Inheritance -/

/-- The dynamic priority of a process that is in no queue changes. -/
theorem PorNivel.cambiarDinamica (h : k.PorNivel mano)
    (hfuera : ∀ (i : ℕ) (cola : List Pid), k.colasReadyPorPrioridad[i]? = some cola → pid ∉ cola)
    (hready : pid ∉ mano → (k.pcbs pid).estado ≠ .ready) (hno : (k.pcbs pid).estado ≠ .new)
    {prioridad : ℤ} (hvalida : k.NivelValido prioridad) :
    (k.cambiarPrioridadDinamica pid prioridad).PorNivel mano := by
  have hsalvo := salvoDinamicas_cambiar k pid prioridad
  have hotro : ∀ q, q ≠ pid → (k.cambiarPrioridadDinamica pid prioridad).pcbs q = k.pcbs q := by
    intro q hq
    unfold cambiarPrioridadDinamica
    rw [pcbs_modificarPcb, if_neg hq]
  have hmismo : ((k.cambiarPrioridadDinamica pid prioridad).pcbs pid).prioridadDinamica = prioridad := by
    unfold cambiarPrioridadDinamica
    rw [pcbs_modificarPcb_mismo]
  refine ⟨h.unLugar.cambiarPrioridadDinamica pid prioridad, fun q ↦ ?_, fun q hq ↦ ?_,
    fun q hvig hq ↦ ?_, fun m hm q hposee ↦ ?_, fun q hq hestado ↦ ?_, fun i cola q hcola hq ↦ ?_⟩
  · rw [hsalvo.estado]
    exact h.nuevos q
  · have hpid : q ≠ pid := by
      rintro rfl
      exact hno ((h.nuevos q).mpr hq)
    unfold SinHerencia
    rw [hotro q hpid]
    exact h.propias q hq
  · unfold Vigente at hvig
    rw [hsalvo.estado] at hvig hq
    have hvalidos := h.validos q hvig hq
    refine ⟨?_, ?_⟩
    · have hprioridad := congrFun hsalvo.prioridades q
      unfold prioridades at hprioridad
      rw [hprioridad]
      exact hvalidos.1
    · by_cases hpid : q = pid
      · subst hpid
        rw [hmismo]
        exact hvalida
      · rw [hotro q hpid]
        exact hvalidos.2
  · unfold Admitido
    rw [hsalvo.estado]
    exact h.poseedores m hm q hposee
  · rw [hsalvo.estado] at hestado
    have hpid : q ≠ pid := by
      rintro rfl
      exact hready hq hestado
    unfold EnSuCola
    rw [hotro q hpid]
    exact h.enCola q hq hestado
  · have hpid : q ≠ pid := by
      rintro rfl
      exact hfuera i cola hcola hq
    rw [hotro q hpid]
    exact h.miembros i cola q hcola hq

/-- A process that inherits another priority moves to the queue of that priority. -/
theorem PorNivel.reubicado (h : k.PorNivel mano) (hno : (k.pcbs pid).estado ≠ .new) {nueva : ℤ}
    (hvalida : k.NivelValido nueva) (hcambia : nueva ≠ (k.pcbs pid).prioridadDinamica) :
    ((k.cambiarPrioridadDinamica pid nueva).reubicarProcesoEnReady pid
      (k.pcbs pid).prioridadDinamica nueva).PorNivel mano := by
  have hsalvo := salvoDinamicas_cambiar k pid nueva
  have hniveles : (k.cambiarPrioridadDinamica pid nueva).cantidadNivelesPrioridad ≠ 0 :=
    Nat.ne_of_gt hvalida.hayNiveles
  unfold reubicarProcesoEnReady
  rw [hsalvo.estado]
  by_cases hready : (k.pcbs pid).estado = .ready
  swap
  · rw [if_pos (.inl hready)]
    refine h.cambiarDinamica (fun i cola hcola hmem ↦ ?_) (fun _ ↦ hready) hno hvalida
    exact hready (h.miembros i cola pid hcola hmem).1
  have hsigue : ¬ ((k.pcbs pid).estado ≠ .ready ∨
      (k.cambiarPrioridadDinamica pid nueva).cantidadNivelesPrioridad = 0 ∨
      (k.pcbs pid).prioridadDinamica = nueva) :=
    fun hno ↦ hno.elim (fun hno ↦ hno hready) (fun hno ↦ hno.elim hniveles fun higual ↦ hcambia higual.symm)
  rw [if_neg hsigue]
  have hcolas : ∀ prioridad, (k.cambiarPrioridadDinamica pid nueva).colaDe prioridad =
      k.colaDe prioridad := fun _ ↦ rfl
  rw [hcolas]
  by_cases hencola : k.EnSuCola pid
  · obtain ⟨cola, hcola, hmem⟩ := hencola
    obtain ⟨hpos, hcola'⟩ := colaDe_eq_some.mp hcola
    have hsacado : { k with
        colasReadyPorPrioridad := k.colasReadyPorPrioridad.modify
          (k.pcbs pid).prioridadDinamica.toNat (·.erase pid) }.PorNivel (pid :: mano) := by
      refine h.sacar hcola' (·.erase pid) ?_ (fun q hq hpid ↦ (List.mem_erase_of_ne hpid).mpr hq)
        fun q ↦ List.mem_of_mem_erase
      refine h.unLugar.of_lugares rfl rfl fun q ↦ ?_
      have hcount := ListModify.count_flatMap_modify hcola' id (·.erase pid) q
      have hperm := (List.perm_cons_erase hmem).count_eq q
      rw [List.flatMap_id, List.flatMap_id] at hcount
      rw [count_mano] at hperm ⊢
      simp only [lugares, List.count_append, id] at hcount ⊢
      omega
    have hvalida' : ((k.cambiarPrioridadDinamica pid nueva).modificarCola
        (k.pcbs pid).prioridadDinamica (·.erase pid)).NivelValido nueva :=
      nivelValido_modificarCola hvalida _
    have hheredado := hsacado.cambiarDinamica (fun i cola ↦ hsacado.fuera List.mem_cons_self)
      (fun hfuera ↦ absurd List.mem_cons_self hfuera) hno hvalida'
    have hdestino : (((k.cambiarPrioridadDinamica pid nueva).modificarCola
        (k.pcbs pid).prioridadDinamica (·.erase pid)).colaDe nueva).isSome := by
      unfold colaDe
      rw [if_pos hvalida.1, List.getElem?_eq_getElem hvalida'.lt]
      rfl
    obtain ⟨destino, hdestino⟩ := Option.isSome_iff_exists.mp hdestino
    simp only [hcola, if_pos hmem, hdestino]
    refine hheredado.modificarCola ?_ hvalida' ?_ (· ++ [pid]) (fun cola q ↦ Nat.le_of_eq List.count_append)
      fun cola q ↦ by rw [List.mem_append, List.mem_singleton, or_comm]
    · exact (hsalvo.estado pid).trans hready
    · unfold cambiarPrioridadDinamica
      rw [pcbs_modificarPcb_mismo]
  · have hmano : pid ∈ mano := by
      by_contra hno
      exact hencola (h.enCola pid hno hready)
    have hfuera := h.cambiarDinamica (fun i cola ↦ h.fuera hmano) (fun hno ↦ absurd hmano hno) hno hvalida
    split
    · exact hfuera
    rename_i cola hcola
    split
    · rename_i hmem
      exact absurd ⟨cola, hcola, hmem⟩ hencola
    · exact hfuera

theorem PorNivel.asignarDinamica (h : k.PorNivel mano) (hno : (k.pcbs pid).estado ≠ .new)
    {prioridad : ℤ} (hvalida : k.NivelValido prioridad) :
    (k.asignarPrioridadDinamica pid prioridad).PorNivel mano := by
  unfold KernelScheduler.asignarPrioridadDinamica
  split
  · rename_i hcambia
    exact h.reubicado hno hvalida hcambia
  · exact h

/-- A process that waits for a mutex is neither new nor at its end. -/
theorem PorNivel.bloqueado (h : k.PorNivel mano) {m : MutexSistema} (hm : m ∈ k.listaMutexes)
    (hpid : pid ∈ m.colaBloqueados) : (k.pcbs pid).estado ≠ .new ∧ k.Vigente pid := by
  have huno := h.unLugar pid
  have hespera : pid ∈ k.listaMutexes.flatMap MutexSistema.colaBloqueados :=
    List.mem_flatMap.mpr ⟨m, hm, hpid⟩
  have hcola := List.count_pos_iff.mpr hespera
  simp only [apariciones, lugares, List.count_append] at huno
  constructor
  · intro hnew
    have hnuevo := List.count_pos_iff.mpr ((h.nuevos pid).mp hnew)
    split at huno <;> omega
  · by_contra hno
    rw [if_neg hno] at huno
    omega

theorem PorNivel.recalcular (h : k.PorNivel mano) (hvigente : k.Vigente pid)
    (hno : (k.pcbs pid).estado ≠ .new) :
    (k.asignarPrioridadDinamica pid (k.maxPrioridad pid)).PorNivel mano := by
  apply h.asignarDinamica hno
  rcases Set.mem_insert_iff.mp (prioridad_maxPrioridad k pid).1 with hpropia | ⟨w, hw, hdinamica⟩
  · rw [hpropia]
    exact (h.validos pid hvigente hno).1
  · rw [← hdinamica]
    obtain ⟨m, hm, _, hcola⟩ := hw
    have hbloqueado := h.bloqueado hm hcola
    exact (h.validos w hbloqueado.2 hbloqueado.1).2

theorem PorNivel.propagar (fuel : ℕ) (h : k.PorNivel mano) (bloqueado : Pid) {aHeredar : ℤ}
    (hvalida : k.NivelValido aHeredar) : (propagarHerencia fuel k bloqueado aHeredar).PorNivel mano := by
  induction fuel generalizing k bloqueado with
  | zero => exact h
  | succ fuel ih =>
    unfold propagarHerencia
    split
    · exact h
    rename_i m hm
    split
    · exact h
    rename_i poseedor hposee
    split
    swap
    · exact h
    rename_i hhereda
    obtain ⟨i, _, hm⟩ := Option.bind_eq_some_iff.mp hm
    have hno := (h.poseedores m (List.mem_of_getElem? hm) poseedor hposee).2
    have hturno := h.reubicado hno hvalida (Int.ne_of_lt hhereda.2)
    simp only
    split
    · refine ih hturno poseedor ?_
      unfold NivelValido
      rw [cantidadNiveles_reubicar]
      exact hvalida
    · exact hturno

/-! ## Mutexes -/

/-- The PCB changes in what plays no role here. -/
theorem PorNivel.mismaPrioridad (h : k.PorNivel mano) (pid : Pid) (f : Pcb → Pcb)
    (hestado : (f (k.pcbs pid)).estado = (k.pcbs pid).estado)
    (hprioridad : (f (k.pcbs pid)).prioridad = (k.pcbs pid).prioridad)
    (hdinamica : (f (k.pcbs pid)).prioridadDinamica = (k.pcbs pid).prioridadDinamica) :
    (k.modificarPcb pid f).PorNivel mano := by
  have hestados : ∀ q, ((k.modificarPcb pid f).pcbs q).estado = (k.pcbs q).estado := by
    intro q
    rw [pcbs_modificarPcb]
    split
    · rename_i hq
      rw [hestado, hq]
    · rfl
  have hprioridades : ∀ q, ((k.modificarPcb pid f).pcbs q).prioridad = (k.pcbs q).prioridad := by
    intro q
    rw [pcbs_modificarPcb]
    split
    · rename_i hq
      rw [hprioridad, hq]
    · rfl
  have hdinamicas : ∀ q, ((k.modificarPcb pid f).pcbs q).prioridadDinamica =
      (k.pcbs q).prioridadDinamica := by
    intro q
    rw [pcbs_modificarPcb]
    split
    · rename_i hq
      rw [hdinamica, hq]
    · rfl
  refine ⟨h.unLugar.modificarPcb pid f (.inl hestado), ?_, ?_, ?_, ?_, ?_, ?_⟩
  · simp only [hestados]
    exact h.nuevos
  · unfold SinHerencia
    simp only [hprioridades, hdinamicas]
    exact h.propias
  · unfold Vigente
    simp only [hestados, hprioridades, hdinamicas]
    exact h.validos
  · unfold Admitido
    simp only [hestados]
    exact h.poseedores
  · unfold EnSuCola
    simp only [hestados, hdinamicas]
    exact h.enCola
  · simp only [hestados, hdinamicas]
    exact h.miembros

/-- The holder of a mutex becomes nobody or a process that is not new. -/
theorem PorNivel.cambiarPoseedor (h : k.PorNivel mano) (i : ℕ) {poseedor : Option Pid}
    (hposeedor : ∀ q ∈ poseedor, k.Admitido q) :
    (k.modificarMutex i fun m ↦ { m with asignadoAPid := poseedor }).PorNivel mano := by
  refine h.of_igual ?_ rfl rfl rfl rfl ?_ fun q hq hno ↦ absurd hq hno
  · exact h.unLugar.modificarMutex i _ fun _ _ ↦ Nat.le_refl _
  · exact ListModify.forall_mem_modify h.poseedores i _ (fun m _ _ ↦ hposeedor) fun _ ↦ id

theorem PorNivel.conMutexNuevo (h : k.PorNivel mano) (nombre : String) :
    (k.conMutexNuevo nombre).PorNivel mano := by
  refine h.of_igual ?_ rfl rfl rfl rfl (fun m hm q hposee ↦ ?_) fun q hq hno ↦ absurd hq hno
  · refine h.unLugar.of_lugares rfl rfl fun q ↦ ?_
    simp [lugares, KernelScheduler.conMutexNuevo, List.count_append]
  · rcases List.mem_append.mp hm with hm | hm
    · exact h.poseedores m hm q hposee
    · obtain rfl := List.mem_singleton.mp hm
      cases hposee

theorem PorNivel.notificarEspera (h : k.PorNivel mano) (pid : Pid) :
    (k.notificarEspera pid).PorNivel mano := by
  have hepoch := h.mismaPrioridad pid (fun p ↦ { p with blockEpoch := p.blockEpoch + 1 }) rfl rfl rfl
  unfold KernelScheduler.notificarEspera notificarProcesoEnBlock
  simp only
  split
  · exact hepoch
  · exact hepoch.of_igual hepoch.unLugar rfl rfl rfl rfl hepoch.poseedores fun q hq hno ↦ absurd hq hno

theorem PorNivel.esperarMutex (h : k.PorNivel (pid :: mano)) (i : ℕ) :
    (k.esperarMutex pid i).PorNivel mano := by
  have hblock := h.enMano List.mem_cons_self (fun p ↦
    { p with estado := .block, mutexEsperando := some i }) (.inr (.inr (.inr rfl))) rfl rfl
  refine hblock.of_igual (h.unLugar.esperarMutex i) rfl rfl rfl rfl ?_ fun q hq hfuera ↦ ?_
  · exact ListModify.forall_mem_modify hblock.poseedores i _ (fun _ _ ↦ id) fun _ ↦ id
  · rw [(List.mem_cons.mp hq).resolve_right hfuera, pcbs_modificarPcb_mismo]
    nofun

/-- A mutex passes to a process that inherits nothing. -/
theorem PorNivel.asignarASiguiente (h : k.PorNivel mano) {i : ℕ} {m : MutexSistema} {siguiente : Pid}
    {resto : List Pid} (hm : k.listaMutexes[i]? = some m)
    (hcola : m.colaBloqueados = siguiente :: resto) (hsin : k.SinHerencia siguiente) :
    (k.asignarASiguiente i siguiente).PorNivel mano := by
  have hprimero : siguiente ∈ m.colaBloqueados := by
    rw [hcola]
    exact List.mem_cons_self
  have hbloqueado := h.bloqueado (List.mem_of_getElem? hm) hprimero
  have hpasado : (k.modificarMutex i fun m ↦ { m with
      asignadoAPid := some siguiente
      colaBloqueados := m.colaBloqueados.tail }).PorNivel (siguiente :: mano) := by
    refine h.of_igual (h.unLugar.sacarDeMutex hm hcola) rfl rfl rfl rfl ?_ fun q hq hfuera ↦
      absurd (List.mem_cons_of_mem siguiente hq) hfuera
    refine ListModify.forall_mem_modify h.poseedores i _ (fun _ _ _ q hq ↦ ?_) fun _ ↦ id
    rw [← Option.some.inj hq]
    exact ⟨hbloqueado.2.1, hbloqueado.1⟩
  have hready := hpasado.enMano List.mem_cons_self (fun p ↦
    { p with mutexEsperando := none, estado := .ready }) (.inr (.inl rfl)) rfl rfl
  apply hready.encolar
  unfold SinHerencia
  rw [pcbs_modificarPcb_mismo]
  exact hsin

end PlugAndPlay.Planificador.KernelScheduler
