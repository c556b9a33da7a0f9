import PlugAndPlay.Planificador.NivelesReadySyscalls

/-!
# Runs of CMN and the inherited priority

The steps keep READY in the order of the inherited priority as long as no process that inherits one is
queued, and so do whole runs.
-/

open PlugAndPlay.Library

namespace PlugAndPlay.Planificador

namespace KernelScheduler

variable {k k' : KernelScheduler} {pid q : Pid} {mano : List Pid}

/-! ## Steps -/

/-- What a return does with the process on the CPU keeps the order of READY. -/
def DevolucionJusta (k : KernelScheduler) (cpuId : ℕ) (motivo : Motivo) (respuesta : RespuestaMemoria) :
    Prop :=
  ∀ pid ∈ (buscarCpu k.cpus cpuId).bind TCpu.procesoActual,
    k.SalidaJusta pid (k.salidaMotivo pid ((buscarCpu k.cpus cpuId).bind TCpu.socket).isSome respuesta
      motivo)

instance (k : KernelScheduler) (cpuId : ℕ) (motivo : Motivo) (respuesta : RespuestaMemoria) :
    Decidable (k.DevolucionJusta cpuId motivo respuesta) :=
  inferInstanceAs (Decidable (∀ pid ∈ (buscarCpu k.cpus cpuId).bind TCpu.procesoActual, _))

theorem socket_modificarCpu (cpus : List TCpu) (cpuId : ℕ) {f : TCpu → TCpu}
    (hid : ∀ c, (f c).cpuId = c.cpuId) (hsocket : ∀ c, (f c).socket = c.socket) :
    (buscarCpu (modificarCpu cpus cpuId f) cpuId).bind TCpu.socket =
      (buscarCpu cpus cpuId).bind TCpu.socket := by
  rw [buscarCpu_modificarCpu_mismo cpus cpuId hid]
  cases buscarCpu cpus cpuId with
  | none => rfl
  | some c => exact hsocket c

/-- A process on a CPU is not in READY. -/
theorem PorNivel.enCpu_noReady (h : k.PorNivel []) {cpuId : ℕ}
    (hpid : (buscarCpu k.cpus cpuId).bind TCpu.procesoActual = some pid) :
    (k.pcbs pid).estado ≠ .ready := by
  obtain ⟨c, hc, hactual⟩ := Option.bind_eq_some_iff.mp hpid
  have hmem : pid ∈ k.cpus.flatMap enCpu :=
    List.mem_flatMap.mpr ⟨c, buscarCpu_mem hc, by rw [enCpu, hactual]; exact List.mem_cons_self⟩
  have hcuenta := List.count_pos_iff.mpr hmem
  apply h.noReady List.not_mem_nil
  omega

theorem PorNivel.recibirDevolverProceso (h : k.PorNivel []) {cpuId : ℕ} {motivo : Motivo}
    {respuesta : RespuestaMemoria} (caida : Bool) (hjusta : k.DevolucionJusta cpuId motivo respuesta) :
    (k.recibirDevolverProceso cpuId motivo respuesta caida).PorNivel [] := by
  unfold KernelScheduler.recibirDevolverProceso
  have hatender : ∀ (f : TCpu → TCpu) (sem : ℕ) (pid : Pid), (∀ c, (f c).cpuId = c.cpuId) →
      (∀ c, (f c).socket = c.socket) →
      (buscarCpu k.cpus cpuId).bind TCpu.procesoActual = some pid →
      { k with
        cpus := Planificador.modificarCpu k.cpus cpuId f
        semCpuDisponible := sem }.PorNivel [pid] →
      ((Planificador.atenderDevuelto pid motivo cpuId respuesta caida).final { k with
        cpus := Planificador.modificarCpu k.cpus cpuId f
        semCpuDisponible := sem }).PorNivel [] := by
    intro f sem pid hid hsocket hpid hretirado
    refine hretirado.atenderDevuelto (h.enCpu_noReady hpid) ?_ motivo caida (hjusta pid hpid)
    show ((buscarCpu (Planificador.modificarCpu k.cpus cpuId f) cpuId).bind TCpu.socket).isSome = _
    rw [socket_modificarCpu k.cpus cpuId hid hsocket]
  have hotros : ∀ {k' : KernelScheduler} {mano : List Pid}, k'.EnUnLugar mano → k'.pcbs = k.pcbs →
      k'.colasReadyPorPrioridad = k.colasReadyPorPrioridad → k'.contadorPids = k.contadorPids →
      k'.colaProcesosNew = k.colaProcesosNew → k'.listaMutexes = k.listaMutexes → k'.PorNivel mano := by
    intro k' mano hun hpcbs hcolas hcontador hnuevos hlista
    exact h.of_igual hun hpcbs hcolas hcontador hnuevos (hlista ▸ h.poseedores)
      fun q hq _ ↦ absurd hq List.not_mem_nil
  by_cases hmemoria : motivo.EsSyscallMemoria
  · have hun := h.unLugar.retirarProcesoReservando cpuId
    simp only [if_pos hmemoria]
    simp only [KernelScheduler.retirarProcesoReservando, retirarProcesoDeCpuReservando] at hun ⊢
    cases hactual : (buscarCpu k.cpus cpuId).bind TCpu.procesoActual with
    | none =>
      rw [hactual] at hun
      exact PorNivel.liberarReservada (hotros hun rfl rfl rfl rfl rfl) cpuId
    | some pid =>
      rw [hactual] at hun
      exact hatender _ _ pid (fun _ ↦ Eq.refl _) (fun _ ↦ Eq.refl _) hactual
        (hotros hun rfl rfl rfl rfl rfl)
  · have hun := h.unLugar.retirarProceso cpuId
    simp only [if_neg hmemoria]
    simp only [KernelScheduler.retirarProceso, retirarProcesoDeCpu] at hun ⊢
    cases hactual : (buscarCpu k.cpus cpuId).bind TCpu.procesoActual with
    | none =>
      rw [hactual] at hun
      exact hotros hun rfl rfl rfl rfl rfl
    | some pid =>
      rw [hactual] at hun
      exact hatender _ _ pid (fun _ ↦ Eq.refl _) (fun _ ↦ Eq.refl _) hactual
        (hotros hun rfl rfl rfl rfl rfl)

/-- Only places that play no role change, and nothing leaves the hand. -/
theorem PorNivel.of_resto (h : k.PorNivel mano) (hun : k'.EnUnLugar mano) (hpcbs : k'.pcbs = k.pcbs)
    (hcolas : k'.colasReadyPorPrioridad = k.colasReadyPorPrioridad)
    (hcontador : k'.contadorPids = k.contadorPids)
    (hnuevos : k'.colaProcesosNew = k.colaProcesosNew)
    (hlista : k'.listaMutexes = k.listaMutexes) : k'.PorNivel mano :=
  h.of_igual hun hpcbs hcolas hcontador hnuevos (hlista ▸ h.poseedores) fun _ hq hno ↦ absurd hq hno

theorem PorNivel.admitir (h : k.PorNivel []) {resto : List Pid} (hcola : k.colaProcesosNew = pid :: resto)
    (hvalida : k.NivelValido (k.pcbs pid).prioridad) (semNew : ℕ) :
    ({ k with colaProcesosNew := resto, semNew := semNew }.cambiarEstado pid .ready).PorNivel [pid] ∧
      k.SinHerencia pid := by
  have hotro : ∀ q, q ≠ pid → (k.cambiarEstado pid .ready).pcbs q = k.pcbs q := by
    intro q hq
    unfold KernelScheduler.cambiarEstado
    rw [pcbs_modificarPcb, if_neg hq]
  have hmismo : (k.cambiarEstado pid .ready).pcbs pid = { k.pcbs pid with estado := .ready } :=
    k.pcbs_modificarPcb_mismo pid _
  have hmem : pid ∈ k.colaProcesosNew := by
    rw [hcola]
    exact List.mem_cons_self
  have hsin := h.propias pid hmem
  have hsacado : { k with colaProcesosNew := resto, semNew := semNew }.EnUnLugar [pid] := by
    refine h.unLugar.of_lugares rfl rfl fun q ↦ ?_
    simp only [lugares, hcola, List.count_append, count_mano pid resto, List.count_nil]
    omega
  have huna : pid ∉ resto := by
    have huno := h.unLugar pid
    intro hmem
    have hcuenta := List.count_pos_iff.mpr hmem
    simp only [apariciones, lugares, hcola, List.count_append, List.count_cons_self] at huno
    split at huno <;> omega
  have hnueva : (k.pcbs pid).estado = .new := (h.nuevos pid).mpr hmem
  refine ⟨⟨hsacado.cambiarAReady pid, fun q ↦ ?_, fun q hq ↦ ?_, fun q hvig hq ↦ ?_,
    fun m hm q hposee ↦ ?_, fun q hq hestado ↦ ?_, fun i cola q hcola' hq ↦ ?_⟩, hsin⟩
  · show ((k.cambiarEstado pid .ready).pcbs q).estado = .new ↔ q ∈ resto
    by_cases hpid : q = pid
    · rw [hpid, hmismo]
      exact iff_of_false (by rintro ⟨⟩) huna
    · rw [hotro q hpid, h.nuevos q, hcola, List.mem_cons]
      exact or_iff_right hpid
  · have hq : q ∈ resto := hq
    have hpid : q ≠ pid := by
      rintro rfl
      exact huna hq
    show ((k.cambiarEstado pid .ready).pcbs q).prioridadDinamica =
      ((k.cambiarEstado pid .ready).pcbs q).prioridad
    rw [hotro q hpid]
    apply h.propias q
    rw [hcola]
    exact List.mem_cons_of_mem pid hq
  · show k.NivelValido ((k.cambiarEstado pid .ready).pcbs q).prioridad ∧
      k.NivelValido ((k.cambiarEstado pid .ready).pcbs q).prioridadDinamica
    by_cases hpid : q = pid
    · rw [hpid, hmismo]
      refine ⟨hvalida, ?_⟩
      rw [hsin]
      exact hvalida
    · have hvig : q < k.contadorPids ∧ ((k.cambiarEstado pid .ready).pcbs q).estado ≠ .exitState := hvig
      have hq : ((k.cambiarEstado pid .ready).pcbs q).estado ≠ .new := hq
      rw [hotro q hpid] at hvig hq ⊢
      exact h.validos q hvig hq
  · have hposeedor := h.poseedores m hm q hposee
    have hpid : q ≠ pid := by
      rintro rfl
      exact hposeedor.2 hnueva
    show q < k.contadorPids ∧ ((k.cambiarEstado pid .ready).pcbs q).estado ≠ .new
    rw [hotro q hpid]
    exact hposeedor
  · have hpid : q ≠ pid := fun hpid ↦ hq (List.mem_singleton.mpr hpid)
    have hestado : ((k.cambiarEstado pid .ready).pcbs q).estado = .ready := hestado
    show ∃ cola, k.colaDe ((k.cambiarEstado pid .ready).pcbs q).prioridadDinamica = some cola ∧ q ∈ cola
    rw [hotro q hpid] at hestado ⊢
    exact h.enCola q List.not_mem_nil hestado
  · have hcola' : k.colasReadyPorPrioridad[i]? = some cola := hcola'
    have hpid : q ≠ pid := by
      rintro rfl
      have hready := (h.miembros i cola q hcola' hq).1
      rw [hnueva] at hready
      cases hready
    show ((k.cambiarEstado pid .ready).pcbs q).estado = .ready ∧
      ((k.cambiarEstado pid .ready).pcbs q).prioridadDinamica = i
    rw [hotro q hpid]
    exact h.miembros i cola q hcola' hq

theorem prioridad_cambiarEstado (k : KernelScheduler) (pid : Pid) (estado : Estado) :
    ((k.cambiarEstado pid estado).pcbs pid).prioridad = (k.pcbs pid).prioridad := by
  unfold KernelScheduler.cambiarEstado
  rw [pcbs_modificarPcb_mismo]

theorem PorNivel.planificarLargoPlazo (h : k.PorNivel [])
    (hvalida : ∀ pid ∈ k.colaProcesosNew.head?, k.NivelValido (k.pcbs pid).prioridad)
    (hpaso : k.planificarLargoPlazo = some k') : k'.PorNivel [] := by
  unfold KernelScheduler.planificarLargoPlazo at hpaso
  split at hpaso
  · cases hpaso
  simp only at hpaso
  split at hpaso
  · cases hpaso
    exact h.of_resto h.unLugar rfl rfl rfl rfl rfl
  rename_i pid resto hcola
  have hcola : k.colaProcesosNew = pid :: resto := hcola
  have hvalida' := hvalida pid (by rw [hcola]; rfl)
  obtain ⟨hready, hsin⟩ := h.admitir hcola hvalida' (k.semNew - 1)
  split at hpaso
  swap
  · rename_i hno
    exact absurd hvalida'.hayNiveles hno
  cases hpaso
  unfold encolarEnReadyPorPrioridad
  have hvalido := (hready.valido List.mem_cons_self).1
  rw [if_pos hvalido]
  have hfinal := hready.aReady.alFinal (ready_de_cambiarEstado _ pid) hsin.cambiarEstado.cambiarEstado
  rw [prioridad_cambiarEstado] at hfinal
  unfold reencolarProcesoReadyFinal at hfinal
  split at hfinal
  · exact hfinal
  · rename_i hno
    exact absurd hvalido hno

theorem PorNivel.exec (h : k.PorNivel [pid]) {cpus : List TCpu}
    (hun : { k with cpus := cpus }.EnUnLugar []) (cpu : TCpu) (ahora : ℤ) (quantum : UInt32)
    (rr : Bool) (fase : FasePcp) :
    ({ k with cpus := cpus, fasePcp := fase }.ponerEnExec pid cpu ahora quantum rr).PorNivel [] := by
  have hexec := h.enMano List.mem_cons_self (fun p ↦
    { p with estado := .exec, tiempoInicioEjecucion := ahora, quantumRestante := quantum })
    (.inr (.inr (.inl rfl))) rfl rfl
  have hponer := EnUnLugar.ponerEnExec (k := { k with cpus := cpus, fasePcp := fase }) hun pid cpu ahora
    quantum rr
  have hfuera : ∀ q ∈ [pid], q ∉ ([] : List Pid) → ((k.modificarPcb pid fun p ↦ { p with
      estado := .exec, tiempoInicioEjecucion := ahora, quantumRestante := quantum }).pcbs q).estado ≠
        .ready := by
    intro q hq _
    rw [List.mem_singleton.mp hq, pcbs_modificarPcb_mismo]
    nofun
  unfold KernelScheduler.ponerEnExec at hponer ⊢
  simp only at hponer ⊢
  cases hsocket : cpu.socket with
  | none =>
    rw [hsocket] at hponer
    split
    · rename_i hrr
      rw [if_pos hrr] at hponer
      exact hexec.of_igual hponer rfl rfl rfl rfl hexec.poseedores hfuera
    · rename_i hrr
      rw [if_neg hrr] at hponer
      exact hexec.of_igual hponer rfl rfl rfl rfl hexec.poseedores hfuera
  | some socket =>
    rw [hsocket] at hponer
    split
    · rename_i hrr
      rw [if_pos hrr] at hponer
      exact hexec.of_igual hponer rfl rfl rfl rfl hexec.poseedores hfuera
    · rename_i hrr
      rw [if_neg hrr] at hponer
      exact hexec.of_igual hponer rfl rfl rfl rfl hexec.poseedores hfuera

/-- What is taken from the single queue is not in READY; there are queues by priority for that. -/
theorem PorNivel.popReady (h : k.PorNivel []) {proceso : Option Pid} (hpop : k.popReady = (proceso, k')) :
    k'.PorNivel proceso.toList ∧ ∀ pid ∈ proceso, (k'.pcbs pid).estado ≠ .ready := by
  have hun := h.unLugar.popReady.1
  rw [hpop] at hun
  unfold KernelScheduler.popReady at hpop
  cases hcola : k.colaProcesosReady with
  | nil =>
    rw [hcola] at hpop
    cases hpop
    exact ⟨h, nofun⟩
  | cons pid resto =>
    rw [hcola] at hpop
    cases hpop
    have hno : (k.pcbs pid).estado ≠ .ready := by
      apply h.noReady List.not_mem_nil
      rw [hcola, List.count_cons_self]
      omega
    refine ⟨h.of_igual hun rfl rfl rfl rfl h.poseedores fun q hq ↦ absurd hq List.not_mem_nil, ?_⟩
    intro q hq
    rwa [← Option.some.inj hq]

/-- What a failed dispatch queues again inherits nothing. -/
def FalloJusto (k : KernelScheduler) : Prop :=
  k.fasePcp = .despachar → hayCpuLibre k.cpus = false → ∀ pid ∈ k.obtenerProximoProcesoReady.1,
    k.SinHerencia pid

instance (k : KernelScheduler) : Decidable k.FalloJusto :=
  inferInstanceAs (Decidable (_ → _ → ∀ pid ∈ k.obtenerProximoProcesoReady.1, _))

theorem hayCpuLibre_de_elegirCpu {cpus cpus' : List TCpu}
    (helegir : Planificador.elegirCpu cpus pid = (none, cpus')) : hayCpuLibre cpus = false := by
  unfold Planificador.elegirCpu at helegir
  split at helegir
  · rename_i hi
    unfold hayCpuLibre
    rw [List.any_eq_false]
    intro c hc
    simpa using List.findIdx?_eq_none_iff.mp hi c hc
  · rename_i i hi
    obtain ⟨hlt, _⟩ := List.findIdx?_eq_some_iff_getElem.mp hi
    rw [List.getElem?_eq_getElem hlt] at helegir
    cases (Prod.mk.inj helegir).1

theorem PorNivel.despachar (h : k.PorNivel []) (hfase : k.fasePcp = .despachar) (hjusto : k.FalloJusto)
    (ahora : ℤ) : (k.despachar ahora).PorNivel [] := by
  have hfallo := hjusto hfase
  unfold KernelScheduler.despachar
  unfold obtenerProximoProcesoReady at hfallo ⊢
  by_cases hcmn : k.config.algoritmoGlobal = .cmn
  · rw [if_pos hcmn] at hfallo ⊢
    by_cases hniveles : k.cantidadNivelesPrioridad = 0
    · rw [if_pos hniveles]
      exact h.of_resto h.unLugar rfl rfl rfl rfl rfl
    rw [if_neg hniveles] at hfallo ⊢
    cases hpop : k.desencolarProcesoReady with
    | mk proceso k₁ =>
      rw [hpop] at hfallo
      cases proceso with
      | none =>
        have htomado := h.desencolar
        rw [hpop] at htomado
        exact PorNivel.of_resto htomado htomado.unLugar rfl rfl rfl rfl rfl
      | some pid =>
        obtain ⟨hmano, hsalvo, hready⟩ := h.desencolado hpop
        have hvalido := (hmano.valido List.mem_cons_self).1
        simp only
        rw [if_neg fun hno ↦ hno.2 hvalido]
        split
        · rename_i helegir
          rw [hsalvo.cpus] at helegir
          have hsin : k₁.SinHerencia pid := by
            have hsin := hfallo (hayCpuLibre_de_elegirCpu helegir) pid rfl
            unfold SinHerencia at hsin ⊢
            rwa [hsalvo.pcbs]
          have hvuelve := hmano.alInicio (by rw [hsalvo.pcbs]; exact hready) hsin
          unfold reencolarPorFalloDeEnvio
          rw [if_pos (by rw [hsalvo.config]; exact hcmn)]
          exact hvuelve.of_resto hvuelve.unLugar rfl rfl rfl rfl rfl
        · rename_i cpu cpus helegir
          exact hmano.exec (hmano.unLugar.elegirCpu helegir (Option.some_ne_none _)) cpu ahora _ _ _
  · rw [if_neg hcmn]
    cases hpop : k.popReady with
    | mk proceso k₁ =>
      obtain ⟨hmano, hno⟩ := h.popReady hpop
      cases proceso with
      | none => exact hmano.of_resto hmano.unLugar rfl rfl rfl rfl rfl
      | some pid =>
        have hconfig : k.popReady.2.config = k.config := by
          unfold KernelScheduler.popReady
          split <;> rfl
        rw [hpop] at hconfig
        have hcmn₁ : ¬ k₁.config.algoritmoGlobal = .cmn := hconfig ▸ hcmn
        simp only
        rw [if_neg fun hno ↦ hcmn₁ hno.1]
        split
        · have hun := hmano.unLugar.reencolarPorFallo
          unfold reencolarPorFalloDeEnvio at hun ⊢
          rw [if_neg hcmn₁] at hun ⊢
          have hfuera : ∀ q ∈ [pid], q ∉ ([] : List Pid) → (k₁.pcbs q).estado ≠ .ready := by
            intro q hq _
            rw [List.mem_singleton.mp hq]
            exact hno pid rfl
          split
          · rename_i hrr
            rw [if_pos hrr] at hun
            exact hmano.of_igual hun rfl rfl rfl rfl hmano.poseedores hfuera
          · rename_i hrr
            rw [if_neg hrr] at hun
            exact hmano.of_igual hun rfl rfl rfl rfl hmano.poseedores hfuera
        · rename_i cpu cpus helegir
          exact hmano.exec (EnUnLugar.elegirCpu hmano.unLugar helegir (Option.some_ne_none _)) cpu ahora
            _ _ _

theorem PorNivel.planificarCortoPlazo (h : k.PorNivel []) (hjusto : k.FalloJusto) {ahora : ℤ}
    (hpaso : k.planificarCortoPlazo ahora = some k') : k'.PorNivel [] := by
  unfold KernelScheduler.planificarCortoPlazo at hpaso
  split at hpaso
  · split at hpaso
    · cases hpaso
    split at hpaso
    · cases hpaso
      exact h
    split at hpaso
    · cases hpaso
      exact h.of_resto h.unLugar rfl rfl rfl rfl rfl
    · cases hpaso
      exact h.of_resto h.unLugar rfl rfl rfl rfl rfl
  · rename_i hfase
    cases hpaso
    exact h.despachar hfase hjusto ahora
  · split at hpaso
    · cases hpaso
    · cases hpaso
      exact h.of_resto h.unLugar rfl rfl rfl rfl rfl
  · split at hpaso
    · cases hpaso
      exact h.of_resto h.unLugar rfl rfl rfl rfl rfl
    split at hpaso
    · cases hpaso
    · cases hpaso
      exact h.of_resto h.unLugar rfl rfl rfl rfl rfl

/-! ### BLOCK and SUSP_READY -/

/-- A process leaves BLOCK into the hand; it is not in READY. -/
theorem PorNivel.extraer (h : k.PorNivel []) (hextraer : k.extraerDeBlock pid = .extraido k') :
    k'.PorNivel [pid] ∧ (k'.pcbs pid).estado ≠ .ready := by
  have hun := h.unLugar.extraer hextraer
  unfold extraerDeBlock at hextraer
  split at hextraer
  swap
  · cases hextraer
  rename_i hmem
  have hno : (k.pcbs pid).estado ≠ .ready := by
    have hcuenta := List.count_pos_iff.mpr hmem
    apply h.noReady List.not_mem_nil
    omega
  split at hextraer
  · cases hextraer
  · cases hextraer
    exact ⟨h.of_igual hun rfl rfl rfl rfl h.poseedores fun q hq ↦ absurd hq List.not_mem_nil, hno⟩

/-- A process in hand goes to SUSP_READY. -/
theorem PorNivel.aSuspReady (h : k.PorNivel (pid :: mano)) (f : Pcb → Pcb)
    (hestado : (f (k.pcbs pid)).estado = .suspReady)
    (hprioridad : (f (k.pcbs pid)).prioridad = (k.pcbs pid).prioridad)
    (hdinamica : (f (k.pcbs pid)).prioridadDinamica = (k.pcbs pid).prioridadDinamica) :
    (k.modificarPcb pid f).PorNivel mano := by
  have hen : pid ∈ pid :: mano := List.mem_cons_self
  refine h.conPcb f (h.unLugar.aSuspReady f hestado) (fun _ ↦ h.vigente hen) (h.iniciado hen) ?_ hprioridad
    hdinamica (fun i cola ↦ h.fuera hen) (fun _ ↦ ?_) fun q hq hno hmem ↦ ?_
  · rw [hestado]
    nofun
  · rw [hestado]
    nofun
  · exact (List.mem_cons.mp hmem).elim hq hno

theorem PorNivel.notificarReevaluar (h : k.PorNivel mano) :
    k.notificarReevaluarSuspendidos.PorNivel mano :=
  h.of_resto h.unLugar rfl rfl rfl rfl rfl

theorem PorNivel.desbloquear (h : k.PorNivel [pid])
    (hjusta : (k.pcbs pid).estado ≠ .suspBlock → k.SinHerencia pid) :
    (k.desbloquear pid).PorNivel [] := by
  unfold KernelScheduler.desbloquear
  split
  · exact (h.aSuspReady _ rfl rfl rfl).notificarReevaluar
  · rename_i hno
    exact h.encolar (hjusta hno)

theorem PorNivel.concluirIo {req : IoRequest} (h : k.PorNivel [req.proceso]) (datos : List UInt8)
    {escritura : RespuestaMemoria} (hjusta : k.SalidaJusta req.proceso (k.salidaIo req escritura)) :
    ((Planificador.concluirIo req datos escritura).final k).PorNivel [] := by
  unfold salidaIo at hjusta
  have hdesbloquear : req.tipo ≠ .stdin → (k.desbloquear req.proceso).PorNivel [] := by
    intro htipo
    refine h.desbloquear fun hno ↦ ?_
    rw [if_neg hno, if_neg fun hstdin ↦ htipo hstdin.1] at hjusta
    exact hjusta
  unfold Planificador.concluirIo
  cases htipo : req.tipo with
  | sleep => exact hdesbloquear (by rw [htipo]; nofun)
  | stdout => exact hdesbloquear (by rw [htipo]; nofun)
  | stdin =>
    simp only
    unfold Blocking.final
    rw [Blocking.bind_ok (x := get) rfl]
    by_cases hsusp : (k.pcbs req.proceso).estado = .suspBlock
    · rw [if_pos hsusp]
      exact (h.aSuspReady (fun p ↦ { p with
        stdinPendiente := some ⟨UInt32.ofInt req.dir, datos⟩, estado := .suspReady })
        rfl rfl rfl).notificarReevaluar
    rw [if_neg hsusp] at hjusta ⊢
    by_cases hescrita : escritura = .ok
    · rw [if_neg fun hno ↦ hno.2 hescrita] at hjusta
      rw [if_pos hescrita]
      exact h.encolar hjusta
    · rw [if_pos ⟨htipo, hescrita⟩] at hjusta
      rw [if_neg hescrita]
      exact (porNivel_finalizarPcb req.proceso).final ⟨h.finalizar, hjusta⟩

theorem PorNivel.modificarIo (h : k.PorNivel mano) (i : ℕ) (f : InterfazIo → InterfazIo) :
    (k.modificarIo i f).PorNivel mano :=
  h.of_resto (h.unLugar.modificarIo i f) rfl rfl rfl rfl rfl

/-- What the end of an IO does with the process that it takes out of BLOCK keeps the order of READY. -/
def FinIoJusto (k : KernelScheduler) (i : ℕ) (escritura : RespuestaMemoria) : Prop :=
  ∀ req ∈ k.tablaIos[i]?.bind InterfazIo.atendido, req.proceso ∈ k.colaProcesosBlock →
    k.SalidaJusta req.proceso (k.salidaIo req escritura)

instance (k : KernelScheduler) (i : ℕ) (escritura : RespuestaMemoria) :
    Decidable (k.FinIoJusto i escritura) :=
  inferInstanceAs (Decidable (∀ req ∈ k.tablaIos[i]?.bind InterfazIo.atendido, _ → _))

theorem PorNivel.terminarIo (h : k.PorNivel []) {i : ℕ} {fin : FinIo} {escritura : RespuestaMemoria}
    (hjusto : fin ≠ .error → k.FinIoJusto i escritura)
    (hpaso : k.terminarIo i fin escritura = some k') : k'.PorNivel [] := by
  unfold KernelScheduler.terminarIo at hpaso
  cases hatendido : k.tablaIos[i]?.bind InterfazIo.atendido with
  | none =>
    rw [hatendido] at hpaso
    cases hpaso
  | some req =>
    simp only [hatendido] at hpaso
    cases fin with
    | error =>
      cases hpaso
      exact h.modificarIo i _
    | finalizada datos =>
      have hjusto := hjusto nofun req hatendido
      simp only at hpaso
      split at hpaso
      · cases hpaso
        exact h.modificarIo i _
      · cases hpaso
      · rename_i hextraer
        cases hpaso
        have hmano := ((h.modificarIo i _).extraer hextraer).1
        unfold extraerDeBlock at hextraer
        split at hextraer
        swap
        · cases hextraer
        rename_i hmem
        split at hextraer
        · cases hextraer
        · cases hextraer
          exact hmano.concluirIo datos (hjusto hmem)

theorem PorNivel.vencerSuspension (h : k.PorNivel []) {i : ℕ} (hpaso : k.vencerSuspension i = some k') :
    k'.PorNivel [] := by
  have hun := h.unLugar.vencerSuspension hpaso
  unfold KernelScheduler.vencerSuspension at hpaso
  split at hpaso
  · cases hpaso
  split at hpaso
  · cases hpaso
  rename_i t _ _
  split at hpaso
  · rename_i hblock
    cases hpaso
    have hcuenta := List.count_pos_iff.mpr hblock.1
    have hvigente : k.Vigente t.pid := by
      have huno := h.unLugar t.pid
      by_contra hno
      rw [if_neg hno] at huno
      simp only [apariciones, lugares, List.count_append] at huno
      omega
    have hsusp := h.conPcb (fun p ↦ { p with estado := .suspBlock, suspendidoEnSwap := false })
      (h.unLugar.modificarPcb t.pid _ (.inr ⟨by rintro ⟨⟩, by rintro ⟨⟩⟩)) (fun _ ↦ hvigente)
      (by rw [hblock.2.1]; rintro ⟨⟩) (by rintro ⟨⟩) rfl rfl
      (fun i cola ↦ h.unLugar.fuera_de_colas (by omega)) (fun _ ↦ by rintro ⟨⟩) fun _ _ ↦ id
    exact hsusp.of_resto hun rfl rfl rfl rfl rfl
  · cases hpaso
    exact h.of_resto hun rfl rfl rfl rfl rfl

theorem PorNivel.terminarSuspension (h : k.PorNivel []) {i : ℕ}
    (hpaso : k.terminarSuspension i = some k') : k'.PorNivel [] := by
  unfold KernelScheduler.terminarSuspension at hpaso
  split at hpaso
  · cases hpaso
  split at hpaso
  · cases hpaso
  rename_i t _ _
  cases hpaso
  apply PorNivel.notificarReevaluar
  have hsacado : { k with timersSuspension := k.timersSuspension.eraseIdx i }.PorNivel [] :=
    h.of_resto h.unLugar rfl rfl rfl rfl rfl
  split
  · exact hsacado.mismaPrioridad t.pid (fun p ↦ { p with suspendidoEnSwap := true }) rfl rfl rfl
  · exact hsacado

/-- A process leaves SUSP_READY, into the hand or for its end. -/
theorem PorNivel.deSuspReady (h : k.PorNivel []) (hestado : (k.pcbs pid).estado = .suspReady) :
    (k.cambiarEstado pid .ready).PorNivel [pid] ∧ (k.cambiarEstado pid .exitState).PorNivel [] := by
  have huno := h.unLugar pid
  unfold apariciones enSuspReady at huno
  rw [if_pos hestado] at huno
  have hvigente : k.Vigente pid := by
    by_contra hno
    rw [if_neg hno] at huno
    omega
  have hnueva : (k.pcbs pid).estado ≠ .new := by
    rw [hestado]
    nofun
  have hfuera : ∀ (i : ℕ) (cola : List Pid), k.colasReadyPorPrioridad[i]? = some cola → pid ∉ cola := by
    intro i cola
    refine h.unLugar.fuera_de_colas ?_
    unfold enSuspReady
    rw [if_pos hestado]
    omega
  constructor
  · exact h.conPcb _ (h.unLugar.deSuspReady hestado) (fun _ ↦ hvigente) hnueva nofun rfl rfl hfuera
      (fun hno ↦ absurd List.mem_cons_self hno) fun q _ _ ↦ List.not_mem_nil
  · exact h.conPcb _ (h.unLugar.finalizarSuspReady hestado) (fun _ ↦ hvigente) hnueva nofun rfl rfl hfuera
      (fun _ ↦ nofun) fun q _ _ ↦ List.not_mem_nil

/-- Where a process that leaves SUSP_READY goes; `escritura` is the answer to the write of what it
read. -/
def salidaDesSuspender (k : KernelScheduler) (pid : Pid) (escritura : RespuestaMemoria) : Salida :=
  if (k.pcbs pid).stdinPendiente.isSome ∧ escritura ≠ .ok then .termina else .aReady

theorem PorNivel.desSuspender (h : k.PorNivel []) {respuesta escritura : RespuestaMemoria}
    (hjusta : respuesta = .ok → k.SalidaJusta pid (k.salidaDesSuspender pid escritura))
    (hpaso : k.desSuspender pid respuesta escritura = some k') : k'.PorNivel [] := by
  unfold KernelScheduler.desSuspender at hpaso
  split at hpaso
  swap
  · cases hpaso
  rename_i hsusp
  split at hpaso
  · cases hpaso
    exact h
  rename_i hrespuesta
  have hjusta := hjusta (not_not.mp hrespuesta)
  unfold salidaDesSuspender at hjusta
  have hencolar : ∀ k₁ : KernelScheduler, k₁.PorNivel [] → (k₁.pcbs pid).estado = .suspReady →
      k₁.SinHerencia pid → (k₁.encolarEnReadyYNotificar pid).PorNivel [] := by
    intro k₁ hk₁ hestado hsin
    rw [← encolar_cambiarEstado]
    exact (hk₁.deSuspReady hestado).1.encolar hsin.cambiarEstado
  have hsacado : (k.removerDeListaSuspendidos pid).PorNivel [] :=
    h.of_resto h.unLugar rfl rfl rfl rfl rfl
  simp only at hpaso
  split at hpaso
  · rename_i hpendiente
    have hpendiente : (k.pcbs pid).stdinPendiente = none := Option.isNone_iff_eq_none.mp hpendiente
    have hnada : (k.pcbs pid).stdinPendiente.isSome = false := by
      rw [hpendiente]
      rfl
    rw [if_neg fun hno ↦ by rw [hnada] at hno; exact Bool.false_ne_true hno.1] at hjusta
    cases hpaso
    exact hencolar _ hsacado hsusp.2 hjusta
  rename_i hpendiente
  have hhay : (k.pcbs pid).stdinPendiente.isSome := by
    cases hp : (k.pcbs pid).stdinPendiente with
    | none => exact absurd (by show (k.pcbs pid).stdinPendiente.isNone; rw [hp]; rfl) hpendiente
    | some p => rfl
  have hleido := hsacado.mismaPrioridad pid (fun p ↦ { p with stdinPendiente := none }) rfl rfl rfl
  have hestado : (((k.removerDeListaSuspendidos pid).modificarPcb pid fun p ↦
      { p with stdinPendiente := none }).pcbs pid).estado = .suspReady := by
    rw [pcbs_modificarPcb_mismo]
    exact hsusp.2
  split at hpaso
  · rename_i hescrita
    rw [if_neg fun hno ↦ hno.2 hescrita] at hjusta
    cases hpaso
    refine hencolar _ hleido hestado ?_
    unfold SinHerencia
    rw [pcbs_modificarPcb_mismo]
    exact hjusta
  · rename_i hescrita
    rw [if_pos ⟨hhay, hescrita⟩] at hjusta
    cases hpaso
    refine (porNivel_finalizarPcb pid).final ⟨(hleido.deSuspReady hestado).2, fun hlibre m hm q hq ↦ ?_⟩
    have hsin := hjusta hlibre m hm q hq
    unfold SinHerencia at hsin ⊢
    rw [pcbs_modificarPcb]
    split
    · rename_i hpid
      rw [hpid] at hsin
      exact hsin
    · exact hsin

/-! ### Connections -/

theorem PorNivel.conectarCpu (h : k.PorNivel []) (socket : Socket) (cpuId : ℕ) :
    (k.conectarCpu socket cpuId).PorNivel [] := by
  have hun := h.unLugar.conectarCpu socket cpuId
  unfold KernelScheduler.conectarCpu at hun ⊢
  simp only at hun ⊢
  split
  · rename_i hcola
    rw [if_pos hcola] at hun
    exact h.of_resto hun rfl rfl rfl rfl rfl
  · rename_i hcola
    rw [if_neg hcola] at hun
    exact h.of_resto hun rfl rfl rfl rfl rfl

theorem PorNivel.vencerTimerQuantum (h : k.PorNivel []) (t : TimerQuantum) :
    (k.vencerTimerQuantum t).PorNivel [] := by
  have hun := h.unLugar.vencerTimerQuantum t
  unfold KernelScheduler.vencerTimerQuantum at hun ⊢
  simp only at hun ⊢
  cases hsocket : (vencerQuantum k.cpus t.cpuId t.pid).1.bind TCpu.socket with
  | none =>
    rw [hsocket] at hun
    exact h.of_resto hun rfl rfl rfl rfl rfl
  | some socket =>
    rw [hsocket] at hun
    exact h.of_resto hun rfl rfl rfl rfl rfl

theorem PorNivel.tomarIo (h : k.PorNivel []) {i : ℕ} (hpaso : k.tomarIo i = some k') :
    k'.PorNivel [] := by
  unfold KernelScheduler.tomarIo at hpaso
  split at hpaso
  · cases hpaso
  split at hpaso
  · cases hpaso
    exact h.modificarIo i _
  · cases hpaso

end KernelScheduler

/-! ## Runs -/

open KernelScheduler

/-- Whatever the step queues inherits nothing, and the process that is admitted has a queue. -/
def ColasJustas (k : KernelScheduler) : Evento → Prop
  | .planificarLargoPlazo => ∀ pid ∈ k.colaProcesosNew.head?, k.NivelValido (k.pcbs pid).prioridad
  | .planificarCortoPlazo _ => k.FalloJusto
  | .devolverProceso r motivo respuesta _ => k.DevolucionJusta r.cpuId motivo respuesta
  | .terminarIo i fin escritura => fin ≠ .error → k.FinIoJusto i escritura
  | .desSuspender pid respuesta escritura =>
    respuesta = .ok → k.SalidaJusta pid (k.salidaDesSuspender pid escritura)
  | _ => True

instance (k : KernelScheduler) : (e : Evento) → Decidable (ColasJustas k e)
  | .planificarLargoPlazo => inferInstanceAs (Decidable (∀ pid ∈ k.colaProcesosNew.head?, _))
  | .planificarCortoPlazo _ => inferInstanceAs (Decidable k.FalloJusto)
  | .devolverProceso r motivo respuesta _ =>
    inferInstanceAs (Decidable (k.DevolucionJusta r.cpuId motivo respuesta))
  | .terminarIo i fin escritura => inferInstanceAs (Decidable (fin ≠ .error → k.FinIoJusto i escritura))
  | .desSuspender pid respuesta escritura =>
    inferInstanceAs (Decidable (respuesta = .ok → k.SalidaJusta pid (k.salidaDesSuspender pid escritura)))
  | .crearProceso _ _ | .desconectarCpu _ | .conectarCpu _ _ | .vencerQuantum _ | .conectarIo _ | .tomarIo _
  | .vencerSuspension _ | .terminarSuspension _ | .iniciarCompactacion | .finalizarCompactacion =>
    inferInstanceAs (Decidable True)

/-- The start of a run with the multilevel algorithm, with any number of levels. -/
def ArranqueCmn (k : KernelScheduler) : Prop :=
  ∃ config : ConfigScheduler, config.planificationAlgorithm = .cmn ∧ k = .inicial config

namespace KernelScheduler

/-- Each process in READY is in one queue, that of its dynamic priority, and what the planner would
take has the best dynamic priority of them. -/
def ReadyOrdenado (k : KernelScheduler) : Prop :=
  (∀ q, (k.pcbs q).estado = .ready → k.colasReadyPorPrioridad.flatten.count q = 1 ∧ k.EnSuCola q) ∧
    ∀ pid ∈ k.desencolarProcesoReady.1, ∀ q, (k.pcbs q).estado = .ready →
      (k.pcbs pid).prioridadDinamica ≤ (k.pcbs q).prioridadDinamica

variable {k k' : KernelScheduler}

theorem PorNivel.paso (h : k.PorNivel []) {e : Evento} (hjusto : ColasJustas k e)
    (hpaso : Planificador.paso k e = some k') : k'.PorNivel [] := by
  cases e with
  | crearProceso path prioridad =>
    cases hpaso
    exact h.crearProceso path prioridad
  | planificarLargoPlazo => exact h.planificarLargoPlazo hjusto hpaso
  | planificarCortoPlazo ahora => exact h.planificarCortoPlazo hjusto hpaso
  | devolverProceso r motivo respuesta caida =>
    simp only [Planificador.paso] at hpaso
    split at hpaso <;> cases hpaso
    exact h.recibirDevolverProceso caida hjusto
  | conectarCpu socket cpuId =>
    simp only [Planificador.paso] at hpaso
    split at hpaso <;> cases hpaso
    exact h.conectarCpu socket cpuId
  | desconectarCpu r =>
    simp only [Planificador.paso] at hpaso
    split at hpaso <;> cases hpaso
    exact h.of_resto (h.unLugar.modificarCpu r.cpuId _ fun _ ↦ rfl) rfl rfl rfl rfl rfl
  | vencerQuantum t =>
    simp only [Planificador.paso] at hpaso
    split at hpaso <;> cases hpaso
    exact h.vencerTimerQuantum t
  | conectarIo nombre =>
    cases hpaso
    unfold registrarInterfazIo
    split
    · exact h.of_resto h.unLugar rfl rfl rfl rfl rfl
    · exact h
  | tomarIo i => exact h.tomarIo hpaso
  | terminarIo i fin escritura => exact h.terminarIo hjusto hpaso
  | vencerSuspension i => exact h.vencerSuspension hpaso
  | terminarSuspension i => exact h.terminarSuspension hpaso
  | desSuspender pid respuesta escritura => exact h.desSuspender hjusto hpaso
  | iniciarCompactacion =>
    cases hpaso
    exact h.of_resto h.unLugar rfl rfl rfl rfl rfl
  | finalizarCompactacion =>
    cases hpaso
    exact h.of_resto h.unLugar rfl rfl rfl rfl rfl

theorem porNivel_inicial (config : ConfigScheduler) : (inicial config).PorNivel [] := by
  refine ⟨enUnLugar_de_alcanzable (.start ⟨config, rfl⟩), fun q ↦ ?_, nofun, fun q hvig ↦ ?_, nofun,
    fun q _ hestado ↦ ?_, fun i cola q hcola hq ↦ ?_⟩
  · exact iff_of_false nofun List.not_mem_nil
  · exact absurd hvig.1 (Nat.not_lt_zero q)
  · cases hestado
  · have hvacia : cola = [] := by
      have hmem := List.mem_of_getElem? hcola
      unfold inicial at hmem
      simp only at hmem
      split at hmem
      · exact (List.mem_replicate.mp hmem).2
      · cases hmem
    rw [hvacia] at hq
    cases hq

theorem PorNivel.readyOrdenado (h : k.PorNivel []) : k.ReadyOrdenado := by
  refine ⟨fun q hready ↦ ?_, fun pid hpid q hready ↦ h.desencolar_mejor hpid hready⟩
  have hencola := h.enCola q List.not_mem_nil hready
  refine ⟨?_, hencola⟩
  obtain ⟨cola, hcola, hmem⟩ := hencola
  have huno := h.unLugar q
  have hcuenta := List.count_pos_iff.mpr
    (List.mem_flatten.mpr ⟨cola, List.mem_of_getElem? (colaDe_eq_some.mp hcola).2, hmem⟩)
  simp only [apariciones, lugares, List.count_append] at huno
  split at huno <;> omega

end KernelScheduler

variable {k : KernelScheduler}

/-- In every state of a run of CMN whose steps queue only processes that inherit nothing, READY is in
the order of the inherited priority. -/
theorem readyOrdenado_colasJustas (hk : Reachable paso ArranqueCmn ColasJustas k) : k.ReadyOrdenado := by
  apply PorNivel.readyOrdenado
  apply hk.invariant (P := fun k ↦ k.PorNivel [])
  · rintro _ ⟨config, _, rfl⟩
    exact porNivel_inicial config
  · intro k e k' h hjusto hpaso
    exact h.paso hjusto hpaso

/-- A process in READY inherits the priority of one that waits for its mutex. -/
theorem readyOrdenado_heredada : ∃ k : KernelScheduler,
    ((k.pcbs 0).estado = .ready ∧ (k.pcbs 0).prioridadDinamica < (k.pcbs 0).prioridad) ∧
      k.ReadyOrdenado := by
  have hinicial : Reachable paso ArranqueCmn ColasJustas
      (.inicial ⟨.cmn, 3, [.rr, .rr, .rr], false, 100, 500⟩) := .start ⟨_, rfl, rfl⟩
  obtain ⟨k, hk, hheredada⟩ := hinicial.exists_of_runAllowed
    [.conectarCpu 5 1, .crearProceso "a" 2, .planificarLargoPlazo,
      .planificarCortoPlazo 7, .planificarCortoPlazo 7,
      .devolverProceso ⟨5, 1⟩ (.syscall (.mutexLock (some "m"))) .ok false,
      .crearProceso "b" 0, .planificarLargoPlazo,
      .planificarCortoPlazo 8, .planificarCortoPlazo 8,
      .devolverProceso ⟨5, 1⟩ (.syscall (.mutexLock (some "m"))) .ok false]
    (fun k ↦ (k.pcbs 0).estado = .ready ∧ (k.pcbs 0).prioridadDinamica < (k.pcbs 0).prioridad)
    (by decide)
  exact ⟨k, hheredada, readyOrdenado_colasJustas hk⟩

/-- The quantum of the holder ends: it is queued by its own priority, behind a process that has a
better one than it but a worse one than it inherits. -/
theorem desordenado_por_quantum : ∃ k : KernelScheduler,
    Reachable paso ArranqueCmn (fun _ _ ↦ True) k ∧ ¬ k.ReadyOrdenado := by
  have hinicial : Reachable paso ArranqueCmn (fun _ _ ↦ True)
      (.inicial ⟨.cmn, 3, [.rr, .rr, .rr], false, 100, 500⟩) := .start ⟨_, rfl, rfl⟩
  obtain ⟨k, hk, hpop, hready, hpeor⟩ := hinicial.exists_of_runAllowed
    [.conectarCpu 5 1, .crearProceso "a" 2, .planificarLargoPlazo,
      .planificarCortoPlazo 7, .planificarCortoPlazo 7,
      .devolverProceso ⟨5, 1⟩ (.syscall (.mutexLock (some "m"))) .ok false,
      .crearProceso "b" 0, .planificarLargoPlazo,
      .planificarCortoPlazo 8, .planificarCortoPlazo 8,
      .devolverProceso ⟨5, 1⟩ (.syscall (.mutexLock (some "m"))) .ok false,
      .planificarCortoPlazo 9, .planificarCortoPlazo 9,
      .crearProceso "c" 1, .planificarLargoPlazo,
      .devolverProceso ⟨5, 1⟩ .quantum .ok false]
    (fun k ↦ k.desencolarProcesoReady.1 = some 2 ∧ (k.pcbs 0).estado = .ready ∧
      (k.pcbs 0).prioridadDinamica < (k.pcbs 2).prioridadDinamica) (by decide)
  refine ⟨k, hk, fun h ↦ ?_⟩
  have hmejor := h.2 2 hpop 0 hready
  omega

end PlugAndPlay.Planificador
