import PlugAndPlay.Planificador.SitiosPasos

/-!
# The state of a process and the dispatch

The short-term planner sends a process to a CPU first and sets its state, its quantum and its timer
afterwards. The two halves of a turn are steps of their own here, and anything else can happen in between.
-/

open PlugAndPlay.Library

namespace PlugAndPlay.Planificador

/-- The scheduler, with the process that the planner has sent and not marked yet. -/
structure SistemaDespacho where
  sistema : KernelScheduler
  pendiente : Option DespachoPendiente

inductive EventoDespacho
  | enviar
  | contabilizar (ahora : ℤ)
  | otro (e : Evento)
deriving Repr, DecidableEq

namespace KernelScheduler

variable (k : KernelScheduler)

/-- The turn of `planificadorCortoPlazo` up to the return of `enviar_proceso_a_cpu`. -/
def enviarProximo : SistemaDespacho :=
  match k.obtenerProximoProcesoReady with
  | (none, k₁) => ⟨{ k₁ with fasePcp := .esperarReady }, none⟩
  | (some pid, k₁) =>
    let prioridad := (k₁.pcbs pid).prioridad
    if k₁.config.algoritmoGlobal = .cmn ∧ ¬ k₁.NivelValido prioridad then
      ⟨{ k₁ with fasePcp := .esperarReady }, none⟩
    else
      match elegirCpu k₁.cpus pid with
      | (none, _) =>
        let k₂ := k₁.reencolarPorFalloDeEnvio pid
        ⟨{ k₂ with semReady := k₂.semReady + 1, fasePcp := .reintentar }, none⟩
      | (some cpu, cpus) =>
        let (quantum, rr) := k₁.config.quantumDeDespacho prioridad
        let k₂ := { k₁ with cpus := cpus, fasePcp := .esperarReady }
        ⟨cpu.socket.elim k₂ fun socket ↦ k₂.enviarPid socket pid, some ⟨pid, cpu.cpuId, quantum, rr⟩⟩

/-- The rest of the turn. -/
def contabilizar (d : DespachoPendiente) (ahora : ℤ) : KernelScheduler :=
  let k₁ := k.modificarPcb d.pid fun p ↦
    { p with estado := .exec, tiempoInicioEjecucion := ahora, quantumRestante := d.quantum }
  if d.rr then k₁.arrancarQuantum d.cpuId d.pid else k₁

/-- The two halves without anything in between are the turn. -/
theorem despachar_eq (ahora : ℤ) :
    k.despachar ahora = k.enviarProximo.pendiente.elim k.enviarProximo.sistema fun d ↦
      k.enviarProximo.sistema.contabilizar d ahora := by
  unfold despachar enviarProximo
  rcases k.obtenerProximoProcesoReady with ⟨_ | pid, k₁⟩
  · rfl
  · simp only
    split
    · rfl
    · rcases elegirCpu k₁.cpus pid with ⟨_ | cpu, cpus⟩
      · rfl
      · rfl

/-- Every process is where its state says, and a timer is armed only for the process of its CPU. -/
def EstadosCiertos : Prop :=
  (∀ pid, k.Existe pid →
    ((k.pcbs pid).estado = .exec ↔ ∃ c ∈ k.cpus, c.procesoActual = some pid) ∧
    ((k.pcbs pid).estado = .ready ↔
      pid ∈ k.colaProcesosReady ∨ ∃ cola ∈ k.colasReadyPorPrioridad, pid ∈ cola) ∧
    ((k.pcbs pid).estado = .block ∨ (k.pcbs pid).estado = .suspBlock ↔
      pid ∈ k.colaProcesosBlock ∨ ∃ m ∈ k.listaMutexes, pid ∈ m.colaBloqueados)) ∧
  ∀ c ∈ k.cpus, c.timerActivo → c.procesoActual = some c.timerPid

/-- The slot for the next process has the id of no slot before it, if a timer starts with the dispatch. -/
def SlotPropio : Prop :=
  ∀ pid ∈ k.obtenerProximoProcesoReady.1,
    (k.config.quantumDeDespacho (k.pcbs pid).prioridad).2 →
    ∀ i ∈ k.cpus.findIdx? fun c ↦ c.Libre, ∀ c ∈ k.cpus[i]?, posicionCpu k.cpus c.cpuId = some i

instance : Decidable k.SlotPropio :=
  inferInstanceAs (Decidable (∀ pid ∈ k.obtenerProximoProcesoReady.1,
    (k.config.quantumDeDespacho (k.pcbs pid).prioridad).2 = true →
    ∀ i ∈ k.cpus.findIdx? fun c ↦ c.Libre, ∀ c ∈ k.cpus[i]?, posicionCpu k.cpus c.cpuId = some i))

end KernelScheduler

/-- One step. There is one planner, which does nothing else between the two halves of its turn. -/
def pasoDespacho (s : SistemaDespacho) : EventoDespacho → Option SistemaDespacho
  | .enviar =>
    if s.pendiente.isNone ∧ s.sistema.fasePcp = .despachar then some s.sistema.enviarProximo else none
  | .contabilizar ahora => s.pendiente.map fun d ↦ ⟨s.sistema.contabilizar d ahora, none⟩
  | .otro (.planificarCortoPlazo ahora) =>
    if s.pendiente.isNone ∧ s.sistema.fasePcp ≠ .despachar then
      (s.sistema.planificarCortoPlazo ahora).map fun k ↦ ⟨k, none⟩
    else none
  | .otro e => (paso s.sistema e).map fun k ↦ ⟨k, s.pendiente⟩

def ArranqueDespacho (s : SistemaDespacho) : Prop := Arranque s.sistema ∧ s.pendiente = none

/-- No return comes between the two halves of the dispatch of its process, no interface goes away before
a request to it is queued, and no timer starts on another slot than that of its process. -/
def Ordenado (s : SistemaDespacho) : EventoDespacho → Prop
  | .enviar => s.sistema.SlotPropio
  | .contabilizar _ => True
  | .otro e => s.sistema.ATiempo s.pendiente e

instance (s : SistemaDespacho) (e : EventoDespacho) : Decidable (Ordenado s e) := by
  unfold Ordenado
  split <;> infer_instance

namespace KernelScheduler

variable {k k' : KernelScheduler} {pid : Pid} {mano : List Pid}

theorem sitioDe_none : k.sitioDe none pid = (k.pcbs pid).estado.sitio := if_neg nofun

/-! ## The dispatch -/

theorem Ubicado.obtenerProximo (h : k.Ubicado none []) : TomadoDeReady k k.obtenerProximoProcesoReady := by
  unfold obtenerProximoProcesoReady
  split
  · split
    · exact ⟨h, Eq.refl _, nofun⟩
    · exact h.desencolar
  · exact h.popReady

/-- The process goes back to READY when no CPU takes it. -/
theorem Ubicado.reencolarPorFallo (h : k.Ubicado none [pid]) (hestado : (k.pcbs pid).estado = .ready)
    (hvalida : k.config.algoritmoGlobal = .cmn → k.NivelValido (k.pcbs pid).prioridad) :
    (k.reencolarPorFalloDeEnvio pid).Ubicado none [] := by
  unfold reencolarPorFalloDeEnvio
  split
  · rename_i hcmn
    exact h.alInicio (hvalida hcmn) hestado
  · split
    · exact h.enReady hestado (fun q ↦ List.count_append) _
    · exact h.enReady hestado (count_mano pid _) _

/-- The process is sent: its slot is taken, and its state still says READY. -/
theorem Ubicado.elegir (h : k.Ubicado none [pid]) (hestado : (k.pcbs pid).estado = .ready) {cpu : TCpu}
    {cpus : List TCpu} (helegir : Planificador.elegirCpu k.cpus pid = (some cpu, cpus)) (quantum : UInt32)
    {rr : Bool} (hpropio : rr → ∀ i ∈ k.cpus.findIdx? fun c ↦ c.Libre, ∀ c ∈ k.cpus[i]?,
      posicionCpu k.cpus c.cpuId = some i) :
    { k with cpus := cpus, fasePcp := .esperarReady }.Ubicado (some ⟨pid, cpu.cpuId, quantum, rr⟩) [] := by
  unfold Planificador.elegirCpu at helegir
  split at helegir
  · cases helegir
  rename_i i hi
  obtain ⟨hcpu, rfl⟩ := Prod.mk.inj helegir
  obtain ⟨hlt, hlibre, _⟩ := List.findIdx?_eq_some_iff_getElem.mp hi
  obtain ⟨_, hcpu'⟩ := List.getElem?_eq_some_iff.mp hcpu
  rw [hcpu', decide_eq_true_eq] at hlibre
  have hcierto : SlotCierto cpu := h.slots.ciertos cpu (List.mem_of_getElem? hcpu)
  have hvacia : cpu.procesoActual = none := by
    cases hactual : cpu.procesoActual with
    | none => rfl
    | some otro =>
      have hocupada := hcierto.1 (by rw [hactual]; rfl)
      rw [hlibre.1] at hocupada
      cases hocupada
  have hexiste := (h.existen pid List.mem_cons_self).1
  refine h.mover pid rfl rfl (fun q _ ↦ rfl) (fun q hq ↦ ?_) (fun q hq ↦ ?_) (fun t q ↦ ?_) List.nodup_nil
    nofun (fun _ ↦ ⟨List.not_mem_nil, hexiste, hestado⟩) (fun _ ↦ hexiste) (h.dinamicas pid) ⟨?_, ?_⟩
  · rw [List.mem_singleton]
    exact ⟨nofun, fun hmem ↦ absurd hmem hq⟩
  · exact ⟨fun hd ↦ absurd (Option.some.inj hd).symm hq, nofun⟩
  · have hdestino : { k with
        cpus := k.cpus.modify i fun c ↦ { c with disponible := false, procesoActual := some pid }
        fasePcp := .esperarReady }.donde (some ⟨pid, cpu.cpuId, quantum, rr⟩) [] pid = some .cpu := by
      apply (donde_fuera _ List.not_mem_nil).trans
      · exact if_pos rfl
      · exact hexiste
    rw [donde_mano List.mem_cons_self, hdestino]
    cases t with
    | cpu =>
      have hcount := ListModify.count_flatMap_modify hcpu enCpu
        (fun c ↦ { c with disponible := false, procesoActual := some pid }) q
      rw [enCpu, enCpu, hvacia] at hcount
      simp only [en, if_true, reduceCtorEq, if_false, Nat.add_zero]
      exact hcount
    | new => simp [en]
    | ready => simp [en]
    | block => simp [en]
  · apply ListModify.forall_mem_modify h.slots.ciertos i _ _ fun _ ↦ id
    intro c hc hslot
    obtain rfl := Option.some.inj (hcpu.symm.trans hc)
    refine ⟨fun _ ↦ rfl, fun hactivo ↦ ?_⟩
    have hno := hslot.2 hactivo
    rw [hvacia] at hno
    cases hno
  · rintro _ ⟨⟩ hrr
    have hsuyo := hpropio hrr i hi cpu hcpu
    have hposicion := posicionCpu_modify
      (f := fun c ↦ { c with disponible := false, procesoActual := some pid }) k.cpus i (fun _ ↦ rfl) cpu.cpuId
    unfold buscarCpu
    rw [hposicion, hsuyo, Option.bind_some, List.getElem?_modify_eq, hcpu]
    rfl

theorem Ubicado.enviarProximo (h : k.Ubicado none []) (hpropio : k.SlotPropio) :
    k.enviarProximo.sistema.Ubicado k.enviarProximo.pendiente [] := by
  have hproximo := h.obtenerProximo
  have hniveles := k.niveles_proximo
  unfold SlotPropio at hpropio
  unfold KernelScheduler.enviarProximo
  generalize k.obtenerProximoProcesoReady = r at hproximo hniveles hpropio
  obtain ⟨proceso, k₁⟩ := r
  obtain ⟨htomado, hsalvo, hready⟩ := hproximo
  cases proceso with
  | none => exact htomado.sinReloj (Eq.refl _)
  | some pid =>
    have hmano : k₁.Ubicado none [pid] := htomado
    have hpcbs : k₁.pcbs = k.pcbs := SalvoReady.pcbs hsalvo
    have hconfig : k₁.config = k.config := SalvoReady.config hsalvo
    have hcpus : k₁.cpus = k.cpus := SalvoReady.cpus hsalvo
    have hestado : (k₁.pcbs pid).estado = .ready := by
      rw [hpcbs]
      exact hready pid rfl
    have hvalido : k₁.config.algoritmoGlobal = .cmn → k₁.NivelValido (k₁.pcbs pid).prioridad := by
      intro hcmn
      apply hmano.nivelValido List.mem_cons_self
      exact hniveles (hconfig ▸ hcmn) rfl
    simp only
    split
    · rename_i hno
      exact absurd (hvalido hno.1) hno.2
    split
    · exact (hmano.reencolarPorFallo hestado hvalido).sinReloj (Eq.refl _)
    · rename_i cpu cpus helegir
      have hslot := hpropio pid rfl
      rw [← hpcbs, ← hconfig, ← hcpus] at hslot
      have helegido := hmano.elegir hestado helegir
        (k₁.config.quantumDeDespacho (k₁.pcbs pid).prioridad).1 hslot
      cases cpu.socket with
      | none => exact helegido
      | some socket => exact helegido.sinReloj (Eq.refl _)

/-- The process that was sent is marked, still on its CPU. -/
theorem Ubicado.marcar {p : DespachoPendiente} (h : k.Ubicado (some p) []) (ahora : ℤ) :
    (k.modificarPcb p.pid fun q ↦
      { q with estado := .exec, tiempoInicioEjecucion := ahora, quantumRestante := p.quantum }).Ubicado
        none [] := by
  obtain ⟨_, hexiste, hready⟩ := h.despacho p.pid rfl
  generalize hk' : (k.modificarPcb p.pid fun q ↦
    { q with estado := .exec, tiempoInicioEjecucion := ahora, quantumRestante := p.quantum }) = k'
  have hsuyo : k'.pcbs p.pid = { k.pcbs p.pid with
      estado := .exec, tiempoInicioEjecucion := ahora, quantumRestante := p.quantum } := by
    rw [← hk', pcbs_modificarPcb_mismo]
  have hen : ∀ t, k'.en t = k.en t := by
    intro t
    rw [← hk']
    cases t <;> rfl
  have hcontador : k'.contadorPids = k.contadorPids := by rw [← hk']; rfl
  have hniveles : k'.cantidadNivelesPrioridad = k.cantidadNivelesPrioridad := by rw [← hk']; rfl
  have hexiste' : k'.Existe p.pid := by
    unfold Existe Vigente NivelValido
    rw [hcontador, hniveles, hsuyo]
    refine ⟨⟨hexiste.1.1, nofun⟩, fun _ ↦ hexiste.2 ?_⟩
    rw [hready]
    nofun
  have hantes : k.donde (some p) [] p.pid = some .cpu := by
    rw [donde_fuera hexiste List.not_mem_nil]
    exact if_pos rfl
  have hdespues : k'.donde none [] p.pid = some .cpu := by
    rw [donde_fuera hexiste' List.not_mem_nil, sitioDe_none, hsuyo]
    rfl
  refine h.mover p.pid hcontador hniveles (fun q hq ↦ ?_) (fun _ _ ↦ Iff.rfl) (fun q hq ↦ ?_)
    (fun t q ↦ ?_) List.nodup_nil nofun nofun (fun _ ↦ hexiste') ?_ ?_
  · rw [← hk', pcbs_modificarPcb, if_neg hq]
  · exact ⟨nofun, fun hd ↦ absurd (Option.some.inj hd).symm hq⟩
  · rw [hantes, hdespues, hen]
  · unfold NivelValido
    rw [hniveles, hsuyo]
    exact h.dinamicas p.pid
  · rw [← hk']
    exact ⟨h.slots.ciertos, nofun⟩

theorem Ubicado.contabilizar {p : DespachoPendiente} (h : k.Ubicado (some p) []) (ahora : ℤ) :
    (k.contabilizar p ahora).Ubicado none [] := by
  have hmarcado := h.marcar ahora
  unfold KernelScheduler.contabilizar
  simp only
  split
  · rename_i hrr
    apply hmarcado.arrancarQuantum
    intro c hc
    have hsuyo := h.slots.suyo p rfl hrr
    have hc : buscarCpu k.cpus p.cpuId = some c := hc
    rw [hc] at hsuyo
    exact hsuyo
  · exact hmarcado

theorem Detenido.enviarProximo (h : k.Detenido) : k.enviarProximo.sistema.Detenido := by
  have hproximo := (lista_proximo k).trans h
  unfold KernelScheduler.enviarProximo
  generalize k.obtenerProximoProcesoReady = r at hproximo
  obtain ⟨proceso, k₁⟩ := r
  cases proceso with
  | none => exact hproximo
  | some pid =>
    simp only
    split
    · exact hproximo
    split
    · exact (lista_reencolarPorFallo k₁ pid).trans hproximo
    · rename_i cpu cpus _
      cases cpu.socket with
      | none => exact hproximo
      | some socket => exact hproximo

theorem Detenido.contabilizar (h : k.Detenido) (p : DespachoPendiente) (ahora : ℤ) :
    (k.contabilizar p ahora).Detenido := by
  unfold KernelScheduler.contabilizar
  simp only
  split
  · exact h
  · exact h

/-! ## Runs -/

theorem ubicado_inicial (config : ConfigScheduler) : (inicial config).Ubicado none [] := by
  have hnadie : ∀ q, ¬ (inicial config).Existe q := fun q hexiste ↦ absurd hexiste.1.1 (Nat.not_lt_zero q)
  refine ⟨fun s q ↦ ?_, List.nodup_nil, nofun, nofun, fun q hq ↦ ?_, fun q ↦ ?_, nofun, nofun⟩
  · have hfuera : (inicial config).donde none [] q = none := if_neg fun hsi ↦ hnadie q hsi.1
    rw [hfuera, if_neg (Option.some_ne_none s).symm]
    cases s with
    | ready =>
      simp only [en, inicial, List.nil_append]
      split
      · simp
      · rfl
    | new | cpu | block => rfl
  · cases hq
  · exact id

theorem Ubicado.estadosCiertos (h : k.Ubicado none []) : k.EstadosCiertos := by
  constructor
  · intro pid hexiste
    have hen : ∀ s, pid ∈ k.en s ↔ (k.pcbs pid).estado.sitio = some s := by
      intro s
      have hcuenta := h.sitios s pid
      rw [donde_fuera hexiste List.not_mem_nil, sitioDe_none] at hcuenta
      rw [← List.count_pos_iff, hcuenta]
      split
      · rename_i hsi
        exact ⟨fun _ ↦ hsi, fun _ ↦ Nat.one_pos⟩
      · rename_i hno
        exact ⟨fun hpos ↦ absurd hpos (Nat.lt_irrefl 0), fun hsi ↦ absurd hsi hno⟩
    have hcpu := hen .cpu
    have hready := hen .ready
    have hblock := hen .block
    simp only [en, List.mem_flatMap, List.mem_append, List.mem_flatten, Option.mem_toList] at hcpu hready hblock
    rw [hcpu, hready, hblock]
    cases (k.pcbs pid).estado <;> simp [Estado.sitio]
  · intro c hc
    exact (h.slots.ciertos c hc).2

end KernelScheduler

variable {s s' : SistemaDespacho}

/-- What holds of every run: the handlers that have ended have left each process in its place. -/
def Consistente (s : SistemaDespacho) : Prop := s.sistema.Detenido ∨ s.sistema.Ubicado s.pendiente []

/-- A step that is not half a dispatch is a step of the scheduler. -/
theorem paso_de_otro {e : Evento} (hpaso : pasoDespacho s (.otro e) = some s') :
    paso s.sistema e = some s'.sistema ∧ s'.pendiente = s.pendiente ∧
      ∀ ahora, e = .planificarCortoPlazo ahora → s.sistema.fasePcp ≠ .despachar := by
  by_cases hplanificar : ∃ ahora, e = .planificarCortoPlazo ahora
  · obtain ⟨ahora, rfl⟩ := hplanificar
    simp only [pasoDespacho] at hpaso
    split at hpaso
    · rename_i hlibre
      obtain ⟨k, hk, rfl⟩ := Option.map_eq_some_iff.mp hpaso
      exact ⟨hk, (Option.isNone_iff_eq_none.mp hlibre.1).symm, fun _ _ ↦ hlibre.2⟩
    · cases hpaso
  · have hotro : ∀ ahora, e ≠ .planificarCortoPlazo ahora := fun ahora he ↦ hplanificar ⟨ahora, he⟩
    rw [pasoDespacho] at hpaso
    · obtain ⟨k, hk, rfl⟩ := Option.map_eq_some_iff.mp hpaso
      exact ⟨hk, rfl, fun ahora he ↦ absurd he (hotro ahora)⟩
    · exact hotro

theorem Consistente.paso (h : Consistente s) {e : EventoDespacho} (hordenado : Ordenado s e)
    (hpaso : pasoDespacho s e = some s') : Consistente s' := by
  cases e with
  | enviar =>
    simp only [pasoDespacho] at hpaso
    split at hpaso <;> cases hpaso
    rename_i hlibre
    rcases h with h | h
    · exact .inl h.enviarProximo
    · rw [Option.isNone_iff_eq_none.mp hlibre.1] at h
      exact .inr (h.enviarProximo hordenado)
  | contabilizar ahora =>
    obtain ⟨p, hp, rfl⟩ := Option.map_eq_some_iff.mp hpaso
    rcases h with h | h
    · exact .inl (h.contabilizar p ahora)
    · rw [hp] at h
      exact .inr (h.contabilizar ahora)
  | otro e =>
    obtain ⟨hk, hpendiente, hfase⟩ := paso_de_otro hpaso
    unfold Consistente
    rw [hpendiente]
    rcases h with h | h
    · exact .inl (h.paso hk)
    · by_cases hlibre : s.sistema.mutexListaMutexes = false
      · exact h.paso hlibre hfase hordenado hk
      · exact .inl (KernelScheduler.Detenido.paso (Bool.eq_true_of_not_eq_false hlibre) hk)

theorem consistente_de_alcanzable (hs : Reachable pasoDespacho ArranqueDespacho Ordenado s) : Consistente s := by
  apply hs.invariant (P := Consistente)
  · rintro ⟨k, pendiente⟩ ⟨⟨config, rfl⟩, rfl⟩
    exact .inr (KernelScheduler.ubicado_inicial config)
  · intro s e s' h hordenado hpaso
    exact h.paso hordenado hpaso

/-- In every state of an orderly run where no dispatch and no other handler is in progress, every process
is where its state says. -/
theorem estadosCiertos_ordenado (hs : Reachable pasoDespacho ArranqueDespacho Ordenado s)
    (hpendiente : s.pendiente = none) (hlibre : ¬ s.sistema.Detenido) : s.sistema.EstadosCiertos := by
  have hubicado := (consistente_de_alcanzable hs).resolve_left hlibre
  rw [hpendiente] at hubicado
  exact hubicado.estadosCiertos

/-- Round robin, before the first process. -/
def despachoRr : SistemaDespacho := ⟨.inicial ⟨.rr, 0, [], false, 100, 500⟩, none⟩

theorem arranque_despachoRr : ArranqueDespacho despachoRr := ⟨⟨_, rfl⟩, rfl⟩

/-- A process sleeps and the next one runs; a third one is created in the middle of its dispatch. -/
theorem estadosCiertos_ordenado_dosProcesos : ∃ s : SistemaDespacho,
    (s.sistema.pcbs 0).estado = .block ∧ (s.sistema.pcbs 1).estado = .exec ∧ s.sistema.EstadosCiertos := by
  have hinicial : Reachable pasoDespacho ArranqueDespacho Ordenado despachoRr := .start arranque_despachoRr
  obtain ⟨s, hs, hpendiente, hlibre, hestados⟩ := hinicial.exists_of_runAllowed
    [.otro (.conectarCpu 5 1), .otro (.conectarIo "SLEEP"), .otro (.crearProceso "a" 0),
      .otro (.crearProceso "b" 0), .otro .planificarLargoPlazo, .otro .planificarLargoPlazo,
      .otro (.planificarCortoPlazo 7), .enviar, .contabilizar 7,
      .otro (.devolverProceso ⟨5, 1⟩ (.syscall (.sleep (some 3))) .ok false),
      .otro (.planificarCortoPlazo 8), .enviar, .otro (.crearProceso "c" 0), .contabilizar 8]
    (fun s ↦ s.pendiente = none ∧ ¬ s.sistema.Detenido ∧ (s.sistema.pcbs 0).estado = .block ∧
      (s.sistema.pcbs 1).estado = .exec) (by decide)
  exact ⟨s, hestados.1, hestados.2, estadosCiertos_ordenado hs hpendiente hlibre⟩

/-- The CPU returns the process with `SLEEP` before the planner has marked it: it ends up EXEC in the BLOCK
queue, with a timer on a CPU that it has left. -/
theorem exec_en_block : ∃ s : SistemaDespacho,
    Reachable pasoDespacho ArranqueDespacho (fun _ _ ↦ True) s ∧ s.pendiente = none ∧
      ¬ s.sistema.Detenido ∧ ¬ s.sistema.EstadosCiertos := by
  have hinicial : Reachable pasoDespacho ArranqueDespacho (fun _ _ ↦ True) despachoRr :=
    .start arranque_despachoRr
  obtain ⟨s, hs, hpendiente, hlibre, hexiste, hexec, hblock⟩ := hinicial.exists_of_runAllowed
    [.otro (.conectarCpu 5 1), .otro (.conectarIo "SLEEP"), .otro (.crearProceso "a" 0),
      .otro .planificarLargoPlazo, .otro (.planificarCortoPlazo 7), .enviar,
      .otro (.devolverProceso ⟨5, 1⟩ (.syscall (.sleep (some 3))) .ok false), .contabilizar 7]
    (fun s ↦ s.pendiente = none ∧ ¬ s.sistema.Detenido ∧ s.sistema.Existe 0 ∧
      (s.sistema.pcbs 0).estado = .exec ∧ 0 ∈ s.sistema.colaProcesosBlock) (by decide)
  refine ⟨s, hs, hpendiente, hlibre, fun h ↦ ?_⟩
  rcases (h.1 0 hexiste).2.2.mpr (.inl hblock) with hestado | hestado
  · rw [hexec] at hestado
    cases hestado
  · rw [hexec] at hestado
    cases hestado

end PlugAndPlay.Planificador
