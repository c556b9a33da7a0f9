import PlugAndPlay.Memoria.CompactacionPreserva
import PlugAndPlay.Planificador.Registros

/-!
# The registries over whole runs

What each step does to the registries. The handlers of the CPUs and of IO have a process in hand; what
becomes of it says whether the step creates a process, frees one or does neither.
-/

open PlugAndPlay.Library PlugAndPlay.Memoria

namespace PlugAndPlay.Planificador

open KernelScheduler

variable {qsort : Qsort} {r : Registros} {k k' : KernelScheduler} {pid q : Pid} {mano : List Pid}
  {e : Evento} {instrucciones : List String}

/-! ## What a step asks for -/

theorem tras_quieto (hcrea : r.sistema.crea e = false) (htermina : r.sistema.termina e = none)
    (hdescarta : r.sistema.descarta e = none) :
    r.tras qsort e instrucciones k' = { r with sistema := k' } := by
  unfold Registros.tras pedidoDeRegistro finaliza
  rw [hcrea, htermina, hdescarta]
  simp

theorem tras_crea (hcrea : r.sistema.crea e = true) (htermina : r.sistema.termina e = none)
    (hdescarta : r.sistema.descarta e = none) :
    r.tras qsort e instrucciones k' =
      ⟨k', (atender qsort r.memoria (.crearProceso r.sistema.contadorPids instrucciones)).2,
        r.liberados⟩ := by
  unfold Registros.tras pedidoDeRegistro finaliza
  rw [hcrea, htermina, hdescarta]
  simp

theorem tras_termina (hcrea : r.sistema.crea e = false) (htermina : r.sistema.termina e = some pid)
    (hdescarta : r.sistema.descarta e = none) :
    r.tras qsort e instrucciones k' =
      if r.sistema.Liberable pid then
        ⟨k', (atender qsort r.memoria (.finalizarProceso pid)).2, r.liberados ++ [pid]⟩
      else { r with sistema := k' } := by
  unfold Registros.tras pedidoDeRegistro finaliza
  rw [hcrea, htermina, hdescarta]
  by_cases hliberable : r.sistema.Liberable pid
  · simp [hliberable, Option.filter]
  · simp [hliberable, Option.filter]

variable (qsort) in
/-- The two ends of a process that comes to its end. -/
theorem Registrados.fin (h : Registrados r) (hun : r.sistema.EnUnLugar mano)
    (hvivo : r.sistema.Vigente pid) (hlista : pid ∉ r.sistema.listaSuspendidos)
    (hpedidos : (pedidosIo r.sistema.tablaIos).count pid = 0)
    (hfin : if r.sistema.Liberable pid then Terminado r.sistema pid k' else Marco [pid] r.sistema k') :
    Registrados (if r.sistema.Liberable pid then
      ⟨k', (atender qsort r.memoria (.finalizarProceso pid)).2, r.liberados ++ [pid]⟩
      else { r with sistema := k' }) := by
  by_cases hliberable : r.sistema.Liberable pid
  · rw [if_pos hliberable] at hfin ⊢
    exact h.terminado qsort hun hvivo hlista hpedidos hfin
  · rw [if_neg hliberable] at hfin ⊢
    apply h.conMarco' hun hfin
    · intro q hq
      rw [List.mem_singleton.mp hq]
      exact hvivo
    · intro q hq hsusp
      rw [List.mem_singleton.mp hq] at hsusp
      exact absurd hsusp hlista
    · intro q hq
      rw [List.mem_singleton.mp hq]
      exact hpedidos

/-! ## Returned processes -/

theorem crea_devolver (k : KernelScheduler) (receptor : Receptor) (motivo : Motivo)
    (respuesta : RespuestaMemoria) (caida : Bool) :
    k.crea (.devolverProceso receptor motivo respuesta caida) =
      ((k.procesoDe receptor).isSome && motivo.crea.any fun (path, _) ↦ path ≠ "") := rfl

theorem termina_devolver (k : KernelScheduler) (receptor : Receptor) (motivo : Motivo)
    (respuesta : RespuestaMemoria) (caida : Bool) :
    k.termina (.devolverProceso receptor motivo respuesta caida) =
      if motivo.termina k.tablaIos respuesta then k.procesoDe receptor else none := rfl

/-- A return that creates a process does not end the one that comes back. -/
theorem Motivo.termina_de_crea {motivo : Motivo} (h : motivo.crea.isSome) (tabla : List InterfazIo)
    (respuesta : RespuestaMemoria) : motivo.termina tabla respuesta = false := by
  cases motivo with
  | syscall pedido =>
    cases pedido with
    | initProc params =>
      cases params with
      | none => cases h
      | some params => rfl
    | _ => cases h
  | _ => cases h

/-- What the handler does before it looks at the reason. -/
theorem Registrados.retirar (h : Registrados r) (hun : r.sistema.EnUnLugar []) (cpuId : ℕ) (motivo : Motivo) :
    ∃ k₁, (if motivo.EsSyscallMemoria then r.sistema.retirarProcesoReservando cpuId
        else r.sistema.retirarProceso cpuId) =
          ((buscarCpu r.sistema.cpus cpuId).bind TCpu.procesoActual, k₁) ∧
      k₁.EnUnLugar ((buscarCpu r.sistema.cpus cpuId).bind TCpu.procesoActual).toList ∧
      Marco [] r.sistema k₁ ∧ Registrados { r with sistema := k₁ } ∧
      ∀ pid, k₁.Liberable pid ↔ r.sistema.Liberable pid := by
  by_cases hmemoria : motivo.EsSyscallMemoria
  · have hmarco : Marco [] r.sistema (r.sistema.retirarProcesoReservando cpuId).2 :=
      .of_pcbs rfl rfl rfl rfl rfl rfl fun _ _ ↦ rfl
    have hretirado := hun.retirarProcesoReservando cpuId
    rw [List.append_nil] at hretirado
    refine ⟨_, if_pos hmemoria, hretirado, hmarco, h.conMarco hun hmarco, fun _ ↦ Iff.rfl⟩
  · have hmarco : Marco [] r.sistema (r.sistema.retirarProceso cpuId).2 :=
      .of_pcbs rfl rfl rfl rfl rfl rfl fun _ _ ↦ rfl
    have hretirado := hun.retirarProceso cpuId
    rw [List.append_nil] at hretirado
    refine ⟨_, if_neg hmemoria, hretirado, hmarco, h.conMarco hun hmarco, fun _ ↦ Iff.rfl⟩

theorem Registrados.devolverProceso (h : Registrados r) (hun : r.sistema.EnUnLugar []) (receptor : Receptor)
    (motivo : Motivo) (respuesta : RespuestaMemoria) (caida : Bool) :
    Registrados (r.tras qsort (.devolverProceso receptor motivo respuesta caida) instrucciones
      (r.sistema.recibirDevolverProceso receptor.cpuId motivo respuesta caida)) := by
  obtain ⟨k₁, hretirar, hun₁, hmarco, hk₁, hliberable⟩ := h.retirar hun receptor.cpuId motivo
  have hproceso : r.sistema.procesoDe receptor =
    (buscarCpu r.sistema.cpus receptor.cpuId).bind TCpu.procesoActual := rfl
  unfold KernelScheduler.recibirDevolverProceso
  rw [hretirar]
  rw [← hproceso] at hun₁ ⊢
  cases hpid : r.sistema.procesoDe receptor with
  | none =>
    rw [hpid] at hun₁
    have hcrea : r.sistema.crea (.devolverProceso receptor motivo respuesta caida) = false := by
      rw [crea_devolver, hpid]
      rfl
    have htermina : r.sistema.termina (.devolverProceso receptor motivo respuesta caida) = none := by
      rw [termina_devolver, hpid]
      exact ite_self none
    rw [tras_quieto hcrea htermina rfl]
    simp only
    split
    · exact hk₁.conMarco hun₁ (.of_pcbs rfl rfl rfl rfl rfl rfl fun _ _ ↦ rfl)
    · exact hk₁
  | some pid =>
    rw [hpid] at hun₁
    obtain ⟨hvivo, hlista, hpedidos⟩ := hk₁.enMano hun₁ List.mem_cons_self
    have hdesenlace := desenlace_atenderDevuelto hlista motivo receptor.cpuId respuesta caida
    simp only
    generalize (atenderDevuelto pid motivo receptor.cpuId respuesta caida).final k₁ = k' at hdesenlace
    unfold Desenlace at hdesenlace
    rw [hmarco.ios] at hdesenlace
    have hcreaDef : r.sistema.crea (.devolverProceso receptor motivo respuesta caida) =
        motivo.crea.any fun (path, _) ↦ path ≠ "" := by
      rw [crea_devolver, hpid]
      rfl
    have hterminaDef : r.sistema.termina (.devolverProceso receptor motivo respuesta caida) =
        if motivo.termina r.sistema.tablaIos respuesta then some pid else none := by
      rw [termina_devolver, hpid]
    cases htermina : motivo.termina r.sistema.tablaIos respuesta with
    | true =>
      have hcrea : motivo.crea = none := by
        apply Option.not_isSome_iff_eq_none.mp
        intro hsome
        rw [Motivo.termina_de_crea hsome] at htermina
        cases htermina
      rw [htermina] at hdesenlace hterminaDef
      rw [hcrea] at hcreaDef
      rw [if_pos rfl] at hdesenlace hterminaDef
      rw [tras_termina hcreaDef hterminaDef rfl]
      have hfin := hk₁.fin qsort hun₁ hvivo hlista hpedidos hdesenlace
      simp only [hliberable] at hfin
      exact hfin
    | false =>
      rw [htermina] at hdesenlace hterminaDef
      rw [if_neg Bool.false_ne_true] at hdesenlace hterminaDef
      cases hmotivo : motivo.crea with
      | none =>
        rw [hmotivo] at hdesenlace hcreaDef
        rw [tras_quieto hcreaDef hterminaDef rfl]
        exact hk₁.atendido hun₁ hdesenlace
      | some nuevo =>
        rw [hmotivo] at hdesenlace hcreaDef
        by_cases hpath : nuevo.1 = ""
        · have hcrea : r.sistema.crea (.devolverProceso receptor motivo respuesta caida) = false := by
            rw [hcreaDef]
            simp [hpath]
          rw [tras_quieto hcrea hterminaDef rfl]
          have hmismo : k₁.crearProceso nuevo.1 nuevo.2 = k₁ := if_pos hpath
          simp only [hmismo] at hdesenlace
          exact hk₁.conMarco hun₁ hdesenlace
        · have hcrea : r.sistema.crea (.devolverProceso receptor motivo respuesta caida) = true := by
            rw [hcreaDef]
            simp [hpath]
          rw [tras_crea hcrea hterminaDef rfl]
          have hcreado := hk₁.crear qsort hun₁ hpath nuevo.2 instrucciones
          rw [← hmarco.contador]
          exact hcreado.conMarco (hun₁.crearProceso nuevo.1 nuevo.2) hdesenlace

/-! ## The planners -/

/-- The step takes processes into the hand, and then a handler goes on with them. -/
def PorMano (k k' : KernelScheduler) : Prop :=
  ∃ k₁ mano, Marco [] k k₁ ∧ k₁.EnUnLugar mano ∧ Marco mano k₁ k'

theorem Registrados.porMano (h : Registrados r) (hun : r.sistema.EnUnLugar []) (hpaso : PorMano r.sistema k') :
    Registrados { r with sistema := k' } := by
  obtain ⟨k₁, mano, htoma, hun₁, hsigue⟩ := hpaso
  exact (h.conMarco hun htoma).conMarco hun₁ hsigue

theorem PorMano.of {k₁ : KernelScheduler} (hun : k₁.EnUnLugar mano) (htoma : Marco [] k k₁)
    (hsigue : Marco mano k₁ k') : PorMano k k' :=
  ⟨k₁, mano, htoma, hun, hsigue⟩

theorem PorMano.directo (hun : k.EnUnLugar []) (hmarco : Marco [] k k') : PorMano k k' :=
  ⟨k, [], .refl k, hun, hmarco⟩

theorem marco_encolarPorPrioridad (k : KernelScheduler) (pid : Pid) :
    Marco [pid] k (k.encolarEnReadyPorPrioridad pid) := by
  unfold encolarEnReadyPorPrioridad
  split
  · apply (marco_cambiarEstado k pid .ready).trans
    apply Marco.trans _ (marco_de_salvoReady (salvoReady_verificar _ pid))
    exact .of_pcbs rfl rfl rfl rfl rfl rfl fun _ _ ↦ rfl
  · exact .refl k

/-- The process that is taken from NEW goes to READY. -/
theorem porMano_planificarLargoPlazo (hun : k.EnUnLugar []) (hpaso : k.planificarLargoPlazo = some k') :
    PorMano k k' := by
  unfold KernelScheduler.planificarLargoPlazo at hpaso
  split at hpaso
  · cases hpaso
  simp only at hpaso
  split at hpaso
  · cases hpaso
    exact .directo hun (.of_pcbs rfl rfl rfl rfl rfl rfl fun _ _ ↦ rfl)
  rename_i pid resto hcola
  have hcola : k.colaProcesosNew = pid :: resto := hcola
  have hsacado : { k with semNew := k.semNew - 1, colaProcesosNew := resto }.EnUnLugar [pid] := by
    refine hun.of_lugares rfl rfl fun q ↦ ?_
    simp only [lugares, hcola, List.count_append, count_mano pid resto, List.count_nil]
    omega
  have htoma : Marco [] k { k with semNew := k.semNew - 1, colaProcesosNew := resto } :=
    .of_pcbs rfl rfl rfl rfl rfl rfl fun _ _ ↦ rfl
  apply PorMano.of hsacado htoma
  apply (marco_cambiarEstado _ pid .ready).trans
  split at hpaso
  · cases hpaso
    exact marco_encolarPorPrioridad _ pid
  · cases hpaso
    exact .of_pcbs rfl rfl rfl rfl rfl rfl fun _ _ ↦ rfl

theorem marco_proximo (k : KernelScheduler) : Marco [] k k.obtenerProximoProcesoReady.2 := by
  apply marco_de_salvoReady
  unfold obtenerProximoProcesoReady desencolarProcesoReady KernelScheduler.popReady
  split
  · split
    · exact .rfl
    · split
      · exact .rfl
      · exact Eq.refl _
  · split
    · exact .rfl
    · exact Eq.refl _

theorem marco_reencolarPorFallo (k : KernelScheduler) (pid : Pid) :
    Marco [pid] k (k.reencolarPorFalloDeEnvio pid) := by
  apply marco_de_salvoReady
  unfold reencolarPorFalloDeEnvio
  split
  · exact salvoReady_inicio k pid _
  split
  · exact Eq.refl _
  · exact Eq.refl _

theorem marco_ponerEnExec (k : KernelScheduler) (pid : Pid) (cpu : TCpu) (ahora : ℤ) (quantum : UInt32)
    (rr : Bool) : Marco [pid] k (k.ponerEnExec pid cpu ahora quantum rr) := by
  have henviado : Marco [pid] k (cpu.socket.elim k fun socket ↦ k.enviarPid socket pid) := by
    cases cpu.socket with
    | none => exact .refl k
    | some socket => exact .of_pcbs rfl rfl rfl rfl rfl rfl fun _ _ ↦ rfl
  have hexec := henviado.trans (marco_modificarPcb _ pid fun p ↦
    { p with estado := .exec, tiempoInicioEjecucion := ahora, quantumRestante := quantum })
  unfold KernelScheduler.ponerEnExec
  simp only
  split
  · exact hexec.trans (.of_pcbs rfl rfl rfl rfl rfl rfl fun _ _ ↦ rfl)
  · exact hexec

/-- The next process goes to a CPU, or back to its queue. -/
theorem porMano_despachar (hun : k.EnUnLugar []) (ahora : ℤ) : PorMano k (k.despachar ahora) := by
  have htomado := hun.proximo.1
  have htoma := marco_proximo k
  unfold KernelScheduler.despachar
  generalize k.obtenerProximoProcesoReady = proximo at htomado htoma
  obtain ⟨proceso, k₁⟩ := proximo
  cases proceso with
  | none => exact .of htomado htoma (.of_pcbs rfl rfl rfl rfl rfl rfl fun _ _ ↦ rfl)
  | some pid =>
    apply PorMano.of htomado htoma
    simp only
    split
    · exact .of_pcbs rfl rfl rfl rfl rfl rfl fun _ _ ↦ rfl
    split
    · apply (marco_reencolarPorFallo k₁ pid).trans
      exact .of_pcbs rfl rfl rfl rfl rfl rfl fun _ _ ↦ rfl
    · apply Marco.trans _ (marco_ponerEnExec _ pid _ ahora _ _)
      exact .of_pcbs rfl rfl rfl rfl rfl rfl fun _ _ ↦ rfl

theorem porMano_planificarCortoPlazo (hun : k.EnUnLugar []) {ahora : ℤ}
    (hpaso : k.planificarCortoPlazo ahora = some k') : PorMano k k' := by
  unfold KernelScheduler.planificarCortoPlazo at hpaso
  split at hpaso
  · split at hpaso
    · cases hpaso
    split at hpaso
    · cases hpaso
      exact .directo hun (.refl k)
    split at hpaso
    · cases hpaso
      exact .directo hun (.of_pcbs rfl rfl rfl rfl rfl rfl fun _ _ ↦ rfl)
    · cases hpaso
      exact .directo hun (.of_pcbs rfl rfl rfl rfl rfl rfl fun _ _ ↦ rfl)
  · cases hpaso
    exact porMano_despachar hun ahora
  · split at hpaso
    · cases hpaso
    · cases hpaso
      exact .directo hun (.of_pcbs rfl rfl rfl rfl rfl rfl fun _ _ ↦ rfl)
  · split at hpaso
    · cases hpaso
      exact .directo hun (.of_pcbs rfl rfl rfl rfl rfl rfl fun _ _ ↦ rfl)
    split at hpaso
    · cases hpaso
    · cases hpaso
      exact .directo hun (.of_pcbs rfl rfl rfl rfl rfl rfl fun _ _ ↦ rfl)

/-! ## IO -/

theorem mem_lugares_block (h : pid ∈ k.colaProcesosBlock) : pid ∈ k.lugares :=
  List.mem_append_left _ (List.mem_append_right _ h)

theorem KernelScheduler.EnUnLugar.vigente_suspReady (h : k.EnUnLugar mano)
    (hestado : (k.pcbs pid).estado = .suspReady) : k.Vigente pid := by
  by_contra hno
  have hpid := h pid
  rw [if_neg hno] at hpid
  unfold apariciones enSuspReady at hpid
  rw [if_pos hestado] at hpid
  omega

/-- A process in BLOCK that is in the list of the suspended is in SUSP_BLOCK. -/
theorem Registrados.noSuspBlock (h : Registrados r) (hun : r.sistema.EnUnLugar mano)
    (hblock : pid ∈ r.sistema.colaProcesosBlock) (hestado : (r.sistema.pcbs pid).estado ≠ .suspBlock) :
    pid ∉ r.sistema.listaSuspendidos := by
  intro hlista
  rcases h.suspendidos pid hlista with ⟨hsusp, _⟩ | hready
  · exact hestado hsusp
  · exact (hun.soloEnSuspReady hready).2 (mem_lugares_block hblock)

def KernelScheduler.sacarDeBlock (k : KernelScheduler) (pid : Pid) : KernelScheduler :=
  { k with colaProcesosBlock := k.colaProcesosBlock.erase pid }

theorem marco_sacarDeBlock (k : KernelScheduler) (pid : Pid) : Marco [pid] k (k.sacarDeBlock pid) := by
  refine ⟨rfl, rfl, rfl, rfl, fun _ _ ↦ id, fun _ _ _ ↦ rfl, fun q hmano hblock ↦ ?_⟩
  exact (List.mem_erase_of_ne fun hq ↦ hmano (List.mem_singleton.mpr hq)).mpr hblock

theorem marco_suspReady (k : KernelScheduler) (pid : Pid) (f : Pcb → Pcb) :
    Marco [pid] k (k.modificarPcb pid f).notificarReevaluarSuspendidos :=
  (marco_modificarPcb k pid f).trans (.of_pcbs rfl rfl rfl rfl rfl rfl fun _ _ ↦ rfl)

/-- A process leaves BLOCK without a request of IO. -/
theorem Registrados.dejarBlock (h : Registrados r) (hun : r.sistema.EnUnLugar [])
    (hblock : pid ∈ r.sistema.colaProcesosBlock) (hpedidos : (pedidosIo r.sistema.tablaIos).count pid = 0)
    (hmarco : Marco [pid] r.sistema k')
    (hlista : pid ∈ r.sistema.listaSuspendidos → (k'.pcbs pid).estado = .suspReady) :
    Registrados { r with sistema := k' } := by
  apply h.conMarco' hun hmarco
  · intro q hq
    rw [List.mem_singleton.mp hq]
    exact hun.vigente (.inl (mem_lugares_block hblock))
  · intro q hq hsusp
    rw [List.mem_singleton.mp hq] at hsusp ⊢
    exact .inr (hlista hsusp)
  · intro q hq
    rw [List.mem_singleton.mp hq]
    exact hpedidos

/-- The request in service is the only one of its process. -/
theorem Registrados.servido (h : Registrados r) {i : ℕ} {req : IoRequest}
    (hreq : r.sistema.tablaIos[i]?.bind InterfazIo.atendido = some req) :
    req.proceso ∈ r.sistema.colaProcesosBlock ∧
      Registrados { r with sistema := r.sistema.modificarIo i fun io ↦ { io with atendido := none } } ∧
      (pedidosIo (r.sistema.modificarIo i fun io ↦ { io with atendido := none }).tablaIos).count
        req.proceso = 0 := by
  obtain ⟨io, hio, hatendido⟩ := Option.bind_eq_some_iff.mp hreq
  have hpedidos := h.pedidos req.proceso
  have hcuenta := count_pedidosIo_modify hio (fun io ↦ { io with atendido := none }) req.proceso
  simp only [hatendido, Option.toList_some, Option.toList_none, List.append_nil, List.map_append,
    List.map_cons, List.map_nil, List.count_append, List.count_singleton_self] at hcuenta
  have hblock : req.proceso ∈ r.sistema.colaProcesosBlock := by
    by_contra hno
    rw [if_neg hno] at hpedidos
    omega
  rw [if_pos hblock] at hpedidos
  refine ⟨hblock, h.conMenosIos fun q ↦ ?_, ?_⟩
  · apply pedidosIo_modify_le r.sistema.tablaIos i
    intro io q
    simp
  · show (pedidosIo (r.sistema.tablaIos.modify i _)).count req.proceso = 0
    omega

theorem termina_finalizada (k : KernelScheduler) {i : ℕ} {req : IoRequest}
    (hreq : k.tablaIos[i]?.bind InterfazIo.atendido = some req) (datos : List UInt8)
    (escritura : RespuestaMemoria) :
    k.termina (.terminarIo i (.finalizada datos) escritura) =
      if req.tipo = .stdin ∧ req.proceso ∈ k.colaProcesosBlock ∧
          (k.pcbs req.proceso).estado ≠ .suspBlock ∧ escritura ≠ .ok then some req.proceso
      else none := by
  unfold termina
  simp only [hreq]

theorem final_concluirStdin (k : KernelScheduler) (pid : Pid) (dir tamanio : ℤ) (datos : List UInt8)
    (escritura : RespuestaMemoria) :
    (concluirIo ⟨pid, .stdin, dir, tamanio⟩ datos escritura).final k =
      if (k.pcbs pid).estado = .suspBlock then k.diferirStdin pid ⟨UInt32.ofInt dir, datos⟩
      else if escritura = .ok then k.encolarEnReadyYNotificar pid
      else (finalizarPcbPorSegFault pid).final k := by
  unfold concluirIo Blocking.final
  simp only
  rw [Blocking.bind_ok (x := get) rfl]
  by_cases hsusp : (k.pcbs pid).estado = .suspBlock
  · rw [if_pos hsusp, if_pos hsusp]
    rfl
  · rw [if_neg hsusp, if_neg hsusp]
    by_cases hescritura : escritura = .ok
    · rw [if_pos hescritura, if_pos hescritura]
      rfl
    · rw [if_neg hescritura, if_neg hescritura]

variable (qsort) in
/-- What becomes of the process whose IO has ended. -/
theorem Registrados.concluirIo (h : Registrados r) (hun : r.sistema.EnUnLugar []) {req : IoRequest}
    (hblock : req.proceso ∈ r.sistema.colaProcesosBlock)
    (hsacado : (r.sistema.sacarDeBlock req.proceso).EnUnLugar [req.proceso])
    (hpedidos : (pedidosIo r.sistema.tablaIos).count req.proceso = 0) (datos : List UInt8)
    (escritura : RespuestaMemoria)
    (hk' : k' = (Planificador.concluirIo req datos escritura).final (r.sistema.sacarDeBlock req.proceso)) :
    Registrados (if req.tipo = .stdin ∧ (r.sistema.pcbs req.proceso).estado ≠ .suspBlock ∧
        escritura ≠ .ok ∧ r.sistema.Liberable req.proceso then
      ⟨k', (atender qsort r.memoria (.finalizarProceso req.proceso)).2, r.liberados ++ [req.proceso]⟩
      else { r with sistema := k' }) := by
  obtain ⟨pid, tipo, dir, tamanio⟩ := req
  change k' = Blocking.final _ (r.sistema.sacarDeBlock pid) at hk'
  have hestado : ((r.sistema.sacarDeBlock pid).pcbs pid).estado = (r.sistema.pcbs pid).estado := rfl
  have hsaca := marco_sacarDeBlock r.sistema pid
  by_cases hsusp : (r.sistema.pcbs pid).estado = .suspBlock
  · have hsuspReady : ∀ f : Pcb → Pcb, (f (r.sistema.pcbs pid)).estado = .suspReady → Registrados { r with
        sistema := ((r.sistema.sacarDeBlock pid).modificarPcb pid f).notificarReevaluarSuspendidos } := by
      intro f hf
      apply h.dejarBlock hun hblock hpedidos (hsaca.trans (marco_suspReady _ pid f))
      intro _
      show (((r.sistema.sacarDeBlock pid).modificarPcb pid f).pcbs pid).estado = _
      rw [pcbs_modificarPcb_mismo]
      exact hf
    have hdesbloquear : (r.sistema.sacarDeBlock pid).desbloquear pid =
        ((r.sistema.sacarDeBlock pid).modificarPcb pid
          fun p ↦ { p with estado := .suspReady }).notificarReevaluarSuspendidos := if_pos hsusp
    rw [if_neg fun hfin ↦ hfin.2.1 hsusp]
    cases tipo with
    | sleep =>
      rw [hk']
      show Registrados { r with sistema := (r.sistema.sacarDeBlock pid).desbloquear pid }
      rw [hdesbloquear]
      exact hsuspReady _ rfl
    | stdout =>
      rw [hk']
      show Registrados { r with sistema := (r.sistema.sacarDeBlock pid).desbloquear pid }
      rw [hdesbloquear]
      exact hsuspReady _ rfl
    | stdin =>
      rw [hk', final_concluirStdin, if_pos (hestado.trans hsusp)]
      exact hsuspReady _ rfl
  · have hlista := h.noSuspBlock hun hblock hsusp
    have hfuera : Registrados { r with sistema := r.sistema.sacarDeBlock pid } :=
      h.dejarBlock hun hblock hpedidos hsaca fun hmem ↦ absurd hmem hlista
    have hencolar : Registrados { r with
        sistema := (r.sistema.sacarDeBlock pid).encolarEnReadyYNotificar pid } :=
      hfuera.conMarco hsacado (marco_encolar _ pid)
    have hdesbloquear : (r.sistema.sacarDeBlock pid).desbloquear pid =
        (r.sistema.sacarDeBlock pid).encolarEnReadyYNotificar pid := if_neg hsusp
    have otro : ∀ {resto : Prop}, tipo ≠ .stdin → ¬ (tipo = .stdin ∧ resto) :=
      fun htipo hfin ↦ htipo hfin.1
    cases tipo with
    | sleep =>
      subst hk'
      rw [if_neg (otro IoType.noConfusion)]
      show Registrados { r with sistema := (r.sistema.sacarDeBlock pid).desbloquear pid }
      rw [hdesbloquear]
      exact hencolar
    | stdout =>
      subst hk'
      rw [if_neg (otro IoType.noConfusion)]
      show Registrados { r with sistema := (r.sistema.sacarDeBlock pid).desbloquear pid }
      rw [hdesbloquear]
      exact hencolar
    | stdin =>
      rw [final_concluirStdin, hestado, if_neg hsusp] at hk'
      subst hk'
      by_cases hescritura : escritura = .ok
      · rw [if_neg fun hfin ↦ hfin.2.2.1 hescritura, if_pos hescritura]
        exact hencolar
      · rw [if_neg hescritura]
        have hfin := hfuera.fin qsort hsacado (hsacado.vigente (.inr List.mem_cons_self)) hlista hpedidos
          (desenlace_finalizarPcb hlista)
        by_cases hliberable : (r.sistema.sacarDeBlock pid).Liberable pid
        · rw [if_pos ⟨rfl, hsusp, hescritura, hliberable⟩]
          rw [if_pos hliberable] at hfin
          exact hfin
        · rw [if_neg fun hterm ↦ hliberable hterm.2.2.2]
          rw [if_neg hliberable] at hfin
          exact hfin

theorem Registrados.terminarIo (h : Registrados r) (hun : r.sistema.EnUnLugar []) {i : ℕ} {fin : FinIo}
    {escritura : RespuestaMemoria} (hpaso : r.sistema.terminarIo i fin escritura = some k') :
    Registrados (r.tras qsort (.terminarIo i fin escritura) instrucciones k') := by
  unfold KernelScheduler.terminarIo at hpaso
  split at hpaso
  · cases hpaso
  rename_i req hreq
  cases fin with
  | error =>
    cases hpaso
    rw [tras_quieto rfl rfl rfl]
    apply h.conMenosIos
    apply pedidosIo_modify_le
    intro io q
    simp
  | finalizada datos =>
    obtain ⟨hblock, hservido, hpedidos⟩ := h.servido hreq
    have htermina := termina_finalizada r.sistema hreq datos escritura
    have hextraer : ∀ k₁, (r.sistema.modificarIo i fun io ↦ { io with atendido := none }).extraerDeBlock
        req.proceso = .extraido k₁ → k₁ = (r.sistema.modificarIo i fun io ↦
          { io with atendido := none }).sacarDeBlock req.proceso := by
      intro k₁ hk₁
      unfold extraerDeBlock at hk₁
      split at hk₁
      · split at hk₁
        · cases hk₁
        · cases hk₁
          rfl
      · cases hk₁
    simp only at hpaso
    split at hpaso
    · rename_i hno
      unfold extraerDeBlock at hno
      rw [if_pos (show req.proceso ∈ (r.sistema.modificarIo i _).colaProcesosBlock from hblock)] at hno
      split at hno
      · cases hno
      · cases hno
    · cases hpaso
    · rename_i k₁ hk₁
      have hsacado := (hun.modificarIo i _).extraer hk₁
      obtain rfl := hextraer k₁ hk₁
      have hfin := hservido.concluirIo qsort (hun.modificarIo i _) hblock hsacado hpedidos datos
        escritura (Option.some.inj hpaso).symm
      by_cases hterm : req.tipo = .stdin ∧ req.proceso ∈ r.sistema.colaProcesosBlock ∧
          (r.sistema.pcbs req.proceso).estado ≠ .suspBlock ∧ escritura ≠ .ok
      · rw [if_pos hterm] at htermina
        rw [tras_termina rfl htermina rfl]
        obtain ⟨htipo, _, hestado, hescritura⟩ := hterm
        by_cases hliberable : r.sistema.Liberable req.proceso
        · rw [if_pos hliberable]
          rw [if_pos ⟨htipo, hestado, hescritura, hliberable⟩] at hfin
          exact hfin
        · rw [if_neg hliberable]
          rw [if_neg fun hsi ↦ hliberable hsi.2.2.2] at hfin
          exact hfin
      · rw [if_neg hterm] at htermina
        rw [tras_quieto rfl htermina rfl]
        rw [if_neg fun hsi ↦ hterm ⟨hsi.1, hblock, hsi.2.1, hsi.2.2.1⟩] at hfin
        exact hfin

/-! ## Suspension and resumption -/

/-- A process in BLOCK enters the list of the suspended. -/
theorem Registrados.suspender (h : Registrados r) (hun : r.sistema.EnUnLugar mano)
    (hblock : pid ∈ r.sistema.colaProcesosBlock) (hestado : (r.sistema.pcbs pid).estado ≠ .suspBlock)
    (timers : List TimerSuspension) :
    let k₁ := r.sistema.modificarPcb pid fun p ↦ { p with estado := .suspBlock, suspendidoEnSwap := false }
    Registrados { r with sistema := { k₁ with
      listaSuspendidos := k₁.listaSuspendidos ++ [pid], timersSuspension := timers } } := by
  have hotro : ∀ q, q ≠ pid → ((r.sistema.modificarPcb pid fun p ↦
      { p with estado := .suspBlock, suspendidoEnSwap := false }).pcbs q).estado =
        (r.sistema.pcbs q).estado := fun q hq ↦
    estado_modificarPcb_otro _ fun hmem ↦ hq (List.mem_singleton.mp hmem)
  have hsuspendido : ((r.sistema.modificarPcb pid fun p ↦
      { p with estado := .suspBlock, suspendidoEnSwap := false }).pcbs pid).estado = .suspBlock := by
    rw [pcbs_modificarPcb_mismo]
  have hlista := h.noSuspBlock hun hblock hestado
  refine ⟨h.registrados, h.distintos, h.memoria, fun q hq ↦ ?_, ?_, fun q hq ↦ ?_, h.pedidos⟩
  · obtain ⟨hcota, hexit⟩ := h.terminados q hq
    refine ⟨hcota, (hotro q ?_).trans hexit⟩
    rintro rfl
    exact (hun.terminado hexit).1 (mem_lugares_block hblock)
  · show (r.sistema.listaSuspendidos ++ [pid]).Nodup
    rw [List.nodup_append]
    refine ⟨h.unaVez, List.nodup_singleton pid, fun q hq q' hq' hmismo ↦ ?_⟩
    rw [hmismo, List.mem_singleton.mp hq'] at hq
    exact hlista hq
  · by_cases hpid : q = pid
    · rw [hpid]
      exact .inl ⟨hsuspendido, hblock⟩
    · have hantes := (List.mem_append.mp hq).resolve_right fun hmem ↦ hpid (List.mem_singleton.mp hmem)
      have hsusp := h.suspendidos q hantes
      unfold EsperaSuspendido at hsusp ⊢
      rw [← hotro q hpid] at hsusp
      exact hsusp

theorem Registrados.vencerSuspension (h : Registrados r) (hun : r.sistema.EnUnLugar []) {i : ℕ}
    (hpaso : r.sistema.vencerSuspension i = some k') : Registrados { r with sistema := k' } := by
  unfold KernelScheduler.vencerSuspension at hpaso
  split at hpaso
  · cases hpaso
  split at hpaso
  · cases hpaso
  rename_i t _ _
  split at hpaso
  · rename_i hvence
    cases hpaso
    apply h.suspender hun hvence.1
    rw [hvence.2.1]
    exact Estado.noConfusion
  · cases hpaso
    exact h.conMarco hun (.of_pcbs rfl rfl rfl rfl rfl rfl fun _ _ ↦ rfl)

theorem marco_mismoEstado (k : KernelScheduler) (pid : Pid) (f : Pcb → Pcb)
    (hf : ∀ p, (f p).estado = p.estado) : Marco [] k (k.modificarPcb pid f) := by
  refine .of_pcbs rfl rfl rfl rfl rfl rfl fun q _ ↦ ?_
  rw [pcbs_modificarPcb]
  split
  · rename_i hq
    rw [hf, hq]
  · rfl

theorem Registrados.terminarSuspension (h : Registrados r) (hun : r.sistema.EnUnLugar []) {i : ℕ}
    (hpaso : r.sistema.terminarSuspension i = some k') : Registrados { r with sistema := k' } := by
  unfold KernelScheduler.terminarSuspension at hpaso
  split at hpaso
  · cases hpaso
  split at hpaso
  · cases hpaso
  rename_i t _ _
  cases hpaso
  apply h.conMarco hun
  split
  · have hvolcado := marco_mismoEstado r.sistema t.pid (fun p ↦ { p with suspendidoEnSwap := true })
      fun _ ↦ rfl
    apply hvolcado.trans
    exact .of_pcbs rfl rfl rfl rfl rfl rfl fun _ _ ↦ rfl
  · exact .of_pcbs rfl rfl rfl rfl rfl rfl fun _ _ ↦ rfl

/-- A process in SUSP_READY that is off the list goes on in READY. -/
theorem Registrados.reanudar (h : Registrados r) (hun : r.sistema.EnUnLugar [])
    (hestado : (r.sistema.pcbs pid).estado = .suspReady) (hlista : pid ∉ r.sistema.listaSuspendidos) :
    (pedidosIo r.sistema.tablaIos).count pid = 0 ∧
      Registrados { r with sistema := r.sistema.encolarEnReadyYNotificar pid } := by
  have hpedidos : (pedidosIo r.sistema.tablaIos).count pid = 0 := by
    have hpid := h.pedidos pid
    rw [if_neg fun hblock ↦ (hun.soloEnSuspReady hestado).2 (mem_lugares_block hblock)] at hpid
    exact Nat.le_zero.mp hpid
  refine ⟨hpedidos, ?_⟩
  apply h.conMarco' hun (marco_encolar r.sistema pid)
  · intro q hq
    rw [List.mem_singleton.mp hq]
    exact hun.vigente_suspReady hestado
  · intro q hq hsusp
    rw [List.mem_singleton.mp hq] at hsusp
    exact absurd hsusp hlista
  · intro q hq
    rw [List.mem_singleton.mp hq]
    exact hpedidos

theorem termina_desSuspender (k : KernelScheduler) (pid : Pid) (respuesta escritura : RespuestaMemoria) :
    k.termina (.desSuspender pid respuesta escritura) =
      if pid ∈ k.listaSuspendidos ∧ (k.pcbs pid).estado = .suspReady ∧ respuesta = .ok ∧
          (k.pcbs pid).stdinPendiente.isSome ∧ escritura ≠ .ok then some pid
      else none := rfl

theorem Registrados.desSuspender (h : Registrados r) (hun : r.sistema.EnUnLugar [])
    {respuesta escritura : RespuestaMemoria}
    (hpaso : r.sistema.desSuspender pid respuesta escritura = some k') :
    Registrados (r.tras qsort (.desSuspender pid respuesta escritura) instrucciones k') := by
  have htermina := termina_desSuspender r.sistema pid respuesta escritura
  unfold KernelScheduler.desSuspender at hpaso
  split at hpaso
  swap
  · cases hpaso
  rename_i hsusp
  split at hpaso
  · rename_i hrespuesta
    cases hpaso
    rw [if_neg fun hsi ↦ hrespuesta hsi.2.2.1] at htermina
    rw [tras_quieto rfl htermina rfl]
    exact h
  rename_i hrespuesta
  have hfuera := h.remover pid
  have hlista := h.noSuspendido pid
  have hunFuera : (r.sistema.removerDeListaSuspendidos pid).EnUnLugar [] := hun
  simp only at hpaso
  split at hpaso
  · rename_i hpendiente
    cases hpaso
    rw [if_neg fun hsi ↦ ?_] at htermina
    · rw [tras_quieto rfl htermina rfl]
      exact (hfuera.reanudar hunFuera hsusp.2 hlista).2
    · have hhay := hsi.2.2.2.1
      rw [Option.isSome_iff_ne_none] at hhay
      exact hhay (Option.isNone_iff_eq_none.mp hpendiente)
  rename_i hpendiente
  have hmarco : Marco [] (r.sistema.removerDeListaSuspendidos pid)
      ((r.sistema.removerDeListaSuspendidos pid).modificarPcb pid fun p ↦
        { p with stdinPendiente := none }) := marco_mismoEstado _ pid _ fun _ ↦ rfl
  have hescrito := hfuera.conMarco hunFuera hmarco
  have hunEscrito : ((r.sistema.removerDeListaSuspendidos pid).modificarPcb pid fun p ↦
      { p with stdinPendiente := none }).EnUnLugar [] := hunFuera.modificarPcb pid _ (.inl rfl)
  have hestado : (((r.sistema.removerDeListaSuspendidos pid).modificarPcb pid fun p ↦
      { p with stdinPendiente := none }).pcbs pid).estado = .suspReady := by
    rw [pcbs_modificarPcb_mismo]
    exact hsusp.2
  obtain ⟨hpedidos, hready⟩ := hescrito.reanudar hunEscrito hestado hlista
  split at hpaso
  · rename_i hescritura
    cases hpaso
    rw [if_neg fun hsi ↦ hsi.2.2.2.2 hescritura] at htermina
    rw [tras_quieto rfl htermina rfl]
    exact hready
  · rename_i hescritura
    cases hpaso
    have hhay : (r.sistema.pcbs pid).stdinPendiente.isSome := by
      rw [Option.isSome_iff_ne_none]
      exact fun hnone ↦ hpendiente (Option.isNone_iff_eq_none.mpr hnone)
    rw [if_pos ⟨hsusp.1, hsusp.2, not_not.mp hrespuesta, hhay, hescritura⟩] at htermina
    rw [tras_termina rfl htermina rfl]
    exact hescrito.fin qsort hunEscrito (hunEscrito.vigente_suspReady hestado) hlista hpedidos
      (desenlace_finalizarPcb hlista)

/-! ## Steps and runs -/

/-- The worker takes a request that was in its queue. -/
theorem Registrados.tomarIo (h : Registrados r) {i : ℕ} (hpaso : r.sistema.tomarIo i = some k') :
    Registrados { r with sistema := k' } := by
  unfold KernelScheduler.tomarIo at hpaso
  split at hpaso
  · cases hpaso
  rename_i io hio
  split at hpaso
  swap
  · cases hpaso
  rename_i hlibre
  cases hpaso
  apply h.conMenosIos
  intro q
  have hcuenta := count_pedidosIo_modify hio (fun io ↦
    { io with semCola := io.semCola - 1, cola := io.cola.tail, atendido := io.cola.head? }) q
  have hcola : (((io.cola.tail ++ io.cola.head?.toList).map IoRequest.proceso).count q) =
      ((io.cola.map IoRequest.proceso).count q) := by
    cases io.cola with
    | nil => rfl
    | cons req resto =>
      simp only [List.tail_cons, List.head?_cons, Option.toList_some, List.map_append, List.map_cons,
        List.map_nil, List.count_append, List.count_cons, List.count_nil]
      omega
  rw [hlibre.2.1, Option.toList_none, List.append_nil] at hcuenta
  simp only [hcola] at hcuenta
  omega

theorem marco_conectarCpu (k : KernelScheduler) (socket : Socket) (cpuId : ℕ) :
    Marco mano k (k.conectarCpu socket cpuId) := by
  unfold KernelScheduler.conectarCpu
  simp only
  split
  · exact .of_pcbs rfl rfl rfl rfl rfl rfl fun _ _ ↦ rfl
  · exact .of_pcbs rfl rfl rfl rfl rfl rfl fun _ _ ↦ rfl

theorem marco_vencerTimerQuantum (k : KernelScheduler) (t : TimerQuantum) :
    Marco mano k (k.vencerTimerQuantum t) := by
  unfold KernelScheduler.vencerTimerQuantum
  simp only
  cases (Planificador.vencerQuantum k.cpus t.cpuId t.pid).1.bind TCpu.socket with
  | none => exact .of_pcbs rfl rfl rfl rfl rfl rfl fun _ _ ↦ rfl
  | some socket => exact .of_pcbs rfl rfl rfl rfl rfl rfl fun _ _ ↦ rfl

theorem Registrados.registrarInterfazIo (h : Registrados r) (nombre : String) :
    Registrados { r with sistema := r.sistema.registrarInterfazIo nombre } := by
  unfold KernelScheduler.registrarInterfazIo
  split
  · apply h.conMenosIos
    intro q
    simp [pedidosIo, List.flatMap_append]
  · exact h

theorem Registrados.crearProceso (h : Registrados r) (hun : r.sistema.EnUnLugar []) (path : String)
    (prioridad : ℤ) : Registrados (r.tras qsort (.crearProceso path prioridad) instrucciones
      (r.sistema.crearProceso path prioridad)) := by
  by_cases hpath : path = ""
  · have hcrea : r.sistema.crea (.crearProceso path prioridad) = false := decide_eq_false (not_not.mpr hpath)
    rw [tras_quieto hcrea rfl rfl]
    have hmismo : r.sistema.crearProceso path prioridad = r.sistema := if_pos hpath
    rw [hmismo]
    exact h
  · have hcrea : r.sistema.crea (.crearProceso path prioridad) = true := decide_eq_true hpath
    rw [tras_crea hcrea rfl rfl]
    exact h.crear qsort hun hpath prioridad instrucciones

theorem Registrados.scheduler (h : Registrados r) (hun : r.sistema.EnUnLugar [])
    (hsin : r.sistema.descarta e = none) (hpaso : paso r.sistema e = some k') :
    Registrados (r.tras qsort e instrucciones k') := by
  cases e with
  | crearProceso path prioridad =>
    cases hpaso
    exact h.crearProceso hun path prioridad
  | planificarLargoPlazo =>
    rw [tras_quieto rfl rfl hsin]
    exact h.porMano hun (porMano_planificarLargoPlazo hun hpaso)
  | planificarCortoPlazo ahora =>
    rw [tras_quieto rfl rfl rfl]
    exact h.porMano hun (porMano_planificarCortoPlazo hun hpaso)
  | devolverProceso receptor motivo respuesta caida =>
    simp only [Planificador.paso] at hpaso
    split at hpaso
    · cases hpaso
      exact h.devolverProceso hun receptor motivo respuesta caida
    · cases hpaso
  | conectarCpu socket cpuId =>
    simp only [Planificador.paso] at hpaso
    split at hpaso
    · cases hpaso
      rw [tras_quieto rfl rfl rfl]
      exact h.conMarco hun (marco_conectarCpu r.sistema socket cpuId)
    · cases hpaso
  | desconectarCpu receptor =>
    simp only [Planificador.paso] at hpaso
    split at hpaso
    · cases hpaso
      rw [tras_quieto rfl rfl rfl]
      exact h.conMarco hun (.of_pcbs rfl rfl rfl rfl rfl rfl fun _ _ ↦ rfl)
    · cases hpaso
  | vencerQuantum t =>
    simp only [Planificador.paso] at hpaso
    split at hpaso
    · cases hpaso
      rw [tras_quieto rfl rfl rfl]
      exact h.conMarco hun (marco_vencerTimerQuantum r.sistema t)
    · cases hpaso
  | conectarIo nombre =>
    cases hpaso
    rw [tras_quieto rfl rfl rfl]
    exact h.registrarInterfazIo nombre
  | tomarIo i =>
    rw [tras_quieto rfl rfl rfl]
    exact h.tomarIo hpaso
  | terminarIo i fin escritura => exact h.terminarIo hun hpaso
  | vencerSuspension i =>
    rw [tras_quieto rfl rfl rfl]
    exact h.vencerSuspension hun hpaso
  | terminarSuspension i =>
    rw [tras_quieto rfl rfl rfl]
    exact h.terminarSuspension hun hpaso
  | desSuspender pid respuesta escritura => exact h.desSuspender hun hpaso
  | iniciarCompactacion =>
    cases hpaso
    rw [tras_quieto rfl rfl rfl]
    exact h.conMarco hun (.of_pcbs rfl rfl rfl rfl rfl rfl fun _ _ ↦ rfl)
  | finalizarCompactacion =>
    cases hpaso
    rw [tras_quieto rfl rfl rfl]
    exact h.conMarco hun (.of_pcbs rfl rfl rfl rfl rfl rfl fun _ _ ↦ rfl)

/-- Kernel Memory may do anything else. -/
theorem Registrados.deMemoria (h : Registrados r) {op : Operacion} (hop : ¬ op.Registra) :
    Registrados { r with memoria := (atender qsort r.memoria op).2 } where
  registrados := h.registrados
  distintos := h.distintos
  memoria := (pids_atender qsort r.memoria hop).trans h.memoria
  terminados := h.terminados
  unaVez := h.unaVez
  suspendidos := h.suspendidos
  pedidos := h.pedidos

theorem registrados_inicial {config : ConfigScheduler} {m : KernelMemory} (hm : m.procesos = []) :
    Registrados ⟨.inicial config, m, []⟩ where
  registrados pid := by
    constructor
    · intro hpid
      cases hpid
    · intro hpid
      exact absurd hpid.1 (Nat.not_lt_zero pid)
  distintos := List.nodup_nil
  memoria := by
    unfold KernelMemory.pids
    rw [hm]
    rfl
  terminados _ hpid := by cases hpid
  unaVez := List.nodup_nil
  suspendidos _ hpid := by cases hpid
  pedidos _ := Nat.zero_le _

theorem Registrados.consistentes (h : Registrados r) (hun : r.sistema.EnUnLugar []) :
    RegistrosConsistentes r := by
  refine ⟨h.registrados, fun pid ↦ ?_, fun pid hpid ↦ ?_⟩
  · rw [h.memoria, List.mem_map]
    constructor
    · rintro ⟨p, hp, rfl⟩
      exact ⟨p, hp, rfl⟩
    · rintro ⟨p, hp, rfl⟩
      exact ⟨p, hp, rfl⟩
  · obtain ⟨_, hexit⟩ := h.terminados pid hpid
    have hfuera := (hun.terminado hexit).1
    have hpedidos := h.pedidos pid
    rw [if_neg fun hblock ↦ hfuera (mem_lugares_block hblock)] at hpedidos
    refine ⟨hfuera, fun hlista ↦ ?_, fun htodos ↦ ((h.registrados pid).mp htodos).2 hpid, fun hmem ↦ ?_⟩
    · rcases h.suspendidos pid hlista with ⟨hestado, _⟩ | hestado
      · rw [hexit] at hestado
        cases hestado
      · rw [hexit] at hestado
        cases hestado
    · have hpos := List.count_pos_iff.mpr hmem
      omega

/-- In every state of a run in which every process that is admitted has a queue for its priority, the
registries are consistent. -/
theorem registros_consistentes (hr : Reachable (pasoRegistros qsort) ArranqueRegistros SinDescarte r) :
    RegistrosConsistentes r := by
  have hinv : Registrados r ∧ r.sistema.EnUnLugar [] := by
    apply hr.invariant (P := fun r ↦ Registrados r ∧ r.sistema.EnUnLugar [])
    · rintro ⟨k, m, liberados⟩ ⟨⟨config, rfl⟩, hm, rfl⟩
      exact ⟨registrados_inicial hm, enUnLugar_de_alcanzable (.start ⟨config, rfl⟩)⟩
    · rintro r e r' ⟨h, hun⟩ hsin hpaso
      cases e with
      | scheduler e instrucciones =>
        obtain ⟨k', hk', rfl⟩ := Option.map_eq_some_iff.mp hpaso
        exact ⟨h.scheduler hun hsin hk', hun.paso hk'⟩
      | memoria op =>
        simp only [pasoRegistros] at hpaso
        split at hpaso
        · cases hpaso
        · rename_i hop
          cases hpaso
          exact ⟨h.deMemoria hop, hun⟩
  exact hinv.1.consistentes hinv.2

/-- Both processes as they start, with two queues. -/
def registrosDosColas : Registros where
  sistema := .inicial ⟨.cmn, 2, [.fifo, .rr], false, 100, 500⟩
  memoria := ⟨⟨16, none⟩, [], [], ⟨[], [], 0⟩, .desconectado⟩
  liberados := []

theorem arranque_registrosDosColas : ArranqueRegistros registrosDosColas := ⟨⟨_, rfl⟩, rfl, rfl⟩

/-- A process creates another one and exits. -/
theorem registros_consistentes_initProc : ∃ r : Registros,
    r.liberados = [0] ∧ r.sistema.todosLosProcesos = [1] ∧ r.memoria.pids = [1] ∧
      RegistrosConsistentes r := by
  have hinicial : Reachable (pasoRegistros .insercion) ArranqueRegistros SinDescarte registrosDosColas :=
    .start arranque_registrosDosColas
  obtain ⟨r, hr, hliberados, htodos, hpids⟩ := hinicial.exists_of_runAllowed
    [.scheduler (.conectarCpu 5 1) [], .scheduler (.crearProceso "a" 0) ["INIT_PROC b 1", "EXIT"],
      .scheduler .planificarLargoPlazo [], .scheduler (.planificarCortoPlazo 7) [],
      .scheduler (.planificarCortoPlazo 7) [],
      .scheduler (.devolverProceso ⟨5, 1⟩ (.syscall (.initProc (some ("b", 1)))) .ok false) ["EXIT"],
      .scheduler .planificarLargoPlazo [], .scheduler (.planificarCortoPlazo 8) [],
      .scheduler (.planificarCortoPlazo 8) [], .scheduler (.devolverProceso ⟨5, 1⟩ .exit .ok false) []]
    (fun r ↦ r.liberados = [0] ∧ r.sistema.todosLosProcesos = [1] ∧ r.memoria.pids = [1]) (by decide +kernel)
  exact ⟨r, hliberados, htodos, hpids, registros_consistentes hr⟩

/-- A process whose priority has no queue is freed when it is admitted, and stays registered on both sides. -/
theorem liberado_registrado : ∃ r : Registros,
    Reachable (pasoRegistros .insercion) ArranqueRegistros (fun _ _ ↦ True) r ∧
      ¬ RegistrosConsistentes r := by
  have hinicial : Reachable (pasoRegistros .insercion) ArranqueRegistros (fun _ _ ↦ True)
      registrosDosColas := .start arranque_registrosDosColas
  obtain ⟨r, hr, hliberado, hregistrado⟩ := hinicial.exists_of_runAllowed
    [.scheduler (.crearProceso "a" 7) [], .scheduler .planificarLargoPlazo []]
    (fun r ↦ 0 ∈ r.liberados ∧ 0 ∈ r.sistema.todosLosProcesos) (by decide +kernel)
  exact ⟨r, hr, fun h ↦ (h.2.2 0 hliberado).2.2.1 hregistrado⟩

end PlugAndPlay.Planificador
