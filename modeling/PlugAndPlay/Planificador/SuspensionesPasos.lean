import PlugAndPlay.Planificador.SuspensionesProceso

/-!
# Every section keeps every process in its protocol

Thread by thread: a section finds its process in one of the situations and leaves it in another, and the protocol
allows what it has done. The other processes are as they were.
-/

open PlugAndPlay.Library

namespace PlugAndPlay.Planificador

/-- What happens next is allowed, and the process is where the protocol goes. -/
theorem Vista.Bien.concat {v : Vista} {a a' : Protocolo} {historia : List Paso} {paso : Paso}
    (ha : Traces.follow Protocolo.avanza .inicio historia = some a) (hpaso : Protocolo.avanza a paso = some a')
    (hhistoria : v.historia = historia ++ [paso]) (h : Situacion v a') : v.Bien := by
  refine ⟨a', ?_, h⟩
  rw [hhistoria, Traces.follow_concat ha, hpaso]

namespace Suspensiones

variable {s s' : Suspensiones} {pid : Pid}

/-- Every process is in one of the situations. -/
def Inv (s : Suspensiones) : Prop := ∀ pid, (s.vista pid).Bien

theorem Inv.mover (h : s.Inv) {v : Vista} (hvista : s'.vista = Function.update s.vista pid v) (hv : v.Bien) :
    s'.Inv := by
  intro other
  rw [hvista]
  by_cases hother : other = pid
  · rw [hother, Function.update_self]
    exact hv
  · rw [Function.update_of_ne hother]
    exact h other

theorem Inv.of_vista_eq (h : s.Inv) (hvista : s'.vista = s.vista) : s'.Inv := by
  intro other
  rw [hvista]
  exact h other

theorem Inv.inicial (h : s.Inicial) : s.Inv := by
  intro pid
  have hvista : s.vista pid = ⟨s.pcbs pid, .planificado, 0, 0, [], .nada, 0, []⟩ := by
    simp [vista, volcadosDe, h.fases, h.colas, h.hilos, h.historia, FasePlanificador.etapa, FasePlanificador.enMano, FasePlanificador.candidatos]
  rw [hvista]
  exact ⟨.inicio, rfl, .planificado (h.estados pid).1 (h.estados pid).2 (h.pendientes pid)⟩

/-! ## The thread that has a process -/

theorem vista_encolarEnReady :
    (s.encolarEnReady pid).vista = Function.update s.vista pid
      { s.vista pid with
        pcb := { (s.vista pid).pcb with estado := .ready }
        fase := .planificado
        historia := (s.vista pid).historia ++ [.aReady] } := by
  simp only [encolarEnReady, vista_anotar, vista_conFase, vista_cambiarEstado, Function.update_self,
    Function.update_idem]

theorem vista_finalizarPcbPorSegFault :
    (s.finalizarPcbPorSegFault pid).vista = Function.update s.vista pid
      { s.vista pid with
        pcb := { (s.vista pid).pcb with estado := .exitState, stdinPendiente := none }
        fase := .fuera
        enLista := (s.vista pid).enLista - 1
        historia := (s.vista pid).historia ++ [.finalizado] } := by
  simp only [finalizarPcbPorSegFault, vista_anotar, vista_conFase, vista_removerDeListaSuspendidos,
    vista_modificarPcb, Function.update_self, Function.update_idem]

theorem vista_aSuspReady :
    (s.aSuspReady pid).vista = Function.update s.vista pid
      { s.vista pid with pcb := { (s.vista pid).pcb with estado := .suspReady }, fase := .suspReady } := by
  have hvista : (s.aSuspReady pid).vista = ((s.cambiarEstado pid .suspReady).conFase pid .suspReady).vista := rfl
  rw [hvista]
  simp only [vista_conFase, vista_cambiarEstado, Function.update_self, Function.update_idem]

theorem vista_pedir (req : IoRequest) (fase : FaseProceso) :
    (({ s.contarEntrada pid with
        colaProcesosBlock := (s.contarEntrada pid).colaProcesosBlock ++ [pid] }.conFase pid fase).anotar pid
      (.entra req)).vista = Function.update s.vista pid
      { s.vista pid with
        pcb := { (s.vista pid).pcb with blockEpoch := (s.vista pid).pcb.blockEpoch + 1 }
        fase := fase
        enBlock := (s.vista pid).enBlock + 1
        historia := (s.vista pid).historia ++ [.entra req] } := by
  simp only [vista_anotar, vista_conFase, vista_encolarBlock, vista_contarEntrada, Function.update_self,
    Function.update_idem]

/-- The request is queued and the episode counted. -/
theorem Inv.hilo_pedir (h : s.Inv) {p : Pcb} {req : IoRequest} {historia : List Paso}
    (hv : s.vista pid = ⟨p, .pedir req, 0, 0, [], .nada, 0, historia⟩)
    (ha : Traces.follow Protocolo.avanza .inicio historia = some .inicio) (hestado : p.estado = .block)
    (hpendiente : p.stdinPendiente = none) {datos : List UInt8} {aceptada : Bool}
    (hs : s.avanzarHilo pid datos aceptada = some s') : s'.Inv := by
  have hfase : s.fases pid = .pedir req := congrArg Vista.fase hv
  simp only [Suspensiones.avanzarHilo, hfase, Option.some.injEq] at hs
  cases hs
  apply h.mover (vista_pedir req _)
  rw [hv]
  apply Vista.Bien.concat ha rfl rfl
  refine .enBlock (.bloqueado _ _ _) ?_ hpendiente
  simp only [hestado]
  exact .sin

/-- The thread goes on with its process in `cola_procesos_block`, or takes it out. -/
theorem Inv.hilo_enBlock (h : s.Inv) {p : Pcb} {fase : FaseProceso} {enLista : ℕ} {volcados : List FaseTimer}
    {historia : List Paso} {io : FaseIo} {lugar : LugarMemoria} {suspendido : Bool}
    (hv : s.vista pid = ⟨p, fase, 1, enLista, volcados, .nada, 0, historia⟩)
    (ha : Traces.follow Protocolo.avanza .inicio historia = some ⟨io, lugar, suspendido⟩) (hen : EnBlock fase io)
    (hvolcado : Volcado p.estado p.suspendidoEnSwap enLista volcados lugar suspendido)
    (hpendiente : p.stdinPendiente = none) {datos : List UInt8} {aceptada : Bool}
    (hs : s.avanzarHilo pid datos aceptada = some s') : s'.Inv := by
  have hfase : s.fases pid = fase := congrArg Vista.fase hv
  have hpcb : s.pcbs pid = p := congrArg Vista.pcb hv
  cases hen with
  | bloqueado req epoch entrada =>
    simp only [Suspensiones.avanzarHilo, hfase, Option.some.injEq] at hs
    cases hs
    apply h.mover (by rw [vista_conFase, vista_notificarProcesoEnBlock])
    rw [hv]
    exact ⟨_, ha, .enBlock (.encolar req) hvolcado hpendiente⟩
  | encolar req =>
    simp only [Suspensiones.avanzarHilo, hfase, Option.some.injEq] at hs
    cases hs
    apply h.mover (vista_conFase _)
    rw [hv]
    exact ⟨_, ha, .enBlock (.enInterfaz req) hvolcado hpendiente⟩
  | enInterfaz req =>
    simp only [Suspensiones.avanzarHilo, hfase, Option.some.injEq] at hs
    cases hs
    apply h.mover (by rw [vista_anotar, vista_conFase, Function.update_self, Function.update_idem])
    rw [hv]
    apply Vista.Bien.concat ha _ rfl (.enBlock (.terminada req datos) hvolcado hpendiente)
    simp [Protocolo.avanza]
  | terminada req leidos =>
    have hmem : pid ∈ s.colaProcesosBlock := by
      apply List.one_le_count_iff.mp
      exact Nat.le_of_eq (congrArg Vista.enBlock hv).symm
    simp only [Suspensiones.avanzarHilo, hfase, extraerDeBlock, hmem, not_true, if_false, hpcb, Option.some.injEq]
      at hs
    have hsale : ({ s with colaProcesosBlock := s.colaProcesosBlock.erase pid }.conFase pid
        (.extraida req leidos)).vista =
          Function.update s.vista pid ⟨p, .extraida req leidos, 0, enLista, volcados, .nada, 0, historia⟩ := by
      rw [vista_conFase, vista_sacarDeBlock, Function.update_self, Function.update_idem, hv]
      rfl
    generalize hestado : p.estado = estado at hvolcado hs
    generalize henSwap : p.suspendidoEnSwap = enSwap at hvolcado hs
    -- Only a process that was never marked, or whose dump is answered, leaves the queue.
    cases hvolcado with
    | sin =>
      simp only [reduceCtorEq, false_and, if_false] at hs
      cases hs
      exact h.mover hsale ⟨_, ha, .enRam (.extraida req leidos) hestado hpendiente⟩
    | hecho =>
      simp only [not_true, and_false, if_false] at hs
      cases hs
      exact h.mover hsale ⟨_, ha, .extraida hestado hpendiente⟩
    | marcado | listado | pidiendo | respondido =>
      simp only [Bool.false_eq_true, not_false_eq_true, and_self, if_true] at hs
      cases hs
      exact h

/-- The worker with a process that was not suspended: the write of STDIN if there is one, and READY. -/
theorem Inv.hilo_enRam (h : s.Inv) {p : Pcb} {fase : FaseProceso} {historia : List Paso} {io : FaseIo}
    (hv : s.vista pid = ⟨p, fase, 0, 0, [], .nada, 0, historia⟩)
    (ha : Traces.follow Protocolo.avanza .inicio historia = some ⟨io, .enRam, false⟩) (hen : EnRam fase io)
    (hestado : p.estado = .block) (hpendiente : p.stdinPendiente = none) {datos : List UInt8} {aceptada : Bool}
    (hs : s.avanzarHilo pid datos aceptada = some s') : s'.Inv := by
  have hfase : s.fases pid = fase := congrArg Vista.fase hv
  have hpcb : s.pcbs pid = p := congrArg Vista.pcb hv
  cases hen with
  | extraida req leidos =>
    simp only [Suspensiones.avanzarHilo, hfase, concluirIo, hpcb, hestado, reduceCtorEq, if_false,
      Option.some.injEq] at hs
    cases hs
    by_cases htipo : req.tipo = .stdin
    · rw [if_pos htipo]
      apply h.mover (vista_conFase _)
      rw [hv]
      unfold porEscribir at ha
      rw [if_pos htipo] at ha
      exact ⟨_, ha, .enRam (.escribir _) hestado hpendiente⟩
    · rw [if_neg htipo]
      apply h.mover (vista_conFase _)
      rw [hv]
      unfold porEscribir at ha
      rw [if_neg htipo] at ha
      exact ⟨_, ha, .enRam .aReady hestado hpendiente⟩
  | escribir pendiente =>
    simp only [Suspensiones.avanzarHilo, hfase, Option.some.injEq] at hs
    cases hs
    apply h.mover (by rw [vista_anotar, vista_conFase, Function.update_self, Function.update_idem])
    rw [hv]
    apply Vista.Bien.concat ha _ rfl (.enRam (.escribiendo pendiente) hestado hpendiente)
    simp [Protocolo.avanza]
  | escribiendo pendiente =>
    simp only [Suspensiones.avanzarHilo, hfase] at hs
    cases aceptada with
    | true =>
      cases hs
      apply h.mover (by rw [vista_anotar, vista_conFase, Function.update_self, Function.update_idem])
      rw [hv]
      exact Vista.Bien.concat ha rfl rfl (.enRam .aReady hestado hpendiente)
    | false =>
      cases hs
      apply h.mover (by rw [vista_anotar, vista_conFase, Function.update_self, Function.update_idem])
      rw [hv]
      exact Vista.Bien.concat ha rfl rfl (.enRam .rechazada hestado hpendiente)
  | aReady =>
    simp only [Suspensiones.avanzarHilo, hfase, Option.some.injEq] at hs
    cases hs
    apply h.mover vista_encolarEnReady
    rw [hv]
    exact Vista.Bien.concat ha rfl rfl (.planificado Estado.noConfusion Estado.noConfusion hpendiente)
  | rechazada =>
    simp only [Suspensiones.avanzarHilo, hfase, Option.some.injEq] at hs
    cases hs
    apply h.mover vista_finalizarPcbPorSegFault
    rw [hv]
    exact Vista.Bien.concat ha rfl rfl (.fuera rfl rfl)

/-- The worker with a process in SUSP_BLOCK: STDIN stays in its PCB, and it becomes SUSP_READY. -/
theorem Inv.hilo_extraida (h : s.Inv) {p : Pcb} {req : IoRequest} {leidos : List UInt8} {historia : List Paso}
    (hv : s.vista pid = ⟨p, .extraida req leidos, 0, 1, [], .nada, 0, historia⟩)
    (ha : Traces.follow Protocolo.avanza .inicio historia = some ⟨.terminada (porEscribir req leidos), .enSwap, true⟩)
    (hestado : p.estado = .suspBlock) (hpendiente : p.stdinPendiente = none) {datos : List UInt8} {aceptada : Bool}
    (hs : s.avanzarHilo pid datos aceptada = some s') : s'.Inv := by
  have hfase : s.fases pid = .extraida req leidos := congrArg Vista.fase hv
  have hpcb : s.pcbs pid = p := congrArg Vista.pcb hv
  simp only [Suspensiones.avanzarHilo, hfase, concluirIo, hpcb, hestado, if_true, Option.some.injEq] at hs
  cases hs
  unfold porEscribir at ha
  by_cases htipo : req.tipo = .stdin
  · rw [if_pos htipo] at ha ⊢
    apply h.mover (by rw [vista_conFase, vista_modificarPcb, Function.update_self, Function.update_idem])
    rw [hv]
    exact ⟨_, ha, .diferida hestado rfl⟩
  · rw [if_neg htipo] at ha ⊢
    apply h.mover vista_aSuspReady
    rw [hv]
    refine ⟨_, ha, .suspReady rfl ?_⟩
    simp only [hpendiente]
    exact .espera (Nat.zero_le 1)

theorem Inv.hilo_diferida (h : s.Inv) {p : Pcb} {pendiente : StdinPendiente} {historia : List Paso}
    (hv : s.vista pid = ⟨p, .diferida, 0, 1, [], .nada, 0, historia⟩)
    (ha : Traces.follow Protocolo.avanza .inicio historia = some ⟨.terminada (some pendiente), .enSwap, true⟩)
    (hpendiente : p.stdinPendiente = some pendiente) {datos : List UInt8} {aceptada : Bool}
    (hs : s.avanzarHilo pid datos aceptada = some s') : s'.Inv := by
  have hfase : s.fases pid = .diferida := congrArg Vista.fase hv
  simp only [Suspensiones.avanzarHilo, hfase, Option.some.injEq] at hs
  cases hs
  apply h.mover vista_aSuspReady
  rw [hv]
  refine ⟨_, ha, .suspReady rfl ?_⟩
  simp only [hpendiente]
  exact .espera (Nat.zero_le 1)

/-- A section of the thread that has a process. -/
theorem Inv.avanzarHilo (h : s.Inv) {datos : List UInt8} {aceptada : Bool}
    (hs : s.avanzarHilo pid datos aceptada = some s') : s'.Inv := by
  obtain ⟨a, ha, hsituacion⟩ := h pid
  generalize hv : s.vista pid = v at ha hsituacion
  have hfase : s.fases pid = v.fase := congrArg Vista.fase hv
  cases hsituacion with
  | pedir hestado hpendiente => exact h.hilo_pedir hv ha hestado hpendiente hs
  | enBlock hen hvolcado hpendiente => exact h.hilo_enBlock hv ha hen hvolcado hpendiente hs
  | enRam hen hestado hpendiente => exact h.hilo_enRam hv ha hen hestado hpendiente hs
  | extraida hestado hpendiente => exact h.hilo_extraida hv ha hestado hpendiente hs
  | diferida _ hpendiente => exact h.hilo_diferida hv ha hpendiente hs
  | planificado | suspReady | fuera =>
    simp only [Suspensiones.avanzarHilo, hfase, reduceCtorEq] at hs

/-! ## `suspension_timer_thread` -/

variable {i : ℕ} {t : HiloSuspension}

/-- A timer that has put its process in SUSP_BLOCK goes on. -/
theorem Inv.timer_enVuelo (h : s.Inv) (ht : s.timers[i]? = some t) (henVuelo : t.fase.enVuelo)
    (hs : s.avanzarTimer i = some s') : s'.Inv := by
  have hmem := mem_volcados ht henVuelo
  obtain ⟨io, lugar, suspendido, henCola⟩ := (h t.pid).enCola_of_volcado hmem
  have hsolo : (s.vista t.pid).volcados = t.fase.volcado := henCola.volcado.solo hmem
  have hvolcado := henCola.volcado
  cases hfase : t.fase with
  | dormido | porAvisar | terminado =>
    rw [hfase] at henVuelo
    cases henVuelo
  | marcado =>
    simp only [Suspensiones.avanzarTimer, ht, hfase, Option.some.injEq] at hs
    cases hs
    have hvista := vista_conTimer (s := { s with listaSuspendidos := s.listaSuspendidos ++ [t.pid] }) ht hsolo .listado
    rw [vista_agregarALista, Function.update_self, Function.update_idem] at hvista
    rw [hsolo, hfase] at hvolcado
    apply h.mover hvista
    exact Vista.EnCola.bien { henCola with volcado := hvolcado.listar }
  | listado =>
    simp only [Suspensiones.avanzarTimer, ht, hfase, Option.some.injEq] at hs
    cases hs
    rw [hsolo, hfase] at hvolcado
    obtain ⟨rfl, rfl, hpidiendo⟩ := hvolcado.pedir
    apply h.mover (by rw [vista_anotar, vista_conTimer ht hsolo, Function.update_self, Function.update_idem])
    have hsigue := (Traces.follow_concat henCola.sigue .suspender).trans henCola.hilo.suspender
    exact Vista.EnCola.bien { henCola with sigue := hsigue, volcado := hpidiendo }
  | pidiendo =>
    simp only [Suspensiones.avanzarTimer, ht, hfase, Option.some.injEq] at hs
    cases hs
    rw [hsolo, hfase] at hvolcado
    obtain ⟨rfl, hrespondido⟩ := hvolcado.responder
    apply h.mover (by rw [vista_anotar, vista_conTimer ht hsolo, Function.update_self, Function.update_idem])
    have hsigue := (Traces.follow_concat henCola.sigue .suspendido).trans (henCola.hilo.suspendido suspendido)
    exact Vista.EnCola.bien { henCola with sigue := hsigue, volcado := hrespondido }
  | respondido =>
    have hcola : t.pid ∈ s.colaProcesosBlock := by
      apply List.one_le_count_iff.mp
      exact Nat.le_of_eq henCola.cuenta.symm
    simp only [Suspensiones.avanzarTimer, ht, hfase, hcola, if_true, Option.some.injEq] at hs
    cases hs
    have hvista := vista_conTimer (s := s.modificarPcb t.pid fun p ↦ { p with suspendidoEnSwap := true }) ht
      (by rw [vista_modificarPcb, Function.update_self]; exact hsolo) .porAvisar
    rw [vista_modificarPcb, Function.update_self, Function.update_idem] at hvista
    rw [hsolo, hfase] at hvolcado
    apply h.mover hvista
    exact Vista.EnCola.bien { henCola with volcado := hvolcado.soltar }

/-- A timer wakes up: it puts its process in SUSP_BLOCK if the process is still in the BLOCK of the timer. -/
theorem Inv.timer_dormido (h : s.Inv) (ht : s.timers[i]? = some t) (hfase : t.fase = .dormido)
    (hs : s.avanzarTimer i = some s') : s'.Inv := by
  simp only [Suspensiones.avanzarTimer, ht, hfase] at hs
  split at hs
  · rename_i hvence
    cases hs
    obtain ⟨io, lugar, suspendido, henCola⟩ := (h t.pid).enCola (List.one_le_count_iff.mpr hvence.1)
    have hvolcado := henCola.volcado
    rw [show (s.vista t.pid).pcb.estado = .block from hvence.2.1] at hvolcado
    have hsolo : (s.vista t.pid).volcados = t.fase.volcado := by
      rw [hfase]
      exact hvolcado.nadie
    have hvista := vista_conTimer
      (s := s.modificarPcb t.pid fun p ↦ { p with estado := .suspBlock, suspendidoEnSwap := false }) ht
      (by rw [vista_modificarPcb, Function.update_self]; exact hsolo) .marcado
    rw [vista_modificarPcb, Function.update_self, Function.update_idem] at hvista
    apply h.mover hvista
    exact Vista.EnCola.bien { henCola with volcado := hvolcado.marcar }
  · cases hs
    apply h.of_vista_eq
    exact vista_conTimer_of_volcado_eq ht (by rw [hfase]; rfl)

theorem Inv.avanzarTimer (h : s.Inv) (hs : s.avanzarTimer i = some s') : s'.Inv := by
  cases ht : s.timers[i]? with
  | none => simp only [Suspensiones.avanzarTimer, ht, reduceCtorEq] at hs
  | some t =>
    cases hfase : t.fase with
    | marcado | listado | pidiendo | respondido => exact h.timer_enVuelo ht (by rw [hfase]; rfl) hs
    | dormido => exact h.timer_dormido ht hfase hs
    | porAvisar =>
      simp only [Suspensiones.avanzarTimer, ht, hfase, Option.some.injEq] at hs
      cases hs
      apply h.of_vista_eq
      exact vista_conTimer_of_volcado_eq (s := s.notificarReevaluarSuspendidos) ht (by rw [hfase]; rfl)
    | terminado => simp only [Suspensiones.avanzarTimer, ht, hfase, reduceCtorEq] at hs

/-! ## `planificadorMedianoPlazo` -/

/-- Each process of the snapshot is in it as often as in the list. -/
theorem count_foto {candidatos : List Pid} (h : s.EsFoto candidatos) (pid : Pid) :
    candidatos.count pid = if (s.pcbs pid).estado = .suspReady then s.listaSuspendidos.count pid else 0 := by
  rw [h.count_eq]
  split
  · rename_i hestado
    exact List.count_filter (by simpa using hestado)
  · rename_i hestado
    apply List.count_eq_zero.mpr
    intro hmem
    apply hestado
    simpa using (List.mem_filter.mp hmem).2

/-- Past `sem_wait`. -/
theorem Inv.foto (h : s.Inv) (hpmp : s.pmp = .espera) {candidatos : List Pid} (hfoto : s.EsFoto candidatos)
    (hvista : ∀ pid, s'.vista pid = { s.vista pid with etapa := .nada, candidato := candidatos.count pid }) :
    s'.Inv := by
  intro pid
  have hetapa : (s.vista pid).etapa = .nada := by
    show s.pmp.etapa pid = .nada
    rw [hpmp]
    rfl
  rw [hvista, ← hetapa]
  exact (h pid).foto hetapa (count_foto hfoto pid)

/-- The planner asks for the next process of its snapshot. -/
theorem Inv.pmp_pide (h : s.Inv) {resto : List Pid} (hpmp : s.pmp = .recorre (pid :: resto)) :
    ((s.conPmp (.pidiendo pid resto)).anotar pid .desSuspender).Inv := by
  have hcandidato : 1 ≤ (s.vista pid).candidato := by
    show 1 ≤ s.pmp.candidatos.count pid
    rw [hpmp]
    exact List.one_le_count_iff.mpr List.mem_cons_self
  have hetapa : (s.vista pid).etapa = .nada := by
    show s.pmp.etapa pid = .nada
    rw [hpmp]
    rfl
  obtain ⟨io, lugar, hen⟩ := (h pid).enSuspReady (.inr hcandidato)
  have hsituacion := hen.pmp
  rw [hetapa] at hsituacion
  obtain ⟨hpaso, hpidiendo⟩ := hsituacion.pedir hcandidato
  apply h.mover (by rw [vista_anotar, vista_conPmp_pidiendo hpmp, Function.update_self, Function.update_idem])
  have hsigue := (Traces.follow_concat hen.sigue .desSuspender).trans hpaso
  exact Vista.EnSuspReady.bien { hen with sigue := hsigue, pmp := hpidiendo }

/-- The process in the hands of the planner. -/
theorem Inv.enMano (h : s.Inv) {etapa : EtapaPmp} (hpmp : s.pmp.enMano = some (pid, etapa)) (hetapa : etapa ≠ .nada) :
    (s.vista pid).etapa = etapa ∧ ∃ io lugar, (s.vista pid).EnSuspReady io lugar := by
  have hvista : (s.vista pid).etapa = etapa := by
    show s.pmp.etapa pid = etapa
    rw [etapa_of_enMano hpmp, if_pos rfl]
  refine ⟨hvista, (h pid).enSuspReady (.inl ?_)⟩
  rw [hvista]
  exact hetapa

/-- Kernel Memory has answered. -/
theorem Inv.pmp_responde (h : s.Inv) {resto : List Pid} (hpmp : s.pmp = .pidiendo pid resto) {candidatos : List Pid}
    {aceptada : Bool} (hs : s.avanzarPmp candidatos aceptada = some s') : s'.Inv := by
  have henMano : s.pmp.enMano = some (pid, .pidiendo) := by rw [hpmp]; rfl
  have hresto : s.pmp.candidatos = resto := by rw [hpmp]; rfl
  obtain ⟨hetapa, io, lugar, hen⟩ := h.enMano henMano EtapaPmp.noConfusion
  have hsituacion := hen.pmp
  rw [hetapa] at hsituacion
  simp only [Suspensiones.avanzarPmp, hpmp] at hs
  cases aceptada with
  | true =>
    cases hs
    obtain ⟨hpaso, haceptado⟩ := hsituacion.aceptar
    have hvista := vista_conPmp (.aceptado pid resto) henMano rfl hresto.symm
    apply h.mover (by rw [vista_anotar, hvista, Function.update_self, Function.update_idem])
    have hsigue := (Traces.follow_concat hen.sigue .desSuspendido).trans hpaso
    exact Vista.EnSuspReady.bien { hen with sigue := hsigue, pmp := haceptado }
  | false =>
    cases hs
    obtain ⟨hpaso, hrechazado⟩ := hsituacion.rechazar
    have hvista := vista_conPmp_recorre henMano
    rw [hresto] at hvista
    apply h.mover (by rw [vista_anotar, hvista, Function.update_self, Function.update_idem])
    have hsigue := (Traces.follow_concat hen.sigue .noDesSuspendido).trans hpaso
    exact Vista.EnSuspReady.bien { hen with sigue := hsigue, pmp := hrechazado }

/-- Out of the list, and the write that STDIN left if there is one. -/
theorem Inv.pmp_remueve (h : s.Inv) {resto : List Pid} (hpmp : s.pmp = .aceptado pid resto) :
    ((s.removerDeListaSuspendidos pid).conPmp (.removido pid resto)).Inv := by
  have henMano : s.pmp.enMano = some (pid, .aceptado) := by rw [hpmp]; rfl
  have hresto : s.pmp.candidatos = resto := by rw [hpmp]; rfl
  obtain ⟨hetapa, io, lugar, hen⟩ := h.enMano henMano EtapaPmp.noConfusion
  have hsituacion := hen.pmp
  rw [hetapa] at hsituacion
  have hvista := vista_conPmp (s := s.removerDeListaSuspendidos pid) (.removido pid resto) henMano rfl
    hresto.symm
  rw [vista_removerDeListaSuspendidos, Function.update_self, Function.update_idem] at hvista
  apply h.mover hvista
  exact Vista.EnSuspReady.bien { hen with pmp := hsituacion.remover }

theorem Inv.pmp_escribe (h : s.Inv) {resto : List Pid} (hpmp : s.pmp = .removido pid resto) {candidatos : List Pid}
    {aceptada : Bool} (hs : s.avanzarPmp candidatos aceptada = some s') : s'.Inv := by
  have henMano : s.pmp.enMano = some (pid, .removido) := by rw [hpmp]; rfl
  have hresto : s.pmp.candidatos = resto := by rw [hpmp]; rfl
  obtain ⟨hetapa, io, lugar, hen⟩ := h.enMano henMano EtapaPmp.noConfusion
  have hsituacion := hen.pmp
  rw [hetapa] at hsituacion
  simp only [Suspensiones.avanzarPmp, hpmp] at hs
  cases hpendiente : (s.pcbs pid).stdinPendiente with
  | none =>
    rw [hpendiente] at hs
    cases hs
    rw [show (s.vista pid).pcb.stdinPendiente = none from hpendiente] at hsituacion
    apply h.mover (vista_conPmp (.aReady pid resto) henMano rfl hresto.symm)
    refine Vista.EnSuspReady.bien { hen with pmp := ?_ }
    rw [show (s.vista pid).pcb.stdinPendiente = none from hpendiente]
    exact hsituacion.sinEscribir
  | some pendiente =>
    rw [hpendiente] at hs
    cases hs
    rw [show (s.vista pid).pcb.stdinPendiente = some pendiente from hpendiente] at hsituacion
    obtain ⟨hpaso, hescribiendo⟩ := hsituacion.escribir
    have hvista := vista_conPmp (.escribiendo pid resto) henMano rfl hresto.symm
    apply h.mover (by rw [vista_anotar, hvista, Function.update_self, Function.update_idem])
    have hsigue := (Traces.follow_concat hen.sigue (.escritura pendiente)).trans hpaso
    refine Vista.EnSuspReady.bien { hen with sigue := hsigue, pmp := ?_ }
    rw [show (s.vista pid).pcb.stdinPendiente = some pendiente from hpendiente]
    exact hescribiendo

/-- The write is answered. -/
theorem Inv.pmp_escrita (h : s.Inv) {resto : List Pid} (hpmp : s.pmp = .escribiendo pid resto) {candidatos : List Pid}
    {aceptada : Bool} (hs : s.avanzarPmp candidatos aceptada = some s') : s'.Inv := by
  have henMano : s.pmp.enMano = some (pid, .escribiendo) := by rw [hpmp]; rfl
  have hresto : s.pmp.candidatos = resto := by rw [hpmp]; rfl
  obtain ⟨hetapa, io, lugar, hen⟩ := h.enMano henMano EtapaPmp.noConfusion
  have hsituacion := hen.pmp
  rw [hetapa] at hsituacion
  simp only [Suspensiones.avanzarPmp, hpmp] at hs
  have hvista : ∀ {fase : FasePlanificador} {etapa : EtapaPmp} (paso : Paso), fase.enMano = some (pid, etapa) →
      fase.candidatos = resto →
      (((s.modificarPcb pid fun p ↦ { p with stdinPendiente := none }).conPmp fase).anotar pid paso).vista =
        Function.update s.vista pid
          { s.vista pid with
            pcb := { (s.vista pid).pcb with stdinPendiente := none }
            etapa := etapa
            historia := (s.vista pid).historia ++ [paso] } := by
    intro fase etapa paso hfase hcandidatos
    have hconPmp := vista_conPmp (s := s.modificarPcb pid fun p ↦ { p with stdinPendiente := none }) fase henMano hfase
      (hcandidatos.trans hresto.symm)
    rw [vista_anotar, hconPmp, vista_modificarPcb, Function.update_self, Function.update_idem, Function.update_self,
      Function.update_idem]
  cases aceptada with
  | true =>
    cases hs
    obtain ⟨hpaso, hready⟩ := hsituacion.escrita
    apply h.mover (hvista .escrita rfl rfl)
    have hsigue := (Traces.follow_concat hen.sigue .escrita).trans hpaso
    exact Vista.EnSuspReady.bien { hen with sigue := hsigue, pmp := hready }
  | false =>
    cases hs
    obtain ⟨hpaso, hrechazada⟩ := hsituacion.noEscrita
    apply h.mover (hvista .noEscrita rfl rfl)
    have hsigue := (Traces.follow_concat hen.sigue .noEscrita).trans hpaso
    exact Vista.EnSuspReady.bien { hen with sigue := hsigue, pmp := hrechazada }

/-- To READY, or out with a write that was refused, and on to the next process. -/
theorem Inv.pmp_suelta (h : s.Inv) {resto : List Pid} {candidatos : List Pid} {aceptada : Bool}
    (hpmp : s.pmp = .aReady pid resto ∨ s.pmp = .rechazada pid resto)
    (hs : s.avanzarPmp candidatos aceptada = some s') : s'.Inv := by
  rcases hpmp with hpmp | hpmp
  · simp only [Suspensiones.avanzarPmp, hpmp, Option.some.injEq] at hs
    cases hs
    have henMano : (s.encolarEnReady pid).pmp.enMano = some (pid, .aReady) := by
      show s.pmp.enMano = _
      rw [hpmp]
      rfl
    have hresto : (s.encolarEnReady pid).pmp.candidatos = resto := by
      show s.pmp.candidatos = resto
      rw [hpmp]
      rfl
    have hvista := vista_conPmp_recorre henMano
    rw [hresto, vista_encolarEnReady, Function.update_self, Function.update_idem] at hvista
    obtain ⟨hetapa, io, lugar, hen⟩ := h.enMano henMano EtapaPmp.noConfusion
    exact h.mover hvista (hen.aReady hetapa)
  · simp only [Suspensiones.avanzarPmp, hpmp, Option.some.injEq] at hs
    cases hs
    have henMano : (s.finalizarPcbPorSegFault pid).pmp.enMano = some (pid, .rechazada) := by
      show s.pmp.enMano = _
      rw [hpmp]
      rfl
    have hresto : (s.finalizarPcbPorSegFault pid).pmp.candidatos = resto := by
      show s.pmp.candidatos = resto
      rw [hpmp]
      rfl
    have hvista := vista_conPmp_recorre henMano
    rw [hresto, vista_finalizarPcbPorSegFault, Function.update_self, Function.update_idem] at hvista
    obtain ⟨hetapa, io, lugar, hen⟩ := h.enMano henMano EtapaPmp.noConfusion
    exact h.mover hvista (hen.rechazada hetapa)

/-- A section of the planner. -/
theorem Inv.avanzarPmp (h : s.Inv) {candidatos : List Pid} {aceptada : Bool}
    (hs : s.avanzarPmp candidatos aceptada = some s') : s'.Inv := by
  cases hpmp : s.pmp with
  | espera =>
    simp only [Suspensiones.avanzarPmp, hpmp] at hs
    split at hs
    · rename_i hpasa
      cases hs
      exact h.foto hpmp hpasa.2 fun _ ↦ rfl
    · cases hs
  | recorre pendientes =>
    cases pendientes with
    | nil =>
      simp only [Suspensiones.avanzarPmp, hpmp, Option.some.injEq] at hs
      cases hs
      apply h.of_vista_eq
      funext pid
      simp [vista, conPmp, hpmp, FasePlanificador.etapa, FasePlanificador.enMano, FasePlanificador.candidatos]
    | cons pid resto =>
      simp only [Suspensiones.avanzarPmp, hpmp, Option.some.injEq] at hs
      cases hs
      exact h.pmp_pide hpmp
  | pidiendo pid resto => exact h.pmp_responde hpmp hs
  | aceptado pid resto =>
    simp only [Suspensiones.avanzarPmp, hpmp, Option.some.injEq] at hs
    cases hs
    exact h.pmp_remueve hpmp
  | removido pid resto => exact h.pmp_escribe hpmp hs
  | escribiendo pid resto => exact h.pmp_escrita hpmp hs
  | aReady pid resto => exact h.pmp_suelta (.inl hpmp) hs
  | rechazada pid resto => exact h.pmp_suelta (.inr hpmp) hs

/-! ## Runs -/

theorem Inv.avanzarEspera (h : s.Inv) {i : ℕ} (hs : s.avanzarEspera i = some s') : s'.Inv := by
  unfold Suspensiones.avanzarEspera at hs
  split at hs
  · cases hs
  · rename_i espera _
    split at hs
    · cases hs
      apply h.of_vista_eq
      exact vista_notificarProcesoEnBlock (s := { s with esperas := s.esperas.eraseIdx i }) _ _ _
    · cases hs
      have hvista : (s.contarEntrada espera.pid).vista = Function.update s.vista espera.pid _ := vista_contarEntrada
      apply h.mover hvista
      exact (h espera.pid).contar _

/-- What the rest of the scheduler does with a process it has. -/
theorem Inv.planificado (h : s.Inv) (hfase : s.fases pid = .planificado) {v : Vista}
    (hvista : s'.vista = Function.update s.vista pid v) (hv : (s.vista pid).EnPlanificacion → v.Bien) : s'.Inv :=
  h.mover hvista (hv ((h pid).enPlanificacion hfase))

theorem Inv.paso (h : s.Inv) {suceso : SucesoSuspension} (hs : s.paso suceso = some s') : s'.Inv := by
  cases suceso with
  | planificar pid estado =>
    simp only [Suspensiones.paso] at hs
    split at hs
    · rename_i hpuede
      cases hs
      apply h.planificado hpuede.1 (vista_cambiarEstado estado)
      intro hen
      exact Vista.EnPlanificacion.bien { hen with estado := hpuede.2 }
    · cases hs
  | terminar pid =>
    simp only [Suspensiones.paso] at hs
    split at hs
    · rename_i hfase
      cases hs
      apply h.planificado hfase _ Vista.EnPlanificacion.terminar
      rw [vista_anotar, vista_conFase, vista_cambiarEstado, Function.update_self, Function.update_idem,
        Function.update_self, Function.update_idem]
    · cases hs
  | esperarMutex pid =>
    simp only [Suspensiones.paso] at hs
    split at hs
    · rename_i hfase
      cases hs
      apply h.planificado hfase (vista_cambiarEstado .block)
      intro hen
      exact Vista.EnPlanificacion.bien { hen with estado := ⟨Estado.noConfusion, Estado.noConfusion⟩ }
    · cases hs
  | pedirIo req =>
    simp only [Suspensiones.paso] at hs
    split at hs
    · rename_i hfase
      cases hs
      apply h.planificado hfase _ (fun hen ↦ hen.pedir req)
      rw [vista_conFase, vista_cambiarEstado, Function.update_self, Function.update_idem]
    · cases hs
  | espera i => exact h.avanzarEspera hs
  | hilo pid datos aceptada => exact h.avanzarHilo hs
  | timer i => exact h.avanzarTimer hs
  | pmp candidatos aceptada => exact h.avanzarPmp hs
  | avisar =>
    simp only [Suspensiones.paso] at hs
    split at hs
    · cases hs
      exact h
    · cases hs
  | notificar =>
    cases hs
    exact h

/-- In every run, every process follows the protocol and is where the protocol is. -/
theorem inv_of_reachable {permitido : Suspensiones → SucesoSuspension → Prop}
    (h : Reachable Suspensiones.paso Suspensiones.Inicial permitido s) : s.Inv :=
  h.invariant (fun _ hinicial ↦ Inv.inicial hinicial) fun _ _ _ hinv _ hpaso ↦ hinv.paso hpaso

end Suspensiones

end PlugAndPlay.Planificador
