import PlugAndPlay.Library.Transitions
import PlugAndPlay.Planificador.Tipos

/-!
# Interrupts of a CPU

The two threads of a CPU, the listener of the scheduler and the loop of `ejecutar_ciclo_instruccion`, with
a step for each access to what they share. What the instructions do, and the answers of Kernel Memory,
come from outside.
-/

open PlugAndPlay.Library

namespace PlugAndPlay.Cpu

open Planificador (Pid Motivo)

/-- Where the loop is: in `esperar_pid_del_scheduler`, in the round trip for the context, before
`pid_en_ejecucion = pid`, at an instruction, before `check_interrupt`, in `manejar_interrupcion`, before
`DEVOLVER_PROCESO`, and in the two halves of `limpiar_estado_cpu`. -/
inductive FaseCiclo
  | esperar
  | leerPid
  | pedirContexto (pid : Pid)
  | asignar (pid : Pid)
  | fetch (pid : Pid)
  | execute (pid : Pid)
  | chequear (pid : Pid)
  | interrumpir (pid : Pid)
  | devolver (pid : Pid) (motivo : Motivo)
  | limpiarPid
  | limpiarPendiente
deriving Repr, DecidableEq

/-- Where the listener is: before its next message, or at an `INTERRUPCION` with `interrupcion_lock` and
the value it read of `pid_en_ejecucion`. -/
inductive FaseListener
  | escuchar
  | comparar (pid : Pid) (motivo : Motivo) (actual : Option Pid)
deriving Repr, DecidableEq

/-- `cpu_connections` and the two threads. `despacho` is the process that was sent to the CPU and not
returned, and `debida` tells whether an `INTERRUPCION` for it has been handled. -/
structure CpuConnections where
  pidAEjecutar : Pid
  semProcesoListo : ℕ
  pidEnEjecucion : Option Pid
  interrupcionPendiente : Bool
  motivoInterrupcion : Motivo
  ciclo : FaseCiclo
  listener : FaseListener
  devueltos : List (Pid × Motivo)
  despacho : Option Pid
  debida : Bool
deriving Repr, DecidableEq

inductive EventoCpu
  | ejecutarProceso (pid : Pid)
  | interrupcion (pid : Pid) (motivo : Motivo)
  | comparar
  | tomarProceso
  | leerPid
  | contexto (recibido : Bool)
  | asignar
  | fetch (recibida : Bool)
  | execute (resultado : Option Motivo)
  | chequear
  | leerMotivo
  | devolver
  | limpiarPid
  | limpiarPendiente
deriving Repr, DecidableEq

namespace CpuConnections

variable (k : CpuConnections)

/-- One access of one thread. The scheduler sends a process only when the last one was returned. Who holds
`interrupcion_lock` keeps the other thread out of its sections. -/
def paso : EventoCpu → Option CpuConnections
  | .ejecutarProceso pid =>
    if k.listener = .escuchar ∧ k.despacho = none then
      some { k with
        pidAEjecutar := pid
        semProcesoListo := k.semProcesoListo + 1
        despacho := some pid }
    else none
  | .interrupcion pid motivo =>
    if k.listener = .escuchar then some { k with listener := .comparar pid motivo k.pidEnEjecucion }
    else none
  | .comparar =>
    match k.listener with
    | .escuchar => none
    | .comparar pid motivo actual =>
      let k₁ := { k with listener := .escuchar, debida := k.debida || k.despacho = some pid }
      if actual = some pid then
        some { k₁ with interrupcionPendiente := true, motivoInterrupcion := motivo }
      else some k₁
  | .tomarProceso =>
    if k.ciclo = .esperar ∧ 0 < k.semProcesoListo then
      some { k with semProcesoListo := k.semProcesoListo - 1, ciclo := .leerPid }
    else none
  | .leerPid => if k.ciclo = .leerPid then some { k with ciclo := .pedirContexto k.pidAEjecutar } else none
  | .contexto recibido =>
    match k.ciclo with
    | .pedirContexto pid => some { k with ciclo := if recibido then .asignar pid else .esperar }
    | _ => none
  | .asignar =>
    match k.ciclo with
    | .asignar pid => some { k with pidEnEjecucion := some pid, ciclo := .fetch pid }
    | _ => none
  | .fetch recibida =>
    match k.ciclo with
    | .fetch pid => some { k with ciclo := if recibida then .execute pid else .devolver pid .error }
    | _ => none
  | .execute resultado =>
    match k.ciclo with
    | .execute pid => some { k with ciclo := resultado.elim (.chequear pid) (.devolver pid) }
    | _ => none
  | .chequear =>
    match k.ciclo, k.listener with
    | .chequear pid, .escuchar =>
      if k.interrupcionPendiente then
        some { k with interrupcionPendiente := false, ciclo := .interrumpir pid }
      else some { k with ciclo := .fetch pid }
    | _, _ => none
  | .leerMotivo =>
    match k.ciclo, k.listener with
    | .interrumpir pid, .escuchar => some { k with ciclo := .devolver pid k.motivoInterrupcion }
    | _, _ => none
  | .devolver =>
    match k.ciclo with
    | .devolver pid motivo =>
      some { k with
        devueltos := k.devueltos ++ [(pid, motivo)]
        despacho := none
        debida := false
        ciclo := .limpiarPid }
    | _ => none
  | .limpiarPid =>
    if k.ciclo = .limpiarPid then some { k with pidEnEjecucion := none, ciclo := .limpiarPendiente }
    else none
  | .limpiarPendiente =>
    if k.ciclo = .limpiarPendiente ∧ k.listener = .escuchar then
      some { k with interrupcionPendiente := false, ciclo := .esperar }
    else none

end CpuConnections

/-- The process whose instructions the loop executes, from `pid_en_ejecucion = pid` to
`DEVOLVER_PROCESO`. -/
def FaseCiclo.proceso : FaseCiclo → Option Pid
  | .fetch pid | .execute pid | .chequear pid | .interrumpir pid | .devolver pid _ => some pid
  | _ => none

/-- The loop returns the process without another `check_interrupt`. -/
def FaseCiclo.Volviendo : FaseCiclo → Prop
  | .interrumpir _ | .devolver _ _ => True
  | _ => False

instance : DecidablePred FaseCiclo.Volviendo := fun f ↦ by
  unfold FaseCiclo.Volviendo
  split <;> infer_instance

namespace CpuConnections

/-- After `conectar_a_scheduler`. -/
def Arranque (k : CpuConnections) : Prop :=
  ∃ pid, k = ⟨pid, 0, none, false, .quantum, .esperar, .escuchar, [], none, false⟩

/-- A handled interrupt of the process that the CPU has not returned yet is recorded, or the process is on
its way back; and the next `check_interrupt` returns it. -/
def InterrupcionesAtendidas (k : CpuConnections) : Prop :=
  k.debida = true →
    (k.ciclo.proceso = k.despacho ∧ k.despacho.isSome ∧
      (k.ciclo.Volviendo ∨ k.interrupcionPendiente = true)) ∧
    ∀ k', k.paso .chequear = some k' → k'.ciclo.Volviendo

/-! ## The invariant -/

def FaseOk (k : CpuConnections) : Prop :=
  match k.ciclo with
  | .esperar | .limpiarPid | .limpiarPendiente => True
  | .leerPid => k.despacho = some k.pidAEjecutar ∧ k.semProcesoListo = 0
  | .pedirContexto pid | .asignar pid => k.despacho = some pid ∧ k.semProcesoListo = 0
  | .fetch pid | .execute pid | .chequear pid | .interrumpir pid | .devolver pid _ =>
    k.despacho = some pid ∧ k.semProcesoListo = 0 ∧ k.pidEnEjecucion = some pid

structure Atenta (k : CpuConnections) : Prop where
  fase : k.FaseOk
  listo : 0 < k.semProcesoListo → k.semProcesoListo = 1 ∧ k.despacho = some k.pidAEjecutar
  listener : ∀ pid motivo actual, k.listener = .comparar pid motivo actual → k.despacho = some pid →
    k.ciclo.proceso = some pid ∧ actual = some pid
  debida : k.debida = true → k.ciclo.proceso = k.despacho ∧ k.despacho.isSome ∧
    (k.ciclo.Volviendo ∨ k.interrupcionPendiente = true)

variable {k k' : CpuConnections} {pid : Pid}

/-- The process that the loop executes is the one that was sent. -/
theorem FaseOk.proceso (h : k.FaseOk) (hpid : k.ciclo.proceso = some pid) :
    k.despacho = some pid ∧ k.semProcesoListo = 0 ∧ k.pidEnEjecucion = some pid := by
  unfold FaseOk at h
  cases hciclo : k.ciclo with
  | esperar | leerPid | limpiarPid | limpiarPendiente =>
    rw [hciclo] at hpid
    cases hpid
  | pedirContexto q | asignar q =>
    rw [hciclo] at hpid
    cases hpid
  | fetch q | execute q | chequear q | interrumpir q | devolver q motivo =>
    rw [hciclo] at h hpid
    cases hpid
    exact h

/-- The loop goes on with the process it executes. -/
theorem Atenta.seguir (h : k.Atenta) (hpid : k.ciclo.proceso = some pid) {ciclo : FaseCiclo}
    (hciclo : ciclo.proceso = some pid) {pendiente : Bool}
    (hpendiente : k.debida = true → ciclo.Volviendo ∨ pendiente = true) :
    Atenta { k with ciclo := ciclo, interrupcionPendiente := pendiente } := by
  have hfase := h.fase.proceso hpid
  refine ⟨?_, h.listo, fun q motivo actual hlistener hdespacho ↦ ?_, fun hdebida ↦ ?_⟩
  · unfold FaseOk
    cases ciclo with
    | esperar | leerPid | limpiarPid | limpiarPendiente => cases hciclo
    | pedirContexto q | asignar q => cases hciclo
    | fetch q | execute q | chequear q | interrumpir q | devolver q motivo =>
      cases hciclo
      exact hfase
  · obtain ⟨hantes, hactual⟩ := h.listener q motivo actual hlistener hdespacho
    exact ⟨hciclo.trans (hpid.symm.trans hantes), hactual⟩
  · obtain ⟨hantes, hsome, _⟩ := h.debida hdebida
    exact ⟨hciclo.trans (hpid.symm.trans hantes), hsome, hpendiente hdebida⟩

/-- The loop is not at a process: nothing is due. -/
theorem Atenta.nadaDebido (h : k.Atenta) (hno : k.ciclo.proceso = none) : k.debida = false := by
  by_contra hdebida
  obtain ⟨hproceso, hsome, _⟩ := h.debida (eq_true_of_ne_false hdebida)
  rw [← hproceso, hno] at hsome
  cases hsome

/-- The loop moves where it executes nothing. -/
theorem Atenta.fuera (h : k.Atenta) (hno : k.ciclo.proceso = none) {ciclo : FaseCiclo} {sem : ℕ}
    {ejecucion : Option Pid} {pendiente : Bool}
    (hfase : FaseOk { k with
      ciclo := ciclo, semProcesoListo := sem, pidEnEjecucion := ejecucion
      interrupcionPendiente := pendiente })
    (hlisto : 0 < sem → sem = 1 ∧ k.despacho = some k.pidAEjecutar) :
    Atenta { k with
      ciclo := ciclo, semProcesoListo := sem, pidEnEjecucion := ejecucion
      interrupcionPendiente := pendiente } := by
  refine ⟨hfase, hlisto, fun q motivo actual hlistener hdespacho ↦ ?_, fun hdebida ↦ ?_⟩
  · have hantes := (h.listener q motivo actual hlistener hdespacho).1
    rw [hno] at hantes
    cases hantes
  · have hdebida : k.debida = true := hdebida
    rw [h.nadaDebido hno] at hdebida
    cases hdebida

/-! ## Steps -/

/-- The listener handles an `INTERRUPCION` for the process that was sent only when the loop has set
`pid_en_ejecucion` for it. -/
def YaEnCiclo (k : CpuConnections) : EventoCpu → Prop
  | .interrupcion pid _ => k.despacho = some pid → k.ciclo.proceso = some pid
  | _ => True

instance (k : CpuConnections) (e : EventoCpu) : Decidable (k.YaEnCiclo e) := by
  unfold YaEnCiclo
  split <;> infer_instance

theorem Atenta.ejecutarProceso (h : k.Atenta) (hpaso : k.paso (.ejecutarProceso pid) = some k') :
    k'.Atenta := by
  simp only [paso] at hpaso
  split at hpaso <;> cases hpaso
  rename_i hguarda
  have hno : k.ciclo.proceso = none := by
    cases hproceso : k.ciclo.proceso with
    | none => rfl
    | some q =>
      have hdespacho := (h.fase.proceso hproceso).1
      rw [hguarda.2] at hdespacho
      cases hdespacho
  have hsem : k.semProcesoListo = 0 := by
    by_contra hpos
    have hdespacho := (h.listo (Nat.pos_of_ne_zero hpos)).2
    rw [hguarda.2] at hdespacho
    cases hdespacho
  refine ⟨?_, fun _ ↦ ⟨by rw [hsem], rfl⟩, fun q motivo actual hlistener ↦ ?_, fun hdebida ↦ ?_⟩
  · have hfase := h.fase
    unfold FaseOk at hfase ⊢
    rw [hguarda.2] at hfase
    simp only
    split
    · trivial
    · trivial
    · trivial
    all_goals
      rename_i hciclo
      rw [hciclo] at hfase
      cases hfase.1
  · have hlistener : k.listener = .comparar q motivo actual := hlistener
    rw [hguarda.1] at hlistener
    cases hlistener
  · have hdebida : k.debida = true := hdebida
    rw [h.nadaDebido hno] at hdebida
    cases hdebida

theorem Atenta.interrupcion (h : k.Atenta) {motivo : Motivo} (hya : k.YaEnCiclo (.interrupcion pid motivo))
    (hpaso : k.paso (.interrupcion pid motivo) = some k') : k'.Atenta := by
  simp only [paso] at hpaso
  split at hpaso <;> cases hpaso
  refine ⟨h.fase, h.listo, fun q motivo' actual hlistener hdespacho ↦ ?_, h.debida⟩
  cases hlistener
  have hproceso := hya hdespacho
  exact ⟨hproceso, (h.fase.proceso hproceso).2.2⟩

theorem Atenta.comparar (h : k.Atenta) (hpaso : k.paso .comparar = some k') : k'.Atenta := by
  simp only [paso] at hpaso
  split at hpaso
  · cases hpaso
  rename_i pid motivo actual hlistener
  have hsuya := h.listener pid motivo actual hlistener
  split at hpaso
  · cases hpaso
    refine ⟨h.fase, h.listo, nofun, fun hdebida ↦ ?_⟩
    rcases Bool.or_eq_true_iff.mp hdebida with hdebida | hdespacho
    · obtain ⟨hproceso, hsome, _⟩ := h.debida hdebida
      exact ⟨hproceso, hsome, .inr rfl⟩
    · have hdespacho := of_decide_eq_true hdespacho
      refine ⟨(hsuya hdespacho).1.trans hdespacho.symm, ?_, .inr rfl⟩
      show k.despacho.isSome
      rw [hdespacho]
      rfl
  · rename_i hdistinto
    cases hpaso
    refine ⟨h.fase, h.listo, nofun, fun hdebida ↦ ?_⟩
    rcases Bool.or_eq_true_iff.mp hdebida with hdebida | hdespacho
    · exact h.debida hdebida
    · exact absurd (hsuya (of_decide_eq_true hdespacho)).2 hdistinto

/-! ### The loop before and after a process -/

theorem Atenta.tomarProceso (h : k.Atenta) (hpaso : k.paso .tomarProceso = some k') : k'.Atenta := by
  simp only [paso] at hpaso
  split at hpaso <;> cases hpaso
  rename_i hguarda
  obtain ⟨huno, hdespacho⟩ := h.listo hguarda.2
  have hcero : k.semProcesoListo - 1 = 0 := by omega
  refine h.fuera (by rw [hguarda.1]; rfl) ⟨hdespacho, hcero⟩ fun hpos ↦ ?_
  omega

theorem Atenta.leerPid (h : k.Atenta) (hpaso : k.paso .leerPid = some k') : k'.Atenta := by
  simp only [paso] at hpaso
  split at hpaso <;> cases hpaso
  rename_i hciclo
  have hfase := h.fase
  unfold FaseOk at hfase
  rw [hciclo] at hfase
  exact h.fuera (by rw [hciclo]; rfl) hfase h.listo

theorem Atenta.contexto (h : k.Atenta) {recibido : Bool} (hpaso : k.paso (.contexto recibido) = some k') :
    k'.Atenta := by
  simp only [paso] at hpaso
  split at hpaso
  swap
  · cases hpaso
  rename_i hciclo
  cases hpaso
  have hfase := h.fase
  unfold FaseOk at hfase
  rw [hciclo] at hfase
  refine h.fuera (by rw [hciclo]; rfl) ?_ h.listo
  cases recibido
  · trivial
  · exact hfase

theorem Atenta.asignar (h : k.Atenta) (hpaso : k.paso .asignar = some k') : k'.Atenta := by
  simp only [paso] at hpaso
  split at hpaso
  swap
  · cases hpaso
  rename_i hciclo
  cases hpaso
  have hfase := h.fase
  unfold FaseOk at hfase
  rw [hciclo] at hfase
  exact h.fuera (by rw [hciclo]; rfl) ⟨hfase.1, hfase.2, rfl⟩ h.listo

theorem Atenta.limpiarPid (h : k.Atenta) (hpaso : k.paso .limpiarPid = some k') : k'.Atenta := by
  simp only [paso] at hpaso
  split at hpaso <;> cases hpaso
  rename_i hciclo
  exact h.fuera (by rw [hciclo]; rfl) trivial h.listo

theorem Atenta.limpiarPendiente (h : k.Atenta) (hpaso : k.paso .limpiarPendiente = some k') :
    k'.Atenta := by
  simp only [paso] at hpaso
  split at hpaso <;> cases hpaso
  rename_i hguarda
  exact h.fuera (by rw [hguarda.1]; rfl) trivial h.listo

/-! ### The loop at a process -/

theorem Atenta.fetch (h : k.Atenta) {recibida : Bool} (hpaso : k.paso (.fetch recibida) = some k') :
    k'.Atenta := by
  simp only [paso] at hpaso
  split at hpaso
  swap
  · cases hpaso
  rename_i hciclo
  cases hpaso
  refine h.seguir (by rw [hciclo]; rfl) (by cases recibida <;> rfl) fun hdebida ↦ .inr ?_
  have hpendiente := (h.debida hdebida).2.2
  rw [hciclo] at hpendiente
  exact hpendiente.resolve_left id

theorem Atenta.execute (h : k.Atenta) {resultado : Option Motivo}
    (hpaso : k.paso (.execute resultado) = some k') : k'.Atenta := by
  simp only [paso] at hpaso
  split at hpaso
  swap
  · cases hpaso
  rename_i hciclo
  cases hpaso
  refine h.seguir (by rw [hciclo]; rfl) (by cases resultado <;> rfl) fun hdebida ↦ .inr ?_
  have hpendiente := (h.debida hdebida).2.2
  rw [hciclo] at hpendiente
  exact hpendiente.resolve_left id

theorem Atenta.chequear (h : k.Atenta) (hpaso : k.paso .chequear = some k') : k'.Atenta := by
  simp only [paso] at hpaso
  split at hpaso
  swap
  · cases hpaso
  rename_i pid hciclo _
  have hproceso : k.ciclo.proceso = some pid := by
    rw [hciclo]
    rfl
  split at hpaso
  · cases hpaso
    exact h.seguir hproceso rfl fun _ ↦ .inl trivial
  · cases hpaso
    refine h.seguir hproceso rfl fun hdebida ↦ .inr ?_
    have hpendiente := (h.debida hdebida).2.2
    rw [hciclo] at hpendiente
    exact hpendiente.resolve_left id

theorem Atenta.leerMotivo (h : k.Atenta) (hpaso : k.paso .leerMotivo = some k') : k'.Atenta := by
  simp only [paso] at hpaso
  split at hpaso
  swap
  · cases hpaso
  rename_i hciclo _
  cases hpaso
  exact h.seguir (by rw [hciclo]; rfl) rfl fun _ ↦ .inl trivial

theorem Atenta.devolver (h : k.Atenta) (hpaso : k.paso .devolver = some k') : k'.Atenta := by
  simp only [paso] at hpaso
  split at hpaso
  swap
  · cases hpaso
  rename_i pid motivo hciclo
  cases hpaso
  have hproceso : k.ciclo.proceso = some pid := by
    rw [hciclo]
    rfl
  have hsem := (h.fase.proceso hproceso).2.1
  refine ⟨trivial, fun hpos ↦ ?_, fun q motivo actual _ hdespacho ↦ ?_, nofun⟩
  · exact absurd hsem (Nat.ne_of_gt hpos)
  · cases hdespacho

theorem Atenta.paso (h : k.Atenta) {e : EventoCpu} (hya : k.YaEnCiclo e) (hpaso : k.paso e = some k') :
    k'.Atenta := by
  cases e with
  | ejecutarProceso pid => exact h.ejecutarProceso hpaso
  | interrupcion pid motivo => exact h.interrupcion hya hpaso
  | comparar => exact h.comparar hpaso
  | tomarProceso => exact h.tomarProceso hpaso
  | leerPid => exact h.leerPid hpaso
  | contexto recibido => exact h.contexto hpaso
  | asignar => exact h.asignar hpaso
  | fetch recibida => exact h.fetch hpaso
  | execute resultado => exact h.execute hpaso
  | chequear => exact h.chequear hpaso
  | leerMotivo => exact h.leerMotivo hpaso
  | devolver => exact h.devolver hpaso
  | limpiarPid => exact h.limpiarPid hpaso
  | limpiarPendiente => exact h.limpiarPendiente hpaso

theorem Atenta.interrupcionesAtendidas (h : k.Atenta) : k.InterrupcionesAtendidas := by
  intro hdebida
  refine ⟨h.debida hdebida, fun k' hpaso ↦ ?_⟩
  simp only [CpuConnections.paso] at hpaso
  split at hpaso
  swap
  · cases hpaso
  rename_i pid hciclo _
  have hpendiente := (h.debida hdebida).2.2
  rw [hciclo] at hpendiente
  rw [if_pos (hpendiente.resolve_left id)] at hpaso
  cases hpaso
  trivial

/-! ## Runs -/

/-- In every state of a run in which interrupts come when the loop has set `pid_en_ejecucion`, each
interrupt that was handled for the process on the CPU returns it at the next check. -/
theorem interrupcionesAtendidas_yaEnCiclo
    (hk : Reachable CpuConnections.paso CpuConnections.Arranque YaEnCiclo k) :
    k.InterrupcionesAtendidas := by
  apply Atenta.interrupcionesAtendidas
  apply hk.invariant (P := Atenta)
  · rintro _ ⟨pid, rfl⟩
    exact ⟨trivial, nofun, nofun, nofun⟩
  · intro k e k' h hya hpaso
    exact h.paso hya hpaso

/-- An interrupt that comes during an instruction. -/
theorem interrupcionesAtendidas_enExecute : ∃ k : CpuConnections,
    (k.ciclo = .chequear 3 ∧ k.debida = true) ∧ k.InterrupcionesAtendidas := by
  have hinicial : Reachable CpuConnections.paso CpuConnections.Arranque YaEnCiclo
      ⟨0, 0, none, false, .quantum, .esperar, .escuchar, [], none, false⟩ := .start ⟨0, rfl⟩
  obtain ⟨k, hk, hdebida⟩ := hinicial.exists_of_runAllowed
    [.ejecutarProceso 3, .tomarProceso, .leerPid, .contexto true, .asignar, .fetch true,
      .interrupcion 3 .desalojo, .execute none, .comparar]
    (fun k ↦ k.ciclo = .chequear 3 ∧ k.debida = true) (by decide)
  exact ⟨k, hdebida, interrupcionesAtendidas_yaEnCiclo hk⟩

/-- An interrupt that comes while the loop waits for the context is dropped: `pid_en_ejecucion` is still
`-1`. -/
theorem interrupcion_descartada : ∃ k : CpuConnections,
    Reachable CpuConnections.paso CpuConnections.Arranque (fun _ _ ↦ True) k ∧
      ¬ k.InterrupcionesAtendidas := by
  have hinicial : Reachable CpuConnections.paso CpuConnections.Arranque (fun _ _ ↦ True)
      ⟨0, 0, none, false, .quantum, .esperar, .escuchar, [], none, false⟩ := .start ⟨0, rfl⟩
  obtain ⟨k, hk, hdebida, hciclo, hno⟩ := hinicial.exists_of_runAllowed
    [.ejecutarProceso 3, .tomarProceso, .leerPid, .interrupcion 3 .desalojo, .comparar, .contexto true,
      .asignar, .fetch true, .execute none]
    (fun k ↦ k.debida = true ∧ k.ciclo = .chequear 3 ∧ k.interrupcionPendiente = false) (by decide)
  refine ⟨k, hk, fun h ↦ ?_⟩
  have hregistrada := (h hdebida).1.2.2
  rw [hciclo, hno] at hregistrada
  exact hregistrada.elim id Bool.false_ne_true

end CpuConnections

end PlugAndPlay.Cpu
