import PlugAndPlay.Planificador.SuspensionesCorridas

/-!
# No process in SUSP_READY is forgotten

A worker posts `sem_reevaluar_suspendidos` some time after it has put its process in SUSP_READY, and the planner may
be anywhere then. What each section does to the processes that nobody has asked for yet, and to what will make the
planner look.
-/

open PlugAndPlay.Library

namespace PlugAndPlay.Planificador.Suspensiones

variable {s s' : Suspensiones} {pid : Pid}

/-- The last that happened to a process is the end of its IO or of its dump. -/
def SinIntento (historia : List Paso) : Prop :=
  ∃ previa paso, historia = previa ++ [paso] ∧ (paso = .suspendido ∨ ∃ req datos, paso = .finIo req datos)

/-- A process in SUSP_READY that was not asked for since. -/
def Pendiente (s : Suspensiones) (pid : Pid) : Prop :=
  (s.pcbs pid).estado = .suspReady ∧ SinIntento (s.historia pid)

/-- Whatever makes the planner look at a process. -/
def Avisado (s : Suspensiones) (pid : Pid) : Prop :=
  0 < s.avisos + s.semReevaluarSuspendidos ∨ pid ∈ s.pmp.candidatos

def TodosAvisados (s : Suspensiones) : Prop := ∀ pid, s.Pendiente pid → s.Avisado pid

/-- No process becomes pending, and what makes the planner look at them stays. -/
theorem TodosAvisados.mover (h : s.TodosAvisados) (hpendiente : ∀ pid, s'.Pendiente pid → s.Pendiente pid)
    (havisos : s'.avisos + s'.semReevaluarSuspendidos = s.avisos + s.semReevaluarSuspendidos)
    (hcandidatos : s'.pmp.candidatos = s.pmp.candidatos) : s'.TodosAvisados := by
  intro pid hp
  have havisado := h pid (hpendiente pid hp)
  unfold Avisado at havisado ⊢
  rw [havisos, hcandidatos]
  exact havisado

theorem TodosAvisados.of_avisos (havisos : 0 < s.avisos + s.semReevaluarSuspendidos) : s.TodosAvisados :=
  fun _ _ ↦ .inl havisos

/-! ## Who becomes pending -/

theorem sinIntento_concat {historia : List Paso} {paso : Paso} (h : SinIntento (historia ++ [paso])) :
    paso = .suspendido ∨ ∃ req datos, paso = .finIo req datos := by
  obtain ⟨previa, ultimo, heq, hultimo⟩ := h
  obtain ⟨-, hpaso⟩ := List.append_inj' heq rfl
  obtain rfl := List.head_eq_of_cons_eq hpaso
  exact hultimo

theorem pendiente_of_modificarPcb {f : Pcb → Pcb} {other : Pid}
    (hf : ∀ p, (f p).estado = .suspReady → p.estado = .suspReady)
    (h : (s.modificarPcb pid f).Pendiente other) : s.Pendiente other := by
  obtain ⟨hestado, hhistoria⟩ := h
  refine ⟨?_, hhistoria⟩
  by_cases hother : other = pid
  · subst hother
    apply hf
    simpa only [modificarPcb, Function.update_self] using hestado
  · simpa only [modificarPcb, Function.update_of_ne hother] using hestado

theorem pendiente_of_cambiarEstado {estado : Estado} {other : Pid} (hf : estado ≠ .suspReady)
    (h : (s.cambiarEstado pid estado).Pendiente other) : s.Pendiente other :=
  pendiente_of_modificarPcb (fun _ hestado ↦ absurd hestado hf) h

/-- What happens to a process leaves the others as they were. It makes a process pending only if it is an end of its
IO or of its dump, which it has with the process not in SUSP_READY. -/
theorem pendiente_of_anotar {paso : Paso} {other : Pid}
    (hpaso : paso = .suspendido ∨ (∃ req datos, paso = .finIo req datos) → (s.pcbs pid).estado ≠ .suspReady)
    (h : (s.anotar pid paso).Pendiente other) : s.Pendiente other ∧ other ≠ pid := by
  obtain ⟨hestado, hhistoria⟩ := h
  by_cases hother : other = pid
  · subst hother
    simp only [anotar, Function.update_self] at hhistoria
    exact absurd hestado (hpaso (sinIntento_concat hhistoria))
  · simp only [anotar, Function.update_of_ne hother] at hhistoria
    exact ⟨⟨hestado, hhistoria⟩, hother⟩

theorem pendiente_of_encolarEnReady {other : Pid} (h : (s.encolarEnReady pid).Pendiente other) :
    s.Pendiente other ∧ other ≠ pid := by
  obtain ⟨hantes, hother⟩ := pendiente_of_anotar (by simp) h
  exact ⟨pendiente_of_cambiarEstado Estado.noConfusion hantes, hother⟩

theorem pendiente_of_finalizarPcbPorSegFault {other : Pid} (h : (s.finalizarPcbPorSegFault pid).Pendiente other) :
    s.Pendiente other ∧ other ≠ pid := by
  obtain ⟨hantes, hother⟩ := pendiente_of_anotar (by simp) h
  refine ⟨pendiente_of_modificarPcb (f := fun p ↦ { p with estado := .exitState, stdinPendiente := none }) ?_ hantes,
    hother⟩
  intro p hestado
  cases hestado

/-- Outside the section for it no thread has a process in SUSP_READY. -/
theorem Inv.estado_ne (h : s.Inv) (hfase : s.fases pid ≠ .suspReady) : (s.pcbs pid).estado ≠ .suspReady := by
  intro hestado
  obtain ⟨io, lugar, hen⟩ := (h pid).enSuspReady_of_estado hestado
  exact hfase hen.hilo

/-! ## Thread by thread -/

theorem TodosAvisados.avanzarHilo (h : s.TodosAvisados) (hinv : s.Inv) {datos : List UInt8} {aceptada : Bool}
    (hs : s.avanzarHilo pid datos aceptada = some s') : s'.TodosAvisados := by
  cases hfase : s.fases pid with
  | planificado | suspReady | perdida | fuera => simp only [Suspensiones.avanzarHilo, hfase, reduceCtorEq] at hs
  | pedir req =>
    simp only [Suspensiones.avanzarHilo, hfase, Option.some.injEq] at hs
    cases hs
    refine h.mover (fun other hother ↦ ?_) rfl rfl
    have hantes := (pendiente_of_anotar (by simp) hother).1
    exact pendiente_of_modificarPcb (f := fun p ↦ { p with blockEpoch := p.blockEpoch + 1 }) (fun _ ↦ id) hantes
  | bloqueado req epoch entrada =>
    simp only [Suspensiones.avanzarHilo, hfase, Option.some.injEq] at hs
    cases hs
    unfold notificarProcesoEnBlock
    split
    · exact h
    · exact h
  | encolar req =>
    simp only [Suspensiones.avanzarHilo, hfase, Option.some.injEq] at hs
    cases hs
    exact h
  | enInterfaz req =>
    simp only [Suspensiones.avanzarHilo, hfase, Option.some.injEq] at hs
    cases hs
    refine h.mover (fun other hother ↦ ?_) rfl rfl
    have hestado : (s.pcbs pid).estado ≠ .suspReady := by
      apply hinv.estado_ne
      rw [hfase]
      exact FaseProceso.noConfusion
    exact (pendiente_of_anotar (fun _ ↦ hestado) hother).1
  | terminada req leidos =>
    simp only [Suspensiones.avanzarHilo, hfase, Option.some.injEq] at hs
    cases hs
    unfold extraerDeBlock
    split
    · exact h
    · split
      · exact h
      · exact h
  | extraida req leidos =>
    simp only [Suspensiones.avanzarHilo, hfase, Option.some.injEq] at hs
    cases hs
    unfold concluirIo
    split
    · split
      · refine h.mover (fun other hother ↦ ?_) rfl rfl
        exact pendiente_of_modificarPcb (f := fun p ↦ { p with stdinPendiente := some (pendienteDe req leidos) })
          (fun _ ↦ id) hother
      · exact .of_avisos (Nat.add_pos_left (Nat.succ_pos _) _)
    · split
      · exact h
      · exact h
  | diferida =>
    simp only [Suspensiones.avanzarHilo, hfase, Option.some.injEq] at hs
    cases hs
    exact .of_avisos (Nat.add_pos_left (Nat.succ_pos _) _)
  | escribir pendiente =>
    simp only [Suspensiones.avanzarHilo, hfase, Option.some.injEq] at hs
    cases hs
    refine h.mover (fun other hother ↦ ?_) rfl rfl
    exact (pendiente_of_anotar (by simp) hother).1
  | escribiendo pendiente =>
    simp only [Suspensiones.avanzarHilo, hfase] at hs
    cases aceptada with
    | true =>
      cases hs
      refine h.mover (fun other hother ↦ ?_) rfl rfl
      exact (pendiente_of_anotar (by simp) hother).1
    | false =>
      cases hs
      refine h.mover (fun other hother ↦ ?_) rfl rfl
      exact (pendiente_of_anotar (by simp) hother).1
  | aReady =>
    simp only [Suspensiones.avanzarHilo, hfase, Option.some.injEq] at hs
    cases hs
    exact h.mover (fun _ hother ↦ (pendiente_of_encolarEnReady hother).1) rfl rfl
  | rechazada =>
    simp only [Suspensiones.avanzarHilo, hfase, Option.some.injEq] at hs
    cases hs
    exact h.mover (fun _ hother ↦ (pendiente_of_finalizarPcbPorSegFault hother).1) rfl rfl

theorem TodosAvisados.avanzarTimer (h : s.TodosAvisados) (hinv : s.Inv) {i : ℕ}
    (hs : s.avanzarTimer i = some s') : s'.TodosAvisados := by
  cases ht : s.timers[i]? with
  | none => simp only [Suspensiones.avanzarTimer, ht, reduceCtorEq] at hs
  | some t =>
    simp only [Suspensiones.avanzarTimer, ht] at hs
    cases hfase : t.fase with
    | dormido =>
      rw [hfase] at hs
      dsimp only at hs
      split at hs
      · cases hs
        refine h.mover (fun other hother ↦ ?_) rfl rfl
        have hantes : (s.modificarPcb t.pid fun p ↦
            { p with estado := .suspBlock, suspendidoEnSwap := false }).Pendiente other := hother
        refine pendiente_of_modificarPcb (fun p hestado ↦ ?_) hantes
        cases hestado
      · cases hs
        exact h
    | marcado =>
      rw [hfase] at hs
      cases hs
      exact h
    | listado =>
      rw [hfase] at hs
      cases hs
      refine h.mover (fun other hother ↦ ?_) rfl rfl
      exact (pendiente_of_anotar (by simp) hother).1
    | pidiendo =>
      rw [hfase] at hs
      cases hs
      refine h.mover (fun other hother ↦ ?_) rfl rfl
      have hmem := mem_volcados ht (by rw [hfase]; rfl)
      obtain ⟨io, lugar, suspendido, henCola⟩ := (hinv t.pid).enCola_of_volcado hmem
      exact (pendiente_of_anotar (fun _ ↦ henCola.volcado.not_suspReady) hother).1
    | respondido =>
      rw [hfase] at hs
      dsimp only at hs
      split at hs
      · cases hs
        refine h.mover (fun other hother ↦ ?_) rfl rfl
        have hantes : (s.modificarPcb t.pid fun p ↦ { p with suspendidoEnSwap := true }).Pendiente other := hother
        apply pendiente_of_modificarPcb _ hantes
        exact fun _ ↦ id
      · cases hs
        exact h
    | porAvisar =>
      rw [hfase] at hs
      cases hs
      exact .of_avisos (Nat.add_pos_right _ (Nat.succ_pos _))
    | terminado =>
      rw [hfase] at hs
      cases hs

/-- The snapshot holds every process in SUSP_READY. -/
theorem mem_foto (hinv : s.Inv) (hpmp : s.pmp = .espera) {candidatos : List Pid} (hfoto : s.EsFoto candidatos)
    (hestado : (s.pcbs pid).estado = .suspReady) : pid ∈ candidatos := by
  obtain ⟨io, lugar, hen⟩ := (hinv pid).enSuspReady_of_estado hestado
  have hsituacion := hen.pmp
  rw [show (s.vista pid).etapa = .nada from congrArg (FasePlanificador.etapa · pid) hpmp] at hsituacion
  apply List.one_le_count_iff.mp
  rw [count_foto hfoto, if_pos hestado]
  exact Nat.le_of_eq hsituacion.enLista_eq.symm

theorem TodosAvisados.avanzarPmp (h : s.TodosAvisados) (hinv : s.Inv) {candidatos : List Pid} {aceptada : Bool}
    (hs : s.avanzarPmp candidatos aceptada = some s') : s'.TodosAvisados := by
  cases hpmp : s.pmp with
  | espera =>
    simp only [Suspensiones.avanzarPmp, hpmp] at hs
    split at hs
    · rename_i hpasa
      cases hs
      exact fun pid hpendiente ↦ .inr (mem_foto hinv hpmp hpasa.2 hpendiente.1)
    · cases hs
  | recorre pendientes =>
    cases pendientes with
    | nil =>
      simp only [Suspensiones.avanzarPmp, hpmp, Option.some.injEq] at hs
      cases hs
      exact h.mover (fun _ ↦ id) rfl (by rw [hpmp]; rfl)
    | cons pid resto =>
      simp only [Suspensiones.avanzarPmp, hpmp, Option.some.injEq] at hs
      cases hs
      intro other hother
      obtain ⟨hpendiente, hno⟩ := pendiente_of_anotar (by simp) hother
      refine (h other hpendiente).imp_right fun hmem ↦ ?_
      rw [hpmp] at hmem
      exact List.mem_of_ne_of_mem hno hmem
  | pidiendo pid resto =>
    simp only [Suspensiones.avanzarPmp, hpmp] at hs
    cases aceptada with
    | true =>
      cases hs
      exact h.mover (fun _ hother ↦ (pendiente_of_anotar (by simp) hother).1) rfl (by rw [hpmp]; rfl)
    | false =>
      cases hs
      exact h.mover (fun _ hother ↦ (pendiente_of_anotar (by simp) hother).1) rfl (by rw [hpmp]; rfl)
  | aceptado pid resto =>
    simp only [Suspensiones.avanzarPmp, hpmp, Option.some.injEq] at hs
    cases hs
    exact h.mover (fun _ ↦ id) rfl (by rw [hpmp]; rfl)
  | removido pid resto =>
    simp only [Suspensiones.avanzarPmp, hpmp] at hs
    cases hresto : (s.pcbs pid).stdinPendiente with
    | none =>
      rw [hresto] at hs
      cases hs
      exact h.mover (fun _ ↦ id) rfl (by rw [hpmp]; rfl)
    | some pendiente =>
      rw [hresto] at hs
      cases hs
      exact h.mover (fun _ hother ↦ (pendiente_of_anotar (by simp) hother).1) rfl (by rw [hpmp]; rfl)
  | escribiendo pid resto =>
    simp only [Suspensiones.avanzarPmp, hpmp] at hs
    have hantes : ∀ {fase : FasePlanificador} {other : Pid}, ((s.modificarPcb pid fun p ↦
        { p with stdinPendiente := none }).conPmp fase).Pendiente other → s.Pendiente other :=
      fun hother ↦ pendiente_of_modificarPcb (f := fun p ↦ { p with stdinPendiente := none }) (fun _ ↦ id) hother
    cases aceptada with
    | true =>
      cases hs
      exact h.mover (fun _ hother ↦ hantes (pendiente_of_anotar (by simp) hother).1) rfl (by rw [hpmp]; rfl)
    | false =>
      cases hs
      exact h.mover (fun _ hother ↦ hantes (pendiente_of_anotar (by simp) hother).1) rfl (by rw [hpmp]; rfl)
  | aReady pid resto =>
    simp only [Suspensiones.avanzarPmp, hpmp, Option.some.injEq] at hs
    cases hs
    exact h.mover (fun _ hother ↦ (pendiente_of_encolarEnReady hother).1) rfl (by rw [hpmp]; rfl)
  | rechazada pid resto =>
    simp only [Suspensiones.avanzarPmp, hpmp, Option.some.injEq] at hs
    cases hs
    exact h.mover (fun _ hother ↦ (pendiente_of_finalizarPcbPorSegFault hother).1) rfl (by rw [hpmp]; rfl)

theorem TodosAvisados.avanzarEspera (h : s.TodosAvisados) {i : ℕ} (hs : s.avanzarEspera i = some s') :
    s'.TodosAvisados := by
  unfold Suspensiones.avanzarEspera at hs
  split at hs
  · cases hs
  · rename_i espera _
    split at hs
    · cases hs
      unfold notificarProcesoEnBlock
      split
      · exact h
      · exact h
    · cases hs
      refine h.mover (fun other hother ↦ ?_) rfl rfl
      have hantes : (s.modificarPcb espera.pid fun p ↦ { p with blockEpoch := p.blockEpoch + 1 }).Pendiente other :=
        hother
      apply pendiente_of_modificarPcb _ hantes
      exact fun _ ↦ id

theorem TodosAvisados.paso (h : s.TodosAvisados) (hinv : s.Inv) {suceso : SucesoSuspension}
    (hs : s.paso suceso = some s') : s'.TodosAvisados := by
  cases suceso with
  | planificar pid estado =>
    simp only [Suspensiones.paso] at hs
    split at hs
    · rename_i hpuede
      cases hs
      exact h.mover (fun _ hother ↦ pendiente_of_cambiarEstado hpuede.2.2 hother) rfl rfl
    · cases hs
  | terminar pid =>
    simp only [Suspensiones.paso] at hs
    split at hs
    · cases hs
      refine h.mover (fun other hother ↦ ?_) rfl rfl
      exact pendiente_of_cambiarEstado Estado.noConfusion (pendiente_of_anotar (by simp) hother).1
    · cases hs
  | esperarMutex pid =>
    simp only [Suspensiones.paso] at hs
    split at hs
    · cases hs
      refine h.mover (fun other hother ↦ ?_) rfl rfl
      have hantes : (s.cambiarEstado pid .block).Pendiente other := hother
      exact pendiente_of_cambiarEstado Estado.noConfusion hantes
    · cases hs
  | pedirIo req =>
    simp only [Suspensiones.paso] at hs
    split at hs
    · cases hs
      refine h.mover (fun other hother ↦ ?_) rfl rfl
      have hantes : (s.cambiarEstado req.proceso .block).Pendiente other := hother
      exact pendiente_of_cambiarEstado Estado.noConfusion hantes
    · cases hs
  | espera i => exact h.avanzarEspera hs
  | hilo pid datos aceptada => exact h.avanzarHilo hinv hs
  | timer i => exact h.avanzarTimer hinv hs
  | pmp candidatos aceptada => exact h.avanzarPmp hinv hs
  | avisar =>
    simp only [Suspensiones.paso] at hs
    split at hs
    · cases hs
      exact .of_avisos (Nat.add_pos_right _ (Nat.succ_pos _))
    · cases hs
  | notificar =>
    cases hs
    exact .of_avisos (Nat.add_pos_right _ (Nat.succ_pos _))

/-! ## Every run -/

/-- In every run a process in SUSP_READY that Kernel Memory was not asked for since is not forgotten: a worker still
has to post, or the semaphore is up, or the process is in the snapshot that the planner goes through. -/
theorem ninguno_olvidado (h : Reachable paso Inicial (fun _ _ ↦ True) s) (pid : Pid)
    (hestado : (s.pcbs pid).estado = .suspReady) (hhistoria : SinIntento (s.historia pid)) :
    0 < s.avisos ∨ 0 < s.semReevaluarSuspendidos ∨ pid ∈ s.pmp.candidatos := by
  have hambos : s.Inv ∧ s.TodosAvisados := by
    apply h.invariant (P := fun s ↦ s.Inv ∧ s.TodosAvisados)
    · intro s hinicial
      refine ⟨Inv.inicial hinicial, fun pid hpendiente ↦ ?_⟩
      exact absurd hpendiente.1 (hinicial.estados pid).2
    · intro s suceso s' hantes _ hpaso
      exact ⟨hantes.1.paso hpaso, hantes.2.paso hantes.1 hpaso⟩
  rcases hambos.2 pid ⟨hestado, hhistoria⟩ with havisos | hcandidato
  · rcases Nat.add_pos_iff_pos_or_pos.mp havisos with h | h
    · exact .inl h
    · exact .inr (.inl h)
  · exact .inr (.inr hcandidato)

/-- The worker has not posted yet. -/
theorem ninguno_olvidado_sin_aviso : ∃ s, Reachable paso Inicial (fun _ _ ↦ True) s ∧
    s.semReevaluarSuspendidos = 0 ∧ s.pmp = .espera ∧
      (0 < s.avisos ∨ 0 < s.semReevaluarSuspendidos ∨ 1 ∈ s.pmp.candidatos) := by
  have hinicio : Reachable paso Inicial (fun _ _ ↦ True) sinIo := .start inicial_sinIo
  obtain ⟨s, hs, hestado, hsem, hpmp, hhistoria⟩ := hinicio.exists_of_runAllowed (suspendida ⟨1, .sleep, 0, 0⟩ 0)
    (fun s ↦ (s.pcbs 1).estado = .suspReady ∧ s.semReevaluarSuspendidos = 0 ∧ s.pmp = .espera ∧
      s.historia 1 = [.entra ⟨1, .sleep, 0, 0⟩, .suspender, .finIo ⟨1, .sleep, 0, 0⟩ [65, 66]] ++ [.suspendido])
    (by decide +kernel)
  exact ⟨s, hs, hsem, hpmp, ninguno_olvidado hs 1 hestado ⟨_, _, hhistoria, .inl rfl⟩⟩

end PlugAndPlay.Planificador.Suspensiones
