import Mathlib.Tactic.Linarith
import PlugAndPlay.Planificador.SuspensionesCorridas

/-!
# Timers of earlier episodes

A timer is started for one entry into BLOCK, and timers of earlier entries and of waits for a mutex sleep beside it.
`block_epoch` tells them apart as long as it does not come round, and as long as a handler of MUTEX_LOCK that is still
to count its entry is not overtaken by an IO of its process.
-/

open PlugAndPlay.Library

namespace PlugAndPlay.Planificador.Suspensiones

variable {s s' : Suspensiones} {pid : Pid}

/-- The handlers of MUTEX_LOCK are through with a process when it asks for an IO. -/
def SinDemora (s : Suspensiones) : SucesoSuspension → Prop
  | .pedirIo req => ∀ espera ∈ s.esperas, espera.pid ≠ req.proceso
  | _ => True

instance (s : Suspensiones) : (suceso : SucesoSuspension) → Decidable (s.SinDemora suceso)
  | .pedirIo _ => inferInstanceAs (Decidable (∀ _ ∈ _, _))
  | .planificar .. | .terminar .. | .esperarMutex .. | .espera .. | .hilo .. | .timer .. | .pmp .. | .avisar
  | .notificar => .isTrue trivial

/-- The process is with the rest of the scheduler, or nowhere. -/
def Suelto (fase : FaseProceso) : Prop := fase = .planificado ∨ fase = .fuera

/-- The process has no entry of an IO. -/
def SinIo (fase : FaseProceso) : Prop := Suelto fase ∨ ∃ req, fase = .pedir req

/-- The timers, the entries and the epochs agree: a timer of a mutex is one of an earlier entry once its process has
entered BLOCK for an IO, and a timer that has its process in SUSP_BLOCK is one of its present entry, an IO. -/
structure Acordes (pcbs : Pid → Pcb) (entradas : Pid → ℕ) (esperas : List HiloMutex) (timers : List HiloSuspension)
    (fases : Pid → FaseProceso) : Prop where
  epoca : ∀ pid, (pcbs pid).blockEpoch = UInt32.ofNat (entradas pid)
  espera : ∀ espera ∈ esperas, Suelto (fases espera.pid)
  bloqueado : ∀ pid req epoch entrada, fases pid = .bloqueado req epoch entrada →
    epoch = UInt32.ofNat entrada ∧ entrada = entradas pid
  timer : ∀ t ∈ timers, t.epoch = UInt32.ofNat t.entrada ∧ t.entrada ≤ entradas t.pid
  mutex : ∀ t ∈ timers, t.porIo = false → t.entrada = entradas t.pid → SinIo (fases t.pid)
  vuelo : ∀ t ∈ timers, t.fase.enVuelo → entradas t.pid < 2 ^ 32 → t.porIo = true ∧ t.entrada = entradas t.pid

def Episodios (s : Suspensiones) : Prop := Acordes s.pcbs s.entradas s.esperas s.timers s.fases

theorem Episodios.inicial (h : s.Inicial) : s.Episodios where
  epoca pid := by
    rw [h.epocas, h.entradas]
    rfl
  espera e he := by
    rw [h.hilos.2.1] at he
    cases he
  bloqueado pid req epoch entrada hfase := by
    rw [h.fases] at hfase
    cases hfase
  timer t ht := by
    rw [h.hilos.1] at ht
    cases ht
  mutex t ht := by
    rw [h.hilos.1] at ht
    cases ht
  vuelo t ht := by
    rw [h.hilos.1] at ht
    cases ht

/-! ## What a section changes -/

theorem Episodios.modificarPcb (h : s.Episodios) (pid : Pid) {f : Pcb → Pcb}
    (hf : ∀ p, (f p).blockEpoch = p.blockEpoch) : (s.modificarPcb pid f).Episodios where
  epoca other := by
    by_cases hother : other = pid
    · subst hother
      simp only [Suspensiones.modificarPcb, Function.update_self, hf, h.epoca]
    · simp only [Suspensiones.modificarPcb, Function.update_of_ne hother, h.epoca]
  espera := h.espera
  bloqueado := h.bloqueado
  timer := h.timer
  mutex := h.mutex
  vuelo := h.vuelo

theorem Episodios.cambiarEstado (h : s.Episodios) (pid : Pid) (estado : Estado) :
    (s.cambiarEstado pid estado).Episodios :=
  h.modificarPcb pid fun _ ↦ rfl

theorem Episodios.conFase (h : s.Episodios) {fase : FaseProceso}
    (hbloqueado : ∀ req epoch entrada, fase = .bloqueado req epoch entrada →
      epoch = UInt32.ofNat entrada ∧ entrada = s.entradas pid)
    (hmutex : ∀ t ∈ s.timers, t.pid = pid → t.porIo = false → t.entrada = s.entradas pid → SinIo fase)
    (hsuelto : (∃ espera ∈ s.esperas, espera.pid = pid) → Suelto fase) : (s.conFase pid fase).Episodios where
  epoca := h.epoca
  espera e he := by
    by_cases hpid : e.pid = pid
    · simp only [Suspensiones.conFase, hpid, Function.update_self]
      exact hsuelto ⟨e, he, hpid⟩
    · simp only [Suspensiones.conFase, Function.update_of_ne hpid]
      exact h.espera e he
  bloqueado other req epoch entrada hfase := by
    by_cases hother : other = pid
    · subst hother
      simp only [Suspensiones.conFase, Function.update_self] at hfase
      exact hbloqueado req epoch entrada hfase
    · simp only [Suspensiones.conFase, Function.update_of_ne hother] at hfase
      exact h.bloqueado other req epoch entrada hfase
  timer := h.timer
  mutex t ht hporIo hentrada := by
    by_cases hpid : t.pid = pid
    · simp only [Suspensiones.conFase, hpid, Function.update_self]
      rw [hpid] at hentrada
      exact hmutex t ht hpid hporIo hentrada
    · simp only [Suspensiones.conFase, Function.update_of_ne hpid]
      exact h.mutex t ht hporIo hentrada
  vuelo := h.vuelo

/-- A process that no thread gives an entry to. -/
theorem Episodios.conFase_of_sinIo (h : s.Episodios) {fase : FaseProceso} (hsinIo : SinIo fase)
    (hsuelto : (∃ espera ∈ s.esperas, espera.pid = pid) → Suelto fase) : (s.conFase pid fase).Episodios := by
  apply h.conFase _ (fun _ _ _ _ _ ↦ hsinIo) hsuelto
  rintro req epoch entrada rfl
  rcases hsinIo with (hno | hno) | ⟨_, hno⟩ <;> cases hno

/-- A thread that has the process goes on with it. -/
theorem Episodios.conFase_of_conIo (h : s.Episodios) {fase : FaseProceso} (hconIo : ¬ SinIo (s.fases pid))
    (hbloqueado : ∀ req epoch entrada, fase ≠ .bloqueado req epoch entrada) : (s.conFase pid fase).Episodios := by
  apply h.conFase
  · exact fun req epoch entrada hfase ↦ absurd hfase (hbloqueado req epoch entrada)
  · rintro t ht rfl hporIo hentrada
    exact absurd (h.mutex t ht hporIo hentrada) hconIo
  · rintro ⟨espera, hmem, rfl⟩
    exact absurd (.inl (h.espera espera hmem)) hconIo

/-- A timer starts for the present entry. -/
theorem Episodios.notificarProcesoEnBlock (h : s.Episodios) {epoch : UInt32} {entrada : ℕ} {porIo : Bool}
    (hepoch : epoch = UInt32.ofNat entrada) (hentrada : entrada = s.entradas pid)
    (hporIo : porIo = false → SinIo (s.fases pid)) :
    (s.notificarProcesoEnBlock pid epoch entrada porIo).Episodios := by
  unfold Suspensiones.notificarProcesoEnBlock
  split
  · exact h
  · refine ⟨h.epoca, h.espera, h.bloqueado, ?_, ?_, ?_⟩
    · intro t ht
      rcases List.mem_append.mp ht with ht | ht
      · exact h.timer t ht
      · obtain rfl := List.mem_singleton.mp ht
        exact ⟨hepoch, Nat.le_of_eq hentrada⟩
    · intro t ht
      rcases List.mem_append.mp ht with ht | ht
      · exact h.mutex t ht
      · obtain rfl := List.mem_singleton.mp ht
        exact fun hno _ ↦ hporIo hno
    · intro t ht
      rcases List.mem_append.mp ht with ht | ht
      · exact h.vuelo t ht
      · obtain rfl := List.mem_singleton.mp ht
        exact fun henVuelo ↦ absurd henVuelo Bool.false_ne_true

/-- One more entry of a process that no timer has in SUSP_BLOCK. -/
theorem Episodios.contarEntrada (h : s.Episodios)
    (hvuelo : ∀ t ∈ s.timers, t.pid = pid → t.fase.enVuelo = false)
    (hbloqueado : ∀ req epoch entrada, s.fases pid ≠ .bloqueado req epoch entrada) :
    (s.contarEntrada pid).Episodios := by
  have hentradas : ∀ other, (s.contarEntrada pid).entradas other =
      if other = pid then s.entradas other + 1 else s.entradas other := by
    intro other
    by_cases hother : other = pid
    · simp [Suspensiones.contarEntrada, hother]
    · simp [Suspensiones.contarEntrada, hother]
  refine ⟨?_, h.espera, ?_, ?_, ?_, ?_⟩
  · intro other
    rw [hentradas]
    split
    · rename_i hother
      subst hother
      have hantes := h.epoca other
      simp only [Suspensiones.contarEntrada, Suspensiones.modificarPcb, Function.update_self, hantes]
      exact (UInt32.ofNat_add _ _).symm
    · rename_i hother
      simp only [Suspensiones.contarEntrada, Suspensiones.modificarPcb, Function.update_of_ne hother]
      exact h.epoca other
  · intro other req epoch entrada hfase
    rw [hentradas]
    split
    · rename_i hother
      subst hother
      exact absurd hfase (hbloqueado req epoch entrada)
    · exact h.bloqueado other req epoch entrada hfase
  · intro t ht
    obtain ⟨hepoch, hle⟩ := h.timer t ht
    rw [hentradas]
    refine ⟨hepoch, ?_⟩
    split <;> omega
  · intro t ht hporIo hentrada
    have hle := (h.timer t ht).2
    rw [hentradas] at hentrada
    split at hentrada
    · omega
    · exact h.mutex t ht hporIo hentrada
  · intro t ht henVuelo
    rw [hentradas]
    split
    · rename_i hpid
      rw [hvuelo t ht hpid] at henVuelo
      cases henVuelo
    · exact h.vuelo t ht henVuelo

/-- A timer goes on with its process, or puts it in SUSP_BLOCK. -/
theorem Episodios.conTimer (h : s.Episodios) {i : ℕ} {t : HiloSuspension} (ht : s.timers[i]? = some t)
    {fase : FaseTimer}
    (hvuelo : fase.enVuelo → s.entradas t.pid < 2 ^ 32 → t.porIo = true ∧ t.entrada = s.entradas t.pid) :
    (s.conTimer i fase).Episodios where
  epoca := h.epoca
  espera := h.espera
  bloqueado := h.bloqueado
  timer := ListModify.forall_mem_modify h.timer i _ (fun _ _ hu ↦ hu) fun _ hu ↦ hu
  mutex := ListModify.forall_mem_modify h.mutex i _ (fun _ _ hu ↦ hu) fun _ hu ↦ hu
  vuelo := by
    refine ListModify.forall_mem_modify h.vuelo i _ (fun u hu _ ↦ ?_) fun _ hu ↦ hu
    obtain rfl : t = u := Option.some.inj (ht.symm.trans hu)
    exact hvuelo

/-! ## Thread by thread -/

theorem not_enVuelo_of_fase (hinv : s.Inv) (hfase : ∀ io, ¬ EnBlock (s.fases pid) io) :
    ∀ t ∈ s.timers, t.pid = pid → t.fase.enVuelo = false := by
  rintro t ht rfl
  by_contra henVuelo
  rw [Bool.not_eq_false] at henVuelo
  obtain ⟨i, hi⟩ := List.getElem?_of_mem ht
  obtain ⟨io, lugar, suspendido, henCola⟩ := (hinv t.pid).enCola_of_volcado (mem_volcados hi henVuelo)
  exact hfase io henCola.hilo

/-- The entry of an IO. -/
theorem Episodios.pedir (h : s.Episodios) (hinv : s.Inv) {req : IoRequest} (hfase : s.fases pid = .pedir req) :
    ((s.contarEntrada pid).conFase pid
      (.bloqueado req ((s.contarEntrada pid).pcbs pid).blockEpoch ((s.contarEntrada pid).entradas pid))).Episodios := by
  have hcuenta : (s.contarEntrada pid).Episodios := by
    apply h.contarEntrada
    · apply not_enVuelo_of_fase hinv
      rw [hfase]
      intro io hen
      cases hen
    · intro req' epoch entrada hno
      rw [hfase] at hno
      cases hno
  apply hcuenta.conFase
  · intro req' epoch entrada heq
    cases heq
    exact ⟨hcuenta.epoca pid, rfl⟩
  · rintro t ht rfl - hentrada
    have hle := (h.timer t ht).2
    simp only [Suspensiones.contarEntrada, Function.update_self] at hentrada
    omega
  · rintro ⟨espera, hmem, rfl⟩
    have hsuelto := h.espera espera hmem
    rw [hfase] at hsuelto
    rcases hsuelto with hno | hno <;> cases hno

theorem Episodios.encolarEnReady (h : s.Episodios) (pid : Pid) : (s.encolarEnReady pid).Episodios := by
  have hestado := h.cambiarEstado pid .ready
  exact hestado.conFase_of_sinIo (.inl (.inl rfl)) fun _ ↦ .inl rfl

theorem Episodios.finalizarPcbPorSegFault (h : s.Episodios) (pid : Pid) : (s.finalizarPcbPorSegFault pid).Episodios := by
  have hpcb := h.modificarPcb pid (f := fun p ↦ { p with estado := .exitState, stdinPendiente := none }) fun _ ↦ rfl
  have hlista : ((s.modificarPcb pid fun p ↦
      { p with estado := .exitState, stdinPendiente := none }).removerDeListaSuspendidos pid).Episodios := hpcb
  exact hlista.conFase_of_sinIo (.inl (.inr rfl)) fun _ ↦ .inr rfl

theorem Episodios.aSuspReady (h : s.Episodios) (hconIo : ¬ SinIo (s.fases pid)) : (s.aSuspReady pid).Episodios := by
  have hestado := h.cambiarEstado pid .suspReady
  exact hestado.conFase_of_conIo hconIo fun _ _ _ ↦ FaseProceso.noConfusion

/-- A section with a process that has entered BLOCK. -/
theorem Episodios.hilo_conIo (h : s.Episodios) (hconIo : ¬ SinIo (s.fases pid)) {datos : List UInt8} {aceptada : Bool}
    (hs : s.avanzarHilo pid datos aceptada = some s') : s'.Episodios := by
  cases hfase : s.fases pid with
  | planificado | suspReady | perdida | fuera => simp only [Suspensiones.avanzarHilo, hfase, reduceCtorEq] at hs
  | pedir req => exact absurd (.inr ⟨req, hfase⟩) hconIo
  | bloqueado req epoch entrada =>
    simp only [Suspensiones.avanzarHilo, hfase, Option.some.injEq] at hs
    cases hs
    obtain ⟨hepoch, hentrada⟩ := h.bloqueado pid req epoch entrada hfase
    have htimer : (s.notificarProcesoEnBlock pid epoch entrada true).Episodios :=
      h.notificarProcesoEnBlock hepoch hentrada Bool.noConfusion
    apply htimer.conFase_of_conIo _ fun _ _ _ ↦ FaseProceso.noConfusion
    unfold Suspensiones.notificarProcesoEnBlock
    split
    · exact hconIo
    · exact hconIo
  | encolar req | enInterfaz req =>
    simp only [Suspensiones.avanzarHilo, hfase, Option.some.injEq] at hs
    cases hs
    exact h.conFase_of_conIo hconIo fun _ _ _ ↦ FaseProceso.noConfusion
  | terminada req leidos =>
    simp only [Suspensiones.avanzarHilo, hfase, Option.some.injEq] at hs
    cases hs
    unfold extraerDeBlock
    split
    · exact h.conFase_of_conIo hconIo fun _ _ _ ↦ FaseProceso.noConfusion
    · split
      · exact h
      · exact h.conFase_of_conIo hconIo fun _ _ _ ↦ FaseProceso.noConfusion
  | extraida req leidos =>
    simp only [Suspensiones.avanzarHilo, hfase, Option.some.injEq] at hs
    cases hs
    unfold concluirIo
    split
    · split
      · have hpcb := h.modificarPcb pid (f := fun p ↦ { p with stdinPendiente := some (pendienteDe req leidos) })
          fun _ ↦ rfl
        exact hpcb.conFase_of_conIo hconIo fun _ _ _ ↦ FaseProceso.noConfusion
      · exact h.aSuspReady hconIo
    · split
      · exact h.conFase_of_conIo hconIo fun _ _ _ ↦ FaseProceso.noConfusion
      · exact h.conFase_of_conIo hconIo fun _ _ _ ↦ FaseProceso.noConfusion
  | diferida =>
    simp only [Suspensiones.avanzarHilo, hfase, Option.some.injEq] at hs
    cases hs
    exact h.aSuspReady hconIo
  | escribir pendiente =>
    simp only [Suspensiones.avanzarHilo, hfase, Option.some.injEq] at hs
    cases hs
    exact h.conFase_of_conIo hconIo fun _ _ _ ↦ FaseProceso.noConfusion
  | escribiendo pendiente =>
    simp only [Suspensiones.avanzarHilo, hfase] at hs
    cases aceptada with
    | true =>
      cases hs
      exact h.conFase_of_conIo hconIo fun _ _ _ ↦ FaseProceso.noConfusion
    | false =>
      cases hs
      exact h.conFase_of_conIo hconIo fun _ _ _ ↦ FaseProceso.noConfusion
  | aReady =>
    simp only [Suspensiones.avanzarHilo, hfase, Option.some.injEq] at hs
    cases hs
    exact h.encolarEnReady pid
  | rechazada =>
    simp only [Suspensiones.avanzarHilo, hfase, Option.some.injEq] at hs
    cases hs
    exact h.finalizarPcbPorSegFault pid

theorem Episodios.avanzarHilo (h : s.Episodios) (hinv : s.Inv) {datos : List UInt8} {aceptada : Bool}
    (hs : s.avanzarHilo pid datos aceptada = some s') : s'.Episodios := by
  by_cases hsinIo : SinIo (s.fases pid)
  · rcases hsinIo with (hfase | hfase) | ⟨req, hfase⟩
    · simp only [Suspensiones.avanzarHilo, hfase, reduceCtorEq] at hs
    · simp only [Suspensiones.avanzarHilo, hfase, reduceCtorEq] at hs
    · simp only [Suspensiones.avanzarHilo, hfase, Option.some.injEq] at hs
      cases hs
      exact h.pedir hinv hfase
  · exact h.hilo_conIo hsinIo hs

/-- A timer that wakes up in the queue is one of the IO its process is in. -/
theorem Episodios.vence (h : s.Episodios) (hinv : s.Inv) {t : HiloSuspension} (ht : t ∈ s.timers) (hvence : s.Vence t)
    (hcuenta : s.entradas t.pid < 2 ^ 32) : t.porIo = true ∧ t.entrada = s.entradas t.pid := by
  obtain ⟨hepoch, hle⟩ := h.timer t ht
  have hentrada : t.entrada = s.entradas t.pid := by
    have hofNat : UInt32.ofNat (s.entradas t.pid) = UInt32.ofNat t.entrada := by
      rw [← h.epoca, hvence.2.2, hepoch]
    have htoNat := congrArg UInt32.toNat hofNat
    rw [UInt32.toNat_ofNat', UInt32.toNat_ofNat', Nat.mod_eq_of_lt hcuenta, Nat.mod_eq_of_lt (by omega)] at htoNat
    exact htoNat.symm
  refine ⟨?_, hentrada⟩
  by_contra hporIo
  rw [Bool.not_eq_true] at hporIo
  have hsinIo := h.mutex t ht hporIo hentrada
  obtain ⟨io, lugar, suspendido, henCola⟩ := (hinv t.pid).enCola (List.one_le_count_iff.mpr hvence.1)
  have hhilo : EnBlock (s.fases t.pid) io := henCola.hilo
  rcases hsinIo with (hfase | hfase) | ⟨req, hfase⟩ <;> rw [hfase] at hhilo <;> cases hhilo

theorem Episodios.avanzarTimer (h : s.Episodios) (hinv : s.Inv) {i : ℕ} (hs : s.avanzarTimer i = some s') :
    s'.Episodios := by
  cases ht : s.timers[i]? with
  | none => simp only [Suspensiones.avanzarTimer, ht, reduceCtorEq] at hs
  | some t =>
    have hmem := List.mem_of_getElem? ht
    simp only [Suspensiones.avanzarTimer, ht] at hs
    cases hfase : t.fase with
    | dormido =>
      rw [hfase] at hs
      dsimp only at hs
      split at hs
      · rename_i hvence
        cases hs
        have hpcb := h.modificarPcb t.pid (f := fun p ↦ { p with estado := .suspBlock, suspendidoEnSwap := false })
          fun _ ↦ rfl
        exact hpcb.conTimer ht fun _ hcuenta ↦ h.vence hinv hmem hvence hcuenta
      · cases hs
        exact h.conTimer ht fun hno ↦ absurd hno Bool.false_ne_true
    | marcado | listado | pidiendo =>
      have hantes := h.vuelo t hmem (by rw [hfase]; rfl)
      rw [hfase] at hs
      cases hs
      exact h.conTimer ht fun _ ↦ hantes
    | respondido =>
      rw [hfase] at hs
      dsimp only at hs
      split at hs
      · cases hs
        have hpcb := h.modificarPcb t.pid (f := fun p ↦ { p with suspendidoEnSwap := true }) fun _ ↦ rfl
        exact hpcb.conTimer ht fun hno ↦ absurd hno Bool.false_ne_true
      · cases hs
        exact h.conTimer ht fun hno ↦ absurd hno Bool.false_ne_true
    | porAvisar =>
      rw [hfase] at hs
      cases hs
      exact h.conTimer ht fun hno ↦ absurd hno Bool.false_ne_true
    | terminado =>
      rw [hfase] at hs
      cases hs

theorem Episodios.avanzarPmp (h : s.Episodios) {candidatos : List Pid} {aceptada : Bool}
    (hs : s.avanzarPmp candidatos aceptada = some s') : s'.Episodios := by
  cases hpmp : s.pmp with
  | espera =>
    simp only [Suspensiones.avanzarPmp, hpmp] at hs
    split at hs
    · cases hs
      exact h
    · cases hs
  | recorre pendientes =>
    cases pendientes with
    | nil | cons =>
      simp only [Suspensiones.avanzarPmp, hpmp, Option.some.injEq] at hs
      cases hs
      exact h
  | pidiendo pid resto =>
    simp only [Suspensiones.avanzarPmp, hpmp] at hs
    cases aceptada with
    | true | false =>
      cases hs
      exact h
  | aceptado pid resto =>
    simp only [Suspensiones.avanzarPmp, hpmp, Option.some.injEq] at hs
    cases hs
    exact h
  | removido pid resto =>
    simp only [Suspensiones.avanzarPmp, hpmp] at hs
    cases hresto : (s.pcbs pid).stdinPendiente with
    | none | some =>
      rw [hresto] at hs
      cases hs
      exact h
  | escribiendo pid resto =>
    simp only [Suspensiones.avanzarPmp, hpmp] at hs
    have hpcb := h.modificarPcb pid (f := fun p ↦ { p with stdinPendiente := none }) fun _ ↦ rfl
    cases aceptada with
    | true | false =>
      cases hs
      exact hpcb
  | aReady pid resto =>
    simp only [Suspensiones.avanzarPmp, hpmp, Option.some.injEq] at hs
    cases hs
    exact h.encolarEnReady pid
  | rechazada pid resto =>
    simp only [Suspensiones.avanzarPmp, hpmp, Option.some.injEq] at hs
    cases hs
    exact h.finalizarPcbPorSegFault pid

theorem Episodios.avanzarEspera (h : s.Episodios) (hinv : s.Inv) {i : ℕ} (hs : s.avanzarEspera i = some s') :
    s'.Episodios := by
  cases hespera : s.esperas[i]? with
  | none => simp only [Suspensiones.avanzarEspera, hespera, reduceCtorEq] at hs
  | some espera =>
    have hsuelto := h.espera espera (List.mem_of_getElem? hespera)
    simp only [Suspensiones.avanzarEspera, hespera] at hs
    split at hs
    · cases hs
      have hmenos : Episodios { s with esperas := s.esperas.eraseIdx i } :=
        { h with espera := fun e he ↦ h.espera e (List.mem_of_mem_eraseIdx he) }
      exact hmenos.notificarProcesoEnBlock (h.epoca espera.pid) rfl fun _ ↦ .inl hsuelto
    · cases hs
      have hcuenta : (s.contarEntrada espera.pid).Episodios := by
        apply h.contarEntrada
        · apply not_enVuelo_of_fase hinv
          intro io hen
          rcases hsuelto with hfase | hfase <;> rw [hfase] at hen <;> cases hen
        · intro req epoch entrada hno
          rw [hno] at hsuelto
          rcases hsuelto with hfase | hfase <;> cases hfase
      exact { hcuenta with espera := ListModify.forall_mem_modify h.espera i _ (fun _ _ he ↦ he) fun _ he ↦ he }

theorem Episodios.paso (h : s.Episodios) (hinv : s.Inv) {suceso : SucesoSuspension} (hdemora : s.SinDemora suceso)
    (hs : s.paso suceso = some s') : s'.Episodios := by
  cases suceso with
  | planificar pid estado =>
    simp only [Suspensiones.paso] at hs
    split at hs
    · cases hs
      exact h.cambiarEstado pid estado
    · cases hs
  | terminar pid =>
    simp only [Suspensiones.paso] at hs
    split at hs
    · cases hs
      have hestado := h.cambiarEstado pid .exitState
      exact hestado.conFase_of_sinIo (.inl (.inr rfl)) fun _ ↦ .inr rfl
    · cases hs
  | esperarMutex pid =>
    simp only [Suspensiones.paso] at hs
    split at hs
    · rename_i hfase
      cases hs
      have hestado := h.cambiarEstado pid .block
      refine { hestado with espera := fun e he ↦ ?_ }
      rcases List.mem_append.mp he with he | he
      · exact h.espera e he
      · obtain rfl := List.mem_singleton.mp he
        exact .inl hfase
    · cases hs
  | pedirIo req =>
    simp only [Suspensiones.paso] at hs
    split at hs
    · cases hs
      have hestado := h.cambiarEstado req.proceso .block
      apply hestado.conFase_of_sinIo (.inr ⟨req, rfl⟩)
      rintro ⟨espera, hmem, hpid⟩
      exact absurd hpid (hdemora espera hmem)
    · cases hs
  | espera i => exact h.avanzarEspera hinv hs
  | hilo pid datos aceptada => exact h.avanzarHilo hinv hs
  | timer i => exact h.avanzarTimer hinv hs
  | pmp candidatos aceptada => exact h.avanzarPmp hs
  | avisar =>
    simp only [Suspensiones.paso] at hs
    split at hs
    · cases hs
      exact h
    · cases hs
  | notificar =>
    cases hs
    exact h

/-! ## Every run -/

/-- In every run in which no IO overtakes a handler of MUTEX_LOCK: a timer that has its process in SUSP_BLOCK was
started by the IO that the process is in, as long as the process has entered BLOCK less than `2 ^ 32` times. -/
theorem suspende_su_episodio (h : Reachable Suspensiones.paso Inicial SinDemora s) {t : HiloSuspension}
    (ht : t ∈ s.timers) (henVuelo : t.fase.enVuelo) (hcuenta : s.entradas t.pid < 2 ^ 32) :
    t.porIo = true ∧ t.entrada = s.entradas t.pid ∧ t.pid ∈ s.colaProcesosBlock := by
  have hambos : s.Inv ∧ s.Episodios := by
    apply h.invariant (P := fun s ↦ s.Inv ∧ s.Episodios)
    · exact fun s hinicial ↦ ⟨Inv.inicial hinicial, Episodios.inicial hinicial⟩
    · intro s suceso s' hantes hdemora hpaso
      exact ⟨hantes.1.paso hpaso, hantes.2.paso hantes.1 hdemora hpaso⟩
  obtain ⟨hporIo, hentrada⟩ := hambos.2.vuelo t ht henVuelo hcuenta
  obtain ⟨i, hi⟩ := List.getElem?_of_mem ht
  obtain ⟨io, lugar, suspendido, henCola⟩ := (hambos.1 t.pid).enCola_of_volcado (mem_volcados hi henVuelo)
  refine ⟨hporIo, hentrada, List.one_le_count_iff.mp ?_⟩
  exact Nat.le_of_eq henCola.cuenta.symm

/-- A process waits for a mutex and, once that handler is through, asks for an IO; both timers sleep until the second
one has the process in SUSP_BLOCK. -/
theorem suspende_su_episodio_mutex : ∃ s, Reachable Suspensiones.paso Inicial SinDemora s ∧
    ∃ t ∈ s.timers, t.fase.enVuelo ∧ t.epoch = 2 ∧
      t.porIo = true ∧ t.entrada = s.entradas t.pid ∧ t.pid ∈ s.colaProcesosBlock := by
  have hinicio : Reachable Suspensiones.paso Inicial SinDemora sinIo := .start inicial_sinIo
  obtain ⟨s, hs, htimers, hentradas⟩ := hinicio.exists_of_runAllowed
    [.esperarMutex 1, .espera 0, .espera 0, .planificar 1 .exec, .pedirIo ⟨1, .sleep, 0, 0⟩, .hilo 1 [] false,
      .hilo 1 [] false, .timer 1]
    (fun s ↦ s.timers = [⟨1, 1, 1, false, .dormido⟩, ⟨1, 2, 2, true, .marcado⟩] ∧ s.entradas 1 < 2 ^ 32)
    (by decide +kernel)
  have hmem : (⟨1, 2, 2, true, .marcado⟩ : HiloSuspension) ∈ s.timers := by
    rw [htimers]
    decide
  exact ⟨s, hs, _, hmem, rfl, rfl, suspende_su_episodio hs hmem rfl hentradas⟩

end PlugAndPlay.Planificador.Suspensiones
