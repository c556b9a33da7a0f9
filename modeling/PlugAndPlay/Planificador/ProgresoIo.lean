import PlugAndPlay.Planificador.Progreso

/-!
# Progress through creation, IO and suspension

How a new process, a request of IO, a dump to SWAP and a resumption keep the invariant that all
processes can make progress.
-/

open PlugAndPlay.Library

namespace PlugAndPlay.Planificador.KernelScheduler

variable {k k' : KernelScheduler} {pid q : Pid} {mano mano' : List Pid}

/-! ## New processes -/

theorem Cuidado.crearProceso (h : k.Cuidado mano) (path : String) (prioridad : ℤ) :
    (k.crearProceso path prioridad).Cuidado mano := by
  have hun := h.unLugar.crearProceso path prioridad
  unfold KernelScheduler.crearProceso at hun ⊢
  split
  · exact h
  rename_i hpath
  rw [if_neg hpath] at hun
  have hmismo : ∀ p : Pcb, Function.update k.pcbs k.contadorPids p k.contadorPids = p := fun p ↦
    Function.update_self _ _ _
  have hotro : ∀ (p : Pcb) (q : Pid), q ≠ k.contadorPids →
      Function.update k.pcbs k.contadorPids p q = k.pcbs q := fun p q hq ↦ Function.update_of_ne hq _ _
  refine ⟨h.libre, hun, fun q hq ↦ ?_, fun q hq ↦ ?_, fun m hm q hposee hq ↦ ?_, fun q hq ↦ ?_,
    h.cpusLibres, h.primeras, fun q hq hvig ↦ ?_⟩
  · by_cases hnuevo : q = k.contadorPids
    · exact List.mem_append_right _ (List.mem_singleton.mpr hnuevo)
    · simp only [hotro _ q hnuevo] at hq
      exact List.mem_append_left _ (h.nuevos q hq)
  · unfold PrioridadesValidas
    by_cases hnuevo : q = k.contadorPids
    · simp only [hnuevo, hmismo] at hq ⊢
      have hvalida := hq.resolve_left (fun hno ↦ hno rfl)
      exact fun _ ↦ ⟨hvalida, hvalida⟩
    · simp only [hotro _ q hnuevo] at hq ⊢
      exact h.validos q hq
  · by_cases hnuevo : q = k.contadorPids
    · simp only [hnuevo, hmismo]
      nofun
    · simp only [hotro _ q hnuevo]
      exact h.poseedores m hm q hposee hq
  · by_cases hnuevo : q = k.contadorPids
    · simp only [hnuevo, hmismo] at hq
      rcases hq with hq | hq <;> cases hq
    · simp only [hotro _ q hnuevo] at hq
      exact h.suspendidos q hq
  · by_cases hnuevo : q = k.contadorPids
    · exact .enNew (List.mem_append_right _ (List.mem_singleton.mpr hnuevo))
    have hvigente : k.Vigente q := by
      obtain ⟨hcota, hestado⟩ := hvig
      simp only [hotro _ q hnuevo] at hestado
      exact ⟨Nat.lt_of_le_of_ne (Nat.le_of_lt_succ hcota) hnuevo, hestado⟩
    cases h.progresan q hq hvigente with
    | enNew h => exact .enNew (List.mem_append_left _ h)
    | enReady h => exact .enReady h
    | enCola h => exact .enCola h
    | enCpu h => exact .enCpu h
    | enBlock h h' => exact .enBlock h h'
    | enMutex hespera =>
      obtain ⟨m, hm, hcola, poseedor, hposee, hvivo⟩ := hespera
      refine .enMutex ⟨m, hm, hcola, poseedor, hposee, ?_⟩
      by_cases hposeedor : poseedor = k.contadorPids
      · simp only [hposeedor, hmismo]
        nofun
      · simp only [hotro _ poseedor hposeedor]
        exact hvivo
    | enSuspReady hestado hlista =>
      refine .enSuspReady ?_ hlista
      simp only [hotro _ q hnuevo]
      exact hestado

/-- The first process of the NEW queue is admitted; its priority has a queue. -/
theorem Cuidado.admitir (h : k.Cuidado []) {resto : List Pid} (hcola : k.colaProcesosNew = pid :: resto)
    (hvalida : 0 < k.cantidadNivelesPrioridad → k.NivelValido (k.pcbs pid).prioridad) (semNew : ℕ) :
    ({ k with colaProcesosNew := resto, semNew := semNew }.cambiarEstado pid .ready).Cuidado [pid] := by
  have hpcb : ∀ q, q ≠ pid → (k.cambiarEstado pid .ready).pcbs q = k.pcbs q := by
    intro q hq
    unfold KernelScheduler.cambiarEstado
    rw [pcbs_modificarPcb, if_neg hq]
  have hmismo : (k.cambiarEstado pid .ready).pcbs pid = { k.pcbs pid with estado := .ready } :=
    k.pcbs_modificarPcb_mismo pid _
  have hresto : ∀ q, q ≠ pid → q ∈ k.colaProcesosNew → q ∈ resto := by
    intro q hq hmem
    rw [hcola] at hmem
    exact (List.mem_cons.mp hmem).resolve_left hq
  have hsacado : { k with colaProcesosNew := resto, semNew := semNew }.EnUnLugar [pid] := by
    refine h.unLugar.of_lugares rfl rfl fun q ↦ ?_
    simp only [lugares, hcola, List.count_append, count_mano pid resto, List.count_nil]
    omega
  refine ⟨h.libre, hsacado.cambiarAReady pid, fun q hq ↦ ?_, fun q hq ↦ ?_, fun m hm q hposee hq ↦ ?_,
    fun q hq ↦ ?_, h.cpusLibres, h.primeras, fun q hq hvig ↦ ?_⟩
  · by_cases hpid : q = pid
    · rw [hpid] at hq
      change ((k.cambiarEstado pid .ready).pcbs pid).estado = _ at hq
      rw [hmismo] at hq
      cases hq
    · change ((k.cambiarEstado pid .ready).pcbs q).estado = _ at hq
      rw [hpcb q hpid] at hq
      exact hresto q hpid (h.nuevos q hq)
  · change ((k.cambiarEstado pid .ready).pcbs q).estado ≠ _ ∨
      k.NivelValido ((k.cambiarEstado pid .ready).pcbs q).prioridad at hq
    show 0 < k.cantidadNivelesPrioridad → k.NivelValido ((k.cambiarEstado pid .ready).pcbs q).prioridad ∧
      k.NivelValido ((k.cambiarEstado pid .ready).pcbs q).prioridadDinamica
    by_cases hpid : q = pid
    · subst hpid
      rw [hmismo]
      exact fun hniveles ↦ h.validos q (.inr (hvalida hniveles)) hniveles
    · rw [hpcb q hpid] at hq ⊢
      exact h.validos q hq
  · have hotro : q ≠ pid := fun hpid ↦ hq (List.mem_singleton.mpr hpid)
    show ((k.cambiarEstado pid .ready).pcbs q).estado ≠ _
    rw [hpcb q hotro]
    exact h.poseedores m hm q hposee List.not_mem_nil
  · change ((k.cambiarEstado pid .ready).pcbs q).estado = _ ∨
      ((k.cambiarEstado pid .ready).pcbs q).estado = _ at hq
    by_cases hpid : q = pid
    · rw [hpid, hmismo] at hq
      rcases hq with hq | hq <;> cases hq
    · rw [hpcb q hpid] at hq
      exact h.suspendidos q hq
  · have hotro : q ≠ pid := fun hpid ↦ hq (List.mem_singleton.mpr hpid)
    have hvigente : k.Vigente q := by
      obtain ⟨hcota, hestado⟩ := hvig
      change ((k.cambiarEstado pid .ready).pcbs q).estado ≠ _ at hestado
      rw [hpcb q hotro] at hestado
      exact ⟨hcota, hestado⟩
    cases h.progresan q List.not_mem_nil hvigente with
    | enNew h => exact .enNew (hresto q hotro h)
    | enReady h => exact .enReady h
    | enCola h => exact .enCola h
    | enCpu h => exact .enCpu h
    | enBlock h h' => exact .enBlock h h'
    | enMutex hespera =>
      obtain ⟨m, hm, hcola, poseedor, hposee, hvivo⟩ := hespera
      refine .enMutex ⟨m, hm, hcola, poseedor, hposee, ?_⟩
      show ((k.cambiarEstado pid .ready).pcbs poseedor).estado ≠ _
      by_cases hposeedor : poseedor = pid
      · rw [hposeedor, hmismo]
        rintro ⟨⟩
      · rw [hpcb poseedor hposeedor]
        exact hvivo
    | enSuspReady hestado hlista =>
      refine .enSuspReady ?_ hlista
      show ((k.cambiarEstado pid .ready).pcbs q).estado = _
      rw [hpcb q hotro]
      exact hestado

/-! ## Interfaces and the BLOCK queue -/

/-- The request of a process in BLOCK is served or queued by an active interface. -/
def EsperaIo (block : List Pid) (tabla : List InterfazIo) (q : Pid) : Prop :=
  q ∈ block ∧ ∃ io ∈ tabla, io.activa ∧ q ∈ io.pendientes

theorem Cuidado.conBlock (h : k.Cuidado mano) {tabla : List InterfazIo} {block : List Pid}
    (hun : { k with tablaIos := tabla, colaProcesosBlock := block }.EnUnLugar mano')
    (hvivos : ∀ q ∈ mano, q ∉ mano' → (k.pcbs q).estado ≠ .exitState)
    (hsiguen : ∀ q, q ∉ mano' → q ∈ mano ∨ EsperaIo k.colaProcesosBlock k.tablaIos q →
      EsperaIo block tabla q) :
    { k with tablaIos := tabla, colaProcesosBlock := block }.Cuidado mano' := by
  refine ⟨h.libre, hun, h.nuevos, h.validos, fun m hm q hposee hq ↦ ?_, h.suspendidos, h.cpusLibres,
    h.primeras, fun q hq hvig ↦ ?_⟩
  · by_cases hmano : q ∈ mano
    · exact hvivos q hmano hq
    · exact h.poseedores m hm q hposee hmano
  by_cases hmano : q ∈ mano
  · have hespera := hsiguen q hq (.inl hmano)
    exact .enBlock hespera.1 hespera.2
  · cases h.progresan q hmano hvig with
    | enNew h => exact .enNew h
    | enReady h => exact .enReady h
    | enCola h => exact .enCola h
    | enCpu h => exact .enCpu h
    | enBlock h h' =>
      have hespera := hsiguen q hq (.inr ⟨h, h'⟩)
      exact .enBlock hespera.1 hespera.2
    | enMutex h => exact .enMutex h
    | enSuspReady h h' => exact .enSuspReady h h'

theorem Cuidado.registrarInterfazIo (h : k.Cuidado mano) (nombre : String) :
    (k.registrarInterfazIo nombre).Cuidado mano := by
  unfold KernelScheduler.registrarInterfazIo
  split
  swap
  · exact h
  refine h.conBlock h.unLugar (fun q hq hno ↦ absurd hq hno) fun q hq hespera ↦ ?_
  obtain ⟨hblock, io, hio, hpide⟩ := hespera.resolve_left hq
  exact ⟨hblock, io, List.mem_append_left _ hio, hpide⟩

/-- A process enters BLOCK with a request for an active interface. -/
theorem Cuidado.encolarIoRequest {req : IoRequest} (h : k.Cuidado (req.proceso :: mano)) {i : ℕ}
    {io : InterfazIo} (hio : k.tablaIos[i]? = some io) (hactiva : io.activa) :
    (k.encolarIoRequest i req).Cuidado mano := by
  have hblock := h.modificarPcb req.proceso (fun p ↦
    { p with estado := .block, blockEpoch := p.blockEpoch + 1 })
    (.inr ⟨List.mem_cons_self, .inr (.inr rfl)⟩) rfl fun hvalidas hniveles ↦ (hvalidas hniveles).2
  have hpedido : { k.modificarPcb req.proceso (fun p ↦
        { p with estado := .block, blockEpoch := p.blockEpoch + 1 }) with
      tablaIos := k.tablaIos.modify i fun io ↦ { io with cola := io.cola ++ [req], semCola := io.semCola + 1 }
      colaProcesosBlock := k.colaProcesosBlock ++ [req.proceso] }.Cuidado mano := by
    refine hblock.conBlock ?_ (fun q hq hfuera ↦ ?_) fun q hq hespera ↦ ?_
    · refine hblock.unLugar.of_lugares rfl rfl fun q ↦ ?_
      simp only [lugares, KernelScheduler.modificarPcb, List.count_append, count_mano req.proceso mano]
      omega
    · rw [(List.mem_cons.mp hq).resolve_right hfuera, pcbs_modificarPcb_mismo]
      rintro ⟨⟩
    · rcases hespera with hmano | ⟨hespera, hpide⟩
      · obtain rfl := (List.mem_cons.mp hmano).resolve_right hq
        refine ⟨List.mem_append_right _ List.mem_cons_self,
          { io with cola := io.cola ++ [req], semCola := io.semCola + 1 }, ?_, hactiva, ?_⟩
        · refine List.mem_of_getElem? (i := i) ?_
          simp [hio]
        · simp [InterfazIo.pendientes]
      · refine ⟨List.mem_append_left _ hespera, ListModify.exists_mem_modify hpide i _
          (fun io' _ hio' ↦ ⟨hio'.1, ?_⟩) fun _ ↦ id⟩
        have hpendiente := hio'.2
        simp only [InterfazIo.pendientes, ← List.append_assoc, List.map_append] at hpendiente ⊢
        exact List.mem_append_left _ hpendiente
  unfold KernelScheduler.encolarIoRequest
  simp only [hio, if_pos hactiva]
  apply hpedido.salvoReloj
  unfold entrarEnBlock notificarProcesoEnBlock modificarIo
  simp only
  split <;> exact Eq.refl _

theorem Cuidado.tomarIo (h : k.Cuidado mano) {i : ℕ} (hpaso : k.tomarIo i = some k') :
    k'.Cuidado mano := by
  unfold KernelScheduler.tomarIo at hpaso
  split at hpaso
  · cases hpaso
  rename_i io hio
  split at hpaso
  swap
  · cases hpaso
  rename_i hlista
  cases hpaso
  refine h.conBlock h.unLugar (fun q hq hno ↦ absurd hq hno) fun q hq hespera ↦ ?_
  obtain ⟨hblock, hpide⟩ := hespera.resolve_left hq
  refine ⟨hblock, ListModify.exists_mem_modify hpide i _ (fun io' hio' hq' ↦ ⟨hq'.1, ?_⟩) fun _ ↦ id⟩
  obtain rfl := Option.some.inj (hio.symm.trans hio')
  have hpendiente := hq'.2
  unfold InterfazIo.pendientes at hpendiente ⊢
  rw [hlista.2.1] at hpendiente
  cases hcola : io.cola with
  | nil => simp [hcola] at hpendiente
  | cons req resto => simpa [hcola] using hpendiente

/-- The interface has served a request; the other processes that ask it for something still do. -/
theorem esperaIo_atendido {req : IoRequest} {i : ℕ} {io : InterfazIo} (hio : k.tablaIos[i]? = some io)
    (hreq : io.atendido = some req) (hq : q ≠ req.proceso)
    (h : ∃ io ∈ k.tablaIos, io.activa ∧ q ∈ io.pendientes) :
    ∃ io ∈ k.tablaIos.modify i fun io ↦ { io with atendido := none }, io.activa ∧ q ∈ io.pendientes := by
  refine ListModify.exists_mem_modify h i _ (fun io' hio' hq' ↦ ⟨hq'.1, ?_⟩) fun _ ↦ id
  obtain rfl := Option.some.inj (hio.symm.trans hio')
  have hpendiente := hq'.2
  unfold InterfazIo.pendientes at hpendiente ⊢
  rw [hreq] at hpendiente
  exact (List.mem_cons.mp hpendiente).resolve_left hq

theorem Cuidado.extraer (h : k.Cuidado []) {req : IoRequest} {i : ℕ} {io : InterfazIo}
    (hio : k.tablaIos[i]? = some io) (hreq : io.atendido = some req)
    (hextraer : (k.modificarIo i fun io ↦ { io with atendido := none }).extraerDeBlock req.proceso =
      .extraido k') : k'.Cuidado [req.proceso] := by
  have hun := EnUnLugar.extraer (h.unLugar.modificarIo i _) hextraer
  unfold extraerDeBlock at hextraer
  split at hextraer
  swap
  · cases hextraer
  split at hextraer
  · cases hextraer
  cases hextraer
  refine h.conBlock hun (fun q hq ↦ absurd hq List.not_mem_nil) fun q hq hespera ↦ ?_
  have hotro : q ≠ req.proceso := fun hpid ↦ hq (List.mem_singleton.mpr hpid)
  obtain ⟨hblock, hpide⟩ := hespera.resolve_left List.not_mem_nil
  exact ⟨(List.mem_erase_of_ne hotro).mpr hblock, esperaIo_atendido hio hreq hotro hpide⟩

theorem Cuidado.noEsta (h : k.Cuidado []) {req : IoRequest} {i : ℕ} {io : InterfazIo}
    (hio : k.tablaIos[i]? = some io) (hreq : io.atendido = some req)
    (hextraer : (k.modificarIo i fun io ↦ { io with atendido := none }).extraerDeBlock req.proceso =
      .noEsta) : (k.modificarIo i fun io ↦ { io with atendido := none }).Cuidado [] := by
  unfold extraerDeBlock at hextraer
  split at hextraer
  · split at hextraer <;> cases hextraer
  rename_i hno
  refine h.conBlock h.unLugar (fun q hq ↦ absurd hq List.not_mem_nil) fun q _ hespera ↦ ?_
  obtain ⟨hblock, hpide⟩ := hespera.resolve_left List.not_mem_nil
  have hotro : q ≠ req.proceso := by
    rintro rfl
    exact hno hblock
  exact ⟨hblock, esperaIo_atendido hio hreq hotro hpide⟩

/-! ## Suspension -/

/-- A suspended process in hand has ended its IO. -/
theorem Cuidado.aSuspReady (h : k.Cuidado (pid :: mano)) (hsusp : (k.pcbs pid).estado = .suspBlock)
    (f : Pcb → Pcb) (hestado : (f (k.pcbs pid)).estado = .suspReady)
    (hprioridad : (f (k.pcbs pid)).prioridad = (k.pcbs pid).prioridad)
    (hdinamica : (f (k.pcbs pid)).prioridadDinamica = (k.pcbs pid).prioridadDinamica) :
    (k.modificarPcb pid f).Cuidado mano := by
  have hlista := h.suspendidos pid (.inl hsusp)
  refine h.conEstado f (h.unLugar.aSuspReady f hestado) ?_ ?_ hprioridad hdinamica (fun _ ↦ hlista)
    (fun _ _ ↦ id) (fun q hq ↦ ?_) fun _ ↦ ?_
  · exact h.iniciado List.mem_cons_self
  · rw [hestado]
    exact ⟨nofun, nofun⟩
  · rw [List.mem_cons]
    exact or_iff_right hq
  · refine .enSuspReady ?_ hlista
    show ((k.modificarPcb pid f).pcbs pid).estado = _
    rw [pcbs_modificarPcb_mismo, hestado]

theorem Cuidado.desbloquear (h : k.Cuidado [pid]) : (k.desbloquear pid).Cuidado [] := by
  unfold KernelScheduler.desbloquear
  split
  · rename_i hsusp
    have hready := h.aSuspReady hsusp (fun p ↦ { p with estado := .suspReady }) rfl rfl rfl
    exact hready.salvoReloj (Eq.refl _)
  · exact h.encolar

theorem Cuidado.diferirStdin (h : k.Cuidado [pid]) (hsusp : (k.pcbs pid).estado = .suspBlock)
    (pendiente : StdinPendiente) : (k.diferirStdin pid pendiente).Cuidado [] := by
  have hready := h.aSuspReady hsusp (fun p ↦ { p with
    stdinPendiente := some pendiente, estado := .suspReady }) rfl rfl rfl
  exact hready.salvoReloj (Eq.refl _)

theorem Cuidado.vencerSuspension (h : k.Cuidado []) {i : ℕ} (hpaso : k.vencerSuspension i = some k') :
    k'.Cuidado [] := by
  have hun := h.unLugar.vencerSuspension hpaso
  unfold KernelScheduler.vencerSuspension at hpaso
  split at hpaso
  · cases hpaso
  rename_i t _
  split at hpaso
  · cases hpaso
  split at hpaso
  swap
  · cases hpaso
    exact h.salvoReloj (Eq.refl _)
  rename_i hdecide
  cases hpaso
  have hvigente : ∀ q, k.Vigente q → { k.modificarPcb t.pid (fun p ↦
        { p with estado := .suspBlock, suspendidoEnSwap := false }) with
      listaSuspendidos := k.listaSuspendidos ++ [t.pid] }.PuedeProgresar q := by
    intro q hq
    apply (h.progresan q List.not_mem_nil hq).conPcb
    · rintro ⟨⟩
    · intro _ hsusp
      rw [hdecide.2.1] at hsusp
      cases hsusp
    · exact List.mem_append_left _
  have hbloqueado : k.Vigente t.pid := by
    have huno := h.unLugar t.pid
    have hcola := List.count_pos_iff.mpr hdecide.1
    by_contra hno
    rw [if_neg hno] at huno
    simp only [apariciones, lugares, List.count_append] at huno
    omega
  have hsuspBlock : { k.modificarPcb t.pid (fun p ↦
        { p with estado := .suspBlock, suspendidoEnSwap := false }) with
      listaSuspendidos := k.listaSuspendidos ++ [t.pid] }.Cuidado [] := by
    refine h.conEstado _ hun ?_ ⟨by rintro ⟨⟩, by rintro ⟨⟩⟩ rfl rfl
      (fun _ ↦ List.mem_append_right _ List.mem_cons_self) (fun q _ ↦ List.mem_append_left _)
      (fun _ _ ↦ Iff.rfl) fun _ ↦ hvigente t.pid hbloqueado
    rw [hdecide.2.1]
    rintro ⟨⟩
  exact hsuspBlock.salvoReloj (Eq.refl _)

theorem Cuidado.terminarSuspension (h : k.Cuidado mano) {i : ℕ}
    (hpaso : k.terminarSuspension i = some k') : k'.Cuidado mano := by
  unfold KernelScheduler.terminarSuspension at hpaso
  split at hpaso
  · cases hpaso
  rename_i t _
  split at hpaso
  · cases hpaso
  cases hpaso
  have hvolcado := h.modificarPcb t.pid (fun p ↦ { p with suspendidoEnSwap := true }) (.inl rfl) rfl
    fun hvalidas hniveles ↦ (hvalidas hniveles).2
  split
  · exact hvolcado.salvoReloj (Eq.refl _)
  · exact h.salvoReloj (Eq.refl _)

/-- A process that is resumed is in hand, back among those that may be queued. -/
theorem Cuidado.deSuspReady (h : k.Cuidado []) (hsusp : (k.pcbs pid).estado = .suspReady) :
    ((k.removerDeListaSuspendidos pid).cambiarEstado pid .ready).Cuidado [pid] := by
  have hready : { k.modificarPcb pid (fun p ↦ { p with estado := .ready }) with
      listaSuspendidos := k.listaSuspendidos.erase pid }.Cuidado [pid] := by
    refine h.conEstado _ (h.unLugar.deSuspReady hsusp) ?_ ⟨nofun, nofun⟩ rfl rfl ?_
      (fun q hq ↦ (List.mem_erase_of_ne hq).mpr) (fun q hq ↦ ?_) fun hfuera ↦ ?_
    · rw [hsusp]
      nofun
    · intro hno
      rcases hno with hno | hno <;> cases hno
    · rw [List.mem_singleton]
      exact iff_of_false List.not_mem_nil hq
    · exact absurd List.mem_cons_self hfuera
  exact hready

end PlugAndPlay.Planificador.KernelScheduler
