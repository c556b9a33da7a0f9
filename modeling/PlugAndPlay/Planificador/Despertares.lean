import PlugAndPlay.Planificador.NivelesReady

/-!
# The two semaphores of the short-term planner

`planificadorCortoPlazo` statement by statement between the sections of the other threads, whose `sem_post`
comes apart from the section it belongs to. A post that a thread still owes is a debt. The locks that some
threads keep from the section to its post are not modelled, which only adds orders.
-/

open PlugAndPlay.Library

namespace PlugAndPlay.Planificador

open KernelScheduler

/-- Where `planificadorCortoPlazo` is. `devolver` is before the `sem_post(&sem_ready)` of a turn that found a
compaction or no free CPU, `publicar` before as many posts after a failed dispatch, and `probarCpu` at the
condition of the loop that follows. -/
inductive PuntoPcp
  | esperarReady
  | despierto
  | mirarCpus
  | devolver (sinCpu : Bool)
  | esperarCpu
  | sacar
  | enviar (pid : Pid)
  | reencolar (pid : Pid)
  | publicar (posts : ℕ)
  | probarCpu
  | reintentar
deriving Repr, DecidableEq

/-- What a thread owes after a section: the post of an enqueue, of a release, of a new connection, the look at
the single queue that follows the last, or the post at the end of a compaction. -/
inductive Deuda
  | encolado (pid : Pid)
  | liberada (cpuId : ℕ)
  | conectada (cpuId : ℕ)
  | mirarReady
  | finCompactacion
deriving Repr, DecidableEq

structure Despertares where
  k : KernelScheduler
  pcp : PuntoPcp
  deudas : List Deuda

inductive EventoDespertar
  | planificador (ahora : ℤ)
  | encolar (pid : Pid) (alFrente : Bool)
  | reubicar (pid : Pid) (anterior nueva : ℤ)
  | retirar (cpuId : ℕ)
  | reservar (cpuId : ℕ)
  | liberar (cpuId : ℕ)
  | volver (cpuId : ℕ) (pid : Pid)
  | conectar (socket : Socket) (cpuId : ℕ)
  | desconectar (cpuId : ℕ)
  | iniciarCompactacion
  | finalizarCompactacion
  | pagar (d : Deuda)
deriving Repr, DecidableEq

namespace KernelScheduler

variable (k : KernelScheduler)

/-- The processes in the READY queues. -/
def enReady : List Pid := k.colaProcesosReady ++ k.colasReadyPorPrioridad.flatten

/-- The push of an enqueue without its post. A process whose priority has no queue is dropped. -/
def meterEnReady (pid : Pid) (alFrente : Bool) : Option KernelScheduler :=
  let k₁ := k.cambiarEstado pid .ready
  let meter (cola : List Pid) := if alFrente then pid :: cola else cola ++ [pid]
  if 0 < k₁.cantidadNivelesPrioridad then
    if k₁.NivelValido (k₁.pcbs pid).prioridad then some (k₁.modificarCola (k₁.pcbs pid).prioridad meter) else none
  else some { k₁ with colaProcesosReady := meter k₁.colaProcesosReady }

/-- The push of `reencolar_por_fallo_de_envio`, and the posts from there to the end of the branch: the one of
`reencolar_proceso_ready_inicio` and the one of the planner itself. -/
def devolverAReady (pid : Pid) : KernelScheduler × ℕ :=
  if k.config.algoritmoGlobal = .cmn then
    if k.NivelValido (k.pcbs pid).prioridad then (k.modificarCola (k.pcbs pid).prioridad (pid :: ·), 2) else (k, 1)
  else if k.config.algoritmoGlobal = .rr then ({ k with colaProcesosReady := k.colaProcesosReady ++ [pid] }, 1)
  else ({ k with colaProcesosReady := pid :: k.colaProcesosReady }, 1)

end KernelScheduler

namespace Despertares

variable (s : Despertares)

/-- One statement of `planificadorCortoPlazo`. -/
def planificar (ahora : ℤ) : Option Despertares :=
  match s.pcp with
  | .esperarReady =>
    if s.k.semReady = 0 then none
    else some { s with k := { s.k with semReady := s.k.semReady - 1 }, pcp := .despierto }
  | .despierto => some { s with pcp := if s.k.compactacionEnProgreso then .devolver false else .mirarCpus }
  | .mirarCpus => some { s with pcp := if hayCpuLibre s.k.cpus then .sacar else .devolver true }
  | .devolver sinCpu =>
    some { s with
      k := { s.k with semReady := s.k.semReady + 1 }
      pcp := if sinCpu then .esperarCpu else .esperarReady }
  | .esperarCpu =>
    if s.k.semCpuDisponible = 0 then none
    else some { s with
      k := { s.k with semCpuDisponible := s.k.semCpuDisponible - 1 }
      pcp := .esperarReady }
  | .sacar =>
    match s.k.obtenerProximoProcesoReady with
    | (none, k) => some { s with k := k, pcp := .esperarReady }
    | (some pid, k) =>
      -- CMN drops a process whose priority is out of range.
      if k.config.algoritmoGlobal = .cmn ∧ ¬ k.NivelValido (k.pcbs pid).prioridad then
        some { s with k := k, pcp := .esperarReady }
      else some { s with k := k, pcp := .enviar pid }
  | .enviar pid =>
    match elegirCpu s.k.cpus pid with
    | (none, _) => some { s with pcp := .reencolar pid }
    | (some cpu, cpus) =>
      let (quantum, rr) := s.k.config.quantumDeDespacho (s.k.pcbs pid).prioridad
      some { s with
        k := { s.k with cpus := cpus }.ponerEnExec pid cpu ahora quantum rr
        pcp := .esperarReady }
  | .reencolar pid =>
    let (k, posts) := s.k.devolverAReady pid
    some { s with k := k, pcp := .publicar posts }
  | .publicar 0 => some { s with pcp := .probarCpu }
  | .publicar (posts + 1) =>
    some { s with k := { s.k with semReady := s.k.semReady + 1 }, pcp := .publicar posts }
  | .probarCpu => some { s with pcp := if hayCpuLibre s.k.cpus then .esperarReady else .reintentar }
  | .reintentar =>
    if s.k.semCpuDisponible = 0 then none
    else some { s with
      k := { s.k with semCpuDisponible := s.k.semCpuDisponible - 1 }
      pcp := .probarCpu }

/-- The post that was owed. The thread of a new connection looks at the single queue next. -/
def pagar (d : Deuda) : Despertares :=
  let s₁ := { s with deudas := s.deudas.erase d }
  match d with
  | .encolado _ | .finCompactacion => { s₁ with k := { s.k with semReady := s.k.semReady + 1 } }
  | .liberada _ => { s₁ with k := { s.k with semCpuDisponible := s.k.semCpuDisponible + 1 } }
  | .conectada _ =>
    { s₁ with
      k := { s.k with semCpuDisponible := s.k.semCpuDisponible + 1 }
      deudas := s₁.deudas ++ [.mirarReady] }
  | .mirarReady =>
    if s.k.colaProcesosReady ≠ [] then { s₁ with k := { s.k with semReady := s.k.semReady + 1 } } else s₁

/-- A section that leaves a post to do. -/
def deber (k : KernelScheduler) (d : Deuda) : Despertares := { s with k := k, deudas := s.deudas ++ [d] }

/-- One step of the planner or of any other thread. -/
def paso : EventoDespertar → Option Despertares
  | .planificador ahora => s.planificar ahora
  | .encolar pid alFrente =>
    match s.k.meterEnReady pid alFrente with
    | none => some s
    | some k => some (s.deber k (.encolado pid))
  | .reubicar pid anterior nueva => some { s with k := s.k.reubicarProcesoEnReady pid anterior nueva }
  | .retirar cpuId =>
    some (s.deber { s.k with cpus := (retirarProcesoDeCpu s.k.cpus cpuId).2 } (.liberada cpuId))
  | .reservar cpuId =>
    some { s with k := { s.k with cpus := (retirarProcesoDeCpuReservando s.k.cpus cpuId).2 } }
  | .liberar cpuId =>
    some (s.deber { s.k with cpus := liberarCpuReservada s.k.cpus cpuId } (.liberada cpuId))
  | .volver cpuId pid =>
    some { s with k := { s.k with cpus := (devolverProcesoAMismaCpu s.k.cpus cpuId pid).2 } }
  | .conectar socket cpuId =>
    some (s.deber { s.k with cpus := agregarCpu s.k.cpus socket cpuId } (.conectada cpuId))
  | .desconectar cpuId => some { s with k := { s.k with cpus := marcarCpuDesconectada s.k.cpus cpuId } }
  | .iniciarCompactacion => some { s with k := s.k.manejarCompactacionInicio }
  | .finalizarCompactacion => some (s.deber { s.k with compactacionEnProgreso := false } .finCompactacion)
  | .pagar d => if d ∈ s.deudas then some (s.pagar d) else none

/-- The planner starts. FIFO, RR or CMN with at least one level, over processes of any priority. -/
def Arranque : Prop :=
  ∃ config : ConfigScheduler, ∃ pcbs, (config.planificationAlgorithm = .cmn → 0 < config.cantidadColas) ∧
    s = ⟨{ KernelScheduler.inicial config with pcbs := pcbs }, .esperarReady, []⟩

/-- Where the planner waits for work it will be told of it, and where it waits for a CPU as well: the post of
an enqueue or of a release is still to come. -/
structure SinDespertarPerdido : Prop where
  ready : s.pcp = .esperarReady → s.k.semReady = 0 → s.k.enReady ≠ [] → ∃ pid, Deuda.encolado pid ∈ s.deudas
  cpu : s.pcp = .esperarCpu ∨ s.pcp = .reintentar → s.k.semCpuDisponible = 0 → hayCpuLibre s.k.cpus →
    ∃ cpuId, Deuda.liberada cpuId ∈ s.deudas ∨ Deuda.conectada cpuId ∈ s.deudas

/-! ## Sections with their posts -/

theorem k_pagar_retirar (cpuId : ℕ) :
    ((s.deber { s.k with cpus := (retirarProcesoDeCpu s.k.cpus cpuId).2 } (.liberada cpuId)).pagar
      (.liberada cpuId)).k = (s.k.retirarProceso cpuId).2 :=
  rfl

/-- An eviction whose post comes at once is the one of the whole scheduler. -/
theorem k_pagar_encolado {pid : Pid} {k : KernelScheduler} (h : s.k.meterEnReady pid true = some k) :
    ((s.deber k (.encolado pid)).pagar (.encolado pid)).k = s.k.encolarDesalojado pid := by
  unfold meterEnReady at h
  unfold encolarDesalojado reencolarProcesoReadyInicio
  simp only at h ⊢
  split at h
  · rename_i hniveles
    split at h
    · rename_i hvalido
      cases h
      rw [if_pos hniveles, if_pos hvalido]
      rfl
    · cases h
  · rename_i hniveles
    cases h
    rw [if_neg hniveles]
    rfl

/-- Taking a process and sending it with nothing in between is the dispatch of the whole scheduler. -/
theorem k_enviar_sacar {s₁ s₂ : Despertares} {pid : Pid} {ahora : ℤ} (hsacar : s.pcp = .sacar)
    (h₁ : s.planificar ahora = some s₁) (henviar : s₁.pcp = .enviar pid) (h₂ : s₁.planificar ahora = some s₂)
    (henviado : s₂.pcp = .esperarReady) :
    { s₂.k with fasePcp := .esperarReady } = s.k.despachar ahora := by
  unfold planificar at h₁ h₂
  unfold KernelScheduler.despachar
  simp only [hsacar] at h₁
  simp only [henviar] at h₂
  generalize s.k.obtenerProximoProcesoReady = proximo at h₁ ⊢
  obtain ⟨proceso, k⟩ := proximo
  cases proceso with
  | none =>
    cases h₁
    cases henviar
  | some otro =>
    simp only at h₁ ⊢
    split at h₁
    · cases h₁
      cases henviar
    rename_i hvalido
    cases h₁
    cases henviar
    rw [if_neg hvalido]
    simp only at h₂
    cases helegir : elegirCpu k.cpus pid with
    | mk cpu cpus =>
      rw [helegir] at h₂
      cases cpu with
      | none =>
        cases h₂
        cases henviado
      | some cpu =>
        cases h₂
        simp only
        unfold ponerEnExec
        cases cpu.socket with
        | none => split <;> rfl
        | some socket => split <;> rfl

/-! ## The invariant -/

end Despertares

def Deuda.DeReady : Deuda → Bool
  | .encolado _ => true
  | _ => false

def Deuda.DeCpu : Deuda → Bool
  | .liberada _ | .conectada _ => true
  | _ => false

/-- The wake-ups of READY that the planner holds or is about to give. -/
def PuntoPcp.turnos : PuntoPcp → ℕ
  | .despierto | .mirarCpus | .devolver _ | .sacar => 1
  | .publicar posts => posts
  | _ => 0

/-- The planner has found no free CPU and has not waited since. -/
def PuntoPcp.EsperaCpu : PuntoPcp → Prop
  | .devolver true | .esperarCpu | .reintentar => True
  | _ => False

/-- The queues that enqueues use are those that the planner takes from. -/
structure KernelScheduler.ColasEnUso (k : KernelScheduler) : Prop where
  cmn : k.config.algoritmoGlobal = .cmn → 0 < k.cantidadNivelesPrioridad ∧ k.colaProcesosReady = []
  unica : k.config.algoritmoGlobal ≠ .cmn → k.colasReadyPorPrioridad = []

/-- The invariant: a wake-up in the semaphore, owed or in hand for each process in READY, and one for a CPU
that became free after the planner looked. -/
structure Despertares.Avisado (s : Despertares) : Prop where
  colas : s.k.ColasEnUso
  ready : s.k.enReady.length ≤ s.k.semReady + s.deudas.countP Deuda.DeReady + s.pcp.turnos
  cpu : s.pcp.EsperaCpu → hayCpuLibre s.k.cpus → 0 < s.k.semCpuDisponible + s.deudas.countP Deuda.DeCpu

/-! ## What the sections do to the queues and the table -/

section Tabla

variable {cpus : List TCpu} {cpuId : ℕ} {f : TCpu → TCpu} {pid : Pid}

theorem hayCpuLibre_iff : hayCpuLibre cpus ↔ ∃ c ∈ cpus, c.Libre := by
  unfold hayCpuLibre
  simp only [List.any_eq_true, decide_eq_true_eq]

theorem hayCpuLibre_modify {i : ℕ} (hf : ∀ c, (f c).Libre → c.Libre) (h : hayCpuLibre (cpus.modify i f)) :
    hayCpuLibre cpus := by
  obtain ⟨c', hc', hlibre⟩ := hayCpuLibre_iff.mp h
  obtain ⟨j, hj⟩ := List.getElem?_of_mem hc'
  obtain ⟨c, hc, rfl⟩ := ListModify.exists_of_getElem?_modify hj
  apply hayCpuLibre_iff.mpr
  refine ⟨c, List.mem_of_getElem? hc, ?_⟩
  split at hlibre
  · exact hf c hlibre
  · exact hlibre

/-- A section that frees no slot. -/
theorem hayCpuLibre_modificarCpu (hf : ∀ c, (f c).Libre → c.Libre) (h : hayCpuLibre (modificarCpu cpus cpuId f)) :
    hayCpuLibre cpus := by
  unfold modificarCpu at h
  split at h
  · exact h
  · exact hayCpuLibre_modify hf h

theorem hayCpuLibre_reservar (h : hayCpuLibre (retirarProcesoDeCpuReservando cpus cpuId).2) :
    hayCpuLibre cpus := by
  apply hayCpuLibre_modificarCpu _ h
  exact fun _ hlibre ↦ hlibre

theorem hayCpuLibre_volver (h : hayCpuLibre (devolverProcesoAMismaCpu cpus cpuId pid).2) : hayCpuLibre cpus := by
  unfold devolverProcesoAMismaCpu at h
  split at h
  · exact h
  · apply hayCpuLibre_modificarCpu _ h
    exact fun _ hlibre ↦ hlibre

theorem hayCpuLibre_desconectada (h : hayCpuLibre (marcarCpuDesconectada cpus cpuId)) : hayCpuLibre cpus := by
  apply hayCpuLibre_modificarCpu _ h
  exact fun _ hlibre ↦ nomatch hlibre.2

end Tabla

namespace KernelScheduler

variable {k k' : KernelScheduler} {pid : Pid} {prioridad : ℤ}

theorem enReady_modificarCola_perm {cola : List Pid} (h : k.colaDe prioridad = some cola)
    (f : List Pid → List Pid) :
    ((k.modificarCola prioridad f).enReady ++ cola).Perm (k.enReady ++ f cola) := by
  unfold enReady
  rw [List.append_assoc, List.append_assoc]
  exact (ListModify.flatten_modify_perm (colaDe_eq_some.mp h).2 f).append_left _

/-- A change that puts one process into the queue. -/
theorem enReady_meter_perm {cola : List Pid} (h : k.colaDe prioridad = some cola) {f : List Pid → List Pid}
    (hf : (f cola).Perm (pid :: cola)) : (k.modificarCola prioridad f).enReady.Perm (pid :: k.enReady) := by
  apply (List.perm_append_right_iff cola).mp
  calc
    List.Perm ((k.modificarCola prioridad f).enReady ++ cola) (k.enReady ++ f cola) :=
      enReady_modificarCola_perm h f
    List.Perm _ (k.enReady ++ pid :: cola) := hf.append_left _
    List.Perm _ (pid :: (k.enReady ++ cola)) := List.perm_middle

theorem NivelValido.colaDe (h : k.NivelValido prioridad) : ∃ cola, k.colaDe prioridad = some cola :=
  ⟨_, colaDe_eq_some.mpr ⟨h.1, List.getElem?_eq_getElem h.lt⟩⟩

theorem ColasEnUso.modificarCola (h : k.ColasEnUso) (prioridad : ℤ) (f : List Pid → List Pid) :
    (k.modificarCola prioridad f).ColasEnUso where
  cmn hcmn := by
    rw [cantidadNivelesPrioridad_modificarCola]
    exact h.cmn hcmn
  unica hno := by
    show k.colasReadyPorPrioridad.modify _ f = []
    rw [h.unica hno, List.modify_nil]

/-- Without levels the planner takes from the single queue. -/
theorem ColasEnUso.sinNiveles (h : k.ColasEnUso) (hcero : ¬ 0 < k.cantidadNivelesPrioridad) :
    k.config.algoritmoGlobal ≠ .cmn :=
  fun hcmn ↦ hcero (h.cmn hcmn).1

/-- Only the READY queues differ. -/
abbrev SalvoColas (k k' : KernelScheduler) : Prop :=
  k' = { k with colaProcesosReady := k'.colaProcesosReady, colasReadyPorPrioridad := k'.colasReadyPorPrioridad }

/-- An enqueue pushes one process. -/
theorem ColasEnUso.meter (h : k.ColasEnUso) {alFrente : Bool} (hk' : k.meterEnReady pid alFrente = some k') :
    k'.ColasEnUso ∧ k'.enReady.Perm (pid :: k.enReady) ∧ SalvoColas (k.cambiarEstado pid .ready) k' := by
  have hmete : ∀ cola : List Pid, (if alFrente then pid :: cola else cola ++ [pid]).Perm (pid :: cola) := by
    intro cola
    split
    · exact List.Perm.refl _
    · exact List.perm_append_singleton pid cola
  have hestado : (k.cambiarEstado pid .ready).ColasEnUso := ⟨h.cmn, h.unica⟩
  unfold meterEnReady at hk'
  simp only at hk'
  split at hk'
  · split at hk'
    · rename_i hvalido
      cases hk'
      obtain ⟨cola, hcola⟩ := hvalido.colaDe
      exact ⟨hestado.modificarCola _ _, enReady_meter_perm hcola (hmete cola), Eq.refl _⟩
    · cases hk'
  · rename_i hcero
    cases hk'
    have hno := hestado.sinNiveles hcero
    refine ⟨⟨fun hcmn ↦ absurd hcmn hno, fun _ ↦ h.unica hno⟩, ?_, Eq.refl _⟩
    exact (hmete k.colaProcesosReady).append_right _

/-- A process that changes its queue stays in READY, or is in no queue any more. -/
theorem ColasEnUso.reubicar (h : k.ColasEnUso) (pid : Pid) (anterior nueva : ℤ) :
    (k.reubicarProcesoEnReady pid anterior nueva).ColasEnUso ∧
      (k.reubicarProcesoEnReady pid anterior nueva).enReady.length ≤ k.enReady.length ∧
      SalvoColas k (k.reubicarProcesoEnReady pid anterior nueva) := by
  unfold reubicarProcesoEnReady
  split
  · exact ⟨h, Nat.le_refl _, Eq.refl _⟩
  split
  · exact ⟨h, Nat.le_refl _, Eq.refl _⟩
  rename_i cola hcola
  split
  swap
  · exact ⟨h, Nat.le_refl _, Eq.refl _⟩
  rename_i hmem
  have hmenos := (enReady_modificarCola_perm hcola fun cola ↦ cola.erase pid).length_eq
  have hborrada := List.length_erase_add_one hmem
  have hsin := h.modificarCola anterior fun cola ↦ cola.erase pid
  rw [List.length_append, List.length_append] at hmenos
  simp only
  split
  · exact ⟨hsin, by omega, Eq.refl _⟩
  rename_i otra hotra
  have hmas := (enReady_meter_perm (f := (· ++ [pid])) hotra (List.perm_append_singleton pid otra)).length_eq
  rw [List.length_cons] at hmas
  exact ⟨hsin.modificarCola nueva _, by omega, Eq.refl _⟩

/-- The planner finds no process only where there is none. -/
theorem ColasEnUso.sinProximo (h : k.ColasEnUso) (hproximo : k.obtenerProximoProcesoReady = (none, k')) :
    k' = k ∧ k.enReady = [] := by
  unfold obtenerProximoProcesoReady at hproximo
  split at hproximo
  · rename_i hcmn
    obtain ⟨hniveles, hunica⟩ := h.cmn hcmn
    rw [if_neg (Nat.ne_of_gt hniveles)] at hproximo
    unfold desencolarProcesoReady at hproximo
    split at hproximo
    · rename_i hninguna
      cases hproximo
      refine ⟨rfl, ?_⟩
      unfold enReady
      rw [hunica, List.nil_append, List.flatten_eq_nil_iff]
      intro cola hcola
      simpa using List.findIdx?_eq_none_iff.mp hninguna cola hcola
    · rename_i p hp
      obtain ⟨hlt, hcola, _⟩ := List.findIdx?_eq_some_iff_getElem.mp hp
      obtain ⟨pid, resto, hcola⟩ := List.exists_cons_of_ne_nil (of_decide_eq_true hcola)
      rw [List.getElem?_eq_getElem hlt, hcola] at hproximo
      cases (Prod.mk.inj hproximo).1
  · rename_i hcmn
    unfold popReady at hproximo
    split at hproximo
    · rename_i hvacia
      cases hproximo
      refine ⟨rfl, ?_⟩
      unfold enReady
      rw [hvacia, h.unica hcmn]
      rfl
    · cases (Prod.mk.inj hproximo).1

/-- The process that the planner takes is out of READY. -/
theorem ColasEnUso.proximo (h : k.ColasEnUso) (hproximo : k.obtenerProximoProcesoReady = (some pid, k')) :
    k'.ColasEnUso ∧ k.enReady.Perm (pid :: k'.enReady) ∧ SalvoColas k k' := by
  unfold obtenerProximoProcesoReady at hproximo
  split at hproximo
  · rename_i hcmn
    obtain ⟨hniveles, hunica⟩ := h.cmn hcmn
    rw [if_neg (Nat.ne_of_gt hniveles)] at hproximo
    unfold desencolarProcesoReady at hproximo
    split at hproximo
    · cases (Prod.mk.inj hproximo).1
    · rename_i p hp
      obtain ⟨hlt, hcola, _⟩ := List.findIdx?_eq_some_iff_getElem.mp hp
      obtain ⟨primero, resto, hcola⟩ := List.exists_cons_of_ne_nil (of_decide_eq_true hcola)
      have hp? : k.colasReadyPorPrioridad[p]? = some (primero :: resto) := by
        rw [List.getElem?_eq_getElem hlt, hcola]
      obtain ⟨hpid, hk'⟩ := Prod.mk.inj hproximo
      rw [hp?] at hpid
      cases hpid
      cases hk'
      refine ⟨⟨fun _ ↦ ⟨?_, hunica⟩, fun hno ↦ absurd hcmn hno⟩, ?_, Eq.refl _⟩
      · show 0 < (k.colasReadyPorPrioridad.modify p List.tail).length
        rw [List.length_modify]
        exact hniveles
      · have hperm := ListModify.flatten_modify_perm hp? List.tail
        rw [List.tail_cons] at hperm
        have hcola : (pid :: (k.colasReadyPorPrioridad.modify p List.tail).flatten).Perm
            k.colasReadyPorPrioridad.flatten := by
          apply (List.perm_append_right_iff resto).mp
          exact List.perm_middle.symm.trans hperm
        exact (hcola.symm.append_left _).trans List.perm_middle
  · rename_i hcmn
    unfold popReady at hproximo
    split at hproximo
    · cases (Prod.mk.inj hproximo).1
    · rename_i primero resto hcola
      cases hproximo
      refine ⟨⟨fun hno ↦ absurd hno hcmn, h.unica⟩, ?_, Eq.refl _⟩
      unfold enReady
      rw [hcola]
      exact List.Perm.refl _

/-- A dispatch that failed puts the process back, with a wake-up for it among the posts that follow. -/
theorem ColasEnUso.devolver (h : k.ColasEnUso) (pid : Pid) :
    (k.devolverAReady pid).1.ColasEnUso ∧ SalvoColas k (k.devolverAReady pid).1 ∧
      (k.devolverAReady pid).1.enReady.length ≤ k.enReady.length + 1 ∧ 1 ≤ (k.devolverAReady pid).2 := by
  unfold devolverAReady
  split
  · split
    · rename_i hvalido
      obtain ⟨cola, hcola⟩ := hvalido.colaDe
      have hmas := (enReady_meter_perm hcola (List.Perm.refl (pid :: cola))).length_eq
      exact ⟨h.modificarCola _ _, Eq.refl _, hmas.le, Nat.le_succ 1⟩
    · exact ⟨h, Eq.refl _, Nat.le_succ _, Nat.le_refl 1⟩
  rename_i hcmn
  split
  · refine ⟨⟨fun hno ↦ absurd hno hcmn, h.unica⟩, Eq.refl _, ?_, Nat.le_refl 1⟩
    simp only [enReady, List.length_append, List.length_singleton]
    omega
  · refine ⟨⟨fun hno ↦ absurd hno hcmn, h.unica⟩, Eq.refl _, ?_, Nat.le_refl 1⟩
    simp only [enReady, List.cons_append, List.length_cons]
    exact Nat.le_refl _

/-- The queues after the initialization. -/
theorem colas_inicial (config : ConfigScheduler)
    (hniveles : config.planificationAlgorithm = .cmn → 0 < config.cantidadColas) :
    (KernelScheduler.inicial config).ColasEnUso ∧ (KernelScheduler.inicial config).enReady = [] := by
  have hcmn : config.algoritmoGlobal = .cmn ↔ config.planificationAlgorithm = .cmn := by
    unfold ConfigScheduler.algoritmoGlobal
    cases config.planificationAlgorithm <;> decide
  unfold enReady KernelScheduler.inicial
  by_cases hplan : config.planificationAlgorithm = .cmn
  · have hpos := hniveles hplan
    refine ⟨⟨fun _ ↦ ⟨?_, rfl⟩, fun hno ↦ absurd (hcmn.mpr hplan) hno⟩, ?_⟩
    · show 0 < (if config.planificationAlgorithm = .cmn then _ else _ : List (List Pid)).length
      rw [if_pos hplan, List.length_replicate]
      unfold maxPriorityLevels
      omega
    · simp only [if_pos hplan, List.nil_append, List.flatten_replicate_nil]
  · refine ⟨⟨fun hsi ↦ absurd (hcmn.mp hsi) hplan, fun _ ↦ if_neg hplan⟩, ?_⟩
    simp only [if_neg hplan, List.flatten_nil, List.append_nil]

/-- A dispatch leaves the READY queues and the semaphores alone. -/
theorem ponerEnExec_ready (k : KernelScheduler) (pid : Pid) (cpu : TCpu) (ahora : ℤ) (quantum : UInt32)
    (rr : Bool) (h : k.ColasEnUso) : (k.ponerEnExec pid cpu ahora quantum rr).ColasEnUso ∧
      (k.ponerEnExec pid cpu ahora quantum rr).enReady = k.enReady ∧
      (k.ponerEnExec pid cpu ahora quantum rr).semReady = k.semReady := by
  unfold ponerEnExec
  cases cpu.socket with
  | none => cases rr <;> exact ⟨⟨h.cmn, h.unica⟩, rfl, rfl⟩
  | some socket => cases rr <;> exact ⟨⟨h.cmn, h.unica⟩, rfl, rfl⟩

end KernelScheduler

namespace Despertares

variable {s s' : Despertares}

/-! ## One step -/

/-- A statement of the planner before which it has not given up on the CPUs. -/
theorem Avisado.de_planificador (h : s.Avisado) {k : KernelScheduler} {pcp : PuntoPcp} (hcolas : k.ColasEnUso)
    (hready : k.enReady.length + s.k.semReady + s.pcp.turnos ≤ s.k.enReady.length + k.semReady + pcp.turnos)
    (hcpu : ¬ pcp.EsperaCpu) : Avisado { s with k := k, pcp := pcp } := by
  have hantes := h.ready
  refine ⟨hcolas, ?_, fun hespera ↦ absurd hespera hcpu⟩
  show k.enReady.length ≤ k.semReady + s.deudas.countP Deuda.DeReady + pcp.turnos
  omega

section Planificador

variable {ahora : ℤ}

theorem Avisado.esperarReady (h : s.Avisado) (hpcp : s.pcp = .esperarReady) (hpaso : s.planificar ahora = some s') :
    s'.Avisado := by
  have hcolas := h.colas
  unfold Despertares.planificar at hpaso
  simp only [hpcp] at hpaso
  split at hpaso
  · cases hpaso
  rename_i hpos
  cases hpaso
  have huso : ColasEnUso { s.k with semReady := s.k.semReady - 1 } := ⟨hcolas.cmn, hcolas.unica⟩
  apply h.de_planificador huso _ id
  rw [hpcp]
  show s.k.enReady.length + s.k.semReady + 0 ≤ s.k.enReady.length + (s.k.semReady - 1) + 1
  omega

/-- A look at the CPUs. -/
theorem Avisado.mirar (h : s.Avisado) {siLibre siNo : PuntoPcp} (hlibre : siLibre.turnos = s.pcp.turnos)
    (hno : siNo.turnos = s.pcp.turnos) (hcpu : ¬ siLibre.EsperaCpu) :
    Avisado { s with pcp := if hayCpuLibre s.k.cpus then siLibre else siNo } := by
  have hready := h.ready
  cases hhay : hayCpuLibre s.k.cpus with
  | true => exact h.de_planificador h.colas (by rw [if_pos rfl, hlibre]) hcpu
  | false =>
    refine ⟨h.colas, ?_, fun _ hlibres ↦ ?_⟩
    · show s.k.enReady.length ≤ s.k.semReady + s.deudas.countP Deuda.DeReady + siNo.turnos
      rw [hno]
      exact hready
    · rw [hhay] at hlibres
      cases hlibres

theorem Avisado.devolver (h : s.Avisado) {sinCpu : Bool} (hpcp : s.pcp = .devolver sinCpu)
    (hpaso : s.planificar ahora = some s') : s'.Avisado := by
  have hcolas := h.colas
  unfold Despertares.planificar at hpaso
  simp only [hpcp] at hpaso
  cases hpaso
  have huso : ColasEnUso { s.k with semReady := s.k.semReady + 1 } := ⟨hcolas.cmn, hcolas.unica⟩
  have hready := h.ready
  rw [hpcp] at hready
  cases sinCpu with
  | true =>
    have hcpu := h.cpu
    rw [hpcp] at hcpu
    refine ⟨huso, ?_, hcpu⟩
    show s.k.enReady.length ≤ s.k.semReady + 1 + s.deudas.countP Deuda.DeReady + 0
    simp only [PuntoPcp.turnos] at hready
    omega
  | false =>
    apply h.de_planificador huso _ id
    rw [hpcp]
    exact Nat.le_refl _

theorem Avisado.sacar (h : s.Avisado) (hpcp : s.pcp = .sacar) (hpaso : s.planificar ahora = some s') :
    s'.Avisado := by
  have hcolas := h.colas
  unfold Despertares.planificar at hpaso
  simp only [hpcp] at hpaso
  cases hproximo : s.k.obtenerProximoProcesoReady with
  | mk proceso k =>
    rw [hproximo] at hpaso
    cases proceso with
    | none =>
      cases hpaso
      obtain ⟨rfl, hvacio⟩ := hcolas.sinProximo hproximo
      refine ⟨hcolas, ?_, fun hespera ↦ absurd hespera id⟩
      show s.k.enReady.length ≤ _
      rw [hvacio]
      exact Nat.zero_le _
    | some pid =>
      obtain ⟨hsacado, hperm, hsalvo⟩ := hcolas.proximo hproximo
      have hlargo := hperm.length_eq
      rw [List.length_cons] at hlargo
      have hsem : k.semReady = s.k.semReady := by rw [hsalvo]
      have hmenos : k.enReady.length + s.k.semReady + 1 ≤ s.k.enReady.length + k.semReady + 0 := by omega
      simp only at hpaso
      split at hpaso
      · cases hpaso
        exact h.de_planificador hsacado (by rw [hpcp]; exact hmenos) id
      · cases hpaso
        exact h.de_planificador hsacado (by rw [hpcp]; exact hmenos) id

theorem Avisado.enviar (h : s.Avisado) {pid : Pid} (hpcp : s.pcp = .enviar pid)
    (hpaso : s.planificar ahora = some s') : s'.Avisado := by
  have hcolas := h.colas
  unfold Despertares.planificar at hpaso
  simp only [hpcp] at hpaso
  cases helegir : elegirCpu s.k.cpus pid with
  | mk cpu cpus =>
    rw [helegir] at hpaso
    cases cpu with
    | none =>
      cases hpaso
      exact h.de_planificador hcolas (by rw [hpcp]; exact Nat.le_refl _) id
    | some cpu =>
      cases hpaso
      obtain ⟨huso, hready, hsem⟩ := ponerEnExec_ready { s.k with cpus := cpus } pid cpu ahora
        (s.k.config.quantumDeDespacho (s.k.pcbs pid).prioridad).1
        (s.k.config.quantumDeDespacho (s.k.pcbs pid).prioridad).2 ⟨hcolas.cmn, hcolas.unica⟩
      apply h.de_planificador huso _ id
      rw [hpcp, hready, hsem]
      exact Nat.le_refl _

theorem Avisado.reencolar (h : s.Avisado) {pid : Pid} (hpcp : s.pcp = .reencolar pid)
    (hpaso : s.planificar ahora = some s') : s'.Avisado := by
  have hcolas := h.colas
  unfold Despertares.planificar at hpaso
  simp only [hpcp] at hpaso
  cases hpaso
  obtain ⟨huso, hsalvo, hmas, hposts⟩ := hcolas.devolver pid
  have hsem : (s.k.devolverAReady pid).1.semReady = s.k.semReady := by rw [hsalvo]
  apply h.de_planificador huso _ id
  rw [hpcp, hsem]
  simp only [PuntoPcp.turnos]
  omega

theorem Avisado.publicar (h : s.Avisado) {posts : ℕ} (hpcp : s.pcp = .publicar posts)
    (hpaso : s.planificar ahora = some s') : s'.Avisado := by
  have hcolas := h.colas
  unfold Despertares.planificar at hpaso
  simp only [hpcp] at hpaso
  cases posts with
  | zero =>
    cases hpaso
    exact h.de_planificador hcolas (by rw [hpcp]; exact Nat.le_refl _) id
  | succ posts =>
    cases hpaso
    have huso : ColasEnUso { s.k with semReady := s.k.semReady + 1 } := ⟨hcolas.cmn, hcolas.unica⟩
    apply h.de_planificador huso _ id
    rw [hpcp]
    show s.k.enReady.length + s.k.semReady + (posts + 1) ≤ s.k.enReady.length + (s.k.semReady + 1) + posts
    omega

/-- The planner, one statement after the other. -/
theorem Avisado.planificar (h : s.Avisado) (hpaso : s.planificar ahora = some s') : s'.Avisado := by
  have hcolas := h.colas
  cases hpcp : s.pcp with
  | esperarReady => exact h.esperarReady hpcp hpaso
  | despierto =>
    simp only [Despertares.planificar, hpcp] at hpaso
    cases hpaso
    cases s.k.compactacionEnProgreso with
    | true => exact h.de_planificador hcolas (by rw [hpcp]; exact Nat.le_refl _) id
    | false => exact h.de_planificador hcolas (by rw [hpcp]; exact Nat.le_refl _) id
  | mirarCpus =>
    simp only [Despertares.planificar, hpcp] at hpaso
    cases hpaso
    exact h.mirar (by rw [hpcp]; rfl) (by rw [hpcp]; rfl) id
  | devolver sinCpu => exact h.devolver hpcp hpaso
  | esperarCpu =>
    simp only [Despertares.planificar, hpcp] at hpaso
    split at hpaso
    · cases hpaso
    cases hpaso
    exact h.de_planificador ⟨hcolas.cmn, hcolas.unica⟩ (by rw [hpcp]; exact Nat.le_refl _) id
  | sacar => exact h.sacar hpcp hpaso
  | enviar pid => exact h.enviar hpcp hpaso
  | reencolar pid => exact h.reencolar hpcp hpaso
  | publicar posts => exact h.publicar hpcp hpaso
  | probarCpu =>
    simp only [Despertares.planificar, hpcp] at hpaso
    cases hpaso
    exact h.mirar (by rw [hpcp]; rfl) (by rw [hpcp]; rfl) id
  | reintentar =>
    simp only [Despertares.planificar, hpcp] at hpaso
    split at hpaso
    · cases hpaso
    cases hpaso
    exact h.de_planificador ⟨hcolas.cmn, hcolas.unica⟩ (by rw [hpcp]; exact Nat.le_refl _) id

end Planificador

/-- A section or a post of another thread. -/
theorem Avisado.de_otro (h : s.Avisado) {k : KernelScheduler} {deudas : List Deuda} (hcolas : k.ColasEnUso)
    (hready : k.enReady.length + (s.k.semReady + s.deudas.countP Deuda.DeReady) ≤
      s.k.enReady.length + (k.semReady + deudas.countP Deuda.DeReady))
    (hcpu : hayCpuLibre k.cpus → 0 < k.semCpuDisponible + deudas.countP Deuda.DeCpu ∨
      (hayCpuLibre s.k.cpus ∧ s.k.semCpuDisponible + s.deudas.countP Deuda.DeCpu ≤
        k.semCpuDisponible + deudas.countP Deuda.DeCpu)) :
    Avisado { s with k := k, deudas := deudas } := by
  have hantes := h.ready
  refine ⟨hcolas, ?_, fun hespera hlibre ↦ ?_⟩
  · show k.enReady.length ≤ k.semReady + deudas.countP Deuda.DeReady + s.pcp.turnos
    omega
  · show 0 < k.semCpuDisponible + deudas.countP Deuda.DeCpu
    obtain hpost | ⟨hlibreAntes, hmas⟩ := hcpu hlibre
    · exact hpost
    · exact Nat.lt_of_lt_of_le (h.cpu hespera hlibreAntes) hmas

/-- A section on the table that frees no slot. -/
theorem Avisado.conTabla (h : s.Avisado) {cpus : List TCpu} (hcpus : hayCpuLibre cpus → hayCpuLibre s.k.cpus) :
    Avisado { s with k := { s.k with cpus := cpus } } := by
  have huso : ColasEnUso { s.k with cpus := cpus } := ⟨h.colas.cmn, h.colas.unica⟩
  apply h.de_otro huso (Nat.le_refl _)
  exact fun hlibre ↦ .inr ⟨hcpus hlibre, Nat.le_refl _⟩

theorem countP_deber (deudas : List Deuda) (p : Deuda → Bool) (d : Deuda) :
    (deudas ++ [d]).countP p = deudas.countP p + if p d then 1 else 0 := by
  rw [List.countP_append, List.countP_singleton]

theorem countP_pagada {deudas : List Deuda} {d : Deuda} (hd : d ∈ deudas) (p : Deuda → Bool) :
    deudas.countP p = (deudas.erase d).countP p + if p d then 1 else 0 := by
  rw [(List.perm_cons_erase hd).countP_eq, List.countP_cons]

/-- A section on the table that owes the post of a release or of a new connection. -/
theorem Avisado.deberCpu (h : s.Avisado) (cpus : List TCpu) {d : Deuda} (hcpu : d.DeCpu = true) :
    Avisado (s.deber { s.k with cpus := cpus } d) := by
  have huso : ColasEnUso { s.k with cpus := cpus } := ⟨h.colas.cmn, h.colas.unica⟩
  have hcuantasReady := countP_deber s.deudas Deuda.DeReady d
  have hcuantasCpu := countP_deber s.deudas Deuda.DeCpu d
  rw [if_pos hcpu] at hcuantasCpu
  apply h.de_otro huso
  · show s.k.enReady.length + _ ≤ s.k.enReady.length + (s.k.semReady + _)
    omega
  · intro _
    apply Or.inl
    rw [hcuantasCpu]
    omega

theorem Avisado.pagar (h : s.Avisado) {d : Deuda} (hd : d ∈ s.deudas) : (s.pagar d).Avisado := by
  have hready := countP_pagada hd Deuda.DeReady
  have hcpu := countP_pagada hd Deuda.DeCpu
  have huso : ∀ semReady semCpu : ℕ,
      ColasEnUso { s.k with semReady := semReady, semCpuDisponible := semCpu } :=
    fun _ _ ↦ ⟨h.colas.cmn, h.colas.unica⟩
  cases d with
  | encolado pid =>
    apply h.de_otro (huso (s.k.semReady + 1) s.k.semCpuDisponible)
    · show s.k.enReady.length + _ ≤ s.k.enReady.length + (s.k.semReady + 1 + _)
      rw [hready]
      simp only [Deuda.DeReady, if_true]
      omega
    · intro hlibre
      refine .inr ⟨hlibre, ?_⟩
      rw [hcpu]
      exact Nat.le_refl _
  | finCompactacion =>
    apply h.de_otro (huso (s.k.semReady + 1) s.k.semCpuDisponible)
    · show s.k.enReady.length + _ ≤ s.k.enReady.length + (s.k.semReady + 1 + _)
      rw [hready]
      simp only [Deuda.DeReady, Bool.false_eq_true, if_false]
      omega
    · intro hlibre
      refine .inr ⟨hlibre, ?_⟩
      rw [hcpu]
      exact Nat.le_refl _
  | liberada cpuId =>
    apply h.de_otro (huso s.k.semReady (s.k.semCpuDisponible + 1))
    · rw [hready]
      exact Nat.le_refl _
    · exact fun _ ↦ .inl (Nat.lt_of_lt_of_le (Nat.succ_pos _) (Nat.le_add_right _ _))
  | conectada cpuId =>
    apply h.de_otro (huso s.k.semReady (s.k.semCpuDisponible + 1))
    · rw [hready, countP_deber]
      exact Nat.le_refl _
    · exact fun _ ↦ .inl (Nat.lt_of_lt_of_le (Nat.succ_pos _) (Nat.le_add_right _ _))
  | mirarReady =>
    have hsinCambio : hayCpuLibre s.k.cpus → hayCpuLibre s.k.cpus ∧
        s.k.semCpuDisponible + s.deudas.countP Deuda.DeCpu ≤
          s.k.semCpuDisponible + (s.deudas.erase .mirarReady).countP Deuda.DeCpu := by
      intro hlibre
      rw [hcpu]
      exact ⟨hlibre, Nat.le_refl _⟩
    unfold Despertares.pagar
    simp only
    split
    · apply h.de_otro (huso (s.k.semReady + 1) s.k.semCpuDisponible)
      · show s.k.enReady.length + _ ≤ s.k.enReady.length + (s.k.semReady + 1 + _)
        rw [hready]
        simp only [Deuda.DeReady, Bool.false_eq_true, if_false]
        omega
      · exact fun hlibre ↦ .inr (hsinCambio hlibre)
    · apply h.de_otro h.colas
      · rw [hready]
        exact Nat.le_refl _
      · exact fun hlibre ↦ .inr (hsinCambio hlibre)

theorem Avisado.paso (h : s.Avisado) {e : EventoDespertar} (hpaso : s.paso e = some s') : s'.Avisado := by
  cases e with
  | planificador ahora => exact h.planificar hpaso
  | encolar pid alFrente =>
    cases hmeter : s.k.meterEnReady pid alFrente with
    | none =>
      simp only [Despertares.paso, hmeter] at hpaso
      cases hpaso
      exact h
    | some k =>
      simp only [Despertares.paso, hmeter] at hpaso
      cases hpaso
      obtain ⟨huso, hperm, hsalvo⟩ := h.colas.meter hmeter
      have hready : k.semReady = s.k.semReady := by
        rw [hsalvo]
        rfl
      have hcpu : k.semCpuDisponible = s.k.semCpuDisponible := by
        rw [hsalvo]
        rfl
      have hcpus : k.cpus = s.k.cpus := by
        rw [hsalvo]
        rfl
      have hlargo := hperm.length_eq
      rw [List.length_cons] at hlargo
      have hcuantas := countP_deber s.deudas Deuda.DeReady (.encolado pid)
      apply h.de_otro huso
      · rw [hcuantas, hready, hlargo]
        simp only [Deuda.DeReady, if_true]
        omega
      · intro hlibre
        rw [hcpus] at hlibre
        refine .inr ⟨hlibre, ?_⟩
        rw [countP_deber, hcpu]
        exact Nat.le_refl _
  | reubicar pid anterior nueva =>
    cases hpaso
    obtain ⟨huso, hlargo, hsalvo⟩ := h.colas.reubicar pid anterior nueva
    have hready : (s.k.reubicarProcesoEnReady pid anterior nueva).semReady = s.k.semReady := by rw [hsalvo]
    have hcpu : (s.k.reubicarProcesoEnReady pid anterior nueva).semCpuDisponible = s.k.semCpuDisponible := by
      rw [hsalvo]
    have hcpus : (s.k.reubicarProcesoEnReady pid anterior nueva).cpus = s.k.cpus := by rw [hsalvo]
    apply h.de_otro huso
    · rw [hready]
      exact Nat.add_le_add_right hlargo _
    · intro hlibre
      rw [hcpus] at hlibre
      refine .inr ⟨hlibre, ?_⟩
      rw [hcpu]
  | retirar cpuId =>
    cases hpaso
    exact h.deberCpu _ rfl
  | reservar cpuId =>
    cases hpaso
    exact h.conTabla hayCpuLibre_reservar
  | liberar cpuId =>
    cases hpaso
    exact h.deberCpu _ rfl
  | volver cpuId pid =>
    cases hpaso
    exact h.conTabla hayCpuLibre_volver
  | conectar socket cpuId =>
    cases hpaso
    exact h.deberCpu _ rfl
  | desconectar cpuId =>
    cases hpaso
    exact h.conTabla hayCpuLibre_desconectada
  | iniciarCompactacion =>
    cases hpaso
    have huso : s.k.manejarCompactacionInicio.ColasEnUso := ⟨h.colas.cmn, h.colas.unica⟩
    exact h.de_otro huso (Nat.le_refl _) fun hlibre ↦ .inr ⟨hlibre, Nat.le_refl _⟩
  | finalizarCompactacion =>
    cases hpaso
    have huso : ColasEnUso { s.k with compactacionEnProgreso := false } := ⟨h.colas.cmn, h.colas.unica⟩
    apply h.de_otro huso
    · rw [countP_deber]
      exact Nat.le_refl _
    · intro hlibre
      refine .inr ⟨hlibre, ?_⟩
      rw [countP_deber]
      exact Nat.le_refl _
  | pagar d =>
    obtain ⟨hd, hs'⟩ := Option.ite_none_right_eq_some.mp hpaso
    obtain rfl := Option.some.inj hs'
    exact h.pagar hd

theorem avisado_inicial (hs : s.Arranque) : s.Avisado := by
  obtain ⟨config, pcbs, hniveles, rfl⟩ := hs
  obtain ⟨huso, hvacias⟩ := colas_inicial config hniveles
  refine ⟨⟨huso.cmn, huso.unica⟩, ?_, fun hespera ↦ absurd hespera id⟩
  show (KernelScheduler.inicial config).enReady.length ≤ 0
  rw [hvacias]
  exact Nat.le_refl 0

/-- A wake-up that is owed is the one of an enqueue or of a release. -/
theorem Avisado.sinPerdidos (h : s.Avisado) : s.SinDespertarPerdido where
  ready hpcp hsem hready := by
    have hlargo := h.ready
    have hpos := List.length_pos_of_ne_nil hready
    rw [hpcp, hsem] at hlargo
    have hdebe : 0 < s.deudas.countP Deuda.DeReady := by
      simp only [PuntoPcp.turnos] at hlargo
      omega
    obtain ⟨d, hd, hde⟩ := List.countP_pos_iff.mp hdebe
    cases d with
    | encolado pid => exact ⟨pid, hd⟩
    | _ => cases hde
  cpu hpcp hsem hlibre := by
    have hespera : s.pcp.EsperaCpu := by
      obtain hpcp | hpcp := hpcp
      · rw [hpcp]
        trivial
      · rw [hpcp]
        trivial
    have hdebe := h.cpu hespera hlibre
    rw [hsem, Nat.zero_add] at hdebe
    obtain ⟨d, hd, hde⟩ := List.countP_pos_iff.mp hdebe
    cases d with
    | liberada cpuId => exact ⟨cpuId, .inl hd⟩
    | conectada cpuId => exact ⟨cpuId, .inr hd⟩
    | _ => cases hde

/-- The planner is never left waiting for a wake-up that was already given. -/
theorem sin_despertar_perdido {s : Despertares} (h : Reachable paso Arranque (fun _ _ ↦ True) s) :
    s.SinDespertarPerdido := by
  have havisado : s.Avisado := by
    apply h.invariant (P := Avisado)
    · exact fun _ hs ↦ avisado_inicial hs
    · exact fun _ _ _ hs _ hpaso ↦ hs.paso hpaso
  exact havisado.sinPerdidos

end Despertares

/-- CMN with two levels. -/
def configDosNiveles : ConfigScheduler := ⟨.cmn, 2, [.rr, .fifo], false, 2000, 0⟩

/-- After a dispatch that failed the planner waits for a CPU while one has just connected. -/
theorem Despertares.sin_despertar_perdido_tras_fallo : ∃ s, Reachable paso Arranque (fun _ _ ↦ True) s ∧
    (s.pcp = .reintentar ∧ s.k.semCpuDisponible = 0 ∧ hayCpuLibre s.k.cpus) ∧ s.SinDespertarPerdido := by
  have hinicio : Reachable paso Arranque (fun _ _ ↦ True)
      ⟨{ KernelScheduler.inicial configDosNiveles with pcbs := fun _ ↦ .libre }, .esperarReady, []⟩ :=
    .start ⟨_, _, fun _ ↦ by decide, rfl⟩
  obtain ⟨s, hs, hespera⟩ := hinicio.exists_of_runAllowed
    [.encolar 0 false, .pagar (.encolado 0), .conectar 4 1, .planificador 0, .planificador 0, .planificador 0,
      .desconectar 1, .planificador 0, .planificador 0, .planificador 0, .planificador 0, .planificador 0,
      .planificador 0, .planificador 0, .conectar 5 2]
    (fun s ↦ s.pcp = .reintentar ∧ s.k.semCpuDisponible = 0 ∧ hayCpuLibre s.k.cpus) (by decide)
  exact ⟨s, hs, hespera, sin_despertar_perdido hs⟩

end PlugAndPlay.Planificador
