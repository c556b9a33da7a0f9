import PlugAndPlay.Library.Inheritance
import PlugAndPlay.Library.ListModify
import PlugAndPlay.Library.Transitions
import PlugAndPlay.Planificador.SyscallsMutex

/-!
# Priority inheritance is exact

Whoever waits for a mutex waits for its holder. Along this relation every process inherits the dynamic
priorities of those that wait for it, and the incremental propagation of `MUTEX_LOCK` and the two
recalculations of `MUTEX_UNLOCK` keep that exact for all processes at once.
-/

open PlugAndPlay.Library

namespace PlugAndPlay.Planificador

namespace KernelScheduler

variable {k k' : KernelScheduler} {pid : Pid}

def prioridades (k : KernelScheduler) (pid : Pid) : ℤ := (k.pcbs pid).prioridad

def dinamicas (k : KernelScheduler) (pid : Pid) : ℤ := (k.pcbs pid).prioridadDinamica

/-- The first process is queued on a mutex that the second one holds. -/
def EsperaA (k : KernelScheduler) (espera poseedor : Pid) : Prop :=
  ∃ m ∈ k.listaMutexes, m.asignadoAPid = some poseedor ∧ espera ∈ m.colaBloqueados

/-- The dynamic priority is the least of the own priority and the dynamic priorities of all processes
queued on mutexes that the process holds. -/
def PrioridadExacta (k : KernelScheduler) (pid : Pid) : Prop :=
  Inheritance.Exact k.prioridades k.EsperaA k.dinamicas pid

/-- The process is in the queue of a mutex exactly when its `mutex_esperando` is that mutex. -/
def ColasExactas (k : KernelScheduler) : Prop :=
  ∀ pid ∈ k.todosLosProcesos, ∀ i, (k.pcbs pid).mutexEsperando = some i ↔
    ∃ m, k.listaMutexes[i]? = some m ∧ pid ∈ m.colaBloqueados

theorem mem_esperanA {espera : Pid} : espera ∈ k.esperanA pid ↔ k.EsperaA espera pid := by
  simp only [esperanA, EsperaA, List.mem_flatMap, List.mem_filter, decide_eq_true_eq, and_assoc]

/-! ## Queues and holders -/

/-- What ties the queues, the holders and `mutex_esperando` together. -/
structure EsperasCoherentes (k : KernelScheduler) : Prop where
  libre : k.mutexListaMutexes = false
  colas : k.ColasExactas
  unaVez : ∀ m ∈ k.listaMutexes, m.colaBloqueados.Nodup
  bloqueados : ∀ pid ∈ k.todosLosProcesos, (k.pcbs pid).mutexEsperando ≠ none →
    (k.pcbs pid).estado = .block
  registrados : ∀ m ∈ k.listaMutexes, ∀ pid ∈ m.colaBloqueados, pid ∈ k.todosLosProcesos
  poseedores : ∀ m ∈ k.listaMutexes, ∀ pid ∈ m.asignadoAPid, pid ∈ k.todosLosProcesos
  poseidos : ∀ m ∈ k.listaMutexes, m.asignadoAPid = none → m.colaBloqueados = []

/-- Priorities and the states of processes that do not wait play no role. -/
theorem EsperasCoherentes.congr (h : k.EsperasCoherentes)
    (hlock : k'.mutexListaMutexes = k.mutexListaMutexes)
    (htodos : k'.todosLosProcesos = k.todosLosProcesos) (hlista : k'.listaMutexes = k.listaMutexes)
    (hespera : ∀ pid ∈ k.todosLosProcesos,
      (k'.pcbs pid).mutexEsperando = (k.pcbs pid).mutexEsperando)
    (hestado : ∀ pid ∈ k.todosLosProcesos, (k.pcbs pid).mutexEsperando ≠ none →
      (k'.pcbs pid).estado = (k.pcbs pid).estado) : k'.EsperasCoherentes where
  libre := by rw [hlock, h.libre]
  colas := by
    unfold ColasExactas
    rw [htodos, hlista]
    intro pid hpid i
    rw [hespera pid hpid]
    exact h.colas pid hpid i
  unaVez := by rw [hlista]; exact h.unaVez
  bloqueados := by
    rw [htodos]
    intro pid hpid hno
    rw [hespera pid hpid] at hno
    rw [hestado pid hpid hno]
    exact h.bloqueados pid hpid hno
  registrados := by rw [hlista, htodos]; exact h.registrados
  poseedores := by rw [hlista, htodos]; exact h.poseedores
  poseidos := by rw [hlista]; exact h.poseidos

/-- A process that runs waits for nobody. -/
theorem EsperasCoherentes.noEspera (h : k.EsperasCoherentes) (hpid : pid ∈ k.todosLosProcesos)
    (hestado : (k.pcbs pid).estado ≠ .block) : (k.pcbs pid).mutexEsperando = none := by
  by_contra hno
  exact hestado (h.bloqueados pid hpid hno)

theorem EsperasCoherentes.registrado (h : k.EsperasCoherentes) {espera : Pid}
    (he : k.EsperaA espera pid) : espera ∈ k.todosLosProcesos := by
  obtain ⟨m, hm, _, hcola⟩ := he
  exact h.registrados m hm espera hcola

theorem EsperasCoherentes.not_esperaA (h : k.EsperasCoherentes)
    (hno : (k.pcbs pid).mutexEsperando = none) (poseedor : Pid) : ¬ k.EsperaA pid poseedor := by
  intro he
  have hpid := h.registrado he
  obtain ⟨m, hm, _, hcola⟩ := he
  obtain ⟨i, hi, rfl⟩ := List.getElem_of_mem hm
  have hespera := (h.colas pid hpid i).mpr ⟨_, List.getElem?_eq_getElem hi, hcola⟩
  rw [hno] at hespera
  cases hespera

/-- Whoever waits, waits for the holder of its mutex. -/
theorem EsperasCoherentes.esperaA_iff (h : k.EsperasCoherentes) (hpid : pid ∈ k.todosLosProcesos)
    {i : ℕ} (hespera : (k.pcbs pid).mutexEsperando = some i) :
    ∃ m poseedor, k.listaMutexes[i]? = some m ∧ m.asignadoAPid = some poseedor ∧
      poseedor ∈ k.todosLosProcesos ∧ ∀ otro, k.EsperaA pid otro ↔ otro = poseedor := by
  obtain ⟨m, hm, hcola⟩ := (h.colas pid hpid i).mp hespera
  have hmem := List.mem_of_getElem? hm
  obtain ⟨poseedor, hposee⟩ : ∃ poseedor, m.asignadoAPid = some poseedor := by
    apply Option.ne_none_iff_exists'.mp
    intro hlibre
    rw [h.poseidos m hmem hlibre] at hcola
    cases hcola
  refine ⟨m, poseedor, hm, hposee, h.poseedores m hmem poseedor hposee, fun otro ↦ ⟨?_, ?_⟩⟩
  · rintro ⟨m', hm', hotro, hcola'⟩
    obtain ⟨j, hj, rfl⟩ := List.getElem_of_mem hm'
    have hespera' := (h.colas pid hpid j).mpr ⟨_, List.getElem?_eq_getElem hj, hcola'⟩
    obtain rfl := Option.some.inj (hespera.symm.trans hespera')
    obtain rfl := Option.some.inj (hm.symm.trans (List.getElem?_eq_getElem hj))
    exact Option.some.inj (hotro.symm.trans hposee)
  · rintro rfl
    exact ⟨m, hmem, hposee, hcola⟩

/-! ## Changes of dynamic priorities -/

/-- Only dynamic priorities differ, and what moves in READY. -/
structure SalvoDinamicas (k k' : KernelScheduler) : Prop where
  resto : k' = { k with
    pcbs := k'.pcbs
    colaProcesosReady := k'.colaProcesosReady
    colasReadyPorPrioridad := k'.colasReadyPorPrioridad
    semReady := k'.semReady
    enviados := k'.enviados }
  pcbs : ∀ pid, k'.pcbs pid = { k.pcbs pid with prioridadDinamica := (k'.pcbs pid).prioridadDinamica }

theorem SalvoDinamicas.rfl : SalvoDinamicas k k := ⟨Eq.refl k, fun _ ↦ Eq.refl _⟩

theorem SalvoDinamicas.trans {k'' : KernelScheduler} (h : SalvoDinamicas k k')
    (h' : SalvoDinamicas k' k'') : SalvoDinamicas k k'' := by
  refine ⟨?_, fun pid ↦ ?_⟩
  · rw [h'.resto, h.resto]
  · rw [h'.pcbs pid, h.pcbs pid]

theorem SalvoDinamicas.todosLosProcesos (h : SalvoDinamicas k k') :
    k'.todosLosProcesos = k.todosLosProcesos :=
  (congrArg KernelScheduler.todosLosProcesos h.resto :)

theorem SalvoDinamicas.listaMutexes (h : SalvoDinamicas k k') :
    k'.listaMutexes = k.listaMutexes :=
  (congrArg KernelScheduler.listaMutexes h.resto :)

theorem SalvoDinamicas.mutexEsperando (h : SalvoDinamicas k k') (pid : Pid) :
    (k'.pcbs pid).mutexEsperando = (k.pcbs pid).mutexEsperando :=
  (congrArg Pcb.mutexEsperando (h.pcbs pid) :)

theorem SalvoDinamicas.estado (h : SalvoDinamicas k k') (pid : Pid) :
    (k'.pcbs pid).estado = (k.pcbs pid).estado :=
  (congrArg Pcb.estado (h.pcbs pid) :)

theorem SalvoDinamicas.prioridades (h : SalvoDinamicas k k') : k'.prioridades = k.prioridades := by
  funext pid
  exact (congrArg Pcb.prioridad (h.pcbs pid) :)

theorem SalvoDinamicas.esperaA (h : SalvoDinamicas k k') : k'.EsperaA = k.EsperaA := by
  unfold EsperaA
  rw [h.listaMutexes]

theorem SalvoDinamicas.coherentes (h : SalvoDinamicas k k') (hk : k.EsperasCoherentes) :
    k'.EsperasCoherentes :=
  hk.congr (congrArg KernelScheduler.mutexListaMutexes h.resto :) h.todosLosProcesos h.listaMutexes
    (fun pid _ ↦ h.mutexEsperando pid) (fun pid _ _ ↦ h.estado pid)

theorem salvoDinamicas_cambiar (k : KernelScheduler) (pid : Pid) (prioridad : ℤ) :
    SalvoDinamicas k (k.cambiarPrioridadDinamica pid prioridad) := by
  refine ⟨Eq.refl _, fun otro ↦ ?_⟩
  unfold cambiarPrioridadDinamica
  rw [pcbs_modificarPcb]
  split
  · rename_i hotro
    rw [hotro]
  · exact Eq.refl _

theorem dinamicas_cambiar (k : KernelScheduler) (pid : Pid) (prioridad : ℤ) :
    (k.cambiarPrioridadDinamica pid prioridad).dinamicas =
      Function.update k.dinamicas pid prioridad := by
  funext otro
  unfold dinamicas cambiarPrioridadDinamica
  rw [pcbs_modificarPcb, Function.update_apply]
  split <;> exact Eq.refl _

theorem SalvoReady.dinamicas (h : SalvoReady k k') : k'.dinamicas = k.dinamicas := by
  unfold KernelScheduler.dinamicas
  rw [h.pcbs]

theorem SalvoReady.salvoDinamicas (h : SalvoReady k k') : SalvoDinamicas k k' := by
  refine ⟨?_, fun pid ↦ ?_⟩
  · rw [h]
  · rw [h.pcbs]

theorem salvoDinamicas_asignar (k : KernelScheduler) (pid : Pid) (prioridad : ℤ) :
    SalvoDinamicas k (k.asignarPrioridadDinamica pid prioridad) := by
  unfold asignarPrioridadDinamica
  split
  · exact (salvoDinamicas_cambiar _ _ _).trans (salvoReady_reubicar _ _ _ _).salvoDinamicas
  · exact .rfl

theorem dinamicas_asignar (k : KernelScheduler) (pid : Pid) (prioridad : ℤ) :
    (k.asignarPrioridadDinamica pid prioridad).dinamicas =
      Function.update k.dinamicas pid prioridad := by
  unfold asignarPrioridadDinamica
  split
  · rw [(salvoReady_reubicar _ _ _ _).dinamicas, dinamicas_cambiar]
  · rename_i higual
    rw [not_not.mp higual]
    exact (Function.update_eq_self pid k.dinamicas).symm

/-! ## Propagation and recalculation -/

/-- All processes are exact, except that the one `pid` waits for may still have to inherit from it. -/
def HerenciaPendiente (k : KernelScheduler) (pid : Pid) : Prop :=
  Inheritance.Pending k.prioridades k.EsperaA (· ∈ k.todosLosProcesos) k.dinamicas pid

/-- The propagation follows the chain of holders to its end and leaves all processes exact. -/
theorem propagarHerencia_exacta (fuel : ℕ) (hk : k.EsperasCoherentes) (hpid : pid ∈ k.todosLosProcesos)
    (hpendiente : k.HerenciaPendiente pid) {aHeredar : ℤ} (hheredar : k.dinamicas pid = aHeredar)
    (hfuel : (k.todosLosProcesos.countP fun q ↦ aHeredar < k.dinamicas q) ≤ fuel) :
    SalvoDinamicas k (propagarHerencia fuel k pid aHeredar) ∧
      ∀ q ∈ k.todosLosProcesos, (propagarHerencia fuel k pid aHeredar).PrioridadExacta q := by
  induction fuel generalizing k pid with
  | zero =>
    refine ⟨.rfl, fun q hq ↦ hpendiente.exact (fun otro hotro _ ↦ ?_) hq⟩
    have hnadie := List.countP_eq_zero.mp (Nat.le_zero.mp hfuel) otro hotro
    rw [hheredar]
    simpa using hnadie
  | succ fuel ih =>
    unfold propagarHerencia
    cases hespera : (k.pcbs pid).mutexEsperando with
    | none =>
      refine ⟨.rfl, fun q hq ↦ hpendiente.exact (fun otro _ hotro ↦ ?_) hq⟩
      exact absurd hotro (hk.not_esperaA hespera otro)
    | some i =>
      obtain ⟨m, poseedor, hm, hposee, hreg, hiff⟩ := hk.esperaA_iff hpid hespera
      simp only [Option.bind_some, hm, hposee]
      split
      · rename_i hmayor
        let k₂ := (k.cambiarPrioridadDinamica poseedor aHeredar).reubicarProcesoEnReady poseedor
          (k.pcbs poseedor).prioridadDinamica aHeredar
        have hsalvo : SalvoDinamicas k k₂ :=
          (salvoDinamicas_cambiar _ _ _).trans (salvoReady_reubicar _ _ _ _).salvoDinamicas
        have hdinamicas : k₂.dinamicas = Function.update k.dinamicas poseedor aHeredar := by
          rw [← dinamicas_cambiar]
          exact (salvoReady_reubicar _ _ _ _).dinamicas
        have hreg₂ : poseedor ∈ k₂.todosLosProcesos := hsalvo.todosLosProcesos ▸ hreg
        have hpendiente₂ : k₂.HerenciaPendiente poseedor := by
          unfold HerenciaPendiente
          rw [hsalvo.prioridades, hsalvo.esperaA, hsalvo.todosLosProcesos, hdinamicas, ← hheredar]
          exact hpendiente.lower ((hiff poseedor).mpr (Eq.refl _)) (fun q ↦ (hiff q).mp)
            (by rw [hheredar]; exact hmayor.2)
        split
        · have hmenos : (k₂.todosLosProcesos.countP fun q ↦ aHeredar < k₂.dinamicas q) ≤ fuel := by
            rw [hsalvo.todosLosProcesos, hdinamicas]
            exact Nat.le_of_lt_succ (Nat.lt_of_lt_of_le
              (Inheritance.countP_update_lt hreg hmayor.2) hfuel)
          obtain ⟨hsalvo', hexacta⟩ := ih (hsalvo.coherentes hk) hreg₂ hpendiente₂
            (by rw [hdinamicas, Function.update_self]) hmenos
          refine ⟨hsalvo.trans hsalvo', fun q hq ↦ hexacta q ?_⟩
          rw [hsalvo.todosLosProcesos]
          exact hq
        · rename_i hnoEspera
          refine ⟨hsalvo, fun q hq ↦ hpendiente₂.exact (fun otro _ hotro ↦ ?_) ?_⟩
          · refine absurd hotro ((hsalvo.coherentes hk).not_esperaA ?_ otro)
            exact Option.not_isSome_iff_eq_none.mp hnoEspera
          · rw [hsalvo.todosLosProcesos]
            exact hq
      · rename_i hmenor
        refine ⟨.rfl, fun q hq ↦ hpendiente.exact (fun otro _ hotro ↦ ?_) hq⟩
        rw [(hiff otro).mp hotro, hheredar]
        exact not_lt.mp fun hlt ↦ hmenor ⟨hreg, hlt⟩

/-- As many turns as processes are enough. -/
theorem propagarHerenciaPrioridad_exacta (hk : k.EsperasCoherentes) (hpid : pid ∈ k.todosLosProcesos)
    (hpendiente : k.HerenciaPendiente pid) {aHeredar : ℤ} (hheredar : k.dinamicas pid = aHeredar) :
    SalvoDinamicas k (k.propagarHerenciaPrioridad pid aHeredar) ∧
      ∀ q ∈ k.todosLosProcesos, (k.propagarHerenciaPrioridad pid aHeredar).PrioridadExacta q :=
  propagarHerencia_exacta _ hk hpid hpendiente hheredar List.countP_le_length

theorem prioridad_maxPrioridad (k : KernelScheduler) (pid : Pid) :
    IsLeast (insert (k.prioridades pid) {d | ∃ w, k.EsperaA w pid ∧ k.dinamicas w = d})
      (k.maxPrioridad pid) := by
  have hleast := Inheritance.isLeast_foldl k.dinamicas (k.esperanA pid) (k.prioridades pid)
  simp only [mem_esperanA] at hleast
  exact hleast

/-- Recalculating a process that waits for nobody makes it exact and disturbs no other. -/
theorem recalcular_exacta (hk : k.EsperasCoherentes) (hno : (k.pcbs pid).mutexEsperando = none)
    (salvo : List Pid)
    (h : ∀ q ∈ k.todosLosProcesos, q ≠ pid → q ∉ salvo → k.PrioridadExacta q) :
    ∀ q ∈ k.todosLosProcesos, q ∉ salvo →
      (k.asignarPrioridadDinamica pid (k.maxPrioridad pid)).PrioridadExacta q := by
  have hsalvo := salvoDinamicas_asignar k pid (k.maxPrioridad pid)
  intro q hq hqsalvo
  unfold PrioridadExacta
  rw [hsalvo.prioridades, hsalvo.esperaA, dinamicas_asignar]
  have hotros : ∀ w, k.EsperaA w q → Function.update k.dinamicas pid (k.maxPrioridad pid) w =
      k.dinamicas w := by
    intro w hw
    apply Function.update_of_ne
    rintro rfl
    exact hk.not_esperaA hno q hw
  by_cases hqpid : q = pid
  · subst hqpid
    unfold Inheritance.Exact
    rw [Function.update_self]
    have higuales : {d | ∃ w, k.EsperaA w q ∧
        Function.update k.dinamicas q (k.maxPrioridad q) w = d} =
        {d | ∃ w, k.EsperaA w q ∧ k.dinamicas w = d} := by
      ext d
      refine exists_congr fun w ↦ and_congr_right fun hw ↦ ?_
      rw [hotros w hw]
    rw [higuales]
    exact prioridad_maxPrioridad k q
  · exact (h q hq hqpid hqsalvo).congr (Function.update_of_ne hqpid _ _) (fun _ ↦ Iff.rfl) hotros

/-! ## The steps of the mutex syscalls -/

/-- Queues and holders are in order and all processes inherit what they should. -/
structure Heredadas (k : KernelScheduler) : Prop extends k.EsperasCoherentes where
  exactas : ∀ q ∈ k.todosLosProcesos, k.PrioridadExacta q

theorem Heredadas.congr (h : k.Heredadas) (hk' : k'.EsperasCoherentes)
    (htodos : k'.todosLosProcesos = k.todosLosProcesos) (hprioridades : k'.prioridades = k.prioridades)
    (hdinamicas : k'.dinamicas = k.dinamicas) (hespera : ∀ w q, k'.EsperaA w q ↔ k.EsperaA w q) :
    k'.Heredadas := by
  refine ⟨hk', fun q hq ↦ ?_⟩
  rw [htodos] at hq
  unfold PrioridadExacta
  rw [hprioridades]
  exact (h.exactas q hq).congr (congrFun hdinamicas q) (hespera · q)
    (fun w _ ↦ congrFun hdinamicas w)

theorem pcbs_cambiarEstado (k : KernelScheduler) (pid : Pid) (estado : Estado) (q : Pid) :
    (k.cambiarEstado pid estado).pcbs q =
      { k.pcbs q with estado := if q = pid then estado else (k.pcbs q).estado } := by
  unfold cambiarEstado
  rw [pcbs_modificarPcb]
  split
  · rename_i hq
    rw [hq]
  · rfl

theorem EsperasCoherentes.encolar (h : k.EsperasCoherentes)
    (hno : (k.pcbs pid).mutexEsperando = none) :
    (k.encolarEnReadyYNotificar pid).EsperasCoherentes := by
  have hsalvo := salvoReady_encolar k pid
  apply h.congr hsalvo.mutexListaMutexes hsalvo.todosLosProcesos hsalvo.listaMutexes
  · intro q _
    rw [hsalvo.pcbs, pcbs_cambiarEstado]
  · intro q _ hespera
    rw [hsalvo.pcbs, pcbs_cambiarEstado]
    show (if q = pid then _ else _) = _
    rw [if_neg]
    rintro rfl
    exact hespera hno

theorem prioridades_encolar (k : KernelScheduler) (pid : Pid) :
    (k.encolarEnReadyYNotificar pid).prioridades = k.prioridades := by
  funext q
  unfold prioridades
  rw [(salvoReady_encolar k pid).pcbs, pcbs_cambiarEstado]

theorem dinamicas_encolar (k : KernelScheduler) (pid : Pid) :
    (k.encolarEnReadyYNotificar pid).dinamicas = k.dinamicas := by
  funext q
  unfold dinamicas
  rw [(salvoReady_encolar k pid).pcbs, pcbs_cambiarEstado]

theorem esperaA_encolar (k : KernelScheduler) (pid : Pid) :
    (k.encolarEnReadyYNotificar pid).EsperaA = k.EsperaA := by
  unfold EsperaA
  rw [(salvoReady_encolar k pid).listaMutexes]
  rfl

theorem Heredadas.encolar (h : k.Heredadas) (hno : (k.pcbs pid).mutexEsperando = none) :
    (k.encolarEnReadyYNotificar pid).Heredadas :=
  h.congr (h.toEsperasCoherentes.encolar hno) (salvoReady_encolar k pid).todosLosProcesos
    (prioridades_encolar k pid) (dinamicas_encolar k pid) fun w q ↦ by rw [esperaA_encolar]

/-- A new mutex has no holder and nobody waits for it. -/
theorem Heredadas.conMutexNuevo (h : k.Heredadas) (nombre : String) :
    (k.conMutexNuevo nombre).Heredadas := by
  have hmem : ∀ m ∈ (k.conMutexNuevo nombre).listaMutexes, m ∈ k.listaMutexes ∨
      m = ⟨nombre, none, []⟩ := by
    intro m hm
    exact (List.mem_append.mp hm).imp id List.mem_singleton.mp
  refine h.congr { h.toEsperasCoherentes with
    colas := ?_, unaVez := ?_, registrados := ?_, poseedores := ?_, poseidos := ?_ } rfl rfl rfl ?_
  · intro q hq i
    refine (h.colas q hq i).trans ⟨?_, ?_⟩
    · rintro ⟨m, hm, hcola⟩
      refine ⟨m, ?_, hcola⟩
      exact (List.getElem?_append_left (List.getElem?_eq_some_iff.mp hm).1).trans hm
    · rintro ⟨m, hm, hcola⟩
      have hm : (k.listaMutexes ++ [⟨nombre, none, []⟩])[i]? = some m := hm
      refine ⟨m, ?_, hcola⟩
      rcases Nat.lt_or_ge i k.listaMutexes.length with hi | hi
      · rwa [List.getElem?_append_left hi] at hm
      · rw [List.getElem?_append_right hi] at hm
        obtain rfl := List.mem_singleton.mp (List.mem_of_getElem? hm)
        cases hcola
  · intro m hm
    rcases hmem m hm with hm | rfl
    · exact h.unaVez m hm
    · exact List.nodup_nil
  · intro m hm q hq
    rcases hmem m hm with hm | rfl
    · exact h.registrados m hm q hq
    · cases hq
  · intro m hm q hq
    rcases hmem m hm with hm | rfl
    · exact h.poseedores m hm q hq
    · cases hq
  · intro m hm hlibre
    rcases hmem m hm with hm | rfl
    · exact h.poseidos m hm hlibre
    · rfl
  · intro w q
    constructor
    · rintro ⟨m, hm, hposee, hcola⟩
      rcases hmem m hm with hm | rfl
      · exact ⟨m, hm, hposee, hcola⟩
      · cases hcola
    · rintro ⟨m, hm, hposee, hcola⟩
      exact ⟨m, List.mem_append_left _ hm, hposee, hcola⟩

/-! ### One mutex changes -/

/-- The first process is queued on a mutex other than the given one that the second one holds. -/
def EsperaFuera (k : KernelScheduler) (i : ℕ) (espera poseedor : Pid) : Prop :=
  ∃ j m, j ≠ i ∧ k.listaMutexes[j]? = some m ∧ m.asignadoAPid = some poseedor ∧
    espera ∈ m.colaBloqueados

variable {i : ℕ} {m m' : MutexSistema}

theorem esperaA_iff_fuera (hm : k.listaMutexes[i]? = some m) (w q : Pid) :
    k.EsperaA w q ↔ k.EsperaFuera i w q ∨ (m.asignadoAPid = some q ∧ w ∈ m.colaBloqueados) := by
  constructor
  · rintro ⟨otro, hotro, hposee, hw⟩
    obtain ⟨j, hj⟩ := List.getElem?_of_mem hotro
    by_cases hji : j = i
    · subst hji
      obtain rfl := Option.some.inj (hm.symm.trans hj)
      exact .inr ⟨hposee, hw⟩
    · exact .inl ⟨j, otro, hji, hj, hposee, hw⟩
  · rintro (⟨j, otro, _, hj, hposee, hw⟩ | ⟨hposee, hw⟩)
    · exact ⟨otro, List.mem_of_getElem? hj, hposee, hw⟩
    · exact ⟨m, List.mem_of_getElem? hm, hposee, hw⟩

theorem getElem?_set_mismo (hm : k.listaMutexes[i]? = some m)
    (hlista : k'.listaMutexes = k.listaMutexes.set i m') : k'.listaMutexes[i]? = some m' := by
  rw [hlista, List.getElem?_set_self (List.getElem?_eq_some_iff.mp hm).1]

theorem getElem?_set_otro (hlista : k'.listaMutexes = k.listaMutexes.set i m') {j : ℕ} (hj : j ≠ i) :
    k'.listaMutexes[j]? = k.listaMutexes[j]? := by
  rw [hlista, List.getElem?_set_ne hj.symm]

theorem esperaFuera_set (hlista : k'.listaMutexes = k.listaMutexes.set i m') (w q : Pid) :
    k'.EsperaFuera i w q ↔ k.EsperaFuera i w q := by
  unfold EsperaFuera
  refine exists_congr fun j ↦ exists_congr fun otro ↦ and_congr_right fun hj ↦ ?_
  rw [getElem?_set_otro hlista hj]

/-- Coherence with one mutex replaced and the processes that join or leave its queue updated. -/
theorem EsperasCoherentes.reemplazar (h : k.EsperasCoherentes) (hm : k.listaMutexes[i]? = some m)
    (hlista : k'.listaMutexes = k.listaMutexes.set i m')
    (hlock : k'.mutexListaMutexes = k.mutexListaMutexes)
    (htodos : k'.todosLosProcesos = k.todosLosProcesos) (hnodup : m'.colaBloqueados.Nodup)
    (hregistrados : ∀ q ∈ m'.colaBloqueados, q ∈ k.todosLosProcesos)
    (hposeedor : ∀ q ∈ m'.asignadoAPid, q ∈ k.todosLosProcesos)
    (hposeido : m'.asignadoAPid = none → m'.colaBloqueados = [])
    (hespera : ∀ q ∈ k.todosLosProcesos, ∀ j, (k'.pcbs q).mutexEsperando = some j ↔
      if j = i then q ∈ m'.colaBloqueados else (k.pcbs q).mutexEsperando = some j)
    (hestado : ∀ q ∈ k.todosLosProcesos, (k'.pcbs q).mutexEsperando ≠ none →
      (k'.pcbs q).estado = .block) : k'.EsperasCoherentes := by
  have hmem : ∀ otro ∈ k'.listaMutexes, otro ∈ k.listaMutexes ∨ otro = m' := by
    rw [hlista]
    exact fun otro hotro ↦ List.mem_or_eq_of_mem_set hotro
  refine ⟨by rw [hlock, h.libre], ?_, ?_, ?_, ?_, ?_, ?_⟩
  · unfold ColasExactas
    rw [htodos]
    intro q hq j
    rw [hespera q hq j]
    by_cases hji : j = i
    · subst hji
      rw [if_pos rfl, getElem?_set_mismo hm hlista]
      simp
    · rw [if_neg hji, getElem?_set_otro hlista hji]
      exact h.colas q hq j
  · intro otro hotro
    rcases hmem otro hotro with hotro | rfl
    · exact h.unaVez otro hotro
    · exact hnodup
  · rw [htodos]
    exact hestado
  · rw [htodos]
    intro otro hotro
    rcases hmem otro hotro with hotro | rfl
    · exact h.registrados otro hotro
    · exact hregistrados
  · rw [htodos]
    intro otro hotro
    rcases hmem otro hotro with hotro | rfl
    · exact h.poseedores otro hotro
    · exact hposeedor
  · intro otro hotro
    rcases hmem otro hotro with hotro | rfl
    · exact h.poseidos otro hotro
    · exact hposeido

/-- A mutex for which nobody waits changes hands. -/
theorem Heredadas.cambiarPoseedor (h : k.Heredadas) (hm : k.listaMutexes[i]? = some m)
    (hcola : m.colaBloqueados = []) (nuevo : Option Pid)
    (hnuevo : ∀ pid ∈ nuevo, pid ∈ k.todosLosProcesos) :
    (k.modificarMutex i fun m ↦ { m with asignadoAPid := nuevo }).Heredadas := by
  have hlista : (k.modificarMutex i fun m ↦ { m with asignadoAPid := nuevo }).listaMutexes =
      k.listaMutexes.set i { m with asignadoAPid := nuevo } := ListModify.modify_eq_set hm
  have hnadie : ∀ w, w ∉ m.colaBloqueados := by
    intro w
    rw [hcola]
    exact List.not_mem_nil
  refine h.congr (h.reemplazar hm hlista rfl rfl ?_ ?_ hnuevo (fun _ ↦ hcola) ?_ h.bloqueados)
    rfl rfl rfl ?_
  · rw [hcola]
    exact List.nodup_nil
  · exact fun q hq ↦ absurd hq (hnadie q)
  · intro q hq j
    split
    · rename_i hji
      subst hji
      refine (h.colas q hq j).trans ?_
      simp [hm]
    · exact Iff.rfl
  · intro w q
    rw [esperaA_iff_fuera hm, esperaA_iff_fuera (getElem?_set_mismo hm hlista),
      esperaFuera_set hlista]
    simp [hnadie]

theorem EsperasCoherentes.not_mem_cola (h : k.EsperasCoherentes) (hpid : pid ∈ k.todosLosProcesos)
    (hm : k.listaMutexes[i]? = some m) (hno : (k.pcbs pid).mutexEsperando ≠ some i) :
    pid ∉ m.colaBloqueados :=
  fun hcola ↦ hno ((h.colas pid hpid i).mpr ⟨m, hm, hcola⟩)

/-- A process has joined the queue of a mutex and nobody inherited from it yet. -/
theorem Heredadas.esperarMutex (h : k.Heredadas) (hpid : pid ∈ k.todosLosProcesos)
    (hno : (k.pcbs pid).mutexEsperando = none) (hm : k.listaMutexes[i]? = some m) {poseedor : Pid}
    (hposee : m.asignadoAPid = some poseedor) :
    (k.esperarMutex pid i).EsperasCoherentes ∧ (k.esperarMutex pid i).HerenciaPendiente pid := by
  have hlista : (k.esperarMutex pid i).listaMutexes =
      k.listaMutexes.set i { m with colaBloqueados := m.colaBloqueados ++ [pid] } :=
    ListModify.modify_eq_set hm
  have hpcbs : ∀ q, (k.esperarMutex pid i).pcbs q =
      if q = pid then { k.pcbs pid with estado := .block, mutexEsperando := some i }
      else k.pcbs q :=
    pcbs_modificarPcb k pid fun p ↦ { p with estado := .block, mutexEsperando := some i }
  have hmmem := List.mem_of_getElem? hm
  constructor
  · refine h.reemplazar hm hlista rfl rfl ?_ ?_ ?_ ?_ ?_ ?_
    · refine List.nodup_append.mpr ⟨h.unaVez m hmmem, List.nodup_cons.mpr ⟨List.not_mem_nil, .nil⟩, ?_⟩
      rintro q hq _ hq' rfl
      rw [List.mem_singleton.mp hq'] at hq
      exact h.not_mem_cola hpid hm (by rw [hno]; exact (Option.some_ne_none i).symm) hq
    · intro q hq
      rcases List.mem_append.mp hq with hq | hq
      · exact h.registrados m hmmem q hq
      · rw [List.mem_singleton.mp hq]
        exact hpid
    · exact h.poseedores m hmmem
    · intro hlibre
      rw [hposee] at hlibre
      cases hlibre
    · intro q hq j
      rw [hpcbs]
      by_cases hqpid : q = pid
      · subst hqpid
        simp [hno, eq_comm]
      · rw [if_neg hqpid, List.mem_append, List.mem_singleton]
        simp only [hqpid, or_false]
        split
        · rename_i hji
          subst hji
          refine (h.colas q hq j).trans ?_
          simp [hm]
        · exact Iff.rfl
    · intro q hq hespera
      rw [hpcbs] at hespera ⊢
      by_cases hqpid : q = pid
      · rw [if_pos hqpid]
      · rw [if_neg hqpid] at hespera ⊢
        exact h.bloqueados q hq hespera
  · have hprioridades : (k.esperarMutex pid i).prioridades = k.prioridades := by
      funext q
      unfold prioridades
      rw [hpcbs]
      split
      · rename_i hq
        rw [hq]
      · rfl
    have hdinamicas : (k.esperarMutex pid i).dinamicas = k.dinamicas := by
      funext q
      unfold dinamicas
      rw [hpcbs]
      split
      · rename_i hq
        rw [hq]
      · rfl
    unfold HerenciaPendiente
    rw [hprioridades, hdinamicas]
    apply Inheritance.pending_of_exact (o := poseedor) h.exactas
    intro w q
    rw [esperaA_iff_fuera hm, esperaA_iff_fuera (getElem?_set_mismo hm hlista),
      esperaFuera_set hlista, List.mem_append, List.mem_singleton, hposee, or_assoc]
    refine or_congr_right ?_
    rw [Option.some.injEq, eq_comm (a := poseedor)]
    tauto

/-- A mutex has passed on, and neither its old nor its new holder is recalculated yet. -/
theorem Heredadas.pasarMutex (h : k.Heredadas) {siguiente : Pid} {resto : List Pid}
    (hm : k.listaMutexes[i]? = some m) (hposee : m.asignadoAPid = some pid)
    (hcola : m.colaBloqueados = siguiente :: resto)
    (hlista : k'.listaMutexes =
      k.listaMutexes.set i { m with asignadoAPid := some siguiente, colaBloqueados := resto })
    (hlock : k'.mutexListaMutexes = k.mutexListaMutexes)
    (htodos : k'.todosLosProcesos = k.todosLosProcesos)
    (hpcbs : ∀ q, k'.pcbs q = if q = siguiente then
      { k.pcbs siguiente with mutexEsperando := none, estado := .ready } else k.pcbs q) :
    k'.EsperasCoherentes ∧
      ∀ q ∈ k'.todosLosProcesos, q ≠ siguiente → q ∉ [pid] → k'.PrioridadExacta q := by
  have hmmem := List.mem_of_getElem? hm
  have hnodup := h.unaVez m hmmem
  rw [hcola] at hnodup
  have hsig : siguiente ∈ m.colaBloqueados := by
    rw [hcola]
    exact List.mem_cons_self
  have hsigreg := h.registrados m hmmem siguiente hsig
  have hespera := (h.colas siguiente hsigreg i).mpr ⟨m, hm, hsig⟩
  constructor
  · refine h.reemplazar hm hlista hlock htodos (List.nodup_cons.mp hnodup).2 ?_ ?_ ?_ ?_ ?_
    · intro q hq
      apply h.registrados m hmmem q
      rw [hcola]
      exact List.mem_cons_of_mem _ hq
    · rintro q ⟨⟩
      exact hsigreg
    · exact fun hlibre ↦ by cases hlibre
    · intro q hq j
      rw [hpcbs]
      by_cases hqsig : q = siguiente
      · subst hqsig
        rw [if_pos rfl, hespera]
        have hno := (List.nodup_cons.mp hnodup).1
        split
        · simp [hno]
        · rename_i hji
          simp [Ne.symm hji]
      · rw [if_neg hqsig]
        split
        · rename_i hji
          subst hji
          refine (h.colas q hq j).trans ?_
          simp [hm, hcola, hqsig]
        · exact Iff.rfl
    · intro q hq hespera'
      rw [hpcbs] at hespera' ⊢
      by_cases hqsig : q = siguiente
      · rw [if_pos hqsig] at hespera'
        exact absurd rfl hespera'
      · rw [if_neg hqsig] at hespera' ⊢
        exact h.bloqueados q hq hespera'
  · rw [htodos]
    intro q hq hqsig hqpid
    have hprioridades : k'.prioridades = k.prioridades := by
      funext p
      unfold prioridades
      rw [hpcbs]
      split
      · rename_i hp
        rw [hp]
      · rfl
    have hdinamicas : k'.dinamicas = k.dinamicas := by
      funext p
      unfold dinamicas
      rw [hpcbs]
      split
      · rename_i hp
        rw [hp]
      · rfl
    unfold PrioridadExacta
    rw [hprioridades, hdinamicas]
    refine Inheritance.Exact.congr (h.exactas q hq) rfl (fun w ↦ ?_) (fun _ _ ↦ rfl)
    rw [esperaA_iff_fuera hm, esperaA_iff_fuera (getElem?_set_mismo hm hlista),
      esperaFuera_set hlista, hposee]
    have hqpid : pid ≠ q := fun heq ↦ hqpid (List.mem_singleton.mpr heq.symm)
    simp [hqpid, Ne.symm hqsig]

/-! ### The step -/

theorem pcbs_notificarEspera (k : KernelScheduler) (pid q : Pid) :
    (k.notificarEspera pid).pcbs q =
      { k.pcbs q with blockEpoch := ((k.notificarEspera pid).pcbs q).blockEpoch } := by
  have hpcbs : (k.notificarEspera pid).pcbs =
      (k.modificarPcb pid fun p ↦ { p with blockEpoch := p.blockEpoch + 1 }).pcbs := by
    unfold notificarEspera notificarProcesoEnBlock
    simp only
    split <;> rfl
  rw [hpcbs, pcbs_modificarPcb]
  split
  · rename_i hq
    rw [hq]
  · rfl

theorem listaMutexes_notificarEspera (k : KernelScheduler) (pid : Pid) :
    (k.notificarEspera pid).listaMutexes = k.listaMutexes := by
  unfold notificarEspera notificarProcesoEnBlock
  simp only
  split <;> rfl

theorem Heredadas.notificarEspera (h : k.Heredadas) (pid : Pid) : (k.notificarEspera pid).Heredadas := by
  have hpcbs := pcbs_notificarEspera k pid
  have hlista := listaMutexes_notificarEspera k pid
  have hresto : (k.notificarEspera pid).todosLosProcesos = k.todosLosProcesos ∧
      (k.notificarEspera pid).mutexListaMutexes = k.mutexListaMutexes := by
    unfold KernelScheduler.notificarEspera notificarProcesoEnBlock
    simp only
    split <;> exact ⟨rfl, rfl⟩
  obtain ⟨htodos, hlock⟩ := hresto
  refine h.congr (h.toEsperasCoherentes.congr hlock htodos hlista ?_ ?_) htodos ?_ ?_ ?_
  · exact fun q _ ↦ (congrArg Pcb.mutexEsperando (hpcbs q) :)
  · exact fun q _ _ ↦ (congrArg Pcb.estado (hpcbs q) :)
  · funext q
    exact (congrArg Pcb.prioridad (hpcbs q) :)
  · funext q
    exact (congrArg Pcb.prioridadDinamica (hpcbs q) :)
  · intro w q
    unfold EsperaA
    rw [hlista]

/-- A mutex syscall of a process that does not wait keeps all processes exact. -/
theorem Heredadas.paso (h : k.Heredadas) (hpid : pid ∈ k.todosLosProcesos)
    (hno : (k.pcbs pid).mutexEsperando = none) (hpaso : PasoMutex k pid k') : k'.Heredadas := by
  cases hpaso with
  | nada => exact h.encolar hno
  | crear nombre => exact (h.conMutexNuevo nombre).encolar hno
  | tomar hm hlibre =>
    refine (h.cambiarPoseedor hm ?_ (some pid) ?_).encolar hno
    · exact h.poseidos _ (List.mem_of_getElem? hm) hlibre
    · rintro q ⟨⟩
      exact hpid
  | tomarNuevo nombre =>
    have hm : (k.conMutexNuevo nombre).listaMutexes[k.listaMutexes.length]? =
        some ⟨nombre, none, []⟩ := List.getElem?_concat_length
    refine ((h.conMutexNuevo nombre).cambiarPoseedor hm rfl (some pid) ?_).encolar hno
    rintro q ⟨⟩
    exact hpid
  | @esperar i m poseedor hm hposee =>
    apply Heredadas.notificarEspera
    obtain ⟨hcoherentes, hpendiente⟩ := h.esperarMutex hpid hno hm hposee
    have hdinamica : (k.esperarMutex pid i).dinamicas pid = (k.pcbs pid).prioridadDinamica :=
      prioridadDinamica_esperarMutex k pid i
    obtain ⟨hsalvo, hexactas⟩ :=
      propagarHerenciaPrioridad_exacta hcoherentes hpid hpendiente hdinamica
    refine ⟨hsalvo.coherentes hcoherentes, ?_⟩
    rw [hsalvo.todosLosProcesos]
    exact hexactas
  | @soltar i m k₁ k₂ hm hposee hcola hk₁ hk₂ =>
    subst hk₁ hk₂
    have h₁ := h.cambiarPoseedor hm hcola none (fun _ hq ↦ by cases hq)
    have hno₁ : ((k.modificarMutex i fun m ↦ { m with asignadoAPid := none }).pcbs
        pid).mutexEsperando = none := hno
    have hsalvo := salvoDinamicas_asignar (k.modificarMutex i fun m ↦ { m with asignadoAPid := none })
      pid ((k.modificarMutex i fun m ↦ { m with asignadoAPid := none }).maxPrioridad pid)
    refine Heredadas.encolar ⟨hsalvo.coherentes h₁.toEsperasCoherentes, ?_⟩ ?_
    · rw [hsalvo.todosLosProcesos]
      intro q hq
      exact recalcular_exacta h₁.toEsperasCoherentes hno₁ []
        (fun q hq _ _ ↦ h₁.exactas q hq) q hq List.not_mem_nil
    · rw [hsalvo.mutexEsperando, hno₁]
  | @pasar i m siguiente resto k₁ k₂ k₃ hm hposee hcola hk₁ hk₂ hk₃ =>
    -- the two processes recalculated are the only ones that may not be exact after the hand-over
    have hready := salvoReady_encolar ((k.modificarMutex i fun m ↦
      { m with asignadoAPid := some siguiente, colaBloqueados := m.colaBloqueados.tail }).modificarPcb
      siguiente fun p ↦ { p with mutexEsperando := none, estado := .ready }) siguiente
    have hlista₁ : k₁.listaMutexes = k.listaMutexes.set i
        { m with asignadoAPid := some siguiente, colaBloqueados := resto } := by
      rw [hk₁]
      refine hready.listaMutexes.trans ((ListModify.modify_eq_set hm).trans ?_)
      rw [hcola]
      rfl
    have hpcbs₁ : ∀ q, k₁.pcbs q = if q = siguiente then
        { k.pcbs siguiente with mutexEsperando := none, estado := .ready } else k.pcbs q := by
      intro q
      rw [hk₁]
      unfold asignarASiguiente
      rw [hready.pcbs, pcbs_cambiarEstado, pcbs_modificarPcb]
      by_cases hq : q = siguiente
      · simp [hq, modificarMutex]
      · simp [hq, modificarMutex]
    have hlock₁ : k₁.mutexListaMutexes = k.mutexListaMutexes := by
      rw [hk₁]
      exact hready.mutexListaMutexes
    have htodos₁ : k₁.todosLosProcesos = k.todosLosProcesos := by
      rw [hk₁]
      exact hready.todosLosProcesos
    obtain ⟨hcoherentes₁, hexactas₁⟩ := h.pasarMutex hm hposee hcola hlista₁ hlock₁ htodos₁ hpcbs₁
    have hnoSig : (k₁.pcbs siguiente).mutexEsperando = none := by
      rw [hpcbs₁, if_pos rfl]
    have hsalvo₂ := salvoDinamicas_asignar k₁ siguiente (k₁.maxPrioridad siguiente)
    rw [← hk₂] at hsalvo₂
    have hexactas₂ : ∀ q ∈ k₂.todosLosProcesos, q ≠ pid → q ∉ [] → k₂.PrioridadExacta q := by
      rw [hsalvo₂.todosLosProcesos, hk₂]
      intro q hq hqpid _
      refine recalcular_exacta hcoherentes₁ hnoSig [pid] hexactas₁ q hq ?_
      exact fun hmem ↦ hqpid (List.mem_singleton.mp hmem)
    have hno₂ : (k₂.pcbs pid).mutexEsperando = none := by
      rw [hsalvo₂.mutexEsperando, hpcbs₁]
      split
      · rfl
      · exact hno
    have hsalvo₃ := salvoDinamicas_asignar k₂ pid (k₂.maxPrioridad pid)
    rw [← hk₃] at hsalvo₃
    have hcoherentes₂ := hsalvo₂.coherentes hcoherentes₁
    refine Heredadas.encolar ⟨hsalvo₃.coherentes hcoherentes₂, ?_⟩ ?_
    · rw [hsalvo₃.todosLosProcesos, hk₃]
      intro q hq
      exact recalcular_exacta hcoherentes₂ hno₂ [] hexactas₂ q hq List.not_mem_nil
    · rw [hsalvo₃.mutexEsperando, hno₂]

end KernelScheduler

end PlugAndPlay.Planificador
