import PlugAndPlay.Planificador.HerenciaExacta

/-!
# Runs of mutex syscalls

Any sequence of mutex syscalls of processes that are not blocked, handled one at a time. The run also
records, for each mutex, who joined its queue and who was handed the mutex, as seen from outside.
-/

open PlugAndPlay.Library

namespace PlugAndPlay.Planificador

namespace KernelScheduler

def colaDeMutex (k : KernelScheduler) (i : ℕ) : List Pid :=
  (k.listaMutexes[i]?.map MutexSistema.colaBloqueados).getD []

def poseedorDe (k : KernelScheduler) (i : ℕ) : Option Pid :=
  k.listaMutexes[i]?.bind MutexSistema.asignadoAPid

end KernelScheduler

structure PedidoMutex where
  pid : Pid
  syscall : SyscallMutex
deriving Repr, DecidableEq

/-- The scheduler, and for each mutex the processes that joined its queue and those it was handed to,
oldest first. -/
structure CorridaMutex where
  k : KernelScheduler
  llegadas : ℕ → List Pid
  servidos : ℕ → List Pid

/-- The caller arrives where it is queued after the syscall and was not before. -/
def anotarLlegada (k k' : KernelScheduler) (pid : Pid) (llegadas : ℕ → List Pid) (i : ℕ) : List Pid :=
  if pid ∈ k'.colaDeMutex i ∧ pid ∉ k.colaDeMutex i then llegadas i ++ [pid] else llegadas i

/-- The mutex is handed over where the caller held it and another process does now. -/
def anotarServido (k k' : KernelScheduler) (pid : Pid) (servidos : ℕ → List Pid) (i : ℕ) : List Pid :=
  match k'.poseedorDe i with
  | none => servidos i
  | some nuevo =>
    if k.poseedorDe i = some pid ∧ nuevo ≠ pid then servidos i ++ [nuevo] else servidos i

def CorridaMutex.paso (c : CorridaMutex) (p : PedidoMutex) : Option CorridaMutex :=
  if p.pid ∈ c.k.todosLosProcesos ∧ (c.k.pcbs p.pid).estado ≠ .block then
    let k' := (manejarSyscallMutex p.pid p.syscall).final c.k
    some ⟨k', anotarLlegada c.k k' p.pid c.llegadas, anotarServido c.k k' p.pid c.servidos⟩
  else none

/-- Any registered processes with any priorities, before the first mutex. -/
def CorridaMutex.Inicial (c : CorridaMutex) : Prop :=
  c.k.listaMutexes = [] ∧ c.k.mutexListaMutexes = false ∧
    (∀ pid ∈ c.k.todosLosProcesos, (c.k.pcbs pid).prioridadDinamica = (c.k.pcbs pid).prioridad ∧
      (c.k.pcbs pid).mutexEsperando = none) ∧
    c.llegadas = (fun _ ↦ []) ∧ c.servidos = fun _ ↦ []

/-- Each queue holds those that arrived and were not served yet, in the order of their arrival. -/
def CorridaMutex.EnOrden (c : CorridaMutex) : Prop :=
  ∀ i, c.llegadas i = c.servidos i ++ c.k.colaDeMutex i

namespace KernelScheduler

variable {k k' : KernelScheduler} {pid : Pid}

theorem colaDeMutex_congr (h : k'.listaMutexes = k.listaMutexes) (i : ℕ) :
    k'.colaDeMutex i = k.colaDeMutex i := by
  unfold colaDeMutex
  rw [h]

theorem poseedorDe_congr (h : k'.listaMutexes = k.listaMutexes) (i : ℕ) :
    k'.poseedorDe i = k.poseedorDe i := by
  unfold poseedorDe
  rw [h]

theorem colaDeMutex_conMutexNuevo (k : KernelScheduler) (nombre : String) (i : ℕ) :
    (k.conMutexNuevo nombre).colaDeMutex i = k.colaDeMutex i := by
  unfold colaDeMutex conMutexNuevo
  rcases Nat.lt_trichotomy i k.listaMutexes.length with hi | rfl | hi
  · simp only [List.getElem?_append_left hi]
  · simp
  · rw [List.getElem?_eq_none (by rw [List.length_append]; exact hi),
      List.getElem?_eq_none (Nat.le_of_lt hi)]

theorem poseedorDe_conMutexNuevo (k : KernelScheduler) (nombre : String) (i : ℕ) :
    (k.conMutexNuevo nombre).poseedorDe i = k.poseedorDe i := by
  unfold poseedorDe conMutexNuevo
  rcases Nat.lt_trichotomy i k.listaMutexes.length with hi | rfl | hi
  · simp only [List.getElem?_append_left hi]
  · simp
  · rw [List.getElem?_eq_none (by rw [List.length_append]; exact hi),
      List.getElem?_eq_none (Nat.le_of_lt hi)]

/-- The queue and the holder of a mutex after one mutex was changed. -/
theorem deMutex_modificar {i : ℕ} {m : MutexSistema} (hm : k.listaMutexes[i]? = some m)
    {f : MutexSistema → MutexSistema} (h : k'.listaMutexes = k.listaMutexes.modify i f) (j : ℕ) :
    k'.colaDeMutex j = (if j = i then (f m).colaBloqueados else k.colaDeMutex j) ∧
      k'.poseedorDe j = if j = i then (f m).asignadoAPid else k.poseedorDe j := by
  unfold colaDeMutex poseedorDe
  rw [h, ListModify.modify_eq_set hm]
  by_cases hji : j = i
  · subst hji
    simp [(List.getElem?_eq_some_iff.mp hm).1]
  · simp [hji, Ne.symm hji]

theorem deMutex_some {i : ℕ} {m : MutexSistema} (hm : k.listaMutexes[i]? = some m) :
    k.colaDeMutex i = m.colaBloqueados ∧ k.poseedorDe i = m.asignadoAPid := by
  unfold colaDeMutex poseedorDe
  rw [hm]
  exact ⟨rfl, rfl⟩

/-- What the syscall of a process that waits nowhere does to one mutex. -/
theorem Heredadas.enMutex (h : k.Heredadas) (hpid : pid ∈ k.todosLosProcesos)
    (hno : (k.pcbs pid).mutexEsperando = none) (hpaso : PasoMutex k pid k') (j : ℕ) :
    pid ∉ k.colaDeMutex j ∧
      ((k'.colaDeMutex j = k.colaDeMutex j ∧
        (k'.poseedorDe j = k.poseedorDe j ∨ k.poseedorDe j = none ∨ k'.poseedorDe j = none)) ∨
      (k'.colaDeMutex j = k.colaDeMutex j ++ [pid] ∧ k'.poseedorDe j = k.poseedorDe j) ∨
      ∃ siguiente, k.colaDeMutex j = siguiente :: k'.colaDeMutex j ∧
        k.poseedorDe j = some pid ∧ k'.poseedorDe j = some siguiente) := by
  have hlista : ∀ k₁ : KernelScheduler,
      (k₁.encolarEnReadyYNotificar pid).listaMutexes = k₁.listaMutexes :=
    fun k₁ ↦ (salvoReady_encolar k₁ pid).listaMutexes
  constructor
  · cases hm : k.listaMutexes[j]? with
    | none =>
      unfold colaDeMutex
      rw [hm]
      exact List.not_mem_nil
    | some m =>
      rw [(deMutex_some hm).1]
      apply h.not_mem_cola hpid hm
      rw [hno]
      exact (Option.some_ne_none j).symm
  · cases hpaso with
    | nada => exact .inl ⟨colaDeMutex_congr (hlista _) j, .inl (poseedorDe_congr (hlista _) j)⟩
    | crear nombre =>
      refine .inl ⟨?_, .inl ?_⟩
      · rw [colaDeMutex_congr (hlista _), colaDeMutex_conMutexNuevo]
      · rw [poseedorDe_congr (hlista _), poseedorDe_conMutexNuevo]
    | @tomar i m hm hlibre =>
      obtain ⟨hcola', hposee'⟩ := deMutex_modificar hm (hlista (k.modificarMutex i fun m ↦
        { m with asignadoAPid := some pid })) j
      obtain ⟨hcola, hposee⟩ := deMutex_some hm
      by_cases hji : j = i
      · subst hji
        rw [if_pos rfl] at hcola'
        exact .inl ⟨hcola'.trans hcola.symm, .inr (.inl (hposee.trans hlibre))⟩
      · rw [if_neg hji] at hcola' hposee'
        exact .inl ⟨hcola', .inl hposee'⟩
    | tomarNuevo nombre =>
      have hm : (k.conMutexNuevo nombre).listaMutexes[k.listaMutexes.length]? =
          some ⟨nombre, none, []⟩ := List.getElem?_concat_length
      obtain ⟨hcola', hposee'⟩ := deMutex_modificar hm (hlista ((k.conMutexNuevo
        nombre).modificarMutex k.listaMutexes.length fun m ↦ { m with asignadoAPid := some pid })) j
      obtain ⟨hcola, hposee⟩ := deMutex_some hm
      rw [← colaDeMutex_conMutexNuevo k nombre, ← poseedorDe_conMutexNuevo k nombre]
      by_cases hji : j = k.listaMutexes.length
      · rw [if_pos hji] at hcola'
        rw [← hji] at hcola hposee
        exact .inl ⟨hcola'.trans hcola.symm, .inr (.inl hposee)⟩
      · rw [if_neg hji] at hcola' hposee'
        exact .inl ⟨hcola', .inl hposee'⟩
    | @esperar i m poseedor hm hposee =>
      obtain ⟨hcoherentes, hpendiente⟩ := h.esperarMutex hpid hno hm hposee
      obtain ⟨hsalvo, _⟩ := propagarHerenciaPrioridad_exacta hcoherentes hpid hpendiente
        (prioridadDinamica_esperarMutex k pid i)
      have hlista' : (((k.esperarMutex pid i).propagarHerenciaPrioridad pid
          (k.pcbs pid).prioridadDinamica).notificarEspera pid).listaMutexes =
          k.listaMutexes.modify i fun m ↦ { m with colaBloqueados := m.colaBloqueados ++ [pid] } :=
        (listaMutexes_notificarEspera _ pid).trans hsalvo.listaMutexes
      obtain ⟨hcola', hposee'⟩ := deMutex_modificar hm hlista' j
      obtain ⟨hcola, hposeedor⟩ := deMutex_some hm
      by_cases hji : j = i
      · subst hji
        rw [if_pos rfl] at hcola' hposee'
        exact .inr (.inl ⟨by rw [hcola', hcola], hposee'.trans hposeedor.symm⟩)
      · rw [if_neg hji] at hcola' hposee'
        exact .inl ⟨hcola', .inl hposee'⟩
    | @soltar i m k₁ k₂ hm hposee hcola hk₁ hk₂ =>
      have hlista' : (k₂.encolarEnReadyYNotificar pid).listaMutexes =
          k.listaMutexes.modify i fun m ↦ { m with asignadoAPid := none } := by
        rw [hlista, hk₂, (salvoDinamicas_asignar _ _ _).listaMutexes, hk₁]
        rfl
      obtain ⟨hcola', hposee'⟩ := deMutex_modificar hm hlista' j
      by_cases hji : j = i
      · subst hji
        rw [if_pos rfl] at hcola' hposee'
        exact .inl ⟨hcola'.trans (deMutex_some hm).1.symm, .inr (.inr hposee')⟩
      · rw [if_neg hji] at hcola' hposee'
        exact .inl ⟨hcola', .inl hposee'⟩
    | @pasar i m siguiente resto k₁ k₂ k₃ hm hposee hcola hk₁ hk₂ hk₃ =>
      have hlista' : (k₃.encolarEnReadyYNotificar pid).listaMutexes =
          k.listaMutexes.modify i fun m ↦ { m with
            asignadoAPid := some siguiente, colaBloqueados := m.colaBloqueados.tail } := by
        rw [hlista, hk₃, (salvoDinamicas_asignar _ _ _).listaMutexes, hk₂,
          (salvoDinamicas_asignar _ _ _).listaMutexes, hk₁]
        exact (salvoReady_encolar _ siguiente).listaMutexes
      obtain ⟨hcola', hposee'⟩ := deMutex_modificar hm hlista' j
      obtain ⟨hcola₀, hposee₀⟩ := deMutex_some hm
      by_cases hji : j = i
      · subst hji
        rw [if_pos rfl] at hcola' hposee'
        refine .inr (.inr ⟨siguiente, ?_, hposee₀.trans hposee, hposee'⟩)
        rw [hcola₀, hcola', hcola]
        rfl
      · rw [if_neg hji] at hcola' hposee'
        exact .inl ⟨hcola', .inl hposee'⟩

end KernelScheduler

/-- The records follow what happens to one mutex. -/
theorem enOrden_anotar {k k' : KernelScheduler} {pid : Pid} {llegadas servidos : ℕ → List Pid} {i : ℕ}
    (hpid : pid ∉ k.colaDeMutex i) (h : llegadas i = servidos i ++ k.colaDeMutex i)
    (hpaso : (k'.colaDeMutex i = k.colaDeMutex i ∧
        (k'.poseedorDe i = k.poseedorDe i ∨ k.poseedorDe i = none ∨ k'.poseedorDe i = none)) ∨
      (k'.colaDeMutex i = k.colaDeMutex i ++ [pid] ∧ k'.poseedorDe i = k.poseedorDe i) ∨
      ∃ siguiente, k.colaDeMutex i = siguiente :: k'.colaDeMutex i ∧
        k.poseedorDe i = some pid ∧ k'.poseedorDe i = some siguiente) :
    anotarLlegada k k' pid llegadas i = anotarServido k k' pid servidos i ++ k'.colaDeMutex i := by
  unfold anotarLlegada anotarServido
  rcases hpaso with ⟨hcola, hposee⟩ | ⟨hcola, hposee⟩ | ⟨siguiente, hcola, hposee, hposee'⟩
  · rw [hcola, if_neg fun hllega ↦ hpid hllega.1, h]
    congr 1
    cases hnuevo : k'.poseedorDe i with
    | none => rfl
    | some nuevo =>
      refine (if_neg ?_).symm
      rintro ⟨hantes, hotro⟩
      rw [hnuevo, hantes] at hposee
      simp [hotro] at hposee
  · rw [hcola, if_pos ⟨List.mem_append_right _ List.mem_cons_self, hpid⟩, h, hposee]
    rw [List.append_assoc]
    congr 1
    cases hnuevo : k.poseedorDe i with
    | none => rfl
    | some nuevo =>
      refine (if_neg ?_).symm
      rintro ⟨hantes, hotro⟩
      exact hotro (Option.some.inj hantes)
  · rw [hcola, List.mem_cons, not_or] at hpid
    obtain ⟨hotro, hfuera⟩ := hpid
    rw [if_neg fun hllega ↦ hfuera hllega.1, h, hcola, hposee', hposee]
    simp [Ne.symm hotro]

/-- After every sequence of mutex syscalls of processes that are not blocked, each dynamic priority is
the least of the own one and those of the processes queued on held mutexes, each queue is in the order
of arrival, and a process is in the queue of a mutex exactly when it is recorded to wait for it. -/
theorem herencia_exacta (c : CorridaMutex)
    (h : Reachable CorridaMutex.paso CorridaMutex.Inicial (fun _ _ ↦ True) c) :
    (∀ pid ∈ c.k.todosLosProcesos, c.k.PrioridadExacta pid) ∧ c.EnOrden ∧ c.k.ColasExactas := by
  have hinv : c.k.Heredadas ∧ c.EnOrden := by
    apply h.invariant (P := fun c ↦ c.k.Heredadas ∧ c.EnOrden)
    · rintro c ⟨hlista, hlibre, hpcbs, hllegadas, hservidos⟩
      have hnadie : ∀ w q, ¬ c.k.EsperaA w q := by
        rintro w q ⟨m, hm, _⟩
        rw [hlista] at hm
        cases hm
      refine ⟨⟨⟨hlibre, ?_, ?_, ?_, ?_, ?_, ?_⟩, ?_⟩, ?_⟩
      · intro pid hpid i
        rw [(hpcbs pid hpid).2, hlista]
        simp
      · simp [hlista]
      · exact fun pid hpid hno ↦ absurd (hpcbs pid hpid).2 hno
      · simp [hlista]
      · simp [hlista]
      · simp [hlista]
      · intro pid hpid
        exact Inheritance.exact_of_no_waiter (hpcbs pid hpid).1 (hnadie · pid)
      · intro i
        rw [hllegadas, hservidos]
        simp [KernelScheduler.colaDeMutex, hlista]
    · rintro c p c' ⟨hk, horden⟩ _ hpaso
      unfold CorridaMutex.paso at hpaso
      split at hpaso
      · rename_i hguarda
        obtain ⟨hpid, hestado⟩ := hguarda
        obtain rfl := Option.some.inj hpaso
        have hno := hk.noEspera hpid hestado
        obtain ⟨k', hok, hpasoMutex⟩ := manejarSyscallMutex_libre hk.libre p.pid p.syscall
        have hfinal : (manejarSyscallMutex p.pid p.syscall).final c.k = k' := by
          unfold Blocking.final
          rw [hok]
        simp only [hfinal]
        refine ⟨hk.paso hpid hno hpasoMutex, fun i ↦ ?_⟩
        obtain ⟨hfuera, hcambio⟩ := hk.enMutex hpid hno hpasoMutex i
        exact enOrden_anotar hfuera (horden i) hcambio
      · cases hpaso
  exact ⟨hinv.1.exactas, hinv.2, hinv.1.colas⟩

/-- Three running processes with the priorities 5, 3 and 1. -/
def tresProcesos : CorridaMutex where
  k :=
    { KernelScheduler.inicial ⟨.cmn, 6, [], false, 0, 0⟩ with
      pcbs := fun pid ↦ ⟨5 - 2 * pid, .exec, 0, 0, 5 - 2 * pid, none, false, 0, none⟩
      contadorPids := 3
      todosLosProcesos := [0, 1, 2] }
  llegadas _ := []
  servidos _ := []

theorem tresProcesos_inicial : tresProcesos.Inicial :=
  ⟨rfl, rfl, fun _ _ ↦ ⟨rfl, rfl⟩, rfl, rfl⟩

/-- Process 2 waits for process 1, which waits for process 0: the first two inherit until process 0
unlocks. -/
theorem herencia_exacta_tresProcesos :
    ∃ c : CorridaMutex, [0, 1, 2].map c.k.dinamicas = [5, 1, 1] ∧ c.servidos 0 = [1] ∧
      (∀ pid ∈ c.k.todosLosProcesos, c.k.PrioridadExacta pid) ∧ c.EnOrden ∧ c.k.ColasExactas := by
  have hinicio : Reachable CorridaMutex.paso CorridaMutex.Inicial (fun _ _ ↦ True) tresProcesos :=
    .start tresProcesos_inicial
  obtain ⟨c, hc, hdinamicas, hservidos⟩ := hinicio.exists_of_runAllowed
    [⟨0, .lock (some "A")⟩, ⟨1, .lock (some "B")⟩, ⟨1, .lock (some "A")⟩, ⟨2, .lock (some "B")⟩,
      ⟨0, .unlock (some "A")⟩]
    (fun c ↦ [0, 1, 2].map c.k.dinamicas = [5, 1, 1] ∧ c.servidos 0 = [1]) (by decide)
  exact ⟨c, hdinamicas, hservidos, herencia_exacta c hc⟩

end PlugAndPlay.Planificador
