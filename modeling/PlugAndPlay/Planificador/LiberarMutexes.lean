import PlugAndPlay.Library.ListModify
import PlugAndPlay.Planificador.Herencia

/-!
# Release of the mutexes of a process that ends

`liberar_mutexes_de_proceso` walks the table of mutexes under `mutex_lista_mutexes`. Where a mutex of
the process has a waiter, it hands the mutex over and recalculates the priority of the new holder,
which locks `mutex_lista_mutexes` again. So it comes to its end exactly when nobody waits for a mutex
of the process.
-/

open PlugAndPlay.Library

namespace PlugAndPlay.Planificador

variable {k k' : KernelScheduler} {pid : Pid}

/-- What the release leaves of a mutex for which nobody waits, or of one of another process. -/
def MutexSistema.liberado (pid : Pid) (m : MutexSistema) : MutexSistema :=
  if m.asignadoAPid = some pid then { m with asignadoAPid := none }
  else { m with colaBloqueados := m.colaBloqueados.filter (· ≠ pid) }

/-- Nobody waits for the mutex if the process holds it. -/
def MutexSistema.SinDisputa (pid : Pid) (m : MutexSistema) : Prop :=
  m.asignadoAPid = some pid → m.colaBloqueados = []

/-! ## One turn -/

theorem liberarMutexEn_sinDisputa {i : ℕ} {m : MutexSistema} (hm : k.listaMutexes[i]? = some m)
    (h : m.SinDisputa pid) :
    liberarMutexEn pid i k = .ok () (k.modificarMutex i (MutexSistema.liberado pid)) := by
  have hcambio : ∀ f : MutexSistema → MutexSistema, f m = m.liberado pid →
      k.modificarMutex i f = k.modificarMutex i (MutexSistema.liberado pid) := by
    intro f hf
    unfold KernelScheduler.modificarMutex
    rw [ListModify.modify_congr fun a ha ↦ ?_]
    obtain rfl := Option.some.inj (hm.symm.trans ha)
    exact hf
  unfold liberarMutexEn
  rw [Blocking.bind_ok (x := get) rfl]
  simp only [hm]
  by_cases hpid : m.asignadoAPid = some pid
  · simp only [if_pos hpid, h hpid]
    refine congrArg (EStateM.Result.ok ()) (hcambio _ ?_)
    rw [MutexSistema.liberado, if_pos hpid]
  · rw [if_neg hpid]
    refine congrArg (EStateM.Result.ok ()) (hcambio _ ?_)
    rw [MutexSistema.liberado, if_neg hpid]

/-- With the table locked, a mutex is handed over and the recalculation then stops. -/
theorem liberarMutexEn_pasa {i : ℕ} {m : MutexSistema} {siguiente : Pid} {resto : List Pid}
    (hm : k.listaMutexes[i]? = some m) (htomada : k.mutexListaMutexes = true)
    (hpid : m.asignadoAPid = some pid) (hcola : m.colaBloqueados = siguiente :: resto) :
    liberarMutexEn pid i k = .error () (k.asignarASiguiente i siguiente) := by
  unfold liberarMutexEn
  rw [Blocking.bind_ok (x := get) rfl]
  simp only [hm, if_pos hpid, hcola]
  rw [Blocking.bind_ok (x := modify _) rfl]
  apply recalcularPrioridadDinamica_tomada
  rw [mutexListaMutexes_asignarASiguiente, htomada]

/-- With the table locked, handing a mutex over never ends. -/
theorem liberarMutexEn_disputado {i : ℕ} {m : MutexSistema} (hm : k.listaMutexes[i]? = some m)
    (htomada : k.mutexListaMutexes = true) (h : ¬ m.SinDisputa pid) :
    ∃ k', liberarMutexEn pid i k = .error () k' := by
  obtain ⟨hpid, hcola⟩ := Classical.not_imp.mp h
  obtain ⟨siguiente, resto, hcola⟩ := List.exists_cons_of_ne_nil hcola
  exact ⟨k.asignarASiguiente i siguiente, liberarMutexEn_pasa hm htomada hpid hcola⟩

/-! ## The walk -/

/-- The table after the first `n` turns. -/
def liberadosHasta (pid : Pid) (n : ℕ) (mutexes : List MutexSistema) : List MutexSistema :=
  mutexes.mapIdx fun i m ↦ if i < n then m.liberado pid else m

theorem liberadosHasta_cero (mutexes : List MutexSistema) : liberadosHasta pid 0 mutexes = mutexes := by
  apply List.ext_getElem?
  intro i
  simp [liberadosHasta]

theorem liberadosHasta_largo (mutexes : List MutexSistema) :
    liberadosHasta pid mutexes.length mutexes = mutexes.map (MutexSistema.liberado pid) := by
  apply List.ext_getElem?
  intro i
  simp only [liberadosHasta, List.getElem?_mapIdx, List.getElem?_map]
  cases hi : mutexes[i]? with
  | none => rfl
  | some m => simp [(List.getElem?_eq_some_iff.mp hi).1]

theorem modify_liberadosHasta (n : ℕ) (mutexes : List MutexSistema) :
    (liberadosHasta pid n mutexes).modify n (MutexSistema.liberado pid) =
      liberadosHasta pid (n + 1) mutexes := by
  apply List.ext_getElem?
  intro i
  simp only [liberadosHasta, List.getElem?_modify, List.getElem?_mapIdx]
  cases mutexes[i]? with
  | none => simp
  | some m =>
    rcases Nat.lt_trichotomy i n with hi | rfl | hi
    · simp [hi, Nat.lt_succ_of_lt hi, Nat.ne_of_gt hi]
    · simp
    · simp [Nat.not_lt_of_gt hi, Nat.not_lt_of_le hi, Nat.ne_of_lt hi]

/-- The walk goes through exactly when it meets no mutex of the process with a waiter. -/
theorem recorrer_ok_iff (pid : Pid) (htomada : k.mutexListaMutexes = true) (n : ℕ)
    (hn : n ≤ k.listaMutexes.length) :
    forM (List.range n) (liberarMutexEn pid) k = .ok () k' ↔
      (∀ i m, i < n → k.listaMutexes[i]? = some m → m.SinDisputa pid) ∧
        k' = { k with listaMutexes := liberadosHasta pid n k.listaMutexes } := by
  induction n generalizing k' with
  | zero =>
    rw [liberadosHasta_cero]
    simp only [List.range_zero, List.forM_nil, Nat.not_lt_zero, false_implies, implies_true, true_and]
    constructor
    · intro h
      cases h
      rfl
    · rintro rfl
      rfl
  | succ n ih =>
    rw [List.range_succ, List.forM_append, Blocking.bind_eq_ok]
    have hturno : ∀ k₁ k₂, k₁ = { k with listaMutexes := liberadosHasta pid n k.listaMutexes } →
        (forM [n] (liberarMutexEn pid) k₁ = .ok () k₂ ↔
          (∀ m, k.listaMutexes[n]? = some m → m.SinDisputa pid) ∧
            k₂ = { k with listaMutexes := liberadosHasta pid (n + 1) k.listaMutexes }) := by
      rintro k₁ k₂ rfl
      obtain ⟨m, hm⟩ : ∃ m, k.listaMutexes[n]? = some m := ⟨_, List.getElem?_eq_getElem hn⟩
      have hm' : (liberadosHasta pid n k.listaMutexes)[n]? = some m := by
        simp [liberadosHasta, hm]
      rw [List.forM_cons, List.forM_nil, Blocking.bind_eq_ok]
      by_cases hdisputa : m.SinDisputa pid
      · rw [liberarMutexEn_sinDisputa hm' hdisputa, KernelScheduler.modificarMutex,
          modify_liberadosHasta]
        constructor
        · rintro ⟨_, _, h₁, h₂⟩
          cases h₁
          cases h₂
          refine ⟨fun m' hm'' ↦ ?_, rfl⟩
          obtain rfl := Option.some.inj (hm.symm.trans hm'')
          exact hdisputa
        · rintro ⟨_, rfl⟩
          exact ⟨_, _, rfl, rfl⟩
      · obtain ⟨k₃, herror⟩ := liberarMutexEn_disputado (k := { k with
          listaMutexes := liberadosHasta pid n k.listaMutexes }) hm' htomada hdisputa
        rw [herror]
        constructor
        · rintro ⟨_, _, h₁, _⟩
          cases h₁
        · rintro ⟨hno, _⟩
          exact absurd (hno m hm) hdisputa
    constructor
    · rintro ⟨_, k₁, hantes, hultimo⟩
      obtain ⟨hlibres, hk₁⟩ := (ih (Nat.le_of_succ_le hn)).mp hantes
      obtain ⟨hlibre, hk'⟩ := (hturno k₁ k' hk₁).mp hultimo
      refine ⟨fun i m hi hm ↦ ?_, hk'⟩
      rcases Nat.lt_succ_iff_lt_or_eq.mp hi with hi | rfl
      · exact hlibres i m hi hm
      · exact hlibre m hm
    · rintro ⟨hlibres, hk'⟩
      refine ⟨(), _, (ih (Nat.le_of_succ_le hn)).mpr
        ⟨fun i m hi ↦ hlibres i m (Nat.lt_succ_of_lt hi), rfl⟩, ?_⟩
      exact (hturno _ k' rfl).mpr ⟨fun m ↦ hlibres n m (Nat.lt_succ_self n), hk'⟩

/-- The walk stops at the first mutex of the process with a waiter, which has got the mutex by then. -/
theorem recorrer_disputado (htomada : k.mutexListaMutexes = true) {i : ℕ} {m : MutexSistema}
    {siguiente : Pid} {resto : List Pid} (hm : k.listaMutexes[i]? = some m)
    (hpid : m.asignadoAPid = some pid) (hcola : m.colaBloqueados = siguiente :: resto)
    (hantes : ∀ j m, j < i → k.listaMutexes[j]? = some m → m.SinDisputa pid) (n : ℕ) (hn : i < n) :
    forM (List.range n) (liberarMutexEn pid) k = .error ()
      ({ k with listaMutexes := liberadosHasta pid i k.listaMutexes }.asignarASiguiente i siguiente) := by
  induction n with
  | zero => exact absurd hn (Nat.not_lt_zero i)
  | succ n ih =>
    rw [List.range_succ, List.forM_append]
    rcases Nat.lt_succ_iff_lt_or_eq.mp hn with hn | rfl
    · exact Blocking.bind_error (ih hn) _
    · have hlt := (List.getElem?_eq_some_iff.mp hm).1
      have hrecorrido := (recorrer_ok_iff pid htomada i (Nat.le_of_lt hlt)).mpr ⟨hantes, rfl⟩
      have hm' : (liberadosHasta pid i k.listaMutexes)[i]? = some m := by
        simp [liberadosHasta, hm]
      have hturno := liberarMutexEn_pasa (k := { k with
        listaMutexes := liberadosHasta pid i k.listaMutexes }) hm' htomada hpid hcola
      rw [Blocking.bind_ok hrecorrido, List.forM_cons]
      exact Blocking.bind_error hturno _

/-! ## The release -/

theorem liberarMutexesDeProceso_tomada (htomada : k.mutexListaMutexes = true) :
    liberarMutexesDeProceso pid k = .error () k :=
  Blocking.bind_error (lockListaMutexes_tomada htomada) _

/-- With the table free, the release stops at the first mutex of the process with a waiter. -/
theorem liberarMutexesDeProceso_disputada (hlibre : k.mutexListaMutexes = false) {i : ℕ}
    {m : MutexSistema} {siguiente : Pid} {resto : List Pid} (hm : k.listaMutexes[i]? = some m)
    (hpid : m.asignadoAPid = some pid) (hcola : m.colaBloqueados = siguiente :: resto)
    (hantes : ∀ j m, j < i → k.listaMutexes[j]? = some m → m.SinDisputa pid) :
    liberarMutexesDeProceso pid k = .error () ({ k with
      listaMutexes := liberadosHasta pid i k.listaMutexes
      mutexListaMutexes := true }.asignarASiguiente i siguiente) := by
  have hlt := (List.getElem?_eq_some_iff.mp hm).1
  have hrecorrer := recorrer_disputado (k := { k with mutexListaMutexes := true }) rfl hm hpid hcola
    hantes k.listaMutexes.length hlt
  unfold liberarMutexesDeProceso
  rw [Blocking.bind_ok (lockListaMutexes_libre hlibre), Blocking.bind_ok (x := get) rfl]
  exact Blocking.bind_error hrecorrer _

/-- Where nobody waits for a mutex of the process, the release leaves every mutex as `liberado`. -/
theorem liberarMutexesDeProceso_sinDisputa (hlibre : k.mutexListaMutexes = false)
    (h : ∀ m ∈ k.listaMutexes, m.SinDisputa pid) :
    liberarMutexesDeProceso pid k =
      .ok () { k with listaMutexes := k.listaMutexes.map (MutexSistema.liberado pid) } := by
  have hrecorrer := (recorrer_ok_iff (k := { k with mutexListaMutexes := true }) pid rfl
    k.listaMutexes.length (Nat.le_refl _)).mpr
    ⟨fun i m _ hm ↦ h m (List.mem_of_getElem? hm), rfl⟩
  unfold liberarMutexesDeProceso
  rw [Blocking.bind_ok (lockListaMutexes_libre hlibre), Blocking.bind_ok (x := get) rfl,
    Blocking.bind_ok hrecorrer]
  show EStateM.Result.ok () { k with
    listaMutexes := liberadosHasta pid k.listaMutexes.length k.listaMutexes
    mutexListaMutexes := false } = _
  rw [liberadosHasta_largo, ← hlibre]

/-- The process neither holds nor waits for a mutex any more, and each mutex it held belongs to the
first process that waited for it, now in READY, or to nobody. -/
def MutexesLiberados (k k' : KernelScheduler) (pid : Pid) : Prop :=
  (∀ m ∈ k'.listaMutexes, m.asignadoAPid ≠ some pid ∧ pid ∉ m.colaBloqueados) ∧
    ∀ (i : ℕ) (m : MutexSistema), k.listaMutexes[i]? = some m → m.asignadoAPid = some pid →
      ∃ m', k'.listaMutexes[i]? = some m' ∧ m'.asignadoAPid = m.colaBloqueados.head? ∧
        ∀ siguiente ∈ m.colaBloqueados.head?, (k'.pcbs siguiente).estado = .ready

theorem MutexSistema.liberado_ajeno {m : MutexSistema} (h : m.SinDisputa pid) :
    (m.liberado pid).asignadoAPid ≠ some pid ∧ pid ∉ (m.liberado pid).colaBloqueados := by
  unfold MutexSistema.liberado
  by_cases hpid : m.asignadoAPid = some pid
  · rw [if_pos hpid]
    refine ⟨(Option.some_ne_none pid).symm, ?_⟩
    show pid ∉ m.colaBloqueados
    rw [h hpid]
    exact List.not_mem_nil
  · rw [if_neg hpid]
    exact ⟨hpid, by simp⟩

theorem mutexesLiberados_map (h : ∀ m ∈ k.listaMutexes, m.SinDisputa pid)
    (hk' : k'.listaMutexes = k.listaMutexes.map (MutexSistema.liberado pid)) :
    MutexesLiberados k k' pid := by
  unfold MutexesLiberados
  rw [hk']
  constructor
  · intro m' hm'
    obtain ⟨m, hm, rfl⟩ := List.mem_map.mp hm'
    exact MutexSistema.liberado_ajeno (h m hm)
  · intro i m hm hpid
    have hcola := h m (List.mem_of_getElem? hm) hpid
    refine ⟨m.liberado pid, ?_, ?_, ?_⟩
    · rw [List.getElem?_map, hm]
      rfl
    · rw [hcola, MutexSistema.liberado, if_pos hpid]
      rfl
    · rw [hcola]
      exact fun _ hnada ↦ absurd hnada (Option.not_mem_none _)

/-- The release returns with everything released, without locking the table twice, exactly when no
mutex that the process holds has a waiter. -/
theorem liberarMutexesDeProceso_completa (k : KernelScheduler) (pid : Pid)
    (hlibre : k.mutexListaMutexes = false) :
    (∃ k', liberarMutexesDeProceso pid k = .ok () k' ∧ MutexesLiberados k k' pid) ↔
      ∀ m ∈ k.listaMutexes, m.asignadoAPid = some pid → m.colaBloqueados = [] := by
  constructor
  · rintro ⟨k', hok, _⟩ m hm
    unfold liberarMutexesDeProceso at hok
    rw [Blocking.bind_ok (lockListaMutexes_libre hlibre), Blocking.bind_ok (x := get) rfl] at hok
    obtain ⟨_, k₁, hrecorrer, _⟩ := Blocking.bind_eq_ok.mp hok
    obtain ⟨hlibres, _⟩ := (recorrer_ok_iff pid rfl _ (Nat.le_refl _)).mp hrecorrer
    obtain ⟨i, hi, rfl⟩ := List.getElem_of_mem hm
    exact hlibres i _ hi (List.getElem?_eq_getElem hi)
  · intro h
    exact ⟨_, liberarMutexesDeProceso_sinDisputa hlibre h, mutexesLiberados_map h rfl⟩

/-- FIFO with two processes, of which the first holds the mutex `A` and ends. -/
def conMutex (cola : List Pid) : KernelScheduler where
  __ := KernelScheduler.inicial ⟨.fifo, 0, [], false, 0, 0⟩
  pcbs pid :=
    if pid ∈ cola then ⟨0, .block, 0, 0, 0, some 0, false, 1, none⟩
    else ⟨0, .exitState, 0, 0, 0, none, false, 0, none⟩
  contadorPids := 2
  todosLosProcesos := [0, 1]
  listaMutexes := [⟨"A", some 0, cola⟩]

/-- FIFO with three processes: the first holds the mutex `A` and ends, and the third waits for the `B` of the
second. -/
def conOtroMutex : KernelScheduler where
  __ := KernelScheduler.inicial ⟨.fifo, 0, [], false, 0, 0⟩
  pcbs pid :=
    if pid = 0 then ⟨0, .exitState, 0, 0, 0, none, false, 0, none⟩
    else if pid = 1 then ⟨0, .exec, 0, 0, 0, none, false, 0, none⟩
    else ⟨0, .block, 0, 0, 0, some 1, false, 1, none⟩
  contadorPids := 3
  todosLosProcesos := [0, 1, 2]
  listaMutexes := [⟨"A", some 0, []⟩, ⟨"B", some 1, [2]⟩]

theorem liberarMutexesDeProceso_sinEspera :
    ∃ k', liberarMutexesDeProceso 0 conOtroMutex = .ok () k' ∧ MutexesLiberados conOtroMutex k' 0 :=
  (liberarMutexesDeProceso_completa conOtroMutex 0 rfl).mpr (by decide)

/-- Process 1 waits for the mutex of process 0 when that one ends: the thread stops in its own lock. -/
theorem liberarMutexesDeProceso_seBloquea :
    ¬ ∀ (k : KernelScheduler) (pid : Pid), k.mutexListaMutexes = false →
      ∃ k', liberarMutexesDeProceso pid k = .ok () k' ∧ MutexesLiberados k k' pid := by
  intro hclaim
  obtain ⟨k', hok, _⟩ := hclaim (conMutex [1]) 0 rfl
  have hno : (liberarMutexesDeProceso 0).returns (conMutex [1]) = false := by decide
  rw [Blocking.returns_of_ok hok] at hno
  exact Bool.noConfusion hno

end PlugAndPlay.Planificador
