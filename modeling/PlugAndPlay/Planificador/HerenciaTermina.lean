import PlugAndPlay.Planificador.HerenciaExacta

/-!
# The propagation comes to an end

The calls that `propagar_herencia_prioridad` makes one inside the other, without a bound on their number. They
follow the holders of mutexes, which may come around in a circle. A process that was lowered has the inherited
priority and is not lowered by it again, so no call comes twice to one process.
-/

open PlugAndPlay.Library

namespace PlugAndPlay.Planificador.KernelScheduler

/-! ## Calls -/

/-- Who holds the mutex that the process waits for. -/
def poseedorEsperado (k : KernelScheduler) (bloqueado : Pid) : Option Pid :=
  ((k.pcbs bloqueado).mutexEsperando.bind fun i ↦ k.listaMutexes[i]?).bind MutexSistema.asignadoAPid

/-- The process whose priority the call lowers, if there is one. -/
def heredero (k : KernelScheduler) (bloqueado : Pid) (aHeredar : ℤ) : Option Pid :=
  (k.poseedorEsperado bloqueado).filter fun p ↦ p ∈ k.todosLosProcesos ∧ aHeredar < k.dinamicas p

def heredar (k : KernelScheduler) (poseedor : Pid) (aHeredar : ℤ) : KernelScheduler :=
  (k.cambiarPrioridadDinamica poseedor aHeredar).reubicarProcesoEnReady poseedor
    (k.pcbs poseedor).prioridadDinamica aHeredar

/-- A call for the process returns, with the processes whose priority it lowered one after another and the
state it left. -/
inductive Propaga (aHeredar : ℤ) : KernelScheduler → Pid → List Pid → KernelScheduler → Prop
  | nada {k : KernelScheduler} {bloqueado : Pid} (h : k.heredero bloqueado aHeredar = none) :
    Propaga aHeredar k bloqueado [] k
  | ultimo {k : KernelScheduler} {bloqueado poseedor : Pid} (h : k.heredero bloqueado aHeredar = some poseedor)
      (hespera : ((k.heredar poseedor aHeredar).pcbs poseedor).mutexEsperando = none) :
    Propaga aHeredar k bloqueado [poseedor] (k.heredar poseedor aHeredar)
  | sigue {k k' : KernelScheduler} {bloqueado poseedor : Pid} {bajados : List Pid}
      (h : k.heredero bloqueado aHeredar = some poseedor)
      (hespera : ((k.heredar poseedor aHeredar).pcbs poseedor).mutexEsperando.isSome)
      (hllamada : Propaga aHeredar (k.heredar poseedor aHeredar) poseedor bajados k') :
    Propaga aHeredar k bloqueado (poseedor :: bajados) k'

/-- The processes follow one another on the wait chain of `bloqueado`, no process twice, and to each of them the
priority comes down to `aHeredar`. All others keep theirs. -/
structure Bajada (k : KernelScheduler) (bloqueado : Pid) (aHeredar : ℤ) (bajados : List Pid)
    (k' : KernelScheduler) : Prop where
  pocos : bajados.length ≤ k.todosLosProcesos.length
  unaVez : bajados.Nodup
  cadena : (bloqueado :: bajados).IsChain fun p q ↦ k.poseedorEsperado p = some q
  bajan : ∀ p ∈ bajados, p ∈ k.todosLosProcesos ∧ aHeredar < k.dinamicas p ∧ k'.dinamicas p = aHeredar
  otras : ∀ p ∉ bajados, k'.dinamicas p = k.dinamicas p

/-! ## One call -/

variable {k k' : KernelScheduler} {bloqueado poseedor : Pid} {aHeredar : ℤ} {bajados : List Pid}

theorem heredero_eq_some : k.heredero bloqueado aHeredar = some poseedor ↔
    k.poseedorEsperado bloqueado = some poseedor ∧ poseedor ∈ k.todosLosProcesos ∧
      aHeredar < k.dinamicas poseedor := by
  simp [heredero, Option.filter_eq_some_iff]

theorem salvoDinamicas_heredar (k : KernelScheduler) (poseedor : Pid) (aHeredar : ℤ) :
    SalvoDinamicas k (k.heredar poseedor aHeredar) :=
  (salvoDinamicas_cambiar _ _ _).trans (salvoReady_reubicar _ _ _ _).salvoDinamicas

theorem dinamicas_heredar (k : KernelScheduler) (poseedor : Pid) (aHeredar : ℤ) :
    (k.heredar poseedor aHeredar).dinamicas = Function.update k.dinamicas poseedor aHeredar := by
  rw [← dinamicas_cambiar]
  exact (salvoReady_reubicar _ _ _ _).dinamicas

/-- The links of the chain stay. -/
theorem SalvoDinamicas.poseedorEsperado (h : SalvoDinamicas k k') :
    k'.poseedorEsperado = k.poseedorEsperado := by
  funext p
  unfold KernelScheduler.poseedorEsperado
  rw [h.mutexEsperando, h.listaMutexes]

/-- The function of the model with one more turn. -/
theorem propagarHerencia_succ (fuel : ℕ) (k : KernelScheduler) (bloqueado : Pid) (aHeredar : ℤ) :
    propagarHerencia (fuel + 1) k bloqueado aHeredar =
      match k.heredero bloqueado aHeredar with
      | none => k
      | some poseedor =>
        if ((k.heredar poseedor aHeredar).pcbs poseedor).mutexEsperando.isSome then
          propagarHerencia fuel (k.heredar poseedor aHeredar) poseedor aHeredar
        else k.heredar poseedor aHeredar := by
  rw [propagarHerencia]
  unfold heredero poseedorEsperado
  cases (k.pcbs bloqueado).mutexEsperando.bind fun i ↦ k.listaMutexes[i]? with
  | none => rfl
  | some m =>
    simp only [Option.bind_some]
    cases m.asignadoAPid with
    | none => rfl
    | some poseedor =>
      by_cases hhereda : poseedor ∈ k.todosLosProcesos ∧ aHeredar < k.dinamicas poseedor
      · have hfiltro : (some poseedor).filter (fun p ↦ p ∈ k.todosLosProcesos ∧ aHeredar < k.dinamicas p) =
            some poseedor := Option.filter_some_pos (decide_eq_true hhereda)
        simp only [hfiltro]
        exact if_pos hhereda
      · have hfiltro : (some poseedor).filter (fun p ↦ p ∈ k.todosLosProcesos ∧ aHeredar < k.dinamicas p) =
            none := Option.filter_some_neg (decide_eq_false hhereda)
        simp only [hfiltro]
        exact if_neg hhereda

/-! ## All calls -/

/-- Everything that a call did, and no more processes than it could lower. -/
def Alcance (k : KernelScheduler) (bloqueado : Pid) (aHeredar : ℤ) (bajados : List Pid) (k' : KernelScheduler) :
    Prop :=
  k.Bajada bloqueado aHeredar bajados k' ∧
    bajados.length ≤ k.todosLosProcesos.countP fun p ↦ aHeredar < k.dinamicas p

theorem alcance_nada (k : KernelScheduler) (bloqueado : Pid) (aHeredar : ℤ) :
    k.Alcance bloqueado aHeredar [] k := by
  refine ⟨?_, Nat.zero_le _⟩
  exact ⟨Nat.zero_le _, List.nodup_nil, .singleton _, fun _ h ↦ absurd h List.not_mem_nil, fun _ _ ↦ rfl⟩

/-- What happens after a process was lowered never comes back to it: its priority is `aHeredar` already. -/
theorem Alcance.cons (hheredero : k.heredero bloqueado aHeredar = some poseedor)
    (h : (k.heredar poseedor aHeredar).Alcance poseedor aHeredar bajados k') :
    k.Alcance bloqueado aHeredar (poseedor :: bajados) k' := by
  obtain ⟨hespera, hreg, hmayor⟩ := heredero_eq_some.mp hheredero
  obtain ⟨hbajada, hcuenta⟩ := h
  have hsalvo := salvoDinamicas_heredar k poseedor aHeredar
  have hdinamicas := dinamicas_heredar k poseedor aHeredar
  have hya : (k.heredar poseedor aHeredar).dinamicas poseedor = aHeredar := by
    rw [hdinamicas, Function.update_self]
  have hnuevo : poseedor ∉ bajados := by
    intro hmem
    have hotra := (hbajada.bajan poseedor hmem).2.1
    rw [hya] at hotra
    exact lt_irrefl _ hotra
  have hfin : k'.dinamicas poseedor = aHeredar := (hbajada.otras poseedor hnuevo).trans hya
  have hmenos : (poseedor :: bajados).length ≤ k.todosLosProcesos.countP fun p ↦ aHeredar < k.dinamicas p := by
    rw [hsalvo.todosLosProcesos, hdinamicas] at hcuenta
    exact Nat.lt_of_le_of_lt hcuenta (Inheritance.countP_update_lt hreg hmayor)
  refine ⟨⟨hmenos.trans List.countP_le_length, ?_, ?_, ?_, ?_⟩, hmenos⟩
  · exact List.nodup_cons.mpr ⟨hnuevo, hbajada.unaVez⟩
  · have hcadena := hbajada.cadena
    rw [hsalvo.poseedorEsperado] at hcadena
    exact .cons_cons hespera hcadena
  · intro p hp
    rcases List.mem_cons.mp hp with rfl | hp
    · exact ⟨hreg, hmayor, hfin⟩
    · obtain ⟨hregP, hmayorP, hfinP⟩ := hbajada.bajan p hp
      have hotro : p ≠ poseedor := fun heq ↦ hnuevo (heq ▸ hp)
      rw [hsalvo.todosLosProcesos] at hregP
      rw [hdinamicas, Function.update_of_ne hotro] at hmayorP
      exact ⟨hregP, hmayorP, hfinP⟩
  · intro p hp
    have hotro : p ≠ poseedor := fun heq ↦ hp (List.mem_cons.mpr (.inl heq))
    have hfuera : p ∉ bajados := fun hmem ↦ hp (List.mem_cons_of_mem _ hmem)
    rw [hbajada.otras p hfuera, hdinamicas, Function.update_of_ne hotro]

theorem Propaga.alcance (h : Propaga aHeredar k bloqueado bajados k') :
    k.Alcance bloqueado aHeredar bajados k' := by
  induction h with
  | nada h => exact alcance_nada _ _ _
  | ultimo h hespera => exact (alcance_nada _ _ _).cons h
  | sigue h hespera hllamada ih => exact ih.cons h

/-- A call has one way to go. -/
theorem Propaga.unico {otros : List Pid} {k'' : KernelScheduler} (h : Propaga aHeredar k bloqueado bajados k')
    (h' : Propaga aHeredar k bloqueado otros k'') : otros = bajados ∧ k'' = k' := by
  induction h generalizing otros k'' with
  | nada h =>
    cases h' with
    | nada => exact ⟨rfl, rfl⟩
    | ultimo hotro | sigue hotro =>
      rw [h] at hotro
      cases hotro
  | ultimo h hespera =>
    cases h' with
    | nada hotro =>
      rw [h] at hotro
      cases hotro
    | ultimo hotro =>
      cases h.symm.trans hotro
      exact ⟨rfl, rfl⟩
    | sigue hotro hsigue =>
      cases h.symm.trans hotro
      rw [hespera] at hsigue
      cases hsigue
  | sigue h hespera hllamada ih =>
    cases h' with
    | nada hotro =>
      rw [h] at hotro
      cases hotro
    | ultimo hotro hsigue =>
      cases h.symm.trans hotro
      rw [hsigue] at hespera
      cases hespera
    | sigue hotro _ hotra =>
      cases h.symm.trans hotro
      obtain ⟨rfl, rfl⟩ := ih hotra
      exact ⟨rfl, rfl⟩

/-- With a turn for each process that can still be lowered the last call returns. -/
theorem propaga_of_countP_le (fuel : ℕ) (k : KernelScheduler) (bloqueado : Pid) (aHeredar : ℤ)
    (hfuel : (k.todosLosProcesos.countP fun p ↦ aHeredar < k.dinamicas p) ≤ fuel) :
    ∃ bajados, Propaga aHeredar k bloqueado bajados (propagarHerencia fuel k bloqueado aHeredar) := by
  induction fuel generalizing k bloqueado with
  | zero =>
    apply Exists.intro []
    apply Propaga.nada
    by_contra hhay
    obtain ⟨poseedor, hheredero⟩ := Option.ne_none_iff_exists'.mp hhay
    obtain ⟨-, hreg, hmayor⟩ := heredero_eq_some.mp hheredero
    have hnadie := List.countP_eq_zero.mp (Nat.le_zero.mp hfuel) poseedor hreg
    exact hnadie (decide_eq_true hmayor)
  | succ fuel ih =>
    rw [propagarHerencia_succ]
    cases hheredero : k.heredero bloqueado aHeredar with
    | none => exact ⟨[], .nada hheredero⟩
    | some poseedor =>
      obtain ⟨-, hreg, hmayor⟩ := heredero_eq_some.mp hheredero
      simp only
      split
      · rename_i hespera
        have hmenos : ((k.heredar poseedor aHeredar).todosLosProcesos.countP fun p ↦
            aHeredar < (k.heredar poseedor aHeredar).dinamicas p) ≤ fuel := by
          rw [(salvoDinamicas_heredar k poseedor aHeredar).todosLosProcesos, dinamicas_heredar]
          exact Nat.le_of_lt_succ ((Inheritance.countP_update_lt hreg hmayor).trans_le hfuel)
        obtain ⟨bajados, hllamada⟩ := ih (k.heredar poseedor aHeredar) poseedor hmenos
        exact ⟨poseedor :: bajados, .sigue hheredero hespera hllamada⟩
      · rename_i hno
        exact ⟨[poseedor], .ultimo hheredero (Option.not_isSome_iff_eq_none.mp hno)⟩

/-- Whatever the mutexes, their holders and the priorities are, `propagar_herencia_prioridad` returns after no
more calls than there are processes. It lowers the processes of a stretch of the wait chain, each once and to
`aHeredar`, and no other. -/
theorem propagacion_termina (k : KernelScheduler) (bloqueado : Pid) (aHeredar : ℤ) :
    ∃ bajados, Propaga aHeredar k bloqueado bajados (k.propagarHerenciaPrioridad bloqueado aHeredar) ∧
      (∀ otros k', Propaga aHeredar k bloqueado otros k' → otros = bajados) ∧
        k.Bajada bloqueado aHeredar bajados (k.propagarHerenciaPrioridad bloqueado aHeredar) := by
  obtain ⟨bajados, hllamada⟩ := propaga_of_countP_le k.todosLosProcesos.length k bloqueado aHeredar
    List.countP_le_length
  exact ⟨bajados, hllamada, fun _ _ hotra ↦ (hllamada.unico hotra).1, hllamada.alcance.1⟩

end PlugAndPlay.Planificador.KernelScheduler
