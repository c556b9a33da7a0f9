import Mathlib.Data.List.Pairwise
import PlugAndPlay.Library.Transitions
import PlugAndPlay.Planificador.Cpus

/-!
# Quantum timers and the dispatches they are for

The connected CPUs, the planner and the receptor threads as far as quantum timers go: sections under the
lock of the table, with `iniciar_quantum_timer` apart from the dispatch it follows. A timer is started with
a CPU and a process; the dispatch it is for is written next to them.
-/

open PlugAndPlay.Library

namespace PlugAndPlay.Planificador

/-- The arguments of `quantum_timer_thread`, and the number of the dispatch of the CPU it is for. -/
structure TimerEpisodio where
  cpuId : ℕ
  pid : Pid
  episodio : ℕ
deriving Repr, DecidableEq

/-- Where the receptor thread of a CPU is: before its next message, in a memory syscall of the process, or
before the `iniciar_quantum_timer` for the process it gave back. -/
inductive FaseQuantum
  | leer
  | memoria (pid : Pid)
  | armar (t : TimerEpisodio)
deriving Repr, DecidableEq

/-- `episodio` counts the dispatches of each CPU, `planificador` is the `iniciar_quantum_timer` that the
short-term planner is about to do, and `timers` are the threads that sleep. -/
structure Quantums where
  cpus : List TCpu
  episodio : ℕ → ℕ
  planificador : Option TimerEpisodio
  receptor : ℕ → FaseQuantum
  timers : List TimerEpisodio

/-- `conTimer` tells whether the quantum of the process is positive. -/
inductive EventoQuantum
  | despachar (pid : Pid) (conTimer : Bool)
  | armarDespacho
  | devolver (cpuId : ℕ) (memoria : Bool)
  | terminarMemoria (cpuId : ℕ) (vuelve conTimer : Bool)
  | armarVuelta (cpuId : ℕ)
  | vencer (t : TimerEpisodio)
deriving Repr, DecidableEq

namespace Quantums

variable (r : Quantums)

/-- The next dispatch of the CPU begins. -/
def empezar (cpuId : ℕ) : Quantums :=
  { r with episodio := Function.update r.episodio cpuId (r.episodio cpuId + 1) }

def conReceptor (cpuId : ℕ) (fase : FaseQuantum) : Quantums :=
  { r with receptor := Function.update r.receptor cpuId fase }

/-- `iniciar_quantum_timer`. -/
def armar (t : TimerEpisodio) : Quantums :=
  { r with cpus := iniciarQuantumTimer r.cpus t.cpuId t.pid, timers := r.timers ++ [t] }

def despachar (pid : Pid) (conTimer : Bool) : Quantums :=
  match elegirCpu r.cpus pid with
  | (none, _) => r
  | (some c, cpus) =>
    let r₁ := { r with cpus := cpus }.empezar c.cpuId
    if conTimer then { r₁ with planificador := some ⟨c.cpuId, pid, r₁.episodio c.cpuId⟩ } else r₁

def terminarMemoria (cpuId : ℕ) (pid : Pid) (vuelve conTimer : Bool) : Quantums :=
  if vuelve then
    match devolverProcesoAMismaCpu r.cpus cpuId pid with
    | (none, _) => r.conReceptor cpuId .leer
    | (some _, cpus) =>
      let r₁ := { r with cpus := cpus }.empezar cpuId
      r₁.conReceptor cpuId (if conTimer then .armar ⟨cpuId, pid, r₁.episodio cpuId⟩ else .leer)
  else { r with cpus := liberarCpuReservada r.cpus cpuId }.conReceptor cpuId .leer

/-- One step. A CPU returns the process that it runs. -/
def paso : EventoQuantum → Option Quantums
  | .despachar pid conTimer => if r.planificador.isNone then some (r.despachar pid conTimer) else none
  | .armarDespacho => r.planificador.map fun t ↦ { r with planificador := none }.armar t
  | .devolver cpuId memoria =>
    match r.receptor cpuId, (buscarCpu r.cpus cpuId).bind TCpu.procesoActual with
    | .leer, some pid =>
      if memoria then
        some ({ r with cpus := (retirarProcesoDeCpuReservando r.cpus cpuId).2 }.conReceptor cpuId
          (.memoria pid))
      else some { r with cpus := (retirarProcesoDeCpu r.cpus cpuId).2 }
    | _, _ => none
  | .terminarMemoria cpuId vuelve conTimer =>
    match r.receptor cpuId with
    | .memoria pid => some (r.terminarMemoria cpuId pid vuelve conTimer)
    | _ => none
  | .armarVuelta cpuId =>
    match r.receptor cpuId with
    | .armar t => some ((r.armar t).conReceptor cpuId .leer)
    | _ => none
  | .vencer t =>
    if t ∈ r.timers then
      some { r with cpus := (vencerQuantum r.cpus t.cpuId t.pid).2, timers := r.timers.erase t }
    else none

/-- The dispatch that the timer is for goes on. -/
def EnEpisodio (t : TimerEpisodio) : Prop :=
  (buscarCpu r.cpus t.cpuId).bind TCpu.procesoActual = some t.pid ∧ r.episodio t.cpuId = t.episodio

instance (t : TimerEpisodio) : Decidable (r.EnEpisodio t) := inferInstanceAs (Decidable (_ ∧ _))

/-- No timer that sleeps would interrupt a later dispatch of its process on its CPU, and each one whose
dispatch goes on would interrupt it. -/
def TimersFieles : Prop :=
  ∀ t ∈ r.timers, ((vencerQuantum r.cpus t.cpuId t.pid).1.isSome →
      (buscarCpu r.cpus t.cpuId).bind TCpu.procesoActual = some t.pid → r.EnEpisodio t) ∧
    (r.EnEpisodio t → (vencerQuantum r.cpus t.cpuId t.pid).1.isSome)

/-- Any CPUs with ids of their own, all free. -/
def Arranque : Prop :=
  IdsDistintos r.cpus ∧ (∀ c ∈ r.cpus, c.procesoActual = none ∧ c.timerActivo = false) ∧
    r.planificador = none ∧ (∀ cpuId, r.receptor cpuId = .leer) ∧ r.timers = []

/-! ## The invariant -/

def MismaPareja (t t' : TimerEpisodio) : Prop := t.cpuId = t'.cpuId ∧ t.pid = t'.pid

instance (t t' : TimerEpisodio) : Decidable (MismaPareja t t') := inferInstanceAs (Decidable (_ ∧ _))

/-- What holds of the slot of one CPU: its process, its timer and the timers that were started for it. -/
structure SlotFiel (r : Quantums) (cpuId : ℕ) (c : TCpu) : Prop where
  ocupada : c.procesoActual.isSome → c.disponible = false
  armada : c.timerActivo = true → c.procesoActual = some c.timerPid
  memoria : ∀ pid, r.receptor cpuId = .memoria pid → c.disponible = false ∧ c.procesoActual = none
  vuelta : ∀ t, r.receptor cpuId = .armar t →
    t.cpuId = cpuId ∧ c.procesoActual = some t.pid ∧ r.episodio cpuId = t.episodio
  timers : ∀ t ∈ r.timers, t.cpuId = cpuId → t.episodio ≤ r.episodio cpuId ∧
    ((c.timerActivo = true ∧ c.timerPid = t.pid) ↔
      (c.procesoActual = some t.pid ∧ r.episodio cpuId = t.episodio))

structure Fiel (r : Quantums) : Prop where
  ids : IdsDistintos r.cpus
  slots : ∀ cpuId c, buscarCpu r.cpus cpuId = some c → r.SlotFiel cpuId c
  receptores : ∀ cpuId, r.receptor cpuId ≠ .leer → (buscarCpu r.cpus cpuId).isSome
  parejas : r.timers.Pairwise fun t t' ↦ ¬ MismaPareja t t'

variable {r r' : Quantums} {cpuId : ℕ} {c : TCpu} {pid : Pid} {t : TimerEpisodio}

/-- A step on one CPU. -/
theorem Fiel.cambiar (h : r.Fiel) {f : TCpu → TCpu} (hid : ∀ c, (f c).cpuId = c.cpuId)
    (hcpus : r'.cpus = modificarCpu r.cpus cpuId f)
    (hepisodio : ∀ otro, otro ≠ cpuId → r'.episodio otro = r.episodio otro)
    (hreceptor : ∀ otro, otro ≠ cpuId → r'.receptor otro = r.receptor otro)
    (hsuyo : r'.receptor cpuId ≠ .leer → (buscarCpu r.cpus cpuId).isSome)
    (htimers : ∀ t ∈ r'.timers, t.cpuId ≠ cpuId → t ∈ r.timers)
    (hparejas : r'.timers.Pairwise fun t t' ↦ ¬ MismaPareja t t')
    (hslot : ∀ c, buscarCpu r.cpus cpuId = some c → r'.SlotFiel cpuId (f c)) : r'.Fiel := by
  refine ⟨?_, fun otro d hd ↦ ?_, fun otro hno ↦ ?_, hparejas⟩
  · rw [hcpus]
    exact h.ids.modificarCpu cpuId hid
  swap
  · rw [hcpus]
    by_cases hmisma : otro = cpuId
    · rw [hmisma] at hno ⊢
      rw [buscarCpu_modificarCpu_mismo r.cpus cpuId hid, Option.isSome_map]
      exact hsuyo hno
    · rw [hreceptor otro hmisma] at hno
      rw [buscarCpu_modificarCpu_otro r.cpus hmisma hid]
      exact h.receptores otro hno
  · rw [hcpus] at hd
    by_cases hmisma : otro = cpuId
    · rw [hmisma] at hd ⊢
      rw [buscarCpu_modificarCpu_mismo r.cpus cpuId hid] at hd
      obtain ⟨c, hc, rfl⟩ := Option.map_eq_some_iff.mp hd
      exact hslot c hc
    · rw [buscarCpu_modificarCpu_otro r.cpus hmisma hid] at hd
      have hantes := h.slots otro d hd
      refine ⟨hantes.ocupada, hantes.armada, ?_, ?_, fun t ht hcpu ↦ ?_⟩
      · rw [hreceptor otro hmisma]
        exact hantes.memoria
      · rw [hreceptor otro hmisma, hepisodio otro hmisma]
        exact hantes.vuelta
      · rw [hepisodio otro hmisma]
        exact hantes.timers t (htimers t ht (hcpu ▸ hmisma)) hcpu

theorem enEpisodio_iff (hc : buscarCpu r.cpus t.cpuId = some c) :
    r.EnEpisodio t ↔ c.procesoActual = some t.pid ∧ r.episodio t.cpuId = t.episodio := by
  unfold EnEpisodio
  rw [hc, Option.bind_some]

/-- A slot without a process has no timer. -/
theorem SlotFiel.desarmada (h : r.SlotFiel cpuId c) (hlibre : c.procesoActual = none) :
    c.timerActivo = false := by
  by_contra hactivo
  rw [h.armada (eq_true_of_ne_false hactivo)] at hlibre
  cases hlibre

/-- A dispatch begins on a slot without a process: no timer that sleeps is for it. -/
theorem SlotFiel.nuevoEpisodio (h : r.SlotFiel cpuId c) (hlibre : c.procesoActual = none)
    (ht : t ∈ r.timers) (hcpu : t.cpuId = cpuId) (pid : Pid) :
    t.episodio ≤ r.episodio cpuId + 1 ∧ ((c.timerActivo = true ∧ c.timerPid = t.pid) ↔
      (some pid = some t.pid ∧ r.episodio cpuId + 1 = t.episodio)) := by
  have hviejo := (h.timers t ht hcpu).1
  have hno := h.desarmada hlibre
  refine ⟨by omega, iff_of_false (fun harmada ↦ ?_) fun hnuevo ↦ ?_⟩
  · rw [hno] at harmada
    cases harmada.1
  · omega

theorem Fiel.despachar (h : r.Fiel) (pid : Pid) (conTimer : Bool) : (r.despachar pid conTimer).Fiel := by
  unfold Quantums.despachar
  cases helegir : elegirCpu r.cpus pid with
  | mk elegida cpus =>
    cases elegida with
    | none => exact h
    | some c =>
      obtain ⟨hlibre, hbuscar, rfl⟩ := h.ids.elegirCpu helegir
      have hantes := h.slots c.cpuId c hbuscar
      have hvacia : c.procesoActual = none := by
        cases hactual : c.procesoActual with
        | none => rfl
        | some q =>
          have hocupada := hantes.ocupada (by rw [hactual]; rfl)
          rw [hlibre.1] at hocupada
          cases hocupada
      have hfiel : ∀ despacho, Fiel { r.empezar c.cpuId with
          cpus := modificarCpu r.cpus c.cpuId fun c ↦
            { c with disponible := false, procesoActual := some pid }
          planificador := despacho } := by
        intro despacho
        refine h.cambiar (fun _ ↦ ?_) rfl (fun otro hotro ↦ Function.update_of_ne hotro _ _)
          (fun _ _ ↦ rfl) (h.receptores c.cpuId) (fun _ ht _ ↦ ht) h.parejas fun d hd ↦ ?_
        · rfl
        obtain rfl := Option.some.inj (hbuscar.symm.trans hd)
        refine ⟨fun _ ↦ rfl, fun hactivo ↦ ?_, fun q hq ↦ ?_, fun t ht ↦ ?_, fun t ht hcpu ↦ ?_⟩
        · have hno := hantes.desarmada hvacia
          exact absurd (hactivo.symm.trans hno) nofun
        · have hreservada := (hantes.memoria q hq).1
          rw [hlibre.1] at hreservada
          cases hreservada
        · have hactual := (hantes.vuelta t ht).2.1
          rw [hvacia] at hactual
          cases hactual
        · have hnuevo := hantes.nuevoEpisodio hvacia ht hcpu pid
          have hepisodio : (r.empezar c.cpuId).episodio c.cpuId = r.episodio c.cpuId + 1 :=
            Function.update_self _ _ _
          rw [← hepisodio] at hnuevo
          exact hnuevo
      simp only
      split
      · exact hfiel _
      · exact hfiel _

/-- A timer starts while its dispatch goes on, and no timer for its pair sleeps. -/
theorem Fiel.armar (h : r.Fiel) (hen : r.EnEpisodio t) (hsolo : ∀ t' ∈ r.timers, ¬ MismaPareja t' t)
    {fase : ℕ → FaseQuantum} (hfase : ∀ otro, otro ≠ t.cpuId → fase otro = r.receptor otro)
    (hsuya : fase t.cpuId = .leer ∨ fase t.cpuId = r.receptor t.cpuId)
    (despacho : Option TimerEpisodio) :
    Fiel { r.armar t with receptor := fase, planificador := despacho } := by
  refine h.cambiar (fun _ ↦ ?_) rfl (fun _ _ ↦ rfl) hfase (fun hno ↦ ?_) (fun t' ht' hotro ↦ ?_) ?_
    fun c hc ↦ ?_
  · rfl
  · apply h.receptores
    rw [← hsuya.resolve_left hno]
    exact hno
  · rcases List.mem_append.mp ht' with ht' | ht'
    · exact ht'
    · rw [List.mem_singleton.mp ht'] at hotro
      exact absurd rfl hotro
  · refine List.pairwise_append.mpr ⟨h.parejas, List.pairwise_singleton _ _, fun t' ht' u hu ↦ ?_⟩
    rw [List.mem_singleton.mp hu]
    exact hsolo t' ht'
  · have hantes := h.slots t.cpuId c hc
    obtain ⟨hactual, hepisodio⟩ := (enEpisodio_iff hc).mp hen
    have hmisma : ∀ otra, otra ≠ .leer → fase t.cpuId = otra → r.receptor t.cpuId = otra := by
      intro otra hno hotra
      rw [← hotra] at hno ⊢
      exact (hsuya.resolve_left hno).symm
    refine ⟨hantes.ocupada, fun _ ↦ hactual, fun q hq ↦ hantes.memoria q (hmisma _ nofun hq),
      fun u hu ↦ hantes.vuelta u (hmisma _ nofun hu), fun t' ht' hcpu ↦ ?_⟩
    rcases List.mem_append.mp ht' with ht' | ht'
    · refine ⟨(hantes.timers t' ht' hcpu).1, iff_of_false (fun harmada ↦ ?_) fun hactual' ↦ ?_⟩
      · exact hsolo t' ht' ⟨hcpu, harmada.2.symm⟩
      · exact hsolo t' ht' ⟨hcpu, Option.some.inj (hactual'.1.symm.trans hactual)⟩
    · rw [List.mem_singleton.mp ht']
      exact ⟨Nat.le_of_eq hepisodio.symm, iff_of_true ⟨rfl, rfl⟩ ⟨hactual, hepisodio⟩⟩

/-- The process leaves its slot; no dispatch goes on there. -/
theorem Fiel.retirar (h : r.Fiel) {f : TCpu → TCpu} (hid : ∀ c, (f c).cpuId = c.cpuId)
    (hactual : ∀ c, (f c).procesoActual = none) (htimer : ∀ c, (f c).timerActivo = false)
    {fase : ℕ → FaseQuantum} (hfase : ∀ otro, otro ≠ cpuId → fase otro = r.receptor otro)
    (hmemoria : ∀ c pid, buscarCpu r.cpus cpuId = some c → fase cpuId = .memoria pid →
      (f c).disponible = false)
    (hsuyo : fase cpuId ≠ .leer → (buscarCpu r.cpus cpuId).isSome) (hvuelta : ∀ t, fase cpuId ≠ .armar t) :
    Fiel { r with cpus := modificarCpu r.cpus cpuId f, receptor := fase } := by
  refine h.cambiar hid rfl (fun _ _ ↦ rfl) hfase hsuyo (fun _ ht _ ↦ ht) h.parejas fun c hc ↦ ?_
  have hantes := h.slots cpuId c hc
  refine ⟨fun hno ↦ ?_, fun hno ↦ ?_, fun q hq ↦ ⟨hmemoria c q hc hq, hactual c⟩,
    fun t ht ↦ absurd ht (hvuelta t), fun t ht hcpu ↦ ⟨(hantes.timers t ht hcpu).1, ?_⟩⟩
  · rw [hactual] at hno
    cases hno
  · rw [htimer] at hno
    cases hno
  · rw [hactual, htimer]
    exact iff_of_false (fun hno ↦ Bool.false_ne_true hno.1) fun hno ↦ nomatch hno.1

theorem Fiel.devolver (h : r.Fiel) {memoria : Bool} (hpaso : r.paso (.devolver cpuId memoria) = some r') :
    r'.Fiel := by
  simp only [paso] at hpaso
  split at hpaso
  swap
  · cases hpaso
  rename_i pid hfase hactual
  split at hpaso
  · cases hpaso
    refine h.retirar (fun _ ↦ ?_) (fun _ ↦ ?_) (fun _ ↦ ?_)
      (fun otro hotro ↦ Function.update_of_ne hotro _ _) (fun c q hc _ ↦ ?_) (fun _ ↦ ?_) fun t ht ↦ ?_
    · rfl
    · rfl
    · rfl
    · rw [hc, Option.bind_some] at hactual
      exact (h.slots cpuId c hc).ocupada (by rw [hactual]; rfl)
    · cases hc : buscarCpu r.cpus cpuId with
      | none =>
        rw [hc] at hactual
        cases hactual
      | some c => rfl
    · rw [Function.update_self] at ht
      cases ht
  · cases hpaso
    refine h.retirar (fun _ ↦ ?_) (fun _ ↦ ?_) (fun _ ↦ ?_) (fun _ _ ↦ rfl) (fun c q _ hq ↦ ?_)
      (h.receptores cpuId) fun t ht ↦ ?_
    · rfl
    · rfl
    · rfl
    · rw [hfase] at hq
      cases hq
    · rw [hfase] at ht
      cases ht

theorem Fiel.terminarMemoria (h : r.Fiel) {vuelve conTimer : Bool}
    (hpaso : r.paso (.terminarMemoria cpuId vuelve conTimer) = some r') : r'.Fiel := by
  simp only [paso] at hpaso
  split at hpaso
  swap
  · cases hpaso
  rename_i pid hfase
  cases hpaso
  have hfases : ∀ (fase : FaseQuantum) (otro : ℕ), otro ≠ cpuId →
      Function.update r.receptor cpuId fase otro = r.receptor otro :=
    fun fase otro hotro ↦ Function.update_of_ne hotro _ _
  have hhay := h.receptores cpuId (by rw [hfase]; nofun)
  -- the slot with its flags, when the thread reads its next message
  have hsuelto : ∀ {f : TCpu → TCpu}, (∀ c, (f c).cpuId = c.cpuId) →
      (∀ c, (f c).procesoActual = c.procesoActual) → (∀ c, (f c).timerActivo = c.timerActivo) →
      Fiel ({ r with cpus := modificarCpu r.cpus cpuId f }.conReceptor cpuId .leer) := by
    intro f hid hactual htimer
    refine h.cambiar hid rfl (fun _ _ ↦ rfl) (hfases .leer) (fun _ ↦ hhay) (fun _ ht _ ↦ ht) h.parejas
      fun c hc ↦ ?_
    have hantes := h.slots cpuId c hc
    have hvacia := (hantes.memoria pid hfase).2
    have hno := hantes.desarmada hvacia
    have hleer : ∀ fase, ({ r with cpus := modificarCpu r.cpus cpuId f }.conReceptor cpuId
        fase).receptor cpuId = fase := fun fase ↦ Function.update_self _ _ _
    refine ⟨fun hocupada ↦ ?_, fun hactivo ↦ ?_, fun q hq ↦ ?_, fun t ht ↦ ?_,
      fun t ht hcpu ↦ ⟨(hantes.timers t ht hcpu).1, ?_⟩⟩
    · rw [hactual, hvacia] at hocupada
      cases hocupada
    · rw [htimer, hno] at hactivo
      cases hactivo
    · rw [hleer] at hq
      cases hq
    · rw [hleer] at ht
      cases ht
    · rw [hactual, hvacia, htimer, hno]
      exact iff_of_false (fun hno ↦ Bool.false_ne_true hno.1) fun hno ↦ nomatch hno.1
  unfold Quantums.terminarMemoria
  split
  · unfold devolverProcesoAMismaCpu
    cases hsocket : (buscarCpu r.cpus cpuId).bind TCpu.socket with
    | none =>
      have hmismo := hsuelto (f := id) (fun _ ↦ rfl) (fun _ ↦ rfl) fun _ ↦ rfl
      have hid : modificarCpu r.cpus cpuId id = r.cpus := by
        unfold modificarCpu
        split
        · rfl
        · exact List.modify_id _ _
      rwa [hid] at hmismo
    | some socket =>
      simp only
      refine h.cambiar (f := fun c ↦ { c with procesoActual := some pid }) (fun _ ↦ ?_) rfl
        (fun otro hotro ↦ Function.update_of_ne hotro _ _) (hfases _) (fun _ ↦ hhay) (fun _ ht _ ↦ ht)
        h.parejas fun c hc ↦ ?_
      · rfl
      have hantes := h.slots cpuId c hc
      obtain ⟨hreservada, hvacia⟩ := hantes.memoria pid hfase
      have hepisodio : (r.empezar cpuId).episodio cpuId = r.episodio cpuId + 1 := Function.update_self _ _ _
      refine ⟨fun _ ↦ hreservada, fun hactivo ↦ ?_, fun q hq ↦ ?_, fun t ht ↦ ?_, fun t ht hcpu ↦ ?_⟩
      · exact absurd (hactivo.symm.trans (hantes.desarmada hvacia)) nofun
      · have hq := (Function.update_self cpuId _ r.receptor).symm.trans hq
        split at hq <;> cases hq
      · have ht := (Function.update_self cpuId _ r.receptor).symm.trans ht
        split at ht <;> cases ht
        exact ⟨rfl, rfl, rfl⟩
      · have hnuevo := hantes.nuevoEpisodio hvacia ht hcpu pid
        rw [← hepisodio] at hnuevo
        exact hnuevo
  · refine hsuelto (fun _ ↦ ?_) (fun _ ↦ ?_) fun _ ↦ ?_
    · rfl
    · rfl
    · rfl

theorem Fiel.vencer (h : r.Fiel) (ht : t ∈ r.timers) :
    Fiel { r with cpus := (vencerQuantum r.cpus t.cpuId t.pid).2, timers := r.timers.erase t } := by
  have hparejas : (r.timers.erase t).Pairwise fun t t' ↦ ¬ MismaPareja t t' :=
    h.parejas.sublist List.erase_sublist
  have hotro : ∀ t' ∈ r.timers.erase t, ¬ MismaPareja t t' := by
    intro t' ht' hmisma
    have hunicos : r.timers.Nodup := by
      refine h.parejas.imp fun {u u'} hno higual ↦ hno ?_
      rw [higual]
      exact ⟨rfl, rfl⟩
    obtain ⟨hdistinto, ht'⟩ := hunicos.mem_erase_iff.mp ht'
    have hsimetrica : Std.Symm fun t t' ↦ ¬ MismaPareja t t' :=
      ⟨fun _ _ hno hmisma ↦ hno ⟨hmisma.1.symm, hmisma.2.symm⟩⟩
    exact h.parejas.forall ht ht' (Ne.symm hdistinto) hmisma
  rcases h.ids.vencerQuantum t.cpuId t.pid with ⟨c, hc, hactivo, htimer, hvence⟩ | ⟨_, hvence⟩
  · rw [hvence]
    refine h.cambiar (fun _ ↦ ?_) rfl (fun _ _ ↦ rfl) (fun _ _ ↦ rfl) (h.receptores t.cpuId)
      (fun t' ht' _ ↦ List.mem_of_mem_erase ht') hparejas fun d hd ↦ ?_
    · rfl
    obtain rfl := Option.some.inj (hc.symm.trans hd)
    have hantes := h.slots t.cpuId c hc
    refine ⟨hantes.ocupada, nofun, hantes.memoria, hantes.vuelta, fun t' ht' hcpu ↦
      ⟨(hantes.timers t' (List.mem_of_mem_erase ht') hcpu).1, iff_of_false nofun fun hactual ↦ ?_⟩⟩
    have hpid := (hantes.armada hactivo).symm.trans hactual.1
    exact hotro t' ht' ⟨hcpu.symm, htimer.symm.trans (Option.some.inj hpid)⟩
  · rw [hvence]
    refine ⟨h.ids, fun otro d hd ↦ ?_, h.receptores, hparejas⟩
    have hantes := h.slots otro d hd
    exact ⟨hantes.ocupada, hantes.armada, hantes.memoria, hantes.vuelta,
      fun t' ht' ↦ hantes.timers t' (List.mem_of_mem_erase ht')⟩

/-! ## Runs -/

/-- A quantum timer starts while the dispatch that it is for goes on, and while no other timer sleeps for
its CPU and process. -/
def ArmadoATiempo (r : Quantums) : EventoQuantum → Prop
  | .armarDespacho => ∀ t ∈ r.planificador, r.EnEpisodio t ∧ ∀ t' ∈ r.timers, ¬ MismaPareja t' t
  | .armarVuelta cpuId =>
    match r.receptor cpuId with
    | .armar t => ∀ t' ∈ r.timers, ¬ MismaPareja t' t
    | _ => True
  | _ => True

instance (r : Quantums) (e : EventoQuantum) : Decidable (r.ArmadoATiempo e) := by
  unfold ArmadoATiempo
  split
  · infer_instance
  · split <;> infer_instance
  · infer_instance

theorem Fiel.paso (h : r.Fiel) {e : EventoQuantum} (hatiempo : r.ArmadoATiempo e)
    (hpaso : r.paso e = some r') : r'.Fiel := by
  cases e with
  | despachar pid conTimer =>
    simp only [Quantums.paso] at hpaso
    split at hpaso <;> cases hpaso
    exact h.despachar pid conTimer
  | armarDespacho =>
    simp only [Quantums.paso] at hpaso
    obtain ⟨t, ht, rfl⟩ := Option.map_eq_some_iff.mp hpaso
    obtain ⟨hen, hsolo⟩ := hatiempo t ht
    exact h.armar hen hsolo (fun _ _ ↦ rfl) (.inr rfl) none
  | devolver cpuId memoria => exact h.devolver hpaso
  | terminarMemoria cpuId vuelve conTimer => exact h.terminarMemoria hpaso
  | armarVuelta cpuId =>
    simp only [Quantums.paso] at hpaso
    unfold ArmadoATiempo at hatiempo
    split at hpaso
    swap
    · cases hpaso
    rename_i t hfase
    cases hpaso
    simp only [hfase] at hatiempo
    obtain ⟨c, hc⟩ := Option.isSome_iff_exists.mp (h.receptores cpuId (by rw [hfase]; nofun))
    obtain ⟨rfl, hactual, hepisodio⟩ := (h.slots cpuId c hc).vuelta t hfase
    exact h.armar ((enEpisodio_iff hc).mpr ⟨hactual, hepisodio⟩) hatiempo
      (fun otro hotro ↦ Function.update_of_ne hotro _ _) (.inl (Function.update_self _ _ _)) r.planificador
  | vencer t =>
    simp only [Quantums.paso] at hpaso
    split at hpaso <;> cases hpaso
    rename_i ht
    exact h.vencer ht

theorem Fiel.timersFieles (h : r.Fiel) : r.TimersFieles := by
  intro t ht
  rcases h.ids.vencerQuantum t.cpuId t.pid with ⟨c, hc, hactivo, htimer, hvence⟩ | ⟨hno, hvence⟩
  · have hfiel := ((h.slots t.cpuId c hc).timers t ht rfl).2
    refine ⟨fun _ _ ↦ (enEpisodio_iff hc).mpr (hfiel.mp ⟨hactivo, htimer⟩), fun _ ↦ ?_⟩
    rw [hvence]
    rfl
  · rw [hvence]
    refine ⟨nofun, fun hen ↦ ?_⟩
    obtain ⟨c, hc, hactual⟩ := Option.bind_eq_some_iff.mp hen.1
    have hfiel := ((h.slots t.cpuId c hc).timers t ht rfl).2
    exact absurd (hfiel.mpr ⟨hactual, hen.2⟩) (hno c hc)

theorem fiel_arranque (h : r.Arranque) : r.Fiel := by
  obtain ⟨hids, hlibres, _, hreceptores, htimers⟩ := h
  refine ⟨hids, fun cpuId c hc ↦ ?_, fun cpuId hno ↦ absurd (hreceptores cpuId) hno, ?_⟩
  · obtain ⟨hvacia, hno⟩ := hlibres c (buscarCpu_mem hc)
    refine ⟨fun hocupada ↦ ?_, fun hactivo ↦ ?_, fun pid hpid ↦ ?_, fun t ht ↦ ?_, fun t ht ↦ ?_⟩
    · rw [hvacia] at hocupada
      cases hocupada
    · rw [hno] at hactivo
      cases hactivo
    · rw [hreceptores cpuId] at hpid
      cases hpid
    · rw [hreceptores cpuId] at ht
      cases ht
    · rw [htimers] at ht
      cases ht
  · rw [htimers]
    exact .nil

/-- In every state of a run in which the quantum timers start in time, no timer would end another dispatch
than its own, and none is disarmed while its dispatch goes on. -/
theorem timersFieles_armadosATiempo (hr : Reachable Quantums.paso Quantums.Arranque ArmadoATiempo r) :
    r.TimersFieles := by
  apply Fiel.timersFieles
  apply hr.invariant (P := Fiel)
  · intro r h
    exact fiel_arranque h
  · intro r e r' h hatiempo hpaso
    exact h.paso hatiempo hpaso

/-- One CPU, before its first dispatch. -/
def unaCpu : Quantums := ⟨[⟨some 5, 1, true, none, false, 0⟩], fun _ ↦ 0, none, fun _ ↦ .leer, []⟩

theorem arranque_unaCpu : unaCpu.Arranque := by
  refine ⟨fun i j c c' hc hc' _ ↦ ?_, fun c hc ↦ ?_, rfl, fun _ ↦ rfl, rfl⟩
  · have hi := (List.getElem?_eq_some_iff.mp hc).1
    have hj := (List.getElem?_eq_some_iff.mp hc').1
    simp only [unaCpu, List.length_singleton] at hi hj
    omega
  · rw [List.mem_singleton.mp hc]
    exact ⟨rfl, rfl⟩

/-- The timer of a dispatch that has ended sleeps next to that of another process. -/
theorem timersFieles_dosProcesos : ∃ r : Quantums,
    r.timers = [⟨1, 0, 1⟩, ⟨1, 7, 2⟩] ∧ r.TimersFieles := by
  have hinicial : Reachable Quantums.paso Quantums.Arranque ArmadoATiempo unaCpu := .start arranque_unaCpu
  obtain ⟨r, hr, htimers⟩ := hinicial.exists_of_runAllowed
    [.despachar 0 true, .armarDespacho, .devolver 1 false, .despachar 7 true, .armarDespacho]
    (fun r ↦ r.timers = [⟨1, 0, 1⟩, ⟨1, 7, 2⟩]) (by decide)
  exact ⟨r, htimers, timersFieles_armadosATiempo hr⟩

/-- A process asks for memory and gets its CPU back: its first timer would end its second dispatch. -/
theorem interrupcion_de_otro_episodio : ∃ r : Quantums,
    Reachable Quantums.paso Quantums.Arranque (fun _ _ ↦ True) r ∧ ¬ r.TimersFieles := by
  have hinicial : Reachable Quantums.paso Quantums.Arranque (fun _ _ ↦ True) unaCpu :=
    .start arranque_unaCpu
  obtain ⟨r, hr, hviejo, hvence, hactual, hotro⟩ := hinicial.exists_of_runAllowed
    [.despachar 0 true, .armarDespacho, .devolver 1 true, .terminarMemoria 1 true true, .armarVuelta 1]
    (fun r ↦ ⟨1, 0, 1⟩ ∈ r.timers ∧ (vencerQuantum r.cpus 1 0).1.isSome ∧
      (buscarCpu r.cpus 1).bind TCpu.procesoActual = some 0 ∧ ¬ r.EnEpisodio ⟨1, 0, 1⟩) (by decide)
  exact ⟨r, hr, fun h ↦ hotro ((h ⟨1, 0, 1⟩ hviejo).1 hvence hactual)⟩

end Quantums

end PlugAndPlay.Planificador
