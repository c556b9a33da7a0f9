import PlugAndPlay.Library.ListModify
import PlugAndPlay.Planificador.Tipos

/-!
# The table of CPUs

What the scheduler does to `scheduler_connections.cpus` under its lock. Slots are appended when a CPU
connects, never removed, and looked up by `cpu_id`: the first slot with the id counts.
-/

open PlugAndPlay.Library

namespace PlugAndPlay.Planificador

def maxCpus : ℕ := 1000

/-- The position of the first slot with the id. -/
def posicionCpu (cpus : List TCpu) (cpuId : ℕ) : Option ℕ :=
  cpus.findIdx? fun c ↦ c.cpuId = cpuId

def buscarCpu (cpus : List TCpu) (cpuId : ℕ) : Option TCpu :=
  (posicionCpu cpus cpuId).bind fun i ↦ cpus[i]?

def modificarCpu (cpus : List TCpu) (cpuId : ℕ) (f : TCpu → TCpu) : List TCpu :=
  match posicionCpu cpus cpuId with
  | none => cpus
  | some i => cpus.modify i f

/-- The process the slot held and the table afterwards; the slot is free again. -/
def retirarProcesoDeCpu (cpus : List TCpu) (cpuId : ℕ) : Option Pid × List TCpu :=
  ((buscarCpu cpus cpuId).bind TCpu.procesoActual,
    modificarCpu cpus cpuId fun c ↦
      { c with procesoActual := none, timerActivo := false, disponible := true })

/-- The same for `MEM_ALLOC` and `MEM_FREE`, which keep the slot reserved. -/
def retirarProcesoDeCpuReservando (cpus : List TCpu) (cpuId : ℕ) : Option Pid × List TCpu :=
  ((buscarCpu cpus cpuId).bind TCpu.procesoActual,
    modificarCpu cpus cpuId fun c ↦ { c with procesoActual := none, timerActivo := false })

def liberarCpuReservada (cpus : List TCpu) (cpuId : ℕ) : List TCpu :=
  modificarCpu cpus cpuId fun c ↦ { c with disponible := true }

/-- The socket the process is sent back over, `none` when the CPU is gone. -/
def devolverProcesoAMismaCpu (cpus : List TCpu) (cpuId : ℕ) (pid : Pid) :
    Option Socket × List TCpu :=
  match (buscarCpu cpus cpuId).bind TCpu.socket with
  | none => (none, cpus)
  | some socket => (some socket, modificarCpu cpus cpuId fun c ↦ { c with procesoActual := some pid })

def iniciarQuantumTimer (cpus : List TCpu) (cpuId : ℕ) (pid : Pid) : List TCpu :=
  modificarCpu cpus cpuId fun c ↦ { c with timerActivo := true, timerPid := pid }

/-- The end of `quantum_timer_thread`: the slot it interrupts is the first one whose timer is armed for
the process, and the timer is disarmed there. -/
def vencerQuantum (cpus : List TCpu) (cpuId : ℕ) (pid : Pid) : Option TCpu × List TCpu :=
  match cpus.findIdx? fun c ↦ c.cpuId = cpuId ∧ c.timerActivo ∧ c.timerPid = pid with
  | none => (none, cpus)
  | some i => (cpus[i]?, cpus.modify i fun c ↦ { c with timerActivo := false })

def TCpu.Libre (c : TCpu) : Prop := c.disponible ∧ c.socket.isSome

instance (c : TCpu) : Decidable c.Libre := inferInstanceAs (Decidable (_ ∧ _))

def hayCpuLibre (cpus : List TCpu) : Bool := cpus.any fun c ↦ c.Libre

/-- The slot that `enviar_proceso_a_cpu` picks, and the table with the process in it. -/
def elegirCpu (cpus : List TCpu) (pid : Pid) : Option TCpu × List TCpu :=
  match cpus.findIdx? fun c ↦ c.Libre with
  | none => (none, cpus)
  | some i => (cpus[i]?, cpus.modify i fun c ↦
      { c with disponible := false, procesoActual := some pid })

def marcarCpuDesconectada (cpus : List TCpu) (cpuId : ℕ) : List TCpu :=
  modificarCpu cpus cpuId fun c ↦ { c with socket := none }

/-- The slot of a new connection; its timer fields are those of the zeroed table. -/
def agregarCpu (cpus : List TCpu) (socket : Socket) (cpuId : ℕ) : List TCpu :=
  if cpus.length < maxCpus then
    cpus ++ [⟨some socket, cpuId, true, none, false, 0⟩]
  else cpus

/-- A CPU that executes, as the two evictions look for it. -/
def TCpu.ejecutando (c : TCpu) : Option (Socket × Pid) :=
  match c.disponible, c.procesoActual, c.socket with
  | false, some pid, some socket => some (socket, pid)
  | _, _, _ => none

/-- The next slot becomes the victim when its process is less prioritary, or as prioritary and
dispatched earlier. -/
def mejorVictima (pcbs : Pid → Pcb) (victima : Option (Socket × Pid)) (c : TCpu) :
    Option (Socket × Pid) :=
  match c.ejecutando, victima with
  | none, _ => victima
  | some candidata, none => some candidata
  | some candidata, some actual =>
    if (pcbs candidata.2).prioridad > (pcbs actual.2).prioridad ∨
        ((pcbs candidata.2).prioridad = (pcbs actual.2).prioridad ∧
          (pcbs candidata.2).tiempoInicioEjecucion < (pcbs actual.2).tiempoInicioEjecucion) then
      some candidata
    else some actual

def cpuVictima (pcbs : Pid → Pcb) (cpus : List TCpu) : Option (Socket × Pid) :=
  cpus.foldl (mejorVictima pcbs) none

/-! ## Lookups after a change -/

variable {cpus : List TCpu} {f : TCpu → TCpu} {c : TCpu}

theorem posicionCpu_modify (cpus : List TCpu) (i : ℕ) (hf : ∀ c, (f c).cpuId = c.cpuId) (cpuId : ℕ) :
    posicionCpu (cpus.modify i f) cpuId = posicionCpu cpus cpuId :=
  ListModify.findIdx?_modify cpus i f _ fun c ↦ by rw [hf]

/-- A slot found after the change was found before, perhaps changed. -/
theorem buscarCpu_modify {i cpuId : ℕ} (hf : ∀ c, (f c).cpuId = c.cpuId)
    (h : buscarCpu (cpus.modify i f) cpuId = some c) :
    ∃ c', buscarCpu cpus cpuId = some c' ∧ (c = c' ∨ c = f c') := by
  unfold buscarCpu at h ⊢
  rw [posicionCpu_modify cpus i hf] at h
  obtain ⟨j, hj, hcpu⟩ := Option.bind_eq_some_iff.mp h
  rw [List.getElem?_modify] at hcpu
  obtain ⟨c', hc', hcambio⟩ := Option.map_eq_some_iff.mp hcpu
  refine ⟨c', by rw [hj, Option.bind_some, hc'], ?_⟩
  split at hcambio
  · exact .inr hcambio.symm
  · exact .inl hcambio.symm

/-- Either no slot has the id, or the change is made to the slot that a lookup finds. -/
theorem modificarCpu_cases (cpus : List TCpu) (cpuId : ℕ) :
    (buscarCpu cpus cpuId = none ∧ ∀ f, modificarCpu cpus cpuId f = cpus) ∨
      ∃ i c, cpus[i]? = some c ∧ buscarCpu cpus cpuId = some c ∧
        ∀ f, modificarCpu cpus cpuId f = cpus.modify i f := by
  unfold buscarCpu modificarCpu
  cases hi : posicionCpu cpus cpuId with
  | none => exact .inl ⟨rfl, fun _ ↦ rfl⟩
  | some i =>
    obtain ⟨hlt, _⟩ := List.findIdx?_eq_some_iff_getElem.mp hi
    have hcpu := List.getElem?_eq_getElem hlt
    exact .inr ⟨i, cpus[i], hcpu, by rw [Option.bind_some, hcpu], fun _ ↦ rfl⟩

theorem buscarCpu_modificarCpu_mismo (cpus : List TCpu) (cpuId : ℕ) (hf : ∀ c, (f c).cpuId = c.cpuId) :
    buscarCpu (modificarCpu cpus cpuId f) cpuId = (buscarCpu cpus cpuId).map f := by
  unfold modificarCpu
  cases hi : posicionCpu cpus cpuId with
  | none => simp [buscarCpu, hi]
  | some i => simp [buscarCpu, posicionCpu_modify cpus i hf, hi]

theorem buscarCpu_modificarCpu_otro (cpus : List TCpu) {cpuId otro : ℕ} (h : otro ≠ cpuId)
    (hf : ∀ c, (f c).cpuId = c.cpuId) :
    buscarCpu (modificarCpu cpus cpuId f) otro = buscarCpu cpus otro := by
  unfold modificarCpu
  cases hi : posicionCpu cpus cpuId with
  | none => rfl
  | some i =>
    unfold buscarCpu
    simp only [posicionCpu_modify cpus i hf]
    cases hj : posicionCpu cpus otro with
    | none => rfl
    | some j =>
      have hij : i ≠ j := by
        rintro rfl
        obtain ⟨_, hid, _⟩ := List.findIdx?_eq_some_iff_getElem.mp hi
        obtain ⟨_, hotro, _⟩ := List.findIdx?_eq_some_iff_getElem.mp hj
        exact h ((of_decide_eq_true hotro).symm.trans (of_decide_eq_true hid))
      simp [List.getElem?_modify, hij]

theorem modificarCpu_modificarCpu (cpus : List TCpu) (cpuId : ℕ) {f : TCpu → TCpu} (g : TCpu → TCpu)
    (hid : ∀ c, (f c).cpuId = c.cpuId) :
    modificarCpu (modificarCpu cpus cpuId f) cpuId g = modificarCpu cpus cpuId fun c ↦ g (f c) := by
  have hposicion : posicionCpu (modificarCpu cpus cpuId f) cpuId = posicionCpu cpus cpuId := by
    unfold modificarCpu
    split
    · rfl
    · exact posicionCpu_modify cpus _ hid cpuId
  rw [modificarCpu, hposicion, modificarCpu, modificarCpu]
  cases posicionCpu cpus cpuId with
  | none => rfl
  | some i => exact List.modify_modify_eq f g i cpus

theorem buscarCpu_mem {cpuId : ℕ} (h : buscarCpu cpus cpuId = some c) : c ∈ cpus := by
  obtain ⟨i, _, hi⟩ := Option.bind_eq_some_iff.mp h
  exact List.mem_of_getElem? hi

/-- A lookup meets the new slot only where it met none. -/
theorem buscarCpu_agregarCpu {socket : Socket} {nuevo cpuId : ℕ}
    (h : buscarCpu (agregarCpu cpus socket nuevo) cpuId = some c) :
    buscarCpu cpus cpuId = some c ∨
      cpuId = nuevo ∧ c = ⟨some socket, nuevo, true, none, false, 0⟩ := by
  unfold agregarCpu at h
  split at h
  swap
  · exact .inl h
  unfold buscarCpu posicionCpu at h ⊢
  rw [List.findIdx?_append] at h
  cases hi : cpus.findIdx? fun c ↦ c.cpuId = cpuId with
  | some i =>
    obtain ⟨hlt, _⟩ := List.findIdx?_eq_some_iff_getElem.mp hi
    rw [hi, Option.some_or, Option.bind_some, List.getElem?_append_left hlt] at h
    exact .inl h
  | none =>
    rw [hi, Option.none_or] at h
    by_cases hnuevo : nuevo = cpuId
    · simp [List.findIdx?_cons, hnuevo] at h
      exact .inr ⟨hnuevo.symm, by rw [← h, hnuevo]⟩
    · simp [List.findIdx?_cons, hnuevo] at h

/-! ## Ids that are all different -/

def IdsDistintos (cpus : List TCpu) : Prop :=
  ∀ (i j : ℕ) (c c' : TCpu), cpus[i]? = some c → cpus[j]? = some c' → c.cpuId = c'.cpuId → i = j

/-- A lookup finds the slot that has the id. -/
theorem IdsDistintos.posicion (h : IdsDistintos cpus) {i : ℕ} (hc : cpus[i]? = some c) :
    posicionCpu cpus c.cpuId = some i := by
  obtain ⟨hlt, hi⟩ := List.getElem?_eq_some_iff.mp hc
  unfold posicionCpu
  rw [List.findIdx?_eq_some_iff_getElem]
  refine ⟨hlt, ?_, fun j hj ↦ ?_⟩
  · rw [hi, decide_eq_true_eq]
  · rw [decide_eq_true_eq]
    intro hid
    have hjlt : j < cpus.length := Nat.lt_trans hj hlt
    have hij := h i j c cpus[j] hc (List.getElem?_eq_getElem hjlt) hid.symm
    omega

theorem IdsDistintos.buscar (h : IdsDistintos cpus) {i : ℕ} (hc : cpus[i]? = some c) :
    buscarCpu cpus c.cpuId = some c ∧ ∀ f, modificarCpu cpus c.cpuId f = cpus.modify i f := by
  unfold buscarCpu modificarCpu
  rw [h.posicion hc]
  exact ⟨hc, fun _ ↦ rfl⟩

theorem IdsDistintos.modify (h : IdsDistintos cpus) (i : ℕ) (hf : ∀ c, (f c).cpuId = c.cpuId) :
    IdsDistintos (cpus.modify i f) := by
  have hantes : ∀ (j : ℕ) (c : TCpu), (cpus.modify i f)[j]? = some c →
      ∃ c', cpus[j]? = some c' ∧ c.cpuId = c'.cpuId := by
    intro j c hc
    rw [List.getElem?_modify] at hc
    obtain ⟨c', hc', rfl⟩ := Option.map_eq_some_iff.mp hc
    refine ⟨c', hc', ?_⟩
    split
    · exact hf c'
    · rfl
  intro j j' c c' hc hc' higual
  obtain ⟨d, hd, hdid⟩ := hantes j c hc
  obtain ⟨d', hd', hdid'⟩ := hantes j' c' hc'
  exact h j j' d d' hd hd' (by rw [← hdid, ← hdid', higual])

theorem IdsDistintos.modificarCpu (h : IdsDistintos cpus) (cpuId : ℕ) (hf : ∀ c, (f c).cpuId = c.cpuId) :
    IdsDistintos (modificarCpu cpus cpuId f) := by
  unfold Planificador.modificarCpu
  split
  · exact h
  · exact h.modify _ hf

theorem cpuId_of_buscarCpu {cpuId : ℕ} (h : buscarCpu cpus cpuId = some c) : c.cpuId = cpuId := by
  obtain ⟨i, hi, hc⟩ := Option.bind_eq_some_iff.mp h
  obtain ⟨hlt, hid, _⟩ := List.findIdx?_eq_some_iff_getElem.mp hi
  obtain ⟨_, rfl⟩ := List.getElem?_eq_some_iff.mp hc
  exact of_decide_eq_true hid

/-- The slot that a dispatch picks, as a lookup finds it. -/
theorem IdsDistintos.elegirCpu (h : IdsDistintos cpus) {pid : Pid} {cpus' : List TCpu}
    (helegir : Planificador.elegirCpu cpus pid = (some c, cpus')) :
    c.Libre ∧ buscarCpu cpus c.cpuId = some c ∧
      cpus' = Planificador.modificarCpu cpus c.cpuId fun c ↦
        { c with disponible := false, procesoActual := some pid } := by
  unfold Planificador.elegirCpu at helegir
  split at helegir
  · cases (Prod.mk.inj helegir).1
  rename_i i hi
  obtain ⟨hlt, hlibre, _⟩ := List.findIdx?_eq_some_iff_getElem.mp hi
  obtain ⟨hc, rfl⟩ := Prod.mk.inj helegir
  obtain ⟨_, hpick⟩ := List.getElem?_eq_some_iff.mp hc
  rw [hpick] at hlibre
  obtain ⟨hbuscar, hmodificar⟩ := h.buscar hc
  exact ⟨of_decide_eq_true hlibre, hbuscar, (hmodificar _).symm⟩

/-- The slot that a timer interrupts, as a lookup finds it. -/
theorem IdsDistintos.vencerQuantum (h : IdsDistintos cpus) (cpuId : ℕ) (pid : Pid) :
    (∃ c, buscarCpu cpus cpuId = some c ∧ c.timerActivo = true ∧ c.timerPid = pid ∧
      Planificador.vencerQuantum cpus cpuId pid =
        (some c, Planificador.modificarCpu cpus cpuId fun c ↦ { c with timerActivo := false })) ∨
    ((∀ c, buscarCpu cpus cpuId = some c → ¬ (c.timerActivo = true ∧ c.timerPid = pid)) ∧
      Planificador.vencerQuantum cpus cpuId pid = (none, cpus)) := by
  unfold Planificador.vencerQuantum
  cases hi : cpus.findIdx? fun c ↦ c.cpuId = cpuId ∧ c.timerActivo ∧ c.timerPid = pid with
  | none =>
    refine .inr ⟨fun c hc harmado ↦ ?_, rfl⟩
    have hno := List.findIdx?_eq_none_iff.mp hi c (buscarCpu_mem hc)
    exact of_decide_eq_false hno ⟨cpuId_of_buscarCpu hc, harmado⟩
  | some i =>
    obtain ⟨hlt, hvence, _⟩ := List.findIdx?_eq_some_iff_getElem.mp hi
    have hc := List.getElem?_eq_getElem hlt
    obtain ⟨rfl, hactivo, htimer⟩ := of_decide_eq_true hvence
    obtain ⟨hbuscar, hmodificar⟩ := h.buscar hc
    exact .inl ⟨_, hbuscar, hactivo, htimer, by simp only [hc, hmodificar]⟩

end PlugAndPlay.Planificador
