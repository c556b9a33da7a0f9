import PlugAndPlay.Planificador.DesalojoColas

/-!
# What preemption between queues reaches

The table of CPUs as servers of a board of jobs: what each step of the scheduler and the CPUs is there, and
that it keeps the balance of the board when the check, the planner and the interrupts do not get ahead of
each other.
-/

open PlugAndPlay.Library
open PlugAndPlay.Library.Preemption

namespace PlugAndPlay.Planificador

open KernelScheduler

/-! ## The victim of a check -/

/-- It executes and is the least prioritary of those that do. -/
def EsVictima (pcbs : Pid → Pcb) (candidatas : List (Socket × Pid)) (v : Socket × Pid) : Prop :=
  v ∈ candidatas ∧ ∀ otra ∈ candidatas, (pcbs otra.2).prioridad ≤ (pcbs v.2).prioridad

section Victima

variable {pcbs : Pid → Pcb} {v : Socket × Pid}

/-- The candidate so far stands for all slots that were looked at. -/
theorem mejorVictima_cases (pcbs : Pid → Pcb) (victima : Option (Socket × Pid)) (c : TCpu) :
    ∀ otra ∈ victima.toList ++ c.ejecutando.toList, ∃ mejor, mejorVictima pcbs victima c = some mejor ∧
      (pcbs otra.2).prioridad ≤ (pcbs mejor.2).prioridad := by
  intro otra hotra
  unfold mejorVictima
  cases hc : c.ejecutando with
  | none =>
    rw [hc, Option.toList_none, List.append_nil, Option.mem_toList] at hotra
    exact ⟨otra, hotra, Int.le_refl _⟩
  | some candidata =>
    rw [hc] at hotra
    cases victima with
    | none =>
      obtain rfl := List.mem_singleton.mp hotra
      exact ⟨otra, rfl, Int.le_refl _⟩
    | some actual =>
      simp only
      have hcual : otra = actual ∨ otra = candidata := by simpa using hotra
      split
      · rename_i hmejor
        refine ⟨candidata, rfl, ?_⟩
        obtain rfl | rfl := hcual
        · obtain hmayor | higual := hmejor
          · exact Int.le_of_lt hmayor
          · exact Int.le_of_eq higual.1.symm
        · exact Int.le_refl _
      · rename_i hpeor
        refine ⟨actual, rfl, ?_⟩
        obtain rfl | rfl := hcual
        · exact Int.le_refl _
        · exact Int.not_lt.mp fun hmayor ↦ hpeor (.inl hmayor)

theorem mejorVictima_mem {victima : Option (Socket × Pid)} {c : TCpu} (h : mejorVictima pcbs victima c = some v) :
    v ∈ victima.toList ++ c.ejecutando.toList := by
  unfold mejorVictima at h
  cases hc : c.ejecutando with
  | none =>
    rw [hc] at h
    simp [h]
  | some candidata =>
    rw [hc] at h
    cases victima with
    | none =>
      obtain rfl := Option.some.inj h
      simp
    | some actual =>
      simp only at h
      split at h
      · obtain rfl := Option.some.inj h
        simp
      · obtain rfl := Option.some.inj h
        simp

theorem foldl_mejorVictima (pcbs : Pid → Pcb) (cpus : List TCpu) (victima : Option (Socket × Pid)) :
    match cpus.foldl (mejorVictima pcbs) victima with
    | none => victima.toList ++ cpus.filterMap TCpu.ejecutando = []
    | some v => EsVictima pcbs (victima.toList ++ cpus.filterMap TCpu.ejecutando) v := by
  induction cpus generalizing victima with
  | nil =>
    rw [List.foldl_nil, List.filterMap_nil, List.append_nil]
    cases victima with
    | none => rfl
    | some v =>
      refine ⟨List.mem_singleton_self v, fun otra hotra ↦ ?_⟩
      obtain rfl := List.mem_singleton.mp hotra
      exact Int.le_refl _
  | cons c cpus ih =>
    have hunion : victima.toList ++ (c :: cpus).filterMap TCpu.ejecutando =
        victima.toList ++ c.ejecutando.toList ++ cpus.filterMap TCpu.ejecutando := by
      rw [List.filterMap_cons, List.append_assoc]
      cases c.ejecutando <;> rfl
    have hresto := ih (mejorVictima pcbs victima c)
    rw [List.foldl_cons, hunion]
    split at hresto
    · obtain ⟨hmejor, hdemas⟩ := List.append_eq_nil_iff.mp hresto
      rw [hdemas, List.append_nil, List.eq_nil_iff_forall_not_mem]
      intro otra hotra
      obtain ⟨mejor, hsome, _⟩ := mejorVictima_cases pcbs victima c otra hotra
      rw [hsome] at hmejor
      cases hmejor
    · rename_i v _
      obtain ⟨hmem, hpeor⟩ := hresto
      refine ⟨?_, fun otra hotra ↦ ?_⟩
      · obtain hprimera | hdemas := List.mem_append.mp hmem
        · exact List.mem_append_left _ (mejorVictima_mem (Option.mem_toList.mp hprimera))
        · exact List.mem_append_right _ hdemas
      · obtain hprimera | hdemas := List.mem_append.mp hotra
        · obtain ⟨mejor, hsome, hle⟩ := mejorVictima_cases pcbs victima c otra hprimera
          exact Int.le_trans hle (hpeor mejor (List.mem_append_left _ (Option.mem_toList.mpr hsome)))
        · exact hpeor otra (List.mem_append_right _ hdemas)

theorem cpuVictima_eq_none {cpus : List TCpu} (h : cpuVictima pcbs cpus = none) :
    cpus.filterMap TCpu.ejecutando = [] := by
  have hfold := foldl_mejorVictima pcbs cpus none
  rw [show cpus.foldl (mejorVictima pcbs) none = none from h] at hfold
  exact hfold

theorem cpuVictima_eq_some {cpus : List TCpu} (h : cpuVictima pcbs cpus = some v) :
    EsVictima pcbs (cpus.filterMap TCpu.ejecutando) v := by
  have hfold := foldl_mejorVictima pcbs cpus none
  rw [show cpus.foldl (mejorVictima pcbs) none = some v from h] at hfold
  exact hfold

end Victima

/-! ## The board -/

/-- The process that the CPU has, from the arrival of `EJECUTAR_PROCESO` on. -/
def FaseEnlace.lleva : FaseEnlace → Option Pid
  | .libre => none
  | .cargando pid | .ejecutando pid _ | .devuelto pid _ => some pid

def Envio.orden (socket : Socket) : Envio → Option Pid
  | .ejecutarProceso otro pid => if otro = socket then some pid else none
  | .interrupcion .. => none

def Destino.EsFrente : Destino → Bool
  | .frente => true
  | _ => false

def Destino.reserva : Destino → Option ℕ
  | .memoria cpuId => some cpuId
  | _ => none

/-- The processes with such a destination. -/
def sacados (p : Destino → Bool) (enMano : List (Pid × Destino)) : List Pid :=
  (enMano.filter fun d ↦ p d.2).map Prod.fst

/-- What the planner and the checks rely on. -/
structure KernelScheduler.Desalojable (k : KernelScheduler) : Prop where
  uso : k.ColasEnUso
  cmn : k.config.algoritmoGlobal = .cmn
  desalojo : k.config.queuePreemption = true ∧ k.compactacionEnProgreso = false
  validas : ∀ pid, k.NivelValido (k.pcbs pid).prioridad
  niveles : ∀ (i : ℕ) cola, k.colasReadyPorPrioridad[i]? = some cola → ∀ pid ∈ cola, (k.pcbs pid).prioridad = i

namespace DesalojoColas

variable (s : DesalojoColas)

/-- A slot as a server. -/
def servidor (c : TCpu) : Server ℤ :=
  if c.Libre then .free
  else
    match c.ejecutando with
    | none => .reserved
    | some (socket, pid) =>
      if s.Dejando socket pid then .leaving (s.prioridad pid) else .staying (s.prioridad pid)

def tablero : Board ℤ where
  waiting := ↑(s.k.enReady.map s.prioridad)
  evicted := ↑((sacados Destino.EsFrente s.enMano).map s.prioridad)
  unchecked := ↑(s.porVerificar.map s.prioridad)
  kept := ↑((sacados (fun d ↦ d.reserva.isSome) s.enMano).map s.prioridad)
  chosen := s.elegido.map s.prioridad
  servers := s.k.cpus.map s.servidor

/-- What is on its way to the CPU of the connection, or on it. -/
def camino (socket : Socket) : List Pid :=
  (s.enlaces socket).lleva.toList ++ s.k.enviados.filterMap (Envio.orden socket)

/-- The process on its way to the CPU or on it is the one of the slot, and a slot that is reserved is so for
one handler. -/
structure Enlazada : Prop where
  ids : IdsDistintos s.k.cpus
  conexiones : (s.k.cpus.map TCpu.socket).Nodup
  abiertas : ∀ c ∈ s.k.cpus, c.socket.isSome
  ocupadas : ∀ c ∈ s.k.cpus, c.procesoActual.isSome → c.disponible = false
  camino : ∀ c ∈ s.k.cpus, ∀ socket ∈ c.socket, (s.camino socket).Perm c.procesoActual.toList
  reservas : ∀ d ∈ s.enMano, ∀ cpuId ∈ d.2.reserva, ∃ c, buscarCpu s.k.cpus cpuId = some c ∧
    c.disponible = false ∧ c.procesoActual = none
  unicas : (s.enMano.filterMap fun d ↦ d.2.reserva).Nodup
  elegido : s.elegido.isSome → hayCpuLibre s.k.cpus

structure Cubierta : Prop where
  desalojable : s.k.Desalojable
  enlazada : s.Enlazada
  balance : s.tablero.Balanced

end DesalojoColas

/-! ## READY queues -/

namespace KernelScheduler

variable {k k' : KernelScheduler} {pid : Pid}

theorem prioridad_modificarPcb (k : KernelScheduler) (pid : Pid) {f : Pcb → Pcb}
    (hf : ∀ p, (f p).prioridad = p.prioridad) (q : Pid) :
    ((k.modificarPcb pid f).pcbs q).prioridad = (k.pcbs q).prioridad := by
  rw [pcbs_modificarPcb]
  split
  · rename_i hq
    rw [hq, hf]
  · rfl

/-- Only sections on the table, messages and other fields of the PCBs. -/
theorem Desalojable.congr (h : k.Desalojable) (hconfig : k'.config = k.config)
    (hcompactacion : k'.compactacionEnProgreso = k.compactacionEnProgreso)
    (hunica : k'.colaProcesosReady = k.colaProcesosReady)
    (hcolas : k'.colasReadyPorPrioridad = k.colasReadyPorPrioridad)
    (hprioridad : ∀ pid, (k'.pcbs pid).prioridad = (k.pcbs pid).prioridad) : k'.Desalojable := by
  have hniveles : k'.cantidadNivelesPrioridad = k.cantidadNivelesPrioridad := congrArg List.length hcolas
  refine ⟨⟨?_, ?_⟩, ?_, ?_, fun pid ↦ ?_, ?_⟩
  · rw [hconfig, hniveles, hunica]
    exact h.uso.cmn
  · rw [hconfig, hcolas]
    exact h.uso.unica
  · rw [hconfig]
    exact h.cmn
  · rw [hconfig, hcompactacion]
    exact h.desalojo
  · unfold NivelValido
    rw [hniveles, hprioridad]
    exact h.validas pid
  · intro i cola hcola pid hpid
    rw [hcolas] at hcola
    rw [hprioridad]
    exact h.niveles i cola hcola pid hpid

/-- A push into the queue of the level of the process. -/
theorem Desalojable.meter (h : k.Desalojable) (pid : Pid) (alFrente : Bool) :
    ∃ k', k.meterEnReady pid alFrente = some k' ∧ k'.Desalojable ∧ k'.enReady.Perm (pid :: k.enReady) ∧
      k'.cpus = k.cpus ∧ k'.enviados = k.enviados ∧ ∀ q, (k'.pcbs q).prioridad = (k.pcbs q).prioridad := by
  have hprioridad : ∀ q, ((k.cambiarEstado pid .ready).pcbs q).prioridad = (k.pcbs q).prioridad :=
    prioridad_modificarPcb k pid fun _ ↦ rfl
  have hestado : (k.cambiarEstado pid .ready).Desalojable := h.congr rfl rfl rfl rfl hprioridad
  obtain ⟨hniveles, -⟩ := hestado.uso.cmn hestado.cmn
  have hmeter : k.meterEnReady pid alFrente = some ((k.cambiarEstado pid .ready).modificarCola
      ((k.cambiarEstado pid .ready).pcbs pid).prioridad
      fun cola ↦ if alFrente then pid :: cola else cola ++ [pid]) := by
    unfold meterEnReady
    simp only
    rw [if_pos hniveles, if_pos (hestado.validas pid)]
  obtain ⟨huso, hperm, -⟩ := h.uso.meter hmeter
  refine ⟨_, hmeter, ⟨huso, h.cmn, h.desalojo, fun q ↦ ?_, fun i cola hcola q hq ↦ ?_⟩, hperm, rfl, rfl,
    hprioridad⟩
  · unfold NivelValido
    rw [cantidadNivelesPrioridad_modificarCola]
    exact hestado.validas q
  · obtain ⟨antes, hantes, hcambio⟩ := ListModify.exists_of_getElem?_modify hcola
    subst hcambio
    split at hq
    · rename_i hi
      have hpid : ((k.cambiarEstado pid .ready).pcbs pid).prioridad = i := by
        have hpos := (hestado.validas pid).1
        omega
      have hcual : q = pid ∨ q ∈ antes := by
        split at hq <;> simpa [or_comm] using hq
      obtain rfl | hq := hcual
      · exact hpid
      · exact hestado.niveles i antes hantes q hq
    · exact hestado.niveles i antes hantes q hq

/-- The planner takes out the most prioritary process. -/
theorem Desalojable.proximo (h : k.Desalojable) (hproximo : k.obtenerProximoProcesoReady = (some pid, k')) :
    k'.Desalojable ∧ k.enReady.Perm (pid :: k'.enReady) ∧ SalvoColas k k' ∧
      ∀ q ∈ k'.enReady, (k.pcbs pid).prioridad ≤ (k.pcbs q).prioridad := by
  obtain ⟨huso, hperm, hsalvo⟩ := h.uso.proximo hproximo
  obtain ⟨hniveles, hunica⟩ := h.uso.cmn h.cmn
  unfold obtenerProximoProcesoReady at hproximo
  rw [if_pos h.cmn, if_neg (Nat.ne_of_gt hniveles)] at hproximo
  unfold desencolarProcesoReady at hproximo
  split at hproximo
  · cases (Prod.mk.inj hproximo).1
  rename_i p hp
  obtain ⟨hlt, hcola, hantes⟩ := List.findIdx?_eq_some_iff_getElem.mp hp
  obtain ⟨hpid, hk'⟩ := Prod.mk.inj hproximo
  rw [List.getElem?_eq_getElem hlt, Option.bind_some] at hpid
  have hprioridad : (k.pcbs pid).prioridad = p :=
    h.niveles p _ (List.getElem?_eq_getElem hlt) pid (List.mem_of_head? hpid)
  cases hk'
  refine ⟨⟨huso, h.cmn, h.desalojo, fun q ↦ ?_, fun i cola hcola q hq ↦ ?_⟩, hperm, hsalvo, fun q hq ↦ ?_⟩
  · unfold NivelValido cantidadNivelesPrioridad
    rw [List.length_modify]
    exact h.validas q
  · obtain ⟨antes, hantes, hcambio⟩ := ListModify.exists_of_getElem?_modify hcola
    subst hcambio
    split at hq
    · exact h.niveles i antes hantes q (List.mem_of_mem_tail hq)
    · exact h.niveles i antes hantes q hq
  · have hq : q ∈ k.enReady := hperm.symm.subset (List.mem_cons_of_mem pid hq)
    unfold enReady at hq
    rw [hunica, List.nil_append] at hq
    obtain ⟨cola, hcola, hmem⟩ := List.mem_flatten.mp hq
    obtain ⟨i, hi⟩ := List.getElem?_of_mem hcola
    rw [hprioridad, h.niveles i cola hi q hmem, Int.ofNat_le]
    by_contra hmenor
    obtain ⟨hilt, hicola⟩ := List.getElem?_eq_some_iff.mp hi
    have hvacia := hantes i (Nat.lt_of_not_le hmenor)
    simp only [hicola, ne_eq, decide_not, Bool.not_eq_true', decide_eq_false_iff_not, not_not] at hvacia
    rw [hvacia] at hmem
    cases hmem

end KernelScheduler

namespace DesalojoColas

variable {s s' : DesalojoColas} {c c' : TCpu} {i j cpuId : ℕ} {socket : Socket} {pid : Pid} {f : TCpu → TCpu}

/-! ## Slots as servers -/

theorem ejecutando_eq_some : c.ejecutando = some (socket, pid) ↔
    c.disponible = false ∧ c.procesoActual = some pid ∧ c.socket = some socket := by
  obtain ⟨conexion, _, disponible, proceso, _, _⟩ := c
  unfold TCpu.ejecutando
  cases disponible <;> cases proceso <;> cases conexion <;> simp [and_comm]

theorem servidor_congr (hprioridad : ∀ q, s'.prioridad q = s.prioridad q)
    (hdejando : ∀ socket pid, c.ejecutando = some (socket, pid) → (s'.Dejando socket pid ↔ s.Dejando socket pid)) :
    s'.servidor c = s.servidor c := by
  unfold servidor
  split
  · rfl
  cases hc : c.ejecutando with
  | none => rfl
  | some par =>
    obtain ⟨socket, pid⟩ := par
    simp only [hprioridad, hdejando socket pid hc]

theorem servidor_ocupada (hc : c.ejecutando = some (socket, pid)) :
    s.servidor c = if s.Dejando socket pid then .leaving (s.prioridad pid) else .staying (s.prioridad pid) := by
  unfold servidor
  rw [if_neg, hc]
  intro hlibre
  have hdisponible := (ejecutando_eq_some.mp hc).1
  rw [hlibre.1] at hdisponible
  cases hdisponible

theorem servidor_saliendo (hc : c.ejecutando = some (socket, pid)) (hdejando : s.Dejando socket pid) :
    s.servidor c = .leaving (s.prioridad pid) := by
  rw [servidor_ocupada hc, if_pos hdejando]

theorem servidor_cases (hc : c.ejecutando = some (socket, pid)) :
    s.servidor c = .staying (s.prioridad pid) ∨ s.servidor c = .leaving (s.prioridad pid) := by
  rw [servidor_ocupada hc]
  split
  · exact .inr rfl
  · exact .inl rfl

theorem servidor_reservada (hdisponible : c.disponible = false) (hvacia : c.procesoActual = none) :
    s.servidor c = .reserved := by
  have hno : c.ejecutando = none := by
    cases hejecuta : c.ejecutando with
    | none => rfl
    | some par =>
      have hproceso := (ejecutando_eq_some.mp hejecuta).2.1
      rw [hvacia] at hproceso
      cases hproceso
  unfold servidor
  rw [if_neg, hno]
  intro hlibre
  have := hlibre.1
  rw [hdisponible] at this
  cases this

theorem servidor_eq_free : s.servidor c = .free ↔ c.Libre := by
  unfold servidor
  split
  · rename_i hlibre
    exact iff_of_true rfl hlibre
  · rename_i hlibre
    refine iff_of_false ?_ hlibre
    split
    · exact nofun
    · split <;> exact nofun

/-- Only a slot that executes is held. -/
theorem servidor_staying {prioridad : ℤ} (h : s.servidor c = .staying prioridad) :
    ∃ socket pid, c.ejecutando = some (socket, pid) ∧ ¬ s.Dejando socket pid ∧ s.prioridad pid = prioridad := by
  unfold servidor at h
  split at h
  · cases h
  split at h
  · cases h
  · rename_i socket pid hejecuta
    split at h
    · cases h
    · rename_i hno
      exact ⟨socket, pid, hejecuta, hno, Server.staying.inj h⟩

theorem servidor_leaving {prioridad : ℤ} (h : s.servidor c = .leaving prioridad) :
    ∃ socket pid, c.ejecutando = some (socket, pid) ∧ s.Dejando socket pid := by
  unfold servidor at h
  split at h
  · cases h
  split at h
  · cases h
  · rename_i socket pid hejecuta
    split at h
    · rename_i hsi
      exact ⟨socket, pid, hejecuta, hsi⟩
    · cases h

theorem free_mem_servidores : .free ∈ s.tablero.servers ↔ hayCpuLibre s.k.cpus := by
  rw [hayCpuLibre_iff]
  show _ ∈ s.k.cpus.map s.servidor ↔ _
  rw [List.mem_map]
  exact exists_congr fun c ↦ and_congr_right fun _ ↦ servidor_eq_free

theorem servidores_getElem? (hi : s.k.cpus[i]? = some c) : s.tablero.servers[i]? = some (s.servidor c) := by
  show (s.k.cpus.map s.servidor)[i]? = _
  rw [List.getElem?_map, hi]
  rfl

/-- Every slot has a connection of its own. -/
theorem Enlazada.otra_conexion (h : s.Enlazada) (hi : s.k.cpus[i]? = some c) (hj : s.k.cpus[j]? = some c')
    (hij : j ≠ i) : c'.socket ≠ c.socket := by
  intro hmisma
  have hsocket : ∀ (n : ℕ) d, s.k.cpus[n]? = some d → (s.k.cpus.map TCpu.socket)[n]? = some d.socket := by
    intro n d hd
    rw [List.getElem?_map, hd]
    rfl
  have hilt : i < (s.k.cpus.map TCpu.socket).length := (List.getElem?_eq_some_iff.mp (hsocket i c hi)).choose
  apply hij
  symm
  apply (List.getElem?_inj hilt h.conexiones).mp
  rw [hsocket i c hi, hsocket j c' hj, hmisma]

/-- A step on the slot of one connection. -/
theorem Enlazada.servidores (h : s.Enlazada) (hi : s.k.cpus[i]? = some c) (hsocket : c.socket = some socket)
    (hcpus : s'.k.cpus = s.k.cpus.modify i f) (hprioridad : ∀ q, s'.prioridad q = s.prioridad q)
    (hdejando : ∀ otro pid, otro ≠ socket → (s'.Dejando otro pid ↔ s.Dejando otro pid)) :
    s'.tablero.servers = s.tablero.servers.set i (s'.servidor (f c)) := by
  show s'.k.cpus.map s'.servidor = (s.k.cpus.map s.servidor).set i _
  rw [hcpus]
  apply ListModify.map_modify_eq_set hi
  intro j c' hj hij
  apply servidor_congr hprioridad
  intro otro pid hejecuta
  apply hdejando
  rintro rfl
  apply h.otra_conexion hi hj hij
  rw [(ejecutando_eq_some.mp hejecuta).2.2, hsocket]

/-- A step that changes no slot. -/
theorem servidores_mismos (hcpus : s'.k.cpus = s.k.cpus) (hprioridad : ∀ q, s'.prioridad q = s.prioridad q)
    (hdejando : ∀ c ∈ s.k.cpus, ∀ socket pid, c.ejecutando = some (socket, pid) →
      (s'.Dejando socket pid ↔ s.Dejando socket pid)) : s'.tablero.servers = s.tablero.servers := by
  show s'.k.cpus.map s'.servidor = s.k.cpus.map s.servidor
  rw [hcpus]
  apply List.map_congr_left
  exact fun c hc ↦ servidor_congr hprioridad (hdejando c hc)

end DesalojoColas

end PlugAndPlay.Planificador
