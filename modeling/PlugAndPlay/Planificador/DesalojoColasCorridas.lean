import PlugAndPlay.Planificador.DesalojoColasTablero

/-!
# Preemption between queues over whole runs

Each step of the scheduler and the CPUs as a step of the board, and what a quiescent state is then.
-/

open PlugAndPlay.Library
open PlugAndPlay.Library.Preemption

namespace PlugAndPlay.Planificador

open KernelScheduler

/-! ## The dispatch -/

namespace KernelScheduler

variable {k : KernelScheduler} {c : TCpu} {socket : Socket}

/-- What a dispatch changes after the table: the message, the PCB and, with a quantum, the timer of the slot. -/
theorem Desalojable.ponerEnExec (h : k.Desalojable) (hsocket : c.socket = some socket) (pid : Pid) (ahora : ℤ)
    (quantum : UInt32) (rr : Bool) :
    (k.ponerEnExec pid c ahora quantum rr).Desalojable ∧
      (k.ponerEnExec pid c ahora quantum rr).enReady = k.enReady ∧
      (k.ponerEnExec pid c ahora quantum rr).enviados = k.enviados ++ [.ejecutarProceso socket pid] ∧
      (∀ q, ((k.ponerEnExec pid c ahora quantum rr).pcbs q).prioridad = (k.pcbs q).prioridad) ∧
      (k.ponerEnExec pid c ahora quantum rr).cpus =
        if rr then iniciarQuantumTimer k.cpus c.cpuId pid else k.cpus := by
  have hprioridad : ∀ q, (((k.enviarPid socket pid).modificarPcb pid fun p ↦
      { p with estado := .exec, tiempoInicioEjecucion := ahora, quantumRestante := quantum }).pcbs q).prioridad =
        (k.pcbs q).prioridad :=
    prioridad_modificarPcb (k.enviarPid socket pid) pid fun _ ↦ rfl
  unfold KernelScheduler.ponerEnExec
  rw [hsocket]
  cases rr with
  | true => exact ⟨h.congr rfl rfl rfl rfl hprioridad, rfl, rfl, hprioridad, rfl⟩
  | false => exact ⟨h.congr rfl rfl rfl rfl hprioridad, rfl, rfl, hprioridad, rfl⟩

end KernelScheduler

/-- The slot of a dispatch, with or without its timer. -/
theorem IdsDistintos.despachada {cpus cpus' : List TCpu} {c : TCpu} {pid : Pid} (h : IdsDistintos cpus)
    (helegir : Planificador.elegirCpu cpus pid = (some c, cpus')) (rr : Bool) :
    c.Libre ∧ ∃ i, cpus[i]? = some c ∧ ∃ f : TCpu → TCpu,
      (if rr then iniciarQuantumTimer cpus' c.cpuId pid else cpus') = cpus.modify i f ∧
        ∀ c, (f c).cpuId = c.cpuId ∧ (f c).socket = c.socket ∧ (f c).disponible = false ∧
          (f c).procesoActual = some pid := by
  obtain ⟨hlibre, hbuscar, rfl⟩ := h.elegirCpu helegir
  obtain ⟨hno, -⟩ | ⟨i, c', hi, hbuscar', hmodificar⟩ := modificarCpu_cases cpus c.cpuId
  · rw [hbuscar] at hno
    cases hno
  obtain rfl := Option.some.inj (hbuscar.symm.trans hbuscar')
  refine ⟨hlibre, i, hi, ?_⟩
  cases rr with
  | true =>
    refine ⟨_, (modificarCpu_modificarCpu _ _ _ ?_).trans (hmodificar _), fun _ ↦ ⟨rfl, rfl, rfl, rfl⟩⟩
    exact fun _ ↦ rfl
  | false =>
    rw [if_neg Bool.false_ne_true, hmodificar]
    exact ⟨_, rfl, fun _ ↦ ⟨rfl, rfl, rfl, rfl⟩⟩

theorem elegirCpu_isSome {cpus : List TCpu} (h : hayCpuLibre cpus) (pid : Pid) : (elegirCpu cpus pid).1.isSome := by
  obtain ⟨c, hc, hlibre⟩ := hayCpuLibre_iff.mp h
  unfold elegirCpu
  split
  · rename_i hninguna
    exact absurd (decide_eq_true hlibre) (by rw [List.findIdx?_eq_none_iff.mp hninguna c hc]; exact Bool.false_ne_true)
  · rename_i i hi
    obtain ⟨hlt, -⟩ := List.findIdx?_eq_some_iff_getElem.mp hi
    rw [List.getElem?_eq_getElem hlt]
    rfl

namespace DesalojoColas

variable {s s' : DesalojoColas} {c : TCpu} {i cpuId : ℕ} {socket otro : Socket} {pid : Pid} {f : TCpu → TCpu}
  {m : Envio} {fase : FaseEnlace} {d : Pid × Destino}

/-! ## Messages and connections -/

theorem enlaces_conEnlace (s : DesalojoColas) (socket : Socket) (fase : FaseEnlace) (otro : Socket) :
    (s.conEnlace socket fase).enlaces otro = if otro = socket then fase else s.enlaces otro :=
  Function.update_apply ..

/-- What a change of the phase of a connection leaves as it is. -/
theorem Dejando.congr
    (hmensajes : (∃ m ∈ s'.k.enviados, m.Interrumpe socket pid) ↔ ∃ m ∈ s.k.enviados, m.Interrumpe socket pid)
    (hfase : (s'.enlaces socket).Saliendo pid ↔ (s.enlaces socket).Saliendo pid) :
    s'.Dejando socket pid ↔ s.Dejando socket pid :=
  or_congr hmensajes hfase

/-- A message that arrives takes its order off the way. -/
theorem ordenes_perm {enviados : List Envio} (hm : m ∈ enviados) (socket : Socket) :
    (enviados.filterMap (Envio.orden socket)).Perm
      ((m.orden socket).toList ++ (enviados.erase m).filterMap (Envio.orden socket)) := by
  calc
    List.Perm (enviados.filterMap (Envio.orden socket)) ((m :: enviados.erase m).filterMap (Envio.orden socket)) :=
      (List.perm_cons_erase hm).filterMap _
    _ = _ := by
      rw [List.filterMap_cons]
      cases m.orden socket <;> rfl

/-- The slot of a connection is the only one that has the process of the connection. -/
theorem Enlazada.proceso (h : s.Enlazada) (hc : c ∈ s.k.cpus) (hsocket : c.socket = some socket)
    (hlleva : pid ∈ s.camino socket) : c.procesoActual = some pid := by
  have hmem := (h.camino c hc socket hsocket).subset hlleva
  exact Option.mem_toList.mp hmem

theorem Enlazada.ejecutando (h : s.Enlazada) (hc : c ∈ s.k.cpus) (hsocket : c.socket = some socket)
    (hlleva : (s.enlaces socket).lleva = some pid) : c.ejecutando = some (socket, pid) := by
  have hmem : pid ∈ s.camino socket := by
    unfold DesalojoColas.camino
    rw [hlleva]
    exact List.mem_append_left _ (List.mem_singleton_self pid)
  have hproceso := h.proceso hc hsocket hmem
  refine ejecutando_eq_some.mpr ⟨h.ocupadas c hc ?_, hproceso, hsocket⟩
  rw [hproceso]
  rfl

/-- A step on messages, connections and handlers that leaves the table as it is. -/
theorem Enlazada.mensaje (h : s.Enlazada) (hcpus : s'.k.cpus = s.k.cpus)
    (hcamino : ∀ socket, (s'.camino socket).Perm (s.camino socket)) (henMano : s'.enMano.Sublist s.enMano)
    (helegido : s'.elegido.isSome → hayCpuLibre s'.k.cpus) : s'.Enlazada where
  ids := by
    rw [hcpus]
    exact h.ids
  conexiones := by
    rw [hcpus]
    exact h.conexiones
  abiertas := by
    rw [hcpus]
    exact h.abiertas
  ocupadas := by
    rw [hcpus]
    exact h.ocupadas
  camino c hc socket hsocket := by
    rw [hcpus] at hc
    exact (hcamino socket).trans (h.camino c hc socket hsocket)
  reservas d hd cpuId hreserva := by
    rw [hcpus]
    exact h.reservas d (henMano.subset hd) cpuId hreserva
  unicas := h.unicas.sublist (henMano.filterMap _)
  elegido := helegido

/-- A step on the slot of one connection. A handler for which a slot is reserved still has it, or it is the
slot of the step. -/
theorem Enlazada.cambiar (h : s.Enlazada) (hi : s.k.cpus[i]? = some c) (hsocket : c.socket = some socket)
    (hcpus : s'.k.cpus = s.k.cpus.modify i f) (hid : ∀ c, (f c).cpuId = c.cpuId)
    (hconexion : ∀ c, (f c).socket = c.socket)
    (hocupada : (f c).procesoActual.isSome → (f c).disponible = false)
    (hcamino : (s'.camino socket).Perm (f c).procesoActual.toList)
    (hotros : ∀ otro, otro ≠ socket → s'.camino otro = s.camino otro)
    (hreservas : ∀ d ∈ s'.enMano, ∀ cpuId ∈ d.2.reserva, (d ∈ s.enMano ∧ cpuId ≠ c.cpuId) ∨
      (cpuId = c.cpuId ∧ (f c).disponible = false ∧ (f c).procesoActual = none))
    (hunicas : (s'.enMano.filterMap fun d ↦ d.2.reserva).Nodup)
    (helegido : s'.elegido.isSome → s.elegido.isSome ∧ (c.Libre → (f c).Libre)) : s'.Enlazada where
  ids := by
    rw [hcpus]
    exact h.ids.modify i hid
  conexiones := by
    rw [hcpus, ListModify.map_modify_of_forall _ _ _ _ hconexion]
    exact h.conexiones
  abiertas c' hc' := by
    rw [hcpus] at hc'
    obtain ⟨j, hj⟩ := List.getElem?_of_mem hc'
    obtain ⟨c₀, hc₀, rfl⟩ := ListModify.exists_of_getElem?_modify hj
    have habierta := h.abiertas c₀ (List.mem_of_getElem? hc₀)
    split
    · rwa [hconexion]
    · exact habierta
  ocupadas c' hc' := by
    rw [hcpus] at hc'
    obtain ⟨j, hj⟩ := List.getElem?_of_mem hc'
    obtain ⟨c₀, hc₀, rfl⟩ := ListModify.exists_of_getElem?_modify hj
    split
    · rename_i hij
      subst hij
      obtain rfl := Option.some.inj (hi.symm.trans hc₀)
      exact hocupada
    · exact h.ocupadas c₀ (List.mem_of_getElem? hc₀)
  camino c' hc' otro hotro := by
    rw [hcpus] at hc'
    obtain ⟨j, hj⟩ := List.getElem?_of_mem hc'
    obtain ⟨c₀, hc₀, rfl⟩ := ListModify.exists_of_getElem?_modify hj
    by_cases hij : i = j
    · subst hij
      obtain rfl := Option.some.inj (hi.symm.trans hc₀)
      rw [if_pos rfl] at hotro ⊢
      have hmismo : some socket = some otro := by rw [← hsocket, ← hconexion, hotro]
      cases hmismo
      exact hcamino
    · rw [if_neg hij] at hotro ⊢
      have hdistinta : otro ≠ socket := by
        rintro rfl
        apply h.otra_conexion hi hc₀ (Ne.symm hij)
        rw [hsocket, hotro]
      rw [hotros otro hdistinta]
      exact h.camino c₀ (List.mem_of_getElem? hc₀) otro hotro
  reservas d hd cpuId hreserva := by
    obtain ⟨hbuscar, hmodificar⟩ := h.ids.buscar hi
    rw [hcpus, ← hmodificar f]
    obtain ⟨hantes, hotra⟩ | ⟨rfl, hreservada⟩ := hreservas d hd cpuId hreserva
    · rw [buscarCpu_modificarCpu_otro _ hotra hid]
      exact h.reservas d hantes cpuId hreserva
    · refine ⟨f c, ?_, hreservada⟩
      rw [buscarCpu_modificarCpu_mismo _ _ hid, hbuscar]
      rfl
  unicas := hunicas
  elegido hsome := by
    obtain ⟨helegido, hlibre⟩ := helegido hsome
    rw [hcpus, hayCpuLibre_iff]
    apply ListModify.exists_mem_modify (hayCpuLibre_iff.mp (h.elegido helegido))
    · intro c' hc' hlibre'
      obtain rfl := Option.some.inj (hi.symm.trans hc')
      exact hlibre hlibre'
    · exact fun _ hlibre' ↦ hlibre'

theorem Cubierta.intro {b : Board ℤ} (hb : b.Balanced) (hdesalojable : s.k.Desalojable) (henlazada : s.Enlazada)
    (htablero : s.tablero = b) : s.Cubierta where
  desalojable := hdesalojable
  enlazada := henlazada
  balance := by
    rw [htablero]
    exact hb

theorem tablero_congr (hcpus : s'.k.cpus = s.k.cpus) (hpcbs : s'.k.pcbs = s.k.pcbs)
    (hready : s'.k.enReady = s.k.enReady) (henMano : s'.enMano = s.enMano)
    (hporVerificar : s'.porVerificar = s.porVerificar) (helegido : s'.elegido = s.elegido)
    (hdejando : ∀ c ∈ s.k.cpus, ∀ socket pid, c.ejecutando = some (socket, pid) →
      (s'.Dejando socket pid ↔ s.Dejando socket pid)) : s'.tablero = s.tablero := by
  have hprioridad : s'.prioridad = s.prioridad := by
    unfold DesalojoColas.prioridad
    rw [hpcbs]
  have hservidores := servidores_mismos hcpus (fun q ↦ congrFun hprioridad q) hdejando
  unfold tablero at hservidores ⊢
  simp only at hservidores
  rw [hprioridad, hready, henMano, hporVerificar, helegido, hservidores]

theorem camino_conEnlace (hfase : fase.lleva = (s.enlaces socket).lleva) (otro : Socket) :
    (s.conEnlace socket fase).camino otro = s.camino otro := by
  unfold camino
  rw [enlaces_conEnlace]
  split
  · rename_i hotro
    rw [hotro, hfase]
    rfl
  · rfl

/-! ## Messages that arrive -/

theorem orden_eq_some : m.orden socket = some pid ↔ m = .ejecutarProceso socket pid := by
  cases m with
  | ejecutarProceso otro q =>
    constructor
    · intro h
      obtain ⟨hotro, hq⟩ := Option.ite_none_right_eq_some.mp h
      rw [hotro, Option.some.inj hq]
    · intro h
      cases h
      exact if_pos rfl
  | interrupcion otro q motivo => exact ⟨nofun, nofun⟩

theorem interrumpe_erase {enviados : List Envio} (hm : ¬ m.Interrumpe socket pid) :
    (∃ otro ∈ enviados.erase m, otro.Interrumpe socket pid) ↔ ∃ otro ∈ enviados, otro.Interrumpe socket pid := by
  constructor
  · rintro ⟨otro, hotro, hinterrumpe⟩
    exact ⟨otro, List.mem_of_mem_erase hotro, hinterrumpe⟩
  · rintro ⟨otro, hotro, hinterrumpe⟩
    refine ⟨otro, (List.mem_erase_of_ne ?_).mpr hotro, hinterrumpe⟩
    rintro rfl
    exact hm hinterrumpe

theorem interrumpe_concat {enviados : List Envio} (hm : ¬ m.Interrumpe socket pid) :
    (∃ otro ∈ enviados ++ [m], otro.Interrumpe socket pid) ↔ ∃ otro ∈ enviados, otro.Interrumpe socket pid := by
  simp only [List.mem_append, List.mem_singleton, or_and_right, exists_or, exists_eq_left]
  exact or_iff_left hm

/-- A message that is sent is at the end of the way. -/
theorem camino_enviar (henviados : s'.k.enviados = s.k.enviados ++ [m]) (henlaces : s'.enlaces = s.enlaces)
    (socket : Socket) : s'.camino socket = s.camino socket ++ (m.orden socket).toList := by
  unfold camino
  rw [henviados, henlaces, List.filterMap_append, List.append_assoc]
  congr 2

/-- What a slot executes is what its connection has, or is on its way there. -/
theorem Enlazada.lleva (h : s.Enlazada) (hc : c ∈ s.k.cpus) (hejecuta : c.ejecutando = some (socket, pid)) :
    (s.enlaces socket).lleva = some pid ∨
      ((s.enlaces socket).lleva = none ∧ .ejecutarProceso socket pid ∈ s.k.enviados) := by
  obtain ⟨-, hproceso, hsocket⟩ := ejecutando_eq_some.mp hejecuta
  have hcamino := h.camino c hc socket hsocket
  rw [hproceso] at hcamino
  have hmem : pid ∈ s.camino socket := hcamino.symm.subset (List.mem_singleton_self pid)
  unfold DesalojoColas.camino at hcamino hmem
  cases hlleva : (s.enlaces socket).lleva with
  | none =>
    rw [hlleva, Option.toList_none, List.nil_append] at hmem
    obtain ⟨m, hm, horden⟩ := List.mem_filterMap.mp hmem
    rw [orden_eq_some.mp horden] at hm
    exact .inr ⟨rfl, hm⟩
  | some q =>
    rw [hlleva] at hcamino
    have hq := hcamino.subset (List.mem_append_left _ (List.mem_singleton_self q))
    rw [List.mem_singleton.mp hq]
    exact .inl rfl

theorem Desalojable.conEnviados {k : KernelScheduler} (h : k.Desalojable) (enviados : List Envio) :
    KernelScheduler.Desalojable { k with enviados := enviados } :=
  h.congr rfl rfl rfl rfl fun _ ↦ rfl

theorem Cubierta.asignar (h : s.Cubierta) (hfase : s.enlaces socket = .cargando pid) :
    (s.conEnlace socket (.ejecutando pid false)).Cubierta := by
  have hlleva : FaseEnlace.lleva (.ejecutando pid false) = (s.enlaces socket).lleva := by
    rw [hfase]
    rfl
  apply Cubierta.intro h.balance
  · exact h.desalojable
  · refine h.enlazada.mensaje rfl (fun otro ↦ ?_) (List.Sublist.refl _) h.enlazada.elegido
    rw [camino_conEnlace hlleva]
  · refine tablero_congr rfl rfl rfl rfl rfl rfl fun c hc otro q hejecuta ↦ ?_
    refine Dejando.congr Iff.rfl ?_
    rw [enlaces_conEnlace]
    split
    · rename_i hotro
      rw [hotro, hfase]
      exact ⟨nofun, nofun⟩
    · exact Iff.rfl

/-- `EJECUTAR_PROCESO` reaches a CPU without a process. -/
theorem Cubierta.entregarEjecutar (h : s.Cubierta) (hm : .ejecutarProceso socket pid ∈ s.k.enviados)
    (hfase : s.enlaces socket = .libre) :
    Cubierta ({ s with
      k := { s.k with enviados := s.k.enviados.erase (.ejecutarProceso socket pid) } }.conEnlace
        socket (.cargando pid)) := by
  apply Cubierta.intro h.balance
  · exact Desalojable.conEnviados h.desalojable _
  · refine h.enlazada.mensaje rfl (fun otro ↦ ?_) (List.Sublist.refl _) h.enlazada.elegido
    have hordenes := ordenes_perm hm otro
    unfold camino
    rw [enlaces_conEnlace]
    split
    · rename_i hotro
      subst hotro
      rw [orden_eq_some.mpr rfl] at hordenes
      rw [hfase]
      exact hordenes.symm
    · rename_i hotro
      have hno : Envio.orden otro (.ejecutarProceso socket pid) = none := if_neg (Ne.symm hotro)
      rw [hno] at hordenes
      exact hordenes.symm.append_left _
  · refine tablero_congr rfl rfl rfl rfl rfl rfl fun c hc otro q hejecuta ↦ ?_
    apply Dejando.congr
    · apply interrumpe_erase
      exact id
    · rw [enlaces_conEnlace]
      split
      · rename_i hotro
        rw [hotro, hfase]
        exact ⟨nofun, nofun⟩
      · exact Iff.rfl

/-- The message is not on its way any more. -/
abbrev sinMensaje (s : DesalojoColas) (m : Envio) : DesalojoColas :=
  { s with k := { s.k with enviados := s.k.enviados.erase m } }

theorem entregar_interrupcion {motivo : Motivo} (h : s.entregar (.interrupcion socket pid motivo) = some s') :
    (s' = s.sinMensaje (.interrupcion socket pid motivo) ∧
      ∀ pendiente, s.enlaces socket ≠ .ejecutando pid pendiente) ∨
    ∃ pendiente, s.enlaces socket = .ejecutando pid pendiente ∧
      s' = (s.sinMensaje (.interrupcion socket pid motivo)).conEnlace socket (.ejecutando pid true) := by
  unfold entregar at h
  simp only at h
  split at h
  · rename_i actual pendiente hfase
    split at h
    · rename_i hactual
      subst hactual
      exact .inr ⟨pendiente, hfase, (Option.some.inj h).symm⟩
    · rename_i hactual
      refine .inl ⟨(Option.some.inj h).symm, fun otro hotro ↦ hactual ?_⟩
      rw [hfase] at hotro
      exact (FaseEnlace.ejecutando.inj hotro).1
  · rename_i hfase
    exact .inl ⟨(Option.some.inj h).symm, fun otro hotro ↦ hfase pid otro hotro⟩

/-- The victim of an interrupt that arrives goes on leaving, unless the CPU has yet to load it. -/
theorem Enlazada.dejando_entregar (h : s.Enlazada) {motivo : Motivo}
    (hm : .interrupcion socket pid motivo ∈ s.k.enviados)
    (hcargado : s.enlaces socket ≠ .cargando pid ∧ .ejecutarProceso socket pid ∉ s.k.enviados)
    (hs' : s.entregar (.interrupcion socket pid motivo) = some s') (hc : c ∈ s.k.cpus) {q : Pid}
    (hejecuta : c.ejecutando = some (otro, q)) : s'.Dejando otro q ↔ s.Dejando otro q := by
  by_cases hvictima : socket = otro ∧ pid = q
  · obtain ⟨rfl, rfl⟩ := hvictima
    have hantes : s.Dejando socket pid := .inl ⟨_, hm, rfl, rfl⟩
    refine iff_of_true (.inr ?_) hantes
    obtain ⟨hs', hno⟩ | ⟨pendiente, hfase, hs'⟩ := entregar_interrupcion hs'
    · subst hs'
      obtain hlleva | ⟨-, horden⟩ := h.lleva hc hejecuta
      · show (s.enlaces socket).Saliendo pid
        cases hfase : s.enlaces socket with
        | libre =>
          rw [hfase] at hlleva
          cases hlleva
        | cargando actual =>
          rw [hfase] at hlleva
          rw [hfase, Option.some.inj hlleva] at hcargado
          exact absurd rfl hcargado.1
        | ejecutando actual pendiente =>
          rw [hfase] at hlleva
          rw [hfase, Option.some.inj hlleva] at hno
          exact absurd rfl (hno pendiente)
        | devuelto actual motivo => trivial
      · exact absurd horden hcargado.2
    · subst hs'
      rw [enlaces_conEnlace, if_pos rfl]
      exact ⟨rfl, rfl⟩
  · have hmensajes : (∃ m ∈ s.k.enviados.erase (.interrupcion socket pid motivo), m.Interrumpe otro q) ↔
        ∃ m ∈ s.k.enviados, m.Interrumpe otro q :=
      interrumpe_erase hvictima
    obtain ⟨hs', -⟩ | ⟨pendiente, hfase, hs'⟩ := entregar_interrupcion hs'
    · subst hs'
      exact Dejando.congr hmensajes Iff.rfl
    · subst hs'
      apply Dejando.congr hmensajes
      rw [enlaces_conEnlace]
      split
      · rename_i hotro
        subst hotro
        -- The CPU executes the process of the slot.
        obtain hlleva | ⟨hlleva, -⟩ := h.lleva hc hejecuta
        · rw [hfase] at hlleva
          exact absurd ⟨rfl, Option.some.inj hlleva⟩ hvictima
        · rw [hfase] at hlleva
          cases hlleva
      · exact Iff.rfl

theorem Cubierta.entregarInterrupcion (h : s.Cubierta) {motivo : Motivo}
    (hm : .interrupcion socket pid motivo ∈ s.k.enviados)
    (hcargado : s.enlaces socket ≠ .cargando pid ∧ .ejecutarProceso socket pid ∉ s.k.enviados)
    (hs' : s.entregar (.interrupcion socket pid motivo) = some s') : s'.Cubierta := by
  have hdejando : ∀ c ∈ s.k.cpus, ∀ otro q, c.ejecutando = some (otro, q) →
      (s'.Dejando otro q ↔ s.Dejando otro q) :=
    fun c hc otro q ↦ h.enlazada.dejando_entregar hm hcargado hs' hc
  have hcamino : ∀ otro, ((s.sinMensaje (.interrupcion socket pid motivo)).camino otro).Perm (s.camino otro) :=
    fun otro ↦ (ordenes_perm hm otro).symm.append_left _
  have hdesalojable := Desalojable.conEnviados h.desalojable (s.k.enviados.erase (.interrupcion socket pid motivo))
  obtain ⟨rfl, -⟩ | ⟨pendiente, hfase, rfl⟩ := entregar_interrupcion hs'
  · apply Cubierta.intro h.balance
    · exact hdesalojable
    · exact h.enlazada.mensaje rfl hcamino (List.Sublist.refl _) h.enlazada.elegido
    · exact tablero_congr rfl rfl rfl rfl rfl rfl hdejando
  · have hlleva : FaseEnlace.lleva (.ejecutando pid true) =
        ((s.sinMensaje (.interrupcion socket pid motivo)).enlaces socket).lleva := by
      rw [hfase]
      rfl
    apply Cubierta.intro h.balance
    · exact hdesalojable
    · refine h.enlazada.mensaje rfl (fun otro ↦ ?_) (List.Sublist.refl _) h.enlazada.elegido
      rw [camino_conEnlace hlleva]
      exact hcamino otro
    · exact tablero_congr rfl rfl rfl rfl rfl rfl hdejando

/-- A CPU that is about to be without its process. -/
theorem Enlazada.servidores_saliendo (h : s.Enlazada) (hi : s.k.cpus[i]? = some c)
    (hejecuta : c.ejecutando = some (socket, pid)) (hcpus : s'.k.cpus = s.k.cpus)
    (hprioridad : ∀ q, s'.prioridad q = s.prioridad q) (hdejando : s'.Dejando socket pid)
    (hotros : ∀ otro q, otro ≠ socket → (s'.Dejando otro q ↔ s.Dejando otro q)) :
    s'.tablero.servers = s.tablero.servers.set i (.leaving (s.prioridad pid)) := by
  rw [← hprioridad pid, ← servidor_saliendo hejecuta hdejando]
  apply h.servidores (f := id) hi (ejecutando_eq_some.mp hejecuta).2.2 _ hprioridad hotros
  rw [hcpus, List.modify_id]

/-! ## The way back -/

theorem Dejando.conEnlace_otro (hotro : otro ≠ socket) :
    (s.conEnlace socket fase).Dejando otro pid ↔ s.Dejando otro pid := by
  refine Dejando.congr Iff.rfl ?_
  rw [enlaces_conEnlace, if_neg hotro]

/-- A CPU that gives its process back leaves it. -/
theorem Cubierta.devolver (h : s.Cubierta) {motivo : Motivo} {pendiente : Bool}
    (hfase : s.enlaces socket = .ejecutando pid pendiente) :
    (s.conEnlace socket (.devuelto pid motivo)).Cubierta := by
  have hlleva : FaseEnlace.lleva (.devuelto pid motivo) = (s.enlaces socket).lleva := by
    rw [hfase]
    rfl
  have henlazada : (s.conEnlace socket (.devuelto pid motivo)).Enlazada := by
    refine h.enlazada.mensaje rfl (fun otro ↦ ?_) (List.Sublist.refl _) h.enlazada.elegido
    rw [camino_conEnlace hlleva]
  by_cases hslot : ∃ c ∈ s.k.cpus, c.socket = some socket
  · obtain ⟨c, hc, hsocket⟩ := hslot
    obtain ⟨i, hi⟩ := List.getElem?_of_mem hc
    have hejecuta : c.ejecutando = some (socket, pid) := by
      apply h.enlazada.ejecutando hc hsocket
      rw [hfase]
      rfl
    have hdejando : (s.conEnlace socket (.devuelto pid motivo)).Dejando socket pid := by
      refine .inr ?_
      rw [enlaces_conEnlace, if_pos rfl]
      trivial
    apply Cubierta.intro (h.balance.leave (servidores_getElem? hi) (servidor_cases hejecuta))
    · exact h.desalojable
    · exact henlazada
    · refine Board.ext rfl rfl rfl rfl rfl ?_
      exact h.enlazada.servidores_saliendo hi hejecuta rfl (fun _ ↦ rfl) hdejando
        fun _ _ hotro ↦ Dejando.conEnlace_otro hotro
  · apply Cubierta.intro h.balance
    · exact h.desalojable
    · exact henlazada
    refine tablero_congr rfl rfl rfl rfl rfl rfl fun c hc otro q hejecuta ↦ ?_
    apply Dejando.conEnlace_otro
    rintro rfl
    exact hslot ⟨c, hc, (ejecutando_eq_some.mp hejecuta).2.2⟩

/-! ## READY -/

/-- A section on the READY queues or on the handlers, with the table and the messages as they are. -/
theorem tablero_colas {k : KernelScheduler} {elegido : Option Pid} {porVerificar : List Pid}
    {enMano : List (Pid × Destino)} (hcpus : k.cpus = s.k.cpus) (henviados : k.enviados = s.k.enviados)
    (hprioridad : ∀ q, (k.pcbs q).prioridad = (s.k.pcbs q).prioridad) :
    tablero ⟨k, s.enlaces, elegido, porVerificar, enMano⟩ = {
      waiting := ↑(k.enReady.map s.prioridad)
      evicted := ↑((sacados Destino.EsFrente enMano).map s.prioridad)
      unchecked := ↑(porVerificar.map s.prioridad)
      kept := ↑((sacados (fun d ↦ d.reserva.isSome) enMano).map s.prioridad)
      chosen := elegido.map s.prioridad
      servers := s.tablero.servers } := by
  have hfuncion : (DesalojoColas.mk k s.enlaces elegido porVerificar enMano).prioridad = s.prioridad :=
    funext hprioridad
  have hservidores : (DesalojoColas.mk k s.enlaces elegido porVerificar enMano).tablero.servers =
      s.tablero.servers :=
    servidores_mismos hcpus hprioridad fun c hc socket pid _ ↦ Dejando.congr (by rw [henviados]) Iff.rfl
  rw [← hfuncion, ← hservidores]
  rfl

theorem coe_map_perm {procesos otros : List Pid} (h : procesos.Perm otros) (s : DesalojoColas) :
    (↑(procesos.map s.prioridad) : Multiset ℤ) = ↑(otros.map s.prioridad) :=
  Multiset.coe_eq_coe.mpr (h.map _)

theorem camino_colas (henviados : s'.k.enviados = s.k.enviados) (henlaces : s'.enlaces = s.enlaces)
    (socket : Socket) : (s'.camino socket).Perm (s.camino socket) := by
  unfold camino
  rw [henviados, henlaces]

theorem mem_waiting {r : ℤ} (h : r ∈ s.tablero.waiting) : ∃ pid ∈ s.k.enReady, s.prioridad pid = r :=
  List.mem_map.mp (Multiset.mem_coe.mp h)

theorem mem_evicted {r : ℤ} (h : r ∈ s.tablero.evicted) : ∃ d ∈ s.enMano, d.2 = .frente ∧ s.prioridad d.1 = r := by
  obtain ⟨pid, hpid, hprioridad⟩ := List.mem_map.mp (Multiset.mem_coe.mp h)
  obtain ⟨d, hd, rfl⟩ := List.mem_map.mp hpid
  obtain ⟨hmem, hfrente⟩ := List.mem_filter.mp hd
  refine ⟨d, hmem, ?_, hprioridad⟩
  cases hdestino : d.2 with
  | frente => rfl
  | _ =>
    rw [hdestino] at hfrente
    cases hfrente

theorem Cubierta.arribar (h : s.Cubierta) (pid : Pid) : (s.arribar pid).Cubierta := by
  obtain ⟨k, hk, hdesalojable, hperm, hcpus, henviados, hprioridad⟩ := h.desalojable.meter pid false
  have harribar : s.arribar pid = { s with k := k, porVerificar := s.porVerificar ++ [pid] } := by
    unfold DesalojoColas.arribar
    rw [hk]
  rw [harribar]
  apply Cubierta.intro (h.balance.arrive (s.prioridad pid))
  · exact hdesalojable
  · refine h.enlazada.mensaje hcpus (camino_colas henviados rfl) (List.Sublist.refl _) fun helegido ↦ ?_
    rw [hcpus]
    exact h.enlazada.elegido helegido
  · rw [tablero_colas hcpus henviados hprioridad]
    apply Board.ext
    · exact coe_map_perm hperm s
    · rfl
    · exact coe_map_perm (List.perm_append_singleton pid s.porVerificar) s
    · rfl
    · rfl
    · rfl

/-- The planner takes the most prioritary process, past no more prioritary one that was evicted. -/
theorem Cubierta.sacar (h : s.Cubierta) (horden : s.EnOrden .sacar) (hs' : s.sacar = some s') : s'.Cubierta := by
  unfold DesalojoColas.sacar at hs'
  obtain ⟨⟨hninguno, hlibre⟩, hs'⟩ := Option.ite_none_right_eq_some.mp hs'
  cases hproximo : s.k.obtenerProximoProcesoReady with
  | mk proceso k =>
    rw [hproximo] at hs'
    cases proceso with
    | none => cases hs'
    | some pid =>
      cases hs'
      obtain ⟨hdesalojable, hperm, hsalvo, hprimero⟩ := h.desalojable.proximo hproximo
      have hcpus : k.cpus = s.k.cpus := by rw [hsalvo]
      have henviados : k.enviados = s.k.enviados := by rw [hsalvo]
      have hprioridad : ∀ q, (k.pcbs q).prioridad = (s.k.pcbs q).prioridad := by
        rw [hsalvo]
        exact fun _ ↦ rfl
      have hready : s.tablero.waiting = s.prioridad pid ::ₘ ↑(k.enReady.map s.prioridad) := coe_map_perm hperm s
      have hninguno : s.tablero.chosen = none := by
        show s.elegido.map s.prioridad = none
        rw [Option.isNone_iff_eq_none.mp hninguno]
        rfl
      apply Cubierta.intro (h.balance.choose hready hninguno (free_mem_servidores.mpr hlibre) _ _)
      · exact hdesalojable
      · refine h.enlazada.mensaje hcpus (camino_colas henviados rfl) (List.Sublist.refl _) fun _ ↦ ?_
        rw [hcpus]
        exact hlibre
      · exact tablero_colas hcpus henviados hprioridad
      · intro r hr
        obtain ⟨q, hq, rfl⟩ := List.mem_map.mp (Multiset.mem_coe.mp hr)
        exact hprimero q hq
      · intro r hr
        obtain ⟨d, hd, hfrente, rfl⟩ := mem_evicted hr
        apply horden pid _ d hd hfrente
        rw [hproximo]
        rfl

/-! ## The check -/

theorem staying_mem {prioridad : ℤ} (h : .staying prioridad ∈ s.tablero.servers) :
    ∃ ejecuta ∈ s.k.cpus.filterMap TCpu.ejecutando, s.prioridad ejecuta.2 = prioridad := by
  obtain ⟨c, hc, hservidor⟩ := List.mem_map.mp h
  obtain ⟨socket, pid, hejecuta, -, hprioridad⟩ := servidor_staying hservidor
  exact ⟨(socket, pid), List.mem_filterMap.mpr ⟨c, hc, hejecuta⟩, hprioridad⟩

/-- A check without a victim. -/
theorem Cubierta.verificarSinVictima (h : s.Cubierta) (hpid : pid ∈ s.porVerificar)
    (hpeores : ∀ q, s.tablero.Held q → q ≤ s.prioridad pid) :
    Cubierta { s with porVerificar := s.porVerificar.erase pid } := by
  have hunchecked : s.tablero.unchecked = s.prioridad pid ::ₘ ↑((s.porVerificar.erase pid).map s.prioridad) :=
    coe_map_perm (List.perm_cons_erase hpid) s
  apply Cubierta.intro (h.balance.check hunchecked hpeores)
  · exact h.desalojable
  · exact h.enlazada.mensaje rfl (fun _ ↦ List.Perm.refl _) (List.Sublist.refl _) h.enlazada.elegido
  · exact tablero_colas rfl rfl fun _ ↦ rfl

/-- A check whose victim does not leave already. -/
theorem Cubierta.verificarConVictima (h : s.Cubierta) (hpid : pid ∈ s.porVerificar) {v : Pid}
    (hvictima : EsVictima s.k.pcbs (s.k.cpus.filterMap TCpu.ejecutando) (socket, v))
    (hquieta : ¬ s.Dejando socket v) (helegido : ∀ p ∈ s.elegido, s.prioridad p ≤ s.prioridad pid) :
    Cubierta { s with
      k := s.k.enviarInterrupcion socket v .desalojoCola
      porVerificar := s.porVerificar.erase pid } := by
  obtain ⟨hmem, hpeor⟩ := hvictima
  obtain ⟨c, hc, hejecuta⟩ := List.mem_filterMap.mp hmem
  obtain ⟨i, hi⟩ := List.getElem?_of_mem hc
  have hunchecked : s.tablero.unchecked = s.prioridad pid ::ₘ ↑((s.porVerificar.erase pid).map s.prioridad) :=
    coe_map_perm (List.perm_cons_erase hpid) s
  have hservidor : s.tablero.servers[i]? = some (.staying (s.prioridad v)) := by
    rw [servidores_getElem? hi, servidor_ocupada hejecuta, if_neg hquieta]
  have hbalance := h.balance.evict hunchecked hservidor
    (by
      intro q hq
      obtain ⟨ejecuta, hejecuta, rfl⟩ := staying_mem hq
      exact hpeor ejecuta hejecuta)
    (by
      intro q hq
      obtain ⟨p, hp, rfl⟩ := Option.map_eq_some_iff.mp hq
      exact helegido p hp)
  have hdejando : DesalojoColas.Dejando { s with
      k := s.k.enviarInterrupcion socket v .desalojoCola
      porVerificar := s.porVerificar.erase pid } socket v :=
    .inl ⟨_, List.mem_append_right _ (List.mem_singleton_self _), rfl, rfl⟩
  apply Cubierta.intro hbalance
  · exact Desalojable.conEnviados h.desalojable _
  · refine h.enlazada.mensaje rfl (fun otro ↦ ?_) (List.Sublist.refl _) h.enlazada.elegido
    unfold camino
    rw [enviarInterrupcion, List.filterMap_append]
    exact List.Perm.of_eq (congrArg _ (List.append_nil _))
  · refine Board.ext rfl rfl rfl rfl rfl ?_
    refine h.enlazada.servidores_saliendo hi hejecuta rfl (fun _ ↦ rfl) hdejando fun otro q hotro ↦ ?_
    refine Dejando.congr ?_ Iff.rfl
    exact interrumpe_concat fun hinterrumpe ↦ hotro hinterrumpe.1.symm

theorem Cubierta.verificar (h : s.Cubierta) (hpid : pid ∈ s.porVerificar) (horden : s.EnOrden (.verificar pid)) :
    Cubierta { s with
      k := s.k.verificarYDesalojarPorPrioridad pid
      porVerificar := s.porVerificar.erase pid } := by
  obtain ⟨helegido, hvictima⟩ := horden
  obtain ⟨hdesalojo, hcompactacion⟩ := h.desalojable.desalojo
  have hchosen : ∀ q, s.tablero.chosen = some q → q ≤ s.prioridad pid := by
    intro q hq
    obtain ⟨p, hp, rfl⟩ := Option.map_eq_some_iff.mp hq
    exact helegido p hp
  unfold verificarYDesalojarPorPrioridad
  rw [if_neg (by simp [hdesalojo, hcompactacion])]
  cases hv : cpuVictima s.k.pcbs s.k.cpus with
  | none =>
    apply h.verificarSinVictima hpid
    intro q hq
    obtain hservidor | hq := hq
    · obtain ⟨ejecuta, hejecuta, -⟩ := staying_mem hservidor
      rw [cpuVictima_eq_none hv] at hejecuta
      cases hejecuta
    · exact hchosen q hq
  | some v =>
    obtain ⟨socket, v⟩ := v
    have hpeor := cpuVictima_eq_some hv
    simp only
    split
    · rename_i hmejor
      exact h.verificarConVictima hpid hpeor (hvictima _ hv hmejor) helegido
    · rename_i hmejor
      apply h.verificarSinVictima hpid
      intro q hq
      obtain hservidor | hq := hq
      · obtain ⟨ejecuta, hejecuta, rfl⟩ := staying_mem hservidor
        exact Int.le_trans (hpeor.2 ejecuta hejecuta) (Int.not_lt.mp hmejor)
      · exact hchosen q hq

/-! ## Slots that change -/

/-- A slot that is free is reserved for no handler. -/
theorem Enlazada.reserva_ajena (h : s.Enlazada) (hbuscar : buscarCpu s.k.cpus c.cpuId = some c)
    (hc : c.disponible = true ∨ c.procesoActual ≠ none) (hd : d ∈ s.enMano) (hreserva : cpuId ∈ d.2.reserva) :
    cpuId ≠ c.cpuId := by
  rintro rfl
  obtain ⟨c', hc', hdisponible, hvacia⟩ := h.reservas d hd _ hreserva
  obtain rfl := Option.some.inj (hbuscar.symm.trans hc')
  obtain hlibre | hocupada := hc
  · rw [hdisponible] at hlibre
    cases hlibre
  · exact hocupada hvacia

/-- The process in hand goes to a free slot. -/
theorem Cubierta.colocar (h : s.Cubierta) (hpid : s.elegido = some pid) (hi : s.k.cpus[i]? = some c)
    (hlibre : c.Libre) (hsocket : c.socket = some socket)
    (hf : ∀ c, (f c).cpuId = c.cpuId ∧ (f c).socket = c.socket ∧ (f c).disponible = false ∧
      (f c).procesoActual = some pid)
    (hdesalojable : s'.k.Desalojable) (hcpus : s'.k.cpus = s.k.cpus.modify i f)
    (hready : s'.k.enReady = s.k.enReady) (henviados : s'.k.enviados = s.k.enviados ++ [.ejecutarProceso socket pid])
    (hprioridad : ∀ q, s'.prioridad q = s.prioridad q) (henlaces : s'.enlaces = s.enlaces)
    (helegido : s'.elegido = none) (hporVerificar : s'.porVerificar = s.porVerificar)
    (henMano : s'.enMano = s.enMano) : s'.Cubierta := by
  obtain ⟨hid, hconexion, hdisponible, hproceso⟩ := hf c
  obtain ⟨hbuscar, -⟩ := h.enlazada.ids.buscar hi
  have hc := List.mem_of_getElem? hi
  have hvacio : s.camino socket = [] := by
    have hcamino := h.enlazada.camino c hc socket hsocket
    cases hantes : c.procesoActual with
    | none =>
      rw [hantes] at hcamino
      exact hcamino.eq_nil
    | some q =>
      have hocupada := h.enlazada.ocupadas c hc (by rw [hantes]; rfl)
      rw [hlibre.1] at hocupada
      cases hocupada
  have hcamino := camino_enviar henviados henlaces
  have hdejando : ∀ otro q, s'.Dejando otro q ↔ s.Dejando otro q := by
    intro otro q
    apply Dejando.congr
    · rw [henviados]
      exact interrumpe_concat id
    · rw [henlaces]
  have hservidores := h.enlazada.servidores hi hsocket hcpus hprioridad fun otro q _ ↦ hdejando otro q
  have hejecuta : (f c).ejecutando = some (socket, pid) :=
    ejecutando_eq_some.mpr ⟨hdisponible, hproceso, hconexion.trans hsocket⟩
  have hservidor := servidor_cases (s := s') hejecuta
  rw [hprioridad] at hservidor
  have hchosen : s.tablero.chosen = some (s.prioridad pid) := by
    show s.elegido.map s.prioridad = _
    rw [hpid]
    rfl
  have hlibre' : s.tablero.servers[i]? = some .free := by
    rw [servidores_getElem? hi, servidor_eq_free.mpr hlibre]
  apply Cubierta.intro (h.balance.place hchosen hlibre' hservidor)
  · exact hdesalojable
  · apply h.enlazada.cambiar hi hsocket hcpus (fun c ↦ (hf c).1) fun c ↦ (hf c).2.1
    · exact fun _ ↦ hdisponible
    · rw [hcamino, hvacio, hproceso, orden_eq_some.mpr rfl]
      exact List.Perm.refl _
    · intro otro hotro
      have hno : Envio.orden otro (.ejecutarProceso socket pid) = none := if_neg (Ne.symm hotro)
      rw [hcamino, hno]
      exact List.append_nil _
    · intro d hd cpuId hreserva
      rw [henMano] at hd
      exact .inl ⟨hd, h.enlazada.reserva_ajena hbuscar (.inl hlibre.1) hd hreserva⟩
    · rw [henMano]
      exact h.enlazada.unicas
    · intro hsome
      rw [helegido] at hsome
      cases hsome
  · unfold tablero at hservidores ⊢
    simp only at hservidores
    rw [hservidores, funext hprioridad, hready, helegido, hporVerificar, henMano]
    rfl

theorem Cubierta.despachar (h : s.Cubierta) {ahora : ℤ} (hs' : s.despachar ahora = some s') : s'.Cubierta := by
  unfold DesalojoColas.despachar at hs'
  obtain ⟨pid, hpid, hs'⟩ := Option.map_eq_some_iff.mp hs'
  have hlibre : hayCpuLibre s.k.cpus := h.enlazada.elegido (by rw [hpid]; rfl)
  have hsome := elegirCpu_isSome hlibre pid
  cases helegir : elegirCpu s.k.cpus pid with
  | mk cpu cpus =>
    rw [helegir] at hs' hsome
    cases cpu with
    | none => cases hsome
    | some c =>
      simp only at hs'
      generalize s.k.config.quantumDeDespacho (s.k.pcbs pid).prioridad = par at hs'
      obtain ⟨quantum, rr⟩ := par
      simp only at hs'
      obtain ⟨hclibre, i, hi, f, hcpus, hf⟩ := h.enlazada.ids.despachada helegir rr
      obtain ⟨socket, hsocket⟩ := Option.isSome_iff_exists.mp hclibre.2
      have hconTabla : KernelScheduler.Desalojable { s.k with cpus := cpus } :=
        h.desalojable.congr rfl rfl rfl rfl fun _ ↦ rfl
      obtain ⟨hdesalojable, hready, henviados, hprioridad, htabla⟩ :=
        hconTabla.ponerEnExec hsocket pid ahora quantum rr
      apply h.colocar hpid hi hclibre hsocket hf
      · rw [← hs']
        exact hdesalojable
      · rw [← hs']
        exact htabla.trans hcpus
      · rw [← hs']
        exact hready
      · rw [← hs']
        exact henviados
      · rw [← hs']
        exact hprioridad
      · rw [← hs']
      · rw [← hs']
      · rw [← hs']
      · rw [← hs']

/-! ## Processes that a handler has -/

theorem destino_reserva (motivo : Motivo) (cpuId : ℕ) (sigue : Bool) :
    (motivo.destino cpuId sigue).reserva = if motivo.EsSyscallMemoria then some cpuId else none := by
  cases motivo with
  | syscall pedido =>
    cases pedido with
    | memAlloc _ => rfl
    | memFree _ => rfl
    | _ => cases sigue <;> rfl
  | _ => rfl

theorem reserva_de_frente {destino : Destino} (h : destino.EsFrente = true) : destino.reserva = none := by
  cases destino with
  | memoria cpuId => cases h
  | _ => rfl

theorem coe_sacados_perm {enMano otras : List (Pid × Destino)} (hperm : enMano.Perm (d :: otras)) (p : Destino → Bool)
    (s : DesalojoColas) :
    (↑((sacados p enMano).map s.prioridad) : Multiset ℤ) =
      if p d.2 then s.prioridad d.1 ::ₘ ↑((sacados p otras).map s.prioridad)
      else ↑((sacados p otras).map s.prioridad) := by
  have hsacados : (sacados p enMano).Perm (sacados p (d :: otras)) := (hperm.filter _).map _
  rw [coe_map_perm hsacados s]
  unfold sacados
  rw [List.filter_cons]
  split
  · rfl
  · rfl

theorem tablero_enMano {servidores : List (Server ℤ)} (hprioridad : ∀ q, s'.prioridad q = s.prioridad q)
    (hready : s'.k.enReady = s.k.enReady) (hporVerificar : s'.porVerificar = s.porVerificar)
    (helegido : s'.elegido = s.elegido) (hservidores : s'.tablero.servers = servidores) :
    s'.tablero = { s.tablero with
      evicted := ↑((sacados Destino.EsFrente s'.enMano).map s.prioridad)
      kept := ↑((sacados (fun d ↦ d.reserva.isSome) s'.enMano).map s.prioridad)
      servers := servidores } := by
  unfold tablero at hservidores ⊢
  rw [← hservidores, funext hprioridad, hready, hporVerificar, helegido]

theorem servidor_vacia (hsocket : c.socket = some socket) (hvacia : c.procesoActual = none) :
    s.servidor c = if c.disponible then .free else .reserved := by
  split
  · rename_i hdisponible
    apply servidor_eq_free.mpr
    exact ⟨hdisponible, by rw [hsocket]; rfl⟩
  · rename_i hdisponible
    exact servidor_reservada (Bool.eq_false_iff.mpr hdisponible) hvacia

/-- A receptor thread takes the process that a CPU returned off its slot. -/
theorem Cubierta.desocupar (h : s.Cubierta) {motivo : Motivo} {destino : Destino} (hi : s.k.cpus[i]? = some c)
    (hsocket : c.socket = some socket) (hfase : s.enlaces socket = .devuelto pid motivo)
    (hf : ∀ c, (f c).cpuId = c.cpuId ∧ (f c).socket = c.socket ∧ (f c).procesoActual = none)
    (hdestino : destino.reserva = if (f c).disponible then none else some c.cpuId)
    (hdesalojable : s'.k.Desalojable) (hcpus : s'.k.cpus = s.k.cpus.modify i f) (hready : s'.k.enReady = s.k.enReady)
    (henviados : s'.k.enviados = s.k.enviados) (hprioridad : ∀ q, s'.prioridad q = s.prioridad q)
    (henlaces : ∀ otro, s'.enlaces otro = if otro = socket then .libre else s.enlaces otro)
    (helegido : s'.elegido = s.elegido) (hporVerificar : s'.porVerificar = s.porVerificar)
    (henMano : s'.enMano = s.enMano ++ [(pid, destino)]) : s'.Cubierta := by
  obtain ⟨hid, hconexion, hvacia⟩ := hf c
  obtain ⟨hbuscar, -⟩ := h.enlazada.ids.buscar hi
  have hc := List.mem_of_getElem? hi
  have hejecuta : c.ejecutando = some (socket, pid) := by
    apply h.enlazada.ejecutando hc hsocket
    rw [hfase]
    rfl
  obtain ⟨hocupada, hproceso, -⟩ := ejecutando_eq_some.mp hejecuta
  have hsaliendo : s.tablero.servers[i]? = some (.leaving (s.prioridad pid)) := by
    rw [servidores_getElem? hi, servidor_saliendo hejecuta (.inr (by rw [hfase]; trivial))]
  have hotros : ∀ otro q, otro ≠ socket → (s'.Dejando otro q ↔ s.Dejando otro q) := by
    intro otro q hotro
    apply Dejando.congr
    · rw [henviados]
    · rw [henlaces, if_neg hotro]
  have hservidores := h.enlazada.servidores hi hsocket hcpus hprioridad hotros
  have hcamino : s'.camino socket = [] := by
    have hantes := h.enlazada.camino c hc socket hsocket
    unfold camino at hantes ⊢
    rw [hfase, hproceso] at hantes
    rw [henlaces, if_pos rfl, henviados]
    exact (List.perm_cons pid).mp hantes |>.eq_nil
  have henlazada : s'.Enlazada := by
    apply h.enlazada.cambiar hi hsocket hcpus (fun c ↦ (hf c).1) fun c ↦ (hf c).2.1
    · intro hsome
      rw [hvacia] at hsome
      cases hsome
    · rw [hcamino, hvacia]
      exact List.Perm.refl _
    · intro otro hotro
      unfold camino
      rw [henlaces, if_neg hotro, henviados]
    · intro d hd cpuId hreserva
      rw [henMano] at hd
      obtain hd | hd := List.mem_append.mp hd
      · refine .inl ⟨hd, h.enlazada.reserva_ajena hbuscar (.inr ?_) hd hreserva⟩
        rw [hproceso]
        exact Option.some_ne_none pid
      · obtain rfl := List.mem_singleton.mp hd
        simp only [hdestino] at hreserva
        split at hreserva
        · cases hreserva
        · rename_i hdisponible
          exact .inr ⟨(Option.some.inj hreserva).symm, Bool.eq_false_iff.mpr hdisponible, hvacia⟩
    · rw [henMano, List.filterMap_append, List.nodup_append]
      refine ⟨h.enlazada.unicas, ?_, ?_⟩
      · rw [List.filterMap_cons, List.filterMap_nil]
        split
        · exact List.nodup_nil
        · exact List.nodup_singleton _
      · intro reservada hreservada nueva hnueva
        obtain ⟨d, hd, hreservada⟩ := List.mem_filterMap.mp hreservada
        obtain ⟨d', hd', hnueva⟩ := List.mem_filterMap.mp hnueva
        obtain rfl := List.mem_singleton.mp hd'
        simp only [hdestino] at hnueva
        split at hnueva
        · cases hnueva
        · rw [← Option.some.inj hnueva]
          refine h.enlazada.reserva_ajena hbuscar (.inr ?_) hd hreservada
          rw [hproceso]
          exact Option.some_ne_none pid
    · intro hsome
      rw [helegido] at hsome
      refine ⟨hsome, fun hlibre ↦ ?_⟩
      rw [hlibre.1] at hocupada
      cases hocupada
  have hevicted := coe_sacados_perm (List.perm_append_singleton (pid, destino) s.enMano) Destino.EsFrente s
  have hkept := coe_sacados_perm (List.perm_append_singleton (pid, destino) s.enMano) (fun d ↦ d.reserva.isSome) s
  rw [← henMano] at hevicted hkept
  rw [servidor_vacia (hconexion.trans hsocket) hvacia] at hservidores
  have htablero := tablero_enMano hprioridad hready hporVerificar helegido hservidores
  simp only at hevicted hkept
  rw [hevicted, hkept, hdestino] at htablero
  by_cases hdisponible : (f c).disponible
  · simp only [if_pos hdisponible, Option.isSome_none, Bool.false_eq_true, if_false] at htablero
    refine Cubierta.intro (h.balance.vacate hsaliendo ?_) hdesalojable henlazada htablero
    split
    · exact .inr rfl
    · exact .inl rfl
  · have hfrente : destino.EsFrente = false := by
      rw [if_neg hdisponible] at hdestino
      rw [← Bool.not_eq_true]
      intro hfrente
      rw [reserva_de_frente hfrente] at hdestino
      cases hdestino
    simp only [if_neg hdisponible, hfrente, Option.isSome_some, Bool.false_eq_true, if_false, if_true] at htablero
    exact Cubierta.intro (h.balance.reserve hsaliendo) hdesalojable henlazada htablero

theorem Cubierta.retirar (h : s.Cubierta) {sigue : Bool} (hs' : s.retirar cpuId sigue = some s') :
    s'.Cubierta := by
  unfold DesalojoColas.retirar at hs'
  split at hs'
  · cases hs'
  rename_i socket hsocket
  obtain ⟨c, hbuscar, hsocket⟩ := Option.bind_eq_some_iff.mp hsocket
  split at hs'
  swap
  · cases hs'
  rename_i pid motivo hfase
  obtain ⟨hno, -⟩ | ⟨i, c', hi, hbuscar', hmodificar⟩ := modificarCpu_cases s.k.cpus cpuId
  · rw [hbuscar] at hno
    cases hno
  obtain rfl := Option.some.inj (hbuscar.symm.trans hbuscar')
  have hid := cpuId_of_buscarCpu hbuscar
  have hejecuta : c.ejecutando = some (socket, pid) := by
    apply h.enlazada.ejecutando (buscarCpu_mem hbuscar) hsocket
    rw [hfase]
    rfl
  have hproceso : (buscarCpu s.k.cpus cpuId).bind TCpu.procesoActual = some pid := by
    rw [hbuscar, Option.bind_some, (ejecutando_eq_some.mp hejecuta).2.1]
  have hdestino := destino_reserva motivo cpuId sigue
  by_cases hmemoria : motivo.EsSyscallMemoria
  · simp only [if_pos hmemoria, retirarProcesoReservando, retirarProcesoDeCpuReservando, hproceso, hmodificar] at hs'
    have hs' := Option.some.inj hs'
    apply h.desocupar hi hsocket hfase (f := fun c ↦ { c with procesoActual := none, timerActivo := false })
    · exact fun c ↦ ⟨rfl, rfl, rfl⟩
    · rw [hdestino, if_pos hmemoria, hid, if_neg]
      simp [(ejecutando_eq_some.mp hejecuta).1]
    · rw [← hs']
      exact h.desalojable.congr rfl rfl rfl rfl fun _ ↦ rfl
    · rw [← hs']
    · rw [← hs']
      rfl
    · rw [← hs']
    · rw [← hs']
      exact fun _ ↦ rfl
    · rw [← hs']
      exact enlaces_conEnlace s socket .libre
    · rw [← hs']
      rfl
    · rw [← hs']
      rfl
    · rw [← hs']
  · simp only [if_neg hmemoria, retirarProceso, retirarProcesoDeCpu, hproceso, hmodificar] at hs'
    have hs' := Option.some.inj hs'
    apply h.desocupar hi hsocket hfase
      (f := fun c ↦ { c with procesoActual := none, timerActivo := false, disponible := true })
    · exact fun c ↦ ⟨rfl, rfl, rfl⟩
    · rw [hdestino, if_neg hmemoria, if_pos rfl]
    · rw [← hs']
      exact h.desalojable.congr rfl rfl rfl rfl fun _ ↦ rfl
    · rw [← hs']
    · rw [← hs']
      rfl
    · rw [← hs']
    · rw [← hs']
      exact fun _ ↦ rfl
    · rw [← hs']
      exact enlaces_conEnlace s socket .libre
    · rw [← hs']
      rfl
    · rw [← hs']
      rfl
    · rw [← hs']

/-! ## The rest of a handler -/

/-- A process that leaves the scheduler's reach, or that goes on to an arrival. -/
theorem Cubierta.soltar (h : s.Cubierta) (hd : d ∈ s.enMano) (hfrente : d.2.EsFrente = false)
    (hreserva : d.2.reserva = none) : Cubierta { s with enMano := s.enMano.erase d } := by
  have hevicted := coe_sacados_perm (List.perm_cons_erase hd) Destino.EsFrente s
  have hkept := coe_sacados_perm (List.perm_cons_erase hd) (fun d ↦ d.reserva.isSome) s
  simp only [hfrente, hreserva, Option.isSome_none, Bool.false_eq_true, if_false] at hevicted hkept
  apply Cubierta.intro h.balance
  · exact h.desalojable
  · exact h.enlazada.mensaje rfl (fun _ ↦ List.Perm.refl _) List.erase_sublist h.enlazada.elegido
  · rw [tablero_colas rfl rfl fun _ ↦ rfl]
    exact Board.ext rfl hevicted.symm rfl hkept.symm rfl rfl

/-- An evicted process goes to the front of READY. -/
theorem Cubierta.reencolar (h : s.Cubierta) (hd : (pid, .frente) ∈ s.enMano) :
    Cubierta { s with
      k := (s.k.meterEnReady pid true).getD s.k
      enMano := s.enMano.erase (pid, .frente) } := by
  obtain ⟨k, hk, hdesalojable, hperm, hcpus, henviados, hprioridad⟩ := h.desalojable.meter pid true
  have hevicted : s.tablero.evicted =
      s.prioridad pid ::ₘ ↑((sacados Destino.EsFrente (s.enMano.erase (pid, .frente))).map s.prioridad) :=
    coe_sacados_perm (List.perm_cons_erase hd) Destino.EsFrente s
  have hkept := coe_sacados_perm (List.perm_cons_erase hd) (fun d ↦ d.reserva.isSome) s
  rw [hk, Option.getD_some]
  apply Cubierta.intro (h.balance.requeue hevicted)
  · exact hdesalojable
  · refine h.enlazada.mensaje hcpus (camino_colas henviados rfl) List.erase_sublist fun helegido ↦ ?_
    rw [hcpus]
    exact h.enlazada.elegido helegido
  · rw [tablero_colas hcpus henviados hprioridad]
    exact Board.ext (coe_map_perm hperm s) rfl rfl hkept.symm rfl rfl

/-- A slot is reserved for no handler but the one that has it. -/
theorem Enlazada.reserva_unica (h : s.Enlazada) (hd : (pid, .memoria cpuId) ∈ s.enMano)
    (hotra : d ∈ s.enMano.erase (pid, .memoria cpuId)) {otroId : ℕ} (hreserva : otroId ∈ d.2.reserva) :
    otroId ≠ cpuId := by
  rintro rfl
  have hperm := (List.perm_cons_erase hd).filterMap fun d ↦ d.2.reserva
  have hunicas := hperm.nodup_iff.mp h.unicas
  simp only [List.filterMap_cons, Destino.reserva] at hunicas
  exact (List.nodup_cons.mp hunicas).1 (List.mem_filterMap.mpr ⟨d, hotra, hreserva⟩)

/-- The slot that is reserved for a handler. -/
theorem Enlazada.reservada (h : s.Enlazada) (hd : (pid, .memoria cpuId) ∈ s.enMano) :
    ∃ i c socket, s.k.cpus[i]? = some c ∧ buscarCpu s.k.cpus cpuId = some c ∧
      (∀ f, modificarCpu s.k.cpus cpuId f = s.k.cpus.modify i f) ∧ c.cpuId = cpuId ∧ c.socket = some socket ∧
      c.disponible = false ∧ c.procesoActual = none ∧ s.camino socket = [] := by
  obtain ⟨c, hbuscar, hdisponible, hvacia⟩ := h.reservas _ hd cpuId rfl
  obtain ⟨hno, -⟩ | ⟨i, c', hi, hbuscar', hmodificar⟩ := modificarCpu_cases s.k.cpus cpuId
  · rw [hbuscar] at hno
    cases hno
  obtain rfl := Option.some.inj (hbuscar.symm.trans hbuscar')
  have hc := buscarCpu_mem hbuscar
  obtain ⟨socket, hsocket⟩ := Option.isSome_iff_exists.mp (h.abiertas c hc)
  have hcamino := h.camino c hc socket hsocket
  rw [hvacia] at hcamino
  exact ⟨i, c, socket, hi, hbuscar, hmodificar, cpuId_of_buscarCpu hbuscar, hsocket, hdisponible, hvacia,
    hcamino.eq_nil⟩

/-- After a syscall of memory the process is back on its CPU, past no more prioritary one. -/
theorem Cubierta.volver (h : s.Cubierta) (hd : (pid, .memoria cpuId) ∈ s.enMano)
    (horden : s.EnOrden (.atender pid (.memoria cpuId) true)) (hi : s.k.cpus[i]? = some c) (hid : c.cpuId = cpuId)
    (hsocket : c.socket = some socket) (hdisponible : c.disponible = false) (hvacia : c.procesoActual = none)
    (hvacio : s.camino socket = []) (hdesalojable : s'.k.Desalojable)
    (hcpus : s'.k.cpus = s.k.cpus.modify i fun c ↦ { c with procesoActual := some pid })
    (hready : s'.k.enReady = s.k.enReady) (henviados : s'.k.enviados = s.k.enviados ++ [.ejecutarProceso socket pid])
    (hprioridad : ∀ q, s'.prioridad q = s.prioridad q) (henlaces : s'.enlaces = s.enlaces)
    (helegido : s'.elegido = s.elegido) (hporVerificar : s'.porVerificar = s.porVerificar)
    (henMano : s'.enMano = s.enMano.erase (pid, .memoria cpuId)) : s'.Cubierta := by
  obtain ⟨hready', hevicted'⟩ := horden
  have hcamino := camino_enviar henviados henlaces
  have hdejando : ∀ otro q, s'.Dejando otro q ↔ s.Dejando otro q := by
    intro otro q
    apply Dejando.congr
    · rw [henviados]
      exact interrumpe_concat id
    · rw [henlaces]
  have hservidores := h.enlazada.servidores hi hsocket hcpus hprioridad fun otro q _ ↦ hdejando otro q
  have hejecuta : TCpu.ejecutando { c with procesoActual := some pid } = some (socket, pid) :=
    ejecutando_eq_some.mpr ⟨hdisponible, rfl, hsocket⟩
  have hservidor := servidor_cases (s := s') hejecuta
  rw [hprioridad] at hservidor
  have hreservado : s.tablero.servers[i]? = some .reserved := by
    rw [servidores_getElem? hi, servidor_reservada hdisponible hvacia]
  have hevicted := coe_sacados_perm (List.perm_cons_erase hd) Destino.EsFrente s
  have hkept : s.tablero.kept = s.prioridad pid ::ₘ
      ↑((sacados (fun d ↦ d.reserva.isSome) (s.enMano.erase (pid, .memoria cpuId))).map s.prioridad) :=
    coe_sacados_perm (List.perm_cons_erase hd) (fun d ↦ d.reserva.isSome) s
  have hbalance := h.balance.back hreservado hkept
    (by
      intro r hr
      obtain ⟨q, hq, rfl⟩ := mem_waiting hr
      exact hready' q hq)
    (by
      intro r hr
      obtain ⟨d, hd, hfrente, rfl⟩ := mem_evicted hr
      exact hevicted' d hd hfrente)
    (by
      intro hchosen
      apply free_mem_servidores.mpr
      exact h.enlazada.elegido (Option.isSome_map ▸ hchosen))
    hservidor
  apply Cubierta.intro hbalance
  · exact hdesalojable
  · apply h.enlazada.cambiar hi hsocket hcpus (fun _ ↦ rfl) fun _ ↦ rfl
    · exact fun _ ↦ hdisponible
    · rw [hcamino, hvacio, orden_eq_some.mpr rfl]
      exact List.Perm.refl _
    · intro otro hotro
      have hno : Envio.orden otro (.ejecutarProceso socket pid) = none := if_neg (Ne.symm hotro)
      rw [hcamino, hno]
      exact List.append_nil _
    · intro d hd' otroId hreserva
      rw [henMano] at hd'
      rw [hid]
      exact .inl ⟨List.mem_of_mem_erase hd', h.enlazada.reserva_unica hd hd' hreserva⟩
    · rw [henMano]
      exact h.enlazada.unicas.sublist (List.erase_sublist.filterMap _)
    · intro hsome
      rw [helegido] at hsome
      refine ⟨hsome, fun hlibre ↦ ?_⟩
      rw [hlibre.1] at hdisponible
      cases hdisponible
  · rw [tablero_enMano hprioridad hready hporVerificar helegido hservidores, henMano]
    exact Board.ext rfl hevicted.symm rfl rfl rfl rfl

/-- A process that does not come back from a syscall of memory leaves its slot free. -/
theorem Cubierta.liberar (h : s.Cubierta) (hd : (pid, .memoria cpuId) ∈ s.enMano) :
    Cubierta { s with
      k := s.k.liberarReservada cpuId
      enMano := s.enMano.erase (pid, .memoria cpuId) } := by
  obtain ⟨i, c, socket, hi, hbuscar, hmodificar, hid, hsocket, hdisponible, hvacia, hvacio⟩ :=
    h.enlazada.reservada hd
  have hcpus : (s.k.liberarReservada cpuId).cpus = s.k.cpus.modify i fun c ↦ { c with disponible := true } :=
    hmodificar _
  have hreservado : s.tablero.servers[i]? = some .reserved := by
    rw [servidores_getElem? hi, servidor_reservada hdisponible hvacia]
  have hevicted := coe_sacados_perm (List.perm_cons_erase hd) Destino.EsFrente s
  have hkept : s.tablero.kept = s.prioridad pid ::ₘ
      ↑((sacados (fun d ↦ d.reserva.isSome) (s.enMano.erase (pid, .memoria cpuId))).map s.prioridad) :=
    coe_sacados_perm (List.perm_cons_erase hd) (fun d ↦ d.reserva.isSome) s
  have hlibre : TCpu.Libre { c with disponible := true } := ⟨rfl, by rw [hsocket]; rfl⟩
  apply Cubierta.intro (h.balance.release hreservado hkept)
  · exact h.desalojable.congr rfl rfl rfl rfl fun _ ↦ rfl
  · apply h.enlazada.cambiar (f := fun c ↦ { c with disponible := true }) hi hsocket hcpus (fun _ ↦ rfl)
      fun _ ↦ rfl
    · intro hsome
      rw [hvacia] at hsome
      cases hsome
    · rw [hvacia]
      exact List.Perm.of_eq hvacio
    · exact fun _ _ ↦ rfl
    · intro d hd' otroId hreserva
      rw [hid]
      exact .inl ⟨List.mem_of_mem_erase hd', h.enlazada.reserva_unica hd hd' hreserva⟩
    · exact h.enlazada.unicas.sublist (List.erase_sublist.filterMap _)
    · exact fun hsome ↦ ⟨hsome, fun _ ↦ hlibre⟩
  · apply Board.ext
    · rfl
    · exact hevicted.symm
    · rfl
    · rfl
    · rfl
    · refine Eq.trans (h.enlazada.servidores (f := fun c ↦ { c with disponible := true }) hi hsocket hcpus
        (fun _ ↦ rfl) fun _ _ _ ↦ Iff.rfl) ?_
      rw [servidor_eq_free.mpr hlibre]

theorem Cubierta.atender (h : s.Cubierta) {destino : Destino} {vuelve : Bool} (hd : (pid, destino) ∈ s.enMano)
    (horden : s.EnOrden (.atender pid destino vuelve)) : (s.atender pid destino vuelve).Cubierta := by
  unfold DesalojoColas.atender
  cases destino with
  | frente => exact h.reencolar hd
  | final => exact (h.soltar hd rfl rfl).arribar pid
  | fuera => exact h.soltar hd rfl rfl
  | memoria cpuId =>
    cases vuelve with
    | false => exact h.liberar hd
    | true =>
      obtain ⟨i, c, socket, hi, hbuscar, hmodificar, hid, hsocket, hdisponible, hvacia, hvacio⟩ :=
        h.enlazada.reservada hd
      have hdevolver : devolverProcesoAMismaCpu s.k.cpus cpuId pid =
          (some socket, s.k.cpus.modify i fun c ↦ { c with procesoActual := some pid }) := by
        unfold devolverProcesoAMismaCpu
        rw [hbuscar, Option.bind_some, hsocket, hmodificar]
      simp only [if_true, hdevolver]
      apply h.volver hd horden hi hid hsocket hdisponible hvacia hvacio
      · exact h.desalojable.congr rfl rfl rfl rfl fun _ ↦ rfl
      · rfl
      · rfl
      · rfl
      · exact fun _ ↦ rfl
      · rfl
      · rfl
      · rfl
      · rfl

/-! ## Runs -/

theorem Cubierta.paso (h : s.Cubierta) {e : EventoCola} (horden : s.EnOrden e) (hpaso : s.paso e = some s') :
    s'.Cubierta := by
  cases e with
  | arribar pid =>
    cases hpaso
    exact h.arribar pid
  | verificar pid =>
    obtain ⟨hpid, hs'⟩ := Option.ite_none_right_eq_some.mp hpaso
    obtain rfl := Option.some.inj hs'
    exact h.verificar hpid horden
  | sacar => exact h.sacar horden hpaso
  | despachar ahora => exact h.despachar hpaso
  | entregar m =>
    obtain ⟨hm, hs'⟩ := Option.ite_none_right_eq_some.mp hpaso
    cases m with
    | ejecutarProceso socket pid =>
      obtain ⟨hfase, hs'⟩ := Option.ite_none_right_eq_some.mp hs'
      obtain rfl := Option.some.inj hs'
      exact h.entregarEjecutar hm hfase
    | interrupcion socket pid motivo => exact h.entregarInterrupcion hm horden hs'
  | asignar socket =>
    unfold DesalojoColas.paso at hpaso
    simp only at hpaso
    split at hpaso
    · rename_i hfase
      cases hpaso
      exact h.asignar hfase
    · cases hpaso
  | devolver socket motivo =>
    unfold DesalojoColas.paso DesalojoColas.devolver at hpaso
    simp only at hpaso
    split at hpaso
    · rename_i hfase
      obtain ⟨-, hs'⟩ := Option.ite_none_right_eq_some.mp hpaso
      obtain rfl := Option.some.inj hs'
      exact h.devolver hfase
    · cases hpaso
  | retirar cpuId sigue => exact h.retirar hpaso
  | atender pid destino vuelve =>
    obtain ⟨hd, hs'⟩ := Option.ite_none_right_eq_some.mp hpaso
    obtain rfl := Option.some.inj hs'
    exact h.atender hd horden

theorem Arranque.desalojable (h : s.Arranque) : s.k.Desalojable := by
  obtain ⟨config, pcbs, cpus, hcmn, hniveles, hdesalojo, hk⟩ := h.config
  have hprioridades := h.prioridades
  rw [hk] at hprioridades ⊢
  obtain ⟨huso, -⟩ := colas_inicial config fun _ ↦ hniveles
  have hglobal : config.algoritmoGlobal = .cmn := by
    unfold ConfigScheduler.algoritmoGlobal
    rw [hcmn]
    rfl
  refine ⟨⟨huso.cmn, huso.unica⟩, hglobal, ⟨hdesalojo, rfl⟩, hprioridades, fun i cola hcola pid hpid ↦ ?_⟩
  have hmem := List.mem_of_getElem? hcola
  simp only [inicial, if_pos hcmn] at hmem
  rw [List.eq_of_mem_replicate hmem] at hpid
  cases hpid

theorem Arranque.enlazada (h : s.Arranque) : s.Enlazada := by
  obtain ⟨config, pcbs, cpus, -, -, -, hk⟩ := h.config
  refine ⟨h.ids, h.conexiones, fun c hc ↦ (h.libres c hc).1.2, fun c hc hproceso ↦ ?_, fun c hc socket _ ↦ ?_, ?_, ?_, ?_⟩
  · rw [(h.libres c hc).2] at hproceso
    cases hproceso
  · unfold camino
    rw [h.enlaces socket, (h.libres c hc).2, hk]
    exact List.Perm.refl _
  · rw [h.enMano]
    exact fun d hd ↦ nomatch hd
  · rw [h.enMano]
    exact List.nodup_nil
  · rw [h.elegido]
    exact nofun

theorem Arranque.cubierta (h : s.Arranque) : s.Cubierta := by
  refine ⟨h.desalojable, h.enlazada, fun q hq ↦ ?_⟩
  obtain hservidor | hchosen := hq
  · obtain ⟨c, hc, hservidor⟩ := List.mem_map.mp hservidor
    rw [servidor_eq_free.mpr (h.libres c hc).1] at hservidor
    cases hservidor
  · have hninguno : s.tablero.chosen = none := by
      show s.elegido.map s.prioridad = none
      rw [h.elegido]
      rfl
    rw [hninguno] at hchosen
    cases hchosen

/-- With nothing on its way, no CPU is about to be without its process. -/
theorem Quieta.no_dejando (h : s.Quieta) (hc : c ∈ s.k.cpus) (hsocket : c.socket = some socket) (pid : Pid) :
    ¬ s.Dejando socket pid := by
  obtain ⟨henviados, -, -, -, -, htranquilas⟩ := h
  have htranquila := htranquilas c hc socket hsocket
  rintro (⟨m, hm, -⟩ | hsaliendo)
  · rw [henviados] at hm
    cases hm
  · cases hfase : s.enlaces socket with
    | ejecutando actual pendiente =>
      rw [hfase] at htranquila hsaliendo
      rw [hsaliendo.2] at htranquila
      exact htranquila
    | libre =>
      rw [hfase] at hsaliendo
      exact hsaliendo
    | cargando actual =>
      rw [hfase] at hsaliendo
      exact hsaliendo
    | devuelto actual motivo =>
      rw [hfase] at htranquila
      exact htranquila

theorem Cubierta.cumplido (h : s.Cubierta) (hquieta : s.Quieta) : s.Cumplido := by
  intro pid hpid c hc socket hsocket actual hactual
  have hno := hquieta.no_dejando hc hsocket actual
  obtain ⟨henviados, henMano, hporVerificar, -, hsinLibre, -⟩ := id hquieta
  have hejecuta : c.ejecutando = some (socket, actual) := by
    apply h.enlazada.ejecutando hc hsocket
    cases hfase : s.enlaces socket with
    | ejecutando otro pendiente =>
      rw [hfase] at hactual
      exact hactual
    | _ =>
      rw [hfase] at hactual
      cases hactual
  have hservido : .staying (s.prioridad actual) ∈ s.tablero.servers := by
    apply List.mem_map.mpr
    refine ⟨c, hc, ?_⟩
    rw [servidor_ocupada hejecuta, if_neg hno]
  have hespera : s.prioridad pid ∈ s.tablero.waiting := Multiset.mem_coe.mpr (List.mem_map_of_mem hpid)
  apply not_lt_of_ge
  apply h.balance.settled _ _ _ _ hespera hservido
  · intro job hjob
    obtain ⟨c', hc', hservidor⟩ := List.mem_map.mp hjob
    obtain ⟨otro, q, hejecuta', hdejando⟩ := servidor_leaving hservidor
    exact hquieta.no_dejando hc' (ejecutando_eq_some.mp hejecuta').2.2 q hdejando
  · show (↑((sacados _ s.enMano).map s.prioridad) : Multiset ℤ) = 0
    rw [henMano]
    rfl
  · show (↑(s.porVerificar.map s.prioridad) : Multiset ℤ) = 0
    rw [hporVerificar]
    rfl
  · intro hlibre
    show (↑(s.k.enReady.map s.prioridad) : Multiset ℤ) = 0
    rw [hsinLibre (free_mem_servidores.mp hlibre)]
    rfl

/-- Preemption between queues reaches its goal in every run whose steps are in order. -/
theorem cumplido_enOrden {s : DesalojoColas} (h : Reachable paso Arranque EnOrden s) (hquieta : s.Quieta) :
    s.Cumplido := by
  have hcubierta : s.Cubierta := by
    apply h.invariant (P := Cubierta)
    · exact fun _ hs ↦ hs.cubierta
    · exact fun _ _ _ hs horden hpaso ↦ hs.paso horden hpaso
  exact hcubierta.cumplido hquieta

theorem idsDistintos_of_nodup {cpus : List TCpu} (h : (cpus.map TCpu.cpuId).Nodup) : IdsDistintos cpus := by
  intro i j c c' hc hc' higual
  have hid : ∀ (n : ℕ) d, cpus[n]? = some d → (cpus.map TCpu.cpuId)[n]? = some d.cpuId := by
    intro n d hd
    rw [List.getElem?_map, hd]
    rfl
  have hlt : i < (cpus.map TCpu.cpuId).length := (List.getElem?_eq_some_iff.mp (hid i c hc)).choose
  apply (List.getElem?_inj hlt h).mp
  rw [hid i c hc, hid j c' hc', higual]

/-- CMN with three levels and preemption between them, two CPUs, and a process of each level. -/
def tresNiveles : DesalojoColas where
  k := { KernelScheduler.inicial ⟨.cmn, 3, [.fifo, .fifo, .fifo], true, 0, 0⟩ with
    pcbs := fun pid ↦ { Pcb.libre with prioridad := if pid = 1 then 2 else if pid = 2 then 1 else 0 }
    cpus := [⟨some 4, 1, true, none, false, 0⟩, ⟨some 5, 2, true, none, false, 0⟩] }
  enlaces _ := .libre
  elegido := none
  porVerificar := []
  enMano := []

theorem arranque_tresNiveles : tresNiveles.Arranque := by
  have hids : IdsDistintos tresNiveles.k.cpus := idsDistintos_of_nodup (by decide)
  refine ⟨⟨_, _, _, rfl, by decide, rfl, rfl⟩, fun pid ↦ ?_, hids, by decide, by decide, fun _ ↦ rfl, rfl, rfl, rfl⟩
  simp only [tresNiveles]
  split
  · decide
  · split <;> decide

/-- An arrival evicts the least prioritary of two processes. -/
theorem cumplido_tras_desalojo : ∃ s, Reachable paso Arranque EnOrden s ∧
    (s.Quieta ∧ s.k.enReady = [1] ∧ s.enlaces 4 = .ejecutando 2 false ∧ s.enlaces 5 = .ejecutando 3 false) ∧
      s.Cumplido := by
  have hinicio : Reachable paso Arranque EnOrden tresNiveles := .start arranque_tresNiveles
  obtain ⟨s, hs, hfin⟩ := hinicio.exists_of_runAllowed
    [.arribar 2, .verificar 2, .sacar, .despachar 0, .entregar (.ejecutarProceso 4 2), .asignar 4, .arribar 1,
      .verificar 1, .sacar, .despachar 1, .entregar (.ejecutarProceso 5 1), .asignar 5, .arribar 3, .verificar 3,
      .entregar (.interrupcion 5 1 .desalojoCola), .devolver 5 .desalojoCola, .retirar 2 false,
      .atender 1 .frente false, .sacar, .despachar 2, .entregar (.ejecutarProceso 5 3), .asignar 5]
    (fun s ↦ s.Quieta ∧ s.k.enReady = [1] ∧ s.enlaces 4 = .ejecutando 2 false ∧ s.enlaces 5 = .ejecutando 3 false)
    (by decide +kernel)
  exact ⟨s, hs, hfin, cumplido_enOrden hs hfin.1⟩

/-- Two arrivals one after the other interrupt the same victim, and the second of them waits for the CPU of a
less prioritary process. -/
theorem no_cumplido_misma_victima :
    ∃ s, Reachable paso Arranque (fun _ _ ↦ True) s ∧ s.Quieta ∧ ¬ s.Cumplido := by
  have hinicio : Reachable paso Arranque (fun _ _ ↦ True) tresNiveles := .start arranque_tresNiveles
  exact hinicio.exists_of_runAllowed
    [.arribar 2, .verificar 2, .sacar, .despachar 0, .entregar (.ejecutarProceso 4 2), .asignar 4, .arribar 1,
      .verificar 1, .sacar, .despachar 1, .entregar (.ejecutarProceso 5 1), .asignar 5, .arribar 3, .verificar 3,
      .arribar 4, .verificar 4, .entregar (.interrupcion 5 1 .desalojoCola), .devolver 5 .desalojoCola,
      .entregar (.interrupcion 5 1 .desalojoCola), .retirar 2 false, .atender 1 .frente false, .sacar, .despachar 2,
      .entregar (.ejecutarProceso 5 3), .asignar 5]
    (fun s ↦ s.Quieta ∧ ¬ s.Cumplido) (by decide +kernel)

end DesalojoColas

end PlugAndPlay.Planificador
