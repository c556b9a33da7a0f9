import PlugAndPlay.Library.Transitions
import PlugAndPlay.Planificador.Receptor

/-!
# Connections of CPUs

The table of CPUs, the connections it stands for and the messages on them. Each section under the lock of
the table, each send and each message that is read is a step, so that between any two of them a CPU
may come or go. Which process is dispatched comes from outside.
-/

open PlugAndPlay.Library

namespace PlugAndPlay.Planificador

/-- Where a `scheduler_cpu_receptor_thread` is: before its next message, in a memory syscall of the
process it took from the table, or before the `enviar_pid` that gives it back. -/
inductive FaseReceptor
  | leer
  | memoria (pid : Pid)
  | enviar (socket : Socket) (pid : Pid)
deriving Repr, DecidableEq

/-- An open connection: the arguments of its thread, what was sent to the CPU, what the CPU runs, and what
it has sent back. `posicion` is the slot that the handshake filled and `ultimo` the process last
dispatched over the connection. -/
structure Conexion where
  cpuId : ℕ
  fase : FaseReceptor
  porEjecutar : List Pid
  ejecuta : Option Pid
  devueltos : List (Pid × Motivo)
  posicion : ℕ
  ultimo : Option Pid
deriving Repr, DecidableEq

/-- A connection after its handshake. -/
def Conexion.nueva (cpuId posicion : ℕ) : Conexion := ⟨cpuId, .leer, [], none, [], posicion, none⟩

/-- A process is sent over the connection. -/
def Conexion.conEnvio (c : Conexion) (pid : Pid) : Conexion :=
  { c with porEjecutar := c.porEjecutar ++ [pid], ultimo := some pid }

/-- `despacho` is the `enviar_pid` that the short-term planner is about to do. -/
structure RedCpus where
  cpus : List TCpu
  conexion : Socket → Option Conexion
  despacho : Option (Socket × Pid)

inductive EventoRed
  | conectar (socket : Socket) (cpuId : ℕ)
  | desconectar (socket : Socket)
  | elegir (pid : Pid)
  | despachar
  | ejecutar (socket : Socket)
  | devolver (socket : Socket) (motivo : Motivo)
  | atender (socket : Socket)
  | terminarMemoria (socket : Socket) (vuelve : Bool)
  | enviarDeVuelta (socket : Socket)
deriving Repr, DecidableEq

namespace RedCpus

variable (r : RedCpus)

def cambiar (socket : Socket) (c : Conexion) : RedCpus :=
  { r with conexion := Function.update r.conexion socket (some c) }

def cerrar (socket : Socket) : RedCpus :=
  { r with conexion := Function.update r.conexion socket none }

/-- `enviar_pid`. Over a descriptor that is not open nothing arrives. -/
def enviarPid (socket : Socket) (pid : Pid) : RedCpus :=
  (r.conexion socket).elim r fun c ↦ r.cambiar socket (c.conEnvio pid)

/-- The section of `scheduler_handshake_handler`. -/
def conectar (socket : Socket) (cpuId : ℕ) : RedCpus :=
  { r with cpus := agregarCpu r.cpus socket cpuId }.cambiar socket (.nueva cpuId r.cpus.length)

/-- `DEVOLVER_PROCESO` up to the process that is taken from the table. -/
def atender (socket : Socket) (c : Conexion) (motivo : Motivo) (resto : List (Pid × Motivo)) : RedCpus :=
  if motivo.EsSyscallMemoria then
    let (proceso, cpus) := retirarProcesoDeCpuReservando r.cpus c.cpuId
    match proceso with
    | none => { r with cpus := liberarCpuReservada cpus c.cpuId }.cambiar socket { c with devueltos := resto }
    | some pid => { r with cpus := cpus }.cambiar socket { c with fase := .memoria pid, devueltos := resto }
  else { r with cpus := (retirarProcesoDeCpu r.cpus c.cpuId).2 }.cambiar socket { c with devueltos := resto }

/-- The end of a memory syscall: the process goes back to its CPU, or it ends. -/
def terminarMemoria (socket : Socket) (c : Conexion) (pid : Pid) (vuelve : Bool) : RedCpus :=
  if vuelve then
    match devolverProcesoAMismaCpu r.cpus c.cpuId pid with
    | (none, _) => r.cambiar socket { c with fase := .leer }
    | (some destino, cpus) => { r with cpus := cpus }.cambiar socket { c with fase := .enviar destino pid }
  else { r with cpus := liberarCpuReservada r.cpus c.cpuId }.cambiar socket { c with fase := .leer }

/-- One step. A CPU gives back what it runs, and once. -/
def paso : EventoRed → Option RedCpus
  | .conectar socket cpuId =>
    if 0 < cpuId ∧ (r.conexion socket).isNone then some (r.conectar socket cpuId) else none
  | .desconectar socket => (r.conexion socket).bind fun c ↦
    if c.fase = .leer then
      some ({ r with cpus := marcarCpuDesconectada r.cpus c.cpuId }.cerrar socket)
    else none
  | .elegir pid =>
    if r.despacho.isNone then
      match elegirCpu r.cpus pid with
      | (none, _) => some r
      | (some cpu, cpus) => some { r with cpus := cpus, despacho := cpu.socket.map (·, pid) }
    else none
  | .despachar => r.despacho.map fun (socket, pid) ↦ { r with despacho := none }.enviarPid socket pid
  | .ejecutar socket => (r.conexion socket).bind fun c ↦
    match c.porEjecutar with
    | [] => none
    | pid :: resto => some (r.cambiar socket { c with porEjecutar := resto, ejecuta := some pid })
  | .devolver socket motivo => (r.conexion socket).bind fun c ↦
    c.ejecuta.map fun pid ↦
      r.cambiar socket { c with ejecuta := none, devueltos := c.devueltos ++ [(pid, motivo)] }
  | .atender socket => (r.conexion socket).bind fun c ↦
    match c.fase, c.devueltos with
    | .leer, (_, motivo) :: resto => some (r.atender socket c motivo resto)
    | _, _ => none
  | .terminarMemoria socket vuelve => (r.conexion socket).bind fun c ↦
    match c.fase with
    | .memoria pid => some (r.terminarMemoria socket c pid vuelve)
    | _ => none
  | .enviarDeVuelta socket => (r.conexion socket).bind fun c ↦
    match c.fase with
    | .enviar destino pid => some ((r.cambiar socket { c with fase := .leer }).enviarPid destino pid)
    | _ => none

/-- No CPU has connected yet. -/
def Arranque (r : RedCpus) : Prop := r = ⟨[], fun _ ↦ none, none⟩

/-- The process that the scheduler takes for the next message of a connection is the one in the message,
which is the one last dispatched over the connection, and the slot is that of the connection; so it is
when a memory syscall ends. -/
def DevolucionesCorrectas : Prop :=
  ∀ socket c, r.conexion socket = some c →
    (c.fase = .leer → ∀ d ∈ c.devueltos.head?, (retirarProcesoDeCpu r.cpus c.cpuId).1 = some d.1 ∧
      c.ultimo = some d.1 ∧ posicionCpu r.cpus c.cpuId = some c.posicion) ∧
    ∀ pid, c.fase = .memoria pid → c.ultimo = some pid ∧ posicionCpu r.cpus c.cpuId = some c.posicion

/-! ## What is on its way over a connection -/

/-- The dispatch that the planner is about to send over the connection. -/
def porDespachar (despacho : Option (Socket × Pid)) (socket : Socket) : List Pid :=
  (despacho.toList.filter fun d ↦ d.1 = socket).map Prod.snd

end RedCpus

def FaseReceptor.porEnviar : FaseReceptor → List Pid
  | .enviar _ pid => [pid]
  | _ => []

/-- What the CPU has received and not yet returned, or returned and nobody has read. -/
def Conexion.recibidos (c : Conexion) : List Pid :=
  c.porEjecutar ++ c.ejecuta.toList ++ c.devueltos.map Prod.fst

namespace RedCpus

/-- The processes that the slot of the connection stands for. -/
def enCurso (despacho : Option (Socket × Pid)) (socket : Socket) (c : Conexion) : List Pid :=
  porDespachar despacho socket ++ c.fase.porEnviar ++ c.recibidos

/-- A connection and its slot agree. -/
structure EnRanura (despacho : Option (Socket × Pid)) (socket : Socket) (c : Conexion) (t : TCpu) :
    Prop where
  suya : t.cpuId = c.cpuId
  abierta : t.socket = some socket
  uno : (enCurso despacho socket c).length ≤ 1
  actual : ∀ pid ∈ enCurso despacho socket c, t.procesoActual = some pid
  ocupada : t.procesoActual.isSome → t.disponible = false
  memoria : ∀ pid, c.fase = .memoria pid →
    t.disponible = false ∧ t.procesoActual = none ∧ c.ultimo = some pid
  ultimo : ∀ pid ∈ c.recibidos, c.ultimo = some pid
  vuelta : ∀ destino pid, c.fase = .enviar destino pid → destino = socket

/-- The connection has its slot, or it met a full table and nothing is ever sent over it. -/
def Sana (cpus : List TCpu) (despacho : Option (Socket × Pid)) (socket : Socket) (c : Conexion) : Prop :=
  (∃ t, cpus[c.posicion]? = some t ∧ EnRanura despacho socket c t) ∨
    (maxCpus ≤ cpus.length ∧ c.posicion = cpus.length ∧ (∀ t ∈ cpus, t.cpuId ≠ c.cpuId) ∧
      c.fase = .leer ∧ enCurso despacho socket c = [])

structure EnOrden (r : RedCpus) : Prop where
  ids : IdsDistintos r.cpus
  abiertos : ∀ (i : ℕ) (t : TCpu), r.cpus[i]? = some t → ∀ socket ∈ t.socket,
    ∃ c, r.conexion socket = some c ∧ c.posicion = i
  sanas : ∀ socket c, r.conexion socket = some c → Sana r.cpus r.despacho socket c

variable {r r' : RedCpus} {socket otro : Socket} {c c' : Conexion} {t : TCpu} {pid : Pid}

/-- Two connections are over two slots. -/
theorem EnOrden.otraPosicion (h : r.EnOrden) (hc : r.conexion socket = some c)
    (hc' : r.conexion otro = some c') (ht : r.cpus[c.posicion]? = some t) (hotro : otro ≠ socket) :
    c.posicion ≠ c'.posicion := by
  intro hpos
  rcases h.sanas otro c' hc' with ⟨t', ht', hranura'⟩ | hllena
  · rw [← hpos, ht] at ht'
    obtain rfl := Option.some.inj ht'
    rcases h.sanas socket c hc with ⟨t', ht', hranura⟩ | hllena
    · rw [ht] at ht'
      obtain rfl := Option.some.inj ht'
      exact hotro (Option.some.inj (hranura'.abierta.symm.trans hranura.abierta))
    · have hlt := (List.getElem?_eq_some_iff.mp ht).1
      omega
  · have hlt := (List.getElem?_eq_some_iff.mp ht).1
    omega

/-- One connection and its slot change, and no dispatch for another one. -/
theorem EnOrden.actualizar (h : r.EnOrden) (hc : r.conexion socket = some c)
    (ht : r.cpus[c.posicion]? = some t) (f : TCpu → TCpu) {despacho : Option (Socket × Pid)}
    (hranura : EnRanura despacho socket c' (f t)) (hid : ∀ t, (f t).cpuId = t.cpuId)
    (hsocket : ∀ t, (f t).socket = t.socket) (hposicion : c'.posicion = c.posicion)
    (hdespacho : ∀ otro, otro ≠ socket → porDespachar despacho otro = porDespachar r.despacho otro) :
    EnOrden ⟨r.cpus.modify c.posicion f, Function.update r.conexion socket (some c'), despacho⟩ := by
  have hranuras : ∀ (i : ℕ) (u : TCpu), (r.cpus.modify c.posicion f)[i]? = some u →
      ∃ v, r.cpus[i]? = some v ∧ u.cpuId = v.cpuId ∧ u.socket = v.socket := by
    intro i u hu
    rw [List.getElem?_modify] at hu
    obtain ⟨v, hv, rfl⟩ := Option.map_eq_some_iff.mp hu
    refine ⟨v, hv, ?_, ?_⟩
    · split
      · exact hid v
      · rfl
    · split
      · exact hsocket v
      · rfl
  refine ⟨h.ids.modify _ hid, fun i u hu destino hdestino ↦ ?_, fun destino d hd ↦ ?_⟩
  · obtain ⟨v, hv, _, hvsocket⟩ := hranuras i u hu
    rw [hvsocket] at hdestino
    obtain ⟨d, hd, hdpos⟩ := h.abiertos i v hv destino hdestino
    by_cases hmismo : destino = socket
    · subst hmismo
      rw [hc] at hd
      obtain rfl := Option.some.inj hd
      exact ⟨c', Function.update_self _ _ _, hposicion.trans hdpos⟩
    · exact ⟨d, (Function.update_of_ne hmismo _ _).trans hd, hdpos⟩
  · by_cases hmismo : destino = socket
    · subst hmismo
      obtain rfl := Option.some.inj ((Function.update_self destino _ _).symm.trans hd)
      refine .inl ⟨f t, ?_, hranura⟩
      rw [hposicion, List.getElem?_modify, ht]
      simp
    · have hd : r.conexion destino = some d := (Function.update_of_ne hmismo _ _).symm.trans hd
      have hpos := h.otraPosicion hc hd ht hmismo
      have hcurso : enCurso despacho destino d = enCurso r.despacho destino d := by
        unfold enCurso
        rw [hdespacho destino hmismo]
      have hlugar : (r.cpus.modify c.posicion f)[d.posicion]? = r.cpus[d.posicion]? := by
        simp [hpos]
      rcases h.sanas destino d hd with ⟨u, hu, hran⟩ | ⟨hllena, hdpos, hajenas, hfase, hnada⟩
      · refine .inl ⟨u, hlugar.trans hu, ?_⟩
        exact ⟨hran.suya, hran.abierta, hcurso ▸ hran.uno, hcurso ▸ hran.actual, hran.ocupada,
          hran.memoria, hran.ultimo, hran.vuelta⟩
      · refine .inr ⟨?_, ?_, fun u hu ↦ ?_, hfase, hcurso.trans hnada⟩
        · rwa [List.length_modify]
        · rwa [List.length_modify]
        · obtain ⟨i, hi⟩ := List.getElem?_of_mem hu
          obtain ⟨v, hv, hvid, _⟩ := hranuras i u hi
          rw [hvid]
          exact hajenas v (List.mem_of_getElem? hv)

/-! ## Steps -/

/-- A connection over which something is on its way has a slot. -/
theorem EnOrden.ranura (h : r.EnOrden) (hc : r.conexion socket = some c)
    (hno : c.fase ≠ .leer ∨ enCurso r.despacho socket c ≠ []) :
    ∃ t, r.cpus[c.posicion]? = some t ∧ EnRanura r.despacho socket c t := by
  rcases h.sanas socket c hc with hranura | ⟨_, _, _, hfase, hnada⟩
  · exact hranura
  · exact hno.elim (absurd hfase) (absurd hnada)

theorem EnOrden.cambiar (h : r.EnOrden) (hc : r.conexion socket = some c)
    (ht : r.cpus[c.posicion]? = some t) (hranura : EnRanura r.despacho socket c' t)
    (hposicion : c'.posicion = c.posicion) : (r.cambiar socket c').EnOrden := by
  have hcambio := h.actualizar hc ht id hranura (fun _ ↦ rfl) (fun _ ↦ rfl) hposicion fun _ _ ↦ rfl
  rwa [List.modify_id] at hcambio

theorem porDespachar_mismo (socket : Socket) (pid : Pid) :
    porDespachar (some (socket, pid)) socket = [pid] := by
  simp [porDespachar]

theorem porDespachar_otro (h : otro ≠ socket) (pid : Pid) :
    porDespachar (some (socket, pid)) otro = [] := by
  simp [porDespachar, h.symm]

theorem porDespachar_none (socket : Socket) : porDespachar none socket = [] := rfl

/-- A slot that is free stands for nothing. -/
theorem EnRanura.libre {despacho : Option (Socket × Pid)} (h : EnRanura despacho socket c t)
    (hlibre : t.disponible = true) : enCurso despacho socket c = [] := by
  apply List.eq_nil_iff_forall_not_mem.mpr
  intro q hq
  have hocupada := h.ocupada (by rw [h.actual q hq]; rfl)
  rw [hlibre] at hocupada
  cases hocupada

theorem EnOrden.elegir (h : r.EnOrden) (hlibre : r.despacho = none)
    (hpaso : r.paso (.elegir pid) = some r') : r'.EnOrden := by
  simp only [paso, hlibre, Option.isNone_none, if_true] at hpaso
  unfold elegirCpu at hpaso
  cases hi : r.cpus.findIdx? fun c ↦ c.Libre with
  | none =>
    simp only [hi] at hpaso
    cases hpaso
    exact h
  | some i =>
    obtain ⟨hlt, hpick, _⟩ := List.findIdx?_eq_some_iff_getElem.mp hi
    have ht := List.getElem?_eq_getElem hlt
    have hlibera : (r.cpus[i]).Libre := of_decide_eq_true hpick
    generalize r.cpus[i] = t at ht hlibera
    obtain ⟨socket, hsocket⟩ := Option.isSome_iff_exists.mp hlibera.2
    obtain ⟨c, hc, rfl⟩ := h.abiertos i t ht socket hsocket
    simp only [hi, ht, hsocket, Option.map_some] at hpaso
    cases hpaso
    have hranura : EnRanura r.despacho socket c t := by
      rcases h.sanas socket c hc with ⟨t', ht', hranura⟩ | ⟨_, hpos, _⟩
      · rwa [Option.some.inj (ht.symm.trans ht')]
      · omega
    have hnada := hranura.libre hlibera.1
    have hcurso : enCurso (some (socket, pid)) socket c = [pid] := by
      unfold enCurso at hnada ⊢
      rw [hlibre, porDespachar_none, List.nil_append] at hnada
      rw [porDespachar_mismo, List.append_assoc, hnada]
      rfl
    have hocupada : EnRanura (some (socket, pid)) socket c
        { t with disponible := false, procesoActual := some pid } := by
      refine ⟨hranura.suya, hranura.abierta, ?_, fun q hq ↦ ?_, fun _ ↦ rfl, fun q hq ↦ ?_,
        hranura.ultimo, hranura.vuelta⟩
      · simp [hcurso]
      · rw [hcurso] at hq
        rw [List.mem_singleton.mp hq]
      · have hreservada := (hranura.memoria q hq).1
        rw [hlibera.1] at hreservada
        cases hreservada
    have hcambio := h.actualizar hc ht
      (fun c ↦ { c with disponible := false, procesoActual := some pid }) hocupada (fun _ ↦ rfl)
      (fun _ ↦ rfl) rfl fun otro hotro ↦ by rw [porDespachar_otro hotro, hlibre, porDespachar_none]
    rwa [← hc, Function.update_eq_self] at hcambio

theorem recibidos_eq_nil : c.recibidos = [] ↔ c.porEjecutar = [] ∧ c.ejecuta = none ∧ c.devueltos = [] := by
  simp [Conexion.recibidos]

/-- Nothing else is on its way beside what is about to be sent. -/
theorem EnRanura.solo {despacho : Option (Socket × Pid)} (h : EnRanura despacho socket c t)
    {antes despues : List Pid} (hcurso : enCurso despacho socket c = antes ++ pid :: despues) :
    antes = [] ∧ despues = [] ∧ t.procesoActual = some pid := by
  have huno := h.uno
  rw [hcurso, List.length_append, List.length_cons] at huno
  refine ⟨List.length_eq_zero_iff.mp (by omega), List.length_eq_zero_iff.mp (by omega), ?_⟩
  apply h.actual
  rw [hcurso]
  exact List.mem_append_right _ List.mem_cons_self

/-- The connection after `enviar_pid`. -/
theorem EnRanura.enviado {despacho despacho' : Option (Socket × Pid)} (h : EnRanura despacho socket c t)
    (hactual : t.procesoActual = some pid) (hnada : c.recibidos = [])
    (hdespacho : porDespachar despacho' socket = []) :
    EnRanura despacho' socket (Conexion.conEnvio { c with fase := .leer } pid) t := by
  obtain ⟨hpor, hejecuta, hdevueltos⟩ := recibidos_eq_nil.mp hnada
  have hrecibidos : (Conexion.conEnvio { c with fase := .leer } pid).recibidos = [pid] := by
    simp [Conexion.recibidos, Conexion.conEnvio, hpor, hejecuta, hdevueltos]
  have hcurso : enCurso despacho' socket (Conexion.conEnvio { c with fase := .leer } pid) = [pid] := by
    unfold enCurso
    rw [hdespacho, hrecibidos]
    rfl
  refine ⟨h.suya, h.abierta, ?_, fun q hq ↦ ?_, h.ocupada, nofun, fun q hq ↦ ?_, nofun⟩
  · simp [hcurso]
  · rw [hcurso] at hq
    rw [List.mem_singleton.mp hq, hactual]
  · rw [hrecibidos] at hq
    rw [List.mem_singleton.mp hq]
    rfl

theorem EnOrden.despachar (h : r.EnOrden) (hpaso : r.paso .despachar = some r') : r'.EnOrden := by
  simp only [paso] at hpaso
  obtain ⟨⟨socket, pid⟩, hdespacho, rfl⟩ := Option.map_eq_some_iff.mp hpaso
  have hotro : ∀ otro, otro ≠ socket → porDespachar none otro = porDespachar r.despacho otro := by
    intro otro hotro
    rw [hdespacho, porDespachar_otro hotro, porDespachar_none]
  unfold enviarPid
  cases hc : r.conexion socket with
  | none =>
    refine ⟨h.ids, h.abiertos, fun destino d hd ↦ ?_⟩
    have habierta : r.conexion destino = some d := hd
    have hdistinto : destino ≠ socket := by
      intro higual
      rw [higual, hc] at habierta
      cases habierta
    have hsana := h.sanas destino d habierta
    have hcurso : enCurso none destino d = enCurso r.despacho destino d := by
      unfold enCurso
      rw [hotro destino hdistinto]
    rcases hsana with ⟨u, hu, hran⟩ | ⟨hllena, hdpos, hajenas, hfase, hnada⟩
    · exact .inl ⟨u, hu, hran.suya, hran.abierta, hcurso ▸ hran.uno, hcurso ▸ hran.actual, hran.ocupada,
        hran.memoria, hran.ultimo, hran.vuelta⟩
    · exact .inr ⟨hllena, hdpos, hajenas, hfase, hcurso.trans hnada⟩
  | some c =>
    have hcurso : enCurso r.despacho socket c = [] ++ pid :: (c.fase.porEnviar ++ c.recibidos) := by
      unfold enCurso
      rw [hdespacho, porDespachar_mismo, List.append_assoc]
      rfl
    obtain ⟨t, ht, hranura⟩ := h.ranura hc (.inr (by rw [hcurso]; exact List.cons_ne_nil _ _))
    obtain ⟨_, hresto, hactual⟩ := hranura.solo hcurso
    obtain ⟨henviar, hnada⟩ := List.append_eq_nil_iff.mp hresto
    have hfase : c.fase = .leer := by
      cases hfase : c.fase with
      | leer => rfl
      | memoria q =>
        have hvacia := (hranura.memoria q hfase).2.1
        rw [hactual] at hvacia
        cases hvacia
      | enviar destino q =>
        rw [hfase] at henviar
        cases henviar
    have hleer : ({ c with fase := .leer } : Conexion) = c := by rw [← hfase]
    have henviada := hranura.enviado hactual hnada (porDespachar_none socket)
    rw [hleer] at henviada
    have hcambio := h.actualizar hc ht id henviada (fun _ ↦ rfl) (fun _ ↦ rfl) rfl hotro
    rwa [List.modify_id] at hcambio

theorem EnOrden.enviarDeVuelta (h : r.EnOrden) (hpaso : r.paso (.enviarDeVuelta socket) = some r') :
    r'.EnOrden := by
  simp only [paso] at hpaso
  obtain ⟨c, hc, hpaso⟩ := Option.bind_eq_some_iff.mp hpaso
  split at hpaso
  swap
  · cases hpaso
  rename_i destino pid hfase
  cases hpaso
  obtain ⟨t, ht, hranura⟩ := h.ranura hc (.inl (by rw [hfase]; nofun))
  obtain rfl := hranura.vuelta destino pid hfase
  have hcurso : enCurso r.despacho destino c = porDespachar r.despacho destino ++ pid :: c.recibidos := by
    unfold enCurso
    rw [hfase, List.append_assoc]
    rfl
  obtain ⟨hantes, hnada, hactual⟩ := hranura.solo hcurso
  have hcambio := h.cambiar hc ht (hranura.enviado hactual hnada hantes) rfl
  have hjuntos : (r.cambiar destino { c with fase := .leer }).enviarPid destino pid =
      r.cambiar destino (Conexion.conEnvio { c with fase := .leer } pid) := by
    unfold enviarPid RedCpus.cambiar
    simp
  rwa [hjuntos]

/-- What is on its way moves on. -/
theorem EnRanura.avanzar {despacho : Option (Socket × Pid)} (h : EnRanura despacho socket c t)
    (hcpu : c'.cpuId = c.cpuId) (hfase : c'.fase = c.fase) (hrecibidos : c'.recibidos = c.recibidos)
    (hultimo : c'.ultimo = c.ultimo) : EnRanura despacho socket c' t := by
  have hcurso : enCurso despacho socket c' = enCurso despacho socket c := by
    unfold enCurso
    rw [hfase, hrecibidos]
  refine ⟨h.suya.trans hcpu.symm, h.abierta, ?_, ?_, h.ocupada, ?_, ?_, ?_⟩
  · rw [hcurso]
    exact h.uno
  · rw [hcurso]
    exact h.actual
  · rw [hfase, hultimo]
    exact h.memoria
  · rw [hrecibidos, hultimo]
    exact h.ultimo
  · rw [hfase]
    exact h.vuelta

theorem EnOrden.ejecutar (h : r.EnOrden) (hpaso : r.paso (.ejecutar socket) = some r') : r'.EnOrden := by
  simp only [paso] at hpaso
  obtain ⟨c, hc, hpaso⟩ := Option.bind_eq_some_iff.mp hpaso
  split at hpaso
  · cases hpaso
  rename_i pid resto hpor
  cases hpaso
  have hcurso : enCurso r.despacho socket c = porDespachar r.despacho socket ++ c.fase.porEnviar ++
      pid :: (resto ++ (c.ejecuta.toList ++ c.devueltos.map Prod.fst)) := by
    unfold enCurso Conexion.recibidos
    rw [hpor, List.append_assoc (pid :: resto)]
    rfl
  obtain ⟨t, ht, hranura⟩ := h.ranura hc (.inr (by rw [hcurso]; simp))
  obtain ⟨_, hresto, _⟩ := hranura.solo hcurso
  obtain ⟨hresto, hresto'⟩ := List.append_eq_nil_iff.mp hresto
  obtain ⟨hejecuta, hdevueltos⟩ := List.append_eq_nil_iff.mp hresto'
  refine h.cambiar hc ht (hranura.avanzar rfl rfl ?_ rfl) rfl
  unfold Conexion.recibidos
  rw [hpor, hresto, hejecuta, hdevueltos]
  rfl

theorem EnOrden.devolver (h : r.EnOrden) {motivo : Motivo}
    (hpaso : r.paso (.devolver socket motivo) = some r') : r'.EnOrden := by
  simp only [paso] at hpaso
  obtain ⟨c, hc, hpaso⟩ := Option.bind_eq_some_iff.mp hpaso
  obtain ⟨pid, hejecuta, rfl⟩ := Option.map_eq_some_iff.mp hpaso
  have hcurso : enCurso r.despacho socket c = porDespachar r.despacho socket ++ c.fase.porEnviar ++
      c.porEjecutar ++ pid :: c.devueltos.map Prod.fst := by
    unfold enCurso Conexion.recibidos
    rw [hejecuta]
    simp
  obtain ⟨t, ht, hranura⟩ := h.ranura hc (.inr (by rw [hcurso]; simp))
  obtain ⟨_, hdevueltos, _⟩ := hranura.solo hcurso
  refine h.cambiar hc ht (hranura.avanzar rfl rfl ?_ rfl) rfl
  simp [Conexion.recibidos, hdevueltos, hejecuta]

/-- The process that is taken from the table is the one in the message. -/
theorem EnOrden.tomado (h : r.EnOrden) (hc : r.conexion socket = some c) (hfase : c.fase = .leer)
    {motivo : Motivo} {resto : List (Pid × Motivo)} (hdevueltos : c.devueltos = (pid, motivo) :: resto) :
    ∃ t, r.cpus[c.posicion]? = some t ∧ EnRanura r.despacho socket c t ∧ t.procesoActual = some pid ∧
      porDespachar r.despacho socket = [] ∧ ({ c with devueltos := resto } : Conexion).recibidos = [] := by
  have hcurso : enCurso r.despacho socket c = porDespachar r.despacho socket ++
      (c.porEjecutar ++ c.ejecuta.toList) ++ pid :: resto.map Prod.fst := by
    unfold enCurso Conexion.recibidos
    rw [hfase, hdevueltos]
    simp [FaseReceptor.porEnviar]
  obtain ⟨t, ht, hranura⟩ := h.ranura hc (.inr (by rw [hcurso]; simp))
  obtain ⟨hantes, hresto, hactual⟩ := hranura.solo hcurso
  obtain ⟨hdespacho, hantes⟩ := List.append_eq_nil_iff.mp hantes
  refine ⟨t, ht, hranura, hactual, hdespacho, ?_⟩
  unfold Conexion.recibidos
  rw [hantes, hresto]
  rfl

/-- The slot is given up; nothing is on its way. -/
theorem EnRanura.vaciar {despacho : Option (Socket × Pid)} (h : EnRanura despacho socket c t)
    {fase : FaseReceptor} {resto : List (Pid × Motivo)} {u : TCpu} (hid : u.cpuId = t.cpuId)
    (hsocket : u.socket = t.socket) (hactual : u.procesoActual = none) (hfase : fase.porEnviar = [])
    (hdespacho : porDespachar despacho socket = [])
    (hnada : ({ c with devueltos := resto } : Conexion).recibidos = [])
    (hmemoria : ∀ pid, fase = .memoria pid → u.disponible = false ∧ c.ultimo = some pid) :
    EnRanura despacho socket { c with fase := fase, devueltos := resto } u := by
  have hcurso : enCurso despacho socket { c with fase := fase, devueltos := resto } = [] := by
    unfold enCurso
    rw [hdespacho, hfase]
    exact hnada
  refine ⟨hid.trans h.suya, hsocket.trans h.abierta, ?_, fun q hq ↦ ?_, fun hno ↦ ?_, fun q hq ↦ ?_,
    fun q hq ↦ ?_, fun destino q hq ↦ ?_⟩
  · simp [hcurso]
  · rw [hcurso] at hq
    cases hq
  · rw [hactual] at hno
    cases hno
  · exact ⟨(hmemoria q hq).1, hactual, (hmemoria q hq).2⟩
  · have hq : q ∈ ({ c with devueltos := resto } : Conexion).recibidos := hq
    rw [hnada] at hq
    cases hq
  · have hq : fase = .enviar destino q := hq
    rw [hq] at hfase
    cases hfase

theorem EnOrden.atender (h : r.EnOrden) (hpaso : r.paso (.atender socket) = some r') : r'.EnOrden := by
  simp only [paso] at hpaso
  obtain ⟨c, hc, hpaso⟩ := Option.bind_eq_some_iff.mp hpaso
  split at hpaso
  swap
  · cases hpaso
  rename_i pid motivo resto hfase hdevueltos
  cases hpaso
  obtain ⟨t, ht, hranura, hactual, hdespacho, hnada⟩ := h.tomado hc hfase hdevueltos
  have hultimo : c.ultimo = some pid := by
    apply hranura.ultimo
    unfold Conexion.recibidos
    rw [hdevueltos]
    simp
  obtain ⟨hbuscar, hmodificar⟩ := h.ids.buscar ht
  rw [hranura.suya] at hbuscar hmodificar
  unfold RedCpus.atender
  split
  · simp only [retirarProcesoDeCpuReservando, hbuscar, Option.bind_some, hactual, hmodificar]
    have hvacia : EnRanura r.despacho socket { c with fase := .memoria pid, devueltos := resto }
        { t with procesoActual := none, timerActivo := false } := by
      refine hranura.vaciar rfl rfl rfl rfl hdespacho hnada fun q hq ↦ ?_
      cases hq
      exact ⟨hranura.ocupada (by rw [hactual]; rfl), hultimo⟩
    exact h.actualizar hc ht (fun c ↦ { c with procesoActual := none, timerActivo := false }) hvacia
      (fun _ ↦ rfl) (fun _ ↦ rfl) rfl fun _ _ ↦ rfl
  · simp only [retirarProcesoDeCpu, hmodificar]
    have hvacia : EnRanura r.despacho socket { c with devueltos := resto }
        { t with procesoActual := none, timerActivo := false, disponible := true } := by
      refine hranura.vaciar rfl rfl rfl (by rw [hfase]; rfl) hdespacho hnada fun q hq ↦ ?_
      rw [hfase] at hq
      cases hq
    exact h.actualizar hc ht (fun c ↦
      { c with procesoActual := none, timerActivo := false, disponible := true }) hvacia
      (fun _ ↦ rfl) (fun _ ↦ rfl) rfl fun _ _ ↦ rfl

theorem EnOrden.terminarMemoria (h : r.EnOrden) {vuelve : Bool}
    (hpaso : r.paso (.terminarMemoria socket vuelve) = some r') : r'.EnOrden := by
  simp only [paso] at hpaso
  obtain ⟨c, hc, hpaso⟩ := Option.bind_eq_some_iff.mp hpaso
  split at hpaso
  swap
  · cases hpaso
  rename_i pid hfase
  cases hpaso
  obtain ⟨t, ht, hranura⟩ := h.ranura hc (.inl (by rw [hfase]; nofun))
  obtain ⟨hreservada, hactual, hultimo⟩ := hranura.memoria pid hfase
  have hcurso : enCurso r.despacho socket c = [] := by
    apply List.eq_nil_iff_forall_not_mem.mpr
    intro q hq
    have hno := hranura.actual q hq
    rw [hactual] at hno
    cases hno
  unfold enCurso at hcurso
  rw [hfase] at hcurso
  obtain ⟨hdespacho, hnada⟩ := List.append_eq_nil_iff.mp hcurso
  obtain ⟨hdespacho, _⟩ := List.append_eq_nil_iff.mp hdespacho
  obtain ⟨hbuscar, hmodificar⟩ := h.ids.buscar ht
  rw [hranura.suya] at hbuscar hmodificar
  unfold RedCpus.terminarMemoria
  split
  · simp only [devolverProcesoAMismaCpu, hbuscar, Option.bind_some, hranura.abierta, hmodificar]
    have hcurso' : enCurso r.despacho socket { c with fase := .enviar socket pid } = [pid] := by
      unfold enCurso
      rw [hdespacho]
      show [pid] ++ c.recibidos = [pid]
      rw [hnada]
      rfl
    have hvuelta : EnRanura r.despacho socket { c with fase := .enviar socket pid }
        { t with procesoActual := some pid } := by
      refine ⟨hranura.suya, hranura.abierta, ?_, fun q hq ↦ ?_, fun _ ↦ hreservada, nofun, hranura.ultimo,
        fun destino q hq ↦ ?_⟩
      · simp [hcurso']
      · rw [hcurso'] at hq
        rw [List.mem_singleton.mp hq]
      · cases hq
        rfl
    exact h.actualizar hc ht (fun c ↦ { c with procesoActual := some pid }) hvuelta (fun _ ↦ rfl)
      (fun _ ↦ rfl) rfl fun _ _ ↦ rfl
  · simp only [liberarCpuReservada, hmodificar]
    have hvacia : EnRanura r.despacho socket { c with fase := .leer } { t with disponible := true } :=
      hranura.vaciar rfl rfl hactual rfl hdespacho hnada nofun
    exact h.actualizar hc ht (fun c ↦ { c with disponible := true }) hvacia (fun _ ↦ rfl) (fun _ ↦ rfl) rfl
      fun _ _ ↦ rfl

/-! ### Connections come and go -/

theorem posicionCpu_ajena {cpus : List TCpu} {cpuId : ℕ} (h : ∀ t ∈ cpus, t.cpuId ≠ cpuId) :
    posicionCpu cpus cpuId = none := by
  unfold posicionCpu
  rw [List.findIdx?_eq_none_iff]
  intro t ht
  exact decide_eq_false (h t ht)

theorem porDespachar_ajeno {despacho : Option (Socket × Pid)} (h : ∀ d ∈ despacho, d.1 ≠ socket) :
    porDespachar despacho socket = [] := by
  cases despacho with
  | none => rfl
  | some d => exact porDespachar_otro (h d rfl).symm d.2

theorem getElem?_concat {cpus : List TCpu} {nuevo : TCpu} {i : ℕ} (h : (cpus ++ [nuevo])[i]? = some t) :
    cpus[i]? = some t ∨ (i = cpus.length ∧ t = nuevo) := by
  rcases Nat.lt_or_ge i cpus.length with hlt | hge
  · rw [List.getElem?_append_left hlt] at h
    exact .inl h
  · rw [List.getElem?_append_right hge, List.getElem?_singleton] at h
    split at h
    · exact .inr ⟨by omega, (Option.some.inj h).symm⟩
    · cases h

theorem enCurso_nueva {despacho : Option (Socket × Pid)} (h : porDespachar despacho socket = [])
    (cpuId posicion : ℕ) : enCurso despacho socket (.nueva cpuId posicion) = [] := by
  unfold enCurso
  rw [h]
  rfl

theorem EnRanura.nueva {despacho : Option (Socket × Pid)} (h : porDespachar despacho socket = [])
    (cpuId posicion : ℕ) :
    EnRanura despacho socket (.nueva cpuId posicion) ⟨some socket, cpuId, true, none, false, 0⟩ := by
  refine ⟨rfl, rfl, ?_, fun q hq ↦ ?_, nofun, nofun, nofun, nofun⟩
  · simp [enCurso_nueva h]
  · rw [enCurso_nueva h] at hq
    cases hq

theorem EnOrden.conectar (h : r.EnOrden) {cpuId : ℕ} (hlibre : r.conexion socket = none)
    (hajenas : ∀ t ∈ r.cpus, t.cpuId ≠ cpuId) (hdespacho : ∀ d ∈ r.despacho, d.1 ≠ socket) :
    (r.conectar socket cpuId).EnOrden := by
  have hnada := porDespachar_ajeno hdespacho
  have hsigue : ∀ destino c, r.conexion destino = some c →
      Function.update r.conexion socket (some (.nueva cpuId r.cpus.length)) destino = some c := by
    intro destino c hc
    have hotra : destino ≠ socket := by
      rintro rfl
      rw [hlibre] at hc
      cases hc
    rw [Function.update_of_ne hotra, hc]
  have hconexion : ∀ destino d,
      Function.update r.conexion socket (some (.nueva cpuId r.cpus.length)) destino = some d →
        (destino = socket ∧ d = .nueva cpuId r.cpus.length) ∨ r.conexion destino = some d := by
    intro destino d hd
    by_cases hmismo : destino = socket
    · subst hmismo
      rw [Function.update_self] at hd
      exact .inl ⟨rfl, (Option.some.inj hd).symm⟩
    · rw [Function.update_of_ne hmismo] at hd
      exact .inr hd
  unfold RedCpus.conectar agregarCpu
  split
  · rename_i hcabe
    refine ⟨fun i j u u' hu hu' higual ↦ ?_, fun i u hu destino hdestino ↦ ?_, fun destino d hd ↦ ?_⟩
    · rcases getElem?_concat hu with hu | ⟨hi, rfl⟩
      · rcases getElem?_concat hu' with hu' | ⟨hj, rfl⟩
        · exact h.ids i j u u' hu hu' higual
        · exact absurd higual (hajenas u (List.mem_of_getElem? hu))
      · rcases getElem?_concat hu' with hu' | ⟨hj, _⟩
        · exact absurd higual.symm (hajenas u' (List.mem_of_getElem? hu'))
        · omega
    · rcases getElem?_concat hu with hu | ⟨hi, rfl⟩
      · obtain ⟨d, hd, hpos⟩ := h.abiertos i u hu destino hdestino
        exact ⟨d, hsigue destino d hd, hpos⟩
      · obtain rfl := Option.some.inj hdestino
        exact ⟨_, Function.update_self _ _ _, hi.symm⟩
    · rcases hconexion destino d hd with ⟨rfl, rfl⟩ | hd
      · exact .inl ⟨_, List.getElem?_concat_length, .nueva hnada cpuId r.cpus.length⟩
      · rcases h.sanas destino d hd with ⟨u, hu, hran⟩ | ⟨hllena, _⟩
        · refine .inl ⟨u, ?_, hran⟩
          exact (List.getElem?_append_left (List.getElem?_eq_some_iff.mp hu).1).trans hu
        · omega
  · rename_i hllena
    refine ⟨h.ids, fun i u hu destino hdestino ↦ ?_, fun destino d hd ↦ ?_⟩
    · obtain ⟨d, hd, hpos⟩ := h.abiertos i u hu destino hdestino
      exact ⟨d, hsigue destino d hd, hpos⟩
    · rcases hconexion destino d hd with ⟨rfl, rfl⟩ | hd
      · exact .inr ⟨Nat.le_of_not_lt hllena, rfl, hajenas, rfl, enCurso_nueva hnada _ _⟩
      · exact h.sanas destino d hd

theorem EnOrden.desconectar (h : r.EnOrden) (hc : r.conexion socket = some c) :
    ({ r with cpus := marcarCpuDesconectada r.cpus c.cpuId }.cerrar socket).EnOrden := by
  have hcerrada : ∀ destino d, Function.update r.conexion socket none destino = some d →
      destino ≠ socket ∧ r.conexion destino = some d := by
    intro destino d hd
    by_cases hmismo : destino = socket
    · subst hmismo
      rw [Function.update_self] at hd
      cases hd
    · rw [Function.update_of_ne hmismo] at hd
      exact ⟨hmismo, hd⟩
  unfold marcarCpuDesconectada
  rcases h.sanas socket c hc with ⟨t, ht, hranura⟩ | ⟨hllena, hpos, hajenas, _⟩
  · have hmodificar := (h.ids.buscar ht).2
    rw [hranura.suya] at hmodificar
    rw [hmodificar]
    have hranuras : ∀ (i : ℕ) (u : TCpu),
        (r.cpus.modify c.posicion fun t ↦ { t with socket := none })[i]? = some u →
        ∃ v, r.cpus[i]? = some v ∧ u.cpuId = v.cpuId ∧
          ∀ destino ∈ u.socket, v.socket = some destino ∧ c.posicion ≠ i := by
      intro i u hu
      rw [List.getElem?_modify] at hu
      obtain ⟨v, hv, rfl⟩ := Option.map_eq_some_iff.mp hu
      split
      · exact ⟨v, hv, rfl, nofun⟩
      · rename_i hpos
        exact ⟨v, hv, rfl, fun destino hdestino ↦ ⟨hdestino, hpos⟩⟩
    refine ⟨h.ids.modify _ fun _ ↦ rfl, fun i u hu destino hdestino ↦ ?_, fun destino d hd ↦ ?_⟩
    · obtain ⟨v, hv, _, hvsocket⟩ := hranuras i u hu
      obtain ⟨hvsocket, hpos⟩ := hvsocket destino hdestino
      obtain ⟨d, hd, hdpos⟩ := h.abiertos i v hv destino hvsocket
      refine ⟨d, (Function.update_of_ne ?_ _ _).trans hd, hdpos⟩
      rintro rfl
      rw [hc] at hd
      obtain rfl := Option.some.inj hd
      exact hpos hdpos
    · obtain ⟨hotro, hd⟩ := hcerrada destino d hd
      have hpos := h.otraPosicion hc hd ht hotro
      rcases h.sanas destino d hd with ⟨u, hu, hran⟩ | ⟨hllena, hdpos, hajenas, hresto⟩
      · exact .inl ⟨u, (List.getElem?_modify_ne _ _ hpos).trans hu, hran⟩
      · refine .inr ⟨?_, ?_, fun u hu ↦ ?_, hresto⟩
        · exact Nat.le_trans hllena (Nat.le_of_eq (List.length_modify _ _ _).symm)
        · exact hdpos.trans (List.length_modify _ _ _).symm
        · obtain ⟨i, hi⟩ := List.getElem?_of_mem hu
          obtain ⟨v, hv, hvid, _⟩ := hranuras i u hi
          rw [hvid]
          exact hajenas v (List.mem_of_getElem? hv)
  · unfold modificarCpu
    rw [posicionCpu_ajena hajenas]
    refine ⟨h.ids, fun i u hu destino hdestino ↦ ?_, fun destino d hd ↦ ?_⟩
    · obtain ⟨d, hd, hdpos⟩ := h.abiertos i u hu destino hdestino
      refine ⟨d, (Function.update_of_ne ?_ _ _).trans hd, hdpos⟩
      rintro rfl
      rw [hc] at hd
      obtain rfl := Option.some.inj hd
      have hlt : i < r.cpus.length := (List.getElem?_eq_some_iff.mp hu).1
      omega
    · exact h.sanas destino d (hcerrada destino d hd).2

/-! ## Runs -/

/-- A CPU that connects has an id that is in no slot, and its descriptor is not one over which the planner
is about to send. -/
def SinRepetidos (r : RedCpus) : EventoRed → Prop
  | .conectar socket cpuId => (∀ t ∈ r.cpus, t.cpuId ≠ cpuId) ∧ ∀ d ∈ r.despacho, d.1 ≠ socket
  | _ => True

instance (r : RedCpus) (e : EventoRed) : Decidable (r.SinRepetidos e) := by
  unfold SinRepetidos
  split <;> infer_instance

theorem EnOrden.paso (h : r.EnOrden) {e : EventoRed} (hsin : r.SinRepetidos e)
    (hpaso : r.paso e = some r') : r'.EnOrden := by
  cases e with
  | conectar socket cpuId =>
    simp only [RedCpus.paso] at hpaso
    split at hpaso <;> cases hpaso
    rename_i hguarda
    exact h.conectar (Option.isNone_iff_eq_none.mp hguarda.2) hsin.1 hsin.2
  | desconectar socket =>
    simp only [RedCpus.paso] at hpaso
    obtain ⟨c, hc, hpaso⟩ := Option.bind_eq_some_iff.mp hpaso
    split at hpaso <;> cases hpaso
    exact h.desconectar hc
  | elegir pid =>
    cases hdespacho : r.despacho with
    | none => exact h.elegir hdespacho hpaso
    | some d =>
      simp only [RedCpus.paso, hdespacho] at hpaso
      cases hpaso
  | despachar => exact h.despachar hpaso
  | ejecutar socket => exact h.ejecutar hpaso
  | devolver socket motivo => exact h.devolver hpaso
  | atender socket => exact h.atender hpaso
  | terminarMemoria socket vuelve => exact h.terminarMemoria hpaso
  | enviarDeVuelta socket => exact h.enviarDeVuelta hpaso

theorem EnOrden.devolucionesCorrectas (h : r.EnOrden) : r.DevolucionesCorrectas := by
  intro socket c hc
  constructor
  · intro hfase d hd
    obtain ⟨resto, hdevueltos⟩ := List.head?_eq_some_iff.mp hd
    obtain ⟨t, ht, hranura, hactual, _⟩ := h.tomado hc hfase hdevueltos
    refine ⟨?_, hranura.ultimo d.1 ?_, ?_⟩
    · show (buscarCpu r.cpus c.cpuId).bind TCpu.procesoActual = some d.1
      rw [← hranura.suya, (h.ids.buscar ht).1]
      exact hactual
    · unfold Conexion.recibidos
      rw [hdevueltos]
      simp
    · rw [← hranura.suya]
      exact h.ids.posicion ht
  · intro pid hfase
    obtain ⟨t, ht, hranura⟩ := h.ranura hc (.inl (by rw [hfase]; nofun))
    refine ⟨(hranura.memoria pid hfase).2.2, ?_⟩
    rw [← hranura.suya]
    exact h.ids.posicion ht

/-- In every state of a run in which no id and no descriptor of a pending send comes back, a process that
is returned is the one that was sent over the connection. -/
theorem devolucionesCorrectas_sinRepetidos
    (hr : Reachable RedCpus.paso RedCpus.Arranque SinRepetidos r) : r.DevolucionesCorrectas := by
  apply EnOrden.devolucionesCorrectas
  apply hr.invariant (P := RedCpus.EnOrden)
  · rintro _ rfl
    exact ⟨nofun, nofun, nofun⟩
  · intro r e r' h hsin hpaso
    exact h.paso hsin hpaso

theorem arranque : RedCpus.Arranque ⟨[], fun _ ↦ none, none⟩ := rfl

/-- Two CPUs; one asks for memory, gets its process back and returns it at the end. -/
theorem devolucionesCorrectas_dosCpus : ∃ r : RedCpus,
    (r.conexion 5).map Conexion.devueltos = some [(0, .exit)] ∧ r.DevolucionesCorrectas := by
  have hinicial : Reachable RedCpus.paso RedCpus.Arranque SinRepetidos _ := .start arranque
  obtain ⟨r, hr, hdevueltos⟩ := hinicial.exists_of_runAllowed
    [.conectar 5 1, .conectar 6 2, .elegir 0, .despachar, .elegir 1, .ejecutar 5, .despachar,
      .devolver 5 (.syscall (.memFree (some 3))), .atender 5, .terminarMemoria 5 true, .ejecutar 6,
      .enviarDeVuelta 5, .ejecutar 5, .devolver 5 .exit]
    (fun r ↦ (r.conexion 5).map Conexion.devueltos = some [(0, .exit)]) (by decide)
  exact ⟨r, hdevueltos, devolucionesCorrectas_sinRepetidos hr⟩

/-- CPU 1 goes away with process 0 and comes back. It runs process 1, returns it, and the scheduler
takes process 0. -/
theorem devuelto_equivocado : ∃ r : RedCpus,
    Reachable RedCpus.paso RedCpus.Arranque (fun _ _ ↦ True) r ∧ ¬ r.DevolucionesCorrectas := by
  have hinicial : Reachable RedCpus.paso RedCpus.Arranque (fun _ _ ↦ True) _ := .start arranque
  obtain ⟨r, hr, hdevueltos, htomado⟩ := hinicial.exists_of_runAllowed
    [.conectar 5 1, .elegir 0, .despachar, .ejecutar 5, .desconectar 5, .conectar 6 1, .elegir 1,
      .despachar, .ejecutar 6, .devolver 6 .exit]
    (fun r ↦ r.conexion 6 = some ⟨1, .leer, [], none, [(1, .exit)], 1, some 1⟩ ∧
      (retirarProcesoDeCpu r.cpus 1).1 = some 0) (by decide)
  refine ⟨r, hr, fun h ↦ ?_⟩
  have hcorrecta := ((h 6 _ hdevueltos).1 rfl (1, .exit) rfl).1
  rw [htomado] at hcorrecta
  cases hcorrecta

end RedCpus

end PlugAndPlay.Planificador
