import Mathlib.Data.Fintype.Basic
import PlugAndPlay.Memoria.Respuestas
import PlugAndPlay.Red.LectoresEstables

/-!
# The CPUs call Kernel Memory

A CPU has one connection to Kernel Memory, past its handshake. Its cycle sends a request and waits; all that comes
is read by `cpu_memory_listener_thread`, which hands a reply over to the cycle and connects to a stick that it is
told about. On the other side `memory_receptor_cpu_thread` serves the requests under `mutex_memoria`, while other
threads of Kernel Memory change its state and send `NUEVA_MEMORIA_DISPONIBLE` on the same connection. Every `send`
takes the whole frame, and no notice is longer than what the receive buffer of a CPU can hold.
-/

open PlugAndPlay.Library PlugAndPlay.Library.StreamReader PlugAndPlay.Library.RemoteCalls PlugAndPlay.Red

namespace PlugAndPlay.Memoria

/-! ## The code -/

/-- What the listener acts upon itself: a stick, or a code that it does not know. -/
inductive AvisoCpu
  | nuevaMemoria (tamanio baseFisica : UInt32) (ip puerto : Cadena)
  | desconocido (codigo : UInt32)
deriving DecidableEq

/-- A notice that the receive buffer of a CPU can hold; a longer one would stop the listener. -/
def AvisoCpu.enviar [Recepcion] : AvisoCpu → Option (List UInt8)
  | .nuevaMemoria tamanio baseFisica ip puerto =>
    if Llega (enviarNuevaMemoriaDisponible tamanio baseFisica ip puerto).stream.length then
      enviarPaquete (enviarNuevaMemoriaDisponible tamanio baseFisica ip puerto)
    else none
  | .desconocido _ => none

/-- What the listener leaves for the cycle, with the code in `respuesta_pendiente`. -/
inductive RespuestaPendiente
  | instruccion (linea : Cadena)
  | contexto (registros : Registros) (segmentos : List Segmento)
  | confirmacion

/-- What `fetch_instruccion`, `solicitar_contexto_a_memory` and `actualizar_contexto_en_memory` come to. -/
inductive RespuestaCpu
  | linea (linea : Option Cadena)
  | contexto (contexto : Option Contexto)
  | actualizado (hecho : Bool)
deriving DecidableEq

/-- The first of the three takes only the line, the others look at the code as well. -/
def PedidoCpu.tomar : PedidoCpu → RespuestaPendiente → RespuestaCpu
  | .obtenerInstruccion _ _, .instruccion linea => .linea (some linea)
  | .obtenerInstruccion _ _, _ => .linea none
  | .obtenerContexto pid, .contexto registros segmentos => .contexto (some ⟨pid.toInt, registros, segmentos⟩)
  | .obtenerContexto _, _ => .contexto none
  | .actualizarContexto _ _ _, .confirmacion => .actualizado true
  | .actualizarContexto _ _ _, _ => .actualizado false

/-- The semaphore lets the cycle have a reply; without a request nobody takes it. -/
def entregar (pedido : Option PedidoCpu) (respuesta : RespuestaPendiente) : Lector (AvisoCpu ⊕ RespuestaCpu) :=
  match pedido with
  | none => throw .incompleto
  | some pedido => pure (.inr (pedido.tomar respuesta))

/-- A turn of `cpu_memory_listener_thread`. -/
def escucharMemoria [Recepcion] (pedido : Option PedidoCpu) : Lector (AvisoCpu ⊕ RespuestaCpu) := do
  let codigo ← recibirCodigoOperacion
  match Red.OpCode.deValor codigo with
  | some .nuevaMemoriaDisponible =>
    let (tamanio, baseFisica, ip, puerto) ← recibirNuevaMemoriaDisponible
    pure (.inl (.nuevaMemoria tamanio baseFisica ip puerto))
  | some .obtenerInstruccion =>
    let linea ← recibirInstruccion
    entregar pedido (.instruccion linea)
  | some .obtenerContexto =>
    let (registros, segmentos) ← recibirContexto
    entregar pedido (.contexto registros segmentos)
  | some .actualizarContexto =>
    recibirOk
    entregar pedido .confirmacion
  | _ => pure (.inl (.desconocido codigo))

/-- The rest of a turn of `memory_receptor_cpu_thread`. -/
def atenderPedidoCpu (m : KernelMemory) : Option PedidoCpu → Option (KernelMemory × List UInt8)
  | none => some (m, [])
  | some pedido => (enviarTodos (pedido.manejar m).1).map fun respuesta ↦ ((pedido.manejar m).2, respuesta)

/-- Any number of CPUs. -/
def protocoloCpus [Recepcion] (cpus : ℕ) : Protocol UInt8 (Fin cpus) KernelMemory PedidoCpu RespuestaCpu AvisoCpu :=
  .ofReaders (fun pedido ↦ enviarPaquete pedido.paquete) (fun _ ↦ leerPedidoCpu) atenderPedidoCpu AvisoCpu.enviar
    fun _ ↦ escucharMemoria

/-! ## Requests on the state of Kernel Memory -/

/-- What a request comes to, without sockets. -/
def KernelMemory.operar (m : KernelMemory) : PedidoCpu → KernelMemory × RespuestaCpu
  | .obtenerInstruccion pid pc => (m, .linea (some (lineaInstruccion m pid pc)))
  | .obtenerContexto pid => (m, .contexto (manejarObtenerContextoCpu m pid.toInt))
  | .actualizarContexto pid registros segmentos =>
    (manejarActualizarContextoCpu m (contextoDe pid registros segmentos), .actualizado true)

/-- The process of a context is known, and the receive buffers can hold the request and its reply. -/
def PedidoCpu.Valido [Recepcion] (m : KernelMemory) (pedido : PedidoCpu) : Prop :=
  pedido.Contesta m ∧ Llega pedido.paquete.stream.length

instance [Recepcion] (m : KernelMemory) : DecidablePred (PedidoCpu.Contesta m)
  | .obtenerInstruccion _ _ => inferInstanceAs (Decidable (Llega _))
  | .obtenerContexto pid =>
    inferInstanceAs (Decidable (∃ proc ∈ procesosBuscar m.procesos pid.toInt, Llega _))
  | .actualizarContexto _ _ _ => inferInstanceAs (Decidable True)

instance [Recepcion] (m : KernelMemory) : DecidablePred (PedidoCpu.Valido m) :=
  fun _ ↦ inferInstanceAs (Decidable (_ ∧ _))

/-! ## Both sides of the socket -/

theorem stable_entregar (pedido : Option PedidoCpu) (respuesta : RespuestaPendiente) :
    Stable (entregar pedido respuesta) := by
  cases pedido with
  | none => exact stable_throw _
  | some pedido => exact stable_pure (Sum.inr (pedido.tomar respuesta))

/-- The one frame of a handler is its answer. -/
theorem enviarTodos_uno {paquete : Paquete} (hcabe : CabeEnTrama paquete.stream.length) :
    enviarTodos [paquete] = some (serializarPaquete paquete) := by
  unfold enviarTodos
  rw [enviarPaquete_of_cabe hcabe]
  exact congrArg some (List.append_nil _)

/-- The process of a pid after a write-back, with its script. -/
theorem procesosBuscar_actualizar (m : KernelMemory) (ctx : Contexto) (pid : ℤ) :
    procesosBuscar (manejarActualizarContextoCpu m ctx).procesos pid =
      if pid = ctx.pid then (procesosBuscar m.procesos pid).map (actualizarProcesoDesdeContexto · ctx)
      else procesosBuscar m.procesos pid :=
  procesosBuscar_modificar fun _ ↦ rfl

theorem lineaInstruccion_actualizar (m : KernelMemory) (ctx : Contexto) (pid : Int32) (pc : UInt32) :
    lineaInstruccion (manejarActualizarContextoCpu m ctx) pid pc = lineaInstruccion m pid pc := by
  unfold lineaInstruccion
  rw [procesosBuscar_actualizar]
  split
  · cases procesosBuscar m.procesos pid.toInt <;> rfl
  · rfl

section

variable [Recepcion] {m : KernelMemory} {pedido otro : PedidoCpu}

theorem stable_leerPedidoCpu : Stable leerPedidoCpu := by
  apply stable_uint32.bind
  intro codigo
  split
  · exact stable_leerIntUint32.last fun leido ↦ some (PedidoCpu.obtenerInstruccion leido.1 leido.2)
  · exact stable_leerInt.last fun pid ↦ some (PedidoCpu.obtenerContexto pid)
  · exact stable_recibirContextoActualizar.last fun leido ↦
      some (PedidoCpu.actualizarContexto leido.1 leido.2.1 leido.2.2)
  · exact stable_pure none

theorem stable_escucharMemoria (pedido : Option PedidoCpu) : Stable (escucharMemoria pedido) := by
  apply stable_uint32.bind
  intro codigo
  split
  · exact stable_recibirNuevaMemoriaDisponible.last fun leido ↦
      Sum.inl (AvisoCpu.nuevaMemoria leido.1 leido.2.1 leido.2.2.1 leido.2.2.2)
  · exact stable_leerCadena.bind fun linea ↦ stable_entregar pedido _
  · exact stable_recibirContexto.bind fun leido ↦ stable_entregar pedido _
  · exact stable_recibirOk.bind fun _ ↦ stable_entregar pedido _
  · exact stable_pure (Sum.inl (AvisoCpu.desconocido codigo))

/-- The listener takes a notice whether a request is under way or not. -/
theorem reads_aviso (pedido : Option PedidoCpu) (aviso : AvisoCpu) {word : List UInt8}
    (henvia : aviso.enviar = some word) : Reads (escucharMemoria pedido) word (.inl aviso) := by
  cases aviso with
  | desconocido codigo => cases henvia
  | nuevaMemoria tamanio baseFisica ip puerto =>
    obtain ⟨hllega, hpaquete⟩ := Option.ite_none_right_eq_some.mp henvia
    obtain ⟨-, rfl⟩ := enviarPaquete_eq_some hpaquete
    apply reads_trasCodigo
    simp only [enviarNuevaMemoriaDisponible, Red.OpCode.deValor_valor]
    exact ((Corresponde.nuevaMemoriaDisponible tamanio baseFisica ip puerto).recibe hllega).last

/-- The CPU takes the reply of Kernel Memory for that of the request. -/
theorem atenderPedidoCpu_como_operar (h : pedido.Contesta m) : ∃ respuesta,
    atenderPedidoCpu m (some pedido) = some ((m.operar pedido).1, respuesta) ∧
      Reads (escucharMemoria (some pedido)) respuesta (.inr (m.operar pedido).2) := by
  cases pedido with
  | obtenerInstruccion pid pc =>
    have hllega : Llega (respuestaInstruccion (lineaInstruccion m pid pc)).stream.length := by
      simp only [Paquete.stream, respuestaInstruccion, paqueteCadena, List.flatten_singleton, length_deCadena]
      exact h
    refine ⟨serializarPaquete (respuestaInstruccion (lineaInstruccion m pid pc)), ?_, ?_⟩
    · simp only [atenderPedidoCpu, PedidoCpu.manejar, enviarTodos_uno hllega.cabe]
      rfl
    · apply reads_trasCodigo
      simp only [respuestaInstruccion, paqueteCadena, Red.OpCode.deValor_valor]
      exact ((Corresponde.instruccion (lineaInstruccion m pid pc)).recibe hllega).finish rfl
  | obtenerContexto pid =>
    obtain ⟨proc, hproc, hllega⟩ := h
    have hcontexto : manejarObtenerContextoCpu m pid.toInt = some ⟨pid.toInt, proc.registros, proc.segmentos⟩ := by
      unfold manejarObtenerContextoCpu
      rw [hproc]
      rfl
    have hllega : Llega (enviarContextoProceso proc.registros proc.segmentos).stream.length := by
      have hlargo : (enviarContextoProceso proc.registros proc.segmentos).stream.length =
          36 + 16 * proc.segmentos.length := by
        simp only [Paquete.stream, enviarContextoProceso, List.flatten_cons, List.length_append, length_deRegistros,
          length_deInt, length_segmentos]
        omega
      rwa [hlargo]
    refine ⟨serializarPaquete (enviarContextoProceso proc.registros proc.segmentos), ?_, ?_⟩
    · simp only [atenderPedidoCpu, PedidoCpu.manejar, hcontexto, enviarTodos_uno hllega.cabe]
      rfl
    · apply reads_trasCodigo
      simp only [KernelMemory.operar, hcontexto, enviarContextoProceso, Red.OpCode.deValor_valor]
      exact ((Corresponde.contextoProceso proc.registros proc.segmentos).recibe hllega).finish rfl
  | actualizarContexto pid registros segmentos =>
    have hllega : Llega (enviarOk .actualizarContexto).stream.length := llega_ok _
    refine ⟨serializarPaquete (enviarOk .actualizarContexto), ?_, ?_⟩
    · simp only [atenderPedidoCpu, PedidoCpu.manejar, enviarTodos_uno hllega.cabe]
      rfl
    · apply reads_trasCodigo
      simp only [enviarOk, Red.OpCode.deValor_valor]
      exact ((Corresponde.ok .actualizarContexto).recibe hllega).finish rfl

/-- A table that was sent to Kernel Memory can be sent back. -/
theorem llega_devuelto {pid : UInt32} {registros : Registros} {segmentos : List Segmento}
    (h : Llega (enviarActualizarContexto pid registros segmentos).stream.length) :
    Llega (36 + 16 * segmentos.length) := by
  have hlargo : (enviarActualizarContexto pid registros segmentos).stream.length = 40 + 16 * segmentos.length := by
    simp only [Paquete.stream, enviarActualizarContexto, List.flatten_cons, List.length_append, length_deRegistros,
      length_deInt, length_deUint32, length_segmentos]
    omega
  rw [hlargo] at h
  exact ⟨by omega, le_trans (by omega) h.2⟩

/-- No request of a CPU makes that of another one invalid. -/
theorem PedidoCpu.Valido.operar (h : pedido.Valido m) (hotro : otro.Valido m) :
    pedido.Valido (m.operar otro).1 := by
  refine ⟨?_, h.2⟩
  cases otro with
  | obtenerInstruccion pid pc => exact h.1
  | obtenerContexto pid => exact h.1
  | actualizarContexto otroPid registros segmentos =>
    have hdevuelto := llega_devuelto hotro.2
    cases pedido with
    | obtenerInstruccion pid pc =>
      show Llega ((lineaInstruccion (manejarActualizarContextoCpu m _) pid pc).bytes.length + 5)
      rw [lineaInstruccion_actualizar]
      exact h.1
    | obtenerContexto pid =>
      obtain ⟨proc, hproc, hllega⟩ := h.1
      have hbusca := procesosBuscar_actualizar m (contextoDe otroPid registros segmentos) pid.toInt
      rw [hproc] at hbusca
      by_cases hpid : pid.toInt = (contextoDe otroPid registros segmentos).pid
      · rw [if_pos hpid] at hbusca
        exact ⟨_, hbusca, hdevuelto⟩
      · rw [if_neg hpid] at hbusca
        exact ⟨proc, hbusca, hllega⟩
    | actualizarContexto pid registros segmentos => trivial

end

/-! ## Runs -/

/-- Kernel Memory and its CPUs. -/
abbrev SistemaCpus (cpus : ℕ) : Type := System UInt8 (Fin cpus) KernelMemory PedidoCpu RespuestaCpu AvisoCpu

section

variable [Recepcion]

theorem implementa_cpus (cpus : ℕ) : Implements (protocoloCpus cpus) KernelMemory.operar (fun _ ↦ True)
    PedidoCpu.Valido := by
  apply implements_ofReaders
  · exact fun _ ↦ stable_leerPedidoCpu
  · exact fun _ ↦ stable_escucharMemoria
  · intro m pedido word _ hvalido henvia
    obtain ⟨-, rfl⟩ := enviarPaquete_eq_some henvia
    exact leerPedidoCpu_reads pedido hvalido.2
  · intro m pedido word _ hvalido _
    obtain ⟨respuesta, hatiende, hrecibe⟩ := atenderPedidoCpu_como_operar hvalido.1
    exact ⟨respuesta, hatiende, fun _ ↦ hrecibe⟩
  · exact fun _ pedido aviso word henvia ↦ reads_aviso pedido aviso henvia
  · exact fun _ _ _ _ ↦ trivial
  · exact fun _ _ _ _ hpedido hotro ↦ hpedido.operar hotro

theorem esperan_cpus (cpus : ℕ) : (protocoloCpus cpus).Waits := by
  apply waits_ofReaders
  · exact fun _ ↦ espera_codigo _
  · exact fun _ _ ↦ espera_codigo _

/-- Requests of the CPUs, sticks they are told about, and what the other threads of Kernel Memory do meanwhile to
its state, as long as the processes that contexts are asked of stay. -/
abbrev CpusAlcanzable {cpus : ℕ} (inicial : KernelMemory) (s : SistemaCpus cpus) : Prop :=
  Reachable (System.step (protocoloCpus cpus)) (System.Initial inicial)
    (System.Allowed PedidoCpu.Valido (System.Harmless (fun _ ↦ True) PedidoCpu.Valido)) s

/-- Every fetch, every context and every write-back of a CPU is as if it were made on the state of Kernel Memory itself,
at one point between its request and its reply, and every CPU hears of the sticks in the order they were sent. -/
theorem pedidosCpus_como_locales {cpus : ℕ} (inicial : KernelMemory) (s : SistemaCpus cpus)
    (h : CpusAlcanzable inicial s) : s.AsLocal (protocoloCpus cpus) KernelMemory.operar inicial :=
  asLocal_of_reachable (implementa_cpus cpus) (esperan_cpus cpus) (fun _ _ hmay ↦ hmay) trivial h

end

section Muestra

local instance recepcionDeCpus : Recepcion := Red.recepcionTipica

/-- A process of two instructions and no segments. -/
def memoriaDeUnProceso : KernelMemory where
  config := ⟨16, none⟩
  procesos := [⟨1, .cero, [], ["NOOP", "EXIT"]⟩]
  bloquesLibres := []
  ram := ⟨[], [], 0⟩
  swap := .desconectado

def sistemaCpusInicial (cpus : ℕ) (inicial : KernelMemory) : SistemaCpus cpus :=
  ⟨inicial, fun _ ↦ .idle, [], fun _ ↦ [], fun _ ↦ [], fun _ ↦ []⟩

/-- A stick of eight bytes, without an address. -/
def avisoDeOcho : AvisoCpu := .nuevaMemoria 8 0 ⟨[], fun _ h ↦ by cases h⟩ ⟨[], fun _ h ↦ by cases h⟩

/-- A CPU hears of a stick and another asks for an instruction while its own request is under way; meanwhile the
scheduler gives the process a segment. -/
theorem pedidosCpus_como_locales_cruzados : ∃ s : SistemaCpus 2, CpusAlcanzable memoriaDeUnProceso s ∧
    (s.returned 0).map Prod.snd = [.contexto (some ⟨1, .cero, [⟨0, 0, 4, 0⟩]⟩)] ∧
    (s.returned 1).map Prod.snd = [.linea (some (cadenaEn "EXIT".toUTF8.toList))] ∧ s.noticed 0 = [avisoDeOcho] ∧
    s.AsLocal (protocoloCpus 2) KernelMemory.operar memoriaDeUnProceso := by
  have hinicio : CpusAlcanzable memoriaDeUnProceso (sistemaCpusInicial 2 memoriaDeUnProceso) :=
    .start ⟨rfl, rfl, fun _ ↦ ⟨rfl, rfl, rfl, rfl⟩⟩
  obtain ⟨s, hs, hcero, huno, haviso⟩ := hinicio.exists_of_runAllowed
    [.call 0 (.obtenerContexto 1), .call 1 (.obtenerInstruccion 1 1), .deliverUp 0 7, .notify 0 avisoDeOcho,
      .change fun m ↦ { m with
        procesos := procesosModificar 1 (fun p ↦ { p with segmentos := [⟨0, 0, 4, 0⟩] }) m.procesos },
      .deliverUp 0 9, .serve 0, .deliverDown 0 100, .receive 0, .deliverUp 1 20, .serve 1, .receive 0,
      .deliverDown 1 30, .receive 1]
    (fun s ↦ (s.returned 0).map Prod.snd = [.contexto (some ⟨1, .cero, [⟨0, 0, 4, 0⟩]⟩)] ∧
      (s.returned 1).map Prod.snd = [.linea (some (cadenaEn "EXIT".toUTF8.toList))] ∧ s.noticed 0 = [avisoDeOcho])
    (by decide +kernel)
  exact ⟨s, hs, hcero, huno, haviso, pedidosCpus_como_locales memoriaDeUnProceso s hs⟩

end Muestra

end PlugAndPlay.Memoria
