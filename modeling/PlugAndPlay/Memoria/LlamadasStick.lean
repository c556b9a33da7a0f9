import PlugAndPlay.Memoria.ProcesoStick
import PlugAndPlay.Red.LectoresEstables

/-!
# Many clients call a memory stick

A stick has a thread for each connection, that of Kernel Memory and those of the CPUs, and its handlers use the
buffer under `memoria_lock`. A client has one request at a time on its connection: Kernel Memory holds the lock of
its outgoing connection, and a CPU calls from its cycle only. The connections are past their handshake.
-/

open PlugAndPlay.Library PlugAndPlay.Library.StreamReader PlugAndPlay.Library.RemoteCalls PlugAndPlay.Red

namespace PlugAndPlay.Memoria

/-! ## The code -/

inductive ClienteStick
  | kernelMemory
  | cpu (cpuId : ℕ)
deriving Repr, DecidableEq

/-- A piece of `memory_io_leer` or `memory_io_escribir`, or a call of `cpu_stick_leer`, `leer_de_memoria_fisica`,
`cpu_stick_escribir` or `escribir_en_memoria_fisica`. -/
inductive LlamadaStick
  | leer (pid : Int32) (dir tam : UInt32)
  | escribir (pid : Int32) (dir : UInt32) (datos : List UInt8)
deriving Repr, DecidableEq

inductive RespuestaStick
  | leido (datos : Option (List UInt8))
  | escrito (hecho : Bool)
deriving Repr, DecidableEq

def LlamadaStick.enviar : LlamadaStick → Option (List UInt8)
  | .leer pid dir tam => enviarPaquete (enviarLecturaFisica pid dir tam)
  | .escribir pid dir datos => enviarPaquete (enviarEscrituraFisica pid dir datos)

def LecturaCliente.bytes : LecturaCliente → Option (List UInt8)
  | .datos bytes => some bytes
  | .falla | .espera | .aborto => none

/-- The operation code, which may be refused, and then the acknowledgement. -/
def leerConfirmacion [Recepcion] (rechaza : UInt32 → Bool) : Lector RespuestaStick := do
  let codigo ← recibirCodigoOperacion
  if rechaza codigo then pure (.escrito false)
  else
    recibirOk
    pure (.escrito true)

/-- Kernel Memory refuses the code `-1` only, a CPU all but that of its request. -/
def ClienteStick.recibir [Recepcion] : ClienteStick → LlamadaStick → Lector RespuestaStick
  | .kernelMemory, .leer _ _ tam => do
    let lectura ← memoryIoLeerPieza tam
    pure (.leido lectura.bytes)
  | .kernelMemory, .escribir _ _ _ => leerConfirmacion fun codigo ↦ codigo = 0xFFFFFFFF
  | .cpu _, .leer _ _ tam => do
    let lectura ← cpuStickLeerPieza tam
    pure (.leido lectura.bytes)
  | .cpu _, .escribir _ _ _ => leerConfirmacion fun codigo ↦ codigo ≠ Red.OpCode.escrituraMemoria.valor

/-- A turn of `memory_stick_cpu_handler` up to its handler; any other code ends the connection. -/
def leerLlamadaStick [Recepcion] : Lector (Option LlamadaStick) := do
  let codigo ← recibirCodigoOperacion
  if codigo = Red.OpCode.lecturaMemoria.valor then
    let (pid, dir, tam) ← leerLecturaFisica
    pure (some (.leer pid dir tam))
  else if codigo = Red.OpCode.escrituraMemoria.valor then
    let (pid, dir, datos) ← leerEscrituraFisica
    pure (some (.escribir pid dir datos))
  else pure none

/-- The handlers, after they have received the fields; of a write they received as many bytes as it announces. -/
def MemoryStick.atenderLlamada (stick : MemoryStick) : Option LlamadaStick → Option (MemoryStick × List UInt8)
  | some (.leer _ dir tam) => (stick.responderLectura dir tam).map fun respuesta ↦ (stick, respuesta)
  | some (.escribir _ dir datos) => (enviarPaquete (enviarOk .escrituraMemoria)).map fun respuesta ↦
      (stick.manejarEscritura dir (UInt32.ofNat datos.length) datos, respuesta)
  | none => none

def protocoloStick [Recepcion] : Protocol UInt8 ClienteStick MemoryStick LlamadaStick RespuestaStick Empty :=
  .ofReaders LlamadaStick.enviar (fun _ ↦ leerLlamadaStick) MemoryStick.atenderLlamada Empty.elim
    (hearReply .incompleto ClienteStick.recibir)

/-! ## Memory that is read and written -/

/-- Reads and writes of memory, that always succeed. -/
def MemoryStick.operar (stick : MemoryStick) : LlamadaStick → MemoryStick × RespuestaStick
  | .leer _ dir tam => (stick, .leido (some (ByteMemory.slice stick.memoria dir.toNat tam.toNat)))
  | .escribir _ dir datos =>
    ({ stick with memoria := ByteMemory.overlay stick.memoria dir.toNat datos }, .escrito true)

/-- The call is for some bytes inside the buffer, and the side that they go to can peek at the message with them. -/
def LlamadaStick.Dentro [Recepcion] (tamanio : UInt32) : LlamadaStick → Prop
  | .leer _ dir tam => dir.toNat + tam.toNat ≤ tamanio.toNat ∧ Llega tam.toNat
  | .escribir _ dir datos =>
    dir.toNat + datos.length ≤ tamanio.toNat ∧ datos ≠ [] ∧ Llega (largoPedidoEscritura + datos.length)

instance [Recepcion] (tamanio : UInt32) : DecidablePred (LlamadaStick.Dentro tamanio)
  | .leer _ _ _ => inferInstanceAs (Decidable (_ ∧ _))
  | .escribir _ _ _ => inferInstanceAs (Decidable (_ ∧ _))

section

variable {stick : MemoryStick} {tamanio : UInt32} {llamada : LlamadaStick} {dir tam : UInt32} {datos : List UInt8}

theorem tamanio_operar (stick : MemoryStick) (llamada : LlamadaStick) :
    (stick.operar llamada).1.tamanio = stick.tamanio := by
  cases llamada with
  | leer pid dir tam => rfl
  | escribir pid dir datos => rfl

/-- The handler takes the request that the client sent. -/
theorem reads_leerLlamadaStick [Recepcion] {word : List UInt8} (hdentro : llamada.Dentro tamanio)
    (henvia : llamada.enviar = some word) : Reads leerLlamadaStick word (some llamada) := by
  cases llamada with
  | leer pid dir tam =>
    obtain ⟨-, rfl⟩ := enviarPaquete_eq_some henvia
    apply reads_trasCodigo
    have hrecibe := (Corresponde.lecturaFisica pid dir tam).recibe (llega_intDosUint32 pid dir tam)
    have hcodigo : (enviarLecturaFisica pid dir tam).codigo.valor = Red.OpCode.lecturaMemoria.valor := rfl
    rw [hcodigo, if_pos rfl]
    exact hrecibe.last
  | escribir pid dir datos =>
    obtain ⟨-, rfl⟩ := enviarPaquete_eq_some henvia
    obtain ⟨-, hdatos, hllega⟩ := hdentro
    apply reads_trasCodigo
    have hrecibe := (Corresponde.escrituraFisica pid dir datos hdatos).recibe
      (length_escritura pid dir datos ▸ hllega)
    have hcodigo : (enviarEscrituraFisica pid dir datos).codigo.valor = Red.OpCode.escrituraMemoria.valor := rfl
    have hotro : Red.OpCode.escrituraMemoria.valor ≠ Red.OpCode.lecturaMemoria.valor := by decide
    rw [hcodigo, if_neg hotro, if_pos rfl]
    exact hrecibe.last

theorem reads_confirmacion [Recepcion] {rechaza : UInt32 → Bool}
    (hcodigo : rechaza Red.OpCode.escrituraMemoria.valor = false) :
    Reads (leerConfirmacion rechaza) (serializarPaquete (enviarOk .escrituraMemoria)) (.escrito true) := by
  have hok : Recibe recibirOk (enviarOk .escrituraMemoria) () := recibe_ok
  apply reads_trasCodigo
  simp only [enviarOk, hcodigo, Bool.false_eq_true, if_false]
  exact hok.last

/-- Every client takes the reply of the stick for that of memory. -/
theorem atenderLlamada_como_operar [Recepcion] (h : llamada.Dentro stick.tamanio) {word : List UInt8}
    (henvia : llamada.enviar = some word) : ∃ respuesta,
      stick.atenderLlamada (some llamada) = some ((stick.operar llamada).1, respuesta) ∧
        ∀ cliente : ClienteStick, Reads (cliente.recibir llamada) respuesta (stick.operar llamada).2 := by
  cases llamada with
  | leer pid dir tam =>
    obtain ⟨hdentro, hllega⟩ := h
    let bytes := ByteMemory.slice stick.memoria dir.toNat tam.toNat
    have hlargo : bytes.length = tam.toNat := ByteMemory.length_slice
    have hcabeBytes : CabeEnTrama (respuestaLectura bytes).stream.length := by
      simp only [respuestaLectura, Paquete.stream, List.flatten_singleton, hlargo]
      exact hllega.cabe
    refine ⟨serializarPaquete (respuestaLectura bytes), ?_, fun cliente ↦ ?_⟩
    · simp only [MemoryStick.atenderLlamada, responderLectura_dentro hdentro]
      rw [enviarPaquete_of_cabe hcabeBytes]
      rfl
    · cases cliente with
      | kernelMemory => exact (reads_lectura rfl hlargo hllega).last
      | cpu cpuId => exact (reads_lectura rfl hlargo hllega).last
  | escribir pid dir datos =>
    obtain ⟨hcabe, -⟩ := enviarPaquete_eq_some henvia
    obtain ⟨hdentro, -, -⟩ := h
    have hlargo : datos.length = (UInt32.ofNat datos.length).toNat := by
      have hcampo : datos ∈ (enviarEscrituraFisica pid dir datos).campos := by
        simp [enviarEscrituraFisica, paqueteEscritura]
      have hdatos : datos.length ≤ (enviarEscrituraFisica pid dir datos).stream.length := length_le_stream hcampo
      have hsize : datos.length < UInt32.size := by
        unfold CabeEnTrama at hcabe
        unfold UInt32.size
        omega
      exact (UInt32.toNat_ofNat_of_lt' hsize).symm
    refine ⟨serializarPaquete (enviarOk .escrituraMemoria), ?_, fun cliente ↦ ?_⟩
    · simp only [MemoryStick.atenderLlamada, manejarEscritura_dentro hlargo (hlargo ▸ hdentro)]
      rfl
    · cases cliente with
      | kernelMemory => exact reads_confirmacion rfl
      | cpu cpuId => exact reads_confirmacion rfl

end

/-! ## Messages that arrive in parts -/

theorem stable_leerRespuesta [Recepcion] (rechaza : UInt32 → Bool) (tam : UInt32) :
    Stable (leerRespuesta rechaza tam) := by
  apply stable_uint32.bind
  intro codigo
  split
  · exact stable_pure LecturaCliente.falla
  · exact (stable_recibirDatosMemoria tam.toNat).last LecturaCliente.datos

theorem stable_leerConfirmacion [Recepcion] (rechaza : UInt32 → Bool) : Stable (leerConfirmacion rechaza) := by
  apply stable_uint32.bind
  intro codigo
  split
  · exact stable_pure (RespuestaStick.escrito false)
  · exact stable_recibirOk.last fun _ ↦ RespuestaStick.escrito true

theorem stable_recibirStick [Recepcion] (cliente : ClienteStick) (llamada : LlamadaStick) :
    Stable (cliente.recibir llamada) := by
  cases cliente with
  | kernelMemory =>
    cases llamada with
    | leer pid dir tam => exact (stable_leerRespuesta _ tam).last fun lectura ↦ RespuestaStick.leido lectura.bytes
    | escribir pid dir datos => exact stable_leerConfirmacion _
  | cpu cpuId =>
    cases llamada with
    | leer pid dir tam => exact (stable_leerRespuesta _ tam).last fun lectura ↦ RespuestaStick.leido lectura.bytes
    | escribir pid dir datos => exact stable_leerConfirmacion _

theorem stable_leerLlamadaStick [Recepcion] : Stable leerLlamadaStick := by
  apply stable_uint32.bind
  intro codigo
  split
  · exact stable_leerIntDosUint32.last fun leido ↦ some (LlamadaStick.leer leido.1 leido.2.1 leido.2.2)
  · split
    · exact stable_leerEscritura.last fun leido ↦ some (LlamadaStick.escribir leido.1 leido.2.1 leido.2.2)
    · exact stable_pure none

theorem espera_recibirStick [Recepcion] (cliente : ClienteStick) (llamada : LlamadaStick) :
    attempt (cliente.recibir llamada) [] = none := by
  cases cliente with
  | kernelMemory =>
    cases llamada with
    | leer pid dir tam => exact attempt_bind_nil (espera_codigo _) _
    | escribir pid dir datos => exact espera_codigo _
  | cpu cpuId =>
    cases llamada with
    | leer pid dir tam => exact attempt_bind_nil (espera_codigo _) _
    | escribir pid dir datos => exact espera_codigo _

/-! ## Runs -/

theorem implementa_stick [Recepcion] (tamanio : UInt32) :
    Implements protocoloStick MemoryStick.operar (fun stick ↦ stick.tamanio = tamanio)
      (fun _ ↦ LlamadaStick.Dentro tamanio) := by
  apply implements_ofReaders
  · exact fun _ ↦ stable_leerLlamadaStick
  · exact stable_hearReply stable_recibirStick
  · exact fun stick llamada word _ hdentro henvia ↦ reads_leerLlamadaStick hdentro henvia
  · intro stick llamada word htamanio hdentro henvia
    rw [← htamanio] at hdentro
    obtain ⟨respuesta, hatiende, hrecibe⟩ := atenderLlamada_como_operar hdentro henvia
    exact ⟨respuesta, hatiende, fun cliente ↦ reads_hearReply (hrecibe cliente)⟩
  · exact fun _ _ notice ↦ notice.elim
  · exact fun stick llamada htamanio _ ↦ (tamanio_operar stick llamada).trans htamanio
  · exact fun _ _ _ _ hdentro _ ↦ hdentro

theorem esperan_stick [Recepcion] : protocoloStick.Waits := by
  apply waits_ofReaders
  · exact fun _ ↦ espera_codigo _
  · exact waits_hearReply espera_recibirStick

/-- A stick and all its clients. -/
abbrev SistemaStick : Type := System UInt8 ClienteStick MemoryStick LlamadaStick RespuestaStick Empty

/-- Calls inside the buffer of a stick, of Kernel Memory and of any CPUs at once. -/
abbrev StickCompartido [Recepcion] (inicial : MemoryStick) (s : SistemaStick) : Prop :=
  Reachable (System.step protocoloStick) (System.Initial inicial)
    (System.Allowed (fun _ ↦ LlamadaStick.Dentro inicial.tamanio) System.Alone) s

/-- However their requests and the replies cross, all clients see one memory that is read and written by one call
after another. -/
theorem llamadasStick_como_locales [Recepcion] (inicial : MemoryStick) (s : SistemaStick)
    (h : StickCompartido inicial s) : s.AsLocal protocoloStick MemoryStick.operar inicial := by
  apply asLocal_of_reachable (implementa_stick inicial.tamanio) esperan_stick _ _ h
  · exact fun _ _ hmay ↦ hmay.elim
  · rfl

section Muestra

local instance recepcionDelStick : Recepcion := recepcionTipica

def sistemaStickInicial (inicial : MemoryStick) : SistemaStick :=
  ⟨inicial, fun _ ↦ .idle, [], fun _ ↦ [], fun _ ↦ [], fun _ ↦ []⟩

/-- A CPU reads what Kernel Memory has not written yet when it asks, and another asks for the same later and is
served first. -/
theorem llamadasStick_como_locales_cruzadas : ∃ s : SistemaStick, StickCompartido (procesoDe 16).stick s ∧
    s.returned (.cpu 0) = [(.leer 1 4 3, .leido (some [0, 7, 8]))] ∧
    s.returned (.cpu 1) = [(.leer 2 4 3, .leido (some [0, 0, 0]))] ∧
    s.AsLocal protocoloStick MemoryStick.operar (procesoDe 16).stick := by
  have hinicio : StickCompartido (procesoDe 16).stick (sistemaStickInicial (procesoDe 16).stick) :=
    .start ⟨rfl, rfl, fun _ ↦ ⟨rfl, rfl, rfl, rfl⟩⟩
  obtain ⟨s, hs, hcero, huno⟩ := hinicio.exists_of_runAllowed
    [.call (.cpu 0) (.leer 1 4 3), .call .kernelMemory (.escribir 1 5 [7, 8]), .call (.cpu 1) (.leer 2 4 3),
      .deliverUp (.cpu 0) 11, .deliverUp (.cpu 1) 30, .serve (.cpu 1), .deliverUp .kernelMemory 30,
      .serve .kernelMemory, .deliverUp (.cpu 0) 30, .serve (.cpu 0), .deliverDown (.cpu 0) 30,
      .deliverDown (.cpu 1) 30, .receive (.cpu 0), .receive (.cpu 1)]
    (fun s ↦ s.returned (.cpu 0) = [(.leer 1 4 3, .leido (some [0, 7, 8]))] ∧
      s.returned (.cpu 1) = [(.leer 2 4 3, .leido (some [0, 0, 0]))])
    (by decide +kernel)
  exact ⟨s, hs, hcero, huno, llamadasStick_como_locales (procesoDe 16).stick s hs⟩

end Muestra

end PlugAndPlay.Memoria
