import PlugAndPlay.Red.Mensajes

/-!
# The wire format round-trips

Every sender of the protocol and the receiver that matches it agree on the fields, so the frames of any
sequence of messages on one stream are read back one after the other, to the end of the stream.
-/

open PlugAndPlay.Library.StreamReader PlugAndPlay.Memoria

namespace PlugAndPlay.Red

/-! ## Senders and receivers -/

/-- The packet of a sender, the receiver that matches it after the operation code, called with the length
that was sent where it takes one, and the values that it has to obtain. Where the data come after other fields there
are some: `recv` of no bytes waits for the next message. -/
inductive Corresponde [Recepcion] : {α : Type} → Paquete → Lector α → α → Prop
  | obtenerInstruccion (pid : Int32) (pc : UInt32) :
    Corresponde (enviarObtenerInstruccion pid pc) leerObtenerInstruccion (pid, pc)
  | instruccion (linea : Cadena) : Corresponde (respuestaInstruccion linea) recibirInstruccion linea
  | solicitarContexto (pid : Int32) :
    Corresponde (enviarSolicitarContexto pid) leerSolicitarContexto pid
  | contextoProceso (registros : Registros) (segmentos : List Segmento) :
    Corresponde (enviarContextoProceso registros segmentos) recibirContexto (registros, segmentos)
  | actualizarContexto (pid : UInt32) (registros : Registros) (segmentos : List Segmento) :
    Corresponde (enviarActualizarContexto pid registros segmentos) recibirContextoActualizar
      (pid, registros, segmentos)
  | crearProceso (pid : Int32) (path : Cadena) :
    Corresponde (enviarCrearProceso pid path) recibirCrearProceso (pid, path)
  | pid (pid : Int32) : Corresponde (enviarPid pid) recibirPid pid
  | interrupcion (pid motivo : Int32) :
    Corresponde (enviarInterrupcion pid motivo) recibirInterrupcion (pid, motivo)
  | devolverProceso (pid motivo : Int32) (syscall : Option Syscall)
      (h : syscall.isSome ↔ motivo = motivoSyscall) :
    Corresponde (enviarDevolverProceso pid motivo syscall) recibirDevolverProceso (pid, motivo, syscall)
  | lecturaMemoria (pid : Int32) (dirLogica tamanio : UInt32) :
    Corresponde (enviarLecturaMemoria pid dirLogica tamanio) leerLecturaMemoria (pid, dirLogica, tamanio)
  | escrituraMemoria (pid : Int32) (dirLogica : UInt32) (datos : List UInt8) (h : datos ≠ []) :
    Corresponde (enviarEscrituraMemoria pid dirLogica datos) leerEscrituraMemoria (pid, dirLogica, datos)
  | datosMemoria (datos : List UInt8) :
    Corresponde (respuestaLectura datos) (recibirDatosMemoria datos.length) datos
  | obtenerEspacioLibre : Corresponde enviarObtenerEspacioLibre leerObtenerEspacioLibre ()
  | espacioLibre (espacio : UInt32) :
    Corresponde (respuestaEspacioLibre espacio) recibirEspacioLibre espacio
  | handshakeSchedulerAMemory : Corresponde enviarHandshakeSchedulerAMemory recibirOk ()
  | handshakeCpu (cpuId : Int32) : Corresponde (enviarHandshakeCpu cpuId) recibirHandshakeCpu cpuId
  | handshakeIo (nombre : Cadena) : Corresponde (enviarHandshakeIo nombre) recibirHandshakeIo nombre
  | handshakeSwap (blockSize totalSize : UInt32) :
    Corresponde (enviarHandshakeSwap blockSize totalSize) recibirHandshakeSwap (blockSize, totalSize)
  | handshakeMemoryStick (memorySize : UInt32) (ip puerto : Cadena) :
    Corresponde (enviarHandshakeMemoryStick memorySize ip puerto) recibirHandshakeMemoryStick
      (memorySize, ip, puerto)
  | lecturaFisica (pid : Int32) (dirFisica tamanio : UInt32) :
    Corresponde (enviarLecturaFisica pid dirFisica tamanio) leerLecturaFisica (pid, dirFisica, tamanio)
  | escrituraFisica (pid : Int32) (dirFisica : UInt32) (datos : List UInt8) (h : datos ≠ []) :
    Corresponde (enviarEscrituraFisica pid dirFisica datos) leerEscrituraFisica (pid, dirFisica, datos)
  | nuevaMemoriaDisponible (tamanio baseFisica : UInt32) (ip puerto : Cadena) :
    Corresponde (enviarNuevaMemoriaDisponible tamanio baseFisica ip puerto) recibirNuevaMemoriaDisponible
      (tamanio, baseFisica, ip, puerto)
  | configMmuCpu (segmentMaxSize : UInt32) :
    Corresponde (enviarConfigMmuCpu segmentMaxSize) recibirConfigMmuCpu segmentMaxSize
  | memoriaCorrupta : Corresponde enviarMemoriaCorrupta recibirOk ()
  | memoriaLiberada : Corresponde enviarMemoriaLiberada recibirOk ()
  | escrituraBloqueSwap (bloque : UInt32) (data : List UInt8) (h : data ≠ []) :
    Corresponde (enviarEscrituraBloqueSwap bloque data) (recibirEscrituraBloqueSwap data.length)
      (bloque, data)
  | lecturaBloqueSwap (bloque : UInt32) :
    Corresponde (enviarLecturaBloqueSwap bloque) recibirLecturaBloqueSwap bloque
  | ioSleep (pid tiempoMs : Int32) : Corresponde (enviarIoSleep pid tiempoMs) leerIoSleep (pid, tiempoMs)
  | ioStdin (pid size : Int32) : Corresponde (enviarIoStdin pid size) leerIoStdin (pid, size)
  | ioStdout (pid : Int32) (datos : List UInt8) (h : datos ≠ []) :
    Corresponde (enviarIoStdout pid datos) leerIoStdout (pid, datos)
  | finIo (pid : Int32) : Corresponde (enviarFinIo pid) recibirFinIo pid
  | datosStdin (pid : Int32) (datos : List UInt8) (h : datos ≠ []) :
    Corresponde (enviarDatosStdin pid datos) (recibirDatosStdin datos.length) (pid, datos)
  | suspenderProceso (pid : Int32) :
    Corresponde (enviarSuspenderProceso pid) recibirSuspenderProceso pid
  | desSuspenderProceso (pid : Int32) :
    Corresponde (enviarDesSuspenderProceso pid) recibirDesSuspenderProceso pid
  | solicitarSegmento (pid : Int32) (idSegmento tamanio : UInt32) :
    Corresponde (enviarSolicitarSegmento pid idSegmento tamanio) leerSolicitarSegmento
      (pid, idSegmento, tamanio)
  | respuestaSegmento (idSegmento base tamanio : UInt32) :
    Corresponde (respuestaSegmento idSegmento base tamanio) recibirRespuestaSegmento
      (idSegmento, base, tamanio)
  | eliminarSegmento (pid : Int32) (idSegmento : UInt32) :
    Corresponde (enviarEliminarSegmento pid idSegmento) leerEliminarSegmento (pid, idSegmento)
  | finalizarProceso (pid : Int32) :
    Corresponde (enviarFinalizarProcesoMemory pid) leerFinalizarProceso pid
  | ok (codigo : OpCode) : Corresponde (enviarOk codigo) recibirOk ()

/-- The answers of the swap process, whose receivers take the operation code themselves. The data of a failed
read is not sent. -/
inductive CorrespondeSwap [Recepcion] : {α : Type} → Paquete → Lector α → α → Prop
  | resultado (status : Int32) : CorrespondeSwap (enviarResultadoSwap status) recibirResultadoSwap status
  | bloque (status : Int32) (data : List UInt8) (h : status = 0 → data ≠ []) :
    CorrespondeSwap (enviarBloqueSwap status data) (recibirBloqueSwap data.length)
      (status, if status = 0 then some data else none)

/-! ## One message -/

theorem serializarPaquete_eq (paquete : Paquete) :
    serializarPaquete paquete = deUint32 paquete.codigo.valor ++
      (littleEndian 8 paquete.stream.length ++ paquete.stream) := by
  simp [serializarPaquete]

theorem length_le_stream {paquete : Paquete} {bytes : List UInt8} (h : bytes ∈ paquete.campos) :
    bytes.length ≤ paquete.stream.length :=
  (List.sublist_flatten_of_mem h).length_le

@[simp] theorem length_deUint32 (valor : UInt32) : (deUint32 valor).length = 4 := length_littleEndian 4 _

@[simp] theorem length_deInt (valor : Int32) : (deInt valor).length = 4 := length_littleEndian 4 _

@[simp] theorem length_deRegistros (regs : Registros) : (deRegistros regs).length = 32 := by
  simp [deRegistros]

@[simp] theorem length_deCadena (cadena : Cadena) :
    (deCadena cadena).length = cadena.bytes.length + 5 := by
  simp only [deCadena, List.flatten_cons, List.flatten_nil, List.length_append, length_deInt,
    List.length_cons, List.length_nil]
  omega

@[simp] theorem length_deSegmento (seg : Segmento) : (deSegmento seg).length = 16 := by
  simp only [deSegmento, List.flatten_cons, List.flatten_nil, List.length_append, length_deUint32,
    List.length_nil]

/-- A string of a packet that can be sent has an `int` as its length. -/
theorem reads_cadena_de {paquete : Paquete} (hcabe : CabeEnTrama paquete.stream.length) {cadena : Cadena}
    (h : deCadena cadena ∈ paquete.campos) : Reads recibirCadena (deCadena cadena) cadena := by
  apply reads_cadena
  have hle := length_le_stream h
  rw [length_deCadena] at hle
  unfold CabeEnTrama at hcabe
  omega

/-- A counted list at the end of a packet. -/
theorem reads_lista {α β : Type} {lector : Lector α} {bytes : α → List UInt8} {items : List α} {final : β}
    {siguiente : List α → Lector β} (hcantidad : items.length < 2 ^ 31)
    (hlector : ∀ item ∈ items, Reads lector (bytes item) item)
    (hfin : Reads (siguiente items) [] final) :
    Reads (do
        let cantidad ← recvInt
        let leidos ← inOrder (List.replicate cantidad.toInt.toNat lector)
        siguiente leidos)
      (deInt (Int32.ofNat items.length) :: items.map bytes).flatten final := by
  apply campo (reads_int _)
  rw [toInt_toNat_ofNat hcantidad]
  have hitems := (reads_replicate items hlector).bind hfin
  rwa [List.append_nil] at hitems

theorem length_segmentos (segmentos : List Segmento) :
    (segmentos.map deSegmento).flatten.length = 16 * segmentos.length := by
  induction segmentos with
  | nil => rfl
  | cons seg segmentos ih =>
    rw [List.map_cons, List.flatten_cons, List.length_append, ih, length_deSegmento, List.length_cons]
    omega

theorem length_params_le (params : List Cadena) :
    params.length ≤ (params.map deCadena).flatten.length := by
  induction params with
  | nil => exact le_rfl
  | cons cadena params ih =>
    rw [List.map_cons, List.flatten_cons, List.length_append, List.length_cons, length_deCadena]
    omega

/-! The layouts that several messages share. -/

theorem unCampo {α : Type} {lector : Lector α} {bytes : List UInt8} {valor : α}
    (h : Reads lector bytes valor) : Reads lector [bytes].flatten valor := by
  rwa [List.flatten_singleton]

theorem length_escritura (pid : Int32) (dir : UInt32) (datos : List UInt8) :
    (paqueteEscritura pid dir datos).stream.length = largoPedidoEscritura + datos.length := by
  simp only [Paquete.stream, paqueteEscritura, List.flatten_cons, List.flatten_nil, List.length_append, length_deInt,
    length_deUint32, List.length_nil, largoPedidoEscritura]
  omega

theorem reads_dosInt (primero segundo : Int32) :
    Reads dosInt [deInt primero, deInt segundo].flatten (primero, segundo) :=
  campo (reads_int primero) (campo (reads_int segundo) (sinCampos _))

theorem recibe_pedidoIo {codigo : OpCode} {primero segundo : Int32} :
    Recibe leerPedidoIo (paqueteDosInt codigo primero segundo) (primero, segundo) := by
  have hsize : (paqueteDosInt codigo primero segundo).stream.length < 2 ^ 64 := by
    simp [Paquete.stream, paqueteDosInt]
  exact (reads_size hsize).bind (reads_dosInt primero segundo)

theorem recibe_ioStdout {pid : Int32} {datos : List UInt8} (hdatos : datos ≠ [])
    (hcabe : CabeEnTrama (enviarIoStdout pid datos).stream.length) :
    Recibe leerIoStdout (enviarIoStdout pid datos) (pid, datos) := by
  have hlargo : (enviarIoStdout pid datos).stream.length = datos.length + 4 := by
    simp only [Paquete.stream, enviarIoStdout, List.flatten_cons, List.flatten_nil, List.length_append,
      length_deInt, List.length_nil]
    omega
  have hsize : (enviarIoStdout pid datos).stream.length < 2 ^ 64 := by
    unfold CabeEnTrama at hcabe
    omega
  apply (reads_size hsize).bind
  apply campo (reads_int pid)
  rw [hlargo, Nat.add_sub_cancel]
  exact campo (reads_recv hdatos) (sinCampos _)

/-- The operation code, and then a receiver. -/
theorem Recibe.conCodigo {α β : Type} {paquete : Paquete} {lector : Lector α} {valor : α}
    {siguiente : UInt32 → α → β} (h : Recibe lector paquete valor) :
    Reads (do
        let codigo ← recibirCodigoOperacion
        let leido ← lector
        pure (siguiente codigo leido))
      (serializarPaquete paquete) (siguiente paquete.codigo.valor valor) := by
  rw [serializarPaquete_eq]
  exact (reads_uint32 paquete.codigo.valor).bind h.last

section Formas

variable [Recepcion] {codigo : OpCode}

/-! A payload of a few numbers always arrives. -/

theorem llega_int (valor : Int32) : Llega (paqueteInt codigo valor).stream.length := by
  apply llega_of_le <;> simp [Paquete.stream, paqueteInt]

theorem llega_uint32 (valor : UInt32) : Llega (paqueteUint32 codigo valor).stream.length := by
  apply llega_of_le <;> simp [Paquete.stream, paqueteUint32]

theorem llega_intUint32 (pid : Int32) (valor : UInt32) :
    Llega (paqueteIntUint32 codigo pid valor).stream.length := by
  apply llega_of_le <;> simp [Paquete.stream, paqueteIntUint32]

theorem llega_intDosUint32 (pid : Int32) (primero segundo : UInt32) :
    Llega (paqueteIntDosUint32 codigo pid primero segundo).stream.length := by
  apply llega_of_le <;> simp [Paquete.stream, paqueteIntDosUint32]

theorem llega_ok (codigo : OpCode) : Llega (enviarOk codigo).stream.length := llega_int (-1)

theorem recibe_int {valor : Int32} : Recibe leerInt (paqueteInt codigo valor) valor :=
  recibe_validado (llega_int valor) (unCampo (reads_int valor))

theorem recibe_uint32 {valor : UInt32} : Recibe leerUint32 (paqueteUint32 codigo valor) valor :=
  recibe_validado (llega_uint32 valor) (unCampo (reads_uint32 valor))

theorem recibe_ok : Recibe recibirOk (enviarOk codigo) () :=
  recibe_validado (llega_ok codigo) (campo (reads_int (-1)) (sinCampos ()))

theorem recibe_intUint32 {pid : Int32} {valor : UInt32} :
    Recibe leerIntUint32 (paqueteIntUint32 codigo pid valor) (pid, valor) :=
  recibe_validado (llega_intUint32 pid valor) (campo (reads_int pid) (campo (reads_uint32 valor) (sinCampos _)))

theorem recibe_intDosUint32 {pid : Int32} {primero segundo : UInt32} :
    Recibe leerIntDosUint32 (paqueteIntDosUint32 codigo pid primero segundo) (pid, primero, segundo) :=
  recibe_validado (llega_intDosUint32 pid primero segundo) (campo (reads_int pid) (campo (reads_uint32 primero)
    (campo (reads_uint32 segundo) (sinCampos _))))

theorem recibe_cadena {cadena : Cadena} (hllega : Llega (paqueteCadena codigo cadena).stream.length) :
    Recibe leerCadena (paqueteCadena codigo cadena) cadena :=
  recibe_validado hllega (unCampo (reads_cadena_de hllega.cabe List.mem_cons_self))

/-- A write announces as many bytes as it sends: the number has 32 bits. -/
theorem recibe_escritura {pid : Int32} {dir : UInt32} {datos : List UInt8} (hdatos : datos ≠ [])
    (hllega : Llega (paqueteEscritura pid dir datos).stream.length) :
    Recibe leerEscritura (paqueteEscritura pid dir datos) (pid, dir, datos) := by
  have hlargo : datos.length ≤ (paqueteEscritura pid dir datos).stream.length :=
    length_le_stream (by simp [paqueteEscritura])
  have htamanio : (UInt32.ofNat datos.length).toNat = datos.length := by
    have hcabe := hllega.cabe
    unfold CabeEnTrama at hcabe
    apply UInt32.toNat_ofNat_of_lt'
    show _ < 2 ^ 32
    omega
  apply recibe_validado hllega
  apply campo (reads_int pid)
  apply campo (reads_uint32 dir)
  apply campo (reads_uint32 _)
  rw [htamanio]
  exact campo (reads_recv hdatos) (sinCampos _)

end Formas

section Recepcion

variable [Recepcion]

theorem recibe_contexto {registros : Registros} {segmentos : List Segmento}
    (hllega : Llega (enviarContextoProceso registros segmentos).stream.length) :
    Recibe recibirContexto (enviarContextoProceso registros segmentos) (registros, segmentos) := by
  have hcantidad : segmentos.length < 2 ^ 31 := by
    have hcabe := hllega.cabe
    have hlargo := length_segmentos segmentos
    simp only [CabeEnTrama, Paquete.stream, enviarContextoProceso, List.flatten_cons,
      List.length_append] at hcabe
    omega
  apply recibe_validado hllega
  apply campo (reads_registros registros)
  exact reads_lista hcantidad (fun seg _ ↦ reads_segmento seg) (reads_pure _)

theorem recibe_contextoActualizar {pid : UInt32} {registros : Registros} {segmentos : List Segmento}
    (hllega : Llega (enviarActualizarContexto pid registros segmentos).stream.length) :
    Recibe recibirContextoActualizar (enviarActualizarContexto pid registros segmentos)
      (pid, registros, segmentos) := by
  have hcantidad : segmentos.length < 2 ^ 31 := by
    have hcabe := hllega.cabe
    have hlargo := length_segmentos segmentos
    simp only [CabeEnTrama, Paquete.stream, enviarActualizarContexto, List.flatten_cons,
      List.length_append] at hcabe
    omega
  apply recibe_validado hllega
  apply campo (reads_uint32 pid)
  apply campo (reads_registros registros)
  exact reads_lista hcantidad (fun seg _ ↦ reads_segmento seg) (reads_pure _)

/-- The name and the parameters are there exactly when the reader looks for them. -/
theorem recibe_devolverProceso {pid motivo : Int32} {syscall : Option Syscall}
    (hmotivo : syscall.isSome ↔ motivo = motivoSyscall)
    (hllega : Llega (enviarDevolverProceso pid motivo syscall).stream.length) :
    Recibe recibirDevolverProceso (enviarDevolverProceso pid motivo syscall) (pid, motivo, syscall) := by
  apply recibe_validado hllega
  apply campo (reads_int pid)
  apply campo (reads_int motivo)
  cases syscall with
  | none =>
    have hotro : motivo ≠ motivoSyscall := fun h ↦ Bool.false_ne_true (hmotivo.mpr h)
    rw [if_pos hotro]
    exact sinCampos _
  | some syscall =>
    have hmismo : ¬ motivo ≠ motivoSyscall := not_not.mpr (hmotivo.mp rfl)
    rw [if_neg hmismo]
    have hcantidad : syscall.params.length < 2 ^ 31 := by
      have hcabe := hllega.cabe
      have hlargo := length_params_le syscall.params
      simp only [CabeEnTrama, Paquete.stream, enviarDevolverProceso, List.flatten_cons,
        List.length_append] at hcabe
      omega
    have hparams : ∀ cadena ∈ syscall.params, Reads recibirCadena (deCadena cadena) cadena := by
      intro cadena hcadena
      apply reads_cadena_de hllega.cabe
      simp only [enviarDevolverProceso, List.mem_cons]
      exact Or.inr (Or.inr (Or.inr (Or.inr (List.mem_map_of_mem hcadena))))
    apply campo (reads_cadena_de hllega.cabe (by simp [enviarDevolverProceso]))
    exact reads_lista hcantidad hparams (reads_pure _)

/-- Every receiver takes exactly the frame of its sender and obtains the values that were sent. -/
theorem Corresponde.recibe {α : Type} {paquete : Paquete} {lector : Lector α} {valor : α}
    (h : Corresponde paquete lector valor) (hllega : Llega paquete.stream.length) :
    Recibe lector paquete valor := by
  cases h with
  | solicitarContexto | pid | handshakeCpu | finIo | suspenderProceso | desSuspenderProceso
  | finalizarProceso => exact recibe_int
  | espacioLibre | configMmuCpu | lecturaBloqueSwap => exact recibe_uint32
  | obtenerInstruccion | eliminarSegmento => exact recibe_intUint32
  | lecturaMemoria | lecturaFisica | solicitarSegmento => exact recibe_intDosUint32
  | escrituraMemoria _ _ _ hdatos | escrituraFisica _ _ _ hdatos => exact recibe_escritura hdatos hllega
  | instruccion | handshakeIo => exact recibe_cadena hllega
  | handshakeSchedulerAMemory | memoriaCorrupta | memoriaLiberada | ok => exact recibe_ok
  | ioSleep | ioStdin => exact recibe_pedidoIo
  | interrupcion pid motivo => exact recibe_validado hllega (reads_dosInt pid motivo)
  | contextoProceso => exact recibe_contexto hllega
  | actualizarContexto => exact recibe_contextoActualizar hllega
  | devolverProceso _ _ _ hmotivo => exact recibe_devolverProceso hmotivo hllega
  | ioStdout _ _ hdatos => exact recibe_ioStdout hdatos hllega.cabe
  | crearProceso pid path =>
    apply recibe_validado hllega
    apply campo (reads_int pid)
    exact campo (reads_cadena_de hllega.cabe (by simp [enviarCrearProceso])) (sinCampos _)
  | datosMemoria datos =>
    have hdatos : datos ≠ [] := by
      rintro rfl
      exact absurd hllega.1 (Nat.lt_irrefl 0)
    exact recibe_validado hllega (unCampo (reads_recv hdatos))
  | obtenerEspacioLibre => exact recibe_validado hllega (sinCampos ())
  | handshakeSwap blockSize totalSize =>
    apply recibe_validado hllega
    exact campo (reads_uint32 blockSize) (campo (reads_uint32 totalSize) (sinCampos _))
  | handshakeMemoryStick memorySize ip puerto =>
    apply recibe_validado hllega
    apply campo (reads_uint32 memorySize)
    apply campo (reads_cadena_de hllega.cabe (by simp [enviarHandshakeMemoryStick]))
    exact campo (reads_cadena_de hllega.cabe (by simp [enviarHandshakeMemoryStick])) (sinCampos _)
  | nuevaMemoriaDisponible tamanio baseFisica ip puerto =>
    apply recibe_validado hllega
    apply campo (reads_uint32 tamanio)
    apply campo (reads_uint32 baseFisica)
    apply campo (reads_cadena_de hllega.cabe (by simp [enviarNuevaMemoriaDisponible]))
    exact campo (reads_cadena_de hllega.cabe (by simp [enviarNuevaMemoriaDisponible])) (sinCampos _)
  | escrituraBloqueSwap bloque data hdata =>
    apply recibe_validado hllega
    exact campo (reads_uint32 bloque) (campo (reads_recv hdata) (sinCampos _))
  | datosStdin pid datos hdatos =>
    apply recibe_validado hllega
    exact campo (reads_int pid) (campo (reads_recv hdatos) (sinCampos _))
  | respuestaSegmento idSegmento base tamanio =>
    apply recibe_validado hllega
    apply campo (reads_uint32 idSegmento)
    exact campo (reads_uint32 base) (campo (reads_uint32 tamanio) (sinCampos _))

/-! ## Streams -/

/-- One message on the stream: what is sent, how a frame is read, and what the reading has to obtain. -/
structure Intercambio where
  α : Type
  paquete : Paquete
  lector : Lector α
  valor : α

/-- The reader takes the operation code and calls the receiver that matches; the receivers of the answers of
the swap process take it themselves. -/
inductive Intercambio.Valido : Intercambio → Prop
  | conCodigo {α : Type} {paquete : Paquete} {lector : Lector α} {valor : α} :
    Corresponde paquete lector valor →
      Valido ⟨UInt32 × α, paquete, do
        let codigo ← recibirCodigoOperacion
        let valor ← lector
        pure (codigo, valor), (paquete.codigo.valor, valor)⟩
  | swap {α : Type} {paquete : Paquete} {lector : Lector α} {valor : α} :
    CorrespondeSwap paquete lector valor → Valido ⟨α, paquete, lector, valor⟩

/-- The frames of the packets back to back; nothing if one of them cannot be sent. -/
def enviarTodos : List Paquete → Option (List UInt8)
  | [] => some []
  | paquete :: resto => do
    let trama ← enviarPaquete paquete
    let tramas ← enviarTodos resto
    pure (trama ++ tramas)

/-- Reading message after message, each one without an abort and with the values that were sent, from the
first stream to the second. -/
inductive LeeTodos : List Intercambio → List UInt8 → List UInt8 → Prop
  | fin (stream : List UInt8) : LeeTodos [] stream stream
  | mensaje {intercambio : Intercambio} {resto : List Intercambio} {stream siguiente final : List UInt8} :
    intercambio.lector stream = .ok (intercambio.valor, siguiente) → LeeTodos resto siguiente final →
      LeeTodos (intercambio :: resto) stream final

/-- A block goes with the status zero only, and only then it is looked for. -/
theorem reads_bloqueSwap {status : Int32} {data : List UInt8} (hdata : status = 0 → data ≠ [])
    (hllega : Llega (enviarBloqueSwap status data).stream.length) :
    Reads (recibirBloqueSwap data.length) (serializarPaquete (enviarBloqueSwap status data))
      (status, if status = 0 then some data else none) := by
  rw [serializarPaquete_eq]
  apply (reads_uint32 _).bind
  apply recibe_validado hllega
  apply campo (reads_int status)
  by_cases hstatus : status = 0
  · have hlargo : 0 < data.length := List.length_pos_iff.mpr (hdata hstatus)
    rw [if_neg (not_not.mpr hstatus), if_pos hstatus, if_pos ⟨hstatus, hlargo⟩, List.flatten_singleton]
    exact (reads_recv (hdata hstatus)).last
  · rw [if_pos hstatus, if_neg hstatus, if_neg fun h ↦ hstatus h.1]
    exact sinCampos _

theorem Intercambio.Valido.reads {intercambio : Intercambio} (h : intercambio.Valido)
    (hllega : Llega intercambio.paquete.stream.length) :
    Reads intercambio.lector (serializarPaquete intercambio.paquete) intercambio.valor := by
  cases h with
  | conCodigo h => exact (h.recibe hllega).conCodigo
  | swap h =>
    cases h with
    | resultado status =>
      rw [serializarPaquete_eq]
      exact (reads_uint32 _).bind recibe_int
    | bloque status data hdata => exact reads_bloqueSwap hdata hllega

/-- The frames of any sequence of messages are read back in order, up to the end of the stream. -/
theorem mensajes_ida_y_vuelta (intercambios : List Intercambio)
    (hvalidos : ∀ intercambio ∈ intercambios, intercambio.Valido)
    (hllega : ∀ intercambio ∈ intercambios, Llega intercambio.paquete.stream.length) :
    ∃ stream, enviarTodos (intercambios.map Intercambio.paquete) = some stream ∧
      LeeTodos intercambios stream [] := by
  induction intercambios with
  | nil => exact ⟨[], rfl, .fin []⟩
  | cons intercambio resto ih =>
    obtain ⟨hvalido, hvalidosResto⟩ := List.forall_mem_cons.mp hvalidos
    obtain ⟨hllegaEste, hllegaResto⟩ := List.forall_mem_cons.mp hllega
    obtain ⟨tramas, htramas, hlee⟩ := ih hvalidosResto hllegaResto
    have htrama : enviarPaquete intercambio.paquete = some (serializarPaquete intercambio.paquete) :=
      if_pos hllegaEste.cabe
    refine ⟨serializarPaquete intercambio.paquete ++ tramas, ?_, ?_⟩
    · rw [List.map_cons, enviarTodos, htrama, htramas]
      rfl
    · exact .mensaje (hvalido.reads hllegaEste tramas) hlee

end Recepcion

section Muestra

local instance recepcionDeMuestra : Recepcion := recepcionTipica

/-- A process that is resumed with its context, writes to memory and comes back with a system call, and a
block of the swap file that could not be read. -/
def intercambiosDeMuestra : List Intercambio :=
  [⟨_, enviarContextoProceso .cero [⟨0, 16, 8, 0⟩], do
      let codigo ← recibirCodigoOperacion
      let valor ← recibirContexto
      pure (codigo, valor), (OpCode.obtenerContexto.valor, (.cero, [⟨0, 16, 8, 0⟩]))⟩,
    ⟨_, enviarEscrituraMemoria 3 4 [65, 0, 66], do
      let codigo ← recibirCodigoOperacion
      let valor ← leerEscrituraMemoria
      pure (codigo, valor), (OpCode.escrituraMemoria.valor, (3, 4, [65, 0, 66]))⟩,
    ⟨_, enviarDevolverProceso 3 motivoSyscall (some ⟨⟨[83], by simp⟩, [⟨[49, 48], by simp⟩]⟩), do
      let codigo ← recibirCodigoOperacion
      let valor ← recibirDevolverProceso
      pure (codigo, valor), (OpCode.devolverProceso.valor,
        (3, motivoSyscall, some ⟨⟨[83], by simp⟩, [⟨[49, 48], by simp⟩]⟩))⟩,
    ⟨_, enviarBloqueSwap (-1) [7, 7], recibirBloqueSwap 2, (-1, none)⟩]

theorem mensajes_ida_y_vuelta_muestra :
    ∃ stream, enviarTodos (intercambiosDeMuestra.map Intercambio.paquete) = some stream ∧
      LeeTodos intercambiosDeMuestra stream [] := by
  apply mensajes_ida_y_vuelta intercambiosDeMuestra
  · intro intercambio h
    simp only [intercambiosDeMuestra, List.mem_cons, List.not_mem_nil, or_false] at h
    rcases h with rfl | rfl | rfl | rfl
    · exact .conCodigo (.contextoProceso _ _)
    · exact .conCodigo (.escrituraMemoria _ _ _ (List.cons_ne_nil _ _))
    · exact .conCodigo (.devolverProceso _ _ _ (by decide))
    · exact .swap (.bloque (-1) [7, 7] fun _ ↦ List.cons_ne_nil _ _)
  · decide

theorem length_bloque (data : List UInt8) :
    (enviarEscrituraBloqueSwap 0 data).stream.length = 4 + data.length := by
  simp only [Paquete.stream, enviarEscrituraBloqueSwap, List.flatten_cons, List.flatten_nil, List.length_append,
    length_deUint32, List.length_nil, Nat.add_zero]

/-- Four ways in which a message does not come back. After the operation code was taken,
`recibir_resultado_swap` reads the size as another one and aborts on the rest. A payload of less than `2 ^ 31`
bytes need not fit into a frame. One that does may be longer than the receive buffer, and of one without bytes the
receiver waits for the next message. -/
theorem formato_no_uniforme :
    (do
      let codigo ← recibirCodigoOperacion
      let status ← recibirResultadoSwap
      pure (codigo, status) : Lector (UInt32 × Int32)) (serializarPaquete (enviarResultadoSwap (-1))) =
        .error .aborto ∧
    (∃ data, (enviarEscrituraBloqueSwap 0 data).stream.length = 2147483647 ∧
      enviarPaquete (enviarEscrituraBloqueSwap 0 data) = none) ∧
    (∃ data, (enviarEscrituraBloqueSwap 0 data).stream.length = 131073 ∧
      validarBuffer ((serializarPaquete (enviarEscrituraBloqueSwap 0 data)).drop 4) = .error .sinLugar) ∧
    (do
      let codigo ← recibirCodigoOperacion
      let valor ← leerObtenerEspacioLibre
      pure (codigo, valor) : Lector (UInt32 × Unit)) (serializarPaquete enviarObtenerEspacioLibre) =
        .error .incompleto := by
  refine ⟨rfl, ?_, ?_, rfl⟩
  · obtain ⟨data, hdata⟩ : ∃ data : List UInt8, data.length = 2147483643 :=
      ⟨List.replicate 2147483643 0, List.length_replicate⟩
    have hlargo : (enviarEscrituraBloqueSwap 0 data).stream.length = 2147483647 := by
      rw [length_bloque, hdata]
    refine ⟨data, hlargo, if_neg ?_⟩
    rw [hlargo]
    decide
  · obtain ⟨data, hdata⟩ : ∃ data : List UInt8, data.length = 131069 :=
      ⟨List.replicate 131069 0, List.length_replicate⟩
    have hlargo : (enviarEscrituraBloqueSwap 0 data).stream.length = 131073 := by
      rw [length_bloque, hdata]
    have hsinLugar := validarBuffer_sinLugar (enviarEscrituraBloqueSwap 0 data)
      (by rw [hlargo]; decide) (by rw [hlargo]; decide) []
    rw [List.append_nil] at hsinLugar
    refine ⟨data, hlargo, ?_⟩
    rw [serializarPaquete_eq, List.drop_left' (length_deUint32 _)]
    exact hsinLugar

end Muestra

end PlugAndPlay.Red
