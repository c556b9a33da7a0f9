import PlugAndPlay.Red.Serializacion

/-!
# The messages of the protocol

`mensajes.c`, and the senders and receivers that other modules have for themselves: what each `enviar_*`
packs and what each `recibir_*` takes. Where a handler has no `recibir_*` of its own, its reader is what it
takes from its socket, and the name says which request it is for. Senders and receivers of the same fields
are one definition with parameters.
-/

open PlugAndPlay.Library.StreamReader PlugAndPlay.Memoria

namespace PlugAndPlay.Red

variable [Recepcion]

/-! ## Numbers -/

def paqueteInt (codigo : OpCode) (valor : Int32) : Paquete := ⟨codigo, [deInt valor]⟩

def leerInt : Lector Int32 := do
  validarBuffer
  recvInt

def enviarSolicitarContexto (pid : Int32) : Paquete := paqueteInt .obtenerContexto pid

/-- `manejar_obtener_contexto_cpu`. -/
def leerSolicitarContexto : Lector Int32 := leerInt

def enviarPid (pid : Int32) : Paquete := paqueteInt .ejecutarProceso pid

def recibirPid : Lector Int32 := leerInt

def enviarHandshakeCpu (cpuId : Int32) : Paquete := paqueteInt .handshakeCpu cpuId

def recibirHandshakeCpu : Lector Int32 := leerInt

def enviarFinIo (pid : Int32) : Paquete := paqueteInt .ioFinalizada pid

def recibirFinIo : Lector Int32 := leerInt

def enviarSuspenderProceso (pid : Int32) : Paquete := paqueteInt .suspenderProceso pid

def recibirSuspenderProceso : Lector Int32 := leerInt

def enviarDesSuspenderProceso (pid : Int32) : Paquete := paqueteInt .desSuspenderProceso pid

def recibirDesSuspenderProceso : Lector Int32 := leerInt

def enviarFinalizarProcesoMemory (pid : Int32) : Paquete := paqueteInt .finalizarProceso pid

/-- `manejar_finalizar_proceso`. -/
def leerFinalizarProceso : Lector Int32 := leerInt

def enviarResultadoSwap (status : Int32) : Paquete := paqueteInt .respuestaSwap status

/-- `recibir_resultado_swap` takes the operation code itself, and does not look at it. -/
def recibirResultadoSwap : Lector Int32 := do
  let _ ← recibirCodigoOperacion
  leerInt

def paqueteDosInt (codigo : OpCode) (primero segundo : Int32) : Paquete :=
  ⟨codigo, [deInt primero, deInt segundo]⟩

def dosInt : Lector (Int32 × Int32) := do
  let primero ← recvInt
  let segundo ← recvInt
  pure (primero, segundo)

def enviarInterrupcion (pid motivo : Int32) : Paquete := paqueteDosInt .interrupcion pid motivo

def recibirInterrupcion : Lector (Int32 × Int32) := do
  validarBuffer
  dosInt

def enviarIoSleep (pid tiempoMs : Int32) : Paquete := paqueteDosInt .ioSleep pid tiempoMs

def enviarIoStdin (pid size : Int32) : Paquete := paqueteDosInt .ioStdin pid size

/-- An IO device takes the size without a look at it. -/
def leerPedidoIo : Lector (Int32 × Int32) := do
  let _ ← recvSize
  dosInt

def leerIoSleep : Lector (Int32 × Int32) := leerPedidoIo

def leerIoStdin : Lector (Int32 × Int32) := leerPedidoIo

def paqueteIntUint32 (codigo : OpCode) (pid : Int32) (valor : UInt32) : Paquete :=
  ⟨codigo, [deInt pid, deUint32 valor]⟩

def leerIntUint32 : Lector (Int32 × UInt32) := do
  validarBuffer
  let pid ← recvInt
  let valor ← recvUint32
  pure (pid, valor)

def enviarObtenerInstruccion (pid : Int32) (pc : UInt32) : Paquete :=
  paqueteIntUint32 .obtenerInstruccion pid pc

/-- `manejar_obtener_instruccion`. -/
def leerObtenerInstruccion : Lector (Int32 × UInt32) := leerIntUint32

def enviarEliminarSegmento (pid : Int32) (idSegmento : UInt32) : Paquete :=
  paqueteIntUint32 .eliminarSegmento pid idSegmento

/-- `manejar_eliminar_segmento`. -/
def leerEliminarSegmento : Lector (Int32 × UInt32) := leerIntUint32

def paqueteIntDosUint32 (codigo : OpCode) (pid : Int32) (primero segundo : UInt32) : Paquete :=
  ⟨codigo, [deInt pid, deUint32 primero, deUint32 segundo]⟩

def leerIntDosUint32 : Lector (Int32 × UInt32 × UInt32) := do
  validarBuffer
  let pid ← recvInt
  let primero ← recvUint32
  let segundo ← recvUint32
  pure (pid, primero, segundo)

def enviarLecturaMemoria (pid : Int32) (dirLogica tamanio : UInt32) : Paquete :=
  paqueteIntDosUint32 .lecturaMemoria pid dirLogica tamanio

/-- `manejar_lectura_memoria`. -/
def leerLecturaMemoria : Lector (Int32 × UInt32 × UInt32) := leerIntDosUint32

def enviarLecturaFisica (pid : Int32) (dirFisica tamanio : UInt32) : Paquete :=
  paqueteIntDosUint32 .lecturaMemoria pid dirFisica tamanio

/-- `manejar_lectura` of a stick. -/
def leerLecturaFisica : Lector (Int32 × UInt32 × UInt32) := leerIntDosUint32

def enviarSolicitarSegmento (pid : Int32) (idSegmento tamanio : UInt32) : Paquete :=
  paqueteIntDosUint32 .solicitarSegmento pid idSegmento tamanio

/-- `manejar_solicitar_segmento`. -/
def leerSolicitarSegmento : Lector (Int32 × UInt32 × UInt32) := leerIntDosUint32

def paqueteUint32 (codigo : OpCode) (valor : UInt32) : Paquete := ⟨codigo, [deUint32 valor]⟩

def leerUint32 : Lector UInt32 := do
  validarBuffer
  recvUint32

def enviarConfigMmuCpu (segmentMaxSize : UInt32) : Paquete := paqueteUint32 .configMmuCpu segmentMaxSize

def recibirConfigMmuCpu : Lector UInt32 := leerUint32

def enviarLecturaBloqueSwap (bloque : UInt32) : Paquete := paqueteUint32 .lecturaBloqueSwap bloque

def recibirLecturaBloqueSwap : Lector UInt32 := leerUint32

/-- The answer of `manejar_obtener_espacio_libre`. -/
def respuestaEspacioLibre (espacio : UInt32) : Paquete := paqueteUint32 .obtenerEspacioLibre espacio

def recibirEspacioLibre : Lector UInt32 := leerUint32

def enviarObtenerEspacioLibre : Paquete := ⟨.obtenerEspacioLibre, []⟩

/-- `manejar_obtener_espacio_libre`. -/
def leerObtenerEspacioLibre : Lector Unit := do
  validarBuffer
  pure ()

def enviarHandshakeSwap (blockSize totalSize : UInt32) : Paquete :=
  ⟨.handshakeSwap, [deUint32 blockSize, deUint32 totalSize]⟩

def recibirHandshakeSwap : Lector (UInt32 × UInt32) := do
  validarBuffer
  let blockSize ← recvUint32
  let totalSize ← recvUint32
  pure (blockSize, totalSize)

/-- The answer of `manejar_solicitar_segmento`. -/
def respuestaSegmento (idSegmento base tamanio : UInt32) : Paquete :=
  ⟨.solicitarSegmento, [deUint32 idSegmento, deUint32 base, deUint32 tamanio]⟩

def recibirRespuestaSegmento : Lector (UInt32 × UInt32 × UInt32) := do
  validarBuffer
  let id ← recvUint32
  let base ← recvUint32
  let limite ← recvUint32
  pure (id, base, limite)

/-- `enviar_handshake_scheduler_a_memory`. -/
def enviarHandshakeSchedulerAMemory : Paquete := enviarOk .handshakeSchedulerAMemory

def enviarMemoriaCorrupta : Paquete := enviarOk .memoriaCorruptaBsod

def enviarMemoriaLiberada : Paquete := enviarOk .memoriaLiberada

/-! ## Strings -/

def paqueteCadena (codigo : OpCode) (cadena : Cadena) : Paquete := ⟨codigo, [deCadena cadena]⟩

def leerCadena : Lector Cadena := do
  validarBuffer
  recibirCadena

def enviarHandshakeIo (nombre : Cadena) : Paquete := paqueteCadena .handshakeIo nombre

def recibirHandshakeIo : Lector Cadena := leerCadena

/-- The answer of `manejar_obtener_instruccion`. -/
def respuestaInstruccion (linea : Cadena) : Paquete := paqueteCadena .obtenerInstruccion linea

def recibirInstruccion : Lector Cadena := leerCadena

def enviarCrearProceso (pid : Int32) (path : Cadena) : Paquete :=
  ⟨.crearProceso, [deInt pid, deCadena path]⟩

def recibirCrearProceso : Lector (Int32 × Cadena) := do
  validarBuffer
  let pid ← recvInt
  let path ← recibirCadena
  pure (pid, path)

def enviarHandshakeMemoryStick (memorySize : UInt32) (ip puerto : Cadena) : Paquete :=
  ⟨.handshakeMemoryStick, [deUint32 memorySize, deCadena ip, deCadena puerto]⟩

def recibirHandshakeMemoryStick : Lector (UInt32 × Cadena × Cadena) := do
  validarBuffer
  let memorySize ← recvUint32
  let ip ← recibirCadena
  let puerto ← recibirCadena
  pure (memorySize, ip, puerto)

def enviarNuevaMemoriaDisponible (tamanio baseFisica : UInt32) (ip puerto : Cadena) : Paquete :=
  ⟨.nuevaMemoriaDisponible, [deUint32 tamanio, deUint32 baseFisica, deCadena ip, deCadena puerto]⟩

def recibirNuevaMemoriaDisponible : Lector (UInt32 × UInt32 × Cadena × Cadena) := do
  validarBuffer
  let tamanio ← recvUint32
  let baseFisica ← recvUint32
  let ip ← recibirCadena
  let puerto ← recibirCadena
  pure (tamanio, baseFisica, ip, puerto)

/-- A system call as the CPU hands it over. -/
structure Syscall where
  nombre : Cadena
  params : List Cadena
deriving DecidableEq

def motivoSyscall : Int32 := 1

/-- `enviar_devolver_proceso`; `none` is a `nombre_syscall` that is `NULL`. -/
def enviarDevolverProceso (pid motivo : Int32) (syscall : Option Syscall) : Paquete :=
  ⟨.devolverProceso, deInt pid :: deInt motivo ::
    match syscall with
    | none => []
    | some syscall => deCadena syscall.nombre :: deInt (Int32.ofNat syscall.params.length) ::
        syscall.params.map deCadena⟩

/-- `recibir_devolver_proceso`; only after `MOTIVO_SYSCALL` it looks for a name. -/
def recibirDevolverProceso : Lector (Int32 × Int32 × Option Syscall) := do
  validarBuffer
  let pid ← recvInt
  let motivo ← recvInt
  if motivo ≠ motivoSyscall then pure (pid, motivo, none)
  else
    let nombre ← recibirCadena
    let cant ← recvInt
    let params ← inOrder (List.replicate cant.toInt.toNat recibirCadena)
    pure (pid, motivo, some ⟨nombre, params⟩)

/-! ## Contexts -/

/-- `enviar_contexto_proceso`. -/
def enviarContextoProceso (registros : Registros) (segmentos : List Segmento) : Paquete :=
  ⟨.obtenerContexto, deRegistros registros :: deInt (Int32.ofNat segmentos.length) ::
    segmentos.map deSegmento⟩

def recibirContexto : Lector (Registros × List Segmento) := do
  validarBuffer
  let registros ← recibirRegistros
  let cantidad ← recvInt
  let segmentos ← inOrder (List.replicate cantidad.toInt.toNat recibirSegmento)
  pure (registros, segmentos)

def enviarActualizarContexto (pid : UInt32) (registros : Registros) (segmentos : List Segmento) : Paquete :=
  ⟨.actualizarContexto, deUint32 pid :: deRegistros registros ::
    deInt (Int32.ofNat segmentos.length) :: segmentos.map deSegmento⟩

def recibirContextoActualizar : Lector (UInt32 × Registros × List Segmento) := do
  validarBuffer
  let pid ← recvUint32
  let registros ← recibirRegistros
  let cantidad ← recvInt
  let segmentos ← inOrder (List.replicate cantidad.toInt.toNat recibirSegmento)
  pure (pid, registros, segmentos)

/-! ## Blocks of data -/

/-- What a write carries before the bytes: pid, address and length. -/
def largoPedidoEscritura : ℕ := 12

/-- The writes to memory, logical and physical, send as many bytes as they announce. -/
def paqueteEscritura (pid : Int32) (dir : UInt32) (datos : List UInt8) : Paquete :=
  ⟨.escrituraMemoria, [deInt pid, deUint32 dir, deUint32 (UInt32.ofNat datos.length), datos]⟩

def leerEscritura : Lector (Int32 × UInt32 × List UInt8) := do
  validarBuffer
  let pid ← recvInt
  let dir ← recvUint32
  let tamanio ← recvUint32
  let datos ← recv tamanio.toNat
  pure (pid, dir, datos)

def enviarEscrituraMemoria (pid : Int32) (dirLogica : UInt32) (datos : List UInt8) : Paquete :=
  paqueteEscritura pid dirLogica datos

/-- `manejar_escritura_memoria`. -/
def leerEscrituraMemoria : Lector (Int32 × UInt32 × List UInt8) := leerEscritura

def enviarEscrituraFisica (pid : Int32) (dirFisica : UInt32) (datos : List UInt8) : Paquete :=
  paqueteEscritura pid dirFisica datos

/-- `manejar_escritura` of a stick. -/
def leerEscrituraFisica : Lector (Int32 × UInt32 × List UInt8) := leerEscritura

/-- The answer to a read, of Kernel Memory and of a stick. -/
def respuestaLectura (datos : List UInt8) : Paquete := ⟨.lecturaMemoria, [datos]⟩

def recibirDatosMemoria (tamanio : ℕ) : Lector (List UInt8) := do
  validarBuffer
  recv tamanio

def enviarEscrituraBloqueSwap (bloque : UInt32) (data : List UInt8) : Paquete :=
  ⟨.escrituraBloqueSwap, [deUint32 bloque, data]⟩

def recibirEscrituraBloqueSwap (size : ℕ) : Lector (UInt32 × List UInt8) := do
  validarBuffer
  let bloque ← recvUint32
  let data ← recv size
  pure (bloque, data)

/-- `enviar_bloque_swap`: a block without bytes and no block are the same to it. -/
def enviarBloqueSwap (status : Int32) (data : List UInt8) : Paquete :=
  ⟨.respuestaSwap, deInt status :: if status = 0 ∧ 0 < data.length then [data] else []⟩

/-- `recibir_bloque_swap` takes the operation code itself; `none` is `NULL`. -/
def recibirBloqueSwap (size : ℕ) : Lector (Int32 × Option (List UInt8)) := do
  let _ ← recibirCodigoOperacion
  validarBuffer
  let status ← recvInt
  if status ≠ 0 then pure (status, none)
  else
    let data ← recv size
    pure (status, some data)

def enviarIoStdout (pid : Int32) (datos : List UInt8) : Paquete := ⟨.ioStdout, [deInt pid, datos]⟩

/-- An IO device takes as many bytes as the frame has after the pid. -/
def leerIoStdout : Lector (Int32 × List UInt8) := do
  let size ← recvSize
  let pid ← recvInt
  let mensaje ← recv (size - 4)
  pure (pid, mensaje)

def enviarDatosStdin (pid : Int32) (datos : List UInt8) : Paquete := ⟨.ioFinalizada, [deInt pid, datos]⟩

def recibirDatosStdin (size : ℕ) : Lector (Int32 × List UInt8) := do
  validarBuffer
  let pid ← recvInt
  let datos ← recv size
  pure (pid, datos)

end PlugAndPlay.Red
