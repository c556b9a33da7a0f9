import PlugAndPlay.Memoria.Cpu
import PlugAndPlay.Memoria.TransferenciasEnRed
import PlugAndPlay.Red.IdaYVueltaMensajes

/-!
# One answer to every request

The two receptor threads of Kernel Memory on their streams: the operation code, the fields that a handler
takes, and the frames it sends to the requester. Each request is consumed exactly, and answered once unless
its handler leaves early or waits for what does not come.
-/

open PlugAndPlay.Library.StreamReader PlugAndPlay.Red

namespace PlugAndPlay.Memoria

/-! ## Frames -/

def OpCode.enRed : OpCode → Red.OpCode
  | .crearProceso => .crearProceso
  | .suspenderProceso => .suspenderProceso
  | .desSuspenderProceso => .desSuspenderProceso
  | .eliminarSegmento => .eliminarSegmento
  | .finalizarProceso => .finalizarProceso
  | .escrituraMemoria => .escrituraMemoria
  | .segmentationFault => .segmentationFault
  | .memoriaLiberada => .memoriaLiberada
  | .iniciarCompactacion => .iniciarCompactacion
  | .finalizarCompactacion => .finalizarCompactacion

def Mensaje.paquete : Mensaje → Paquete
  | .ok codigo => enviarOk codigo.enRed
  | .solicitarSegmento id base tamanio => respuestaSegmento id base tamanio
  | .lecturaMemoria datos => respuestaLectura datos
  | .obtenerEspacioLibre espacio => respuestaEspacioLibre espacio

/-- `despachar_si_es_notificacion`: the codes the scheduler does not take for an answer. -/
def esNotificacion : Red.OpCode → Bool
  | .memoriaCorruptaBsod | .memoriaLiberada | .iniciarCompactacion | .finalizarCompactacion
  | .nuevaMemoriaDisponible => true
  | _ => false

/-- The frames that are answers. -/
def cantidadRespuestas (tramas : List Paquete) : ℕ :=
  tramas.countP fun trama ↦ !esNotificacion trama.codigo

/-- The requester can take all the frames from the stream, and one of them is an answer. A payload that its receive
buffer cannot hold it never takes. -/
def RespondeUna [Recepcion] (tramas : List Paquete) : Prop :=
  (∀ trama ∈ tramas, trama.stream.length ≤ Recepcion.capacidad) ∧ cantidadRespuestas tramas = 1

/-- What a handler sent, after the reports of sticks without connection that its transfers made. -/
def tramas (m : MemoriaEnRed) (respuesta : List Mensaje × MemoriaEnRed) : List Paquete × MemoriaEnRed :=
  (List.replicate (respuesta.2.ram.avisosBsod - m.ram.avisosBsod) enviarMemoriaCorrupta ++
    respuesta.1.map Mensaje.paquete, respuesta.2)

/-- The frames of a handler that transfers nothing. -/
def MemoriaEnRed.contestar (m : MemoriaEnRed) (respuesta : List Mensaje × KernelMemory) :
    List Paquete × MemoriaEnRed :=
  (respuesta.1.map Mensaje.paquete, m.con respuesta.2)

/-! ## The thread of the scheduler -/

/-- What the handlers depend on besides the memory: the sort of the compaction, the scripts, and what the
other threads do while `SOLICITAR_SEGMENTO` waits for the scheduler and after the compaction. -/
structure Entorno where
  qsort : Qsort
  cargarScript : Cadena → List String
  durante : MemoriaEnRed → MemoriaEnRed
  despues : MemoriaEnRed → MemoriaEnRed

/-- The requests that the scheduler sends. -/
inductive PedidoScheduler
  | crearProceso (pid : Int32) (path : Cadena)
  | actualizarContexto (pid : UInt32) (registros : Registros) (segmentos : List Segmento)
  | obtenerEspacioLibre
  | lecturaMemoria (pid : Int32) (dir tamanio : UInt32)
  | escrituraMemoria (pid : Int32) (dir : UInt32) (datos : List UInt8)
  | suspenderProceso (pid : Int32)
  | desSuspenderProceso (pid : Int32)
  | solicitarSegmento (pid : Int32) (id tamanio : UInt32)
  | eliminarSegmento (pid : Int32) (id : UInt32)
  | finalizarProceso (pid : Int32)

def PedidoScheduler.paquete : PedidoScheduler → Paquete
  | crearProceso pid path => enviarCrearProceso pid path
  | actualizarContexto pid registros segmentos => enviarActualizarContexto pid registros segmentos
  | obtenerEspacioLibre => enviarObtenerEspacioLibre
  | lecturaMemoria pid dir tamanio => enviarLecturaMemoria pid dir tamanio
  | escrituraMemoria pid dir datos => enviarEscrituraMemoria pid dir datos
  | suspenderProceso pid => enviarSuspenderProceso pid
  | desSuspenderProceso pid => enviarDesSuspenderProceso pid
  | solicitarSegmento pid id tamanio => enviarSolicitarSegmento pid id tamanio
  | eliminarSegmento pid id => enviarEliminarSegmento pid id
  | finalizarProceso pid => enviarFinalizarProcesoMemory pid

/-- The `switch` of `memory_receptor_scheduler_thread`, and what each handler takes from the socket first; a
code it does not know takes nothing. -/
def leerPedidoScheduler [Recepcion] : Lector (Option PedidoScheduler) := do
  let codigo ← recibirCodigoOperacion
  match OpCode.deValor codigo with
  | some .crearProceso =>
    let (pid, path) ← recibirCrearProceso
    pure (some (.crearProceso pid path))
  | some .actualizarContexto =>
    let (pid, registros, segmentos) ← recibirContextoActualizar
    pure (some (.actualizarContexto pid registros segmentos))
  | some .obtenerEspacioLibre =>
    leerObtenerEspacioLibre
    pure (some .obtenerEspacioLibre)
  | some .lecturaMemoria =>
    let (pid, dir, tamanio) ← leerLecturaMemoria
    pure (some (.lecturaMemoria pid dir tamanio))
  | some .escrituraMemoria =>
    let (pid, dir, datos) ← leerEscrituraMemoria
    pure (some (.escrituraMemoria pid dir datos))
  | some .suspenderProceso =>
    let pid ← recibirSuspenderProceso
    pure (some (.suspenderProceso pid))
  | some .desSuspenderProceso =>
    let pid ← recibirDesSuspenderProceso
    pure (some (.desSuspenderProceso pid))
  | some .solicitarSegmento =>
    let (pid, id, tamanio) ← leerSolicitarSegmento
    pure (some (.solicitarSegmento pid id tamanio))
  | some .eliminarSegmento =>
    let (pid, id) ← leerEliminarSegmento
    pure (some (.eliminarSegmento pid id))
  | some .finalizarProceso =>
    let pid ← leerFinalizarProceso
    pure (some (.finalizarProceso pid))
  | _ => pure none

/-- A `t_contexto` has an unsigned pid, and `procesos_buscar` takes an `int`. -/
def contextoDe (pid : UInt32) (registros : Registros) (segmentos : List Segmento) : Contexto :=
  ⟨pid.toInt32.toInt, registros, segmentos⟩

/-- What `compactar_y_reasignar` takes: the code, and then the acknowledgement. -/
def recibirAcuse [Recepcion] : Lector Unit := do
  let _ ← recibirCodigoOperacion
  recibirOk

/-- `compactar_y_reasignar` and the rest of `manejar_solicitar_segmento`, after the acknowledgement. -/
def Entorno.compactarYReasignar [Recepcion] (e : Entorno) (m : MemoriaEnRed) (pid : ℤ) (id tamanio : UInt32) :
    Option (List Paquete × MemoriaEnRed) :=
  let antes := e.durante m
  (compactarMemoriaRed e.qsort antes).map fun compactada ↦
    let retomada := e.despues compactada
    let final := retomada.contestar (reasignar retomada.toKernelMemory pid id tamanio)
    (enviarOk .iniciarCompactacion ::
      (tramas antes ([.ok .finalizarCompactacion], compactada)).1 ++ final.1, final.2)

/-- The rest of the handler of a request; nothing when it has no end, or Kernel Memory dies. Only a compaction takes
another frame, the acknowledgement of the scheduler. -/
def PedidoScheduler.manejar [Recepcion] (e : Entorno) (m : MemoriaEnRed) :
    PedidoScheduler → Lector (Option (List Paquete × MemoriaEnRed))
  | crearProceso pid path =>
    pure (some (m.contestar (manejarCrearProceso m.toKernelMemory pid.toInt (e.cargarScript path))))
  | actualizarContexto pid registros segmentos =>
    pure (some ([enviarOk .actualizarContexto],
      m.con (manejarActualizarContextoCpu m.toKernelMemory (contextoDe pid registros segmentos))))
  | obtenerEspacioLibre => pure (some (m.contestar (manejarObtenerEspacioLibre m.toKernelMemory)))
  | lecturaMemoria pid dir tamanio =>
    pure ((manejarLecturaMemoriaRed m pid.toInt dir tamanio).map (tramas m))
  | escrituraMemoria pid dir datos =>
    pure ((manejarEscrituraMemoriaRed m pid.toInt dir (UInt32.ofNat datos.length) datos).map (tramas m))
  | suspenderProceso pid => pure ((manejarSuspenderProcesoRed m pid.toInt).map (tramas m))
  | desSuspenderProceso pid => pure ((manejarDesSuspenderProcesoRed m pid.toInt).map (tramas m))
  | solicitarSegmento pid id tamanio =>
    match solicitarSinCompactar m.toKernelMemory pid.toInt id tamanio with
    | (some respuesta, m') => pure (some (m.contestar (respuesta, m')))
    | (none, m') => do
      recibirAcuse
      pure (e.compactarYReasignar (m.con m') pid.toInt id tamanio)
  | eliminarSegmento pid id => pure (some (m.contestar (manejarEliminarSegmento m.toKernelMemory pid.toInt id)))
  | finalizarProceso pid => pure (some (m.contestar (manejarFinalizarProceso m.toKernelMemory pid.toInt)))

/-- One turn of `memory_receptor_scheduler_thread`. -/
def atenderScheduler [Recepcion] (e : Entorno) (m : MemoriaEnRed) :
    Lector (Option (List Paquete × MemoriaEnRed)) := do
  let pedido ← leerPedidoScheduler
  match pedido with
  | none => pure (some ([], m))
  | some pedido => pedido.manejar e m

/-! ## The thread of a CPU -/

inductive PedidoCpu
  | obtenerInstruccion (pid : Int32) (pc : UInt32)
  | obtenerContexto (pid : Int32)
  | actualizarContexto (pid : UInt32) (registros : Registros) (segmentos : List Segmento)

def PedidoCpu.paquete : PedidoCpu → Paquete
  | obtenerInstruccion pid pc => enviarObtenerInstruccion pid pc
  | obtenerContexto pid => enviarSolicitarContexto pid
  | actualizarContexto pid registros segmentos => enviarActualizarContexto pid registros segmentos

/-- The `switch` of `memory_receptor_cpu_thread`. -/
def leerPedidoCpu [Recepcion] : Lector (Option PedidoCpu) := do
  let codigo ← recibirCodigoOperacion
  match OpCode.deValor codigo with
  | some .obtenerInstruccion =>
    let (pid, pc) ← leerObtenerInstruccion
    pure (some (.obtenerInstruccion pid pc))
  | some .obtenerContexto =>
    let pid ← leerSolicitarContexto
    pure (some (.obtenerContexto pid))
  | some .actualizarContexto =>
    let (pid, registros, segmentos) ← recibirContextoActualizar
    pure (some (.actualizarContexto pid registros segmentos))
  | _ => pure none

/-- The line that `manejar_obtener_instruccion` answers with; it is empty for an unknown process and past the
end of the script. -/
def lineaInstruccion (m : KernelMemory) (pid : Int32) (pc : UInt32) : Cadena :=
  cadenaEn (((procesosBuscar m.procesos pid.toInt).bind fun proc ↦
    proc.instrucciones[pc.toNat]?).getD "").toUTF8.toList

def PedidoCpu.manejar (m : KernelMemory) : PedidoCpu → List Paquete × KernelMemory
  | obtenerInstruccion pid pc => ([respuestaInstruccion (lineaInstruccion m pid pc)], m)
  | obtenerContexto pid =>
    match manejarObtenerContextoCpu m pid.toInt with
    | none => ([], m)
    | some ctx => ([enviarContextoProceso ctx.registros ctx.tablaSegmentos], m)
  | actualizarContexto pid registros segmentos =>
    ([enviarOk .actualizarContexto], manejarActualizarContextoCpu m (contextoDe pid registros segmentos))

/-- One turn of `memory_receptor_cpu_thread`. -/
def atenderCpu [Recepcion] (m : KernelMemory) : Lector (List Paquete × KernelMemory) := do
  let pedido ← leerPedidoCpu
  match pedido with
  | none => pure ([], m)
  | some pedido => pure (pedido.manejar m)

/-! ## Requests are consumed exactly -/

section

variable [Recepcion]

theorem leerPedidoScheduler_reads (pedido : PedidoScheduler) (hllega : Llega pedido.paquete.stream.length)
    (hdatos : ∀ pid dir, pedido ≠ .escrituraMemoria pid dir []) :
    Reads leerPedidoScheduler (serializarPaquete pedido.paquete) (some pedido) := by
  rw [serializarPaquete_eq]
  apply (reads_uint32 _).bind
  cases pedido with
  | crearProceso pid path => exact ((Corresponde.crearProceso pid path).recibe hllega).finish rfl
  | actualizarContexto pid registros segmentos =>
    exact ((Corresponde.actualizarContexto pid registros segmentos).recibe hllega).finish rfl
  | obtenerEspacioLibre => exact (Corresponde.obtenerEspacioLibre.recibe hllega).finish rfl
  | lecturaMemoria pid dir tamanio =>
    exact ((Corresponde.lecturaMemoria pid dir tamanio).recibe hllega).finish rfl
  | escrituraMemoria pid dir datos =>
    have hbytes : datos ≠ [] := by
      rintro rfl
      exact hdatos pid dir rfl
    exact ((Corresponde.escrituraMemoria pid dir datos hbytes).recibe hllega).finish rfl
  | suspenderProceso pid => exact ((Corresponde.suspenderProceso pid).recibe hllega).finish rfl
  | desSuspenderProceso pid => exact ((Corresponde.desSuspenderProceso pid).recibe hllega).finish rfl
  | solicitarSegmento pid id tamanio =>
    exact ((Corresponde.solicitarSegmento pid id tamanio).recibe hllega).finish rfl
  | eliminarSegmento pid id => exact ((Corresponde.eliminarSegmento pid id).recibe hllega).finish rfl
  | finalizarProceso pid => exact ((Corresponde.finalizarProceso pid).recibe hllega).finish rfl

theorem leerPedidoCpu_reads (pedido : PedidoCpu) (hllega : Llega pedido.paquete.stream.length) :
    Reads leerPedidoCpu (serializarPaquete pedido.paquete) (some pedido) := by
  rw [serializarPaquete_eq]
  apply (reads_uint32 _).bind
  cases pedido with
  | obtenerInstruccion pid pc => exact ((Corresponde.obtenerInstruccion pid pc).recibe hllega).finish rfl
  | obtenerContexto pid => exact ((Corresponde.solicitarContexto pid).recibe hllega).finish rfl
  | actualizarContexto pid registros segmentos =>
    exact ((Corresponde.actualizarContexto pid registros segmentos).recibe hllega).finish rfl

/-- A payload that does not arrive: there is none, or the receive buffer cannot hold it. -/
theorem validarBuffer_de_no_llega {paquete : Paquete} (hcabe : CabeEnTrama paquete.stream.length)
    (hno : ¬ Llega paquete.stream.length) :
    ∃ fallo, validarBuffer (littleEndian 8 paquete.stream.length ++ paquete.stream) = .error fallo := by
  have hsize : paquete.stream.length < 2 ^ 64 := by
    unfold CabeEnTrama at hcabe
    omega
  by_cases hvacio : paquete.stream = []
  · refine ⟨.incompleto, ?_⟩
    unfold validarBuffer
    rw [bind_of_run (reads_size hsize paquete.stream), hvacio, bind_of_run (get_eq [])]
    rfl
  · have hlargo : Recepcion.capacidad < paquete.stream.length := by
      by_contra! hle
      exact hno ⟨List.length_pos_iff.mpr hvacio, hle⟩
    have hsin := validarBuffer_sinLugar paquete hsize hlargo []
    rw [List.append_nil] at hsin
    exact ⟨_, hsin⟩

/-- A receiver validates the buffer first. -/
theorem falla_de_no_llega {α β : Type} {paquete : Paquete} {lector : Lector α} {siguiente : α → Lector β}
    (hcabe : CabeEnTrama paquete.stream.length) (hno : ¬ Llega paquete.stream.length) :
    ∃ fallo, ((do validarBuffer; lector) >>= siguiente : Lector β)
      (littleEndian 8 paquete.stream.length ++ paquete.stream) = .error fallo := by
  obtain ⟨fallo, hfalla⟩ := validarBuffer_de_no_llega hcabe hno
  exact ⟨fallo, bind_of_fault (bind_of_fault hfalla _) _⟩

/-- Such a request is not read when nothing comes behind it. -/
theorem leerPedidoScheduler_falla {pedido : PedidoScheduler} (hcabe : CabeEnTrama pedido.paquete.stream.length)
    (hno : ¬ Llega pedido.paquete.stream.length) :
    ∃ fallo, leerPedidoScheduler (serializarPaquete pedido.paquete) = .error fallo := by
  have hcodigo : Reads recibirCodigoOperacion (deUint32 pedido.paquete.codigo.valor) pedido.paquete.codigo.valor :=
    reads_uint32 _
  rw [serializarPaquete_eq]
  unfold leerPedidoScheduler
  rw [bind_of_run (hcodigo _)]
  cases pedido with
  | crearProceso pid path => exact falla_de_no_llega hcabe hno
  | actualizarContexto pid registros segmentos => exact falla_de_no_llega hcabe hno
  | obtenerEspacioLibre => exact falla_de_no_llega hcabe hno
  | escrituraMemoria pid dir datos => exact falla_de_no_llega hcabe hno
  | lecturaMemoria pid dir tamanio | solicitarSegmento pid dir tamanio =>
    exact absurd (llega_intDosUint32 pid dir tamanio) hno
  | suspenderProceso pid | desSuspenderProceso pid | finalizarProceso pid => exact absurd (llega_int pid) hno
  | eliminarSegmento pid id => exact absurd (llega_intUint32 pid id) hno

/-- After a write of no bytes `recv` waits for the next request. -/
theorem leerPedidoScheduler_sinDatos (pid : Int32) (dir : UInt32) :
    leerPedidoScheduler (serializarPaquete (enviarEscrituraMemoria pid dir [])) = .error .incompleto := by
  have hcodigo : Reads recibirCodigoOperacion (deUint32 Red.OpCode.escrituraMemoria.valor)
      Red.OpCode.escrituraMemoria.valor := reads_uint32 _
  have hlargo : (enviarEscrituraMemoria pid dir []).stream.length = 12 := length_escritura pid dir []
  have hay : (enviarEscrituraMemoria pid dir []).stream ≠ [] := by
    intro hnada
    rw [hnada] at hlargo
    cases hlargo
  have hvalida := validarBuffer_eq (by rw [hlargo]; decide) le_rfl hay
    (by rw [hlargo]; exact le_trans (by decide) Recepcion.minima)
  have hlectura : leerEscrituraMemoria (littleEndian 8 (enviarEscrituraMemoria pid dir []).stream.length ++
      (enviarEscrituraMemoria pid dir []).stream) = .error .incompleto := by
    unfold leerEscrituraMemoria leerEscritura
    have hcampos : (enviarEscrituraMemoria pid dir []).stream = deInt pid ++ (deUint32 dir ++ (deUint32 0 ++ [])) := by
      simp [enviarEscrituraMemoria, paqueteEscritura, Paquete.stream]
    rw [bind_of_run hvalida, hcampos, bind_of_run (reads_int pid _), bind_of_run (reads_uint32 dir _),
      bind_of_run (reads_uint32 0 [])]
    have hnada : recv (UInt32.toNat 0) [] = .error .incompleto := rfl
    exact bind_of_fault hnada _
  rw [serializarPaquete_eq]
  unfold leerPedidoScheduler
  rw [show (enviarEscrituraMemoria pid dir []).codigo = Red.OpCode.escrituraMemoria from rfl,
    bind_of_run (hcodigo _), OpCode.deValor_valor]
  exact bind_of_fault hlectura _

end

/-- The acknowledgement that the scheduler sends after the request, when it is told of a compaction. -/
def PedidoScheduler.acuse (m : KernelMemory) : PedidoScheduler → List UInt8
  | solicitarSegmento pid id tamanio =>
    match (solicitarSinCompactar m pid.toInt id tamanio).1 with
    | some _ => []
    | none => serializarPaquete (enviarOk .iniciarCompactacion)
  | _ => []

/-- Only requests of variable length may not arrive. -/
theorem PedidoScheduler.acuse_of_no_llega [Recepcion] (pedido : PedidoScheduler) (m : KernelMemory)
    (hno : ¬ Llega pedido.paquete.stream.length) : pedido.acuse m = [] := by
  cases pedido with
  | solicitarSegmento pid id tamanio => exact absurd (llega_intDosUint32 pid id tamanio) hno
  | crearProceso | actualizarContexto | obtenerEspacioLibre | lecturaMemoria | escrituraMemoria
  | suspenderProceso | desSuspenderProceso | eliminarSegmento | finalizarProceso => rfl

/-! ## Which requests are answered -/

section

variable [Recepcion]

/-- The condition on a request of the scheduler and on the memory. -/
def PedidoScheduler.Contesta (e : Entorno) (m : MemoriaEnRed) : PedidoScheduler → Prop
  | lecturaMemoria pid dir tamanio => ∀ proc, procesosBuscar m.procesos pid.toInt = some proc →
      m.config.segmentMaxSize.toUInt32 ≠ 0 ∧
        ∀ dirFisica, traducirDirLogica m.config proc dir tamanio = some dirFisica →
          dirFisica ≠ sinBase ∧ tamanio.toNat ≤ Recepcion.capacidad ∧ m.SeLee dirFisica tamanio
  | escrituraMemoria pid dir datos =>
      datos ≠ [] ∧ ∀ proc, procesosBuscar m.procesos pid.toInt = some proc →
        m.config.segmentMaxSize.toUInt32 ≠ 0 ∧
          ∀ dirFisica, traducirDirLogica m.config proc dir (UInt32.ofNat datos.length) = some dirFisica →
            dirFisica ≠ sinBase ∧ EscriturasVuelven m.rotos
              (accesos m.ram.tabla dirFisica (UInt32.ofNat datos.length)).1 m.ram.cortes
  | suspenderProceso pid => ∀ proc, procesosBuscar m.procesos pid.toInt = some proc →
      0 ≤ m.swap.socket → CopiasLlegan proc.segmentos m
  | desSuspenderProceso pid => ∀ proc, procesosBuscar m.procesos pid.toInt = some proc →
      0 ≤ m.swap.socket → ∀ segmentos libres,
        reservarSegmentosConRollback m.config.worstFit proc.segmentos m.bloquesLibres = (some segmentos, libres) →
          SegmentosVuelven segmentos
            (m.con (ponerSegmentos { m.toKernelMemory with bloquesLibres := libres } pid.toInt segmentos))
  | solicitarSegmento pid id tamanio =>
      ∀ m', solicitarSinCompactar m.toKernelMemory pid.toInt id tamanio = (none, m') →
        CompactacionVuelve (e.qsort.ordenar (entradas (e.durante (m.con m')).procesos)) 0 (e.durante (m.con m'))
  | _ => True

/-- The condition on a request of a CPU: the process is known, and the CPU can take the line or the table of
segments. -/
def PedidoCpu.Contesta (m : KernelMemory) : PedidoCpu → Prop
  | obtenerInstruccion pid pc => Llega ((lineaInstruccion m pid pc).bytes.length + 5)
  | obtenerContexto pid => ∃ proc, procesosBuscar m.procesos pid.toInt = some proc ∧
      Llega (36 + 16 * proc.segmentos.length)
  | actualizarContexto _ _ _ => True

instance (paquetes : List Paquete) : Decidable (RespondeUna paquetes) :=
  inferInstanceAs (Decidable (_ ∧ _))

theorem corta_of_le {largo : ℕ} (h : largo ≤ 2048) : largo ≤ Recepcion.capacidad := h.trans Recepcion.minima

theorem respondeUna_ok {codigo : Red.OpCode} (h : esNotificacion codigo = false) :
    RespondeUna [enviarOk codigo] := by
  refine ⟨fun trama htrama ↦ ?_, ?_⟩
  · obtain rfl := List.mem_singleton.mp htrama
    exact (llega_ok codigo).2
  · simp [cantidadRespuestas, enviarOk, h]

theorem not_respondeUna_nil : ¬ RespondeUna [] := fun h ↦ absurd h.2 (by decide)

/-- Notifications of a few bytes make no difference. -/
theorem respondeUna_append {avisos otras : List Paquete}
    (h : ∀ trama ∈ avisos, trama.stream.length ≤ Recepcion.capacidad ∧ esNotificacion trama.codigo = true) :
    RespondeUna (avisos ++ otras) ↔ RespondeUna otras := by
  have hcero : cantidadRespuestas avisos = 0 := by
    rw [cantidadRespuestas, List.countP_eq_zero]
    intro trama htrama
    simp [(h trama htrama).2]
  have hcuenta : cantidadRespuestas (avisos ++ otras) = cantidadRespuestas otras := by
    simp only [cantidadRespuestas, List.countP_append] at hcero ⊢
    omega
  unfold RespondeUna
  rw [hcuenta, List.forall_mem_append]
  constructor
  · exact fun ⟨⟨_, hotras⟩, hone⟩ ↦ ⟨hotras, hone⟩
  · exact fun ⟨hotras, hone⟩ ↦ ⟨⟨fun trama htrama ↦ (h trama htrama).1, hotras⟩, hone⟩

theorem respondeUna_tramas (m : MemoriaEnRed) (respuesta : List Mensaje × MemoriaEnRed) :
    RespondeUna (tramas m respuesta).1 ↔ RespondeUna (respuesta.1.map Mensaje.paquete) := by
  apply respondeUna_append
  intro trama htrama
  obtain rfl := List.eq_of_mem_replicate htrama
  exact ⟨(llega_ok .memoriaCorruptaBsod).2, rfl⟩

/-- An answer, perhaps with the notification of freed memory behind it. -/
theorem respondeUna_liberada {trama : Paquete} (h : RespondeUna [trama]) :
    RespondeUna [trama, enviarMemoriaLiberada] := by
  obtain ⟨hcabe, hone⟩ := h
  refine ⟨?_, ?_⟩
  · intro otra hotra
    rcases List.mem_cons.mp hotra with rfl | hotra
    · exact hcabe _ List.mem_cons_self
    · obtain rfl := List.mem_singleton.mp hotra
      exact (llega_ok .memoriaLiberada).2
  · have hnada : (if (!esNotificacion enviarMemoriaLiberada.codigo) = true then 1 else 0) = 0 := rfl
    simp only [cantidadRespuestas, List.countP_cons, List.countP_nil] at hone ⊢
    rw [hnada]
    exact hone

theorem respondeUna_segmento (id base tamanio : UInt32) :
    RespondeUna [Mensaje.paquete (.solicitarSegmento id base tamanio)] := by
  refine ⟨fun trama htrama ↦ ?_, rfl⟩
  obtain rfl := List.mem_singleton.mp htrama
  apply corta_of_le
  simp [Paquete.stream, Mensaje.paquete, Red.respuestaSegmento]

/-- A single answer is one that the requester can take. -/
theorem respondeUna_singleton {trama : Paquete} (h : esNotificacion trama.codigo = false) {largo : ℕ}
    (hlargo : trama.stream.length = largo) : RespondeUna [trama] ↔ largo ≤ Recepcion.capacidad := by
  unfold RespondeUna
  rw [List.forall_mem_singleton, hlargo]
  apply and_iff_left
  simp [cantidadRespuestas, h]

/-! ### The handlers -/

/-- A handler that comes to its end with one answer. -/
def TerminaConUna (resultado : Option (List Mensaje × MemoriaEnRed)) : Prop :=
  ∃ mensajes despues, resultado = some (mensajes, despues) ∧ RespondeUna (mensajes.map Mensaje.paquete)

section Manejadores

variable (m : MemoriaEnRed) (pid : ℤ)

theorem manejarSuspenderProcesoRed_una :
    TerminaConUna (manejarSuspenderProcesoRed m pid) ↔
      ∀ proc, procesosBuscar m.procesos pid = some proc → 0 ≤ m.swap.socket →
        CopiasLlegan proc.segmentos m := by
  have hmanejador : TerminaConUna (manejarSuspenderProcesoRed m pid) ↔
      ∃ fin despues, suspenderProcesoRed m pid = some (fin, despues) ∧ fin ≠ .fallo := by
    have huna : RespondeUna [enviarOk .suspenderProceso] := respondeUna_ok rfl
    unfold TerminaConUna manejarSuspenderProcesoRed
    rcases suspenderProcesoRed m pid with _ | ⟨fin, despues⟩
    · simp
    · cases fin with
      | fallo => simp [not_respondeUna_nil]
      | completa | sinProceso | sinSwap | sinBloques => simpa [Mensaje.paquete, OpCode.enRed] using huna
  rw [hmanejador]
  unfold suspenderProcesoRed
  cases hbusca : procesosBuscar m.procesos pid with
  | none => simp
  | some proc =>
    by_cases hsocket : m.swap.socket < 0
    · simp [hsocket]
    · simp only [if_neg hsocket, Option.some.injEq, forall_eq', Int.not_lt.mp hsocket, forall_const,
        ← suspenderSegmentosRed_iff]
      constructor
      · rintro ⟨fin, despues, hsuspende, hfin⟩
        obtain ⟨⟨otroFin, tabla, medio⟩, hsegmentos, hmedio⟩ := Option.map_eq_some_iff.mp hsuspende
        cases hmedio
        exact ⟨_, _, _, hsegmentos, hfin⟩
      · rintro ⟨fin, tabla, despues, hsegmentos, hfin⟩
        rw [hsegmentos]
        exact ⟨_, _, rfl, hfin⟩

theorem manejarDesSuspenderProcesoRed_una :
    TerminaConUna (manejarDesSuspenderProcesoRed m pid) ↔
      ∀ proc, procesosBuscar m.procesos pid = some proc → 0 ≤ m.swap.socket → ∀ segmentos libres,
        reservarSegmentosConRollback m.config.worstFit proc.segmentos m.bloquesLibres = (some segmentos, libres) →
          SegmentosVuelven segmentos
            (m.con (ponerSegmentos { m.toKernelMemory with bloquesLibres := libres } pid segmentos)) := by
  have hmanejador : TerminaConUna (manejarDesSuspenderProcesoRed m pid) ↔ (desSuspenderProcesoRed m pid).isSome := by
    have huna : RespondeUna [enviarOk .desSuspenderProceso] := respondeUna_ok rfl
    have hfalla : RespondeUna [enviarOk .segmentationFault] := respondeUna_ok rfl
    unfold TerminaConUna manejarDesSuspenderProcesoRed
    rcases desSuspenderProcesoRed m pid with _ | ⟨fin, despues⟩
    · simp
    · cases fin with
      | completa | sinProceso => simpa [Mensaje.paquete, OpCode.enRed] using huna
      | sinSwap | sinEspacio | fallo => simpa [Mensaje.paquete, OpCode.enRed] using hfalla
  rw [hmanejador]
  unfold desSuspenderProcesoRed
  cases hbusca : procesosBuscar m.procesos pid with
  | none => simp
  | some proc =>
    by_cases hsocket : m.swap.socket < 0
    · simp [hsocket]
    · rcases hreserva : reservarSegmentosConRollback m.config.worstFit proc.segmentos m.bloquesLibres with
        ⟨_ | segmentos, libres⟩
      · simp [hsocket, hreserva]
      · simp only [if_neg hsocket, hreserva, Option.some.injEq, Prod.mk.injEq, forall_eq', and_imp,
          Int.not_lt.mp hsocket, forall_const, forall_apply_eq_imp_iff, Option.isSome_map,
          transferirSwapARamRed_isSome]

omit [Recepcion] in
theorem divisor_ne_zero {m : KernelMemory} {pid : ℤ} {proc : Proceso} (h : ¬ DivideEntreCero m pid)
    (hproc : procesosBuscar m.procesos pid = some proc) : m.config.segmentMaxSize.toUInt32 ≠ 0 :=
  fun hcero ↦ h ⟨by rw [hproc]; rfl, hcero⟩

theorem manejarLecturaMemoriaRed_una (dir tamanio : UInt32) :
    TerminaConUna (manejarLecturaMemoriaRed m pid dir tamanio) ↔
      ∀ proc, procesosBuscar m.procesos pid = some proc →
        m.config.segmentMaxSize.toUInt32 ≠ 0 ∧
          ∀ dirFisica, traducirDirLogica m.config proc dir tamanio = some dirFisica →
            dirFisica ≠ sinBase ∧ tamanio.toNat ≤ Recepcion.capacidad ∧ m.SeLee dirFisica tamanio := by
  have hfalla : RespondeUna [enviarOk .segmentationFault] := respondeUna_ok rfl
  unfold TerminaConUna manejarLecturaMemoriaRed
  by_cases hdivide : DivideEntreCero m.toKernelMemory pid
  · obtain ⟨proc, hproc⟩ := Option.isSome_iff_exists.mp hdivide.1
    rw [if_pos hdivide]
    exact iff_of_false nofun fun h ↦ (h proc hproc).1 hdivide.2
  · rw [if_neg hdivide]
    cases hbusca : procesosBuscar m.procesos pid with
    | none => exact iff_of_true ⟨_, _, rfl, hfalla⟩ nofun
    | some proc =>
      have hdivisor := divisor_ne_zero hdivide hbusca
      simp only [Option.some.injEq, forall_eq', hdivisor, ne_eq, not_false_eq_true, true_and]
      cases htraduce : traducirDirLogica m.config proc dir tamanio with
      | none => exact iff_of_true ⟨_, _, rfl, hfalla⟩ nofun
      | some dirFisica =>
        simp only [Option.some.injEq, forall_eq']
        by_cases hsin : dirFisica = sinBase
        · simp [hsin, not_respondeUna_nil]
        · rw [if_neg hsin, ← MemoriaEnRed.seLee_iff, and_iff_right hsin]
          rcases hleida : memoryIoLeerRed m.red dirFisica tamanio with _ | ⟨fallo | datos, red⟩
          · simp
          · simp [not_respondeUna_nil]
          · have hlargo : datos.length = tamanio.toNat :=
              length_memoryIoLeer (congrArg Prod.fst (memoryIoLeer_of_red hleida))
            have hstream : (respuestaLectura datos).stream.length = tamanio.toNat := by
              simp [Paquete.stream, respuestaLectura, hlargo]
            have huna : RespondeUna [respuestaLectura datos] ↔ tamanio.toNat ≤ Recepcion.capacidad :=
              respondeUna_singleton rfl hstream
            simpa [Mensaje.paquete] using huna

theorem manejarEscrituraMemoriaRed_una (dir tamanio : UInt32) (datos : List UInt8) :
    TerminaConUna (manejarEscrituraMemoriaRed m pid dir tamanio datos) ↔
      ∀ proc, procesosBuscar m.procesos pid = some proc →
        m.config.segmentMaxSize.toUInt32 ≠ 0 ∧
          ∀ dirFisica, traducirDirLogica m.config proc dir tamanio = some dirFisica →
            dirFisica ≠ sinBase ∧
              EscriturasVuelven m.rotos (accesos m.ram.tabla dirFisica tamanio).1 m.ram.cortes := by
  have hfalla : RespondeUna [enviarOk .segmentationFault] := respondeUna_ok rfl
  have huna : RespondeUna [enviarOk .escrituraMemoria] := respondeUna_ok rfl
  unfold TerminaConUna manejarEscrituraMemoriaRed
  by_cases hdivide : DivideEntreCero m.toKernelMemory pid
  · obtain ⟨proc, hproc⟩ := Option.isSome_iff_exists.mp hdivide.1
    rw [if_pos hdivide]
    exact iff_of_false nofun fun h ↦ (h proc hproc).1 hdivide.2
  · rw [if_neg hdivide]
    cases hbusca : procesosBuscar m.procesos pid with
    | none => exact iff_of_true ⟨_, _, rfl, hfalla⟩ nofun
    | some proc =>
      have hdivisor := divisor_ne_zero hdivide hbusca
      simp only [Option.some.injEq, forall_eq', hdivisor, ne_eq, not_false_eq_true, true_and]
      cases htraduce : traducirDirLogica m.config proc dir tamanio with
      | none => exact iff_of_true ⟨_, _, rfl, hfalla⟩ nofun
      | some dirFisica =>
        simp only [Option.some.injEq, forall_eq']
        by_cases hsin : dirFisica = sinBase
        · simp [hsin, not_respondeUna_nil]
        · have hescritura : (memoryIoEscribirRed m.red dirFisica tamanio datos).isSome ↔
              EscriturasVuelven m.rotos (accesos m.ram.tabla dirFisica tamanio).1 m.ram.cortes :=
            escribirTramosRed_isSome _
          rw [if_neg hsin, ← hescritura, and_iff_right hsin]
          rcases memoryIoEscribirRed m.red dirFisica tamanio datos with _ | ⟨escrito, red⟩
          · simp
          · simpa [Mensaje.paquete, OpCode.enRed] using huna

end Manejadores

section Locales

variable (m : KernelMemory) (pid : ℤ)

theorem manejarEliminarSegmento_una (id : UInt32) :
    RespondeUna ((manejarEliminarSegmento m pid id).1.map Mensaje.paquete) := by
  have huna : RespondeUna [enviarOk .eliminarSegmento] := respondeUna_ok rfl
  unfold manejarEliminarSegmento
  split
  · exact huna
  · split
    · exact huna
    · exact respondeUna_liberada huna

theorem manejarFinalizarProceso_una :
    RespondeUna ((manejarFinalizarProceso m pid).1.map Mensaje.paquete) := by
  have huna : RespondeUna [enviarOk .finalizarProceso] := respondeUna_ok rfl
  unfold manejarFinalizarProceso
  split
  · exact huna
  · rename_i proc _
    cases proc.segmentos.any fun s ↦ s.Residente with
    | false => exact huna
    | true => exact respondeUna_liberada huna

/-- The second half of `SOLICITAR_SEGMENTO`, in whatever memory it finds. -/
theorem reasignar_una (id tamanio : UInt32) :
    RespondeUna ((reasignar m pid id tamanio).1.map Mensaje.paquete) := by
  unfold reasignar
  rcases bloquesAsignar m.config.worstFit m.bloquesLibres tamanio with ⟨base, libres⟩
  by_cases hbase : base = sinBase
  · simp only [if_pos hbase]
    exact respondeUna_ok rfl
  · simp only [if_neg hbase]
    cases procesosBuscar m.procesos pid with
    | none => exact respondeUna_ok rfl
    | some _ => exact respondeUna_segmento _ _ _

theorem solicitarSinCompactar_una {id tamanio : UInt32} {respuesta : List Mensaje} {m' : KernelMemory}
    (h : solicitarSinCompactar m pid id tamanio = (some respuesta, m')) :
    RespondeUna (respuesta.map Mensaje.paquete) := by
  have hfalla : RespondeUna ([Mensaje.ok .segmentationFault].map Mensaje.paquete) := respondeUna_ok rfl
  have hfst : (solicitarSinCompactar m pid id tamanio).1 = some respuesta := by rw [h]
  unfold solicitarSinCompactar at hfst
  by_cases hmax : tamanio > m.config.segmentMaxSize.toUInt32
  · rw [if_pos hmax] at hfst
    rwa [← Option.some.inj hfst]
  · rw [if_neg hmax] at hfst
    rcases hasigna : bloquesAsignar m.config.worstFit m.bloquesLibres tamanio with ⟨base, libres⟩
    cases hbusca : procesosBuscar m.procesos pid with
    | none =>
      simp only [hbusca] at hfst
      rwa [← Option.some.inj hfst]
    | some proc =>
      simp only [hbusca, hasigna] at hfst
      by_cases hbase : base = sinBase
      · simp only [if_pos hbase] at hfst
        split at hfst
        · rwa [← Option.some.inj hfst]
        · cases hfst
      · simp only [if_neg hbase] at hfst
        rw [← Option.some.inj hfst]
        exact respondeUna_segmento _ _ _

end Locales

omit [Recepcion] in
/-- A handler that takes nothing more from the stream. -/
theorem manejador_pure_iff {P : List Paquete → Prop} {resultado : Option (List Paquete × MemoriaEnRed)} :
    (∀ resto, ∃ tramas despues,
      (pure resultado : Lector (Option (List Paquete × MemoriaEnRed))) resto = .ok (some (tramas, despues), resto) ∧
        P tramas) ↔ ∃ tramas despues, resultado = some (tramas, despues) ∧ P tramas := by
  have hpure : ∀ resto, (pure resultado : Lector (Option (List Paquete × MemoriaEnRed))) resto =
    .ok (resultado, resto) := fun _ ↦ rfl
  simp [hpure]

theorem map_tramas_iff {m : MemoriaEnRed} {resultado : Option (List Mensaje × MemoriaEnRed)} :
    (∃ enviadas despues, resultado.map (tramas m) = some (enviadas, despues) ∧ RespondeUna enviadas) ↔
      TerminaConUna resultado := by
  unfold TerminaConUna
  rcases resultado with _ | ⟨mensajes, despues⟩
  · simp
  · have huna := respondeUna_tramas m (mensajes, despues)
    rcases hespera : tramas m (mensajes, despues) with ⟨enviadas, final⟩
    rw [hespera] at huna
    simp [hespera, huna]

theorem recibirAcuse_reads :
    Reads recibirAcuse (serializarPaquete (enviarOk .iniciarCompactacion)) () := by
  rw [serializarPaquete_eq]
  exact (reads_uint32 _).bind recibe_ok

/-- The notifications of a compaction that comes to its end, and one answer. -/
theorem Entorno.compactarYReasignar_una (e : Entorno) (m : MemoriaEnRed) (pid : ℤ) (id tamanio : UInt32) :
    (∃ enviadas despues, e.compactarYReasignar m pid id tamanio = some (enviadas, despues) ∧
      RespondeUna enviadas) ↔
        CompactacionVuelve (e.qsort.ordenar (entradas (e.durante m).procesos)) 0 (e.durante m) := by
  rw [← compactarMemoriaRed_isSome]
  unfold compactarYReasignar
  dsimp only
  cases compactarMemoriaRed e.qsort (e.durante m) with
  | none => simp
  | some compactada =>
    refine iff_of_true ⟨_, _, rfl, ?_⟩ rfl
    rw [respondeUna_append]
    · exact reasignar_una _ pid id tamanio
    · intro trama htrama
      rcases List.mem_cons.mp htrama with rfl | htrama
      · exact ⟨(llega_ok .iniciarCompactacion).2, rfl⟩
      · rcases List.mem_append.mp htrama with htrama | htrama
        · obtain rfl := List.eq_of_mem_replicate htrama
          exact ⟨(llega_ok .memoriaCorruptaBsod).2, rfl⟩
        · obtain rfl := List.mem_singleton.mp htrama
          exact ⟨(llega_ok .finalizarCompactacion).2, rfl⟩

theorem PedidoScheduler.manejar_iff (e : Entorno) (m : MemoriaEnRed) (pedido : PedidoScheduler)
    (hdatos : ∀ pid dir, pedido ≠ .escrituraMemoria pid dir []) :
    (∀ resto, ∃ enviadas despues, pedido.manejar e m (pedido.acuse m.toKernelMemory ++ resto) =
      .ok (some (enviadas, despues), resto) ∧ RespondeUna enviadas) ↔ pedido.Contesta e m := by
  cases pedido with
  | crearProceso pid path =>
    exact manejador_pure_iff.trans (iff_of_true ⟨_, _, rfl, respondeUna_ok rfl⟩ trivial)
  | actualizarContexto pid registros segmentos =>
    exact manejador_pure_iff.trans (iff_of_true ⟨_, _, rfl, respondeUna_ok rfl⟩ trivial)
  | obtenerEspacioLibre =>
    refine manejador_pure_iff.trans (iff_of_true ⟨_, _, rfl, fun trama htrama ↦ ?_, rfl⟩ trivial)
    obtain rfl := List.mem_singleton.mp htrama
    exact (llega_uint32 _).2
  | lecturaMemoria pid dir tamanio =>
    exact (manejador_pure_iff.trans map_tramas_iff).trans (manejarLecturaMemoriaRed_una m pid.toInt dir tamanio)
  | escrituraMemoria pid dir datos =>
    have hbytes : datos ≠ [] := by
      rintro rfl
      exact hdatos pid dir rfl
    exact ((manejador_pure_iff.trans map_tramas_iff).trans
      (manejarEscrituraMemoriaRed_una m pid.toInt dir _ datos)).trans (and_iff_right hbytes).symm
  | suspenderProceso pid =>
    exact (manejador_pure_iff.trans map_tramas_iff).trans (manejarSuspenderProcesoRed_una m pid.toInt)
  | desSuspenderProceso pid =>
    exact (manejador_pure_iff.trans map_tramas_iff).trans (manejarDesSuspenderProcesoRed_una m pid.toInt)
  | solicitarSegmento pid id tamanio =>
    simp only [PedidoScheduler.manejar, PedidoScheduler.acuse, PedidoScheduler.Contesta]
    rcases hprimera : solicitarSinCompactar m.toKernelMemory pid.toInt id tamanio with ⟨respuesta | respuesta, m'⟩
    · simp only [bind_of_run (recibirAcuse_reads _), Prod.mk.injEq, true_and, forall_eq']
      exact manejador_pure_iff.trans (e.compactarYReasignar_una (m.con m') pid.toInt id tamanio)
    · refine manejador_pure_iff.trans (iff_of_true ⟨_, _, rfl, ?_⟩ nofun)
      exact solicitarSinCompactar_una m.toKernelMemory pid.toInt hprimera
  | eliminarSegmento pid id =>
    exact manejador_pure_iff.trans (iff_of_true ⟨_, _, rfl, manejarEliminarSegmento_una _ pid.toInt id⟩ trivial)
  | finalizarProceso pid =>
    exact manejador_pure_iff.trans (iff_of_true ⟨_, _, rfl, manejarFinalizarProceso_una _ pid.toInt⟩ trivial)

theorem leerPedidoCpu_falla {pedido : PedidoCpu} (hcabe : CabeEnTrama pedido.paquete.stream.length)
    (hno : ¬ Llega pedido.paquete.stream.length) :
    ∃ fallo, leerPedidoCpu (serializarPaquete pedido.paquete) = .error fallo := by
  have hcodigo : Reads recibirCodigoOperacion (deUint32 pedido.paquete.codigo.valor) pedido.paquete.codigo.valor :=
    reads_uint32 _
  rw [serializarPaquete_eq]
  unfold leerPedidoCpu
  rw [bind_of_run (hcodigo _)]
  cases pedido with
  | obtenerInstruccion pid pc => exact absurd (llega_intUint32 pid pc) hno
  | obtenerContexto pid => exact absurd (llega_int pid) hno
  | actualizarContexto pid registros segmentos => exact falla_de_no_llega hcabe hno

theorem PedidoCpu.manejar_iff (m : KernelMemory) (pedido : PedidoCpu) :
    RespondeUna (pedido.manejar m).1 ↔ pedido.Contesta m := by
  cases pedido with
  | obtenerInstruccion pid pc =>
    have hlargo : (respuestaInstruccion (lineaInstruccion m pid pc)).stream.length =
        (lineaInstruccion m pid pc).bytes.length + 5 := by
      simp only [Paquete.stream, respuestaInstruccion, paqueteCadena, List.flatten_cons, List.flatten_nil,
        List.append_nil, length_deCadena]
    exact (respondeUna_singleton rfl hlargo).trans (and_iff_right (Nat.succ_pos _)).symm
  | obtenerContexto pid =>
    simp only [manejar, manejarObtenerContextoCpu, Contesta]
    cases hbusca : procesosBuscar m.procesos pid.toInt with
    | none =>
      refine iff_of_false not_respondeUna_nil ?_
      rintro ⟨proc, hproc, _⟩
      cases hproc
    | some proc =>
      have hlargo : (enviarContextoProceso proc.registros proc.segmentos).stream.length =
          36 + 16 * proc.segmentos.length := by
        simp only [Paquete.stream, enviarContextoProceso, List.flatten_cons, List.length_append,
          length_deRegistros, length_deInt, length_segmentos]
        omega
      simp only [Option.map_some, Option.some.injEq, exists_eq_left']
      exact (respondeUna_singleton rfl hlargo).trans (and_iff_right (by omega)).symm
  | actualizarContexto pid registros segmentos => exact iff_of_true (respondeUna_ok rfl) trivial

/-! ## Every request -/

end

section Muestra

local instance recepcionDeRespuestas : Recepcion := Red.recepcionTipica

/-- A process with a segment on a stick, the connection to which breaks at the next request. -/
def memoriaConCorte : MemoriaEnRed where
  config := ⟨16, none⟩
  procesos := [⟨1, .cero, [⟨0, 0, 4, 0⟩], ["EXIT"]⟩]
  bloquesLibres := [⟨4, 4⟩]
  ram := ⟨[⟨1, 8, "", "", 0, 3, fun _ ↦ 7⟩], [true], 0⟩
  swap := registrarSwap ⟨4, 4, 4, fun _ ↦ 0, [], configurado_un_bloque⟩
  rotos := []
  caidas := [true]

/-- Nothing else runs, and there are no scripts. -/
def entornoSolo : Entorno := ⟨.insercion, fun _ ↦ [], id, id⟩

end Muestra

end PlugAndPlay.Memoria
