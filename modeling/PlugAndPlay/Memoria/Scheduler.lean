import PlugAndPlay.Memoria.Compactacion

/-!
# The requests of the scheduler

`memory_scheduler.c`: the handlers of the thread that serves the Kernel Scheduler, one request after
the other. A handler returns what it sends to the scheduler, in order, and the state it leaves.
`SOLICITAR_SEGMENTO` is cut where the source lets go of `mutex_memoria`, so that the same pieces
serve the models in which other threads run in between. That the messages to the sticks and to the
swap process arrive, or fail at once, is assumed here; `TransferenciasEnRed` has these handlers with
the messages.
-/

open PlugAndPlay.Library

namespace PlugAndPlay.Memoria

/-! ## Suspension -/

/-- The loop of `volcar_segmento_a_swap` from block `b` on, with `restantes` blocks to go. -/
def volcarBloques (seg : Segmento) : ℕ → UInt32 → KernelMemory → Bool × KernelMemory
  | 0, _, m => (true, m)
  | restantes + 1, b, m =>
    let bs := m.swap.blockSize
    match memoryIoLeer m.ram (seg.base + b * bs) (chunkDeBloque seg.limite bs b) with
    | (.error _, ram) => (false, { m with ram := ram })
    | (.ok datos, ram) =>
      -- the block is zeroed before the bytes of the segment go to its front
      let bloqueBuf := datos ++ List.replicate (bs.toNat - datos.length) 0
      match swapEscribirBloque m.swap (seg.swapBloqueInicio + b) bloqueBuf with
      | (false, swap) => (false, { m with ram := ram, swap := swap })
      | (true, swap) => volcarBloques seg restantes (b + 1) { m with ram := ram, swap := swap }

/-- `volcar_segmento_a_swap`. -/
def volcarSegmentoASwap (seg : Segmento) (m : KernelMemory) : Bool × KernelMemory :=
  volcarBloques seg (cantidadBloques seg.limite m.swap.blockSize).toNat 0 m

/-- How `manejar_suspender_proceso` ended. -/
inductive FinSuspension
  | completa
  | sinProceso
  | sinSwap
  | sinBloques
  | fallo
deriving Repr, DecidableEq

/-- The loop of `manejar_suspender_proceso`: reserve blocks, copy, and only then give the range
back. It ends at the first segment without blocks or whose copy fails. -/
def suspenderSegmentos : List Segmento → KernelMemory →
    FinSuspension × List Segmento × KernelMemory
  | [], m => (.completa, [], m)
  | seg :: resto, m =>
    let (bloqueInicio, swap) :=
      swapReservarBloques m.swap (cantidadBloques seg.limite m.swap.blockSize)
    if bloqueInicio = sinBase then (.sinBloques, seg :: resto, m)
    else
      let seg := { seg with swapBloqueInicio := bloqueInicio }
      match volcarSegmentoASwap seg { m with swap := swap } with
      | (false, m) => (.fallo, seg :: resto, m)
      | (true, m) =>
        let libres := bloquesLiberar m.bloquesLibres seg.base seg.limite
        let (fin, resto, m) := suspenderSegmentos resto { m with bloquesLibres := libres }
        (fin, { seg with base := sinBase } :: resto, m)

/-- Writing back the segment table of a process. -/
def ponerSegmentos (m : KernelMemory) (pid : ℤ) (segmentos : List Segmento) : KernelMemory :=
  { m with procesos := procesosModificar pid (fun p ↦ { p with segmentos := segmentos }) m.procesos }

/-- The body of `manejar_suspender_proceso`, and how it ended. -/
def suspenderProceso (m : KernelMemory) (pid : ℤ) : FinSuspension × KernelMemory :=
  match procesosBuscar m.procesos pid with
  | none => (.sinProceso, m)
  | some proc =>
    if m.swap.socket < 0 then (.sinSwap, m)
    else
      let (fin, segmentos, m) := suspenderSegmentos proc.segmentos m
      (fin, ponerSegmentos m pid segmentos)

/-- `manejar_suspender_proceso`: the same `OK` whether the process was suspended or not, and no
answer when a transfer failed. -/
def manejarSuspenderProceso (m : KernelMemory) (pid : ℤ) : List Mensaje × KernelMemory :=
  match suspenderProceso m pid with
  | (.fallo, m) => ([], m)
  | (_, m) => ([.ok .suspenderProceso], m)

/-! ## Resumption -/

/-- The reservations of `reservar_segmentos_con_rollback`: the segments with their new bases, up to
the first that does not fit. -/
def reservarSegmentos (worstFit : Bool) : List Segmento → List BloqueLibre →
    Bool × List Segmento × List BloqueLibre
  | [], libres => (true, [], libres)
  | seg :: resto, libres =>
    let (nuevaBase, libres) := bloquesAsignar worstFit libres seg.limite
    if nuevaBase = sinBase then (false, [], libres)
    else
      let (todo, reservas, libres) := reservarSegmentos worstFit resto libres
      (todo, { seg with base := nuevaBase } :: reservas, libres)

/-- `reservar_segmentos_con_rollback`: the segments at their new bases, or nothing after the
reserved ranges went back to the free list. -/
def reservarSegmentosConRollback (worstFit : Bool) (segmentos : List Segmento)
    (libres : List BloqueLibre) : Option (List Segmento) × List BloqueLibre :=
  match reservarSegmentos worstFit segmentos libres with
  | (true, reservas, libres) => (some reservas, libres)
  | (false, reservas, libres) =>
    (none, reservas.foldl (fun libres r ↦ bloquesLiberar libres r.base r.limite) libres)

/-- The inner loop of `transferir_swap_a_ram`; the result of the write to RAM is not looked at. -/
def transferirBloques (seg : Segmento) : ℕ → UInt32 → KernelMemory → Bool × KernelMemory
  | 0, _, m => (true, m)
  | restantes + 1, b, m =>
    let bs := m.swap.blockSize
    match swapLeerBloque m.swap (seg.swapBloqueInicio + b) with
    | (none, swap) => (false, { m with swap := swap })
    | (some datos, swap) =>
      let chunk := chunkDeBloque seg.limite bs b
      let (_, ram) := memoryIoEscribir m.ram (seg.base + b * bs) chunk datos
      transferirBloques seg restantes (b + 1) { m with ram := ram, swap := swap }

/-- `transferir_swap_a_ram`. -/
def transferirSwapARam : List Segmento → KernelMemory → Bool × KernelMemory
  | [], m => (true, m)
  | seg :: resto, m =>
    match transferirBloques seg (cantidadBloques seg.limite m.swap.blockSize).toNat 0 m with
    | (false, m) => (false, m)
    | (true, m) => transferirSwapARam resto m

/-- How `manejar_des_suspender_proceso` ended. -/
inductive FinReanudacion
  | completa
  | sinProceso
  | sinSwap
  | sinEspacio
  | fallo
deriving Repr, DecidableEq

/-- The body of `manejar_des_suspender_proceso`, and how it ended. It places every segment of the
process, resident or not. -/
def desSuspenderProceso (m : KernelMemory) (pid : ℤ) : FinReanudacion × KernelMemory :=
  match procesosBuscar m.procesos pid with
  | none => (.sinProceso, m)
  | some proc =>
    if m.swap.socket < 0 then (.sinSwap, m)
    else
      match reservarSegmentosConRollback m.config.worstFit proc.segmentos m.bloquesLibres with
      | (none, libres) => (.sinEspacio, { m with bloquesLibres := libres })
      | (some segmentos, libres) =>
        match transferirSwapARam segmentos
            (ponerSegmentos { m with bloquesLibres := libres } pid segmentos) with
        | (false, m) => (.fallo, m)
        | (true, m) => (.completa, m)

/-- `manejar_des_suspender_proceso`. -/
def manejarDesSuspenderProceso (m : KernelMemory) (pid : ℤ) : List Mensaje × KernelMemory :=
  match desSuspenderProceso m pid with
  | (.completa, m) | (.sinProceso, m) => ([.ok .desSuspenderProceso], m)
  | (_, m) => ([.ok .segmentationFault], m)

/-! ## Segments -/

/-- The end of `manejar_solicitar_segmento`: the new segment goes to the end of the table. -/
def agregarSegmento (m : KernelMemory) (pid : ℤ) (id base tamanio : UInt32) : KernelMemory :=
  let nuevo : Segmento := ⟨id, base, tamanio, 0⟩
  { m with
    procesos := procesosModificar pid (fun p ↦ { p with segmentos := p.segmentos ++ [nuevo] })
      m.procesos }

/-- The first critical section of `manejar_solicitar_segmento`: an answer, or nothing when the
memory has to be compacted first. -/
def solicitarSinCompactar (m : KernelMemory) (pid : ℤ) (id tamanio : UInt32) :
    Option (List Mensaje) × KernelMemory :=
  if tamanio > m.config.segmentMaxSize.toUInt32 then (some [.ok .segmentationFault], m)
  else
    match procesosBuscar m.procesos pid with
    | none => (some [.ok .segmentationFault], m)
    | some _ =>
      let (base, libres) := bloquesAsignar m.config.worstFit m.bloquesLibres tamanio
      let m := { m with bloquesLibres := libres }
      if base = sinBase then
        if bloquesCalcularEspacioLibre m.bloquesLibres < tamanio then
          (some [.ok .segmentationFault], m)
        else (none, m)
      else (some [.solicitarSegmento id base tamanio], agregarSegmento m pid id base tamanio)

/-- The last critical section of `compactar_y_reasignar`, and the segment when it succeeds. The
process is looked for only after the range was taken. -/
def reasignar (m : KernelMemory) (pid : ℤ) (id tamanio : UInt32) : List Mensaje × KernelMemory :=
  let (base, libres) := bloquesAsignar m.config.worstFit m.bloquesLibres tamanio
  let m := { m with bloquesLibres := libres }
  if base = sinBase then ([.ok .segmentationFault], m)
  else
    match procesosBuscar m.procesos pid with
    | none => ([.ok .segmentationFault], m)
    | some _ => ([.solicitarSegmento id base tamanio], agregarSegmento m pid id base tamanio)

/-- `manejar_solicitar_segmento` with nothing else running. -/
def manejarSolicitarSegmento (qsort : Qsort) (m : KernelMemory) (pid : ℤ) (id tamanio : UInt32) :
    List Mensaje × KernelMemory :=
  match solicitarSinCompactar m pid id tamanio with
  | (some respuesta, m) => (respuesta, m)
  | (none, m) =>
    let (respuesta, m) := reasignar (compactarMemoria qsort m) pid id tamanio
    (.ok .iniciarCompactacion :: .ok .finalizarCompactacion :: respuesta, m)

/-- `manejar_eliminar_segmento`: the first segment with the id goes back to the free list, wherever
its base is. -/
def manejarEliminarSegmento (m : KernelMemory) (pid : ℤ) (id : UInt32) :
    List Mensaje × KernelMemory :=
  match procesosBuscar m.procesos pid with
  | none => ([.ok .eliminarSegmento], m)
  | some proc =>
    match proc.segmentos.find? fun s ↦ s.id = id with
    | none => ([.ok .eliminarSegmento], m)
    | some seg =>
      let libres := bloquesLiberar m.bloquesLibres seg.base seg.limite
      ([.ok .eliminarSegmento, .ok .memoriaLiberada],
        ponerSegmentos { m with bloquesLibres := libres } pid
          (proc.segmentos.eraseP fun s ↦ s.id = id))

/-! ## Processes and data -/

/-- `manejar_crear_proceso`, given what `cargar_script` read. -/
def manejarCrearProceso (m : KernelMemory) (pid : ℤ) (instrucciones : List String) :
    List Mensaje × KernelMemory :=
  ([.ok .crearProceso], { m with procesos := m.procesos ++ [⟨pid, .cero, [], instrucciones⟩] })

/-- The inner loop of `manejar_finalizar_proceso`: the resident segments go back. -/
def liberarSegmentos (segmentos : List Segmento) (libres : List BloqueLibre) : List BloqueLibre :=
  segmentos.foldl
    (fun libres s ↦ if s.Residente then bloquesLiberar libres s.base s.limite else libres) libres

/-- `manejar_finalizar_proceso`. -/
def manejarFinalizarProceso (m : KernelMemory) (pid : ℤ) : List Mensaje × KernelMemory :=
  match procesosBuscar m.procesos pid with
  | none => ([.ok .finalizarProceso], m)
  | some proc =>
    let libero := proc.segmentos.any fun s ↦ s.Residente
    (.ok .finalizarProceso :: if libero then [.ok .memoriaLiberada] else [],
      { m with
        bloquesLibres := liberarSegmentos proc.segmentos m.bloquesLibres
        procesos := procesosQuitar pid m.procesos })

/-- `manejar_obtener_espacio_libre`. -/
def manejarObtenerEspacioLibre (m : KernelMemory) : List Mensaje × KernelMemory :=
  ([.obtenerEspacioLibre (bloquesCalcularEspacioLibre m.bloquesLibres)], m)

/-- `manejar_lectura_memoria`. The value `sinBase` ends it also where it is a translated address. -/
def manejarLecturaMemoria (m : KernelMemory) (pid : ℤ) (dir tamanio : UInt32) :
    List Mensaje × KernelMemory :=
  match procesosBuscar m.procesos pid with
  | none => ([.ok .segmentationFault], m)
  | some proc =>
    match traducirDirLogica m.config proc dir tamanio with
    | none => ([.ok .segmentationFault], m)
    | some dirFisica =>
      if dirFisica = sinBase then ([], m)
      else
        match memoryIoLeer m.ram dirFisica tamanio with
        | (.error _, ram) => ([], { m with ram := ram })
        | (.ok datos, ram) => ([.lecturaMemoria datos], { m with ram := ram })

/-- `manejar_escritura_memoria`: it answers `OK` whatever became of the write. -/
def manejarEscrituraMemoria (m : KernelMemory) (pid : ℤ) (dir tamanio : UInt32)
    (datos : List UInt8) : List Mensaje × KernelMemory :=
  match procesosBuscar m.procesos pid with
  | none => ([.ok .segmentationFault], m)
  | some proc =>
    match traducirDirLogica m.config proc dir tamanio with
    | none => ([.ok .segmentationFault], m)
    | some dirFisica =>
      if dirFisica = sinBase then ([], m)
      else
        ([.ok .escrituraMemoria],
          { m with ram := (memoryIoEscribir m.ram dirFisica tamanio datos).2 })

end PlugAndPlay.Memoria
