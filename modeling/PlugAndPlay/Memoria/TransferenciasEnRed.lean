import PlugAndPlay.Memoria.CompactacionEnRed
import PlugAndPlay.Memoria.LlamadasSwap
import PlugAndPlay.Memoria.Scheduler

/-!
# The handlers of the scheduler over the sockets

The handlers of `memory_scheduler.c` that move bytes, with the messages to the sticks and to the swap process. A
transfer that a receive buffer cannot hold has no end; a swap process that has died ends Kernel Memory, which aborts
in `validar_buffer`, and so does a message to a stick whose connection has broken. What comes to its end has done
what the handlers of `Scheduler` say, up to a read that a stick dies of.
-/

open PlugAndPlay.Library

namespace PlugAndPlay.Memoria

open Red (CabeEnTrama Llega Recepcion largoPedidoEscritura)

/-! ## The code -/

/-- The next request to the swap process: whether it has died by then. -/
def MemoriaEnRed.siguienteCaida (m : MemoriaEnRed) : Bool × MemoriaEnRed :=
  (m.caidas.headD false, { m with caidas := m.caidas.tail })

/-- `traducir_dir_logica` of a known process divides by `SEGMENT_MAX_SIZE`, which a configuration may set to
zero. -/
def DivideEntreCero (m : KernelMemory) (pid : ℤ) : Prop :=
  (procesosBuscar m.procesos pid).isSome ∧ m.config.segmentMaxSize.toUInt32 = 0

instance (m : KernelMemory) (pid : ℤ) : Decidable (DivideEntreCero m pid) := inferInstanceAs (Decidable (_ ∧ _))

section

variable [Recepcion]

/-- `swap_escribir_bloque`. -/
def swapEscribirBloqueRed (m : MemoriaEnRed) (bloque : UInt32) (datos : List UInt8) :
    Option (Bool × MemoriaEnRed) :=
  if m.swap.socket < 0 then some (false, m)
  else
    match m.siguienteCaida with
    | (true, _) => none
    | (false, m) =>
      if LlegaBloque m.swap.blockSize then
        some ((swapEscribirBloque m.swap bloque datos).1,
          { m with swap := (swapEscribirBloque m.swap bloque datos).2 })
      else none

/-- `swap_leer_bloque`; only the answer with a block is long. -/
def swapLeerBloqueRed (m : MemoriaEnRed) (bloque : UInt32) : Option (Option (List UInt8) × MemoriaEnRed) :=
  if m.swap.socket < 0 then some (none, m)
  else
    match m.siguienteCaida with
    | (true, _) => none
    | (false, m) =>
      match swapLeerBloque m.swap bloque with
      | (none, swap) => some (none, { m with swap := swap })
      | (some datos, swap) =>
        if LlegaBloque m.swap.blockSize then some (some datos, { m with swap := swap }) else none

/-- The loop of `volcar_segmento_a_swap`. -/
def volcarBloquesRed (seg : Segmento) : ℕ → UInt32 → MemoriaEnRed → Option (Bool × MemoriaEnRed)
  | 0, _, m => some (true, m)
  | restantes + 1, b, m =>
    let bs := m.swap.blockSize
    match memoryIoLeerRed m.red (seg.base + b * bs) (chunkDeBloque seg.limite bs b) with
    | none => none
    | some (.error _, red) => some (false, m.conRed red)
    | some (.ok datos, red) =>
      let bloqueBuf := datos ++ List.replicate (bs.toNat - datos.length) 0
      match swapEscribirBloqueRed (m.conRed red) (seg.swapBloqueInicio + b) bloqueBuf with
      | none => none
      | some (false, m) => some (false, m)
      | some (true, m) => volcarBloquesRed seg restantes (b + 1) m

/-- `volcar_segmento_a_swap`. -/
def volcarSegmentoASwapRed (seg : Segmento) (m : MemoriaEnRed) : Option (Bool × MemoriaEnRed) :=
  volcarBloquesRed seg (cantidadBloques seg.limite m.swap.blockSize).toNat 0 m

/-- The loop of `manejar_suspender_proceso`. -/
def suspenderSegmentosRed : List Segmento → MemoriaEnRed → Option (FinSuspension × List Segmento × MemoriaEnRed)
  | [], m => some (.completa, [], m)
  | seg :: resto, m =>
    -- The number of blocks is a division by their size.
    if m.swap.blockSize = 0 then none
    else
      let (bloqueInicio, swap) :=
        swapReservarBloques m.swap (cantidadBloques seg.limite m.swap.blockSize)
      if bloqueInicio = sinBase then some (.sinBloques, seg :: resto, m)
      else
        let seg := { seg with swapBloqueInicio := bloqueInicio }
        match volcarSegmentoASwapRed seg { m with swap := swap } with
        | none => none
        | some (false, m) => some (.fallo, seg :: resto, m)
        | some (true, m) =>
          let libres := bloquesLiberar m.bloquesLibres seg.base seg.limite
          (suspenderSegmentosRed resto { m with bloquesLibres := libres }).map fun (fin, resto, m) ↦
            (fin, { seg with base := sinBase } :: resto, m)

/-- The body of `manejar_suspender_proceso`, and how it ended. -/
def suspenderProcesoRed (m : MemoriaEnRed) (pid : ℤ) : Option (FinSuspension × MemoriaEnRed) :=
  match procesosBuscar m.procesos pid with
  | none => some (.sinProceso, m)
  | some proc =>
    if m.swap.socket < 0 then some (.sinSwap, m)
    else
      (suspenderSegmentosRed proc.segmentos m).map fun (fin, segmentos, m) ↦
        (fin, m.con (ponerSegmentos m.toKernelMemory pid segmentos))

/-- `manejar_suspender_proceso`. -/
def manejarSuspenderProcesoRed (m : MemoriaEnRed) (pid : ℤ) : Option (List Mensaje × MemoriaEnRed) :=
  (suspenderProcesoRed m pid).map fun
    | (.fallo, m) => ([], m)
    | (_, m) => ([.ok .suspenderProceso], m)

/-- The inner loop of `transferir_swap_a_ram`. -/
def transferirBloquesRed (seg : Segmento) : ℕ → UInt32 → MemoriaEnRed → Option (Bool × MemoriaEnRed)
  | 0, _, m => some (true, m)
  | restantes + 1, b, m =>
    let bs := m.swap.blockSize
    match swapLeerBloqueRed m (seg.swapBloqueInicio + b) with
    | none => none
    | some (none, m) => some (false, m)
    | some (some datos, m) =>
      match memoryIoEscribirRed m.red (seg.base + b * bs) (chunkDeBloque seg.limite bs b) datos with
      | none => none
      | some (_, red) => transferirBloquesRed seg restantes (b + 1) (m.conRed red)

/-- `transferir_swap_a_ram`. -/
def transferirSwapARamRed : List Segmento → MemoriaEnRed → Option (Bool × MemoriaEnRed)
  | [], m => some (true, m)
  | seg :: resto, m =>
    if m.swap.blockSize = 0 then none
    else
      match transferirBloquesRed seg (cantidadBloques seg.limite m.swap.blockSize).toNat 0 m with
      | none => none
      | some (false, m) => some (false, m)
      | some (true, m) => transferirSwapARamRed resto m

/-- The body of `manejar_des_suspender_proceso`, and how it ended. -/
def desSuspenderProcesoRed (m : MemoriaEnRed) (pid : ℤ) : Option (FinReanudacion × MemoriaEnRed) :=
  match procesosBuscar m.procesos pid with
  | none => some (.sinProceso, m)
  | some proc =>
    if m.swap.socket < 0 then some (.sinSwap, m)
    else
      match reservarSegmentosConRollback m.config.worstFit proc.segmentos m.bloquesLibres with
      | (none, libres) => some (.sinEspacio, { m with bloquesLibres := libres })
      | (some segmentos, libres) =>
        (transferirSwapARamRed segmentos
            (m.con (ponerSegmentos { m.toKernelMemory with bloquesLibres := libres } pid segmentos))).map fun
          | (false, m) => (.fallo, m)
          | (true, m) => (.completa, m)

/-- `manejar_des_suspender_proceso`. -/
def manejarDesSuspenderProcesoRed (m : MemoriaEnRed) (pid : ℤ) : Option (List Mensaje × MemoriaEnRed) :=
  (desSuspenderProcesoRed m pid).map fun
    | (.completa, m) | (.sinProceso, m) => ([.ok .desSuspenderProceso], m)
    | (_, m) => ([.ok .segmentationFault], m)

/-- `manejar_lectura_memoria`. -/
def manejarLecturaMemoriaRed (m : MemoriaEnRed) (pid : ℤ) (dir tamanio : UInt32) :
    Option (List Mensaje × MemoriaEnRed) :=
  if DivideEntreCero m.toKernelMemory pid then none
  else
    match procesosBuscar m.procesos pid with
    | none => some ([.ok .segmentationFault], m)
    | some proc =>
      match traducirDirLogica m.config proc dir tamanio with
      | none => some ([.ok .segmentationFault], m)
      | some dirFisica =>
        if dirFisica = sinBase then some ([], m)
        else
          (memoryIoLeerRed m.red dirFisica tamanio).map fun
            | (.error _, red) => ([], m.conRed red)
            | (.ok datos, red) => ([.lecturaMemoria datos], m.conRed red)

/-- `manejar_escritura_memoria`. -/
def manejarEscrituraMemoriaRed (m : MemoriaEnRed) (pid : ℤ) (dir tamanio : UInt32) (datos : List UInt8) :
    Option (List Mensaje × MemoriaEnRed) :=
  if DivideEntreCero m.toKernelMemory pid then none
  else
    match procesosBuscar m.procesos pid with
    | none => some ([.ok .segmentationFault], m)
    | some proc =>
      match traducirDirLogica m.config proc dir tamanio with
      | none => some ([.ok .segmentationFault], m)
      | some dirFisica =>
        if dirFisica = sinBase then some ([], m)
        else
          (memoryIoEscribirRed m.red dirFisica tamanio datos).map fun (_, red) ↦
            ([.ok .escrituraMemoria], m.conRed red)

end

/-! ## Which transfers come back -/

/-- Up to the piece at which a connection breaks, the answers of a read arrive; a stick also breaks its connection
when it dies of an answer that fits into no frame. -/
def LecturasVuelven [Recepcion] (rotos : List ℕ) : List Acceso → List Bool → Prop
  | [], _ => True
  | acceso :: resto, cortes =>
    acceso.stick ∉ rotos ∧ (cortes.headD false = true ∨ ¬ CabeEnTrama acceso.bytes.toNat ∨
      Llega acceso.bytes.toNat ∧ LecturasVuelven rotos resto cortes.tail)

/-- Up to the piece at which a connection breaks, the requests of a write arrive. -/
def EscriturasVuelven [Recepcion] (rotos : List ℕ) : List Acceso → List Bool → Prop
  | [], _ => True
  | acceso :: resto, cortes =>
    acceso.stick ∉ rotos ∧ CabeEnTrama (largoPedidoEscritura + acceso.bytes.toNat) ∧
      (cortes.headD false = true ∨
        Llega (largoPedidoEscritura + acceso.bytes.toNat) ∧ EscriturasVuelven rotos resto cortes.tail)

section Vuelven

variable [Recepcion] {red : RamEnRed} {dirAct restante : UInt32} {datos : List UInt8}

theorem leerTramosRed_isSome (pasos : ℕ) :
    (leerTramosRed pasos red dirAct restante).isSome ↔
      LecturasVuelven red.rotos (accesosIo pasos red.ram.tabla dirAct restante).1 red.ram.cortes := by
  induction pasos generalizing red dirAct restante with
  | zero => exact iff_of_true rfl trivial
  | succ pasos ih =>
    by_cases hcero : restante = 0
    · rw [leerTramosRed, if_pos hcero, accesosIo, if_pos hcero]
      exact iff_of_true rfl trivial
    · cases hacceso : siguienteAcceso red.ram.tabla dirAct restante with
      | none =>
        rw [leerTramosRed, if_neg hcero, hacceso, accesosIo_sinStick pasos hcero hacceso]
        exact iff_of_true rfl trivial
      | some acceso =>
        obtain ⟨datos, hdatos, -⟩ := pieza_of_acceso hacceso
        rw [leerTramosRed, if_neg hcero, hacceso, accesosIo_pieza pasos hcero hacceso]
        dsimp only
        unfold LecturasVuelven
        rcases RamEnRed.leerPieza_cases hdatos with ⟨hroto, hpieza⟩ | ⟨hroto, hcorta, hpieza⟩ |
          ⟨hcorte, hcabe, hno, hpieza⟩ | ⟨hllega, hcorte, hcabe, hpieza⟩
        · rw [hpieza]
          exact iff_of_false Bool.false_ne_true fun h ↦ h.1 hroto
        · rw [hpieza]
          exact iff_of_true rfl ⟨hroto, hcorta.imp_right .inl⟩
        · rw [hpieza, hcorte]
          refine iff_of_false Bool.false_ne_true fun hvuelven ↦ ?_
          rcases hvuelven.2 with h | h | h
          · exact Bool.false_ne_true h
          · exact h hcabe
          · exact hno h.1
        · have hih := @ih ⟨{ red.ram with cortes := red.ram.cortes.tail }, red.rotos⟩
            (dirAct + acceso.bytes) (restante - acceso.bytes)
          rw [hpieza, hcorte]
          dsimp only
          rw [Option.isSome_map, hih]
          simp [hllega.1, hllega.2, hcabe]

theorem escribirTramosRed_isSome (pasos : ℕ) :
    (escribirTramosRed pasos red dirAct restante datos).isSome ↔
      EscriturasVuelven red.rotos (accesosIo pasos red.ram.tabla dirAct restante).1 red.ram.cortes := by
  induction pasos generalizing red dirAct restante datos with
  | zero => exact iff_of_true rfl trivial
  | succ pasos ih =>
    by_cases hcero : restante = 0
    · rw [escribirTramosRed, if_pos hcero, accesosIo, if_pos hcero]
      exact iff_of_true rfl trivial
    · cases hacceso : siguienteAcceso red.ram.tabla dirAct restante with
      | none =>
        rw [escribirTramosRed, if_neg hcero, hacceso, accesosIo_sinStick pasos hcero hacceso]
        exact iff_of_true rfl trivial
      | some acceso =>
        rw [escribirTramosRed, if_neg hcero, hacceso, accesosIo_pieza pasos hcero hacceso]
        dsimp only
        unfold EscriturasVuelven
        rcases red.escribirPieza_cases acceso datos with ⟨hno, hpieza⟩ | ⟨hroto, hcabe, hcorte, hpieza⟩ |
          ⟨hcorte, hno, hpieza⟩ | ⟨hllega, hcorte, hpieza⟩
        · rw [hpieza]
          exact iff_of_false Bool.false_ne_true fun h ↦ hno.elim h.1 fun hlarga ↦ hlarga h.2.1
        · rw [hpieza]
          exact iff_of_true rfl ⟨hroto, hcabe, .inl hcorte⟩
        · rw [hpieza, hcorte]
          refine iff_of_false Bool.false_ne_true fun hvuelven ↦ ?_
          exact hvuelven.2.2.elim Bool.false_ne_true fun h ↦ hno h.1
        · have hih := @ih ⟨Ram.pedirEscritura { red.ram with cortes := red.ram.cortes.tail } acceso.stick
            acceso.localOffset acceso.bytes datos, red.rotos⟩ (dirAct + acceso.bytes) (restante - acceso.bytes)
              (datos.drop acceso.bytes.toNat)
          rw [hpieza, hcorte]
          dsimp only
          rw [hih, (Ram.mismaTabla_pedirEscritura _ acceso datos).accesosIo]
          simp only [hllega.1, hllega.2, hllega.2.cabe, not_false_eq_true, true_and, Bool.false_eq_true, false_or]
          rfl

end Vuelven

/-! ## When the handlers come to their end -/

/-- A read comes back with its bytes: a stick serves every address of the range, no connection breaks, and every
piece arrives. -/
def MemoriaEnRed.SeLee [Recepcion] (m : MemoriaEnRed) (dirFisica tamanio : UInt32) : Prop :=
  (accesos m.ram.tabla dirFisica tamanio).2 = true ∧
    m.ram.SinCortes (accesos m.ram.tabla dirFisica tamanio).1.length ∧
      LecturaLlega m.ram.tabla m.rotos dirFisica tamanio

/-- The swap process stores a block: it is there, it has the block, its device does not fail, and both processes can
peek at the messages. -/
def MemoriaEnRed.SwapGuarda [Recepcion] (m : MemoriaEnRed) (bloque : UInt32) : Prop :=
  0 ≤ m.swap.socket ∧ m.caidas.headD false = false ∧ LlegaBloque m.swap.blockSize ∧
    m.swap.cortes.headD false = false ∧ m.swap.isValidBlock bloque = true

/-- The swap process answers a read: it is there, and it refuses the block or Kernel Memory can peek at it. -/
def MemoriaEnRed.SwapContesta [Recepcion] (m : MemoriaEnRed) (bloque : UInt32) : Prop :=
  m.swap.socket < 0 ∨ m.caidas.headD false = false ∧
    (m.swap.cortes.headD false = true ∨ m.swap.isValidBlock bloque = false ∨ LlegaBloque m.swap.blockSize)

theorem Swap.siguienteCorte_eq (swap : Swap) :
    swap.siguienteCorte = (swap.cortes.headD false, { swap with cortes := swap.cortes.tail }) := by
  obtain ⟨socket, blockSize, nextBlock, totalBlocks, swapFileSize, archivo, cortes⟩ := swap
  cases cortes <;> rfl

section Manejadores

variable [Recepcion] {m : MemoriaEnRed} {bloque dirFisica tamanio : UInt32} {datos : List UInt8}

theorem MemoriaEnRed.seLee_iff :
    (∃ datos red, memoryIoLeerRed m.red dirFisica tamanio = some (.ok datos, red)) ↔ m.SeLee dirFisica tamanio := by
  have hleida : (∃ datos, (memoryIoLeer m.ram dirFisica tamanio).1 = .ok datos) ↔ _ := memoryIoLeer_iff _ _ _
  constructor
  · rintro ⟨datos, red, h⟩
    obtain ⟨hcompleta, hcortes⟩ := hleida.mp ⟨datos, congrArg Prod.fst (memoryIoLeer_of_red h)⟩
    exact ⟨hcompleta, hcortes, lecturaLlega_of_leerTramosRed tamanio.toNat h nofun⟩
  · rintro ⟨hcompleta, hcortes, hllega⟩
    obtain ⟨datos, hdatos⟩ := hleida.mpr ⟨hcompleta, hcortes⟩
    have hpiezas : ∀ acceso ∈ (accesosIo tamanio.toNat m.red.ram.tabla dirFisica tamanio).1,
        acceso.LecturaLlega m.red.rotos := hllega
    obtain ⟨rotos, heq, -⟩ := leerTramosRed_eq tamanio.toNat hpiezas
    have hok : (leerTramos tamanio.toNat m.red.ram dirFisica tamanio).1 = .ok datos := hdatos
    rw [hok] at heq
    exact ⟨datos, _, heq⟩

omit [Recepcion] in
theorem swapEscribirBloque_iff {swap : Swap} :
    (swapEscribirBloque swap bloque datos).1 = true ↔
      0 ≤ swap.socket ∧ swap.cortes.headD false = false ∧ swap.isValidBlock bloque = true := by
  unfold swapEscribirBloque
  by_cases hsocket : swap.socket < 0
  · simp [hsocket]
  · rw [if_neg hsocket, Swap.siguienteCorte_eq]
    have hvalido : Swap.isValidBlock { swap with cortes := swap.cortes.tail } bloque = swap.isValidBlock bloque := rfl
    cases swap.cortes.headD false with
    | true => simp
    | false => cases hbloque : swap.isValidBlock bloque <;> simp [hvalido, hbloque, Int.not_lt.mp hsocket]

omit [Recepcion] in
theorem swapLeerBloque_isSome {swap : Swap} :
    (swapLeerBloque swap bloque).1.isSome ↔
      0 ≤ swap.socket ∧ swap.cortes.headD false = false ∧ swap.isValidBlock bloque = true := by
  unfold swapLeerBloque
  by_cases hsocket : swap.socket < 0
  · simp [hsocket]
  · rw [if_neg hsocket, Swap.siguienteCorte_eq]
    have hvalido : Swap.isValidBlock { swap with cortes := swap.cortes.tail } bloque = swap.isValidBlock bloque := rfl
    cases swap.cortes.headD false with
    | true => simp
    | false => cases hbloque : swap.isValidBlock bloque <;> simp [hvalido, hbloque, Int.not_lt.mp hsocket]

theorem swapEscribirBloqueRed_iff :
    (∃ despues, swapEscribirBloqueRed m bloque datos = some (true, despues)) ↔ m.SwapGuarda bloque := by
  have hguarda := @swapEscribirBloque_iff bloque datos m.swap
  unfold swapEscribirBloqueRed MemoriaEnRed.SwapGuarda MemoriaEnRed.siguienteCaida
  by_cases hsocket : m.swap.socket < 0
  · simp [hsocket]
  · rw [if_neg hsocket]
    cases m.caidas.headD false with
    | true => simp
    | false =>
      by_cases hllega : LlegaBloque m.swap.blockSize
      · simp [hllega, hguarda]
      · simp [hllega]

theorem swapLeerBloqueRed_isSome : (swapLeerBloqueRed m bloque).isSome ↔ m.SwapContesta bloque := by
  have hleida := @swapLeerBloque_isSome bloque m.swap
  unfold swapLeerBloqueRed MemoriaEnRed.SwapContesta MemoriaEnRed.siguienteCaida
  by_cases hsocket : m.swap.socket < 0
  · simp [hsocket]
  · rw [if_neg hsocket]
    cases m.caidas.headD false with
    | true => simp [hsocket]
    | false =>
      have hconectado := Int.not_lt.mp hsocket
      rcases hbloque : swapLeerBloque m.swap bloque with ⟨resultado, swap⟩
      rw [hbloque] at hleida
      cases resultado with
      | none =>
        have hfalla : m.swap.cortes.headD false = true ∨ m.swap.isValidBlock bloque = false := by
          by_contra! hbien
          refine Bool.false_ne_true (hleida.mpr ⟨hconectado, ?_, ?_⟩)
          · exact Bool.eq_false_of_not_eq_true hbien.1
          · exact Bool.eq_true_of_not_eq_false hbien.2
        simp only [hbloque]
        exact iff_of_true rfl (.inr ⟨trivial, hfalla.imp_right .inl⟩)
      | some datos =>
        obtain ⟨-, hcorte, hvalido⟩ := hleida.mp rfl
        by_cases hllega : LlegaBloque m.swap.blockSize
        · simp [hbloque, hllega]
        · simp only [hbloque, hllega, if_false, hcorte, hvalido, hsocket]
          simp

/-- Blocks `b`, `b + 1`, … of a segment go to the swap file. -/
def BloquesSalen (seg : Segmento) : ℕ → UInt32 → MemoriaEnRed → Prop
  | 0, _, _ => True
  | restantes + 1, b, m =>
    let dirFisica := seg.base + b * m.swap.blockSize
    let chunk := chunkDeBloque seg.limite m.swap.blockSize b
    m.SeLee dirFisica chunk ∧ ∀ datos red, memoryIoLeerRed m.red dirFisica chunk = some (.ok datos, red) →
      (m.conRed red).SwapGuarda (seg.swapBloqueInicio + b) ∧
        ∀ despues, swapEscribirBloqueRed (m.conRed red) (seg.swapBloqueInicio + b)
            (datos ++ List.replicate (m.swap.blockSize.toNat - datos.length) 0) = some (true, despues) →
          BloquesSalen seg restantes (b + 1) despues

/-- The segments go to the swap file, up to the first for which there are no blocks. -/
def CopiasLlegan : List Segmento → MemoriaEnRed → Prop
  | [], _ => True
  | seg :: resto, m =>
    let reserva := swapReservarBloques m.swap (cantidadBloques seg.limite m.swap.blockSize)
    m.swap.blockSize ≠ 0 ∧ (reserva.1 = sinBase ∨
      BloquesSalen { seg with swapBloqueInicio := reserva.1 }
          (cantidadBloques seg.limite reserva.2.blockSize).toNat 0 { m with swap := reserva.2 } ∧
        ∀ despues, volcarSegmentoASwapRed { seg with swapBloqueInicio := reserva.1 }
            { m with swap := reserva.2 } = some (true, despues) →
          CopiasLlegan resto { despues with
            bloquesLibres := bloquesLiberar despues.bloquesLibres seg.base seg.limite })

/-- Blocks `b`, `b + 1`, … of a segment come back from the swap file, up to the first that the swap process refuses.
What the sticks do with them is not looked at, but each write has to come to its end. -/
def BloquesVuelven (seg : Segmento) : ℕ → UInt32 → MemoriaEnRed → Prop
  | 0, _, _ => True
  | restantes + 1, b, m =>
    let dirFisica := seg.base + b * m.swap.blockSize
    let chunk := chunkDeBloque seg.limite m.swap.blockSize b
    m.SwapContesta (seg.swapBloqueInicio + b) ∧
      ∀ datos medio, swapLeerBloqueRed m (seg.swapBloqueInicio + b) = some (some datos, medio) →
        EscriturasVuelven medio.rotos (accesos medio.ram.tabla dirFisica chunk).1 medio.ram.cortes ∧
          ∀ escrito red, memoryIoEscribirRed medio.red dirFisica chunk datos = some (escrito, red) →
            BloquesVuelven seg restantes (b + 1) (medio.conRed red)

/-- The segments come back from the swap file, up to the first block that the swap process refuses. -/
def SegmentosVuelven : List Segmento → MemoriaEnRed → Prop
  | [], _ => True
  | seg :: resto, m =>
    m.swap.blockSize ≠ 0 ∧ BloquesVuelven seg (cantidadBloques seg.limite m.swap.blockSize).toNat 0 m ∧
      ∀ despues, transferirBloquesRed seg (cantidadBloques seg.limite m.swap.blockSize).toNat 0 m =
        some (true, despues) → SegmentosVuelven resto despues

/-- Every copy of a compaction comes to its end. -/
def CompactacionVuelve : List SegEntrada → UInt32 → MemoriaEnRed → Prop
  | [], _, _ => True
  | e :: resto, cursor, m =>
    (e.seg.base = cursor ∨
      LecturasVuelven m.rotos (accesos m.ram.tabla e.seg.base e.seg.limite).1 m.ram.cortes ∧
        ∀ datos red, memoryIoLeerRed m.red e.seg.base e.seg.limite = some (.ok datos, red) →
          EscriturasVuelven red.rotos (accesos red.ram.tabla cursor e.seg.limite).1 red.ram.cortes) ∧
      ∀ despues, moverSegmentoRed m e cursor = some despues →
        CompactacionVuelve resto (cursor + e.seg.limite) despues

theorem volcarBloquesRed_iff {seg : Segmento} (restantes : ℕ) {b : UInt32} :
    (∃ despues, volcarBloquesRed seg restantes b m = some (true, despues)) ↔ BloquesSalen seg restantes b m := by
  induction restantes generalizing b m with
  | zero => exact iff_of_true ⟨m, rfl⟩ trivial
  | succ restantes ih =>
    unfold volcarBloquesRed BloquesSalen
    constructor
    · rintro ⟨despues, h⟩
      dsimp only at h
      split at h
      · cases h
      · cases h
      · rename_i datos red hleida
        split at h
        · cases h
        · cases h
        · rename_i medio hescrita
          refine ⟨MemoriaEnRed.seLee_iff.mp ⟨datos, red, hleida⟩, fun otros otra hotra ↦ ?_⟩
          cases hleida.symm.trans hotra
          refine ⟨swapEscribirBloqueRed_iff.mp ⟨medio, hescrita⟩, fun otro hotro ↦ ?_⟩
          cases hescrita.symm.trans hotro
          exact ih.mp ⟨despues, h⟩
    · rintro ⟨hlee, hsigue⟩
      obtain ⟨datos, red, hleida⟩ := MemoriaEnRed.seLee_iff.mpr hlee
      obtain ⟨hguarda, hresto⟩ := hsigue datos red hleida
      obtain ⟨medio, hescrita⟩ := swapEscribirBloqueRed_iff.mpr hguarda
      obtain ⟨despues, hdespues⟩ := ih.mpr (hresto medio hescrita)
      refine ⟨despues, ?_⟩
      dsimp only
      rw [hleida]
      dsimp only
      rw [hescrita]
      exact hdespues

theorem suspenderSegmentosRed_iff (segmentos : List Segmento) :
    (∃ fin tabla despues, suspenderSegmentosRed segmentos m = some (fin, tabla, despues) ∧ fin ≠ .fallo) ↔
      CopiasLlegan segmentos m := by
  induction segmentos generalizing m with
  | nil => exact iff_of_true ⟨_, _, _, rfl, nofun⟩ trivial
  | cons seg resto ih =>
    unfold suspenderSegmentosRed CopiasLlegan
    rcases hreserva : swapReservarBloques m.swap (cantidadBloques seg.limite m.swap.blockSize) with ⟨inicio, swap⟩
    by_cases hcero : m.swap.blockSize = 0
    · simp [hcero]
    · rw [if_neg hcero]
      by_cases hinicio : inicio = sinBase
      · simp [hinicio, hcero]
      · simp only [hinicio, if_false, ne_eq, hcero, not_false_eq_true, false_or, true_and]
        constructor
        · rintro ⟨fin, tabla, despues, h, hfin⟩
          split at h
          · cases h
          · cases h
            exact absurd rfl hfin
          · rename_i medio hvuelca
            obtain ⟨⟨otroFin, otra, final⟩, hresto, hfinal⟩ := Option.map_eq_some_iff.mp h
            cases hfinal
            refine ⟨(volcarBloquesRed_iff _).mp ⟨medio, hvuelca⟩, fun otro hotro ↦ ?_⟩
            cases hvuelca.symm.trans hotro
            exact ih.mp ⟨_, _, _, hresto, hfin⟩
        · rintro ⟨hsalen, hsigue⟩
          obtain ⟨medio, hvuelca⟩ := (volcarBloquesRed_iff _).mpr hsalen
          have hsegmento : volcarSegmentoASwapRed { seg with swapBloqueInicio := inicio } { m with swap := swap } =
            some (true, medio) := hvuelca
          obtain ⟨fin, tabla, despues, hresto, hfin⟩ := ih.mpr (hsigue medio hsegmento)
          rw [hsegmento]
          dsimp only
          rw [hresto]
          exact ⟨_, _, _, rfl, hfin⟩

theorem transferirBloquesRed_isSome {seg : Segmento} (restantes : ℕ) {b : UInt32} :
    (transferirBloquesRed seg restantes b m).isSome ↔ BloquesVuelven seg restantes b m := by
  induction restantes generalizing b m with
  | zero => exact iff_of_true rfl trivial
  | succ restantes ih =>
    unfold transferirBloquesRed BloquesVuelven
    rw [← swapLeerBloqueRed_isSome]
    dsimp only
    rcases hleida : swapLeerBloqueRed m (seg.swapBloqueInicio + b) with _ | ⟨_ | datos, medio⟩
    · exact iff_of_false Bool.false_ne_true fun h ↦ Bool.false_ne_true h.1
    · exact iff_of_true rfl ⟨rfl, nofun⟩
    · have hescritura : (memoryIoEscribirRed medio.red (seg.base + b * m.swap.blockSize)
          (chunkDeBloque seg.limite m.swap.blockSize b) datos).isSome ↔ _ := escribirTramosRed_isSome _
      constructor
      · intro h
        dsimp only at h
        split at h
        · cases h
        · rename_i escrito red hescrita
          refine ⟨rfl, fun otros otro hotro ↦ ?_⟩
          cases hotro
          refine ⟨hescritura.mp (by rw [hescrita]; rfl), fun otroEscrito otra hotra ↦ ?_⟩
          cases hescrita.symm.trans hotra
          exact ih.mp h
      · rintro ⟨-, hsigue⟩
        obtain ⟨hvuelve, hresto⟩ := hsigue datos medio rfl
        obtain ⟨⟨escrito, red⟩, hescrita⟩ := Option.isSome_iff_exists.mp (hescritura.mpr hvuelve)
        dsimp only
        rw [hescrita]
        exact ih.mpr (hresto escrito red hescrita)

theorem transferirSwapARamRed_isSome (segmentos : List Segmento) :
    (transferirSwapARamRed segmentos m).isSome ↔ SegmentosVuelven segmentos m := by
  induction segmentos generalizing m with
  | nil => exact iff_of_true rfl trivial
  | cons seg resto ih =>
    unfold transferirSwapARamRed SegmentosVuelven
    by_cases hcero : m.swap.blockSize = 0
    · simp [hcero]
    · rw [if_neg hcero, ← transferirBloquesRed_isSome]
      rcases htransfiere : transferirBloquesRed seg (cantidadBloques seg.limite m.swap.blockSize).toNat 0 m with
        _ | ⟨_ | _, despues⟩
      · exact iff_of_false Bool.false_ne_true fun h ↦ Bool.false_ne_true h.2.1
      · exact iff_of_true rfl ⟨hcero, rfl, nofun⟩
      · dsimp only
        rw [ih]
        constructor
        · intro h
          refine ⟨hcero, rfl, fun otro hotro ↦ ?_⟩
          cases hotro
          exact h
        · exact fun h ↦ h.2.2 despues rfl

theorem copiarSegmentoRed_isSome {red : RamEnRed} {oldBase limite cursor : UInt32} :
    (copiarSegmentoRed red oldBase limite cursor).isSome ↔
      LecturasVuelven red.rotos (accesos red.ram.tabla oldBase limite).1 red.ram.cortes ∧
        ∀ datos medio, memoryIoLeerRed red oldBase limite = some (.ok datos, medio) →
          EscriturasVuelven medio.rotos (accesos medio.ram.tabla cursor limite).1 medio.ram.cortes := by
  have hlectura : (memoryIoLeerRed red oldBase limite).isSome ↔ _ := leerTramosRed_isSome _
  unfold accesos
  rw [← hlectura]
  unfold copiarSegmentoRed
  rcases hleida : memoryIoLeerRed red oldBase limite with _ | ⟨fallo | datos, medio⟩
  · exact iff_of_false Bool.false_ne_true fun h ↦ Bool.false_ne_true h.1
  · exact iff_of_true rfl ⟨rfl, nofun⟩
  · have hescritura : (memoryIoEscribirRed medio cursor limite datos).isSome ↔ _ := escribirTramosRed_isSome _
    dsimp only
    rw [Option.isSome_map, hescritura]
    constructor
    · intro h
      refine ⟨rfl, fun otros otro hotro ↦ ?_⟩
      cases hotro
      exact h
    · exact fun h ↦ h.2 datos medio rfl

theorem moverSegmentoRed_isSome {e : SegEntrada} {cursor : UInt32} :
    (moverSegmentoRed m e cursor).isSome ↔ e.seg.base = cursor ∨
      LecturasVuelven m.rotos (accesos m.ram.tabla e.seg.base e.seg.limite).1 m.ram.cortes ∧
        ∀ datos red, memoryIoLeerRed m.red e.seg.base e.seg.limite = some (.ok datos, red) →
          EscriturasVuelven red.rotos (accesos red.ram.tabla cursor e.seg.limite).1 red.ram.cortes := by
  unfold moverSegmentoRed
  by_cases hbase : e.seg.base = cursor
  · rw [if_pos hbase]
    exact iff_of_true rfl (.inl hbase)
  · rw [if_neg hbase, Option.isSome_map, copiarSegmentoRed_isSome, or_iff_right hbase]
    rfl

theorem compactarEntradasRed_isSome (lista : List SegEntrada) {cursor : UInt32} :
    (compactarEntradasRed lista cursor m).isSome ↔ CompactacionVuelve lista cursor m := by
  induction lista generalizing cursor m with
  | nil => exact iff_of_true rfl trivial
  | cons e resto ih =>
    unfold compactarEntradasRed CompactacionVuelve
    rw [← moverSegmentoRed_isSome]
    cases hmueve : moverSegmentoRed m e cursor with
    | none => exact iff_of_false Bool.false_ne_true fun h ↦ Bool.false_ne_true h.1
    | some medio =>
      rw [Option.bind_some, ih]
      constructor
      · intro h
        refine ⟨rfl, fun otro hotro ↦ ?_⟩
        cases hotro
        exact h
      · exact fun h ↦ h.2 medio rfl

theorem compactarMemoriaRed_isSome (qsort : Qsort) :
    (compactarMemoriaRed qsort m).isSome ↔
      CompactacionVuelve (qsort.ordenar (entradas m.procesos)) 0 m := by
  by_cases hnada : entradas m.procesos = []
  · rw [ordenar_of_nil hnada]
    unfold compactarMemoriaRed
    dsimp only
    split
    · exact iff_of_true rfl trivial
    · exact iff_of_true rfl trivial
  · rw [compactarMemoriaRed_of_entradas hnada, Option.isSome_map, compactarEntradasRed_isSome]

/-! ## What comes to its end -/

theorem swapEscribirBloque_of_red {despues : MemoriaEnRed} {hecho : Bool}
    (h : swapEscribirBloqueRed m bloque datos = some (hecho, despues)) :
    swapEscribirBloque m.swap bloque datos = (hecho, despues.swap) ∧
      despues.toKernelMemory = { m.toKernelMemory with swap := despues.swap } := by
  unfold swapEscribirBloqueRed MemoriaEnRed.siguienteCaida at h
  by_cases hsocket : m.swap.socket < 0
  · rw [if_pos hsocket] at h
    cases h
    exact ⟨by rw [swapEscribirBloque, if_pos hsocket], rfl⟩
  · rw [if_neg hsocket] at h
    split at h
    · cases h
    · rename_i medio hmedio
      obtain ⟨-, rfl⟩ := Prod.mk.inj hmedio
      split at h
      · cases h
        exact ⟨rfl, rfl⟩
      · cases h

theorem swapLeerBloque_of_red {despues : MemoriaEnRed} {leido : Option (List UInt8)}
    (h : swapLeerBloqueRed m bloque = some (leido, despues)) :
    swapLeerBloque m.swap bloque = (leido, despues.swap) ∧
      despues.toKernelMemory = { m.toKernelMemory with swap := despues.swap } := by
  unfold swapLeerBloqueRed MemoriaEnRed.siguienteCaida at h
  by_cases hsocket : m.swap.socket < 0
  · rw [if_pos hsocket] at h
    cases h
    exact ⟨by rw [swapLeerBloque, if_pos hsocket], rfl⟩
  · rw [if_neg hsocket] at h
    split at h
    · cases h
    · rename_i medio hmedio
      obtain ⟨-, rfl⟩ := Prod.mk.inj hmedio
      split at h
      · rename_i hleido
        cases h
        exact ⟨hleido, rfl⟩
      · rename_i hleido
        split at h
        · cases h
          exact ⟨hleido, rfl⟩
        · cases h

theorem volcarBloques_of_red {seg : Segmento} (restantes : ℕ) {b : UInt32} {despues : MemoriaEnRed}
    (h : volcarBloquesRed seg restantes b m = some (true, despues)) :
    volcarBloques seg restantes b m.toKernelMemory = (true, despues.toKernelMemory) := by
  induction restantes generalizing b m with
  | zero =>
    cases h
    rfl
  | succ restantes ih =>
    unfold volcarBloquesRed at h
    dsimp only at h
    split at h
    · cases h
    · cases h
    · rename_i datos red hleida
      split at h
      · cases h
      · cases h
      · rename_i medio hescrita
        obtain ⟨hescribe, hmedio⟩ := swapEscribirBloque_of_red hescrita
        have hlee : memoryIoLeer m.ram _ _ = (.ok datos, red.ram) := memoryIoLeer_of_red hleida
        have hguarda : swapEscribirBloque m.swap (seg.swapBloqueInicio + b)
            (datos ++ List.replicate (m.swap.blockSize.toNat - datos.length) 0) = (true, medio.swap) := hescribe
        have hresto := ih h
        rw [hmedio] at hresto
        unfold volcarBloques
        dsimp only
        rw [hlee]
        dsimp only
        rw [hguarda]
        exact hresto

/-- A suspension that answers has copied the segments as `manejar_suspender_proceso` of `Scheduler` does. -/
theorem suspenderSegmentos_of_red (segmentos : List Segmento) {fin : FinSuspension} {tabla : List Segmento}
    {despues : MemoriaEnRed} (h : suspenderSegmentosRed segmentos m = some (fin, tabla, despues))
    (hfin : fin ≠ .fallo) :
    suspenderSegmentos segmentos m.toKernelMemory = (fin, tabla, despues.toKernelMemory) := by
  induction segmentos generalizing m fin tabla despues with
  | nil =>
    cases h
    rfl
  | cons seg resto ih =>
    unfold suspenderSegmentosRed at h
    unfold suspenderSegmentos
    split at h
    · cases h
    · rcases hreserva : swapReservarBloques m.swap (cantidadBloques seg.limite m.swap.blockSize) with ⟨inicio, swap⟩
      simp only [hreserva] at h
      dsimp only
      by_cases hinicio : inicio = sinBase
      · rw [if_pos hinicio] at h
        cases h
        rw [if_pos hinicio]
      · rw [if_neg hinicio] at h
        rw [if_neg hinicio]
        split at h
        · cases h
        · cases h
          exact absurd rfl hfin
        · rename_i medio hvuelca
          obtain ⟨⟨otroFin, otra, final⟩, hresto, hfinal⟩ := Option.map_eq_some_iff.mp h
          cases hfinal
          have hsegmento : volcarSegmentoASwap { seg with swapBloqueInicio := inicio }
            { m.toKernelMemory with swap := swap } = (true, medio.toKernelMemory) := volcarBloques_of_red _ hvuelca
          rw [hsegmento]
          dsimp only
          rw [ih hresto hfin]

theorem manejarSuspenderProceso_of_red {pid : ℤ} {mensajes : List Mensaje} {despues : MemoriaEnRed}
    (h : manejarSuspenderProcesoRed m pid = some (mensajes, despues)) (hresponde : mensajes ≠ []) :
    manejarSuspenderProceso m.toKernelMemory pid = (mensajes, despues.toKernelMemory) := by
  obtain ⟨⟨fin, final⟩, hsuspende, hfinal⟩ := Option.map_eq_some_iff.mp h
  have hfin : fin ≠ .fallo := by
    rintro rfl
    cases hfinal
    exact hresponde rfl
  have hcuerpo : suspenderProceso m.toKernelMemory pid = (fin, final.toKernelMemory) := by
    unfold suspenderProcesoRed at hsuspende
    unfold suspenderProceso
    cases hbusca : procesosBuscar m.procesos pid with
    | none =>
      rw [hbusca] at hsuspende
      cases hsuspende
      rfl
    | some proc =>
      rw [hbusca] at hsuspende
      dsimp only at hsuspende ⊢
      by_cases hsocket : m.swap.socket < 0
      · rw [if_pos hsocket] at hsuspende ⊢
        cases hsuspende
        rfl
      · rw [if_neg hsocket] at hsuspende ⊢
        obtain ⟨⟨otroFin, tabla, medio⟩, hsegmentos, hmedio⟩ := Option.map_eq_some_iff.mp hsuspende
        cases hmedio
        rw [suspenderSegmentos_of_red _ hsegmentos hfin]
        rfl
  unfold manejarSuspenderProceso
  rw [hcuerpo]
  cases fin with
  | fallo => exact absurd rfl hfin
  | completa | sinProceso | sinSwap | sinBloques =>
    cases hfinal
    rfl

theorem transferirBloques_of_red {seg : Segmento} (restantes : ℕ) {b : UInt32} {hecho : Bool}
    {despues : MemoriaEnRed} (h : transferirBloquesRed seg restantes b m = some (hecho, despues)) :
    transferirBloques seg restantes b m.toKernelMemory = (hecho, despues.toKernelMemory) := by
  induction restantes generalizing b m with
  | zero =>
    cases h
    rfl
  | succ restantes ih =>
    unfold transferirBloquesRed at h
    dsimp only at h
    split at h
    · cases h
    · rename_i medio hleida
      obtain ⟨hlee, hmedio⟩ := swapLeerBloque_of_red hleida
      cases h
      unfold transferirBloques
      dsimp only
      rw [hlee, hmedio]
    · rename_i datos medio hleida
      obtain ⟨hlee, hmedio⟩ := swapLeerBloque_of_red hleida
      split at h
      · cases h
      · rename_i escrito red hescrita
        have hescribe : memoryIoEscribir medio.ram _ _ datos = (escrito, red.ram) :=
          memoryIoEscribir_of_red hescrita
        have hresto := ih h
        have hram : medio.ram = m.ram := by
          have hmismo := congrArg KernelMemory.ram hmedio
          exact hmismo
        have hconRed : (medio.conRed red).toKernelMemory =
            { m.toKernelMemory with ram := red.ram, swap := medio.swap } := by
          unfold MemoriaEnRed.conRed
          rw [hmedio]
        rw [hconRed] at hresto
        rw [hram] at hescribe
        unfold transferirBloques
        dsimp only
        rw [hlee]
        dsimp only
        rw [hescribe]
        exact hresto

theorem transferirSwapARam_of_red (segmentos : List Segmento) {hecho : Bool} {despues : MemoriaEnRed}
    (h : transferirSwapARamRed segmentos m = some (hecho, despues)) :
    transferirSwapARam segmentos m.toKernelMemory = (hecho, despues.toKernelMemory) := by
  induction segmentos generalizing m with
  | nil =>
    cases h
    rfl
  | cons seg resto ih =>
    unfold transferirSwapARamRed at h
    split at h
    · cases h
    · split at h
      · cases h
      · rename_i medio htransfiere
        cases h
        rw [transferirSwapARam, transferirBloques_of_red _ htransfiere]
      · rename_i medio htransfiere
        rw [transferirSwapARam, transferirBloques_of_red _ htransfiere]
        exact ih h

/-- A resumption that comes to its end has done what the one of `Scheduler` does. -/
theorem manejarDesSuspenderProceso_of_red {pid : ℤ} {mensajes : List Mensaje} {despues : MemoriaEnRed}
    (h : manejarDesSuspenderProcesoRed m pid = some (mensajes, despues)) :
    manejarDesSuspenderProceso m.toKernelMemory pid = (mensajes, despues.toKernelMemory) := by
  obtain ⟨⟨fin, final⟩, hreanuda, hfinal⟩ := Option.map_eq_some_iff.mp h
  have hcuerpo : desSuspenderProceso m.toKernelMemory pid = (fin, final.toKernelMemory) := by
    unfold desSuspenderProcesoRed at hreanuda
    unfold desSuspenderProceso
    cases hbusca : procesosBuscar m.procesos pid with
    | none =>
      rw [hbusca] at hreanuda
      cases hreanuda
      rfl
    | some proc =>
      rw [hbusca] at hreanuda
      dsimp only at hreanuda ⊢
      by_cases hsocket : m.swap.socket < 0
      · rw [if_pos hsocket] at hreanuda ⊢
        cases hreanuda
        rfl
      · rw [if_neg hsocket] at hreanuda ⊢
        rcases hreserva : reservarSegmentosConRollback m.config.worstFit proc.segmentos m.bloquesLibres
          with ⟨_ | segmentos, libres⟩
        · rw [hreserva] at hreanuda
          cases hreanuda
          rfl
        · rw [hreserva] at hreanuda
          obtain ⟨⟨hecho, medio⟩, htransfiere, hmedio⟩ := Option.map_eq_some_iff.mp hreanuda
          have htransferir := transferirSwapARam_of_red segmentos htransfiere
          dsimp only
          rw [show transferirSwapARam segmentos (ponerSegmentos { m.toKernelMemory with bloquesLibres := libres }
            pid segmentos) = (hecho, medio.toKernelMemory) from htransferir]
          cases hecho with
          | false =>
            cases hmedio
            rfl
          | true =>
            cases hmedio
            rfl
  unfold manejarDesSuspenderProceso
  rw [hcuerpo]
  cases fin with
  | completa | sinProceso | sinSwap | sinEspacio | fallo =>
    cases hfinal
    rfl

/-- A read that answers has the bytes of the one of `Scheduler`. -/
theorem manejarLecturaMemoria_of_red {pid : ℤ} {dir : UInt32} {mensajes : List Mensaje} {despues : MemoriaEnRed}
    (h : manejarLecturaMemoriaRed m pid dir tamanio = some (mensajes, despues)) (hresponde : mensajes ≠ []) :
    manejarLecturaMemoria m.toKernelMemory pid dir tamanio = (mensajes, despues.toKernelMemory) := by
  unfold manejarLecturaMemoriaRed at h
  unfold manejarLecturaMemoria
  split at h
  · cases h
  · cases hbusca : procesosBuscar m.procesos pid with
    | none =>
      rw [hbusca] at h
      cases h
      rfl
    | some proc =>
      rw [hbusca] at h
      dsimp only at h ⊢
      cases htraduce : traducirDirLogica m.config proc dir tamanio with
      | none =>
        rw [htraduce] at h
        cases h
        rfl
      | some dirFisica =>
        rw [htraduce] at h
        dsimp only at h ⊢
        by_cases hsin : dirFisica = sinBase
        · rw [if_pos hsin] at h
          cases h
          exact absurd rfl hresponde
        · rw [if_neg hsin] at h
          obtain ⟨⟨leido, red⟩, hleida, hfinal⟩ := Option.map_eq_some_iff.mp h
          cases leido with
          | error fallo =>
            cases hfinal
            exact absurd rfl hresponde
          | ok datos =>
            cases hfinal
            have hlee : memoryIoLeer m.ram dirFisica tamanio = (.ok datos, red.ram) := memoryIoLeer_of_red hleida
            rw [if_neg hsin, hlee]
            rfl

/-- A write that comes to its end has done what the one of `Scheduler` does. -/
theorem manejarEscrituraMemoria_of_red {pid : ℤ} {dir : UInt32} {mensajes : List Mensaje} {despues : MemoriaEnRed}
    (h : manejarEscrituraMemoriaRed m pid dir tamanio datos = some (mensajes, despues)) :
    manejarEscrituraMemoria m.toKernelMemory pid dir tamanio datos = (mensajes, despues.toKernelMemory) := by
  unfold manejarEscrituraMemoriaRed at h
  unfold manejarEscrituraMemoria
  split at h
  · cases h
  · cases hbusca : procesosBuscar m.procesos pid with
    | none =>
      rw [hbusca] at h
      cases h
      rfl
    | some proc =>
      rw [hbusca] at h
      dsimp only at h ⊢
      cases htraduce : traducirDirLogica m.config proc dir tamanio with
      | none =>
        rw [htraduce] at h
        cases h
        rfl
      | some dirFisica =>
        rw [htraduce] at h
        dsimp only at h ⊢
        by_cases hsin : dirFisica = sinBase
        · rw [if_pos hsin] at h
          cases h
          rw [if_pos hsin]
        · rw [if_neg hsin] at h
          obtain ⟨⟨escrito, red⟩, hescrita, hfinal⟩ := Option.map_eq_some_iff.mp h
          cases hfinal
          have hescribe : memoryIoEscribir m.ram dirFisica tamanio datos = (escrito, red.ram) :=
            memoryIoEscribir_of_red hescrita
          rw [if_neg hsin, hescribe]
          rfl

end Manejadores

end PlugAndPlay.Memoria
