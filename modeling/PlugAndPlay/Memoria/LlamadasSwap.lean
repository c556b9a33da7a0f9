import PlugAndPlay.Memoria.SwapArchivo
import PlugAndPlay.Red.LectoresEstables

/-!
# Kernel Memory calls the swap process

`swap_escribir_bloque` and `swap_leer_bloque` of `memory_swap.c`, and `swap_atender_operaciones` of `utils_swap.c`
behind the socket. Kernel Memory has one connection to the swap process and sends one request at a time.
However the bytes arrive, the two processes together do what the operations on blocks say.
-/

open PlugAndPlay.Library PlugAndPlay.Library.StreamReader PlugAndPlay.Library.RemoteCalls PlugAndPlay.Red

namespace PlugAndPlay.Memoria

/-! ## The code -/

/-- A call of `swap_escribir_bloque` or `swap_leer_bloque`. -/
inductive LlamadaSwap
  | escribir (bloque : UInt32) (datos : List UInt8)
  | leer (bloque : UInt32)
deriving Repr, DecidableEq

/-- What it returns: of a write, whether the status is zero. -/
inductive RespuestaSwap
  | escrito (hecho : Bool)
  | leido (datos : Option (List UInt8))
deriving Repr, DecidableEq

def LlamadaSwap.enviar : LlamadaSwap → Option (List UInt8)
  | .escribir bloque datos => enviarPaquete (enviarEscrituraBloqueSwap bloque datos)
  | .leer bloque => enviarPaquete (enviarLecturaBloqueSwap bloque)

def LlamadaSwap.recibir [Recepcion] (blockSize : UInt32) : LlamadaSwap → Lector RespuestaSwap
  | .escribir _ _ => do
    let status ← recibirResultadoSwap
    pure (.escrito (status = 0))
  | .leer _ => do
    let (status, data) ← recibirBloqueSwap blockSize.toNat
    pure (.leido (if status ≠ 0 then none else data))

/-- A turn of `swap_atender_operaciones` up to its handler; `none` is an operation that it does not know, of which
it takes no more than the code. -/
def leerLlamadaSwap [Recepcion] (blockSize : UInt32) : Lector (Option LlamadaSwap) := do
  let codigo ← recibirCodigoOperacion
  match Red.OpCode.deValor codigo with
  | some .lecturaBloqueSwap => do
    let bloque ← recibirLecturaBloqueSwap
    pure (some (.leer bloque))
  | some .escrituraBloqueSwap => do
    let (bloque, datos) ← recibirEscrituraBloqueSwap blockSize.toNat
    pure (some (.escribir bloque datos))
  | _ => pure none

/-- The status of `pread` or `pwrite` on a block. -/
def Swap.transferir (swap : Swap) (bloque : UInt32) : Int32 × Swap :=
  match swap.siguienteCorte with
  | (true, swap) => (-1, swap)
  | (false, swap) => (if swap.isValidBlock bloque then 0 else -1, swap)

/-- `swap_write_block`, after it has received the block. -/
def swapWriteBlock (swap : Swap) (bloque : UInt32) (datos : List UInt8) : Option (Swap × List UInt8) :=
  let (status, swap) := swap.transferir bloque
  let escrito : Swap :=
    if status = 0 then
      { swap with archivo := ByteMemory.overlay swap.archivo (bloque.toNat * swap.blockSize.toNat) datos }
    else swap
  (enviarPaquete (enviarResultadoSwap status)).map fun respuesta ↦ (escrito, respuesta)

/-- `swap_read_block`, after it has received the number; what `calloc` gave is sent with no status but zero. -/
def swapReadBlock (swap : Swap) (bloque : UInt32) : Option (Swap × List UInt8) :=
  let (status, swap) := swap.transferir bloque
  let datos :=
    if status = 0 then ByteMemory.slice swap.archivo (bloque.toNat * swap.blockSize.toNat) swap.blockSize.toNat
    else List.replicate swap.blockSize.toNat 0
  (enviarPaquete (enviarBloqueSwap status datos)).map fun respuesta ↦ (swap, respuesta)

def swapAtenderOperacion (swap : Swap) : Option LlamadaSwap → Option (Swap × List UInt8)
  | some (.escribir bloque datos) => swapWriteBlock swap bloque datos
  | some (.leer bloque) => swapReadBlock swap bloque
  | none => some (swap, [])

/-- Kernel Memory has its block size from the handshake. -/
def protocoloSwap [Recepcion] (blockSize : UInt32) : Protocol UInt8 Unit Swap LlamadaSwap RespuestaSwap Empty :=
  .ofReaders LlamadaSwap.enviar (fun swap ↦ leerLlamadaSwap swap.blockSize) swapAtenderOperacion Empty.elim
    (hearReply .incompleto fun _ llamada ↦ llamada.recibir blockSize)

/-- The operations on blocks as the rest of Kernel Memory sees them. -/
def Swap.operar (swap : Swap) : LlamadaSwap → Swap × RespuestaSwap
  | .escribir bloque datos =>
    let (hecho, swap) := swapEscribirBloque swap bloque datos
    (swap, .escrito hecho)
  | .leer bloque =>
    let (datos, swap) := swapLeerBloque swap bloque
    (swap, .leido datos)

/-- Kernel Memory writes whole blocks. -/
def LlamadaSwap.DeUnBloque (blockSize : UInt32) : LlamadaSwap → Prop
  | .escribir _ datos => datos.length = blockSize.toNat
  | .leer _ => True

instance (blockSize : UInt32) : DecidablePred (LlamadaSwap.DeUnBloque blockSize)
  | .escribir _ _ => inferInstanceAs (Decidable (_ = _))
  | .leer _ => inferInstanceAs (Decidable True)

/-- There is something in a block, and both processes can peek at a message with one. -/
def LlegaBloque [Recepcion] (blockSize : UInt32) : Prop := 0 < blockSize.toNat ∧ Llega (4 + blockSize.toNat)

instance [Recepcion] (blockSize : UInt32) : Decidable (LlegaBloque blockSize) := inferInstanceAs (Decidable (_ ∧ _))

/-! ## Both sides of the socket -/

/-- What does not change of a swap that has registered. -/
structure Swap.Conectado (blockSize : UInt32) (swap : Swap) : Prop where
  socket : 0 ≤ swap.socket
  blockSize : swap.blockSize = blockSize

section

variable {blockSize : UInt32} {swap : Swap} {llamada : LlamadaSwap} {bloque : UInt32} {datos : List UInt8}

theorem Swap.Conectado.of_fijo {swap' : Swap} (h : swap.Conectado blockSize) (hfijo : swap'.fijo = swap.fijo) :
    swap'.Conectado blockSize where
  socket := by
    rw [Swap.fijo_socket hfijo]
    exact h.socket
  blockSize := (Swap.fijo_blockSize hfijo).trans h.blockSize

/-- What the process does of a transfer, and what the operations on blocks say. -/
inductive Swap.Transfiere (swap : Swap) (bloque : UInt32) : Prop
  | hecha (despues : Swap) (hfijo : despues.fijo = swap.fijo) (hestado : swap.transferir bloque = (0, despues))
    (hescribir : ∀ datos, swapEscribirBloque swap bloque datos = (true,
      { despues with
        archivo := ByteMemory.overlay despues.archivo (bloque.toNat * despues.blockSize.toNat) datos }))
    (hleer : swapLeerBloque swap bloque = (some (ByteMemory.slice despues.archivo
      (bloque.toNat * despues.blockSize.toNat) despues.blockSize.toNat), despues))
  | fallida (despues : Swap) (hfijo : despues.fijo = swap.fijo) (hestado : swap.transferir bloque = (-1, despues))
    (hescribir : ∀ datos, swapEscribirBloque swap bloque datos = (false, despues))
    (hleer : swapLeerBloque swap bloque = (none, despues))

theorem Swap.transfiere (hsocket : 0 ≤ swap.socket) (bloque : UInt32) : swap.Transfiere bloque := by
  have hconectado : ¬ swap.socket < 0 := Int.not_lt.mpr hsocket
  have hfijo := fijo_siguienteCorte swap
  obtain ⟨corte, despues, hcorte⟩ : ∃ corte despues, swap.siguienteCorte = (corte, despues) := ⟨_, _, rfl⟩
  rw [hcorte] at hfijo
  cases corte with
  | true =>
    apply Transfiere.fallida despues hfijo
    · unfold transferir
      rw [hcorte]
    · intro datos
      unfold swapEscribirBloque
      rw [if_neg hconectado, hcorte]
    · unfold swapLeerBloque
      rw [if_neg hconectado, hcorte]
  | false =>
    by_cases hvalido : despues.isValidBlock bloque = true
    · apply Transfiere.hecha despues hfijo
      · unfold transferir
        simp only [hcorte, if_pos hvalido]
      · intro datos
        unfold swapEscribirBloque
        simp only [if_neg hconectado, hcorte, if_pos hvalido]
      · unfold swapLeerBloque
        simp only [if_neg hconectado, hcorte, if_pos hvalido]
    · apply Transfiere.fallida despues hfijo
      · unfold transferir
        simp only [hcorte, if_neg hvalido]
      · intro datos
        unfold swapEscribirBloque
        simp only [if_neg hconectado, hcorte, if_neg hvalido]
      · unfold swapLeerBloque
        simp only [if_neg hconectado, hcorte, if_neg hvalido]

theorem Swap.Conectado.operar (h : swap.Conectado blockSize) (llamada : LlamadaSwap) :
    (swap.operar llamada).1.Conectado blockSize := by
  cases llamada with
  | escribir bloque datos => exact h.of_fijo (fijo_swapEscribirBloque swap bloque datos)
  | leer bloque => exact h.of_fijo (fijo_swapLeerBloque swap bloque)

/-- The swap process takes the request that Kernel Memory sent. -/
theorem reads_leerLlamadaSwap [Recepcion] {word : List UInt8} (hllega : LlegaBloque blockSize)
    (hllamada : llamada.DeUnBloque blockSize) (henvia : llamada.enviar = some word) :
    Reads (leerLlamadaSwap blockSize) word (some llamada) := by
  cases llamada with
  | escribir bloque datos =>
    obtain ⟨-, rfl⟩ := enviarPaquete_eq_some henvia
    have hlargo : datos.length = blockSize.toNat := hllamada
    have hdatos : datos ≠ [] := List.length_pos_iff.mp (hlargo.symm ▸ hllega.1)
    have hllegaDatos : Llega (enviarEscrituraBloqueSwap bloque datos).stream.length := by
      simp only [Paquete.stream, enviarEscrituraBloqueSwap, List.flatten_cons, List.flatten_nil, List.length_append,
        length_deUint32, List.length_nil, Nat.add_zero, hlargo]
      exact hllega.2
    apply reads_trasCodigo
    have hrecibe := (Corresponde.escrituraBloqueSwap bloque datos hdatos).recibe hllegaDatos
    rw [hlargo] at hrecibe
    simp only [enviarEscrituraBloqueSwap, Red.OpCode.deValor_valor]
    exact hrecibe.last
  | leer bloque =>
    obtain ⟨-, rfl⟩ := enviarPaquete_eq_some henvia
    apply reads_trasCodigo
    have hrecibe := (Corresponde.lecturaBloqueSwap bloque).recibe (llega_uint32 bloque)
    simp only [enviarLecturaBloqueSwap, paqueteUint32, Red.OpCode.deValor_valor]
    exact hrecibe.last

theorem enviarPaquete_resultado (status : Int32) :
    enviarPaquete (enviarResultadoSwap status) = some (serializarPaquete (enviarResultadoSwap status)) :=
  enviarPaquete_of_cabe (cabe_paqueteInt _ status)

/-- A block fits with its status before it, and so does a status alone. -/
theorem llega_bloque [Recepcion] (hllega : Llega (4 + datos.length)) (status : Int32) :
    Llega (enviarBloqueSwap status datos).stream.length := by
  simp only [enviarBloqueSwap, Paquete.stream, List.flatten_cons, List.length_append, length_deInt]
  split
  · simp only [List.flatten_cons, List.flatten_nil, List.append_nil]
    exact hllega
  · exact llega_of_le (by simp) (by simp)

theorem reads_recibirEscritura [Recepcion] (status : Int32) :
    Reads (LlamadaSwap.recibir blockSize (.escribir bloque datos))
      (serializarPaquete (enviarResultadoSwap status)) (.escrito (status = 0)) := by
  have hrecibe : Reads recibirResultadoSwap (serializarPaquete (enviarResultadoSwap status)) status :=
    reads_trasCodigo recibe_int
  exact hrecibe.last

theorem reads_recibirLectura [Recepcion] (hlargo : datos.length = blockSize.toNat) (hllega : LlegaBloque blockSize)
    (status : Int32) : Reads (LlamadaSwap.recibir blockSize (.leer bloque))
    (serializarPaquete (enviarBloqueSwap status datos)) (.leido (if status = 0 then some datos else none)) := by
  have hdatos : datos ≠ [] := List.length_pos_iff.mp (hlargo.symm ▸ hllega.1)
  have hrecibe := reads_bloqueSwap (fun _ ↦ hdatos) (llega_bloque (hlargo.symm ▸ hllega.2) status)
  rw [hlargo] at hrecibe
  apply hrecibe.finish
  by_cases hstatus : status = 0
  · simp only [hstatus, ne_eq, not_true_eq_false, if_false, if_true]
  · simp only [hstatus, ne_eq, not_false_eq_true, if_true, if_false]

/-- Kernel Memory takes the reply of the swap process for that of the operation. -/
theorem atiende_como_operar [Recepcion] (hllega : LlegaBloque blockSize) (h : swap.Conectado blockSize)
    (llamada : LlamadaSwap) : ∃ respuesta,
      swapAtenderOperacion swap (some llamada) = some ((swap.operar llamada).1, respuesta) ∧
        Reads (llamada.recibir blockSize) respuesta (swap.operar llamada).2 := by
  cases llamada with
  | escribir bloque datos =>
    cases Swap.transfiere h.socket bloque with
    | hecha despues _ hestado hescribir =>
      refine ⟨serializarPaquete (enviarResultadoSwap 0), ?_, ?_⟩
      · simp only [swapAtenderOperacion, swapWriteBlock, hestado, Swap.operar, hescribir, if_true,
          enviarPaquete_resultado, Option.map_some]
      · simp only [Swap.operar, hescribir]
        exact reads_recibirEscritura 0
    | fallida despues _ hestado hescribir =>
      have hstatus : (-1 : Int32) ≠ 0 := by decide
      refine ⟨serializarPaquete (enviarResultadoSwap (-1)), ?_, ?_⟩
      · simp only [swapAtenderOperacion, swapWriteBlock, hestado, Swap.operar, hescribir, if_neg hstatus,
          enviarPaquete_resultado, Option.map_some]
      · simp only [Swap.operar, hescribir]
        exact reads_recibirEscritura (-1)
  | leer bloque =>
    cases Swap.transfiere h.socket bloque with
    | hecha despues hfijo hestado _ hleer =>
      have htamanio : despues.blockSize = blockSize := (Swap.fijo_blockSize hfijo).trans h.blockSize
      let datos := ByteMemory.slice despues.archivo (bloque.toNat * despues.blockSize.toNat) despues.blockSize.toNat
      have hlargo : datos.length = blockSize.toNat := by rw [ByteMemory.length_slice, htamanio]
      refine ⟨serializarPaquete (enviarBloqueSwap 0 datos), ?_, ?_⟩
      · simp only [swapAtenderOperacion, swapReadBlock, hestado, Swap.operar, hleer, if_true]
        rw [enviarPaquete_of_cabe (llega_bloque (hlargo.symm ▸ hllega.2) 0).cabe]
        rfl
      · simp only [Swap.operar, hleer]
        exact reads_recibirLectura hlargo hllega 0
    | fallida despues hfijo hestado _ hleer =>
      have hstatus : (-1 : Int32) ≠ 0 := by decide
      have htamanio : despues.blockSize = blockSize := (Swap.fijo_blockSize hfijo).trans h.blockSize
      let datos := List.replicate despues.blockSize.toNat (0 : UInt8)
      have hlargo : datos.length = blockSize.toNat := by rw [List.length_replicate, htamanio]
      refine ⟨serializarPaquete (enviarBloqueSwap (-1) datos), ?_, ?_⟩
      · simp only [swapAtenderOperacion, swapReadBlock, hestado, Swap.operar, hleer, if_neg hstatus]
        rw [enviarPaquete_of_cabe (llega_bloque (hlargo.symm ▸ hllega.2) (-1)).cabe]
        rfl
      · simp only [Swap.operar, hleer]
        exact reads_recibirLectura hlargo hllega (-1)

end

/-! ## Messages that arrive in parts -/

theorem stable_leerLlamadaSwap [Recepcion] (blockSize : UInt32) : Stable (leerLlamadaSwap blockSize) := by
  apply stable_uint32.bind
  intro codigo
  split
  · exact stable_leerUint32.last fun bloque ↦ some (LlamadaSwap.leer bloque)
  · exact (stable_recibirEscrituraBloqueSwap _).last fun leido ↦ some (LlamadaSwap.escribir leido.1 leido.2)
  · exact stable_pure none

theorem stable_recibirSwap [Recepcion] (blockSize : UInt32) (llamada : LlamadaSwap) :
    Stable (llamada.recibir blockSize) := by
  cases llamada with
  | escribir bloque datos => exact stable_recibirResultadoSwap.last fun status ↦ RespuestaSwap.escrito (status = 0)
  | leer bloque =>
    exact (stable_recibirBloqueSwap _).last fun leido ↦
      RespuestaSwap.leido (if leido.1 ≠ 0 then none else leido.2)

theorem espera_recibirSwap [Recepcion] (blockSize : UInt32) (llamada : LlamadaSwap) :
    attempt (llamada.recibir blockSize) [] = none := by
  cases llamada with
  | escribir bloque datos => exact attempt_bind_nil (espera_codigo _) _
  | leer bloque => exact attempt_bind_nil (espera_codigo _) _

/-! ## Runs -/

theorem implementa_swap [Recepcion] {blockSize : UInt32} (hllega : LlegaBloque blockSize) :
    Implements (protocoloSwap blockSize) Swap.operar (Swap.Conectado blockSize)
      (fun _ ↦ LlamadaSwap.DeUnBloque blockSize) := by
  apply implements_ofReaders
  · exact fun swap ↦ stable_leerLlamadaSwap swap.blockSize
  · exact stable_hearReply fun _ llamada ↦ stable_recibirSwap blockSize llamada
  · intro swap llamada word hswap hllamada henvia
    rw [hswap.blockSize]
    exact reads_leerLlamadaSwap hllega hllamada henvia
  · intro swap llamada word hswap _ _
    obtain ⟨respuesta, hatiende, hrecibe⟩ := atiende_como_operar hllega hswap llamada
    exact ⟨respuesta, hatiende, fun _ ↦ reads_hearReply hrecibe⟩
  · exact fun _ _ notice ↦ notice.elim
  · exact fun swap llamada hswap _ ↦ hswap.operar llamada
  · exact fun _ _ _ _ hllamada _ ↦ hllamada

theorem esperan_swap [Recepcion] (blockSize : UInt32) : (protocoloSwap blockSize).Waits := by
  apply waits_ofReaders
  · exact fun _ ↦ espera_codigo _
  · exact waits_hearReply fun _ llamada ↦ espera_recibirSwap blockSize llamada

theorem conectado_registrarSwap (nuevo : SwapNuevo) : (registrarSwap nuevo).Conectado nuevo.blockSize where
  socket := Int.natCast_nonneg nuevo.socket
  blockSize := rfl

/-- Kernel Memory and the swap process. -/
abbrev SistemaSwap : Type := System UInt8 Unit Swap LlamadaSwap RespuestaSwap Empty

/-- The transfers of blocks of any length, to and from a swap process of any size, whichever of them fail. -/
abbrev SwapAlcanzable [Recepcion] (nuevo : SwapNuevo) (s : SistemaSwap) : Prop :=
  Reachable (System.step (protocoloSwap nuevo.blockSize)) (System.Initial (registrarSwap nuevo))
    (System.Allowed (fun _ ↦ LlamadaSwap.DeUnBloque nuevo.blockSize) System.Alone) s

/-- Whatever is transferred and however it arrives, the file and what Kernel Memory is told are those of the operations
on blocks in the order of the calls, if both processes can peek at a message with a block. -/
theorem llamadasSwap_como_locales [Recepcion] (nuevo : SwapNuevo) (hllega : Llega (4 + nuevo.blockSize.toNat))
    (s : SistemaSwap) (h : SwapAlcanzable nuevo s) :
    s.AsLocal (protocoloSwap nuevo.blockSize) Swap.operar (registrarSwap nuevo) := by
  have hbloque : LlegaBloque nuevo.blockSize := ⟨UInt32.lt_iff_toNat_lt.mp nuevo.configurado.1, hllega⟩
  apply asLocal_of_reachable (implementa_swap hbloque) (esperan_swap nuevo.blockSize) _ _ h
  · exact fun _ _ hmay ↦ hmay.elim
  · exact conectado_registrarSwap nuevo

/-- A swap of eight blocks of two bytes, of which the second transfer fails. -/
def swapDeOchoBloques : SwapNuevo :=
  ⟨7, 2, 16, fun _ ↦ 0, [false, true], configurado_ocho_bloques⟩

def sistemaSwapInicial (nuevo : SwapNuevo) : SistemaSwap :=
  ⟨registrarSwap nuevo, fun _ ↦ .idle, [], fun _ ↦ [], fun _ ↦ [], fun _ ↦ []⟩

section Muestra

local instance recepcionDeSwap : Recepcion := recepcionTipica

/-- A block comes in two parts and is stored, another is not, and the first one is read again. -/
theorem llamadasSwap_como_locales_fallada : ∃ s : SistemaSwap,
    SwapAlcanzable swapDeOchoBloques s ∧
      s.returned () = [(.escribir 3 [8, 9], .escrito true), (.escribir 3 [1, 1], .escrito false),
        (.leer 3, .leido (some [8, 9]))] ∧
      s.AsLocal (protocoloSwap swapDeOchoBloques.blockSize) Swap.operar (registrarSwap swapDeOchoBloques) := by
  have hinicio : SwapAlcanzable swapDeOchoBloques (sistemaSwapInicial swapDeOchoBloques) :=
    .start ⟨rfl, rfl, fun _ ↦ ⟨rfl, rfl, rfl, rfl⟩⟩
  obtain ⟨s, hs, hreturned⟩ := hinicio.exists_of_runAllowed
    [.call () (.escribir 3 [8, 9]), .deliverUp () 5, .deliverUp () 20, .serve (), .deliverDown () 20, .receive (),
      .call () (.escribir 3 [1, 1]), .deliverUp () 20, .serve (), .deliverDown () 20, .receive (),
      .call () (.leer 3), .deliverUp () 20, .serve (), .deliverDown () 20, .receive ()]
    (fun s ↦ s.returned () = [(.escribir 3 [8, 9], .escrito true), (.escribir 3 [1, 1], .escrito false),
      (.leer 3, .leido (some [8, 9]))])
    (by decide +kernel)
  exact ⟨s, hs, hreturned, llamadasSwap_como_locales swapDeOchoBloques (by decide) s hs⟩

end Muestra

end PlugAndPlay.Memoria
