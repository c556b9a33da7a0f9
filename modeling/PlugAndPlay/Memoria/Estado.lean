import PlugAndPlay.Memoria.BloquesLibres
import PlugAndPlay.Memoria.MemoryIo
import PlugAndPlay.Memoria.Procesos

/-!
# The swap file and the state of Kernel Memory

`memory_swap.c` with the block store behind it (`utils_swap.c`), the messages Kernel Memory sends
to the scheduler, and the record of everything its operations share. Blocks are reserved by a
counter that only grows; the swap process refuses block numbers outside its file.
-/

open PlugAndPlay.Library

namespace PlugAndPlay.Memoria

/-! ## Swap -/

/-- Kernel Memory's side of the swap (socket, block size, counter, number of blocks) and the swap
process behind the socket: the size of its file, the file, and which of the coming block transfers
fail on the device. What a dead swap process does to Kernel Memory is in `TransferenciasEnRed`. -/
structure Swap where
  socket : ℤ
  blockSize : UInt32
  nextBlock : UInt32
  totalBlocks : UInt32
  swapFileSize : UInt32
  archivo : ℕ → UInt8
  cortes : List Bool

/-- Before the swap process connects. -/
def Swap.desconectado : Swap := ⟨-1, 0, 0, 0, 0, fun _ ↦ 0, []⟩

/-- A swap process that connects with a configuration `load_swap_config` accepts. -/
structure SwapNuevo where
  socket : ℕ
  blockSize : UInt32
  swapFileSize : UInt32
  archivo : ℕ → UInt8
  cortes : List Bool
  configurado : 0 < blockSize ∧ blockSize ≤ swapFileSize

theorem configurado_ocho_bloques : (0 : UInt32) < 2 ∧ (2 : UInt32) ≤ 16 := by decide

theorem configurado_un_bloque : (0 : UInt32) < 4 ∧ (4 : UInt32) ≤ 4 := by decide

/-- `registrar_swap`. -/
def registrarSwap (nuevo : SwapNuevo) : Swap :=
  ⟨nuevo.socket, nuevo.blockSize, 0, nuevo.swapFileSize / nuevo.blockSize, nuevo.swapFileSize,
    nuevo.archivo, nuevo.cortes⟩

/-- `swap_reservar_bloques`; `sinBase` when there are not enough blocks left. -/
def swapReservarBloques (swap : Swap) (nBlocks : UInt32) : UInt32 × Swap :=
  if swap.nextBlock + nBlocks > swap.totalBlocks then (sinBase, swap)
  else (swap.nextBlock, { swap with nextBlock := swap.nextBlock + nBlocks })

/-- `is_valid_block` of the swap process. -/
def Swap.isValidBlock (swap : Swap) (bloque : UInt32) : Bool :=
  bloque < swap.swapFileSize / swap.blockSize

def Swap.siguienteCorte (swap : Swap) : Bool × Swap :=
  match swap.cortes with
  | [] => (false, swap)
  | corte :: resto => (corte, { swap with cortes := resto })

/-- `swap_escribir_bloque` and `swap_write_block`: whether the block was stored. -/
def swapEscribirBloque (swap : Swap) (bloque : UInt32) (datos : List UInt8) : Bool × Swap :=
  if swap.socket < 0 then (false, swap)
  else match swap.siguienteCorte with
    | (true, swap) => (false, swap)
    | (false, swap) =>
      if swap.isValidBlock bloque then
        (true, { swap with
          archivo := ByteMemory.overlay swap.archivo (bloque.toNat * swap.blockSize.toNat) datos })
      else (false, swap)

/-- `swap_leer_bloque` and `swap_read_block`: the bytes of the block. -/
def swapLeerBloque (swap : Swap) (bloque : UInt32) : Option (List UInt8) × Swap :=
  if swap.socket < 0 then (none, swap)
  else match swap.siguienteCorte with
    | (true, swap) => (none, swap)
    | (false, swap) =>
      if swap.isValidBlock bloque then
        (some (ByteMemory.slice swap.archivo (bloque.toNat * swap.blockSize.toNat)
          swap.blockSize.toNat), swap)
      else (none, swap)

/-- The number of blocks of a segment, as the source rounds it up. -/
def cantidadBloques (limite bs : UInt32) : UInt32 := (limite + bs - 1) / bs

/-- The length of block `b` of a segment: the rest of the segment in the last block. -/
def chunkDeBloque (limite bs b : UInt32) : UInt32 :=
  if b = cantidadBloques limite bs - 1 then limite - b * bs else bs

/-! ## State and messages -/

inductive OpCode
  | crearProceso
  | suspenderProceso
  | desSuspenderProceso
  | eliminarSegmento
  | finalizarProceso
  | escrituraMemoria
  | segmentationFault
  | memoriaLiberada
  | iniciarCompactacion
  | finalizarCompactacion
deriving Repr, DecidableEq

/-- What Kernel Memory sends to the scheduler: a bare code (`enviar_ok`), or a reply with data. -/
inductive Mensaje
  | ok (codigo : OpCode)
  | solicitarSegmento (id base tamanio : UInt32)
  | lecturaMemoria (datos : List UInt8)
  | obtenerEspacioLibre (espacio : UInt32)
deriving Repr, DecidableEq

/-- What the operations of Kernel Memory share. -/
structure KernelMemory where
  config : ConfigMemory
  procesos : List Proceso
  bloquesLibres : List BloqueLibre
  ram : Ram
  swap : Swap

/-- The ranges of the free list and of the resident segments together. -/
def KernelMemory.ocupacion (m : KernelMemory) : List ByteRange :=
  rangosLibres m.bloquesLibres ++ rangosResidentes m.procesos

@[simp] theorem KernelMemory.hits_ocupacion (m : KernelMemory) (address : ℕ) :
    ByteRange.hits m.ocupacion address =
      ByteRange.hits (rangosLibres m.bloquesLibres) address +
        ByteRange.hits (rangosResidentes m.procesos) address := by
  simp [ocupacion]

@[simp] theorem KernelMemory.within_ocupacion (m : KernelMemory) (top : ℕ) :
    ByteRange.Within m.ocupacion top ↔
      ByteRange.Within (rangosLibres m.bloquesLibres) top ∧
        ByteRange.Within (rangosResidentes m.procesos) top := by
  simp [ocupacion]

end PlugAndPlay.Memoria
