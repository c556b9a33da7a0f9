import Mathlib.Data.List.TakeWhile
import PlugAndPlay.Library.StreamReader
import PlugAndPlay.Memoria.Tipos

/-!
# The transport layer

`serializacion.c`: every message is a frame with an operation code, the size of the payload and the
payload, which the sender appends field by field. All modules run on one architecture, with 32-bit `int` and
64-bit `size_t`, so a field is sent as it lies in memory.
-/

open PlugAndPlay.Library PlugAndPlay.Library.StreamReader PlugAndPlay.Memoria

namespace PlugAndPlay.Red

/-! ## Sending -/

/-- `op_code`, in the order of the enumeration. -/
inductive OpCode
  | handshakeSchedulerAMemory
  | handshakeCpu
  | handshakeIo
  | handshakeMemoryStick
  | handshakeSwap
  | crearProceso
  | finalizarProceso
  | suspenderProceso
  | desSuspenderProceso
  | solicitarSegmento
  | eliminarSegmento
  | iniciarCompactacion
  | finalizarCompactacion
  | obtenerContexto
  | actualizarContexto
  | obtenerInstruccion
  | interrupcion
  | ejecutarProceso
  | configMmuCpu
  | obtenerEspacioLibre
  | lecturaMemoria
  | escrituraMemoria
  | lecturaBloqueSwap
  | escrituraBloqueSwap
  | respuestaSwap
  | ioStdin
  | ioStdout
  | ioSleep
  | ioFinalizada
  | memoriaCorruptaBsod
  | nuevaMemoriaDisponible
  | memoriaLiberada
  | segmentationFault
  | devolverProceso
deriving Repr, DecidableEq

/-- The number of an enumerator. -/
def OpCode.valor (codigo : OpCode) : UInt32 := UInt32.ofNat codigo.ctorIdx

/-- The enumerator that a `switch` takes a number for, if any. -/
def OpCode.deValor (valor : UInt32) : Option OpCode :=
  if valor.toNat ≤ OpCode.devolverProceso.ctorIdx then some (OpCode.ofNat valor.toNat) else none

@[simp] theorem OpCode.deValor_valor (codigo : OpCode) : OpCode.deValor codigo.valor = some codigo := by
  cases codigo <;> rfl

theorem OpCode.valor_injective : Function.Injective OpCode.valor := by
  intro codigo otro h
  have hdeValor : OpCode.deValor codigo.valor = OpCode.deValor otro.valor := congrArg _ h
  rwa [OpCode.deValor_valor, OpCode.deValor_valor, Option.some.injEq] at hdeValor

/-- A C string: no byte of it is the terminal `NUL`. -/
structure Cadena where
  bytes : List UInt8
  sinNul : ∀ b ∈ bytes, b ≠ 0
deriving DecidableEq

def deUint32 (valor : UInt32) : List UInt8 := littleEndian 4 valor.toNat

def deInt (valor : Int32) : List UInt8 := deUint32 valor.toUInt32

/-- `t_registros`; its layout has no padding. -/
def deRegistros (regs : Registros) : List UInt8 :=
  [deUint32 regs.pc, [regs.ax], [regs.bx], [regs.cx], [regs.dx], deUint32 regs.eax, deUint32 regs.ebx,
    deUint32 regs.ecx, deUint32 regs.edx, deUint32 regs.si, deUint32 regs.di].flatten

/-- `t_segmento`. -/
def deSegmento (seg : Segmento) : List UInt8 :=
  [deUint32 seg.id, deUint32 seg.base, deUint32 seg.limite, deUint32 seg.swapBloqueInicio].flatten

/-- `agregar_cadena`: the length counts the terminal `NUL`. -/
def deCadena (cadena : Cadena) : List UInt8 :=
  [deInt (Int32.ofNat (cadena.bytes.length + 1)), cadena.bytes ++ [0]].flatten

/-- `t_paquete`, with what each `agregar_a_paquete` appended. -/
structure Paquete where
  codigo : OpCode
  campos : List (List UInt8)

/-- The payload. -/
def Paquete.stream (paquete : Paquete) : List UInt8 := paquete.campos.flatten

/-- `serializar_paquete`. -/
def serializarPaquete (paquete : Paquete) : List UInt8 :=
  [deUint32 paquete.codigo.valor, littleEndian 8 paquete.stream.length, paquete.stream].flatten

/-- The bytes of a frame before its payload: the operation code, an `int`, and the size, a `size_t`. -/
def largoCabecera : ℕ := 12

/-- `enviar_paquete` holds the length of the whole frame in an `int`; a longer frame has a negative
length there and the sender dies allocating or copying it. -/
def CabeEnTrama (largo : ℕ) : Prop := largoCabecera + largo < 2 ^ 31

instance (largo : ℕ) : Decidable (CabeEnTrama largo) := inferInstanceAs (Decidable (_ < _))

/-- `enviar_paquete`: what it puts on the stream. -/
def enviarPaquete (paquete : Paquete) : Option (List UInt8) :=
  if CabeEnTrama paquete.stream.length then some (serializarPaquete paquete) else none

/-- `enviar_ok`; the payload is not looked at. -/
def enviarOk (codigo : OpCode) : Paquete := ⟨codigo, [deInt (-1)]⟩

/-! ## Receiving -/

/-- The receive buffers of the sockets. `capacidad` is how many bytes a `recv` with `MSG_PEEK | MSG_WAITALL` can
see at once; it waits for ever for more. Linux gives a connection about 128 KB, never less than 2048 bytes, and
counts them in an `int`. -/
class Recepcion where
  capacidad : ℕ
  minima : 2048 ≤ capacidad
  cabe : CabeEnTrama capacidad

/-- The default of Linux. -/
abbrev recepcionTipica : Recepcion := ⟨131072, by decide, by decide⟩

/-- `validar_buffer` goes on with a payload of this length, on any open connection. -/
def Llega [Recepcion] (largo : ℕ) : Prop := 0 < largo ∧ largo ≤ Recepcion.capacidad

instance [Recepcion] (largo : ℕ) : Decidable (Llega largo) := inferInstanceAs (Decidable (_ ∧ _))

/-- Why a reader does not get what it asks for: `validar_buffer` aborts, the bytes that have come are not enough,
the payload is longer than what the receive buffer can hold, or the length of a string is negative. -/
inductive FalloLectura
  | aborto
  | incompleto
  | sinLugar
  | longitudNegativa
deriving Repr, DecidableEq

abbrev Lector (α : Type) := StreamReader UInt8 FalloLectura α

/-- `recv` of a block of bytes with `MSG_WAITALL`: also with no byte to take it waits until one has come. -/
def recv (tamanio : ℕ) : Lector (List UInt8) := do
  let porLeer ← get
  if porLeer = [] then throw .incompleto else next .incompleto tamanio

def recvUint8 : Lector UInt8 := do
  let valor ← number .incompleto 1
  pure (UInt8.ofNat valor)

def recvUint32 : Lector UInt32 := do
  let valor ← number .incompleto 4
  pure (UInt32.ofNat valor)

def recvInt : Lector Int32 := do
  let valor ← recvUint32
  pure valor.toInt32

def recvSize : Lector ℕ := number .incompleto 8

/-- `recibir_codigo_operacion`: any number may come. -/
def recibirCodigoOperacion : Lector UInt32 := recvUint32

/-- `validar_buffer`: takes the size and peeks at the payload, all of it at once. -/
def validarBuffer [Recepcion] : Lector Unit := do
  let tamanioEsperado ← recvSize
  let porLeer ← get
  if porLeer.length < tamanioEsperado then throw .aborto
  -- Here nothing is asked for, and `recv` waits for the byte after the frame.
  else if porLeer = [] then throw .incompleto
  else if Recepcion.capacidad < tamanioEsperado then throw .sinLugar
  else pure ()

/-- The C string at the start of a buffer. -/
def cadenaEn (buffer : List UInt8) : Cadena where
  bytes := buffer.takeWhile (· ≠ 0)
  sinNul b hb := by simpa using List.mem_takeWhile_imp hb

/-- `recibir_cadena`. -/
def recibirCadena : Lector Cadena := do
  let longitud ← recvInt
  if longitud < 0 then throw .longitudNegativa
  else
    let buffer ← recv longitud.toInt.toNat
    pure (cadenaEn buffer)

/-- `recibir_registros`. -/
def recibirRegistros : Lector Registros := do
  let pc ← recvUint32
  let ax ← recvUint8
  let bx ← recvUint8
  let cx ← recvUint8
  let dx ← recvUint8
  let eax ← recvUint32
  let ebx ← recvUint32
  let ecx ← recvUint32
  let edx ← recvUint32
  let si ← recvUint32
  let di ← recvUint32
  pure ⟨pc, ax, bx, cx, dx, eax, ebx, ecx, edx, si, di⟩

/-- `recibir_segmento`. -/
def recibirSegmento : Lector Segmento := do
  let id ← recvUint32
  let base ← recvUint32
  let limite ← recvUint32
  let swapBloqueInicio ← recvUint32
  pure ⟨id, base, limite, swapBloqueInicio⟩

/-- `recibir_ok`. -/
def recibirOk [Recepcion] : Lector Unit := do
  validarBuffer
  let _ ← recvInt
  pure ()

/-! ## Each reader takes what the sender of its field appends -/

theorem get_eq (porLeer : List UInt8) : (get : Lector (List UInt8)) porLeer = .ok (porLeer, porLeer) := rfl

theorem reads_recv {datos : List UInt8} (h : datos ≠ []) : Reads (recv datos.length) datos datos := by
  intro rest
  unfold recv
  rw [bind_of_run (get_eq _), if_neg (List.append_ne_nil_of_left_ne_nil h rest)]
  exact reads_next _ datos rest

theorem reads_uint8 (valor : UInt8) : Reads recvUint8 [valor] valor := by
  have hnumero : Reads (number FalloLectura.incompleto 1) (littleEndian 1 valor.toNat) valor.toNat :=
    reads_number _ valor.toNat_lt
  have hvalor : Reads recvUint8 (littleEndian 1 valor.toNat) (UInt8.ofNat valor.toNat) := hnumero.last
  simpa [littleEndian] using hvalor

theorem reads_uint32 (valor : UInt32) : Reads recvUint32 (deUint32 valor) valor := by
  have hnumero : Reads (number FalloLectura.incompleto 4) (deUint32 valor) valor.toNat :=
    reads_number _ valor.toNat_lt
  have hvalor : Reads recvUint32 (deUint32 valor) (UInt32.ofNat valor.toNat) := hnumero.last
  rwa [UInt32.ofNat_toNat] at hvalor

theorem reads_int (valor : Int32) : Reads recvInt (deInt valor) valor := by
  have hvalor : Reads recvInt (deInt valor) valor.toUInt32.toInt32 := (reads_uint32 _).last
  exact hvalor

theorem reads_size {tamanio : ℕ} (h : tamanio < 2 ^ 64) :
    Reads recvSize (littleEndian 8 tamanio) tamanio :=
  reads_number _ h

/-- A field, and then the others. -/
theorem campo {α β : Type} {lector : Lector α} {bytes : List UInt8} {campos : List (List UInt8)} {valor : α}
    {final : β} {siguiente : α → Lector β} (h : Reads lector bytes valor)
    (hresto : Reads (siguiente valor) campos.flatten final) :
    Reads (lector >>= siguiente) (bytes :: campos).flatten final :=
  h.bind hresto

theorem sinCampos {α : Type} (valor : α) :
    Reads (pure valor : Lector α) ([] : List (List UInt8)).flatten valor :=
  reads_pure valor

theorem toInt_toNat_ofNat {largo : ℕ} (h : largo < 2 ^ 31) : (Int32.ofNat largo).toInt.toNat = largo := by
  rw [Int32.toInt_ofNat_of_lt h]
  exact Int.toNat_natCast largo

/-- The buffer of a string gives the string back: it has no other `NUL`. -/
theorem cadenaEn_bytes (cadena : Cadena) : cadenaEn (cadena.bytes ++ [0]) = cadena := by
  have hbytes : (cadena.bytes ++ [0]).takeWhile (· ≠ 0) = cadena.bytes := by
    rw [List.takeWhile_append_of_pos fun b hb ↦ decide_eq_true (cadena.sinNul b hb)]
    simp
  cases cadena
  simp only [cadenaEn, Cadena.mk.injEq]
  exact hbytes

theorem reads_cadena {cadena : Cadena} (h : cadena.bytes.length + 1 < 2 ^ 31) :
    Reads recibirCadena (deCadena cadena) cadena := by
  apply campo (reads_int _)
  have hno : ¬ Int32.ofNat (cadena.bytes.length + 1) < 0 := by
    rw [Int32.lt_iff_toInt_lt, Int32.toInt_ofNat_of_lt h, Int32.toInt_zero]
    omega
  rw [if_neg hno, toInt_toNat_ofNat h]
  have hbuffer : Reads (recv (cadena.bytes.length + 1)) (cadena.bytes ++ [0]) (cadena.bytes ++ [0]) := by
    have hrecv := reads_recv (List.append_ne_nil_of_right_ne_nil cadena.bytes (List.cons_ne_nil 0 []))
    rwa [List.length_append, List.length_singleton] at hrecv
  have hvalor : Reads (pure (cadenaEn (cadena.bytes ++ [0])) : Lector Cadena) ([] : List (List UInt8)).flatten
      cadena := by
    rw [cadenaEn_bytes]
    exact sinCampos cadena
  exact campo hbuffer hvalor

theorem reads_registros (regs : Registros) : Reads recibirRegistros (deRegistros regs) regs := by
  apply campo (reads_uint32 _)
  iterate 4 apply campo (reads_uint8 _)
  iterate 6 apply campo (reads_uint32 _)
  exact sinCampos regs

theorem reads_segmento (seg : Segmento) : Reads recibirSegmento (deSegmento seg) seg := by
  iterate 4 apply campo (reads_uint32 _)
  exact sinCampos seg

/-! ## What the readers take of a stream that no sender made -/

theorem takes_uint32 : Takes recvUint32 4 := by
  unfold recvUint32
  exact Takes.andThen (takes_number _ 4) fun valor ↦ takes_pure (UInt32.ofNat valor)

theorem takes_int : Takes recvInt 4 := by
  unfold recvInt
  exact Takes.andThen takes_uint32 fun valor ↦ takes_pure valor.toInt32

theorem takes_size : Takes recvSize 8 := takes_number _ 8

theorem takes_recv (tamanio : ℕ) : Takes (recv tamanio) 0 := by
  unfold recv
  apply Takes.andThen takes_get
  intro porLeer
  split
  · exact takes_throw _ 0
  · exact (takes_next _ _).weaken

theorem takes_validarBuffer [Recepcion] : Takes validarBuffer 8 := by
  unfold validarBuffer
  apply Takes.andThen takes_size
  intro tamanioEsperado
  apply Takes.andThen takes_get
  intro porLeer
  split_ifs
  · exact takes_throw _ 0
  · exact takes_throw _ 0
  · exact takes_throw _ 0
  · exact takes_pure ()

theorem takes_cadena : Takes recibirCadena 4 := by
  unfold recibirCadena
  apply Takes.andThen takes_int
  intro longitud
  split
  · exact takes_throw _ 0
  · exact Takes.andThen (takes_recv _) fun buffer ↦ takes_pure (cadenaEn buffer)

theorem takes_ok [Recepcion] : Takes recibirOk 8 := by
  unfold recibirOk
  apply Takes.andThen takes_validarBuffer
  intro _
  exact Takes.andThen takes_int.weaken fun _ ↦ takes_pure ()

/-! ## Frames -/

/-- After the operation code of the packet, the reader takes the rest of its frame and returns the value. -/
def Recibe {α : Type} (lector : Lector α) (paquete : Paquete) (valor : α) : Prop :=
  Reads lector (littleEndian 8 paquete.stream.length ++ paquete.stream) valor

section Llega

variable [Recepcion]

/-- What the receiver can peek at also fits into a frame of the sender. -/
theorem Llega.cabe {largo : ℕ} (h : Llega largo) : CabeEnTrama largo := by
  have hcapacidad : CabeEnTrama Recepcion.capacidad := Recepcion.cabe
  have hlargo := h.2
  unfold CabeEnTrama at hcapacidad ⊢
  omega

/-- Every receive buffer takes a small payload. -/
theorem llega_of_le {largo : ℕ} (hpos : 0 < largo) (h : largo ≤ 2048) : Llega largo :=
  ⟨hpos, h.trans Recepcion.minima⟩

/-- The size and the payload behind it. -/
theorem validarBuffer_eq {tamanio : ℕ} {porLeer : List UInt8} (htamanio : tamanio < 2 ^ 64)
    (hestan : tamanio ≤ porLeer.length) (hay : porLeer ≠ []) (hcapacidad : tamanio ≤ Recepcion.capacidad) :
    validarBuffer (littleEndian 8 tamanio ++ porLeer) = .ok ((), porLeer) := by
  unfold validarBuffer
  rw [bind_of_run (reads_size htamanio porLeer), bind_of_run (get_eq porLeer), if_neg (Nat.not_lt.mpr hestan),
    if_neg hay, if_neg (Nat.not_lt.mpr hcapacidad)]
  rfl

/-- A reader that validates the buffer first. -/
theorem recibe_validado {α : Type} {lector : Lector α} {paquete : Paquete} {valor : α}
    (hllega : Llega paquete.stream.length) (h : Reads lector paquete.campos.flatten valor) :
    Recibe (do validarBuffer; lector) paquete valor := by
  intro rest
  have hsize : paquete.stream.length < 2 ^ 64 := by
    have hcabe := hllega.cabe
    unfold CabeEnTrama at hcabe
    omega
  have hestan : paquete.stream.length ≤ (paquete.stream ++ rest).length := by
    rw [List.length_append]
    omega
  have hay : paquete.stream ++ rest ≠ [] :=
    List.append_ne_nil_of_left_ne_nil (List.length_pos_iff.mp hllega.1) rest
  have hvalida := validarBuffer_eq hsize hestan hay hllega.2
  rw [List.append_assoc, bind_of_run hvalida]
  exact h rest

/-- Of a payload that the receive buffer cannot hold, nothing is read: the wait has no end. -/
theorem validarBuffer_sinLugar (paquete : Paquete) (hsize : paquete.stream.length < 2 ^ 64)
    (hlargo : Recepcion.capacidad < paquete.stream.length) (rest : List UInt8) :
    validarBuffer (littleEndian 8 paquete.stream.length ++ (paquete.stream ++ rest)) = .error .sinLugar := by
  have hno : ¬ (paquete.stream ++ rest).length < paquete.stream.length := by
    rw [List.length_append]
    omega
  have hay : paquete.stream ++ rest ≠ [] :=
    List.append_ne_nil_of_left_ne_nil (List.length_pos_iff.mp (Nat.zero_lt_of_lt hlargo)) rest
  unfold validarBuffer
  rw [bind_of_run (reads_size hsize _), bind_of_run (get_eq _), if_neg hno, if_neg hay, if_pos hlargo]
  rfl

end Llega

end PlugAndPlay.Red
