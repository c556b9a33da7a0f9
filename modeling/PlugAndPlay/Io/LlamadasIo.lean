import PlugAndPlay.Io.Stdin
import PlugAndPlay.Red.LectoresEstables

/-!
# The scheduler calls an IO device

The loop of `main` in `io/src/main.c`, and what `io_worker_thread` of the scheduler sends to it and takes from it.
The worker of an interface is the only one at its socket, and has one request there at a time.
-/

open PlugAndPlay.Library PlugAndPlay.Library.StreamReader PlugAndPlay.Library.RemoteCalls PlugAndPlay.Red

namespace PlugAndPlay.Io

open LineReader (fgets)

/-! ## The code -/

/-- A request that a worker has taken out of the queue of its interface; that of `IO_STDOUT` has its data. -/
inductive LlamadaIo
  | sleep (pid tiempoMs : Int32)
  | stdin (pid size : Int32)
  | stdout (pid : Int32) (datos : List UInt8)
deriving Repr, DecidableEq

/-- What the worker goes on with; of any code but `IO_FINALIZADA` it ends. -/
inductive RespuestaIo
  | fin (pid : Int32)
  | datos (pid : Int32) (datos : List UInt8)
  | error
deriving Repr, DecidableEq

/-- Standard input, and what was logged of `IO_STDOUT`. -/
structure PuertosIo where
  entrada : List UInt8
  salida : List (Int32 × List UInt8)
deriving Repr, DecidableEq

def LlamadaIo.enviar : LlamadaIo → Option (List UInt8)
  | .sleep pid tiempoMs => enviarPaquete (enviarIoSleep pid tiempoMs)
  | .stdin pid size => enviarPaquete (enviarIoStdin pid size)
  | .stdout pid datos => enviarPaquete (enviarIoStdout pid datos)

/-- The code of the reply, and then its fields. -/
def recibirFinalizada (campos : Lector RespuestaIo) : Lector RespuestaIo := do
  let codigo ← recibirCodigoOperacion
  if codigo = OpCode.ioFinalizada.valor then campos else pure .error

def leerFin [Recepcion] : Lector RespuestaIo := do
  let pid ← recibirFinIo
  pure (.fin pid)

def leerDatos [Recepcion] (size : ℕ) : Lector RespuestaIo := do
  let (pid, datos) ← recibirDatosStdin size
  pure (.datos pid datos)

/-- The size of a request is an `int`, and that of `recv` a `size_t`. -/
def LlamadaIo.recibir [Recepcion] : LlamadaIo → Lector RespuestaIo
  | .sleep _ _ => recibirFinalizada leerFin
  | .stdin _ size => recibirFinalizada (leerDatos size.toInt.toNat)
  | .stdout _ _ => recibirFinalizada leerFin

/-- The `switch` of `main`; of an unknown operation it takes no more than the code. -/
def leerLlamadaIo : Lector (Option LlamadaIo) := do
  let codigo ← recibirCodigoOperacion
  match OpCode.deValor codigo with
  | some .ioSleep =>
    let (pid, tiempoMs) ← leerIoSleep
    pure (some (.sleep pid tiempoMs))
  | some .ioStdin =>
    let (pid, cantidad) ← leerIoStdin
    pure (some (.stdin pid cantidad))
  | some .ioStdout =>
    let (pid, mensaje) ← leerIoStdout
    pure (some (.stdout pid mensaje))
  | _ => pure none

/-- The buffer that `IO_STDIN` fills, and the input behind it; `none` if there is no buffer. -/
def leerStdin (entrada : List UInt8) (cantidad : Int32) : Option (List UInt8 × List UInt8) :=
  (calloc cantidad).map fun buffer ↦
    match fgets salto 4096 entrada with
    | none => (buffer, entrada)
    | some (linea, resto) => (copiar buffer (sacarSalto linea), resto)

/-- The rest of a turn. A message is logged as a C string; without a buffer nothing is answered. -/
def PuertosIo.atender (p : PuertosIo) : Option LlamadaIo → Option (PuertosIo × List UInt8)
  | none => some (p, [])
  | some (.sleep pid _) => (enviarPaquete (enviarFinIo pid)).map fun trama ↦ (p, trama)
  | some (.stdin pid cantidad) =>
    match leerStdin p.entrada cantidad with
    | none => some (p, [])
    | some (datos, resto) =>
      (enviarPaquete (enviarDatosStdin pid datos)).map fun trama ↦ ({ p with entrada := resto }, trama)
  | some (.stdout pid mensaje) =>
    (enviarPaquete (enviarFinIo pid)).map fun trama ↦
      ({ p with salida := p.salida ++ [(pid, mensaje.takeWhile (· ≠ 0))] }, trama)

def protocoloIo [Recepcion] : Protocol UInt8 Unit PuertosIo LlamadaIo RespuestaIo Empty :=
  .ofReaders LlamadaIo.enviar (fun _ ↦ leerLlamadaIo) PuertosIo.atender Empty.elim
    (hearReply .incompleto fun _ llamada ↦ llamada.recibir)

/-! ## The ports themselves -/

/-- What a request does, without sockets. -/
def PuertosIo.operar (p : PuertosIo) : LlamadaIo → PuertosIo × RespuestaIo
  | .sleep pid _ => (p, .fin pid)
  | .stdin pid size =>
    match leerStdin p.entrada size with
    | none => (p, .error)
    | some (datos, resto) => ({ p with entrada := resto }, .datos pid datos)
  | .stdout pid datos => ({ p with salida := p.salida ++ [(pid, datos.takeWhile (· ≠ 0))] }, .fin pid)

/-- There are bytes to move, and the worker can peek at those that are asked for. -/
def LlamadaIo.Atendible [Recepcion] : LlamadaIo → Prop
  | .sleep _ _ => True
  | .stdin _ size => 0 < size ∧ Llega (4 + size.toInt.toNat)
  | .stdout _ datos => datos ≠ []

instance [Recepcion] : DecidablePred LlamadaIo.Atendible
  | .sleep _ _ => inferInstanceAs (Decidable True)
  | .stdin _ _ => inferInstanceAs (Decidable (_ ∧ _))
  | .stdout _ _ => inferInstanceAs (Decidable (_ ≠ _))

/-! ## Both sides of the socket -/

section

variable {p : PuertosIo} {llamada : LlamadaIo}

theorem stable_leerPedidoIo : Stable leerPedidoIo := by
  apply Stable.bind (stable_number _ 8)
  intro _
  apply stable_int.bind
  intro primero
  exact stable_int.last fun segundo ↦ (primero, segundo)

theorem stable_leerIoStdout : Stable leerIoStdout := by
  apply Stable.bind (stable_number _ 8)
  intro size
  apply stable_int.bind
  intro pid
  exact (stable_recv (size - 4)).last fun mensaje ↦ (pid, mensaje)

theorem stable_leerLlamadaIo : Stable leerLlamadaIo := by
  apply stable_uint32.bind
  intro codigo
  split
  · exact stable_leerPedidoIo.last fun leido ↦ some (LlamadaIo.sleep leido.1 leido.2)
  · exact stable_leerPedidoIo.last fun leido ↦ some (LlamadaIo.stdin leido.1 leido.2)
  · exact stable_leerIoStdout.last fun leido ↦ some (LlamadaIo.stdout leido.1 leido.2)
  · exact stable_pure none

theorem stable_recibirFinalizada {campos : Lector RespuestaIo} (h : Stable campos) :
    Stable (recibirFinalizada campos) := by
  apply stable_uint32.bind
  intro codigo
  split
  · exact h
  · exact stable_pure RespuestaIo.error

theorem stable_leerDatos [Recepcion] (size : ℕ) : Stable (leerDatos size) := by
  have hdatos : Stable (recibirDatosStdin size) := by
    apply stable_validado
    apply stable_int.bind
    intro pid
    exact (stable_recv size).last fun datos ↦ (pid, datos)
  exact hdatos.last fun leido ↦ RespuestaIo.datos leido.1 leido.2

theorem stable_recibirIo [Recepcion] (llamada : LlamadaIo) : Stable llamada.recibir := by
  have hfin : Stable leerFin := stable_leerInt.last RespuestaIo.fin
  cases llamada with
  | sleep pid tiempoMs => exact stable_recibirFinalizada hfin
  | stdin pid size => exact stable_recibirFinalizada (stable_leerDatos size.toInt.toNat)
  | stdout pid datos => exact stable_recibirFinalizada hfin

/-- The device takes the request that the worker sent. -/
theorem reads_leerLlamadaIo [Recepcion] {word : List UInt8} (hllamada : llamada.Atendible)
    (henvia : llamada.enviar = some word) : Reads leerLlamadaIo word (some llamada) := by
  cases llamada with
  | sleep pid tiempoMs =>
    obtain ⟨hcabe, rfl⟩ := enviarPaquete_eq_some henvia
    apply reads_trasCodigo
    simp only [enviarIoSleep, paqueteDosInt, OpCode.deValor_valor]
    exact recibe_pedidoIo.last
  | stdin pid size =>
    obtain ⟨hcabe, rfl⟩ := enviarPaquete_eq_some henvia
    apply reads_trasCodigo
    simp only [enviarIoStdin, paqueteDosInt, OpCode.deValor_valor]
    exact recibe_pedidoIo.last
  | stdout pid datos =>
    obtain ⟨hcabe, rfl⟩ := enviarPaquete_eq_some henvia
    apply reads_trasCodigo
    simp only [enviarIoStdout, OpCode.deValor_valor]
    exact (recibe_ioStdout hllamada hcabe).last

/-- The buffer has as many bytes as were asked for. -/
theorem length_leerStdin {entrada datos resto : List UInt8} {cantidad : Int32}
    (h : leerStdin entrada cantidad = some (datos, resto)) : datos.length = cantidad.toInt.toNat := by
  obtain ⟨buffer, hbuffer, hdatos⟩ := Option.map_eq_some_iff.mp h
  obtain ⟨-, rfl⟩ : ¬ cantidad < 0 ∧ List.replicate cantidad.toInt.toNat 0 = buffer := by
    unfold calloc at hbuffer
    split at hbuffer
    · cases hbuffer
    · rename_i hno
      exact ⟨hno, Option.some.inj hbuffer⟩
  split at hdatos
  · obtain ⟨rfl, -⟩ := Prod.mk.inj hdatos
    exact List.length_replicate
  · obtain ⟨rfl, -⟩ := Prod.mk.inj hdatos
    rw [copiar_ceros, length_recortada]

theorem exists_leerStdin (entrada : List UInt8) {cantidad : Int32} (h : 0 ≤ cantidad) :
    ∃ datos resto, leerStdin entrada cantidad = some (datos, resto) := by
  have hcalloc : calloc cantidad = some (List.replicate cantidad.toInt.toNat 0) := if_neg (Int32.not_lt.mpr h)
  unfold leerStdin
  rw [hcalloc]
  exact ⟨_, _, rfl⟩

/-- The code of the reply is taken before its fields. -/
theorem reads_finalizada {campos : Lector RespuestaIo} {paquete : Paquete} {respuesta : RespuestaIo}
    (hcodigo : paquete.codigo = .ioFinalizada) (h : Recibe campos paquete respuesta) :
    Reads (recibirFinalizada campos) (serializarPaquete paquete) respuesta := by
  apply reads_trasCodigo
  rw [hcodigo, if_pos rfl]
  exact h

theorem reads_fin [Recepcion] (pid : Int32) :
    Reads (recibirFinalizada leerFin) (serializarPaquete (enviarFinIo pid)) (.fin pid) :=
  reads_finalizada rfl recibe_int.last

theorem length_datosStdin (pid : Int32) (datos : List UInt8) :
    (enviarDatosStdin pid datos).stream.length = 4 + datos.length := by
  simp [enviarDatosStdin, Paquete.stream]

theorem reads_datos [Recepcion] (pid : Int32) {datos : List UInt8} (hdatos : datos ≠ [])
    (hllega : Llega (4 + datos.length)) :
    Reads (recibirFinalizada (leerDatos datos.length)) (serializarPaquete (enviarDatosStdin pid datos))
      (.datos pid datos) := by
  have hlargo : Llega (enviarDatosStdin pid datos).stream.length := by
    rw [length_datosStdin]
    exact hllega
  exact reads_finalizada rfl ((Corresponde.datosStdin pid datos hdatos).recibe hlargo).last

theorem enviarPaquete_finIo (pid : Int32) :
    enviarPaquete (enviarFinIo pid) = some (serializarPaquete (enviarFinIo pid)) :=
  enviarPaquete_of_cabe (cabe_paqueteInt _ pid)

/-- The worker takes the reply of the device for that of the ports. -/
theorem atender_como_operar [Recepcion] (h : llamada.Atendible) : ∃ respuesta,
    p.atender (some llamada) = some ((p.operar llamada).1, respuesta) ∧
      Reads llamada.recibir respuesta (p.operar llamada).2 := by
  cases llamada with
  | sleep pid tiempoMs =>
    refine ⟨serializarPaquete (enviarFinIo pid), ?_, reads_fin pid⟩
    simp only [PuertosIo.atender, PuertosIo.operar, enviarPaquete_finIo, Option.map_some]
  | stdin pid size =>
    obtain ⟨hsize, hllega⟩ := h
    obtain ⟨datos, resto, hlee⟩ := exists_leerStdin p.entrada (Int32.le_of_lt hsize)
    have hlargo : datos.length = size.toInt.toNat := length_leerStdin hlee
    have hpos : 0 < size.toInt := Int32.lt_iff_toInt_lt.mp hsize
    have hdatos : datos ≠ [] := by
      apply List.length_pos_iff.mp
      omega
    rw [← hlargo] at hllega
    have henvia : enviarPaquete (enviarDatosStdin pid datos) =
        some (serializarPaquete (enviarDatosStdin pid datos)) := by
      apply enviarPaquete_of_cabe
      rw [length_datosStdin]
      exact hllega.cabe
    have hopera : p.operar (.stdin pid size) = ({ p with entrada := resto }, .datos pid datos) := by
      simp only [PuertosIo.operar, hlee]
    refine ⟨serializarPaquete (enviarDatosStdin pid datos), ?_, ?_⟩
    · simp only [PuertosIo.atender, hlee, henvia, hopera, Option.map_some]
    · rw [hopera]
      show Reads (recibirFinalizada (leerDatos size.toInt.toNat)) _ _
      rw [← hlargo]
      exact reads_datos pid hdatos hllega
  | stdout pid datos =>
    refine ⟨serializarPaquete (enviarFinIo pid), ?_, reads_fin pid⟩
    simp only [PuertosIo.atender, PuertosIo.operar, enviarPaquete_finIo, Option.map_some]

theorem espera_recibirIo [Recepcion] (llamada : LlamadaIo) : attempt llamada.recibir [] = none := by
  cases llamada with
  | sleep pid tiempoMs => exact espera_codigo _
  | stdin pid size => exact espera_codigo _
  | stdout pid datos => exact espera_codigo _

end

/-! ## Runs -/

theorem implementa_io [Recepcion] :
    Implements protocoloIo PuertosIo.operar (fun _ ↦ True) (fun _ ↦ LlamadaIo.Atendible) := by
  apply implements_ofReaders
  · exact fun _ ↦ stable_leerLlamadaIo
  · exact stable_hearReply fun _ llamada ↦ stable_recibirIo llamada
  · exact fun _ llamada word _ hllamada henvia ↦ reads_leerLlamadaIo hllamada henvia
  · intro p llamada word _ hllamada _
    obtain ⟨respuesta, hatiende, hrecibe⟩ := atender_como_operar (p := p) hllamada
    exact ⟨respuesta, hatiende, fun _ ↦ reads_hearReply hrecibe⟩
  · exact fun _ _ notice ↦ notice.elim
  · exact fun _ _ _ _ ↦ trivial
  · exact fun _ _ _ _ hllamada _ ↦ hllamada

theorem esperan_io [Recepcion] : protocoloIo.Waits := by
  apply waits_ofReaders
  · exact fun _ ↦ espera_codigo _
  · exact waits_hearReply fun _ llamada ↦ espera_recibirIo llamada

/-- The worker of an interface and its device. -/
abbrev SistemaIo : Type := System UInt8 Unit PuertosIo LlamadaIo RespuestaIo Empty

/-- The requests of processes to a device whose standard input is any text. -/
abbrev IoLlamadaAlcanzable [Recepcion] (texto : List UInt8) (s : SistemaIo) : Prop :=
  Reachable (System.step protocoloIo) (System.Initial ⟨texto, []⟩)
    (System.Allowed (fun _ ↦ LlamadaIo.Atendible) System.Alone) s

/-- However the bytes arrive, what was read from standard input, what was logged and what each process is told are
those of the requests in their order, and no request ends the device. -/
theorem llamadasIo_como_locales [Recepcion] (texto : List UInt8) (s : SistemaIo) (h : IoLlamadaAlcanzable texto s) :
    s.AsLocal protocoloIo PuertosIo.operar ⟨texto, []⟩ := by
  apply asLocal_of_reachable implementa_io esperan_io _ _ h
  · exact fun _ _ hmay ↦ hmay.elim
  · trivial

section Muestra

local instance recepcionDeIo : Recepcion := recepcionTipica

/-- A process reads a line in two parts, and another one writes. -/
theorem llamadasIo_como_locales_dosProcesos : ∃ s : SistemaIo,
    IoLlamadaAlcanzable "hola\nb".toUTF8.toList s ∧
      s.returned () = [(.stdin 1 6, .datos 1 "hola\x00\x00".toUTF8.toList), (.stdout 2 [104, 105, 0, 7], .fin 2),
        (.stdin 1 2, .datos 1 "b\x00".toUTF8.toList)] ∧
      s.AsLocal protocoloIo PuertosIo.operar ⟨"hola\nb".toUTF8.toList, []⟩ := by
  have hinicio : IoLlamadaAlcanzable "hola\nb".toUTF8.toList
      ⟨⟨"hola\nb".toUTF8.toList, []⟩, fun _ ↦ .idle, [], fun _ ↦ [], fun _ ↦ [], fun _ ↦ []⟩ :=
    .start ⟨rfl, rfl, fun _ ↦ ⟨rfl, rfl, rfl, rfl⟩⟩
  obtain ⟨s, hs, hreturned⟩ := hinicio.exists_of_runAllowed
    [.call () (.stdin 1 6), .deliverUp () 20, .serve (), .deliverDown () 7, .deliverDown () 20, .receive (),
      .call () (.stdout 2 [104, 105, 0, 7]), .deliverUp () 3, .deliverUp () 20, .serve (), .deliverDown () 20,
      .receive (), .call () (.stdin 1 2), .deliverUp () 20, .serve (), .deliverDown () 20, .receive ()]
    (fun s ↦ s.returned () = [(.stdin 1 6, .datos 1 "hola\x00\x00".toUTF8.toList),
      (.stdout 2 [104, 105, 0, 7], .fin 2), (.stdin 1 2, .datos 1 "b\x00".toUTF8.toList)])
    (by decide +kernel)
  exact ⟨s, hs, hreturned, llamadasIo_como_locales _ s hs⟩

end Muestra

end PlugAndPlay.Io
