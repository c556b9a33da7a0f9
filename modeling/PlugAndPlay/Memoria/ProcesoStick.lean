import PlugAndPlay.Library.ByteRange
import PlugAndPlay.Library.Transitions
import PlugAndPlay.Memoria.Conexiones
import PlugAndPlay.Red.IdaYVueltaMensajes

/-!
# The process of a memory stick

`utils_memory_stick.c`, and what `memory_io_leer` and `cpu_stick_leer` make of the reply to a read. The range
test is a 32-bit sum, so a range that wraps passes it. A refused read is answered like one of no bytes, and
its client waits for a payload; a refused write is answered like one that was done. Where a receive buffer cannot
hold a message, and where there are no bytes to receive, the stick or its client waits for ever.
-/

open PlugAndPlay.Library PlugAndPlay.Library.StreamReader PlugAndPlay.Red

namespace PlugAndPlay.Memoria

/-! ## The code -/

/-- A request as it comes; a write brings as many bytes as it announces. -/
inductive SolicitudStick
  | lectura (dir tam : UInt32)
  | escritura (dir tam : UInt32) (datos : List UInt8) (largo : datos.length = tam.toNat)

/-- The handler comes to the end of the request: it can peek at all of it, and `recv` of the bytes has some to wait
for. -/
def SolicitudStick.Recibida [Recepcion] : SolicitudStick → Prop
  | .lectura _ _ => True
  | .escritura _ tam _ _ => tam ≠ 0 ∧ Llega (largoPedidoEscritura + tam.toNat)

instance [Recepcion] : DecidablePred SolicitudStick.Recibida
  | .lectura _ _ => inferInstanceAs (Decidable True)
  | .escritura _ _ _ _ => inferInstanceAs (Decidable (_ ∧ _))

/-- The process and its buffer. `escrituras` are the writes that were acknowledged, the last one first. -/
structure ProcesoStick where
  stick : MemoryStick
  vivo : Bool
  escrituras : List (ℕ × List UInt8)

/-- An `int` that is passed on as a `size_t`. -/
def aSize (cantidad : Int32) : ℕ := (cantidad.toInt % 2 ^ 64).toNat

/-- The bytes of the buffer that `memcpy` is called with; a read passes their number through an `int`. -/
def MemoryStick.rangoCopiado (stick : MemoryStick) : SolicitudStick → Option ByteRange
  | .lectura dir tam => if dir + tam ≤ stick.tamanio then some ⟨dir.toNat, aSize tam.toInt32⟩ else none
  | .escritura dir tam _ _ => if dir + tam ≤ stick.tamanio then some ⟨dir.toNat, tam.toNat⟩ else none

/-- `manejar_lectura`: the reply, unless the process dies of a frame that an `int` cannot count. -/
def MemoryStick.responderLectura (stick : MemoryStick) (dir tam : UInt32) : Option (List UInt8) :=
  match stick.manejarLectura dir tam with
  | none => enviarPaquete ⟨.lecturaMemoria, []⟩
  | some datos => enviarPaquete (respuestaLectura datos)

/-- What a client finds on its connection: a frame, the end, or nothing. -/
inductive Llegada
  | trama (bytes : List UInt8)
  | fin
  | nada
deriving DecidableEq

/-- A frame that cannot be sent ends the process. -/
def Llegada.de : Option (List UInt8) → Llegada
  | some bytes => trama bytes
  | none => fin

/-- One turn of `memory_stick_cpu_handler`: what comes back on the connection, and the process after it. The handler
of a request that it does not receive to its end waits for ever; those of the other connections do not. -/
def ProcesoStick.atender [Recepcion] (p : ProcesoStick) (solicitud : SolicitudStick) : Llegada × ProcesoStick :=
  if p.vivo then
    if solicitud.Recibida then
      match solicitud with
      | .lectura dir tam =>
        let respuesta := p.stick.responderLectura dir tam
        (.de respuesta, { p with vivo := respuesta.isSome })
      | .escritura dir tam datos _ =>
        (.de (enviarPaquete (enviarOk .escrituraMemoria)),
          { p with
            stick := p.stick.manejarEscritura dir tam datos
            escrituras := (dir.toNat, datos) :: p.escrituras })
    else (.nada, p)
  else (.fin, p)

/-- What a client comes to. -/
inductive LecturaCliente
  | datos (bytes : List UInt8)
  | falla
  | espera
  | aborto
deriving Repr, DecidableEq

/-- The operation code, which may be refused, and then as many bytes as were asked for. -/
def leerRespuesta [Recepcion] (rechaza : UInt32 → Bool) (tam : UInt32) : Lector LecturaCliente := do
  let codigo ← recibirCodigoOperacion
  if rechaza codigo then pure .falla
  else
    let datos ← recibirDatosMemoria tam.toNat
    pure (.datos datos)

/-- A piece of `memory_io_leer`: any code but `-1` will do. -/
def memoryIoLeerPieza [Recepcion] (tam : UInt32) : Lector LecturaCliente :=
  leerRespuesta (fun codigo ↦ codigo = 0xFFFFFFFF) tam

/-- `cpu_stick_leer`. -/
def cpuStickLeerPieza [Recepcion] (tam : UInt32) : Lector LecturaCliente :=
  leerRespuesta (fun codigo ↦ codigo ≠ OpCode.lecturaMemoria.valor) tam

/-- The client over its connection: the end of it is the code `-1`, which both refuse, and on an open one a
`recv` waits for what is missing, also for what its receive buffer cannot hold. -/
def LecturaCliente.de (lector : Lector LecturaCliente) : Llegada → LecturaCliente
  | .fin => .falla
  | .nada => .espera
  | .trama llegado =>
    match lector llegado with
    | .ok (lectura, _) => lectura
    | .error .incompleto | .error .sinLugar => .espera
    | .error _ => .aborto

/-! ## A byte store -/

/-- The last value written at the address, zero if there is none. -/
def ProcesoStick.valor (p : ProcesoStick) (address : ℕ) : UInt8 :=
  (ByteMemory.lastWritten p.escrituras address).getD 0

/-- The request copies from the address of the buffer, or to it. -/
def ProcesoStick.Toca [Recepcion] (p : ProcesoStick) (solicitud : SolicitudStick) (address : ℕ) : Prop :=
  p.vivo = true ∧ solicitud.Recibida ∧ ∃ rango, p.stick.rangoCopiado solicitud = some rango ∧ rango.Contains address

/-- A read may come to the bytes that were written last, or fail. -/
def ProcesoStick.Leido (p : ProcesoStick) (dir tam : UInt32) : LecturaCliente → Prop
  | .datos bytes => bytes = ByteMemory.slice p.valor dir.toNat tam.toNat
  | .falla => True
  | .espera | .aborto => False

/-- All the bytes of a write were stored, and nothing else changed. -/
structure ProcesoStick.Guardada (p p' : ProcesoStick) (dir : UInt32) (datos : List UInt8) : Prop where
  dentro : datos = [] ∨ dir.toNat + datos.length ≤ p.stick.tamanio.toNat
  guardados : ByteMemory.slice p'.stick.memoria dir.toNat datos.length = datos
  resto : ∀ address, address < dir.toNat ∨ dir.toNat + datos.length ≤ address →
    p'.stick.memoria address = p.stick.memoria address
  tamanio : p'.stick.tamanio = p.stick.tamanio

/-- What a safe byte store does of the request. -/
def ProcesoStick.Atendida [Recepcion] (p : ProcesoStick) (solicitud : SolicitudStick) : Prop :=
  (∀ address, p.Toca solicitud address → address < p.stick.tamanio.toNat) ∧
    match solicitud with
    | .lectura dir tam =>
      p.Leido dir tam (.de (memoryIoLeerPieza tam) (p.atender solicitud).1) ∧
        p.Leido dir tam (.de (cpuStickLeerPieza tam) (p.atender solicitud).1)
    | .escritura dir _ datos _ =>
      (p.atender solicitud).1 = .trama (serializarPaquete (enviarOk .escrituraMemoria)) →
        p.Guardada (p.atender solicitud).2 dir datos

/-- A read of some bytes, in the buffer. Its client can peek at them, or the process dies of a frame that an `int`
cannot count, while it counts the bytes. -/
structure MemoryStick.AdmiteLectura [Recepcion] (stick : MemoryStick) (dir tam : UInt32) : Prop where
  algo : tam ≠ 0
  dentro : dir.toNat + tam.toNat ≤ stick.tamanio.toNat
  responde : tam.toNat ≤ Recepcion.capacidad ∨ ¬ CabeEnTrama tam.toNat ∧ tam.toNat < 2 ^ 31

/-- The bytes of the request lie in the buffer, if the handler comes to them. -/
def MemoryStick.Admite [Recepcion] (stick : MemoryStick) : SolicitudStick → Prop
  | .lectura dir tam => stick.AdmiteLectura dir tam
  | .escritura dir tam datos largo =>
    (SolicitudStick.escritura dir tam datos largo).Recibida → dir.toNat + tam.toNat ≤ stick.tamanio.toNat

/-- After its end the process does nothing any more. -/
def ProcesoStick.Admite [Recepcion] (p : ProcesoStick) (solicitud : SolicitudStick) : Prop :=
  p.vivo = false ∨ p.stick.Admite solicitud

instance [Recepcion] (stick : MemoryStick) (dir tam : UInt32) : Decidable (stick.AdmiteLectura dir tam) :=
  decidable_of_iff (tam ≠ 0 ∧ dir.toNat + tam.toNat ≤ stick.tamanio.toNat ∧
      (tam.toNat ≤ Recepcion.capacidad ∨ ¬ CabeEnTrama tam.toNat ∧ tam.toNat < 2 ^ 31))
    ⟨fun h ↦ ⟨h.1, h.2.1, h.2.2⟩, fun h ↦ ⟨h.algo, h.dentro, h.responde⟩⟩

instance [Recepcion] (stick : MemoryStick) : (solicitud : SolicitudStick) → Decidable (stick.Admite solicitud)
  | .lectura dir tam => inferInstanceAs (Decidable (stick.AdmiteLectura dir tam))
  | .escritura _ _ _ _ => inferInstanceAs (Decidable (_ → _))

instance [Recepcion] (p : ProcesoStick) (solicitud : SolicitudStick) : Decidable (p.Admite solicitud) :=
  inferInstanceAs (Decidable (_ ∨ _))

/-- The buffer of any size comes from `calloc`. -/
structure ProcesoStick.Inicial (p : ProcesoStick) : Prop where
  vivo : p.vivo = true
  ceros : ∀ address, p.stick.memoria address = 0
  escrituras : p.escrituras = []

def ProcesoStick.paso [Recepcion] (p : ProcesoStick) (solicitud : SolicitudStick) : Option ProcesoStick :=
  some (p.atender solicitud).2

/-- Runs of admitted requests, of any clients. -/
abbrev StickAlcanzable [Recepcion] (p : ProcesoStick) : Prop :=
  Reachable ProcesoStick.paso ProcesoStick.Inicial ProcesoStick.Admite p

/-! ## The range test -/

section

variable {stick : MemoryStick} {dir tam : UInt32} {datos : List UInt8}

theorem toInt_toInt32 (tam : UInt32) :
    tam.toInt32.toInt = if tam.toNat < 2 ^ 31 then (tam.toNat : ℤ) else tam.toNat - 2 ^ 32 := by
  have hcond := BitVec.toInt_eq_toNat_cond tam.toBitVec
  have htoInt : tam.toInt32.toInt = tam.toBitVec.toInt := rfl
  have htoNat : tam.toBitVec.toNat = tam.toNat := rfl
  rw [htoInt, hcond, htoNat]
  split_ifs <;> omega

theorem aSize_of_lt (h : tam.toNat < 2 ^ 31) : aSize tam.toInt32 = tam.toNat := by
  rw [aSize, toInt_toInt32, if_pos h]
  omega

/-- A negative count is a huge one. -/
theorem le_aSize (h : 2 ^ 31 ≤ tam.toNat) : 2 ^ 63 ≤ aSize tam.toInt32 := by
  have hlt : tam.toNat < 2 ^ 32 := tam.toNat_lt
  rw [aSize, toInt_toInt32, if_neg (by omega)]
  omega

/-- Inside the buffer nothing wraps, and the range passes. -/
theorem acepta_of_dentro (h : dir.toNat + tam.toNat ≤ stick.tamanio.toNat) : dir + tam ≤ stick.tamanio := by
  have hlt : stick.tamanio.toNat < 2 ^ 32 := stick.tamanio.toNat_lt
  rw [UInt32.le_iff_toNat_le, toNat_add_of_lt (by omega)]
  exact h

/-- A write in the buffer stores its bytes. -/
theorem manejarEscritura_dentro (hlargo : datos.length = tam.toNat)
    (h : dir.toNat + tam.toNat ≤ stick.tamanio.toNat) :
    stick.manejarEscritura dir tam datos =
      { stick with memoria := ByteMemory.overlay stick.memoria dir.toNat datos } := by
  have htodo : datos.take tam.toNat = datos := by rw [← hlargo, List.take_length]
  rw [MemoryStick.manejarEscritura, htodo, if_pos (acepta_of_dentro h)]

/-- A read in the buffer is answered with its bytes. -/
theorem responderLectura_dentro (h : dir.toNat + tam.toNat ≤ stick.tamanio.toNat) :
    stick.responderLectura dir tam =
      enviarPaquete (respuestaLectura (ByteMemory.slice stick.memoria dir.toNat tam.toNat)) := by
  rw [MemoryStick.responderLectura, MemoryStick.manejarLectura, if_pos (acepta_of_dentro h)]

/-! ## The clients -/

section Clientes

variable [Recepcion] {rechaza : UInt32 → Bool} (hcodigo : rechaza OpCode.lecturaMemoria.valor = false)

include hcodigo

/-- A reader that accepts the code goes on with the payload. -/
theorem leerRespuesta_run (tam : UInt32) (datos : List UInt8) :
    leerRespuesta rechaza tam (serializarPaquete (respuestaLectura datos)) =
      (recibirDatosMemoria tam.toNat >>= fun datos ↦ pure (LecturaCliente.datos datos) : Lector LecturaCliente)
        (littleEndian 8 datos.length ++ datos) := by
  have hstream : (respuestaLectura datos).stream = datos := List.flatten_singleton
  have hleido : recibirCodigoOperacion (serializarPaquete (respuestaLectura datos)) =
      .ok (OpCode.lecturaMemoria.valor, littleEndian 8 datos.length ++ datos) := by
    rw [serializarPaquete_eq, hstream]
    exact reads_uint32 _ _
  unfold leerRespuesta
  rw [bind_of_run hleido]
  simp only [hcodigo, Bool.false_eq_true, if_false]

/-- The client takes a payload that it can peek at. -/
theorem reads_lectura (hlargo : datos.length = tam.toNat) (hllega : Llega tam.toNat) :
    Reads (leerRespuesta rechaza tam) (serializarPaquete (respuestaLectura datos)) (.datos datos) := by
  have hstream : (respuestaLectura datos).stream.length = tam.toNat := by
    rw [← hlargo]
    exact congrArg List.length List.flatten_singleton
  have hrecibe := (Corresponde.datosMemoria datos).recibe (hstream ▸ hllega)
  rw [hlargo] at hrecibe
  rw [serializarPaquete_eq]
  apply (reads_uint32 _).bind
  simp only [respuestaLectura, hcodigo, Bool.false_eq_true, if_false]
  exact hrecibe.last

/-- A reply with all the bytes gives them to a client that can peek at them. -/
theorem de_respuestaLectura (hlargo : datos.length = tam.toNat) (hllega : Llega tam.toNat) :
    LecturaCliente.de (leerRespuesta rechaza tam) (.de (enviarPaquete (respuestaLectura datos))) = .datos datos := by
  have hcabe : CabeEnTrama (respuestaLectura datos).stream.length := by
    rw [respuestaLectura, Paquete.stream, List.flatten_singleton, hlargo]
    exact hllega.cabe
  rw [enviarPaquete, if_pos hcabe]
  simp only [Llegada.de, LecturaCliente.de, (reads_lectura hcodigo hlargo hllega).whole]

/-- After a reply without bytes the client waits for a payload. -/
theorem de_sinDatos (tam : UInt32) :
    LecturaCliente.de (leerRespuesta rechaza tam) (.de (enviarPaquete (respuestaLectura []))) = .espera := by
  have hdatos : recibirDatosMemoria tam.toNat (littleEndian 8 0 ++ []) = .error .incompleto := rfl
  have hlee : leerRespuesta rechaza tam (serializarPaquete (respuestaLectura [])) = .error .incompleto := by
    rw [leerRespuesta_run hcodigo]
    exact bind_of_fault hdatos _
  have henvia : enviarPaquete (respuestaLectura []) = some (serializarPaquete (respuestaLectura [])) := rfl
  rw [henvia]
  simp only [Llegada.de, LecturaCliente.de, hlee]

/-- Also of a reply that its receive buffer cannot hold the client waits for the rest. -/
theorem de_sinLugar (hlargo : datos.length = tam.toNat) (hcabe : CabeEnTrama tam.toNat)
    (hcapacidad : Recepcion.capacidad < tam.toNat) :
    LecturaCliente.de (leerRespuesta rechaza tam) (.de (enviarPaquete (respuestaLectura datos))) = .espera := by
  have hstream : (respuestaLectura datos).stream = datos := List.flatten_singleton
  have hsize : datos.length < 2 ^ 64 := by
    have htam := tam.toNat_lt
    omega
  have hvalida : validarBuffer (littleEndian 8 datos.length ++ datos) = .error .sinLugar := by
    have hsinLugar := validarBuffer_sinLugar (respuestaLectura datos) (by rw [hstream]; exact hsize)
      (by rw [hstream, hlargo]; exact hcapacidad) []
    rwa [hstream, List.append_nil] at hsinLugar
  have hdatos : recibirDatosMemoria tam.toNat (littleEndian 8 datos.length ++ datos) = .error .sinLugar :=
    bind_of_fault hvalida _
  have hlee : leerRespuesta rechaza tam (serializarPaquete (respuestaLectura datos)) = .error .sinLugar := by
    rw [leerRespuesta_run hcodigo]
    exact bind_of_fault hdatos _
  have henvia : enviarPaquete (respuestaLectura datos) = some (serializarPaquete (respuestaLectura datos)) := by
    apply if_pos
    rw [hstream, hlargo]
    exact hcabe
  rw [henvia]
  simp only [Llegada.de, LecturaCliente.de, hlee]

end Clientes

end

/-! ## Runs -/

section

variable [Recepcion] {p : ProcesoStick}

theorem ProcesoStick.Admite.delStick {solicitud : SolicitudStick} (h : p.Admite solicitud)
    (hvivo : p.vivo = true) : p.stick.Admite solicitud := by
  apply h.resolve_left
  rw [hvivo]
  exact Bool.noConfusion

/-- The buffer holds the last values that were written. -/
def ProcesoStick.AlDia (p : ProcesoStick) : Prop :=
  ∀ address < p.stick.tamanio.toNat, p.stick.memoria address = p.valor address

omit [Recepcion] in
theorem ProcesoStick.Inicial.alDia (h : p.Inicial) : p.AlDia := by
  intro address _
  rw [h.ceros, valor, h.escrituras]
  rfl

omit [Recepcion] in
/-- The stick answers a read in the buffer with the bytes that were written last. -/
theorem responderLectura_alDia {dir tam : UInt32} (h : p.AlDia)
    (hdentro : dir.toNat + tam.toNat ≤ p.stick.tamanio.toNat) :
    p.stick.responderLectura dir tam =
      enviarPaquete (respuestaLectura (ByteMemory.slice p.valor dir.toNat tam.toNat)) := by
  have hdatos : ByteMemory.slice p.stick.memoria dir.toNat tam.toNat =
      ByteMemory.slice p.valor dir.toNat tam.toNat := by
    apply ByteMemory.slice_congr
    intro address _ hlt
    exact h address (by omega)
  rw [responderLectura_dentro hdentro, hdatos]

/-! What a turn does: an admitted write that is received is one in the buffer. -/

theorem atender_muerto {solicitud : SolicitudStick} (hvivo : ¬ p.vivo = true) : p.atender solicitud = (.fin, p) := by
  unfold ProcesoStick.atender
  rw [if_neg hvivo]

theorem atender_sinRecibir {solicitud : SolicitudStick} (hvivo : p.vivo = true) (hno : ¬ solicitud.Recibida) :
    p.atender solicitud = (.nada, p) := by
  unfold ProcesoStick.atender
  rw [if_pos hvivo, if_neg hno]

theorem atender_lectura (hvivo : p.vivo = true) (dir tam : UInt32) :
    p.atender (.lectura dir tam) = (.de (p.stick.responderLectura dir tam),
      { p with vivo := (p.stick.responderLectura dir tam).isSome }) := by
  have hrecibida : (SolicitudStick.lectura dir tam).Recibida := trivial
  unfold ProcesoStick.atender
  rw [if_pos hvivo, if_pos hrecibida]

theorem atender_escritura {dir tam : UInt32} {datos : List UInt8} {largo : datos.length = tam.toNat}
    (hvivo : p.vivo = true) (hrecibida : (SolicitudStick.escritura dir tam datos largo).Recibida) :
    p.atender (.escritura dir tam datos largo) = (.trama (serializarPaquete (enviarOk .escrituraMemoria)),
      { p with
        stick := p.stick.manejarEscritura dir tam datos
        escrituras := (dir.toNat, datos) :: p.escrituras }) := by
  unfold ProcesoStick.atender
  rw [if_pos hvivo, if_pos hrecibida]
  rfl

theorem ProcesoStick.AlDia.atender {solicitud : SolicitudStick} (h : p.AlDia) (hadmite : p.Admite solicitud) :
    (p.atender solicitud).2.AlDia := by
  by_cases hvivo : p.vivo = true
  · cases solicitud with
    | lectura dir tam =>
      rw [atender_lectura hvivo]
      exact h
    | escritura dir tam datos largo =>
      by_cases hrecibida : (SolicitudStick.escritura dir tam datos largo).Recibida
      · have hdentro := hadmite.delStick hvivo hrecibida
        rw [atender_escritura hvivo hrecibida, manejarEscritura_dentro largo hdentro]
        intro address hlt
        exact ByteMemory.overlay_eq_lastWritten (h address hlt)
      · rw [atender_sinRecibir hvivo hrecibida]
        exact h
  · rw [atender_muerto hvivo]
    exact h

theorem alDia_of_alcanzable (h : StickAlcanzable p) : p.AlDia := by
  apply h.invariant (P := ProcesoStick.AlDia)
  · exact fun _ hinicial ↦ hinicial.alDia
  · intro s solicitud s' hdia hadmite hpaso
    cases hpaso
    exact hdia.atender hadmite

/-! ## A request -/

/-- What a client gets of an admitted read. -/
theorem leido_of_admite {dir tam : UInt32} {rechaza : UInt32 → Bool}
    (hcodigo : rechaza OpCode.lecturaMemoria.valor = false) (h : p.AlDia) (hadmite : p.stick.AdmiteLectura dir tam) :
    p.Leido dir tam (.de (leerRespuesta rechaza tam) (.de (p.stick.responderLectura dir tam))) := by
  rw [responderLectura_alDia h hadmite.dentro]
  rcases hadmite.responde with hcapacidad | ⟨hno, -⟩
  · have hpos : 0 < tam.toNat := Nat.pos_of_ne_zero fun hcero ↦ hadmite.algo (UInt32.toNat_inj.mp hcero)
    rw [de_respuestaLectura hcodigo ByteMemory.length_slice ⟨hpos, hcapacidad⟩]
    rfl
  · have henvia : enviarPaquete (respuestaLectura (ByteMemory.slice p.valor dir.toNat tam.toNat)) = none := by
      apply if_neg
      rwa [respuestaLectura, Paquete.stream, List.flatten_singleton, ByteMemory.length_slice]
    rw [henvia]
    trivial

/-- An admitted request copies bytes of the buffer only. -/
theorem toca_dentro {solicitud : SolicitudStick} (hadmite : p.Admite solicitud) {address : ℕ}
    (h : p.Toca solicitud address) : address < p.stick.tamanio.toNat := by
  obtain ⟨hvivo, hrecibida, rango, hrango, hle, hlt⟩ := h
  have hstick : p.stick.Admite solicitud := hadmite.delStick hvivo
  cases solicitud with
  | lectura dir tam =>
    cases (Option.ite_none_right_eq_some.mp hrango).2
    simp only at hle hlt
    have hdentro := hstick.dentro
    have hcuenta : tam.toNat < 2 ^ 31 := by
      rcases hstick.responde with hcapacidad | ⟨-, hcuenta⟩
      · have hcabe : CabeEnTrama Recepcion.capacidad := Recepcion.cabe
        unfold CabeEnTrama at hcabe
        omega
      · exact hcuenta
    rw [aSize_of_lt hcuenta] at hlt
    omega
  | escritura dir tam datos largo =>
    cases (Option.ite_none_right_eq_some.mp hrango).2
    simp only at hle hlt
    have hdentro := hstick hrecibida
    omega

theorem atendida_of_admite {solicitud : SolicitudStick} (h : p.AlDia) (hadmite : p.Admite solicitud) :
    p.Atendida solicitud := by
  apply And.intro (fun _ ↦ toca_dentro hadmite)
  by_cases hvivo : p.vivo = true
  · have hstick : p.stick.Admite solicitud := hadmite.delStick hvivo
    cases solicitud with
    | lectura dir tam =>
      simp only [atender_lectura hvivo]
      exact ⟨leido_of_admite rfl h hstick, leido_of_admite rfl h hstick⟩
    | escritura dir tam datos largo =>
      by_cases hrecibida : (SolicitudStick.escritura dir tam datos largo).Recibida
      · have hdentro := hstick hrecibida
        simp only [atender_escritura hvivo hrecibida, manejarEscritura_dentro largo hdentro]
        intro _
        constructor
        · right
          rw [largo]
          exact hdentro
        · exact ByteMemory.slice_overlay_same
        · exact fun _ hfuera ↦ ByteMemory.overlay_outside hfuera
        · rfl
      · simp only [atender_sinRecibir hvivo hrecibida]
        exact fun h ↦ nomatch h
  · cases solicitud with
    | lectura dir tam =>
      simp only [atender_muerto hvivo]
      exact ⟨trivial, trivial⟩
    | escritura dir tam datos largo =>
      simp only [atender_muerto hvivo]
      exact fun h ↦ nomatch h

/-- A range that is copied and does not leave the buffer is the one that was asked for. -/
theorem dentro_of_toca {dir tam : UInt32} (htam : tam ≠ 0) (hacepta : dir + tam ≤ p.stick.tamanio)
    (hvivo : p.vivo = true) (htoca : ∀ address, p.Toca (.lectura dir tam) address → address < p.stick.tamanio.toNat) :
    dir.toNat + tam.toNat ≤ p.stick.tamanio.toNat ∧ tam.toNat < 2 ^ 31 := by
  have htamNat : tam.toNat ≠ 0 := fun hcero ↦ htam (UInt32.toNat_inj.mp hcero)
  have hultimo : dir.toNat + (aSize tam.toInt32 - 1) < p.stick.tamanio.toNat ∨ aSize tam.toInt32 = 0 := by
    by_cases hcero : aSize tam.toInt32 = 0
    · exact Or.inr hcero
    · left
      apply htoca
      exact ⟨hvivo, trivial, ⟨dir.toNat, aSize tam.toInt32⟩, if_pos hacepta, by constructor <;> simp only <;> omega⟩
  have hlt : p.stick.tamanio.toNat < 2 ^ 32 := p.stick.tamanio.toNat_lt
  by_cases hcuenta : tam.toNat < 2 ^ 31
  · rw [aSize_of_lt hcuenta] at hultimo
    omega
  · have hgrande := le_aSize (Nat.le_of_not_lt hcuenta)
    omega

/-- A read that a client is done with was one of some bytes, in the buffer, that it could peek at or that ended the
process. -/
theorem admiteLectura_of_leido {dir tam : UInt32} (hvivo : p.vivo = true)
    (htoca : ∀ address, p.Toca (.lectura dir tam) address → address < p.stick.tamanio.toNat)
    (hleido : p.Leido dir tam (.de (cpuStickLeerPieza tam) (.de (p.stick.responderLectura dir tam)))) :
    p.stick.AdmiteLectura dir tam := by
  unfold cpuStickLeerPieza at hleido
  have hvacia : p.stick.responderLectura dir tam ≠ enviarPaquete (respuestaLectura []) := by
    intro hresponde
    rw [hresponde, de_sinDatos rfl] at hleido
    exact hleido
  have hacepta : dir + tam ≤ p.stick.tamanio := by
    by_contra hno
    apply hvacia
    unfold MemoryStick.responderLectura MemoryStick.manejarLectura
    rw [if_neg hno]
    rfl
  have hresponde : p.stick.responderLectura dir tam =
      enviarPaquete (respuestaLectura (ByteMemory.slice p.stick.memoria dir.toNat tam.toNat)) := by
    unfold MemoryStick.responderLectura MemoryStick.manejarLectura
    rw [if_pos hacepta]
  have htam : tam ≠ 0 := by
    rintro rfl
    exact hvacia hresponde
  obtain ⟨hdentro, hcuenta⟩ := dentro_of_toca htam hacepta hvivo htoca
  refine ⟨htam, hdentro, ?_⟩
  by_cases hcapacidad : tam.toNat ≤ Recepcion.capacidad
  · exact Or.inl hcapacidad
  · right
    refine ⟨fun hcabe ↦ ?_, hcuenta⟩
    rw [hresponde, de_sinLugar rfl ByteMemory.length_slice hcabe (Nat.lt_of_not_le hcapacidad)] at hleido
    exact hleido

/-- Whatever the store holds, it serves safely only what is admitted. -/
theorem admite_of_atendida {solicitud : SolicitudStick} (h : p.Atendida solicitud) : p.Admite solicitud := by
  by_cases hvivo : p.vivo = true
  · right
    obtain ⟨htoca, hrespuesta⟩ := h
    cases solicitud with
    | lectura dir tam =>
      simp only [atender_lectura hvivo] at hrespuesta
      exact admiteLectura_of_leido hvivo htoca hrespuesta.2
    | escritura dir tam datos largo =>
      intro hrecibida
      simp only [atender_escritura hvivo hrecibida] at hrespuesta
      have hguardada := hrespuesta trivial
      rcases hguardada.dentro with hvacia | hdentro
      · have hcero : tam = 0 := by
          apply UInt32.toNat_inj.mp
          rw [← largo, hvacia]
          rfl
        exact absurd hcero hrecibida.1
      · rwa [← largo]
  · left
    exact Bool.eq_false_of_not_eq_true hvivo

end

/-- After any admitted requests to a stick of any size, the next one is served as by a safe byte store if and
only if it is admitted. -/
theorem almacenSeguro_iff [Recepcion] (p : ProcesoStick) (h : StickAlcanzable p) (solicitud : SolicitudStick) :
    p.Atendida solicitud ↔ p.Admite solicitud := by
  constructor
  · exact admite_of_atendida
  · exact atendida_of_admite (alDia_of_alcanzable h)

/-- A stick that begins. -/
def procesoDe (tamanio : UInt32) : ProcesoStick := ⟨⟨3, tamanio, "", "", 0, 4, fun _ ↦ 0⟩, true, []⟩

theorem inicial_procesoDe (tamanio : UInt32) : (procesoDe tamanio).Inicial := ⟨rfl, fun _ ↦ rfl, rfl⟩

section Muestra

local instance recepcionDelProceso : Recepcion := recepcionTipica

theorem almacenSeguro_iff_tresBytes : ∃ p : ProcesoStick, StickAlcanzable p ∧
    ByteMemory.slice p.valor 3 5 = [0, 10, 7, 8, 0] ∧
      (p.Atendida (.lectura 3 5) ↔ p.Admite (.lectura 3 5)) := by
  have hinicio : StickAlcanzable (procesoDe 16) := .start (inicial_procesoDe 16)
  obtain ⟨p, hp, hvalor⟩ := hinicio.exists_of_runAllowed
    [.escritura 4 2 [10, 11] rfl, .escritura 5 2 [7, 8] rfl, .lectura 0 16]
    (fun p ↦ ByteMemory.slice p.valor 3 5 = [0, 10, 7, 8, 0]) (by decide +kernel)
  exact ⟨p, hp, hvalor, almacenSeguro_iff p hp _⟩

/-- A stick of 16 bytes accepts a write of one byte at the last address of 32 bits, answers a read from 10 on
with too few bytes, acknowledges a write that it did not do, and leaves the client that reads no bytes waiting; that
of a larger stick waits for 131073 bytes. -/
theorem stick_noSeguro : ∃ p grande : ProcesoStick, p.Inicial ∧ p.stick.tamanio = 16 ∧ grande.Inicial ∧
    ¬ p.Atendida (.escritura 0xFFFFFFFF 1 [7] rfl) ∧ ¬ p.Atendida (.lectura 10 8) ∧
      ¬ p.Atendida (.escritura 10 8 [1, 2, 3, 4, 5, 6, 7, 8] rfl) ∧ ¬ p.Atendida (.lectura 4 0) ∧
        ¬ grande.Atendida (.lectura 0 131073) := by
  refine ⟨procesoDe 16, procesoDe 200000, inicial_procesoDe 16, rfl, inicial_procesoDe 200000, ?_, ?_, ?_, ?_, ?_⟩
  all_goals exact fun h ↦ absurd (admite_of_atendida h) (by decide)

end Muestra

end PlugAndPlay.Memoria
