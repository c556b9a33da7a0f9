import PlugAndPlay.Library.ReaderCalls
import PlugAndPlay.Red.IdaYVueltaMensajes

/-!
# Receivers on an open connection

`recv` with `MSG_WAITALL` waits on an open connection until all it asks for has come, and so does `validar_buffer`,
which peeks at the payload. What a receiver has taken does not depend on what comes after it.
-/

open PlugAndPlay.Library PlugAndPlay.Library.StreamReader

namespace PlugAndPlay.Red

/-! ## The parts -/

theorem stable_uint32 : Stable recvUint32 := (stable_number _ 4).last UInt32.ofNat

theorem stable_uint8 : Stable recvUint8 := (stable_number _ 1).last UInt8.ofNat

theorem stable_int : Stable recvInt := stable_uint32.last UInt32.toInt32

/-- Something to read is still there when more has come. -/
theorem stable_recv (tamanio : ℕ) : Stable (recv tamanio) := by
  intro ahead value rest h more
  unfold recv at h ⊢
  rw [bind_of_run (get_eq ahead)] at h
  rw [bind_of_run (get_eq _)]
  split at h
  · cases h
  · rename_i hay
    rw [if_neg (List.append_ne_nil_of_left_ne_nil hay more)]
    exact stable_next _ tamanio ahead value rest h more

theorem stable_cadena : Stable recibirCadena := by
  apply stable_int.bind
  intro longitud
  split
  · exact stable_throw _
  · exact (stable_recv _).last cadenaEn

theorem stable_registros : Stable recibirRegistros := by
  apply stable_uint32.bind
  intro pc
  iterate 4
    apply stable_uint8.bind
    intro
  iterate 6
    apply stable_uint32.bind
    intro
  exact stable_pure _

theorem stable_segmento : Stable recibirSegmento := by
  iterate 4
    apply stable_uint32.bind
    intro
  exact stable_pure _

section Receptores

variable [Recepcion]

/-- A payload that was there is still there when more has come. -/
theorem stable_validarBuffer : Stable validarBuffer := by
  apply Stable.bind (stable_number _ 8)
  intro tamanioEsperado ahead value rest h more
  rw [bind_of_run (get_eq ahead)] at h
  rw [bind_of_run (get_eq _)]
  split at h
  · cases h
  rename_i hesta
  split at h
  · cases h
  rename_i hay
  split at h
  · cases h
  rename_i hcapacidad
  have hsigue : ¬ (ahead ++ more).length < tamanioEsperado := by
    rw [List.length_append]
    omega
  rw [if_neg hsigue, if_neg (List.append_ne_nil_of_left_ne_nil hay more), if_neg hcapacidad]
  cases h
  rfl

/-- A receiver that validates the buffer first. -/
theorem stable_validado {α : Type} {lector : Lector α} (h : Stable lector) :
    Stable (do validarBuffer; lector) :=
  stable_validarBuffer.bind fun _ ↦ h

/-! ## The receivers -/

theorem stable_leerInt : Stable leerInt := stable_validado stable_int

theorem stable_leerUint32 : Stable leerUint32 := stable_validado stable_uint32

theorem stable_recibirOk : Stable recibirOk := stable_validado (stable_int.last fun _ ↦ ())

theorem stable_leerCadena : Stable leerCadena := stable_validado stable_cadena

theorem stable_leerIntUint32 : Stable leerIntUint32 := by
  apply stable_validado
  apply stable_int.bind
  intro pid
  exact stable_uint32.last fun valor ↦ (pid, valor)

theorem stable_leerIntDosUint32 : Stable leerIntDosUint32 := by
  apply stable_validado
  apply stable_int.bind
  intro pid
  apply stable_uint32.bind
  intro primero
  exact stable_uint32.last fun segundo ↦ (pid, primero, segundo)

theorem stable_leerEscritura : Stable leerEscritura := by
  apply stable_validado
  apply stable_int.bind
  intro pid
  apply stable_uint32.bind
  intro dir
  apply stable_uint32.bind
  intro tamanio
  exact (stable_recv tamanio.toNat).last fun datos ↦ (pid, dir, datos)

theorem stable_recibirDatosMemoria (tamanio : ℕ) : Stable (recibirDatosMemoria tamanio) :=
  stable_validado (stable_recv tamanio)

theorem stable_recibirEscrituraBloqueSwap (size : ℕ) : Stable (recibirEscrituraBloqueSwap size) := by
  apply stable_validado
  apply stable_uint32.bind
  intro bloque
  exact (stable_recv size).last fun data ↦ (bloque, data)

theorem stable_recibirResultadoSwap : Stable recibirResultadoSwap :=
  stable_uint32.bind fun _ ↦ stable_leerInt

theorem stable_recibirBloqueSwap (size : ℕ) : Stable (recibirBloqueSwap size) := by
  apply stable_uint32.bind
  intro _
  apply stable_validarBuffer.bind
  intro _
  apply stable_int.bind
  intro status
  split
  · exact stable_pure (status, none)
  · exact (stable_recv size).last fun data ↦ (status, some data)

theorem stable_recibirContexto : Stable recibirContexto := by
  apply stable_validado
  apply stable_registros.bind
  intro registros
  apply stable_int.bind
  intro cantidad
  exact (stable_segmento.replicate _).last fun segmentos ↦ (registros, segmentos)

theorem stable_recibirContextoActualizar : Stable recibirContextoActualizar := by
  apply stable_validado
  apply stable_uint32.bind
  intro pid
  apply stable_registros.bind
  intro registros
  apply stable_int.bind
  intro cantidad
  exact (stable_segmento.replicate _).last fun segmentos ↦ (pid, registros, segmentos)

theorem stable_recibirNuevaMemoriaDisponible : Stable recibirNuevaMemoriaDisponible := by
  apply stable_validado
  apply stable_uint32.bind
  intro tamanio
  apply stable_uint32.bind
  intro baseFisica
  apply stable_cadena.bind
  intro ip
  exact stable_cadena.last fun puerto ↦ (tamanio, baseFisica, ip, puerto)

end Receptores

/-! ## Whole messages -/

/-- Without an operation code a receiver waits. -/
theorem espera_codigo {α : Type} (siguiente : UInt32 → Lector α) :
    attempt (recibirCodigoOperacion >>= siguiente) [] = none :=
  attempt_bind_nil rfl siguiente

/-- A receiver that takes the operation code first. -/
theorem reads_trasCodigo {β : Type} {paquete : Paquete} {final : β} {siguiente : UInt32 → Lector β}
    (h : Recibe (siguiente paquete.codigo.valor) paquete final) :
    Reads (recibirCodigoOperacion >>= siguiente) (serializarPaquete paquete) final := by
  rw [serializarPaquete_eq]
  exact (reads_uint32 _).bind h

/-- What is sent is the whole frame. -/
theorem enviarPaquete_eq_some {paquete : Paquete} {word : List UInt8} (h : enviarPaquete paquete = some word) :
    CabeEnTrama paquete.stream.length ∧ serializarPaquete paquete = word := by
  unfold enviarPaquete at h
  split at h
  · rename_i hcabe
    exact ⟨hcabe, Option.some.inj h⟩
  · cases h

theorem enviarPaquete_of_cabe {paquete : Paquete} (h : CabeEnTrama paquete.stream.length) :
    enviarPaquete paquete = some (serializarPaquete paquete) :=
  if_pos h

/-- One number always fits. -/
theorem cabe_paqueteInt (codigo : OpCode) (valor : Int32) :
    CabeEnTrama (paqueteInt codigo valor).stream.length := by
  simp [paqueteInt, Paquete.stream, CabeEnTrama, largoCabecera]

end PlugAndPlay.Red
