import Mathlib.Data.List.Forall2
import PlugAndPlay.Planificador.Planificadores
import PlugAndPlay.Red.LectoresEstables

/-!
# The demultiplexer of the socket with Kernel Memory

`memory_protocol.c`: on its socket with Kernel Memory the scheduler finds notifications before the answer it
waits for. Each handler takes the rest of its frame, so that behind any number of notifications the answer
is read from where it begins.
-/

open PlugAndPlay.Library.StreamReader PlugAndPlay.Red

namespace PlugAndPlay.Planificador

/-! ## The code -/

/-- What the handlers write to the log. -/
inductive LineaDemux
  | memoriaCorrupta
  | memoriaLiberada
  | inicioCompactacion
  | finCompactacion
  | nuevaMemoria (tamanio : UInt32) (ip puerto : Cadena)
deriving DecidableEq

/-- The bytes that arrived and were not taken, the frames that were sent, whether the socket has its
`SO_RCVTIMEO`, and what the handlers change besides. -/
structure SocketMemoria where
  recibidos : List UInt8
  enviados : List Paquete
  conTimeout : Bool
  sistemaCorrupto : Bool
  kernel : KernelScheduler
  log : List LineaDemux

/-- What the call does not come back from: a read that fails or waits for ever, or `exit` at the end of
`manejar_bsod`. -/
inductive FinDemux
  | lectura (fallo : FalloLectura)
  | bsod
deriving Repr, DecidableEq

abbrev Demux (α : Type) := StateT SocketMemoria (Except FinDemux) α

def leer {α : Type} (lector : Lector α) : Demux α := fun s ↦
  match lector s.recibidos with
  | .ok (valor, resto) => .ok (valor, { s with recibidos := resto })
  | .error fallo => .error (.lectura fallo)

/-- `(op_code)-1`. -/
def codigoInvalido : UInt32 := 0xFFFFFFFF

/-- `recibir_codigo_operacion`, which answers `-1` when fewer than four bytes come. -/
def leerCodigo : Demux UInt32 := fun s ↦
  match recibirCodigoOperacion s.recibidos with
  | .ok (codigo, resto) => .ok (codigo, { s with recibidos := resto })
  | .error _ => .ok (codigoInvalido, { s with recibidos := [] })

namespace SocketMemoria

variable (s : SocketMemoria)

def anotar (linea : LineaDemux) : SocketMemoria := { s with log := s.log ++ [linea] }

def memoriaLiberada : SocketMemoria :=
  { s.anotar .memoriaLiberada with kernel := s.kernel.notificarReevaluarSuspendidos }

/-- The answer goes out when the CPUs have their interrupts, not when they have let go of their
processes. -/
def iniciarCompactacion : SocketMemoria :=
  { s.anotar .inicioCompactacion with
    conTimeout := false
    kernel := s.kernel.manejarCompactacionInicio
    enviados := s.enviados ++ [enviarOk .iniciarCompactacion] }

def finalizarCompactacion : SocketMemoria :=
  { s.anotar .finCompactacion with
    conTimeout := true
    kernel := s.kernel.manejarCompactacionFin }

def nuevaMemoriaDisponible (tamanio : UInt32) (ip puerto : Cadena) : SocketMemoria :=
  { s.anotar (.nuevaMemoria tamanio ip puerto) with kernel := s.kernel.notificarReevaluarSuspendidos }

end SocketMemoria

/-- `manejar_bsod`, up to what only the exit would show. -/
def manejarBsod : Demux Unit := do
  let s ← get
  if s.sistemaCorrupto then pure () else throw .bsod

def handleMemoriaCorruptaBsod [Recepcion] : Demux Unit := do
  leer recibirOk
  modify fun s ↦ s.anotar .memoriaCorrupta
  manejarBsod

def handleMemoriaLiberada [Recepcion] : Demux Unit := do
  leer recibirOk
  modify SocketMemoria.memoriaLiberada

def handleIniciarCompactacion [Recepcion] : Demux Unit := do
  leer recibirOk
  modify SocketMemoria.iniciarCompactacion

def handleFinalizarCompactacion [Recepcion] : Demux Unit := do
  leer recibirOk
  modify SocketMemoria.finalizarCompactacion

def handleNuevaMemoriaDisponible [Recepcion] : Demux Unit := do
  let (tamanio, _, ip, puerto) ← leer recibirNuevaMemoriaDisponible
  modify fun s ↦ s.nuevaMemoriaDisponible tamanio ip puerto

/-- The `switch` of `despachar_si_es_notificacion`. -/
def handlerDe [Recepcion] (op : UInt32) : Option (Demux Unit) :=
  match OpCode.deValor op with
  | some .memoriaCorruptaBsod => some handleMemoriaCorruptaBsod
  | some .memoriaLiberada => some handleMemoriaLiberada
  | some .iniciarCompactacion => some handleIniciarCompactacion
  | some .finalizarCompactacion => some handleFinalizarCompactacion
  | some .nuevaMemoriaDisponible => some handleNuevaMemoriaDisponible
  | _ => none

def despacharSiEsNotificacion [Recepcion] (op : UInt32) : Demux Bool :=
  match handlerDe op with
  | none => pure false
  | some handler => do
    handler
    pure true

/-- The `while (1)` of `recibir_respuesta_de_memoria`, with a bound on its rounds. -/
def vueltasDemux [Recepcion] : ℕ → Demux UInt32
  | 0 => pure codigoInvalido
  | vueltas + 1 => do
    let op ← leerCodigo
    if op = codigoInvalido then pure op
    else
      let despachada ← despacharSiEsNotificacion op
      if despachada then vueltasDemux vueltas else pure op

/-- The loop as it runs: every round takes bytes, so those that arrived bound the rounds
(`vueltasDemux_estable`). -/
def recibirRespuestaDeMemoria [Recepcion] : Demux UInt32 := do
  let s ← get
  vueltasDemux (s.recibidos.length + 1)

/-! ## The bound on the rounds -/

section

variable {α : Type} {lector : Lector α} {s s' : SocketMemoria}

theorem leer_le {valor : α} (hlector : Takes lector 0) (h : leer lector s = .ok (valor, s')) :
    s'.recibidos.length ≤ s.recibidos.length := by
  unfold leer at h
  split at h
  · rename_i resto hlee
    cases h
    exact hlector _ _ _ hlee
  · cases h

/-- The handlers take the rest of their frame and then only act on what they know. -/
theorem luego_le {f : α → SocketMemoria → SocketMemoria} (hlector : Takes lector 0)
    (hf : ∀ valor s, (f valor s).recibidos = s.recibidos)
    (h : (leer lector >>= fun valor ↦ (modify (f valor) : Demux Unit)) s = .ok ((), s')) :
    s'.recibidos.length ≤ s.recibidos.length := by
  obtain ⟨valor, s₁, hlee, hresto⟩ := bind_eq_ok h
  cases hresto
  rw [hf]
  exact leer_le hlector hlee

theorem takes_nuevaMemoriaDisponible [Recepcion] : Takes recibirNuevaMemoriaDisponible 0 := by
  unfold recibirNuevaMemoriaDisponible
  apply Takes.andThen takes_validarBuffer.weaken
  intro _
  apply Takes.andThen takes_uint32.weaken
  intro tamanio
  apply Takes.andThen takes_uint32.weaken
  intro baseFisica
  apply Takes.andThen takes_cadena.weaken
  intro ip
  exact Takes.andThen takes_cadena.weaken fun puerto ↦ takes_pure (tamanio, baseFisica, ip, puerto)

/-- A handler gives nothing back to the stream. -/
theorem handlerDe_le [Recepcion] {op : UInt32} {handler : Demux Unit} (hop : handlerDe op = some handler)
    (h : handler s = .ok ((), s')) : s'.recibidos.length ≤ s.recibidos.length := by
  have hok := takes_ok.weaken
  unfold handlerDe at hop
  split at hop
  · cases hop
    obtain ⟨_, s₁, hlee, hresto⟩ := bind_eq_ok h
    obtain ⟨_, s₂, hanota, hbsod⟩ := bind_eq_ok hresto
    cases hanota
    have hle := leer_le hok hlee
    unfold manejarBsod at hbsod
    obtain ⟨_, _, hget, hfin⟩ := bind_eq_ok hbsod
    cases hget
    split at hfin
    · cases hfin
      exact hle
    · cases hfin
  · cases hop
    apply luego_le hok ?_ h
    exact fun _ _ ↦ rfl
  · cases hop
    apply luego_le hok ?_ h
    exact fun _ _ ↦ rfl
  · cases hop
    apply luego_le hok ?_ h
    exact fun _ _ ↦ rfl
  · cases hop
    apply luego_le takes_nuevaMemoriaDisponible ?_ h
    exact fun _ _ ↦ rfl
  · cases hop

theorem leerCodigo_lt {op : UInt32} (h : leerCodigo s = .ok (op, s')) (hop : op ≠ codigoInvalido) :
    s'.recibidos.length < s.recibidos.length := by
  unfold leerCodigo at h
  split at h
  · rename_i codigo resto hlee
    cases h
    have htoma := takes_uint32 _ _ _ hlee
    show resto.length < s.recibidos.length
    omega
  · cases h
    exact absurd rfl hop

theorem leerCodigo_ok (s : SocketMemoria) : ∃ op s', leerCodigo s = .ok (op, s') := by
  unfold leerCodigo
  split
  · exact ⟨_, _, rfl⟩
  · exact ⟨_, _, rfl⟩

/-- The bound on the rounds is never what ends the loop. -/
theorem vueltasDemux_estable [Recepcion] {vueltas otras : ℕ} (h : s.recibidos.length < vueltas)
    (hotras : s.recibidos.length < otras) : vueltasDemux vueltas s = vueltasDemux otras s := by
  induction vueltas generalizing otras s with
  | zero => omega
  | succ vueltas ih =>
    cases otras with
    | zero => omega
    | succ otras =>
      obtain ⟨op, s₁, hcodigo⟩ := leerCodigo_ok s
      unfold vueltasDemux
      rw [bind_of_run hcodigo, bind_of_run hcodigo]
      split
      · rfl
      · rename_i hop
        have hlt := leerCodigo_lt hcodigo hop
        unfold despacharSiEsNotificacion
        cases hhandler : handlerDe op with
        | none => rfl
        | some handler =>
          cases hrun : handler s₁ with
          | error fin =>
            have hfalla : (do handler; pure true : Demux Bool) s₁ = .error fin := bind_of_fault hrun _
            dsimp only
            rw [bind_of_fault hfalla, bind_of_fault hfalla]
          | ok par =>
            have hle := handlerDe_le hhandler hrun
            have hverdad : (do handler; pure true : Demux Bool) s₁ = .ok (true, par.2) := by
              rw [bind_of_run hrun]
              rfl
            dsimp only
            rw [bind_of_run hverdad, bind_of_run hverdad]
            simp only [if_true]
            apply ih <;> omega

end

/-! ## Frames of notifications -/

/-- What Kernel Memory announces while requests are served. -/
inductive Notificacion
  | memoriaLiberada
  | iniciarCompactacion
  | finalizarCompactacion
  | nuevaMemoriaDisponible (tamanio baseFisica : UInt32) (ip puerto : Cadena)
deriving DecidableEq

namespace Notificacion

/-- What Kernel Memory sends for it. -/
def paquete : Notificacion → Paquete
  | memoriaLiberada => enviarMemoriaLiberada
  | iniciarCompactacion => enviarOk .iniciarCompactacion
  | finalizarCompactacion => enviarOk .finalizarCompactacion
  | nuevaMemoriaDisponible tamanio baseFisica ip puerto =>
    enviarNuevaMemoriaDisponible tamanio baseFisica ip puerto

/-- What its handler does once it has read the frame. -/
def atender : Notificacion → SocketMemoria → SocketMemoria
  | memoriaLiberada, s => s.memoriaLiberada
  | iniciarCompactacion, s => s.iniciarCompactacion
  | finalizarCompactacion, s => s.finalizarCompactacion
  | nuevaMemoriaDisponible tamanio _ ip puerto, s => s.nuevaMemoriaDisponible tamanio ip puerto

/-- What its handler writes to the log. -/
def linea : Notificacion → LineaDemux
  | memoriaLiberada => .memoriaLiberada
  | iniciarCompactacion => .inicioCompactacion
  | finalizarCompactacion => .finCompactacion
  | nuevaMemoriaDisponible tamanio _ ip puerto => .nuevaMemoria tamanio ip puerto

def respuestas : Notificacion → List Paquete
  | iniciarCompactacion => [enviarOk .iniciarCompactacion]
  | _ => []

end Notificacion

/-- The handlers of the notifications, one after another. -/
def atenderTodas (notificaciones : List Notificacion) (s : SocketMemoria) : SocketMemoria :=
  notificaciones.foldl (fun s n ↦ n.atender s) s

/-- `op_code`s that the demultiplexer does not hand to its caller. -/
def EsNotificacion (codigo : UInt32) : Prop :=
  OpCode.deValor codigo ∈ [some .memoriaCorruptaBsod, some .memoriaLiberada, some .iniciarCompactacion,
    some .finalizarCompactacion, some .nuevaMemoriaDisponible]

instance : DecidablePred EsNotificacion := fun _ ↦ inferInstanceAs (Decidable (_ ∈ _))

section

variable {α : Type} {lector : Lector α} {s : SocketMemoria} {n : Notificacion}

theorem leer_of_reads {bytes resto : List UInt8} {valor : α} (h : Reads lector bytes valor)
    (hs : s.recibidos = bytes ++ resto) : leer lector s = .ok (valor, { s with recibidos := resto }) := by
  unfold leer
  rw [hs, h resto]

theorem leerCodigo_of_reads {codigo : UInt32} {resto : List UInt8} (hs : s.recibidos = deUint32 codigo ++ resto) :
    leerCodigo s = .ok (codigo, { s with recibidos := resto }) := by
  unfold leerCodigo recibirCodigoOperacion
  rw [hs, reads_uint32 codigo resto]

/-- A handler on its frame. -/
theorem luego_of_recibe {f : α → SocketMemoria → SocketMemoria} {paquete : Paquete} {valor : α}
    (h : Recibe lector paquete valor) (s : SocketMemoria) (resto : List UInt8) :
    (leer lector >>= fun valor ↦ (modify (f valor) : Demux Unit))
        { s with recibidos := littleEndian 8 paquete.stream.length ++ paquete.stream ++ resto } =
      .ok ((), f valor { s with recibidos := resto }) := by
  have hlee : leer lector
      { s with recibidos := littleEndian 8 paquete.stream.length ++ paquete.stream ++ resto } =
        .ok (valor, { s with recibidos := resto }) := leer_of_reads h rfl
  rw [bind_of_run hlee]
  rfl

/-- The handler of a notification takes the rest of its frame and acts. -/
theorem despachar_notificacion [Recepcion] (hllega : Llega n.paquete.stream.length) (s : SocketMemoria)
    (resto : List UInt8) :
    despacharSiEsNotificacion n.paquete.codigo.valor
        { s with recibidos := littleEndian 8 n.paquete.stream.length ++ n.paquete.stream ++ resto } =
      .ok (true, { n.atender s with recibidos := resto }) := by
  unfold despacharSiEsNotificacion handlerDe
  rw [OpCode.deValor_valor]
  cases n with
  | memoriaLiberada =>
    have hhandler : handleMemoriaLiberada _ = .ok ((), _) :=
      luego_of_recibe (Corresponde.memoriaLiberada.recibe hllega) s resto
    exact bind_of_run hhandler _
  | iniciarCompactacion =>
    have hrecibe : Recibe recibirOk (enviarOk .iniciarCompactacion) () := recibe_ok
    have hhandler : handleIniciarCompactacion _ = .ok ((), _) := luego_of_recibe hrecibe s resto
    exact bind_of_run hhandler _
  | finalizarCompactacion =>
    have hrecibe : Recibe recibirOk (enviarOk .finalizarCompactacion) () := recibe_ok
    have hhandler : handleFinalizarCompactacion _ = .ok ((), _) := luego_of_recibe hrecibe s resto
    exact bind_of_run hhandler _
  | nuevaMemoriaDisponible tamanio baseFisica ip puerto =>
    have hrecibe := (Corresponde.nuevaMemoriaDisponible tamanio baseFisica ip puerto).recibe hllega
    have hhandler : handleNuevaMemoriaDisponible _ = .ok ((), _) := luego_of_recibe hrecibe s resto
    exact bind_of_run hhandler _

/-- All notifications but one are acknowledgements; the strings of that one may be too long. -/
theorem Notificacion.capacidad_lt [Recepcion] (h : ¬ Llega n.paquete.stream.length) :
    Recepcion.capacidad < n.paquete.stream.length ∧
      handlerDe n.paquete.codigo.valor = some handleNuevaMemoriaDisponible := by
  cases n with
  | nuevaMemoriaDisponible tamanio baseFisica ip puerto =>
    refine ⟨?_, rfl⟩
    have hpos : 0 < (enviarNuevaMemoriaDisponible tamanio baseFisica ip puerto).stream.length := by
      simp only [Paquete.stream, enviarNuevaMemoriaDisponible, List.flatten_cons, List.length_append, length_deUint32]
      omega
    exact Nat.lt_of_not_le fun hle ↦ h ⟨hpos, hle⟩
  | _ => exact absurd (llega_ok _) h

/-- The handler of a frame that the receive buffer cannot hold waits for ever. -/
theorem despachar_sinLugar [Recepcion] (hcabe : CabeEnTrama n.paquete.stream.length)
    (hno : ¬ Llega n.paquete.stream.length) (s : SocketMemoria) (resto : List UInt8) :
    despacharSiEsNotificacion n.paquete.codigo.valor
        { s with recibidos := littleEndian 8 n.paquete.stream.length ++ n.paquete.stream ++ resto } =
      .error (.lectura .sinLugar) := by
  obtain ⟨hlargo, hhandler⟩ := n.capacidad_lt hno
  have hsize : n.paquete.stream.length < 2 ^ 64 := by
    unfold CabeEnTrama at hcabe
    omega
  have hvalida : recibirNuevaMemoriaDisponible
      (littleEndian 8 n.paquete.stream.length ++ n.paquete.stream ++ resto) = .error .sinLugar := by
    rw [List.append_assoc]
    exact bind_of_fault (validarBuffer_sinLugar n.paquete hsize hlargo resto) _
  have hlee : leer recibirNuevaMemoriaDisponible
      { s with recibidos := littleEndian 8 n.paquete.stream.length ++ n.paquete.stream ++ resto } =
        .error (.lectura .sinLugar) := by
    unfold leer
    rw [hvalida]
  have hmanejador : handleNuevaMemoriaDisponible _ = .error (.lectura .sinLugar) := bind_of_fault hlee _
  unfold despacharSiEsNotificacion
  rw [hhandler]
  exact bind_of_fault hmanejador _

theorem despachar_respuesta [Recepcion] {codigo : UInt32} (hcodigo : ¬ EsNotificacion codigo) (s : SocketMemoria) :
    despacharSiEsNotificacion codigo s = .ok (false, s) := by
  have hninguno : handlerDe codigo = none := by
    unfold handlerDe
    unfold EsNotificacion at hcodigo
    split
    all_goals first
      | rfl
      | rename_i hvalor
        simp [hvalor] at hcodigo
  unfold despacharSiEsNotificacion
  rw [hninguno]
  rfl

/-- No operation is announced with the number that stands for none. -/
theorem valor_ne_codigoInvalido (codigo : OpCode) : codigo.valor ≠ codigoInvalido := by
  cases codigo <;> decide

theorem Notificacion.atender_recibidos (n : Notificacion) (s : SocketMemoria) (bytes : List UInt8) :
    n.atender { s with recibidos := bytes } = { n.atender s with recibidos := bytes } := by
  cases n <;> rfl

theorem atenderTodas_recibidos (notificaciones : List Notificacion) (s : SocketMemoria) (bytes : List UInt8) :
    atenderTodas notificaciones { s with recibidos := bytes } =
      { atenderTodas notificaciones s with recibidos := bytes } := by
  induction notificaciones generalizing s with
  | nil => rfl
  | cons n notificaciones ih =>
    unfold atenderTodas at ih ⊢
    rw [List.foldl_cons, List.foldl_cons, n.atender_recibidos, ih]

/-- One round of the loop per notification. -/
theorem vueltasDemux_notificacion [Recepcion] {trama resto : List UInt8} (htrama : enviarPaquete n.paquete = some trama)
    (hllega : Llega n.paquete.stream.length) (hs : s.recibidos = trama ++ resto) (vueltas : ℕ) :
    vueltasDemux (vueltas + 1) s = vueltasDemux vueltas { n.atender s with recibidos := resto } := by
  obtain ⟨-, rfl⟩ := enviarPaquete_eq_some htrama
  rw [serializarPaquete_eq, List.append_assoc] at hs
  rw [vueltasDemux, bind_of_run (leerCodigo_of_reads hs), if_neg (valor_ne_codigoInvalido _),
    bind_of_run (despachar_notificacion hllega s resto), if_pos rfl]

/-- The round that never ends. -/
theorem vueltasDemux_sinLugar [Recepcion] {trama resto : List UInt8} (htrama : enviarPaquete n.paquete = some trama)
    (hno : ¬ Llega n.paquete.stream.length) (hs : s.recibidos = trama ++ resto) (vueltas : ℕ) :
    vueltasDemux (vueltas + 1) s = .error (.lectura .sinLugar) := by
  obtain ⟨hcabe, rfl⟩ := enviarPaquete_eq_some htrama
  rw [serializarPaquete_eq, List.append_assoc] at hs
  rw [vueltasDemux, bind_of_run (leerCodigo_of_reads hs), if_neg (valor_ne_codigoInvalido _)]
  exact bind_of_fault (despachar_sinLugar hcabe hno s resto) _

theorem vueltasDemux_respuesta [Recepcion] {codigo : UInt32} {resto : List UInt8} (hcodigo : ¬ EsNotificacion codigo)
    (hs : s.recibidos = deUint32 codigo ++ resto) (vueltas : ℕ) :
    vueltasDemux (vueltas + 1) s = .ok (codigo, { s with recibidos := resto }) := by
  rw [vueltasDemux, bind_of_run (leerCodigo_of_reads hs)]
  split
  · rfl
  · rw [bind_of_run (despachar_respuesta hcodigo _)]
    rfl

/-- The loop over the notifications before an answer. -/
theorem vueltasDemux_todas [Recepcion] {notificaciones : List Notificacion} {tramas : List (List UInt8)}
    {codigo : UInt32} {resto : List UInt8} (htramas : List.Forall₂ (fun n trama ↦ enviarPaquete n.paquete = some trama)
      notificaciones tramas) (hcodigo : ¬ EsNotificacion codigo)
    (hllega : ∀ n ∈ notificaciones, Llega n.paquete.stream.length)
    (hs : s.recibidos = tramas.flatten ++ (deUint32 codigo ++ resto)) {vueltas : ℕ}
    (hvueltas : notificaciones.length < vueltas) :
    vueltasDemux vueltas s = .ok (codigo, { atenderTodas notificaciones s with recibidos := resto }) := by
  induction htramas generalizing s vueltas with
  | nil =>
    obtain ⟨vueltas, rfl⟩ := Nat.exists_eq_succ_of_ne_zero (Nat.ne_of_gt hvueltas)
    exact vueltasDemux_respuesta hcodigo hs vueltas
  | @cons n trama notificaciones tramas htrama htramas ih =>
    obtain ⟨vueltas, rfl⟩ := Nat.exists_eq_succ_of_ne_zero (Nat.ne_of_gt (Nat.zero_lt_of_lt hvueltas))
    obtain ⟨hllegaEsta, hllegaResto⟩ := List.forall_mem_cons.mp hllega
    rw [List.flatten_cons, List.append_assoc] at hs
    rw [Nat.succ_eq_add_one, vueltasDemux_notificacion htrama hllegaEsta hs,
      ih hllegaResto rfl (Nat.lt_of_succ_lt_succ hvueltas)]
    rw [atenderTodas_recibidos]
    rfl

/-- The loop that comes to a notification too long for the receive buffer. -/
theorem vueltasDemux_sinLugar_de [Recepcion] {notificaciones : List Notificacion} {tramas : List (List UInt8)}
    {resto : List UInt8} (htramas : List.Forall₂ (fun n trama ↦ enviarPaquete n.paquete = some trama)
      notificaciones tramas) (hno : ∃ n ∈ notificaciones, ¬ Llega n.paquete.stream.length)
    (hs : s.recibidos = tramas.flatten ++ resto) {vueltas : ℕ} (hvueltas : notificaciones.length < vueltas) :
    vueltasDemux vueltas s = .error (.lectura .sinLugar) := by
  induction htramas generalizing s vueltas with
  | nil =>
    obtain ⟨_, hnada, _⟩ := hno
    cases hnada
  | @cons n trama notificaciones tramas htrama htramas ih =>
    obtain ⟨vueltas, rfl⟩ := Nat.exists_eq_succ_of_ne_zero (Nat.ne_of_gt (Nat.zero_lt_of_lt hvueltas))
    rw [List.flatten_cons, List.append_assoc] at hs
    by_cases hllega : Llega n.paquete.stream.length
    · have hsiguen : ∃ m ∈ notificaciones, ¬ Llega m.paquete.stream.length := by
        obtain ⟨m, hm, hnoLlega⟩ := hno
        rcases List.mem_cons.mp hm with rfl | hm
        · exact absurd hllega hnoLlega
        · exact ⟨m, hm, hnoLlega⟩
      rw [Nat.succ_eq_add_one, vueltasDemux_notificacion htrama hllega hs]
      exact ih hsiguen rfl (Nat.lt_of_succ_lt_succ hvueltas)
    · exact vueltasDemux_sinLugar htrama hllega hs vueltas

theorem log_atenderTodas (notificaciones : List Notificacion) (s : SocketMemoria) :
    (atenderTodas notificaciones s).log = s.log ++ notificaciones.map Notificacion.linea := by
  induction notificaciones generalizing s with
  | nil => exact (List.append_nil _).symm
  | cons n notificaciones ih =>
    have hlinea : (n.atender s).log = s.log ++ [n.linea] := by cases n <;> rfl
    calc
      (atenderTodas (n :: notificaciones) s).log
      _ = (n.atender s).log ++ notificaciones.map Notificacion.linea := ih (n.atender s)
      _ = s.log ++ (n :: notificaciones).map Notificacion.linea := by
        rw [hlinea, List.append_assoc]
        rfl

theorem enviados_atenderTodas (notificaciones : List Notificacion) (s : SocketMemoria) :
    (atenderTodas notificaciones s).enviados = s.enviados ++
      List.replicate (notificaciones.count .iniciarCompactacion) (enviarOk .iniciarCompactacion) := by
  induction notificaciones generalizing s with
  | nil => exact (List.append_nil _).symm
  | cons n notificaciones ih =>
    have hresto : (atenderTodas (n :: notificaciones) s).enviados = (n.atender s).enviados ++
        List.replicate (notificaciones.count .iniciarCompactacion) (enviarOk .iniciarCompactacion) :=
      ih (n.atender s)
    rw [hresto]
    cases n with
    | iniciarCompactacion =>
      rw [List.count_cons_self, List.replicate_succ]
      exact List.append_assoc _ _ _
    | _ =>
      rw [List.count_cons_of_ne (by simp)]
      rfl

end

/-- What a call that finds these notifications and then a response must do: it returns the `op_code` of the
response and leaves the stream at its size field; it ran the handler of each notification once, in order,
and answered each start of a compaction once. -/
structure DemuxExacto [Recepcion] (s s' : SocketMemoria) (notificaciones : List Notificacion) (codigo : UInt32)
    (resto : List UInt8) : Prop where
  devuelve : recibirRespuestaDeMemoria s = .ok (codigo, s')
  queda : s'.recibidos = resto
  atendidas : s' = { atenderTodas notificaciones s with recibidos := resto }
  log : s'.log = s.log ++ notificaciones.map Notificacion.linea
  avisos : s'.enviados = s.enviados ++
    List.replicate (notificaciones.count .iniciarCompactacion) (enviarOk .iniciarCompactacion)

/-- The notifications before a response are fewer than the rounds that the loop may take. -/
theorem length_lt_vueltas {s : SocketMemoria} {notificaciones : List Notificacion} {tramas : List (List UInt8)}
    {resto : List UInt8} (htramas : List.Forall₂ (fun n trama ↦ enviarPaquete n.paquete = some trama)
      notificaciones tramas) (hs : s.recibidos = tramas.flatten ++ resto) :
    notificaciones.length < s.recibidos.length + 1 := by
  have hlargos : notificaciones.length ≤ tramas.flatten.length := by
    clear hs
    induction htramas with
    | nil => exact Nat.le_refl 0
    | @cons n trama notificaciones tramas htrama htramas ih =>
      obtain ⟨-, rfl⟩ := enviarPaquete_eq_some htrama
      rw [List.flatten_cons, List.length_append, serializarPaquete_eq, List.length_append, length_deUint32,
        List.length_cons]
      omega
  rw [hs, List.length_append]
  omega

/-- A call that is done with its notifications could peek at all of them. -/
theorem DemuxExacto.llega [Recepcion] {s s' : SocketMemoria} {notificaciones : List Notificacion}
    {tramas : List (List UInt8)} {codigo : UInt32} {queda resto : List UInt8} (h : DemuxExacto s s' notificaciones codigo queda)
    (htramas : List.Forall₂ (fun n trama ↦ enviarPaquete n.paquete = some trama) notificaciones tramas)
    (hs : s.recibidos = tramas.flatten ++ resto) : ∀ n ∈ notificaciones, Llega n.paquete.stream.length := by
  by_contra! hno
  have hfalla : recibirRespuestaDeMemoria s = .error (.lectura .sinLugar) :=
    vueltasDemux_sinLugar_de htramas hno hs (length_lt_vueltas htramas hs)
  rw [h.devuelve] at hfalla
  cases hfalla

section Muestra

local instance recepcionDelDemux : Recepcion := recepcionTipica

/-- A compaction, a new stick and freed memory come before the answer to `CREAR_PROCESO`. -/
def notificacionesVarias : List Notificacion :=
  [.iniciarCompactacion, .nuevaMemoriaDisponible 64 16 ⟨[49, 46], by simp⟩ ⟨[56], by simp⟩,
    .finalizarCompactacion, .memoriaLiberada]

/-- The socket with these notifications, an answer, and one byte more. -/
def socketConVarias : SocketMemoria where
  recibidos := (notificacionesVarias.map fun n ↦ serializarPaquete n.paquete).flatten ++
    (deUint32 OpCode.crearProceso.valor ++ (serializarPaquete (enviarOk .crearProceso)).drop 4 ++ [7])
  enviados := []
  conTimeout := true
  sistemaCorrupto := false
  kernel := .inicial ⟨.fifo, 1, [], false, 0, 0⟩
  log := []

/-- A stick with this port, whose handshake is of 131072 bytes, announced before the answer to `CREAR_PROCESO`. -/
def socketConPuerto (puerto : Cadena) : SocketMemoria where
  recibidos := [serializarPaquete (Notificacion.nuevaMemoriaDisponible 64 0 ⟨[49], by simp⟩ puerto).paquete].flatten ++
    (deUint32 OpCode.crearProceso.valor ++ (serializarPaquete (enviarOk .crearProceso)).drop 4)
  enviados := []
  conTimeout := true
  sistemaCorrupto := false
  kernel := .inicial ⟨.fifo, 1, [], false, 0, 0⟩
  log := []

end Muestra

end PlugAndPlay.Planificador
