import PlugAndPlay.Memoria.Accesos
import PlugAndPlay.Planificador.NotificacionesLeidas

/-!
# Whose answer a requester takes

The memory socket again, now with timeouts that may expire at any moment. Requests carry no identifier: a
requester takes the next frame that is no notification for its answer. In the model every request has a
number and every answer the number of its request, which no step looks at.
-/

open PlugAndPlay.Library PlugAndPlay.Memoria

namespace PlugAndPlay.Planificador

/-! ## Frames -/

/-- The bytes of the payload; that of `enviar_ok` is an `int`. -/
def cargaDe : Mensaje → ℕ
  | .ok _ | .obtenerEspacioLibre _ => 4
  | .solicitarSegmento _ _ _ => 12
  | .lecturaMemoria datos => datos.length

/-- The bytes of the payload that the requester reads after this answer, `none` where it leaves also the size
in the socket. -/
def Pedido.lee (p : Pedido) (m : Mensaje) : Option ℕ :=
  match p with
  | .crearProceso _ _ => if m = .ok .crearProceso then some 4 else none
  | .solicitarSegmento _ _ _ => if m = .ok .segmentationFault then some 4 else some 12
  | .lecturaMemoria _ _ tamanio => if m = .ok .segmentationFault then some 4 else some tamanio.toNat
  | _ => some 4

/-- After the answer the requester is at the beginning of the next frame. -/
def Pedido.Drena (p : Pedido) : Trama → Prop
  | .mensaje m => p.lee m = some (cargaDe m)
  | _ => False

instance (p : Pedido) : (t : Trama) → Decidable (p.Drena t)
  | .mensaje _ => inferInstanceAs (Decidable (_ = _))
  | .nuevaMemoriaDisponible _ _ | .memoriaCorruptaBsod => inferInstanceAs (Decidable False)

/-- `numero` counts the requests sent before. -/
structure PedidoEnviado where
  numero : ℕ
  pedido : Pedido
deriving DecidableEq

inductive EnvioNumerado
  | pedido (p : PedidoEnviado)
  | okCompactacion
deriving DecidableEq

def EnvioNumerado.pedido? : EnvioNumerado → Option PedidoEnviado
  | .pedido p => some p
  | .okCompactacion => none

/-- A frame of Kernel Memory, with the number of the request it answers. -/
structure TramaDe where
  trama : Trama
  responde : Option ℕ
deriving DecidableEq

/-- A requester took the frame for its answer. -/
structure Interpretada where
  pedido : PedidoEnviado
  trama : TramaDe
deriving DecidableEq

/-- The phases of the thread of Kernel Memory, with the number of the request that compacts. -/
inductive FaseAtencion
  | libre
  | compactar (numero : ℕ) (pid : Pid) (id tamanio : UInt32)
  | reasignar (numero : ℕ) (pid : Pid) (id tamanio : UInt32)
  | notificar
deriving DecidableEq

def FaseAtencion.numero? : FaseAtencion → Option ℕ
  | .compactar numero _ _ _ | .reasignar numero _ _ _ => some numero
  | _ => none

/-- The acknowledgements the phase waits for. -/
def FaseAtencion.acuses : FaseAtencion → ℕ
  | .compactar _ _ _ _ => 1
  | _ => 0

/-! ## The state -/

/-- `espera` is the request of the thread that holds `mutex_memory_socket`, `conTimeout` is `SO_RCVTIMEO`;
`desfasado` tells that one of the sides reads the stream from the middle of a frame. -/
structure CanalNumerado where
  memoria : KernelMemory
  fase : FaseAtencion
  aMemoria : List EnvioNumerado
  aScheduler : List TramaDe
  espera : Option PedidoEnviado
  conTimeout : Bool
  enviados : ℕ
  interpretadas : List Interpretada
  desfasado : Bool
  detenido : Bool

inductive EventoNumerado
  | pedir (p : Pedido)
  | leer
  | vencer
  | servir
  | compactar
  | reasignar
  | notificar
  | avisar (t : Trama)
  | otrosHilos (m : KernelMemory)

namespace CanalNumerado

variable (c : CanalNumerado)

/-! ## The scheduler -/

/-- The handler of a notification. -/
def manejar (t : Trama) : CanalNumerado :=
  match t with
  | .memoriaCorruptaBsod => { c with detenido := true }
  | .mensaje (.ok .iniciarCompactacion) =>
    { c with conTimeout := false, aMemoria := c.aMemoria ++ [.okCompactacion] }
  | .mensaje (.ok .finalizarCompactacion) => { c with conTimeout := true }
  | _ => c

/-- The requester takes the frame, reads its payload and unlocks the mutex. -/
def interpretar (p : PedidoEnviado) (t : TramaDe) : CanalNumerado :=
  { c with
    espera := none
    interpretadas := c.interpretadas ++ [⟨p, t⟩]
    desfasado := ¬ p.pedido.Drena t.trama }

/-! ## Kernel Memory -/

def empujar (tramas : List TramaDe) : CanalNumerado := { c with aScheduler := c.aScheduler ++ tramas }

/-- The answers among the messages of a handler. -/
def respuestasDe (mensajes : List Mensaje) : List Mensaje := mensajes.filter (· ≠ .ok .memoriaLiberada)

/-- The frames of a section that changed the memory. -/
def tramasDe (numero : ℕ) (antes despues : KernelMemory) (mensajes : List Mensaje) : List TramaDe :=
  (CanalMemoria.avisosBsod antes despues).map (⟨·, none⟩) ++
    (respuestasDe mensajes).map fun mensaje ↦ ⟨.mensaje mensaje, some numero⟩

/-- A request is answered, apart from `notificar_memoria_liberada`. -/
def responder (numero : ℕ) (m : KernelMemory) (mensajes : List Mensaje) : CanalNumerado :=
  { c with
    memoria := m
    aScheduler := c.aScheduler ++ tramasDe numero c.memoria m mensajes
    fase := if .ok .memoriaLiberada ∈ mensajes then .notificar else .libre }

/-- A request of `memory_receptor_scheduler_thread`. -/
def atenderPedido (qsort : Qsort) (p : PedidoEnviado) : CanalNumerado :=
  match p.pedido with
  | .solicitarSegmento pid id tamanio =>
    match solicitarSinCompactar c.memoria pid id tamanio with
    | (some respuesta, m) => c.responder p.numero m respuesta
    | (none, m) =>
      { c with
        memoria := m
        aScheduler := c.aScheduler ++ [⟨.mensaje (.ok .iniciarCompactacion), none⟩]
        fase := .compactar p.numero pid id tamanio }
  | pedido =>
    let (mensajes, m) := atender qsort c.memoria pedido.operacion
    c.responder p.numero m mensajes

/-! ## Steps -/

/-- One step. A frame counts as received when it is read: until then it may be on its way. -/
def paso (qsort : Qsort) (c : CanalNumerado) (e : EventoNumerado) : Option CanalNumerado :=
  if c.detenido ∨ c.desfasado then none
  else
    match e with
    | .pedir p =>
      if c.espera = none then
        some { c with
          espera := some ⟨c.enviados, p⟩
          aMemoria := c.aMemoria ++ [.pedido ⟨c.enviados, p⟩]
          enviados := c.enviados + 1 }
      else none
    | .leer =>
      match c.espera, c.aScheduler with
      | some p, t :: resto =>
        let c₁ := { c with aScheduler := resto }
        some (if t.trama.esNotificacion then c₁.manejar t.trama else c₁.interpretar p t)
      | _, _ => none
    | .vencer => if c.espera ≠ none ∧ c.conTimeout then some { c with espera := none } else none
    | .servir =>
      match c.fase, c.aMemoria with
      | .libre, .pedido p :: resto => some ({ c with aMemoria := resto }.atenderPedido qsort p)
      | .libre, .okCompactacion :: resto => some { c with aMemoria := resto, desfasado := true }
      | _, _ => none
    | .compactar =>
      match c.fase, c.aMemoria with
      | .compactar numero pid id tamanio, .okCompactacion :: resto =>
        let m := compactarMemoria qsort c.memoria
        some { c with
          memoria := m
          aMemoria := resto
          aScheduler := c.aScheduler ++ (CanalMemoria.avisosBsod c.memoria m).map (⟨·, none⟩) ++
            [⟨.mensaje (.ok .finalizarCompactacion), none⟩]
          fase := .reasignar numero pid id tamanio }
      -- the request is taken for the acknowledgement
      | .compactar _ _ _ _, .pedido _ :: resto => some { c with aMemoria := resto, desfasado := true }
      | _, _ => none
    | .reasignar =>
      match c.fase with
      | .reasignar numero pid id tamanio =>
        let (mensajes, m) := Memoria.reasignar c.memoria pid id tamanio
        some (c.responder numero m mensajes)
      | _ => none
    | .notificar =>
      if c.fase = .notificar then
        some ({ c with fase := .libre }.empujar [⟨.mensaje (.ok .memoriaLiberada), none⟩])
      else none
    | .avisar t => if t.esAviso then some (c.empujar [⟨t, none⟩]) else none
    | .otrosHilos m => some { c with memoria := m }

/-- Any memory, and nothing under way. -/
def Arranque : Prop :=
  c.fase = .libre ∧ c.aMemoria = [] ∧ c.aScheduler = [] ∧ c.espera = none ∧ c.interpretadas = [] ∧
    c.desfasado = false

/-- Every frame that was taken for an answer was the answer to that request. -/
def Pareado : Prop := ∀ i ∈ c.interpretadas, i.trama.responde = some i.pedido.numero

instance : Decidable c.Pareado := inferInstanceAs (Decidable (∀ i ∈ _, _))

/-- The request has no answer. -/
def SinRespuesta (qsort : Qsort) (m : KernelMemory) : Pedido → Prop
  | .solicitarSegmento _ _ _ => False
  | p => respuestasDe (atender qsort m p.operacion).1 = []

instance (qsort : Qsort) (m : KernelMemory) : (p : Pedido) → Decidable (SinRespuesta qsort m p)
  | .solicitarSegmento _ _ _ => inferInstanceAs (Decidable False)
  | .crearProceso _ _ | .eliminarSegmento _ _ | .finalizarProceso _ | .lecturaMemoria _ _ _
  | .escrituraMemoria _ _ _ | .suspenderProceso _ | .desSuspenderProceso _ =>
    inferInstanceAs (Decidable (respuestasDe _ = []))

/-- The request is in a compaction, or its answer is on the way. -/
def Contestando (numero : ℕ) : Prop :=
  c.fase.numero? = some numero ∨ ∃ t ∈ c.aScheduler, t.responde = some numero

instance (numero : ℕ) : Decidable (c.Contestando numero) := inferInstanceAs (Decidable (_ ∨ _))

/-- No request is answered after its requester has given up. -/
def SinTardias (qsort : Qsort) (c : CanalNumerado) : EventoNumerado → Prop
  | .vencer => ∀ p ∈ c.espera, ¬ c.Contestando p.numero
  | .servir => ∀ p ∈ c.aMemoria.head?.bind EnvioNumerado.pedido?,
      c.espera = some p ∨ SinRespuesta qsort c.memoria p.pedido
  | _ => True

instance (qsort : Qsort) (c : CanalNumerado) : (e : EventoNumerado) → Decidable (c.SinTardias qsort e)
  | .vencer | .servir => inferInstanceAs (Decidable (∀ p ∈ _, _))
  | .pedir _ | .leer | .compactar | .reasignar | .notificar | .avisar _ | .otrosHilos _ =>
    inferInstanceAs (Decidable True)

/-! ## What holds in every run without late answers -/

def pedidosEnCola (cola : List EnvioNumerado) : List PedidoEnviado := cola.filterMap EnvioNumerado.pedido?

/-- The requests in the socket, in a compaction and in answers. -/
def numeros : List ℕ :=
  (pedidosEnCola c.aMemoria).map PedidoEnviado.numero ++
    (c.fase.numero?.toList ++ c.aScheduler.filterMap TramaDe.responde)

/-- A notification, or the answer to the request somebody waits for, in its format. -/
def Valida (espera : Option PedidoEnviado) (t : TramaDe) : Prop :=
  match t.responde with
  | none => t.trama.esNotificacion = true
  | some n => t.trama.esNotificacion = false ∧ ∃ p, espera = some p ∧ p.numero = n ∧ p.pedido.Drena t.trama

/-- The acknowledgements that are on the way or will be sent. -/
def acusesEnCurso : ℕ :=
  c.aMemoria.count .okCompactacion +
    c.aScheduler.countP fun t ↦ t.trama = .mensaje (.ok .iniciarCompactacion)

structure Ordenado (c : CanalNumerado) : Prop where
  pareado : c.Pareado
  enFase : c.desfasado = false
  ultimo : ∀ p, c.espera = some p → p.numero + 1 = c.enviados
  cola : (pedidosEnCola c.aMemoria).Pairwise (·.numero < ·.numero)
  distintos : c.numeros.Nodup
  enviados : ∀ n ∈ c.numeros, n < c.enviados
  compacta : ∀ n ∈ c.fase.numero?, ∃ p, c.espera = some p ∧ p.numero = n
  solicita : ∀ n pid id tamanio, c.fase = .compactar n pid id tamanio ∨ c.fase = .reasignar n pid id tamanio →
    c.espera = some ⟨n, .solicitarSegmento pid id tamanio⟩
  validas : ∀ t ∈ c.aScheduler, Valida c.espera t
  acuses : c.acusesEnCurso = c.fase.acuses
  soloAcuse : c.fase.acuses = 1 → pedidosEnCola c.aMemoria = []

variable {qsort : Qsort} {c c' : CanalNumerado} {e : EventoNumerado} {p : PedidoEnviado}

/-! ## The answers of Kernel Memory -/

/-- The requester can read the message as its answer. -/
def EsRespuesta (p : Pedido) (mensaje : Mensaje) : Prop :=
  p.Drena (.mensaje mensaje) ∧ (Trama.mensaje mensaje).esNotificacion = false

theorem esRespuesta_atender (qsort : Qsort) (m : KernelMemory) (p : Pedido)
    (hp : ∀ pid id tamanio, p ≠ .solicitarSegmento pid id tamanio) {mensaje : Mensaje}
    (h : mensaje ∈ respuestasDe (atender qsort m p.operacion).1) : EsRespuesta p mensaje := by
  obtain ⟨hmem, hno⟩ := List.mem_filter.mp h
  replace hno : mensaje ≠ .ok .memoriaLiberada := of_decide_eq_true hno
  cases p with
  | crearProceso pid instrucciones =>
    obtain rfl := List.mem_singleton.mp hmem
    exact ⟨rfl, rfl⟩
  | solicitarSegmento pid id tamanio => exact absurd rfl (hp pid id tamanio)
  | eliminarSegmento pid id =>
    simp only [Pedido.operacion, atender, manejarEliminarSegmento] at hmem
    split at hmem
    · obtain rfl := List.mem_singleton.mp hmem
      exact ⟨rfl, rfl⟩
    · split at hmem
      · obtain rfl := List.mem_singleton.mp hmem
        exact ⟨rfl, rfl⟩
      · obtain rfl := (List.mem_cons.mp hmem).resolve_right fun h ↦ hno (List.mem_singleton.mp h)
        exact ⟨rfl, rfl⟩
  | finalizarProceso pid =>
    simp only [Pedido.operacion, atender, manejarFinalizarProceso] at hmem
    split at hmem
    · obtain rfl := List.mem_singleton.mp hmem
      exact ⟨rfl, rfl⟩
    · rcases List.mem_cons.mp hmem with rfl | hmem
      · exact ⟨rfl, rfl⟩
      · split at hmem
        · exact absurd (List.mem_singleton.mp hmem) hno
        · cases hmem
  | lecturaMemoria pid dir tamanio =>
    simp only [Pedido.operacion, atender, manejarLecturaMemoria] at hmem
    split at hmem
    · obtain rfl := List.mem_singleton.mp hmem
      exact ⟨rfl, rfl⟩
    split at hmem
    · obtain rfl := List.mem_singleton.mp hmem
      exact ⟨rfl, rfl⟩
    split at hmem
    · cases hmem
    · split at hmem
      · cases hmem
      · rename_i datos ram hleer
        obtain rfl := List.mem_singleton.mp hmem
        have hlargo := length_memoryIoLeer (congrArg Prod.fst hleer)
        exact ⟨congrArg some hlargo.symm, rfl⟩
  | escrituraMemoria pid dir datos =>
    simp only [Pedido.operacion, atender, manejarEscrituraMemoria] at hmem
    split at hmem
    · obtain rfl := List.mem_singleton.mp hmem
      exact ⟨rfl, rfl⟩
    split at hmem
    · obtain rfl := List.mem_singleton.mp hmem
      exact ⟨rfl, rfl⟩
    split at hmem
    · cases hmem
    · obtain rfl := List.mem_singleton.mp hmem
      exact ⟨rfl, rfl⟩
  | suspenderProceso pid =>
    simp only [Pedido.operacion, atender, manejarSuspenderProceso] at hmem
    split at hmem
    · cases hmem
    · obtain rfl := List.mem_singleton.mp hmem
      exact ⟨rfl, rfl⟩
  | desSuspenderProceso pid =>
    simp only [Pedido.operacion, atender, manejarDesSuspenderProceso] at hmem
    split at hmem <;> obtain rfl := List.mem_singleton.mp hmem <;> exact ⟨rfl, rfl⟩

/-- An answer to `SOLICITAR_SEGMENTO`. -/
def RespuestaDeSegmento (pid : Pid) (id tamanio : UInt32) (mensajes : List Mensaje) : Prop :=
  ∃ mensaje, mensajes = [mensaje] ∧ mensaje ≠ .ok .memoriaLiberada ∧
    EsRespuesta (.solicitarSegmento pid id tamanio) mensaje

theorem respuestaDeSegmento_sinCompactar {m m' : KernelMemory} {pid : Pid} {id tamanio : UInt32}
    {mensajes : List Mensaje} (h : solicitarSinCompactar m pid id tamanio = (some mensajes, m')) :
    RespuestaDeSegmento pid id tamanio mensajes := by
  have hfalla : RespuestaDeSegmento pid id tamanio [.ok .segmentationFault] :=
    ⟨_, rfl, by decide, rfl, rfl⟩
  unfold solicitarSinCompactar at h
  split at h
  · cases h
    exact hfalla
  split at h
  · cases h
    exact hfalla
  dsimp only at h
  split at h
  · split at h
    · cases h
      exact hfalla
    · cases h
  · cases h
    exact ⟨_, rfl, by simp, rfl, rfl⟩

theorem respuestaDeSegmento_reasignar (m : KernelMemory) (pid : Pid) (id tamanio : UInt32) :
    RespuestaDeSegmento pid id tamanio (Memoria.reasignar m pid id tamanio).1 := by
  have hfalla : RespuestaDeSegmento pid id tamanio [.ok .segmentationFault] :=
    ⟨_, rfl, by decide, rfl, rfl⟩
  unfold Memoria.reasignar
  dsimp only
  split
  · exact hfalla
  split
  · exact hfalla
  · exact ⟨_, rfl, by simp, rfl, rfl⟩

/-! ## Steps -/

@[simp] theorem pedidosEnCola_append (cola otra : List EnvioNumerado) :
    pedidosEnCola (cola ++ otra) = pedidosEnCola cola ++ pedidosEnCola otra :=
  List.filterMap_append

theorem valida_aviso {t : Trama} (ht : t.esNotificacion = true) (espera : Option PedidoEnviado) :
    Valida espera ⟨t, none⟩ := ht

/-- A frame that was valid and answers nothing is a notification. -/
theorem Valida.notificacion {espera : Option PedidoEnviado} {t : TramaDe} (h : Valida espera t)
    (hresponde : t.responde = none) : t.trama.esNotificacion = true := by
  unfold Valida at h
  rw [hresponde] at h
  exact h

theorem Valida.respuesta {espera : Option PedidoEnviado} {t : TramaDe} (h : Valida espera t)
    (hno : t.trama.esNotificacion = false) :
    ∃ p, espera = some p ∧ t.responde = some p.numero ∧ p.pedido.Drena t.trama := by
  unfold Valida at h
  split at h
  · rw [h] at hno
    cases hno
  · rename_i n hn
    obtain ⟨_, p, hp, rfl, hdrena⟩ := h
    exact ⟨p, hp, hn, hdrena⟩

/-- Nobody waits: there is no answer in the socket and no compaction. -/
theorem Ordenado.sinRespuestas (h : c.Ordenado) (hespera : c.espera = none) :
    c.fase.numero? = none ∧ c.aScheduler.filterMap TramaDe.responde = [] := by
  constructor
  · cases hfase : c.fase.numero? with
    | none => rfl
    | some n =>
      obtain ⟨p, hp, _⟩ := h.compacta n hfase
      cases hespera.symm.trans hp
  · apply List.filterMap_eq_nil_iff.mpr
    intro t ht
    by_contra hno
    have hvalida := h.validas t ht
    unfold Valida at hvalida
    split at hvalida
    · exact hno ‹_›
    · obtain ⟨_, p, hp, _⟩ := hvalida
      cases hespera.symm.trans hp

theorem acuses_of_numero {fase : FaseAtencion} (h : fase.numero? = none) : fase.acuses = 0 := by
  cases fase with
  | compactar => cases h
  | _ => rfl

theorem Ordenado.pedir (h : c.Ordenado) (hespera : c.espera = none) (p : Pedido) :
    Ordenado { c with
      espera := some ⟨c.enviados, p⟩
      aMemoria := c.aMemoria ++ [.pedido ⟨c.enviados, p⟩]
      enviados := c.enviados + 1 } := by
  obtain ⟨hfase, hrespuestas⟩ := h.sinRespuestas hespera
  have hnumeros : c.numeros = (pedidosEnCola c.aMemoria).map PedidoEnviado.numero := by
    unfold numeros
    rw [hfase, hrespuestas]
    exact List.append_nil _
  have hnuevos : numeros { c with
      espera := some ⟨c.enviados, p⟩
      aMemoria := c.aMemoria ++ [.pedido ⟨c.enviados, p⟩]
      enviados := c.enviados + 1 } = c.numeros ++ [c.enviados] := by
    rw [hnumeros]
    unfold numeros
    rw [hfase, hrespuestas, pedidosEnCola_append, List.map_append]
    exact List.append_nil _
  refine ⟨h.pareado, h.enFase, ?_, ?_, ?_, ?_, ?_, ?_, ?_, ?_, ?_⟩
  · intro q hq
    obtain rfl := Option.some.inj hq
    rfl
  · rw [pedidosEnCola_append]
    refine List.pairwise_append.mpr ⟨h.cola, List.pairwise_singleton _ _, fun a ha b hb ↦ ?_⟩
    rw [List.mem_singleton.mp hb]
    apply h.enviados
    rw [hnumeros]
    exact List.mem_map_of_mem ha
  · rw [hnuevos]
    apply h.distintos.append (List.nodup_singleton _)
    intro n hn hn'
    have hmenor := h.enviados n hn
    rw [List.mem_singleton.mp hn'] at hmenor
    exact lt_irrefl _ hmenor
  · rw [hnuevos]
    intro n hn
    rcases List.mem_append.mp hn with hn | hn
    · exact Nat.lt_succ_of_lt (h.enviados n hn)
    · rw [List.mem_singleton.mp hn]
      exact Nat.lt_succ_self _
  · intro n hn
    cases hfase.symm.trans hn
  · intro n pid id tamanio hsolicita
    cases hespera.symm.trans (h.solicita n pid id tamanio hsolicita)
  · intro t ht
    have hresponde := List.filterMap_eq_nil_iff.mp hrespuestas t ht
    have haviso := (h.validas t ht).notificacion hresponde
    unfold Valida
    rw [hresponde]
    exact haviso
  · have hacuses := h.acuses
    unfold acusesEnCurso at hacuses ⊢
    rw [List.count_append]
    exact hacuses
  · intro huno
    cases (acuses_of_numero hfase).symm.trans huno

/-- A section of Kernel Memory that only notifies. -/
theorem Ordenado.seccion (h : c.Ordenado) (m : KernelMemory) (cola : List EnvioNumerado)
    (fase : FaseAtencion) (avisos : List TramaDe) (hcola : pedidosEnCola cola = pedidosEnCola c.aMemoria)
    (hfase : fase.numero? = c.fase.numero?)
    (hsolicita : ∀ n pid id tamanio,
      fase = .compactar n pid id tamanio ∨ fase = .reasignar n pid id tamanio →
        c.espera = some ⟨n, .solicitarSegmento pid id tamanio⟩)
    (havisos : ∀ t ∈ avisos, t.responde = none ∧ t.trama.esNotificacion = true)
    (hacuses : acusesEnCurso { c with
      memoria := m, aMemoria := cola, fase := fase, aScheduler := c.aScheduler ++ avisos } = fase.acuses)
    (hsolo : fase.acuses = 1 → pedidosEnCola c.aMemoria = []) :
    Ordenado { c with
      memoria := m, aMemoria := cola, fase := fase, aScheduler := c.aScheduler ++ avisos } := by
  have hnumeros : numeros { c with
      memoria := m, aMemoria := cola, fase := fase, aScheduler := c.aScheduler ++ avisos } = c.numeros := by
    have hnada : avisos.filterMap TramaDe.responde = [] :=
      List.filterMap_eq_nil_iff.mpr fun t ht ↦ (havisos t ht).1
    unfold numeros
    rw [hcola, hfase, List.filterMap_append, hnada, List.append_nil]
  refine ⟨h.pareado, h.enFase, h.ultimo, ?_, ?_, ?_, ?_, hsolicita, ?_, hacuses, ?_⟩
  · rw [hcola]
    exact h.cola
  · rw [hnumeros]
    exact h.distintos
  · rw [hnumeros]
    exact h.enviados
  · rw [hfase]
    exact h.compacta
  · intro t ht
    rcases List.mem_append.mp ht with ht | ht
    · exact h.validas t ht
    · obtain ⟨hresponde, hnotificacion⟩ := havisos t ht
      unfold Valida
      rw [hresponde]
      exact hnotificacion
  · rw [hcola]
    exact hsolo

theorem Ordenado.avisar (h : c.Ordenado) {t : Trama} (ht : t.esAviso = true) :
    (c.empujar [⟨t, none⟩]).Ordenado := by
  have hnotificacion := Trama.esNotificacion_of_esAviso ht
  refine h.seccion c.memoria _ _ _ rfl rfl h.solicita ?_ ?_ h.soloAcuse
  · intro u hu
    rw [List.mem_singleton.mp hu]
    exact ⟨rfl, hnotificacion⟩
  · rw [← h.acuses]
    unfold acusesEnCurso
    rw [List.countP_append, List.countP_singleton, if_neg]
    · rfl
    · intro hinicio
      have hinicio : t = .mensaje (.ok .iniciarCompactacion) := of_decide_eq_true hinicio
      rw [hinicio] at ht
      cases ht

theorem Ordenado.notificar (h : c.Ordenado) (hfase : c.fase = .notificar) :
    ({ c with fase := .libre }.empujar [⟨.mensaje (.ok .memoriaLiberada), none⟩]).Ordenado := by
  refine h.seccion c.memoria _ _ _ rfl ?_ ?_ ?_ ?_ ?_
  · rw [hfase]
    rfl
  · rintro n pid id tamanio (hno | hno) <;> cases hno
  · intro t ht
    rw [List.mem_singleton.mp ht]
    exact ⟨rfl, rfl⟩
  · have hacuses := h.acuses
    rw [hfase] at hacuses
    unfold acusesEnCurso at hacuses ⊢
    rw [List.countP_append]
    exact hacuses
  · intro hno
    cases hno

theorem Ordenado.otrosHilos (h : c.Ordenado) (m : KernelMemory) : Ordenado { c with memoria := m } := by
  have hseccion := h.seccion m c.aMemoria c.fase [] rfl rfl h.solicita
    nofun (by rw [List.append_nil]; exact h.acuses) h.soloAcuse
  rw [List.append_nil] at hseccion
  exact hseccion

/-- `compactar_y_reasignar` after the acknowledgement. -/
theorem Ordenado.compactar (h : c.Ordenado) (m : KernelMemory) {n : ℕ} {pid : Pid} {id tamanio : UInt32}
    {resto : List EnvioNumerado} (hfase : c.fase = .compactar n pid id tamanio)
    (hcola : c.aMemoria = .okCompactacion :: resto) (bsod : ℕ) :
    Ordenado { c with
      memoria := m
      aMemoria := resto
      aScheduler := c.aScheduler ++ (List.replicate bsod .memoriaCorruptaBsod).map (⟨·, none⟩) ++
        [⟨.mensaje (.ok .finalizarCompactacion), none⟩]
      fase := .reasignar n pid id tamanio } := by
  rw [List.append_assoc]
  refine h.seccion m _ _ _ ?_ ?_ ?_ ?_ ?_ nofun
  · rw [hcola]
    rfl
  · rw [hfase]
    rfl
  · rintro n' pid' id' tamanio' (hno | hsi)
    · cases hno
    · cases hsi
      exact h.solicita n pid id tamanio (.inl hfase)
  · intro t ht
    rcases List.mem_append.mp ht with ht | ht
    · rw [List.map_replicate] at ht
      rw [List.eq_of_mem_replicate ht]
      exact ⟨rfl, rfl⟩
    · rw [List.mem_singleton.mp ht]
      exact ⟨rfl, rfl⟩
  · have hacuses := h.acuses
    rw [hfase] at hacuses
    unfold acusesEnCurso at hacuses ⊢
    rw [hcola, List.count_cons_self] at hacuses
    rw [List.map_replicate, List.countP_append, List.countP_append, List.countP_replicate]
    have hnada : ¬ (decide ((⟨.memoriaCorruptaBsod, none⟩ : TramaDe).trama =
        .mensaje (.ok .iniciarCompactacion))) = true := by decide
    rw [if_neg hnada]
    show resto.count .okCompactacion + (_ + (0 + 0)) = 0
    change resto.count .okCompactacion + 1 + _ = 1 at hacuses
    omega

theorem mem_tramasDe {numero : ℕ} {antes despues : KernelMemory} {mensajes : List Mensaje} {t : TramaDe}
    (h : t ∈ tramasDe numero antes despues mensajes) : t = ⟨.memoriaCorruptaBsod, none⟩ ∨
      ∃ mensaje ∈ respuestasDe mensajes, t = ⟨.mensaje mensaje, some numero⟩ := by
  rcases List.mem_append.mp h with h | h
  · obtain ⟨u, hu, rfl⟩ := List.mem_map.mp h
    rw [List.eq_of_mem_replicate hu]
    exact .inl rfl
  · obtain ⟨mensaje, hmensaje, rfl⟩ := List.mem_map.mp h
    exact .inr ⟨mensaje, hmensaje, rfl⟩

theorem responde_tramasDe (numero : ℕ) (antes despues : KernelMemory) (mensajes : List Mensaje) :
    (tramasDe numero antes despues mensajes).filterMap TramaDe.responde =
      List.replicate (respuestasDe mensajes).length numero := by
  have hbsod : ((CanalMemoria.avisosBsod antes despues).map fun t ↦ (⟨t, none⟩ : TramaDe)).filterMap
      TramaDe.responde = [] := by
    apply List.filterMap_eq_nil_iff.mpr
    intro t ht
    obtain ⟨u, _, rfl⟩ := List.mem_map.mp ht
    rfl
  unfold tramasDe
  rw [List.filterMap_append, hbsod, List.nil_append, List.filterMap_map]
  show (respuestasDe mensajes).filterMap (fun _ ↦ some numero) = _
  induction respuestasDe mensajes with
  | nil => rfl
  | cons mensaje resto ih =>
    show numero :: resto.filterMap (fun _ ↦ some numero) = numero :: List.replicate resto.length numero
    rw [ih]

theorem responder_fase (c : CanalNumerado) (numero : ℕ) (m : KernelMemory) (mensajes : List Mensaje) :
    (c.responder numero m mensajes).fase = .notificar ∨ (c.responder numero m mensajes).fase = .libre := by
  unfold responder
  dsimp only
  split
  · exact .inl rfl
  · exact .inr rfl

/-- The thread of Kernel Memory is done with request `p`, which it took from the socket or compacted for:
it answers once at most, and only while the requester waits. -/
theorem Ordenado.responder (h : c.Ordenado) (m : KernelMemory) {cola : List EnvioNumerado}
    {mensajes : List Mensaje} (hp : c.espera = some p ∨ respuestasDe mensajes = [])
    (hcola : (pedidosEnCola cola).Sublist (pedidosEnCola c.aMemoria))
    (hacuses : cola.count .okCompactacion = c.aMemoria.count .okCompactacion)
    (hfase : c.fase.acuses = 0)
    (hnumeros : c.numeros.Perm (p.numero :: ((pedidosEnCola cola).map PedidoEnviado.numero ++
      c.aScheduler.filterMap TramaDe.responde)))
    (huna : (respuestasDe mensajes).length ≤ 1)
    (hformato : ∀ mensaje ∈ respuestasDe mensajes, EsRespuesta p.pedido mensaje) :
    ({ c with aMemoria := cola }.responder p.numero m mensajes).Ordenado := by
  have hfase' := responder_fase { c with aMemoria := cola } p.numero m mensajes
  have hnumero' : ({ c with aMemoria := cola }.responder p.numero m mensajes).fase.numero? = none := by
    rcases hfase' with hfase' | hfase' <;> rw [hfase'] <;> rfl
  have hsub : (numeros ({ c with aMemoria := cola }.responder p.numero m mensajes)).Subperm c.numeros := by
    have hcopias : (List.replicate (respuestasDe mensajes).length p.numero).Subperm [p.numero] :=
      (List.replicate_sublist_replicate p.numero |>.mpr huna).subperm
    have higuales : numeros ({ c with aMemoria := cola }.responder p.numero m mensajes) =
        (pedidosEnCola cola).map PedidoEnviado.numero ++ c.aScheduler.filterMap TramaDe.responde ++
          List.replicate (respuestasDe mensajes).length p.numero := by
      unfold numeros
      rw [hnumero', ← responde_tramasDe p.numero c.memoria m mensajes, List.append_assoc,
        ← List.filterMap_append]
      rfl
    rw [higuales]
    apply List.Subperm.trans ((List.Subperm.refl _).append hcopias)
    exact (List.perm_append_singleton _ _ |>.trans hnumeros.symm).subperm
  obtain ⟨ordenados, hperm, hsublista⟩ := hsub
  refine ⟨h.pareado, h.enFase, h.ultimo, h.cola.sublist hcola, ?_, ?_, ?_, ?_, ?_, ?_, ?_⟩
  · exact hperm.nodup_iff.mp (h.distintos.sublist hsublista)
  · intro n hn
    exact h.enviados n (hsublista.subset (hperm.mem_iff.mpr hn))
  · rw [hnumero']
    nofun
  · intro n pid id tamanio hno
    rcases hfase' with hfase' | hfase' <;> rw [hfase'] at hno <;> rcases hno with hno | hno <;> cases hno
  · intro t ht
    rcases List.mem_append.mp ht with ht | ht
    · exact h.validas t ht
    · rcases mem_tramasDe ht with rfl | ⟨mensaje, hmensaje, rfl⟩
      · exact valida_aviso rfl _
      · obtain ⟨hdrena, hno⟩ := hformato mensaje hmensaje
        have hespera := hp.resolve_right (List.ne_nil_of_mem hmensaje)
        exact ⟨hno, p, hespera, rfl, hdrena⟩
  · have hninguno : (tramasDe p.numero c.memoria m mensajes).countP
        (fun t ↦ t.trama = .mensaje (.ok .iniciarCompactacion)) = 0 := by
      apply List.countP_eq_zero.mpr
      intro t ht hinicio
      have hinicio : t.trama = .mensaje (.ok .iniciarCompactacion) := of_decide_eq_true hinicio
      rcases mem_tramasDe ht with rfl | ⟨mensaje, hmensaje, rfl⟩
      · cases hinicio
      · have hno := (hformato mensaje hmensaje).2
        rw [show Trama.mensaje mensaje = _ from hinicio] at hno
        cases hno
    have hcero : ({ c with aMemoria := cola }.responder p.numero m mensajes).fase.acuses = 0 :=
      acuses_of_numero hnumero'
    have hantes := h.acuses
    rw [hcero]
    unfold acusesEnCurso at hantes ⊢
    show cola.count .okCompactacion + (c.aScheduler ++ tramasDe p.numero c.memoria m mensajes).countP _ = 0
    rw [List.countP_append, hninguno, hacuses, Nat.add_zero, hantes, hfase]
  · intro huno
    cases (acuses_of_numero hnumero').symm.trans huno

/-- The first critical section of a request that compacts. -/
theorem Ordenado.empezarCompactacion (h : c.Ordenado) (m : KernelMemory) {n : ℕ} {pid : Pid}
    {id tamanio : UInt32} {resto : List EnvioNumerado} (hfase : c.fase = .libre)
    (hcola : c.aMemoria = .pedido ⟨n, .solicitarSegmento pid id tamanio⟩ :: resto)
    (hespera : c.espera = some ⟨n, .solicitarSegmento pid id tamanio⟩) :
    Ordenado { c with
      memoria := m
      aMemoria := resto
      aScheduler := c.aScheduler ++ [⟨.mensaje (.ok .iniciarCompactacion), none⟩]
      fase := .compactar n pid id tamanio } := by
  have hultimo := h.ultimo _ hespera
  have hcola' : pedidosEnCola c.aMemoria =
      ⟨n, .solicitarSegmento pid id tamanio⟩ :: pedidosEnCola resto := by
    rw [hcola]
    rfl
  have hnumeros : c.numeros = n :: ((pedidosEnCola resto).map PedidoEnviado.numero ++
      c.aScheduler.filterMap TramaDe.responde) := by
    unfold numeros
    rw [hcola', hfase]
    rfl
  -- nothing was sent after the request of the thread that waits
  have hresto : pedidosEnCola resto = [] := by
    apply List.eq_nil_iff_forall_not_mem.mpr
    intro q hq
    have horden := h.cola
    rw [hcola', List.pairwise_cons] at horden
    have hmayor : n < q.numero := horden.1 q hq
    have hmenor : q.numero < c.enviados := by
      apply h.enviados
      rw [hnumeros]
      exact List.mem_cons_of_mem _ (List.mem_append_left _ (List.mem_map_of_mem hq))
    change n + 1 = c.enviados at hultimo
    omega
  have hnuevos : numeros { c with
      memoria := m
      aMemoria := resto
      aScheduler := c.aScheduler ++ [⟨.mensaje (.ok .iniciarCompactacion), none⟩]
      fase := .compactar n pid id tamanio } = c.numeros := by
    rw [hnumeros]
    unfold numeros
    rw [hresto, List.filterMap_append]
    exact congrArg (n :: ·) (List.append_nil _)
  refine ⟨h.pareado, h.enFase, h.ultimo, ?_, ?_, ?_, ?_, ?_, ?_, ?_, fun _ ↦ hresto⟩
  · rw [hresto]
    exact List.Pairwise.nil
  · rw [hnuevos]
    exact h.distintos
  · rw [hnuevos]
    exact h.enviados
  · intro n' hn'
    cases hn'
    exact ⟨_, hespera, rfl⟩
  · rintro n' pid' id' tamanio' (hsi | hno)
    · cases hsi
      exact hespera
    · cases hno
  · intro t ht
    rcases List.mem_append.mp ht with ht | ht
    · exact h.validas t ht
    · rw [List.mem_singleton.mp ht]
      exact valida_aviso rfl _
  · have hacuses := h.acuses
    rw [hfase] at hacuses
    unfold acusesEnCurso at hacuses ⊢
    rw [hcola, List.count_cons_of_ne (by simp)] at hacuses
    rw [List.countP_append]
    change resto.count .okCompactacion + (c.aScheduler.countP _ + 1) = 1
    change resto.count .okCompactacion + c.aScheduler.countP _ = 0 at hacuses
    omega

theorem Ordenado.servir (h : c.Ordenado) {resto : List EnvioNumerado} (hfase : c.fase = .libre)
    (hcola : c.aMemoria = .pedido p :: resto)
    (hsin : c.espera = some p ∨ SinRespuesta qsort c.memoria p.pedido) :
    ({ c with aMemoria := resto }.atenderPedido qsort p).Ordenado := by
  have hresponder : ∀ (m : KernelMemory) (mensajes : List Mensaje),
      (c.espera = some p ∨ respuestasDe mensajes = []) → (respuestasDe mensajes).length ≤ 1 →
      (∀ mensaje ∈ respuestasDe mensajes, EsRespuesta p.pedido mensaje) →
      ({ c with aMemoria := resto }.responder p.numero m mensajes).Ordenado := by
    intro m mensajes hp huna hformato
    refine h.responder m hp ?_ ?_ ?_ ?_ huna hformato
    · rw [hcola]
      exact List.sublist_cons_self _ _
    · rw [hcola, List.count_cons_of_ne (by simp)]
    · rw [hfase]
      rfl
    · unfold numeros
      rw [hcola, hfase]
      exact .refl _
  have hotro (hno : ∀ pid id tamanio, p.pedido ≠ .solicitarSegmento pid id tamanio)
      (hp : c.espera = some p ∨ respuestasDe (atender qsort c.memoria p.pedido.operacion).1 = []) :
      ({ c with aMemoria := resto }.responder p.numero (atender qsort c.memoria p.pedido.operacion).2
        (atender qsort c.memoria p.pedido.operacion).1).Ordenado :=
    hresponder _ _ hp (CanalMemoria.atender_unaRespuesta qsort c.memoria hno)
      fun _ ↦ esRespuesta_atender qsort c.memoria p.pedido hno
  obtain ⟨n, pedido⟩ := p
  cases pedido with
  | solicitarSegmento pid id tamanio =>
    have hespera := hsin.resolve_right fun hno ↦ hno
    rcases hsolicita : solicitarSinCompactar c.memoria pid id tamanio with ⟨_ | respuesta, m⟩
    · have hcompacta := h.empezarCompactacion m hfase hcola hespera
      unfold atenderPedido
      simp only [hsolicita]
      exact hcompacta
    · obtain ⟨mensaje, rfl, hliberada, hformato⟩ := respuestaDeSegmento_sinCompactar hsolicita
      have huna : respuestasDe [mensaje] = [mensaje] := List.filter_cons_of_pos (decide_eq_true hliberada)
      unfold atenderPedido
      simp only [hsolicita]
      refine hresponder m [mensaje] (.inl hespera) ?_ ?_
      · rw [huna]
        exact le_rfl
      · intro otro hotro
        rw [huna] at hotro
        rw [List.mem_singleton.mp hotro]
        exact hformato
  | _ => exact hotro nofun hsin

theorem Ordenado.reasignar (h : c.Ordenado) {n : ℕ} {pid : Pid} {id tamanio : UInt32}
    (hfase : c.fase = .reasignar n pid id tamanio) :
    (c.responder n (Memoria.reasignar c.memoria pid id tamanio).2
      (Memoria.reasignar c.memoria pid id tamanio).1).Ordenado := by
  have hespera := h.solicita n pid id tamanio (.inr hfase)
  obtain ⟨mensaje, hmensajes, hliberada, hformato⟩ := respuestaDeSegmento_reasignar c.memoria pid id tamanio
  have huna : respuestasDe [mensaje] = [mensaje] := List.filter_cons_of_pos (decide_eq_true hliberada)
  rw [hmensajes]
  refine h.responder _ (.inl hespera) (List.Sublist.refl _) rfl ?_ ?_ ?_ ?_
  · rw [hfase]
    rfl
  · unfold numeros
    rw [hfase]
    exact List.perm_middle
  · rw [huna]
    exact le_rfl
  · intro otro hotro
    rw [huna] at hotro
    rw [List.mem_singleton.mp hotro]
    exact hformato

/-- The requester gives up: nothing in the socket answers it and nothing will. -/
theorem Ordenado.vencer (h : c.Ordenado) (hespera : c.espera = some p) (hno : ¬ c.Contestando p.numero) :
    Ordenado { c with espera := none } := by
  have hnumero : c.fase.numero? = none := by
    cases hfase : c.fase.numero? with
    | none => rfl
    | some n =>
      obtain ⟨q, hq, rfl⟩ := h.compacta n hfase
      obtain rfl := Option.some.inj (hespera.symm.trans hq)
      exact absurd (.inl hfase) hno
  have havisos : ∀ t ∈ c.aScheduler, t.responde = none ∧ t.trama.esNotificacion = true := by
    intro t ht
    have hvalida := h.validas t ht
    cases hresponde : t.responde with
    | none => exact ⟨rfl, hvalida.notificacion hresponde⟩
    | some n =>
      unfold Valida at hvalida
      rw [hresponde] at hvalida
      obtain ⟨_, q, hq, rfl, _⟩ := hvalida
      obtain rfl := Option.some.inj (hespera.symm.trans hq)
      exact absurd (.inr ⟨t, ht, hresponde⟩) hno
  refine ⟨h.pareado, h.enFase, nofun, h.cola, h.distintos, h.enviados, ?_, ?_, ?_, h.acuses, h.soloAcuse⟩
  · intro n hn
    cases hnumero.symm.trans hn
  · rintro n pid id tamanio (hfase | hfase) <;> rw [hfase] at hnumero <;> cases hnumero
  · intro t ht
    obtain ⟨hresponde, hnotificacion⟩ := havisos t ht
    unfold Valida
    rw [hresponde]
    exact hnotificacion

/-- The requester takes the one answer in the socket. -/
theorem Ordenado.interpretar (h : c.Ordenado) (hespera : c.espera = some p) {t : TramaDe}
    {resto : List TramaDe} (htramas : c.aScheduler = t :: resto)
    (hno : t.trama.esNotificacion = false) :
    ({ c with aScheduler := resto }.interpretar p t).Ordenado := by
  obtain ⟨q, hq, hresponde, hdrena⟩ :=
    (h.validas t (htramas ▸ List.mem_cons_self)).respuesta hno
  obtain rfl := Option.some.inj (hespera.symm.trans hq)
  have hnumeros : c.numeros = (pedidosEnCola c.aMemoria).map PedidoEnviado.numero ++
      (c.fase.numero?.toList ++ p.numero :: resto.filterMap TramaDe.responde) := by
    unfold numeros
    rw [htramas, List.filterMap_cons_some hresponde]
  have hdistintos := h.distintos
  rw [hnumeros, ← List.append_assoc, List.nodup_middle, List.nodup_cons, List.append_assoc] at hdistintos
  have hfase : c.fase.numero? = none := by
    cases hfase : c.fase.numero? with
    | none => rfl
    | some n =>
      obtain ⟨q, hq, rfl⟩ := h.compacta n hfase
      obtain rfl := Option.some.inj (hespera.symm.trans hq)
      refine absurd ?_ hdistintos.1
      rw [hfase]
      exact List.mem_append_right _ (List.mem_append_left _ (List.mem_singleton_self _))
  refine ⟨?_, ?_, nofun, h.cola, hdistintos.2, ?_, ?_, ?_, ?_, ?_, ?_⟩
  · intro i hi
    rcases List.mem_append.mp hi with hi | hi
    · exact h.pareado i hi
    · rw [List.mem_singleton.mp hi]
      exact hresponde
  · exact decide_eq_false (not_not_intro hdrena)
  · intro n hn
    apply h.enviados
    rw [hnumeros]
    exact (((List.sublist_cons_self _ _).append_left _).append_left _).subset hn
  · intro n hn
    cases hfase.symm.trans hn
  · rintro n pid id tamanio (hno | hno) <;> rw [show c.fase = _ from hno] at hfase <;> cases hfase
  · intro u hu
    have hvalida := h.validas u (htramas ▸ List.mem_cons_of_mem _ hu)
    cases huno : u.responde with
    | none =>
      have haviso := hvalida.notificacion huno
      unfold Valida
      rw [huno]
      exact haviso
    | some n =>
      unfold Valida at hvalida
      rw [huno] at hvalida
      obtain ⟨_, q, hq, rfl, _⟩ := hvalida
      obtain rfl := Option.some.inj (hespera.symm.trans hq)
      refine absurd ?_ hdistintos.1
      apply List.mem_append_right _ (List.mem_append_right _ _)
      exact List.mem_filterMap.mpr ⟨u, hu, huno⟩
  · have hacuses := h.acuses
    unfold acusesEnCurso at hacuses ⊢
    rw [htramas, List.countP_cons_of_neg] at hacuses
    · exact hacuses
    · intro hinicio
      rw [show t.trama = _ from of_decide_eq_true hinicio] at hno
      cases hno
  · intro huno
    cases (acuses_of_numero hfase).symm.trans huno

/-- A notification was read. -/
theorem Ordenado.quitar (h : c.Ordenado) {t : TramaDe} {resto : List TramaDe}
    (htramas : c.aScheduler = t :: resto) (hresponde : t.responde = none) (conTimeout detenido : Bool)
    {cola : List EnvioNumerado} (hcola : pedidosEnCola cola = pedidosEnCola c.aMemoria)
    (hacuses : acusesEnCurso { c with aScheduler := resto, aMemoria := cola } = c.acusesEnCurso) :
    Ordenado { c with
      aScheduler := resto, aMemoria := cola, conTimeout := conTimeout, detenido := detenido } := by
  have hnumeros : numeros { c with
      aScheduler := resto, aMemoria := cola, conTimeout := conTimeout, detenido := detenido } =
        c.numeros := by
    unfold numeros
    rw [htramas, List.filterMap_cons_none hresponde, hcola]
  refine ⟨h.pareado, h.enFase, h.ultimo, ?_, ?_, ?_, h.compacta, h.solicita, ?_, hacuses.trans h.acuses, ?_⟩
  · rw [hcola]
    exact h.cola
  · rw [hnumeros]
    exact h.distintos
  · rw [hnumeros]
    exact h.enviados
  · intro u hu
    exact h.validas u (htramas ▸ List.mem_cons_of_mem _ hu)
  · rw [hcola]
    exact h.soloAcuse

theorem Ordenado.manejar (h : c.Ordenado) {t : TramaDe} {resto : List TramaDe}
    (htramas : c.aScheduler = t :: resto) (hsi : t.trama.esNotificacion = true) :
    ({ c with aScheduler := resto }.manejar t.trama).Ordenado := by
  have hresponde : t.responde = none := by
    cases hresponde : t.responde with
    | none => rfl
    | some n =>
      have hvalida := h.validas t (htramas ▸ List.mem_cons_self)
      unfold Valida at hvalida
      rw [hresponde] at hvalida
      rw [hvalida.1] at hsi
      cases hsi
  have hsinInicio (hno : t.trama ≠ .mensaje (.ok .iniciarCompactacion)) :
      acusesEnCurso { c with aScheduler := resto } = c.acusesEnCurso := by
    unfold acusesEnCurso
    rw [htramas, List.countP_cons_of_neg]
    intro hinicio
    exact hno (of_decide_eq_true hinicio)
  unfold CanalNumerado.manejar
  split
  · rename_i htrama
    exact h.quitar htramas hresponde c.conTimeout true rfl (hsinInicio (by rw [htrama]; nofun))
  · rename_i htrama
    refine h.quitar htramas hresponde false c.detenido ?_ ?_
    · rw [pedidosEnCola_append]
      exact List.append_nil _
    · unfold acusesEnCurso
      rw [htramas, List.count_append, List.countP_cons, if_pos (decide_eq_true htrama)]
      change c.aMemoria.count .okCompactacion + 1 + resto.countP _ = _
      omega
  · rename_i htrama
    exact h.quitar htramas hresponde true c.detenido rfl (hsinInicio (by rw [htrama]; nofun))
  · rename_i hno _
    exact h.quitar htramas hresponde c.conTimeout c.detenido rfl (hsinInicio hno)

/-! ## Runs -/

theorem Ordenado.paso (h : c.Ordenado) (hsin : c.SinTardias qsort e)
    (hpaso : CanalNumerado.paso qsort c e = some c') : c'.Ordenado := by
  unfold CanalNumerado.paso at hpaso
  split at hpaso
  · cases hpaso
  cases e with
  | pedir p =>
    obtain ⟨hespera, hc'⟩ := Option.ite_none_right_eq_some.mp hpaso
    obtain rfl := Option.some.inj hc'
    exact h.pedir hespera p
  | leer =>
    simp only at hpaso
    split at hpaso
    · rename_i p t resto hespera htramas
      obtain rfl := Option.some.inj hpaso
      cases hnotificacion : t.trama.esNotificacion with
      | true => exact h.manejar htramas hnotificacion
      | false => exact h.interpretar hespera htramas hnotificacion
    · cases hpaso
  | vencer =>
    obtain ⟨⟨hespera, _⟩, hc'⟩ := Option.ite_none_right_eq_some.mp hpaso
    obtain rfl := Option.some.inj hc'
    obtain ⟨p, hp⟩ := Option.ne_none_iff_exists'.mp hespera
    exact h.vencer hp (hsin p hp)
  | servir =>
    simp only at hpaso
    split at hpaso
    · rename_i p resto hfase hcola
      obtain rfl := Option.some.inj hpaso
      refine h.servir hfase hcola (hsin p ?_)
      rw [hcola]
      rfl
    · -- an acknowledgement comes only while Kernel Memory waits for it
      rename_i resto hfase hcola
      have hacuses := h.acuses
      unfold acusesEnCurso at hacuses
      rw [hfase, hcola, List.count_cons_self] at hacuses
      cases (Nat.add_eq_zero_iff.mp hacuses).1
    · cases hpaso
  | compactar =>
    simp only at hpaso
    split at hpaso
    · rename_i n pid id tamanio resto hfase hcola
      obtain rfl := Option.some.inj hpaso
      exact h.compactar _ hfase hcola _
    · -- the requester still waits, so that no other request was sent
      rename_i n pid id tamanio q resto hfase hcola
      have hvacia := h.soloAcuse (by rw [hfase]; rfl)
      rw [hcola] at hvacia
      cases hvacia
    · cases hpaso
  | reasignar =>
    simp only at hpaso
    split at hpaso
    · obtain rfl := Option.some.inj hpaso
      exact h.reasignar ‹_›
    · cases hpaso
  | notificar =>
    obtain ⟨hfase, hc'⟩ := Option.ite_none_right_eq_some.mp hpaso
    obtain rfl := Option.some.inj hc'
    exact h.notificar hfase
  | avisar t =>
    obtain ⟨ht, hc'⟩ := Option.ite_none_right_eq_some.mp hpaso
    obtain rfl := Option.some.inj hc'
    exact h.avisar ht
  | otrosHilos m =>
    obtain rfl := Option.some.inj hpaso
    exact h.otrosHilos m

theorem Arranque.ordenado (h : c.Arranque) : c.Ordenado := by
  obtain ⟨hfase, hcola, htramas, hespera, hinterpretadas, henFase⟩ := h
  have hnumeros : c.numeros = [] := by
    unfold numeros
    rw [hfase, hcola, htramas]
    rfl
  refine ⟨?_, henFase, ?_, ?_, ?_, ?_, ?_, ?_, ?_, ?_, ?_⟩
  · intro i hi
    rw [hinterpretadas] at hi
    cases hi
  · intro p hp
    cases hespera.symm.trans hp
  · rw [hcola]
    exact List.Pairwise.nil
  · rw [hnumeros]
    exact List.nodup_nil
  · rw [hnumeros]
    nofun
  · rw [hfase]
    nofun
  · rw [hfase]
    rintro n pid id tamanio (hno | hno) <;> cases hno
  · rw [htramas]
    nofun
  · unfold acusesEnCurso
    rw [hfase, hcola, htramas]
    rfl
  · rw [hfase]
    nofun

/-- Where no request is answered after its requester has given up, every requester takes the answer to its
own request, and both sides stay at the beginning of a frame. -/
theorem pareado_sinTardias (qsort : Qsort) (c : CanalNumerado)
    (h : Reachable (CanalNumerado.paso qsort) Arranque (SinTardias qsort) c) :
    c.Pareado ∧ c.desfasado = false := by
  have hordenado : c.Ordenado := h.invariant (fun _ ↦ Arranque.ordenado) fun _ _ _ hordenado hsin hpaso ↦
    hordenado.paso hsin hpaso
  exact ⟨hordenado.pareado, hordenado.enFase⟩

/-- Three processes; no stick serves the segment of process 3. -/
def canalDeTres : CanalNumerado where
  memoria := ⟨⟨100, none⟩, [⟨1, .cero, [], []⟩, ⟨2, .cero, [], []⟩, ⟨3, .cero, [⟨0, 0, 4, 0⟩], []⟩], [],
    ⟨[], [], 0⟩, registrarSwap ⟨3, 2, 16, fun _ ↦ 0, [], configurado_ocho_bloques⟩⟩
  fase := .libre
  aMemoria := []
  aScheduler := []
  espera := none
  conTimeout := true
  enviados := 0
  interpretadas := []
  desfasado := false
  detenido := false

theorem arranque_canalDeTres : canalDeTres.Arranque := ⟨rfl, rfl, rfl, rfl, rfl, rfl⟩

/-- A read that is never answered ends by the timeout, and the next request gets its own answer. -/
theorem pareado_trasTimeout : ∃ c, Reachable (CanalNumerado.paso .insercion) Arranque (SinTardias .insercion) c ∧
    c.interpretadas = [⟨⟨1, .suspenderProceso 1⟩, ⟨.mensaje (.ok .suspenderProceso), some 1⟩⟩] ∧
      c.Pareado ∧ c.desfasado = false := by
  have hinicio : Reachable (CanalNumerado.paso .insercion) Arranque (SinTardias .insercion) canalDeTres :=
    .start arranque_canalDeTres
  obtain ⟨c, hc, hinterpretadas⟩ := hinicio.exists_of_runAllowed
    [.pedir (.lecturaMemoria 3 0 2), .servir, .vencer, .pedir (.suspenderProceso 1), .servir, .leer]
    (fun c ↦ c.interpretadas = [⟨⟨1, .suspenderProceso 1⟩, ⟨.mensaje (.ok .suspenderProceso), some 1⟩⟩])
    (by decide)
  exact ⟨c, hc, hinterpretadas, pareado_sinTardias .insercion c hc⟩

/-- The dump of process 2 takes longer than the timeout: its answer is taken for that of process 1, whose
dump has not begun. -/
theorem respuesta_tardia : ¬ ∀ (qsort : Qsort) (c : CanalNumerado),
    Reachable (CanalNumerado.paso qsort) Arranque (fun _ _ ↦ True) c → c.Pareado := by
  intro hclaim
  have hinicio : Reachable (CanalNumerado.paso .insercion) Arranque (fun _ _ ↦ True) canalDeTres :=
    .start arranque_canalDeTres
  obtain ⟨c, hc, hinterpretadas⟩ := hinicio.exists_of_runAllowed
    [.pedir (.suspenderProceso 2), .vencer, .pedir (.suspenderProceso 1), .servir, .leer]
    (fun c ↦ ⟨⟨1, .suspenderProceso 1⟩, ⟨.mensaje (.ok .suspenderProceso), some 0⟩⟩ ∈ c.interpretadas)
    (by decide)
  cases hclaim .insercion c hc _ hinterpretadas

end CanalNumerado

end PlugAndPlay.Planificador
