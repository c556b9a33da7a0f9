import Mathlib.Data.List.Infix
import PlugAndPlay.Library.Transitions
import PlugAndPlay.Red.Mensajes

/-!
# The socket of the Kernel Scheduler

The threads of Kernel Memory that send to the Kernel Scheduler write on one socket, and no lock covers a
frame: `send_all` calls `send` until the whole buffer is taken, and between two calls another thread may
send. The stream is whole frames as long as a thread sends only while no other frame is half sent.
-/

open PlugAndPlay.Library PlugAndPlay.Library.StreamReader PlugAndPlay.Memoria

namespace PlugAndPlay.Red

/-- The thread that accepts the scheduler, the one that attends its requests, and for each stick the one
that registers it and the one that watches it. -/
inductive Emisor
  | conexion
  | receptor
  | registro (stick : ℕ)
  | monitor (stick : ℕ)
deriving Repr, DecidableEq

/-- `send_all` in progress: the buffer, and how much of it `send` took. -/
structure SendAll where
  buffer : List UInt8
  sent : ℕ
deriving Repr, DecidableEq

/-- What has arrived, what each thread is sending, and the buffers that were sent to the end. -/
structure SocketScheduler where
  abierto : Bool
  stream : List UInt8
  enCurso : Emisor → Option SendAll
  completos : List (List UInt8)

/-- A thread sends a packet, `send` takes some bytes of its buffer, or fails; the connection breaks. The
reports of `memory_io` are packets of the thread that attends the requests. -/
inductive EventoSocket
  | saludar
  | responder (paquete : Paquete)
  | avisarNueva (stick : ℕ) (tamanio baseFisica : UInt32) (ip puerto : Cadena)
  | avisarCorrupta (stick : ℕ)
  | send (emisor : Emisor) (rc : ℕ)
  | fallar (emisor : Emisor)
  | cortar

namespace SocketScheduler

def asignar (s : SocketScheduler) (emisor : Emisor) (curso : Option SendAll) : SocketScheduler :=
  { s with enCurso := Function.update s.enCurso emisor curso }

/-- `enviar_paquete` up to the loop of `send_all`. -/
def empezar (s : SocketScheduler) (emisor : Emisor) (paquete : Paquete) : Option SocketScheduler :=
  match s.enCurso emisor, enviarPaquete paquete with
  | none, some buffer => some (s.asignar emisor (some ⟨buffer, 0⟩))
  | _, _ => none

/-- One turn of the loop of `send_all` in which `send` takes `rc` bytes. -/
def send (s : SocketScheduler) (emisor : Emisor) (rc : ℕ) : Option SocketScheduler :=
  match s.enCurso emisor with
  | none => none
  | some curso =>
    if s.abierto ∧ 0 < rc ∧ rc ≤ curso.buffer.length - curso.sent then
      let s₁ := { s with stream := s.stream ++ (curso.buffer.drop curso.sent).take rc }
      if curso.sent + rc < curso.buffer.length then
        some (s₁.asignar emisor (some ⟨curso.buffer, curso.sent + rc⟩))
      else some { s₁.asignar emisor none with completos := s.completos ++ [curso.buffer] }
    else none

/-- `send` returns `-1` once the connection is broken, and the thread gives its frame up. -/
def fallar (s : SocketScheduler) (emisor : Emisor) : Option SocketScheduler :=
  if s.abierto then none else some (s.asignar emisor none)

def paso (s : SocketScheduler) : EventoSocket → Option SocketScheduler
  | .saludar => s.empezar .conexion enviarHandshakeSchedulerAMemory
  | .responder paquete => s.empezar .receptor paquete
  | .avisarNueva stick tamanio baseFisica ip puerto =>
    s.empezar (.registro stick) (enviarNuevaMemoriaDisponible tamanio baseFisica ip puerto)
  | .avisarCorrupta stick => s.empezar (.monitor stick) enviarMemoriaCorrupta
  | .send emisor rc => s.send emisor rc
  | .fallar emisor => s.fallar emisor
  | .cortar => some { s with abierto := false }

def inicial : SocketScheduler := ⟨true, [], fun _ ↦ none, []⟩

/-- What has arrived of the frame that a thread is sending. -/
def parte (s : SocketScheduler) (emisor : Emisor) : List UInt8 :=
  match s.enCurso emisor with
  | none => []
  | some curso => curso.buffer.take curso.sent

/-- `send` takes bytes of a thread only while no frame of another thread is half sent. -/
def SinMezcla (s : SocketScheduler) : EventoSocket → Prop
  | .send emisor _ => ∀ otro, otro ≠ emisor → s.parte otro = []
  | _ => True

end SocketScheduler

/-- What some packet is on the wire. -/
def EsTrama (bytes : List UInt8) : Prop := ∃ paquete, enviarPaquete paquete = some bytes

namespace SocketScheduler

/-- The stream is whole frames, up to the frame that is under way; with no frame under way it is what the
threads sent, each frame once. -/
def Enteras (s : SocketScheduler) : Prop :=
  (∃ tramas : List (List UInt8), (∀ trama ∈ tramas, EsTrama trama) ∧ s.stream <+: tramas.flatten) ∧
    (s.abierto = true → (∀ emisor, s.enCurso emisor = none) →
      (∀ trama ∈ s.completos, EsTrama trama) ∧ s.stream = s.completos.flatten)

/-! ## The order of the frames -/

/-- At most one frame is half sent, and it comes after the complete ones. -/
structure EnOrden (s : SocketScheduler) : Prop where
  completas : ∀ trama ∈ s.completos, EsTrama trama
  enCurso : ∀ emisor curso, s.enCurso emisor = some curso → EsTrama curso.buffer
  stream : ∃ emisor, (∀ otro, otro ≠ emisor → s.parte otro = []) ∧
    s.stream = s.completos.flatten ++ s.parte emisor

variable {s s' : SocketScheduler} {emisor : Emisor} {curso : SendAll}

theorem parte_some (h : s.enCurso emisor = some curso) : s.parte emisor = curso.buffer.take curso.sent := by
  unfold parte
  rw [h]

theorem parte_none (h : s.enCurso emisor = none) : s.parte emisor = [] := by
  unfold parte
  rw [h]

theorem enCurso_asignar (s : SocketScheduler) (emisor otro : Emisor) (curso : Option SendAll) :
    (s.asignar emisor curso).enCurso otro = if otro = emisor then curso else s.enCurso otro :=
  Function.update_apply ..

theorem parte_asignar_otro (s : SocketScheduler) {emisor otro : Emisor} (curso : Option SendAll)
    (h : otro ≠ emisor) : (s.asignar emisor curso).parte otro = s.parte otro := by
  unfold parte
  rw [enCurso_asignar, if_neg h]

theorem parte_asignar_some (s : SocketScheduler) (emisor : Emisor) (curso : SendAll) :
    (s.asignar emisor (some curso)).parte emisor = curso.buffer.take curso.sent := by
  apply parte_some
  rw [enCurso_asignar, if_pos rfl]

theorem parte_asignar_none (s : SocketScheduler) (emisor : Emisor) : (s.asignar emisor none).parte emisor = [] := by
  apply parte_none
  rw [enCurso_asignar, if_pos rfl]

theorem EnOrden.enCurso_asignar (h : s.EnOrden) {fin : Option SendAll}
    (hfin : ∀ curso, fin = some curso → EsTrama curso.buffer) (otro : Emisor) (curso : SendAll)
    (hcurso : (s.asignar emisor fin).enCurso otro = some curso) : EsTrama curso.buffer := by
  rw [SocketScheduler.enCurso_asignar] at hcurso
  split at hcurso
  · exact hfin curso hcurso
  · exact h.enCurso otro curso hcurso

/-- Where no other thread is half way, the half sent frame is the one of the thread itself. -/
theorem EnOrden.stream_eq (h : s.EnOrden) (hotros : ∀ otro, otro ≠ emisor → s.parte otro = []) :
    s.stream = s.completos.flatten ++ s.parte emisor := by
  obtain ⟨actual, hactual, hstream⟩ := h.stream
  by_cases heq : emisor = actual
  · rw [heq]
    exact hstream
  · calc s.stream
      _ = s.completos.flatten ++ s.parte actual := hstream
      _ = s.completos.flatten ++ s.parte emisor := by
        rw [hotros actual (Ne.symm heq), hactual emisor heq]

theorem EnOrden.enteras (h : s.EnOrden) : s.Enteras := by
  obtain ⟨emisor, hotros, hstream⟩ := h.stream
  constructor
  · cases hcurso : s.enCurso emisor with
    | none =>
      refine ⟨s.completos, h.completas, ?_⟩
      rw [hstream, parte_none hcurso, List.append_nil]
    | some curso =>
      refine ⟨s.completos ++ [curso.buffer], ?_, ?_⟩
      · intro trama htrama
        rcases List.mem_append.mp htrama with hantes | hultima
        · exact h.completas trama hantes
        · rw [List.mem_singleton.mp hultima]
          exact h.enCurso emisor curso hcurso
      · rw [hstream, parte_some hcurso, List.flatten_append, List.flatten_singleton]
        exact (List.prefix_append_right_inj _).mpr (List.take_prefix _ _)
  · intro _ hnadie
    rw [parte_none (hnadie emisor), List.append_nil] at hstream
    exact ⟨h.completas, hstream⟩

theorem enOrden_inicial : inicial.EnOrden where
  completas := nofun
  enCurso := nofun
  stream := ⟨.receptor, fun _ _ ↦ rfl, rfl⟩

/-- A thread that starts a frame has sent nothing of it. -/
theorem EnOrden.empezar (h : s.EnOrden) {paquete : Paquete} (hpaso : s.empezar emisor paquete = some s') :
    s'.EnOrden := by
  unfold SocketScheduler.empezar at hpaso
  split at hpaso
  · rename_i buffer hlibre htrama
    obtain rfl := Option.some.inj hpaso
    have hparte : ∀ otro, (s.asignar emisor (some ⟨buffer, 0⟩)).parte otro = s.parte otro := by
      intro otro
      by_cases hotro : otro = emisor
      · rw [hotro, parte_none hlibre, parte_asignar_some]
        exact List.take_zero
      · exact parte_asignar_otro s _ hotro
    have hbuffer : ∀ curso, some (SendAll.mk buffer 0) = some curso → EsTrama curso.buffer := by
      intro curso hcurso
      obtain rfl := Option.some.inj hcurso
      exact ⟨paquete, htrama⟩
    obtain ⟨actual, hactual, hstream⟩ := h.stream
    exact
      { completas := h.completas
        enCurso := h.enCurso_asignar hbuffer
        stream := ⟨actual, fun otro hotro ↦ (hparte otro).trans (hactual otro hotro), by
          rw [hparte]
          exact hstream⟩ }
  · cases hpaso

/-- `send` takes the next bytes of the frame that is under way, or the first of another one. -/
theorem EnOrden.send (h : s.EnOrden) {rc : ℕ} (hotros : ∀ otro, otro ≠ emisor → s.parte otro = [])
    (hpaso : s.send emisor rc = some s') : s'.EnOrden := by
  have hstream := h.stream_eq hotros
  unfold SocketScheduler.send at hpaso
  split at hpaso
  · cases hpaso
  rename_i curso hcurso
  have htrama := h.enCurso emisor curso hcurso
  rw [parte_some hcurso] at hstream
  split at hpaso
  · have havance : s.stream ++ (curso.buffer.drop curso.sent).take rc =
        s.completos.flatten ++ curso.buffer.take (curso.sent + rc) := by
      rw [hstream, List.append_assoc, List.take_add]
    have hdemas : ∀ (fin : Option SendAll) (otro : Emisor), otro ≠ emisor →
        (s.asignar emisor fin).parte otro = [] :=
      fun fin otro hotro ↦ (parte_asignar_otro s fin hotro).trans (hotros otro hotro)
    split at hpaso
    · obtain rfl := Option.some.inj hpaso
      have hbuffer : ∀ c, some (SendAll.mk curso.buffer (curso.sent + rc)) = some c → EsTrama c.buffer := by
        intro c hc
        obtain rfl := Option.some.inj hc
        exact htrama
      exact
        { completas := h.completas
          enCurso := h.enCurso_asignar hbuffer
          stream := ⟨emisor, hdemas _, havance.trans (congrArg _
            (parte_asignar_some s emisor ⟨curso.buffer, curso.sent + rc⟩).symm)⟩ }
    · rename_i hfin
      obtain rfl := Option.some.inj hpaso
      refine
        { completas := fun trama hmem ↦ ?_
          enCurso := h.enCurso_asignar nofun
          stream := ⟨emisor, hdemas none, havance.trans ?_⟩ }
      · rcases List.mem_append.mp hmem with hantes | hultima
        · exact h.completas trama hantes
        · rw [List.mem_singleton.mp hultima]
          exact htrama
      · have hcompleto : curso.buffer.take (curso.sent + rc) = curso.buffer :=
          List.take_of_length_le (Nat.not_lt.mp hfin)
        show _ = (s.completos ++ [curso.buffer]).flatten ++ (s.asignar emisor none).parte emisor
        rw [hcompleto, parte_asignar_none, List.append_nil, List.flatten_append, List.flatten_singleton]
  · cases hpaso

/-! ## Runs -/

/-- While the connection is open the frames are in order; a broken connection leaves the stream as it is. -/
structure Sana (s : SocketScheduler) : Prop where
  prefijo : ∃ tramas : List (List UInt8), (∀ trama ∈ tramas, EsTrama trama) ∧ s.stream <+: tramas.flatten
  enOrden : s.abierto = true → s.EnOrden

theorem EnOrden.sana (h : s.EnOrden) : s.Sana :=
  ⟨h.enteras.1, fun _ ↦ h⟩

theorem Sana.enteras (h : s.Sana) : s.Enteras :=
  ⟨h.prefijo, fun habierto ↦ (h.enOrden habierto).enteras.2 habierto⟩

theorem Sana.cortado (h : s.Sana) (hstream : s'.stream = s.stream) (hcortado : s'.abierto = false) : s'.Sana where
  prefijo := by
    rw [hstream]
    exact h.prefijo
  enOrden habierto := by
    rw [hcortado] at habierto
    cases habierto

theorem Sana.empezar (h : s.Sana) {paquete : Paquete} (hpaso : s.empezar emisor paquete = some s') :
    s'.Sana := by
  by_cases habierto : s.abierto = true
  · exact ((h.enOrden habierto).empezar hpaso).sana
  · unfold SocketScheduler.empezar at hpaso
    split at hpaso
    · obtain rfl := Option.some.inj hpaso
      exact h.cortado rfl (eq_false_of_ne_true habierto)
    · cases hpaso

theorem abierto_of_send {rc : ℕ} (hpaso : s.send emisor rc = some s') : s.abierto = true := by
  unfold SocketScheduler.send at hpaso
  split at hpaso
  · cases hpaso
  split at hpaso
  · rename_i hguarda
    exact hguarda.1
  · cases hpaso

theorem Sana.paso (h : s.Sana) {evento : EventoSocket} (hsin : s.SinMezcla evento)
    (hpaso : s.paso evento = some s') : s'.Sana := by
  cases evento with
  | saludar => exact h.empezar hpaso
  | responder paquete => exact h.empezar hpaso
  | avisarNueva stick tamanio baseFisica ip puerto => exact h.empezar hpaso
  | avisarCorrupta stick => exact h.empezar hpaso
  | send emisor rc =>
    have habierto := abierto_of_send hpaso
    exact ((h.enOrden habierto).send hsin hpaso).sana
  | fallar emisor =>
    replace hpaso : s.fallar emisor = some s' := hpaso
    unfold SocketScheduler.fallar at hpaso
    split at hpaso
    · cases hpaso
    · rename_i hcortado
      obtain rfl := Option.some.inj hpaso
      exact h.cortado rfl (eq_false_of_ne_true hcortado)
  | cortar =>
    obtain rfl := Option.some.inj hpaso
    exact h.cortado rfl rfl

/-- As long as `send` takes bytes of one frame at a time, the stream is whole frames. -/
theorem tramas_enteras {s : SocketScheduler} (h : Reachable paso (· = inicial) SinMezcla s) : s.Enteras := by
  have hsana : s.Sana := by
    apply h.invariant
    · rintro _ rfl
      exact enOrden_inicial.sana
    · exact fun _ _ _ hs hsin hpaso ↦ hs.paso hsin hpaso
  exact hsana.enteras

/-- A reply to a read, with one byte. -/
def respuestaUnByte : Paquete := ⟨.lecturaMemoria, [[7]]⟩

/-- A reply that is due while the answer to the handshake is half sent waits for the rest of it. -/
theorem tramas_enteras_saludo : ∃ s : SocketScheduler, s.completos =
    [serializarPaquete enviarHandshakeSchedulerAMemory, serializarPaquete respuestaUnByte] ∧ s.Enteras := by
  have hinicio : Reachable paso (· = inicial) SinMezcla inicial := .start rfl
  have h₁ := hinicio.next (e := EventoSocket.saludar) trivial rfl
  have h₂ := h₁.next (e := EventoSocket.send .conexion 5) (fun otro _ ↦ by cases otro <;> rfl) rfl
  have h₃ := h₂.next (e := EventoSocket.responder respuestaUnByte) trivial rfl
  have h₄ := h₃.next (e := EventoSocket.send .conexion 11) (fun otro hotro ↦ by
    cases otro with
    | conexion => exact absurd rfl hotro
    | _ => rfl) rfl
  have h₅ := h₄.next (e := EventoSocket.send .receptor 13) (fun otro _ ↦ by cases otro <;> rfl) rfl
  exact ⟨_, by decide, tramas_enteras h₅⟩

/-! ## A frame inside another -/

/-- The size that the receiver takes from the start of whole frames is one that fits in a frame. -/
theorem cabe_of_prefijo {stream : List UInt8} {tramas : List (List UInt8)}
    (htramas : ∀ trama ∈ tramas, EsTrama trama) (hprefijo : stream <+: tramas.flatten)
    (hlargo : largoCabecera ≤ stream.length) : CabeEnTrama (ofLittleEndian ((stream.drop 4).take 8)) := by
  have hmedio : (stream.drop 4).take 8 = (tramas.flatten.drop 4).take 8 := by
    have hcabecera : stream.take largoCabecera = tramas.flatten.take largoCabecera := by
      rw [List.prefix_iff_eq_take.mp hprefijo, List.take_take, Nat.min_eq_left hlargo]
    have hdrop := congrArg (List.drop 4) hcabecera
    rwa [List.drop_take, List.drop_take] at hdrop
  cases tramas with
  | nil =>
    rw [List.prefix_nil.mp hprefijo] at hlargo
    exact absurd hlargo (by decide)
  | cons trama resto =>
    obtain ⟨paquete, hpaquete⟩ := htramas trama List.mem_cons_self
    unfold enviarPaquete at hpaquete
    split at hpaquete
    · rename_i hcabe
      obtain rfl := Option.some.inj hpaquete
      have htamanio : ((serializarPaquete paquete :: resto).flatten.drop 4).take 8 =
          littleEndian 8 paquete.stream.length := by
        have hcodigo : (deUint32 paquete.codigo.valor).length = 4 := length_littleEndian 4 _
        unfold serializarPaquete
        rw [List.flatten_cons, List.flatten_cons, List.flatten_cons, List.append_assoc,
          List.drop_left' hcodigo, List.append_assoc, List.take_left' (length_littleEndian 8 _)]
      rw [hmedio, htamanio, ofLittleEndian_littleEndian]
      · exact hcabe
      · unfold CabeEnTrama at hcabe
        omega
    · cases hpaquete

/-- The first `send` takes the operation code of the reply; the monitor of a stick sends its whole frame. -/
def eventosMezclados : List EventoSocket :=
  [.responder respuestaUnByte, .send .receptor 4, .avisarCorrupta 0, .send (.monitor 0) 16, .send .receptor 9]

/-- The scheduler takes the start of the frame of the monitor for the size of the reply, and no packet has that
size: whatever comes later, the stream is not whole frames. -/
theorem tramas_no_enteras : ∃ s, Reachable paso (· = inicial) (fun _ _ ↦ True) s ∧
    ∀ tramas : List (List UInt8), (∀ trama ∈ tramas, EsTrama trama) → ¬ s.stream <+: tramas.flatten := by
  have hinicio : Reachable paso (· = inicial) (fun _ _ ↦ True) inicial := .start rfl
  obtain ⟨s, hs, hlargo, hcabe⟩ := hinicio.exists_of_runAllowed eventosMezclados
    (fun s ↦ largoCabecera ≤ s.stream.length ∧ ¬ CabeEnTrama (ofLittleEndian ((s.stream.drop 4).take 8)))
    (by decide +kernel)
  exact ⟨s, hs, fun tramas htramas hprefijo ↦ hcabe (cabe_of_prefijo htramas hprefijo hlargo)⟩

end SocketScheduler

end PlugAndPlay.Red
