import PlugAndPlay.Planificador.Notificaciones

/-!
# Every notification is read

A notification behind some answers in the socket is read when more threads than that wait for an answer or
are about to ask for one. If notifications are pushed only then, none is left in a quiescent state, and
every process in SUSP_READY has been tried again since memory was last freed.
-/

open PlugAndPlay.Library PlugAndPlay.Memoria

namespace PlugAndPlay.Planificador

theorem Trama.esNotificacion_of_reevalua {t : Trama} (h : t.reevalua = true) :
    t.esNotificacion = true := by
  cases t with
  | nuevaMemoriaDisponible tamanio baseFisica => rfl
  | memoriaCorruptaBsod => cases h
  | mensaje m =>
    cases m with
    | ok codigo =>
      cases codigo with
      | memoriaLiberada => rfl
      | _ => cases h
    | _ => cases h

theorem Trama.esNotificacion_of_esAviso {t : Trama} (h : t.esAviso = true) :
    t.esNotificacion = true := by
  rcases Bool.or_eq_true_iff.mp h with h | h
  · exact Trama.esNotificacion_of_reevalua h
  · rw [of_decide_eq_true h]
    rfl

def AMemoria.esPedido : AMemoria → Bool
  | .pedido _ => true
  | .okCompactacion => false

def FaseMemoria.ocupada : FaseMemoria → ℕ
  | .compactar _ _ _ | .reasignar _ _ _ => 1
  | .libre | .notificar => 0

def FasePmp.candidatos : FasePmp → List Pid
  | .despierto => []
  | .recorrer _ candidatos | .esperar _ candidatos => candidatos

namespace CanalMemoria

/-! ## Frames and readers -/

/-- `n` answers will be read: every notification nobody waits for stands before so many. -/
def Leidas : ℕ → List Trama → Prop
  | _, [] => True
  | n, t :: tramas =>
    if t.esNotificacion then (t.esAviso → 0 < n) ∧ Leidas n tramas else Leidas (n - 1) tramas

theorem leidas_notificacion {t : Trama} (ht : t.esNotificacion = true) {n : ℕ} {tramas : List Trama} :
    Leidas n (t :: tramas) ↔ (t.esAviso = true → 0 < n) ∧ Leidas n tramas := by
  rw [Leidas, if_pos ht]

theorem leidas_respuesta {t : Trama} (ht : t.esNotificacion = false) {n : ℕ} {tramas : List Trama} :
    Leidas n (t :: tramas) ↔ Leidas (n - 1) tramas := by
  rw [Leidas, if_neg (ne_true_of_eq_false ht)]

@[simp] theorem respuestas_nil : respuestas [] = 0 := rfl

theorem respuestas_notificacion {t : Trama} (ht : t.esNotificacion = true) (tramas : List Trama) :
    respuestas (t :: tramas) = respuestas tramas := by
  simp [respuestas, ht]

theorem respuestas_respuesta {t : Trama} (ht : t.esNotificacion = false) (tramas : List Trama) :
    respuestas (t :: tramas) = respuestas tramas + 1 := by
  simp [respuestas, ht]

@[simp] theorem respuestas_append (tramas nuevas : List Trama) :
    respuestas (tramas ++ nuevas) = respuestas tramas + respuestas nuevas :=
  List.countP_append

theorem Leidas.mono {n m : ℕ} {tramas : List Trama} (h : Leidas n tramas) (hle : n ≤ m) :
    Leidas m tramas := by
  induction tramas generalizing n m with
  | nil => trivial
  | cons t tramas ih =>
    cases ht : t.esNotificacion with
    | true =>
      rw [leidas_notificacion ht] at h ⊢
      exact ⟨fun haviso ↦ (h.1 haviso).trans_le hle, ih h.2 hle⟩
    | false =>
      rw [leidas_respuesta ht] at h ⊢
      exact ih h (Nat.sub_le_sub_right hle 1)

theorem leidas_append {n : ℕ} {tramas nuevas : List Trama} :
    Leidas n (tramas ++ nuevas) ↔ Leidas n tramas ∧ Leidas (n - respuestas tramas) nuevas := by
  induction tramas generalizing n with
  | nil => simp [Leidas]
  | cons t tramas ih =>
    unfold respuestas at ih ⊢
    cases ht : t.esNotificacion with
    | true => simp [Leidas, ht, ih, and_assoc]
    | false => simp [Leidas, ht, ih, Nat.sub_sub, Nat.add_comm]

theorem leidas_of_sinAvisos {tramas : List Trama} (h : ∀ t ∈ tramas, t.esAviso = false) (n : ℕ) :
    Leidas n tramas := by
  induction tramas generalizing n with
  | nil => trivial
  | cons t tramas ih =>
    obtain ⟨ht, htramas⟩ := List.forall_mem_cons.mp h
    unfold Leidas
    split
    · refine ⟨fun haviso ↦ ?_, ih htramas n⟩
      rw [ht] at haviso
      cases haviso
    · exact ih htramas _

/-- With no reader left there is nothing to read. -/
theorem sinAvisos_of_leidas {tramas : List Trama} (h : Leidas 0 tramas) :
    ∀ t ∈ tramas, t.esAviso = false := by
  induction tramas with
  | nil => nofun
  | cons t tramas ih =>
    unfold Leidas at h
    split at h
    · refine List.forall_mem_cons.mpr ⟨eq_false_of_ne_true fun haviso ↦ ?_, ih h.2⟩
      exact absurd (h.1 haviso) (lt_irrefl 0)
    · rename_i ht
      exact List.forall_mem_cons.mpr
        ⟨eq_false_of_ne_true fun haviso ↦ ht (Trama.esNotificacion_of_esAviso haviso), ih h⟩

/-- The notices of lost sticks, before the answer of the request that met them. -/
theorem leidas_avisosBsod (antes despues : KernelMemory) {n : ℕ} (hn : 0 < n) :
    Leidas n (avisosBsod antes despues) := by
  unfold avisosBsod
  induction despues.ram.avisosBsod - antes.ram.avisosBsod with
  | zero => trivial
  | succ k ih => exact ⟨fun _ ↦ hn, ih⟩

@[simp] theorem respuestas_avisosBsod (antes despues : KernelMemory) :
    respuestas (avisosBsod antes despues) = 0 := by
  unfold respuestas avisosBsod
  rw [List.countP_replicate]
  rfl

/-! ## Requests under way -/

/-- The requests in the socket, in the thread of Kernel Memory and answered but not read. -/
def enCurso (r : CanalMemoria) : ℕ :=
  r.aMemoria.countP AMemoria.esPedido + r.fase.ocupada + respuestas r.aScheduler

/-- The mutex keeps one request under way, that of its holder. -/
structure Alineado (r : CanalMemoria) : Prop where
  uno : r.enCurso ≤ 1
  libre : r.SocketLibre → r.enCurso = 0
  suyo : ∀ p, .pedido p ∈ r.aMemoria → r.espera = some p ∨ ∃ candidatos, r.pmp = .esperar p candidatos
  propio : ∀ p candidatos, r.pmp = .recorrer (some p) candidatos → p.deSuspension = false
  ajeno : ∀ p candidatos, r.pmp = .esperar p candidatos → ∀ pid, p ≠ .suspenderProceso pid
  exclusivo : r.espera ≠ none → r.pmp.espera = false

/-- A pass of the planner is ahead. -/
def Avisado (r : CanalMemoria) : Prop :=
  0 < r.semReevaluar ∨ r.pmp = .despierto ∨ (∃ t ∈ r.aScheduler, t.reevalua = true) ∨
    r.fase = .notificar ∨ r.sticksPorAvisar ≠ [] ∨ ∃ pid, r.espera = some (.suspenderProceso pid)

/-- The attempt to resume the process goes on and was not refused. -/
def EnIntento (r : CanalMemoria) (pid : Pid) : Prop :=
  (∃ candidatos, r.pmp = .esperar (.desSuspenderProceso pid) candidatos) ∧
    (.pedido (.desSuspenderProceso pid) ∈ r.aMemoria ∨
      .mensaje (.ok .desSuspenderProceso) ∈ r.aScheduler)

/-- The process will be tried again. -/
def Recordado (r : CanalMemoria) (pid : Pid) : Prop :=
  r.Avisado ∨ pid ∈ r.pmp.candidatos ∨ r.EnIntento pid

structure Atento (r : CanalMemoria) : Prop where
  alineado : r.Alineado
  distintos : (r.suspendidos.map Suspendido.pid).Nodup
  leidas : Leidas r.lectores r.aScheduler
  recordados : ∀ s ∈ r.suspendidos, s.suspReady = true → s.liberado = true → r.Recordado s.pid

/-! ## Sections of Kernel Memory -/

variable {qsort : Qsort} {r r' : CanalMemoria} {e : EventoCanal} {p : Pedido}

/-- A section of the thread of Kernel Memory sends notices of lost sticks and then at most one answer, or
none while it is in a compaction. -/
structure Servido (r r' : CanalMemoria) : Prop where
  espera : r'.espera = r.espera
  hilos : r'.hilos = r.hilos
  pmp : r'.pmp = r.pmp
  sem : r'.semReevaluar = r.semReevaluar
  sticks : r'.sticksPorAvisar = r.sticksPorAvisar
  aMemoria : r'.aMemoria = r.aMemoria
  suspendidos : ∃ f : Suspendido → Suspendido,
    (∀ s, (f s).pid = s.pid ∧ (f s).suspReady = s.suspReady) ∧ r'.suspendidos = r.suspendidos.map f
  tramas : ∃ bsod resto, r'.aScheduler = r.aScheduler ++ (bsod ++ resto) ∧ respuestas bsod = 0 ∧
    (∀ n, 0 < n → Leidas n bsod) ∧ (∀ t ∈ resto, t.esAviso = false) ∧
    respuestas resto + r'.fase.ocupada ≤ 1

/-- The handlers answer once, apart from `MEMORIA_LIBERADA`. -/
theorem atender_unaRespuesta (qsort : Qsort) (m : KernelMemory)
    (hp : ∀ pid id tamanio, p ≠ .solicitarSegmento pid id tamanio) :
    ((atender qsort m p.operacion).1.filter (· ≠ .ok .memoriaLiberada)).length ≤ 1 := by
  cases p with
  | crearProceso pid instrucciones => simp [Pedido.operacion, atender, manejarCrearProceso]
  | solicitarSegmento pid id tamanio => exact absurd rfl (hp pid id tamanio)
  | eliminarSegmento pid id =>
    simp only [Pedido.operacion, atender, manejarEliminarSegmento]
    split
    · simp
    · split <;> simp
  | finalizarProceso pid =>
    simp only [Pedido.operacion, atender, manejarFinalizarProceso]
    split
    · simp
    · split <;> simp
  | lecturaMemoria pid dir tamanio =>
    simp only [Pedido.operacion, atender, manejarLecturaMemoria]
    split
    · simp
    split
    · simp
    split
    · simp
    · split <;> simp
  | escrituraMemoria pid dir datos =>
    simp only [Pedido.operacion, atender, manejarEscrituraMemoria]
    split
    · simp
    split
    · simp
    · split <;> simp
  | suspenderProceso pid =>
    simp only [Pedido.operacion, atender, manejarSuspenderProceso]
    split <;> simp
  | desSuspenderProceso pid =>
    simp only [Pedido.operacion, atender, manejarDesSuspenderProceso]
    split <;> simp

theorem servido_responder (m : KernelMemory) {mensajes : List Mensaje}
    (hmensajes : (mensajes.filter (· ≠ .ok .memoriaLiberada)).length ≤ 1) :
    Servido r (r.responder m mensajes) where
  espera := rfl
  hilos := rfl
  pmp := rfl
  sem := rfl
  sticks := rfl
  aMemoria := rfl
  suspendidos := ⟨fun s ↦ s, fun _ ↦ ⟨rfl, rfl⟩, (List.map_id _).symm⟩
  tramas := by
    have htramas : (r.responder m mensajes).aScheduler = r.aScheduler ++ (avisosBsod r.memoria m ++
        (mensajes.filter (· ≠ .ok .memoriaLiberada)).map .mensaje) := List.append_assoc _ _ _
    refine ⟨_, _, htramas, respuestas_avisosBsod _ _, fun n hn ↦ leidas_avisosBsod _ _ hn, ?_, ?_⟩
    · intro t ht
      obtain ⟨mensaje, hmensaje, rfl⟩ := List.mem_map.mp ht
      have hno := (List.mem_filter.mp hmensaje).2
      cases mensaje with
      | ok codigo => cases codigo <;> first | rfl | exact absurd hno (by decide)
      | _ => rfl
    · have hfase : (r.responder m mensajes).fase.ocupada = 0 := by
        unfold responder
        simp only
        split <;> rfl
      rw [hfase, Nat.add_zero]
      exact (List.countP_le_length.trans_eq (List.length_map _)).trans hmensajes

theorem Servido.modificar (h : Servido r r') {f : Suspendido → Suspendido}
    (hf : ∀ s, (f s).pid = s.pid ∧ (f s).suspReady = s.suspReady) :
    Servido r { r' with suspendidos := r'.suspendidos.map f } where
  espera := h.espera
  hilos := h.hilos
  pmp := h.pmp
  sem := h.sem
  sticks := h.sticks
  aMemoria := h.aMemoria
  tramas := h.tramas
  suspendidos := by
    obtain ⟨g, hg, heq⟩ := h.suspendidos
    refine ⟨f ∘ g, fun s ↦ ⟨(hf _).1.trans (hg s).1, (hf _).2.trans (hg s).2⟩, ?_⟩
    rw [heq, List.map_map]

theorem servido_liberar (h : Servido r r') : Servido r r'.liberar :=
  h.modificar fun _ ↦ ⟨rfl, rfl⟩

theorem servido_modificarSuspendido (h : Servido r r') (pid : Pid) {f : Suspendido → Suspendido}
    (hf : ∀ s, (f s).pid = s.pid ∧ (f s).suspReady = s.suspReady) :
    Servido r (r'.modificarSuspendido pid f) := by
  refine h.modificar fun s ↦ ?_
  split
  · exact hf s
  · exact ⟨rfl, rfl⟩

theorem servido_solicitar (pid : Pid) (id tamanio : UInt32) :
    Servido r (r.solicitar pid id tamanio) := by
  unfold solicitar
  split
  · rename_i respuesta m hrespuesta
    apply servido_responder
    refine (List.length_filter_le _ _).trans ?_
    unfold solicitarSinCompactar at hrespuesta
    split at hrespuesta
    · cases hrespuesta
      exact le_rfl
    split at hrespuesta
    · cases hrespuesta
      exact le_rfl
    simp only at hrespuesta
    split at hrespuesta
    · split at hrespuesta <;> cases hrespuesta
      exact le_rfl
    · cases hrespuesta
      exact le_rfl
  · refine ⟨rfl, rfl, rfl, rfl, rfl, rfl, ⟨fun s ↦ s, fun _ ↦ ⟨rfl, rfl⟩, (List.map_id _).symm⟩, ⟨[],
      [.mensaje (.ok .iniciarCompactacion)], rfl, rfl, fun _ _ ↦ trivial, ?_, le_rfl⟩⟩
    exact List.forall_mem_singleton.mpr rfl

theorem servido_atenderPedido (qsort : Qsort) (p : Pedido) : Servido r (r.atenderPedido qsort p) := by
  unfold atenderPedido
  split
  · exact servido_solicitar _ _ _
  · rename_i hp
    have h := servido_responder (r := r) (atender qsort r.memoria p.operacion).2
      (atender_unaRespuesta qsort r.memoria hp)
    simp only
    split
    · exact servido_liberar h
    · split
      · exact h
      · exact servido_modificarSuspendido h _ fun _ ↦ ⟨rfl, rfl⟩
    · split
      · exact servido_liberar h
      · exact h

theorem servido_reasignar (pid : Pid) (id tamanio : UInt32) :
    Servido r (r.responder (Memoria.reasignar r.memoria pid id tamanio).2
      (Memoria.reasignar r.memoria pid id tamanio).1) := by
  apply servido_responder
  refine (List.length_filter_le _ _).trans ?_
  unfold Memoria.reasignar
  simp only
  split
  · exact le_rfl
  · split <;> exact le_rfl

theorem servido_compactar (m : KernelMemory) (pid : Pid) (id tamanio : UInt32) :
    Servido r { r with
      memoria := m
      aScheduler := r.aScheduler ++ avisosBsod r.memoria m ++ [.mensaje (.ok .finalizarCompactacion)]
      fase := .reasignar pid id tamanio } := by
  refine ⟨rfl, rfl, rfl, rfl, rfl, rfl, ⟨fun s ↦ s, fun _ ↦ ⟨rfl, rfl⟩, (List.map_id _).symm⟩, _,
    [.mensaje (.ok .finalizarCompactacion)], List.append_assoc _ _ _, respuestas_avisosBsod _ _,
    fun n hn ↦ leidas_avisosBsod _ _ hn, List.forall_mem_singleton.mpr rfl, le_rfl⟩

/-! ## Readers -/

theorem lectores_pos (hocupado : ¬ r.SocketLibre) : 0 < r.lectores := by
  unfold lectores
  cases hespera : r.espera with
  | some p =>
    rw [Option.toList_some, List.length_singleton]
    omega
  | none =>
    cases hpmp : r.pmp with
    | esperar p candidatos =>
      have hpide : r.pedidosPmp = candidatos.length + 1 := by
        unfold pedidosPmp
        rw [hpmp]
      omega
    | despierto => exact absurd ⟨hespera, by rw [hpmp]; rfl⟩ hocupado
    | recorrer propio candidatos => exact absurd ⟨hespera, by rw [hpmp]; rfl⟩ hocupado

theorem pedidosProximos_le (hsem : 0 < r.semReevaluar → 0 < r'.semReevaluar ∨ r'.pmp = .despierto)
    (hpmp : r.pmp = .despierto → r'.pmp = .despierto)
    (hcuenta : (r.suspendidos.countP fun s ↦ s.suspReady ∧ s.pid ∉ r.enPasada) ≤
      r'.suspendidos.countP fun s ↦ s.suspReady ∧ s.pid ∉ r'.enPasada) :
    r.pedidosProximos ≤ r'.pedidosProximos := by
  unfold pedidosProximos
  split
  · rename_i h
    rw [if_pos (h.elim hsem fun h ↦ .inr (hpmp h))]
    exact hcuenta
  · exact Nat.zero_le _

theorem lectores_le (hahora : r.espera.toList.length + r.hilos.length + r.pedidosPmp ≤
      r'.espera.toList.length + r'.hilos.length + r'.pedidosPmp)
    (hproximos : r.pedidosProximos ≤ r'.pedidosProximos) : r.lectores ≤ r'.lectores :=
  Nat.add_le_add hahora hproximos

/-- The list may change as long as the processes in SUSP_READY stay. -/
theorem cuenta_map {f : Suspendido → Suspendido} (lista : List Suspendido) (pasada : List Pid)
    (hf : ∀ s, (f s).pid = s.pid ∧ (s.suspReady = true → (f s).suspReady = true)) :
    (lista.countP fun s ↦ s.suspReady ∧ s.pid ∉ pasada) ≤
      (lista.map f).countP fun s ↦ s.suspReady ∧ s.pid ∉ pasada := by
  rw [List.countP_map]
  apply List.countP_mono_left
  intro s _ hs
  simp only [decide_eq_true_eq, Function.comp_apply] at hs ⊢
  exact ⟨(hf s).2 hs.1, (hf s).1 ▸ hs.2⟩

theorem cuenta_pasada (lista : List Suspendido) {pasada pasada' : List Pid}
    (h : ∀ pid ∈ pasada', pid ∈ pasada) :
    (lista.countP fun s ↦ s.suspReady ∧ s.pid ∉ pasada) ≤
      lista.countP fun s ↦ s.suspReady ∧ s.pid ∉ pasada' := by
  apply List.countP_mono_left
  intro s _ hs
  simp only [decide_eq_true_eq] at hs ⊢
  exact ⟨hs.1, fun hno ↦ hs.2 (h _ hno)⟩

theorem cuenta_eraseP (lista : List Suspendido) (pid : Pid) (pasada : List Pid) :
    (lista.countP fun s ↦ s.suspReady ∧ s.pid ∉ pid :: pasada) ≤
      (lista.eraseP fun s ↦ s.pid = pid).countP fun s ↦ s.suspReady ∧ s.pid ∉ pasada := by
  induction lista with
  | nil => exact le_rfl
  | cons s lista ih =>
    by_cases hs : s.pid = pid
    · rw [List.eraseP_cons_of_pos (by simpa using hs), List.countP_cons_of_neg (by simp [hs])]
      exact cuenta_pasada lista fun _ ↦ List.mem_cons_of_mem _
    · rw [List.eraseP_cons_of_neg (by simpa using hs), List.countP_cons, List.countP_cons]
      have hcabeza : (s.suspReady ∧ s.pid ∉ pid :: pasada) ↔ (s.suspReady ∧ s.pid ∉ pasada) := by
        simp [hs]
      simp only [hcabeza]
      exact Nat.add_le_add_right ih _

/-- Sections of Kernel Memory leave the readers alone. -/
theorem Servido.lectoresQuedan (h : Servido r r') : r.lectores ≤ r'.lectores := by
  obtain ⟨f, hf, hsuspendidos⟩ := h.suspendidos
  have hpmp : r.pedidosPmp = r'.pedidosPmp := by
    unfold pedidosPmp
    rw [h.pmp]
  have hpasada : r.enPasada = r'.enPasada := by
    unfold enPasada
    rw [h.pmp]
  have hproximos : r.pedidosProximos ≤ r'.pedidosProximos := by
    apply pedidosProximos_le
    · rw [h.sem]
      exact .inl
    · rw [h.pmp]
      exact id
    · rw [← hpasada, hsuspendidos]
      exact cuenta_map _ _ fun s ↦ ⟨(hf s).1, fun hs ↦ (hf s).2.trans hs⟩
  refine lectores_le (Nat.le_of_eq ?_) hproximos
  rw [h.espera, h.hilos, hpmp]

theorem Servido.socketLibre (h : Servido r r') : r'.SocketLibre ↔ r.SocketLibre := by
  unfold SocketLibre
  rw [h.espera, h.pmp]

/-- The section of Kernel Memory that has the request under way. -/
theorem Servido.alineado {cola : List AMemoria} (hs : Servido { r with aMemoria := cola } r')
    (h : r.Alineado) (hcola : ∀ p, .pedido p ∈ cola → .pedido p ∈ r.aMemoria)
    (hturno : cola.countP AMemoria.esPedido + respuestas r.aScheduler + 1 ≤ r.enCurso) :
    r'.Alineado := by
  obtain ⟨bsod, resto, htramas, hbsod, _, _, huna⟩ := hs.tramas
  have huno := h.uno
  refine ⟨?_, fun hlibre ↦ ?_, fun p hp ↦ ?_, fun p candidatos hp ↦ ?_, fun p candidatos hp ↦ ?_, ?_⟩
  · have hcurso : r'.enCurso = cola.countP AMemoria.esPedido + r'.fase.ocupada +
        (respuestas r.aScheduler + (respuestas bsod + respuestas resto)) := by
      unfold enCurso
      rw [hs.aMemoria, htramas, respuestas_append, respuestas_append]
    omega
  · have hcero := h.libre (hs.socketLibre.mp hlibre)
    omega
  · rw [hs.aMemoria] at hp
    rw [hs.espera, hs.pmp]
    exact h.suyo p (hcola p hp)
  · rw [hs.pmp] at hp
    exact h.propio p candidatos hp
  · rw [hs.pmp] at hp
    exact h.ajeno p candidatos hp
  · rw [hs.espera, hs.pmp]
    exact h.exclusivo

theorem Servido.leidas {cola : List AMemoria} (hs : Servido { r with aMemoria := cola } r')
    (h : r.Alineado) (hleidas : Leidas r.lectores r.aScheduler)
    (hturno : cola.countP AMemoria.esPedido + respuestas r.aScheduler + 1 ≤ r.enCurso) :
    Leidas r'.lectores r'.aScheduler := by
  obtain ⟨bsod, resto, htramas, _, hbsod, hresto, _⟩ := hs.tramas
  have htramas : r'.aScheduler = r.aScheduler ++ (bsod ++ resto) := htramas
  have huno := h.uno
  have hlectores : 0 < r.lectores := by
    apply lectores_pos
    intro hlibre
    have hcero := h.libre hlibre
    omega
  apply Leidas.mono (n := r.lectores) _ hs.lectoresQuedan
  rw [htramas, leidas_append, leidas_append]
  exact ⟨hleidas, hbsod _ (by omega), leidas_of_sinAvisos hresto _⟩

theorem Servido.distintos (hs : Servido r r') (h : (r.suspendidos.map Suspendido.pid).Nodup) :
    (r'.suspendidos.map Suspendido.pid).Nodup := by
  obtain ⟨f, hf, hsuspendidos⟩ := hs.suspendidos
  have hpids : (r.suspendidos.map f).map Suspendido.pid = r.suspendidos.map Suspendido.pid := by
    rw [List.map_map]
    exact List.map_congr_left fun s _ ↦ (hf s).1
  rw [hsuspendidos, hpids]
  exact h

/-! ## Processes that will be tried again -/

variable {pid : Pid} {t : Trama}

theorem Recordado.mono (h : r.Recordado pid) (hpmp : r'.pmp = r.pmp) (havisado : r.Avisado → r'.Avisado)
    (hpedidos : ∀ x ∈ r.aMemoria, x ∈ r'.aMemoria)
    (htramas : .mensaje (.ok .desSuspenderProceso) ∈ r.aScheduler →
      .mensaje (.ok .desSuspenderProceso) ∈ r'.aScheduler) : r'.Recordado pid := by
  unfold Recordado EnIntento at *
  rw [hpmp]
  rcases h with h | h | ⟨hintento, h⟩
  · exact .inl (havisado h)
  · exact .inr (.inl h)
  · exact .inr (.inr ⟨hintento, h.imp (hpedidos _) htramas⟩)

/-- More frames, and what else announces a pass stays. -/
theorem Avisado.mono (h : r.Avisado) (hsem : r.semReevaluar ≤ r'.semReevaluar) (hpmp : r'.pmp = r.pmp)
    (htramas : ∀ t ∈ r.aScheduler, t ∈ r'.aScheduler) (hfase : r.fase = .notificar → r'.fase = .notificar)
    (hsticks : r.sticksPorAvisar ≠ [] → r'.sticksPorAvisar ≠ []) (hespera : r'.espera = r.espera) :
    r'.Avisado := by
  unfold Avisado at *
  rw [hpmp, hespera]
  rcases h with h | h | ⟨t, ht, hreevalua⟩ | h | h | h
  · exact .inl (h.trans_le hsem)
  · exact .inr (.inl h)
  · exact .inr (.inr (.inl ⟨t, htramas t ht, hreevalua⟩))
  · exact .inr (.inr (.inr (.inl (hfase h))))
  · exact .inr (.inr (.inr (.inr (.inl (hsticks h)))))
  · exact .inr (.inr (.inr (.inr (.inr h))))

theorem avisado_notificarReevaluar : r.notificarReevaluar.Avisado := .inl (Nat.succ_pos _)

/-- A section of Kernel Memory that frees nothing. -/
theorem Servido.recordado {cola : List AMemoria} (hs : Servido { r with aMemoria := cola } r')
    (h : r.Recordado pid) (hfase : r.fase ≠ .notificar)
    (hcola : .pedido (.desSuspenderProceso pid) ∈ r.aMemoria →
      .pedido (.desSuspenderProceso pid) ∈ cola ∨
        .mensaje (.ok .desSuspenderProceso) ∈ r'.aScheduler) : r'.Recordado pid := by
  obtain ⟨bsod, resto, htramas, _⟩ := hs.tramas
  have htramas : r'.aScheduler = r.aScheduler ++ (bsod ++ resto) := htramas
  have hviejas : ∀ t ∈ r.aScheduler, t ∈ r'.aScheduler := by
    intro t ht
    rw [htramas]
    exact List.mem_append_left _ ht
  rcases h with h | h | ⟨hintento, h⟩
  · refine .inl (h.mono (Nat.le_of_eq hs.sem.symm) hs.pmp hviejas (fun hno ↦ absurd hno hfase) ?_ hs.espera)
    rw [hs.sticks]
    exact id
  · refine .inr (.inl ?_)
    rw [hs.pmp]
    exact h
  · refine .inr (.inr ⟨?_, ?_⟩)
    · rw [hs.pmp]
      exact hintento
    · rcases h with h | h
      · rcases hcola h with h | h
        · rw [hs.aMemoria]
          exact .inl h
        · exact .inr h
      · exact .inr (hviejas _ h)

theorem mem_candidatos {s : Suspendido} (hs : s ∈ r.suspendidos) (hready : s.suspReady = true) :
    s.pid ∈ r.candidatos := by
  unfold candidatos
  refine List.mem_map_of_mem ((List.mem_insertionSort _).mpr ?_)
  exact List.mem_filter.mpr ⟨hs, hready⟩

/-- A request is served. -/
theorem Atento.recordados_servir (h : r.Atento) {resto : List AMemoria} (hfase : r.fase = .libre)
    (hcola : r.aMemoria = .pedido p :: resto) :
    ∀ s ∈ ({ r with aMemoria := resto }.atenderPedido qsort p).suspendidos, s.suspReady = true →
      s.liberado = true → ({ r with aMemoria := resto }.atenderPedido qsort p).Recordado s.pid := by
  have hs := servido_atenderPedido (r := { r with aMemoria := resto }) qsort p
  have hsuyo := h.alineado.suyo p (by rw [hcola]; exact List.mem_cons_self)
  have hlibre : r.fase ≠ .notificar := by
    rw [hfase]
    nofun
  have hotro : ∀ pid, p ≠ .desSuspenderProceso pid →
      .pedido (.desSuspenderProceso pid) ∈ r.aMemoria → .pedido (.desSuspenderProceso pid) ∈ resto := by
    intro pid hp hmem
    rw [hcola] at hmem
    rcases List.mem_cons.mp hmem with hmem | hmem
    · cases hmem
      exact absurd rfl hp
    · exact hmem
  unfold atenderPedido at hs ⊢
  revert hs
  split
  · rename_i pid id tamanio
    intro hs s hmem hready hliberado
    have hsuspendidos : (solicitar { r with aMemoria := resto } pid id tamanio).suspendidos =
        r.suspendidos := by
      unfold solicitar
      split <;> rfl
    rw [hsuspendidos] at hmem
    exact hs.recordado (h.recordados s hmem hready hliberado) hlibre fun hpedido ↦
      .inl (hotro s.pid nofun hpedido)
  simp only
  generalize hatender : atender qsort r.memoria p.operacion = atendido
  obtain ⟨mensajes, m⟩ := atendido
  split
  · rename_i pid _
    intro hs s _ _ _
    rcases hsuyo with hespera | ⟨candidatos, hpmp⟩
    · exact .inl (.inr (.inr (.inr (.inr (.inr ⟨pid, hespera⟩)))))
    · exact absurd rfl (h.alineado.ajeno _ _ hpmp pid)
  · rename_i pid _
    split
    · rename_i hok
      intro hs s hmem hready hliberado
      refine hs.recordado (h.recordados s hmem hready hliberado) hlibre fun hpedido ↦ ?_
      by_cases hpid : s.pid = pid
      · refine .inr (List.mem_append_right _ (List.mem_map_of_mem (List.mem_filter.mpr ⟨?_, ?_⟩)))
        · exact hok
        · rfl
      · refine .inl (hotro s.pid (fun hp ↦ hpid ?_) hpedido)
        cases hp
        rfl
    · intro hs s' hmem hready hliberado
      obtain ⟨s, hs', rfl⟩ := List.mem_map.mp hmem
      by_cases hpid : s.pid = pid
      · rw [if_pos hpid] at hliberado
        cases hliberado
      · rw [if_neg hpid] at hready hliberado ⊢
        refine hs.recordado (h.recordados s hs' hready hliberado) hlibre fun hpedido ↦
          .inl (hotro s.pid (fun hp ↦ hpid ?_) hpedido)
        cases hp
        rfl
  · rename_i hp
    split
    · rename_i hlibera
      intro _ s _ _ _
      refine .inl (.inr (.inr (.inr (.inl ?_))))
      exact if_pos hlibera
    · intro hs s hmem hready hliberado
      exact hs.recordado (h.recordados s hmem hready hliberado) hlibre fun hpedido ↦
        .inl (hotro s.pid (hp s.pid) hpedido)

/-! ## Steps of Kernel Memory -/

theorem Atento.seccion (h : r.Atento) {cola : List AMemoria} (hs : Servido { r with aMemoria := cola } r')
    (hcola : ∀ p, .pedido p ∈ cola → .pedido p ∈ r.aMemoria)
    (hturno : cola.countP AMemoria.esPedido + respuestas r.aScheduler + 1 ≤ r.enCurso)
    (hrecordados : ∀ s ∈ r'.suspendidos, s.suspReady = true → s.liberado = true → r'.Recordado s.pid) :
    r'.Atento where
  alineado := hs.alineado h.alineado hcola hturno
  distintos := hs.distintos h.distintos
  leidas := hs.leidas h.alineado h.leidas hturno
  recordados := hrecordados

theorem Atento.servir (h : r.Atento) {resto : List AMemoria} (hfase : r.fase = .libre)
    (hcola : r.aMemoria = .pedido p :: resto) :
    ({ r with aMemoria := resto }.atenderPedido qsort p).Atento := by
  refine h.seccion (servido_atenderPedido qsort p) (fun q hq ↦ ?_) ?_ (h.recordados_servir hfase hcola)
  · rw [hcola]
    exact List.mem_cons_of_mem _ hq
  · unfold enCurso
    rw [hcola, List.countP_cons_of_pos rfl]
    omega

theorem Atento.compactar (h : r.Atento) {pid : Pid} {id tamanio : UInt32} {resto : List AMemoria}
    (hfase : r.fase = .compactar pid id tamanio) (hcola : r.aMemoria = .okCompactacion :: resto)
    (m : KernelMemory) :
    Atento { r with
      memoria := m
      aMemoria := resto
      aScheduler := r.aScheduler ++ avisosBsod r.memoria m ++ [.mensaje (.ok .finalizarCompactacion)]
      fase := .reasignar pid id tamanio } := by
  have hs := servido_compactar (r := { r with aMemoria := resto }) m pid id tamanio
  refine h.seccion hs (fun q hq ↦ ?_) ?_ fun s hmem hready hliberado ↦
    hs.recordado (h.recordados s hmem hready hliberado) ?_ fun hpedido ↦ ?_
  · rw [hcola]
    exact List.mem_cons_of_mem _ hq
  · unfold enCurso
    rw [hcola, List.countP_cons_of_neg (by decide), hfase]
    simp only [FaseMemoria.ocupada]
    omega
  · rw [hfase]
    nofun
  · rw [hcola] at hpedido
    exact .inl ((List.mem_cons.mp hpedido).resolve_left nofun)

theorem Atento.reasignar (h : r.Atento) {pid : Pid} {id tamanio : UInt32}
    (hfase : r.fase = .reasignar pid id tamanio) :
    (r.responder (Memoria.reasignar r.memoria pid id tamanio).2
      (Memoria.reasignar r.memoria pid id tamanio).1).Atento := by
  have hs := servido_reasignar (r := r) pid id tamanio
  refine h.seccion hs (fun _ hq ↦ hq) ?_ fun s hmem hready hliberado ↦
    hs.recordado (h.recordados s hmem hready hliberado) ?_ .inl
  · unfold enCurso
    rw [hfase]
    simp only [FaseMemoria.ocupada]
    omega
  · rw [hfase]
    nofun

/-- A notification is pushed while somebody will read it. -/
theorem Atento.empujar (h : r.Atento) (ht : t.esNotificacion = true) (hlector : r.ConLector)
    (fase : FaseMemoria) (hfase : fase.ocupada = r.fase.ocupada) (sticks : List (UInt32 × UInt32))
    (hrecordados : ∀ s ∈ r.suspendidos, s.suspReady = true → s.liberado = true →
      ({ r with fase := fase, sticksPorAvisar := sticks }.empujar t).Recordado s.pid) :
    ({ r with fase := fase, sticksPorAvisar := sticks }.empujar t).Atento where
  alineado := by
    have hcurso : ({ r with fase := fase, sticksPorAvisar := sticks }.empujar t).enCurso =
        r.enCurso := by
      unfold enCurso
      show _ + fase.ocupada + respuestas (r.aScheduler ++ [t]) = _
      rw [hfase, respuestas_append, respuestas_notificacion ht]
      rfl
    refine ⟨?_, fun hlibre ↦ ?_, h.alineado.suyo, h.alineado.propio, h.alineado.ajeno,
      h.alineado.exclusivo⟩
    · rw [hcurso]
      exact h.alineado.uno
    · rw [hcurso]
      exact h.alineado.libre hlibre
  distintos := h.distintos
  leidas := by
    refine leidas_append.mpr ⟨h.leidas, (leidas_notificacion ht).mpr ⟨fun _ ↦ ?_, trivial⟩⟩
    exact Nat.sub_pos_of_lt hlector
  recordados := hrecordados

theorem Atento.conectarStick (h : r.Atento) (stick : StickNuevo) (outSock : ℤ) :
    (r.conectarStick stick outSock).Atento := by
  unfold CanalMemoria.conectarStick
  split
  · exact h
  rename_i baseFisica _ _
  refine ⟨⟨h.alineado.uno, h.alineado.libre, h.alineado.suyo, h.alineado.propio, h.alineado.ajeno,
    h.alineado.exclusivo⟩, ?_, ?_, fun s _ _ _ ↦ ?_⟩
  · have hpids : (r.suspendidos.map fun s ↦ { s with liberado := true }).map Suspendido.pid =
        r.suspendidos.map Suspendido.pid := by
      rw [List.map_map]
      rfl
    show ((r.suspendidos.map fun s ↦ { s with liberado := true }).map Suspendido.pid).Nodup
    rw [hpids]
    exact h.distintos
  · apply h.leidas.mono
    refine lectores_le le_rfl (pedidosProximos_le .inl id ?_)
    exact cuenta_map _ _ fun s ↦ ⟨rfl, id⟩
  · refine .inl (.inr (.inr (.inr (.inr (.inl ?_)))))
    exact List.append_ne_nil_of_right_ne_nil _ (List.cons_ne_nil _ _)

end CanalMemoria

end PlugAndPlay.Planificador
