import PlugAndPlay.Planificador.NotificacionesLeidas

/-!
# Runs in which every notification has a reader

Each step of the scheduler and of Kernel Memory keeps what is needed for every notification to be read, as
long as a notification is pushed only while somebody will read it. Without that, the `MEMORIA_LIBERADA` of
the last process that ends stays in the socket.
-/

open PlugAndPlay.Library PlugAndPlay.Memoria

namespace PlugAndPlay.Planificador

namespace CanalMemoria

variable {qsort : Qsort} {r r' : CanalMemoria} {e : EventoCanal} {p : Pedido} {pid : Pid} {t : Trama}

/-! ## The end of a request -/

variable {ack : Option Trama}

theorem concluir_hilo (hespera : r.espera = some p) : r.concluir ack = r.concluirHilo p := by
  unfold concluir
  rw [hespera]

theorem concluir_pmp {candidatos : List Pid} (hespera : r.espera = none)
    (hpmp : r.pmp = .esperar p candidatos) : r.concluir ack = r.concluirPmp p candidatos ack := by
  unfold concluir
  rw [hespera, hpmp]

theorem concluir_nadie (hespera : r.espera = none) (hpmp : r.pmp.espera = false) :
    r.concluir ack = r := by
  unfold concluir
  rw [hespera]
  cases hfase : r.pmp with
  | esperar p candidatos =>
    rw [hfase] at hpmp
    cases hpmp
  | _ => rfl

/-- A property of the end of a request, by who waits for it. -/
theorem concluir_cases {P : CanalMemoria → Prop} (hexclusivo : r.espera ≠ none → r.pmp.espera = false)
    (hhilo : ∀ p, r.espera = some p → r.pmp.espera = false → P (r.concluirHilo p))
    (hpmp : ∀ p candidatos, r.espera = none → r.pmp = .esperar p candidatos →
      P (r.concluirPmp p candidatos ack))
    (hnadie : r.espera = none → r.pmp.espera = false → P r) : P (r.concluir ack) := by
  cases hespera : r.espera with
  | some p =>
    rw [concluir_hilo hespera]
    exact hhilo p hespera (hexclusivo (by rw [hespera]; nofun))
  | none =>
    cases hfase : r.pmp with
    | esperar p candidatos =>
      rw [concluir_pmp hespera hfase]
      exact hpmp p candidatos hespera hfase
    | despierto =>
      have hno : r.pmp.espera = false := by rw [hfase]; rfl
      rw [concluir_nadie hespera hno]
      exact hnadie hespera hno
    | recorrer propio candidatos =>
      have hno : r.pmp.espera = false := by rw [hfase]; rfl
      rw [concluir_nadie hespera hno]
      exact hnadie hespera hno

/-- The end of a request changes nothing in the socket or in Kernel Memory. -/
theorem concluir_canal (r : CanalMemoria) (ack : Option Trama) :
    (r.concluir ack).aMemoria = r.aMemoria ∧ (r.concluir ack).aScheduler = r.aScheduler ∧
      (r.concluir ack).fase = r.fase ∧ (r.concluir ack).sticksPorAvisar = r.sticksPorAvisar := by
  unfold concluir concluirHilo concluirPmp
  split
  · split <;> exact ⟨rfl, rfl, rfl, rfl⟩
  · split
    · split <;> exact ⟨rfl, rfl, rfl, rfl⟩
    · split <;> exact ⟨rfl, rfl, rfl, rfl⟩
    · exact ⟨rfl, rfl, rfl, rfl⟩
  · exact ⟨rfl, rfl, rfl, rfl⟩

theorem concluir_enCurso (r : CanalMemoria) (ack : Option Trama) :
    (r.concluir ack).enCurso = r.enCurso := by
  obtain ⟨hpedidos, htramas, hfase, _⟩ := concluir_canal r ack
  unfold enCurso
  rw [hpedidos, htramas, hfase]

/-- What the planner does next is a request of its own at most. -/
theorem concluirPmp_pmp (r : CanalMemoria) (p : Pedido) (candidatos : List Pid) (ack : Option Trama) :
    ∃ propio, (r.concluirPmp p candidatos ack).pmp = .recorrer propio candidatos ∧
      ∀ q, propio = some q → q.deSuspension = false := by
  unfold concluirPmp
  split
  · split
    · refine ⟨_, rfl, fun q hq ↦ ?_⟩
      obtain ⟨stdin, _, rfl⟩ := Option.map_eq_some_iff.mp hq
      rfl
    · exact ⟨none, rfl, nofun⟩
  · split
    · exact ⟨none, rfl, nofun⟩
    · refine ⟨_, rfl, fun q hq ↦ ?_⟩
      obtain rfl := Option.some.inj hq
      rfl
  · exact ⟨none, rfl, nofun⟩

theorem pedidosPmp_esperar {candidatos : List Pid} (hpmp : r.pmp = .esperar p candidatos) :
    r.pedidosPmp = candidatos.length + 1 := by
  unfold pedidosPmp
  rw [hpmp]

theorem pedidosPmp_recorrer {propio : Option Pedido} {candidatos : List Pid}
    (hpmp : r.pmp = .recorrer propio candidatos) :
    r.pedidosPmp = propio.toList.length + candidatos.length := by
  unfold pedidosPmp
  rw [hpmp]

theorem enPasada_esperar {candidatos : List Pid} (hpmp : r.pmp = .esperar p candidatos) :
    ∀ pid ∈ candidatos, pid ∈ r.enPasada := by
  intro pid hpid
  unfold enPasada
  rw [hpmp]
  cases p with
  | desSuspenderProceso _ => exact List.mem_cons_of_mem _ hpid
  | _ => exact hpid

/-- An answer is read by one reader. -/
theorem lectores_concluir (hexclusivo : r.espera ≠ none → r.pmp.espera = false) :
    r.lectores ≤ (r.concluir ack).lectores + 1 := by
  refine concluir_cases (P := fun r' ↦ r.lectores ≤ r'.lectores + 1) hexclusivo ?_ ?_ ?_
  · intro p hespera _
    have hproximos : r.pedidosProximos ≤ (r.concluirHilo p).pedidosProximos := by
      unfold concluirHilo
      simp only
      split
      · refine pedidosProximos_le (fun h ↦ .inl (Nat.succ_pos _)) id (cuenta_map _ _ fun s ↦ ?_)
        split <;> exact ⟨rfl, id⟩
      · exact pedidosProximos_le .inl id le_rfl
    have hresto : (r.concluirHilo p).espera = none ∧ (r.concluirHilo p).hilos = r.hilos ∧
        (r.concluirHilo p).pedidosPmp = r.pedidosPmp := by
      unfold concluirHilo
      split <;> exact ⟨rfl, rfl, rfl⟩
    unfold lectores
    rw [hespera, hresto.1, hresto.2.1, hresto.2.2, Option.toList_some, List.length_singleton,
      Option.toList_none, List.length_nil]
    omega
  · intro p candidatos hespera hpmp
    obtain ⟨propio, hrecorrer, _⟩ := concluirPmp_pmp r p candidatos ack
    have hresto : (r.concluirPmp p candidatos ack).espera = r.espera ∧
        (r.concluirPmp p candidatos ack).hilos = r.hilos ∧
        (r.concluirPmp p candidatos ack).semReevaluar = r.semReevaluar := by
      unfold concluirPmp
      split
      · split <;> exact ⟨rfl, rfl, rfl⟩
      · split <;> exact ⟨rfl, rfl, rfl⟩
      · exact ⟨rfl, rfl, rfl⟩
    have hproximos : r.pedidosProximos ≤ (r.concluirPmp p candidatos ack).pedidosProximos := by
      apply pedidosProximos_le
      · rw [hresto.2.2]
        exact .inl
      · rw [hpmp]
        nofun
      have hpasada : (r.concluirPmp p candidatos ack).enPasada = candidatos := by
        unfold enPasada
        rw [hrecorrer]
      rw [hpasada]
      have hcandidatos := cuenta_pasada r.suspendidos (enPasada_esperar hpmp)
      unfold concluirPmp
      split
      · rename_i pid
        split
        · have hpide : r.enPasada = pid :: candidatos := by
            unfold enPasada
            rw [hpmp]
          rw [hpide]
          exact cuenta_eraseP _ _ _
        · exact hcandidatos
      · split <;> exact hcandidatos
      · exact hcandidatos
    unfold lectores
    rw [hresto.1, hresto.2.1, pedidosPmp_esperar hpmp, pedidosPmp_recorrer hrecorrer]
    omega
  · intro _ _
    exact Nat.le_succ _

theorem pid_ne_of_mem_eraseP {lista : List Suspendido} (h : (lista.map Suspendido.pid).Nodup)
    {s : Suspendido} (hs : s ∈ lista.eraseP fun s ↦ s.pid = pid) : s.pid ≠ pid := by
  induction lista with
  | nil => cases hs
  | cons primero lista ih =>
    rw [List.map_cons, List.nodup_cons] at h
    by_cases hprimero : primero.pid = pid
    · rw [List.eraseP_cons_of_pos (by simpa using hprimero)] at hs
      intro hpid
      exact h.1 (List.mem_map.mpr ⟨s, hs, hpid.trans hprimero.symm⟩)
    · rw [List.eraseP_cons_of_neg (by simpa using hprimero)] at hs
      rcases List.mem_cons.mp hs with rfl | hs
      · exact hprimero
      · exact ih h.2 hs

theorem concluirHilo_pmp (r : CanalMemoria) (p : Pedido) : (r.concluirHilo p).pmp = r.pmp := by
  unfold concluirHilo
  split <;> rfl

theorem concluirHilo_suspendidos (r : CanalMemoria) (p : Pedido) : ∃ f : Suspendido → Suspendido,
    (∀ s, (f s).pid = s.pid ∧ (f s).suspReady = s.suspReady ∧ (f s).liberado = s.liberado) ∧
      (r.concluirHilo p).suspendidos = r.suspendidos.map f := by
  unfold concluirHilo
  split
  · refine ⟨_, fun s ↦ ?_, rfl⟩
    split <;> exact ⟨rfl, rfl, rfl⟩
  · exact ⟨fun s ↦ s, fun _ ↦ ⟨rfl, rfl, rfl⟩, (List.map_id' _).symm⟩

theorem concluirPmp_sublist (r : CanalMemoria) (p : Pedido) (candidatos : List Pid)
    (ack : Option Trama) : (r.concluirPmp p candidatos ack).suspendidos.Sublist r.suspendidos := by
  unfold concluirPmp
  split
  · split
    · exact List.eraseP_sublist
    · exact List.Sublist.refl _
  · split <;> exact List.Sublist.refl _
  · exact List.Sublist.refl _

/-- The process that waits for its answer was not refused, or will be tried again anyway. -/
def EnCamino (r : CanalMemoria) (ack : Option Trama) (pid : Pid) : Prop :=
  r.Avisado ∨ pid ∈ r.pmp.candidatos ∨ (∃ candidatos, r.pmp = .esperar (.desSuspenderProceso pid)
    candidatos) ∧ ack = some (.mensaje (.ok .desSuspenderProceso))

/-- Without the thread that waits, what announces a pass stays unless that thread was a timer. -/
theorem Avisado.concluirHilo (h : r.Avisado) (hespera : r.espera = some p) :
    (r.concluirHilo p).Avisado := by
  unfold CanalMemoria.concluirHilo
  split
  · exact avisado_notificarReevaluar
  · rename_i hno
    rcases h with h | h | h | h | h | ⟨pid, h⟩
    · exact .inl h
    · exact .inr (.inl h)
    · exact .inr (.inr (.inl h))
    · exact .inr (.inr (.inr (.inl h)))
    · exact .inr (.inr (.inr (.inr (.inl h))))
    · exact absurd (Option.some.inj (hespera.symm.trans h)) (hno pid)

theorem Avisado.concluirPmp (h : r.Avisado) {candidatos : List Pid}
    (hpmp : r.pmp = .esperar p candidatos) (ack : Option Trama) :
    (r.concluirPmp p candidatos ack).Avisado := by
  have hcanal : (r.concluirPmp p candidatos ack).semReevaluar = r.semReevaluar ∧
      (r.concluirPmp p candidatos ack).aScheduler = r.aScheduler ∧
      (r.concluirPmp p candidatos ack).fase = r.fase ∧
      (r.concluirPmp p candidatos ack).sticksPorAvisar = r.sticksPorAvisar ∧
      (r.concluirPmp p candidatos ack).espera = r.espera := by
    unfold CanalMemoria.concluirPmp
    split
    · split <;> exact ⟨rfl, rfl, rfl, rfl, rfl⟩
    · split <;> exact ⟨rfl, rfl, rfl, rfl, rfl⟩
    · exact ⟨rfl, rfl, rfl, rfl, rfl⟩
  unfold Avisado at *
  rw [hcanal.1, hcanal.2.1, hcanal.2.2.1, hcanal.2.2.2.1, hcanal.2.2.2.2]
  exact h.imp_right fun h ↦ .inr (h.resolve_left fun hno ↦ by cases hpmp.symm.trans hno)

/-- A process that the planner has resumed is not in the list any more. -/
theorem recordado_concluirPmp {candidatos : List Pid} (hpmp : r.pmp = .esperar p candidatos)
    (hdistintos : (r.suspendidos.map Suspendido.pid).Nodup) {s : Suspendido}
    (hs : s ∈ (r.concluirPmp p candidatos ack).suspendidos) (h : s ∈ r.suspendidos → r.EnCamino ack s.pid) :
    (r.concluirPmp p candidatos ack).Recordado s.pid := by
  obtain ⟨propio, hrecorrer, _⟩ := concluirPmp_pmp r p candidatos ack
  have hviejo : s ∈ r.suspendidos := (concluirPmp_sublist r p candidatos ack).subset hs
  rcases h hviejo with h | h | ⟨⟨otros, h⟩, hack⟩
  · exact .inl (h.concluirPmp hpmp ack)
  · rw [hpmp] at h
    refine .inr (.inl ?_)
    rw [hrecorrer]
    exact h
  · obtain ⟨rfl, -⟩ := FasePmp.esperar.inj (hpmp.symm.trans h)
    unfold CanalMemoria.concluirPmp at hs
    simp only [if_pos hack] at hs
    exact absurd rfl (pid_ne_of_mem_eraseP hdistintos hs)

theorem Atento.concluir (hcurso : r.enCurso = 0)
    (hpropio : ∀ p candidatos, r.pmp = .recorrer (some p) candidatos → p.deSuspension = false)
    (hajeno : ∀ p candidatos, r.pmp = .esperar p candidatos → ∀ pid, p ≠ .suspenderProceso pid)
    (hexclusivo : r.espera ≠ none → r.pmp.espera = false)
    (hdistintos : (r.suspendidos.map Suspendido.pid).Nodup)
    (hleidas : Leidas (r.lectores - 1) r.aScheduler)
    (hcamino : ∀ s ∈ r.suspendidos, s.suspReady = true → s.liberado = true → r.EnCamino ack s.pid) :
    (r.concluir ack).Atento := by
  obtain ⟨hpedidos, htramas, hfase, hsticks⟩ := concluir_canal r ack
  have hcero : (r.concluir ack).enCurso = 0 := (concluir_enCurso r ack).trans hcurso
  have hpendientes : r.aMemoria.countP AMemoria.esPedido = 0 := by
    unfold enCurso at hcurso
    omega
  refine ⟨⟨hcero.trans_le (Nat.zero_le 1), fun _ ↦ hcero, fun p hp ↦ ?_, ?_, ?_, ?_⟩, ?_, ?_, ?_⟩
  · rw [hpedidos] at hp
    exact absurd rfl (List.countP_eq_zero.mp hpendientes _ hp)
  · refine concluir_cases (P := fun r' ↦ ∀ p candidatos, r'.pmp = .recorrer (some p) candidatos →
      p.deSuspension = false) hexclusivo (fun q _ _ ↦ ?_) (fun q candidatos _ _ p otros hp ↦ ?_)
      fun _ _ ↦ hpropio
    · rw [concluirHilo_pmp]
      exact hpropio
    · obtain ⟨propio, hrecorrer, hpropios⟩ := concluirPmp_pmp r q candidatos ack
      obtain ⟨rfl, -⟩ := FasePmp.recorrer.inj (hrecorrer.symm.trans hp)
      exact hpropios p rfl
  · refine concluir_cases (P := fun r' ↦ ∀ p candidatos, r'.pmp = .esperar p candidatos → ∀ pid,
      p ≠ .suspenderProceso pid) hexclusivo (fun q _ _ ↦ ?_) (fun q candidatos _ _ p otros hp ↦ ?_)
      fun _ _ ↦ hajeno
    · rw [concluirHilo_pmp]
      exact hajeno
    · obtain ⟨propio, hrecorrer, _⟩ := concluirPmp_pmp r q candidatos ack
      cases hrecorrer.symm.trans hp
  · refine concluir_cases (P := fun r' ↦ r'.espera ≠ none → r'.pmp.espera = false) hexclusivo
      (fun q _ hno _ ↦ ?_) (fun q candidatos _ _ _ ↦ ?_) fun _ hno _ ↦ hno
    · rw [concluirHilo_pmp]
      exact hno
    · obtain ⟨propio, hrecorrer, _⟩ := concluirPmp_pmp r q candidatos ack
      rw [hrecorrer]
      rfl
  · refine concluir_cases (P := fun r' ↦ (r'.suspendidos.map Suspendido.pid).Nodup) hexclusivo
      (fun q _ _ ↦ ?_) (fun q candidatos _ _ ↦ ?_) fun _ _ ↦ hdistintos
    · obtain ⟨f, hf, hsuspendidos⟩ := concluirHilo_suspendidos r q
      rw [hsuspendidos, List.map_map]
      have hpids : r.suspendidos.map (Suspendido.pid ∘ f) = r.suspendidos.map Suspendido.pid :=
        List.map_congr_left fun s _ ↦ (hf s).1
      rw [hpids]
      exact hdistintos
    · exact hdistintos.sublist ((concluirPmp_sublist r q candidatos ack).map _)
  · rw [htramas]
    exact hleidas.mono (Nat.sub_le_of_le_add (lectores_concluir hexclusivo))
  · refine concluir_cases (P := fun r' ↦ ∀ s ∈ r'.suspendidos, s.suspReady = true → s.liberado = true →
      r'.Recordado s.pid) hexclusivo (fun q hespera hno s' hs' hready hliberado ↦ ?_)
      (fun q candidatos hespera hpmp s hs hready hliberado ↦ ?_) fun _ hno s hs hready hliberado ↦ ?_
    · obtain ⟨f, hf, hsuspendidos⟩ := concluirHilo_suspendidos r q
      rw [hsuspendidos] at hs'
      obtain ⟨s, hs, rfl⟩ := List.mem_map.mp hs'
      obtain ⟨hpid, hready', hliberado'⟩ := hf s
      rw [hpid]
      rcases hcamino s hs (hready'.symm.trans hready) (hliberado'.symm.trans hliberado) with
        h | h | ⟨⟨otros, h⟩, _⟩
      · exact .inl (h.concluirHilo hespera)
      · refine .inr (.inl ?_)
        rw [concluirHilo_pmp]
        exact h
      · rw [h] at hno
        cases hno
    · exact recordado_concluirPmp hpmp hdistintos hs fun hs ↦ hcamino s hs hready hliberado
    · rcases hcamino s hs hready hliberado with h | h | ⟨⟨otros, h⟩, _⟩
      · exact .inl h
      · exact .inr (.inl h)
      · rw [h] at hno
        cases hno

/-! ## Reading the socket -/

theorem enCurso_respuesta {resto : List Trama} (htramas : r.aScheduler = t :: resto)
    (ht : t.esNotificacion = false) : r.enCurso = enCurso { r with aScheduler := resto } + 1 := by
  unfold enCurso
  rw [htramas, respuestas_respuesta ht]
  rfl

/-- The one request under way is answered: there is no other answer and no request in the socket. -/
theorem Atento.respuesta (h : r.Atento) {resto : List Trama} (htramas : r.aScheduler = t :: resto)
    (ht : t.esNotificacion = false) : ({ r with aScheduler := resto }.concluir (some t)).Atento := by
  have huno := h.alineado.uno
  have hcurso := enCurso_respuesta htramas ht
  have hcero : enCurso { r with aScheduler := resto } = 0 := by omega
  refine Atento.concluir hcero h.alineado.propio h.alineado.ajeno h.alineado.exclusivo h.distintos ?_
    fun s hs hready hliberado ↦ ?_
  · have hleidas := h.leidas
    rw [htramas, leidas_respuesta ht] at hleidas
    exact hleidas
  · have hpendientes : r.aMemoria.countP AMemoria.esPedido = 0 ∧ respuestas resto = 0 := by
      have hsuma : r.aMemoria.countP AMemoria.esPedido + r.fase.ocupada + respuestas resto = 0 := hcero
      omega
    rcases h.recordados s hs hready hliberado with h | h | ⟨hintento, h | h⟩
    · refine .inl ?_
      rcases h with h | h | ⟨u, hu, hreevalua⟩ | h
      · exact .inl h
      · exact .inr (.inl h)
      · rw [htramas] at hu
        rcases List.mem_cons.mp hu with rfl | hu
        · rw [Trama.esNotificacion_of_reevalua hreevalua] at ht
          cases ht
        · exact .inr (.inr (.inl ⟨u, hu, hreevalua⟩))
      · exact .inr (.inr (.inr h))
    · exact .inr (.inl h)
    · exact absurd rfl (List.countP_eq_zero.mp hpendientes.1 _ h)
    · rw [htramas] at h
      rcases List.mem_cons.mp h with h | h
      · exact .inr (.inr ⟨hintento, by rw [h]⟩)
      · exact absurd rfl (List.countP_eq_zero.mp hpendientes.2 _ h)

theorem Atento.agotar (h : r.Atento) (htramas : r.aScheduler = []) (hpedidos : r.aMemoria = [])
    (hfase : r.fase = .libre ∨ r.fase = .notificar) : (r.concluir none).Atento := by
  refine Atento.concluir ?_ h.alineado.propio h.alineado.ajeno h.alineado.exclusivo h.distintos ?_
    fun s hs hready hliberado ↦ ?_
  · unfold enCurso
    rw [htramas, hpedidos]
    rcases hfase with hfase | hfase <;> rw [hfase] <;> rfl
  · rw [htramas]
    trivial
  · rcases h.recordados s hs hready hliberado with h | h | ⟨_, h | h⟩
    · exact .inl h
    · exact .inr (.inl h)
    · rw [hpedidos] at h
      cases h
    · rw [htramas] at h
      cases h

/-- A notification is handled: another pass of the planner, an acknowledgement, or the end. -/
theorem Atento.notificacion (h : r.Atento) {resto : List Trama} (htramas : r.aScheduler = t :: resto)
    (ht : t.esNotificacion = true) : ({ r with aScheduler := resto }.manejar t).Atento := by
  have hcurso : enCurso { r with aScheduler := resto } = r.enCurso := by
    unfold enCurso
    rw [htramas, respuestas_notificacion ht]
  have hleidas : Leidas r.lectores resto := by
    have hleidas := h.leidas
    rw [htramas, leidas_notificacion ht] at hleidas
    exact hleidas.2
  have hqueda : t.reevalua = false → ∀ pid, r.Recordado pid →
      Recordado { r with aScheduler := resto } pid := by
    intro hno pid hrecordado
    rcases hrecordado with h | h | ⟨hintento, h⟩
    · refine .inl ?_
      rcases h with h | h | ⟨u, hu, hreevalua⟩ | h
      · exact .inl h
      · exact .inr (.inl h)
      · rw [htramas] at hu
        rcases List.mem_cons.mp hu with rfl | hu
        · rw [hno] at hreevalua
          cases hreevalua
        · exact .inr (.inr (.inl ⟨u, hu, hreevalua⟩))
      · exact .inr (.inr (.inr h))
    · exact .inr (.inl h)
    · refine .inr (.inr ⟨hintento, h.imp_right fun h ↦ ?_⟩)
      rw [htramas] at h
      rcases List.mem_cons.mp h with rfl | h
      · cases ht
      · exact h
  unfold manejar
  split
  · refine ⟨⟨hcurso.trans_le h.alineado.uno, fun hlibre ↦ hcurso.trans (h.alineado.libre hlibre),
      h.alineado.suyo, h.alineado.propio, h.alineado.ajeno, h.alineado.exclusivo⟩, h.distintos, hleidas,
      fun s hs hready hliberado ↦ ?_⟩
    exact hqueda rfl s.pid (h.recordados s hs hready hliberado)
  · have hacuse : enCurso { r with
        aScheduler := resto, aMemoria := r.aMemoria ++ [.okCompactacion] } = r.enCurso := by
      rw [← hcurso]
      unfold enCurso
      simp only [List.countP_append]
      rfl
    refine ⟨⟨hacuse.trans_le h.alineado.uno, fun hlibre ↦ hacuse.trans (h.alineado.libre hlibre),
      fun p hp ↦ ?_, h.alineado.propio, h.alineado.ajeno, h.alineado.exclusivo⟩, h.distintos, hleidas,
      fun s hs hready hliberado ↦ ?_⟩
    · exact h.alineado.suyo p ((List.mem_append.mp hp).resolve_right (by simp))
    · refine (hqueda rfl s.pid (h.recordados s hs hready hliberado)).mono rfl (fun hantes ↦ ?_)
        (fun _ hx ↦ List.mem_append_left _ hx) id
      exact hantes.mono le_rfl rfl (fun _ hx ↦ hx) id id rfl
  · refine ⟨⟨hcurso.trans_le h.alineado.uno, fun hlibre ↦ hcurso.trans (h.alineado.libre hlibre),
      h.alineado.suyo, h.alineado.propio, h.alineado.ajeno, h.alineado.exclusivo⟩, h.distintos,
      hleidas.mono ?_, fun _ _ _ _ ↦ .inl avisado_notificarReevaluar⟩
    exact lectores_le le_rfl (pedidosProximos_le (fun _ ↦ .inl (Nat.succ_pos _)) id le_rfl)

/-! ## Threads of the scheduler -/

/-- The mutex is free: the request that is sent is the only one. -/
theorem Alineado.enviar (h : r.Alineado) (hlibre : r.SocketLibre) {espera : Option Pedido}
    {pmp : FasePmp} (hilos : List Pedido) (hocupa : espera = some p ∧ pmp = r.pmp ∨
      espera = none ∧ (∃ candidatos, pmp = .esperar p candidatos) ∧ ∀ pid, p ≠ .suspenderProceso pid) :
    ({ r with espera := espera, hilos := hilos, pmp := pmp }.enviar p).Alineado := by
  have hcero := h.libre hlibre
  have hcurso : ({ r with espera := espera, hilos := hilos, pmp := pmp }.enviar p).enCurso =
      r.enCurso + 1 := by
    unfold enCurso CanalMemoria.enviar
    simp only [List.countP_append]
    show _ + 1 + r.fase.ocupada + respuestas r.aScheduler = _
    omega
  have hpendientes : r.aMemoria.countP AMemoria.esPedido = 0 := by
    unfold enCurso at hcero
    omega
  refine ⟨by omega, fun hno ↦ ?_, fun q hq ↦ ?_, fun q candidatos hq ↦ ?_, fun q candidatos hq ↦ ?_,
    fun hno ↦ ?_⟩
  · obtain ⟨hespera, hpmp⟩ := hno
    rcases hocupa with ⟨rfl, _⟩ | ⟨_, ⟨candidatos, rfl⟩, _⟩
    · cases hespera
    · cases hpmp
  · rcases List.mem_append.mp hq with hq | hq
    · exact absurd rfl (List.countP_eq_zero.mp hpendientes _ hq)
    · obtain rfl := AMemoria.pedido.inj (List.mem_singleton.mp hq)
      rcases hocupa with ⟨rfl, _⟩ | ⟨_, hpmp, _⟩
      · exact .inl rfl
      · exact .inr hpmp
  · rcases hocupa with ⟨_, rfl⟩ | ⟨_, ⟨otros, rfl⟩, _⟩
    · exact h.propio q candidatos hq
    · cases hq
  · rcases hocupa with ⟨_, rfl⟩ | ⟨_, ⟨otros, rfl⟩, hp⟩
    · exact h.ajeno q candidatos hq
    · obtain ⟨rfl, _⟩ := FasePmp.esperar.inj hq
      exact hp
  · rcases hocupa with ⟨_, rfl⟩ | ⟨rfl, _⟩
    · exact hlibre.2
    · exact absurd rfl hno

theorem Atento.pedir (h : r.Atento) {i : ℕ} (hp : r.hilos[i]? = some p) (hlibre : r.SocketLibre) :
    ({ r with espera := some p, hilos := r.hilos.eraseIdx i }.enviar p).Atento := by
  refine ⟨h.alineado.enviar hlibre _ (.inl ⟨rfl, rfl⟩), h.distintos, h.leidas.mono ?_,
    fun s hs hready hliberado ↦ ?_⟩
  · obtain ⟨hi, _⟩ := List.getElem?_eq_some_iff.mp hp
    refine lectores_le ?_ (pedidosProximos_le .inl id le_rfl)
    have hlargo := List.length_eraseIdx_of_lt hi
    show r.espera.toList.length + r.hilos.length + r.pedidosPmp ≤
      1 + (r.hilos.eraseIdx i).length + r.pedidosPmp
    rw [hlibre.1, Option.toList_none, List.length_nil, hlargo]
    omega
  · refine (h.recordados s hs hready hliberado).mono rfl (fun havisado ↦ ?_)
      (fun _ hx ↦ List.mem_append_left _ hx) id
    rcases havisado with h | h | h | h | h | ⟨pid, h⟩
    · exact .inl h
    · exact .inr (.inl h)
    · exact .inr (.inr (.inl h))
    · exact .inr (.inr (.inr (.inl h)))
    · exact .inr (.inr (.inr (.inr (.inl h))))
    · cases h.symm.trans hlibre.1

/-- The planner sends a request; who else is ahead in its pass stays so. -/
theorem Atento.pedirPmp (h : r.Atento) (hlibre : r.SocketLibre) {candidatos : List Pid}
    (hp : ∀ pid, p ≠ .suspenderProceso pid) (hpide : r.pedidosPmp ≤ candidatos.length + 1)
    (hpasada : enPasada { r with pmp := .esperar p candidatos } = r.enPasada)
    (hdespierto : r.pmp ≠ .despierto)
    (hcandidatos : ∀ pid ∈ r.pmp.candidatos, pid ∈ candidatos ∨ p = .desSuspenderProceso pid) :
    ({ r with pmp := .esperar p candidatos }.enviar p).Atento := by
  refine ⟨h.alineado.enviar hlibre _ (.inr ⟨hlibre.1, ⟨candidatos, rfl⟩, hp⟩), h.distintos,
    h.leidas.mono ?_, fun s hs hready hliberado ↦ ?_⟩
  · refine lectores_le (Nat.add_le_add_left hpide _)
      (pedidosProximos_le .inl (fun hno ↦ absurd hno hdespierto) (Nat.le_of_eq ?_))
    rw [← hpasada]
    rfl
  · rcases h.recordados s hs hready hliberado with h | h | ⟨⟨otros, h⟩, _⟩
    · exact .inl (h.imp_right fun h ↦ .inr (h.resolve_left hdespierto))
    · rcases hcandidatos s.pid h with h | rfl
      · exact .inr (.inl h)
      · refine .inr (.inr ⟨⟨candidatos, rfl⟩, .inl ?_⟩)
        exact List.mem_append_right _ (List.mem_singleton_self _)
    · have hno := hlibre.2
      rw [h] at hno
      cases hno

theorem Atento.suspender (h : r.Atento) {pid : Pid} (prioridadDinamica tiempo : ℤ)
    (hpid : ∀ s ∈ r.suspendidos, s.pid ≠ pid) :
    Atento { r with
      activos := r.activos - 1
      suspendidos := r.suspendidos ++ [⟨pid, false, false, prioridadDinamica, tiempo, none, true⟩]
      hilos := r.hilos ++ [.suspenderProceso pid] } := by
  refine ⟨⟨h.alineado.uno, h.alineado.libre, h.alineado.suyo, h.alineado.propio, h.alineado.ajeno,
    h.alineado.exclusivo⟩, ?_, h.leidas.mono ?_, fun s hs hready hliberado ↦ ?_⟩
  · simp only [List.map_append, List.map_cons, List.map_nil]
    refine List.nodup_append.mpr ⟨h.distintos, List.nodup_singleton _, ?_⟩
    intro a ha b hb
    obtain ⟨s, hs, rfl⟩ := List.mem_map.mp ha
    rw [List.mem_singleton.mp hb]
    exact hpid s hs
  · refine lectores_le ?_ (pedidosProximos_le .inl id ?_)
    · show _ ≤ r.espera.toList.length + (r.hilos ++ [Pedido.suspenderProceso pid]).length + r.pedidosPmp
      rw [List.length_append]
      omega
    · show _ ≤ (r.suspendidos ++ [_]).countP fun s : Suspendido ↦ s.suspReady ∧ s.pid ∉ r.enPasada
      rw [List.countP_append]
      exact Nat.le_add_right _ _
  · rcases List.mem_append.mp hs with hs | hs
    · exact h.recordados s hs hready hliberado
    · rw [List.mem_singleton.mp hs] at hready
      cases hready

theorem Atento.terminarIo (h : r.Atento) (pid : Pid) (stdin : Option StdinPendiente) :
    (r.modificarSuspendido pid fun s ↦
      { s with suspReady := true, stdinPendiente := stdin }).notificarReevaluar.Atento := by
  refine ⟨⟨h.alineado.uno, h.alineado.libre, h.alineado.suyo, h.alineado.propio, h.alineado.ajeno,
    h.alineado.exclusivo⟩, ?_, h.leidas.mono ?_, fun _ _ _ _ ↦ .inl avisado_notificarReevaluar⟩
  · unfold notificarReevaluar modificarSuspendido
    simp only [List.map_map]
    have hpids : r.suspendidos.map (Suspendido.pid ∘ fun s ↦ if s.pid = pid then
        { s with suspReady := true, stdinPendiente := stdin } else s) =
          r.suspendidos.map Suspendido.pid := by
      refine List.map_congr_left fun s _ ↦ ?_
      rw [Function.comp_apply]
      split <;> rfl
    rw [hpids]
    exact h.distintos
  · refine lectores_le le_rfl (pedidosProximos_le (fun _ ↦ .inl (Nat.succ_pos _)) id
      (cuenta_map _ _ fun s ↦ ?_))
    split
    · exact ⟨rfl, fun _ ↦ rfl⟩
    · exact ⟨rfl, id⟩

theorem Atento.despertar (h : r.Atento) (hpmp : r.pmp = .recorrer none []) :
    Atento { r with semReevaluar := r.semReevaluar - 1, pmp := .despierto } := by
  refine ⟨⟨h.alineado.uno, fun hlibre ↦ ?_, fun p hp ↦ ?_, nofun, nofun, fun _ ↦ rfl⟩, h.distintos,
    h.leidas.mono ?_, fun _ _ _ _ ↦ .inl (.inr (.inl rfl))⟩
  · exact h.alineado.libre ⟨hlibre.1, by rw [hpmp]; rfl⟩
  · rcases h.alineado.suyo p hp with h | ⟨candidatos, h⟩
    · exact .inl h
    · cases hpmp.symm.trans h
  · refine lectores_le ?_ (pedidosProximos_le (fun _ ↦ .inr rfl) (fun _ ↦ rfl) ?_)
    · rw [pedidosPmp_recorrer hpmp]
      exact le_rfl
    · unfold enPasada
      rw [hpmp]

theorem Atento.evaluar (h : r.Atento) (hpmp : r.pmp = .despierto) :
    Atento { r with pmp := .recorrer none r.candidatos } := by
  refine ⟨⟨h.alineado.uno, fun hlibre ↦ ?_, fun p hp ↦ ?_, nofun, nofun, fun _ ↦ rfl⟩, h.distintos,
    h.leidas.mono ?_, fun s hs hready _ ↦ .inr (.inl (mem_candidatos hs hready))⟩
  · exact h.alineado.libre ⟨hlibre.1, by rw [hpmp]; rfl⟩
  · rcases h.alineado.suyo p hp with h | ⟨candidatos, h⟩
    · exact .inl h
    · cases hpmp.symm.trans h
  · -- what the pass ahead was to find is what it has found
    have hcuenta : r.pedidosProximos = r.candidatos.length := by
      unfold pedidosProximos candidatos enPasada
      rw [if_pos (.inr hpmp), hpmp, List.length_map, List.length_insertionSort, List.countP_eq_length_filter]
      simp
    have hcero : r.pedidosPmp = 0 := by
      unfold pedidosPmp
      rw [hpmp]
    show r.espera.toList.length + r.hilos.length + r.pedidosPmp + r.pedidosProximos ≤
      r.espera.toList.length + r.hilos.length + (0 + r.candidatos.length) + _
    rw [hcuenta, hcero]
    omega

/-! ## Runs -/

theorem Atento.paso (h : r.Atento) (havisa : r.AvisaConLector e) (hpaso : PasoCanal qsort r e r') :
    r'.Atento := by
  have hmismos : ∀ (activos : ℕ) (nuevos : List Pedido),
      Atento { r with activos := activos, hilos := r.hilos ++ nuevos } := by
    intro activos nuevos
    refine ⟨⟨h.alineado.uno, h.alineado.libre, h.alineado.suyo, h.alineado.propio, h.alineado.ajeno,
      h.alineado.exclusivo⟩, h.distintos, h.leidas.mono ?_, h.recordados⟩
    refine lectores_le ?_ (pedidosProximos_le .inl id le_rfl)
    show _ ≤ r.espera.toList.length + (r.hilos ++ nuevos).length + r.pedidosPmp
    rw [List.length_append]
    omega
  cases hpaso with
  | activar =>
    have hnadie := hmismos (r.activos + 1) []
    rw [List.append_nil] at hnadie
    exact hnadie
  | desactivar =>
    have hnadie := hmismos (r.activos - 1) []
    rw [List.append_nil] at hnadie
    exact hnadie
  | disponer hp => exact hmismos _ _
  | suspender hpid => exact h.suspender _ _ hpid
  | terminarIo => exact h.terminarIo _ _
  | pedir hp hlibre => exact h.pedir hp hlibre
  | @pedirPropio p candidatos hlibre hpmp =>
    have hpropio := h.alineado.propio p candidatos hpmp
    refine h.pedirPmp hlibre (fun pid hp ↦ ?_) ?_ ?_ ?_ fun pid hpid ↦ ?_
    · rw [hp] at hpropio
      cases hpropio
    · rw [pedidosPmp_recorrer hpmp, Option.toList_some, List.length_singleton, Nat.add_comm]
    · unfold enPasada
      rw [hpmp]
      cases p with
      | desSuspenderProceso pid => cases hpropio
      | _ => rfl
    · rw [hpmp]
      nofun
    · rw [hpmp] at hpid
      exact .inl hpid
  | @pedirCandidato pid candidatos hlibre hpmp =>
    refine h.pedirPmp hlibre nofun ?_ ?_ ?_ fun otro hotro ↦ ?_
    · rw [pedidosPmp_recorrer hpmp]
      exact Nat.le_of_eq (Nat.zero_add _)
    · unfold enPasada
      rw [hpmp]
    · rw [hpmp]
      nofun
    · rw [hpmp] at hotro
      rcases List.mem_cons.mp hotro with rfl | hotro
      · exact .inr rfl
      · exact .inl hotro
  | notificacion htramas ht => exact h.notificacion htramas ht
  | respuesta htramas ht => exact h.respuesta htramas ht
  | agotar htramas hpedidos hfase => exact h.agotar htramas hpedidos hfase
  | despertar _ hpmp => exact h.despertar hpmp
  | evaluar hpmp => exact h.evaluar hpmp
  | servir hfase hcola => exact h.servir hfase hcola
  | compactar hfase hcola => exact h.compactar hfase hcola _
  | reasignar hfase => exact h.reasignar hfase
  | notificar hfase =>
    refine h.empujar rfl havisa .libre (by rw [hfase]; rfl) r.sticksPorAvisar fun _ _ _ _ ↦ .inl ?_
    exact .inr (.inr (.inl ⟨_, List.mem_append_right _ (List.mem_singleton_self _), rfl⟩))
  | conectarStick => exact h.conectarStick _ _
  | avisarStick hi =>
    refine h.empujar rfl havisa r.fase rfl _ fun _ _ _ _ ↦ .inl ?_
    exact .inr (.inr (.inl ⟨_, List.mem_append_right _ (List.mem_singleton_self _), rfl⟩))
  | corromper =>
    refine h.empujar rfl havisa r.fase rfl r.sticksPorAvisar fun s hs hready hliberado ↦ ?_
    refine (h.recordados s hs hready hliberado).mono rfl (fun hantes ↦ ?_) (fun _ hx ↦ hx)
      fun hx ↦ List.mem_append_left _ hx
    exact hantes.mono le_rfl rfl (fun _ hx ↦ List.mem_append_left _ hx) id id rfl

theorem Arranque.atento (h : r.Arranque) : r.Atento := by
  obtain ⟨hfase, _, hpedidos, htramas, hespera, _, hsuspendidos, hpmp⟩ := h
  have hcero : r.enCurso = 0 := by
    unfold enCurso
    rw [hfase, hpedidos, htramas]
    rfl
  refine ⟨⟨by omega, fun _ ↦ hcero, ?_, ?_, ?_, ?_⟩, ?_, ?_, ?_⟩
  · rw [hpedidos]
    nofun
  · rw [hpmp]
    nofun
  · rw [hpmp]
    nofun
  · rw [hpmp]
    exact fun _ ↦ rfl
  · rw [hsuspendidos]
    exact List.nodup_nil
  · rw [htramas]
    trivial
  · rw [hsuspendidos]
    nofun

/-- Nobody reads any more, and nothing announces another pass. -/
theorem Atento.avisosAtendidos (h : r.Atento) : r.AvisosAtendidos := by
  rintro ⟨_, _, hhilos, hlibre, hpmp, hsem, hpedidos, hfase, hsticks⟩
  have hcero : r.lectores = 0 := by
    unfold lectores pedidosProximos
    rw [hlibre.1, hhilos, pedidosPmp_recorrer hpmp, hsem, if_neg (by rw [hpmp]; simp)]
    rfl
  have hleidas := h.leidas
  rw [hcero] at hleidas
  have hsin := sinAvisos_of_leidas hleidas
  refine ⟨hsin, fun s hs holvidado ↦ ?_⟩
  rcases h.recordados s hs holvidado.1 holvidado.2.1 with h | h | ⟨⟨candidatos, h⟩, _⟩
  · rcases h with h | h | ⟨t, ht, hreevalua⟩ | h | h | ⟨pid, h⟩
    · rw [hsem] at h
      exact absurd h (lt_irrefl 0)
    · cases hpmp.symm.trans h
    · have haviso : t.esAviso = true := by rw [Trama.esAviso, hreevalua, Bool.true_or]
      rw [hsin t ht] at haviso
      cases haviso
    · cases hfase.symm.trans h
    · exact h hsticks
    · cases hlibre.1.symm.trans h
  · rw [hpmp] at h
    cases h
  · cases hpmp.symm.trans h

/-- When notifications are pushed only while somebody will read them, none is left unread. -/
theorem avisosAtendidos_conLector (qsort : Qsort) (r : CanalMemoria)
    (h : Reachable (CanalMemoria.paso qsort) Arranque AvisaConLector r) : r.AvisosAtendidos :=
  (h.invariant (fun _ ↦ Arranque.atento) fun _ _ _ hatento havisa hpaso ↦
    hatento.paso havisa (paso_cases hpaso)).avisosAtendidos

/-- Four bytes of memory and a swap file. -/
def canalDeCuatro : CanalMemoria where
  memoria := registrarMemoryStick
    ⟨⟨100, none⟩, [], [], ⟨[], [], 0⟩, registrarSwap ⟨3, 2, 16, fun _ ↦ 0, [], configurado_ocho_bloques⟩⟩
    ⟨5, 4, "127.0.0.1", "9000", fun _ ↦ 0⟩ 6
  fase := .libre
  sticksPorAvisar := []
  aMemoria := []
  aScheduler := []
  espera := none
  hilos := []
  activos := 0
  suspendidos := []
  semReevaluar := 0
  pmp := .recorrer none []
  detenido := false

theorem arranque_canalDeCuatro : canalDeCuatro.Arranque := ⟨rfl, rfl, rfl, rfl, rfl, rfl, rfl, rfl⟩

/-- A request of a thread, from `mutex_memory_socket` to the answer. -/
def ida (p : Pedido) : List EventoCanal := [.disponer p, .pedir 0, .servir, .leer]

/-- Process 1 has the whole memory, is suspended, and cannot come back because process 0 has it. -/
def hastaElRechazo : List EventoCanal :=
  .activar :: ida (.crearProceso 0 []) ++ ida (.crearProceso 1 []) ++ ida (.solicitarSegmento 1 0 4) ++
    [.suspender 1 0 0, .pedir 0, .servir, .leer] ++ ida (.solicitarSegmento 0 0 4) ++
    [.despertar, .evaluar, .terminarIo 1 none, .despertar, .evaluar, .pedirPmp, .servir, .leer]

/-- The memory of process 0 is freed while another thread is about to ask for something: the planner is
told, and resumes process 1. -/
theorem avisosAtendidos_otroPedido : ∃ r, Reachable (CanalMemoria.paso .insercion) Arranque
    AvisaConLector r ∧ r.EnReposo ∧ r.suspendidos = [] ∧ r.AvisosAtendidos := by
  have hinicio : Reachable (CanalMemoria.paso .insercion) Arranque AvisaConLector canalDeCuatro :=
    .start arranque_canalDeCuatro
  obtain ⟨r, hr, hreposo, hvacia⟩ := hinicio.exists_of_runAllowed
    (hastaElRechazo ++ [.disponer (.finalizarProceso 0), .pedir 0, .servir, .leer, .activar,
      .disponer (.crearProceso 2 []), .notificar, .pedir 0, .servir, .leer, .leer, .desactivar,
      .desactivar, .despertar, .evaluar, .pedirPmp, .servir, .leer])
    (fun r ↦ r.EnReposo ∧ r.suspendidos = []) (by decide)
  exact ⟨r, hr, hreposo, hvacia, avisosAtendidos_conLector .insercion r hr⟩

/-- Process 0 ends and nothing else happens: `MEMORIA_LIBERADA` comes after the answer, nobody reads it,
and process 1 stays in SUSP_READY although it fits. -/
theorem memoriaLiberada_sinLeer : ¬ ∀ (qsort : Qsort) (r : CanalMemoria),
    Reachable (CanalMemoria.paso qsort) Arranque (fun _ _ ↦ True) r → r.AvisosAtendidos := by
  intro hclaim
  have hinicio : Reachable (CanalMemoria.paso .insercion) Arranque (fun _ _ ↦ True) canalDeCuatro :=
    .start arranque_canalDeCuatro
  obtain ⟨r, hr, hreposo, htramas, _⟩ := hinicio.exists_of_runAllowed
    (hastaElRechazo ++ ida (.finalizarProceso 0) ++ [.notificar, .desactivar])
    (fun r ↦ r.EnReposo ∧ .mensaje (.ok .memoriaLiberada) ∈ r.aScheduler ∧
      ∃ s ∈ r.suspendidos, r.Olvidado s) (by decide)
  have haviso := (hclaim .insercion r hr hreposo).1 _ htramas
  cases haviso

end CanalMemoria

end PlugAndPlay.Planificador
