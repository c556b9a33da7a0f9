import PlugAndPlay.Library.Pointwise
import PlugAndPlay.Memoria.Scheduler

/-!
# The scheduler thread among other threads

The thread that serves the Kernel Scheduler, cut into its sections under `mutex_memoria`. Other
threads run between two sections, so `SOLICITAR_SEGMENTO` may find a different memory after it let
go of the mutex to wait for the acknowledgement of a compaction.
-/

open PlugAndPlay.Library

namespace PlugAndPlay.Memoria

/-- Where the thread is: between two requests, or in `compactar_y_reasignar` before and after the
compaction. -/
inductive Fase
  | libre
  | compactar (pid : ℤ) (id tamanio : UInt32)
  | reasignar (pid : ℤ) (id tamanio : UInt32)
deriving Repr, DecidableEq

structure HiloScheduler where
  memoria : KernelMemory
  fase : Fase

/-- The sections of the thread. -/
inductive Seccion
  | crearProceso (pid : ℤ) (instrucciones : List String)
  | solicitarSegmento (pid : ℤ) (id tamanio : UInt32)
  | compactar
  | reasignar
  | eliminarSegmento (pid : ℤ) (id : UInt32)
  | finalizarProceso (pid : ℤ)
deriving Repr, DecidableEq

def HiloScheduler.paso (qsort : Qsort) (h : HiloScheduler) : Seccion → Option HiloScheduler
  | .crearProceso pid instrucciones =>
    if h.fase = .libre then some ⟨(manejarCrearProceso h.memoria pid instrucciones).2, .libre⟩
    else none
  | .solicitarSegmento pid id tamanio =>
    if h.fase = .libre then
      match solicitarSinCompactar h.memoria pid id tamanio with
      | (some _, m) => some ⟨m, .libre⟩
      | (none, m) => some ⟨m, .compactar pid id tamanio⟩
    else none
  | .compactar =>
    match h.fase with
    | .compactar pid id tamanio =>
      some ⟨compactarMemoria qsort h.memoria, .reasignar pid id tamanio⟩
    | _ => none
  | .reasignar =>
    match h.fase with
    | .reasignar pid id tamanio => some ⟨(reasignar h.memoria pid id tamanio).2, .libre⟩
    | _ => none
  | .eliminarSegmento pid id =>
    if h.fase = .libre then some ⟨(manejarEliminarSegmento h.memoria pid id).2, .libre⟩ else none
  | .finalizarProceso pid =>
    if h.fase = .libre then some ⟨(manejarFinalizarProceso h.memoria pid).2, .libre⟩ else none

/-- What the steps of the thread do, one case for each way through a section. -/
inductive PasoScheduler (qsort : Qsort) : HiloScheduler → Seccion → HiloScheduler → Prop
  | crearProceso (m : KernelMemory) (pid : ℤ) (instrucciones : List String) :
    PasoScheduler qsort ⟨m, .libre⟩ (.crearProceso pid instrucciones)
      ⟨(manejarCrearProceso m pid instrucciones).2, .libre⟩
  | respondido {m m' : KernelMemory} {pid : ℤ} {id tamanio : UInt32} {respuesta : List Mensaje} :
    solicitarSinCompactar m pid id tamanio = (some respuesta, m') →
    PasoScheduler qsort ⟨m, .libre⟩ (.solicitarSegmento pid id tamanio) ⟨m', .libre⟩
  | demorado {m m' : KernelMemory} {pid : ℤ} {id tamanio : UInt32} :
    solicitarSinCompactar m pid id tamanio = (none, m') →
    PasoScheduler qsort ⟨m, .libre⟩ (.solicitarSegmento pid id tamanio)
      ⟨m', .compactar pid id tamanio⟩
  | compactar (m : KernelMemory) (pid : ℤ) (id tamanio : UInt32) :
    PasoScheduler qsort ⟨m, .compactar pid id tamanio⟩ .compactar
      ⟨compactarMemoria qsort m, .reasignar pid id tamanio⟩
  | reasignar (m : KernelMemory) (pid : ℤ) (id tamanio : UInt32) :
    PasoScheduler qsort ⟨m, .reasignar pid id tamanio⟩ .reasignar
      ⟨(reasignar m pid id tamanio).2, .libre⟩
  | eliminarSegmento (m : KernelMemory) (pid : ℤ) (id : UInt32) :
    PasoScheduler qsort ⟨m, .libre⟩ (.eliminarSegmento pid id)
      ⟨(manejarEliminarSegmento m pid id).2, .libre⟩
  | finalizarProceso (m : KernelMemory) (pid : ℤ) :
    PasoScheduler qsort ⟨m, .libre⟩ (.finalizarProceso pid)
      ⟨(manejarFinalizarProceso m pid).2, .libre⟩

theorem HiloScheduler.paso_cases {qsort : Qsort} {h h' : HiloScheduler} {seccion : Seccion}
    (hpaso : h.paso qsort seccion = some h') : PasoScheduler qsort h seccion h' := by
  obtain ⟨m, fase⟩ := h
  cases seccion with
  | crearProceso pid instrucciones =>
    simp only [paso, Option.ite_none_right_eq_some, Option.some.injEq] at hpaso
    obtain ⟨rfl, rfl⟩ := hpaso
    exact .crearProceso m pid instrucciones
  | solicitarSegmento pid id tamanio =>
    simp only [paso, Option.ite_none_right_eq_some] at hpaso
    obtain ⟨rfl, hpaso⟩ := hpaso
    split at hpaso <;> obtain rfl := Option.some.inj hpaso
    · exact .respondido ‹_›
    · exact .demorado ‹_›
  | compactar =>
    simp only [paso] at hpaso
    split at hpaso <;> cases hpaso
    exact .compactar m _ _ _
  | reasignar =>
    simp only [paso] at hpaso
    split at hpaso <;> cases hpaso
    exact .reasignar m _ _ _
  | eliminarSegmento pid id =>
    simp only [paso, Option.ite_none_right_eq_some, Option.some.injEq] at hpaso
    obtain ⟨rfl, rfl⟩ := hpaso
    exact .eliminarSegmento m pid id
  | finalizarProceso pid =>
    simp only [paso, Option.ite_none_right_eq_some, Option.some.injEq] at hpaso
    obtain ⟨rfl, rfl⟩ := hpaso
    exact .finalizarProceso m pid

/-! ## The tables the thread leaves alone -/

/-- The section does not change the segment table of the process, given that table. -/
def Seccion.Respeta (fase : Fase) (pid : ℤ) (segmentos : List Segmento) : Seccion → Prop
  | .crearProceso _ _ => True
  | .solicitarSegmento otro _ _ | .eliminarSegmento otro _ | .finalizarProceso otro => pid ≠ otro
  | .compactar => ∀ seg ∈ segmentos, ¬ seg.Residente
  | .reasignar =>
    match fase with
    | .reasignar otro _ _ => pid ≠ otro
    | _ => True

instance (fase : Fase) (pid : ℤ) (segmentos : List Segmento) (seccion : Seccion) :
    Decidable (seccion.Respeta fase pid segmentos) := by
  unfold Seccion.Respeta
  cases seccion <;> cases fase <;> infer_instance

section

variable {m m' : KernelMemory} {pid otro : ℤ}

/-- Compaction does not touch processes without an entry in its list. -/
theorem compactarEntradas_ajenas (lista : List SegEntrada) (cursor : UInt32) {i : ℕ}
    (h : ∀ e ∈ lista, e.proc ≠ i) :
    (compactarEntradas lista cursor m).2.procesos[i]? = m.procesos[i]? := by
  induction lista generalizing cursor m with
  | nil => rfl
  | cons e resto ih =>
    obtain ⟨he, hresto⟩ := List.forall_mem_cons.mp h
    rw [compactarEntradas, ih _ hresto, moverSegmento]
    split
    · rfl
    · rw [ponerBase, List.getElem?_modify]
      cases m.procesos[i]? <;> simp [he]

theorem compactarEntradas_sinBases (lista : List SegEntrada) (cursor : UInt32) :
    (compactarEntradas lista cursor m).2.procesos.map Proceso.sinBases =
      m.procesos.map Proceso.sinBases := by
  induction lista generalizing cursor m with
  | nil => rfl
  | cons e resto ih =>
    rw [compactarEntradas, ih, moverSegmento]
    split
    · rfl
    · exact sinBases_ponerBase _ _ _ _

/-- A process without a segment in RAM keeps its table. -/
theorem compactarMemoria_tabla (qsort : Qsort) {segmentos : List Segmento}
    (hp : tablaDe m.procesos pid = some segmentos) (hno : ∀ seg ∈ segmentos, ¬ seg.Residente) :
    tablaDe (compactarMemoria qsort m).procesos pid = some segmentos := by
  unfold compactarMemoria
  simp only
  split
  · exact hp
  split
  · exact hp
  obtain ⟨p, hbuscar, rfl⟩ := tablaDe_eq_some.mp hp
  obtain ⟨cursor, m₁, hcompacta⟩ : ∃ cursor m', compactarEntradas (qsort.ordenar (entradas m.procesos))
      0 m = (cursor, m') := ⟨_, _, rfl⟩
  have hsin := compactarEntradas_sinBases (m := m) (qsort.ordenar (entradas m.procesos)) 0
  rw [hcompacta] at hsin ⊢
  -- position by position: the same pid, and the same process where nothing is resident
  have hlargo := congrArg List.length hsin
  simp only [List.length_map] at hlargo
  have higuales : List.Forall₂ (fun q q' : Proceso ↦ q'.pid = q.pid ∧
      ((∀ seg ∈ q.segmentos, ¬ seg.Residente) → q' = q)) m.procesos m₁.procesos := by
    apply Pointwise.forall₂_of_getElem? hlargo.symm
    intro i q q' hq hq'
    constructor
    · have hi := congrArg (fun l ↦ l[i]?) hsin
      simp only [List.getElem?_map, hq, hq', Option.map_some, Option.some.injEq] at hi
      have hpid := congrArg Proceso.pid hi
      exact hpid
    · intro hno
      have hajenas : ∀ e ∈ qsort.ordenar (entradas m.procesos), e.proc ≠ i := by
        rintro e he rfl
        obtain ⟨hget, hres⟩ := mem_entradas.mp ((qsort.perm _).mem_iff.mp he)
        rw [segmentoEn, hq] at hget
        exact hno e.seg (List.mem_of_getElem? hget) hres
      have hi := compactarEntradas_ajenas (m := m) _ 0 hajenas
      rw [hcompacta, hq, hq'] at hi
      exact Option.some.inj hi
  obtain ⟨p', hp', _, hmismo⟩ := Pointwise.find?_of_forall₂ (g := fun q ↦ q.pid = pid) higuales
    (fun q q' hq ↦ by rw [hq.1]) hbuscar
  exact tablaDe_eq_some.mpr ⟨p', hp', by rw [hmismo hno]⟩

theorem tablaDe_agregarSegmento (libres : List BloqueLibre) (hotro : pid ≠ otro)
    (id base tamanio : UInt32) :
    tablaDe (agregarSegmento { m with bloquesLibres := libres } otro id base tamanio).procesos pid =
      tablaDe m.procesos pid :=
  tablaDe_otro hotro fun _ ↦ rfl

theorem tablaDe_solicitarSinCompactar {id tamanio : UInt32} {respuesta : Option (List Mensaje)}
    (h : solicitarSinCompactar m otro id tamanio = (respuesta, m')) (hotro : pid ≠ otro) :
    tablaDe m'.procesos pid = tablaDe m.procesos pid := by
  obtain rfl : (solicitarSinCompactar m otro id tamanio).2 = m' := congrArg Prod.snd h
  unfold solicitarSinCompactar
  split
  · rfl
  split
  · rfl
  simp only
  split
  · split <;> rfl
  · exact tablaDe_agregarSegmento _ hotro _ _ _

theorem tablaDe_reasignar (hotro : pid ≠ otro) (id tamanio : UInt32) :
    tablaDe (reasignar m otro id tamanio).2.procesos pid = tablaDe m.procesos pid := by
  unfold reasignar
  simp only
  split
  · rfl
  split
  · rfl
  · exact tablaDe_agregarSegmento _ hotro _ _ _

theorem tablaDe_eliminar (hotro : pid ≠ otro) (id : UInt32) :
    tablaDe (manejarEliminarSegmento m otro id).2.procesos pid = tablaDe m.procesos pid := by
  unfold manejarEliminarSegmento
  split
  · rfl
  split
  · rfl
  · exact tablaDe_otro hotro fun _ ↦ rfl

theorem tablaDe_finalizar (hotro : pid ≠ otro) :
    tablaDe (manejarFinalizarProceso m otro).2.procesos pid = tablaDe m.procesos pid := by
  unfold manejarFinalizarProceso
  split
  · rfl
  · exact tablaDe_quitar hotro

theorem PasoScheduler.tabla {qsort : Qsort} {h h' : HiloScheduler} {seccion : Seccion}
    {segmentos : List Segmento} (hpaso : PasoScheduler qsort h seccion h')
    (hp : tablaDe h.memoria.procesos pid = some segmentos)
    (hrespeta : seccion.Respeta h.fase pid segmentos) :
    tablaDe h'.memoria.procesos pid = some segmentos := by
  cases hpaso with
  | crearProceso m otro instrucciones =>
    obtain ⟨p, hbuscar, rfl⟩ := tablaDe_eq_some.mp hp
    refine tablaDe_eq_some.mpr ⟨p, ?_, rfl⟩
    unfold procesosBuscar at hbuscar ⊢
    simp only [manejarCrearProceso, List.find?_append, hbuscar, Option.some_or]
  | respondido hsolicitar | demorado hsolicitar =>
    exact (tablaDe_solicitarSinCompactar hsolicitar hrespeta).trans hp
  | compactar m otro id tamanio => exact compactarMemoria_tabla qsort hp hrespeta
  | reasignar m otro id tamanio => exact (tablaDe_reasignar hrespeta id tamanio).trans hp
  | eliminarSegmento m otro id => exact (tablaDe_eliminar hrespeta id).trans hp
  | finalizarProceso m otro => exact (tablaDe_finalizar hrespeta).trans hp

end

end PlugAndPlay.Memoria
