import PlugAndPlay.Memoria.HiloScheduler
import PlugAndPlay.Memoria.ParticionOperaciones

/-!
# Sticks that register while the scheduler thread works

A registration puts the stick into the table under one lock and its bytes into the free list under
another. Compaction rebuilds the free list from the table, so a compaction between the two gives
the bytes of the stick away before the registration adds them.
-/

open PlugAndPlay.Library ByteRange

namespace PlugAndPlay.Memoria

/-- A `registrar_memory_stick` after its insertion: before `bloques_agregar`, or before the outbound
connection. -/
inductive Registro
  | sinBloque (idx : ℕ) (baseFisica tamanio : UInt32)
  | sinConexion (idx : ℕ)
deriving Repr, DecidableEq

/-- The bytes a registration has still to add to the free list. -/
def Registro.rangos : Registro → List ByteRange
  | .sinBloque _ baseFisica tamanio => [⟨baseFisica.toNat, tamanio.toNat⟩]
  | .sinConexion _ => []

def apartados (registros : List Registro) : List ByteRange := registros.flatMap Registro.rangos

/-- The scheduler thread and the registrations under way. -/
structure HilosRegistro where
  scheduler : HiloScheduler
  registros : List Registro

inductive EventoRegistro
  | scheduler (seccion : Seccion)
  | insertar (stick : StickNuevo)
  | bloque (registro : ℕ)
  | conexion (registro : ℕ) (outSock : ℤ)

def HilosRegistro.conMemoria (s : HilosRegistro) (m : KernelMemory) (registros : List Registro) :
    HilosRegistro :=
  ⟨⟨m, s.scheduler.fase⟩, registros⟩

def HilosRegistro.paso (qsort : Qsort) (s : HilosRegistro) : EventoRegistro → Option HilosRegistro
  | .scheduler seccion =>
    (s.scheduler.paso qsort seccion).map fun h ↦ { s with scheduler := h }
  | .insertar stick =>
    match registrarInsertar s.scheduler.memoria stick with
    | none => some s
    | some (idx, baseFisica, m) =>
      some (s.conMemoria m (s.registros ++ [.sinBloque idx baseFisica stick.tamanio]))
  | .bloque registro =>
    match s.registros[registro]? with
    | some (.sinBloque idx baseFisica tamanio) =>
      some (s.conMemoria (registrarBloque s.scheduler.memoria baseFisica tamanio)
        (s.registros.modify registro fun _ ↦ .sinConexion idx))
    | _ => none
  | .conexion registro outSock =>
    match s.registros[registro]? with
    | some (.sinConexion idx) =>
      some (s.conMemoria (registrarOutbound s.scheduler.memoria idx outSock)
        (s.registros.eraseIdx registro))
    | _ => none

/-- Kernel Memory after `*_init`. -/
def HilosRegistro.Inicial (s : HilosRegistro) : Prop :=
  s.scheduler.memoria.procesos = [] ∧ s.scheduler.memoria.bloquesLibres = [] ∧
    s.scheduler.memoria.ram.tabla = [] ∧ s.scheduler.fase = .libre ∧ s.registros = []

/-- The sticks stay below `2 ^ 32` bytes, and a compaction that finds a segment falls between no
insertion of a stick with bytes and its block. -/
def HilosRegistro.SinCruce (s : HilosRegistro) : EventoRegistro → Prop
  | .scheduler .compactar =>
    (∃ p ∈ s.scheduler.memoria.procesos, p.segmentos ≠ []) →
      ∀ range ∈ apartados s.registros, range.size = 0
  | .insertar stick => sumaSticks s.scheduler.memoria.ram.tabla + stick.tamanio.toNat < 2 ^ 32
  | _ => True

instance (s : HilosRegistro) : (e : EventoRegistro) → Decidable (s.SinCruce e)
  | .scheduler .compactar => inferInstanceAs (Decidable ((∃ _ ∈ _, _) → _))
  | .scheduler (.crearProceso _ _) | .scheduler (.solicitarSegmento _ _ _)
  | .scheduler .reasignar | .scheduler (.eliminarSegmento _ _)
  | .scheduler (.finalizarProceso _) => inferInstanceAs (Decidable True)
  | .insertar _ => inferInstanceAs (Decidable (_ < _))
  | .bloque _ | .conexion _ _ => inferInstanceAs (Decidable True)

/-! ## The ranges set aside -/

/-- The process a request waits for is there. -/
def Fase.Vigente (procesos : List Proceso) : Fase → Prop
  | .libre => True
  | .compactar pid _ _ | .reasignar pid _ _ => ∃ p, procesosBuscar procesos pid = some p

theorem apartados_modify {registros : List Registro} {n idx : ℕ} {base tamanio : UInt32}
    (h : registros[n]? = some (.sinBloque idx base tamanio)) :
    (apartados registros).Perm
      (⟨base.toNat, tamanio.toNat⟩ :: apartados (registros.modify n fun _ ↦ .sinConexion idx)) := by
  obtain ⟨antes, despues, rfl, hmod⟩ := ListModify.modify_split h
  rw [hmod]
  simp only [apartados, List.flatMap_append, List.flatMap_cons, Registro.rangos, List.nil_append]
  exact List.perm_middle

theorem apartados_eraseIdx {registros : List Registro} {n idx : ℕ}
    (h : registros[n]? = some (.sinConexion idx)) :
    apartados (registros.eraseIdx n) = apartados registros := by
  induction registros generalizing n with
  | nil => rfl
  | cons registro resto ih =>
    cases n with
    | zero =>
      obtain rfl := Option.some.inj h
      rfl
    | succ n =>
      have hresto : apartados (resto.eraseIdx n) = apartados resto := ih h
      unfold apartados at hresto ⊢
      rw [List.eraseIdx_cons_succ, List.flatMap_cons, hresto, List.flatMap_cons]

theorem hits_apartados {registros : List Registro}
    (h : ∀ range ∈ apartados registros, range.size = 0) (address : ℕ) :
    hits (apartados registros) address = 0 := by
  rw [hits_eq_zero_iff]
  intro range hr hcontains
  have := h range hr
  unfold Contains at hcontains
  omega

theorem procesos_registrarInsertar {m m' : KernelMemory} {stick : StickNuevo} {idx : ℕ}
    {base : UInt32} (h : registrarInsertar m stick = some (idx, base, m')) :
    m'.procesos = m.procesos := by
  unfold registrarInsertar at h
  split at h <;> cases h
  rfl

/-! ## The invariant -/

/-- Free blocks, resident segments and the ranges set aside share no byte and cover all sticks. -/
structure HilosRegistro.Ordenado (s : HilosRegistro) : Prop where
  repartida : Repartida False False (apartados s.registros) s.scheduler.memoria []
  vigente : s.scheduler.fase.Vigente s.scheduler.memoria.procesos

theorem HilosRegistro.Ordenado.scheduler {qsort : Qsort} {s : HilosRegistro} {h' : HiloScheduler}
    {seccion : Seccion} (h : s.Ordenado) (hsin : s.SinCruce (.scheduler seccion))
    (hpaso : PasoScheduler qsort s.scheduler seccion h') :
    HilosRegistro.Ordenado { s with scheduler := h' } := by
  obtain ⟨t, registros⟩ := s
  obtain ⟨hrep, hvigente⟩ := h
  cases hpaso with
  | crearProceso m pid instrucciones => exact ⟨hrep.crear instrucciones, trivial⟩
  | respondido hsolicitar => exact ⟨hrep.respondido nofun hsolicitar, trivial⟩
  | demorado hsolicitar =>
    have hrep' := hrep.demorado hsolicitar
    obtain ⟨p, _, hp, _, rfl⟩ := solicitarSinCompactar_none hsolicitar
    exact ⟨hrep', p, hp⟩
  | compactar m pid id tamanio =>
    obtain ⟨p, hp⟩ := hvigente
    obtain ⟨p', hp', _⟩ := (hrep.compactada qsort).encontrado hp
    exact ⟨hrep.compactar (fun hex ↦ hits_apartados (hsin hex)) qsort, p', hp'⟩
  | reasignar m pid id tamanio =>
    obtain ⟨p, hp⟩ := hvigente
    exact ⟨hrep.reasignar hp nofun id tamanio, trivial⟩
  | eliminarSegmento m pid id => exact ⟨hrep.eliminar List.not_mem_nil id, trivial⟩
  | finalizarProceso m pid => exact ⟨hrep.finalizar, trivial⟩

theorem HilosRegistro.Ordenado.paso {qsort : Qsort} {s s' : HilosRegistro} {e : EventoRegistro}
    (h : s.Ordenado) (hsin : s.SinCruce e) (hpaso : s.paso qsort e = some s') : s'.Ordenado := by
  cases e with
  | scheduler seccion =>
    obtain ⟨t, ht, rfl⟩ := Option.map_eq_some_iff.mp hpaso
    exact h.scheduler hsin (HiloScheduler.paso_cases ht)
  | insertar stick =>
    simp only [HilosRegistro.paso] at hpaso
    split at hpaso <;> obtain rfl := Option.some.inj hpaso
    · exact h
    · rename_i idx base m hinsertar
      have hprocesos := procesos_registrarInsertar hinsertar
      refine ⟨?_, ?_⟩
      · refine (h.repartida.registrarInsertar hsin hinsertar).perm ?_
        show (_ :: apartados s.registros).Perm (apartados (s.registros ++ [_]))
        rw [apartados, apartados, List.flatMap_append]
        exact (List.perm_append_singleton _ _).symm
      · show s.scheduler.fase.Vigente m.procesos
        rw [hprocesos]
        exact h.vigente
  | bloque registro =>
    simp only [HilosRegistro.paso] at hpaso
    split at hpaso <;> cases hpaso
    rename_i idx base tamanio hregistro
    exact ⟨h.repartida.registrarBloque (apartados_modify hregistro), h.vigente⟩
  | conexion registro outSock =>
    simp only [HilosRegistro.paso] at hpaso
    split at hpaso <;> cases hpaso
    rename_i idx hregistro
    refine ⟨?_, ?_⟩
    · show Repartida False False (apartados (s.registros.eraseIdx registro)) _ []
      rw [apartados_eraseIdx hregistro]
      exact h.repartida.registrarOutbound idx outSock
    · show s.scheduler.fase.Vigente (registrarOutbound _ _ _).procesos
      unfold registrarOutbound
      split <;> exact h.vigente

/-- In every run in which no compaction falls into the registration of a stick, free blocks and
resident segments share no byte. -/
theorem registro_sin_solapes (qsort : Qsort) (s : HilosRegistro)
    (h : Reachable (HilosRegistro.paso qsort) HilosRegistro.Inicial HilosRegistro.SinCruce s) :
    Packed s.scheduler.memoria.ocupacion (sumaSticks s.scheduler.memoria.ram.tabla) := by
  have hordenado : s.Ordenado := by
    apply h.invariant (P := HilosRegistro.Ordenado)
    · rintro ⟨⟨m, fase⟩, registros⟩ ⟨hprocesos, hlibres, htabla, rfl, rfl⟩
      exact ⟨Repartida.inicial hprocesos hlibres htabla, trivial⟩
    · intro t e t' ht hsin hpaso
      exact ht.paso hsin hpaso
  exact hordenado.repartida.ocupacion

/-- Kernel Memory as it starts. -/
def hilosIniciales : HilosRegistro where
  scheduler := ⟨corridaInicial.memoria, .libre⟩
  registros := []

theorem hilosIniciales_inicial : hilosIniciales.Inicial := ⟨rfl, rfl, rfl, rfl, rfl⟩

/-- One stick is registered, and a process has a segment of two bytes behind a hole of three. -/
def eventosHueco : List EventoRegistro :=
  [.insertar stickDeOcho, .bloque 0, .conexion 0 5, .scheduler (.crearProceso 1 []),
    .scheduler (.solicitarSegmento 1 0 3), .scheduler (.solicitarSegmento 1 1 2),
    .scheduler (.eliminarSegmento 1 0)]

def stickDeCuatro : StickNuevo := ⟨2, 4, "", "", fun _ ↦ 0⟩

/-- A second stick that registers while the request for a compaction is acknowledged. -/
theorem registro_sin_solapes_dosSticks :
    ∃ s : HilosRegistro, (s.scheduler.memoria.bloquesLibres = [⟨7, 5⟩] ∧
        tablaDe s.scheduler.memoria.procesos 1 = some [⟨1, 0, 2, 0⟩, ⟨2, 2, 5, 0⟩]) ∧
      Packed s.scheduler.memoria.ocupacion (sumaSticks s.scheduler.memoria.ram.tabla) := by
  have hinicio : Reachable (HilosRegistro.paso .insercion) HilosRegistro.Inicial
      HilosRegistro.SinCruce hilosIniciales := .start hilosIniciales_inicial
  obtain ⟨s, hs, hfin⟩ := hinicio.exists_of_runAllowed
    (eventosHueco ++ [.scheduler (.solicitarSegmento 1 2 5), .insertar stickDeCuatro, .bloque 0,
      .scheduler .compactar, .conexion 0 6, .scheduler .reasignar])
    (fun s ↦ s.scheduler.memoria.bloquesLibres = [⟨7, 5⟩] ∧
      tablaDe s.scheduler.memoria.procesos 1 = some [⟨1, 0, 2, 0⟩, ⟨2, 2, 5, 0⟩]) (by decide)
  exact ⟨s, hfin, registro_sin_solapes .insercion s hs⟩

/-- The compaction falls between the insertion of the second stick and its block: its bytes come
into the free list twice. -/
theorem registro_duplica_bytes :
    ¬ ∀ (qsort : Qsort) (s : HilosRegistro),
      Reachable (HilosRegistro.paso qsort) HilosRegistro.Inicial (fun _ _ ↦ True) s →
        ∀ address, hits s.scheduler.memoria.ocupacion address ≤ 1 := by
  intro hclaim
  have hinicio : Reachable (HilosRegistro.paso .insercion) HilosRegistro.Inicial (fun _ _ ↦ True)
      hilosIniciales := .start hilosIniciales_inicial
  obtain ⟨s, hs, hdos⟩ := hinicio.exists_of_runAllowed
    (eventosHueco ++ [.scheduler (.solicitarSegmento 1 2 5), .insertar stickDeCuatro,
      .scheduler .compactar, .bloque 0])
    (fun s ↦ hits s.scheduler.memoria.ocupacion 8 = 2) (by decide)
  have huna := hclaim .insercion s hs 8
  omega

end PlugAndPlay.Memoria
