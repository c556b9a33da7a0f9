import PlugAndPlay.Memoria.DireccionesSticks
import PlugAndPlay.Memoria.RegistroSticks

/-!
# Every request of the scheduler thread among registrations of sticks

`RegistroSticks` has the requests that move ranges at once. Here the scheduler thread also suspends and resumes
processes, in the sections the source cuts these requests into, and reads and writes for them, and any of the
transfers may fail. What stays is that free blocks, resident segments and the ranges still set aside share no
byte and lie within the sticks, and that a registration under way has its stick, with no connection yet.
-/

open PlugAndPlay.Library ByteRange

namespace PlugAndPlay.Memoria

/-- Where the thread is in a suspension or a resumption. The segment at a position has its blocks and is copied;
it is copied and waits for `mutex_memoria`; or all segments have their new places and are copied back. -/
inductive Traslado
  | ninguno
  | volcar (pid : ℤ) (i : ℕ)
  | liberar (pid : ℤ) (i : ℕ)
  | transferir (pid : ℤ)
deriving Repr, DecidableEq

structure HilosRam where
  hilos : HilosRegistro
  traslado : Traslado

/-- `OBTENER_ESPACIO_LIBRE` changes nothing and is left out. -/
inductive EventoRam
  | hilos (evento : EventoRegistro)
  | registrarSwap (nuevo : SwapNuevo)
  | suspenderProceso (pid : ℤ)
  | volcarSegmento
  | liberarSegmento
  | desSuspenderProceso (pid : ℤ)
  | transferirSegmentos
  | lecturaMemoria (pid : ℤ) (dir tamanio : UInt32)
  | escrituraMemoria (pid : ℤ) (dir tamanio : UInt32) (datos : List UInt8)

/-! ## The sections -/

/-- `list_get(proc->segmentos, i)` of the process with a pid. -/
def KernelMemory.segmento (m : KernelMemory) (pid : ℤ) (i : ℕ) : Option Segmento :=
  (procesosBuscar m.procesos pid).bind fun p ↦ p.segmentos[i]?

def KernelMemory.cambiarSegmento (m : KernelMemory) (pid : ℤ) (i : ℕ) (f : Segmento → Segmento) : KernelMemory :=
  { m with
    procesos := procesosModificar pid (fun p ↦ { p with segmentos := p.segmentos.modify i f }) m.procesos }

/-- A round of the loop of `manejar_suspender_proceso` up to `pthread_mutex_unlock`. It ends the request past the
last segment, or without blocks. -/
def KernelMemory.reservarBloques (m : KernelMemory) (pid : ℤ) (i : ℕ) : KernelMemory × Traslado :=
  match m.segmento pid i with
  | none => (m, .ninguno)
  | some seg =>
    let (bloqueInicio, swap) := swapReservarBloques m.swap (cantidadBloques seg.limite m.swap.blockSize)
    if bloqueInicio = sinBase then (m, .ninguno)
    else
      ({ m with swap := swap }.cambiarSegmento pid i fun s ↦ { s with swapBloqueInicio := bloqueInicio },
        .volcar pid i)

/-- The rest of the round, once the mutex is back. -/
def KernelMemory.liberarSegmento (m : KernelMemory) (pid : ℤ) (i : ℕ) (seg : Segmento) : KernelMemory :=
  { m with bloquesLibres := bloquesLiberar m.bloquesLibres seg.base seg.limite }.cambiarSegmento pid i
    fun s ↦ { s with base := sinBase }

/-- `manejar_des_suspender_proceso` up to the transfer. -/
def KernelMemory.reservarReanudacion (m : KernelMemory) (pid : ℤ) : KernelMemory × Traslado :=
  match procesosBuscar m.procesos pid with
  | none => (m, .ninguno)
  | some proc =>
    if m.swap.socket < 0 then (m, .ninguno)
    else
      match reservarSegmentosConRollback m.config.worstFit proc.segmentos m.bloquesLibres with
      | (none, libres) => ({ m with bloquesLibres := libres }, .ninguno)
      | (some segmentos, libres) =>
        (ponerSegmentos { m with bloquesLibres := libres } pid segmentos, .transferir pid)

namespace HilosRam

abbrev memoria (s : HilosRam) : KernelMemory := s.hilos.scheduler.memoria

/-- The thread waits for the next request. -/
def Libre (s : HilosRam) : Prop := s.traslado = .ninguno ∧ s.hilos.scheduler.fase = .libre

instance (s : HilosRam) : Decidable s.Libre := inferInstanceAs (Decidable (_ ∧ _))

def con (s : HilosRam) (m : KernelMemory) (traslado : Traslado) : HilosRam :=
  ⟨s.hilos.conMemoria m s.hilos.registros, traslado⟩

def paso (qsort : Qsort) (s : HilosRam) : EventoRam → Option HilosRam
  | .hilos (.scheduler seccion) =>
    if s.traslado = .ninguno then
      (s.hilos.paso qsort (.scheduler seccion)).map fun hilos ↦ { s with hilos := hilos }
    else none
  | .hilos evento => (s.hilos.paso qsort evento).map fun hilos ↦ { s with hilos := hilos }
  | .registrarSwap nuevo => some (s.con { s.memoria with swap := registrarSwap nuevo } s.traslado)
  | .suspenderProceso pid =>
    if s.Libre then
      if s.memoria.swap.socket < 0 then some s
      else
        let (m, traslado) := s.memoria.reservarBloques pid 0
        some (s.con m traslado)
    else none
  | .volcarSegmento =>
    match s.traslado with
    | .volcar pid i =>
      (s.memoria.segmento pid i).map fun seg ↦
        match volcarSegmentoASwap seg s.memoria with
        | (false, m) => s.con m .ninguno
        | (true, m) => s.con m (.liberar pid i)
    | _ => none
  | .liberarSegmento =>
    match s.traslado with
    | .liberar pid i =>
      (s.memoria.segmento pid i).map fun seg ↦
        let (m, traslado) := (s.memoria.liberarSegmento pid i seg).reservarBloques pid (i + 1)
        s.con m traslado
    | _ => none
  | .desSuspenderProceso pid =>
    if s.Libre then
      let (m, traslado) := s.memoria.reservarReanudacion pid
      some (s.con m traslado)
    else none
  | .transferirSegmentos =>
    match s.traslado with
    | .transferir pid =>
      (procesosBuscar s.memoria.procesos pid).map fun p ↦
        s.con (transferirSwapARam p.segmentos s.memoria).2 .ninguno
    | _ => none
  | .lecturaMemoria pid dir tamanio =>
    if s.Libre then some (s.con (manejarLecturaMemoria s.memoria pid dir tamanio).2 .ninguno) else none
  | .escrituraMemoria pid dir tamanio datos =>
    if s.Libre then some (s.con (manejarEscrituraMemoria s.memoria pid dir tamanio datos).2 .ninguno) else none

/-- Kernel Memory after `*_init`. -/
def Inicial (s : HilosRam) : Prop := s.hilos.Inicial ∧ s.traslado = .ninguno

/-- The conditions of `HilosRegistro.SinCruce`, and no segment without a place in RAM goes to the free list. -/
def SinCruce (s : HilosRam) : EventoRam → Prop
  | .hilos (.scheduler (.eliminarSegmento pid id)) =>
    ∀ p ∈ procesosBuscar s.memoria.procesos pid, ∀ seg ∈ p.segmentos.find? fun seg ↦ seg.id = id, seg.Residente
  | .hilos evento => s.hilos.SinCruce evento
  | .liberarSegmento =>
    match s.traslado with
    | .liberar pid i => ∀ seg ∈ s.memoria.segmento pid i, seg.Residente
    | _ => True
  | _ => True

end HilosRam

instance : (s : HilosRam) → (e : EventoRam) → Decidable (s.SinCruce e)
  | s, .hilos (.scheduler (.eliminarSegmento pid _)) =>
    inferInstanceAs (Decidable (∀ p ∈ procesosBuscar s.memoria.procesos pid, ∀ seg ∈ p.segmentos.find? _, _))
  | s, .hilos (.scheduler (.crearProceso pid instrucciones)) =>
    inferInstanceAs (Decidable (s.hilos.SinCruce (.scheduler (.crearProceso pid instrucciones))))
  | s, .hilos (.scheduler (.solicitarSegmento pid id tamanio)) =>
    inferInstanceAs (Decidable (s.hilos.SinCruce (.scheduler (.solicitarSegmento pid id tamanio))))
  | s, .hilos (.scheduler .compactar) => inferInstanceAs (Decidable (s.hilos.SinCruce (.scheduler .compactar)))
  | s, .hilos (.scheduler .reasignar) => inferInstanceAs (Decidable (s.hilos.SinCruce (.scheduler .reasignar)))
  | s, .hilos (.scheduler (.finalizarProceso pid)) =>
    inferInstanceAs (Decidable (s.hilos.SinCruce (.scheduler (.finalizarProceso pid))))
  | s, .hilos (.insertar stick) => inferInstanceAs (Decidable (s.hilos.SinCruce (.insertar stick)))
  | s, .hilos (.bloque n) => inferInstanceAs (Decidable (s.hilos.SinCruce (.bloque n)))
  | s, .hilos (.conexion n outSock) => inferInstanceAs (Decidable (s.hilos.SinCruce (.conexion n outSock)))
  | ⟨hilos, .liberar pid i⟩, .liberarSegmento =>
    inferInstanceAs (Decidable (∀ seg ∈ hilos.scheduler.memoria.segmento pid i, seg.Residente))
  | ⟨_, .ninguno⟩, .liberarSegmento | ⟨_, .volcar _ _⟩, .liberarSegmento
  | ⟨_, .transferir _⟩, .liberarSegmento => inferInstanceAs (Decidable True)
  | _, .registrarSwap _ | _, .suspenderProceso _ | _, .volcarSegmento | _, .desSuspenderProceso _
  | _, .transferirSegmentos | _, .lecturaMemoria _ _ _ | _, .escrituraMemoria _ _ _ _ =>
    inferInstanceAs (Decidable True)

/-! ## The table of the sticks -/

section

variable {m m' : KernelMemory} {pid : ℤ} {id tamanio : UInt32}

theorem ram_solicitarSinCompactar {respuesta : Option (List Mensaje)}
    (h : solicitarSinCompactar m pid id tamanio = (respuesta, m')) : m'.ram = m.ram := by
  obtain rfl : (solicitarSinCompactar m pid id tamanio).2 = m' := congrArg Prod.snd h
  unfold solicitarSinCompactar
  split
  · rfl
  split
  · rfl
  simp only
  split
  · split <;> rfl
  · rfl

theorem ram_reasignar (m : KernelMemory) (pid : ℤ) (id tamanio : UInt32) :
    (reasignar m pid id tamanio).2.ram = m.ram := by
  unfold reasignar
  simp only
  split
  · rfl
  split <;> rfl

theorem ram_manejarEliminarSegmento (m : KernelMemory) (pid : ℤ) (id : UInt32) :
    (manejarEliminarSegmento m pid id).2.ram = m.ram := by
  unfold manejarEliminarSegmento
  split
  · rfl
  split <;> rfl

theorem ram_manejarFinalizarProceso (m : KernelMemory) (pid : ℤ) :
    (manejarFinalizarProceso m pid).2.ram = m.ram := by
  unfold manejarFinalizarProceso
  split <;> rfl

theorem registrarInsertar_eq_some {stick : StickNuevo} {idx : ℕ} {base : UInt32}
    (h : registrarInsertar m stick = some (idx, base, m')) :
    idx = m.ram.tabla.length ∧ m'.ram.tabla = m.ram.tabla ++
      [⟨stick.socket, stick.tamanio, stick.ip, stick.puerto, base, -1, stick.memoria⟩] := by
  unfold registrarInsertar conexionesAgregarStick at h
  by_cases hlleno : maxMemorySticks ≤ m.ram.tabla.length
  · rw [if_pos hlleno] at h
    cases h
  · rw [if_neg hlleno] at h
    cases h
    exact ⟨rfl, rfl⟩

end

/-! ## What a section does to the ranges -/

/-- Free blocks, resident segments and the ranges set aside share no byte and lie within the sticks, whichever
processes are in RAM and whatever was lost. -/
def EnSticks (apartados : List ByteRange) (m : KernelMemory) : Prop :=
  ∃ suspendidos, Repartida True True apartados m suspendidos

/-- A section that moves ranges within the sticks, or loses some, and registers no stick. -/
structure Reacomoda (m m' : KernelMemory) : Prop where
  enSticks : ∀ apartados, EnSticks apartados m → EnSticks apartados m'
  tabla : MismaTabla m'.ram.tabla m.ram.tabla

section

variable {m m' : KernelMemory} {apartados : List ByteRange} {suspendidos : List ℤ} {pid : ℤ} {p : Proceso}
  {seg : Segmento} {i : ℕ}

theorem Reacomoda.refl (m : KernelMemory) : Reacomoda m m := ⟨fun _ h ↦ h, MismaTabla.refl _⟩

theorem Reacomoda.trans {m₂ : KernelMemory} (h : Reacomoda m m') (h' : Reacomoda m' m₂) : Reacomoda m m₂ where
  enSticks apartados hm := h'.enSticks apartados (h.enSticks apartados hm)
  tabla := h'.tabla.trans h.tabla

theorem SoloDispositivos.reacomoda (h : SoloDispositivos m m') : Reacomoda m m' where
  enSticks := fun _ ⟨suspendidos, hm⟩ ↦ ⟨suspendidos, hm.dispositivos h⟩
  tabla := h.tabla

/-- Without another device, other swap data change no range. -/
theorem Repartida.conSwap (h : Repartida True True apartados m suspendidos) (swap : Swap) :
    Repartida True True apartados { m with swap := swap } suspendidos :=
  h.cambiar rfl (fun _ ↦ Or.inl rfl) h.within_libres h.tablas

theorem reacomoda_conSwap (m : KernelMemory) (swap : Swap) : Reacomoda m { m with swap := swap } where
  enSticks := fun _ ⟨suspendidos, hm⟩ ↦ ⟨suspendidos, hm.conSwap swap⟩
  tabla := MismaTabla.refl _

theorem segmento_eq_some :
    m.segmento pid i = some seg ↔ ∃ p, procesosBuscar m.procesos pid = some p ∧ p.segmentos[i]? = some seg :=
  Option.bind_eq_some_iff

/-- The number of its first block is no part of where a segment is. -/
theorem Repartida.numerar (h : Repartida True True apartados m suspendidos) (hseg : m.segmento pid i = some seg)
    (bloqueInicio : UInt32) :
    Repartida True True apartados (m.cambiarSegmento pid i fun s ↦ { s with swapBloqueInicio := bloqueInicio })
      suspendidos := by
  obtain ⟨p, hp, hget⟩ := segmento_eq_some.mp hseg
  refine h.cambiar rfl ?_ h.within_libres ?_
  · intro address
    obtain ⟨antes, despues, hlista, hmod⟩ := ListModify.modify_split hget
    have htabla := hits_procesosModificar hp (fun p ↦ { p with
      segmentos := p.segmentos.modify i fun s ↦ { s with swapBloqueInicio := bloqueInicio } }) address
    have hmismo : hits (if ({ seg with swapBloqueInicio := bloqueInicio } : Segmento).Residente then
        [({ seg with swapBloqueInicio := bloqueInicio } : Segmento).rango] else []) address =
          hits (if seg.Residente then [seg.rango] else []) address := rfl
    simp only [hmod] at htabla
    simp only [hlista, rangosSegmentos_append, rangosSegmentos_cons, hits_append] at htabla
    left
    simp only [KernelMemory.hits_ocupacion, KernelMemory.cambiarSegmento]
    omega
  · apply h.tablas.modificar hp rfl fun _ _ ↦ Iff.rfl
    · intro hno
      exact ListModify.forall_mem_modify (h.segmentos_le hp hno) _ _ (fun _ _ hs ↦ hs) fun _ hs ↦ hs
    · intro hsusp
      exact ListModify.forall_mem_modify (h.segmentos_suspendido hp hsusp) _ _ (fun _ _ hs ↦ hs) fun _ hs ↦ hs

theorem reacomoda_reservarBloques (m : KernelMemory) (pid : ℤ) (i : ℕ) :
    Reacomoda m (m.reservarBloques pid i).1 := by
  unfold KernelMemory.reservarBloques
  split
  · exact Reacomoda.refl m
  · rename_i seg hseg
    simp only
    split
    · exact Reacomoda.refl m
    · constructor
      · rintro apartados ⟨suspendidos, h⟩
        have hreservada := h.conSwap
          (swapReservarBloques m.swap (cantidadBloques seg.limite m.swap.blockSize)).2
        exact ⟨suspendidos, hreservada.numerar hseg _⟩
      · exact MismaTabla.refl _

theorem Repartida.residente_le (h : Repartida True True apartados m suspendidos)
    (hp : procesosBuscar m.procesos pid = some p) :
    ∀ seg ∈ p.segmentos, seg.Residente → seg.base.toNat + seg.limite.toNat ≤ sumaSticks m.ram.tabla := by
  intro seg hseg hres
  by_cases hsusp : pid ∈ suspendidos
  · exact (h.segmentos_suspendido hp hsusp seg hseg hres).2
  · exact h.segmentos_le hp hsusp seg hseg

/-- The segment that is deleted is in RAM. -/
theorem Repartida.eliminarResidente (h : Repartida True True apartados m suspendidos) {id : UInt32}
    (hres : ∀ p ∈ procesosBuscar m.procesos pid, ∀ seg ∈ p.segmentos.find? fun seg ↦ seg.id = id, seg.Residente) :
    Repartida True True apartados (manejarEliminarSegmento m pid id).2 suspendidos :=
  h.eliminarDentro fun p hp seg hseg ↦ h.residente_le hp seg (List.mem_of_find?_eq_some hseg) (hres p hp seg hseg)

/-- A copied segment that was in RAM gives its range back. -/
theorem reacomoda_liberarSegmento (hseg : m.segmento pid i = some seg) (hres : seg.Residente) :
    Reacomoda m (m.liberarSegmento pid i seg) := by
  refine ⟨?_, MismaTabla.refl _⟩
  rintro apartados ⟨suspendidos, h⟩
  obtain ⟨p, hp, hget⟩ := segmento_eq_some.mp hseg
  have hsegs := h.residente_le hp
  have hfin := hsegs seg (List.mem_of_getElem? hget) hres
  obtain ⟨hlibres, hhits⟩ := bloquesLiberar_rangos _ _ h.suma h.within_libres hfin
  have hotros : ∀ q, q ≠ pid → (q ∈ pid :: suspendidos ↔ q ∈ suspendidos) := by
    intro q hq
    simp [hq]
  refine ⟨pid :: suspendidos, h.cambiar rfl ?_ hlibres ?_⟩
  · intro address
    obtain ⟨antes, despues, hlista, hmod⟩ := ListModify.modify_split hget
    have htabla := hits_procesosModificar hp (fun p ↦ { p with
      segmentos := p.segmentos.modify i fun s ↦ { s with base := sinBase } }) address
    have hlibre := hhits address
    have hno : ¬ ({ seg with base := sinBase } : Segmento).Residente := fun hres ↦ hres rfl
    simp only [hmod] at htabla
    simp only [hlista, rangosSegmentos_append, rangosSegmentos_cons, if_pos hres, if_neg hno, hits_append,
      hits_nil, Segmento.rango] at htabla
    left
    simp only [KernelMemory.hits_ocupacion, KernelMemory.liberarSegmento, KernelMemory.cambiarSegmento]
    omega
  · apply h.tablas.modificar hp rfl hotros
    · exact fun hno ↦ absurd List.mem_cons_self hno
    · intro _
      apply ListModify.forall_mem_modify (Q := fun s ↦
        s.Residente → True ∧ s.base.toNat + s.limite.toNat ≤ sumaSticks m.ram.tabla) hsegs
      · exact fun s _ _ hres ↦ absurd rfl hres
      · exact fun s hs hres ↦ ⟨trivial, hs hres⟩

theorem reacomoda_reservarReanudacion (m : KernelMemory) (pid : ℤ) :
    Reacomoda m (m.reservarReanudacion pid).1 := by
  unfold KernelMemory.reservarReanudacion
  split
  · exact Reacomoda.refl m
  rename_i p hp
  split
  · exact Reacomoda.refl m
  refine ⟨?_, ?_⟩
  · rintro apartados ⟨suspendidos, h⟩
    refine ⟨suspendidos, ?_⟩
    obtain ⟨reservas, libres, hreservar⟩ : ∃ reservas libres, reservarSegmentosConRollback
        m.config.worstFit p.segmentos m.bloquesLibres = (reservas, libres) := ⟨_, _, rfl⟩
    obtain ⟨hlibres, hcaso⟩ := reservarSegmentosConRollback_cases h.suma h.within_libres hreservar
    rw [hreservar]
    rcases hcaso with ⟨rfl, hhits⟩ | ⟨segmentos, rfl, _, hsegs, hhits⟩
    · refine h.cambiar rfl ?_ hlibres h.tablas
      intro address
      left
      simp only [KernelMemory.hits_ocupacion, hhits]
    · refine h.cambiar rfl ?_ hlibres ?_
      · intro address
        -- where a segment still was in RAM is in no list any more
        have htabla := hits_ponerSegmentos hp segmentos address
        have hlibre := hhits address
        right
        simp only [KernelMemory.hits_ocupacion]
        simp only [ponerSegmentos] at htabla ⊢
        exact ⟨trivial, by omega⟩
      · apply h.tablas.modificar hp rfl fun _ _ ↦ Iff.rfl
        · exact fun _ seg hseg ↦ (hsegs seg hseg).2
        · exact fun _ seg hseg _ ↦ ⟨trivial, (hsegs seg hseg).2⟩
  · split <;> exact MismaTabla.refl _

end

/-! ## Registrations under way -/

def Registro.idx : Registro → ℕ
  | .sinBloque idx _ _ | .sinConexion idx => idx

/-- The stick of a registration has no connection yet, and its range is the one still to be added. -/
def Registro.Suyo (tabla : List MemoryStick) (registro : Registro) : Prop :=
  ∃ stick, tabla[registro.idx]? = some stick ∧ stick.outboundSocket = -1 ∧
    ∀ range ∈ registro.rangos, range = stick.rango

/-- Each registration under way has a stick of its own. -/
structure Enlazado (tabla : List MemoryStick) (registros : List Registro) : Prop where
  suyo : ∀ registro ∈ registros, registro.Suyo tabla
  distintos : (registros.map Registro.idx).Nodup

section

variable {tabla otra : List MemoryStick} {registros : List Registro} {n idx : ℕ}

theorem MismaTabla.getElem? (h : MismaTabla tabla otra) {stick : MemoryStick} (hget : otra[idx]? = some stick) :
    ∃ stick', tabla[idx]? = some stick' ∧ stick'.entrada = stick.entrada := by
  have hidx : (tabla.map MemoryStick.entrada)[idx]? = (otra.map MemoryStick.entrada)[idx]? := by rw [h]
  rw [List.getElem?_map, List.getElem?_map, hget] at hidx
  exact Option.map_eq_some_iff.mp hidx

theorem Enlazado.mismaTabla (h : Enlazado otra registros) (hm : MismaTabla tabla otra) :
    Enlazado tabla registros := by
  refine ⟨fun registro hregistro ↦ ?_, h.distintos⟩
  obtain ⟨stick, hget, hsock, hrangos⟩ := h.suyo registro hregistro
  obtain ⟨stick', hget', hentrada⟩ := hm.getElem? hget
  have hsock' : stick'.entrada.outboundSocket = stick.entrada.outboundSocket := by rw [hentrada]
  have hrango : stick'.entrada.rango = stick.entrada.rango := by rw [hentrada]
  exact ⟨stick', hget', hsock'.trans hsock, fun range hr ↦ (hrangos range hr).trans hrango.symm⟩

theorem Enlazado.insertar (h : Enlazado tabla registros) (stick : MemoryStick) (hsock : stick.outboundSocket = -1) :
    Enlazado (tabla ++ [stick]) (registros ++ [.sinBloque tabla.length stick.baseFisica stick.tamanio]) where
  suyo := by
    intro registro hregistro
    rcases List.mem_append.mp hregistro with hviejo | hnuevo
    · obtain ⟨suyo, hget, hresto⟩ := h.suyo registro hviejo
      have hlt := (List.getElem?_eq_some_iff.mp hget).1
      exact ⟨suyo, by rw [List.getElem?_append_left hlt, hget], hresto⟩
    · obtain rfl := List.mem_singleton.mp hnuevo
      exact ⟨stick, List.getElem?_concat_length, hsock, fun range hr ↦ List.mem_singleton.mp hr⟩
  distintos := by
    rw [List.map_append]
    refine List.nodup_append.mpr ⟨h.distintos, List.nodup_singleton _, ?_⟩
    rintro idx hidx _ hnuevo rfl
    obtain ⟨registro, hregistro, rfl⟩ := List.mem_map.mp hidx
    obtain ⟨_, hget, _⟩ := h.suyo registro hregistro
    have hlt := (List.getElem?_eq_some_iff.mp hget).1
    have hidx : registro.idx = tabla.length := by simpa [Registro.idx] using hnuevo
    omega

theorem Enlazado.bloque (h : Enlazado tabla registros) {base tamanio : UInt32}
    (hn : registros[n]? = some (.sinBloque idx base tamanio)) :
    Enlazado tabla (registros.modify n fun _ ↦ .sinConexion idx) where
  suyo := by
    apply ListModify.forall_mem_modify (Q := Registro.Suyo tabla) h.suyo
    · intro registro hregistro hsuyo
      obtain rfl := Option.some.inj (hn.symm.trans hregistro)
      obtain ⟨stick, hget, hsock, _⟩ := hsuyo
      exact ⟨stick, hget, hsock, nofun⟩
    · exact fun _ hsuyo ↦ hsuyo
  distintos := by
    have hmap : (registros.modify n fun _ ↦ Registro.sinConexion idx).map Registro.idx =
        registros.map Registro.idx := by
      obtain ⟨antes, despues, hlista, hmod⟩ := ListModify.modify_split hn
      rw [hmod, hlista, List.map_append, List.map_append]
      rfl
    rw [hmap]
    exact h.distintos

/-- The registration is over, and no other one has its stick. -/
theorem Enlazado.conexion (h : Enlazado tabla registros) (hn : registros[n]? = some (.sinConexion idx)) :
    Enlazado tabla (registros.eraseIdx n) ∧
      ∀ sock, Enlazado (conexionesStickSetOutboundSocket tabla idx sock) (registros.eraseIdx n) := by
  have hsublista := List.eraseIdx_sublist registros n
  have hdistintos : ((registros.eraseIdx n).map Registro.idx).Nodup :=
    h.distintos.sublist (hsublista.map Registro.idx)
  refine ⟨⟨fun registro hregistro ↦ h.suyo registro (hsublista.subset hregistro), hdistintos⟩,
    fun sock ↦ ⟨fun registro hregistro ↦ ?_, hdistintos⟩⟩
  obtain ⟨stick, hget, hresto⟩ := h.suyo registro (hsublista.subset hregistro)
  have hotro : idx ≠ registro.idx := by
    intro hidx
    obtain ⟨i, hi, hregistro⟩ := List.mem_eraseIdx_iff_getElem?.mp hregistro
    have hmismo : (registros.map Registro.idx)[i]? = (registros.map Registro.idx)[n]? := by
      rw [List.getElem?_map, List.getElem?_map, hregistro, hn]
      exact congrArg some hidx.symm
    have hlt : i < (registros.map Registro.idx).length := by
      rw [List.length_map]
      exact (List.getElem?_eq_some_iff.mp hregistro).1
    exact hi ((List.getElem?_inj hlt h.distintos).mp hmismo)
  refine ⟨stick, ?_, hresto⟩
  rw [conexionesStickSetOutboundSocket, List.getElem?_modify, hget]
  simp [hotro]

end

/-! ## The invariant -/

/-- The requests of `RegistroSticks`, in runs that may lose memory. -/
theorem PasoScheduler.enSticks {qsort : Qsort} {t t' : HiloScheduler} {seccion : Seccion}
    {apartados : List ByteRange} (hpaso : PasoScheduler qsort t seccion t') (h : EnSticks apartados t.memoria)
    (hvigente : t.fase.Vigente t.memoria.procesos)
    (hcompactar : seccion = .compactar → (∃ p ∈ t.memoria.procesos, p.segmentos ≠ []) →
      ∀ address, hits apartados address = 0)
    (heliminar : ∀ pid id, seccion = .eliminarSegmento pid id → ∀ p ∈ procesosBuscar t.memoria.procesos pid,
      ∀ seg ∈ p.segmentos.find? fun seg ↦ seg.id = id, seg.Residente) :
    EnSticks apartados t'.memoria ∧ t'.fase.Vigente t'.memoria.procesos ∧
      MismaTabla t'.memoria.ram.tabla t.memoria.ram.tabla := by
  obtain ⟨suspendidos, h⟩ := h
  cases hpaso with
  | crearProceso m pid instrucciones =>
    exact ⟨⟨suspendidos, h.crear instrucciones⟩, trivial, MismaTabla.refl _⟩
  | respondido hsolicitar =>
    refine ⟨⟨suspendidos, h.respondido (fun _ ↦ trivial) hsolicitar⟩, trivial, ?_⟩
    rw [ram_solicitarSinCompactar hsolicitar]
    exact MismaTabla.refl _
  | demorado hsolicitar =>
    have h' := h.demorado hsolicitar
    obtain ⟨p, _, hp, _, rfl⟩ := solicitarSinCompactar_none hsolicitar
    exact ⟨⟨suspendidos, h'⟩, ⟨p, hp⟩, MismaTabla.refl _⟩
  | compactar m pid id tamanio =>
    obtain ⟨p, hp⟩ := hvigente
    obtain ⟨p', hp', _⟩ := (h.compactada qsort).encontrado hp
    exact ⟨⟨suspendidos, h.compactar (hcompactar rfl) qsort⟩, ⟨p', hp'⟩, (h.compactada qsort).mismaTabla⟩
  | reasignar m pid id tamanio =>
    obtain ⟨p, hp⟩ := hvigente
    refine ⟨⟨suspendidos, h.reasignar hp (fun _ ↦ trivial) id tamanio⟩, trivial, ?_⟩
    rw [ram_reasignar]
    exact MismaTabla.refl _
  | eliminarSegmento m pid id =>
    refine ⟨⟨suspendidos, h.eliminarResidente (heliminar pid id rfl)⟩, trivial, ?_⟩
    rw [ram_manejarEliminarSegmento]
    exact MismaTabla.refl _
  | finalizarProceso m pid =>
    refine ⟨⟨_, h.finalizar⟩, trivial, ?_⟩
    rw [ram_manejarFinalizarProceso]
    exact MismaTabla.refl _

namespace HilosRam

variable {s s' : HilosRam}

structure EnOrden (s : HilosRam) : Prop where
  enSticks : EnSticks (apartados s.hilos.registros) s.memoria
  enlazado : Enlazado s.memoria.ram.tabla s.hilos.registros
  vigente : s.hilos.scheduler.fase.Vigente s.memoria.procesos
  traslado : s.traslado ≠ .ninguno → s.hilos.scheduler.fase = .libre

theorem EnOrden.con {m : KernelMemory} (h : s.EnOrden) (hm : Reacomoda s.memoria m)
    (hfase : s.hilos.scheduler.fase = .libre) (traslado : Traslado) : (s.con m traslado).EnOrden where
  enSticks := hm.enSticks _ h.enSticks
  enlazado := h.enlazado.mismaTabla hm.tabla
  vigente := by
    show s.hilos.scheduler.fase.Vigente m.procesos
    rw [hfase]
    trivial
  traslado _ := hfase

/-- A step of a registration. -/
theorem EnOrden.registro {qsort : Qsort} {e : EventoRegistro} {hilos : HilosRegistro} (h : s.EnOrden)
    (hsin : s.hilos.SinCruce e) (hregistro : ∀ seccion, e ≠ .scheduler seccion)
    (hpaso : s.hilos.paso qsort e = some hilos) : EnOrden { s with hilos := hilos } := by
  obtain ⟨⟨suspendidos, hrep⟩, henlazado, hvigente, htraslado⟩ := h
  cases e with
  | scheduler seccion => exact absurd rfl (hregistro seccion)
  | insertar stick =>
    simp only [HilosRegistro.paso] at hpaso
    split at hpaso <;> obtain rfl := Option.some.inj hpaso
    · exact ⟨⟨suspendidos, hrep⟩, henlazado, hvigente, htraslado⟩
    · rename_i idx base m hinsertar
      have hprocesos := procesos_registrarInsertar hinsertar
      refine ⟨⟨suspendidos, (hrep.registrarInsertar hsin hinsertar).perm ?_⟩, ?_, ?_, htraslado⟩
      · show (_ :: apartados s.hilos.registros).Perm (apartados (s.hilos.registros ++ [_]))
        rw [apartados, apartados, List.flatMap_append]
        exact (List.perm_append_singleton _ _).symm
      · obtain ⟨rfl, htabla⟩ := registrarInsertar_eq_some hinsertar
        show Enlazado m.ram.tabla (s.hilos.registros ++ [_])
        rw [htabla]
        exact henlazado.insertar _ rfl
      · show s.hilos.scheduler.fase.Vigente m.procesos
        rw [hprocesos]
        exact hvigente
  | bloque n =>
    simp only [HilosRegistro.paso] at hpaso
    split at hpaso <;> cases hpaso
    rename_i idx base tamanio hn
    exact ⟨⟨suspendidos, hrep.registrarBloque (apartados_modify hn)⟩, henlazado.bloque hn, hvigente, htraslado⟩
  | conexion n outSock =>
    simp only [HilosRegistro.paso] at hpaso
    split at hpaso <;> cases hpaso
    rename_i idx hn
    obtain ⟨hsigue, habierta⟩ := henlazado.conexion hn
    refine ⟨⟨suspendidos, ?_⟩, ?_, ?_, htraslado⟩
    · show Repartida True True (apartados (s.hilos.registros.eraseIdx n)) _ suspendidos
      rw [apartados_eraseIdx hn]
      exact hrep.registrarOutbound idx outSock
    · show Enlazado (registrarOutbound s.memoria idx outSock).ram.tabla _
      unfold registrarOutbound
      split
      · exact hsigue
      · exact habierta outSock
    · show s.hilos.scheduler.fase.Vigente (registrarOutbound _ _ _).procesos
      unfold registrarOutbound
      split <;> exact hvigente

theorem EnOrden.scheduler {qsort : Qsort} {seccion : Seccion} {hilos : HilosRegistro} (h : s.EnOrden)
    (hsin : s.SinCruce (.hilos (.scheduler seccion))) (hninguno : s.traslado = .ninguno)
    (hpaso : s.hilos.paso qsort (.scheduler seccion) = some hilos) : EnOrden { s with hilos := hilos } := by
  obtain ⟨t, ht, rfl⟩ := Option.map_eq_some_iff.mp hpaso
  obtain ⟨henSticks, hvigente, htabla⟩ := (HiloScheduler.paso_cases ht).enSticks h.enSticks h.vigente
    (by
      rintro rfl hex
      exact hits_apartados (hsin hex))
    (by
      rintro pid id rfl
      exact hsin)
  exact ⟨henSticks, h.enlazado.mismaTabla htabla, hvigente, fun hno ↦ absurd hninguno hno⟩

theorem EnOrden.paso {qsort : Qsort} {e : EventoRam} (h : s.EnOrden) (hsin : s.SinCruce e)
    (hpaso : s.paso qsort e = some s') : s'.EnOrden := by
  have hocupado : ∀ {traslado}, s.traslado = traslado → traslado ≠ .ninguno → s.hilos.scheduler.fase = .libre := by
    rintro _ rfl hno
    exact h.traslado hno
  cases e with
  | hilos e =>
    cases e with
    | scheduler seccion =>
      simp only [HilosRam.paso, Option.ite_none_right_eq_some] at hpaso
      obtain ⟨hninguno, hpaso⟩ := hpaso
      obtain ⟨hilos, hhilos, rfl⟩ := Option.map_eq_some_iff.mp hpaso
      exact h.scheduler hsin hninguno hhilos
    | insertar stick =>
      obtain ⟨hilos, hhilos, rfl⟩ := Option.map_eq_some_iff.mp hpaso
      exact h.registro (e := .insertar stick) hsin nofun hhilos
    | bloque n =>
      obtain ⟨hilos, hhilos, rfl⟩ := Option.map_eq_some_iff.mp hpaso
      exact h.registro (e := .bloque n) hsin nofun hhilos
    | conexion n outSock =>
      obtain ⟨hilos, hhilos, rfl⟩ := Option.map_eq_some_iff.mp hpaso
      exact h.registro (e := .conexion n outSock) hsin nofun hhilos
  | registrarSwap nuevo =>
    obtain rfl := Option.some.inj hpaso
    have hm := reacomoda_conSwap s.memoria (Memoria.registrarSwap nuevo)
    exact ⟨hm.enSticks _ h.enSticks, h.enlazado, h.vigente, h.traslado⟩
  | suspenderProceso pid =>
    simp only [HilosRam.paso, Option.ite_none_right_eq_some] at hpaso
    obtain ⟨hlibre, hpaso⟩ := hpaso
    split at hpaso <;> obtain rfl := Option.some.inj hpaso
    · exact h
    · exact h.con (reacomoda_reservarBloques _ _ _) hlibre.2 _
  | volcarSegmento =>
    simp only [HilosRam.paso] at hpaso
    split at hpaso
    case h_2 => cases hpaso
    rename_i pid i htraslado
    obtain ⟨seg, _, rfl⟩ := Option.map_eq_some_iff.mp hpaso
    have hdisp := volcarBloques_soloDispositivos seg
      (cantidadBloques seg.limite s.memoria.swap.blockSize).toNat 0 s.memoria
    have hfase := hocupado htraslado nofun
    split
    · rename_i m hvolcar
      rw [show volcarBloques _ _ _ _ = _ from hvolcar] at hdisp
      exact h.con hdisp.reacomoda hfase _
    · rename_i m hvolcar
      rw [show volcarBloques _ _ _ _ = _ from hvolcar] at hdisp
      exact h.con hdisp.reacomoda hfase _
  | liberarSegmento =>
    simp only [HilosRam.paso] at hpaso
    split at hpaso
    case h_2 => cases hpaso
    rename_i pid i htraslado
    obtain ⟨seg, hseg, rfl⟩ := Option.map_eq_some_iff.mp hpaso
    have hres : seg.Residente := by
      simp only [SinCruce, htraslado] at hsin
      exact hsin seg hseg
    have hlibera := reacomoda_liberarSegmento hseg hres
    exact h.con (hlibera.trans (reacomoda_reservarBloques _ _ _)) (hocupado htraslado nofun) _
  | desSuspenderProceso pid =>
    simp only [HilosRam.paso, Option.ite_none_right_eq_some] at hpaso
    obtain ⟨hlibre, hpaso⟩ := hpaso
    obtain rfl := Option.some.inj hpaso
    exact h.con (reacomoda_reservarReanudacion _ _) hlibre.2 _
  | transferirSegmentos =>
    simp only [HilosRam.paso] at hpaso
    split at hpaso
    case h_2 => cases hpaso
    rename_i pid htraslado
    obtain ⟨p, _, rfl⟩ := Option.map_eq_some_iff.mp hpaso
    exact h.con (transferirSwapARam_soloDispositivos _ _).reacomoda (hocupado htraslado nofun) _
  | lecturaMemoria pid dir tamanio =>
    simp only [HilosRam.paso, Option.ite_none_right_eq_some] at hpaso
    obtain ⟨hlibre, hpaso⟩ := hpaso
    obtain rfl := Option.some.inj hpaso
    exact h.con (manejarLecturaMemoria_soloDispositivos _ _ _ _).reacomoda hlibre.2 _
  | escrituraMemoria pid dir tamanio datos =>
    simp only [HilosRam.paso, Option.ite_none_right_eq_some] at hpaso
    obtain ⟨hlibre, hpaso⟩ := hpaso
    obtain rfl := Option.some.inj hpaso
    exact h.con (manejarEscrituraMemoria_soloDispositivos _ _ _ _ _).reacomoda hlibre.2 _

theorem Inicial.enOrden (h : s.Inicial) : s.EnOrden := by
  obtain ⟨⟨⟨m, fase⟩, registros⟩, traslado⟩ := s
  obtain ⟨⟨hprocesos, hlibres, htabla, rfl, rfl⟩, htraslado⟩ := h
  refine ⟨⟨[], Repartida.inicial hprocesos hlibres htabla⟩, ⟨nofun, List.nodup_nil⟩, trivial, fun hno ↦ ?_⟩
  exact absurd htraslado hno

theorem enOrden_of_alcanzable {qsort : Qsort} (h : Reachable (paso qsort) Inicial SinCruce s) : s.EnOrden :=
  h.invariant (P := EnOrden) (fun _ ↦ Inicial.enOrden) fun _ _ _ ht hsin hpaso ↦ ht.paso hsin hpaso

end HilosRam

end PlugAndPlay.Memoria
