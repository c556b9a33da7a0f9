import Mathlib.Algebra.Order.BigOperators.Group.List
import PlugAndPlay.Memoria.LibresSeparados

/-!
# A request fails only when there are too few free bytes

`SOLICITAR_SEGMENTO` tries, compacts and tries again. In the runs that lose no memory the free list counts
every free byte once, compaction leaves these bytes in one block, and it is only left out where they
already were in one.
-/

open PlugAndPlay.Library ByteRange

namespace PlugAndPlay.Memoria

/-! ## Free bytes -/

/-- The number of addresses in the free list. -/
def KernelMemory.bytesLibres (m : KernelMemory) : ℕ :=
  covered (rangosLibres m.bloquesLibres) (sumaSticks m.ram.tabla)

theorem toNat_bloquesCalcularEspacioLibre {bloques : List BloqueLibre}
    (h : Packing.totalSize (rangosLibres bloques) < 2 ^ 32) :
    (bloquesCalcularEspacioLibre bloques).toNat = Packing.totalSize (rangosLibres bloques) := by
  have hgen : ∀ (bloques : List BloqueLibre) (total : UInt32),
      total.toNat + Packing.totalSize (rangosLibres bloques) < 2 ^ 32 →
        (bloques.foldl (fun total b ↦ total + b.tamanio) total).toNat =
          total.toNat + Packing.totalSize (rangosLibres bloques) := by
    intro bloques
    induction bloques with
    | nil => exact fun total _ ↦ rfl
    | cons b bloques ih =>
      intro total htotal
      rw [rangosLibres_cons, Packing.totalSize_cons] at htotal ⊢
      simp only [BloqueLibre.rango] at htotal ⊢
      have hsuma : (total + b.tamanio).toNat = total.toNat + b.tamanio.toNat := toNat_add_of_lt (by omega)
      calc
        ((b :: bloques).foldl (fun total b ↦ total + b.tamanio) total).toNat
        _ = (total + b.tamanio).toNat + Packing.totalSize (rangosLibres bloques) :=
          ih (total + b.tamanio) (by omega)
        _ = total.toNat + (b.tamanio.toNat + Packing.totalSize (rangosLibres bloques)) := by omega
  calc
    (bloquesCalcularEspacioLibre bloques).toNat
    _ = (0 : UInt32).toNat + Packing.totalSize (rangosLibres bloques) :=
      hgen bloques 0 (by simpa using h)
    _ = Packing.totalSize (rangosLibres bloques) := Nat.zero_add _

theorem tamanio_le_totalSize {bloques : List BloqueLibre} {b : BloqueLibre} (hb : b ∈ bloques) :
    b.tamanio.toNat ≤ Packing.totalSize (rangosLibres bloques) := by
  apply List.le_sum_of_mem
  exact List.mem_map.mpr ⟨b.rango, List.mem_map_of_mem hb, rfl⟩

section

variable {fugas aMedias : Prop} {m : KernelMemory} {suspendidos : List ℤ} {pid : ℤ} {p : Proceso}
  {id tamanio : UInt32}

theorem Repartida.bytesLibres_eq (h : Repartida fugas aMedias [] m suspendidos) :
    m.bytesLibres = Packing.totalSize (rangosLibres m.bloquesLibres) :=
  h.packed_libres.covered_eq

theorem KernelMemory.bytesLibres_le (m : KernelMemory) : m.bytesLibres ≤ sumaSticks m.ram.tabla := by
  unfold KernelMemory.bytesLibres covered
  calc
    ((Finset.range (sumaSticks m.ram.tabla)).filter _).card
    _ ≤ (Finset.range (sumaSticks m.ram.tabla)).card := Finset.card_filter_le _ _
    _ = sumaSticks m.ram.tabla := Finset.card_range _

/-- The 32-bit sum of the source counts every free byte once. -/
theorem Repartida.toNat_espacioLibre (h : Repartida fugas aMedias [] m suspendidos) :
    (bloquesCalcularEspacioLibre m.bloquesLibres).toNat = m.bytesLibres := by
  have hle := m.bytesLibres_le
  have hsuma := h.suma
  rw [h.bytesLibres_eq] at hle ⊢
  exact toNat_bloquesCalcularEspacioLibre (by omega)

theorem Repartida.bytes_eq (h : Repartida fugas aMedias [] m suspendidos) (hno : ¬ fugas) :
    m.bytesLibres + bytesResidentes m.procesos = sumaSticks m.ram.tabla := by
  have htodo := (h.cubre hno).totalSize_eq
  rw [List.nil_append, KernelMemory.ocupacion, ByteRange.totalSize_append] at htodo
  rw [h.bytesLibres_eq]
  exact htodo

/-! ## One attempt -/

/-- An attempt for at least one byte fails where every block is too small. -/
theorem Repartida.intento (h : Repartida fugas aMedias [] m suspendidos) (htamanio : 0 < tamanio.toNat) :
    (bloquesAsignar m.config.worstFit m.bloquesLibres tamanio = (sinBase, m.bloquesLibres) ∧
        ∀ b ∈ m.bloquesLibres, b.tamanio.toNat < tamanio.toNat) ∨
      ∃ base libres, bloquesAsignar m.config.worstFit m.bloquesLibres tamanio = (base, libres) ∧
        base ≠ sinBase ∧ ∃ b ∈ m.bloquesLibres, tamanio.toNat ≤ b.tamanio.toNat := by
  rcases bloquesAsignar_cases m.config.worstFit m.bloquesLibres tamanio with
    ⟨heq, hchicos⟩ | ⟨antes, b, despues, hlista, hle, heq⟩
  · exact .inl ⟨heq, fun b hb ↦ UInt32.lt_iff_toNat_lt.mp (hchicos b hb)⟩
  · have hb : b ∈ m.bloquesLibres := by
      rw [hlista]
      exact List.mem_append_right _ List.mem_cons_self
    have hle := UInt32.le_iff_toNat_le.mp hle
    have hfin := h.within_libres _ (List.mem_map_of_mem hb)
    have hsuma := h.suma
    have hbase : b.base ≠ sinBase := by
      intro hsin
      simp only [BloqueLibre.rango, hsin, toNat_sinBase] at hfin
      omega
    exact .inr ⟨b.base, _, heq, hbase, b, hb, hle⟩

/-- With room for it in one block, the attempt succeeds. -/
theorem Repartida.intento_logrado (h : Repartida fugas aMedias [] m suspendidos) (htamanio : 0 < tamanio.toNat)
    {b : BloqueLibre} (hb : b ∈ m.bloquesLibres) (hle : tamanio.toNat ≤ b.tamanio.toNat) :
    ∃ base libres, bloquesAsignar m.config.worstFit m.bloquesLibres tamanio = (base, libres) ∧
      base ≠ sinBase := by
  rcases h.intento htamanio with ⟨_, hchicos⟩ | ⟨base, libres, heq, hbase, _⟩
  · have hchico := hchicos b hb
    omega
  · exact ⟨base, libres, heq, hbase⟩

/-- After a compaction that had to look at segments all free bytes are in one block. -/
theorem Repartida.bloqueTrasCompactar (h : Repartida False aMedias [] m suspendidos) (qsort : Qsort)
    (hex : ∃ p ∈ m.procesos, p.segmentos ≠ []) (hlibres : 0 < m.bytesLibres) :
    ∃ b ∈ (compactarMemoria qsort m).bloquesLibres, b.tamanio.toNat = m.bytesLibres := by
  have hc := h.compactada qsort
  have htotal : m.ram.total = sumaSticks m.ram.tabla := m.ram.total_eq h.suma
  have hbytes := h.bytes_eq not_false
  have hsuma := h.suma
  have hresto : m.ram.total - bytesResidentes m.procesos = m.bytesLibres := by omega
  have htamanio : (UInt32.ofNat m.bytesLibres).toNat = m.bytesLibres :=
    UInt32.toNat_ofNat_of_lt' (by show _ < 2 ^ 32; omega)
  have hpos : UInt32.ofNat m.bytesLibres > 0 := by
    rw [gt_iff_lt, UInt32.lt_iff_toNat_lt, htamanio]
    exact hlibres
  rw [hc.libres hex, hresto, bloquesResetAUnico, if_pos hpos]
  exact ⟨_, List.mem_singleton_self _, htamanio⟩

/-- Where no process has a segment, compaction does nothing, and the free bytes are all of RAM in one
block already. -/
theorem Repartida.bloqueSinSegmentos (h : Repartida False aMedias [] m suspendidos)
    (hsep : Separated (rangosLibres m.bloquesLibres)) (hno : ¬ ∃ p ∈ m.procesos, p.segmentos ≠ [])
    (hlibres : 0 < m.bytesLibres) : ∃ b ∈ m.bloquesLibres, m.bytesLibres ≤ b.tamanio.toNat := by
  have hresidentes : rangosResidentes m.procesos = [] := by
    rw [rangosResidentes, List.flatMap_eq_nil_iff]
    intro p hp
    have hvacio : p.segmentos = [] := by
      by_contra hne
      exact hno ⟨p, hp, hne⟩
    rw [hvacio]
    rfl
  have hpart := h.cubre not_false
  rw [List.nil_append, KernelMemory.ocupacion, hresidentes, List.append_nil] at hpart
  have hle := m.bytesLibres_le
  have hmem := hpart.mem_of_separated hsep (by omega)
  obtain ⟨b, hb, hrango⟩ := List.mem_map.mp hmem
  have htamanio : b.tamanio.toNat = sumaSticks m.ram.tabla := congrArg ByteRange.size hrango
  exact ⟨b, hb, by omega⟩

/-! ## A request -/

/-- The two answers to a request for memory, with the state `m₁` in which its range was taken. -/
inductive Respondida (qsort : Qsort) (m : KernelMemory) (pid : ℤ) (id tamanio : UInt32) :
    List Mensaje × KernelMemory → Prop
  | rechazada (hpocos : m.bytesLibres < tamanio.toNat) :
    Respondida qsort m pid id tamanio ([.ok .segmentationFault], m)
  | concedida {m₁ : KernelMemory} {avisos : List Mensaje} {base : UInt32} {libres : List BloqueLibre}
      (halcanzan : tamanio.toNat ≤ m.bytesLibres)
      (hlugar : m₁ = m ∧ avisos = [] ∨ m₁ = compactarMemoria qsort m ∧
        avisos = [.ok .iniciarCompactacion, .ok .finalizarCompactacion])
      (hasignar : bloquesAsignar m₁.config.worstFit m₁.bloquesLibres tamanio = (base, libres))
      (hbase : base ≠ sinBase) :
    Respondida qsort m pid id tamanio (avisos ++ [.solicitarSegmento id base tamanio],
      agregarSegmento { m₁ with bloquesLibres := libres } pid id base tamanio)

theorem Repartida.respondida (h : Repartida False aMedias [] m suspendidos)
    (hsep : Separated (rangosLibres m.bloquesLibres)) (hp : procesosBuscar m.procesos pid = some p)
    (htamanio : 0 < tamanio.toNat) (hmax : tamanio ≤ m.config.segmentMaxSize.toUInt32) (qsort : Qsort)
    (id : UInt32) : Respondida qsort m pid id tamanio (manejarSolicitarSegmento qsort m pid id tamanio) := by
  have hcabe : ¬ tamanio > m.config.segmentMaxSize.toUInt32 := UInt32.not_lt.mpr hmax
  have hespacio := h.toNat_espacioLibre
  rcases h.intento htamanio with ⟨heq, hchicos⟩ | ⟨base, libres, heq, hbase, b, hb, hle⟩
  · by_cases hpocos : bloquesCalcularEspacioLibre m.bloquesLibres < tamanio
    · have hpide : manejarSolicitarSegmento qsort m pid id tamanio = ([.ok .segmentationFault], m) := by
        simp only [manejarSolicitarSegmento, solicitarSinCompactar, if_neg hcabe, hp, heq, if_pos hpocos, if_true]
      rw [hpide]
      rw [UInt32.lt_iff_toNat_lt, hespacio] at hpocos
      exact .rechazada hpocos
    · -- the bytes are there, but in no block
      have halcanzan : tamanio.toNat ≤ m.bytesLibres := by
        rw [UInt32.lt_iff_toNat_lt, hespacio] at hpocos
        omega
      have hex : ∃ p ∈ m.procesos, p.segmentos ≠ [] := by
        by_contra hno
        obtain ⟨b, hb, hle⟩ := h.bloqueSinSegmentos hsep hno (by omega)
        have hchico := hchicos b hb
        omega
      obtain ⟨b, hb, hbloque⟩ := h.bloqueTrasCompactar qsort hex (by omega)
      have h₁ := h.compactar (fun _ _ ↦ rfl) qsort
      obtain ⟨base, libres, hasignar, hbase⟩ := h₁.intento_logrado htamanio hb (by omega)
      obtain ⟨p', hp', _⟩ := (h.compactada qsort).encontrado hp
      have hprimero : solicitarSinCompactar m pid id tamanio = (none, m) := by
        simp only [solicitarSinCompactar, if_neg hcabe, hp, heq, if_neg hpocos, if_true]
      have hsegundo : Memoria.reasignar (compactarMemoria qsort m) pid id tamanio =
          ([.solicitarSegmento id base tamanio],
            agregarSegmento { compactarMemoria qsort m with bloquesLibres := libres } pid id base tamanio) := by
        simp only [Memoria.reasignar, hasignar, if_neg hbase, hp']
      have hpide : manejarSolicitarSegmento qsort m pid id tamanio =
          ([.ok .iniciarCompactacion, .ok .finalizarCompactacion] ++ [.solicitarSegmento id base tamanio],
            agregarSegmento { compactarMemoria qsort m with bloquesLibres := libres } pid id base tamanio) := by
        simp only [manejarSolicitarSegmento, hprimero, hsegundo, List.cons_append, List.nil_append]
      rw [hpide]
      exact .concedida halcanzan (.inr ⟨rfl, rfl⟩) hasignar hbase
  · have halcanzan : tamanio.toNat ≤ m.bytesLibres := by
      calc
        tamanio.toNat
        _ ≤ b.tamanio.toNat := hle
        _ ≤ Packing.totalSize (rangosLibres m.bloquesLibres) := tamanio_le_totalSize hb
        _ = m.bytesLibres := h.bytesLibres_eq.symm
    have hpide : manejarSolicitarSegmento qsort m pid id tamanio =
        ([] ++ [.solicitarSegmento id base tamanio],
          agregarSegmento { m with bloquesLibres := libres } pid id base tamanio) := by
      simp only [manejarSolicitarSegmento, solicitarSinCompactar, if_neg hcabe, hp, heq, if_neg hbase]
      rfl
    rw [hpide]
    exact .concedida halcanzan (.inl ⟨rfl, rfl⟩) heq hbase

/-- What an accepted request does to the range it takes: until then it was free and in no segment, and from
then on it is only in the new segment, the last of the process. -/
structure Entregada (m₁ m' : KernelMemory) (pid : ℤ) (id base tamanio : UInt32) : Prop where
  cabe : base.toNat + tamanio.toNat ≤ sumaSticks m₁.ram.tabla
  antes : ∀ address, ByteRange.Contains ⟨base.toNat, tamanio.toNat⟩ address →
    hits (rangosLibres m₁.bloquesLibres) address = 1 ∧ hits (rangosResidentes m₁.procesos) address = 0
  despues : ∀ address, ByteRange.Contains ⟨base.toNat, tamanio.toNat⟩ address →
    hits (rangosLibres m'.bloquesLibres) address = 0 ∧ hits (rangosResidentes m'.procesos) address = 1
  tabla : ∃ p₁, procesosBuscar m₁.procesos pid = some p₁ ∧
    m'.procesos = procesosModificar pid
      (fun p ↦ { p with segmentos := p.segmentos ++ [⟨id, base, tamanio, 0⟩] }) m₁.procesos

theorem Repartida.entregada {m₁ : KernelMemory} {p₁ : Proceso} {base : UInt32} {libres : List BloqueLibre}
    (h : Repartida fugas aMedias [] m₁ suspendidos) (hp : procesosBuscar m₁.procesos pid = some p₁)
    (hasignar : bloquesAsignar m₁.config.worstFit m₁.bloquesLibres tamanio = (base, libres))
    (hbase : base ≠ sinBase) (id : UInt32) :
    Entregada m₁ (agregarSegmento { m₁ with bloquesLibres := libres } pid id base tamanio) pid id base
      tamanio := by
  obtain ⟨_, hcaso⟩ := bloquesAsignar_reparto h.suma h.within_libres hasignar
  obtain ⟨_, hfin, hhits⟩ := hcaso.resolve_left fun hsin ↦ hbase hsin.1
  have hunico : ∀ address, ByteRange.Contains ⟨base.toNat, tamanio.toNat⟩ address →
      hits (rangosLibres m₁.bloquesLibres) address = 1 ∧ hits (rangosResidentes m₁.procesos) address = 0 ∧
        hits (rangosLibres libres) address = 0 := by
    intro address hc
    have hlibre := hhits address
    have huna := h.ocupacion.disjoint address
    rw [hits_cons, if_pos hc, hits_nil] at hlibre
    rw [KernelMemory.hits_ocupacion] at huna
    omega
  exact
    { cabe := hfin
      antes := fun address hc ↦ ⟨(hunico address hc).1, (hunico address hc).2.1⟩
      despues := fun address hc ↦ by
        obtain ⟨_, hresidentes, hlibres⟩ := hunico address hc
        have hnuevo := hits_procesosModificar hp
          (fun p ↦ { p with segmentos := p.segmentos ++ [⟨id, base, tamanio, 0⟩] }) address
        have hrango : hits (rangosSegmentos [⟨id, base, tamanio, 0⟩]) address =
            hits [⟨base.toNat, tamanio.toNat⟩] address :=
          hits_rangosSegmentos_singleton h.suma hfin address
        rw [hits_cons, if_pos hc, hits_nil] at hrango
        simp only [rangosSegmentos_append, hits_append, hrango, hresidentes] at hnuevo
        have hagregado : hits (rangosResidentes
            (agregarSegmento { m₁ with bloquesLibres := libres } pid id base tamanio).procesos) address = 1 := by
          simp only [agregarSegmento]
          omega
        exact ⟨hlibres, hagregado⟩
      tabla := ⟨p₁, hp, rfl⟩ }

end

/-- Allocation is complete for one request: it is granted exactly when there are enough free bytes. Where it
is granted, `m₁` is the memory its range was taken from, compacted or not; where it is refused, nothing
changes. -/
structure SolicitudCompleta (qsort : Qsort) (m : KernelMemory) (pid : ℤ) (id tamanio : UInt32) : Prop where
  concede : (∃ base, .solicitarSegmento id base tamanio ∈ (manejarSolicitarSegmento qsort m pid id tamanio).1) ↔
    tamanio.toNat ≤ m.bytesLibres
  entrega : ∀ base, .solicitarSegmento id base tamanio ∈ (manejarSolicitarSegmento qsort m pid id tamanio).1 →
    ∃ m₁, (m₁ = m ∨ m₁ = compactarMemoria qsort m) ∧
      Entregada m₁ (manejarSolicitarSegmento qsort m pid id tamanio).2 pid id base tamanio
  rechaza : (∀ base, .solicitarSegmento id base tamanio ∉ (manejarSolicitarSegmento qsort m pid id tamanio).1) →
    (manejarSolicitarSegmento qsort m pid id tamanio).1 = [.ok .segmentationFault] ∧
      (manejarSolicitarSegmento qsort m pid id tamanio).2.procesos = m.procesos ∧
        (manejarSolicitarSegmento qsort m pid id tamanio).2.bloquesLibres = m.bloquesLibres

/-- In every state of every run in which suspensions find enough swap blocks and memory is asked for only on
behalf of processes that are not suspended, a request of at least one byte and at most `SEGMENT_MAX_SIZE`
for any process there is succeeds exactly when there are that many free bytes. -/
theorem asignacion_completa (qsort : Qsort) (c : Corrida)
    (h : Reachable (Corrida.paso qsort) Corrida.Inicial Corrida.SinMedias c) (pid : ℤ) (p : Proceso)
    (hp : procesosBuscar c.memoria.procesos pid = some p) (id tamanio : UInt32) (htamanio : 1 ≤ tamanio.toNat)
    (hmax : tamanio ≤ c.memoria.config.segmentMaxSize.toUInt32) :
    SolicitudCompleta qsort c.memoria pid id tamanio := by
  have hc := Corrida.ordenada_of_reachable h
  have hr := hc.repartida.respondida hc.separados hp htamanio hmax qsort id
  obtain ⟨respuesta, hrespuesta⟩ : ∃ r, r = manejarSolicitarSegmento qsort c.memoria pid id tamanio := ⟨_, rfl⟩
  rw [← hrespuesta] at hr
  have hgeneral : (∃ base, .solicitarSegmento id base tamanio ∈ respuesta.1) ↔
      tamanio.toNat ≤ c.memoria.bytesLibres := by
    cases hr with
    | rechazada hpocos =>
      apply iff_of_false _ (by omega)
      rintro ⟨base, hmem⟩
      cases List.mem_singleton.mp hmem
    | concedida halcanzan hlugar hasignar hbase =>
      exact iff_of_true ⟨_, List.mem_append_right _ (List.mem_singleton_self _)⟩ halcanzan
  constructor
  · rw [← hrespuesta]
    exact hgeneral
  · intro base hmem
    rw [← hrespuesta] at hmem ⊢
    cases hr with
    | rechazada hpocos => cases List.mem_singleton.mp hmem
    | @concedida m₁ avisos base' libres halcanzan hlugar hasignar hbase =>
      have hmismo : base' = base := by
        rcases hlugar with ⟨_, rfl⟩ | ⟨_, rfl⟩
        · cases List.mem_singleton.mp hmem
          rfl
        · have higuales : base = base' := by simpa using hmem
          exact higuales.symm
      subst hmismo
      rcases hlugar with ⟨rfl, _⟩ | ⟨rfl, _⟩
      · exact ⟨c.memoria, .inl rfl, hc.repartida.entregada hp hasignar hbase id⟩
      · obtain ⟨p', hp', _⟩ := (hc.repartida.compactada qsort).encontrado hp
        have h₁ := hc.repartida.compactar (fun _ _ ↦ rfl) qsort
        exact ⟨_, .inr rfl, h₁.entregada hp' hasignar hbase id⟩
  · intro hno
    rw [← hrespuesta] at hno ⊢
    cases hr with
    | rechazada hpocos => exact ⟨rfl, rfl, rfl⟩
    | concedida halcanzan hlugar hasignar hbase =>
      exact absurd (List.mem_append_right _ (List.mem_singleton_self _)) (hno _)

/-- Six free bytes in two blocks, and a request for five. -/
theorem asignacion_completa_fragmentada : ∃ c : Corrida,
    c.memoria.bloquesLibres = [⟨5, 3⟩, ⟨0, 3⟩] ∧ SolicitudCompleta .insercion c.memoria 1 1 5 := by
  have hinicio : Reachable (Corrida.paso .insercion) Corrida.Inicial Corrida.SinMedias corridaInicial :=
    .start corridaInicial_inicial
  obtain ⟨c, hc, hlibres, hp, hmax⟩ := hinicio.exists_of_runAllowed
    [.registrarMemoryStick stickDeOcho 5, .crearProceso 1 [], .crearProceso 2 [], .solicitarSegmento 1 0 3,
      .solicitarSegmento 2 0 2, .eliminarSegmento 1 0]
    (fun c ↦ c.memoria.bloquesLibres = [⟨5, 3⟩, ⟨0, 3⟩] ∧
      procesosBuscar c.memoria.procesos 1 = some ⟨1, .cero, [], []⟩ ∧
        (5 : UInt32) ≤ c.memoria.config.segmentMaxSize.toUInt32) (by decide)
  exact ⟨c, hlibres, asignacion_completa .insercion c hc 1 _ hp 1 5 (by decide) hmax⟩

def stickDeDieciseis : StickNuevo := ⟨1, 16, "", "", fun _ ↦ 0⟩

/-- Two bytes taken by a suspended process are lost when it is resumed, and with them the way to the free
bytes behind them: without a segment left nothing is compacted. -/
theorem asignacion_no_completa :
    ¬ ∀ (qsort : Qsort) (c : Corrida), Reachable (Corrida.paso qsort) Corrida.Inicial Corrida.ConBloques c →
      ∀ pid p, procesosBuscar c.memoria.procesos pid = some p → ∀ id tamanio : UInt32, 1 ≤ tamanio.toNat →
        tamanio ≤ c.memoria.config.segmentMaxSize.toUInt32 → SolicitudCompleta qsort c.memoria pid id tamanio := by
  intro hcompleta
  have hinicio : Reachable (Corrida.paso .insercion) Corrida.Inicial Corrida.ConBloques corridaInicial :=
    .start corridaInicial_inicial
  obtain ⟨c, hc, hp, hmax, hlibres, hrechazo⟩ := hinicio.exists_of_runAllowed
    [.registrarMemoryStick stickDeDieciseis 5, .registrarSwap swapDeOcho, .crearProceso 1 [],
      .solicitarSegmento 1 0 3, .suspenderProceso 1, .crearProceso 2 [], .solicitarSegmento 2 0 2,
      .solicitarSegmento 1 1 2, .desSuspenderProceso 1, .finalizarProceso 1, .finalizarProceso 2,
      .crearProceso 3 []]
    (fun c ↦ procesosBuscar c.memoria.procesos 3 = some ⟨3, .cero, [], []⟩ ∧
      (13 : UInt32) ≤ c.memoria.config.segmentMaxSize.toUInt32 ∧ c.memoria.bytesLibres = 14 ∧
        (manejarSolicitarSegmento .insercion c.memoria 3 0 13).1 =
          [.ok .iniciarCompactacion, .ok .finalizarCompactacion, .ok .segmentationFault]) (by decide +kernel)
  have hconcede := (hcompleta .insercion c hc 3 _ hp 0 13 (by decide) hmax).concede.mpr
  rw [hlibres] at hconcede
  obtain ⟨base, hmem⟩ := hconcede (by decide)
  rw [hrechazo] at hmem
  simp at hmem

end PlugAndPlay.Memoria
